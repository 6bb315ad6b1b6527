import Provision.Text.Blank
import Provision.Text.Alphanumeric
import Provision.Text.Quoted
import Provision.Text.Lowercase
import Provision.Text.Split
import Provision.Decimal.Shortest
import Provision.Name
import Provision.Unit.Name
import Provision.Unit.Command
import Provision.Unit.Status
import Provision.Json.Value
import Provision.Server.Endpoint
import Provision.Server.Journal
import Provision.Server.Page
import Provision.Server.Link
import Provision.Advertisement
import Provision.Yaml.Meaning
import Provision.Yaml.Decoder
import Provision.Template
import Provision.Configuration.Validation
import Provision.Configuration.Loading
import Provision.Configuration.Json
import Provision.Pipeline
import Provision.Session
import Provision.Startup
import Provision.Main
import Provision.Proofs.Configuration.WellFormed
import Provision.Proofs.Pipeline.Recording
import Provision.Proofs.Files.Write
import Provision.Proofs.Pipeline.Interpretation
import Provision.Proofs.Onboarding.Service
import Provision.Proofs.Onboarding.Exclusion
import Provision.Proofs.Onboarding.Sequential
import Provision.Proofs.Configuration.PatternOrder
import Provision.Proofs.Page.Injection
import Provision.Proofs.Page.Script
import Provision.Proofs.Onboarding.Secrecy
import Provision.Proofs.Pipeline.Resubmission
import Provision.Proofs.Pipeline.Influence
import Provision.Proofs.Pipeline.Compilation
import Provision.Proofs.Configuration.RoundTrip
import Provision.Proofs.Configuration.Merging
import Provision.Proofs.Configuration.Rules
import Provision.Proofs.Server.Calls
import Provision.Proofs.Server.Readability
import Provision.Proofs.Server.Serving
import Provision.Proofs.Server.Provisioning
import Provision.Proofs.Pipeline.Failing
import Provision.Proofs.Configuration.Blocks
import Provision.Proofs.Configuration.LoadOrder
import Provision.Proofs.Template.Reference
import Provision.Proofs.Startup.Process
import Provision.Proofs.Template.Chunks
import Provision.Proofs.Recognition
import Provision.Proofs.Configuration.Units
import Provision.Proofs.Server.Pages
import Provision.Proofs.Text.Lines
import Provision.Proofs.Server.Endpoints
import Provision.Proofs.Server.Following
import Provision.Proofs.Configuration.Validating
import Provision.Proofs.Configuration.Declaring
import Provision.Proofs.Unit.Status
import Provision.Proofs.Configuration.NullSections
import Provision.Proofs.Server.Links
