import Provision.Configuration.Loading
import Provision.Configuration.Validation
import Provision.Server.Exchange

namespace Provision

/-!
# Sessions

A session sets a device up by hand.  It has a configuration, a pipeline, a server and the files and
programs of the device.  What fails leaves the session as it was, but for what was done to files and
programs before.
-/

structure Session where
  configuration : Configuration
  pipeline : Option Pipeline
  server : Option Server
  /-- Whether requests are answered as if another run went on. -/
  busy : Bool
  world : World Programs

namespace Session

def fullFile : Location := ["dev".toList, "full".toList]

/-- The file of the number that says how readily the system ends a process. -/
def scoreFile : Location := ["proc".toList, "self".toList, "oom_score_adj".toList]

/-- How many bytes a file of the system takes, and why it refuses those that follow.  Of what is
written to the score of a process twelve bytes are read as a number, and the rest as another one. -/
def portion? (l : Location) : Option (Nat × SystemError) :=
  [(fullFile, 0, .noSpace), (scoreFile, 12, .invalidArgument)].lookup l

def medium : Medium := fun l data => (portion? l).filter fun (count, _) => count < data.length

def host : Host Programs := .ofRunner medium Programs.run

/-- What there is beside the directory that a session works in. -/
def surroundings : List (Location × Entry) :=
  [(["dev".toList], .directory), (fullFile, .file []), (["proc".toList], .directory),
    (["proc".toList, "self".toList], .directory), (scoreFile, .file (Text.utf8 "0\n"))]

def start (files : FileTree) (programs : Programs) : Session :=
  ⟨.empty, none, none, false, .of (files.within "home".toList surroundings) programs⟩

def replace (s : Session) (document : String) : Except Yaml.Failure Session := do
  return { s with configuration := ← Configuration.parse document }

def merge (s : Session) (document : String) : Except Yaml.Failure Session := do
  return { s with configuration := s.configuration.merge (← Configuration.parse document) }

def load (s : Session) (patterns : List String) : Except Failure Session := do
  return { s with configuration := ← Configuration.load s.world.files patterns }

/-- Validates the configuration, which compiles its templates. -/
def validate (s : Session) : Session := { s with configuration := s.configuration.validate.1 }

def compile (s : Session) : Except Failure Session := do
  return { s with pipeline := some (← Pipeline.compile s.configuration) }

def execute (s : Session) (p : Pipeline) (submission : Submission) : Option Failure × Session :=
  let outcome := p.execute host.toMachine submission s.world
  (outcome.failure, { s with world := outcome.world })

def withPrograms (s : Session) (programs : Programs) : Session :=
  { s with world := { s.world with programs := programs } }

def withFiles (s : Session) (files : FileTree) : Session :=
  { s with world := { s.world with files := files } }

def run (s : Session) (command : UnitCommand) (unit : String) : Except Failure Unit × Session :=
  let (result, d) := host.units.run command unit s.world.toDevice
  (result, { s with world := { s.world with toDevice := d } })

def status (s : Session) (unit : String) : Except Failure UnitStatus × Session :=
  let (result, d) := host.units.status unit s.world.toDevice
  (result, { s with world := { s.world with toDevice := d } })

def serve (s : Session) (interface : String) : Except Failure Session := do
  return { s with
    server := some (← Server.ofConfiguration s.configuration interface), busy := false }

def request (s : Session) (server : Server) (r : Request) : Response × Session :=
  let exchange := server.answer host s.busy r s.world
  (exchange.response, { s with world := exchange.world })

def forget (s : Session) : Session :=
  s.withPrograms { s.world.programs with calls := [] }

end Session

end Provision
