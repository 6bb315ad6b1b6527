import Provision.Configuration.Loading
import Provision.Configuration.Validation
import Provision.Network.Listener
import Provision.Server.Basic
import Provision.Settings.Arguments

namespace Provision

/-!
# Start-up

A run reads its settings, loads and validates the configuration, compiles the pipeline, begins to
listen and has itself advertised.  The first of these that fails ends it.
-/

inductive StartupFault where
  | failed (failure : Failure)
  /-- The machine cannot deal with connections. -/
  | noEngine (cause : String)
  | deaf (address : String) (fault : ListenFault)
  /-- The port at which it listens is not known. -/
  | noPort (cause : String)
  | unadvertised (fault : Advertisement.Fault)
  deriving DecidableEq, Repr

/-- The message, with the causes behind it. -/
def StartupFault.report : StartupFault → String
  | failed failure => ": ".intercalate failure.chain
  | noEngine cause => cause
  | deaf address fault => "failed to listen on " ++ address ++ ": " ++ fault.message
  | noPort cause => cause
  | unadvertised fault => fault.message

inductive Run where
  /-- It has ended with a code and perhaps with an error. -/
  | ended (code : Nat) (error : Option String)
  /-- It serves, and the lines have been logged since it listens. -/
  | serves (server : Server) (listener : Listener) (log : List LogLine)

namespace Startup

def validLine (c : Configuration) : LogLine := ⟨.debug, "configuration is valid", c.counts⟩

def configuration (t : FileTree) (patterns : List String) : Except Failure Configuration := do
  let (c, messages) := (← Configuration.load t patterns).validate
  if messages = [] then return c else throw (.invalid messages)

def listen (n : Network) (settings : Settings) : Except StartupFault Listener := do
  n.engine.mapError .noEngine
  let address := Listener.complete settings.listen
  (Listener.bind n address.toList).mapError (.deaf address)

/-- Has it advertised where one listens, unless the settings forbid it. -/
def advertise (n : Network) (settings : Settings) (l : Listener) :
    Except StartupFault (List LogLine) := do
  let port ← (n.portOf l).mapError .noPort
  if settings.silent then return []
  let advertisement := Advertisement.of settings.id settings.address port
  return [← (advertisement.publish n.advertiser).mapError .unadvertised]

def serve (n : Network) (settings : Settings) (c : Configuration) :
    Except StartupFault (Server × Listener × List LogLine) := do
  let server ← (Server.ofConfiguration c settings.interface).mapError .failed
  let listener ← listen n settings
  return (server, listener, ← advertise n settings listener)

def start (t : FileTree) (n : Network) (settings : Settings) :
    Except StartupFault (Server × Listener × List LogLine) := do
  serve n settings (← (configuration t settings.patterns).mapError .failed)

/-- What is logged on the way, whether or not it is shown. -/
def log (t : FileTree) (settings : Settings) : List LogLine :=
  Configuration.loadLog t settings.patterns ++
    match configuration t settings.patterns with
    | .ok c => [validLine c]
    | .error _ => []

def span : String := "onboard"

def shown (settings : Settings) (lines : List LogLine) : List Json :=
  if settings.format = .json then
    (lines.filter (LogLine.isShown settings.level)).map (LogLine.entry span)
  else []

def shownLog (t : FileTree) (settings : Settings) : List Json := shown settings (log t settings)

def failureCode : Nat := 1

def usageCode : Nat := 2

def errorText (message : String) : String := "error: " ++ message

def run (t : FileTree) (n : Network) (settings : Settings) : Run :=
  match start t n settings with
  | .ok (server, listener, log) => .serves server listener log
  | .error fault => .ended failureCode (some (errorText fault.report))

def interrupted : Interruption → Run
  | .refused fault => .ended usageCode (some (errorText fault.message))
  | .answered => .ended 0 none

end Startup

end Provision
