import Provision.SystemError
import Provision.Text.Quoted
import Provision.Yaml.Fault

namespace Provision

/-!
# Failures

Why a configuration cannot be used, or why it could not be applied.
-/

inductive Failure where
  /-- A pattern of file names is malformed. -/
  | invalidPattern (pattern cause : String)
  | unreadable (path : String) (cause : SystemError)
  | malformedFile (path : String) (cause : Yaml.Failure)
  /-- A document that is not in a file cannot be read. -/
  | malformed (cause : Yaml.Failure)
  | invalid (messages : List String)
  | templateNotCompiled (path : String)
  | unrenderable (cause : String)
  | unwritable (path : String) (cause : SystemError)
  | notStarted (program cause : String)
  /-- A program has ended without success. -/
  | notSuccessful (program : String) (arguments : List String) (status complaint : String)
  /-- An action has failed. -/
  | action (name : String) (cause : Failure)
  deriving DecidableEq, Repr

namespace Failure

def message (failure : Failure)
    (explain : List Char → String := Yaml.Failure.unexplained) : String :=
  match failure with
  | invalidPattern pattern cause =>
    "failed to find matches for path " ++ Text.quote pattern ++ ": " ++ cause
  | unreadable path cause => "failed to read file " ++ Text.quote path ++ ": " ++ cause.message
  | malformedFile path cause =>
    "failed to read YAML from file " ++ Text.quote path ++ ": " ++ cause.message explain
  | malformed cause => cause.message explain
  | invalid messages =>
    "configuration contains validation errors: " ++ "; ".intercalate messages
  | templateNotCompiled path =>
    "template for " ++ Text.quote path ++ " was not compiled; validate the configuration first"
  | unrenderable cause => "failed to execute template: " ++ cause
  | unwritable path cause => "failed to open file " ++ Text.quote path ++ ": " ++ cause.message
  | notStarted program cause => "failed to run " ++ program ++ ": " ++ cause
  | notSuccessful program arguments status complaint =>
    program ++ " " ++ " ".intercalate arguments ++ " exited with " ++ status ++ ": " ++ complaint
  | action name cause =>
    "failed to execute action " ++ Text.quote name ++ ": " ++ cause.message explain

/-- The message of a failure, followed by those of the causes that are known by themselves.  Of a
text that is not YAML there is no more to say. -/
def chain : Failure → List String
  | unreadable path cause => [message (unreadable path cause), cause.message]
  | malformedFile path (.broken text) => [message (malformedFile path (.broken text))]
  | malformedFile path cause => [message (malformedFile path cause), cause.message]
  | unwritable path cause => [message (unwritable path cause), cause.message]
  | action name cause => message (action name cause) :: chain cause
  | failure => [message failure]

end Failure

end Provision
