import Provision.Log
import Provision.Network.Address
import Provision.Settings.Setting

namespace Provision

/-!
# Settings

What a user may decide about a run of the program.  Values are checked as they are set.
-/

inductive LogFormat where
  | pairs
  | json
  deriving DecidableEq, Repr, Inhabited

namespace LogFormat

def all : List LogFormat := [pairs, json]

def text : LogFormat → String
  | pairs => "logfmt"
  | json => "json"

def ofText? (word : String) : Option LogFormat := all.find? fun f => f.text = word

end LogFormat

structure Settings where
  patterns : List String := []
  listen : String := "0.0.0.0:8080"
  id : String := ""
  address : Address := .short [10, 0, 0, 1]
  interface : String := "wlan0"
  silent : Bool := false
  level : LogLevel := .info
  format : LogFormat := .pairs
  name : String := "onboard"
  deriving DecidableEq, Repr, Inhabited

inductive UsageFault where
  | unexpected (argument : String)
  | missingValue (s : Setting)
  | wrongValue (s : Setting) (value : String)
  | repeated (s : Setting)
  /-- A value is given for something that takes none. -/
  | unneededValue (argument value : String)
  deriving DecidableEq, Repr

namespace UsageFault

def hint : Setting → String
  | .address => ": invalid IP address syntax"
  | _ => ""

def message : UsageFault → String
  | unexpected argument => "unexpected argument '" ++ argument ++ "' found"
  | missingValue s => "a value is required for '" ++ s.text ++ "' but none was supplied"
  | wrongValue s value => "invalid value '" ++ value ++ "' for '" ++ s.text ++ "'" ++ hint s
  | repeated s => "the argument '" ++ s.text ++ "' cannot be used multiple times"
  | unneededValue argument value =>
    "unexpected value '" ++ value ++ "' for '" ++ argument ++ "' found; no more were expected"

end UsageFault

namespace Settings

def truth? (word : String) : Option Bool :=
  if word = "true" then some true else if word = "false" then some false else none

/-- The value of a setting that is one of several words; no word at all is no value. -/
def choose {α : Type} (s : Setting) (ofText? : String → Option α) (value : String) :
    Except UsageFault α :=
  match ofText? value with
  | some a => .ok a
  | none => .error (if value = "" then .missingValue s else .wrongValue s value)

def set (settings : Settings) (s : Setting) (value : String) : Except UsageFault Settings :=
  match s with
  | .patterns => return { settings with patterns := settings.patterns ++ [value] }
  | .listen => return { settings with listen := value }
  | .id => return { settings with id := value }
  | .address =>
    match Address.ofText? value.toList with
    | some address => return { settings with address := address }
    | none => throw (.wrongValue s value)
  | .interface => return { settings with interface := value }
  | .silent => return { settings with silent := ← choose s truth? value }
  | .level => return { settings with level := ← choose s LogLevel.ofText? value }
  | .format => return { settings with format := ← choose s LogFormat.ofText? value }
  | .name => return { settings with name := value }

end Settings

end Provision
