import Provision.Decoding.Mismatch
import Provision.Json.Value
import Provision.Template
import Provision.Unit.Command
import Provision.Unit.Name
import Provision.Value

namespace Provision

/-!
# Actions

An action writes a file, or it issues a command on a unit.  What a file holds is a value that has
been submitted, or a template filled with all of them.
-/

inductive Content where
  /-- The value of a name, as it is. -/
  | value (name : String)
  /-- A template, with its compiled form if it has been compiled. -/
  | template (text : String) (compiled : Option Template)

inductive Task where
  | file (path : String) (content : Content)
  /-- The command is kept as the word that was given for it. -/
  | unit (unit command : String)

structure Action where
  name : String
  task : Task

namespace Content

/-- The content that a value's name or a template describes; it has to be one of them. -/
def ofParts (path : String) : Option String → Option String → Except Mismatch Content
  | some name, none => .ok (value name)
  | none, some text => .ok (template text none)
  | _, _ => .error (.refused ("file " ++ Text.quote path ++
      ": exactly one of 'value' or 'template' must be specified"))

def isCompiled : Content → Bool
  | value _ => false
  | template _ compiled => compiled.isSome

def compile : Content → Content
  | value name => value name
  | template text compiled =>
    if text = "" then template text compiled
    else
      match Template.compile text with
      | .ok t => template text (some t)
      | .error _ => template text compiled

def faults (declared : List Value) : Content → List String
  | value name =>
    if name = "" then ["file value must point at a defined value"]
    else if Value.isDeclared declared name then []
    else ["file value " ++ Text.quote name ++ " was not found"]
  | template text _ =>
    if text = "" then ["file template cannot be empty"]
    else
      match Template.compile text with
      | .ok _ => []
      | .error e => ["failed to parse template: " ++ e]

def json : Content → String × Json
  | value name => ("value", .text name)
  | template text _ => ("template", .text text)

end Content

namespace Task

/-- The task with its template compiled; a file without a path is left as it is. -/
def compile : Task → Task
  | file path content => if path = "" then file path content else file path content.compile
  | unit u command => unit u command

/-- Whether a template has been compiled; `none` where no file is written. -/
def isCompiled? : Task → Option Bool
  | file _ content => some content.isCompiled
  | unit .. => none

def unitFaults (u : String) : List String :=
  (if u = "" then ["unit name cannot be empty"]
    else if !UnitName.valid u then [UnitName.mismatch u]
    else []) ++
    (if UnitName.tooLong u then [UnitName.tooLongMessage] else [])

def faults (declared : List Value) : Task → List String
  | file path content =>
    if path = "" then ["file path cannot be empty"] else content.faults declared
  | unit u command =>
    unitFaults u ++
      (if (UnitCommand.ofText? command).isNone then [UnitCommand.unknownMessage] else [])

def json : Task → String × Json
  | file path content => ("file", .object [("path", .text path), content.json])
  | unit u command => ("systemd", .object [("unit", .text u), ("command", .text command)])

end Task

namespace Action

def ofParts (name : String) : Option Task → Option Task → Except Mismatch Action
  | some task, none => .ok ⟨name, task⟩
  | none, some task => .ok ⟨name, task⟩
  | _, _ => .error (.refused ("action " ++ Text.quote name ++
      ": exactly one of 'file' or 'systemd' must be specified"))

def compile (a : Action) : Action := if a.name = "" then a else { a with task := a.task.compile }

/-- What is wrong with an action.  Without a name nothing else is said about it. -/
def faults (declared : List Value) (a : Action) : List String :=
  if a.name = "" then ["action name cannot be empty"]
  else
    (if !Name.valid a.name then [Name.mismatch "action" a.name] else []) ++
      match a.task.faults declared with
      | [] => []
      | faults => ["action " ++ Text.quote a.name ++ ": " ++ "; ".intercalate faults]

def json (a : Action) : Json := .object [("name", .text a.name), a.task.json]

end Action

end Provision
