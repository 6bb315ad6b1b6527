namespace Provision

/-!
# Unit commands

The commands that an action may issue on a unit.
-/

inductive UnitCommand where
  | start
  | stop
  | restart
  | enable
  | disable
  deriving DecidableEq, Repr, Inhabited

namespace UnitCommand

/-- Every command, in the order in which messages list them. -/
def all : List UnitCommand := [start, stop, restart, enable, disable]

def text : UnitCommand → String
  | start => "start"
  | stop => "stop"
  | restart => "restart"
  | enable => "enable"
  | disable => "disable"

def ofText? (word : String) : Option UnitCommand := all.find? fun c => c.text = word

def unknownMessage : String :=
  "systemd command must be one of: " ++ ",".intercalate (all.map text)

theorem mem_all (c : UnitCommand) : c ∈ all := by
  cases c <;> simp [all]

@[simp] theorem ofText?_text (c : UnitCommand) : ofText? c.text = some c := by
  cases c <;> rfl

theorem text_of_ofText? {word : String} {c : UnitCommand} (h : ofText? word = some c) :
    c.text = word := by
  simpa using List.find?_some h

end UnitCommand

end Provision
