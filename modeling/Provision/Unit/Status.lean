import Provision.Json.Value
import Provision.Text.Blank
import Provision.Text.Split

namespace Provision

/-!
# Unit status

The properties `Result` and `SubState` of a unit, as they are read from lines `KEY=TEXT`.  A later
line overrides an earlier one; lines of any other form do not count.
-/

structure UnitStatus where
  result : String
  subState : String
  deriving DecidableEq, Repr, Inhabited

namespace UnitStatus

def empty : UnitStatus := ⟨"", ""⟩

def readLine (status : UnitStatus) (line : List Char) : UnitStatus :=
  match Text.split '=' (Text.trim line) with
  | [key, value] =>
    if key = "Result".toList then { status with result := String.ofList value }
    else if key = "SubState".toList then { status with subState := String.ofList value }
    else status
  | _ => status

def parse (output : String) : UnitStatus :=
  (Text.lines '\n' '\r' output.toList).foldl readLine empty

def json (status : UnitStatus) : Json :=
  .object [("result", .text status.result), ("subState", .text status.subState)]

end UnitStatus

end Provision
