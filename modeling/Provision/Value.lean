import Provision.Json.Value
import Provision.Name

namespace Provision

/-!
# Values

A value is an input that the operator supplies.
-/

/-- The declaration of a value.  A secret one is masked where it is typed in. -/
structure Value where
  name : String
  description : String
  secret : Bool
  deriving DecidableEq, Repr, Inhabited

namespace Value

def faults (v : Value) : List String :=
  if v.name = "" then ["value name cannot be empty"]
  else if !Name.valid v.name then [Name.mismatch "value" v.name]
  else []

def isDeclared (values : List Value) (name : String) : Bool := values.any fun v => v.name = name

def json (v : Value) : Json :=
  .object [("name", .text v.name), ("description", .text v.description), ("secret", .bool v.secret)]

theorem isDeclared_iff {values : List Value} {name : String} :
    isDeclared values name = true ↔ ∃ v ∈ values, v.name = name := by
  simp [isDeclared]

end Value

end Provision
