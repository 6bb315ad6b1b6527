import Provision.Action
import Provision.Check

namespace Provision

/-!
# Configurations

A configuration declares actions, checks and values.  Their order is the order in which they were
declared, and actions are executed in it.
-/

structure Configuration where
  actions : List Action
  checks : List Check
  values : List Value

namespace Configuration

def empty : Configuration := ⟨[], [], []⟩

/-- What two configurations declare, the first before the second. -/
def merge (c d : Configuration) : Configuration :=
  ⟨c.actions ++ d.actions, c.checks ++ d.checks, c.values ++ d.values⟩

def json (c : Configuration) : Json :=
  .object [("actions", .list (c.actions.map Action.json)),
    ("checks", .list (c.checks.map Check.json)), ("values", .list (c.values.map Value.json))]

@[simp] theorem empty_merge (c : Configuration) : empty.merge c = c := rfl

@[simp] theorem merge_empty (c : Configuration) : c.merge empty = c := by
  simp [merge, empty]

/-- It does not matter how several documents are grouped when they are merged. -/
theorem merge_assoc (c d e : Configuration) : (c.merge d).merge e = c.merge (d.merge e) := by
  simp [merge]

end Configuration

end Provision
