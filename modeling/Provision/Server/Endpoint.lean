import Provision.Text.Split

namespace Provision

/-!
# Endpoints

An endpoint is a host and a port, joined by a colon.  A host with colons of its own stands in
brackets.
-/

structure Endpoint where
  host : List Char
  port : List Char
  deriving DecidableEq, Repr, Inhabited

namespace Endpoint

def unbracket? (inner : List Char) : Option (List Char) :=
  match inner.reverse with
  | ']' :: host => some host.reverse
  | _ => none

/-- Cuts an endpoint at its last colon.  A host that begins with a bracket has to end with one; any
other host may contain neither a colon nor a closing bracket. -/
def parse? (endpoint : List Char) : Option Endpoint :=
  match Text.cutLast ':' endpoint with
  | none => none
  | some ('[' :: inner, port) => (unbracket? inner).map (⟨·, port⟩)
  | some (host, port) => if ':' ∈ host ∨ ']' ∈ host then none else some ⟨host, port⟩

@[simp] theorem unbracket?_append (host : List Char) : unbracket? (host ++ [']']) = some host := by
  simp [unbracket?]

end Endpoint

end Provision
