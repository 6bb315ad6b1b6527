namespace Provision.Text

/-!
# Sets of code points by their change points

A property of code points is stored as the increasing list of the code points at which it starts
or stops to hold.  A code point has the property iff an odd number of change points lies at or
below it.
-/

/-- Whether `c` lies in the set whose change points are listed in increasing order. -/
def changesAt : List Nat → Nat → Bool
  | [], _ => false
  | a :: rest, c => if c < a then false else !changesAt rest c

@[simp] theorem changesAt_nil (c : Nat) : changesAt [] c = false := rfl

theorem changesAt_of_lt {a c : Nat} (rest : List Nat) (h : c < a) :
    changesAt (a :: rest) c = false := by
  simp [changesAt, h]

theorem changesAt_of_le {a c : Nat} (rest : List Nat) (h : a ≤ c) :
    changesAt (a :: rest) c = !changesAt rest c := by
  simp [changesAt, Nat.not_lt.mpr h]

end Provision.Text
