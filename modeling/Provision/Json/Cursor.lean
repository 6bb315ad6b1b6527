import Provision.Json.Fault

namespace Provision.Json

/-!
# Reading a JSON document from left to right

A decoder moves a cursor over the bytes of a document.  When it fails it leaves the cursor where it
stands: the place of a mismatch depends on how far the enclosing value has been read.
-/

/-- The bytes that are still to be read, and the place of the first of them. -/
structure Cursor where
  place : Place
  rest : List UInt8
  deriving Repr, Inhabited

def placeAfter (p : Place) (b : UInt8) : Place :=
  if b = 0x0A then ⟨p.line + 1, 0⟩ else ⟨p.line, p.column + 1⟩

namespace Cursor

def start (bytes : List UInt8) : Cursor := ⟨⟨1, 0⟩, bytes⟩

def next : Cursor → Cursor
  | ⟨p, []⟩ => ⟨p, []⟩
  | ⟨p, b :: rest⟩ => ⟨placeAfter p b, rest⟩

def isSpace (b : UInt8) : Bool := b = 0x20 || b = 0x0A || b = 0x09 || b = 0x0D

def skipSpaces (p : Place) : List UInt8 → Cursor
  | [] => ⟨p, []⟩
  | b :: rest => if isSpace b then skipSpaces (placeAfter p b) rest else ⟨p, b :: rest⟩

def isDigit (b : UInt8) : Bool := 0x30 ≤ b && b ≤ 0x39

def digits (p : Place) : List UInt8 → List Nat × Cursor
  | [] => ([], ⟨p, []⟩)
  | b :: rest =>
    if isDigit b then
      let (ds, k) := digits (placeAfter p b) rest
      ((b.toNat - 0x30) :: ds, k)
    else ([], ⟨p, b :: rest⟩)

theorem length_skipSpaces (p : Place) (bytes : List UInt8) :
    (skipSpaces p bytes).rest.length ≤ bytes.length := by
  induction bytes generalizing p with
  | nil => simp [skipSpaces]
  | cons b rest ih =>
    rw [skipSpaces]
    split
    · exact Nat.le_succ_of_le (ih _)
    · exact Nat.le_refl _

end Cursor

abbrev Decoder (α : Type) : Type := EStateM Failure Cursor α

namespace Decoder

def failHere {α : Type} (fault : Fault) : Decoder α :=
  fun k => .error ⟨fault, some k.place⟩ k

def failNext {α : Type} (fault : Fault) : Decoder α :=
  fun k => .error ⟨fault, some k.next.place⟩ k

def fail {α : Type} (m : Mismatch) : Decoder α := fun k => .error ⟨.mismatch m, none⟩ k

/-- Gives a mismatch without a place the one that has been reached. -/
def located {α : Type} (d : Decoder α) : Decoder α := fun k =>
  match d k with
  | .error ⟨fault, none⟩ k' => .error ⟨fault, some k'.place⟩ k'
  | r => r

/-- Reads what is inside of brackets, and what closes them.  A failure inside is the one that
counts, but the end is looked for all the same. -/
def enclosed {α : Type} (inside : Decoder α) (close : Decoder Unit) : Decoder α := fun k =>
  match inside k with
  | .ok a k' =>
    match close k' with
    | .ok _ k'' => .ok a k''
    | .error e k'' => .error e k''
  | .error e k' =>
    match close k' with
    | .ok _ k'' => .error e k''
    | .error _ k'' => .error e k''

def peek : Decoder (Option UInt8) := fun k => .ok k.rest.head? k

def peekValue : Decoder (Option UInt8) := fun k =>
  let k' := Cursor.skipSpaces k.place k.rest
  .ok k'.rest.head? k'

def advance : Decoder Unit := fun k => .ok () k.next

def digits : Decoder (List Nat) := fun k =>
  let (ds, k') := Cursor.digits k.place k.rest
  .ok ds k'

def word : List UInt8 → Decoder Unit
  | [] => pure ()
  | expected :: more => do
    match ← peek with
    | none => failHere .endInValue
    | some b =>
      advance
      if b = expected then word more else failHere .expectedWord

end Decoder

end Provision.Json
