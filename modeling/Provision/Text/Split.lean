namespace Provision.Text

/-!
# Texts in pieces

`split` cuts a text at every separator, `cutLast` at the last one, and `lines` at the ends of lines.
The pieces of `split`, joined by the separator, are the text again.
-/

/-- The pieces between the separators; there is one more of them than separators. -/
def split {α : Type} [DecidableEq α] (sep : α) : List α → List (List α)
  | [] => [[]]
  | c :: rest =>
    match split sep rest with
    | [] => [[c]]
    | piece :: pieces => if c = sep then [] :: piece :: pieces else (c :: piece) :: pieces

def cutFirst {α : Type} [DecidableEq α] (sep : α) : List α → Option (List α × List α)
  | [] => none
  | c :: rest =>
    if c = sep then some ([], rest)
    else (cutFirst sep rest).map fun (before, after) => (c :: before, after)

def cutLast {α : Type} [DecidableEq α] (sep : α) : List α → Option (List α × List α)
  | [] => none
  | c :: rest =>
    match cutLast sep rest with
    | some (before, after) => some (c :: before, after)
    | none => if c = sep then some ([], rest) else none

/-- What follows the last separator, or everything if there is none. -/
def afterLast {α : Type} [DecidableEq α] (sep : α) (cs : List α) : List α :=
  match cutLast sep cs with
  | some (_, after) => after
  | none => cs

/-- The lines of a text.  A line ends at `feed`, together with a `ret` directly before it; what is
left after the last end is a line if it is not empty. -/
def lines {α : Type} [DecidableEq α] (feed ret : α) : List α → List (List α)
  | [] => []
  | c :: rest =>
    if c = feed then [] :: lines feed ret rest
    else if c = ret ∧ rest.head? = some feed then lines feed ret rest
    else
      match lines feed ret rest with
      | [] => [[c]]
      | line :: more => (c :: line) :: more

theorem split_ne_nil {α : Type} [DecidableEq α] (sep : α) (cs : List α) : split sep cs ≠ [] := by
  cases cs with
  | nil => simp [split]
  | cons c rest =>
    rw [split]
    split
    · simp
    · split <;> simp

@[simp] theorem split_nil {α : Type} [DecidableEq α] (sep : α) : split sep [] = [[]] := rfl

theorem split_cons_self {α : Type} [DecidableEq α] (sep : α) (rest : List α) :
    split sep (sep :: rest) = [] :: split sep rest := by
  cases h : split sep rest with
  | nil => exact absurd h (split_ne_nil sep rest)
  | cons piece pieces => simp [split, h]

theorem split_cons_of_ne {α : Type} [DecidableEq α] {sep c : α} (rest : List α) (h : c ≠ sep) :
    split sep (c :: rest) =
      (c :: (split sep rest).headD []) :: (split sep rest).tail := by
  cases hs : split sep rest with
  | nil => exact absurd hs (split_ne_nil sep rest)
  | cons piece pieces => simp [split, hs, h]

@[simp] theorem cutLast_nil {α : Type} [DecidableEq α] (sep : α) : cutLast sep [] = none := rfl

@[simp] theorem lines_nil {α : Type} [DecidableEq α] (feed ret : α) : lines feed ret [] = [] := rfl

end Provision.Text
