import Provision.Template.Token

namespace Provision.Template

/-!
# The tokens of a whole template

`tokens` alternates between plain text and actions.  It ends because each step of an action leaves
less to read (`Step.length_rest_next_lt`).
-/

open Text

namespace Step

@[simp] theorem rest_token (t : Token) (rest : List Char) (line depth : Nat) :
    (token t rest line depth).rest = rest := rfl

@[simp] theorem rest_close (t : Token) (rest : List Char) (line : Nat) :
    (close t rest line).rest = rest := rfl

@[simp] theorem rest_stop (ts : List Token) : (stop ts).rest = [] := rfl

@[simp] theorem rest_failure (message : List Char) (line : Nat) :
    (failure message line).rest = [] := rfl

@[simp] theorem rest_brokenOff : brokenOff.rest = [] := rfl

@[simp] theorem rest_plain (kind : Kind) (source rest : List Char) (line depth : Nat) :
    (plain kind source rest line depth).rest = rest := rfl

@[simp] theorem rest_plain' (kind : Kind) (c : Char) (rest : List Char) (line depth : Nat) :
    (next.plain' kind c rest line depth).rest = rest := rfl

theorem length_rest_endWord (kind : Kind) (source rest : List Char) (line depth : Nat) :
    (endWord kind source rest line depth).rest.length ≤ rest.length := by
  unfold endWord
  split
  · split <;> simp
  · split
    · simp
    · split <;> simp

theorem length_rest_name (kind lone : Kind) (first : Char) (cs : List Char) (line depth : Nat) :
    (name kind lone first cs line depth).rest.length ≤ cs.length := by
  unfold name
  split
  · split <;> simp
  · split
    · simp
    · split
      · simp
      · exact Nat.le_trans (length_rest_endWord ..) (length_dropWhile_le _ _)

theorem length_rest_word {c : Char} (cs : List Char) (line depth : Nat) (h : isWord c = true) :
    (word (c :: cs) line depth).rest.length ≤ cs.length := by
  unfold word
  refine Nat.le_trans (length_rest_endWord ..) ?_
  simp only [List.dropWhile_cons, h, if_true]
  exact length_dropWhile_le _ _

theorem length_rest_blanks (first : Char) (cs : List Char) (line depth : Nat) :
    (blanks first cs line depth).rest.length ≤ cs.length := by
  unfold blanks
  split
  · simp
  · next c rest h =>
    have := length_dropWhile_le (fun c => isAscii c && isBlank c) cs
    rw [h] at this
    split
    · simp
    · simpa using this

theorem length_closing {quote : Char} {escaped : Bool} {cs source rest : List Char}
    (h : closing quote escaped cs = .ok (source, rest)) : rest.length ≤ cs.length := by
  induction cs generalizing escaped source with
  | nil => simp [closing] at h
  | cons c cs ih =>
    unfold closing at h
    split at h
    · cases hc : closing quote true cs with
      | error e => simp [hc, Except.map] at h
      | ok p =>
        simp only [hc, Except.map, Except.ok.injEq, Prod.mk.injEq] at h
        obtain ⟨-, rfl⟩ := h
        exact Nat.le_succ_of_le (ih hc)
    · split at h
      · simp at h
      · split at h
        · simp only [Except.ok.injEq, Prod.mk.injEq] at h
          simp [h.2]
        · cases hc : closing quote false cs with
          | error e => simp [hc, Except.map] at h
          | ok p =>
            simp only [hc, Except.map, Except.ok.injEq, Prod.mk.injEq] at h
            obtain ⟨-, rfl⟩ := h
            exact Nat.le_succ_of_le (ih hc)

theorem length_rest_quoted (kind : Kind) (quote : Char) (message : String) (cs : List Char)
    (line depth : Nat) : (quoted kind quote message cs line depth).rest.length ≤ cs.length := by
  unfold quoted
  split
  · next h => simpa using length_closing h
  · simp

theorem length_rest_raw (cs : List Char) (line depth : Nat) :
    (raw cs line depth).rest.length ≤ cs.length := by
  unfold raw
  dsimp only
  split
  · simp
  · next q rest h =>
    have := length_dropWhile_le (fun c => decide (c ≠ '\x60')) cs
    rw [h] at this
    simp only [rest_token]
    simp only [List.length_cons] at this
    omega

theorem length_rest_finish (trimming : Bool) (rest : List Char) (line depth : Nat) :
    (finish trimming rest line depth).rest.length ≤ rest.length := by
  unfold finish
  split
  · simp only [rest_close]
    split
    · exact length_dropWhile_le _ _
    · exact Nat.le_refl _
  · simp

theorem length_splitSignMark (cs : List Char) : (splitSignMark cs).2.length ≤ cs.length := by
  unfold splitSignMark
  split <;> simp

theorem length_splitFraction (cs : List Char) : (splitFraction cs).2.length ≤ cs.length := by
  unfold splitFraction
  split
  · exact Nat.le_succ_of_le (length_dropWhile_le _ _)
  · simp

theorem length_splitExponent (cs : List Char) : (splitExponent cs).2.length ≤ cs.length := by
  unfold splitExponent
  split
  · next cs =>
    exact Nat.le_succ_of_le (Nat.le_trans (length_dropWhile_le _ _) (length_splitSignMark cs))
  · next cs =>
    exact Nat.le_succ_of_le (Nat.le_trans (length_dropWhile_le _ _) (length_splitSignMark cs))
  · simp

theorem length_splitDecimal (cs : List Char) :
    (splitDecimal cs).2.length ≤ (cs.dropWhile Char.isDigit).length :=
  Nat.le_trans (length_splitExponent _) (length_splitFraction _)

theorem length_splitUnsigned (cs : List Char) : (splitUnsigned cs).2.length ≤ cs.length := by
  unfold splitUnsigned
  split
  · next cs => exact Nat.le_succ_of_le (Nat.le_succ_of_le (length_dropWhile_le isHexDigit cs))
  · next cs => exact Nat.le_succ_of_le (Nat.le_succ_of_le (length_dropWhile_le isHexDigit cs))
  · exact Nat.le_trans (length_splitDecimal cs) (length_dropWhile_le _ _)

theorem length_splitUnsigned_digit {c : Char} (cs : List Char) (h : c.isDigit = true) :
    (splitUnsigned (c :: cs)).2.length ≤ cs.length := by
  unfold splitUnsigned
  split
  · next cs' hc =>
    cases hc
    exact Nat.le_succ_of_le (length_dropWhile_le _ _)
  · next cs' hc =>
    cases hc
    exact Nat.le_succ_of_le (length_dropWhile_le _ _)
  · refine Nat.le_trans (length_splitDecimal _) ?_
    simp only [List.dropWhile_cons, h, if_true]
    exact length_dropWhile_le _ _

/-- A number begins with a sign, a digit, or a point before a digit. -/
def beginsNumber : List Char → Bool
  | [] => false
  | c :: cs => c == '+' || c == '-' || c.isDigit || (c == '.' && cs.head?.any Char.isDigit)

theorem length_splitNumber_lt {cs : List Char} (h : beginsNumber cs = true) :
    (splitNumber cs).2.length < cs.length := by
  unfold splitNumber
  dsimp only
  unfold splitSignMark
  split
  · exact Nat.lt_succ_of_le (length_splitUnsigned _)
  · exact Nat.lt_succ_of_le (length_splitUnsigned _)
  · next hp hm =>
    cases cs with
    | nil => simp [beginsNumber] at h
    | cons c cs =>
      by_cases hd : c.isDigit = true
      · exact Nat.lt_succ_of_le (length_splitUnsigned_digit cs hd)
      · have hc : c = '.' := by
          simp only [beginsNumber, Bool.or_eq_true, beq_iff_eq, Bool.and_eq_true, hd] at h
          rcases h with ((h | h) | h) | h
          · exact absurd (by rw [h]) (hp cs)
          · exact absurd (by rw [h]) (hm cs)
          · simp at h
          · exact h.1
        subst hc
        change (splitDecimal ('.' :: cs)).2.length < _
        have : (splitDecimal ('.' :: cs)).2.length ≤ cs.length :=
          Nat.le_trans (length_splitExponent _) (length_dropWhile_le Char.isDigit cs)
        exact Nat.lt_succ_of_le this

theorem length_rest_number (cs : List Char) (line depth : Nat) :
    (number cs line depth).rest.length ≤ (splitNumber cs).2.length := by
  unfold number
  dsimp only
  split
  · split
    · simp
    · split <;> simp
  · next c rest h =>
    split
    · simp
    · split
      · simp
      · simp [h]

/-- A step of an action leaves less to read. -/
theorem length_rest_next_lt {c : Char} (cs : List Char) (line depth : Nat) :
    (next (c :: cs) line depth).rest.length < (c :: cs).length := by
  have aux {n : Nat} (h : n ≤ cs.length) : n < (c :: cs).length := Nat.lt_succ_of_le h
  unfold next
  split
  · simp
  · next h =>
    cases h
    exact Nat.lt_succ_of_le (Nat.le_succ_of_le (length_rest_finish ..))
  · next h =>
    cases h
    exact Nat.lt_add_right 3 (Nat.lt_succ_of_le (length_rest_finish ..))
  · simp
  · simp
  · next h => cases h; exact aux (length_rest_quoted ..)
  · next h => cases h; exact aux (length_rest_quoted ..)
  · next h => cases h; exact aux (length_rest_raw ..)
  · next h => cases h; exact aux (length_rest_name ..)
  · next h => cases h; simp
  · next h =>
    cases h
    split <;> simp
  · next h => cases h; exact Nat.lt_add_right 1 (Nat.lt_succ_self _)
  · simp
  · next h => cases h; simp
  · next h =>
    cases h
    split
    · next hd =>
      refine Nat.lt_of_le_of_lt (length_rest_number ..) (length_splitNumber_lt ?_)
      simp [beginsNumber, hd]
    · exact aux (length_rest_name ..)
  · next h =>
    cases h
    split
    · next hd =>
      refine Nat.lt_of_le_of_lt (length_rest_number ..) (length_splitNumber_lt ?_)
      simp only [beginsNumber, Bool.or_eq_true, beq_iff_eq]
      rcases hd with hd | hd | hd <;> simp [hd]
    · split
      · exact aux (length_rest_blanks ..)
      · split
        · next hw =>
          split
          · exact aux (length_rest_word cs line depth hw)
          · simp
        · split <;> simp

end Step

/-- The text before an action whose opening delimiter asks for it to be trimmed.  A text whose last
character that is no white space has several bytes would be cut inside that character. -/
def trimmedBefore? (before : List Char) : Option (List Char) :=
  let shown := trimEnd before
  if isAscii (shown.getLastD ' ') then some shown else none

def textToken (source : List Char) (line : Nat) : List Token :=
  if source = [] then [] else [⟨.text, source, line⟩]

inductive Opening where
  | comment (rest : List Char)
  | action (rest : List Char)

/-- Tells a comment from an action, after the opening delimiter and, if the text before is to be
trimmed, its marker. -/
def Opening.of (after : List Char) : Opening :=
  match after with
  | '/' :: '*' :: rest => .comment rest
  | _ => .action after

def afterComment (cs : List Char) : Except String (List Char) :=
  match splitAtPair? '*' '/' cs with
  | none => .error "unclosed comment"
  | some (_, '}' :: '}' :: rest) => .ok rest
  | some (_, ' ' :: '-' :: '}' :: '}' :: rest) => .ok (trimStart rest)
  | some _ => .error "comment end before closing delimiter"

theorem length_afterComment {cs rest : List Char} (h : afterComment cs = .ok rest) :
    rest.length < cs.length := by
  unfold afterComment at h
  split at h
  · simp at h
  · next hs =>
    have := length_of_splitAtPair? hs
    cases h
    simp only [List.length_cons] at this
    omega
  · next rest' hs =>
    have hl := length_of_splitAtPair? hs
    have := length_dropWhile_le isBlank rest'
    cases h
    simp only [List.length_cons] at hl
    simp only [trimStart]
    omega
  · simp at h

def trimMarker? : List Char → Option (List Char)
  | '-' :: ' ' :: rest => some rest
  | _ => none

theorem length_trimMarker? {cs rest : List Char} (h : trimMarker? cs = some rest) :
    rest.length < cs.length := by
  unfold trimMarker? at h
  split at h
  · cases h
    simp only [List.length_cons]
    omega
  · simp at h

mutual

def textTokens (cs : List Char) (line : Nat) : List Token :=
  match h : splitAtPair? '{' '{' cs with
  | none => textToken cs line ++ [⟨.ending, [], line + (textToken cs line).length⟩]
  | some (before, after) =>
    have := length_of_splitAtPair? h
    match hm : trimMarker? after with
    | none => openTokens (textToken before line) after (line + (textToken before line).length)
    | some rest =>
      have := length_trimMarker? hm
      match trimmedBefore? before with
      | none => [.brokenOff]
      | some shown =>
        openTokens (textToken shown line) rest (line + (textToken shown line).length)
termination_by 2 * cs.length

def openTokens (front : List Token) (after : List Char) (line : Nat) : List Token :=
  match ho : Opening.of after with
  | .comment rest =>
    match h : afterComment rest with
    | .error message => front ++ [⟨.failure, message.toList, line⟩]
    | .ok rest' =>
      have : rest'.length < after.length := by
        have := length_afterComment h
        unfold Opening.of at ho
        split at ho
        · cases ho
          simp only [List.length_cons]
          omega
        · cases ho
      front ++ textTokens rest' line
  | .action rest =>
    have : rest.length ≤ after.length := by
      unfold Opening.of at ho
      split at ho
      · cases ho
      · cases ho
        exact Nat.le_refl _
    front ++ ⟨.openDelimiter, ['{', '{'], line⟩ :: actionTokens rest (line + 1) 0
termination_by 2 * after.length + 1

def actionTokens (cs : List Char) (line depth : Nat) : List Token :=
  match cs with
  | [] => [⟨.failure, "unclosed action".toList, line⟩]
  | c :: cs =>
    match h : Step.next (c :: cs) line depth with
    | .token t rest line' depth' =>
      have : rest.length ≤ cs.length := by
        have := Step.length_rest_next_lt (c := c) cs line depth
        rw [h] at this
        exact Nat.le_of_lt_succ this
      t :: actionTokens rest line' depth'
    | .close t rest line' =>
      have : rest.length ≤ cs.length := by
        have := Step.length_rest_next_lt (c := c) cs line depth
        rw [h] at this
        exact Nat.le_of_lt_succ this
      t :: textTokens rest line'
    | .stop ts => ts
termination_by 2 * cs.length

end

def tokens (template : String) : List Token := textTokens template.toList 1

end Provision.Template
