import Provision.Template.Scan

namespace Provision.Template

/-!
# Scanning an action

What the scanner makes of an action, token by token, whatever stands behind each.
-/

def endTokens (line : Nat) : List Token :=
  [⟨.space, [' '], line⟩, ⟨.closeDelimiter, ['}', '}'], line⟩, ⟨.ending, [], line + 1⟩]

section

variable {c d : Char} {w cs rest : List Char} {t : Token} {line line' depth depth' : Nat}

/-! ## From one token to the next -/

theorem splitAtPair?_pair (a b : Char) : splitAtPair? a b (a :: b :: cs) = some ([], cs) := by
  simp [splitAtPair?]

theorem textTokens_nil : textTokens [] line = [⟨.ending, [], line⟩] := by
  rw [textTokens]
  rfl

/-- A text without the pair of characters does not hide one that stands behind it. -/
theorem splitAtPair?_append {a b : Char} (hpair : ¬ [a, b] <:+: w) (hlast : w.getLast? ≠ some a) :
    splitAtPair? a b (w ++ a :: b :: cs) = some (w, cs) := by
  induction w with
  | nil => exact splitAtPair?_pair a b
  | cons d w ih =>
      rw [List.infix_cons_iff, not_or] at hpair
      obtain ⟨hbegins, hpair⟩ := hpair
      cases w with
      | nil =>
          have hd : d ≠ a := by simpa using hlast
          simp [splitAtPair?, hd]
      | cons e w =>
          have hne : ¬ (d = a ∧ e = b) := by
            rintro ⟨rfl, rfl⟩
            exact hbegins ⟨w, rfl⟩
          rw [List.getLast?_cons_cons] at hlast
          have hrest := ih hpair hlast
          simp only [List.cons_append] at hrest ⊢
          rw [splitAtPair?, if_neg hne, hrest]
          rfl

theorem splitAtPair?_eq_none {a b : Char} (hpair : ¬ [a, b] <:+: w) :
    splitAtPair? a b w = none := by
  induction w with
  | nil => rfl
  | cons d w ih =>
      rw [List.infix_cons_iff, not_or] at hpair
      obtain ⟨hbegins, hpair⟩ := hpair
      cases w with
      | nil => rfl
      | cons e w =>
          have hne : ¬ (d = a ∧ e = b) := by
            rintro ⟨rfl, rfl⟩
            exact hbegins ⟨w, rfl⟩
          rw [splitAtPair?, if_neg hne, ih hpair]
          rfl

theorem textTokens_of_not_infix (hpair : ¬ ['{', '{'] <:+: w) : textTokens w line =
    textToken w line ++ [⟨.ending, [], line + (textToken w line).length⟩] := by
  have hsplit := splitAtPair?_eq_none hpair
  rw [textTokens]
  split
  · rfl
  · next h => cases hsplit.symm.trans h

/-- A text and the delimiter of an action that is no comment and does not trim the text. -/
theorem textTokens_append_open (hpair : ¬ ['{', '{'] <:+: w) (hlast : w.getLast? ≠ some '{')
    (hmarker : c ≠ '-') (hcomment : c ≠ '/') :
    textTokens (w ++ '{' :: '{' :: c :: cs) line = textToken w line ++
      ⟨.openDelimiter, ['{', '{'], line + (textToken w line).length⟩ ::
        actionTokens (c :: cs) (line + (textToken w line).length + 1) 0 := by
  have hsplit : splitAtPair? '{' '{' (w ++ '{' :: '{' :: c :: cs) = some (w, c :: cs) :=
    splitAtPair?_append hpair hlast
  have hkept : trimMarker? (c :: cs) = none := by
    rw [trimMarker?]
    intro rest h
    exact hmarker (List.cons.inj h).1
  have hopening : Opening.of (c :: cs) = .action (c :: cs) := by
    rw [Opening.of]
    intro rest h
    exact hcomment (List.cons.inj h).1
  have hopen (front : List Token) (line : Nat) : openTokens front (c :: cs) line =
      front ++ ⟨.openDelimiter, ['{', '{'], line⟩ :: actionTokens (c :: cs) (line + 1) 0 := by
    rw [openTokens]
    split <;> simp_all
  rw [textTokens]
  split
  · next h => cases hsplit.symm.trans h
  · next h =>
    cases hsplit.symm.trans h
    split
    · exact hopen _ _
    · next h => cases hkept.symm.trans h

theorem textTokens_open (hmarker : c ≠ '-') (hcomment : c ≠ '/') :
    textTokens ('{' :: '{' :: c :: cs) line =
      ⟨.openDelimiter, ['{', '{'], line⟩ :: actionTokens (c :: cs) (line + 1) 0 := by
  have hpair : ¬ ['{', '{'] <:+: ([] : List Char) := by simp
  exact textTokens_append_open hpair (by simp) hmarker hcomment

theorem actionTokens_token (h : Step.next (c :: cs) line depth = .token t rest line' depth') :
    actionTokens (c :: cs) line depth = t :: actionTokens rest line' depth' := by
  rw [actionTokens]
  split <;> simp_all

theorem actionTokens_close (h : Step.next (c :: cs) line depth = .close t rest line') :
    actionTokens (c :: cs) line depth = t :: textTokens rest line' := by
  rw [actionTokens]
  split <;> simp_all

theorem actionTokens_stop {ts : List Token} (h : Step.next (c :: cs) line depth = .stop ts) :
    actionTokens (c :: cs) line depth = ts := by
  rw [actionTokens]
  split <;> simp_all

/-! ## Single tokens -/

theorem isWord_eq_false_of_isTerminator (h : isTerminator c = true) : isWord c = false := by
  simp only [isTerminator, Bool.or_eq_true, beq_iff_eq] at h
  rcases h with (((((((((rfl | rfl) | rfl) | rfl) | rfl) | rfl) | rfl) | rfl) | rfl) | rfl) | rfl
  all_goals rfl

theorem takeWhile_append_cons {p : Char → Bool} (hw : ∀ d ∈ w, p d = true) (hc : p c = false) :
    (w ++ c :: cs).takeWhile p = w ∧ (w ++ c :: cs).dropWhile p = c :: cs := by
  rw [List.takeWhile_append_of_pos hw, List.dropWhile_append_of_pos hw]
  simp [hc]

namespace Step

/-- A space, before a character that is none and does not trim the text behind the action. -/
theorem next_space (hascii : isAscii c = true) (hblank : Text.isBlank c = false) (hc : c ≠ '-') :
    next (' ' :: c :: cs) line depth = .token ⟨.space, [' '], line⟩ (c :: cs) line depth := by
  have hspace : Text.isBlank ' ' = true := rfl
  rw [next] <;> simp [blanks, hascii, hblank, hspace, Char.isDigit, lineBreaks]
  exact fun _ h => absurd h hc

theorem endWord_of_isTerminator {kind : Kind} (hascii : isAscii c = true)
    (hc : isTerminator c = true) :
    endWord kind w (c :: cs) line depth = .token ⟨kind, w, line⟩ (c :: cs) line depth := by
  simp [endWord, hascii, hc, plain]

theorem endWord_of_not_isTerminator {kind : Kind} (hascii : isAscii c = true)
    (hc : isTerminator c = false) :
    endWord kind w (c :: cs) line depth =
      .stop [⟨.failure, "bad character ".toList ++ [c], line⟩] := by
  simp [endWord, hascii, hc, failure]

/-- A field goes on to the first character that belongs to no word. -/
theorem next_field (hdigit : d.isDigit = false) (hascii : isAscii d = true)
    (hw : ∀ e ∈ d :: w, isWord e = true) (hc : isWord c = false) :
    next ('.' :: d :: (w ++ c :: cs)) line depth =
      endWord .field ('.' :: d :: w) (c :: cs) line depth := by
  have hterminator : isTerminator d = false := by
    rw [Bool.eq_false_iff]
    intro h
    have hd := isWord_eq_false_of_isTerminator h
    rw [hw d List.mem_cons_self] at hd
    cases hd
  have htake : (d :: (w ++ c :: cs)).takeWhile isWord = d :: w := (takeWhile_append_cons hw hc).1
  have hdrop : (d :: (w ++ c :: cs)).dropWhile isWord = c :: cs := (takeWhile_append_cons hw hc).2
  rw [next]
  simp [name, hdigit, hascii, hterminator, htake, hdrop]

/-- The scanner dies at a field that begins with a character of several bytes. -/
theorem next_field_of_not_isAscii (hdigit : d.isDigit = false) (hascii : isAscii d = false) :
    next ('.' :: d :: cs) line depth = brokenOff := by
  rw [next]
  simp [name, hdigit, hascii]

/-- The text between two quotes, if no character of it has to be escaped. -/
theorem closing_append (hw : ∀ e ∈ w, e ≠ '\\' ∧ e ≠ '\n' ∧ e ≠ '"') :
    closing '"' false (w ++ '"' :: cs) = .ok (w ++ ['"'], cs) := by
  induction w with
  | nil => simp [closing]
  | cons d w ih =>
      obtain ⟨⟨hescape, hbreak, hquote⟩, hrest⟩ := List.forall_mem_cons.mp hw
      simp [closing, hescape, hbreak, hquote, ih hrest, Except.map]

/-- A literal without escapes is scanned to its closing quote. -/
theorem next_string (hw : ∀ e ∈ w, e ≠ '\\' ∧ e ≠ '\n' ∧ e ≠ '"') :
    next ('"' :: (w ++ '"' :: cs)) line depth =
      .token ⟨.string, '"' :: (w ++ ['"']), line⟩ cs line depth := by
  rw [next, quoted, closing_append hw]
  rfl

theorem next_close : next ('}' :: '}' :: cs) line 0 =
    .close ⟨.closeDelimiter, ['}', '}'], line⟩ cs (line + 1) := rfl

end Step

theorem actionTokens_end : actionTokens [' ', '}', '}'] line 0 = endTokens line := by
  rw [actionTokens_token (Step.next_space rfl rfl (by decide)), actionTokens_close Step.next_close,
    textTokens_nil, endTokens]

end

end Provision.Template
