import Mathlib.Data.List.Basic
import Provision.Text.Split

namespace Provision.Text

/-!
# Lines of a text

A text is made up of lines in one way only, and `lines` gives them: those that end, each with its
end behind it, and what is left over, if anything is.
-/

/-- The lines that a text is made up of.  A line ends at `feed`; a `ret` directly before belongs to
the end and not to the line. -/
inductive Lined {α : Type} (feed ret : α) : List α → List (List α) → Prop
  | none : Lined feed ret [] []
  | last {line : List α} (nonempty : line ≠ []) (free : feed ∉ line) : Lined feed ret line [line]
  | fed {line rest : List α} {more : List (List α)} (free : feed ∉ line)
      (bare : line.getLast? ≠ some ret) (behind : Lined feed ret rest more) :
      Lined feed ret (line ++ feed :: rest) (line :: more)
  | returned {line rest : List α} {more : List (List α)} (free : feed ∉ line)
      (behind : Lined feed ret rest more) :
      Lined feed ret (line ++ ret :: feed :: rest) (line :: more)

section

variable {α : Type} {feed ret c : α} {line rest : List α} {found : List (List α)}

/-- A line and what is put behind it begin with the end of a line only if the latter does. -/
theorem head?_append_ne (hfree : feed ∉ line) (hrest : rest.head? ≠ some feed) :
    (line ++ rest).head? ≠ some feed := by
  rcases line with _ | ⟨c, line⟩
  · exact hrest
  · simpa using Ne.symm (List.ne_of_not_mem_cons hfree)

/-- A character that ends no line belongs to the first one. -/
theorem Lined.cons (hfeed : c ≠ feed) (hend : ¬ (c = ret ∧ rest.head? = some feed))
    (h : Lined feed ret rest found) :
    Lined feed ret (c :: rest) ((c :: found.headD []) :: found.tail) := by
  -- the first line ends as it did: by `hend`, `c` is no return that goes with a feed behind it
  have hfree {line : List α} (free : feed ∉ line) : feed ∉ c :: line :=
    List.not_mem_cons_of_ne_of_not_mem hfeed.symm free
  cases h with
  | none => exact .last (by simp) (hfree (by simp))
  | last nonempty free => exact .last (by simp) (hfree free)
  | @fed line rest more free bare h =>
      have hbare : (c :: line).getLast? ≠ some ret := by
        rcases line with _ | ⟨d, line⟩
        · simpa using hend
        · simpa using bare
      exact .fed (hfree free) hbare h
  | returned free h => exact .returned (hfree free) h

theorem Lined.notMem {cs : List α} (h : Lined feed ret cs found) : ∀ line ∈ found, feed ∉ line := by
  induction h with
  | none => simp
  | last _ free => simpa using free
  | fed free _ _ ih => exact List.forall_mem_cons.mpr ⟨free, ih⟩
  | returned free _ ih => exact List.forall_mem_cons.mpr ⟨free, ih⟩

end

variable {α : Type} [DecidableEq α] {feed ret c : α} {line rest cs : List α} {found : List (List α)}

theorem lines_feed (rest : List α) : lines feed ret (feed :: rest) = [] :: lines feed ret rest := by
  simp [lines]

theorem lines_ret_feed (h : ret ≠ feed) (rest : List α) :
    lines feed ret (ret :: feed :: rest) = [] :: lines feed ret rest := by
  simp [lines, h]

theorem lines_cons (hfeed : c ≠ feed) (hend : ¬ (c = ret ∧ rest.head? = some feed)) :
    lines feed ret (c :: rest) =
      (c :: (lines feed ret rest).headD []) :: (lines feed ret rest).tail := by
  rw [lines, if_neg hfeed, if_neg hend]
  cases lines feed ret rest <;> rfl

theorem lines_of_notMem (hne : line ≠ []) (hfree : feed ∉ line) :
    lines feed ret line = [line] := by
  induction line with
  | nil => exact absurd rfl hne
  | cons c line ih =>
      obtain ⟨hc, hline⟩ := List.ne_and_not_mem_of_not_mem_cons hfree
      have hhead : line.head? ≠ some feed := by
        rcases line with _ | ⟨d, line⟩
        · simp
        · simpa using Ne.symm (List.ne_of_not_mem_cons hline)
      rw [lines_cons (Ne.symm hc) fun h => hhead h.2]
      rcases hempty : line with _ | ⟨d, more⟩
      · rfl
      · rw [← hempty, ih (by simp [hempty]) hline]
        rfl

theorem lines_fed (hfree : feed ∉ line) (hbare : line.getLast? ≠ some ret) (rest : List α) :
    lines feed ret (line ++ feed :: rest) = line :: lines feed ret rest := by
  induction line with
  | nil => exact lines_feed rest
  | cons c line ih =>
      obtain ⟨hc, hline⟩ := List.ne_and_not_mem_of_not_mem_cons hfree
      have hend : ¬ (c = ret ∧ (line ++ feed :: rest).head? = some feed) := by
        rintro ⟨rfl, hhead⟩
        rcases line with _ | ⟨d, line⟩
        · exact hbare rfl
        · exact List.ne_of_not_mem_cons hline (by simpa using hhead.symm)
      have hlast : line.getLast? ≠ some ret := by
        rcases line with _ | ⟨d, line⟩
        · simp
        · simpa using hbare
      rw [List.cons_append, lines_cons (Ne.symm hc) hend, ih hline hlast]
      rfl

theorem lines_returned (hret : ret ≠ feed) (hfree : feed ∉ line) (rest : List α) :
    lines feed ret (line ++ ret :: feed :: rest) = line :: lines feed ret rest := by
  induction line with
  | nil => exact lines_ret_feed hret rest
  | cons c line ih =>
      obtain ⟨hc, hline⟩ := List.ne_and_not_mem_of_not_mem_cons hfree
      have hhead := head?_append_ne hline
        (show (ret :: feed :: rest).head? ≠ some feed by simpa using hret)
      rw [List.cons_append, lines_cons (Ne.symm hc) fun h => hhead h.2, ih hline]
      rfl

/-- There is only one way to cut characters into lines. -/
theorem Lined.eq_lines (hret : ret ≠ feed) (h : Lined feed ret cs found) :
    found = lines feed ret cs := by
  induction h with
  | none => rfl
  | last nonempty free => exact (lines_of_notMem nonempty free).symm
  | fed free bare _ ih => rw [lines_fed free bare, ih]
  | returned free _ ih => rw [lines_returned hret free, ih]

theorem lined_lines (feed ret : α) : ∀ cs : List α, Lined feed ret cs (lines feed ret cs)
  | [] => .none
  | c :: rest => by
      by_cases hfeed : c = feed
      · subst hfeed
        rw [lines_feed]
        exact .fed List.not_mem_nil (by simp) (lined_lines c ret rest)
      · by_cases hend : c = ret ∧ rest.head? = some feed
        · obtain ⟨rfl, hhead⟩ := hend
          obtain ⟨rest, rfl⟩ := List.head?_eq_some_iff.mp hhead
          rw [lines_ret_feed hfeed]
          exact .returned List.not_mem_nil (lined_lines feed c rest)
        · rw [lines_cons hfeed hend]
          exact (lined_lines feed ret rest).cons hfeed hend

/-- A text is made up of the lines that are read off it, and of no others. -/
theorem lined_iff (hret : ret ≠ feed) : Lined feed ret cs found ↔ found = lines feed ret cs :=
  ⟨fun h => h.eq_lines hret, fun h => h ▸ lined_lines feed ret cs⟩

end Provision.Text
