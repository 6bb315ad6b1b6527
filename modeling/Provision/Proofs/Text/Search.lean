import Mathlib.Data.List.Infix
import Provision.Text.Search

namespace Provision.Text

/-!
# First occurrences

`cutAt?` cuts a text at the first occurrence of a pattern, and it cuts no other.
-/

variable {α : Type} {pattern cs before after : List α}

/-- The pattern occurs between the two parts, and nowhere further to the left. -/
def FirstBetween (pattern cs before after : List α) : Prop :=
  cs = before ++ (pattern ++ after) ∧
    ∀ b a, cs = b ++ (pattern ++ a) → before.length ≤ b.length

/-- There is only one first occurrence. -/
theorem FirstBetween.eq {before' after' : List α} (h : FirstBetween pattern cs before after)
    (h' : FirstBetween pattern cs before' after') : before = before' ∧ after = after' := by
  have hlength : before.length = before'.length :=
    Nat.le_antisymm (h.2 before' after' h'.1) (h'.2 before after h.1)
  obtain ⟨hbefore, hrest⟩ := List.append_inj (h.1.symm.trans h'.1) hlength
  exact ⟨hbefore, List.append_cancel_left hrest⟩

variable [DecidableEq α]

theorem firstBetween_of_cutAt? (h : cutAt? pattern cs = some (before, after)) :
    FirstBetween pattern cs before after := by
  refine ⟨eq_of_cutAt? h, ?_⟩
  induction cs generalizing before with
  | nil =>
      intro b a hb
      have hp : pattern = [] := by
        have hnil := List.append_eq_nil_iff.mp hb.symm
        exact (List.append_eq_nil_iff.mp hnil.2).1
      simp [cutAt?, hp] at h
      simp [h]
  | cons c cs ih =>
      intro b a hb
      rw [cutAt?] at h
      split at h
      · simp only [Option.some.injEq, Prod.mk.injEq] at h
        simp [← h.1]
      · rename_i hp
        obtain ⟨⟨before', after'⟩, hcut, he⟩ := Option.map_eq_some_iff.mp h
        simp only [Prod.mk.injEq] at he
        obtain ⟨rfl, rfl⟩ := he
        cases b with
        | nil =>
            refine absurd (List.isPrefixOf_iff_prefix.mpr ?_) hp
            exact ⟨a, hb.symm⟩
        | cons d b =>
            have hle := ih hcut b a (List.cons.inj hb).2
            exact Nat.succ_le_succ hle

theorem cutAt?_eq_none_iff : cutAt? pattern cs = none ↔ ¬ pattern <:+: cs := by
  induction cs with
  | nil => simp [cutAt?]
  | cons c cs ih =>
      rw [cutAt?, List.infix_cons_iff, not_or, ← ih]
      split
      · rename_i hp
        simp [List.isPrefixOf_iff_prefix.mp hp]
      · rename_i hp
        have hbegins : ¬ pattern <+: c :: cs := fun h => hp (List.isPrefixOf_iff_prefix.mpr h)
        simp [hbegins]

theorem cutAt?_eq_some_iff :
    cutAt? pattern cs = some (before, after) ↔ FirstBetween pattern cs before after := by
  refine ⟨firstBetween_of_cutAt?, ?_⟩
  intro h
  rcases hcut : cutAt? pattern cs with _ | ⟨before', after'⟩
  · have hnot := cutAt?_eq_none_iff.mp hcut
    exact absurd ⟨before, after, by rw [h.1, List.append_assoc]⟩ hnot
  · obtain ⟨rfl, rfl⟩ := h.eq (firstBetween_of_cutAt? hcut)
    rfl

/-- What follows does not matter once the pattern has been found. -/
theorem cutAt?_append (h : cutAt? pattern cs = some (before, after)) (rest : List α) :
    cutAt? pattern (cs ++ rest) = some (before, after ++ rest) := by
  obtain ⟨heq, hfirst⟩ := firstBetween_of_cutAt? h
  refine cutAt?_eq_some_iff.mpr ⟨by rw [heq]; simp, ?_⟩
  intro b a hb
  by_contra hlt
  have hbound : (b ++ pattern).length ≤ cs.length := by
    rw [heq]
    simp only [List.length_append]
    omega
  have hbegins : b ++ pattern <+: cs :=
    List.prefix_of_prefix_length_le ⟨a, by rw [hb, List.append_assoc]⟩ ⟨rest, rfl⟩ hbound
  obtain ⟨a', ha'⟩ := hbegins
  exact hlt (hfirst b a' (by rw [← ha', List.append_assoc]))

end Provision.Text
