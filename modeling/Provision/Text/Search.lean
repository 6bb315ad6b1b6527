namespace Provision.Text

/-!
# Searching in texts
-/

/-- What stands before and after the first occurrence of a pattern. -/
def cutAt? {α : Type} [DecidableEq α] (pattern : List α) : List α → Option (List α × List α)
  | [] => if pattern = [] then some ([], []) else none
  | c :: rest =>
    if pattern.isPrefixOf (c :: rest) then some ([], (c :: rest).drop pattern.length)
    else (cutAt? pattern rest).map fun (before, after) => (c :: before, after)

theorem eq_of_cutAt? {α : Type} [DecidableEq α] {pattern cs before after : List α}
    (h : cutAt? pattern cs = some (before, after)) : cs = before ++ (pattern ++ after) := by
  induction cs generalizing before with
  | nil =>
    by_cases hp : pattern = []
    · simp [cutAt?, hp] at h
      simp [hp, h]
    · simp [cutAt?, hp] at h
  | cons c rest ih =>
    by_cases hp : pattern <+: c :: rest
    · obtain ⟨more, hm⟩ := hp
      have hi : pattern.isPrefixOf (c :: rest) = true :=
        List.isPrefixOf_iff_prefix.mpr ⟨more, hm⟩
      simp only [cutAt?, hi, if_true, Option.some.injEq, Prod.mk.injEq] at h
      obtain ⟨rfl, rfl⟩ := h
      rw [← hm]
      simp
    · have hi : ¬ pattern.isPrefixOf (c :: rest) = true :=
        fun h => hp (List.isPrefixOf_iff_prefix.mp h)
      rw [cutAt?, if_neg hi] at h
      obtain ⟨⟨b, a⟩, hc, he⟩ := Option.map_eq_some_iff.mp h
      simp only [Prod.mk.injEq] at he
      obtain ⟨rfl, rfl⟩ := he
      rw [ih hc]
      rfl

end Provision.Text
