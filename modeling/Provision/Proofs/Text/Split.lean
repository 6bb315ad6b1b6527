import Provision.Text.Split

namespace Provision.Text

/-!
# Pieces of a text

The pieces that `split` gives are free of the separator, and joined by it they are the text again.
What `afterLast` gives is the last of them.
-/

variable {α : Type} [DecidableEq α] {sep : α}

theorem split_of_notMem {cs : List α} (h : sep ∉ cs) : split sep cs = [cs] := by
  induction cs with
  | nil => rfl
  | cons c cs ih =>
      obtain ⟨hc, hcs⟩ := List.ne_and_not_mem_of_not_mem_cons h
      rw [split_cons_of_ne cs (Ne.symm hc), ih hcs]
      rfl

theorem split_append_cons {piece : List α} (h : sep ∉ piece) (rest : List α) :
    split sep (piece ++ sep :: rest) = piece :: split sep rest := by
  induction piece with
  | nil => exact split_cons_self sep rest
  | cons c piece ih =>
      obtain ⟨hc, hpiece⟩ := List.ne_and_not_mem_of_not_mem_cons h
      rw [List.cons_append, split_cons_of_ne _ (Ne.symm hc), ih hpiece]
      rfl

theorem notMem_of_mem_split {cs piece : List α} (h : piece ∈ split sep cs) : sep ∉ piece := by
  induction cs generalizing piece with
  | nil =>
      have hp : piece = [] := by simpa using h
      simp [hp]
  | cons c cs ih =>
      obtain ⟨first, others, hs⟩ := List.exists_cons_of_ne_nil (split_ne_nil sep cs)
      by_cases hc : c = sep
      · subst hc
        rw [split_cons_self] at h
        rcases List.mem_cons.mp h with rfl | h
        · simp
        · exact ih h
      · rw [split_cons_of_ne cs hc, hs] at h
        rcases List.mem_cons.mp h with rfl | h
        · have hfirst : sep ∉ first := ih (by simp [hs])
          simpa [Ne.symm hc] using hfirst
        · exact ih (by rw [hs]; exact List.mem_cons_of_mem _ h)

/-- The pieces between separators, joined by something else. -/
theorem intercalate_split_eq_map (sep joint : α) (cs : List α) :
    [joint].intercalate (split sep cs) = cs.map fun c => if c = sep then joint else c := by
  induction cs with
  | nil => rfl
  | cons c cs ih =>
      obtain ⟨first, others, hs⟩ := List.exists_cons_of_ne_nil (split_ne_nil sep cs)
      rw [hs] at ih
      by_cases hc : c = sep
      · rw [hc, split_cons_self, hs, List.intercalate_cons_cons, ih]
        simp
      · rw [split_cons_of_ne cs hc, hs]
        cases others with
        | nil => simpa [hc] using ih
        | cons second others =>
            rw [List.intercalate_cons_cons] at ih
            simp [List.intercalate_cons_cons, ← ih, hc]

/-- The pieces with separators between them make up the whole. -/
theorem intercalate_split (sep : α) (cs : List α) : [sep].intercalate (split sep cs) = cs := by
  have hself (c : α) : (if c = sep then sep else c) = c := ite_eq_right_iff.mpr Eq.symm
  simp only [intercalate_split_eq_map, hself, List.map_id']

theorem split_eq_singleton_iff {cs piece : List α} :
    split sep cs = [piece] ↔ cs = piece ∧ sep ∉ piece := by
  constructor
  · intro h
    have hjoin := intercalate_split sep cs
    have hfree : ∀ p ∈ split sep cs, sep ∉ p := fun p => notMem_of_mem_split
    rw [h, List.intercalate_singleton] at hjoin
    rw [h] at hfree
    exact ⟨hjoin.symm, hfree piece (by simp)⟩
  · rintro ⟨rfl, h⟩
    exact split_of_notMem h

theorem split_eq_pair_iff {cs first second : List α} :
    split sep cs = [first, second] ↔
      cs = first ++ sep :: second ∧ sep ∉ first ∧ sep ∉ second := by
  constructor
  · intro h
    have hjoin := intercalate_split sep cs
    have hfree : ∀ p ∈ split sep cs, sep ∉ p := fun p => notMem_of_mem_split
    rw [h, List.intercalate_cons_cons, List.intercalate_singleton] at hjoin
    rw [h] at hfree
    exact ⟨by simpa using hjoin.symm, hfree first (by simp), hfree second (by simp)⟩
  · rintro ⟨rfl, hfirst, hsecond⟩
    rw [split_append_cons hfirst, split_of_notMem hsecond]

theorem cutFirst_eq_none {cs : List α} (h : sep ∉ cs) : cutFirst sep cs = none := by
  induction cs with
  | nil => rfl
  | cons c rest ih =>
      obtain ⟨hc, hrest⟩ := List.ne_and_not_mem_of_not_mem_cons h
      rw [cutFirst, if_neg (Ne.symm hc), ih hrest, Option.map_none]

theorem cutLast_eq_none {cs : List α} (h : sep ∉ cs) : cutLast sep cs = none := by
  induction cs with
  | nil => rfl
  | cons c cs ih =>
      obtain ⟨hc, hcs⟩ := List.ne_and_not_mem_of_not_mem_cons h
      simp [cutLast, ih hcs, Ne.symm hc]

theorem cutLast_append_cons {last : List α} (front : List α) (h : sep ∉ last) :
    cutLast sep (front ++ sep :: last) = some (front, last) := by
  induction front with
  | nil => simp [cutLast, cutLast_eq_none h]
  | cons c front ih => simp [cutLast, ih]

theorem notMem_of_cutLast_eq_none {cs : List α} (h : cutLast sep cs = none) : sep ∉ cs := by
  induction cs with
  | nil => exact List.not_mem_nil
  | cons c cs ih =>
      rcases hcut : cutLast sep cs with _ | ⟨before, after⟩
      · have hc : c ≠ sep := by
          rintro rfl
          simp [cutLast, hcut] at h
        exact List.not_mem_cons_of_ne_of_not_mem (Ne.symm hc) (ih hcut)
      · simp [cutLast, hcut] at h

theorem eq_of_cutLast {cs front last : List α} (h : cutLast sep cs = some (front, last)) :
    cs = front ++ sep :: last ∧ sep ∉ last := by
  induction cs generalizing front with
  | nil => cases h
  | cons c cs ih =>
      rcases hcut : cutLast sep cs with _ | ⟨before, after⟩
      · -- the separator is the first character, and there is none behind it
        by_cases hc : c = sep
        · obtain ⟨rfl, rfl⟩ : [] = front ∧ cs = last := by simpa [cutLast, hcut, hc] using h
          exact ⟨by rw [hc, List.nil_append], notMem_of_cutLast_eq_none hcut⟩
        · simp [cutLast, hcut, hc] at h
      · obtain ⟨rfl, rfl⟩ : c :: before = front ∧ after = last := by simpa [cutLast, hcut] using h
        obtain ⟨rfl, hfree⟩ := ih hcut
        exact ⟨rfl, hfree⟩

theorem cutLast_eq_some_iff {cs front last : List α} :
    cutLast sep cs = some (front, last) ↔ cs = front ++ sep :: last ∧ sep ∉ last := by
  constructor
  · exact eq_of_cutLast
  · rintro ⟨rfl, h⟩
    exact cutLast_append_cons front h

theorem afterLast_of_notMem {cs : List α} (h : sep ∉ cs) : afterLast sep cs = cs := by
  simp [afterLast, cutLast_eq_none h]

theorem afterLast_append_cons {last : List α} (front : List α) (h : sep ∉ last) :
    afterLast sep (front ++ sep :: last) = last := by
  simp [afterLast, cutLast_append_cons front h]

end Provision.Text
