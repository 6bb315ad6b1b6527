import Mathlib.Tactic.SplitIfs
import Provision.Files.Tree

namespace Provision.FileTree

/-!
# Written files

A file that has been written holds the data and nothing else, and it is found at the path at which
it was written.  Whatever is at another location stays as it was.
-/

theorem enter_eq_ok_iff {t : FileTree} {l : Location} :
    t.enter l = .ok () ↔ t.get? l = some .directory := by
  unfold enter
  rcases t.get? l with _ | (_ | _) <;> simp

theorem enter_of_walk_cons {t : FileTree} {l r : Location} {piece : List Char}
    {rest : List (List Char)} (h : t.walk l (piece :: rest) = .ok r) : t.enter l = .ok () := by
  rcases he : t.enter l with e | ⟨⟩
  · simp [walk, he, bind, Except.bind] at h
  · rfl

/-- How a way begins: a piece that is empty or a dot stays, two dots go up, and any other goes
down. -/
theorem walk_cons {t : FileTree} {l : Location} (h : t.enter l = .ok ()) (piece : List Char)
    (rest : List (List Char)) :
    t.walk l (piece :: rest) =
      if piece = [] ∨ piece = ['.'] then t.walk l rest
      else if piece = ['.', '.'] then t.walk l.dropLast rest
      else if isTooLong piece then .error .nameTooLong
      else t.walk (l ++ [piece]) rest := by
  simp only [walk, h, bind, Except.bind]

/-- The rest of a way starts where its first pieces have led. -/
theorem walk_append {t : FileTree} {l r : Location} {pieces : List (List Char)}
    (h : t.walk l pieces = .ok r) (more : List (List Char)) :
    t.walk l (pieces ++ more) = t.walk r more := by
  induction pieces generalizing l with
  | nil =>
      cases h
      rfl
  | cons piece rest ih =>
      have he := enter_of_walk_cons h
      rw [walk_cons he] at h
      rw [List.cons_append, walk_cons he]
      split_ifs at h ⊢ <;> exact ih h

/-- A way through directories does not change when a file is put where there is no directory. -/
theorem walk_put_file {t : FileTree} {l : Location} (hl : l ≠ [])
    (hfree : t.get? l ≠ some .directory) (data : List UInt8) {k r : Location}
    {pieces : List (List Char)} (h : t.walk k pieces = .ok r) :
    (t.put l (.file data)).walk k pieces = .ok r := by
  induction pieces generalizing k with
  | nil => exact h
  | cons piece rest ih =>
      have he := enter_of_walk_cons h
      have hne : k ≠ l := by
        rintro rfl
        exact hfree (enter_eq_ok_iff.mp he)
      have he' : (t.put l (.file data)).enter k = .ok () := by
        rw [enter_eq_ok_iff, get?_put t _ k hl, if_neg hne, enter_eq_ok_iff.mp he]
      rw [walk_cons he] at h
      rw [walk_cons he']
      split_ifs at h ⊢ <;> exact ih h

theorem eq_of_length_dropWhile_reverse {α : Type} {p : α → Bool} {xs : List α}
    (h : xs.length ≤ (xs.reverse.dropWhile p).reverse.length) :
    (xs.reverse.dropWhile p).reverse = xs := by
  have hsuffix : xs.reverse.dropWhile p <:+ xs.reverse := List.dropWhile_suffix p
  have heq : xs.reverse.dropWhile p = xs.reverse :=
    hsuffix.eq_of_length_le (by simpa using h)
  rw [heq, List.reverse_reverse]

/-- What a path at which a file can be written looks like: its last piece is a name, and there is a
directory where the pieces before it lead. -/
theorem exists_of_target {t : FileTree} {path : String} {l : Location}
    (h : t.target path = .ok l) :
    ∃ way name parent, Path.pieces path = way ++ [name] ∧ name ≠ [] ∧ name ≠ ['.'] ∧
      name ≠ ['.', '.'] ∧ isTooLong name = false ∧ checkPath path = .ok () ∧
      t.walk (t.start path) way = .ok parent ∧ t.enter parent = .ok () ∧ l = parent ++ [name] ∧
      t.get? l ≠ some .directory := by
  unfold target at h
  generalize hkept : ((Path.pieces path).reverse.dropWhile (· = [])).reverse = kept at h
  rcases hc : checkPath path with e | ⟨⟩
  · simp [hc, bind, Except.bind] at h
  rcases hw : t.walk (t.start path) kept.dropLast with e | parent
  · simp [hc, hkept, hw, bind, Except.bind] at h
  rcases he : t.enter parent with e | ⟨⟩
  · simp [hc, hkept, hw, he, bind, Except.bind] at h
  simp only [hc, hkept, hw, he, bind, Except.bind] at h
  rcases hn : kept.getLast? with _ | name
  · simp [hn] at h
  simp only [hn] at h
  split_ifs at h with hshape hlong hdir
  obtain ⟨hlength, hdot, hdots⟩ := by simpa only [not_or] using hshape
  -- nothing has been cut off at the end, so that the last piece is a name
  have hpieces : kept = Path.pieces path := by
    rw [← hkept]
    apply eq_of_length_dropWhile_reverse
    rw [hkept]
    exact Nat.le_of_not_lt hlength
  have hname : name ≠ [] := by
    have hhead :=
      List.head?_dropWhile_not (fun piece => decide (piece = [])) (Path.pieces path).reverse
    rw [← List.getLast?_reverse, hkept, hn] at hhead
    simpa using hhead
  obtain ⟨way, rfl⟩ := List.getLast?_eq_some_iff.mp hn
  rw [List.dropLast_concat] at hw
  refine ⟨way, name, parent, hpieces.symm, hname, hdot, hdots, by simpa using hlong, rfl, hw, he,
    (Except.ok.inj h).symm, ?_⟩
  rwa [← Except.ok.inj h]

/-- Putting a file where a path is to be written: it is found at the path. -/
theorem find?_put_target {t : FileTree} {path : String} {l : Location}
    (h : t.target path = .ok l) (data : List UInt8) :
    (t.put l (.file data)).find? path = some (.file data) := by
  obtain ⟨way, name, parent, hpieces, hname, hdot, hdots, hlong, hc, hw, he, rfl, hfree⟩ :=
    exists_of_target h
  have hl : parent ++ [name] ≠ [] := by simp
  have hparent : parent ≠ parent ++ [name] := by simp
  have he' : (t.put (parent ++ [name]) (.file data)).enter parent = .ok () := by
    rw [enter_eq_ok_iff, get?_put t _ parent hl, if_neg hparent, enter_eq_ok_iff.mp he]
  have hwalk : (t.put (parent ++ [name]) (.file data)).walk (t.start path) (way ++ [name]) =
      .ok (parent ++ [name]) := by
    rw [walk_append (walk_put_file hl hfree data hw), walk_cons he', if_neg (by simp [hname, hdot]),
      if_neg hdots, if_neg (by simp [hlong])]
    rfl
  have hget : (t.put (parent ++ [name]) (.file data)).get? (parent ++ [name]) =
      some (.file data) := by
    rw [get?_put t _ _ hl, if_pos rfl]
  simp [find?, locate, hc, hpieces, hwalk, hget, bind, Except.bind]

/-- A file that has been written is found at its path with exactly the data. -/
theorem find?_of_write {medium : Medium} {t t' : FileTree} {path : String} {data : List UInt8}
    (h : t.write medium path data = (none, t')) :
    t'.find? path = some (.file data) ∧
      ∃ l, t.target path = .ok l ∧ ∀ k ≠ l, t'.get? k = t.get? k := by
  unfold write at h
  rcases ht : t.target path with e | l
  · simp [ht] at h
  · rcases hm : medium l data with _ | ⟨count, e⟩
    · simp only [ht, hm, Prod.mk.injEq, true_and] at h
      subst h
      obtain ⟨way, name, parent, -, -, -, -, -, -, -, -, rfl, -⟩ := exists_of_target ht
      refine ⟨find?_put_target ht data, parent ++ [name], rfl, ?_⟩
      intro k hk
      rw [get?_put t _ k (by simp), if_neg hk]
    · simp [ht, hm] at h

end Provision.FileTree
