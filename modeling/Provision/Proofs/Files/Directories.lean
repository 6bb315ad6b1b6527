import Provision.Proofs.Files.Write

namespace Provision.FileTree

/-!
# Directories

Whether a file can be opened at a path, and where it lies, is decided by the directories of the tree
alone.  To write a file changes none of them, so that a path that can be opened can be opened later
on, at the same location, whatever has been written in between.
-/

/-- There are directories at the same locations, and one works in the same place. -/
structure SameDirectories (t t' : FileTree) : Prop where
  directories : ∀ l, t.get? l = some .directory ↔ t'.get? l = some .directory
  working : t.working = t'.working

variable {t t' t'' : FileTree}

theorem SameDirectories.refl (t : FileTree) : SameDirectories t t := ⟨fun _ => Iff.rfl, rfl⟩

theorem SameDirectories.symm (h : SameDirectories t t') : SameDirectories t' t :=
  ⟨fun l => (h.directories l).symm, h.working.symm⟩

theorem SameDirectories.trans (h : SameDirectories t t') (h' : SameDirectories t' t'') :
    SameDirectories t t'' :=
  ⟨fun l => (h.directories l).trans (h'.directories l), h.working.trans h'.working⟩

theorem SameDirectories.start (h : SameDirectories t t') (path : String) :
    t.start path = t'.start path := by
  rw [FileTree.start, FileTree.start, h.working]

theorem SameDirectories.enter (h : SameDirectories t t') {l : Location} (he : t.enter l = .ok ()) :
    t'.enter l = .ok () := by
  rw [enter_eq_ok_iff] at he ⊢
  exact (h.directories l).mp he

theorem SameDirectories.walk (h : SameDirectories t t') {l r : Location}
    {pieces : List (List Char)} (hw : t.walk l pieces = .ok r) : t'.walk l pieces = .ok r := by
  induction pieces generalizing l with
  | nil => exact hw
  | cons piece rest ih =>
      have he : t.enter l = .ok () := enter_of_walk_cons hw
      rw [walk_cons he] at hw
      rw [walk_cons (h.enter he)]
      split_ifs at hw ⊢ <;> exact ih hw

/-- A path leads to a file in a directory when its last piece is a name and its other pieces lead to
the directory. -/
theorem target_of_walk {path : String} {way : List (List Char)} {name : List Char}
    {parent : Location} (hpieces : Path.pieces path = way ++ [name]) (hname : name ≠ [])
    (hdot : name ≠ ['.']) (hdots : name ≠ ['.', '.']) (hlong : isTooLong name = false)
    (hc : checkPath path = .ok ()) (hw : t.walk (t.start path) way = .ok parent)
    (he : t.enter parent = .ok ()) (hfree : t.get? (parent ++ [name]) ≠ some .directory) :
    t.target path = .ok (parent ++ [name]) := by
  have hkept : ((way ++ [name]).reverse.dropWhile (· = [])).reverse = way ++ [name] := by
    simp [hname]
  have hshape : ¬ ((way ++ [name]).length < (way ++ [name]).length ∨ name = ['.'] ∨
      name = ['.', '.']) := by
    simp [hdot, hdots]
  simp only [target, hpieces, hkept, hc, List.dropLast_concat, hw, he, List.getLast?_concat,
    bind, Except.bind]
  rw [if_neg hshape, if_neg (by simp [hlong]), if_neg hfree]

theorem SameDirectories.target (h : SameDirectories t t') {path : String} {l : Location}
    (ht : t.target path = .ok l) : t'.target path = .ok l := by
  obtain ⟨way, name, parent, hpieces, hname, hdot, hdots, hlong, hc, hw, he, rfl, hfree⟩ :=
    exists_of_target ht
  apply target_of_walk hpieces hname hdot hdots hlong hc (h.start path ▸ h.walk hw) (h.enter he)
  rwa [Ne, ← h.directories]

/-- Where a file can be opened at a path, the path is the way to what is there. -/
theorem find?_of_target {path : String} {l : Location} (h : t.target path = .ok l) :
    t.find? path = t.get? l := by
  obtain ⟨way, name, parent, hpieces, hname, hdot, hdots, hlong, hc, hw, he, rfl, -⟩ :=
    exists_of_target h
  have hwalk : t.walk (t.start path) (way ++ [name]) = .ok (parent ++ [name]) := by
    rw [walk_append hw, walk_cons he, if_neg (by simp [hname, hdot]), if_neg hdots,
      if_neg (by simp [hlong])]
    rfl
  rcases hthere : t.get? (parent ++ [name]) with _ | e <;>
    simp [find?, locate, hc, hpieces, hwalk, hthere, bind, Except.bind]

theorem ne_nil_of_target {path : String} {l : Location} (h : t.target path = .ok l) : l ≠ [] := by
  obtain ⟨way, name, parent, -, -, -, -, -, -, -, -, rfl, -⟩ := exists_of_target h
  simp

/-- A file that takes the place of no directory leaves the directories as they are. -/
theorem sameDirectories_put_file {l : Location} (hl : l ≠ [])
    (hfree : t.get? l ≠ some .directory) (data : List UInt8) :
    SameDirectories t (t.put l (.file data)) := by
  refine ⟨fun k => ?_, rfl⟩
  rw [get?_put t _ k hl]
  by_cases hk : k = l
  · simp [hk, hfree]
  · simp [hk]

/-- To write a file neither makes a directory nor takes one away. -/
theorem sameDirectories_write (medium : Medium) (t : FileTree) (path : String)
    (data : List UInt8) : SameDirectories t (t.write medium path data).2 := by
  rcases ht : t.target path with e | l
  · simpa [write, ht] using SameDirectories.refl t
  · obtain ⟨_, _, _, -, -, -, -, -, -, -, -, -, hfree⟩ := exists_of_target ht
    have hput := sameDirectories_put_file (ne_nil_of_target ht) hfree
    rcases hm : medium l data with _ | ⟨count, e⟩
    · simpa [write, ht, hm] using hput data
    · simpa [write, ht, hm] using hput (data.take count)

end Provision.FileTree
