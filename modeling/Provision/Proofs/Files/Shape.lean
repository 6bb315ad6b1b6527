import Provision.Proofs.Files.Write

namespace Provision

/-!
# The shape of a file tree

Where a path leads depends on what files and directories there are, and not on what the files hold.
Trees of one shape keep one shape when a file is written at the same path of each, whatever is
written.
-/

def Entry.isDirectory : Entry → Bool
  | .file _ => false
  | .directory => true

namespace FileTree

/-- There are files and directories at the same locations, and one works in the same place. -/
structure SameShape (t t' : FileTree) : Prop where
  shape : ∀ l, (t.get? l).map Entry.isDirectory = (t'.get? l).map Entry.isDirectory
  working : t.working = t'.working

variable {t t' : FileTree}

theorem SameShape.refl (t : FileTree) : SameShape t t := ⟨fun _ => rfl, rfl⟩

theorem get?_eq_directory_iff (t : FileTree) (l : Location) :
    t.get? l = some .directory ↔ (t.get? l).map Entry.isDirectory = some true := by
  rcases t.get? l with _ | (_ | _) <;> simp [Entry.isDirectory]

theorem enter_eq (t : FileTree) (l : Location) :
    t.enter l =
      match (t.get? l).map Entry.isDirectory with
      | some true => .ok ()
      | some false => .error .notDirectory
      | none => .error .noSuchFile := by
  unfold enter
  rcases t.get? l with _ | (_ | _) <;> rfl

theorem SameShape.enter (h : SameShape t t') (l : Location) : t.enter l = t'.enter l := by
  rw [enter_eq, enter_eq, h.shape l]

theorem SameShape.walk (h : SameShape t t') (l : Location) (pieces : List (List Char)) :
    t.walk l pieces = t'.walk l pieces := by
  induction pieces generalizing l with
  | nil => rfl
  | cons piece rest ih => simp only [FileTree.walk, h.enter, ih]

/-- In trees of the same shape a path leads to the same file. -/
theorem SameShape.target (h : SameShape t t') (path : String) :
    t.target path = t'.target path := by
  simp only [FileTree.target, start, h.working, h.walk, h.enter, get?_eq_directory_iff, h.shape _]

theorem SameShape.put_file (h : SameShape t t') {l : Location} (hl : l ≠ [])
    (data data' : List UInt8) : SameShape (t.put l (.file data)) (t'.put l (.file data')) := by
  refine ⟨fun k => ?_, h.working⟩
  rw [get?_put t _ k hl, get?_put t' _ k hl]
  by_cases hk : k = l
  · simp [hk, Entry.isDirectory]
  · simpa [hk] using h.shape k

/-- Trees keep the same shape when something is written to the same path, even if it is not the
same. -/
theorem SameShape.write (h : SameShape t t') (medium : Medium) (path : String)
    (data data' : List UInt8) :
    SameShape (t.write medium path data).2 (t'.write medium path data').2 := by
  have htarget : t.target path = t'.target path := h.target path
  rcases ht : t.target path with e | l
  · simpa [FileTree.write, ht, htarget ▸ ht] using h
  · obtain ⟨way, name, parent, -, -, -, -, -, -, -, -, rfl, -⟩ := exists_of_target ht
    have hl : parent ++ [name] ≠ [] := by simp
    rcases hm : medium (parent ++ [name]) data with _ | ⟨n, e⟩ <;>
      rcases hm' : medium (parent ++ [name]) data' with _ | ⟨n', e'⟩ <;>
        simpa [FileTree.write, ht, htarget ▸ ht, hm, hm'] using h.put_file hl _ _

end FileTree

/-- When a medium fails, the reason does not depend on the data. -/
def Medium.Uniform (medium : Medium) : Prop :=
  ∀ l data data' n n' e e', medium l data = some (n, e) → medium l data' = some (n', e') → e = e'

theorem Medium.uniform_boundless : Medium.boundless.Uniform := by
  intro l data data' n n' e e' h
  cases h

theorem FileTree.SameShape.write_failure {t t' : FileTree} (h : t.SameShape t') {medium : Medium}
    (hm : medium.Uniform) {path : String} {data data' : List UInt8} {e e' : SystemError}
    (he : (t.write medium path data).1 = some e) (he' : (t'.write medium path data').1 = some e') :
    e = e' := by
  have htarget : t.target path = t'.target path := h.target path
  rcases ht : t.target path with c | l
  · rw [FileTree.write, ht] at he
    rw [FileTree.write, ← htarget, ht] at he'
    exact (Option.some.inj he).symm.trans (Option.some.inj he')
  · rw [FileTree.write, ht] at he
    rw [FileTree.write, ← htarget, ht] at he'
    rcases hd : medium l data with _ | ⟨n, c⟩
    · simp [hd] at he
    · rcases hd' : medium l data' with _ | ⟨n', c'⟩
      · simp [hd'] at he'
      · simp only [hd, Option.some.injEq] at he
        simp only [hd', Option.some.injEq] at he'
        rw [← he, ← he']
        exact hm l data data' n n' c c' hd hd'

end Provision
