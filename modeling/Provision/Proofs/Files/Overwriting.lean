import Mathlib.Data.List.Induction
import Provision.Proofs.Files.Directories

namespace Provision

/-!
# Overwritten files

A record of what has been put into files tells how to do it again.  A file holds what was put into
it last, and a file keeps its place among the entries of a tree.  So a record that begins with the
files of an earlier one leads to the same tree whether the earlier one went before it or not.
-/

/-- What has been put into a file: the path at which it was opened, where it lies, and what it
holds. -/
structure Writing where
  path : String
  location : Location
  content : List UInt8
  deriving DecidableEq, Repr

def Writing.place (x : Writing) : String × Location := (x.path, x.location)

namespace FileTree

def writing? (medium : Medium) (t : FileTree) (path : String) (data : List UInt8) :
    Option Writing :=
  match t.target path with
  | .error _ => none
  | .ok l =>
    match medium l data with
    | none => some ⟨path, l, data⟩
    | some (count, _) => some ⟨path, l, data.take count⟩

def replay (t : FileTree) (record : List Writing) : FileTree :=
  record.foldl (fun t x => t.put x.location (.file x.content)) t

@[simp] theorem replay_nil (t : FileTree) : t.replay [] = t := rfl

@[simp] theorem replay_cons (t : FileTree) (x : Writing) (record : List Writing) :
    t.replay (x :: record) = (t.put x.location (.file x.content)).replay record := rfl

@[simp] theorem replay_append (t : FileTree) (xs ys : List Writing) :
    t.replay (xs ++ ys) = (t.replay xs).replay ys := List.foldl_append

variable {t : FileTree} {medium : Medium} {path : String} {data : List UInt8}

/-- To write is to put into at most one file, the one at which the path is opened. -/
theorem write_eq_replay (medium : Medium) (t : FileTree) (path : String) (data : List UInt8) :
    (t.write medium path data).2 = t.replay (t.writing? medium path data).toList := by
  rcases ht : t.target path with e | l
  · simp [write, writing?, ht]
  · rcases hm : medium l data with _ | ⟨count, e⟩ <;> simp [write, writing?, ht, hm]

theorem target_of_writing? {x : Writing} (h : t.writing? medium path data = some x) :
    x.path = path ∧ t.target path = .ok x.location := by
  unfold writing? at h
  rcases ht : t.target path with e | l
  · simp [ht] at h
  · rcases hm : medium l data with _ | ⟨count, e⟩ <;> simp [ht, hm] at h <;> simp [← h]

theorem writing?_boundless {l : Location} (h : t.target path = .ok l) (data : List UInt8) :
    t.writing? .boundless path data = some ⟨path, l, data⟩ := by
  simp [writing?, h, Medium.boundless]

/-- A medium that takes all data lets no file fail that can be opened. -/
theorem write_boundless (t : FileTree) (path : String) (data : List UInt8) :
    (t.write .boundless path data).1 =
      match t.target path with
      | .ok _ => none
      | .error e => some e := by
  rcases ht : t.target path with e | l <;> simp [write, ht, Medium.boundless]

/-! ## Entries that are put -/

theorem put_put_self (t : FileTree) (l : Location) (e f : Entry) :
    (t.put l e).put l f = t.put l f := by
  have hgo (entries : List (Location × Entry)) :
      put.go l f (put.go l e entries) = put.go l f entries := by
    induction entries with
    | nil => simp [put.go]
    | cons first rest ih =>
        obtain ⟨k, g⟩ := first
        by_cases hk : k = l <;> simp [put.go, hk, ih]
  simp only [put, hgo]

/-- What is there already keeps its place, so that it does not matter what is put first. -/
theorem put_put_comm {k l : Location} (hk : k ≠ []) (hkl : k ≠ l) (hthere : (t.get? k).isSome)
    (e f : Entry) : (t.put l e).put k f = (t.put k f).put l e := by
  have hgo (entries : List (Location × Entry)) (h : (entries.lookup k).isSome) :
      put.go k f (put.go l e entries) = put.go l e (put.go k f entries) := by
    induction entries with
    | nil => cases h
    | cons first rest ih =>
        obtain ⟨m, g⟩ := first
        by_cases hm : m = k
        · subst hm
          simp [put.go, hkl]
        · have hrest : (rest.lookup k).isSome := by
            rwa [List.lookup_cons, beq_false_of_ne (Ne.symm hm)] at h
          by_cases hl : m = l
          · simp [put.go, hl, Ne.symm hkl]
          · simp [put.go, hm, hl, ih hrest]
  have hlookup : (t.entries.lookup k).isSome := by simpa [get?, hk] using hthere
  simp only [put, hgo t.entries hlookup]

theorem isSome_get?_put {k l : Location} (hl : l ≠ []) (e : Entry)
    (h : k = l ∨ (t.get? k).isSome) : ((t.put l e).get? k).isSome := by
  rw [get?_put t e k hl]
  split_ifs with hk
  · rfl
  · exact h.resolve_left hk

/-! ## Records -/

/-- Every writing of the record goes to a location below the root. -/
def Grounded (record : List Writing) : Prop := ∀ x ∈ record, x.location ≠ []

/-- A record of writings leaves alone what none of them is about. -/
theorem get?_replay_of_forall_ne {record : List Writing} (hr : Grounded record) {k : Location}
    (hk : ∀ x ∈ record, x.location ≠ k) : (t.replay record).get? k = t.get? k := by
  induction record generalizing t with
  | nil => rfl
  | cons x rest ih =>
      obtain ⟨hx, hrest⟩ := List.forall_mem_cons.mp hr
      obtain ⟨hxk, hothers⟩ := List.forall_mem_cons.mp hk
      rw [replay_cons, ih hrest hothers, get?_put t _ k hx, if_neg (Ne.symm hxk)]

theorem isSome_get?_replay {record : List Writing} (hr : Grounded record) {k : Location}
    (h : k ∈ record.map Writing.location ∨ (t.get? k).isSome) :
    ((t.replay record).get? k).isSome := by
  induction record generalizing t with
  | nil => exact h.resolve_left (by simp)
  | cons x rest ih =>
      obtain ⟨hx, hrest⟩ := List.forall_mem_cons.mp hr
      apply ih hrest
      rcases h with h | h
      · rcases List.mem_cons.mp h with rfl | h
        · exact .inr (isSome_get?_put hx _ (.inl rfl))
        · exact .inl h
      · exact .inr (isSome_get?_put hx _ (.inr h))

/-- A file that is written later on may just as well have been written before, unless files that
are written in between have to be created. -/
theorem replay_put {before after : List Writing} {x : Writing} (hr : Grounded before)
    (hthere : ∀ y ∈ before, (t.get? y.location).isSome) (e : Entry) :
    (t.put x.location e).replay (before ++ x :: after) = t.replay (before ++ x :: after) := by
  induction before generalizing t with
  | nil => simp [put_put_self]
  | cons y rest ih =>
      obtain ⟨hy, hrest⟩ := List.forall_mem_cons.mp hr
      obtain ⟨hfirst, hothers⟩ := List.forall_mem_cons.mp hthere
      simp only [List.cons_append, replay_cons]
      by_cases hyx : y.location = x.location
      · rw [hyx, put_put_self]
      · rw [put_put_comm hy hyx hfirst]
        apply ih hrest
        intro z hz
        exact isSome_get?_put hy _ (.inr (hothers z hz))

/-- An earlier record leaves no trace behind a record that begins with the same files. -/
theorem replay_replay {xs ys : List Writing} (hy : Grounded ys)
    (h : xs.map Writing.location <+: ys.map Writing.location) :
    (t.replay xs).replay ys = t.replay ys := by
  -- the last writing of the earlier record is undone first
  induction xs using List.reverseRecOn with
  | nil => rfl
  | append_singleton xs x ih =>
      rw [List.map_append] at h
      have hxs : xs.map Writing.location <+: ys.map Writing.location :=
        (List.prefix_append _ _).trans h
      obtain ⟨more, hmore⟩ := h
      rw [List.append_assoc] at hmore
      obtain ⟨before, rest, rfl, hbefore, hrest⟩ := List.map_eq_append_iff.mp hmore.symm
      obtain ⟨y, after, rfl, hyx, -⟩ := List.map_eq_cons_iff.mp hrest
      have hplace : y.location = x.location := hyx
      have hground : Grounded before := fun z hz => hy z (List.mem_append_left _ hz)
      have hground' : Grounded xs := by
        intro z hz
        have hmem : z.location ∈ before.map Writing.location :=
          hbefore ▸ List.mem_map_of_mem hz
        obtain ⟨z', hz', heq⟩ := List.mem_map.mp hmem
        exact heq ▸ hground z' hz'
      have hthere : ∀ z ∈ before, ((t.replay xs).get? z.location).isSome := by
        intro z hz
        exact isSome_get?_replay hground' (.inl (hbefore ▸ List.mem_map_of_mem hz))
      calc (t.replay (xs ++ [x])).replay (before ++ y :: after)
          = ((t.replay xs).put y.location (.file x.content)).replay (before ++ y :: after) := by
            rw [replay_append t xs, replay_cons, replay_nil, hplace]
        _ = (t.replay xs).replay (before ++ y :: after) := replay_put hground hthere _
        _ = t.replay (before ++ y :: after) := ih hxs

end FileTree

end Provision
