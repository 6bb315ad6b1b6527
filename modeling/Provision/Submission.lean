import Provision.Json.Decoder

namespace Provision

/-!
# Submissions

A submission gives a text for each of a number of value names; a later text for a name replaces the
earlier one.  Apart from the texts a submission has an order in which its entries are met.  No
meaning goes with it: whoever copies the entries gets them in an order of his own.
-/

/-- The texts of a submission, each under the name of its value. -/
@[ext]
structure Submission where
  entries : List (String × String)
  distinct : (entries.map Prod.fst).Nodup
  deriving DecidableEq, Repr

namespace Submission

def empty : Submission := ⟨[], .nil⟩

instance : Inhabited Submission := ⟨empty⟩

def get? (s : Submission) (name : String) : Option String := s.entries.lookup name

/-- Replaces the text of a name, or puts it behind the others. -/
def insertEntry (name text : String) : List (String × String) → List (String × String)
  | [] => [(name, text)]
  | (n, t) :: rest =>
    if n = name then (name, text) :: rest else (n, t) :: insertEntry name text rest

theorem mem_keys_insertEntry {name text other : String} {entries : List (String × String)} :
    other ∈ (insertEntry name text entries).map Prod.fst ↔
      other = name ∨ other ∈ entries.map Prod.fst := by
  induction entries with
  | nil => simp [insertEntry]
  | cons e rest ih =>
    obtain ⟨n, t⟩ := e
    by_cases hn : n = name
    · simp [insertEntry, hn]
    · simp only [insertEntry, if_neg hn, List.map_cons, List.mem_cons, ih]
      exact or_left_comm

theorem nodup_insertEntry (name text : String) {entries : List (String × String)}
    (h : (entries.map Prod.fst).Nodup) : ((insertEntry name text entries).map Prod.fst).Nodup := by
  induction entries with
  | nil => simp [insertEntry]
  | cons e rest ih =>
    obtain ⟨n, t⟩ := e
    obtain ⟨hfresh, hrest⟩ := List.nodup_cons.mp h
    by_cases hn : n = name
    · subst hn
      simpa [insertEntry] using h
    · rw [insertEntry, if_neg hn, List.map_cons, List.nodup_cons, mem_keys_insertEntry]
      exact ⟨fun hor => hor.elim hn hfresh, ih hrest⟩

def insert (s : Submission) (name text : String) : Submission :=
  ⟨insertEntry name text s.entries, nodup_insertEntry name text s.distinct⟩

def ofList (entries : List (String × String)) : Submission :=
  entries.foldl (fun s (n, t) => s.insert n t) empty

@[simp] theorem get?_empty (name : String) : empty.get? name = none := rfl

theorem lookup_insertEntry (name text : String) (entries : List (String × String))
    (other : String) :
    (insertEntry name text entries).lookup other =
      if other = name then some text else entries.lookup other := by
  induction entries with
  | nil =>
    by_cases h : other = name
    · simp [insertEntry, h]
    · simp [insertEntry, List.lookup_cons, h, beq_false_of_ne h]
  | cons e rest ih =>
    obtain ⟨n, t⟩ := e
    by_cases hn : n = name
    · subst hn
      by_cases h : other = n
      · simp [insertEntry, h]
      · simp [insertEntry, List.lookup_cons, h, beq_false_of_ne h]
    · by_cases h : other = n
      · subst h
        simp [insertEntry, hn]
      · simp [insertEntry, hn, List.lookup_cons, beq_false_of_ne h, ih]

theorem get?_insert (s : Submission) (name text other : String) :
    (s.insert name text).get? other = if other = name then some text else s.get? other :=
  lookup_insertEntry name text s.entries other

/-- A text stands in the one entry of its name. -/
theorem get?_eq_some_iff {s : Submission} {name text : String} :
    s.get? name = some text ↔ (name, text) ∈ s.entries := by
  obtain ⟨entries, hdistinct⟩ := s
  simp only [get?]
  induction entries with
  | nil => simp
  | cons e rest ih =>
    obtain ⟨n, t⟩ := e
    obtain ⟨hfresh, hrest⟩ := List.nodup_cons.mp hdistinct
    by_cases h : name = n
    · subst h
      have habsent : (name, text) ∉ rest := fun hmem =>
        hfresh (List.mem_map.mpr ⟨_, hmem, rfl⟩)
      simp [habsent, eq_comm]
    · simp [List.lookup_cons, beq_false_of_ne h, h, ih hrest]

/-! ## Submissions in JSON -/

open Json.Decoder in
def member (key : String) (s : Submission) : Json.Decoder Submission := do
  return s.insert key (← memberValue string)

/-- A submission is sent as an object whose members are the texts. -/
def parse (body : List UInt8) : Except Json.Failure Submission :=
  Json.Decoder.document (Json.Decoder.dictionary member empty) body

end Submission

/-- The order in which a copy of a submission gives its entries.  It may depend on all of them. -/
structure Arrangement where
  arrange : Submission → Submission
  perm : ∀ s, (arrange s).entries.Perm s.entries

namespace Arrangement

def asGiven : Arrangement := ⟨id, fun _ => .refl _⟩

def backwards : Arrangement where
  arrange s :=
    ⟨s.entries.reverse, (((List.reverse_perm s.entries).map Prod.fst).nodup_iff).mpr s.distinct⟩
  perm s := List.reverse_perm s.entries

/-- What is looked up by its name does not depend on the order. -/
@[simp] theorem get?_arrange (a : Arrangement) (s : Submission) (name : String) :
    (a.arrange s).get? name = s.get? name := by
  apply Option.ext
  intro text
  rw [Submission.get?_eq_some_iff, Submission.get?_eq_some_iff]
  exact (a.perm s).mem_iff

end Arrangement

end Provision
