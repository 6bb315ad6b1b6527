import Provision.Proofs.Configuration.Overlooking

namespace Provision

/-!
# Null sections

A document may be given the sections that it lacks, with nothing behind their names or with a null.
Nothing is read as an empty section, so that the configuration stays the same; a null is refused.
-/

open Yaml

namespace Configuration

/-- A section of which only the name is written, or the name and a null. -/
structure NullSection where
  name : String
  spelling : List Char
  /-- How the name is written. -/
  keyMark : Mark
  keyTag : Option (List Char)
  keyStyle : Style
  /-- Where the null starts. -/
  mark : Mark
  tag : Option (List Char)
  known : name ∈ sections
  null : spelling = [] ∨ Meaning.isNull spelling
  tagged : ∀ t ∈ tag, Meaning.TypeTag.ofTag? t = some .null

namespace NullSection

def node (x : NullSection) : Node := .scalar x.mark none x.tag .plain x.spelling

def entry (x : NullSection) : Node × Node :=
  (.scalar x.keyMark none x.keyTag x.keyStyle x.name.toList, x.node)

def refusalAt (x : NullSection) (path : Path) : Yaml.Failure :=
  .mismatch (.wrongType .nothing "a sequence") (some ⟨path, x.mark.place⟩)

def refusal (x : NullSection) : Yaml.Failure := x.refusalAt [.key x.name.toList]

/-- What becomes of a result when sections are added: the first null is refused. -/
def outcome {α : Type} (added : List NullSection) (a : α) : Except Yaml.Failure α :=
  match added.find? fun x => x.spelling ≠ [] with
  | none => .ok a
  | some x => .error x.refusal

theorem outcome_cons {α : Type} (x : NullSection) (added : List NullSection) (a : α) :
    outcome (x :: added) a = if x.spelling = [] then outcome added a else .error x.refusal := by
  by_cases h : x.spelling = [] <;> simp [outcome, h]

/-- However a null is spelled, messages call it nothing. -/
theorem mismatch_eq_nothing (x : NullSection) (h : x.spelling ≠ []) (expected : String) :
    Meaning.mismatch x.tag .plain x.spelling expected = .wrongType .nothing expected := by
  have hnull : Meaning.isNull x.spelling := x.null.resolve_left h
  rcases htag : x.tag with - | tag
  · simp [Meaning.mismatch, Meaning.scalar, Meaning.plain, hnull]
  · have htype := x.tagged tag htag
    simp [Meaning.mismatch, Meaning.scalar, htype, Meaning.TypeTag.read?, hnull]

/-- A list is empty where only the name of its section is written; a null in its place is refused.
-/
theorem run_list (x : NullSection) {α : Type} (item : Yaml.Decoder α) (path : Path) (root : Node)
    (n : Nat) : ((Decoder.list item path x.node).run root).run n =
      if x.spelling = [] then .ok ([], n) else .error (x.refusalAt path) := by
  rcases htext : x.spelling with - | ⟨c, rest⟩
  · simp only [node, htext]
    rfl
  · have hrun : ((Decoder.list item path x.node).run root).run n = .error (.mismatch
        (Meaning.mismatch x.tag .plain x.spelling "a sequence") (some ⟨path, x.mark.place⟩)) := by
      simp only [node, htext]
      rfl
    rw [hrun, x.mismatch_eq_nothing (by simp [htext])]
    rfl

end NullSection

namespace Fields

def blanked (names : List String) (s : Fields) : Fields where
  actions := if "actions" ∈ names then some [] else s.actions
  checks := if "checks" ∈ names then some [] else s.checks
  values := if "values" ∈ names then some [] else s.values

def Has (s : Fields) (name : String) : Prop :=
  name = "actions" ∧ s.actions.isSome ∨ name = "checks" ∧ s.checks.isSome ∨
    name = "values" ∧ s.values.isSome

theorem made_blanked {names : List String} {s : Fields} (h : ∀ name ∈ names, ¬ s.Has name) :
    (s.blanked names).made = s.made := by
  have hactions : "actions" ∈ names → s.actions = none := by
    intro hname
    simpa [Has] using h _ hname
  have hchecks : "checks" ∈ names → s.checks = none := by
    intro hname
    simpa [Has] using h _ hname
  have hvalues : "values" ∈ names → s.values = none := by
    intro hname
    simpa [Has] using h _ hname
  simp only [made, blanked, Configuration.mk.injEq]
  refine ⟨?_, ?_, ?_⟩ <;> split_ifs with hname <;> simp_all

/-- A field of another name is read beside the empty sections. -/
theorem read_blanked {names : List String} {name : String} (hname : name ∉ names) (s : Fields)
    (path : Path) (node : Node) :
    (s.blanked names).read name path node =
      s.read name path node >>= fun t => return t.blanked names := by
  unfold read
  split_ifs with hactions hchecks hvalues
  · subst hactions
    simp [blanked, hname]
  · subst hchecks
    simp [blanked, hname]
  · subst hvalues
    simp [blanked, hname]
  · simp

/-- The same in a wider document. -/
theorem run_read_beside {root root' value value' : Node} (hroot : root.Widens sections root')
    (hvalue : value.Widens sections value') {names : List String} {name : String}
    (hname : name ∉ names) {s t : Fields} {path : Path} (path' : Path) {n n₁ : Nat}
    (h : ((s.read name path value).run root).run n = .ok (t, n₁)) :
    (((s.blanked names).read name path' value').run root').run n = .ok (t.blanked names, n₁) := by
  obtain ⟨_, h', rfl⟩ := ((overlooks_read name s).agrees hroot hvalue path path').outcome n t n₁ h
  rw [read_blanked hname, Decoding.run_bind_of_ok h']
  rfl

/-- To read one field leaves another unread. -/
theorem yields_read_not_has {name other : String} (hname : name ≠ other) {s : Fields}
    (h : ¬ s.Has other) (path : Path) (node : Node) :
    Yields (fun t : Fields => ¬ t.Has other) (s.read name path node) := by
  have hupdate {β : Type} (d : Decoding β) (f : β → Fields) (hf : ∀ x, ¬ (f x).Has other) :
      Yields (fun t : Fields => ¬ t.Has other) (do return f (← d)) :=
    (Yields.trivial d).bind fun x _ => .pure (hf x)
  unfold read
  split_ifs with hactions hchecks hvalues
  · apply hupdate _ fun x => { s with actions := x }
    simpa [Has, hname.symm, ← hactions] using h
  · apply hupdate _ fun x => { s with checks := x }
    simpa [Has, hname.symm, ← hchecks] using h
  · apply hupdate _ fun x => { s with values := x }
    simpa [Has, hname.symm, ← hvalues] using h
  · exact .pure h

/-- A section that is empty is read as such, and one with a null is refused. -/
theorem run_read_node {name : String} (hname : name ∈ sections) (x : NullSection)
    (names : List String) (s : Fields) (hnew : name ∉ names) (hs : ¬ s.Has name) (path : Path)
    (root : Node) (n : Nat) :
    (((s.blanked names).read name path x.node).run root).run n =
      if x.spelling = [] then .ok (s.blanked (name :: names), n)
      else .error (x.refusalAt path) := by
  have hupdate {α : Type} (item : Yaml.Decoder α) (f : Option (List α) → Fields) :
      ((do return f (← Decoder.once name none (Decoder.list item) path x.node) :
        Decoding Fields).run root).run n =
        if x.spelling = [] then .ok (f (some []), n) else .error (x.refusalAt path) := by
    have honce : ((Decoder.once name none (Decoder.list item) path x.node).run root).run n =
        ((Decoder.list item path x.node).run root).run n >>= fun r => .ok (some r.1, r.2) := rfl
    rw [Decoding.run_bind, honce, x.run_list]
    split_ifs <;> rfl
  obtain rfl | rfl | rfl : name = "actions" ∨ name = "checks" ∨ name = "values" := by
    simpa [sections] using hname
  · have hread : (s.blanked names).actions = none := by simpa [blanked, hnew, Has] using hs
    have hblank : s.blanked ("actions" :: names) =
        { s.blanked names with actions := some [] } := by simp [blanked]
    rw [hblank, read, if_pos rfl, hread]
    exact hupdate _ fun x => { s.blanked names with actions := x }
  · have hread : (s.blanked names).checks = none := by simpa [blanked, hnew, Has] using hs
    have hblank : s.blanked ("checks" :: names) =
        { s.blanked names with checks := some [] } := by simp [blanked]
    rw [hblank, read, if_neg (by decide), if_pos rfl, hread]
    exact hupdate _ fun x => { s.blanked names with checks := x }
  · have hread : (s.blanked names).values = none := by simpa [blanked, hnew, Has] using hs
    have hblank : s.blanked ("values" :: names) =
        { s.blanked names with values := some [] } := by simp [blanked]
    rw [hblank, read, if_neg (by decide), if_neg (by decide), if_pos rfl, hread]
    exact hupdate _ fun x => { s.blanked names with values := x }

end Fields

def keyName? (root : Node) : Node → Option String
  | .scalar _ _ _ _ name => some (String.ofList name)
  | .reference _ number =>
    match Document.target? root number with
    | some (.scalar _ _ _ _ name) => some (String.ofList name)
    | _ => none
  | _ => none

theorem keyName?_of_run_named {root key : Node} {expected : String} {path : Path} {n n₁ : Nat}
    {name : String}
    (h : ((Decoder.named expected path key).run root).run n = .ok (name, n₁)) :
    keyName? root key = some name := by
  obtain ⟨target, n₂, hfollow, hrest⟩ := Decoding.run_bind_eq_ok.mp h
  have htarget : ∃ m anchor tag style text, target = .scalar m anchor tag style text ∧
      String.ofList text = name := by
    rcases target with ⟨m, anchor, tag, style, text⟩ | _ | _ | _
    · cases hrest
      exact ⟨m, anchor, tag, style, text, rfl, rfl⟩
    all_goals cases hrest
  obtain ⟨m, anchor, tag, style, text, rfl, rfl⟩ := htarget
  cases key with
  | reference m number =>
      rw [Decoder.run_follow_reference] at hfollow
      split_ifs at hfollow
      rcases ht : Document.target? root number with - | target
      · rw [ht] at hfollow
        cases hfollow
      · rw [ht] at hfollow
        cases hfollow
        simp [keyName?, ht]
  | _ =>
      cases hfollow
      try rfl

/-- Entries are given sections, at any places; where the entries start may change. -/
inductive Inserted : List (Node × Node) → List (Node × Node) → List NullSection → Prop
  | nil : Inserted [] [] []
  | keep {key key' value value' : Node} {rest rest' : List (Node × Node)}
      {added : List NullSection} (hkey : key.Widens [] key') (hvalue : value.Widens [] value')
      (hrest : Inserted rest rest' added) :
      Inserted ((key, value) :: rest) ((key', value') :: rest') added
  | insert (x : NullSection) {entries entries' : List (Node × Node)} {added : List NullSection}
      (hrest : Inserted entries entries' added) :
      Inserted entries (x.entry :: entries') (x :: added)

theorem Inserted.widen {entries entries' : List (Node × Node)} {added : List NullSection}
    (h : Inserted entries entries' added) : Node.EntriesWiden sections entries entries' := by
  induction h with
  | nil => exact .nil
  | keep hkey hvalue _ ih =>
      exact .keep (hkey.mono (List.nil_subset _)) (hvalue.mono (List.nil_subset _)) ih
  | insert x _ ih => exact .add _ _ _ (by simpa using x.known) rfl ih

/-- A field that no entry is for is still unread at the end. -/
theorem not_has_of_run_fields {root : Node} {entries : List (Node × Node)} {other : String}
    (hlack : ∀ e ∈ entries, keyName? root e.1 ≠ some other) {s t : Fields} {n n₁ : Nat}
    (hs : ¬ s.Has other)
    (hrun : ((Decoder.fields Fields.read [] s entries).run root).run n = .ok (t, n₁)) :
    ¬ t.Has other := by
  induction entries generalizing s n with
  | nil =>
      cases hrun
      exact hs
  | cons e entries ih =>
      obtain ⟨name, n₂, hname, hrun⟩ := Decoding.run_bind_eq_ok.mp hrun
      obtain ⟨s₁, n₃, hfield, hrun⟩ := Decoding.run_bind_eq_ok.mp hrun
      have hother : name ≠ other := by
        rintro rfl
        exact hlack _ List.mem_cons_self (keyName?_of_run_named hname)
      exact ih (fun e he => hlack e (List.mem_cons_of_mem _ he))
        ((Fields.yields_read_not_has hother hs _ _).outcome _ _ _ _ hfield) hrun

/-- The sections named so far are read as empty beside the fields of the entries. -/
theorem run_fields_inserted {root root' : Node} (hroot : root.Widens sections root')
    {entries entries' : List (Node × Node)} {added : List NullSection}
    (h : Inserted entries entries' added) {names : List String} {s t : Fields} {n n₁ : Nat}
    (hrun : ((Decoder.fields Fields.read [] s entries).run root).run n = .ok (t, n₁))
    (hlack : ∀ e ∈ entries, ∀ name ∈ names ++ added.map (·.name), keyName? root e.1 ≠ some name)
    (hs : ∀ name ∈ names ++ added.map (·.name), ¬ s.Has name)
    (hnew : (names ++ added.map (·.name)).Nodup) :
    ((Decoder.fields Fields.read [] (s.blanked names) entries').run root').run n =
      NullSection.outcome added (t.blanked ((added.map (·.name)).reverse ++ names), n₁) := by
  induction h generalizing names s n with
  | nil =>
      cases hrun
      rfl
  | @keep key key' value value' rest rest' added hkey hvalue _ ih =>
      obtain ⟨name, n₂, hname, hrun⟩ := Decoding.run_bind_eq_ok.mp hrun
      obtain ⟨s₁, n₃, hfield, hrun⟩ := Decoding.run_bind_eq_ok.mp hrun
      have hother : ∀ other ∈ names ++ added.map (·.name), name ≠ other := by
        rintro other hmem rfl
        exact hlack _ List.mem_cons_self name hmem (keyName?_of_run_named hname)
      have hs₁ : ∀ other ∈ names ++ added.map (·.name), ¬ s₁.Has other := by
        intro other hmem
        exact (Fields.yields_read_not_has (hother other hmem) (hs other hmem) _ _).outcome _ _ _ _
          hfield
      obtain ⟨_, hname', rfl⟩ := ((Overlooks.named "field identifier").agrees hroot
        (hkey.mono (List.nil_subset _)) [] []).outcome n name n₂ hname
      have hfield' := Fields.run_read_beside hroot (hvalue.mono (List.nil_subset _))
        (fun hmem => hother name (List.mem_append_left _ hmem) rfl) [Decoder.stepTo key'] hfield
      rw [Decoder.fields_cons, Decoding.run_bind_of_ok hname', Decoding.run_bind_of_ok hfield']
      exact ih hrun (fun e he => hlack e (List.mem_cons_of_mem _ he)) hs₁ hnew
  | @insert x entries entries' added _ ih =>
      -- the new section moves from those to come to those that are named
      have hmove : (names ++ x.name :: added.map (·.name)).Perm
          (x.name :: names ++ added.map (·.name)) := List.perm_middle
      have hnew' : (x.name :: names ++ added.map (·.name)).Nodup := hmove.nodup_iff.mp hnew
      have hrest := ih hrun (fun e he name hmem => hlack e he name (hmove.mem_iff.mpr hmem))
        (fun name hmem => hs name (hmove.mem_iff.mpr hmem)) hnew'
      have hnode := Fields.run_read_node x.known x names s
        (fun hmem => (List.nodup_cons.mp hnew').1 (List.mem_append_left _ hmem)) (hs _ (by simp))
        [.key x.name.toList] root' n
      show ((Decoder.fields Fields.read [] (s.blanked names)
        ((.scalar x.keyMark none x.keyTag x.keyStyle x.name.toList, x.node) :: entries')).run
          root').run n = _
      rw [Decoder.fields_cons_scalar, String.ofList_toList, Decoding.run_bind, hnode,
        NullSection.outcome_cons]
      split_ifs
      · rw [List.map_cons, List.reverse_cons, List.append_assoc]
        exact hrest
      · rfl

/-! ## Documents -/

/-- A document is given sections.  One that has no sections at all becomes a map of them. -/
inductive Completed : Document → Document → List NullSection → Prop
  | sections {m m' : Mark} {anchor : Option Nat} {entries entries' : List (Node × Node)}
      {alone : Bool} {added : List NullSection} (h : Inserted entries entries' added)
      (hlack : ∀ e ∈ entries, ∀ x ∈ added, keyName? (.map m anchor entries) e.1 ≠ some x.name)
      (hnew : (added.map (·.name)).Nodup) :
      Completed ⟨some (.map m anchor entries), alone⟩ ⟨some (.map m' anchor entries'), alone⟩ added
  | nothing {d : Document} (m : Mark) (anchor : Option Nat) {added : List NullSection}
      (hd : ∀ n ∈ d.root, ∃ m' anchor' tag style text, n = .scalar m' anchor' tag style text)
      (hnew : (added.map (·.name)).Nodup) :
      Completed d ⟨some (.map m anchor (added.map NullSection.entry)), true⟩ added

def Fields.ofEntries (root : Node) (entries : List (Node × Node)) :
    Except Yaml.Failure (Fields × Nat) :=
  ((Decoder.fields Fields.read [] {} entries).run root).run 0

/-- What is read from a document whose root is a map. -/
theorem parse_map {text : String} {m : Mark} {anchor : Option Nat} {entries : List (Node × Node)}
    {alone : Bool} (h : Document.ofText? text.toList = some ⟨some (.map m anchor entries), alone⟩) :
    parse text =
      match Fields.ofEntries (.map m anchor entries) entries with
      | .ok (s, _) => if alone then .ok s.made else .error .severalDocuments
      | .error e => .error (e.locate [] m.place) := by
  let root : Node := .map m anchor entries
  have hoptional : ((Decoder.optional decoder [] root).run root).run 0 =
      tryCatch (Fields.ofEntries root entries >>= fun r => .ok (r.1.made, r.2))
        (fun e => .error (e.locate [] m.place)) >>= fun r => .ok (some r.1, r.2) := rfl
  rw [parse, parse?, Decoder.document, h]
  show ((((Decoder.optional decoder [] root).run root).run 0 >>=
    fun r => if alone then .ok r.1 else .error .severalDocuments) >>= _) = _
  rw [hoptional]
  rcases Fields.ofEntries root entries with e | ⟨s, n⟩
  · rfl
  · cases alone <;> rfl

theorem eq_empty_of_parse_scalar {text : String} {m : Mark} {anchor : Option Nat}
    {tag : Option (List Char)} {style : Style} {name : List Char} {alone : Bool} {c : Configuration}
    (hd : Document.ofText? text.toList = some ⟨some (.scalar m anchor tag style name), alone⟩)
    (hc : parse text = .ok c) : c = empty := by
  have hfollow : Yields (· = .scalar m anchor tag style name)
      (Decoder.follow (.scalar m anchor tag style name)) := .pure rfl
  have hdecoder : ∀ target, target = .scalar m anchor tag style name →
      Yields (· = empty) (decoder [] target) := by
    rintro _ rfl
    rw [decoder_eq_record]
    apply hfollow.bind
    rintro _ rfl
    rcases style with - | - | - | - | -
    case plain =>
      cases name with
      | nil =>
          apply Yields.located
          exact .pure rfl
      | cons => exact .reject ..
    all_goals exact .reject ..
  rcases hread : parse? text with e | o
  · simp [parse, hread, bind, Except.bind] at hc
  · have ho := Yields.document_of_root (Yields.optional_of_follow hfollow hdecoder) hd hread
    have hget : o.getD empty = c := by
      simpa [parse, hread, bind, Except.bind, pure, Except.pure] using hc
    rw [← hget]
    rcases o with - | d
    · rfl
    · exact ho d rfl

theorem inserted_map_entry (added : List NullSection) :
    Inserted [] (added.map NullSection.entry) added := by
  induction added with
  | nil => exact .nil
  | cons x rest ih => exact .insert x ih

/-- The sections are added to a map of entries of which the fields are known. -/
theorem parse_inserted {text' : String} {m m' : Mark} {anchor : Option Nat}
    {entries entries' : List (Node × Node)} {added : List NullSection}
    (hd' : Document.ofText? text'.toList = some ⟨some (.map m' anchor entries'), true⟩)
    (h : Inserted entries entries' added)
    (hlack : ∀ e ∈ entries, ∀ x ∈ added, keyName? (.map m anchor entries) e.1 ≠ some x.name)
    (hnew : (added.map (·.name)).Nodup) {s : Fields} {n : Nat}
    (hrun : Fields.ofEntries (.map m anchor entries) entries = .ok (s, n)) :
    parse text' = NullSection.outcome added s.made := by
  have hlack' : ∀ e ∈ entries, ∀ name ∈ [] ++ added.map (·.name),
      keyName? (.map m anchor entries) e.1 ≠ some name := by
    intro e he name hname
    obtain ⟨x, hx, rfl⟩ := List.mem_map.mp hname
    exact hlack e he x hx
  have hrun' := run_fields_inserted (.map m m' anchor h.widen) h hrun hlack'
    (by simp [Fields.Has]) hnew
  have hblank : Fields.blanked [] {} = {} := by simp [Fields.blanked]
  rw [hblank] at hrun'
  change Fields.ofEntries (.map m' anchor entries') entries' = _ at hrun'
  have hmade : (s.blanked ((added.map (·.name)).reverse ++ [])).made = s.made := by
    apply Fields.made_blanked
    intro name hname
    have hmem : name ∈ [] ++ added.map (·.name) := by simpa using hname
    exact not_has_of_run_fields (fun e he => hlack' e he name hmem) (by simp [Fields.Has]) hrun
  rw [parse_map hd', hrun', ← hmade]
  rcases hnull : added.find? fun x => x.spelling ≠ [] with - | x
  · simp only [NullSection.outcome, hnull, if_true]
  · simp only [NullSection.outcome, hnull]
    rfl

/-- A document that has been accepted is still accepted, as the same configuration, if nothing is
written in any of its new sections.  Otherwise the first null among them is refused. -/
theorem parse_completed {text text' : String} {d d' : Document} {added : List NullSection}
    {c : Configuration} (hc : parse text = .ok c) (hd : Document.ofText? text.toList = some d)
    (hd' : Document.ofText? text'.toList = some d') (h : Completed d d' added) :
    parse text' = NullSection.outcome added c := by
  cases h with
  | @sections m m' anchor entries entries' alone added h hlack hnew =>
      rw [parse_map hd] at hc
      rcases hrun : Fields.ofEntries (.map m anchor entries) entries with e | ⟨s, n⟩
      · rw [hrun] at hc
        cases hc
      · rw [hrun] at hc
        dsimp only at hc
        split_ifs at hc with halone
        cases hc
        subst halone
        exact parse_inserted hd' h hlack hnew hrun
  | @nothing d m anchor added hroot hnew =>
      have hempty : c = empty := by
        rcases d with ⟨root | root, alone⟩
        · rw [parse, parse?, Decoder.document, hd] at hc
          cases hc
          rfl
        · obtain ⟨m', anchor', tag, style, name, rfl⟩ := hroot root rfl
          exact eq_empty_of_parse_scalar hd hc
      have hstart : Fields.ofEntries (.map m anchor []) [] = .ok ({}, 0) := rfl
      rw [hempty]
      exact parse_inserted hd' (inserted_map_entry added) (by simp) hnew hstart

def emptyActions : NullSection :=
  ⟨"actions", [], ⟨0, 0, 0⟩, none, .plain, ⟨8, 0, 8⟩, none, by decide, .inl rfl, by simp⟩

def nullChecks : NullSection :=
  ⟨"checks", "Null".toList, ⟨38, 2, 0⟩, none, .plain, ⟨46, 2, 8⟩, none, by decide, .inr (by decide),
    by simp⟩

theorem parse_completed_shared :
    parse "values: [&a {name: psk}, *a]" = .ok ⟨[], [], [⟨"psk", "", false⟩, ⟨"psk", "", false⟩]⟩ ∧
    parse "actions:\nvalues: [&a {name: psk}, *a]\nchecks: Null" =
      .error (nullChecks.refusalAt [.key "checks".toList]) := by
  have hc : parse "values: [&a {name: psk}, *a]" =
      .ok ⟨[], [], [⟨"psk", "", false⟩, ⟨"psk", "", false⟩]⟩ := by
    have hread : parse? "values: [&a {name: psk}, *a]" =
        .ok (some ⟨[], [], [⟨"psk", "", false⟩, ⟨"psk", "", false⟩]⟩) :=
      parse?_eq_of_values (by decide +kernel)
    rw [parse, hread]
    rfl
  have hvalue : Node.EntriesWiden []
      [(.scalar ⟨13, 0, 13⟩ none none .plain "name".toList,
        .scalar ⟨19, 0, 19⟩ none none .plain "psk".toList)]
      [(.scalar ⟨22, 1, 13⟩ none none .plain "name".toList,
        .scalar ⟨28, 1, 19⟩ none none .plain "psk".toList)] :=
    .keep (.scalar ..) (.scalar ..) .nil
  have hvalues : Node.ItemsWiden []
      [.map ⟨9, 0, 9⟩ (some 0) _, .reference ⟨25, 0, 25⟩ 0]
      [.map ⟨18, 1, 9⟩ (some 0) _, .reference ⟨34, 1, 25⟩ 0] :=
    .cons (.map _ _ _ hvalue) (.cons (.reference ..) .nil)
  have hinserted : Inserted _ _ [emptyActions, nullChecks] :=
    .insert emptyActions (.keep (.scalar ⟨0, 0, 0⟩ ⟨9, 1, 0⟩ none none .plain "values".toList)
      (.list ⟨8, 0, 8⟩ ⟨17, 1, 8⟩ none hvalues) (.insert nullChecks .nil))
  have hcompleted : Completed ⟨some (.map ⟨0, 0, 0⟩ none _), true⟩
      ⟨some (.map ⟨0, 0, 0⟩ none _), true⟩ [emptyActions, nullChecks] :=
    .sections hinserted (by simp [keyName?, emptyActions, nullChecks]) (by decide)
  exact ⟨hc, parse_completed hc (by decide +kernel) (by decide +kernel) hcompleted⟩

/-- The null that stands for the actions is refused at its own place. -/
theorem null_refused :
    parse "values: [{name: psk}]" = .ok ⟨[], [], [⟨"psk", "", false⟩]⟩ ∧
    parse "values: [{name: psk}]\nactions: ~" = .error (.mismatch (.wrongType .nothing "a sequence")
      (some ⟨[.key "actions".toList], ⟨2, 10⟩⟩)) := by
  have hrefused : (match parse "values: [{name: psk}]\nactions: ~" with
      | .error e => decide (e = .mismatch (.wrongType .nothing "a sequence")
          (some ⟨[.key "actions".toList], ⟨2, 10⟩⟩))
      | .ok _ => false) = true := by
    decide +kernel
  constructor
  · have hread : parse? "values: [{name: psk}]" = .ok (some ⟨[], [], [⟨"psk", "", false⟩]⟩) :=
      parse?_eq_of_values (by decide +kernel)
    rw [parse, hread]
    rfl
  · rcases he : parse "values: [{name: psk}]\nactions: ~" with e | c
    · rw [he] at hrefused
      rw [of_decide_eq_true hrefused]
    · rw [he] at hrefused
      cases hrefused

end Configuration

end Provision
