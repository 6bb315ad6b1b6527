import Provision.Proofs.Configuration.PatternOrder
import Provision.Proofs.Text.Order

namespace Provision

/-!
# What is loaded, and what fails first

The patterns are followed before any file is read.  The first that is malformed, or that leads to a
directory which cannot be looked into, is reported.  The files that match are read in the order of
the bytes of their base names, and merged one after the other up to the first that cannot be read.
-/

namespace Pattern

def fault? (pattern : String) : Option PatternError :=
  match parse pattern.toList with
  | .error e => some e
  | .ok _ =>
    match components (pieces (if Path.isAbsolute pattern then pattern.toList.drop 1
      else pattern.toList)) with
    | .error e => some e
    | .ok _ => none

/-- No tree makes a pattern malformed or well-formed. -/
theorem paths_eq_error_iff {t : FileTree} {pattern : String} {e : PatternError} :
    paths t pattern = .error e ↔ fault? pattern = some e := by
  simp only [fault?, paths]
  rcases parse pattern.toList with e' | p
  · simp [bind, Except.bind]
  · rcases components (pieces (if Path.isAbsolute pattern then pattern.toList.drop 1
      else pattern.toList)) with e' | ps
    · simp [bind, Except.bind]
    · simp [bind, Except.bind, pure, Except.pure]

end Pattern

namespace Configuration

/-- The paths in the order of the bytes of their base names; those of one name in the order in which
they are found. -/
structure InOrder (paths sorted : List String) : Prop where
  perm : sorted.Perm paths
  sorted_bytes : sorted.Pairwise fun p q =>
    ¬ Text.utf8 (Path.baseName q) < Text.utf8 (Path.baseName p)
  ties : ∀ name, (sorted.filter fun p => Path.baseName p = name) =
    paths.filter fun p => Path.baseName p = name

/-- A file that has been read as a document. -/
def Holds (t : FileTree) (path : String) (c : Configuration) : Prop :=
  ∃ text, t.readText path = .ok text ∧ parse text = .ok c

/-- Why a pattern cannot be followed. -/
inductive Stops (t : FileTree) (pattern : String) : Failure → Prop
  | malformed {e : PatternError} (h : Pattern.fault? pattern = some e) :
      Stops t pattern (.invalidPattern pattern e.message)
  /-- What is found before the first directory that cannot be looked into does not matter. -/
  | blocked {paths : List String} {u : Pattern.Unlisted} {rest : List Pattern.Match}
      (h : Pattern.paths t pattern = .ok (paths.map .ok ++ .error u :: rest)) :
      Stops t pattern (.unreadable u.path u.cause)

/-! ## The order of the files -/

/-- Sorting keeps the paths of one name in their order. -/
theorem filter_ordered (paths : List String) (name : String) :
    ((ordered paths).filter fun p => Path.baseName p = name) =
      paths.filter fun p => Path.baseName p = name := by
  have hlevel : (paths.filter fun p => Path.baseName p = name).Pairwise fun p q =>
      (!decide (Path.baseName q < Path.baseName p)) = true := by
    apply List.pairwise_of_forall_mem_list
    intro p hp q hq
    have hname : Path.baseName p = name := of_decide_eq_true (List.mem_filter.mp hp).2
    have hname' : Path.baseName q = name := of_decide_eq_true (List.mem_filter.mp hq).2
    simp [hname, hname']
  have hkept : (paths.filter fun p => Path.baseName p = name).Sublist (ordered paths) :=
    List.sublist_mergeSort keepsOrder_trans keepsOrder_total hlevel List.filter_sublist
  have hsub := hkept.filter fun p => Path.baseName p = name
  rw [List.filter_filter] at hsub
  simp only [Bool.and_self] at hsub
  apply Eq.symm
  apply hsub.eq_of_length
  exact ((ordered_perm paths).filter _).length_eq.symm

theorem ordered_inOrder (paths : List String) : InOrder paths (ordered paths) where
  perm := ordered_perm paths
  sorted_bytes := by
    refine (ordered_sorted paths).imp fun h => ?_
    rw [Text.utf8_lt_iff]
    exact not_lt.mpr h
  ties := filter_ordered paths

/-- The first path of a sorted list has the least name, and among those of that name it is the one
that is found first. -/
theorem eq_of_sorted_of_ties {ps qs : List String} (h : ps.Perm qs)
    (hps : ps.Pairwise fun p q => Path.baseName p ≤ Path.baseName q)
    (hqs : qs.Pairwise fun p q => Path.baseName p ≤ Path.baseName q)
    (hties : ∀ name, (ps.filter fun p => Path.baseName p = name) =
      qs.filter fun p => Path.baseName p = name) : ps = qs := by
  induction ps generalizing qs with
  | nil => exact h.nil_eq
  | cons p ps ih =>
      obtain ⟨q, qs, rfl⟩ := List.exists_cons_of_ne_nil (l := qs) fun hnil =>
        List.cons_ne_nil p ps (hnil ▸ h).eq_nil
      obtain ⟨hfirst, hrestps⟩ := List.pairwise_cons.mp hps
      obtain ⟨hfirst', hrestqs⟩ := List.pairwise_cons.mp hqs
      have hname : Path.baseName p = Path.baseName q := by
        apply le_antisymm
        · rcases List.mem_cons.mp (h.mem_iff.mpr List.mem_cons_self) with rfl | hq
          · exact le_rfl
          · exact hfirst q hq
        · rcases List.mem_cons.mp (h.mem_iff.mp List.mem_cons_self) with rfl | hp
          · exact le_rfl
          · exact hfirst' p hp
      obtain rfl : p = q := by
        have hhead := hties (Path.baseName p)
        simp only [List.filter_cons, hname, decide_true, if_true, List.cons.injEq] at hhead
        exact hhead.1
      rw [ih h.cons_inv hrestps hrestqs]
      intro name
      have hrest := hties name
      by_cases hp : Path.baseName p = name <;> simpa [List.filter_cons, hp] using hrest

/-- There is no other such order: paths of one base name stay as they are found. -/
theorem InOrder.eq_ordered {paths sorted : List String} (h : InOrder paths sorted) :
    sorted = ordered paths := by
  apply eq_of_sorted_of_ties
  · exact h.perm.trans (ordered_perm paths).symm
  · exact h.sorted_bytes.imp fun hpq => not_lt.mp (Text.utf8_lt_iff.not.mp hpq)
  · exact ordered_sorted paths
  · exact fun name => (h.ties name).trans (filter_ordered paths name).symm

variable {t : FileTree} {c : Configuration}

theorem parse_eq_error_iff {text : String} {e : Yaml.Failure} :
    parse text = .error e ↔ parse? text = .error e := by
  rcases hp : parse? text with e' | d <;> simp [parse, hp, bind, Except.bind, pure, Except.pure]

/-- The document in a file is what its text declares; an empty one declares nothing. -/
theorem exists_ofFile_iff {path : String} {d : Configuration} :
    (∃ read, ofFile t path = .ok read ∧ read.getD empty = d) ↔ Holds t path d := by
  rcases ht : t.readText path with e | text
  · simp [ofFile, Holds, ht]
  · rcases hp : parse? text with e | read <;>
      simp [ofFile, Holds, ht, parse, hp, bind, Except.bind, pure, Except.pure, Except.mapError]

theorem Holds.declaredIn_eq {path : String} {d : Configuration} (h : Holds t path d) :
    declaredIn t path = d := by
  obtain ⟨read, hread, rfl⟩ := exists_ofFile_iff.mpr h
  rw [declaredIn, hread]

/-! ## The fold over the files -/

/-- Files that hold documents are merged into the configuration one after the other; what follows
them goes on from there. -/
theorem ofFiles_append {before rest : List String} {doc : String → Configuration}
    (h : ∀ p ∈ before, Holds t p (doc p)) :
    ofFiles t c (before ++ rest) =
      ofFiles t (before.foldl (fun c p => c.merge (doc p)) c) rest := by
  induction before generalizing c with
  | nil => rfl
  | cons p before ih =>
      obtain ⟨hp, hbefore⟩ := List.forall_mem_cons.mp h
      obtain ⟨read, hread, hdoc⟩ := exists_ofFile_iff.mpr hp
      rw [List.foldl_cons, ← ih hbefore, List.cons_append, ofFiles, hread, ← hdoc]
      cases read with
      | none => rw [Option.getD_none, merge_empty]; rfl
      | some d => rfl

theorem foldl_merge_entries (doc : String → Configuration) (paths : List String) :
    let d := paths.foldl (fun c p => c.merge (doc p)) c
    d.actions = c.actions ++ paths.flatMap (fun p => (doc p).actions) ∧
      d.checks = c.checks ++ paths.flatMap (fun p => (doc p).checks) ∧
      d.values = c.values ++ paths.flatMap (fun p => (doc p).values) := by
  induction paths generalizing c with
  | nil => simp
  | cons p rest ih => simpa [merge] using ih (c := c.merge (doc p))

/-! ## The patterns that cannot be followed -/

theorem pathsOf_blocked (paths : List String) (u : Pattern.Unlisted) (rest : List Pattern.Match) :
    pathsOf (paths.map .ok ++ .error u :: rest) = .error (.unreadable u.path u.cause) := by
  induction paths with
  | nil => rfl
  | cons p paths ih => rw [List.map_cons, List.cons_append, pathsOf, ih]; rfl

theorem matching_stops {pattern : String} {f : Failure} (h : Stops t pattern f)
    (after : List String) : matching t (pattern :: after) = .error f := by
  cases h with
  | malformed h =>
      rw [matching, Pattern.paths_eq_error_iff.mpr h]
      rfl
  | blocked h =>
      rw [matching, h]
      simp only [pathsOf_blocked]
      rfl

/-- The first pattern that cannot be followed decides, whatever comes after it. -/
theorem matching_append_stops {before : List String} {pattern : String} {f : Failure}
    (hbefore : ∀ p ∈ before, Followed t p) (h : Stops t pattern f) (after : List String) :
    matching t (before ++ pattern :: after) = .error f := by
  induction before with
  | nil => exact matching_stops h after
  | cons p before ih =>
      obtain ⟨⟨paths, hp⟩, hrest⟩ := List.forall_mem_cons.mp hbefore
      rw [List.cons_append, matching_cons hp, ih hrest]
      rfl

/-- Among what is found there may be a first directory that cannot be looked into. -/
theorem eq_map_ok_or_exists_blocked (l : List Pattern.Match) :
    (∃ paths : List String, l = paths.map .ok) ∨
      ∃ (paths : List String) (u : Pattern.Unlisted) (rest : List Pattern.Match),
        l = paths.map .ok ++ .error u :: rest := by
  induction l with
  | nil => exact .inl ⟨[], rfl⟩
  | cons m l ih =>
      rcases m with u | p
      · exact .inr ⟨[], u, l, rfl⟩
      · rcases ih with ⟨paths, rfl⟩ | ⟨paths, u, rest, rfl⟩
        · exact .inl ⟨p :: paths, rfl⟩
        · exact .inr ⟨p :: paths, u, rest, rfl⟩

theorem followed_or_exists_stops (t : FileTree) (pattern : String) :
    Followed t pattern ∨ ∃ f, Stops t pattern f := by
  rcases hp : Pattern.paths t pattern with e | l
  · exact .inr ⟨_, .malformed (Pattern.paths_eq_error_iff.mp hp)⟩
  · rcases eq_map_ok_or_exists_blocked l with ⟨paths, rfl⟩ | ⟨paths, u, rest, rfl⟩
    · exact .inl ⟨paths, hp⟩
    · exact .inr ⟨_, .blocked hp⟩

/-- Either all patterns can be followed, or there is a first one that cannot. -/
theorem followed_or_exists_first (t : FileTree) (patterns : List String) :
    (∀ p ∈ patterns, Followed t p) ∨
      ∃ before pattern after f, patterns = before ++ pattern :: after ∧
        (∀ p ∈ before, Followed t p) ∧ Stops t pattern f := by
  induction patterns with
  | nil => exact .inl (List.forall_mem_nil _)
  | cons p rest ih =>
      rcases followed_or_exists_stops t p with hp | ⟨f, hf⟩
      · rcases ih with hrest | ⟨before, pattern, after, f, rfl, hbefore, hf⟩
        · exact .inl (List.forall_mem_cons.mpr ⟨hp, hrest⟩)
        · exact .inr ⟨p :: before, pattern, after, f, rfl,
            List.forall_mem_cons.mpr ⟨hp, hbefore⟩, hf⟩
      · exact .inr ⟨[], p, rest, f, rfl, List.forall_mem_nil _, hf⟩

/-- All patterns can be followed, or there is a first that cannot; then loading reports why, and no
file is read.  Otherwise it goes over the files that match in the order of their base names: it
merges their documents one into the other, and it reports the first file that it cannot read. -/
theorem load_eq_fold (t : FileTree) (patterns : List String) :
    ((∀ p ∈ patterns, Followed t p) ∨
      ∃ before pattern after f, patterns = before ++ pattern :: after ∧
        (∀ p ∈ before, Followed t p) ∧ Stops t pattern f) ∧
    (∀ before pattern after f, patterns = before ++ pattern :: after →
      (∀ p ∈ before, Followed t p) → Stops t pattern f → load t patterns = .error f) ∧
    ((∀ p ∈ patterns, Followed t p) →
      (∃! sorted, InOrder (patterns.flatMap (found t)) sorted) ∧
      ∀ sorted, InOrder (patterns.flatMap (found t)) sorted →
        (∀ doc : String → Configuration, (∀ path ∈ sorted, Holds t path (doc path)) →
          ∃ c, load t patterns = .ok c ∧
            c = sorted.foldl (fun c path => c.merge (doc path)) empty ∧
            c.actions = sorted.flatMap (fun path => (doc path).actions) ∧
            c.checks = sorted.flatMap (fun path => (doc path).checks) ∧
            c.values = sorted.flatMap (fun path => (doc path).values)) ∧
        ∀ before path after, sorted = before ++ path :: after →
          (∀ p ∈ before, ∃ c, Holds t p c) →
            (∀ e, t.readText path = .error e → load t patterns = .error (.unreadable path e)) ∧
            ∀ text e, t.readText path = .ok text → parse text = .error e →
              load t patterns = .error (.malformedFile path e)) := by
  refine ⟨followed_or_exists_first t patterns, ?_, fun hfollowed => ?_⟩
  · rintro before pattern after f rfl hbefore hf
    rw [load, matching_append_stops hbefore hf]
    rfl
  · have hmatching : matching t patterns = .ok (patterns.flatMap (found t)) :=
      matching_eq_ok_iff.mpr ⟨hfollowed, rfl⟩
    refine ⟨⟨_, ordered_inOrder _, fun _ h => h.eq_ordered⟩, fun sorted horder => ?_⟩
    have hload : load t patterns = ofFiles t empty sorted := by
      rw [load, hmatching, horder.eq_ordered]
      rfl
    refine ⟨fun doc hdoc => ?_, fun before path after hsorted hbefore => ?_⟩
    · have hfold : ofFiles t empty (sorted ++ []) =
          .ok (sorted.foldl (fun c path => c.merge (doc path)) empty) := ofFiles_append hdoc
      rw [List.append_nil, ← hload] at hfold
      refine ⟨_, hfold, rfl, ?_⟩
      simpa [empty] using foldl_merge_entries (c := empty) doc sorted
    · have hdeclared : ∀ p ∈ before, Holds t p (declaredIn t p) := fun p hp => by
        obtain ⟨c, hc⟩ := hbefore p hp
        exact hc.declaredIn_eq.symm ▸ hc
      rw [hload, hsorted, ofFiles_append hdeclared]
      constructor
      · intro e he
        simp [ofFiles, ofFile, he, bind, Except.bind]
      · intro text e htext he
        simp [ofFiles, ofFile, htext, parse_eq_error_iff.mp he, bind, Except.bind, Except.mapError]

theorem stops_barred :
    Stops (neighbours.bar "b") "b/?" (.unreadable "b" .permissionDenied) := by
  have hblocked : Pattern.paths (neighbours.bar "b") "b/?" =
      .ok (([] : List String).map .ok ++ .error ⟨"b", .permissionDenied⟩ :: []) := by
    decide +kernel
  exact .blocked hblocked

theorem load_neighbours :
    load neighbours ["b/1", "a/1"] = .ok ⟨[], [], [⟨"q", "", false⟩, ⟨"p", "", false⟩]⟩ ∧
      load neighbours ["b", "a/1"] = .error (.unreadable "b" .isDirectory) ∧
      load neighbours ["a/1", "[", "***"] =
        .error (.invalidPattern "["
          "Pattern syntax error near position 0: invalid range pattern") ∧
      load (neighbours.bar "b") ["a/1", "b/?", "["] =
        .error (.unreadable "b" .permissionDenied) := by
  obtain ⟨ha, hb, -⟩ := paths_neighbours
  obtain ⟨hp, hq, -⟩ := ofFile_neighbours
  have hdirectory : Pattern.paths neighbours "b" = .ok (["b"].map .ok) := by decide +kernel
  have hread : Holds neighbours "a/1" ⟨[], [], [⟨"p", "", false⟩]⟩ ∧
      Holds neighbours "b/1" ⟨[], [], [⟨"q", "", false⟩]⟩ :=
    ⟨exists_ofFile_iff.mp ⟨_, hp, rfl⟩, exists_ofFile_iff.mp ⟨_, hq, rfl⟩⟩
  refine ⟨?_, ?_, ?_, ?_⟩
  · obtain ⟨-, h⟩ := (load_eq_fold neighbours ["b/1", "a/1"]).2.2
      (by simpa using ⟨⟨_, hb⟩, ⟨_, ha⟩⟩)
    simp only [List.flatMap_cons, List.flatMap_nil, found_eq ha, found_eq hb, List.append_nil,
      List.cons_append, List.nil_append] at h
    have horder : InOrder ["b/1", "a/1"] ["b/1", "a/1"] :=
      ⟨.refl _, by simp; decide, fun _ => rfl⟩
    have hdoc : ∀ path ∈ ["b/1", "a/1"], Holds neighbours path (declaredIn neighbours path) := by
      simpa [hread.1.declaredIn_eq, hread.2.declaredIn_eq] using hread.symm
    obtain ⟨c, hc, rfl, -⟩ := (h _ horder).1 (declaredIn neighbours) hdoc
    rw [hc]
    simp [hread.1.declaredIn_eq, hread.2.declaredIn_eq, merge, empty]
  · obtain ⟨-, h⟩ := (load_eq_fold neighbours ["b", "a/1"]).2.2
      (by simpa using ⟨⟨_, hdirectory⟩, ⟨_, ha⟩⟩)
    simp only [List.flatMap_cons, List.flatMap_nil, found_eq ha, found_eq hdirectory,
      List.append_nil, List.cons_append, List.nil_append] at h
    have hnames : Path.baseName "b" ≠ Path.baseName "a/1" := by decide
    have horder : InOrder ["b", "a/1"] ["a/1", "b"] := by
      refine ⟨.swap _ _ [], by simp; decide, fun name => ?_⟩
      by_cases hname : Path.baseName "b" = name
      · subst hname
        simp [hnames.symm]
      · simp [List.filter_cons, hname]
    obtain ⟨hfails, -⟩ := (h _ horder).2 ["a/1"] "b" [] rfl (by simpa using ⟨_, hread.1⟩)
    exact hfails _ rfl
  · have hfault : Pattern.fault? "[" = some ⟨0, Pattern.openBracket⟩ := by decide +kernel
    exact (load_eq_fold neighbours ["a/1", "[", "***"]).2.1 ["a/1"] "[" ["***"] _ rfl
      (by simpa using ⟨_, ha⟩) (.malformed hfault)
  · have hbarred : Pattern.paths (neighbours.bar "b") "a/1" = .ok (["a/1"].map .ok) := by
      decide +kernel
    exact (load_eq_fold (neighbours.bar "b") ["a/1", "b/?", "["]).2.1 ["a/1"] "b/?" ["["] _ rfl
      (by simpa using ⟨_, hbarred⟩) stops_barred

/-- A directory that cannot be looked into is reported in place of a later malformed pattern. -/
theorem load_blocked : Pattern.fault? "b/?" = none ∧ (∃ e, Pattern.fault? "[" = some e) ∧
    ∃ t : FileTree, load t ["b/?", "["] = .error (.unreadable "b" .permissionDenied) ∧
      ∀ e : PatternError, load t ["b/?", "["] ≠ .error (.invalidPattern "[" e.message) := by
  have hload : load (neighbours.bar "b") ["b/?", "["] =
      .error (.unreadable "b" .permissionDenied) := by
    rw [load, matching_stops stops_barred]
    rfl
  refine ⟨by decide +kernel, ⟨⟨0, Pattern.openBracket⟩, by decide +kernel⟩, _, hload, fun e h => ?_⟩
  rw [hload] at h
  cases h

end Configuration

end Provision
