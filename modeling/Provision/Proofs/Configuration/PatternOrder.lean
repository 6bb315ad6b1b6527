import Mathlib.Data.List.Perm.Basic
import Mathlib.Data.String.Basic
import Provision.Configuration.Loading

namespace Provision.Configuration

/-!
# The order of patterns

Matched files are merged in the order of their base names.  In another order of the patterns the
same files match, so that loading fails or succeeds alike and the same entries are declared; but
files of one base name are merged in the order in which the patterns find them.  The configuration
is the same when the order of such files does not matter to it.
-/

def mergeAll : List Configuration → Configuration
  | [] => empty
  | c :: rest => c.merge (mergeAll rest)

/-- What a file declares; nothing, if it is empty or cannot be read. -/
def declaredIn (t : FileTree) (path : String) : Configuration :=
  match ofFile t path with
  | .ok d => d.getD empty
  | .error _ => empty

/-- A pattern is well-formed and leads to no directory that cannot be looked into. -/
def Followed (t : FileTree) (pattern : String) : Prop :=
  ∃ paths : List String, Pattern.paths t pattern = .ok (paths.map .ok)

/-- The paths that match a pattern; none, if it is malformed. -/
def found (t : FileTree) (pattern : String) : List String :=
  match Pattern.paths t pattern with
  | .ok l => l.filterMap Except.toOption
  | .error _ => []

/-- Matched files of one base name make up the same configuration in either order. -/
def TiesCommute (t : FileTree) (patterns : List String) : Prop :=
  ∀ paths, matching t patterns = .ok paths → ∀ p ∈ paths, ∀ q ∈ paths,
    Path.baseName p = Path.baseName q →
      (declaredIn t p).merge (declaredIn t q) = (declaredIn t q).merge (declaredIn t p)

/-! ## What is loaded -/

theorem found_eq {t : FileTree} {pattern : String} {paths : List String}
    (h : Pattern.paths t pattern = .ok (paths.map .ok)) : found t pattern = paths := by
  rw [found, h]
  simp [List.filterMap_map, Function.comp_def, Except.toOption]

theorem pathsOf_eq_ok_iff {l : List Pattern.Match} {paths : List String} :
    pathsOf l = .ok paths ↔ l = paths.map .ok := by
  induction l generalizing paths with
  | nil => cases paths <;> simp [pathsOf]
  | cons m rest ih =>
      rcases m with u | p
      · cases paths <;> simp [pathsOf]
      · rcases hrest : pathsOf rest with e | others
        · have hne : ∀ others : List String, rest ≠ others.map .ok := fun others h => by
            rw [ih.mpr h] at hrest
            cases hrest
          cases paths <;> simp [pathsOf, hrest, bind, Except.bind, hne]
        · obtain rfl := ih.mp hrest
          have hinjective : Function.Injective (List.map (.ok : String → Pattern.Match)) :=
            List.map_injective_iff.mpr fun _ _ => Except.ok.inj
          cases paths <;>
            simp [pathsOf, hrest, bind, Except.bind, pure, Except.pure, hinjective.eq_iff]

theorem matching_cons {t : FileTree} {pattern : String} {rest paths : List String}
    (h : Pattern.paths t pattern = .ok (paths.map .ok)) :
    matching t (pattern :: rest) = (matching t rest).map (paths ++ ·) := by
  rw [matching, h]
  simp only [pathsOf_eq_ok_iff.mpr rfl, bind, Except.bind]
  cases matching t rest <;> rfl

/-- Patterns match paths exactly if each of them can be followed; the paths are then those that
each matches, in the order of the patterns. -/
theorem matching_eq_ok_iff {t : FileTree} {patterns paths : List String} :
    matching t patterns = .ok paths ↔
      (∀ p ∈ patterns, Followed t p) ∧ paths = patterns.flatMap (found t) := by
  induction patterns generalizing paths with
  | nil => simp [matching, eq_comm]
  | cons p rest ih =>
      by_cases hp : Followed t p
      · obtain ⟨l, hl⟩ := id hp
        rw [matching_cons hl, List.forall_mem_cons, and_iff_right hp, List.flatMap_cons,
          found_eq hl]
        rcases hrest : matching t rest with e | others
        · have hfail : ¬ ∀ q ∈ rest, Followed t q := fun h => by
            rw [ih.mpr ⟨h, rfl⟩] at hrest
            cases hrest
          simp [Except.map, hfail]
        · obtain ⟨hall, rfl⟩ := ih.mp hrest
          simp only [Except.map, Except.ok.injEq, and_iff_right hall]
          exact eq_comm
      · simp only [List.forall_mem_cons, hp, false_and, iff_false]
        intro hok
        rw [matching] at hok
        rcases hl : Pattern.paths t p with e | l
        · simp [hl, throw, throwThe, MonadExceptOf.throw] at hok
        · rcases hpaths : pathsOf l with e | paths'
          · simp [hl, hpaths, bind, Except.bind] at hok
          · exact hp ⟨paths', hl.trans (congrArg _ (pathsOf_eq_ok_iff.mp hpaths))⟩

/-- Files are merged to a result exactly if each of them can be read; it declares what they declare,
in their order. -/
theorem ofFiles_eq_ok_iff {t : FileTree} {c d : Configuration} {paths : List String} :
    ofFiles t c paths = .ok d ↔
      (∀ p ∈ paths, ∃ e, ofFile t p = .ok e) ∧
        d = c.merge (mergeAll (paths.map (declaredIn t))) := by
  induction paths generalizing c with
  | nil => simp [ofFiles, mergeAll, eq_comm]
  | cons p rest ih =>
      rcases hp : ofFile t p with e | first
      · simp [ofFiles, hp, bind, Except.bind]
      · have hdeclared : declaredIn t p = first.getD empty := by simp [declaredIn, hp]
        -- an empty file has nothing to merge
        cases first <;>
          simp [ofFiles, hp, bind, Except.bind, ih, hdeclared, mergeAll, merge_assoc]

theorem ordered_perm (paths : List String) : (ordered paths).Perm paths :=
  List.mergeSort_perm paths _

theorem keepsOrder_trans (a b c : String)
    (hab : (!decide (Path.baseName b < Path.baseName a)) = true)
    (hbc : (!decide (Path.baseName c < Path.baseName b)) = true) :
    (!decide (Path.baseName c < Path.baseName a)) = true := by
  simp only [Bool.not_eq_true', decide_eq_false_iff_not, not_lt] at hab hbc ⊢
  exact le_trans hab hbc

theorem keepsOrder_total (a b : String) : ((!decide (Path.baseName b < Path.baseName a)) ||
    !decide (Path.baseName a < Path.baseName b)) = true := by
  simp only [Bool.or_eq_true, Bool.not_eq_true', decide_eq_false_iff_not, not_lt]
  exact le_total (Path.baseName a) (Path.baseName b)

theorem ordered_sorted (paths : List String) :
    (ordered paths).Pairwise fun p q => Path.baseName p ≤ Path.baseName q := by
  refine (List.pairwise_mergeSort keepsOrder_trans keepsOrder_total paths).imp ?_
  intro a b hab
  simpa only [Bool.not_eq_true', decide_eq_false_iff_not, not_lt] using hab

/-- Loading succeeds when every pattern can be followed and every file that matches one is readable;
then it merges the files in the order of their base names. -/
theorem load_eq_ok_iff {t : FileTree} {patterns : List String} {c : Configuration} :
    load t patterns = .ok c ↔
      (∀ p ∈ patterns, Followed t p) ∧
        (∀ path ∈ patterns.flatMap (found t), ∃ e, ofFile t path = .ok e) ∧
        c = mergeAll ((ordered (patterns.flatMap (found t))).map (declaredIn t)) := by
  rcases hm : matching t patterns with e | paths
  · have hfail : ¬ ∀ p ∈ patterns, Followed t p := by
      intro h
      have hok : matching t patterns = .ok (patterns.flatMap (found t)) :=
        matching_eq_ok_iff.mpr ⟨h, rfl⟩
      rw [hm] at hok
      cases hok
    simp only [load, hm, bind, Except.bind, reduceCtorEq, false_iff]
    exact fun h => hfail h.1
  · obtain ⟨hall, rfl⟩ := matching_eq_ok_iff.mp hm
    simp only [load, hm, bind, Except.bind, ofFiles_eq_ok_iff, empty_merge,
      (ordered_perm _).mem_iff, and_iff_right hall]

/-! ## Merging in another order -/

theorem mergeAll_append (cs ds : List Configuration) :
    mergeAll (cs ++ ds) = (mergeAll cs).merge (mergeAll ds) := by
  induction cs with
  | nil => rfl
  | cons c rest ih => rw [List.cons_append, mergeAll, mergeAll, ih, merge_assoc]

theorem mergeAll_merge_comm {c : Configuration} {cs : List Configuration}
    (h : ∀ d ∈ cs, c.merge d = d.merge c) : c.merge (mergeAll cs) = (mergeAll cs).merge c := by
  induction cs with
  | nil => exact merge_empty c
  | cons d rest ih =>
      obtain ⟨hd, hrest⟩ := List.forall_mem_cons.mp h
      calc c.merge (mergeAll (d :: rest))
          = (c.merge d).merge (mergeAll rest) := (merge_assoc c d _).symm
        _ = d.merge (c.merge (mergeAll rest)) := by rw [hd, merge_assoc]
        _ = (mergeAll (d :: rest)).merge c := by rw [ih hrest, mergeAll, merge_assoc]

/-- Two ways of sorting the same paths differ only in the order of paths of one base name. -/
theorem mergeAll_eq_of_sorted {f : String → Configuration} {ps qs : List String} (h : ps.Perm qs)
    (hps : ps.Pairwise fun p q => Path.baseName p ≤ Path.baseName q)
    (hqs : qs.Pairwise fun p q => Path.baseName p ≤ Path.baseName q)
    (hties : ∀ p ∈ ps, ∀ q ∈ ps, Path.baseName p = Path.baseName q →
      (f p).merge (f q) = (f q).merge (f p)) :
    mergeAll (ps.map f) = mergeAll (qs.map f) := by
  induction ps generalizing qs with
  | nil => rw [h.nil_eq]
  | cons p rest ih =>
      obtain ⟨u, v, rfl⟩ := List.append_of_mem (h.mem_iff.mp List.mem_cons_self)
      have hrest : rest.Perm (u ++ v) := (h.trans List.perm_middle).cons_inv
      obtain ⟨hfirst, hsorted⟩ := List.pairwise_cons.mp hps
      obtain ⟨-, -, hbefore⟩ := List.pairwise_append.mp hqs
      -- what stands before `p` in the second list has the base name of `p`
      have hcomm : ∀ c ∈ u.map f, (f p).merge c = c.merge (f p) := by
        intro c hc
        obtain ⟨q, hq, rfl⟩ := List.mem_map.mp hc
        have hmem : q ∈ rest := hrest.mem_iff.mpr (List.mem_append_left v hq)
        have hle : Path.baseName q ≤ Path.baseName p := hbefore q hq p List.mem_cons_self
        exact hties p List.mem_cons_self q (List.mem_cons_of_mem p hmem)
          (le_antisymm (hfirst q hmem) hle)
      have hsorted' : (u ++ v).Pairwise fun p q => Path.baseName p ≤ Path.baseName q :=
        hqs.sublist ((List.sublist_cons_self p v).append_left u)
      have hties' : ∀ q ∈ rest, ∀ r ∈ rest, Path.baseName q = Path.baseName r →
          (f q).merge (f r) = (f r).merge (f q) := fun q hq r hr =>
        hties q (List.mem_cons_of_mem p hq) r (List.mem_cons_of_mem p hr)
      calc mergeAll ((p :: rest).map f)
          = (f p).merge (mergeAll ((u ++ v).map f)) := by
            rw [List.map_cons, mergeAll, ih hrest hsorted hsorted' hties']
        _ = ((f p).merge (mergeAll (u.map f))).merge (mergeAll (v.map f)) := by
            rw [List.map_append, mergeAll_append, merge_assoc]
        _ = (mergeAll (u.map f)).merge (mergeAll ((p :: v).map f)) := by
            rw [mergeAll_merge_comm hcomm, merge_assoc, List.map_cons, mergeAll]
        _ = mergeAll ((u ++ p :: v).map f) := by rw [List.map_append, mergeAll_append]

/-- What is merged in another order has the same entries in another order. -/
theorem mergeAll_entries_perm {cs ds : List Configuration} (h : cs.Perm ds) :
    (mergeAll cs).actions.Perm (mergeAll ds).actions ∧
      (mergeAll cs).checks.Perm (mergeAll ds).checks ∧
      (mergeAll cs).values.Perm (mergeAll ds).values := by
  have hparts (l : List Configuration) : (mergeAll l).actions = l.flatMap actions ∧
      (mergeAll l).checks = l.flatMap checks ∧ (mergeAll l).values = l.flatMap values := by
    induction l with
    | nil => exact ⟨rfl, rfl, rfl⟩
    | cons c rest ih => simp [mergeAll, merge, ih]
  obtain ⟨ha, hc, hv⟩ := hparts cs
  obtain ⟨ha', hc', hv'⟩ := hparts ds
  rw [ha, hc, hv, ha', hc', hv']
  exact ⟨h.flatMap_right _, h.flatMap_right _, h.flatMap_right _⟩

theorem tiesCommute_of_distinct {t : FileTree} {patterns : List String}
    (h : ∀ p ∈ patterns.flatMap (found t), ∀ q ∈ patterns.flatMap (found t),
      Path.baseName p = Path.baseName q → p = q) : TiesCommute t patterns := by
  intro paths hm p hp q hq hname
  obtain ⟨-, rfl⟩ := matching_eq_ok_iff.mp hm
  rw [h p hp q hq hname]

/-- In another order of the patterns loading succeeds or fails alike, and the same entries are
declared.  They are in the same order unless files of one base name are to be told apart. -/
theorem load_of_perm {t : FileTree} {patterns patterns' : List String}
    (h : patterns.Perm patterns') :
    ((∃ c, load t patterns = .ok c) ↔ ∃ c, load t patterns' = .ok c) ∧
      ∀ c d, load t patterns = .ok c → load t patterns' = .ok d →
        c.actions.Perm d.actions ∧ c.checks.Perm d.checks ∧ c.values.Perm d.values ∧
          (TiesCommute t patterns → c = d) := by
  have hfound : (patterns.flatMap (found t)).Perm (patterns'.flatMap (found t)) :=
    h.flatMap_right (found t)
  have hordered : (ordered (patterns.flatMap (found t))).Perm
      (ordered (patterns'.flatMap (found t))) :=
    ((ordered_perm _).trans hfound).trans (ordered_perm _).symm
  constructor
  · simp only [load_eq_ok_iff, h.mem_iff, hfound.mem_iff, exists_and_left, exists_eq, and_true]
  · intro c d hc hd
    have hwell := (load_eq_ok_iff.mp hc).1
    obtain ⟨-, -, rfl⟩ := load_eq_ok_iff.mp hc
    obtain ⟨-, -, rfl⟩ := load_eq_ok_iff.mp hd
    obtain ⟨hactions, hchecks, hvalues⟩ :=
      mergeAll_entries_perm (hordered.map (declaredIn t))
    refine ⟨hactions, hchecks, hvalues, fun hties => ?_⟩
    refine mergeAll_eq_of_sorted hordered (ordered_sorted _) (ordered_sorted _) ?_
    intro p hp q hq
    exact hties _ (matching_eq_ok_iff.mpr ⟨hwell, rfl⟩) p ((ordered_perm _).mem_iff.mp hp) q
      ((ordered_perm _).mem_iff.mp hq)

def neighbours : FileTree :=
  { entries := [([['a']], .directory), ([['a'], ['1']], .file (Text.utf8 "values: [{name: p}]")),
    ([['b']], .directory), ([['b'], ['1']], .file (Text.utf8 "values: [{name: q}]")),
    ([['b'], ['2']], .file (Text.utf8 "values: [{name: q}]"))] }

theorem paths_neighbours : Pattern.paths neighbours "a/1" = .ok (["a/1"].map .ok) ∧
    Pattern.paths neighbours "b/1" = .ok (["b/1"].map .ok) ∧
    Pattern.paths neighbours "b/2" = .ok (["b/2"].map .ok) := by
  decide +kernel

theorem ofFile_neighbours : ofFile neighbours "a/1" = .ok (some ⟨[], [], [⟨"p", "", false⟩]⟩) ∧
    ofFile neighbours "b/1" = .ok (some ⟨[], [], [⟨"q", "", false⟩]⟩) ∧
    ofFile neighbours "b/2" = .ok (some ⟨[], [], [⟨"q", "", false⟩]⟩) := by
  have hp : parse? "values: [{name: p}]" = .ok (some ⟨[], [], [⟨"p", "", false⟩]⟩) :=
    parse?_eq_of_values (by decide +kernel)
  have hq : parse? "values: [{name: q}]" = .ok (some ⟨[], [], [⟨"q", "", false⟩]⟩) :=
    parse?_eq_of_values (by decide +kernel)
  have ha : neighbours.readText "a/1" = .ok "values: [{name: p}]" := rfl
  have hb : neighbours.readText "b/1" = .ok "values: [{name: q}]" := rfl
  have hb' : neighbours.readText "b/2" = .ok "values: [{name: q}]" := rfl
  simp [ofFile, ha, hb, hb', hp, hq, Except.mapError]

/-- The two files named `1` come in the order of the patterns. -/
theorem load_swap_ne : ["a/1", "b/1"].Perm ["b/1", "a/1"] ∧
    ∃ c d, load neighbours ["a/1", "b/1"] = .ok c ∧ load neighbours ["b/1", "a/1"] = .ok d ∧
      c.values.map Value.name = ["p", "q"] ∧ d.values.map Value.name = ["q", "p"] := by
  obtain ⟨ha, hb, -⟩ := paths_neighbours
  obtain ⟨hp, hq, -⟩ := ofFile_neighbours
  have hfollowed : ∀ p ∈ ["a/1", "b/1"], Followed neighbours p := by
    simpa using ⟨⟨_, ha⟩, ⟨_, hb⟩⟩
  have hab : ordered ["a/1", "b/1"] = ["a/1", "b/1"] := List.mergeSort_of_pairwise (by decide)
  have hba : ordered ["b/1", "a/1"] = ["b/1", "a/1"] := List.mergeSort_of_pairwise (by decide)
  refine ⟨.swap _ _ [], _, _, load_eq_ok_iff.mpr ⟨hfollowed, ?_, rfl⟩,
    load_eq_ok_iff.mpr ⟨fun p hp => hfollowed p (by simpa [or_comm] using hp), ?_, rfl⟩, ?_, ?_⟩
  all_goals simp [found_eq ha, found_eq hb, hab, hba, hp, hq, declaredIn, mergeAll, merge, empty]

/-- Files of different names come in one order, whatever that of the patterns. -/
theorem load_eq_of_swap : ["a/1", "b/2"].Perm ["b/2", "a/1"] ∧
    TiesCommute neighbours ["a/1", "b/2"] ∧
    ∃ c, load neighbours ["a/1", "b/2"] = .ok c ∧ load neighbours ["b/2", "a/1"] = .ok c := by
  obtain ⟨ha, -, hb⟩ := paths_neighbours
  obtain ⟨hp, -, hq⟩ := ofFile_neighbours
  have hnames : Path.baseName "a/1" ≠ Path.baseName "b/2" := by decide
  have hties : TiesCommute neighbours ["a/1", "b/2"] := by
    apply tiesCommute_of_distinct
    simp [found_eq ha, found_eq hb, hnames, hnames.symm]
  have hswap : ["a/1", "b/2"].Perm ["b/2", "a/1"] := .swap _ _ []
  obtain ⟨halike, hequal⟩ := load_of_perm (t := neighbours) hswap
  obtain ⟨c, hc⟩ : ∃ c, load neighbours ["a/1", "b/2"] = .ok c :=
    ⟨_, load_eq_ok_iff.mpr ⟨by simpa using ⟨⟨_, ha⟩, ⟨_, hb⟩⟩,
      by simp [found_eq ha, found_eq hb, hp, hq], rfl⟩⟩
  obtain ⟨d, hd⟩ := halike.mp ⟨c, hc⟩
  obtain ⟨-, -, -, hcd⟩ := hequal c d hc hd
  refine ⟨hswap, hties, c, hc, ?_⟩
  rw [hcd hties, hd]

end Provision.Configuration
