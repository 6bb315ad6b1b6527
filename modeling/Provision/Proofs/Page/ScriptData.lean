import Mathlib.Data.List.Basic
import Provision.Server.Page

namespace Provision.Page

/-!
# Script data

A browser reads the content of a script element state by state, up to the end tag of the element.
Within a comment a start tag of another script makes the end tag that follows it a part of the
content, so that a text which opens both and closes neither hides the element's own end tag.
-/

/-- The states of a tokenizer within a script element.  Lines end in line feeds by then. -/
inductive ScriptState where
  | data
  | lessThan
  | endTagOpen
  | endTagName (name : List Char)
  | escapeStart
  | escapeStartDash
  | escaped
  | escapedDash
  | escapedDashDash
  | escapedLessThan
  | escapedEndTagOpen
  | escapedEndTagName (name : List Char)
  | doubleEscapeStart (name : List Char)
  | doubleEscaped
  | doubleEscapedDash
  | doubleEscapedDashDash
  | doubleEscapedLessThan
  | doubleEscapeEnd (name : List Char)
  deriving DecidableEq, Repr

def scriptName : List Char := ['s', 'c', 'r', 'i', 'p', 't']

def endsName (c : Char) : Bool :=
  c = '\t' || c = '\n' || c = '\x0c' || c = ' ' || c = '/' || c = '>'

namespace ScriptState

def afterData (c : Char) : ScriptState := if c = '<' then lessThan else data

def afterEscaped (c : Char) : ScriptState :=
  if c = '-' then escapedDash else if c = '<' then escapedLessThan else escaped

def afterDoubleEscaped (c : Char) : ScriptState :=
  if c = '-' then doubleEscapedDash
  else if c = '<' then doubleEscapedLessThan
  else doubleEscaped

/-- What a character makes of a state; `none` behind the name of the end tag. -/
def step : ScriptState → Char → Option ScriptState
  | data, c => some (afterData c)
  | lessThan, c =>
    if c = '/' then some endTagOpen
    else if c = '!' then some escapeStart
    else some (afterData c)
  | endTagOpen, c => if c.isAlpha then some (endTagName [c.toLower]) else some (afterData c)
  | endTagName name, c =>
    if endsName c ∧ name = scriptName then none
    else if c.isAlpha then some (endTagName (name ++ [c.toLower]))
    else some (afterData c)
  | escapeStart, c => if c = '-' then some escapeStartDash else some (afterData c)
  | escapeStartDash, c => if c = '-' then some escapedDashDash else some (afterData c)
  | escaped, c => some (afterEscaped c)
  | escapedDash, c => if c = '-' then some escapedDashDash else some (afterEscaped c)
  | escapedDashDash, c =>
    if c = '-' then some escapedDashDash
    else if c = '>' then some data
    else some (afterEscaped c)
  | escapedLessThan, c =>
    if c = '/' then some escapedEndTagOpen
    else if c.isAlpha then some (doubleEscapeStart [c.toLower])
    else some (afterEscaped c)
  | escapedEndTagOpen, c =>
    if c.isAlpha then some (escapedEndTagName [c.toLower]) else some (afterEscaped c)
  | escapedEndTagName name, c =>
    if endsName c ∧ name = scriptName then none
    else if c.isAlpha then some (escapedEndTagName (name ++ [c.toLower]))
    else some (afterEscaped c)
  | doubleEscapeStart name, c =>
    if endsName c then some (if name = scriptName then doubleEscaped else escaped)
    else if c.isAlpha then some (doubleEscapeStart (name ++ [c.toLower]))
    else some (afterEscaped c)
  | doubleEscaped, c => some (afterDoubleEscaped c)
  | doubleEscapedDash, c =>
    if c = '-' then some doubleEscapedDashDash else some (afterDoubleEscaped c)
  | doubleEscapedDashDash, c =>
    if c = '-' then some doubleEscapedDashDash
    else if c = '>' then some data
    else some (afterDoubleEscaped c)
  | doubleEscapedLessThan, c =>
    if c = '/' then some (doubleEscapeEnd []) else some (afterDoubleEscaped c)
  | doubleEscapeEnd name, c =>
    if endsName c then some (if name = scriptName then escaped else doubleEscaped)
    else if c.isAlpha then some (doubleEscapeEnd (name ++ [c.toLower]))
    else some (afterDoubleEscaped c)

def awaitsSlash : ScriptState → Bool
  | lessThan | escapedLessThan | doubleEscapedLessThan => true
  | _ => false

def read : ScriptState → List Char → Option (List Char × List Char)
  | _, [] => none
  | s, c :: rest =>
    match s.step c with
    | none => some ([], c :: rest)
    | some s' => (s'.read rest).map fun (taken, left) => (c :: taken, left)

def run : ScriptState → List Char → Option ScriptState
  | s, [] => some s
  | s, c :: rest => (s.step c).bind fun s' => s'.run rest

end ScriptState

/-! ## What a text leaves open -/

/-- What follows `<` is the name of a script, and ends there. -/
def NamesScript (cs : List Char) : Prop :=
  (cs.takeWhile Char.isAlpha).map Char.toLower = scriptName ∧
    ∃ c ∈ (cs.dropWhile Char.isAlpha).head?, endsName c = true

def OpensScript (cs : List Char) : Prop := ∃ a b, cs = a ++ '<' :: b ∧ NamesScript b

def Unclosed (cs : List Char) : Prop := ¬ ['-', '-', '>'] <:+: cs

/-- A comment is opened and a script in it, and the comment is not closed. -/
def Traps (cs : List Char) : Prop :=
  ∃ a b, cs = a ++ '<' :: '!' :: '-' :: '-' :: b ∧ Unclosed ('-' :: '-' :: b) ∧ OpensScript b

instance (cs : List Char) : Decidable (NamesScript cs) := inferInstanceAs (Decidable (_ ∧ _))

instance (cs : List Char) : Decidable (Unclosed cs) := inferInstanceAs (Decidable (¬ _))

theorem opensScript_cons {c : Char} {cs : List Char} :
    OpensScript (c :: cs) ↔ (c = '<' ∧ NamesScript cs) ∨ OpensScript cs := by
  constructor
  · rintro ⟨a, b, hcs, hb⟩
    cases a with
    | nil =>
        obtain ⟨rfl, rfl⟩ := List.cons.inj hcs
        exact .inl ⟨rfl, hb⟩
    | cons d a =>
        obtain ⟨rfl, rfl⟩ := List.cons.inj hcs
        exact .inr ⟨a, b, rfl, hb⟩
  · rintro (⟨rfl, hb⟩ | ⟨a, b, rfl, hb⟩)
    · exact ⟨[], cs, rfl, hb⟩
    · exact ⟨c :: a, b, rfl, hb⟩

theorem traps_cons {c : Char} {cs : List Char} :
    Traps (c :: cs) ↔ (∃ b, c = '<' ∧ cs = '!' :: '-' :: '-' :: b ∧ Unclosed ('-' :: '-' :: b) ∧
      OpensScript b) ∨ Traps cs := by
  constructor
  · rintro ⟨a, b, hcs, hb⟩
    cases a with
    | nil =>
        obtain ⟨rfl, rfl⟩ := List.cons.inj hcs
        exact .inl ⟨b, rfl, rfl, hb⟩
    | cons d a =>
        obtain ⟨rfl, rfl⟩ := List.cons.inj hcs
        exact .inr ⟨a, b, rfl, hb⟩
  · rintro (⟨b, rfl, rfl, hb⟩ | ⟨a, b, rfl, hb⟩)
    · exact ⟨[], b, rfl, hb⟩
    · exact ⟨c :: a, b, rfl, hb⟩

theorem unclosed_cons {c : Char} {cs : List Char} :
    Unclosed (c :: cs) ↔ ¬ (c = '-' ∧ ['-', '>'] <+: cs) ∧ Unclosed cs := by
  rw [Unclosed, Unclosed, List.infix_cons_iff, List.cons_prefix_cons, not_or, eq_comm]

/-- Nothing is trapped where no comment is opened. -/
theorem not_traps_of_not_infix {cs : List Char} (h : ¬ ['<', '!', '-', '-'] <:+: cs) :
    ¬ Traps cs := by
  rintro ⟨a, b, rfl, -⟩
  exact h ⟨a, b, by simp⟩

/-! ## Names -/

theorem isLower_eq_true_iff {c : Char} : c.isLower = true ↔ 'a'.val ≤ c.val ∧ c.val ≤ 'z'.val := by
  change (decide (c.val ≥ 'a'.val) && decide (c.val ≤ 'z'.val)) = true ↔ _
  simp

theorem isLower_toLower {c : Char} (h : c.isAlpha = true) : c.toLower.isLower = true := by
  by_cases hc : c.val ≥ 'A'.val ∧ c.val ≤ 'Z'.val
  · have hA : 65 ≤ c.val.toNat := UInt32.le_iff_toNat_le.mp hc.1
    have hZ : c.val.toNat ≤ 90 := UInt32.le_iff_toNat_le.mp hc.2
    have hval : (c.val + ('a'.val - 'A'.val)).toNat = c.val.toNat + 32 := by
      have hdiff : ('a'.val - 'A'.val).toNat = 32 := rfl
      rw [UInt32.toNat_add, hdiff]
      omega
    have htoLower : c.toLower.val = c.val + ('a'.val - 'A'.val) := congrArg Char.val (dif_pos hc)
    rw [isLower_eq_true_iff, htoLower, UInt32.le_iff_toNat_le, UInt32.le_iff_toNat_le, hval]
    exact ⟨Nat.add_le_add_right hA 32, Nat.add_le_add_right hZ 32⟩
  · have htoLower : c.toLower = c := dif_neg hc
    have hupper : ¬ c.isUpper = true := fun hu => hc (of_decide_eq_true hu)
    rw [htoLower]
    exact (Bool.or_eq_true_iff.mp h).resolve_left hupper

theorem isAlpha_of_isLower {c : Char} (h : c.isLower = true) : c.isAlpha = true :=
  Bool.or_eq_true_iff.mpr (.inr h)

theorem toLower_of_isLower {c : Char} (h : c.isLower = true) : c.toLower = c := by
  have hz : ¬ c.val ≤ 'Z'.val :=
    UInt32.not_le.mpr (UInt32.lt_of_lt_of_le (by decide) (isLower_eq_true_iff.mp h).1)
  exact dif_neg fun hc => hz hc.2

theorem not_isAlpha_of_endsName {c : Char} (h : endsName c = true) : c.isAlpha = false := by
  simp only [endsName, Bool.or_eq_true, decide_eq_true_eq] at h
  rcases h with ((((rfl | rfl) | rfl) | rfl) | rfl) | rfl <;> rfl

theorem ne_of_endsName {c : Char} (h : endsName c = true) : c ≠ '<' ∧ c ≠ '-' := by
  constructor
  · rintro rfl
    exact absurd h (by decide)
  · rintro rfl
    exact absurd h (by decide)

theorem namesScript_append {n : List Char} (hn : ∀ c ∈ n, c.isLower = true) {c : Char}
    (hc : c.isAlpha = false) (w : List Char) :
    NamesScript (n ++ c :: w) ↔ n = scriptName ∧ endsName c = true := by
  have hall : ∀ c ∈ n, c.isAlpha = true := fun c hc => isAlpha_of_isLower (hn c hc)
  have htake : (n ++ c :: w).takeWhile Char.isAlpha = n := by
    rw [List.takeWhile_append_of_pos hall, List.takeWhile_cons_of_neg (by simp [hc]),
      List.append_nil]
  have hdrop : (n ++ c :: w).dropWhile Char.isAlpha = c :: w := by
    rw [List.dropWhile_append_of_pos hall, List.dropWhile_cons_of_neg (by simp [hc])]
  have hlower : n.map Char.toLower = n := by
    rw [List.map_congr_left (fun c hc => toLower_of_isLower (hn c hc)), List.map_id']
  rw [NamesScript, htake, hdrop, hlower]
  simp

theorem namesScript_toLower {n : List Char} (hn : ∀ c ∈ n, c.isLower = true) {c : Char}
    (hc : c.isAlpha = true) (w : List Char) :
    NamesScript (n ++ c :: w) ↔ NamesScript (n ++ c.toLower :: w) := by
  have hall : ∀ c ∈ n, c.isAlpha = true := fun c hc => isAlpha_of_isLower (hn c hc)
  have hc' : c.toLower.isAlpha = true := isAlpha_of_isLower (isLower_toLower hc)
  have hsame : c.toLower.toLower = c.toLower := toLower_of_isLower (isLower_toLower hc)
  simp only [NamesScript, List.takeWhile_append_of_pos hall, List.dropWhile_append_of_pos hall,
    List.takeWhile_cons_of_pos hc, List.takeWhile_cons_of_pos hc', List.dropWhile_cons_of_pos hc,
    List.dropWhile_cons_of_pos hc', List.map_append, List.map_cons, hsame]

/-! ## How deep a text leads -/

/-- In the content itself, in a comment, or in a script within a comment. -/
inductive Depth where
  | content
  | comment
  | script
  deriving DecidableEq, Repr

def Trapped : Depth → List Char → Prop
  | .content, cs => Traps cs
  | .comment, cs => (Unclosed cs ∧ OpensScript cs) ∨ Traps cs
  | .script, cs => Unclosed cs ∨ Traps cs

theorem trapped_content_cons {c : Char} {cs : List Char} (h : c ≠ '<' ∨ ¬ ['!', '-', '-'] <+: cs) :
    Trapped .content (c :: cs) ↔ Trapped .content cs := by
  refine traps_cons.trans (or_iff_right ?_)
  rintro ⟨b, rfl, rfl, -⟩
  rcases h with h | h
  · exact h rfl
  · exact h ⟨b, rfl⟩

theorem trapped_comment_cons {c : Char} {cs : List Char} (hd : c = '-' → ¬ ['-', '>'] <+: cs)
    (hl : c = '<' → ¬ NamesScript cs) : Trapped .comment (c :: cs) ↔ Trapped .comment cs := by
  have hu : Unclosed (c :: cs) ↔ Unclosed cs :=
    unclosed_cons.trans (and_iff_right fun h => hd h.1 h.2)
  have ho : OpensScript (c :: cs) ↔ OpensScript cs :=
    opensScript_cons.trans (or_iff_right fun h => hl h.1 h.2)
  simp only [Trapped, hu, ho, traps_cons]
  constructor
  · rintro (h | ⟨b, -, rfl, hb, hs⟩ | h)
    · exact .inl h
    · refine .inl ⟨unclosed_cons.mpr ⟨fun h => absurd h.1 (by decide), hb⟩, ?_⟩
      simpa [opensScript_cons] using hs
    · exact .inr h
  · rintro (h | h)
    · exact .inl h
    · exact .inr (.inr h)

theorem trapped_script_cons {c : Char} {cs : List Char} (hd : c = '-' → ¬ ['-', '>'] <+: cs) :
    Trapped .script (c :: cs) ↔ Trapped .script cs := by
  have hu : Unclosed (c :: cs) ↔ Unclosed cs :=
    unclosed_cons.trans (and_iff_right fun h => hd h.1 h.2)
  simp only [Trapped, hu, traps_cons]
  constructor
  · rintro (h | ⟨b, -, rfl, hb, -⟩ | h)
    · exact .inl h
    · exact .inl (unclosed_cons.mpr ⟨fun h => absurd h.1 (by decide), hb⟩)
    · exact .inr h
  · rintro (h | h)
    · exact .inl h
    · exact .inr (.inr h)

theorem trapped_dash (g : Depth) {cs : List Char} (h : ¬ ['-', '>'] <+: cs) :
    Trapped g ('-' :: cs) ↔ Trapped g cs := by
  cases g with
  | content => exact trapped_content_cons (.inl (by decide))
  | comment => exact trapped_comment_cons (fun _ => h) (fun h => absurd h (by decide))
  | script => exact trapped_script_cons fun _ => h

theorem not_prefix_cons {c d : Char} (h : c ≠ d) (cs w : List Char) : ¬ d :: cs <+: c :: w :=
  fun hbegins => h (List.cons_prefix_cons.mp hbegins).1.symm

theorem trapped_three_dashes (g : Depth) (cs : List Char) :
    Trapped g ('-' :: '-' :: '-' :: cs) ↔ Trapped g ('-' :: '-' :: cs) :=
  trapped_dash g fun h => not_prefix_cons (by decide) _ _ (List.cons_prefix_cons.mp h).2

theorem trapped_two_dashes (g : Depth) {c : Char} (hd : c ≠ '-') (hg : c ≠ '>') (cs : List Char) :
    Trapped g ('-' :: '-' :: c :: cs) ↔ Trapped g (c :: cs) := by
  have hclose : ¬ ['-', '>'] <+: '-' :: c :: cs := fun h =>
    not_prefix_cons hg _ _ (List.cons_prefix_cons.mp h).2
  exact (trapped_dash g hclose).trans (trapped_dash g (not_prefix_cons hd _ _))

theorem trapped_open (cs : List Char) :
    Trapped .content ('<' :: '!' :: '-' :: '-' :: cs) ↔ Trapped .comment ('-' :: '-' :: cs) := by
  have htraps : Traps ('<' :: '!' :: '-' :: '-' :: cs) ↔
      (Unclosed ('-' :: '-' :: cs) ∧ OpensScript cs) ∨ Traps cs := by
    simp [traps_cons]
  simp [Trapped, htraps, traps_cons, opensScript_cons]

/-- A comment that ends leads back to the content. -/
theorem trapped_close (g : Depth) (hg : g ≠ .content) (cs : List Char) :
    Trapped g ('-' :: '-' :: '>' :: cs) ↔ Trapped .content cs := by
  have hclosed : ¬ Unclosed ('-' :: '-' :: '>' :: cs) := fun h => h ⟨[], cs, rfl⟩
  have htraps : Traps ('-' :: '-' :: '>' :: cs) ↔ Traps cs := by simp [traps_cons]
  cases g with
  | content => exact absurd rfl hg
  | comment => simp [Trapped, hclosed, htraps]
  | script => simp [Trapped, hclosed, htraps]

/-- Characters that neither tags nor comments begin or end with change no depth. -/
theorem trapped_append {n : List Char} (hn : ∀ c ∈ n, c ≠ '<' ∧ c ≠ '-') (g : Depth)
    (cs : List Char) : Trapped g (n ++ cs) ↔ Trapped g cs := by
  induction n with
  | nil => rfl
  | cons c n ih =>
      obtain ⟨⟨hl, hd⟩, hn⟩ := List.forall_mem_cons.mp hn
      rw [List.cons_append, ← ih hn]
      cases g with
      | content => exact trapped_content_cons (.inl hl)
      | comment => exact trapped_comment_cons (fun h => absurd h hd) (fun h => absurd h hl)
      | script => exact trapped_script_cons (fun h => absurd h hd)

/-- A start tag within a comment leads into a script, if it is the one of a script. -/
theorem trapped_tag {n : List Char} (hn : ∀ c ∈ n, c.isAlpha = true) (cs : List Char) :
    Trapped .comment ('<' :: (n ++ cs)) ↔
      Trapped (if NamesScript (n ++ cs) then .script else .comment) cs := by
  have hplain : ∀ c ∈ n, c ≠ '<' ∧ c ≠ '-' := by
    intro c hc
    constructor
    · rintro rfl
      exact absurd (hn _ hc) (by decide)
    · rintro rfl
      exact absurd (hn _ hc) (by decide)
  split
  · rename_i hname
    have hopens : OpensScript ('<' :: (n ++ cs)) := ⟨[], n ++ cs, rfl, hname⟩
    have hdeeper : Trapped .comment ('<' :: (n ++ cs)) ↔ Trapped .script ('<' :: (n ++ cs)) := by
      simp [Trapped, hopens]
    rw [hdeeper, trapped_script_cons (fun h => absurd h (by decide)), trapped_append hplain]
  · rename_i hname
    rw [trapped_comment_cons (fun h => absurd h (by decide)) (fun _ => hname),
      trapped_append hplain]

/-! ## Reading within the content -/

/-- The state that is reached at some depth, with the characters at the end of what has been read
that may still begin something. -/
inductive Holds : Depth → List Char → ScriptState → Prop
  | data : Holds .content [] .data
  | lessThan : Holds .content ['<'] .lessThan
  | escapeStart : Holds .content ['<', '!'] .escapeStart
  | escapeStartDash : Holds .content ['<', '!', '-'] .escapeStartDash
  | escaped : Holds .comment [] .escaped
  | escapedDash : Holds .comment ['-'] .escapedDash
  | escapedDashDash : Holds .comment ['-', '-'] .escapedDashDash
  | escapedLessThan : Holds .comment ['<'] .escapedLessThan
  | doubleEscapeStart {n : List Char} (hn : ∀ c ∈ n, c.isLower = true) :
      Holds .comment ('<' :: n) (.doubleEscapeStart n)
  | doubleEscaped : Holds .script [] .doubleEscaped
  | doubleEscapedDash : Holds .script ['-'] .doubleEscapedDash
  | doubleEscapedDashDash : Holds .script ['-', '-'] .doubleEscapedDashDash
  | doubleEscapedLessThan : Holds .script ['<'] .doubleEscapedLessThan

/-- A state that holds back what is needed to go on from some depth with some text. -/
def Leads (s : ScriptState) (g : Depth) (cs : List Char) : Prop :=
  ∃ g' u, Holds g' u s ∧ ∀ w, Trapped g (cs ++ w) ↔ Trapped g' (u ++ w)

theorem Holds.leads {g : Depth} {u : List Char} {s : ScriptState} (h : Holds g u s) :
    Leads s g u := ⟨g, u, h, fun _ => Iff.rfl⟩

theorem Leads.of_iff {s : ScriptState} {g g' : Depth} {cs ds : List Char} (h : Leads s g' ds)
    (hiff : ∀ w, Trapped g (cs ++ w) ↔ Trapped g' (ds ++ w)) : Leads s g cs := by
  obtain ⟨g'', u, hs, hu⟩ := h
  exact ⟨g'', u, hs, fun w => (hiff w).trans (hu w)⟩

theorem leads_afterData (c : Char) : Leads (.afterData c) .content [c] := by
  rw [ScriptState.afterData]
  split
  · subst_vars
    exact Holds.lessThan.leads
  · rename_i hc
    exact Holds.data.leads.of_iff fun w => trapped_content_cons (.inl hc)

theorem leads_afterEscaped (c : Char) : Leads (.afterEscaped c) .comment [c] := by
  rw [ScriptState.afterEscaped]
  split
  · subst_vars
    exact Holds.escapedDash.leads
  split
  · subst_vars
    exact Holds.escapedLessThan.leads
  · rename_i hd hl
    exact Holds.escaped.leads.of_iff fun w =>
      trapped_comment_cons (fun h => absurd h hd) (fun h => absurd h hl)

theorem leads_afterDoubleEscaped (c : Char) : Leads (.afterDoubleEscaped c) .script [c] := by
  rw [ScriptState.afterDoubleEscaped]
  split
  · subst_vars
    exact Holds.doubleEscapedDash.leads
  split
  · subst_vars
    exact Holds.doubleEscapedLessThan.leads
  · rename_i hd hl
    exact Holds.doubleEscaped.leads.of_iff fun w => trapped_script_cons (fun h => absurd h hd)

theorem leads_letter {n : List Char} (hn : ∀ c ∈ n, c.isLower = true) {c : Char}
    (hc : c.isAlpha = true) :
    Leads (.doubleEscapeStart (n ++ [c.toLower])) .comment ('<' :: (n ++ [c])) := by
  have hlower : ∀ d ∈ n ++ [c.toLower], d.isLower = true := by
    intro d hd
    rcases List.mem_append.mp hd with hd | hd
    · exact hn d hd
    · rw [List.mem_singleton.mp hd]
      exact isLower_toLower hc
  have halpha : ∀ d ∈ n ++ [c.toLower], d.isAlpha = true := fun d hd =>
    isAlpha_of_isLower (hlower d hd)
  have halpha' : ∀ d ∈ n ++ [c], d.isAlpha = true := by
    intro d hd
    rcases List.mem_append.mp hd with hd | hd
    · exact isAlpha_of_isLower (hn d hd)
    · rwa [List.mem_singleton.mp hd]
  refine (Holds.doubleEscapeStart hlower).leads.of_iff fun w => ?_
  have hname := namesScript_toLower hn hc w
  rw [List.cons_append, List.cons_append, trapped_tag halpha, trapped_tag halpha']
  simp only [List.append_assoc, List.singleton_append, hname]

/-- What follows the letters of a tag's name decides whether it is the start tag of a script. -/
theorem trapped_tag_cons {n : List Char} (hn : ∀ c ∈ n, c.isLower = true) {c : Char}
    (hc : c.isAlpha = false) (w : List Char) :
    Trapped .comment ('<' :: n ++ [c] ++ w) ↔
      Trapped (if n = scriptName ∧ endsName c = true then .script else .comment) ([c] ++ w) := by
  have halpha : ∀ d ∈ n, d.isAlpha = true := fun d hd => isAlpha_of_isLower (hn d hd)
  have hname := namesScript_append hn hc w
  rw [List.cons_append, List.cons_append, List.append_assoc, List.singleton_append,
    trapped_tag halpha]
  simp only [hname]

/-- A letter goes on with the name of a tag, and any other character ends it. -/
theorem exists_step_name {n : List Char} (hn : ∀ c ∈ n, c.isLower = true) (c : Char) :
    ∃ s', (ScriptState.doubleEscapeStart n).step c = some s' ∧
      Leads s' .comment ('<' :: n ++ [c]) := by
  by_cases he : endsName c = true
  · have hplain : ∀ d ∈ [c], d ≠ '<' ∧ d ≠ '-' := by
      intro d hd
      rw [List.mem_singleton.mp hd]
      exact ne_of_endsName he
    have htag := trapped_tag_cons hn (not_isAlpha_of_endsName he)
    by_cases hname : n = scriptName
    · rw [if_pos ⟨hname, he⟩] at htag
      refine ⟨.doubleEscaped, by simp [ScriptState.step, he, hname], ?_⟩
      exact Holds.doubleEscaped.leads.of_iff fun w => (htag w).trans (trapped_append hplain _ w)
    · rw [if_neg fun h => hname h.1] at htag
      refine ⟨.escaped, by simp [ScriptState.step, he, hname], ?_⟩
      exact Holds.escaped.leads.of_iff fun w => (htag w).trans (trapped_append hplain _ w)
  by_cases ha : c.isAlpha = true
  · exact ⟨.doubleEscapeStart (n ++ [c.toLower]), by simp [ScriptState.step, he, ha],
      leads_letter hn ha⟩
  · have htag := trapped_tag_cons hn (Bool.eq_false_iff.mpr ha)
    rw [if_neg fun h => he h.2] at htag
    refine ⟨.afterEscaped c, by simp [ScriptState.step, he, ha], ?_⟩
    exact (leads_afterEscaped c).of_iff htag

/-- One more character, unless it begins an end tag. -/
theorem exists_step {g : Depth} {u : List Char} {s : ScriptState} (h : Holds g u s) {c : Char}
    (hc : s.awaitsSlash = true → c ≠ '/') :
    ∃ s', s.step c = some s' ∧ Leads s' g (u ++ [c]) := by
  -- what is held back either grows by the character, or is known to begin nothing and is let go
  cases h with
  | data => exact ⟨_, rfl, leads_afterData c⟩
  | lessThan =>
      have hslash : c ≠ '/' := hc rfl
      by_cases hbang : c = '!'
      · subst hbang
        exact ⟨_, rfl, Holds.escapeStart.leads⟩
      · refine ⟨.afterData c, by simp [ScriptState.step, hslash, hbang], ?_⟩
        refine (leads_afterData c).of_iff fun w => ?_
        exact trapped_content_cons (.inr (not_prefix_cons hbang _ w))
  | escapeStart =>
      by_cases hd : c = '-'
      · subst hd
        exact ⟨_, rfl, Holds.escapeStartDash.leads⟩
      · refine ⟨.afterData c, by simp [ScriptState.step, hd], ?_⟩
        refine (leads_afterData c).of_iff fun w => ?_
        have hopen : ¬ ['!', '-', '-'] <+: '!' :: c :: w := fun h =>
          not_prefix_cons hd _ w (List.cons_prefix_cons.mp h).2
        exact (trapped_content_cons (.inr hopen)).trans (trapped_content_cons (.inl (by decide)))
  | escapeStartDash =>
      by_cases hd : c = '-'
      · subst hd
        exact ⟨_, rfl, Holds.escapedDashDash.leads.of_iff trapped_open⟩
      · refine ⟨.afterData c, by simp [ScriptState.step, hd], ?_⟩
        refine (leads_afterData c).of_iff fun w => ?_
        have hopen : ¬ ['!', '-', '-'] <+: '!' :: '-' :: c :: w := fun h =>
          not_prefix_cons hd _ w (List.cons_prefix_cons.mp (List.cons_prefix_cons.mp h).2).2
        exact (trapped_content_cons (.inr hopen)).trans <|
          (trapped_content_cons (.inl (by decide))).trans (trapped_content_cons (.inl (by decide)))
  | escaped => exact ⟨_, rfl, leads_afterEscaped c⟩
  | escapedDash =>
      by_cases hd : c = '-'
      · subst hd
        exact ⟨_, rfl, Holds.escapedDashDash.leads⟩
      · refine ⟨.afterEscaped c, by simp [ScriptState.step, hd], ?_⟩
        refine (leads_afterEscaped c).of_iff fun w => ?_
        exact trapped_dash .comment (not_prefix_cons hd _ w)
  | escapedDashDash =>
      by_cases hd : c = '-'
      · subst hd
        exact ⟨_, rfl, Holds.escapedDashDash.leads.of_iff (trapped_three_dashes .comment)⟩
      by_cases hg : c = '>'
      · subst hg
        exact ⟨_, rfl, Holds.data.leads.of_iff (trapped_close .comment (by decide))⟩
      · refine ⟨.afterEscaped c, by simp [ScriptState.step, hd, hg], ?_⟩
        exact (leads_afterEscaped c).of_iff (trapped_two_dashes .comment hd hg)
  | escapedLessThan =>
      have hslash : c ≠ '/' := hc rfl
      by_cases ha : c.isAlpha = true
      · refine ⟨.doubleEscapeStart [c.toLower], by simp [ScriptState.step, hslash, ha], ?_⟩
        exact leads_letter (n := []) (fun _ h => absurd h List.not_mem_nil) ha
      · refine ⟨.afterEscaped c, by simp [ScriptState.step, hslash, ha], ?_⟩
        refine (leads_afterEscaped c).of_iff fun w => ?_
        have hname : ¬ NamesScript (c :: w) := by
          have hiff := namesScript_append (n := []) (by simp) (Bool.eq_false_iff.mpr ha) w
          exact fun h => absurd (hiff.mp h).1 (by decide)
        exact trapped_comment_cons (fun h => absurd h (by decide)) (fun _ => hname)
  | doubleEscapeStart hn => exact exists_step_name hn c
  | doubleEscaped => exact ⟨_, rfl, leads_afterDoubleEscaped c⟩
  | doubleEscapedDash =>
      by_cases hd : c = '-'
      · subst hd
        exact ⟨_, rfl, Holds.doubleEscapedDashDash.leads⟩
      · refine ⟨.afterDoubleEscaped c, by simp [ScriptState.step, hd], ?_⟩
        refine (leads_afterDoubleEscaped c).of_iff fun w => ?_
        exact trapped_dash .script (not_prefix_cons hd _ w)
  | doubleEscapedDashDash =>
      by_cases hd : c = '-'
      · subst hd
        exact ⟨_, rfl, Holds.doubleEscapedDashDash.leads.of_iff (trapped_three_dashes .script)⟩
      by_cases hg : c = '>'
      · subst hg
        exact ⟨_, rfl, Holds.data.leads.of_iff (trapped_close .script (by decide))⟩
      · refine ⟨.afterDoubleEscaped c, by simp [ScriptState.step, hd, hg], ?_⟩
        exact (leads_afterDoubleEscaped c).of_iff (trapped_two_dashes .script hd hg)
  | doubleEscapedLessThan =>
      have hslash : c ≠ '/' := hc rfl
      refine ⟨.afterDoubleEscaped c, by simp [ScriptState.step, hslash], ?_⟩
      exact (leads_afterDoubleEscaped c).of_iff fun w =>
        trapped_script_cons fun h => absurd h (by decide)

theorem awaitsSlash_afterData (c : Char) :
    (ScriptState.afterData c).awaitsSlash = true ↔ c = '<' := by
  rw [ScriptState.afterData]
  split <;> simp_all [ScriptState.awaitsSlash]

theorem awaitsSlash_afterEscaped (c : Char) :
    (ScriptState.afterEscaped c).awaitsSlash = true ↔ c = '<' := by
  rw [ScriptState.afterEscaped]
  split
  · simp_all [ScriptState.awaitsSlash]
  split <;> simp_all [ScriptState.awaitsSlash]

theorem awaitsSlash_afterDoubleEscaped (c : Char) :
    (ScriptState.afterDoubleEscaped c).awaitsSlash = true ↔ c = '<' := by
  rw [ScriptState.afterDoubleEscaped]
  split
  · simp_all [ScriptState.awaitsSlash]
  split <;> simp_all [ScriptState.awaitsSlash]

theorem eq_of_awaitsSlash {s s' : ScriptState} {c : Char} (h : s.step c = some s')
    (hs : s'.awaitsSlash = true) : c = '<' := by
  -- every other step leads to a state that awaits no slash
  have hafter : s' = .afterData c ∨ s' = .afterEscaped c ∨ s' = .afterDoubleEscaped c := by
    by_contra hnot
    cases s <;> simp only [ScriptState.step] at h <;> (repeat' split at h) <;> cases h <;>
      simp_all [ScriptState.awaitsSlash]
  rcases hafter with rfl | rfl | rfl
  · exact (awaitsSlash_afterData c).mp hs
  · exact (awaitsSlash_afterEscaped c).mp hs
  · exact (awaitsSlash_afterDoubleEscaped c).mp hs

theorem trapped_nil (g : Depth) : Trapped g [] ↔ g = .script := by
  have htraps : ¬ Traps [] := by
    rintro ⟨a, b, h, -⟩
    simp at h
  have hopens : ¬ OpensScript [] := by
    rintro ⟨a, b, h, -⟩
    simp at h
  have hunclosed : Unclosed [] := by
    intro h
    simp at h
  cases g <;> simp [Trapped, htraps, hopens, hunclosed]

/-- What is held back is not enough to end in a script. -/
theorem Holds.trapped_iff {g : Depth} {u : List Char} {s : ScriptState} (h : Holds g u s) :
    Trapped g u ↔ g = .script := by
  have hdash : ∀ g, Trapped g ['-'] ↔ g = .script := fun g =>
    (trapped_dash g (by decide)).trans (trapped_nil g)
  have hbang : ∀ c ∈ ['!'], c ≠ '<' ∧ c ≠ '-' := by simp
  cases h with
  | data => exact trapped_nil _
  | lessThan => exact (trapped_content_cons (.inr (by decide))).trans (trapped_nil _)
  | escapeStart =>
      exact (trapped_content_cons (.inr (by decide))).trans <|
        (trapped_append hbang .content []).trans (trapped_nil _)
  | escapeStartDash =>
      exact (trapped_content_cons (.inr (by decide))).trans <|
        (trapped_append hbang .content ['-']).trans (hdash _)
  | escaped => exact trapped_nil _
  | escapedDash => exact hdash _
  | escapedDashDash => exact (trapped_dash _ (by decide)).trans (hdash _)
  | escapedLessThan =>
      exact (trapped_comment_cons (fun h => absurd h (by decide)) (fun _ => by decide)).trans
        (trapped_nil _)
  | doubleEscapeStart hn =>
      rename_i n
      have halpha : ∀ c ∈ n, c.isAlpha = true := fun c hc => isAlpha_of_isLower (hn c hc)
      have hname : ¬ NamesScript (n ++ []) := by
        have hdrop : (n ++ []).dropWhile Char.isAlpha = [] :=
          List.dropWhile_append_of_pos halpha
        rintro ⟨-, c, hc, -⟩
        rw [hdrop] at hc
        cases hc
      have htag := trapped_tag halpha []
      rw [if_neg hname, List.append_nil] at htag
      exact htag.trans (trapped_nil _)
  | doubleEscaped => exact trapped_nil _
  | doubleEscapedDash => exact hdash _
  | doubleEscapedDashDash => exact (trapped_dash _ (by decide)).trans (hdash _)
  | doubleEscapedLessThan =>
      exact (trapped_script_cons fun h => absurd h (by decide)).trans (trapped_nil _)

/-- A text without `</` does not leave the content, and it ends in a script within a comment if it
traps. -/
theorem exists_run {g : Depth} {u : List Char} {s : ScriptState} (h : Holds g u s) {w : List Char}
    (hw : ¬ ['<', '/'] <:+: w) (hs : s.awaitsSlash = true → w.head? ≠ some '/') :
    ∃ s' g' u', s.run w = some s' ∧ Holds g' u' s' ∧ (Trapped g (u ++ w) ↔ g' = .script) := by
  -- the depth and what is held back tell at every character how the rest of the text ends
  induction w generalizing g u s with
  | nil =>
      refine ⟨s, g, u, rfl, h, ?_⟩
      rw [List.append_nil]
      exact h.trapped_iff
  | cons c w ih =>
      have hc : s.awaitsSlash = true → c ≠ '/' := by
        rintro hs' rfl
        exact hs hs' rfl
      obtain ⟨s', hstep, g', u', hholds, htrapped⟩ := exists_step h hc
      rw [List.infix_cons_iff, not_or] at hw
      have hnext : s'.awaitsSlash = true → w.head? ≠ some '/' := by
        intro hs' hslash
        obtain ⟨rest, rfl⟩ := List.head?_eq_some_iff.mp hslash
        obtain rfl := eq_of_awaitsSlash hstep hs'
        exact hw.1 ⟨rest, rfl⟩
      obtain ⟨s'', g'', u'', hrun, hholds', htrapped'⟩ := ih hholds hw.2 hnext
      refine ⟨s'', g'', u'', by rw [ScriptState.run, hstep]; exact hrun, hholds', ?_⟩
      have happend := htrapped w
      rw [List.append_assoc, List.singleton_append] at happend
      exact happend.trans htrapped'

/-! ## The end of a script -/

def scriptText? (cs : List Char) : Option (List Char × List Char) :=
  (ScriptState.data.read cs).map fun (taken, left) =>
    (taken.take (taken.length - 8), taken.drop (taken.length - 8) ++ left)

def closing : List Char := ['<', '/', 's', 'c', 'r', 'i', 'p', 't', '>']

/-- To read a text is to scan its first part and to read the rest from there. -/
theorem read_append {s s' : ScriptState} {w : List Char} (h : s.run w = some s')
    (rest : List Char) :
    s.read (w ++ rest) = (s'.read rest).map fun (taken, left) => (w ++ taken, left) := by
  induction w generalizing s with
  | nil =>
      obtain rfl : s = s' := Option.some.inj h
      simp
  | cons c w ih =>
      rw [ScriptState.run] at h
      obtain ⟨t, hstep, hrun⟩ := Option.bind_eq_some_iff.mp h
      rw [List.cons_append, ScriptState.read, hstep]
      simp only [ih hrun, Option.map_map]
      rfl

def Depth.state : Depth → ScriptState
  | .content => .data
  | .comment => .escaped
  | .script => .doubleEscaped

theorem Holds.step_semicolon {g : Depth} {u : List Char} {s : ScriptState} (h : Holds g u s) :
    s.step ';' = some g.state := by
  cases h <;> rfl

/-- The end tag ends the content, except within a script in a comment. -/
theorem read_closing {g : Depth} (hg : g ≠ .script) (rest : List Char) :
    g.state.read (closing ++ rest) = some (closing.take 8, '>' :: rest) := by
  cases g with
  | content => rfl
  | comment => rfl
  | script => exact absurd rfl hg

/-- There it ends that script only. -/
theorem read_script_closing (rest : List Char) :
    Depth.script.state.read (closing ++ rest) =
      (ScriptState.escaped.read rest).map fun (taken, left) => (closing ++ taken, left) :=
  read_append rfl rest

section Statement

variable {w : List Char} (hw : ¬ ['<', '/'] <:+: w) (rest : List Char)

include hw

/-- A statement is read up to its end, and then the state shows whether it traps. -/
theorem exists_read_statement : ∃ g : Depth, (Traps w ↔ g = .script) ∧
    ScriptState.data.read (w ++ ';' :: rest) =
      (g.state.read rest).map fun (taken, left) => (w ++ ';' :: taken, left) := by
  obtain ⟨s, g, u, hrun, hholds, htrapped⟩ :=
    exists_run Holds.data hw (fun h => absurd h (by decide))
  refine ⟨g, htrapped, ?_⟩
  rw [read_append hrun, ScriptState.read, hholds.step_semicolon]
  simp only [Option.map_map]
  rfl

theorem scriptText?_of_not_traps (h : ¬ Traps w) :
    scriptText? (w ++ ';' :: (closing ++ rest)) = some (w ++ [';'], closing ++ rest) := by
  obtain ⟨g, hg, hread⟩ := exists_read_statement hw (closing ++ rest)
  have htaken : w ++ ';' :: closing.take 8 = (w ++ [';']) ++ closing.take 8 := by simp
  rw [scriptText?, hread, read_closing (mt hg.mpr h)]
  simp only [Option.map_some, htaken, List.length_append, Option.some.injEq, Prod.mk.injEq]
  have hlength :
      (w.length + [';'].length + (closing.take 8).length) - 8 = (w ++ [';']).length := by
    simp [closing]
  rw [hlength]
  constructor
  · rw [List.take_left]
  · rw [List.drop_left]
    rfl

/-- A script that traps goes on behind its own end tag. -/
theorem prefix_of_scriptText?_of_traps (h : Traps w) {text left : List Char}
    (ht : scriptText? (w ++ ';' :: (closing ++ rest)) = some (text, left)) :
    w ++ [';', '<'] <+: text := by
  obtain ⟨g, hg, hread⟩ := exists_read_statement hw (closing ++ rest)
  obtain rfl : g = .script := hg.mp h
  rw [scriptText?, hread, read_script_closing] at ht
  rcases hrest : ScriptState.escaped.read rest with _ | ⟨taken, left'⟩
  · simp [hrest] at ht
  · simp only [hrest, Option.map_some, Option.some.injEq, Prod.mk.injEq] at ht
    have htaken : w ++ ';' :: (closing ++ taken) =
        (w ++ [';', '<']) ++ (closing.drop 1 ++ taken) := by
      simp [closing]
    have hlength : (w ++ [';', '<']).length ≤ (w ++ ';' :: (closing ++ taken)).length - 8 := by
      simp [closing]
      omega
    rw [← ht.1, List.prefix_take_iff]
    exact ⟨⟨closing.drop 1 ++ taken, htaken.symm⟩, hlength⟩

end Statement

end Provision.Page
