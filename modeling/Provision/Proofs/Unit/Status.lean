import Mathlib.Data.List.DropRight
import Provision.Proofs.Text.Lines
import Provision.Proofs.Text.Split
import Provision.Unit.Status

namespace Provision

/-!
# What a status is read from

For each of its two properties a status shows what the last line tells that tells something of the
property.  No other line matters, and a line of the one property does not matter for the other.
-/

namespace Text

variable {cs value : List Char} {c : Char}

theorem trimEnd_eq_rdropWhile (cs : List Char) : trimEnd cs = cs.rdropWhile isBlank := rfl

theorem trim_append_of_blank (h : isBlank c = true) (cs : List Char) :
    trim (cs ++ [c]) = trim cs := by
  simp only [trim, trimStart, List.dropWhile_append]
  split
  · next hall => simp [List.isEmpty_iff.mp hall, h]
  · rw [trimEnd_eq_rdropWhile, List.rdropWhile_concat_pos isBlank _ _ h]
    rfl

theorem trimEnd_of_trim (h : trim cs = cs) : trimEnd cs = cs := by
  calc trimEnd cs = trimEnd (trim cs) := by rw [h]
    _ = trim cs := List.rdropWhile_idempotent isBlank _
    _ = cs := h

theorem trimEnd_append_cons (hc : isBlank c = false) (hvalue : trimEnd value = value)
    (cs : List Char) : trimEnd (cs ++ c :: value) = cs ++ c :: value := by
  rw [trimEnd_eq_rdropWhile, List.rdropWhile_eq_self_iff] at hvalue ⊢
  intro hne
  rcases eq_or_ne value [] with rfl | hv
  · simp [hc]
  · simpa [List.getLast_append, List.getLast_cons hv] using hvalue hv

end Text

namespace UnitStatus

inductive Property where
  | result
  | subState
  deriving DecidableEq, Repr

namespace Property

def name : Property → String
  | result => "Result"
  | subState => "SubState"

def key (p : Property) : List Char := p.name.toList

def shown : Property → UnitStatus → String
  | result, status => status.result
  | subState, status => status.subState

/-- A status is known by what it shows of every property. -/
theorem eq_of_shown {status status' : UnitStatus}
    (h : ∀ p : Property, p.shown status = p.shown status') : status = status' := by
  obtain ⟨r, s⟩ := status
  obtain ⟨r', s'⟩ := status'
  have hr : r = r' := h result
  have hs : s = s' := h subState
  rw [hr, hs]

theorem notMem_key (p : Property) : '=' ∉ p.key := by cases p <;> decide

theorem key_inj {p q : Property} (h : p.key = q.key) : p = q := by
  revert h
  cases p <;> cases q <;> decide

end Property

/-- The line is, without the white space at its ends, the key, an equals sign, and the value, in
which there is no other one. -/
def Tells (key value line : List Char) : Prop :=
  Text.trim line = key ++ '=' :: value ∧ '=' ∉ value

def told? (key line : List Char) : Option (List Char) :=
  match Text.split '=' (Text.trim line) with
  | [k, value] => if k = key then some value else none
  | _ => none

def lastTold? (key : List Char) (found : List (List Char)) : Option (List Char) :=
  found.reverse.findSome? (told? key)

def linesOf (output : String) : List (List Char) := Text.lines '\n' '\r' output.toList

variable {key value line : List Char} {found : List (List Char)}

theorem told?_eq_some_iff (hkey : '=' ∉ key) :
    told? key line = some value ↔ Tells key value line := by
  constructor
  · intro h
    unfold told? at h
    split at h
    · next k v hsplit =>
      obtain ⟨htrim, -, hfree⟩ := Text.split_eq_pair_iff.mp hsplit
      split at h
      · next heq =>
        obtain rfl := Option.some.inj h
        exact ⟨heq ▸ htrim, hfree⟩
      · cases h
    · cases h
  · rintro ⟨htrim, hfree⟩
    simp only [told?, Text.split_eq_pair_iff.mpr ⟨htrim, hkey, hfree⟩, if_true]

theorem told?_append_of_blank {c : Char} (h : Text.isBlank c = true) (key line : List Char) :
    told? key (line ++ [c]) = told? key line := by
  simp only [told?, Text.trim_append_of_blank h]

/-- The later lines count, where one of them tells something. -/
theorem lastTold?_append (key : List Char) (found found' : List (List Char)) :
    lastTold? key (found ++ found') = (lastTold? key found').or (lastTold? key found) := by
  rw [lastTold?, List.reverse_append, List.findSome?_append]
  rfl

theorem lastTold?_cons (key line : List Char) (found : List (List Char)) :
    lastTold? key (line :: found) = (lastTold? key found).or (told? key line) := by
  rw [← List.singleton_append, lastTold?_append]
  simp [lastTold?]

/-! ## One line, and all of them -/

/-- A line of the one property leaves the other one as it is. -/
theorem shown_readLine (p : Property) (status : UnitStatus) (line : List Char) :
    p.shown (readLine status line) =
      ((told? p.key line).map String.ofList).getD (p.shown status) := by
  have hread : readLine status line = match Text.split '=' (Text.trim line) with
      | [key, value] =>
        if key = Property.result.key then { status with result := String.ofList value }
        else if key = Property.subState.key then { status with subState := String.ofList value }
        else status
      | _ => status := rfl
  have hne : Property.result.key ≠ Property.subState.key := by decide
  rw [hread, told?]
  rcases Text.split '=' (Text.trim line) with _ | ⟨k, _ | ⟨v, _ | ⟨w, more⟩⟩⟩
  case cons.cons.nil =>
    by_cases hr : k = Property.result.key
    · cases p <;> simp [hr, hne, Property.shown]
    · by_cases hs : k = Property.subState.key
      · cases p <;> simp [hs, hne.symm, Property.shown]
      · cases p <;> simp [hr, hs, Property.shown]
  all_goals rfl

/-- By induction on the lines: what has been told last is shown. -/
theorem shown_foldl (p : Property) (found : List (List Char)) (status : UnitStatus) :
    p.shown (found.foldl readLine status) =
      ((lastTold? p.key found).map String.ofList).getD (p.shown status) := by
  induction found generalizing status with
  | nil => rfl
  | cons line found ih =>
      rw [List.foldl_cons, ih, shown_readLine, lastTold?_cons]
      cases lastTold? p.key found <;> rfl

theorem shown_parse (p : Property) (output : String) :
    p.shown (parse output) =
      ((lastTold? p.key (linesOf output)).map String.ofList).getD "" := by
  have hempty : p.shown empty = "" := by cases p <;> rfl
  rw [parse, shown_foldl, hempty]
  rfl

/-! ## Texts behind one another -/

/-- Behind a line feed there are the lines of what follows; what is told before it stays told. -/
theorem lastTold?_lines_append (key a b : List Char) :
    lastTold? key (Text.lines '\n' '\r' (a ++ '\n' :: b)) =
      (lastTold? key (Text.lines '\n' '\r' b)).or (lastTold? key (Text.lines '\n' '\r' a)) := by
  have hret : '\r' ≠ '\n' := by decide
  have hblank : Text.isBlank '\r' = true := by decide
  have hlined := Text.lined_lines '\n' '\r' a
  generalize Text.lines '\n' '\r' a = found at hlined ⊢
  induction hlined with
  | none =>
      rw [List.nil_append, Text.lines_feed, lastTold?_cons]
      rfl
  | @last line nonempty free =>
      by_cases hlast : line.getLast? = some '\r'
      · -- the return at the end is now a part of the line's end
        obtain ⟨front, rfl⟩ := List.getLast?_eq_some_iff.mp hlast
        have hfree : '\n' ∉ front := fun h => free (List.mem_append_left _ h)
        rw [List.append_assoc, List.singleton_append, Text.lines_returned hret hfree,
          lastTold?_cons, lastTold?_cons, told?_append_of_blank hblank]
        rfl
      · rw [Text.lines_fed free hlast, lastTold?_cons, lastTold?_cons]
        rfl
  | @fed line rest more free bare _ ih =>
      rw [List.append_assoc, List.cons_append, Text.lines_fed free bare, lastTold?_cons, ih,
        lastTold?_cons, Option.or_assoc]
  | @returned line rest more free _ ih =>
      rw [List.append_assoc, List.cons_append, List.cons_append, Text.lines_returned hret free,
        lastTold?_cons, ih, lastTold?_cons, Option.or_assoc]

/-- Some value of the property is told by the line. -/
def IsTold (p : Property) (line : List Char) : Prop := ∃ value, Tells p.key value line

theorem isSome_told?_iff (p : Property) : (told? p.key line).isSome ↔ IsTold p line := by
  simp only [Option.isSome_iff_exists, told?_eq_some_iff p.notMem_key, IsTold]

instance (p : Property) : DecidablePred (IsTold p) := fun _ =>
  decidable_of_iff _ (isSome_told?_iff p)

theorem told?_eq_none_iff (p : Property) : told? p.key line = none ↔ ¬ IsTold p line := by
  rw [← isSome_told?_iff, Option.not_isSome_iff_eq_none]

/-- Lines that tell nothing of a property do not matter for it. -/
theorem lastTold?_filter (p : Property) (found : List (List Char)) :
    lastTold? p.key (found.filter (IsTold p ·)) = lastTold? p.key found := by
  have hskip : (fun line => if decide (IsTold p line) = true then told? p.key line else none) =
      told? p.key := by
    funext line
    split
    · rfl
    · next h => exact ((told?_eq_none_iff p).mpr (by simpa using h)).symm
  rw [lastTold?, ← List.getLast?_filterMap, List.filterMap_filter, hskip, List.getLast?_filterMap]
  rfl

theorem lastTold?_eq_none_iff (p : Property) :
    lastTold? p.key found = none ↔ ¬ ∃ line ∈ found, IsTold p line := by
  simp [lastTold?, List.findSome?_eq_none_iff, told?_eq_none_iff]

/-- What the last line tells that tells something of a property, or nothing if none does. -/
inductive LastTold (p : Property) : List (List Char) → List Char → Prop
  | told {before after : List (List Char)} {line value : List Char}
      (tells : Tells p.key value line) (last : ∀ l ∈ after, ¬ IsTold p l) :
      LastTold p (before ++ line :: after) value
  | untold {found : List (List Char)} (none : ∀ l ∈ found, ¬ IsTold p l) : LastTold p found []

theorem lastTold_getD (p : Property) (found : List (List Char)) :
    LastTold p found ((lastTold? p.key found).getD []) := by
  rcases hlast : lastTold? p.key found with _ | value
  · refine .untold fun l hl htold => ?_
    exact (lastTold?_eq_none_iff p).mp hlast ⟨l, hl, htold⟩
  · obtain ⟨after, line, before, hreverse, htold, hafter⟩ := List.findSome?_eq_some_iff.mp hlast
    obtain rfl : found = before.reverse ++ line :: after.reverse := by
      rw [← List.reverse_reverse found, hreverse]
      simp
    refine .told ((told?_eq_some_iff p.notMem_key).mp htold) fun l hl => ?_
    exact (told?_eq_none_iff p).mp (hafter l (List.mem_reverse.mp hl))

theorem shown_parse_append (p : Property) (a b : String) :
    p.shown (parse (a ++ "\n" ++ b)) =
      if ∃ line ∈ linesOf b, IsTold p line then p.shown (parse b) else p.shown (parse a) := by
  have hlines : (a ++ "\n" ++ b).toList = a.toList ++ '\n' :: b.toList := by simp
  simp only [shown_parse, linesOf, hlines, lastTold?_lines_append]
  split
  · next htold =>
    obtain ⟨value, hvalue⟩ := Option.ne_none_iff_exists'.mp
      (mt (lastTold?_eq_none_iff p).mp (not_not_intro htold))
    rw [hvalue]
    rfl
  · next htold =>
    rw [(lastTold?_eq_none_iff p).mpr htold]
    rfl

/-- The end of the last line may be missing. -/
theorem parse_append_feed (output : String) : parse (output ++ "\n") = parse output := by
  apply Property.eq_of_shown
  intro p
  have h := shown_parse_append p output ""
  rw [String.append_empty, if_neg (by simp [linesOf])] at h
  exact h

/-- A text that can be written behind an equals sign and read off the line again. -/
structure Writable (value : String) : Prop where
  noEquals : '=' ∉ value.toList
  noFeed : '\n' ∉ value.toList
  trimmed : Text.trim value.toList = value.toList

def written (p : Property) (value : String) : String := p.name ++ "=" ++ value

theorem toList_written (p : Property) (value : String) :
    (written p value).toList = p.key ++ '=' :: value.toList := by
  simp [written, Property.key]

theorem tells_written (p : Property) {value : String} (h : Writable value) :
    Tells p.key value.toList (written p value).toList := by
  have hstart (cs : List Char) : Text.trimStart (p.key ++ cs) = p.key ++ cs := by
    cases p <;> exact Text.trimStart_cons_of_not_blank _ (by decide)
  refine ⟨?_, h.noEquals⟩
  rw [toList_written, Text.trim, hstart,
    Text.trimEnd_append_cons (by decide) (Text.trimEnd_of_trim h.trimmed)]

theorem linesOf_written (p : Property) {value : String} (h : Writable value) :
    linesOf (written p value) = [(written p value).toList] := by
  have hkey : '\n' ∉ p.key := by cases p <;> decide
  have hfree : '\n' ∉ (written p value).toList := by simp [toList_written, hkey, h.noFeed]
  exact Text.lines_of_notMem (by simp [toList_written]) hfree

/-- A line that is written for one property tells nothing of another. -/
theorem isTold_written_iff (p q : Property) {value : String} (h : Writable value) :
    IsTold p (written q value).toList ↔ p = q := by
  constructor
  · rintro ⟨v, htrim, hfree⟩
    obtain ⟨htrim', hfree'⟩ := tells_written q h
    have hsplit := Text.split_eq_pair_iff.mpr ⟨htrim, p.notMem_key, hfree⟩
    rw [Text.split_eq_pair_iff.mpr ⟨htrim', q.notMem_key, hfree'⟩] at hsplit
    exact Property.key_inj (List.cons.inj hsplit).1.symm
  · rintro rfl
    exact ⟨_, tells_written p h⟩

theorem shown_parse_written (p : Property) {value : String} (h : Writable value) :
    p.shown (parse (written p value)) = value := by
  rw [shown_parse, linesOf_written p h, lastTold?_cons,
    (told?_eq_some_iff p.notMem_key).mpr (tells_written p h)]
  exact String.ofList_toList

theorem shown_parse_two_written {p q : Property} (hne : p ≠ q) {v w : String} (hv : Writable v)
    (hw : Writable w) (r : Property) :
    r.shown (parse (written p v ++ "\n" ++ written q w)) = if r = p then v else w := by
  have htold : (∃ line ∈ linesOf (written q w), IsTold r line) ↔ r = q := by
    simp [linesOf_written q hw, isTold_written_iff r q hw]
  have hother : r ≠ p → r = q := by
    revert hne
    cases p <;> cases q <;> cases r <;> decide
  rw [shown_parse_append]
  simp only [htold]
  by_cases hr : r = p
  · rw [if_pos hr, if_neg (hr ▸ hne), hr, shown_parse_written p hv]
  · obtain rfl := hother hr
    rw [if_neg hr, if_pos rfl, shown_parse_written r hw]

/-- A status shows of each property what the last line tells that tells something of it.  So other
lines, and the order in which the two properties are told, do not matter; of two texts, one behind
the other, the second overrides what it tells; and what is written in two lines is read off them
again. -/
theorem parse_shows_lastTold :
    (∀ (p : Property) (output : String),
      LastTold p (linesOf output) (p.shown (parse output)).toList) ∧
    (∀ a b : String,
      (∀ p, (linesOf a).filter (IsTold p ·) = (linesOf b).filter (IsTold p ·)) →
      parse a = parse b) ∧
    (∀ (p : Property) (a b : String), p.shown (parse (a ++ "\n" ++ b)) =
      if ∃ line ∈ linesOf b, IsTold p line then p.shown (parse b) else p.shown (parse a)) ∧
    ∀ r s ending : String, Writable r → Writable s → ending = "" ∨ ending = "\n" →
      parse (written .result r ++ "\n" ++ written .subState s ++ ending) = ⟨r, s⟩ ∧
      parse (written .subState s ++ "\n" ++ written .result r ++ ending) = ⟨r, s⟩ := by
  refine ⟨?_, ?_, shown_parse_append, ?_⟩
  · intro p output
    have htold := lastTold_getD p (linesOf output)
    rw [shown_parse]
    cases h : lastTold? p.key (linesOf output) <;> simpa [h] using htold
  · intro a b h
    apply Property.eq_of_shown
    intro p
    rw [shown_parse, shown_parse, ← lastTold?_filter, h p, lastTold?_filter]
  · intro r s ending hr hs hending
    have hend (output : String) : parse (output ++ ending) = parse output := by
      rcases hending with rfl | rfl
      · rw [String.append_empty]
      · exact parse_append_feed output
    constructor
    · apply Property.eq_of_shown
      intro p
      rw [hend, shown_parse_two_written (by decide) hr hs]
      cases p <;> rfl
    · apply Property.eq_of_shown
      intro p
      rw [hend, shown_parse_two_written (by decide) hs hr]
      cases p <;> rfl

/-- An output with lines that nearly tell something. -/
def noisy : String :=
  "Result=failed\nResult = x\n  Result=success \r\nResult=a=b\nSubState=dead"

/-- A blank in front of the equals sign or another such sign makes a line tell nothing; without such
lines, and with its properties in the other order, the output shows the same. -/
theorem parse_shows_noisy :
    Writable "success" ∧ Writable "dead" ∧
      parse "SubState=dead\nResult=success\n" = ⟨"success", "dead"⟩ ∧
      parse noisy = parse "SubState=dead\nResult=failed\n  Result=success " ∧
      parse noisy = ⟨"success", "dead"⟩ := by
  have hsuccess : Writable "success" := ⟨by decide, by decide, by decide⟩
  have hdead : Writable "dead" := ⟨by decide, by decide, by decide⟩
  obtain ⟨-, hsame, -, hwritten⟩ := parse_shows_lastTold
  obtain ⟨-, hparse⟩ := hwritten "success" "dead" "\n" hsuccess hdead (.inr rfl)
  refine ⟨hsuccess, hdead, hparse, hsame _ _ ?_, by decide⟩
  intro p
  cases p <;> decide

end UnitStatus

end Provision
