import Provision.Name
import Provision.Proofs.Text.Split
import Provision.Unit.Name

namespace Provision

/-!
# The grammars of names and of unit names

Both grammars as sets of texts, beside the functions that recognise them.  Whatever is in the
grammar of unit names is a text of ASCII, so that its length in bytes is the number of its
characters.
-/

theorem Text.utf8ByteSize_ofList {cs : List Char} (h : ∀ c ∈ cs, c.toNat < 128) :
    (String.ofList cs).utf8ByteSize = cs.length := by
  induction cs with
  | nil => rfl
  | cons c cs ih =>
      have hc : c.utf8Size = 1 := by
        rw [Char.utf8Size_eq_one_iff, UInt32.le_iff_toNat_le]
        exact Nat.le_of_lt_succ (h c (by simp))
      have hcs := ih fun d hd => h d (List.mem_cons_of_mem c hd)
      rw [String.ofList_cons, String.utf8ByteSize_append, String.utf8ByteSize_singleton, hc, hcs,
        List.length_cons, Nat.add_comm]

theorem Text.isAlpha_iff {c : Char} :
    c.isAlpha = true ↔ 'a' ≤ c ∧ c ≤ 'z' ∨ 'A' ≤ c ∧ c ≤ 'Z' := by
  delta Char.isAlpha Char.isUpper Char.isLower
  simp [Char.le_def, or_comm]

theorem Text.isAlphanum_iff {c : Char} : c.isAlphanum = true ↔
    'a' ≤ c ∧ c ≤ 'z' ∨ 'A' ≤ c ∧ c ≤ 'Z' ∨ '0' ≤ c ∧ c ≤ '9' := by
  delta Char.isAlphanum Char.isDigit
  simp [isAlpha_iff, Char.le_def, or_assoc]

theorem Text.isAlphanum_of_isAlpha {c : Char} (h : c.isAlpha = true) : c.isAlphanum = true := by
  rw [isAlphanum_iff, ← or_assoc, ← isAlpha_iff]
  exact .inl h

theorem Text.toNat_lt_of_isAlphanum {c : Char} (h : c.isAlphanum = true) : c.toNat < 128 := by
  rw [Nat.lt_succ_iff]
  rcases isAlphanum_iff.mp h with ⟨-, hc⟩ | ⟨-, hc⟩ | ⟨-, hc⟩
  · exact Nat.le_trans hc (by decide : 'z'.toNat ≤ 127)
  · exact Nat.le_trans hc (by decide : 'Z'.toNat ≤ 127)
  · exact Nat.le_trans hc (by decide : '9'.toNat ≤ 127)

namespace Name

/-- A name begins with a letter or an underscore and goes on with letters, digits, underscores and
hyphens. -/
def InGrammar (name : String) : Prop :=
  ∃ c rest, name.toList = c :: rest ∧ (c.isAlpha ∨ c = '_') ∧
    ∀ d ∈ rest, d.isAlphanum ∨ d = '_' ∨ d = '-'

/-- The names that are recognised are those of the grammar. -/
theorem valid_iff_inGrammar {name : String} : valid name = true ↔ InGrammar name := by
  unfold valid InGrammar
  cases name.toList with
  | nil => simp
  | cons c rest =>
      simp only [isStart, isPart, Bool.and_eq_true, Bool.or_eq_true, decide_eq_true_eq,
        List.all_eq_true, or_assoc, List.cons.injEq]
      constructor
      · rintro ⟨hc, hrest⟩
        exact ⟨c, rest, ⟨rfl, rfl⟩, hc, hrest⟩
      · rintro ⟨c, rest, ⟨rfl, rfl⟩, hc, hrest⟩
        exact ⟨hc, hrest⟩

theorem InGrammar.ne_empty {name : String} (h : InGrammar name) : name ≠ "" := by
  rintro rfl
  obtain ⟨c, rest, hname, -⟩ := h
  simp at hname

theorem InGrammar.forall_mem {name : String} (h : InGrammar name) :
    ∀ c ∈ name.toList, c.isAlphanum ∨ c = '_' ∨ c = '-' := by
  obtain ⟨c, rest, hname, hc, hrest⟩ := h
  rw [hname, List.forall_mem_cons]
  refine ⟨?_, hrest⟩
  rcases hc with hc | rfl
  · exact .inl (Text.isAlphanum_of_isAlpha hc)
  · exact .inr (.inl rfl)

end Name

namespace UnitName

def IsCharacter (c : Char) : Prop := c.isAlphanum ∨ c = ':' ∨ c = '.' ∨ c = '_' ∨ c = '-'

/-- A base has characters of unit names only, and ends in the suffix of a kind, with something
before it. -/
structure BaseInGrammar (base : List Char) : Prop where
  characters : ∀ c ∈ base, IsCharacter c
  ends : ∃ stem kind, stem ≠ [] ∧ kind ∈ kinds ∧ base = stem ++ kind.toList

/-- A unit name is a base, perhaps behind an instance prefix and an `@`. -/
def InGrammar (unit : String) : Prop :=
  ∃ base, BaseInGrammar base ∧ (unit.toList = base ∨
    ∃ front, front ≠ [] ∧ (∀ c ∈ front, IsCharacter c) ∧ unit.toList = front ++ '@' :: base)

theorem isPart_iff {c : Char} : isPart c = true ↔ IsCharacter c := by
  simp [isPart, IsCharacter, or_assoc]

theorem not_isCharacter_at : ¬ IsCharacter '@' := by
  simp [IsCharacter]

theorem IsCharacter.toNat_lt {c : Char} (h : IsCharacter c) : c.toNat < 128 := by
  rcases h with h | rfl | rfl | rfl | rfl
  · exact Text.toNat_lt_of_isAlphanum h
  all_goals decide

theorem at_notMem {cs : List Char} (h : ∀ c ∈ cs, IsCharacter c) : '@' ∉ cs :=
  fun hat => not_isCharacter_at (h '@' hat)

theorem isBase_iff {cs : List Char} : isBase cs = true ↔ BaseInGrammar cs := by
  simp only [isBase, Bool.and_eq_true, List.all_eq_true, isPart_iff, List.any_eq_true,
    List.isSuffixOf_iff_suffix, decide_eq_true_eq]
  constructor
  · rintro ⟨hparts, kind, hkind, ⟨stem, rfl⟩, hlength⟩
    refine ⟨hparts, stem, kind, ?_, hkind, rfl⟩
    rintro rfl
    simp [String.length_toList] at hlength
  · rintro ⟨hparts, stem, kind, hstem, hkind, rfl⟩
    refine ⟨hparts, kind, hkind, ⟨stem, rfl⟩, ?_⟩
    have := List.length_pos_iff.mpr hstem
    rw [List.length_append, String.length_toList]
    omega

theorem valid_iff_inGrammar {unit : String} : valid unit = true ↔ InGrammar unit := by
  constructor
  · intro h
    unfold valid at h
    split at h
    · next base hsplit =>
      exact ⟨base, isBase_iff.mp h, .inl (Text.split_eq_singleton_iff.mp hsplit).1⟩
    · next front base hsplit =>
      simp only [Bool.and_eq_true, Bool.not_eq_true', List.isEmpty_eq_false_iff, List.all_eq_true,
        isPart_iff] at h
      obtain ⟨⟨hfront, hparts⟩, hbase⟩ := h
      exact ⟨base, isBase_iff.mp hbase,
        .inr ⟨front, hfront, hparts, (Text.split_eq_pair_iff.mp hsplit).1⟩⟩
    · cases h
  · rintro ⟨base, hbase, hunit | ⟨front, hfront, hparts, hunit⟩⟩
    · have hsplit := Text.split_of_notMem (at_notMem hbase.characters)
      simp [valid, hunit, hsplit, isBase_iff.mpr hbase]
    · have hsplit := Text.split_eq_pair_iff.mpr
        ⟨hunit, at_notMem hparts, at_notMem hbase.characters⟩
      simpa [valid, hsplit, isBase_iff.mpr hbase, isPart_iff, hfront] using hparts

/-- The part of a unit name that is measured is its base. -/
theorem suffix_of_base {unit : String} {base : List Char} (hbase : BaseInGrammar base)
    (hunit : unit.toList = base ∨ ∃ front, unit.toList = front ++ '@' :: base) :
    suffix unit = String.ofList base := by
  rcases hunit with hunit | ⟨front, hunit⟩
  · rw [suffix, hunit, Text.afterLast_of_notMem (at_notMem hbase.characters)]
  · rw [suffix, hunit, Text.afterLast_append_cons front (at_notMem hbase.characters)]

/-- Names of the grammar have no characters of several bytes, so that it does not matter which of
the two is counted. -/
theorem tooLong_eq_false_iff {unit : String} (h : InGrammar unit) :
    tooLong unit = false ↔ (suffix unit).length ≤ 256 := by
  obtain ⟨base, hbase, hunit⟩ := h
  have hsuffix : suffix unit = String.ofList base :=
    suffix_of_base hbase (hunit.imp_right fun ⟨front, _, _, h⟩ => ⟨front, h⟩)
  have hsize := Text.utf8ByteSize_ofList fun c hc => (hbase.characters c hc).toNat_lt
  simp [tooLong, longest, hsuffix, hsize]

theorem InGrammar.ne_empty {unit : String} (h : InGrammar unit) : unit ≠ "" := by
  rintro rfl
  exact absurd (valid_iff_inGrammar.mpr h) (by decide)

end UnitName

end Provision
