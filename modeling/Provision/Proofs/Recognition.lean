import Provision.Proofs.Grammar
import Provision.Proofs.Text.Expression

namespace Provision

/-!
# The grammars as regular expressions

The messages show the grammars of names and of unit names as regular expressions.  What recognises
names and unit names accepts exactly the texts that the expressions match as a whole, and these are
the texts of the grammars.
-/

open Text

theorem Text.range_self {c first : Char} : first ≤ c ∧ c ≤ first ↔ c = first := by
  constructor
  · rintro ⟨hfirst, hlast⟩
    exact Char.le_antisymm hlast hfirst
  · rintro rfl
    exact ⟨Char.le_refl c, Char.le_refl c⟩

namespace Name

def starts : CharClass := ⟨[('a', 'z'), ('A', 'Z'), ('_', '_')]⟩

def parts : CharClass := ⟨[('a', 'z'), ('A', 'Z'), ('0', '9'), ('_', '_'), ('-', '-')]⟩

def expression : Expression := .append (.plus starts) (.star parts)

theorem starts_has {c : Char} : starts.Has c ↔ c.isAlpha ∨ c = '_' := by
  simp [CharClass.Has, starts, isAlpha_iff, range_self, or_assoc]

theorem parts_has {c : Char} : parts.Has c ↔ c.isAlphanum ∨ c = '_' ∨ c = '-' := by
  simp [CharClass.Has, parts, isAlphanum_iff, range_self, or_assoc]

theorem parts_has_of_starts_has {c : Char} (h : starts.Has c) : parts.Has c := by
  obtain ⟨range, hrange, hc⟩ := h
  refine ⟨range, ?_, hc⟩
  simp only [starts, parts, List.mem_cons] at hrange ⊢
  tauto

/-- A text that begins with several characters of the first class can be split behind any of them,
so that only the first has to be of that class. -/
theorem mem_language_iff {name : String} :
    name.toList ∈ expression.language ↔ InGrammar name := by
  simp only [expression, Expression.mem_append, Expression.mem_plus, Expression.mem_star]
  constructor
  · rintro ⟨u, ⟨hne, hu⟩, v, hv, hname⟩
    obtain ⟨c, u, rfl⟩ := List.exists_cons_of_ne_nil hne
    obtain ⟨hc, hu⟩ := List.forall_mem_cons.mp hu
    refine ⟨c, u ++ v, hname.symm, starts_has.mp hc, fun d hd => parts_has.mp ?_⟩
    rcases List.mem_append.mp hd with hd | hd
    · exact parts_has_of_starts_has (hu d hd)
    · exact hv d hd
  · rintro ⟨c, rest, hname, hc, hrest⟩
    refine ⟨[c], ⟨List.cons_ne_nil c [], ?_⟩, rest, fun d hd => parts_has.mpr (hrest d hd),
      hname.symm⟩
    exact List.forall_mem_singleton.mpr (starts_has.mpr hc)

end Name

namespace UnitName

def parts : CharClass :=
  ⟨[('a', 'z'), ('A', 'Z'), ('0', '9'), (':', ':'), ('.', '.'), ('_', '_'), ('-', '-')]⟩

def baseExpression : Expression := .append (.plus parts) (.oneOf kinds)

def expression : Expression :=
  .append (.optional (.append (.plus parts) (.word "@"))) baseExpression

theorem parts_has {c : Char} : parts.Has c ↔ IsCharacter c := by
  simp [CharClass.Has, parts, isAlphanum_iff, range_self, IsCharacter, or_assoc]

theorem isCharacter_of_kind {kind : String} (h : kind ∈ kinds) :
    ∀ c ∈ kind.toList, IsCharacter c := by
  have hall : kinds.all fun kind => kind.toList.all isPart := by decide +kernel
  intro c hc
  exact isPart_iff.mp (List.all_eq_true.mp (List.all_eq_true.mp hall kind h) c hc)

/-- The expression of a base has the grammar as its language. -/
theorem mem_baseExpression_iff {base : List Char} :
    base ∈ baseExpression.language ↔ BaseInGrammar base := by
  simp only [baseExpression, Expression.mem_append, Expression.mem_plus, Expression.mem_oneOf,
    parts_has]
  constructor
  · rintro ⟨stem, ⟨hne, hstem⟩, _, ⟨kind, hkind, rfl⟩, rfl⟩
    refine ⟨fun c hc => ?_, stem, kind, hne, hkind, rfl⟩
    rcases List.mem_append.mp hc with hc | hc
    · exact hstem c hc
    · exact isCharacter_of_kind hkind c hc
  · rintro ⟨hbase, stem, kind, hne, hkind, rfl⟩
    exact ⟨stem, ⟨hne, fun c hc => hbase c (List.mem_append_left _ hc)⟩, _, ⟨kind, hkind, rfl⟩, rfl⟩

theorem mem_language_iff {unit : String} :
    unit.toList ∈ expression.language ↔ InGrammar unit := by
  have hat : "@".toList = ['@'] := rfl
  simp only [expression, Expression.mem_append, Expression.mem_optional, Expression.mem_plus,
    Expression.mem_word, mem_baseExpression_iff, parts_has, hat]
  constructor
  · rintro ⟨_, rfl | ⟨front, ⟨hne, hfront⟩, _, rfl, rfl⟩, base, hbase, hunit⟩
    · exact ⟨base, hbase, .inl hunit.symm⟩
    · exact ⟨base, hbase, .inr ⟨front, hne, hfront, by rw [← hunit]; simp⟩⟩
  · rintro ⟨base, hbase, hunit | ⟨front, hne, hfront, hunit⟩⟩
    · exact ⟨[], .inl rfl, base, hbase, hunit.symm⟩
    · exact ⟨_, .inr ⟨front, ⟨hne, hfront⟩, _, rfl, rfl⟩, base, hbase, by rw [hunit]; simp⟩

/-- A unit name of the grammar and its base. -/
def HasBase (unit : String) (base : List Char) : Prop :=
  BaseInGrammar base ∧ (unit.toList = base ∨
    ∃ front, front ≠ [] ∧ (∀ c ∈ front, IsCharacter c) ∧ unit.toList = front ++ '@' :: base)

namespace HasBase

variable {unit : String} {base : List Char}

theorem suffix_eq (h : HasBase unit base) : suffix unit = .ofList base :=
  suffix_of_base h.1 (h.2.imp_right fun ⟨front, _, _, hunit⟩ => ⟨front, hunit⟩)

theorem count_at_le (h : HasBase unit base) : unit.toList.count '@' ≤ 1 := by
  obtain ⟨hbase, hunit⟩ := h
  have hfree := List.count_eq_zero.mpr (at_notMem hbase.characters)
  rcases hunit with hunit | ⟨front, -, hfront, hunit⟩
  · rw [hunit, hfree]
    exact Nat.zero_le 1
  · have hfront := List.count_eq_zero.mpr (at_notMem hfront)
    rw [hunit, List.count_append, List.count_cons_self, hfree, hfront]

theorem toNat_lt (h : HasBase unit base) : ∀ c ∈ unit.toList, c.toNat < 128 := by
  obtain ⟨hbase, hunit⟩ := h
  have hcharacters : ∀ c ∈ base, c.toNat < 128 := fun c hc => (hbase.characters c hc).toNat_lt
  rcases hunit with hunit | ⟨front, -, hfront, hunit⟩
  · rwa [hunit]
  · rw [hunit, List.forall_mem_append, List.forall_mem_cons]
    exact ⟨fun c hc => (hfront c hc).toNat_lt, by decide, hcharacters⟩

/-- A name of the grammar has as many bytes as characters. -/
theorem utf8ByteSize_eq (h : HasBase unit base) : unit.utf8ByteSize = unit.length := by
  have hsize := Text.utf8ByteSize_ofList h.toNat_lt
  rwa [String.ofList_toList, String.length_toList] at hsize

end HasBase

end UnitName

/-- What is recognised as a name or as a unit name is what the expression of its grammar matches
from the first character to the last, and these are the texts of the grammar.  A unit name has at
most one `@` and as many bytes as characters, and its suffix is its base. -/
theorem valid_iff_mem_language (text : String) :
    (Name.grammar = Name.expression.anchored ∧
      (Name.valid text = true ↔ text.toList ∈ Name.expression.language) ∧
      (Name.valid text = true ↔ Name.InGrammar text)) ∧
    (UnitName.grammar = UnitName.expression.anchored ∧
      (UnitName.valid text = true ↔ text.toList ∈ UnitName.expression.language) ∧
      (UnitName.valid text = true ↔ ∃ base, UnitName.HasBase text base)) ∧
    ∀ base, UnitName.HasBase text base →
      text.toList.count '@' ≤ 1 ∧ UnitName.suffix text = .ofList base ∧
        text.utf8ByteSize = text.length := by
  refine ⟨⟨by decide +kernel, ?_, Name.valid_iff_inGrammar⟩,
    ⟨by decide +kernel, ?_, UnitName.valid_iff_inGrammar⟩, fun base hbase => ?_⟩
  · rw [Name.valid_iff_inGrammar, Name.mem_language_iff]
  · rw [UnitName.valid_iff_inGrammar, UnitName.mem_language_iff]
  · exact ⟨hbase.count_at_le, hbase.suffix_eq, hbase.utf8ByteSize_eq⟩

/-- Every letter of a suffix and its point are in the class before it, so that the expression can be
tried in many ways. -/
theorem nested_recognised : UnitName.valid "sys-fs:a_b.d@dev.mount.automount" = true ∧
    "sys-fs:a_b.d@dev.mount.automount".toList ∈ UnitName.expression.language ∧
    ∃ base, UnitName.HasBase "sys-fs:a_b.d@dev.mount.automount" base ∧
      UnitName.suffix "sys-fs:a_b.d@dev.mount.automount" = .ofList base := by
  have hvalid : UnitName.valid "sys-fs:a_b.d@dev.mount.automount" = true := by decide +kernel
  obtain ⟨-, ⟨-, hlanguage, hgrammar⟩, hbases⟩ :=
    valid_iff_mem_language "sys-fs:a_b.d@dev.mount.automount"
  obtain ⟨base, hbase⟩ := hgrammar.mp hvalid
  obtain ⟨-, hsuffix, -⟩ := hbases base hbase
  exact ⟨hvalid, hlanguage.mp hvalid, base, hbase, hsuffix⟩

end Provision
