import Mathlib.Data.String.Basic
import Provision.Proofs.Json.Reading

namespace Provision.Text

/-!
# The order of bytes

A text comes before another one, character by character, exactly if its bytes come before the bytes
of the other.
-/

/-- Some bytes come before others, whatever stands behind each. -/
def Precedes (xs ys : List UInt8) : Prop := ∀ us vs, xs ++ us < ys ++ vs

/-- Smaller numbers are spelled by bytes that come first, up to a bound. -/
def SpellsInOrder (spell : Nat → List UInt8) (bound : Nat) : Prop :=
  ∀ v w, v < w → w < bound → Precedes (spell v) (spell w)

def lead (mark n : Nat) : List UInt8 := [UInt8.ofNat (n + mark)]

def continued (spell : Nat → List UInt8) (n : Nat) : List UInt8 :=
  spell (n / 64) ++ [UInt8.ofNat (n % 64 + 0x80)]

def spelled (n : Nat) : List UInt8 :=
  if n ≤ 0x7f then lead 0 n
  else if n ≤ 0x7ff then continued (lead 0xc0) n
  else if n ≤ 0xffff then continued (continued (lead 0xe0)) n
  else continued (continued (continued (lead 0xf0))) n

section

variable {xs ys : List UInt8} {spell : Nat → List UInt8} {n : Nat}

theorem Precedes.append_left (us : List UInt8) (h : Precedes xs ys) :
    Precedes (us ++ xs) (us ++ ys) := by
  intro us' vs'
  rw [List.append_assoc, List.append_assoc]
  apply List.append_left_lt
  exact h us' vs'

theorem Precedes.continued_left (h : Precedes (spell (n / 64)) ys) :
    Precedes (continued spell n) ys := by
  intro us vs
  rw [continued, List.append_assoc]
  exact h _ vs

theorem Precedes.continued_right (h : Precedes xs (spell (n / 64))) :
    Precedes xs (continued spell n) := by
  intro us vs
  rw [continued, List.append_assoc]
  exact h us _

/-- Leading bytes are in the order of the numbers that they are for. -/
theorem lead_precedes {mark mark' m n : Nat} (h : m + mark < n + mark') (hn : n + mark' < 256) :
    Precedes (lead mark m) (lead mark' n) := by
  intro us vs
  apply List.cons_lt_cons_iff.mpr
  left
  rw [UInt8.lt_iff_toNat_lt, UInt8.toNat_ofNat', UInt8.toNat_ofNat']
  omega

theorem lead_spellsInOrder {mark bound : Nat} (h : mark + bound ≤ 256) :
    SpellsInOrder (lead mark) bound := by
  intro v w hvw hw
  apply lead_precedes <;> omega

/-- Six more bits in a byte of their own keep the order. -/
theorem SpellsInOrder.continued {bound : Nat} (h : SpellsInOrder spell bound) :
    SpellsInOrder (continued spell) (bound * 64) := by
  intro v w hvw hw
  by_cases hhigh : v / 64 = w / 64
  · rw [Text.continued, Text.continued, hhigh]
    apply Precedes.append_left
    apply lead_precedes <;> omega
  · apply Precedes.continued_left
    apply Precedes.continued_right
    apply h <;> omega

/-- Among codes of one number of bytes the first bits decide, and the leading bytes of different
numbers of bytes are in different ranges. -/
theorem spelled_spellsInOrder : SpellsInOrder spelled 0x110000 := by
  have hone : SpellsInOrder (lead 0) 0x80 := lead_spellsInOrder (by decide)
  have htwo : SpellsInOrder (continued (lead 0xc0)) 0x800 :=
    (lead_spellsInOrder (by decide) : SpellsInOrder _ 0x20).continued
  have hthree : SpellsInOrder (continued (continued (lead 0xe0))) 0x10000 :=
    (lead_spellsInOrder (by decide) : SpellsInOrder _ 0x10).continued.continued
  have hfour : SpellsInOrder (continued (continued (continued (lead 0xf0)))) 0x400000 :=
    (lead_spellsInOrder (by decide) : SpellsInOrder _ 0x10).continued.continued.continued
  intro v w hvw hw
  simp only [spelled]
  split_ifs <;> try omega
  · exact hone v w hvw (by omega)
  · exact (lead_precedes (by omega) (by omega)).continued_right
  · exact (lead_precedes (by omega) (by omega)).continued_right.continued_right
  · exact (lead_precedes (by omega) (by omega)).continued_right.continued_right.continued_right
  · exact htwo v w hvw (by omega)
  · exact (lead_precedes (by omega) (by omega)).continued_left.continued_right.continued_right
  · have hlead : Precedes (lead 0xc0 (v / 64)) (lead 0xf0 (w / 64 / 64 / 64)) :=
      lead_precedes (by omega) (by omega)
    exact hlead.continued_left.continued_right.continued_right.continued_right
  · exact hthree v w hvw (by omega)
  · have hlead : Precedes (lead 0xe0 (v / 64 / 64)) (lead 0xf0 (w / 64 / 64 / 64)) :=
      lead_precedes (by omega) (by omega)
    exact hlead.continued_left.continued_left.continued_right.continued_right.continued_right
  · exact hfour v w hvw (by omega)

end

theorem toNat_lt (c : Char) : c.toNat < 0x110000 := by
  rcases c.valid with h | ⟨-, h⟩
  · exact Nat.lt_trans h (by decide)
  · exact h

/-- The bytes of a character by its code, with divisions in place of shifts. -/
theorem utf8EncodeChar_eq_spelled (c : Char) : String.utf8EncodeChar c = spelled c.toNat := by
  have hc : c.toNat < 0x110000 := toNat_lt c
  simp only [String.utf8EncodeChar, spelled, lead, continued, Char.toNat_val,
    Nat.div_div_eq_div_mul, Nat.reduceMul]
  split_ifs
  · rfl
  all_goals
    rw [Nat.mod_eq_of_lt (by omega)]
    rfl

theorem utf8EncodeChar_precedes {c d : Char} (h : c < d) :
    Precedes (String.utf8EncodeChar c) (String.utf8EncodeChar d) := by
  rw [utf8EncodeChar_eq_spelled, utf8EncodeChar_eq_spelled]
  exact spelled_spellsInOrder _ _ (UInt32.lt_iff_toNat_lt.mp h) (toNat_lt d)

/-- Texts in order have their bytes in order. -/
theorem encode_lt_encode {cs ds : List Char} (h : cs < ds) : Json.encode cs < Json.encode ds := by
  induction cs generalizing ds with
  | nil =>
      cases ds with
      | nil => exact absurd h (List.lt_irrefl _)
      | cons d ds =>
          obtain ⟨b, bs, hbs⟩ := List.exists_cons_of_ne_nil String.utf8EncodeChar_ne_nil
          rw [Json.encode_nil, Json.encode_cons, hbs]
          exact List.nil_lt_cons b _
  | cons c cs ih =>
      cases ds with
      | nil => exact absurd h (List.not_lt_nil _)
      | cons d ds =>
          rw [Json.encode_cons, Json.encode_cons]
          rcases List.cons_lt_cons_iff.mp h with hcd | ⟨rfl, hrest⟩
          · exact utf8EncodeChar_precedes hcd _ _
          · exact List.append_left_lt (ih hrest)

theorem utf8_lt_iff {s t : String} : utf8 s < utf8 t ↔ s < t := by
  have hbytes (s : String) : utf8 s = Json.encode s.toList := by
    rw [← Json.utf8_ofList, String.ofList_toList]
  have hmono {s t : String} (h : s < t) : utf8 s < utf8 t := by
    rw [hbytes, hbytes]
    exact encode_lt_encode (String.lt_iff_toList_lt.mp h)
  refine ⟨fun h => ?_, hmono⟩
  rcases lt_trichotomy s t with hst | rfl | hts
  · exact hst
  · exact absurd h (List.lt_irrefl _)
  · exact absurd h (List.lt_asymm (hmono hts))

end Provision.Text
