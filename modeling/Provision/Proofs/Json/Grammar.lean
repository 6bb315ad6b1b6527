import Mathlib.Data.List.Basic
import Provision.Json.Value

namespace Provision.Json

/-!
# The grammar of JSON texts

`Spells v cs` says that the characters are a text of the value, whatever white space stands in it
and however its strings are escaped.  The text that `Json.chars` gives is one of them.
-/

def Blank (cs : List Char) : Prop := ∀ c ∈ cs, c = ' ' ∨ c = '\t' ∨ c = '\n' ∨ c = '\r'

def hexDigit? (c : Char) : Option Nat :=
  if '0' ≤ c ∧ c ≤ '9' then some (c.toNat - 48)
  else if 'a' ≤ c ∧ c ≤ 'f' then some (c.toNat - 87)
  else if 'A' ≤ c ∧ c ≤ 'F' then some (c.toNat - 55)
  else none

inductive CodeUnit : Nat → List Char → Prop
  | digits {a b c d : Char} {v w x y : Nat} (ha : hexDigit? a = some v) (hb : hexDigit? b = some w)
      (hc : hexDigit? c = some x) (hd : hexDigit? d = some y) :
      CodeUnit (((v * 16 + w) * 16 + x) * 16 + y) [a, b, c, d]

def shortEscape? : Char → Option Char
  | '"' => some '"'
  | '\\' => some '\\'
  | '/' => some '/'
  | 'b' => some '\x08'
  | 'f' => some '\x0c'
  | 'n' => some '\n'
  | 'r' => some '\r'
  | 't' => some '\t'
  | _ => none

inductive SpellsChar : Char → List Char → Prop
  | plain {c : Char} (hq : c ≠ '"') (hb : c ≠ '\\') (hc : 32 ≤ c.toNat) : SpellsChar c [c]
  | short {c l : Char} (h : shortEscape? l = some c) : SpellsChar c ['\\', l]
  | unit {c : Char} {ds : List Char} (h : CodeUnit c.toNat ds) : SpellsChar c ('\\' :: 'u' :: ds)
  /-- A character beyond the first `2 ^ 16` is written in two halves. -/
  | pair {c : Char} {high low : Nat} {ds es : List Char} (hh : CodeUnit high ds)
      (hl : CodeUnit low es) (hhigh : 0xD800 ≤ high ∧ high ≤ 0xDBFF)
      (hlow : 0xDC00 ≤ low ∧ low ≤ 0xDFFF)
      (hc : c.toNat = (high - 0xD800) * 1024 + (low - 0xDC00) + 0x10000) :
      SpellsChar c ('\\' :: 'u' :: (ds ++ '\\' :: 'u' :: es))

inductive SpellsChars : List Char → List Char → Prop
  | nil : SpellsChars [] []
  | cons {c : Char} {cs s more : List Char} (hc : SpellsChar c cs) (hs : SpellsChars s more) :
      SpellsChars (c :: s) (cs ++ more)

inductive SpellsText : String → List Char → Prop
  | quoted {s : String} {body : List Char} (h : SpellsChars s.toList body) :
      SpellsText s ('"' :: (body ++ ['"']))

/-- What stands before an item: a comma, unless it is the first. -/
inductive Separates : Bool → List Char → Prop
  | first {blank : List Char} (h : Blank blank) : Separates true blank
  | later {before behind : List Char} (hb : Blank before) (hb' : Blank behind) :
      Separates false (before ++ ',' :: behind)

mutual

inductive Spells : Json → List Char → Prop
  | null : Spells .null ['n', 'u', 'l', 'l']
  | isTrue : Spells (.bool true) ['t', 'r', 'u', 'e']
  | isFalse : Spells (.bool false) ['f', 'a', 'l', 's', 'e']
  | natural (n : Nat) : Spells (.natural n) (Nat.toDigits 10 n)
  | text {s : String} {cs : List Char} (h : SpellsText s cs) : Spells (.text s) cs
  | list {items : List Json} {cs : List Char} (h : SpellsItems true items cs) :
      Spells (.list items) ('[' :: (cs ++ [']']))
  | object {members : List (String × Json)} {cs : List Char} (h : SpellsMembers true members cs) :
      Spells (.object members) ('\x7b' :: (cs ++ ['\x7d']))

inductive SpellsItems : Bool → List Json → List Char → Prop
  | nil {first : Bool} {blank : List Char} (h : Blank blank) : SpellsItems first [] blank
  | cons {first : Bool} {v : Json} {items : List Json} {sep cs more : List Char}
      (hsep : Separates first sep) (hv : Spells v cs) (hi : SpellsItems false items more) :
      SpellsItems first (v :: items) (sep ++ (cs ++ more))

inductive SpellsMembers : Bool → List (String × Json) → List Char → Prop
  | nil {first : Bool} {blank : List Char} (h : Blank blank) : SpellsMembers first [] blank
  | cons {first : Bool} {k : String} {v : Json} {members : List (String × Json)}
      {sep ks before behind cs more : List Char} (hsep : Separates first sep)
      (hk : SpellsText k ks) (hb : Blank before) (hb' : Blank behind) (hv : Spells v cs)
      (hm : SpellsMembers false members more) :
      SpellsMembers first ((k, v) :: members)
        (sep ++ (ks ++ (before ++ ':' :: (behind ++ (cs ++ more)))))

end

theorem blank_nil : Blank [] := by
  intro c hc
  cases hc

/-! ## The text of a value spells it -/

theorem hexDigit?_hexDigit {n : Nat} (h : n < 16) : hexDigit? (hexDigit n) = some n := by
  revert n
  decide

theorem spellsChar_escapeChar (c : Char) : SpellsChar c (escapeChar c) := by
  by_cases hshort : c = '"' ∨ c = '\\' ∨ c = '\n' ∨ c = '\r' ∨ c = '\t' ∨ c = '\x08' ∨ c = '\x0c'
  · rcases hshort with rfl | rfl | rfl | rfl | rfl | rfl | rfl <;> exact .short rfl
  simp only [not_or] at hshort
  obtain ⟨hq, hb, hn, hr, ht, h8, hf⟩ := hshort
  simp only [escapeChar, hq, hb, hn, hr, ht, h8, hf, if_false]
  split
  · -- a control character is written as a code unit whose first two digits are zero
    have hzero : hexDigit? '0' = some 0 := rfl
    have hunit := CodeUnit.digits hzero hzero
      (hexDigit?_hexDigit (n := c.toNat / 16) (by omega))
      (hexDigit?_hexDigit (n := c.toNat % 16) (by omega))
    have hcode : ((0 * 16 + 0) * 16 + c.toNat / 16) * 16 + c.toNat % 16 = c.toNat := by omega
    rw [hcode] at hunit
    exact .unit hunit
  · exact .plain hq hb (by omega)

theorem spellsChars_flatMap (s : List Char) : SpellsChars s (s.flatMap escapeChar) := by
  induction s with
  | nil => exact .nil
  | cons c s ih => exact .cons (spellsChar_escapeChar c) ih

/-- How a text is rendered is one way of spelling it. -/
theorem spellsText_renderText (s : String) : SpellsText s (renderText s) :=
  .quoted (spellsChars_flatMap s.toList)

theorem Separates.comma {sep : List Char} (h : Separates true sep) :
    Separates false (',' :: sep) := by
  obtain ⟨h⟩ := h
  exact .later blank_nil h

theorem SpellsItems.comma {v : Json} {items : List Json} {cs : List Char}
    (h : SpellsItems true (v :: items) cs) : SpellsItems false (v :: items) (',' :: cs) := by
  obtain _ | ⟨hsep, hv, hi⟩ := h
  exact .cons hsep.comma hv hi

theorem SpellsMembers.comma {m : String × Json} {members : List (String × Json)} {cs : List Char}
    (h : SpellsMembers true (m :: members) cs) :
    SpellsMembers false (m :: members) (',' :: cs) := by
  obtain _ | ⟨hsep, hk, hb, hb', hv, hm⟩ := h
  exact .cons hsep.comma hk hb hb' hv hm

mutual

/-- By induction on the value: how it is rendered is one way of spelling it. -/
theorem spells_chars : ∀ v : Json, Spells v v.chars
  | .null => .null
  | .bool true => .isTrue
  | .bool false => .isFalse
  | .natural n => .natural n
  | .text s => .text (spellsText_renderText s)
  | .list items => by
      obtain ⟨cs, hcs, h⟩ := exists_spellsItems items
      rw [chars, hcs]
      exact .list h
  | .object members => by
      obtain ⟨cs, hcs, h⟩ := exists_spellsMembers members
      rw [chars, hcs]
      exact .object h

theorem exists_spellsItems : ∀ items : List Json,
    ∃ cs, itemsChars items = cs ++ [']'] ∧ SpellsItems true items cs
  | [] => ⟨[], rfl, .nil blank_nil⟩
  | [v] => by
      have h := SpellsItems.cons (.first blank_nil) (spells_chars v) (.nil blank_nil)
      exact ⟨v.chars, rfl, by simpa using h⟩
  | v :: w :: rest => by
      obtain ⟨cs, hcs, h⟩ := exists_spellsItems (w :: rest)
      refine ⟨v.chars ++ ',' :: cs, by simp [itemsChars, hcs], ?_⟩
      exact .cons (.first blank_nil) (spells_chars v) h.comma

theorem exists_spellsMembers : ∀ members : List (String × Json),
    ∃ cs, membersChars members = cs ++ ['\x7d'] ∧ SpellsMembers true members cs
  | [] => ⟨[], rfl, .nil blank_nil⟩
  | [(k, v)] => by
      have h := SpellsMembers.cons (.first blank_nil) (spellsText_renderText k) blank_nil
        blank_nil (spells_chars v) (.nil blank_nil)
      exact ⟨renderText k ++ ':' :: v.chars, by simp [membersChars], by simpa using h⟩
  | (k, v) :: m :: rest => by
      obtain ⟨cs, hcs, h⟩ := exists_spellsMembers (m :: rest)
      refine ⟨renderText k ++ ':' :: (v.chars ++ ',' :: cs), by simp [membersChars, hcs], ?_⟩
      exact .cons (.first blank_nil) (spellsText_renderText k) blank_nil blank_nil
        (spells_chars v) h.comma

end

end Provision.Json
