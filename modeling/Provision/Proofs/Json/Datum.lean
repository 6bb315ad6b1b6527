import Provision.Proofs.Json.Reading

namespace Provision.Json

/-!
# JSON texts of any shape

A datum is a JSON value with numbers of any size and form, which are kept as they are written.  Its
strings and keys need not be texts: half of a pair may stand by itself in them.  `Datum.Spells` is
the grammar of JSON texts; the first byte of a text tells what kind of datum follows, and no byte
that may stand behind a datum goes on with it.
-/

inductive Whole : List Char → Prop
  | zero : Whole ['0']
  | digits {c : Char} {ds : List Char} (hc : c ≠ '0') (h : ∀ d ∈ c :: ds, d.isDigit = true) :
      Whole (c :: ds)

inductive Fraction : List Char → Prop
  | absent : Fraction []
  | digits {ds : List Char} (hne : ds ≠ []) (h : ∀ d ∈ ds, d.isDigit = true) : Fraction ('.' :: ds)

inductive Exponent : List Char → Prop
  | absent : Exponent []
  | digits {letter : Char} {sign ds : List Char} (hletter : letter = 'e' ∨ letter = 'E')
      (hsign : sign = [] ∨ sign = ['+'] ∨ sign = ['-']) (hne : ds ≠ [])
      (h : ∀ d ∈ ds, d.isDigit = true) : Exponent (letter :: (sign ++ ds))

/-- The inside of a string, with code units of any kind. -/
inductive Loose : List Char → Prop
  | nil : Loose []
  | char {c : Char} {cs more : List Char} (hc : SpellsChar c cs) (h : Loose more) :
      Loose (cs ++ more)
  | unit {n : Nat} {ds more : List Char} (hu : CodeUnit n ds) (h : Loose more) :
      Loose ('\\' :: 'u' :: (ds ++ more))

def IsTrailing (n : Nat) : Prop := 0xDC00 ≤ n ∧ n ≤ 0xDFFF

/-- The inside of a string in which half of a pair stands by itself. -/
inductive Torn : List Char → Prop
  | char {c : Char} {cs more : List Char} (hc : SpellsChar c cs) (h : Torn more) : Torn (cs ++ more)
  | trailing {n : Nat} {ds more : List Char} (hn : IsTrailing n) (hu : CodeUnit n ds)
      (h : Loose more) : Torn ('\\' :: 'u' :: (ds ++ more))
  | leading {n : Nat} {ds more : List Char} (hn : 0xD800 ≤ n ∧ n ≤ 0xDBFF) (hu : CodeUnit n ds)
      (h : Loose more) (hsingle : ∀ k es rest, IsTrailing k → CodeUnit k es →
        more ≠ '\\' :: 'u' :: (es ++ rest)) : Torn ('\\' :: 'u' :: (ds ++ more))

/-- What stands between quotes: a text, unless it is torn. -/
inductive Quoted where
  | text (s : String)
  | torn
  deriving DecidableEq

namespace Quoted

instance : Coe String Quoted := ⟨text⟩

def text? : Quoted → Option String
  | text s => some s
  | torn => none

inductive Spells : Quoted → List Char → Prop
  | text {s : String} {cs : List Char} (h : SpellsText s cs) : Spells (.text s) cs
  | torn {body : List Char} (h : Torn body) : Spells .torn ('"' :: (body ++ ['"']))

end Quoted

inductive Datum where
  | null
  | bool (b : Bool)
  | number (minus : Bool) (whole fraction exponent : List Char)
  | text (q : Quoted)
  | list (items : List Datum)
  | object (members : List (Quoted × Datum))

namespace Datum

mutual

inductive Spells : Datum → List Char → Prop
  | null : Spells .null ['n', 'u', 'l', 'l']
  | isTrue : Spells (.bool true) ['t', 'r', 'u', 'e']
  | isFalse : Spells (.bool false) ['f', 'a', 'l', 's', 'e']
  | number {whole fraction exponent : List Char} (minus : Bool) (hw : Whole whole)
      (hf : Fraction fraction) (he : Exponent exponent) :
      Spells (.number minus whole fraction exponent)
        ((if minus then ['-'] else []) ++ (whole ++ (fraction ++ exponent)))
  | text {q : Quoted} {cs : List Char} (h : q.Spells cs) : Spells (.text q) cs
  | list {items : List Datum} {cs : List Char} (h : ItemsSpell true items cs) :
      Spells (.list items) ('[' :: (cs ++ [']']))
  | object {members : List (Quoted × Datum)} {cs : List Char} (h : MembersSpell true members cs) :
      Spells (.object members) ('\x7b' :: (cs ++ ['\x7d']))

inductive ItemsSpell : Bool → List Datum → List Char → Prop
  | nil {first : Bool} {blank : List Char} (h : Blank blank) : ItemsSpell first [] blank
  | cons {first : Bool} {v : Datum} {items : List Datum} {sep cs more : List Char}
      (hsep : Separates first sep) (hv : Spells v cs) (hi : ItemsSpell false items more) :
      ItemsSpell first (v :: items) (sep ++ (cs ++ more))

inductive MembersSpell : Bool → List (Quoted × Datum) → List Char → Prop
  | nil {first : Bool} {blank : List Char} (h : Blank blank) : MembersSpell first [] blank
  | cons {first : Bool} {k : Quoted} {v : Datum} {members : List (Quoted × Datum)}
      {sep ks before behind cs more : List Char} (hsep : Separates first sep)
      (hk : k.Spells ks) (hb : Blank before) (hb' : Blank behind) (hv : Spells v cs)
      (hm : MembersSpell false members more) :
      MembersSpell first ((k, v) :: members)
        (sep ++ (ks ++ (before ++ ':' :: (behind ++ (cs ++ more)))))

end

/-- A member without white space in it. -/
theorem MembersSpell.plain {first : Bool} {v : Datum} {members : List (Quoted × Datum)}
    {sep cs more : List Char} (hsep : Separates first sep) (k : String) (hv : Spells v cs)
    (hm : MembersSpell false members more) :
    MembersSpell first ((.text k, v) :: members) (sep ++ (renderText k ++ ':' :: (cs ++ more))) :=
  .cons hsep (.text (spellsText_renderText k)) blank_nil blank_nil hv hm

/-- The bytes with which a text of a datum may begin. -/
def Opens : Datum → UInt8 → Prop
  | null, b => b = 0x6E
  | bool true, b => b = 0x74
  | bool false, b => b = 0x66
  | number true .., b => b = 0x2D
  | number false .., b => Cursor.isDigit b = true
  | text _, b => b = 0x22
  | list _, b => b = 0x5B
  | object _, b => b = 0x7B

theorem Opens.not_space {v : Datum} {b : UInt8} (h : v.Opens b) : Cursor.isSpace b = false := by
  rcases v with _ | b | ⟨_ | _, _⟩ | _ | _ | _
  case number.false => exact not_isSpace_of_isDigit h
  case bool =>
    cases b <;>
    · cases h
      rfl
  all_goals
    cases h
    rfl

/-- No datum begins as a list ends. -/
theorem Opens.ne_close {v : Datum} {b : UInt8} (h : v.Opens b) : b ≠ 0x5D := by
  rintro rfl
  rcases v with _ | b | ⟨_ | _, _⟩ | _ | _ | _
  case bool => cases b <;> cases h
  all_goals cases h

theorem Opens.eq_text {v : Datum} (h : v.Opens 0x22) : ∃ q, v = .text q := by
  rcases v with _ | b | ⟨_ | _, _⟩ | q | _ | _
  case text => exact ⟨q, rfl⟩
  case bool => cases b <;> cases h
  all_goals cases h

theorem Opens.eq_list {v : Datum} (h : v.Opens 0x5B) : ∃ items, v = .list items := by
  rcases v with _ | b | ⟨_ | _, _⟩ | _ | items | _
  case list => exact ⟨items, rfl⟩
  case bool => cases b <;> cases h
  all_goals cases h

theorem Opens.eq_object {v : Datum} (h : v.Opens 0x7B) : ∃ members, v = .object members := by
  rcases v with _ | b | ⟨_ | _, _⟩ | _ | _ | members
  case object => exact ⟨members, rfl⟩
  case bool => cases b <;> cases h
  all_goals cases h

theorem Opens.eq_number {v : Datum} {b : UInt8} (h : v.Opens b)
    (hb : b = 0x2D ∨ Cursor.isDigit b = true) :
    ∃ whole fraction exponent, v = .number (b = 0x2D) whole fraction exponent := by
  rcases v with _ | b | ⟨_ | _, whole, fraction, exponent⟩ | _ | _ | _
  case number.false =>
    refine ⟨whole, fraction, exponent, ?_⟩
    have hminus : b ≠ 0x2D := by
      rintro rfl
      cases h
    simp [hminus]
  case number.true =>
    obtain rfl : b = 0x2D := h
    exact ⟨whole, fraction, exponent, rfl⟩
  case bool b =>
    cases b <;>
    · cases h
      simp [Cursor.isDigit] at hb
  all_goals
    cases h
    simp [Cursor.isDigit] at hb

end Datum

theorem Whole.isDigit {cs : List Char} (h : Whole cs) : ∀ c ∈ cs, c.isDigit = true := by
  cases h with
  | zero => exact List.forall_mem_singleton.mpr rfl
  | digits _ h => exact h

theorem Whole.exists_cons {cs : List Char} (h : Whole cs) :
    ∃ b more, encode cs = b :: more ∧ Cursor.isDigit b = true := by
  cases h with
  | zero => exact ⟨0x30, [], rfl, rfl⟩
  | @digits c ds _ h =>
      obtain ⟨b, hb, hdigit, -⟩ := encode_digit (h c List.mem_cons_self)
      exact ⟨b, encode ds, by rw [encode_cons, hb]; rfl, hdigit⟩

theorem SpellsChars.loose {s cs : List Char} (h : SpellsChars s cs) : Loose cs := by
  induction h with
  | nil => exact .nil
  | cons hc _ ih => exact .char hc ih

theorem Torn.loose {cs : List Char} (h : Torn cs) : Loose cs := by
  induction h with
  | char hc _ ih => exact .char hc ih
  | trailing _ hu h => exact .unit hu h
  | leading _ hu h _ => exact .unit hu h

/-- Whether or not a string is torn, its inside is made of code units. -/
theorem Quoted.Spells.exists_loose {q : Quoted} {cs : List Char} (h : q.Spells cs) :
    ∃ body, Loose body ∧ cs = '"' :: (body ++ ['"']) := by
  cases h with
  | text h =>
      obtain ⟨h⟩ := h
      exact ⟨_, h.loose, rfl⟩
  | torn h => exact ⟨_, h.loose, rfl⟩

theorem Fraction.absent_or_opens {fraction exponent : List Char} (hf : Fraction fraction)
    (he : Exponent exponent) :
    fraction = [] ∧ exponent = [] ∨ ∃ c more, encode (fraction ++ exponent) = c :: more ∧
      (c = 0x2E ∨ c = 0x65 ∨ c = 0x45) := by
  cases hf with
  | absent =>
      cases he with
      | absent => exact .inl ⟨rfl, rfl⟩
      | digits hletter _ _ _ =>
          rcases hletter with rfl | rfl <;> exact .inr ⟨_, _, rfl, by decide⟩
  | digits _ _ => exact .inr ⟨_, _, rfl, by decide⟩

namespace Datum

/-- The first byte of a datum tells what kind of datum it is. -/
theorem Spells.exists_cons {v : Datum} {cs : List Char} (h : v.Spells cs) :
    ∃ b more, encode cs = b :: more ∧ v.Opens b := by
  cases h with
  | @number whole fraction exponent minus hw hf he =>
      cases minus with
      | true => exact ⟨_, _, rfl, rfl⟩
      | false =>
          obtain ⟨b, more, hbytes, hb⟩ := hw.exists_cons
          exact ⟨b, more ++ (encode fraction ++ encode exponent), by simp [hbytes], hb⟩
  | text h =>
      obtain ⟨body, -, rfl⟩ := h.exists_loose
      exact ⟨_, _, rfl, rfl⟩
  | _ => exact ⟨_, _, rfl, rfl⟩

theorem ItemsSpell.delimits {items : List Datum} {cs : List Char} (h : ItemsSpell false items cs)
    (rest : List UInt8) : Delimits (encode cs ++ 0x5D :: rest) := by
  cases h with
  | nil h => exact h.delimits (by decide) rest
  | cons hsep hv hi =>
      rw [encode_append, List.append_assoc]
      exact hsep.delimits _

theorem MembersSpell.delimits {members : List (Quoted × Datum)} {cs : List Char}
    (h : MembersSpell false members cs) (rest : List UInt8) :
    Delimits (encode cs ++ 0x7D :: rest) := by
  cases h with
  | nil h => exact h.delimits (by decide) rest
  | cons hsep hk hb hb' hv hm =>
      rw [encode_append, List.append_assoc]
      exact hsep.delimits _

end Datum

end Provision.Json
