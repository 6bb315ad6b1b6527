import Provision.Proofs.Json.Decoding
import Provision.Proofs.Json.Grammar

namespace Provision.Json

/-!
# Reading JSON texts

`Json.parse` reads any JSON text, with the decoders that also read requests.  It gives the value
back that the text spells, provided that its numbers fit in 64 bits.
-/

def encode (cs : List Char) : List UInt8 := cs.flatMap String.utf8EncodeChar

@[simp] theorem encode_nil : encode [] = [] := rfl

@[simp] theorem encode_cons (c : Char) (cs : List Char) :
    encode (c :: cs) = String.utf8EncodeChar c ++ encode cs := rfl

@[simp] theorem encode_append (cs ds : List Char) : encode (cs ++ ds) = encode cs ++ encode ds :=
  List.flatMap_append

theorem utf8_ofList (cs : List Char) : Text.utf8 (String.ofList cs) = encode cs := by
  simp [Text.utf8, encode, List.utf8Encode]

theorem utf8EncodeChar_of_ascii {c : Char} (h : c.toNat < 128) :
    String.utf8EncodeChar c = [UInt8.ofNat c.toNat] := by
  have hsize : c.utf8Size = 1 := by
    rw [Char.utf8Size_eq_one_iff, UInt32.le_iff_toNat_le]
    exact Nat.le_of_lt_succ h
  rw [String.utf8EncodeChar_eq_singleton hsize]
  rfl

namespace Decoder

def memberOf (value : Decoder Json) (key : String) (before : List (String × Json)) :
    Decoder (List (String × Json)) := do
  return before ++ [(key, ← memberValue value)]

def valueUpTo : Nat → Decoder Json
  | 0 => failNext .expectedValue
  | fuel + 1 => do
    match ← peekValue with
    | none => failNext .endInValue
    | some 0x6E =>
      word [0x6E, 0x75, 0x6C, 0x6C]
      return .null
    | some 0x74 =>
      word [0x74, 0x72, 0x75, 0x65]
      return .bool true
    | some 0x66 =>
      word [0x66, 0x61, 0x6C, 0x73, 0x65]
      return .bool false
    | some 0x22 =>
      advance
      return .text (← text)
    | some 0x5B => return .list (← list (valueUpTo fuel))
    | some 0x7B => return .object (← dictionary (memberOf (valueUpTo fuel)) [])
    | some b =>
      if Cursor.isDigit b then
        match ← number true with
        | .natural n => return .natural n
        | other => fail (.wrongType other.found "a natural number")
      else unexpected "a natural number"

end Decoder

def parse (text : String) : Except Failure Json :=
  let bytes := Text.utf8 text
  Decoder.document (Decoder.valueUpTo (bytes.length + 1)) bytes

/-! ## Strings -/

theorem hexValue?_of_ascii : ∀ n < 128,
    hexValue? (UInt8.ofNat n) = hexDigit? (Char.ofNat n) := by
  decide

theorem lt_of_hexDigit? {c : Char} {v : Nat} (h : hexDigit? c = some v) : c.toNat < 128 := by
  have hle : ∀ d : Char, c ≤ d → c.toNat ≤ d.toNat := fun d hd => hd
  unfold hexDigit? at h
  split at h
  · rename_i hc
    exact Nat.lt_of_le_of_lt (hle '9' hc.2) (by decide)
  split at h
  · rename_i hc
    exact Nat.lt_of_le_of_lt (hle 'f' hc.2) (by decide)
  split at h
  · rename_i hc
    exact Nat.lt_of_le_of_lt (hle 'F' hc.2) (by decide)
  · cases h

theorem encode_hexDigit {c : Char} {v : Nat} (h : hexDigit? c = some v) :
    ∃ b, String.utf8EncodeChar c = [b] ∧ hexValue? b = some v := by
  have hc : c.toNat < 128 := lt_of_hexDigit? h
  refine ⟨UInt8.ofNat c.toNat, utf8EncodeChar_of_ascii hc, ?_⟩
  rw [hexValue?_of_ascii c.toNat hc, Char.ofNat_toNat, h]

namespace Decoder

/-- Four digits make up a code unit; `hs` says what comes of it with the last one. -/
theorem scans_codeUnit {n : Nat} {ds : List Char} (h : CodeUnit n ds) {leading : Option Nat}
    {out : List UInt8} {e' : Escape}
    (hs : ∀ b x, hexValue? b = some x → ∀ y, y * 16 + x = n →
      (Escape.hex leading 3 y true).step b = .ok (out, e')) :
    Scans (.hex leading 0 0 true) (encode ds) out e' := by
  obtain ⟨ha, hb, hc, hd⟩ := h
  obtain ⟨a, hea, hva⟩ := encode_hexDigit ha
  obtain ⟨b, heb, hvb⟩ := encode_hexDigit hb
  obtain ⟨c, hec, hvc⟩ := encode_hexDigit hc
  obtain ⟨d, hed, hvd⟩ := encode_hexDigit hd
  simp only [encode_cons, encode_nil, hea, heb, hec, hed]
  exact scans_hex hva hvb hvc (hs d _ hvd _ rfl)

theorem le_of_mem_utf8EncodeChar {c : Char} (h : 128 ≤ c.toNat) :
    ∀ b ∈ String.utf8EncodeChar c, 0x80 ≤ b := by
  have hv : ¬ c.val.toNat ≤ 127 := Nat.not_le.mpr h
  intro b hb
  simp only [String.utf8EncodeChar, hv, if_false] at hb
  rw [UInt8.le_iff_toNat_le]
  split at hb
  · simp only [List.mem_cons, List.not_mem_nil, or_false] at hb
    rcases hb with rfl | rfl <;> simp <;> omega
  split at hb
  · simp only [List.mem_cons, List.not_mem_nil, or_false] at hb
    rcases hb with rfl | rfl | rfl <;> simp <;> omega
  · simp only [List.mem_cons, List.not_mem_nil, or_false] at hb
    rcases hb with rfl | rfl | rfl | rfl <;> simp <;> omega

theorem plain_bytes {c : Char} (hq : c ≠ '"') (hb : c ≠ '\\') (hc : 32 ≤ c.toNat) :
    ∀ b ∈ String.utf8EncodeChar c, b ≠ 0x22 ∧ b ≠ 0x5C ∧ 0x20 ≤ b := by
  intro b hmem
  by_cases hascii : c.toNat < 128
  · have hcode : ∀ n < 128, n ≠ 0x22 ∧ n ≠ 0x5C ∧ 32 ≤ n →
        UInt8.ofNat n ≠ 0x22 ∧ UInt8.ofNat n ≠ 0x5C ∧ 0x20 ≤ UInt8.ofNat n := by
      decide
    rw [utf8EncodeChar_of_ascii hascii, List.mem_singleton] at hmem
    subst hmem
    exact hcode c.toNat hascii
      ⟨fun h => hq (Char.toNat_inj.mp h), fun h => hb (Char.toNat_inj.mp h), hc⟩
  · have hle : 0x80 ≤ b := le_of_mem_utf8EncodeChar (Nat.le_of_not_lt hascii) b hmem
    refine ⟨?_, ?_, UInt8.le_trans (by decide) hle⟩
    · rintro rfl
      exact absurd hle (by decide)
    · rintro rfl
      exact absurd hle (by decide)

theorem scans_plainBytes {bytes : List UInt8}
    (h : ∀ b ∈ bytes, b ≠ 0x22 ∧ b ≠ 0x5C ∧ 0x20 ≤ b) :
    Scans .outside bytes bytes .outside := by
  induction bytes with
  | nil => exact scans_nil .outside
  | cons b bytes ih =>
      obtain ⟨⟨hq, hb, hc⟩, hrest⟩ := List.forall_mem_cons.mp h
      exact (scans_plain hq hb hc).append (ih hrest)

theorem scans_short {l c : Char} (h : shortEscape? l = some c) :
    Scans .outside (encode ['\\', l]) (String.utf8EncodeChar c) .outside := by
  have hletter : ∀ b d : UInt8, b ≠ 0x75 → escaped? b = some d →
      Scans .outside [0x5C, b] [d] .outside := by
    intro b d hb hd
    exact scans_backslash.append (scans_of_step (by simp) (by simp [Escape.step, hb, hd]))
  unfold shortEscape? at h
  split at h
  case h_9 => cases h
  all_goals
    obtain rfl := Option.some.inj h
    exact hletter _ _ (by decide) rfl

theorem scans_unit {n : Nat} {ds : List Char} (h : CodeUnit n ds) {out : List UInt8} {e' : Escape}
    (hs : ∀ b x, hexValue? b = some x → ∀ y, y * 16 + x = n →
      (Escape.hex none 3 y true).step b = .ok (out, e')) :
    Scans .outside (encode ('\\' :: 'u' :: ds)) out e' := by
  have hu : Scans .opened [0x75] [] (.hex none 0 0 true) := scans_of_step (by simp) rfl
  exact (scans_backslash.append hu).append (scans_codeUnit h hs)

/-- However a character is spelled, the scan completes its bytes. -/
theorem scans_char {c : Char} {cs : List Char} (h : SpellsChar c cs) :
    Scans .outside (encode cs) (String.utf8EncodeChar c) .outside := by
  cases h with
  | plain hq hb hc =>
      have h := scans_plainBytes (plain_bytes hq hb hc)
      simpa using h
  | short h => exact scans_short h
  | unit h =>
      refine scans_unit h ?_
      intro b x hb y hy
      -- no character lies among the halves of pairs
      have hchar : ¬ (0xDC00 ≤ c.toNat ∧ c.toNat ≤ 0xDFFF) ∧
          ¬ (0xD800 ≤ c.toNat ∧ c.toNat ≤ 0xDBFF) := by
        have hvalid : c.toNat < 0xD800 ∨ (0xDFFF < c.toNat ∧ c.toNat < 0x110000) := c.valid
        omega
      simp [Escape.step, hb, hy, hchar.1, hchar.2, codePoint]
  | pair hh hl hhigh hlow hc =>
      rename_i high low ds es
      have hfirst : Scans .outside (encode ('\\' :: 'u' :: ds)) [] (.paired high) := by
        refine scans_unit hh ?_
        intro b x hb y hy
        have hlow : ¬ (0xDC00 ≤ high ∧ high ≤ 0xDFFF) := by omega
        simp [Escape.step, hb, hy, hlow, hhigh]
      have hbackslash : Scans (.paired high) [0x5C] [] (.pairedOpened high) :=
        scans_of_step (by simp) rfl
      have hu : Scans (.pairedOpened high) [0x75] [] (.hex (some high) 0 0 true) :=
        scans_of_step (by simp) rfl
      have hsecond : Scans (.hex (some high) 0 0 true) (encode es) (String.utf8EncodeChar c)
          .outside := by
        refine scans_codeUnit hl ?_
        intro b x hb y hy
        simp [Escape.step, hb, hy, hlow, codePoint, ← hc]
      rw [← List.cons_append, ← List.cons_append, encode_append]
      exact hfirst.append ((hbackslash.append hu).append hsecond)

theorem scans_chars {s cs : List Char} (h : SpellsChars s cs) :
    Scans .outside (encode cs) (encode s) .outside := by
  induction h with
  | nil => exact scans_nil .outside
  | cons hc _ ih =>
      rw [encode_append, encode_cons]
      exact (scans_char hc).append ih

/-- However a text is spelled, it is read. -/
theorem takes_text {s : String} {cs : List Char} (h : SpellsText s cs) (rest : List UInt8) :
    ∃ bytes, encode cs = 0x22 :: bytes ∧ text.Takes bytes s rest := by
  obtain ⟨h⟩ := h
  rename_i body
  have hutf8 : Text.ofUtf8? (encode s.toList) = some s := by
    rw [← utf8_ofList, Text.ofUtf8?_utf8, String.ofList_toList]
  refine ⟨encode body ++ [0x22], ?_, (scans_chars h).takes hutf8⟩
  rw [encode_cons, encode_append]
  rfl

end Decoder

/-! ## Numbers -/

theorem eq_zero_of_head?_toDigits {n : Nat} (h : (Nat.toDigits 10 n).head? = some '0') :
    n = 0 := by
  induction n using Nat.strongRecOn with
  | ind n ih =>
      by_cases hn : n < 10
      · have hdigit : ∀ m < 10, m.digitChar = '0' → m = 0 := by decide
        rw [Nat.toDigits_of_lt_base hn] at h
        exact hdigit n hn (Option.some.inj h)
      · rw [Nat.toDigits_of_base_le (by decide) (Nat.le_of_not_lt hn),
          List.head?_append_of_ne_nil _ Nat.toDigits_ne_nil] at h
        have hzero : n / 10 = 0 := ih (n / 10) (by omega) h
        omega

theorem encode_digit {c : Char} (h : c.isDigit = true) :
    ∃ b, String.utf8EncodeChar c = [b] ∧ Cursor.isDigit b = true ∧
      b.toNat - 0x30 = c.toNat - '0'.toNat ∧ (b = 0x30 → c = '0') := by
  have hc : 48 ≤ c.toNat ∧ c.toNat ≤ 57 := Char.isDigit_iff_toNat.mp h
  have hbyte : ∀ n ≤ 57, 48 ≤ n → Cursor.isDigit (UInt8.ofNat n) = true := by decide
  have hcode : (UInt8.ofNat c.toNat).toNat = c.toNat := by
    rw [UInt8.toNat_ofNat']
    omega
  refine ⟨UInt8.ofNat c.toNat, utf8EncodeChar_of_ascii (by omega), hbyte c.toNat hc.2 hc.1, ?_, ?_⟩
  · rw [hcode]
    rfl
  · intro hzero
    have hzero' : c.toNat = 48 := by rw [← hcode, hzero]; rfl
    exact Char.toNat_inj.mp hzero'

/-- Digits stand for the same number as characters and as bytes. -/
theorem encode_digits {ds : List Char} (h : ∀ c ∈ ds, c.isDigit = true) (s : Nat) :
    (∀ b ∈ encode ds, Cursor.isDigit b = true) ∧
      Decoder.ofDigits s ((encode ds).map fun b => b.toNat - 0x30) = Nat.ofDigitChars 10 ds s := by
  induction ds generalizing s with
  | nil => exact ⟨fun _ hb => absurd hb List.not_mem_nil, rfl⟩
  | cons c ds ih =>
      obtain ⟨hc, hds⟩ := List.forall_mem_cons.mp h
      obtain ⟨b, hb, hdigit, hvalue, -⟩ := encode_digit hc
      obtain ⟨hdigits, hrest⟩ := ih hds (s * 10 + (b.toNat - 0x30))
      rw [encode_cons, hb]
      refine ⟨List.forall_mem_cons.mpr ⟨hdigit, hdigits⟩, ?_⟩
      rw [Nat.ofDigitChars_cons, ← hvalue, Nat.mul_comm 10 s]
      exact hrest

theorem not_isSpace_of_isDigit {b : UInt8} (h : Cursor.isDigit b = true) :
    Cursor.isSpace b = false := by
  by_contra hs
  simp only [Cursor.isSpace, Bool.or_eq_true, decide_eq_true_eq, Bool.not_eq_false] at hs
  rcases hs with ((rfl | rfl) | rfl) | rfl <;> exact absurd h (by decide)

theorem exists_cons_toDigits (n : Nat) :
    ∃ b more, encode (Nat.toDigits 10 n) = b :: more ∧ Cursor.isDigit b = true := by
  obtain ⟨c, cs, hcs⟩ := List.exists_cons_of_ne_nil (Nat.toDigits_ne_nil (n := n) (b := 10))
  have hc : c.isDigit = true :=
    Nat.isDigit_of_mem_toDigits (b := 10) (n := n) (by decide) (by decide) (by simp [hcs])
  obtain ⟨b, hb, hdigit, -⟩ := encode_digit hc
  exact ⟨b, encode cs, by rw [hcs, encode_cons, hb]; rfl, hdigit⟩

namespace Decoder

/-- The digits of a number that fits are read back. -/
theorem takes_natural {n : Nat} (hn : n < Decimal.twoTo 64) {rest : List UInt8}
    (hr : Delimits rest) :
    (number true).Takes (encode (Nat.toDigits 10 n)) (.natural n) rest := by
  have hall : ∀ c ∈ Nat.toDigits 10 n, c.isDigit = true := fun _ hc =>
    Nat.isDigit_of_mem_toDigits (by decide) (by decide) hc
  obtain ⟨hdigits, hvalue⟩ := encode_digits hall 0
  rw [Nat.ofDigitChars_toDigits (by decide) (by decide)] at hvalue
  obtain ⟨c, cs, hcs⟩ := List.exists_cons_of_ne_nil (Nat.toDigits_ne_nil (n := n) (b := 10))
  obtain ⟨b, hb, -, -, hzero⟩ := encode_digit (hall c (by simp [hcs]))
  have h := takes_number hdigits (by simp [hcs, hb]) ?_ (by rwa [hvalue]) hr
  · rwa [hvalue] at h
  · intro hhead
    rw [hcs, encode_cons, hb] at hhead
    have hn0 : n = 0 := eq_zero_of_head?_toDigits (by rw [hcs, hzero (Option.some.inj hhead)]; rfl)
    rw [hn0]
    rfl

end Decoder

/-! ## Values -/

mutual

def Fits : Json → Prop
  | null => True
  | bool _ => True
  | natural n => n < Decimal.twoTo 64
  | text _ => True
  | list items => ItemsFit items
  | object members => MembersFit members

def ItemsFit : List Json → Prop
  | [] => True
  | v :: items => Fits v ∧ ItemsFit items

def MembersFit : List (String × Json) → Prop
  | [] => True
  | (_, v) :: members => Fits v ∧ MembersFit members

end

theorem Blank.isSpace {cs : List Char} (h : Blank cs) :
    ∀ b ∈ encode cs, Cursor.isSpace b = true := by
  induction cs with
  | nil => exact fun _ hb => absurd hb List.not_mem_nil
  | cons c cs ih =>
      obtain ⟨hc, hcs⟩ := List.forall_mem_cons.mp h
      rw [encode_cons]
      intro b hb
      rcases List.mem_append.mp hb with hb | hb
      · rcases hc with rfl | rfl | rfl | rfl <;> · rw [List.mem_singleton.mp hb]; rfl
      · exact ih hcs b hb

theorem Blank.delimits {cs : List Char} (h : Blank cs) {b : UInt8}
    (hb : b = 0x2C ∨ b = 0x5D ∨ b = 0x7D) (rest : List UInt8) :
    Delimits (encode cs ++ b :: rest) := by
  rcases he : encode cs with _ | ⟨c, more⟩
  · exact .cons (.inr hb) rest
  · exact .cons (.inl (h.isSpace c (by simp [he]))) _

theorem Separates.delimits {sep : List Char} (h : Separates false sep) (rest : List UInt8) :
    Delimits (encode sep ++ rest) := by
  obtain _ | ⟨hb, hb'⟩ := h
  rw [encode_append, encode_cons, List.append_assoc]
  exact hb.delimits (by decide) _

theorem SpellsItems.delimits {items : List Json} {cs : List Char}
    (h : SpellsItems false items cs) (rest : List UInt8) :
    Delimits (encode cs ++ 0x5D :: rest) := by
  cases h with
  | nil h => exact h.delimits (by decide) rest
  | cons hsep hv hi =>
      rw [encode_append, List.append_assoc]
      exact hsep.delimits _

theorem SpellsMembers.delimits {members : List (String × Json)} {cs : List Char}
    (h : SpellsMembers false members cs) (rest : List UInt8) :
    Delimits (encode cs ++ 0x7D :: rest) := by
  cases h with
  | nil h => exact h.delimits (by decide) rest
  | cons hsep hk hb hb' hv hm =>
      rw [encode_append, List.append_assoc]
      exact hsep.delimits _

/-- No value begins with white space or with the end of a list, and none but the absent one begins
as that one does. -/
theorem Spells.exists_cons {v : Json} {cs : List Char} (h : Spells v cs) :
    ∃ b more, encode cs = b :: more ∧ Cursor.isSpace b = false ∧ b ≠ 0x5D ∧
      (v ≠ .null → b ≠ 0x6E) := by
  cases h with
  | null => exact ⟨_, _, rfl, rfl, by decide, fun hv => absurd rfl hv⟩
  | natural n =>
      obtain ⟨b, more, hbytes, hb⟩ := exists_cons_toDigits n
      have hne (c : UInt8) (hc : Cursor.isDigit c = false) : b ≠ c := by
        rintro rfl
        exact absurd hb (by rw [hc]; decide)
      exact ⟨b, more, hbytes, not_isSpace_of_isDigit hb, hne _ rfl, fun _ => hne _ rfl⟩
  | text h =>
      obtain ⟨h⟩ := h
      exact ⟨0x22, _, rfl, rfl, by decide, fun _ => by decide⟩
  | _ => exact ⟨_, _, rfl, rfl, by decide, fun _ => by decide⟩

namespace Decoder

theorem takes_hasItem {first : Bool} {sep : List Char} (h : Separates first sep) {b : UInt8}
    (hs : Cursor.isSpace b = false) (hb : b ≠ 0x5D) (rest : List UInt8) :
    (hasItem first).Takes (encode sep) true (b :: rest) := by
  cases h with
  | first h => exact takes_hasItem_first h.isSpace hs hb rest
  | later h h' =>
      rw [encode_append, encode_cons]
      exact takes_hasItem_later h.isSpace h'.isSpace hs hb rest

theorem takes_hasMember {first : Bool} {sep : List Char} (h : Separates first sep)
    (rest : List UInt8) : (hasMember first).Takes (encode sep) true (0x22 :: rest) := by
  cases h with
  | first h => exact takes_hasMember_first h.isSpace rest
  | later h h' =>
      rw [encode_append, encode_cons]
      exact takes_hasMember_later h.isSpace h'.isSpace rest

theorem encode_member {ks : List Char} {bytes : List UInt8} (hbytes : encode ks = 0x22 :: bytes)
    (sep before behind body more : List Char) :
    encode (sep ++ (ks ++ (before ++ ':' :: (behind ++ (body ++ more))))) =
      encode sep ++ (0x22 :: (bytes ++
        ((encode before ++ 0x3A :: (encode behind ++ encode body)) ++ encode more))) := by
  have hcolon : String.utf8EncodeChar ':' = [0x3A] := rfl
  simp [hbytes, hcolon]

theorem takes_value_blank {v : Json} {fuel : Nat} {blank : List Char} {bs rest : List UInt8}
    (hb : Blank blank) (h : (valueUpTo fuel).Takes bs v rest) :
    (valueUpTo fuel).Takes (encode blank ++ bs) v rest := by
  cases fuel with
  | zero => exact nomatch h ⟨1, 0⟩
  | succ fuel => exact Takes.blank hb.isSpace h

mutual

/-- By induction on how the value is spelled. The fuel has to exceed the number of bytes, and
every number has to fit. -/
theorem takes_value {v : Json} {cs : List Char} (h : Spells v cs) (hfit : v.Fits) {fuel : Nat}
    (hfuel : (encode cs).length < fuel) {rest : List UInt8} (hr : Delimits rest) :
    (valueUpTo fuel).Takes (encode cs) v rest := by
  obtain ⟨fuel, rfl⟩ := Nat.exists_eq_add_one_of_ne_zero (Nat.ne_zero_of_lt hfuel)
  match h with
  | .null =>
      refine Takes.peekValue_bind rfl ?_
      exact Takes.map (takes_word [0x6E, 0x75, 0x6C, 0x6C] rest) fun _ => Json.null
  | .isTrue =>
      refine Takes.peekValue_bind rfl ?_
      exact Takes.map (takes_word [0x74, 0x72, 0x75, 0x65] rest) fun _ => Json.bool true
  | .isFalse =>
      refine Takes.peekValue_bind rfl ?_
      exact Takes.map (takes_word [0x66, 0x61, 0x6C, 0x73, 0x65] rest) fun _ => Json.bool false
  | .natural n =>
      obtain ⟨b, more, hbytes, hb⟩ := exists_cons_toDigits n
      have hnumber := takes_natural hfit hr
      rw [hbytes] at hnumber ⊢
      refine Takes.peekValue_bind (not_isSpace_of_isDigit hb) ?_
      -- a digit begins no other value
      split
      case h_8 c hc =>
        obtain rfl := Option.some.inj hc
        rw [if_pos hb]
        exact Takes.bind_end hnumber (takes_pure (Json.natural n) rest)
      case h_1 hc => cases hc
      all_goals
        rename_i hc
        rw [Option.some.inj hc] at hb
        exact absurd hb (by decide)
  | .text h =>
      obtain ⟨bytes, hbytes, htext⟩ := takes_text h rest
      rw [hbytes]
      refine Takes.peekValue_bind rfl (Takes.advance_bind 0x22 ?_)
      exact Takes.map htext Json.text
  | .list h =>
      rename_i items body
      have hitems : ∀ n, (encode body).length < n →
          (itemsUpTo (valueUpTo fuel) n true).Takes (encode body) items (0x5D :: rest) := by
        intro n hn
        refine takes_values h hfit hn ?_ rest
        have hopen : (String.utf8EncodeChar '[').length = 1 := rfl
        rw [encode_cons, encode_append, List.length_append, List.length_append] at hfuel
        omega
      rw [encode_cons, encode_append]
      refine Takes.peekValue_bind rfl ?_
      exact Takes.map (takes_list hitems) Json.list
  | .object h =>
      rename_i members body
      have hmembers : ∀ n, (encode body).length < n →
          (membersUpTo (memberOf (valueUpTo fuel)) n true []).Takes (encode body) ([] ++ members)
            (0x7D :: rest) := by
        intro n hn
        refine takes_members h hfit hn ?_ [] rest
        have hopen : (String.utf8EncodeChar '\x7b').length = 1 := rfl
        rw [encode_cons, encode_append, List.length_append, List.length_append] at hfuel
        omega
      rw [encode_cons, encode_append]
      refine Takes.peekValue_bind rfl ?_
      exact Takes.map (takes_dictionary hmembers) Json.object

theorem takes_values {first : Bool} {items : List Json} {cs : List Char}
    (h : SpellsItems first items cs) (hfit : ItemsFit items) {n fuel : Nat}
    (hn : (encode cs).length < n) (hfuel : (encode cs).length < fuel) (rest : List UInt8) :
    (itemsUpTo (valueUpTo fuel) n first).Takes (encode cs) items (0x5D :: rest) := by
  obtain ⟨n, rfl⟩ := Nat.exists_eq_add_one_of_ne_zero (Nat.ne_zero_of_lt hn)
  match h with
  | .nil h => exact takes_itemsUpTo_nil (takes_hasItem_end first h.isSpace rest)
  | .cons hsep hv hi =>
      rename_i v items sep body more
      obtain ⟨b, bs, hbs, hs, hb, -⟩ := hv.exists_cons
      simp only [encode_append, hbs, List.length_append, List.length_cons] at hn hfuel
      rw [encode_append, encode_append]
      have hbody : (encode body).length < fuel := by
        rw [hbs, List.length_cons]
        omega
      have hmore : (encode more).length < n ∧ (encode more).length < fuel := by omega
      have hhas := takes_hasItem hsep hs hb (bs ++ (encode more ++ 0x5D :: rest))
      have hvalue := takes_value hv hfit.1 hbody (hi.delimits rest)
      have hrest := takes_values hi hfit.2 hmore.1 hmore.2 rest
      refine takes_itemsUpTo_cons ?_ hvalue hrest
      rw [hbs]
      exact hhas

theorem takes_members {first : Bool} {members : List (String × Json)} {cs : List Char}
    (h : SpellsMembers first members cs) (hfit : MembersFit members) {n fuel : Nat}
    (hn : (encode cs).length < n) (hfuel : (encode cs).length < fuel)
    (before : List (String × Json)) (rest : List UInt8) :
    (membersUpTo (memberOf (valueUpTo fuel)) n first before).Takes (encode cs) (before ++ members)
      (0x7D :: rest) := by
  obtain ⟨n, rfl⟩ := Nat.exists_eq_add_one_of_ne_zero (Nat.ne_zero_of_lt hn)
  match h with
  | .nil h =>
      rw [List.append_nil]
      exact takes_membersUpTo_nil (takes_hasMember_end first h.isSpace rest)
  | .cons hsep hk hb hb' hv hm =>
      rename_i k v members sep ks blank blank' body more
      obtain ⟨bytes, hbytes, htext⟩ := takes_text hk
        ((encode blank ++ 0x3A :: (encode blank' ++ encode body)) ++ (encode more ++ 0x7D :: rest))
      rw [encode_member hbytes] at hn hfuel ⊢
      simp only [List.length_append, List.length_cons] at hn hfuel
      have hbody : (encode body).length < fuel := by omega
      have hmore : (encode more).length < n ∧ (encode more).length < fuel := by omega
      have hvalue := takes_value hv hfit.1 hbody (hm.delimits rest)
      have hmember := Takes.map (takes_memberValue hb.isSpace (takes_value_blank hb' hvalue))
        fun w => before ++ [(k, w)]
      have hrest := takes_members hm hfit.2 hmore.1 hmore.2 (before ++ [(k, v)]) rest
      rw [List.append_assoc] at hrest
      exact takes_membersUpTo_cons (takes_hasMember hsep _) htext hmember hrest

end

end Decoder

/-- Every JSON text is read as the value that it spells. -/
theorem parse_eq_ok {v : Json} {cs : List Char} (h : Spells v cs) (hfit : v.Fits) :
    parse (String.ofList cs) = .ok v := by
  have hend : Delimits [] := fun _ hb => absurd hb (by simp)
  have hvalue := Decoder.takes_value h hfit (Nat.lt_succ_self (encode cs).length) hend
  have hdoc := Decoder.document_eq_ok hvalue (fun _ hb => absurd hb List.not_mem_nil)
  rw [List.append_nil] at hdoc
  rw [parse, utf8_ofList]
  exact hdoc

end Provision.Json
