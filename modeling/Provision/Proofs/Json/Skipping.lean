import Provision.Proofs.Json.Datum

namespace Provision.Json

/-!
# Passing over a datum

Where a datum does not matter it is scanned with its open brackets on a list.  Whatever datum a text
spells, the scan gets behind it with the brackets that had been open before.
-/

def Skips (s : Skip) (os : List Bracket) (bytes : List UInt8) (s' : Skip) (os' : List Bracket)
    (rest : List UInt8) : Prop :=
  ∀ p, skipValue s os p (bytes ++ rest) = skipValue s' os' (reach p bytes) rest

section

variable {s s' s'' : Skip} {os os' os'' : List Bracket} {b : UInt8} {bs cs rest : List UInt8}

theorem skips_nil (s : Skip) (os : List Bracket) (rest : List UInt8) :
    Skips s os [] s os rest := fun _ => rfl

/-- Two scans in a row are one. -/
theorem Skips.append (h : Skips s os bs s' os' (cs ++ rest)) (h' : Skips s' os' cs s'' os'' rest) :
    Skips s os (bs ++ cs) s'' os'' rest := by
  intro p
  rw [List.append_assoc, h p, h' (reach p bs), reach_append]

theorem skips_step (h : s.step os b = .on s' os') (rest : List UInt8) :
    Skips s os [b] s' os' rest := by
  intro p
  simp only [List.singleton_append, skipValue, h, reach_cons, reach_nil]

theorem Skips.cons (h : s.step os b = .on s' os') (h' : Skips s' os' bs s'' os'' rest) :
    Skips s os (b :: bs) s'' os'' rest := (skips_step h (bs ++ rest)).append h'

theorem skipValue_ended_nil (p : Place) (bytes : List UInt8) :
    skipValue .ended [] p bytes = .ok () ⟨p, bytes⟩ := by
  cases bytes <;> rfl

/-- A value may end with its last byte: then it has ended. -/
theorem skips_finish (h : s.step os b = Skip.finish os') (rest : List UInt8) :
    Skips s os [b] .ended os' rest := by
  intro p
  cases os' with
  | nil =>
      have hlast : s.step os b = .last := h
      simp only [List.singleton_append, skipValue, hlast, reach_cons, reach_nil,
        skipValue_ended_nil]
  | cons x os' => exact skips_step h rest p

theorem close_cons (x : Bracket) (os : List Bracket) : Skip.close (x :: os) = Skip.finish os := by
  cases os <;> rfl

/-- A state that stays on white space passes over it. -/
theorem Skips.blank {blank : List Char} (hb : Blank blank)
    (hs : ∀ b, Cursor.isSpace b = true → s.step os b = .on s os)
    (h : Skips s os bs s' os' rest) : Skips s os (encode blank ++ bs) s' os' rest := by
  have hskip (bytes : List UInt8) (hbytes : ∀ b ∈ bytes, Cursor.isSpace b = true)
      (more : List UInt8) : Skips s os bytes s os more := by
    induction bytes with
    | nil => exact skips_nil s os more
    | cons b bytes ih =>
        obtain ⟨hspace, hrest⟩ := List.forall_mem_cons.mp hbytes
        exact .cons (hs b hspace) (ih hrest)
  exact (hskip _ hb.isSpace (bs ++ rest)).append h

/-! ## Strings -/

theorem skips_plainBytes (isKey : Bool) {bytes : List UInt8}
    (h : ∀ b ∈ bytes, b ≠ 0x22 ∧ b ≠ 0x5C ∧ 0x20 ≤ b) (rest : List UInt8) :
    Skips (.text isKey) os bytes (.text isKey) os rest := by
  induction bytes with
  | nil => exact skips_nil _ os rest
  | cons b bytes ih =>
      obtain ⟨⟨hq, hb, hc⟩, hrest⟩ := List.forall_mem_cons.mp h
      have hstep : (Skip.text isKey).step os b = .on (.text isKey) os := by
        simp [Skip.step, hq, hb, UInt8.not_lt.mpr hc]
      exact .cons hstep (ih hrest)

theorem skips_codeUnit (isKey : Bool) {n : Nat} {ds : List Char} (h : CodeUnit n ds)
    (rest : List UInt8) :
    Skips (.text isKey) os (encode ('\\' :: 'u' :: ds)) (.text isKey) os rest := by
  obtain ⟨ha, hb, hc, hd⟩ := h
  obtain ⟨a, hea, hva⟩ := encode_hexDigit ha
  obtain ⟨b, heb, hvb⟩ := encode_hexDigit hb
  obtain ⟨c, hec, hvc⟩ := encode_hexDigit hc
  obtain ⟨d, hed, hvd⟩ := encode_hexDigit hd
  have hhex (b : UInt8) (v count : Nat) (hv : hexValue? b = some v) :
      (Skip.hex isKey count true).step os b =
        if count < 3 then .on (.hex isKey (count + 1) true) os else .on (.text isKey) os := by
    simp [Skip.step, hv]
  simp only [encode_cons, encode_nil, hea, heb, hec, hed]
  exact .cons rfl (.cons rfl (.cons (hhex a _ 0 hva) (.cons (hhex b _ 1 hvb) (.cons (hhex c _ 2 hvc)
    (skips_step (hhex d _ 3 hvd) rest)))))

theorem skips_char (isKey : Bool) {c : Char} {cs : List Char} (h : SpellsChar c cs)
    (rest : List UInt8) : Skips (.text isKey) os (encode cs) (.text isKey) os rest := by
  cases h with
  | plain hq hb hc =>
      have h : Skips (.text isKey) os _ (.text isKey) os rest :=
        skips_plainBytes isKey (Decoder.plain_bytes hq hb hc) rest
      simpa using h
  | short h =>
      have hletter (l d : UInt8) (hl : l ≠ 0x75) (hd : escaped? l = some d) :
          Skips (.text isKey) os [0x5C, l] (.text isKey) os rest := by
        have hstep : (Skip.escape isKey).step os l = .on (.text isKey) os := by
          simp [Skip.step, hl, hd]
        exact .cons rfl (skips_step hstep rest)
      unfold shortEscape? at h
      split at h
      case h_9 => cases h
      all_goals exact hletter _ _ (by decide) rfl
  | unit h => exact skips_codeUnit isKey h rest
  | pair hh hl =>
      rw [← List.cons_append, ← List.cons_append, encode_append]
      exact (skips_codeUnit isKey hh _).append (skips_codeUnit isKey hl rest)

/-- The inside of any string is scanned to its end. -/
theorem skips_loose (isKey : Bool) {cs : List Char} (h : Loose cs) (rest : List UInt8) :
    Skips (.text isKey) os (encode cs) (.text isKey) os rest := by
  induction h with
  | nil => exact skips_nil _ os rest
  | char hc _ ih =>
      rw [encode_append]
      exact (skips_char isKey hc _).append ih
  | unit hu _ ih =>
      rw [← List.cons_append, ← List.cons_append, encode_append]
      exact (skips_codeUnit isKey hu _).append ih

theorem skips_key {q : Quoted} {ks : List Char} (h : q.Spells ks)
    (hs : s.step os 0x22 = .on (.text true) os) (rest : List UInt8) :
    Skips s os (encode ks) .colon os rest := by
  obtain ⟨body, hbody, rfl⟩ := h.exists_loose
  rw [encode_cons, encode_append]
  exact .cons hs ((skips_loose true hbody _).append (skips_step rfl rest))

theorem skips_text {q : Quoted} {cs : List Char} (h : q.Spells cs) (rest : List UInt8) :
    Skips .value os (encode cs) .ended os rest := by
  obtain ⟨body, hbody, rfl⟩ := h.exists_loose
  rw [encode_cons, encode_append]
  exact .cons rfl ((skips_loose false hbody _).append (skips_finish rfl rest))

/-! ## Numbers -/

theorem skips_digits {d : Digits} (hd : d = .whole ∨ d = .fraction ∨ d = .power) {ds : List Char}
    (h : ∀ c ∈ ds, c.isDigit = true) (rest : List UInt8) :
    Skips (.number d) os (encode ds) (.number d) os rest := by
  induction ds with
  | nil => exact skips_nil _ os rest
  | cons c ds ih =>
      obtain ⟨hc, hds⟩ := List.forall_mem_cons.mp h
      obtain ⟨b, hb, hdigit, -⟩ := encode_digit hc
      have hstep : (Skip.number d).step os b = .on (.number d) os := by
        rcases hd with rfl | rfl | rfl <;> simp [Skip.step, Skip.atNumber, hdigit]
      rw [encode_cons, hb]
      exact .cons hstep (ih hds)

/-- One digit at least brings a scan among digits. -/
theorem skips_first_digits {d : Digits} (hd : d = .whole ∨ d = .fraction ∨ d = .power)
    (hs : ∀ b, Cursor.isDigit b = true → s.step os b = .on (.number d) os) {ds : List Char}
    (hne : ds ≠ []) (h : ∀ c ∈ ds, c.isDigit = true) (rest : List UInt8) :
    Skips s os (encode ds) (.number d) os rest := by
  obtain ⟨c, ds, rfl⟩ := List.exists_cons_of_ne_nil hne
  obtain ⟨hc, hds⟩ := List.forall_mem_cons.mp h
  obtain ⟨b, hb, hdigit, -⟩ := encode_digit hc
  rw [encode_cons, hb]
  exact .cons (hs b hdigit) (skips_digits hd hds rest)

theorem step_value_of_isDigit (hb : Cursor.isDigit b = true) (h0 : b ≠ 0x30) :
    Skip.value.step os b = .on (.number .whole) os := by
  simp only [Skip.step, not_isSpace_of_isDigit hb, Bool.false_eq_true, if_false]
  unfold Skip.atValue
  split
  case h_9 => rw [if_pos hb]
  case h_5 => exact absurd rfl h0
  all_goals exact absurd hb (by decide)

theorem skips_whole {whole : List Char} (h : Whole whole) (minus : Bool) (os : List Bracket)
    (rest : List UInt8) :
    ∃ d, (d = .zero ∨ d = .whole) ∧
      Skips (if minus then .number .sign else .value) os (encode whole) (.number d) os rest := by
  cases h with
  | zero =>
      refine ⟨.zero, .inl rfl, skips_step ?_ rest⟩
      cases minus <;> rfl
  | @digits c ds hc h =>
      obtain ⟨hdigit, hds⟩ := List.forall_mem_cons.mp h
      obtain ⟨b, hb, hbdigit, -, hzero⟩ := encode_digit hdigit
      have h0 : b ≠ 0x30 := fun h0 => hc (hzero h0)
      refine ⟨.whole, .inr rfl, ?_⟩
      rw [encode_cons, hb]
      refine .cons ?_ (skips_digits (.inl rfl) hds rest)
      cases minus with
      | true => simp [Skip.step, Skip.atNumber, h0, hbdigit]
      | false => exact step_value_of_isDigit hbdigit h0

theorem skips_fraction {d : Digits} (hd : d = .zero ∨ d = .whole) {fraction : List Char}
    (h : Fraction fraction) (os : List Bracket) (rest : List UInt8) :
    ∃ d', (d' = .zero ∨ d' = .whole ∨ d' = .fraction) ∧
      Skips (.number d) os (encode fraction) (.number d') os rest := by
  cases h with
  | absent =>
      refine ⟨d, ?_, skips_nil _ os rest⟩
      tauto
  | digits hne h =>
      have hpoint : (Skip.number d).step os 0x2E = .on (.number .point) os := by
        rcases hd with rfl | rfl <;> rfl
      have hfirst (b : UInt8) (hb : Cursor.isDigit b = true) :
          (Skip.number .point).step os b = .on (.number .fraction) os := by
        simp [Skip.step, Skip.atNumber, hb]
      exact ⟨.fraction, .inr (.inr rfl),
        .cons hpoint (skips_first_digits (.inr (.inl rfl)) hfirst hne h rest)⟩

theorem skips_exponent {d : Digits} (hd : d = .zero ∨ d = .whole ∨ d = .fraction)
    {exponent : List Char} (h : Exponent exponent) (os : List Bracket) (rest : List UInt8) :
    ∃ d', Skip.mayEnd (.number d') = true ∧
      Skips (.number d) os (encode exponent) (.number d') os rest := by
  cases h with
  | absent =>
      refine ⟨d, ?_, skips_nil _ os rest⟩
      rcases hd with rfl | rfl | rfl <;> rfl
  | @digits letter sign ds hletter hsign hne h =>
      have hstep (b : UInt8) (hb : b = 0x65 ∨ b = 0x45) :
          (Skip.number d).step os b = .on (.number .letter) os := by
        rcases hd with rfl | rfl | rfl <;> rcases hb with rfl | rfl <;> rfl
      have hdigits (d : Digits) (hd : d = .letter ∨ d = .letterSign) :
          Skips (.number d) os (encode ds) (.number .power) os rest := by
        refine skips_first_digits (.inr (.inr rfl)) ?_ hne h rest
        intro b hb
        have hnot : b ≠ 0x2B ∧ b ≠ 0x2D := by
          constructor <;>
          · rintro rfl
            exact absurd hb (by decide)
        rcases hd with rfl | rfl <;> simp [Skip.step, Skip.atNumber, hb, hnot]
      have hsigned : Skips (.number .letter) os (encode (sign ++ ds)) (.number .power) os rest := by
        rcases hsign with rfl | rfl | rfl
        · exact hdigits .letter (.inl rfl)
        · exact .cons rfl (hdigits .letterSign (.inr rfl))
        · exact .cons rfl (hdigits .letterSign (.inr rfl))
      refine ⟨.power, rfl, ?_⟩
      rcases hletter with rfl | rfl
      · exact .cons (hstep 0x65 (.inl rfl)) hsigned
      · exact .cons (hstep 0x45 (.inr rfl)) hsigned

/-- A number ends at what may stand behind it. -/
theorem skipValue_number {d : Digits} (hd : Skip.mayEnd (.number d) = true) (os : List Bracket)
    (hr : Delimits rest) (p : Place) :
    skipValue (.number d) os p rest = skipValue .ended os p rest := by
  cases rest with
  | nil =>
      have hended : Skip.mayEnd .ended = true := rfl
      simp only [skipValue, hd, hended, Skip.atEnd, if_true]
  | cons b rest =>
      have hdigit := hr.not_digit b rfl
      have hother : b ≠ 0x2E ∧ b ≠ 0x65 ∧ b ≠ 0x45 := by
        refine ⟨?_, ?_, ?_⟩ <;>
        · rintro rfl
          rcases hr _ rfl with h | h | h | h <;> simp [Cursor.isSpace] at h
      have hstep : (Skip.number d).step os b = Skip.ended.step os b := by
        cases d <;> simp_all [Skip.step, Skip.atNumber, Skip.mayEnd]
      simp only [skipValue, hstep]

/-- A number is scanned up to what may stand behind a value. -/
theorem skips_number {whole fraction exponent : List Char} (minus : Bool) (hw : Whole whole)
    (hf : Fraction fraction) (he : Exponent exponent) (hr : Delimits rest) :
    Skips .value os (encode ((if minus then ['-'] else []) ++ (whole ++ (fraction ++ exponent))))
      .ended os rest := by
  obtain ⟨d, hd, hwhole⟩ :=
    skips_whole hw minus os (encode fraction ++ encode exponent ++ rest)
  obtain ⟨d', hd', hfraction⟩ := skips_fraction hd hf os (encode exponent ++ rest)
  obtain ⟨d'', hend, hexponent⟩ := skips_exponent hd' he os rest
  have hunsigned := hwhole.append (hfraction.append hexponent)
  have hended : Skips (if minus then .number .sign else .value) os
      (encode (whole ++ (fraction ++ exponent))) .ended os rest := by
    intro p
    rw [encode_append, encode_append, hunsigned p, skipValue_number hend os hr]
  cases minus with
  | true => exact .cons rfl hended
  | false => exact hended

/-! ## Data -/

theorem Skips.of_step_eq (h : s.step os b = s'.step os b)
    (h' : Skips s' os (b :: bs) s'' os'' rest) : Skips s os (b :: bs) s'' os'' rest := by
  intro p
  have hs' := h' p
  simp only [List.cons_append, skipValue] at hs' ⊢
  rw [h, hs']

def awaiting (first : Bool) : Skip := if first then .opened else .ended

theorem skips_blank_awaiting (first : Bool) {blank : List Char} (hb : Blank blank) {x : Bracket}
    (h : Skips (awaiting first) (x :: os) bs s' os' rest) :
    Skips (awaiting first) (x :: os) (encode blank ++ bs) s' os' rest := by
  refine .blank hb ?_ h
  intro b hb
  cases first <;> simp [awaiting, Skip.step, Skip.atEnded, hb]

theorem skips_close (first : Bool) {blank : List Char} (hb : Blank blank) (x : Bracket)
    (rest : List UInt8) :
    Skips (awaiting first) (x :: os) (encode blank ++ [x.closing]) .ended os rest := by
  refine skips_blank_awaiting first hb (skips_finish ?_ rest)
  rw [← close_cons x os]
  cases first <;> cases x <;> rfl

theorem Separates.skips_item {first : Bool} {sep : List Char} (h : Separates first sep)
    {v : Datum} (hb : v.Opens b) (h' : Skips .value (.list :: os) (b :: bs) s' os' rest) :
    Skips (awaiting first) (.list :: os) (encode sep ++ (b :: bs)) s' os' rest := by
  cases h with
  | first h =>
      refine skips_blank_awaiting true h (.of_step_eq ?_ h')
      have hclose : b ≠ Bracket.list.closing := by
        rintro rfl
        exact hb.ne_close rfl
      simp [awaiting, Skip.step, hb.not_space, hclose]
  | @later before behind h hbehind =>
      have hvalue : Skips .value (.list :: os) (encode behind ++ (b :: bs)) s' os' rest := by
        refine .blank hbehind ?_ h'
        intro b hb
        simp [Skip.step, hb]
      rw [encode_append, encode_cons, List.append_assoc]
      exact skips_blank_awaiting false h (.cons rfl hvalue)

theorem Separates.skips_key {first : Bool} {sep : List Char} (h : Separates first sep)
    {k : Quoted} {ks : List Char} (hk : k.Spells ks) (rest : List UInt8) :
    Skips (awaiting first) (.object :: os) (encode sep ++ encode ks) .colon (.object :: os)
      rest := by
  cases h with
  | first h => exact skips_blank_awaiting true h (Json.skips_key hk rfl rest)
  | @later before behind h hbehind =>
      have hkey : Skips .key (.object :: os) (encode behind ++ encode ks) .colon (.object :: os)
          rest := by
        refine .blank hbehind ?_ (Json.skips_key hk rfl rest)
        intro b hb
        simp [Skip.step, hb]
      rw [encode_append, encode_cons, List.append_assoc]
      exact skips_blank_awaiting false h (.cons rfl hkey)

theorem skips_colon {before behind : List Char} (hb : Blank before) (hb' : Blank behind)
    (h : Skips .value os bs s' os' rest) :
    Skips .colon os (encode before ++ 0x3A :: (encode behind ++ bs)) s' os' rest := by
  have hvalue : Skips .value os (encode behind ++ bs) s' os' rest := by
    refine .blank hb' ?_ h
    intro b hb
    simp [Skip.step, hb]
  refine .blank hb ?_ (.cons rfl hvalue)
  intro b hb
  simp [Skip.step, hb]

end

mutual

/-- By induction on how the datum is spelled: whatever brackets are open, the scan gets behind it.
-/
theorem skips_datum {v : Datum} {cs : List Char} (h : v.Spells cs) (os : List Bracket)
    {rest : List UInt8} (hr : Delimits rest) : Skips .value os (encode cs) .ended os rest := by
  match h with
  | .null => exact .cons rfl (.cons rfl (.cons rfl (skips_finish rfl rest)))
  | .isTrue => exact .cons rfl (.cons rfl (.cons rfl (skips_finish rfl rest)))
  | .isFalse => exact .cons rfl (.cons rfl (.cons rfl (.cons rfl (skips_finish rfl rest))))
  | .number minus hw hf he => exact skips_number minus hw hf he hr
  | .text h => exact skips_text h rest
  | .list h =>
      rw [encode_cons, encode_append]
      exact .cons rfl (skips_items h os rest)
  | .object h =>
      rw [encode_cons, encode_append]
      exact .cons rfl (skips_members h os rest)

theorem skips_items {first : Bool} {items : List Datum} {cs : List Char}
    (h : Datum.ItemsSpell first items cs) (os : List Bracket) (rest : List UInt8) :
    Skips (awaiting first) (.list :: os) (encode cs ++ [0x5D]) .ended os rest := by
  match h with
  | .nil h => exact skips_close first h .list rest
  | .cons hsep hv hi =>
      rename_i body more
      obtain ⟨b, bs, hbytes, hb⟩ := hv.exists_cons
      have hvalue := skips_datum hv (.list :: os) (hi.delimits rest)
      have hrest : Skips .ended (.list :: os) (encode more ++ [0x5D]) .ended os rest :=
        skips_items hi os rest
      have hboth : Skips .value (.list :: os) (encode body ++ (encode more ++ [0x5D])) .ended os
          rest := Skips.append (by simpa using hvalue) hrest
      rw [hbytes] at hboth
      simpa [hbytes] using hsep.skips_item hb hboth

theorem skips_members {first : Bool} {members : List (Quoted × Datum)} {cs : List Char}
    (h : Datum.MembersSpell first members cs) (os : List Bracket) (rest : List UInt8) :
    Skips (awaiting first) (.object :: os) (encode cs ++ [0x7D]) .ended os rest := by
  match h with
  | .nil h => exact skips_close first h .object rest
  | .cons hsep hk hb hb' hv hm =>
      rename_i body more
      have hvalue := skips_datum hv (.object :: os) (hm.delimits rest)
      have hrest : Skips .ended (.object :: os) (encode more ++ [0x7D]) .ended os rest :=
        skips_members hm os rest
      have hboth : Skips .value (.object :: os) (encode body ++ (encode more ++ [0x7D])) .ended os
          rest := Skips.append (by simpa using hvalue) hrest
      have hmember := (hsep.skips_key hk _).append (skips_colon hb hb' hboth)
      have hcolon : String.utf8EncodeChar ':' = [0x3A] := rfl
      simpa [hcolon] using hmember

end

/-- A value that does not matter is passed over, with white space before it. -/
theorem Decoder.takes_ignored {v : Datum} {blank cs : List Char} {rest : List UInt8}
    (hb : Blank blank) (hv : v.Spells cs) (hr : Delimits rest) :
    ignored.Takes (encode blank ++ encode cs) () rest := by
  have hskip : Skips .value [] (encode blank ++ encode cs) .ended [] rest := by
    refine .blank hb ?_ (skips_datum hv [] hr)
    intro b hb
    simp [Skip.step, hb]
  intro p
  exact (hskip p).trans (skipValue_ended_nil _ rest)

end Provision.Json
