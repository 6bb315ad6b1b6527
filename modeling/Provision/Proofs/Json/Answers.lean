import Provision.Proofs.Json.Skipping

namespace Provision.Json

/-!
# Answers of decoders

A decoder decides a datum if it takes every text of the datum and gives a value, or else fails on
every text of it.  Whatever has another form than the expected one is refused; the numbers from 0 to
255 are those that are written with digits only.
-/

namespace Datum

def text? : Datum → Option String
  | text q => q.text?
  | _ => none

/-- A number from 0 to 255; a number with a sign, a point or an exponent is none of them. -/
def byte? : Datum → Option Nat
  | number false whole [] [] =>
    let n := Nat.ofDigitChars 10 whole 0
    if n < 256 then some n else none
  | _ => none

def natural (n : Nat) : Datum := number false (Nat.toDigits 10 n) [] []

theorem byte?_natural (n : Nat) : (natural n).byte? = if n < 256 then some n else none := by
  simp [natural, byte?, Nat.ofDigitChars_toDigits]

end Datum

namespace Decoder

variable {α β : Type} {bs cs rest : List UInt8}

/-- Wherever the decoder succeeds in front of the bytes, it gives such a value. -/
def Gives (d : Decoder α) (bytes : List UInt8) (P : α → Prop) : Prop :=
  ∀ p a k, d ⟨p, bytes⟩ = .ok a k → P a

def Fails (d : Decoder α) (bytes : List UInt8) : Prop := d.Gives bytes fun _ => False

section

variable {P : α → Prop} {Q : β → Prop}

theorem gives_pure {a : α} (h : P a) (bytes : List UInt8) :
    (pure a : Decoder α).Gives bytes P := by
  intro p b k hrun
  cases hrun
  exact h

theorem gives_fail (m : Mismatch) (bytes : List UInt8) : (fail m : Decoder α).Gives bytes P := by
  intro p a k hrun
  cases hrun

theorem gives_failHere (f : Fault) (bytes : List UInt8) :
    (failHere f : Decoder α).Gives bytes P := by
  intro p a k hrun
  cases hrun

theorem gives_failNext (f : Fault) (bytes : List UInt8) :
    (failNext f : Decoder α).Gives bytes P := by
  intro p a k hrun
  cases hrun

theorem Gives.bind {d : Decoder β} {f : β → Decoder α} (hd : d.Gives bs Q)
    (hf : ∀ b, Q b → ∀ bytes, (f b).Gives bytes P) : (d >>= f).Gives bs P := by
  intro p a k hrun
  simp only [Bind.bind, EStateM.bind] at hrun
  split at hrun
  · rename_i b k' hfirst
    exact hf b (hd p b k' hfirst) k'.rest k'.place a k hrun
  · cases hrun

/-- Whatever comes first, what comes behind it gives such a value. -/
theorem gives_bind (d : Decoder β) {f : β → Decoder α} (hf : ∀ b bytes, (f b).Gives bytes P)
    (bytes : List UInt8) : (d >>= f).Gives bytes P :=
  Gives.bind (Q := fun _ => True) (fun _ _ _ _ => .intro) fun b _ => hf b

theorem Takes.bind_gives {d : Decoder β} {f : β → Decoder α} {b : β} (hd : d.Takes bs b rest)
    (hf : (f b).Gives rest P) : (d >>= f).Gives (bs ++ rest) P := by
  intro p a k hrun
  simp only [Bind.bind, EStateM.bind, hd p] at hrun
  exact hf _ a k hrun

theorem gives_peek_bind {f : Option UInt8 → Decoder α} (hf : (f bs.head?).Gives bs P) :
    (peek >>= f).Gives bs P := Takes.bind_gives (takes_peek bs) hf

theorem Gives.located {d : Decoder α} (h : d.Gives bs P) : (Decoder.located d).Gives bs P := by
  intro p a k hrun
  apply h p a k
  unfold Decoder.located at hrun
  split at hrun
  · cases hrun
  · exact hrun

theorem Fails.enclosed {d : Decoder α} (h : d.Fails bs) (close : Decoder Unit) :
    (Decoder.enclosed d close).Fails bs := by
  intro p a k hrun
  unfold Decoder.enclosed at hrun
  split at hrun
  · rename_i b k' hd
    exact h p b k' hd
  · split at hrun <;> cases hrun

/-- What is inside may be read, and still not be closed. -/
theorem Takes.enclosed_fails {d : Decoder α} {close : Decoder Unit} {a : α}
    (h : d.Takes bs a rest) (hclose : close.Fails rest) :
    (Decoder.enclosed d close).Fails (bs ++ rest) := by
  intro p b k hrun
  unfold Decoder.enclosed at hrun
  simp only [h p] at hrun
  split at hrun
  · rename_i u k' hu
    exact hclose _ u k' hu
  · cases hrun

end

theorem fails_unexpected (expected : String) (bytes : List UInt8) :
    (unexpected expected : Decoder α).Fails bytes := by
  apply Gives.located
  apply gives_bind
  intro o bytes
  -- a list or an object is refused at its bracket, any other value behind what is read of it
  split
  case h_6 => exact gives_fail _ bytes
  case h_7 => exact gives_fail _ bytes
  case h_8 =>
    split
    · exact gives_bind _ (fun _ => gives_fail _) bytes
    · exact gives_failNext _ bytes
  case h_9 => exact gives_failNext _ bytes
  all_goals exact gives_bind _ (fun _ => gives_bind _ fun _ => gives_fail _) bytes

/-! ## Answers -/

/-- The decoder takes the bytes and gives the value, or it fails if there is none. -/
def Answers (d : Decoder α) (bytes rest : List UInt8) : Option α → Prop
  | some a => d.Takes bytes a rest
  | none => d.Fails (bytes ++ rest)

theorem Takes.bind_answers {d : Decoder β} {f : β → Decoder α} {b : β} {o : Option α}
    (hd : d.Takes bs b (cs ++ rest)) (hf : (f b).Answers cs rest o) :
    (d >>= f).Answers (bs ++ cs) rest o := by
  cases o with
  | some a => exact hd.bind hf
  | none =>
      have h : (d >>= f).Fails (bs ++ (cs ++ rest)) := hd.bind_gives hf
      rwa [← List.append_assoc] at h

/-- The second step answers for what the first has given. -/
theorem Answers.bind {d : Decoder β} {f : β → Decoder α} {o : Option β} {g : β → Option α}
    (hd : d.Answers bs (cs ++ rest) o) (hf : ∀ b, o = some b → (f b).Answers cs rest (g b)) :
    (d >>= f).Answers (bs ++ cs) rest (o.bind g) := by
  cases o with
  | some b => exact Takes.bind_answers hd (hf b rfl)
  | none =>
      have h : (d >>= f).Fails (bs ++ (cs ++ rest)) := Gives.bind hd fun _ => False.elim
      rwa [← List.append_assoc] at h

/-- What has been read is made into something. -/
theorem Answers.map {d : Decoder β} {o : Option β} (hd : d.Answers bs rest o) (f : β → α) :
    (do return f (← d)).Answers bs rest (o.map f) := by
  cases o with
  | some b => exact Takes.map hd f
  | none => exact Gives.bind hd fun _ => False.elim

theorem Answers.bind_end {d : Decoder β} {f : β → Decoder α} {o : Option β} {g : β → Option α}
    (hd : d.Answers bs rest o) (hf : ∀ b, o = some b → (f b).Answers [] rest (g b)) :
    (d >>= f).Answers bs rest (o.bind g) := by
  have hd' : d.Answers bs ([] ++ rest) o := hd
  have h := hd'.bind hf
  rwa [List.append_nil] at h

theorem answers_of_fails {d : Decoder α} (h : ∀ bytes, d.Fails bytes) (bs rest : List UInt8) :
    d.Answers bs rest none := h _

theorem answers_pure (a : α) (rest : List UInt8) :
    (pure a : Decoder α).Answers [] rest (some a) := takes_pure a rest

theorem Answers.located {d : Decoder α} {o : Option α} (h : d.Answers bs rest o) :
    (Decoder.located d).Answers bs rest o := by
  cases o with
  | some a => exact Takes.located h
  | none => exact Gives.located h

theorem Answers.enclosed {d : Decoder α} {close : Decoder Unit} {o : Option α}
    (h : d.Answers bs (cs ++ rest) o) (hclose : close.Takes cs () rest) :
    (Decoder.enclosed d close).Answers (bs ++ cs) rest o := by
  cases o with
  | some a => exact Takes.enclosed h hclose
  | none =>
      have h : (Decoder.enclosed d close).Fails (bs ++ (cs ++ rest)) := Fails.enclosed h close
      rwa [← List.append_assoc] at h

/-! ## Data -/

/-- Whatever text of the datum comes next, the decoder has the same answer. -/
def Decides (d : Decoder α) (v : Datum) (o : Option α) : Prop :=
  ∀ ⦃blank cs : List Char⦄ ⦃rest : List UInt8⦄, Blank blank → v.Spells cs → Delimits rest →
    d.Answers (encode blank ++ encode cs) rest o

/-- A decoder that begins with the first byte of the value. -/
theorem decides_of_peek {f : Option UInt8 → Decoder α} {v : Datum} {o : Option α}
    (h : ∀ cs b more rest, v.Spells cs → encode cs = b :: more → v.Opens b → Delimits rest →
      (f (some b)).Answers (encode cs) rest o) : (peekValue >>= f).Decides v o := by
  intro blank cs rest hb hv hr
  obtain ⟨b, more, hbytes, hopen⟩ := hv.exists_cons
  have hpeek : peekValue.Takes (encode blank) (some b) (encode cs ++ rest) := by
    rw [hbytes]
    exact Takes.peekValue_blank hb.isSpace hopen.not_space (takes_pure (some b) _)
  exact hpeek.bind_answers (h cs b more rest hv hbytes hopen hr)

theorem decides_ignored (v : Datum) : ignored.Decides v (some ()) :=
  fun _ _ _ => takes_ignored

/-! ## Strings -/

/-- The scan of a string breaks off, wherever it stands. -/
def Stops (e : Escape) (bytes : List UInt8) : Prop :=
  ∀ p, ∃ failure k, scanText e p bytes = .error failure k

theorem Scans.stops {e e' : Escape} {out : List UInt8} (h : Scans e bs out e')
    (h' : Stops e' rest) : Stops e (bs ++ rest) := by
  intro p
  obtain ⟨failure, k, hstops⟩ := h' (reach p bs)
  exact ⟨failure, k, by rw [h, hstops, behind]⟩

theorem stops_of_step {e : Escape} {b : UInt8} (fault : Fault) (he : e ≠ .outside)
    (hs : e.step b = .error fault) (rest : List UInt8) : Stops e (b :: rest) := by
  intro p
  refine ⟨⟨fault, some (placeAfter p b)⟩, ⟨placeAfter p b, rest⟩, ?_⟩
  simp only [scanText, he, false_and, if_false, hs]

/-- The fourth digit of a code unit makes it one that cannot stand here. -/
theorem stops_codeUnit {n : Nat} {ds : List Char} (h : CodeUnit n ds) {leading : Option Nat}
    (hs : ∀ b x, hexValue? b = some x → ∀ y, y * 16 + x = n →
      (Escape.hex leading 3 y true).step b = .error .loneSurrogate) (rest : List UInt8) :
    Stops (.hex leading 0 0 true) (encode ds ++ rest) := by
  obtain ⟨ha, hb, hc, hd⟩ := h
  obtain ⟨a, hea, hva⟩ := encode_hexDigit ha
  obtain ⟨b, heb, hvb⟩ := encode_hexDigit hb
  obtain ⟨c, hec, hvc⟩ := encode_hexDigit hc
  obtain ⟨d, hed, hvd⟩ := encode_hexDigit hd
  simp only [encode_cons, encode_nil, hea, heb, hec, hed]
  exact (scans_threeDigits leading hva hvb hvc).stops
    (stops_of_step _ (by simp) (hs d _ hvd _ rfl) rest)

/-- A second half of a pair has no first one before it. -/
theorem stops_trailing {n : Nat} {ds : List Char} (hn : IsTrailing n) (h : CodeUnit n ds)
    (rest : List UInt8) : Stops .outside (encode ('\\' :: 'u' :: ds) ++ rest) := by
  have hu : Scans .opened [0x75] [] (.hex none 0 0 true) := scans_of_step (by simp) rfl
  have hunit : Stops (.hex none 0 0 true) (encode ds ++ rest) := by
    refine stops_codeUnit h ?_ rest
    intro b x hb y hy
    simp [Escape.step, hb, hy, hn.1, hn.2]
  exact (scans_backslash.append hu).stops hunit

/-- Behind the first half of a pair another code unit stands than a second half. -/
theorem stops_paired_unit {high n : Nat} {ds : List Char} (hn : ¬ IsTrailing n) (h : CodeUnit n ds)
    (rest : List UInt8) : Stops (.paired high) (encode ('\\' :: 'u' :: ds) ++ rest) := by
  have hbackslash : Scans (.paired high) [0x5C] [] (.pairedOpened high) :=
    scans_of_step (by simp) rfl
  have hu : Scans (.pairedOpened high) [0x75] [] (.hex (some high) 0 0 true) :=
    scans_of_step (by simp) rfl
  have hunit : Stops (.hex (some high) 0 0 true) (encode ds ++ rest) := by
    refine stops_codeUnit h ?_ rest
    intro b x hb y hy
    have hn' : ¬ (0xDC00 ≤ n ∧ n ≤ 0xDFFF) := hn
    simp [Escape.step, hb, hy, hn']
  exact (hbackslash.append hu).stops hunit

/-- Behind the first half of a pair the scan takes no character that is a whole. -/
theorem stops_paired_char {high : Nat} {c : Char} {cs : List Char} (h : SpellsChar c cs)
    (rest : List UInt8) : Stops (.paired high) (encode cs ++ rest) := by
  cases h with
  | plain hq hb hc =>
      obtain ⟨b, bs, hbytes⟩ := List.exists_cons_of_ne_nil (l := String.utf8EncodeChar c)
        String.utf8EncodeChar_ne_nil
      have hother : b ≠ 0x5C := (plain_bytes hq hb hc b (hbytes ▸ List.mem_cons_self)).2.1
      rw [encode_cons, encode_nil, hbytes]
      exact stops_of_step .endOfEscape (by simp) (by simp [Escape.step, hother]) _
  | short h =>
      have hletter (b : UInt8) (hb : b ≠ 0x75) : Stops (.paired high) ([0x5C, b] ++ rest) := by
        have hbackslash : Scans (.paired high) [0x5C] [] (.pairedOpened high) :=
          scans_of_step (by simp) rfl
        exact hbackslash.stops
          (stops_of_step .endOfEscape (by simp) (by simp [Escape.step, hb]) rest)
      unfold shortEscape? at h
      split at h
      case h_9 => cases h
      all_goals exact hletter _ (by decide)
  | unit h =>
      refine stops_paired_unit ?_ h rest
      -- no character lies among the halves of pairs
      rintro ⟨hle, hle'⟩
      have hvalid : c.toNat < 0xD800 ∨ (0xDFFF < c.toNat ∧ c.toNat < 0x110000) := c.valid
      omega
  | pair hh hl hhigh hlow hc =>
      rw [← List.cons_append, ← List.cons_append, encode_append, List.append_assoc]
      refine stops_paired_unit ?_ hh _
      rintro ⟨hle, -⟩
      omega

/-- No torn string is read to its end. -/
theorem stops_torn {body : List Char} (h : Torn body) (rest : List UInt8) :
    Stops .outside (encode body ++ 0x22 :: rest) := by
  induction h with
  | char hc _ ih =>
      rw [encode_append, List.append_assoc]
      exact (scans_char hc).stops ih
  | trailing hn hu _ =>
      rw [← List.cons_append, ← List.cons_append, encode_append, List.append_assoc]
      exact stops_trailing hn hu _
  | leading hn hu hloose hsingle =>
      rename_i n ds more
      have hfirst : Scans .outside (encode ('\\' :: 'u' :: ds)) [] (.paired n) := by
        refine scans_unit hu ?_
        intro b x hb y hy
        have hlow : ¬ (0xDC00 ≤ n ∧ n ≤ 0xDFFF) := by omega
        simp [Escape.step, hb, hy, hlow, hn]
      rw [← List.cons_append, ← List.cons_append, encode_append, List.append_assoc]
      refine hfirst.stops ?_
      cases hloose with
      | nil => exact stops_of_step .endOfEscape (by simp) rfl rest
      | char hc _ =>
          rw [encode_append, List.append_assoc]
          exact stops_paired_char hc _
      | unit hu' _ =>
          rw [← List.cons_append, ← List.cons_append, encode_append, List.append_assoc]
          exact stops_paired_unit (fun hk => hsingle _ _ _ hk hu' rfl) hu' _

/-- A text is read, and what is torn is refused. -/
theorem answers_text {q : Quoted} {cs : List Char} (h : q.Spells cs) (rest : List UInt8) :
    ∃ bytes, encode cs = 0x22 :: bytes ∧ text.Answers bytes rest q.text? := by
  cases h with
  | text h => exact takes_text h rest
  | @torn body h =>
      refine ⟨encode body ++ [0x22], by rw [encode_cons, encode_append]; rfl, ?_⟩
      intro p s k hrun
      obtain ⟨failure, k', hstops⟩ := stops_torn h rest p
      simp [text, hstops] at hrun

/-- The decoder of texts takes the texts that are whole, and refuses any other datum. -/
theorem decides_string (v : Datum) : string.Decides v v.text? := by
  apply decides_of_peek
  intro cs b more rest hv hbytes hopen hr
  cases hv with
  | text h =>
      obtain rfl : b = 0x22 := hopen
      obtain ⟨bytes, hbytes', htext⟩ := answers_text h rest
      rw [hbytes']
      exact Answers.located (Takes.bind_answers (takes_advance 0x22 (bytes ++ rest)) htext)
  | _ =>
      have hother : b ≠ 0x22 := by
        rintro rfl
        obtain ⟨s, hs⟩ := hopen.eq_text
        cases hs
      split
      · simp_all
      · simp_all
      · exact answers_of_fails (fails_unexpected _) _ rest

/-! ## Numbers -/

def NotNatural (n : Number) : Prop := ∀ m, n ≠ .natural m

theorem gives_floatOfParts (positive : Bool) (significand : Nat) (exponent : Int)
    (bytes : List UInt8) : (floatOfParts positive significand exponent).Gives bytes NotNatural := by
  unfold floatOfParts
  split
  · exact gives_pure (fun m => by simp) bytes
  · exact gives_failHere _ bytes

theorem gives_exponent (positive : Bool) (significand : Nat) (start : Int) (bytes : List UInt8) :
    (exponent positive significand start).Gives bytes NotNatural := by
  -- the exponent has a sign or none
  refine gives_bind _ (fun _ => gives_bind _ fun o => ?_) bytes
  intro bytes
  split
  on_goal 1 => refine gives_bind _ (fun _ => gives_bind _ fun up => gives_bind _ fun o => ?_) bytes
  on_goal 2 => refine gives_bind _ (fun _ => gives_bind _ fun up => gives_bind _ fun o => ?_) bytes
  on_goal 3 => refine gives_bind _ (fun up => gives_bind _ fun o => ?_) bytes
  all_goals
    intro bytes
    split
    · exact gives_failHere _ bytes
    split
    · exact gives_bind _ (fun _ => gives_failHere _) bytes
    refine gives_bind _ (fun k => gives_bind _ fun ds => ?_) bytes
    intro bytes
    split
    · exact gives_floatOfParts _ _ _ bytes
    split
    · exact gives_bind _ (fun _ => gives_bind _ fun _ => gives_failHere _) bytes
    · exact gives_pure (fun m => by simp) bytes

theorem gives_fraction (positive : Bool) (significand : Nat) (start : Int) (bytes : List UInt8) :
    (fraction positive significand start).Gives bytes NotNatural := by
  refine gives_bind _ (fun _ => gives_bind _ fun ds => ?_) bytes
  intro bytes
  split
  · refine gives_bind _ (fun o => ?_) bytes
    intro bytes
    split
    · exact gives_failNext _ bytes
    · exact gives_failNext _ bytes
  · refine gives_bind _ (fun o => ?_) bytes
    intro bytes
    split
    · exact gives_exponent _ _ _ bytes
    · exact gives_exponent _ _ _ bytes
    · exact gives_floatOfParts _ _ _ bytes

/-- A number with a sign is none that stands without one. -/
theorem gives_number_minus (bytes : List UInt8) : (number false).Gives bytes NotNatural := by
  have hrest (significand : Nat) (left : List Nat) (bytes : List UInt8) :
      (number.rest false significand left).Gives bytes NotNatural := by
    refine gives_bind _ (fun o => ?_) bytes
    intro bytes
    split
    · exact gives_fraction _ _ _ bytes
    · exact gives_exponent _ _ _ bytes
    · exact gives_exponent _ _ _ bytes
    · split
      · exact gives_floatOfParts _ _ _ bytes
      · simp only [Bool.false_eq_true, if_false]
        split
        · exact gives_pure (fun m => by simp) bytes
        · exact gives_pure (fun m => by simp) bytes
  refine gives_bind _ (fun o => ?_) bytes
  intro bytes
  split
  · exact gives_failHere _ bytes
  · split
    · exact gives_bind _ (fun _ => gives_failHere _) bytes
    split
    · refine gives_bind _ (fun _ => gives_bind _ fun o => ?_) bytes
      intro bytes
      split
      · split
        · exact gives_failNext _ bytes
        · exact hrest 0 [] bytes
      · exact hrest 0 [] bytes
    · exact gives_bind _ (fun ds => hrest _ _) bytes

theorem fails_check_of_notNatural {n : Number} (h : NotNatural n) (bytes : List UInt8) :
    (byte.check n).Fails bytes := by
  cases n with
  | natural m => exact absurd rfl (h m)
  | negative m => exact gives_fail _ bytes
  | float x => exact gives_fail _ bytes

theorem gather_left {s : Nat} {ds : List Nat} (h : (gather s ds).2 = []) :
    gather s ds = (ofDigits s ds, []) := by
  induction ds generalizing s with
  | nil => rfl
  | cons d ds ih =>
      unfold gather at h ⊢
      split at h
      · rename_i hlt
        rw [if_pos hlt]
        exact ih h
      · cases h

/-- Digits are read up to the first byte that is none. -/
theorem number_whole {whole : List Char} (h : Whole whole)
    (hr : ∀ b ∈ rest.head?, Cursor.isDigit b = false) (p : Place) :
    number true ⟨p, encode whole ++ rest⟩ =
      number.rest true (gather 0 ((encode whole).map fun b => b.toNat - 0x30)).1
        (gather 0 ((encode whole).map fun b => b.toNat - 0x30)).2
        ⟨reach p (encode whole), rest⟩ := by
  cases h with
  | zero =>
      cases rest with
      | nil => rfl
      | cons c rest =>
          have hc : Cursor.isDigit c = false := hr c rfl
          have hrun : number true ⟨p, 0x30 :: c :: rest⟩ =
              (if Cursor.isDigit c then failNext .invalidNumber else number.rest true 0 [])
                ⟨placeAfter p 0x30, c :: rest⟩ := rfl
          rw [hc] at hrun
          exact hrun
  | @digits c ds hc h =>
      obtain ⟨b, hb, hdigit, -, hzero⟩ := encode_digit (h c List.mem_cons_self)
      have h0 : b ≠ 0x30 := fun h0 => hc (hzero h0)
      have hdigits := digits_append (encode_digits h 0).1 hr p
      have hbytes : encode (c :: ds) = b :: encode ds := by rw [encode_cons, hb]; rfl
      rw [hbytes] at hdigits ⊢
      simp only [number, Bind.bind, EStateM.bind, peek, List.cons_append, List.head?_cons, hdigit,
        Bool.not_true, Bool.false_eq_true, if_false, h0, digits] at hdigits ⊢
      rw [hdigits]

/-- A number is none that is natural if digits have been left over, or a point or an exponent
follows. -/
theorem gives_number_rest {significand : Nat} {left : List Nat} {bytes : List UInt8}
    (h : left ≠ [] ∨ ∃ c ∈ bytes.head?, c = 0x2E ∨ c = 0x65 ∨ c = 0x45) :
    (number.rest true significand left).Gives bytes NotNatural := by
  refine gives_peek_bind ?_
  split
  · exact gives_fraction _ _ _ bytes
  · exact gives_exponent _ _ _ bytes
  · exact gives_exponent _ _ _ bytes
  · rename_i hpoint hletter hcapital
    have hleft : left ≠ [] := by
      rcases h with h | ⟨c, hc, rfl | rfl | rfl⟩
      · exact h
      · exact absurd hc hpoint
      · exact absurd hc hletter
      · exact absurd hc hcapital
    rw [if_pos hleft]
    exact gives_floatOfParts _ _ _ bytes

/-- Digits with nothing behind them are a natural number if it fits in 64 bits. -/
theorem answers_number_whole {whole : List Char} (h : Whole whole) (hr : Delimits rest) :
    (number true).Takes (encode whole) (.natural (Nat.ofDigitChars 10 whole 0)) rest ∨
      256 ≤ Nat.ofDigitChars 10 whole 0 ∧
        (number true).Gives (encode whole ++ rest) NotNatural := by
  obtain ⟨-, hvalue⟩ := encode_digits h.isDigit 0
  by_cases hleft : (gather 0 ((encode whole).map fun b => b.toNat - 0x30)).2 = []
  · left
    intro p
    rw [number_whole h hr.not_digit, gather_left hleft, hvalue]
    exact takes_number_rest _ hr _
  · right
    refine ⟨?_, ?_⟩
    · by_contra hlt
      have hfits : ofDigits 0 ((encode whole).map fun b => b.toNat - 0x30) < Decimal.twoTo 64 := by
        rw [hvalue]
        exact Nat.lt_trans (Nat.lt_of_not_le hlt) (by decide)
      exact hleft (by rw [gather_of_lt hfits])
    · intro p n k hrun
      rw [number_whole h hr.not_digit] at hrun
      exact gives_number_rest (.inl hleft) _ n k hrun

theorem gives_number_point {whole : List Char} (h : Whole whole) {c : UInt8}
    (hc : c = 0x2E ∨ c = 0x65 ∨ c = 0x45) (bytes : List UInt8) :
    (number true).Gives (encode whole ++ c :: bytes) NotNatural := by
  have hdigit : ∀ b ∈ (c :: bytes).head?, Cursor.isDigit b = false := by
    rintro b ⟨⟩
    rcases hc with rfl | rfl | rfl <;> rfl
  intro p n k hrun
  rw [number_whole h hdigit] at hrun
  exact gives_number_rest (.inr ⟨c, rfl, hc⟩) _ n k hrun

theorem fails_byte_check {n : Decoder Number} {bytes : List UInt8} (h : n.Gives bytes NotNatural) :
    (n >>= byte.check).Fails bytes := h.bind fun _ => fails_check_of_notNatural

theorem answers_check_natural (n : Nat) (rest : List UInt8) :
    (byte.check (.natural n)).Answers [] rest (if n < 256 then some n else none) := by
  show (if n < 256 then pure n else fail _ : Decoder Nat).Answers [] rest _
  split_ifs
  · exact answers_pure n rest
  · exact gives_fail _ rest

theorem answers_byte_whole {whole : List Char} (h : Whole whole) (hr : Delimits rest) :
    (number true >>= byte.check).Answers (encode whole) rest
      (Datum.number false whole [] []).byte? := by
  have hbyte : (Datum.number false whole [] []).byte? =
      if Nat.ofDigitChars 10 whole 0 < 256 then some (Nat.ofDigitChars 10 whole 0) else none := rfl
  rw [hbyte]
  rcases answers_number_whole h hr with htakes | ⟨hle, hgives⟩
  · have hboth := Takes.bind_answers htakes (answers_check_natural _ rest)
    rwa [List.append_nil] at hboth
  · rw [if_neg (Nat.not_lt.mpr hle)]
    exact fails_byte_check hgives

theorem answers_byte_unsigned {whole fraction exponent : List Char} (hw : Whole whole)
    (hf : Fraction fraction) (he : Exponent exponent) (hr : Delimits rest) :
    (number true >>= byte.check).Answers (encode (whole ++ (fraction ++ exponent))) rest
      (Datum.number false whole fraction exponent).byte? := by
  rcases hf.absent_or_opens he with ⟨rfl, rfl⟩ | ⟨c, tail, htail, hc⟩
  · rw [List.append_nil, List.append_nil]
    exact answers_byte_whole hw hr
  · have hnone : (Datum.number false whole fraction exponent).byte? = none := by
      rcases fraction with _ | _ <;> rcases exponent with _ | _
      · cases htail
      all_goals rfl
    have hfails : (number true >>= byte.check).Fails (encode whole ++ c :: (tail ++ rest)) :=
      fails_byte_check (gives_number_point hw hc _)
    rw [hnone, encode_append, htail]
    simpa [Answers] using hfails

/-- The decoder of bytes takes the numbers below 256 that have neither sign nor point nor
exponent, and refuses any other datum. -/
theorem decides_byte (v : Datum) : byte.Decides v v.byte? := by
  apply decides_of_peek
  intro cs b more rest hv hbytes hopen hr
  apply Answers.located
  by_cases hnumber : b = 0x2D ∨ Cursor.isDigit b = true
  · obtain ⟨whole, fraction, exponent, rfl⟩ := hopen.eq_number hnumber
    obtain _ | _ | _ | ⟨-, hw, hf, he⟩ := hv
    by_cases hminus : b = 0x2D
    · have hnone : (Datum.number (b = 0x2D) whole fraction exponent).byte? = none := by
        simp [Datum.byte?, hminus]
      rw [if_pos hminus, hnone]
      exact gives_bind _ (fun _ bytes => fails_byte_check (gives_number_minus bytes)) _
    · rw [if_neg hminus, if_pos (hnumber.resolve_left hminus)]
      simp only [hminus, decide_false, Bool.false_eq_true, if_false, List.nil_append]
      exact answers_byte_unsigned hw hf he hr
  · obtain ⟨hminus, hdigit⟩ := not_or.mp hnumber
    have hnone : v.byte? = none := by
      rcases v with _ | _ | ⟨_ | _, _⟩ | _ | _ | _
      case number.false => exact absurd hopen hdigit
      all_goals rfl
    rw [if_neg hminus, if_neg hdigit, hnone]
    exact answers_of_fails (fails_unexpected _) _ rest

end Decoder

end Provision.Json
