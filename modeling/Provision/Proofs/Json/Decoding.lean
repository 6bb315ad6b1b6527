import Mathlib.Data.List.Basic
import Provision.Json.Decoder

namespace Provision.Json

/-!
# What decoders take

A decoder that succeeds takes the bytes of what it reads and leaves those behind them.  Each decoder
has a lemma that tells which bytes it takes; the lemmas are put together as the decoders are.
-/

def reach (p : Place) (bytes : List UInt8) : Place := bytes.foldl placeAfter p

@[simp] theorem reach_nil (p : Place) : reach p [] = p := rfl

@[simp] theorem reach_cons (p : Place) (b : UInt8) (bytes : List UInt8) :
    reach p (b :: bytes) = reach (placeAfter p b) bytes := rfl

@[simp] theorem reach_append (p : Place) (bs cs : List UInt8) :
    reach p (bs ++ cs) = reach (reach p bs) cs := List.foldl_append

/-- Behind a value: what may stand there goes on with none. -/
def Delimits (rest : List UInt8) : Prop :=
  ∀ b ∈ rest.head?, Cursor.isSpace b = true ∨ b = 0x2C ∨ b = 0x5D ∨ b = 0x7D

theorem Delimits.cons {b : UInt8} (h : Cursor.isSpace b = true ∨ b = 0x2C ∨ b = 0x5D ∨ b = 0x7D)
    (rest : List UInt8) : Delimits (b :: rest) := by
  intro c hc
  rwa [← Option.some.inj hc]

theorem Delimits.not_digit {rest : List UInt8} (h : Delimits rest) :
    ∀ b ∈ rest.head?, Cursor.isDigit b = false := by
  intro b hb
  rcases h b hb with hs | rfl | rfl | rfl
  · simp only [Cursor.isSpace, Bool.or_eq_true, decide_eq_true_eq] at hs
    rcases hs with ((rfl | rfl) | rfl) | rfl <;> decide
  all_goals decide

namespace Decoder

variable {α β : Type}

/-- The decoder takes the bytes and gives the value, wherever it starts. -/
def Takes (d : Decoder α) (bytes : List UInt8) (a : α) (rest : List UInt8) : Prop :=
  ∀ p, d ⟨p, bytes ++ rest⟩ = .ok a ⟨reach p bytes, rest⟩

/-- Two steps take their bytes one after the other. -/
theorem Takes.bind {d : Decoder α} {f : α → Decoder β} {bs cs rest : List UInt8} {a : α} {b : β}
    (hd : d.Takes bs a (cs ++ rest)) (hf : (f a).Takes cs b rest) :
    (d >>= f).Takes (bs ++ cs) b rest := by
  intro p
  have hfirst := hd p
  have hnext := hf (reach p bs)
  simp only [Bind.bind, EStateM.bind, List.append_assoc, hfirst, hnext, reach_append]

/-- A decoder that takes nothing comes first. -/
theorem Takes.bind_nil {d : Decoder α} {f : α → Decoder β} {bs rest : List UInt8} {a : α} {b : β}
    (hd : d.Takes [] a (bs ++ rest)) (hf : (f a).Takes bs b rest) : (d >>= f).Takes bs b rest := by
  have h : (d >>= f).Takes ([] ++ bs) b rest := Takes.bind hd hf
  exact h

/-- A decoder that takes nothing comes last. -/
theorem Takes.bind_end {d : Decoder α} {f : α → Decoder β} {bs rest : List UInt8} {a : α} {b : β}
    (hd : d.Takes bs a rest) (hf : (f a).Takes [] b rest) : (d >>= f).Takes bs b rest := by
  have h : (d >>= f).Takes (bs ++ []) b rest := Takes.bind hd hf
  rwa [List.append_nil] at h

theorem takes_pure (a : α) (rest : List UInt8) : (pure a : Decoder α).Takes [] a rest :=
  fun _ => rfl

/-- What is read last decides what is given. -/
theorem Takes.map {d : Decoder α} {bs rest : List UInt8} {a : α} (hd : d.Takes bs a rest)
    (f : α → β) : (d >>= fun x => pure (f x)).Takes bs (f a) rest :=
  Takes.bind_end hd (takes_pure (f a) rest)

theorem takes_advance (b : UInt8) (rest : List UInt8) : advance.Takes [b] () rest :=
  fun _ => rfl

theorem Takes.advance_bind {d : Decoder α} {bs rest : List UInt8} {a : α} (b : UInt8)
    (hd : d.Takes bs a rest) : (advance >>= fun _ => d).Takes (b :: bs) a rest :=
  Takes.bind (takes_advance b (bs ++ rest)) hd

theorem takes_peek (rest : List UInt8) : peek.Takes [] rest.head? rest :=
  fun _ => rfl

/-- White space in front is passed over, and the place moves along. -/
theorem skipSpaces_append {blank : List UInt8} (hb : ∀ b ∈ blank, Cursor.isSpace b = true)
    (p : Place) (bytes : List UInt8) :
    Cursor.skipSpaces p (blank ++ bytes) = Cursor.skipSpaces (reach p blank) bytes := by
  induction blank generalizing p with
  | nil => rfl
  | cons b blank ih =>
      obtain ⟨hspace, hblank⟩ := List.forall_mem_cons.mp hb
      simp [Cursor.skipSpaces, hspace, ih hblank]

/-- White space in front does not matter to a decoder that begins with a value. -/
theorem Takes.blank {f : Option UInt8 → Decoder α} {blank bs rest : List UInt8} {a : α}
    (hb : ∀ b ∈ blank, Cursor.isSpace b = true) (h : (peekValue >>= f).Takes bs a rest) :
    (peekValue >>= f).Takes (blank ++ bs) a rest := by
  intro p
  have hskip : peekValue ⟨p, blank ++ (bs ++ rest)⟩ = peekValue ⟨reach p blank, bs ++ rest⟩ := by
    simp only [peekValue, skipSpaces_append hb]
  have hnext := h (reach p blank)
  simp only [Bind.bind, EStateM.bind] at hnext
  simp only [Bind.bind, EStateM.bind, List.append_assoc, hskip, hnext, reach_append]

theorem takes_peekValue {b : UInt8} (hb : Cursor.isSpace b = false) (rest : List UInt8) :
    peekValue.Takes [] (some b) (b :: rest) := by
  intro p
  simp [peekValue, Cursor.skipSpaces, hb]

theorem Takes.peekValue_bind {f : Option UInt8 → Decoder α} {b : UInt8} {bs rest : List UInt8}
    {a : α} (hb : Cursor.isSpace b = false) (hf : (f (some b)).Takes (b :: bs) a rest) :
    (peekValue >>= f).Takes (b :: bs) a rest :=
  Takes.bind_nil (takes_peekValue hb (bs ++ rest)) hf

/-- White space is all that is taken; the byte behind it decides. -/
theorem Takes.peekValue_blank {f : Option UInt8 → Decoder α} {b : UInt8} {blank rest : List UInt8}
    {a : α} (hblank : ∀ b ∈ blank, Cursor.isSpace b = true) (hb : Cursor.isSpace b = false)
    (hf : (f (some b)).Takes [] a (b :: rest)) : (peekValue >>= f).Takes blank a (b :: rest) := by
  have h := Takes.blank hblank (Takes.bind_nil (takes_peekValue hb rest) hf)
  rwa [List.append_nil] at h

theorem Takes.located {d : Decoder α} {bs rest : List UInt8} {a : α} (hd : d.Takes bs a rest) :
    (Decoder.located d).Takes bs a rest := by
  intro p
  simp only [Decoder.located, hd p]

theorem Takes.enclosed {inside : Decoder α} {close : Decoder Unit} {bs cs rest : List UInt8}
    {a : α} (hi : inside.Takes bs a (cs ++ rest)) (hc : close.Takes cs () rest) :
    (Decoder.enclosed inside close).Takes (bs ++ cs) a rest := by
  intro p
  have hinside := hi p
  have hclose := hc (reach p bs)
  simp only [Decoder.enclosed, List.append_assoc, hinside, hclose, reach_append]

theorem takes_word (letters rest : List UInt8) : (word letters).Takes letters () rest := by
  induction letters with
  | nil => exact takes_pure () rest
  | cons b letters ih =>
      refine Takes.bind_nil (takes_peek _) (Takes.advance_bind b ?_)
      simpa using ih

/-! ## Numbers -/

/-- Digits end at the first byte that is none. -/
theorem digits_append {ds rest : List UInt8} (hd : ∀ b ∈ ds, Cursor.isDigit b = true)
    (hr : ∀ b ∈ rest.head?, Cursor.isDigit b = false) (p : Place) :
    Cursor.digits p (ds ++ rest) = (ds.map fun b => b.toNat - 0x30, ⟨reach p ds, rest⟩) := by
  induction ds generalizing p with
  | nil =>
      cases rest with
      | nil => rfl
      | cons b rest =>
          have hb : Cursor.isDigit b = false := hr b rfl
          simp [Cursor.digits, hb]
  | cons b ds ih =>
      obtain ⟨hdigit, hds⟩ := List.forall_mem_cons.mp hd
      simp [Cursor.digits, hdigit, ih hds]

theorem takes_digits {ds rest : List UInt8} (hd : ∀ b ∈ ds, Cursor.isDigit b = true)
    (hr : ∀ b ∈ rest.head?, Cursor.isDigit b = false) :
    digits.Takes ds (ds.map fun b => b.toNat - 0x30) rest := by
  intro p
  simp only [digits, digits_append hd hr]

def ofDigits (s : Nat) (ds : List Nat) : Nat := ds.foldl (fun n d => n * 10 + d) s

theorem le_ofDigits (s : Nat) (ds : List Nat) : s ≤ ofDigits s ds := by
  induction ds generalizing s with
  | nil => exact Nat.le_refl s
  | cons d ds ih =>
      have h : s * 10 + d ≤ ofDigits s (d :: ds) := ih (s * 10 + d)
      omega

/-- Nothing is left over of the digits of a number below `2 ^ 64`. -/
theorem gather_of_lt {s : Nat} {ds : List Nat} (h : ofDigits s ds < Decimal.twoTo 64) :
    gather s ds = (ofDigits s ds, []) := by
  induction ds generalizing s with
  | nil => rfl
  | cons d ds ih =>
      have hle : s * 10 + d ≤ ofDigits s (d :: ds) := le_ofDigits (s * 10 + d) ds
      rw [gather, if_pos (Nat.lt_of_le_of_lt hle h)]
      exact ih h

theorem takes_number_rest (n : Nat) {rest : List UInt8} (hr : Delimits rest) :
    (number.rest true n []).Takes [] (.natural n) rest := by
  refine Takes.bind_nil (takes_peek rest) ?_
  -- neither a point nor an exponent stands behind a value
  split
  case h_4 => exact takes_pure _ rest
  all_goals
    rename_i hb
    rcases hr _ hb with h | h | h | h <;> simp [Cursor.isSpace] at h

/-- Digits without a needless zero in front are read as the number they stand for, if it is below
`2 ^ 64`. -/
theorem takes_number {ds rest : List UInt8} (hd : ∀ b ∈ ds, Cursor.isDigit b = true)
    (hne : ds ≠ []) (hzero : ds.head? = some 0x30 → ds = [0x30])
    (hlt : ofDigits 0 (ds.map fun b => b.toNat - 0x30) < Decimal.twoTo 64) (hr : Delimits rest) :
    (number true).Takes ds (.natural (ofDigits 0 (ds.map fun b => b.toNat - 0x30))) rest := by
  obtain ⟨b, more, rfl⟩ := List.exists_cons_of_ne_nil hne
  have hb : Cursor.isDigit b = true := hd b List.mem_cons_self
  refine Takes.bind_nil (takes_peek _) ?_
  simp only [List.cons_append, List.head?_cons, hb, Bool.not_true, Bool.false_eq_true, if_false]
  by_cases h0 : b = 0x30
  · subst h0
    obtain rfl : more = [] := List.cons_inj_right _ |>.mp (hzero rfl)
    rw [if_pos rfl]
    refine Takes.advance_bind 0x30 (Takes.bind_nil (takes_peek rest) ?_)
    have hrest : (number.rest true 0 []).Takes [] (.natural 0) rest := takes_number_rest 0 hr
    cases hh : rest.head? with
    | none => exact hrest
    | some c =>
        have hc : Cursor.isDigit c = false := hr.not_digit c hh
        simp only [hc, Bool.false_eq_true, if_false]
        exact hrest
  · rw [if_neg h0]
    have hdigits := takes_digits hd hr.not_digit
    have hrest := takes_number_rest (ofDigits 0 ((b :: more).map fun b => b.toNat - 0x30)) hr
    refine Takes.bind_end hdigits ?_
    simp only [gather_of_lt hlt]
    exact hrest

/-! ## Strings -/

def behind (out : List UInt8) :
    EStateM.Result Failure Cursor (List UInt8) → EStateM.Result Failure Cursor (List UInt8)
  | .ok more k => .ok (out ++ more) k
  | .error failure k => .error failure k

theorem behind_nil (r : EStateM.Result Failure Cursor (List UInt8)) : behind [] r = r := by
  cases r <;> rfl

theorem behind_behind (bs cs : List UInt8) (r : EStateM.Result Failure Cursor (List UInt8)) :
    behind bs (behind cs r) = behind (bs ++ cs) r := by
  cases r <;> simp [behind]

/-- The bytes complete some of a string, whatever follows them. -/
def Scans (e : Escape) (bytes out : List UInt8) (e' : Escape) : Prop :=
  ∀ p rest, scanText e p (bytes ++ rest) = behind out (scanText e' (reach p bytes) rest)

theorem scans_nil (e : Escape) : Scans e [] [] e := fun _ _ => (behind_nil _).symm

/-- Of two parts of a string the bytes are completed one after the other. -/
theorem Scans.append {e e' e'' : Escape} {bs cs outb outc : List UInt8} (hb : Scans e bs outb e')
    (hc : Scans e' cs outc e'') : Scans e (bs ++ cs) (outb ++ outc) e'' := by
  intro p rest
  rw [List.append_assoc, hb, hc, behind_behind, reach_append]

theorem scans_of_step {e e' : Escape} {b : UInt8} {out : List UInt8} (he : e ≠ .outside)
    (hs : e.step b = .ok (out, e')) : Scans e [b] out e' := by
  intro p rest
  simp only [List.singleton_append, scanText, he, false_and, if_false, hs, reach_cons, reach_nil]
  rfl

theorem scans_plain {b : UInt8} (hq : b ≠ 0x22) (hb : b ≠ 0x5C) (hc : 0x20 ≤ b) :
    Scans .outside [b] [b] .outside := by
  intro p rest
  simp only [List.singleton_append, scanText, hq, hb, UInt8.not_lt.mpr hc, and_false, if_false,
    Escape.step, reach_cons, reach_nil]
  rfl

theorem scans_backslash : Scans .outside [0x5C] [] .opened := by
  intro p rest
  rw [behind_nil]
  simp [scanText]

/-- Three of the four digits of a code unit complete nothing yet. -/
theorem scans_threeDigits {a b c : UInt8} {v w x : Nat} (leading : Option Nat)
    (ha : hexValue? a = some v) (hb : hexValue? b = some w) (hc : hexValue? c = some x) :
    Scans (.hex leading 0 0 true) [a, b, c] [] (.hex leading 3 ((v * 16 + w) * 16 + x) true) := by
  have h1 : Scans (.hex leading 0 0 true) [a] [] (.hex leading 1 v true) :=
    scans_of_step (by simp) (by simp [Escape.step, ha])
  have h2 : Scans (.hex leading 1 v true) [b] [] (.hex leading 2 (v * 16 + w) true) :=
    scans_of_step (by simp) (by simp [Escape.step, hb])
  have h3 : Scans (.hex leading 2 (v * 16 + w) true) [c] []
      (.hex leading 3 ((v * 16 + w) * 16 + x) true) :=
    scans_of_step (by simp) (by simp [Escape.step, hc])
  exact (h1.append h2).append h3

/-- Four hexadecimal digits, the last of which completes an escape. -/
theorem scans_hex {leading : Option Nat} {a b c d : UInt8} {v w x : Nat} {out : List UInt8}
    {e' : Escape} (ha : hexValue? a = some v) (hb : hexValue? b = some w)
    (hc : hexValue? c = some x)
    (hs : (Escape.hex leading 3 ((v * 16 + w) * 16 + x) true).step d = .ok (out, e')) :
    Scans (.hex leading 0 0 true) [a, b, c, d] out e' :=
  (scans_threeDigits leading ha hb hc).append (scans_of_step (by simp) hs)

/-- A string whose scan has come to no unfinished escape is read as the text with its bytes. -/
theorem Scans.takes {bytes out rest : List UInt8} (h : Scans .outside bytes out .outside)
    {s : String} (hs : Text.ofUtf8? out = some s) : text.Takes (bytes ++ [0x22]) s rest := by
  intro p
  have hend : scanText .outside (reach p bytes) (0x22 :: rest) =
      .ok [] ⟨reach p (bytes ++ [0x22]), rest⟩ := by
    simp [scanText]
  have hscan := h p (0x22 :: rest)
  rw [hend, behind, List.append_nil] at hscan
  simp only [text, List.append_assoc, List.singleton_append, hscan, hs]

/-! ## Lists and objects -/

section Brackets

variable {b : UInt8} {blank before behind rest : List UInt8}

theorem takes_hasItem_end (first : Bool) (hblank : ∀ b ∈ blank, Cursor.isSpace b = true)
    (rest : List UInt8) : (hasItem first).Takes blank false (0x5D :: rest) :=
  Takes.peekValue_blank hblank rfl (takes_pure false _)

theorem takes_hasItem_first (hblank : ∀ b ∈ blank, Cursor.isSpace b = true)
    (hs : Cursor.isSpace b = false) (hb : b ≠ 0x5D) (rest : List UInt8) :
    (hasItem true).Takes blank true (b :: rest) := by
  refine Takes.peekValue_blank hblank hs ?_
  split
  · simp_all
  · simp_all
  · exact takes_pure true _

theorem takes_hasItem_later (hbefore : ∀ b ∈ before, Cursor.isSpace b = true)
    (hbehind : ∀ b ∈ behind, Cursor.isSpace b = true) (hs : Cursor.isSpace b = false)
    (hb : b ≠ 0x5D) (rest : List UInt8) :
    (hasItem false).Takes (before ++ 0x2C :: behind) true (b :: rest) := by
  refine Takes.blank hbefore (Takes.peekValue_bind rfl (Takes.advance_bind 0x2C ?_))
  refine Takes.peekValue_blank hbehind hs ?_
  split
  · simp_all
  · exact takes_pure true _
  · simp_all

theorem takes_hasMember_end (first : Bool) (hblank : ∀ b ∈ blank, Cursor.isSpace b = true)
    (rest : List UInt8) : (hasMember first).Takes blank false (0x7D :: rest) :=
  Takes.peekValue_blank hblank rfl (takes_pure false _)

theorem takes_hasMember_first (hblank : ∀ b ∈ blank, Cursor.isSpace b = true)
    (rest : List UInt8) : (hasMember true).Takes blank true (0x22 :: rest) :=
  Takes.peekValue_blank hblank rfl (takes_pure true _)

theorem takes_hasMember_later (hbefore : ∀ b ∈ before, Cursor.isSpace b = true)
    (hbehind : ∀ b ∈ behind, Cursor.isSpace b = true) (rest : List UInt8) :
    (hasMember false).Takes (before ++ 0x2C :: behind) true (0x22 :: rest) := by
  refine Takes.blank hbefore (Takes.peekValue_bind rfl (Takes.advance_bind 0x2C ?_))
  exact Takes.peekValue_blank hbehind rfl (takes_pure true _)

theorem takes_closeList (rest : List UInt8) : closeList.Takes [0x5D] () rest :=
  Takes.peekValue_bind rfl (takes_advance 0x5D rest)

theorem takes_closeObject (rest : List UInt8) : closeObject.Takes [0x7D] () rest :=
  Takes.peekValue_bind rfl (takes_advance 0x7D rest)

theorem takes_memberValue {value : Decoder α} {bs : List UInt8} {a : α}
    (hblank : ∀ b ∈ blank, Cursor.isSpace b = true) (hv : value.Takes bs a rest) :
    (memberValue value).Takes (blank ++ 0x3A :: bs) a rest :=
  Takes.blank hblank (Takes.peekValue_bind rfl (Takes.advance_bind 0x3A hv))

variable {item : Decoder α} {as : List α} {a : α} {first : Bool} {fuel : Nat}
variable {sep bs cs : List UInt8}

theorem takes_itemsUpTo_nil (h : (hasItem first).Takes bs false rest) :
    (itemsUpTo item (fuel + 1) first).Takes bs [] rest :=
  Takes.bind_end h (takes_pure [] rest)

theorem takes_itemsUpTo_cons (hsep : (hasItem first).Takes sep true (bs ++ (cs ++ rest)))
    (ha : item.Takes bs a (cs ++ rest)) (has : (itemsUpTo item fuel false).Takes cs as rest) :
    (itemsUpTo item (fuel + 1) first).Takes (sep ++ (bs ++ cs)) (a :: as) rest := by
  have hsep' : (hasItem first).Takes sep true ((bs ++ cs) ++ rest) := by
    rwa [List.append_assoc]
  exact Takes.bind hsep' (Takes.bind ha (Takes.map has (a :: ·)))

/-- A list is read if its items are; there is more fuel than they have bytes. -/
theorem takes_list (hi : ∀ fuel, bs.length < fuel →
    (itemsUpTo item fuel true).Takes bs as (0x5D :: rest)) :
    (list item).Takes (0x5B :: (bs ++ [0x5D])) as rest := by
  have hitems : (items item).Takes bs as (0x5D :: rest) := by
    intro p
    refine hi _ ?_ p
    rw [List.length_append]
    omega
  refine Takes.peekValue_bind rfl (Takes.located (Takes.advance_bind 0x5B ?_))
  exact Takes.enclosed hitems (takes_closeList rest)

variable {σ : Type} {member : String → σ → Decoder σ} {s t u : σ} {key : String}

theorem takes_membersUpTo_nil (h : (hasMember first).Takes bs false rest) :
    (membersUpTo member (fuel + 1) first s).Takes bs s rest :=
  Takes.bind_end h (takes_pure s rest)

theorem takes_membersUpTo_cons {ks : List UInt8}
    (hsep : (hasMember first).Takes sep true (0x22 :: (ks ++ (bs ++ (cs ++ rest)))))
    (hk : text.Takes ks key (bs ++ (cs ++ rest))) (hv : (member key s).Takes bs t (cs ++ rest))
    (hm : (membersUpTo member fuel false t).Takes cs u rest) :
    (membersUpTo member (fuel + 1) first s).Takes (sep ++ (0x22 :: (ks ++ (bs ++ cs)))) u rest := by
  have hsep' : (hasMember first).Takes sep true ((0x22 :: (ks ++ (bs ++ cs))) ++ rest) := by
    simpa using hsep
  have hk' : text.Takes ks key ((bs ++ cs) ++ rest) := by rwa [List.append_assoc]
  exact Takes.bind hsep' (Takes.advance_bind 0x22 (Takes.bind hk' (Takes.bind hv hm)))

/-- The same of the members of an object. -/
theorem takes_dictionary (hm : ∀ fuel, bs.length < fuel →
    (membersUpTo member fuel true s).Takes bs t (0x7D :: rest)) :
    (dictionary member s).Takes (0x7B :: (bs ++ [0x7D])) t rest := by
  have hmembers : (members member s).Takes bs t (0x7D :: rest) := by
    intro p
    refine hm _ ?_ p
    rw [List.length_append]
    omega
  refine Takes.peekValue_bind rfl (Takes.located (Takes.advance_bind 0x7B ?_))
  exact Takes.enclosed hmembers (takes_closeObject rest)

end Brackets

/-- A document is one value with white space behind it. -/
theorem document_eq_ok {value : Decoder α} {bs blank : List UInt8} {a : α}
    (hv : value.Takes bs a blank) (hblank : ∀ b ∈ blank, Cursor.isSpace b = true) :
    document value (bs ++ blank) = .ok a := by
  have hskip : ∀ p, peekValue ⟨p, blank⟩ = .ok none ⟨reach p blank, []⟩ := by
    intro p
    have h := skipSpaces_append hblank p []
    rw [List.append_nil] at h
    simp only [peekValue, h, Cursor.skipSpaces, List.head?_nil]
  have hfirst := hv ⟨1, 0⟩
  simp only [document, Cursor.start, Bind.bind, EStateM.bind, hfirst, hskip]
  rfl

end Decoder

end Provision.Json
