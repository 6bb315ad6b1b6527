import Mathlib.Data.List.Forall2
import Provision.Proofs.Json.Reading

namespace Provision.Json.Decoder

/-!
# Reading what a value stands for

A decoder reads a value as something when it takes every text that spells the value, and gives this.
Each way to put decoders together has a rule; the members of an object are read one after the other,
and each changes what is known of the object.
-/

variable {α β σ : Type}

/-- Whatever text spells the value, with white space before it, the decoder takes it and gives
this. -/
def Reads (d : Decoder α) (v : Json) (a : α) : Prop :=
  ∀ ⦃blank cs : List Char⦄ ⦃rest : List UInt8⦄, Blank blank → Spells v cs → Delimits rest →
    d.Takes (encode blank ++ encode cs) a rest

def ReadsMember (d : Decoder σ) (v : Json) (t : σ) : Prop :=
  ∀ ⦃before behind cs : List Char⦄ ⦃rest : List UInt8⦄, Blank before → Blank behind → Spells v cs →
    Delimits rest → d.Takes (encode before ++ 0x3A :: (encode behind ++ encode cs)) t rest

/-- The members lead from what is known before them to what is known behind them. -/
inductive Feeds (member : String → σ → Decoder σ) : σ → List (String × Json) → σ → Prop
  | nil (s : σ) : Feeds member s [] s
  | cons {key : String} {v : Json} {members : List (String × Json)} {s t u : σ}
      (h : ReadsMember (member key s) v t) (hrest : Feeds member t members u) :
      Feeds member s ((key, v) :: members) u

/-- What is made of a value that has been read. -/
theorem Reads.bind {d : Decoder α} {f : α → Decoder β} {v : Json} {a : α} {b : β}
    (hd : d.Reads v a) (hf : ∀ rest, (f a).Takes [] b rest) : (d >>= f).Reads v b := by
  intro blank cs rest hb hv hr
  exact Takes.bind_end (hd hb hv hr) (hf rest)

theorem ReadsMember.bind {d : Decoder α} {f : α → Decoder β} {v : Json} {a : α} {b : β}
    (hd : d.ReadsMember v a) (hf : ∀ rest, (f a).Takes [] b rest) : (d >>= f).ReadsMember v b := by
  intro before behind cs rest hb hb' hv hr
  exact Takes.bind_end (hd hb hb' hv hr) (hf rest)

theorem reads_string (s : String) : string.Reads (.text s) s := by
  intro blank cs rest hb hv hr
  cases hv with
  | text h =>
      obtain ⟨bytes, hbytes, htext⟩ := takes_text h rest
      apply Takes.blank hb.isSpace
      rw [hbytes]
      exact Takes.peekValue_bind rfl (Takes.located (Takes.advance_bind 0x22 htext))

theorem reads_bool (b : Bool) : bool.Reads (.bool b) b := by
  intro blank cs rest hb hv hr
  apply Takes.blank hb.isSpace
  cases hv with
  | isTrue =>
      refine Takes.peekValue_bind rfl (Takes.located (Takes.advance_bind 0x74 ?_))
      exact Takes.map (takes_word [0x72, 0x75, 0x65] rest) fun _ => true
  | isFalse =>
      refine Takes.peekValue_bind rfl (Takes.located (Takes.advance_bind 0x66 ?_))
      exact Takes.map (takes_word [0x61, 0x6C, 0x73, 0x65] rest) fun _ => false

theorem Reads.optional {value : Decoder α} {v : Json} {a : α} (h : value.Reads v a)
    (hv : v ≠ .null) : (Decoder.optional value).Reads v (some a) := by
  intro blank cs rest hb hspells hr
  obtain ⟨b, more, hbytes, hs, -, hne⟩ := hspells.exists_cons
  have hb' := hne hv
  have hvalue := h blank_nil hspells hr
  apply Takes.blank hb.isSpace
  rw [encode_nil, List.nil_append, hbytes] at hvalue
  rw [hbytes]
  apply Takes.peekValue_bind hs
  split
  · simp_all
  · exact Takes.map hvalue some

/-! ## Lists -/

/-- The items are read one after the other, however they are separated. -/
theorem takes_itemsUpTo {item : Decoder α} {values : List Json} {as : List α}
    (h : List.Forall₂ (fun v a => item.Reads v a) values as) {first : Bool} {cs : List Char}
    (hs : SpellsItems first values cs) {fuel : Nat} (hfuel : (encode cs).length < fuel)
    (rest : List UInt8) : (itemsUpTo item fuel first).Takes (encode cs) as (0x5D :: rest) := by
  induction h generalizing first cs fuel with
  | nil =>
      obtain ⟨fuel, rfl⟩ := Nat.exists_eq_add_one_of_ne_zero (Nat.ne_zero_of_lt hfuel)
      obtain ⟨hblank⟩ := hs
      exact takes_itemsUpTo_nil (takes_hasItem_end first hblank.isSpace rest)
  | cons hv hvalues ih =>
      obtain ⟨fuel, rfl⟩ := Nat.exists_eq_add_one_of_ne_zero (Nat.ne_zero_of_lt hfuel)
      obtain _ | ⟨hsep, hspells, hitems⟩ := hs
      rename_i sep body more
      obtain ⟨b, bs, hbytes, hspace, hb, -⟩ := hspells.exists_cons
      have hhas := takes_hasItem hsep hspace hb (bs ++ (encode more ++ 0x5D :: rest))
      have hvalue := hv blank_nil hspells (hitems.delimits rest)
      have hmore : (encode more).length < fuel := by
        simp only [encode_append, hbytes, List.length_append, List.length_cons] at hfuel
        omega
      rw [encode_append, encode_append]
      refine takes_itemsUpTo_cons ?_ hvalue (ih hitems hmore)
      rw [hbytes]
      exact hhas

theorem Reads.list {item : Decoder α} {values : List Json} {as : List α}
    (h : List.Forall₂ (fun v a => item.Reads v a) values as) :
    (Decoder.list item).Reads (.list values) as := by
  intro blank cs rest hb hs hr
  cases hs with
  | list hitems =>
      apply Takes.blank hb.isSpace
      rw [encode_cons, encode_append]
      exact takes_list fun fuel hfuel => takes_itemsUpTo h hitems hfuel rest

theorem Reads.list_map {item : Decoder α} {write : β → Json} {f : β → α}
    (h : ∀ b, item.Reads (write b) (f b)) (bs : List β) :
    (Decoder.list item).Reads (.list (bs.map write)) (bs.map f) := by
  apply Reads.list
  rw [List.forall₂_map_left_iff, List.forall₂_map_right_iff, List.forall₂_same]
  exact fun b _ => h b

/-! ## Records -/

theorem ReadsMember.fieldValue {value : Decoder α} {v : Json} {a : α} (h : value.Reads v a)
    (name : String) : (Decoder.fieldValue name none value).ReadsMember v (some a) := by
  intro before behind cs rest hb hb' hs hr
  exact Takes.map (takes_memberValue hb.isSpace (h hb' hs hr)) some

/-- A field that has not been read before changes what is known of the object. -/
theorem ReadsMember.field {value : Decoder α} {v : Json} {a : α} (h : value.Reads v a)
    (name : String) (update : Option α → σ) :
    ReadsMember (do return update (← Decoder.fieldValue name none value)) v (update (some a)) :=
  (ReadsMember.fieldValue h name).bind fun rest => takes_pure _ rest

/-- The members are read one after the other, however they are separated, each with what the
earlier ones have made known. -/
theorem Feeds.takes {member : String → σ → Decoder σ} {s t : σ} {values : List (String × Json)}
    (h : Feeds member s values t) {first : Bool} {cs : List Char}
    (hs : SpellsMembers first values cs) {fuel : Nat} (hfuel : (encode cs).length < fuel)
    (rest : List UInt8) :
    (membersUpTo member fuel first s).Takes (encode cs) t (0x7D :: rest) := by
  induction h generalizing first cs fuel with
  | nil s =>
      obtain ⟨fuel, rfl⟩ := Nat.exists_eq_add_one_of_ne_zero (Nat.ne_zero_of_lt hfuel)
      obtain ⟨hblank⟩ := hs
      exact takes_membersUpTo_nil (takes_hasMember_end first hblank.isSpace rest)
  | cons hv _ ih =>
      obtain ⟨fuel, rfl⟩ := Nat.exists_eq_add_one_of_ne_zero (Nat.ne_zero_of_lt hfuel)
      obtain _ | ⟨hsep, hk, hb, hb', hspells, hmembers⟩ := hs
      rename_i sep ks blank blank' body more
      obtain ⟨bytes, hbytes, htext⟩ := takes_text hk
        ((encode blank ++ 0x3A :: (encode blank' ++ encode body)) ++ (encode more ++ 0x7D :: rest))
      rw [encode_member hbytes] at hfuel ⊢
      have hmore : (encode more).length < fuel := by
        simp only [List.length_append, List.length_cons] at hfuel
        omega
      have hmember := hv hb hb' hspells (hmembers.delimits rest)
      exact takes_membersUpTo_cons (takes_hasMember hsep _) htext hmember (ih hmembers hmore)

/-- A record that is written as an object is read by its members. -/
theorem Reads.record {member : String → σ → Decoder σ} {s t : σ} {values : List (String × Json)}
    {finish : σ → Decoder α} {a : α} (h : Feeds member s values t)
    (hfinish : ∀ rest, (finish t).Takes [] a rest) (expected : String) (asList : Decoder α) :
    (Decoder.record expected (members member s >>= finish) asList).Reads (.object values) a := by
  intro blank cs rest hb hs hr
  cases hs with
  | object hmembers =>
      rename_i body
      have htakes : (members member s).Takes (encode body) t (0x7D :: rest) := by
        intro p
        refine h.takes hmembers ?_ rest p
        rw [List.length_append]
        omega
      have hinside := Takes.bind_end htakes (hfinish (0x7D :: rest))
      have henclosed := Takes.enclosed hinside (takes_closeObject rest)
      apply Takes.blank hb.isSpace
      rw [encode_cons, encode_append]
      exact Takes.peekValue_bind rfl (Takes.located (Takes.advance_bind 0x7B henclosed))

theorem Reads.record_map {member : String → σ → Decoder σ} {s t : σ}
    {values : List (String × Json)} {f : σ → α} {expected : String} {asList : Decoder α}
    (h : Feeds member s values t) :
    (Decoder.record expected (do return f (← members member s)) asList).Reads (.object values)
      (f t) :=
  .record h (fun rest => takes_pure (f t) rest) expected asList

/-- An object with members of any names. -/
theorem Reads.dictionary {member : String → σ → Decoder σ} {s t : σ}
    {values : List (String × Json)} (h : Feeds member s values t) :
    (Decoder.dictionary member s).Reads (.object values) t := by
  intro blank cs rest hb hs hr
  cases hs with
  | object hmembers =>
      apply Takes.blank hb.isSpace
      rw [encode_cons, encode_append]
      exact takes_dictionary fun fuel hfuel => h.takes hmembers hfuel rest

theorem ReadsMember.memberValue {value : Decoder α} {v : Json} {a : α} (h : value.Reads v a) :
    (Decoder.memberValue value).ReadsMember v a := by
  intro before behind cs rest hb hb' hs hr
  exact takes_memberValue hb.isSpace (h hb' hs hr)

/-- White space may stand before and behind the value of a document. -/
theorem Reads.document_blank {d : Decoder α} {v : Json} {a : α} (h : d.Reads v a)
    {before cs behind : List Char} (hb : Blank before) (hs : Spells v cs) (hb' : Blank behind) :
    Decoder.document d (encode (before ++ cs ++ behind)) = .ok a := by
  have hend : Delimits (encode behind) := fun b hmem =>
    .inl (hb'.isSpace b (List.mem_of_mem_head? hmem))
  rw [encode_append, encode_append]
  exact document_eq_ok (h hb hs hend) hb'.isSpace

/-- What a decoder reads a value as, it reads a document of the value as. -/
theorem Reads.document {d : Decoder α} {v : Json} {a : α} (h : d.Reads v a) {cs : List Char}
    (hs : Spells v cs) : Decoder.document d (encode cs) = .ok a := by
  simpa using h.document_blank blank_nil hs blank_nil

end Provision.Json.Decoder
