import Provision.Proofs.Json.Answers

namespace Provision.Json

/-!
# What lists and records are read as

A list is read as the list of what its items are read as, and an object as what its members lead to
one after the other.  If one part of a datum is refused, so is the datum.
-/

section

variable {α β : Type} {f : α → Option β}

theorem mapM_cons (f : α → Option β) (a : α) (as : List α) :
    (a :: as).mapM f = (f a).bind fun b => (as.mapM f).map (b :: ·) := by
  rw [List.mapM_cons]
  cases f a <;> cases as.mapM f <;> rfl

theorem mapM_eq_some_iff {as : List α} {bs : List β} :
    as.mapM f = some bs ↔ List.Forall₂ (fun a b => f a = some b) as bs := by
  induction as generalizing bs with
  | nil =>
      constructor
      · rintro ⟨⟩
        exact .nil
      · rintro ⟨⟩
        rfl
  | cons a as ih =>
      rw [mapM_cons, Option.bind_eq_some_iff]
      constructor
      · rintro ⟨b, hb, h⟩
        obtain ⟨bs, hbs, rfl⟩ := Option.map_eq_some_iff.mp h
        exact .cons hb (ih.mp hbs)
      · rintro (_ | ⟨hb, hbs⟩)
        exact ⟨_, hb, Option.map_eq_some_iff.mpr ⟨_, ih.mpr hbs, rfl⟩⟩

theorem mapM_eq_none {as : List α} {a : α} (hmem : a ∈ as) (h : f a = none) :
    as.mapM f = none := by
  induction as with
  | nil => cases hmem
  | cons b as ih =>
      rw [mapM_cons]
      rcases List.mem_cons.mp hmem with rfl | hmem
      · rw [h]
        rfl
      · rw [ih hmem]
        cases f b <;> rfl

end

namespace Datum

def items? : Datum → Option (List Datum)
  | list items => some items
  | _ => none

def record? {α : Type} (asObject : List (Quoted × Datum) → Option α)
    (asList : List Datum → Option α) : Datum → Option α
  | object members => asObject members
  | list items => asList items
  | _ => none

theorem record?_eq_none {α : Type} {asObject : List (Quoted × Datum) → Option α}
    {asList : List Datum → Option α} {v : Datum} (h : ∀ members, v ≠ object members)
    (h' : ∀ items, v ≠ list items) : v.record? asObject asList = none := by
  cases v with
  | object members => exact absurd rfl (h members)
  | list items => exact absurd rfl (h' items)
  | _ => rfl

/-- What is known of a field behind some members: it may be given once, and no key may be torn. -/
def field? {α : Type} (name : String) (read : Datum → Option α) :
    Option α → List (Quoted × Datum) → Option (Option α)
  | before, [] => some before
  | _, (.torn, _) :: _ => none
  | before, (.text key, v) :: members =>
    if key = name then
      if before.isSome then none else (read v).bind fun a => field? name read (some a) members
    else field? name read before members

/-- What a member makes of two fields; a member of another name is passed over. -/
def next? {α β : Type} (first second : String) (f : Datum → Option α) (g : Datum → Option β)
    (s : Option α × Option β) (m : String × Datum) : Option (Option α × Option β) :=
  if m.1 = first then (if s.1.isSome then none else (f m.2).map some).map (·, s.2)
  else if m.1 = second then (if s.2.isSome then none else (g m.2).map some).map (s.1, ·)
  else some s

def member? {σ : Type} (next : σ → String × Datum → Option σ) (s : σ) (m : Quoted × Datum) :
    Option σ :=
  m.1.text?.bind fun key => next s (key, m.2)

section

variable {α β : Type} {name first second : String} {f : Datum → Option α} {g : Datum → Option β}

/-- Each of the two fields is read as if it were the only one. -/
theorem foldlM_next? (hne : first ≠ second) (s : Option α × Option β)
    (members : List (Quoted × Datum)) :
    members.foldlM (member? (next? first second f g)) s =
      (field? first f s.1 members).bind fun a => (field? second g s.2 members).map (a, ·) := by
  induction members generalizing s with
  | nil => rfl
  | cons m members ih =>
      obtain ⟨key | _, v⟩ := m
      case torn => rfl
      obtain ⟨x, y⟩ := s
      rw [List.foldlM_cons]
      by_cases hfirst : key = first
      · have hsecond : key ≠ second := hfirst ▸ hne
        rcases x with - | a
        · rcases hv : f v with - | a
          · simp [member?, Quoted.text?, next?, field?, hfirst, hv]
          · simp [member?, Quoted.text?, next?, field?, hfirst, hne, hv, ih]
        · simp [member?, Quoted.text?, next?, field?, hfirst]
      by_cases hsecond : key = second
      · rcases y with - | b
        · rcases hv : g v with - | b
          · simp [member?, Quoted.text?, next?, field?, hsecond, hne.symm, hv]
          · simp [member?, Quoted.text?, next?, field?, hsecond, hne.symm, hv, ih]
        · simp [member?, Quoted.text?, next?, field?, hsecond, hne.symm]
      · simp [member?, Quoted.text?, next?, field?, hfirst, hsecond, ih]

/-- At most one member has the name, and its value is the one given; no key is torn. -/
structure Holds (name : String) (o : Option Datum) (members : List (Quoted × Datum)) : Prop where
  given : members.filter (·.1 = .text name) = o.toList.map (.text name, ·)
  whole : ∀ m ∈ members, m.1 ≠ .torn

theorem Holds.of_cons {key : String} {v : Datum} {members : List (Quoted × Datum)}
    {o : Option Datum} (h : Holds name o ((.text key, v) :: members)) (hkey : key ≠ name) :
    Holds name o members where
  given := by simpa [hkey] using h.given
  whole := (List.forall_mem_cons.mp h.whole).2

theorem Holds.field?_eq_some {members : List (Quoted × Datum)} (h : Holds name none members)
    (before : Option α) : field? name f before members = some before := by
  induction members with
  | nil => rfl
  | cons m members ih =>
      obtain ⟨key | _, v⟩ := m
      case torn => exact absurd rfl (h.whole _ List.mem_cons_self)
      by_cases hkey : key = name
      · simpa [hkey] using h.given
      · rw [field?, if_neg hkey]
        exact ih (h.of_cons hkey)

/-- What is known of a field is what its only member says. -/
theorem Holds.field?_eq {members : List (Quoted × Datum)} {o : Option Datum}
    (h : Holds name o members) :
    field? name f none members = o.elim (some none) fun v => (f v).map some := by
  cases o with
  | none => exact h.field?_eq_some none
  | some v =>
      induction members with
      | nil => cases h.given
      | cons m members ih =>
          obtain ⟨key | _, w⟩ := m
          case torn => exact absurd rfl (h.whole _ List.mem_cons_self)
          by_cases hkey : key = name
          · obtain ⟨rfl, hrest⟩ : w = v ∧ members.filter (·.1 = .text name) = [] := by
              simpa [hkey] using h.given
            have hothers : Holds name none members :=
              ⟨hrest, (List.forall_mem_cons.mp h.whole).2⟩
            have hread (a : α) : field? name f (some a) members = some (some a) :=
              hothers.field?_eq_some (some a)
            cases hv : f w <;> simp [field?, hkey, hread, hv]
          · rw [field?, if_neg hkey]
            exact ih (h.of_cons hkey)

/-- One value that is refused is enough. -/
theorem field?_eq_none {members : List (Quoted × Datum)} {v : Datum}
    (hmem : (.text name, v) ∈ members) (hv : f v = none) (before : Option α) :
    field? name f before members = none := by
  induction members generalizing before with
  | nil => cases hmem
  | cons m members ih =>
      obtain ⟨key | _, w⟩ := m
      case torn => rfl
      by_cases hkey : key = name
      · rw [field?, if_pos hkey]
        split_ifs
        · rfl
        rcases List.mem_cons.mp hmem with hhead | hrest
        · obtain ⟨-, rfl⟩ := Prod.mk.inj hhead
          rw [hv]
          rfl
        · cases f w with
          | none => rfl
          | some a => exact ih hrest (some a)
      · have hrest : (.text name, v) ∈ members := by
          refine (List.mem_cons.mp hmem).resolve_left ?_
          rintro ⟨⟩
          exact hkey rfl
        rw [field?, if_neg hkey]
        exact ih hrest before

/-- So is one key that is torn. -/
theorem field?_eq_none_of_torn {members : List (Quoted × Datum)} {v : Datum}
    (hmem : (.torn, v) ∈ members) (before : Option α) : field? name f before members = none := by
  induction members generalizing before with
  | nil => cases hmem
  | cons m members ih =>
      obtain ⟨key | _, w⟩ := m
      case torn => rfl
      have hrest : (.torn, v) ∈ members := by simpa using hmem
      rw [field?]
      split_ifs
      · rfl
      · cases f w with
        | none => rfl
        | some a => exact ih hrest (some a)
      · exact ih hrest before

end

end Datum

namespace Decoder

variable {α β σ : Type} {bs cs rest : List UInt8}

/-! ## Lists -/

/-- The items are decided one after the other, up to the first that is refused. -/
theorem answers_itemsUpTo {item : Decoder α} {f : Datum → Option α} (h : ∀ v, item.Decides v (f v))
    {first : Bool} {vs : List Datum} {cs : List Char} (hs : Datum.ItemsSpell first vs cs)
    {fuel : Nat} (hfuel : (encode cs).length < fuel) (rest : List UInt8) :
    (itemsUpTo item fuel first).Answers (encode cs) (0x5D :: rest) (vs.mapM f) := by
  induction vs generalizing first cs fuel with
  | nil =>
      obtain ⟨fuel, rfl⟩ := Nat.exists_eq_add_one_of_ne_zero (Nat.ne_zero_of_lt hfuel)
      obtain ⟨hblank⟩ := hs
      exact takes_itemsUpTo_nil (takes_hasItem_end first hblank.isSpace rest)
  | cons v vs ih =>
      obtain ⟨fuel, rfl⟩ := Nat.exists_eq_add_one_of_ne_zero (Nat.ne_zero_of_lt hfuel)
      obtain _ | ⟨hsep, hspells, hitems⟩ := hs
      rename_i sep body more
      obtain ⟨b, bs, hbytes, hopen⟩ := hspells.exists_cons
      have hhas : (hasItem first).Takes (encode sep) true
          ((encode body ++ encode more) ++ 0x5D :: rest) := by
        rw [hbytes]
        exact takes_hasItem hsep hopen.not_space hopen.ne_close _
      have hmore : (encode more).length < fuel := by
        simp only [encode_append, hbytes, List.length_append, List.length_cons] at hfuel
        omega
      have hvalue := h v blank_nil hspells (hitems.delimits rest)
      rw [encode_append, encode_append, mapM_cons]
      exact hhas.bind_answers (hvalue.bind fun a _ => (ih hitems hmore).map (a :: ·))

/-- What is still to be read is fuel enough. -/
theorem answers_of_fuel {d : Nat → Decoder α} {o : Option α}
    (h : ∀ fuel, bs.length < fuel → (d fuel).Answers bs rest o) :
    Answers (fun k => d (k.rest.length + 1) k) bs rest o := by
  have hfuel : bs.length < (bs ++ rest).length + 1 := by
    rw [List.length_append]
    omega
  have hanswers := h _ hfuel
  cases o with
  | some a => exact fun p => hanswers p
  | none => exact fun p => hanswers p

theorem Answers.advance_bind {d : Decoder α} {o : Option α} (b : UInt8) (h : d.Answers bs rest o) :
    (advance >>= fun _ => d).Answers (b :: bs) rest o :=
  Takes.bind_answers (takes_advance b (bs ++ rest)) h

theorem Decides.list {item : Decoder α} {f : Datum → Option α} (h : ∀ v, item.Decides v (f v))
    (v : Datum) : (Decoder.list item).Decides v (v.items?.bind fun vs => vs.mapM f) := by
  apply decides_of_peek
  intro cs b more rest hv hbytes hopen hr
  by_cases hlist : b = 0x5B
  · subst hlist
    obtain ⟨vs, rfl⟩ := hopen.eq_list
    obtain _ | _ | _ | _ | _ | hitems := hv
    rename_i body
    have hinside : (items item).Answers (encode body) (0x5D :: rest) (vs.mapM f) :=
      answers_of_fuel fun fuel hfuel => answers_itemsUpTo h hitems hfuel rest
    have henclosed := hinside.enclosed (takes_closeList rest)
    rw [encode_cons, encode_append]
    exact (henclosed.advance_bind 0x5B).located
  · have hnone : v.items? = none := by
      cases v with
      | list vs => exact absurd hopen hlist
      | _ => rfl
    rw [hnone]
    split
    · simp_all
    · simp_all
    · exact answers_of_fails (fails_unexpected _) _ rest

def DecidesItems (first : Bool) (inside : Decoder α) (vs : List Datum) (o : Option α) : Prop :=
  ∀ ⦃cs : List Char⦄ ⦃rest : List UInt8⦄, Datum.ItemsSpell first vs cs →
    (Decoder.enclosed inside closeList).Answers (encode cs ++ [0x5D]) rest o

theorem fails_closeList {blank : List Char} (hb : Blank blank) (bytes : List UInt8) :
    closeList.Fails (encode blank ++ 0x2C :: bytes) := by
  have hpeek : peekValue.Takes (encode blank) (some 0x2C) (0x2C :: bytes) :=
    Takes.peekValue_blank hb.isSpace rfl (takes_pure (some 0x2C) _)
  refine hpeek.bind_gives (gives_bind _ (fun _ => gives_bind _ fun o bytes => ?_) _)
  split
  · exact gives_failNext _ bytes
  · exact gives_failNext _ bytes

/-- A list with further items is not closed. -/
theorem decidesItems_pure (a : α) (vs : List Datum) :
    DecidesItems false (pure a) vs (if vs.isEmpty then some a else none) := by
  intro cs rest hs
  cases hs with
  | nil hblank =>
      have hclose : closeList.Takes (encode cs ++ [0x5D]) () rest :=
        Takes.blank hblank.isSpace (takes_closeList rest)
      have h : (Decoder.enclosed (pure a) closeList).Takes ([] ++ (encode cs ++ [0x5D])) a rest :=
        Takes.enclosed (takes_pure a _) hclose
      exact h
  | @cons _ v items sep body more hsep hspells hitems =>
      obtain _ | ⟨hbefore, hbehind⟩ := hsep
      rename_i before behind
      have hclose := fails_closeList hbefore (encode (behind ++ (body ++ more)) ++ ([0x5D] ++ rest))
      have h : (Decoder.enclosed (pure a) closeList).Fails _ :=
        Takes.enclosed_fails (takes_pure a _) hclose
      have hcomma : String.utf8EncodeChar ',' = [0x2C] := rfl
      simpa [Answers, encode_append, hcomma] using h

theorem Takes.enclosed_bind {d : Decoder β} {f : β → Decoder α} {close : Decoder Unit} {b : β}
    {o : Option α} (hd : d.Takes bs b (cs ++ rest))
    (hf : (Decoder.enclosed (f b) close).Answers cs rest o) :
    (Decoder.enclosed (d >>= f) close).Answers (bs ++ cs) rest o := by
  have hrun (p : Place) : Decoder.enclosed (d >>= f) close ⟨p, bs ++ (cs ++ rest)⟩ =
      Decoder.enclosed (f b) close ⟨reach p bs, cs ++ rest⟩ := by
    simp only [Decoder.enclosed, Bind.bind, EStateM.bind, hd p]
  cases o with
  | some a =>
      intro p
      rw [List.append_assoc, hrun, hf (reach p bs), reach_append]
  | none =>
      intro p a k h
      rw [List.append_assoc, hrun] at h
      exact hf _ a k h

theorem DecidesItems.nil {f : Bool → Decoder α} {o : Option α}
    (h : ∀ rest, (f false).Answers [] rest o) (first : Bool) :
    DecidesItems first (hasItem first >>= f) [] o := by
  intro cs rest hs
  obtain ⟨hblank⟩ := hs
  have hhas : (hasItem first).Takes (encode cs) false ([0x5D] ++ rest) :=
    takes_hasItem_end first hblank.isSpace rest
  exact hhas.enclosed_bind ((h ([0x5D] ++ rest)).enclosed (takes_closeList rest))

theorem DecidesItems.cons {f : Bool → Decoder α} {d : Decoder β} {k : β → Decoder α} {v : Datum}
    {vs : List Datum} {o : Option β} {g : β → Option α} (hf : f true = d >>= k)
    (hd : d.Decides v o) (hk : ∀ b, o = some b → DecidesItems false (k b) vs (g b))
    (first : Bool) : DecidesItems first (hasItem first >>= f) (v :: vs) (o.bind g) := by
  intro cs rest hs
  obtain _ | ⟨hsep, hspells, hitems⟩ := hs
  rename_i sep body more
  obtain ⟨b, bs, hbytes, hopen⟩ := hspells.exists_cons
  have hhas : (hasItem first).Takes (encode sep) true
      ((encode body ++ (encode more ++ [0x5D])) ++ rest) := by
    rw [hbytes]
    exact takes_hasItem hsep hopen.not_space hopen.ne_close _
  have hvalue : d.Answers (encode body) ((encode more ++ [0x5D]) ++ rest) o := by
    have hr := hitems.delimits rest
    simpa using hd blank_nil hspells (by simpa using hr)
  have hinside : (Decoder.enclosed (f true) closeList).Answers
      (encode body ++ (encode more ++ [0x5D])) rest (o.bind g) := by
    rw [hf]
    cases o with
    | some b => exact Takes.enclosed_bind hvalue (hk b rfl hitems)
    | none =>
        have hfails : (Decoder.enclosed (d >>= k) closeList).Fails
            (encode body ++ ((encode more ++ [0x5D]) ++ rest)) :=
          Fails.enclosed (Gives.bind hvalue fun _ => False.elim) closeList
        rwa [← List.append_assoc] at hfails
  have hboth := hhas.enclosed_bind hinside
  simpa [encode_append] using hboth

/-! ## Objects -/

def DecidesMember (d : Decoder σ) (v : Datum) (o : Option σ) : Prop :=
  ∀ ⦃before behind cs : List Char⦄ ⦃rest : List UInt8⦄, Blank before → Blank behind → v.Spells cs →
    Delimits rest → d.Answers (encode before ++ 0x3A :: (encode behind ++ encode cs)) rest o

theorem Decides.memberValue {value : Decoder α} {v : Datum} {o : Option α} (h : value.Decides v o) :
    (Decoder.memberValue value).DecidesMember v o := by
  intro before behind cs rest hb hb' hv hr
  have hpeek : peekValue.Takes (encode before) (some 0x3A)
      ((0x3A :: (encode behind ++ encode cs)) ++ rest) :=
    Takes.peekValue_blank hb.isSpace rfl (takes_pure (some 0x3A) _)
  exact hpeek.bind_answers (.advance_bind 0x3A (h hb' hv hr))

theorem DecidesMember.map {d : Decoder α} {v : Datum} {o : Option α} (h : d.DecidesMember v o)
    (f : α → σ) : (do return f (← d)).DecidesMember v (o.map f) :=
  fun _ _ _ _ hb hb' hv hr => (h hb hb' hv hr).map f

/-- A field that has been read before is not read again. -/
theorem Decides.fieldValue {value : Decoder α} {v : Datum} {o : Option α} (h : value.Decides v o)
    (name : String) (before : Option α) :
    (Decoder.fieldValue name before value).DecidesMember v
      (if before.isSome then none else o.map some) := by
  cases before with
  | some a =>
      intro before behind cs rest hb hb' hv hr
      exact answers_of_fails
        (fun bytes => Gives.bind (gives_fail _ bytes) fun _ => False.elim) _ rest
  | none => exact h.memberValue.map some

/-- A record with two fields passes over the members of other names. -/
theorem decidesMember_next? {d : Decoder α} {e : Decoder β} {f : Datum → Option α}
    {g : Datum → Option β} (hd : ∀ v, d.Decides v (f v)) (he : ∀ v, e.Decides v (g v))
    (first second key : String) (s : Option α × Option β) (v : Datum) :
    DecidesMember (do
        if key = first then return (← Decoder.fieldValue key s.1 d, s.2)
        else if key = second then return (s.1, ← Decoder.fieldValue key s.2 e)
        else
          Decoder.memberValue ignored
          return s)
      v (Datum.next? first second f g s (key, v)) := by
  unfold Datum.next?
  dsimp only
  by_cases hfirst : key = first
  · rw [if_pos hfirst, if_pos hfirst]
    exact ((hd v).fieldValue key s.1).map (·, s.2)
  by_cases hsecond : key = second
  · rw [if_neg hfirst, if_neg hfirst, if_pos hsecond, if_pos hsecond]
    exact ((he v).fieldValue key s.2).map (s.1, ·)
  · rw [if_neg hfirst, if_neg hfirst, if_neg hsecond, if_neg hsecond]
    exact (decides_ignored v).memberValue.map fun _ => s

/-- Each member is decided with what is known from those before it. -/
theorem answers_membersUpTo {member : String → σ → Decoder σ} {next : σ → String × Datum → Option σ}
    (h : ∀ key s v, (member key s).DecidesMember v (next s (key, v))) {first : Bool} {s : σ}
    {ms : List (Quoted × Datum)} {cs : List Char} (hs : Datum.MembersSpell first ms cs) {fuel : Nat}
    (hfuel : (encode cs).length < fuel) (rest : List UInt8) :
    (membersUpTo member fuel first s).Answers (encode cs) (0x7D :: rest)
      (ms.foldlM (Datum.member? next) s) := by
  induction ms generalizing first s cs fuel with
  | nil =>
      obtain ⟨fuel, rfl⟩ := Nat.exists_eq_add_one_of_ne_zero (Nat.ne_zero_of_lt hfuel)
      obtain ⟨hblank⟩ := hs
      exact takes_membersUpTo_nil (takes_hasMember_end first hblank.isSpace rest)
  | cons m ms ih =>
      obtain ⟨fuel, rfl⟩ := Nat.exists_eq_add_one_of_ne_zero (Nat.ne_zero_of_lt hfuel)
      obtain _ | ⟨hsep, hk, hb, hb', hspells, hmembers⟩ := hs
      rename_i q v sep ks blank blank' body more
      obtain ⟨bytes, hbytes, htext⟩ := answers_text hk
        ((encode blank ++ 0x3A :: (encode blank' ++ encode body)) ++ encode more ++ 0x7D :: rest)
      rw [encode_member hbytes] at hfuel ⊢
      have hmore : (encode more).length < fuel := by
        simp only [List.length_append, List.length_cons] at hfuel
        omega
      have hbehind (key : String) : (do membersUpTo member fuel false (← member key s)).Answers
          ((encode blank ++ 0x3A :: (encode blank' ++ encode body)) ++ encode more)
          (0x7D :: rest) ((next s (key, v)).bind fun t => ms.foldlM (Datum.member? next) t) :=
        (h key s v hb hb' hspells (hmembers.delimits rest)).bind fun t _ => ih hmembers hmore
      have hkey := htext.bind (f := fun key => do
        membersUpTo member fuel false (← member key s)) fun key _ => hbehind key
      have hhas := takes_hasMember hsep ((bytes ++ ((encode blank ++ 0x3A ::
        (encode blank' ++ encode body)) ++ encode more)) ++ 0x7D :: rest)
      rw [← List.cons_append] at hhas
      rw [List.foldlM_cons, Datum.member?, Option.bind_eq_bind, Option.bind_assoc]
      exact hhas.bind_answers (hkey.advance_bind 0x22)

theorem answers_members {member : String → σ → Decoder σ} {next : σ → String × Datum → Option σ}
    (h : ∀ key s v, (member key s).DecidesMember v (next s (key, v))) (s : σ)
    {ms : List (Quoted × Datum)} {cs : List Char} (hs : Datum.MembersSpell true ms cs)
    (rest : List UInt8) :
    (members member s).Answers (encode cs) (0x7D :: rest) (ms.foldlM (Datum.member? next) s) :=
  answers_of_fuel fun _ hfuel => answers_membersUpTo h hs hfuel rest

/-- A record is decided by what stands in its braces, or in the brackets of the list of its
values. -/
theorem Decides.record {asObject asList : Decoder α} {f : List (Quoted × Datum) → Option α}
    {g : List Datum → Option α}
    (hobject : ∀ ms cs rest, Datum.MembersSpell true ms cs →
      asObject.Answers (encode cs) (0x7D :: rest) (f ms))
    (hlist : ∀ vs cs rest, Datum.ItemsSpell true vs cs →
      (enclosed asList closeList).Answers (encode cs ++ [0x5D]) rest (g vs))
    (expected : String) (v : Datum) :
    (Decoder.record expected asObject asList).Decides v (v.record? f g) := by
  apply decides_of_peek
  intro cs b more rest hv hbytes hopen hr
  by_cases hbrace : b = 0x7B
  · subst hbrace
    obtain ⟨ms, rfl⟩ := hopen.eq_object
    obtain _ | _ | _ | _ | _ | _ | hmembers := hv
    have henclosed := (hobject ms _ rest hmembers).enclosed (takes_closeObject rest)
    rw [encode_cons, encode_append]
    exact (henclosed.advance_bind 0x7B).located
  by_cases hbracket : b = 0x5B
  · subst hbracket
    obtain ⟨vs, rfl⟩ := hopen.eq_list
    obtain _ | _ | _ | _ | _ | hitems | _ := hv
    rw [encode_cons, encode_append]
    exact ((hlist vs _ rest hitems).advance_bind 0x5B).located
  · have hnone : v.record? f g = none := by
      apply Datum.record?_eq_none
      · rintro ms rfl
        exact hbrace hopen
      · rintro vs rfl
        exact hbracket hopen
    rw [hnone]
    split
    · simp_all
    · simp_all
    · simp_all
    · exact answers_of_fails (fails_unexpected _) _ rest

/-! ## Documents -/

/-- White space around a datum does not count. -/
theorem Decides.document {d : Decoder α} {v : Datum} {o : Option α} (h : d.Decides v o)
    {before cs behind : List Char} (hb : Blank before) (hs : v.Spells cs) (hb' : Blank behind) :
    (Decoder.document d (encode (before ++ cs ++ behind))).toOption = o := by
  have hend : Delimits (encode behind) := fun b hmem =>
    .inl (hb'.isSpace b (List.mem_of_mem_head? hmem))
  have hanswers := h hb hs hend
  rw [encode_append, encode_append]
  cases o with
  | some a => rw [document_eq_ok hanswers hb'.isSpace]; rfl
  | none =>
      rcases hrun : d (Cursor.start (encode before ++ encode cs ++ encode behind)) with
        ⟨a, k⟩ | ⟨failure, k⟩
      · exact (hanswers _ a k hrun).elim
      · simp only [Decoder.document, Bind.bind, EStateM.bind, hrun]
        rfl

end Decoder

end Provision.Json
