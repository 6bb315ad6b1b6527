import Provision.Configuration.Basic
import Provision.Proofs.Json.Reading
import Provision.Proofs.Text.Search
import Provision.Server.Page

namespace Provision.Page

/-!
# The injected configuration

In a JSON text `<` and `/` stand next to each other only within a string, and there a backslash
before `/` changes nothing.  So what is injected is another text of the same value.
-/

/-! ## What is kept apart -/

theorem guardClosings_cons (c : Char) (cs : List Char) :
    guardClosings (c :: cs) =
      c :: if c = '<' ∧ cs.head? = some '/' then '\\' :: guardClosings cs
        else guardClosings cs := by
  by_cases h : c = '<' ∧ cs.head? = some '/'
  · obtain ⟨rfl, hhead⟩ := h
    obtain ⟨rest, rfl⟩ := List.head?_eq_some_iff.mp hhead
    rw [if_pos ⟨rfl, rfl⟩, guardClosings, guardClosings]
    simp
  · rw [if_neg h, guardClosings]
    intro rest hc hcs
    exact h ⟨hc, by rw [hcs]; rfl⟩

theorem guardClosings_cons_of_ne {c : Char} (hc : c ≠ '<') (cs : List Char) :
    guardClosings (c :: cs) = c :: guardClosings cs := by
  simp [guardClosings_cons, hc]

theorem head?_guardClosings (cs : List Char) : (guardClosings cs).head? = cs.head? := by
  cases cs with
  | nil => rfl
  | cons c cs => rw [guardClosings_cons]; rfl

theorem guardClosings_append {cs : List Char} (h : '<' ∉ cs) (rest : List Char) :
    guardClosings (cs ++ rest) = cs ++ guardClosings rest := by
  induction cs with
  | nil => rfl
  | cons c cs ih =>
      obtain ⟨hc, hcs⟩ := List.ne_and_not_mem_of_not_mem_cons h
      rw [List.cons_append, guardClosings_cons_of_ne (Ne.symm hc), ih hcs]
      rfl

/-- In what has been guarded no end tag can begin. -/
theorem not_infix_guardClosings (cs : List Char) : ¬ ['<', '/'] <:+: guardClosings cs := by
  induction cs with
  | nil => simp [guardClosings]
  | cons c cs ih =>
      rw [guardClosings_cons]
      split
      · rw [List.infix_cons_iff, List.infix_cons_iff, not_or, not_or]
        refine ⟨by simp, by simp, ih⟩
      · rename_i h
        rw [List.infix_cons_iff, not_or]
        refine ⟨?_, ih⟩
        intro hbegins
        obtain ⟨hc, hslash⟩ := List.cons_prefix_cons.mp hbegins
        have hhead : (guardClosings cs).head? = some '/' := by
          obtain ⟨rest, hrest⟩ := hslash
          rw [← hrest]
          rfl
        rw [head?_guardClosings] at hhead
        exact h ⟨hc.symm, hhead⟩

/-! ## Guarding a JSON text -/

/-- Wherever the characters stand, unless `/` follows, guarding makes the others of them; and they
do not begin with `/` themselves. -/
def Guards (cs cs' : List Char) : Prop :=
  ∀ rest : List Char, rest.head? ≠ some '/' →
    guardClosings (cs ++ rest) = cs' ++ guardClosings rest ∧ (cs ++ rest).head? ≠ some '/'

theorem guards_self {cs : List Char} (h : '<' ∉ cs) (h' : '/' ∉ cs) : Guards cs cs := by
  intro rest hrest
  refine ⟨guardClosings_append h rest, ?_⟩
  cases cs with
  | nil => exact hrest
  | cons c cs => simpa using Ne.symm (List.ne_of_not_mem_cons h')

theorem Guards.append {cs cs' ds ds' : List Char} (h : Guards cs cs') (h' : Guards ds ds') :
    Guards (cs ++ ds) (cs' ++ ds') := by
  intro rest hrest
  obtain ⟨hds, hhead⟩ := h' rest hrest
  obtain ⟨hcs, hhead'⟩ := h (ds ++ rest) hhead
  rw [List.append_assoc, List.append_assoc, hcs, hds]
  exact ⟨rfl, hhead'⟩

theorem Guards.cons {cs cs' : List Char} (h : Guards cs cs') {c : Char} (hc : c ≠ '<')
    (hc' : c ≠ '/') : Guards (c :: cs) (c :: cs') := by
  have hself : Guards [c] [c] :=
    guards_self (by simpa using Ne.symm hc) (by simpa using Ne.symm hc')
  exact hself.append h

theorem Guards.eq {cs cs' : List Char} (h : Guards cs cs') : guardClosings cs = cs' := by
  have hnil := (h [] (by simp)).1
  simpa [guardClosings] using hnil

theorem guards_blank {cs : List Char} (h : Json.Blank cs) : Guards cs cs := by
  refine guards_self ?_ ?_
  · intro hc
    rcases h _ hc with h | h | h | h <;> exact absurd h (by decide)
  · intro hc
    rcases h _ hc with h | h | h | h <;> exact absurd h (by decide)

theorem guards_separates {first : Bool} {sep : List Char} (h : Json.Separates first sep) :
    Guards sep sep := by
  cases h with
  | first h => exact guards_blank h
  | later h h' => exact (guards_blank h).append ((guards_blank h').cons (by decide) (by decide))

theorem notMem_of_codeUnit {n : Nat} {ds : List Char} (h : Json.CodeUnit n ds) : '<' ∉ ds := by
  obtain ⟨ha, hb, hc, hd⟩ := h
  intro hmem
  have hnone : Json.hexDigit? '<' = none := rfl
  simp only [List.mem_cons, List.not_mem_nil, or_false] at hmem
  rcases hmem with rfl | rfl | rfl | rfl <;> simp_all

/-- Only a character that stands for itself is spelled with `<`. -/
theorem eq_of_mem_spelling {c : Char} {cs : List Char} (h : Json.SpellsChar c cs)
    (hmem : '<' ∈ cs) : cs = ['<'] := by
  cases h with
  | plain => rw [List.mem_singleton.mp hmem]
  | short h =>
      have hnone : Json.shortEscape? '<' = none := rfl
      simp only [List.mem_cons, List.not_mem_nil, or_false] at hmem
      rcases hmem with hmem | rfl
      · exact absurd hmem (by decide)
      · rw [hnone] at h
        cases h
  | unit h => simp [notMem_of_codeUnit h] at hmem
  | pair h h' => simp [notMem_of_codeUnit h, notMem_of_codeUnit h'] at hmem

theorem spellsChars_escape_slash {s cs : List Char} (h : Json.SpellsChars s cs)
    (hcs : cs.head? = some '/') : Json.SpellsChars s ('\\' :: cs) := by
  cases h with
  | nil => cases hcs
  | cons hc hs =>
      cases hc with
      | plain =>
          obtain rfl := Option.some.inj hcs
          have hslash : Json.SpellsChar '/' ['\\', '/'] := .short rfl
          exact .cons hslash hs
      | short => exact absurd (Option.some.inj hcs) (by decide)
      | unit => exact absurd (Option.some.inj hcs) (by decide)
      | pair => exact absurd (Option.some.inj hcs) (by decide)

/-- A slash may be spelled with a backslash before it, so that what has been guarded spells the same
characters. What follows them must not begin with a slash, before which a `<` at the end would be
guarded. -/
theorem exists_guarded_chars {s cs : List Char} (h : Json.SpellsChars s cs) :
    ∃ cs', Json.SpellsChars s cs' ∧ ∀ rest : List Char, rest.head? ≠ some '/' →
      guardClosings (cs ++ rest) = cs' ++ guardClosings rest := by
  induction h with
  | nil => exact ⟨[], .nil, fun rest _ => rfl⟩
  | cons hc hs ih =>
      rename_i c cs s more
      obtain ⟨more', hmore', hguard⟩ := ih
      by_cases hlt : '<' ∈ cs
      · -- what follows `<` decides whether a backslash is put between them
        obtain rfl := eq_of_mem_spelling hc hlt
        by_cases hslash : more.head? = some '/'
        · have hhead : more'.head? = some '/' := by
            have hmore := hguard [] (by simp)
            rw [List.append_nil, guardClosings, List.append_nil] at hmore
            rw [← hmore, head?_guardClosings, hslash]
          refine ⟨'<' :: '\\' :: more', .cons hc (spellsChars_escape_slash hmore' hhead), ?_⟩
          intro rest hrest
          have hnext : (more ++ rest).head? = some '/' := by simp [hslash]
          rw [List.append_assoc, List.singleton_append, guardClosings_cons, if_pos ⟨rfl, hnext⟩,
            hguard rest hrest]
          rfl
        · refine ⟨'<' :: more', .cons hc hmore', ?_⟩
          intro rest hrest
          have hnext : (more ++ rest).head? ≠ some '/' := by
            cases more with
            | nil => exact hrest
            | cons d more => simpa using hslash
          rw [List.append_assoc, List.singleton_append, guardClosings_cons,
            if_neg (fun h => hnext h.2), hguard rest hrest]
          rfl
      · refine ⟨cs ++ more', .cons hc hmore', ?_⟩
        intro rest hrest
        rw [List.append_assoc, guardClosings_append hlt, hguard rest hrest, List.append_assoc]

theorem exists_guarded_text {s : String} {cs : List Char} (h : Json.SpellsText s cs) :
    ∃ cs', Json.SpellsText s cs' ∧ Guards cs cs' := by
  obtain ⟨h⟩ := h
  obtain ⟨body', hbody', hguard⟩ := exists_guarded_chars h
  refine ⟨'"' :: (body' ++ ['"']), .quoted hbody', ?_⟩
  intro rest hrest
  refine ⟨?_, by simp⟩
  have hquote : ('"' :: rest).head? ≠ some '/' := by simp
  rw [List.cons_append, List.append_assoc, List.singleton_append,
    guardClosings_cons_of_ne (by decide), hguard _ hquote, guardClosings_cons_of_ne (by decide)]
  simp

mutual

theorem exists_guarded {v : Json} {cs : List Char} (h : Json.Spells v cs) :
    ∃ cs', Json.Spells v cs' ∧ Guards cs cs' := by
  match h with
  | .null => exact ⟨_, .null, guards_self (by decide) (by decide)⟩
  | .isTrue => exact ⟨_, .isTrue, guards_self (by decide) (by decide)⟩
  | .isFalse => exact ⟨_, .isFalse, guards_self (by decide) (by decide)⟩
  | .natural n =>
      have hall : ∀ c ∈ Nat.toDigits 10 n, c.isDigit = true := fun _ hc =>
        Nat.isDigit_of_mem_toDigits (by decide) (by decide) hc
      refine ⟨_, .natural n, guards_self ?_ ?_⟩
      · exact fun hc => absurd (hall _ hc) (by decide)
      · exact fun hc => absurd (hall _ hc) (by decide)
  | .text h =>
      obtain ⟨cs', h', hguard⟩ := exists_guarded_text h
      exact ⟨cs', .text h', hguard⟩
  | .list h =>
      obtain ⟨body', hbody', hguard⟩ := exists_guarded_items h
      have hclose : Guards [']'] [']'] := guards_self (by decide) (by decide)
      exact ⟨_, .list hbody', (hguard.append hclose).cons (by decide) (by decide)⟩
  | .object h =>
      obtain ⟨body', hbody', hguard⟩ := exists_guarded_members h
      have hclose : Guards ['\x7d'] ['\x7d'] := guards_self (by decide) (by decide)
      exact ⟨_, .object hbody', (hguard.append hclose).cons (by decide) (by decide)⟩

theorem exists_guarded_items {first : Bool} {items : List Json} {cs : List Char}
    (h : Json.SpellsItems first items cs) :
    ∃ cs', Json.SpellsItems first items cs' ∧ Guards cs cs' := by
  match h with
  | .nil h => exact ⟨cs, .nil h, guards_blank h⟩
  | .cons hsep hv hi =>
      obtain ⟨body', hbody', hguard⟩ := exists_guarded hv
      obtain ⟨more', hmore', hguard'⟩ := exists_guarded_items hi
      exact ⟨_, .cons hsep hbody' hmore', (guards_separates hsep).append (hguard.append hguard')⟩

theorem exists_guarded_members {first : Bool} {members : List (String × Json)} {cs : List Char}
    (h : Json.SpellsMembers first members cs) :
    ∃ cs', Json.SpellsMembers first members cs' ∧ Guards cs cs' := by
  match h with
  | .nil h => exact ⟨cs, .nil h, guards_blank h⟩
  | .cons hsep hk hb hb' hv hm =>
      obtain ⟨ks', hks', hguardk⟩ := exists_guarded_text hk
      obtain ⟨body', hbody', hguardv⟩ := exists_guarded hv
      obtain ⟨more', hmore', hguardm⟩ := exists_guarded_members hm
      refine ⟨_, .cons hsep hks' hb hb' hbody' hmore', ?_⟩
      have hvalue := (guards_blank hb').append (hguardv.append hguardm)
      have hcolon := (guards_blank hb).append (hvalue.cons (c := ':') (by decide) (by decide))
      exact (guards_separates hsep).append (hguardk.append hcolon)

end

/-- What has been guarded spells the same value. -/
theorem spells_guardClosings {v : Json} {cs : List Char} (h : Json.Spells v cs) :
    Json.Spells v (guardClosings cs) := by
  obtain ⟨cs', h', hguard⟩ := exists_guarded h
  rwa [hguard.eq]

/-! ## The injected text -/

theorem itemsFit_map {α : Type} {f : α → Json} (h : ∀ a, (f a).Fits) (items : List α) :
    Json.ItemsFit (items.map f) := by
  induction items with
  | nil => trivial
  | cons a items ih => exact ⟨h a, ih⟩

/-- A configuration is written without numbers. -/
theorem fits_json (c : Configuration) : c.json.Fits := by
  have hactions : ∀ a : Action, a.json.Fits := by
    rintro ⟨name, task⟩
    rcases task with ⟨path, content⟩ | ⟨u, command⟩
    · cases content <;>
        simp [Action.json, Task.json, Content.json, Json.Fits, Json.MembersFit]
    · simp [Action.json, Task.json, Json.Fits, Json.MembersFit]
  have hchecks : ∀ k : Check, k.json.Fits := by
    rintro ⟨name, description, probe⟩
    cases probe <;> simp [Check.json, Probe.json, Json.Fits, Json.MembersFit]
  have hvalues : ∀ v : Value, v.json.Fits := fun v => ⟨trivial, trivial, trivial, trivial⟩
  exact ⟨itemsFit_map hactions _, itemsFit_map hchecks _, itemsFit_map hvalues _, trivial⟩

theorem inject_of_firstBetween {html before after : List Char}
    (h : Text.FirstBetween placeholder html before after) (json : List Char) :
    inject html json = before ++ assignment ++ guardClosings json ++ after := by
  rw [inject, Text.cutAt?_eq_some_iff.mpr h]

/-- Where there is no placeholder nothing is injected. -/
theorem inject_of_not_infix {html : List Char} (h : ¬ placeholder <:+: html) (json : List Char) :
    inject html json = html := by
  rw [inject, Text.cutAt?_eq_none_iff.mpr h]

/-- The configuration is put in place of the first placeholder as a text that closes no element and
that is read as the same value; nothing else changes. -/
theorem inject_keeps_value (c : Configuration) :
    ∃ j : List Char, ¬ ['<', '/'] <:+: j ∧ c.json.Spells j ∧
      Json.parse (String.ofList j) = .ok c.json ∧ Json.parse c.json.render = .ok c.json ∧
      ∀ html : List Char,
        (∀ before after, Text.FirstBetween placeholder html before after →
          inject html c.json.render.toList = before ++ assignment ++ j ++ after) ∧
        (¬ placeholder <:+: html → inject html c.json.render.toList = html) := by
  have hspells : c.json.Spells (guardClosings c.json.chars) :=
    spells_guardClosings (Json.spells_chars c.json)
  have hrender : c.json.render.toList = c.json.chars := by simp [Json.render]
  refine ⟨guardClosings c.json.chars, not_infix_guardClosings _, hspells,
    Json.parse_eq_ok hspells (fits_json c),
    Json.parse_eq_ok (Json.spells_chars _) (fits_json c), ?_⟩
  intro html
  rw [hrender]
  exact ⟨fun _ _ h => inject_of_firstBetween h _, fun h => inject_of_not_infix h _⟩

/-- A configuration in which a description closes the script and repeats the placeholder. -/
def intrusive : Configuration :=
  ⟨[], [], [⟨"psk", "</script>\\\"configuration=\x7b\x7d", true⟩]⟩

theorem inject_keeps_intrusive :
    ∃ j : List Char, Json.parse (String.ofList j) = .ok intrusive.json ∧
      inject "<script>configuration=\x7b\x7d;</script>configuration=\x7b\x7d".toList
          intrusive.json.render.toList =
        "<script>".toList ++ assignment ++ j ++ ";</script>configuration=\x7b\x7d".toList ∧
      inject "<p>".toList intrusive.json.render.toList = "<p>".toList := by
  obtain ⟨j, -, -, hparse, -, hinject⟩ := inject_keeps_value intrusive
  refine ⟨j, hparse, (hinject _).1 _ _ ?_, (hinject _).2 (by decide)⟩
  exact Text.cutAt?_eq_some_iff.mp rfl

end Provision.Page
