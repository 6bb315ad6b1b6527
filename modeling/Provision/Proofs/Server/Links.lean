import Mathlib.Data.List.Forall2
import Provision.Proofs.Json.Deciding
import Provision.Proofs.Text.Split
import Provision.Server.Link

namespace Provision

/-!
# Lists of links

What the status of an interface is read from: any JSON text of a list of links.  The first link
alone is shown, but one link that cannot be read spoils the list.
-/

open Json

namespace LinkAddress

def ofItems? : List Datum → Option LinkAddress
  | [] => none
  | host :: items => host.text?.bind fun host =>
    match items with
    | [] => none
    | prefixLength :: more =>
      prefixLength.byte?.bind fun n => if more.isEmpty then some ⟨host, n⟩ else none

/-- The address that a datum shows, an object or a list of two items. -/
def ofDatum? : Datum → Option LinkAddress :=
  Datum.record? (fun members =>
    (members.foldlM (Datum.member? (Datum.next? "local" "prefixlen" Datum.text? Datum.byte?))
      (none, none)).bind fun s => s.1.bind fun host => s.2.map fun n => ⟨host, n⟩)
    ofItems?

theorem decides_member (key : String) (s : Option String × Option Nat) (v : Datum) :
    (member key s).DecidesMember v
      (Datum.next? "local" "prefixlen" Datum.text? Datum.byte? s (key, v)) :=
  Decoder.decidesMember_next? Decoder.decides_string Decoder.decides_byte _ _ key s v

theorem decides_decode (v : Datum) : decode.Decides v (ofDatum? v) := by
  apply Decoder.Decides.record
  · intro members cs rest hs
    refine (Decoder.answers_members decides_member (none, none) hs rest).bind_end ?_
    rintro ⟨host, prefixLength⟩ -
    cases host with
    | none => exact Decoder.gives_fail _ _
    | some host =>
        cases prefixLength with
        | none => exact Decoder.gives_fail _ _
        | some n => exact Decoder.answers_pure _ _
  · intro items cs rest hs
    have hfail (m : Mismatch) (d : Unit → Json.Decoder LinkAddress) (rest : List UInt8) :
        (Decoder.fail m >>= d).Answers [] rest none :=
      Decoder.Gives.bind (Decoder.gives_fail m rest) fun _ => False.elim
    -- a missing item is found before it is read, one too many only where the list should close
    cases items with
    | nil => exact Decoder.DecidesItems.nil (hfail _ _) true hs
    | cons host items =>
        refine Decoder.DecidesItems.cons rfl (Decoder.decides_string host) (fun h _ => ?_) true hs
        cases items with
        | nil => exact Decoder.DecidesItems.nil (hfail _ _) false
        | cons prefixLength more =>
            exact Decoder.DecidesItems.cons rfl (Decoder.decides_byte prefixLength)
              (fun n _ => Decoder.decidesItems_pure _ more) false

theorem ofDatum?_object (members : List (Quoted × Datum)) :
    ofDatum? (.object members) =
      (Datum.field? "local" Datum.text? none members).bind fun host =>
        (Datum.field? "prefixlen" Datum.byte? none members).bind fun n =>
          host.bind fun host => n.map fun n => ⟨host, n⟩ := by
  rw [ofDatum?, Datum.record?, Datum.foldlM_next? (by decide), Option.bind_assoc]
  simp only [Option.bind_map, Function.comp_def]

/-- The members may stand in any order, and others among them. -/
inductive Renders (a : LinkAddress) : Datum → Prop
  | object {members : List (Quoted × Datum)}
      (hhost : Datum.Holds "local" (some (.text a.host)) members)
      (hlength : Datum.Holds "prefixlen" (some (.natural a.prefixLength)) members)
      (hbyte : a.prefixLength ≤ 255) : Renders a (.object members)

theorem Renders.ofDatum?_eq {a : LinkAddress} {d : Datum} (h : a.Renders d) :
    ofDatum? d = some a := by
  obtain ⟨hhost, hlength, hbyte⟩ := h
  have hn : (Datum.natural a.prefixLength).byte? = some a.prefixLength := by
    rw [Datum.byte?_natural, if_pos (Nat.lt_succ_of_le hbyte)]
  rw [ofDatum?_object, hhost.field?_eq, hlength.field?_eq]
  simp [Datum.text?, Quoted.text?, hn]

/-- A value of an unexpected form, or none at all, where an address has its own. -/
inductive IllTyped : Datum → Prop
  | form {d : Datum} (h : ∀ members, d ≠ .object members) (h' : ∀ items, d ≠ .list items) :
      IllTyped d
  | host {members : List (Quoted × Datum)} {v : Datum} (hmem : (.text "local", v) ∈ members)
      (hv : v.text? = none) : IllTyped (.object members)
  | prefixLength {members : List (Quoted × Datum)} {v : Datum}
      (hmem : (.text "prefixlen", v) ∈ members) (hv : v.byte? = none) : IllTyped (.object members)
  | noHost {members : List (Quoted × Datum)} (h : Datum.Holds "local" none members) :
      IllTyped (.object members)
  | noPrefixLength {members : List (Quoted × Datum)} (h : Datum.Holds "prefixlen" none members) :
      IllTyped (.object members)
  | key {members : List (Quoted × Datum)} {v : Datum} (hmem : (.torn, v) ∈ members) :
      IllTyped (.object members)

theorem IllTyped.ofDatum?_eq_none {d : Datum} (h : IllTyped d) : ofDatum? d = none := by
  cases h with
  | form h h' => exact Datum.record?_eq_none h h'
  | host hmem hv => rw [ofDatum?_object, Datum.field?_eq_none hmem hv, Option.bind_none]
  | prefixLength hmem hv =>
      rw [ofDatum?_object, Datum.field?_eq_none hmem hv]
      simp
  | noHost h =>
      rw [ofDatum?_object, h.field?_eq]
      simp
  | noPrefixLength h =>
      rw [ofDatum?_object, h.field?_eq]
      simp
  | key hmem => rw [ofDatum?_object, Datum.field?_eq_none_of_torn hmem, Option.bind_none]

def ofText? (s : String) : Option LinkAddress :=
  (Text.cutLast '/' s.toList).map fun (host, ds) =>
    ⟨String.ofList host, Nat.ofDigitChars 10 ds 0⟩

/-- An address can be read off its text. -/
theorem ofText?_text (a : LinkAddress) : ofText? a.text = some a := by
  have hfree : '/' ∉ Nat.toDigits 10 a.prefixLength := by
    intro hmem
    have hdigit : '/'.isDigit = true := Nat.isDigit_of_mem_toDigits (by decide) (by decide) hmem
    cases hdigit
  have htext : a.text.toList = a.host.toList ++ '/' :: Nat.toDigits 10 a.prefixLength := by
    simp [text]
  rw [ofText?, htext, Text.cutLast_append_cons _ hfree]
  simp [Nat.ofDigitChars_toDigits]

end LinkAddress

namespace Link

def addresses? (v : Datum) : Option (List LinkAddress) :=
  v.items?.bind fun vs => vs.mapM LinkAddress.ofDatum?

def ofItems? : List Datum → Option Link
  | [] => some ⟨"", []⟩
  | state :: items => state.text?.bind fun state =>
    match items with
    | [] => some ⟨state, []⟩
    | addresses :: more =>
      (addresses? addresses).bind fun as => if more.isEmpty then some ⟨state, as⟩ else none

/-- The link that a datum shows, an object or a list of at most two items. -/
def ofDatum? : Datum → Option Link :=
  Datum.record? (fun members =>
    (members.foldlM (Datum.member? (Datum.next? "operstate" "addr_info" Datum.text? addresses?))
      (none, none)).map fun s => ⟨s.1.getD "", s.2.getD []⟩)
    ofItems?

theorem decides_addresses (v : Datum) :
    (Decoder.list LinkAddress.decode).Decides v (addresses? v) :=
  .list LinkAddress.decides_decode v

theorem decides_member (key : String) (s : Option String × Option (List LinkAddress)) (v : Datum) :
    (member key s).DecidesMember v
      (Datum.next? "operstate" "addr_info" Datum.text? addresses? s (key, v)) :=
  Decoder.decidesMember_next? Decoder.decides_string decides_addresses _ _ key s v

theorem decides_decode (v : Datum) : decode.Decides v (ofDatum? v) := by
  apply Decoder.Decides.record
  · intro members cs rest hs
    exact (Decoder.answers_members decides_member (none, none) hs rest).map fun s : _ × _ =>
      (⟨s.1.getD "", s.2.getD []⟩ : Link)
  · intro items cs rest hs
    cases items with
    | nil =>
        refine Decoder.DecidesItems.nil ?_ true hs
        exact fun rest => Decoder.answers_pure _ rest
    | cons state items =>
        refine Decoder.DecidesItems.cons rfl (Decoder.decides_string state) (fun s _ => ?_) true hs
        cases items with
        | nil =>
            refine Decoder.DecidesItems.nil ?_ false
            exact fun rest => Decoder.answers_pure _ rest
        | cons addresses more =>
            exact Decoder.DecidesItems.cons rfl (decides_addresses addresses)
              (fun as _ => Decoder.decidesItems_pure _ more) false

theorem ofDatum?_object (members : List (Quoted × Datum)) :
    ofDatum? (.object members) =
      (Datum.field? "operstate" Datum.text? none members).bind fun state =>
        (Datum.field? "addr_info" addresses? none members).map fun as =>
          ⟨state.getD "", as.getD []⟩ := by
  rw [ofDatum?, Datum.record?, Datum.foldlM_next? (by decide), Option.map_bind]
  simp only [Option.map_map, Function.comp_def]

/-- A value of an unexpected form where a link has its own. -/
inductive IllTyped : Datum → Prop
  | form {d : Datum} (h : ∀ members, d ≠ .object members) (h' : ∀ items, d ≠ .list items) :
      IllTyped d
  | state {members : List (Quoted × Datum)} {v : Datum} (hmem : (.text "operstate", v) ∈ members)
      (hv : v.text? = none) : IllTyped (.object members)
  | addresses {members : List (Quoted × Datum)} {v : Datum}
      (hmem : (.text "addr_info", v) ∈ members) (hv : v.items? = none) : IllTyped (.object members)
  | address {members : List (Quoted × Datum)} {vs : List Datum} {v : Datum}
      (hmem : (.text "addr_info", .list vs) ∈ members) (hv : v ∈ vs) (h : LinkAddress.IllTyped v) :
      IllTyped (.object members)
  | key {members : List (Quoted × Datum)} {v : Datum} (hmem : (.torn, v) ∈ members) :
      IllTyped (.object members)

theorem IllTyped.ofDatum?_eq_none {d : Datum} (h : IllTyped d) : ofDatum? d = none := by
  have haddresses {members : List (Quoted × Datum)} {v : Datum}
      (hmem : (.text "addr_info", v) ∈ members) (hv : addresses? v = none) :
      ofDatum? (.object members) = none := by
    rw [ofDatum?_object, Datum.field?_eq_none hmem hv]
    simp
  cases h with
  | form h h' => exact Datum.record?_eq_none h h'
  | state hmem hv => rw [ofDatum?_object, Datum.field?_eq_none hmem hv, Option.bind_none]
  | addresses hmem hv => exact haddresses hmem (by rw [addresses?, hv, Option.bind_none])
  | address hmem hv h => exact haddresses hmem (mapM_eq_none hv h.ofDatum?_eq_none)
  | key hmem => rw [ofDatum?_object, Datum.field?_eq_none_of_torn hmem, Option.bind_none]

end Link

structure ListedLink where
  state : Option String
  addresses : Option (List LinkAddress)

namespace ListedLink

def link (l : ListedLink) : Link := ⟨l.state.getD "", l.addresses.getD []⟩

inductive Renders (l : ListedLink) : Datum → Prop
  | object {members : List (Quoted × Datum)} {listed : Option (List Datum)}
      (hstate : Datum.Holds "operstate" (l.state.map fun s => .text (.text s)) members)
      (hlisted : Option.Rel (List.Forall₂ LinkAddress.Renders) l.addresses listed)
      (haddresses : Datum.Holds "addr_info" (listed.map .list) members) :
      Renders l (.object members)

theorem Renders.ofDatum?_eq {l : ListedLink} {d : Datum} (h : l.Renders d) :
    Link.ofDatum? d = some l.link := by
  obtain ⟨hstate, hlisted, haddresses⟩ := h
  rw [Link.ofDatum?_object, hstate.field?_eq, haddresses.field?_eq, link]
  obtain ⟨state, addresses⟩ := l
  cases hlisted with
  | none => cases state <;> rfl
  | @some as ds hlisted =>
      have hmap : Link.addresses? (.list ds) = some as :=
        mapM_eq_some_iff.mpr (hlisted.flip.imp fun _ _ h => h.ofDatum?_eq)
      cases state <;> simp [hmap, Datum.text?, Quoted.text?]

end ListedLink

/-! ## The list -/

inductive Json.Datum.Written (v : Datum) : List Char → Prop
  | text {before cs behind : List Char} (hb : Blank before) (h : v.Spells cs) (hb' : Blank behind) :
      Written v (before ++ cs ++ behind)

theorem Json.Datum.Spells.written {v : Datum} {cs : List Char} (h : v.Spells cs) :
    v.Written cs := by
  simpa using Datum.Written.text blank_nil h blank_nil

namespace LinkStatus

/-- Any JSON text at all is read as a list of links or refused. -/
theorem toOption_parse {v : Datum} {cs : List Char} (h : v.Written cs) :
    (parse (encode cs)).toOption =
      (v.items?.bind fun vs => vs.mapM Link.ofDatum?).map ofLinks := by
  obtain ⟨hb, hs, hb'⟩ := h
  rename_i before body behind
  have hdocument := (Decoder.Decides.list Link.decides_decode v).document hb hs hb'
  rw [← hdocument, parse]
  split
  · rename_i links hlinks
    rw [hlinks]
    rfl
  · rename_i failure hfailure
    rw [hfailure]
    rfl

def shown : List ListedLink → LinkStatus
  | [] => ⟨[], "unknown"⟩
  | l :: _ => ⟨(l.addresses.getD []).map LinkAddress.text, (l.state.map Text.lower).getD ""⟩

theorem ofLinks_map_link (ls : List ListedLink) : ofLinks (ls.map ListedLink.link) = shown ls := by
  cases ls with
  | nil => rfl
  | cons l ls =>
      obtain ⟨_ | state, addresses⟩ := l <;> rfl

theorem parse_eq_ok_iff {ds : List Datum} {cs : List Char} (h : (Datum.list ds).Written cs)
    {s : LinkStatus} :
    parse (encode cs) = .ok s ↔
      ∃ links, ds.mapM Link.ofDatum? = some links ∧ ofLinks links = s := by
  have hparse := toOption_parse h
  rw [Datum.items?, Option.bind_some] at hparse
  rw [← Option.map_eq_some_iff, ← hparse]
  cases parse (encode cs) <;> simp [Except.toOption]

theorem parse_of_renders {ls : List ListedLink} {ds : List Datum} {cs : List Char}
    (h : List.Forall₂ ListedLink.Renders ls ds) (hw : (Datum.list ds).Written cs) :
    parse (encode cs) = .ok (shown ls) := by
  refine (parse_eq_ok_iff hw).mpr ⟨ls.map ListedLink.link, ?_, ofLinks_map_link ls⟩
  rw [mapM_eq_some_iff, List.forall₂_map_right_iff]
  exact h.flip.imp fun _ _ h => h.ofDatum?_eq

/-- The links behind the first one may be listed as they like, if they are accepted at all. -/
theorem eq_shown_of_parse {l : ListedLink} {d : Datum} {ds : List Datum} {cs : List Char}
    {s : LinkStatus} (h : l.Renders d) (hw : (Datum.list (d :: ds)).Written cs)
    (hparse : parse (encode cs) = .ok s) : s = shown [l] := by
  obtain ⟨links, hlinks, rfl⟩ := (parse_eq_ok_iff hw).mp hparse
  rw [mapM_cons, h.ofDatum?_eq, Option.bind_some] at hlinks
  obtain ⟨later, -, rfl⟩ := Option.map_eq_some_iff.mp hlinks
  exact ofLinks_map_link [l]

/-- A single link of an unexpected form makes the listing unreadable. -/
theorem exists_parse_error {d : Datum} {ds : List Datum} {cs : List Char} (hmem : d ∈ ds)
    (h : Link.IllTyped d) (hw : (Datum.list ds).Written cs) :
    ∃ failure, parse (encode cs) = .error failure := by
  cases hparse : parse (encode cs) with
  | error failure => exact ⟨failure, rfl⟩
  | ok s =>
      obtain ⟨links, hlinks, -⟩ := (parse_eq_ok_iff hw).mp hparse
      rw [mapM_eq_none hmem h.ofDatum?_eq_none] at hlinks
      cases hlinks

/-- The first link alone is shown, but one ill-typed link spoils the list. -/
theorem parse_listed :
    (∀ ls ds cs, List.Forall₂ ListedLink.Renders ls ds → (Datum.list ds).Written cs →
      parse (encode cs) = .ok (shown ls)) ∧
    (∀ a : LinkAddress, LinkAddress.ofText? a.text = some a) ∧
    (∀ (l : ListedLink) d ds cs s, l.Renders d → (Datum.list (d :: ds)).Written cs →
      parse (encode cs) = .ok s → s = shown [l]) ∧
    ∀ d ds cs, d ∈ ds → Link.IllTyped d → (Datum.list ds).Written cs →
      ∃ failure, parse (encode cs) = .error failure :=
  ⟨fun _ _ _ => parse_of_renders, LinkAddress.ofText?_text, fun _ _ _ _ _ => eq_shown_of_parse,
    fun _ _ _ => exists_parse_error⟩

/-- The state of the first link is escaped, and a number stands among the members of its address; of
the second link nothing is given but a string that is no text. -/
def listing : List Char :=
  ['[', '\x7b', '"', 'a', 'd', 'd', 'r', '_', 'i', 'n', 'f', 'o', '"', ':', '[',
    '\x7b', '"', 'p', 'r', 'e', 'f', 'i', 'x', 'l', 'e', 'n', '"', ':', '2', '5', '5', ',',
    '"', 'x', '"', ':', '-', '1', '.', '5', 'e', '3', ',',
    '"', 'l', 'o', 'c', 'a', 'l', '"', ':', '"', ':', ':', '1', '"', '\x7d', ']', ',',
    '"', 'o', 'p', 'e', 'r', 's', 't', 'a', 't', 'e', '"', ':',
    '"', '\\', 'u', '0', '0', '5', '5', 'P', '"', '\x7d', ',', '\n',
    '\x7b', '"', 'x', '"', ':', '"', '\\', 'u', 'D', '8', '3', 'D', '"', '\x7d', ']']

def loopback : Datum :=
  .object [("addr_info", .list [.object [("prefixlen", .natural 255),
    ("x", .number true ['1'] ['.', '5'] ['e', '3']), ("local", .text "::1")]]),
    ("operstate", .text "UP")]

def nameless : Datum := .object [("x", .text .torn)]

theorem written_listing : (Datum.list [loopback, nameless]).Written listing := by
  have hline : Blank ['\n'] := by
    intro c hc
    exact .inr (.inr (.inl (List.mem_singleton.mp hc)))
  have hfirst : Separates true [] := .first blank_nil
  have hcomma : Separates false [','] := .later blank_nil blank_nil
  have hlength : (Datum.natural 255).Spells ['2', '5', '5'] :=
    .number false (.digits (by decide) (List.all_eq_true.mp rfl)) .absent .absent
  have hnumber : (Datum.number true ['1'] ['.', '5'] ['e', '3']).Spells _ :=
    .number true (.digits (by decide) (List.all_eq_true.mp rfl))
      (.digits (by decide) (List.all_eq_true.mp rfl))
      (.digits (.inl rfl) (.inl rfl) (by decide) (List.all_eq_true.mp rfl))
  have haddress : Datum.Spells _ _ :=
    .object (.plain hfirst "prefixlen" hlength (.plain hcomma "x" hnumber
      (.plain hcomma "local" (.text (.text (spellsText_renderText "::1")))
        (.nil blank_nil))))
  have hunit : SpellsChar 'U' ['\\', 'u', '0', '0', '5', '5'] :=
    .unit (.digits (v := 0) (w := 0) (x := 5) (y := 5) rfl rfl rfl rfl)
  have hstate : SpellsText "UP" _ := .quoted (.cons hunit (spellsChars_flatMap ['P']))
  have hloopback : loopback.Spells _ :=
    .object (.plain hfirst "addr_info" (.list (.cons hfirst haddress (.nil blank_nil)))
      (.plain hcomma "operstate" (.text (.text hstate)) (.nil blank_nil)))
  have hhalf : CodeUnit 0xD83D ['D', '8', '3', 'D'] :=
    .digits (v := 13) (w := 8) (x := 3) (y := 13) rfl rfl rfl rfl
  have htorn : Quoted.Spells .torn _ :=
    .torn (.leading (by decide) hhalf .nil fun _ _ _ _ _ => List.cons_ne_nil _ _ ∘ Eq.symm)
  have hnameless : nameless.Spells _ :=
    .object (.plain hfirst "x" (.text htorn) (.nil blank_nil))
  have hlist : (Datum.list [loopback, nameless]).Spells listing :=
    .list (.cons hfirst hloopback (.cons (.later blank_nil hline) hnameless (.nil blank_nil)))
  exact hlist.written

def overlong : List Char :=
  ['[', '\x7b', '\x7d', ',', '\x7b', '"', 'a', 'd', 'd', 'r', '_', 'i', 'n', 'f', 'o', '"', ':',
    '[', '\x7b', '"', 'p', 'r', 'e', 'f', 'i', 'x', 'l', 'e', 'n', '"', ':', '2', '5', '6', '\x7d',
    ']', '\x7d', ']']

def excessive : Datum :=
  .object [("addr_info", .list [.object [("prefixlen", .natural 256)]])]

theorem written_overlong : (Datum.list [.object [], excessive]).Written overlong := by
  have hfirst : Separates true [] := .first blank_nil
  have hlength : (Datum.natural 256).Spells ['2', '5', '6'] :=
    .number false (.digits (by decide) (List.all_eq_true.mp rfl)) .absent .absent
  have haddress : Datum.Spells _ _ :=
    .object (.plain hfirst "prefixlen" hlength (.nil blank_nil))
  have hlink : excessive.Spells _ :=
    .object (.plain hfirst "addr_info" (.list (.cons hfirst haddress (.nil blank_nil)))
      (.nil blank_nil))
  have hlist : (Datum.list [.object [], excessive]).Spells overlong :=
    .list (.cons hfirst (.object (.nil blank_nil))
      (.cons (.later blank_nil blank_nil) hlink (.nil blank_nil)))
  exact hlist.written

/-- The status is the one that the first link has by itself. -/
theorem parse_listing :
    parse (encode listing) = .ok ⟨["::1/255"], "up"⟩ ∧
    (⟨["::1/255"], "up"⟩ : LinkStatus) = shown [⟨some "UP", some [⟨"::1", 255⟩]⟩] ∧
    LinkAddress.ofText? "::1/255" = some ⟨"::1", 255⟩ ∧
    ∃ failure, parse (encode overlong) = .error failure := by
  have haddress : (⟨"::1", 255⟩ : LinkAddress).Renders (.object [("prefixlen", .natural 255),
      ("x", .number true ['1'] ['.', '5'] ['e', '3']), ("local", .text "::1")]) :=
    .object ⟨rfl, by simp⟩ ⟨rfl, by simp⟩ (by decide)
  have hloopback : (⟨some "UP", some [⟨"::1", 255⟩]⟩ : ListedLink).Renders loopback :=
    .object ⟨rfl, by simp⟩ (.some (.cons haddress .nil)) ⟨rfl, by simp⟩
  have hnameless : (⟨none, none⟩ : ListedLink).Renders nameless :=
    .object ⟨rfl, by simp⟩ .none ⟨rfl, by simp⟩
  have hshown : shown [⟨some "UP", some [⟨"::1", 255⟩]⟩, ⟨none, none⟩] = ⟨["::1/255"], "up"⟩ := by
    decide +kernel
  have hparse := parse_listed.1 _ _ _ (.cons hloopback (.cons hnameless .nil)) written_listing
  rw [hshown] at hparse
  refine ⟨hparse, ?_, parse_listed.2.1 ⟨"::1", 255⟩, ?_⟩
  · exact parse_listed.2.2.1 _ _ _ _ _ hloopback written_listing hparse
  · have hlong : LinkAddress.IllTyped (.object [("prefixlen", .natural 256)]) :=
      .prefixLength (.head _) rfl
    exact parse_listed.2.2.2 _ _ _ (.tail _ (.head _)) (.address (.head _) (.head _) hlong)
      written_overlong

end LinkStatus

end Provision
