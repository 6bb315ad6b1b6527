import Mathlib.Data.List.Forall2
import Provision.Proofs.Yaml.Yields

namespace Provision.Yaml

/-!
# Wider documents

A wider document has further entries in its maps, all of them under certain names; where its nodes
start does not matter.  A decoder that passes over fields of these names reads the same from both.
Aliases may lead back to a map that is wider, so that the two documents are read side by side.
-/

theorem Decoder.run_follow_reference (root : Node) (m : Mark) (number n : Nat) :
    ((follow (.reference m number)).run root).run n =
      if root.size * aliasesPerEvent < n + 1 then .error .tooManyAliases
      else match Document.target? root number with
        | some target => .ok (target, n + 1)
        | none => .error (.broken []) := by
  show (ite (root.size * aliasesPerEvent < n + 1) _ _ : Decoding Node) root (n + 1) = _
  split
  · rfl
  · cases Document.target? root number <;> rfl

namespace Decoder

variable {σ : Type} (field : String → σ → Decoder σ) (path : Path) (s : σ) (value : Node)
  (rest : List (Node × Node))

theorem fields_cons (key : Node) :
    fields field path s ((key, value) :: rest) =
      named "field identifier" path key >>= fun name =>
        field name s (stepTo key :: path) value >>= fun s => fields field path s rest := rfl

theorem fields_cons_scalar (m : Mark) (anchor : Option Nat) (tag : Option (List Char))
    (style : Style) (name : List Char) :
    fields field path s ((.scalar m anchor tag style name, value) :: rest) =
      field (String.ofList name) s (.key name :: path) value >>= fun s =>
        fields field path s rest := rfl

end Decoder

variable {extra : List String}

namespace Node

mutual

/-- The second node is wider than the first, by entries under names among `extra`.  If there are no
such names, the nodes differ at most in where they start. -/
inductive Widens (extra : List String) : Node → Node → Prop
  | scalar (m m' : Mark) (anchor : Option Nat) (tag : Option (List Char)) (style : Style)
      (text : List Char) : Widens extra (.scalar m anchor tag style text)
        (.scalar m' anchor tag style text)
  | list (m m' : Mark) (anchor : Option Nat) {items items' : List Node}
      (h : ItemsWiden extra items items') : Widens extra (.list m anchor items)
        (.list m' anchor items')
  | map (m m' : Mark) (anchor : Option Nat) {entries entries' : List (Node × Node)}
      (h : EntriesWiden extra entries entries') : Widens extra (.map m anchor entries)
        (.map m' anchor entries')
  | reference (m m' : Mark) (number : Nat) : Widens extra (.reference m number)
        (.reference m' number)

inductive ItemsWiden (extra : List String) : List Node → List Node → Prop
  | nil : ItemsWiden extra [] []
  | cons {n n' : Node} {rest rest' : List Node} (h : Widens extra n n')
      (hrest : ItemsWiden extra rest rest') : ItemsWiden extra (n :: rest) (n' :: rest')

inductive EntriesWiden (extra : List String) : List (Node × Node) → List (Node × Node) → Prop
  | nil : EntriesWiden extra [] []
  | keep {k k' v v' : Node} {rest rest' : List (Node × Node)} (hk : Widens extra k k')
      (hv : Widens extra v v') (hrest : EntriesWiden extra rest rest') :
      EntriesWiden extra ((k, v) :: rest) ((k', v') :: rest')
  | add (m : Mark) (tag : Option (List Char)) (style : Style) {name : List Char} {v : Node}
      {rest rest' : List (Node × Node)} (hname : String.ofList name ∈ extra)
      (hv : v.anchored = []) (hrest : EntriesWiden extra rest rest') :
      EntriesWiden extra rest ((.scalar m none tag style name, v) :: rest')

end

mutual

/-- What is wider by entries of some names is so by those of more names. -/
theorem Widens.mono {extra' : List String} {n n' : Node} (h : n.Widens extra n')
    (hextra : extra ⊆ extra') : n.Widens extra' n' := by
  cases h with
  | scalar => exact .scalar ..
  | list m m' anchor h => exact .list m m' anchor (h.mono hextra)
  | map m m' anchor h => exact .map m m' anchor (h.mono hextra)
  | reference => exact .reference ..

theorem ItemsWiden.mono {extra' : List String} {items items' : List Node}
    (h : ItemsWiden extra items items') (hextra : extra ⊆ extra') :
    ItemsWiden extra' items items' := by
  cases h with
  | nil => exact .nil
  | cons h hrest => exact .cons (h.mono hextra) (hrest.mono hextra)

theorem EntriesWiden.mono {extra' : List String} {entries entries' : List (Node × Node)}
    (h : EntriesWiden extra entries entries') (hextra : extra ⊆ extra') :
    EntriesWiden extra' entries entries' := by
  cases h with
  | nil => exact .nil
  | keep hk hv hrest => exact .keep (hk.mono hextra) (hv.mono hextra) (hrest.mono hextra)
  | add m tag style hname hv hrest =>
      exact .add m tag style (hextra hname) hv (hrest.mono hextra)

end

/-- Two nodes with the same number, of which the second is wider. -/
def Labelled (extra : List String) (p q : Nat × Node) : Prop := p.1 = q.1 ∧ p.2.Widens extra q.2

theorem forall₂_labelled_label {n n' : Node} (h : n.Widens extra n') (anchor : Option Nat) :
    List.Forall₂ (Labelled extra) (anchor.map (·, n)).toList (anchor.map (·, n')).toList := by
  cases anchor with
  | none => exact .nil
  | some a => exact .cons ⟨rfl, h⟩ .nil

mutual

/-- By induction on the nodes: the anchors stay, and their nodes are wider. -/
theorem Widens.anchored {n n' : Node} (h : n.Widens extra n') :
    List.Forall₂ (Labelled extra) n.anchored n'.anchored := by
  cases h with
  | scalar => exact forall₂_labelled_label (.scalar ..) _
  | list m m' anchor h =>
      exact List.rel_append (forall₂_labelled_label (.list m m' anchor h) _) h.anchored
  | map m m' anchor h =>
      exact List.rel_append (forall₂_labelled_label (.map m m' anchor h) _) h.anchored
  | reference => exact .nil

theorem ItemsWiden.anchored {items items' : List Node} (h : ItemsWiden extra items items') :
    List.Forall₂ (Labelled extra) (anchoredItems items) (anchoredItems items') := by
  cases h with
  | nil => exact .nil
  | cons h hrest => exact List.rel_append h.anchored hrest.anchored

theorem EntriesWiden.anchored {entries entries' : List (Node × Node)}
    (h : EntriesWiden extra entries entries') :
    List.Forall₂ (Labelled extra) (anchoredEntries entries) (anchoredEntries entries') := by
  cases h with
  | nil => exact .nil
  | keep hk hv hrest =>
      exact List.rel_append (List.rel_append hk.anchored hv.anchored) hrest.anchored
  | add m tag style hname hv hrest =>
      simpa [anchoredEntries, Node.anchored, hv] using hrest.anchored

end

mutual

theorem Widens.size_le {n n' : Node} (h : n.Widens extra n') : n.size ≤ n'.size := by
  cases h with
  | scalar => exact Nat.le_refl _
  | list m m' anchor h => exact Nat.add_le_add_right h.size_le 2
  | map m m' anchor h => exact Nat.add_le_add_right h.size_le 2
  | reference => exact Nat.le_refl _

theorem ItemsWiden.size_le {items items' : List Node} (h : ItemsWiden extra items items') :
    sizeItems items ≤ sizeItems items' := by
  cases h with
  | nil => exact Nat.le_refl _
  | cons h hrest => exact Nat.add_le_add h.size_le hrest.size_le

theorem EntriesWiden.size_le {entries entries' : List (Node × Node)}
    (h : EntriesWiden extra entries entries') : sizeEntries entries ≤ sizeEntries entries' := by
  cases h with
  | nil => exact Nat.le_refl _
  | keep hk hv hrest =>
      exact Nat.add_le_add (Nat.add_le_add hk.size_le hv.size_le) hrest.size_le
  | add m tag style hname hv hrest => exact Nat.le_trans hrest.size_le (Nat.le_add_left _ _)

end

theorem exists_labelled_find? {anchored anchored' : List (Nat × Node)}
    (h : List.Forall₂ (Labelled extra) anchored anchored') {number : Nat} {p : Nat × Node}
    (hp : anchored.find? (fun a => a.1 = number) = some p) :
    ∃ p', anchored'.find? (fun a => a.1 = number) = some p' ∧ p.2.Widens extra p'.2 := by
  induction h with
  | nil => simp at hp
  | @cons a a' rest rest' ha _ ih =>
      by_cases hnumber : a.1 = number
      · have hap : a = p := by simpa [hnumber] using hp
        exact ⟨a', by simp [← ha.1, hnumber], hap ▸ ha.2⟩
      · have hrest : rest.find? (fun a => a.1 = number) = some p := by simpa [hnumber] using hp
        obtain ⟨p', hp', hwide⟩ := ih hrest
        exact ⟨p', by simpa [← ha.1, hnumber] using hp', hwide⟩

/-- An alias stands for a wider node in the wider document. -/
theorem Widens.exists_target? {root root' : Node} (h : root.Widens extra root') {number : Nat}
    {target : Node} (ht : Document.target? root number = some target) :
    ∃ target', Document.target? root' number = some target' ∧ target.Widens extra target' := by
  obtain ⟨p, hp, rfl⟩ := Option.map_eq_some_iff.mp ht
  obtain ⟨p', hp', hwide⟩ := exists_labelled_find? (List.forall₂_reverse_iff.mpr h.anchored) hp
  exact ⟨p'.2, by simp [Document.target?, hp'], hwide⟩

end Node

/-! ## Steps of decoding -/

/-- Wherever the first step succeeds at its root, the second one does so at its own: it follows as
many aliases, and the outcomes are related. -/
structure Agrees {α β : Type} (root root' : Node) (R : α → β → Prop) (d : Decoding α)
    (d' : Decoding β) : Prop where
  outcome : ∀ n a n₁, (d.run root).run n = .ok (a, n₁) →
    ∃ a', (d'.run root').run n = .ok (a', n₁) ∧ R a a'

namespace Agrees

variable {α β γ δ : Type} {root root' : Node} {R : α → β → Prop} {S : γ → δ → Prop}

theorem pure {a : α} {a' : β} (h : R a a') :
    Agrees root root' R (pure a : Decoding α) (pure a' : Decoding β) := by
  constructor
  intro n b n₁ hrun
  cases hrun
  exact ⟨a', rfl, h⟩

theorem throw (e : Failure) (d' : Decoding β) :
    Agrees root root' R (throw e : Decoding α) d' := by
  constructor
  intro n a n₁ hrun
  cases hrun

theorem bind {d : Decoding γ} {d' : Decoding δ} {f : γ → Decoding α} {f' : δ → Decoding β}
    (hd : Agrees root root' S d d') (hf : ∀ c c', S c c' → Agrees root root' R (f c) (f' c')) :
    Agrees root root' R (d >>= f) (d' >>= f') := by
  constructor
  intro n a n₂ hrun
  obtain ⟨c, n₁, hfirst, hrest⟩ := Decoding.run_bind_eq_ok.mp hrun
  obtain ⟨c', hfirst', hc⟩ := hd.outcome n c n₁ hfirst
  obtain ⟨a', hrest', ha⟩ := (hf c c' hc).outcome n₁ a n₂ hrest
  exact ⟨a', Decoding.run_bind_eq_ok.mpr ⟨c', n₁, hfirst', hrest'⟩, ha⟩

theorem located {d : Decoding α} {d' : Decoding β} (h : Agrees root root' R d d')
    (path path' : Path) (node node' : Node) :
    Agrees root root' R (Decoder.located path node d) (Decoder.located path' node' d') := by
  constructor
  intro n a n₁ hrun
  obtain ⟨a', hrun', ha⟩ := h.outcome n a n₁ (Decoding.run_located_eq_ok.mp hrun)
  exact ⟨a', Decoding.run_located_eq_ok.mpr hrun', ha⟩

theorem reject (expected : String) (path : Path) (node : Node) (d' : Decoding β) :
    Agrees root root' R (Decoder.reject expected path node : Decoding α) d' := by
  constructor
  intro n a n₁ hrun
  cases hrun

/-- In a wider document aliases may be followed at least as often, as it has at least as many
events. -/
theorem follow (hroot : root.Widens extra root') {node node' : Node} (h : node.Widens extra node') :
    Agrees root root' (Node.Widens extra) (Decoder.follow node) (Decoder.follow node') := by
  cases h with
  | scalar m m' anchor tag style text => exact pure (.scalar ..)
  | list m m' anchor h => exact pure (.list m m' anchor h)
  | map m m' anchor h => exact pure (.map m m' anchor h)
  | reference m m' number =>
      constructor
      intro n target n₁ hrun
      rw [Decoder.run_follow_reference] at hrun
      rw [Decoder.run_follow_reference]
      split_ifs at hrun with hbound
      rcases ht : Document.target? root number with _ | t
      · rw [ht] at hrun
        cases hrun
      · rw [ht] at hrun
        cases hrun
        obtain ⟨target', ht', hwide⟩ := hroot.exists_target? ht
        have hbound' : ¬ root'.size * Decoder.aliasesPerEvent < n + 1 := by
          have hsize := Nat.mul_le_mul_right Decoder.aliasesPerEvent hroot.size_le
          omega
        exact ⟨target', by rw [if_neg hbound', ht'], hwide⟩

end Agrees

/-! ## Decoders -/

/-- What a decoder reads from a node it also reads from a wider one in a wider document. -/
structure Overlooks {α : Type} (extra : List String) (decoder : Decoder α) : Prop where
  agrees : ∀ {root root' node node' : Node}, root.Widens extra root' → node.Widens extra node' →
    ∀ path path', Agrees root root' Eq (decoder path node) (decoder path' node')

namespace Overlooks

variable {α β : Type}

theorem pure (a : α) : Overlooks extra (fun _ _ => (Pure.pure a : Decoding α)) :=
  ⟨fun _ _ _ _ => .pure rfl⟩

/-- What has been read is made into something else, whatever the node. -/
theorem bind {decoder : Decoder α} {f : α → Decoding β} (h : Overlooks extra decoder)
    (hf : ∀ a root root', Agrees root root' Eq (f a) (f a)) :
    Overlooks extra (fun path node => decoder path node >>= f) := by
  constructor
  intro root root' node node' hroot hnode path path'
  apply (h.agrees hroot hnode path path').bind
  rintro a _ rfl
  exact hf a root root'

theorem named (expected : String) : Overlooks extra (Decoder.named expected) := by
  constructor
  intro root root' node node' hroot hnode path path'
  apply (Agrees.follow hroot hnode).bind
  intro target target' htarget
  cases htarget with
  | scalar => exact .pure rfl
  | list => exact .reject ..
  | map => exact .reject ..
  | reference => exact .reject ..

theorem string : Overlooks extra Decoder.string := named _

theorem bool : Overlooks extra Decoder.bool := by
  constructor
  intro root root' node node' hroot hnode path path'
  apply (Agrees.follow hroot hnode).bind
  intro target target' htarget
  cases htarget with
  | scalar m m' anchor tag style text =>
      dsimp only
      split
      · exact .pure rfl
      · exact .reject ..
  | list => exact .reject ..
  | map => exact .reject ..
  | reference => exact .reject ..

theorem optional {value : Decoder α} (h : Overlooks extra value) :
    Overlooks extra (Decoder.optional value) := by
  constructor
  intro root root' node node' hroot hnode path path'
  have hsome {target target' : Node} (htarget : target.Widens extra target') :
      Agrees root root' Eq (do return some (← value path target))
        (do return some (← value path' target')) := by
    apply (h.agrees hroot htarget path path').bind
    rintro a _ rfl
    exact .pure rfl
  apply (Agrees.follow hroot hnode).bind
  intro target target' htarget
  cases htarget with
  | scalar m m' anchor tag style text =>
      have hrest (absent : Bool) : Agrees root root' Eq
          (if absent then Pure.pure none
            else do return some (← value path (.scalar m anchor tag .plain text)))
          (if absent then Pure.pure none
            else do return some (← value path' (.scalar m' anchor tag .plain text))) := by
        split
        · exact .pure rfl
        · exact hsome (.scalar ..)
      rcases style with - | - | - | - | -
      case plain =>
        -- however it is found out whether the value is absent
        cases tag with
        | none => exact hrest _
        | some tag =>
            dsimp only
            split_ifs
            · exact hrest true
            · exact .throw _ _
            · exact hrest false
      all_goals exact hsome (.scalar ..)
  | list m m' anchor hitems => exact hsome (.list m m' anchor hitems)
  | map m m' anchor hentries => exact hsome (.map m m' anchor hentries)
  | reference m m' number => exact hsome (.reference m m' number)

theorem items {item : Decoder α} (h : Overlooks extra item) {root root' : Node}
    (hroot : root.Widens extra root') (path path' : Path) (k : Nat) {nodes nodes' : List Node}
    (hnodes : Node.ItemsWiden extra nodes nodes') :
    Agrees root root' Eq (Decoder.items item path k nodes)
      (Decoder.items item path' k nodes') := by
  induction nodes generalizing nodes' k with
  | nil =>
      cases hnodes
      exact .pure rfl
  | cons node rest ih =>
      cases hnodes with
      | cons hnode hrest =>
          apply (h.agrees hroot hnode _ _).bind
          rintro a _ rfl
          apply (ih (k + 1) hrest).bind
          rintro as _ rfl
          exact .pure rfl

theorem list {item : Decoder α} (h : Overlooks extra item) :
    Overlooks extra (Decoder.list item) := by
  constructor
  intro root root' node node' hroot hnode path path'
  apply (Agrees.follow hroot hnode).bind
  intro target target' htarget
  cases htarget with
  | scalar m m' anchor tag style text =>
      rcases style with - | - | - | - | -
      case plain =>
        cases text with
        | nil => exact .pure rfl
        | cons => exact .reject ..
      all_goals exact .reject ..
  | list m m' anchor hitems => exact (h.items hroot path path' 0 hitems).located ..
  | map => exact .reject ..
  | reference => exact .reject ..

/-- A field that is overlooked leaves what is known of the fields as it is. -/
theorem fields {σ : Type} {field : String → σ → Decoder σ}
    (h : ∀ name s, Overlooks extra (field name s))
    (hextra : ∀ name ∈ extra, ∀ s path node, field name s path node = Pure.pure s)
    {root root' : Node} (hroot : root.Widens extra root') (path path' : Path) (s : σ)
    {entries entries' : List (Node × Node)} (hentries : Node.EntriesWiden extra entries entries') :
    Agrees root root' Eq (Decoder.fields field path s entries)
      (Decoder.fields field path' s entries') := by
  induction entries' generalizing entries s with
  | nil =>
      cases hentries
      exact .pure rfl
  | cons entry' rest' ih =>
      cases hentries with
      | keep hkey hvalue hrest =>
          apply ((named _).agrees hroot hkey path path').bind
          rintro name _ rfl
          apply ((h name s).agrees hroot hvalue _ _).bind
          rintro s _ rfl
          exact ih s hrest
      | add m tag style hname _ hrest =>
          rw [Decoder.fields_cons_scalar, hextra _ hname, pure_bind]
          exact ih s hrest

/-- A record does not notice entries under names that are none of its fields'. -/
theorem record {σ : Type} {field : String → σ → Decoder σ} {finish : σ → Decoding α}
    (h : ∀ name s, Overlooks extra (field name s))
    (hextra : ∀ name ∈ extra, ∀ s path node, field name s path node = Pure.pure s)
    (hfinish : ∀ s root root', Agrees root root' Eq (finish s) (finish s)) (kind : String)
    (start : σ) : Overlooks extra (Decoder.record kind field start finish) := by
  constructor
  intro root root' node node' hroot hnode path path'
  apply (Agrees.follow hroot hnode).bind
  intro target target' htarget
  cases htarget with
  | scalar m m' anchor tag style text =>
      rcases style with - | - | - | - | -
      case plain =>
        cases text with
        | nil => exact (hfinish start root root').located ..
        | cons => exact .reject ..
      all_goals exact .reject ..
  | list => exact .reject ..
  | map m m' anchor hentries =>
      apply Agrees.located
      apply (fields h hextra hroot path path' start hentries).bind
      rintro s _ rfl
      exact hfinish s root root'
  | reference => exact .reject ..

theorem once {value : Decoder α} (h : Overlooks extra value) (name : String) (before : Option α) :
    Overlooks extra (Decoder.once name before value) := by
  constructor
  intro root root' node node' hroot hnode path path'
  have hvalue : Agrees root root' Eq (do return some (← value path node))
      (do return some (← value path' node')) := by
    apply (h.agrees hroot hnode path path').bind
    rintro a _ rfl
    exact .pure rfl
  unfold Decoder.once
  split
  · exact .throw _ _
  · exact hvalue

theorem ite {c : Prop} [Decidable c] {d d' : Decoder α} (h : Overlooks extra d)
    (h' : Overlooks extra d') :
    Overlooks extra (fun path node => if c then d path node else d' path node) := by
  split_ifs
  · exact h
  · exact h'

/-- What has been read of a field goes into what is known of the fields. -/
theorem update {σ : Type} {decoder : Decoder α} (h : Overlooks extra decoder) (f : α → σ) :
    Overlooks extra (fun path node => do return f (← decoder path node)) :=
  h.bind fun _ _ _ => .pure rfl

end Overlooks

end Provision.Yaml
