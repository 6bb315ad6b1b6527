import Mathlib.Tactic.SplitIfs
import Provision.Yaml.Decoder

namespace Provision.Yaml

/-!
# What decoders yield

A decoder may fail; if it does not, the outcome may be known to have a property whatever node it has
been given.  There is one rule for each way in which decoders are put together.
-/

namespace Decoding

variable {α β : Type} {root : Node} {n : Nat}

theorem run_bind (d : Decoding β) (f : β → Decoding α) (root : Node) (n : Nat) :
    ((d >>= f).run root).run n =
      (d.run root).run n >>= fun r => ((f r.1).run root).run r.2 := rfl

theorem run_bind_of_ok {d : Decoding β} {b : β} {n₁ : Nat}
    (h : (d.run root).run n = .ok (b, n₁)) (f : β → Decoding α) :
    ((d >>= f).run root).run n = ((f b).run root).run n₁ := by
  rw [run_bind, h]
  rfl

theorem run_bind_eq_ok {d : Decoding β} {f : β → Decoding α} {r : α × Nat} :
    ((d >>= f).run root).run n = .ok r ↔
      ∃ b n₁, (d.run root).run n = .ok (b, n₁) ∧ ((f b).run root).run n₁ = .ok r := by
  rw [run_bind]
  rcases (d.run root).run n with e | ⟨b, n₁⟩
  · constructor
    · intro h
      cases h
    · rintro ⟨b, n₁, h, -⟩
      cases h
  · constructor
    · intro h
      exact ⟨b, n₁, rfl, h⟩
    · rintro ⟨_, _, ⟨⟩, h⟩
      exact h

/-- Where a failure is located does not matter to a success. -/
theorem run_located_eq_ok {d : Decoding α} {path : Path} {node : Node} {r : α × Nat} :
    ((Decoder.located path node d).run root).run n = .ok r ↔ (d.run root).run n = .ok r := by
  have hcatch : ((Decoder.located path node d).run root).run n =
      tryCatch ((d.run root).run n) fun e => .error (e.locate path node.mark.place) := rfl
  rw [hcatch]
  rcases (d.run root).run n with e | r'
  · constructor <;> intro h <;> cases h
  · exact Iff.rfl

end Decoding

structure Yields {α : Type} (P : α → Prop) (d : Decoding α) : Prop where
  outcome : ∀ root n a n', (d.run root).run n = .ok (a, n') → P a

namespace Yields

variable {α β : Type} {P : α → Prop} {Q : β → Prop}

theorem trivial (d : Decoding α) : Yields (fun _ => True) d := ⟨fun _ _ _ _ _ => .intro⟩

theorem pure {a : α} (h : P a) : Yields P (pure a : Decoding α) := by
  constructor
  intro root n b n' hrun
  cases hrun
  exact h

theorem throw (e : Failure) : Yields P (throw e : Decoding α) := by
  constructor
  intro root n a n' hrun
  cases hrun

theorem fail (m : Mismatch) : Yields P (Decoder.fail m) := throw _

theorem bind {d : Decoding β} {f : β → Decoding α} (hd : Yields Q d)
    (hf : ∀ b, Q b → Yields P (f b)) : Yields P (d >>= f) := by
  constructor
  intro root n a n' hrun
  obtain ⟨b, n₁, hfirst, hrest⟩ := Decoding.run_bind_eq_ok.mp hrun
  exact (hf b (hd.outcome root n b n₁ hfirst)).outcome root n₁ a n' hrest

theorem located {d : Decoding α} (h : Yields P d) (path : Path) (node : Node) :
    Yields P (Decoder.located path node d) := by
  constructor
  intro root n a n' hrun
  exact h.outcome root n a n' (Decoding.run_located_eq_ok.mp hrun)

theorem reject (expected : String) (path : Path) (node : Node) :
    Yields P (Decoder.reject expected path node) := located (fail _) path node

/-- What may be absent is as described when it is there. -/
theorem optional_of_follow {value : Decoder α} {T : Node → Prop} {path : Path} {node : Node}
    (hfollow : Yields T (Decoder.follow node))
    (h : ∀ target, T target → Yields P (value path target)) :
    Yields (fun o => ∀ a ∈ o, P a) (Decoder.optional value path node) := by
  have hsome (target : Node) (ht : T target) : Yields (fun o => ∀ a ∈ o, P a)
      (do return some (← value path target)) := by
    apply (h target ht).bind
    intro a ha
    exact pure (by simpa using ha)
  apply hfollow.bind
  rintro target ht
  split
  · rename_i mark anchor tag text
    have hrest (absent : Bool) : Yields (fun o => ∀ a ∈ o, P a)
        (if absent then Pure.pure none
          else do return some (← value path (.scalar mark anchor tag .plain text))) := by
      split
      · exact pure (by simp)
      · exact hsome _ ht
    -- however it is found out whether the value is absent
    cases tag with
    | none => exact hrest _
    | some tag =>
        dsimp only
        split_ifs <;> exact (trivial _).bind fun absent _ => hrest absent
  · exact hsome _ ht

theorem optional {value : Decoder α} (h : ∀ path node, Yields P (value path node)) (path : Path)
    (node : Node) : Yields (fun o => ∀ a ∈ o, P a) (Decoder.optional value path node) :=
  optional_of_follow (trivial _) fun target _ => h path target

theorem items {item : Decoder α} (h : ∀ path node, Yields P (item path node)) (path : Path)
    (n : Nat) (nodes : List Node) :
    Yields (fun as => ∀ a ∈ as, P a) (Decoder.items item path n nodes) := by
  induction nodes generalizing n with
  | nil => exact pure (by simp)
  | cons node rest ih =>
      apply (h _ node).bind
      intro a ha
      apply (ih (n + 1)).bind
      intro as has
      exact pure (List.forall_mem_cons.mpr ⟨ha, has⟩)

theorem list {item : Decoder α} (h : ∀ path node, Yields P (item path node)) (path : Path)
    (node : Node) : Yields (fun as => ∀ a ∈ as, P a) (Decoder.list item path node) := by
  apply (trivial (Decoder.follow node)).bind
  rintro node -
  split
  · exact (items h path 0 _).located path _
  · exact pure (by simp)
  · exact reject _ path node

/-- What each field keeps of what is known of the fields, all of them keep. -/
theorem fields {σ : Type} {I : σ → Prop} {field : String → σ → Decoder σ}
    (h : ∀ name s path node, I s → Yields I (field name s path node)) (path : Path) {s : σ}
    (hs : I s) (entries : List (Node × Node)) :
    Yields I (Decoder.fields field path s entries) := by
  induction entries generalizing s with
  | nil => exact pure hs
  | cons entry rest ih =>
      apply (trivial (Decoder.named "field identifier" path entry.1)).bind
      rintro name -
      apply (h name s _ entry.2 hs).bind
      intro s' hs'
      exact ih hs'

/-- What holds of the fields known so far, from the first to the last, carries over to the record.
-/
theorem record {σ : Type} {I : σ → Prop} {field : String → σ → Decoder σ} {start : σ}
    {finish : σ → Decoding α}
    (hfield : ∀ name s path node, I s → Yields I (field name s path node)) (hstart : I start)
    (hfinish : ∀ s, I s → Yields P (finish s)) (kind : String) (path : Path) (node : Node) :
    Yields P (Decoder.record kind field start finish path node) := by
  apply (trivial (Decoder.follow node)).bind
  rintro node -
  split
  · apply located
    exact (fields hfield path hstart _).bind hfinish
  · exact (hfinish start hstart).located path _
  · exact reject _ path node

theorem once {value : Decoder α} (h : ∀ path node, Yields P (value path node)) (name : String)
    (before : Option α) (path : Path) (node : Node) :
    Yields (fun o => ∀ a ∈ o, P a) (Decoder.once name before value path node) := by
  have hvalue : Yields (fun o => ∀ a ∈ o, P a) (do return some (← value path node)) := by
    apply (h path node).bind
    intro a ha
    exact pure (by simpa using ha)
  unfold Decoder.once
  split
  · exact (trivial (Decoder.fail _)).bind fun _ _ => hvalue
  · exact hvalue

/-- What is read of the only document of a text. -/
theorem document_of_root {decoder : Decoder α} {R : Option α → Prop} {root : Node} {alone : Bool}
    (h : Yields R (Decoder.optional decoder [] root)) {text : List Char} {o : Option α}
    (hd : Document.ofText? text = some ⟨some root, alone⟩)
    (ho : Decoder.document decoder text = .ok o) : R o := by
  rw [Decoder.document, hd] at ho
  rcases hrun : ((Decoder.optional decoder [] root).run root).run 0 with e | ⟨a, n⟩
  · dsimp only at ho
    rw [hrun] at ho
    cases ho
  · have ha := h.outcome root 0 a n hrun
    dsimp only at ho
    rw [hrun] at ho
    have hread : (if alone then .ok a else .error .severalDocuments : Except Failure _) = .ok o :=
      ho
    split_ifs at hread
    cases hread
    exact ha

theorem document {decoder : Decoder α} (h : ∀ path node, Yields P (decoder path node))
    {text : List Char} {o : Option α} (ho : Decoder.document decoder text = .ok o) :
    ∀ a ∈ o, P a := by
  rcases hd : Document.ofText? text with - | ⟨root | root, alone⟩
  · rw [Decoder.document, hd] at ho
    cases ho
  · rw [Decoder.document, hd] at ho
    cases ho
    simp
  · exact document_of_root (optional h [] root) hd ho

end Yields

end Provision.Yaml
