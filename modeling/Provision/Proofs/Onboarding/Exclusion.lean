import Mathlib.Logic.ExistsUnique
import Provision.Proofs.Onboarding.Service

namespace Provision.Onboarding

/-!
# Exclusion

Whatever the order of the steps, the lock is taken exactly while one request has it, and no two runs
go on at the same time.  Only a request that arrives meanwhile is refused, so that nothing that has
happened before keeps a service from taking the next one.
-/

variable {σ : Type}

theorem eq_of_getElem?_append_cons {α : Type} {q : α → Prop} {before after : List α} {a b : α}
    {i : Nat} (h : (before ++ a :: after)[i]? = some b) (hb : q b)
    (hothers : ∀ c ∈ before ++ after, ¬ q c) : i = before.length ∧ b = a := by
  rcases Nat.lt_trichotomy i before.length with hi | rfl | hi
  · rw [List.getElem?_append_left hi] at h
    have hmem : b ∈ before := List.mem_of_getElem? h
    exact absurd hb (hothers b (List.mem_append_left _ hmem))
  · rw [List.getElem?_append_right (Nat.le_refl _), Nat.sub_self, List.getElem?_cons_zero] at h
    exact ⟨rfl, (Option.some.inj h).symm⟩
  · obtain ⟨k, hk⟩ := Nat.exists_eq_add_of_lt hi
    have hindex : i - before.length = k + 1 := by omega
    rw [List.getElem?_append_right (Nat.le_of_lt hi), hindex, List.getElem?_cons_succ] at h
    have hmem : b ∈ after := List.mem_of_getElem? h
    exact absurd hb (hothers b (List.mem_append_right _ hmem))

namespace Service

variable {m : Machine σ} {p : Pipeline} {st st' : Service σ}

/-- The lock is free and no request is underway, or it is taken and one is. -/
inductive Exclusive : Service σ → Prop where
  | free {attempts : List Attempt} {w : World σ} (settled : ∀ a ∈ attempts, ¬ a.phase.Underway) :
      Exclusive ⟨false, attempts, w⟩
  | taken {before after : List Attempt} {a : Attempt} {w : World σ} (underway : a.phase.Underway)
      (others : ∀ b ∈ before ++ after, ¬ b.phase.Underway) :
      Exclusive ⟨true, before ++ a :: after, w⟩

theorem Exclusive.append {b : Attempt} (h : st.Exclusive) (hb : ¬ b.phase.Underway) :
    Exclusive { st with attempts := st.attempts ++ [b] } := by
  cases h with
  | free settled =>
      exact .free (List.forall_mem_append.mpr ⟨settled, List.forall_mem_singleton.mpr hb⟩)
  | @taken before after a w underway others =>
      have hothers : ∀ c ∈ before ++ (after ++ [b]), ¬ c.phase.Underway := by
        rw [← List.append_assoc]
        exact List.forall_mem_append.mpr ⟨others, List.forall_mem_singleton.mpr hb⟩
      simpa using Exclusive.taken (w := w) underway hothers

/-- No step of a request gives the lock to a second one. -/
theorem Moves.exclusive {e : Event} (h : Moves m p st e st') (hx : st.Exclusive) :
    st'.Exclusive := by
  cases h with
  | turnAway long => exact hx.append id
  | refuse fits locked => exact hx.append id
  | take fits free =>
      cases hx with
      | free settled =>
          refine .taken trivial ?_
          simpa using settled
      | taken => cases free
  | @does i a a' deed w here deeds =>
      cases hx with
      | free settled => exact absurd deeds.underway (settled a (List.mem_of_getElem? here))
      | @taken before after b w₀ underway others =>
          obtain ⟨rfl, rfl⟩ := eq_of_getElem?_append_cons here deeds.underway others
          have hset : (before ++ a :: after).set before.length a' = before ++ a' :: after := by
            simp
          rw [hset]
          rcases hd : deed.releases with _ | _
          · exact .taken (deeds.underway_iff.mpr hd) others
          · have ha' : ¬ a'.phase.Underway := by
              rw [deeds.underway_iff, hd]
              exact Bool.noConfusion
            obtain ⟨hbefore, hafter⟩ := List.forall_mem_append.mp others
            apply Exclusive.free
            exact List.forall_mem_append.mpr ⟨hbefore, List.forall_mem_cons.mpr ⟨ha', hafter⟩⟩

/-- So there is never a second one, by induction on the run. -/
theorem Run.exclusive {w : World σ} {events : List Event} (h : Run m p (initial w) events st) :
    st.Exclusive := by
  induction h with
  | start => exact .free (by simp)
  | next _ moves ih => exact moves.exclusive ih

/-- No two requests have the lock. -/
theorem Exclusive.between_unique (h : st.Exclusive) {i j : Nat} (hi : st.Between i)
    (hj : st.Between j) : i = j := by
  obtain ⟨a, ha, hau⟩ := hi
  obtain ⟨b, hb, hbu⟩ := hj
  cases h with
  | free settled => exact absurd hau (settled a (List.mem_of_getElem? ha))
  | taken underway others =>
      obtain ⟨rfl, -⟩ := eq_of_getElem?_append_cons ha hau others
      exact (eq_of_getElem?_append_cons hb hbu others).1.symm

/-- The lock is taken exactly if some request has it. -/
theorem Exclusive.locked_iff (h : st.Exclusive) : st.locked = true ↔ ∃ i, st.Between i := by
  cases h with
  | free settled =>
      constructor
      · intro hl
        cases hl
      · rintro ⟨i, hi⟩
        exact absurd hi (not_between_of_forall settled i)
  | @taken before after a w underway others =>
      exact ⟨fun _ => ⟨before.length, a, by simp, underway⟩, fun _ => rfl⟩

/-! ## Refused requests -/

theorem answer?_append_cases {a : Attempt} {locked : Bool} {w : World σ} {i : Nat} {r : Response}
    (h : answer? ⟨locked, st.attempts ++ [a], w⟩ i = some r) :
    st.answer? i = some r ∨ i = st.attempts.length ∧ a.phase.response? = some r := by
  rcases Nat.lt_or_ge i st.attempts.length with hi | hi
  · left
    rwa [answer?, List.getElem?_append_left hi] at h
  · right
    rw [answer?, List.getElem?_append_right hi] at h
    rcases hk : i - st.attempts.length with _ | k
    · rw [hk, List.getElem?_cons_zero, Option.bind_some] at h
      refine ⟨by omega, ?_⟩
      split at h
      · exact h
      · cases h
    · rw [hk] at h
      cases h

/-- An answer that another request has the lock comes at arrival, and only while the lock is
taken. -/
theorem Moves.refused {e : Event} (h : Moves m p st e st') {i : Nat} {r : Response}
    (hr : st'.answer? i = some r) (h409 : r.status = 409) :
    st.answer? i = some r ∨
      (∃ body, e = .arrive body) ∧ i = st.attempts.length ∧ st.locked = true := by
  cases h with
  | @turnAway body long =>
      rcases answer?_append_cases hr with hold | ⟨-, hnew⟩
      · exact .inl hold
      · cases hnew
        cases h409
  | @refuse body fits locked =>
      rcases answer?_append_cases hr with hold | ⟨hi, -⟩
      · exact .inl hold
      · exact .inr ⟨⟨body, rfl⟩, hi, locked⟩
  | @take body fits free =>
      rcases answer?_append_cases hr with hold | ⟨-, hnew⟩
      · exact .inl hold
      · cases hnew
  | @does j a a' deed w here deeds =>
      by_cases hij : j = i
      · subst hij
        obtain ⟨hlt, -⟩ := List.getElem?_eq_some_iff.mp here
        rw [answer?, List.getElem?_set_self hlt, Option.bind_some] at hr
        split at hr
        · exact absurd h409 (deeds.response_status hr)
        · cases hr
      · left
        rwa [answer?, List.getElem?_set_ne hij] at hr

/-- A request that has been refused came while another one had the lock. -/
theorem Run.exists_of_refused {w : World σ} {events : List Event}
    (h : Run m p (initial w) events st) {i : Nat} {r : Response} (hr : st.answer? i = some r)
    (h409 : r.status = 409) :
    ∃ earlier body later st₁ st₂, events = earlier ++ .arrive body :: later ∧
      Run m p (initial w) earlier st₁ ∧ Moves m p st₁ (.arrive body) st₂ ∧
      Run m p st₂ later st ∧ i = st₁.attempts.length ∧ ∃ j < i, st₁.Between j := by
  induction h with
  | start => cases hr
  | @next events e st₁ st₂ run moves ih =>
      rcases moves.refused hr h409 with hold | ⟨⟨body, rfl⟩, rfl, hlocked⟩
      · obtain ⟨earlier, body, later, st₃, st₄, rfl, hearlier, harrive, hlater, hi⟩ := ih hold
        exact ⟨earlier, body, later ++ [e], st₃, st₄, by simp, hearlier, harrive,
          .next hlater moves, hi⟩
      · obtain ⟨j, hj⟩ := run.exclusive.locked_iff.mp hlocked
        exact ⟨events, body, [], st₁, st₂, rfl, run, moves, .start, rfl, j, hj.lt_length, hj⟩

theorem exists_arrive (m : Machine σ) (p : Pipeline) (st : Service σ) (body : List UInt8) :
    ∃ st', Moves m p st (.arrive body) st' := by
  rcases Nat.lt_or_ge longestBody body.length with hlong | hfits
  · exact ⟨_, .turnAway hlong⟩
  · rcases hl : st.locked with _ | _
    · exact ⟨_, .take hfits hl⟩
    · exact ⟨_, .refuse hfits hl⟩

/-- A request that arrives while the lock is free takes it, if its body is not too long. -/
theorem Moves.taken_of_free {body : List UInt8} (h : Moves m p st (.arrive body) st')
    (hfree : st.locked = false) :
    (∀ r, st'.answer? st.attempts.length = some r → r.status ≠ 409) ∧
      (body.length ≤ longestBody → st'.Between st.attempts.length) := by
  constructor
  · intro r hr h409
    rcases h.refused hr h409 with hold | ⟨-, -, hlocked⟩
    · simp [answer?] at hold
    · rw [hfree] at hlocked
      cases hlocked
  · intro hfits
    cases h with
    | turnAway long => exact absurd long (Nat.not_lt.mpr hfits)
    | refuse fits locked =>
        rw [hfree] at locked
        cases locked
    | take fits free => exact ⟨⟨body, .reading, true⟩, by simp, trivial⟩

/-- In every state that can be reached the lock is taken exactly while one request has it; no two
runs go on; a request is refused only if another one had the lock when it came; and while no
request has the lock it is free, so that the next one to come is not refused. -/
theorem Run.locked_iff_existsUnique_between {w : World σ} {events : List Event}
    (h : Run m p (initial w) events st) :
    (st.locked = true ↔ ∃! i, st.Between i) ∧
      (∀ i j, st.Running i → st.Running j → i = j) ∧
      (∀ i r, st.answer? i = some r → r.status = 409 →
        ∃ earlier body later st₁ st₂, events = earlier ++ .arrive body :: later ∧
          Run m p (initial w) earlier st₁ ∧ Moves m p st₁ (.arrive body) st₂ ∧
          Run m p st₂ later st ∧ i = st₁.attempts.length ∧ ∃ j < i, st₁.Between j) ∧
      ((∀ i, ¬ st.Between i) → st.locked = false ∧
        ∀ body, (∃ st', Moves m p st (.arrive body) st') ∧
          ∀ st', Moves m p st (.arrive body) st' →
            (∀ r, st'.answer? st.attempts.length = some r → r.status ≠ 409) ∧
              (body.length ≤ longestBody → st'.Between st.attempts.length)) := by
  have hx := h.exclusive
  refine ⟨?_, ?_, ?_, ?_⟩
  · rw [hx.locked_iff]
    constructor
    · rintro ⟨i, hi⟩
      exact ⟨i, hi, fun j hj => hx.between_unique hj hi⟩
    · rintro ⟨i, hi, -⟩
      exact ⟨i, hi⟩
  · intro i j hi hj
    exact hx.between_unique hi.between hj.between
  · intro i r hr h409
    exact h.exists_of_refused hr h409
  · intro hnone
    have hfree : st.locked = false := by
      rw [← Bool.not_eq_true, hx.locked_iff]
      rintro ⟨i, hi⟩
      exact hnone i hi
    exact ⟨hfree, fun body => ⟨exists_arrive m p st body, fun st' h' => h'.taken_of_free hfree⟩⟩

/-- Of two requests that arrive, the first has the lock and the second is turned away. -/
theorem Run.existsUnique_between_of_two_arrive :
    ∃ st : Service Programs,
      Run (Host.ofRunner .boundless Programs.run).toMachine ⟨[]⟩ (initial (.of .empty .empty))
        [.arrive [], .arrive []] st ∧ (∃! i, st.Between i) ∧ st.answer? 1 = some refused := by
  have hfits : ([] : List UInt8).length ≤ longestBody := Nat.zero_le _
  have hrun := two_arrive (Host.ofRunner .boundless Programs.run).toMachine ⟨[]⟩
    (.of .empty .empty) hfits hfits
  exact ⟨_, hrun, hrun.locked_iff_existsUnique_between.1.mp rfl, rfl⟩

end Service

end Provision.Onboarding
