import Provision.Proofs.Pipeline.Recording
import Provision.Server.Onboarding

namespace Provision.Onboarding

/-!
# Requests at the same time

The steps of several requests to onboard may come in any order.  A request that arrives tries the
lock.  If it gets the lock, its body is decoded and its run is handed over to a task of its own,
which takes the lock with it; the lock is given back by a request whose body cannot be decoded, and
otherwise at the end of the run.  Nothing waits between the lock and the handing over, so that it
makes no difference there whether the client has gone; and a run goes on without its client.
-/

inductive Phase where
  /-- The request has been answered without having got the lock. -/
  | turnedAway (response : Response)
  | reading
  /-- The steps are still to be run, unless one of them has failed. -/
  | running (s : Submission) (steps : List (String × Step)) (failure : Option Failure)
  | ended (response : Response)

structure Attempt where
  body : List UInt8
  phase : Phase
  /-- Whether the client still waits for the answer. -/
  present : Bool

/-- What requests share: the lock and the world.  Requests are in the order of their arrival. -/
structure Service (σ : Type) where
  locked : Bool
  attempts : List Attempt
  world : World σ

inductive Deed where
  | misread
  | hand
  | act
  | finish
  | leave

inductive Event where
  | arrive (body : List UInt8)
  | does (i : Nat) (deed : Deed)

def Event.body? : Event → Option (List UInt8)
  | arrive body => some body
  | does .. => none

def Deed.releases : Deed → Bool
  | misread => true
  | finish => true
  | _ => false

/-- Between taking the lock and the end of the decode failure or the run. -/
def Phase.Underway : Phase → Prop
  | reading => True
  | running .. => True
  | _ => False

def Phase.tookLock : Phase → Bool
  | turnedAway _ => false
  | _ => true

variable {σ : Type}

inductive Attempt.Does (m : Machine σ) (p : Pipeline) :
    Attempt → World σ → Deed → Attempt → World σ → Prop where
  | misread {body : List UInt8} {present : Bool} {w : World σ} {e : Json.Failure}
      (parsed : Submission.parse body = .error e) :
      Does m p ⟨body, .reading, present⟩ w .misread ⟨body, .ended (malformed e), present⟩ w
  | hand {body : List UInt8} {present : Bool} {w : World σ} {s : Submission}
      (parsed : Submission.parse body = .ok s) :
      Does m p ⟨body, .reading, present⟩ w .hand ⟨body, .running s p.steps none, present⟩ w
  | act {body : List UInt8} {present : Bool} {w w' : World σ} {s : Submission} {name : String}
      {step : Step} {rest : List (String × Step)} (run : step.run m s w = (none, w')) :
      Does m p ⟨body, .running s ((name, step) :: rest) none, present⟩ w .act
        ⟨body, .running s rest none, present⟩ w'
  | fail {body : List UInt8} {present : Bool} {w w' : World σ} {s : Submission} {name : String}
      {step : Step} {rest : List (String × Step)} {e : Failure}
      (run : step.run m s w = (some e, w')) :
      Does m p ⟨body, .running s ((name, step) :: rest) none, present⟩ w .act
        ⟨body, .running s [] (some (.action name e)), present⟩ w'
  | finish {body : List UInt8} {present : Bool} {w : World σ} {s : Submission}
      {failure : Option Failure} :
      Does m p ⟨body, .running s [] failure, present⟩ w .finish
        ⟨body, .ended (ofFailure? failure), present⟩ w
  | leave {a : Attempt} {w : World σ} (underway : a.phase.Underway) :
      Does m p a w .leave { a with present := false } w

namespace Service

def initial (w : World σ) : Service σ := ⟨false, [], w⟩

/-- One step: a request arrives, or one that has arrived does something. -/
inductive Moves (m : Machine σ) (p : Pipeline) : Service σ → Event → Service σ → Prop where
  | turnAway {st : Service σ} {body : List UInt8} (long : longestBody < body.length) :
      Moves m p st (.arrive body)
        { st with attempts := st.attempts ++ [⟨body, .turnedAway tooLong, true⟩] }
  | refuse {st : Service σ} {body : List UInt8} (fits : body.length ≤ longestBody)
      (locked : st.locked = true) :
      Moves m p st (.arrive body)
        { st with attempts := st.attempts ++ [⟨body, .turnedAway refused, true⟩] }
  | take {st : Service σ} {body : List UInt8} (fits : body.length ≤ longestBody)
      (free : st.locked = false) :
      Moves m p st (.arrive body)
        { st with locked := true, attempts := st.attempts ++ [⟨body, .reading, true⟩] }
  | does {st : Service σ} {i : Nat} {a a' : Attempt} {deed : Deed} {w : World σ}
      (here : st.attempts[i]? = some a) (deeds : a.Does m p st.world deed a' w) :
      Moves m p st (.does i deed)
        ⟨st.locked && !deed.releases, st.attempts.set i a', w⟩

inductive Run (m : Machine σ) (p : Pipeline) (st₀ : Service σ) :
    List Event → Service σ → Prop where
  | start : Run m p st₀ [] st₀
  | next {events : List Event} {e : Event} {st st' : Service σ} (run : Run m p st₀ events st)
      (moves : Moves m p st e st') : Run m p st₀ (events ++ [e]) st'

/-- The request has the lock: it is between taking it and the end of its decode failure or run. -/
def Between (st : Service σ) (i : Nat) : Prop :=
  ∃ a, st.attempts[i]? = some a ∧ a.phase.Underway

def Running (st : Service σ) (i : Nat) : Prop :=
  ∃ a s steps failure, st.attempts[i]? = some a ∧ a.phase = .running s steps failure

end Service

def Phase.response? : Phase → Option Response
  | turnedAway response => some response
  | ended response => some response
  | _ => none

/-- The answer that a client has got; one that has gone gets none. -/
def Service.answer? (st : Service σ) (i : Nat) : Option Response :=
  st.attempts[i]?.bind fun a => if a.present then a.phase.response? else none

namespace Service

variable {st : Service σ}

theorem not_between_of_forall (h : ∀ a ∈ st.attempts, ¬ a.phase.Underway) (i : Nat) :
    ¬ st.Between i := by
  rintro ⟨a, ha, hunderway⟩
  exact h a (List.mem_of_getElem? ha) hunderway

theorem Between.lt_length {i : Nat} (h : st.Between i) : i < st.attempts.length := by
  obtain ⟨a, ha, -⟩ := h
  exact (List.getElem?_eq_some_iff.mp ha).1

theorem not_between_length (st : Service σ) : ¬ st.Between st.attempts.length :=
  fun h => Nat.lt_irrefl _ h.lt_length

theorem not_between_concat {a : Attempt} (ha : ¬ a.phase.Underway) (attempts : List Attempt)
    (locked : Bool) (w : World σ) :
    ¬ Between ⟨locked, attempts ++ [a], w⟩ attempts.length := by
  rintro ⟨b, hb, hunderway⟩
  rw [List.getElem?_concat_length, Option.some.injEq] at hb
  exact ha (hb ▸ hunderway)

theorem Running.between {i : Nat} (h : st.Running i) : st.Between i := by
  obtain ⟨a, s, steps, failure, ha, hphase⟩ := h
  exact ⟨a, ha, by rw [hphase]; trivial⟩

end Service

theorem malformed_status (e : Json.Failure) : (malformed e).status = 500 := rfl

theorem ofFailure?_status (failure : Option Failure) :
    (ofFailure? failure).status = if failure.isNone then 200 else 500 := by
  cases failure <;> rfl

/-! ## What a deed changes -/

namespace Attempt

variable {m : Machine σ} {p : Pipeline} {a a' : Attempt} {deed : Deed} {w w' : World σ}

theorem Does.underway (h : a.Does m p w deed a' w') : a.phase.Underway := by
  cases h with
  | leave underway => exact underway
  | _ => trivial

/-- The lock is given back exactly when a request ends. -/
theorem Does.underway_iff (h : a.Does m p w deed a' w') :
    a'.phase.Underway ↔ deed.releases = false := by
  cases h with
  | leave underway => simpa [Deed.releases] using underway
  | _ => simp [Phase.Underway, Deed.releases]

theorem Does.body_eq (h : a.Does m p w deed a' w') : a'.body = a.body := by
  cases h <;> rfl

/-- Only to act changes the world. -/
theorem Does.world_eq (h : a.Does m p w deed a' w') (hd : deed ≠ .act) : w' = w := by
  cases h with
  | act => exact absurd rfl hd
  | fail => exact absurd rfl hd
  | _ => rfl

theorem Does.tookLock_eq (h : a.Does m p w deed a' w') :
    a'.phase.tookLock = a.phase.tookLock := by
  cases h <;> rfl

/-- No deed ends in the answer that another request has the lock. -/
theorem Does.response_status (h : a.Does m p w deed a' w') {r : Response}
    (hr : a'.phase.response? = some r) : r.status ≠ 409 := by
  cases h with
  | misread parsed =>
      cases hr
      simp [malformed_status]
  | @finish _ _ _ _ failure =>
      cases hr
      rw [ofFailure?_status]
      split <;> simp
  | leave underway =>
      rcases a with ⟨body, phase, present⟩
      cases phase with
      | turnedAway => exact underway.elim
      | ended => exact underway.elim
      | reading => cases hr
      | running => cases hr
  | _ => cases hr

end Attempt

/-! ## Runs -/

section

variable {m : Machine σ} {p : Pipeline}

theorem Service.Run.append {st₀ st₁ st₂ : Service σ} {events more : List Event}
    (h : Service.Run m p st₀ events st₁) (h' : Service.Run m p st₁ more st₂) :
    Service.Run m p st₀ (events ++ more) st₂ := by
  induction h' with
  | start => simpa using h
  | next _ moves ih =>
      rw [← List.append_assoc]
      exact .next ih moves

theorem Service.Moves.run {st st' : Service σ} {e : Event} (h : Service.Moves m p st e st') :
    Service.Run m p st [e] st' :=
  .next .start h

theorem Service.Moves.world_eq {st st' : Service σ} {e : Event} (h : Service.Moves m p st e st')
    (he : ∀ i, e ≠ .does i .act) : st'.world = st.world := by
  cases h with
  | @does i a a' deed w here deeds =>
      apply deeds.world_eq
      rintro rfl
      exact he i rfl
  | _ => rfl

theorem Service.Moves.bodies_eq {st st' : Service σ} {e : Event}
    (h : Service.Moves m p st e st') :
    st'.attempts.map Attempt.body = st.attempts.map Attempt.body ++ e.body?.toList := by
  cases h with
  | @does i a a' deed w here deeds =>
      have hbody : (st.attempts.map Attempt.body)[i]? = some a'.body := by
        rw [List.getElem?_map, here, Option.map_some, deeds.body_eq]
      obtain ⟨hlt, hget⟩ := List.getElem?_eq_some_iff.mp hbody
      rw [List.map_set, ← hget, List.set_getElem_self hlt]
      simp [Event.body?]
  | _ => simp [Event.body?]

/-- The requests that a service has are those that have arrived, in their order. -/
theorem Service.Run.bodies_eq {w : World σ} {st : Service σ} {events : List Event}
    (h : Service.Run m p (.initial w) events st) :
    st.attempts.map Attempt.body = events.filterMap Event.body? := by
  induction h with
  | start => rfl
  | next _ moves ih =>
      rw [moves.bodies_eq, ih, List.filterMap_append, List.filterMap_cons]
      split <;> rename_i hbody <;> simp [hbody]

/-- Two requests arrive one right after the other: the first takes the lock, and the second is
refused. -/
theorem Service.Run.two_arrive (m : Machine σ) (p : Pipeline) (w : World σ)
    {body body' : List UInt8} (fits : body.length ≤ longestBody)
    (fits' : body'.length ≤ longestBody) :
    Service.Run m p (.initial w) [.arrive body, .arrive body']
      ⟨true, [⟨body, .reading, true⟩, ⟨body', .turnedAway refused, true⟩], w⟩ :=
  (Service.Moves.take fits rfl).run.append (Service.Moves.refuse fits' rfl).run

theorem Attempt.Does.run_last {a a' : Attempt} {deed : Deed} {w w' : World σ}
    (h : a.Does m p w deed a' w') (locked : Bool) (attempts : List Attempt) :
    Service.Run m p ⟨locked, attempts ++ [a], w⟩ [.does attempts.length deed]
      ⟨locked && !deed.releases, attempts ++ [a'], w'⟩ := by
  have hmoves : Service.Moves m p ⟨locked, attempts ++ [a], w⟩ (.does attempts.length deed)
      ⟨locked && !deed.releases, (attempts ++ [a]).set attempts.length a', w'⟩ :=
    .does (by simp) h
  simpa using hmoves.run

/-- A run that nothing comes between gets to its end, by induction on its steps. -/
theorem exists_run_steps (attempts : List Attempt) (body : List UInt8) (s : Submission)
    (steps : List (String × Step)) (w : World σ) :
    ∃ events, Service.Run m p
      ⟨true, attempts ++ [⟨body, .running s steps none, true⟩], w⟩ events
      ⟨true, attempts ++ [⟨body, .running s [] (Pipeline.runSteps m s steps w).failure, true⟩],
        (Pipeline.runSteps m s steps w).world⟩ := by
  induction steps generalizing w with
  | nil => exact ⟨[], .start⟩
  | cons first rest ih =>
      obtain ⟨name, step⟩ := first
      rcases hr : step.run m s w with ⟨_ | e, w₁⟩
      · obtain ⟨hfailure, hworld⟩ := Pipeline.runSteps_cons_ok name rest hr
        rw [hfailure, hworld]
        obtain ⟨events, hrun⟩ := ih w₁
        exact ⟨_, ((Attempt.Does.act hr).run_last true attempts).append hrun⟩
      · obtain ⟨hfailure, hworld⟩ := Pipeline.runSteps_cons_error name rest hr
        rw [hfailure, hworld]
        exact ⟨_, (Attempt.Does.fail hr).run_last true attempts⟩

/-- A request that no other comes between is answered as `answer` tells, whether the lock is free or
not, and leaves the lock as it was. -/
theorem exists_run_answer (st : Service σ) (body : List UInt8) :
    ∃ events st', Service.Run m p st events st' ∧ st'.locked = st.locked ∧
      st'.world = (answer m p st.locked body st.world).world ∧
      st'.answer? st.attempts.length =
        some (answer m p st.locked body st.world).response := by
  unfold answer
  by_cases hlong : longestBody < body.length
  · rw [if_pos hlong]
    refine ⟨_, _, (Service.Moves.turnAway hlong).run, rfl, rfl, ?_⟩
    simp [Service.answer?, Phase.response?]
  rw [if_neg hlong]
  have hfits : body.length ≤ longestBody := Nat.le_of_not_lt hlong
  by_cases hlocked : st.locked = true
  · rw [if_pos hlocked]
    refine ⟨_, _, (Service.Moves.refuse hfits hlocked).run, rfl, rfl, ?_⟩
    simp [Service.answer?, Phase.response?]
  rw [if_neg hlocked]
  have hfree : st.locked = false := by simpa using hlocked
  have htake := (Service.Moves.take (m := m) (p := p) hfits hfree).run
  rcases hparse : Submission.parse body with e | s
  · refine ⟨_, _, htake.append ((Attempt.Does.misread hparse).run_last true st.attempts),
      hfree.symm, rfl, ?_⟩
    simp [Service.answer?, Phase.response?]
  · obtain ⟨events, hsteps⟩ := exists_run_steps st.attempts body s p.steps st.world
    have hhand : Attempt.Does m p ⟨body, .reading, true⟩ st.world .hand
        ⟨body, .running s p.steps none, true⟩ st.world := .hand hparse
    refine ⟨_, _, ((htake.append (hhand.run_last true st.attempts)).append hsteps).append
      (Attempt.Does.finish.run_last true st.attempts), hfree.symm, ?_, ?_⟩
    · exact (Pipeline.execute_world m p s st.world).symm
    · simp [Service.answer?, Phase.response?, Pipeline.execute_failure]

end

end Provision.Onboarding
