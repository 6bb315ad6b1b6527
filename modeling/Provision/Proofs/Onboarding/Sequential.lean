import Provision.Proofs.Onboarding.Exclusion

namespace Provision

/-!
# Runs one after the other

However the steps of requests are mixed, once no request is underway the world is as if the
pipeline had been executed for one request after the other, for those that took the lock and whose
bodies could be decoded, in the order of their arrival.  Each of them is answered as in that
sequence.
-/

variable {σ : Type}

namespace Pipeline

/-- The world after executions with one submission after the other. -/
def executeAll (m : Machine σ) (p : Pipeline) : World σ → List Submission → World σ
  | w, [] => w
  | w, s :: rest => executeAll m p (p.execute m s w).world rest

/-- The commands that executions with one submission after the other issue. -/
def issuedAll (m : Machine σ) (p : Pipeline) : World σ → List Submission → Commands
  | _, [] => []
  | w, s :: rest => p.issued m s w ++ issuedAll m p (p.execute m s w).world rest

/-- By induction on the submissions: the record holds what the executions issue, and nothing else
is different. -/
theorem executeAll_recording (m : Machine σ) (p : Pipeline) (w : World σ) (record : Commands)
    (submissions : List Submission) :
    p.executeAll m.recording (w.noting record) submissions =
      (p.executeAll m w submissions).noting (record ++ p.issuedAll m w submissions) := by
  induction submissions generalizing w record with
  | nil => simp [executeAll, issuedAll]
  | cons s rest ih =>
      rw [executeAll, (execute_recording m p s w record).2, ih, List.append_assoc]
      rfl

end Pipeline

namespace Onboarding

/-- What a request submits that has the lock, if its body can be decoded. -/
def Attempt.submission? (a : Attempt) : Option Submission :=
  if a.phase.tookLock then (Submission.parse a.body).toOption else none

/-- What has been submitted, in the order in which the lock was taken. -/
def submissions (attempts : List Attempt) : List Submission :=
  attempts.filterMap Attempt.submission?

variable {m : Machine σ} {p : Pipeline}

theorem Attempt.Does.submission?_eq {a a' : Attempt} {deed : Deed} {w w' : World σ}
    (h : a.Does m p w deed a' w') : a'.submission? = a.submission? := by
  rw [submission?, submission?, h.tookLock_eq, h.body_eq]

def Attempt.Decoded (a : Attempt) : Prop :=
  ∀ s steps failure, a.phase = .running s steps failure → Submission.parse a.body = .ok s

theorem Attempt.Does.decoded {a a' : Attempt} {deed : Deed} {w w' : World σ}
    (h : a.Does m p w deed a' w') (ha : a.Decoded) : a'.Decoded := by
  intro s steps failure hphase
  cases h with
  | hand parsed =>
      cases hphase
      exact parsed
  | act =>
      cases hphase
      exact ha _ _ _ rfl
  | fail =>
      cases hphase
      exact ha _ _ _ rfl
  | leave => exact ha s steps failure hphase
  | _ => cases hphase

theorem Attempt.Does.exists_running {a a' : Attempt} {w w' : World σ}
    (h : a.Does m p w .act a' w') :
    ∃ s steps failure, a.phase = .running s steps failure := by
  cases h <;> exact ⟨_, _, _, rfl⟩

/-- The answer to a body and the world that is left, if no other request comes between. -/
def due (m : Machine σ) (p : Pipeline) (w : World σ) (body : List UInt8) : Response × World σ :=
  match Submission.parse body with
  | .ok s => (ofFailure? (p.execute m s w).failure, (p.execute m s w).world)
  | .error e => (malformed e, w)

theorem due_recording (w : World σ) (record : Commands) (body : List UInt8) :
    (due m.recording p (w.noting record) body).1 = (due m p w body).1 := by
  unfold due
  rcases Submission.parse body with e | s
  · rfl
  · exact congrArg ofFailure? (Pipeline.execute_recording m p s w record).1

/-- A request is due a success exactly if its body can be decoded and nothing fails. -/
theorem due_eq_done_iff {w : World σ} {body : List UInt8} :
    (due m p w body).1 = done ↔
      ∃ s, Submission.parse body = .ok s ∧ (p.execute m s w).failure = none := by
  unfold due
  rcases Submission.parse body with e | s
  · have hne : malformed e ≠ done := by
      intro h
      cases congrArg Response.status h
    simp [hne]
  · rcases hf : (p.execute m s w).failure with _ | e
    · simp [hf, ofFailure?]
    · have hne : failed e ≠ done := by
        intro h
        cases congrArg Response.status h
      simp [hf, ofFailure?, hne]

/-- No request that is left to itself is told that another one is underway. -/
theorem due_status (w : World σ) (body : List UInt8) : (due m p w body).1.status ≠ 409 := by
  unfold due
  rcases Submission.parse body with e | s
  · simp [malformed_status]
  · simp only [ofFailure?_status]
    split <;> simp

def Attempt.outlook (m : Machine σ) (p : Pipeline) (w : World σ) (a : Attempt) :
    Response × World σ :=
  match a.phase with
  | .turnedAway response => (response, w)
  | .reading => due m p w a.body
  | .running s steps failure =>
    let outcome := Pipeline.runSteps m s steps w
    (ofFailure? (failure.or outcome.failure), outcome.world)
  | .ended response => (response, w)

/-- Nothing that a request does changes what comes of it. -/
theorem Attempt.Does.outlook_eq {a a' : Attempt} {deed : Deed} {w w' : World σ}
    (h : a.Does m p w deed a' w') : a'.outlook m p w' = a.outlook m p w := by
  cases h with
  | misread parsed => simp [outlook, due, parsed]
  | hand parsed =>
      simp [outlook, due, parsed, Pipeline.execute_failure, Pipeline.execute_world]
  | @act _ _ _ _ s name step rest run =>
      obtain ⟨hfailure, hworld⟩ := Pipeline.runSteps_cons_ok name rest run
      simp [outlook, hfailure, hworld]
  | @fail _ _ _ _ s name step rest e run =>
      obtain ⟨hfailure, hworld⟩ := Pipeline.runSteps_cons_error name rest run
      simp [outlook, hfailure, hworld]
  | finish => simp [outlook]
  | leave underway => rfl

theorem Phase.exists_ended {phase : Phase} (h : ¬ phase.Underway) (ht : phase.tookLock = true) :
    ∃ response, phase = .ended response := by
  cases phase with
  | turnedAway => cases ht
  | reading => exact absurd trivial h
  | running => exact absurd trivial h
  | ended response => exact ⟨response, rfl⟩

def Phase.IsTurnedAway (phase : Phase) : Prop :=
  phase = .turnedAway refused ∨ phase = .turnedAway tooLong

/-- Requests of which none is underway, that have come one after the other. -/
inductive Settles (m : Machine σ) (p : Pipeline) : World σ → List Attempt → World σ → Prop where
  | nil (w : World σ) : Settles m p w [] w
  | away {w w' : World σ} {a : Attempt} {rest : List Attempt} (turned : a.phase.IsTurnedAway)
      (others : Settles m p w rest w') : Settles m p w (a :: rest) w'
  | ended {w w' : World σ} {a : Attempt} {rest : List Attempt}
      (answered : a.phase = .ended (due m p w a.body).1)
      (others : Settles m p (due m p w a.body).2 rest w') : Settles m p w (a :: rest) w'

namespace Settles

variable {w w₁ w' : World σ} {attempts more : List Attempt}

theorem append (h : Settles m p w attempts w₁) (h' : Settles m p w₁ more w') :
    Settles m p w (attempts ++ more) w' := by
  induction h with
  | nil => exact h'
  | away turned _ ih => exact .away turned (ih h')
  | ended answered _ ih => exact .ended answered (ih h')

theorem of_turnedAway (h : ∀ a ∈ attempts, a.phase.IsTurnedAway) (w : World σ) :
    Settles m p w attempts w := by
  induction attempts with
  | nil => exact .nil w
  | cons a rest ih =>
      obtain ⟨ha, hrest⟩ := List.forall_mem_cons.mp h
      exact .away ha (ih hrest)

end Settles

theorem Phase.IsTurnedAway.not_underway {phase : Phase} (h : phase.IsTurnedAway) :
    ¬ phase.Underway := by
  rcases h with rfl | rfl <;> exact id

theorem Phase.IsTurnedAway.tookLock_eq {phase : Phase} (h : phase.IsTurnedAway) :
    phase.tookLock = false := by
  rcases h with rfl | rfl <;> rfl

theorem Settles.not_underway {w w' : World σ} {attempts : List Attempt}
    (h : Settles m p w attempts w') : ∀ a ∈ attempts, ¬ a.phase.Underway := by
  induction h with
  | nil => simp
  | away turned _ ih => exact List.forall_mem_cons.mpr ⟨turned.not_underway, ih⟩
  | ended answered _ ih =>
      refine List.forall_mem_cons.mpr ⟨?_, ih⟩
      rw [answered]
      exact id

theorem Phase.Underway.tookLock_eq {phase : Phase} (h : phase.Underway) :
    phase.tookLock = true := by
  cases phase with
  | turnedAway => exact h.elim
  | _ => rfl

theorem executeAll_cons_of_turnedAway {a : Attempt} (h : a.phase.IsTurnedAway) (w : World σ)
    (rest : List Attempt) :
    p.executeAll m w (submissions (a :: rest)) = p.executeAll m w (submissions rest) := by
  have hnone : a.submission? = none := by simp [Attempt.submission?, h.tookLock_eq]
  rw [submissions, List.filterMap_cons_none hnone]
  rfl

theorem executeAll_cons_of_tookLock {a : Attempt} (h : a.phase.tookLock = true) (w : World σ)
    (rest : List Attempt) :
    p.executeAll m w (submissions (a :: rest)) =
      p.executeAll m (due m p w a.body).2 (submissions rest) := by
  rcases hparse : Submission.parse a.body with e | s
  · have hnone : a.submission? = none := by
      simp [Attempt.submission?, hparse, Except.toOption]
    rw [submissions, List.filterMap_cons_none hnone, due, hparse]
    rfl
  · have hsome : a.submission? = some s := by
      simp [Attempt.submission?, h, hparse, Except.toOption]
    rw [submissions, List.filterMap_cons_some hsome, Pipeline.executeAll, due, hparse]
    rfl

/-- What requests leave that have come one after the other is what their submissions leave. -/
theorem Settles.world_eq {w w' : World σ} {attempts : List Attempt}
    (h : Settles m p w attempts w') : w' = p.executeAll m w (submissions attempts) := by
  induction h with
  | nil => rfl
  | away turned _ ih => rw [executeAll_cons_of_turnedAway turned, ← ih]
  | ended answered _ ih => rw [executeAll_cons_of_tookLock (by rw [answered]; rfl), ← ih]

/-- Each request that has had the lock has the answer that is due to it after those before it. -/
theorem Settles.phase_of_tookLock {w w' : World σ} {attempts : List Attempt}
    (h : Settles m p w attempts w') {i : Nat} {a : Attempt} (ha : attempts[i]? = some a)
    (ht : a.phase.tookLock = true) :
    a.phase =
      .ended (due m p (p.executeAll m w (submissions (attempts.take i))) a.body).1 := by
  induction h generalizing i with
  | nil => cases ha
  | away turned _ ih =>
      cases i with
      | zero =>
          cases ha
          rw [turned.tookLock_eq] at ht
          cases ht
      | succ i =>
          rw [List.take_succ_cons, executeAll_cons_of_turnedAway turned]
          exact ih ha
  | ended answered _ ih =>
      cases i with
      | zero =>
          cases ha
          exact answered
      | succ i =>
          rw [List.take_succ_cons, executeAll_cons_of_tookLock (by rw [answered]; rfl)]
          exact ih ha

/-- A request that has been refused has no part in what is submitted. -/
theorem Settles.submission?_of_refused {w w' : World σ} {attempts : List Attempt}
    (h : Settles m p w attempts w') {i : Nat} {a : Attempt} {r : Response}
    (ha : attempts[i]? = some a) (hr : a.phase.response? = some r) (h409 : r.status = 409) :
    a.submission? = none := by
  rcases ht : a.phase.tookLock with _ | _
  · simp [Attempt.submission?, ht]
  · rw [h.phase_of_tookLock ha ht] at hr
    cases hr
    exact absurd h409 (due_status _ _)

namespace Service

variable {w₀ : World σ} {st st' : Service σ}

/-- The requests up to one that is underway have come one after the other, and it will get what is
due to it after them.  Those that have come since have been turned away. -/
inductive Sequenced (m : Machine σ) (p : Pipeline) (w₀ : World σ) : Service σ → Prop where
  | idle {attempts : List Attempt} {w : World σ} (settles : Settles m p w₀ attempts w) :
      Sequenced m p w₀ ⟨false, attempts, w⟩
  | busy {before after : List Attempt} {a : Attempt} {w w₁ : World σ}
      (settles : Settles m p w₀ before w₁) (underway : a.phase.Underway)
      (outlook : a.outlook m p w = due m p w₁ a.body)
      (turned : ∀ b ∈ after, b.phase.IsTurnedAway) :
      Sequenced m p w₀ ⟨true, before ++ a :: after, w⟩

theorem Sequenced.append {b : Attempt} (h : st.Sequenced m p w₀) (hb : b.phase.IsTurnedAway) :
    { st with attempts := st.attempts ++ [b] }.Sequenced m p w₀ := by
  cases h with
  | idle settles => exact .idle (settles.append (.away hb (.nil _)))
  | @busy before after a w w₁ settles underway outlook turned =>
      have hturned : ∀ c ∈ after ++ [b], c.phase.IsTurnedAway :=
        List.forall_mem_append.mpr ⟨turned, List.forall_mem_singleton.mpr hb⟩
      simpa using Sequenced.busy settles underway outlook hturned

/-- Every step keeps the requests in sequence: it is a step of the one that has the lock, or
concerns a request that is turned away. -/
theorem Moves.sequenced {e : Event} (h : Moves m p st e st') (hs : st.Sequenced m p w₀) :
    st'.Sequenced m p w₀ := by
  cases h with
  | turnAway long => exact hs.append (.inr rfl)
  | refuse fits locked => exact hs.append (.inl rfl)
  | take fits free =>
      cases hs with
      | idle settles => exact .busy settles trivial rfl (by simp)
      | busy => cases free
  | @does i a a' deed w here deeds =>
      cases hs with
      | idle settles =>
          exact absurd deeds.underway (settles.not_underway a (List.mem_of_getElem? here))
      | @busy before after b w₀' w₁ settles underway outlook turned =>
          have hothers : ∀ c ∈ before ++ after, ¬ c.phase.Underway :=
            List.forall_mem_append.mpr
              ⟨settles.not_underway, fun c hc => (turned c hc).not_underway⟩
          obtain ⟨rfl, rfl⟩ := eq_of_getElem?_append_cons here deeds.underway hothers
          have hset : (before ++ a :: after).set before.length a' = before ++ a' :: after := by
            simp
          have hdue : a'.outlook m p w = due m p w₁ a'.body := by
            rw [deeds.outlook_eq, outlook, deeds.body_eq]
          rw [hset]
          rcases hd : deed.releases with _ | _
          · exact .busy settles (deeds.underway_iff.mpr hd) hdue turned
          · -- the request has ended, so that its outlook is what it has come to
            have ha' : ¬ a'.phase.Underway := by
              rw [deeds.underway_iff, hd]
              exact Bool.noConfusion
            have htook : a'.phase.tookLock = true := by
              rw [deeds.tookLock_eq, underway.tookLock_eq]
            obtain ⟨r, hr⟩ := Phase.exists_ended ha' htook
            have hended : (r, w) = due m p w₁ a'.body := by
              rw [← hdue, Attempt.outlook, hr]
            have hphase : a'.phase = .ended (due m p w₁ a'.body).1 := by
              rw [hr, ← hended]
            have hworld : (due m p w₁ a'.body).2 = w := by
              rw [← hended]
            refine .idle (settles.append (.ended hphase ?_))
            rw [hworld]
            exact .of_turnedAway turned w

/-- So they are in sequence along every run. -/
theorem Run.sequenced {events : List Event} (h : Run m p (initial w₀) events st) :
    st.Sequenced m p w₀ := by
  induction h with
  | start => exact .idle (.nil w₀)
  | next _ moves ih => exact moves.sequenced ih

/-! ## Requests that do nothing -/

theorem Moves.decoded {e : Event} (h : Moves m p st e st')
    (hst : ∀ a ∈ st.attempts, a.Decoded) : ∀ a ∈ st'.attempts, a.Decoded := by
  intro a ha
  cases h with
  | does here deeds =>
      rcases List.mem_or_eq_of_mem_set ha with hold | rfl
      · exact hst a hold
      · exact deeds.decoded (hst _ (List.mem_of_getElem? here))
  | _ =>
      rcases List.mem_append.mp ha with hold | hnew
      · exact hst a hold
      · rw [List.mem_singleton.mp hnew]
        intro s steps failure hphase
        cases hphase

theorem Run.decoded {events : List Event} (h : Run m p (initial w₀) events st) :
    ∀ a ∈ st.attempts, a.Decoded := by
  induction h with
  | start => simp [initial]
  | next _ moves ih => exact moves.decoded ih

/-- A request keeps what it submits. -/
theorem Moves.exists_getElem? {e : Event} (h : Moves m p st e st') {i : Nat} {a : Attempt}
    (ha : st.attempts[i]? = some a) :
    ∃ a', st'.attempts[i]? = some a' ∧ a'.submission? = a.submission? := by
  obtain ⟨hlt, -⟩ := List.getElem?_eq_some_iff.mp ha
  cases h with
  | @does j b b' deed w here deeds =>
      by_cases hij : j = i
      · subst hij
        rw [ha, Option.some.injEq] at here
        subst here
        exact ⟨b', List.getElem?_set_self hlt, deeds.submission?_eq⟩
      · exact ⟨a, by rw [List.getElem?_set_ne hij, ha], rfl⟩
  | _ => exact ⟨a, by rw [List.getElem?_append_left hlt, ha], rfl⟩

/-- Only requests that submit something act. -/
theorem Run.isSome_submission?_of_act {events : List Event} (h : Run m p (initial w₀) events st)
    {i : Nat} (hact : .does i .act ∈ events) :
    ∃ a, st.attempts[i]? = some a ∧ a.submission?.isSome = true := by
  induction h with
  | start => cases hact
  | @next events e st st' run moves ih =>
      have hbefore : ∃ a, st.attempts[i]? = some a ∧ a.submission?.isSome = true := by
        rcases List.mem_append.mp hact with hold | hnew
        · exact ih hold
        · rw [List.mem_singleton] at hnew
          subst hnew
          cases moves with
          | does here deeds =>
              refine ⟨_, here, ?_⟩
              obtain ⟨s, steps, failure, hphase⟩ := deeds.exists_running
              have hparse := run.decoded _ (List.mem_of_getElem? here) s steps failure hphase
              simp [Attempt.submission?, hphase, Phase.tookLock, hparse, Except.toOption]
      obtain ⟨a, ha, hsome⟩ := hbefore
      obtain ⟨a', ha', heq⟩ := moves.exists_getElem? ha
      exact ⟨a', ha', by rwa [heq]⟩

/-- Once no request is underway, all have come one after the other. -/
theorem Sequenced.settles (h : st.Sequenced m p w₀) (hdone : ∀ i, ¬ st.Between i) :
    Settles m p w₀ st.attempts st.world := by
  cases h with
  | idle settles => exact settles
  | @busy before after a w w₁ settles underway outlook turned =>
      exact absurd ⟨a, by simp, underway⟩ (hdone before.length)

/-- However the steps of requests are mixed: once no request is underway, the files and the commands
are those of executing the pipeline for one submission after the other, in the order in which the
lock was taken.  What is refused or cannot be decoded never acts, and only an act changes the world.
A client that has stayed while its request had the lock is told how its own run went in that
sequence. -/
theorem Run.world_eq_executeAll {w : World σ} {st : Service (σ × Commands)}
    {events : List Event} (h : Run m.recording p (initial (w.noting [])) events st)
    (hdone : ∀ i, ¬ st.Between i) :
    st.attempts.map Attempt.body = events.filterMap Event.body? ∧
      st.world = (p.executeAll m w (submissions st.attempts)).noting
        (p.issuedAll m w (submissions st.attempts)) ∧
      (∀ i a, st.attempts[i]? = some a →
        (∃ r, st.answer? i = some r ∧ r.status = 409) ∨
          (∃ e, Submission.parse a.body = .error e) →
        a.submission? = none ∧ .does i .act ∉ events) ∧
      (∀ (st₁ st₂ : Service (σ × Commands)) (e : Event), Moves m.recording p st₁ e st₂ →
        (∀ i, e ≠ .does i .act) → st₂.world = st₁.world) ∧
      ∀ i a, st.attempts[i]? = some a → a.phase.tookLock = true → a.present = true →
        ∀ wᵢ, wᵢ = p.executeAll m w (submissions (st.attempts.take i)) →
          (st.answer? i = some (.bare 200) ↔
            ∃ s, Submission.parse a.body = .ok s ∧ (p.execute m s wᵢ).failure = none) ∧
          (∀ e, Submission.parse a.body = .error e →
            st.answer? i = some (.error 500 ("failed to unmarshal request: " ++ e.message))) ∧
          ∀ s e, Submission.parse a.body = .ok s → (p.execute m s wᵢ).failure = some e →
            st.answer? i = some (.error 500 e.message) := by
  have hsettles := h.sequenced.settles hdone
  refine ⟨h.bodies_eq, ?_, ?_, fun _ _ _ moves hact => moves.world_eq hact, ?_⟩
  · rw [hsettles.world_eq, Pipeline.executeAll_recording, List.nil_append]
  · intro i a ha hcause
    have hnone : a.submission? = none := by
      rcases hcause with ⟨r, hr, h409⟩ | ⟨e, he⟩
      · rw [answer?, ha, Option.bind_some] at hr
        split at hr
        · exact hsettles.submission?_of_refused ha hr h409
        · cases hr
      · simp [Attempt.submission?, he, Except.toOption]
    refine ⟨hnone, ?_⟩
    intro hact
    obtain ⟨a', ha', hsome⟩ := h.isSome_submission?_of_act hact
    rw [ha, Option.some.injEq] at ha'
    subst ha'
    rw [hnone] at hsome
    cases hsome
  · intro i a ha htook hpresent wᵢ hw
    have hanswer : st.answer? i = some (due m p wᵢ a.body).1 := by
      have hphase := hsettles.phase_of_tookLock ha htook
      rw [Pipeline.executeAll_recording, due_recording, ← hw] at hphase
      rw [answer?, ha, Option.bind_some, if_pos hpresent, hphase]
      rfl
    rw [hanswer]
    refine ⟨?_, ?_, ?_⟩
    · rw [Option.some.injEq]
      exact due_eq_done_iff
    · intro e he
      rw [due, he]
      rfl
    · intro s e hs he
      rw [due, hs]
      simp only [he]
      rfl

def keyPipeline : Pipeline := ⟨[("write-psk", .copyValue "psk" "psk")]⟩

set_option maxRecDepth 4000 in
/-- The request that came while another had the lock has written nothing. -/
theorem Run.world_eq_of_two_arrive :
    ∃ (st : Service (Programs × Commands)) (events : List Event),
      Run (Host.ofRunner .boundless Programs.run).toMachine.recording keyPipeline
        (initial ((World.of .empty Programs.empty).noting [])) events st ∧
      (∀ i, ¬ st.Between i) ∧ .does 1 .act ∉ events ∧
      st.world.files.find? "psk" = some (.file []) := by
  have hfits : ([123, 125] : List UInt8).length ≤ longestBody := by decide
  have hparse : Submission.parse [123, 125] = .ok .empty := rfl
  let written : World Programs := .of { entries := [(["psk".toList], .file [])] } .empty
  have hstep : (Step.copyValue "psk" "psk").run
      (Host.ofRunner .boundless Programs.run).toMachine.recording .empty
      ((World.of .empty Programs.empty).noting []) = (none, written.noting []) := rfl
  have harrive := two_arrive (Host.ofRunner .boundless Programs.run).toMachine.recording
    keyPipeline ((World.of .empty Programs.empty).noting []) hfits hfits
  have hhand := harrive.next (.does (i := 0) rfl (.hand hparse))
  have hact := hhand.next (.does (i := 0) rfl (.act hstep))
  have hrun := hact.next (.does (i := 0) rfl .finish)
  have hdone : ∀ i, ¬ Service.Between ⟨false,
      [⟨[123, 125], .ended done, true⟩, ⟨[123, 125], .turnedAway refused, true⟩],
      written.noting ([] : Commands)⟩ i :=
    not_between_of_forall (by simp [Phase.Underway])
  obtain ⟨-, hworld, hnothing, -⟩ := hrun.world_eq_executeAll hdone
  refine ⟨_, _, hrun, hdone, (hnothing 1 _ rfl (.inl ⟨refused, rfl, rfl⟩)).2, ?_⟩
  rw [hworld]
  decide +kernel

end Service

end Onboarding

end Provision
