import Provision.Proofs.Configuration.WellFormed
import Provision.Proofs.Pipeline.Alike
import Provision.Proofs.Pipeline.Compilation
import Provision.Server.Onboarding

namespace Provision

/-!
# What the log tells about a submission

Two submissions with which an execution ends in the same way leave the same log behind, but for the
messages of what has failed.  These do not tell the submissions apart either, unless a body cannot
be read or a template cannot be rendered: such a message may quote what has been submitted.
-/

variable {σ : Type}

/-- A line without the message of what has failed. -/
def LogLine.withoutError (line : LogLine) : LogLine :=
  { line with fields := line.fields.filter fun field => field.1 ≠ "error" }

def Failure.culprit : Failure → String
  | action name _ => name
  | _ => ""

/-- A message that may quote what has been submitted. -/
def Failure.Quoting : Failure → Prop
  | unrenderable _ => True
  | action _ cause => cause.Quoting
  | _ => False

/-! ## Steps -/

namespace Step

variable {m : Machine σ} {s s' : Submission} {w w' : World σ}

/-- A step fails with the same message on worlds that are alike, unless the message may quote what
has been submitted. -/
theorem failure_eq (h : w.Alike w') (hm : m.medium.Uniform) (hu : m.units.Detached) {step : Step}
    {e e' : Failure} (he : (step.run m s w).1 = some e) (he' : (step.run m s' w').1 = some e')
    (hq : ¬ e.Quoting) (hq' : ¬ e'.Quoting) : e = e' := by
  cases step with
  | copyValue path name => exact store_failure_eq h hm he he'
  | render path template =>
      rcases hr : template.render s (w.orders 0) with cause | shown
      · simp only [run, hr, Option.some.injEq] at he
        exact absurd (he ▸ trivial) hq
      rcases hr' : template.render s' (w'.orders 0) with cause | shown'
      · simp only [run, hr', Option.some.injEq] at he'
        exact absurd (he' ▸ trivial) hq'
      simp only [run, hr] at he
      simp only [run, hr'] at he'
      exact store_failure_eq h.later hm he he'
  | command c unit =>
      have hr' := h.run hu c unit
      rcases hr : m.units.run c unit w.toDevice with ⟨cause | _, d⟩
      · rw [hr] at hr'
        simp only [run, hr, Option.some.injEq] at he
        simp only [run, hr', Option.some.injEq] at he'
        exact he.symm.trans he'
      · simp [run, hr] at he

end Step

/-! ## Executions -/

namespace Pipeline

variable {m : Machine σ} {s s' : Submission} {w w' : World σ}

def beginning (m : Machine σ) (name : String) (step : Step) : List LogLine :=
  ⟨.debug, "executing action", [("action", .text name)]⟩ :: step.log m.units

def failing (name : String) (e : Failure) : LogLine :=
  ⟨.error, "action failed", [("action", .text name), ("error", .text e.message)]⟩

theorem runSteps_of_none {name : String} {step : Step} (rest : List (String × Step))
    (h : (step.run m s w).1 = none) :
    runSteps m s ((name, step) :: rest) w =
      { runSteps m s rest (step.run m s w).2 with
        log := beginning m name step ++ (runSteps m s rest (step.run m s w).2).log } := by
  rcases hr : step.run m s w with ⟨_ | e, w₁⟩
  · simp only [runSteps, hr, beginning]
  · rw [hr] at h
    cases h

theorem runSteps_of_some {name : String} {step : Step} {e : Failure} (rest : List (String × Step))
    (h : (step.run m s w).1 = some e) :
    runSteps m s ((name, step) :: rest) w =
      ⟨some (.action name e), (step.run m s w).2, beginning m name step ++ [failing name e]⟩ := by
  rcases hr : step.run m s w with ⟨_ | e', w₁⟩
  · rw [hr] at h
    cases h
  · rw [hr] at h
    obtain rfl : e' = e := Option.some.inj h
    simp only [runSteps, hr, beginning, failing]

/-- What fails is one of the steps. -/
theorem exists_of_runSteps_failure {steps : List (String × Step)} {f : Failure}
    (h : (runSteps m s steps w).failure = some f) :
    ∃ name e, f = .action name e ∧ name ∈ steps.map Prod.fst := by
  induction steps generalizing w with
  | nil => cases h
  | cons first rest ih =>
      obtain ⟨name, step⟩ := first
      rcases hr : (step.run m s w).1 with _ | e
      · rw [runSteps_of_none rest hr] at h
        obtain ⟨name', e, hf, hmem⟩ := ih h
        exact ⟨name', e, hf, List.mem_cons_of_mem _ hmem⟩
      · rw [runSteps_of_some rest hr] at h
        exact ⟨name, e, (Option.some.inj h).symm, List.mem_cons_self⟩

def StoppedAlike (f f' : Option Failure) : Prop := f.map Failure.culprit = f'.map Failure.culprit

theorem not_stoppedAlike {name : String} {e : Failure} {steps : List (String × Step)}
    (hname : name ∉ steps.map Prod.fst) :
    ¬ StoppedAlike (some (.action name e)) (runSteps m s steps w).failure := by
  intro h
  obtain ⟨f, hf, hculprit⟩ := Option.map_eq_some_iff.mp h.symm
  obtain ⟨name', e', rfl, hmem⟩ := exists_of_runSteps_failure hf
  obtain rfl : name' = name := hculprit
  exact hname hmem

/-- Executions that stop alike do so at their first step, both of them or neither. -/
theorem StoppedAlike.cases {name : String} {step : Step} {rest : List (String × Step)}
    (hname : name ∉ rest.map Prod.fst)
    (h : StoppedAlike (runSteps m s ((name, step) :: rest) w).failure
      (runSteps m s' ((name, step) :: rest) w').failure) :
    (∃ e e', (step.run m s w).1 = some e ∧ (step.run m s' w').1 = some e') ∨
      (step.run m s w).1 = none ∧ (step.run m s' w').1 = none ∧
        StoppedAlike (runSteps m s rest (step.run m s w).2).failure
          (runSteps m s' rest (step.run m s' w').2).failure := by
  -- the failure of this step carries a name that no later step has
  rcases hr : (step.run m s w).1 with _ | e <;> rcases hr' : (step.run m s' w').1 with _ | e'
  · rw [runSteps_of_none rest hr, runSteps_of_none rest hr'] at h
    exact .inr ⟨rfl, rfl, h⟩
  · rw [runSteps_of_none rest hr, runSteps_of_some rest hr'] at h
    exact absurd h.symm (not_stoppedAlike hname)
  · rw [runSteps_of_some rest hr, runSteps_of_none rest hr'] at h
    exact absurd h (not_stoppedAlike hname)
  · exact .inl ⟨e, e', rfl, rfl⟩

/-- By induction on the steps: runs that stop at the same action log the same, but for the message
of what has failed. -/
theorem runSteps_log_withoutError {steps : List (String × Step)}
    (hnames : (steps.map Prod.fst).Nodup)
    (hend : StoppedAlike (runSteps m s steps w).failure (runSteps m s' steps w').failure) :
    (runSteps m s steps w).log.map LogLine.withoutError =
      (runSteps m s' steps w').log.map LogLine.withoutError := by
  induction steps generalizing w w' with
  | nil => rfl
  | cons first rest ih =>
      obtain ⟨name, step⟩ := first
      obtain ⟨hname, hrest⟩ := List.nodup_cons.mp hnames
      rcases hend.cases hname with ⟨e, e', hr, hr'⟩ | ⟨hr, hr', hend⟩
      · rw [runSteps_of_some rest hr, runSteps_of_some rest hr']
        simp [failing, LogLine.withoutError]
      · have hlog := ih hrest hend
        rw [runSteps_of_none rest hr, runSteps_of_none rest hr']
        simp only [List.map_append, hlog]

/-- What is logged of steps that all succeed tells nothing but the steps. -/
theorem runSteps_log_of_success {steps : List (String × Step)}
    (h : (runSteps m s steps w).failure = none) :
    (runSteps m s steps w).log = steps.flatMap fun (name, step) => beginning m name step := by
  induction steps generalizing w with
  | nil => rfl
  | cons first rest ih =>
      obtain ⟨name, step⟩ := first
      rcases hr : (step.run m s w).1 with _ | e
      · rw [runSteps_of_none rest hr] at h ⊢
        rw [List.flatMap_cons, ← ih h]
      · rw [runSteps_of_some rest hr] at h
        cases h

/-- That message is the same too, if it does not quote what has been submitted. -/
theorem runSteps_log_eq {steps : List (String × Step)} (hnames : (steps.map Prod.fst).Nodup)
    (h : w.Alike w') (hm : m.medium.Uniform) (hu : m.units.Detached)
    (hend : StoppedAlike (runSteps m s steps w).failure (runSteps m s' steps w').failure)
    (hq : ∀ f ∈ (runSteps m s steps w).failure, ¬ f.Quoting)
    (hq' : ∀ f ∈ (runSteps m s' steps w').failure, ¬ f.Quoting) :
    (runSteps m s steps w).log = (runSteps m s' steps w').log ∧
      (runSteps m s steps w).failure = (runSteps m s' steps w').failure := by
  -- the worlds stay alike as long as both executions go on
  induction steps generalizing w w' with
  | nil => exact ⟨rfl, rfl⟩
  | cons first rest ih =>
      obtain ⟨name, step⟩ := first
      obtain ⟨hname, hrest⟩ := List.nodup_cons.mp hnames
      rcases hend.cases hname with ⟨e, e', hr, hr'⟩ | ⟨hr, hr', hend⟩
      · rw [runSteps_of_some rest hr] at hq ⊢
        rw [runSteps_of_some rest hr'] at hq' ⊢
        have he : ¬ e.Quoting := hq (.action name e) rfl
        have he' : ¬ e'.Quoting := hq' (.action name e') rfl
        obtain rfl := Step.failure_eq h hm hu hr hr' he he'
        exact ⟨rfl, rfl⟩
      · rw [runSteps_of_none rest hr] at hq ⊢
        rw [runSteps_of_none rest hr'] at hq' ⊢
        obtain ⟨hlog, hfailure⟩ := ih hrest (Step.run_alike h hu hr hr') hend hq hq'
        exact ⟨by rw [hlog], hfailure⟩

/-- The steps of a valid configuration have different names. -/
theorem names_nodup {c : Configuration} (h : c.valid = true) {p : Pipeline}
    (hp : compile c.compile = .ok p) : (p.steps.map Prod.fst).Nodup := by
  have hc : c.WellFormed := .of_valid h
  rcases hsteps : compileActions c.compile.actions with e | steps
  · simp [compile, hsteps, bind, Except.bind] at hp
  · simp only [compile, hsteps, bind, Except.bind, pure, Except.pure, Except.ok.injEq] at hp
    have hname : ∀ a : Action, a.compile.name = a.name := by
      intro a
      rw [Action.compile]
      split <;> rfl
    rw [← hp, names_of_compileActions hsteps, Configuration.compile, List.map_map]
    have hcomp : Action.name ∘ Action.compile = Action.name := funext hname
    rw [hcomp]
    exact hc.actionsDistinct

theorem execute_log (m : Machine σ) (p : Pipeline) (s : Submission) (w : World σ) :
    (p.execute m s w).log = (runSteps m s p.steps w).log ++
      if (runSteps m s p.steps w).failure.isSome then []
      else [⟨.info, "onboarding complete", [("actions", .natural p.steps.length)]⟩] := by
  simp only [execute]
  split <;> simp

theorem StoppedAlike.isSome_eq {f f' : Option Failure} (h : StoppedAlike f f') :
    f.isSome = f'.isSome := by
  have hmap := congrArg Option.isSome h
  simpa using hmap

end Pipeline

namespace Onboarding

/-! ## Requests -/

inductive Ending where
  | tooLong
  | refused
  | malformed
  | stopped (action : String)
  | done
  deriving DecidableEq, Repr

def ending (m : Machine σ) (p : Pipeline) (busy : Bool) (body : List UInt8) (w : World σ) :
    Ending :=
  if longestBody < body.length then .tooLong
  else if busy then .refused
  else
    match Submission.parse body with
    | .error _ => .malformed
    | .ok s =>
      match (p.execute m s w).failure with
      | none => .done
      | some e => .stopped e.culprit

/-- No message about the request quotes what has been submitted: the body is read, and no template
fails to be rendered. -/
structure Discreet (m : Machine σ) (p : Pipeline) (body : List UInt8) (w : World σ) : Prop where
  read : ∃ s, Submission.parse body = .ok s
  rendered : ∀ s, Submission.parse body = .ok s →
    ∀ f ∈ (p.execute m s w).failure, ¬ f.Quoting

def runLog (m : Machine σ) (p : Pipeline) (s : Submission) (w : World σ) : List LogLine :=
  (p.execute m s w).log ++ ((p.execute m s w).failure.map failedLine).toList

theorem failedLine_withoutError (f : Option Failure) :
    ((f.map failedLine).toList).map LogLine.withoutError =
      if f.isSome then [⟨.error, "failed to execute action", []⟩] else [] := by
  cases f <;> simp [failedLine, LogLine.withoutError]

section Runs

variable {m : Machine σ} {p : Pipeline} {s s' : Submission} {w w' : World σ}

theorem runLog_withoutError (hnames : (p.steps.map Prod.fst).Nodup)
    (hend : Pipeline.StoppedAlike (p.execute m s w).failure (p.execute m s' w').failure) :
    (runLog m p s w).map LogLine.withoutError = (runLog m p s' w').map LogLine.withoutError := by
  rw [Pipeline.execute_failure, Pipeline.execute_failure] at hend
  have hlog := Pipeline.runSteps_log_withoutError hnames hend
  simp only [runLog, Pipeline.execute_log, Pipeline.execute_failure, List.map_append, hlog,
    failedLine_withoutError, hend.isSome_eq]

theorem runLog_of_success (h : (p.execute m s w).failure = none)
    (h' : (p.execute m s' w').failure = none) : runLog m p s w = runLog m p s' w' := by
  rw [Pipeline.execute_failure] at h h'
  simp only [runLog, Pipeline.execute_log, Pipeline.execute_failure, h, h',
    Pipeline.runSteps_log_of_success h, Pipeline.runSteps_log_of_success h']

theorem runLog_eq (hnames : (p.steps.map Prod.fst).Nodup) (halike : w.Alike w')
    (hm : m.medium.Uniform) (hu : m.units.Detached)
    (hend : Pipeline.StoppedAlike (p.execute m s w).failure (p.execute m s' w').failure)
    (hq : ∀ f ∈ (p.execute m s w).failure, ¬ f.Quoting)
    (hq' : ∀ f ∈ (p.execute m s' w').failure, ¬ f.Quoting) :
    runLog m p s w = runLog m p s' w' := by
  rw [Pipeline.execute_failure] at hq hq'
  rw [Pipeline.execute_failure, Pipeline.execute_failure] at hend
  obtain ⟨hlog, hfailure⟩ := Pipeline.runSteps_log_eq hnames halike hm hu hend hq hq'
  simp only [runLog, Pipeline.execute_log, Pipeline.execute_failure, hlog, hfailure]

end Runs

section Answers

variable {m : Machine σ} {p : Pipeline} {busy : Bool} {body body' : List UInt8} {w w' : World σ}
  {s s' : Submission}

theorem ending_eq_tooLong_iff : ending m p busy body w = .tooLong ↔ longestBody < body.length := by
  unfold ending
  split
  · simp_all
  split
  · simp_all
  · rcases Submission.parse body with e | s
    · simp_all
    · rcases hf : (p.execute m s w).failure with _ | e <;> simp_all

theorem answer_log_of_error {e : Json.Failure} (hl : ¬ longestBody < body.length)
    (hs : Submission.parse body = .error e) :
    (answer m p false body w).log = [malformedLine e] := by
  simp [answer, hl, hs]

theorem answer_log_of_ok (hl : ¬ longestBody < body.length)
    (hs : Submission.parse body = .ok s) :
    (answer m p false body w).log = runLog m p s w := by
  simp [answer, hl, hs, runLog]

/-- Requests that end alike have come of runs that stopped alike. -/
theorem stoppedAlike_of_ending_eq (hl : ¬ longestBody < body.length)
    (hl' : ¬ longestBody < body'.length) (hs : Submission.parse body = .ok s)
    (hs' : Submission.parse body' = .ok s')
    (hend : ending m p false body w = ending m p false body' w') :
    Pipeline.StoppedAlike (p.execute m s w).failure (p.execute m s' w').failure := by
  simp only [ending, hl, hl', hs, hs', if_false, Bool.false_eq_true] at hend
  rcases hf : (p.execute m s w).failure with _ | e <;>
    rcases hf' : (p.execute m s' w').failure with _ | e' <;>
      simp_all [Pipeline.StoppedAlike]

theorem ending_eq_stopped {f : Failure} (hl : ¬ longestBody < body.length)
    (hs : Submission.parse body = .ok s) (hf : (p.execute m s w).failure = some f) :
    ending m p false body w = .stopped f.culprit := by
  simp [ending, hl, hs, hf]

theorem failure_eq_none_of_done (hs : Submission.parse body = .ok s)
    (hdone : ending m p false body w = .done) : (p.execute m s w).failure = none := by
  unfold ending at hdone
  split at hdone
  · cases hdone
  · rcases hf : (p.execute m s w).failure with _ | e
    · rfl
    · simp [hs, hf] at hdone

theorem Discreet.of_failure {f : Failure} (hs : Submission.parse body = .ok s)
    (hf : (p.execute m s w).failure = some f) (hq : ¬ f.Quoting) : Discreet m p body w := by
  refine ⟨⟨s, hs⟩, ?_⟩
  intro s' hs' e he
  obtain rfl := Except.ok.inj (hs.symm.trans hs')
  obtain rfl := Option.some.inj (hf.symm.trans he)
  exact hq

end Answers

/-- Requests that end in the same way leave the same log but for messages of what has failed,
whatever the order in which each submission is copied.  They leave the same log altogether if they
succeed, and if no message quotes what has been submitted; neither medium nor units may then look
into files. -/
theorem log_eq_of_ending_eq {c : Configuration} (h : c.valid = true) {p : Pipeline}
    (hp : Pipeline.compile c.compile = .ok p) (m : Machine σ) (w : World σ)
    (orders : Nat → Arrangement) (busy : Bool) {body body' : List UInt8}
    (hend : ending m p busy body w = ending m p busy body' (w.ordered orders)) :
    (answer m p busy body w).log.map LogLine.withoutError =
        (answer m p busy body' (w.ordered orders)).log.map LogLine.withoutError ∧
      (ending m p busy body w = .done →
        (answer m p busy body w).log = (answer m p busy body' (w.ordered orders)).log) ∧
      (m.medium.Uniform → m.units.Detached → Discreet m p body w →
        Discreet m p body' (w.ordered orders) →
        (answer m p busy body w).log = (answer m p busy body' (w.ordered orders)).log) := by
  have hnames := Pipeline.names_nodup h hp
  have halike := w.alike_ordered orders
  generalize w.ordered orders = w' at hend halike ⊢
  have hlength : longestBody < body.length ↔ longestBody < body'.length := by
    rw [← ending_eq_tooLong_iff, hend, ending_eq_tooLong_iff]
  by_cases hl : longestBody < body.length
  · simp [answer, hl, hlength.mp hl]
  have hl' : ¬ longestBody < body'.length := mt hlength.mpr hl
  cases busy with
  | true => simp [answer, hl, hl']
  | false =>
      rcases hs : Submission.parse body with e | s <;>
        rcases hs' : Submission.parse body' with e' | s'
      · rw [answer_log_of_error hl hs, answer_log_of_error hl' hs']
        refine ⟨by simp [malformedLine, LogLine.withoutError], ?_, ?_⟩
        · simp [ending, hl, hs]
        · rintro - - ⟨⟨s, hread⟩, -⟩ -
          rw [hs] at hread
          cases hread
      · rcases hf : (p.execute m s' w').failure with _ | f <;>
          simp [ending, hl, hl', hs, hs', hf] at hend
      · rcases hf : (p.execute m s w).failure with _ | f <;>
          simp [ending, hl, hl', hs, hs', hf] at hend
      · have hstop := stoppedAlike_of_ending_eq hl hl' hs hs' hend
        rw [answer_log_of_ok hl hs, answer_log_of_ok hl' hs']
        refine ⟨runLog_withoutError hnames hstop, ?_, ?_⟩
        · intro hdone
          exact runLog_of_success (failure_eq_none_of_done hs hdone)
            (failure_eq_none_of_done hs' (hend ▸ hdone))
        · intro hm hu hd hd'
          exact runLog_eq hnames halike hm hu hstop (hd.rendered s hs) (hd'.rendered s' hs')

def keyed (key : String) : List UInt8 := Text.utf8 ("\x7b\"psk\":\"" ++ key ++ "\"\x7d")

theorem parse_keyed :
    Submission.parse (keyed "hunter2!") = .ok (Submission.empty.insert "psk" "hunter2!") ∧
      Submission.parse (keyed "sw0rdf1s") = .ok (Submission.empty.insert "psk" "sw0rdf1s") := by
  constructor <;> rfl

def blank : Machine Programs := (Host.ofRunner .boundless Programs.run).toMachine

/-- There are no files, and units cannot be managed. -/
def unmanaged : World Programs := .of .empty (Programs.empty.set "systemctl" none)

open Provision.Configuration (wireless) in
theorem log_eq_wireless : wireless.valid = true ∧
    ∃ p, Pipeline.compile wireless.compile = .ok p ∧
      ending blank p false (keyed "hunter2!") unmanaged = .stopped "restart-wpa" ∧
      ending blank p false (keyed "sw0rdf1s") unmanaged = .stopped "restart-wpa" ∧
      (answer blank p false (keyed "hunter2!") unmanaged).log =
        (answer blank p false (keyed "sw0rdf1s") unmanaged).log := by
  have h : wireless.valid = true := by decide +kernel
  let cause : Failure := .notStarted "systemctl" "No such file or directory (os error 2)"
  have htrial : ((Pipeline.compile wireless.compile).toOption.any fun p =>
      (p.execute blank (Submission.empty.insert "psk" "hunter2!") unmanaged).failure =
          some (.action "restart-wpa" cause) ∧
        (p.execute blank (Submission.empty.insert "psk" "sw0rdf1s") unmanaged).failure =
          some (.action "restart-wpa" cause)) = true := by
    decide +kernel
  obtain ⟨p, hp, hends⟩ := Pipeline.exists_compile_of_any htrial
  obtain ⟨hfailure, hfailure'⟩ := of_decide_eq_true hends
  obtain ⟨hs, hs'⟩ := parse_keyed
  have hstop := ending_eq_stopped (by decide +kernel) hs hfailure
  have hstop' := ending_eq_stopped (by decide +kernel) hs' hfailure'
  refine ⟨h, p, hp, hstop, hstop', ?_⟩
  obtain ⟨-, -, hlog⟩ :=
    log_eq_of_ending_eq h hp blank unmanaged unmanaged.orders false (hstop.trans hstop'.symm)
  have hquiet : ¬ (Failure.action "restart-wpa" cause).Quoting := fun h => h
  exact hlog Medium.uniform_boundless Systemctl.detached_manager (.of_failure hs hfailure hquiet)
    (.of_failure hs' hfailure' hquiet)

/-- A key that is compared with a number cannot be rendered. -/
def measuring : Configuration :=
  ⟨[⟨"w", .file "wpa.conf" (.template "\x7b\x7b lt .psk 8 \x7d\x7d" none)⟩], [],
    [⟨"psk", "", true⟩]⟩

/-- A key that a template compares with a number shows in the log. -/
theorem log_ne_of_secrets : measuring.valid = true ∧
    Submission.parse (keyed "hunter2!") = .ok (Submission.empty.insert "psk" "hunter2!") ∧
    Submission.parse (keyed "sw0rdf1s") = .ok (Submission.empty.insert "psk" "sw0rdf1s") ∧
    ∃ p, Pipeline.compile measuring.compile = .ok p ∧
      ending blank p false (keyed "hunter2!") unmanaged = .stopped "w" ∧
      ending blank p false (keyed "sw0rdf1s") unmanaged = .stopped "w" ∧
      (answer blank p false (keyed "hunter2!") unmanaged).log ≠
        (answer blank p false (keyed "sw0rdf1s") unmanaged).log := by
  let written (lines : List LogLine) : List String := lines.map fun line => line.json.render
  have htrial : ((Pipeline.compile measuring.compile).toOption.any fun p =>
      ending blank p false (keyed "hunter2!") unmanaged = .stopped "w" ∧
        ending blank p false (keyed "sw0rdf1s") unmanaged = .stopped "w" ∧
          written (answer blank p false (keyed "hunter2!") unmanaged).log ≠
            written (answer blank p false (keyed "sw0rdf1s") unmanaged).log) = true := by
    decide +kernel
  obtain ⟨p, hp, hends⟩ := Pipeline.exists_compile_of_any htrial
  obtain ⟨hend, hend', hne⟩ := of_decide_eq_true hends
  obtain ⟨hs, hs'⟩ := parse_keyed
  refine ⟨by decide +kernel, hs, hs', p, hp, hend, hend', ?_⟩
  exact fun heq => hne (congrArg written heq)

end Onboarding

end Provision
