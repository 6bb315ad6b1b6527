import Provision.Proofs.Pipeline.Calls
import Provision.Server.Exchange

namespace Provision

/-!
# The programs that a server runs

What a server runs to answer a request depends on the route.  A submission that is accepted has it
issue the commands of its pipeline; the status of a unit, the state of the link and what the journal
says are asked of one program each; and nothing is run for a page.  The units that reach the command
line are those that actions declare and those that are asked for, as they are.
-/

variable {σ : Type}

def Exchange.noting {ρ : Type} (e : Exchange σ) (note : ρ) : Exchange (σ × ρ) :=
  ⟨e.response, e.world.noting note, e.log⟩

theorem Exchange.calls_noting (e : Exchange σ) (calls : List Call) :
    (e.noting calls).world.programs.2 = calls := rfl

theorem Route.options_notMem_methods (route : Route) : "OPTIONS" ∉ route.methods := by
  cases route <;> decide

namespace Onboarding

/-- The steps of a run, up to where it is broken off. -/
def stepsRun (h : Host σ) (p : Pipeline) (w : World σ) : List (String × Step) :=
  match h.breaksOff w with
  | none => p.steps
  | some b => p.steps.take b.steps

def calls (h : Host σ) (p : Pipeline) (busy : Bool) (body : List UInt8) (w : World σ) :
    List Call :=
  match begins? busy body with
  | none => []
  | some s =>
    (Pipeline.issuedBySteps h.toMachine s (stepsRun h p w) w).map Systemctl.commandCall

theorem answer_of_begins {m : Machine σ} {p : Pipeline} {busy : Bool} {body : List UInt8}
    {s : Submission} (hbegins : begins? busy body = some s) (w : World σ) :
    answer m p busy body w =
      let outcome := p.execute m s w
      ⟨ofFailure? outcome.failure, outcome.world,
        outcome.log ++ (outcome.failure.map failedLine).toList⟩ := by
  by_cases hlong : longestBody < body.length
  · simp [begins?, hlong] at hbegins
  · cases busy with
    | true => simp [begins?] at hbegins
    | false =>
        rcases hs : Submission.parse body with e | s'
        · simp [begins?, hlong, hs, Except.toOption] at hbegins
        · obtain rfl : s' = s := by simpa [begins?, hlong, hs, Except.toOption] using hbegins
          simp [answer, hlong, hs]

/-- An answer without a run does not depend on the machine, and leaves it as it is. -/
theorem exists_answer_of_not_begins (p : Pipeline) {busy : Bool} {body : List UInt8}
    (hbegins : begins? busy body = none) :
    ∃ response log, ∀ {τ : Type} (m : Machine τ) (w : World τ),
      answer m p busy body w = ⟨response, w, log⟩ := by
  by_cases hlong : longestBody < body.length
  · exact ⟨_, _, fun m w => if_pos hlong⟩
  · cases busy with
    | true => exact ⟨refused, [refusedLine], fun m w => by simp [answer, hlong]⟩
    | false =>
        rcases hs : Submission.parse body with e | s
        · exact ⟨malformed e, [malformedLine e], fun m w => by simp [answer, hlong, hs]⟩
        · simp [begins?, hlong, hs, Except.toOption] at hbegins

theorem answerOn_of_not_begins (h : Host σ) (p : Pipeline) {busy : Bool} {body : List UInt8}
    (hbegins : begins? busy body = none) (w : World σ) :
    answerOn h p busy body w = answer h.toMachine p busy body w := by
  rw [answerOn, hbegins]
  rfl

theorem answerOn_of_begins (h : Host σ) (p : Pipeline) {busy : Bool} {body : List UInt8}
    {s : Submission} (hbegins : begins? busy body = some s) (w : World σ) :
    answerOn h p busy body w =
      ((h.breaksOff w).bind fun b => cutShort h p s b w).getD
        (answer h.toMachine p busy body w) := by
  rw [answerOn, hbegins]
  rfl

end Onboarding

namespace Server

def statusCalls (h : Host σ) (form : List UInt8) (w : World σ) : List Call :=
  match Form.field? "unit" form with
  | none => []
  | some unit =>
    if unit = "" ∨ (h.breaksOff w).any (fun b => b.steps = 0) then []
    else [Systemctl.statusCall unit]

def linkCall (interface : String) : Call := (linkProgram, linkArguments interface)

def journalCall (matchers : List String) : Call := (Journal.program, Journal.arguments matchers)

def callsAtRoute (h : Host σ) (s : Server) (busy : Bool) (r : Request) (w : World σ) :
    Route → List Call
  | .onboard => Onboarding.calls h s.pipeline busy r.body w
  | .unitStatus => statusCalls h r.form w
  | .linkStatus => [linkCall s.interface]
  | .addresses => []
  | .networkLog => [journalCall (Journal.networkMatchers s.interface)]
  | .accessLog => [journalCall (Journal.accessMatchers s.interface)]

def calls (h : Host σ) (s : Server) (busy : Bool) (r : Request) (w : World σ) : List Call :=
  match Route.ofPath? r.path with
  | none => []
  | some route => if r.method ∈ route.methods then callsAtRoute h s busy r w route else []

variable (h : Host σ) (w : World σ) (before : List Call)

/-- A run that is broken off has left in the record what it has come to. -/
theorem cutShort_traced (p : Pipeline) (v : Submission) (b : Break) :
    Onboarding.cutShort h.traced p v b (w.noting before) =
      (Onboarding.cutShort h.managed p v b w).map fun e =>
        e.noting (before ++ (Pipeline.issuedBySteps h.managed.toMachine v (p.steps.take b.steps)
          w).map Systemctl.commandCall) := by
  have hrun := Pipeline.runSteps_traced h v (p.steps.take b.steps) w before
  simp only [Onboarding.cutShort, hrun, Outcome.noting]
  split <;> rfl

theorem answer_traced_of_begins (p : Pipeline) {busy : Bool} {body : List UInt8} {v : Submission}
    (hbegins : Onboarding.begins? busy body = some v) :
    Onboarding.answer h.traced.toMachine p busy body (w.noting before) =
      (Onboarding.answer h.managed.toMachine p busy body w).noting
        (before ++ (p.issued h.managed.toMachine v w).map Systemctl.commandCall) := by
  rw [Onboarding.answer_of_begins hbegins, Onboarding.answer_of_begins hbegins,
    p.execute_traced h v w before]
  rfl

theorem onboarding_traced (p : Pipeline) (busy : Bool) (body : List UInt8) :
    Onboarding.answerOn h.traced p busy body (w.noting before) =
      (Onboarding.answerOn h.managed p busy body w).noting
        (before ++ Onboarding.calls h.managed p busy body w) := by
  have hbreaks : h.traced.breaksOff (w.noting before) = h.managed.breaksOff w := rfl
  rcases hbegins : Onboarding.begins? busy body with _ | v
  · obtain ⟨response, log, hanswer⟩ := Onboarding.exists_answer_of_not_begins p hbegins
    rw [Onboarding.answerOn_of_not_begins _ _ hbegins,
      Onboarding.answerOn_of_not_begins _ _ hbegins, hanswer, hanswer]
    simp [Onboarding.calls, hbegins, Exchange.noting]
  · rw [Onboarding.answerOn_of_begins _ _ hbegins, Onboarding.answerOn_of_begins _ _ hbegins,
      hbreaks, answer_traced_of_begins h w before p hbegins, Pipeline.issued_eq]
    simp only [Onboarding.calls, hbegins, Onboarding.stepsRun]
    rcases h.managed.breaksOff w with _ | b
    · rfl
    · simp only [Option.bind_some, cutShort_traced]
      rcases hcut : Onboarding.cutShort h.managed p v b w with _ | e
      · -- the run has failed before it could be broken off
        have hfailed : (Pipeline.runSteps h.managed.toMachine v (p.steps.take b.steps)
            w).failure.isSome = true := by
          by_contra hnone
          simp [Onboarding.cutShort, hnone] at hcut
        rw [← Pipeline.issuedBySteps_append_of_failure hfailed (p.steps.drop b.steps),
          List.take_append_drop]
        rfl
      · rfl

theorem unitStatus_traced (form : List UInt8) :
    unitStatus h.traced form (w.noting before) =
      (unitStatus h.managed form w).noting (before ++ statusCalls h.managed form w) := by
  have hbreaks : h.traced.breaksOff (w.noting before) = h.managed.breaksOff w := rfl
  rw [unitStatus, unitStatus]
  split
  · next hfield => simp [statusCalls, hfield, Exchange.noting]
  · next hfield => simp [statusCalls, hfield, Exchange.noting]
  · next unit hgiven hfield =>
    have hunit : unit ≠ "" := hgiven
    have hstatus : h.traced.units.status unit (w.noting before).toDevice = _ :=
      Systemctl.manager_status_traced h.run w.toDevice before unit
    have hmanaged : h.managed.units.status unit w.toDevice =
      (Systemctl.manager h.run).status unit w.toDevice := rfl
    simp only [statusCalls, hfield, hbreaks, hstatus, hmanaged]
    rcases (Systemctl.manager h.run).status unit w.toDevice with ⟨result, d⟩
    rcases h.managed.breaksOff w with _ | b
    · rcases result with e | status <;> simp [hunit] <;> rfl
    · by_cases hsteps : b.steps = 0 <;> simp [hunit, hsteps] <;> rfl

theorem run_traced (program : String) (arguments : List String) :
    h.traced.run program arguments (w.noting before).toDevice =
      ((h.managed.run program arguments w.toDevice).1,
        (h.managed.run program arguments w.toDevice).2.noting
          (before ++ [(program, arguments)])) := rfl

theorem linkStatus_traced (interface : String) :
    linkStatus h.traced interface (w.noting before) =
      (linkStatus h.managed interface w).noting (before ++ [linkCall interface]) := by
  simp only [linkStatus, run_traced]
  rcases h.managed.run linkProgram (linkArguments interface) w.toDevice with ⟨cause | o, d⟩
  · rfl
  · by_cases hexit : o.exit = 0
    · rcases hparse : LinkStatus.parse o.stdout with e | status <;>
        simp [hexit, hparse, Exchange.noting, World.noting, linkCall]
    · simp [hexit, Exchange.noting, World.noting, linkCall, complaint]

theorem journal_traced (matchers : List String) :
    journal h.traced matchers (w.noting before) =
      (journal h.managed matchers w).noting (before ++ [journalCall matchers]) := by
  simp only [journal, run_traced]
  rcases h.managed.run Journal.program (Journal.arguments matchers) w.toDevice
    with ⟨cause | o, d⟩ <;> rfl

theorem addresses_traced (form : List UInt8) :
    addresses h.traced form (w.noting before) = (addresses h.managed form w).noting before := by
  rcases hfield : Form.field? "endpoint" form with _ | endpoint
  · simp only [addresses, hfield]
    rfl
  · simp only [addresses, hfield]
    rcases Endpoint.parse? endpoint.toList with _ | e
    · rfl
    · have hresolve : h.traced.resolve e.host (w.noting before).toDevice =
        h.managed.resolve e.host w.toDevice := rfl
      simp only [hresolve]
      rcases h.managed.resolve e.host w.toDevice with cause | _ | ⟨a, rest⟩ <;> rfl

/-- At a route nothing is run but what is recorded, and nothing else is different. -/
theorem atRoute_traced (s : Server) (busy : Bool) (r : Request) (route : Route) :
    atRoute h.traced s busy r (w.noting before) route =
      (atRoute h.managed s busy r w route).noting
        (before ++ callsAtRoute h.managed s busy r w route) := by
  cases route with
  | onboard => exact onboarding_traced h w before s.pipeline busy r.body
  | unitStatus => exact unitStatus_traced h w before r.form
  | linkStatus => exact linkStatus_traced h w before s.interface
  | addresses => simpa [atRoute, callsAtRoute] using addresses_traced h w before r.form
  | networkLog => exact journal_traced h w before _
  | accessLog => exact journal_traced h w before _

theorem answer_traced (s : Server) (busy : Bool) (r : Request) :
    s.answer h.traced busy r (w.noting before) =
      (s.answer h.managed busy r w).noting (before ++ s.calls h.managed busy r w) := by
  have hat : answerAt h.traced s busy r (w.noting before) (Route.ofPath? r.path) =
      (answerAt h.managed s busy r w (Route.ofPath? r.path)).noting
        (before ++ s.calls h.managed busy r w) := by
    rw [calls]
    rcases Route.ofPath? r.path with _ | route
    · simp [answerAt, Exchange.noting]
    · by_cases hmethod : r.method ∈ route.methods
      · simpa [answerAt, hmethod] using atRoute_traced h w before s busy r route
      · simp [answerAt, hmethod, Exchange.noting]
  by_cases hoptions : r.method = "OPTIONS"
  · have hcalls : s.calls h.managed busy r w = [] := by
      rw [calls]
      rcases Route.ofPath? r.path with _ | route
      · rfl
      · exact if_neg (hoptions ▸ route.options_notMem_methods)
    simp [answer, hoptions, hcalls, Exchange.noting]
  · simp only [answer, if_neg hoptions, hat]
    rfl

end Server

/-! ## The units on the command line -/

/-- A run that an action declares: its unit is in the grammar and stands on the command line as it
is. -/
def Configuration.DeclaresCall (c : Configuration) (call : Call) : Prop :=
  ∃ a ∈ c.actions, ∃ (command : UnitCommand) (unit : String),
    a.task = .unit unit command.text ∧ unit ≠ "" ∧ UnitName.InGrammar unit ∧
      call = ("systemctl", [command.text, unit])

/-- A run that a request asks for: its unit is given by the query. -/
def Request.AsksCall (r : Request) (call : Call) : Prop :=
  r.path = "/api/v1/status/systemd" ∧ ∃ unit, unit ≠ "" ∧ Form.field? "unit" r.form = some unit ∧
    call = ("systemctl", ["show", unit, "--property", "Result", "--property", "SubState"])

namespace Configuration

variable {c : Configuration}

/-- In a well-formed configuration a unit is not taken for an option: it stands on the command
line as it is. -/
theorem WellFormed.declaresCall (h : c.WellFormed) {issued : UnitCommand × String}
    (hissued : c.DeclaresCommand issued) : c.DeclaresCall (Systemctl.commandCall issued) := by
  obtain ⟨a, ha, htask⟩ := hissued
  have husable : UnitName.Usable issued.2 := by
    have hformed := h.tasks a ha
    rw [htask] at hformed
    exact hformed.1
  exact ⟨a, ha, issued.1, issued.2, htask, husable.1.ne_empty, husable.1, rfl⟩

end Configuration

namespace Server

theorem asksCall_of_mem_statusCalls {h : Host σ} {r : Request} {w : World σ}
    (hpath : Route.ofPath? r.path = some .unitStatus) {call : Call}
    (hcall : call ∈ statusCalls h r.form w) : r.AsksCall call := by
  refine ⟨(Route.path_of_ofPath? hpath).symm, ?_⟩
  rcases hfield : Form.field? "unit" r.form with _ | unit
  · simp [statusCalls, hfield] at hcall
  · rw [statusCalls, hfield] at hcall
    simp only [] at hcall
    split at hcall
    · cases hcall
    · next hgiven =>
        exact ⟨unit, fun hempty => hgiven (.inl hempty), rfl, List.mem_singleton.mp hcall⟩

theorem exists_of_mem_onboardingCalls {h : Host σ} {p : Pipeline} {busy : Bool}
    {body : List UInt8} {w : World σ} {call : Call}
    (hcall : call ∈ Onboarding.calls h p busy body w) :
    ∃ s, ∃ issued ∈ p.issued h.toMachine s w, call = Systemctl.commandCall issued := by
  rw [Onboarding.calls] at hcall
  rcases hbegins : Onboarding.begins? busy body with _ | s
  · rw [hbegins] at hcall
    cases hcall
  · rw [hbegins] at hcall
    obtain ⟨issued, hissued, rfl⟩ := List.mem_map.mp hcall
    refine ⟨s, issued, ?_, rfl⟩
    rw [Onboarding.stepsRun] at hissued
    rw [Pipeline.issued_eq]
    split at hissued
    · exact hissued
    · next b _ =>
      rw [← List.take_append_drop b.steps p.steps]
      exact (Pipeline.issuedBySteps_isPrefix _ _ _ _ _).subset hissued

/-- The manager of units is run for a command of the pipeline or for the unit that is asked for. -/
theorem exists_of_mem_calls {h : Host σ} {s : Server} {busy : Bool} {r : Request} {w : World σ}
    {call : Call} (hcall : call ∈ s.calls h busy r w) (hprogram : call.1 = Systemctl.program) :
    (∃ v, ∃ issued ∈ s.pipeline.issued h.toMachine v w, call = Systemctl.commandCall issued) ∨
      r.AsksCall call := by
  rw [calls] at hcall
  rcases hpath : Route.ofPath? r.path with _ | route
  · rw [hpath] at hcall
    cases hcall
  · rw [hpath] at hcall
    simp only [] at hcall
    split at hcall
    · cases route with
      | onboard => exact .inl (exists_of_mem_onboardingCalls hcall)
      | unitStatus => exact .inr (asksCall_of_mem_statusCalls hpath hcall)
      | linkStatus =>
          rw [List.mem_singleton.mp hcall] at hprogram
          exact absurd hprogram (by decide : linkProgram ≠ Systemctl.program)
      | addresses => cases hcall
      | networkLog =>
          rw [List.mem_singleton.mp hcall] at hprogram
          exact absurd hprogram (by decide : Journal.program ≠ Systemctl.program)
      | accessLog =>
          rw [List.mem_singleton.mp hcall] at hprogram
          exact absurd hprogram (by decide : Journal.program ≠ Systemctl.program)
    · cases hcall

/-- The units on the command line of the manager of units are not empty.  Those of an execution are
declared by an action of the configuration, which has to be valid, and those that a request adds are
given by its query.  Each stands on the command line as it is given, with nothing that tells it from
an option. -/
theorem exists_server_unit_given {c : Configuration} (hc : c.valid = true) (interface : String) :
    ∃ s, ofConfiguration c.compile interface = .ok s ∧
      ∀ {σ : Type} (h : Host σ) (w : World σ),
        (∀ submission, ∀ call ∈ (s.pipeline.execute h.traced.toMachine submission
          (w.noting [])).world.programs.2, c.DeclaresCall call) ∧
        ∀ busy r, ∀ call ∈ (s.answer h.traced busy r (w.noting [])).world.programs.2,
          call.1 = "systemctl" → c.DeclaresCall call ∨ r.AsksCall call := by
  have hformed : c.WellFormed := by
    rw [← Configuration.messages_eq_nil_iff, ← List.isEmpty_iff]
    exact hc
  obtain ⟨p, hp, hissued⟩ := Pipeline.exists_compile_declaresCommand hformed
  refine ⟨of c.compile p interface, ?_, ?_⟩
  · simp only [ofConfiguration, hp, bind, Except.bind, pure, Except.pure]
  intro σ h w
  constructor
  · intro submission call hcall
    have hexecute := (of c.compile p interface).pipeline.execute_traced h submission w []
    rw [hexecute, List.nil_append] at hcall
    obtain ⟨issued, hmem, rfl⟩ := List.mem_map.mp hcall
    exact hformed.declaresCall (hissued _ _ _ issued hmem)
  · intro busy r call hcall hprogram
    rw [answer_traced, Exchange.calls_noting, List.nil_append] at hcall
    rcases exists_of_mem_calls hcall hprogram with ⟨v, issued, hmem, rfl⟩ | hasked
    · exact .inl (hformed.declaresCall (hissued _ _ _ issued hmem))
    · exact .inr hasked

def silentHost : Host Unit := .ofRunner .boundless fun _ _ d => (.ok .silent, d)

theorem exists_server_wireless : Configuration.wireless.valid = true ∧
    ∃ s, ofConfiguration Configuration.wireless.compile "wlan0" = .ok s ∧
      ∀ submission, ∀ call ∈ (s.pipeline.execute silentHost.traced.toMachine submission
        ((World.of .empty ()).noting [])).world.programs.2,
        call = ("systemctl", ["restart", "wpa_supplicant@wlan0.service"]) := by
  obtain ⟨s, hs, hcalls⟩ := exists_server_unit_given Configuration.wireless_valid "wlan0"
  refine ⟨Configuration.wireless_valid, s, hs, ?_⟩
  intro submission call hcall
  obtain ⟨hexecute, -⟩ := hcalls silentHost (.of .empty ())
  obtain ⟨a, ha, command, unit, htask, -, -, rfl⟩ := hexecute submission call hcall
  have hdeclared :
      Task.unit unit command.text = .unit "wpa_supplicant@wlan0.service" "restart" := by
    simp only [Configuration.wireless, List.mem_cons, List.not_mem_nil, or_false] at ha
    rcases ha with rfl | rfl | rfl
    · cases htask
    · cases htask
    · exact htask.symm
  obtain ⟨rfl, hcommand⟩ := Task.unit.inj hdeclared
  rw [hcommand]

def remounting : Configuration := ⟨[⟨"root", .unit "-.mount" "restart"⟩], [], []⟩

/-- Both a unit in the grammar and one that is asked for can begin with a hyphen, as options do. -/
theorem exists_server_hyphen : remounting.valid = true ∧
    ∃ s, ofConfiguration remounting.compile "wlan0" = .ok s ∧
      (s.pipeline.execute silentHost.traced.toMachine .empty
          ((World.of .empty ()).noting [])).world.programs.2 =
        [("systemctl", ["restart", "-.mount"])] ∧
      (s.answer silentHost.traced false
          ⟨"GET", "/api/v1/status/systemd", "unit=--version".toList, []⟩
          ((World.of .empty ()).noting [])).world.programs.2 =
        [("systemctl",
          ["show", "--version", "--property", "Result", "--property", "SubState"])] := by
  refine
    ⟨rfl, of remounting.compile ⟨[("root", .command .restart "-.mount")]⟩ "wlan0", rfl, rfl, ?_⟩
  rw [answer_traced, Exchange.calls_noting]
  rfl

end Server

end Provision
