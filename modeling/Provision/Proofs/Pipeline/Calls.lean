import Provision.Proofs.Pipeline.Interpretation
import Provision.Server.Basic

namespace Provision

/-!
# The programs that an execution runs

A runner can keep a record of the programs that it runs, each with its arguments.  Apart from the
record a machine goes on as it does without.  An execution runs a program for every command that it
issues and for nothing else, and a valid configuration has it issue only what its actions declare.
-/

abbrev Call : Type := String × List String

variable {σ : Type}

def Runner.traced (run : Runner σ) : Runner (σ × List Call) := fun program arguments d =>
  let (answer, d') := run program arguments d.plain
  (answer, d'.noting (d.programs.2 ++ [(program, arguments)]))

/-- The device after programs have been run on it, one after the other. -/
def Runner.after (run : Runner σ) (d : Device σ) (calls : List Call) : Device σ :=
  calls.foldl (fun d call => (run call.1 call.2 d).2) d

/-- A program leaves the files alone wherever it is run in a certain way. -/
def Runner.LeavesFiles (run : Runner σ) (call : Call) : Prop :=
  ∀ d, (run call.1 call.2 d).2.files = d.files

theorem Runner.files_after {run : Runner σ} {calls : List Call}
    (h : ∀ call ∈ calls, run.LeavesFiles call) (d : Device σ) :
    (run.after d calls).files = d.files := by
  induction calls generalizing d with
  | nil => rfl
  | cons call rest ih =>
      obtain ⟨hcall, hrest⟩ := List.forall_mem_cons.mp h
      exact (ih hrest _).trans (hcall d)

def World.after (w : World σ) (run : Runner σ) (calls : List Call) : World σ :=
  { w with toDevice := run.after w.toDevice calls }

theorem World.after_append (w : World σ) (run : Runner σ) (calls calls' : List Call) :
    w.after run (calls ++ calls') = (w.after run calls).after run calls' := by
  simp [after, Runner.after]

/-- A host that keeps a record of what it runs.  Its units are managed by one of its programs. -/
def Host.traced (h : Host σ) : Host (σ × List Call) where
  medium := h.medium
  units := Systemctl.manager h.run.traced
  run := h.run.traced
  resolve name d := h.resolve name d.plain
  breaksOff w := h.breaksOff w.plain

namespace Systemctl

def commandCall (issued : UnitCommand × String) : Call :=
  (program, commandArguments issued.1 issued.2)

def statusCall (unit : String) : Call := (program, statusArguments unit)

variable (run : Runner σ) (d : Device σ) (calls : List Call)

theorem output_traced (arguments : List String) :
    output run.traced arguments (d.noting calls) =
      ((output run arguments d).1,
        (output run arguments d).2.noting (calls ++ [(program, arguments)])) := by
  rcases hrun : run program arguments d with ⟨cause | o, d'⟩
  · simp [output, Runner.traced, hrun]
  · by_cases hexit : o.exit = 0 <;> simp [output, Runner.traced, hrun, hexit]

theorem manager_run_traced (command : UnitCommand) (unit : String) :
    (manager run.traced).run command unit (d.noting calls) =
      (((manager run).run command unit d).1,
        ((manager run).run command unit d).2.noting (calls ++ [commandCall (command, unit)])) := by
  simp only [manager, output_traced]
  rcases output run (commandArguments command unit) d with ⟨e | shown, d'⟩ <;> rfl

theorem manager_status_traced (unit : String) :
    (manager run.traced).status unit (d.noting calls) =
      (((manager run).status unit d).1,
        ((manager run).status unit d).2.noting (calls ++ [statusCall unit])) := by
  simp only [manager, output_traced]
  rcases output run (statusArguments unit) d with ⟨e | shown, d'⟩ <;> rfl

theorem manager_status_device (unit : String) :
    ((manager run).status unit d).2 = run.after d [statusCall unit] := by
  simp only [manager, output, Runner.after, statusCall, List.foldl_cons, List.foldl_nil]
  rcases run program (statusArguments unit) d with ⟨cause | o, d'⟩
  · rfl
  · by_cases hexit : o.exit = 0 <;> simp [hexit]

end Systemctl

variable (h : Host σ)

/-- On a traced host a step leaves the runs for its commands in the record, and does what else it
does. -/
theorem Step.run_traced (s : Submission) (step : Step) (w : World σ) (calls : List Call) :
    step.run h.traced.toMachine s (w.noting calls) =
      ((step.run h.managed.toMachine s w).1,
        (step.run h.managed.toMachine s w).2.noting
          (calls ++ step.commands.map Systemctl.commandCall)) := by
  have hm : h.traced.medium = h.managed.medium := rfl
  cases step with
  | copyValue path name => simpa [Step.run, commands] using store_noting hm w calls path _
  | render path template =>
      rcases hr : template.render s (w.orders 0) with e | shown
      · simp [Step.run, commands, hr]
      · simpa [Step.run, commands, hr] using store_noting hm w.later calls path shown
  | command c unit =>
      have hrun := Systemctl.manager_run_traced h.run w.toDevice calls c unit
      simp only [Step.run, Host.traced, Host.managed, World.toDevice_noting, hrun, commands]
      rcases (Systemctl.manager h.run).run c unit w.toDevice with ⟨e | ⟨⟩, d⟩ <;> rfl

def Outcome.noting {ρ : Type} (o : Outcome σ) (note : ρ) : Outcome (σ × ρ) :=
  ⟨o.failure, o.world.noting note, o.log⟩

namespace Pipeline

/-- Steps run a program for each command that they issue, in that order. -/
theorem runSteps_traced (s : Submission) (steps : List (String × Step)) (w : World σ)
    (calls : List Call) :
    let m := h.managed.toMachine
    runSteps h.traced.toMachine s steps (w.noting calls) =
      (runSteps m s steps w).noting
        (calls ++ (issuedBySteps m s steps w).map Systemctl.commandCall) := by
  intro m
  induction steps generalizing w calls with
  | nil => simp [issuedBySteps, Outcome.noting]
  | cons first rest ih =>
      obtain ⟨name, step⟩ := first
      have htraced := step.run_traced h s w calls
      rcases hr : step.run m s w with ⟨_ | e, w₁⟩
      · rw [hr] at htraced
        have hrest := ih w₁ (calls ++ step.commands.map Systemctl.commandCall)
        rw [issuedBySteps_cons_ok rest hr, List.map_append, ← List.append_assoc]
        simp only [runSteps, htraced, hr, hrest]
        rfl
      · rw [hr] at htraced
        rw [issuedBySteps_cons_error rest hr]
        simp only [runSteps, htraced, hr]
        rfl

theorem execute_traced (p : Pipeline) (s : Submission) (w : World σ) (calls : List Call) :
    let m := h.managed.toMachine
    p.execute h.traced.toMachine s (w.noting calls) =
      (p.execute m s w).noting (calls ++ (p.issued m s w).map Systemctl.commandCall) := by
  intro m
  have hsteps := runSteps_traced h s p.steps w calls
  rw [issued_eq]
  simp only [execute, hsteps]
  by_cases hfailed : (runSteps m s p.steps w).failure.isSome = true
  · rw [if_pos hfailed]
    exact if_pos hfailed
  · rw [if_neg hfailed]
    exact if_neg hfailed

end Pipeline

/-! ## What a configuration has issued -/

theorem Task.mem_commands_interpret {m : Machine σ} {s : Submission} {w : World σ} {task : Task}
    {issued : UnitCommand × String} (h : issued ∈ (task.interpret m s w).commands) :
    task = .unit issued.2 issued.1.text := by
  cases task with
  | file path content =>
      rcases ht : content.text s (w.orders 0) with e | text <;> simp [interpret, ht] at h
  | unit u word =>
      rcases hc : UnitCommand.ofText? word with _ | c
      · simp [interpret, hc] at h
      · have hissued : issued = (c, u) := by
          rcases hr : m.units.run c u w.toDevice with ⟨_ | _, d⟩ <;>
            simpa [interpret, hc, hr] using h
        rw [hissued, UnitCommand.text_of_ofText? hc]

theorem exists_of_mem_commands_interpretActions {m : Machine σ} {s : Submission} {w : World σ}
    {actions : List Action} {issued : UnitCommand × String}
    (h : issued ∈ (interpretActions m s w actions).commands) :
    ∃ a ∈ actions, a.task = .unit issued.2 issued.1.text := by
  induction actions generalizing w with
  | nil => cases h
  | cons a rest ih =>
      rcases hf : (a.task.interpret m s w).failure with _ | cause
      · rw [interpretActions_cons_ok rest hf] at h
        rcases List.mem_append.mp h with hfirst | hrest
        · exact ⟨a, .head _, Task.mem_commands_interpret hfirst⟩
        · obtain ⟨b, hb, htask⟩ := ih hrest
          exact ⟨b, .tail _ hb, htask⟩
      · rw [interpretActions_cons_error rest hf] at h
        exact ⟨a, .head _, Task.mem_commands_interpret h⟩

namespace Configuration

def DeclaresCommand (c : Configuration) (issued : UnitCommand × String) : Prop :=
  ∃ a ∈ c.actions, a.task = .unit issued.2 issued.1.text

end Configuration

/-- The pipeline of a valid configuration issues only what the configuration declares. -/
theorem Pipeline.exists_compile_declaresCommand {c : Configuration} (h : c.WellFormed) :
    ∃ p, compile c.compile = .ok p ∧
      ∀ {σ : Type} (m : Machine σ) (s : Submission) (w : World σ),
        ∀ issued ∈ p.issued m s w, c.DeclaresCommand issued := by
  obtain ⟨p, hp, hexecute⟩ := exists_compile_eq_ok h
  refine ⟨p, hp, ?_⟩
  intro σ m s w issued hissued
  obtain ⟨-, -, hcommands⟩ := hexecute m s w
  rw [hcommands] at hissued
  exact exists_of_mem_commands_interpretActions hissued

end Provision
