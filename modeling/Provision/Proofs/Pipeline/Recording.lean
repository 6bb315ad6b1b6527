import Provision.Pipeline

namespace Provision

/-!
# The commands of an execution

A machine can keep a record of the commands that it is given on units.  Apart from the record an
execution goes on it as it does without, so that the record tells which commands are issued.
-/

abbrev Commands : Type := List (UnitCommand × String)

variable {σ ρ : Type}

/-! ## Notes on a device -/

def Device.noting (d : Device σ) (note : ρ) : Device (σ × ρ) := ⟨d.files, (d.programs, note)⟩

def Device.plain (d : Device (σ × ρ)) : Device σ := ⟨d.files, d.programs.1⟩

@[simp] theorem Device.programs_noting (d : Device σ) (note : ρ) :
    (d.noting note).programs = (d.programs, note) := rfl

@[simp] theorem Device.plain_noting (d : Device σ) (note : ρ) : (d.noting note).plain = d := rfl

@[simp] theorem Device.noting_plain (d : Device (σ × ρ)) : d.plain.noting d.programs.2 = d := rfl

def World.noting (w : World σ) (note : ρ) : World (σ × ρ) := ⟨w.toDevice.noting note, w.orders⟩

def World.plain (w : World (σ × ρ)) : World σ := ⟨w.toDevice.plain, w.orders⟩

@[simp] theorem World.toDevice_noting (w : World σ) (note : ρ) :
    (w.noting note).toDevice = w.toDevice.noting note := rfl

@[simp] theorem World.orders_noting (w : World σ) (note : ρ) :
    (w.noting note).orders = w.orders := rfl

@[simp] theorem World.plain_noting (w : World σ) (note : ρ) : (w.noting note).plain = w := rfl

@[simp] theorem World.noting_plain (w : World (σ × ρ)) : w.plain.noting w.programs.2 = w := rfl

@[simp] theorem World.later_noting (w : World σ) (note : ρ) :
    (w.noting note).later = w.later.noting note := rfl

/-- To store a text goes on in the same way whatever is noted. -/
theorem Step.store_noting {m : Machine σ} {m' : Machine (σ × ρ)} (hm : m'.medium = m.medium)
    (w : World σ) (note : ρ) (path text : String) :
    store m' (w.noting note) path text =
      ((store m w path text).1, (store m w path text).2.noting note) := by
  simp only [store, hm]
  rcases hw : w.files.write m.medium path (Text.utf8 text) with ⟨_ | e, files⟩ <;>
    simp only [World.noting, Device.noting, hw]

/-! ## Recorded commands -/

def UnitManager.recording (u : UnitManager σ) : UnitManager (σ × Commands) where
  run command unit d :=
    let (answer, d') := u.run command unit d.plain
    (answer, d'.noting (d.programs.2 ++ [(command, unit)]))
  status unit d :=
    let (answer, d') := u.status unit d.plain
    (answer, d'.noting d.programs.2)
  log := u.log

def Machine.recording (m : Machine σ) : Machine (σ × Commands) := ⟨m.medium, m.units.recording⟩

/-- The command of a step, if it is one. -/
def Step.commands : Step → Commands
  | command c unit => [(c, unit)]
  | _ => []

/-- The record grows by the command of the step, if it is one, and nothing else is different. -/
theorem Step.run_recording (m : Machine σ) (s : Submission) (step : Step) (w : World σ)
    (record : Commands) :
    step.run m.recording s (w.noting record) =
      ((step.run m s w).1, (step.run m s w).2.noting (record ++ step.commands)) := by
  cases step with
  | copyValue path name => simpa [run, commands] using store_noting rfl w record path _
  | render path template =>
      rcases hr : template.render s (w.orders 0) with e | shown
      · simp [run, commands, hr]
      · simpa [run, commands, hr] using store_noting rfl w.later record path shown
  | command c unit =>
      rcases hr : m.units.run c unit w.toDevice with ⟨_ | _, d⟩ <;>
        simp [run, commands, Machine.recording, UnitManager.recording, hr, World.noting]

namespace Pipeline

def issuedBySteps (m : Machine σ) (s : Submission) (steps : List (String × Step)) (w : World σ) :
    Commands :=
  (runSteps m.recording s steps (w.noting [])).world.programs.2

/-- The commands that an execution issues. -/
def issued (m : Machine σ) (p : Pipeline) (s : Submission) (w : World σ) : Commands :=
  (p.execute m.recording s (w.noting [])).world.programs.2

theorem execute_failure (m : Machine σ) (p : Pipeline) (s : Submission) (w : World σ) :
    (p.execute m s w).failure = (runSteps m s p.steps w).failure := by
  simp only [execute]
  split <;> rfl

theorem execute_world (m : Machine σ) (p : Pipeline) (s : Submission) (w : World σ) :
    (p.execute m s w).world = (runSteps m s p.steps w).world := by
  simp only [execute]
  split <;> rfl

theorem issued_eq (m : Machine σ) (p : Pipeline) (s : Submission) (w : World σ) :
    p.issued m s w = issuedBySteps m s p.steps w := by
  rw [issued, execute_world, issuedBySteps]

@[simp] theorem runSteps_nil (m : Machine σ) (s : Submission) (w : World σ) :
    runSteps m s [] w = ⟨none, w, []⟩ := rfl

theorem runSteps_cons_ok {m : Machine σ} {s : Submission} {step : Step} {w w₁ : World σ}
    (name : String) (rest : List (String × Step)) (h : step.run m s w = (none, w₁)) :
    (runSteps m s ((name, step) :: rest) w).failure = (runSteps m s rest w₁).failure ∧
      (runSteps m s ((name, step) :: rest) w).world = (runSteps m s rest w₁).world := by
  simp [runSteps, h]

theorem runSteps_cons_error {m : Machine σ} {s : Submission} {step : Step} {e : Failure}
    {w w₁ : World σ} (name : String) (rest : List (String × Step))
    (h : step.run m s w = (some e, w₁)) :
    (runSteps m s ((name, step) :: rest) w).failure = some (.action name e) ∧
      (runSteps m s ((name, step) :: rest) w).world = w₁ := by
  simp [runSteps, h]

/-- A record that has been begun goes on by the same commands whatever it holds already. -/
theorem exists_runSteps_recording (m : Machine σ) (s : Submission) (steps : List (String × Step))
    (w : World σ) :
    ∃ commands, ∀ record,
      (runSteps m.recording s steps (w.noting record)).failure = (runSteps m s steps w).failure ∧
        (runSteps m.recording s steps (w.noting record)).world =
          (runSteps m s steps w).world.noting (record ++ commands) := by
  induction steps generalizing w with
  | nil => exact ⟨[], fun record => ⟨rfl, by simp⟩⟩
  | cons first rest ih =>
      obtain ⟨name, step⟩ := first
      rcases hr : step.run m s w with ⟨_ | e, w₁⟩
      · obtain ⟨commands, hrest⟩ := ih w₁
        refine ⟨step.commands ++ commands, fun record => ?_⟩
        have hrec := step.run_recording m s w record
        rw [hr] at hrec
        obtain ⟨hf, hw⟩ := runSteps_cons_ok name rest hrec
        obtain ⟨hf', hw'⟩ := runSteps_cons_ok name rest hr
        rw [hf, hw, hf', hw', ← List.append_assoc]
        exact hrest (record ++ step.commands)
      · refine ⟨step.commands, fun record => ?_⟩
        have hrec := step.run_recording m s w record
        rw [hr] at hrec
        obtain ⟨hf, hw⟩ := runSteps_cons_error name rest hrec
        obtain ⟨hf', hw'⟩ := runSteps_cons_error name rest hr
        rw [hf, hw, hf', hw']
        exact ⟨rfl, rfl⟩

/-- By induction on the steps. -/
theorem runSteps_recording (m : Machine σ) (s : Submission) (steps : List (String × Step))
    (w : World σ) (record : Commands) :
    (runSteps m.recording s steps (w.noting record)).failure = (runSteps m s steps w).failure ∧
      (runSteps m.recording s steps (w.noting record)).world =
        (runSteps m s steps w).world.noting (record ++ issuedBySteps m s steps w) := by
  obtain ⟨commands, h⟩ := exists_runSteps_recording m s steps w
  have hissued : issuedBySteps m s steps w = commands := by
    rw [issuedBySteps, (h []).2]
    rfl
  rw [hissued]
  exact h record

/-- Keeping a record does not change an execution. -/
theorem execute_recording (m : Machine σ) (p : Pipeline) (s : Submission) (w : World σ)
    (record : Commands) :
    (p.execute m.recording s (w.noting record)).failure = (p.execute m s w).failure ∧
      (p.execute m.recording s (w.noting record)).world =
        (p.execute m s w).world.noting (record ++ p.issued m s w) := by
  rw [execute_failure, execute_failure, execute_world, execute_world, issued_eq]
  exact runSteps_recording m s p.steps w record

theorem issuedBySteps_cons_ok {m : Machine σ} {s : Submission} {name : String} {step : Step}
    {w w₁ : World σ} (rest : List (String × Step)) (h : step.run m s w = (none, w₁)) :
    issuedBySteps m s ((name, step) :: rest) w = step.commands ++ issuedBySteps m s rest w₁ := by
  have hrec := step.run_recording m s w []
  rw [h] at hrec
  rw [issuedBySteps, (runSteps_cons_ok name rest hrec).2, (runSteps_recording m s rest w₁ _).2]
  rfl

theorem issuedBySteps_cons_error {m : Machine σ} {s : Submission} {name : String} {step : Step}
    {e : Failure} {w w₁ : World σ} (rest : List (String × Step))
    (h : step.run m s w = (some e, w₁)) :
    issuedBySteps m s ((name, step) :: rest) w = step.commands := by
  have hrec := step.run_recording m s w []
  rw [h] at hrec
  rw [issuedBySteps, (runSteps_cons_error name rest hrec).2]
  rfl

/-- More steps at the end take no command away. -/
theorem issuedBySteps_isPrefix (m : Machine σ) (s : Submission)
    (before after : List (String × Step)) (w : World σ) :
    issuedBySteps m s before w <+: issuedBySteps m s (before ++ after) w := by
  induction before generalizing w with
  | nil => exact List.nil_prefix
  | cons first rest ih =>
      obtain ⟨name, step⟩ := first
      rcases hr : step.run m s w with ⟨_ | e, w₁⟩
      · rw [List.cons_append, issuedBySteps_cons_ok _ hr, issuedBySteps_cons_ok _ hr,
          List.prefix_append_right_inj]
        exact ih w₁
      · simp only [List.cons_append, issuedBySteps_cons_error _ hr, List.prefix_rfl]

/-- What comes behind a step that fails is not issued. -/
theorem issuedBySteps_append_of_failure {m : Machine σ} {s : Submission}
    {before : List (String × Step)} {w : World σ}
    (h : (runSteps m s before w).failure.isSome = true) (after : List (String × Step)) :
    issuedBySteps m s (before ++ after) w = issuedBySteps m s before w := by
  induction before generalizing w with
  | nil => cases h
  | cons first rest ih =>
      obtain ⟨name, step⟩ := first
      rcases hr : step.run m s w with ⟨_ | e, w₁⟩
      · rw [(runSteps_cons_ok name rest hr).1] at h
        rw [List.cons_append, issuedBySteps_cons_ok _ hr, issuedBySteps_cons_ok _ hr, ih h]
      · rw [List.cons_append, issuedBySteps_cons_error _ hr, issuedBySteps_cons_error _ hr]

end Pipeline

end Provision
