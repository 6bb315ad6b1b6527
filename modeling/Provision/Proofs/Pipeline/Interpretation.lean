import Mathlib.Data.List.Nodup
import Provision.Configuration.Validation
import Provision.Proofs.Configuration.WellFormed
import Provision.Proofs.Files.Write
import Provision.Proofs.Pipeline.Recording

namespace Provision

/-!
# Declared actions and compiled steps

The actions of a configuration can be carried out as they are declared, without anything that has
been compiled before.  Of a configuration about which validation has nothing to say, the compiled
pipeline does the same: it fails with the same failure, leaves the same world behind and issues the
same commands.
-/

/-- What comes of carrying something out: its failure, the world that is left, and the commands
that have been issued. -/
structure Course (σ : Type) where
  failure : Option Failure
  world : World σ
  commands : Commands

variable {σ : Type}

/-- The text that a content amounts to, if a copy of the submission has some order.  A template is
taken as it is written; it does not matter whether it has been compiled. -/
def Content.text (s : Submission) (order : Arrangement) : Content → Except String String
  | value name => .ok ((s.get? name).getD "")
  | template text _ =>
    match Template.compile text with
    | .ok t => t.render s order
    | .error e => .error e

/-- The world once the text of a content is known: a template has taken a copy of the submission. -/
def Content.taken (w : World σ) : Content → World σ
  | value _ => w
  | template .. => w.later

/-- Carries a task out as it is declared. -/
def Task.interpret (m : Machine σ) (s : Submission) (w : World σ) : Task → Course σ
  | file path content =>
    match content.text s (w.orders 0) with
    | .ok text =>
      let (fault?, files) := w.files.write m.medium path (Text.utf8 text)
      ⟨fault?.map (.unwritable path), { content.taken w with files := files }, []⟩
    | .error e => ⟨some (.unrenderable e), content.taken w, []⟩
  | unit u word =>
    match UnitCommand.ofText? word with
    | some c =>
      match m.units.run c u w.toDevice with
      | (.ok _, d) => ⟨none, { w with toDevice := d }, [(c, u)]⟩
      | (.error e, d) => ⟨some e, { w with toDevice := d }, [(c, u)]⟩
    | none => ⟨some (.invalid [UnitCommand.unknownMessage]), w, []⟩

def interpretActions (m : Machine σ) (s : Submission) : World σ → List Action → Course σ
  | w, [] => ⟨none, w, []⟩
  | w, a :: rest =>
    let first := a.task.interpret m s w
    match first.failure with
    | some cause => ⟨some (.action a.name cause), first.world, first.commands⟩
    | none =>
      let others := interpretActions m s first.world rest
      ⟨others.failure, others.world, first.commands ++ others.commands⟩

def Configuration.interpret (c : Configuration) (m : Machine σ) (s : Submission) (w : World σ) :
    Course σ :=
  interpretActions m s w c.actions

/-- What a task does to the world when it does not fail.  The file at its path has the text as its
whole content, or its command has been issued on its unit. -/
def Task.TakesEffect (m : Machine σ) (s : Submission) (w w' : World σ) (issued : Commands) :
    Task → Prop
  | file path content =>
    (∃ text, content.text s (w.orders 0) = .ok text ∧
      w'.files.find? path = some (.file (Text.utf8 text))) ∧
      (∃ l, w.files.target path = .ok l ∧ ∀ k ≠ l, w'.files.get? k = w.files.get? k) ∧
      w'.programs = w.programs ∧ w'.orders = (content.taken w).orders ∧ issued = []
  | unit u word =>
    ∃ c, c.text = word ∧ m.units.run c u w.toDevice = (.ok (), w'.toDevice) ∧
      w'.orders = w.orders ∧ issued = [(c, u)]

/-- Actions take effect one after the other. -/
inductive TakeEffect (m : Machine σ) (s : Submission) :
    World σ → List Action → World σ → Commands → Prop where
  | nil (w : World σ) : TakeEffect m s w [] w []
  | cons {w w₁ w' : World σ} {a : Action} {rest : List Action} {issued more : Commands}
      (first : a.task.TakesEffect m s w w₁ issued) (others : TakeEffect m s w₁ rest w' more) :
      TakeEffect m s w (a :: rest) w' (issued ++ more)

/-! ## The interpreter -/

@[simp] theorem Content.programs_taken (w : World σ) (content : Content) :
    (content.taken w).programs = w.programs := by
  cases content <;> rfl

/-- A task that does not fail has taken effect. -/
theorem Task.takesEffect_of_interpret {m : Machine σ} {s : Submission} {w : World σ} {task : Task}
    (h : (task.interpret m s w).failure = none) :
    task.TakesEffect m s w (task.interpret m s w).world (task.interpret m s w).commands := by
  cases task with
  | file path content =>
      rcases ht : content.text s (w.orders 0) with e | text
      · simp [interpret, ht] at h
      · rcases hw : w.files.write m.medium path (Text.utf8 text) with ⟨_ | e, files⟩
        · obtain ⟨hfound, helse⟩ := FileTree.find?_of_write hw
          simp only [interpret, TakesEffect, ht, hw, Content.programs_taken, and_true]
          exact ⟨⟨text, rfl, hfound⟩, helse⟩
        · simp [interpret, ht, hw] at h
  | unit u word =>
      rcases hc : UnitCommand.ofText? word with _ | c
      · simp [interpret, hc] at h
      · rcases hr : m.units.run c u w.toDevice with ⟨e | ⟨⟩, d⟩
        · simp [interpret, hc, hr] at h
        · simp only [interpret, TakesEffect, hc, hr]
          exact ⟨c, UnitCommand.text_of_ofText? hc, hr, trivial, rfl⟩

theorem interpretActions_cons_ok {m : Machine σ} {s : Submission} {w : World σ} {a : Action}
    (rest : List Action) (h : (a.task.interpret m s w).failure = none) :
    interpretActions m s w (a :: rest) =
      ⟨(interpretActions m s (a.task.interpret m s w).world rest).failure,
        (interpretActions m s (a.task.interpret m s w).world rest).world,
        (a.task.interpret m s w).commands ++
          (interpretActions m s (a.task.interpret m s w).world rest).commands⟩ := by
  simp only [interpretActions, h]

theorem interpretActions_cons_error {m : Machine σ} {s : Submission} {w : World σ} {a : Action}
    {cause : Failure} (rest : List Action) (h : (a.task.interpret m s w).failure = some cause) :
    interpretActions m s w (a :: rest) =
      ⟨some (.action a.name cause), (a.task.interpret m s w).world,
        (a.task.interpret m s w).commands⟩ := by
  simp only [interpretActions, h]

theorem takeEffect_of_interpretActions {m : Machine σ} {s : Submission} {w : World σ}
    {actions : List Action} (h : (interpretActions m s w actions).failure = none) :
    TakeEffect m s w actions (interpretActions m s w actions).world
      (interpretActions m s w actions).commands := by
  induction actions generalizing w with
  | nil => exact .nil w
  | cons a rest ih =>
      rcases hf : (a.task.interpret m s w).failure with _ | cause
      · rw [interpretActions_cons_ok rest hf] at h ⊢
        exact .cons (Task.takesEffect_of_interpret hf) (ih h)
      · rw [interpretActions_cons_error rest hf] at h
        cases h

/-- When actions fail, one of them does, after all before it have taken effect. -/
theorem exists_of_interpretActions_failure {m : Machine σ} {s : Submission} {w : World σ}
    {actions : List Action} {e : Failure} (h : (interpretActions m s w actions).failure = some e) :
    ∃ before a after w₁ issued cause, actions = before ++ a :: after ∧
      TakeEffect m s w before w₁ issued ∧ (a.task.interpret m s w₁).failure = some cause ∧
      e = .action a.name cause ∧
      (interpretActions m s w actions).world = (a.task.interpret m s w₁).world ∧
      (interpretActions m s w actions).commands =
        issued ++ (a.task.interpret m s w₁).commands := by
  induction actions generalizing w with
  | nil => cases h
  | cons a rest ih =>
      rcases hf : (a.task.interpret m s w).failure with _ | cause
      · rw [interpretActions_cons_ok rest hf] at h ⊢
        obtain ⟨before, b, after, w₁, issued, cause, rfl, heffect, hb, he, hworld, hcommands⟩ :=
          ih h
        refine ⟨a :: before, b, after, w₁, (a.task.interpret m s w).commands ++ issued, cause, rfl,
          .cons (Task.takesEffect_of_interpret hf) heffect, hb, he, hworld, ?_⟩
        rw [hcommands, List.append_assoc]
      · rw [interpretActions_cons_error rest hf] at h ⊢
        exact ⟨[], a, rest, w, [], cause, rfl, .nil w, hf, (Option.some.inj h).symm, rfl, rfl⟩

/-! ## The pipeline -/

/-- Validation leaves no task that has no step, and the step does what the task declares. -/
theorem Task.exists_step {declared : List Value} {task : Task} (h : task.WellFormed declared) :
    ∃ step, Step.ofTask task.compile = .ok step ∧
      ∀ {σ : Type} (m : Machine σ) (s : Submission) (w : World σ),
        step.run m s w = ((task.interpret m s w).failure, (task.interpret m s w).world) ∧
          step.commands = (task.interpret m s w).commands := by
  cases task with
  | file path content =>
      obtain ⟨hpath, hcontent⟩ := h
      cases content with
      | value name =>
          refine ⟨.copyValue path name, by simp [compile, hpath, Content.compile, Step.ofTask], ?_⟩
          intro σ m s w
          simp only [Step.run, Step.store, Step.commands, interpret, Content.text, Content.taken]
          rcases w.files.write m.medium path _ with ⟨_ | e, files⟩ <;> exact ⟨rfl, trivial⟩
      | template text compiled =>
          obtain ⟨htext, t, ht⟩ := hcontent
          refine ⟨.render path t,
            by simp [compile, hpath, Content.compile, htext, ht, Step.ofTask], ?_⟩
          intro σ m s w
          simp only [Step.run, Step.commands, interpret, Content.text, Content.taken, ht]
          rcases t.render s (w.orders 0) with e | shown
          · exact ⟨rfl, rfl⟩
          · simp only [Step.store, World.later]
            rcases w.files.write m.medium path _ with ⟨_ | e, files⟩ <;> exact ⟨rfl, trivial⟩
  | unit u word =>
      obtain ⟨c, hc⟩ := Option.isSome_iff_exists.mp (UnitCommand.isSome_ofText?_iff.mpr h.2)
      refine ⟨.command c u, by simp [compile, Step.ofTask, hc], ?_⟩
      intro σ m s w
      simp only [Step.run, Step.commands, interpret, hc]
      rcases m.units.run c u w.toDevice with ⟨e | ⟨⟩, d⟩ <;> exact ⟨rfl, rfl⟩

namespace Pipeline

/-- The step of an action does what the action declares, on every machine. -/
theorem exists_compileAction {declared : List Value} {a : Action} (hname : a.name ≠ "")
    (h : a.task.WellFormed declared) :
    ∃ step, compileAction a.compile = .ok (a.name, step) ∧
      ∀ {σ : Type} (m : Machine σ) (s : Submission) (w : World σ),
        step.run m s w = ((a.task.interpret m s w).failure, (a.task.interpret m s w).world) ∧
          step.commands = (a.task.interpret m s w).commands := by
  obtain ⟨step, hstep, hrun⟩ := Task.exists_step h
  refine ⟨step, ?_, hrun⟩
  simp [compileAction, Action.compile, hname, hstep]

theorem exists_compileActions {declared : List Value} {actions : List Action}
    (h : ∀ a ∈ actions, a.name ≠ "" ∧ a.task.WellFormed declared) :
    ∃ steps, compileActions (actions.map Action.compile) = .ok steps ∧
      ∀ {σ : Type} (m : Machine σ) (s : Submission) (w : World σ),
        (runSteps m s steps w).failure = (interpretActions m s w actions).failure ∧
          (runSteps m s steps w).world = (interpretActions m s w actions).world ∧
          issuedBySteps m s steps w = (interpretActions m s w actions).commands := by
  induction actions with
  | nil => exact ⟨[], rfl, fun m s w => ⟨rfl, rfl, rfl⟩⟩
  | cons a rest ih =>
      obtain ⟨⟨hname, htask⟩, hrest⟩ := List.forall_mem_cons.mp h
      obtain ⟨step, hstep, hrun⟩ := exists_compileAction hname htask
      obtain ⟨steps, hsteps, hruns⟩ := ih hrest
      refine ⟨(a.name, step) :: steps, ?_, ?_⟩
      · simp only [List.map_cons, compileActions, hstep, hsteps, bind, Except.bind, pure,
          Except.pure]
      · intro σ m s w
        obtain ⟨hfirst, hcommands⟩ := hrun m s w
        rcases hf : (a.task.interpret m s w).failure with _ | cause
        · rw [hf] at hfirst
          obtain ⟨hfailure, hworld⟩ := runSteps_cons_ok a.name steps hfirst
          rw [hfailure, hworld, issuedBySteps_cons_ok steps hfirst, hcommands,
            interpretActions_cons_ok rest hf]
          obtain ⟨hfailure', hworld', hissued'⟩ := hruns m s (a.task.interpret m s w).world
          rw [hissued']
          exact ⟨hfailure', hworld', rfl⟩
        · rw [hf] at hfirst
          obtain ⟨hfailure, hworld⟩ := runSteps_cons_error a.name steps hfirst
          rw [hfailure, hworld, issuedBySteps_cons_error steps hfirst, hcommands,
            interpretActions_cons_error rest hf]
          exact ⟨rfl, rfl, rfl⟩

theorem exists_compile_eq_ok {c : Configuration} (h : c.WellFormed) :
    ∃ p, compile c.compile = .ok p ∧
      ∀ {σ : Type} (m : Machine σ) (s : Submission) (w : World σ),
        (p.execute m s w).failure = (c.interpret m s w).failure ∧
          (p.execute m s w).world = (c.interpret m s w).world ∧
          p.issued m s w = (c.interpret m s w).commands := by
  obtain ⟨steps, hsteps, hruns⟩ := exists_compileActions
    fun a ha => ⟨(h.actionNames a ha).1, h.tasks a ha⟩
  refine ⟨⟨steps⟩, ?_, ?_⟩
  · simp only [compile, Configuration.compile, hsteps, bind, Except.bind, pure, Except.pure]
  · intro σ m s w
    rw [execute_failure, execute_world, issued_eq]
    exact hruns m s w

/-- The pipeline of a valid configuration does what the configuration declares.  An execution
succeeds when every action takes effect.  Otherwise an action fails whose name no other has; all
before it have taken effect, and none after it. -/
theorem exists_compile_execute_eq_interpret {c : Configuration} (h : c.valid = true) :
    ∃ p, compile c.compile = .ok p ∧
      ∀ {σ : Type} (m : Machine σ) (s : Submission) (w : World σ),
        (p.execute m s w).failure = (c.interpret m s w).failure ∧
        (p.execute m s w).world = (c.interpret m s w).world ∧
        p.issued m s w = (c.interpret m s w).commands ∧
        ((p.execute m s w).failure = none →
          TakeEffect m s w c.actions (p.execute m s w).world (p.issued m s w)) ∧
        ∀ e, (p.execute m s w).failure = some e →
          ∃ before a after w₁ issued cause, c.actions = before ++ a :: after ∧
            (∀ b ∈ before ++ after, b.name ≠ a.name) ∧
            TakeEffect m s w before w₁ issued ∧
            (a.task.interpret m s w₁).failure = some cause ∧
            e = .action a.name cause ∧
            (p.execute m s w).world = (a.task.interpret m s w₁).world ∧
            p.issued m s w = issued ++ (a.task.interpret m s w₁).commands := by
  have hc : c.WellFormed := by
    rw [← Configuration.messages_eq_nil_iff, ← List.isEmpty_iff]
    exact h
  obtain ⟨steps, hsteps, hruns⟩ := exists_compileActions
    fun a ha => ⟨(hc.actionNames a ha).1, hc.tasks a ha⟩
  refine ⟨⟨steps⟩, ?_, ?_⟩
  · simp only [compile, Configuration.compile, hsteps, bind, Except.bind, pure, Except.pure]
  intro σ m s w
  obtain ⟨hfailure, hworld, hissued⟩ := hruns m s w
  rw [execute_failure, execute_world, issued_eq]
  refine ⟨hfailure, hworld, hissued, ?_, ?_⟩
  · intro hnone
    rw [hworld, hissued]
    exact takeEffect_of_interpretActions (hfailure.symm.trans hnone)
  · intro e he
    obtain ⟨before, a, after, w₁, issued, cause, hactions, heffect, ha, he', hworld', hissued'⟩ :=
      exists_of_interpretActions_failure (hfailure.symm.trans he)
    refine ⟨before, a, after, w₁, issued, cause, hactions, ?_, heffect, ha, he',
      hworld.trans hworld', hissued.trans hissued'⟩
    -- names are distinct, so that the name tells which action has failed
    have hnames := hc.actionsDistinct
    rw [hactions, List.map_append, List.map_cons, List.nodup_middle, List.nodup_cons,
      ← List.map_append] at hnames
    intro b hb hname
    exact hnames.1 (List.mem_map.mpr ⟨b, hb, hname⟩)

theorem exists_compile_wireless : Configuration.wireless.valid = true ∧
    ∃ p, compile Configuration.wireless.compile = .ok p ∧
      ∀ (m : Machine Commands) (s : Submission) (w : World Commands),
        (p.execute m s w).failure = (Configuration.wireless.interpret m s w).failure ∧
          (p.execute m s w).world = (Configuration.wireless.interpret m s w).world ∧
          p.issued m s w = (Configuration.wireless.interpret m s w).commands := by
  have h : Configuration.wireless.valid = true := by decide +kernel
  obtain ⟨p, hp, hexecute⟩ := exists_compile_execute_eq_interpret h
  refine ⟨h, p, hp, ?_⟩
  intro m s w
  obtain ⟨hfailure, hworld, hissued, -⟩ := hexecute m s w
  exact ⟨hfailure, hworld, hissued⟩

end Pipeline

end Provision
