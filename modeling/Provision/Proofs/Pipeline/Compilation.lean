import Mathlib.Data.List.Forall2
import Provision.Proofs.Configuration.Compiled
import Provision.Proofs.Pipeline.Performed

namespace Provision

/-!
# The pipeline of a configuration

A configuration has a pipeline when each of its actions has a step.  The first action that has none
tells why there is no pipeline.
-/

def UnitCommand.words : List String := ["start", "stop", "restart", "enable", "disable"]

namespace Task

/-- A template has to have been compiled, and a command has to be one. -/
def Ready : Task → Prop
  | file _ (.value _) => True
  | file _ (.template _ compiled) => compiled.isSome
  | unit _ word => word ∈ UnitCommand.words

/-- What a step does of a task: it fills the task's own template. -/
inductive AmountsTo : Task → Step → Prop
  | value (path name : String) : AmountsTo (file path (.value name)) (.copyValue path name)
  | template (path : String) {text : String} {t : Template} (h : Template.compile text = .ok t) :
      AmountsTo (file path (.template text (some t))) (.render path t)
  | unit (u : String) (c : UnitCommand) : AmountsTo (unit u c.text) (.command c u)

inductive Refused : Task → Failure → Prop
  | template (path text : String) :
      Refused (file path (.template text none)) (.templateNotCompiled path)
  | unit (u : String) {word : String} (h : word ∉ UnitCommand.words) :
      Refused (unit u word) (.invalid [UnitCommand.unknownMessage])

variable {task : Task}

theorem Refused.not_ready {e : Failure} (h : task.Refused e) : ¬ task.Ready := by
  cases h with
  | template path text => simp [Ready]
  | unit u hword => exact hword

/-- Either a task is ready and amounts to a step, or it is told why there is none. -/
theorem ready_or_refused (task : Task) :
    (task.Ready ∧ ∃ step, Step.ofTask task = .ok step) ∨
      ∃ e, Step.ofTask task = .error e ∧ task.Refused e := by
  rcases task with ⟨path, name | ⟨text, _ | t⟩⟩ | ⟨u, word⟩
  · exact .inl ⟨trivial, _, rfl⟩
  · exact .inr ⟨_, rfl, .template path text⟩
  · exact .inl ⟨rfl, _, rfl⟩
  · rcases hc : UnitCommand.ofText? word with _ | c
    · have hword : word ∉ UnitCommand.words := by
        intro hmem
        have hsome := UnitCommand.isSome_ofText?_iff.mpr hmem
        rw [hc] at hsome
        cases hsome
      exact .inr ⟨_, by rw [Step.ofTask, hc], .unit u hword⟩
    · have hword : word ∈ UnitCommand.words :=
        UnitCommand.isSome_ofText?_iff.mp (by rw [hc]; rfl)
      exact .inl ⟨hword, .command c u, by rw [Step.ofTask, hc]⟩

theorem Sound.amounts (h : task.Sound) {step : Step} (hs : Step.ofTask task = .ok step) :
    task.AmountsTo step := by
  rcases task with ⟨path, name | ⟨text, _ | t⟩⟩ | ⟨u, word⟩
  · cases hs
    exact .value path name
  · cases hs
  · cases hs
    exact .template path (h t rfl)
  · rcases hc : UnitCommand.ofText? word with _ | c
    · simp [Step.ofTask, hc] at hs
    · obtain rfl : Step.command c u = step := by simpa [Step.ofTask, hc] using hs
      rw [← UnitCommand.text_of_ofText? hc]
      exact .unit u c

end Task

namespace Pipeline

theorem compileAction_eq_ok_iff {a : Action} {named : String × Step} :
    compileAction a = .ok named ↔ named.1 = a.name ∧ Step.ofTask a.task = .ok named.2 := by
  obtain ⟨name, step⟩ := named
  rcases h : Step.ofTask a.task with e | step' <;> simp [compileAction, h, eq_comm]

theorem compileAction_eq_error_iff {a : Action} {e : Failure} :
    compileAction a = .error e ↔ Step.ofTask a.task = .error e := by
  rcases h : Step.ofTask a.task with e | step <;> simp [compileAction, h]

theorem ready_iff_exists_compileAction {a : Action} :
    a.task.Ready ↔ ∃ named, compileAction a = .ok named := by
  rcases a.task.ready_or_refused with ⟨hready, step, hstep⟩ | ⟨e, he, hrefused⟩
  · exact iff_of_true hready ⟨(a.name, step), compileAction_eq_ok_iff.mpr ⟨rfl, hstep⟩⟩
  · refine iff_of_false hrefused.not_ready ?_
    rintro ⟨named, hnamed⟩
    rw [compileAction_eq_error_iff.mpr he] at hnamed
    cases hnamed

theorem refused_of_compileAction {a : Action} {e : Failure} (h : compileAction a = .error e) :
    a.task.Refused e := by
  rw [compileAction_eq_error_iff] at h
  rcases a.task.ready_or_refused with ⟨-, step, hstep⟩ | ⟨e', he', hrefused⟩
  · rw [h] at hstep
    cases hstep
  · rw [h] at he'
    cases he'
    exact hrefused

/-- Either each action has a step, or the first that has none fails. -/
theorem compileActions_cases (actions : List Action) :
    (∃ steps, compileActions actions = .ok steps ∧
      List.Forall₂ (fun a named => compileAction a = .ok named) actions steps) ∨
      ∃ before a after e, actions = before ++ a :: after ∧ compileActions actions = .error e ∧
        (∀ b ∈ before, ∃ named, compileAction b = .ok named) ∧ compileAction a = .error e := by
  induction actions with
  | nil => exact .inl ⟨[], rfl, .nil⟩
  | cons a rest ih =>
      rcases ha : compileAction a with e | named
      · exact .inr ⟨[], a, rest, e, rfl, by simp [compileActions, ha, bind, Except.bind],
          by simp, ha⟩
      · rcases ih with ⟨steps, hsteps, hall⟩ | ⟨before, b, after, e, rfl, he, hbefore, hb⟩
        · exact .inl ⟨named :: steps,
            by simp [compileActions, ha, hsteps, bind, Except.bind, pure, Except.pure],
            .cons ha hall⟩
        · refine .inr ⟨a :: before, b, after, e, rfl,
            by simp [compileActions, ha, he, bind, Except.bind], ?_, hb⟩
          exact List.forall_mem_cons.mpr ⟨⟨named, ha⟩, hbefore⟩

/-- Either every action has its step, in their order, or the first that has none is reported. -/
theorem compile_cases (c : Configuration) :
    (∃ p, compile c = .ok p ∧
      List.Forall₂ (fun a named => compileAction a = .ok named) c.actions p.steps) ∨
      ∃ before a after e, c.actions = before ++ a :: after ∧ compile c = .error e ∧
        (∀ b ∈ before, ∃ named, compileAction b = .ok named) ∧ compileAction a = .error e := by
  rcases compileActions_cases c.actions with
    ⟨steps, hsteps, hall⟩ | ⟨before, a, after, e, hactions, he, hbefore, ha⟩
  · exact .inl ⟨⟨steps⟩, by simp [compile, hsteps, bind, Except.bind, pure, Except.pure], hall⟩
  · exact .inr ⟨before, a, after, e, hactions, by simp [compile, he, bind, Except.bind], hbefore,
      ha⟩

theorem names_of_forall₂ {actions : List Action} {steps : List (String × Step)}
    (h : List.Forall₂ (fun a named => compileAction a = .ok named) actions steps) :
    steps.map Prod.fst = actions.map Action.name := by
  induction h with
  | nil => rfl
  | cons hfirst _ ih =>
      rw [List.map_cons, List.map_cons, (compileAction_eq_ok_iff.mp hfirst).1, ih]

theorem names_of_compileActions {actions : List Action} {steps : List (String × Step)}
    (h : compileActions actions = .ok steps) : steps.map Prod.fst = actions.map Action.name := by
  rcases compileActions_cases actions with ⟨steps', hsteps, hall⟩ | ⟨_, _, _, e, -, he, -⟩
  · obtain rfl : steps = steps' := Except.ok.inj (h.symm.trans hsteps)
    exact names_of_forall₂ hall
  · rw [h] at he
    cases he

/-- Whatever has been done to a configuration, a compiled template in it is that of its own text.
There is a pipeline exactly when every action is ready; otherwise the first action that is not tells
why.  The steps are those of the actions, in their order. -/
theorem compile_reached (edits : List Configuration.Edit) :
    let c := Configuration.reached edits
    (∀ a ∈ c.actions, ∀ t, a.compiled? = some t → ∃ path text,
      a.task = .file path (.template text (some t)) ∧ Template.compile text = .ok t) ∧
    ((∃ p, compile c = .ok p) ↔ ∀ a ∈ c.actions, a.task.Ready) ∧
    (∀ e, compile c = .error e → ∃ before a after, c.actions = before ++ a :: after ∧
      (∀ b ∈ before, b.task.Ready) ∧ ¬ a.task.Ready ∧ a.task.Refused e) ∧
    ∀ p, compile c = .ok p → p.names = c.actions.map Action.name ∧
      List.Forall₂ (fun a named => named.1 = a.name ∧ a.task.AmountsTo named.2)
        c.actions p.steps := by
  intro c
  have hsound : c.Sound := Configuration.sound_reached edits
  refine ⟨fun a ha t ht => (hsound a ha).exists_of_compiled? ht, ?_⟩
  rcases compile_cases c with ⟨p, hp, hall⟩ | ⟨before, a, after, e, hactions, he, hbefore, ha⟩
  · refine ⟨iff_of_true ⟨p, hp⟩ ?_, ?_, ?_⟩
    · have hready := hall.imp fun a named h =>
        And.intro (ready_iff_exists_compileAction.mpr ⟨named, h⟩) h
      exact ((List.forall₂_and_left _ _).mp hready).1
    · intro e he
      rw [hp] at he
      cases he
    · intro q hq
      obtain rfl : p = q := Except.ok.inj (hp.symm.trans hq)
      have hsteps := (List.forall₂_and_left _ _).mpr ⟨hsound, hall⟩
      refine ⟨names_of_forall₂ hall, hsteps.imp ?_⟩
      rintro a named ⟨ha, hnamed⟩
      obtain ⟨hname, hstep⟩ := compileAction_eq_ok_iff.mp hnamed
      exact ⟨hname, ha.amounts hstep⟩
  · have hrefused : a.task.Refused e := refused_of_compileAction ha
    have hready : ∀ b ∈ before, b.task.Ready :=
      fun b hb => ready_iff_exists_compileAction.mpr (hbefore b hb)
    refine ⟨iff_of_false ?_ ?_, ?_, ?_⟩
    · rintro ⟨p, hp⟩
      rw [he] at hp
      cases hp
    · intro hall
      exact hrefused.not_ready (hall a (by rw [hactions]; simp))
    · intro e' he'
      obtain rfl : e = e' := Except.error.inj (he.symm.trans he')
      exact ⟨before, a, after, hactions, hready, hrefused.not_ready, hrefused⟩
    · intro p hp
      rw [he] at hp
      cases hp

def mergedLater : List Configuration.Edit :=
  [.replace "actions: [\x7bname: key, file: \x7bpath: f, template: '\x7b\x7b.psk\x7d\x7d'\x7d\x7d]",
    .validate,
    .merge "actions: [\x7bname: ssid, file: \x7bpath: g, template: '\x7b\x7b.ssid\x7d\x7d'\x7d\x7d]"]

theorem compile_reached_mergedLater :
    (∃ before a after, (Configuration.reached mergedLater).actions = before ++ a :: after ∧
      (∀ b ∈ before, b.task.Ready) ∧ ¬ a.task.Ready ∧
        a.task.Refused (.templateNotCompiled "g")) ∧
      ∃ p, compile (Configuration.reached (mergedLater ++ [.validate])) = .ok p ∧
        p.names = ["key", "ssid"] ∧
          p.names =
            (Configuration.reached (mergedLater ++ [.validate])).actions.map Action.name := by
  constructor
  · have htrial : (match compile (Configuration.reached mergedLater) with
        | .error e => decide (e = .templateNotCompiled "g")
        | .ok _ => false) = true := by
      decide +kernel
    obtain ⟨-, -, hfirst, -⟩ := compile_reached mergedLater
    rcases he : compile (Configuration.reached mergedLater) with e | p
    · rw [he] at htrial
      obtain rfl : e = .templateNotCompiled "g" := of_decide_eq_true htrial
      exact hfirst _ he
    · rw [he] at htrial
      cases htrial
  · have htrial : ((compile (Configuration.reached (mergedLater ++ [.validate]))).toOption.any
        fun p => p.names = ["key", "ssid"]) = true := by
      decide +kernel
    obtain ⟨p, hp, hnames⟩ := exists_compile_of_any htrial
    obtain ⟨-, -, -, hsteps⟩ := compile_reached (mergedLater ++ [.validate])
    exact ⟨p, hp, of_decide_eq_true hnames, (hsteps p hp).1⟩

end Pipeline

end Provision
