import Mathlib.Data.List.Infix
import Provision.Configuration.Validation
import Provision.Proofs.Pipeline.Alike
import Provision.Server.Basic

namespace Provision

/-!
# What a submission has an influence on

Steps are taken from a list that is settled beforehand, and the only step that looks at what has
been submitted before it decides whether it succeeds is one that renders a template.  Two executions
in which all templates can be rendered go through worlds that are alike, and they end at one step.
-/

variable {σ : Type} {m : Machine σ} {s s' : Submission} {w w' : World σ}

namespace Step

variable {step : Step}

/-- What a step that does not fail to render makes of alike worlds. -/
theorem run_influence (hm : m.medium = .boundless) (hu : m.units.Detached) (h : w.Alike w')
    (hr : step.Renders s (w.orders 0)) (hr' : step.Renders s' (w'.orders 0)) :
    (step.run m s w).1 = (step.run m s' w').1 ∧
      (step.writes m s w).map Writing.place = (step.writes m s' w').map Writing.place := by
  have hstore {w w' : World σ} (h : w.Alike w') (path text text' : String) :
      (store m w path text).1 = (store m w' path text').1 := by
    rw [store_failure_boundless hm, store_failure_boundless hm, h.files.target]
  cases step with
  | copyValue path name =>
      refine ⟨hstore h path _ _, ?_⟩
      rw [places_of_stored? hm rfl, places_of_stored? hm rfl, h.files.target]
  | render path template =>
      obtain ⟨shown, hshown⟩ := hr
      obtain ⟨shown', hshown'⟩ := hr'
      have hs : (render path template).stored? s (w.orders 0) = some (path, shown) := by
        simp [stored?, hshown, Except.toOption]
      have hs' : (render path template).stored? s' (w'.orders 0) = some (path, shown') := by
        simp [stored?, hshown', Except.toOption]
      constructor
      · simpa only [run, hshown, hshown'] using hstore h.later path shown shown'
      · rw [places_of_stored? hm hs, places_of_stored? hm hs', h.files.target]
  | command c unit =>
      refine ⟨?_, rfl⟩
      simp only [run, h.run hu]
      rcases m.units.run c unit w.toDevice with ⟨_ | _, d⟩ <;> rfl

end Step

namespace Pipeline

/-- By induction on the steps: as long as every template is rendered, runs with different
submissions go the same way. -/
theorem runSteps_influence (hm : m.medium = .boundless) (hu : m.units.Detached)
    {steps : List (String × Step)} (h : w.Alike w')
    (hr : ∀ e ∈ performedSteps m s w steps, e.1.2.Renders s (e.2.orders 0))
    (hr' : ∀ e ∈ performedSteps m s' w' steps, e.1.2.Renders s' (e.2.orders 0)) :
    (runSteps m s steps w).failure = (runSteps m s' steps w').failure ∧
      (performedSteps m s w steps).map Prod.fst = (performedSteps m s' w' steps).map Prod.fst ∧
      (writesOfSteps m s w steps).map Writing.place =
        (writesOfSteps m s' w' steps).map Writing.place := by
  induction steps generalizing w w' with
  | nil => exact ⟨rfl, rfl, rfl⟩
  | cons first rest ih =>
      obtain ⟨name, step⟩ := first
      have hfirst : step.Renders s (w.orders 0) := hr _ List.mem_cons_self
      have hfirst' : step.Renders s' (w'.orders 0) := hr' _ List.mem_cons_self
      obtain ⟨hfailure, hplaces⟩ := step.run_influence hm hu h hfirst hfirst'
      rcases hrun : step.run m s w with ⟨_ | e, w₁⟩ <;>
        rcases hrun' : step.run m s' w' with ⟨_ | e', w₁'⟩ <;>
          simp only [hrun, hrun', reduceCtorEq, Option.some.injEq] at hfailure
      · -- both succeed, and the rest goes on in worlds that are alike
        have hok : (step.run m s w).1 = none := by rw [hrun]
        have hok' : (step.run m s' w').1 = none := by rw [hrun']
        have halike := Step.run_alike h hu hok hok'
        rw [hrun, hrun'] at halike
        rw [performedSteps_cons_ok name rest hrun] at hr
        rw [performedSteps_cons_ok name rest hrun'] at hr'
        obtain ⟨hend, hperformed, hwrites⟩ :=
          ih halike (List.forall_mem_cons.mp hr).2 (List.forall_mem_cons.mp hr').2
        rw [(runSteps_cons_ok name rest hrun).1, (runSteps_cons_ok name rest hrun').1,
          performedSteps_cons_ok name rest hrun, performedSteps_cons_ok name rest hrun',
          writesOfSteps_cons_ok name rest hrun, writesOfSteps_cons_ok name rest hrun']
        exact ⟨hend, by rw [List.map_cons, List.map_cons, hperformed],
          by rw [List.map_append, List.map_append, hplaces, hwrites]⟩
      · rw [(runSteps_cons_error name rest hrun).1, (runSteps_cons_error name rest hrun').1,
          performedSteps_cons_error name rest hrun, performedSteps_cons_error name rest hrun',
          writesOfSteps_cons_error name rest hrun, writesOfSteps_cons_error name rest hrun']
        exact ⟨by rw [hfailure], rfl, hplaces⟩

theorem issued_eq_commands_of_performed (m : Machine σ) (p : Pipeline) (s : Submission)
    (w : World σ) :
    p.issued m s w = ((p.performed m s w).map Prod.fst).flatMap fun step => step.2.commands := by
  rw [issued_eq, issuedBySteps_eq, performed]

/-- The commands that are issued do not depend on what has been submitted, nor on the order in which
its copies give it, but for where they end.  Unless a template cannot be rendered, they end at the
same step, for the same reason, and the same files have been written. -/
theorem execute_influence (hm : m.medium = .boundless) (hu : m.units.Detached) (p : Pipeline)
    (s s' : Submission) (w : World σ) (orders : Nat → Arrangement) :
    let w' := w.ordered orders
    (p.issued m s w <+: p.issued m s' w' ∨ p.issued m s' w' <+: p.issued m s w) ∧
      (p.Renders m s w → p.Renders m s' w' →
        (p.execute m s w).failure = (p.execute m s' w').failure ∧
          (p.performed m s w).map Prod.fst = (p.performed m s' w').map Prod.fst ∧
          p.issued m s w = p.issued m s' w' ∧
          (p.writes m s w).map Writing.place = (p.writes m s' w').map Writing.place) := by
  intro w'
  constructor
  · rw [issued_eq_commands_of_performed, issued_eq_commands_of_performed]
    have hsteps := performedSteps_isPrefix m s w p.steps
    have hsteps' := performedSteps_isPrefix m s' w' p.steps
    rcases List.prefix_or_prefix_of_prefix hsteps hsteps' with h | h
    · exact .inl (h.flatMap _)
    · exact .inr (h.flatMap _)
  · intro hr hr'
    obtain ⟨hend, hperformed, hwrites⟩ :=
      runSteps_influence hm hu (w.alike_ordered orders) hr hr'
    refine ⟨?_, hperformed, ?_, hwrites⟩
    · rw [execute_failure, execute_failure, hend]
    · rw [issued_eq_commands_of_performed, issued_eq_commands_of_performed, performed, performed,
        hperformed]

/-- Two keys lead to one end; without a key the device has left its network and does not join it
again. -/
theorem execute_influence_rejoining :
    let m : Machine Programs := (Host.ofRunner .boundless Programs.run).toMachine
    let w : World Programs := .of .empty .empty
    let w' := w.ordered fun _ => .backwards
    let keyed (psk : String) : Submission := .ofList [("ssid", "home"), ("psk", psk)]
    ∃ p, compile Configuration.rejoining.compile = .ok p ∧
      (p.Renders m (keyed "hunter2!") w ∧ p.Renders m (keyed "sw0rdf1sh") w' ∧
        p.issued m (keyed "hunter2!") w = p.issued m (keyed "sw0rdf1sh") w' ∧
        (p.writes m (keyed "hunter2!") w).map Writing.place =
          (p.writes m (keyed "sw0rdf1sh") w').map Writing.place ∧
        p.writes m (keyed "hunter2!") w ≠ p.writes m (keyed "sw0rdf1sh") w') ∧
      ¬ p.Renders m (keyed "") w ∧ p.issued m (keyed "") w <+: p.issued m (keyed "hunter2!") w := by
  intro m w w' keyed
  have hm : m.medium = .boundless := rfl
  have hu : m.units.Detached := Systemctl.detached_manager
  have htrial : ((compile Configuration.rejoining.compile).toOption.any fun p =>
      p.Renders m (keyed "hunter2!") w ∧ p.Renders m (keyed "sw0rdf1sh") w' ∧
        p.writes m (keyed "hunter2!") w ≠ p.writes m (keyed "sw0rdf1sh") w' ∧
        ¬ p.Renders m (keyed "") w ∧
        ¬ p.issued m (keyed "hunter2!") w <+: p.issued m (keyed "") w) = true := by
    decide +kernel
  obtain ⟨p, hp, hruns⟩ := exists_compile_of_any htrial
  obtain ⟨hr, hr', hwrites, hempty, hlonger⟩ := of_decide_eq_true hruns
  obtain ⟨-, hsame⟩ :=
    execute_influence hm hu p (keyed "hunter2!") (keyed "sw0rdf1sh") w fun _ => .backwards
  obtain ⟨-, -, hissued, hplaces⟩ := hsame hr hr'
  obtain ⟨hshorter, -⟩ := execute_influence hm hu p (keyed "") (keyed "hunter2!") w w.orders
  exact ⟨p, hp, ⟨hr, hr', hissued, hplaces, hwrites⟩, hempty, hshorter.resolve_right hlonger⟩

end Pipeline

end Provision
