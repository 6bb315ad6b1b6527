import Mathlib.Data.List.Infix
import Provision.Proofs.Pipeline.Influence

namespace Provision

/-!
# Resubmission

An execution that succeeds leaves nothing behind of an earlier one, however that one has ended.
Writing files changes no directory, and so it changes nothing about where later files are opened;
and the files that the earlier execution has written are the first of those that are written again.

Copies of a submission may come in any order, and a template can show it.  Then two executions of
one submission differ even if nothing comes between them (`Pipeline.exists_execute_files_ne`).  So
two executions are compared that draw the same orders; where no template shows the order, any two
are.
-/

variable {σ : Type}

/-- The devices to which commands may lead while files are written. -/
inductive UnitManager.Reaches (u : UnitManager σ) (d : Device σ) : Device σ → Prop
  | refl : u.Reaches d d
  | issue {d' : Device σ} (h : u.Reaches d d') (c : UnitCommand) (unit : String) :
      u.Reaches d (u.run c unit d').2
  | store {d' : Device σ} (h : u.Reaches d d') (files : FileTree) :
      u.Reaches d { d' with files := files }

/-- Whether a command succeeds is settled by the command and its unit, whatever commands have been
issued and whatever files have been written before. -/
def UnitManager.Steady (u : UnitManager σ) (d : Device σ) : Prop :=
  ∀ d', u.Reaches d d' → ∀ c unit, (u.run c unit d').1.isOk = (u.run c unit d).1.isOk

/-- A world that comes of another one by writing files and issuing commands. -/
structure World.After (m : Machine σ) (w₀ w : World σ) : Prop where
  files : w₀.files.SameDirectories w.files
  device : m.units.Reaches w₀.toDevice w.toDevice

namespace World

variable {m : Machine σ} {w₀ w : World σ}

theorem After.refl (m : Machine σ) (w : World σ) : After m w w := ⟨.refl _, .refl⟩

theorem After.later (h : After m w₀ w) : After m w₀ w.later := ⟨h.files, h.device⟩

theorem After.ordered (h : After m w₀ w) (orders : Nat → Arrangement) :
    After m w₀ (w.ordered orders) := ⟨h.files, h.device⟩

end World

/-- The step shows nothing of the order in which a copy of the submission gives it. -/
def Step.Orderless (s : Submission) : Step → Prop
  | render _ template => ∀ order order', template.render s order = template.render s order'
  | _ => True

/-! ## Steps -/

namespace Step

variable {m : Machine σ} {s s' : Submission} {w₀ w w' : World σ} {step : Step}
variable {path text : String}

theorem store_after (h : World.After m w₀ w) (path text : String) :
    World.After m w₀ (store m w path text).2 := by
  rw [store_world]
  exact ⟨h.files.trans (FileTree.sameDirectories_write _ _ _ _), h.device.store _⟩

theorem run_after (hkeeps : m.units.KeepsFiles) (h : World.After m w₀ w) (s : Submission)
    (step : Step) : World.After m w₀ (step.run m s w).2 := by
  cases step with
  | copyValue path name => exact store_after h path _
  | render path template =>
      rcases hr : template.render s (w.orders 0) with e | shown
      · simpa only [run, hr] using h.later
      · simpa only [run, hr] using store_after h.later path shown
  | command c unit =>
      have hissue := h.device.issue c unit
      have hfiles := hkeeps c unit w.toDevice
      rcases hr : m.units.run c unit w.toDevice with ⟨_ | _, d⟩ <;>
      · rw [hr] at hissue hfiles
        simp only [run, hr]
        exact ⟨hfiles.symm ▸ h.files, hissue⟩

def leaves (orders : Nat → Arrangement) : Step → Nat → Arrangement
  | copyValue .. => orders
  | render .. => fun n => orders (n + 1)
  | command .. => orders

theorem run_orders (m : Machine σ) (s : Submission) (w : World σ) (step : Step) :
    (step.run m s w).2.orders = step.leaves w.orders := by
  cases step with
  | copyValue path name => rw [run, store_world, leaves]
  | render path template =>
      rcases hr : template.render s (w.orders 0) with e | shown
      · simp only [run, hr]
        rfl
      · simp only [run, hr, store_world]
        rfl
  | command c unit =>
      rcases hr : m.units.run c unit w.toDevice with ⟨_ | _, d⟩ <;> simp only [run, hr, leaves]

theorem store_eq_none_iff (hm : m.medium = .boundless) :
    (store m w path text).1 = none ↔ ∃ l, w.files.target path = .ok l := by
  rw [store_failure_boundless hm]
  rcases w.files.target path with e | l <;> simp

/-- A step succeeds when a file can be opened for its text, or when its command succeeds. -/
theorem run_eq_none_iff (hm : m.medium = .boundless) :
    (step.run m s w).1 = none ↔
      (∃ path text l, step.stored? s (w.orders 0) = some (path, text) ∧
        w.files.target path = .ok l) ∨
        ∃ c unit, step = .command c unit ∧ (m.units.run c unit w.toDevice).1.isOk = true := by
  cases step with
  | copyValue path name => simp [run, store_eq_none_iff hm, stored?]
  | render path template =>
      rcases hr : template.render s (w.orders 0) with e | shown
      · simp [run, stored?, hr, Except.toOption]
      · simp [run, stored?, hr, Except.toOption, store_eq_none_iff hm]
  | command c unit =>
      rcases hr : m.units.run c unit w.toDevice with ⟨_ | _, d⟩ <;>
        simp [run, stored?, hr, Except.isOk, Except.toBool]

/-- What a step can be rendered for, it stores at the same path. -/
theorem stored?_of_renders {order order' : Arrangement}
    (h : step.stored? s order = some (path, text)) (hr : step.Renders s' order') :
    ∃ text', step.stored? s' order' = some (path, text') := by
  cases step with
  | copyValue path' name =>
      obtain ⟨rfl, -⟩ := by simpa [stored?] using h
      exact ⟨_, rfl⟩
  | render path' template =>
      obtain ⟨shown, hshown⟩ := hr
      obtain ⟨_, -, rfl, -⟩ := by simpa [stored?] using h
      exact ⟨shown, by simp [stored?, hshown, Except.toOption]⟩
  | command c unit => cases h

section Again

variable (hm : m.medium = .boundless) (hsteady : m.units.Steady w₀.toDevice)
  (hw : World.After m w₀ w) (hw' : World.After m w₀ w') (hok : (step.run m s w).1 = none)

include hm hsteady hw hw' hok

/-- A step that has succeeded succeeds again, with another submission as well. -/
theorem run_again (hr : step.Renders s' (w'.orders 0)) : (step.run m s' w').1 = none := by
  rw [run_eq_none_iff hm] at hok ⊢
  rcases hok with ⟨path, text, l, hs, ht⟩ | ⟨c, unit, rfl, hc⟩
  · obtain ⟨text', hs'⟩ := stored?_of_renders hs hr
    exact .inl ⟨path, text', l, hs', (hw.files.symm.trans hw'.files).target ht⟩
  · refine .inr ⟨c, unit, rfl, ?_⟩
    rwa [hsteady _ hw'.device, ← hsteady _ hw.device]

end Again

section Written

variable (hm : m.medium = .boundless) (hw : World.After m w₀ w) (hw' : World.After m w₀ w')
  (hok : (step.run m s w).1 = none)

include hm hw hw' hok

theorem writes_again (h : w.orders = w'.orders) : step.writes m s w' = step.writes m s w := by
  rcases (run_eq_none_iff hm).mp hok with ⟨path, text, l, hs, ht⟩ | ⟨c, unit, rfl, -⟩
  · have ht' := (hw.files.symm.trans hw'.files).target ht
    have hs' : step.stored? s (w'.orders 0) = some (path, text) := h ▸ hs
    rw [writes_of_stored? hm hs, writes_of_stored? hm hs', ht, ht']
  · rfl

/-- For another submission a step writes to the same places, as long as its template is rendered.
-/
theorem places_again (hr : step.Renders s' (w'.orders 0)) :
    (step.writes m s' w').map Writing.place = (step.writes m s w).map Writing.place := by
  rcases (run_eq_none_iff hm).mp hok with ⟨path, text, l, hs, ht⟩ | ⟨c, unit, rfl, -⟩
  · obtain ⟨text', hs'⟩ := stored?_of_renders hs hr
    have ht' := (hw.files.symm.trans hw'.files).target ht
    rw [places_of_stored? hm hs, places_of_stored? hm hs', ht, ht']
  · rfl

end Written

/-- A submission of one value has but one order, so that no template shows it. -/
theorem orderless_of_length_le (h : s.entries.length ≤ 1) (step : Step) : step.Orderless s := by
  have hone (order : Arrangement) : order.arrange s = s := by
    have hperm := order.perm s
    obtain ⟨entries, hdistinct⟩ := s
    rcases entries with _ | ⟨e, _ | ⟨_, _⟩⟩
    · exact Submission.ext hperm.eq_nil
    · exact Submission.ext hperm.eq_singleton
    · simp at h
  cases step with
  | render path template =>
      intro order order'
      rw [Template.render, Template.render, hone, hone]
  | _ => trivial

/-- The orders make no difference to a step that does not show them. -/
theorem Orderless.run_eq (h : step.Orderless s) (w : World σ) (orders : Nat → Arrangement) :
    (step.run m s (w.ordered orders)).1 = (step.run m s w).1 ∧
      (step.run m s (w.ordered orders)).2.toDevice = (step.run m s w).2.toDevice := by
  have hstore (w w' : World σ) (h : w.toDevice = w'.toDevice) (path text : String) :
      (store m w path text).1 = (store m w' path text).1 ∧
        (store m w path text).2.toDevice = (store m w' path text).2.toDevice := by
    rw [store_failure, store_failure, store_world, store_world, h]
    exact ⟨rfl, rfl⟩
  cases step with
  | copyValue path name => exact hstore (w.ordered orders) w rfl path _
  | render path template =>
      have hsame := h ((w.ordered orders).orders 0) (w.orders 0)
      rcases hr : template.render s (w.orders 0) with e | shown
      · simp only [run, hsame, hr]
        exact ⟨trivial, rfl⟩
      · simp only [run, hsame, hr]
        exact hstore (w.ordered orders).later w.later rfl path shown
  | command c unit =>
      simp only [run, World.toDevice_ordered]
      rcases m.units.run c unit w.toDevice with ⟨_ | _, d⟩ <;> exact ⟨rfl, rfl⟩

end Step

/-! ## Executions -/

namespace Pipeline

variable {m : Machine σ} {s : Submission} {w₀ w w' : World σ} {steps : List (String × Step)}

theorem runSteps_after (hkeeps : m.units.KeepsFiles) (h : World.After m w₀ w) (s : Submission)
    (steps : List (String × Step)) : World.After m w₀ (runSteps m s steps w).world := by
  induction steps generalizing w with
  | nil => exact h
  | cons first rest ih =>
      obtain ⟨name, step⟩ := first
      have hstep := Step.run_after hkeeps h s step
      rcases hr : step.run m s w with ⟨_ | e, w₁⟩
      · rw [hr] at hstep
        rw [(runSteps_cons_ok name rest hr).2]
        exact ih hstep
      · rw [hr] at hstep
        rw [(runSteps_cons_error name rest hr).2]
        exact hstep

section Again

variable (hm : m.medium = .boundless) (hkeeps : m.units.KeepsFiles)
  (hsteady : m.units.Steady w₀.toDevice)

include hm hkeeps hsteady

/-- Steps that have all succeeded succeed again with the same orders, and they write the same. -/
theorem runSteps_again (hw : World.After m w₀ w) (hw' : World.After m w₀ w')
    (horders : w.orders = w'.orders) (hok : (runSteps m s steps w).failure = none) :
    (runSteps m s steps w').failure = none ∧
      writesOfSteps m s w' steps = writesOfSteps m s w steps := by
  induction steps generalizing w w' with
  | nil => exact ⟨rfl, rfl⟩
  | cons first rest ih =>
      obtain ⟨name, step⟩ := first
      rcases hr : step.run m s w with ⟨_ | e, w₁⟩
      · have hfirst : (step.run m s w).1 = none := by rw [hr]
        have hrenders : step.Renders s (w'.orders 0) := horders ▸ Step.renders_of_run hfirst
        have hagain := Step.run_again hm hsteady hw hw' hfirst hrenders
        obtain ⟨w₁', hr'⟩ : ∃ w₁', step.run m s w' = (none, w₁') := ⟨_, Prod.ext hagain rfl⟩
        have hw₁ := Step.run_after hkeeps hw s step
        have hw₁' := Step.run_after hkeeps hw' s step
        have horders₁ : (step.run m s w).2.orders = (step.run m s w').2.orders := by
          rw [Step.run_orders, Step.run_orders, horders]
        rw [hr] at hw₁ horders₁
        rw [hr'] at hw₁' horders₁
        rw [(runSteps_cons_ok name rest hr).1] at hok
        obtain ⟨hfailure, hwrites⟩ := ih hw₁ hw₁' horders₁ hok
        constructor
        · rw [(runSteps_cons_ok name rest hr').1, hfailure]
        · rw [writesOfSteps_cons_ok name rest hr, writesOfSteps_cons_ok name rest hr',
            Step.writes_again hm hw hw' hfirst horders, hwrites]
      · rw [(runSteps_cons_error name rest hr).1] at hok
        cases hok

/-- What is written with another submission goes to the first of the files that steps write which
all succeed. -/
theorem places_isPrefix (hw : World.After m w₀ w) (hw' : World.After m w₀ w')
    (hok : (runSteps m s steps w).failure = none) (s' : Submission) :
    (writesOfSteps m s' w' steps).map Writing.place <+:
      (writesOfSteps m s w steps).map Writing.place := by
  induction steps generalizing w w' with
  | nil => exact List.prefix_refl []
  | cons first rest ih =>
      obtain ⟨name, step⟩ := first
      rcases hr : step.run m s w with ⟨_ | e, w₁⟩
      · have hfirst : (step.run m s w).1 = none := by rw [hr]
        have hw₁ := Step.run_after hkeeps hw s step
        have hw₁' := Step.run_after hkeeps hw' s' step
        rw [hr] at hw₁
        rw [(runSteps_cons_ok name rest hr).1] at hok
        rw [writesOfSteps_cons_ok name rest hr, List.map_append]
        by_cases hrenders : step.Renders s' (w'.orders 0)
        · have hagain := Step.run_again hm hsteady hw hw' hfirst hrenders
          obtain ⟨w₁', hr'⟩ : ∃ w₁', step.run m s' w' = (none, w₁') := ⟨_, Prod.ext hagain rfl⟩
          rw [hr'] at hw₁'
          rw [writesOfSteps_cons_ok name rest hr', List.map_append,
            Step.places_again hm hw hw' hfirst hrenders]
          exact (List.prefix_append_right_inj _).mpr (ih hw₁ hw₁' hok)
        · -- the step stores nothing and fails
          obtain ⟨e, he⟩ := Step.exists_failure_of_not_renders m w' hrenders
          obtain ⟨w₁', hr'⟩ : ∃ w₁', step.run m s' w' = (some e, w₁') := ⟨_, Prod.ext he rfl⟩
          rw [writesOfSteps_cons_error name rest hr', Step.writes_of_not_renders m w' hrenders]
          exact List.nil_prefix
      · rw [(runSteps_cons_error name rest hr).1] at hok
        cases hok

end Again

theorem locations_isPrefix {xs ys : List Writing}
    (h : xs.map Writing.place <+: ys.map Writing.place) :
    xs.map Writing.location <+: ys.map Writing.location := by
  have hlocation : Writing.location = Prod.snd ∘ Writing.place := rfl
  rw [hlocation, ← List.map_map, ← List.map_map]
  exact h.map Prod.snd

def Orderless (p : Pipeline) (s : Submission) : Prop := ∀ step ∈ p.steps, step.2.Orderless s

/-- The orders make no difference to steps that do not show them. -/
theorem runSteps_orderless (h : ∀ step ∈ steps, step.2.Orderless s) (orders : Nat → Arrangement) :
    (runSteps m s steps (w.ordered orders)).failure = (runSteps m s steps w).failure ∧
      (runSteps m s steps (w.ordered orders)).world.toDevice =
        (runSteps m s steps w).world.toDevice ∧
      issuedBySteps m s steps (w.ordered orders) = issuedBySteps m s steps w := by
  induction steps generalizing w orders with
  | nil => exact ⟨rfl, rfl, rfl⟩
  | cons first rest ih =>
      obtain ⟨name, step⟩ := first
      obtain ⟨hfirst, hrest⟩ := List.forall_mem_cons.mp h
      obtain ⟨hfailure, hdevice⟩ := hfirst.run_eq (m := m) w orders
      rcases hr : step.run m s w with ⟨_ | e, w₁⟩ <;>
        rcases hr' : step.run m s (w.ordered orders) with ⟨_ | e', w₁'⟩ <;>
          simp only [hr, hr', reduceCtorEq, Option.some.injEq] at hfailure hdevice
      · obtain ⟨orders₁, rfl⟩ : ∃ orders₁, w₁' = w₁.ordered orders₁ :=
          ⟨w₁'.orders, by rw [World.ordered, ← hdevice]⟩
        obtain ⟨hend, hdevice₁, hissued⟩ := ih hrest orders₁ (w := w₁)
        rw [(runSteps_cons_ok name rest hr).1, (runSteps_cons_ok name rest hr').1,
          (runSteps_cons_ok name rest hr).2, (runSteps_cons_ok name rest hr').2,
          issuedBySteps_cons_ok rest hr, issuedBySteps_cons_ok rest hr']
        exact ⟨hend, hdevice₁, by rw [hissued]⟩
      · rw [(runSteps_cons_error name rest hr).1, (runSteps_cons_error name rest hr').1,
          (runSteps_cons_error name rest hr).2, (runSteps_cons_error name rest hr').2,
          issuedBySteps_cons_error rest hr, issuedBySteps_cons_error rest hr', hfailure]
        exact ⟨rfl, hdevice, rfl⟩

end Pipeline

/-! ## Programs that behave as a table tells -/

namespace Programs

theorem run_table (name : String) (arguments : List String) (d : Device Programs) :
    (run name arguments d).2.programs.table = d.programs.table := by
  unfold run
  split
  · rfl
  · split <;> rfl

/-- What comes of a run depends on the programs that there are and not on what has been run. -/
theorem run_congr {d d' : Device Programs} (h : d.programs.table = d'.programs.table)
    (name : String) (arguments : List String) :
    (run name arguments d).1 = (run name arguments d').1 := by
  have hfind : d.programs.find? name = d'.programs.find? name := by rw [find?, h, find?]
  unfold run
  rw [hfind]
  split
  · rfl
  · split <;> rfl

end Programs

namespace Systemctl

theorem manager_run_fst {d d' : Device Programs} (h : d.programs.table = d'.programs.table)
    (c : UnitCommand) (unit : String) :
    ((manager Programs.run).run c unit d).1 = ((manager Programs.run).run c unit d').1 := by
  have hrun := Programs.run_congr h program (commandArguments c unit)
  rcases hr : Programs.run program (commandArguments c unit) d with ⟨answer, d₁⟩
  rcases hr' : Programs.run program (commandArguments c unit) d' with ⟨answer', d₁'⟩
  rw [hr, hr'] at hrun
  subst hrun
  simp only [manager, output, hr, hr']
  rcases answer with e | o
  · rfl
  · by_cases ho : o.exit = 0 <;> simp [ho]

theorem manager_run_table (c : UnitCommand) (unit : String) (d : Device Programs) :
    ((manager Programs.run).run c unit d).2.programs.table = d.programs.table := by
  have htable := Programs.run_table program (commandArguments c unit) d
  rcases hr : Programs.run program (commandArguments c unit) d with ⟨answer, d₁⟩
  rw [hr] at htable
  simp only [manager, output, hr]
  rcases answer with e | o
  · exact htable
  · by_cases ho : o.exit = 0 <;> simpa [ho] using htable

/-- What a program of the table answers does not depend on what has been run before. -/
theorem steady_manager (d : Device Programs) : (manager Programs.run).Steady d := by
  intro d' hreaches c unit
  have htable : d'.programs.table = d.programs.table := by
    induction hreaches with
    | refl => rfl
    | issue _ c unit ih => rw [manager_run_table, ih]
    | store _ _ ih => exact ih
  rw [manager_run_fst htable]

end Systemctl

def Configuration.listing : Configuration where
  actions := [⟨"list", .file "all" (.template
    "\x7b\x7brange $k, $v := .\x7d\x7d\x7b\x7b$k\x7d\x7d=\x7b\x7b$v\x7d\x7d;\x7b\x7bend\x7d\x7d"
      none)⟩]
  checks := []
  values := [⟨"ssid", "", false⟩, ⟨"psk", "", false⟩]

/-- A template that goes over all entries shows their order, and then what a submission leaves
behind is not settled by the submission. -/
theorem Pipeline.exists_execute_files_ne :
    let m : Machine Programs := (Host.ofRunner .boundless Programs.run).toMachine
    let w : World Programs := .of .empty .empty
    let s : Submission := .ofList [("ssid", "home"), ("psk", "hunter2!")]
    ∃ p, compile Configuration.listing.compile = .ok p ∧
      (p.execute m s w).world.files.find? "all" =
        some (.file (Text.utf8 "ssid=home;psk=hunter2!;")) ∧
      (p.execute m s (w.ordered fun _ => .backwards)).world.files.find? "all" =
        some (.file (Text.utf8 "psk=hunter2!;ssid=home;")) := by
  intro m w s
  have htrial : ((compile Configuration.listing.compile).toOption.any fun p =>
      (p.execute m s w).world.files.find? "all" =
          some (.file (Text.utf8 "ssid=home;psk=hunter2!;")) ∧
        (p.execute m s (w.ordered fun _ => .backwards)).world.files.find? "all" =
          some (.file (Text.utf8 "psk=hunter2!;ssid=home;"))) = true := by
    decide +kernel
  obtain ⟨p, hp, hruns⟩ := exists_compile_of_any htrial
  exact ⟨p, hp, of_decide_eq_true hruns⟩

end Provision
