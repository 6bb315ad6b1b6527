import Provision.Proofs.Files.Overwriting
import Provision.Proofs.Pipeline.Recording

namespace Provision

/-!
# Performed steps

The steps that an execution performs, each with the world that it finds.  They are the first of the
pipeline's steps.  What an execution issues and what it writes are put together of what each of them
does; nothing else happens to the files as long as commands leave them alone.
-/

variable {σ : Type}

def UnitManager.KeepsFiles (u : UnitManager σ) : Prop :=
  ∀ c unit d, (u.run c unit d).2.files = d.files

/-- Commands neither look at the files nor touch them. -/
def UnitManager.Detached (u : UnitManager σ) : Prop :=
  ∀ c unit (d : Device σ) files, u.run c unit { d with files := files } =
    ((u.run c unit d).1, { (u.run c unit d).2 with files := files })

theorem UnitManager.Detached.keepsFiles {u : UnitManager σ} (h : u.Detached) : u.KeepsFiles := by
  intro c unit d
  rw [h c unit d d.files]

namespace Systemctl

/-- Programs of a table do not know of files. -/
theorem detached_manager : (manager Programs.run).Detached := by
  intro c unit d files
  simp only [manager, output, Programs.run]
  split_ifs with hnul
  · rfl
  · rcases d.programs.find? program with _ | p
    · rfl
    · by_cases hexit : (p.output (commandArguments c unit)).exit = 0 <;> simp [hexit]

end Systemctl

namespace Step

/-- The path and the text of what a step stores, if a copy of the submission has some order;
nothing, if no text comes of it. -/
def stored? (s : Submission) (order : Arrangement) : Step → Option (String × String)
  | copyValue path name => some (path, (s.get? name).getD "")
  | render path template => (template.render s order).toOption.map fun shown => (path, shown)
  | command .. => none

def writes (m : Machine σ) (s : Submission) (w : World σ) (step : Step) : List Writing :=
  match step.stored? s (w.orders 0) with
  | some (path, text) => (w.files.writing? m.medium path (Text.utf8 text)).toList
  | none => []

/-- No template that a step fills fails to be rendered. -/
def Renders (s : Submission) (order : Arrangement) : Step → Prop
  | render _ template => ∃ shown, template.render s order = .ok shown
  | _ => True

instance (s : Submission) (order : Arrangement) : (step : Step) → Decidable (step.Renders s order)
  | render _ template =>
    match h : template.render s order with
    | .ok shown => .isTrue ⟨shown, h⟩
    | .error _ => .isFalse fun ⟨_, hshown⟩ => by rw [h] at hshown; cases hshown
  | copyValue .. => .isTrue trivial
  | command .. => .isTrue trivial

theorem store_world (m : Machine σ) (w : World σ) (path text : String) :
    (store m w path text).2 =
      { w with files := (w.files.write m.medium path (Text.utf8 text)).2 } := by
  rcases h : w.files.write m.medium path (Text.utf8 text) with ⟨_ | e, files⟩ <;> simp [store, h]

theorem store_failure (m : Machine σ) (w : World σ) (path text : String) :
    (store m w path text).1 =
      (w.files.write m.medium path (Text.utf8 text)).1.map (Failure.unwritable path) := by
  rcases h : w.files.write m.medium path (Text.utf8 text) with ⟨_ | e, files⟩ <;> simp [store, h]

theorem store_files (m : Machine σ) (w : World σ) (path text : String) :
    (store m w path text).2.files =
      w.files.replay (w.files.writing? m.medium path (Text.utf8 text)).toList := by
  rw [← FileTree.write_eq_replay, store_world]

/-- A step changes the files by what it writes. -/
theorem run_files {m : Machine σ} (hkeeps : m.units.KeepsFiles) (s : Submission) (w : World σ)
    (step : Step) : (step.run m s w).2.files = w.files.replay (step.writes m s w) := by
  cases step with
  | copyValue path name => exact store_files m w path _
  | render path template =>
      rcases hr : template.render s (w.orders 0) with e | shown
      · simp [run, writes, stored?, hr, Except.toOption]
      · simpa [run, writes, stored?, hr, Except.toOption] using store_files m w.later path shown
  | command c unit =>
      have hfiles := hkeeps c unit w.toDevice
      rcases hr : m.units.run c unit w.toDevice with ⟨_ | _, d⟩ <;> rw [hr] at hfiles <;>
        simpa [run, writes, stored?, hr] using hfiles

theorem grounded_writes (m : Machine σ) (s : Submission) (w : World σ) (step : Step) :
    FileTree.Grounded (step.writes m s w) := by
  intro x hx
  rcases hs : step.stored? s (w.orders 0) with _ | ⟨path, text⟩
  · simp [writes, hs] at hx
  · simp only [writes, hs, Option.mem_toList] at hx
    exact FileTree.ne_nil_of_target (FileTree.target_of_writing? hx).2

variable {s : Submission} {step : Step}

/-- A step fails if its template cannot be rendered. -/
theorem exists_failure_of_not_renders (m : Machine σ) (w : World σ)
    (hr : ¬ step.Renders s (w.orders 0)) :
    ∃ e, (step.run m s w).1 = some e := by
  cases step with
  | render path template =>
      rcases h : template.render s (w.orders 0) with e | shown
      · exact ⟨.unrenderable e, by simp [run, h]⟩
      · exact absurd ⟨shown, h⟩ hr
  | _ => exact absurd trivial hr

theorem writes_of_not_renders (m : Machine σ) (w : World σ)
    (hr : ¬ step.Renders s (w.orders 0)) :
    step.writes m s w = [] := by
  cases step with
  | render path template =>
      rcases h : template.render s (w.orders 0) with e | shown
      · simp [writes, stored?, h, Except.toOption]
      · exact absurd ⟨shown, h⟩ hr
  | _ => exact absurd trivial hr

theorem renders_of_run {m : Machine σ} {w : World σ} (h : (step.run m s w).1 = none) :
    step.Renders s (w.orders 0) := by
  by_contra hr
  obtain ⟨e, he⟩ := exists_failure_of_not_renders m w hr
  rw [h] at he
  cases he

section Boundless

variable {m : Machine σ} (hm : m.medium = .boundless)

include hm

theorem store_failure_boundless (w : World σ) (path text : String) :
    (store m w path text).1 =
      match w.files.target path with
      | .ok _ => none
      | .error e => some (.unwritable path e) := by
  rw [store_failure, hm, FileTree.write_boundless]
  rcases w.files.target path with e | l <;> rfl

theorem writes_of_stored? {path text : String} {w : World σ}
    (hs : step.stored? s (w.orders 0) = some (path, text)) :
    step.writes m s w =
      (w.files.target path).toOption.toList.map fun l => ⟨path, l, Text.utf8 text⟩ := by
  rcases ht : w.files.target path with e | l
  · simp [writes, hs, FileTree.writing?, ht, Except.toOption]
  · simp [writes, hs, hm, FileTree.writing?_boundless ht, Except.toOption]

/-- Which file is written does not depend on the text. -/
theorem places_of_stored? {path text : String} {w : World σ}
    (hs : step.stored? s (w.orders 0) = some (path, text)) :
    (step.writes m s w).map Writing.place =
      (w.files.target path).toOption.toList.map fun l => (path, l) := by
  rw [writes_of_stored? hm hs, List.map_map]
  rfl

end Boundless

end Step

namespace Pipeline

/-- The steps that are performed, up to the first that fails, each with the world that it finds. -/
def performedSteps (m : Machine σ) (s : Submission) :
    World σ → List (String × Step) → List ((String × Step) × World σ)
  | _, [] => []
  | w, first :: rest =>
    (first, w) ::
      match first.2.run m s w with
      | (none, w') => performedSteps m s w' rest
      | (some _, _) => []

def performed (m : Machine σ) (p : Pipeline) (s : Submission) (w : World σ) :
    List ((String × Step) × World σ) :=
  performedSteps m s w p.steps

def writesOfSteps (m : Machine σ) (s : Submission) (w : World σ) (steps : List (String × Step)) :
    List Writing :=
  (performedSteps m s w steps).flatMap fun e => e.1.2.writes m s e.2

def writes (m : Machine σ) (p : Pipeline) (s : Submission) (w : World σ) : List Writing :=
  writesOfSteps m s w p.steps

/-- No template that is come to fails to be rendered. -/
def Renders (m : Machine σ) (p : Pipeline) (s : Submission) (w : World σ) : Prop :=
  ∀ e ∈ p.performed m s w, e.1.2.Renders s (e.2.orders 0)

instance (m : Machine σ) (p : Pipeline) (s : Submission) (w : World σ) :
    Decidable (p.Renders m s w) :=
  inferInstanceAs (Decidable (∀ e ∈ p.performed m s w, e.1.2.Renders s (e.2.orders 0)))

variable {m : Machine σ} {s : Submission} {step : Step} {w w₁ : World σ}

theorem performedSteps_cons_ok (name : String) (rest : List (String × Step))
    (h : step.run m s w = (none, w₁)) :
    performedSteps m s w ((name, step) :: rest) =
      ((name, step), w) :: performedSteps m s w₁ rest := by
  simp [performedSteps, h]

theorem performedSteps_cons_error {e : Failure} (name : String) (rest : List (String × Step))
    (h : step.run m s w = (some e, w₁)) :
    performedSteps m s w ((name, step) :: rest) = [((name, step), w)] := by
  simp [performedSteps, h]

theorem writesOfSteps_cons_ok (name : String) (rest : List (String × Step))
    (h : step.run m s w = (none, w₁)) :
    writesOfSteps m s w ((name, step) :: rest) =
      step.writes m s w ++ writesOfSteps m s w₁ rest := by
  rw [writesOfSteps, performedSteps_cons_ok name rest h, List.flatMap_cons, writesOfSteps]

theorem writesOfSteps_cons_error {e : Failure} (name : String) (rest : List (String × Step))
    (h : step.run m s w = (some e, w₁)) :
    writesOfSteps m s w ((name, step) :: rest) = step.writes m s w := by
  rw [writesOfSteps, performedSteps_cons_error name rest h, List.flatMap_singleton]

/-- What is performed is a first part of the steps. -/
theorem performedSteps_isPrefix (m : Machine σ) (s : Submission) (w : World σ)
    (steps : List (String × Step)) : (performedSteps m s w steps).map Prod.fst <+: steps := by
  induction steps generalizing w with
  | nil => exact List.prefix_refl []
  | cons first rest ih =>
      obtain ⟨name, step⟩ := first
      rcases hr : step.run m s w with ⟨_ | e, w₁⟩
      · rw [performedSteps_cons_ok name rest hr, List.map_cons]
        exact List.cons_prefix_cons.mpr ⟨rfl, ih w₁⟩
      · rw [performedSteps_cons_error name rest hr]
        exact List.cons_prefix_cons.mpr ⟨rfl, List.nil_prefix⟩

/-- All steps are performed when none fails; otherwise the last of those that are performed does. -/
theorem runSteps_failure_cases (m : Machine σ) (s : Submission) (w : World σ)
    (steps : List (String × Step)) :
    ((runSteps m s steps w).failure = none ∧ (performedSteps m s w steps).map Prod.fst = steps) ∨
      ∃ before name step w' e, performedSteps m s w steps = before ++ [((name, step), w')] ∧
        (step.run m s w').1 = some e ∧ (runSteps m s steps w).failure = some (.action name e) := by
  induction steps generalizing w with
  | nil => exact .inl ⟨rfl, rfl⟩
  | cons first rest ih =>
      obtain ⟨name, step⟩ := first
      rcases hr : step.run m s w with ⟨_ | e, w₁⟩
      · rw [performedSteps_cons_ok name rest hr, (runSteps_cons_ok name rest hr).1]
        rcases ih w₁ with ⟨hnone, hall⟩ | ⟨before, name', step', w', e, hperformed, he, hsome⟩
        · exact .inl ⟨hnone, by rw [List.map_cons, hall]⟩
        · exact .inr ⟨((name, step), w) :: before, name', step', w', e,
            by rw [hperformed, List.cons_append], he, hsome⟩
      · rw [performedSteps_cons_error name rest hr, (runSteps_cons_error name rest hr).1]
        exact .inr ⟨[], name, step, w, e, rfl, by rw [hr], rfl⟩

/-- What is issued are the commands of the steps that are performed. -/
theorem issuedBySteps_eq (m : Machine σ) (s : Submission) (w : World σ)
    (steps : List (String × Step)) :
    issuedBySteps m s steps w =
      ((performedSteps m s w steps).map Prod.fst).flatMap fun step => step.2.commands := by
  induction steps generalizing w with
  | nil => rfl
  | cons first rest ih =>
      obtain ⟨name, step⟩ := first
      rcases hr : step.run m s w with ⟨_ | e, w₁⟩
      · rw [performedSteps_cons_ok name rest hr, issuedBySteps_cons_ok rest hr, ih]
        rfl
      · rw [performedSteps_cons_error name rest hr, issuedBySteps_cons_error rest hr]
        simp

/-- Where nothing fails every command is issued. -/
theorem issuedBySteps_of_failure_eq_none {steps : List (String × Step)}
    (h : (runSteps m s steps w).failure = none) :
    issuedBySteps m s steps w = steps.flatMap fun step => step.2.commands := by
  rw [issuedBySteps_eq]
  rcases runSteps_failure_cases m s w steps with ⟨-, hall⟩ | ⟨_, _, _, _, _, -, -, hsome⟩
  · rw [hall]
  · rw [h] at hsome
    cases hsome

/-- The files are changed by what is written, and by nothing else. -/
theorem runSteps_files (hkeeps : m.units.KeepsFiles) (s : Submission) (w : World σ)
    (steps : List (String × Step)) :
    (runSteps m s steps w).world.files = w.files.replay (writesOfSteps m s w steps) := by
  induction steps generalizing w with
  | nil => rfl
  | cons first rest ih =>
      obtain ⟨name, step⟩ := first
      have hfiles := step.run_files hkeeps s w
      rcases hr : step.run m s w with ⟨_ | e, w₁⟩
      · rw [hr] at hfiles
        rw [writesOfSteps_cons_ok name rest hr, (runSteps_cons_ok name rest hr).2, ih w₁, hfiles,
          FileTree.replay_append]
      · rw [hr] at hfiles
        rw [writesOfSteps_cons_error name rest hr, (runSteps_cons_error name rest hr).2]
        exact hfiles

/-- The files are those that were there with the writings of the execution replayed on them, also
if it fails. -/
theorem execute_files (hkeeps : m.units.KeepsFiles) (p : Pipeline) (s : Submission)
    (w : World σ) :
    (p.execute m s w).world.files = w.files.replay (p.writes m s w) := by
  rw [execute_world, runSteps_files hkeeps, writes]

theorem grounded_writes (m : Machine σ) (p : Pipeline) (s : Submission) (w : World σ) :
    FileTree.Grounded (p.writes m s w) := by
  intro x hx
  obtain ⟨e, -, hx⟩ := List.mem_flatMap.mp hx
  exact e.1.2.grounded_writes m s e.2 x hx

theorem exists_compile_of_any {c : Configuration} {f : Pipeline → Bool}
    (h : (compile c).toOption.any f = true) : ∃ p, compile c = .ok p ∧ f p = true := by
  rcases hp : compile c with e | p
  · rw [hp] at h
    cases h
  · rw [hp] at h
    exact ⟨p, rfl, h⟩

end Pipeline

/-- A device that leaves its network while the name and the key of the network are written.  A key
that is empty cannot be rendered. -/
def Configuration.rejoining : Configuration where
  actions :=
    [⟨"leave", .unit "wpa_supplicant@wlan0.service" "stop"⟩,
      ⟨"write-ssid", .file "wpa.ssid" (.value "ssid")⟩,
      ⟨"write-psk", .file "wpa.conf" (.template
        "\x7b\x7bif .psk\x7d\x7dpsk=\x7b\x7b.psk\x7d\x7d\x7b\x7belse\x7d\x7d\x7b\x7blt .psk 8\x7d\x7d\x7b\x7bend\x7d\x7d"
        none)⟩,
      ⟨"join", .unit "wpa_supplicant@wlan0.service" "start"⟩]
  checks := []
  values := [⟨"ssid", "the network's name", false⟩, ⟨"psk", "the network's key", true⟩]

end Provision
