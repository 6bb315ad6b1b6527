import Provision.Proofs.Pipeline.Performed

namespace Provision

/-!
# Actions that fail

An execution stops at the first step that fails.  A step that was to write a file and could not fill
its template or open the file has changed nothing.  But a file is emptied when it is opened: where
the medium does not take all data, what the file held is lost, and it holds as much of the text as
has been taken.
-/

variable {σ : Type} {m : Machine σ} {s : Submission} {w w' : World σ}

namespace Step

def path? : Step → Option String
  | copyValue path _ => some path
  | render path _ => some path
  | command .. => none

/-- There is no text to be stored, or the file cannot be opened. -/
def Unopened (s : Submission) (w : World σ) (step : Step) : Prop :=
  step.stored? s (w.orders 0) = none ∨
    ∃ path text e, step.stored? s (w.orders 0) = some (path, text) ∧ w.files.target path = .error e

/-- Of the text that a step stores, the medium has taken only the first bytes. -/
structure CutShort (m : Machine σ) (s : Submission) (w : World σ) (step : Step) (path : String)
    (l : Location) (taken : List UInt8) (cause : Failure) (w' : World σ) : Prop where
  opened : w.files.target path = .ok l
  broken : ∃ text count e, step.stored? s (w.orders 0) = some (path, text) ∧
    m.medium l (Text.utf8 text) = some (count, e) ∧ taken = (Text.utf8 text).take count ∧
    cause = .unwritable path e
  device : w'.toDevice = ⟨w.files.put l (.file taken), w.programs⟩

/-- How storing fails: no file can be opened, or the medium does not take all of the text. -/
theorem store_of_failure {path text : String} {cause : Failure}
    (h : store m w path text = (some cause, w')) :
    (∃ e, w.files.target path = .error e ∧ w'.toDevice = w.toDevice) ∨
      ∃ l count e, w.files.target path = .ok l ∧ m.medium l (Text.utf8 text) = some (count, e) ∧
        cause = .unwritable path e ∧
        w'.toDevice = ⟨w.files.put l (.file ((Text.utf8 text).take count)), w.programs⟩ := by
  rcases ht : w.files.target path with e | l
  · simp only [store, FileTree.write, ht, Prod.mk.injEq] at h
    exact .inl ⟨e, rfl, (congrArg World.toDevice h.2).symm⟩
  · rcases hm : m.medium l (Text.utf8 text) with _ | ⟨count, e⟩
    · simp [store, FileTree.write, ht, hm] at h
    · simp only [store, FileTree.write, ht, hm, Prod.mk.injEq, Option.some.injEq] at h
      exact .inr ⟨l, count, e, rfl, hm, h.1.symm, (congrArg World.toDevice h.2).symm⟩

/-- A step that was to write a file and fails leaves the device as it was, unless it is cut short.
-/
theorem device_of_failure {step : Step} {path : String} {cause : Failure}
    (hpath : step.path? = some path) (h : step.run m s w = (some cause, w')) :
    (step.Unopened s w ∧ w'.toDevice = w.toDevice) ∨
      ∃ l taken, step.CutShort m s w path l taken cause w' := by
  cases step with
  | copyValue path' name =>
      obtain rfl := Option.some.inj hpath
      rcases store_of_failure h with ⟨e, ht, hdevice⟩ | ⟨l, count, e, ht, hm, hcause, hdevice⟩
      · exact .inl ⟨.inr ⟨_, _, e, rfl, ht⟩, hdevice⟩
      · exact .inr ⟨l, _, ht, ⟨_, count, e, rfl, hm, rfl, hcause⟩, hdevice⟩
  | render path' template =>
      obtain rfl := Option.some.inj hpath
      rcases hr : template.render s (w.orders 0) with e | shown
      · simp only [run, hr, Prod.mk.injEq] at h
        exact .inl ⟨.inl (by simp [stored?, hr, Except.toOption]),
          (congrArg World.toDevice h.2).symm⟩
      · simp only [run, hr] at h
        have hstored : (render path' template).stored? s (w.orders 0) = some (path', shown) := by
          simp [stored?, hr, Except.toOption]
        rcases store_of_failure h with ⟨e, ht, hdevice⟩ | ⟨l, count, e, ht, hm, hcause, hdevice⟩
        · exact .inl ⟨.inr ⟨_, _, e, hstored, ht⟩, hdevice⟩
        · exact .inr ⟨l, _, ht, ⟨_, count, e, hstored, hm, rfl, hcause⟩, hdevice⟩
  | command => cases hpath

namespace CutShort

variable {step : Step} {path : String} {l k : Location} {taken : List UInt8} {cause : Failure}

/-- The file holds what the medium has taken. -/
theorem find? (h : step.CutShort m s w path l taken cause w') :
    w'.files.find? path = some (.file taken) := by
  rw [h.device]
  exact FileTree.find?_put_target h.opened taken

/-- Whatever lies elsewhere is as it was. -/
theorem get?_of_ne (h : step.CutShort m s w path l taken cause w') (hk : k ≠ l) :
    w'.files.get? k = w.files.get? k := by
  rw [h.device, FileTree.get?_put _ _ _ (FileTree.ne_nil_of_target h.opened), if_neg hk]

end CutShort

end Step

namespace Pipeline

/-- A run that fails has a first step that fails, and succeeds up to there. -/
theorem exists_stop_of_runSteps_failure {steps : List (String × Step)} {e : Failure}
    (h : (runSteps m s steps w).failure = some e) :
    ∃ before name step after cause, steps = before ++ (name, step) :: after ∧
      e = .action name cause ∧ (runSteps m s before w).failure = none ∧
      step.run m s (runSteps m s before w).world = (some cause, (runSteps m s steps w).world) := by
  induction steps generalizing w with
  | nil => cases h
  | cons first rest ih =>
      obtain ⟨name, step⟩ := first
      rcases hr : step.run m s w with ⟨_ | cause, w₁⟩
      · obtain ⟨hfailure, hworld⟩ := runSteps_cons_ok name rest hr
        obtain ⟨before, name', step', after, cause, rfl, he, hbefore, hrun⟩ :=
          ih (hfailure.symm.trans h)
        obtain ⟨hfailure', hworld'⟩ := runSteps_cons_ok name before hr
        refine ⟨(name, step) :: before, name', step', after, cause, rfl, he, ?_, ?_⟩
        · rw [hfailure', hbefore]
        · rw [hworld', hrun, hworld]
      · obtain ⟨hfailure, hworld⟩ := runSteps_cons_error name rest hr
        refine ⟨[], name, step, rest, cause, rfl, ?_, rfl, ?_⟩
        · exact Option.some.inj (h.symm.trans hfailure)
        · rw [runSteps_nil, hr, hworld]

/-- An execution that fails has succeeded with the actions before the one that failed.  If that one
was to write a file and its text could not be made, or the file could not be opened, the device is
as the action found it.  If the file was opened and the medium did not take all data, the file holds
the bytes that were taken, and every other file is as it was.  So no files but these have changed,
as long as commands leave the files alone. -/
theorem device_of_execute_failure {p : Pipeline} {e : Failure}
    (h : (p.execute m s w).failure = some e) :
    ∃ before name step after cause, p.steps = before ++ (name, step) :: after ∧
      e = .action name cause ∧ (runSteps m s before w).failure = none ∧
      ∀ path, step.path? = some path →
        let w₁ := (runSteps m s before w).world
        let w' := (p.execute m s w).world
        (step.Unopened s w₁ ∧ w'.toDevice = w₁.toDevice ∧
          (m.units.KeepsFiles → ∀ k, (∀ x ∈ writesOfSteps m s w before, x.location ≠ k) →
            w'.files.get? k = w.files.get? k)) ∨
        ∃ l taken, step.CutShort m s w₁ path l taken cause w' ∧
          w'.files.find? path = some (.file taken) ∧
          (∀ k ≠ l, w'.files.get? k = w₁.files.get? k) ∧
          (m.units.KeepsFiles → ∀ k ≠ l, (∀ x ∈ writesOfSteps m s w before, x.location ≠ k) →
            w'.files.get? k = w.files.get? k) := by
  rw [execute_failure] at h
  obtain ⟨before, name, step, after, cause, hsteps, he, hbefore, hrun⟩ :=
    exists_stop_of_runSteps_failure h
  have hkept (hkeeps : m.units.KeepsFiles) (k : Location)
      (hk : ∀ x ∈ writesOfSteps m s w before, x.location ≠ k) :
      (runSteps m s before w).world.files.get? k = w.files.get? k := by
    rw [runSteps_files hkeeps]
    exact FileTree.get?_replay_of_forall_ne (grounded_writes m ⟨before⟩ s w) hk
  refine ⟨before, name, step, after, cause, hsteps, he, hbefore, fun path hpath => ?_⟩
  rw [← execute_world (p := p)] at hrun
  rcases Step.device_of_failure hpath hrun with ⟨hunopened, hdevice⟩ | ⟨l, taken, hshort⟩
  · refine .inl ⟨hunopened, hdevice, fun hkeeps k hk => ?_⟩
    rw [hdevice, hkept hkeeps k hk]
  · refine .inr ⟨l, taken, hshort, hshort.find?, fun k hk => hshort.get?_of_ne hk, ?_⟩
    intro hkeeps k hkl hk
    rw [hshort.get?_of_ne hkl, hkept hkeeps k hk]

def keying (path : String) : Pipeline :=
  ⟨[("note", .copyValue "note" "ssid"), ("write", .copyValue path "psk")]⟩

def scant : Machine Programs :=
  ⟨fun _ data => if 3 < data.length then some (3, .noSpace) else none,
    Systemctl.manager Programs.run⟩

def keyed : World Programs :=
  .of { entries := [([['p', 's', 'k']], .file (Text.utf8 "hunter2!"))] } .empty

def longerKey : Submission := .ofList [("ssid", "net"), ("psk", "sw0rdf1sh")]

/-- The path leads through a directory that does not exist, so that the earlier key stays. -/
theorem execute_keying_fails :
    ((keying "gone/psk").execute scant longerKey keyed).failure =
        some (.action "write" (.unwritable "gone/psk" .noSuchFile)) ∧
      ((keying "gone/psk").execute scant longerKey keyed).world.files.get? [['p', 's', 'k']] =
        keyed.files.get? [['p', 's', 'k']] := by
  have hfails : ((keying "gone/psk").execute scant longerKey keyed).failure =
      some (.action "write" (.unwritable "gone/psk" .noSuchFile)) := by decide
  refine ⟨hfails, ?_⟩
  obtain ⟨before, name, step, after, cause, hsteps, he, -, hdevice⟩ :=
    device_of_execute_failure hfails
  obtain ⟨rfl, -⟩ := Failure.action.inj he
  obtain ⟨rfl, rfl⟩ : before = [("note", .copyValue "note" "ssid")] ∧
      step = .copyValue "gone/psk" "psk" := by
    rcases before with _ | ⟨x, _ | ⟨y, rest⟩⟩
    · simp [keying] at hsteps
    · simp only [keying, List.cons_append, List.nil_append, List.cons.injEq,
        Prod.mk.injEq] at hsteps
      exact ⟨by rw [← hsteps.1], hsteps.2.1.2.symm⟩
    · simp [keying] at hsteps
  rcases hdevice "gone/psk" rfl with ⟨-, -, hfiles⟩ | ⟨l, taken, hshort, -⟩
  · exact hfiles Systemctl.detached_manager.keepsFiles _ (by decide)
  · have hgone : (runSteps scant longerKey [("note", .copyValue "note" "ssid")]
        keyed).world.files.target "gone/psk" = .error .noSuchFile := by decide
    cases hgone.symm.trans hshort.opened

/-- Of the earlier key nothing is left when the medium is full. -/
theorem exists_execute_cutShort :
    keyed.files.find? "psk" = some (.file (Text.utf8 "hunter2!")) ∧
      ((keying "psk").execute scant longerKey keyed).failure =
        some (.action "write" (.unwritable "psk" .noSpace)) ∧
      ((keying "psk").execute scant longerKey keyed).world.files.find? "psk" =
        some (.file (Text.utf8 "sw0")) ∧
      Text.utf8 "sw0" ≠ Text.utf8 "hunter2!" :=
  ⟨by decide, by decide, by decide, by decide⟩

end Pipeline

end Provision
