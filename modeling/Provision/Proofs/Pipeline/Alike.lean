import Provision.Proofs.Files.Shape
import Provision.Proofs.Pipeline.Performed

namespace Provision

/-!
# Worlds that are alike

A step that succeeds in two worlds that differ at most in what their files hold leaves two such
worlds behind, whatever has been submitted for each.
-/

variable {σ : Type}

/-- Worlds that differ at most in what their files hold, and in the orders of copies. -/
structure World.Alike (w w' : World σ) : Prop where
  files : w.files.SameShape w'.files
  programs : w.programs = w'.programs

namespace World

/-- The world in which copies will have other orders. -/
def ordered (w : World σ) (orders : Nat → Arrangement) : World σ := { w with orders := orders }

@[simp] theorem toDevice_ordered (w : World σ) (orders : Nat → Arrangement) :
    (w.ordered orders).toDevice = w.toDevice := rfl

theorem alike_ordered (w : World σ) (orders : Nat → Arrangement) : w.Alike (w.ordered orders) :=
  ⟨.refl w.files, rfl⟩

variable {w w' : World σ}

theorem Alike.later (h : w.Alike w') : w.later.Alike w'.later := ⟨h.files, h.programs⟩

/-- A command that does not look at the files has the same answer in both worlds. -/
theorem Alike.run (h : w.Alike w') {u : UnitManager σ} (hu : u.Detached) (c : UnitCommand)
    (unit : String) :
    u.run c unit w'.toDevice =
      ((u.run c unit w.toDevice).1,
        { (u.run c unit w.toDevice).2 with files := w'.files }) := by
  rw [← hu c unit w.toDevice w'.files, h.programs]

end World

namespace Step

variable {m : Machine σ} {s s' : Submission} {w w' : World σ}

/-- Worlds stay alike when different texts are stored at one path. -/
theorem store_alike (h : w.Alike w') (path text text' : String) :
    (store m w path text).2.Alike (store m w' path text').2 := by
  rw [store_world, store_world]
  exact ⟨h.files.write m.medium path _ _, h.programs⟩

theorem store_failure_eq (h : w.Alike w') (hm : m.medium.Uniform) {path text text' : String}
    {e e' : Failure} (he : (store m w path text).1 = some e)
    (he' : (store m w' path text').1 = some e') : e = e' := by
  rw [store_failure] at he he'
  obtain ⟨c, hc, rfl⟩ := Option.map_eq_some_iff.mp he
  obtain ⟨c', hc', rfl⟩ := Option.map_eq_some_iff.mp he'
  rw [h.files.write_failure hm hc hc']

/-- Worlds stay alike when a step succeeds in both. -/
theorem run_alike (h : w.Alike w') (hu : m.units.Detached) {step : Step}
    (hs : (step.run m s w).1 = none) (hs' : (step.run m s' w').1 = none) :
    (step.run m s w).2.Alike (step.run m s' w').2 := by
  cases step with
  | copyValue path name => exact store_alike h path _ _
  | render path template =>
      rcases hr : template.render s (w.orders 0) with e | shown
      · simp [run, hr] at hs
      rcases hr' : template.render s' (w'.orders 0) with e | shown'
      · simp [run, hr'] at hs'
      simpa only [run, hr, hr'] using store_alike h.later path shown shown'
  | command c unit =>
      have hfiles := hu.keepsFiles c unit w.toDevice
      have hr' := h.run hu c unit
      rcases hr : m.units.run c unit w.toDevice with ⟨_ | _, d⟩
      · simp [run, hr] at hs
      · rw [hr] at hfiles hr'
        simp only [run, hr, hr']
        exact ⟨hfiles.symm ▸ h.files, rfl⟩

end Step

end Provision
