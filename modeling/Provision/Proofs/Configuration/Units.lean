import Provision.Proofs.Configuration.WellFormed

namespace Provision

/-!
# Units of actions and of checks

An action tells everything that is wrong with its unit.  A check looks at the length before the
grammar and tells what it finds first.  They accept the same units all the same, and the action
tells what the check tells.
-/

variable {declared : List Value} {u m : String}

theorem Probe.mem_unitFaults_of_fault? {description : String}
    (h : (Probe.unit u description).fault? declared = some m) : m ∈ Task.unitFaults u := by
  rw [fault?] at h
  rw [Task.unitFaults]
  by_cases hempty : u = ""
  · rw [if_pos hempty] at h ⊢
    obtain rfl := Option.some.inj h
    exact List.mem_append_left _ List.mem_cons_self
  · rw [if_neg hempty] at h ⊢
    by_cases hlong : UnitName.tooLong u = true
    · -- The length comes first in a check and last in an action.
      rw [if_pos hlong] at h ⊢
      obtain rfl := Option.some.inj h
      exact List.mem_append_right _ List.mem_cons_self
    · rw [if_neg hlong] at h
      by_cases hvalid : (!UnitName.valid u) = true
      · rw [if_pos hvalid] at h ⊢
        obtain rfl := Option.some.inj h
        exact List.mem_append_left _ List.mem_cons_self
      · rw [if_neg hvalid] at h
        cases h

theorem Task.faults_unit (u : String) (command : UnitCommand) :
    (Task.unit u command.text).faults declared = unitFaults u := by
  simp [faults]

/-- An action with one of the commands is well-formed exactly if its unit can be used. -/
theorem Task.wellFormed_unit (u : String) (command : UnitCommand) :
    (Task.unit u command.text).WellFormed declared ↔ UnitName.Usable u := by
  rw [← faults_eq_nil_iff, faults_unit, UnitName.unitFaults_eq_nil_iff]

/-- An action and a check with proper names accept the same units: those of the grammar with at most
256 characters after the last `@`.  Of every other unit the check has one thing to tell, and that is
among what the action tells. -/
theorem unit_agrees (declared : List Value) (u : String) (command : UnitCommand)
    (note description : String) {action check : String} (haction : Name.valid action = true)
    (hcheck : Name.valid check = true) :
    let a : Action := ⟨action, .unit u command.text⟩
    let k : Check := ⟨check, note, .unit u description⟩
    (a.faults declared = [] ↔ k.faults declared = []) ∧
    (k.faults declared = [] ↔ UnitName.InGrammar u ∧ (UnitName.suffix u).length ≤ 256) ∧
    (k.faults declared ≠ [] → ∃ m ∈ Task.unitFaults u,
      k.faults declared = ["check " ++ Text.quote check ++ ": " ++ m] ∧
      a.faults declared =
        ["action " ++ Text.quote action ++ ": " ++ "; ".intercalate (Task.unitFaults u)]) := by
  intro a k
  have hnamed := Name.valid_iff_inGrammar.mp haction
  have hnamed' := Name.valid_iff_inGrammar.mp hcheck
  have ha : a.faults declared = [] ↔ UnitName.Usable u := by
    rw [Action.faults_eq_nil_iff, Task.wellFormed_unit]
    exact and_iff_right ⟨hnamed.ne_empty, hnamed⟩
  have hk : k.faults declared = [] ↔ UnitName.Usable u := by
    rw [Check.faults_eq_nil_iff]
    exact and_iff_right ⟨hnamed'.ne_empty, hnamed'⟩
  refine ⟨ha.trans hk.symm, hk, fun hne => ?_⟩
  obtain ⟨m, hm⟩ : ∃ m, k.probe.fault? declared = some m := by
    refine Option.ne_none_iff_exists'.mp fun hnone => hne (hk.mpr ?_)
    exact Probe.fault?_eq_none_iff.mp hnone
  have hmem := Probe.mem_unitFaults_of_fault? hm
  refine ⟨m, hmem, ?_, ?_⟩
  · rw [Check.faults, if_neg hnamed'.ne_empty, hm]
    simp [k, hcheck]
  · rw [Action.faults, if_neg hnamed.ne_empty, Task.faults_unit]
    obtain ⟨first, others, hfaults⟩ := List.exists_cons_of_ne_nil (List.ne_nil_of_mem hmem)
    simp [a, haction, hfaults]

/-- Two instances are one too many for a check and for an action. -/
theorem two_instances_refused :
    Name.valid "stop-tty" = true ∧ Name.valid "tty" = true ∧
      ∃ m ∈ Task.unitFaults "getty@é@tty1.service",
        Check.faults [] ⟨"tty", "", .unit "getty@é@tty1.service" ""⟩ =
          ["check " ++ Text.quote "tty" ++ ": " ++ m] ∧
        Action.faults [] ⟨"stop-tty", .unit "getty@é@tty1.service" "stop"⟩ =
          ["action " ++ Text.quote "stop-tty" ++ ": " ++
            "; ".intercalate (Task.unitFaults "getty@é@tty1.service")] := by
  obtain ⟨-, -, hrefused⟩ := unit_agrees [] "getty@é@tty1.service" .stop "" ""
    (show Name.valid "stop-tty" = true by decide) (show Name.valid "tty" = true by decide)
  exact ⟨by decide, by decide, hrefused (by decide)⟩

end Provision
