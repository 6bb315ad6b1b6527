import Mathlib.Data.List.Count
import Mathlib.Data.List.Perm.Basic
import Provision.Configuration.Validation

namespace Provision

/-!
# The messages of a validation

What is said about the entries of a kind consists of what is wrong with each of them and of the
names that an earlier one has.  Neither depends on where an entry stands: a name that is given `k`
times is repeated `k - 1` times in any order, and the rest is about each entry alone, which is
judged by the names that are declared and not by the order of their declarations.
-/

namespace Configuration

variable {α : Type} {kind : String} {name : α → String} {faults : α → List String}

def ownMessage (faults : α → List String) (e : α) : List String :=
  if faults e = [] then [] else ["; ".intercalate (faults e)]

/-- The names that repeat one before them, or one of the `earlier` ones. -/
def repeatedAfter : List String → List String → List String
  | _, [] => []
  | earlier, n :: rest =>
    (if n ∈ earlier then [n] else []) ++ repeatedAfter (n :: earlier) rest

theorem messagesFrom_cons (earlier : List String) (e : α) (rest : List α) :
    messagesFrom kind name faults earlier (e :: rest) =
      ownMessage faults e ++ (if name e ∈ earlier then [repeatedMessage kind (name e)] else []) ++
        messagesFrom kind name faults (name e :: earlier) rest := rfl

theorem messagesFrom_append (earlier : List String) (entries later : List α) :
    messagesFrom kind name faults earlier (entries ++ later) =
      messagesFrom kind name faults earlier entries ++
        messagesFrom kind name faults ((entries.map name).reverse ++ earlier) later := by
  induction entries generalizing earlier with
  | nil => rfl
  | cons e rest ih =>
      simp [messagesFrom_cons, ih]

theorem own_mem_messagesFrom {earlier : List String} {entries : List α} {e : α} (he : e ∈ entries)
    (h : faults e ≠ []) :
    "; ".intercalate (faults e) ∈ messagesFrom kind name faults earlier entries := by
  obtain ⟨before, after, rfl⟩ := List.append_of_mem he
  rw [messagesFrom_append, messagesFrom_cons, ownMessage, if_neg h]
  simp

/-- Up to their order, the messages about a kind are those about each entry by itself and those
about the names that repeat one. -/
theorem messagesFrom_perm_own_repeated (earlier : List String) (entries : List α) :
    (messagesFrom kind name faults earlier entries).Perm
      (entries.flatMap (ownMessage faults) ++
        (repeatedAfter earlier (entries.map name)).map (repeatedMessage kind)) := by
  induction entries generalizing earlier with
  | nil => exact .refl _
  | cons e rest ih =>
      have hnew : (if name e ∈ earlier then [repeatedMessage kind (name e)] else []) =
          (if name e ∈ earlier then [name e] else []).map (repeatedMessage kind) := by
        split <;> rfl
      rw [messagesFrom_cons, hnew, List.flatMap_cons, List.map_cons, repeatedAfter,
        List.map_append, List.append_assoc, List.append_assoc]
      apply List.Perm.append_left
      -- the repeated name moves behind what is said about the later entries by themselves
      apply ((ih (name e :: earlier)).append_left _).trans
      rw [← List.append_assoc, ← List.append_assoc]
      exact List.perm_append_comm.append_right _

/-- The first of a name's occurrences repeats nothing, unless the name is an earlier one; every
other occurrence does. -/
theorem count_repeatedAfter (n : String) (earlier names : List String) :
    (repeatedAfter earlier names).count n = names.count n - if n ∈ earlier then 0 else 1 := by
  induction names generalizing earlier with
  | nil => simp [repeatedAfter]
  | cons m rest ih =>
      rw [repeatedAfter, List.count_append, ih, List.count_cons]
      by_cases hm : m = n
      · subst hm
        by_cases hearlier : m ∈ earlier
        · simp only [hearlier, List.mem_cons_self, if_true, List.count_singleton_self,
            beq_self_eq_true]
          omega
        · simp [hearlier]
      · have hnone : (if m ∈ earlier then [m] else []).count n = 0 := by
          split <;> simp [hm]
        simp [hnone, hm, Ne.symm hm]

/-- Which names are repeated, and how often, does not depend on the order. -/
theorem repeatedAfter_perm {names names' : List String} (h : names.Perm names') :
    (repeatedAfter [] names).Perm (repeatedAfter [] names') := by
  apply List.perm_iff_count.mpr
  intro n
  rw [count_repeatedAfter, count_repeatedAfter, h.count_eq]

theorem messagesFrom_perm {entries entries' : List α} (h : entries.Perm entries') :
    (messagesFrom kind name faults [] entries).Perm
      (messagesFrom kind name faults [] entries') := by
  have hown := h.flatMap_right (ownMessage faults)
  have hrepeated := (repeatedAfter_perm (h.map name)).map (repeatedMessage kind)
  apply (messagesFrom_perm_own_repeated [] entries).trans
  exact (hown.append hrepeated).trans (messagesFrom_perm_own_repeated [] entries').symm

end Configuration

/-! ## What is declared -/

variable {declared declared' : List Value}

theorem Value.isDeclared_perm (h : declared.Perm declared') :
    isDeclared declared = isDeclared declared' := by
  funext name
  rw [Bool.eq_iff_iff, isDeclared_iff, isDeclared_iff]
  simp only [h.mem_iff]

theorem Content.faults_congr (h : Value.isDeclared declared = Value.isDeclared declared')
    (content : Content) : content.faults declared = content.faults declared' := by
  cases content with
  | value name => simp only [faults, h]
  | template text compiled => rfl

theorem Action.faults_congr (h : Value.isDeclared declared = Value.isDeclared declared')
    (a : Action) : a.faults declared = a.faults declared' := by
  have htask : a.task.faults declared = a.task.faults declared' := by
    cases a.task with
    | file path content => simp only [Task.faults, Content.faults_congr h]
    | unit u command => rfl
  simp only [faults, htask]

theorem Check.faults_congr (h : Value.isDeclared declared = Value.isDeclared declared')
    (k : Check) : k.faults declared = k.faults declared' := by
  have hprobe : k.probe.fault? declared = k.probe.fault? declared' := by
    cases k.probe with
    | unit u description => rfl
    | service name socket => rfl
    | host value => simp only [Probe.fault?, h]
  simp only [faults, hprobe]

end Provision
