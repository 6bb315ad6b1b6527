import Provision.Proofs.Configuration.Messages
import Provision.Proofs.Configuration.PatternOrder
import Provision.Proofs.Configuration.WellFormed

namespace Provision

/-!
# Merged and rearranged configurations

Configurations that declare the same entries are judged alike, whatever the order of each kind, and
so are those that are merged from the same documents.  Two valid configurations can be merged unless
a name of the one is a name of the other: what either refers to is still declared, so that nothing
but repeated names is left to be said.
-/

namespace Configuration

/-! ## Another order -/

/-- The same entries, each kind in an order of its own. -/
structure Rearranged (c d : Configuration) : Prop where
  actions : c.actions.Perm d.actions
  checks : c.checks.Perm d.checks
  values : c.values.Perm d.values

/-- The same documents in another order declare the same entries, each kind in another order. -/
theorem rearranged_mergeAll {cs ds : List Configuration} (h : cs.Perm ds) :
    Rearranged (mergeAll cs) (mergeAll ds) := by
  obtain ⟨hactions, hchecks, hvalues⟩ := mergeAll_entries_perm h
  exact ⟨hactions, hchecks, hvalues⟩

variable {c d : Configuration}

/-- The messages about rearranged entries are the same, in another order. -/
theorem Rearranged.messages_perm (h : c.Rearranged d) : c.messages.Perm d.messages := by
  have hdeclared := Value.isDeclared_perm h.values
  have hactions : Action.faults c.values = Action.faults d.values :=
    funext (Action.faults_congr hdeclared)
  have hchecks : Check.faults c.values = Check.faults d.values :=
    funext (Check.faults_congr hdeclared)
  rw [messages, messages, hactions, hchecks]
  apply List.Perm.append
  · exact (messagesFrom_perm h.actions).append (messagesFrom_perm h.checks)
  · exact messagesFrom_perm h.values

theorem Rearranged.valid_iff (h : c.Rearranged d) : c.valid = true ↔ d.valid = true := by
  rw [valid, valid, List.isEmpty_iff, List.isEmpty_iff]
  constructor
  · intro hc
    apply List.Perm.eq_nil
    exact hc ▸ h.messages_perm.symm
  · intro hd
    apply List.Perm.eq_nil
    exact hd ▸ h.messages_perm

/-- Neither the order of the entries nor that of the documents decides whether a configuration is
valid, or what is said about it. -/
theorem valid_iff_and_messages_perm :
    (∀ c d : Configuration, c.Rearranged d →
      (c.valid = true ↔ d.valid = true) ∧ c.messages.Perm d.messages) ∧
    ∀ cs ds : List Configuration, cs.Perm ds →
      ((mergeAll cs).valid = true ↔ (mergeAll ds).valid = true) ∧
        (mergeAll cs).messages.Perm (mergeAll ds).messages := by
  constructor
  · intro c d h
    exact ⟨h.valid_iff, h.messages_perm⟩
  · intro cs ds h
    have hmerged := rearranged_mergeAll h
    exact ⟨hmerged.valid_iff, hmerged.messages_perm⟩

def dangling : Configuration :=
  ⟨[⟨"key", .file "wpa.psk" (.value "psk")⟩], [], [⟨"ssid", "", false⟩]⟩

def pathless : Configuration :=
  ⟨[⟨"key", .file "" (.value "ssid")⟩, ⟨"name", .file "wpa.conf" (.value "ssid")⟩], [],
    [⟨"ssid", "", false⟩]⟩

theorem messages_perm_of_two_documents :
    (mergeAll [pathless, dangling]).messages.Perm
        ["action \"key\": file value \"psk\" was not found",
          "action \"key\": file path cannot be empty", "action \"key\" appears more than once",
          "value \"ssid\" appears more than once"] ∧
      (mergeAll [pathless, dangling]).messages ≠ (mergeAll [dangling, pathless]).messages := by
  have hswap : [pathless, dangling].Perm [dangling, pathless] := .swap _ _ []
  have hmessages : (mergeAll [dangling, pathless]).messages =
      ["action \"key\": file value \"psk\" was not found",
        "action \"key\": file path cannot be empty", "action \"key\" appears more than once",
        "value \"ssid\" appears more than once"] := rfl
  obtain ⟨-, hperm⟩ := valid_iff_and_messages_perm.2 _ _ hswap
  rw [hmessages] at hperm
  exact ⟨hperm, by decide⟩

/-! ## Two valid configurations -/

/-- About entries without faults nothing is said but that their names repeat earlier ones. -/
theorem messagesFrom_of_faultless {α : Type} {kind : String} {name : α → String}
    {faults : α → List String} (earlier : List String) {entries : List α}
    (hfaults : ∀ e ∈ entries, faults e = []) (hnodup : (entries.map name).Nodup) :
    messagesFrom kind name faults earlier entries =
      (entries.filter fun e => name e ∈ earlier).map fun e => repeatedMessage kind (name e) := by
  induction entries generalizing earlier with
  | nil => rfl
  | cons e rest ih =>
      obtain ⟨he, hrest⟩ := List.forall_mem_cons.mp hfaults
      rw [List.map_cons, List.nodup_cons] at hnodup
      have hsame : (rest.filter fun f => name f ∈ name e :: earlier) =
          rest.filter fun f => name f ∈ earlier := by
        apply List.filter_congr
        intro f hf
        have hne : name f ≠ name e := fun h => hnodup.1 (List.mem_map.mpr ⟨f, hf, h⟩)
        simp [hne]
      rw [messagesFrom_cons, ownMessage, if_pos he, ih _ hrest hnodup.2, hsame]
      by_cases hearlier : name e ∈ earlier <;> simp [hearlier]

theorem messagesFrom_append_of_faultless {α : Type} {kind : String} {name : α → String}
    {faults : α → List String} {entries later : List α}
    (hfaults : ∀ e ∈ entries ++ later, faults e = []) (hnodup : (entries.map name).Nodup)
    (hlater : (later.map name).Nodup) :
    messagesFrom kind name faults [] (entries ++ later) =
      (later.filter fun e => name e ∈ entries.map name).map
        fun e => repeatedMessage kind (name e) := by
  obtain ⟨hfirst, hsecond⟩ := List.forall_mem_append.mp hfaults
  have hnone : messagesFrom kind name faults [] entries = [] :=
    messagesFrom_eq_nil_iff.mpr ⟨hfirst, hnodup, by simp⟩
  rw [messagesFrom_append, hnone, List.nil_append, List.append_nil,
    messagesFrom_of_faultless _ hsecond hlater]
  simp only [List.mem_reverse]

end Configuration

section Growing

variable {declared declared' : List Value}

theorem Value.Declares.mono {name : String} (h : declared ⊆ declared')
    (hname : Declares declared name) : Declares declared' name := by
  obtain ⟨hne, v, hv, rfl⟩ := hname
  exact ⟨hne, v, h hv, rfl⟩

theorem Task.WellFormed.mono {task : Task} (h : declared ⊆ declared')
    (htask : task.WellFormed declared) : task.WellFormed declared' := by
  rcases task with ⟨path, name | ⟨text, compiled⟩⟩ | ⟨u, command⟩
  · exact ⟨htask.1, Value.Declares.mono h htask.2⟩
  · exact htask
  · exact htask

theorem Probe.WellFormed.mono {probe : Probe} (h : declared ⊆ declared')
    (hprobe : probe.WellFormed declared) : probe.WellFormed declared' := by
  cases probe with
  | unit u description => exact hprobe
  | service name socket => exact hprobe
  | host value => exact Value.Declares.mono h hprobe

end Growing

namespace Configuration

variable {c d : Configuration}

theorem WellFormed.action_faults (h : c.WellFormed) {declared : List Value}
    (hsub : c.values ⊆ declared) {a : Action} (ha : a ∈ c.actions) : a.faults declared = [] :=
  Action.faults_eq_nil_iff.mpr ⟨h.actionNames a ha, (h.tasks a ha).mono hsub⟩

theorem WellFormed.check_faults (h : c.WellFormed) {declared : List Value}
    (hsub : c.values ⊆ declared) {k : Check} (hk : k ∈ c.checks) : k.faults declared = [] :=
  Check.faults_eq_nil_iff.mpr ⟨h.checkNames k hk, (h.probes k hk).mono hsub⟩

/-- About two well-formed configurations together nothing is said but which names they share. -/
theorem WellFormed.messages_merge (hc : c.WellFormed) (hd : d.WellFormed) :
    (c.merge d).messages =
      ((d.actions.filter fun a => a.name ∈ c.actions.map Action.name).map
        fun a => repeatedMessage "action" a.name) ++
      ((d.checks.filter fun k => k.name ∈ c.checks.map Check.name).map
        fun k => repeatedMessage "check" k.name) ++
      (d.values.filter fun v => v.name ∈ c.values.map Value.name).map
        fun v => repeatedMessage "value" v.name := by
  have hfirst : c.values ⊆ c.values ++ d.values := List.subset_append_left _ _
  have hsecond : d.values ⊆ c.values ++ d.values := List.subset_append_right _ _
  have hactions : ∀ a ∈ c.actions ++ d.actions, a.faults (c.values ++ d.values) = [] :=
    List.forall_mem_append.mpr
      ⟨fun _ ha => hc.action_faults hfirst ha, fun _ ha => hd.action_faults hsecond ha⟩
  have hchecks : ∀ k ∈ c.checks ++ d.checks, k.faults (c.values ++ d.values) = [] :=
    List.forall_mem_append.mpr
      ⟨fun _ hk => hc.check_faults hfirst hk, fun _ hk => hd.check_faults hsecond hk⟩
  have hvalues : ∀ v ∈ c.values ++ d.values, v.faults = [] :=
    List.forall_mem_append.mpr
      ⟨fun v hv => Value.faults_eq_nil_iff.mpr (hc.valueNames v hv),
        fun v hv => Value.faults_eq_nil_iff.mpr (hd.valueNames v hv)⟩
  simp only [messages, merge]
  rw [messagesFrom_append_of_faultless hactions hc.actionsDistinct hd.actionsDistinct,
    messagesFrom_append_of_faultless hchecks hc.checksDistinct hd.checksDistinct,
    messagesFrom_append_of_faultless hvalues hc.valuesDistinct hd.valuesDistinct]

theorem filter_mem_names_eq_nil_iff {α : Type} {name : α → String} {entries later : List α} :
    (later.filter fun e => name e ∈ entries.map name) = [] ↔
      (entries.map name).Disjoint (later.map name) := by
  simp only [List.filter_eq_nil_iff, decide_eq_true_eq]
  constructor
  · intro h n hn hlater
    obtain ⟨e, he, rfl⟩ := List.mem_map.mp hlater
    exact h e he hn
  · intro h e he hn
    exact h hn (List.mem_map_of_mem he)

/-- Two valid configurations make up a valid one exactly when they share no name of a kind.
Otherwise there is one message about each entry of the second whose name the first has, and nothing
else. -/
theorem merge_valid_iff (hc : c.valid = true) (hd : d.valid = true) :
    ((c.merge d).valid = true ↔
      (c.actions.map Action.name).Disjoint (d.actions.map Action.name) ∧
        (c.checks.map Check.name).Disjoint (d.checks.map Check.name) ∧
        (c.values.map Value.name).Disjoint (d.values.map Value.name)) ∧
    (c.merge d).messages =
      ((d.actions.filter fun a => a.name ∈ c.actions.map Action.name).map
        fun a => repeatedMessage "action" a.name) ++
      ((d.checks.filter fun k => k.name ∈ c.checks.map Check.name).map
        fun k => repeatedMessage "check" k.name) ++
      (d.values.filter fun v => v.name ∈ c.values.map Value.name).map
        fun v => repeatedMessage "value" v.name := by
  rw [valid, List.isEmpty_iff, messages_eq_nil_iff] at hc hd
  have hmessages := hc.messages_merge hd
  refine ⟨?_, hmessages⟩
  rw [valid, List.isEmpty_iff, hmessages]
  simp only [List.append_eq_nil_iff, List.map_eq_nil_iff, filter_mem_names_eq_nil_iff, and_assoc]

def guests : Configuration where
  actions :=
    [⟨"write-guests", .file "guests.psk" (.value "psk")⟩,
      ⟨"restart-wpa", .unit "wpa_supplicant@wlan1.service" "restart"⟩]
  checks := [⟨"wpa", "the second network", .unit "wpa_supplicant@wlan1.service" ""⟩]
  values := [⟨"psk", "the guests' key", true⟩]

theorem merge_guests_not_valid : wireless.valid = true ∧ guests.valid = true ∧
    (wireless.merge guests).valid ≠ true ∧
    (wireless.merge guests).messages =
      ["action \"restart-wpa\" appears more than once", "check \"wpa\" appears more than once",
        "value \"psk\" appears more than once"] := by
  have hguests : guests.valid = true := rfl
  obtain ⟨hiff, hmessages⟩ := merge_valid_iff wireless_valid hguests
  refine ⟨wireless_valid, hguests, ?_, hmessages.trans rfl⟩
  rw [ne_eq, hiff]
  rintro ⟨hactions, -, -⟩
  have hname : "restart-wpa" ∈ wireless.actions.map Action.name := by decide
  exact hactions hname (by decide)

end Configuration

end Provision
