import Provision.Configuration.Validation
import Provision.Proofs.Grammar
import Provision.Server.Basic

namespace Provision

/-!
# Well-formed configurations

What a configuration has to fulfil is said here entry by entry, without the messages.  A
configuration about which there is no message is a well-formed one, and the other way round; and
the page of every value that it refers to is served.
-/

def UnitName.Usable (unit : String) : Prop := InGrammar unit ∧ (suffix unit).length ≤ 256

def Value.Declares (declared : List Value) (name : String) : Prop :=
  name ≠ "" ∧ ∃ v ∈ declared, v.name = name

def Content.WellFormed (declared : List Value) : Content → Prop
  | value name => Value.Declares declared name
  | template text _ => text ≠ "" ∧ ∃ t, Template.compile text = .ok t

def Task.WellFormed (declared : List Value) : Task → Prop
  | file path content => path ≠ "" ∧ content.WellFormed declared
  | unit u command =>
    UnitName.Usable u ∧ command ∈ ["start", "stop", "restart", "enable", "disable"]

def Probe.WellFormed (declared : List Value) : Probe → Prop
  | unit u _ => UnitName.Usable u
  | service name _ => name ≠ "" ∧ Name.InGrammar name
  | host value => Value.Declares declared value

namespace Configuration

structure WellFormed (c : Configuration) : Prop where
  actionNames : ∀ a ∈ c.actions, a.name ≠ "" ∧ Name.InGrammar a.name
  checkNames : ∀ k ∈ c.checks, k.name ≠ "" ∧ Name.InGrammar k.name
  valueNames : ∀ v ∈ c.values, v.name ≠ "" ∧ Name.InGrammar v.name
  actionsDistinct : (c.actions.map Action.name).Nodup
  checksDistinct : (c.checks.map Check.name).Nodup
  valuesDistinct : (c.values.map Value.name).Nodup
  tasks : ∀ a ∈ c.actions, a.task.WellFormed c.values
  probes : ∀ k ∈ c.checks, k.probe.WellFormed c.values

/-- The names of values that the entries of a configuration refer to. -/
def RefersTo (c : Configuration) (name : String) : Prop :=
  (∃ a ∈ c.actions, ∃ path, a.task = .file path (.value name)) ∨
    ∃ k ∈ c.checks, k.probe = .host name

end Configuration

/-! ## Entries without faults -/

theorem UnitName.unitFaults_eq_nil_iff {unit : String} :
    Task.unitFaults unit = [] ↔ Usable unit := by
  unfold Task.unitFaults Usable
  by_cases hv : valid unit = true
  · have hg := valid_iff_inGrammar.mp hv
    simp [hg.ne_empty, hv, hg, ← tooLong_eq_false_iff hg]
  · have hg : ¬ InGrammar unit := fun h => hv (valid_iff_inGrammar.mpr h)
    by_cases he : unit = ""
    · simp only [if_pos he, List.append_eq_nil_iff, List.cons_ne_nil, false_and, hg]
    · simp [he, hv, hg]

theorem UnitCommand.isSome_ofText?_iff {word : String} :
    (ofText? word).isSome ↔ word ∈ ["start", "stop", "restart", "enable", "disable"] := by
  constructor
  · intro h
    obtain ⟨command, hc⟩ := Option.isSome_iff_exists.mp h
    rw [← text_of_ofText? hc]
    cases command <;> simp [text]
  · intro h
    simp only [List.mem_cons, List.not_mem_nil, or_false] at h
    rcases h with rfl | rfl | rfl | rfl | rfl <;> rfl

theorem Content.faults_eq_nil_iff {declared : List Value} {content : Content} :
    content.faults declared = [] ↔ content.WellFormed declared := by
  cases content with
  | value name =>
      by_cases hn : name = "" <;>
        simp [faults, WellFormed, Value.Declares, hn, Value.isDeclared_iff]
  | template text compiled =>
      by_cases ht : text = ""
      · simp [faults, WellFormed, ht]
      · cases hc : Template.compile text <;> simp [faults, WellFormed, ht, hc]

theorem Task.faults_eq_nil_iff {declared : List Value} {task : Task} :
    task.faults declared = [] ↔ task.WellFormed declared := by
  cases task with
  | file path content =>
      by_cases hp : path = "" <;> simp [faults, WellFormed, hp, Content.faults_eq_nil_iff]
  | unit u command =>
      simp only [faults, WellFormed, List.append_eq_nil_iff, UnitName.unitFaults_eq_nil_iff,
        ← UnitCommand.isSome_ofText?_iff]
      cases UnitCommand.ofText? command <;> simp

theorem Probe.fault?_eq_none_iff {declared : List Value} {probe : Probe} :
    probe.fault? declared = none ↔ probe.WellFormed declared := by
  cases probe with
  | unit u description =>
      unfold fault? WellFormed UnitName.Usable
      by_cases hv : UnitName.valid u = true
      · have hg := UnitName.valid_iff_inGrammar.mp hv
        simp [hg.ne_empty, hv, hg, ← UnitName.tooLong_eq_false_iff hg]
      · have hg : ¬ UnitName.InGrammar u := fun h => hv (UnitName.valid_iff_inGrammar.mpr h)
        by_cases he : u = ""
        · simp only [if_pos he, reduceCtorEq, hg, false_and]
        · by_cases hl : UnitName.tooLong u = true <;> simp [he, hv, hg, hl]
  | service name socket =>
      by_cases hn : name = "" <;> simp [fault?, WellFormed, hn, ← Name.valid_iff_inGrammar]
  | host value =>
      by_cases hv : value = "" <;>
        simp [fault?, WellFormed, Value.Declares, hv, Value.isDeclared_iff]

theorem Value.faults_eq_nil_iff {v : Value} :
    v.faults = [] ↔ v.name ≠ "" ∧ Name.InGrammar v.name := by
  by_cases hn : v.name = "" <;> simp [faults, hn, ← Name.valid_iff_inGrammar]

theorem Action.faults_eq_nil_iff {declared : List Value} {a : Action} :
    a.faults declared = [] ↔
      (a.name ≠ "" ∧ Name.InGrammar a.name) ∧ a.task.WellFormed declared := by
  unfold faults
  by_cases hn : a.name = ""
  · simp [hn]
  · rw [if_neg hn, List.append_eq_nil_iff, ← Task.faults_eq_nil_iff, ← Name.valid_iff_inGrammar]
    cases a.task.faults declared <;> simp [hn]

theorem Check.faults_eq_nil_iff {declared : List Value} {k : Check} :
    k.faults declared = [] ↔
      (k.name ≠ "" ∧ Name.InGrammar k.name) ∧ k.probe.WellFormed declared := by
  unfold faults
  by_cases hn : k.name = ""
  · simp [hn]
  · rw [if_neg hn, List.append_eq_nil_iff, ← Probe.fault?_eq_none_iff, ← Name.valid_iff_inGrammar]
    cases k.probe.fault? declared <;> simp [hn]

namespace Configuration

/-! ## Configurations without messages -/

/-- Nothing is said about a kind exactly if no entry has faults and no name is used twice. -/
theorem messagesFrom_eq_nil_iff {α : Type} {kind : String} {name : α → String}
    {faults : α → List String} {earlier : List String} {entries : List α} :
    messagesFrom kind name faults earlier entries = [] ↔
      (∀ e ∈ entries, faults e = []) ∧ (entries.map name).Nodup ∧
        ∀ e ∈ entries, name e ∉ earlier := by
  induction entries generalizing earlier with
  | nil => simp [messagesFrom]
  | cons e rest ih =>
      have hown : (if faults e = [] then [] else ["; ".intercalate (faults e)]) = [] ↔
          faults e = [] := by
        by_cases h : faults e = [] <;> simp [h]
      have hrepeated : (if name e ∈ earlier then [repeatedMessage kind (name e)] else []) = [] ↔
          name e ∉ earlier := by
        by_cases h : name e ∈ earlier <;> simp [h]
      rw [messagesFrom, List.append_eq_nil_iff, List.append_eq_nil_iff, hown, hrepeated, ih,
        List.forall_mem_cons, List.forall_mem_cons, List.map_cons, List.nodup_cons]
      simp only [List.mem_cons, List.mem_map, not_or]
      constructor
      · rintro ⟨⟨he, hnew⟩, hrest, hnodup, hearlier⟩
        refine ⟨⟨he, hrest⟩, ⟨?_, hnodup⟩, hnew, fun d hd => (hearlier d hd).2⟩
        rintro ⟨d, hd, hname⟩
        exact (hearlier d hd).1 hname
      · rintro ⟨⟨he, hrest⟩, ⟨hhead, hnodup⟩, hnew, hearlier⟩
        exact ⟨⟨he, hnew⟩, hrest, hnodup,
          fun d hd => ⟨fun hname => hhead ⟨d, hd, hname⟩, hearlier d hd⟩⟩

theorem messages_eq_nil_iff {c : Configuration} : c.messages = [] ↔ c.WellFormed := by
  simp only [messages, List.append_eq_nil_iff, messagesFrom_eq_nil_iff, Action.faults_eq_nil_iff,
    Check.faults_eq_nil_iff, Value.faults_eq_nil_iff, List.not_mem_nil, not_false_eq_true,
    implies_true, and_true]
  constructor
  · rintro ⟨⟨⟨hactions, hactionsNodup⟩, hchecks, hchecksNodup⟩, hvalues, hvaluesNodup⟩
    exact ⟨fun a ha => (hactions a ha).1, fun k hk => (hchecks k hk).1, hvalues, hactionsNodup,
      hchecksNodup, hvaluesNodup, fun a ha => (hactions a ha).2, fun k hk => (hchecks k hk).2⟩
  · intro h
    exact ⟨⟨⟨fun a ha => ⟨h.actionNames a ha, h.tasks a ha⟩, h.actionsDistinct⟩,
      fun k hk => ⟨h.checkNames k hk, h.probes k hk⟩, h.checksDistinct⟩, h.valueNames,
      h.valuesDistinct⟩

theorem WellFormed.of_valid {c : Configuration} (h : c.valid = true) : c.WellFormed :=
  messages_eq_nil_iff.mp (List.isEmpty_iff.mp h)

/-- In a well-formed configuration whatever is referred to is declared. -/
theorem WellFormed.declares_of_refersTo {c : Configuration} (h : c.WellFormed) {name : String}
    (hname : c.RefersTo name) : Value.Declares c.values name := by
  rcases hname with ⟨a, ha, path, htask⟩ | ⟨k, hk, hprobe⟩
  · have htask' := h.tasks a ha
    rw [htask] at htask'
    exact htask'.2
  · have hprobe' := h.probes k hk
    rwa [hprobe] at hprobe'

theorem isPage_of_declares {c : Configuration} {name : String} (h : Value.Declares c.values name)
    (p : Pipeline) (interface : String) :
    (Server.of c.compile p interface).isPage ("/" ++ name) = true := by
  obtain ⟨-, v, hv, rfl⟩ := h
  have hpath : "/" ++ v.name ∈ Server.pagePaths c.values :=
    List.mem_append_right _ (List.mem_map.mpr ⟨v, hv, rfl⟩)
  exact decide_eq_true hpath

/-- Validation is sound and complete: it has nothing to say exactly about well-formed
configurations.  Every value that such a configuration refers to has its page. -/
theorem valid_iff_wellFormed (c : Configuration) :
    (c.valid = true ↔ c.WellFormed) ∧
      (c.valid = true → ∀ name, c.RefersTo name → ∀ (p : Pipeline) (interface : String),
        (Server.of c.compile p interface).isPage ("/" ++ name) = true) := by
  have hvalid : c.valid = true ↔ c.WellFormed := by
    rw [valid, List.isEmpty_iff, messages_eq_nil_iff]
  refine ⟨hvalid, ?_⟩
  intro h name hname p interface
  exact isPage_of_declares ((hvalid.mp h).declares_of_refersTo hname) p interface

/-- A device that is joined to a wireless network: its name and key go into files, and the unit that
reads them is restarted. -/
def wireless : Configuration where
  actions :=
    [⟨"write-psk", .file "wpa.psk" (.value "psk")⟩,
      ⟨"write-ssid", .file "wpa.conf" (.template "ssid=\x7b\x7b.ssid\x7d\x7d" none)⟩,
      ⟨"restart-wpa", .unit "wpa_supplicant@wlan0.service" "restart"⟩]
  checks :=
    [⟨"wpa", "the network", .unit "wpa_supplicant@wlan0.service" "Wi-Fi"⟩,
      ⟨"api", "the device service", .service "api" "/run/api"⟩,
      ⟨"server", "the server", .host "server"⟩]
  values :=
    [⟨"ssid", "the network's name", false⟩, ⟨"psk", "the network's key", true⟩,
      ⟨"server", "where the device reports to", false⟩]

theorem wireless_valid : wireless.valid = true := by
  decide +kernel

theorem wireless_pages : wireless.valid = true ∧
    (Server.of wireless.compile ⟨[]⟩ "wlan0").isPage "/psk" = true := by
  have h : wireless.valid = true := by decide +kernel
  refine ⟨h, (valid_iff_wellFormed wireless).2 h "psk" ?_ ⟨[]⟩ "wlan0"⟩
  exact .inl ⟨_, List.mem_cons_self, "wpa.psk", rfl⟩

end Configuration

end Provision
