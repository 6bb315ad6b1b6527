import Mathlib.Data.List.Nodup
import Mathlib.Tactic.MkIffOfInductiveProp
import Provision.Proofs.Configuration.Messages
import Provision.Proofs.Configuration.WellFormed

namespace Provision

/-!
# The rules that entries observe

The rules for actions and checks are listed here one by one, each with the message about an entry
that breaks it.  A validation tells of every entry with a name which rules it breaks, each once and
with its own message.  Some rules are hidden by others: nothing is said about the content of a file
without a path, nor about the grammar of a unit that is not given, and a check whose unit is too
long is not told whether it is in the grammar.  An operator who repairs what is told finds these
later.
-/

inductive Rule where
  | named
  | pathGiven
  | referenceDeclared
  | templateGiven
  | templateParsed
  | unitGiven
  | unitInGrammar
  /-- No more than 256 bytes follow the last `@`, so that there are no more characters either. -/
  | unitShort
  | commandKnown
  | hostDeclared
  | serviceNamed
  deriving DecidableEq, Repr

/-! ## What breaks a rule, and the message about it -/

@[mk_iff]
inductive UnitName.Breaks : String → Rule → String → Prop
  | missing : Breaks "" .unitGiven "unit name cannot be empty"
  | malformed {unit : String} (h : ¬ InGrammar unit) : Breaks unit .unitInGrammar (mismatch unit)
  | long {unit : String} (h : 256 < (suffix unit).utf8ByteSize) :
      Breaks unit .unitShort "unit name cannot exceed 256 characters"

@[mk_iff]
inductive Content.Breaks (declared : List Value) : Content → Rule → String → Prop
  | noReference :
      Breaks declared (.value "") .referenceDeclared "file value must point at a defined value"
  | undeclared {name : String} (hname : name ≠ "") (h : ∀ v ∈ declared, v.name ≠ name) :
      Breaks declared (.value name) .referenceDeclared
        ("file value " ++ Text.quote name ++ " was not found")
  | noTemplate {compiled : Option Template} :
      Breaks declared (.template "" compiled) .templateGiven "file template cannot be empty"
  | unparsed {text e : String} {compiled : Option Template} (h : Template.compile text = .error e) :
      Breaks declared (.template text compiled) .templateParsed ("failed to parse template: " ++ e)

@[mk_iff]
inductive Task.Breaks (declared : List Value) : Task → Rule → String → Prop
  | noPath {content : Content} :
      Breaks declared (.file "" content) .pathGiven "file path cannot be empty"
  | content {path : String} {content : Content} {r : Rule} {m : String}
      (h : content.Breaks declared r m) : Breaks declared (.file path content) r m
  | unit {u command : String} {r : Rule} {m : String} (h : UnitName.Breaks u r m) :
      Breaks declared (.unit u command) r m
  | unknown {u command : String} (h : command ∉ ["start", "stop", "restart", "enable", "disable"]) :
      Breaks declared (.unit u command) .commandKnown
        "systemd command must be one of: start,stop,restart,enable,disable"

@[mk_iff]
inductive Probe.Breaks (declared : List Value) : Probe → Rule → String → Prop
  | unit {u description : String} {r : Rule} {m : String} (h : UnitName.Breaks u r m) :
      Breaks declared (.unit u description) r m
  | noService {socket : String} :
      Breaks declared (.service "" socket) .serviceNamed "gRPC name cannot be empty"
  | service {name socket : String} (hname : name ≠ "") (h : ¬ Name.InGrammar name) :
      Breaks declared (.service name socket) .serviceNamed (Name.mismatch "gRPC" name)
  | noHost : Breaks declared (.host "") .hostDeclared "DNS value must point at a defined value"
  | host {value : String} (hvalue : value ≠ "") (h : ∀ v ∈ declared, v.name ≠ value) :
      Breaks declared (.host value) .hostDeclared
        ("DNS value " ++ Text.quote value ++ " was not found")

/-- Rules about which nothing is said because of what else is wrong. -/
def Task.Hides : Task → Rule → Prop
  | file path _, r =>
    path = "" ∧ (r = .referenceDeclared ∨ r = .templateGiven ∨ r = .templateParsed)
  | unit u _, r => u = "" ∧ r = .unitInGrammar

def Probe.Hides : Probe → Rule → Prop
  | unit u _, r => (u = "" ∨ 256 < (UnitName.suffix u).utf8ByteSize) ∧ r = .unitInGrammar
  | _, _ => False

namespace Configuration

/-- An entry that is carried out or looked at. -/
inductive Entry where
  | action (a : Action)
  | check (k : Check)

namespace Entry

def name : Entry → String
  | action a => a.name
  | check k => k.name

def kind : Entry → String
  | action _ => "action"
  | check _ => "check"

def faults (declared : List Value) : Entry → List String
  | action a => a.faults declared
  | check k => k.faults declared

@[mk_iff]
inductive Breaks (declared : List Value) : Entry → Rule → String → Prop
  | name {e : Entry} (h : ¬ Name.InGrammar e.name) :
      Breaks declared e .named (Name.mismatch e.kind e.name)
  | task {a : Action} {r : Rule} {m : String} (h : a.task.Breaks declared r m) :
      Breaks declared (action a) r m
  | probe {k : Check} {r : Rule} {m : String} (h : k.probe.Breaks declared r m) :
      Breaks declared (check k) r m

def Hides : Entry → Rule → Prop
  | action a, r => a.task.Hides r
  | check k, r => k.probe.Hides r

/-- The message about an entry: what is said about its name, and behind its name what is said about
the rest. -/
def report (e : Entry) (complaints : List (Rule × String)) : String :=
  let others := (complaints.filter fun c => c.1 ≠ .named).map Prod.snd
  "; ".intercalate ((complaints.filter fun c => c.1 = .named).map Prod.snd ++
    if others = [] then []
    else [e.kind ++ " " ++ Text.quote e.name ++ ": " ++ "; ".intercalate others])

end Entry

def entries (c : Configuration) : List Entry := c.actions.map .action ++ c.checks.map .check

end Configuration

/-! ## What is told of each part of an entry -/

theorem nodup_rules_append {complaints complaints' : List (Rule × String)}
    (h : (complaints.map Prod.fst).Nodup) (h' : (complaints'.map Prod.fst).Nodup)
    (hne : ∀ c ∈ complaints, ∀ c' ∈ complaints', c.1 ≠ c'.1) :
    ((complaints ++ complaints').map Prod.fst).Nodup := by
  rw [List.map_append]
  apply h.append h'
  intro r hr hr'
  obtain ⟨c, hc, rfl⟩ := List.mem_map.mp hr
  obtain ⟨c', hc', heq⟩ := List.mem_map.mp hr'
  exact hne c hc c' hc' heq.symm

/-- The texts are those of complaints about every broken rule, and about each once. -/
def Told (Broken : Rule → String → Prop) (texts : List String) : Prop :=
  ∃ complaints : List (Rule × String), complaints.map Prod.snd = texts ∧
    (complaints.map Prod.fst).Nodup ∧ ∀ r m, (r, m) ∈ complaints ↔ Broken r m

namespace Told

variable {Broken Broken' : Rule → String → Prop} {texts texts' : List String}

theorem nothing (h : ∀ r m, ¬ Broken r m) : Told Broken [] :=
  ⟨[], rfl, List.nodup_nil, fun r m => iff_of_false List.not_mem_nil (h r m)⟩

theorem one (r : Rule) {m : String} (h : ∀ r' m', Broken r' m' ↔ r' = r ∧ m' = m) :
    Told Broken [m] :=
  ⟨[(r, m)], rfl, List.nodup_singleton r, fun r' m' => by simp [h]⟩

theorem ite (p : Prop) [Decidable p] (r : Rule) (m : String) :
    Told (fun r' m' => p ∧ r' = r ∧ m' = m) (if p then [m] else []) := by
  by_cases hp : p
  · rw [if_pos hp]
    exact .one r (by simp [hp])
  · rw [if_neg hp]
    exact .nothing (by simp [hp])

/-- Complaints about different rules can be told one after the other. -/
theorem append (h : Told Broken texts) (h' : Told Broken' texts')
    (hne : ∀ r m m', Broken r m → ¬ Broken' r m') :
    Told (fun r m => Broken r m ∨ Broken' r m) (texts ++ texts') := by
  obtain ⟨complaints, rfl, honce, hmem⟩ := h
  obtain ⟨complaints', rfl, honce', hmem'⟩ := h'
  refine ⟨complaints ++ complaints', List.map_append, ?_, ?_⟩
  · apply nodup_rules_append honce honce'
    rintro ⟨r, m⟩ hc ⟨r', m'⟩ hc' rfl
    exact hne r m m' ((hmem r m).mp hc) ((hmem' r m').mp hc')
  · intro r m
    rw [List.mem_append, hmem, hmem']

theorem congr (h : Told Broken texts) (hiff : ∀ r m, Broken' r m ↔ Broken r m) :
    Told Broken' texts := by
  obtain ⟨complaints, htexts, honce, hmem⟩ := h
  exact ⟨complaints, htexts, honce, fun r m => (hmem r m).trans (hiff r m).symm⟩

end Told

namespace UnitName

variable {u m : String} {r : Rule}

theorem tooLong_iff : tooLong u = true ↔ 256 < (suffix u).utf8ByteSize := by
  rw [tooLong, decide_eq_true_iff, longest]

theorem tooLongMessage_eq : tooLongMessage = "unit name cannot exceed 256 characters" := rfl

theorem Breaks.rule (h : Breaks u r m) : r = .unitGiven ∨ r = .unitInGrammar ∨ r = .unitShort := by
  cases h <;> simp

theorem Breaks.ne_named (h : Breaks u r m) : r ≠ .named := by
  rcases h.rule with rfl | rfl | rfl <;> simp

theorem breaks_empty_iff :
    Breaks "" r m ∧ r ≠ .unitInGrammar ↔ r = .unitGiven ∧ m = "unit name cannot be empty" := by
  have hshort : ¬ 256 < (suffix "").utf8ByteSize := by decide
  constructor
  · rintro ⟨h, hr⟩
    cases h with
    | missing => exact ⟨rfl, rfl⟩
    | malformed => exact absurd rfl hr
    | long h => exact absurd h hshort
  · rintro ⟨rfl, rfl⟩
    exact ⟨.missing, by simp⟩

theorem breaks_given_iff (hu : u ≠ "") :
    Breaks u r m ↔ ((!valid u) = true ∧ r = .unitInGrammar ∧ m = mismatch u) ∨
      tooLong u = true ∧ r = .unitShort ∧ m = tooLongMessage := by
  rw [breaks_iff, tooLong_iff, tooLongMessage_eq, ← valid_iff_inGrammar, Bool.not_eq_true,
    Bool.not_eq_true']
  simp [hu]

/-- All that is broken about a unit's name is told, except that an empty one is not in the grammar
as well. -/
theorem told_unitFaults (u : String) :
    Told (fun r m => Breaks u r m ∧ ¬ (u = "" ∧ r = .unitInGrammar)) (Task.unitFaults u) := by
  by_cases hu : u = ""
  · subst hu
    have hfaults : Task.unitFaults "" = ["unit name cannot be empty"] := rfl
    rw [hfaults]
    apply Told.one .unitGiven
    intro r m
    simp only [true_and, ← ne_eq]
    exact breaks_empty_iff
  · rw [Task.unitFaults, if_neg hu]
    apply ((Told.ite _ .unitInGrammar _).append (Told.ite _ .unitShort _) ?_).congr
    · intro r m
      rw [breaks_given_iff hu]
      simp [hu]
    · rintro r m m' ⟨-, rfl, -⟩ ⟨-, hr, -⟩
      cases hr

end UnitName

theorem Template.exists_compile_empty : ∃ t, compile "" = .ok t := by
  have h : (compile "").toOption.isSome = true := by decide +kernel
  rcases ht : compile "" with e | t
  · simp [ht, Except.toOption] at h
  · exact ⟨t, rfl⟩

variable {declared : List Value}

theorem Value.not_isDeclared_iff {name : String} :
    ¬ isDeclared declared name = true ↔ ∀ v ∈ declared, v.name ≠ name := by
  simp [isDeclared]

theorem Content.Breaks.rule {content : Content} {r : Rule} {m : String}
    (h : content.Breaks declared r m) :
    r = .referenceDeclared ∨ r = .templateGiven ∨ r = .templateParsed := by
  cases h <;> simp

/-- All that is broken about a content is told: none of its rules hides another. -/
theorem Content.told_faults (content : Content) :
    Told (content.Breaks declared) (content.faults declared) := by
  cases content with
  | value name =>
      by_cases hname : name = ""
      · rw [faults, if_pos hname]
        exact .one .referenceDeclared (by simp [breaks_iff, hname])
      · rw [faults, if_neg hname, ← ite_not]
        apply (Told.ite _ .referenceDeclared _).congr
        simp [breaks_iff, hname, ← Value.not_isDeclared_iff]
  | template text compiled =>
      by_cases htext : text = ""
      · obtain ⟨t, ht⟩ := Template.exists_compile_empty
        rw [faults, if_pos htext]
        exact .one .templateGiven (by simp [breaks_iff, htext, ht])
      · rw [faults, if_neg htext]
        rcases ht : Template.compile text with e | t
        · exact .one .templateParsed (by simp [breaks_iff, htext, ht])
        · exact .nothing (by simp [breaks_iff, htext, ht])

theorem UnitCommand.unknownMessage_eq : unknownMessage =
    "systemd command must be one of: start,stop,restart,enable,disable" := by
  rfl

theorem UnitCommand.isNone_ofText?_iff {word : String} : (ofText? word).isNone = true ↔
    word ∉ ["start", "stop", "restart", "enable", "disable"] := by
  rw [← isSome_ofText?_iff, Bool.not_eq_true, Option.isSome_eq_false_iff]

theorem Task.breaks_unit_iff {u command m : String} {r : Rule} :
    Breaks declared (.unit u command) r m ↔ UnitName.Breaks u r m ∨
      (UnitCommand.ofText? command).isNone = true ∧ r = .commandKnown ∧
        m = UnitCommand.unknownMessage := by
  rw [breaks_iff, UnitCommand.isNone_ofText?_iff, UnitCommand.unknownMessage_eq]
  simp

theorem Task.Breaks.ne_named {task : Task} {r : Rule} {m : String}
    (h : task.Breaks declared r m) : r ≠ .named := by
  cases h with
  | noPath => simp
  | content h => rcases h.rule with rfl | rfl | rfl <;> simp
  | unit h => exact h.ne_named
  | unknown => simp

theorem Task.told_faults (task : Task) :
    Told (fun r m => task.Breaks declared r m ∧ ¬ task.Hides r) (task.faults declared) := by
  cases task with
  | file path content =>
      by_cases hpath : path = ""
      · subst hpath
        apply Told.one .pathGiven
        intro r m
        constructor
        · rintro ⟨h, hshown⟩
          cases h with
          | noPath => exact ⟨rfl, rfl⟩
          | content h => exact absurd ⟨rfl, h.rule⟩ hshown
        · rintro ⟨rfl, rfl⟩
          exact ⟨.noPath, by simp [Hides]⟩
      · rw [faults, if_neg hpath]
        apply content.told_faults.congr
        simp [breaks_iff, Hides, hpath]
  | unit u command =>
      rw [faults]
      apply ((UnitName.told_unitFaults u).append (Told.ite _ .commandKnown _) ?_).congr
      · intro r m
        rw [breaks_unit_iff]
        constructor
        · rintro ⟨h | h, hshown⟩
          · exact .inl ⟨h, hshown⟩
          · exact .inr h
        · rintro (⟨h, hshown⟩ | ⟨hcommand, rfl, hm⟩)
          · exact ⟨.inl h, hshown⟩
          · exact ⟨.inr ⟨hcommand, rfl, hm⟩, by simp [Hides]⟩
      · rintro r m m' ⟨h, -⟩ ⟨-, rfl, -⟩
        simpa using h.rule

theorem Probe.breaks_unit_iff {u description m : String} {r : Rule} :
    Breaks declared (.unit u description) r m ↔ UnitName.Breaks u r m := by
  simp [breaks_iff]

theorem toList_ite {p : Prop} [Decidable p] (m : String) :
    (if p then some m else none).toList = if p then [m] else [] := by
  split <;> rfl

theorem Probe.Breaks.ne_named {probe : Probe} {r : Rule} {m : String}
    (h : probe.Breaks declared r m) : r ≠ .named := by
  cases h with
  | unit h => exact h.ne_named
  | _ => simp

theorem Probe.told_fault (probe : Probe) :
    Told (fun r m => probe.Breaks declared r m ∧ ¬ probe.Hides r)
      (probe.fault? declared).toList := by
  cases probe with
  | unit u description =>
      by_cases hu : u = ""
      · subst hu
        apply Told.one .unitGiven
        intro r m
        simpa [breaks_iff, Hides] using UnitName.breaks_empty_iff
      · rw [fault?, if_neg hu]
        by_cases hlong : UnitName.tooLong u = true
        · rw [if_pos hlong]
          apply Told.one .unitShort
          intro r m
          have hsize := UnitName.tooLong_iff.mp hlong
          simp only [breaks_unit_iff, UnitName.breaks_given_iff hu, Hides, hsize, or_true, true_and]
          constructor
          · rintro ⟨⟨-, hr, -⟩ | ⟨-, h⟩, hshown⟩
            · exact absurd hr hshown
            · exact h
          · rintro ⟨rfl, hm⟩
            exact ⟨.inr ⟨hlong, rfl, hm⟩, by simp⟩
        · have hshort : ¬ 256 < (UnitName.suffix u).utf8ByteSize :=
            fun h => hlong (UnitName.tooLong_iff.mpr h)
          rw [if_neg hlong, toList_ite]
          apply (Told.ite _ .unitInGrammar _).congr
          simp [breaks_unit_iff, UnitName.breaks_given_iff hu, Hides, hu, hlong, hshort]
  | service name socket =>
      by_cases hname : name = ""
      · rw [fault?, if_pos hname]
        exact .one .serviceNamed (by simp [breaks_iff, Hides, hname])
      · rw [fault?, if_neg hname, toList_ite]
        apply (Told.ite _ .serviceNamed _).congr
        simp [breaks_iff, Hides, hname, ← Name.valid_iff_inGrammar]
  | host value =>
      by_cases hvalue : value = ""
      · rw [fault?, if_pos hvalue]
        exact .one .hostDeclared (by simp [breaks_iff, Hides, hvalue])
      · rw [fault?, if_neg hvalue, toList_ite]
        apply (Told.ite _ .hostDeclared _).congr
        simp [breaks_iff, Hides, hvalue, ← Value.not_isDeclared_iff]

namespace Configuration

namespace Entry

def contentFaults (declared : List Value) : Entry → List String
  | action a => a.task.faults declared
  | check k => (k.probe.fault? declared).toList

/-- How the message about an entry is put together: first its name, and behind the name all that
is said about the rest. -/
theorem faults_eq (declared : List Value) {e : Entry} (h : e.name ≠ "") :
    e.faults declared =
      (if (!Name.valid e.name) = true then [Name.mismatch e.kind e.name] else []) ++
        if e.contentFaults declared = [] then []
        else [e.kind ++ " " ++ Text.quote e.name ++ ": " ++
          "; ".intercalate (e.contentFaults declared)] := by
  cases e with
  | action a =>
      have hname : a.name ≠ "" := h
      rw [faults, Action.faults, if_neg hname, contentFaults]
      rcases hcontent : a.task.faults declared with _ | ⟨first, rest⟩
      · rfl
      · rfl
  | check k =>
      have hname : k.name ≠ "" := h
      rw [faults, Check.faults, if_neg hname, contentFaults]
      rcases hcontent : k.probe.fault? declared with _ | fault
      · rfl
      · rfl

theorem breaks_content_iff {e : Entry} {r : Rule} {m : String} :
    (e.Breaks declared r m ∧ r ≠ .named) ↔ match e with
      | action a => a.task.Breaks declared r m
      | check k => k.probe.Breaks declared r m := by
  cases e with
  | action a =>
      constructor
      · rintro ⟨h, hr⟩
        cases h with
        | name => exact absurd rfl hr
        | task h => exact h
      · intro h
        exact ⟨.task h, h.ne_named⟩
  | check k =>
      constructor
      · rintro ⟨h, hr⟩
        cases h with
        | name => exact absurd rfl hr
        | probe h => exact h
      · intro h
        exact ⟨.probe h, h.ne_named⟩

theorem told_contentFaults (declared : List Value) (e : Entry) :
    Told (fun r m => (e.Breaks declared r m ∧ r ≠ .named) ∧ ¬ e.Hides r)
      (e.contentFaults declared) := by
  cases e with
  | action a =>
      apply a.task.told_faults.congr
      intro r m
      rw [breaks_content_iff, Hides]
  | check k =>
      apply k.probe.told_fault.congr
      intro r m
      rw [breaks_content_iff, Hides]

theorem report_append (e : Entry) {own others : List (Rule × String)}
    (hown : ∀ c ∈ own, c.1 = .named) (hothers : ∀ c ∈ others, c.1 ≠ .named) :
    e.report (own ++ others) = "; ".intercalate (own.map Prod.snd ++
      if others.map Prod.snd = [] then []
      else [e.kind ++ " " ++ Text.quote e.name ++ ": " ++
        "; ".intercalate (others.map Prod.snd)]) := by
  have hnamed : (own ++ others).filter (fun c => c.1 = .named) = own := by
    rw [List.filter_append, List.filter_eq_self.mpr (by simpa using hown),
      List.filter_eq_nil_iff.mpr (by simpa using hothers), List.append_nil]
  have hrest : (own ++ others).filter (fun c => c.1 ≠ .named) = others := by
    rw [List.filter_append, List.filter_eq_nil_iff.mpr (by simpa using hown),
      List.filter_eq_self.mpr (by simpa using hothers), List.nil_append]
  rw [report, hnamed, hrest]

theorem Hides.ne_named {e : Entry} (h : e.Hides .named) : False := by
  rcases e with ⟨n, path | u⟩ | ⟨n, d, u | _ | _⟩ <;> simp [Hides, Task.Hides, Probe.Hides] at h

theorem told_name (declared : List Value) (e : Entry) :
    Told (fun r m => e.Breaks declared r m ∧ r = .named)
      (if (!Name.valid e.name) = true then [Name.mismatch e.kind e.name] else []) := by
  apply (Told.ite _ .named _).congr
  intro r m
  rw [Bool.not_eq_true', ← Bool.not_eq_true, Name.valid_iff_inGrammar]
  constructor
  · rintro ⟨h, rfl⟩
    cases h with
    | name h => exact ⟨h, rfl, rfl⟩
    | task h => exact absurd rfl h.ne_named
    | probe h => exact absurd rfl h.ne_named
  · rintro ⟨h, rfl, rfl⟩
    exact ⟨.name h, rfl⟩

/-- What is told about an entry with a name. -/
theorem exists_complaints (declared : List Value) {e : Entry} (h : e.name ≠ "") :
    ∃ complaints : List (Rule × String), (complaints.map Prod.fst).Nodup ∧
      (∀ r m, (r, m) ∈ complaints ↔ e.Breaks declared r m ∧ ¬ e.Hides r) ∧
      (e.faults declared = [] ↔ complaints = []) ∧
      "; ".intercalate (e.faults declared) = e.report complaints := by
  obtain ⟨own, hown, honce, hnamed⟩ := e.told_name declared
  obtain ⟨others, hothers, honce', hrest⟩ := e.told_contentFaults declared
  have hnamed' : ∀ c ∈ own, c.1 = .named := fun ⟨r, m⟩ hc => ((hnamed r m).mp hc).2
  have hrest' : ∀ c ∈ others, c.1 ≠ .named := fun ⟨r, m⟩ hc => ((hrest r m).mp hc).1.2
  have hfaults := faults_eq declared h
  rw [← hown, ← hothers] at hfaults
  refine ⟨own ++ others, ?_, ?_, ?_, ?_⟩
  · apply nodup_rules_append honce honce'
    intro c hc c' hc' heq
    exact hrest' c' hc' (heq.symm.trans (hnamed' c hc))
  · intro r m
    rw [List.mem_append, hnamed, hrest]
    constructor
    · rintro (⟨hbroken, rfl⟩ | ⟨⟨hbroken, -⟩, hshown⟩)
      · exact ⟨hbroken, fun hhidden => hhidden.ne_named⟩
      · exact ⟨hbroken, hshown⟩
    · rintro ⟨hbroken, hshown⟩
      by_cases hr : r = .named
      · exact .inl ⟨hbroken, hr⟩
      · exact .inr ⟨⟨hbroken, hr⟩, hshown⟩
  · rw [hfaults, List.append_eq_nil_iff, List.append_eq_nil_iff, List.map_eq_nil_iff]
    simp
  · rw [hfaults, report_append e hnamed' hrest']

/-- What hides a rule is told of, so that an entry of which nothing is told breaks no rule. -/
theorem Hides.exists_shown {e : Entry} {r : Rule} (h : e.Hides r) :
    ∃ r' m, e.Breaks declared r' m ∧ ¬ e.Hides r' := by
  rcases e with ⟨n, ⟨path, content⟩ | ⟨u, command⟩⟩ | ⟨n, d, u | _ | _⟩
  · obtain ⟨rfl, -⟩ := h
    exact ⟨.pathGiven, _, .task .noPath, by simp [Hides, Task.Hides]⟩
  · obtain ⟨rfl, -⟩ := h
    exact ⟨.unitGiven, _, .task (.unit .missing), by simp [Hides, Task.Hides]⟩
  · obtain ⟨rfl | hlong, -⟩ := h
    · exact ⟨.unitGiven, _, .probe (.unit .missing), by simp [Hides, Probe.Hides]⟩
    · exact ⟨.unitShort, _, .probe (.unit (.long hlong)), by simp [Hides, Probe.Hides]⟩
  · exact h.elim
  · exact h.elim

end Entry

theorem report_mem_messages {c : Configuration} {e : Entry} (he : e ∈ c.entries)
    (h : e.faults c.values ≠ []) : "; ".intercalate (e.faults c.values) ∈ c.messages := by
  rw [messages, List.mem_append, List.mem_append]
  rcases List.mem_append.mp he with he | he
  · obtain ⟨a, ha, rfl⟩ := List.mem_map.mp he
    exact .inl (.inl (own_mem_messagesFrom ha h))
  · obtain ⟨k, hk, rfl⟩ := List.mem_map.mp he
    exact .inl (.inr (own_mem_messagesFrom hk h))

/-- A validation tells of every rule that an entry with a name breaks, each with its own message,
but for the rules that the entry hides; it tells of some rule if the entry breaks any.  An entry
that hides no rule it breaks, and of which everything that is told is repaired, is found to be right
by the next validation. -/
theorem exists_complaints_report_mem_messages {c : Configuration} {e : Entry} (he : e ∈ c.entries)
    (hname : e.name ≠ "") :
    ∃ complaints : List (Rule × String), (complaints.map Prod.fst).Nodup ∧
      (∀ r m, (r, m) ∈ complaints ↔ e.Breaks c.values r m ∧ ¬ e.Hides r) ∧
      (complaints = [] ↔ ∀ r m, ¬ e.Breaks c.values r m) ∧
      (complaints ≠ [] → e.report complaints ∈ c.messages) ∧
      ∀ d : Configuration, ∀ e' ∈ d.entries, e'.name ≠ "" →
        (∀ r m', e'.Breaks d.values r m' →
          (∃ m, e.Breaks c.values r m) ∧ ∀ m, (r, m) ∉ complaints) →
        (∀ r m, e.Breaks c.values r m → ¬ e.Hides r) → e'.faults d.values = [] := by
  obtain ⟨complaints, honce, hmem, hnil, hreport⟩ := Entry.exists_complaints c.values hname
  refine ⟨complaints, honce, hmem, ?_, ?_, ?_⟩
  · constructor
    · rintro rfl r m hbroken
      obtain ⟨r', m', hbroken', hshown⟩ : ∃ r' m', e.Breaks c.values r' m' ∧ ¬ e.Hides r' := by
        by_cases hhidden : e.Hides r
        · exact hhidden.exists_shown
        · exact ⟨r, m, hbroken, hhidden⟩
      exact List.not_mem_nil ((hmem r' m').mpr ⟨hbroken', hshown⟩)
    · intro h
      apply List.eq_nil_iff_forall_not_mem.mpr
      rintro ⟨r, m⟩ hcomplaint
      exact h r m ((hmem r m).mp hcomplaint).1
  · intro hcomplaints
    rw [← hreport]
    exact report_mem_messages he (mt hnil.mp hcomplaints)
  · intro d e' he' hname' hrepaired hshown
    obtain ⟨complaints', -, hmem', hnil', -⟩ := Entry.exists_complaints d.values hname'
    rw [hnil', List.eq_nil_iff_forall_not_mem]
    rintro ⟨r, m'⟩ hcomplaint
    obtain ⟨⟨m, hbroken⟩, huntold⟩ := hrepaired r m' ((hmem' r m').mp hcomplaint).1
    exact huntold m ((hmem r m).mpr ⟨hbroken, hshown r m hbroken⟩)

def misspelt : Action := ⟨"1st", .unit "wpa supplicant" "reload"⟩

theorem exists_complaints_misspelt :
    ∃ complaints : List (Rule × String), (complaints.map Prod.fst).Nodup ∧
      (.named, Name.mismatch "action" "1st") ∈ complaints ∧
      (.unitInGrammar, UnitName.mismatch "wpa supplicant") ∈ complaints ∧
      (.commandKnown, "systemd command must be one of: start,stop,restart,enable,disable")
        ∈ complaints ∧
      (Entry.action misspelt).report complaints ∈ messages ⟨[misspelt], [], []⟩ := by
  let c : Configuration := ⟨[misspelt], [], []⟩
  have he : Entry.action misspelt ∈ c.entries := List.mem_singleton_self _
  have hname : (Entry.action misspelt).name ≠ "" := by decide
  obtain ⟨complaints, honce, hmem, -, hreport, -⟩ :=
    exists_complaints_report_mem_messages he hname
  have hinvalid : ¬ Name.InGrammar "1st" := by
    rw [← Name.valid_iff_inGrammar]
    decide
  have hmalformed : ¬ UnitName.InGrammar "wpa supplicant" := by
    rw [← UnitName.valid_iff_inGrammar]
    decide
  have hfirst := (hmem _ _).mpr ⟨.name hinvalid, Entry.Hides.ne_named⟩
  refine ⟨complaints, honce, hfirst, ?_, ?_, hreport (List.ne_nil_of_mem hfirst)⟩
  · exact (hmem _ _).mpr
      ⟨.task (.unit (.malformed hmalformed)), by simp [Entry.Hides, misspelt, Task.Hides]⟩
  · exact (hmem _ _).mpr
      ⟨.task (.unknown (by decide)), by simp [Entry.Hides, misspelt, Task.Hides]⟩

def keyed (path : String) : Action := ⟨"key", .file path (.value "psk")⟩

/-- No message tells of the undeclared value as long as there is no path either.  It is found when
the path has been given. -/
theorem keyed_not_told :
    (∃ e ∈ entries ⟨[keyed ""], [], []⟩, e.name ≠ "" ∧ ∃ m, e.Breaks [] .referenceDeclared m ∧
      ∀ text ∈ messages ⟨[keyed ""], [], []⟩, ¬ m.toList <:+: text.toList) ∧
    messages ⟨[keyed ""], [], []⟩ = ["action \"key\": file path cannot be empty"] ∧
    messages ⟨[keyed "wpa.psk"], [], []⟩ =
      ["action \"key\": file value \"psk\" was not found"] := by
  have hentry : Entry.action (keyed "") ∈ entries ⟨[keyed ""], [], []⟩ := List.mem_singleton_self _
  have hbroken : (Entry.action (keyed "")).Breaks [] .referenceDeclared
      ("file value " ++ Text.quote "psk" ++ " was not found") :=
    .task (.content (.undeclared (by decide) (List.forall_mem_nil _)))
  have hmessages : messages ⟨[keyed ""], [], []⟩ = ["action \"key\": file path cannot be empty"] :=
    rfl
  refine ⟨⟨_, hentry, by decide, _, hbroken, ?_⟩, hmessages, rfl⟩
  rw [hmessages]
  decide +kernel

end Configuration

end Provision
