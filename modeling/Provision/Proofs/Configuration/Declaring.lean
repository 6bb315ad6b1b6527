import Mathlib.Algebra.Order.BigOperators.Group.List
import Mathlib.Algebra.Order.Group.Nat
import Provision.Proofs.Configuration.Blocks
import Provision.Proofs.Configuration.Rules

namespace Provision

/-!
# Declaring one more value

An entry that refers to a value complains if no value of that name is declared.  Declaring one takes
the complaint out of what is wrong with the entry and leaves the rest.  Of the new value itself
nothing is said if its name is valid and new, and it makes no other name a repeated one.  So a
configuration with one more value gets the messages that it got before, without the complaints about
that value.
-/

structure Value.Added (name : String) (declared declared' : List Value) : Prop where
  filled : name ≠ ""
  fresh : isDeclared declared name = false
  found : isDeclared declared' name = true
  others : ∀ r, r ≠ name → isDeclared declared' r = isDeclared declared r

theorem Value.added_insert {v : Value} {before after : List Value} (hfilled : v.name ≠ "")
    (hnew : isDeclared (before ++ after) v.name = false) :
    Added v.name (before ++ after) (before ++ v :: after) where
  filled := hfilled
  fresh := hnew
  found := by simp [isDeclared]
  others r hr := by simp [isDeclared, Ne.symm hr]

variable {name : String} {declared declared' : List Value}

/-! ## The complaint about a name -/

/-- What a content has to say if it is the value of a name that is not declared. -/
def Content.complaint? (name : String) : Content → Option String
  | value r =>
      if r = name then some ("file value " ++ Text.quote name ++ " was not found") else none
  | template .. => none

def Task.complaint? (name : String) : Task → Option String
  | file _ content => content.complaint? name
  | unit .. => none

def Probe.complaint? (name : String) : Probe → Option String
  | host r => if r = name then some ("DNS value " ++ Text.quote name ++ " was not found") else none
  | unit .. => none
  | service .. => none

def remains (complaint? : Option String) (fault : String) : Bool := complaint? ≠ some fault

theorem filter_remains_none (fault? : Option String) : fault?.filter (remains none) = fault? := by
  cases fault? <;> simp [Option.filter, remains]

theorem filter_remains_self (fault : String) :
    (some fault).filter (remains (some fault)) = none := by
  simp [Option.filter, remains]

theorem filter_remains_of_ne {complaint fault : String} (h : complaint ≠ fault) :
    (some fault).filter (remains (some complaint)) = some fault := by
  simp [Option.filter, remains, h]

/-- Faults that do not begin like the complaint remain, and among those that do it is found by what
follows. -/
theorem filter_remains_append {first : List String} {head : String}
    {fault? complaint? : Option String} (hfirst : ∀ f ∈ first, ∀ t, f ≠ head ++ t) :
    (first ++ (fault?.map (head ++ ·)).toList).filter (remains (complaint?.map (head ++ ·))) =
      first ++ ((fault?.filter (remains complaint?)).map (head ++ ·)).toList := by
  have hkept : first.filter (remains (complaint?.map (head ++ ·))) = first := by
    rw [List.filter_eq_self]
    intro f hf
    cases complaint? with
    | none => simp [remains]
    | some t => simpa [remains] using (hfirst f hf t).symm
  rw [List.filter_append, hkept]
  congr 1
  cases fault? with
  | none => rfl
  | some f =>
      have hremains : remains (complaint?.map (head ++ ·)) (head ++ f) = remains complaint? f := by
        cases complaint? <;> simp [remains]
      cases hf : remains complaint? f <;> simp [Option.filter, hremains, hf]

def joined (faults : List String) : Option String :=
  if faults = [] then none else some ("; ".intercalate faults)

theorem joined_eq_none_iff {faults : List String} : joined faults = none ↔ faults = [] := by
  simp [joined]

/-- One more declared value takes away the complaint about the missing one, and nothing else. -/
theorem Task.joined_faults_added (h : Value.Added name declared declared') (task : Task) :
    joined (task.faults declared') =
      (joined (task.faults declared)).filter (remains (task.complaint? name)) := by
  cases task with
  | unit u command => exact (filter_remains_none _).symm
  | file path content =>
      cases content with
      | template text compiled => exact (filter_remains_none _).symm
      | value r =>
          by_cases hr : r = name
          · subst hr
            rw [complaint?, Content.complaint?, if_pos rfl]
            by_cases hpath : path = ""
            · -- a file without a path says so instead of complaining
              simp only [faults, if_pos hpath]
              refine (filter_remains_of_ne ?_).symm
              exact fun heq => absurd (congrArg String.toList heq) (by simp)
            · simp [joined, faults, hpath, Content.faults, h.filled, h.fresh, h.found,
                filter_remains_self]
          · have hsame : (file path (.value r)).faults declared' =
                (file path (.value r)).faults declared := by
              simp only [faults, Content.faults, h.others r hr]
            rw [complaint?, Content.complaint?, if_neg hr, filter_remains_none, hsame]

theorem Probe.fault?_added (h : Value.Added name declared declared') (probe : Probe) :
    probe.fault? declared' = (probe.fault? declared).filter (remains (probe.complaint? name)) := by
  cases probe with
  | unit u description => exact (filter_remains_none _).symm
  | service service socket => exact (filter_remains_none _).symm
  | host r =>
      by_cases hr : r = name
      · subst hr
        simp [complaint?, fault?, h.filled, h.fresh, h.found, filter_remains_self]
      · rw [complaint?, if_neg hr, filter_remains_none]
        simp only [fault?, h.others r hr]

namespace Configuration

namespace Entry

def contentComplaint? (name : String) : Entry → Option String
  | action a => a.task.complaint? name
  | check k => k.probe.complaint? name

def head (e : Entry) : String := e.kind ++ " " ++ Text.quote e.name ++ ": "

/-- What an entry has to say if it refers to a name that is not declared. -/
def complaint? (name : String) (e : Entry) : Option String :=
  (e.contentComplaint? name).map (e.head ++ ·)

theorem joined_contentFaults_added (h : Value.Added name declared declared') (e : Entry) :
    joined (e.contentFaults declared') =
      (joined (e.contentFaults declared)).filter (remains (e.contentComplaint? name)) := by
  have hjoined : ∀ fault? : Option String, joined fault?.toList = fault? := by
    intro fault?
    cases fault? <;> simp [joined]
  cases e with
  | action a => exact a.task.joined_faults_added h
  | check k =>
      simp only [contentFaults, hjoined]
      exact k.probe.fault?_added h

def nameFaults (e : Entry) : List String :=
  if e.name = "" then [e.kind ++ " name cannot be empty"]
  else if !Name.valid e.name then [Name.mismatch e.kind e.name]
  else []

/-- A fault of the name is no complaint: the kind is followed by a word, and not by a quote. -/
theorem ne_head_append {e : Entry} {f : String} (hf : f ∈ e.nameFaults) (t : String) :
    f ≠ e.head ++ t := by
  intro heq
  have hlist := congrArg String.toList heq
  unfold nameFaults at hf
  split at hf
  · rw [List.mem_singleton.mp hf] at hlist
    simp [head, Text.quote] at hlist
  · split at hf
    · rw [List.mem_singleton.mp hf] at hlist
      simp [head, Text.quote, Name.mismatch] at hlist
    · exact absurd hf List.not_mem_nil

theorem faults_eq_nameFaults_append (declared : List Value) (e : Entry) :
    e.faults declared = e.nameFaults ++ ((if e.name = "" then none
      else joined (e.contentFaults declared)).map (e.head ++ ·)).toList := by
  by_cases hname : e.name = ""
  · rw [nameFaults, if_pos hname, if_pos hname]
    cases e with
    | action a => exact if_pos hname
    | check k => exact if_pos hname
  · rw [faults_eq declared hname, nameFaults, if_neg hname, if_neg hname, joined]
    by_cases hcontent : e.contentFaults declared = []
    · rw [if_pos hcontent, if_pos hcontent]
      rfl
    · rw [if_neg hcontent, if_neg hcontent]
      rfl

/-- The same of all that is said about an entry: what is said about its name stays. -/
theorem faults_added (h : Value.Added name declared declared') (e : Entry) :
    e.faults declared' = (e.faults declared).filter (remains (e.complaint? name)) := by
  rw [faults_eq_nameFaults_append, faults_eq_nameFaults_append, complaint?,
    filter_remains_append fun f hf => ne_head_append hf]
  by_cases hname : e.name = ""
  · simp only [if_pos hname, Option.filter_none]
  · simp only [if_neg hname, e.joined_contentFaults_added h]

end Entry

namespace Declaration

def complaint? (name : String) : Declaration → Option String
  | action a => (Entry.action a).complaint? name
  | check k => (Entry.check k).complaint? name
  | value _ => none

def RefersTo (name : String) : Declaration → Prop
  | action a => ∃ path, a.task = .file path (.value name)
  | check k => k.probe = .host name
  | value _ => False

/-- What is said about an entry behind some others, without the complaint about a name. -/
def blockWithout (name : String) (declared : List Value) (earlier : List Declaration)
    (d : Declaration) : List String :=
  (joined ((d.faults declared).filter (remains (d.complaint? name)))).toList ++
    if d.Repeats earlier then [repeatedMessage d.kind d.name] else []

theorem judgement?_eq_joined (d : Declaration) :
    d.judgement? declared = joined (d.faults declared) := rfl

theorem complaint?_eq_none {d : Declaration} (h : ¬ d.RefersTo name) :
    d.complaint? name = none := by
  cases d with
  | value v => rfl
  | action a =>
      obtain ⟨n, task⟩ := a
      rcases task with ⟨path, r | ⟨text, compiled⟩⟩ | ⟨u, command⟩
      · have hr : r ≠ name := fun heq => h ⟨path, by rw [heq]⟩
        simp [complaint?, Entry.complaint?, Entry.contentComplaint?, Task.complaint?,
          Content.complaint?, hr]
      · rfl
      · rfl
  | check k =>
      obtain ⟨n, description, probe⟩ := k
      rcases probe with ⟨u, description⟩ | ⟨service, socket⟩ | r
      · rfl
      · rfl
      · have hr : r ≠ name := fun heq => h (congrArg Probe.host heq)
        simp [complaint?, Entry.complaint?, Entry.contentComplaint?, Probe.complaint?, hr]

theorem faults_added (h : Value.Added name declared declared') (d : Declaration) :
    d.faults declared' = (d.faults declared).filter (remains (d.complaint? name)) := by
  cases d with
  | action a => exact (Entry.action a).faults_added h
  | check k => exact (Entry.check k).faults_added h
  | value v => exact (List.filter_eq_self.mpr fun f _ => by simp [complaint?, remains]).symm

theorem block_added (h : Value.Added name declared declared') (earlier : List Declaration)
    (d : Declaration) : d.block declared' earlier = d.blockWithout name declared earlier := by
  rw [block, blockWithout, judgement?_eq_joined, faults_added h]
  rfl

theorem length_blockWithout_le (earlier : List Declaration) (d : Declaration) :
    (d.blockWithout name declared earlier).length ≤ (d.block declared earlier).length := by
  have hown : (joined ((d.faults declared).filter (remains (d.complaint? name)))).toList.length ≤
      (joined (d.faults declared)).toList.length := by
    by_cases hfaults : d.faults declared = []
    · rw [hfaults]
      exact Nat.le_refl _
    · rw [joined, joined, if_neg hfaults]
      exact Option.length_toList_le
  rw [block, blockWithout, judgement?_eq_joined, List.length_append, List.length_append]
  exact Nat.add_le_add_right hown _

/-! ## An entry of which nothing is said -/

/-- An entry in between makes no difference to those whose name or kind is another. -/
theorem blocks_behind {d : Declaration} {es : List Declaration}
    (hes : ∀ e ∈ es, ¬ (d.kind = e.kind ∧ d.name = e.name)) (earlier mid : List Declaration) :
    blocks declared (earlier ++ d :: mid) es = blocks declared (earlier ++ mid) es := by
  -- what has been passed behind the entry in between grows with every step
  induction es generalizing mid with
  | nil => rfl
  | cons e rest ih =>
      have hrepeats : e.Repeats (earlier ++ d :: mid) ↔ e.Repeats (earlier ++ mid) := by
        simp only [Repeats, List.mem_append, List.mem_cons, or_and_right, exists_or, exists_eq_left,
          hes e List.mem_cons_self, false_or]
      have hrest := ih (fun f hf => hes f (List.mem_cons_of_mem _ hf)) (mid ++ [e])
      rw [blocks_cons, blocks_cons, block_congr rfl hrepeats, List.append_assoc, List.append_assoc,
        List.cons_append, hrest]

/-- An entry about which nothing is said, and whose name no later entry has, adds no message. -/
theorem flatten_blocks_insert {d : Declaration} {ds es : List Declaration}
    (hd : d.block declared ds = []) (hes : ∀ e ∈ es, ¬ (d.kind = e.kind ∧ d.name = e.name)) :
    (blocks declared [] (ds ++ d :: es)).flatten = (blocks declared [] (ds ++ es)).flatten := by
  have hbehind : blocks declared (ds ++ [d]) es = blocks declared ds es := by
    simpa using blocks_behind hes ds []
  rw [blocks_append, blocks_append, blocks_cons, List.nil_append, hd, hbehind]
  simp

end Declaration

/-- Declares one more value, at a place among the others or behind them. -/
def declare (c : Configuration) (i : Nat) (v : Value) : Configuration :=
  { c with values := c.values.take i ++ v :: c.values.drop i }

theorem added_declare {c : Configuration} {v : Value} (hfilled : v.name ≠ "")
    (hnew : Value.isDeclared c.values v.name = false) (i : Nat) :
    Value.Added v.name c.values (c.declare i v).values := by
  rw [← List.take_append_drop i c.values] at hnew
  have h := Value.added_insert hfilled hnew
  rwa [List.take_append_drop] at h

theorem exists_declarations_declare (c : Configuration) (i : Nat) (v : Value) :
    ∃ before after, c.declarations = before ++ after ∧
      (c.declare i v).declarations = before ++ .value v :: after := by
  refine ⟨c.actions.map .action ++ c.checks.map .check ++ (c.values.take i).map .value,
    (c.values.drop i).map .value, ?_, ?_⟩
  · rw [List.append_assoc, ← List.map_append, List.take_append_drop]
    rfl
  · simp [declarations, declare]

theorem messages_declare_eq_flatten {c : Configuration} {v : Value}
    (hvalid : Name.valid v.name = true) (hfilled : v.name ≠ "")
    (hnew : Value.isDeclared c.values v.name = false) (i : Nat) :
    (c.declare i v).messages =
      (Declaration.blocks (c.declare i v).values [] c.declarations).flatten := by
  obtain ⟨before, after, hold, hwith⟩ := exists_declarations_declare c i v
  have hothers : ∀ e ∈ before ++ after, ¬ (e.kind = "value" ∧ e.name = v.name) := by
    intro e he heq
    have hdeclared := isDeclared_values_iff.mpr ⟨e, hold ▸ he, heq⟩
    rw [hnew] at hdeclared
    exact Bool.false_ne_true hdeclared
  -- its name is valid, and no value before it has it
  have hsilent : (Declaration.value v).block (c.declare i v).values before = [] := by
    have hfaults : (Declaration.value v).faults (c.declare i v).values = [] := by
      simp [Declaration.faults, Value.faults, hfilled, hvalid]
    have hrepeats : ¬ (Declaration.value v).Repeats before := by
      rintro ⟨e, he, heq⟩
      exact hothers e (List.mem_append_left _ he) heq
    rw [Declaration.block, Declaration.judgement?, if_pos hfaults, if_neg hrepeats]
    rfl
  rw [messages_eq_flatten, hwith, hold]
  apply Declaration.flatten_blocks_insert hsilent
  intro e he heq
  exact hothers e (List.mem_append_right _ he) ⟨heq.1.symm, heq.2.symm⟩

/-- Declaring one more value, of a valid name that no value has, at any place.  What validated stays
valid, and so becomes what had nothing wrong with it but that the value was missing; what does not
refer to the value gets the message that it got before.  All in all the same entries are spoken of
in the same order, with nothing taken out but the complaints that the value was not found, and no
message is added. -/
theorem messages_declare (c : Configuration) (v : Value) (i : Nat)
    (hvalid : Name.valid v.name = true) (hnew : Value.isDeclared c.values v.name = false) :
    (∀ d : Declaration, d.judgement? c.values = none → d.judgement? (c.declare i v).values = none) ∧
    (∀ d : Declaration, (∀ f ∈ d.faults c.values, d.complaint? v.name = some f) →
      d.judgement? (c.declare i v).values = none) ∧
    (∀ d : Declaration, ¬ d.RefersTo v.name →
      d.judgement? (c.declare i v).values = d.judgement? c.values ∧
        ∀ earlier, d.blockWithout v.name c.values earlier = d.block c.values earlier) ∧
    c.messages = (c.declarations.mapIdx fun j d =>
      d.block c.values (c.declarations.take j)).flatten ∧
    (c.declare i v).messages = (c.declarations.mapIdx fun j d =>
      d.blockWithout v.name c.values (c.declarations.take j)).flatten ∧
    (c.declare i v).messages.length ≤ c.messages.length := by
  have hfilled : v.name ≠ "" := by
    intro hempty
    rw [hempty] at hvalid
    exact absurd hvalid (by decide)
  have hadded := added_declare hfilled hnew i
  have hbefore : c.messages = (c.declarations.mapIdx fun j d =>
      d.block c.values (c.declarations.take j)).flatten := messages_eq_flatten c
  have hafter : (c.declare i v).messages = (c.declarations.mapIdx fun j d =>
      d.blockWithout v.name c.values (c.declarations.take j)).flatten := by
    rw [messages_declare_eq_flatten hvalid hfilled hnew, Declaration.blocks]
    simp only [Declaration.block_added hadded, List.nil_append]
  refine ⟨?_, ?_, ?_, hbefore, hafter, ?_⟩
  · intro d hd
    rw [Declaration.judgement?_eq_joined, joined_eq_none_iff] at hd ⊢
    rw [Declaration.faults_added hadded, hd, List.filter_nil]
  · intro d hd
    rw [Declaration.judgement?_eq_joined, joined_eq_none_iff, Declaration.faults_added hadded,
      List.filter_eq_nil_iff]
    intro f hf
    simpa [remains] using hd f hf
  · intro d hd
    have hkept :
        (d.faults c.values).filter (remains (d.complaint? v.name)) = d.faults c.values := by
      rw [Declaration.complaint?_eq_none hd]
      exact List.filter_eq_self.mpr fun _ _ => rfl
    refine ⟨?_, fun earlier => ?_⟩
    · rw [Declaration.judgement?_eq_joined, Declaration.faults_added hadded, hkept]
      rfl
    · rw [Declaration.blockWithout, hkept]
      rfl
  · rw [hbefore, hafter, List.mapIdx_eq_zipIdx_map, List.mapIdx_eq_zipIdx_map, List.length_flatten,
      List.length_flatten, List.map_map, List.map_map]
    exact List.sum_le_sum fun e _ => Declaration.length_blockWithout_le _ e.1

/-- Entries that refer to values, of which only `host` is declared.  The name of the first is no
name, and the last has the name of the one before it. -/
def wanting : Configuration :=
  ⟨[⟨"1st", .file "wpa.psk" (.value "psk")⟩, ⟨"psk", .file "" (.value "psk")⟩,
      ⟨"pin", .file "wpa.pin" (.value "pin")⟩],
    [⟨"dns", "", .host "psk"⟩, ⟨"dns", "", .host "psk"⟩], [⟨"host", "", false⟩]⟩

theorem messages_declare_wanting :
    Name.valid "psk" = true ∧ Value.isDeclared wanting.values "psk" = false ∧
    wanting.messages =
      ["action name \"1st\" does not match format ^[a-zA-Z_]+[a-zA-Z0-9_-]*$; " ++
          "action \"1st\": file value \"psk\" was not found",
        "action \"psk\": file path cannot be empty",
        "action \"pin\": file value \"pin\" was not found",
        "check \"dns\": DNS value \"psk\" was not found",
        "check \"dns\": DNS value \"psk\" was not found",
        "check \"dns\" appears more than once"] ∧
    (wanting.declare 0 ⟨"psk", "", true⟩).messages =
      ["action name \"1st\" does not match format ^[a-zA-Z_]+[a-zA-Z0-9_-]*$",
        "action \"psk\": file path cannot be empty",
        "action \"pin\": file value \"pin\" was not found",
        "check \"dns\" appears more than once"] := by
  obtain ⟨-, -, -, hbefore, hafter, -⟩ :=
    messages_declare wanting ⟨"psk", "", true⟩ 0 (by decide +kernel) (by decide +kernel)
  refine ⟨by decide +kernel, by decide +kernel, ?_, ?_⟩
  · rw [hbefore]
    decide +kernel
  · rw [hafter]
    decide +kernel

end Configuration

end Provision
