import Provision.Proofs.Configuration.Messages
import Provision.Proofs.Configuration.WellFormed

namespace Provision.Configuration

/-!
# A block of messages for each entry

A validation goes over the actions, then the checks and then the values.  What it says is made up of
a block for each entry: the message about the entry by itself, if something is wrong with it, and
then that its name is repeated, if an earlier entry of its kind has it.  Nothing else about the
earlier entries matters to a block, so that what is wrong with one entry changes no other block.
-/

inductive Declaration where
  | action (a : Action)
  | check (k : Check)
  | value (v : Value)

namespace Declaration

def kind : Declaration → String
  | action _ => "action"
  | check _ => "check"
  | value _ => "value"

def name : Declaration → String
  | action a => a.name
  | check k => k.name
  | value v => v.name

def faults (declared : List Value) : Declaration → List String
  | action a => a.faults declared
  | check k => k.faults declared
  | value v => v.faults

def WellFormed (declared : List Value) : Declaration → Prop
  | action a => (a.name ≠ "" ∧ Name.InGrammar a.name) ∧ a.task.WellFormed declared
  | check k => (k.name ≠ "" ∧ Name.InGrammar k.name) ∧ k.probe.WellFormed declared
  | value v => v.name ≠ "" ∧ Name.InGrammar v.name

/-- The message of an entry that is judged alone, by the values that are declared. -/
def judgement? (declared : List Value) (d : Declaration) : Option String :=
  if d.faults declared = [] then none else some ("; ".intercalate (d.faults declared))

/-- An earlier entry of the same kind has the same name. -/
def Repeats (earlier : List Declaration) (d : Declaration) : Prop :=
  ∃ e ∈ earlier, e.kind = d.kind ∧ e.name = d.name

instance (earlier : List Declaration) (d : Declaration) : Decidable (d.Repeats earlier) :=
  inferInstanceAs (Decidable (∃ e ∈ earlier, e.kind = d.kind ∧ e.name = d.name))

/-- What is said about an entry behind some others. -/
def block (declared : List Value) (earlier : List Declaration) (d : Declaration) : List String :=
  (d.judgement? declared).toList ++
    if d.Repeats earlier then [d.kind ++ " " ++ Text.quote d.name ++ " appears more than once"]
    else []

def blocks (declared : List Value) (earlier ds : List Declaration) : List (List String) :=
  ds.mapIdx fun i d => d.block declared (earlier ++ ds.take i)

section

variable {declared declared' : List Value} {earlier ds : List Declaration} {d d' : Declaration}

@[simp] theorem blocks_nil : blocks declared earlier [] = [] := rfl

theorem blocks_cons :
    blocks declared earlier (d :: ds) =
      d.block declared earlier :: blocks declared (earlier ++ [d]) ds := by
  simp [blocks, List.mapIdx_cons]

theorem blocks_append (es : List Declaration) :
    blocks declared earlier (ds ++ es) =
      blocks declared earlier ds ++ blocks declared (earlier ++ ds) es := by
  induction ds generalizing earlier with
  | nil => simp
  | cons d ds ih => simp [blocks_cons, ih]

theorem length_block_le : (d.block declared earlier).length ≤ 2 := by
  have hown : (d.judgement? declared).toList.length ≤ 1 := Option.length_toList_le
  rw [block, List.length_append]
  have hrepeated : (if d.Repeats earlier
      then [d.kind ++ " " ++ Text.quote d.name ++ " appears more than once"]
      else []).length ≤ 1 := by
    split <;> simp
  exact Nat.add_le_add hown hrepeated

/-- Of an entry that is judged alone there is nothing to say exactly if it is well-formed. -/
theorem judgement?_eq_none_iff : d.judgement? declared = none ↔ d.WellFormed declared := by
  have hfaults : d.judgement? declared = none ↔ d.faults declared = [] := by simp [judgement?]
  rw [hfaults]
  cases d with
  | action a => exact Action.faults_eq_nil_iff
  | check k => exact Check.faults_eq_nil_iff
  | value v => exact Value.faults_eq_nil_iff

theorem toList_judgement? : (d.judgement? declared).toList = ownMessage (faults declared) d := by
  rw [judgement?, ownMessage]
  split <;> rfl

/-! ## What a block depends on -/

theorem faults_congr (h : Value.isDeclared declared = Value.isDeclared declared') :
    d.faults declared = d.faults declared' := by
  cases d with
  | action a => exact Action.faults_congr h a
  | check k => exact Check.faults_congr h k
  | value v => rfl

/-- A block depends on the values only by the names that are declared, and on the earlier entries
only by whether one of them is repeated. -/
theorem block_congr {earlier' : List Declaration}
    (hdeclared : Value.isDeclared declared = Value.isDeclared declared')
    (hrepeats : d.Repeats earlier ↔ d.Repeats earlier') :
    d.block declared earlier = d.block declared' earlier' := by
  simp only [block, judgement?, faults_congr hdeclared, hrepeats]

theorem blocks_congr {earlier' : List Declaration}
    (hdeclared : Value.isDeclared declared = Value.isDeclared declared')
    (hrepeats : ∀ (e : Declaration) (mid : List Declaration),
      e.Repeats (earlier ++ mid) ↔ e.Repeats (earlier' ++ mid)) :
    blocks declared earlier ds = blocks declared' earlier' ds := by
  simp only [blocks, block_congr hdeclared (hrepeats _ _)]

/-- Whether an entry repeats an earlier one is settled by the kinds and the names alone. -/
theorem repeats_replace (hkind : d'.kind = d.kind) (hname : d'.name = d.name)
    (before mid : List Declaration) (e : Declaration) :
    e.Repeats (before ++ [d'] ++ mid) ↔ e.Repeats (before ++ [d] ++ mid) := by
  simp only [Repeats, List.mem_append, List.mem_singleton, or_and_right, exists_or,
    exists_eq_left, hkind, hname]

end

end Declaration

/-- The entries in the order in which they are judged. -/
def declarations (c : Configuration) : List Declaration :=
  c.actions.map .action ++ c.checks.map .check ++ c.values.map .value

theorem isDeclared_values_iff {c : Configuration} {name : String} :
    Value.isDeclared c.values name = true ↔
      ∃ d ∈ c.declarations, d.kind = "value" ∧ d.name = name := by
  simp [Value.isDeclared_iff, declarations, or_and_right, exists_or, Declaration.kind,
    Declaration.name]

/-- The messages about the entries of one kind are their blocks, whatever entries of other kinds
have come before. -/
theorem messagesFrom_eq_flatten_blocks {α : Type} {kind : String} {name : α → String}
    {faults : α → List String} (declared : List Value) (make : α → Declaration)
    (hkind : ∀ e, (make e).kind = kind) (hname : ∀ e, (make e).name = name e)
    (hfaults : ∀ e, (make e).faults declared = faults e) (others : List Declaration)
    (hothers : ∀ d ∈ others, d.kind ≠ kind) (earlier entries : List α) :
    messagesFrom kind name faults (earlier.map name).reverse entries =
      (Declaration.blocks declared (others ++ earlier.map make) (entries.map make)).flatten := by
  induction entries generalizing earlier with
  | nil => rfl
  | cons e rest ih =>
      have hrepeats : (make e).Repeats (others ++ earlier.map make) ↔
          name e ∈ (earlier.map name).reverse := by
        simp only [Declaration.Repeats, List.mem_append, List.mem_map, List.mem_reverse, hkind,
          hname]
        constructor
        · rintro ⟨d, hd | ⟨f, hf, rfl⟩, hdkind, hdname⟩
          · exact absurd hdkind (hothers d hd)
          · exact ⟨f, hf, (hname f).symm.trans hdname⟩
        · rintro ⟨f, hf, hfname⟩
          exact ⟨make f, .inr ⟨f, hf, rfl⟩, hkind f, (hname f).trans hfname⟩
      have hown : ((make e).judgement? declared).toList = ownMessage faults e := by
        rw [Declaration.toList_judgement?, ownMessage, hfaults, ownMessage]
      have hrest := ih (earlier ++ [e])
      simp only [List.map_append, List.map_cons, List.map_nil, List.reverse_append,
        List.reverse_cons, List.reverse_nil, List.nil_append, List.singleton_append] at hrest
      rw [messagesFrom_cons, List.map_cons, Declaration.blocks_cons, List.flatten_cons,
        List.append_assoc others, ← hrest, Declaration.block, hown, hkind, hname]
      simp only [hrepeats, repeatedMessage]

section

variable {α : Type} {kind : String} {name : α → String} {faults : α → List String}

theorem messagesFrom_nil (earlier : List String) :
    messagesFrom kind name faults earlier [] = [] := rfl

theorem messagesFrom_singleton (e : α) :
    messagesFrom kind name faults [] [e] = ownMessage faults e := by
  simp [messagesFrom_cons, messagesFrom_nil]

end

/-- The messages are the blocks of the entries, one after the other. -/
theorem messages_eq_flatten (c : Configuration) :
    c.messages = (Declaration.blocks c.values [] c.declarations).flatten := by
  have hactions := messagesFrom_eq_flatten_blocks c.values .action (fun _ => rfl) (fun _ => rfl)
    (fun _ => rfl) [] (by simp) [] c.actions
  have hchecks := messagesFrom_eq_flatten_blocks c.values .check (fun _ => rfl) (fun _ => rfl)
    (fun _ => rfl) (c.actions.map .action) (by simp [Declaration.kind]) [] c.checks
  have hvalues := messagesFrom_eq_flatten_blocks c.values .value (fun _ => rfl) (fun _ => rfl)
    (fun _ => rfl) (c.actions.map .action ++ c.checks.map .check)
    (by simp [Declaration.kind, or_imp, forall_and]) [] c.values
  simp only [List.map_nil, List.append_nil, List.reverse_nil] at hactions hchecks hvalues
  rw [messages, declarations, Declaration.blocks_append, Declaration.blocks_append,
    List.flatten_append, List.flatten_append, List.nil_append, List.nil_append]
  exact congrArg₂ _ (congrArg₂ _ hactions hchecks) hvalues

/-- An entry that is replaced by another of its kind and name leaves what is said before it and
behind it as it was. -/
theorem messages_replace {c c' : Configuration} {before after : List Declaration}
    {d d' : Declaration} (hc : c.declarations = before ++ d :: after)
    (hc' : c'.declarations = before ++ d' :: after) (hkind : d'.kind = d.kind)
    (hname : d'.name = d.name) :
    c'.messages = (Declaration.blocks c.values [] before).flatten ++ d'.block c'.values before ++
      (Declaration.blocks c.values (before ++ [d]) after).flatten := by
  have hdeclared : Value.isDeclared c'.values = Value.isDeclared c.values := by
    funext name
    rw [Bool.eq_iff_iff, isDeclared_values_iff, isDeclared_values_iff, hc, hc']
    simp only [List.mem_append, List.mem_cons, or_and_right, exists_or, exists_eq_left, hkind,
      hname]
  have hbefore : Declaration.blocks c'.values [] before = Declaration.blocks c.values [] before :=
    Declaration.blocks_congr hdeclared fun _ _ => .rfl
  have hafter : Declaration.blocks c'.values (before ++ [d']) after =
      Declaration.blocks c.values (before ++ [d]) after :=
    Declaration.blocks_congr hdeclared fun e mid =>
      Declaration.repeats_replace hkind hname before mid e
  rw [messages_eq_flatten, hc', Declaration.blocks_append, Declaration.blocks_cons,
    List.nil_append, hbefore, hafter]
  simp

/-- What a validation says is a block for each entry in turn, of at most two messages.  The first is
the one that the entry gets when it is judged alone, and it is missing exactly if the entry is
well-formed; the second tells that an earlier entry of the same kind has the same name.  Whatever
else may be wrong with an entry, the other blocks stay what they are. -/
theorem messages_eq_blocks (c : Configuration) :
    c.messages = (c.declarations.mapIdx fun i d =>
      d.block c.values (c.declarations.take i)).flatten ∧
    (∀ d ∈ c.declarations, (d.judgement? c.values = none ↔ d.WellFormed c.values) ∧
      ∀ earlier, (d.block c.values earlier).length ≤ 2) ∧
    ((∀ a, messages ⟨[a], [], c.values⟩ =
        ((Declaration.action a).judgement? c.values).toList ++ messages ⟨[], [], c.values⟩) ∧
      (∀ k, messages ⟨[], [k], c.values⟩ =
        ((Declaration.check k).judgement? c.values).toList ++ messages ⟨[], [], c.values⟩) ∧
      ∀ v, messages ⟨[], [], [v]⟩ = ((Declaration.value v).judgement? c.values).toList) ∧
    ∀ before d after, c.declarations = before ++ d :: after → ∃ front back,
      ∀ (c' : Configuration) (d' : Declaration), c'.declarations = before ++ d' :: after →
        d'.kind = d.kind → d'.name = d.name →
        c'.messages = front ++ d'.block c'.values before ++ back := by
  refine ⟨?_, ?_, ⟨?_, ?_, ?_⟩, ?_⟩
  · simpa [Declaration.blocks] using messages_eq_flatten c
  · intro d _
    exact ⟨Declaration.judgement?_eq_none_iff, fun _ => Declaration.length_block_le⟩
  · intro a
    simp only [messages, messagesFrom_singleton, messagesFrom_nil, Declaration.toList_judgement?,
      List.append_nil, List.nil_append]
    rfl
  · intro k
    simp only [messages, messagesFrom_singleton, messagesFrom_nil, Declaration.toList_judgement?,
      List.nil_append]
    rfl
  · intro v
    simp only [messages, messagesFrom_singleton, messagesFrom_nil, Declaration.toList_judgement?,
      List.nil_append]
    rfl
  · intro before d after hc
    exact ⟨_, _, fun c' d' hc' hkind hname => messages_replace hc hc' hkind hname⟩

def crowded : Configuration :=
  ⟨[⟨"key", .file "" (.value "psk")⟩, ⟨"key", .file "wpa.psk" (.value "pin")⟩], [],
    [⟨"psk", "", false⟩]⟩

def mended : Configuration :=
  ⟨[⟨"key", .file "" (.value "psk")⟩, ⟨"key", .file "wpa.psk" (.value "psk")⟩], [],
    [⟨"psk", "", false⟩]⟩

theorem messages_mended : ∃ front back,
    crowded.messages = front ++ ["action \"key\": file value \"pin\" was not found",
        "action \"key\" appears more than once"] ++ back ∧
      mended.messages = front ++ ["action \"key\" appears more than once"] ++ back := by
  obtain ⟨-, -, -, hreplace⟩ := messages_eq_blocks crowded
  obtain ⟨front, back, h⟩ := hreplace [.action ⟨"key", .file "" (.value "psk")⟩]
    (.action ⟨"key", .file "wpa.psk" (.value "pin")⟩) [.value ⟨"psk", "", false⟩] rfl
  refine ⟨front, back, ?_, ?_⟩
  · rw [h crowded (.action ⟨"key", .file "wpa.psk" (.value "pin")⟩) rfl rfl rfl]
    rfl
  · rw [h mended (.action ⟨"key", .file "wpa.psk" (.value "psk")⟩) rfl rfl rfl]
    rfl

end Provision.Configuration
