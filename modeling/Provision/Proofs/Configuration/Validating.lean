import Provision.Proofs.Configuration.Messages
import Provision.Proofs.Configuration.RoundTrip

namespace Provision

/-!
# Validation in one pass

A validation judges each action and compiles its template on the way.  What comes out is the
configuration with its templates compiled, and the messages about it.  Nothing that is written of a
configuration changes, and whether a template gets compiled depends on its own action alone; a
second pass says the same and finds nothing left to compile.
-/

variable {declared : List Value}

namespace Content

/-- The one pass compiles a content and finds what judging it alone would find. -/
theorem validate_eq (content : Content) :
    content.validate declared = (content.compile, content.faults declared) := by
  cases content with
  | value name => rfl
  | template text compiled =>
      by_cases htext : text = ""
      · simp only [validate, compile, faults, if_pos htext]
      · rcases ht : Template.compile text with e | t <;>
          simp only [validate, compile, faults, if_neg htext, ht]

end Content

namespace Task

theorem validate_eq (task : Task) :
    task.validate declared = (task.compile, task.faults declared) := by
  cases task with
  | unit u command => rfl
  | file path content =>
      by_cases hpath : path = ""
      · simp only [validate, compile, faults, if_pos hpath]
      · simp only [validate, compile, faults, if_neg hpath, Content.validate_eq]

end Task

namespace Action

theorem validate_eq (a : Action) : a.validate declared = (a.compile, a.faults declared) := by
  by_cases hname : a.name = ""
  · simp only [validate, compile, faults, if_pos hname]
  · simp only [validate, compile, faults, if_neg hname, Task.validate_eq]
    cases a.task.faults declared <;> rfl

end Action

namespace Configuration

namespace Pass

def behind (declared : List Value) (actions : List Action) : Pass :=
  ⟨(actions.map Action.name).reverse, actions.map Action.compile,
    messagesFrom "action" Action.name (Action.faults declared) [] actions⟩

theorem next_behind (actions : List Action) (a : Action) :
    (behind declared actions).next declared a = behind declared (actions ++ [a]) := by
  simp only [next, behind, Action.validate_eq, messagesFrom_append, messagesFrom_cons, ownMessage,
    List.map_append, List.map_cons, List.map_nil, List.reverse_append, List.reverse_cons,
    List.reverse_nil, List.append_nil, List.nil_append, List.singleton_append]
  simp [messagesFrom]

/-- By induction on the actions that are still to come, with those behind as the invariant. -/
theorem foldl_next (before actions : List Action) :
    actions.foldl (next declared) (behind declared before) =
      behind declared (before ++ actions) := by
  -- after each step the pass is where it is when one action more is behind
  induction actions generalizing before with
  | nil => rw [List.foldl_nil, List.append_nil]
  | cons a rest ih =>
      rw [List.foldl_cons, next_behind, ih, List.append_assoc, List.singleton_append]

end Pass

/-- To validate in one pass is to compile and to judge, each for itself. -/
theorem validate_eq (c : Configuration) : c.validate = (c.compile, c.messages) := by
  have hstart : Pass.start = Pass.behind c.values [] := rfl
  rw [validate, hstart, Pass.foldl_next]
  rfl

end Configuration

/-! ## What a validation leaves as it was -/

namespace Content

def Compiles : Content → Prop
  | value _ => False
  | template text _ => text ≠ "" ∧ ∃ t, Template.compile text = .ok t

theorem uncompiled_compile (content : Content) :
    content.compile.uncompiled = content.uncompiled := by
  cases content with
  | value name => rfl
  | template text compiled =>
      by_cases htext : text = ""
      · rw [compile, if_pos htext]
      · rcases ht : Template.compile text with e | t <;>
          simp only [compile, if_neg htext, ht, uncompiled]

theorem faults_uncompiled (content : Content) :
    content.uncompiled.faults declared = content.faults declared := by
  cases content <;> rfl

/-- A template is compiled afterwards exactly if it was compiled before or its text can be. -/
theorem isCompiled_compile_iff (content : Content) :
    content.compile.isCompiled = true ↔ content.isCompiled = true ∨ content.Compiles := by
  cases content with
  | value name => simp [compile, isCompiled, Compiles]
  | template text compiled =>
      by_cases htext : text = ""
      · simp [compile, htext, isCompiled, Compiles]
      · rcases ht : Template.compile text with e | t <;>
          simp [compile, htext, ht, isCompiled, Compiles]

/-- What has been compiled stays as it is. -/
theorem compile_compile (content : Content) : content.compile.compile = content.compile := by
  cases content with
  | value name => rfl
  | template text compiled =>
      by_cases htext : text = ""
      · simp only [compile, if_pos htext]
      · rcases ht : Template.compile text with e | t <;>
          simp only [compile, if_neg htext, ht]

end Content

namespace Task

theorem uncompiled_compile (task : Task) : task.compile.uncompiled = task.uncompiled := by
  cases task with
  | unit u command => rfl
  | file path content =>
      by_cases hpath : path = ""
      · rw [compile, if_pos hpath]
      · simp only [compile, if_neg hpath, uncompiled, Content.uncompiled_compile]

theorem faults_uncompiled (task : Task) :
    task.uncompiled.faults declared = task.faults declared := by
  cases task with
  | unit u command => rfl
  | file path content => simp only [uncompiled, faults, Content.faults_uncompiled]

theorem compile_compile (task : Task) : task.compile.compile = task.compile := by
  cases task with
  | unit u command => rfl
  | file path content =>
      by_cases hpath : path = ""
      · simp only [compile, if_pos hpath]
      · simp only [compile, if_neg hpath, Content.compile_compile]

end Task

namespace Action

theorem uncompiled_compile (a : Action) : a.compile.uncompiled = a.uncompiled := by
  by_cases hname : a.name = ""
  · rw [compile, if_pos hname]
  · simp only [compile, if_neg hname, uncompiled, Task.uncompiled_compile]

theorem faults_uncompiled (a : Action) : a.uncompiled.faults declared = a.faults declared := by
  simp only [uncompiled, faults, Task.faults_uncompiled]
  rfl

theorem compile_compile (a : Action) : a.compile.compile = a.compile := by
  by_cases hname : a.name = ""
  · simp only [compile, if_pos hname]
  · simp only [compile, if_neg hname, Task.compile_compile]

/-- Whatever else is wrong, a file's template is compiled if it was so before or if it can be, and
the action has a name and a path. -/
theorem exists_compile_file (name path : String) (content : Content) :
    ∃ content', (mk name (.file path content)).compile = mk name (.file path content') ∧
      (content'.isCompiled = true ↔
        content.isCompiled = true ∨ name ≠ "" ∧ path ≠ "" ∧ content.Compiles) := by
  by_cases hname : name = ""
  · exact ⟨content, by rw [compile, if_pos hname], by simp [hname]⟩
  · by_cases hpath : path = ""
    · exact ⟨content, by simp [compile, hname, Task.compile, hpath], by simp [hpath]⟩
    · refine ⟨content.compile, by simp [compile, hname, Task.compile, hpath], ?_⟩
      simp [content.isCompiled_compile_iff, hname, hpath]

end Action

namespace Configuration

theorem messagesFrom_map {α : Type} {kind : String} {name : α → String} {faults : α → List String}
    {f : α → α} (hname : ∀ e, name (f e) = name e) (hfaults : ∀ e, faults (f e) = faults e)
    (earlier : List String) (entries : List α) :
    messagesFrom kind name faults earlier (entries.map f) =
      messagesFrom kind name faults earlier entries := by
  induction entries generalizing earlier with
  | nil => rfl
  | cons e rest ih => rw [List.map_cons, messagesFrom, messagesFrom, hname, hfaults, ih]

/-- Nothing that is said depends on whether a template has been compiled. -/
theorem messages_uncompiled (c : Configuration) : c.uncompiled.messages = c.messages := by
  have hactions : messagesFrom "action" Action.name (Action.faults c.values) []
      (c.actions.map Action.uncompiled) =
        messagesFrom "action" Action.name (Action.faults c.values) [] c.actions := by
    apply messagesFrom_map
    · exact fun _ => rfl
    · exact Action.faults_uncompiled
  rw [messages, messages, uncompiled, hactions]

theorem uncompiled_compile (c : Configuration) : c.compile.uncompiled = c.uncompiled := by
  simp only [uncompiled, compile, List.map_map, Function.comp_def, Action.uncompiled_compile]

theorem messages_compile (c : Configuration) : c.compile.messages = c.messages := by
  rw [← messages_uncompiled, uncompiled_compile, messages_uncompiled]

theorem compile_compile (c : Configuration) : c.compile.compile = c.compile := by
  simp only [compile, List.map_map, Function.comp_def, Action.compile_compile]

/-- Validation changes nothing of a configuration but which templates are compiled, so that its JSON
text stays the same.  A template is compiled afterwards if it was so before, or if it parses and its
action has a name and a path; nothing that is wrong elsewhere prevents it.  A second validation has
the same to say and changes nothing. -/
theorem validate_validate (c : Configuration) :
    c.validate = (c.compile, c.messages) ∧
    c.validate.1.uncompiled = c.uncompiled ∧
    c.validate.1.json.render = c.json.render ∧
    (∀ (i : Nat) (name path : String) (content : Content),
      c.actions[i]? = some ⟨name, .file path content⟩ →
      ∃ content', c.validate.1.actions[i]? = some ⟨name, .file path content'⟩ ∧
        (content'.isCompiled = true ↔
          content.isCompiled = true ∨ name ≠ "" ∧ path ≠ "" ∧ content.Compiles)) ∧
    c.validate.1.validate = c.validate := by
  have hjson : c.compile.json = c.json := by
    rw [← json_uncompiled, uncompiled_compile, json_uncompiled]
  simp only [validate_eq]
  refine ⟨trivial, uncompiled_compile c, by rw [hjson], ?_, ?_⟩
  · intro i name path content hi
    obtain ⟨content', hcompile, hiff⟩ := Action.exists_compile_file name path content
    refine ⟨content', ?_, hiff⟩
    rw [compile, List.getElem?_map, hi, Option.map_some, hcompile]
  · rw [compile_compile, messages_compile]

/-- Four files of one template.  The name of the first is no name, and the second has it again; the
third has no path and the last no name. -/
def careless : Configuration :=
  ⟨[⟨"1st", .file "a" (.template "x" none)⟩, ⟨"1st", .file "b" (.template "x" none)⟩,
    ⟨"c", .file "" (.template "x" none)⟩, ⟨"", .file "d" (.template "x" none)⟩], [], []⟩

theorem validate_careless :
    careless.validate.2.length = 5 ∧
    (∃ content, careless.validate.1.actions[1]? = some ⟨"1st", .file "b" content⟩ ∧
      content.isCompiled = true) ∧
    (∃ content, careless.validate.1.actions[3]? = some ⟨"", .file "d" content⟩ ∧
      content.isCompiled = false) ∧
    careless.validate.1.validate = careless.validate := by
  obtain ⟨hvalidate, -, -, hfiles, hagain⟩ := validate_validate careless
  obtain ⟨second, hsecond, hcompiled⟩ := hfiles 1 "1st" "b" (.template "x" none) rfl
  obtain ⟨last, hlast, hnot⟩ := hfiles 3 "" "d" (.template "x" none) rfl
  have hparsed : ∃ t, Template.compile "x" = .ok t := by
    have hsome : (Template.compile "x").toOption.isSome = true := by decide +kernel
    rcases ht : Template.compile "x" with e | t
    · simp [ht, Except.toOption] at hsome
    · exact ⟨t, rfl⟩
  refine ⟨?_, ⟨second, hsecond, hcompiled.mpr (.inr ⟨by decide, by decide, by decide, hparsed⟩)⟩,
    ⟨last, hlast, ?_⟩, hagain⟩
  · rw [hvalidate]
    decide +kernel
  · simpa [Content.isCompiled] using hnot

end Configuration

end Provision
