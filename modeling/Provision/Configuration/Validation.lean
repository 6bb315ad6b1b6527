import Provision.Configuration.Basic

namespace Provision

/-!
# Validation

Every entry of a configuration is judged by itself, and its name against those of the earlier
entries of its kind.  All that is wrong is told at once.  A validation goes over the actions once:
the template of a file is compiled where it is parsed in order to judge it.
-/

namespace Content

/-- The content with what is wrong with it.  A template is parsed once, to be judged and compiled.
-/
def validate (declared : List Value) : Content → Content × List String
  | value name => (value name, faults declared (value name))
  | template text compiled =>
    if text = "" then (template text compiled, ["file template cannot be empty"])
    else
      match Template.compile text with
      | .ok t => (template text (some t), [])
      | .error e => (template text compiled, ["failed to parse template: " ++ e])

end Content

namespace Task

/-- The task with what is wrong with it.  Without a path the content is not looked at. -/
def validate (declared : List Value) : Task → Task × List String
  | file path content =>
    if path = "" then (file path content, ["file path cannot be empty"])
    else
      let (content, faults) := content.validate declared
      (file path content, faults)
  | unit u command => (unit u command, faults declared (unit u command))

end Task

namespace Action

def validate (declared : List Value) (a : Action) : Action × List String :=
  if a.name = "" then (a, ["action name cannot be empty"])
  else
    let (task, faults) := a.task.validate declared
    ({ a with task := task },
      (if !Name.valid a.name then [Name.mismatch "action" a.name] else []) ++
        if faults = [] then []
        else ["action " ++ Text.quote a.name ++ ": " ++ "; ".intercalate faults])

end Action

namespace Configuration

def repeatedMessage (kind name : String) : String :=
  kind ++ " " ++ Text.quote name ++ " appears more than once"

/-- The messages about the entries of a kind, in their order: for each, what is wrong with it, and
whether its name is among the `earlier` ones. -/
def messagesFrom {α : Type} (kind : String) (name : α → String) (faults : α → List String) :
    List String → List α → List String
  | _, [] => []
  | earlier, e :: rest =>
    (if faults e = [] then [] else ["; ".intercalate (faults e)]) ++
      (if name e ∈ earlier then [repeatedMessage kind (name e)] else []) ++
      messagesFrom kind name faults (name e :: earlier) rest

def messages (c : Configuration) : List String :=
  messagesFrom "action" Action.name (Action.faults c.values) [] c.actions ++
    messagesFrom "check" Check.name (Check.faults c.values) [] c.checks ++
    messagesFrom "value" Value.name Value.faults [] c.values

def valid (c : Configuration) : Bool := c.messages.isEmpty

def compile (c : Configuration) : Configuration :=
  { c with actions := c.actions.map Action.compile }

/-- How far a validation has come with the actions: the names so far, the actions as they are
afterwards, and the messages. -/
structure Pass where
  names : List String
  actions : List Action
  messages : List String

namespace Pass

def start : Pass := ⟨[], [], []⟩

def next (declared : List Value) (p : Pass) (a : Action) : Pass :=
  let (validated, faults) := a.validate declared
  ⟨a.name :: p.names, p.actions ++ [validated],
    p.messages ++ (if faults = [] then [] else ["; ".intercalate faults]) ++
      if a.name ∈ p.names then [repeatedMessage "action" a.name] else []⟩

end Pass

/-- Validates a configuration: the configuration as it is afterwards, and the messages. -/
def validate (c : Configuration) : Configuration × List String :=
  let p := c.actions.foldl (Pass.next c.values) .start
  ({ c with actions := p.actions },
    p.messages ++ messagesFrom "check" Check.name (Check.faults c.values) [] c.checks ++
      messagesFrom "value" Value.name Value.faults [] c.values)

end Configuration

end Provision
