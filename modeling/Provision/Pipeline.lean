import Provision.Configuration.Basic
import Provision.Files.Tree
import Provision.Unit.Manager

namespace Provision

/-!
# Pipelines

A pipeline holds what is left to do of a configuration's actions.  Executing it runs one step after
the other and stops at the first that fails; what has been done is not undone.
-/

inductive Step where
  /-- Writes the text that was submitted for a name; nothing, if there is none. -/
  | copyValue (path name : String)
  | render (path : String) (template : Template)
  | command (command : UnitCommand) (unit : String)
  deriving Repr

structure Machine (σ : Type) where
  medium : Medium
  units : UnitManager σ

/-- The state of a machine: its device, and the orders that submissions will have when they are
copied. -/
structure World (σ : Type) extends Device σ where
  orders : Nat → Arrangement

namespace World

/-- A world in which copies keep the order. -/
def of {σ : Type} (files : FileTree) (programs : σ) : World σ :=
  ⟨⟨files, programs⟩, fun _ => .asGiven⟩

def later {σ : Type} (w : World σ) : World σ := { w with orders := fun n => w.orders (n + 1) }

@[simp] theorem toDevice_later {σ : Type} (w : World σ) : w.later.toDevice = w.toDevice := rfl

end World

namespace Step

/-- The step that a task amounts to.  A template has to have been compiled. -/
def ofTask : Task → Except Failure Step
  | .file path (.value name) => .ok (copyValue path name)
  | .file path (.template _ (some t)) => .ok (render path t)
  | .file path (.template _ none) => .error (.templateNotCompiled path)
  | .unit u word =>
    match UnitCommand.ofText? word with
    | some c => .ok (command c u)
    | none => .error (.invalid [UnitCommand.unknownMessage])

def store {σ : Type} (m : Machine σ) (w : World σ) (path text : String) :
    Option Failure × World σ :=
  match w.files.write m.medium path (Text.utf8 text) with
  | (none, files) => (none, { w with files := files })
  | (some e, files) => (some (.unwritable path e), { w with files := files })

/-- Runs a step; the failure tells why it did not succeed. -/
def run {σ : Type} (m : Machine σ) (s : Submission) (step : Step) (w : World σ) :
    Option Failure × World σ :=
  match step with
  | copyValue path name => store m w path ((s.get? name).getD "")
  | render path template =>
    match template.render s (w.orders 0) with
    | .ok shown => store m w.later path shown
    | .error e => (some (.unrenderable e), w.later)
  | command c unit =>
    match m.units.run c unit w.toDevice with
    | (.ok _, d) => (none, { w with toDevice := d })
    | (.error e, d) => (some e, { w with toDevice := d })

def log {σ : Type} (units : UnitManager σ) : Step → List LogLine
  | command c unit => units.log c unit
  | _ => []

end Step

structure Pipeline where
  steps : List (String × Step)
  deriving Repr

/-- How an execution ended: the failure of an action, the machine, and the log. -/
structure Outcome (σ : Type) where
  failure : Option Failure
  world : World σ
  log : List LogLine

namespace Pipeline

def compileAction (a : Action) : Except Failure (String × Step) :=
  match Step.ofTask a.task with
  | .ok step => .ok (a.name, step)
  | .error e => .error e

/-- Compiles actions; the first that has no step fails. -/
def compileActions : List Action → Except Failure (List (String × Step))
  | [] => .ok []
  | a :: rest => do
    let step ← compileAction a
    return step :: (← compileActions rest)

def compile (c : Configuration) : Except Failure Pipeline := do
  return ⟨← compileActions c.actions⟩

def names (p : Pipeline) : List String := p.steps.map Prod.fst

/-- Runs steps in their order, up to the first that fails. -/
def runSteps {σ : Type} (m : Machine σ) (s : Submission) :
    List (String × Step) → World σ → Outcome σ
  | [], w => ⟨none, w, []⟩
  | (name, step) :: rest, w =>
    let begins := ⟨.debug, "executing action", [("action", .text name)]⟩ :: step.log m.units
    match step.run m s w with
    | (some e, w) =>
      ⟨some (.action name e), w, begins ++
        [⟨.error, "action failed", [("action", .text name), ("error", .text e.message)]⟩]⟩
    | (none, w) =>
      let outcome := runSteps m s rest w
      { outcome with log := begins ++ outcome.log }

def execute {σ : Type} (m : Machine σ) (p : Pipeline) (s : Submission) (w : World σ) : Outcome σ :=
  let outcome := runSteps m s p.steps w
  if outcome.failure.isSome then outcome
  else
    { outcome with
      log := outcome.log ++
        [⟨.info, "onboarding complete", [("actions", .natural p.steps.length)]⟩] }

end Pipeline

end Provision
