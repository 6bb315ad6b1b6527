import Provision.Template.Node

namespace Provision.Template

/-!
# Rendering

Rendering walks over the nodes with a stack of frames, which hold the values of variables.  A call
of a definition and each turn of a loop open a frame.  Calls are resolved by a function that is
given from outside, so that the walk itself recurs on the nodes alone; `Library.call` closes the
knot with a bound on the depth of calls.
-/

inductive RenderError where
  | function (error : CallError)
  | argumentsToField (name : String)
  | argumentsToConstant (shown : String)
  | noCommand (shown : String)
  | noArgument (shown : String)
  | fieldOfNothing (shown : String)
  | notAMap
  | undefinedVariable (name : String)
  | undefinedTemplate (name : String)
  | notARange (description : String)
  | tooDeep
  deriving DecidableEq, Repr, Inhabited

def RenderError.message : RenderError → String
  | function error => error.message
  | argumentsToField name => name ++ " has arguments but cannot be invoked as function"
  | argumentsToConstant shown => "can't give argument to non-function " ++ shown
  | noCommand shown => "cannot evaluate command: " ++ shown
  | noArgument shown => "cannot handle " ++ shown ++ " as argument"
  | fieldOfNothing shown => "indirection through explicit nul in " ++ shown
  | notAMap => "only maps and objects have fields"
  | undefinedVariable name => "variable " ++ name ++ " not found"
  | undefinedTemplate name => "template " ++ name ++ " not defined"
  | notARange description => "invalid range " ++ description
  | tooDeep => "exceeded maximum template depth"

abbrev Frame := List (String × Value)

abbrev Frames := List Frame

def Frames.get? (frames : Frames) (name : String) : Option Value :=
  frames.findSome? fun frame => frame.lookup name

def Frames.declare (names : List String) (v : Value) : Frames → Frames
  | [] => [names.reverse.map (·, v)]
  | frame :: outer => (names.reverse.map (·, v) ++ frame) :: outer

/-- Gives new values to the variables declared last in the innermost frame. -/
def Frames.update : List Value → Frames → Frames
  | _, [] => []
  | vs, frame :: outer => go vs frame :: outer
where
  go : List Value → Frame → Frame
    | v :: vs, (name, _) :: frame => (name, v) :: go vs frame
    | _, frame => frame

abbrev Walk := StateT Frames (Except RenderError)

namespace Walk

def fail {α : Type} (e : RenderError) : Walk α := fun _ => .error e

def read (name : String) : Walk Value := fun frames =>
  match frames.get? name with
  | some v => .ok (v, frames)
  | none => .error (.undefinedVariable name)

def declare (names : List String) (v : Value) : Walk Unit := modify (Frames.declare names v)

end Walk

/-- The value of a field of a field of … a value.  The last field takes no arguments. -/
def fieldValue (v : Value) (first : String) (others : List String) (given : Bool) :
    Except RenderError Value :=
  match v.field? first with
  | none => .error .notAMap
  | some w =>
    match others with
    | [] => if given then .error (.argumentsToField first) else .ok w
    | next :: others => fieldValue w next others given

def variableValue (name : String) (fields : List String) (given : Bool) : Walk Value := do
  let v ← Walk.read name
  match fields with
  | [] => if given then Walk.fail (.argumentsToConstant name) else return v
  | first :: others => liftM (fieldValue v first others given)

def callFunction (f : Function) (args : List Value) (piped : Option Value) : Walk Value :=
  match f.apply (args ++ piped.toList) with
  | .ok v => return v
  | .error e => Walk.fail (.function e)

def isNothing : Term → Bool
  | .group [] [[.nothing]] => true
  | _ => false

mutual

def Term.value (dot : Value) : Term → Walk Value
  | .dot => return dot
  | .nothing => Walk.fail (.noArgument "nil")
  | .bool b => return .bool b
  | .number n _ => return .number n
  | .text s _ => return .text s
  | .function f => callFunction f [] none
  | .variable name fields => variableValue name fields false
  | .field first others => liftM (fieldValue dot first others false)
  | .group declared commands => do
    let v ← commandsValue dot none commands
    Walk.declare declared v
    return v
  | .chain base first others =>
    if isNothing base then Walk.fail (.fieldOfNothing (Term.chain .nothing first others).shown)
    else do
      let v ← base.value dot
      liftM (fieldValue v first others false)

def argumentValues (dot : Value) : List Term → Walk (List Value)
  | [] => return []
  | t :: ts => do
    let v ← t.value dot
    let vs ← argumentValues dot ts
    return v :: vs

/-- The value of a command: a function takes the arguments and then the piped value; parentheses
ignore both; nothing else can have any. -/
def commandValue (dot : Value) (piped : Option Value) : List Term → Walk Value
  | [] => return .absent
  | t :: args =>
    let given := !args.isEmpty || piped.isSome
    match t with
    | .function f => do
      let vs ← argumentValues dot args
      callFunction f vs piped
    | .variable name fields => variableValue name fields given
    | .field first others => liftM (fieldValue dot first others given)
    | .group declared commands => do
      let v ← commandsValue dot none commands
      Walk.declare declared v
      return v
    | .chain base first others =>
      if isNothing base then Walk.fail (.fieldOfNothing (Term.chain .nothing first others).shown)
      else do
        let v ← base.value dot
        liftM (fieldValue v first others given)
    | .nothing =>
      Walk.fail (if given then .argumentsToConstant "nil" else .noCommand "nil")
    | t => if given then Walk.fail (.argumentsToConstant t.shown) else t.value dot

def commandsValue (dot : Value) (piped : Option Value) : List (List Term) → Walk Value
  | [] => return piped.getD .absent
  | command :: rest => do
    let v ← commandValue dot piped command
    commandsValue dot (some v) rest

end

/-- The value of a pipeline, given to its variables too. -/
def Pipeline.value (dot : Value) (p : Pipeline) : Walk Value := do
  let v ← commandsValue dot none p.commands
  Walk.declare p.declared v
  return v

abbrev Caller := String → Except RenderError (Value → Except RenderError (List Char))

/-- The values that a turn of a loop gives to the variables of the loop, the last one first. -/
def turnValues (declared : List String) (key : String) (v : Value) : List Value :=
  [v, .text key].take declared.length

def turns (declared : List String) (body : Value → Walk (List Char)) :
    List (String × String) → Walk (List Char)
  | [] => return []
  | (key, s) :: rest => do
    modify fun frames => [] :: Frames.update (turnValues declared key (.text s)) frames
    let shown ← body (.text s)
    modify List.tail
    let others ← turns declared body rest
    return shown ++ others

mutual

def Node.render (call : Caller) (dot : Value) : Node → Walk (List Char)
  | .text s => return s
  | .action p => do
    let v ← p.value dot
    return if p.declared = [] then v.print.toList else []
  | .choice kind p body otherwise => do
    let v ← p.value dot
    if v.isTrue then renderNodes call (if kind = .scope then v else dot) body
    else renderNodes call dot otherwise
  | .range p body otherwise => do
    let v ← p.value dot
    match v with
    | .map s => do
      let shown ← turns p.declared (fun dot => renderNodes call dot body) s.entries
      let others ← renderNodes call dot otherwise
      return shown ++ others
    | v => Walk.fail (.notARange v.description)
  | .call name p => do
    let definition ← liftM (call name)
    let v ← match p with
      | some p => p.value dot
      | none => pure .absent
    liftM (definition v)

def renderNodes (call : Caller) (dot : Value) : List Node → Walk (List Char)
  | [] => return []
  | n :: ns => do
    let shown ← n.render call dot
    let others ← renderNodes call dot ns
    return shown ++ others

end

/-- The frames with which a definition starts: one, in which `$` is the dot. -/
def initialFrames (dot : Value) : Frames := [[("$", dot)]]

/-- Finds definitions, whose calls are nested to at most the given depth. -/
def Library.call (l : Library) : Nat → Caller
  | 0, _ => .error .tooDeep
  | depth + 1, name =>
    match l.get? name with
    | none => .error (.undefinedTemplate name)
    | some nodes =>
      .ok fun dot => (renderNodes (l.call depth) dot nodes (initialFrames dot)).map Prod.fst

def maxDepth : Nat := 100000

def Library.render (l : Library) (s : Submission) : Except RenderError String :=
  ((l.call maxDepth "").bind fun definition => definition (.map s)).map String.ofList

end Provision.Template
