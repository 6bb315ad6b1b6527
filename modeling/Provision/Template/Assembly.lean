import Provision.Template.Escape
import Provision.Template.Node
import Provision.Template.Scan

namespace Provision.Template

/-!
# From tokens to nodes

Tokens are taken one at a time by a machine with a stack of open lists and, inside an action, a
stack of open pipelines.  `Assembly.step` is total, and the machine stops at the end of the tokens,
so that it needs no bound on its steps.

An error names the definition that is open and the line of the last token taken.
-/

inductive Fault where
  | unexpected (shown context : String)
  | token (message : String)
  | unexpectedOtherwise
  | unexpectedFinish
  | unexpectedOtherwiseIn (context : String)
  | secondOtherwise
  | unexpectedEnd
  | undefinedFunction (name : String)
  | undefinedVariable (name : String)
  | badText (source : String)
  | badCharacter
  | notANumber
  | fieldOfConstant (shown : String)
  | unclosedParen (shown : String)
  | tooManyDeclarations (context : String)
  | missingValue (context : String)
  | notExecutable (stage : Nat)
  | definedTwice (name : String)
  deriving DecidableEq, Repr, Inhabited

def Fault.message : Fault → String
  | unexpected shown context => "unexpected " ++ shown ++ " in " ++ context
  | token message => message
  | unexpectedOtherwise => "unexpected \x7b\x7belse\x7d\x7d"
  | unexpectedFinish => "unexpected \x7b\x7bend\x7d\x7d"
  | unexpectedOtherwiseIn context => "unexpected \x7b\x7belse\x7d\x7d in " ++ context
  | secondOtherwise => "expected end; found \x7b\x7belse\x7d\x7d"
  | unexpectedEnd => "unexpected EOF"
  | undefinedFunction name => "function " ++ name ++ " not defined"
  | undefinedVariable name => "undefined variable " ++ name
  | badText source => "unable to unqote string: " ++ source
  | badCharacter => "unable to unquote"
  | notANumber => "NaN"
  | fieldOfConstant shown => "unexpected . after term " ++ shown
  | unclosedParen shown => "unclosed right paren: unexpected " ++ shown
  | tooManyDeclarations context => "to many decalarations in " ++ context
  | missingValue context => "missing value for " ++ context
  | notExecutable stage => "non executable command in pipeline stage " ++ toString stage
  | definedTwice name => "template multiple definitions of template " ++ name

inductive ParseError where
  | at (definition : String) (line : Nat) (fault : Fault)
  | badName (source : String)
  | computedName
  deriving DecidableEq, Repr, Inhabited

def ParseError.message : ParseError → String
  | .at definition line fault =>
    "template: " ++ definition ++ ":" ++ toString line ++ ":" ++ fault.message
  | badName source => "unable to parse string: " ++ source
  | computedName => "enable gtmpl_dynamic_template to use a pipeline as name"

inductive Clause where
  | command
  /-- A condition; a chained one stands in the other part of the condition around it.  The scope
  holds the variables that are declared before. -/
  | choice (kind : Choice) (chained : Bool) (scope : List String)
  | range (scope : List String)
  | call (name : String)
  | block (name : String)
  | group
  deriving Repr, Inhabited

def Clause.context : Clause → String
  | command => "command"
  | choice .condition .. => "if"
  | choice .scope .. => "with"
  | range _ => "range"
  | call _ => "template clause"
  | block _ => "block clause"
  | group => "parenthesized pipeline"

inductive Progress where
  /-- Before the first command, where a variable may begin a declaration. -/
  | opening
  /-- After a variable in that place, on its line, and perhaps white space. -/
  | variable (name : String) (line : Nat) (spaced : Bool)
  /-- Before a command. -/
  | command
  /-- Directly after a term, where fields may follow. -/
  | term (t : Term)
  /-- After white space behind a term. -/
  | gap
  deriving Repr, Inhabited

structure OpenPipeline where
  clause : Clause
  progress : Progress := .opening
  declared : List String := []
  commands : List (List Term) := []
  /-- The terms of the command that is being read. -/
  terms : List Term := []
  deriving Repr, Inhabited

/-- Where a list that is being read will go. -/
inductive Owner where
  | root
  | definition (name : String) (scope : List String)
  | block (name : String) (p : Pipeline) (scope : List String)
  | choice (kind : Choice) (chained : Bool) (p : Pipeline) (scope : List String)
  | range (p : Pipeline) (scope : List String)
  /-- The other part of a condition or a loop, after its first part. -/
  | otherwise (first : Owner) (body : List Node)
  deriving Repr, Inhabited

/-- A list that is being read, in the order of reading. -/
structure OpenList where
  owner : Owner
  nodes : List Node := []
  deriving Repr, Inhabited

def OpenList.add (l : OpenList) (n : Node) : OpenList := { l with nodes := l.nodes ++ [n] }

inductive Mode where
  | content
  | action
  | otherwise
  | finish
  | definitionName
  | definitionEnd (name : String)
  | blockName
  | callName
  | callEnd (name : String)
  | pipeline (current : OpenPipeline) (outer : List OpenPipeline)
  | done
  deriving Repr, Inhabited

structure Assembly where
  library : Library := .empty
  current : OpenList := { owner := .root }
  outer : List OpenList := []
  /-- The variables that are declared, `$` apart. -/
  known : List String := []
  mode : Mode := .content
  line : Nat := 0
  deriving Repr, Inhabited

def Owner.definition? : Owner → Option String
  | definition name _ => some name
  | block name .. => some name
  | _ => none

/-- The node of a list that ends, with its first part if it is the other part. -/
def Owner.node? : Owner → List Node → Option (Node × Bool × List String)
  | .choice kind chained p scope, nodes => some (.choice kind p nodes [], chained, scope)
  | .range p scope, nodes => some (.range p nodes [], false, scope)
  | .otherwise (.choice kind chained p scope) body, nodes =>
    some (.choice kind p body nodes, chained, scope)
  | .otherwise (.range p scope) body, nodes => some (.range p body nodes, false, scope)
  | _, _ => none

def OpenPipeline.endCommand (p : OpenPipeline) : OpenPipeline :=
  { p with commands := p.commands ++ [p.terms], terms := [], progress := .command }

namespace Assembly

def definition (a : Assembly) : String :=
  ((a.current :: a.outer).findSome? fun l => l.owner.definition?).getD ""

def fail {α : Type} (a : Assembly) (fault : Fault) : Except ParseError α :=
  .error (.at a.definition a.line fault)

/-- Adds a node to the innermost list and goes on with content. -/
def add (a : Assembly) (n : Node) : Assembly :=
  { a with current := a.current.add n, mode := .content }

def enter (a : Assembly) (owner : Owner) : Assembly :=
  { a with current := { owner }, outer := a.current :: a.outer, mode := .content }

def readPipeline (a : Assembly) (clause : Clause) : Assembly :=
  { a with mode := .pipeline { clause } [] }

def define (a : Assembly) (name : String) (nodes : List Node) : Except ParseError Assembly :=
  match a.library.define? name nodes with
  | some library => .ok { a with library }
  | none => a.fail (.definedTwice name)

/-- Ends the innermost list.  The end of a chained condition also ends the one around it. -/
def leave (a : Assembly) : List OpenList → Except ParseError Assembly
  | [] => a.fail .unexpectedFinish
  | next :: outer =>
    match a.current.owner with
    | .definition name scope =>
      { a with current := next, outer, known := scope, mode := .content }.define name
        a.current.nodes
    | .block name p scope => do
      let b ← { a with current := next, outer, known := scope }.define name a.current.nodes
      .ok (b.add (.call name (some p)))
    | owner =>
      match owner.node? a.current.nodes with
      | none => a.fail .unexpectedFinish
      | some (node, chained, scope) =>
        let b := { a with current := next.add node, outer, known := scope, mode := .content }
        if chained then b.leave outer else .ok b

/-- Begins the other part of the innermost list, or says why it has none. -/
def turn (a : Assembly) : Except ParseError Assembly :=
  match a.current.owner with
  | .root => a.fail .unexpectedOtherwise
  | .definition .. => a.fail (.unexpectedOtherwiseIn "define clause")
  | .block .. => a.fail (.unexpectedOtherwiseIn "block clause")
  | .otherwise .. => a.fail .secondOtherwise
  | owner =>
    .ok { a with current := { owner := .otherwise owner a.current.nodes }, mode := .content }

def chains (a : Assembly) : Bool :=
  match a.current.owner with
  | .choice .condition .. => true
  | _ => false

def content (a : Assembly) (t : Token) : Except ParseError Assembly :=
  match t.kind with
  | .text => .ok (a.add (.text t.source))
  | .openDelimiter => .ok { a with mode := .action }
  | .ending =>
    match a.outer with
    | [] => do
      let b ← a.define "" a.current.nodes
      .ok { b with mode := .done }
    | _ => a.fail .unexpectedEnd
  | _ => a.fail (.unexpected t.shown "input")

/-- The first command, from the second on, that begins with a constant, by its place. -/
def firstConstant? : Nat → List (List Term) → Option Nat
  | _, [] => none
  | place, command :: rest =>
    match command with
    | [] => firstConstant? (place + 1) rest
    | t :: _ => if t.isConstant then some place else firstConstant? (place + 1) rest

def closePipeline (a : Assembly) (p : OpenPipeline) : Except ParseError Pipeline :=
  match p.commands with
  | [] => a.fail (.missingValue p.clause.context)
  | _ :: rest =>
    -- into every command but the first a value is piped, which a constant does not take
    match firstConstant? 3 rest with
    | some stage => a.fail (.notExecutable stage)
    | none => .ok ⟨p.declared, p.commands⟩

def usePipeline (a : Assembly) (clause : Clause) (p : Pipeline) : Assembly :=
  match clause with
  | .command | .group => a.add (.action p)
  | .choice kind chained scope => a.enter (.choice kind chained p scope)
  | .range scope => a.enter (.range p scope)
  | .call name => a.add (.call name (some p))
  | .block name => { a.enter (.block name p a.known) with known := [] }

def beginsTerm (t : Token) : Bool :=
  match t.kind with
  | .bool | .character | .dot | .field | .identifier | .number | .rawString | .string | .variable
  | .openParen | .keyword .nothing => true
  | _ => false

def useVariable (a : Assembly) (name : String) : Except ParseError Term :=
  if name = "$" ∨ name ∈ a.known then .ok (.variable name [])
  else a.fail (.undefinedVariable name)

def fieldName (source : List Char) : String := String.ofList (source.drop 1)

def term (a : Assembly) (t : Token) : Except ParseError Term :=
  match t.kind with
  | .bool => .ok (.bool (t.source = ['t', 'r', 'u', 'e']))
  | .character =>
    match characterLiteral? t.source with
    | some n => .ok (.number (.natural n) t.shown)
    | none => a.fail .badCharacter
  | .number =>
    match Number.ofLiteral? t.source with
    | some n => .ok (.number n t.shown)
    | none => a.fail .notANumber
  | .string | .rawString =>
    match stringLiteral? t.source with
    | some s => .ok (.text s t.shown)
    | none => a.fail (.badText t.shown)
  | .identifier =>
    match Function.ofName? t.shown with
    | some f => .ok (.function f)
    | none => a.fail (.undefinedFunction t.shown)
  | .variable => a.useVariable t.shown
  | .field => .ok (.field (fieldName t.source) [])
  | .keyword .nothing => .ok .nothing
  | _ => .ok .dot

def beginTerm (a : Assembly) (p : OpenPipeline) (outer : List OpenPipeline) (t : Token) :
    Except ParseError Assembly :=
  if t.kind = .openParen then .ok { a with mode := .pipeline { clause := .group } (p :: outer) }
  else do
    let u ← a.term t
    .ok { a with mode := .pipeline { p with progress := .term u } outer }

/-- Ends the innermost pipeline at a closing delimiter or parenthesis. -/
def endPipeline (a : Assembly) (p : OpenPipeline) (outer : List OpenPipeline) (t : Token) :
    Except ParseError Assembly := do
  let whole ← a.closePipeline p
  match outer with
  | q :: outer =>
    if t.kind = .closeParen then
      .ok { a with
        mode := .pipeline { q with progress := .term (.group whole.declared whole.commands) } outer }
    else a.fail (.unclosedParen t.shown)
  | [] =>
    let b := a.usePipeline p.clause whole
    -- a parenthesis that nothing has opened is taken for content
    if t.kind = .closeParen then b.content t else .ok b

def afterTerm (a : Assembly) (p : OpenPipeline) (outer : List OpenPipeline) (t : Token) :
    Except ParseError Assembly :=
  match t.kind with
  | .space => .ok { a with mode := .pipeline { p with progress := .gap } outer }
  | .failure => a.fail (.token t.shown)
  | .pipe => .ok { a with mode := .pipeline p.endCommand outer }
  | .closeDelimiter | .closeParen => a.endPipeline p.endCommand outer t
  | _ => a.fail (.unexpected t.shown "operand")

def beforeCommand (a : Assembly) (p : OpenPipeline) (outer : List OpenPipeline) (t : Token) :
    Except ParseError Assembly :=
  match t.kind with
  | .space => .ok { a with mode := .pipeline p outer }
  | .closeDelimiter | .closeParen => a.endPipeline p outer t
  | _ =>
    if beginsTerm t then a.beginTerm p outer t else a.fail (.unexpected t.shown p.clause.context)

def afterTermDirectly (a : Assembly) (p : OpenPipeline) (outer : List OpenPipeline) (u : Term)
    (t : Token) : Except ParseError Assembly :=
  if t.kind = .field then
    if u.isConstant then a.fail (.fieldOfConstant u.shown)
    else
      .ok { a with
        mode := .pipeline { p with progress := .term (u.withField (fieldName t.source)) } outer }
  else a.afterTerm { p with terms := p.terms ++ [u] } outer t

def inGap (a : Assembly) (p : OpenPipeline) (outer : List OpenPipeline) (t : Token) :
    Except ParseError Assembly :=
  if beginsTerm t then a.beginTerm p outer t else a.afterTerm p outer t

def declaresTwo (p : OpenPipeline) : Bool :=
  match p.clause with
  | .range _ => p.declared.length < 1
  | _ => false

/-- A token after a variable at the beginning of a pipeline: the variable is declared or used.  One
that is used and not known is reported on its own line. -/
def afterVariable (a : Assembly) (p : OpenPipeline) (outer : List OpenPipeline) (name : String)
    (line : Nat) (spaced : Bool) (t : Token) : Except ParseError Assembly :=
  let declaring := { a with known := a.known ++ [name] }
  let declared := { p with declared := p.declared ++ [name] }
  if t.kind = .space then
    .ok { a with mode := .pipeline { p with progress := .variable name line true } outer }
  else if t.kind = .assign then
    .ok { declaring with mode := .pipeline { declared with progress := .command } outer }
  else if t.kind = .mark ∧ t.source = [','] then
    if declaresTwo p then
      .ok { declaring with mode := .pipeline { declared with progress := .opening } outer }
    else a.fail (.tooManyDeclarations p.clause.context)
  else do
    -- the variable is used: it is the first term
    let u ← { a with line }.useVariable name
    if spaced then a.inGap { p with terms := [u] } outer t
    else a.afterTermDirectly p outer u t

def inPipeline (a : Assembly) (p : OpenPipeline) (outer : List OpenPipeline) (t : Token) :
    Except ParseError Assembly :=
  match p.progress with
  | .opening =>
    if t.kind = .variable then
      .ok { a with mode := .pipeline { p with progress := .variable t.shown t.line false } outer }
    else a.beforeCommand p outer t
  | .variable name line spaced => a.afterVariable p outer name line spaced t
  | .command => a.beforeCommand p outer t
  | .term u => a.afterTermDirectly p outer u t
  | .gap => a.inGap p outer t

def beginPipeline (a : Assembly) (clause : Clause) (t : Token) : Except ParseError Assembly :=
  a.inPipeline { clause } [] t

def readName (a : Assembly) (context : String) (t : Token) : Except ParseError String :=
  if t.kind = .string ∨ t.kind = .rawString then
    match stringLiteral? t.source with
    | some s => .ok s
    | none => .error (.badName t.shown)
  else a.fail (.unexpected t.shown context)

def action (a : Assembly) (t : Token) : Except ParseError Assembly :=
  match t.kind with
  | .keyword .block => .ok { a with mode := .blockName }
  | .keyword .otherwise => .ok { a with mode := .otherwise }
  | .keyword .finish => .ok { a with mode := .finish }
  | .keyword .condition => .ok (a.readPipeline (.choice .condition false a.known))
  | .keyword .range => .ok (a.readPipeline (.range a.known))
  | .keyword .template => .ok { a with mode := .callName }
  | .keyword .scope => .ok (a.readPipeline (.choice .scope false a.known))
  | .keyword .define =>
    if a.outer = [] then .ok { a with mode := .definitionName } else a.beginPipeline .command t
  | _ => a.beginPipeline .command t

def otherwise (a : Assembly) (t : Token) : Except ParseError Assembly :=
  if t.kind = .closeDelimiter then a.turn
  else if t.kind = .keyword .condition then do
    let b ← a.turn
    if a.chains then .ok (b.readPipeline (.choice .condition true b.known)) else b.content t
  else a.fail (.unexpected t.shown "else")

/-- Takes a token that is no white space, or one inside a pipeline or content. -/
def take (a : Assembly) (t : Token) : Except ParseError Assembly :=
  match a.mode with
  | .content => a.content t
  | .action => a.action t
  | .otherwise => a.otherwise t
  | .finish =>
    if t.kind = .closeDelimiter then a.leave a.outer else a.fail (.unexpected t.shown "end")
  | .definitionName => do
    let name ← a.readName "define clause" t
    .ok { a with mode := .definitionEnd name }
  | .definitionEnd name =>
    if t.kind = .closeDelimiter then
      .ok { a.enter (.definition name a.known) with known := [] }
    else a.fail (.unexpected t.shown "define end")
  | .blockName => do
    let name ← a.readName "block clause" t
    .ok (a.readPipeline (.block name))
  | .callName =>
    if t.kind = .openParen then .error .computedName
    else do
      let name ← a.readName "template clause" t
      .ok { a with mode := .callEnd name }
  | .callEnd name =>
    if t.kind = .closeDelimiter then .ok (a.add (.call name none))
    else a.beginPipeline (.call name) t
  | .pipeline p outer => a.inPipeline p outer t
  | .done => .ok a

/-- Whether white space says something where the machine stands. -/
def minds (a : Assembly) : Bool :=
  match a.mode with
  | .content | .pipeline .. | .done => true
  | _ => false

def step (a : Assembly) (t : Token) : Except ParseError Assembly :=
  let b := { a with line := t.line }
  if t.kind = .space ∧ !b.minds then .ok b else b.take t

def run (a : Assembly) (ts : List Token) : Except ParseError Assembly := ts.foldlM step a

theorem run_nil (a : Assembly) : a.run [] = .ok a := rfl

theorem run_cons (a : Assembly) (t : Token) (ts : List Token) :
    a.run (t :: ts) = (a.step t).bind fun b => b.run ts := rfl

theorem run_append (a : Assembly) (ts us : List Token) :
    a.run (ts ++ us) = (a.run ts).bind fun b => b.run us := by
  induction ts generalizing a with
  | nil => rfl
  | cons t ts ih =>
    simp only [List.cons_append, run_cons]
    cases a.step t with
    | error e => rfl
    | ok b => exact ih b

end Assembly

def parse (template : String) : Except ParseError Library :=
  ((Assembly.run {} (tokens template)).map Assembly.library)

end Provision.Template
