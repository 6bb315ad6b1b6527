import Provision.Template.Function
import Provision.Text.Blank

namespace Provision.Template

/-!
# The syntax of a template

A template is a library of named lists of nodes; the list with the empty name is the template
itself.  Terms keep their source text where an error message may show it.
-/

inductive Term where
  | dot
  | nothing
  | bool (value : Bool)
  | number (value : Number) (source : String)
  | text (value source : String)
  | function (f : Function)
  | variable (name : String) (fields : List String)
  | field (first : String) (others : List String)
  /-- A pipeline in parentheses. -/
  | group (declared : List String) (commands : List (List Term))
  /-- Fields of the value of a term. -/
  | chain (base : Term) (first : String) (others : List String)
  deriving Repr, Inhabited

namespace Term

/-- Whether a term is a constant or the dot.  Such a term has no fields, and it can begin no command
but the first of a pipeline. -/
def isConstant : Term → Bool
  | .dot | .nothing | .bool _ | .number .. | .text .. => true
  | _ => false

def shown : Term → String
  | .dot => "."
  | .nothing => "nil"
  | .bool b => if b then "true" else "false"
  | .number _ source => source
  | .text _ source => source
  | .function f => f.name
  | .variable name fields => String.join (name :: fields.map ("." ++ ·))
  | .field first others => String.join (("." ++ first) :: others.map ("." ++ ·))
  | .group .. => "()"
  | .chain base first others => String.join (base.shown :: ("." ++ first) :: others.map ("." ++ ·))

def withField (t : Term) (name : String) : Term :=
  match t with
  | .variable v fields => .variable v (fields ++ [name])
  | .field first others => .field first (others ++ [name])
  | .chain base first others => .chain base first (others ++ [name])
  | t => .chain t name []

end Term

/-- Commands whose values are piped from one to the next.  The last value is also that of the
declared variables. -/
structure Pipeline where
  declared : List String
  commands : List (List Term)
  deriving Repr, Inhabited

inductive Choice where
  /-- Renders one of two lists. -/
  | condition
  /-- As a condition, with the value as dot in the first list. -/
  | scope
  deriving DecidableEq, Repr, Inhabited

inductive Node where
  | text (s : List Char)
  | action (p : Pipeline)
  | choice (kind : Choice) (p : Pipeline) (body otherwise : List Node)
  | range (p : Pipeline) (body otherwise : List Node)
  | call (name : String) (p : Option Pipeline)
  deriving Repr, Inhabited

/-- Whether a list of nodes renders nothing but white space, whatever the values. -/
def isBlankTree (nodes : List Node) : Bool :=
  nodes.all fun
    | .text s => s.all Text.isBlank
    | _ => false

structure Library where
  trees : List (String × List Node)
  deriving Repr, Inhabited

namespace Library

def empty : Library := ⟨[]⟩

def get? (l : Library) (name : String) : Option (List Node) := l.trees.lookup name

/-- The library with one more definition; a blank one of the same name gives way to it, any other
does not. -/
def define? (l : Library) (name : String) (nodes : List Node) : Option Library :=
  match l.get? name with
  | none => some ⟨(name, nodes) :: l.trees⟩
  | some old => if isBlankTree old then some ⟨(name, nodes) :: l.trees⟩ else none

end Library

end Provision.Template
