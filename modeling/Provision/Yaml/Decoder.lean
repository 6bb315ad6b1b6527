import Provision.Yaml.Fault
import Provision.Yaml.Meaning
import Provision.Yaml.Node

namespace Provision.Yaml

/-!
# Decoders of YAML nodes

A decoder expects a node of one form, at the end of a path.  Aliases stand for the nodes that they
name; how often they are followed is bounded by the size of the document.
-/

/-- A step of decoding: it knows the root, and counts the aliases that have been followed. -/
abbrev Decoding (α : Type) : Type := ReaderT Node (StateT Nat (Except Failure)) α

abbrev Decoder (α : Type) : Type := Path → Node → Decoding α

namespace Decoder

/-- How often aliases may be followed, for each event that shows the document. -/
def aliasesPerEvent : Nat := 100

def follow : Node → Decoding Node
  | .reference _ number => do
    let root ← read
    modify (· + 1)
    if root.size * aliasesPerEvent < (← get) then throw .tooManyAliases
    match Document.target? root number with
    | some target => return target
    -- an alias that names no anchor has been refused with the document
    | none => throw (.broken [])
  | node => return node

def fail {α : Type} (m : Mismatch) : Decoding α := throw (.mismatch m none)

/-- Gives a mismatch without a spot the one of a node. -/
def located {α : Type} (path : Path) (node : Node) (d : Decoding α) : Decoding α :=
  tryCatch d fun failure => throw (failure.locate path node.mark.place)

def mismatch (expected : String) : Node → Mismatch
  | .scalar _ _ tag style text => Meaning.mismatch tag style text expected
  | .list .. => .wrongType .list expected
  | _ => .wrongType .object expected

def reject {α : Type} (expected : String) (path : Path) (node : Node) : Decoding α :=
  located path node (fail (mismatch expected node))

def named (expected : String) : Decoder String := fun path node => do
  match ← follow node with
  | .scalar _ _ _ _ text => return String.ofList text
  | node => reject expected path node

def string : Decoder String := named "a string"

/-- Reads a truth value: it is written plainly, or it is tagged and a block of its own. -/
def bool : Decoder Bool := fun path node => do
  match ← follow node with
  | .scalar mark anchor tag style text =>
    let mayBe := style = .plain ∨
      (style = .literal ∧ tag.bind Meaning.TypeTag.ofTag? = some .bool)
    match if mayBe then Meaning.bool? text else none with
    | some b => return b
    | none => reject "a boolean" path (.scalar mark anchor tag style text)
  | node => reject "a boolean" path node

/-- Reads what may be absent: a null or nothing at all. -/
def optional {α : Type} (value : Decoder α) : Decoder (Option α) := fun path node => do
  match ← follow node with
  | .scalar mark anchor tag .plain text =>
    let absent ← match tag with
      | none => pure (text = [] || Meaning.isNull text)
      | some tag =>
        if Meaning.TypeTag.ofTag? tag = some .null then
          if Meaning.isNull text then pure true
          else fail (.wrongValue (.text (String.ofList text)) Meaning.TypeTag.null.description)
        else pure false
    if absent then return none
    else return some (← value path (.scalar mark anchor tag .plain text))
  | node => return some (← value path node)

def items {α : Type} (item : Decoder α) (path : Path) : Nat → List Node → Decoding (List α)
  | _, [] => return []
  | n, node :: rest => do
    let a ← item (.index n :: path) node
    return a :: (← items item path (n + 1) rest)

/-- Reads a list; where nothing is written it is empty. -/
def list {α : Type} (item : Decoder α) : Decoder (List α) := fun path node => do
  match ← follow node with
  | .list mark anchor nodes => located path (.list mark anchor nodes) (items item path 0 nodes)
  | .scalar _ _ _ .plain [] => return []
  | node => reject "a sequence" path node

def stepTo : Node → Step
  | .scalar _ _ _ _ name => .key name
  | _ => .unknown

/-- Reads the fields of a record, each of which goes into what is known of them. -/
def fields {σ : Type} (field : String → σ → Decoder σ) (path : Path) :
    σ → List (Node × Node) → Decoding σ
  | s, [] => return s
  | s, (key, value) :: rest => do
    let name ← named "field identifier" path key
    fields field path (← field name s (stepTo key :: path) value) rest

/-- Reads a record of some kind: its fields, and what they make up.  Where nothing is written there
are no fields. -/
def record {α σ : Type} (kind : String) (field : String → σ → Decoder σ) (start : σ)
    (finish : σ → Decoding α) : Decoder α := fun path node => do
  match ← follow node with
  | .map mark anchor entries =>
    located path (.map mark anchor entries) do finish (← fields field path start entries)
  | .scalar mark anchor tag .plain [] =>
    located path (.scalar mark anchor tag .plain []) (finish start)
  | node => reject ("struct " ++ kind) path node

def once {α : Type} (name : String) (before : Option α) (value : Decoder α) :
    Decoder (Option α) := fun path node => do
  if before.isSome then fail (.repeated name)
  return some (← value path node)

def ignored {σ : Type} (s : σ) : Decoder σ := fun _ _ => return s

/-- Reads the only document of a text; an empty stream stands for nothing. -/
def document {α : Type} (decoder : Decoder α) (text : List Char) : Except Failure (Option α) :=
  match Document.ofText? text with
  | none => .error (.broken text)
  | some ⟨none, _⟩ => .ok none
  | some ⟨some root, alone⟩ => do
    let (a, _) ← ((optional decoder [] root).run root).run 0
    if alone then .ok a else .error .severalDocuments

end Decoder

end Provision.Yaml
