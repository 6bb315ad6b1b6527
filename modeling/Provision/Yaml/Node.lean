import Provision.Yaml.Scanner

namespace Provision.Yaml

/-!
# From tokens to nodes

A document is a tree of nodes.  A node with an anchor can be named by aliases elsewhere in the
document; the tree keeps the alias.  `Document.ofTokens?` reads the first document of a stream.
-/

/-- A node, with the mark at which it starts and the number of its anchor. -/
inductive Node where
  | scalar (mark : Mark) (anchor : Option Nat) (tag : Option (List Char)) (style : Style)
      (text : List Char)
  | list (mark : Mark) (anchor : Option Nat) (items : List Node)
  | map (mark : Mark) (anchor : Option Nat) (entries : List (Node × Node))
  | reference (mark : Mark) (number : Nat)
  deriving Repr, Inhabited

namespace Node

mutual

/-- Written out because it is not derived for nodes that are nested in lists of pairs. -/
def decEq : (n n' : Node) → Decidable (n = n')
  | scalar m anchor tag style text, scalar m' anchor' tag' style' text' =>
    decidable_of_iff (m = m' ∧ anchor = anchor' ∧ tag = tag' ∧ style = style' ∧ text = text')
      (by simp)
  | list m anchor items, list m' anchor' items' =>
    have := decEqItems items items'
    decidable_of_iff (m = m' ∧ anchor = anchor' ∧ items = items') (by simp)
  | map m anchor entries, map m' anchor' entries' =>
    have := decEqEntries entries entries'
    decidable_of_iff (m = m' ∧ anchor = anchor' ∧ entries = entries') (by simp)
  | reference m number, reference m' number' =>
    decidable_of_iff (m = m' ∧ number = number') (by simp)
  | scalar .., list .. | scalar .., map .. | scalar .., reference .. => isFalse nofun
  | list .., scalar .. | list .., map .. | list .., reference .. => isFalse nofun
  | map .., scalar .. | map .., list .. | map .., reference .. => isFalse nofun
  | reference .., scalar .. | reference .., list .. | reference .., map .. => isFalse nofun

def decEqItems : (items items' : List Node) → Decidable (items = items')
  | [], [] => isTrue rfl
  | n :: rest, n' :: rest' =>
    have := decEq n n'
    have := decEqItems rest rest'
    decidable_of_iff (n = n' ∧ rest = rest') (by simp)
  | [], _ :: _ | _ :: _, [] => isFalse nofun

def decEqEntries : (entries entries' : List (Node × Node)) → Decidable (entries = entries')
  | [], [] => isTrue rfl
  | (k, v) :: rest, (k', v') :: rest' =>
    have := decEq k k'
    have := decEq v v'
    have := decEqEntries rest rest'
    decidable_of_iff (k = k' ∧ v = v' ∧ rest = rest') (by simp [and_assoc])
  | [], _ :: _ | _ :: _, [] => isFalse nofun

end

instance : DecidableEq Node := decEq

def mark : Node → Mark
  | scalar m .. => m
  | list m .. => m
  | map m .. => m
  | reference m _ => m

mutual

/-- How many events show a node: a collection has one at either end. -/
def size : Node → Nat
  | scalar .. => 1
  | list _ _ items => sizeItems items + 2
  | map _ _ entries => sizeEntries entries + 2
  | reference .. => 1

def sizeItems : List Node → Nat
  | [] => 0
  | n :: rest => size n + sizeItems rest

def sizeEntries : List (Node × Node) → Nat
  | [] => 0
  | (k, v) :: rest => size k + size v + sizeEntries rest

end

mutual

def anchored : Node → List (Nat × Node)
  | scalar m anchor tag style text => (anchor.map (·, scalar m anchor tag style text)).toList
  | list m anchor items => (anchor.map (·, list m anchor items)).toList ++ anchoredItems items
  | map m anchor entries => (anchor.map (·, map m anchor entries)).toList ++ anchoredEntries entries
  | reference .. => []

def anchoredItems : List Node → List (Nat × Node)
  | [] => []
  | n :: rest => anchored n ++ anchoredItems rest

def anchoredEntries : List (Node × Node) → List (Nat × Node)
  | [] => []
  | (k, v) :: rest => anchored k ++ anchored v ++ anchoredEntries rest

end

def blank (m : Mark) : Node := scalar m none none .plain []

end Node

/-- The tokens that are still to be read, and the numbers of the anchors so far. -/
structure Stream where
  tokens : List Token
  anchors : List (List Char × Nat)

abbrev Reading (α : Type) : Type := StateT Stream Option α

namespace Reading

def peek : Reading Token := fun s =>
  match s.tokens with
  | [] => none
  | t :: _ => if t.kind = .broken then none else some (t, s)

def skip : Reading Unit := fun s => some ((), { s with tokens := s.tokens.drop 1 })

/-- Numbers an anchor, by the names before it; an anchor of the same name is forgotten. -/
def number (name : List Char) : Reading Nat := fun s =>
  let n := s.anchors.length
  some (n, { s with anchors := (name, n) :: s.anchors.filter fun a => a.1 ≠ name })

def numberOf (name : List Char) : Reading Nat := fun s =>
  (s.anchors.find? fun a => a.1 = name).map fun a => (a.2, s)

def anchor? : Reading (Option (List Char)) := do
  match (← peek).kind with
  | .anchor name =>
    skip
    return some name
  | _ => return none

def tag? (heads : List (List Char × List Char)) : Reading (Option (List Char)) := do
  match (← peek).kind with
  | .tag handle suffix =>
    skip
    if handle = [] then return some suffix
    match heads.find? fun h => h.1 = handle with
    | some (_, head) => return some (head ++ suffix)
    | none => failure
  | _ => return none

def properties (heads : List (List Char × List Char)) :
    Reading (Option (List Char) × Option (List Char)) := do
  match ← anchor? with
  | some name => return (some name, ← tag? heads)
  | none =>
    match ← tag? heads with
    | some tag => return (← anchor?, some tag)
    | none => return (none, none)

/-- The tag of a scalar; one that asks for no particular type is left out. -/
def scalarTag (tag : Option (List Char)) : Option (List Char) :=
  if tag = some ['!'] then none else tag

mutual

/-- Reads a node; `block` tells whether it may be a block, and `indentless` whether the items of a
list may begin without one. -/
def node (heads : List (List Char × List Char)) : Nat → Bool → Bool → Reading Node
  | 0, _, _ => failure
  | fuel + 1, block, indentless => do
    let first ← peek
    match first.kind with
    | .reference name =>
      skip
      return .reference first.start (← numberOf name)
    | _ =>
      let (name, tag) ← properties heads
      let anchor ← name.mapM number
      let t ← peek
      match t.kind with
      | .scalar style text =>
        skip
        return .scalar first.start anchor (scalarTag tag) style text
      | .flowListStart =>
        skip
        return .list first.start anchor (← flowItems heads fuel true)
      | .flowMapStart =>
        skip
        return .map first.start anchor (← flowEntries heads fuel true)
      | kind =>
        if kind = .blockEntry ∧ indentless then
          return .list first.start anchor (← blockItems heads fuel false)
        else if kind = .blockListStart ∧ block then
          skip
          return .list first.start anchor (← blockItems heads fuel true)
        else if kind = .blockMapStart ∧ block then
          skip
          return .map first.start anchor (← blockEntries heads fuel)
        -- an anchor or a tag by itself has an empty text
        else if name.isSome || tag.isSome then
          return .scalar first.start anchor tag .plain []
        else failure

/-- Reads the items of a list in a block.  A list without a block of its own ends where no further
item begins. -/
def blockItems (heads : List (List Char × List Char)) : Nat → Bool → Reading (List Node)
  | 0, _ => failure
  | fuel + 1, indented => do
    let t ← peek
    match t.kind with
    | .blockEntry =>
      skip
      let next ← peek
      -- an item is empty where the next one begins, or where the list has ended
      let empty := next.kind = .blockEntry ∨ next.kind = .blockEnd ∨
        (!indented ∧ (next.kind = .key ∨ next.kind = .value))
      let item ← if empty then pure (.blank t.stop) else node heads fuel true false
      return item :: (← blockItems heads fuel indented)
    | .blockEnd =>
      if indented then skip
      return []
    | _ => if indented then failure else return []

def blockPart (heads : List (List Char × List Char)) : Nat → Mark → Reading Node
  | 0, _ => failure
  | fuel + 1, behind => do
    let next ← peek
    if next.kind = .key ∨ next.kind = .value ∨ next.kind = .blockEnd then return .blank behind
    else node heads fuel true true

def blockEntries (heads : List (List Char × List Char)) : Nat → Reading (List (Node × Node))
  | 0 => failure
  | fuel + 1 => do
    let t ← peek
    match t.kind with
    | .blockEnd =>
      skip
      return []
    | .key =>
      skip
      let key ← blockPart heads fuel t.stop
      let u ← peek
      let value ←
        if u.kind = .value then do
          skip
          blockPart heads fuel u.stop
        else pure (.blank u.start)
      return (key, value) :: (← blockEntries heads fuel)
    | _ => failure

def flowItems (heads : List (List Char × List Char)) : Nat → Bool → Reading (List Node)
  | 0, _ => failure
  | fuel + 1, first => do
    if (← peek).kind ≠ .flowListEnd ∧ !first then
      if (← peek).kind = .flowEntry then skip else failure
    let t ← peek
    match t.kind with
    | .flowListEnd =>
      skip
      return []
    | .key =>
      skip
      let entry ← flowPair heads fuel
      return .map t.start none [entry] :: (← flowItems heads fuel false)
    | _ =>
      let item ← node heads fuel false false
      return item :: (← flowItems heads fuel false)

/-- Reads a key and a value that make up an item of a list in brackets.  What stands in place of the
key is passed over. -/
def flowPair (heads : List (List Char × List Char)) : Nat → Reading (Node × Node)
  | 0 => failure
  | fuel + 1 => do
    let t ← peek
    let key ←
      if t.kind = .value ∨ t.kind = .flowEntry ∨ t.kind = .flowListEnd then do
        skip
        pure (.blank t.stop)
      else node heads fuel false false
    return (key, ← flowValue heads fuel .flowListEnd)

def flowValue (heads : List (List Char × List Char)) : Nat → TokenKind → Reading Node
  | 0, _ => failure
  | fuel + 1, close => do
    if (← peek).kind = .value then
      skip
      let u ← peek
      if u.kind = .flowEntry ∨ u.kind = close then return .blank u.start
      else node heads fuel false false
    else return .blank (← peek).start

def flowEntries (heads : List (List Char × List Char)) : Nat → Bool → Reading (List (Node × Node))
  | 0, _ => failure
  | fuel + 1, first => do
    if (← peek).kind ≠ .flowMapEnd ∧ !first then
      if (← peek).kind = .flowEntry then skip else failure
    match (← peek).kind with
    | .flowMapEnd =>
      skip
      return []
    | .key =>
      skip
      let u ← peek
      let key ←
        if u.kind = .value ∨ u.kind = .flowEntry ∨ u.kind = .flowMapEnd then pure (.blank u.start)
        else node heads fuel false false
      let value ← flowValue heads fuel .flowMapEnd
      return (key, value) :: (← flowEntries heads fuel false)
    | _ =>
      let key ← node heads fuel false false
      let value := .blank (← peek).start
      return (key, value) :: (← flowEntries heads fuel false)

end

/-- Reads the directives before a document: whether its version is given, and the heads of tags. -/
def directives : Nat → Bool → List (List Char × List Char) → Reading (List (List Char × List Char))
  | 0, _, _ => failure
  | fuel + 1, hasVersion, heads => do
    match (← peek).kind with
    | .version major minor =>
      if hasVersion || major ≠ 1 || (minor ≠ 1 && minor ≠ 2) then failure
      skip
      directives fuel true heads
    | .tagDirective handle head =>
      if heads.any fun h => h.1 = handle then failure
      skip
      directives fuel hasVersion (heads ++ [(handle, head)])
    | _ => return heads

def knownHeads : List (List Char × List Char) :=
  [(['!'], ['!']), (['!', '!'], "tag:yaml.org,2002:".toList)]

end Reading

structure Document where
  /-- The document, unless the stream is empty. -/
  root : Option Node
  /-- Whether no other document follows. -/
  alone : Bool
  deriving DecidableEq

namespace Document

/-- Reads the content of a document, which may be missing, with the line that ends it. -/
def content (heads : List (List Char × List Char)) (fuel : Nat) (mayBeMissing : Bool) :
    Reading Node := do
  let t ← Reading.peek
  let missing := match t.kind with
    | .version .. => true
    | .tagDirective .. => true
    | .documentStart => true
    | .documentEnd => true
    | .streamEnd => true
    | _ => false
  let root ←
    if mayBeMissing && missing then pure (.blank t.start)
    else Reading.node heads fuel true false
  if (← Reading.peek).kind = .documentEnd then Reading.skip
  return root

/-- Reads the first document.  One with directives has a line that begins it. -/
def first (fuel : Nat) : Reading (Option Node) := do
  let t ← Reading.peek
  if t.kind = .streamEnd then return none
  let heads ← Reading.directives fuel false []
  let u ← Reading.peek
  let marked := u.kind = .documentStart
  if marked then Reading.skip
  -- directives without a line that begins the document are refused
  else if t ≠ u then failure
  return some (← content (heads ++ Reading.knownHeads) fuel marked)

/-- The first document of a stream of tokens, if they make one up.  Every other step of reading
nodes takes a token. -/
def ofTokens? (tokens : List Token) : Option Document := do
  let fuel := 2 * tokens.length + 2
  let (root, s) ← (first fuel).run ⟨tokens, []⟩
  let more := s.tokens.dropWhile fun t => t.kind = .documentEnd
  some ⟨root, root.isNone || more.head?.any fun t => t.kind = .streamEnd⟩

def ofText? (text : List Char) : Option Document := ofTokens? (tokens text)

/-- The node that aliases with a number stand for: the last one that has it. -/
def target? (root : Node) (number : Nat) : Option Node :=
  (root.anchored.reverse.find? fun a => a.1 = number).map Prod.snd

end Document

end Provision.Yaml
