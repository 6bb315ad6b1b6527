import Provision.Yaml.Scalar

namespace Provision.Yaml

/-!
# Tokens of YAML documents

Tokens show the structure of blocks, which the text shows by indentation.  `broken` stands for a
place from which on the text is not YAML.
-/

inductive TokenKind where
  | streamEnd
  | broken
  | version (major minor : Nat)
  | tagDirective (handle head : List Char)
  | documentStart
  | documentEnd
  | blockListStart
  | blockMapStart
  | blockEnd
  | flowListStart
  | flowListEnd
  | flowMapStart
  | flowMapEnd
  | blockEntry
  | flowEntry
  | key
  | value
  | reference (name : List Char)
  | anchor (name : List Char)
  | tag (handle suffix : List Char)
  | scalar (style : Style) (text : List Char)
  deriving DecidableEq, Repr, Inhabited

structure Token where
  kind : TokenKind
  start : Mark
  stop : Mark
  deriving DecidableEq, Repr, Inhabited

namespace TokenKind

def scanAnchorName (k : Cursor) : Option (List Char × Cursor) :=
  let (name, k) := k.takeWhile isWord
  let ends := atBlank k.rest || k.rest.head?.any fun c =>
    c = '?' || c = ':' || c = ',' || c = ']' || c = '\x7d' || c = '%' || c = '@' || c = '\x60'
  if name = [] || !ends then none else some (name, k)

/-- How many bytes an encoded character has, by its first. -/
def encodedWidth (octet : Nat) : Nat :=
  if octet < 0x80 then 1
  else if octet < 0xC0 then 0
  else if octet < 0xE0 then 2
  else if octet < 0xF0 then 3
  else if octet < 0xF8 then 4
  else 0

def escapedOctet? : List Char → Option Nat
  | '%' :: a :: b :: _ => do some ((← hexValue? a) * 16 + (← hexValue? b))
  | _ => none

/-- Whether a character may stand in a tag; some may only between angle brackets. -/
def isTagChar (verbatim : Bool) (c : Char) : Bool :=
  isWord c || c ∈ [';', '/', '?', ':', '@', '&', '=', '+', '$', '.', '%', '!', '~', '*', '\'', '(',
    ')'] || (verbatim && (c = ',' || c = '[' || c = ']'))

/-- Scans the characters of a tag.  `pending` octets of an encoded character are still to come.  An
octet stands for its character; those of a longer code are kept as they are written. -/
def scanTagChars (verbatim : Bool) (pending : Nat) (m : Mark) :
    List Char → Option (List Char × Cursor)
  | '%' :: a :: b :: rest => do
    let octet := (← hexValue? a) * 16 + (← hexValue? b)
    let left ←
      if pending = 0 then
        if encodedWidth octet = 0 then none else some (encodedWidth octet - 1)
      else if 0x80 ≤ octet ∧ octet < 0xC0 then some (pending - 1)
      else none
    let (text, k) ← scanTagChars verbatim left (m.skip 3) rest
    some ((if octet < 0x80 then [Char.ofNat octet] else ['%', a, b]) ++ text, k)
  | c :: rest =>
    if pending ≠ 0 || c = '%' then none
    else if isTagChar verbatim c then do
      let (text, k) ← scanTagChars verbatim 0 m.next rest
      some (c :: text, k)
    else some ([], ⟨m, c :: rest⟩)
  | [] => if pending = 0 then some ([], ⟨m, []⟩) else none

/-- Scans a tag handle: an exclamation mark, and perhaps a word and another one. -/
def scanHandle (k : Cursor) : Option (List Char × Cursor) :=
  if k.rest.head? ≠ some '!' then none
  else
    let (name, k) := k.next.takeWhile isWord
    if k.rest.head? = some '!' then some ('!' :: (name ++ ['!']), k.next)
    else some ('!' :: name, k)

def scanTag (flow : Bool) (k : Cursor) : Option (TokenKind × Cursor) := do
  let (handle, suffix, k) ←
    match k.rest with
    | '!' :: '<' :: _ => do
      let (suffix, k) ← scanTagChars true 0 k.next.next.mark k.next.next.rest
      if suffix = [] ∨ k.rest.head? ≠ some '>' then none else some ([], suffix, k.next)
    | _ => do
      let (handle, k) ← scanHandle k
      let (suffix, k) ← scanTagChars false 0 k.mark k.rest
      if 2 ≤ handle.length ∧ handle.getLast? = some '!' then
        if suffix = [] then none else some (handle, suffix, k)
      else
        let whole := handle.drop 1 ++ suffix
        if whole = [] then some ([], ['!'], k) else some (['!'], whole, k)
  if atBlank k.rest || (flow && k.rest.head? = some ',') then some (tag handle suffix, k) else none

def numberOf (ds : List Char) : Nat := ds.foldl (fun n c => n * 10 + (c.toNat - 48)) 0

/-- Scans one of the numbers of a version; it has at most nine digits. -/
def scanVersionNumber (k : Cursor) : Option (Nat × Cursor) :=
  let (ds, k) := k.takeWhile Char.isDigit
  if ds = [] ∨ 9 < ds.length then none else some (numberOf ds, k)

def scanDirective (k : Cursor) : Option (TokenKind × Cursor) := do
  let (name, k) := k.next.takeWhile isWord
  if name = [] ∨ !atBlank k.rest then none
  let k := k.skipBlanks
  let (kind, k) ←
    if name = "YAML".toList then do
      let (major, k) ← scanVersionNumber k
      if k.rest.head? ≠ some '.' then none
      let (minor, k) ← scanVersionNumber k.next
      some (version major minor, k)
    else if name = "TAG".toList then do
      let (handle, k) ← scanHandle k
      if handle ≠ ['!'] ∧ ¬(2 ≤ handle.length ∧ handle.getLast? = some '!') then none
      if !(k.rest.head?.any isBlank) then none
      let k := k.skipBlanks
      let (head, k) ← scanTagChars true 0 k.mark k.rest
      if head = [] ∨ !atBlank k.rest then none
      some (tagDirective handle head, k)
    else none
  let k := k.skipBlanks.skipComment
  if atBreak k.rest then some (kind, k.nextLine) else none

end TokenKind

end Provision.Yaml
