import Provision.Decoding.Mismatch

namespace Provision.Yaml

/-!
# Characters and marks of YAML documents

A mark counts the characters, the lines and the characters of the line before it.  A line ends at a
line feed, a carriage return, both in that order, or one of three characters of Unicode.
-/

/-- A position in a document, counted from zero. -/
structure Mark where
  index : Nat
  line : Nat
  column : Nat
  deriving DecidableEq, Repr, Inhabited

namespace Mark

def start : Mark := ⟨0, 0, 0⟩

def next (m : Mark) : Mark := ⟨m.index + 1, m.line, m.column + 1⟩

def skip (m : Mark) (n : Nat) : Mark := ⟨m.index + n, m.line, m.column + n⟩

def nextLine (m : Mark) (width : Nat) : Mark := ⟨m.index + width, m.line + 1, 0⟩

/-- The place that messages show: it counts from one. -/
def place (m : Mark) : Place := ⟨m.line + 1, m.column + 1⟩

end Mark

structure Cursor where
  mark : Mark
  rest : List Char
  deriving Repr, Inhabited

def isAllowed (c : Char) : Bool :=
  let n := c.toNat
  n = 0x9 || n = 0xA || n = 0xD || (0x20 ≤ n && n ≤ 0x7E) || n = 0x85 ||
    (0xA0 ≤ n && n ≤ 0xFFFD) || 0x10000 ≤ n

def isBreak (c : Char) : Bool :=
  c = '\n' || c = '\r' || c = '\u0085' || c = '\u2028' || c = '\u2029'

/-- The character that an end of line stands for: a line feed, unless it separates lines or
paragraphs by name. -/
def breakText (c : Char) : Char := if c = '\u2028' ∨ c = '\u2029' then c else '\n'

def isBlank (c : Char) : Bool := c = ' ' || c = '\t'

/-- Whether a line or a blank begins here, or the document ends. -/
def atBlank : List Char → Bool
  | [] => true
  | c :: _ => isBlank c || isBreak c

def atBreak : List Char → Bool
  | [] => true
  | c :: _ => isBreak c

/-- Whether a character may stand in names of anchors, directives and tag handles. -/
def isWord (c : Char) : Bool := c.isAlphanum || c = '_' || c = '-'

/-- Whether a character begins or ends a collection in brackets, or separates its items. -/
def isFlowIndicator (c : Char) : Bool := c = ',' || c = '[' || c = ']' || c = '\x7b' || c = '\x7d'

def atTriple (c : Char) : List Char → Bool
  | a :: b :: d :: rest => a = c && b = c && d = c && atBlank rest
  | _ => false

def atDocumentLine (m : Mark) (cs : List Char) : Bool :=
  m.column = 0 && (atTriple '-' cs || atTriple '.' cs)

namespace Cursor

def next : Cursor → Cursor
  | ⟨m, []⟩ => ⟨m, []⟩
  | ⟨m, _ :: rest⟩ => ⟨m.next, rest⟩

def nextLine : Cursor → Cursor
  | ⟨m, '\r' :: '\n' :: rest⟩ => ⟨m.nextLine 2, rest⟩
  | ⟨m, c :: rest⟩ => if isBreak c then ⟨m.nextLine 1, rest⟩ else ⟨m, c :: rest⟩
  | ⟨m, []⟩ => ⟨m, []⟩

def takeWhile (p : Char → Bool) (k : Cursor) : List Char × Cursor :=
  let taken := k.rest.takeWhile p
  (taken, ⟨k.mark.skip taken.length, k.rest.dropWhile p⟩)

def skipBlanks (k : Cursor) : Cursor := (k.takeWhile isBlank).2

def skipComment (k : Cursor) : Cursor :=
  if k.rest.head? = some '#' then (k.takeWhile fun c => !isBreak c).2 else k

end Cursor

end Provision.Yaml
