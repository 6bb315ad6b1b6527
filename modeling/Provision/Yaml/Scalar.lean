import Provision.Yaml.Character

namespace Provision.Yaml

/-!
# Texts in YAML documents

A scalar is written plainly, in quotes, or as a block of lines.  Lines of the first two are folded:
an end of line within the text is a space, unless empty lines follow.
-/

inductive Style where
  | plain
  | singleQuoted
  | doubleQuoted
  | literal
  | folded
  deriving DecidableEq, Repr, Inhabited

/-- The blanks and ends of lines since the last other character of a scalar. -/
inductive Gap where
  | none
  /-- Blanks within a line, in reverse order. -/
  | blanks (reversed : List Char)
  /-- The first end of a line, if it counts, and the later ones in reverse order. -/
  | breaks (first : Option Char) (reversed : List Char)
  deriving DecidableEq, Repr

namespace Gap

def hasBreak : Gap → Bool
  | breaks .. => true
  | _ => false

def addBlank : Gap → Char → Gap
  | none, c => blanks [c]
  | blanks cs, c => blanks (c :: cs)
  | breaks first more, _ => breaks first more

def addBreak : Gap → Char → Gap
  | breaks first more, c => breaks first (c :: more)
  | _, c => breaks (some c) []

def text : Gap → List Char
  | none => []
  | blanks cs => cs.reverse
  | breaks first more =>
    if first = some '\n' then (if more = [] then [' '] else more.reverse)
    else first.toList ++ more.reverse

end Gap

/-- Scans a plain scalar.  `flow` tells whether it stands in brackets, and `indent` how far its
further lines have to be indented otherwise.  The answer has the text, whether lines ended behind
it, and where the scan stopped. -/
def scanPlain (flow : Bool) (indent : Nat) (gap : Gap) (m : Mark) :
    List Char → Option (List Char × Bool × Cursor)
  | [] => some ([], gap.hasBreak, ⟨m, []⟩)
  | '\r' :: '\n' :: rest => scanPlain flow indent (gap.addBreak '\n') (m.nextLine 2) rest
  | c :: rest =>
    let indented := flow || indent ≤ m.column
    if isBreak c then scanPlain flow indent (gap.addBreak (breakText c)) (m.nextLine 1) rest
    else if isBlank c then
      -- a further line is not indented by a tab
      if gap.hasBreak && c = '\t' && m.column < indent then none
      else scanPlain flow indent (gap.addBlank c) m.next rest
    -- behind a gap it ends at a line that is not its own, and at a comment
    else if gap ≠ .none ∧ (!indented || atDocumentLine m (c :: rest) || c = '#') then
      some ([], gap.hasBreak, ⟨m, c :: rest⟩)
    else if flow && c = ':' && (rest.head?.any fun d => d = '?' || isFlowIndicator d) then none
    -- it ends at the colon of a key, and in brackets at an indicator
    else if (c = ':' && atBlank rest) || (flow && isFlowIndicator c) then
      some ([], gap.hasBreak, ⟨m, c :: rest⟩)
    else do
      let (text, broken, k) ← scanPlain flow indent .none m.next rest
      some (gap.text ++ c :: text, broken, k)

/-- What an escape in double quotes stands for: a character, or a code of some digits. -/
def escape? (c : Char) : Option (Char ⊕ Nat) :=
  match c with
  | '0' => some (.inl '\x00')
  | 'a' => some (.inl '\x07')
  | 'b' => some (.inl '\x08')
  | 't' => some (.inl '\t')
  | '\t' => some (.inl '\t')
  | 'n' => some (.inl '\n')
  | 'v' => some (.inl '\x0b')
  | 'f' => some (.inl '\x0c')
  | 'r' => some (.inl '\r')
  | 'e' => some (.inl '\x1b')
  | ' ' => some (.inl ' ')
  | '"' => some (.inl '"')
  | '/' => some (.inl '/')
  | '\\' => some (.inl '\\')
  | 'N' => some (.inl '\u0085')
  | '_' => some (.inl '\u00a0')
  | 'L' => some (.inl '\u2028')
  | 'P' => some (.inl '\u2029')
  | 'x' => some (.inr 2)
  | 'u' => some (.inr 4)
  | 'U' => some (.inr 8)
  | _ => none

def hexValue? (c : Char) : Option Nat :=
  if c.isDigit then some (c.toNat - 48)
  else if 'a' ≤ c ∧ c ≤ 'f' then some (c.toNat - 87)
  else if 'A' ≤ c ∧ c ≤ 'F' then some (c.toNat - 55)
  else none

inductive Quoting where
  /-- Behind a gap. -/
  | text (gap : Gap)
  /-- Behind the backslash of an escape. -/
  | opened
  /-- In a code, of which this many digits are missing. -/
  | code (missing value : Nat)
  deriving DecidableEq, Repr

def scanQuoted (single : Bool) (s : Quoting) (m : Mark) :
    List Char → Option (List Char × Cursor)
  | [] => none
  | c :: rest =>
    match s with
    | .code missing value => do
      let value := value * 16 + (← hexValue? c)
      if missing ≤ 1 then
        if value.isValidChar then
          let (text, k) ← scanQuoted single (.text .none) m.next rest
          some (Char.ofNat value :: text, k)
        else none
      else scanQuoted single (.code (missing - 1) value) m.next rest
    | .opened =>
      if c = '\r' ∧ rest.head? = some '\n' then
        scanQuoted single .opened ⟨m.index + 1, m.line, m.column⟩ rest
      -- an escaped end of a line joins the lines without a space
      else if isBreak c then scanQuoted single (.text (.breaks none [])) (m.nextLine 1) rest
      else match escape? c with
        | none => none
        | some (.inl d) => do
          let (text, k) ← scanQuoted single (.text .none) m.next rest
          some (d :: text, k)
        | some (.inr digits) => scanQuoted single (.code digits 0) m.next rest
    | .text gap =>
      if c = '\r' ∧ rest.head? = some '\n' then
        scanQuoted single s ⟨m.index + 1, m.line, m.column⟩ rest
      else if isBreak c then
        scanQuoted single (.text (gap.addBreak (breakText c))) (m.nextLine 1) rest
      else if isBlank c then scanQuoted single (.text (gap.addBlank c)) m.next rest
      -- the document may not end within quotes
      else if gap ≠ .none ∧ atDocumentLine m (c :: rest) then none
      -- a quote within single quotes is written twice
      else if single ∧ c = '\'' ∧ rest.head? = some '\'' then
        match rest with
        | _ :: rest' => do
          let (text, k) ← scanQuoted single (.text .none) (m.skip 2) rest'
          some (gap.text ++ '\'' :: text, k)
        | [] => none
      else if c = (if single then '\'' else '"') then some (gap.text, ⟨m.next, rest⟩)
      else if !single ∧ c = '\\' then do
        let (text, k) ← scanQuoted single .opened m.next rest
        some (gap.text ++ text, k)
      else do
        let (text, k) ← scanQuoted single (.text .none) m.next rest
        some (gap.text ++ c :: text, k)

/-- What becomes of the ends of lines at the end of a block. -/
inductive Chomping where
  | strip
  | clip
  | keep
  deriving DecidableEq, Repr

structure Block where
  literal : Bool
  chomping : Chomping
  /-- How far the lines are indented, once it is known. -/
  indent : Option Nat
  /-- How far they are indented at least. -/
  least : Nat
  /-- The largest indentation of an empty line so far. -/
  widest : Nat
  /-- The end of the last line that is not empty. -/
  leading : Option Char
  /-- The ends of the empty lines after it, in reverse order. -/
  trailing : List Char
  /-- Whether that line begins with a blank. -/
  leadingBlank : Bool
  deriving Repr

namespace Block

/-- The ends of lines that a block keeps at its end. -/
def ending (b : Block) : List Char :=
  (if b.chomping = .strip then [] else b.leading.toList) ++
    (if b.chomping = .keep then b.trailing.reverse else [])

def joint (b : Block) (c : Char) : List Char :=
  -- two folded lines are joined by a space, unless one of them begins with a blank
  (if !b.literal && b.leading = some '\n' && !b.leadingBlank && !isBlank c then
    (if b.trailing = [] then [' '] else [])
  else b.leading.toList) ++ b.trailing.reverse

end Block

/-- Scans a block of lines; `inLine` tells whether the scan stands within a line. -/
def scanBlock (inLine : Bool) (b : Block) (m : Mark) : List Char → Option (List Char × Cursor)
  | [] => some (b.ending, ⟨m, []⟩)
  | c :: rest =>
    if c = '\r' ∧ rest.head? = some '\n' then
      scanBlock inLine b ⟨m.index + 1, m.line, m.column⟩ rest
    else if inLine then
      if isBreak c then
        scanBlock false { b with leading := some (breakText c) } (m.nextLine 1) rest
      else do
        let (text, k) ← scanBlock true b m.next rest
        some (c :: text, k)
    else
      let before := b.indent.all fun n => m.column < n
      if c = ' ' && before then scanBlock false b m.next rest
      else if c = '\t' && before then none
      else if isBreak c then
        scanBlock false { b with widest := max b.widest m.column
                                 trailing := breakText c :: b.trailing } (m.nextLine 1) rest
      else
        -- the first line that is not empty says how far the lines are indented
        let indent := b.indent.getD (max (max b.widest m.column) b.least)
        if m.column = indent then do
          let b' := { b with indent := some indent, leading := none, trailing := []
                             leadingBlank := isBlank c }
          let (text, k) ← scanBlock true b' m.next rest
          some (b.joint c ++ c :: text, k)
        else some (b.ending, ⟨m, c :: rest⟩)

def indicator? : List Char → Option Nat
  | c :: _ => if c.isDigit then some (c.toNat - 48) else none
  | [] => none

def chomping? : List Char → Option Chomping
  | '+' :: _ => some .keep
  | '-' :: _ => some .strip
  | _ => none

def blockHeader (k : Cursor) : Chomping × Option Nat × Cursor :=
  match chomping? k.rest with
  | some c =>
    let k := k.next
    match indicator? k.rest with
    | some n => (c, some n, k.next)
    | none => (c, none, k)
  | none =>
    match indicator? k.rest with
    | some n =>
      let k := k.next
      match chomping? k.rest with
      | some c => (c, some n, k.next)
      | none => (.clip, some n, k)
    | none => (.clip, none, k)

/-- Scans a block scalar behind the indicator that begins it; `parent` is the indentation of the
collection around it, if there is one. -/
def scanBlockScalar (literal : Bool) (parent : Option Nat) (k : Cursor) :
    Option (List Char × Cursor) :=
  let (chomping, increment, k) := blockHeader k
  let k := k.skipBlanks.skipComment
  if increment = some 0 ∨ !atBreak k.rest then none
  else
    let k := k.nextLine
    let least := max 1 (parent.elim 0 (· + 1))
    let indent := increment.map fun n => parent.getD 0 + n
    scanBlock false ⟨literal, chomping, indent, least, 0, none, [], false⟩ k.mark k.rest

end Provision.Yaml
