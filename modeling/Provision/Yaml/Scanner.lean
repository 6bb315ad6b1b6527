import Provision.Yaml.Token

namespace Provision.Yaml

/-!
# From characters to tokens

A key in a mapping is recognised by the colon behind it.  Until that comes, the scanner remembers
where a key may have begun, for the blocks and for every open bracket, and puts the tokens that
begin the key and its mapping there when it does.
-/

/-- A position at which a key may have begun. -/
structure PossibleKey where
  /-- How many tokens stand before it. -/
  number : Nat
  /-- Whether there has to be a key. -/
  required : Bool
  mark : Mark
  deriving DecidableEq, Repr

structure Scanner where
  cursor : Cursor
  /-- The tokens so far, in reverse order. -/
  tokens : List Token
  count : Nat
  /-- The column of the innermost block, if there is one. -/
  indent : Option Nat
  /-- The columns of the blocks around it. -/
  outer : List (Option Nat)
  /-- The possible keys: of the innermost bracket, of those around it, and of the blocks. -/
  keys : List (Option PossibleKey)
  /-- How many brackets are open. -/
  flow : Nat
  /-- Whether a key may begin at the cursor. -/
  keyAllowed : Bool
  deriving Repr

namespace Scanner

def start (cs : List Char) : Scanner :=
  ⟨⟨.start, cs⟩, [], 0, none, [], [none], 0, true⟩

/-- Skips blanks, comments and ends of lines.  In a block, a key may begin on a new line, and a tab
may not stand where one could. -/
def skipToToken (flow : Bool) (allowed : Bool) (inComment : Bool) (m : Mark) :
    List Char → Bool × Cursor
  | [] => (allowed, ⟨m, []⟩)
  | c :: rest =>
    if c = '\r' ∧ rest.head? = some '\n' then
      skipToToken flow allowed inComment ⟨m.index + 1, m.line, m.column⟩ rest
    else if isBreak c then skipToToken flow (allowed || !flow) false (m.nextLine 1) rest
    else if inComment || c = ' ' || (c = '\t' && (flow || !allowed)) ||
        (m.index = 0 && c = '\ufeff') then
      skipToToken flow allowed inComment m.next rest
    else if c = '#' then skipToToken flow allowed true m.next rest
    else (allowed, ⟨m, c :: rest⟩)

def add (s : Scanner) (kind : TokenKind) (start stop : Mark) : Scanner :=
  { s with tokens := ⟨kind, start, stop⟩ :: s.tokens, count := s.count + 1 }

def insert (s : Scanner) (number : Nat) (kind : TokenKind) (mark : Mark) : Scanner :=
  let later := s.count - number
  { s with
    tokens := s.tokens.take later ++ ⟨kind, mark, mark⟩ :: s.tokens.drop later
    count := s.count + 1 }

/-- Whether a possible key has been given up: it stands on an earlier line, or too far back. -/
def isStale (m : Mark) (key : PossibleKey) : Bool :=
  key.mark.line < m.line || key.mark.index + 1024 < m.index

/-- Gives up the possible keys that are stale; none of them may be required. -/
def dropStale (m : Mark) : List (Option PossibleKey) → Option (List (Option PossibleKey))
  | [] => some []
  | none :: keys => (dropStale m keys).map (none :: ·)
  | some key :: keys =>
    if isStale m key then
      if key.required then none else (dropStale m keys).map (none :: ·)
    else (dropStale m keys).map (some key :: ·)

/-- Gives up the innermost possible key; it may not be required. -/
def dropKey (s : Scanner) : Option Scanner :=
  match s.keys with
  | some key :: keys => if key.required then none else some { s with keys := none :: keys }
  | _ => some s

def saveKey (s : Scanner) : Option Scanner :=
  if s.keyAllowed then do
    let required := s.flow = 0 && s.indent = some s.cursor.mark.column
    let s ← s.dropKey
    some { s with keys := some ⟨s.count, required, s.cursor.mark⟩ :: s.keys.drop 1 }
  else some s

def isDeeper (indent : Option Nat) (column : Nat) : Bool := indent.all (· < column)

/-- Begins a block at a column, unless one has begun there; its token stands behind the first
`number` tokens. -/
def openBlock (s : Scanner) (column number : Nat) (kind : TokenKind) (mark : Mark) : Scanner :=
  if s.flow = 0 && isDeeper s.indent column then
    { s.insert number kind mark with indent := some column, outer := s.indent :: s.outer }
  else s

def closeBlocks (s : Scanner) (column : Option Nat) : List (Option Nat) → Scanner
  | [] => s
  | outer :: more =>
    let deeper := match s.indent, column with
      | none, _ => false
      | some _, none => true
      | some i, some c => c < i
    if s.flow = 0 && deeper then
      closeBlocks { s.add .blockEnd s.cursor.mark s.cursor.mark with indent := outer, outer := more }
        column more
    else s

def close (s : Scanner) (column : Option Nat) : Scanner := s.closeBlocks column s.outer

def take (s : Scanner) (width : Nat) (kind : TokenKind) : Scanner :=
  let m := s.cursor.mark
  { s.add kind m (m.skip width) with cursor := ⟨m.skip width, s.cursor.rest.drop width⟩ }

def takeScanned (s : Scanner) (kind : TokenKind) (k : Cursor) : Scanner :=
  { s.add kind s.cursor.mark k.mark with cursor := k }

def openFlow (s : Scanner) (kind : TokenKind) : Option Scanner := do
  let s ← s.saveKey
  some { s.take 1 kind with keys := none :: s.keys, flow := s.flow + 1, keyAllowed := true }

def closeFlow (s : Scanner) (kind : TokenKind) : Option Scanner := do
  let s ← s.dropKey
  -- a bracket that closes nothing is a token all the same
  let s' := if s.flow = 0 then s else { s with keys := s.keys.drop 1, flow := s.flow - 1 }
  some { s'.take 1 kind with keyAllowed := false }

/-- Takes an indicator that begins an item or a key of a block: outside of brackets it has to stand
where a key may begin. -/
def takeIndicator (s : Scanner) (kind block : TokenKind) (allowed : Bool) : Option Scanner := do
  if s.flow = 0 && !s.keyAllowed then none
  let s := s.openBlock s.cursor.mark.column s.count block s.cursor.mark
  let s ← s.dropKey
  some { s.take 1 kind with keyAllowed := allowed }

def takeColon (s : Scanner) : Option Scanner :=
  match s.keys with
  | some key :: keys =>
    -- there was a key after all: its tokens go where it began
    let s := s.insert key.number .key key.mark
    let s := s.openBlock key.mark.column key.number .blockMapStart key.mark
    some { s.take 1 .value with keys := none :: keys, keyAllowed := false }
  | _ => do
    if s.flow = 0 && !s.keyAllowed then none
    -- the key is empty, or it has an indicator of its own
    let s := s.openBlock s.cursor.mark.column s.count .blockMapStart s.cursor.mark
    some { s.take 1 .value with keyAllowed := s.flow = 0 }

def leaveBlocks (s : Scanner) : Option Scanner := do
  let s ← (s.close none).dropKey
  some { s with keyAllowed := false }

def takeScalar (s : Scanner) (style : Style) (scanned : Option (List Char × Cursor)) :
    Option Scanner := do
  let (text, k) ← scanned
  some (s.takeScanned (.scalar style text) k)

def takePlain (s : Scanner) : Option Scanner := do
  let s ← s.saveKey
  let (text, broken, k) ← scanPlain (s.flow ≠ 0) (s.indent.elim 0 (· + 1)) .none s.cursor.mark
    s.cursor.rest
  -- on a new line a key may begin
  some { s.takeScanned (.scalar .plain text) k with keyAllowed := broken }

def takeQuoted (s : Scanner) (single : Bool) : Option Scanner := do
  let s ← s.saveKey
  let s := { s with keyAllowed := false }
  s.takeScalar (if single then .singleQuoted else .doubleQuoted)
    (scanQuoted single (.text .none) s.cursor.next.mark s.cursor.next.rest)

def takeBlock (s : Scanner) (literal : Bool) : Option Scanner := do
  let s ← s.dropKey
  let s := { s with keyAllowed := true }
  s.takeScalar (if literal then .literal else .folded)
    (scanBlockScalar literal s.indent s.cursor.next)

def takeAnchor (s : Scanner) (kind : List Char → TokenKind) : Option Scanner := do
  let s ← s.saveKey
  let (name, k) ← TokenKind.scanAnchorName s.cursor.next
  some { s.takeScanned (kind name) k with keyAllowed := false }

def takeTag (s : Scanner) : Option Scanner := do
  let s ← s.saveKey
  let (kind, k) ← TokenKind.scanTag (s.flow ≠ 0) s.cursor
  some { s.takeScanned kind k with keyAllowed := false }

def takeDirective (s : Scanner) : Option Scanner := do
  let s ← s.leaveBlocks
  let (kind, k) ← TokenKind.scanDirective s.cursor
  some (s.takeScanned kind k)

def atPlain (s : Scanner) (c : Char) (rest : List Char) : Bool :=
  !(isBlank c || isFlowIndicator c || c ∈ ['-', '?', ':', '#', '&', '*', '!', '|', '>', '\'', '"',
      '%', '@', '\x60']) ||
    (c = '-' && !(rest.head?.any isBlank)) ||
    (s.flow = 0 && (c = '?' || c = ':') && !atBlank rest)

def takeToken (s : Scanner) (c : Char) (rest : List Char) : Option Scanner :=
  let m := s.cursor.mark
  let inFlow := s.flow ≠ 0
  if m.column = 0 ∧ c = '%' then s.takeDirective
  else if m.column = 0 ∧ atTriple '-' (c :: rest) then do
    some ((← s.leaveBlocks).take 3 .documentStart)
  else if m.column = 0 ∧ atTriple '.' (c :: rest) then do
    some ((← s.leaveBlocks).take 3 .documentEnd)
  else if c = '[' then s.openFlow .flowListStart
  else if c = '\x7b' then s.openFlow .flowMapStart
  else if c = ']' then s.closeFlow .flowListEnd
  else if c = '\x7d' then s.closeFlow .flowMapEnd
  else if c = ',' then do
    some { (← s.dropKey).take 1 .flowEntry with keyAllowed := true }
  else if c = '-' ∧ atBlank rest then s.takeIndicator .blockEntry .blockListStart true
  else if c = '?' ∧ (inFlow ∨ atBlank rest) then s.takeIndicator .key .blockMapStart (s.flow = 0)
  else if c = ':' ∧ (inFlow ∨ atBlank rest) then s.takeColon
  else if c = '*' then s.takeAnchor .reference
  else if c = '&' then s.takeAnchor .anchor
  else if c = '!' then s.takeTag
  else if c = '|' ∧ s.flow = 0 then s.takeBlock true
  else if c = '>' ∧ s.flow = 0 then s.takeBlock false
  else if c = '\'' then s.takeQuoted true
  else if c = '"' then s.takeQuoted false
  else if s.atPlain c rest then s.takePlain
  else none

inductive Advance where
  | more (s : Scanner)
  | last (tokens : List Token)
  | broken

def advance (s : Scanner) : Advance :=
  let (allowed, k) := skipToToken (s.flow ≠ 0) s.keyAllowed false s.cursor.mark s.cursor.rest
  match dropStale k.mark s.keys with
  | none => .broken
  | some keys =>
    let s := { s with cursor := k, keyAllowed := allowed, keys := keys }.close (some k.mark.column)
    match k.rest with
    | [] =>
      -- the stream ends at the start of a line
      let m : Mark := if k.mark.column = 0 then k.mark else ⟨k.mark.index, k.mark.line + 1, 0⟩
      match { s with cursor := ⟨m, []⟩ }.leaveBlocks with
      | none => .broken
      | some s => .last (s.add .streamEnd m m).tokens
    | c :: rest =>
      match s.takeToken c rest with
      | none => .broken
      | some s => .more s

/-- The tokens of a text, in reverse order.  Every token but the last takes a character. -/
def run : Nat → Scanner → List Token
  | 0, s => ⟨.broken, s.cursor.mark, s.cursor.mark⟩ :: s.tokens
  | fuel + 1, s =>
    match s.advance with
    | .more s => run fuel s
    | .last tokens => tokens
    | .broken => ⟨.broken, s.cursor.mark, s.cursor.mark⟩ :: s.tokens

end Scanner

def tokens (cs : List Char) : List Token :=
  if cs.all isAllowed then ((Scanner.start cs).run (cs.length + 2)).reverse
  else [⟨.broken, .start, .start⟩]

end Provision.Yaml
