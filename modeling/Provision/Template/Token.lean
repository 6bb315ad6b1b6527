import Provision.Text.Alphanumeric
import Provision.Text.Blank

namespace Provision.Template

/-!
# Tokens of a template

Outside of actions a template is plain text; an action stands between double braces.  The scanner
looks ahead by a single byte.  So a token that is
followed directly by a character of several bytes cannot be ended: the scanner breaks off, and all
that is left to read is one token of failure on line zero.  At the end of the input the byte it
looks at is the last one once more.

A token carries the line on which it ends.  The count of lines goes up by one at each line break
inside an action, and after a token by one for a text, a raw string or a delimiter, else by the
number of line breaks in it.
-/

open Text

inductive Keyword where
  | block | define | otherwise | finish | condition | range | template | scope | nothing
  deriving DecidableEq, Repr, Inhabited

def Keyword.ofWord? (word : List Char) : Option Keyword :=
  if word = ['b', 'l', 'o', 'c', 'k'] then some block
  else if word = ['d', 'e', 'f', 'i', 'n', 'e'] then some define
  else if word = ['e', 'l', 's', 'e'] then some otherwise
  else if word = ['e', 'n', 'd'] then some finish
  else if word = ['i', 'f'] then some condition
  else if word = ['n', 'i', 'l'] then some nothing
  else if word = ['r', 'a', 'n', 'g', 'e'] then some range
  else if word = ['t', 'e', 'm', 'p', 'l', 'a', 't', 'e'] then some template
  else if word = ['w', 'i', 't', 'h'] then some scope
  else none

inductive Kind where
  | failure | ending
  | text | openDelimiter | closeDelimiter
  | space | openParen | closeParen | pipe | assign | mark
  | bool | number | character | string | rawString
  | dot | field | variable | identifier
  | keyword (k : Keyword)
  deriving DecidableEq, Repr, Inhabited

structure Token where
  kind : Kind
  source : List Char
  line : Nat
  deriving DecidableEq, Repr, Inhabited

def Token.shown (t : Token) : String :=
  if t.kind = .ending then "EOF" else String.ofList t.source

/-- The token left when the scanner has broken off. -/
def Token.brokenOff : Token := ⟨.failure, "receiving on a closed channel".toList, 0⟩

def isWord (c : Char) : Bool := isAlphanumeric c || c == '_'

/-- The characters that may follow an identifier, a field or a variable. -/
def isTerminator (c : Char) : Bool :=
  c == '.' || c == ',' || c == '|' || c == ':' || c == ')' || c == '(' || c == ' ' || c == '\t'
    || c == '\r' || c == '\n' || c == '}'

def isAscii (c : Char) : Bool := c.toNat < 128

def lineBreaks (cs : List Char) : Nat := cs.count '\n'

/-- What comes before and after the first place where a text has the given two characters. -/
def splitAtPair? (a b : Char) : List Char → Option (List Char × List Char)
  | c :: d :: cs =>
    if c = a ∧ d = b then some ([], cs)
    else (splitAtPair? a b (d :: cs)).map fun (before, after) => (c :: before, after)
  | _ => none

theorem length_of_splitAtPair? {a b : Char} {cs before after : List Char}
    (h : splitAtPair? a b cs = some (before, after)) : after.length < cs.length := by
  induction cs generalizing before after with
  | nil => simp [splitAtPair?] at h
  | cons c cs ih =>
    cases cs with
    | nil => simp [splitAtPair?] at h
    | cons d cs =>
      unfold splitAtPair? at h
      split at h
      · cases h
        simp only [List.length_cons]
        omega
      · simp only [Option.map_eq_some_iff, Prod.exists, Prod.mk.injEq] at h
        obtain ⟨before', after', h', -, rfl⟩ := h
        have := ih h'
        simp_all
        omega

theorem length_dropWhile_le {α : Type} (p : α → Bool) (l : List α) :
    (l.dropWhile p).length ≤ l.length :=
  (List.dropWhile_sublist p).length_le

inductive Step where
  /-- A token, and the action goes on with the rest on the given line, with so many open
  parentheses. -/
  | token (t : Token) (rest : List Char) (line depth : Nat)
  /-- The end of the action; the rest is text. -/
  | close (t : Token) (rest : List Char) (line : Nat)
  /-- The last tokens. -/
  | stop (ts : List Token)
  deriving DecidableEq, Repr

namespace Step

def rest : Step → List Char
  | token _ rest _ _ => rest
  | close _ rest _ => rest
  | stop _ => []

def failure (message : List Char) (line : Nat) : Step := stop [⟨.failure, message, line⟩]

def brokenOff : Step := stop [.brokenOff]

/-- A token whose line breaks have been counted once while it was read. -/
def plain (kind : Kind) (source rest : List Char) (line depth : Nat) : Step :=
  token ⟨kind, source, line⟩ rest line depth

def endWord (kind : Kind) (source rest : List Char) (line depth : Nat) : Step :=
  match rest with
  | [] =>
    if isAscii (source.getLastD ' ') then failure ("bad character ".toList ++ ['\x00']) line
    else brokenOff
  | c :: _ =>
    if !isAscii c then brokenOff
    else if isTerminator c then plain kind source rest line depth
    else failure ("bad character ".toList ++ [c]) line

/-- A field or a variable, after its first character.  At the end of the input a lone point is read
again as an empty field. -/
def name (kind lone : Kind) (first : Char) (cs : List Char) (line depth : Nat) : Step :=
  match cs with
  | [] =>
    if first = '.' then stop [⟨.field, [], line⟩, ⟨.field, [], line⟩, .brokenOff]
    else failure ("bad character ".toList ++ [first]) line
  | c :: _ =>
    if !isAscii c then brokenOff
    else if isTerminator c then plain lone [first] cs line depth
    else endWord kind (first :: cs.takeWhile isWord) (cs.dropWhile isWord) line depth

def word (cs : List Char) (line depth : Nat) : Step :=
  let source := cs.takeWhile isWord
  let kind :=
    if source = ['t', 'r', 'u', 'e'] ∨ source = ['f', 'a', 'l', 's', 'e'] then .bool
    else match Keyword.ofWord? source with
      | some k => .keyword k
      | none => .identifier
  endWord kind source (cs.dropWhile isWord) line depth

def blanks (first : Char) (cs : List Char) (line depth : Nat) : Step :=
  let more := cs.takeWhile fun c => isAscii c && isBlank c
  match cs.dropWhile fun c => isAscii c && isBlank c with
  | [] => brokenOff
  | c :: rest =>
    if !isAscii c then brokenOff
    else
      let breaks := lineBreaks more
      -- for what follows the line breaks are counted twice
      token ⟨.space, first :: more, line + breaks⟩ (c :: rest) (line + 2 * breaks) depth

def splitSignMark : List Char → List Char × List Char
  | '+' :: cs => (['+'], cs)
  | '-' :: cs => (['-'], cs)
  | cs => ([], cs)

def splitFraction : List Char → List Char × List Char
  | '.' :: cs => ('.' :: cs.takeWhile Char.isDigit, cs.dropWhile Char.isDigit)
  | cs => ([], cs)

/-- Splits off an exponent, which may lack its digits. -/
def splitExponent : List Char → List Char × List Char
  | 'e' :: cs => digits 'e' (splitSignMark cs)
  | 'E' :: cs => digits 'E' (splitSignMark cs)
  | cs => ([], cs)
where
  digits (mark : Char) (signed : List Char × List Char) : List Char × List Char :=
    (mark :: (signed.1 ++ signed.2.takeWhile Char.isDigit), signed.2.dropWhile Char.isDigit)

/-- Splits off digits, a fraction and an exponent, each of which may be missing. -/
def splitDecimal (cs : List Char) : List Char × List Char :=
  let fraction := splitFraction (cs.dropWhile Char.isDigit)
  let exponent := splitExponent fraction.2
  (cs.takeWhile Char.isDigit ++ fraction.1 ++ exponent.1, exponent.2)

def isHexDigit (c : Char) : Bool :=
  c.isDigit || ('a' ≤ c && c ≤ 'f') || ('A' ≤ c && c ≤ 'F')

def splitUnsigned : List Char → List Char × List Char
  | '0' :: 'x' :: cs => ('0' :: 'x' :: cs.takeWhile isHexDigit, cs.dropWhile isHexDigit)
  | '0' :: 'X' :: cs => ('0' :: 'X' :: cs.takeWhile isHexDigit, cs.dropWhile isHexDigit)
  | cs => splitDecimal cs

def splitNumber (cs : List Char) : List Char × List Char :=
  let sign := splitSignMark cs
  let unsigned := splitUnsigned sign.2
  (sign.1 ++ unsigned.1, unsigned.2)

/-- A number.  At the end of the input a sign or a point at its end is read again by itself. -/
def number (cs : List Char) (line depth : Nat) : Step :=
  let (source, rest) := splitNumber cs
  match rest with
  | [] =>
    let last := source.getLastD ' '
    if last = '.' then
      stop [⟨.number, source.dropLast, line⟩, ⟨.field, [], line⟩, ⟨.field, [], line⟩, .brokenOff]
    else if last = '+' ∨ last = '-' then
      stop [⟨.number, source.dropLast, line⟩, ⟨.number, [], line⟩, ⟨.number, [], line⟩, .brokenOff]
    else failure ("bad number syntax: ".toList ++ source) line
  | c :: _ =>
    if !isAscii c then brokenOff
    else if isAlphanumeric c then failure ("bad number syntax: ".toList ++ source ++ [c]) line
    else plain .number source rest line depth

/-- The text up to a closing quote and what follows it.  A backslash makes the next character that
is not itself a backslash a plain one.  Without a closing quote the answer is the number of line
breaks read. -/
def closing (quote : Char) : Bool → List Char → Except Nat (List Char × List Char)
  | _, [] => .error 0
  | escaped, c :: cs =>
    if c = '\\' then (closing quote true cs).map fun (t, r) => (c :: t, r)
    else if c = '\n' then .error 1
    else if c = quote ∧ !escaped then .ok ([c], cs)
    else (closing quote false cs).map fun (t, r) => (c :: t, r)

def quoted (kind : Kind) (quote : Char) (message : String) (cs : List Char) (line depth : Nat) :
    Step :=
  match closing quote false cs with
  | .ok (source, rest) => plain kind (quote :: source) rest line depth
  | .error breaks => failure message.toList (line + breaks)

def raw (cs : List Char) (line depth : Nat) : Step :=
  let source := cs.takeWhile (· ≠ '\x60')
  match cs.dropWhile (· ≠ '\x60') with
  | [] => failure "unterminated raw quoted string".toList line
  | q :: rest =>
    let last := line + lineBreaks source
    token ⟨.rawString, '\x60' :: (source ++ [q]), last⟩ rest (last + 1) depth

def finish (trimming : Bool) (rest : List Char) (line depth : Nat) : Step :=
  if depth = 0 then
    close ⟨.closeDelimiter, ['}', '}'], line⟩ (if trimming then trimStart rest else rest) (line + 1)
  else failure "unclosed left paren".toList line

def next (cs : List Char) (line depth : Nat) : Step :=
  match cs with
  | [] => failure "unclosed action".toList line
  | '}' :: '}' :: rest => finish false rest line depth
  | ' ' :: '-' :: '}' :: '}' :: rest => finish true rest line depth
  | '\n' :: _ => failure "unclosed action".toList (line + 1)
  | '\r' :: _ => failure "unclosed action".toList line
  | '"' :: rest => quoted .string '"' "unterminated quoted string" rest line depth
  | '\'' :: rest => quoted .character '\'' "unterminated character constant" rest line depth
  | '\x60' :: rest => raw rest line depth
  | '$' :: rest => name .variable .variable '$' rest line depth
  | '(' :: rest => plain' .openParen '(' rest line (depth + 1)
  | ')' :: rest =>
    if depth = 0 then
      stop [⟨.closeParen, [')'], line⟩, ⟨.failure, "unexpected right paren )".toList, line⟩]
    else plain' .closeParen ')' rest line (depth - 1)
  | ':' :: '=' :: rest => plain .assign [':', '='] rest line depth
  | ':' :: rest => failure "expected :=".toList (line + lineBreaks (rest.take 1))
  | '|' :: rest => plain' .pipe '|' rest line depth
  | '.' :: rest =>
    if rest.head?.any Char.isDigit then number cs line depth
    else name .field .dot '.' rest line depth
  | c :: rest =>
    if c = '+' ∨ c = '-' ∨ c.isDigit then number cs line depth
    else if isBlank c then blanks c rest line depth
    else if isWord c then if isAscii c then word cs line depth else brokenOff
    else if isAscii c then plain' .mark c rest line depth
    else failure ("unrecognized character in action ".toList ++ [c]) line
where
  plain' (kind : Kind) (c : Char) (rest : List Char) (line depth : Nat) : Step :=
    plain kind [c] rest line depth

end Step

end Provision.Template
