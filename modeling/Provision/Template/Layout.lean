import Provision.Template.Value

namespace Provision.Template

/-!
# Formatted output

A format text holds verbs.  A verb is a percent sign, a specification and a verb letter; the
specification gives flags, a width, a precision and the argument to take.
-/

open Decimal

structure Layout where
  plus : Bool := false
  alternate : Bool := false
  zeroFill : Bool := false
  left : Bool := false
  width : Nat := 0
  precision : Option Nat := none
  deriving DecidableEq, Repr, Inhabited

namespace Layout

/-- Filling with zeros and setting to the left count only beside a plus sign or the alternate
form. -/
def effective (l : Layout) : Layout :=
  if l.plus || l.alternate then l else { l with zeroFill := false, left := false }

def gap (l : Layout) (cs : List Char) : List Char := List.replicate (l.width - cs.length) ' '

def placeText (l : Layout) (cs : List Char) : List Char :=
  let shown := match l.precision with
    | some p => cs.take p
    | none => cs
  shown ++ l.gap shown

/-- A number with its sign and base mark, set to the right unless the layout says otherwise. -/
def placeNumber (l : Layout) (negative : Bool) (mark digits : List Char) : List Char :=
  let l := l.effective
  let sign := if negative then ['-'] else if l.plus then ['+'] else []
  let front := sign ++ if l.alternate then mark else []
  let whole := front ++ digits
  if l.zeroFill then front ++ List.replicate (l.width - whole.length) '0' ++ digits
  else if l.left then whole ++ l.gap whole
  else l.gap whole ++ whole

end Layout

def verbLetters : List Char := "vVtTbcdoqxXUeEfFgGsp".toList

inductive Piece where
  | plain (c : Char)
  | verb (specification : List Char) (letter : Char)
  deriving DecidableEq, Repr, Inhabited

inductive LayoutError where
  | unterminatedVerb (rest : String)
  | unclosedIndex (rest : String)
  | badIndex (reason : String)
  | badWidth (reason : String)
  | widthAfterIndex
  | precisionAfterIndex
  | noArgument (specification : String)
  | noCharacter (hex : String)
  | unfit (value : String) (letter : Char)
  deriving DecidableEq, Repr, Inhabited

def LayoutError.message : LayoutError → String
  | unterminatedVerb rest => "unable to terminate format arg: " ++ rest
  | unclosedIndex rest => "missing ] in " ++ rest
  | badIndex reason => "unable to parse index: " ++ reason
  | badWidth reason => "unable to parse width: " ++ reason
  | widthAfterIndex => "width after index (e.g. %[3]2d)"
  | precisionAfterIndex => "precision after index (e.g. %[3].2d)"
  | noArgument specification => "unable to process verb: " ++ specification
  | noCharacter hex => hex ++ " is not a valid char"
  | unfit value letter => "unable to format " ++ value ++ " as " ++ letter.toString

theorem length_of_dropWhile {α : Type} {p : α → Bool} {cs after : List α} {c : α}
    (h : cs.dropWhile p = c :: after) : after.length < cs.length + 1 := by
  have := (List.dropWhile_sublist p (l := cs)).length_le
  rw [h] at this
  exact Nat.lt_succ_of_lt this

/-- The pieces of a format text.  Two percent signs stay as they are. -/
def pieces : List Char → Except LayoutError (List Piece)
  | [] => .ok []
  | '%' :: '%' :: cs => do
    let rest ← pieces cs
    .ok (.plain '%' :: .plain '%' :: rest)
  | '%' :: cs =>
    match h : cs.dropWhile (fun c => !verbLetters.contains c) with
    | [] => .error (.unterminatedVerb (String.ofList ('%' :: cs)))
    | letter :: after => do
      have : after.length < cs.length + 1 := length_of_dropWhile h
      let rest ← pieces after
      .ok (.verb (cs.takeWhile fun c => !verbLetters.contains c) letter :: rest)
  | c :: cs => do
    let rest ← pieces cs
    .ok (.plain c :: rest)
termination_by cs => cs.length

/-- The machine word that a text of decimal digits stands for, or why it stands for none. -/
def word? (cs : List Char) : Except String Nat :=
  -- a plus sign by itself is no sign
  let digits := match cs with
    | '+' :: rest => if rest = [] then cs else rest
    | _ => cs
  if cs = [] then .error "cannot parse integer from empty string"
  else
    match Decimal.decimal? digits with
    | none => .error "invalid digit found in string"
    | some n =>
      if n < twoTo 64 then .ok n else .error "number too large to fit in target type"

/-- The largest width or precision; a larger one counts as this one. -/
def widestField : Nat := 65535

structure SpecReader where
  rest : List Char
  /-- The argument that is taken next. -/
  index : Nat
  /-- Whether an index stands directly before the rest. -/
  afterIndex : Bool := false
  layout : Layout := {}

namespace SpecReader

/-- Reads the flags.  Setting to the left takes back the filling with zeros asked for before. -/
def readFlags (r : SpecReader) : SpecReader :=
  { r with
    rest := r.rest.dropWhile isFlag
    layout := (r.rest.takeWhile isFlag).foldl setFlag r.layout }
where
  isFlag (c : Char) : Bool := c == '#' || c == '0' || c == '+' || c == '-' || c == ' '
  setFlag (l : Layout) (c : Char) : Layout :=
    match c with
    | '#' => { l with alternate := true }
    | '0' => { l with zeroFill := true }
    | '+' => { l with plus := true }
    | '-' => { l with left := true, zeroFill := false }
    | _ => l

/-- Reads an index in square brackets, if there is one.  Indices count from one; zero names no
argument. -/
def readIndex (args : List Value) (r : SpecReader) : Except LayoutError SpecReader :=
  match r.rest with
  | '[' :: cs =>
    match cs.dropWhile (· ≠ ']') with
    | [] => .error (.unclosedIndex (String.ofList r.rest))
    | _ :: after =>
      match word? (cs.takeWhile (· ≠ ']')) with
      | .error e => .error (.badIndex e)
      | .ok n =>
        .ok { r with
          rest := after, index := if n = 0 then args.length else n - 1, afterIndex := true }
  | _ => .ok r

/-- The argument that a star takes, if it is an integer: its absolute value as a width, and whether
it is negative. -/
def starArgument (args : List Value) (index : Nat) : Option (Nat × Bool) :=
  match args[index]? with
  | some (.number (.natural n)) => some (min n widestField, false)
  | some (.number (.negative n)) => some (min n.natAbs widestField, true)
  | _ => none

/-- A star takes an argument; one that was chosen by an index can be taken again. -/
def passStar (r : SpecReader) (after : List Char) : SpecReader :=
  { r with
    rest := after
    index := if r.afterIndex then r.index else r.index + 1
    afterIndex := false }

def readWidth (args : List Value) (r : SpecReader) : Except LayoutError SpecReader :=
  match r.rest with
  | '*' :: after =>
    let layout := match starArgument args r.index with
      | some (n, negative) =>
        if negative then { r.layout with width := n, left := true, zeroFill := false }
        else { r.layout with width := n }
      | none => r.layout
    .ok { r.passStar after with layout := layout }
  | cs =>
    let digits := cs.takeWhile Char.isDigit
    if digits = [] then .ok r
    else
      match word? digits with
      | .error e => .error (.badWidth e)
      | .ok n =>
        if r.afterIndex then .error .widthAfterIndex
        else .ok { r with
          rest := cs.dropWhile Char.isDigit
          layout := { r.layout with width := min n widestField } }

/-- Reads a precision.  A point at the end of the specification says nothing. -/
def readPrecision (args : List Value) (r : SpecReader) : Except LayoutError SpecReader :=
  match r.rest with
  | '.' :: c :: cs => do
    if r.afterIndex then throw .precisionAfterIndex
    let r ← readIndex args { r with rest := c :: cs }
    match r.rest with
    | '*' :: after =>
      let layout := match starArgument args r.index with
        | some (n, _) => { r.layout with precision := some n }
        | none => r.layout
      .ok { r.passStar after with layout := layout }
    | cs =>
      let digits := cs.takeWhile Char.isDigit
      if digits = [] then .ok r
      else
        match word? digits with
        | .error e => .error (.badWidth e)
        | .ok n =>
          .ok { r with
            rest := cs.dropWhile Char.isDigit
            layout := { r.layout with precision := some (min n widestField) } }
  | _ => .ok r

def read (args : List Value) (index : Nat) (specification : List Char) :
    Except LayoutError SpecReader := do
  let r := readFlags { rest := specification, index }
  let r ← r.readIndex args
  let r ← r.readWidth args
  let r ← r.readPrecision args
  if r.afterIndex then .ok r else r.readIndex args

end SpecReader

/-- The bits of a negative number in two's complement. -/
def bits (width : Nat) (n : Int) : Nat := (n % twoTo width).toNat

def lowerHex (n : Nat) : List Char := Nat.toDigits 16 n

def upperHex (n : Nat) : List Char := (Nat.toDigits 16 n).map Char.toUpper

/-- A character as it stands in a character literal: printable ASCII plain, the rest escaped. -/
def escapeDefault (openMark closeMark : List Char) (c : Char) : List Char :=
  if c = '\t' then ['\\', 't']
  else if c = '\r' then ['\\', 'r']
  else if c = '\n' then ['\\', 'n']
  else if c = '\'' then ['\\', '\'']
  else if c = '"' then ['\\', '"']
  else if c = '\\' then ['\\', '\\']
  else if 0x20 ≤ c.toNat ∧ c.toNat < 0x7F then [c]
  else ['\\', 'u'] ++ openMark ++ lowerHex c.toNat ++ closeMark

/-- The character whose code point the low 32 bits of an integer give. -/
def character (n : Int) : Except LayoutError Char :=
  let code := bits 32 n
  if code.isValidChar then .ok (Char.ofNat code)
  else .error (.noCharacter (String.ofList (upperHex (bits 128 n))))

/-- An integer laid out by a verb letter; `none` if the letter is not for integers. -/
def layInteger (l : Layout) (letter : Char) (n : Int) : Except LayoutError (Option (List Char)) :=
  let word := bits 64 n
  match letter with
  | 'd' => .ok (l.placeNumber (n < 0) [] (Nat.toDigits 10 n.natAbs))
  | 'b' => .ok (l.placeNumber false ['0', 'b'] (Nat.toDigits 2 word))
  | 'o' => .ok (l.placeNumber false ['0', 'o'] (Nat.toDigits 8 word))
  | 'x' => .ok (l.placeNumber false ['0', 'x'] (lowerHex word))
  | 'X' => .ok (l.placeNumber false ['0', 'x'] (upperHex word))
  | 'c' => do
    let c ← character n
    .ok (l.placeText [c])
  | 'q' => do
    let c ← character n
    .ok (l.placeText ('\'' :: (escapeDefault [] [] c ++ ['\''])))
  | 'U' => .ok (l.placeText ('U' :: '+' :: upperHex word))
  | _ => .ok none

def realDigits (l : Layout) (mark : Option Char) : Binary64 → List Char
  | .infinite _ => ['i', 'n', 'f']
  | .finite _ m e =>
    let (num, den) := Binary64.ratio m e
    match l.precision, mark with
    | none, none => (shortest m e).trimmed.positional
    | none, some c => (shortest m e).trimmed.scientific c
    | some p, none => (rounded num den (-p)).positional
    | some p, some c =>
      let top := if m = 0 then 0 else magnitude num den
      let s := rounded num den (top - p)
      -- rounding may have carried into one digit more
      let s := if digitCount s.digits = p + 2 then ⟨s.digits / 10, s.exponent + 1⟩ else s
      s.scientific c

def layReal (l : Layout) (letter : Char) (x : Binary64) : Option (List Char) :=
  match letter with
  | 'f' | 'F' => some (l.placeNumber x.isNegative [] (realDigits l none x))
  | 'e' => some (l.placeNumber x.isNegative [] (realDigits l (some 'e') x))
  | 'E' => some (l.placeNumber x.isNegative [] (realDigits l (some 'E') x))
  | _ => none

/-- A text laid out by a verb letter.  Its bytes are written without leading zeros. -/
def layText (l : Layout) (letter : Char) (s : String) : Option (List Char) :=
  match letter with
  | 's' | 'v' => some (l.placeText s.toList)
  | 'x' => some (s.toUTF8.toList.flatMap fun b => lowerHex b.toNat)
  | 'X' => some (s.toUTF8.toList.flatMap fun b => upperHex b.toNat)
  | 'q' => some (l.placeText (s.toList.flatMap (escapeDefault ['\x7b'] ['\x7d'])))
  | _ => none

def mapText (s : Submission) : List Char :=
  ("map[" ++ " ".intercalate (s.entries.map fun (k, v) => k ++ ":" ++ v) ++ "]").toList

def layValue (l : Layout) (letter : Char) (v : Value) : Except LayoutError (List Char) := do
  let laid ← match v with
    | .absent => pure none
    | .bool _ =>
      pure (if letter = 'v' ∨ letter = 't' then some (l.placeText v.print.toList) else none)
    | .text s => pure (layText l letter s)
    | .number (.natural n) => layInteger l (if letter = 'v' then 'd' else letter) n
    | .number (.negative n) => layInteger l letter n
    | .number (.real x) => pure (layReal l letter x)
    | .map s => pure (if letter = 'v' then some (l.placeText (mapText s)) else none)
  match laid with
  | some cs => .ok cs
  | none => .error (.unfit v.print letter)

/-- Lays out one verb; the answer also says which argument a plain verb takes next. -/
def layVerb (args : List Value) (index : Nat) (specification : List Char) (letter : Char) :
    Except LayoutError (List Char × Nat) := do
  let r ← SpecReader.read args index specification
  match args[r.index]? with
  | none => .error (.noArgument (String.ofList specification))
  | some v =>
    let cs ← layValue r.layout letter v
    .ok (cs, if r.afterIndex then r.index else r.index + 1)

def layPieces (args : List Value) (index : Nat) : List Piece → Except LayoutError (List Char)
  | [] => .ok []
  | .plain c :: rest => do
    let others ← layPieces args index rest
    .ok (c :: others)
  | .verb specification letter :: rest => do
    let (cs, next) ← layVerb args index specification letter
    let others ← layPieces args next rest
    .ok (cs ++ others)

def lay (format : String) (args : List Value) : Except LayoutError String := do
  let ps ← pieces format.toList
  let cs ← layPieces args 0 ps
  .ok (String.ofList cs)

end Provision.Template
