import Provision.Decimal.Shortest
import Provision.Json.Cursor

namespace Provision.Json

/-!
# Numbers in JSON documents

A number without a point or an exponent that fits in 64 bits is an integer.  Any other is a
floating-point number: its first digits, as many as fit in 64 bits, times or divided by a power of
ten, where every step rounds.
-/

inductive Number where
  | natural (n : Nat)
  /-- A negative integer. -/
  | negative (n : Int)
  | float (x : Decimal.Binary64)
  deriving DecidableEq, Repr

/-- Takes digits into a significand as long as it stays below `2 ^ 64`. -/
def gather : Nat → List Nat → Nat × List Nat
  | s, [] => (s, [])
  | s, d :: ds => if s * 10 + d < Decimal.twoTo 64 then gather (s * 10 + d) ds else (s, d :: ds)

/-- Takes digits into an exponent as long as it stays below `2 ^ 31`; otherwise the number of digits
up to the one that does not fit. -/
def gatherExponent (count s : Nat) : List Nat → Nat ⊕ Nat
  | [] => .inl s
  | d :: ds =>
    if s * 10 + d < Decimal.twoTo 31 then gatherExponent (count + 1) (s * 10 + d) ds
    else .inr (count + 1)

def powerOfTen (n : Nat) : Decimal.Binary64 := .ofRatio false (Decimal.tenTo n) 1

/-- A number times or divided by a power of ten; `none` when it grows out of range.  Four divisions
by the largest power make any number zero. -/
def scaleByTen : Nat → Decimal.Binary64 → Int → Option Decimal.Binary64
  | 0, x, _ => some x
  | fuel + 1, x, exponent =>
    if exponent.natAbs ≤ 308 then
      if 0 ≤ exponent then
        let y := x.times (powerOfTen exponent.natAbs)
        if y.isInfinite then none else some y
      else some (x.dividedBy (powerOfTen exponent.natAbs))
    else if x.isZero then some x
    else if 0 ≤ exponent then none
    else scaleByTen fuel (x.dividedBy (powerOfTen 308)) (exponent + 308)

namespace Number

def exponentText (power : Int) : List Char :=
  let ds := Nat.toDigits 10 power.natAbs
  (if power < 0 then '-' else '+') :: (if ds.length < 2 then '0' :: ds else ds)

/-- A floating-point number as messages show it: the fewest digits that read back, with an exponent
when the number is below `10 ^ -5` or from `10 ^ 16` on. -/
def floatText : Decimal.Binary64 → String
  | .infinite s => if s then "-inf" else "inf"
  | .finite s m e =>
    let sign := if s then ['-'] else []
    if m = 0 then String.ofList (sign ++ ['0', '.', '0'])
    else
      let d := (Decimal.shortest m e).trimmed
      let ds := Nat.toDigits 10 d.digits
      let power : Int := d.exponent + ds.length - 1
      -- the point stands in its place while the number is of a moderate size
      if -5 ≤ power ∧ power ≤ 15 then
        let shown := d.positional
        String.ofList (sign ++ if '.' ∈ shown then shown else shown ++ ['.', '0'])
      else
        let fraction := if ds.length ≤ 1 then [] else '.' :: ds.drop 1
        String.ofList (sign ++ ds.take 1 ++ fraction ++ 'e' :: exponentText power)

def found : Number → Found
  | natural n => .integer n
  | negative n => .integer n
  | float x => .float (floatText x)

end Number

namespace Decoder

def floatOfParts (positive : Bool) (significand : Nat) (exponent : Int) : Decoder Number := do
  match scaleByTen 4 (.ofRatio false significand 1) exponent with
  | some x => pure (.float (if positive then x else x.negate))
  | none => failHere .numberOutOfRange

def skip : Nat → Decoder Unit
  | 0 => pure ()
  | n + 1 => do
    advance
    skip n

def exponent (positive : Bool) (significand : Nat) (start : Int) : Decoder Number := do
  advance
  let up ← do
    match ← peek with
    | some 0x2B => do
      advance
      pure true
    | some 0x2D => do
      advance
      pure false
    | _ => pure true
  match ← peek with
  | none => failHere .endInValue
  | some b =>
    if !Cursor.isDigit b then
      advance
      failHere .invalidNumber
    else
      let k ← get
      let ds ← digits
      match gatherExponent 0 0 ds with
      | .inl n => floatOfParts positive significand (if up then start + n else start - n)
      | .inr count =>
        -- an exponent that does not fit makes a number too large, unless it makes it zero
        if significand ≠ 0 ∧ up then
          set k
          skip count
          failHere .numberOutOfRange
        else pure (.float (.finite (!positive) 0 (-1074)))

def fraction (positive : Bool) (significand : Nat) (start : Int) : Decoder Number := do
  advance
  let ds ← digits
  if ds = [] then
    match ← peek with
    | some _ => failNext .invalidNumber
    | none => failNext .endInValue
  else
    let (significand, left) := gather significand ds
    let start := start - ((ds.length - left.length : Nat) : Int)
    match ← peek with
    | some 0x65 => exponent positive significand start
    | some 0x45 => exponent positive significand start
    | _ => floatOfParts positive significand start

def number (positive : Bool) : Decoder Number := do
  match ← peek with
  | none => failHere .endInValue
  | some b =>
    if !Cursor.isDigit b then
      advance
      failHere .invalidNumber
    else if b = 0x30 then
      advance
      match ← peek with
      | some c => if Cursor.isDigit c then failNext .invalidNumber else rest 0 []
      | none => rest 0 []
    else
      let (significand, left) := gather 0 (← digits)
      rest significand left
where
  rest (significand : Nat) (left : List Nat) : Decoder Number := do
    match ← peek with
    | some 0x2E => fraction positive significand left.length
    | some 0x65 => exponent positive significand left.length
    | some 0x45 => exponent positive significand left.length
    | _ =>
      if left ≠ [] then floatOfParts positive significand left.length
      else if positive then pure (.natural significand)
      else if significand = 0 ∨ Decimal.twoTo 63 < significand then
        pure (.float (Decimal.Binary64.ofRatio true significand 1))
      else pure (.negative (-significand))

end Decoder

end Provision.Json
