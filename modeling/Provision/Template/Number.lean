import Provision.Decimal.Literal

namespace Provision.Template

/-!
# Numbers of the template language

A number is a natural number below `2 ^ 64`, a negative integer not below `-2 ^ 63`, or a
floating-point number.  `Number.ofLiteral?` reads a literal as the first of these that holds it.
-/

open Decimal

inductive Number where
  | natural (n : Nat)
  | negative (n : Int)
  | real (x : Binary64)
  deriving DecidableEq, Repr, Inhabited

def hasFraction (cs : List Char) : Bool := cs.any fun c => c == '.' || c == 'e' || c == 'E'

namespace Number

/-- The integer with a sign, within the bounds of 64 bits. -/
def ofInteger? (minus : Bool) (n : Nat) : Option Number :=
  if minus then
    if n = 0 then some (natural 0) else if n ≤ twoTo 63 then some (negative (-n)) else none
  else if n < twoTo 64 then some (natural n) else none

/-- The integer as which a floating-point number is kept when it is one, or nearly so: the part
after the point is dropped and the bounds of 64 bits are not left. -/
def clamp (minus : Bool) (n : Nat) : Number :=
  if minus then
    if n = 0 then natural 0 else negative (-(min n (twoTo 63) : Nat))
  else natural (min n (twoTo 64 - 1))

/-- The integer equal to a floating-point number.  The bound `2 ^ 64` itself counts as the largest
natural number, since that is what it is nearest to. -/
def ofIntegral? (x : Binary64) : Option Number :=
  if x.isIntegral then
    match x.truncate? with
    | none => none
    | some n =>
      if n = 0 then some (natural 0)
      else if x.isNegative then if n ≤ twoTo 63 then some (negative (-n)) else none
      else if n ≤ twoTo 64 then some (clamp false n) else none
  else none

/-- A floating-point number as a value: one without a noticeable part after the point becomes an
integer. -/
def ofBinary64 (x : Binary64) : Number :=
  if x.fractionVanishes then
    match x.truncate? with
    | some n => clamp x.isNegative n
    | none => real x
  else real x

/-- The number that a literal stands for.  A text that is no decimal number stands for zero; an
integer that does not fit stands for nothing. -/
def ofLiteral? (cs : List Char) : Option Number :=
  let (minus, digits) := splitSign cs
  match (decimal? digits).bind (ofInteger? minus) with
  | some n => some n
  | none =>
    match binary64? cs with
    | none => some (natural 0)
    | some x =>
      match ofIntegral? x with
      | some n => some n
      | none => if hasFraction cs then some (ofBinary64 x) else none

/-- Whether a number counts as true: all but the integer zero do. -/
def isTrue : Number → Bool
  | natural n => n != 0
  | negative _ => true
  | real _ => true

/-- The text of a number: the fewest digits, never an exponent. -/
def text : Number → String
  | natural n => toString n
  | negative n => toString n
  | real x => String.ofList x.positional

/-- The text of a floating-point number in a description: very small and very large ones have an
exponent, the others always a point. -/
def realDescription (x : Binary64) : List Char :=
  match x with
  | .infinite _ => x.positional
  | .finite s m e =>
    let d := (shortest m e).trimmed
    let top : Int := d.exponent + digitCount d.digits - 1
    (if s then ['-'] else []) ++
      if m ≠ 0 ∧ (top < -4 ∨ 16 ≤ top) then d.scientific 'e'
      else if 0 ≤ d.exponent then d.positional ++ ['.', '0']
      else d.positional

def description : Number → String
  | natural n => "Number(Number \x7b n: U(" ++ toString n ++ ") \x7d)"
  | negative n => "Number(Number \x7b n: I(" ++ toString n ++ ") \x7d)"
  | real x => "Number(Number \x7b n: F(" ++ String.ofList (realDescription x) ++ ") \x7d)"

/-- The order of two numbers of one kind: two floating-point numbers, two integers below `2 ^ 63`,
two natural numbers. -/
def order? : Number → Number → Option Ordering
  | natural a, natural b => some (compare a b)
  | natural a, negative b => if a < twoTo 63 then some (compare (a : Int) b) else none
  | negative a, natural b => if b < twoTo 63 then some (compare a (b : Int)) else none
  | negative a, negative b => some (compare a b)
  | real x, real y => some (x.order y)
  | _, _ => none

theorem ofLiteral?_digits {cs : List Char} {n : Nat} (hs : splitSign cs = (false, cs))
    (hd : decimal? cs = some n) (hn : n < twoTo 64) : ofLiteral? cs = some (natural n) := by
  have h : ofInteger? false n = some (natural n) := by
    rw [ofInteger?, if_neg Bool.false_ne_true, if_pos hn]
  simp [ofLiteral?, hs, hd, h]

end Number

end Provision.Template
