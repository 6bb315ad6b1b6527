namespace Provision.Decimal

/-!
# Binary floating-point numbers of 64 bits

A finite number is `± mantissa * 2 ^ exponent` with `mantissa < 2 ^ 53` and `-1074 ≤ exponent`, in
the form in which the mantissa is as large as these bounds allow.  There is no "not a number".
-/

def twoTo (n : Nat) : Nat := Nat.pow 2 n

def tenTo (n : Nat) : Nat := Nat.pow 10 n

theorem twoTo_succ (n : Nat) : twoTo (n + 1) = twoTo n * 2 := rfl

theorem tenTo_succ (n : Nat) : tenTo (n + 1) = tenTo n * 10 := rfl

inductive Binary64 where
  | finite (negative : Bool) (mantissa : Nat) (exponent : Int)
  | infinite (negative : Bool)
  deriving DecidableEq, Repr, Inhabited

/-- The integer nearest to `num / den`; a tie goes to the even neighbour. -/
def roundQuotient (num den : Nat) : Nat :=
  let q := num / den
  let r := num % den
  if den < 2 * r ∨ (2 * r = den ∧ q % 2 = 1) then q + 1 else q

theorem roundQuotient_of_mul (q : Nat) {den : Nat} (h : 0 < den) :
    roundQuotient (q * den) den = q := by
  simp [roundQuotient, Nat.mul_div_cancel q h]
  omega

def scaleDown (num den : Nat) (exponent : Int) : Nat × Nat :=
  if exponent < 0 then (num * twoTo (-exponent).toNat, den)
  else (num, den * twoTo exponent.toNat)

namespace Binary64

def isNegative : Binary64 → Bool
  | finite s _ _ => s
  | infinite s => s

/-- The number nearest to `± num / den`; what lies beyond the largest number becomes infinite. -/
def ofRatio (negative : Bool) (num den : Nat) : Binary64 :=
  if num = 0 then finite negative 0 (-1074)
  else
    -- at the guess the quotient has 53 bits, or one too many
    let guess : Int := num.log2 - den.log2 - 53
    let (n, d) := scaleDown num den guess
    let exponent := max (if n / d < twoTo 53 then guess else guess + 1) (-1074)
    let (n, d) := scaleDown num den exponent
    let mantissa := roundQuotient n d
    -- rounding may carry into a new bit
    let (mantissa, exponent) :=
      if mantissa = twoTo 53 then (twoTo 52, exponent + 1) else (mantissa, exponent)
    if 971 < exponent then infinite negative else finite negative mantissa exponent

/-- The number nearest to `± digits * 10 ^ exponent`, where `digits` has `length` digits.  Numbers
far outside the range are decided by their magnitude alone. -/
def ofDecimal (negative : Bool) (digits length : Nat) (exponent : Int) : Binary64 :=
  if digits = 0 then finite negative 0 (-1074)
  else if 400 < exponent + length ∧ 400 < exponent then infinite negative
  else if exponent + length < -400 then finite negative 0 (-1074)
  else if exponent < 0 then ofRatio negative digits (tenTo (-exponent).toNat)
  else ofRatio negative (digits * tenTo exponent.toNat) 1

def ratio (mantissa : Nat) (exponent : Int) : Nat × Nat :=
  if exponent < 0 then (mantissa, twoTo (-exponent).toNat)
  else (mantissa * twoTo exponent.toNat, 1)

def truncate? : Binary64 → Option Nat
  | finite _ m e => let (n, d) := ratio m e; some (n / d)
  | infinite _ => none

def isIntegral : Binary64 → Bool
  | finite _ m e => let (n, d) := ratio m e; n % d = 0
  | infinite _ => false

/-- Whether the part after the point is less than `2 ^ -52`, the gap above one.  The part after the
point carries the number's sign, so it is so small for every finite negative number. -/
def fractionVanishes : Binary64 → Bool
  | finite s m e => let (n, d) := ratio m e; s || (n % d) * twoTo 52 < d
  | infinite _ => false

def times : Binary64 → Binary64 → Binary64
  | finite s m e, finite t k f =>
    let (a, b) := ratio m e
    let (c, d) := ratio k f
    ofRatio (s != t) (a * c) (b * d)
  | x, y => infinite (x.isNegative != y.isNegative)

def dividedBy : Binary64 → Binary64 → Binary64
  | finite s m e, finite t k f =>
    let (a, b) := ratio m e
    let (c, d) := ratio k f
    ofRatio (s != t) (a * d) (b * c)
  | x, y => infinite (x.isNegative != y.isNegative)

def isInfinite : Binary64 → Bool
  | finite .. => false
  | infinite _ => true

def isZero : Binary64 → Bool
  | finite _ m _ => m = 0
  | infinite _ => false

def negate : Binary64 → Binary64
  | finite s m e => finite (!s) m e
  | infinite s => infinite (!s)

/-- The order of two numbers; the two zeros are equal. -/
def order (x y : Binary64) : Ordering :=
  match x, y with
  | infinite s, infinite t => compare t s
  | infinite s, finite .. => if s then .lt else .gt
  | finite .., infinite t => if t then .gt else .lt
  | finite s m e, finite t k f =>
    let (a, b) := ratio m e
    let (c, d) := ratio k f
    let left : Int := if s then -(a * d : Nat) else (a * d : Nat)
    let right : Int := if t then -(c * b : Nat) else (c * b : Nat)
    compare left right

end Binary64

end Provision.Decimal
