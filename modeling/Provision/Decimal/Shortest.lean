import Provision.Decimal.Binary64

namespace Provision.Decimal

/-!
# Decimal texts of floating-point numbers

`shortest` finds the fewest decimal digits that still read back as a given number, and of those the
nearest; `rounded` rounds a ratio to a given decimal place, ties to even.  `positional` and
`scientific` write digits out.
-/

def digitCount (n : Nat) : Nat := (Nat.toDigits 10 n).length

/-- The exponent `k` with `10 ^ k ≤ num / den < 10 ^ (k + 1)`, for a positive ratio. -/
def magnitude (num den : Nat) : Int :=
  if den ≤ num then (digitCount (num / den) : Int) - 1
  else -(digitCount ((den + num - 1) / num - 1) : Int)

def scaleTen (num den : Nat) (exponent : Int) : Nat × Nat :=
  if exponent < 0 then (num * tenTo (-exponent).toNat, den)
  else (num, den * tenTo exponent.toNat)

structure Scaled where
  digits : Nat
  exponent : Int
  deriving DecidableEq, Repr, Inhabited

def rounded (num den : Nat) (exponent : Int) : Scaled :=
  let (n, d) := scaleTen num den exponent
  ⟨roundQuotient n d, exponent⟩

/-- Of the two neighbours of `num / den` on the grid of multiples of `10 ^ exponent`, the nearer one
that lies between `low / den` and `high / den`; the ends count iff `closed`. -/
def neighbour? (low num high den : Nat) (closed : Bool) (exponent : Int) : Option Scaled :=
  let (l, d) := scaleTen low den exponent
  let (n, _) := scaleTen num den exponent
  let (h, _) := scaleTen high den exponent
  let inside (c : Nat) : Bool :=
    if closed then l ≤ c * d && c * d ≤ h else l < c * d && c * d < h
  let below := n / d
  let above := below + 1
  -- of two that are equally near, the one above comes first
  let nearer := if 2 * (n % d) < d then below else above
  let other := if 2 * (n % d) < d then above else below
  if inside nearer then some ⟨nearer, exponent⟩
  else if inside other then some ⟨other, exponent⟩
  else none

/-- The first grid, from coarse to fine, on which a neighbour reads back. -/
def firstNeighbour (low num high den : Nat) (closed : Bool) (finest : Scaled) :
    Nat → Int → Scaled
  | 0, _ => finest
  | count + 1, exponent =>
    match neighbour? low num high den closed exponent with
    | some s => s
    | none => firstNeighbour low num high den closed finest count (exponent - 1)

/-- The fewest digits that read back as `mantissa * 2 ^ exponent`, and of those the nearest. -/
def shortest (mantissa : Nat) (exponent : Int) : Scaled :=
  if mantissa = 0 then ⟨0, 0⟩
  else
    -- counted in quarters of the last place; below a power of two the numbers lie closer
    let lowGap := if mantissa = twoTo 52 ∧ -1074 < exponent then 1 else 2
    let (unit, den) := Binary64.ratio 1 (exponent - 2)
    let num := 4 * mantissa * unit
    let top := magnitude num den
    firstNeighbour ((4 * mantissa - lowGap) * unit) num ((4 * mantissa + 2) * unit) den
      (mantissa % 2 = 0) (rounded num den (top - 16)) 17 top

def Scaled.trimmed (s : Scaled) : Scaled := go s.digits s.exponent (digitCount s.digits)
where
  go (digits : Nat) (exponent : Int) : Nat → Scaled
    | 0 => ⟨digits, exponent⟩
    | fuel + 1 =>
      if digits ≠ 0 ∧ digits % 10 = 0 then go (digits / 10) (exponent + 1) fuel
      else ⟨digits, exponent⟩

def Scaled.positional (s : Scaled) : List Char :=
  let ds := Nat.toDigits 10 s.digits
  if 0 ≤ s.exponent then
    if s.digits = 0 then ds else ds ++ List.replicate s.exponent.toNat '0'
  else
    let places := (-s.exponent).toNat
    let padded := List.replicate (places + 1 - ds.length) '0' ++ ds
    padded.take (padded.length - places) ++ '.' :: padded.drop (padded.length - places)

/-- A number as one digit, a point and the other digits, if any, and a power of ten after `mark`. -/
def Scaled.scientific (mark : Char) (s : Scaled) : List Char :=
  let ds := Nat.toDigits 10 s.digits
  let power : Int := if s.digits = 0 then 0 else s.exponent + ds.length - 1
  let fraction := if ds.length ≤ 1 then [] else '.' :: ds.drop 1
  ds.take 1 ++ fraction ++ mark :: (toString power).toList

end Provision.Decimal
