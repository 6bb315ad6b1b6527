import Provision.Decimal.Shortest

namespace Provision.Decimal

/-!
# Decimal literals

A literal is a sign, digits with a point somewhere, and an exponent; all but one of the digits may
be missing.  It stands for the floating-point number nearest to it.
-/

def decimal? (cs : List Char) : Option Nat :=
  if cs ≠ [] ∧ cs.all Char.isDigit then
    some (cs.foldl (fun n c => 10 * n + (c.toNat - '0'.toNat)) 0)
  else none

def splitSign : List Char → Bool × List Char
  | '-' :: cs => (true, cs)
  | '+' :: cs => (false, cs)
  | cs => (false, cs)

def decimalParts? (cs : List Char) : Option (List Char × List Char × Int) :=
  let whole := cs.takeWhile Char.isDigit
  let afterWhole := cs.dropWhile Char.isDigit
  let (fraction, afterFraction) :=
    match afterWhole with
    | '.' :: rest => (rest.takeWhile Char.isDigit, rest.dropWhile Char.isDigit)
    | _ => ([], afterWhole)
  if whole = [] ∧ fraction = [] then none
  else
    match afterFraction with
    | [] => some (whole, fraction, 0)
    | mark :: rest =>
      if mark = 'e' ∨ mark = 'E' then
        let (minus, digits) := splitSign rest
        (decimal? digits).map fun n => (whole, fraction, if minus then -(n : Int) else n)
      else none

/-- The floating-point number nearest to a decimal literal. -/
def binary64? (cs : List Char) : Option Binary64 :=
  let (minus, digits) := splitSign cs
  (decimalParts? digits).map fun (whole, fraction, exponent) =>
    let mantissa := (whole ++ fraction).dropWhile (· == '0')
    .ofDecimal minus ((decimal? mantissa).getD 0) mantissa.length (exponent - fraction.length)

/-- A number without an exponent: the fewest digits that read back. -/
def Binary64.positional (x : Binary64) : List Char :=
  (if x.isNegative then ['-'] else []) ++
    match x with
    | .finite _ m e => (shortest m e).trimmed.positional
    | .infinite _ => ['i', 'n', 'f']

end Provision.Decimal
