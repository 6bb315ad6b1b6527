import Provision.Decimal.Binary64
import Provision.Json.Value
import Provision.Text.Search
import Provision.Text.Split

namespace Provision

/-!
# Addresses

An address has four bytes, written in decimal between points, or eight groups of sixteen bits,
written in hexadecimal between colons.  In the longer form two colons stand for groups of zeros, and
the last two groups may be written as a shorter address.
-/

inductive Address where
  | short (bytes : List Nat)
  | long (groups : List Nat)
  deriving DecidableEq, Repr, Inhabited

namespace Address

def hexValue? (c : Char) : Option Nat :=
  if c.isDigit then some (c.toNat - 48)
  else if 'a' ≤ c ∧ c ≤ 'f' then some (c.toNat - 87)
  else if 'A' ≤ c ∧ c ≤ 'F' then some (c.toNat - 55)
  else none

def number? (base : Nat) (cs : List Char) : Option Nat :=
  if cs = [] then none
  else cs.foldlM (fun n c => do
    let d ← hexValue? c
    if d < base then some (n * base + d) else none) 0

/-- Reads a byte in decimal: at most three digits, and no zero before another digit. -/
def byte? (cs : List Char) : Option Nat := do
  if 3 < cs.length ∨ (cs.head? = some '0' ∧ 1 < cs.length) then none
  let n ← number? 10 cs
  if n < 256 then some n else none

def bytes? (cs : List Char) : Option (List Nat) := do
  let bytes ← (Text.split '.' cs).mapM byte?
  if bytes.length = 4 then some bytes else none

def group? (cs : List Char) : Option Nat := if 4 < cs.length then none else number? 16 cs

def groupsOfBytes : List Nat → List Nat
  | [a, b, c, d] => [a * 256 + b, c * 256 + d]
  | _ => []

/-- Reads groups between colons, of which the last may be four bytes. -/
def groups? (mayEndInBytes : Bool) : List (List Char) → Option (List Nat)
  | [] => some []
  | [last] =>
    match if mayEndInBytes then bytes? last else none with
    | some bytes => some (groupsOfBytes bytes)
    | none => (group? last).map ([·])
  | piece :: rest => do
    let g ← group? piece
    return g :: (← groups? mayEndInBytes rest)

def side? (mayEndInBytes : Bool) (cs : List Char) : Option (List Nat) :=
  if cs = [] then some [] else groups? mayEndInBytes (Text.split ':' cs)

def allGroups? (cs : List Char) : Option (List Nat) :=
  match Text.cutAt? [':', ':'] cs with
  | none => do
    let groups ← groups? true (Text.split ':' cs)
    if groups.length = 8 then some groups else none
  | some (before, after) => do
    let head ← side? false before
    let tail ← side? true after
    -- two colons stand for one group of zeros at least
    if head.length + tail.length < 8 then
      some (head ++ List.replicate (8 - head.length - tail.length) 0 ++ tail)
    else none

def ofText? (cs : List Char) : Option Address :=
  match bytes? cs with
  | some bytes => some (short bytes)
  | none => (allGroups? cs).map long

def decimal (n : Nat) : List Char := Nat.toDigits 10 n

def joined (sep : Char) : List (List Char) → List Char
  | [] => []
  | [piece] => piece
  | piece :: rest => piece ++ sep :: joined sep rest

def shown (groups : List Nat) : List Char := joined ':' (groups.map (Nat.toDigits 16))

def leadingZeros (groups : List Nat) : Nat := (groups.takeWhile (· = 0)).length

/-- Where the longest row of zeros begins, of several the first, and how long it is. -/
def longestZeros : List Nat → Nat × Nat
  | [] => (0, 0)
  | g :: rest =>
    let here := leadingZeros (g :: rest)
    let (start, length) := longestZeros rest
    if length ≤ here then (0, here) else (start + 1, length)

/-- An address as text.  The longest row of at least two zeros is left out, and a short address
within a long one is written as such. -/
def text : Address → List Char
  | short bytes => joined '.' (bytes.map decimal)
  | long groups =>
    match groups with
    | [0, 0, 0, 0, 0, 0xFFFF, a, b] =>
      "::ffff:".toList ++ joined '.' ([a / 256, a % 256, b / 256, b % 256].map decimal)
    | _ =>
      let (start, length) := longestZeros groups
      if 2 ≤ length then
        shown (groups.take start) ++ [':', ':'] ++ shown (groups.drop (start + length))
      else shown groups

/-- Reads one of up to four numbers of an address in the system's own notation: hexadecimal, octal
or decimal. -/
def part? (cs : List Char) : Option Nat :=
  match cs with
  | '0' :: 'x' :: rest => number? 16 rest
  | '0' :: 'X' :: rest => number? 16 rest
  | '0' :: c :: rest => number? 8 (c :: rest)
  | _ => number? 10 cs

/-- The bytes of the numbers of an address: the last fills all that is left. -/
def fill? : Nat → List Nat → Option (List Nat)
  | _, [] => none
  | left, [n] =>
    if n < Decimal.twoTo (8 * left) then
      some ((List.range left).reverse.map fun i => n / Decimal.twoTo (8 * i) % 256)
    else none
  | 0, _ => none
  | left + 1, n :: rest => do
    if 256 ≤ n then none
    return n :: (← fill? left rest)

/-- The address that a host without a name of its own stands for. -/
def ofHost? (host : List Char) : Option Address :=
  match ofText? host with
  | some a => some a
  | none => do
    let parts ← (Text.split '.' host).mapM part?
    if 4 < parts.length then none
    return short (← fill? 4 parts)

def unknownHost : String := "failed to lookup address information: Name or service not known"

/-- The addresses of a host on a machine that knows no names. -/
def lookup (host : List Char) : Except String (List Address) :=
  match ofHost? host with
  | some a => .ok [a]
  | none => .error unknownHost

end Address

end Provision
