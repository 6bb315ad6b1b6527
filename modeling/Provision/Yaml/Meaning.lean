import Provision.Decimal.Literal
import Provision.Decoding.Mismatch
import Provision.Yaml.Scalar

namespace Provision.Yaml.Meaning

/-!
# What scalars mean

A plain scalar is nothing, a truth value, a number or a text, by its form.  A tag fixes the type; a
scalar in quotes or in a block of its own is a text unless it has such a tag.
-/

def isNull (cs : List Char) : Bool :=
  String.ofList cs ∈ ["null", "Null", "NULL", "~"]

def bool? (cs : List Char) : Option Bool :=
  if String.ofList cs ∈ ["true", "True", "TRUE"] then some true
  else if String.ofList cs ∈ ["false", "False", "FALSE"] then some false
  else none

def digitValue? (c : Char) : Option Nat :=
  if c.isDigit then some (c.toNat - 48)
  else if 'a' ≤ c ∧ c ≤ 'f' then some (c.toNat - 87)
  else if 'A' ≤ c ∧ c ≤ 'F' then some (c.toNat - 55)
  else none

def digits? (base : Nat) (cs : List Char) : Option Nat :=
  if cs = [] then none
  else cs.foldlM (fun n c => do
    let d ← digitValue? c
    if d < base then some (n * base + d) else none) 0

/-- Whether a text begins with a zero and goes on with digits: it is not a number. -/
def hasLeadingZero (cs : List Char) : Bool :=
  match (Decimal.splitSign cs).2 with
  | '0' :: rest => rest ≠ [] && rest.all Char.isDigit
  | _ => false

/-- The natural number after a sign, to the base that comes before its digits. -/
def magnitude? (cs : List Char) : Option Nat :=
  match cs with
  | '0' :: 'x' :: rest => digits? 16 rest
  | '0' :: 'o' :: rest => digits? 8 rest
  | '0' :: 'b' :: rest => digits? 2 rest
  | _ => if hasLeadingZero cs then none else digits? 10 cs

/-- The integer that a text stands for, within the bounds of 128 bits. -/
def integer? (cs : List Char) : Option Found := do
  let (minus, rest) := Decimal.splitSign cs
  let n ← magnitude? rest
  if minus then
    if n ≤ Decimal.twoTo 63 then some (.integer (-n))
    else if n ≤ Decimal.twoTo 127 then some (.wide (-n))
    else none
  else if n < Decimal.twoTo 64 then some (.integer n)
  else if n < Decimal.twoTo 128 then some (.wide n)
  else none

/-- A floating-point number as messages show it: always with a point. -/
def floatText (x : Decimal.Binary64) : String :=
  let shown := x.positional
  String.ofList (if '.' ∈ shown then shown else shown ++ ['.', '0'])

def float? (cs : List Char) : Option String :=
  let (minus, rest) := Decimal.splitSign cs
  let unsigned := String.ofList rest
  if unsigned ∈ [".inf", ".Inf", ".INF"] then some (floatText (.infinite minus))
  else if String.ofList cs ∈ [".nan", ".NaN", ".NAN"] then some "NaN.0"
  else
    match Decimal.binary64? cs with
    | some x => if x.isInfinite then none else some (floatText x)
    | none => none

def plain (cs : List Char) : Found :=
  if cs = [] ∨ isNull cs then .nothing
  else
    match bool? cs with
    | some b => .bool b
    | none =>
      match integer? cs with
      | some n => n
      | none =>
        match if hasLeadingZero cs then none else float? cs with
        | some x => .float x
        | none => .text (String.ofList cs)

/-- The tags that fix the type of a scalar. -/
inductive TypeTag where
  | bool
  | integer
  | float
  | null
  deriving DecidableEq, Repr

namespace TypeTag

def ofTag? (tag : List Char) : Option TypeTag :=
  let name := String.ofList tag
  if name = "tag:yaml.org,2002:bool" then some bool
  else if name = "tag:yaml.org,2002:int" then some integer
  else if name = "tag:yaml.org,2002:float" then some float
  else if name = "tag:yaml.org,2002:null" then some null
  else none

def description : TypeTag → String
  | bool => "a boolean"
  | integer => "an integer"
  | float => "a float"
  | null => "null"

def read? (type : TypeTag) (cs : List Char) : Option Found :=
  match type with
  | bool => (bool? cs).map .bool
  | integer => integer? cs
  | float => (float? cs).map .float
  | null => if isNull cs then some .nothing else none

end TypeTag

/-- What a scalar is; `none` together with a type whose form it does not have. -/
def scalar (tag : Option (List Char)) (style : Style) (cs : List Char) : Except TypeTag Found :=
  match tag with
  | none => if style = .plain then .ok (plain cs) else .ok (.text (String.ofList cs))
  | some tag =>
    match TypeTag.ofTag? tag with
    | some type =>
      match type.read? cs with
      | some found => .ok found
      | none => .error type
    | none =>
      if tag.head? = some '!' ∧ style = .plain then .ok (plain cs)
      else .ok (.text (String.ofList cs))

def mismatch (tag : Option (List Char)) (style : Style) (cs : List Char) (expected : String) :
    Mismatch :=
  match scalar tag style cs with
  | .ok found => .wrongType found expected
  | .error type => .wrongValue (.text (String.ofList cs)) type.description

end Provision.Yaml.Meaning
