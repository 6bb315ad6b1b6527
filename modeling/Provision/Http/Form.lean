import Provision.Text.Split
import Provision.Text.Utf8

namespace Provision.Form

/-!
# Forms

A form is written as pairs of a name and a text between ampersands.  A plus sign stands for a blank,
and a percent sign with two hexadecimal digits for a byte.
-/

def hexValue? (b : UInt8) : Option UInt8 :=
  if 0x30 ≤ b ∧ b ≤ 0x39 then some (b - 0x30)
  else if 0x61 ≤ b ∧ b ≤ 0x66 then some (b - 0x57)
  else if 0x41 ≤ b ∧ b ≤ 0x46 then some (b - 0x37)
  else none

def byte? (high low : UInt8) : Option UInt8 := do return (← hexValue? high) * 16 + (← hexValue? low)

/-- The bytes that a written text stands for; a percent sign without digits stands for itself. -/
def decodeBytes : List UInt8 → List UInt8
  | 0x25 :: high :: low :: rest =>
    match byte? high low with
    | some b => b :: decodeBytes rest
    | none => 0x25 :: decodeBytes (high :: low :: rest)
  | b :: rest => (if b = 0x2B then 0x20 else b) :: decodeBytes rest
  | [] => []

def decode (bytes : List UInt8) : String := Text.ofUtf8Lossy (decodeBytes bytes)

def pair (piece : List UInt8) : String × String :=
  match Text.cutFirst 0x3D piece with
  | some (name, text) => (decode name, decode text)
  | none => (decode piece, "")

def pairs (form : List UInt8) : List (String × String) :=
  ((Text.split 0x26 form).filter (· ≠ [])).map pair

/-- The text of a field, which is empty if there is none and may be given only once. -/
def field? (name : String) (form : List UInt8) : Option String :=
  match (pairs form).filter fun p => p.1 = name with
  | [] => some ""
  | [(_, text)] => some text
  | _ => none

end Provision.Form
