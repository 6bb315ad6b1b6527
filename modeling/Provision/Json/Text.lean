import Provision.Json.Cursor
import Provision.Text.Utf8

namespace Provision.Json

/-!
# Strings in JSON documents

A string is scanned byte by byte; what has been read of an escape is the scan's state.
-/

/-- Where a scan stands within an escape. -/
inductive Escape where
  | outside
  /-- Behind a backslash. -/
  | opened
  /-- Behind `count` of four hexadecimal digits, of value `value` if all are good; `leading` is the
  first half of a pair. -/
  | hex (leading : Option Nat) (count value : Nat) (good : Bool)
  /-- Behind the first half of a pair. -/
  | paired (leading : Nat)
  /-- Behind the first half of a pair and a backslash. -/
  | pairedOpened (leading : Nat)
  deriving DecidableEq, Repr

def hexValue? (b : UInt8) : Option Nat :=
  if 0x30 ≤ b ∧ b ≤ 0x39 then some (b.toNat - 0x30)
  else if 0x61 ≤ b ∧ b ≤ 0x66 then some (b.toNat - 0x57)
  else if 0x41 ≤ b ∧ b ≤ 0x46 then some (b.toNat - 0x37)
  else none

def escaped? (b : UInt8) : Option UInt8 :=
  match b with
  | 0x22 => some 0x22
  | 0x5C => some 0x5C
  | 0x2F => some 0x2F
  | 0x62 => some 0x08
  | 0x66 => some 0x0C
  | 0x6E => some 0x0A
  | 0x72 => some 0x0D
  | 0x74 => some 0x09
  | _ => none

def codePoint (n : Nat) : List UInt8 := String.utf8EncodeChar (Char.ofNat n)

/-- What one more byte makes of an escape: the bytes that are complete and the new state, or a
fault. -/
def Escape.step : Escape → UInt8 → Except Fault (List UInt8 × Escape)
  | outside, b => .ok ([b], outside)
  | opened, b =>
    if b = 0x75 then .ok ([], hex none 0 0 true)
    else match escaped? b with
      | some c => .ok ([c], outside)
      | none => .error .invalidEscape
  | hex leading count value good, b =>
    let (value, good) := match hexValue? b with
      | some d => (value * 16 + d, good)
      | none => (0, false)
    if count < 3 then .ok ([], hex leading (count + 1) value good)
    else if !good then .error .invalidEscape
    else match leading with
      | none =>
        if 0xDC00 ≤ value ∧ value ≤ 0xDFFF then .error .loneSurrogate
        else if 0xD800 ≤ value ∧ value ≤ 0xDBFF then .ok ([], paired value)
        else .ok (codePoint value, outside)
      | some high =>
        if 0xDC00 ≤ value ∧ value ≤ 0xDFFF then
          .ok (codePoint ((high - 0xD800) * 1024 + (value - 0xDC00) + 0x10000), outside)
        else .error .loneSurrogate
  | paired leading, b =>
    if b = 0x5C then .ok ([], pairedOpened leading) else .error .endOfEscape
  | pairedOpened leading, b =>
    if b = 0x75 then .ok ([], hex (some leading) 0 0 true) else .error .endOfEscape

/-- Scans a string up to and with its closing quote; the opening one has been read. -/
def scanText (e : Escape) (p : Place) : List UInt8 → EStateM.Result Failure Cursor (List UInt8)
  | [] => .error ⟨.endInText, some p⟩ ⟨p, []⟩
  | b :: rest =>
    if e = .outside ∧ b = 0x22 then .ok [] ⟨placeAfter p b, rest⟩
    else if e = .outside ∧ b = 0x5C then scanText .opened (placeAfter p b) rest
    else if e = .outside ∧ b < 0x20 then
      .error ⟨.controlCharacter, some (placeAfter p b)⟩ ⟨placeAfter p b, rest⟩
    else match e.step b with
      | .error fault => .error ⟨fault, some (placeAfter p b)⟩ ⟨placeAfter p b, rest⟩
      | .ok (bytes, e') =>
        match scanText e' (placeAfter p b) rest with
        | .ok more k => .ok (bytes ++ more) k
        | .error failure k => .error failure k

namespace Decoder

def text : Decoder String := fun k =>
  match scanText .outside k.place k.rest with
  | .error failure k' => .error failure k'
  | .ok bytes k' =>
    match Text.ofUtf8? bytes with
    | some s => .ok s k'
    | none =>
      .error ⟨.invalidCodePoint, some ⟨k'.place.line, k'.place.column - 1⟩⟩
        ⟨⟨k'.place.line, k'.place.column - 1⟩, 0x22 :: k'.rest⟩

end Decoder

end Provision.Json
