import Provision.Decoding.Mismatch

namespace Provision.Json

/-!
# Faults of JSON documents

A document that is read is not JSON, or it does not have the expected form.  The place of a fault
is given by the line and the number of bytes that were read on it.
-/

inductive Fault where
  | endInList
  | endInObject
  | endInText
  | endInValue
  | expectedColon
  | expectedListEnd
  | expectedObjectEnd
  | expectedWord
  | expectedValue
  | invalidEscape
  | invalidNumber
  | numberOutOfRange
  | invalidCodePoint
  | controlCharacter
  | keyNotText
  | loneSurrogate
  | trailingComma
  | trailingCharacters
  | endOfEscape
  | mismatch (m : Mismatch)
  deriving DecidableEq, Repr

namespace Fault

def message : Fault → String
  | endInList => "EOF while parsing a list"
  | endInObject => "EOF while parsing an object"
  | endInText => "EOF while parsing a string"
  | endInValue => "EOF while parsing a value"
  | expectedColon => "expected \x60:\x60"
  | expectedListEnd => "expected \x60,\x60 or \x60]\x60"
  | expectedObjectEnd => "expected \x60,\x60 or \x60\x7d\x60"
  | expectedWord => "expected ident"
  | expectedValue => "expected value"
  | invalidEscape => "invalid escape"
  | invalidNumber => "invalid number"
  | numberOutOfRange => "number out of range"
  | invalidCodePoint => "invalid unicode code point"
  | controlCharacter => "control character (\\u0000-\\u001F) found while parsing a string"
  | keyNotText => "key must be a string"
  | loneSurrogate => "lone leading surrogate in hex escape"
  | trailingComma => "trailing comma"
  | trailingCharacters => "trailing characters"
  | endOfEscape => "unexpected end of hex escape"
  | mismatch m => m.message "null"

end Fault

/-- A fault with its place.  A mismatch has no place until the value in which it lies ends. -/
structure Failure where
  fault : Fault
  place : Option Place
  deriving DecidableEq, Repr

namespace Failure

def message (f : Failure) : String :=
  match f.place with
  | some p => f.fault.message ++ " at " ++ p.text
  | none => f.fault.message

end Failure

end Provision.Json
