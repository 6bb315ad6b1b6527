import Provision.Json.Text

namespace Provision.Json

/-!
# Values that do not matter

The value of an unknown member is read and forgotten.  It may be nested to any depth, so what is
still open is kept in a list, and the value is scanned byte by byte.  Of the value only its syntax
is looked at: strings need not be texts, and numbers may be out of range.
-/

inductive Bracket where
  | list
  | object
  deriving DecidableEq, Repr

namespace Bracket

def closing : Bracket → UInt8
  | list => 0x5D
  | object => 0x7D

def ended : Bracket → Fault
  | list => .endInList
  | object => .endInObject

def notClosed : Bracket → Fault
  | list => .expectedListEnd
  | object => .expectedObjectEnd

end Bracket

/-- How far a number has been read. -/
inductive Digits where
  | sign
  | zero
  | whole
  | point
  | fraction
  | letter
  | letterSign
  | power
  deriving DecidableEq, Repr

/-- Where a scan stands. -/
inductive Skip where
  /-- A value has to come. -/
  | value
  /-- A bracket has just been opened; it is the innermost one. -/
  | opened
  /-- A value has ended. -/
  | ended
  /-- A key has to come. -/
  | key
  /-- A colon has to come. -/
  | colon
  /-- In a string. -/
  | text (isKey : Bool)
  /-- Behind a backslash. -/
  | escape (isKey : Bool)
  /-- Behind `count` of four hexadecimal digits. -/
  | hex (isKey : Bool) (count : Nat) (good : Bool)
  /-- In a word, of which these letters are missing. -/
  | word (missing : List UInt8)
  | number (d : Digits)
  deriving DecidableEq, Repr

inductive Skipped where
  /-- The byte is taken. -/
  | on (s : Skip) (open_ : List Bracket)
  /-- The value ended before the byte. -/
  | done
  /-- The value ends with the byte. -/
  | last
  /-- A fault at the place of the byte, behind it, or behind it after taking it. -/
  | here (f : Fault)
  | next (f : Fault)
  | behind (f : Fault)
  deriving DecidableEq, Repr

namespace Skip

def atValue (open_ : List Bracket) (b : UInt8) : Skipped :=
  match b with
  | 0x6E => .on (.word [0x75, 0x6C, 0x6C]) open_
  | 0x74 => .on (.word [0x72, 0x75, 0x65]) open_
  | 0x66 => .on (.word [0x61, 0x6C, 0x73, 0x65]) open_
  | 0x2D => .on (.number .sign) open_
  | 0x30 => .on (.number .zero) open_
  | 0x22 => .on (.text false) open_
  | 0x5B => .on .opened (.list :: open_)
  | 0x7B => .on .opened (.object :: open_)
  | _ => if Cursor.isDigit b then .on (.number .whole) open_ else .next .expectedValue

def atKey (open_ : List Bracket) (b : UInt8) : Skipped :=
  if b = 0x22 then .on (.text true) open_ else .next .keyNotText

def close : List Bracket → Skipped
  | [] => .done
  | [_] => .last
  | _ :: outer => .on .ended outer

def atEnded (open_ : List Bracket) (b : UInt8) : Skipped :=
  match open_ with
  | [] => .done
  | bracket :: _ =>
    if Cursor.isSpace b then .on .ended open_
    else if b = 0x2C then
      match bracket with
      | .list => .on .value open_
      | .object => .on .key open_
    else if b = bracket.closing then close open_
    else .next bracket.notClosed

def finish : List Bracket → Skipped
  | [] => .last
  | open_ => .on .ended open_

def atNumber (open_ : List Bracket) (d : Digits) (b : UInt8) : Skipped :=
  let digit := Cursor.isDigit b
  let isLetter := b = 0x65 ∨ b = 0x45
  match d with
  | .sign =>
    if b = 0x30 then .on (.number .zero) open_
    else if digit then .on (.number .whole) open_
    else .behind .invalidNumber
  | .zero =>
    if digit then .next .invalidNumber
    else if b = 0x2E then .on (.number .point) open_
    else if isLetter then .on (.number .letter) open_
    else atEnded open_ b
  | .whole =>
    if digit then .on (.number .whole) open_
    else if b = 0x2E then .on (.number .point) open_
    else if isLetter then .on (.number .letter) open_
    else atEnded open_ b
  | .point => if digit then .on (.number .fraction) open_ else .next .invalidNumber
  | .fraction =>
    if digit then .on (.number .fraction) open_
    else if isLetter then .on (.number .letter) open_
    else atEnded open_ b
  | .letter =>
    if b = 0x2B ∨ b = 0x2D then .on (.number .letterSign) open_
    else if digit then .on (.number .power) open_
    else .behind .invalidNumber
  | .letterSign => if digit then .on (.number .power) open_ else .behind .invalidNumber
  | .power => if digit then .on (.number .power) open_ else atEnded open_ b

def step (s : Skip) (open_ : List Bracket) (b : UInt8) : Skipped :=
  match s with
  | value => if Cursor.isSpace b then .on value open_ else atValue open_ b
  | opened =>
    if Cursor.isSpace b then .on opened open_
    else match open_ with
      | [] => .done
      | bracket :: _ =>
        if b = bracket.closing then close open_
        else match bracket with
          | .list => atValue open_ b
          | .object => atKey open_ b
  | ended => atEnded open_ b
  | key => if Cursor.isSpace b then .on key open_ else atKey open_ b
  | colon =>
    if Cursor.isSpace b then .on colon open_
    else if b = 0x3A then .on value open_
    else .next .expectedColon
  | text isKey =>
    if b = 0x22 then (if isKey then .on colon open_ else finish open_)
    else if b = 0x5C then .on (escape isKey) open_
    else if b < 0x20 then .here .controlCharacter
    else .on (text isKey) open_
  | escape isKey =>
    if b = 0x75 then .on (hex isKey 0 true) open_
    else if (escaped? b).isSome then .on (text isKey) open_
    else .behind .invalidEscape
  | hex isKey count good =>
    let good := good && (hexValue? b).isSome
    if count < 3 then .on (hex isKey (count + 1) good) open_
    else if good then .on (text isKey) open_
    else .behind .invalidEscape
  | word [] => atEnded open_ b
  | word [expected] => if b = expected then finish open_ else .behind .expectedWord
  | word (expected :: more) => if b = expected then .on (word more) open_ else .behind .expectedWord
  | number d => atNumber open_ d b

/-- Whether a value may have ended here. -/
def mayEnd : Skip → Bool
  | ended => true
  | number .zero => true
  | number .whole => true
  | number .fraction => true
  | number .power => true
  | _ => false

def atEnd (s : Skip) (open_ : List Bracket) : Fault :=
  match s with
  | value => .endInValue
  | word _ => .endInValue
  | opened => (open_.head?.map Bracket.ended).getD .endInValue
  | ended => (open_.head?.map Bracket.ended).getD .endInValue
  | key => .endInObject
  | colon => .endInObject
  | text _ => .endInText
  | escape _ => .endInText
  | hex .. => .endInText
  | number d =>
    if mayEnd (number d) then (open_.head?.map Bracket.ended).getD .endInValue
    else .invalidNumber

end Skip

/-- Scans a value that does not matter. -/
def skipValue (s : Skip) (open_ : List Bracket) (p : Place) :
    List UInt8 → EStateM.Result Failure Cursor Unit
  | [] =>
    if s.mayEnd ∧ open_ = [] then .ok () ⟨p, []⟩
    else .error ⟨s.atEnd open_, some p⟩ ⟨p, []⟩
  | b :: rest =>
    match s.step open_ b with
    | .on s' open' => skipValue s' open' (placeAfter p b) rest
    | .done => .ok () ⟨p, b :: rest⟩
    | .last => .ok () ⟨placeAfter p b, rest⟩
    | .here f => .error ⟨f, some p⟩ ⟨p, b :: rest⟩
    | .next f => .error ⟨f, some (placeAfter p b)⟩ ⟨p, b :: rest⟩
    | .behind f => .error ⟨f, some (placeAfter p b)⟩ ⟨placeAfter p b, rest⟩

def Decoder.ignored : Decoder Unit := fun k => skipValue .value [] k.place k.rest

end Provision.Json
