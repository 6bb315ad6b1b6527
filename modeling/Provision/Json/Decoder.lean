import Provision.Json.Ignored
import Provision.Json.Number

namespace Provision.Json.Decoder

/-!
# Decoders of JSON values

A decoder expects a value of one form.  What it finds instead is read as far as needed to describe
it.
-/

def unexpected {α : Type} (expected : String) : Decoder α := located do
  match ← peek with
  | some 0x6E =>
    advance
    word [0x75, 0x6C, 0x6C]
    fail (.wrongType .nothing expected)
  | some 0x74 =>
    advance
    word [0x72, 0x75, 0x65]
    fail (.wrongType (.bool true) expected)
  | some 0x66 =>
    advance
    word [0x61, 0x6C, 0x73, 0x65]
    fail (.wrongType (.bool false) expected)
  | some 0x2D =>
    advance
    fail (.wrongType (← number false).found expected)
  | some 0x22 =>
    advance
    fail (.wrongType (.text (← text)) expected)
  | some 0x5B => fail (.wrongType .list expected)
  | some 0x7B => fail (.wrongType .object expected)
  | some b =>
    if Cursor.isDigit b then fail (.wrongType (← number true).found expected)
    else failNext .expectedValue
  | none => failNext .expectedValue

def string : Decoder String := do
  match ← peekValue with
  | none => failNext .endInValue
  | some 0x22 => located do
    advance
    text
  | some _ => unexpected "a string"

def bool : Decoder Bool := do
  match ← peekValue with
  | none => failNext .endInValue
  | some 0x74 => located do
    advance
    word [0x72, 0x75, 0x65]
    return true
  | some 0x66 => located do
    advance
    word [0x61, 0x6C, 0x73, 0x65]
    return false
  | some _ => unexpected "a boolean"

/-- Reads what may be absent: a null. -/
def optional {α : Type} (value : Decoder α) : Decoder (Option α) := do
  match ← peekValue with
  | some 0x6E =>
    advance
    word [0x75, 0x6C, 0x6C]
    return none
  | _ => return some (← value)

def byte : Decoder Nat := do
  match ← peekValue with
  | none => failNext .endInValue
  | some b =>
    located do
      if b = 0x2D then
        advance
        check (← number false)
      else if Cursor.isDigit b then check (← number true)
      else unexpected "u8"
where
  check : Number → Decoder Nat
    | .natural n =>
      if n < 256 then pure n else fail (.wrongValue (.integer n) "u8")
    | .negative n => fail (.wrongValue (.integer n) "u8")
    | .float x => fail (.wrongType (Number.float x).found "u8")

def hasItem (first : Bool) : Decoder Bool := do
  match ← peekValue with
  | none => failNext .endInList
  | some 0x5D => pure false
  | some b =>
    if first then pure true
    else if b = 0x2C then
      advance
      match ← peekValue with
      | some 0x5D => failNext .trailingComma
      | some _ => pure true
      | none => failNext .endInValue
    else failNext .expectedListEnd

/-- Reads the next item of a list, the first of all or a later one.  A list that has ended gives
what stands for it. -/
def element {α : Type} (first : Bool) (value : Decoder α) (absent : α) : Decoder α := do
  if ← hasItem first then value else return absent

def hasMember (first : Bool) : Decoder Bool := do
  match ← peekValue with
  | none => failNext .endInObject
  | some 0x7D => pure false
  | some b =>
    if first then
      if b = 0x22 then pure true else failNext .keyNotText
    else if b = 0x2C then
      advance
      match ← peekValue with
      | some 0x22 => pure true
      | some 0x7D => failNext .trailingComma
      | some _ => failNext .keyNotText
      | none => failNext .endInValue
    else failNext .expectedObjectEnd

def closeList : Decoder Unit := do
  match ← peekValue with
  | some 0x5D => advance
  | some 0x2C =>
    advance
    match ← peekValue with
    | some 0x5D => failNext .trailingComma
    | _ => failNext .trailingCharacters
  | some _ => failNext .trailingCharacters
  | none => failNext .endInList

def closeObject : Decoder Unit := do
  match ← peekValue with
  | some 0x7D => advance
  | some 0x2C => failNext .trailingComma
  | some _ => failNext .trailingCharacters
  | none => failNext .endInObject

def memberValue {α : Type} (value : Decoder α) : Decoder α := do
  match ← peekValue with
  | some 0x3A =>
    advance
    value
  | some _ => failNext .expectedColon
  | none => failNext .endInObject

/-- Reads the items of a list.  Every item takes at least one byte. -/
def itemsUpTo {α : Type} (item : Decoder α) : Nat → Bool → Decoder (List α)
  | 0, _ => pure []
  | fuel + 1, first => do
    if ← hasItem first then
      let a ← item
      return a :: (← itemsUpTo item fuel false)
    else return []

def membersUpTo {σ : Type} (member : String → σ → Decoder σ) : Nat → Bool → σ → Decoder σ
  | 0, _, s => pure s
  | fuel + 1, first, s => do
    if ← hasMember first then
      advance
      let key ← text
      membersUpTo member fuel false (← member key s)
    else return s

def items {α : Type} (item : Decoder α) : Decoder (List α) := fun k =>
  itemsUpTo item (k.rest.length + 1) true k

def members {σ : Type} (member : String → σ → Decoder σ) (s : σ) : Decoder σ := fun k =>
  membersUpTo member (k.rest.length + 1) true s k

def list {α : Type} (item : Decoder α) : Decoder (List α) := do
  match ← peekValue with
  | none => failNext .endInValue
  | some 0x5B => located do
    advance
    enclosed (items item) closeList
  | some _ => unexpected "a sequence"

def dictionary {σ : Type} (member : String → σ → Decoder σ) (s : σ) : Decoder σ := do
  match ← peekValue with
  | none => failNext .endInValue
  | some 0x7B => located do
    advance
    enclosed (members member s) closeObject
  | some _ => unexpected "a map"

/-- Reads a record: an object with its fields as members, or a list of their values in order. -/
def record {α : Type} (expected : String) (asObject asList : Decoder α) : Decoder α := do
  match ← peekValue with
  | none => failNext .endInValue
  | some 0x7B => located do
    advance
    enclosed asObject closeObject
  | some 0x5B => located do
    advance
    enclosed asList closeList
  | some _ => unexpected expected

def fieldValue {α : Type} (name : String) (before : Option α) (value : Decoder α) :
    Decoder (Option α) := do
  if before.isSome then fail (.repeated name)
  return some (← memberValue value)

def document {α : Type} (value : Decoder α) (bytes : List UInt8) : Except Failure α :=
  match (do
    let a ← value
    match ← peekValue with
    | some _ => failNext .trailingCharacters
    | none => return a) (Cursor.start bytes) with
  | .ok a _ => .ok a
  | .error failure _ => .error failure

end Provision.Json.Decoder
