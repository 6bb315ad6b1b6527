namespace Provision.Text

/-!
# Texts as bytes

The bytes of a text are its UTF-8 encoding.  `ofUtf8?` reads bytes that are such an encoding;
`ofUtf8Lossy` reads any bytes, with a replacement character for every longest piece that could have
begun a character and did not become one.
-/

def utf8 (s : String) : List UInt8 := s.toByteArray.data.toList

def ofUtf8? (bytes : List UInt8) : Option String := String.fromUTF8? ⟨bytes.toArray⟩

@[simp] theorem ofUtf8?_utf8 (s : String) : ofUtf8? (utf8 s) = some s := by
  have h : ByteArray.mk (utf8 s).toArray = s.toByteArray := by simp [utf8]
  unfold ofUtf8?
  rw [h, String.fromUTF8?, dif_pos s.isValidUTF8]
  rfl

/-- What the first byte of a character says: the bits of the character in it, how many bytes follow,
and the range of the first of these. -/
def leadingByte? (b : UInt8) : Option (Nat × Nat × UInt8 × UInt8) :=
  if b < 0x80 then some (b.toNat, 0, 0, 0)
  else if b < 0xC2 then none
  else if b < 0xE0 then some (b.toNat - 0xC0, 1, 0x80, 0xBF)
  else if b = 0xE0 then some (0, 2, 0xA0, 0xBF)
  else if b = 0xED then some (0xD, 2, 0x80, 0x9F)
  else if b < 0xF0 then some (b.toNat - 0xE0, 2, 0x80, 0xBF)
  else if b = 0xF0 then some (0, 3, 0x90, 0xBF)
  else if b < 0xF4 then some (b.toNat - 0xF0, 3, 0x80, 0xBF)
  else if b = 0xF4 then some (4, 3, 0x80, 0x8F)
  else none

/-- A character of which some bytes have been read: their bits, how many are missing, and the range
of the next. -/
structure PartialChar where
  bits : Nat
  missing : Nat
  low : UInt8
  high : UInt8
  deriving DecidableEq, Repr

/-- The character that stands for bytes which are not part of any. -/
def replacement : Char := '\ufffd'

def beginChar (b : UInt8) : List Char × Option PartialChar :=
  match leadingByte? b with
  | none => ([replacement], none)
  | some (bits, 0, _, _) => ([Char.ofNat bits], none)
  | some (bits, missing, low, high) => ([], some ⟨bits, missing, low, high⟩)

def decodeLossy : Option PartialChar → List UInt8 → List Char
  | none, [] => []
  | some _, [] => [replacement]
  | none, b :: rest =>
    let (cs, open?) := beginChar b
    cs ++ decodeLossy open? rest
  | some p, b :: rest =>
    if p.low ≤ b ∧ b ≤ p.high then
      let bits := p.bits * 64 + (b.toNat - 0x80)
      if p.missing = 1 then Char.ofNat bits :: decodeLossy none rest
      else decodeLossy (some ⟨bits, p.missing - 1, 0x80, 0xBF⟩) rest
    -- the byte goes on with nothing, but it may begin a character itself
    else
      let (cs, open?) := beginChar b
      replacement :: (cs ++ decodeLossy open? rest)

def ofUtf8Lossy (bytes : List UInt8) : String := String.ofList (decodeLossy none bytes)

end Provision.Text
