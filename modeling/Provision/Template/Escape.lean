import Provision.Decimal.Binary64

namespace Provision.Template

/-!
# Escapes in template literals

String, raw string and character literals are read unit by unit.  A unit is a plain character, a
simple escape, a run of byte escapes, a run of two-byte escapes, or a single long escape that ends
the literal.  A run goes on while a whole group is left, whatever marks the group.
-/

def hexValue? (c : Char) : Option Nat :=
  if '0' ≤ c ∧ c ≤ '9' then some (c.toNat - '0'.toNat)
  else if 'a' ≤ c ∧ c ≤ 'f' then some (c.toNat - 'a'.toNat + 10)
  else if 'A' ≤ c ∧ c ≤ 'F' then some (c.toNat - 'A'.toNat + 10)
  else none

/-- The value of a run of hexadecimal digits; a plus sign may stand in front. -/
def hex? (cs : List Char) : Option Nat :=
  let digits := match cs with
    | '+' :: rest => rest
    | _ => cs
  if digits = [] then none
  else digits.foldl (fun n c => n.bind fun n => (hexValue? c).map (16 * n + ·)) (some 0)

/-- Splits a text after a number of bytes; `none` if it is too short or a character is cut. -/
def splitBytes? : Nat → List Char → Option (List Char × List Char)
  | 0, cs => some ([], cs)
  | _ + 1, [] => none
  | n + 1, c :: cs =>
    if c.utf8Size ≤ n + 1 then
      (splitBytes? (n + 1 - c.utf8Size) cs).map fun (taken, rest) => (c :: taken, rest)
    else none
termination_by _ cs => cs.length

def byteCount (cs : List Char) : Nat := cs.foldr (fun c n => c.utf8Size + n) 0

/-- The values of the groups of `size` bytes with which a text begins, as long as a whole group is
left.  The first two characters of a group are its mark and are not read. -/
def groups? (size : Nat) : Nat → List Char → Option (List Nat × List Char)
  | 0, cs => some ([], cs)
  | fuel + 1, cs =>
    if byteCount cs < size then some ([], cs)
    else do
      let (group, rest) ← splitBytes? size cs
      let value ← hex? (group.drop 2)
      let (values, rest) ← groups? size fuel rest
      some (value :: values, rest)

def ofUnits? : List Nat → Option (List Char)
  | [] => some []
  | u :: rest =>
    if 0xD800 ≤ u ∧ u < 0xDC00 then
      match rest with
      | v :: rest =>
        if 0xDC00 ≤ v ∧ v < 0xE000 then
          (ofUnits? rest).map (Char.ofNat (0x10000 + (u - 0xD800) * 0x400 + (v - 0xDC00)) :: ·)
        else none
      | [] => none
    else if 0xDC00 ≤ u ∧ u < 0xE000 then none
    else (ofUnits? rest).map (Char.ofNat u :: ·)

def ofBytes? (bs : List Nat) : Option (List Char) :=
  (String.fromUTF8? ⟨(bs.map Nat.toUInt8).toArray⟩).map String.toList

def simpleEscape? : Char → Option Char
  | 'b' => some '\x08'
  | 'f' => some '\x0c'
  | 'n' => some '\n'
  | 'r' => some '\r'
  | 't' => some '\t'
  | '\'' => some '\''
  | '"' => some '"'
  | '\\' => some '\\'
  | _ => none

def unit? : List Char → Option (List Char × List Char)
  | [] => none
  | '\\' :: 'x' :: cs => do
    let (values, rest) ← groups? 4 (cs.length + 2) ('\\' :: 'x' :: cs)
    if values = [] then none else some (← ofBytes? values, rest)
  | '\\' :: 'u' :: cs => do
    let (values, rest) ← groups? 6 (cs.length + 2) ('\\' :: 'u' :: cs)
    if values = [] then none else some (← ofUnits? values, rest)
  | '\\' :: 'U' :: cs => do
    if byteCount cs ≠ 8 then none
    let value ← hex? cs
    if value.isValidChar then some ([Char.ofNat value], []) else none
  | '\\' :: c :: cs => (simpleEscape? c).map fun d => ([d], cs)
  | ['\\'] => none
  | c :: cs => some ([c], cs)

def unescape? (cs : List Char) : Option (List Char) := go cs.length cs
where
  go : Nat → List Char → Option (List Char)
    | _, [] => some []
    | 0, _ :: _ => none
    | fuel + 1, cs => do
      let (first, rest) ← unit? cs
      let others ← go fuel rest
      some (first ++ others)

def content (cs : List Char) : List Char := (cs.drop 1).dropLast

def stringLiteral? (cs : List Char) : Option String :=
  (unescape? (content cs)).map String.ofList

/-- The code point of a character literal, given with its quotes: it must hold a single unit, of
which only the first character counts. -/
def characterLiteral? (cs : List Char) : Option Nat := do
  let (first, rest) ← unit? (content cs)
  if rest = [] then first.head?.map Char.toNat else none

end Provision.Template
