namespace Provision

/-!
# JSON texts

`Json.render` writes a value without any white space, and the members of an object in their order.
-/

/-- A JSON value.  Numbers are natural: no other is ever written. -/
inductive Json where
  | null
  | bool (b : Bool)
  | natural (n : Nat)
  | text (s : String)
  | list (items : List Json)
  | object (members : List (String × Json))
  deriving Repr, Inhabited

namespace Json

def hexDigit (n : Nat) : Char := if n < 10 then Char.ofNat (48 + n) else Char.ofNat (87 + n)

def escapeChar (c : Char) : List Char :=
  if c = '"' then ['\\', '"']
  else if c = '\\' then ['\\', '\\']
  else if c = '\n' then ['\\', 'n']
  else if c = '\r' then ['\\', 'r']
  else if c = '\t' then ['\\', 't']
  else if c = '\x08' then ['\\', 'b']
  else if c = '\x0c' then ['\\', 'f']
  else if c.toNat < 32 then
    ['\\', 'u', '0', '0', hexDigit (c.toNat / 16), hexDigit (c.toNat % 16)]
  else [c]

def renderText (s : String) : List Char := '"' :: (s.toList.flatMap escapeChar ++ ['"'])

mutual

def chars : Json → List Char
  | null => ['n', 'u', 'l', 'l']
  | bool true => ['t', 'r', 'u', 'e']
  | bool false => ['f', 'a', 'l', 's', 'e']
  | natural n => Nat.toDigits 10 n
  | text s => renderText s
  | list items => '[' :: itemsChars items
  | object members => '\x7b' :: membersChars members

def itemsChars : List Json → List Char
  | [] => [']']
  | [v] => chars v ++ [']']
  | v :: w :: rest => chars v ++ ',' :: itemsChars (w :: rest)

def membersChars : List (String × Json) → List Char
  | [] => ['\x7d']
  | [(k, v)] => renderText k ++ ':' :: (chars v ++ ['\x7d'])
  | (k, v) :: m :: rest => renderText k ++ ':' :: (chars v ++ ',' :: membersChars (m :: rest))

end

def render (v : Json) : String := String.ofList v.chars

theorem escapeChar_of_plain {c : Char} (hq : c ≠ '"') (hb : c ≠ '\\') (h : 32 ≤ c.toNat) :
    escapeChar c = [c] := by
  have hn : c ≠ '\n' := by rintro rfl; simp at h
  have hr : c ≠ '\r' := by rintro rfl; simp at h
  have ht : c ≠ '\t' := by rintro rfl; simp at h
  have h8 : c ≠ '\x08' := by rintro rfl; simp at h
  have hc : c ≠ '\x0c' := by rintro rfl; simp at h
  simp [escapeChar, hq, hb, hn, hr, ht, h8, hc, Nat.not_lt.mpr h]

end Json

end Provision
