import Provision.Text.Printable

namespace Provision.Text

/-!
# Quoted texts in messages

Messages show names and paths in double quotes.  The quote, the backslash and the usual control
characters are written with a backslash; every other character that cannot be printed, or that
would attach itself to the character before it, is written as its code point in braces.
-/

def hexDigits (n : Nat) : List Char := Nat.toDigits 16 n

def codePoint (c : Char) : List Char := ['\\', 'u', '\x7b'] ++ hexDigits c.toNat ++ ['\x7d']

def quoteChar (c : Char) : List Char :=
  if c = '"' then ['\\', '"']
  else if c = '\\' then ['\\', '\\']
  else if c = '\n' then ['\\', 'n']
  else if c = '\r' then ['\\', 'r']
  else if c = '\t' then ['\\', 't']
  else if c.toNat = 0 then ['\\', '0']
  else if isPrintable c then [c]
  else codePoint c

def quote (s : String) : String :=
  String.ofList ('"' :: (s.toList.flatMap quoteChar ++ ['"']))

theorem quoteChar_of_plain {c : Char} (hp : isPrintable c = true) (hq : c ≠ '"') (hb : c ≠ '\\')
    (hn : c ≠ '\n') (hr : c ≠ '\r') (ht : c ≠ '\t') (h0 : c.toNat ≠ 0) : quoteChar c = [c] := by
  simp [quoteChar, hp, hq, hb, hn, hr, ht, h0]

end Provision.Text
