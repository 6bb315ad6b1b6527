import Provision.Text.Split
import Provision.Text.Utf8

namespace Provision

/-!
# Requests

A request has a method, a target and headers.  The target is a path with a query, alone or behind a
scheme and an authority, or it is an authority.
-/

/-- A request, as far as it decides on the answer. -/
structure Request where
  method : String
  path : String
  query : List Char
  body : List UInt8
  deriving DecidableEq, Repr, Inhabited

namespace Request

def isTokenChar (c : Char) : Bool :=
  c.isAlphanum ||
    c ∈ ['!', '#', '$', '%', '&', '\'', '*', '+', '-', '.', '^', '_', '\x60', '|', '~']

def isToken (text : String) : Bool := text ≠ "" && text.toList.all isTokenChar

def isHeaderValue (text : String) : Bool :=
  text.toList.all fun c => c = '\t' || (' ' ≤ c && c ≠ '\x7f')

def isPathChar (c : Char) : Bool :=
  ('!' ≤ c && c ∉ ['#', '<', '>', '?', '\x60'])

def isQueryChar (c : Char) : Bool := '!' ≤ c && c ∉ ['"', '#', '<', '>']

def isAuthorityChar (c : Char) : Bool :=
  c.isAlphanum ||
    c ∈ ['!', '$', '%', '&', '\'', '(', ')', '*', '+', ',', '-', '.', ':', ';', '=', '@', '[', ']',
      '_', '~']

def isSchemeChar (c : Char) : Bool := c.isAlphanum || c = '+' || c = '-' || c = '.' || c = '~'

def withoutFragment (cs : List Char) : List Char := cs.takeWhile (· ≠ '#')

def pathAndQuery? (cs : List Char) : Option (List Char × List Char) :=
  let (path, query) := (Text.cutFirst '?' (withoutFragment cs)).getD (withoutFragment cs, [])
  if path.all isPathChar && query.all isQueryChar then
    some (if path = [] then ['/'] else path, query)
  else none

structure Authority where
  /-- How many colons could separate a port. -/
  colons : Nat
  opened : Bool
  closed : Bool
  percent : Bool
  /-- Whether nothing follows the last `@`. -/
  bare : Bool

def Authority.next? (a : Authority) (c : Char) : Option Authority :=
  if !isAuthorityChar c then none
  else if c = ':' then
    if 8 ≤ a.colons then none else some { a with colons := a.colons + 1, bare := false }
  else if c = '[' then
    if a.percent || a.opened then none else some { a with opened := true, bare := false }
  else if c = ']' then
    if !a.opened || a.closed then none
    else some { a with closed := true, colons := 0, percent := false, bare := false }
  -- what stands before is no host, and its colons separate no port
  else if c = '@' then some { a with colons := 0, percent := false, bare := true }
  else some { a with percent := a.percent || c = '%', bare := false }

def isAuthority (cs : List Char) : Bool :=
  match cs.foldlM Authority.next? ⟨0, false, false, false, false⟩ with
  | some a => a.opened = a.closed && a.colons ≤ 1 && !a.bare && !a.percent
  | none => false

def cutAuthority (cs : List Char) : List Char × List Char :=
  let ends (c : Char) : Bool := c = '/' || c = '?' || c = '#'
  (cs.takeWhile fun c => !ends c, cs.dropWhile fun c => !ends c)

def afterScheme? (cs : List Char) : Option (List Char) :=
  let scheme := cs.takeWhile isSchemeChar
  match cs.dropWhile isSchemeChar with
  | ':' :: '/' :: '/' :: rest => if scheme.length ≤ 64 then some rest else none
  | _ => none

def longestTarget : Nat := 65534

def target? (text : String) : Option (List Char × List Char) :=
  match text.toList with
  | [] => none
  | ['*'] => some (['*'], [])
  | cs =>
    if longestTarget < text.utf8ByteSize then none
    else if cs.head? = some '/' then pathAndQuery? cs
    else
      match afterScheme? cs with
      | some rest =>
        let (authority, rest) := cutAuthority rest
        if authority ≠ [] && isAuthority authority then pathAndQuery? rest else none
      | none =>
        -- without a scheme nothing may follow the authority
        let (authority, rest) := cutAuthority cs
        if rest = [] && isAuthority authority then some ([], []) else none

def of? (method target : String) (headers : List (String × String)) (body : List UInt8) :
    Option Request := do
  let (path, query) ← target? target
  if isToken method && headers.all fun h => isToken h.1 && isHeaderValue h.2 then
    some ⟨method, .ofList path, query, body⟩
  else none

def form (r : Request) : List UInt8 := Text.utf8 (.ofList r.query)

end Request

end Provision
