import Provision.Text.Quoted

namespace Provision

/-!
# Documents that do not have the expected form

What a decoder says about a document that is well formed but does not describe what it should, and
the places in a document that it says it of.
-/

/-- A place in a document.  Lines count from one; what a column counts, and from where, is for the
format to say. -/
structure Place where
  line : Nat
  column : Nat
  deriving DecidableEq, Repr, Inhabited

namespace Place

def text (p : Place) : String := "line " ++ toString p.line ++ " column " ++ toString p.column

end Place

inductive Found where
  | nothing
  | bool (b : Bool)
  | integer (n : Int)
  /-- An integer that does not fit in 64 bits. -/
  | wide (n : Int)
  | float (shown : String)
  | text (s : String)
  | list
  | object
  deriving DecidableEq, Repr

namespace Found

def describe (wordForNothing : String) : Found → String
  | nothing => wordForNothing
  | bool b => "boolean \x60" ++ (if b then "true" else "false") ++ "\x60"
  | integer n => "integer \x60" ++ toString n ++ "\x60"
  | wide n =>
    "integer \x60" ++ toString n ++ "\x60 as " ++ (if n < 0 then "i128" else "u128")
  | float shown => "floating point \x60" ++ shown ++ "\x60"
  | text s => "string " ++ Text.quote s
  | list => "sequence"
  | object => "map"

end Found

inductive Mismatch where
  | wrongType (found : Found) (expected : String)
  | wrongValue (found : Found) (expected : String)
  | wrongLength (length : Nat) (expected : String)
  | missing (field : String)
  | repeated (field : String)
  /-- The parts are of the right types but do not make up an entity. -/
  | refused (message : String)
  deriving DecidableEq, Repr

namespace Mismatch

def message (wordForNothing : String) : Mismatch → String
  | wrongType found expected =>
    "invalid type: " ++ found.describe wordForNothing ++ ", expected " ++ expected
  | wrongValue found expected =>
    "invalid value: " ++ found.describe wordForNothing ++ ", expected " ++ expected
  | wrongLength length expected =>
    "invalid length " ++ toString length ++ ", expected " ++ expected
  | missing field => "missing field \x60" ++ field ++ "\x60"
  | repeated field => "duplicate field \x60" ++ field ++ "\x60"
  | refused message => message

end Mismatch

end Provision
