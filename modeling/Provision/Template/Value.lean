import Provision.Submission
import Provision.Template.Number
import Provision.Text.Quoted

namespace Provision.Template

/-!
# Values of the template language

A template starts from a submission, which its dot denotes.  Nothing else is a map, so the entries
of a map are always texts.
-/

inductive Value where
  | absent
  | bool (b : Bool)
  | text (s : String)
  | number (n : Number)
  | map (entries : Submission)
  deriving DecidableEq, Repr, Inhabited

namespace Value

def isTrue : Value → Bool
  | absent => false
  | bool b => b
  | text s => s ≠ ""
  | number n => n.isTrue
  | map s => s.entries ≠ []

def describeText (s : String) : String := "String(" ++ Text.quote s ++ ")"

/-- The entries of a map, with their texts described. -/
def entriesText (s : Submission) : String :=
  "\x7b" ++ ", ".intercalate (s.entries.map fun (k, v) => Text.quote k ++ ": " ++ describeText v)
    ++ "\x7d"

def print : Value → String
  | absent => "<no value>"
  | bool b => if b then "true" else "false"
  | text s => s
  | number n => n.text
  | map s => entriesText s

def description : Value → String
  | absent => "NoValue"
  | bool b => "Bool(" ++ (if b then "true" else "false") ++ ")"
  | text s => describeText s
  | number n => n.description
  | map s => "Map(" ++ entriesText s ++ ")"

/-- The field of a map; every map has every field, but only maps have fields. -/
def field? : Value → String → Option Value
  | map s, name => some (((s.get? name).map text).getD absent)
  | _, _ => none

/-- The order of two values of one kind: numbers, booleans or texts. -/
def order? : Value → Value → Option Ordering
  | number a, number b => a.order? b
  | bool a, bool b => some (compare a.toNat b.toNat)
  | text a, text b => some (compare a b)
  | _, _ => none

@[simp] theorem print_text (s : String) : (text s).print = s := rfl

@[simp] theorem field?_map (s : Submission) (name : String) :
    (map s).field? name = some (((s.get? name).map text).getD absent) := rfl

end Value

end Provision.Template
