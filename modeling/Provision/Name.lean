import Provision.Text.Quoted

namespace Provision.Name

/-!
# Names

Actions, checks, values and remote services have names of one grammar: a letter or an underscore,
followed by letters, digits, underscores and hyphens.  Letters and digits are those of ASCII.
-/

def grammar : String := "^[a-zA-Z_]+[a-zA-Z0-9_-]*$"

def isStart (c : Char) : Bool := c.isAlpha || c = '_'

def isPart (c : Char) : Bool := c.isAlphanum || c = '_' || c = '-'

def valid (name : String) : Bool :=
  match name.toList with
  | [] => false
  | c :: rest => isStart c && rest.all isPart

def mismatch (kind name : String) : String :=
  kind ++ " name " ++ Text.quote name ++ " does not match format " ++ grammar

theorem isPart_of_isStart {c : Char} (h : isStart c = true) : isPart c = true := by
  simp only [isStart, isPart, Char.isAlphanum, Bool.or_eq_true] at *
  rcases h with h | h <;> simp [h]

end Provision.Name
