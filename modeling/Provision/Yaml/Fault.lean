import Provision.Decoding.Mismatch

namespace Provision.Yaml

/-!
# Faults of YAML documents

A text is not YAML, or what it says is not what was expected.  The latter has a path of keys and
indices from the root, and the place where the node at its end starts.
-/

inductive Step where
  | key (name : List Char)
  | index (n : Nat)
  /-- The value of a key that has no name. -/
  | unknown
  deriving DecidableEq, Repr

/-- A path, its last step first. -/
abbrev Path : Type := List Step

namespace Path

def text : Path → List Char
  | [] => ['.']
  | .index n :: parent => text parent ++ '[' :: (Nat.toDigits 10 n ++ [']'])
  | .key name :: parent => (if parent = [] then [] else text parent ++ ['.']) ++ name
  | .unknown :: parent => (if parent = [] then [] else text parent ++ ['.']) ++ ['?']

end Path

structure Spot where
  path : Path
  place : Place
  deriving DecidableEq, Repr

namespace Spot

def before (s : Spot) : String :=
  if s.path = [] then "" else String.ofList s.path.text ++ ": "

/-- What stands behind a message.  The very first place is not mentioned. -/
def behind (s : Spot) : String :=
  if s.place = ⟨1, 1⟩ then "" else " at " ++ s.place.text

end Spot

inductive Failure where
  /-- The text is not YAML, or an alias names no anchor. -/
  | broken (text : List Char)
  | severalDocuments
  /-- Aliases have been followed too often. -/
  | tooManyAliases
  /-- A mismatch has no spot until the collection in which it lies ends. -/
  | mismatch (m : Mismatch) (spot : Option Spot)
  deriving DecidableEq, Repr

namespace Failure

/-- What stands for the explanation why a text is not YAML. -/
def unexplained : List Char → String := fun _ => "<yaml syntax error>"

def message (failure : Failure) (explain : List Char → String := unexplained) : String :=
  match failure with
  | broken text => explain text
  | severalDocuments =>
    "deserializing from YAML containing more than one document is not supported"
  | tooManyAliases => "repetition limit exceeded"
  | mismatch m none => m.message "unit value"
  | mismatch m (some spot) => spot.before ++ m.message "unit value" ++ spot.behind

/-- Gives a mismatch without a spot the one of the node that ends. -/
def locate (path : Path) (mark : Place) : Failure → Failure
  | mismatch m none => mismatch m (some ⟨path, mark⟩)
  | failure => failure

end Failure

end Provision.Yaml
