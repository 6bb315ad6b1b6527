import Provision.Text.Quoted
import Provision.Text.Split

namespace Provision.UnitName

/-!
# Unit names

A unit is named by a base that ends in the suffix of its kind.  The base may follow an instance
prefix and an `@`.
-/

def grammar : String :=
  "^([a-zA-Z0-9:._-]+@)?[a-zA-Z0-9:._-]+(\\.service|\\.socket|\\.device|\\.mount|\\.automount" ++
    "|\\.swap|\\.target|\\.path|\\.timer|\\.slice|\\.scope)$"

def kinds : List String :=
  [".service", ".socket", ".device", ".mount", ".automount", ".swap", ".target", ".path", ".timer",
    ".slice", ".scope"]

/-- The most characters that a unit name may have after its last `@`. -/
def longest : Nat := 256

def isPart (c : Char) : Bool := c.isAlphanum || c = ':' || c = '.' || c = '_' || c = '-'

/-- Whether a text is a base: characters of unit names, the last of which are a suffix, with at
least one character before it. -/
def isBase (cs : List Char) : Bool :=
  cs.all isPart && kinds.any fun kind =>
    kind.toList.isSuffixOf cs && decide (kind.length < cs.length)

def valid (unit : String) : Bool :=
  match Text.split '@' unit.toList with
  | [base] => isBase base
  | [instance_, base] => !instance_.isEmpty && instance_.all isPart && isBase base
  | _ => false

/-- What follows the last `@` of a unit name; the whole name if it has none. -/
def suffix (unit : String) : String := String.ofList (Text.afterLast '@' unit.toList)

/-- Whether the part after the last `@` is too long.  It is measured in bytes. -/
def tooLong (unit : String) : Bool := longest < (suffix unit).utf8ByteSize

def mismatch (unit : String) : String :=
  "unit name " ++ Text.quote unit ++ " does not match format " ++ grammar

def tooLongMessage : String := "unit name cannot exceed " ++ toString longest ++ " characters"

end Provision.UnitName
