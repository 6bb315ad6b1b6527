import Provision.Text.Split

namespace Provision.Path

/-!
# Paths

A path is a text of components between slashes.  Empty components count for nothing, and so does a
dot, except where it begins a path.
-/

def pieces (path : String) : List (List Char) := Text.split '/' path.toList

def isAbsolute (path : String) : Bool := path.toList.head? = some '/'

def isDot (path : String) : Bool :=
  match pieces path with
  | ['.'] :: rest => rest.all fun piece => piece = [] || piece = ['.']
  | _ => false

def join (path name : String) : String :=
  if path = "" || path.toList.getLast? = some '/' then path ++ name else path ++ "/" ++ name

/-- The last component of a path; the whole path if that is no name. -/
def baseName (path : String) : String :=
  match ((pieces path).filter fun piece => piece ≠ [] && piece ≠ ['.']).getLast? with
  | none => path
  | some name => if name = ['.', '.'] then path else String.ofList name

end Provision.Path
