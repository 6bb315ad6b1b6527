import Provision.Files.Pattern
import Provision.Files.Tree

namespace Provision.Pattern

/-!
# The paths that match a pattern

A pattern for paths has a pattern for every component.  Components without wildcards are followed
without looking into directories; the others are compared with the names in a directory, in the
order of these.  A directory that cannot be looked into is found as such, in the place of what may
be in it.
-/

/-- A path, and whether it is known to lead to a directory. -/
structure Way where
  path : String
  isDirectory : Bool
  deriving DecidableEq, Repr

structure Unlisted where
  path : String
  cause : SystemError
  deriving DecidableEq, Repr

/-- What matches a pattern: a path, or what may be in a directory. -/
abbrev Match : Type := Except Unlisted String

def Way.of (t : FileTree) (path : String) : Way := ⟨path, t.hasDirectory path⟩

/-- The path of what is in a directory; nothing is put before what is in the working directory. -/
def below (path : String) (name : List Char) : String :=
  if Path.isDot path then String.ofList name else Path.join path (String.ofList name)

/-- What is in a directory, each with the name that its path ends in. -/
def children (t : FileTree) (path : String) : Except Unlisted (List (List Char × Way)) :=
  match t.listing path with
  | .ok names => .ok (names.map fun (name, isDirectory) => (name, ⟨below path name, isDirectory⟩))
  | .error cause => .error ⟨path, cause⟩

/-- What is in a directory and in the directories below it, each before what is in it; `depth`
bounds how deep they are. -/
def descendants (t : FileTree) : Nat → String → List (Except Unlisted (List Char × Way))
  | 0, _ => []
  | depth + 1, path =>
    match children t path with
    | .error e => [.error e]
    | .ok found =>
      found.flatMap fun (name, w) =>
        .ok (name, w) :: (if w.isDirectory then descendants t depth w.path else [])

/-- The dots that a pattern matches: only one that begins with a dot does. -/
def dots (p : Pattern) (path : String) : List String :=
  if p.head? = some (.char '.') then
    [['.', '.'], ['.']].filterMap fun dot =>
      if isMatch p dot then some (Path.join path (String.ofList dot)) else none
  else []

/-- What matches the patterns of components, from a way on.  The last component may have to be a
directory. -/
def search (t : FileTree) (directory : Bool) : List Pattern → Way → List Match
  | [], _ => []
  | p :: rest, w =>
    let goOn (v : Way) : List Match :=
      if rest = [] then (if !directory || v.isDirectory then [.ok v.path] else [])
      else search t directory rest v
    match literal? p with
    -- a name without wildcards is looked up, and the directory is not listed for it
    | some name =>
      let q := below w.path name
      let exists_ := if name = ['.'] ∨ name = ['.', '.'] then w.isDirectory
        else (t.find? q).isSome
      if exists_ then goOn (.of t q) else []
    | none =>
      if !w.isDirectory then []
      else if p = [.anyDepth] then
        -- each directory is an entry of its own, so that none lies deeper than there are entries
        (descendants t t.entries.length w.path).flatMap fun
          | .error e => [.error e]
          | .ok (name, v) =>
            match rest with
            | [] => if v.isDirectory then [.ok v.path] else []
            | next :: more =>
              if !isMatch next name then []
              else if more = [] then (if !directory || v.isDirectory then [.ok v.path] else [])
              else search t directory more v
      else
        match children t w.path with
        | .error e => [.error e]
        | .ok found =>
          (dots p w.path).flatMap (fun q => goOn (.of t q)) ++
            found.flatMap fun (name, v) => if isMatch p name then goOn v else []

/-- The patterns of the components of a pattern for paths; several that stand for any depth in a row
are one. -/
def components : List (List Char) → Except PatternError (List Pattern)
  | [] => .ok []
  | piece :: pieces => do
    let p ← parse piece
    let rest ← components pieces
    if p = [.anyDepth] ∧ rest.head? = some [.anyDepth] then .ok rest else .ok (p :: rest)

def pieces (pattern : List Char) : List (List Char) :=
  let pieces := Text.split '/' pattern
  if pieces.getLast? = some [] then pieces.dropLast else pieces

def paths (t : FileTree) (pattern : String) : Except PatternError (List Match) := do
  let text := pattern.toList
  -- the pattern is parsed as a whole for its faults, whose positions count from its start
  let _ ← parse text
  let relative := if Path.isAbsolute pattern then text.drop 1 else text
  let ps ← components (pieces relative)
  let ps := if relative = [] then [[]] else ps
  return search t (text.getLast? = some '/') ps
    (.of t (if Path.isAbsolute pattern then "/" else "."))

def beginsWildcard (c : Char) : Bool := c = '*' || c = '?' || c = '['

/-- The directory in which whatever matches a pattern lies, at some depth. -/
def root (pattern : String) : String :=
  match Text.cutLast '/' (pattern.toList.takeWhile fun c => !beginsWildcard c) with
  | some (directory, _) => String.ofList (directory ++ ['/'])
  | none => "."

end Provision.Pattern
