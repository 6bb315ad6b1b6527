import Provision.Configuration.Document
import Provision.Failure
import Provision.Files.Search
import Provision.Log

namespace Provision.Configuration

/-!
# Loading

A configuration is loaded from the files that match a list of patterns, in the order of their base
names.  The patterns are gone through first: one that is malformed, or that leads to a directory
which cannot be looked into, is as far as loading comes.
-/

/-- The paths of what has been found; a directory that cannot be looked into counts as a file that
cannot be read. -/
def pathsOf : List Pattern.Match → Except Failure (List String)
  | [] => .ok []
  | .error e :: _ => .error (.unreadable e.path e.cause)
  | .ok path :: rest => do return path :: (← pathsOf rest)

def matching (t : FileTree) : List String → Except Failure (List String)
  | [] => .ok []
  | pattern :: rest => do
    match Pattern.paths t pattern with
    | .error e => throw (.invalidPattern pattern e.message)
    | .ok found =>
      let paths ← pathsOf found
      return paths ++ (← matching t rest)

/-- The paths in the order of their base names; those of one name stay in their order. -/
def ordered (paths : List String) : List String :=
  paths.mergeSort fun a b => !decide (Path.baseName b < Path.baseName a)

def ofFile (t : FileTree) (path : String) : Except Failure (Option Configuration) :=
  match t.readText path with
  | .error e => .error (.unreadable path e)
  | .ok text => (parse? text).mapError (.malformedFile path)

def ofFiles (t : FileTree) (c : Configuration) : List String → Except Failure Configuration
  | [] => .ok c
  | path :: rest => do
    match ← ofFile t path with
    | some d => ofFiles t (c.merge d) rest
    | none => ofFiles t c rest

def load (t : FileTree) (patterns : List String) : Except Failure Configuration := do
  ofFiles t empty (ordered (← matching t patterns))

def counts (c : Configuration) : List (String × Json) :=
  [("actions", .natural c.actions.length), ("checks", .natural c.checks.length),
    ("values", .natural c.values.length)]

/-- What is logged about a file that has been read; nothing, if its document is empty. -/
def fileLog (path text : String) : List LogLine :=
  match parse? text with
  | .ok (some c) => [⟨.debug, "loaded configuration document", ("path", .text path) :: c.counts⟩]
  | _ => []

def filesLog (t : FileTree) : List String → List LogLine
  | [] => []
  | path :: rest =>
    match ofFile t path, t.readText path with
    | .ok _, .ok text => fileLog path text ++ filesLog t rest
    | _, _ => []

def loadLog (t : FileTree) (patterns : List String) : List LogLine :=
  match matching t patterns with
  | .ok paths => filesLog t (ordered paths)
  | .error _ => []

end Provision.Configuration
