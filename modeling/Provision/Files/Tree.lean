import Provision.Files.Path
import Provision.SystemError
import Provision.Text.Utf8

namespace Provision

/-!
# File trees

A file tree has files and directories at locations, which are the names on the way from the root.
The root is its own parent.  Paths are resolved as the operating system does it: whatever a path
goes through has to be a directory.  A path that does not begin with a slash starts at the working
directory.
-/

inductive Entry where
  | file (content : List UInt8)
  | directory
  deriving DecidableEq, Repr, Inhabited

abbrev Location : Type := List (List Char)

structure FileTree where
  entries : List (Location × Entry)
  working : Location := []
  /-- The files and directories that may not be read. -/
  barred : List Location := []
  deriving DecidableEq, Repr, Inhabited

/-- What the medium does with data that are written to a file: it takes all of them, or only a
number of bytes before it fails. -/
abbrev Medium : Type := Location → List UInt8 → Option (Nat × SystemError)

def Medium.boundless : Medium := fun _ _ => none

namespace FileTree

def empty : FileTree := { entries := [] }

def get? (t : FileTree) (l : Location) : Option Entry :=
  if l = [] then some .directory else t.entries.lookup l

def put (t : FileTree) (l : Location) (e : Entry) : FileTree := { t with entries := go t.entries }
where
  go : List (Location × Entry) → List (Location × Entry)
    | [] => [(l, e)]
    | (k, f) :: rest => if k = l then (l, e) :: rest else (k, f) :: go rest

/-- The tree without what is at a location and below it; the working directory stays. -/
def erase (t : FileTree) (l : Location) : FileTree :=
  { t with entries := t.entries.filter fun (k, _) => !l.isPrefixOf k || k.isPrefixOf t.working }

def files (t : FileTree) : List (Location × List UInt8) :=
  t.entries.filterMap fun
    | (l, .file content) =>
      if t.working.isPrefixOf l then some (l.drop t.working.length, content) else none
    | _ => none

def namesIn (t : FileTree) (l : Location) : List (List Char) :=
  (t.entries.filterMap fun (k, _) =>
    if k.dropLast = l then k.getLast? else none).mergeSort fun a b => !decide (b < a)

/-- The tree as a part of a larger one: it lies in a directory, in which one works there. -/
def within (t : FileTree) (directory : List Char) (others : List (Location × Entry)) :
    FileTree where
  entries := ([directory], .directory) :: others ++
    t.entries.map fun (l, e) => (directory :: l, e)
  working := directory :: t.working
  barred := t.barred.map fun l => directory :: l

/-- The most bytes that a name may have. -/
def longestName : Nat := 255

def pathLimit : Nat := 4096

def isTooLong (name : List Char) : Bool := longestName < (String.ofList name).utf8ByteSize

def enter (t : FileTree) (l : Location) : Except SystemError Unit :=
  match t.get? l with
  | some .directory => .ok ()
  | some (.file _) => .error .notDirectory
  | none => .error .noSuchFile

def walk (t : FileTree) (l : Location) : List (List Char) → Except SystemError Location
  | [] => .ok l
  | piece :: rest => do
    t.enter l
    if piece = [] ∨ piece = ['.'] then walk t l rest
    else if piece = ['.', '.'] then walk t l.dropLast rest
    else if isTooLong piece then .error .nameTooLong
    else walk t (l ++ [piece]) rest

def checkPath (path : String) : Except SystemError Unit :=
  if '\x00' ∈ path.toList then .error .nulInPath
  else if path = "" then .error .noSuchFile
  else if pathLimit ≤ path.utf8ByteSize then .error .nameTooLong
  else .ok ()

def start (t : FileTree) (path : String) : Location :=
  if Path.isAbsolute path then [] else t.working

def locate (t : FileTree) (path : String) : Except SystemError Location := do
  checkPath path
  let l ← t.walk (t.start path) (Path.pieces path)
  if (t.get? l).isNone then .error .noSuchFile else .ok l

def find? (t : FileTree) (path : String) : Option Entry :=
  match t.locate path with
  | .ok l => t.get? l
  | .error _ => none

def hasDirectory (t : FileTree) (path : String) : Bool := t.find? path = some .directory

def listing (t : FileTree) (path : String) : Except SystemError (List (List Char × Bool)) := do
  let l ← t.locate path
  t.enter l
  if l ∈ t.barred then .error .permissionDenied
  else
    .ok ((t.namesIn l).map fun name => (name, decide (t.get? (l ++ [name]) = some .directory)))

def readText (t : FileTree) (path : String) : Except SystemError String := do
  let l ← t.locate path
  if l ∈ t.barred then throw .permissionDenied
  match t.get? l with
  | some (.file content) =>
    match Text.ofUtf8? content with
    | some text => .ok text
    | none => .error .notText
  | some .directory => .error .isDirectory
  | none => .error .noSuchFile

/-- The location of the file that is opened to be written at a path; the file may not exist yet. -/
def target (t : FileTree) (path : String) : Except SystemError Location := do
  checkPath path
  let pieces := Path.pieces path
  let kept := (pieces.reverse.dropWhile (· = [])).reverse
  let parent ← t.walk (t.start path) kept.dropLast
  t.enter parent
  match kept.getLast? with
  | none => .error .isDirectory
  | some name =>
    if kept.length < pieces.length ∨ name = ['.'] ∨ name = ['.', '.'] then .error .isDirectory
    else if isTooLong name then .error .nameTooLong
    else if t.get? (parent ++ [name]) = some .directory then .error .isDirectory
    else .ok (parent ++ [name])

/-- Writes a file, which is created if need be.  What it held before is gone once it is open. -/
def write (medium : Medium) (t : FileTree) (path : String) (data : List UInt8) :
    Option SystemError × FileTree :=
  match t.target path with
  | .error e => (some e, t)
  | .ok l =>
    match medium l data with
    | none => (none, t.put l (.file data))
    | some (count, e) => (some e, t.put l (.file (data.take count)))

/-- The tree with directories wherever pieces of a path lead; it ends where a file is in the way. -/
def makeDirectories (t : FileTree) (l : Location) : List (List Char) → FileTree
  | [] => t
  | piece :: rest =>
    if piece = [] ∨ piece = ['.'] then makeDirectories t l rest
    else if piece = ['.', '.'] then makeDirectories t l.dropLast rest
    else
      let k := l ++ [piece]
      match t.get? k with
      | some .directory => makeDirectories t k rest
      | some (.file _) => t
      | none => makeDirectories (t.put k .directory) k rest

/-- The tree with a file or, without content, a directory at a path, and with the directories on the
way to it; what cannot be made is left out. -/
def provide (t : FileTree) (path : String) (content : Option (List UInt8)) : FileTree :=
  let pieces := Path.pieces path
  match content with
  | none => t.makeDirectories (t.start path) pieces
  | some data =>
    ((t.makeDirectories (t.start path) pieces.dropLast).write .boundless path data).2

def bar (t : FileTree) (path : String) : FileTree :=
  match t.locate path with
  | .ok l => { t with barred := l :: t.barred }
  | .error _ => t

def remove (t : FileTree) (path : String) : FileTree :=
  match t.locate path with
  | .ok l => t.erase l
  | .error _ => t

@[simp] theorem start_put (t : FileTree) (l : Location) (e : Entry) (path : String) :
    (t.put l e).start path = t.start path := rfl

theorem get?_nil (t : FileTree) : t.get? [] = some .directory := rfl

theorem lookup_go (l : Location) (e : Entry) (entries : List (Location × Entry)) (k : Location) :
    (put.go l e entries).lookup k = if k = l then some e else entries.lookup k := by
  induction entries with
  | nil =>
    by_cases h : k = l
    · simp [put.go, h]
    · simp [put.go, List.lookup_cons, h, beq_false_of_ne h]
  | cons entry rest ih =>
    obtain ⟨m, f⟩ := entry
    by_cases hm : m = l
    · subst hm
      by_cases h : k = m
      · simp [put.go, h]
      · simp [put.go, List.lookup_cons, h, beq_false_of_ne h]
    · by_cases h : k = m
      · subst h
        simp [put.go, hm]
      · simp [put.go, hm, List.lookup_cons, beq_false_of_ne h, ih]

/-- What is put at a location changes nothing anywhere else. -/
theorem get?_put (t : FileTree) {l : Location} (e : Entry) (k : Location) (hl : l ≠ []) :
    (t.put l e).get? k = if k = l then some e else t.get? k := by
  by_cases hk : k = []
  · subst hk
    simp [get?, Ne.symm hl]
  · simp [get?, hk, put, lookup_go]

end FileTree

end Provision
