import Provision.Settings.Basic
import Provision.Text.Split

namespace Provision

/-!
# Reading settings

Settings are read from the command line, argument by argument, and from the environment where the
command line is silent.  A value that is an argument of its own is not looked at before the next
setting is named or the arguments end, so that an argument that means nothing is complained about
first.
-/

inductive Interruption where
  | refused (fault : UsageFault)
  /-- The user has asked for help, or for the version. -/
  | answered
  deriving DecidableEq, Repr

structure Arguments where
  settings : Settings
  /-- The settings that have been given. -/
  given : List Setting
  /-- The setting that has been named last, with its value if that has been seen. -/
  pending : Option (Setting × Option String)
  /-- Whether no more settings may be named. -/
  closed : Bool

inductive Argument where
  /-- Two hyphens alone. -/
  | closing
  /-- A name behind two hyphens, with the value behind an equals sign. -/
  | long (name : String) (value : Option String)
  /-- A letter behind a hyphen, with the value that follows. -/
  | letter (c : Char) (value : Option String)
  | word (text : String)
  deriving DecidableEq, Repr

namespace Argument

/-- The value behind a letter: what follows it, without an equals sign. -/
def letterValue? : List Char → Option String
  | [] => none
  | '=' :: rest => some (.ofList rest)
  | rest => some (.ofList rest)

def ofText (text : String) : Argument :=
  match text.toList with
  | ['-', '-'] => closing
  | '-' :: '-' :: rest =>
    match Text.cutFirst '=' rest with
    | some (name, value) => long (.ofList name) (some (.ofList value))
    | none => long (.ofList rest) none
  | '-' :: c :: rest => letter c (letterValue? rest)
  | _ => word text

end Argument

namespace Arguments

def start : Arguments := ⟨{}, [], none, false⟩

def accept (a : Arguments) (s : Setting) (value : String) : Except Interruption Arguments :=
  if s ∈ a.given ∧ !s.isRepeatable then .error (.refused (.repeated s))
  else
    match a.settings.set s value with
    | .ok settings => .ok { a with settings := settings, given := s :: a.given }
    | .error fault => .error (.refused fault)

def settle (a : Arguments) : Except Interruption Arguments :=
  match a.pending with
  | none => .ok a
  | some (s, none) => .error (.refused (.missingValue s))
  | some (s, some value) => accept { a with pending := none } s value

def name (a : Arguments) (s : Setting) (value : Option String) : Except Interruption Arguments := do
  let a ← a.settle
  match value with
  | some value => a.accept s value
  | none => return { a with pending := some (s, none) }

/-- Reads a name that stands alone: it is answered, or it is a setting without a value. -/
def nameAlone (a : Arguments) (shown : String) (s : Option Setting) (value : Option String) :
    Except Interruption Arguments := do
  match value with
  | some value => throw (.refused (.unneededValue shown value))
  | none =>
    let a ← a.settle
    match s with
    | none => throw .answered
    | some s => a.accept s "true"

/-- Reads an argument that names nothing: it may be a value. -/
def word (a : Arguments) (text : String) : Except Interruption Arguments :=
  match a.pending with
  | some (s, none) => .ok { a with pending := some (s, some text) }
  | _ => .error (.refused (.unexpected text))

def read (a : Arguments) (text : String) : Except Interruption Arguments :=
  if a.closed then .error (.refused (.unexpected text))
  else
    match Argument.ofText text with
    | .closing => .ok { a with closed := true }
    | .long long value =>
      if long = "help" ∨ long = "version" then a.nameAlone ("--" ++ long) none value
      else
        match Setting.ofLong? long with
        | none => .error (.refused (.unexpected ("--" ++ long)))
        | some s =>
          if s.takesValue then a.name s value else a.nameAlone s.text (some s) value
    | .letter c value =>
      if c = 'h' ∨ c = 'V' then a.nameAlone ("-" ++ c.toString) none none
      else
        match Setting.ofLetter? c with
        | none => .error (.refused (.unexpected ("-" ++ c.toString)))
        | some s => a.name s value
    | .word text => a.word text

/-- Reads a setting from the environment, unless it has been given before. -/
def lookUp (environment : List (String × String)) (a : Arguments) (s : Setting) :
    Except Interruption Arguments :=
  if s ∈ a.given then .ok a
  else
    match environment.lookup s.inEnvironment with
    | none => .ok a
    | some value => a.accept s value

end Arguments

def Settings.read (arguments : List String) (environment : List (String × String)) :
    Except Interruption Settings := do
  let a ← arguments.foldlM Arguments.read .start
  let a ← a.settle
  return (← Setting.all.foldlM (Arguments.lookUp environment) a).settings

end Provision
