import Provision.Files.Tree

namespace Provision

/-!
# External programs

Programs run on a device and may change whatever is on it.  Those that are known by a table only
print something and end with a code; both may depend on the second argument.  Their runs are
recorded.
-/

/-- What programs find and leave behind: the files, and a state of their own. -/
structure Device (σ : Type) where
  files : FileTree
  programs : σ

structure ProgramOutput where
  stdout : List UInt8
  stderr : List UInt8
  exit : Nat
  deriving DecidableEq, Repr, Inhabited

def ProgramOutput.silent : ProgramOutput := ⟨[], [], 0⟩

/-- Runs the program of a name with a list of arguments, or tells why it cannot be run.  What comes
of it depends on the device, and so does what it leaves there. -/
abbrev Runner (σ : Type) : Type :=
  String → List String → Device σ → Except String ProgramOutput × Device σ

/-- How a program behaves: usually, and for certain second arguments. -/
structure Program where
  usual : ProgramOutput
  byArgument : List (String × ProgramOutput)
  deriving DecidableEq, Repr, Inhabited

namespace Program

def silent : Program := ⟨.silent, []⟩

def output (p : Program) (arguments : List String) : ProgramOutput :=
  (arguments[1]?.bind fun a => p.byArgument.lookup a).getD p.usual

end Program

/-- The programs that can be run, and the runs so far: the name and the arguments of each. -/
structure Programs where
  table : List (String × Option Program)
  calls : List (List String)
  deriving DecidableEq, Repr, Inhabited

namespace Programs

def empty : Programs := ⟨[], []⟩

/-- The program of a name.  One that is not in the table is silent; one without behaviour does not
exist. -/
def find? (ps : Programs) (name : String) : Option Program :=
  (ps.table.lookup name).getD (some .silent)

def set (ps : Programs) (name : String) (p : Option Program) : Programs :=
  { ps with table := (name, p) :: ps.table.filter fun e => e.1 ≠ name }

def nulInArgument : String := "nul byte found in provided data"

/-- Runs a program of the table, or tells why it cannot be run.  The files are left alone. -/
def run : Runner Programs := fun name arguments d =>
  if arguments.any fun a => '\x00' ∈ a.toList then (.error nulInArgument, d)
  else
    match d.programs.find? name with
    | none => (.error SystemError.noSuchFile.message, d)
    | some p =>
      (.ok (p.output arguments),
        { d with programs :=
          { d.programs with calls := d.programs.calls ++ [name :: arguments] } })

end Programs

end Provision
