import Provision.Failure
import Provision.Log
import Provision.Programs
import Provision.Text.Blank
import Provision.Text.Utf8
import Provision.Unit.Command
import Provision.Unit.Status

namespace Provision

/-!
# Unit managers

A unit manager issues commands on units and tells their status.  What it answers depends on the
device, and it may change whatever is there.
-/

structure UnitManager (σ : Type) where
  /-- Issues a command on a unit. -/
  run : UnitCommand → String → Device σ → Except Failure Unit × Device σ
  /-- Tells the status of a unit. -/
  status : String → Device σ → Except Failure UnitStatus × Device σ
  /-- What is logged before a command is issued. -/
  log : UnitCommand → String → List LogLine

namespace Systemctl

def program : String := "systemctl"

def commandArguments (command : UnitCommand) (unit : String) : List String := [command.text, unit]

def statusArguments (unit : String) : List String :=
  ["show", unit, "--property", "Result", "--property", "SubState"]

def logLine (arguments : List String) : LogLine :=
  ⟨.debug, "running command",
    [("program", .text program),
      ("args", .text ("[" ++ ", ".intercalate (arguments.map Text.quote) ++ "]"))]⟩

/-- Runs the program; it has to succeed. -/
def output {σ : Type} (run : Runner σ) (arguments : List String) (d : Device σ) :
    Except Failure String × Device σ :=
  match run program arguments d with
  | (.error cause, d) => (.error (.notStarted program cause), d)
  | (.ok o, d) =>
    if o.exit = 0 then (.ok (Text.ofUtf8Lossy o.stdout), d)
    else
      (.error (.notSuccessful program arguments ("exit status: " ++ toString o.exit)
        (Text.trimmed (Text.ofUtf8Lossy o.stderr))), d)

def manager {σ : Type} (run : Runner σ) : UnitManager σ where
  run command unit d :=
    match output run (commandArguments command unit) d with
    | (.ok _, d) => (.ok (), d)
    | (.error e, d) => (.error e, d)
  status unit d :=
    match output run (statusArguments unit) d with
    | (.ok shown, d) => (.ok (UnitStatus.parse shown), d)
    | (.error e, d) => (.error e, d)
  log command unit := [logLine (commandArguments command unit)]

end Systemctl

end Provision
