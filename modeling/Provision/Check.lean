import Provision.Decoding.Mismatch
import Provision.Json.Value
import Provision.Unit.Name
import Provision.Value

namespace Provision

/-!
# Checks

A check tells what has to hold once every action has been executed.
-/

inductive Probe where
  /-- A unit that has to run. -/
  | unit (unit description : String)
  /-- A remote service that has to answer on a socket. -/
  | service (name socket : String)
  /-- The value that holds a host, which has to be known by name. -/
  | host (value : String)
  deriving DecidableEq, Repr, Inhabited

structure Check where
  name : String
  description : String
  probe : Probe
  deriving DecidableEq, Repr, Inhabited

namespace Probe

def fault? (declared : List Value) : Probe → Option String
  | unit u _ =>
    if u = "" then some "unit name cannot be empty"
    else if UnitName.tooLong u then some UnitName.tooLongMessage
    else if !UnitName.valid u then some (UnitName.mismatch u)
    else none
  | service name _ =>
    if name = "" then some "gRPC name cannot be empty"
    else if !Name.valid name then some (Name.mismatch "gRPC" name)
    else none
  | host value =>
    if value = "" then some "DNS value must point at a defined value"
    else if !Value.isDeclared declared value then
      some ("DNS value " ++ Text.quote value ++ " was not found")
    else none

def json : Probe → String × Json
  | unit u description =>
    ("systemd", .object [("unit", .text u), ("description", .text description)])
  | service name socket => ("gRPC", .object [("name", .text name), ("socket", .text socket)])
  | host value => ("dns", .object [("value", .text value)])

end Probe

namespace Check

def ofParts (name description : String) (probes : List Probe) : Except Mismatch Check :=
  match probes with
  | [probe] => .ok ⟨name, description, probe⟩
  | _ => .error (.refused ("check " ++ Text.quote name ++
      ": exactly one of 'dns', 'gRPC', or 'systemd' must be specified"))

def faults (declared : List Value) (c : Check) : List String :=
  if c.name = "" then ["check name cannot be empty"]
  else
    (if !Name.valid c.name then [Name.mismatch "check" c.name] else []) ++
      match c.probe.fault? declared with
      | none => []
      | some fault => ["check " ++ Text.quote c.name ++ ": " ++ fault]

def json (c : Check) : Json :=
  .object [("name", .text c.name), c.probe.json, ("description", .text c.description)]

end Check

end Provision
