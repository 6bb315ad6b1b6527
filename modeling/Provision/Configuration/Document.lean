import Provision.Configuration.Basic
import Provision.Yaml.Decoder

namespace Provision

/-!
# Configurations as documents

Each kind of entry is a record; its fields may stand in any order, fields of other names are passed
over, and what is missing is empty.
-/

open Yaml Yaml.Decoder

/-- Makes up an entity of its parts, unless they do not go together. -/
def assemble {α : Type} : Except Mismatch α → Decoding α
  | .ok a => return a
  | .error m => fail m

namespace Value

/-- The fields of a value, as far as they have been read. -/
structure Fields where
  name : Option String := none
  description : Option String := none
  secret : Option Bool := none

def decoder : Yaml.Decoder Value :=
  record "Value"
    (fun key s path node => do
      if key = "name" then return { s with name := ← once key s.name string path node }
      else if key = "description" then
        return { s with description := ← once key s.description string path node }
      else if key = "secret" then return { s with secret := ← once key s.secret bool path node }
      else return s)
    ({} : Fields)
    (fun s =>
      match s.name with
      | some name => return ⟨name, s.description.getD "", s.secret.getD false⟩
      | none => fail (.missing "name"))

end Value

namespace Task

structure FileFields where
  path : Option String := none
  value : Option (Option String) := none
  template : Option (Option String) := none

def fileDecoder : Yaml.Decoder Task := fun path node => do
  let s ← record "RawFileAction"
    (fun key s path node => do
      if key = "path" then return { s with path := ← once key s.path string path node }
      else if key = "value" then
        return { s with value := ← once key s.value (optional string) path node }
      else if key = "template" then
        return { s with template := ← once key s.template (optional string) path node }
      else return s)
    ({} : FileFields) (fun s => return s) path node
  let location := s.path.getD ""
  return file location (← assemble (Content.ofParts location s.value.join s.template.join))

def textsDecoder (kind first second : String) : Yaml.Decoder (String × String) :=
  record kind
    (fun key s path node => do
      if key = first then return (← once key s.1 string path node, s.2)
      else if key = second then return (s.1, ← once key s.2 string path node)
      else return s)
    ((none, none) : Option String × Option String)
    (fun s => return (s.1.getD "", s.2.getD ""))

def unitDecoder : Yaml.Decoder Task := fun path node => do
  let (u, command) ← textsDecoder "SystemdAction" "unit" "command" path node
  return unit u command

end Task

namespace Action

structure Fields where
  name : Option String := none
  file : Option (Option Task) := none
  unit : Option (Option Task) := none

def decoder : Yaml.Decoder Action := fun path node => do
  let s ← record "RawAction"
    (fun key s path node => do
      if key = "name" then return { s with name := ← once key s.name string path node }
      else if key = "file" then
        return { s with file := ← once key s.file (optional Task.fileDecoder) path node }
      else if key = "systemd" then
        return { s with unit := ← once key s.unit (optional Task.unitDecoder) path node }
      else return s)
    ({} : Fields) (fun s => return s) path node
  assemble (ofParts (s.name.getD "") s.file.join s.unit.join)

end Action

namespace Probe

def unitDecoder : Yaml.Decoder Probe := fun path node => do
  let (u, description) ← Task.textsDecoder "SystemdCheck" "unit" "description" path node
  return unit u description

def serviceDecoder : Yaml.Decoder Probe := fun path node => do
  let (name, socket) ← Task.textsDecoder "GrpcCheck" "name" "socket" path node
  return service name socket

def hostDecoder : Yaml.Decoder Probe :=
  record "DnsCheck"
    (fun key s path node => if key = "value" then once key s string path node else return s)
    none (fun s => return host (s.getD ""))

end Probe

namespace Check

structure Fields where
  name : Option String := none
  unit : Option (Option Probe) := none
  service : Option (Option Probe) := none
  host : Option (Option Probe) := none
  description : Option String := none

def decoder : Yaml.Decoder Check := fun path node => do
  let s ← record "RawCheck"
    (fun key s path node => do
      if key = "name" then return { s with name := ← once key s.name string path node }
      else if key = "systemd" then
        return { s with unit := ← once key s.unit (optional Probe.unitDecoder) path node }
      else if key = "gRPC" then
        return { s with service := ← once key s.service (optional Probe.serviceDecoder) path node }
      else if key = "dns" then
        return { s with host := ← once key s.host (optional Probe.hostDecoder) path node }
      else if key = "description" then
        return { s with description := ← once key s.description string path node }
      else return s)
    ({} : Fields) (fun s => return s) path node
  assemble (ofParts (s.name.getD "") (s.description.getD "")
    (s.unit.join.toList ++ s.service.join.toList ++ s.host.join.toList))

end Check

namespace Configuration

structure Fields where
  actions : Option (List Action) := none
  checks : Option (List Check) := none
  values : Option (List Value) := none

def decoder : Yaml.Decoder Configuration :=
  record "Configuration"
    (fun key s path node => do
      if key = "actions" then
        return { s with actions := ← once key s.actions (list Action.decoder) path node }
      else if key = "checks" then
        return { s with checks := ← once key s.checks (list Check.decoder) path node }
      else if key = "values" then
        return { s with values := ← once key s.values (list Value.decoder) path node }
      else return s)
    ({} : Fields)
    (fun s => return ⟨s.actions.getD [], s.checks.getD [], s.values.getD []⟩)

def parse? (text : String) : Except Yaml.Failure (Option Configuration) :=
  Yaml.Decoder.document decoder text.toList

/-- A document that declares nothing but values is known by them. -/
theorem parse?_eq_of_values {text : String} {values : List Value}
    (h : ((parse? text).toOption.join.any fun c =>
      c.actions.isEmpty ∧ c.checks.isEmpty ∧ c.values = values) = true) :
    parse? text = .ok (some ⟨[], [], values⟩) := by
  generalize parse? text = read at h ⊢
  rcases read with e | _ | ⟨actions, checks, values'⟩
  · cases h
  · cases h
  · obtain ⟨ha, hk, rfl⟩ := of_decide_eq_true h
    obtain rfl : actions = [] := List.isEmpty_iff.mp ha
    obtain rfl : checks = [] := List.isEmpty_iff.mp hk
    rfl

/-- Reads a configuration from a document.  One that is empty declares nothing. -/
def parse (text : String) : Except Yaml.Failure Configuration := do
  return (← parse? text).getD empty

end Configuration

end Provision
