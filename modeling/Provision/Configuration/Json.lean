import Provision.Configuration.Document
import Provision.Json.Decoder

namespace Provision

/-!
# Configurations in JSON

A configuration is read back from the JSON that it is written in.  Each kind of entry is a record
with the fields that it has in documents; compiled templates are not written.
-/

open Json.Decoder

def assembleJson {α : Type} : Except Mismatch α → Json.Decoder α
  | .ok a => return a
  | .error m => fail m

namespace Value

def jsonMember (key : String) (s : Fields) : Json.Decoder Fields := do
  if key = "name" then return { s with name := ← fieldValue key s.name string }
  else if key = "description" then
    return { s with description := ← fieldValue key s.description string }
  else if key = "secret" then return { s with secret := ← fieldValue key s.secret bool }
  else
    memberValue ignored
    return s

def jsonDecoder : Json.Decoder Value :=
  record "struct Value"
    (do
      let s ← members jsonMember {}
      match s.name with
      | some name => return ⟨name, s.description.getD "", s.secret.getD false⟩
      | none => fail (.missing "name"))
    (do
      if !(← hasItem true) then fail (.wrongLength 0 "struct Value with 3 elements")
      let name ← string
      return ⟨name, ← element false string "", ← element false bool false⟩)

end Value

namespace Task

def jsonFileMember (key : String) (s : FileFields) : Json.Decoder FileFields := do
  if key = "path" then return { s with path := ← fieldValue key s.path string }
  else if key = "value" then
    return { s with value := ← fieldValue key s.value (optional string) }
  else if key = "template" then
    return { s with template := ← fieldValue key s.template (optional string) }
  else
    memberValue ignored
    return s

def jsonFileParts : Json.Decoder (String × Option String × Option String) :=
  record "struct RawFileAction"
    (do
      let s ← members jsonFileMember {}
      return (s.path.getD "", s.value.join, s.template.join))
    (do
      return (← element true string "", ← element false (optional string) none,
        ← element false (optional string) none))

def jsonFileDecoder : Json.Decoder Task := do
  let (path, name, text) ← jsonFileParts
  return file path (← assembleJson (Content.ofParts path name text))

def jsonTextsMember (first second key : String) (s : Option String × Option String) :
    Json.Decoder (Option String × Option String) := do
  if key = first then return (← fieldValue key s.1 string, s.2)
  else if key = second then return (s.1, ← fieldValue key s.2 string)
  else
    memberValue ignored
    return s

def jsonTextsDecoder (kind first second : String) : Json.Decoder (String × String) :=
  record ("struct " ++ kind)
    (do
      let s ← members (jsonTextsMember first second) (none, none)
      return (s.1.getD "", s.2.getD ""))
    (do return (← element true string "", ← element false string ""))

def jsonUnitDecoder : Json.Decoder Task := do
  let (u, command) ← jsonTextsDecoder "SystemdAction" "unit" "command"
  return unit u command

end Task

namespace Action

def jsonMember (key : String) (s : Fields) : Json.Decoder Fields := do
  if key = "name" then return { s with name := ← fieldValue key s.name string }
  else if key = "file" then
    return { s with file := ← fieldValue key s.file (optional Task.jsonFileDecoder) }
  else if key = "systemd" then
    return { s with unit := ← fieldValue key s.unit (optional Task.jsonUnitDecoder) }
  else
    memberValue ignored
    return s

def jsonParts : Json.Decoder (String × Option Task × Option Task) :=
  record "struct RawAction"
    (do
      let s ← members jsonMember {}
      return (s.name.getD "", s.file.join, s.unit.join))
    (do
      return (← element true string "", ← element false (optional Task.jsonFileDecoder) none,
        ← element false (optional Task.jsonUnitDecoder) none))

def jsonDecoder : Json.Decoder Action := do
  let (name, file, unit) ← jsonParts
  assembleJson (ofParts name file unit)

end Action

namespace Probe

def jsonUnitDecoder : Json.Decoder Probe := do
  let (u, description) ← Task.jsonTextsDecoder "SystemdCheck" "unit" "description"
  return unit u description

def jsonServiceDecoder : Json.Decoder Probe := do
  let (name, socket) ← Task.jsonTextsDecoder "GrpcCheck" "name" "socket"
  return service name socket

def jsonHostMember (key : String) (s : Option String) : Json.Decoder (Option String) := do
  if key = "value" then fieldValue key s string
  else
    memberValue ignored
    return s

def jsonHostDecoder : Json.Decoder Probe :=
  record "struct DnsCheck"
    (do
      let s ← members jsonHostMember none
      return host (s.getD ""))
    (do return host (← element true string ""))

end Probe

namespace Check

def jsonMember (key : String) (s : Fields) : Json.Decoder Fields := do
  if key = "name" then return { s with name := ← fieldValue key s.name string }
  else if key = "systemd" then
    return { s with unit := ← fieldValue key s.unit (optional Probe.jsonUnitDecoder) }
  else if key = "gRPC" then
    return { s with service := ← fieldValue key s.service (optional Probe.jsonServiceDecoder) }
  else if key = "dns" then
    return { s with host := ← fieldValue key s.host (optional Probe.jsonHostDecoder) }
  else if key = "description" then
    return { s with description := ← fieldValue key s.description string }
  else
    memberValue ignored
    return s

def jsonParts : Json.Decoder (String × List Probe × String) :=
  record "struct RawCheck"
    (do
      let s ← members jsonMember {}
      return (s.name.getD "",
        s.unit.join.toList ++ s.service.join.toList ++ s.host.join.toList,
        s.description.getD ""))
    (do
      let name ← element true string ""
      let unit ← element false (optional Probe.jsonUnitDecoder) none
      let service ← element false (optional Probe.jsonServiceDecoder) none
      let host ← element false (optional Probe.jsonHostDecoder) none
      return (name, unit.toList ++ service.toList ++ host.toList, ← element false string ""))

def jsonDecoder : Json.Decoder Check := do
  let (name, probes, description) ← jsonParts
  assembleJson (ofParts name description probes)

end Check

namespace Configuration

def jsonMember (key : String) (s : Fields) : Json.Decoder Fields := do
  if key = "actions" then
    return { s with actions := ← fieldValue key s.actions (list Action.jsonDecoder) }
  else if key = "checks" then
    return { s with checks := ← fieldValue key s.checks (list Check.jsonDecoder) }
  else if key = "values" then
    return { s with values := ← fieldValue key s.values (list Value.jsonDecoder) }
  else
    memberValue ignored
    return s

def jsonDecoder : Json.Decoder Configuration :=
  record "struct Configuration"
    (do
      let s ← members jsonMember {}
      return ⟨s.actions.getD [], s.checks.getD [], s.values.getD []⟩)
    (do
      return ⟨← element true (list Action.jsonDecoder) [],
        ← element false (list Check.jsonDecoder) [], ← element false (list Value.jsonDecoder) []⟩)

def ofJson (text : String) : Except Json.Failure Configuration :=
  Json.Decoder.document jsonDecoder (Text.utf8 text)

end Configuration

end Provision
