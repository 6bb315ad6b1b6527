import Provision.Configuration.Json
import Provision.Proofs.Configuration.Compiled
import Provision.Proofs.Json.Records

namespace Provision

/-!
# Configurations that are written and read back

What is written of a configuration in JSON is all of it but its compiled templates, and it is read
back in the same order.
-/

open Json.Decoder

theorem takes_assembleJson {α : Type} {made : Except Mismatch α} {a : α} (h : made = .ok a)
    (rest : List UInt8) : (assembleJson made).Takes [] a rest := by
  rw [h]
  exact takes_pure a rest

namespace Content

def uncompiled : Content → Content
  | value name => value name
  | template source _ => template source none

theorem json_uncompiled (content : Content) : content.uncompiled.json = content.json := by
  cases content <;> rfl

end Content

namespace Task

def uncompiled : Task → Task
  | file path content => file path content.uncompiled
  | unit u command => unit u command

theorem json_uncompiled (task : Task) : task.uncompiled.json = task.json := by
  cases task with
  | file path content => simp only [uncompiled, json, content.json_uncompiled]
  | unit u command => rfl

theorem compiled?_uncompiled (task : Task) : task.uncompiled.compiled? = none := by
  rcases task with ⟨path, _ | _⟩ | _ <;> rfl

theorem reads_jsonFileDecoder (path : String) (content : Content) :
    jsonFileDecoder.Reads (.object [("path", .text path), content.json])
      (file path content.uncompiled) := by
  have hpath : ReadsMember (jsonFileMember "path" {}) (.text path) { path := some path } := by
    rw [jsonFileMember, if_pos rfl]
    exact .field (reads_string path) "path" fun read => ({ path := read } : FileFields)
  cases content with
  | value name =>
      have hvalue : ReadsMember (jsonFileMember "value" { path := some path }) (.text name)
          { path := some path, value := some (some name) } := by
        rw [jsonFileMember, if_neg (by decide), if_pos rfl]
        exact .field ((reads_string name).optional nofun) "value" fun read =>
          ({ path := some path, value := read } : FileFields)
      have hparts : jsonFileParts.Reads (.object [("path", .text path), ("value", .text name)])
          (path, some name, none) :=
        .record_map (.cons hpath (.cons hvalue (.nil _)))
      exact hparts.bind fun rest => Takes.map (takes_assembleJson rfl rest) (file path)
  | template source compiled =>
      have htemplate : ReadsMember (jsonFileMember "template" { path := some path }) (.text source)
          { path := some path, template := some (some source) } := by
        rw [jsonFileMember, if_neg (by decide), if_neg (by decide), if_pos rfl]
        exact .field ((reads_string source).optional nofun) "template" fun read =>
          ({ path := some path, template := read } : FileFields)
      have hparts : jsonFileParts.Reads (.object [("path", .text path), ("template", .text source)])
          (path, none, some source) :=
        .record_map (.cons hpath (.cons htemplate (.nil _)))
      exact hparts.bind fun rest => Takes.map (takes_assembleJson rfl rest) (file path)

theorem reads_jsonTextsDecoder (kind : String) {first second : String} (hne : second ≠ first)
    (a b : String) : (jsonTextsDecoder kind first second).Reads
      (.object [(first, .text a), (second, .text b)]) (a, b) := by
  have hfirst : ReadsMember (jsonTextsMember first second first (none, none)) (.text a)
      (some a, none) := by
    rw [jsonTextsMember, if_pos rfl]
    exact .field (reads_string a) first fun read => (read, none)
  have hsecond : ReadsMember (jsonTextsMember first second second (some a, none)) (.text b)
      (some a, some b) := by
    rw [jsonTextsMember, if_neg hne, if_pos rfl]
    exact .field (reads_string b) second fun read => (some a, read)
  exact .record_map (.cons hfirst (.cons hsecond (.nil _)))

theorem reads_jsonUnitDecoder (u command : String) :
    jsonUnitDecoder.Reads (.object [("unit", .text u), ("command", .text command)])
      (unit u command) :=
  (reads_jsonTextsDecoder "SystemdAction" (by decide) u command).bind fun rest p => rfl

end Task

namespace Action

def uncompiled (a : Action) : Action := { a with task := a.task.uncompiled }

theorem json_uncompiled (a : Action) : a.uncompiled.json = a.json := by
  simp only [uncompiled, json, a.task.json_uncompiled]

/-- The JSON of an action is read back, but for a compiled template. -/
theorem reads_jsonDecoder (a : Action) : jsonDecoder.Reads a.json a.uncompiled := by
  obtain ⟨name, task⟩ := a
  have hname : ReadsMember (jsonMember "name" {}) (.text name) { name := some name } := by
    rw [jsonMember, if_pos rfl]
    exact .field (reads_string name) "name" fun read => ({ name := read } : Fields)
  cases task with
  | file path content =>
      have hfile : ReadsMember (jsonMember "file" { name := some name })
          (.object [("path", .text path), content.json])
          { name := some name, file := some (some (.file path content.uncompiled)) } := by
        rw [jsonMember, if_neg (by decide), if_pos rfl]
        exact .field ((Task.reads_jsonFileDecoder path content).optional nofun) "file" fun read =>
          ({ name := some name, file := read } : Fields)
      have hparts : jsonParts.Reads (json ⟨name, .file path content⟩)
          (name, some (.file path content.uncompiled), none) :=
        .record_map (.cons hname (.cons hfile (.nil _)))
      exact hparts.bind fun rest => takes_assembleJson rfl rest
  | unit u command =>
      have hunit : ReadsMember (jsonMember "systemd" { name := some name })
          (.object [("unit", .text u), ("command", .text command)])
          { name := some name, unit := some (some (.unit u command)) } := by
        rw [jsonMember, if_neg (by decide), if_neg (by decide), if_pos rfl]
        exact .field ((Task.reads_jsonUnitDecoder u command).optional nofun) "systemd" fun read =>
          ({ name := some name, unit := read } : Fields)
      have hparts : jsonParts.Reads (json ⟨name, .unit u command⟩)
          (name, none, some (.unit u command)) :=
        .record_map (.cons hname (.cons hunit (.nil _)))
      exact hparts.bind fun rest => takes_assembleJson rfl rest

end Action

theorem Probe.reads_jsonUnitDecoder (u description : String) :
    jsonUnitDecoder.Reads (.object [("unit", .text u), ("description", .text description)])
      (.unit u description) :=
  (Task.reads_jsonTextsDecoder "SystemdCheck" (by decide) u description).bind fun rest p => rfl

theorem Probe.reads_jsonServiceDecoder (name socket : String) :
    jsonServiceDecoder.Reads (.object [("name", .text name), ("socket", .text socket)])
      (.service name socket) :=
  (Task.reads_jsonTextsDecoder "GrpcCheck" (by decide) name socket).bind fun rest p => rfl

theorem Probe.reads_jsonHostDecoder (value : String) :
    jsonHostDecoder.Reads (.object [("value", .text value)]) (.host value) := by
  have hvalue : ReadsMember (jsonHostMember "value" none) (.text value) (some value) := by
    rw [jsonHostMember, if_pos rfl]
    exact .fieldValue (reads_string value) "value"
  exact .record_map (.cons hvalue (.nil _))

namespace Check

theorem reads_jsonDecoder (c : Check) : jsonDecoder.Reads c.json c := by
  obtain ⟨name, description, probe⟩ := c
  have hname : ReadsMember (jsonMember "name" {}) (.text name) { name := some name } := by
    rw [jsonMember, if_pos rfl]
    exact .field (reads_string name) "name" fun read => ({ name := read } : Fields)
  have hdescription (s : Fields) (hs : s.description = none) :
      ReadsMember (jsonMember "description" s) (.text description)
        { s with description := some description } := by
    rw [jsonMember, if_neg (by decide), if_neg (by decide), if_neg (by decide),
      if_neg (by decide), if_pos rfl, hs]
    exact .field (reads_string description) "description" fun read =>
      ({ s with description := read } : Fields)
  -- the only probe is read under its own key
  obtain ⟨s, hprobe, hnone, hread, hprobes⟩ : ∃ s : Fields,
      ReadsMember (jsonMember probe.json.1 { name := some name }) probe.json.2 s ∧
        s.description = none ∧ s.name = some name ∧
          s.unit.join.toList ++ s.service.join.toList ++ s.host.join.toList = [probe] := by
    cases probe with
    | unit u text =>
        refine ⟨{ name := some name, unit := some (some (.unit u text)) }, ?_, rfl, rfl, rfl⟩
        have hunit := Probe.reads_jsonUnitDecoder u text
        change ReadsMember (jsonMember "systemd" _) _ _
        rw [jsonMember, if_neg (by decide), if_pos rfl]
        exact .field (hunit.optional nofun) "systemd" fun read =>
          ({ name := some name, unit := read } : Fields)
    | service service socket =>
        refine ⟨{ name := some name, service := some (some (.service service socket)) }, ?_, rfl,
          rfl, rfl⟩
        have hservice := Probe.reads_jsonServiceDecoder service socket
        change ReadsMember (jsonMember "gRPC" _) _ _
        rw [jsonMember, if_neg (by decide), if_neg (by decide), if_pos rfl]
        exact .field (hservice.optional nofun) "gRPC" fun read =>
          ({ name := some name, service := read } : Fields)
    | host value =>
        refine ⟨{ name := some name, host := some (some (.host value)) }, ?_, rfl, rfl, rfl⟩
        have hhost := Probe.reads_jsonHostDecoder value
        change ReadsMember (jsonMember "dns" _) _ _
        rw [jsonMember, if_neg (by decide), if_neg (by decide), if_neg (by decide), if_pos rfl]
        exact .field (hhost.optional nofun) "dns" fun read =>
          ({ name := some name, host := read } : Fields)
  have hparts : jsonParts.Reads (json ⟨name, description, probe⟩) (s.name.getD "",
      s.unit.join.toList ++ s.service.join.toList ++ s.host.join.toList, description) :=
    .record_map (.cons hname (.cons hprobe (.cons (hdescription s hnone) (.nil _))))
  rw [hread, hprobes] at hparts
  exact hparts.bind fun rest => takes_assembleJson rfl rest

end Check

theorem Value.reads_jsonDecoder (v : Value) : jsonDecoder.Reads v.json v := by
  obtain ⟨name, description, secret⟩ := v
  have hname : ReadsMember (jsonMember "name" {}) (.text name) { name := some name } := by
    rw [jsonMember, if_pos rfl]
    exact .field (reads_string name) "name" fun read => ({ name := read } : Fields)
  have hdescription : ReadsMember (jsonMember "description" { name := some name })
      (.text description) { name := some name, description := some description } := by
    rw [jsonMember, if_neg (by decide), if_pos rfl]
    exact .field (reads_string description) "description" fun read =>
      ({ name := some name, description := read } : Fields)
  have hsecret : ReadsMember
      (jsonMember "secret" { name := some name, description := some description })
      (.bool secret)
      { name := some name, description := some description, secret := some secret } := by
    rw [jsonMember, if_neg (by decide), if_neg (by decide), if_pos rfl]
    exact .field (reads_bool secret) "secret" fun read =>
      ({ name := some name, description := some description, secret := read } : Fields)
  apply Reads.record (.cons hname (.cons hdescription (.cons hsecret (.nil _))))
  exact fun rest => takes_pure _ rest

namespace Configuration

def uncompiled (c : Configuration) : Configuration :=
  { c with actions := c.actions.map Action.uncompiled }

/-- The JSON of a configuration does not tell which templates have been compiled. -/
theorem json_uncompiled (c : Configuration) : c.uncompiled.json = c.json := by
  have hactions : Action.json ∘ Action.uncompiled = Action.json := funext Action.json_uncompiled
  rw [uncompiled, json, json, List.map_map, hactions]

theorem compiled?_of_mem_uncompiled {c : Configuration} :
    ∀ a ∈ c.uncompiled.actions, a.compiled? = none := by
  intro a ha
  obtain ⟨b, -, rfl⟩ := List.mem_map.mp ha
  exact b.task.compiled?_uncompiled

theorem reads_jsonDecoder (c : Configuration) : jsonDecoder.Reads c.json c.uncompiled := by
  obtain ⟨actions, checks, values⟩ := c
  let actions' := actions.map Action.uncompiled
  have hactions : ReadsMember (jsonMember "actions" {}) (.list (actions.map Action.json))
      { actions := some actions' } := by
    rw [jsonMember, if_pos rfl]
    exact .field (.list_map Action.reads_jsonDecoder actions) "actions" fun read =>
      ({ actions := read } : Fields)
  have hchecks : ReadsMember (jsonMember "checks" { actions := some actions' })
      (.list (checks.map Check.json)) { actions := some actions', checks := some checks } := by
    have hlist : (list Check.jsonDecoder).Reads (.list (checks.map Check.json))
        (checks.map id) := .list_map Check.reads_jsonDecoder checks
    rw [List.map_id] at hlist
    rw [jsonMember, if_neg (by decide), if_pos rfl]
    exact .field hlist "checks" fun read =>
      ({ actions := some actions', checks := read } : Fields)
  have hvalues : ReadsMember
      (jsonMember "values" { actions := some actions', checks := some checks })
      (.list (values.map Value.json))
      { actions := some actions', checks := some checks, values := some values } := by
    have hlist : (list Value.jsonDecoder).Reads (.list (values.map Value.json))
        (values.map id) := .list_map Value.reads_jsonDecoder values
    rw [List.map_id] at hlist
    rw [jsonMember, if_neg (by decide), if_neg (by decide), if_pos rfl]
    exact .field hlist "values" fun read =>
      ({ actions := some actions', checks := some checks, values := read } : Fields)
  exact .record_map (.cons hactions (.cons hchecks (.cons hvalues (.nil _))))

/-- However a configuration is spelled in JSON, it is read back. -/
theorem ofJson_eq_ok {c : Configuration} {cs : List Char} (h : Json.Spells c.json cs) :
    ofJson (String.ofList cs) = .ok c.uncompiled := by
  rw [ofJson, Json.utf8_ofList]
  exact c.reads_jsonDecoder.document h

/-- What is written of a configuration is read back in its order, without compiled templates, and it
is written in the same way again. -/
theorem ofJson_render (c : Configuration) :
    ofJson c.json.render = .ok c.uncompiled ∧
      (∀ a ∈ c.uncompiled.actions, a.compiled? = none) ∧
      c.uncompiled.json.render = c.json.render := by
  refine ⟨ofJson_eq_ok (Json.spells_chars c.json), compiled?_of_mem_uncompiled, ?_⟩
  rw [c.json_uncompiled]

end Configuration

end Provision
