import Provision.Configuration.Document
import Provision.Proofs.Yaml.Widening

namespace Provision

/-!
# Entries beside sections

The records within sections have no fields named like a section, and pass over such entries.  So do
all of their decoders when an alias leads them back to the map of the sections.
-/

open Yaml

/-- The names of the sections of a configuration.  No other record has fields of these names. -/
def Configuration.sections : List String := ["actions", "checks", "values"]

theorem agrees_assemble {α : Type} (made : Except Mismatch α) (root root' : Node) :
    Agrees root root' Eq (assemble made) (assemble made) := by
  cases made with
  | ok a => exact .pure rfl
  | error m => exact .throw _ _

open Provision.Configuration (sections)

theorem forall_sections {P : String → Prop} :
    (∀ name ∈ sections, P name) ↔ P "actions" ∧ P "checks" ∧ P "values" := by
  simp [sections]

theorem Value.overlooks_decoder : Overlooks sections decoder := by
  apply Overlooks.record
  · intro name s
    refine .ite (.update (.once .string name s.name) fun x => { s with name := x }) ?_
    refine .ite (.update (.once .string name s.description) fun x => { s with description := x }) ?_
    refine .ite (.update (.once .bool name s.secret) fun x => { s with secret := x }) ?_
    exact .pure s
  · rw [forall_sections]
    exact ⟨fun _ _ _ => rfl, fun _ _ _ => rfl, fun _ _ _ => rfl⟩
  · intro s root root'
    rcases hname : s.name with - | name
    · exact .throw _ _
    · exact .pure rfl

theorem Task.overlooks_fileDecoder : Overlooks sections fileDecoder := by
  apply Overlooks.bind
  · apply Overlooks.record
    · intro name s
      refine .ite (.update (.once .string name s.path) fun x => { s with path := x }) ?_
      refine .ite (.update (.once (.optional .string) name s.value)
        fun x => { s with value := x }) ?_
      refine .ite (.update (.once (.optional .string) name s.template)
        fun x => { s with template := x }) ?_
      exact .pure s
    · simp [forall_sections]
    · exact fun s _ _ => .pure rfl
  · intro s root root'
    apply (agrees_assemble _ root root').bind
    rintro content _ rfl
    exact .pure rfl

theorem Task.overlooks_textsDecoder (kind : String) {first second : String}
    (hfirst : first ∉ sections) (hsecond : second ∉ sections) :
    Overlooks sections (textsDecoder kind first second) := by
  apply Overlooks.record
  · intro name s
    refine .ite (.update (.once .string name s.1) fun x => (x, s.2)) ?_
    refine .ite (.update (.once .string name s.2) fun x => (s.1, x)) ?_
    exact .pure s
  · intro name hname s path node
    rw [if_neg (ne_of_mem_of_not_mem hname hfirst), if_neg (ne_of_mem_of_not_mem hname hsecond)]
  · exact fun s _ _ => .pure rfl

theorem Task.overlooks_unitDecoder : Overlooks sections unitDecoder := by
  have htexts : Overlooks sections (textsDecoder "SystemdAction" "unit" "command") :=
    overlooks_textsDecoder _ (by decide) (by decide)
  exact htexts.update fun texts => unit texts.1 texts.2

theorem Action.overlooks_decoder : Overlooks sections decoder := by
  apply Overlooks.bind
  · apply Overlooks.record
    · intro name s
      refine .ite (.update (.once .string name s.name) fun x => { s with name := x }) ?_
      refine .ite (.update (.once (.optional Task.overlooks_fileDecoder) name s.file)
        fun x => { s with file := x }) ?_
      refine .ite (.update (.once (.optional Task.overlooks_unitDecoder) name s.unit)
        fun x => { s with unit := x }) ?_
      exact .pure s
    · simp [forall_sections]
    · exact fun s _ _ => .pure rfl
  · exact fun s root root' => agrees_assemble _ root root'

theorem Probe.overlooks_unitDecoder : Overlooks sections unitDecoder := by
  have htexts : Overlooks sections (Task.textsDecoder "SystemdCheck" "unit" "description") :=
    Task.overlooks_textsDecoder _ (by decide) (by decide)
  exact htexts.update fun texts => unit texts.1 texts.2

theorem Probe.overlooks_serviceDecoder : Overlooks sections serviceDecoder := by
  have htexts : Overlooks sections (Task.textsDecoder "GrpcCheck" "name" "socket") :=
    Task.overlooks_textsDecoder _ (by decide) (by decide)
  exact htexts.update fun texts => service texts.1 texts.2

theorem Probe.overlooks_hostDecoder : Overlooks sections hostDecoder := by
  apply Overlooks.record
  · intro name s
    exact .ite (.once .string name s) (.pure s)
  · simp [forall_sections]
  · exact fun s _ _ => .pure rfl

theorem Check.overlooks_decoder : Overlooks sections decoder := by
  apply Overlooks.bind
  · apply Overlooks.record
    · intro name s
      refine .ite (.update (.once .string name s.name) fun x => { s with name := x }) ?_
      refine .ite (.update (.once (.optional Probe.overlooks_unitDecoder) name s.unit)
        fun x => { s with unit := x }) ?_
      refine .ite (.update (.once (.optional Probe.overlooks_serviceDecoder) name s.service)
        fun x => { s with service := x }) ?_
      refine .ite (.update (.once (.optional Probe.overlooks_hostDecoder) name s.host)
        fun x => { s with host := x }) ?_
      refine .ite (.update (.once .string name s.description)
        fun x => { s with description := x }) ?_
      exact .pure s
    · simp [forall_sections]
    · exact fun s _ _ => .pure rfl
  · exact fun s root root' => agrees_assemble _ root root'

namespace Configuration

namespace Fields

def read (name : String) (s : Fields) : Yaml.Decoder Fields := fun path node => do
  if name = "actions" then
    return { s with
      actions := ← Decoder.once name s.actions (Decoder.list Action.decoder) path node }
  else if name = "checks" then
    return { s with checks := ← Decoder.once name s.checks (Decoder.list Check.decoder) path node }
  else if name = "values" then
    return { s with values := ← Decoder.once name s.values (Decoder.list Value.decoder) path node }
  else return s

def made (s : Fields) : Configuration := ⟨s.actions.getD [], s.checks.getD [], s.values.getD []⟩

/-- No field within a section has the name of a section, so that a decoder does not notice the
sections that are added. -/
theorem overlooks_read (name : String) (s : Fields) : Overlooks sections (s.read name) := by
  refine .ite (.update (.once (.list Action.overlooks_decoder) name s.actions)
    fun x => { s with actions := x }) ?_
  refine .ite (.update (.once (.list Check.overlooks_decoder) name s.checks)
    fun x => { s with checks := x }) ?_
  refine .ite (.update (.once (.list Value.overlooks_decoder) name s.values)
    fun x => { s with values := x }) ?_
  exact .pure s

end Fields

theorem decoder_eq_record : decoder =
    Decoder.record "Configuration" Fields.read {} fun s : Fields => return s.made := rfl

end Configuration

end Provision
