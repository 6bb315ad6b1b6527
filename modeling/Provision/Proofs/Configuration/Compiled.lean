import Provision.Configuration.Loading
import Provision.Configuration.Validation
import Provision.Pipeline
import Provision.Proofs.Configuration.WellFormed
import Provision.Proofs.Yaml.Yields

namespace Provision

/-!
# Compiled templates

Documents declare templates that are not compiled, and a compiled template that a configuration
holds has been compiled from the text beside it.  Whatever has been done to a configuration, this
decides what its pipeline is made of, and why there may be none.
-/

namespace Content

def compiled? : Content → Option Template
  | value _ => none
  | template _ compiled => compiled

theorem compiled?_of_ofParts {path : String} {name text : Option String} {content : Content}
    (h : ofParts path name text = .ok content) : content.compiled? = none := by
  rcases name with _ | name <;> rcases text with _ | text <;> cases h <;> rfl

end Content

def Task.compiled? : Task → Option Template
  | file _ content => content.compiled?
  | unit .. => none

def Action.compiled? (a : Action) : Option Template := a.task.compiled?

/-! ## Documents -/

open Yaml

theorem yields_assemble {α : Type} {P : α → Prop} {made : Except Mismatch α}
    (h : ∀ a, made = .ok a → P a) : Yields P (assemble made) := by
  rcases made with m | a
  · exact .fail m
  · exact .pure (h a rfl)

theorem Task.yields_fileDecoder (path : Path) (node : Node) :
    Yields (fun task => task.compiled? = none) (fileDecoder path node) := by
  apply (Yields.trivial _).bind
  rintro s -
  apply (yields_assemble fun _ h => Content.compiled?_of_ofParts h).bind
  intro content hcontent
  exact .pure hcontent

theorem Task.yields_unitDecoder (path : Path) (node : Node) :
    Yields (fun task => task.compiled? = none) (unitDecoder path node) := by
  apply (Yields.trivial _).bind
  rintro ⟨u, command⟩ -
  exact .pure rfl

namespace Action

/-- The tasks that have been read are as documents declare them. -/
structure Fields.Fresh (s : Fields) : Prop where
  file : ∀ read ∈ s.file, ∀ task ∈ read, task.compiled? = none
  unit : ∀ read ∈ s.unit, ∀ task ∈ read, task.compiled? = none

theorem compiled?_of_ofParts {name : String} {first second : Option Task} {a : Action}
    (h : ofParts name first second = .ok a)
    (hfirst : ∀ task ∈ first, task.compiled? = none)
    (hsecond : ∀ task ∈ second, task.compiled? = none) : a.compiled? = none := by
  rcases first with _ | task <;> rcases second with _ | task' <;> cases h
  · exact hsecond task' rfl
  · exact hfirst task rfl

theorem yields_decoder (path : Path) (node : Node) :
    Yields (fun a => a.compiled? = none) (decoder path node) := by
  apply Yields.bind (Q := Fields.Fresh)
  · apply Yields.record _ ⟨by simp, by simp⟩ fun s hs => .pure hs
    intro key s path node hs
    split_ifs
    · apply (Yields.trivial _).bind
      rintro name -
      exact .pure ⟨hs.file, hs.unit⟩
    · apply (Yields.once (Yields.optional Task.yields_fileDecoder) key s.file path node).bind
      intro file hfile
      exact .pure ⟨hfile, hs.unit⟩
    · apply (Yields.once (Yields.optional Task.yields_unitDecoder) key s.unit path node).bind
      intro unit hunit
      exact .pure ⟨hs.file, hunit⟩
    · exact .pure hs
  · intro s hs
    have hjoin {read : Option (Option Task)} (h : ∀ r ∈ read, ∀ task ∈ r, task.compiled? = none) :
        ∀ task ∈ read.join, task.compiled? = none := by
      intro task htask
      exact h (some task) (Option.join_eq_some_iff.mp htask) task rfl
    apply yields_assemble
    intro a ha
    exact compiled?_of_ofParts ha (hjoin hs.file) (hjoin hs.unit)

end Action

namespace Configuration

def Fields.Fresh (s : Fields) : Prop := ∀ read ∈ s.actions, ∀ a ∈ read, a.compiled? = none

theorem yields_decoder (path : Path) (node : Node) :
    Yields (fun c => ∀ a ∈ c.actions, a.compiled? = none) (decoder path node) := by
  have hstart : Fields.Fresh {} := by simp [Fields.Fresh]
  apply Yields.record _ hstart
  · intro s hs
    apply Yields.pure
    rcases hread : s.actions with _ | actions
    · simp
    · simpa [hread] using hs actions hread
  · intro key s path node hs
    split_ifs
    · apply (Yields.once (Yields.list Action.yields_decoder) key s.actions path node).bind
      intro actions hactions
      exact .pure hactions
    · apply (Yields.trivial _).bind
      rintro checks -
      exact .pure hs
    · apply (Yields.trivial _).bind
      rintro values -
      exact .pure hs
    · exact .pure hs

/-- No document brings a compiled template with it. -/
theorem compiled?_of_parse {document : String} {c : Configuration} (h : parse document = .ok c) :
    ∀ a ∈ c.actions, a.compiled? = none := by
  rcases hread : parse? document with e | o
  · simp [parse, hread, bind, Except.bind] at h
  · have hdeclared := Yields.document yields_decoder hread
    have hc : o.getD empty = c := by
      simpa [parse, hread, bind, Except.bind, pure, Except.pure] using h
    rw [← hc]
    rcases o with _ | d
    · simp [empty]
    · exact hdeclared d rfl

theorem compiled?_of_ofFile {t : FileTree} {path : String} {read : Option Configuration}
    (h : ofFile t path = .ok read) : ∀ c ∈ read, ∀ a ∈ c.actions, a.compiled? = none := by
  rcases ht : t.readText path with e | text
  · simp [ofFile, ht] at h
  · rcases hread : parse? text with e | o
    · simp [ofFile, ht, hread, Except.mapError] at h
    · obtain rfl : o = read := by simpa [ofFile, ht, hread, Except.mapError] using h
      exact Yields.document yields_decoder hread

theorem compiled?_of_ofFiles {t : FileTree} {c d : Configuration} {paths : List String}
    (hc : ∀ a ∈ c.actions, a.compiled? = none) (h : ofFiles t c paths = .ok d) :
    ∀ a ∈ d.actions, a.compiled? = none := by
  induction paths generalizing c with
  | nil =>
      cases h
      exact hc
  | cons path rest ih =>
      rcases hfile : ofFile t path with e | read
      · simp [ofFiles, hfile, bind, Except.bind] at h
      · cases read with
        | none => exact ih hc (by simpa [ofFiles, hfile, bind, Except.bind] using h)
        | some d =>
            have hread := compiled?_of_ofFile hfile d rfl
            have hmerge : ∀ a ∈ (c.merge d).actions, a.compiled? = none := by
              intro a ha
              exact (List.mem_append.mp ha).elim (hc a) (hread a)
            exact ih hmerge (by simpa [ofFiles, hfile, bind, Except.bind] using h)

/-- Neither does a configuration that is loaded from files. -/
theorem compiled?_of_load {t : FileTree} {patterns : List String} {c : Configuration}
    (h : load t patterns = .ok c) : ∀ a ∈ c.actions, a.compiled? = none := by
  rcases hpaths : matching t patterns with e | paths
  · simp [load, hpaths, bind, Except.bind] at h
  · have hfiles : ofFiles t empty (ordered paths) = .ok c := by
      simpa [load, hpaths, bind, Except.bind] using h
    exact compiled?_of_ofFiles (by simp [empty]) hfiles

end Configuration

/-! ## Soundness -/

/-- A compiled template is that of its own text. -/
def Content.Sound : Content → Prop
  | value _ => True
  | template text compiled => ∀ t ∈ compiled, Template.compile text = .ok t

/-- Whether the template compiles or not, it is sound afterwards. -/
theorem Content.Sound.compile {content : Content} (h : content.Sound) : content.compile.Sound := by
  cases content with
  | value name => exact h
  | template text compiled =>
      by_cases htext : text = ""
      · simpa [Content.compile, htext] using h
      · rcases ht : Template.compile text with e | t
        · simpa [Content.compile, htext, ht] using h
        · simp [Content.compile, htext, ht, Content.Sound]

def Task.Sound : Task → Prop
  | file _ content => content.Sound
  | unit .. => True

theorem Task.Sound.compile {task : Task} (h : task.Sound) : task.compile.Sound := by
  cases task with
  | unit u command => exact h
  | file path content =>
      by_cases hpath : path = ""
      · simpa [Task.compile, hpath] using h
      · have hcontent : content.compile.Sound := Content.Sound.compile h
        simpa [Task.compile, hpath, Task.Sound] using hcontent

theorem Task.sound_of_compiled?_eq_none {task : Task} (h : task.compiled? = none) :
    task.Sound := by
  rcases task with ⟨path, _ | ⟨text, compiled⟩⟩ | _
  · trivial
  · rintro t ht
    have hnone : compiled = none := h
    rw [hnone] at ht
    cases ht
  · trivial

/-- Only files hold compiled templates. -/
theorem Task.Sound.exists_of_compiled? {task : Task} (h : task.Sound) {t : Template}
    (ht : task.compiled? = some t) :
    ∃ path text, task = .file path (.template text (some t)) ∧ Template.compile text = .ok t := by
  rcases task with ⟨path, _ | ⟨text, compiled⟩⟩ | _
  · cases ht
  · have hsome : compiled = some t := ht
    exact ⟨path, text, by rw [hsome], h t hsome⟩
  · cases ht

namespace Configuration

def Sound (c : Configuration) : Prop := ∀ a ∈ c.actions, a.task.Sound

theorem sound_of_compiled?_eq_none {c : Configuration}
    (h : ∀ a ∈ c.actions, a.compiled? = none) : c.Sound :=
  fun a ha => Task.sound_of_compiled?_eq_none (h a ha)

theorem sound_empty : empty.Sound := by simp [Sound, empty]

theorem Sound.merge {c d : Configuration} (hc : c.Sound) (hd : d.Sound) : (c.merge d).Sound := by
  intro a ha
  exact (List.mem_append.mp ha).elim (hc a) (hd a)

theorem Sound.compile {c : Configuration} (h : c.Sound) : c.compile.Sound := by
  intro a ha
  obtain ⟨b, hb, rfl⟩ := List.mem_map.mp ha
  unfold Action.compile
  split
  · exact h b hb
  · exact (h b hb).compile

inductive Edit where
  /-- Replaces it by a document. -/
  | replace (document : String)
  | merge (document : String)
  /-- Replaces it by what the files that match the patterns declare. -/
  | load (files : FileTree) (patterns : List String)
  | validate

/-- The configuration after an edit; one that fails to read a document changes nothing. -/
def Edit.apply (c : Configuration) : Edit → Configuration
  | replace document => (parse document).toOption.getD c
  | merge document => ((parse document).map c.merge).toOption.getD c
  | load files patterns => (Configuration.load files patterns).toOption.getD c
  | validate => c.compile

def reached (edits : List Edit) : Configuration := edits.foldl Edit.apply empty

/-- Whatever is done to a configuration, a compiled template stays that of its own text. -/
theorem Sound.apply {c : Configuration} (h : c.Sound) (edit : Edit) : (edit.apply c).Sound := by
  cases edit with
  | replace document =>
      rcases hread : parse document with e | d
      · simpa [Edit.apply, hread, Except.toOption] using h
      · simpa [Edit.apply, hread, Except.toOption] using
          sound_of_compiled?_eq_none (compiled?_of_parse hread)
  | merge document =>
      rcases hread : parse document with e | d
      · simpa [Edit.apply, hread, Except.toOption, Except.map] using h
      · simpa [Edit.apply, hread, Except.toOption, Except.map] using
          h.merge (sound_of_compiled?_eq_none (compiled?_of_parse hread))
  | load files patterns =>
      rcases hread : Configuration.load files patterns with e | d
      · simpa [Edit.apply, hread, Except.toOption] using h
      · simpa [Edit.apply, hread, Except.toOption] using
          sound_of_compiled?_eq_none (compiled?_of_load hread)
  | validate => exact h.compile

theorem sound_reached (edits : List Edit) : (reached edits).Sound := by
  have hrun (c : Configuration) (hc : c.Sound) : (edits.foldl Edit.apply c).Sound := by
    induction edits generalizing c with
    | nil => exact hc
    | cons edit rest ih => exact ih _ (hc.apply edit)
  exact hrun empty sound_empty

end Configuration

end Provision
