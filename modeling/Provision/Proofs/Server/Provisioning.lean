import Provision.Proofs.Files.Directories
import Provision.Proofs.Onboarding.Encoding
import Provision.Proofs.Pipeline.Interpretation
import Provision.Proofs.Server.Routing
import Provision.Session

namespace Provision

/-!
# From a submission to the files

A configuration whose actions only write values fills files with what is submitted, byte for byte,
as long as the medium takes what is written.  A file that several actions write holds the value of
the last of them.
-/

variable {σ : Type}

/-- The action writes a value to a path at which a file can be opened. -/
def Action.WritesValue (t : FileTree) (a : Action) : Prop :=
  ∃ path name l, a.task = .file path (.value name) ∧ t.target path = .ok l

/-- The name of the value that the action writes to the file at a location. -/
def Action.valueAt? (t : FileTree) (l : Location) (a : Action) : Option String :=
  match a.task with
  | .file path (.value name) =>
    match t.target path with
    | .ok k => if k = l then some name else none
    | .error _ => none
  | _ => none

def lastValueAt? (t : FileTree) (actions : List Action) (l : Location) : Option String :=
  actions.reverse.findSome? (Action.valueAt? t l)

theorem lastValueAt?_cons (t : FileTree) (a : Action) (rest : List Action) (l : Location) :
    lastValueAt? t (a :: rest) l = (lastValueAt? t rest l).or (a.valueAt? t l) := by
  simp [lastValueAt?, List.findSome?_append]

theorem Action.valueAt?_of_target {t : FileTree} {a : Action} {path name : String} {k : Location}
    (htask : a.task = .file path (.value name)) (ht : t.target path = .ok k) (l : Location) :
    a.valueAt? t l = if k = l then some name else none := by
  simp only [valueAt?, htask, ht]

/-- The file that holds the text submitted for a name, which is empty if there is none. -/
def Submission.fileOf (s : Submission) (name : String) : Entry :=
  .file (Text.utf8 ((s.get? name).getD ""))

/-- The files have been filled with the values that actions write to them, and nothing else has been
done. -/
structure Provided (s : Submission) (t : FileTree) (actions : List Action) (w w' : World σ) :
    Prop where
  programs : w'.programs = w.programs
  directories : t.SameDirectories w'.files
  files : ∀ l, w'.files.get? l =
    match lastValueAt? t actions l with
    | some name => some (s.fileOf name)
    | none => w.files.get? l

variable {m : Machine σ} {s : Submission} {t : FileTree} {w w₁ w' : World σ} {a : Action}
  {actions : List Action}

/-- An action that writes a value does nothing else, and does not fail where a file can be opened.
-/
theorem interpret_value (hm : m.medium = .boundless) {path name : String} {l : Location}
    (ht : w.files.target path = .ok l) :
    (Task.file path (.value name)).interpret m s w =
      ⟨none, { w with files := w.files.put l (s.fileOf name) }, []⟩ := by
  simp [Task.interpret, Content.text, Content.taken, FileTree.write, ht, hm, Medium.boundless,
    Submission.fileOf]

theorem Provided.nil (h : t.SameDirectories w.files) : Provided s t [] w w :=
  ⟨rfl, h, fun _ => rfl⟩

theorem Provided.cons {path name : String} {k : Location}
    (htask : a.task = .file path (.value name)) (ht : t.target path = .ok k)
    (h : Provided s t actions { w with files := w.files.put k (s.fileOf name) } w') :
    Provided s t (a :: actions) w w' := by
  refine ⟨h.programs, h.directories, fun l => ?_⟩
  rw [h.files, lastValueAt?_cons, Action.valueAt?_of_target htask ht,
    FileTree.get?_put _ _ _ (FileTree.ne_nil_of_target ht)]
  -- a file that is written again later on does not show what this action has written
  rcases lastValueAt? t actions l with _ | last
  · by_cases hkl : k = l
    · simp [hkl]
    · simp [hkl, Ne.symm hkl]
  · rfl

/-- By induction on the actions: no directory comes or goes, so that the paths lead to the same
files throughout. -/
theorem interpretActions_provided (hm : m.medium = .boundless)
    (hactions : ∀ a ∈ actions, a.WritesValue t) (hw : t.SameDirectories w.files) :
    (interpretActions m s w actions).failure = none ∧
      Provided s t actions w (interpretActions m s w actions).world := by
  induction actions generalizing w with
  | nil => exact ⟨rfl, .nil hw⟩
  | cons a rest ih =>
      obtain ⟨⟨path, name, l, htask, ht⟩, hrest⟩ := List.forall_mem_cons.mp hactions
      -- what has been written before has made no directory, so that the path leads where it did
      have hopen := hw.target ht
      have hput : w.files.SameDirectories (w.files.put l (s.fileOf name)) := by
        simpa [FileTree.write, hopen, Medium.boundless, Submission.fileOf] using
          FileTree.sameDirectories_write .boundless w.files path (Text.utf8 ((s.get? name).getD ""))
      have hfirst : a.task.interpret m s w =
          ⟨none, { w with files := w.files.put l (s.fileOf name) }, []⟩ := by
        rw [htask, interpret_value hm hopen]
      obtain ⟨hfailure, hprovided⟩ :=
        ih (w := { w with files := w.files.put l (s.fileOf name) }) hrest (hw.trans hput)
      rw [interpretActions_cons_ok rest (by rw [hfirst]), hfirst]
      exact ⟨hfailure, hprovided.cons htask ht⟩

theorem lastValueAt?_ne_none {path name : String} {l : Location} (ha : a ∈ actions)
    (htask : a.task = .file path (.value name)) (ht : t.target path = .ok l) :
    lastValueAt? t actions l ≠ none := by
  rw [lastValueAt?, Ne, List.findSome?_eq_none_iff]
  intro hnone
  have ha' := hnone a (List.mem_reverse.mpr ha)
  rw [Action.valueAt?_of_target htask ht, if_pos rfl] at ha'
  cases ha'

/-- Where several actions write one file, it holds the value of the last one. -/
theorem Provided.exists_find? (h : Provided s t actions w w')
    (ha : a ∈ actions) {path name : String} {l : Location}
    (htask : a.task = .file path (.value name)) (ht : t.target path = .ok l) :
    ∃ last, lastValueAt? t actions l = some last ∧ w'.files.find? path = some (s.fileOf last) := by
  obtain ⟨last, hlast⟩ := Option.ne_none_iff_exists'.mp (lastValueAt?_ne_none ha htask ht)
  refine ⟨last, hlast, ?_⟩
  rw [FileTree.find?_of_target (h.directories.target ht), h.files, hlast]

theorem Pipeline.exists_compile_interprets {c : Configuration} (hc : c.valid = true) :
    ∃ p, compile c.compile = .ok p ∧
      ∀ {σ : Type} (m : Machine σ) (s : Submission) (w : World σ),
        (p.execute m s w).failure = (c.interpret m s w).failure ∧
          (p.execute m s w).world = (c.interpret m s w).world := by
  obtain ⟨p, hp, hexecute⟩ := exists_compile_eq_ok (.of_valid hc)
  refine ⟨p, hp, ?_⟩
  intro σ m s w
  obtain ⟨hfailure, hworld, -⟩ := hexecute m s w
  exact ⟨hfailure, hworld⟩

namespace Server

/-- A server for a valid configuration answers a submission, however it is encoded, with success and
an empty body, if its actions write values to files that can be opened, the medium takes all data
and the run is not broken off.  Each file then holds the value whose name is used last for it, or is
empty if no such value has been submitted.  Every other file is as it was, and so is the rest of the
device. -/
theorem exists_server_provided {c : Configuration} (hc : c.valid = true) (interface : String) :
    ∃ s, ofConfiguration c.compile interface = .ok s ∧
      ∀ {σ : Type} (h : Host σ) (w : World σ) (r : Request) (values : String → Option String),
        h.medium = .boundless → h.breaksOff w = none →
        (∀ a ∈ c.actions, a.WritesValue w.files) → r.method = "POST" →
        r.path = "/api/v1/onboard" → r.body.length ≤ Onboarding.longestBody →
        Submission.Encodes values r.body →
        let exchange := s.answer h false r w
        exchange.response.status = 200 ∧ exchange.response.body = [] ∧
        exchange.world.programs = w.programs ∧
        (∀ l, exchange.world.files.get? l =
          match lastValueAt? w.files c.actions l with
          | some name => some (.file (Text.utf8 ((values name).getD "")))
          | none => w.files.get? l) ∧
        ∀ a ∈ c.actions, ∀ path name l, a.task = .file path (.value name) →
          w.files.target path = .ok l →
          ∃ last, lastValueAt? w.files c.actions l = some last ∧
            exchange.world.files.find? path =
              some (.file (Text.utf8 ((values last).getD ""))) := by
  obtain ⟨p, hp, hexecute⟩ := Pipeline.exists_compile_interprets hc
  refine ⟨of c.compile p interface, ?_, ?_⟩
  · simp only [ofConfiguration, hp, bind, Except.bind, pure, Except.pure]
  intro σ h w r values hmedium hbreaks hactions hmethod hpath hbody hencodes
  obtain ⟨s, hparse, hvalues⟩ := Submission.exists_parse_of_encodes hencodes
  obtain ⟨hfailure, hworld⟩ := hexecute h.toMachine s w
  obtain ⟨hnone, hprovided⟩ : (c.interpret h.toMachine s w).failure = none ∧
      Provided s w.files c.actions w (c.interpret h.toMachine s w).world :=
    interpretActions_provided hmedium hactions (.refl w.files)
  have hanswer : (of c.compile p interface).answer h false r w =
      ⟨Onboarding.done.adding originHeaders, (c.interpret h.toMachine s w).world,
        (p.execute h.toMachine s w).log⟩ := by
    have hroute : r.path = Route.onboard.path ∧ r.method = Route.onboard.method := ⟨hpath, hmethod⟩
    rw [answer_of_method h _ false w hroute.1 hroute.2]
    have hsucceeds : (p.execute h.toMachine s w).failure = none := hfailure.trans hnone
    have hbegins : Onboarding.begins? false r.body = some s := by
      simp [Onboarding.begins?, Nat.not_lt.mpr hbody, hparse, Except.toOption]
    simp [atRoute, of, Onboarding.answerOn_of_begins h p hbegins, hbreaks,
      Onboarding.answer_of_begins hbegins, hsucceeds, hworld, Onboarding.ofFailure?]
  have hfile (name : String) : s.fileOf name = .file (Text.utf8 ((values name).getD "")) := by
    rw [Submission.fileOf, hvalues]
  rw [hanswer]
  refine ⟨rfl, rfl, hprovided.programs, fun l => ?_, fun a ha path name l htask ht => ?_⟩
  · simpa only [hfile] using hprovided.files l
  · simpa only [hfile] using hprovided.exists_find? ha htask ht

/-- A configuration that writes one file twice, by two paths, and another one. -/
def rewriting : Configuration :=
  ⟨[⟨"write", .file "psk" (.value "psk")⟩, ⟨"clear", .file "./psk" (.value "hint")⟩,
    ⟨"copy", .file "copy" (.value "psk")⟩], [], [⟨"psk", "", true⟩, ⟨"hint", "", false⟩]⟩

/-- A text of an object that repeats a key, with white space and with escapes for two characters, of
which the second takes a pair. -/
def escapedBody : List Char :=
  ['\x7b', '"', 'p', 's', 'k', '"', ':', '"', 'o', 'l', 'd', '"', ',',
    '\n', '"', '\\', 'u', '0', '0', '7', '0', 's', 'k', '"', ' ', ':',
    '"', '\\', 'u', '0', '0', 'e', '9',
    '\\', 'u', 'D', '8', '3', 'D', '\\', 'u', 'D', 'E', '0', '0', '"', '\x7d']

theorem spells_escapedBody :
    (Json.object (Submission.members [("psk", "old"), ("psk", "é😀")])).Spells escapedBody := by
  have hblank : Json.Blank [' '] := by
    intro c hc
    exact .inl (List.mem_singleton.mp hc)
  have hline : Json.Blank ['\n'] := by
    intro c hc
    exact .inr (.inr (.inl (List.mem_singleton.mp hc)))
  have hunit : Json.SpellsChar 'p' ['\\', 'u', '0', '0', '7', '0'] :=
    .unit (.digits (v := 0) (w := 0) (x := 7) (y := 0) rfl rfl rfl rfl)
  have hkey : Json.SpellsText "psk" _ := .quoted (.cons hunit (Json.spellsChars_flatMap ['s', 'k']))
  have haccent : Json.SpellsChar 'é' ['\\', 'u', '0', '0', 'e', '9'] :=
    .unit (.digits (v := 0) (w := 0) (x := 14) (y := 9) rfl rfl rfl rfl)
  have hpair : Json.SpellsChar '😀' ['\\', 'u', 'D', '8', '3', 'D', '\\', 'u', 'D', 'E', '0', '0'] :=
    .pair (.digits rfl rfl rfl rfl) (.digits rfl rfl rfl rfl) (by decide) (by decide) (by decide)
  have htext : Json.SpellsText "é😀" _ := .quoted (.cons haccent (.cons hpair .nil))
  exact .object (.cons (.first Json.blank_nil) (Json.spellsText_renderText "psk") Json.blank_nil
    Json.blank_nil (Json.spells_chars (.text "old")) (.cons (.later Json.blank_nil hline)
      hkey hblank Json.blank_nil (.text htext) (.nil Json.blank_nil)))

/-- The first file is empty in the end, because its last action writes a value that is not
submitted. -/
theorem exists_server_rewriting : rewriting.valid = true ∧
    ∃ s, ofConfiguration rewriting.compile "wlan0" = .ok s ∧
      let exchange := s.answer silentHost false
        ⟨"POST", "/api/v1/onboard", [], Json.encode escapedBody⟩ (.of .empty ())
      exchange.response.status = 200 ∧ exchange.world.files.find? "psk" = some (.file []) ∧
        exchange.world.files.find? "copy" = some (.file (Text.utf8 "é😀")) := by
  have hvalid : rewriting.valid = true := by decide +kernel
  obtain ⟨s, hs, hanswer⟩ := exists_server_provided hvalid "wlan0"
  refine ⟨hvalid, s, hs, ?_⟩
  have hencodes : Submission.Encodes
      (fun name => [("psk", "é😀"), ("psk", "old")].lookup name) (Json.encode escapedBody) :=
    ⟨_, [], escapedBody, [], Json.blank_nil, spells_escapedBody, Json.blank_nil, by simp,
      fun name => rfl⟩
  have hwrites : ∀ a ∈ rewriting.actions, a.WritesValue FileTree.empty := by
    intro a ha
    simp only [rewriting, List.mem_cons, List.not_mem_nil, or_false] at ha
    rcases ha with rfl | rfl | rfl
    · exact ⟨"psk", "psk", [['p', 's', 'k']], rfl, rfl⟩
    · exact ⟨"./psk", "hint", [['p', 's', 'k']], rfl, rfl⟩
    · exact ⟨"copy", "psk", [['c', 'o', 'p', 'y']], rfl, rfl⟩
  obtain ⟨hstatus, -, -, -, hfiles⟩ := hanswer silentHost (.of .empty ())
    ⟨"POST", "/api/v1/onboard", [], Json.encode escapedBody⟩ _ rfl rfl hwrites rfl rfl (by decide)
    hencodes
  obtain ⟨last, hlast, hfile⟩ := hfiles _ (.head _) "psk" "psk" [['p', 's', 'k']] rfl rfl
  obtain ⟨last', hlast', hfile'⟩ :=
    hfiles _ (.tail _ (.tail _ (.head _))) "copy" "psk" [['c', 'o', 'p', 'y']] rfl rfl
  obtain rfl : last = "hint" := (Option.some.inj hlast).symm
  obtain rfl : last' = "psk" := (Option.some.inj hlast').symm
  exact ⟨hstatus, hfile, hfile'⟩

def filling : Configuration :=
  ⟨[⟨"write", .file "../dev/full" (.value "psk")⟩], [], [⟨"psk", "", true⟩]⟩

/-- The file can be opened for writing, and yet the submission fails and the file stays empty. -/
theorem exists_server_filling : filling.valid = true ∧
    ∃ s, ofConfiguration filling.compile "wlan0" = .ok s ∧
      let texts := [("psk", "hunter2!")]
      let r : Request := ⟨"POST", "/api/v1/onboard", [],
        Json.encode (Json.object (Submission.members texts)).chars⟩
      let w := (Session.start .empty .empty).world
      (∀ a ∈ filling.actions, a.WritesValue w.files) ∧
      Submission.Encodes (fun name => texts.reverse.lookup name) r.body ∧
      r.body.length ≤ Onboarding.longestBody ∧
      let exchange := s.answer Session.host false r w
      exchange.response.status = 500 ∧
        exchange.world.files.find? "../dev/full" = some (.file []) ∧
        ([] : List UInt8) ≠ Text.utf8 "hunter2!" := by
  refine ⟨by decide +kernel,
    of filling.compile ⟨[("write", .copyValue "../dev/full" "psk")]⟩ "wlan0", rfl, ?_, ?_,
    by decide, by decide +kernel, by decide +kernel, by decide⟩
  · intro a ha
    obtain rfl := List.mem_singleton.mp ha
    exact ⟨"../dev/full", "psk", Session.fullFile, rfl, by decide⟩
  · exact ⟨[("psk", "hunter2!")], [], _, [], Json.blank_nil, Json.spells_chars _, Json.blank_nil,
      by simp, fun name => rfl⟩

end Server

end Provision
