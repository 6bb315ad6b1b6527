import Provision.Proofs.Configuration.PatternOrder
import Provision.Proofs.Configuration.Validating
import Provision.Proofs.Server.Serving
import Provision.Startup

namespace Provision

/-!
# A process from its start on

A process starts by its command line: it has ended then, or it listens and serves requests from
there on.  It listens only for a configuration that has been loaded, found to be valid and compiled,
and it has done nothing but look at the device before a submission takes the lock.
-/

open Onboarding (Service)

variable {σ : Type}

namespace Startup

variable {t : FileTree} {n : Network} {patterns : List String} {settings : Settings}

def begin (t : FileTree) (n : Network) (arguments : List String)
    (environment : List (String × String)) : Run :=
  match Settings.read arguments environment with
  | .ok settings => run t n settings
  | .error interruption => interrupted interruption

/-- The patterns describe no configuration to start with: it cannot be loaded, or is not valid. -/
inductive Rejects (t : FileTree) (patterns : List String) : Failure → Prop where
  | notLoaded {failure : Failure} (load : Configuration.load t patterns = .error failure) :
      Rejects t patterns failure
  | notValid {c : Configuration} (load : Configuration.load t patterns = .ok c)
      (valid : c.valid = false) : Rejects t patterns (.invalid c.messages)

/-- A server for the configuration that the patterns describe, with the pipeline for it. -/
def Admits (t : FileTree) (settings : Settings) (s : Server) : Prop :=
  ∃ c, Configuration.load t settings.patterns = .ok c ∧ c.valid = true ∧
    Pipeline.compile c.compile = .ok s.pipeline ∧
    s = .of c.compile s.pipeline settings.interface

/-- How a run ends that a configuration is rejected for. -/
def rejection (failure : Failure) : Run :=
  .ended 1 (some ("error: " ++ (StartupFault.failed failure).report))

theorem configuration_of_load {c : Configuration} (h : Configuration.load t patterns = .ok c) :
    configuration t patterns =
      if c.valid then .ok c.compile else .error (.invalid c.messages) := by
  simp only [configuration, h, Configuration.validate_eq, Configuration.valid, List.isEmpty_iff]
  rfl

theorem configuration_of_rejects {failure : Failure} (h : Rejects t patterns failure) :
    configuration t patterns = .error failure := by
  cases h with
  | notLoaded load =>
      rw [configuration, load]
      rfl
  | notValid load valid => simp [configuration_of_load load, valid]

/-- One starts with a configuration exactly if it is the compiled form of one that can be loaded
and is valid. -/
theorem configuration_eq_ok_iff {d : Configuration} :
    configuration t patterns = .ok d ↔
      ∃ c, Configuration.load t patterns = .ok c ∧ c.valid = true ∧ d = c.compile := by
  rcases hload : Configuration.load t patterns with e | c
  · simp [configuration_of_rejects (.notLoaded hload)]
  · rcases hvalid : c.valid with _ | _
    · simp [configuration_of_rejects (.notValid hload hvalid), hvalid]
    · simp only [configuration_of_load hload, hvalid, if_true, Except.ok.injEq, exists_eq_left',
        true_and]
      exact eq_comm

theorem begin_of_read {arguments : List String} {environment : List (String × String)}
    (h : Settings.read arguments environment = .ok settings) :
    begin t n arguments environment = run t n settings := by
  rw [begin, h]

theorem run_of_rejects {failure : Failure} (h : Rejects t settings.patterns failure) :
    run t n settings = rejection failure := by
  rw [run, start, configuration_of_rejects h]
  rfl

theorem listen_eq_ok_iff {listener : Listener} :
    listen n settings = .ok listener ↔ n.engine = .ok () ∧
      Listener.bind n (Listener.complete settings.listen).toList = .ok listener := by
  rcases hengine : n.engine with e | ⟨⟩
  · simp [listen, hengine, bind, Except.bind, Except.mapError]
  · rcases hbind : Listener.bind n (Listener.complete settings.listen).toList with e | l <;>
      simp [listen, hengine, hbind, bind, Except.bind, Except.mapError]

theorem serve_eq_ok_iff {c : Configuration} {server : Server} {listener : Listener}
    {log : List LogLine} :
    serve n settings c = .ok (server, listener, log) ↔
      (Pipeline.compile c = .ok server.pipeline ∧
        server = .of c server.pipeline settings.interface) ∧
      listen n settings = .ok listener ∧ advertise n settings listener = .ok log := by
  rcases hcompile : Pipeline.compile c with e | p
  · simp [serve, Server.ofConfiguration, hcompile, bind, Except.bind, Except.mapError]
  · have hserver : (.of c p settings.interface = server) ↔
        p = server.pipeline ∧ server = .of c server.pipeline settings.interface := by
      constructor
      · rintro rfl
        exact ⟨rfl, rfl⟩
      · rintro ⟨rfl, hserver⟩
        exact hserver.symm
    rcases hlisten : listen n settings with e | l
    · simp [serve, Server.ofConfiguration, hcompile, hlisten, bind, Except.bind, pure, Except.pure,
        Except.mapError]
    · rcases hadvertise : advertise n settings l with e | lines
      · have hnone : ¬ (l = listener ∧ advertise n settings listener = .ok log) := by
          rintro ⟨rfl, hok⟩
          rw [hadvertise] at hok
          cases hok
        simpa [serve, Server.ofConfiguration, hcompile, hlisten, hadvertise, bind, Except.bind,
          pure, Except.pure, Except.mapError] using fun _ _ => not_and.mp hnone
      · simp only [serve, Server.ofConfiguration, hcompile, hlisten, hadvertise, bind, Except.bind,
          pure, Except.pure, Except.mapError, Except.ok.injEq, Prod.mk.injEq, hserver]
        refine and_congr_right fun _ => and_congr_right ?_
        rintro rfl
        rw [hadvertise, Except.ok.injEq]

/-- A run serves exactly if there is a server to admit, and it can listen and be advertised. -/
theorem run_eq_serves_iff {server : Server} {listener : Listener} {log : List LogLine} :
    run t n settings = .serves server listener log ↔ Admits t settings server ∧
      listen n settings = .ok listener ∧ advertise n settings listener = .ok log := by
  have hstart : run t n settings = .serves server listener log ↔
      start t n settings = .ok (server, listener, log) := by
    rcases hs : start t n settings with fault | ⟨server', listener', log'⟩ <;> simp [run, hs]
  rw [hstart]
  rcases hconfiguration : configuration t settings.patterns with e | d
  · have hnone : ¬ Admits t settings server := by
      rintro ⟨c, hload, hvalid, -⟩
      have hok := configuration_eq_ok_iff.mpr ⟨c, hload, hvalid, rfl⟩
      rw [hconfiguration] at hok
      cases hok
    simp [start, hconfiguration, bind, Except.bind, Except.mapError, hnone]
  · obtain ⟨c, hload, hvalid, rfl⟩ := configuration_eq_ok_iff.mp hconfiguration
    have hserve : start t n settings = serve n settings c.compile := by
      rw [start, hconfiguration]
      rfl
    rw [hserve, serve_eq_ok_iff]
    simp [Admits, hload, hvalid]

/-- What is valid can be compiled, so that a configuration is admitted unless it is rejected. -/
theorem exists_rejects_or_exists_admits (t : FileTree) (settings : Settings) :
    (∃ failure, Rejects t settings.patterns failure) ∨ ∃ server, Admits t settings server := by
  rcases hload : Configuration.load t settings.patterns with e | c
  · exact .inl ⟨e, .notLoaded hload⟩
  · rcases hvalid : c.valid with _ | _
    · exact .inl ⟨_, .notValid hload hvalid⟩
    · obtain ⟨p, hp, -⟩ := Pipeline.exists_compile_eq_ok (.of_valid hvalid)
      exact .inr ⟨.of c.compile p settings.interface, c, hload, hvalid, hp, rfl⟩

end Startup

/-! ## The process -/

inductive Process (σ : Type) where
  | starting (w : World σ)
  | listening (server : Server) (listener : Listener) (service : Service σ)
  | ended (code : Nat) (error : Option String) (w : World σ)

namespace Process

/-- What a process is that has started. -/
def ofRun (w : World σ) : Run → Process σ
  | .ended code error => ended code error w
  | .serves server listener _ => listening server listener (.initial w)

section

variable (h : Host σ) (n : Network) (arguments : List String)
  (environment : List (String × String))

inductive Moves : Process σ → Process σ → Prop where
  | start {w : World σ} :
      Moves (starting w) (ofRun w (Startup.begin w.files n arguments environment))
  | serve {server : Server} {listener : Listener} {st st' : Service σ} {e : Server.Event}
      (moves : server.Moves h st e st') :
      Moves (listening server listener st) (listening server listener st')

/-- The process can come from one state to another. -/
def Reaches : Process σ → Process σ → Prop :=
  Relation.ReflTransGen (Moves h n arguments environment)

end

end Process

/-! ## Before the first submission -/

def Onboarding.Service.Untaken (st : Service σ) : Prop :=
  ∀ a ∈ st.attempts, a.phase.tookLock = false

/-- While no request has taken the lock, requests only arrive. -/
theorem Server.Moves.of_untaken {h : Host σ} {s : Server} {st st' : Service σ} {e : Server.Event}
    (hm : s.Moves h st e st') (hst' : st'.Untaken) :
    st.Untaken ∧ ∀ i deed, e ≠ .does i deed := by
  cases hm with
  | submit route moves =>
      refine ⟨?_, fun i deed => by simp⟩
      cases moves with
      | take =>
          have hread := hst' _ (List.mem_append_right _ (List.mem_singleton_self _))
          cases hread
      | _ => exact fun a ha => hst' a (List.mem_append_left _ ha)
  | answer => exact ⟨hst', fun i deed => by simp⟩
  | does moves =>
      cases moves with
      | @does i a a' deed w here deeds =>
          -- whoever does something has taken the lock, and has done so ever after
          obtain ⟨hlt, -⟩ := List.getElem?_eq_some_iff.mp here
          have htook : a'.phase.tookLock = true := by
            rw [deeds.tookLock_eq, deeds.underway.tookLock_eq]
          rw [hst' a' (List.mem_set hlt a')] at htook
          cases htook

/-- To look at the device is to issue no command on a unit. -/
theorem Server.Looks.ne_commandCall {s : Server} {r : Request} {call : Call} (h : s.Looks r call)
    (issued : UnitCommand × String) : call ≠ Systemctl.commandCall issued := by
  obtain ⟨command, unit⟩ := issued
  cases h with
  | unitStatus => cases command <;> simp [Systemctl.commandCall, Systemctl.commandArguments]
  | _ => simp [Systemctl.commandCall, Systemctl.program]

/-- Nothing has been done since a world but to look at the device for requests. -/
structure World.Intact (w : World σ) (run : Runner σ) (s : Server)
    (w' : World (σ × List Call)) : Prop where
  world : w' = (w.after run w'.programs.2).noting w'.programs.2
  looks : ∀ call ∈ w'.programs.2, ∃ r, s.Looks r call

theorem World.Intact.files_eq {w : World σ} {run : Runner σ} {s : Server}
    {w' : World (σ × List Call)} (h : w.Intact run s w')
    (hleaves : ∀ r call, s.Looks r call → run.LeavesFiles call) : w'.files = w.files := by
  have hkept : (run.after w.toDevice w'.programs.2).files = w.files := by
    refine Runner.files_after (fun call hcall => ?_) _
    obtain ⟨r, hlooks⟩ := h.looks call hcall
    exact hleaves r call hlooks
  rw [h.world]
  exact hkept

/-- No command has been issued as long as programs have only looked. -/
theorem World.Intact.commandCall_notMem {w : World σ} {run : Runner σ} {s : Server}
    {w' : World (σ × List Call)} (h : w.Intact run s w') (issued : UnitCommand × String) :
    Systemctl.commandCall issued ∉ w'.programs.2 := by
  intro hissued
  obtain ⟨r, hlooks⟩ := h.looks _ hissued
  exact hlooks.ne_commandCall issued rfl

namespace Process

variable {h : Host σ} {n : Network} {arguments : List String}
  {environment : List (String × String)} {settings : Settings} {w : World σ}

/-- What a process has come to that has started with some settings. -/
inductive Sound (run : Runner σ) (n : Network) (settings : Settings) (w : World σ) :
    Process (σ × List Call) → Prop where
  | starting : Sound run n settings w (starting (w.noting []))
  | listening {server : Server} {listener : Listener} {log : List LogLine}
      {st : Service (σ × List Call)}
      (serves : Startup.run w.files n settings = .serves server listener log)
      (intact : st.Untaken → w.Intact run server st.world) :
      Sound run n settings w (listening server listener st)
  | ended {code : Nat} {error : Option String}
      (ends : Startup.run w.files n settings = .ended code error) :
      Sound run n settings w (ended code error (w.noting []))

/-- Every step of a process keeps what is known of it. -/
theorem Sound.next {p p' : Process (σ × List Call)} (hp : Sound h.run n settings w p)
    (hsettings : Settings.read arguments environment = .ok settings)
    (hm : Moves h.traced n arguments environment p p') : Sound h.run n settings w p' := by
  cases hm with
  | start =>
      cases hp with
      | starting =>
      rw [Startup.begin_of_read hsettings]
      rcases hrun : Startup.run (w.noting []).files n settings with
        ⟨code, error⟩ | ⟨server, listener, log⟩
      · exact .ended hrun
      · exact .listening hrun fun _ => ⟨rfl, fun call hcall => by cases hcall⟩
  | serve moves =>
      cases hp with
      | listening serves intact =>
      refine .listening serves fun hst' => ?_
      obtain ⟨hst, hidle⟩ := moves.of_untaken hst'
      obtain ⟨hworld, hlooks⟩ := intact hst
      rcases moves.observed fun i => hidle i .act with ⟨r, -, hobserved⟩ | ⟨i, deed, hdoes, -⟩
      · obtain ⟨calls, ⟨hrecord, hnext⟩, hnew⟩ := hobserved.next hworld
        refine ⟨hnext, fun call hcall => ?_⟩
        rw [hrecord] at hcall
        rcases List.mem_append.mp hcall with hold | hcall
        · exact hlooks call hold
        · exact ⟨r, hnew call hcall⟩
      · exact absurd hdoes (hidle i deed)

/-- So it is known of whatever a process comes to. -/
theorem Reaches.sound {p : Process (σ × List Call)}
    (hp : Reaches h.traced n arguments environment (starting (w.noting [])) p)
    (hsettings : Settings.read arguments environment = .ok settings) :
    Sound h.run n settings w p := by
  induction hp with
  | refl => exact .starting
  | tail _ hm ih => exact ih.next hsettings hm

/-- A process listens only with a server for a valid configuration, as its patterns describe it, and
nothing but looking at the device has been done before a request takes the lock: no command has been
issued, and no file has changed if programs that only look leave the files alone.  A process whose
configuration is rejected ends with an error, and does nothing else; if it ends in another way, its
configuration has been admitted. -/
theorem listening_only_if_admitted
    (hsettings : Settings.read arguments environment = .ok settings) :
    (∀ server listener st,
      Reaches h.traced n arguments environment (starting (w.noting []))
          (listening server listener st) →
        (Startup.Admits w.files settings server ∧
          Listener.bind n (Listener.complete settings.listen).toList = .ok listener) ∧
        (st.Untaken → w.Intact h.run server st.world ∧
          ((∀ r call, server.Looks r call → h.run.LeavesFiles call) →
            st.world.files = w.files) ∧
          ∀ issued, Systemctl.commandCall issued ∉ st.world.programs.2)) ∧
    (∀ failure, Startup.Rejects w.files settings.patterns failure →
      Reaches h.traced n arguments environment (starting (w.noting []))
          (ofRun (w.noting []) (Startup.rejection failure)) ∧
      ∀ p, Reaches h.traced n arguments environment (starting (w.noting [])) p →
        p = starting (w.noting []) ∨ p = ofRun (w.noting []) (Startup.rejection failure)) ∧
    ∀ code error w',
      Reaches h.traced n arguments environment (starting (w.noting [])) (ended code error w') →
        w' = w.noting [] ∧ ((∃ failure, Startup.Rejects w.files settings.patterns failure) ∨
          ∃ server, Startup.Admits w.files settings server) := by
  refine ⟨?_, ?_, ?_⟩
  · intro server listener st hreaches
    cases hreaches.sound hsettings with
    | listening serves intact =>
    obtain ⟨hadmits, hlisten, -⟩ := Startup.run_eq_serves_iff.mp serves
    refine ⟨⟨hadmits, (Startup.listen_eq_ok_iff.mp hlisten).2⟩, fun hst => ?_⟩
    exact ⟨intact hst, (intact hst).files_eq, (intact hst).commandCall_notMem⟩
  · intro failure hrejects
    have hrun : Startup.run w.files n settings = Startup.rejection failure :=
      Startup.run_of_rejects hrejects
    have hbegin : Startup.begin w.files n arguments environment =
        Startup.rejection failure := (Startup.begin_of_read hsettings).trans hrun
    constructor
    · exact .single (hbegin ▸ .start)
    · intro p hreaches
      cases hreaches.sound hsettings with
      | starting => exact .inl rfl
      | listening serves => cases hrun.symm.trans serves
      | ended ends =>
          cases hrun.symm.trans ends
          exact .inr rfl
  · intro code error w' hreaches
    cases hreaches.sound hsettings with
    | ended => exact ⟨rfl, Startup.exists_rejects_or_exists_admits w.files settings⟩

/-- With one pattern the process listens; with another one beside it, which is malformed, it ends.
-/
theorem neighbours_listening :
    let w : World Unit := .of Configuration.neighbours ()
    (∃ server listener st, Reaches Server.silentHost.traced (.isolated []) ["-c", "a/1"] []
        (starting (w.noting [])) (listening server listener st) ∧
      Startup.Admits w.files { patterns := ["a/1"] } server ∧ st.Untaken ∧
      st.world.files = Configuration.neighbours) ∧
    ∃ error, Reaches Server.silentHost.traced (.isolated []) ["-c", "a/1", "-c", "["] []
        (starting (w.noting [])) (ended 1 (some error) (w.noting [])) := by
  intro w
  have hone : Settings.read ["-c", "a/1"] [] = .ok { patterns := ["a/1"] } := rfl
  have htwo : Settings.read ["-c", "a/1", "-c", "["] [] = .ok { patterns := ["a/1", "["] } := rfl
  obtain ⟨ha, -⟩ := Configuration.paths_neighbours
  obtain ⟨hp, -⟩ := Configuration.ofFile_neighbours
  have hload : Configuration.load Configuration.neighbours ["a/1"] =
      .ok ⟨[], [], [⟨"p", "", false⟩]⟩ := by
    have hordered : Configuration.ordered ["a/1"] = ["a/1"] := List.mergeSort_singleton _
    refine Configuration.load_eq_ok_iff.mpr ⟨by simpa using ⟨_, ha⟩, ?_, ?_⟩
    · simp [Configuration.found_eq ha, hp]
    · simp [Configuration.found_eq ha, hp, hordered, Configuration.declaredIn,
        Configuration.mergeAll, Configuration.merge, Configuration.empty]
  have hrejects : Startup.Rejects Configuration.neighbours ["a/1", "["]
      (.invalidPattern "[" "Pattern syntax error near position 0: invalid range pattern") := by
    have hbad : Pattern.paths Configuration.neighbours "[" =
        .error ⟨0, "invalid range pattern"⟩ := by decide +kernel
    refine .notLoaded ?_
    rw [Configuration.load, Configuration.matching_cons ha, Configuration.matching, hbad]
    rfl
  have hcompile : Pipeline.compile (⟨[], [], [⟨"p", "", false⟩]⟩ : Configuration).compile =
      .ok ⟨[]⟩ := rfl
  obtain ⟨log, hruns⟩ : ∃ log, Startup.run Configuration.neighbours (.isolated [])
      { patterns := ["a/1"] } = .serves (.of ⟨[], [], [⟨"p", "", false⟩]⟩ ⟨[]⟩ "wlan0")
        ⟨.short [0, 0, 0, 0], 8080⟩ log :=
    ⟨_, Startup.run_eq_serves_iff.mpr ⟨⟨_, hload, by decide +kernel, hcompile, rfl⟩, rfl, rfl⟩⟩
  constructor
  · have hreaches : Reaches Server.silentHost.traced (.isolated []) ["-c", "a/1"] []
        (starting (w.noting []))
        (ofRun _ (Startup.begin Configuration.neighbours (.isolated []) ["-c", "a/1"] [])) :=
      .single .start
    rw [Startup.begin_of_read hone, hruns] at hreaches
    have huntaken : (Service.initial (w.noting ([] : List Call))).Untaken := fun a ha => by cases ha
    obtain ⟨⟨hadmits, -⟩, hintact⟩ := (listening_only_if_admitted hone).1 _ _ _ hreaches
    obtain ⟨-, hfiles, -⟩ := hintact huntaken
    exact ⟨_, _, _, hreaches, hadmits, huntaken, hfiles fun r call _ d => rfl⟩
  · exact ⟨_, ((listening_only_if_admitted htwo).2.1 _ hrejects).1⟩

end Process

end Provision
