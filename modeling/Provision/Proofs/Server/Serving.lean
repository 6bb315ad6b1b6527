import Mathlib.Logic.Relation
import Provision.Proofs.Onboarding.Sequential
import Provision.Proofs.Server.Routing

namespace Provision

/-!
# A server at work

A request that submits values goes to the onboarding service, whose steps come mixed with whatever
else arrives; every other request is answered in one step.  Only the actions of submissions write
files and issue commands on units.  Other requests look at the device, each with one program at
most, and leave the lock as it was.
-/

variable {σ : Type}

namespace Request

/-- The request submits values that can be decoded. -/
def Acts (r : Request) : Prop :=
  r.method = "POST" ∧ r.path = "/api/v1/onboard" ∧ ∃ s, Submission.parse r.body = .ok s

theorem not_acts_iff {r : Request} (h : r.route? = some .onboard) :
    ¬ r.Acts ↔ ∃ e, Submission.parse r.body = .error e := by
  obtain ⟨hmethod, hpath⟩ := route?_eq_onboard_iff.mp h
  rcases hparse : Submission.parse r.body with e | s <;> simp [Acts, hmethod, hpath, hparse]

end Request

namespace Server

/-! ## Looking at the device -/

/-- A run of a program that only looks at the device. -/
inductive Looks (s : Server) (r : Request) : Call → Prop where
  | unitStatus {unit : String} (path : r.path = "/api/v1/status/systemd")
      (given : Form.field? "unit" r.form = some unit) (nonempty : unit ≠ "") :
      Looks s r ("systemctl", ["show", unit, "--property", "Result", "--property", "SubState"])
  | linkStatus (path : r.path = "/api/v1/status/link") :
      Looks s r ("ip", ["-json", "addr", "show", "dev", s.interface])
  | networkLog (path : r.path = "/api/v1/log/systemd-networkd") :
      Looks s r ("journalctl", ["--follow", "--output-fields=MESSAGE", "--output=json",
        "SYSLOG_IDENTIFIER=systemd-networkd", "INTERFACE=" ++ s.interface])
  | accessLog (path : r.path = "/api/v1/log/wpa_supplicant") :
      Looks s r ("journalctl", ["--follow", "--output-fields=MESSAGE", "--output=json",
        "SYSLOG_IDENTIFIER=wpa_supplicant@" ++ s.interface])

/-- Nothing has been done for a request but to look at the device: what has been run is in the
record, and the world is as it left it.  The files are the same if nothing that only looks touches
them. -/
structure Observed (s : Server) (run : Runner σ) (r : Request) (w w' : World (σ × List Call)) :
    Prop where
  calls : ∃ calls, w' = (w.plain.after run calls).noting (w.programs.2 ++ calls) ∧
    calls.length ≤ 1 ∧ ∀ call ∈ calls, s.Looks r call
  files : (∀ call, s.Looks r call → run.LeavesFiles call) → w'.files = w.files

theorem Observed.of_calls {s : Server} {run : Runner σ} {r : Request}
    {w w' : World (σ × List Call)} {calls : List Call}
    (hworld : w' = (w.plain.after run calls).noting (w.programs.2 ++ calls))
    (hlength : calls.length ≤ 1) (hlooks : ∀ call ∈ calls, s.Looks r call) :
    s.Observed run r w w' := by
  refine ⟨⟨calls, hworld, hlength, hlooks⟩, fun hleaves => ?_⟩
  rw [hworld]
  exact Runner.files_after (fun call hcall => hleaves call (hlooks call hcall)) w.plain.toDevice

theorem Observed.refl (s : Server) (run : Runner σ) (r : Request) (w : World (σ × List Call)) :
    s.Observed run r w w := by
  have hworld : w = (w.plain.after run []).noting (w.programs.2 ++ []) := by
    rw [List.append_nil]
    rfl
  exact .of_calls hworld (Nat.zero_le 1) (List.forall_mem_nil _)

/-- The record of what is run goes on, and with it the world. -/
theorem Observed.next {s : Server} {run : Runner σ} {r : Request} {w : World σ}
    {w₁ w₂ : World (σ × List Call)} (h : s.Observed run r w₁ w₂)
    (hworld : w₁ = (w.after run w₁.programs.2).noting w₁.programs.2) :
    ∃ calls, (w₂.programs.2 = w₁.programs.2 ++ calls ∧
      w₂ = (w.after run w₂.programs.2).noting w₂.programs.2) ∧ ∀ call ∈ calls, s.Looks r call := by
  obtain ⟨calls, hnext, -, hlooks⟩ := h.calls
  have hplain : w₁.plain = w.after run w₁.programs.2 := congrArg World.plain hworld
  have hrecord : w₂.programs.2 = w₁.programs.2 ++ calls := by rw [hnext]; rfl
  refine ⟨calls, ⟨hrecord, ?_⟩, hlooks⟩
  rw [hrecord, World.after_append, ← hplain, hnext]

section

variable (h : Host σ) (s : Server) (busy : Bool) (r : Request) (w : World σ)

theorem unitStatus_world (form : List UInt8) :
    (unitStatus h.managed form w).world = w.after h.run (statusCalls h.managed form w) := by
  rw [unitStatus]
  split
  · next hfield => simp [statusCalls, hfield, World.after, Runner.after]
  · next hfield => simp [statusCalls, hfield, World.after, Runner.after]
  · next unit hgiven hfield =>
    have hunit : unit ≠ "" := hgiven
    have hdevice : (h.managed.units.status unit w.toDevice).2 =
        h.run.after w.toDevice [Systemctl.statusCall unit] :=
      Systemctl.manager_status_device h.run w.toDevice unit
    rcases hstatus : h.managed.units.status unit w.toDevice with ⟨result, d⟩
    rw [hstatus] at hdevice
    obtain rfl : d = _ := hdevice
    simp only [statusCalls, hfield]
    rcases h.managed.breaksOff w with _ | b
    · rcases result with e | status <;> simp [hunit, complaint, World.after]
    · by_cases hsteps : b.steps = 0 <;> simp [hunit, hsteps, World.after, Runner.after]

theorem linkStatus_world (interface : String) :
    (linkStatus h.managed interface w).world = w.after h.run [linkCall interface] := by
  have hrun : w.after h.run [linkCall interface] =
      { w with
        toDevice := (h.managed.run linkProgram (linkArguments interface) w.toDevice).2 } := rfl
  rw [linkStatus, hrun]
  rcases h.managed.run linkProgram (linkArguments interface) w.toDevice with ⟨cause | o, d⟩
  · rfl
  · by_cases hexit : o.exit = 0
    · rcases hparse : LinkStatus.parse o.stdout with e | status <;> simp [hexit, hparse]
    · simp [hexit, complaint]

theorem addresses_world (form : List UInt8) : (addresses h form w).world = w := by
  rw [addresses]
  split
  · rfl
  · split
    · rfl
    · simp only []
      split <;> rfl

theorem journal_world (matchers : List String) :
    (journal h.managed matchers w).world = w.after h.run [journalCall matchers] := by
  have hrun : w.after h.run [journalCall matchers] =
      { w with
        toDevice := (h.managed.run Journal.program (Journal.arguments matchers) w.toDevice).2 } :=
    rfl
  rw [journal, hrun]
  rcases h.managed.run Journal.program (Journal.arguments matchers) w.toDevice
    with ⟨cause | o, d⟩ <;> rfl

/-- A route that does not onboard changes the world only by what it runs. -/
theorem atRoute_world {route : Route} (hroute : route ≠ .onboard) :
    (atRoute h.managed s busy r w route).world =
      w.after h.run (callsAtRoute h.managed s busy r w route) := by
  cases route with
  | onboard => exact absurd rfl hroute
  | unitStatus => exact unitStatus_world h w r.form
  | linkStatus => exact linkStatus_world h w s.interface
  | addresses => exact addresses_world h.managed w r.form
  | networkLog => exact journal_world h w _
  | accessLog => exact journal_world h w _

/-- Apart from submissions the programs that are run are all that happens to the world. -/
theorem answer_world_eq_after (hroute : r.route? ≠ some .onboard) :
    (s.answer h.managed busy r w).world = w.after h.run (s.calls h.managed busy r w) := by
  rw [answer_world, calls_eq]
  rcases hr : r.route? with _ | route
  · rfl
  · exact atRoute_world h s busy r w fun honboard => hroute (by rw [hr, honboard])

/-- At such a route one program is run at most, and it only looks. -/
theorem looks_of_route {route : Route} (hr : r.route? = some route) (hroute : route ≠ .onboard) :
    (callsAtRoute h s busy r w route).length ≤ 1 ∧
      ∀ call ∈ callsAtRoute h s busy r w route, s.Looks r call := by
  obtain ⟨hpath, -⟩ := Request.route?_eq_some_iff.mp hr
  have hone {call : Call} (hlooks : s.Looks r call) :
      [call].length ≤ 1 ∧ ∀ c ∈ [call], s.Looks r c :=
    ⟨Nat.le_refl 1, fun c hc => List.mem_singleton.mp hc ▸ hlooks⟩
  cases route with
  | onboard => exact absurd rfl hroute
  | unitStatus =>
      have hfound : Route.ofPath? r.path = some .unitStatus := by rw [hpath, Route.ofPath?_path]
      refine ⟨?_, fun call hcall => ?_⟩
      · simp only [callsAtRoute, statusCalls]
        split
        · simp
        · split <;> simp
      · obtain ⟨path, unit, nonempty, given, rfl⟩ := asksCall_of_mem_statusCalls hfound hcall
        exact .unitStatus path given nonempty
  | linkStatus => exact hone (.linkStatus hpath)
  | addresses => simp [callsAtRoute]
  | networkLog => exact hone (.networkLog hpath)
  | accessLog => exact hone (.accessLog hpath)

theorem looks_of_mem_calls (hroute : r.route? ≠ some .onboard) :
    (s.calls h busy r w).length ≤ 1 ∧ ∀ call ∈ s.calls h busy r w, s.Looks r call := by
  rw [calls_eq]
  rcases hr : r.route? with _ | route
  · simp
  · exact looks_of_route h s busy r w hr fun honboard => hroute (by rw [hr, honboard])

end

theorem answer_observed (h : Host σ) (s : Server) (busy : Bool) {r : Request}
    (hroute : r.route? ≠ some .onboard) (w : World (σ × List Call)) :
    s.Observed h.run r w (s.answer h.traced busy r w).world := by
  obtain ⟨hlength, hlooks⟩ := looks_of_mem_calls h.managed s busy r w.plain hroute
  refine .of_calls ?_ hlength hlooks
  have htraced := congrArg Exchange.world (answer_traced h w.plain w.programs.2 s busy r)
  rw [World.noting_plain] at htraced
  rw [htraced, ← answer_world_eq_after h s busy r w.plain hroute]
  rfl

/-! ## Requests that come mixed -/

open Onboarding (Service Deed)

inductive Event where
  | request (r : Request)
  | does (i : Nat) (deed : Deed)

/-- The request that an event hands to the onboarding service. -/
def Event.submitted? : Event → Option Request
  | request r => if r.route? = some .onboard then some r else none
  | does .. => none

/-- One step: a submission goes to the onboarding service, another request is answered, or the
service goes on with a submission. -/
inductive Moves (h : Host σ) (s : Server) : Service σ → Event → Service σ → Prop where
  | submit {st st' : Service σ} {r : Request} (route : r.route? = some .onboard)
      (moves : Service.Moves h.toMachine s.pipeline st (.arrive r.body) st') :
      Moves h s st (.request r) st'
  | answer {st : Service σ} {r : Request} (route : r.route? ≠ some .onboard) :
      Moves h s st (.request r) { st with world := (s.answer h st.locked r st.world).world }
  | does {st st' : Service σ} {i : Nat} {deed : Deed}
      (moves : Service.Moves h.toMachine s.pipeline st (.does i deed) st') :
      Moves h s st (.does i deed) st'

inductive Run (h : Host σ) (s : Server) (st₀ : Service σ) : List Event → Service σ → Prop where
  | start : Run h s st₀ [] st₀
  | next {events : List Event} {e : Event} {st st' : Service σ} (run : Run h s st₀ events st)
      (moves : Moves h s st e st') : Run h s st₀ (events ++ [e]) st'

def Continues (s : Server) (h : Host σ) (i : Nat) (st st' : Service σ) : Prop :=
  ∃ deed, s.Moves h st (.does i deed) st'

/-- From the arrival of a request to its end, with nothing else between. -/
def Handles (h : Host σ) (s : Server) (st : Service σ) (r : Request) (st' : Service σ) : Prop :=
  ∃ st₁, s.Moves h st (.request r) st₁ ∧
    Relation.ReflTransGen (s.Continues h st.attempts.length) st₁ st' ∧
    ¬ st'.Between st.attempts.length

section

variable {h : Host σ} {s : Server} {st st' : Service σ}

theorem Moves.decoded {e : Event} (hm : s.Moves h st e st')
    (hst : ∀ a ∈ st.attempts, a.Decoded) : ∀ a ∈ st'.attempts, a.Decoded := by
  cases hm with
  | submit _ moves => exact moves.decoded hst
  | answer => exact hst
  | does moves => exact moves.decoded hst

theorem Moves.bodies_eq {e : Event} (hm : s.Moves h st e st') :
    st'.attempts.map Onboarding.Attempt.body =
      st.attempts.map Onboarding.Attempt.body ++ e.submitted?.toList.map Request.body := by
  cases hm with
  | submit route moves =>
      simpa [Event.submitted?, route, Onboarding.Event.body?] using moves.bodies_eq
  | answer route => simp [Event.submitted?, route]
  | does moves => simpa [Event.submitted?, Onboarding.Event.body?] using moves.bodies_eq

variable {w : World σ} {events : List Event}

theorem Run.decoded (hrun : s.Run h (.initial w) events st) : ∀ a ∈ st.attempts, a.Decoded := by
  induction hrun with
  | start => simp [Service.initial]
  | next _ moves ih => exact moves.decoded ih

/-- What the onboarding service has been handed are the submissions, in their order. -/
theorem Run.bodies_eq (hrun : s.Run h (.initial w) events st) :
    st.attempts.map Onboarding.Attempt.body =
      (events.filterMap Event.submitted?).map Request.body := by
  induction hrun with
  | start => rfl
  | next _ moves ih =>
      rw [moves.bodies_eq, ih, List.filterMap_append, List.map_append]
      congr 1

theorem route?_of_mem_submitted {r : Request} (hr : r ∈ events.filterMap Event.submitted?) :
    r.route? = some .onboard := by
  obtain ⟨e, -, he⟩ := List.mem_filterMap.mp hr
  cases e with
  | request r' =>
      by_cases hroute : r'.route? = some .onboard
      · simp only [Event.submitted?, if_pos hroute, Option.some.injEq] at he
        rwa [← he]
      · simp [Event.submitted?, hroute] at he
  | does => cases he

/-- Whoever acts has the lock, and has submitted values that can be decoded. -/
theorem Run.acts {i : Nat} (hrun : s.Run h (.initial w) events st)
    (hm : s.Moves h st (.does i .act) st') :
    st.Between i ∧ ∃ r, (events.filterMap Event.submitted?)[i]? = some r ∧ r.Acts := by
  cases hm with
  | does moves =>
  cases moves with
  | @does _ a a' _ w' here deeds =>
      -- only a run acts, and what it was decoded from is the body of the request in its place
      obtain ⟨v, steps, failure, hphase⟩ := deeds.exists_running
      have hparse := hrun.decoded a (List.mem_of_getElem? here) v steps failure hphase
      have hbody : ((events.filterMap Event.submitted?).map Request.body)[i]? = some a.body := by
        rw [← hrun.bodies_eq, List.getElem?_map, here, Option.map_some]
      rw [List.getElem?_map, Option.map_eq_some_iff] at hbody
      obtain ⟨r, hr, hbody⟩ := hbody
      obtain ⟨hmethod, hpath⟩ := Request.route?_eq_onboard_iff.mp
        (route?_of_mem_submitted (List.mem_of_getElem? hr))
      exact ⟨⟨a, here, deeds.underway⟩, r, hr, hmethod, hpath, v, hbody ▸ hparse⟩

end

section

variable {h : Host σ} {s : Server} {st st' : Service (σ × List Call)}

/-- Apart from the acts of submissions, a step looks at the device for a request, or it leaves the
device alone. -/
theorem Moves.observed {e : Event} (hm : s.Moves h.traced st e st')
    (he : ∀ i, e ≠ .does i .act) :
    (∃ r, e = .request r ∧ s.Observed h.run r st.world st'.world) ∨
      ∃ i deed, e = .does i deed ∧ st'.world = st.world := by
  cases hm with
  | @submit _ r route moves =>
      have hworld : st'.world = st.world := moves.world_eq fun i => by simp
      exact .inl ⟨r, rfl, hworld ▸ .refl s h.run r st.world⟩
  | @answer r route => exact .inl ⟨r, rfl, answer_observed h s st.locked route st.world⟩
  | @does _ i deed moves =>
      have hworld : st'.world = st.world := moves.world_eq fun j hj => by
        cases hj
        exact he i rfl
      exact .inr ⟨i, deed, rfl, hworld⟩

end

/-- How far a request has come that does not act, if nothing else comes between: it has ended and
left the lock as it was, or it has taken the lock, which was free. -/
inductive Undone (st : Service σ) (body : List UInt8) (st' : Service σ) : Prop where
  | ended (gone : ¬ st'.Between st.attempts.length) (locked : st'.locked = st.locked)
  | reading {present : Bool} {e : Json.Failure} (parsed : Submission.parse body = .error e)
      (here : st'.attempts[st.attempts.length]? = some ⟨body, .reading, present⟩)
      (free : st.locked = false)

section

variable {h : Host σ} {s : Server} {st st' st'' : Service σ}

/-- A request that does not act leaves things undone with every step. -/
theorem Undone.next {body : List UInt8} {deed : Deed} (hundone : Undone st body st')
    (hm : s.Moves h st' (.does st.attempts.length deed) st'') :
    Undone st body st'' ∧ st''.world = st'.world := by
  cases hm with
  | does moves =>
  cases moves with
  | @does _ a a' _ w' here' deeds =>
  cases hundone with
  | ended gone locked => exact absurd ⟨a, here', deeds.underway⟩ gone
  | reading parsed here free =>
      -- the deed is one of a request that is being read: it cannot be handed over
      obtain ⟨hlt, -⟩ := List.getElem?_eq_some_iff.mp here
      obtain rfl := Option.some.inj (here.symm.trans here')
      cases deeds with
      | misread =>
          refine ⟨.ended ?_ (by simp [Deed.releases, free]), rfl⟩
          rintro ⟨b, hb, hunderway⟩
          rw [List.getElem?_set_self hlt, Option.some.injEq] at hb
          subst hb
          exact hunderway
      | hand parsed' => cases parsed.symm.trans parsed'
      | leave => exact ⟨.reading parsed (List.getElem?_set_self hlt) free, rfl⟩

theorem Moves.undone {r : Request} (hr : ¬ r.Acts) (hm : s.Moves h st (.request r) st') :
    Undone st r.body st' := by
  cases hm with
  | submit route moves =>
      obtain ⟨e, hparse⟩ := (Request.not_acts_iff route).mp hr
      cases moves with
      | turnAway => exact .ended (Service.not_between_concat id _ _ _) rfl
      | refuse => exact .ended (Service.not_between_concat id _ _ _) rfl
      | take _ free => exact .reading hparse List.getElem?_concat_length free
  | answer => exact .ended st.not_between_length rfl

/-- A request that does not act can be brought to its end. -/
theorem exists_handles {r : Request} (hr : ¬ r.Acts) : ∃ st', s.Handles h st r st' := by
  by_cases hroute : r.route? = some .onboard
  · obtain ⟨e, hparse⟩ := (Request.not_acts_iff hroute).mp hr
    by_cases hlong : Onboarding.longestBody < r.body.length
    · exact ⟨_, _, .submit hroute (.turnAway hlong), .refl, Service.not_between_concat id _ _ _⟩
    have hfits : r.body.length ≤ Onboarding.longestBody := Nat.le_of_not_lt hlong
    by_cases hlocked : st.locked = true
    · exact ⟨_, _, .submit hroute (.refuse hfits hlocked), .refl,
        Service.not_between_concat id _ _ _⟩
    have hfree : st.locked = false := by simpa using hlocked
    have hmisread : s.Moves h ⟨true, st.attempts ++ [⟨r.body, .reading, true⟩], st.world⟩
        (.does st.attempts.length .misread) _ :=
      .does (.does List.getElem?_concat_length (.misread hparse))
    refine ⟨_, _, .submit hroute (.take hfits hfree), .single ⟨_, hmisread⟩, ?_⟩
    rw [List.set_append_right _ _ (Nat.le_refl _), Nat.sub_self]
    exact Service.not_between_concat id _ _ _
  · exact ⟨_, _, .answer hroute, .refl, st.not_between_length⟩

end

section

variable {h : Host σ} {s : Server} {st st' : Service (σ × List Call)}

/-- A request that does not act leaves the lock as it was, and the device has at most been looked at
for it. -/
theorem Handles.observed {r : Request} (hr : ¬ r.Acts)
    (hhandles : s.Handles h.traced st r st') :
    st'.locked = st.locked ∧ s.Observed h.run r st.world st'.world := by
  obtain ⟨st₁, hm, hdeeds, hgone⟩ := hhandles
  -- from the arrival on nothing is done to the device, so that the induction only carries the lock
  have hundone : Undone st r.body st' ∧ st'.world = st₁.world := by
    clear hgone
    induction hdeeds with
    | refl => exact ⟨hm.undone hr, rfl⟩
    | tail _ hnext ih =>
        obtain ⟨deed, hnext⟩ := hnext
        obtain ⟨hundone, hworld⟩ := ih.1.next hnext
        exact ⟨hundone, hworld.trans ih.2⟩
  obtain ⟨hundone, hworld⟩ := hundone
  rcases hm.observed (fun i => by simp) with ⟨r', hr', hobserved⟩ | ⟨i, deed, hdoes, -⟩
  · obtain rfl := Event.request.inj hr'
    refine ⟨?_, hworld ▸ hobserved⟩
    cases hundone with
    | ended _ locked => exact locked
    | reading _ here _ => exact absurd ⟨_, here, trivial⟩ hgone
  · cases hdoes

/-- Requests of which none acts have done nothing but run programs that look at the device. -/
theorem Run.world_eq_after {w : World σ} {events : List Event}
    (hrun : s.Run h.traced (.initial (w.noting [])) events st)
    (hquiet : ∀ r ∈ events.filterMap Event.submitted?, ¬ r.Acts) :
    st.world = (w.after h.run st.world.programs.2).noting st.world.programs.2 ∧
      ∀ call ∈ st.world.programs.2, ∃ r, .request r ∈ events ∧ s.Looks r call := by
  induction hrun with
  | start => exact ⟨rfl, fun call hcall => by cases hcall⟩
  | @next events e st st' hrun hm ih =>
      rw [List.filterMap_append] at hquiet
      obtain ⟨hworld, hlooks⟩ := ih fun r hr => hquiet r (List.mem_append_left _ hr)
      have hmono : ∀ call ∈ st.world.programs.2,
          ∃ r, .request r ∈ events ++ [e] ∧ s.Looks r call := by
        intro call hcall
        obtain ⟨r, hr, hlook⟩ := hlooks call hcall
        exact ⟨r, List.mem_append_left _ hr, hlook⟩
      have hact : ∀ i, e ≠ .does i .act := by
        rintro i rfl
        obtain ⟨-, r, hr, hacts⟩ := hrun.acts hm
        exact hquiet r (List.mem_append_left _ (List.mem_of_getElem? hr)) hacts
      rcases hm.observed hact with ⟨r, rfl, hobserved⟩ | ⟨i, deed, -, hsame⟩
      · obtain ⟨calls, hnext, hnew⟩ := hobserved.next hworld
        refine ⟨hnext.2, fun call hcall => ?_⟩
        rw [hnext.1] at hcall
        rcases List.mem_append.mp hcall with hold | hcall
        · exact hmono call hold
        · exact ⟨r, by simp, hnew call hcall⟩
      · rw [hsame]
        exact ⟨hworld, hmono⟩

theorem answer_eq_of_page {h : Host σ} {busy busy' : Bool} {r : Request} {w w' : World σ}
    (hpath : Route.ofPath? r.path = none) :
    (s.answer h busy r w).response = (s.answer h busy' r w').response := by
  by_cases hoptions : r.method = "OPTIONS" <;> simp [answer, answerAt, hpath, hoptions]

/-- However requests are mixed: a step writes files and issues commands only as the act of a
submission that has the lock and could be decoded.  Otherwise it looks at the device for a request,
or leaves it alone.  A request that does not act can be dealt with at any time, and leaves the lock
as it was; and no page changes. -/
theorem Run.only_submissions_act {w : World σ} {events : List Event}
    (hrun : s.Run h.traced (.initial (w.noting [])) events st) :
    (∀ e st', s.Moves h.traced st e st' →
      (∃ i, e = .does i .act ∧ st.Between i ∧
        ∃ r, (events.filterMap Event.submitted?)[i]? = some r ∧ r.Acts) ∨
      (∃ r, e = .request r ∧ s.Observed h.run r st.world st'.world) ∨
      ∃ i deed, e = .does i deed ∧ st'.world = st.world) ∧
    (∀ r, ¬ r.Acts → (∃ st', s.Handles h.traced st r st') ∧
      ∀ st', s.Handles h.traced st r st' →
        st'.locked = st.locked ∧ s.Observed h.run r st.world st'.world) ∧
    ∀ r, Route.ofPath? r.path = none →
      (s.answer h.traced st.locked r st.world).response =
        (s.answer h.traced false r (w.noting [])).response := by
  refine ⟨fun e st' hm => ?_, fun r hr => ⟨exists_handles hr, fun st' => Handles.observed hr⟩,
    fun r hpath => answer_eq_of_page hpath⟩
  by_cases he : ∃ i, e = .does i .act
  · obtain ⟨i, rfl⟩ := he
    exact .inl ⟨i, rfl, hrun.acts hm⟩
  · exact .inr (hm.observed (not_exists.mp he))

end

/-- The state of a unit is asked for while a run is under way: one program is run, and the lock is
kept.  Then the run goes on and writes a file, which the submission allows. -/
theorem Run.key_acts :
    ∃ (events : List Event) (st st' st'' : Service (Unit × List Call)) (r : Request),
      (of .empty Service.keyPipeline "wlan0").Run silentHost.traced
        (.initial ((World.of .empty ()).noting [])) events st ∧
      (of .empty Service.keyPipeline "wlan0").Moves silentHost.traced st (.does 0 .act) st' ∧
      st.world.files.find? "psk" = none ∧ st'.world.files.find? "psk" = some (.file []) ∧
      (events.filterMap Event.submitted?)[0]? = some r ∧ r.Acts ∧
      (of .empty Service.keyPipeline "wlan0").Handles silentHost.traced
        st ⟨"GET", "/api/v1/status/systemd", "unit=a".toList, []⟩ st'' ∧
      st''.locked = true ∧ st''.world.files.find? "psk" = none := by
  have hparse : Submission.parse [123, 125] = .ok .empty := rfl
  let start : World (Unit × List Call) := (World.of .empty ()).noting []
  let written : World (Unit × List Call) :=
    (World.of { entries := [(["psk".toList], .file [])] } ()).noting []
  have hstep : (Step.copyValue "psk" "psk").run silentHost.traced.toMachine .empty start =
      (none, written) := rfl
  have hget : ¬ (⟨"GET", "/api/v1/status/systemd", "unit=a".toList, []⟩ : Request).Acts := by
    rintro ⟨hmethod, -⟩
    exact absurd hmethod (by decide)
  have hhand : (of .empty Service.keyPipeline "wlan0").Run silentHost.traced (.initial start)
      [.request ⟨"POST", "/api/v1/onboard", [], [123, 125]⟩, .does 0 .hand]
      ⟨true, [⟨[123, 125], .running .empty Service.keyPipeline.steps none, true⟩], start⟩ :=
    .next (.next .start (.submit (by decide) (.take (by decide) rfl)))
      (.does (.does rfl (.hand hparse)))
  have hact : (of .empty Service.keyPipeline "wlan0").Moves silentHost.traced
      ⟨true, [⟨[123, 125], .running .empty Service.keyPipeline.steps none, true⟩], start⟩
      (.does 0 .act) ⟨true, [⟨[123, 125], .running .empty [] none, true⟩], written⟩ :=
    .does (.does rfl (.act hstep))
  obtain ⟨hmoves, hhandles, -⟩ := hhand.only_submissions_act
  obtain ⟨⟨st'', hst''⟩, hobserved⟩ := hhandles _ hget
  obtain ⟨hlocked, hlooked⟩ := hobserved st'' hst''
  have hfiles : st''.world.files = start.files := hlooked.files fun call _ d => rfl
  rcases hmoves _ _ hact with ⟨i, hi, -, r, hr, hacts⟩ | ⟨r, hr, -⟩ | ⟨i, deed, hi, hworld⟩
  · cases hi
    refine ⟨_, _, _, st'', r, hhand, hact, by decide, by decide, hr, hacts, hst'', hlocked, ?_⟩
    rw [hfiles]
    decide
  · cases hr
  · cases congrArg (fun w => w.files) hworld

end Server

end Provision
