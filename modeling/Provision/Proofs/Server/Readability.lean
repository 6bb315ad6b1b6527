import Mathlib.Data.List.Count
import Provision.Proofs.Json.Reading
import Provision.Proofs.Server.Routing

namespace Provision

/-!
# Responses that a page can read

A page that sends a request takes the status 200 for success, and anything else for an object in
JSON whose member `error` tells what went wrong.  The handlers of the routes answer like that
whatever programs do, whatever is known of a host, and wherever a task is broken off.  A form that
gives the field of a route more than once does not get to the handler: it is answered by a plain
text.
-/

variable {σ : Type}

namespace Response

def contentTypes (r : Response) : List String :=
  r.headers.filterMap fun h => if h.1 = "content-type" then some h.2 else none

/-- The body is an object with the one member `error`, a text. -/
structure TellsError (r : Response) : Prop where
  contentTypes : r.contentTypes = ["application/json"]
  body : ∃ message cs, (Json.object [("error", .text message)]).Spells cs ∧ r.body = Json.encode cs

def Readable (r : Response) : Prop := r.status = 200 ∨ r.TellsError

theorem readable_of_status {r : Response} (h : r.status = 200) : r.Readable := .inl h

theorem tellsError_error (status : Nat) (message : String) : (error status message).TellsError :=
  ⟨rfl, message, _, Json.spells_chars _, Json.utf8_ofList _⟩

theorem readable_error (status : Nat) (message : String) : (error status message).Readable :=
  .inr (tellsError_error status message)

/-- Headers that say nothing about the type of the body change nothing. -/
theorem readable_adding {headers : List (String × String)}
    (h : ∀ header ∈ headers, header.1 ≠ "content-type") (r : Response) :
    (r.adding headers).Readable ↔ r.Readable := by
  have htypes : (r.adding headers).contentTypes = r.contentTypes := by
    have hnone : (headers.filterMap fun h =>
        if h.1 = "content-type" then some h.2 else none) = [] := by
      rw [List.filterMap_eq_nil_iff]
      exact fun header hmem => if_neg (h header hmem)
    simp [contentTypes, adding, hnone]
  constructor
  · rintro (hstatus | ⟨htype, hbody⟩)
    · exact .inl hstatus
    · exact .inr ⟨htypes ▸ htype, hbody⟩
  · rintro (hstatus | ⟨htype, hbody⟩)
    · exact .inl hstatus
    · exact .inr ⟨htypes.trans htype, hbody⟩

theorem not_readable_plain {status : Nat} (h : status ≠ 200) (text : String) :
    ¬ (plain status text).Readable := by
  rintro (hstatus | ⟨htype, -⟩)
  · exact h hstatus
  · exact absurd htype (by simp [contentTypes, plain, typed, typeHeader])

end Response

namespace Form

/-- A field cannot be read exactly if it is given more than once. -/
theorem field?_eq_none_iff (name : String) (form : List UInt8) :
    field? name form = none ↔ 1 < (pairs form).countP fun p => p.1 = name := by
  rw [field?, List.countP_eq_length_filter]
  generalize (pairs form).filter (fun p => p.1 = name) = given
  rcases given with _ | ⟨p, _ | ⟨q, rest⟩⟩ <;> simp

end Form

namespace Route

def field? : Route → Option String
  | unitStatus => some "unit"
  | addresses => some "endpoint"
  | _ => none

end Route

def Request.Repeats (r : Request) (route : Route) : Prop :=
  ∃ name ∈ route.field?, 1 < (Form.pairs r.form).countP fun p => p.1 = name

namespace Onboarding

theorem readable_ofFailure? (failure : Option Failure) : (ofFailure? failure).Readable := by
  cases failure with
  | none => exact .inl rfl
  | some e => exact Response.readable_error 500 e.message

theorem readable_brokenOff (cause : String) : (brokenOff cause).Readable :=
  Response.readable_error _ _

/-- Onboarding answers in a readable form, unless the body is too long. -/
theorem answer_readable (m : Machine σ) (p : Pipeline) (busy : Bool) {body : List UInt8}
    (h : body.length ≤ longestBody) (w : World σ) : (answer m p busy body w).response.Readable := by
  rw [answer, if_neg (Nat.not_lt.mpr h)]
  cases busy with
  | true => exact Response.readable_error _ _
  | false =>
      rcases Submission.parse body with e | s
      · exact Response.readable_error _ _
      · exact readable_ofFailure? _

theorem answerOn_readable (h : Host σ) (p : Pipeline) (busy : Bool) {body : List UInt8}
    (hbody : body.length ≤ longestBody) (w : World σ) :
    (answerOn h p busy body w).response.Readable := by
  have hanswer := answer_readable h.toMachine p busy hbody w
  rcases hbegins : begins? busy body with _ | s
  · rwa [answerOn_of_not_begins h p hbegins]
  · rw [answerOn_of_begins h p hbegins]
    rcases h.breaksOff w with _ | b
    · exact hanswer
    · rcases hcut : cutShort h p s b w with _ | e
      · simpa [hcut] using hanswer
      · have hresponse : e.response = brokenOff b.cause := by
          simp only [cutShort] at hcut
          split at hcut <;> cases hcut
          rfl
        simp only [Option.bind_some, hcut, Option.getD_some, hresponse]
        exact readable_brokenOff b.cause

end Onboarding

namespace Server

variable (h : Host σ) (s : Server) (busy : Bool) (w : World σ) {r : Request} {route : Route}

theorem complaint_readable (status : Nat) (message : String) (details : List (String × Json)) :
    (complaint status message details w).response.Readable :=
  Response.readable_error status message

theorem unitStatus_readable {form : List UInt8} (hfield : Form.field? "unit" form ≠ none) :
    (unitStatus h form w).response.Readable := by
  obtain ⟨unit, hunit⟩ := Option.ne_none_iff_exists'.mp hfield
  rw [unitStatus, hunit]
  by_cases hempty : unit = ""
  · subst hempty
    exact Response.readable_error _ _
  · rcases hstatus : h.units.status unit w.toDevice with ⟨result, d⟩
    rcases hbreaks : h.breaksOff w with _ | b
    · rcases result with e | status
      · simpa [hstatus, hbreaks] using complaint_readable _ _ _ _
      · simpa [hstatus, hbreaks] using Response.readable_of_status rfl
    · simpa [hstatus, hbreaks] using Onboarding.readable_brokenOff b.cause

theorem linkStatus_readable (interface : String) :
    (linkStatus h interface w).response.Readable := by
  rw [linkStatus]
  rcases h.run linkProgram (linkArguments interface) w.toDevice with ⟨cause | o, d⟩
  · exact Response.readable_error _ _
  · by_cases hexit : o.exit = 0
    · rcases hparse : LinkStatus.parse o.stdout with e | status
      · simpa [hexit, hparse] using Response.readable_error _ _
      · simpa [hexit, hparse] using Response.readable_of_status rfl
    · simpa [hexit] using complaint_readable _ _ _ _

theorem addresses_readable {form : List UInt8} (hfield : Form.field? "endpoint" form ≠ none) :
    (addresses h form w).response.Readable := by
  obtain ⟨endpoint, hendpoint⟩ := Option.ne_none_iff_exists'.mp hfield
  rw [addresses, hendpoint]
  rcases hparse : Endpoint.parse? endpoint.toList with _ | e
  · simpa [hparse] using complaint_readable _ _ _ _
  · rcases hlookup : h.resolve e.host w.toDevice with cause | _ | ⟨a, rest⟩
    · simpa [hparse, hlookup] using complaint_readable _ _ _ _
    · simpa [hparse, hlookup] using complaint_readable _ _ _ _
    · simpa [hparse, hlookup] using Response.readable_of_status rfl

theorem journal_readable (matchers : List String) : (journal h matchers w).response.Readable := by
  rw [journal]
  rcases h.run Journal.program (Journal.arguments matchers) w.toDevice with ⟨cause | o, d⟩
  · exact Response.readable_error _ _
  · exact .inl rfl

/-- So does every other route, unless the field that it reads is repeated. -/
theorem atRoute_readable (hbody : r.body.length ≤ Onboarding.longestBody)
    (hgiven : ¬ r.Repeats route) : (atRoute h s busy r w route).response.Readable := by
  have hfield : ∀ name ∈ route.field?, Form.field? name r.form ≠ none := by
    intro name hname hnone
    exact hgiven ⟨name, hname, (Form.field?_eq_none_iff name r.form).mp hnone⟩
  cases route with
  | onboard => exact Onboarding.answerOn_readable h s.pipeline busy hbody w
  | unitStatus => exact unitStatus_readable h w (hfield "unit" rfl)
  | linkStatus => exact linkStatus_readable h w s.interface
  | addresses => exact addresses_readable h w (hfield "endpoint" rfl)
  | networkLog => exact journal_readable h w _
  | accessLog => exact journal_readable h w _

/-- A field that is given more than once is answered before the handler, and nothing is run. -/
theorem atRoute_of_repeats (hgiven : r.Repeats route) :
    ∃ name ∈ route.field?, atRoute h s busy r w route = ⟨repeatedField name, w, []⟩ := by
  obtain ⟨name, hname, hcount⟩ := hgiven
  have hnone := (Form.field?_eq_none_iff name r.form).mpr hcount
  refine ⟨name, hname, ?_⟩
  cases route with
  | unitStatus =>
      obtain rfl := Option.some.inj hname
      simp only [atRoute, unitStatus, hnone]
  | addresses =>
      obtain rfl := Option.some.inj hname
      simp only [atRoute, addresses, hnone]
  | onboard => cases hname
  | linkStatus => cases hname
  | networkLog => cases hname
  | accessLog => cases hname

theorem originHeaders_types : ∀ header ∈ originHeaders, header.1 ≠ "content-type" := by
  decide

/-- What a route answers to a page is read by it unless the form gives the field of the route more
than once. -/
theorem answer_readable_iff (hpath : r.path = route.path) (hmethod : r.method = route.method)
    (hbody : r.body.length ≤ Onboarding.longestBody) :
    (s.answer h busy r w).response.Readable ↔ ¬ r.Repeats route := by
  rw [answer_of_method h s busy w hpath hmethod, Response.readable_adding originHeaders_types]
  constructor
  · -- what the form gives twice is answered by a plain text
    intro hreadable hgiven
    obtain ⟨name, -, hanswer⟩ := atRoute_of_repeats h s busy w hgiven
    rw [hanswer] at hreadable
    exact Response.not_readable_plain (by decide) _ hreadable
  · exact atRoute_readable h s busy w hbody

/-- A host without addresses, of which the page reads that it has none. -/
theorem answer_addressless_readable :
    let h : Host Unit := { silentHost with resolve := fun _ _ => .ok [] }
    let r : Request := ⟨"GET", "/api/v1/status/dns", "endpoint=home%3A80".toList, []⟩
    let answer := (of .empty ⟨[]⟩ "wlan0").answer h true r (.of .empty ())
    answer.response.status = 500 ∧ answer.response.Readable := by
  intro h r answer
  have hpath : r.path = Route.addresses.path := rfl
  refine ⟨by decide, (answer_readable_iff _ _ _ _ hpath rfl (by decide)).mpr ?_⟩
  rintro ⟨name, hname, hcount⟩
  obtain rfl := Option.some.inj hname
  revert hcount
  decide

/-- A unit that is given twice, of which the page reads nothing. -/
theorem answer_repeated_not_readable :
    let r : Request := ⟨"GET", "/api/v1/status/systemd", "unit=a&unit=b".toList, []⟩
    let answer := (of .empty ⟨[]⟩ "wlan0").answer silentHost false r (.of .empty ())
    r.path = Route.unitStatus.path ∧ r.method = Route.unitStatus.method ∧
      ¬ answer.response.Readable := by
  intro r answer
  have hanswer : answer.response = (repeatedField "unit").adding originHeaders := by
    decide
  refine ⟨rfl, rfl, ?_⟩
  rw [hanswer, Response.readable_adding originHeaders_types]
  exact Response.not_readable_plain (by decide) _

end Server

end Provision
