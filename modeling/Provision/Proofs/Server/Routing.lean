import Provision.Proofs.Server.Calls

namespace Provision

/-!
# Routing

The handler of a route gets a request that has the path of the route and a method which the route
takes.  The answer is that of the handler, with the headers for pages of other origins; without a
handler nothing is done.
-/

variable {σ : Type}

namespace Request

def route? (r : Request) : Option Route :=
  (Route.ofPath? r.path).filter fun route => r.method ∈ route.methods

variable {r : Request} {route : Route}

theorem route?_of_ofPath? (h : Route.ofPath? r.path = some route) :
    r.route? = if r.method ∈ route.methods then some route else none := by
  rw [route?, h, Option.filter_some]
  simp

theorem route?_eq_some_iff :
    r.route? = some route ↔ r.path = route.path ∧ r.method ∈ route.methods := by
  rw [route?, Option.filter_eq_some_iff, decide_eq_true_iff]
  refine and_congr_left fun _ => ⟨fun h => (Route.path_of_ofPath? h).symm, ?_⟩
  intro h
  rw [h, Route.ofPath?_path]

/-- There is one method and one path by which values are submitted. -/
theorem route?_eq_onboard_iff :
    r.route? = some .onboard ↔ r.method = "POST" ∧ r.path = "/api/v1/onboard" := by
  rw [route?_eq_some_iff, and_comm]
  simp [Route.methods, Route.path]

theorem method_ne_options (h : r.route? = some route) : r.method ≠ "OPTIONS" := by
  obtain ⟨-, hmethod⟩ := route?_eq_some_iff.mp h
  rintro hoptions
  exact route.options_notMem_methods (hoptions ▸ hmethod)

end Request

namespace Server

variable (h : Host σ) (s : Server) (busy : Bool) {r : Request} (w : World σ) {route : Route}

theorem answer_of_route? (hroute : r.route? = some route) :
    s.answer h busy r w =
      let exchange := atRoute h s busy r w route
      let response := exchange.response.adding originHeaders
      { exchange with
        response := if r.method = "HEAD" then response.withoutBody else response } := by
  obtain ⟨hpath, hmethod⟩ := Request.route?_eq_some_iff.mp hroute
  simp only [answer, hpath, Route.ofPath?_path, if_neg (Request.method_ne_options hroute), answerAt,
    if_pos hmethod]

/-- Without a route there is nothing to be done. -/
theorem answer_world_of_route?_eq_none (hroute : r.route? = none) :
    (s.answer h busy r w).world = w := by
  rw [answer]
  split
  · rfl
  · rcases hpath : Route.ofPath? r.path with _ | route
    · rfl
    · have hmethod : r.method ∉ route.methods := by
        simpa [Request.route?_of_ofPath? hpath] using hroute
      simp [answerAt, hmethod]

theorem answer_world : (s.answer h busy r w).world =
    match r.route? with
    | none => w
    | some route => (atRoute h s busy r w route).world := by
  rcases hroute : r.route? with _ | route
  · exact answer_world_of_route?_eq_none h s busy w hroute
  · rw [answer_of_route? h s busy w hroute]

theorem calls_eq : s.calls h busy r w =
    match r.route? with
    | none => []
    | some route => callsAtRoute h s busy r w route := by
  rcases hpath : Route.ofPath? r.path with _ | route
  · simp [calls, Request.route?, hpath]
  · by_cases hmethod : r.method ∈ route.methods <;>
      simp [calls, hpath, Request.route?_of_ofPath? hpath, hmethod]

end Server

/-! ## The requests of a page -/

namespace Route

/-- The method with which a page sends a request to the route. -/
def method : Route → String
  | onboard => "POST"
  | _ => "GET"

theorem method_mem_methods (route : Route) : route.method ∈ route.methods := by
  cases route <;> decide

theorem method_ne_head (route : Route) : route.method ≠ "HEAD" := by
  cases route <;> decide

end Route

theorem Server.answer_of_method (h : Host σ) (s : Server) (busy : Bool) (w : World σ) {r : Request}
    {route : Route} (hpath : r.path = route.path) (hmethod : r.method = route.method) :
    s.answer h busy r w =
      let exchange := atRoute h s busy r w route
      { exchange with response := exchange.response.adding originHeaders } := by
  have hroute : r.route? = some route :=
    Request.route?_eq_some_iff.mpr ⟨hpath, hmethod ▸ route.method_mem_methods⟩
  simp only [answer_of_route? h s busy w hroute, if_neg (hmethod ▸ route.method_ne_head)]

end Provision
