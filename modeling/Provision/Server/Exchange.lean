import Provision.Server.Onboarding
import Provision.Server.Route
import Provision.Server.Status

namespace Provision.Server

/-!
# Answers

Every request is answered: at a route if it has a method that the route takes, and with a page
elsewhere.  Pages of other origins may send any request.
-/

def originHeaders : List (String × String) :=
  [("access-control-allow-origin", "*"),
    ("vary", "origin, access-control-request-method, access-control-request-headers")]

def preflightHeaders : List (String × String) :=
  [("access-control-allow-methods", "*"), ("access-control-allow-headers", "*")]

def atRoute {σ : Type} (h : Host σ) (s : Server) (busy : Bool) (r : Request) (w : World σ) :
    Route → Exchange σ
  | .onboard => Onboarding.answerOn h s.pipeline busy r.body w
  | .unitStatus => unitStatus h r.form w
  | .linkStatus => linkStatus h s.interface w
  | .addresses => addresses h r.form w
  | .networkLog => journal h (Journal.networkMatchers s.interface) w
  | .accessLog => journal h (Journal.accessMatchers s.interface) w

def answerAt {σ : Type} (h : Host σ) (s : Server) (busy : Bool) (r : Request) (w : World σ) :
    Option Route → Exchange σ
  | none => ⟨s.page r.path, w, []⟩
  | some route =>
    if r.method ∈ route.methods then atRoute h s busy r w route
    else ⟨(Response.bare 405).adding [route.allowHeader], w, []⟩

/-- The answer to a request, while another run goes on or not. -/
def answer {σ : Type} (h : Host σ) (s : Server) (busy : Bool) (r : Request) (w : World σ) :
    Exchange σ :=
  let route? := Route.ofPath? r.path
  if r.method = "OPTIONS" then
    ⟨(Response.bare 200).adding
      (originHeaders ++ preflightHeaders ++ (route?.map Route.allowHeader).toList), w, []⟩
  else
    let exchange := answerAt h s busy r w route?
    let response := exchange.response.adding originHeaders
    { exchange with response := if r.method = "HEAD" then response.withoutBody else response }

end Provision.Server
