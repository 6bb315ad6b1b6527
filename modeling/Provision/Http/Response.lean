import Provision.Json.Value
import Provision.Text.Utf8

namespace Provision

/-!
# Responses
-/

structure Response where
  status : Nat
  headers : List (String × String)
  body : List UInt8
  deriving DecidableEq, Repr, Inhabited

namespace Response

def typeHeader (type : String) : String × String := ("content-type", type)

def bare (status : Nat) : Response := ⟨status, [], []⟩

def typed (status : Nat) (type text : String) : Response :=
  ⟨status, [typeHeader type], Text.utf8 text⟩

def plain (status : Nat) (text : String) : Response :=
  typed status "text/plain; charset=utf-8" text

def json (status : Nat) (value : Json) : Response := typed status "application/json" value.render

def error (status : Nat) (message : String) : Response :=
  json status (.object [("error", .text message)])

def adding (headers : List (String × String)) (r : Response) : Response :=
  { r with headers := r.headers ++ headers }

def withoutBody (r : Response) : Response := { r with body := [] }

end Response

end Provision
