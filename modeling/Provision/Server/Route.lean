namespace Provision

/-!
# Routes

The requests that are answered by something other than a page: one submits values, the others ask
for the state of the device.
-/

inductive Route where
  /-- Submits values and executes the actions. -/
  | onboard
  | unitStatus
  | linkStatus
  /-- Asks for the addresses of an endpoint's host. -/
  | addresses
  /-- Follows what the journal says about the network. -/
  | networkLog
  /-- Follows what the journal says about access to the wireless network. -/
  | accessLog
  deriving DecidableEq, Repr, Inhabited

namespace Route

def all : List Route := [onboard, unitStatus, linkStatus, addresses, networkLog, accessLog]

def path : Route → String
  | onboard => "/api/v1/onboard"
  | unitStatus => "/api/v1/status/systemd"
  | linkStatus => "/api/v1/status/link"
  | addresses => "/api/v1/status/dns"
  | networkLog => "/api/v1/log/systemd-networkd"
  | accessLog => "/api/v1/log/wpa_supplicant"

def ofPath? (path : String) : Option Route := all.find? fun r => r.path = path

def methods : Route → List String
  | onboard => ["POST"]
  | _ => ["GET", "HEAD"]

def allowHeader (r : Route) : String × String := ("allow", ",".intercalate r.methods)

theorem mem_all (r : Route) : r ∈ all := by
  cases r <;> simp [all]

@[simp] theorem ofPath?_path (r : Route) : ofPath? r.path = some r := by
  cases r <;> rfl

theorem path_of_ofPath? {path : String} {r : Route} (h : ofPath? path = some r) :
    r.path = path := by
  simpa using List.find?_some h

end Route

end Provision
