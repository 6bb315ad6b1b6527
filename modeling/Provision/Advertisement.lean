import Provision.Log
import Provision.Network.Address
import Provision.Text.Blank

namespace Provision

/-!
# Advertisements

A device tells its local network where its pages are found.  A daemon does it, which may fail in one
way or another.
-/

/-- What a network is told: there is a service of a kind, under a name and on a host. -/
structure Advertisement where
  kind : String
  name : String
  host : String
  address : Address
  port : Nat
  properties : List (String × String)
  deriving DecidableEq, Repr

/-- The daemon for advertisements: whether it starts, the full name under which it knows a service,
and whether it takes it on. -/
structure Advertiser where
  start : Except String Unit
  fullName : Advertisement → Except String String
  register : Advertisement → Except String Unit

namespace Advertisement

inductive Fault where
  | noDaemon (cause : String)
  | noService (cause : String)
  | notRegistered (cause : String)
  deriving DecidableEq, Repr

def Fault.message : Fault → String
  | noDaemon cause => "failed to start mDNS daemon: " ++ cause
  | noService cause => "failed to build mDNS service: " ++ cause
  | notRegistered cause => "failed to register mDNS service: " ++ cause

def instanceName (id : String) : String := Text.trimmed ("Onboard " ++ id)

def of (id : String) (address : Address) (port : Nat) : Advertisement :=
  ⟨"_http._tcp.local.", instanceName id, "onboard.local.", address, port, [("id", id)]⟩

def publish (a : Advertisement) (daemon : Advertiser) : Except Fault LogLine := do
  daemon.start.mapError .noDaemon
  let fullName ← (daemon.fullName a).mapError .noService
  (daemon.register a).mapError .notRegistered
  return ⟨.info, "advertising over mDNS",
    [("service", .text fullName), ("ip", .text (.ofList a.address.text)),
      ("port", .natural a.port)]⟩

end Advertisement

end Provision
