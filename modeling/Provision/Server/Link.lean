import Provision.Json.Decoder
import Provision.Json.Value
import Provision.Text.Lowercase

namespace Provision

/-!
# Link status

The addresses and the state of a network interface, as they are read from a list of links in JSON.
Only the first link counts, but every link has to be well formed.
-/

structure LinkAddress where
  host : String
  prefixLength : Nat
  deriving DecidableEq, Repr, Inhabited

namespace LinkAddress

def text (a : LinkAddress) : String := a.host ++ "/" ++ toString a.prefixLength

open Json.Decoder in
def member (key : String) (s : Option String × Option Nat) :
    Json.Decoder (Option String × Option Nat) := do
  if key = "local" then return (← fieldValue key s.1 string, s.2)
  else if key = "prefixlen" then return (s.1, ← fieldValue key s.2 byte)
  else
    memberValue ignored
    return s

open Json.Decoder in
def decode : Json.Decoder LinkAddress :=
  record "struct IpAddrInfo"
    (do
      match ← members member (none, none) with
      | (some host, some prefixLength) => return ⟨host, prefixLength⟩
      | (none, _) => fail (.missing "local")
      | (_, none) => fail (.missing "prefixlen"))
    (do
      if !(← hasItem true) then fail (.wrongLength 0 "struct IpAddrInfo with 2 elements")
      let host ← string
      if !(← hasItem false) then fail (.wrongLength 1 "struct IpAddrInfo with 2 elements")
      return ⟨host, ← byte⟩)

end LinkAddress

structure Link where
  state : String
  addresses : List LinkAddress
  deriving DecidableEq, Repr, Inhabited

namespace Link

open Json.Decoder in
def member (key : String) (s : Option String × Option (List LinkAddress)) :
    Json.Decoder (Option String × Option (List LinkAddress)) := do
  if key = "operstate" then return (← fieldValue key s.1 string, s.2)
  else if key = "addr_info" then
    return (s.1, ← fieldValue key s.2 (list LinkAddress.decode))
  else
    memberValue ignored
    return s

open Json.Decoder in
def decode : Json.Decoder Link :=
  record "struct IpLink"
    (do
      let (state, addresses) ← members member (none, none)
      return ⟨state.getD "", addresses.getD []⟩)
    (do
      if !(← hasItem true) then return ⟨"", []⟩
      let state ← string
      if !(← hasItem false) then return ⟨state, []⟩
      return ⟨state, ← list LinkAddress.decode⟩)

end Link

structure LinkStatus where
  addresses : List String
  state : String
  deriving DecidableEq, Repr, Inhabited

namespace LinkStatus

def ofLinks : List Link → LinkStatus
  | [] => ⟨[], "unknown"⟩
  | link :: _ => ⟨link.addresses.map LinkAddress.text, Text.lower link.state⟩

def parse (output : List UInt8) : Except Json.Failure LinkStatus :=
  match Json.Decoder.document (Json.Decoder.list Link.decode) output with
  | .ok links => .ok (ofLinks links)
  | .error failure => .error failure

def json (s : LinkStatus) : Json :=
  .object [("addresses", .list (s.addresses.map .text)), ("state", .text s.state)]

end LinkStatus

end Provision
