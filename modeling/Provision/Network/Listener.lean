import Provision.Advertisement
import Provision.SystemError
import Provision.Text.Split

namespace Provision

/-!
# Listening

A program listens at a port of an address, as long as the address is one of the machine's and the
port is free.
-/

structure Listener where
  address : Address
  port : Nat
  deriving DecidableEq, Repr, Inhabited

inductive ListenFault where
  /-- There is no port. -/
  | malformed
  | wrongPort
  | unknownHost (cause : String)
  /-- The host has no address at all. -/
  | noAddress
  | system (cause : SystemError)
  deriving DecidableEq, Repr

def ListenFault.message : ListenFault → String
  | malformed => "invalid socket address"
  | wrongPort => "invalid port value"
  | unknownHost cause => cause
  | noAddress => "could not resolve to any address"
  | system cause => cause.message

/-- The network as a machine sees it: the addresses that are its own, the ports that are taken, the
addresses of hosts, and the daemon for advertisements.  The machine may fail to deal with
connections, or to tell at which port it listens. -/
structure Network where
  isOwn : Address → Bool
  taken : List Nat
  resolve : List Char → Except String (List Address)
  engine : Except String Unit
  portOf : Listener → Except String Nat
  advertiser : Advertiser

namespace Network

def isLoopback : Address → Bool
  | .short (first :: _) => first = 127
  | .short [] => false
  | .long groups => groups = [0, 0, 0, 0, 0, 0, 0, 1]

def isAny : Address → Bool
  | .short bytes => bytes.all (· = 0)
  | .long groups => groups.all (· = 0)

/-- A machine without addresses of its own but those that every machine has, and without any names.
Nothing fails on it. -/
def isolated (taken : List Nat) : Network where
  isOwn a := isLoopback a || isAny a
  taken := taken
  resolve := Address.lookup
  engine := .ok ()
  portOf l := .ok l.port
  advertiser := ⟨.ok (), fun a => .ok (a.name ++ "." ++ a.kind), fun _ => .ok ()⟩

end Network

namespace Listener

def plainPort? (cs : List Char) : Option Nat := do
  let port ← Address.number? 10 cs
  if port < 65536 then some port else none

/-- Reads a port; it may have a plus sign. -/
def port? (cs : List Char) : Option Nat :=
  plainPort? (if cs.head? = some '+' then cs.tail else cs)

def address? (cs : List Char) : Option Address :=
  match cs with
  | '[' :: inner =>
    match inner.reverse with
    | ']' :: host => (Address.allGroups? host.reverse).map .long
    | _ => none
  | _ => (Address.bytes? cs).map .short

def literal? (text : List Char) : Option Listener := do
  let (host, port) ← Text.cutLast ':' text
  return ⟨← address? host, ← plainPort? port⟩

/-- Where to listen, by the text for it: at an address, or at one of those that a host has. -/
def candidates (n : Network) (text : List Char) : Except ListenFault (List Listener) :=
  match literal? text with
  | some l => .ok [l]
  | none =>
    match Text.cutLast ':' text with
    | none => .error .malformed
    | some (host, port) =>
      match port? port with
      | none => .error .wrongPort
      | some port =>
        match n.resolve host with
        | .ok addresses => .ok (addresses.map fun a => ⟨a, port⟩)
        | .error cause => .error (.unknownHost cause)

def attempt (n : Network) (l : Listener) : Except SystemError Unit :=
  if !n.isOwn l.address then .error .addressNotAvailable
  else if l.port ∈ n.taken then .error .addressInUse
  else .ok ()

/-- Listens at the first place where it is possible; the last failure tells why there is none. -/
def bindFirst (n : Network) : ListenFault → List Listener → Except ListenFault Listener
  | fault, [] => .error fault
  | _, l :: rest =>
    match attempt n l with
    | .ok () => .ok l
    | .error cause => bindFirst n (.system cause) rest

def bind (n : Network) (text : List Char) : Except ListenFault Listener := do
  bindFirst n .noAddress (← candidates n text)

/-- A port alone stands for all addresses. -/
def complete (text : String) : String :=
  if text.toList.head? = some ':' then "0.0.0.0" ++ text else text

end Listener

end Provision
