import Provision.Http.Request
import Provision.Http.Form
import Provision.Server.Endpoint
import Provision.Server.Journal
import Provision.Server.Link
import Provision.Server.Onboarding

namespace Provision.Server

/-!
# The state of the device

What the server answers about units, the network interface, the addresses of a host and the journal.
For the most of it a program is run, whose output is read.
-/

def repeatedField (name : String) : Response :=
  .plain 400 ("Failed to deserialize query string: duplicate field \x60" ++ name ++ "\x60")

/-- The answer to a request that has gone wrong, with the details in the log only. -/
def complaint {σ : Type} (status : Nat) (message : String) (details : List (String × Json))
    (w : World σ) : Exchange σ :=
  ⟨.error status message, w, [⟨.error, message, details⟩]⟩

/-- The answer to a request for the status of a unit: to look it up is a task of one step. -/
def unitStatus {σ : Type} (h : Host σ) (form : List UInt8) (w : World σ) : Exchange σ :=
  match Form.field? "unit" form with
  | none => ⟨repeatedField "unit", w, []⟩
  | some "" => ⟨.error 400 "received empty unit", w, [⟨.warn, "received empty unit", []⟩]⟩
  | some unit =>
    let (result, d) := h.units.status unit w.toDevice
    match h.breaksOff w with
    | some b =>
      ⟨Onboarding.brokenOff b.cause, if b.steps = 0 then w else { w with toDevice := d }, []⟩
    | none =>
      match result with
      | .ok status => ⟨.json 200 status.json, { w with toDevice := d }, []⟩
      | .error e =>
        complaint 400 "failed to get show unit status" [("error", .text e.message)]
          { w with toDevice := d }

def linkProgram : String := "ip"

def linkArguments (interface : String) : List String := ["-json", "addr", "show", "dev", interface]

def unlisted : String := "failed to list addresses"

def linkStatus {σ : Type} (h : Host σ) (interface : String) (w : World σ) : Exchange σ :=
  match h.run linkProgram (linkArguments interface) w.toDevice with
  | (.error cause, d) => complaint 500 unlisted [("error", .text cause)] { w with toDevice := d }
  | (.ok o, d) =>
    let w := { w with toDevice := d }
    if o.exit ≠ 0 then
      complaint 500 "failed to find interface"
        [("interface", .text interface),
          ("stderr", .text (Text.trimmed (Text.ofUtf8Lossy o.stderr)))] w
    else
      match LinkStatus.parse o.stdout with
      | .ok status => ⟨.json 200 status.json, w, []⟩
      | .error e =>
        ⟨.error 500 unlisted, w,
          [⟨.error, "failed to parse addresses", [("error", .text e.message)]⟩]⟩

def addresses {σ : Type} (h : Host σ) (form : List UInt8) (w : World σ) : Exchange σ :=
  match Form.field? "endpoint" form with
  | none => ⟨repeatedField "endpoint", w, []⟩
  | some endpoint =>
    match Endpoint.parse? endpoint.toList with
    | none => complaint 400 "failed to parse endpoint" [("endpoint", .text endpoint)] w
    | some e =>
      let host := String.ofList e.host
      match h.resolve e.host w.toDevice with
      | .error cause =>
        complaint 500 "failed to lookup hostname" [("host", .text host), ("error", .text cause)] w
      | .ok [] => complaint 500 "found no addresses for host" [("host", .text host)] w
      | .ok found =>
        ⟨.json 200 (.object [("addresses", .list (found.map fun a => .text (.ofList a.text)))]),
          w, []⟩

def journal {σ : Type} (h : Host σ) (matchers : List String) (w : World σ) : Exchange σ :=
  match h.run Journal.program (Journal.arguments matchers) w.toDevice with
  | (.error cause, d) =>
    complaint 500 "failed to follow log stream"
      [("program", .text Journal.program), ("error", .text cause)] { w with toDevice := d }
  | (.ok o, d) =>
    ⟨⟨200, [Response.typeHeader EventStream.type, ("cache-control", "no-cache")],
      EventStream.ofOutput o.stdout⟩, { w with toDevice := d }, []⟩

end Provision.Server
