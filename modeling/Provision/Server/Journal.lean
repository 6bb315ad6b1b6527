import Provision.Text.Split
import Provision.Text.Utf8

namespace Provision

/-!
# Following the journal

The journal is followed as far as matchers hold, and what its reader prints becomes a stream of
events: one for each line.  The stream ends before the first line that is not text.
-/

namespace Journal

def program : String := "journalctl"

def arguments (matchers : List String) : List String :=
  ["--follow", "--output-fields=MESSAGE", "--output=json"] ++ matchers

/-- What is said about the network of an interface. -/
def networkMatchers (interface : String) : List String :=
  ["SYSLOG_IDENTIFIER=systemd-networkd", "INTERFACE=" ++ interface]

/-- What is said about access to the wireless network of an interface. -/
def accessMatchers (interface : String) : List String :=
  ["SYSLOG_IDENTIFIER=wpa_supplicant@" ++ interface]

end Journal

namespace EventStream

def type : String := "text/event-stream"

/-- What a line of data begins with. -/
def mark : List UInt8 := [0x64, 0x61, 0x74, 0x61, 0x3A, 0x20]

/-- The data lines of an event: a carriage return ends a line as well. -/
def data : List UInt8 → List UInt8
  | [] => []
  | b :: rest => if b = 0x0D then b :: (mark ++ data rest) else b :: data rest

/-- The event for a line; an empty one has no data. -/
def event (line : List UInt8) : List UInt8 :=
  if line = [] then [0x0A] else mark ++ data line ++ [0x0A, 0x0A]

def isText (line : List UInt8) : Bool := (Text.ofUtf8? line).isSome

def ofOutput (output : List UInt8) : List UInt8 :=
  ((Text.lines 0x0A 0x0D output).takeWhile isText).flatMap event

end EventStream

end Provision
