import Provision.Json.Value

namespace Provision

/-!
# Log lines
-/

inductive LogLevel where
  | error
  | warn
  | info
  | debug
  deriving DecidableEq, Repr, Inhabited

namespace LogLevel

/-- The levels, the most important first. -/
def all : List LogLevel := [error, warn, info, debug]

def text : LogLevel → String
  | error => "error"
  | warn => "warn"
  | info => "info"
  | debug => "debug"

def mark : LogLevel → String
  | error => "ERROR"
  | warn => "WARN"
  | info => "INFO"
  | debug => "DEBUG"

def ofText? (word : String) : Option LogLevel := all.find? fun l => l.text = word

def rank : LogLevel → Nat
  | error => 0
  | warn => 1
  | info => 2
  | debug => 3

end LogLevel

/-- A line of the log.  The message comes before the other fields. -/
structure LogLine where
  level : LogLevel
  message : String
  fields : List (String × Json)
  deriving Repr, Inhabited

namespace LogLine

def isShown (threshold : LogLevel) (line : LogLine) : Bool := line.level.rank ≤ threshold.rank

def json (line : LogLine) : Json := .object (("message", .text line.message) :: line.fields)

def entry (span : String) (line : LogLine) : Json :=
  .object [("level", .text line.level.mark), ("fields", line.json),
    ("span", .object [("name", .text span)])]

end LogLine

end Provision
