namespace Provision

/-!
# The names of settings

A setting has a name on the command line and a variable in the environment.
-/

inductive Setting where
  /-- Patterns of the files that are loaded. -/
  | patterns
  /-- Where to listen. -/
  | listen
  /-- The identifier of the device. -/
  | id
  /-- The address that is advertised. -/
  | address
  /-- The network interface that is reported on. -/
  | interface
  /-- Whether nothing is advertised. -/
  | silent
  | level
  | format
  /-- The name that every log line carries. -/
  | name
  deriving DecidableEq, Repr, Inhabited

namespace Setting

/-- The settings, in the order in which the environment is looked up. -/
def all : List Setting :=
  [patterns, listen, id, address, interface, silent, level, format, name]

def long : Setting → String
  | patterns => "config"
  | listen => "listen"
  | id => "id"
  | address => "ip-address"
  | interface => "wlan-interface"
  | silent => "no-mdns"
  | level => "log-level"
  | format => "log-format"
  | name => "name"

def word : Setting → String
  | patterns => "CONFIG"
  | listen => "LISTEN"
  | id => "ID"
  | address => "IP_ADDRESS"
  | interface => "WLAN_INTERFACE"
  | silent => "NO_MDNS"
  | level => "LOG_LEVEL"
  | format => "LOG_FORMAT"
  | name => "NAME"

def inEnvironment (s : Setting) : String := "ONBOARD_" ++ s.word

def takesValue (s : Setting) : Bool := s ≠ silent

def isRepeatable (s : Setting) : Bool := s = patterns

def text (s : Setting) : String :=
  "--" ++ s.long ++ if s.takesValue then " <" ++ s.word ++ ">" else ""

def ofLong? (name : String) : Option Setting := all.find? fun s => s.long = name

def ofLetter? (c : Char) : Option Setting := if c = 'c' then some patterns else none

theorem mem_all (s : Setting) : s ∈ all := by
  cases s <;> simp [all]

@[simp] theorem ofLong?_long (s : Setting) : ofLong? s.long = some s := by
  cases s <;> rfl

end Setting

end Provision
