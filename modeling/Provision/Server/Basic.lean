import Provision.Configuration.Basic
import Provision.Http.Response
import Provision.Network.Address
import Provision.Pipeline
import Provision.Server.Page

namespace Provision

/-!
# Servers

A server offers a page for what a configuration declares, and keeps the pipeline that is executed
with what is submitted.
-/

structure Server where
  pipeline : Pipeline
  /-- The network interface that is reported on. -/
  interface : String
  /-- The JSON text of the configuration. -/
  configuration : String
  /-- The paths at which the page is found. -/
  pages : List String

/-- Why a task comes to no end of its own, and how many of its steps it has done by then. -/
structure Break where
  cause : String
  steps : Nat

/-- A machine on which programs can be run and hosts be looked up.  It tells of a task that is to
begin whether it will be broken off. -/
structure Host (σ : Type) extends Machine σ where
  run : Runner σ
  /-- The addresses of a host, or why they are not known. -/
  resolve : List Char → Device σ → Except String (List Address)
  breaksOff : World σ → Option Break

namespace Host

variable {σ : Type}

def managed (h : Host σ) : Host σ := { h with units := Systemctl.manager h.run }

/-- A machine whose units are managed by a program.  It knows no names, and tasks come to their end.
-/
def ofRunner (medium : Medium) (run : Runner σ) : Host σ where
  medium := medium
  units := Systemctl.manager run
  run := run
  resolve host _ := Address.lookup host
  breaksOff _ := none

end Host

structure Exchange (σ : Type) where
  response : Response
  world : World σ
  log : List LogLine

namespace Server

/-- The paths of the page: the root, the one that submits, and one for every value. -/
def pagePaths (values : List Value) : List String :=
  ["/", "/submit"] ++ values.map fun v => "/" ++ v.name

def of (c : Configuration) (pipeline : Pipeline) (interface : String) : Server :=
  ⟨pipeline, interface, c.json.render, pagePaths c.values⟩

/-- The server for a configuration, which has to be compiled. -/
def ofConfiguration (c : Configuration) (interface : String) : Except Failure Server := do
  return of c (← Pipeline.compile c) interface

def isPage (s : Server) (path : String) : Bool := path ∈ s.pages

def shellName : String := "index.html"

def withoutSlashes (path : String) : String := .ofList (path.toList.dropWhile (· = '/'))

def page (s : Server) (path : String) : Response :=
  if s.isPage path then
    .typed 200 "text/html; charset=utf-8" (Page.withConfiguration s.configuration)
  else if withoutSlashes path = shellName then .typed 200 "text/html" Page.shell
  else .error 404 (path ++ " not found")

end Server

end Provision
