import Provision.Startup

namespace Provision.CommandLine

/-!
# The command line

A run reads its settings, looks at the files that the patterns mean, and starts.  What it has come
to is told on the standard streams and by the code with which the program ends.
-/

def environment : IO (List (String × String)) :=
  Setting.all.filterMapM fun s => do
    return (← IO.getEnv s.inEnvironment).map (s.inEnvironment, ·)

/-- The tree with the names of what lies in a directory and below it.  A directory that a link leads
back to is not looked into again. -/
def addNames : Nat → List String → FileTree → String → IO FileTree
  | 0, _, t, _ => return t
  | depth + 1, outer, t, path => do
    let real ← try IO.FS.realPath path catch _ => return t
    unless ← real.isDir do return t
    if real.toString ∈ outer then return t
    let mut t := t.provide path none
    let entries ← try real.readDir catch _ => return t.bar path
    for entry in entries do
      let below := Path.join path entry.fileName
      if ← entry.path.isDir then t ← addNames depth (real.toString :: outer) t below
      else t := t.provide below (some [])
    return t

def addContent (t : FileTree) (path : String) : IO FileTree := do
  if t.hasDirectory path then return t
  try return t.provide path (some (← IO.FS.readBinFile path).toList) catch _ => return t.bar path

/-- The files that patterns mean, among the names that they may mean. -/
def filesFor (patterns : List String) : IO FileTree := do
  -- what lies deeper than a path has bytes has no path at all
  let t ← patterns.foldlM
    (fun t pattern => addNames FileTree.pathLimit [] t (Pattern.root pattern)) .empty
  match Configuration.matching t patterns with
  | .ok paths => paths.foldlM addContent t
  | .error _ => return t

def tell (settings : Settings) : Run → IO UInt32
  | .ended code error => do
    if let some message := error then IO.eprintln message
    return code.toUInt32
  | .serves _ listener log => do
    for line in Startup.shown settings log do IO.println line.render
    IO.println ("listening on " ++ String.ofList listener.address.text ++ ":" ++
      toString listener.port)
    return 0

def run (arguments : List String) : IO UInt32 := do
  match Settings.read arguments (← environment) with
  | .error interruption => tell {} (Startup.interrupted interruption)
  | .ok settings =>
    let files ← filesFor settings.patterns
    for line in Startup.shownLog files settings do IO.println line.render
    tell settings (Startup.run files (.isolated []) settings)

end Provision.CommandLine

def main (arguments : List String) : IO UInt32 := Provision.CommandLine.run arguments
