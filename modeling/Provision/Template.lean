import Provision.Template.Assembly
import Provision.Template.Render

namespace Provision

/-!
# File templates

A template is compiled once, from its source, and then rendered for any number of submissions.  Each
rendering copies the submission, and the order of the copy is all that a loop over it shows.
-/

structure Template where
  source : String
  library : Template.Library
  deriving Repr, Inhabited

namespace Template

/-- Compiles a source; the error is the message of what is wrong with it. -/
def compile (source : String) : Except String Template :=
  match parse source with
  | .ok library => .ok ⟨source, library⟩
  | .error e => .error e.message

/-- Renders a template for a submission, whose copy has an order of its own; the error is the
message of what failed. -/
def render (t : Template) (s : Submission) (order : Arrangement := .asGiven) :
    Except String String :=
  match t.library.render (order.arrange s) with
  | .ok shown => .ok shown
  | .error e => .error e.message

theorem source_of_compile {source : String} {t : Template} (h : compile source = .ok t) :
    t.source = source := by
  unfold compile at h
  split at h
  · cases h
    rfl
  · cases h

end Template

end Provision
