import Provision.Server.Basic
import Provision.Submission

namespace Provision.Onboarding

/-!
# Onboarding

Values are submitted, and the pipeline is executed with them.  Only one submission is dealt with at
a time: while a run goes on, others are refused.
-/

def longestBody : Nat := 2097152

def tooLong : Response :=
  .plain 413 "Failed to buffer the request body: length limit exceeded"

def refused : Response := .error 409 "onboarding already in progress"

def refusedLine : LogLine := ⟨.warn, "rejected concurrent onboarding request", []⟩

def malformed (e : Json.Failure) : Response :=
  .error 500 ("failed to unmarshal request: " ++ e.message)

def malformedLine (e : Json.Failure) : LogLine :=
  ⟨.error, "failed to unmarshal request", [("error", .text e.message)]⟩

def failed (e : Failure) : Response := .error 500 e.message

def failedLine (e : Failure) : LogLine :=
  ⟨.error, "failed to execute action", [("error", .text e.message)]⟩

def done : Response := .bare 200

def ofFailure? : Option Failure → Response
  | none => done
  | some e => failed e

/-- Executes a pipeline with what is submitted in a body, unless another run goes on. -/
def answer {σ : Type} (m : Machine σ) (p : Pipeline) (busy : Bool) (body : List UInt8)
    (w : World σ) : Exchange σ :=
  if longestBody < body.length then ⟨tooLong, w, []⟩
  else if busy then ⟨refused, w, [refusedLine]⟩
  else
    match Submission.parse body with
    | .error e => ⟨malformed e, w, [malformedLine e]⟩
    | .ok s =>
      let outcome := p.execute m s w
      ⟨ofFailure? outcome.failure, outcome.world,
        outcome.log ++ (outcome.failure.map failedLine).toList⟩

def brokenOff (cause : String) : Response := .error 500 ("task join error: " ++ cause)

/-- The submission with which a run begins: its body has to be short enough and to be decoded, and
no other run may go on. -/
def begins? (busy : Bool) (body : List UInt8) : Option Submission :=
  if longestBody < body.length ∨ busy = true then none else (Submission.parse body).toOption

/-- What is left of a run that is broken off, unless it has ended before. -/
def cutShort {σ : Type} (h : Host σ) (p : Pipeline) (s : Submission) (b : Break) (w : World σ) :
    Option (Exchange σ) :=
  let outcome := Pipeline.runSteps h.toMachine s (p.steps.take b.steps) w
  if outcome.failure.isSome then none
  else some ⟨brokenOff b.cause, outcome.world, outcome.log⟩

def answerOn {σ : Type} (h : Host σ) (p : Pipeline) (busy : Bool) (body : List UInt8)
    (w : World σ) : Exchange σ :=
  (do cutShort h p (← begins? busy body) (← h.breaksOff w) w).getD
    (answer h.toMachine p busy body w)

end Provision.Onboarding
