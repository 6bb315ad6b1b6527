import Provision.Text.Split

namespace Provision

/-!
# Patterns of file names

In a pattern, `?` stands for one character, `*` for any number of them, and characters in brackets
for one of them or, after an exclamation mark, for one of the others.  A component of two stars
stands for any number of directories.
-/

inductive CharSet where
  | single (c : Char)
  | range (low high : Char)
  deriving DecidableEq, Repr

namespace CharSet

def has (c : Char) : CharSet → Bool
  | single d => c = d
  | range low high => low ≤ c && c ≤ high

end CharSet

inductive Glob where
  | char (c : Char)
  | anyChar
  | anySequence
  /-- Two stars. -/
  | anyDepth
  | within (sets : List CharSet)
  | except (sets : List CharSet)
  deriving DecidableEq, Repr

abbrev Pattern : Type := List Glob

structure PatternError where
  position : Nat
  text : String
  deriving DecidableEq, Repr

namespace PatternError

def message (e : PatternError) : String :=
  "Pattern syntax error near position " ++ toString e.position ++ ": " ++ e.text

end PatternError

namespace Pattern

def tooManyStars : String := "wildcards are either regular \x60*\x60 or recursive \x60**\x60"

def starsInComponent : String := "recursive wildcards must form a single path component"

def openBracket : String := "invalid range pattern"

def charSets : List Char → List CharSet
  | low :: '-' :: high :: rest => .range low high :: charSets rest
  | c :: rest => .single c :: charSets rest
  | [] => []

/-- Reads what stands behind an opening bracket, up to the closing one.  A bracket that closes right
away is one of the characters. -/
def bracket? (cs : List Char) : Option (Glob × List Char) :=
  match cs with
  | '!' :: c :: rest =>
    (Text.cutFirst ']' rest).map fun (inside, after) => (.except (charSets (c :: inside)), after)
  | '!' :: [] => none
  | c :: rest =>
    (Text.cutFirst ']' rest).map fun (inside, after) => (.within (charSets (c :: inside)), after)
  | [] => none

theorem length_cutFirst {α : Type} [DecidableEq α] {sep : α} {cs before after : List α}
    (h : Text.cutFirst sep cs = some (before, after)) : after.length < cs.length := by
  induction cs generalizing before with
  | nil => simp [Text.cutFirst] at h
  | cons c rest ih =>
    by_cases hc : c = sep
    · simp [Text.cutFirst, hc] at h
      simp [h]
    · simp only [Text.cutFirst, hc, if_false, Option.map_eq_some_iff, Prod.mk.injEq] at h
      obtain ⟨⟨b, a⟩, hcut, _, rfl⟩ := h
      exact Nat.lt_succ_of_lt (ih hcut)

theorem length_bracket? {cs after : List Char} {g : Glob} (h : bracket? cs = some (g, after)) :
    after.length < cs.length := by
  unfold bracket? at h
  split at h <;> simp only [Option.map_eq_some_iff, Prod.mk.injEq, reduceCtorEq] at h
  · obtain ⟨⟨b, a⟩, hcut, _, rfl⟩ := h
    have := length_cutFirst hcut
    simp only [List.length_cons]
    omega
  · obtain ⟨⟨b, a⟩, hcut, _, rfl⟩ := h
    have := length_cutFirst hcut
    simp only [List.length_cons]
    omega

/-- Parses a pattern from a position on.  `before` is the character before it. -/
def parseFrom (position : Nat) (before : Option Char) : List Char → Except PatternError Pattern
  | [] => .ok []
  | '*' :: '*' :: '*' :: _ => .error ⟨position + 2, tooManyStars⟩
  | '*' :: '*' :: rest =>
    -- two stars are a whole component: they stand between slashes or at an end of the pattern
    if before.all (· = '/') then
      match rest with
      | [] => .ok [.anyDepth]
      | '/' :: more => (parseFrom (position + 3) (some '/') more).map (.anyDepth :: ·)
      | _ => .error ⟨position + 2, starsInComponent⟩
    else .error ⟨position - 1, starsInComponent⟩
  | '*' :: rest => (parseFrom (position + 1) (some '*') rest).map (.anySequence :: ·)
  | '?' :: rest => (parseFrom (position + 1) (some '?') rest).map (.anyChar :: ·)
  | '[' :: rest =>
    match h : bracket? rest with
    | some (g, after) =>
      (parseFrom (position + 1 + (rest.length - after.length)) (some ']') after).map (g :: ·)
    | none => .error ⟨position, openBracket⟩
  | c :: rest => (parseFrom (position + 1) (some c) rest).map (.char c :: ·)
termination_by cs => cs.length
decreasing_by
  all_goals simp_wf
  all_goals first
    | omega
    | have := length_bracket? h
      omega

def parse (text : List Char) : Except PatternError Pattern := parseFrom 0 none text

def isMatch : Pattern → List Char → Bool
  | [], cs => cs = []
  | .anySequence :: p, cs => anySuffix (isMatch p) cs
  | .anyDepth :: p, cs => anySuffix (isMatch p) cs
  | g :: p, c :: cs => one g c && isMatch p cs
  | _ :: _, [] => false
where
  /-- Whether what is left satisfies a condition, when some characters are left out. -/
  anySuffix (cond : List Char → Bool) : List Char → Bool
    | [] => cond []
    | c :: cs => cond (c :: cs) || anySuffix cond cs
  /-- Whether a part that stands for one character stands for this one. -/
  one : Glob → Char → Bool
    | .char d, c => c = d
    | .anyChar, _ => true
    | .within sets, c => sets.any (·.has c)
    | .except sets, c => !sets.any (·.has c)
    | .anySequence, _ => true
    | .anyDepth, _ => true

def literal? : Pattern → Option (List Char)
  | [] => some []
  | .char c :: p => (literal? p).map (c :: ·)
  | _ :: _ => none

end Pattern

end Provision
