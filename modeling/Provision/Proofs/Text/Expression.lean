import Mathlib.Computability.Language

namespace Provision.Text

/-!
# Regular expressions

As far as the grammars of this library need them: words and repeated classes of characters, behind
one another and as alternatives.  An expression has a written form, and a language: the texts that
it matches from their first character to their last.
-/

open Computability

structure CharClass where
  ranges : List (Char × Char)
  deriving DecidableEq, Repr

namespace CharClass

def rangeText : Char × Char → List Char
  | (first, last) => if first = last then [first] else [first, '-', last]

def text (k : CharClass) : String := .ofList ('[' :: (k.ranges.flatMap rangeText ++ [']']))

def Has (k : CharClass) (c : Char) : Prop := ∃ range ∈ k.ranges, range.1 ≤ c ∧ c ≤ range.2

def language (k : CharClass) : Language Char := {w | ∃ c, k.Has c ∧ w = [c]}

end CharClass

inductive Expression where
  | word (text : String)
  /-- Characters of a class, perhaps none. -/
  | star (k : CharClass)
  /-- Characters of a class, at least one. -/
  | plus (k : CharClass)
  | append (first second : Expression)
  | optional (e : Expression)
  | oneOf (words : List String)
  deriving Repr

namespace Expression

/-- A point stands for itself only behind a backslash. -/
def wordText (text : String) : String :=
  .ofList (text.toList.flatMap fun c => if c = '.' then ['\\', c] else [c])

def text : Expression → String
  | word w => wordText w
  | star k => k.text ++ "*"
  | plus k => k.text ++ "+"
  | append first second => first.text ++ second.text
  | optional e => "(" ++ e.text ++ ")?"
  | oneOf words => "(" ++ "|".intercalate (words.map wordText) ++ ")"

/-- The written form of an expression that has to match a whole text. -/
def anchored (e : Expression) : String := "^" ++ e.text ++ "$"

def language : Expression → Language Char
  | word w => {w.toList}
  | star k => k.language∗
  | plus k => k.language * k.language∗
  | append first second => first.language * second.language
  | optional e => 1 + e.language
  | oneOf words => {w | ∃ text ∈ words, w = text.toList}

variable {k : CharClass} {e f : Expression} {w : List Char} {text : String} {words : List String}

theorem mem_word : w ∈ (word text).language ↔ w = text.toList := Iff.rfl

theorem mem_star : w ∈ (star k).language ↔ ∀ c ∈ w, k.Has c := by
  rw [language, Language.mem_kstar]
  constructor
  · rintro ⟨pieces, rfl, hpieces⟩ c hc
    obtain ⟨piece, hpiece, hc⟩ := List.mem_flatten.mp hc
    obtain ⟨d, hd, rfl⟩ := hpieces piece hpiece
    rwa [List.mem_singleton.mp hc]
  · intro h
    refine ⟨w.map fun c => [c], by rw [← List.flatMap_def, List.flatMap_singleton'], ?_⟩
    intro piece hpiece
    obtain ⟨c, hc, rfl⟩ := List.mem_map.mp hpiece
    exact ⟨c, h c hc, rfl⟩

theorem mem_plus : w ∈ (plus k).language ↔ w ≠ [] ∧ ∀ c ∈ w, k.Has c := by
  have hstar (w : List Char) : w ∈ k.language∗ ↔ ∀ c ∈ w, k.Has c := mem_star
  rw [language, Language.mem_mul]
  constructor
  · rintro ⟨_, ⟨c, hc, rfl⟩, rest, hrest, rfl⟩
    exact ⟨List.cons_ne_nil c rest, List.forall_mem_cons.mpr ⟨hc, (hstar rest).mp hrest⟩⟩
  · rintro ⟨hne, h⟩
    obtain ⟨c, rest, rfl⟩ := List.exists_cons_of_ne_nil hne
    obtain ⟨hc, hrest⟩ := List.forall_mem_cons.mp h
    exact ⟨[c], ⟨c, hc, rfl⟩, rest, (hstar rest).mpr hrest, rfl⟩

theorem mem_append :
    w ∈ (append e f).language ↔ ∃ u ∈ e.language, ∃ v ∈ f.language, u ++ v = w := Language.mem_mul

theorem mem_optional : w ∈ (optional e).language ↔ w = [] ∨ w ∈ e.language := Iff.rfl

theorem mem_oneOf : w ∈ (oneOf words).language ↔ ∃ text ∈ words, w = text.toList := Iff.rfl

end Expression

end Provision.Text
