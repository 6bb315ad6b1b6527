import Mathlib.Data.List.Induction
import Provision.Proofs.Json.Records
import Provision.Submission

namespace Provision.Submission

/-!
# Submitted texts

Values are submitted as an object of texts.  They are what is read from the body, however the object
is written: in any order, with white space anywhere, and with any escapes.  Of a key that is given
more than once the last text counts.
-/

/-- The text that is given last for a name counts. -/
theorem get?_ofList (texts : List (String × String)) (name : String) :
    (ofList texts).get? name = texts.reverse.lookup name := by
  induction texts using List.reverseRecOn with
  | nil => rfl
  | append_singleton texts last ih =>
      obtain ⟨key, text⟩ := last
      have hlast : ofList (texts ++ [(key, text)]) = (ofList texts).insert key text := by
        simp [ofList]
      rw [hlast, get?_insert, ih, List.reverse_append, List.reverse_singleton,
        List.singleton_append, List.lookup_cons]
      by_cases hname : name = key
      · simp [hname]
      · simp [hname, beq_false_of_ne hname]

def members (texts : List (String × String)) : List (String × Json) :=
  texts.map fun p => (p.1, .text p.2)

theorem feeds_members (s : Submission) (texts : List (String × String)) :
    Json.Decoder.Feeds member s (members texts)
      (texts.foldl (fun s p => s.insert p.1 p.2) s) := by
  induction texts generalizing s with
  | nil => exact .nil s
  | cons first rest ih =>
      obtain ⟨key, text⟩ := first
      have hmember : (member key s).ReadsMember (.text text) (s.insert key text) :=
        (Json.Decoder.ReadsMember.memberValue (Json.Decoder.reads_string text)).bind
          fun rest => Json.Decoder.takes_pure _ rest
      exact .cons hmember (ih (s.insert key text))

/-- The body is a JSON text of an object that gives the values, with white space around it.  Where a
key is repeated, the value is its last text. -/
def Encodes (values : String → Option String) (body : List UInt8) : Prop :=
  ∃ (texts : List (String × String)) (before cs behind : List Char),
    Json.Blank before ∧ (Json.object (members texts)).Spells cs ∧ Json.Blank behind ∧
      body = Json.encode (before ++ cs ++ behind) ∧
      ∀ name, values name = texts.reverse.lookup name

/-- However values are encoded, they are decoded again. -/
theorem exists_parse_of_encodes {values : String → Option String} {body : List UInt8}
    (h : Encodes values body) : ∃ s, parse body = .ok s ∧ ∀ name, s.get? name = values name := by
  obtain ⟨texts, before, cs, behind, hbefore, hspells, hbehind, rfl, hvalues⟩ := h
  have hreads := Json.Decoder.Reads.dictionary (feeds_members empty texts)
  refine ⟨ofList texts, hreads.document_blank hbefore hspells hbehind, fun name => ?_⟩
  rw [get?_ofList, hvalues]

end Provision.Submission
