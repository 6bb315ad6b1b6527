import Provision.Configuration.Validation
import Provision.Proofs.Page.Injection
import Provision.Proofs.Page.ScriptData
import Provision.Server.Basic

namespace Provision.Page

/-!
# The script of the page

The placeholder stands in the first script of the shell.  With a configuration in its place the
script still ends at its own end tag, unless the text of the configuration opens a comment, opens
a script within it, and does not close the comment.
-/

def startTag : List Char := ['<', 's', 'c', 'r', 'i', 'p', 't', '>']

/-- The content of the first script element of a page, and what follows from its end tag on. -/
def firstScript? (html : List Char) : Option (List Char × List Char) :=
  match Text.cutAt? startTag html with
  | none => none
  | some (_, behind) => scriptText? behind

/-! ## Where the placeholder stands -/

def line (l : String) : List Char := l.toList ++ ['\n']

def beforeScript : List Char := (shellLines.take 6).flatMap line ++ [' ', ' ']

def behindScript : List Char := '\n' :: (shellLines.drop 7).flatMap line

def receiver : List Char := "window.".toList

theorem toList_shell :
    shell.toList =
      beforeScript ++ startTag ++ receiver ++ placeholder ++ ';' :: (closing ++ behindScript) := by
  have hlines : shellLines = shellLines.take 6 ++
      "  <script>window.configuration=\x7b\x7d;</script>" :: shellLines.drop 7 := rfl
  have hline : line "  <script>window.configuration=\x7b\x7d;</script>" =
      [' ', ' '] ++ startTag ++ receiver ++ placeholder ++ ';' :: (closing ++ ['\n']) := by
    decide
  have hshell : shell.toList = shellLines.flatMap line := by
    rw [shell, String.toList_join, List.flatMap_map]
    simp only [String.toList_append]
    rfl
  rw [hshell, hlines, List.flatMap_append, List.flatMap_cons, hline]
  simp [beforeScript, behindScript]

theorem cutAt?_placeholder :
    Text.cutAt? placeholder shell.toList =
      some (beforeScript ++ startTag ++ receiver, ';' :: (closing ++ behindScript)) := by
  have hfirst : Text.cutAt? placeholder (beforeScript ++ startTag ++ receiver ++ placeholder) =
      some (beforeScript ++ startTag ++ receiver, []) := by
    decide +kernel
  rw [toList_shell]
  exact Text.cutAt?_append hfirst _

theorem cutAt?_startTag (rest : List Char) :
    Text.cutAt? startTag (beforeScript ++ startTag ++ rest) = some (beforeScript, rest) := by
  have hfirst : Text.cutAt? startTag (beforeScript ++ startTag) = some (beforeScript, []) := by
    decide +kernel
  exact Text.cutAt?_append hfirst rest

/-! ## Where the script ends -/

/-- The script with a text in place of the placeholder. -/
def scriptWith (injected : List Char) : List Char := receiver ++ injected ++ [';']

/-- The page with some JSON in it, cut where its first script begins and ends. -/
theorem inject_shell (json : List Char) :
    inject shell.toList json = beforeScript ++ startTag ++
      (receiver ++ (assignment ++ guardClosings json) ++ ';' :: (closing ++ behindScript)) := by
  rw [inject, cutAt?_placeholder]
  simp only [List.append_assoc]

theorem plain_of_all {cs : List Char} (h : (cs.all fun c => c ≠ '<' ∧ c ≠ '-') = true) :
    ∀ c ∈ cs, c ≠ '<' ∧ c ≠ '-' := fun c hc => of_decide_eq_true (List.all_eq_true.mp h c hc)

theorem plain_receiver_assignment : ∀ c ∈ receiver ++ assignment, c ≠ '<' ∧ c ≠ '-' :=
  plain_of_all (by decide)

theorem traps_receiver (json : List Char) :
    Traps (receiver ++ (assignment ++ json)) ↔ Traps json := by
  rw [← List.append_assoc]
  exact trapped_append plain_receiver_assignment .content json

theorem not_infix_append {pre cs : List Char} (hpre : '<' ∉ pre) (h : ¬ ['<', '/'] <:+: cs) :
    ¬ ['<', '/'] <:+: pre ++ cs := by
  induction pre with
  | nil => exact h
  | cons c pre ih =>
      obtain ⟨hc, hpre⟩ := List.ne_and_not_mem_of_not_mem_cons hpre
      rw [List.cons_append, List.infix_cons_iff, not_or]
      exact ⟨fun hbegins => hc (List.cons_prefix_cons.mp hbegins).1, ih hpre⟩

theorem not_infix_receiver (json : List Char) :
    ¬ ['<', '/'] <:+: receiver ++ (assignment ++ guardClosings json) := by
  rw [← List.append_assoc]
  exact not_infix_append (fun h => (plain_receiver_assignment _ h).1 rfl)
    (not_infix_guardClosings json)

theorem firstScript?_inject (json : List Char) :
    firstScript? (inject shell.toList json) =
      scriptText? (receiver ++ (assignment ++ guardClosings json) ++
        ';' :: (closing ++ behindScript)) := by
  rw [firstScript?, inject_shell, cutAt?_startTag]

theorem firstScript?_inject_of_not_traps {json : List Char} (h : ¬ Traps (guardClosings json)) :
    firstScript? (inject shell.toList json) =
      some (scriptWith (assignment ++ guardClosings json), closing ++ behindScript) := by
  rw [firstScript?_inject]
  exact scriptText?_of_not_traps (not_infix_receiver json) _ (mt (traps_receiver _).mp h)

theorem prefix_of_firstScript?_inject_of_traps {json text left : List Char}
    (h : Traps (guardClosings json))
    (ht : firstScript? (inject shell.toList json) = some (text, left)) :
    scriptWith (assignment ++ guardClosings json) ++ ['<'] <+: text := by
  rw [firstScript?_inject] at ht
  have hbegins := prefix_of_scriptText?_of_traps (not_infix_receiver json) behindScript
    ((traps_receiver _).mpr h) ht
  simpa [scriptWith] using hbegins

/-- The script ends at its own end tag exactly if the JSON in it does not trap it. -/
theorem firstScript?_inject_eq_iff (json : List Char) :
    firstScript? (inject shell.toList json) =
        some (scriptWith (assignment ++ guardClosings json), closing ++ behindScript) ↔
      ¬ Traps (guardClosings json) := by
  refine ⟨?_, firstScript?_inject_of_not_traps⟩
  intro heq htraps
  have hlength := (prefix_of_firstScript?_inject_of_traps htraps heq).length_le
  rw [List.length_append] at hlength
  exact absurd hlength (Nat.not_succ_le_self _)

/-- In no case does it end earlier. -/
theorem prefix_of_firstScript?_inject {json text left : List Char}
    (ht : firstScript? (inject shell.toList json) = some (text, left)) :
    scriptWith (assignment ++ guardClosings json) <+: text := by
  by_cases htraps : Traps (guardClosings json)
  · exact (List.prefix_append _ _).trans (prefix_of_firstScript?_inject_of_traps htraps ht)
  · rw [firstScript?_inject_of_not_traps htraps] at ht
    simp only [Option.some.injEq, Prod.mk.injEq] at ht
    rw [ht.1]

/-- The script of the shell ends at its own end tag. -/
theorem firstScript?_shell :
    firstScript? shell.toList = some (scriptWith placeholder, closing ++ behindScript) := by
  have hplain : ∀ c ∈ receiver ++ placeholder, c ≠ '<' ∧ c ≠ '-' :=
    plain_of_all (by decide)
  have htraps : ¬ Traps (receiver ++ placeholder) := by
    have h := trapped_append hplain .content []
    rw [List.append_nil] at h
    exact mt h.mp (by simp [trapped_nil])
  have hinfix : ¬ ['<', '/'] <:+: receiver ++ placeholder := by decide
  have hshell : shell.toList = beforeScript ++ startTag ++
      (receiver ++ placeholder ++ ';' :: (closing ++ behindScript)) := by
    rw [toList_shell]
    simp
  rw [firstScript?, hshell, cutAt?_startTag]
  exact scriptText?_of_not_traps hinfix behindScript htraps

/-- Wherever the page is found, its first script contains all that belongs to it; and it ends at its
own end tag, as it does in the shell, just if the text of the configuration does not trap. -/
theorem page_script_ends (c : Configuration) (p : Pipeline) (interface path : String)
    (h : (Server.of c p interface).isPage path = true) :
    ∃ html : String, ((Server.of c p interface).page path).body = Text.utf8 html ∧
      (firstScript? html.toList =
          some (scriptWith (assignment ++ guardClosings c.json.chars), closing ++ behindScript) ↔
        ¬ Traps (guardClosings c.json.chars)) ∧
      (∀ text left, firstScript? html.toList = some (text, left) →
        scriptWith (assignment ++ guardClosings c.json.chars) <+: text) ∧
      firstScript? shell.toList = some (scriptWith placeholder, closing ++ behindScript) := by
  refine ⟨withConfiguration c.json.render, ?_, ?_⟩
  · rw [Server.page, if_pos h]
    simp only [Response.typed, Server.of]
  · have htext : (withConfiguration c.json.render).toList = inject shell.toList c.json.chars := by
      simp [withConfiguration, Json.render]
    rw [htext]
    refine ⟨firstScript?_inject_eq_iff c.json.chars, ?_, firstScript?_shell⟩
    intro text left ht
    exact prefix_of_firstScript?_inject ht

/-- A description that holds tags of scripts, and no comment. -/
def tagging : Configuration := ⟨[], [], [⟨"ssid", "</script><script>", false⟩]⟩

theorem page_script_ends_tagging :
    (Server.of tagging ⟨[]⟩ "wlan0").isPage "/ssid" = true ∧
      ∃ html : String, ((Server.of tagging ⟨[]⟩ "wlan0").page "/ssid").body = Text.utf8 html ∧
        firstScript? html.toList =
          some (scriptWith (assignment ++ guardClosings tagging.json.chars),
            closing ++ behindScript) := by
  have hpage : (Server.of tagging ⟨[]⟩ "wlan0").isPage "/ssid" = true := by decide +kernel
  have htraps : ¬ Traps (guardClosings tagging.json.chars) :=
    not_traps_of_not_infix (by decide +kernel)
  obtain ⟨html, hbody, hiff, -⟩ := page_script_ends tagging ⟨[]⟩ "wlan0" "/ssid" hpage
  exact ⟨hpage, html, hbody, hiff.mpr htraps⟩

/-- A description that opens a comment and a script in it. -/
def trapping : Configuration := ⟨[], [], [⟨"a", "<!--<script>", false⟩]⟩

theorem trapping_hides_end_tag :
    trapping.valid = true ∧ (Server.of trapping.compile ⟨[]⟩ "wlan0").isPage "/a" = true ∧
      firstScript? (withConfiguration trapping.json.render).toList ≠
        some (scriptWith (assignment ++ guardClosings trapping.json.chars),
          closing ++ behindScript) := by
  have hchars : guardClosings trapping.json.chars =
      "\x7b\"actions\":[],\"checks\":[],\"values\":[\x7b\"name\":\"a\",\"description\":\"".toList ++
        '<' :: '!' :: '-' :: '-' :: '<' ::
          (scriptName ++ '>' :: "\",\"secret\":false\x7d]\x7d".toList) := by
    decide +kernel
  have htraps : Traps (guardClosings trapping.json.chars) := by
    rw [hchars]
    refine ⟨_, _, rfl, by decide +kernel, [], _, rfl, ?_⟩
    exact (namesScript_append (by simp [scriptName]) rfl _).mpr ⟨rfl, rfl⟩
  have htext : (withConfiguration trapping.json.render).toList =
      inject shell.toList trapping.json.chars := by
    simp [withConfiguration, Json.render]
  refine ⟨by decide +kernel, by decide +kernel, ?_⟩
  rw [htext]
  exact fun heq => (firstScript?_inject_eq_iff _).mp heq htraps

end Provision.Page
