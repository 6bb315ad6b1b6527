import Provision.Proofs.Template.Reference

namespace Provision.Template

/-!
# Templates of literal text and references

A template that has nothing but literal text and fields of the dot shows the text as it stands, and
for each field what is submitted for it.  Nothing that is submitted is interpreted, trimmed or
escaped, whatever it looks like.  The scanner looks ahead by a single byte, so that it dies at a
field that begins with any other letter than those of ASCII, and the template is not compiled.
-/

/-- A text in which no action begins, whatever stands behind it. -/
structure Inert (w : List Char) : Prop where
  noPair : ¬ ['{', '{'] <:+: w
  noLast : w.getLast? ≠ some '{'

/-- A piece of a template: a text, or a reference to what is submitted for a key. -/
inductive Chunk where
  | literal (text : String)
  | reference (key : String)
  deriving DecidableEq, Repr

namespace Chunk

def source : Chunk → String
  | literal text => text
  | reference key => "\x7b\x7b." ++ key ++ "\x7d\x7d"

def shown (s : Submission) : Chunk → String
  | literal text => text
  | reference key => printed s key

/-- No action begins in a literal.  A key is a word of letters, digits and underscores, of which no
digit is the first. -/
def WellFormed : Chunk → Prop
  | literal text => Inert text.toList
  | reference key =>
    ∃ c cs, key.toList = c :: cs ∧ c.isDigit = false ∧ ∀ d ∈ c :: cs, isWord d = true

def isScanned : Chunk → Bool
  | literal _ => true
  | reference key => key.toList.head?.all isAscii

end Chunk

def ofChunks (chunks : List Chunk) : String := String.join (chunks.map Chunk.source)

def textNodes (w : List Char) : List Node := if w = [] then [] else [.text w]

def fieldNode (key : String) : Node := .action ⟨[], [[.field key []]]⟩

/-- The nodes of chunks, behind a text that has been read and is no node yet. -/
def chunkNodes : List Char → List Chunk → List Node
  | w, [] => textNodes w
  | w, .literal text :: rest => chunkNodes (w ++ text.toList) rest
  | w, .reference key :: rest => textNodes w ++ fieldNode key :: chunkNodes [] rest

/-- What is wrong with a template at whose fields the scanner dies. -/
def deadScanner : ParseError := .at "" 0 (.unexpected "receiving on a closed channel" "command")

section

variable {c : Char} {w w' cs rest : List Char} {chunks : List Chunk} {line line' : Nat}

/-! ## Texts in which no action begins -/

theorem inert_nil : Inert [] := ⟨by simp, by simp⟩

theorem inert_cons_iff :
    Inert (c :: w) ↔ (c = '{' → ∃ d rest, w = d :: rest ∧ d ≠ '{') ∧ Inert w := by
  cases w with
  | nil =>
      constructor
      · intro h
        have hc : c ≠ '{' := by simpa using h.noLast
        exact ⟨fun hbrace => absurd hbrace hc, inert_nil⟩
      · rintro ⟨hc, -⟩
        have hc' : c ≠ '{' := fun hbrace => by simpa using hc hbrace
        exact ⟨by simp [List.infix_cons_iff], by simpa using hc'⟩
  | cons d w =>
      have hpair : ¬ ['{', '{'] <:+: c :: d :: w ↔
          (c = '{' → d ≠ '{') ∧ ¬ ['{', '{'] <:+: d :: w := by
        rw [List.infix_cons_iff, not_or, List.cons_prefix_cons, List.cons_prefix_cons]
        simp [eq_comm]
      constructor
      · rintro ⟨hnot, hlast⟩
        obtain ⟨hc, hnot⟩ := hpair.mp hnot
        rw [List.getLast?_cons_cons] at hlast
        exact ⟨fun hbrace => ⟨d, w, rfl, hc hbrace⟩, hnot, hlast⟩
      · rintro ⟨hc, hnot, hlast⟩
        refine ⟨hpair.mpr ⟨fun hbrace => ?_, hnot⟩, by rwa [List.getLast?_cons_cons]⟩
        obtain ⟨_, _, heq, hd⟩ := hc hbrace
        exact (List.cons.inj heq).1 ▸ hd

theorem Inert.append (h : Inert w) (h' : Inert w') : Inert (w ++ w') := by
  induction w with
  | nil => exact h'
  | cons c w ih =>
      obtain ⟨hc, hw⟩ := inert_cons_iff.mp h
      refine inert_cons_iff.mpr ⟨fun hbrace => ?_, ih hw⟩
      obtain ⟨d, rest, rfl, hd⟩ := hc hbrace
      exact ⟨d, rest ++ w', rfl, hd⟩

/-! ## Tokens -/

/-- A reference that begins with an ASCII character is scanned to its end. -/
theorem textTokens_reference (hw : Inert w) (hdigit : c.isDigit = false)
    (hword : ∀ d ∈ c :: cs, isWord d = true) (hascii : isAscii c = true) :
    textTokens (w ++ '{' :: '{' :: '.' :: c :: (cs ++ '}' :: '}' :: rest)) line =
      let start := line + (textToken w line).length
      textToken w line ++ ⟨.openDelimiter, ['{', '{'], start⟩ ::
        ⟨.field, '.' :: c :: cs, start + 1⟩ :: ⟨.closeDelimiter, ['}', '}'], start + 1⟩ ::
          textTokens rest (start + 2) := by
  have hfield (line : Nat) : Step.next ('.' :: c :: (cs ++ '}' :: '}' :: rest)) line 0 =
      .token ⟨.field, '.' :: c :: cs, line⟩ ('}' :: '}' :: rest) line 0 := by
    rw [Step.next_field hdigit hascii hword rfl, Step.endWord_of_isTerminator rfl rfl]
  rw [textTokens_append_open hw.noPair hw.noLast (by decide) (by decide),
    actionTokens_token (hfield _), actionTokens_close Step.next_close]

/-- At any other reference the scanner breaks off, and what follows is never read. -/
theorem textTokens_reference_of_not_isAscii (hw : Inert w) (hdigit : c.isDigit = false)
    (hascii : isAscii c = false) :
    textTokens (w ++ '{' :: '{' :: '.' :: c :: cs) line = textToken w line ++
      [⟨.openDelimiter, ['{', '{'], line + (textToken w line).length⟩, .brokenOff] := by
  rw [textTokens_append_open hw.noPair hw.noLast (by decide) (by decide),
    actionTokens_stop (Step.next_field_of_not_isAscii hdigit hascii)]

/-! ## Nodes -/

namespace Assembly

def between (nodes : List Node) (line : Nat) : Assembly :=
  { current := { owner := .root, nodes }, line }

variable (nodes : List Node) (line line' : Nat)

theorem exists_run_text (w : List Char) (ts : List Token) :
    ∃ last, (between nodes line).run (textToken w line' ++ ts) =
      (between (nodes ++ textNodes w) last).run ts := by
  by_cases hw : w = []
  · exact ⟨line, by simp [hw, textToken, textNodes]⟩
  · refine ⟨line', ?_⟩
    rw [textToken, textNodes, if_neg hw, if_neg hw]
    rfl

theorem run_field (key : List Char) (ts : List Token) :
    (between nodes line).run (⟨.openDelimiter, ['{', '{'], line'⟩ ::
        ⟨.field, '.' :: key, line' + 1⟩ :: ⟨.closeDelimiter, ['}', '}'], line' + 1⟩ :: ts) =
      (between (nodes ++ [fieldNode (.ofList key)]) (line' + 1)).run ts := rfl

theorem run_brokenOff : (between nodes line).run
    [⟨.openDelimiter, ['{', '{'], line'⟩, .brokenOff] = .error deadScanner := rfl

theorem run_ending : ((between nodes line).run [⟨.ending, [], line'⟩]).map library =
    .ok ⟨[("", nodes)]⟩ := rfl

end Assembly

theorem toList_ofChunks_cons (chunk : Chunk) (chunks : List Chunk) :
    (ofChunks (chunk :: chunks)).toList = chunk.source.toList ++ (ofChunks chunks).toList := by
  simp [ofChunks]

/-- Chunks are read into their nodes, unless the scanner dies at one of them.  Literals that stand
side by side are one text to the scanner, so that the induction carries a text to be read before the
chunks. -/
theorem run_chunks (h : ∀ chunk ∈ chunks, chunk.WellFormed) (hw : Inert w) (nodes : List Node) :
    ((Assembly.between nodes line).run (textTokens (w ++ (ofChunks chunks).toList) line')).map
        Assembly.library =
      if chunks.all Chunk.isScanned then .ok ⟨[("", nodes ++ chunkNodes w chunks)]⟩
      else .error deadScanner := by
  induction chunks generalizing w nodes line line' with
  | nil =>
      have hsource : w ++ (ofChunks []).toList = w := List.append_nil w
      rw [hsource, textTokens_of_not_infix hw.noPair]
      obtain ⟨last, hrun⟩ := Assembly.exists_run_text nodes line line' w _
      rw [hrun]
      exact Assembly.run_ending _ _ _
  | cons chunk chunks ih =>
      obtain ⟨hchunk, hrest⟩ := List.forall_mem_cons.mp h
      rw [toList_ofChunks_cons]
      cases chunk with
      | literal text =>
          rw [← List.append_assoc, List.all_cons, Chunk.isScanned, Bool.true_and]
          exact ih hrest (hw.append hchunk) nodes
      | reference key =>
          obtain ⟨c, cs, hkey, hdigit, hword⟩ := hchunk
          have hsource : (Chunk.reference key).source.toList ++ (ofChunks chunks).toList =
              '{' :: '{' :: '.' :: c :: (cs ++ '}' :: '}' :: (ofChunks chunks).toList) := by
            simp [Chunk.source, hkey]
          have hscanned : (Chunk.reference key).isScanned = isAscii c := by
            simp [Chunk.isScanned, hkey]
          rw [hsource, List.all_cons, hscanned]
          -- only the first character of a key decides whether the scanner gets past it
          by_cases hascii : isAscii c = true
          · have hname : String.ofList (c :: cs) = key := by rw [← hkey, String.ofList_toList]
            rw [textTokens_reference hw hdigit hword hascii, hascii, Bool.true_and, chunkNodes]
            obtain ⟨last, hrun⟩ := Assembly.exists_run_text nodes line line' w _
            rw [hrun, Assembly.run_field, hname]
            simpa using ih hrest inert_nil (nodes ++ textNodes w ++ [fieldNode key])
          · rw [Bool.not_eq_true] at hascii
            rw [textTokens_reference_of_not_isAscii hw hdigit hascii, hascii, Bool.false_and]
            obtain ⟨last, hrun⟩ := Assembly.exists_run_text nodes line line' w _
            rw [hrun, Assembly.run_brokenOff]
            rfl

/-- By induction on the chunks, with the text since the last reference as `w`. -/
theorem parse_ofChunks (h : ∀ chunk ∈ chunks, chunk.WellFormed) :
    parse (ofChunks chunks) =
      if chunks.all Chunk.isScanned then .ok ⟨[("", chunkNodes [] chunks)]⟩
      else .error deadScanner :=
  @run_chunks [] chunks 0 1 h inert_nil []

/-! ## What is rendered -/

theorem render_fieldNode (call : Caller) (s : Submission) (key : String) (frame : Frame)
    (outer : Frames) : (fieldNode key).render call (.map s) (frame :: outer) =
      .ok ((printed s key).toList, frame :: outer) := by
  have hvalue : commandValue (.map s) none [.field key []] (frame :: outer) =
      .ok (((s.get? key).map Value.text).getD .absent, frame :: outer) := rfl
  rw [fieldNode, render_action call hvalue, print_entry]
  rfl

theorem renderNodes_textNodes_append (call : Caller) (dot : Value) {ns : List Node}
    {shown : List Char} {frames frames' : Frames}
    (h : renderNodes call dot ns frames = .ok (shown, frames')) :
    renderNodes call dot (textNodes w ++ ns) frames = .ok (w ++ shown, frames') := by
  by_cases hw : w = []
  · simpa [textNodes, hw] using h
  · rw [textNodes, if_neg hw]
    exact renderNodes_cons call rfl h

/-- By induction on the chunks: each is rendered as what it shows. -/
theorem renderNodes_chunkNodes (call : Caller) (s : Submission) (frame : Frame) (outer : Frames) :
    renderNodes call (.map s) (chunkNodes w chunks) (frame :: outer) =
      .ok (w ++ chunks.flatMap fun chunk => (chunk.shown s).toList, frame :: outer) := by
  induction chunks generalizing w with
  | nil =>
      have hend : renderNodes call (.map s) [] (frame :: outer) = .ok ([], frame :: outer) := rfl
      have htext := renderNodes_textNodes_append (w := w) call (.map s) hend
      simpa [chunkNodes] using htext
  | cons chunk chunks ih =>
      cases chunk with
      | literal text =>
          rw [chunkNodes, ih]
          simp [Chunk.shown]
      | reference key =>
          rw [chunkNodes, List.flatMap_cons]
          apply renderNodes_textNodes_append
          exact renderNodes_cons call (render_fieldNode call s key frame outer) ih

theorem render_chunkNodes (s : Submission) :
    Library.render ⟨[("", chunkNodes [] chunks)]⟩ s =
      .ok (String.join (chunks.map (Chunk.shown s))) := by
  have hshown : (chunks.flatMap fun chunk => (chunk.shown s).toList) =
      (String.join (chunks.map (Chunk.shown s))).toList := by
    simp [List.flatMap_def, Function.comp_def]
  rw [render_library fun call => renderNodes_chunkNodes call s _ _, List.nil_append, hshown,
    String.ofList_toList]

end

theorem Chunk.shown_arrange (order : Arrangement) (s : Submission) (chunk : Chunk) :
    chunk.shown (order.arrange s) = chunk.shown s := by
  cases chunk <;> simp [shown]

/-- A template of well formed chunks is compiled if each of its keys begins with a character of
ASCII, and then it shows the literals and, verbatim, what is submitted for the keys; nothing else
that is submitted matters, nor its order.  With any other key the scanner dies and the template is
not compiled. -/
theorem compile_chunks (chunks : List Chunk) (h : ∀ chunk ∈ chunks, chunk.WellFormed) :
    ((∀ chunk ∈ chunks, chunk.isScanned = true) → ∃ t, compile (ofChunks chunks) = .ok t ∧
      (∀ s order, t.render s order = .ok (String.join (chunks.map (Chunk.shown s)))) ∧
      ∀ s s' order order', (∀ key, .reference key ∈ chunks → s.get? key = s'.get? key) →
        t.render s order = t.render s' order') ∧
    ((∃ chunk ∈ chunks, chunk.isScanned = false) → compile (ofChunks chunks) =
      .error "template: :0:unexpected receiving on a closed channel in command") := by
  refine ⟨fun hscanned => ?_, ?_⟩
  · have hparse : parse (ofChunks chunks) = .ok ⟨[("", chunkNodes [] chunks)]⟩ := by
      rw [parse_ofChunks h, if_pos (List.all_eq_true.mpr hscanned)]
    have hrender (s : Submission) (order : Arrangement) :
        (⟨ofChunks chunks, ⟨[("", chunkNodes [] chunks)]⟩⟩ : Template).render s order =
          .ok (String.join (chunks.map (Chunk.shown s))) := by
      rw [render, render_chunkNodes, funext (Chunk.shown_arrange order s)]
    refine ⟨_, by rw [compile, hparse], hrender, fun s s' order order' hsame => ?_⟩
    have hshown : chunks.map (Chunk.shown s) = chunks.map (Chunk.shown s') := by
      apply List.map_congr_left
      intro chunk hchunk
      cases chunk with
      | literal text => rfl
      | reference key => rw [Chunk.shown, Chunk.shown, printed, printed, hsame key hchunk]
    rw [hrender, hrender, hshown]
  · rintro ⟨chunk, hchunk, hdead⟩
    have hall : ¬ chunks.all Chunk.isScanned = true := by
      intro hall
      rw [List.all_eq_true.mp hall chunk hchunk] at hdead
      cases hdead
    rw [compile, parse_ofChunks h, if_neg hall]
    rfl

/-- The network of a configuration file, with braces beside those of its references. -/
def network : List Chunk :=
  [.literal "network=\x7b psk=\"", .reference "_psk2", .literal "\"\x7d", .reference "end"]

/-- What is submitted looks like a template itself. -/
theorem render_network : (∀ chunk ∈ network, chunk.WellFormed) ∧
    (∀ chunk ∈ network, chunk.isScanned = true) ∧ ∃ t, compile (ofChunks network) = .ok t ∧
      t.render (.ofList [("_psk2", "\x7b\x7b.ssid\x7d\x7d\n<"), ("end", "\x7d")]) =
        .ok "network=\x7b psk=\"\x7b\x7b.ssid\x7d\x7d\n<\"\x7d\x7d" := by
  have hwell : ∀ chunk ∈ network, chunk.WellFormed := by
    simp only [network, List.forall_mem_cons, List.not_mem_nil, false_implies, implies_true,
      and_true]
    exact ⟨⟨by decide +kernel, by decide +kernel⟩,
      ⟨'_', ['p', 's', 'k', '2'], rfl, rfl, List.all_eq_true.mp rfl⟩,
      ⟨by decide +kernel, by decide +kernel⟩,
      ⟨'e', ['n', 'd'], rfl, rfl, List.all_eq_true.mp rfl⟩⟩
  have hscanned : ∀ chunk ∈ network, chunk.isScanned = true :=
    List.all_eq_true.mp (by decide +kernel)
  obtain ⟨t, ht, hrender, -⟩ := (compile_chunks network hwell).1 hscanned
  refine ⟨hwell, hscanned, t, ht, ?_⟩
  rw [hrender]
  rfl

/-- A key of letters at which the scanner dies. -/
theorem accented_not_compiled : Chunk.WellFormed (.reference "état") ∧
    ¬ ∃ t, compile (ofChunks [.reference "état"]) = .ok t := by
  have hwell : Chunk.WellFormed (.reference "état") :=
    ⟨'é', ['t', 'a', 't'], rfl, rfl, List.all_eq_true.mp rfl⟩
  have hparse : parse (ofChunks [.reference "état"]) = .error deadScanner := by
    rw [parse_ofChunks (List.forall_mem_singleton.mpr hwell)]
    rfl
  refine ⟨hwell, ?_⟩
  rintro ⟨t, ht⟩
  rw [compile, hparse] at ht
  cases ht

end Provision.Template
