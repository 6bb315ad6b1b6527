import Provision.Proofs.Grammar
import Provision.Proofs.Template.Scanning
import Provision.Template

namespace Provision.Template

/-!
# References to a value

A template can refer to a value as a field of the dot, or look it up in the dot by its name.  The
language has fields for words only, so that a name with a hyphen, which the grammar of names allows,
can be looked up but is no field.
-/

def fieldReference (name : String) : String := "\x7b\x7b ." ++ name ++ " \x7d\x7d"

def indexReference (name : String) : String := "\x7b\x7b index . \"" ++ name ++ "\" \x7d\x7d"

def single (command : List Term) : Library := ⟨[("", [.action ⟨[], [command]⟩])]⟩

def printed (s : Submission) (name : String) : String := (s.get? name).getD "<no value>"

@[simp] theorem printed_arrange (order : Arrangement) (s : Submission) (name : String) :
    printed (order.arrange s) name = printed s name := by
  simp [printed]

/-! ## The characters of a name -/

section

variable {name : String} {c : Char} {cs w rest : List Char}

theorem isWord_of_isPart (h : Name.isPart c = true) (hc : c ≠ '-') : isWord c = true := by
  simp only [Name.isPart, Bool.or_eq_true, decide_eq_true_eq, or_assoc] at h
  rcases h with h | rfl | rfl
  · rw [isWord, Text.isAlphanumeric_of_ascii (Text.toNat_lt_of_isAlphanum h), h]
    rfl
  · rfl
  · exact absurd rfl hc

theorem ne_of_isPart (h : Name.isPart c = true) : c ≠ '\\' ∧ c ≠ '\n' ∧ c ≠ '"' := by
  refine ⟨?_, ?_, ?_⟩ <;> rintro rfl <;> cases h

theorem isDigit_eq_false_of_isStart (h : Name.isStart c = true) : c.isDigit = false := by
  rw [Bool.eq_false_iff]
  intro hdigit
  simp only [Name.isStart, Bool.or_eq_true, decide_eq_true_eq] at h
  rcases h with h | rfl
  · have hcode := Char.isDigit_iff_toNat.mp hdigit
    delta Char.isAlpha Char.isUpper Char.isLower at h
    simp only [Bool.or_eq_true, Bool.and_eq_true, decide_eq_true_eq, ge_iff_le,
      UInt32.le_iff_toNat_le, Char.toNat_val] at h
    have h9 : '9'.toNat = 57 := rfl
    have hA : 'A'.toNat = 65 := rfl
    have ha : 'a'.toNat = 97 := rfl
    omega
  · cases hdigit

theorem isAscii_of_isStart (h : Name.isStart c = true) : isAscii c = true := by
  simp only [Name.isStart, Bool.or_eq_true, decide_eq_true_eq] at h
  rcases h with h | rfl
  · apply decide_eq_true
    apply Text.toNat_lt_of_isAlphanum
    rw [Char.isAlphanum, h, Bool.true_or]
  · rfl

theorem characters_of_valid (h : Name.valid name = true) : ∃ c cs, name.toList = c :: cs ∧
    Name.isStart c = true ∧ ∀ d ∈ name.toList, Name.isPart d = true := by
  unfold Name.valid at h
  split at h
  · cases h
  · next c cs hname =>
    obtain ⟨hstart, hparts⟩ := Bool.and_eq_true_iff.mp h
    refine ⟨c, cs, hname, hstart, ?_⟩
    rw [hname, List.forall_mem_cons]
    exact ⟨Name.isPart_of_isStart hstart, List.all_eq_true.mp hparts⟩

/-! ## Tokens -/

def indexTokens : List Token :=
  [⟨.openDelimiter, ['{', '{'], 1⟩, ⟨.space, [' '], 2⟩,
    ⟨.identifier, ['i', 'n', 'd', 'e', 'x'], 2⟩, ⟨.space, [' '], 2⟩, ⟨.dot, ['.'], 2⟩,
    ⟨.space, [' '], 2⟩]

theorem tokens_indexReference (h : ∀ c ∈ name.toList, Name.isPart c = true) :
    tokens (indexReference name) =
      indexTokens ++ ⟨.string, '"' :: (name.toList ++ ['"']), 2⟩ :: endTokens 2 := by
  have hsource : (indexReference name).toList = '{' :: '{' :: ' ' :: 'i' :: 'n' :: 'd' :: 'e' :: 'x'
      :: ' ' :: '.' :: ' ' :: '"' :: (name.toList ++ '"' :: [' ', '}', '}']) := by
    simp [indexReference]
  have hword {cs : List Char} : Step.next ('i' :: 'n' :: 'd' :: 'e' :: 'x' :: ' ' :: cs) 2 0 =
      .token ⟨.identifier, ['i', 'n', 'd', 'e', 'x'], 2⟩ (' ' :: cs) 2 0 := rfl
  have hdot {cs : List Char} : Step.next ('.' :: ' ' :: cs) 2 0 =
      .token ⟨.dot, ['.'], 2⟩ (' ' :: cs) 2 0 := rfl
  have hquoted : Step.next ('"' :: (name.toList ++ '"' :: [' ', '}', '}'])) 2 0 =
      .token ⟨.string, '"' :: (name.toList ++ ['"']), 2⟩ [' ', '}', '}'] 2 0 :=
    Step.next_string fun c hc => ne_of_isPart (h c hc)
  rw [tokens, hsource, textTokens_open (by decide) (by decide),
    actionTokens_token (Step.next_space rfl rfl (by decide)), actionTokens_token hword,
    actionTokens_token (Step.next_space rfl rfl (by decide)), actionTokens_token hdot,
    actionTokens_token (Step.next_space rfl rfl (by decide)), actionTokens_token hquoted,
    actionTokens_end]
  rfl

/-- The scanner reads a field up to the first character that belongs to no word. -/
theorem tokens_fieldReference (hstart : Name.isStart c = true)
    (hw : ∀ d ∈ c :: w, isWord d = true) {d : Char} (hd : isWord d = false)
    (hname : name.toList ++ [' ', '}', '}'] = c :: w ++ d :: rest) :
    tokens (fieldReference name) =
      ⟨.openDelimiter, ['{', '{'], 1⟩ :: ⟨.space, [' '], 2⟩ ::
        actionTokens ('.' :: (c :: w ++ d :: rest)) 2 0 ∧
      Step.next ('.' :: (c :: w ++ d :: rest)) 2 0 =
        Step.endWord .field ('.' :: c :: w) (d :: rest) 2 0 := by
  have hsource : (fieldReference name).toList =
      '{' :: '{' :: ' ' :: '.' :: (c :: w ++ d :: rest) := by
    rw [← hname]
    simp [fieldReference]
  constructor
  · rw [tokens, hsource, textTokens_open (by decide) (by decide),
      actionTokens_token (Step.next_space rfl rfl (by decide))]
  · exact Step.next_field (isDigit_eq_false_of_isStart hstart) (isAscii_of_isStart hstart) hw hd

/-- A name without hyphens is scanned as one field. -/
theorem tokens_fieldReference_word (hstart : Name.isStart c = true) (hname : name.toList = c :: cs)
    (h : ∀ d ∈ name.toList, isWord d = true) :
    tokens (fieldReference name) =
      ⟨.openDelimiter, ['{', '{'], 1⟩ :: ⟨.space, [' '], 2⟩ :: ⟨.field, '.' :: name.toList, 2⟩ ::
        endTokens 2 := by
  rw [hname] at h ⊢
  have hsource : name.toList ++ [' ', '}', '}'] = c :: cs ++ ' ' :: ['}', '}'] := by rw [hname]
  obtain ⟨htokens, hnext⟩ := tokens_fieldReference hstart h rfl hsource
  rw [Step.endWord_of_isTerminator rfl rfl] at hnext
  rw [htokens, actionTokens_token hnext, actionTokens_end]

/-- At a hyphen the scanner fails. -/
theorem tokens_fieldReference_hyphen (hstart : Name.isStart c = true)
    (hw : ∀ d ∈ c :: w, isWord d = true) (hname : name.toList = c :: w ++ '-' :: rest) :
    tokens (fieldReference name) =
      [⟨.openDelimiter, ['{', '{'], 1⟩, ⟨.space, [' '], 2⟩,
        ⟨.failure, "bad character -".toList, 2⟩] := by
  have hsource : name.toList ++ [' ', '}', '}'] = c :: w ++ '-' :: (rest ++ [' ', '}', '}']) := by
    simp [hname]
  obtain ⟨htokens, hnext⟩ := tokens_fieldReference hstart hw rfl hsource
  rw [Step.endWord_of_not_isTerminator rfl rfl] at hnext
  rw [htokens, actionTokens_stop hnext]
  rfl

/-! ## What is compiled and rendered -/

theorem unescape?_of_plain (h : ∀ d ∈ cs, d ≠ '\\') : unescape? cs = some cs := by
  unfold unescape?
  induction cs with
  | nil => rfl
  | cons d cs ih =>
      obtain ⟨hd, hcs⟩ := List.forall_mem_cons.mp h
      have hunit : unit? (d :: cs) = some ([d], cs) := by
        rw [unit?] <;> simp [hd]
      simp [unescape?.go, hunit, ih hcs]

theorem stringLiteral?_quoted (h : ∀ d ∈ cs, d ≠ '\\') :
    stringLiteral? ('"' :: (cs ++ ['"'])) = some (String.ofList cs) := by
  have hcontent : content ('"' :: (cs ++ ['"'])) = cs := by simp [content]
  rw [stringLiteral?, hcontent, unescape?_of_plain h]
  rfl

/-- Within the command of an action that stands in no list but that of the template. -/
def Assembly.inCommand (terms : List Term) (progress : Progress) : Assembly :=
  { mode := .pipeline { clause := .command, progress, terms } [], line := 2 }

theorem Assembly.step_string {terms : List Term} {t : Token} {s : String} (hkind : t.kind = .string)
    (hline : t.line = 2) (h : stringLiteral? t.source = some s) :
    (inCommand terms .gap).step t = .ok (inCommand terms (.term (.text s t.shown))) := by
  simp [inCommand, step, take, inPipeline, inGap, beginsTerm, beginTerm, term, hkind, hline, h,
    bind, Except.bind]

theorem parse_indexReference (h : ∀ c ∈ name.toList, Name.isPart c = true) :
    parse (indexReference name) = .ok (single [.function .index, .dot,
      .text name (String.ofList ('"' :: (name.toList ++ ['"'])))]) := by
  have hliteral := stringLiteral?_quoted fun c hc => (ne_of_isPart (h c hc)).1
  rw [String.ofList_toList] at hliteral
  have hbefore : Assembly.run {} indexTokens = .ok (.inCommand [.function .index, .dot] .gap) := rfl
  have hafter (u : Term) : ((Assembly.inCommand [.function .index, .dot] (.term u)).run
      (endTokens 2)).map Assembly.library = .ok (single [.function .index, .dot, u]) := rfl
  rw [parse, tokens_indexReference h, Assembly.run_append, hbefore, Except.bind, Assembly.run_cons,
    Assembly.step_string rfl rfl hliteral]
  exact hafter _

theorem parse_fieldReference_word (hstart : Name.isStart c = true) (hname : name.toList = c :: cs)
    (h : ∀ d ∈ name.toList, isWord d = true) :
    parse (fieldReference name) = .ok (single [.field name []]) := by
  have hfield : Assembly.fieldName ('.' :: name.toList) = name := String.ofList_toList
  have hrun : (Assembly.run {} (⟨.openDelimiter, ['{', '{'], 1⟩ :: ⟨.space, [' '], 2⟩ ::
      ⟨.field, '.' :: name.toList, 2⟩ :: endTokens 2)).map Assembly.library =
        .ok (single [.field (Assembly.fieldName ('.' :: name.toList)) []]) := rfl
  rw [parse, tokens_fieldReference_word hstart hname h, hrun, hfield]

theorem parse_fieldReference_hyphen (hstart : Name.isStart c = true)
    (hw : ∀ d ∈ c :: w, isWord d = true) (hname : name.toList = c :: w ++ '-' :: rest) :
    parse (fieldReference name) =
      .error (.at "" 2 (.unexpected "bad character -" "command")) := by
  rw [parse, tokens_fieldReference_hyphen hstart hw hname]
  rfl

/-- An action that declares nothing prints the value of its command. -/
theorem render_action {command : List Term} {s : Submission} {v : Value} {frames frames' : Frames}
    (call : Caller) (h : commandValue (.map s) none command frames = .ok (v, frames')) :
    Node.render call (.map s) (.action ⟨[], [command]⟩) frames =
      .ok (v.print.toList, Frames.declare [] v frames') := by
  have hvalue : commandsValue (.map s) none [command] frames = .ok (v, frames') := by
    simp only [commandsValue, bind, StateT.bind, h, Except.bind]
    rfl
  simp only [Node.render, Pipeline.value, bind, StateT.bind, hvalue, Except.bind, if_true]
  rfl

theorem renderNodes_cons {n : Node} {ns : List Node} {shown others : List Char} {dot : Value}
    {frames frames' frames'' : Frames} (call : Caller)
    (hn : n.render call dot frames = .ok (shown, frames'))
    (hns : renderNodes call dot ns frames' = .ok (others, frames'')) :
    renderNodes call dot (n :: ns) frames = .ok (shown ++ others, frames'') := by
  simp only [renderNodes, bind, StateT.bind, hn, hns, Except.bind]
  rfl

theorem render_library {nodes : List Node} {s : Submission} {shown : List Char} {frames : Frames}
    (h : ∀ call, renderNodes call (.map s) nodes (initialFrames (.map s)) = .ok (shown, frames)) :
    Library.render ⟨[("", nodes)]⟩ s = .ok (String.ofList shown) := by
  have hdepth : maxDepth = 99999 + 1 := rfl
  have hfound : Library.get? ⟨[("", nodes)]⟩ "" = some nodes := rfl
  rw [Library.render, hdepth, Library.call, hfound]
  simp only [Except.bind, h, Except.map]

/-- A command by itself is rendered as its value. -/
theorem render_single {command : List Term} {s : Submission} {v : Value}
    (h : ∀ frames, commandValue (.map s) none command frames = .ok (v, frames)) :
    (single command).render s = .ok v.print := by
  have hnodes (call : Caller) : renderNodes call (.map s) [.action ⟨[], [command]⟩]
      (initialFrames (.map s)) =
        .ok (v.print.toList ++ [], Frames.declare [] v [[("$", .map s)]]) :=
    renderNodes_cons call (render_action call (h _)) rfl
  rw [single, render_library hnodes, List.append_nil, String.ofList_toList]

theorem print_entry (s : Submission) (name : String) :
    (((s.get? name).map Value.text).getD .absent).print = printed s name := by
  rw [printed]
  cases s.get? name <;> rfl

/-- A look-up prints the text that is submitted for the name. -/
theorem render_index (s : Submission) (name source : String) :
    (single [.function .index, .dot, .text name source]).render s = .ok (printed s name) := by
  rw [← print_entry]
  apply render_single
  intro frames
  rfl

/-- So does a field. -/
theorem render_field (s : Submission) (name : String) :
    (single [.field name []]).render s = .ok (printed s name) := by
  rw [← print_entry]
  apply render_single
  intro frames
  rfl

end

/-- Whatever name is in the grammar can be looked up in the dot.  It is a field of the dot as well,
with the same text for every submission, in whatever order it is copied, unless it has a hyphen:
then the template of the field is not compiled. -/
theorem compile_reference (name : String) (h : Name.valid name = true) :
    (∃ t, compile (indexReference name) = .ok t ∧
      ∀ s order, t.render s order = .ok (printed s name)) ∧
    ('-' ∉ name.toList →
      ∃ t, compile (fieldReference name) = .ok t ∧
        ∀ s order, t.render s order = .ok (printed s name)) ∧
    ('-' ∈ name.toList → compile (fieldReference name) =
      .error "template: :2:unexpected bad character - in command") := by
  obtain ⟨c, cs, hname, hstart, hparts⟩ := characters_of_valid h
  refine ⟨?_, fun hhyphen => ?_, fun hhyphen => ?_⟩
  · refine ⟨⟨indexReference name, _⟩, by rw [compile, parse_indexReference hparts],
      fun s order => ?_⟩
    rw [render, render_index, printed_arrange]
  · have hword : ∀ d ∈ name.toList, isWord d = true := fun d hd =>
      isWord_of_isPart (hparts d hd) fun heq => hhyphen (heq ▸ hd)
    refine ⟨⟨fieldReference name, _⟩,
      by rw [compile, parse_fieldReference_word hstart hname hword], fun s order => ?_⟩
    rw [render, render_field, printed_arrange]
  · obtain ⟨w, rest, hsplit, hw⟩ := List.eq_append_cons_of_mem hhyphen
    -- the hyphen is not the first character, so that the scanner has begun a field before it
    cases w with
    | nil =>
        obtain ⟨rfl, -⟩ := List.cons.inj (hname.symm.trans hsplit)
        cases hstart
    | cons d w =>
        obtain ⟨rfl, -⟩ := List.cons.inj (hname.symm.trans hsplit)
        have hword : ∀ e ∈ c :: w, isWord e = true := by
          intro e he
          apply isWord_of_isPart
          · exact hparts e (hsplit ▸ List.mem_append_left _ he)
          · exact fun heq => hw (heq ▸ he)
        rw [compile, parse_fieldReference_hyphen hstart hword hsplit]
        rfl

theorem render_key : Name.valid "wifi_psk" = true ∧
    ∃ t u, compile "\x7b\x7b .wifi_psk \x7d\x7d" = .ok t ∧
      compile "\x7b\x7b index . \"wifi_psk\" \x7d\x7d" = .ok u ∧
        t.render (.ofList [("wifi_psk", "secret")]) = .ok "secret" ∧
        u.render (.ofList [("wifi_psk", "secret")]) = .ok "secret" := by
  have hvalid : Name.valid "wifi_psk" = true := by decide
  obtain ⟨⟨u, hu, hindex⟩, hword, -⟩ := compile_reference "wifi_psk" hvalid
  obtain ⟨t, ht, hfield⟩ := hword (by decide)
  exact ⟨hvalid, t, u, ht, hu, hfield _ _, hindex _ _⟩

/-- A name of the grammar that is no field. -/
theorem hyphenated_not_field : Name.valid "wifi-psk" = true ∧
    ¬ ∃ t, compile (fieldReference "wifi-psk") = .ok t := by
  have hparse : parse (fieldReference "wifi-psk") =
      .error (.at "" 2 (.unexpected "bad character -" "command")) :=
    parse_fieldReference_hyphen (c := 'w') (w := ['i', 'f', 'i']) rfl (List.all_eq_true.mp rfl) rfl
  refine ⟨by decide, ?_⟩
  rintro ⟨t, ht⟩
  rw [compile, hparse] at ht
  cases ht

end Provision.Template
