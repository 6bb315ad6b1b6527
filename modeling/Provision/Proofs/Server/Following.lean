import Mathlib.Data.List.TakeWhile
import Provision.Proofs.Json.Reading
import Provision.Proofs.Text.Lines
import Provision.Proofs.Text.Split
import Provision.Server.Status

namespace Provision

/-!
# Event streams as they are received

What a client makes of an event stream is the data of each event in turn: the values of the fields
named `data`, a line for each.  An event without such a field is nothing to it.  So of the lines
that a program prints, up to the first that is no text, the client receives each that is not empty,
with its carriage returns turned into line feeds; of an empty line nothing reaches it.
-/

namespace Json

variable {c d : Char}

/-- The byte of an ASCII character is a byte of no other character. -/
theorem mem_utf8EncodeChar_iff (hd : d.toNat < 128) :
    UInt8.ofNat d.toNat ∈ String.utf8EncodeChar c ↔ c = d := by
  by_cases hc : c.toNat < 128
  · rw [utf8EncodeChar_of_ascii hc, List.mem_singleton]
    constructor
    · intro h
      have hcode := congrArg UInt8.toNat h
      rw [UInt8.toNat_ofNat', UInt8.toNat_ofNat'] at hcode
      exact Char.toNat_inj.mp (by omega)
    · rintro rfl
      rfl
  · refine iff_of_false ?_ ?_
    · intro h
      have hle := UInt8.le_iff_toNat_le.mp
        (Decoder.le_of_mem_utf8EncodeChar (Nat.le_of_not_lt hc) _ h)
      rw [UInt8.toNat_ofNat'] at hle
      have hsmall : d.toNat % 2 ^ 8 < 128 := by omega
      exact absurd hle (Nat.not_le.mpr hsmall)
    · rintro rfl
      exact hc hd

theorem mem_encode_iff (hd : d.toNat < 128) {cs : List Char} :
    UInt8.ofNat d.toNat ∈ encode cs ↔ d ∈ cs := by
  simp [encode, mem_utf8EncodeChar_iff hd]

end Json

theorem Text.utf8_of_ofUtf8? {bytes : List UInt8} {s : String} (h : ofUtf8? bytes = some s) :
    utf8 s = bytes := by
  unfold ofUtf8? String.fromUTF8? at h
  split at h
  · obtain rfl := Option.some.inj h
    exact List.toList_toArray
  · cases h

namespace EventStream

open Json (encode)

/-! ## How a stream is received -/

/-- The lines of a stream, of whose first something has been read.  A line ends at a line feed, at a
carriage return or at both; what the stream ends in the middle of is none. -/
def streamLines : List Char → List Char → List (List Char)
  | _, [] => []
  | line, c :: rest =>
    if c = '\n' then line :: streamLines [] rest
    else if c = '\r' then
      if rest.head? = some '\n' then streamLines line rest else line :: streamLines [] rest
    else streamLines (line ++ [c]) rest

/-- The name and the value of the field in a line.  A blank behind the colon does not count. -/
def field (line : List Char) : List Char × List Char :=
  match Text.cutFirst ':' line with
  | none => (line, [])
  | some (name, value) => (name, if value.head? = some ' ' then value.tail else value)

/-- The data of the events in some lines, where `data` has been gathered for the first.  An empty
line ends an event, which is dropped if there is no data. -/
def dispatched : List (List Char) → List (List Char) → List (List Char)
  | _, [] => []
  | data, line :: rest =>
    if line = [] then
      if data = [] then dispatched [] rest else ['\n'].intercalate data :: dispatched [] rest
    else if (field line).1 = "data".toList then dispatched (data ++ [(field line).2]) rest
    else dispatched data rest

/-- What is received of a stream: the data of each event.  A byte order mark at the beginning does
not count. -/
def received (stream : List Char) : List (List Char) :=
  dispatched [] (streamLines [] (if stream.head? = some '\ufeff' then stream.tail else stream))

/-! ## The event for a line -/

/-- A line of text as data: the mark is repeated behind each carriage return. -/
def marked : List Char → List Char
  | [] => []
  | c :: rest => if c = '\r' then c :: ("data: ".toList ++ marked rest) else c :: marked rest

def frame (line : List Char) : List Char :=
  if line = [] then ['\n'] else "data: ".toList ++ marked line ++ ['\n', '\n']

theorem marked_of_notMem {line : List Char} (h : '\r' ∉ line) : marked line = line := by
  induction line with
  | nil => rfl
  | cons c line ih =>
      obtain ⟨hc, hline⟩ := List.ne_and_not_mem_of_not_mem_cons h
      rw [marked, if_neg (Ne.symm hc), ih hline]

theorem data_append_of_notMem {bytes : List UInt8} (h : (0x0D : UInt8) ∉ bytes)
    (rest : List UInt8) : data (bytes ++ rest) = bytes ++ data rest := by
  induction bytes with
  | nil => rfl
  | cons b bytes ih =>
      obtain ⟨hb, hbytes⟩ := List.ne_and_not_mem_of_not_mem_cons h
      rw [List.cons_append, data, if_neg (Ne.symm hb), ih hbytes, List.cons_append]

theorem encode_mark : encode "data: ".toList = mark := by
  decide

theorem data_encode (line : List Char) : data (encode line) = encode (marked line) := by
  induction line with
  | nil => rfl
  | cons c line ih =>
      by_cases hc : c = '\r'
      · have hbyte : String.utf8EncodeChar '\r' = [0x0D] := by decide
        rw [hc, Json.encode_cons, hbyte, marked, if_pos rfl, Json.encode_cons, hbyte,
          Json.encode_append, encode_mark, ← ih]
        rfl
      · have hfree : (0x0D : UInt8) ∉ String.utf8EncodeChar c :=
          fun h => hc ((Json.mem_utf8EncodeChar_iff (d := '\r') (by decide)).mp h)
        rw [Json.encode_cons, data_append_of_notMem hfree, marked, if_neg hc, Json.encode_cons, ih]

theorem event_encode (line : List Char) : event (encode line) = encode (frame line) := by
  rcases line with _ | ⟨c, line⟩
  · decide
  · have hne : encode (c :: line) ≠ [] := by
      simp [String.utf8EncodeChar_ne_nil]
    rw [event, if_neg hne, frame, if_neg (List.cons_ne_nil c line), Json.encode_append,
      Json.encode_append, encode_mark, data_encode]
    rfl

/-! ## An event is received -/

theorem streamLines_mark (before rest : List Char) :
    streamLines before ("data: ".toList ++ rest) =
      streamLines (before ++ "data: ".toList) rest := by
  simp [streamLines]

/-- The lines of an event's data are the pieces between carriage returns, each with its mark. -/
theorem streamLines_marked {line : List Char} (hfree : '\n' ∉ line) (before rest : List Char) :
    streamLines before (marked line ++ '\n' :: rest) =
      (before ++ (Text.split '\r' line).headD []) ::
        ((Text.split '\r' line).tail.map fun piece => "data: ".toList ++ piece) ++
          streamLines [] rest := by
  -- a carriage return closes the piece that was begun in `before`; the next begins with the mark
  induction line generalizing before with
  | nil => simp [marked, streamLines]
  | cons c line ih =>
      obtain ⟨hc, hline⟩ := List.ne_and_not_mem_of_not_mem_cons hfree
      by_cases hret : c = '\r'
      · obtain ⟨first, others, hs⟩ := List.exists_cons_of_ne_nil (Text.split_ne_nil '\r' line)
        have hhead : ("data: ".toList ++ (marked line ++ '\n' :: rest)).head? ≠ some '\n' := by
          simp
        rw [marked, if_pos hret, List.cons_append, List.append_assoc, streamLines,
          if_neg (Ne.symm hc), if_pos hret, if_neg hhead, streamLines_mark, ih hline, hret,
          Text.split_cons_self, hs]
        simp
      · rw [marked, if_neg hret, List.cons_append, streamLines, if_neg (Ne.symm hc), if_neg hret,
          ih hline, Text.split_cons_of_ne line hret]
        simp

/-- The event for a line is read as one line of data for each of its parts between carriage
returns, and an empty line. -/
theorem streamLines_frame {line : List Char} (hne : line ≠ []) (hfree : '\n' ∉ line)
    (rest : List Char) : streamLines [] (frame line ++ rest) =
      ((Text.split '\r' line).map fun piece => "data: ".toList ++ piece) ++
        [] :: streamLines [] rest := by
  obtain ⟨first, others, hs⟩ := List.exists_cons_of_ne_nil (Text.split_ne_nil '\r' line)
  have hend : streamLines [] ('\n' :: rest) = [] :: streamLines [] rest := by
    rw [streamLines, if_pos rfl]
  have hframe : frame line ++ rest =
      "data: ".toList ++ (marked line ++ '\n' :: '\n' :: rest) := by
    simp [frame, hne]
  rw [hframe, streamLines_mark, streamLines_marked hfree, hend, hs]
  simp

theorem field_data (value : List Char) :
    field ("data: ".toList ++ value) = ("data".toList, value) := by
  simp [field, Text.cutFirst]

/-- The lines of data of an event are received as one text. -/
theorem dispatched_data (data pieces : List (List Char)) (hne : data ++ pieces ≠ [])
    (more : List (List Char)) :
    dispatched data ((pieces.map fun piece => "data: ".toList ++ piece) ++ [] :: more) =
      ['\n'].intercalate (data ++ pieces) :: dispatched [] more := by
  -- each piece joins what has been gathered, and the empty line hands it all over
  induction pieces generalizing data with
  | nil =>
      rw [List.append_nil] at hne
      rw [List.map_nil, List.nil_append, dispatched, if_pos rfl, if_neg hne, List.append_nil]
  | cons piece pieces ih =>
      have hline : "data: ".toList ++ piece ≠ [] := by simp
      rw [List.map_cons, List.cons_append, dispatched, if_neg hline, field_data, if_pos rfl,
        ih _ (by simp), List.append_assoc, List.singleton_append]

/-- An event is received as its line, with carriage returns turned into line feeds, and the event of
an empty line is not received. -/
theorem dispatched_frame {line : List Char} (hfree : '\n' ∉ line) (rest : List Char) :
    dispatched [] (streamLines [] (frame line ++ rest)) =
      (if line = [] then [] else [line.map fun c => if c = '\r' then '\n' else c]) ++
        dispatched [] (streamLines [] rest) := by
  by_cases hne : line = []
  · subst hne
    rw [frame, if_pos rfl, List.cons_append, streamLines, if_pos rfl, dispatched, if_pos rfl,
      if_pos rfl]
    rfl
  · have hsplit : [] ++ Text.split '\r' line ≠ [] := Text.split_ne_nil '\r' line
    rw [if_neg hne, streamLines_frame hne hfree, dispatched_data _ _ hsplit, List.nil_append,
      Text.intercalate_split_eq_map, List.singleton_append]

theorem head?_flatMap_frame (lines : List (List Char)) :
    (lines.flatMap frame).head? ≠ some '\ufeff' := by
  rcases lines with _ | ⟨line, lines⟩
  · simp
  · by_cases hne : line = [] <;> simp [frame, hne]

/-- Of a stream of events nothing is received for the empty ones. -/
theorem received_flatMap_frame {lines : List (List Char)} (hfree : ∀ line ∈ lines, '\n' ∉ line) :
    received (lines.flatMap frame) =
      (lines.filter (· ≠ [])).map (List.map fun c => if c = '\r' then '\n' else c) := by
  rw [received, if_neg (head?_flatMap_frame lines)]
  induction lines with
  | nil => rfl
  | cons line lines ih =>
      obtain ⟨hline, hlines⟩ := List.forall_mem_cons.mp hfree
      rw [List.flatMap_cons, dispatched_frame hline, ih hlines]
      by_cases hne : line = [] <;> simp [hne]

/-! ## The stream for what a program prints -/

theorem exists_texts {lines : List (List UInt8)} (h : ∀ line ∈ lines, isText line = true) :
    ∃ texts : List (List Char), texts.map encode = lines := by
  induction lines with
  | nil => exact ⟨[], rfl⟩
  | cons line lines ih =>
      obtain ⟨hline, hlines⟩ := List.forall_mem_cons.mp h
      obtain ⟨s, hs⟩ := Option.isSome_iff_exists.mp hline
      obtain ⟨texts, rfl⟩ := ih hlines
      refine ⟨s.toList :: texts, ?_⟩
      rw [List.map_cons, ← Json.utf8_ofList, String.ofList_toList, Text.utf8_of_ofUtf8? hs]

theorem encode_flatMap_frame (texts : List (List Char)) :
    (texts.map encode).flatMap event = encode (texts.flatMap frame) := by
  induction texts with
  | nil => rfl
  | cons text texts ih =>
      rw [List.map_cons, List.flatMap_cons, List.flatMap_cons, Json.encode_append, event_encode, ih]

theorem isText_of_getElem?_takeWhile {lines : List (List UInt8)} {line : List UInt8}
    (h : lines[(lines.takeWhile isText).length]? = some line) : isText line = false := by
  have hrest : (lines.dropWhile isText).head? = some line := by
    rw [← h, List.head?_eq_getElem?]
    conv_rhs => rw [← List.takeWhile_append_dropWhile (p := isText) (l := lines)]
    rw [List.getElem?_append_right (by simp)]
    simp
  have hnot := List.head?_dropWhile_not isText lines
  rwa [hrest] at hnot

/-- The lines of a program that ends are followed in their order, up to the first that is no text.
There is an event for each: two line feeds behind `data: ` and the line, in which the mark is
repeated behind a carriage return, but a line feed alone for an empty line.  The client receives the
lines that are not empty, and in them a line feed for a carriage return. -/
theorem journal_received {σ : Type} (h : Host σ) (matchers : List String) (w : World σ)
    {o : ProgramOutput} {d : Device σ}
    (hrun : h.run Journal.program (Journal.arguments matchers) w.toDevice = (.ok o, d)) :
    ∃ (lines : List (List UInt8)) (texts : List (List Char)),
      (∀ found, Text.Lined 0x0A 0x0D o.stdout found ↔ found = lines) ∧
      texts.map encode <+: lines ∧
      (∀ line ∈ lines[texts.length]?, Text.ofUtf8? line = none) ∧
      (Server.journal h matchers w).response.status = 200 ∧
      (Server.journal h matchers w).response.body = encode (texts.flatMap frame) ∧
      (∀ text ∈ texts, text ≠ [] → '\r' ∉ text →
        frame text = "data: ".toList ++ text ++ ['\n', '\n']) ∧
      received (texts.flatMap frame) =
        (texts.filter (· ≠ [])).map (List.map fun c => if c = '\r' then '\n' else c) ∧
      ((∀ line ∈ lines, (Text.ofUtf8? line).isSome ∧ line ≠ [] ∧ 0x0D ∉ line) →
        (received (texts.flatMap frame)).map encode = lines) := by
  let lines := Text.lines (0x0A : UInt8) 0x0D o.stdout
  have hlined (found : List (List UInt8)) :
      Text.Lined 0x0A 0x0D o.stdout found ↔ found = lines := Text.lined_iff (by decide)
  obtain ⟨texts, htexts⟩ : ∃ texts : List (List Char), texts.map encode = lines.takeWhile isText :=
    exists_texts fun line hline => List.all_eq_true.mp List.all_takeWhile line hline
  have hprefix : texts.map encode <+: lines := htexts ▸ List.takeWhile_prefix isText
  have hmem : ∀ text ∈ texts, encode text ∈ lines :=
    fun text htext => hprefix.subset (List.mem_map_of_mem htext)
  have hfree : ∀ text ∈ texts, '\n' ∉ text := fun text htext hfeed =>
    ((hlined lines).mpr rfl).notMem _ (hmem text htext)
      ((Json.mem_encode_iff (d := '\n') (by decide)).mpr hfeed)
  have hreceived := received_flatMap_frame hfree
  refine ⟨lines, texts, hlined, hprefix, ?_, ?_, ?_, ?_, hreceived, ?_⟩
  · intro line hline
    have hlength : texts.length = (lines.takeWhile isText).length := by
      rw [← htexts, List.length_map]
    rw [hlength] at hline
    simpa [isText] using isText_of_getElem?_takeWhile hline
  · simp only [Server.journal, hrun]
  · simp only [Server.journal, hrun]
    rw [ofOutput, ← encode_flatMap_frame, htexts]
  · intro text _ hne hret
    rw [frame, if_neg hne, marked_of_notMem hret]
  · intro hall
    have hplain : ∀ text ∈ texts, text ≠ [] ∧ '\r' ∉ text := by
      intro text htext
      obtain ⟨-, hne, hret⟩ := hall _ (hmem text htext)
      exact ⟨fun h => hne (by rw [h]; rfl),
        fun h => hret ((Json.mem_encode_iff (d := '\r') (by decide)).mpr h)⟩
    have hsame : ∀ text ∈ texts, (text.map fun c => if c = '\r' then '\n' else c) = text := by
      intro text htext
      have hself : ∀ c ∈ text, (if c = '\r' then '\n' else c) = c := by
        intro c hc
        apply if_neg
        rintro rfl
        exact (hplain text htext).2 hc
      rw [List.map_congr_left hself, List.map_id']
    rw [hreceived, List.filter_eq_self.mpr fun text htext => by simpa using (hplain text htext).1,
      List.map_congr_left hsame, List.map_id', htexts]
    exact List.takeWhile_eq_self_iff.mpr fun line hline => (hall line hline).1

def printing (bytes : List UInt8) : Runner Unit := fun _ _ d => (.ok ⟨bytes, [], 0⟩, d)

/-- Two lines, which end in different ways, are received as they are. -/
theorem journal_received_two :
    ∃ texts : List (List Char),
      (Server.journal (Host.ofRunner .boundless (printing (Text.utf8 "one\r\ntwo"))) []
        (.of .empty ())).response.body = encode (texts.flatMap frame) ∧
      (received (texts.flatMap frame)).map encode = [Text.utf8 "one", Text.utf8 "two"] := by
  obtain ⟨lines, texts, hlined, -, -, -, hbody, -, -, hreceived⟩ :=
    journal_received (Host.ofRunner .boundless (printing (Text.utf8 "one\r\ntwo"))) []
      (.of .empty ()) rfl
  have hlines : [Text.utf8 "one", Text.utf8 "two"] = lines :=
    (hlined _).mp ((Text.lined_iff (by decide)).mpr (by decide))
  refine ⟨texts, hbody, hlines ▸ hreceived ?_⟩
  rw [← hlines]
  decide

/-- An empty line between two others is lost. -/
theorem empty_line_lost :
    let output := Text.utf8 "a\n\nb\n"
    Text.Lined 0x0A 0x0D output [Text.utf8 "a", [], Text.utf8 "b"] ∧
    ofOutput output ≠ [Text.utf8 "a", [], Text.utf8 "b"].flatMap
      (fun line => Text.utf8 "data: " ++ line ++ Text.utf8 "\n\n") ∧
    ofOutput output = encode "data: a\n\n\ndata: b\n\n".toList ∧
    received "data: a\n\n\ndata: b\n\n".toList = [['a'], ['b']] := by
  refine ⟨?_, ?_, ?_, ?_⟩
  · exact (Text.lined_iff (by decide)).mpr (by decide)
  · decide
  · decide
  · decide

end EventStream

end Provision
