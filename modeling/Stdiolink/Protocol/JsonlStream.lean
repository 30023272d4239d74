/-
  Stdiolink.Protocol.JsonlStream — the JSON-lines transport, from the sender to the reader.

  `serializeRequest` and `serializeResponse` of `protocol/jsonl_serializer.cpp`, and
  `JsonlParser` of `protocol/jsonl_stream_parser.cpp`.  Qt's compact JSON writer is a parameter
  beside its reader; what is asked of the two is `ReadsBack`, about one object.

  Main results:
    • `framed_run`         — what a parser gave out and what it keeps are the bytes it was fed;
    • `lines_returned`     — however a stream of lines is cut, they come out whole and in order;
    • `transport_faithful` — the requests, or the messages, that were sent are read;
    • `bytes_split`        — any bytes, however cut, are split at the newlines.
-/
import Stdiolink.Lib.Lines
import Stdiolink.Lib.Machine
import Stdiolink.Protocol.Jsonl

namespace Stdiolink.Protocol

open Lib

/-! ## §1. Writing a line. -/

/-- `QJsonDocument(object).toJson(QJsonDocument::Compact)`. -/
abbrev ToJson := List (String × Json) → List UInt8

/-- The object of `serializeRequest`. -/
def requestObject (cmd : String) (data : Json) : List (String × Json) :=
  let req := Json.put [] ("cmd", .str cmd)
  if data.isNullish then req else Json.put req ("data", data)

def serializeRequest (toJson : ToJson) (cmd : String) (data : Json) : List UInt8 :=
  toJson (requestObject cmd data) ++ [newline]

/-- The object of `serializeResponse`. -/
def responseObject (status : String) (code : Int) (payload : Json) : List (String × Json) :=
  let resp := Json.put [] ("status", .str status)
  let resp := Json.put resp ("code", .num code)
  -- an undefined payload stores nothing
  Json.put resp ("data", payload)

def serializeResponse (toJson : ToJson) (status : String) (code : Int) (payload : Json) :
    List UInt8 :=
  toJson (responseObject status code payload) ++ [newline]

/-- The text of a status. -/
def Status.toString : Status → String
  | .event => "event"
  | .done => "done"
  | .error => "error"

theorem Status.ofString_toString (status : Status) : ofString status.toString = some status := by
  cases status <;> decide

/-- What is asked of Qt about one object: its compact text is one line, and parses back to it. -/
structure ReadsBack (toJson : ToJson) (fromJson : FromJson) (obj : List (String × Json)) :
    Prop where
  line : newline ∉ toJson obj
  value : fromJson (toJson obj) = some (.obj obj)

/-- A value with null taken as absent. -/
def absentIfNull (data : Json) : Json := if data.isNullish then .undefined else data

theorem parseRequest_written {toJson : ToJson} {fromJson : FromJson} {cmd : String} {data : Json}
    (h : ReadsBack toJson fromJson (requestObject cmd data)) :
    parseRequest fromJson (toJson (requestObject cmd data)) =
      some { cmd := cmd, data := absentIfNull data } := by
  have hcmd : Json.value (requestObject cmd data) "cmd" = .str cmd := by
    unfold requestObject
    split
    · rw [Json.value_put]
      simp
    · rw [Json.value_put, Json.value_put]
      simp
  have hdata : Json.value (requestObject cmd data) "data" = absentIfNull data := by
    unfold requestObject absentIfNull
    split
    · rw [Json.value_put]
      simp
    · rename_i hnullish
      have hdefined : data ≠ .undefined := by
        intro hundefined
        rw [hundefined] at hnullish
        exact hnullish rfl
      rw [Json.value_put, if_pos ⟨rfl, hdefined⟩]
  unfold parseRequest
  rw [h.value]
  simp only [hcmd, hdata]

theorem parseResponse_written {toJson : ToJson} {fromJson : FromJson} {msg : Message}
    (hcode : -2147483648 ≤ msg.code ∧ msg.code ≤ 2147483647)
    (h : ReadsBack toJson fromJson (responseObject msg.status.toString msg.code msg.payload)) :
    parseResponse fromJson (toJson (responseObject msg.status.toString msg.code msg.payload)) =
      some msg := by
  -- the writes, as one table
  have htable : responseObject msg.status.toString msg.code msg.payload =
      Json.record [("status", .str msg.status.toString), ("code", .num msg.code),
        ("data", msg.payload)] := rfl
  have hvalue : ∀ key, Json.value (responseObject msg.status.toString msg.code msg.payload) key =
      Json.value [("status", .str msg.status.toString), ("code", .num msg.code),
        ("data", msg.payload)] key := by
    intro key
    rw [htable]
    apply Json.value_record
    simp
  have hkey := Json.defined_record [("status", .str msg.status.toString), ("code", .num msg.code),
    ("data", msg.payload)]
  rw [← htable] at hkey
  -- the code is an integer that fits
  have hint : (Json.num msg.code).toInt = msg.code := by
    rw [Json.toInt, Rat.den_intCast, Rat.num_intCast, if_pos ⟨rfl, hcode⟩]
  unfold parseResponse
  rw [h.value]
  simp only [hkey _, hvalue, Json.value_cons]
  simp [Json.toStr, Status.ofString_toString, hint]

/-! ## §2. The parser and its buffer. -/

/-- `JsonlParser`, by its `m_buffer`. -/
structure JsonlParser where
  buffer : List UInt8 := []

namespace JsonlParser

def append (parser : JsonlParser) (data : List UInt8) : JsonlParser :=
  { buffer := parser.buffer ++ data }

/-- The line, without its newline, and the parser without both; or false. -/
def tryReadLine (parser : JsonlParser) : Option (List UInt8 × JsonlParser) :=
  (cutLine newline parser.buffer).map fun (line, rest) => (line, { buffer := rest })

end JsonlParser

/-- One call of a parser's user. -/
inductive ParserCall where
  | append (data : List UInt8)
  | tryReadLine

/-- The bytes that a call feeds. -/
def ParserCall.fed : ParserCall → List UInt8
  | .append data => data
  | .tryReadLine => []

/-- A parser in use; the lines that it gives out are observed. -/
def jsonlParser : Machine JsonlParser ParserCall (List UInt8) where
  step parser
    | .append data => (parser.append data, [])
    | .tryReadLine =>
      match parser.tryReadLine with
      | none => (parser, [])
      | some (line, parser') => (parser', [line])

/-- What went in is what came out, line by line, and then what is kept. -/
structure Framed (fed : List UInt8) (c : Machine.Config JsonlParser (List UInt8)) : Prop where
  lines : ∀ line ∈ c.history, newline ∉ line
  bytes : frame newline c.history ++ c.state.buffer = fed

theorem framed_next {fed : List UInt8} {c : Machine.Config JsonlParser (List UInt8)}
    (h : Framed fed c) (call : ParserCall) :
    Framed (fed ++ call.fed) (jsonlParser.next c call) := by
  cases call with
  | append data =>
    have hnext : jsonlParser.next c (.append data) = ⟨c.state.append data, c.history ++ []⟩ := rfl
    rw [hnext, List.append_nil]
    constructor
    · exact h.lines
    · show frame newline c.history ++ (c.state.buffer ++ data) = fed ++ data
      rw [← List.append_assoc, h.bytes]
  | tryReadLine =>
    show Framed (fed ++ []) _
    rw [List.append_nil]
    cases hcut : cutLine newline c.state.buffer with
    | none =>
      -- no line is complete: nothing happens
      have hnext : jsonlParser.next c .tryReadLine = ⟨c.state, c.history ++ []⟩ := by
        unfold Machine.next
        simp [jsonlParser, JsonlParser.tryReadLine, hcut]
      rw [hnext, List.append_nil]
      exact h
    | some cut =>
      obtain ⟨line, rest⟩ := cut
      obtain ⟨hline, hbuffer⟩ := cutLine_eq_some.mp hcut
      have hnext : jsonlParser.next c .tryReadLine = ⟨{ buffer := rest }, c.history ++ [line]⟩ := by
        unfold Machine.next
        simp [jsonlParser, JsonlParser.tryReadLine, hcut]
      rw [hnext]
      constructor
      · intro line' hmem
        obtain hmem | hmem := List.mem_append.mp hmem
        · exact h.lines line' hmem
        · rw [List.mem_singleton.mp hmem]
          exact hline
      · show frame newline (c.history ++ [line]) ++ rest = fed
        rw [frame_append, ← h.bytes, hbuffer]
        simp

/-- **The parser loses nothing**: after any calls, the lines it gave out and the bytes it keeps
are what it was fed. -/
theorem framed_run {fed : List UInt8} {c : Machine.Config JsonlParser (List UInt8)}
    (h : Framed fed c) (calls : List ParserCall) :
    Framed (fed ++ calls.flatMap ParserCall.fed) (jsonlParser.run c calls) := by
  induction calls generalizing fed c with
  | nil =>
    show Framed (fed ++ []) c
    rw [List.append_nil]
    exact h
  | cons call calls ih =>
    show Framed (fed ++ (call.fed ++ calls.flatMap ParserCall.fed)) _
    rw [← List.append_assoc]
    exact ih (framed_next h call)

/-- Complete lines in the buffer are read one by one, and then nothing: what comes after the last
newline stays. -/
theorem run_tryReadLine {lines : List (List UInt8)} (hlines : ∀ line ∈ lines, newline ∉ line)
    {rest : List UInt8} (hrest : newline ∉ rest) (history : List (List UInt8)) (more : Nat) :
    jsonlParser.run ⟨{ buffer := frame newline lines ++ rest }, history⟩
        (List.replicate (lines.length + more) .tryReadLine) =
      ⟨{ buffer := rest }, history ++ lines⟩ := by
  induction lines generalizing history with
  | nil =>
    have hstay : jsonlParser.next ⟨{ buffer := rest }, history⟩ .tryReadLine =
        ⟨{ buffer := rest }, history⟩ := by
      simp [Machine.next, jsonlParser, JsonlParser.tryReadLine, cutLine_eq_none.mpr hrest]
    rw [frame_nil, List.nil_append, List.append_nil, List.length_nil, Nat.zero_add]
    induction more with
    | zero => rfl
    | succ more ih => rw [List.replicate_succ, Machine.run_cons, hstay, ih]
  | cons line lines ih =>
    have hcut : cutLine newline (frame newline (line :: lines) ++ rest) =
        some (line, frame newline lines ++ rest) := by
      rw [cutLine_eq_some, frame_cons]
      exact ⟨hlines line (by simp), by simp⟩
    have hnext : jsonlParser.next ⟨{ buffer := frame newline (line :: lines) ++ rest }, history⟩
        .tryReadLine = ⟨{ buffer := frame newline lines ++ rest }, history ++ [line]⟩ := by
      simp only [Machine.next, jsonlParser, JsonlParser.tryReadLine, hcut, Option.map_some]
    rw [List.length_cons, Nat.add_right_comm, List.replicate_succ, Machine.run_cons, hnext,
      ih fun l hl => hlines l (List.mem_cons_of_mem _ hl), List.append_assoc]
    rfl

/-- **However a stream of lines is cut**, and however often a line is asked for in between, the
lines come out whole and in order once there were calls enough for all of them. -/
theorem lines_returned {lines : List (List UInt8)} (hlines : ∀ line ∈ lines, newline ∉ line)
    {calls : List ParserCall} (hfed : calls.flatMap ParserCall.fed = frame newline lines)
    (more : Nat) :
    jsonlParser.run (Machine.start {})
        (calls ++ List.replicate (lines.length + more) .tryReadLine) =
      ⟨{ buffer := [] }, lines⟩ := by
  have hstart : Framed [] (Machine.start ({} : JsonlParser)) := by
    constructor
    · intro line hline
      cases hline
    · rfl
  have hrun := framed_run hstart calls
  rw [List.nil_append, hfed] at hrun
  -- the lines given out so far are the first ones, and the others are in the buffer
  obtain ⟨left, hleft, hbuffer⟩ := frame_prefix hrun.lines hlines List.not_mem_nil
    (hrun.bytes.trans (List.append_nil _).symm)
  rw [List.append_nil] at hbuffer
  have hcount : lines.length + more =
      left.length + ((jsonlParser.run (Machine.start {}) calls).history.length + more) := by
    rw [hleft, List.length_append]
    omega
  have hstate : jsonlParser.run (Machine.start {}) calls =
      ⟨{ buffer := frame newline left ++ [] },
        (jsonlParser.run (Machine.start {}) calls).history⟩ := by
    rw [List.append_nil, ← hbuffer]
  have hlinesLeft : ∀ line ∈ left, newline ∉ line := by
    intro line hline
    apply hlines
    rw [hleft]
    exact List.mem_append_right _ hline
  rw [Machine.run_append, hcount, hstate, run_tryReadLine hlinesLeft List.not_mem_nil]
  show (⟨{ buffer := [] }, (jsonlParser.run (Machine.start {}) calls).history ++ left⟩ :
    Machine.Config JsonlParser (List UInt8)) = ⟨{ buffer := [] }, lines⟩
  rw [← hleft]

/-! ## §3. From the sender to the reader. -/

section Transport

variable {α : Type*} (text : α → List UInt8)

/-- What a sequence of items is as a stream, one line an item. -/
theorem stream_eq (items : List α) :
    (items.flatMap fun item => text item ++ [newline]) = frame newline (items.map text) := by
  unfold frame
  rw [List.flatMap_map]

variable {text}

/-- The items that were sent are read, whatever the parse of one text is. -/
theorem items_read {β : Type*} {items : List α} {parse : List UInt8 → Option β} {read : α → β}
    (hline : ∀ item ∈ items, newline ∉ text item)
    (hparse : ∀ item ∈ items, parse (text item) = some (read item)) {calls : List ParserCall}
    (hfed : calls.flatMap ParserCall.fed = items.flatMap fun item => text item ++ [newline])
    (more : Nat) {c : Machine.Config JsonlParser (List UInt8)}
    (hc : c = jsonlParser.run (Machine.start {})
      (calls ++ List.replicate (items.length + more) .tryReadLine)) :
    c.history.map parse = items.map (fun item => some (read item)) ∧ c.state.buffer = [] := by
  have hlines : ∀ line ∈ items.map text, newline ∉ line := by
    intro line hmem
    obtain ⟨item, hitem, heq⟩ := List.mem_map.mp hmem
    rw [← heq]
    exact hline item hitem
  have hreturned := lines_returned hlines (hfed.trans (stream_eq text items)) more
  rw [List.length_map] at hreturned
  rw [hc, hreturned]
  constructor
  · show (items.map text).map parse = _
    rw [List.map_map]
    apply List.map_congr_left
    intro item hitem
    exact hparse item hitem
  · rfl

end Transport

/-- A parser is fed with the chunks among these calls, and then asked for lines: as often as there
are items, or more often. -/
def readAll (calls : List ParserCall) (items more : Nat) :
    Machine.Config JsonlParser (List UInt8) :=
  jsonlParser.run (Machine.start {}) (calls ++ List.replicate (items + more) .tryReadLine)

/-- **The transport is faithful.**  The lines of a sequence of requests, or of messages, are cut
into chunks anywhere and fed to one parser, with any calls of `tryReadLine` in between.  What is
read is the sequence, a null `data` of a request as an absent one, and no byte is left. -/
theorem transport_faithful (toJson : ToJson) (fromJson : FromJson) (calls : List ParserCall)
    (more : Nat) :
    (∀ requests : List Request,
      (∀ req ∈ requests, ReadsBack toJson fromJson (requestObject req.cmd req.data)) →
      calls.flatMap ParserCall.fed =
        requests.flatMap (fun req => serializeRequest toJson req.cmd req.data) →
      (readAll calls requests.length more).history.map (parseRequest fromJson) =
          requests.map (fun req => some { cmd := req.cmd, data := absentIfNull req.data }) ∧
        (readAll calls requests.length more).state.buffer = []) ∧
    (∀ messages : List Message,
      (∀ msg ∈ messages, ReadsBack toJson fromJson
        (responseObject msg.status.toString msg.code msg.payload)) →
      (∀ msg ∈ messages, -2147483648 ≤ msg.code ∧ msg.code ≤ 2147483647) →
      calls.flatMap ParserCall.fed =
        messages.flatMap (fun msg =>
          serializeResponse toJson msg.status.toString msg.code msg.payload) →
      (readAll calls messages.length more).history.map (parseResponse fromJson) =
          messages.map some ∧
        (readAll calls messages.length more).state.buffer = []) := by
  constructor
  · intro requests hqt hfed
    apply items_read _ _ hfed more rfl
    · intro req hreq
      exact (hqt req hreq).line
    · intro req hreq
      exact parseRequest_written (hqt req hreq)
  · intro messages hqt hcode hfed
    apply items_read _ _ hfed more rfl
    · intro msg hmsg
      exact (hqt msg hmsg).line
    · intro msg hmsg
      exact parseResponse_written (hcode msg hmsg) (hqt msg hmsg)

/-- The bytes of an ASCII text. -/
def plainText (text : String) : List UInt8 := text.toList.map fun ch => ch.toNat.toUInt8

/-- The compact texts of one request and of one message. -/
def scanText : List UInt8 := plainText "\x7b\x22cmd\x22:\x22scan\x22\x7d"

def oneText : List UInt8 :=
  plainText "\x7b\x22code\x22:0,\x22data\x22:1,\x22status\x22:\x22done\x22\x7d"

/-- `QJsonDocument` on these texts, to write and to read. -/
def scanWriter (obj : List (String × Json)) : List UInt8 :=
  if Json.hasKey obj "cmd" then scanText else oneText

def scanReader (line : List UInt8) : Option Json :=
  if line = scanText then some (.obj [("cmd", .str "scan")])
  else if line = oneText then
    some (.obj [("code", .num 0), ("data", .num 1), ("status", .str "done")])
  else none

theorem scanReader_reads_request :
    ReadsBack scanWriter scanReader (requestObject "scan" .null) where
  line := by decide +kernel
  value := by decide +kernel

theorem scanReader_reads_response :
    ReadsBack scanWriter scanReader (responseObject "done" 0 (.num 1)) where
  line := by decide +kernel
  value := by decide +kernel

/-- A request cut behind its fifth byte, and a message in one piece. -/
theorem transport_faithful_scan :
    ((readAll [.append (scanText.take 5), .tryReadLine, .append (scanText.drop 5 ++ [newline])]
        1 0).history.map (parseRequest scanReader) =
        [some { cmd := "scan", data := .undefined }] ∧
      (readAll [.append (scanText.take 5), .tryReadLine, .append (scanText.drop 5 ++ [newline])]
        1 0).state.buffer = []) ∧
    ((readAll [.append (oneText ++ [newline])] 1 3).history.map (parseResponse scanReader) =
        [some { status := .done, code := 0, payload := .num 1 }] ∧
      (readAll [.append (oneText ++ [newline])] 1 3).state.buffer = []) := by
  constructor
  · apply (transport_faithful scanWriter scanReader _ 0).1 [{ cmd := "scan", data := .null }]
    · intro req hreq
      rw [List.mem_singleton.mp hreq]
      exact scanReader_reads_request
    · decide +kernel
  · apply (transport_faithful scanWriter scanReader _ 3).2
      [{ status := .done, code := 0, payload := .num 1 }]
    · intro msg hmsg
      rw [List.mem_singleton.mp hmsg]
      exact scanReader_reads_response
    · intro msg hmsg
      rw [List.mem_singleton.mp hmsg]
      decide
    · decide +kernel

/-! ## §4. Any bytes. -/

/-- **Any bytes, in any chunks**: after calls enough, the lines and what is kept are what is between
the newlines. -/
theorem bytes_split (calls : List ParserCall) (more : Nat) :
    let pieces := (calls.flatMap ParserCall.fed).splitOn newline
    let c := jsonlParser.run (Machine.start {})
      (calls ++ List.replicate (pieces.length + more) .tryReadLine)
    c.history ++ [c.state.buffer] = pieces := by
  have hstart : Framed [] (Machine.start ({} : JsonlParser)) :=
    ⟨fun line hline => absurd hline List.not_mem_nil, rfl⟩
  have hrun := framed_run hstart calls
  rw [List.nil_append] at hrun
  -- the lines given out so far, the others that are complete, and the rest
  obtain ⟨lines, rest, hlines, hrest, hbuffer⟩ :=
    exists_frame newline (jsonlParser.run (Machine.start {}) calls).state.buffer
  have hpieces : (calls.flatMap ParserCall.fed).splitOn newline =
      (jsonlParser.run (Machine.start {}) calls).history ++ lines ++ [rest] := by
    rw [← hrun.bytes, hbuffer, ← List.append_assoc, ← frame_append, splitOn_frame _ hrest]
    intro line hline
    exact (List.mem_append.mp hline).elim (hrun.lines line) (hlines line)
  intro pieces c
  have hcount : pieces.length + more = lines.length +
      ((jsonlParser.run (Machine.start {}) calls).history.length + 1 + more) := by
    show (List.splitOn _ _).length + more = _
    rw [hpieces, List.length_append, List.length_append, List.length_singleton]
    omega
  have hc : c = ⟨{ buffer := rest }, (jsonlParser.run (Machine.start {}) calls).history ++ lines⟩ := by
    show jsonlParser.run _ (calls ++ List.replicate (pieces.length + more) _) = _
    rw [Machine.run_append, hcount, ← run_tryReadLine hlines hrest, ← hbuffer]
  rw [hc]
  exact hpieces.symm

end Stdiolink.Protocol
