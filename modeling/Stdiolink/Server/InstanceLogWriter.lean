/-
  Stdiolink.Server.InstanceLogWriter — the log of an instance, `manager/instance_log_writer.cpp`.

  What an instance writes to its two output streams arrives in chunks.  The writer hands the
  complete lines to its logger, hands over a line that grows too long in pieces, and at the end
  what is left.  Each text goes to the logger as a C string, so it ends at its first zero byte.

  Main results:
    * `Assembled.append`, `Assembled.close` — what was handed over and what is still kept are, line
      by line, what came in;
    * `log_faithful_iff` — both streams are logged as they came exactly when they hold no zero byte;
    * `zero_byte_truncates` — three bytes with a zero in the middle.
-/
import Stdiolink.Lib.Bytes
import Stdiolink.Lib.Lines
import Stdiolink.Lib.Machine
import Stdiolink.Protocol.Jsonl

namespace Stdiolink.Server

open Stdiolink.Lib
open Stdiolink.Protocol (newline)

/-! ## §1. The writer -/

inductive LogStream where
  | stdout
  | stderr
  deriving DecidableEq

/-- A text handed to the logger, on behalf of a stream. -/
structure LogMessage where
  stream : LogStream
  text : List UInt8
  deriving DecidableEq

/-- `"[stderr] "`, or nothing. -/
def LogStream.prefixText : LogStream → List UInt8
  | .stdout => []
  | .stderr => [91, 115, 116, 100, 101, 114, 114, 93, 32]

/-- The text that a piece of the stream is logged as; the logger gets `constData()`, a C string. -/
def LogStream.message (stream : LogStream) (piece : List UInt8) : LogMessage :=
  ⟨stream, stream.prefixText ++ cString piece⟩

/-- `InstanceLogWriter`; `logger` says whether the log file could be opened. -/
structure InstanceLogWriter where
  logger : Bool := true
  stdoutBuf : List UInt8 := []
  stderrBuf : List UInt8 := []

namespace InstanceLogWriter

def kMaxBufferBytes : Nat := 1024 * 1024

/-- `processBuffer`: the messages, and what is left of the buffer. -/
def processBuffer (logger : Bool) (stream : LogStream) (buf : List UInt8) :
    List LogMessage × List UInt8 :=
  if !logger then ([], [])
  else forLines newline (fun logged line => (logged ++ [stream.message line], false)) [] buf

/-- `appendStdout` and `appendStderr` on their buffer. -/
def appendTo (logger : Bool) (stream : LogStream) (buf data : List UInt8) :
    List LogMessage × List UInt8 :=
  let processed := processBuffer logger stream (buf ++ data)
  if processed.2.length > kMaxBufferBytes then
    (processed.1 ++ if logger then [stream.message processed.2] else [], [])
  else processed

def appendStdout (data : List UInt8) (w : InstanceLogWriter) :
    InstanceLogWriter × List LogMessage :=
  let r := appendTo w.logger .stdout w.stdoutBuf data
  ({ w with stdoutBuf := r.2 }, r.1)

def appendStderr (data : List UInt8) (w : InstanceLogWriter) :
    InstanceLogWriter × List LogMessage :=
  let r := appendTo w.logger .stderr w.stderrBuf data
  ({ w with stderrBuf := r.2 }, r.1)

/-- What the destructor does with a buffer. -/
def flush (stream : LogStream) (buf : List UInt8) : List LogMessage :=
  if buf = [] then [] else [stream.message buf]

/-- `~InstanceLogWriter`. -/
def destroy (w : InstanceLogWriter) : List LogMessage :=
  if !w.logger then [] else flush .stdout w.stdoutBuf ++ flush .stderr w.stderrBuf

end InstanceLogWriter

/-- A chunk of one of the streams. -/
structure LogChunk where
  stream : LogStream
  data : List UInt8

open InstanceLogWriter

/-- A writer that gets chunks. -/
def logWriter : Machine InstanceLogWriter LogChunk LogMessage where
  step w chunk :=
    match chunk.stream with
    | .stdout => w.appendStdout chunk.data
    | .stderr => w.appendStderr chunk.data

/-- All that a writer logs of these chunks, its destruction included. -/
def logged (w : InstanceLogWriter) (chunks : List LogChunk) : List LogMessage :=
  let c := logWriter.run (Machine.start w) chunks
  c.history ++ c.state.destroy

/-! ## §2. What should be logged -/

/-- The bytes of a stream. -/
def streamBytes (stream : LogStream) (chunks : List LogChunk) : List UInt8 :=
  chunks.flatMap fun chunk => if chunk.stream = stream then chunk.data else []

/-- The texts logged for a stream, without its prefix. -/
def streamTexts (stream : LogStream) (messages : List LogMessage) : List (List UInt8) :=
  (messages.filter (·.stream = stream)).map fun m => m.text.drop stream.prefixText.length

/-- A line comes in one piece, or, if it is longer than the buffer may be, in pieces that make it
up. -/
def Pieces (line : List UInt8) (pieces : List (List UInt8)) : Prop :=
  pieces ≠ [] ∧ pieces.flatten = line ∧ (line.length ≤ kMaxBufferBytes → pieces = [line])

/-- The texts are the lines, one after another, those that are too long in pieces. -/
def LoggedAs (lines texts : List (List UInt8)) : Prop :=
  ∃ groups, List.Forall₂ Pieces lines groups ∧ texts = groups.flatten

/-- Where no line is too long, the texts are the lines. -/
theorem LoggedAs.eq {lines texts : List (List UInt8)} (h : LoggedAs lines texts)
    (hshort : ∀ line ∈ lines, line.length ≤ kMaxBufferBytes) : texts = lines := by
  obtain ⟨groups, hgroups, rfl⟩ := h
  induction hgroups with
  | nil => rfl
  | cons hpieces hrest ih =>
    rw [List.flatten_cons, hpieces.2.2 (hshort _ (by simp)),
      ih fun line hline => hshort line (List.mem_cons_of_mem _ hline)]
    rfl

/-- **Nothing is lost or altered** of a stream: its texts are its lines, and exactly its lines where
none is too long. -/
structure Faithful (stream : LogStream) (chunks : List LogChunk) (messages : List LogMessage) :
    Prop where
  pieces : LoggedAs (textLines newline (streamBytes stream chunks)) (streamTexts stream messages)
  whole : (∀ line ∈ textLines newline (streamBytes stream chunks), line.length ≤ kMaxBufferBytes) →
    streamTexts stream messages = textLines newline (streamBytes stream chunks)

/-! ## §3. One stream -/

/-- What has been handed over of these bytes, and what is kept.  The complete lines are in `groups`,
one group of pieces for each; `flushed` are the pieces of the line that is not complete yet. -/
structure AssembledAs (bytes : List UInt8) (pieces : List (List UInt8)) (buf : List UInt8)
    (lines : List (List UInt8)) (groups : List (List (List UInt8))) (flushed : List (List UInt8)) :
    Prop where
  fed : bytes = frame newline lines ++ (flushed.flatten ++ buf)
  handed : pieces = groups.flatten ++ flushed
  complete : ∀ line ∈ lines, newline ∉ line
  grouped : List.Forall₂ Pieces lines groups
  unbroken : newline ∉ flushed.flatten
  long : flushed ≠ [] → kMaxBufferBytes < flushed.flatten.length

def Assembled (bytes : List UInt8) (pieces : List (List UInt8)) (buf : List UInt8) : Prop :=
  ∃ lines groups flushed, AssembledAs bytes pieces buf lines groups flushed

namespace Assembled

/-- Nothing has been handed over yet. -/
theorem unread (buf : List UInt8) : Assembled buf [] buf :=
  ⟨[], [], [], rfl, rfl, by simp, .nil, by simp, by simp⟩

variable {bytes buf : List UInt8} {pieces : List (List UInt8)}

/-- Bytes arrive. -/
theorem feed (h : Assembled bytes pieces buf) (data : List UInt8) :
    Assembled (bytes ++ data) pieces (buf ++ data) := by
  obtain ⟨lines, groups, flushed, hbytes, hpieces, hlines, hgroups, hflushed, hlong⟩ := h
  refine ⟨lines, groups, flushed, ?_, hpieces, hlines, hgroups, hflushed, hlong⟩
  rw [hbytes, List.append_assoc, List.append_assoc]

/-- The last piece of a line, after those that were flushed. -/
theorem pieces_of_flushed {flushed : List (List UInt8)} {line : List UInt8}
    (hlong : flushed ≠ [] → kMaxBufferBytes < flushed.flatten.length) :
    Pieces (flushed.flatten ++ line) (flushed ++ [line]) := by
  refine ⟨by simp, by simp, ?_⟩
  intro hshort
  rw [List.length_append] at hshort
  -- nothing is flushed of a short line
  have hnil : flushed = [] := by
    by_contra hne
    have := hlong hne
    omega
  rw [hnil]
  rfl

/-- A complete line is handed over. -/
theorem line {bytes line rest : List UInt8} {pieces : List (List UInt8)}
    (h : Assembled bytes pieces (line ++ newline :: rest)) (hline : newline ∉ line) :
    Assembled bytes (pieces ++ [line]) rest := by
  obtain ⟨lines, groups, flushed, hbytes, hpieces, hlines, hgroups, hflushed, hlong⟩ := h
  refine ⟨lines ++ [flushed.flatten ++ line], groups ++ [flushed ++ [line]], [], ?_, ?_, ?_, ?_,
    by simp, by simp⟩
  · rw [hbytes, frame_append]
    simp
  · rw [hpieces]
    simp
  · intro l hl
    obtain hl | hl := List.mem_append.mp hl
    · exact hlines l hl
    · rw [List.mem_singleton.mp hl, List.mem_append, not_or]
      exact ⟨hflushed, hline⟩
  · exact List.rel_append hgroups (.cons (pieces_of_flushed hlong) .nil)

/-- A line that has grown too long is handed over as far as it is there. -/
theorem overflow (h : Assembled bytes pieces buf) (hbuf : newline ∉ buf)
    (hover : kMaxBufferBytes < buf.length) :
    Assembled bytes (pieces ++ [buf]) [] := by
  obtain ⟨lines, groups, flushed, hbytes, hpieces, hlines, hgroups, hflushed, hlong⟩ := h
  refine ⟨lines, groups, flushed ++ [buf], ?_, ?_, hlines, hgroups, ?_, ?_⟩
  · rw [hbytes]
    simp
  · rw [hpieces, List.append_assoc]
  · simp only [List.flatten_append, List.flatten_cons, List.flatten_nil, List.append_nil,
      List.mem_append, not_or]
    exact ⟨hflushed, hbuf⟩
  · intro _
    simp only [List.flatten_append, List.flatten_cons, List.flatten_nil, List.append_nil,
      List.length_append]
    omega

/-- The loop over the complete lines. -/
theorem processBuffer (h : Assembled bytes pieces buf) (stream : LogStream) :
    let r := InstanceLogWriter.processBuffer true stream buf
    ∃ more, r.1 = more.map stream.message ∧ Assembled bytes (pieces ++ more) r.2 ∧
      newline ∉ r.2 := by
  show ∃ more, (forLines newline _ [] buf).1 = _ ∧ _
  apply forLines_rule
    (fun logged buf => ∃ more, logged = more.map stream.message ∧
      Assembled bytes (pieces ++ more) buf)
    (fun logged buf => ∃ more, logged = more.map stream.message ∧
      Assembled bytes (pieces ++ more) buf ∧ newline ∉ buf)
  · rintro logged line rest hline ⟨more, rfl, hmore⟩
    refine ⟨more ++ [line], by simp, ?_⟩
    rw [← List.append_assoc]
    exact hmore.line hline
  · rintro logged buf hbuf ⟨more, hlogged, hmore⟩
    exact ⟨more, hlogged, hmore, hbuf⟩
  · exact ⟨[], rfl, by simpa using h⟩

/-- **A chunk arrives.** -/
theorem append (h : Assembled bytes pieces buf) (stream : LogStream) (data : List UInt8) :
    let r := appendTo true stream buf data
    ∃ more, r.1 = more.map stream.message ∧ Assembled (bytes ++ data) (pieces ++ more) r.2 ∧
      newline ∉ r.2 := by
  obtain ⟨more, hlogged, hmore, hbuf⟩ := (h.feed data).processBuffer stream
  unfold appendTo
  dsimp only
  by_cases hover : (InstanceLogWriter.processBuffer true stream (buf ++ data)).2.length >
      kMaxBufferBytes
  · rw [if_pos hover]
    refine ⟨more ++ [(InstanceLogWriter.processBuffer true stream (buf ++ data)).2], ?_, ?_,
      by simp⟩
    · show _ ++ [_] = _
      rw [hlogged, List.map_append]
      rfl
    · rw [← List.append_assoc]
      exact hmore.overflow hbuf hover
  · rw [if_neg hover]
    exact ⟨more, hlogged, hmore, hbuf⟩

/-- **The end of the stream**: what is kept is handed over, and the pieces are the lines. -/
theorem close (h : Assembled bytes pieces buf) (hbuf : newline ∉ buf) :
    ∃ groups, List.Forall₂ Pieces (textLines newline bytes) groups ∧
      pieces ++ (if buf = [] then [] else [buf]) = groups.flatten := by
  obtain ⟨lines, groups, flushed, hbytes, hpieces, hlines, hgroups, hflushed, hlong⟩ := h
  have hrest : newline ∉ flushed.flatten ++ buf := by
    rw [List.mem_append, not_or]
    exact ⟨hflushed, hbuf⟩
  rw [hbytes, textLines_frame hlines hrest, hpieces]
  by_cases hempty : flushed.flatten ++ buf = []
  · -- no line is open: something flushed would be long
    obtain ⟨hnone, rfl⟩ := List.append_eq_nil_iff.mp hempty
    have hflushed : flushed = [] := by
      by_contra hne
      have hlength := hlong hne
      rw [hnone] at hlength
      exact absurd hlength (by simp)
    rw [if_pos hempty, hflushed]
    exact ⟨groups, hgroups, by simp⟩
  · rw [if_neg hempty]
    by_cases hnil : buf = []
    · subst hnil
      rw [List.append_nil] at hempty
      have hne : flushed ≠ [] := by
        rintro rfl
        exact hempty rfl
      have hpieces : Pieces (flushed.flatten ++ []) flushed := by
        refine ⟨hne, by simp, ?_⟩
        intro hshort
        rw [List.append_nil] at hshort
        exact absurd (hlong hne) (by omega)
      exact ⟨groups ++ [flushed], List.rel_append hgroups (.cons hpieces .nil), by simp⟩
    · rw [if_neg hnil]
      exact ⟨groups ++ [flushed ++ [buf]],
        List.rel_append hgroups (.cons (pieces_of_flushed hlong) .nil), by simp⟩

end Assembled

/-! ## §4. Runs -/

namespace InstanceLogWriter

/-- The buffer of a stream. -/
def buf (w : InstanceLogWriter) : LogStream → List UInt8
  | .stdout => w.stdoutBuf
  | .stderr => w.stderrBuf

variable (w : InstanceLogWriter) (chunk : LogChunk)

/-- A chunk changes the buffer of its own stream only. -/
theorem buf_step (stream : LogStream) :
    (logWriter.step w chunk).1.buf stream =
      if chunk.stream = stream then (appendTo w.logger stream (w.buf stream) chunk.data).2
      else w.buf stream := by
  obtain ⟨of, data⟩ := chunk
  cases of <;> cases stream <;> rfl

/-- What a chunk makes the writer log. -/
theorem logged_step :
    (logWriter.step w chunk).2 =
      (appendTo w.logger chunk.stream (w.buf chunk.stream) chunk.data).1 := by
  obtain ⟨of, data⟩ := chunk
  cases of <;> rfl

theorem logger_step : (logWriter.step w chunk).1.logger = w.logger := by
  obtain ⟨of, data⟩ := chunk
  cases of <;> rfl

end InstanceLogWriter

variable (stream : LogStream)

@[simp] theorem LogStream.stream_message (piece : List UInt8) :
    (stream.message piece).stream = stream := rfl

theorem filter_message (of : LogStream) (pieces : List (List UInt8)) :
    (pieces.map of.message).filter (·.stream = stream) =
      if of = stream then pieces.map of.message else [] := by
  split_ifs with h
  · rw [List.filter_eq_self]
    simp [h]
  · rw [List.filter_eq_nil_iff]
    simp [h]

@[simp] theorem streamTexts_append (ms ms' : List LogMessage) :
    streamTexts stream (ms ++ ms') = streamTexts stream ms ++ streamTexts stream ms' := by
  simp [streamTexts]

/-- A piece is logged as a C string. -/
theorem streamTexts_message (of : LogStream) (pieces : List (List UInt8)) :
    streamTexts stream (pieces.map of.message) =
      if of = stream then pieces.map cString else [] := by
  unfold streamTexts
  rw [filter_message]
  split_ifs with h
  · subst h
    simp [Function.comp_def, LogStream.message]
  · rfl

/-- Where a stream is after these chunks: its pieces were logged, as C strings, and the rest of it
is in its buffer. -/
structure StreamState (stream : LogStream) (bytes : List UInt8) (w : InstanceLogWriter)
    (messages : List LogMessage) (pieces : List (List UInt8)) : Prop where
  logger : w.logger = true
  texts : streamTexts stream messages = pieces.map cString
  assembled : Assembled bytes pieces (w.buf stream)
  open_line : newline ∉ w.buf stream

/-- **One chunk**, of this stream or of the other. -/
theorem StreamState.step {stream : LogStream} {bytes : List UInt8} {w : InstanceLogWriter}
    {messages : List LogMessage} {pieces : List (List UInt8)}
    (h : StreamState stream bytes w messages pieces) (chunk : LogChunk) :
    ∃ more, StreamState stream (bytes ++ if chunk.stream = stream then chunk.data else [])
      (logWriter.step w chunk).1 (messages ++ (logWriter.step w chunk).2) (pieces ++ more) := by
  have hlogger := (logger_step w chunk).trans h.logger
  by_cases hof : chunk.stream = stream
  · obtain ⟨more, hlogged, hmore, hopen⟩ := h.assembled.append stream chunk.data
    use more
    constructor
    · exact hlogger
    · rw [streamTexts_append, h.texts, logged_step, h.logger, hof, hlogged, streamTexts_message,
        if_pos rfl, List.map_append]
    · rw [buf_step, if_pos hof, if_pos hof, h.logger]
      exact hmore
    · rw [buf_step, if_pos hof, h.logger]
      exact hopen
  · use []
    rw [if_neg hof, List.append_nil, List.append_nil]
    constructor
    · exact hlogger
    · -- the other stream has messages of its own only
      obtain ⟨more, hmore, -⟩ :=
        (Assembled.unread (w.buf chunk.stream)).append chunk.stream chunk.data
      rw [streamTexts_append, h.texts, logged_step, h.logger, hmore, streamTexts_message,
        if_neg hof, List.append_nil]
    · rw [buf_step, if_neg hof]
      exact h.assembled
    · rw [buf_step, if_neg hof]
      exact h.open_line

/-- **A run of chunks.** -/
theorem StreamState.run {stream : LogStream} {bytes : List UInt8} {pieces : List (List UInt8)}
    {c : Machine.Config InstanceLogWriter LogMessage}
    (h : StreamState stream bytes c.state c.history pieces) (chunks : List LogChunk) :
    ∃ more, StreamState stream (bytes ++ streamBytes stream chunks)
      (logWriter.run c chunks).state (logWriter.run c chunks).history (pieces ++ more) := by
  induction chunks generalizing c bytes pieces with
  | nil => exact ⟨[], by simpa [streamBytes] using h⟩
  | cons chunk chunks ih =>
    obtain ⟨more, hmore⟩ := h.step chunk
    obtain ⟨rest, hrest⟩ := ih (c := logWriter.next c chunk) hmore
    use more ++ rest
    rw [List.append_assoc, List.append_assoc] at hrest
    exact hrest

/-- The destructor logs what is left. -/
theorem streamTexts_destroy {w : InstanceLogWriter} (h : w.logger = true) :
    streamTexts stream w.destroy =
      (if w.buf stream = [] then [] else [w.buf stream]).map cString := by
  have hflush (of : LogStream) (buf : List UInt8) :
      flush of buf = (if buf = [] then [] else [buf]).map of.message := by
    unfold flush
    split_ifs <;> rfl
  unfold destroy
  rw [h, hflush, hflush]
  show streamTexts stream (_ ++ _) = _
  rw [streamTexts_append, streamTexts_message, streamTexts_message]
  cases stream <;> simp [buf] <;> rfl

/-- **What is logged of a stream**: its lines, in pieces where they are too long, each as a C
string. -/
theorem logged_pieces (chunks : List LogChunk) :
    ∃ pieces, LoggedAs (textLines newline (streamBytes stream chunks)) pieces ∧
      streamTexts stream (logged {} chunks) = pieces.map cString := by
  have h0 : StreamState stream [] {} ([] : List LogMessage) [] := by
    constructor
    · rfl
    · rfl
    · cases stream <;> exact Assembled.unread []
    · cases stream <;> simp [buf]
  obtain ⟨more, hrun⟩ := StreamState.run (c := Machine.start {}) h0 chunks
  rw [List.nil_append, List.nil_append] at hrun
  obtain ⟨groups, hgroups, hall⟩ := hrun.assembled.close hrun.open_line
  use groups.flatten
  constructor
  · exact ⟨groups, hgroups, rfl⟩
  · show streamTexts stream (_ ++ _) = _
    rw [streamTexts_append, hrun.texts, streamTexts_destroy stream hrun.logger, ← List.map_append,
      hall]

/-! ## §5. Zero bytes -/

/-- Whatever is cut where, the texts hold the bytes of the lines. -/
theorem LoggedAs.flatten {lines texts : List (List UInt8)} (h : LoggedAs lines texts) :
    texts.flatten = lines.flatten := by
  obtain ⟨groups, hgroups, rfl⟩ := h
  induction hgroups with
  | nil => rfl
  | cons hpieces hrest ih =>
    rw [List.flatten_cons, List.flatten_append, hpieces.2.1, ih, List.flatten_cons]

/-- **A stream is logged as it came exactly when it holds no zero byte.** -/
theorem log_faithful_iff (stream : LogStream) (chunks : List LogChunk) :
    Faithful stream chunks (logged {} chunks) ↔ 0 ∉ streamBytes stream chunks := by
  obtain ⟨pieces, hpieces, htexts⟩ := logged_pieces stream chunks
  have hzero : 0 ∈ streamBytes stream chunks ↔ 0 ∈ pieces.flatten := by
    rw [hpieces.flatten]
    exact mem_textLines (by decide)
  constructor
  · intro h hmem
    -- the lines hold the zero byte, what was logged does not
    have hlogged : 0 ∈ (pieces.map cString).flatten := by
      rw [← htexts, h.pieces.flatten, ← hpieces.flatten]
      exact hzero.mp hmem
    obtain ⟨text, htext, h0⟩ := List.mem_flatten.mp hlogged
    obtain ⟨piece, -, rfl⟩ := List.mem_map.mp htext
    exact zero_notMem_cString piece h0
  · intro h
    have hsame : pieces.map cString = pieces := by
      conv_rhs => rw [← List.map_id pieces]
      apply List.map_congr_left
      intro piece hpiece
      apply cString_eq_self
      intro h0
      exact h (hzero.mpr (List.mem_flatten_of_mem hpiece h0))
    rw [hsame] at htexts
    constructor
    · rw [htexts]
      exact hpieces
    · intro hshort
      rw [htexts]
      exact hpieces.eq hshort

/-- A line of three bytes, the second of them zero: only the first is logged. -/
theorem zero_byte_truncates :
    ¬ Faithful .stdout [⟨.stdout, [97, 0, 98, 10]⟩] (logged {} [⟨.stdout, [97, 0, 98, 10]⟩]) := by
  intro h
  have hwhole := h.whole (by decide)
  revert hwhole
  decide

end Stdiolink.Server
