/-
  Stdiolink.Modbus.TcpBuffer — the receive buffer of a client, `modbus_tcp_server.cpp`.

  `onReadyRead` appends what has come to the client's buffer; `processBuffer` then takes one frame
  after another off its front, as long as they are complete.  Where a frame ends is said by the
  length field of its header.  A length beyond `MAX_MODBUS_LENGTH` clears the buffer.

  Main results:
    * `processRound_shortens` — a round takes bytes off the buffer, whatever is in it;
    * `processRound_steady`   — on a stream of frames, a round does not depend on what follows;
    * `requests_survive_segmentation` — frames are answered in order, however they are cut.
-/
import Stdiolink.Modbus.TcpServer
import Stdiolink.Lib.Chunks

namespace Stdiolink.Modbus

open Stdiolink.Lib

namespace ModbusTcpServer

/-! ## §1. The buffer -/

def maxModbusLength : Nat := 260

/-- A frame that was processed: the signals, and what was written to the socket for it. -/
structure Answered where
  frame : List UInt8
  signals : List ModbusSignal
  written : List (List UInt8)
  deriving DecidableEq

/-- What is done for one frame; an empty response is not written. -/
def answered (frame : List UInt8) (p : Processed) : Answered :=
  ⟨frame, p.signals, if p.response.isEmpty then [] else [p.response]⟩

/-- One round of the `while` loop of `processBuffer`. -/
def processRound (server : ModbusTcpServer) (buffer : List UInt8) :
    Option (Progress ModbusTcpServer UInt8 Answered) :=
  if buffer.length ≥ 7 then
    match parseHeader buffer with
    -- `buffer.clear(); break;`, which is the end of the loop also without the `break`
    | none => some ⟨server, [], []⟩
    | some header =>
      if header.length.toNat > maxModbusLength then some ⟨server, [], []⟩
      else
        let frameLength := 6 + header.length.toNat
        -- with a length field of 0 the frame ends before the unit id, and is processed all the same
        if buffer.length < frameLength then none
        else
          let frame := buffer.take frameLength
          let p := server.processRequest frame
          some ⟨p.server, [answered frame p], buffer.drop frameLength⟩
  else none

/-- `processBuffer`. -/
def processBuffer (server : ModbusTcpServer) (buffer : List UInt8) :
    Progress ModbusTcpServer UInt8 Answered :=
  drain processRound server buffer

/-- `onReadyRead`, for each of the chunks that one client sends. -/
def onReadyReads (server : ModbusTcpServer) (recvBuffer : List UInt8)
    (chunks : List (List UInt8)) : Progress ModbusTcpServer UInt8 Answered :=
  feed processRound server recvBuffer chunks

/-- **What should happen**: the frames are processed one after another. -/
def processInOrder (server : ModbusTcpServer) :
    List (List UInt8) → Progress ModbusTcpServer UInt8 Answered
  | [] => ⟨server, [], []⟩
  | frame :: frames =>
    let p := server.processRequest frame
    (processInOrder p.server frames).after [answered frame p]

/-- A frame: the length field counts the bytes after it, the unit and a function at least. -/
def IsFrame (frame : List UInt8) : Prop :=
  let length := (bytesToUInt16 frame 4).toNat
  2 ≤ length ∧ length ≤ maxModbusLength ∧ frame.length = 6 + length

/-! ## §2. One round -/

section Rounds

variable (server : ModbusTcpServer)

/-- A round takes at least one byte off the buffer. -/
theorem processRound_shortens : Shortens processRound := by
  intro server buffer p h
  unfold processRound at h
  split at h
  · cases hheader : parseHeader buffer with
    | none =>
      rw [hheader] at h
      obtain rfl := Option.some.inj h
      show 0 < buffer.length
      omega
    | some header =>
      rw [hheader] at h
      dsimp only at h
      split_ifs at h
      · obtain rfl := Option.some.inj h
        show 0 < buffer.length
        omega
      · obtain rfl := Option.some.inj h
        show (buffer.drop (6 + header.length.toNat)).length < buffer.length
        rw [List.length_drop]
        omega
  · cases h

/-- A frame at the front of the buffer, and all of it. -/
theorem processRound_frame {frame : List UInt8} (hframe : IsFrame frame) (rest : List UInt8) :
    processRound server (frame ++ rest) =
      some ⟨(server.processRequest frame).server, [answered frame (server.processRequest frame)],
        rest⟩ := by
  obtain ⟨htwo, hmax, hlen⟩ := hframe
  have htotal : (frame ++ rest).length = frame.length + rest.length := List.length_append
  have hfield : bytesToUInt16 (frame ++ rest) 4 = bytesToUInt16 frame 4 :=
    bytesToUInt16_append rest (by omega)
  unfold processRound parseHeader
  rw [if_pos (by omega), if_neg (by omega)]
  dsimp only
  rw [hfield, if_neg (by omega), if_neg (by omega), ← hlen, List.take_left, List.drop_left]

/-- A part of a frame is left in the buffer. -/
theorem processRound_part {part rest : List UInt8} (hframe : IsFrame (part ++ rest))
    (hrest : rest ≠ []) : processRound server part = none := by
  obtain ⟨htwo, hmax, hlen⟩ := hframe
  have htotal : (part ++ rest).length = part.length + rest.length := List.length_append
  have hpos : 0 < rest.length := List.length_pos_iff.mpr hrest
  unfold processRound
  by_cases hheader : part.length ≥ 7
  · have hfield : bytesToUInt16 (part ++ rest) 4 = bytesToUInt16 part 4 :=
      bytesToUInt16_append rest (by omega)
    rw [hfield] at hmax hlen
    unfold parseHeader
    rw [if_pos hheader, if_neg (by omega)]
    dsimp only
    rw [if_neg (by omega), if_pos (by omega)]
  · exact if_neg hheader

/-- A stream of frames. -/
def IsStream (stream : List UInt8) : Prop :=
  ∃ frames, (∀ frame ∈ frames, IsFrame frame) ∧ stream = List.flatten frames

/-- **On a stream of frames**, a round does not depend on what has not come yet. -/
theorem processRound_steady : Steady processRound fun _ => IsStream := by
  rintro server buffer more p ⟨frames, hframes, hstream⟩ h
  cases frames with
  | nil =>
    -- nothing in the stream, and nothing to do
    obtain ⟨rfl, rfl⟩ := List.append_eq_nil_iff.mp hstream
    cases h
  | cons frame frames =>
    have hframe : IsFrame frame := hframes frame List.mem_cons_self
    rw [List.flatten_cons] at hstream
    obtain ⟨rest, hfront, hback⟩ | ⟨part, hpart, hback⟩ :=
      List.append_eq_append_iff.mp hstream
    · -- the buffer ends within the frame, or with it
      by_cases hrest : rest = []
      · subst hrest
        rw [List.append_nil] at hfront
        subst hfront
        have hround := processRound_frame server hframe []
        rw [List.append_nil] at hround
        obtain rfl := Option.some.inj (hround.symm.trans h)
        refine ⟨processRound_frame server hframe more, frames, ?_, hback⟩
        exact fun frame' hmem => hframes frame' (List.mem_cons_of_mem _ hmem)
      · rw [hfront] at hframe
        exact absurd ((processRound_part server hframe hrest).symm.trans h) (by simp)
    · -- the frame ends within the buffer
      subst hpart
      obtain rfl := Option.some.inj ((processRound_frame server hframe part).symm.trans h)
      rw [List.append_assoc]
      refine ⟨processRound_frame server hframe (part ++ more), frames, ?_, hback.symm⟩
      exact fun frame' hmem => hframes frame' (List.mem_cons_of_mem _ hmem)

end Rounds

/-! ## §3. The loop -/

/-- Frames that are all there. -/
theorem processBuffer_frames (server : ModbusTcpServer) (frames : List (List UInt8))
    (hframes : ∀ frame ∈ frames, IsFrame frame) :
    processBuffer server frames.flatten = processInOrder server frames := by
  unfold processBuffer
  induction frames generalizing server with
  | nil => rfl
  | cons frame frames ih =>
    rw [List.flatten_cons, drain_eq processRound_shortens,
      processRound_frame server (hframes frame List.mem_cons_self)]
    dsimp only
    rw [ih _ fun frame' hmem => hframes frame' (List.mem_cons_of_mem _ hmem)]
    rfl

/-- What the loop has processed are pieces of the buffer, one after another, none of them empty. -/
theorem processed_prefix {server : ModbusTcpServer} {buffer : List UInt8}
    {p : Progress ModbusTcpServer UInt8 Answered} (h : Drains processRound server buffer p) :
    (p.output.map Answered.frame).flatten <+: buffer ∧
      ∀ a ∈ p.output, 0 < a.frame.length := by
  -- along the loop, which may end with bytes thrown away
  induction h with
  | stop => exact ⟨List.nil_prefix, fun _ hmem => absurd hmem List.not_mem_nil⟩
  | @step server buffer p q h _ ih =>
    obtain ⟨hfront, hpos⟩ := ih
    unfold processRound at h
    split at h
    · cases hheader : parseHeader buffer with
      | none =>
        rw [hheader] at h
        obtain rfl := Option.some.inj h
        exact ⟨hfront.trans List.nil_prefix, hpos⟩
      | some header =>
        rw [hheader] at h
        dsimp only at h
        split_ifs at h with hmax hshort
        · obtain rfl := Option.some.inj h
          exact ⟨hfront.trans List.nil_prefix, hpos⟩
        · obtain rfl := Option.some.inj h
          constructor
          · show buffer.take _ ++ (q.output.map Answered.frame).flatten <+: buffer
            obtain ⟨left, hleft⟩ := hfront
            refine ⟨left, ?_⟩
            rw [List.append_assoc, hleft, List.take_append_drop]
          · intro a hmem
            obtain rfl | hmem := List.mem_cons.mp hmem
            · show 0 < (buffer.take _).length
              rw [List.length_take]
              omega
            · exact hpos a hmem
    · cases h

/-- **Requests survive segmentation.**  Frames that come in any chunks are processed one after
another, as `processRequest` does them, and nothing stays in the buffer.  On any bytes the loop
ends, in one way, and the frames that it has processed are pieces of the buffer, one after
another, of at least one byte. -/
theorem requests_survive_segmentation :
    (∀ (server : ModbusTcpServer) (frames chunks : List (List UInt8)),
      (∀ frame ∈ frames, IsFrame frame) → chunks.flatten = frames.flatten →
        onReadyReads server [] chunks = processInOrder server frames) ∧
    ∀ (server : ModbusTcpServer) (buffer : List UInt8),
      (∀ p, Drains processRound server buffer p ↔ p = processBuffer server buffer) ∧
        ((processBuffer server buffer).output.map Answered.frame).flatten <+: buffer ∧
        ∀ a ∈ (processBuffer server buffer).output, 0 < a.frame.length := by
  constructor
  · intro server frames chunks hframes hchunks
    have hstream : IsStream chunks.flatten := ⟨frames, hframes, hchunks⟩
    unfold onReadyReads
    rw [feed_eq_drain processRound_shortens processRound_steady server chunks hstream, hchunks]
    exact processBuffer_frames server frames hframes
  · intro server buffer
    exact ⟨fun p => drains_iff processRound_shortens,
      processed_prefix (drains_drain processRound_shortens server buffer)⟩

/-- Two requests in three chunks: a part of the header, the rest with the beginning of the second
request, and its last byte. -/
theorem two_requests_in_three_chunks :
    onReadyReads tenCells [] [(readCoilsAtFive 3).take 4,
        (readCoilsAtFive 3).drop 4 ++ (readCoilsAtFive 10).take 11,
        (readCoilsAtFive 10).drop 11] =
      processInOrder tenCells [readCoilsAtFive 3, readCoilsAtFive 10] := by
  refine requests_survive_segmentation.1 tenCells [readCoilsAtFive 3, readCoilsAtFive 10] _ ?_ rfl
  intro frame hmem
  simp only [List.mem_cons, List.not_mem_nil, or_false] at hmem
  obtain rfl | rfl := hmem
  · exact ⟨by decide, by decide, rfl⟩
  · exact ⟨by decide, by decide, rfl⟩

end ModbusTcpServer

end Stdiolink.Modbus
