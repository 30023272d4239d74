/-
  Stdiolink.ScanRobot.RadarSession — one request and its answer, `radar_session.cpp`.

  `sendAndReceive` collects what `readSome` brings and tries to decode it after each piece.

  Main results:
    * `receive_chunks`         — pieces of a frame that can be decoded are collected up to its end;
    * `frames_round_trip_iff`  — for which frames `tryDecodeFrame` and `sendAndReceive` give back
      what was encoded, however the frame is cut.
-/
import Stdiolink.ScanRobot.ProtocolCodec

namespace Stdiolink.ScanRobot

/-! ## §1. The session -/

/-- `RadarSession`: the address of its parameters, and its counters. -/
structure RadarSession where
  addr : UInt8 := 1
  counter : UInt8 := 0
  insertCounter : UInt8 := 0

inductive SessionErrorKind where
  | none
  | transport
  | protocol
  deriving DecidableEq, Repr

/-- What the transport does: an error of `writeFrame`, and what each `readSome` does for which there
is time, the chunk or a failure.  An error leaves a message, or none. -/
structure Transport where
  writeError : Option (Option String) := Option.none
  reads : List (Except (Option String) (List UInt8))

/-- What `sendAndReceive` returns, and what it leaves behind its pointers. -/
structure Received where
  success : Bool
  response : RadarFrame
  errorMessage : String
  errorKind : SessionErrorKind

namespace RadarSession

def nextCounter (session : RadarSession) : UInt8 × RadarSession :=
  (session.counter, { session with counter := session.counter + 1 })

def nextInsertCounter (session : RadarSession) : UInt8 × RadarSession :=
  (session.insertCounter, { session with insertCounter := session.insertCounter + 1 })

/-- A decoding that has failed. -/
def decodeFailed (decoded : Decoded) : Received where
  success := false
  response := decoded.frame
  errorMessage :=
    if decoded.errorMessage.isEmpty then
      "Decode failed: " ++ decodeStatusToString decoded.status
    else decoded.errorMessage
  errorKind := .protocol

/-- The loop of `sendAndReceive`. -/
def receive (addr command : UInt8) (channel : FrameChannel) :
    List (Except (Option String) (List UInt8)) → List UInt8 → RadarFrame → String → Received
  | [], buffer, response, errorMessage =>
    -- the time is over
    { success := false
      response := response
      errorMessage :=
        if errorMessage.isEmpty then
          if buffer.isEmpty then "Serial read timeout" else "Incomplete frame"
        else errorMessage
      errorKind := if buffer.isEmpty then .transport else .protocol }
  | .error message :: _, buffer, response, errorMessage =>
    if buffer.isEmpty then ⟨false, response, message.getD errorMessage, .transport⟩
    else
      -- no more comes: the last try, with `finalChunk`
      let decoded := tryDecodeFrame buffer addr command response (message.getD errorMessage)
        channel true
      if decoded.status = .ok then ⟨true, decoded.frame, decoded.errorMessage, .none⟩
      else decodeFailed decoded
  | .ok chunk :: reads, buffer, response, errorMessage =>
    let decoded := tryDecodeFrame (buffer ++ chunk) addr command response errorMessage channel false
    if decoded.status = .ok then ⟨true, decoded.frame, decoded.errorMessage, .none⟩
    else if decoded.status ≠ .incomplete then decodeFailed decoded
    else receive addr command channel reads (buffer ++ chunk) decoded.frame decoded.errorMessage

/-- `sendAndReceive`: the frame that is written, the outcome and the session. -/
def sendAndReceive (session : RadarSession) (transport : Transport) (command : UInt8)
    (payload : List UInt8) (response : RadarFrame) (errorMessage : String) (interrupt : Bool) :
    List UInt8 × Received × RadarSession :=
  let (ctr, next) := if interrupt then session.nextInsertCounter else session.nextCounter
  let frame := encodeFrame ctr session.addr command payload interrupt
  match transport.writeError with
  | some message => (frame, ⟨false, response, message.getD errorMessage, .transport⟩, next)
  | Option.none =>
    (frame, receive session.addr command (if interrupt then .interrupt else .main)
      transport.reads [] response errorMessage, next)

/-! ## §2. Answers in pieces -/

/-- **The frame is received as it was encoded**, in all pieces, whatever was asked and whatever
comes after it. -/
def ReceivesExactly (counter addr command : UInt8) (payload : List UInt8) (interrupt : Bool) :
    Prop :=
  ∀ (chunks : List (List UInt8)) (after : List (Except (Option String) (List UInt8))),
    chunks.flatten = encodeFrame counter addr command payload interrupt →
      ∀ (session : RadarSession) request response message, session.addr = addr →
        let received := (session.sendAndReceive { reads := chunks.map .ok ++ after } command
          request response message interrupt).2.1
        received.success = true ∧ received.response = frameOf counter addr command payload

section Pieces

variable {counter addr command : UInt8} {payload : List UInt8} {interrupt : Bool}

/-- **The pieces of a frame** are collected up to its end. -/
theorem receive_chunks (h : DecodesExactly counter addr command payload interrupt)
    {channel : FrameChannel} (hchannel : channel.Expects interrupt)
    (after : List (Except (Option String) (List UInt8))) (chunks : List (List UInt8)) :
    ∀ buffer response message,
      buffer ++ chunks.flatten = encodeFrame counter addr command payload interrupt →
        buffer ≠ encodeFrame counter addr command payload interrupt →
          ∃ message', receive addr command channel (chunks.map .ok ++ after) buffer response
              message =
            ⟨true, frameOf counter addr command payload, message', .none⟩ := by
  -- the buffer is a proper prefix of the frame, until the chunk that completes it
  induction chunks with
  | nil =>
    intro buffer response message hbuffer hproper
    exact absurd ((List.append_nil buffer).symm.trans hbuffer) hproper
  | cons chunk chunks ih =>
    intro buffer response message hbuffer hproper
    rw [List.flatten_cons, ← List.append_assoc] at hbuffer
    rw [List.map_cons, List.cons_append, receive]
    by_cases hwhole : buffer ++ chunk = encodeFrame counter addr command payload interrupt
    · rw [hwhole, h.whole response message channel false hchannel, if_pos rfl]
      exact ⟨message, rfl⟩
    · have hincomplete := h.part (buffer ++ chunk) ⟨_, hbuffer⟩ hwhole response message channel
        hchannel
      rw [hincomplete, if_neg (by decide), if_neg (by decide)]
      exact ih (buffer ++ chunk) _ _ hbuffer hwhole

theorem encodeFrame_ne_nil : [] ≠ encodeFrame counter addr command payload interrupt := by
  intro h
  have hlen := congrArg List.length h
  rw [length_encodeFrame] at hlen
  cases hlen

theorem receivesExactly_of_decodesExactly
    (h : DecodesExactly counter addr command payload interrupt) :
    ReceivesExactly counter addr command payload interrupt := by
  intro chunks after hchunks session request response message haddr
  have hchannel : FrameChannel.Expects (if interrupt then .interrupt else .main) interrupt :=
    Or.inr rfl
  obtain ⟨message', hreceived⟩ :=
    receive_chunks h hchannel after chunks [] response message hchunks encodeFrame_ne_nil
  unfold sendAndReceive
  dsimp only
  rw [haddr, hreceived]
  exact ⟨rfl, rfl⟩

/-- The frame in one piece. -/
theorem decodable_of_receivesExactly
    (h : ReceivesExactly counter addr command payload interrupt) :
    Decodable (encodeFrame counter addr command payload interrupt) := by
  have hchannel : FrameChannel.Expects (if interrupt then .interrupt else .main) interrupt :=
    Or.inr rfl
  obtain ⟨hsuccess, hresponse⟩ := h [encodeFrame counter addr command payload interrupt] []
    (List.append_nil _) { addr := addr } [] {} "" rfl
  unfold sendAndReceive at hsuccess hresponse
  dsimp only at hsuccess hresponse
  rw [List.append_nil, List.map_cons, receive, List.nil_append] at hsuccess hresponse
  by_cases hok : (tryDecodeFrame (encodeFrame counter addr command payload interrupt) addr command
      {} "" (if interrupt then .interrupt else .main) false).status = .ok
  · rw [if_pos hok] at hresponse
    exact decodable_of_payload hchannel {} "" false hok (congrArg RadarFrame.payload hresponse)
  · rw [if_neg hok] at hsuccess
    by_cases hmore : (tryDecodeFrame (encodeFrame counter addr command payload interrupt) addr
        command {} "" (if interrupt then .interrupt else .main) false).status ≠ .incomplete
    · rw [if_pos hmore] at hsuccess
      cases hsuccess
    · rw [if_neg hmore, List.map_nil, receive] at hsuccess
      cases hsuccess

/-- **Frames of the scan robot.**  The frames that `tryDecodeFrame` takes only as a whole and with
the payload that was encoded, and the ones that `sendAndReceive` returns with it however they are
cut, are those with at least four bytes of payload and no shorter prefix that ends with its own
CRC. -/
theorem frames_round_trip_iff (counter addr command : UInt8) (payload : List UInt8)
    (interrupt : Bool) :
    (DecodesExactly counter addr command payload interrupt ↔
        4 ≤ payload.length ∧ ∀ frameLen, 16 ≤ frameLen → frameLen < payload.length + 12 →
          ¬ EndsWithCrc (encodeFrame counter addr command payload interrupt) frameLen) ∧
      (ReceivesExactly counter addr command payload interrupt ↔
        DecodesExactly counter addr command payload interrupt) := by
  have hdecodable : Decodable (encodeFrame counter addr command payload interrupt) ↔
      4 ≤ payload.length ∧ ∀ frameLen, 16 ≤ frameLen → frameLen < payload.length + 12 →
        ¬ EndsWithCrc (encodeFrame counter addr command payload interrupt) frameLen := by
    unfold Decodable
    rw [length_encodeFrame]
    refine and_congr ?_ Iff.rfl
    show 16 ≤ payload.length + 12 ↔ _
    omega
  refine ⟨decodesExactly_iff.trans hdecodable, ?_, receivesExactly_of_decodesExactly⟩
  exact fun h => decodesExactly_iff.mpr (decodable_of_receivesExactly h)

/-- No payload is too short, and a payload may end with the CRC of what comes before. -/
theorem payloads_lost :
    ¬ DecodesExactly 0 1 1 [] false ∧
      ¬ ReceivesExactly 0 1 1 ([0, 0, 0, 0] ++
        qToBigEndian (crc32Stm32 (crcInput 0 1 1 [0, 0, 0, 0]))) false := by
  constructor
  · intro h
    exact absurd (decodesExactly_iff.mp h).1 (by decide)
  · intro h
    refine (decodable_of_receivesExactly h).2 16 (by decide) (by decide) ?_
    decide +kernel

end Pieces

end RadarSession

end Stdiolink.ScanRobot
