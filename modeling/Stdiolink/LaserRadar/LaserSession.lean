/-
  Stdiolink.LaserRadar.LaserSession — requests on one connection, `laser_session.cpp`.

  Each request has a counter, and the answer carries it; `sendAndReceive` takes the first frame
  that has the address and the command.  The transport discards what has arrived before it writes
  a request, but not what of an earlier answer arrives later.

  Main results:
    * `receive_success`  — what is returned is the frame that the bytes read begin with;
    * `own_answer_iff`   — one request: when the frame that is returned is its own answer;
    * `late_frames_iff`  — the same in every run.
-/
import Stdiolink.Lib.Machine
import Stdiolink.ScanRobot.RadarSession
import Stdiolink.LaserRadar.ProtocolCodec

namespace Stdiolink.LaserRadar

open Stdiolink.Lib
open Stdiolink.ScanRobot (Transport)

/-! ## §1. The session -/

/-- `LaserSession`: its counter. -/
structure LaserSession where
  counter : UInt16 := 0

inductive SessionErrorKind where
  | none
  | transport
  | protocol
  deriving DecidableEq, Repr

/-- What `sendAndReceive` returns, and what it leaves behind its pointers. -/
structure Received where
  success : Bool
  response : LaserFrame
  errorMessage : String
  errorKind : SessionErrorKind

def kDeviceAddr : UInt8 := 0

namespace LaserSession

def reserveCounter (session : LaserSession) : UInt16 × LaserSession :=
  (session.counter, { session with counter := session.counter + 1 })

/-- A decoding that has failed. -/
def decodeFailed (decoded : Decoded) : Received where
  success := false
  response := decoded.frame
  errorMessage :=
    if decoded.errorMessage.isEmpty then
      "Decode failed: " ++ decodeStatusToString decoded.status
    else decoded.errorMessage
  errorKind := .protocol

/-- `tryDecodeFrame`, as the session calls it. -/
def decode (command : UInt8) (buffer : List UInt8) (response : LaserFrame) (finalChunk : Bool) :
    Decoded :=
  tryDecodeFrame buffer kDeviceAddr.toNat command.toNat response finalChunk

/-- The loop of `sendAndReceive`. -/
def receive (command : UInt8) :
    List (Except (Option String) (List UInt8)) → List UInt8 → LaserFrame → String → Received
  | [], buffer, response, errorMessage =>
    -- the time is over
    { success := false
      response := response
      errorMessage :=
        if errorMessage.isEmpty then
          if buffer.isEmpty then "TCP read timeout" else "Incomplete frame"
        else errorMessage
      errorKind := if buffer.isEmpty then .transport else .protocol }
  | .error transportError :: _, buffer, response, errorMessage =>
    if buffer.isEmpty then
      ⟨false, response, if errorMessage.isEmpty then transportError.getD "" else errorMessage,
        .transport⟩
    else
      -- no more comes: the last try, with `finalChunk`
      let decoded := decode command buffer response true
      if decoded.status = .ok then ⟨true, decoded.frame, decoded.errorMessage, .none⟩
      else decodeFailed decoded
  | .ok chunk :: reads, buffer, response, _ =>
    let decoded := decode command (buffer ++ chunk) response false
    if decoded.status = .ok then ⟨true, decoded.frame, decoded.errorMessage, .none⟩
    else if decoded.status ≠ .incomplete then decodeFailed decoded
    else receive command reads (buffer ++ chunk) decoded.frame decoded.errorMessage

/-- `sendAndReceive`: the frame that is written, the outcome and the session. -/
def sendAndReceive (session : LaserSession) (transport : Transport) (command : UInt8)
    (payload : List UInt8) (response : LaserFrame) (errorMessage : String) :
    List UInt8 × Received × LaserSession :=
  let (counter, next) := session.reserveCounter
  let frame := encodeFrame counter kDeviceAddr command payload
  match transport.writeError with
  | some message => (frame, ⟨false, response, message.getD errorMessage, .transport⟩, next)
  | none => (frame, receive command transport.reads [] response errorMessage, next)

/-! ## §2. Connections -/

/-- What the loop of `sendAndReceive` reads. -/
def taken (command : UInt8) : List (Except (Option String) (List UInt8)) → List UInt8 → List UInt8
  | .ok chunk :: reads, buffer =>
    chunk ++
      if (decode command (buffer ++ chunk) {} false).status = .incomplete then
        taken command reads (buffer ++ chunk)
      else []
  | _, _ => []

end LaserSession

/-- A session, and what of the answers to its requests it has neither read nor discarded. -/
structure Connection where
  session : LaserSession := {}
  unread : List UInt8 := []

/-- A request: `sendAndReceive`, or `sendExpectNoImmediateResponse`, which reads one chunk at most;
how many bytes `drainPendingInput` finds before it is written, the answer of the device, and what
the transport does. -/
structure Request where
  immediate : Bool := true
  command : UInt8
  payload : List UInt8
  discarded : Nat := 0
  answer : List UInt8
  transport : Transport
  response : LaserFrame := {}
  errorMessage : String := ""

/-- A frame that carries the counter. -/
def IsAnswer (counter : UInt16) (answer : List UInt8) : Prop :=
  ∃ addr command payload, (kMinPayloadLen ≤ payload.length ∧ payload.length ≤ 65527) ∧
    answer = encodeFrame counter addr command payload

section Steps

variable (connection : Connection) (r : Request)

/-- What can be read after the request has been written, in this order. -/
def Connection.stream : List UInt8 := connection.unread.drop r.discarded ++ r.answer

/-- What is read of it. -/
def Request.taken : List UInt8 :=
  match r.transport.writeError, r.immediate, r.transport.reads with
  | some _, _, _ => []
  | none, true, reads => LaserSession.taken r.command reads []
  | none, false, .ok chunk :: _ => chunk
  | none, false, _ => []

/-- The connection after the request. -/
def Connection.after : Connection where
  session := connection.session.reserveCounter.2
  unread := (connection.stream r).drop r.taken.length

/-- What `sendAndReceive` makes of it. -/
def Connection.received : Received :=
  (connection.session.sendAndReceive r.transport r.command r.payload r.response
    r.errorMessage).2.1

/-- The chunks that the transport can deliver. -/
def Request.chunks : List (List UInt8) := r.transport.reads.filterMap Except.toOption

/-- **The device** answers each request with a frame that carries its counter, and in order.  A
request that expects no immediate answer, or that was not written, need not be answered. -/
structure Served : Prop where
  isAnswer : IsAnswer connection.session.counter r.answer ∨
    r.answer = [] ∧ (r.immediate = false ∨ r.transport.writeError ≠ none)
  inOrder : r.chunks.flatten <+: connection.stream r

/-- `sendAndReceive` is successful. -/
def Succeeds : Prop := r.immediate = true ∧ (connection.received r).success = true

/-- The frame that is returned is the device's answer to this request. -/
def OwnAnswer : Prop :=
  ∃ addr command payload,
    r.answer = encodeFrame connection.session.counter addr command payload ∧
      (connection.received r).response = frameOf connection.session.counter addr command payload

/-- What arrives after the request has been written begins with its answer. -/
def Undisturbed : Prop := r.answer <+: connection.stream r

end Steps

/-- Requests one after another, with what is received. -/
def requests : Machine Connection Request Received where
  step connection r := (connection.after r, [connection.received r])

/-! ## §3. One request -/

section OneRequest

/-- A frame as it was encoded, with a payload of a length that fits. -/
structure IsFrame (frame : LaserFrame) : Prop where
  fields : frame = frameOf frame.counter frame.addr frame.command frame.payload
  min : kMinPayloadLen ≤ frame.payload.length
  max : frame.payload.length ≤ 65527

variable {command : UInt8}

/-- A buffer that is decoded begins with the frame that is returned. -/
theorem decode_ok {buffer : List UInt8} {response : LaserFrame} {finalChunk : Bool}
    (h : (LaserSession.decode command buffer response finalChunk).status = .ok) :
    let frame := (LaserSession.decode command buffer response finalChunk).frame
    IsFrame frame ∧
      encodeFrame frame.counter frame.addr frame.command frame.payload <+: buffer := by
  have hbegins := tryDecodeFrame_ok.2 h
  obtain ⟨hfields, hmin, hmax⟩ := decodedAs_frame hbegins
  obtain ⟨hencode, -⟩ := decoded_reencodes h
  have hdecoded : LaserSession.decode command buffer response finalChunk = decodedAs buffer :=
    tryDecodeFrame_ok.1 hbegins
  refine ⟨?_, ?_⟩
  · rw [hdecoded]
    exact ⟨hfields, hmin, hmax⟩
  · show encodeFrame (tryDecodeFrame _ _ _ _ _).frame.counter _ _ _ <+: buffer
    rw [LaserSession.decode, hencode]
    exact List.take_prefix _ _

/-- **What is returned** is the frame that the bytes read begin with. -/
theorem receive_success (reads : List (Except (Option String) (List UInt8))) :
    ∀ buffer response message,
      (LaserSession.receive command reads buffer response message).success = true →
        let frame := (LaserSession.receive command reads buffer response message).response
        IsFrame frame ∧
          encodeFrame frame.counter frame.addr frame.command frame.payload <+:
            buffer ++ (reads.filterMap Except.toOption).flatten := by
  -- the bytes read so far are in the buffer
  induction reads with
  | nil =>
    intro buffer response message h
    cases h
  | cons read reads ih =>
    intro buffer response message h
    cases read with
    | error transportError =>
      rw [LaserSession.receive] at h ⊢
      by_cases hempty : buffer.isEmpty
      · rw [if_pos hempty] at h
        cases h
      rw [if_neg hempty] at h ⊢
      by_cases hok : (LaserSession.decode command buffer response true).status = .ok
      · rw [if_pos hok] at h ⊢
        obtain ⟨hframe, hfront⟩ := decode_ok hok
        exact ⟨hframe, hfront.trans (List.prefix_append _ _)⟩
      · rw [if_neg hok] at h
        cases h
    | ok chunk =>
      have hflat : buffer ++ ((Except.ok chunk :: reads).filterMap Except.toOption).flatten =
          buffer ++ chunk ++ (reads.filterMap Except.toOption).flatten :=
        (List.append_assoc _ _ _).symm
      rw [LaserSession.receive] at h ⊢
      rw [hflat]
      dsimp only at h ⊢
      by_cases hok : (LaserSession.decode command (buffer ++ chunk) response false).status = .ok
      · rw [if_pos hok] at h ⊢
        obtain ⟨hframe, hfront⟩ := decode_ok hok
        exact ⟨hframe, hfront.trans (List.prefix_append _ _)⟩
      rw [if_neg hok] at h ⊢
      by_cases hmore :
          (LaserSession.decode command (buffer ++ chunk) response false).status ≠ .incomplete
      · rw [if_pos hmore] at h
        cases h
      · rw [if_neg hmore] at h ⊢
        exact ih _ _ _ h

/-- A frame in front of other bytes. -/
theorem decode_frame {frame : LaserFrame} (h : IsFrame frame) (more : List UInt8) :
    (tryDecodeFrame (encodeFrame frame.counter frame.addr frame.command frame.payload ++ more)
      (-1) (-1) {} false).frame = frame := by
  rw [tryDecodeFrame_encodeFrame h.min h.max more {} false (.inl (by decide)) (.inl (by decide))]
  exact h.fields.symm

/-- Bytes begin with one frame at most. -/
theorem frame_unique {first second : LaserFrame} {bytes : List UInt8} (hfirst : IsFrame first)
    (hsecond : IsFrame second)
    (hone : encodeFrame first.counter first.addr first.command first.payload <+: bytes)
    (htwo : encodeFrame second.counter second.addr second.command second.payload <+: bytes) :
    first = second := by
  obtain ⟨more, rfl⟩ := hone
  obtain ⟨more', hsame⟩ := htwo
  calc first = _ := (decode_frame hfirst more).symm
    _ = _ := by rw [← hsame]
    _ = second := decode_frame hsecond more'

theorem isFrame_frameOf {counter : UInt16} {addr : UInt8} {payload : List UInt8}
    (hmin : kMinPayloadLen ≤ payload.length) (hmax : payload.length ≤ 65527) :
    IsFrame (frameOf counter addr command payload) := ⟨rfl, hmin, hmax⟩

variable {connection : Connection} {r : Request}

/-- **A successful request** returns its own answer iff what arrives after it has been written
begins with this answer. -/
theorem own_answer_iff (hserved : Served connection r) (hok : Succeeds connection r) :
    OwnAnswer connection r ↔ Undisturbed connection r := by
  obtain ⟨himmediate, hsuccess⟩ := hok
  -- the request was written, so what is returned has been received
  have hwritten : r.transport.writeError = none := by
    cases herror : r.transport.writeError with
    | none => rfl
    | some message =>
      unfold Connection.received LaserSession.sendAndReceive at hsuccess
      rw [herror] at hsuccess
      cases hsuccess
  have hreceived : connection.received r =
      LaserSession.receive r.command r.transport.reads [] r.response r.errorMessage := by
    unfold Connection.received LaserSession.sendAndReceive
    rw [hwritten]
  rw [hreceived] at hsuccess
  obtain ⟨hframe, hfront⟩ := receive_success r.transport.reads [] r.response r.errorMessage hsuccess
  have hstream := hfront.trans hserved.inOrder
  rw [← hreceived] at hframe hstream
  obtain ⟨addr, command, payload, ⟨hmin, hmax⟩, hanswer⟩ : IsAnswer connection.session.counter
      r.answer := by
    refine hserved.isAnswer.resolve_right fun hnone => hnone.2.elim (fun h => ?_) fun h => h hwritten
    cases himmediate.symm.trans h
  constructor
  · rintro ⟨addr', command', payload', hown, hresponse⟩
    rw [hresponse] at hstream
    unfold Undisturbed
    rw [hown]
    exact hstream
  · intro hfirst
    unfold Undisturbed at hfirst
    rw [hanswer] at hfirst
    exact ⟨addr, command, payload, hanswer,
      frame_unique hframe (isFrame_frameOf hmin hmax) hstream hfirst⟩

/-- Where all of the earlier answers has been read or discarded, nothing disturbs. -/
theorem undisturbed_of_discarded (h : connection.unread.length ≤ r.discarded) :
    Undisturbed connection r := by
  unfold Undisturbed Connection.stream
  rw [List.drop_eq_nil_of_le h]
  exact ⟨[], List.append_nil _⟩

end OneRequest

/-! ## §4. Runs -/

section Runs

/-- **Late answers.**  In every run, a request that is successful returns its own answer iff what
arrives after it has been written begins with this answer; so if that is so for every request, each
success is a request's own answer. -/
theorem late_frames_iff (connection : Connection) (rs : List Request)
    (hserved : requests.EveryStep (fun c r => Served c.state r) (Machine.start connection) rs) :
    requests.EveryStep
        (fun c r => Succeeds c.state r → (OwnAnswer c.state r ↔ Undisturbed c.state r))
        (Machine.start connection) rs ∧
      (requests.EveryStep (fun c r => Undisturbed c.state r) (Machine.start connection) rs →
        requests.EveryStep (fun c r => Succeeds c.state r → OwnAnswer c.state r)
          (Machine.start connection) rs) := by
  refine ⟨hserved.mono fun _ _ ht hok => own_answer_iff ht hok, fun hfirst => ?_⟩
  refine (hserved.and hfirst).mono ?_
  rintro c r ⟨ht, hundisturbed⟩ hok
  exact (own_answer_iff ht hok).mpr hundisturbed

/-- The answer to a query: nothing has been done yet. -/
def queryAnswer (counter : UInt16) : List UInt8 :=
  encodeFrame counter kDeviceAddr 6 [0, 0, 0, 0, 0, 0, 0, 0, 0, 0, 0]

/-- A query, with its answer and what is read. -/
def query (counter : UInt16) (reads : List (Except (Option String) (List UInt8))) : Request where
  command := 6
  payload := [0, 0, 0, 100]
  answer := queryAnswer counter
  transport := { reads := reads }

theorem isAnswer_query (counter : UInt16) : IsAnswer counter (queryAnswer counter) :=
  ⟨kDeviceAddr, 6, _, ⟨by decide, by decide⟩, rfl⟩

/-- Two queries, each answered in time. -/
theorem two_own_answers :
    requests.EveryStep (fun c r => Succeeds c.state r → OwnAnswer c.state r)
      (Machine.start {}) [query 0 [.ok (queryAnswer 0)], query 1 [.ok (queryAnswer 1)]] := by
  refine (late_frames_iff {} _ ?_).2 ?_
  · exact ⟨⟨.inl (isAnswer_query 0), by decide +kernel⟩,
      ⟨.inl (isAnswer_query 1), by decide +kernel⟩, trivial⟩
  · exact ⟨undisturbed_of_discarded (by decide +kernel),
      undisturbed_of_discarded (by decide +kernel), trivial⟩

/-- The answer to the first query arrives after the second one has been written, and is taken for
the answer to it. -/
theorem late_answer_taken :
    let late := query 0 []
    let next := query 1 [.ok (queryAnswer 0)]
    requests.EveryStep (fun c r => Served c.state r) (Machine.start {}) [late, next] ∧
      Succeeds (Connection.after {} late) next ∧
        ((Connection.after {} late).received next).response.counter = 0 ∧
          ¬ OwnAnswer (Connection.after {} late) next := by
  have hcounter : ((Connection.after {} (query 0 [])).received
      (query 1 [.ok (queryAnswer 0)])).response.counter = 0 := by
    decide +kernel
  refine ⟨⟨⟨.inl (isAnswer_query 0), by decide +kernel⟩,
    ⟨.inl (isAnswer_query 1), by decide +kernel⟩, trivial⟩, ⟨rfl, by decide +kernel⟩, hcounter, ?_⟩
  rintro ⟨addr, command, payload, -, hresponse⟩
  rw [hresponse] at hcounter
  cases hcounter

end Runs

end Stdiolink.LaserRadar
