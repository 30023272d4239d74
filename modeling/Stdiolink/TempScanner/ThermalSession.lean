/-
  Stdiolink.TempScanner.ThermalSession — reading registers, `thermal_session.cpp`.

  `transact` collects what `readSome` brings until there are as many bytes as the answer should
  have, and drops what is behind them.

  Main results:
    * `readRegisters_iff`  — the reads that succeed, and their registers;
    * `reads_exactly_iff`  — for which answers exactly the well-formed ones succeed.
-/
import Stdiolink.ScanRobot.RadarSession
import Stdiolink.TempScanner.ProtocolCodec

namespace Stdiolink.TempScanner

open Stdiolink.Lib
open Stdiolink.ScanRobot (Transport)

/-! ## §1. The session -/

/-- `ThermalSession`: the address of its parameters. -/
structure ThermalSession where
  deviceAddr : UInt8 := 1

/-- What `readRegisters` returns, and what it leaves behind its pointers. -/
structure RegistersRead where
  success : Bool
  registers : List UInt16
  errorMessage : String

namespace ThermalSession

/-- The message when the loop of `transact` ends without an answer. -/
def unanswered (buffer : List UInt8) (transportError : String) : String :=
  if !buffer.isEmpty then "Incomplete response frame"
  else if !transportError.isEmpty then transportError
  else "Read timeout"

/-- The loop of `transact`, with the reads for which there is time: the response frame. -/
def receive (deviceAddr expectedFunctionCode : UInt8) (expectedNormalResponseSize : Nat) :
    List (Except (Option String) (List UInt8)) → List UInt8 → Except String (List UInt8)
  | [], buffer => .error (unanswered buffer "")
  | .error transportError :: _, buffer => .error (unanswered buffer (transportError.getD ""))
  | .ok chunk :: reads, buffer =>
    let buffer := buffer ++ chunk
    if buffer.length < 5 then
      receive deviceAddr expectedFunctionCode expectedNormalResponseSize reads buffer
    else if buffer.getD 0 0 ≠ deviceAddr then .error "Device address mismatch"
    else
      let functionCode := buffer.getD 1 0
      if functionCode ≠ expectedFunctionCode ||| 0x80 ∧ functionCode ≠ expectedFunctionCode then
        .error "Unexpected function code"
      else
        -- an exception has five bytes
        let expectedSize :=
          if functionCode = expectedFunctionCode ||| 0x80 then 5 else expectedNormalResponseSize
        if buffer.length < expectedSize then
          receive deviceAddr expectedFunctionCode expectedNormalResponseSize reads buffer
        else .ok (buffer.take expectedSize)

/-- `transact`; the request is written first. -/
def transact (session : ThermalSession) (transport : Transport) (expectedFunctionCode : UInt8)
    (expectedNormalResponseSize : Nat) : Except String (List UInt8) :=
  match transport.writeError with
  | some message => .error (message.getD "")
  | none =>
    receive session.deviceAddr expectedFunctionCode expectedNormalResponseSize transport.reads []

/-- `readRegisters`: the request that is written, and the outcome. -/
def readRegisters (session : ThermalSession) (transport : Transport)
    (startRegister registerCount : UInt16) (registers : List UInt16) :
    List UInt8 × RegistersRead :=
  (buildReadHoldingRegistersRequest session.deviceAddr startRegister registerCount,
    match session.transact transport FunctionCode.readHoldingRegisters
      (expectedReadHoldingRegistersResponseSize registerCount) with
    | .error message => ⟨false, registers, message⟩
    | .ok response =>
      let parsed := parseReadHoldingRegistersResponse response session.deviceAddr registers {} ""
        registerCount
      ⟨parsed.status = .ok, parsed.registers, parsed.errorMessage⟩)

/-- The bytes that have been read when there are at least so many; some are in the buffer. -/
inductive Completes (size : Nat) :
    List (Except (Option String) (List UInt8)) → List UInt8 → List UInt8 → Prop
  | last {chunk : List UInt8} {reads : List (Except (Option String) (List UInt8))}
      {buffer : List UInt8} (h : size ≤ (buffer ++ chunk).length) :
      Completes size (.ok chunk :: reads) buffer (buffer ++ chunk)
  | more {chunk : List UInt8} {reads : List (Except (Option String) (List UInt8))}
      {buffer bytes : List UInt8} (h : (buffer ++ chunk).length < size)
      (hrest : Completes size reads (buffer ++ chunk) bytes) :
      Completes size (.ok chunk :: reads) buffer bytes

section Property

variable (session : ThermalSession) (transport : Transport)
  (startRegister registerCount : UInt16) (registers : List UInt16)

/-- The read succeeds with these registers. -/
def ReadsAs (values : List UInt16) : Prop :=
  (session.readRegisters transport startRegister registerCount registers).2.success = true ∧
    (session.readRegisters transport startRegister registerCount registers).2.registers = values

/-- **Exact reads**: a well-formed answer, cut anywhere, succeeds with its registers, and what
succeeds is a well-formed answer with the registers that are returned. -/
structure ReadsExactly : Prop where
  answered : ∀ (values : List UInt16) (chunks : List (List UInt8)) after,
    values.length = registerCount.toNat → transport.writeError = none →
    transport.reads = chunks.map .ok ++ after →
      chunks.flatten = registersFrame session.deviceAddr values →
        ReadsAs session transport startRegister registerCount registers values
  sound : ∀ values, ReadsAs session transport startRegister registerCount registers values →
    ∃ bytes, Completes (expectedReadHoldingRegistersResponseSize registerCount) transport.reads []
        bytes ∧
      bytes = registersFrame session.deviceAddr values ∧ values.length = registerCount.toNat

/-- If what is read begins with a well-formed answer, a byte can be its byte count iff nothing else
has been read. -/
def AnswersFit : Prop :=
  transport.writeError = none → ∀ bytes values,
    Completes (expectedReadHoldingRegistersResponseSize registerCount) transport.reads [] bytes →
      values.length = registerCount.toNat → registersFrame session.deviceAddr values <+: bytes →
        (ByteCountFits registerCount ↔ bytes = registersFrame session.deviceAddr values)

end Property

/-! ## §2. Receiving -/

section Receiving

variable {addr : UInt8} {size : Nat}

/-- An exception is not the function itself. -/
theorem exception_ne :
    FunctionCode.readHoldingRegisters ||| 0x80 ≠ FunctionCode.readHoldingRegisters := by
  decide

variable {reads : List (Except (Option String) (List UInt8))} {buffer bytes : List UInt8}

/-- The bytes that have been read begin with the buffer, and there are enough. -/
theorem Completes.spec (h : Completes size reads buffer bytes) :
    buffer <+: bytes ∧ size ≤ bytes.length := by
  induction h with
  | last h => exact ⟨List.prefix_append _ _, h⟩
  | more _ _ ih => exact ⟨(List.prefix_append _ _).trans ih.1, ih.2⟩

theorem Completes.unique {bytes' : List UInt8} (h : Completes size reads buffer bytes)
    (h' : Completes size reads buffer bytes') : bytes = bytes' := by
  induction h with
  | last hsize =>
    cases h' with
    | last => rfl
    | more hlt => exact absurd hsize (Nat.not_le_of_lt hlt)
  | more hlt _ ih =>
    cases h' with
    | last hsize => exact absurd hsize (Nat.not_le_of_lt hlt)
    | more _ hrest => exact ih hrest

/-- An answer that is cut into chunks is read when it is complete. -/
theorem completes_of_chunks (after : List (Except (Option String) (List UInt8)))
    (chunks : List (List UInt8)) :
    ∀ buffer, buffer.length < bytes.length → buffer ++ chunks.flatten = bytes →
      Completes bytes.length (chunks.map .ok ++ after) buffer bytes := by
  induction chunks with
  | nil =>
    intro buffer hlt hbytes
    rw [List.flatten_nil, List.append_nil] at hbytes
    exact absurd hbytes fun h => Nat.lt_irrefl _ (h ▸ hlt)
  | cons chunk chunks ih =>
    intro buffer hlt hbytes
    rw [List.flatten_cons, ← List.append_assoc] at hbytes
    by_cases hmore : (buffer ++ chunk).length < bytes.length
    · exact .more hmore (ih (buffer ++ chunk) hmore hbytes)
    · -- nothing but empty chunks comes after the last byte
      have hlen := congrArg List.length hbytes
      rw [List.length_append] at hlen
      have hnone : chunks.flatten = [] := List.eq_nil_of_length_eq_zero (by omega)
      rw [hnone, List.append_nil] at hbytes
      have hlast : Completes bytes.length (.ok chunk :: (chunks.map .ok ++ after)) buffer
          (buffer ++ chunk) := .last (Nat.not_lt.mp hmore)
      rwa [hbytes] at hlast

/-- What has been read has come in chunks. -/
theorem Completes.chunks {reads : List (Except (Option String) (List UInt8))}
    {buffer bytes : List UInt8} (h : Completes size reads buffer bytes) :
    ∃ (chunks : List (List UInt8)) (after : List (Except (Option String) (List UInt8))),
      reads = chunks.map .ok ++ after ∧ buffer ++ chunks.flatten = bytes := by
  induction h with
  | @last chunk reads buffer _ =>
    refine ⟨[chunk], reads, rfl, ?_⟩
    rw [List.flatten_cons, List.flatten_nil, List.append_nil]
  | @more chunk reads buffer bytes _ _ ih =>
    obtain ⟨chunks, after, rfl, rfl⟩ := ih
    exact ⟨chunk :: chunks, after, rfl, (List.append_assoc _ _ _).symm⟩

/-- A byte of what has been read so far. -/
theorem getD_of_begins {front : List UInt8} {i : Nat} (h : front <+: bytes) (hi : i < front.length) :
    front.getD i 0 = bytes.getD i 0 := by
  obtain ⟨rest, rfl⟩ := h
  exact (List.getD_append _ _ _ _ hi).symm

/-- **A complete answer** of the device is received, up to its size. -/
theorem receive_complete (hfive : 5 ≤ size) (h : Completes size reads buffer bytes)
    (haddr : bytes.getD 0 0 = addr) (hfunction : bytes.getD 1 0 = FunctionCode.readHoldingRegisters) :

    receive addr FunctionCode.readHoldingRegisters size reads buffer =
      .ok (bytes.take size) := by
  induction h with
  | last hsize =>
    rw [receive]
    dsimp only
    rw [if_neg (by omega), if_neg (not_not.mpr haddr), hfunction, if_neg fun h => h.2 rfl,
      if_neg exception_ne.symm, if_neg (by omega)]
  | @more chunk reads buffer bytes hlt hrest ih =>
    -- what has been read so far begins with the same two bytes, if there are five
    have hfront := hrest.spec.1
    rw [receive]
    dsimp only
    by_cases hfew : (buffer ++ chunk).length < 5
    · rw [if_pos hfew]
      exact ih haddr hfunction
    · rw [if_neg hfew, getD_of_begins hfront (by omega), getD_of_begins hfront (by omega),
        if_neg (not_not.mpr haddr), hfunction, if_neg fun h => h.2 rfl, if_neg exception_ne.symm,
        if_pos hlt]
      exact ih haddr hfunction

/-- **What is received** with the function that was asked for has come in as many bytes as it should
have. -/
theorem receive_ok {response : List UInt8}
    (hfunction : response.getD 1 0 = FunctionCode.readHoldingRegisters)
    (reads : List (Except (Option String) (List UInt8))) :
    ∀ buffer, receive addr FunctionCode.readHoldingRegisters size reads buffer = .ok response →
      5 ≤ size → ∃ bytes, Completes size reads buffer bytes ∧ response = bytes.take size := by
  induction reads with
  | nil =>
    intro buffer h
    cases h
  | cons read reads ih =>
    intro buffer h hfive
    cases read with
    | error transportError => cases h
    | ok chunk =>
      have hgoes : (buffer ++ chunk).length < size →
          receive addr FunctionCode.readHoldingRegisters size reads (buffer ++ chunk) =
            .ok response →
          ∃ bytes, Completes size (.ok chunk :: reads) buffer bytes ∧
            response = bytes.take size := by
        intro hlt hrest
        obtain ⟨bytes, hcomplete, hresponse⟩ := ih (buffer ++ chunk) hrest hfive
        exact ⟨bytes, .more hlt hcomplete, hresponse⟩
      rw [receive] at h
      dsimp only at h
      by_cases hfew : (buffer ++ chunk).length < 5
      · rw [if_pos hfew] at h
        exact hgoes (by omega) h
      rw [if_neg hfew] at h
      split at h
      · cases h
      split at h
      · cases h
      by_cases hexception : (buffer ++ chunk).getD 1 0 = FunctionCode.readHoldingRegisters ||| 0x80
      · -- five bytes of an exception do not have the function
        rw [if_pos hexception, if_neg hfew] at h
        obtain rfl := Except.ok.inj h
        have hlen : 1 < ((buffer ++ chunk).take 5).length := by
          rw [List.length_take]
          omega
        rw [getD_of_begins (List.take_prefix 5 (buffer ++ chunk)) hlen, hexception] at hfunction
        exact absurd hfunction exception_ne
      · rw [if_neg hexception] at h
        by_cases hmore : (buffer ++ chunk).length < size
        · rw [if_pos hmore] at h
          exact hgoes hmore h
        · rw [if_neg hmore] at h
          exact ⟨_, .last (Nat.not_lt.mp hmore), (Except.ok.inj h).symm⟩

end Receiving

/-! ## §3. Reads -/

section Reads

variable {session : ThermalSession} {transport : Transport}
  {startRegister registerCount : UInt16} {registers : List UInt16}

/-- The size of the answer. -/
theorem size_eq {values : List UInt16} (hlen : values.length = registerCount.toNat) :
    expectedReadHoldingRegistersResponseSize registerCount =
      (registersFrame session.deviceAddr values).length := by
  rw [length_registersFrame, hlen]
  unfold expectedReadHoldingRegistersResponseSize
  omega

/-- **Reads that succeed**: what has been read begins with the well-formed answer with the registers
that are returned, and a byte can be its byte count. -/
theorem readRegisters_iff {values : List UInt16} :
    ReadsAs session transport startRegister registerCount registers values ↔
      transport.writeError = none ∧ ByteCountFits registerCount ∧
        values.length = registerCount.toNat ∧
          ∃ bytes,
            Completes (expectedReadHoldingRegistersResponseSize registerCount) transport.reads []
              bytes ∧
              registersFrame session.deviceAddr values <+: bytes := by
  have hfive : 5 ≤ expectedReadHoldingRegistersResponseSize registerCount := by
    unfold expectedReadHoldingRegistersResponseSize
    omega
  unfold ReadsAs readRegisters transact
  dsimp only
  cases transport.writeError with
  | some message =>
    constructor
    · rintro ⟨h, -⟩
      cases h
    · rintro ⟨h, -⟩
      cases h
  | none =>
    dsimp only
    constructor
    · rintro ⟨hsuccess, hregisters⟩
      cases hreceive : receive session.deviceAddr FunctionCode.readHoldingRegisters
          (expectedReadHoldingRegistersResponseSize registerCount) transport.reads [] with
      | error message =>
        rw [hreceive] at hsuccess
        cases hsuccess
      | ok response =>
        rw [hreceive] at hsuccess hregisters
        dsimp only at hsuccess hregisters
        have haccepted : Accepted session.deviceAddr registerCount response :=
          parse_accepted.2 (of_decide_eq_true hsuccess)
        obtain ⟨hfits, values', hlen, rfl⟩ := accepted_iff.mp haccepted
        rw [parse_accepted.1 haccepted, ← hlen, registers_registersFrame] at hregisters
        obtain rfl : values' = values := hregisters
        obtain ⟨bytes, hcomplete, hresponse⟩ :=
          receive_ok haccepted.function transport.reads [] hreceive hfive
        refine ⟨rfl, hfits, hlen, bytes, hcomplete, ?_⟩
        rw [hresponse]
        exact List.take_prefix _ _
    · rintro ⟨-, hfits, hlen, bytes, hcomplete, hfront⟩
      have hsize := @size_eq session registerCount values hlen
      have htake : bytes.take (expectedReadHoldingRegistersResponseSize registerCount) =
          registersFrame session.deviceAddr values := by
        rw [hsize]
        exact (List.prefix_iff_eq_take.mp hfront).symm
      have haccepted : Accepted session.deviceAddr registerCount
          (registersFrame session.deviceAddr values) :=
        accepted_iff.mpr ⟨hfits, values, hlen, rfl⟩
      have hshort : 1 < (registersFrame session.deviceAddr values).length := by
        rw [← hsize]
        omega
      have hreceive := receive_complete hfive hcomplete
        ((getD_of_begins hfront (by omega)).symm.trans haccepted.addr)
        ((getD_of_begins hfront hshort).symm.trans haccepted.function)
      rw [hreceive, htake]
      dsimp only
      rw [parse_accepted.1 haccepted, ← hlen, registers_registersFrame]
      exact ⟨rfl, rfl⟩

/-- **Reads of the temperature scanner.**  The reads that succeed are those that are answered by a
well-formed frame, iff what is read, where it begins with such a frame, is all of it, and a byte can
be its byte count. -/
theorem reads_exactly_iff (session : ThermalSession) (transport : Transport)
    (startRegister registerCount : UInt16) (registers : List UInt16) :
    ReadsExactly session transport startRegister registerCount registers ↔
      AnswersFit session transport registerCount := by
  constructor
  · rintro ⟨hanswered, hsound⟩ hwritten bytes values hcomplete hlen hfront
    constructor
    · intro hfits
      obtain ⟨bytes', hcomplete', hbytes, -⟩ := hsound values <|
        readRegisters_iff.mpr ⟨hwritten, hfits, hlen, bytes, hcomplete, hfront⟩
      exact (hcomplete.unique hcomplete').trans hbytes
    · rintro rfl
      obtain ⟨chunks, after, hreads, hchunks⟩ := hcomplete.chunks
      exact (readRegisters_iff.mp (hanswered values chunks after hlen hwritten hreads hchunks)).2.1
  · intro hfit
    refine ⟨?_, ?_⟩
    · intro values chunks after hlen hwritten hreads hchunks
      have hcomplete : Completes (expectedReadHoldingRegistersResponseSize registerCount)
          transport.reads [] (registersFrame session.deviceAddr values) := by
        rw [hreads, @size_eq session registerCount values hlen]
        refine completes_of_chunks after chunks [] ?_ hchunks
        rw [length_registersFrame]
        exact Nat.lt_add_right _ (by decide)
      have hfits := (hfit hwritten _ values hcomplete hlen List.prefix_rfl).mpr rfl
      exact readRegisters_iff.mpr ⟨hwritten, hfits, hlen, _, hcomplete, List.prefix_rfl⟩
    · intro values hread
      obtain ⟨hwritten, hfits, hlen, bytes, hcomplete, hfront⟩ := readRegisters_iff.mp hread
      exact ⟨bytes, hcomplete, (hfit hwritten bytes _ hcomplete hlen hfront).mp hfits, hlen⟩

/-- Well-formed answers with 128 registers fail, and one register with a byte behind the answer is
read. -/
theorem exact_reads_missed :
    ¬ ReadsExactly {} { reads := [.ok (registersFrame 1 (List.replicate 128 0))] } 0 128 [] ∧
      ReadsAs {} { reads := [.ok (registersFrame 1 [7] ++ [0])] } 0 1 [] [7] ∧
        ¬ ReadsExactly {} { reads := [.ok (registersFrame 1 [7] ++ [0])] } 0 1 [] := by
  have hread : ReadsAs {} { reads := [.ok (registersFrame 1 [7] ++ [0])] } 0 1 [] [7] := by
    unfold ReadsAs
    decide +kernel
  refine ⟨fun h => ?_, hread, fun h => ?_⟩
  · have hlen : (List.replicate 128 (0 : UInt16)).length = (128 : UInt16).toNat :=
      List.length_replicate
    have hanswered := h.answered (List.replicate 128 0) [registersFrame 1 (List.replicate 128 0)] []
      hlen rfl rfl (List.append_nil _)
    exact absurd (readRegisters_iff.mp hanswered).2.1 (by decide)
  · obtain ⟨bytes, hcomplete, hbytes, -⟩ := h.sound [7] hread
    have hlast : Completes (expectedReadHoldingRegistersResponseSize 1)
        [.ok (registersFrame 1 [7] ++ [0])] [] (registersFrame 1 [7] ++ [0]) :=
      .last (by decide +kernel)
    have hsame := (hcomplete.unique hlast).symm.trans hbytes
    have hlen := congrArg List.length hsame
    rw [List.length_append] at hlen
    exact absurd hlen (Nat.succ_ne_self _)

end Reads

end ThermalSession

end Stdiolink.TempScanner
