/-
  Stdiolink.TempScanner.ProtocolCodec — the frames of the temperature scanner,
  `protocol_codec.cpp`.

  The frames are those of Modbus RTU, but an answer may bring more registers than its byte count can
  hold; the byte count of more than 255 registers is 0.

  Main results:
    * `verifyModbusCrc16_iff` — the frames that end with their CRC;
    * `parse_ok_iff`          — the answers that are taken for so many registers.
-/
import Stdiolink.Modbus.RtuServer

namespace Stdiolink.TempScanner

open Stdiolink.Lib
open Stdiolink.Modbus (calculateCRC16)

/-! ## §1. Frames -/

namespace FunctionCode

def readHoldingRegisters : UInt8 := 0x03

end FunctionCode

inductive ParseStatus where
  | ok
  | needMore
  | crcError
  | addressMismatch
  | functionMismatch
  | exceptionResponse
  | invalidLength
  | invalidByteCount
  | echoMismatch
  deriving DecidableEq, Repr

structure ExceptionFrame where
  functionCode : UInt8 := 0
  exceptionCode : UInt8 := 0
  deriving DecidableEq, Repr

/-- `calculateModbusCrc16`: the table and the loop are those of the Modbus server. -/
def calculateModbusCrc16 (data : List UInt8) : UInt16 := calculateCRC16 data

/-- A CRC travels low byte first. -/
def crcBytes (crc : UInt16) : List UInt8 := [crc.toUInt8, (crc >>> 8).toUInt8]

/-- `finalizeRequest`. -/
def finalizeRequest (payload : List UInt8) : List UInt8 :=
  payload ++ crcBytes (calculateModbusCrc16 payload)

/-- `buildReadHoldingRegistersRequest`. -/
def buildReadHoldingRegistersRequest (deviceAddr : UInt8) (startRegister registerCount : UInt16) :
    List UInt8 :=
  finalizeRequest ([deviceAddr, FunctionCode.readHoldingRegisters] ++ wordBytes startRegister ++
    wordBytes registerCount)

def expectedReadHoldingRegistersResponseSize (registerCount : UInt16) : Nat :=
  1 + 1 + 1 + registerCount.toNat * 2 + 2

/-- `verifyModbusCrc16`. -/
def verifyModbusCrc16 (frame : List UInt8) : Bool :=
  if frame.length < 4 then false
  else
    let actual := calculateModbusCrc16 (frame.take (frame.length - 2))
    let expected :=
      joinBytes (frame.getD (frame.length - 1) 0) (frame.getD (frame.length - 2) 0)
    actual = expected

/-- `modbusExceptionMessage`. -/
def modbusExceptionMessage (exceptionCode : UInt8) : String :=
  if exceptionCode = 1 then "Illegal function"
  else if exceptionCode = 2 then "Illegal data address"
  else if exceptionCode = 3 then "Illegal data value"
  else if exceptionCode = 4 then "Slave device failure"
  else "Modbus exception: " ++ toString exceptionCode.toNat

/-! ## §2. Parsing -/

/-- What a parser returns, and what it leaves behind its pointers. -/
structure Parsed where
  status : ParseStatus
  registers : List UInt16
  exceptionFrame : ExceptionFrame
  errorMessage : String

section Parse

variable (frame : List UInt8) (expectedDeviceAddr : UInt8) (registers : List UInt16)
  (exceptionFrame : ExceptionFrame) (errorMessage : String)

/-- `parseCommonHeader`; `registers` passes through. -/
def parseCommonHeader (expectedFunctionCode : UInt8) : Parsed :=
  if frame.length < 5 then ⟨.needMore, registers, exceptionFrame, "Frame too short"⟩
  else if !verifyModbusCrc16 frame then ⟨.crcError, registers, exceptionFrame, "CRC error"⟩
  else if frame.getD 0 0 ≠ expectedDeviceAddr then
    ⟨.addressMismatch, registers, exceptionFrame, "Device address mismatch"⟩
  else
    let functionCode := frame.getD 1 0
    if functionCode = expectedFunctionCode ||| 0x80 then
      ⟨.exceptionResponse, registers, ⟨functionCode, frame.getD 2 0⟩,
        modbusExceptionMessage (frame.getD 2 0)⟩
    else if functionCode ≠ expectedFunctionCode then
      ⟨.functionMismatch, registers, exceptionFrame, "Function code mismatch"⟩
    else ⟨.ok, registers, exceptionFrame, errorMessage⟩

/-- `parseReadHoldingRegistersResponse`. -/
def parseReadHoldingRegistersResponse (expectedRegisterCount : UInt16) : Parsed :=
  let header := parseCommonHeader frame expectedDeviceAddr registers exceptionFrame errorMessage
    FunctionCode.readHoldingRegisters
  if header.status ≠ .ok then header
  else
    let expectedSize := expectedReadHoldingRegistersResponseSize expectedRegisterCount
    if frame.length < expectedSize then
      { header with status := .needMore, errorMessage := "Incomplete register response" }
    else if frame.length ≠ expectedSize then
      { header with status := .invalidLength, errorMessage := "Register response length mismatch" }
    else
      let byteCount := (frame.getD 2 0).toNat
      let expectedByteCount := (expectedRegisterCount * 2).toNat
      if expectedRegisterCount > 255 ∧ byteCount ≠ 0 then
        { header with
          status := .invalidByteCount
          errorMessage := "Large register response must use byte_count=0" }
      -- a byte is compared with a word: from 128 registers on they are never the same
      else if ¬ expectedRegisterCount > 255 ∧ byteCount ≠ expectedByteCount then
        { header with
          status := .invalidByteCount
          errorMessage := "Register response byte_count mismatch" }
      else
        { header with
          registers := (List.range expectedRegisterCount.toNat).map fun i =>
            joinBytes (frame.getD (3 + i * 2) 0) (frame.getD (3 + i * 2 + 1) 0) }

end Parse

/-! ## §3. Well-formed answers -/

/-- The byte count of an answer with so many registers: what fits into a byte, and 0 for more than
255 registers. -/
def byteCountOf (count : Nat) : UInt8 := if count ≤ 255 then UInt8.ofNat (2 * count) else 0

/-- The answer with these registers. -/
def registersFrame (deviceAddr : UInt8) (values : List UInt16) : List UInt8 :=
  finalizeRequest ([deviceAddr, FunctionCode.readHoldingRegisters, byteCountOf values.length] ++
    values.flatMap wordBytes)

/-- The byte count can be the one that is expected. -/
def ByteCountFits (count : UInt16) : Prop := count.toNat ≤ 127 ∨ 256 ≤ count.toNat

instance (count : UInt16) : Decidable (ByteCountFits count) := by
  unfold ByteCountFits
  infer_instance

theorem length_flatMap_wordBytes (values : List UInt16) :
    (values.flatMap wordBytes).length = 2 * values.length := by
  induction values with
  | nil => rfl
  | cons value values ih =>
    rw [List.flatMap_cons, List.length_append, ih, wordBytes_length, List.length_cons]
    omega

theorem length_registersFrame (deviceAddr : UInt8) (values : List UInt16) :
    (registersFrame deviceAddr values).length = 5 + 2 * values.length := by
  unfold registersFrame finalizeRequest crcBytes
  simp only [List.length_append, List.length_cons, List.length_nil, length_flatMap_wordBytes]
  omega

/-- **The CRC**: a frame that ends with the one of what comes before it. -/
theorem verifyModbusCrc16_iff {frame : List UInt8} :
    verifyModbusCrc16 frame = true ↔
      4 ≤ frame.length ∧ frame = finalizeRequest (frame.take (frame.length - 2)) := by
  unfold verifyModbusCrc16 finalizeRequest
  by_cases hfour : frame.length < 4
  · rw [if_pos hfour]
    constructor
    · intro h
      cases h
    · intro h
      omega
  · rw [if_neg hfour]
    have hlast : frame.drop (frame.length - 2) =
        [frame.getD (frame.length - 2) 0, frame.getD (frame.length - 1) 0] := by
      have hdrop := @drop_two frame (frame.length - 2) (by omega)
      have hsucc : frame.length - 2 + 1 = frame.length - 1 := by omega
      rwa [hsucc] at hdrop
    have hsplit := List.take_append_drop (frame.length - 2) frame
    rw [hlast] at hsplit
    generalize frame.getD (frame.length - 2) 0 = low at *
    generalize frame.getD (frame.length - 1) 0 = high at *
    generalize frame.take (frame.length - 2) = front at *
    dsimp only
    rw [decide_eq_true_iff, ← hsplit]
    unfold crcBytes
    constructor
    · intro hcrc
      refine ⟨?_, ?_⟩
      · rw [hsplit]
        omega
      · rw [hcrc, join_hi, join_lo]
    · rintro ⟨-, hsame⟩
      obtain ⟨hlow, hhigh⟩ := List.cons.inj (List.append_cancel_left hsame)
      obtain ⟨hhigh, -⟩ := List.cons.inj hhigh
      rw [hlow, hhigh, join_bytes]

/-! ## §4. Answers that are taken -/

/-- The loop over the registers reads the words of the data. -/
theorem range_words {count : Nat} : ∀ {data : List UInt8}, data.length = 2 * count →
    ((List.range count).map fun i =>
      joinBytes (data.getD (i * 2) 0) (data.getD (i * 2 + 1) 0)) = wordsOf data := by
  induction count with
  | zero =>
    intro data h
    obtain rfl := List.eq_nil_of_length_eq_zero h
    rfl
  | succ count ih =>
    intro data h
    match data, h with
    | hi :: lo :: rest, h =>
      rw [List.length_cons, List.length_cons] at h
      rw [List.range_succ_eq_map, List.map_cons, List.map_map, wordsOf, ← @ih rest (by omega)]
      refine congrArg₂ List.cons rfl (List.map_congr_left fun i _ => ?_)
      have hhigh : (i + 1) * 2 = i * 2 + 1 + 1 := by omega
      show joinBytes ((hi :: lo :: rest).getD ((i + 1) * 2) 0)
        ((hi :: lo :: rest).getD ((i + 1) * 2 + 1) 0) = _
      rw [hhigh, List.getD_cons_succ, List.getD_cons_succ, List.getD_cons_succ,
        List.getD_cons_succ]

/-- The registers of a frame with a header of three bytes. -/
theorem registers_read {header data crc : List UInt8} {count : Nat} (hheader : header.length = 3)
    (hdata : data.length = 2 * count) :
    ((List.range count).map fun i =>
      joinBytes ((header ++ data ++ crc).getD (3 + i * 2) 0)
        ((header ++ data ++ crc).getD (3 + i * 2 + 1) 0)) = wordsOf data := by
  rw [← range_words hdata]
  refine List.map_congr_left fun i hi => ?_
  have hlt := List.mem_range.mp hi
  have hget : ∀ j < 2 * count, (header ++ data ++ crc).getD (3 + j) 0 = data.getD j 0 := by
    intro j hj
    rw [List.append_assoc, List.getD_append_right _ _ _ _ (by omega), hheader,
      Nat.add_sub_cancel_left, List.getD_append _ _ _ _ (by omega)]
  rw [Nat.add_assoc, hget _ (by omega), hget _ (by omega)]

section Answers

variable {addr : UInt8} {count : UInt16} {frame : List UInt8} {registers : List UInt16}
  {exceptionFrame : ExceptionFrame} {errorMessage : String}

/-- Twice a count that is not large. -/
theorem toNat_twice (h : ¬ count > 255) : (count * 2).toNat = 2 * count.toNat := by
  have hlt : count.toNat ≤ 255 := UInt16.le_iff_toNat_le.mp (UInt16.not_lt.mp h)
  rw [UInt16.toNat_mul]
  show count.toNat * 2 % 2 ^ 16 = _
  omega

theorem large_iff : count > 255 ↔ 256 ≤ count.toNat := UInt16.lt_iff_toNat_lt

/-- The frames that `parseReadHoldingRegistersResponse` takes, as it checks them. -/
structure Accepted (addr : UInt8) (count : UInt16) (frame : List UInt8) : Prop where
  crc : verifyModbusCrc16 frame = true
  addr : frame.getD 0 0 = addr
  function : frame.getD 1 0 = FunctionCode.readHoldingRegisters
  length : frame.length = expectedReadHoldingRegistersResponseSize count
  large : count > 255 → (frame.getD 2 0).toNat = 0
  small : ¬ count > 255 → (frame.getD 2 0).toNat = (count * 2).toNat

/-- Reading the checks off the parser. -/
theorem parse_accepted :
    (Accepted addr count frame →
        parseReadHoldingRegistersResponse frame addr registers exceptionFrame errorMessage count =
          ⟨.ok, (List.range count.toNat).map fun i =>
              joinBytes (frame.getD (3 + i * 2) 0) (frame.getD (3 + i * 2 + 1) 0),
            exceptionFrame, errorMessage⟩) ∧
      ((parseReadHoldingRegistersResponse frame addr registers exceptionFrame errorMessage
          count).status = .ok → Accepted addr count frame) := by
  constructor
  · rintro ⟨hcrc, haddr, hfunction, hlength, hlarge, hsmall⟩
    have hfive : ¬ frame.length < 5 := by
      rw [hlength]
      unfold expectedReadHoldingRegistersResponseSize
      omega
    have hheader : parseCommonHeader frame addr registers exceptionFrame errorMessage
        FunctionCode.readHoldingRegisters = ⟨.ok, registers, exceptionFrame, errorMessage⟩ := by
      unfold parseCommonHeader
      rw [if_neg hfive, hcrc, if_neg (by decide), if_neg (not_not.mpr haddr), hfunction]
      rfl
    unfold parseReadHoldingRegistersResponse
    rw [hheader]
    dsimp only
    rw [if_neg (by decide), if_neg (by omega), if_neg (not_not.mpr hlength),
      if_neg fun h => h.2 (hlarge h.1), if_neg fun h => h.2 (hsmall h.1)]
  · intro h
    unfold parseReadHoldingRegistersResponse at h
    dsimp only at h
    split at h
    · contradiction
    rename_i hheader
    split at h
    · cases h
    split at h
    · cases h
    rename_i hlength
    split at h
    · cases h
    rename_i hlarge
    split at h
    · cases h
    rename_i hsmall
    unfold parseCommonHeader at hheader
    split at hheader
    · exact absurd nofun hheader
    split at hheader
    · exact absurd nofun hheader
    rename_i hcrc
    split at hheader
    · exact absurd nofun hheader
    rename_i haddr
    dsimp only at hheader
    split at hheader
    · exact absurd nofun hheader
    split at hheader
    · exact absurd nofun hheader
    rename_i hfunction
    exact ⟨by simpa using hcrc, not_not.mp haddr, not_not.mp hfunction, not_not.mp hlength,
      fun hl => not_not.mp fun hn => hlarge ⟨hl, hn⟩,
      fun hs => not_not.mp fun hn => hsmall ⟨hs, hn⟩⟩

/-- The byte count, where it can be the one that is expected. -/
theorem byteCountOf_fits (hfits : ByteCountFits count) :
    (count > 255 → (byteCountOf count.toNat).toNat = 0) ∧
      (¬ count > 255 → (byteCountOf count.toNat).toNat = (count * 2).toNat) := by
  unfold byteCountOf
  constructor
  · intro hlarge
    have hcount := large_iff.mp hlarge
    rw [if_neg (by omega)]
    rfl
  · intro hsmall
    have hcount : ¬ 256 ≤ count.toNat := fun h => hsmall (large_iff.mpr h)
    unfold ByteCountFits at hfits
    rw [if_pos (by omega), toNat_twice hsmall, UInt8.toNat_ofNat']
    omega

/-- A frame as it is built, in its parts. -/
theorem registersFrame_eq (values : List UInt16) :
    registersFrame addr values =
      [addr, FunctionCode.readHoldingRegisters, byteCountOf values.length] ++
        values.flatMap wordBytes ++
          crcBytes (calculateModbusCrc16 ([addr, FunctionCode.readHoldingRegisters,
            byteCountOf values.length] ++ values.flatMap wordBytes)) := rfl

/-- What the registers of a frame are read as. -/
theorem registers_registersFrame (values : List UInt16) :
    ((List.range values.length).map fun i =>
      joinBytes ((registersFrame addr values).getD (3 + i * 2) 0)
        ((registersFrame addr values).getD (3 + i * 2 + 1) 0)) = values := by
  rw [registersFrame_eq, registers_read rfl (length_flatMap_wordBytes values)]
  exact wordsOf_flatMap values

/-- **The frames that are accepted** are the well-formed ones, of as many registers as are expected,
where a byte can be the byte count. -/
theorem accepted_iff :
    Accepted addr count frame ↔
      ByteCountFits count ∧
        ∃ values, values.length = count.toNat ∧ frame = registersFrame addr values := by
  constructor
  · rintro ⟨hcrc, haddr, hfunction, hlength, hlarge, hsmall⟩
    have hbyte := (frame.getD 2 0).toNat_lt
    have hfits : ByteCountFits count := by
      unfold ByteCountFits
      by_cases hcount : count > 255
      · exact .inr (large_iff.mp hcount)
      · have htwice := hsmall hcount
        rw [toNat_twice hcount] at htwice
        omega
    refine ⟨hfits, ?_⟩
    unfold expectedReadHoldingRegistersResponseSize at hlength
    -- the frame is a header of three bytes, the data and the CRC
    obtain ⟨-, hbuilt⟩ := verifyModbusCrc16_iff.mp hcrc
    have hsize : frame.length - 2 = 3 + 2 * count.toNat := by omega
    rw [hsize] at hbuilt
    match frame, hlength, hbuilt with
    | a :: f :: b :: rest, hlength, hbuilt =>
      obtain rfl : a = addr := haddr
      obtain rfl : f = FunctionCode.readHoldingRegisters := hfunction
      have hfront : (a :: FunctionCode.readHoldingRegisters :: b :: rest).take
          (3 + 2 * count.toNat) =
            [a, FunctionCode.readHoldingRegisters, b] ++ rest.take (2 * count.toNat) := by
        rw [Nat.add_comm]
        rfl
      have hdata : (rest.take (2 * count.toNat)).length = 2 * count.toNat := by
        simp only [List.length_cons] at hlength
        rw [List.length_take]
        omega
      obtain ⟨hwords, hlen⟩ := flatMap_wordsOf hdata
      refine ⟨wordsOf (rest.take (2 * count.toNat)), hlen, ?_⟩
      have hcountByte : byteCountOf count.toNat = b := by
        apply UInt8.toNat_inj.mp
        obtain ⟨hzero, htwice⟩ := byteCountOf_fits hfits
        by_cases hcount : count > 255
        · exact (hzero hcount).trans (hlarge hcount).symm
        · exact (htwice hcount).trans (hsmall hcount).symm
      unfold registersFrame
      rw [hlen, hwords, hcountByte, ← hfront]
      exact hbuilt
  · rintro ⟨hfits, values, hlen, rfl⟩
    obtain ⟨hlarge, hsmall⟩ := byteCountOf_fits hfits
    rw [← hlen] at hlarge hsmall
    refine ⟨?_, rfl, rfl, ?_, hlarge, ?_⟩
    · have hfront : (registersFrame addr values).take ((registersFrame addr values).length - 2) =
          [addr, FunctionCode.readHoldingRegisters, byteCountOf values.length] ++
            values.flatMap wordBytes := by
        refine List.take_left' ?_
        rw [length_registersFrame, List.length_append, length_flatMap_wordBytes]
        simp only [List.length_cons, List.length_nil]
        omega
      rw [verifyModbusCrc16_iff, hfront]
      refine ⟨?_, rfl⟩
      rw [length_registersFrame]
      omega
    · rw [length_registersFrame, hlen]
      unfold expectedReadHoldingRegistersResponseSize
      omega
    · intro hcount
      exact hsmall hcount

/-- **The answers that are taken**, and the registers that are read from them. -/
theorem parse_ok_iff {values : List UInt16} :
    (∃ exceptionFrame' message',
      parseReadHoldingRegistersResponse frame addr registers exceptionFrame errorMessage count =
        ⟨.ok, values, exceptionFrame', message'⟩) ↔
      ByteCountFits count ∧ values.length = count.toNat ∧ frame = registersFrame addr values := by
  constructor
  · rintro ⟨exceptionFrame', message', hparse⟩
    have haccepted : Accepted addr count frame :=
      parse_accepted.2 (congrArg Parsed.status hparse)
    obtain ⟨hfits, values', hlen, rfl⟩ := accepted_iff.mp haccepted
    rw [parse_accepted.1 haccepted, ← hlen, registers_registersFrame] at hparse
    obtain rfl : values' = values := congrArg Parsed.registers hparse
    exact ⟨hfits, hlen, rfl⟩
  · rintro ⟨hfits, hlen, rfl⟩
    refine ⟨exceptionFrame, errorMessage, ?_⟩
    rw [parse_accepted.1 (accepted_iff.mpr ⟨hfits, values, hlen, rfl⟩), ← hlen,
      registers_registersFrame]

end Answers

end Stdiolink.TempScanner
