/-
  Stdiolink.LaserRadar.ProtocolCodec — the frames of the laser radar, `protocol_codec.cpp`.

  A frame is a magic word, a length, a counter, an address, a command, the payload and a CRC of all
  that comes before it.  The length counts what comes after it, in sixteen bits.

  Main results:
    * `crc32Stm32_eq_scanRobot` — the checksum is the one of the scan robot;
    * `tryDecodeFrame_ok`       — what is read from a buffer that is decoded;
    * `decoded_reencodes`       — and what it is when it is encoded again;
    * `roundTrips_iff`          — for which payloads a frame is decoded to what was encoded.
-/
import Stdiolink.ScanRobot.ProtocolCodec

namespace Stdiolink.LaserRadar

open Stdiolink.Lib
open Stdiolink.ScanRobot (kCrc32Table mid hexWord qToBigEndian qFromBigEndian qToBigEndian16
  qFromBigEndian16)

/-! ## §1. Encoding -/

/-- `crc32Mpeg2Step`, with the table of the scan robot, which is the same. -/
def crc32Mpeg2Step (byteIn : UInt8) (crcIn : UInt32) : UInt32 :=
  (crcIn <<< 8) ^^^
    kCrc32Table.getD (((crcIn >>> 24) ^^^ byteIn.toUInt32) &&& 0xFF).toNat 0

/-- `crc32Stm32`: each word from its last byte to its first one, the last word from `tail`. -/
def crc32Stm32 (data : List UInt8) : UInt32 :=
  let trailingBytes := data.length % 4
  let alignedSize := data.length - trailingBytes
  let crc := (List.range (alignedSize / 4)).foldl
    (fun crc word => [4 * word + 3, 4 * word + 2, 4 * word + 1, 4 * word].foldl
      (fun crc index => crc32Mpeg2Step (data.getD index 0) crc) crc) 0xFFFFFFFF
  if trailingBytes > 0 then
    let tail := data.drop alignedSize ++ List.replicate (4 - trailingBytes) 0
    [3, 2, 1, 0].foldl (fun crc i => crc32Mpeg2Step (tail.getD i 0) crc) crc
  else crc

/-- "LIDA". -/
def kMagic : List UInt8 := [0x4C, 0x49, 0x44, 0x41]

def kMagicLen : Nat := 4

def kLengthFieldLen : Nat := 2

def kHeaderLen : Nat := 10

def kCrcLen : Nat := 4

def kMinPayloadLen : Nat := 4

def kMinFrameLen : Nat := 18

/-- Any frame whose length fits into its field. -/
def kMaxFrameLen : Nat := kMagicLen + kLengthFieldLen + 0xFFFF

/-- What of a frame its CRC is computed from. -/
def crcInput (counter : UInt16) (addr command : UInt8) (payload : List UInt8) : List UInt8 :=
  kMagic ++ qToBigEndian16 (UInt16.ofNat (2 + 1 + 1 + payload.length + 4)) ++
    qToBigEndian16 counter ++ [addr, command] ++ payload

/-- `encodeFrame`. -/
def encodeFrame (counter : UInt16) (addr command : UInt8) (payload : List UInt8) : List UInt8 :=
  crcInput counter addr command payload ++
    qToBigEndian (crc32Stm32 (crcInput counter addr command payload))

/-! ## §2. Decoding -/

/-- `LaserFrame`. -/
structure LaserFrame where
  counter : UInt16 := 0
  addr : UInt8 := 0
  command : UInt8 := 0
  length : UInt16 := 0
  payload : List UInt8 := []
  crc32 : UInt32 := 0
  deriving DecidableEq, Repr

inductive DecodeStatus where
  | ok
  | incomplete
  | badMagic
  | invalidLength
  | crcError
  | addrMismatch
  | cmdMismatch
  deriving DecidableEq, Repr

/-- `decodeStatusToString`. -/
def decodeStatusToString : DecodeStatus → String
  | .ok => "Ok"
  | .incomplete => "Incomplete"
  | .badMagic => "BadMagic"
  | .invalidLength => "InvalidLength"
  | .crcError => "CrcError"
  | .addrMismatch => "AddrMismatch"
  | .cmdMismatch => "CmdMismatch"

/-- What `tryDecodeFrame` returns, and what it leaves behind its pointers. -/
structure Decoded where
  status : DecodeStatus
  frame : LaserFrame
  errorMessage : String
  consumedBytes : Nat

/-- The length that a frame announces. -/
def announced (buffer : List UInt8) : UInt16 := qFromBigEndian16 (mid buffer 4 2)

/-- The CRC of a frame with so many bytes, as computed, -/
def actualCrc (buffer : List UInt8) (totalLength : Nat) : UInt32 :=
  crc32Stm32 (buffer.take (totalLength - kCrcLen))

/-- and as its last bytes say. -/
def expectedCrc (buffer : List UInt8) (totalLength : Nat) : UInt32 :=
  qFromBigEndian (mid buffer (totalLength - kCrcLen) kCrcLen)

/-- `tryDecodeFrame`; `frame` is what is behind the pointer before, and the message is cleared. -/
def tryDecodeFrame (buffer : List UInt8) (expectAddr expectCmd : Int) (frame : LaserFrame)
    (finalChunk : Bool) : Decoded :=
  if buffer.length < kMinFrameLen then ⟨.incomplete, frame, "buffer too short", 0⟩
  else if buffer.take kMagicLen ≠ kMagic then ⟨.badMagic, frame, "bad magic", 0⟩
  else
    let length := (announced buffer).toNat
    if length < 8 + kMinPayloadLen ∨ 6 + length < kMinFrameLen ∨ 6 + length > kMaxFrameLen then
      ⟨.invalidLength, frame, "invalid frame length", 0⟩
    else
      let totalLength := 6 + length
      if buffer.length < totalLength then ⟨.incomplete, frame, "frame incomplete", 0⟩
      else if actualCrc buffer totalLength ≠ expectedCrc buffer totalLength then
        if finalChunk then
          ⟨.crcError, frame, "CRC mismatch: computed 0x" ++ hexWord (actualCrc buffer totalLength) ++
            ", frame 0x" ++ hexWord (expectedCrc buffer totalLength), 0⟩
        else ⟨.incomplete, frame, "frame incomplete", 0⟩
      else
        let addr := buffer.getD 8 0
        let command := buffer.getD 9 0
        let payloadLen := length - 8
        if payloadLen < kMinPayloadLen then ⟨.invalidLength, frame, "payload too short", 0⟩
        -- a negative number stands for any address and any command
        else if expectAddr ≥ 0 ∧ addr ≠ UInt8.ofInt expectAddr then
          ⟨.addrMismatch, frame, "addr mismatch: expected " ++ toString expectAddr ++ ", got " ++
            toString addr.toNat, 0⟩
        else if expectCmd ≥ 0 ∧ command ≠ UInt8.ofInt expectCmd then
          ⟨.cmdMismatch, frame, "cmd mismatch: expected " ++ toString expectCmd ++ ", got " ++
            toString command.toNat, 0⟩
        else
          ⟨.ok,
            { counter := qFromBigEndian16 (mid buffer 6 2)
              addr := addr
              command := command
              length := announced buffer
              payload := mid buffer kHeaderLen payloadLen
              crc32 := expectedCrc buffer totalLength }, "", totalLength⟩

/-- What a frame carries. -/
def frameOf (counter : UInt16) (addr command : UInt8) (payload : List UInt8) : LaserFrame where
  counter := counter
  addr := addr
  command := command
  length := UInt16.ofNat (2 + 1 + 1 + payload.length + 4)
  payload := payload
  crc32 := crc32Stm32 (crcInput counter addr command payload)

/-- The value is expected, or any. -/
def Expects (expected : Int) (value : UInt8) : Prop := expected < 0 ∨ UInt8.ofInt expected = value

instance (expected : Int) (value : UInt8) : Decidable (Expects expected value) := by
  unfold Expects
  infer_instance

/-- **The frame is decoded to what was encoded**, whatever comes after it: every proper prefix is
incomplete, and of the whole frame all is consumed. -/
structure RoundTrips (counter : UInt16) (addr command : UInt8) (payload : List UInt8) : Prop where
  whole : ∀ more expectAddr expectCmd frame finalChunk, Expects expectAddr addr →
    Expects expectCmd command →
      tryDecodeFrame (encodeFrame counter addr command payload ++ more) expectAddr expectCmd frame
          finalChunk =
        ⟨.ok, frameOf counter addr command payload, "",
          (encodeFrame counter addr command payload).length⟩
  part : ∀ part, part <+: encodeFrame counter addr command payload →
    part ≠ encodeFrame counter addr command payload →
      ∀ expectAddr expectCmd frame finalChunk,
        (tryDecodeFrame part expectAddr expectCmd frame finalChunk).status = .incomplete

/-- What is decoded is the encoding of what is returned. -/
def Reencodes (buffer : List UInt8) (decoded : Decoded) : Prop :=
  encodeFrame decoded.frame.counter decoded.frame.addr decoded.frame.command
      decoded.frame.payload = buffer.take decoded.consumedBytes ∧
    decoded.consumedBytes ≤ buffer.length

/-! ## §3. The checksum -/

theorem crc32Mpeg2Step_eq_scanRobot (byteIn : UInt8) (crcIn : UInt32) :
    crc32Mpeg2Step byteIn crcIn = ScanRobot.crc32Mpeg2Step byteIn crcIn := by
  have hlt := ScanRobot.crcIndex_lt byteIn crcIn
  rw [ScanRobot.length_kCrc32Table] at hlt
  have hmask : (((crcIn >>> 24) ^^^ byteIn.toUInt32) &&& 0xFF).toNat =
      ((crcIn >>> 24) ^^^ byteIn.toUInt32).toNat := by
    rw [UInt32.toNat_and]
    show _ &&& (2 ^ 8 - 1) = _
    rw [Nat.and_two_pow_sub_one_eq_mod, Nat.mod_eq_of_lt hlt]
  unfold crc32Mpeg2Step ScanRobot.crc32Mpeg2Step
  rw [hmask]

/-- **The checksum** is the one of the scan robot. -/
theorem crc32Stm32_eq_scanRobot (data : List UInt8) :
    crc32Stm32 data = ScanRobot.crc32Stm32 data := by
  have htail : ∀ x < 4,
      (data.drop (data.length - data.length % 4) ++
          List.replicate (4 - data.length % 4) 0).getD x 0 =
        if x < data.length % 4 then data.getD (data.length - data.length % 4 + x) 0 else 0 := by
    intro x hx
    have hlen : (data.drop (data.length - data.length % 4)).length = data.length % 4 := by
      rw [List.length_drop]
      omega
    by_cases hin : x < data.length % 4
    · rw [if_pos hin, List.getD_append _ _ _ _ (by omega)]
      rw [List.getD_eq_getElem?_getD, List.getElem?_drop, ← List.getD_eq_getElem?_getD]
    · rw [if_neg hin, List.getD_append_right _ _ _ _ (by omega), List.getD_eq_getElem?_getD,
        List.getElem?_replicate]
      split <;> rfl
  unfold crc32Stm32 ScanRobot.crc32Stm32
  simp only [crc32Mpeg2Step_eq_scanRobot, List.foldl_cons, List.foldl_nil]
  rw [htail 3 (by decide), htail 2 (by decide), htail 1 (by decide), htail 0 (by decide)]
  by_cases hzero : data.length % 4 = 0
  · rw [if_neg (by omega), if_pos hzero]
  · rw [if_pos (by omega), if_neg hzero]

/-! ## §4. Decoded buffers -/

section Decoding

variable {buffer : List UInt8} {expectAddr expectCmd : Int} {frame : LaserFrame}
  {finalChunk : Bool}

/-- What is returned when a frame has been decoded. -/
def decodedAs (buffer : List UInt8) : Decoded where
  status := .ok
  frame :=
    { counter := qFromBigEndian16 (mid buffer 6 2)
      addr := buffer.getD 8 0
      command := buffer.getD 9 0
      length := announced buffer
      payload := mid buffer kHeaderLen ((announced buffer).toNat - 8)
      crc32 := expectedCrc buffer (6 + (announced buffer).toNat) }
  errorMessage := ""
  consumedBytes := 6 + (announced buffer).toNat

/-- The buffer begins with a frame that is expected. -/
structure BeginsWithFrame (buffer : List UInt8) (expectAddr expectCmd : Int) : Prop where
  magic : buffer.take kMagicLen = kMagic
  min : 12 ≤ (announced buffer).toNat
  there : 6 + (announced buffer).toNat ≤ buffer.length
  crc : actualCrc buffer (6 + (announced buffer).toNat) =
    expectedCrc buffer (6 + (announced buffer).toNat)
  addr : Expects expectAddr (buffer.getD 8 0)
  command : Expects expectCmd (buffer.getD 9 0)

/-- Expected or not, as the code asks. -/
theorem not_expects_iff {expected : Int} {value : UInt8} :
    (expected ≥ 0 ∧ value ≠ UInt8.ofInt expected) ↔ ¬ Expects expected value := by
  unfold Expects
  rw [not_or, not_lt, ne_comm]

/-- **Decoding**: a buffer that begins with an expected frame is decoded, and no other one. -/
theorem tryDecodeFrame_ok :
    (BeginsWithFrame buffer expectAddr expectCmd →
        tryDecodeFrame buffer expectAddr expectCmd frame finalChunk = decodedAs buffer) ∧
      ((tryDecodeFrame buffer expectAddr expectCmd frame finalChunk).status = .ok →
        BeginsWithFrame buffer expectAddr expectCmd) := by
  have hmax := (announced buffer).toNat_lt
  constructor
  · rintro ⟨hmagic, hmin, hthere, hcrc, haddr, hcommand⟩
    have hframe : kMaxFrameLen = 65541 := rfl
    unfold tryDecodeFrame kMinFrameLen kMinPayloadLen
    rw [if_neg (by omega), if_neg (not_not.mpr hmagic), hframe]
    dsimp only
    rw [if_neg (by omega), if_neg (by omega), if_neg (not_not.mpr hcrc), if_neg (by omega),
      if_neg fun h => not_expects_iff.mp h haddr, if_neg fun h => not_expects_iff.mp h hcommand]
    rfl
  · intro h
    unfold tryDecodeFrame at h
    split at h
    · cases h
    split at h
    · cases h
    rename_i hmagic
    dsimp only at h
    split at h
    · cases h
    rename_i hlength
    split at h
    · cases h
    rename_i hthere
    split at h
    · split at h <;> cases h
    rename_i hcrc
    split at h
    · cases h
    split at h
    · cases h
    rename_i haddr
    split at h
    · cases h
    rename_i hcommand
    unfold kMinPayloadLen at hlength
    exact ⟨not_not.mp hmagic, by omega, by omega, not_not.mp hcrc,
      not_not.mp fun h => haddr (not_expects_iff.mpr h),
      not_not.mp fun h => hcommand (not_expects_iff.mpr h)⟩

end Decoding

/-! ## §5. Encoded frames -/

section Encoded

variable {counter : UInt16} {addr command : UInt8} {payload : List UInt8}

theorem fromBigEndian16_toBigEndian16 (value : UInt16) :
    qFromBigEndian16 (qToBigEndian16 value) = value := by
  have hlt := value.toNat_lt
  unfold qFromBigEndian16 qToBigEndian16
  rw [ofBytes_toBytes, Nat.mod_eq_of_lt (by omega)]
  exact UInt16.ofNat_toNat

theorem length_crcInput : (crcInput counter addr command payload).length = payload.length + 10 := by
  unfold crcInput qToBigEndian16 kMagic
  simp only [List.length_append, List.length_cons, List.length_nil, length_toBytes]
  omega

theorem length_encodeFrame :
    (encodeFrame counter addr command payload).length = payload.length + 14 := by
  unfold encodeFrame qToBigEndian
  rw [List.length_append, length_crcInput, length_toBytes]

/-- The length fits into its field. -/
theorem toNat_length (hmax : payload.length ≤ 65527) :
    (UInt16.ofNat (2 + 1 + 1 + payload.length + 4)).toNat = payload.length + 8 := by
  rw [UInt16.toNat_ofNat']
  omega

variable (more : List UInt8)

/-- The fields of a frame, one after another. -/
theorem encodeFrame_append :
    encodeFrame counter addr command payload ++ more =
      kMagic ++ (qToBigEndian16 (UInt16.ofNat (2 + 1 + 1 + payload.length + 4)) ++
        (qToBigEndian16 counter ++ addr :: command :: (payload ++
          (qToBigEndian (crc32Stm32 (crcInput counter addr command payload)) ++ more)))) := by
  unfold encodeFrame
  generalize qToBigEndian (crc32Stm32 (crcInput counter addr command payload)) = crc
  unfold crcInput
  simp only [List.append_assoc, List.cons_append, List.nil_append]

theorem announced_encodeFrame :
    announced (encodeFrame counter addr command payload ++ more) =
      UInt16.ofNat (2 + 1 + 1 + payload.length + 4) := by
  rw [encodeFrame_append]
  exact fromBigEndian16_toBigEndian16 _

/-- The CRC is at the end of the frame. -/
theorem expectedCrc_encodeFrame :
    expectedCrc (encodeFrame counter addr command payload ++ more) (payload.length + 14) =
      crc32Stm32 (crcInput counter addr command payload) := by
  have hlen : payload.length + 14 - kCrcLen = (crcInput counter addr command payload).length := by
    rw [length_crcInput]
    rfl
  unfold expectedCrc mid encodeFrame
  rw [hlen, List.append_assoc, List.drop_left]
  rw [List.take_left' (show (qToBigEndian _).length = kCrcLen from length_toBytes 4 _)]
  exact ScanRobot.fromBigEndian_toBigEndian _

theorem actualCrc_encodeFrame :
    actualCrc (encodeFrame counter addr command payload ++ more) (payload.length + 14) =
      crc32Stm32 (crcInput counter addr command payload) := by
  have hlen : payload.length + 14 - kCrcLen = (crcInput counter addr command payload).length := by
    rw [length_crcInput]
    rfl
  unfold actualCrc encodeFrame
  rw [hlen, List.append_assoc, List.take_left]

/-- The payload comes after the header. -/
theorem mid_payload :
    mid (encodeFrame counter addr command payload ++ more) kHeaderLen payload.length = payload := by
  rw [encodeFrame_append]
  show (payload ++ _).take payload.length = payload
  exact List.take_left

/-- **A frame in front of other bytes** is decoded to what was encoded. -/
theorem tryDecodeFrame_encodeFrame (hmin : 4 ≤ payload.length) (hmax : payload.length ≤ 65527)
    (more : List UInt8) {expectAddr expectCmd : Int} (frame : LaserFrame) (finalChunk : Bool)
    (haddr : Expects expectAddr addr) (hcommand : Expects expectCmd command) :
    tryDecodeFrame (encodeFrame counter addr command payload ++ more) expectAddr expectCmd frame
        finalChunk =
      ⟨.ok, frameOf counter addr command payload, "",
        (encodeFrame counter addr command payload).length⟩ := by
  have hlength : (announced (encodeFrame counter addr command payload ++ more)).toNat =
      payload.length + 8 := by
    rw [announced_encodeFrame, toNat_length hmax]
  have htotal : 6 + (payload.length + 8) = payload.length + 14 := by omega
  have hbegins : BeginsWithFrame (encodeFrame counter addr command payload ++ more) expectAddr
      expectCmd := by
    refine ⟨?_, ?_, ?_, ?_, ?_, ?_⟩
    · rw [encodeFrame_append]
      rfl
    · rw [hlength]
      omega
    · rw [hlength, List.length_append, length_encodeFrame]
      omega
    · rw [hlength, htotal, actualCrc_encodeFrame, expectedCrc_encodeFrame]
    · rw [encodeFrame_append]
      exact haddr
    · rw [encodeFrame_append]
      exact hcommand
  rw [tryDecodeFrame_ok.1 hbegins]
  unfold decodedAs frameOf
  rw [hlength, Nat.add_sub_cancel, mid_payload, htotal, expectedCrc_encodeFrame,
    announced_encodeFrame, length_encodeFrame, encodeFrame_append]
  congr 2
  exact fromBigEndian16_toBigEndian16 counter

/-- **A part of a frame** is incomplete. -/
theorem tryDecodeFrame_part (hmin : 4 ≤ payload.length) (hmax : payload.length ≤ 65527)
    {part : List UInt8} (hpart : part <+: encodeFrame counter addr command payload)
    (hproper : part ≠ encodeFrame counter addr command payload) (expectAddr expectCmd : Int)
    (frame : LaserFrame) (finalChunk : Bool) :
    (tryDecodeFrame part expectAddr expectCmd frame finalChunk).status = .incomplete := by
  have hlt : part.length < payload.length + 14 := by
    have hle := hpart.length_le
    rw [length_encodeFrame] at hle
    refine Nat.lt_of_le_of_ne hle fun hsame => hproper (hpart.eq_of_length ?_)
    rw [hsame, length_encodeFrame]
  unfold tryDecodeFrame
  by_cases hshort : part.length < kMinFrameLen
  · rw [if_pos hshort]
  -- the magic word and the length are there
  obtain ⟨rest, hrest⟩ := hpart
  unfold kMinFrameLen at hshort
  have hmagic : part.take kMagicLen = kMagic := by
    have hwhole : (part ++ rest).take kMagicLen = kMagic := by
      rw [hrest, ← List.append_nil (encodeFrame _ _ _ _), encodeFrame_append]
      rfl
    rwa [List.take_append_of_le_length (by unfold kMagicLen; omega)] at hwhole
  have hannounced : announced part = UInt16.ofNat (2 + 1 + 1 + payload.length + 4) := by
    have hwhole : announced (part ++ rest) = UInt16.ofNat (2 + 1 + 1 + payload.length + 4) := by
      rw [hrest, ← List.append_nil (encodeFrame _ _ _ _), announced_encodeFrame]
    unfold announced at hwhole ⊢
    rwa [ScanRobot.mid_append rest (by omega)] at hwhole
  have hframe : kMaxFrameLen = 65541 := rfl
  unfold kMinFrameLen kMinPayloadLen
  rw [if_neg hshort, if_neg (not_not.mpr hmagic), hframe, hannounced, toNat_length hmax]
  dsimp only
  rw [if_neg (by omega), if_pos (by omega)]

end Encoded

/-! ## §6. Decoded frames, encoded again -/

section Again

variable {buffer : List UInt8}

theorem toBigEndian16_fromBigEndian16 {bytes : List UInt8} (h : bytes.length = 2) :
    qToBigEndian16 (qFromBigEndian16 bytes) = bytes := by
  have hlt := ofBytes_lt bytes
  rw [h] at hlt
  unfold qToBigEndian16 qFromBigEndian16
  rw [UInt16.toNat_ofNat', Nat.mod_eq_of_lt (show _ < 2 ^ 16 from hlt), ← h]
  exact toBytes_ofBytes bytes

theorem toBigEndian_fromBigEndian {bytes : List UInt8} (h : bytes.length = 4) :
    qToBigEndian (qFromBigEndian bytes) = bytes := by
  have hlt := ofBytes_lt bytes
  rw [h] at hlt
  unfold qToBigEndian qFromBigEndian
  rw [UInt32.toNat_ofNat', Nat.mod_eq_of_lt (show _ < 2 ^ 32 from hlt), ← h]
  exact toBytes_ofBytes bytes

theorem length_mid {pos len : Nat} (h : pos + len ≤ buffer.length) :
    (mid buffer pos len).length = len := by
  unfold mid
  rw [List.length_take, List.length_drop]
  omega

theorem mid_two {pos : Nat} (h : pos + 2 ≤ buffer.length) :
    mid buffer pos 2 = [buffer.getD pos 0, buffer.getD (pos + 1) 0] := by
  unfold mid
  rw [List.drop_eq_getElem_cons (by omega), List.drop_eq_getElem_cons (by omega),
    List.getD_eq_getElem _ _ (by omega), List.getD_eq_getElem _ _ (by omega)]
  rfl

variable {expectAddr expectCmd : Int}

/-- The fields of the frame that a buffer begins with. -/
theorem crcInput_eq_take (h : BeginsWithFrame buffer expectAddr expectCmd) :
    crcInput (qFromBigEndian16 (mid buffer 6 2)) (buffer.getD 8 0) (buffer.getD 9 0)
        (mid buffer kHeaderLen ((announced buffer).toNat - 8)) =
      buffer.take ((announced buffer).toNat + 2) := by
  obtain ⟨hmagic, hmin, hthere, -, -, -⟩ := h
  have hlen : (mid buffer kHeaderLen ((announced buffer).toNat - 8)).length =
      (announced buffer).toNat - 8 := length_mid (by unfold kHeaderLen; omega)
  have hlength : 2 + 1 + 1 + ((announced buffer).toNat - 8) + 4 = (announced buffer).toNat := by
    omega
  have hsize : 4 + 2 + 2 + 2 + ((announced buffer).toNat - 8) = (announced buffer).toNat + 2 := by
    omega
  unfold crcInput
  rw [hlen, hlength, UInt16.ofNat_toNat]
  have hannounced : qToBigEndian16 (announced buffer) = mid buffer 4 2 :=
    toBigEndian16_fromBigEndian16 (length_mid (by omega))
  rw [hannounced, toBigEndian16_fromBigEndian16 (length_mid (by omega)), ← hmagic,
    ← mid_two (by omega), ← hsize, List.take_add, List.take_add, List.take_add, List.take_add]
  rfl

/-- A frame that a buffer begins with carries what its fields say. -/
theorem decodedAs_frame (h : BeginsWithFrame buffer expectAddr expectCmd) :
    (decodedAs buffer).frame =
        frameOf (decodedAs buffer).frame.counter (decodedAs buffer).frame.addr
          (decodedAs buffer).frame.command (decodedAs buffer).frame.payload ∧
      kMinPayloadLen ≤ (decodedAs buffer).frame.payload.length ∧
        (decodedAs buffer).frame.payload.length ≤ 65527 := by
  have hmin := h.min
  have hthere := h.there
  have hmax := (announced buffer).toNat_lt
  have hlen : (mid buffer kHeaderLen ((announced buffer).toNat - 8)).length =
      (announced buffer).toNat - 8 := length_mid (by unfold kHeaderLen; omega)
  have htotal : 6 + (announced buffer).toNat - kCrcLen = (announced buffer).toNat + 2 := by
    unfold kCrcLen
    omega
  have hlength : 2 + 1 + 1 + ((announced buffer).toNat - 8) + 4 = (announced buffer).toNat := by
    omega
  have hcrc := h.crc
  unfold actualCrc at hcrc
  rw [htotal, ← crcInput_eq_take h] at hcrc
  refine ⟨?_, ?_⟩
  · unfold frameOf decodedAs
    dsimp only
    rw [hlen, hlength, UInt16.ofNat_toNat, hcrc]
  · show kMinPayloadLen ≤ (mid buffer kHeaderLen ((announced buffer).toNat - 8)).length ∧ _
    unfold kMinPayloadLen
    show 4 ≤ _ ∧ (mid buffer kHeaderLen ((announced buffer).toNat - 8)).length ≤ 65527
    rw [hlen]
    omega

/-- **What is decoded** is the encoding of what is returned. -/
theorem decoded_reencodes {frame : LaserFrame} {finalChunk : Bool}
    (h : (tryDecodeFrame buffer expectAddr expectCmd frame finalChunk).status = .ok) :
    Reencodes buffer (tryDecodeFrame buffer expectAddr expectCmd frame finalChunk) := by
  have hbegins := tryDecodeFrame_ok.2 h
  rw [tryDecodeFrame_ok.1 hbegins]
  refine ⟨?_, hbegins.there⟩
  have hcrc := hbegins.crc
  have hthere := hbegins.there
  have htotal : 6 + (announced buffer).toNat - kCrcLen = (announced buffer).toNat + 2 := by
    unfold kCrcLen
    omega
  have hsize : 6 + (announced buffer).toNat = (announced buffer).toNat + 2 + 4 := by omega
  unfold actualCrc expectedCrc at hcrc
  rw [htotal] at hcrc
  show encodeFrame (qFromBigEndian16 (mid buffer 6 2)) (buffer.getD 8 0) (buffer.getD 9 0)
      (mid buffer kHeaderLen ((announced buffer).toNat - 8)) =
    buffer.take (6 + (announced buffer).toNat)
  have hlast : (mid buffer ((announced buffer).toNat + 2) kCrcLen).length = 4 :=
    length_mid (by unfold kCrcLen; omega)
  rw [encodeFrame, crcInput_eq_take hbegins, hcrc, toBigEndian_fromBigEndian hlast, hsize]
  exact List.take_add.symm

end Again

/-! ## §7. Round trips -/

section RoundTrip

variable {counter : UInt16} {addr command : UInt8} {payload : List UInt8}

/-- A frame that is decoded has a length that fits. -/
theorem payload_of_roundTrips (h : RoundTrips counter addr command payload) :
    kMinPayloadLen ≤ payload.length ∧ payload.length ≤ 65527 := by
  have hwhole := h.whole [] (-1) (-1) {} false (.inl (by decide)) (.inl (by decide))
  rw [List.append_nil] at hwhole
  have hbegins := tryDecodeFrame_ok.2 (congrArg Decoded.status hwhole)
  rw [tryDecodeFrame_ok.1 hbegins] at hwhole
  have hconsumed : 6 + (announced (encodeFrame counter addr command payload)).toNat =
      (encodeFrame counter addr command payload).length := congrArg Decoded.consumedBytes hwhole
  have hmin := hbegins.min
  have hmax := (announced (encodeFrame counter addr command payload)).toNat_lt
  rw [length_encodeFrame] at hconsumed
  unfold kMinPayloadLen
  omega

/-- **Payloads that round-trip**: those of four to 65527 bytes. -/
theorem roundTrips_iff :
    RoundTrips counter addr command payload ↔
      kMinPayloadLen ≤ payload.length ∧ payload.length ≤ 65527 := by
  refine ⟨payload_of_roundTrips, fun ⟨hmin, hmax⟩ => ⟨?_, ?_⟩⟩
  · intro more expectAddr expectCmd frame finalChunk haddr hcommand
    exact tryDecodeFrame_encodeFrame hmin hmax more frame finalChunk haddr hcommand
  · intro part hpart hproper expectAddr expectCmd frame finalChunk
    exact tryDecodeFrame_part hmin hmax hpart hproper expectAddr expectCmd frame finalChunk

/-- **Frames of the laser radar.**  A frame with at least the minimal and at most 65527 bytes of
payload is decoded to what was encoded, whatever follows it, and incomplete before its end; and
every buffer that is decoded begins with the encoding of what is returned. -/
theorem frames_round_trip :
    (∀ counter addr command payload, kMinPayloadLen ≤ payload.length → payload.length ≤ 65527 →
        RoundTrips counter addr command payload) ∧
      ∀ buffer expectAddr expectCmd frame finalChunk,
        (tryDecodeFrame buffer expectAddr expectCmd frame finalChunk).status = .ok →
          Reencodes buffer (tryDecodeFrame buffer expectAddr expectCmd frame finalChunk) :=
  ⟨fun _ _ _ _ hmin hmax => roundTrips_iff.mpr ⟨hmin, hmax⟩, fun _ _ _ _ _ => decoded_reencodes⟩

/-- Four zeros as payload, and the frame of them with a byte behind it. -/
theorem zeros_round_trip :
    RoundTrips 7 0 6 [0, 0, 0, 0] ∧
      Reencodes (encodeFrame 7 0 6 [0, 0, 0, 0] ++ [1])
        (tryDecodeFrame (encodeFrame 7 0 6 [0, 0, 0, 0] ++ [1]) 0 6 {} false) :=
  ⟨frames_round_trip.1 7 0 6 [0, 0, 0, 0] (by decide) (by decide),
    frames_round_trip.2 _ 0 6 {} false (by decide +kernel)⟩

end RoundTrip

end Stdiolink.LaserRadar
