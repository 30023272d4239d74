/-
  Stdiolink.ScanRobot.ProtocolCodec — the frames of the scan robot, `protocol_codec.cpp`.

  A frame is a magic word, a header, the payload and a CRC.  Nothing in it says how long it is:
  `tryDecodeFrame` takes the shortest prefix of at least sixteen bytes that ends with its own CRC
  for the frame.

  Main results:
    * `kCrc32Table_eq`      — the table is the one of the polynomial 0x04C11DB7;
    * `crc32Stm32_padded`   — zeros up to the next word do not change the CRC;
    * `tryDecodeFrame_part` — what is made of the first bytes of an encoded frame;
    * `decodesExactly_iff`  — the frames that are decoded to what was encoded.
-/
import Stdiolink.Lib.Bytes
import Mathlib.Data.List.Range
import Mathlib.Logic.Function.Iterate

namespace Stdiolink.ScanRobot

open Stdiolink.Lib

/-! ## §1. The checksum -/

/-- `kCrc32Table`. -/
def kCrc32Table : List UInt32 :=
  [0x00000000, 0x04c11db7, 0x09823b6e, 0x0d4326d9, 0x130476dc, 0x17c56b6b, 0x1a864db2, 0x1e475005,
    0x2608edb8, 0x22c9f00f, 0x2f8ad6d6, 0x2b4bcb61, 0x350c9b64, 0x31cd86d3, 0x3c8ea00a, 0x384fbdbd,
    0x4c11db70, 0x48d0c6c7, 0x4593e01e, 0x4152fda9, 0x5f15adac, 0x5bd4b01b, 0x569796c2, 0x52568b75,
    0x6a1936c8, 0x6ed82b7f, 0x639b0da6, 0x675a1011, 0x791d4014, 0x7ddc5da3, 0x709f7b7a, 0x745e66cd,
    0x9823b6e0, 0x9ce2ab57, 0x91a18d8e, 0x95609039, 0x8b27c03c, 0x8fe6dd8b, 0x82a5fb52, 0x8664e6e5,
    0xbe2b5b58, 0xbaea46ef, 0xb7a96036, 0xb3687d81, 0xad2f2d84, 0xa9ee3033, 0xa4ad16ea, 0xa06c0b5d,
    0xd4326d90, 0xd0f37027, 0xddb056fe, 0xd9714b49, 0xc7361b4c, 0xc3f706fb, 0xceb42022, 0xca753d95,
    0xf23a8028, 0xf6fb9d9f, 0xfbb8bb46, 0xff79a6f1, 0xe13ef6f4, 0xe5ffeb43, 0xe8bccd9a, 0xec7dd02d,
    0x34867077, 0x30476dc0, 0x3d044b19, 0x39c556ae, 0x278206ab, 0x23431b1c, 0x2e003dc5, 0x2ac12072,
    0x128e9dcf, 0x164f8078, 0x1b0ca6a1, 0x1fcdbb16, 0x018aeb13, 0x054bf6a4, 0x0808d07d, 0x0cc9cdca,
    0x7897ab07, 0x7c56b6b0, 0x71159069, 0x75d48dde, 0x6b93dddb, 0x6f52c06c, 0x6211e6b5, 0x66d0fb02,
    0x5e9f46bf, 0x5a5e5b08, 0x571d7dd1, 0x53dc6066, 0x4d9b3063, 0x495a2dd4, 0x44190b0d, 0x40d816ba,
    0xaca5c697, 0xa864db20, 0xa527fdf9, 0xa1e6e04e, 0xbfa1b04b, 0xbb60adfc, 0xb6238b25, 0xb2e29692,
    0x8aad2b2f, 0x8e6c3698, 0x832f1041, 0x87ee0df6, 0x99a95df3, 0x9d684044, 0x902b669d, 0x94ea7b2a,
    0xe0b41de7, 0xe4750050, 0xe9362689, 0xedf73b3e, 0xf3b06b3b, 0xf771768c, 0xfa325055, 0xfef34de2,
    0xc6bcf05f, 0xc27dede8, 0xcf3ecb31, 0xcbffd686, 0xd5b88683, 0xd1799b34, 0xdc3abded, 0xd8fba05a,
    0x690ce0ee, 0x6dcdfd59, 0x608edb80, 0x644fc637, 0x7a089632, 0x7ec98b85, 0x738aad5c, 0x774bb0eb,
    0x4f040d56, 0x4bc510e1, 0x46863638, 0x42472b8f, 0x5c007b8a, 0x58c1663d, 0x558240e4, 0x51435d53,
    0x251d3b9e, 0x21dc2629, 0x2c9f00f0, 0x285e1d47, 0x36194d42, 0x32d850f5, 0x3f9b762c, 0x3b5a6b9b,
    0x0315d626, 0x07d4cb91, 0x0a97ed48, 0x0e56f0ff, 0x1011a0fa, 0x14d0bd4d, 0x19939b94, 0x1d528623,
    0xf12f560e, 0xf5ee4bb9, 0xf8ad6d60, 0xfc6c70d7, 0xe22b20d2, 0xe6ea3d65, 0xeba91bbc, 0xef68060b,
    0xd727bbb6, 0xd3e6a601, 0xdea580d8, 0xda649d6f, 0xc423cd6a, 0xc0e2d0dd, 0xcda1f604, 0xc960ebb3,
    0xbd3e8d7e, 0xb9ff90c9, 0xb4bcb610, 0xb07daba7, 0xae3afba2, 0xaafbe615, 0xa7b8c0cc, 0xa379dd7b,
    0x9b3660c6, 0x9ff77d71, 0x92b45ba8, 0x9675461f, 0x8832161a, 0x8cf30bad, 0x81b02d74, 0x857130c3,
    0x5d8a9099, 0x594b8d2e, 0x5408abf7, 0x50c9b640, 0x4e8ee645, 0x4a4ffbf2, 0x470cdd2b, 0x43cdc09c,
    0x7b827d21, 0x7f436096, 0x7200464f, 0x76c15bf8, 0x68860bfd, 0x6c47164a, 0x61043093, 0x65c52d24,
    0x119b4be9, 0x155a565e, 0x18197087, 0x1cd86d30, 0x029f3d35, 0x065e2082, 0x0b1d065b, 0x0fdc1bec,
    0x3793a651, 0x3352bbe6, 0x3e119d3f, 0x3ad08088, 0x2497d08d, 0x2056cd3a, 0x2d15ebe3, 0x29d4f654,
    0xc5a92679, 0xc1683bce, 0xcc2b1d17, 0xc8ea00a0, 0xd6ad50a5, 0xd26c4d12, 0xdf2f6bcb, 0xdbee767c,
    0xe3a1cbc1, 0xe760d676, 0xea23f0af, 0xeee2ed18, 0xf0a5bd1d, 0xf464a0aa, 0xf9278673, 0xfde69bc4,
    0x89b8fd09, 0x8d79e0be, 0x803ac667, 0x84fbdbd0, 0x9abc8bd5, 0x9e7d9662, 0x933eb0bb, 0x97ffad0c,
    0xafb010b1, 0xab710d06, 0xa6322bdf, 0xa2f33668, 0xbcb4666d, 0xb8757bda, 0xb5365d03, 0xb1f740b4]

/-- `crc32Mpeg2Step`. -/
def crc32Mpeg2Step (byteIn : UInt8) (crcIn : UInt32) : UInt32 :=
  (crcIn <<< 8) ^^^ kCrc32Table.getD ((crcIn >>> 24) ^^^ byteIn.toUInt32).toNat 0

/-- `crc32Stm32`: each word from its last byte to its first one, the last word filled with zeros. -/
def crc32Stm32 (data : List UInt8) : UInt32 :=
  let ib := data.length % 4
  let ia := data.length - ib
  let crc := (List.range (ia / 4)).foldl
    (fun crc x => [4 * x + 3, 4 * x + 2, 4 * x + 1, 4 * x].foldl
      (fun crc y => crc32Mpeg2Step (data.getD y 0) crc) crc) 0xFFFFFFFF
  if ib = 0 then crc
  else [3, 2, 1, 0].foldl
    (fun crc x => crc32Mpeg2Step (if x < ib then data.getD (ia + x) 0 else 0) crc) crc

/-- One bit of a remainder for the polynomial 0x04C11DB7. -/
def crcShift (crc : UInt32) : UInt32 :=
  if crc &&& 0x80000000 ≠ 0 then (crc <<< 1) ^^^ 0x04C11DB7 else crc <<< 1

/-- The table is the one of the polynomial 0x04C11DB7: eight shifts of each byte. -/
theorem kCrc32Table_eq :
    kCrc32Table = (List.range 256).map fun i => crcShift^[8] (UInt32.ofNat i <<< 24) := by
  decide +kernel

theorem length_kCrc32Table : kCrc32Table.length = 256 := by
  decide +kernel

/-- Every index is one of the table. -/
theorem crcIndex_lt (byteIn : UInt8) (crcIn : UInt32) :
    ((crcIn >>> 24) ^^^ byteIn.toUInt32).toNat < kCrc32Table.length := by
  have hcrc := crcIn.toNat_lt
  have hbyte := byteIn.toNat_lt
  have hhigh : (crcIn >>> 24).toNat < 2 ^ 8 := by
    show crcIn.toNat >>> 24 < _
    rw [Nat.shiftRight_eq_div_pow]
    omega
  rw [length_kCrc32Table]
  exact Nat.xor_lt_two_pow hhigh hbyte

/-- The checksum, with zeros after the data. -/
theorem crc32Stm32_eq (data : List UInt8) :
    crc32Stm32 data = (List.range ((data.length + 3) / 4)).foldl
      (fun crc x => [4 * x + 3, 4 * x + 2, 4 * x + 1, 4 * x].foldl
        (fun crc y => crc32Mpeg2Step (data.getD y 0) crc) crc) 0xFFFFFFFF := by
  unfold crc32Stm32
  dsimp only
  by_cases hib : data.length % 4 = 0
  · have hwords : (data.length - data.length % 4) / 4 = (data.length + 3) / 4 := by omega
    rw [if_pos hib, hwords]
  · -- the last word is filled with zeros
    have hwords : (data.length + 3) / 4 = (data.length - data.length % 4) / 4 + 1 := by omega
    have hlast : 4 * ((data.length - data.length % 4) / 4) = data.length - data.length % 4 := by
      omega
    have hbyte : ∀ x, (if x < data.length % 4 then
        data.getD (data.length - data.length % 4 + x) 0 else 0) =
          data.getD (data.length - data.length % 4 + x) 0 := by
      intro x
      by_cases hx : x < data.length % 4
      · rw [if_pos hx]
      · rw [if_neg hx, List.getD_eq_default _ _ (by omega)]
    rw [if_neg hib, hwords, List.range_succ, List.foldl_append]
    simp only [hbyte, hlast, List.foldl_cons, List.foldl_nil, Nat.add_zero]

/-- **Zeros up to the next word** do not change it. -/
theorem crc32Stm32_padded {data : List UInt8} {zeros : Nat}
    (h : (data.length + zeros + 3) / 4 = (data.length + 3) / 4) :
    crc32Stm32 (data ++ List.replicate zeros 0) = crc32Stm32 data := by
  have hget : ∀ i, (data ++ List.replicate zeros 0).getD i 0 = data.getD i 0 := by
    intro i
    by_cases hi : i < data.length
    · exact List.getD_append _ _ _ _ hi
    · have hle := Nat.le_of_not_lt hi
      rw [List.getD_append_right _ _ _ _ hle, List.getD_eq_default _ _ hle]
      rw [List.getD_eq_getElem?_getD, List.getElem?_replicate]
      split <;> rfl
  rw [crc32Stm32_eq, crc32Stm32_eq data, List.length_append, List.length_replicate, h]
  simp only [hget]

/-! ## §2. Encoding -/

def kMagicJD3D : List UInt8 := [0x4A, 0x44, 0x33, 0x44]

def kMagicJD3I : List UInt8 := [0x4A, 0x44, 0x33, 0x49]

def kMagicLen : Nat := 4

def kHeaderLen : Nat := 8

def kCrcLen : Nat := 4

/-- At least four bytes of payload. -/
def kMinFrameLen : Nat := kHeaderLen + kCrcLen + 4

/-- `mid` of a byte array. -/
def mid (bytes : List UInt8) (pos len : Nat) : List UInt8 := (bytes.drop pos).take len

def qToBigEndian (value : UInt32) : List UInt8 := toBytes 4 value.toNat

def qFromBigEndian (bytes : List UInt8) : UInt32 := UInt32.ofNat (ofBytes bytes)

/-- The magic word of a channel. -/
def magic (interrupt : Bool) : List UInt8 := if interrupt then kMagicJD3I else kMagicJD3D

/-- What of a frame its CRC is computed from. -/
def crcInput (counter addr command : UInt8) (payload : List UInt8) : List UInt8 :=
  counter :: 0 :: addr :: command :: payload

/-- `encodeFrame`. -/
def encodeFrame (counter addr command : UInt8) (payload : List UInt8) (interrupt : Bool) :
    List UInt8 :=
  magic interrupt ++ crcInput counter addr command payload ++
    qToBigEndian (crc32Stm32 (crcInput counter addr command payload))

/-! ## §3. Decoding -/

/-- `RadarFrame`. -/
structure RadarFrame where
  counter : UInt8 := 0
  option : UInt8 := 0
  addr : UInt8 := 0
  command : UInt8 := 0
  payload : List UInt8 := []
  crc32 : UInt32 := 0
  deriving DecidableEq, Repr

inductive DecodeStatus where
  | ok
  | incomplete
  | badMagic
  | channelMismatch
  | crcError
  | addrMismatch
  | cmdMismatch
  deriving DecidableEq, Repr

inductive FrameChannel where
  | any
  | main
  | interrupt
  deriving DecidableEq, Repr

/-- `decodeStatusToString`. -/
def decodeStatusToString : DecodeStatus → String
  | .ok => "Ok"
  | .incomplete => "Incomplete"
  | .badMagic => "BadMagic"
  | .channelMismatch => "ChannelMismatch"
  | .crcError => "CrcError"
  | .addrMismatch => "AddrMismatch"
  | .cmdMismatch => "CmdMismatch"

/-- What `tryDecodeFrame` returns, and what it leaves behind its pointers. -/
structure Decoded where
  status : DecodeStatus
  frame : RadarFrame
  errorMessage : String
  consumedBytes : Nat

/-- A number of eight hexadecimal digits. -/
def hexWord (value : UInt32) : String :=
  String.ofList (List.leftpad 8 '0' (Nat.toDigits 16 value.toNat))

/-- The CRC of a frame with so many bytes, as computed, -/
def computedCrc (buffer : List UInt8) (frameLen : Nat) : UInt32 :=
  crc32Stm32 (mid buffer kMagicLen (frameLen - kMagicLen - kCrcLen))

/-- and as its last bytes say. -/
def frameCrc (buffer : List UInt8) (frameLen : Nat) : UInt32 :=
  qFromBigEndian (mid buffer (frameLen - kCrcLen) kCrcLen)

/-- The `for` loop of `tryDecodeFrame`; `bestError` is its variable. -/
def searchFrame (buffer : List UInt8) (frame : RadarFrame) (errorMessage : String)
    (finalChunk : Bool) : String → List Nat → Decoded
  | bestError, [] => ⟨if finalChunk then .crcError else .incomplete, frame, bestError, 0⟩
  | bestError, frameLen :: lens =>
    -- a frame carries no length: the first prefix that ends with its CRC is taken
    if computedCrc buffer frameLen ≠ frameCrc buffer frameLen then
      searchFrame buffer frame errorMessage finalChunk
        (if finalChunk then
          "CRC mismatch: computed 0x" ++ hexWord (computedCrc buffer frameLen) ++ ", frame 0x" ++
            hexWord (frameCrc buffer frameLen)
        else bestError) lens
    else
      ⟨.ok, { frame with
          payload := mid buffer kHeaderLen (frameLen - kHeaderLen - kCrcLen)
          crc32 := frameCrc buffer frameLen }, errorMessage, frameLen⟩

/-- The lengths that the loop goes through. -/
def frameLens (size : Nat) : List Nat := List.range' kMinFrameLen (size + 1 - kMinFrameLen)

/-- `tryDecodeFrame`; `frame` and `errorMessage` are what is behind the pointers before. -/
def tryDecodeFrame (buffer : List UInt8) (expectAddr expectCmd : UInt8) (frame : RadarFrame)
    (errorMessage : String) (expectedChannel : FrameChannel) (finalChunk : Bool) : Decoded :=
  if buffer.length < kMinFrameLen then ⟨.incomplete, frame, "buffer too short", 0⟩
  else if buffer.take kMagicLen ≠ kMagicJD3D ∧ buffer.take kMagicLen ≠ kMagicJD3I then
    ⟨.badMagic, frame, "bad magic", 0⟩
  else if (expectedChannel = .main ∧ buffer.take kMagicLen ≠ kMagicJD3D) ∨
      (expectedChannel = .interrupt ∧ buffer.take kMagicLen ≠ kMagicJD3I) then
    ⟨.channelMismatch, frame, "channel mismatch", 0⟩
  else
    let frame := { frame with
      counter := buffer.getD 4 0
      option := buffer.getD 5 0
      addr := buffer.getD 6 0
      command := buffer.getD 7 0 }
    -- 0 stands for any address and any command
    if expectAddr ≠ 0 ∧ frame.addr ≠ expectAddr then
      ⟨.addrMismatch, frame, "addr mismatch: expected " ++ toString expectAddr.toNat ++ ", got " ++
        toString frame.addr.toNat, 0⟩
    else if expectCmd ≠ 0 ∧ frame.command ≠ expectCmd then
      ⟨.cmdMismatch, frame, "cmd mismatch: expected " ++ toString expectCmd.toNat ++ ", got " ++
        toString frame.command.toNat, 0⟩
    else
      searchFrame buffer frame errorMessage finalChunk
        (if finalChunk then "CRC mismatch" else "frame incomplete") (frameLens buffer.length)

/-- A frame with so many bytes ends with its own CRC. -/
def EndsWithCrc (buffer : List UInt8) (frameLen : Nat) : Prop :=
  computedCrc buffer frameLen = frameCrc buffer frameLen

instance (buffer : List UInt8) (frameLen : Nat) : Decidable (EndsWithCrc buffer frameLen) := by
  unfold EndsWithCrc
  infer_instance

/-- **Decodable frames**: there is enough payload, and no shorter prefix ends with its own CRC. -/
def Decodable (frame : List UInt8) : Prop :=
  kMinFrameLen ≤ frame.length ∧
    ∀ frameLen, kMinFrameLen ≤ frameLen → frameLen < frame.length → ¬ EndsWithCrc frame frameLen

/-- What a frame carries. -/
def frameOf (counter addr command : UInt8) (payload : List UInt8) : RadarFrame where
  counter := counter
  addr := addr
  command := command
  payload := payload
  crc32 := crc32Stm32 (crcInput counter addr command payload)

/-- The frames of a channel are expected. -/
def FrameChannel.Expects (channel : FrameChannel) (interrupt : Bool) : Prop :=
  channel = .any ∨ channel = if interrupt then .interrupt else .main

/-- **The frame is decoded to what was encoded**: every proper prefix is incomplete, and of the
whole frame all is consumed. -/
structure DecodesExactly (counter addr command : UInt8) (payload : List UInt8) (interrupt : Bool) :
    Prop where
  part : ∀ part, part <+: encodeFrame counter addr command payload interrupt →
    part ≠ encodeFrame counter addr command payload interrupt →
      ∀ frame message channel, FrameChannel.Expects channel interrupt →
        (tryDecodeFrame part addr command frame message channel false).status = .incomplete
  whole : ∀ frame message channel finalChunk, FrameChannel.Expects channel interrupt →
    tryDecodeFrame (encodeFrame counter addr command payload interrupt) addr command frame message
        channel finalChunk =
      ⟨.ok, frameOf counter addr command payload, message,
        (encodeFrame counter addr command payload interrupt).length⟩

/-! ## §4. The search -/

section Search

variable {buffer : List UInt8} {lens : List Nat}

/-- The loop takes the first length whose bytes end with their CRC, -/
theorem searchFrame_found {frameLen : Nat}
    (h : lens.find? (fun len => decide (EndsWithCrc buffer len)) = some frameLen)
    (frame : RadarFrame) (errorMessage : String) (finalChunk : Bool) :
    ∀ bestError, searchFrame buffer frame errorMessage finalChunk bestError lens =
      ⟨.ok, { frame with
          payload := mid buffer kHeaderLen (frameLen - kHeaderLen - kCrcLen)
          crc32 := frameCrc buffer frameLen }, errorMessage, frameLen⟩ := by
  induction lens with
  | nil => cases h
  | cons len lens ih =>
    intro bestError
    rw [searchFrame]
    by_cases hcrc : EndsWithCrc buffer len
    · rw [List.find?_cons_of_pos (by simpa using hcrc)] at h
      obtain rfl := Option.some.inj h
      exact if_neg (not_not.mpr hcrc)
    · rw [List.find?_cons_of_neg (by simpa using hcrc)] at h
      exact (if_pos hcrc).trans (ih h _)

/-- or none. -/
theorem searchFrame_none
    (h : lens.find? (fun len => decide (EndsWithCrc buffer len)) = none)
    (frame : RadarFrame) (errorMessage : String) (finalChunk : Bool) :
    ∀ bestError, ∃ message, searchFrame buffer frame errorMessage finalChunk bestError lens =
      ⟨if finalChunk then .crcError else .incomplete, frame, message, 0⟩ := by
  induction lens with
  | nil => exact fun bestError => ⟨bestError, rfl⟩
  | cons len lens ih =>
    intro bestError
    rw [searchFrame]
    by_cases hcrc : EndsWithCrc buffer len
    · rw [List.find?_cons_of_pos (by simpa using hcrc)] at h
      cases h
    · rw [List.find?_cons_of_neg (by simpa using hcrc)] at h
      obtain ⟨message, hmessage⟩ := ih h (if finalChunk then
          "CRC mismatch: computed 0x" ++ hexWord (computedCrc buffer len) ++ ", frame 0x" ++
            hexWord (frameCrc buffer len)
        else bestError)
      exact ⟨message, (if_pos hcrc).trans hmessage⟩

/-- The first of the lengths that the loop goes through. -/
theorem find_frameLens {size frameLen : Nat} :
    (frameLens size).find? (fun len => decide (EndsWithCrc buffer len)) = some frameLen ↔
      EndsWithCrc buffer frameLen ∧ (kMinFrameLen ≤ frameLen ∧ frameLen ≤ size) ∧
        ∀ len, kMinFrameLen ≤ len → len < frameLen → ¬ EndsWithCrc buffer len := by
  unfold frameLens
  rw [List.find?_range'_eq_some]
  simp only [List.mem_range'_1, decide_eq_true_eq, Bool.not_eq_true', decide_eq_false_iff_not,
    and_congr_right_iff]
  intro _
  have hbounds : (kMinFrameLen ≤ frameLen ∧ frameLen < kMinFrameLen + (size + 1 - kMinFrameLen)) ↔
      kMinFrameLen ≤ frameLen ∧ frameLen ≤ size := by
    unfold kMinFrameLen kHeaderLen kCrcLen
    omega
  rw [hbounds]

theorem find_frameLens_none {size : Nat}
    (h : ∀ len, kMinFrameLen ≤ len → len ≤ size → ¬ EndsWithCrc buffer len) :
    (frameLens size).find? (fun len => decide (EndsWithCrc buffer len)) = none := by
  rw [List.find?_eq_none]
  intro len hlen
  obtain ⟨hmin, hmax⟩ := List.mem_range'_1.mp hlen
  rw [decide_eq_true_eq]
  exact h len hmin (by omega)

end Search

/-! ## §5. Encoded frames -/

section Encoded

variable {counter addr command : UInt8} {payload : List UInt8} {interrupt : Bool}

theorem mid_append {bytes : List UInt8} {pos len : Nat} (more : List UInt8)
    (h : pos + len ≤ bytes.length) : mid (bytes ++ more) pos len = mid bytes pos len := by
  unfold mid
  rw [List.drop_append_of_le_length (by omega),
    List.take_append_of_le_length (by rw [List.length_drop]; omega)]

theorem length_magic (interrupt : Bool) : (magic interrupt).length = 4 := by
  cases interrupt <;> rfl

theorem length_encodeFrame :
    (encodeFrame counter addr command payload interrupt).length = payload.length + 12 := by
  unfold encodeFrame crcInput qToBigEndian
  simp only [List.length_append, List.length_cons, length_magic, length_toBytes]
  omega

theorem fromBigEndian_toBigEndian (value : UInt32) :
    qFromBigEndian (qToBigEndian value) = value := by
  have hlt := value.toNat_lt
  unfold qFromBigEndian qToBigEndian
  rw [ofBytes_toBytes, Nat.mod_eq_of_lt (by omega)]
  exact UInt32.ofNat_toNat

/-- What comes after the header. -/
theorem mid_payload {len : Nat} (h : len ≤ payload.length) :
    mid (encodeFrame counter addr command payload interrupt) kHeaderLen len =
      payload.take len := by
  have hfront : encodeFrame counter addr command payload interrupt =
      (magic interrupt ++ [counter, 0, addr, command]) ++ (payload ++
        qToBigEndian (crc32Stm32 (crcInput counter addr command payload))) := by
    simp [encodeFrame, crcInput]
  have hlen : (magic interrupt ++ [counter, 0, addr, command]).length = kHeaderLen := by
    rw [List.length_append, length_magic]
    rfl
  unfold mid
  rw [hfront, ← hlen, List.drop_left, List.take_append_of_le_length h]

theorem computedCrc_encodeFrame :
    computedCrc (encodeFrame counter addr command payload interrupt)
        (encodeFrame counter addr command payload interrupt).length =
      crc32Stm32 (crcInput counter addr command payload) := by
  have hlen : (encodeFrame counter addr command payload interrupt).length - kMagicLen - kCrcLen =
      (crcInput counter addr command payload).length := by
    rw [length_encodeFrame]
    rfl
  unfold computedCrc mid
  rw [hlen, encodeFrame, List.append_assoc,
    List.drop_left' (show (magic interrupt).length = kMagicLen from length_magic interrupt),
    List.take_left]

theorem frameCrc_encodeFrame :
    frameCrc (encodeFrame counter addr command payload interrupt)
        (encodeFrame counter addr command payload interrupt).length =
      crc32Stm32 (crcInput counter addr command payload) := by
  have hlen : (encodeFrame counter addr command payload interrupt).length - kCrcLen =
      (magic interrupt ++ crcInput counter addr command payload).length := by
    rw [length_encodeFrame, List.length_append, length_magic]
    show payload.length + 12 - 4 = 4 + (payload.length + 4)
    omega
  unfold frameCrc mid
  rw [hlen, encodeFrame, List.drop_left]
  show qFromBigEndian ((toBytes 4 _).take 4) = _
  rw [List.take_of_length_le (by rw [length_toBytes])]
  exact fromBigEndian_toBigEndian _

/-- The whole frame ends with its CRC. -/
theorem endsWithCrc_encodeFrame :
    EndsWithCrc (encodeFrame counter addr command payload interrupt)
      (encodeFrame counter addr command payload interrupt).length :=
  computedCrc_encodeFrame.trans frameCrc_encodeFrame.symm

variable {part : List UInt8} {channel : FrameChannel}

/-- Whether the first bytes end with their CRC does not depend on the bytes after them. -/
theorem endsWithCrc_append {frameLen : Nat} (more : List UInt8) (hmin : kMinFrameLen ≤ frameLen)
    (hmax : frameLen ≤ part.length) :
    EndsWithCrc (part ++ more) frameLen ↔ EndsWithCrc part frameLen := by
  unfold EndsWithCrc computedCrc frameCrc
  unfold kMinFrameLen kHeaderLen kCrcLen at *
  unfold kMagicLen
  rw [mid_append more (by omega), mid_append more (by omega)]

/-- **The header of the first bytes** passes all checks. -/
theorem tryDecodeFrame_part (hpart : part <+: encodeFrame counter addr command payload interrupt)
    (hmin : kMinFrameLen ≤ part.length) (hchannel : channel.Expects interrupt) (frame : RadarFrame)
    (message : String) (finalChunk : Bool) :
    tryDecodeFrame part addr command frame message channel finalChunk =
      searchFrame part
        { frame with counter := counter, option := 0, addr := addr, command := command } message
        finalChunk (if finalChunk then "CRC mismatch" else "frame incomplete")
        (frameLens part.length) := by
  obtain ⟨rest, hrest⟩ := hpart
  have hsixteen : 16 ≤ part.length := hmin
  -- the eight bytes of the header are those of the whole frame
  have hget : ∀ i, i < 16 → part.getD i 0 =
      (encodeFrame counter addr command payload interrupt).getD i 0 := by
    intro i hi
    rw [← hrest, List.getD_append _ _ _ _ (by omega)]
  have hmagic : part.take kMagicLen = magic interrupt := by
    have htake : (encodeFrame counter addr command payload interrupt).take kMagicLen =
        magic interrupt := by
      rw [encodeFrame, List.append_assoc]
      exact List.take_left' (length_magic interrupt)
    rw [← htake, ← hrest, List.take_append_of_le_length]
    show 4 ≤ part.length
    omega
  have hcounter : part.getD 4 0 = counter := by
    rw [hget 4 (by omega)]
    cases interrupt <;> rfl
  have hoption : part.getD 5 0 = 0 := by
    rw [hget 5 (by omega)]
    cases interrupt <;> rfl
  have haddr : part.getD 6 0 = addr := by
    rw [hget 6 (by omega)]
    cases interrupt <;> rfl
  have hcommand : part.getD 7 0 = command := by
    rw [hget 7 (by omega)]
    cases interrupt <;> rfl
  have hknown : ¬ (part.take kMagicLen ≠ kMagicJD3D ∧ part.take kMagicLen ≠ kMagicJD3I) := by
    rw [hmagic]
    cases interrupt <;> decide
  have hexpected : ¬ ((channel = .main ∧ part.take kMagicLen ≠ kMagicJD3D) ∨
      (channel = .interrupt ∧ part.take kMagicLen ≠ kMagicJD3I)) := by
    rw [hmagic]
    obtain rfl | rfl := hchannel <;> cases interrupt <;> decide
  unfold tryDecodeFrame
  rw [if_neg (Nat.not_lt.mpr hmin), if_neg hknown, if_neg hexpected]
  dsimp only
  rw [hcounter, hoption, haddr, hcommand, if_neg (fun h => h.2 rfl), if_neg (fun h => h.2 rfl)]

/-- **A frame is found** where the first bytes that end with their CRC do. -/
theorem tryDecodeFrame_found (hpart : part <+: encodeFrame counter addr command payload interrupt)
    {frameLen : Nat}
    (hfind : (frameLens part.length).find? (fun len => decide (EndsWithCrc part len)) =
      some frameLen) (hchannel : channel.Expects interrupt) (frame : RadarFrame) (message : String)
    (finalChunk : Bool) :
    tryDecodeFrame part addr command frame message channel finalChunk =
      ⟨.ok, ⟨counter, 0, addr, command, payload.take (frameLen - 12), frameCrc part frameLen⟩,
        message, frameLen⟩ := by
  obtain ⟨-, ⟨hmin, hmax⟩, -⟩ := find_frameLens.mp hfind
  have hsixteen : 16 ≤ frameLen := hmin
  have hle : part.length ≤ payload.length + 12 := by
    rw [← @length_encodeFrame counter addr command payload interrupt]
    exact hpart.length_le
  have hpayload : mid part kHeaderLen (frameLen - kHeaderLen - kCrcLen) =
      payload.take (frameLen - 12) := by
    obtain ⟨rest, hrest⟩ := hpart
    have hlen : frameLen - kHeaderLen - kCrcLen = frameLen - 12 := by
      unfold kHeaderLen kCrcLen
      omega
    rw [hlen, ← mid_append rest (by unfold kHeaderLen; omega), hrest, mid_payload (by omega)]
  rw [tryDecodeFrame_part hpart (Nat.le_trans hmin hmax) hchannel, searchFrame_found hfind,
    hpayload]

/-- Before, the frame is incomplete. -/
theorem tryDecodeFrame_incomplete
    (hpart : part <+: encodeFrame counter addr command payload interrupt)
    (hnone : ∀ len, kMinFrameLen ≤ len → len ≤ part.length → ¬ EndsWithCrc part len)
    (hchannel : channel.Expects interrupt) (frame : RadarFrame) (message : String) :
    (tryDecodeFrame part addr command frame message channel false).status = .incomplete := by
  by_cases hmin : kMinFrameLen ≤ part.length
  · rw [tryDecodeFrame_part hpart hmin hchannel]
    obtain ⟨message', hresult⟩ := searchFrame_none (find_frameLens_none hnone)
      { frame with counter := counter, option := 0, addr := addr, command := command } message false
      (if false then "CRC mismatch" else "frame incomplete")
    rw [hresult]
    rfl
  · unfold tryDecodeFrame
    rw [if_pos (Nat.lt_of_not_le hmin)]

/-- With the payload that was encoded, all of the frame has been found. -/
theorem decodable_of_payload (hchannel : channel.Expects interrupt) (frame : RadarFrame)
    (message : String) (finalChunk : Bool)
    (hok : (tryDecodeFrame (encodeFrame counter addr command payload interrupt) addr command frame
      message channel finalChunk).status = .ok)
    (hpayload : (tryDecodeFrame (encodeFrame counter addr command payload interrupt) addr command
      frame message channel finalChunk).frame.payload = payload) :
    Decodable (encodeFrame counter addr command payload interrupt) := by
  set whole := encodeFrame counter addr command payload interrupt with hwhole
  have hlen : whole.length = payload.length + 12 := length_encodeFrame
  by_cases hmin : kMinFrameLen ≤ whole.length
  · cases hfind : (frameLens whole.length).find? (fun len => decide (EndsWithCrc whole len)) with
    | none =>
      -- nothing is found, but the frame was decoded
      obtain ⟨message', hresult⟩ := searchFrame_none hfind
        { frame with counter := counter, option := 0, addr := addr, command := command } message
        finalChunk (if finalChunk then "CRC mismatch" else "frame incomplete")
      rw [tryDecodeFrame_part List.prefix_rfl hmin hchannel, hresult] at hok
      cases finalChunk <;> cases hok
    | some frameLen =>
      -- the payload goes up to four bytes before the end, so its length says where that is
      rw [tryDecodeFrame_found List.prefix_rfl hfind hchannel] at hpayload
      have htake : (payload.take (frameLen - 12)).length = payload.length :=
        congrArg List.length hpayload
      rw [List.length_take] at htake
      obtain ⟨-, ⟨hsixteen, hmax⟩, hfirst⟩ := find_frameLens.mp hfind
      unfold kMinFrameLen kHeaderLen kCrcLen at hsixteen
      obtain rfl : frameLen = whole.length := by omega
      exact ⟨hmin, hfirst⟩
  · unfold tryDecodeFrame at hok
    rw [if_pos (Nat.lt_of_not_le hmin)] at hok
    cases hok

/-- **Round trips.**  A frame is decoded to what was encoded iff there are at least four bytes of
payload and no shorter prefix ends with its own CRC. -/
theorem decodesExactly_iff :
    DecodesExactly counter addr command payload interrupt ↔
      Decodable (encodeFrame counter addr command payload interrupt) := by
  set whole := encodeFrame counter addr command payload interrupt with hwhole
  have hlen : whole.length = payload.length + 12 := length_encodeFrame
  constructor
  · intro h
    have hresult := h.whole {} "" .any false (Or.inl rfl)
    refine decodable_of_payload (Or.inl rfl) {} "" false ?_ ?_
    · rw [hresult]
    · rw [hresult]
      rfl
  · intro h
    refine ⟨?_, ?_⟩
    · -- what ends with its CRC in a part does so in the frame
      intro part hpart hproper frame message channel hchannel
      refine tryDecodeFrame_incomplete hpart ?_ hchannel frame message
      intro len hmin hmax hcrc
      have hlt : part.length < whole.length :=
        Nat.lt_of_le_of_ne hpart.length_le fun hsame => hproper (hpart.eq_of_length hsame)
      obtain ⟨rest, hrest⟩ := hpart
      refine h.2 len hmin (by omega) ?_
      rw [hwhole, ← hrest]
      exact (endsWithCrc_append rest hmin hmax).mpr hcrc
    · intro frame message channel finalChunk hchannel
      have hfind : (frameLens whole.length).find? (fun len => decide (EndsWithCrc whole len)) =
          some whole.length :=
        find_frameLens.mpr ⟨endsWithCrc_encodeFrame, ⟨h.1, Nat.le_refl _⟩, h.2⟩
      rw [tryDecodeFrame_found List.prefix_rfl hfind hchannel, hwhole, frameCrc_encodeFrame]
      have htake : payload.take (whole.length - 12) = payload := by
        rw [hlen, Nat.add_sub_cancel, List.take_length]
      rw [← hwhole, htake]
      rfl

end Encoded

/-! ## §6. Payloads -/

def qToBigEndian16 (value : UInt16) : List UInt8 := toBytes 2 value.toNat

def qFromBigEndian16 (bytes : List UInt8) : UInt16 := UInt16.ofNat (ofBytes bytes)

def makeU32Payload (value : UInt32) : List UInt8 := qToBigEndian value

def makeRegPayload (regAddr : UInt16) (value : UInt32) : List UInt8 :=
  qToBigEndian16 regAddr ++ qToBigEndian value

/-- `parseRegResponse`: the register and its value. -/
def parseRegResponse (payload : List UInt8) : Option (UInt16 × UInt32) :=
  if payload.length < 6 then none
  else some (qFromBigEndian16 (mid payload 0 2), qFromBigEndian (mid payload 2 4))

/-- `parseSegmentResponse`: the index, the length and the data. -/
def parseSegmentResponse (payload : List UInt8) : Option (UInt32 × UInt16 × List UInt8) :=
  if payload.length < 6 then none
  else
    let segLen := qFromBigEndian16 (mid payload 4 2)
    if segLen.toNat + 6 > payload.length then none
    else some (qFromBigEndian (mid payload 0 4), segLen, mid payload 6 segLen.toNat)

/-- There are as many data as are announced. -/
theorem length_segData {payload segData : List UInt8} {segIndex : UInt32} {segLen : UInt16}
    (h : parseSegmentResponse payload = some (segIndex, segLen, segData)) :
    segData.length = segLen.toNat := by
  unfold parseSegmentResponse at h
  by_cases hsix : payload.length < 6
  · rw [if_pos hsix] at h
    cases h
  · rw [if_neg hsix] at h
    dsimp only at h
    by_cases hlen : (qFromBigEndian16 (mid payload 4 2)).toNat + 6 > payload.length
    · rw [if_pos hlen] at h
      cases h
    · rw [if_neg hlen] at h
      cases h
      show ((payload.drop 6).take (qFromBigEndian16 (mid payload 4 2)).toNat).length = _
      rw [List.length_take, List.length_drop]
      omega

end Stdiolink.ScanRobot
