/-
  Stdiolink.LaserRadar.WordCrc — the CRC of both radars, bit by bit, `crc32Stm32` of the scan robot
  and of the laser radar.

  Both take the words of the data one after another and each word from its last byte to its first.
  One masks the index into its table and the other does not; it is a byte either way.

  Main results:
    * `crc32Mpeg2Step_eq` — a step with the table is eight shifts;
    * `fold_words`        — the words backwards are the bytes with each word reversed;
    * `crc32_words`       — both functions are CRC-32/MPEG-2 of the reversed words.
-/
import Stdiolink.Lib.Crc
import Stdiolink.LaserRadar.ProtocolCodec

namespace Stdiolink.LaserRadar.WordCrc

open Stdiolink.Lib
open Stdiolink.ScanRobot (crcShift)

/-! ## §1. The CRC, bit by bit -/

/-- `kCrc32Table` of the laser radar. -/
def kCrc32Table : List UInt32 :=
  [0x00000000, 0x04c11db7, 0x09823b6e, 0x0d4326d9, 0x130476dc, 0x17c56b6b, 0x1a864db2, 0x1e475005,
    0x2608edb8, 0x22c9f00f, 0x2f8ad6d6, 0x2b4bcb61, 0x350c9b64, 0x31cd86d3, 0x3c8ea00a, 0x384fbdbd,
    0x4c11db70, 0x48d0c6c7, 0x4593e01e, 0x4152fda9, 0x5f15adac, 0x5bd4b01b, 0x569796c2, 0x52568b75,
    0x6a1936c8, 0x6ed82b7f, 0x639b0da6, 0x675a1011, 0x791d4014, 0x7ddc5da3, 0x709f7b7a, 0x745e66cd,
    0x9823b6e0, 0x9ce2ab57, 0x91a18d8e, 0x95609039, 0x8b27c03c, 0x8fe6dd8b, 0x82a5fb52, 0x8664e6e5,
    0xbe2b5b58, 0xbaea46ef, 0xb7a96036, 0xb3687d81, 0xad2f2d84, 0xa9ee3033, 0xa4ad16ea, 0xa06c0b5d,
    0xd4326d90, 0xd0f37027, 0xddb056fe, 0xd9714b49, 0xc7361b4c, 0xc3f706fb, 0xceb42022, 0xca753d95,
    0xf23a8028, 0xf6fb9d9f, 0xfbb8bb46, 0xff79a6f1, 0xe13ef6f4, 0xe5ffeb43, 0xe8bccd9a, 0xec7dd02d,
    0x34867077, 0x30476dc0, 0x3d044b19, 0x39c556ae, 0x278206ab, 0x23431b1c, 0x2e003dc5, 0x2ac12072,
    0x128e9dcf, 0x164f8078, 0x1b0ca6a1, 0x1fcdbb16, 0x018aeb13, 0x054bf6a4, 0x0808d07d, 0x0cc9cdca,
    0x7897ab07, 0x7c56b6b0, 0x71159069, 0x75d48dde, 0x6b93dddb, 0x6f52c06c, 0x6211e6b5, 0x66d0fb02,
    0x5e9f46bf, 0x5a5e5b08, 0x571d7dd1, 0x53dc6066, 0x4d9b3063, 0x495a2dd4, 0x44190b0d, 0x40d816ba,
    0xaca5c697, 0xa864db20, 0xa527fdf9, 0xa1e6e04e, 0xbfa1b04b, 0xbb60adfc, 0xb6238b25, 0xb2e29692,
    0x8aad2b2f, 0x8e6c3698, 0x832f1041, 0x87ee0df6, 0x99a95df3, 0x9d684044, 0x902b669d, 0x94ea7b2a,
    0xe0b41de7, 0xe4750050, 0xe9362689, 0xedf73b3e, 0xf3b06b3b, 0xf771768c, 0xfa325055, 0xfef34de2,
    0xc6bcf05f, 0xc27dede8, 0xcf3ecb31, 0xcbffd686, 0xd5b88683, 0xd1799b34, 0xdc3abded, 0xd8fba05a,
    0x690ce0ee, 0x6dcdfd59, 0x608edb80, 0x644fc637, 0x7a089632, 0x7ec98b85, 0x738aad5c, 0x774bb0eb,
    0x4f040d56, 0x4bc510e1, 0x46863638, 0x42472b8f, 0x5c007b8a, 0x58c1663d, 0x558240e4, 0x51435d53,
    0x251d3b9e, 0x21dc2629, 0x2c9f00f0, 0x285e1d47, 0x36194d42, 0x32d850f5, 0x3f9b762c, 0x3b5a6b9b,
    0x0315d626, 0x07d4cb91, 0x0a97ed48, 0x0e56f0ff, 0x1011a0fa, 0x14d0bd4d, 0x19939b94, 0x1d528623,
    0xf12f560e, 0xf5ee4bb9, 0xf8ad6d60, 0xfc6c70d7, 0xe22b20d2, 0xe6ea3d65, 0xeba91bbc, 0xef68060b,
    0xd727bbb6, 0xd3e6a601, 0xdea580d8, 0xda649d6f, 0xc423cd6a, 0xc0e2d0dd, 0xcda1f604, 0xc960ebb3,
    0xbd3e8d7e, 0xb9ff90c9, 0xb4bcb610, 0xb07daba7, 0xae3afba2, 0xaafbe615, 0xa7b8c0cc, 0xa379dd7b,
    0x9b3660c6, 0x9ff77d71, 0x92b45ba8, 0x9675461f, 0x8832161a, 0x8cf30bad, 0x81b02d74, 0x857130c3,
    0x5d8a9099, 0x594b8d2e, 0x5408abf7, 0x50c9b640, 0x4e8ee645, 0x4a4ffbf2, 0x470cdd2b, 0x43cdc09c,
    0x7b827d21, 0x7f436096, 0x7200464f, 0x76c15bf8, 0x68860bfd, 0x6c47164a, 0x61043093, 0x65c52d24,
    0x119b4be9, 0x155a565e, 0x18197087, 0x1cd86d30, 0x029f3d35, 0x065e2082, 0x0b1d065b, 0x0fdc1bec,
    0x3793a651, 0x3352bbe6, 0x3e119d3f, 0x3ad08088, 0x2497d08d, 0x2056cd3a, 0x2d15ebe3, 0x29d4f654,
    0xc5a92679, 0xc1683bce, 0xcc2b1d17, 0xc8ea00a0, 0xd6ad50a5, 0xd26c4d12, 0xdf2f6bcb, 0xdbee767c,
    0xe3a1cbc1, 0xe760d676, 0xea23f0af, 0xeee2ed18, 0xf0a5bd1d, 0xf464a0aa, 0xf9278673, 0xfde69bc4,
    0x89b8fd09, 0x8d79e0be, 0x803ac667, 0x84fbdbd0, 0x9abc8bd5, 0x9e7d9662, 0x933eb0bb, 0x97ffad0c,
    0xafb010b1, 0xab710d06, 0xa6322bdf, 0xa2f33668, 0xbcb4666d, 0xb8757bda, 0xb5365d03, 0xb1f740b4]

/-- **CRC-32/MPEG-2**: each byte is added to the high bits, which are shifted out one by one. -/
def bitwiseCrc (data : List UInt8) : UInt32 :=
  data.foldl (fun crc byte => crcShift^[8] (crc ^^^ byte.toUInt32 <<< (24 : UInt32))) 0xFFFFFFFF

/-- The data with zeros up to the next word. -/
def padded (data : List UInt8) : List UInt8 :=
  data ++ List.replicate ((4 - data.length % 4) % 4) 0

/-- The bytes of each word from the last to the first. -/
def reverseWords : List UInt8 → List UInt8
  | a :: b :: c :: d :: rest => d :: c :: b :: a :: reverseWords rest
  | _ => []

/-- The index of `crc32Mpeg2Step` into the table, of the scan robot, -/
def index (byteIn : UInt8) (crcIn : UInt32) : Nat :=
  ((crcIn >>> 24) ^^^ byteIn.toUInt32).toNat

/-- and of the laser radar. -/
def maskedIndex (byteIn : UInt8) (crcIn : UInt32) : Nat :=
  (((crcIn >>> 24) ^^^ byteIn.toUInt32) &&& 0xFF).toNat

/-- One shift, on the bits of the word. -/
theorem toBitVec_crcShift (c : UInt32) :
    (crcShift c).toBitVec = Crc.shiftHigh 0x04C11DB7#32 c.toBitVec := by
  have hhigh : c &&& 0x80000000 ≠ 0 ↔ c.toBitVec.msb = true := by
    rw [ne_eq, ← UInt32.toBitVec_inj, UInt32.toBitVec_and]
    show ¬ c.toBitVec &&& 0x80000000#32 = 0#32 ↔ _
    have hmask : ∀ i < 32, (0x80000000#32).getLsbD i = decide (i = 31) := by decide
    rw [BitVec.msb_eq_getLsbD_last]
    constructor
    · intro h
      by_contra hlow
      refine h (BitVec.eq_of_getLsbD_eq fun i hi => ?_)
      rw [BitVec.getLsbD_and, hmask i hi, BitVec.getLsbD_zero]
      by_cases hlast : i = 31
      · subst hlast
        simpa using hlow
      · simp [hlast]
    · intro h hzero
      have hbit := congrArg (fun x => x.getLsbD 31) hzero
      rw [BitVec.getLsbD_and, hmask 31 (by decide), h, BitVec.getLsbD_zero] at hbit
      cases hbit
  unfold crcShift Crc.shiftHigh
  by_cases h : c &&& 0x80000000 ≠ 0
  · rw [if_pos h, if_pos (hhigh.mp h)]
    rfl
  · rw [if_neg h, if_neg fun h' => h (hhigh.mpr h')]
    rfl

theorem toBitVec_iterate (n : Nat) (c : UInt32) :
    (crcShift^[n] c).toBitVec = (Crc.shiftHigh 0x04C11DB7#32)^[n] c.toBitVec :=
  Function.Semiconj.iterate_right toBitVec_crcShift n c

/-- **A byte from the table**: the high eight bits choose the entry, the others move up. -/
theorem crc32Mpeg2Step_eq (byteIn : UInt8) (crcIn : UInt32) :
    ScanRobot.crc32Mpeg2Step byteIn crcIn = crcShift^[8] (crcIn ^^^ byteIn.toUInt32 <<< 24) := by
  have hindex := ScanRobot.crcIndex_lt byteIn crcIn
  rw [ScanRobot.length_kCrc32Table] at hindex
  have hentry : ScanRobot.kCrc32Table.getD ((crcIn >>> 24) ^^^ byteIn.toUInt32).toNat 0 =
      crcShift^[8] (((crcIn >>> 24) ^^^ byteIn.toUInt32) <<< 24) := by
    rw [ScanRobot.kCrc32Table_eq, List.getD_eq_getElem _ _ (by simpa using hindex),
      List.getElem_map, List.getElem_range, UInt32.ofNat_toNat]
  have hhigh : ((((crcIn >>> 24) ^^^ byteIn.toUInt32) <<< 24).toBitVec) =
      (crcIn ^^^ byteIn.toUInt32 <<< 24).toBitVec &&& 0xFF000000#32 := by
    have hmask : ∀ i < 32, (0xFF000000#32).getLsbD i = decide (24 ≤ i) := by decide
    apply BitVec.eq_of_getLsbD_eq
    intro i hi
    show ((crcIn.toBitVec >>> 24 ^^^ byteIn.toBitVec.setWidth 32) <<< 24).getLsbD i =
      ((crcIn.toBitVec ^^^ byteIn.toBitVec.setWidth 32 <<< 24) &&& 0xFF000000#32).getLsbD i
    rw [BitVec.getLsbD_and, hmask i hi, BitVec.getLsbD_shiftLeft, BitVec.getLsbD_xor,
      BitVec.getLsbD_xor, BitVec.getLsbD_ushiftRight, BitVec.getLsbD_shiftLeft]
    by_cases hlow : i < 24
    · have hnot : ¬ 24 ≤ i := by omega
      simp [hlow, hnot]
    · have hle : 24 ≤ i := by omega
      rw [Nat.add_sub_cancel' hle]
      simp [hi, hlow, hle]
  have hmoved : (crcIn ^^^ byteIn.toUInt32 <<< 24).toBitVec <<< 8 = (crcIn <<< 8).toBitVec := by
    apply BitVec.eq_of_getLsbD_eq
    intro i hi
    show ((crcIn.toBitVec ^^^ byteIn.toBitVec.setWidth 32 <<< 24) <<< 8).getLsbD i =
      (crcIn.toBitVec <<< 8).getLsbD i
    have hlow : i - 8 < 24 := by omega
    rw [BitVec.getLsbD_shiftLeft, BitVec.getLsbD_shiftLeft, BitVec.getLsbD_xor,
      BitVec.getLsbD_shiftLeft]
    simp [hlow]
  rw [ScanRobot.crc32Mpeg2Step, hentry, ← UInt32.toBitVec_inj, toBitVec_iterate,
    Crc.shiftHigh_iterate_split (m := 0xFF000000#32) (by decide), UInt32.toBitVec_xor,
    toBitVec_iterate, hhigh, hmoved, BitVec.xor_comm]

/-! ## §2. Words -/

theorem length_padded (data : List UInt8) : ∃ words, (padded data).length = 4 * words := by
  refine ⟨(data.length + 3) / 4, ?_⟩
  rw [padded, List.length_append, List.length_replicate]
  omega

/-- **The words backwards** are the bytes with each word reversed. -/
theorem fold_words (words : Nat) : ∀ (data : List UInt8) (crc : UInt32),
    data.length = 4 * words →
      (List.range words).foldl (fun crc x => [4 * x + 3, 4 * x + 2, 4 * x + 1, 4 * x].foldl
          (fun crc y => ScanRobot.crc32Mpeg2Step (data.getD y 0) crc) crc) crc =
        (reverseWords data).foldl (fun crc byte => ScanRobot.crc32Mpeg2Step byte crc) crc := by
  induction words with
  | zero =>
    intro data crc hlen
    rw [List.length_eq_zero_iff.mp hlen]
    rfl
  | succ words ih =>
    intro data crc hlen
    obtain ⟨a, b, c, d, rest, rfl⟩ : ∃ a b c d rest, data = a :: b :: c :: d :: rest := by
      rcases data with _ | ⟨a, _ | ⟨b, _ | ⟨c, _ | ⟨d, rest⟩⟩⟩⟩
      · simp at hlen
      · simp at hlen
        omega
      · simp at hlen
        omega
      · simp at hlen
        omega
      · exact ⟨a, b, c, d, rest, rfl⟩
    have hrest : rest.length = 4 * words := by
      simp only [List.length_cons] at hlen
      omega
    have hnext : ∀ x y, (a :: b :: c :: d :: rest).getD (4 * (x + 1) + y) 0 =
        rest.getD (4 * x + y) 0 := by
      intro x y
      have hplace : 4 * (x + 1) + y = 4 * x + y + 1 + 1 + 1 + 1 := by omega
      rw [hplace]
      iterate 4 rw [List.getD_cons_succ]
    have hfirst : ∀ x, (a :: b :: c :: d :: rest).getD (4 * (x + 1)) 0 = rest.getD (4 * x) 0 :=
      fun x => hnext x 0
    have hwords := ih rest ([d, c, b, a].foldl
      (fun crc byte => ScanRobot.crc32Mpeg2Step byte crc) crc) hrest
    simp only [List.foldl_cons, List.foldl_nil] at hwords
    -- the first word of the data, and then the words of the rest
    rw [List.range_succ_eq_map, List.foldl_cons, List.foldl_map, reverseWords]
    simp only [List.foldl_cons, List.foldl_nil, Nat.succ_eq_add_one, hnext, hfirst, ← hwords]
    rfl

/-- The zeros up to the next word are those of `crc32Stm32`. -/
theorem crc32Stm32_words (data : List UInt8) :
    ScanRobot.crc32Stm32 data =
      (reverseWords (padded data)).foldl
        (fun crc byte => ScanRobot.crc32Mpeg2Step byte crc) 0xFFFFFFFF := by
  obtain ⟨words, hlen⟩ := length_padded data
  have hwords : ((padded data).length + 3) / 4 = words := by omega
  rw [← fold_words words _ _ hlen, ← hwords, ← ScanRobot.crc32Stm32_eq]
  refine (ScanRobot.crc32Stm32_padded ?_).symm
  omega

/-- **The CRC of both radars**: one value, which is CRC-32/MPEG-2 of the padded data with the bytes
of each word reversed, and every step reads its table within its 256 entries. -/
theorem crc32_words (data : List UInt8) :
    (∀ byteIn crcIn,
      (index byteIn crcIn < ScanRobot.kCrc32Table.length ∧
        ScanRobot.crc32Mpeg2Step byteIn crcIn =
          (crcIn <<< 8) ^^^ ScanRobot.kCrc32Table.getD (index byteIn crcIn) 0) ∧
      maskedIndex byteIn crcIn < kCrc32Table.length ∧
        LaserRadar.crc32Mpeg2Step byteIn crcIn =
          (crcIn <<< 8) ^^^ kCrc32Table.getD (maskedIndex byteIn crcIn) 0) ∧
    ScanRobot.kCrc32Table.length = 256 ∧ kCrc32Table = ScanRobot.kCrc32Table ∧
    LaserRadar.crc32Stm32 data = ScanRobot.crc32Stm32 data ∧
    ScanRobot.crc32Stm32 data = bitwiseCrc (reverseWords (padded data)) := by
  have htable : kCrc32Table = ScanRobot.kCrc32Table := by decide +kernel
  refine ⟨fun byteIn crcIn => ⟨⟨ScanRobot.crcIndex_lt byteIn crcIn, rfl⟩, ?_, ?_⟩,
    ScanRobot.length_kCrc32Table, htable, crc32Stm32_eq_scanRobot data, ?_⟩
  · rw [htable, ScanRobot.length_kCrc32Table, maskedIndex, UInt32.toNat_and]
    exact Nat.lt_succ_of_le Nat.and_le_right
  · rw [htable]
    rfl
  · rw [crc32Stm32_words, bitwiseCrc]
    simp only [crc32Mpeg2Step_eq]

end Stdiolink.LaserRadar.WordCrc
