/-
  Stdiolink.ScanRobot.ScanData — collecting the data of a scan, `RadarSession::collectScanData`.

  The data are fetched segment by segment, each with up to five requests, and copied into a buffer
  of zeros.  An answer may bring less than a segment, or more.

  Main results:
    * `fetchSegment_spec`   — the attempts for one segment;
    * `collectScanData_nat` — the buffer, filled with what the device answers;
    * `collected_iff`       — for which devices the result is their data.
-/
import Stdiolink.Lib.Blocks
import Stdiolink.ScanRobot.RadarSession

namespace Stdiolink.ScanRobot

open Stdiolink.Lib

/-! ## §1. Collecting -/

namespace CmdId

def regRead : UInt8 := 1

def getData : UInt8 := 12

end CmdId

namespace RegId

def segmentSize : UInt16 := 15

end RegId

/-- `ScanAggregateResult`, as far as `collectScanData` sets it. -/
structure ScanAggregateResult where
  segmentCount : Int
  byteCount : Int
  data : List UInt8
  deriving DecidableEq

/-- What the transport does for each request of a session, one after another. -/
abbrev Device := Nat → Transport

/-- A session in the middle of its requests: how many it has made, and the last message. -/
structure Exchanges where
  session : RadarSession
  made : Nat := 0
  errorMessage : String := ""

/-- How a collection ends. -/
inductive Collected where
  | ok (result : ScanAggregateResult)
  | failed
  /-- `memcpy` with a negative length. -/
  | undefined
  deriving DecidableEq

section Collect

variable (device : Device)

/-- `sendAndReceive` on the main channel, for a new `RadarFrame`. -/
def exchange (command : UInt8) (payload : List UInt8) (st : Exchanges) : Received × Exchanges :=
  let (_, received, session) :=
    st.session.sendAndReceive (device st.made) command payload {} st.errorMessage false
  (received, ⟨session, st.made + 1, received.errorMessage⟩)

/-- `readSegmentSize`. -/
def readSegmentSize (st : Exchanges) : Option UInt16 × Exchanges :=
  let (received, st) := exchange device CmdId.regRead (makeRegPayload RegId.segmentSize 100) st
  if !received.success then (none, st)
  else
    match parseRegResponse received.response.payload with
    | none => (none, { st with errorMessage := "Failed to parse segment size response" })
    | some (regAddr, value) =>
      if regAddr ≠ RegId.segmentSize then
        (none, { st with errorMessage := "Segment size register mismatch" })
      else (some value.toUInt16, st)

/-- The attempts to fetch segment `i`; the answer that is taken. -/
def fetchSegment (i : Nat) : Nat → Exchanges → Option (UInt16 × List UInt8) × Exchanges
  | 0, st => (none, st)
  | attempts + 1, st =>
    let (received, st) := exchange device CmdId.getData (makeU32Payload (UInt32.ofNat i)) st
    if !received.success then fetchSegment i attempts st
    else
      match parseSegmentResponse received.response.payload with
      | none => fetchSegment i attempts st
      | some (segIndex, segLen, segData) =>
        if segIndex.toInt32.toInt ≠ i then fetchSegment i attempts st
        else (some (segLen, segData), st)

/-- The loop over the segments from number `i` on; so many are left. -/
def collectSegments (segSize : Nat) (totalBytes segCount : Int) :
    Nat → Nat → List UInt8 → Exchanges → Collected × Exchanges
  | 0, _, aggregated, st => (.ok ⟨segCount, totalBytes, aggregated⟩, st)
  | left + 1, i, aggregated, st =>
    match fetchSegment device i 5 st with
    | (none, st) =>
      (.failed, { st with
        errorMessage := "Failed to fetch segment " ++ toString i ++ " after retries" })
    | (some (segLen, segData), st) =>
      let offset := i * segSize
      let copyLen := min (segLen.toNat : Int) (totalBytes - offset)
      if copyLen < 0 then (.undefined, st)
      else
        collectSegments segSize totalBytes segCount left (i + 1)
          (overwrite aggregated offset (segData.take copyLen.toNat)) st

/-- So many segments, by the division of C++. -/
def segCountOf (totalBytes : Int) (segSize : Nat) : Int :=
  totalBytes.tdiv segSize + if totalBytes.tmod segSize ≠ 0 then 1 else 0

/-- `collectScanData` for an `int` of bytes. -/
def collectScanData (totalBytes : Int32) (st : Exchanges) : Collected × Exchanges :=
  match readSegmentSize device st with
  | (none, st) => (.failed, st)
  | (some segSize, st) =>
    if segSize = 0 ∨ segSize > 1376 ∨ segSize % 16 ≠ 0 then
      (.failed, { st with errorMessage := "Invalid segment size: " ++ toString segSize.toNat })
    else
      let segCount := segCountOf totalBytes.toInt segSize.toNat
      -- `resize` makes an array of a negative size empty
      collectSegments device segSize.toNat totalBytes.toInt segCount segCount.toNat 0
        (List.replicate totalBytes.toInt.toNat 0) st

end Collect

/-! ## §2. What the device answers -/

/-- The payload that a request is answered with, if it is. -/
def answer (addr command : UInt8) (transport : Transport) : Option (List UInt8) :=
  match transport.writeError with
  | some _ => none
  | none =>
    let received := RadarSession.receive addr command .main transport.reads [] {} ""
    if received.success then some received.response.payload else none

/-- The segment size that it answers, where that is one. -/
def sizeAnswered (addr : UInt8) (transport : Transport) : Option Nat :=
  (answer addr CmdId.regRead transport).bind fun payload =>
    (parseRegResponse payload).bind fun (regAddr, value) =>
      let segSize := value.toUInt16.toNat
      if regAddr = RegId.segmentSize ∧ segSize ≠ 0 ∧ segSize ≤ 1376 ∧ segSize % 16 = 0 then
        some segSize
      else none

/-- The data of an answer that carries index `i`. -/
def segmentAnswered (addr : UInt8) (i : Nat) (transport : Transport) : Option (List UInt8) :=
  (answer addr CmdId.getData transport).bind fun payload =>
    (parseSegmentResponse payload).bind fun (segIndex, _, segData) =>
      if segIndex.toNat = i then some segData else none

section Answers

variable (device : Device) (addr : UInt8)

/-- The first of so many answers, from request number `n` on, that carries index `i`, and the number
of the request after it. -/
def firstAnswer (i : Nat) : Nat → Nat → Option (List UInt8 × Nat)
  | 0, _ => none
  | attempts + 1, n =>
    match segmentAnswered addr i (device n) with
    | some segData => some (segData, n + 1)
    | none => firstAnswer i attempts (n + 1)

/-- The data of so many segments from index `i` on: of each, the first of five answers. -/
def segmentsAnswered : Nat → Nat → Nat → Option (List (List UInt8))
  | 0, _, _ => some []
  | left + 1, i, n =>
    (firstAnswer device addr i 5 n).bind fun (segData, n) =>
      (segmentsAnswered left (i + 1) n).map (segData :: ·)

end Answers

/-- **The data of the device**: all of them, from each segment its full size. -/
structure DeviceData (device : Device) (addr : UInt8) (made : Nat) (totalBytes : Int)
    (segSize : Nat) (segments : List (List UInt8)) (data : List UInt8) : Prop where
  size : sizeAnswered addr (device made) = some segSize
  answered : segmentsAnswered device addr (segCountOf totalBytes segSize).toNat 0 (made + 1) =
    some segments
  full : ∀ i segment, segments[i]? = some segment →
    blockSize segSize totalBytes.toNat i ≤ segment.length
  concatenated : data =
    (segments.mapIdx fun i segment => segment.take (blockSize segSize totalBytes.toNat i)).flatten
  complete : data.length = totalBytes.toNat

/-- What is collected are the data of the device. -/
def CollectsExactly (device : Device) (totalBytes : Int32) (st : Exchanges) : Prop :=
  ∀ result, (collectScanData device totalBytes st).1 = .ok result →
    ∃ segSize segments,
      DeviceData device st.session.addr st.made totalBytes.toInt segSize segments result.data

/-- The first answer for each segment brings all of it. -/
def FullSegments (device : Device) (totalBytes : Int32) (st : Exchanges) : Prop :=
  ∀ segSize segments, sizeAnswered st.session.addr (device st.made) = some segSize →
    segmentsAnswered device st.session.addr (segCountOf totalBytes.toInt segSize).toNat 0
        (st.made + 1) = some segments →
      ∀ i segment, segments[i]? = some segment →
        blockSize segSize totalBytes.toInt.toNat i ≤ segment.length

/-! ## §3. Requests -/

section Requests

/-- Messages have no influence on the search, -/
theorem searchFrame_message {buffer : List UInt8} {frame : RadarFrame} {finalChunk : Bool}
    {lens : List Nat} (m m' : String) :
    ∀ best best', (searchFrame buffer frame m finalChunk best lens).status =
        (searchFrame buffer frame m' finalChunk best' lens).status ∧
      (searchFrame buffer frame m finalChunk best lens).frame =
        (searchFrame buffer frame m' finalChunk best' lens).frame := by
  induction lens with
  | nil => exact fun _ _ => ⟨rfl, rfl⟩
  | cons len lens ih =>
    intro best best'
    rw [searchFrame, searchFrame]
    split
    · exact ih _ _
    · exact ⟨rfl, rfl⟩

/-- on decoding, -/
theorem tryDecodeFrame_message (buffer : List UInt8) (addr command : UInt8) (frame : RadarFrame)
    (channel : FrameChannel) (finalChunk : Bool) (m m' : String) :
    (tryDecodeFrame buffer addr command frame m channel finalChunk).status =
        (tryDecodeFrame buffer addr command frame m' channel finalChunk).status ∧
      (tryDecodeFrame buffer addr command frame m channel finalChunk).frame =
        (tryDecodeFrame buffer addr command frame m' channel finalChunk).frame := by
  unfold tryDecodeFrame
  -- no condition looks at the message
  split
  · exact ⟨rfl, rfl⟩
  split
  · exact ⟨rfl, rfl⟩
  split
  · exact ⟨rfl, rfl⟩
  dsimp only
  split
  · exact ⟨rfl, rfl⟩
  split
  · exact ⟨rfl, rfl⟩
  exact searchFrame_message m m' _ _

/-- and on what is received. -/
theorem receive_message (addr command : UInt8) (channel : FrameChannel)
    (reads : List (Except (Option String) (List UInt8))) :
    ∀ buffer response m m',
      (RadarSession.receive addr command channel reads buffer response m).success =
          (RadarSession.receive addr command channel reads buffer response m').success ∧
        (RadarSession.receive addr command channel reads buffer response m).response =
          (RadarSession.receive addr command channel reads buffer response m').response := by
  induction reads with
  | nil => exact fun _ _ _ _ => ⟨rfl, rfl⟩
  | cons read reads ih =>
    intro buffer response m m'
    cases read with
    | error message =>
      obtain ⟨hstatus, hframe⟩ := tryDecodeFrame_message buffer addr command response channel true
        (message.getD m) (message.getD m')
      rw [RadarSession.receive, RadarSession.receive]
      split
      · exact ⟨rfl, rfl⟩
      · dsimp only
        rw [hstatus]
        split
        · exact ⟨rfl, hframe⟩
        · exact ⟨rfl, hframe⟩
    | ok chunk =>
      obtain ⟨hstatus, hframe⟩ := tryDecodeFrame_message (buffer ++ chunk) addr command response
        channel false m m'
      rw [RadarSession.receive, RadarSession.receive, hstatus, hframe]
      split
      · exact ⟨rfl, rfl⟩
      split
      · exact ⟨rfl, hframe⟩
      · exact ih _ _ _ _

/-- **A request**: what it is answered with, and the session after it. -/
theorem exchange_spec (device : Device) (command : UInt8) (payload : List UInt8) (st : Exchanges) :
    answer st.session.addr command (device st.made) =
        (if (exchange device command payload st).1.success then
          some (exchange device command payload st).1.response.payload else none) ∧
      (exchange device command payload st).2.session.addr = st.session.addr ∧
      (exchange device command payload st).2.made = st.made + 1 := by
  unfold answer exchange RadarSession.sendAndReceive
  cases (device st.made).writeError with
  | some message => exact ⟨rfl, rfl, rfl⟩
  | none =>
    obtain ⟨hsuccess, hresponse⟩ := receive_message st.session.addr command .main
      (device st.made).reads [] {} "" st.errorMessage
    refine ⟨?_, rfl, rfl⟩
    dsimp only
    rw [hsuccess, hresponse]
    rfl

/-- An index below 2^31 is the same as an `int`. -/
theorem toInt32_eq_iff {segIndex : UInt32} {i : Nat} (hi : i < 2 ^ 31) :
    segIndex.toInt32.toInt = i ↔ segIndex.toNat = i := by
  have hlt := segIndex.toNat_lt
  have hint : segIndex.toInt32.toInt = segIndex.toBitVec.toInt := rfl
  have hnat : segIndex.toBitVec.toNat = segIndex.toNat := rfl
  rw [hint, BitVec.toInt_eq_toNat_cond, hnat]
  split <;> omega

/-- **The attempts for a segment** take the first answer that carries its index. -/
theorem fetchSegment_spec (device : Device) {i : Nat} (hi : i < 2 ^ 31) (attempts : Nat) :
    ∀ st : Exchanges,
      match firstAnswer device st.session.addr i attempts st.made with
      | none => (fetchSegment device i attempts st).1 = none
      | some (segData, n) =>
        ∃ segLen st', fetchSegment device i attempts st = (some (segLen, segData), st') ∧
          segLen.toNat = segData.length ∧ st'.session.addr = st.session.addr ∧ st'.made = n := by
  induction attempts with
  | zero => exact fun _ => rfl
  | succ attempts ih =>
    intro st
    obtain ⟨hanswer, haddr, hmade⟩ :=
      exchange_spec device CmdId.getData (makeU32Payload (UInt32.ofNat i)) st
    rw [firstAnswer, fetchSegment, segmentAnswered, hanswer]
    generalize exchange device CmdId.getData (makeU32Payload (UInt32.ofNat i)) st = sent at *
    obtain ⟨received, st'⟩ := sent
    have hagain := ih st'
    rw [haddr, hmade] at hagain
    cases hsuccess : received.success with
    | false => simpa [hsuccess] using hagain
    | true =>
      cases hparse : parseSegmentResponse received.response.payload with
      | none => simpa [hsuccess, hparse] using hagain
      | some segment =>
        obtain ⟨segIndex, segLen, segData⟩ := segment
        by_cases hindex : segIndex.toNat = i
        · have hlen := length_segData hparse
          have hint := (toInt32_eq_iff hi).mpr hindex
          simpa [hsuccess, hparse, hindex, hint, hlen] using And.intro haddr hmade
        · have hint : ¬ segIndex.toInt32.toInt = i := fun h => hindex ((toInt32_eq_iff hi).mp h)
          simpa [hsuccess, hparse, hindex, hint] using hagain

/-- **The loop over the segments** fills the buffer with their data. -/
theorem collectSegments_spec (device : Device) (segSize total : Nat) (segCount : Int) (left : Nat) :
    ∀ (i : Nat) (aggregated : List UInt8) (st : Exchanges),
      (∀ j < i + left, j * segSize ≤ total ∧ j < 2 ^ 31) →
        match segmentsAnswered device st.session.addr left i st.made with
        | none =>
          (collectSegments device segSize total segCount left i aggregated st).1 = .failed
        | some segments =>
          (collectSegments device segSize total segCount left i aggregated st).1 =
              .ok ⟨segCount, total, fillBlocks segSize total i segments aggregated⟩ ∧
            segments.length = left := by
  induction left with
  | zero => exact fun _ _ _ _ => ⟨rfl, rfl⟩
  | succ left ih =>
    intro i aggregated st hbounds
    obtain ⟨hoffset, hi⟩ := hbounds i (by omega)
    have hfetch := fetchSegment_spec device hi 5 st
    rw [segmentsAnswered, collectSegments]
    cases hfirst : firstAnswer device st.session.addr i 5 st.made with
    | none =>
      rw [hfirst] at hfetch
      dsimp only [Option.bind_none]
      revert hfetch
      generalize fetchSegment device i 5 st = fetched
      rintro hnone
      obtain ⟨segment, st'⟩ := fetched
      obtain rfl : segment = none := hnone
      rfl
    | some first =>
      obtain ⟨segData, n⟩ := first
      rw [hfirst] at hfetch
      obtain ⟨segLen, st', hfetched, hlen, haddr, hmade⟩ := hfetch
      rw [hfetched]
      -- nothing is copied behind the end, and not less than there is
      have hcopy : ¬ min (segLen.toNat : Int) (total - (i * segSize : Nat)) < 0 := by omega
      have hpiece : segData.take (min (segLen.toNat : Int) (total - (i * segSize : Nat))).toNat =
          segData.take (total - i * segSize) := by
        have hmin : (min (segLen.toNat : Int) (total - (i * segSize : Nat))).toNat =
            min (total - i * segSize) segData.length := by omega
        rw [hmin, ← List.take_eq_take_min]
      have hrest := ih (i + 1) (overwrite aggregated (i * segSize)
        (segData.take (total - i * segSize))) st' fun j hj => hbounds j (by omega)
      rw [haddr, hmade] at hrest
      dsimp only [Option.bind_some]
      rw [if_neg hcopy, hpiece]
      cases hsegments : segmentsAnswered device st.session.addr left (i + 1) n with
      | none =>
        rw [hsegments] at hrest
        exact hrest
      | some segments =>
        rw [hsegments] at hrest
        exact ⟨hrest.1, congrArg (· + 1) hrest.2⟩

/-- The sizes that are refused. -/
theorem size_refused_iff (segSize : UInt16) :
    (segSize = 0 ∨ segSize > 1376 ∨ segSize % 16 ≠ 0) ↔
      ¬ (segSize.toNat ≠ 0 ∧ segSize.toNat ≤ 1376 ∧ segSize.toNat % 16 = 0) := by
  have hzero : segSize = 0 ↔ segSize.toNat = 0 := UInt16.toNat_inj.symm
  have hlarge : segSize > 1376 ↔ 1376 < segSize.toNat := UInt16.lt_iff_toNat_lt
  have hrest : segSize % 16 = 0 ↔ segSize.toNat % 16 = 0 := UInt16.toNat_inj.symm
  rw [hzero, hlarge, ne_eq, hrest]
  omega

/-- **The segment size** is read first. -/
theorem collectScanData_spec (device : Device) (totalBytes : Int32) (st : Exchanges) :
    match sizeAnswered st.session.addr (device st.made) with
    | none => (collectScanData device totalBytes st).1 = .failed
    | some segSize =>
      0 < segSize ∧ ∃ st', st'.session.addr = st.session.addr ∧ st'.made = st.made + 1 ∧
        collectScanData device totalBytes st =
          collectSegments device segSize totalBytes.toInt (segCountOf totalBytes.toInt segSize)
            (segCountOf totalBytes.toInt segSize).toNat 0
            (List.replicate totalBytes.toInt.toNat 0) st' := by
  obtain ⟨hanswer, haddr, hmade⟩ :=
    exchange_spec device CmdId.regRead (makeRegPayload RegId.segmentSize 100) st
  unfold sizeAnswered collectScanData readSegmentSize
  rw [hanswer]
  generalize exchange device CmdId.regRead (makeRegPayload RegId.segmentSize 100) st = sent at *
  obtain ⟨received, st'⟩ := sent
  cases hsuccess : received.success with
  | false => simp [hsuccess]
  | true =>
    cases hparse : parseRegResponse received.response.payload with
    | none => simp [hsuccess, hparse]
    | some register =>
      obtain ⟨regAddr, value⟩ := register
      simp only [hsuccess, hparse, if_true, Option.bind_some, Bool.not_true, Bool.false_eq_true,
        if_false]
      generalize value.toUInt16 = segSize
      by_cases hreg : regAddr = RegId.segmentSize
      · by_cases hvalid : segSize = 0 ∨ segSize > 1376 ∨ segSize % 16 ≠ 0
        · have hsize := (size_refused_iff segSize).mp hvalid
          rw [if_neg fun h => hsize h.2, if_neg (not_not.mpr hreg)]
          dsimp only
          rw [if_pos hvalid]
        · have hsize := not_not.mp fun h => hvalid ((size_refused_iff segSize).mpr h)
          rw [if_pos ⟨hreg, hsize⟩, if_neg (not_not.mpr hreg)]
          dsimp only
          rw [if_neg hvalid]
          exact ⟨Nat.pos_of_ne_zero hsize.1, st', haddr, hmade, rfl⟩
      · rw [if_neg fun h => hreg h.1, if_pos hreg]

end Requests

/-! ## §4. Collections -/

section Collections

variable {device : Device} {totalBytes : Int32} {st : Exchanges}

/-- The number of segments, for a total that is not negative. -/
theorem segCountOf_natCast (total segSize : Nat) :
    segCountOf total segSize = (total / segSize + if total % segSize = 0 then 0 else 1 : Nat) := by
  unfold segCountOf
  rw [← Int.ofNat_tdiv, ← Int.ofNat_tmod]
  by_cases hrest : total % segSize = 0
  · simp [hrest]
  · have hint : ((total % segSize : Nat) : Int) ≠ 0 := by omega
    rw [if_pos hint, if_neg hrest]
    rfl

variable {segSize : Nat}

/-- The segments cover the total, and each of them begins in it. -/
theorem segCount_bounds (total : Nat) (hpos : 0 < segSize) :
    total ≤ (segCountOf total segSize).toNat * segSize ∧
      ∀ j < (segCountOf total segSize).toNat, j * segSize ≤ total ∧ j ≤ total := by
  rw [segCountOf_natCast, Int.toNat_natCast]
  have hdiv := Nat.div_add_mod total segSize
  have hmod := Nat.mod_lt total hpos
  rw [Nat.mul_comm] at hdiv
  constructor
  · split
    · rw [Nat.add_zero]
      omega
    · rw [Nat.succ_mul]
      omega
  · intro j hj
    have hle : j ≤ total / segSize := by
      split at hj <;> omega
    have hmul : j * segSize ≤ total / segSize * segSize := Nat.mul_le_mul_right segSize hle
    have hself : j ≤ j * segSize := Nat.le_mul_of_pos_right j hpos
    omega

/-- A negative total asks for at most one segment. -/
theorem segCountOf_neg {total : Int} (hneg : total < 0) (segSize : Nat) :
    (segCountOf total segSize).toNat ≤ 1 := by
  have hdiv : total.tdiv segSize ≤ 0 := by
    have hopp : -((-total).tdiv segSize) = total.tdiv segSize := by
      rw [Int.neg_tdiv, neg_neg]
    have hnonneg : 0 ≤ (-total).tdiv segSize :=
      Int.tdiv_nonneg (by omega) (Int.natCast_nonneg segSize)
    omega
  unfold segCountOf
  split <;> omega

/-- **A total that is not negative**: the buffer is filled with the segments. -/
theorem collectScanData_nat {total : Nat} (htotal : totalBytes.toInt = total)
    (hsize : sizeAnswered st.session.addr (device st.made) = some segSize) :
    match segmentsAnswered device st.session.addr (segCountOf total segSize).toNat 0
        (st.made + 1) with
    | none => (collectScanData device totalBytes st).1 = .failed
    | some segments =>
      total ≤ segments.length * segSize ∧
        (collectScanData device totalBytes st).1 = .ok ⟨segCountOf total segSize, total,
          fillBlocks segSize total 0 segments (List.replicate total 0)⟩ := by
  have hspec := collectScanData_spec device totalBytes st
  rw [hsize] at hspec
  obtain ⟨hpos, st', haddr, hmade, hcollect⟩ := hspec
  have hmax := totalBytes.toInt_lt
  rw [htotal] at hmax hcollect
  obtain ⟨hcover, hbegin⟩ := segCount_bounds total hpos
  have hloop := collectSegments_spec device segSize total (segCountOf total segSize)
    (segCountOf total segSize).toNat 0 (List.replicate total 0) st' fun j hj => by
      have hbounds := hbegin j (by omega)
      omega
  rw [haddr, hmade] at hloop
  rw [hcollect, Int.toNat_natCast]
  cases hsegments : segmentsAnswered device st.session.addr (segCountOf total segSize).toNat 0
      (st.made + 1) with
  | none =>
    rw [hsegments] at hloop
    exact hloop
  | some segments =>
    rw [hsegments] at hloop
    refine ⟨?_, hloop.1⟩
    rw [hloop.2]
    exact hcover

/-- **A negative total**: nothing is fetched, or `memcpy` gets a negative length. -/
theorem collectScanData_neg {result : ScanAggregateResult} (hneg : totalBytes.toInt < 0)
    (hsize : sizeAnswered st.session.addr (device st.made) = some segSize)
    (h : (collectScanData device totalBytes st).1 = .ok result) :
    (segCountOf totalBytes.toInt segSize).toNat = 0 ∧ result.data = [] := by
  have hspec := collectScanData_spec device totalBytes st
  rw [hsize] at hspec
  obtain ⟨-, st', -, -, hcollect⟩ := hspec
  rw [hcollect] at h
  have hone := segCountOf_neg hneg segSize
  have hnone : (segCountOf totalBytes.toInt segSize).toNat = 0 := by
    refine Nat.lt_one_iff.mp (Nat.lt_of_le_of_ne hone fun hcount => ?_)
    rw [hcount, collectSegments] at h
    generalize fetchSegment device 0 5 st' = fetched at h
    obtain ⟨segment, st''⟩ := fetched
    cases segment with
    | none => cases h
    | some segment =>
      have hcopy : min (segment.1.toNat : Int) (totalBytes.toInt - (0 * segSize : Nat)) < 0 := by
        omega
      dsimp only at h
      rw [if_pos hcopy] at h
      cases h
  have hzero : totalBytes.toInt.toNat = 0 := Int.toNat_of_nonpos hneg.le
  rw [hnone, hzero, collectSegments] at h
  obtain rfl := Collected.ok.inj h
  exact ⟨hnone, rfl⟩

/-- A collection that succeeds has read a segment size. -/
theorem size_of_ok {result : ScanAggregateResult}
    (h : (collectScanData device totalBytes st).1 = .ok result) :
    ∃ segSize, sizeAnswered st.session.addr (device st.made) = some segSize := by
  cases hsize : sizeAnswered st.session.addr (device st.made) with
  | none =>
    have hspec := collectScanData_spec device totalBytes st
    rw [hsize] at hspec
    cases hspec.symm.trans h
  | some segSize => exact ⟨segSize, rfl⟩

/-- **Data that are collected.**  What is collected are the data of the device iff the first answer
for each segment brings all of it. -/
theorem collected_iff (device : Device) (totalBytes : Int32) (st : Exchanges) :
    CollectsExactly device totalBytes st ↔ FullSegments device totalBytes st := by
  obtain ⟨total, htotal⟩ | hneg := (le_or_gt 0 totalBytes.toInt).imp_left Int.eq_ofNat_of_zero_le
  · unfold CollectsExactly FullSegments
    constructor
    · intro h segSize segments hsize hsegments
      have hnat := collectScanData_nat htotal hsize
      rw [htotal] at hsegments
      rw [hsegments] at hnat
      obtain ⟨segSize', segments', hdata⟩ := h _ hnat.2
      obtain rfl := Option.some.inj (hsize.symm.trans hdata.size)
      have hanswered := hdata.answered
      rw [htotal] at hanswered
      obtain rfl := Option.some.inj (hsegments.symm.trans hanswered)
      exact hdata.full
    · intro h result hok
      obtain ⟨segSize, hsize⟩ := size_of_ok hok
      have hnat := collectScanData_nat htotal hsize
      cases hsegments : segmentsAnswered device st.session.addr (segCountOf total segSize).toNat 0
          (st.made + 1) with
      | none =>
        rw [hsegments] at hnat
        cases hnat.symm.trans hok
      | some segments =>
        rw [hsegments] at hnat
        obtain rfl := Collected.ok.inj (hnat.2.symm.trans hok)
        have hfull := h segSize segments hsize (by rw [htotal]; exact hsegments)
        rw [htotal, Int.toNat_natCast] at hfull
        have hlen : (List.replicate total (0 : UInt8)).length = total := List.length_replicate
        have hfilled := fillBlocks_eq segments 0 (List.replicate total (0 : UInt8)) hlen
          (by rw [Nat.zero_add]; exact hnat.1) (by simpa only [Nat.zero_add] using hfull)
        refine ⟨segSize, segments, hsize, ?_, ?_, ?_, ?_⟩
        · rw [htotal]
          exact hsegments
        · rw [htotal]
          exact hfull
        · rw [htotal]
          simpa using hfilled
        · rw [htotal]
          exact length_fillBlocks segments 0 _ hlen
  · have hzero : totalBytes.toInt.toNat = 0 := Int.toNat_of_nonpos hneg.le
    have hblock : ∀ segSize i, blockSize segSize totalBytes.toInt.toNat i = 0 := by
      intro segSize i
      rw [blockSize, hzero, Nat.zero_sub, Nat.min_zero]
    constructor
    · intro _ segSize segments _ _ i segment _
      rw [hblock]
      exact Nat.zero_le _
    · intro _ result hok
      obtain ⟨segSize, hsize⟩ := size_of_ok hok
      obtain ⟨hnone, hdata⟩ := collectScanData_neg hneg hsize hok
      refine ⟨segSize, [], hsize, ?_, ?_, hdata, ?_⟩
      · rw [hnone]
        rfl
      · intro i segment h
        cases h
      · rw [hdata, hzero]
        rfl

/-- A device that brings one byte of a segment of sixteen. -/
def shortDevice : Device
  | 0 => { reads := [.ok (encodeFrame 0 1 CmdId.regRead
      (makeRegPayload RegId.segmentSize 16) false)] }
  | _ => { reads := [.ok (encodeFrame 1 1 CmdId.getData [0, 0, 0, 0, 0, 1, 7] false)] }

/-- The other fifteen bytes are zeros that it never sent. -/
theorem short_segment_padded :
    (collectScanData shortDevice 16 ⟨{}, 0, ""⟩).1 =
        .ok ⟨1, 16, 7 :: List.replicate 15 0⟩ ∧
      ¬ CollectsExactly shortDevice 16 ⟨{}, 0, ""⟩ := by
  have hok : (collectScanData shortDevice 16 ⟨{}, 0, ""⟩).1 =
      .ok ⟨1, 16, 7 :: List.replicate 15 0⟩ := by
    decide +kernel
  refine ⟨hok, fun h => ?_⟩
  obtain ⟨segSize, segments, hdata⟩ := h _ hok
  have hsize : sizeAnswered 1 (shortDevice 0) = some 16 := by decide +kernel
  obtain rfl := Option.some.inj (hsize.symm.trans hdata.size)
  have hanswered : segmentsAnswered shortDevice 1 1 0 1 = some [[7]] := by decide +kernel
  obtain rfl := Option.some.inj (hanswered.symm.trans hdata.answered)
  exact absurd (hdata.full 0 [7] rfl) (by decide)

end Collections

end Stdiolink.ScanRobot
