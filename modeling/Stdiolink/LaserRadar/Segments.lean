/-
  Stdiolink.LaserRadar.Segments — collecting the data of a scan,
  `LaserSession::collectAllSegments`.

  The segments are asked for one after another; how many there are is in each answer.

  Main results:
    * `round_spec`   — one segment: what makes the loop end, and what is appended;
    * `collects_all` — the loop takes the answers one by one;
    * `collects_iff` — for which devices the result is what the device has sent, with its numbers.
-/
import Stdiolink.Lib.Loops
import Stdiolink.LaserRadar.LaserSession

namespace Stdiolink.LaserRadar

open Stdiolink.Lib
open Stdiolink.ScanRobot (Transport mid qToBigEndian qFromBigEndian qToBigEndian16
  qFromBigEndian16)

/-! ## §1. Segments -/

namespace CmdId

def getData : UInt8 := 12

end CmdId

def makeU32Payload (value : UInt32) : List UInt8 := qToBigEndian value

/-- `parseSegmentResponse`: the index, the number of segments and the data. -/
def parseSegmentResponse (payload : List UInt8) : Option (UInt32 × UInt32 × List UInt8) :=
  if payload.length < 10 then none
  else
    let segLen := qFromBigEndian16 (mid payload 8 2)
    if payload.length ≠ 10 + segLen.toNat then none
    else
      some (qFromBigEndian (mid payload 0 4), qFromBigEndian (mid payload 4 4),
        mid payload 10 segLen.toNat)

/-- What the transport does for each request of a session, one after another. -/
abbrev Device := Nat → Transport

/-- A session in the middle of its requests: how many it has made, and what is behind the pointers
for errors. -/
structure Exchanges where
  session : LaserSession := {}
  made : Nat := 0
  errorMessage : String := ""
  errorKind : SessionErrorKind := .none

section Collect

variable (device : Device)

/-- `sendAndReceive` for a new `LaserFrame`. -/
def exchange (command : UInt8) (payload : List UInt8) (st : Exchanges) : Received × Exchanges :=
  let (_, received, session) :=
    st.session.sendAndReceive (device st.made) command payload {} st.errorMessage
  (received, ⟨session, st.made + 1, received.errorMessage, received.errorKind⟩)

/-- An error of the protocol. -/
def Exchanges.fails (st : Exchanges) (message : String) : Exchanges :=
  { st with errorMessage := message, errorKind := .protocol }

/-- `readSegment`: the number of segments and the data. -/
def readSegment (segmentIndex : UInt32) (st : Exchanges) :
    Option (UInt32 × List UInt8) × Exchanges :=
  let (received, st) := exchange device CmdId.getData (makeU32Payload segmentIndex) st
  if !received.success then (none, st)
  else
    match parseSegmentResponse received.response.payload with
    | none => (none, st.fails "Invalid segment response")
    | some (returnedSegId, returnedSegCount, segmentData) =>
      if returnedSegId ≠ segmentIndex then
        (none, st.fails ("Segment mismatch: expected " ++ toString segmentIndex.toNat ++ ", got " ++
          toString returnedSegId.toNat))
      else (some (returnedSegCount, segmentData), st)

/-- `ScanAggregateResult`; both numbers are an `int`. -/
structure ScanAggregateResult where
  segmentCount : Int32
  byteCount : Int32
  data : List UInt8

/-- The variables of the loop of `collectAllSegments`. -/
structure Collecting where
  segmentIndex : UInt32 := 0
  expectedSegments : UInt32 := 0
  aggregated : List UInt8 := []
  receivedSegments : Int32 := 0
  st : Exchanges

/-- One round of the loop. -/
def round (c : Collecting) : Collecting ⊕ (Option ScanAggregateResult × Exchanges) :=
  match readSegment device c.segmentIndex c.st with
  | (none, st) => .inr (none, st)
  | (some (segmentCount, segmentData), st) =>
    if segmentCount = 0 then .inr (none, st.fails "Device returned zero segment count")
    else
      let expectedSegments := if c.segmentIndex = 0 then segmentCount else c.expectedSegments
      if c.segmentIndex ≠ 0 ∧ segmentCount ≠ expectedSegments then
        .inr (none, st.fails "Segment count changed during transfer")
      else
        let aggregated := c.aggregated ++ segmentData
        let receivedSegments := c.receivedSegments + 1
        if c.segmentIndex + 1 ≥ expectedSegments then
          .inr (some ⟨receivedSegments, Int32.ofNat aggregated.length, aggregated⟩, st)
        else .inl ⟨c.segmentIndex + 1, expectedSegments, aggregated, receivedSegments, st⟩

/-- `collectAllSegments`: how many requests there were, and the result.  The loop has no bound of its
own; the index has 2^32 values. -/
def collectAllSegments (st : Exchanges) :
    Option (Nat × Option ScanAggregateResult × Exchanges) :=
  runFor (round device) (2 ^ 32) { st := { st with errorKind := .none } }

end Collect

/-! ## §2. What the device answers -/

/-- The number of segments and the data that a request for segment `i` is answered with. -/
def segmentAnswered (i : Nat) (transport : Transport) : Option (UInt32 × List UInt8) :=
  match transport.writeError with
  | some _ => none
  | none =>
    let received := LaserSession.receive CmdId.getData transport.reads [] {} ""
    if received.success then
      (parseSegmentResponse received.response.payload).bind
        fun (returnedSegId, returnedSegCount, segmentData) =>
          if returnedSegId.toNat = i then some (returnedSegCount, segmentData) else none
    else none

/-- The data of so many answers, from the segment `i` on, each with its own index and the same
number of segments. -/
def segmentsAnswered (device : Device) (segmentCount : UInt32) :
    Nat → Nat → Nat → Option (List (List UInt8))
  | 0, _, _ => some []
  | left + 1, i, n =>
    (segmentAnswered i (device n)).bind fun (count, segmentData) =>
      if count = segmentCount then
        (segmentsAnswered device segmentCount left (i + 1) (n + 1)).map (segmentData :: ·)
      else none

/-- **The collection is exact**: it ends after at most as many requests as the first answer
announces segments, and a result consists of the data of so many answers, with their numbers. -/
structure CollectsExactly (device : Device) (st : Exchanges) : Prop where
  ends : ∃ requests result st', collectAllSegments device st = some (requests, result, st') ∧
    (∀ segmentCount segmentData,
      segmentAnswered 0 (device st.made) = some (segmentCount, segmentData) →
        requests ≤ segmentCount.toNat)
  result : ∀ requests result st',
    collectAllSegments device st = some (requests, some result, st') →
      ∃ segmentCount segmentData segments,
        segmentAnswered 0 (device st.made) = some (segmentCount, segmentData) ∧
          segmentsAnswered device segmentCount segmentCount.toNat 0 st.made = some segments ∧
            result.data = segments.flatten ∧
              result.segmentCount.toInt = segmentCount.toNat ∧
                result.byteCount.toInt = result.data.length

/-- The numbers fit: the first answer, if there is one, does not announce zero segments, and if all
of them are answered, neither their number nor that of their bytes reaches 2^31. -/
def NumbersFit (device : Device) (st : Exchanges) : Prop :=
  ∀ segmentCount segmentData,
    segmentAnswered 0 (device st.made) = some (segmentCount, segmentData) →
      segmentCount ≠ 0 ∧
        ∀ segments,
          segmentsAnswered device segmentCount segmentCount.toNat 0 st.made = some segments →
            segmentCount.toNat < 2 ^ 31 ∧ segments.flatten.length < 2 ^ 31

/-! ## §3. One segment -/

section OneSegment

variable {device : Device}

/-- Messages have no influence on what is received. -/
theorem receive_message (command : UInt8) (reads : List (Except (Option String) (List UInt8)))
    (buffer : List UInt8) (response : LaserFrame) (m m' : String) :
    (LaserSession.receive command reads buffer response m).success =
        (LaserSession.receive command reads buffer response m').success ∧
      (LaserSession.receive command reads buffer response m).response =
        (LaserSession.receive command reads buffer response m').response := by
  cases reads with
  | nil => exact ⟨rfl, rfl⟩
  | cons read reads =>
    cases read with
    | ok chunk => exact ⟨rfl, rfl⟩
    | error transportError =>
      rw [LaserSession.receive, LaserSession.receive]
      split
      · exact ⟨rfl, rfl⟩
      · exact ⟨rfl, rfl⟩

/-- **A request for a segment**: what it is answered with, and the session after it. -/
theorem readSegment_spec (device : Device) (segmentIndex : UInt32) (st : Exchanges) :
    (readSegment device segmentIndex st).1 = segmentAnswered segmentIndex.toNat (device st.made) ∧
      (readSegment device segmentIndex st).2.made = st.made + 1 := by
  unfold readSegment segmentAnswered exchange LaserSession.sendAndReceive
  cases (device st.made).writeError with
  | some message => exact ⟨rfl, rfl⟩
  | none =>
    obtain ⟨hsuccess, hresponse⟩ := receive_message CmdId.getData (device st.made).reads [] {} ""
      st.errorMessage
    dsimp only
    rw [hsuccess, hresponse]
    cases (LaserSession.receive CmdId.getData (device st.made).reads [] {}
        st.errorMessage).success with
    | false => exact ⟨rfl, rfl⟩
    | true =>
      cases parseSegmentResponse (LaserSession.receive CmdId.getData (device st.made).reads [] {}
          st.errorMessage).response.payload with
      | none => exact ⟨rfl, rfl⟩
      | some segment =>
        obtain ⟨returnedSegId, returnedSegCount, segmentData⟩ := segment
        by_cases hindex : returnedSegId = segmentIndex
        · simp [hindex]
        · have hnat : returnedSegId.toNat ≠ segmentIndex.toNat :=
            fun h => hindex (UInt32.toNat_inj.mp h)
          simp [hindex, hnat, Exchanges.fails]

/-- The loop ends without a result after this round, and that was one more request. -/
def Stops (device : Device) (c : Collecting) : Prop :=
  ∃ st, round device c = .inr (none, st)

/-- **One round.**  Without an answer, for zero segments and for another number than expected the
loop ends without a result; otherwise the data are appended. -/
theorem round_spec (device : Device) (c : Collecting) :
    match segmentAnswered c.segmentIndex.toNat (device c.st.made) with
    | none => Stops device c
    | some (count, segmentData) =>
      let expected := if c.segmentIndex = 0 then count else c.expectedSegments
      if count = 0 ∨ count ≠ expected then Stops device c
      else
        ∃ st, st.made = c.st.made + 1 ∧
          round device c =
            if c.segmentIndex + 1 ≥ expected then
              .inr (some ⟨c.receivedSegments + 1,
                Int32.ofNat (c.aggregated ++ segmentData).length, c.aggregated ++ segmentData⟩, st)
            else .inl ⟨c.segmentIndex + 1, expected, c.aggregated ++ segmentData,
              c.receivedSegments + 1, st⟩ := by
  obtain ⟨hread, hmade⟩ := readSegment_spec device c.segmentIndex c.st
  unfold Stops round
  rw [← hread]
  generalize readSegment device c.segmentIndex c.st = segment at *
  obtain ⟨answered, st⟩ := segment
  cases answered with
  | none => exact ⟨st, rfl⟩
  | some answer =>
    obtain ⟨count, segmentData⟩ := answer
    dsimp only
    by_cases hzero : count = 0
    · rw [if_pos (.inl hzero), if_pos hzero]
      exact ⟨_, rfl⟩
    rw [if_neg hzero]
    by_cases hfirst : c.segmentIndex = 0
    · -- the first answer says how many segments there are
      rw [if_pos hfirst, if_neg (by simp [hzero]), if_neg fun h => h.1 hfirst]
      exact ⟨st, hmade, rfl⟩
    · rw [if_neg hfirst]
      by_cases hcount : count = c.expectedSegments
      · rw [if_neg (not_or.mpr ⟨hzero, not_not.mpr hcount⟩), if_neg fun h => h.2 hcount]
        exact ⟨st, hmade, rfl⟩
      · rw [if_pos (.inr hcount), if_pos ⟨hfirst, hcount⟩]
        exact ⟨_, rfl⟩

end OneSegment

/-! ## §4. All segments -/

section AllSegments

variable {device : Device}

variable {segmentCount : UInt32}

/-- The index of the next segment. -/
theorem succ_index {segmentIndex : UInt32} {left : Nat}
    (h : segmentIndex.toNat + (left + 1) = segmentCount.toNat) :
    (segmentIndex + 1).toNat = segmentIndex.toNat + 1 ∧
      (segmentIndex + 1 ≥ segmentCount ↔ left = 0) := by
  have hlt := segmentCount.toNat_lt
  have hnext : (segmentIndex + 1).toNat = segmentIndex.toNat + 1 := by
    rw [UInt32.toNat_add]
    show (segmentIndex.toNat + 1) % 2 ^ 32 = _
    omega
  refine ⟨hnext, ?_⟩
  rw [ge_iff_le, UInt32.le_iff_toNat_le, hnext]
  omega

/-- The number of segments is what the first answer says, or what has been expected since. -/
structure Expecting (device : Device) (segmentCount : UInt32) (c : Collecting) : Prop where
  first : c.segmentIndex = 0 → ∀ count segmentData,
    segmentAnswered 0 (device c.st.made) = some (count, segmentData) → count = segmentCount
  later : c.segmentIndex ≠ 0 → c.expectedSegments = segmentCount

/-- One round, with the number of segments that is expected. -/
theorem round_expecting {c : Collecting} (hpos : segmentCount ≠ 0)
    (hexpect : Expecting device segmentCount c) :
    match segmentAnswered c.segmentIndex.toNat (device c.st.made) with
    | none => Stops device c
    | some (count, segmentData) =>
      if count = segmentCount then
        ∃ st, st.made = c.st.made + 1 ∧
          round device c =
            if c.segmentIndex + 1 ≥ segmentCount then
              .inr (some ⟨c.receivedSegments + 1,
                Int32.ofNat (c.aggregated ++ segmentData).length, c.aggregated ++ segmentData⟩, st)
            else .inl ⟨c.segmentIndex + 1, segmentCount, c.aggregated ++ segmentData,
              c.receivedSegments + 1, st⟩
      else Stops device c := by
  have hround := round_spec device c
  cases hanswer : segmentAnswered c.segmentIndex.toNat (device c.st.made) with
  | none =>
    rw [hanswer] at hround
    exact hround
  | some answer =>
    obtain ⟨count, segmentData⟩ := answer
    rw [hanswer] at hround
    dsimp only at hround ⊢
    by_cases hfirst : c.segmentIndex = 0
    · obtain rfl : count = segmentCount := by
        rw [hfirst] at hanswer
        exact hexpect.first hfirst count segmentData hanswer
      rw [if_pos hfirst, if_neg (not_or.mpr ⟨hpos, not_not.mpr rfl⟩)] at hround
      rw [if_pos rfl]
      exact hround
    · rw [if_neg hfirst, hexpect.later hfirst] at hround
      by_cases hcount : count = segmentCount
      · rw [if_neg (not_or.mpr ⟨hcount ▸ hpos, not_not.mpr hcount⟩)] at hround
        rw [if_pos hcount]
        exact hround
      · rw [if_pos (.inr hcount)] at hround
        rw [if_neg hcount]
        exact hround

/-- **The loop over the segments** ends with the last one, or with the first answer that is missing
or does not fit. -/
theorem collects_all (device : Device) (hpos : segmentCount ≠ 0) (left : Nat) :
    ∀ c : Collecting, c.segmentIndex.toNat + (left + 1) = segmentCount.toNat →
      Expecting device segmentCount c →
        match segmentsAnswered device segmentCount (left + 1) c.segmentIndex.toNat c.st.made with
        | none => ∃ requests st', requests ≤ left + 1 ∧ Ends (round device) c requests (none, st')
        | some segments =>
          ∃ st', Ends (round device) c (left + 1)
            (some ⟨c.receivedSegments + Int32.ofNat (left + 1),
              Int32.ofNat (c.aggregated ++ segments.flatten).length,
              c.aggregated ++ segments.flatten⟩, st') := by
  have hstops : ∀ {c : Collecting} {left : Nat}, Stops device c →
      ∃ requests st', requests ≤ left + 1 ∧ Ends (round device) c requests (none, st') :=
    fun ⟨st', h⟩ => ⟨1, st', Nat.succ_le_succ (Nat.zero_le _), .last h⟩
  induction left with
  | zero =>
    intro c hleft hexpect
    obtain ⟨-, hlast⟩ := succ_index hleft
    have hround := round_expecting hpos hexpect
    unfold segmentsAnswered
    cases hanswer : segmentAnswered c.segmentIndex.toNat (device c.st.made) with
    | none =>
      rw [hanswer] at hround
      exact hstops hround
    | some answer =>
      rw [hanswer] at hround
      dsimp only [Option.bind_some] at hround ⊢
      by_cases hcount : answer.1 = segmentCount
      · rw [if_pos hcount] at hround ⊢
        obtain ⟨st', -, hends⟩ := hround
        rw [if_pos (hlast.mpr rfl)] at hends
        refine ⟨st', ?_⟩
        rw [List.flatten_cons, List.flatten_nil, List.append_nil]
        exact .last hends
      · rw [if_neg hcount] at hround ⊢
        exact hstops hround
  | succ left ih =>
    intro c hleft hexpect
    obtain ⟨hnext, hlast⟩ := succ_index hleft
    have hround := round_expecting hpos hexpect
    rw [segmentsAnswered]
    cases hanswer : segmentAnswered c.segmentIndex.toNat (device c.st.made) with
    | none =>
      rw [hanswer] at hround
      exact hstops hround
    | some answer =>
      obtain ⟨count, segmentData⟩ := answer
      rw [hanswer] at hround
      dsimp only [Option.bind_some] at hround ⊢
      by_cases hcount : count = segmentCount
      · rw [if_pos hcount] at hround ⊢
        obtain ⟨st', hmade, hgoes⟩ := hround
        rw [if_neg fun h => absurd (hlast.mp h) (Nat.succ_ne_zero left)] at hgoes
        -- from the second segment on, the number is the one that is expected
        have hlater : c.segmentIndex + 1 ≠ 0 := by
          intro h
          have hzero := congrArg UInt32.toNat h
          rw [hnext] at hzero
          cases hzero
        have hrest := ih ⟨c.segmentIndex + 1, segmentCount, c.aggregated ++ segmentData,
          c.receivedSegments + 1, st'⟩ (by dsimp only; omega)
          ⟨fun h => absurd h hlater, fun _ => rfl⟩
        dsimp only at hrest
        rw [hnext, hmade] at hrest
        cases hsegments : segmentsAnswered device segmentCount (left + 1)
            (c.segmentIndex.toNat + 1) (c.st.made + 1) with
        | none =>
          rw [hsegments] at hrest
          obtain ⟨requests, st'', hle, hends⟩ := hrest
          exact ⟨requests + 1, st'', Nat.succ_le_succ hle, .step hgoes hends⟩
        | some segments =>
          rw [hsegments] at hrest
          obtain ⟨st'', hends⟩ := hrest
          refine ⟨st'', ?_⟩
          have hreceived : c.receivedSegments + 1 + Int32.ofNat (left + 1) =
              c.receivedSegments + Int32.ofNat (left + 1 + 1) := by
            rw [Int32.ofNat_add (left + 1) 1, Int32.add_comm (Int32.ofNat (left + 1)),
              ← Int32.add_assoc]
            rfl
          rw [hreceived, List.append_assoc] at hends
          exact .step hgoes hends
      · rw [if_neg hcount] at hround ⊢
        exact hstops hround

/-- An `int` holds the numbers below 2^31. -/
theorem int32_ofNat_iff {n : Nat} : (Int32.ofNat n).toInt = n ↔ n < 2 ^ 31 := by
  constructor
  · intro h
    have hlt := (Int32.ofNat n).toInt_lt
    omega
  · exact Int32.toInt_ofNat_of_lt

/-- Without an answer, or for zero segments, there is one request. -/
theorem collects_none (device : Device) (st : Exchanges)
    (h : ∀ count segmentData,
      segmentAnswered 0 (device st.made) = some (count, segmentData) → count = 0) :
    ∃ st', collectAllSegments device st = some (1, none, st') := by
  have hround := round_spec device { st := { st with errorKind := .none } }
  have hstops : Stops device { st := { st with errorKind := .none } } := by
    cases hanswer : segmentAnswered 0 (device st.made) with
    | none =>
      dsimp only at hround
      rw [show (0 : UInt32).toNat = 0 from rfl, hanswer] at hround
      exact hround
    | some answer =>
      dsimp only at hround
      rw [show (0 : UInt32).toNat = 0 from rfl, hanswer] at hround
      dsimp only at hround
      rw [if_pos (.inl (h answer.1 answer.2 hanswer))] at hround
      exact hround
  obtain ⟨st', hends⟩ := hstops
  exact ⟨st', runFor_iff.mpr ⟨.last hends, Nat.one_le_two_pow⟩⟩

/-- With a number of segments, all of them are asked for, as long as the answers fit. -/
theorem collects_some (device : Device) (st : Exchanges) {segmentData : List UInt8}
    (hpos : segmentCount ≠ 0)
    (h : segmentAnswered 0 (device st.made) = some (segmentCount, segmentData)) :
    match segmentsAnswered device segmentCount segmentCount.toNat 0 st.made with
    | none => ∃ requests st', requests ≤ segmentCount.toNat ∧
        collectAllSegments device st = some (requests, none, st')
    | some segments =>
      ∃ st', collectAllSegments device st = some (segmentCount.toNat,
        some ⟨Int32.ofNat segmentCount.toNat, Int32.ofNat segments.flatten.length,
          segments.flatten⟩, st') := by
  have hlt := segmentCount.toNat_lt
  obtain ⟨left, hleft⟩ : ∃ left, segmentCount.toNat = left + 1 := by
    refine Nat.exists_eq_succ_of_ne_zero fun hzero => hpos (UInt32.toNat_inj.mp hzero)
  have hall := collects_all device hpos left { st := { st with errorKind := .none } }
    (by rw [hleft]; exact Nat.zero_add _)
    ⟨fun _ count data hfirst => by
      obtain ⟨rfl, -⟩ := Prod.mk.inj (Option.some.inj (h.symm.trans hfirst))
      rfl, fun hne => absurd rfl hne⟩
  dsimp only at hall
  rw [show (0 : UInt32).toNat = 0 from rfl, ← hleft] at hall
  cases hsegments : segmentsAnswered device segmentCount segmentCount.toNat 0 st.made with
  | none =>
    rw [hsegments] at hall
    obtain ⟨requests, st', hle, hends⟩ := hall
    exact ⟨requests, st', hle, runFor_iff.mpr ⟨hends, by omega⟩⟩
  | some segments =>
    rw [hsegments] at hall
    obtain ⟨st', hends⟩ := hall
    rw [List.nil_append, Int32.zero_add] at hends
    exact ⟨st', runFor_iff.mpr ⟨hends, by omega⟩⟩

/-- **Collections of the laser radar.**  A collection is exact iff the first answer, if there is
one, does not announce zero segments and, if all of them are answered, neither their number nor
that of their bytes reaches 2^31. -/
theorem collects_iff (device : Device) (st : Exchanges) :
    CollectsExactly device st ↔ NumbersFit device st := by
  constructor
  · rintro ⟨⟨requests, outcome, st', hcollect, hbound⟩, hresult⟩ segmentCount segmentData hfirst
    have hpos : segmentCount ≠ 0 := by
      rintro rfl
      obtain ⟨st'', hone⟩ := collects_none device st fun count data h => by
        obtain ⟨rfl, -⟩ := Prod.mk.inj (Option.some.inj (hfirst.symm.trans h))
        rfl
      obtain ⟨rfl, -⟩ := Prod.mk.inj (Option.some.inj (hcollect.symm.trans hone))
      exact absurd (hbound 0 segmentData hfirst) (by decide)
    refine ⟨hpos, fun segments hsegments => ?_⟩
    have hall := collects_some device st hpos hfirst
    rw [hsegments] at hall
    obtain ⟨st'', hall⟩ := hall
    obtain ⟨count, data, segments', hfirst', -, hdata, hcount, hbytes⟩ := hresult _ _ _ hall
    obtain ⟨rfl, -⟩ := Prod.mk.inj (Option.some.inj (hfirst.symm.trans hfirst'))
    exact ⟨int32_ofNat_iff.mp hcount, int32_ofNat_iff.mp hbytes⟩
  · intro hfit
    cases hfirst : segmentAnswered 0 (device st.made) with
    | none =>
      obtain ⟨st', hone⟩ := collects_none device st fun _ _ h => by
        cases hfirst.symm.trans h
      refine ⟨⟨1, none, st', hone, fun _ _ h => ?_⟩, fun _ _ _ h => ?_⟩
      · cases hfirst.symm.trans h
      · cases hone.symm.trans h
    | some answer =>
      obtain ⟨segmentCount, segmentData⟩ := answer
      obtain ⟨hpos, hsmall⟩ := hfit segmentCount segmentData hfirst
      have hall := collects_some device st hpos hfirst
      cases hsegments : segmentsAnswered device segmentCount segmentCount.toNat 0 st.made with
      | none =>
        rw [hsegments] at hall
        obtain ⟨requests, st', hle, hnone⟩ := hall
        refine ⟨⟨requests, none, st', hnone, fun count data h => ?_⟩, fun _ _ _ h => ?_⟩
        · obtain ⟨rfl, -⟩ := Prod.mk.inj (Option.some.inj (hfirst.symm.trans h))
          exact hle
        · cases hnone.symm.trans h
      | some segments =>
        rw [hsegments] at hall
        obtain ⟨st', hsome⟩ := hall
        obtain ⟨hcount, hbytes⟩ := hsmall segments hsegments
        refine ⟨⟨_, _, st', hsome, fun count data h => ?_⟩, fun requests result st'' h => ?_⟩
        · obtain ⟨rfl, -⟩ := Prod.mk.inj (Option.some.inj (hfirst.symm.trans h))
          exact Nat.le_refl _
        · obtain ⟨rfl, hrest⟩ := Prod.mk.inj (Option.some.inj (hsome.symm.trans h))
          obtain ⟨hresult, -⟩ := Prod.mk.inj hrest
          obtain rfl := Option.some.inj hresult
          exact ⟨segmentCount, segmentData, segments, hfirst, hsegments, rfl,
            int32_ofNat_iff.mpr hcount, int32_ofNat_iff.mpr hbytes⟩

end AllSegments

/-! ## §5. Devices that answer every request -/

section Answering

/-- The payload of a segment. -/
def segmentPayload (index count : UInt32) (data : List UInt8) : List UInt8 :=
  qToBigEndian index ++ (qToBigEndian count ++ (qToBigEndian16 (UInt16.ofNat data.length) ++ data))

theorem length_segmentPayload (index count : UInt32) (data : List UInt8) :
    (segmentPayload index count data).length = 10 + data.length := by
  unfold segmentPayload qToBigEndian qToBigEndian16
  simp only [List.length_append, length_toBytes]
  omega

/-- A segment is parsed to what was built. -/
theorem parseSegmentResponse_segmentPayload (index count : UInt32) {data : List UInt8}
    (h : data.length ≤ 65517) :
    parseSegmentResponse (segmentPayload index count data) = some (index, count, data) := by
  have hlen := length_segmentPayload index count data
  have hsegLen : qFromBigEndian16 (mid (segmentPayload index count data) 8 2) =
      UInt16.ofNat data.length := fromBigEndian16_toBigEndian16 _
  have hnat : (UInt16.ofNat data.length).toNat = data.length := by
    rw [UInt16.toNat_ofNat']
    omega
  have hindex : qFromBigEndian (mid (segmentPayload index count data) 0 4) = index :=
    ScanRobot.fromBigEndian_toBigEndian index
  have hcount : qFromBigEndian (mid (segmentPayload index count data) 4 4) = count :=
    ScanRobot.fromBigEndian_toBigEndian count
  have hdata : mid (segmentPayload index count data) 10 data.length = data := by
    show data.take data.length = data
    exact List.take_length
  unfold parseSegmentResponse
  rw [if_neg (by omega)]
  dsimp only
  rw [hsegLen, hnat, if_neg (not_not.mpr hlen), hindex, hcount, hdata]

/-- A transport that delivers a segment in one piece. -/
def delivers (index count : UInt32) (data : List UInt8) : Transport where
  reads := [.ok (encodeFrame 0 kDeviceAddr CmdId.getData (segmentPayload index count data))]

theorem segmentAnswered_delivers (index count : UInt32) {data : List UInt8}
    (h : data.length ≤ 65517) :
    segmentAnswered index.toNat (delivers index count data) = some (count, data) := by
  have hlen := length_segmentPayload index count data
  have hmin : 4 ≤ (segmentPayload index count data).length := by omega
  have hmax : (segmentPayload index count data).length ≤ 65527 := by omega
  have hdecode : LaserSession.decode CmdId.getData
      ([] ++ encodeFrame 0 kDeviceAddr CmdId.getData (segmentPayload index count data)) {} false =
        ⟨.ok, frameOf 0 kDeviceAddr CmdId.getData (segmentPayload index count data), "",
          (encodeFrame 0 kDeviceAddr CmdId.getData (segmentPayload index count data)).length⟩ := by
    have hframe := @tryDecodeFrame_encodeFrame 0 _ _ _ hmin hmax [] _ _ {} false
      (show Expects kDeviceAddr.toNat kDeviceAddr by decide)
      (show Expects CmdId.getData.toNat CmdId.getData by decide)
    rw [List.append_nil] at hframe
    exact hframe
  unfold segmentAnswered delivers
  dsimp only
  rw [LaserSession.receive, hdecode]
  dsimp only [if_true]
  show (parseSegmentResponse (segmentPayload index count data)).bind _ = _
  rw [parseSegmentResponse_segmentPayload index count h, Option.bind_some]
  exact if_pos rfl

/-- All segments are answered. -/
theorem segmentsAnswered_delivers (count : UInt32) {data : Nat → List UInt8}
    (hdata : ∀ i, (data i).length ≤ 65517) (left : Nat) :
    ∀ i, i + left ≤ 2 ^ 32 →
      segmentsAnswered (fun n => delivers (UInt32.ofNat n) count (data n)) count left i i =
        some ((List.range' i left).map data) := by
  induction left with
  | zero => exact fun _ _ => rfl
  | succ left ih =>
    intro i hi
    have hanswer := segmentAnswered_delivers (UInt32.ofNat i) count (hdata i)
    rw [UInt32.toNat_ofNat', Nat.mod_eq_of_lt (by omega)] at hanswer
    rw [segmentsAnswered, hanswer, Option.bind_some]
    dsimp only
    rw [if_pos rfl, ih (i + 1) (by omega)]
    rfl

/-- All of them are collected. -/
theorem collects_delivers {count : UInt32} (hpos : count ≠ 0) {data : Nat → List UInt8}
    (hdata : ∀ i, (data i).length ≤ 65517) :
    ∃ st', collectAllSegments (fun n => delivers (UInt32.ofNat n) count (data n)) {} =
      some (count.toNat,
        some ⟨Int32.ofNat count.toNat,
          Int32.ofNat ((List.range' 0 count.toNat).map data).flatten.length,
          ((List.range' 0 count.toNat).map data).flatten⟩, st') := by
  have hlt := count.toNat_lt
  have hfirst : segmentAnswered 0 (delivers 0 count (data 0)) = some (count, data 0) :=
    segmentAnswered_delivers 0 count (hdata 0)
  have hall := segmentsAnswered_delivers count hdata count.toNat 0 (by omega)
  have hcollect := collects_some (fun n => delivers (UInt32.ofNat n) count (data n)) {} hpos hfirst
  dsimp only at hcollect
  rw [hall] at hcollect
  exact hcollect

/-- 32 KiB. -/
def block : List UInt8 := List.replicate 32768 0

theorem length_block : block.length = 32768 := List.length_replicate

/-- A device with 65536 segments of 32 KiB. -/
def largeDevice : Device := fun n => delivers (UInt32.ofNat n) 65536 block

/-- They are 2^31 bytes, and the number of bytes is negative. -/
theorem bytes_miscounted :
    (∃ requests result st', collectAllSegments largeDevice {} = some (requests, some result, st') ∧
        result.data.length = 2 ^ 31 ∧ result.byteCount.toInt = -2 ^ 31) ∧
      ¬ CollectsExactly largeDevice {} := by
  have hlen : ((List.range' 0 (65536 : UInt32).toNat).map fun _ => block).flatten.length =
      2 ^ 31 := by
    unfold block
    rw [List.map_const', List.length_range', List.flatten_replicate_replicate,
      List.length_replicate]
    decide
  obtain ⟨st', hcollect⟩ := collects_delivers (show (65536 : UInt32) ≠ 0 by decide)
    (fun _ : Nat => Nat.le_trans (Nat.le_of_eq length_block) (by decide))
  have hbytes : (Int32.ofNat (2 ^ 31)).toInt = -2 ^ 31 := by decide
  rw [hlen] at hcollect
  refine ⟨⟨_, _, st', hcollect, hlen, hbytes⟩, fun h => ?_⟩
  obtain ⟨-, -, -, -, -, -, -, hcount⟩ := h.result _ _ _ hcollect
  dsimp only at hcount
  rw [hlen, hbytes] at hcount
  cases hcount

end Answering

end Stdiolink.LaserRadar
