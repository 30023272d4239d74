/-
  Stdiolink.Modbus.RtuServer — the RTU-over-TCP server, `modbus_rtu_server.cpp`.

  A frame is the unit, the function, the arguments and a CRC.  Nothing on the stream
  says where a frame ends: when the frame timer fires, `onFrameTimeout` takes the
  shortest prefix of the buffer that ends with its own CRC for a frame, and drops a
  byte where there is none.

  Main results:
    * `crc16Table_eq` — the table is the one of the polynomial 0xA001;
    * `onFrameTimeout_eq` — the loop, unrolled once;
    * `frames_answered_iff` — a buffer of request frames is taken as just these frames
      iff no frame has a shorter prefix that ends with its own CRC.
-/
import Stdiolink.Modbus.DataModel
import Mathlib.Data.List.Range
import Mathlib.Tactic.IntervalCases

namespace Stdiolink.Modbus

open Stdiolink.Lib

/-! ## §1. The checksum -/

/-- `crc16Table`. -/
def crc16Table : List UInt16 :=
  [0x0000, 0xC0C1, 0xC181, 0x0140, 0xC301, 0x03C0, 0x0280, 0xC241,
    0xC601, 0x06C0, 0x0780, 0xC741, 0x0500, 0xC5C1, 0xC481, 0x0440,
    0xCC01, 0x0CC0, 0x0D80, 0xCD41, 0x0F00, 0xCFC1, 0xCE81, 0x0E40,
    0x0A00, 0xCAC1, 0xCB81, 0x0B40, 0xC901, 0x09C0, 0x0880, 0xC841,
    0xD801, 0x18C0, 0x1980, 0xD941, 0x1B00, 0xDBC1, 0xDA81, 0x1A40,
    0x1E00, 0xDEC1, 0xDF81, 0x1F40, 0xDD01, 0x1DC0, 0x1C80, 0xDC41,
    0x1400, 0xD4C1, 0xD581, 0x1540, 0xD701, 0x17C0, 0x1680, 0xD641,
    0xD201, 0x12C0, 0x1380, 0xD341, 0x1100, 0xD1C1, 0xD081, 0x1040,
    0xF001, 0x30C0, 0x3180, 0xF141, 0x3300, 0xF3C1, 0xF281, 0x3240,
    0x3600, 0xF6C1, 0xF781, 0x3740, 0xF501, 0x35C0, 0x3480, 0xF441,
    0x3C00, 0xFCC1, 0xFD81, 0x3D40, 0xFF01, 0x3FC0, 0x3E80, 0xFE41,
    0xFA01, 0x3AC0, 0x3B80, 0xFB41, 0x3900, 0xF9C1, 0xF881, 0x3840,
    0x2800, 0xE8C1, 0xE981, 0x2940, 0xEB01, 0x2BC0, 0x2A80, 0xEA41,
    0xEE01, 0x2EC0, 0x2F80, 0xEF41, 0x2D00, 0xEDC1, 0xEC81, 0x2C40,
    0xE401, 0x24C0, 0x2580, 0xE541, 0x2700, 0xE7C1, 0xE681, 0x2640,
    0x2200, 0xE2C1, 0xE381, 0x2340, 0xE101, 0x21C0, 0x2080, 0xE041,
    0xA001, 0x60C0, 0x6180, 0xA141, 0x6300, 0xA3C1, 0xA281, 0x6240,
    0x6600, 0xA6C1, 0xA781, 0x6740, 0xA501, 0x65C0, 0x6480, 0xA441,
    0x6C00, 0xACC1, 0xAD81, 0x6D40, 0xAF01, 0x6FC0, 0x6E80, 0xAE41,
    0xAA01, 0x6AC0, 0x6B80, 0xAB41, 0x6900, 0xA9C1, 0xA881, 0x6840,
    0x7800, 0xB8C1, 0xB981, 0x7940, 0xBB01, 0x7BC0, 0x7A80, 0xBA41,
    0xBE01, 0x7EC0, 0x7F80, 0xBF41, 0x7D00, 0xBDC1, 0xBC81, 0x7C40,
    0xB401, 0x74C0, 0x7580, 0xB541, 0x7700, 0xB7C1, 0xB681, 0x7640,
    0x7200, 0xB2C1, 0xB381, 0x7340, 0xB101, 0x71C0, 0x7080, 0xB041,
    0x5000, 0x90C1, 0x9181, 0x5140, 0x9301, 0x53C0, 0x5280, 0x9241,
    0x9601, 0x56C0, 0x5780, 0x9741, 0x5500, 0x95C1, 0x9481, 0x5440,
    0x9C01, 0x5CC0, 0x5D80, 0x9D41, 0x5F00, 0x9FC1, 0x9E81, 0x5E40,
    0x5A00, 0x9AC1, 0x9B81, 0x5B40, 0x9901, 0x59C0, 0x5880, 0x9841,
    0x8801, 0x48C0, 0x4980, 0x8941, 0x4B00, 0x8BC1, 0x8A81, 0x4A40,
    0x4E00, 0x8EC1, 0x8F81, 0x4F40, 0x8D01, 0x4DC0, 0x4C80, 0x8C41,
    0x4400, 0x84C1, 0x8581, 0x4540, 0x8701, 0x47C0, 0x4680, 0x8641,
    0x8201, 0x42C0, 0x4380, 0x8341, 0x4100, 0x81C1, 0x8081, 0x4040]

/-- One step of the loop of `calculateCRC16`. -/
def crcStep (crc : UInt16) (byte : UInt8) : UInt16 :=
  (crc >>> 8) ^^^ crc16Table.getD ((crc ^^^ byte.toUInt16) &&& 0xFF).toNat 0

/-- `calculateCRC16`. -/
def calculateCRC16 (data : List UInt8) : UInt16 := data.foldl crcStep 0xFFFF

/-- One bit of a remainder for the polynomial 0xA001. -/
def crcShift (crc : UInt16) : UInt16 :=
  if crc &&& 1 = 1 then (crc >>> 1) ^^^ 0xA001 else crc >>> 1

/-- The table is the one of the polynomial 0xA001: eight shifts of each byte. -/
theorem crc16Table_eq :
    crc16Table = (List.range 256).map fun i => crcShift^[8] (UInt16.ofNat i) := by
  decide +kernel

/-! ## §2. Requests -/

/-- `ModbusRtuServer`: what `processRtuRequest` reads and changes. -/
structure ModbusRtuServer where
  unitDataAreas : UInt8 → Option ModbusDataArea

/-- What `processRtuRequest` does. -/
structure RtuProcessed where
  server : ModbusRtuServer
  signals : List ModbusSignal
  response : List UInt8

/-- What a `case` of the `switch (fc)` leaves when it does not return an exception. -/
structure RtuHandled where
  area : ModbusDataArea
  signals : List ModbusSignal
  pdu : List UInt8

namespace ModbusRtuServer

/-- `buildRtuResponse`. -/
def buildRtuResponse (unitId : UInt8) (pdu : List UInt8) : List UInt8 :=
  let crc := calculateCRC16 (unitId :: pdu)
  unitId :: pdu ++ [crc.toUInt8, (crc >>> 8).toUInt8]

theorem length_buildRtuResponse (unitId : UInt8) (pdu : List UInt8) :
    (buildRtuResponse unitId pdu).length = pdu.length + 3 := by
  simp [buildRtuResponse]

/-- `createRtuExceptionResponse`. -/
def createRtuExceptionResponse (unitId fc : UInt8) (exception : ModbusException) : List UInt8 :=
  buildRtuResponse unitId [fc ||| 0x80, exception.code]

section Cases

variable (unitId : UInt8) (area : ModbusDataArea) (data : List UInt8)

/-- The common body of the two cases that read bits. -/
def readBits (function : ModbusFunctionCode) (bits : List Bool) :
    Except ModbusException RtuHandled :=
  if data.length < 4 then .error .illegalDataValue
  else
    let startAddr := bytesToUInt16 data 0
    let qty := bytesToUInt16 data 2
    if qty < 1 || qty > 2000 || startAddr.toNat + qty.toNat > bits.length then
      .error .illegalDataAddress
    else
      let byteCount := (qty.toNat + 7) / 8
      let byte (i : Nat) : UInt8 := UInt8.ofNat (packBits (fun bit =>
        decide (i * 8 + bit < qty.toNat) && bits.getD (startAddr.toNat + i * 8 + bit) false) 8)
      .ok ⟨area, [.dataRead unitId function startAddr qty],
        function.code :: UInt8.ofNat byteCount :: (List.range byteCount).map byte⟩

/-- The common body of the two cases that read registers. -/
def readRegisters (function : ModbusFunctionCode) (registers : List UInt16) :
    Except ModbusException RtuHandled :=
  if data.length < 4 then .error .illegalDataValue
  else
    let startAddr := bytesToUInt16 data 0
    let qty := bytesToUInt16 data 2
    if qty < 1 || qty > 125 || startAddr.toNat + qty.toNat > registers.length then
      .error .illegalDataAddress
    else
      .ok ⟨area, [.dataRead unitId function startAddr qty],
        function.code :: UInt8.ofNat (qty.toNat * 2) ::
          (List.range qty.toNat).flatMap fun i =>
            uint16ToBytes (registers.getD (startAddr.toNat + i) 0)⟩

/-- The PDU of the four writes: the function and two words of the request. -/
def echoPdu (function : ModbusFunctionCode) (first second : UInt16) : List UInt8 :=
  function.code :: (uint16ToBytes first ++ uint16ToBytes second)

def writeSingleCoil : Except ModbusException RtuHandled :=
  if data.length < 4 then .error .illegalDataValue
  else
    let addr := bytesToUInt16 data 0
    let val := bytesToUInt16 data 2
    if addr.toNat ≥ area.coils.length then .error .illegalDataAddress
    else if val ≠ 0x0000 && val ≠ 0xFF00 then .error .illegalDataValue
    else
      .ok ⟨{ area with coils := area.coils.set addr.toNat (val = 0xFF00) },
        [.dataWritten unitId .writeSingleCoil addr 1], echoPdu .writeSingleCoil addr val⟩

def writeSingleRegister : Except ModbusException RtuHandled :=
  if data.length < 4 then .error .illegalDataValue
  else
    let addr := bytesToUInt16 data 0
    let val := bytesToUInt16 data 2
    if addr.toNat ≥ area.holdingRegisters.length then .error .illegalDataAddress
    else
      .ok ⟨{ area with holdingRegisters := area.holdingRegisters.set addr.toNat val },
        [.dataWritten unitId .writeSingleRegister addr 1], echoPdu .writeSingleRegister addr val⟩

/-- The loop of the two multiple writes: `values i` at `startAddr + i`. -/
def setCells {α : Type} (cells : List α) (startAddr qty : Nat) (values : Nat → α) : List α :=
  (List.range qty).foldl (fun cells i => cells.set (startAddr + i) (values i)) cells

def writeMultipleCoils : Except ModbusException RtuHandled :=
  if data.length < 5 then .error .illegalDataValue
  else
    let startAddr := bytesToUInt16 data 0
    let qty := bytesToUInt16 data 2
    let byteCount := (data.getD 4 0).toNat
    if qty < 1 || qty > 1968 || byteCount ≠ (qty.toNat + 7) / 8 ||
        data.length < 5 + byteCount then
      .error .illegalDataValue
    else if startAddr.toNat + qty.toNat > area.coils.length then .error .illegalDataAddress
    else
      .ok ⟨{ area with
          coils := setCells area.coils startAddr.toNat qty.toNat (bitAt (data.drop 5)) },
        [.dataWritten unitId .writeMultipleCoils startAddr qty],
        echoPdu .writeMultipleCoils startAddr qty⟩

def writeMultipleRegisters : Except ModbusException RtuHandled :=
  if data.length < 5 then .error .illegalDataValue
  else
    let startAddr := bytesToUInt16 data 0
    let qty := bytesToUInt16 data 2
    let byteCount := (data.getD 4 0).toNat
    if qty < 1 || qty > 123 || byteCount ≠ qty.toNat * 2 || data.length < 5 + byteCount then
      .error .illegalDataValue
    else if startAddr.toNat + qty.toNat > area.holdingRegisters.length then
      .error .illegalDataAddress
    else
      .ok ⟨{ area with
          holdingRegisters := setCells area.holdingRegisters startAddr.toNat qty.toNat
            fun i => bytesToUInt16 data (5 + i * 2) },
        [.dataWritten unitId .writeMultipleRegisters startAddr qty],
        echoPdu .writeMultipleRegisters startAddr qty⟩

/-- The `switch (fc)`. -/
def handle : ModbusFunctionCode → Except ModbusException RtuHandled
  | .readCoils => readBits unitId area data .readCoils area.coils
  | .readDiscreteInputs => readBits unitId area data .readDiscreteInputs area.discreteInputs
  | .readHoldingRegisters =>
      readRegisters unitId area data .readHoldingRegisters area.holdingRegisters
  | .readInputRegisters => readRegisters unitId area data .readInputRegisters area.inputRegisters
  | .writeSingleCoil => writeSingleCoil unitId area data
  | .writeSingleRegister => writeSingleRegister unitId area data
  | .writeMultipleCoils => writeMultipleCoils unitId area data
  | .writeMultipleRegisters => writeMultipleRegisters unitId area data

end Cases

/-- The data area of one unit is replaced. -/
def setArea (server : ModbusRtuServer) (unitId : UInt8) (area : ModbusDataArea) :
    ModbusRtuServer :=
  ⟨fun u => if u = unitId then some area else server.unitDataAreas u⟩

/-- `processRtuRequest`. -/
def processRtuRequest (server : ModbusRtuServer) (frame : List UInt8) : RtuProcessed :=
  if frame.length < 4 then ⟨server, [], []⟩
  else
    let unitId := frame.getD 0 0
    let fc := frame.getD 1 0
    let data := (frame.drop 2).take (frame.length - 4)
    let exception (e : ModbusException) : RtuProcessed :=
      ⟨server, [], createRtuExceptionResponse unitId fc e⟩
    match server.unitDataAreas unitId with
    | none => exception .gatewayTargetDeviceFailed
    | some area =>
      match ModbusFunctionCode.ofByte fc with
      | none => exception .illegalFunction
      | some function =>
        match handle unitId area data function with
        | .error e => exception e
        | .ok handled =>
            ⟨server.setArea unitId handled.area, handled.signals,
              buildRtuResponse unitId handled.pdu⟩

/-! ## §3. Frames in the buffer -/

/-- `received == calculated`. -/
def crcMatches (candidate : List UInt8) : Bool :=
  joinBytes (candidate.getD (candidate.length - 1) 0) (candidate.getD (candidate.length - 2) 0) =
    calculateCRC16 (candidate.take (candidate.length - 2))

/-- The `for` loop of `onFrameTimeout`: the length of the first candidate that matches. -/
def findFrame (buffer : List UInt8) : Option Nat :=
  (List.range' 4 (min buffer.length 256 - 3)).find? fun len => crcMatches (buffer.take len)

/-- What `onFrameTimeout` does: the frames it takes for requests, what is sent for them, and
what stays in the buffer. -/
structure Drained where
  server : ModbusRtuServer
  requests : List (List UInt8)
  signals : List ModbusSignal
  responses : List (List UInt8)
  buffer : List UInt8

/-- A request is processed before the rest. -/
def Drained.after (frame : List UInt8) (p : RtuProcessed) (rest : Drained) : Drained :=
  { rest with
    requests := frame :: rest.requests
    signals := p.signals ++ rest.signals
    responses := if p.response.isEmpty then rest.responses else p.response :: rest.responses }

/-- At most this many rounds of the `while` loop of `onFrameTimeout`. -/
def drainRounds : Nat → ModbusRtuServer → List UInt8 → Drained
  | 0, server, buffer => ⟨server, [], [], [], buffer⟩
  | n + 1, server, buffer =>
    if buffer.length < 4 then ⟨server, [], [], [], buffer⟩
    else
      match findFrame buffer with
      | some len =>
          let p := server.processRtuRequest (buffer.take len)
          .after (buffer.take len) p (drainRounds n p.server (buffer.drop len))
      | none => drainRounds n server (buffer.drop 1)

/-- `onFrameTimeout`, for a client with this buffer.  A round takes at least one byte, so
these rounds are enough. -/
def onFrameTimeout (server : ModbusRtuServer) (buffer : List UInt8) : Drained :=
  drainRounds buffer.length server buffer

theorem findFrame_eq_some {buffer : List UInt8} {len : Nat} :
    findFrame buffer = some len ↔ crcMatches (buffer.take len) = true ∧
      (4 ≤ len ∧ len ≤ buffer.length ∧ len ≤ 256) ∧
        ∀ j, 4 ≤ j → j < len → crcMatches (buffer.take j) = false := by
  unfold findFrame
  rw [List.find?_range'_eq_some]
  simp only [List.mem_range'_1, Bool.not_eq_true', and_congr_right_iff]
  intro _
  have hbounds : (4 ≤ len ∧ len < 4 + (min buffer.length 256 - 3)) ↔
      4 ≤ len ∧ len ≤ buffer.length ∧ len ≤ 256 := by
    omega
  rw [hbounds]

/-- Enough rounds are as good as more. -/
theorem drainRounds_enough {n m : Nat} (server : ModbusRtuServer) {buffer : List UInt8}
    (hn : buffer.length ≤ n) (hm : buffer.length ≤ m) :
    drainRounds n server buffer = drainRounds m server buffer := by
  induction n generalizing m server buffer with
  | zero =>
    have hlen : buffer.length < 4 := by omega
    cases m with
    | zero => rfl
    | succ m => rw [drainRounds, drainRounds, if_pos hlen]
  | succ n ih =>
    cases m with
    | zero =>
      have hlen : buffer.length < 4 := by omega
      rw [drainRounds, drainRounds, if_pos hlen]
    | succ m =>
      rw [drainRounds, drainRounds]
      by_cases hlen : buffer.length < 4
      · rw [if_pos hlen, if_pos hlen]
      · rw [if_neg hlen, if_neg hlen]
        cases hfind : findFrame buffer with
        | none =>
          have hdrop : (buffer.drop 1).length = buffer.length - 1 := List.length_drop
          exact ih server (by omega) (by omega)
        | some len =>
          have hfour := (findFrame_eq_some.mp hfind).2.1.1
          have hdrop : (buffer.drop len).length = buffer.length - len := List.length_drop
          dsimp only
          rw [ih _ (by omega) (by omega : (buffer.drop len).length ≤ m)]

/-- **The loop, unrolled once.** -/
theorem onFrameTimeout_eq (server : ModbusRtuServer) (buffer : List UInt8) :
    onFrameTimeout server buffer =
      if buffer.length < 4 then ⟨server, [], [], [], buffer⟩
      else
        match findFrame buffer with
        | some len =>
            let p := server.processRtuRequest (buffer.take len)
            .after (buffer.take len) p (onFrameTimeout p.server (buffer.drop len))
        | none => onFrameTimeout server (buffer.drop 1) := by
  unfold onFrameTimeout
  rw [drainRounds_enough server (Nat.le_refl _) (Nat.le_succ _), drainRounds]
  by_cases hlen : buffer.length < 4
  · rw [if_pos hlen, if_pos hlen]
  · rw [if_neg hlen, if_neg hlen]
    cases hfind : findFrame buffer with
    | none =>
      have hdrop : (buffer.drop 1).length = buffer.length - 1 := List.length_drop
      exact drainRounds_enough server (by omega) (Nat.le_refl _)
    | some len =>
      have hdrop : (buffer.drop len).length = buffer.length - len := List.length_drop
      dsimp only
      rw [drainRounds_enough _ (by omega) (Nat.le_refl _)]

/-! ## §4. Buffers of request frames -/

/-- The arguments a request of the function has. -/
def BodyOk (function : ModbusFunctionCode) (body : List UInt8) : Prop :=
  let quantity := (bytesToUInt16 body 2).toNat
  let byteCount := (body.getD 4 0).toNat
  match function with
  | .writeMultipleCoils => byteCount = (quantity + 7) / 8 ∧ body.length = 5 + byteCount
  | .writeMultipleRegisters => byteCount = quantity * 2 ∧ body.length = 5 + byteCount
  | _ => body.length = 4

/-- A well-formed request: unit, function, its arguments and the CRC, at most 256 bytes. -/
def IsRequestFrame (frame : List UInt8) : Prop :=
  ∃ unitId function body, frame = buildRtuResponse unitId (ModbusFunctionCode.code function :: body) ∧
    BodyOk function body ∧ frame.length ≤ 256

/-- No shorter prefix of the frame ends with its own CRC. -/
def NoEarlyFrame (frame : List UInt8) : Prop :=
  ∀ len, 4 ≤ len → len < frame.length → crcMatches (frame.take len) = false

/-- **What should happen**: the frames are processed one after another. -/
def processInOrder (server : ModbusRtuServer) : List (List UInt8) → Drained
  | [] => ⟨server, [], [], [], []⟩
  | frame :: frames =>
      let p := server.processRtuRequest frame
      .after frame p (processInOrder p.server frames)

theorem BodyOk.four_le {function : ModbusFunctionCode} {body : List UInt8}
    (h : BodyOk function body) : 4 ≤ body.length := by
  unfold BodyOk at h
  cases function <;> simp only at h <;> omega

/-- A built frame ends with its CRC. -/
theorem crcMatches_build (unitId : UInt8) (pdu : List UInt8) :
    crcMatches (buildRtuResponse unitId pdu) = true := by
  set crc := calculateCRC16 (unitId :: pdu) with hcrc
  have hframe : buildRtuResponse unitId pdu =
      (unitId :: pdu) ++ [crc.toUInt8, (crc >>> 8).toUInt8] := rfl
  set front := unitId :: pdu
  have hlen : (front ++ [crc.toUInt8, (crc >>> 8).toUInt8]).length = front.length + 2 := by simp
  have hhigh : front.length + 2 - 1 = front.length + 1 := by omega
  have hlow : front.length + 2 - 2 = front.length := by omega
  rw [crcMatches, hframe, hlen, hhigh, hlow]
  have hget : (front ++ [crc.toUInt8, (crc >>> 8).toUInt8]).getD (front.length + 1) 0 =
      (crc >>> 8).toUInt8 := by
    rw [List.getD_append_right _ _ _ _ (Nat.le_succ _)]
    simp
  have hget' : (front ++ [crc.toUInt8, (crc >>> 8).toUInt8]).getD front.length 0 =
      crc.toUInt8 := by
    rw [List.getD_append_right _ _ _ _ (Nat.le_refl _)]
    simp
  rw [hget, hget', List.take_left, join_bytes, ← hcrc]
  exact decide_eq_true rfl

variable {frame rest : List UInt8}

theorem IsRequestFrame.crc (h : IsRequestFrame frame) : crcMatches frame = true := by
  obtain ⟨unitId, function, body, rfl, -, -⟩ := h
  exact crcMatches_build _ _

theorem IsRequestFrame.eight_le (h : IsRequestFrame frame) : 8 ≤ frame.length := by
  obtain ⟨unitId, function, body, rfl, hbody, -⟩ := h
  have hfour := hbody.four_le
  simp only [buildRtuResponse, List.length_append, List.length_cons, List.length_nil]
  omega

/-- The scan finds the frame at the front of the buffer iff it meets no shorter one. -/
theorem findFrame_front (h : IsRequestFrame frame) :
    findFrame (frame ++ rest) = some frame.length ↔ NoEarlyFrame frame := by
  have height := h.eight_le
  have hshort : frame.length ≤ 256 := by
    obtain ⟨-, -, -, -, -, hle⟩ := h
    exact hle
  have htake : ∀ j ≤ frame.length, (frame ++ rest).take j = frame.take j :=
    fun j hj => List.take_append_of_le_length hj
  have hlen : (frame ++ rest).length = frame.length + rest.length := List.length_append
  rw [findFrame_eq_some, htake _ (Nat.le_refl _), List.take_length]
  constructor
  · intro hfind
    obtain ⟨-, -, hno⟩ := hfind
    intro j hj hlt
    rw [← htake j (Nat.le_of_lt hlt)]
    exact hno j hj hlt
  · intro hno
    refine ⟨h.crc, ⟨by omega, by omega, hshort⟩, ?_⟩
    intro j hj hlt
    rw [htake j (Nat.le_of_lt hlt)]
    exact hno j hj hlt

/-- One frame at the front of the buffer. -/
theorem onFrameTimeout_front (server : ModbusRtuServer) (h : IsRequestFrame frame)
    (hno : NoEarlyFrame frame) :
    onFrameTimeout server (frame ++ rest) =
      .after frame (server.processRtuRequest frame)
        (onFrameTimeout (server.processRtuRequest frame).server rest) := by
  have height := h.eight_le
  have hlen : ¬ (frame ++ rest).length < 4 := by
    rw [List.length_append]
    omega
  rw [onFrameTimeout_eq, if_neg hlen, (findFrame_front h).mpr hno]
  dsimp only
  rw [List.take_left, List.drop_left]

/-- With a request frame at the front the scan finds something. -/
theorem findFrame_isSome (h : IsRequestFrame frame) : findFrame (frame ++ rest) ≠ none := by
  have height := h.eight_le
  have hshort : frame.length ≤ 256 := by
    obtain ⟨-, -, -, -, -, hle⟩ := h
    exact hle
  have hlen : (frame ++ rest).length = frame.length + rest.length := List.length_append
  intro hnone
  unfold findFrame at hnone
  rw [List.find?_eq_none] at hnone
  have hmem : frame.length ∈ List.range' 4 (min (frame ++ rest).length 256 - 3) := by
    rw [List.mem_range'_1]
    omega
  have hcrc := hnone _ hmem
  rw [List.take_left] at hcrc
  exact hcrc h.crc

/-- What comes after a frame is determined by the whole. -/
theorem Drained.after_injective {p : RtuProcessed} {a b : Drained}
    (h : Drained.after frame p a = Drained.after frame p b) : a = b := by
  cases a with
  | mk serverA requestsA signalsA responsesA bufferA =>
  cases b with
  | mk serverB requestsB signalsB responsesB bufferB =>
    simp only [Drained.after, Drained.mk.injEq, List.cons.injEq, true_and,
      List.append_cancel_left_eq] at h
    obtain ⟨hserver, hrequests, hsignals, hresponses, hbuffer⟩ := h
    rw [hserver, hrequests, hsignals, hbuffer]
    by_cases hempty : p.response.isEmpty = true
    · rw [if_pos hempty, if_pos hempty] at hresponses
      rw [hresponses]
    · rw [if_neg hempty, if_neg hempty] at hresponses
      rw [(List.cons.inj hresponses).2]

/-- **Frames.**  A buffer that holds a sequence of request frames is taken as these frames,
which are answered in order and leave the buffer empty, iff no frame has a shorter prefix
that ends with its own CRC. -/
theorem frames_answered_iff (server : ModbusRtuServer) (frames : List (List UInt8))
    (hframes : ∀ frame ∈ frames, IsRequestFrame frame) :
    onFrameTimeout server frames.flatten = processInOrder server frames ↔
      ∀ frame ∈ frames, NoEarlyFrame frame := by
  induction frames generalizing server with
  | nil =>
    have hempty : onFrameTimeout server [] = processInOrder server [] := rfl
    simp only [List.flatten_nil, List.not_mem_nil, false_implies, implies_true, iff_true]
    exact hempty
  | cons frame frames ih =>
    have hframe := hframes frame (by simp)
    have ih' := ih (server.processRtuRequest frame).server
      fun f hf => hframes f (List.mem_cons_of_mem _ hf)
    rw [List.flatten_cons, processInOrder, List.forall_mem_cons]
    constructor
    · intro heq
      -- the first request is the frame, so the scan has met no shorter one
      have height := hframe.eight_le
      have hlen : ¬ (frame ++ frames.flatten).length < 4 := by
        rw [List.length_append]
        omega
      have hno : NoEarlyFrame frame := by
        rw [onFrameTimeout_eq, if_neg hlen] at heq
        cases hfind : findFrame (frame ++ frames.flatten) with
        | none => exact absurd hfind (findFrame_isSome hframe)
        | some len =>
          rw [hfind] at heq
          have hle := (findFrame_eq_some.mp hfind).2.1.2.1
          have hfirst : (frame ++ frames.flatten).take len = frame :=
            (List.cons.inj (congrArg Drained.requests heq)).1
          have hlast : len = frame.length := by
            rw [← hfirst, List.length_take]
            omega
          rw [← findFrame_front hframe, hfind, hlast]
      rw [onFrameTimeout_front server hframe hno] at heq
      exact ⟨hno, ih'.mp (Drained.after_injective heq)⟩
    · intro hno
      rw [onFrameTimeout_front server hframe hno.1, ih'.mpr hno.2]

/-- A server with unit 1 of a thousand cells each. -/
def oneUnit : ModbusRtuServer :=
  ⟨fun unitId => if unitId = 1 then some (ModbusDataArea.ofSize 1000) else none⟩

/-- Unit 1 is asked for one input register from this address. -/
def readInputRegister (high low : UInt8) : List UInt8 :=
  buildRtuResponse 1 (ModbusFunctionCode.code .readInputRegisters :: [high, low, 0, 1])

theorem readInputRegister_isRequestFrame (high low : UInt8) :
    IsRequestFrame (readInputRegister high low) :=
  ⟨1, .readInputRegisters, [high, low, 0, 1], rfl, rfl, by simp [readInputRegister, buildRtuResponse]⟩

/-- Two requests for register 0, one after the other. -/
theorem two_reads_answered :
    onFrameTimeout oneUnit [readInputRegister 0 0, readInputRegister 0 0].flatten =
      processInOrder oneUnit [readInputRegister 0 0, readInputRegister 0 0] := by
  refine (frames_answered_iff oneUnit [readInputRegister 0 0, readInputRegister 0 0] ?_).mpr ?_
  · intro frame hmem
    simp only [List.mem_cons, List.not_mem_nil, or_false, or_self] at hmem
    rw [hmem]
    exact readInputRegister_isRequestFrame 0 0
  · intro frame hmem len hfour hlt
    simp only [List.mem_cons, List.not_mem_nil, or_false, or_self] at hmem
    rw [hmem] at hlt ⊢
    have height : len < 8 := hlt
    interval_cases len <;> decide

/-- Register 0x01E3: the unit, the function and the address end with their own CRC, so four
bytes are taken for the request, and it is refused. -/
theorem read_at_crc_not_answered :
    IsRequestFrame (readInputRegister 0x01 0xE3) ∧
      (onFrameTimeout oneUnit (readInputRegister 0x01 0xE3)).responses ≠
        [(oneUnit.processRtuRequest (readInputRegister 0x01 0xE3)).response] := by
  refine ⟨readInputRegister_isRequestFrame _ _, ?_⟩
  decide +kernel

end ModbusRtuServer

end Stdiolink.Modbus
