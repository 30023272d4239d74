/-
  Stdiolink.Modbus.RtuMemory — the RTU servers as memories, over sequences of frames.

  A server is a memory of cells, named by unit, table and address.  Over a sequence of frames it
  keeps a log: the writes that the normally answered frames asked for.  What a read lists is what
  the log says was written last, or what was there at the beginning.

  Main results:
    * `handle_ok`                  — what a `case` of the `switch` does that does not refuse;
    * `memory_areasAfter`          — the server's memory is the log's, after any frames;
    * `rtu_servers_are_memories`   — reads, writes and refusals, for both servers;
    * `handleChecked_eq`           — no access is outside a data area.
-/
import Stdiolink.Modbus.ServersAgree
import Stdiolink.Modbus.MemoryModel
import Stdiolink.Lib.Checked

namespace Stdiolink.Modbus

open Stdiolink.Lib
open ModbusRtuSerialServer (pduOf)
open ModbusRtuServer (buildRtuResponse createRtuExceptionResponse)

/-! ## §1. Cells of a server, and its log -/

/-- The data areas of a server, by unit. -/
abbrev Areas := UInt8 → Option ModbusDataArea

/-- A cell of a server. -/
abbrev Cell := UInt8 × AreaCell

/-- The data areas, as one memory. -/
def memoryOf (areas : Areas) : Memory Cell CellValue :=
  fun (unitId, cell) => (areas unitId).bind fun area => area.memory cell

/-- A frame taken apart. -/
def unitOf (frame : List UInt8) : UInt8 := frame.getD 0 0

def functionOf (frame : List UInt8) : Option ModbusFunctionCode :=
  ModbusFunctionCode.ofByte (frame.getD 1 0)

def dataOf (frame : List UInt8) : List UInt8 := (frame.drop 2).take (frame.length - 4)

/-- The body of a normal answer: one without bit 7 in the function. -/
def normalBody (response : List UInt8) : Option (List UInt8) :=
  match pduOf response with
  | [] => none
  | fc :: body => if fc &&& 0x80 = 0 then some body else none

/-- The writes that a frame asks for. -/
def writesOf (frame : List UInt8) : List (Cell × CellValue) :=
  match functionOf frame with
  | none => []
  | some function =>
      (requested function (dataOf frame)).writes.map fun w => ((unitOf frame, w.1), w.2)

/-- What a server does with a frame: the data areas after it, and the response. -/
abbrev Process := Areas → List UInt8 → Areas × List UInt8

/-- `ModbusRtuServer::processRtuRequest`. -/
def rtuProcess : Process := fun areas frame =>
  let p := ModbusRtuServer.processRtuRequest ⟨areas⟩ frame
  (p.server.unitDataAreas, p.response)

/-- `ModbusRtuSerialServer::processRtuRequest`. -/
def serialProcess : Process := fun areas frame =>
  let p := ModbusRtuSerialServer.processRtuRequest ⟨areas⟩ frame
  (p.server.unitDataAreas, p.response)

/-- The data areas after some frames. -/
def areasAfter (process : Process) (areas : Areas) (frames : List (List UInt8)) : Areas :=
  frames.foldl (fun areas frame => (process areas frame).1) areas

/-- **The log**: the writes of the frames that were answered normally, in order. -/
def logOf (process : Process) (areas : Areas) : List (List UInt8) → List (Cell × CellValue)
  | [] => []
  | frame :: frames =>
    (if (normalBody (process areas frame).2).isSome then writesOf frame else []) ++
      logOf process (process areas frame).1 frames

/-- What was last written to a cell, or what it held at the beginning. -/
def lastValue (initial : Areas) (log : List (Cell × CellValue)) (cell : Cell) :
    Option CellValue :=
  (memoryOf initial cell).map fun value => (Memory.lastWritten log cell).getD value

/-- **A request that can be carried out**: its unit is there, its arguments are complete and within
the limits, and all its cells are there. -/
def ValidRequest (now : Areas) (frame : List UInt8) : Prop :=
  ∃ function area, functionOf frame = some function ∧ now (unitOf frame) = some area ∧
    ModbusTcpServer.argumentsOk function (dataOf frame) = true ∧
    (requested function (dataOf frame)).WithinLimits ∧
    (∀ cell ∈ (requested function (dataOf frame)).cells, (area.memory cell).isSome) ∧
    CoilValueOk function (dataOf frame)

/-- **A server is a memory**, on these frames.  After any of them, the next one has a normal answer
if it can be carried out.  Otherwise it is answered with an exception, or not at all, and changes
nothing; and the normal answer lists what was last written to the cells that the frame names, and
just the cells that it names are written. -/
def IsMemory (process : Process) (Frame : List UInt8 → Prop) : Prop :=
  ∀ (initial : Areas) (frames : List (List UInt8)) (frame : List UInt8),
    (∀ f ∈ frames, Frame f) → Frame frame →
      let now := areasAfter process initial frames
      let log := logOf process initial frames
      let next := (process now frame).1
      ((normalBody (process now frame).2).isSome ↔ ValidRequest now frame) ∧
      match normalBody (process now frame).2 with
      | none => next = now
      | some body =>
        ∃ function area, functionOf frame = some function ∧ now (unitOf frame) = some area ∧
          ModbusTcpServer.NormalBody area function (dataOf frame) body ∧
          (listed (requested function (dataOf frame)) body).map some =
            (requested function (dataOf frame)).reads.map
              (fun cell => lastValue initial log (unitOf frame, cell)) ∧
          (∀ w ∈ writesOf frame, memoryOf next w.1 = some w.2) ∧
          ∀ cell ∉ (writesOf frame).map Prod.fst, memoryOf next cell = memoryOf now cell

/-! ## §2. The `switch` -/

section Switch

open ModbusTcpServer (argumentsOk handlerAccepts NormalBody)

variable {unitId : UInt8} {area : ModbusDataArea} {function : ModbusFunctionCode}
  {data : List UInt8} {handled : RtuHandled}

/-- Where the checks of the TCP server fail, the `case` refuses. -/
theorem checks_of_handle (h : ModbusRtuServer.handle unitId area data function = .ok handled) :
    argumentsOk function data = true ∧ handlerAccepts area function data = true := by
  refine ⟨?_, ?_⟩
  · by_contra hbad
    rw [handle_badArguments unitId (Bool.eq_false_iff.mpr hbad)] at h
    cases h
  · by_contra hbad
    obtain ⟨exception, herror⟩ := handle_refused_error unitId (Bool.eq_false_iff.mpr hbad)
    rw [herror] at h
    cases h

/-- **A `case` that does not refuse** performs the operation that was asked for. -/
theorem handle_ok (h : ModbusRtuServer.handle unitId area data function = .ok handled) :
    ∃ body, handled.pdu = function.code :: body ∧ NormalBody area function data body ∧
      (requested function data).perform area.memory =
        some (handled.area.memory, listed (requested function data) body) := by
  obtain ⟨hargs, hacc⟩ := checks_of_handle h
  have hsame := handle_accepted_eq ⟨0, 0, 0, unitId⟩ hargs hacc
  obtain ⟨body, hresponse, -, hnormal, hperform⟩ := handle_performs ⟨0, 0, 0, unitId⟩ hargs hacc
  obtain rfl := Except.ok.inj (h.symm.trans hsame)
  exact ⟨body, hresponse, hnormal, hperform⟩

end Switch

/-! ## §3. One frame -/

section Frames

variable {areas : Areas} {frame : List UInt8}

theorem normalBody_build (unitId : UInt8) (function : ModbusFunctionCode) (body : List UInt8) :
    normalBody (buildRtuResponse unitId (function.code :: body)) = some body := by
  rw [normalBody, ModbusRtuSerialServer.pduOf_build]
  exact if_pos function.code_highBit

theorem normalBody_exception (unitId fc : UInt8) (exception : ModbusException) :
    normalBody (createRtuExceptionResponse unitId fc exception) = none := by
  rw [normalBody, createRtuExceptionResponse, ModbusRtuSerialServer.pduOf_build]
  exact if_neg (highBit_set fc)

/-- A request that can be carried out has all the bytes of a frame. -/
theorem ValidRequest.length (h : ValidRequest areas frame) : 4 ≤ frame.length := by
  obtain ⟨function, area, -, -, hargs, -⟩ := h
  have hdata := ModbusTcpServer.argumentsOk_length hargs
  unfold dataOf at hdata
  simp only [List.length_take, List.length_drop] at hdata
  omega

theorem not_valid_of_noUnit (h : areas (unitOf frame) = none) : ¬ ValidRequest areas frame := by
  rintro ⟨-, area, -, harea, -⟩
  cases h.symm.trans harea

/-- No `case` refuses a request that can be carried out. -/
theorem ValidRequest.handled {area : ModbusDataArea} {function : ModbusFunctionCode}
    (h : ValidRequest areas frame) (harea : areas (unitOf frame) = some area)
    (hfunction : functionOf frame = some function) :
    ∃ handled,
      ModbusRtuServer.handle (unitOf frame) area (dataOf frame) function = .ok handled := by
  obtain ⟨f, a, hf, ha, hargs, hlimits, hcells, hvalue⟩ := h
  obtain rfl := Option.some.inj (hf.symm.trans hfunction)
  obtain rfl := Option.some.inj (ha.symm.trans harea)
  exact ⟨_, handle_accepted_eq ⟨0, 0, 0, unitOf frame⟩ hargs
    (accepts_iff.mpr ⟨hlimits, hcells, hvalue⟩)⟩

/-- What a server does with one frame: a `case` of the `switch` is done, or nothing is. -/
def Switches (process : Process) (Frame : List UInt8 → Prop) : Prop :=
  ∀ areas frame, Frame frame →
    (∃ area function handled, areas (unitOf frame) = some area ∧
      functionOf frame = some function ∧
      ModbusRtuServer.handle (unitOf frame) area (dataOf frame) function = .ok handled ∧
      process areas frame = (fun u => if u = unitOf frame then some handled.area else areas u,
        buildRtuResponse (unitOf frame) handled.pdu)) ∨
    ∃ response, process areas frame = (areas, response) ∧ normalBody response = none ∧
      ¬ ValidRequest areas frame

/-- The `switch`, for a unit that is there. -/
theorem switches_found {process : Process} {area : ModbusDataArea}
    (harea : areas (unitOf frame) = some area)
    (hresponse : (process areas frame).2 = buildRtuResponse (unitOf frame)
      (resultPdu (frame.getD 1 0)
        (switchResult (unitOf frame) area (frame.getD 1 0) (dataOf frame))))
    (hareas : (process areas frame).1 = resultAreas areas (unitOf frame)
      (switchResult (unitOf frame) area (frame.getD 1 0) (dataOf frame))) :
    (∃ area function handled, areas (unitOf frame) = some area ∧
      functionOf frame = some function ∧
      ModbusRtuServer.handle (unitOf frame) area (dataOf frame) function = .ok handled ∧
      process areas frame = (fun u => if u = unitOf frame then some handled.area else areas u,
        buildRtuResponse (unitOf frame) handled.pdu)) ∨
    ∃ response, process areas frame = (areas, response) ∧ normalBody response = none ∧
      ¬ ValidRequest areas frame := by
  unfold switchResult at hresponse hareas
  cases hfunction : ModbusFunctionCode.ofByte (frame.getD 1 0) with
  | none =>
    rw [hfunction] at hresponse hareas
    refine Or.inr ⟨_, Prod.ext hareas hresponse, normalBody_exception _ _ _, ?_⟩
    rintro ⟨f, -, hf, -⟩
    cases hf.symm.trans hfunction
  | some function =>
    rw [hfunction] at hresponse hareas
    dsimp only at hresponse hareas
    cases hhandle : ModbusRtuServer.handle (unitOf frame) area (dataOf frame) function with
    | error exception =>
      rw [hhandle] at hresponse hareas
      refine Or.inr ⟨_, Prod.ext hareas hresponse, normalBody_exception _ _ _, ?_⟩
      intro hvalid
      obtain ⟨handled, hok⟩ := hvalid.handled harea hfunction
      cases hok.symm.trans hhandle
    | ok handled =>
      rw [hhandle] at hresponse hareas
      exact Or.inl ⟨area, function, handled, harea, hfunction, hhandle,
        Prod.ext hareas hresponse⟩

theorem rtuProcess_switches : Switches rtuProcess fun _ => True := by
  intro areas frame _
  by_cases hshort : frame.length < 4
  · unfold rtuProcess ModbusRtuServer.processRtuRequest
    rw [if_pos hshort]
    exact Or.inr ⟨[], rfl, rfl, fun h => absurd h.length (by omega)⟩
  · obtain harea | ⟨area, harea⟩ := Option.eq_none_or_eq_some (areas (unitOf frame))
    · unfold unitOf at harea
      unfold rtuProcess ModbusRtuServer.processRtuRequest
      rw [if_neg hshort]
      dsimp only
      rw [harea]
      exact Or.inr ⟨_, rfl, normalBody_exception _ _ _, not_valid_of_noUnit harea⟩
    · obtain ⟨hresponse, hareas⟩ := rtuRequest_found ⟨areas⟩ hshort harea
      exact switches_found harea hresponse hareas

theorem serialProcess_switches : Switches serialProcess fun frame => unitOf frame ≠ 0 := by
  intro areas frame hunit
  have hzero : ¬ frame.getD 0 0 = 0 := hunit
  by_cases hshort : frame.length < 4
  · unfold serialProcess ModbusRtuSerialServer.processRtuRequest
    rw [if_pos hshort]
    exact Or.inr ⟨[], rfl, rfl, fun h => absurd h.length (by omega)⟩
  · obtain harea | ⟨area, harea⟩ := Option.eq_none_or_eq_some (areas (unitOf frame))
    · unfold unitOf at harea
      unfold serialProcess ModbusRtuSerialServer.processRtuRequest
      rw [if_neg hshort]
      dsimp only
      rw [if_neg hzero, harea]
      exact Or.inr ⟨[], rfl, rfl, not_valid_of_noUnit harea⟩
    · obtain ⟨hresponse, hareas⟩ := serialRequest_found ⟨areas⟩ hshort hunit harea
      exact switches_found harea hresponse hareas

/-- One data area is replaced by what a log makes of it. -/
theorem memoryOf_update {unitId : UInt8} {area area' : ModbusDataArea}
    {log : List (AreaCell × CellValue)} (harea : areas unitId = some area)
    (hlog : area'.memory = area.memory.writeAll log) :
    memoryOf (fun u => if u = unitId then some area' else areas u) =
      (memoryOf areas).writeAll (log.map fun w => ((unitId, w.1), w.2)) := by
  funext cell
  obtain ⟨u, cell⟩ := cell
  rw [Memory.writeAll_inner]
  by_cases hu : u = unitId
  · have hunit : (fun cell => memoryOf areas (unitId, cell)) = area.memory := by
      funext cell
      simp only [memoryOf, harea, Option.bind_some]
    rw [if_pos hu, hunit, ← hlog]
    simp only [memoryOf, if_pos hu, Option.bind_some]
  · rw [if_neg hu]
    simp only [memoryOf, if_neg hu]

end Frames

/-! ## §4. Sequences of frames -/

section Sequences

variable {process : Process} {Frame : List UInt8 → Prop}

/-- **The memory after one frame** is the one before it, with the writes of a normally answered
frame. -/
theorem memory_process (hprocess : Switches process Frame) (areas : Areas) {frame : List UInt8}
    (hframe : Frame frame) :
    memoryOf (process areas frame).1 =
      (memoryOf areas).writeAll
        (if (normalBody (process areas frame).2).isSome then writesOf frame else []) := by
  obtain ⟨area, function, handled, harea, hfunction, hhandle, hnext⟩ |
      ⟨response, hnext, hnone, -⟩ := hprocess areas frame hframe
  · obtain ⟨body, hpdu, -, hperform⟩ := handle_ok hhandle
    rw [hnext, hpdu, normalBody_build]
    simp only [Option.isSome_some, if_true, writesOf, hfunction]
    apply memoryOf_update harea
    unfold Operation.perform at hperform
    split_ifs at hperform
    exact (Prod.mk.inj (Option.some.inj hperform)).1.symm
  · rw [hnext]
    simp only [hnone, Option.isSome_none, Bool.false_eq_true, if_false, Memory.writeAll_nil]

/-- **The memory after any frames** is the one at the beginning, with the writes of the log. -/
theorem memory_areasAfter (hprocess : Switches process Frame) (frames : List (List UInt8)) :
    ∀ initial : Areas, (∀ f ∈ frames, Frame f) →
      memoryOf (areasAfter process initial frames) =
        (memoryOf initial).writeAll (logOf process initial frames) := by
  induction frames with
  | nil => intro initial _; rfl
  | cons frame frames ih =>
    intro initial hframes
    have hrest := ih (process initial frame).1
      fun f hf => hframes f (List.mem_cons_of_mem _ hf)
    rw [logOf, Memory.writeAll_append, ← memory_process hprocess initial
      (hframes frame List.mem_cons_self), ← hrest]
    rfl

theorem map_some_filterMap {α β : Type} {m : α → Option β} {xs : List α}
    (h : ∀ x ∈ xs, (m x).isSome) : (xs.filterMap m).map some = xs.map m := by
  induction xs with
  | nil => rfl
  | cons x xs ih =>
    obtain ⟨value, hvalue⟩ := Option.isSome_iff_exists.mp (h x List.mem_cons_self)
    rw [List.filterMap_cons_some hvalue, List.map_cons, List.map_cons, hvalue,
      ih fun y hy => h y (List.mem_cons_of_mem _ hy)]

/-- A server that does the cases of the `switch` is a memory. -/
theorem isMemory_of_switches (hprocess : Switches process Frame) : IsMemory process Frame := by
  intro initial frames frame hframes hframe
  dsimp only
  have hmemory := memory_areasAfter hprocess frames initial hframes
  have hafter := memory_process hprocess (areasAfter process initial frames) hframe
  revert hmemory hafter
  generalize areasAfter process initial frames = now
  intro hmemory hafter
  obtain ⟨area, function, handled, harea, hfunction, hhandle, hnext⟩ |
      ⟨response, hnext, hnone, hrefused⟩ := hprocess now frame hframe
  · -- a normal answer: the operation was performed on the memory of the log
    obtain ⟨body, hpdu, hnormal, hperform⟩ := handle_ok hhandle
    have hbody : normalBody (process now frame).2 = some body := by
      rw [hnext, hpdu]
      exact normalBody_build _ _ _
    rw [hbody] at hafter ⊢
    rw [Option.isSome_some, if_pos rfl] at hafter
    unfold Operation.perform at hperform
    split_ifs at hperform with hthere
    rw [List.all_eq_true] at hthere
    have hlisted := (Prod.mk.inj (Option.some.inj hperform)).2
    have hcell : ∀ cell, memoryOf now (unitOf frame, cell) = area.memory cell := by
      intro cell
      simp only [memoryOf, harea, Option.bind_some]
    have hwrites : writesOf frame = (requested function (dataOf frame)).writes.map
        fun w => ((unitOf frame, w.1), w.2) := by
      simp only [writesOf, hfunction]
    obtain ⟨hargs, hacc⟩ := checks_of_handle hhandle
    refine ⟨iff_of_true rfl ⟨function, area, hfunction, harea, hargs, accepts_iff.mp hacc⟩,
      function, area, hfunction, harea, hnormal, ?_, ?_, ?_⟩
    · -- what is read is in the memory, which is the log's
      have hlast : ∀ cell, lastValue initial (logOf process initial frames) (unitOf frame, cell) =
          area.memory cell := by
        intro cell
        rw [← hcell, hmemory, Memory.writeAll_apply]
        rfl
      simp only [hlast]
      rw [← hlisted]
      apply map_some_filterMap
      exact fun cell hmem => hthere cell (List.mem_append_left _ hmem)
    · -- no cell is written twice, so each has its own value afterwards
      intro w hmem
      rw [hafter, hwrites]
      rw [hwrites] at hmem
      obtain ⟨⟨cell, value⟩, hw, rfl⟩ := List.mem_map.mp hmem
      refine Memory.writeAll_of_mem _ ?_ hmem ?_
      · rw [List.map_map]
        have hpairs : (requested function (dataOf frame)).writes.map
            (Prod.fst ∘ fun w => ((unitOf frame, w.1), w.2)) =
            ((requested function (dataOf frame)).writes.map Prod.fst).map
              (Prod.mk (unitOf frame)) := by
          rw [List.map_map]
          rfl
        rw [hpairs]
        exact (writes_nodup _).map (Prod.mk_right_injective _)
      · rw [hcell]
        exact hthere cell (List.mem_append_right _ (List.mem_map.mpr ⟨_, hw, rfl⟩))
    · intro cell hnot
      rw [hafter]
      exact Memory.writeAll_of_notMem _ hnot
  · -- an exception, or no answer at all
    rw [hnext]
    rw [hnone]
    exact ⟨iff_of_false (by simp) hrefused, rfl⟩

end Sequences

/-! ## §5. The `switch`, with its accesses checked -/

section Checked

variable (unitId : UInt8) (area : ModbusDataArea) (data : List UInt8)

/-- The cases that read bits. -/
def readBitsChecked (function : ModbusFunctionCode) (bits : List Bool) :
    Option (Except ModbusException RtuHandled) :=
  if data.length < 4 then some (.error .illegalDataValue)
  else
    let startAddr := bytesToUInt16 data 0
    let qty := bytesToUInt16 data 2
    if qty < 1 || qty > 2000 || startAddr.toNat + qty.toNat > bits.length then
      some (.error .illegalDataAddress)
    else do
      let byteCount := (qty.toNat + 7) / 8
      let bytes ← (List.range byteCount).mapM fun i => do
        -- the bits behind the quantity are not looked up
        let byte ← (List.range 8).mapM fun bit =>
          if i * 8 + bit < qty.toNat then bits[startAddr.toNat + i * 8 + bit]? else some false
        return UInt8.ofNat (packBits (byte.getD · false) 8)
      return .ok ⟨area, [.dataRead unitId function startAddr qty],
        function.code :: UInt8.ofNat byteCount :: bytes⟩

/-- The cases that read registers. -/
def readRegistersChecked (function : ModbusFunctionCode) (registers : List UInt16) :
    Option (Except ModbusException RtuHandled) :=
  if data.length < 4 then some (.error .illegalDataValue)
  else
    let startAddr := bytesToUInt16 data 0
    let qty := bytesToUInt16 data 2
    if qty < 1 || qty > 125 || startAddr.toNat + qty.toNat > registers.length then
      some (.error .illegalDataAddress)
    else do
      let words ← (List.range qty.toNat).mapM fun i => registers[startAddr.toNat + i]?
      return .ok ⟨area, [.dataRead unitId function startAddr qty],
        function.code :: UInt8.ofNat (qty.toNat * 2) :: words.flatMap uint16ToBytes⟩

def writeSingleCoilChecked : Option (Except ModbusException RtuHandled) :=
  if data.length < 4 then some (.error .illegalDataValue)
  else
    let addr := bytesToUInt16 data 0
    let val := bytesToUInt16 data 2
    if addr.toNat ≥ area.coils.length then some (.error .illegalDataAddress)
    else if val ≠ 0x0000 && val ≠ 0xFF00 then some (.error .illegalDataValue)
    else do
      let coils ← setChecked area.coils addr.toNat (val = 0xFF00)
      return .ok ⟨{ area with coils := coils }, [.dataWritten unitId .writeSingleCoil addr 1],
        ModbusRtuServer.echoPdu .writeSingleCoil addr val⟩

def writeSingleRegisterChecked : Option (Except ModbusException RtuHandled) :=
  if data.length < 4 then some (.error .illegalDataValue)
  else
    let addr := bytesToUInt16 data 0
    let val := bytesToUInt16 data 2
    if addr.toNat ≥ area.holdingRegisters.length then some (.error .illegalDataAddress)
    else do
      let registers ← setChecked area.holdingRegisters addr.toNat val
      return .ok ⟨{ area with holdingRegisters := registers },
        [.dataWritten unitId .writeSingleRegister addr 1],
        ModbusRtuServer.echoPdu .writeSingleRegister addr val⟩

def writeMultipleCoilsChecked : Option (Except ModbusException RtuHandled) :=
  if data.length < 5 then some (.error .illegalDataValue)
  else
    let startAddr := bytesToUInt16 data 0
    let qty := bytesToUInt16 data 2
    let byteCount := (data.getD 4 0).toNat
    if qty < 1 || qty > 1968 || byteCount ≠ (qty.toNat + 7) / 8 ||
        data.length < 5 + byteCount then
      some (.error .illegalDataValue)
    else if startAddr.toNat + qty.toNat > area.coils.length then some (.error .illegalDataAddress)
    else do
      let coils ← (List.range qty.toNat).foldlM
        (fun cells i => setChecked cells (startAddr.toNat + i) (bitAt (data.drop 5) i)) area.coils
      return .ok ⟨{ area with coils := coils },
        [.dataWritten unitId .writeMultipleCoils startAddr qty],
        ModbusRtuServer.echoPdu .writeMultipleCoils startAddr qty⟩

def writeMultipleRegistersChecked : Option (Except ModbusException RtuHandled) :=
  if data.length < 5 then some (.error .illegalDataValue)
  else
    let startAddr := bytesToUInt16 data 0
    let qty := bytesToUInt16 data 2
    let byteCount := (data.getD 4 0).toNat
    if qty < 1 || qty > 123 || byteCount ≠ qty.toNat * 2 || data.length < 5 + byteCount then
      some (.error .illegalDataValue)
    else if startAddr.toNat + qty.toNat > area.holdingRegisters.length then
      some (.error .illegalDataAddress)
    else do
      let registers ← (List.range qty.toNat).foldlM
        (fun cells i => setChecked cells (startAddr.toNat + i) (bytesToUInt16 data (5 + i * 2)))
        area.holdingRegisters
      return .ok ⟨{ area with holdingRegisters := registers },
        [.dataWritten unitId .writeMultipleRegisters startAddr qty],
        ModbusRtuServer.echoPdu .writeMultipleRegisters startAddr qty⟩

/-- The `switch (fc)`: there is no result where a `case` would access a cell that is not there. -/
def handleChecked : ModbusFunctionCode → Option (Except ModbusException RtuHandled)
  | .readCoils => readBitsChecked unitId area data .readCoils area.coils
  | .readDiscreteInputs =>
      readBitsChecked unitId area data .readDiscreteInputs area.discreteInputs
  | .readHoldingRegisters =>
      readRegistersChecked unitId area data .readHoldingRegisters area.holdingRegisters
  | .readInputRegisters =>
      readRegistersChecked unitId area data .readInputRegisters area.inputRegisters
  | .writeSingleCoil => writeSingleCoilChecked unitId area data
  | .writeSingleRegister => writeSingleRegisterChecked unitId area data
  | .writeMultipleCoils => writeMultipleCoilsChecked unitId area data
  | .writeMultipleRegisters => writeMultipleRegistersChecked unitId area data

variable (function : ModbusFunctionCode)

theorem readBitsChecked_eq (bits : List Bool) :
    readBitsChecked unitId area data function bits =
      some (ModbusRtuServer.readBits unitId area data function bits) := by
  unfold readBitsChecked ModbusRtuServer.readBits
  dsimp only
  split_ifs with hshort hout
  · rfl
  · rfl
  · simp only [Bool.or_eq_true, decide_eq_true_eq, not_or, Nat.not_lt] at hout
    obtain ⟨-, hsize⟩ := hout
    set startAddr := bytesToUInt16 data 0
    set qty := bytesToUInt16 data 2
    -- the eight bits of one byte
    have hbyte : ∀ i, (List.range 8).mapM (fun bit =>
        if i * 8 + bit < qty.toNat then bits[startAddr.toNat + i * 8 + bit]? else some false) =
        some ((List.range 8).map fun bit => decide (i * 8 + bit < qty.toNat) &&
          bits.getD (startAddr.toNat + i * 8 + bit) false) := by
      intro i
      apply mapM_eq_some_map
      intro bit _
      by_cases hbit : i * 8 + bit < qty.toNat
      · have hin : startAddr.toNat + i * 8 + bit < bits.length := by omega
        simp [hbit, hin]
      · simp [hbit]
    have hpacked : ∀ i, (do
        let byte ← (List.range 8).mapM fun bit =>
          if i * 8 + bit < qty.toNat then bits[startAddr.toNat + i * 8 + bit]? else some false
        return UInt8.ofNat (packBits (byte.getD · false) 8)) =
        some (UInt8.ofNat (packBits (fun bit => decide (i * 8 + bit < qty.toNat) &&
          bits.getD (startAddr.toNat + i * 8 + bit) false) 8)) := by
      intro i
      rw [hbyte]
      show some _ = some _
      rw [packBits_congr]
      intro bit hbit
      simp [hbit]
    rw [mapM_eq_some_map fun i _ => hpacked i]
    rfl

theorem readRegistersChecked_eq (registers : List UInt16) :
    readRegistersChecked unitId area data function registers =
      some (ModbusRtuServer.readRegisters unitId area data function registers) := by
  unfold readRegistersChecked ModbusRtuServer.readRegisters
  dsimp only
  split_ifs with hshort hout
  · rfl
  · rfl
  · simp only [Bool.or_eq_true, decide_eq_true_eq, not_or, Nat.not_lt] at hout
    obtain ⟨-, hsize⟩ := hout
    have hword : ∀ i ∈ List.range (bytesToUInt16 data 2).toNat,
        registers[(bytesToUInt16 data 0).toNat + i]? =
          some (registers.getD ((bytesToUInt16 data 0).toNat + i) 0) := by
      intro i hi
      rw [List.mem_range] at hi
      have hin : (bytesToUInt16 data 0).toNat + i < registers.length := by omega
      simp [hin]
    rw [mapM_eq_some_map hword]
    show some _ = some _
    rw [List.flatMap_map]

theorem writeSingleCoilChecked_eq :
    writeSingleCoilChecked unitId area data =
      some (ModbusRtuServer.writeSingleCoil unitId area data) := by
  unfold writeSingleCoilChecked ModbusRtuServer.writeSingleCoil
  dsimp only
  split_ifs with hshort hout
  · rfl
  · rfl
  · rfl
  · rw [setChecked, if_pos (Nat.lt_of_not_le hout)]
    rfl

theorem writeSingleRegisterChecked_eq :
    writeSingleRegisterChecked unitId area data =
      some (ModbusRtuServer.writeSingleRegister unitId area data) := by
  unfold writeSingleRegisterChecked ModbusRtuServer.writeSingleRegister
  dsimp only
  split_ifs with hshort hout
  · rfl
  · rfl
  · rw [setChecked, if_pos (Nat.lt_of_not_le hout)]
    rfl

theorem writeMultipleCoilsChecked_eq :
    writeMultipleCoilsChecked unitId area data =
      some (ModbusRtuServer.writeMultipleCoils unitId area data) := by
  unfold writeMultipleCoilsChecked ModbusRtuServer.writeMultipleCoils
  dsimp only
  split_ifs with hshort hbad hout
  · rfl
  · rfl
  · rfl
  · rw [foldlM_setChecked _ _ _ _ (Nat.le_of_not_lt hout)]
    rfl

theorem writeMultipleRegistersChecked_eq :
    writeMultipleRegistersChecked unitId area data =
      some (ModbusRtuServer.writeMultipleRegisters unitId area data) := by
  unfold writeMultipleRegistersChecked ModbusRtuServer.writeMultipleRegisters
  dsimp only
  split_ifs with hshort hbad hout
  · rfl
  · rfl
  · rfl
  · rw [foldlM_setChecked _ _ _ _ (Nat.le_of_not_lt hout)]
    rfl

/-- **No access is outside a data area.** -/
theorem handleChecked_eq :
    handleChecked unitId area data function =
      some (ModbusRtuServer.handle unitId area data function) := by
  cases function with
  | readCoils => exact readBitsChecked_eq unitId area data _ _
  | readDiscreteInputs => exact readBitsChecked_eq unitId area data _ _
  | readHoldingRegisters => exact readRegistersChecked_eq unitId area data _ _
  | readInputRegisters => exact readRegistersChecked_eq unitId area data _ _
  | writeSingleCoil => exact writeSingleCoilChecked_eq unitId area data
  | writeSingleRegister => exact writeSingleRegisterChecked_eq unitId area data
  | writeMultipleCoils => exact writeMultipleCoilsChecked_eq unitId area data
  | writeMultipleRegisters => exact writeMultipleRegistersChecked_eq unitId area data

end Checked

/-- **The RTU servers implement the memory model**: the RTU-over-TCP server on all frames, the
serial server on those that are not for unit 0, and neither accesses a cell that is not there. -/
theorem rtu_servers_are_memories :
    IsMemory rtuProcess (fun _ => True) ∧ IsMemory serialProcess (fun frame => unitOf frame ≠ 0) ∧
      ∀ unitId area data function,
        handleChecked unitId area data function =
          some (ModbusRtuServer.handle unitId area data function) :=
  ⟨isMemory_of_switches rtuProcess_switches, isMemory_of_switches serialProcess_switches,
    fun unitId area data function => handleChecked_eq unitId area data function⟩

end Stdiolink.Modbus
