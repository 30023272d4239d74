/-
  Stdiolink.Modbus.MemoryModel — what a Modbus unit is for.

  A unit is four tables of cells, two of coils and two of registers.  An operation names cells that
  it reads, or cells and the values that it writes; it is performed if all its cells are there, and
  not at all otherwise.  The handlers of the server do that with the lists of a data area.

  Main results:
    * `perform_eq_some`   — when an operation is performed, and with what;
    * `accepts_iff`       — the checks of a handler ask for the cells of the operation;
    * `handle_performs`   — a handler that accepts performs the operation that was asked for.
-/
import Stdiolink.Modbus.TcpServer
import Stdiolink.Lib.Memory
import Mathlib.Data.List.Nodup

namespace Stdiolink.Modbus

open Stdiolink.Lib

/-! ## §1. Cells -/

/-- The four tables of a data area. -/
inductive Table where
  | coils
  | discreteInputs
  | holdingRegisters
  | inputRegisters
  deriving Repr, DecidableEq

inductive CellValue where
  | coil (on : Bool)
  | register (word : UInt16)
  deriving Repr, DecidableEq

/-- A cell of a unit. -/
abbrev AreaCell := Table × Nat

/-- The lists of a data area, as a memory. -/
def ModbusDataArea.memory (area : ModbusDataArea) : Memory AreaCell CellValue
  | (.coils, address) => area.coils[address]?.map .coil
  | (.discreteInputs, address) => area.discreteInputs[address]?.map .coil
  | (.holdingRegisters, address) => area.holdingRegisters[address]?.map .register
  | (.inputRegisters, address) => area.inputRegisters[address]?.map .register

/-! ## §2. Operations -/

/-- The operations of Modbus, with their arguments. -/
inductive Operation where
  | readCoils (address count : UInt16)
  | readDiscreteInputs (address count : UInt16)
  | readHoldingRegisters (address count : UInt16)
  | readInputRegisters (address count : UInt16)
  | writeSingleCoil (address : UInt16) (value : Bool)
  | writeSingleRegister (address value : UInt16)
  | writeMultipleCoils (address : UInt16) (values : List Bool)
  | writeMultipleRegisters (address : UInt16) (values : List UInt16)
  deriving Repr, DecidableEq

namespace Operation

/-- `count` cells of a table from an address on. -/
def cellsFrom (table : Table) (address count : Nat) : List AreaCell :=
  (List.range count).map fun i => (table, address + i)

/-- The cells that are read. -/
def reads : Operation → List AreaCell
  | readCoils address count => cellsFrom .coils address.toNat count.toNat
  | readDiscreteInputs address count => cellsFrom .discreteInputs address.toNat count.toNat
  | readHoldingRegisters address count => cellsFrom .holdingRegisters address.toNat count.toNat
  | readInputRegisters address count => cellsFrom .inputRegisters address.toNat count.toNat
  | _ => []

/-- The cells that are written, with their values. -/
def writes : Operation → List (AreaCell × CellValue)
  | writeSingleCoil address value => [((.coils, address.toNat), .coil value)]
  | writeSingleRegister address value => [((.holdingRegisters, address.toNat), .register value)]
  | writeMultipleCoils address values =>
      (List.range values.length).map fun i =>
        ((.coils, address.toNat + i), .coil (values.getD i false))
  | writeMultipleRegisters address values =>
      (List.range values.length).map fun i =>
        ((.holdingRegisters, address.toNat + i), .register (values.getD i 0))
  | _ => []

/-- All cells of the operation. -/
def cells (op : Operation) : List AreaCell := op.reads ++ op.writes.map Prod.fst

/-- **What an operation does**: if its cells are there, it writes what it writes, and it yields what
its cells held. -/
def perform (op : Operation) (m : Memory AreaCell CellValue) :
    Option (Memory AreaCell CellValue × List CellValue) :=
  if op.cells.all fun cell => (m cell).isSome then
    some (m.writeAll op.writes, op.reads.filterMap m)
  else none

/-- The quantities that the protocol allows. -/
def WithinLimits : Operation → Prop
  | readCoils _ count | readDiscreteInputs _ count => 1 ≤ count.toNat ∧ count.toNat ≤ 2000
  | readHoldingRegisters _ count | readInputRegisters _ count =>
      1 ≤ count.toNat ∧ count.toNat ≤ 125
  | writeMultipleCoils _ values => 1 ≤ values.length ∧ values.length ≤ 1968
  | writeMultipleRegisters _ values => 1 ≤ values.length ∧ values.length ≤ 123
  | _ => True

instance (op : Operation) : Decidable op.WithinLimits := by
  cases op <;> unfold WithinLimits <;> infer_instance

theorem perform_eq_some {op : Operation} {m : Memory AreaCell CellValue}
    (h : ∀ cell ∈ op.cells, (m cell).isSome) :
    op.perform m = some (m.writeAll op.writes, op.reads.filterMap m) :=
  if_pos (List.all_eq_true.mpr h)

theorem perform_eq_none {op : Operation} {m : Memory AreaCell CellValue}
    (h : ¬ ∀ cell ∈ op.cells, (m cell).isSome) : op.perform m = none :=
  if_neg fun hall => h (List.all_eq_true.mp hall)

end Operation

/-- The operation that the function and the arguments of a request ask for. -/
def requested (function : ModbusFunctionCode) (body : List UInt8) : Operation :=
  let first := bytesToUInt16 body 0
  let second := bytesToUInt16 body 2
  match function with
  | .readCoils => .readCoils first second
  | .readDiscreteInputs => .readDiscreteInputs first second
  | .readHoldingRegisters => .readHoldingRegisters first second
  | .readInputRegisters => .readInputRegisters first second
  | .writeSingleCoil => .writeSingleCoil first (second = 0xFF00)
  | .writeSingleRegister => .writeSingleRegister first second
  | .writeMultipleCoils =>
      .writeMultipleCoils first ((List.range second.toNat).map (bitAt (body.drop 5)))
  | .writeMultipleRegisters =>
      .writeMultipleRegisters first
        ((List.range second.toNat).map fun i => bytesToUInt16 (body.drop 5) (i * 2))

/-- What the body of an answer lists, as coils or as registers. -/
def listedCoils (count : Nat) (body : List UInt8) : List CellValue :=
  (List.range count).map fun i => .coil (bitAt (body.drop 1) i)

def listedRegisters (count : Nat) (body : List UInt8) : List CellValue :=
  (List.range count).map fun i => .register (bytesToUInt16 (body.drop 1) (2 * i))

/-- **The values in a normal answer**, for the operation that was asked for; the answer to a write
lists nothing. -/
def listed (op : Operation) (body : List UInt8) : List CellValue :=
  match op with
  | .readCoils _ count | .readDiscreteInputs _ count => listedCoils count.toNat body
  | .readHoldingRegisters _ count | .readInputRegisters _ count =>
      listedRegisters count.toNat body
  | _ => []

/-! ## §3. Data areas -/

section Areas

variable {area : ModbusDataArea} {first n : Nat}

open Operation (cellsFrom)

/-- The cells of a range are there if the range is inside the table. -/
theorem cellsFrom_there {table : Table} {size : Nat} {m : Memory AreaCell CellValue}
    (hm : ∀ address, (m (table, address)).isSome ↔ address < size) (hn : 1 ≤ n) :
    (∀ cell ∈ cellsFrom table first n, (m cell).isSome) ↔ first + n ≤ size := by
  unfold cellsFrom
  constructor
  · intro h
    have hlast := h (table, first + (n - 1))
      (List.mem_map.mpr ⟨n - 1, List.mem_range.mpr (by omega), rfl⟩)
    rw [hm] at hlast
    omega
  · intro h cell hmem
    obtain ⟨i, hi, rfl⟩ := List.mem_map.mp hmem
    rw [List.mem_range] at hi
    rw [hm]
    omega

/-- What the cells of a range hold. -/
theorem filterMap_cellsFrom {table : Table} {m : Memory AreaCell CellValue}
    {values : Nat → CellValue} (h : ∀ i < n, m (table, first + i) = some (values i)) :
    (cellsFrom table first n).filterMap m = (List.range n).map values := by
  unfold cellsFrom
  rw [List.filterMap_map]
  have hsome : (List.range n).filterMap (m ∘ fun i => (table, first + i)) =
      (List.range n).filterMap fun i => some (values i) := by
    apply List.filterMap_congr
    intro i hi
    exact h i (List.mem_range.mp hi)
  rw [hsome]
  exact congrFun List.filterMap_eq_map _

theorem isSome_coils (area : ModbusDataArea) (address : Nat) :
    (area.memory (.coils, address)).isSome ↔ address < area.coils.length := by
  simp [ModbusDataArea.memory]

theorem isSome_discreteInputs (area : ModbusDataArea) (address : Nat) :
    (area.memory (.discreteInputs, address)).isSome ↔ address < area.discreteInputs.length := by
  simp [ModbusDataArea.memory]

theorem isSome_holdingRegisters (area : ModbusDataArea) (address : Nat) :
    (area.memory (.holdingRegisters, address)).isSome ↔
      address < area.holdingRegisters.length := by
  simp [ModbusDataArea.memory]

theorem isSome_inputRegisters (area : ModbusDataArea) (address : Nat) :
    (area.memory (.inputRegisters, address)).isSome ↔ address < area.inputRegisters.length := by
  simp [ModbusDataArea.memory]

/-- Writes to one table, cell by cell. -/
theorem writeAll_table (m : Memory AreaCell CellValue) (table : Table) (first n : Nat)
    (values : Nat → CellValue) (other : Table) (k : Nat) :
    m.writeAll ((List.range n).map fun i => ((table, first + i), values i)) (other, k) =
      if other = table then
        Memory.writeAll (fun k => m (table, k))
          ((List.range n).map fun i => (first + i, values i)) k
      else m (other, k) := by
  rw [← Memory.writeAll_inner, List.map_map]
  rfl

/-- The loop that sets coils. -/
theorem memory_setCoils (area : ModbusDataArea) (first n : Nat) (values : Nat → Bool) :
    ({ area with coils := setRange area.coils first n values } : ModbusDataArea).memory =
      area.memory.writeAll
        ((List.range n).map fun i => ((.coils, first + i), .coil (values i))) := by
  funext cell
  obtain ⟨table, k⟩ := cell
  rw [writeAll_table]
  cases table with
  | coils =>
    rw [if_pos rfl]
    exact getElem?_setRange _ _ _ _ CellValue.coil k
  | discreteInputs => rfl
  | holdingRegisters => rfl
  | inputRegisters => rfl

/-- The loop that sets holding registers. -/
theorem memory_setRegisters (area : ModbusDataArea) (first n : Nat) (values : Nat → UInt16) :
    ({ area with holdingRegisters := setRange area.holdingRegisters first n values } :
      ModbusDataArea).memory =
      area.memory.writeAll
        ((List.range n).map fun i => ((.holdingRegisters, first + i), .register (values i))) := by
  funext cell
  obtain ⟨table, k⟩ := cell
  rw [writeAll_table]
  cases table with
  | holdingRegisters =>
    rw [if_pos rfl]
    exact getElem?_setRange _ _ _ _ CellValue.register k
  | coils => rfl
  | discreteInputs => rfl
  | inputRegisters => rfl

end Areas

/-! ## §4. The handlers -/

section Handlers

open ModbusTcpServer (argumentsOk handlerAccepts inside_iff BitsBody RegistersBody NormalBody)

variable {area : ModbusDataArea} {function : ModbusFunctionCode} {body : List UInt8}

/-- A coil is switched on or off by two of the values of a word. -/
def CoilValueOk (function : ModbusFunctionCode) (body : List UInt8) : Prop :=
  function = .writeSingleCoil → bytesToUInt16 body 2 = 0x0000 ∨ bytesToUInt16 body 2 = 0xFF00

variable {table : Table} {first : Nat}

/-- The writes of a range are about the cells of the range. -/
theorem map_fst_range {n : Nat} (values : Nat → CellValue) :
    ((List.range n).map fun i => ((table, first + i), values i)).map Prod.fst =
      Operation.cellsFrom table first n := by
  rw [List.map_map]
  rfl

/-- The cells that an operation writes are different ones. -/
theorem writes_nodup (op : Operation) : (op.writes.map Prod.fst).Nodup := by
  have hrange : ∀ (table : Table) (first n : Nat) (values : Nat → CellValue),
      (((List.range n).map fun i => (((table, first + i) : AreaCell), values i)).map
        Prod.fst).Nodup := by
    intro table first n values
    rw [map_fst_range]
    refine List.Nodup.map ?_ List.nodup_range
    intro i j hij
    have hadd : first + i = first + j := (Prod.mk.inj hij).2
    omega
  cases op with
  | writeMultipleCoils address values => exact hrange _ _ _ _
  | writeMultipleRegisters address values => exact hrange _ _ _ _
  | writeSingleCoil address value => exact List.nodup_singleton _
  | writeSingleRegister address value => exact List.nodup_singleton _
  | readCoils address count => exact List.nodup_nil
  | readDiscreteInputs address count => exact List.nodup_nil
  | readHoldingRegisters address count => exact List.nodup_nil
  | readInputRegisters address count => exact List.nodup_nil

/-- **The checks of a handler** ask for the limits, for the cells and for the value of a coil. -/
theorem accepts_iff :
    handlerAccepts area function body = true ↔
      (requested function body).WithinLimits ∧
        (∀ cell ∈ (requested function body).cells, (area.memory cell).isSome) ∧
          CoilValueOk function body := by
  -- a range of a table, and a limit for the quantity
  have hrange : ∀ {table : Table} {size limit : Nat} {first quantity : UInt16},
      (∀ address, (area.memory (table, address)).isSome ↔ address < size) →
        (ModbusTcpServer.Inside first quantity limit size = true ↔
          (1 ≤ quantity.toNat ∧ quantity.toNat ≤ limit) ∧
            ∀ cell ∈ Operation.cellsFrom table first.toNat quantity.toNat,
              (area.memory cell).isSome) := by
    intro table size limit first quantity hm
    rw [inside_iff, ← and_assoc]
    constructor
    · rintro ⟨hlimits, hsize⟩
      exact ⟨hlimits, (cellsFrom_there hm hlimits.1).mpr hsize⟩
    · rintro ⟨hlimits, hcells⟩
      exact ⟨hlimits, (cellsFrom_there hm hlimits.1).mp hcells⟩
  cases function with
  | readCoils =>
    simp only [handlerAccepts, requested, Operation.WithinLimits, Operation.cells,
      Operation.reads, Operation.writes, List.map_nil, List.append_nil,
      hrange (isSome_coils area), CoilValueOk, reduceCtorEq, false_implies, and_true]
  | readDiscreteInputs =>
    simp only [handlerAccepts, requested, Operation.WithinLimits, Operation.cells,
      Operation.reads, Operation.writes, List.map_nil, List.append_nil,
      hrange (isSome_discreteInputs area), CoilValueOk, reduceCtorEq, false_implies, and_true]
  | readHoldingRegisters =>
    simp only [handlerAccepts, requested, Operation.WithinLimits, Operation.cells,
      Operation.reads, Operation.writes, List.map_nil, List.append_nil,
      hrange (isSome_holdingRegisters area), CoilValueOk, reduceCtorEq, false_implies, and_true]
  | readInputRegisters =>
    simp only [handlerAccepts, requested, Operation.WithinLimits, Operation.cells,
      Operation.reads, Operation.writes, List.map_nil, List.append_nil,
      hrange (isSome_inputRegisters area), CoilValueOk, reduceCtorEq, false_implies, and_true]
  | writeSingleCoil =>
    simp only [handlerAccepts, requested, Operation.WithinLimits, Operation.cells,
      Operation.reads, Operation.writes, List.map_cons, List.map_nil, List.nil_append,
      List.forall_mem_singleton, isSome_coils, CoilValueOk, true_implies, true_and,
      Bool.and_eq_true, Bool.or_eq_true, decide_eq_true_eq]
  | writeSingleRegister =>
    simp only [handlerAccepts, requested, Operation.WithinLimits, Operation.cells,
      Operation.reads, Operation.writes, List.map_cons, List.map_nil, List.nil_append,
      List.forall_mem_singleton, isSome_holdingRegisters, CoilValueOk, reduceCtorEq,
      false_implies, and_true, true_and, decide_eq_true_eq]
  | writeMultipleCoils =>
    simp only [handlerAccepts, requested, Operation.WithinLimits, Operation.cells,
      Operation.reads, Operation.writes, List.nil_append, map_fst_range, List.length_map,
      List.length_range, hrange (isSome_coils area), CoilValueOk, reduceCtorEq, false_implies,
      and_true]
  | writeMultipleRegisters =>
    simp only [handlerAccepts, requested, Operation.WithinLimits, Operation.cells,
      Operation.reads, Operation.writes, List.nil_append, map_fst_range, List.length_map,
      List.length_range, hrange (isSome_holdingRegisters area), CoilValueOk, reduceCtorEq,
      false_implies, and_true]

/-- Reading bits of a table yields what is listed. -/
theorem reads_bits {bits : List Bool} {quantity : Nat}
    (htable : ∀ address, area.memory (table, address) = bits[address]?.map .coil)
    (h : BitsBody bits first quantity body) :
    (Operation.cellsFrom table first quantity).filterMap area.memory =
      listedCoils quantity body := by
  obtain ⟨count, data, rfl, -, -, -, hbits, -⟩ := h
  apply filterMap_cellsFrom
  intro i hi
  rw [htable, hbits i hi]
  rfl

/-- Reading registers of a table yields what is listed. -/
theorem reads_registers {registers : List UInt16} {quantity : Nat}
    (htable : ∀ address, area.memory (table, address) = registers[address]?.map .register)
    (h : RegistersBody registers first quantity body) :
    (Operation.cellsFrom table first quantity).filterMap area.memory =
      listedRegisters quantity body := by
  obtain ⟨count, data, rfl, -, -, -, hwords⟩ := h
  apply filterMap_cellsFrom
  intro i hi
  rw [htable, hwords i hi]
  rfl

/-- A write of `n` values that are given one by one. -/
theorem writes_range {α : Type} {n : Nat} (cell : α → CellValue) (values : Nat → α) (default : α) :
    ((List.range ((List.range n).map values).length).map fun i =>
        (((table, first + i) : AreaCell), cell (((List.range n).map values).getD i default))) =
      (List.range n).map fun i => ((table, first + i), cell (values i)) := by
  rw [List.length_map, List.length_range]
  apply List.map_congr_left
  intro i hi
  rw [List.mem_range] at hi
  simp [hi]

/-- **The data area after a handler**: the writes of the operation are done. -/
theorem handle_area (header : ModbusTCPHeader) (hargs : argumentsOk function body = true)
    (hacc : handlerAccepts area function body = true) :
    (ModbusTcpServer.handle header area function body).area.memory =
      area.memory.writeAll (requested function body).writes := by
  -- a handler that reads gives the area back, whether it refuses or not
  have hbits : ∀ function bits first second,
      (ModbusTcpServer.handleReadBits header area function bits first second).area = area := by
    intro function bits first second
    unfold ModbusTcpServer.handleReadBits
    split_ifs <;> rfl
  have hregisters : ∀ function registers first second,
      (ModbusTcpServer.handleReadRegisters header area function registers first second).area =
        area := by
    intro function registers first second
    unfold ModbusTcpServer.handleReadRegisters
    split_ifs <;> rfl
  cases function with
  | readCoils => exact congrArg ModbusDataArea.memory (hbits _ _ _ _)
  | readDiscreteInputs => exact congrArg ModbusDataArea.memory (hbits _ _ _ _)
  | readHoldingRegisters => exact congrArg ModbusDataArea.memory (hregisters _ _ _ _)
  | readInputRegisters => exact congrArg ModbusDataArea.memory (hregisters _ _ _ _)
  | writeSingleCoil =>
    simp only [handlerAccepts, Bool.and_eq_true, Bool.or_eq_true, decide_eq_true_eq] at hacc
    have hvalue : ¬ (decide (bytesToUInt16 body 2 ≠ 0x0000) &&
        decide (bytesToUInt16 body 2 ≠ 0xFF00)) = true := by
      obtain h | h := hacc.2 <;> simp [h]
    simp only [ModbusTcpServer.handle, ModbusTcpServer.handleWriteSingleCoil]
    rw [if_neg (by omega), if_neg hvalue]
    exact memory_setCoils area _ 1 fun _ => _
  | writeSingleRegister =>
    simp only [handlerAccepts, decide_eq_true_eq] at hacc
    simp only [ModbusTcpServer.handle, ModbusTcpServer.handleWriteSingleRegister]
    rw [if_neg (by omega)]
    exact memory_setRegisters area _ 1 fun _ => _
  | writeMultipleCoils =>
    obtain ⟨-, -, hvalues⟩ := ModbusTcpServer.multiple_arguments hargs
    simp only [ModbusTcpServer.handle, ModbusTcpServer.handleWriteMultipleCoils,
      ModbusTcpServer.guard_eq 1968 hacc, Bool.not_true, Bool.false_eq_true, if_false]
    rw [if_neg hvalues]
    simp only [requested, Operation.writes]
    rw [writes_range CellValue.coil]
    exact memory_setCoils area _ _ _
  | writeMultipleRegisters =>
    obtain ⟨-, -, hvalues⟩ := ModbusTcpServer.multiple_arguments hargs
    simp only [ModbusTcpServer.handle, ModbusTcpServer.handleWriteMultipleRegisters,
      ModbusTcpServer.guard_eq 123 hacc, Bool.not_true, Bool.false_eq_true, if_false]
    rw [if_neg hvalues]
    simp only [requested, Operation.writes]
    rw [writes_range CellValue.register]
    exact memory_setRegisters area _ _ _

/-- What an operation reads is what the normal answer lists. -/
theorem reads_listed {answer : List UInt8} (h : NormalBody area function body answer) :
    (requested function body).reads.filterMap area.memory =
      listed (requested function body) answer := by
  cases function with
  | readCoils => exact reads_bits (fun _ => rfl) h
  | readDiscreteInputs => exact reads_bits (fun _ => rfl) h
  | readHoldingRegisters => exact reads_registers (fun _ => rfl) h
  | readInputRegisters => exact reads_registers (fun _ => rfl) h
  | writeSingleCoil => rfl
  | writeSingleRegister => rfl
  | writeMultipleCoils => rfl
  | writeMultipleRegisters => rfl

/-- **A handler that accepts** performs the operation that was asked for. -/
theorem handle_performs (header : ModbusTCPHeader) (hargs : argumentsOk function body = true)
    (hacc : handlerAccepts area function body = true) :
    ∃ answer, (ModbusTcpServer.handle header area function body).response =
        function.code :: answer ∧ answer.length < 255 ∧ NormalBody area function body answer ∧
      (requested function body).perform area.memory =
        some ((ModbusTcpServer.handle header area function body).area.memory,
          listed (requested function body) answer) := by
  obtain ⟨answer, hresponse, hlen, hnormal⟩ := ModbusTcpServer.handle_accepted header hargs hacc
  refine ⟨answer, hresponse, hlen, hnormal, ?_⟩
  -- the cells are there, so the operation is performed: writes and reads one by one
  rw [Operation.perform_eq_some (accepts_iff.mp hacc).2.1, handle_area header hargs hacc,
    reads_listed hnormal]

end Handlers

end Stdiolink.Modbus
