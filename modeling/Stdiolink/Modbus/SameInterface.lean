/-
  Stdiolink.Modbus.SameInterface — where the three Modbus server drivers answer alike.

  The TCP and the RTU-over-TCP handler take 64-bit integers as texts, too, and give unsigned ones as
  texts.  The serial handler knows numbers only.  Everything else about units and data is the same.

  Main results:
    * `handleCommand_sameData` — one command: the same answer and the same units after it;
    * `same_answers`           — so it is along every run without such an integer.
-/
import Stdiolink.Lib.Machine
import Stdiolink.Modbus.ServerHandlers

namespace Stdiolink.Modbus

open Stdiolink.Lib
open Stdiolink.Protocol
open Stdiolink.Protocol.Json

/-! ## §1. The data interface -/

/-- The commands about units and data. -/
def ServerCommand.OfData : ServerCommand → Prop
  | .status | .run | .startServer | .stopServer => False
  | .addUnit | .removeUnit | .listUnits | .data _ => True

/-- A command about units or data, with its parameters. -/
structure DataRequest where
  cmd : String
  data : Json
  ofData : ∃ c, ServerCommand.ofName cmd = some c ∧ c.OfData

/-- A handler as a machine; it emits its answers. -/
def ServerDriver.machine (platform : ServerPlatform) (driver : ServerDriver) :
    Machine ServerHandler DataRequest Message where
  step h request :=
    let answered := driver.handle platform h request.cmd request.data
    (answered.1, [answered.2])

/-- The same answer, and the same units after it. -/
def SameData (a b : Answered) : Prop := a.1.units = b.1.units ∧ a.2 = b.2

/-! ## §2. Where the codings differ -/

section Codings

variable (p : List (String × Json))

/-- No text among the values stands for a 64-bit integer other than 0. -/
def NoIntegerTexts : Prop :=
  ∀ text, str text ∈ Meta.toArray (value p "values") →
    (typeOf p = .int64 → toLongLong text = 0) ∧ (typeOf p = .uint64 → toULongLong text = 0)

/-- There are unsigned 64-bit integers to be read. -/
def ReadsUnsigned64 (units : UnitDataAreas) : Prop :=
  typeOf p = .uint64 ∧ 0 < countOf p ∧ (countOf p).tmod (registersPerType (typeOf p)) = 0 ∧
    ∀ i < (countOf p).toNat,
      (units.getCell (areaOf p) (uidOf p) (UnitDataAreas.addressAt (addrOf p) i)).isSome = true

/-- The command does not come to a 64-bit integer that the handlers take differently. -/
def Agreeable (units : UnitDataAreas) (cmd : String) : Prop :=
  units.hasUnit (uidOf p) = true →
    (ServerCommand.ofName cmd = some (.data .setRegistersBatch) → NoIntegerTexts p) ∧
    (ServerCommand.ofName cmd = some (.data .getRegistersBatch) → ¬ ReadsUnsigned64 p units)

variable {p} (undefinedCast : DataType → ℚ → Int)

/-- A text that is read as a double is 0. -/
theorem castTo_zero (type : DataType) {lo hi : Int} (hlo : lo ≤ 0) (hhi : 0 ≤ hi) :
    ModbusTcpHandler.castTo undefinedCast type lo hi 0 = 0 := by
  unfold ModbusTcpHandler.castTo
  exact if_pos ⟨hlo, hhi⟩

theorem encode_agrees (conv : ByteOrderConverter) {v : Json} {type : DataType}
    (h : ∀ text, v = str text →
      (type = .int64 → toLongLong text = 0) ∧ (type = .uint64 → toULongLong text = 0)) :
    (numbersAndTexts undefinedCast).encode conv v type =
      (numbersOnly undefinedCast).encode conv v type := by
  unfold numbersAndTexts numbersOnly
  dsimp only
  cases v with
  | str text =>
    obtain ⟨hsigned, hunsigned⟩ := h text rfl
    cases type with
    | int64 =>
      show conv.fromInt64 (toLongLong text) = ModbusTcpHandler.encode undefinedCast conv 0 .int64
      rw [hsigned rfl, ModbusTcpHandler.encode, castTo_zero _ _ (by decide) (by decide)]
      rfl
    | uint64 =>
      show conv.fromUInt64 (toULongLong text) = ModbusTcpHandler.encode undefinedCast conv 0 .uint64
      rw [hunsigned rfl, ModbusTcpHandler.encode, castTo_zero _ _ (by decide) (by decide)]
      rfl
    | _ => rfl
  | _ => cases type <;> rfl

theorem registersOf_agrees (h : NoIntegerTexts p) :
    registersOf (numbersAndTexts undefinedCast) p = registersOf (numbersOnly undefinedCast) p := by
  unfold registersOf
  rw [List.flatMap_def, List.flatMap_def]
  congr 1
  apply List.map_congr_left
  intro v hv
  apply encode_agrees
  rintro text rfl
  exact h text hv

theorem valuesIn_agrees {raw : List UInt16} (h : typeOf p ≠ .uint64 ∨ raw = []) :
    valuesIn (numbersAndTexts undefinedCast) p raw = valuesIn (numbersOnly undefinedCast) p raw := by
  unfold valuesIn
  dsimp only
  obtain htype | rfl := h
  · unfold numbersAndTexts numbersOnly
    dsimp only
    cases hcase : typeOf p with
    | uint64 => exact absurd hcase htype
    | _ => rfl
  · rw [List.length_nil, Nat.zero_div]
    rfl

end Codings

/-! ## §3. One command -/

section OneCommand

variable {h h' : ServerHandler} (p : List (String × Json)) (hunits : h.units = h'.units)

include hunits

theorem setCommand_sameData {α : Type} (c : Cells α) (v : α) :
    SameData (setCommand h p c v) (setCommand h' p c v) := by
  unfold setCommand
  rw [← hunits]
  cases h.units.setCell c (uidOf p) (addrOf p) v with
  | none => exact ⟨hunits, rfl⟩
  | some units => exact ⟨rfl, rfl⟩

theorem getCommand_sameData {α : Type} (c : Cells α) (toJson : α → Json) :
    SameData (getCommand h p c toJson) (getCommand h' p c toJson) := by
  unfold getCommand
  rw [← hunits]
  cases h.units.getCell c (uidOf p) (addrOf p) with
  | none => exact ⟨hunits, rfl⟩
  | some v => exact ⟨hunits, rfl⟩

variable {coding coding' : ValueCoding}

/-- The same registers are written the same way. -/
theorem setRegistersBatch_sameData (hregs : registersOf coding p = registersOf coding' p) :
    SameData (setRegistersBatch coding h p) (setRegistersBatch coding' h' p) := by
  unfold setRegistersBatch
  dsimp only
  rw [← hunits, ← hregs]
  rcases UnitDataAreas.setEach (areaOf p) (uidOf p) (addrOf p) h.units 0 (registersOf coding p) with
    ⟨units, _ | i⟩ <;> exact ⟨rfl, rfl⟩

/-- The same registers are read, and their values are the same if they are not unsigned 64-bit
integers. -/
theorem getRegistersBatch_sameData
    (hvalues : ∀ raw, typeOf p ≠ .uint64 ∨ raw = [] →
      valuesIn coding p raw = valuesIn coding' p raw) (hread : ¬ ReadsUnsigned64 p h.units) :
    SameData (getRegistersBatch coding h p) (getRegistersBatch coding' h' p) := by
  unfold getRegistersBatch
  dsimp only
  rw [← hunits]
  by_cases hmod : (countOf p).tmod (registersPerType (typeOf p)) = 0
  swap
  · rw [if_pos hmod, if_pos hmod]
    exact ⟨hunits, rfl⟩
  rw [if_neg (not_not.mpr hmod), if_neg (not_not.mpr hmod)]
  cases hraw : h.units.getEach (areaOf p) (uidOf p) (addrOf p) 0 (countOf p).toNat with
  | error i => exact ⟨hunits, rfl⟩
  | ok raw =>
    obtain ⟨hlen, hcells⟩ := UnitDataAreas.getEach_ok hraw
    have hplain : typeOf p ≠ .uint64 ∨ raw = [] := by
      by_contra hnot
      rw [not_or, not_not] at hnot
      have hpos := List.length_pos_iff.mpr hnot.2
      refine hread ⟨hnot.1, by omega, hmod, fun i hi => ?_⟩
      have hcell := hcells i hi
      rw [Nat.zero_add, List.getElem?_eq_getElem (by omega)] at hcell
      rw [hcell]
      rfl
    show SameData (h, _) (h', _)
    rw [hvalues raw hplain]
    exact ⟨hunits, rfl⟩

theorem dataCommand_sameData {command : DataCommand}
    (hset : command = .setRegistersBatch → registersOf coding p = registersOf coding' p)
    (hvalues : ∀ raw, typeOf p ≠ .uint64 ∨ raw = [] →
      valuesIn coding p raw = valuesIn coding' p raw)
    (hget : command = .getRegistersBatch → ¬ ReadsUnsigned64 p h.units) :
    SameData (dataCommand coding h p command) (dataCommand coding' h' p command) := by
  cases command with
  | setCoil => exact setCommand_sameData p hunits _ _
  | getCoil => exact getCommand_sameData p hunits _ _
  | setDiscreteInput => exact setCommand_sameData p hunits _ _
  | getDiscreteInput => exact getCommand_sameData p hunits _ _
  | setHoldingRegister => exact setCommand_sameData p hunits _ _
  | getHoldingRegister => exact getCommand_sameData p hunits _ _
  | setInputRegister => exact setCommand_sameData p hunits _ _
  | getInputRegister => exact getCommand_sameData p hunits _ _
  | setRegistersBatch => exact setRegistersBatch_sameData p hunits (hset rfl)
  | getRegistersBatch => exact getRegistersBatch_sameData p hunits hvalues (hget rfl)

theorem addUnitCommand_sameData : SameData (addUnitCommand h p) (addUnitCommand h' p) := by
  unfold addUnitCommand
  dsimp only
  rw [← hunits]
  cases h.units.addUnit (uidOf p) (toIntOr 10000 (value p "data_area_size")) with
  | none => exact ⟨hunits, rfl⟩
  | some units => exact ⟨rfl, rfl⟩

theorem removeUnitCommand_sameData : SameData (removeUnitCommand h p) (removeUnitCommand h' p) := by
  unfold removeUnitCommand
  rw [← hunits]
  cases h.units.removeUnit (uidOf p) with
  | none => exact ⟨hunits, rfl⟩
  | some units => exact ⟨rfl, rfl⟩

/-- **One command about units or data.**  Two handlers with the same units answer the same and have
the same units after it, if they take its values alike. -/
theorem handleCommand_sameData {parts parts' : ServerParts} {cmd : String} {c : ServerCommand}
    (hname : ServerCommand.ofName cmd = some c) (hdata : c.OfData) {data : Json}
    (hset : NoIntegerTexts (toObject data) →
      registersOf parts.coding (toObject data) = registersOf parts'.coding (toObject data))
    (hvalues : ∀ raw, typeOf (toObject data) ≠ .uint64 ∨ raw = [] →
      valuesIn parts.coding (toObject data) raw = valuesIn parts'.coding (toObject data) raw)
    (hagree : Agreeable (toObject data) h.units cmd) :
    SameData (handleCommand parts h cmd data) (handleCommand parts' h' cmd data) := by
  unfold handleCommand
  rw [hname]
  cases c with
  | status => exact absurd hdata id
  | run => exact absurd hdata id
  | startServer => exact absurd hdata id
  | stopServer => exact absurd hdata id
  | addUnit => exact addUnitCommand_sameData _ hunits
  | removeUnit => exact removeUnitCommand_sameData _ hunits
  | listUnits =>
    refine ⟨hunits, ?_⟩
    show (⟨.done, 0, obj [("units", unitsJson h)]⟩ : Message) = _
    rw [unitsJson, hunits]
    rfl
  | data command =>
    dsimp only
    rw [← hunits]
    by_cases hthere : h.units.hasUnit (uidOf (toObject data)) = true
    · rw [if_pos hthere, if_pos hthere]
      obtain ⟨hbatch, hread⟩ := hagree hthere
      refine dataCommand_sameData _ hunits ?_ hvalues ?_
      · rintro rfl
        exact hset (hbatch hname)
      · rintro rfl
        exact hread hname
    · rw [if_neg hthere, if_neg hthere]
      exact ⟨hunits, rfl⟩

end OneCommand

/-! ## §4. Runs -/

section Runs

variable (platform : ServerPlatform)

/-- Against the TCP handler, each handler takes the values alike that no 64-bit integer is among. -/
theorem parts_agree (driver : ServerDriver) (p : List (String × Json)) :
    (NoIntegerTexts p → registersOf (ModbusTcpServerHandler.parts platform).coding p =
      registersOf (driver.parts platform).coding p) ∧
    ∀ raw, typeOf p ≠ .uint64 ∨ raw = [] →
      valuesIn (ModbusTcpServerHandler.parts platform).coding p raw =
        valuesIn (driver.parts platform).coding p raw := by
  cases driver with
  | tcp => exact ⟨fun _ => rfl, fun _ _ => rfl⟩
  | rtu => exact ⟨fun _ => rfl, fun _ _ => rfl⟩
  | serial =>
    exact ⟨registersOf_agrees platform.undefinedCast,
      fun _ => valuesIn_agrees platform.undefinedCast⟩

/-- **The same answers along a run.**  The three handlers, started with the same units, answer every
sequence of commands about units and data alike, as long as no command comes to a 64-bit integer
that is written as a text or an unsigned one that is read. -/
theorem same_answers (start : ServerDriver → ServerHandler) (units : UnitDataAreas)
    (hstart : ∀ driver, (start driver).units = units) (requests : List DataRequest)
    (hagree : (ServerDriver.tcp.machine platform).EveryStep
      (fun c r => Agreeable (toObject r.data) c.state.units r.cmd)
      (Machine.start (start .tcp)) requests) (driver : ServerDriver) :
    ((ServerDriver.tcp.machine platform).run (Machine.start (start .tcp)) requests).history =
      ((driver.machine platform).run (Machine.start (start driver)) requests).history := by
  apply Machine.history_eq_of_related (R := fun h h' => h.units = h'.units)
    (C := fun h r => Agreeable (toObject r.data) h.units r.cmd)
  · intro h h' r hunits hstep
    obtain ⟨c, hname, hdata⟩ := r.ofData
    obtain ⟨hset, hvalues⟩ := parts_agree platform driver (toObject r.data)
    have hsame := handleCommand_sameData hunits hname hdata hset hvalues hstep
    unfold ServerDriver.machine
    rw [ServerDriver.handle_eq, ServerDriver.handle_eq]
    exact ⟨hsame.1, congrArg (fun m => [m]) hsame.2⟩
  · rw [Machine.start_state, Machine.start_state, hstart, hstart]
  · rfl
  · exact hagree

end Runs

/-- Unit 1 with four registers of each kind is added. -/
def addUnitOne : DataRequest where
  cmd := "add_unit"
  data := obj [("data_area_size", num 4), ("unit_id", num 1)]
  ofData := ⟨.addUnit, by decide, trivial⟩

/-- A 64-bit integer is written as a text, -/
def setTextFive : DataRequest where
  cmd := "set_registers_batch"
  data := obj [("address", num 0), ("data_type", str "int64"), ("unit_id", num 1),
    ("values", arr [str "5"])]
  ofData := ⟨.data .setRegistersBatch, by decide, trivial⟩

/-- and its last register is read. -/
def getLastRegister : DataRequest where
  cmd := "get_holding_register"
  data := obj [("address", num 3), ("unit_id", num 1)]
  ofData := ⟨.data .getHoldingRegister, by decide, trivial⟩

/-- Without the text, all three handlers answer alike. -/
theorem register_read_alike :
    ((ServerDriver.tcp.machine deafPlatform).run (Machine.start {})
        [addUnitOne, getLastRegister]).history =
      ((ServerDriver.serial.machine deafPlatform).run (Machine.start {})
        [addUnitOne, getLastRegister]).history := by
  have hnotBatch : ∀ r ∈ [addUnitOne, getLastRegister],
      ServerCommand.ofName r.cmd ≠ some (.data .setRegistersBatch) ∧
        ServerCommand.ofName r.cmd ≠ some (.data .getRegistersBatch) := by decide
  have hadd := hnotBatch addUnitOne (by simp)
  have hget := hnotBatch getLastRegister (by simp)
  exact same_answers deafPlatform (fun _ => {}) (fun _ => none) (fun _ => rfl)
    [addUnitOne, getLastRegister]
    ⟨fun _ => ⟨fun h => absurd h hadd.1, fun h => absurd h hadd.2⟩,
      fun _ => ⟨fun h => absurd h hget.1, fun h => absurd h hget.2⟩, trivial⟩ .serial

/-- **With the text**, the TCP handler has written 5 and the serial handler 0. -/
theorem text_taken_for_zero :
    (((ServerDriver.tcp.machine deafPlatform).run (Machine.start {})
        [addUnitOne, setTextFive, getLastRegister]).history.map fun m => m.payload).getLast? =
      some (obj [("value", num 5)]) ∧
    (((ServerDriver.serial.machine deafPlatform).run (Machine.start {})
        [addUnitOne, setTextFive, getLastRegister]).history.map fun m => m.payload).getLast? =
      some (obj [("value", num 0)]) := by
  decide

end Stdiolink.Modbus
