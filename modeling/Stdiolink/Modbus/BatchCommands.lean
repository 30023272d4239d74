/-
  Stdiolink.Modbus.BatchCommands — what the batch commands of the Modbus servers write and read.

  `set_registers_batch` sets its registers one at a time and narrows each address to 16 bits.  So it
  leaves what it wrote before an address that is out of range, and it goes on at address 0 where a
  data area has all 65536.

  Main results:
    * `setRegistersBatch_iff` — when it writes all registers in their range or nothing;
    * `getRegistersBatch_iff` — when only registers of the range are read;
    * `batch_commands_iff`    — the two for each of the three drivers.
-/
import Stdiolink.Modbus.ServerHandlers

namespace Stdiolink.Modbus

open Stdiolink.Protocol
open Stdiolink.Protocol.Json
open UnitDataAreas

/-! ## §1. What is asked for -/

/-- The registers from `start` on are replaced by these, which are all inside. -/
def Replaced (cells : List UInt16) (start : Nat) (regs cells' : List UInt16) : Prop :=
  (∀ i < regs.length, start + i < cells.length) ∧
    cells' = cells.take start ++ regs ++ cells.drop (start + regs.length)

/-- **All or nothing**: `done` and the registers are replaced, or `error` and the units are the
same. -/
def AllOrNothing (units : UnitDataAreas) (c : Cells UInt16) (unitId : UInt8)
    (area : ModbusDataArea) (start : Nat) (regs : List UInt16) (answered : Answered) : Prop :=
  (answered.2.status = .done ∧ ∃ cells', Replaced (c.get area) start regs cells' ∧
      answered.1.units = units.put unitId (some (c.put area cells'))) ∨
    (answered.2.status = .error ∧ answered.1.units = units)

/-- **In the range**: what is answered are the registers from `start` on, and their values. -/
def InRange (coding : ValueCoding) (p : List (String × Json)) (cells : List UInt16) (start : Nat)
    (answer : Message) : Prop :=
  answer.status = .done → ∃ raw : List UInt16, raw.length = (countOf p).toNat ∧
    (∀ i < raw.length, cells[start + i]? = raw[i]?) ∧
    answer.payload = obj [("raw", arr (raw.map registerJson)),
      ("values", arr (valuesIn coding p raw))]

/-- The registers fit behind the start, or those that fit are there already and the next address is
one that is out of range. -/
def FitsOrThere (cells : List UInt16) (start : Nat) (regs : List UInt16) : Prop :=
  start + regs.length ≤ cells.length ∨
    (cells.length < 65536 ∧ ∀ i < regs.length, start + i < cells.length →
      cells[start + i]? = regs[i]?)

/-- The registers asked for go past the last address of a data area that has them all. -/
def GoesRound (cells : List UInt16) (start : Nat) (p : List (String × Json)) : Prop :=
  cells.length = 65536 ∧ 65536 < start + (countOf p).toNat ∧
    (countOf p).tmod (registersPerType (typeOf p)) = 0

instance (cells : List UInt16) (start : Nat) (regs : List UInt16) :
    Decidable (FitsOrThere cells start regs) := inferInstanceAs (Decidable (_ ∨ _))

instance (cells : List UInt16) (start : Nat) (p : List (String × Json)) :
    Decidable (GoesRound cells start p) := inferInstanceAs (Decidable (_ ∧ _))

/-! ## §2. Writing -/

section Writing

variable {cells regs : List UInt16} {start : UInt16}

/-- Up to the end of the vector, what is written is what was there iff it is the same. -/
theorem written_same_iff (hstart : start.toNat ≤ cells.length)
    (hend : cells.length < start.toNat + regs.length) :
    cells.take start.toNat ++ regs.take (cells.length - start.toNat) = cells ↔
      ∀ i < regs.length, start.toNat + i < cells.length →
        cells[start.toNat + i]? = regs[i]? := by
  have hsplit : cells.take start.toNat ++ cells.drop start.toNat = cells :=
    List.take_append_drop _ _
  constructor
  · intro h i _ hlt
    have hdrop : regs.take (cells.length - start.toNat) = cells.drop start.toNat :=
      List.append_cancel_left (h.trans hsplit.symm)
    rw [← List.getElem?_drop, ← hdrop, List.getElem?_take, if_pos (by omega)]
  · intro h
    have hdrop : regs.take (cells.length - start.toNat) = cells.drop start.toNat := by
      apply List.ext_getElem?
      intro i
      rw [List.getElem?_take, List.getElem?_drop]
      split_ifs with hi
      · exact (h i (by omega) (by omega)).symm
      · rw [List.getElem?_eq_none (by omega)]
    rw [hdrop, hsplit]

/-- **A set is all or nothing** exactly when the registers fit, or those that fit are there. -/
theorem setEach_allOrNothing_iff {units : UnitDataAreas} {c : Cells UInt16} {unitId : UInt8}
    {area : ModbusDataArea} (harea : units unitId = some area)
    (hsize : (c.get area).length ≤ 65536) {answered : Answered}
    (hunits : answered.1.units = (setEach c unitId start units 0 regs).1)
    (hstatus : answered.2.status =
      if (setEach c unitId start units 0 regs).2.isSome then .error else .done) :
    AllOrNothing units c unitId area start.toNat regs answered ↔
      FitsOrThere (c.get area) start.toNat regs := by
  have hstart := start.toNat_lt
  rw [setEach_eq c start harea] at hunits hstatus
  unfold AllOrNothing FitsOrThere
  obtain hfit | hpast := le_or_gt (start.toNat + regs.length) (c.get area).length
  · -- everything fits
    rw [written_fits hsize regs hfit] at hunits hstatus
    refine iff_of_true (.inl ⟨hstatus, _, ⟨fun i hi => by omega, rfl⟩, hunits⟩) (.inl hfit)
  · cases regs with
    | nil =>
      -- nothing to write, wherever that is
      have hnone : ∀ i < ([] : List UInt16).length, start.toNat + i < (c.get area).length :=
        fun i hi => absurd hi (Nat.not_lt_zero i)
      have hsame : c.get area = (c.get area).take start.toNat ++ [] ++
          (c.get area).drop (start.toNat + ([] : List UInt16).length) := by
        rw [List.append_nil, List.length_nil, Nat.add_zero, List.take_append_drop]
      have hshort : (c.get area).length < 65536 := by
        rw [List.length_nil] at hpast
        omega
      exact iff_of_true (.inl ⟨hstatus, _, ⟨hnone, hsame⟩, hunits⟩)
        (.inr ⟨hshort, fun i hi => absurd hi (Nat.not_lt_zero i)⟩)
    | cons reg rest =>
      have hne : ¬ ∀ i < (reg :: rest).length, start.toNat + i < (c.get area).length := by
        intro h
        have hlast := h rest.length (Nat.lt_succ_self _)
        rw [List.length_cons] at hpast
        omega
      obtain hfull | hshort := Nat.eq_or_lt_of_le hsize
      · -- the address goes on at 0, and nothing fails
        have hok : answered.2.status = .done := by
          rw [hstatus, written_full hfull]
          rfl
        refine iff_of_false ?_ (by omega)
        rintro (⟨-, _, ⟨hall, -⟩, -⟩ | ⟨herror, -⟩)
        · exact hne hall
        · rw [hok] at herror
          cases herror
      · -- the first address past the end fails
        have hstop : (c.get area).length - start.toNat < (reg :: rest).length := by
          rw [List.length_cons] at hpast ⊢
          omega
        rw [written_stops hshort _ hstop] at hunits hstatus
        have herror : answered.2.status = .error := hstatus
        have hsame : answered.1.units = units ↔ (c.get area).take start.toNat ++
            (reg :: rest).take ((c.get area).length - start.toNat) = c.get area := by
          rw [hunits, put_eq_iff, harea, Option.some_inj, c.put_inj]
        rw [hsame, herror]
        obtain hle | hlt := le_or_gt start.toNat (c.get area).length
        · rw [written_same_iff hle hpast]
          constructor
          · rintro (⟨hdone, -⟩ | ⟨-, hthere⟩)
            · cases hdone
            · exact .inr ⟨hshort, hthere⟩
          · rintro (hfit | ⟨-, hthere⟩)
            · omega
            · exact .inr ⟨rfl, hthere⟩
        · -- the start itself is past the end
          have hzero : (c.get area).length - start.toNat = 0 := by omega
          refine iff_of_true (.inr ⟨rfl, ?_⟩) (.inr ⟨hshort, fun i _ hlt => by omega⟩)
          rw [hzero, List.take_zero, List.append_nil, List.take_of_length_le hlt.le]

end Writing

section Commands

variable {coding : ValueCoding} {h : ServerHandler} {p : List (String × Json)} {start : UInt16}
  {area : ModbusDataArea}

theorem addrOf_eq (hstart : addressIntOf p = start.toNat) : addrOf p = start := by
  rw [addrOf, hstart, (ModbusTcpHandler.ofInt_natCast _).1 start.toNat_lt, UInt16.ofNat_toNat]

theorem setRegistersBatch_iff (harea : h.units (uidOf p) = some area)
    (hsize : ((areaOf p).get area).length ≤ 65536) (hstart : addressIntOf p = start.toNat) :
    AllOrNothing h.units (areaOf p) (uidOf p) area start.toNat (registersOf coding p)
        (setRegistersBatch coding h p) ↔
      FitsOrThere ((areaOf p).get area) start.toNat (registersOf coding p) := by
  apply setEach_allOrNothing_iff harea hsize
  · unfold setRegistersBatch
    rw [addrOf_eq hstart]
    dsimp only
    rcases setEach (areaOf p) (uidOf p) start h.units 0 (registersOf coding p) with
      ⟨units, _ | i⟩ <;> rfl
  · unfold setRegistersBatch
    rw [addrOf_eq hstart]
    dsimp only
    rcases setEach (areaOf p) (uidOf p) start h.units 0 (registersOf coding p) with
      ⟨units, _ | i⟩ <;> rfl

/-! ## §3. Reading -/

theorem getCell_area {α : Type} {c : Cells α} {units : UnitDataAreas} {unitId : UInt8}
    (harea : units unitId = some area) (address : UInt16) :
    units.getCell c unitId address = (c.get area)[address.toNat]? := by
  rw [getCell, harea]

/-- **What is read is of the range** exactly when it does not go round. -/
theorem getRegistersBatch_iff (harea : h.units (uidOf p) = some area)
    (hsize : ((areaOf p).get area).length ≤ 65536) (hstart : addressIntOf p = start.toNat) :
    InRange coding p ((areaOf p).get area) start.toNat (getRegistersBatch coding h p).2 ↔
      ¬ GoesRound ((areaOf p).get area) start.toNat p := by
  have h16 := start.toNat_lt
  have hcell := getCell_area (c := areaOf p) harea
  unfold InRange GoesRound getRegistersBatch
  rw [addrOf_eq hstart]
  by_cases hmod : (countOf p).tmod (registersPerType (typeOf p)) = 0
  swap
  · simp only [ne_eq, hmod, not_false_eq_true, if_true]
    exact iff_of_true nofun fun hround => hround.2.2
  simp only [ne_eq, hmod, not_true_eq_false, if_false, and_true]
  obtain hin | hout := le_or_gt (start.toNat + (countOf p).toNat) 65536
  · -- no address is narrowed
    refine iff_of_true ?_ (by omega)
    cases hread : h.units.getEach (areaOf p) (uidOf p) start 0 (countOf p).toNat with
    | error i => nofun
    | ok raw =>
      intro _
      obtain ⟨hlen, hraw⟩ := getEach_ok hread
      refine ⟨raw, hlen, fun i hi => ?_, rfl⟩
      rw [← hraw i (by omega), hcell, Nat.zero_add, addressAt_toNat (by omega)]
  obtain hfull | hshort := Nat.eq_or_lt_of_le hsize
  · -- every address is there, so the read goes on at 0
    have hall : ∀ k < (countOf p).toNat,
        (h.units.getCell (areaOf p) (uidOf p) (addressAt start (0 + k))).isSome = true := by
      intro k _
      have hlt := (addressAt start (0 + k)).toNat_lt
      rw [hcell, List.getElem?_eq_getElem (by omega)]
      rfl
    obtain ⟨raw, hread⟩ := getEach_isOk hall
    refine iff_of_false ?_ (not_not.mpr ⟨hfull, hout⟩)
    rw [hread]
    intro hrange
    obtain ⟨raw', hlen, hraw', -⟩ := hrange rfl
    have hpast := hraw' (65536 - start.toNat) (by omega)
    rw [List.getElem?_eq_none (by omega), List.getElem?_eq_getElem (by omega)] at hpast
    cases hpast
  · -- the read fails at the last address at the latest
    refine iff_of_true ?_ (by omega)
    cases hread : h.units.getEach (areaOf p) (uidOf p) start 0 (countOf p).toNat with
    | error i => nofun
    | ok raw =>
      exfalso
      obtain ⟨hlen, hraw⟩ := getEach_ok hread
      have hlast := hraw (65535 - start.toNat) (by omega)
      rw [hcell, Nat.zero_add, addressAt_toNat (by omega),
        List.getElem?_eq_none (by omega), List.getElem?_eq_getElem (by omega)] at hlast
      cases hlast

end Commands

/-! ## §4. The three drivers -/

section Drivers

variable {h : ServerHandler} {p : List (String × Json)} {area : ModbusDataArea}

theorem handle_setRegistersBatch (parts : ServerParts) (harea : h.units (uidOf p) = some area) :
    handleCommand parts h "set_registers_batch" (obj p) = setRegistersBatch parts.coding h p := by
  have hthere : h.units.hasUnit (uidOf p) = true := by
    rw [hasUnit, harea]
    rfl
  have hname : ServerCommand.ofName "set_registers_batch" = some (.data .setRegistersBatch) := by
    decide
  unfold handleCommand
  rw [hname]
  exact if_pos hthere

theorem handle_getRegistersBatch (parts : ServerParts) (harea : h.units (uidOf p) = some area) :
    handleCommand parts h "get_registers_batch" (obj p) = getRegistersBatch parts.coding h p := by
  have hthere : h.units.hasUnit (uidOf p) = true := by
    rw [hasUnit, harea]
    rfl
  have hname : ServerCommand.ofName "get_registers_batch" = some (.data .getRegistersBatch) := by
    decide
  unfold handleCommand
  rw [hname]
  exact if_pos hthere

end Drivers

/-- **The batch commands of each driver.**  For a unit with up to 65536 registers and an address of
16 bits: the registers are all set in their range or none of them is, exactly when they fit or those
that fit are there already; and registers of the range are read, exactly when the range does not go
past the last address of a data area that has them all. -/
theorem batch_commands_iff (platform : ServerPlatform) (driver : ServerDriver) (h : ServerHandler)
    (p : List (String × Json)) (area : ModbusDataArea) (start : UInt16)
    (harea : h.units (uidOf p) = some area) (hsize : ((areaOf p).get area).length ≤ 65536)
    (hstart : addressIntOf p = start.toNat) :
    (AllOrNothing h.units (areaOf p) (uidOf p) area start.toNat
        (registersOf (driver.parts platform).coding p)
        (driver.handle platform h "set_registers_batch" (obj p)) ↔
      FitsOrThere ((areaOf p).get area) start.toNat
        (registersOf (driver.parts platform).coding p)) ∧
    (InRange (driver.parts platform).coding p ((areaOf p).get area) start.toNat
        (driver.handle platform h "get_registers_batch" (obj p)).2 ↔
      ¬ GoesRound ((areaOf p).get area) start.toNat p) := by
  rw [driver.handle_eq, handle_setRegistersBatch _ harea, handle_getRegistersBatch _ harea]
  exact ⟨setRegistersBatch_iff harea hsize hstart, getRegistersBatch_iff harea hsize hstart⟩

/-- Unit 1 with four cells of each kind. -/
def fourCells : ServerHandler :=
  { units := fun u => if u = 1 then some (.ofSize 4) else none }

/-- Two registers at address 3. -/
def pastTheEnd : List (String × Json) :=
  [("address", num 3), ("unit_id", num 1), ("values", arr [num 7, num 8])]

/-- Two registers at address 2 of four are both written. -/
theorem two_at_two_written :
    AllOrNothing fourCells.units .holdingRegisters 1 (.ofSize 4) 2 [7, 8]
      (ModbusTcpServerHandler.handle deafPlatform fourCells "set_registers_batch"
        (obj [("address", num 2), ("unit_id", num 1), ("values", arr [num 7, num 8])])) := by
  have hboth := (batch_commands_iff deafPlatform .tcp fourCells
    [("address", num 2), ("unit_id", num 1), ("values", arr [num 7, num 8])] (.ofSize 4) 2
    rfl (by decide) (by decide)).1
  exact hboth.mpr (by decide)

/-- **At address 3 the command fails, and the first register is written.** -/
theorem half_written :
    (ModbusTcpServerHandler.handle deafPlatform fourCells "set_registers_batch"
        (obj pastTheEnd)).2.status = .error ∧
      (ModbusTcpServerHandler.handle deafPlatform fourCells "set_registers_batch"
        (obj pastTheEnd)).1.units.getHoldingRegister 1 3 = some 7 ∧
      fourCells.units.getHoldingRegister 1 3 = some 0 := by
  decide

end Stdiolink.Modbus
