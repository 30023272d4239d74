/-
  Stdiolink.Modbus.UnitTable — units and single cells of the three Modbus servers.

  `addUnit`, `removeUnit`, `getUnits` and the eight functions that set or get one cell are the same
  in `modbus_tcp_server.cpp`, `modbus_rtu_server.cpp` and `modbus_rtu_serial_server.cpp`.

  Main results:
    * `getCell_setCell` — a cell that was set is the only one that changed;
    * `getCell_trySetCell` — so it is when nobody looks whether it was;
    * `setEach_eq`      — a loop over consecutive cells of one unit is a loop over one list;
    * `written_fits` / `written_stops` — what such a loop writes, up to its first failure.
-/
import Stdiolink.Lib.Memory
import Stdiolink.Modbus.DataModel

namespace Stdiolink.Modbus

open Stdiolink.Lib

/-! ## §1. One of the four vectors -/

/-- A vector of a data area: how to read it, and how to replace it without touching the others. -/
structure Cells (α : Type) where
  get : ModbusDataArea → List α
  put : ModbusDataArea → List α → ModbusDataArea
  get_put : ∀ area cells, get (put area cells) = cells
  put_get : ∀ area, put area (get area) = area
  put_put : ∀ area cells cells', put (put area cells) cells' = put area cells'

namespace Cells

attribute [simp] get_put put_get put_put

def coils : Cells Bool where
  get area := area.coils
  put area cells := { area with coils := cells }
  get_put _ _ := rfl
  put_get _ := rfl
  put_put _ _ _ := rfl

def discreteInputs : Cells Bool where
  get area := area.discreteInputs
  put area cells := { area with discreteInputs := cells }
  get_put _ _ := rfl
  put_get _ := rfl
  put_put _ _ _ := rfl

def holdingRegisters : Cells UInt16 where
  get area := area.holdingRegisters
  put area cells := { area with holdingRegisters := cells }
  get_put _ _ := rfl
  put_get _ := rfl
  put_put _ _ _ := rfl

def inputRegisters : Cells UInt16 where
  get area := area.inputRegisters
  put area cells := { area with inputRegisters := cells }
  get_put _ _ := rfl
  put_get _ := rfl
  put_put _ _ _ := rfl

/-- Another list is another area. -/
theorem put_inj {α : Type} (c : Cells α) {area : ModbusDataArea} {cells : List α} :
    c.put area cells = area ↔ cells = c.get area := by
  constructor
  · intro h
    rw [← c.get_put area cells, h]
  · intro h
    rw [h, c.put_get]

/-- Two vectors of which one is not touched when the other is replaced. -/
def Apart {α β : Type} (c : Cells α) (c' : Cells β) : Prop :=
  ∀ area cells, c.get (c'.put area cells) = c.get area

end Cells

/-! ## §2. Units -/

/-- `m_unitDataAreas`. -/
abbrev UnitDataAreas := UInt8 → Option ModbusDataArea

namespace UnitDataAreas

variable (units : UnitDataAreas)

/-- The data area of one unit is replaced. -/
def put (unitId : UInt8) (area : Option ModbusDataArea) : UnitDataAreas :=
  fun u => if u = unitId then area else units u

@[simp] theorem put_self (unitId : UInt8) (area : Option ModbusDataArea) :
    units.put unitId area unitId = area := if_pos rfl

variable {unitId : UInt8}

theorem put_of_ne {u : UInt8} (area : Option ModbusDataArea) (h : u ≠ unitId) :
    units.put unitId area u = units u := if_neg h

@[simp] theorem put_put (unitId : UInt8) (area area' : Option ModbusDataArea) :
    (units.put unitId area).put unitId area' = units.put unitId area' := by
  funext u
  unfold put
  split_ifs <;> rfl

/-- The units are the same iff the data area is. -/
theorem put_eq_iff {area : Option ModbusDataArea} :
    units.put unitId area = units ↔ area = units unitId := by
  constructor
  · intro h
    rw [← units.put_self unitId area, h]
  · intro h
    funext u
    unfold put
    split_ifs with hu
    · rw [hu, h]
    · rfl

def hasUnit (unitId : UInt8) : Bool := (units unitId).isSome

/-- `addUnit`: none for `false`.  The size is not checked; one below zero gives no cells here, and
`QVector` does not say what it gives. -/
def addUnit (unitId : UInt8) (dataAreaSize : Int) : Option UnitDataAreas :=
  if units.hasUnit unitId then none
  else some (units.put unitId (some (.ofSize dataAreaSize.toNat)))

/-- `removeUnit`: none for `false`. -/
def removeUnit (unitId : UInt8) : Option UnitDataAreas :=
  if units.hasUnit unitId then some (units.put unitId none) else none

/-- `getUnits`: the keys, in their order. -/
def getUnits : List UInt8 := ((List.range 256).map UInt8.ofNat).filter units.hasUnit

variable {units}

/-- Adding a unit changes the units. -/
theorem addUnit_ne {dataAreaSize : Int} {units' : UnitDataAreas}
    (h : units.addUnit unitId dataAreaSize = some units') :
    units.hasUnit unitId = false ∧ units'.hasUnit unitId = true ∧
      ∀ u, units.hasUnit u = true → units' u = units u := by
  unfold addUnit at h
  split_ifs at h with hhas
  obtain rfl := Option.some.inj h
  refine ⟨by simpa using hhas, by rw [hasUnit, put_self]; rfl, ?_⟩
  intro u hu
  apply put_of_ne
  rintro rfl
  exact hhas hu

/-! ## §3. Cells -/

section OneCell

variable (units) {α : Type} (c : Cells α) (unitId : UInt8) (address : UInt16)

/-- The common body of the four functions that set a cell: none for `false`. -/
def setCell (value : α) : Option UnitDataAreas :=
  match units unitId with
  | none => none
  | some area =>
    (setChecked (c.get area) address.toNat value).map fun cells =>
      units.put unitId (some (c.put area cells))

/-- The common body of the four functions that get a cell. -/
def getCell : Option α :=
  match units unitId with
  | none => none
  | some area => (c.get area)[address.toNat]?

end OneCell

def setCoil (units : UnitDataAreas) : UInt8 → UInt16 → Bool → Option UnitDataAreas :=
  units.setCell .coils

def getCoil (units : UnitDataAreas) : UInt8 → UInt16 → Option Bool := units.getCell .coils

def setDiscreteInput (units : UnitDataAreas) : UInt8 → UInt16 → Bool → Option UnitDataAreas :=
  units.setCell .discreteInputs

def getDiscreteInput (units : UnitDataAreas) : UInt8 → UInt16 → Option Bool :=
  units.getCell .discreteInputs

def setHoldingRegister (units : UnitDataAreas) : UInt8 → UInt16 → UInt16 → Option UnitDataAreas :=
  units.setCell .holdingRegisters

def getHoldingRegister (units : UnitDataAreas) : UInt8 → UInt16 → Option UInt16 :=
  units.getCell .holdingRegisters

def setInputRegister (units : UnitDataAreas) : UInt8 → UInt16 → UInt16 → Option UnitDataAreas :=
  units.setCell .inputRegisters

def getInputRegister (units : UnitDataAreas) : UInt8 → UInt16 → Option UInt16 :=
  units.getCell .inputRegisters

section CellLemmas

variable {α : Type} {c : Cells α} {unitId : UInt8} {address : UInt16}

/-- **A cell that was set** holds the value, and the other cells of the vector are as before. -/
theorem getCell_setCell {value : α} {units' : UnitDataAreas}
    (h : units.setCell c unitId address value = some units') (a : UInt16) :
    units'.getCell c unitId a =
      if a = address then some value else units.getCell c unitId a := by
  unfold setCell at h
  cases harea : units unitId with
  | none => simp [harea] at h
  | some area =>
    simp only [harea, setChecked] at h
    split_ifs at h with hlt
    · obtain rfl := Option.some.inj h
      unfold getCell
      simp only [put_self, harea, c.get_put]
      rw [List.getElem?_set]
      by_cases ha : a = address
      · rw [if_pos ha, ha, if_pos rfl, if_pos hlt]
      · rw [if_neg ha, if_neg fun heq => ha (UInt16.toNat_inj.mp heq).symm]
    · simp at h

/-- A cell can be set where it can be got. -/
theorem setCell_eq_none {value : α} (h : units.setCell c unitId address value = none) :
    units.getCell c unitId address = none := by
  unfold setCell at h
  unfold getCell
  cases harea : units unitId with
  | none => rfl
  | some area =>
    simp only [harea, setChecked] at h
    split_ifs at h with hlt
    · cases h
    · show (c.get area)[address.toNat]? = none
      exact List.getElem?_eq_none (Nat.not_lt.mp hlt)

/-- A set whose result nobody looks at. -/
def trySetCell (units : UnitDataAreas) (c : Cells α) (unitId : UInt8) (address : UInt16)
    (value : α) : UnitDataAreas :=
  (units.setCell c unitId address value).getD units

/-- **Its cell** holds the value, if it is there, and no other cell of the vector changes. -/
theorem getCell_trySetCell (value : α) (a : UInt16) :
    (units.trySetCell c unitId address value).getCell c unitId a =
      if a = address then (units.getCell c unitId a).map fun _ => value
      else units.getCell c unitId a := by
  unfold trySetCell
  cases hset : units.setCell c unitId address value with
  | none =>
    show units.getCell c unitId a = _
    split_ifs with ha
    · rw [ha, setCell_eq_none hset]
      rfl
    · rfl
  | some units' =>
    show units'.getCell c unitId a = _
    rw [getCell_setCell hset]
    split_ifs with ha
    · subst ha
      cases hcell : units.getCell c unitId a with
      | none =>
        exfalso
        unfold setCell at hset
        unfold getCell at hcell
        cases harea : units unitId with
        | none => simp [harea] at hset
        | some area =>
          simp only [harea] at hset hcell
          rw [setChecked, if_neg (Nat.not_lt.mpr (List.getElem?_eq_none_iff.mp hcell))] at hset
          cases hset
      | some _ => rfl
    · rfl

/-- No cell of another vector changes. -/
theorem getCell_trySetCell_of_apart {β : Type} {c' : Cells β} (h : c.Apart c') (value : β)
    (a : UInt16) :
    (units.trySetCell c' unitId address value).getCell c unitId a = units.getCell c unitId a := by
  unfold trySetCell setCell getCell
  cases harea : units unitId with
  | none => simp [harea]
  | some area =>
    dsimp only
    cases hset : setChecked (c'.get area) address.toNat value with
    | none =>
      show (match units unitId with | none => none | some area => (c.get area)[a.toNat]?) = _
      rw [harea]
    | some cells =>
      show (match units.put unitId (some (c'.put area cells)) unitId with
        | none => none
        | some area => (c.get area)[a.toNat]?) = _
      rw [put_self]
      show (c.get (c'.put area cells))[a.toNat]? = _
      rw [h]

end CellLemmas

/-! ## §4. Consecutive cells -/

/-- The address of the `i`th cell: an `int`, narrowed to 16 bits. -/
def addressAt (start : UInt16) (i : Nat) : UInt16 := UInt16.ofNat (start.toNat + i)

theorem addressAt_toNat {start : UInt16} {i : Nat} (h : start.toNat + i < 65536) :
    (addressAt start i).toNat = start.toNat + i :=
  UInt16.toNat_ofNat_of_lt' h

/-- The loop that sets the `i`th and the following cells: the units after it, and the number of the
cell that could not be set. -/
def setEach {α : Type} (c : Cells α) (unitId : UInt8) (start : UInt16) :
    UnitDataAreas → Nat → List α → UnitDataAreas × Option Nat
  | units, _, [] => (units, none)
  | units, i, value :: rest =>
    match units.setCell c unitId (addressAt start i) value with
    | none => (units, some i)
    | some units' => setEach c unitId start units' (i + 1) rest

/-- The same loop over the vector alone. -/
def written {α : Type} (start : UInt16) : List α → Nat → List α → List α × Option Nat
  | cells, _, [] => (cells, none)
  | cells, i, value :: rest =>
    match setChecked cells (addressAt start i).toNat value with
    | none => (cells, some i)
    | some cells' => written start cells' (i + 1) rest

/-- The loop that gets the `i`th and the following cells, `n` of them: their values, or the number of
the first that is not there. -/
def getEach {α : Type} (units : UnitDataAreas) (c : Cells α) (unitId : UInt8) (start : UInt16) :
    Nat → Nat → Except Nat (List α)
  | _, 0 => .ok []
  | i, n + 1 =>
    match units.getCell c unitId (addressAt start i) with
    | none => .error i
    | some value =>
      match getEach units c unitId start (i + 1) n with
      | .error k => .error k
      | .ok rest => .ok (value :: rest)

section Loops

variable {α : Type} (c : Cells α) {unitId : UInt8} (start : UInt16)

/-- **The loop over the units is the loop over the vector.** -/
theorem setEach_eq {area : ModbusDataArea} (harea : units unitId = some area) (i : Nat)
    (values : List α) :
    setEach c unitId start units i values =
      (units.put unitId (some (c.put area (written start (c.get area) i values).1)),
        (written start (c.get area) i values).2) := by
  induction values generalizing units area i with
  | nil =>
    show (units, none) = (units.put unitId (some (c.put area (c.get area))), none)
    rw [c.put_get, (put_eq_iff units).mpr harea.symm]
  | cons value rest ih =>
    rw [setEach, written, setCell, harea]
    dsimp only
    cases hset : setChecked (c.get area) (addressAt start i).toNat value with
    | none =>
      show (units, some i) = (units.put unitId (some (c.put area (c.get area))), some i)
      rw [c.put_get, (put_eq_iff units).mpr harea.symm]
    | some cells =>
      show setEach c unitId start (units.put unitId (some (c.put area cells))) (i + 1) rest = _
      rw [ih (put_self units unitId _), put_put, c.put_put, c.get_put]

variable {start} {cells : List α}

/-- Inside the vector nothing fails: the values take the places of as many cells. -/
theorem written_over (front old back : List α) (i : Nat) (values : List α)
    (hfront : front.length = start.toNat + i) (hold : old.length = values.length)
    (hsize : (front ++ old ++ back).length ≤ 65536) :
    written start (front ++ old ++ back) i values = (front ++ values ++ back, none) := by
  induction values generalizing front old i with
  | nil =>
    obtain rfl := List.eq_nil_of_length_eq_zero hold
    rfl
  | cons value rest ih =>
    cases old with
    | nil => cases hold
    | cons cell old =>
      simp only [List.length_append, List.length_cons] at hsize hold
      have haddr : (addressAt start i).toNat = front.length := by
        rw [hfront, addressAt_toNat (by omega)]
      have hset : setChecked (front ++ cell :: old ++ back) front.length value =
          some ((front ++ [value]) ++ old ++ back) := by
        rw [setChecked, if_pos (by simp), List.append_assoc, List.set_append_right _ _ le_rfl,
          Nat.sub_self]
        simp
      rw [written, haddr, hset]
      show written start ((front ++ [value]) ++ old ++ back) (i + 1) rest = _
      rw [ih (front ++ [value]) old (i + 1) (by rw [List.length_append, hfront]; rfl) (by omega)
        (by simp only [List.length_append, List.length_cons, List.length_nil]; omega)]
      simp

/-- The same with the front and the back cut out of the vector. -/
theorem written_fits (hsize : cells.length ≤ 65536) (values : List α)
    (h : start.toNat + values.length ≤ cells.length) :
    written start cells 0 values =
      (cells.take start.toNat ++ values ++ cells.drop (start.toNat + values.length), none) := by
  have hcells : cells.take start.toNat ++ (cells.drop start.toNat).take values.length ++
      cells.drop (start.toNat + values.length) = cells := by
    rw [List.append_assoc, ← List.drop_drop, List.take_append_drop, List.take_append_drop]
  have hfront : (cells.take start.toNat).length = start.toNat + 0 := by
    rw [List.length_take]
    omega
  have hold : ((cells.drop start.toNat).take values.length).length = values.length := by
    rw [List.length_take, List.length_drop]
    omega
  have hover := written_over _ _ (cells.drop (start.toNat + values.length)) 0 values hfront hold
    (by rwa [hcells])
  rwa [hcells] at hover

/-- One list after another. -/
theorem written_append (cells : List α) (i : Nat) (first second : List α) :
    written start cells i (first ++ second) =
      match written start cells i first with
      | (cells', none) => written start cells' (i + first.length) second
      | (cells', some k) => (cells', some k) := by
  induction first generalizing cells i with
  | nil => rfl
  | cons value rest ih =>
    rw [List.cons_append, written, written]
    cases hset : setChecked cells (addressAt start i).toNat value with
    | none => rfl
    | some cells' =>
      show written start cells' (i + 1) (rest ++ second) = _
      rw [ih, List.length_cons, show i + 1 + rest.length = i + (rest.length + 1) by omega]

/-- **Past the end of the vector** the loop stops with what it has written so far. -/
theorem written_stops (hsize : cells.length < 65536) (values : List α)
    (h : cells.length - start.toNat < values.length) :
    written start cells 0 values =
      (cells.take start.toNat ++ values.take (cells.length - start.toNat),
        some (cells.length - start.toNat)) := by
  obtain hle | hlt := Nat.le_total start.toNat cells.length
  · have hlen : (values.take (cells.length - start.toNat)).length =
        cells.length - start.toNat := by
      rw [List.length_take]
      omega
    have hinside : start.toNat + (values.take (cells.length - start.toNat)).length ≤
        cells.length := by omega
    have hfits := written_fits hsize.le _ hinside
    have hend : start.toNat + (cells.length - start.toNat) = cells.length := by omega
    rw [hlen, hend, List.drop_length, List.append_nil] at hfits
    rw [← List.take_append_drop (cells.length - start.toNat) values, written_append,
      List.take_append_drop, hfits]
    show written start _ (0 + (values.take _).length) (values.drop _) = _
    cases hrest : values.drop (cells.length - start.toNat) with
    | nil =>
      rw [List.drop_eq_nil_iff] at hrest
      omega
    | cons value rest =>
      have haddr : (addressAt start (cells.length - start.toNat)).toNat = cells.length := by
        rw [addressAt_toNat (by omega)]
        omega
      rw [hlen, Nat.zero_add, written, haddr, setChecked, if_neg]
      rw [List.length_append, List.length_take, hlen]
      omega
  · cases values with
    | nil => exact absurd h (Nat.not_lt_zero _)
    | cons value rest =>
      have hstart := start.toNat_lt
      have haddr : (addressAt start 0).toNat = start.toNat := addressAt_toNat (by omega)
      have hzero : cells.length - start.toNat = 0 := by omega
      rw [written, haddr, setChecked, if_neg (by omega), hzero, List.take_zero, List.append_nil,
        List.take_of_length_le hlt]

/-- A vector with a cell for each address never fails. -/
theorem written_full (hsize : cells.length = 65536) (i : Nat) (values : List α) :
    (written start cells i values).2 = none := by
  induction values generalizing cells i with
  | nil => rfl
  | cons value rest ih =>
    have haddr := (addressAt start i).toNat_lt
    rw [written, setChecked, if_pos (by omega)]
    exact ih (by rwa [List.length_set]) (i + 1)

variable {c}

/-- **What the loop gets** are the cells at their addresses, in their order. -/
theorem getEach_ok {i n : Nat} {values : List α}
    (h : units.getEach c unitId start i n = .ok values) :
    values.length = n ∧ ∀ k < n, units.getCell c unitId (addressAt start (i + k)) = values[k]? := by
  induction n generalizing i values with
  | zero =>
    obtain rfl : [] = values := Except.ok.inj h
    exact ⟨rfl, nofun⟩
  | succ n ih =>
    unfold getEach at h
    cases hcell : units.getCell c unitId (addressAt start i) with
    | none => simp [hcell] at h
    | some value =>
      cases hrest : units.getEach c unitId start (i + 1) n with
      | error k => simp [hcell, hrest] at h
      | ok rest =>
        simp only [hcell, hrest] at h
        obtain rfl := Except.ok.inj h
        obtain ⟨hlen, hcells⟩ := ih hrest
        refine ⟨by rw [List.length_cons, hlen], fun k hk => ?_⟩
        cases k with
        | zero => exact hcell
        | succ k =>
          rw [List.getElem?_cons_succ, ← hcells k (by omega), Nat.add_right_comm, Nat.add_assoc]

/-- It gets something when all of them are there. -/
theorem getEach_isOk {i n : Nat}
    (h : ∀ k < n, (units.getCell c unitId (addressAt start (i + k))).isSome = true) :
    ∃ values, units.getEach c unitId start i n = .ok values := by
  induction n generalizing i with
  | zero => exact ⟨[], rfl⟩
  | succ n ih =>
    obtain ⟨value, hvalue⟩ := Option.isSome_iff_exists.mp (h 0 (Nat.succ_pos n))
    have hrest : ∀ k < n, (units.getCell c unitId (addressAt start (i + 1 + k))).isSome = true := by
      intro k hk
      rw [Nat.add_assoc, Nat.add_comm 1]
      exact h (k + 1) (by omega)
    obtain ⟨rest, hok⟩ := ih hrest
    refine ⟨value :: rest, ?_⟩
    show (match units.getCell c unitId (addressAt start (i + 0)) with
      | none => _
      | some value => _) = _
    rw [hvalue, hok]

end Loops

end UnitDataAreas

end Stdiolink.Modbus
