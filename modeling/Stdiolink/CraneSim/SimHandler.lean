/-
  Stdiolink.CraneSim.SimHandler — the handler of the simulated crane, `handler.cpp`.

  The handler serves one unit over Modbus TCP.  The server stores what a master writes; then the
  handler offers it to the device, register by register, and copies the registers and the state of
  the device back into the data area.

  Main results:
    * `offerLoop_spec`      — the loop over the registers, when its end is not past the last address;
    * `offerLoop_rejected`  — a register that the device does not take is the device's own again;
    * `step_present`        — the cells of the map are there in every state;
    * `shows_accepted`      — after every step and a refresh, the unit shows the device.
-/
import Stdiolink.CraneSim.SimDevice
import Stdiolink.Modbus.ServerHandlers

namespace Stdiolink.CraneSim

open Stdiolink.Lib
open Stdiolink.Modbus
open Stdiolink.Protocol
open Stdiolink.Protocol.Json

/-! ## §1. The handler -/

/-- `SimRunConfig`, without the periods of the two timers. -/
structure SimRunConfig where
  listenAddress : String := ""
  listenPort : Int := 502
  unitId : UInt8 := 1
  dataAreaSize : Int := 256
  delays : Config := {}
  eventMode : String := "write"

/-- The handler; its server listens exactly while `running`. -/
structure SimPlcCraneHandler where
  cfg : SimRunConfig := {}
  device : SimPlcCraneDevice := { cfg := {} }
  server : ModbusTcpServer := ⟨fun _ => none⟩
  running : Bool := false

/-- `m_eventResponder.event`, with code 0. -/
def simEvent (eventName : String) (data : List (String × Json)) : Message :=
  ⟨.event, 0, obj [("data", obj data), ("event", str eventName)]⟩

namespace SimPlcCraneHandler

def kHrMaxAddress : UInt16 := 3
def kDiCylinderUp : UInt16 := 9
def kDiCylinderDown : UInt16 := 10
def kDiValveOpen : UInt16 := 13
def kDiValveClosed : UInt16 := 14

section Cells

variable (h : SimPlcCraneHandler)

/-- `m_server.getHoldingRegister`, of the unit. -/
def holding (address : UInt16) : Option UInt16 :=
  UnitDataAreas.getHoldingRegister h.server.unitDataAreas h.cfg.unitId address

/-- `m_server.getDiscreteInput`, of the unit. -/
def discrete (address : UInt16) : Option Bool :=
  UnitDataAreas.getDiscreteInput h.server.unitDataAreas h.cfg.unitId address

/-- `m_server.setHoldingRegister`, of the unit. -/
def setHolding (address value : UInt16) : SimPlcCraneHandler :=
  { h with server := ⟨UnitDataAreas.trySetCell h.server.unitDataAreas .holdingRegisters h.cfg.unitId
    address value⟩ }

/-- `m_server.setDiscreteInput`, of the unit. -/
def setDiscrete (address : UInt16) (value : Bool) : SimPlcCraneHandler :=
  { h with server := ⟨UnitDataAreas.trySetCell h.server.unitDataAreas .discreteInputs h.cfg.unitId
    address value⟩ }

end Cells

/-! ## §2. Refresh and writes -/

section Writes

variable (h : SimPlcCraneHandler)

/-- `diCylinderUp` and the other three, as `snapshot` has them. -/
def diCylinderUp : Bool := h.device.cylinder.state = CylinderState.atTop
def diCylinderDown : Bool := h.device.cylinder.state = CylinderState.atBottom
def diValveOpen : Bool := h.device.valve.state = ValveState.opened
def diValveClosed : Bool := h.device.valve.state = ValveState.closed

/-- `syncDataAreaFromDevice`: the values go through `snapshot`, which does not change them. -/
def syncDataAreaFromDevice : SimPlcCraneHandler :=
  if h.running then
    (((((((h.setHolding 0 h.device.cylinder.register).setHolding 1 h.device.valve.register).setHolding
      2 h.device.hrRun).setHolding 3 h.device.hrMode).setDiscrete
      -- low when it is up
      kDiCylinderUp (!h.diCylinderUp)).setDiscrete kDiCylinderDown h.diCylinderDown).setDiscrete
      kDiValveOpen h.diValveOpen).setDiscrete kDiValveClosed h.diValveClosed
  else h

/-- The event about a register that is not taken. -/
def rejected (address value : UInt16) (message : String) : Message :=
  simEvent "sim_write_rejected" [("address", num address.toNat), ("message", str message),
    ("value", num value.toNat)]

/-- One turn of the loop of `onDataWritten`. -/
def offerRegister (cursor : UInt16) : SimPlcCraneHandler × List Message :=
  match h.holding cursor with
  | none => (h, [])
  | some value =>
    if cursor > kHrMaxAddress then
      -- the value stays where the master wrote it
      (h, [rejected cursor value
        ("Unsupported holding register address: " ++ toString cursor.toNat)])
    else
      match h.device.writeHoldingRegister cursor value with
      | (device, none) => ({ h with device := device }, [])
      | (device, some err) =>
        ({ h with device := device }.setHolding cursor (device.holdingRegister cursor),
          [rejected cursor value err])

/-- The loop of `onDataWritten` over `n` registers. -/
def offerLoop (h : SimPlcCraneHandler) (cursor : UInt16) : Nat → SimPlcCraneHandler × List Message
  | 0 => (h, [])
  | n + 1 =>
    let (h, events) := h.offerRegister cursor
    let (h, more) := h.offerLoop (cursor + 1) n
    (h, events ++ more)

/-- `onDataWritten`. -/
def onDataWritten (unitId : UInt8) (function : ModbusFunctionCode) (address quantity : UInt16) :
    SimPlcCraneHandler × List Message :=
  if !h.running || unitId ≠ h.cfg.unitId then (h, [])
  else if function ≠ .writeSingleRegister && function ≠ .writeMultipleRegisters then (h, [])
  else
    -- 0 when the last register written is the last there can be
    let endAddress := address + quantity
    let (h, events) := h.offerLoop address (endAddress.toNat - address.toNat)
    (h.syncDataAreaFromDevice, events)

def eventReadEnabled : Bool := h.cfg.eventMode = "all" || h.cfg.eventMode = "read"

def eventWriteEnabled : Bool := h.cfg.eventMode = "all" || h.cfg.eventMode = "write"

/-- The data of `data_written` and `data_read`. -/
def accessData (unitId : UInt8) (function : ModbusFunctionCode) (address quantity : UInt16) :
    List (String × Json) :=
  [("address", num address.toNat), ("function_code", num function.code.toNat),
    ("quantity", num quantity.toNat), ("unit_id", num unitId.toNat)]

/-- What is connected to the signals of the server. -/
def onSignal : ModbusSignal → SimPlcCraneHandler × List Message
  | .dataRead unitId function address quantity =>
    (h, if h.eventReadEnabled then
      [simEvent "data_read" (accessData unitId function address quantity)] else [])
  | .dataWritten unitId function address quantity =>
    let (h, events) := h.onDataWritten unitId function address quantity
    (h, events ++ if h.eventWriteEnabled then
      [simEvent "data_written" (accessData unitId function address quantity)] else [])

/-- The signals of one request, in their order. -/
def onSignals (h : SimPlcCraneHandler) : List ModbusSignal → SimPlcCraneHandler × List Message
  | [] => (h, [])
  | signal :: rest =>
    let (h, events) := h.onSignal signal
    let (h, more) := h.onSignals rest
    (h, events ++ more)

end Writes

/-! ## §3. Run and steps -/

/-- The configuration in the parameters of `run`. -/
def runConfig (data : List (String × Json)) : SimRunConfig where
  listenAddress := toStr (value data "listen_address")
  listenPort := toIntOr 502 (value data "listen_port")
  unitId := UInt8.ofInt (toIntOr 1 (value data "unit_id"))
  dataAreaSize := toIntOr 256 (value data "data_area_size")
  delays :=
    { cylinderUpDelayMs := (toIntOr 2500 (value data "cylinder_up_delay")).toNat
      cylinderDownDelayMs := (toIntOr 2000 (value data "cylinder_down_delay")).toNat
      valveOpenDelayMs := (toIntOr 1500 (value data "valve_open_delay")).toNat
      valveCloseDelayMs := (toIntOr 1200 (value data "valve_close_delay")).toNat }
  eventMode := String.ofList (Cli.trimmed (toStrOr "write" (value data "event_mode")).toList)

/-- `handleRun`; `listen` is the one of the socket. -/
def handleRun (listen : String → UInt16 → Except String UInt16) (h : SimPlcCraneHandler)
    (data : List (String × Json)) : SimPlcCraneHandler × Message :=
  if h.running then (h, refusal "Server already running")
  else
    let cfg := runConfig data
    let h := { h with cfg := cfg, device := { h.device with cfg := cfg.delays } }
    match listen cfg.listenAddress (UInt16.ofInt cfg.listenPort) with
    | .error errorString =>
      (h, ⟨.error, 1, obj [("message", str ("Failed to listen on " ++
        (if cfg.listenAddress.isEmpty then "0.0.0.0" else cfg.listenAddress) ++ ":" ++
        toString cfg.listenPort ++ ": " ++ errorString))]⟩)
    | .ok serverPort =>
      match UnitDataAreas.addUnit h.server.unitDataAreas cfg.unitId cfg.dataAreaSize with
      | none =>
        (h, ⟨.error, 1,
          obj [("message", str ("Failed to add unit " ++ toString cfg.unitId.toNat))]⟩)
      | some units =>
        ({ h with running := true, server := ⟨units⟩ }.syncDataAreaFromDevice,
          simEvent "started" [("event_mode", str cfg.eventMode),
            ("listen_address", str cfg.listenAddress), ("listen_port", num serverPort.toNat),
            ("unit_id", num cfg.unitId.toNat)])

/-- What happens to a handler that runs. -/
inductive SimInput where
  | request (bytes : List UInt8)
  | cylinderTimeout
  | valveTimeout
  | refresh
  deriving Repr, DecidableEq

/-- One step, with the events it sends.  A timer that is not running does not fire. -/
def step (h : SimPlcCraneHandler) : SimInput → SimPlcCraneHandler × List Message
  | .request bytes =>
    let processed := h.server.processRequest bytes
    { h with server := processed.server }.onSignals processed.signals
  | .cylinderTimeout => ({ h with device := (h.device.step .cylinderTimeout).1 }, [])
  | .valveTimeout => ({ h with device := (h.device.step .valveTimeout).1 }, [])
  | .refresh => (h.syncDataAreaFromDevice, [])

/-- The handler as a machine; it emits its events. -/
def machine : Machine SimPlcCraneHandler SimInput Message where
  step := step

/-! ## §4. What is written and taken -/

section Offered

variable (h : SimPlcCraneHandler)

/-- The registers of the unit from `cursor` on, with their addresses. -/
def registersFrom (h : SimPlcCraneHandler) (cursor : UInt16) : Nat → List (UInt16 × UInt16)
  | 0 => []
  | n + 1 =>
    match h.holding cursor with
    | none => registersFrom h (cursor + 1) n
    | some value => (cursor, value) :: registersFrom h (cursor + 1) n

/-- The registers that a request writes, with the values that the server has stored. -/
def written (bytes : List UInt8) : List (UInt16 × UInt16) :=
  let processed := h.server.processRequest bytes
  processed.signals.flatMap fun
    | .dataRead .. => []
    | .dataWritten unitId function address quantity =>
      if unitId = h.cfg.unitId ∧
          (function = .writeSingleRegister ∨ function = .writeMultipleRegisters) then
        { h with server := processed.server }.registersFrom address quantity.toNat
      else []

/-- What the device says to each of the registers, one after another. -/
def outcomes (d : SimPlcCraneDevice) :
    List (UInt16 × UInt16) → List (UInt16 × UInt16 × Option String)
  | [] => []
  | (address, value) :: rest =>
    (address, value, (d.writeHoldingRegister address value).2) ::
      outcomes (d.writeHoldingRegister address value).1 rest

/-- The device after all of them. -/
def offered (d : SimPlcCraneDevice) : List (UInt16 × UInt16) → SimPlcCraneDevice
  | [] => d
  | (address, value) :: rest => offered (d.writeHoldingRegister address value).1 rest

/-- The events about the registers that the device does not take. -/
def rejections (results : List (UInt16 × UInt16 × Option String)) : List Message :=
  results.filterMap fun (address, value, result) => result.map (rejected address value)

end Offered

section Taken

variable {d : SimPlcCraneDevice} {a : UInt16} {ws : List (UInt16 × UInt16)}

/-- A register that is not among them is as it was. -/
theorem offered_frame (hnot : a ∉ ws.map Prod.fst) (hauto : ((3 : UInt16), (1 : UInt16)) ∉ ws) :
    (offered d ws).holdingRegister a = d.holdingRegister a := by
  induction ws generalizing d with
  | nil => rfl
  | cons w rest ih =>
    obtain ⟨address, value⟩ := w
    rw [List.map_cons, List.mem_cons, not_or] at hnot
    rw [List.mem_cons, not_or, Prod.mk.injEq] at hauto
    rw [offered, ih hnot.2 hauto.2]
    exact SimPlcCraneDevice.writeHoldingRegister_frame hnot.1 fun h => hauto.1 ⟨h.1.symm, h.2.symm⟩

variable {value : UInt16}

theorem mem_outcomes {result : Option String} (h : (a, value, result) ∈ outcomes d ws) :
    (a, value) ∈ ws := by
  induction ws generalizing d with
  | nil => cases h
  | cons w rest ih =>
    obtain ⟨address, w⟩ := w
    rcases List.mem_cons.mp h with heq | hrest
    · obtain ⟨rfl, heq⟩ := Prod.mk.inj heq
      obtain ⟨rfl, -⟩ := Prod.mk.inj heq
      exact List.mem_cons_self
    · exact List.mem_cons_of_mem _ (ih hrest)

/-- **A register that is not taken is as it was**, unless the automatic mode is among the writes. -/
theorem offered_rejected {err : String} (hnodup : (ws.map Prod.fst).Nodup)
    (hauto : ((3 : UInt16), (1 : UInt16)) ∉ ws) (h : (a, value, some err) ∈ outcomes d ws) :
    (offered d ws).holdingRegister a = d.holdingRegister a := by
  induction ws generalizing d with
  | nil => cases h
  | cons w rest ih =>
    obtain ⟨address, v⟩ := w
    rw [List.map_cons, List.nodup_cons] at hnodup
    rw [List.mem_cons, not_or, Prod.mk.injEq] at hauto
    rcases List.mem_cons.mp h with heq | hrest
    · obtain ⟨rfl, heq⟩ := Prod.mk.inj heq
      obtain ⟨rfl, herr⟩ := Prod.mk.inj heq
      -- the device is the same before the rest
      rw [offered, SimPlcCraneDevice.writeHoldingRegister_error herr.symm]
      exact offered_frame hnodup.1 hauto.2
    · have hne : a ≠ address := by
        rintro rfl
        exact hnodup.1 (List.mem_map.mpr ⟨_, mem_outcomes hrest, rfl⟩)
      rw [offered, ih hnodup.2 hauto.2 hrest]
      exact SimPlcCraneDevice.writeHoldingRegister_frame hne
        fun h => hauto.1 ⟨h.1.symm, h.2.symm⟩

theorem mem_rejections {err : String} (h : (a, value, some err) ∈ outcomes d ws) :
    rejected a value err ∈ rejections (outcomes d ws) :=
  List.mem_filterMap.mpr ⟨_, h, rfl⟩

end Taken

/-! ## §5. Cells -/

section CellLemmas

variable {h : SimPlcCraneHandler}

theorem holding_setHolding (address value a : UInt16) :
    (h.setHolding address value).holding a =
      if a = address then (h.holding a).map fun _ => value else h.holding a :=
  UnitDataAreas.getCell_trySetCell value a

theorem discrete_setDiscrete (address : UInt16) (value : Bool) (a : UInt16) :
    (h.setDiscrete address value).discrete a =
      if a = address then (h.discrete a).map fun _ => value else h.discrete a :=
  UnitDataAreas.getCell_trySetCell value a

@[simp] theorem holding_setDiscrete (address : UInt16) (value : Bool) (a : UInt16) :
    (h.setDiscrete address value).holding a = h.holding a :=
  UnitDataAreas.getCell_trySetCell_of_apart (fun _ _ => rfl) value a

@[simp] theorem discrete_setHolding (address value a : UInt16) :
    (h.setHolding address value).discrete a = h.discrete a :=
  UnitDataAreas.getCell_trySetCell_of_apart (fun _ _ => rfl) value a

/-- **The cells of the map** are there, and the handler is running. -/
structure Present (h : SimPlcCraneHandler) : Prop where
  running : h.running = true
  holding : ∀ a ≤ 3, (h.holding a).isSome = true
  discrete : ∀ a ≤ 14, (h.discrete a).isSome = true

theorem Present.setHolding (hp : h.Present) (address value : UInt16) :
    (h.setHolding address value).Present where
  running := hp.running
  holding a ha := by
    rw [holding_setHolding]
    split_ifs
    · rw [Option.isSome_map]
      exact hp.holding a ha
    · exact hp.holding a ha
  discrete a ha := by
    rw [discrete_setHolding]
    exact hp.discrete a ha

theorem Present.setDiscrete (hp : h.Present) (address : UInt16) (value : Bool) :
    (h.setDiscrete address value).Present where
  running := hp.running
  holding a ha := by
    rw [holding_setDiscrete]
    exact hp.holding a ha
  discrete a ha := by
    rw [discrete_setDiscrete]
    split_ifs
    · rw [Option.isSome_map]
      exact hp.discrete a ha
    · exact hp.discrete a ha

/-- The device has no part in it. -/
theorem Present.withDevice (hp : h.Present) (d : SimPlcCraneDevice) :
    ({ h with device := d } : SimPlcCraneHandler).Present :=
  ⟨hp.running, hp.holding, hp.discrete⟩

theorem Present.sync (hp : h.Present) : h.syncDataAreaFromDevice.Present := by
  unfold syncDataAreaFromDevice
  rw [if_pos hp.running]
  exact (((((((hp.setHolding _ _).setHolding _ _).setHolding _ _).setHolding _ _).setDiscrete _
    _).setDiscrete _ _).setDiscrete _ _).setDiscrete _ _

theorem sync_device : h.syncDataAreaFromDevice.device = h.device := by
  unfold syncDataAreaFromDevice
  split_ifs <;> rfl

/-- **The unit shows the device.** -/
structure ShowsDevice (h : SimPlcCraneHandler) : Prop where
  registers : ∀ a ≤ 3, h.holding a = some (h.device.holdingRegister a)
  cylinderUp : h.discrete 9 = some (!decide (h.device.cylinder.state = CylinderState.atTop))
  cylinderDown : h.discrete 10 = some (decide (h.device.cylinder.state = CylinderState.atBottom))
  valveOpen : h.discrete 13 = some (decide (h.device.valve.state = ValveState.opened))
  valveClosed : h.discrete 14 = some (decide (h.device.valve.state = ValveState.closed))

/-- The addresses of the map. -/
theorem register_cases {a : UInt16} (ha : a ≤ 3) : a = 0 ∨ a = 1 ∨ a = 2 ∨ a = 3 := by
  have hle : a.toNat ≤ 3 := ha
  have hnat : a.toNat = 0 ∨ a.toNat = 1 ∨ a.toNat = 2 ∨ a.toNat = 3 := by omega
  rcases hnat with h | h | h | h
  · exact .inl (UInt16.toNat_inj.mp h)
  · exact .inr (.inl (UInt16.toNat_inj.mp h))
  · exact .inr (.inr (.inl (UInt16.toNat_inj.mp h)))
  · exact .inr (.inr (.inr (UInt16.toNat_inj.mp h)))

/-- **A refresh makes the unit show the device.** -/
theorem Present.shows (hp : h.Present) : h.syncDataAreaFromDevice.ShowsDevice := by
  have hdevice := sync_device (h := h)
  have hholding : ∀ a ≤ 3, ∃ v, h.holding a = some v :=
    fun a ha => Option.isSome_iff_exists.mp (hp.holding a ha)
  have hdiscrete : ∀ a ≤ 14, ∃ v, h.discrete a = some v :=
    fun a ha => Option.isSome_iff_exists.mp (hp.discrete a ha)
  constructor
  · intro a ha
    rw [hdevice]
    unfold syncDataAreaFromDevice
    rw [if_pos hp.running]
    simp only [holding_setDiscrete, holding_setHolding]
    rcases register_cases ha with rfl | rfl | rfl | rfl
    · obtain ⟨v, hv⟩ := hholding 0 (by decide)
      simp [hv, SimPlcCraneDevice.holdingRegister]
    · obtain ⟨v, hv⟩ := hholding 1 (by decide)
      simp [hv, SimPlcCraneDevice.holdingRegister]
    · obtain ⟨v, hv⟩ := hholding 2 (by decide)
      simp [hv, SimPlcCraneDevice.holdingRegister]
    · obtain ⟨v, hv⟩ := hholding 3 (by decide)
      simp [hv, SimPlcCraneDevice.holdingRegister]
  all_goals
    rw [hdevice]
    unfold syncDataAreaFromDevice kDiCylinderUp kDiCylinderDown kDiValveOpen kDiValveClosed
    rw [if_pos hp.running]
    simp only [discrete_setDiscrete, discrete_setHolding]
  · obtain ⟨v, hv⟩ := hdiscrete 9 (by decide)
    simp [hv, diCylinderUp]
  · obtain ⟨v, hv⟩ := hdiscrete 10 (by decide)
    simp [hv, diCylinderDown]
  · obtain ⟨v, hv⟩ := hdiscrete 13 (by decide)
    simp [hv, diValveOpen]
  · obtain ⟨v, hv⟩ := hdiscrete 14 (by decide)
    simp [hv, diValveClosed]

end CellLemmas

/-! ## §6. The loop over the registers -/

section Loop

variable {h : SimPlcCraneHandler}

variable {cursor : UInt16} {n : Nat}

theorem toNat_add_one (hn : cursor.toNat + (n + 1) < 65536) :
    (cursor + 1).toNat = cursor.toNat + 1 := by
  rw [UInt16.toNat_add]
  show (cursor.toNat + 1) % 65536 = _
  omega

/-- The registers behind an address that was set are the same. -/
theorem registersFrom_setHolding {address value : UInt16} (hn : cursor.toNat + n < 65536)
    (hbehind : address.toNat < cursor.toNat) :
    (h.setHolding address value).registersFrom cursor n = h.registersFrom cursor n := by
  induction n generalizing cursor with
  | zero => rfl
  | succ n ih =>
    have hnext := toNat_add_one hn
    have hne : cursor ≠ address := by
      rintro rfl
      omega
    rw [registersFrom, registersFrom, holding_setHolding, if_neg hne,
      ih (by omega) (by omega)]

/-- The addresses of the registers. -/
theorem mem_registersFrom {w : UInt16 × UInt16} (hn : cursor.toNat + n < 65536)
    (hw : w ∈ h.registersFrom cursor n) :
    cursor.toNat ≤ w.1.toNat := by
  induction n generalizing cursor with
  | zero => cases hw
  | succ n ih =>
    have hnext := toNat_add_one hn
    rw [registersFrom] at hw
    split at hw
    · have hle := ih (by omega) hw
      omega
    · rcases List.mem_cons.mp hw with rfl | hw
      · exact le_rfl
      · have hle := ih (by omega) hw
        omega

theorem nodup_registersFrom (hn : cursor.toNat + n < 65536) :
    ((h.registersFrom cursor n).map Prod.fst).Nodup := by
  induction n generalizing cursor with
  | zero => exact List.nodup_nil
  | succ n ih =>
    have hnext := toNat_add_one hn
    rw [registersFrom]
    split
    · exact ih (by omega)
    · rw [List.map_cons, List.nodup_cons]
      refine ⟨fun hmem => ?_, ih (by omega)⟩
      obtain ⟨w, hw, heq⟩ := List.mem_map.mp hmem
      have hle := mem_registersFrom (by omega) hw
      rw [show w.1 = cursor from heq] at hle
      omega

/-- The last of the registers is among them, if it is there. -/
theorem last_mem_registersFrom (hend : cursor.toNat + n ≥ 65536)
    (hthere : (h.holding 65535).isSome = true) :
    ∃ value, ((65535 : UInt16), value) ∈ h.registersFrom cursor n := by
  have hlt := cursor.toNat_lt
  induction n generalizing cursor with
  | zero => omega
  | succ n ih =>
    rw [registersFrom]
    by_cases hlast : cursor.toNat = 65535
    · obtain ⟨value, hvalue⟩ := Option.isSome_iff_exists.mp hthere
      obtain rfl : cursor = 65535 := UInt16.toNat_inj.mp hlast
      rw [hvalue]
      exact ⟨value, List.mem_cons_self⟩
    · have hnext : (cursor + 1).toNat = cursor.toNat + 1 := toNat_add_one (n := 0) (by omega)
      have hend' : (cursor + 1).toNat + n ≥ 65536 := by omega
      obtain ⟨value, hmem⟩ := ih hend' (by omega)
      refine ⟨value, ?_⟩
      split
      · exact hmem
      · exact List.mem_cons_of_mem _ hmem

/-- What one turn does with a register that is there. -/
theorem offerRegister_eq {value : UInt16} (hvalue : h.holding cursor = some value) :
    (h.offerRegister cursor).1.device = (h.device.writeHoldingRegister cursor value).1 ∧
      (h.offerRegister cursor).2 =
        ((h.device.writeHoldingRegister cursor value).2.map (rejected cursor value)).toList ∧
      ((h.offerRegister cursor).1 = { h with device := (h.offerRegister cursor).1.device } ∨
        ∃ canonical, (h.offerRegister cursor).1 =
          { h with device := (h.offerRegister cursor).1.device }.setHolding cursor canonical) := by
  unfold offerRegister
  rw [hvalue]
  dsimp only
  split_ifs with habove
  · rw [SimPlcCraneDevice.writeHoldingRegister_above habove]
    exact ⟨rfl, rfl, .inl rfl⟩
  · rcases h.device.writeHoldingRegister cursor value with ⟨device, _ | err⟩
    · exact ⟨rfl, rfl, .inl rfl⟩
    · exact ⟨rfl, rfl, .inr ⟨_, rfl⟩⟩

/-- One turn keeps the cells, and the registers behind it. -/
theorem offerRegister_keeps (hp : h.Present) (hn : cursor.toNat + (n + 1) < 65536) :
    (h.offerRegister cursor).1.Present ∧ (h.offerRegister cursor).1.cfg = h.cfg ∧
      (h.offerRegister cursor).1.registersFrom (cursor + 1) n =
        h.registersFrom (cursor + 1) n := by
  have hnext := toNat_add_one hn
  have hdevice : ∀ (d : SimPlcCraneDevice) c m,
      ({ h with device := d } : SimPlcCraneHandler).registersFrom c m = h.registersFrom c m := by
    intro d c m
    induction m generalizing c with
    | zero => rfl
    | succ m ih =>
      rw [registersFrom, registersFrom, ih]
      rfl
  cases hvalue : h.holding cursor with
  | none =>
    unfold offerRegister
    rw [hvalue]
    exact ⟨hp, rfl, rfl⟩
  | some value =>
    obtain ⟨-, -, hsame | ⟨canonical, hset⟩⟩ := offerRegister_eq hvalue
    · rw [hsame]
      exact ⟨hp.withDevice _, rfl, hdevice _ _ _⟩
    · rw [hset]
      refine ⟨(hp.withDevice _).setHolding _ _, rfl, ?_⟩
      rw [registersFrom_setHolding (by omega) (by omega), hdevice]

/-- **The loop** offers the registers to the device one after another, and sends an event for each
that the device does not take. -/
theorem offerLoop_spec (hp : h.Present) (hn : cursor.toNat + n < 65536) :
    (h.offerLoop cursor n).1.Present ∧ (h.offerLoop cursor n).1.cfg = h.cfg ∧
      (h.offerLoop cursor n).1.device = offered h.device (h.registersFrom cursor n) ∧
      (h.offerLoop cursor n).2 = rejections (outcomes h.device (h.registersFrom cursor n)) := by
  induction n generalizing h cursor with
  | zero => exact ⟨hp, rfl, rfl, rfl⟩
  | succ n ih =>
    have hnext := toNat_add_one hn
    obtain ⟨hp', hcfg', hregs⟩ := offerRegister_keeps hp hn
    have hbelow : (cursor + 1).toNat + n < 65536 := by omega
    obtain ⟨hpresent, hcfg, hdevice, hevents⟩ := ih hp' hbelow
    rw [hregs] at hdevice hevents
    rw [offerLoop, registersFrom]
    dsimp only
    refine ⟨hpresent, hcfg.trans hcfg', ?_, ?_⟩
    · rw [hdevice]
      cases hvalue : h.holding cursor with
      | none =>
        unfold offerRegister
        rw [hvalue]
      | some value =>
        rw [(offerRegister_eq hvalue).1]
        rfl
    · rw [hevents]
      cases hvalue : h.holding cursor with
      | none =>
        unfold offerRegister
        rw [hvalue]
        rfl
      | some value =>
        obtain ⟨hdev, hout, -⟩ := offerRegister_eq hvalue
        rw [hdev, hout]
        unfold rejections
        rw [outcomes, List.filterMap_cons]
        dsimp only
        cases (h.device.writeHoldingRegister cursor value).2 <;> rfl

end Loop

/-! ## §7. Requests -/

section Requests

open ModbusTcpServer

/-- What a handler of the server does to the cells of the map, and the signal that it sends. -/
theorem handle_cells (header : ModbusTCPHeader) (area : ModbusDataArea)
    (function : ModbusFunctionCode) (pdu : List UInt8) :
    ((handle header area function pdu).area.holdingRegisters.length =
        area.holdingRegisters.length ∧
      (handle header area function pdu).area.discreteInputs = area.discreteInputs) ∧
    ((handle header area function pdu).signals = [] ∨
      (∃ a q, (handle header area function pdu).signals =
        [.dataRead header.unitId function a q]) ∨
      ∃ a q, (handle header area function pdu).signals =
          [.dataWritten header.unitId function a q] ∧
        (function = .writeSingleRegister ∨ function = .writeMultipleRegisters →
          a.toNat + q.toNat ≤ area.holdingRegisters.length)) := by
  cases function with
  | readCoils =>
    unfold handle handleReadCoils handleReadBits
    dsimp only
    split_ifs
    · exact ⟨⟨rfl, rfl⟩, .inl rfl⟩
    · exact ⟨⟨rfl, rfl⟩, .inr (.inl ⟨_, _, rfl⟩)⟩
  | readDiscreteInputs =>
    unfold handle handleReadDiscreteInputs handleReadBits
    dsimp only
    split_ifs
    · exact ⟨⟨rfl, rfl⟩, .inl rfl⟩
    · exact ⟨⟨rfl, rfl⟩, .inr (.inl ⟨_, _, rfl⟩)⟩
  | readHoldingRegisters =>
    unfold handle handleReadHoldingRegisters handleReadRegisters
    dsimp only
    split_ifs
    · exact ⟨⟨rfl, rfl⟩, .inl rfl⟩
    · exact ⟨⟨rfl, rfl⟩, .inr (.inl ⟨_, _, rfl⟩)⟩
  | readInputRegisters =>
    unfold handle handleReadInputRegisters handleReadRegisters
    dsimp only
    split_ifs
    · exact ⟨⟨rfl, rfl⟩, .inl rfl⟩
    · exact ⟨⟨rfl, rfl⟩, .inr (.inl ⟨_, _, rfl⟩)⟩
  | writeSingleCoil =>
    unfold handle handleWriteSingleCoil
    dsimp only
    split_ifs
    · exact ⟨⟨rfl, rfl⟩, .inl rfl⟩
    · exact ⟨⟨rfl, rfl⟩, .inl rfl⟩
    · exact ⟨⟨rfl, rfl⟩, .inr (.inr ⟨_, _, rfl, by simp⟩)⟩
  | writeSingleRegister =>
    unfold handle handleWriteSingleRegister
    dsimp only
    split_ifs with hout
    · exact ⟨⟨rfl, rfl⟩, .inl rfl⟩
    · refine ⟨⟨List.length_set, rfl⟩, .inr (.inr ⟨_, _, rfl, fun _ => ?_⟩)⟩
      show (bytesToUInt16 pdu 0).toNat + 1 ≤ _
      omega
  | writeMultipleCoils =>
    unfold handle handleWriteMultipleCoils
    dsimp only
    split_ifs
    · exact ⟨⟨rfl, rfl⟩, .inl rfl⟩
    · exact ⟨⟨rfl, rfl⟩, .inl rfl⟩
    · exact ⟨⟨rfl, rfl⟩, .inr (.inr ⟨_, _, rfl, by simp⟩)⟩
  | writeMultipleRegisters =>
    unfold handle handleWriteMultipleRegisters
    dsimp only
    split_ifs with hout
    · exact ⟨⟨rfl, rfl⟩, .inl rfl⟩
    · exact ⟨⟨rfl, rfl⟩, .inl rfl⟩
    · refine ⟨⟨length_setRange _ _ _ _, rfl⟩, .inr (.inr ⟨_, _, rfl, fun _ => ?_⟩)⟩
      simp only [Bool.or_eq_true, decide_eq_true_eq, not_or] at hout
      omega

/-- **One request** leaves every unit its cells and sends one signal at most; the registers that it
writes are there. -/
theorem processRequest_cells (server : ModbusTcpServer) (bytes : List UInt8) :
    (∀ u area, server.unitDataAreas u = some area →
      ∃ area', (server.processRequest bytes).server.unitDataAreas u = some area' ∧
        area'.holdingRegisters.length = area.holdingRegisters.length ∧
        area'.discreteInputs = area.discreteInputs) ∧
    ((server.processRequest bytes).signals = [] ∨
      (∃ u f a q, (server.processRequest bytes).signals = [.dataRead u f a q]) ∨
      ∃ u f a q, (server.processRequest bytes).signals = [.dataWritten u f a q] ∧
        (f = .writeSingleRegister ∨ f = .writeMultipleRegisters →
          ∃ area', (server.processRequest bytes).server.unitDataAreas u = some area' ∧
            a.toNat + q.toNat ≤ area'.holdingRegisters.length)) := by
  have hsame : ∀ response : List UInt8,
      (∀ u area, (⟨server, [], response⟩ : Processed).server.unitDataAreas u = some area →
        ∃ area', (⟨server, [], response⟩ : Processed).server.unitDataAreas u = some area' ∧
          area'.holdingRegisters.length = area.holdingRegisters.length ∧
          area'.discreteInputs = area.discreteInputs) :=
    fun _ u area harea => ⟨area, harea, rfl, rfl⟩
  unfold processRequest
  dsimp only
  split_ifs
  · exact ⟨hsame _, .inl rfl⟩
  · cases parseHeader bytes with
    | none => exact ⟨hsame _, .inl rfl⟩
    | some header =>
      dsimp only
      split_ifs
      · exact ⟨hsame _, .inl rfl⟩
      · cases hunit : server.unitDataAreas header.unitId with
        | none => exact ⟨hsame _, .inl rfl⟩
        | some area =>
          dsimp only
          cases ModbusFunctionCode.ofByte (bytes.getD 7 0) with
          | none => exact ⟨hsame _, .inl rfl⟩
          | some function =>
            dsimp only
            by_cases hargs : (!argumentsOk function (bytes.drop 8)) = true
            · rw [if_pos hargs]
              exact ⟨hsame _, .inl rfl⟩
            · -- the request reaches its handler
              rw [if_neg hargs]
              obtain ⟨⟨hlength, hinputs⟩, hsignals⟩ :=
                handle_cells header area function (bytes.drop 8)
              have hself : (server.setArea header.unitId
                  (handle header area function (bytes.drop 8)).area).unitDataAreas header.unitId =
                  some (handle header area function (bytes.drop 8)).area := if_pos rfl
              refine ⟨fun u area' harea' => ?_, ?_⟩
              · by_cases hu : u = header.unitId
                · subst hu
                  obtain rfl : area = area' := Option.some.inj (hunit.symm.trans harea')
                  exact ⟨_, hself, hlength, hinputs⟩
                · exact ⟨area', (if_neg hu).trans harea', rfl, rfl⟩
              · rcases hsignals with hnone | ⟨a, q, hread⟩ | ⟨a, q, hwritten, hin⟩
                · exact .inl hnone
                · exact .inr (.inl ⟨_, _, a, q, hread⟩)
                · refine .inr (.inr ⟨_, _, a, q, hwritten, fun hregister => ⟨_, hself, ?_⟩⟩)
                  rw [hlength]
                  exact hin hregister

end Requests

/-! ## §8. Every run -/

section Runs

variable {h : SimPlcCraneHandler}

variable {area : ModbusDataArea} {f : ModbusFunctionCode}

theorem holding_area {h : SimPlcCraneHandler}
    (harea : h.server.unitDataAreas h.cfg.unitId = some area) (a : UInt16) :
    h.holding a = area.holdingRegisters[a.toNat]? := by
  unfold holding UnitDataAreas.getHoldingRegister UnitDataAreas.getCell
  rw [harea]
  rfl

theorem discrete_area {h : SimPlcCraneHandler}
    (harea : h.server.unitDataAreas h.cfg.unitId = some area) (a : UInt16) :
    h.discrete a = area.discreteInputs[a.toNat]? := by
  unfold discrete UnitDataAreas.getDiscreteInput UnitDataAreas.getCell
  rw [harea]
  rfl

/-- The data area of the unit has the cells of the map. -/
theorem Present.of_area (hrunning : h.running = true)
    (harea : h.server.unitDataAreas h.cfg.unitId = some area)
    (hholding : 14 < area.holdingRegisters.length) (hdiscrete : 14 < area.discreteInputs.length) :
    h.Present := by
  refine ⟨hrunning, fun a ha => ?_, fun a ha => ?_⟩
  · have hle : a.toNat ≤ 3 := ha
    have hlt : a.toNat < area.holdingRegisters.length := by omega
    rw [holding_area harea, List.getElem?_eq_getElem hlt]
    rfl
  · have hle : a.toNat ≤ 14 := ha
    have hlt : a.toNat < area.discreteInputs.length := by omega
    rw [discrete_area harea, List.getElem?_eq_getElem hlt]
    rfl

/-- The server keeps the cells of the map. -/
theorem Present.processed (hp : h.Present) (bytes : List UInt8) :
    ({ h with server := (h.server.processRequest bytes).server } : SimPlcCraneHandler).Present := by
  cases harea : h.server.unitDataAreas h.cfg.unitId with
  | none =>
    have hnone : h.holding 0 = none := by
      unfold SimPlcCraneHandler.holding UnitDataAreas.getHoldingRegister UnitDataAreas.getCell
      rw [harea]
    have hsome := hp.holding 0 (by decide)
    rw [hnone] at hsome
    cases hsome
  | some area =>
    obtain ⟨area', harea', hlength, hinputs⟩ :=
      (processRequest_cells h.server bytes).1 _ _ harea
    refine ⟨hp.running, fun a ha => ?_, fun a ha => ?_⟩
    · have hsome := hp.holding a ha
      rw [holding_area harea, isSome_getElem?] at hsome
      rw [holding_area (h := { h with server := (h.server.processRequest bytes).server }) harea',
        isSome_getElem?]
      simpa only [hlength] using hsome
    · have hsome := hp.discrete a ha
      rw [discrete_area harea] at hsome
      rw [discrete_area (h := { h with server := (h.server.processRequest bytes).server }) harea',
        hinputs]
      exact hsome

/-- **What is shown after a step**: the unit shows the device; and each register written that the
device does not take is reported, unless the write goes up to the last address, and is again what it
was, if it is one of the four and the write does not set the automatic mode. -/
def ShowsAccepted (h : SimPlcCraneHandler) (i : SimInput) : Prop :=
  (h.step i).1.syncDataAreaFromDevice.ShowsDevice ∧
  ∀ bytes, i = .request bytes → (∀ w ∈ h.written bytes, w.1 ≠ 65535) →
    ∀ a value err, (a, value, some err) ∈ outcomes h.device (h.written bytes) →
      rejected a value err ∈ (h.step i).2 ∧
      (a ≤ 3 → ((3 : UInt16), (1 : UInt16)) ∉ h.written bytes →
        (h.step i).1.syncDataAreaFromDevice.holding a = h.syncDataAreaFromDevice.holding a)

/-- A write that is none of the unit's registers. -/
theorem onDataWritten_other {u : UInt8} {a q : UInt16}
    (hother : ¬ (u = h.cfg.unitId ∧ (f = .writeSingleRegister ∨ f = .writeMultipleRegisters))) :
    h.onDataWritten u f a q = (h, []) := by
  unfold onDataWritten
  by_cases hu : u = h.cfg.unitId
  · have hf := not_or.mp fun hf => hother ⟨hu, hf⟩
    split_ifs
    · rfl
    · rfl
    · simp_all
  · rw [if_pos (by simp [hu])]

/-- **A write that goes up to the last address** is not looked at. -/
theorem onDataWritten_last {a q : UInt16} (hp : h.Present)
    (hf : f = .writeSingleRegister ∨ f = .writeMultipleRegisters)
    (hlast : 65536 ≤ a.toNat + q.toNat) :
    h.onDataWritten h.cfg.unitId f a q = (h.syncDataAreaFromDevice, []) := by
  have hlt := q.toNat_lt
  have hend : (a + q).toNat - a.toNat = 0 := by
    rw [UInt16.toNat_add]
    show (a.toNat + q.toNat) % 65536 - _ = _
    omega
  unfold onDataWritten
  rw [if_neg (by simp [hp.running]), if_neg (by rcases hf with rfl | rfl <;> decide)]
  dsimp only
  rw [hend]
  rfl

/-- A write that does not is offered to the device. -/
theorem onDataWritten_offers {a q : UInt16} (hp : h.Present)
    (hf : f = .writeSingleRegister ∨ f = .writeMultipleRegisters) (hin : a.toNat + q.toNat < 65536) :

    (h.onDataWritten h.cfg.unitId f a q).1.Present ∧
      (h.onDataWritten h.cfg.unitId f a q).1.device =
        offered h.device (h.registersFrom a q.toNat) ∧
      (h.onDataWritten h.cfg.unitId f a q).2 =
        rejections (outcomes h.device (h.registersFrom a q.toNat)) := by
  have hend : (a + q).toNat - a.toNat = q.toNat := by
    rw [UInt16.toNat_add]
    show (a.toNat + q.toNat) % 65536 - _ = _
    omega
  obtain ⟨hpresent, -, hdevice, hevents⟩ := offerLoop_spec hp hin
  unfold onDataWritten
  rw [if_neg (by simp [hp.running]), if_neg (by rcases hf with rfl | rfl <;> decide)]
  dsimp only
  rw [hend]
  exact ⟨hpresent.sync, sync_device.trans hdevice, hevents⟩

/-- The signal about a write of registers of the unit. -/
theorem written_registers {bytes : List UInt8} {a q : UInt16}
    (hsignals : (h.server.processRequest bytes).signals = [.dataWritten h.cfg.unitId f a q])
    (hf : f = .writeSingleRegister ∨ f = .writeMultipleRegisters) :
    h.written bytes =
      { h with server := (h.server.processRequest bytes).server }.registersFrom a q.toNat := by
  unfold written
  dsimp only
  rw [hsignals, List.flatMap_cons, List.flatMap_nil, List.append_nil]
  exact if_pos ⟨rfl, hf⟩

theorem ShowsAccepted.of_written_nil {i : SimInput}
    (hshows : (h.step i).1.syncDataAreaFromDevice.ShowsDevice)
    (hnone : ∀ bytes, i = .request bytes → h.written bytes = []) : ShowsAccepted h i := by
  refine ⟨hshows, fun bytes hi _ a value err hmem => ?_⟩
  rw [hnone bytes hi] at hmem
  cases hmem

/-- **One request.** -/
theorem request_step (hp : h.Present) (bytes : List UInt8) :
    (h.step (.request bytes)).1.Present ∧ ShowsAccepted h (.request bytes) := by
  have hp1 := hp.processed bytes
  have hstep : h.step (.request bytes) =
      ({ h with server := (h.server.processRequest bytes).server } :
        SimPlcCraneHandler).onSignals (h.server.processRequest bytes).signals := rfl
  rcases (processRequest_cells h.server bytes).2 with
    hsignals | ⟨u, f, a, q, hsignals⟩ | ⟨u, f, a, q, hsignals, hregisters⟩
  · -- nothing is read or written
    have hwritten : h.written bytes = [] := by
      unfold written
      dsimp only
      rw [hsignals, List.flatMap_nil]
    rw [hsignals] at hstep
    rw [hstep]
    refine ⟨hp1, .of_written_nil ?_ ?_⟩
    · rw [hstep]
      exact hp1.shows
    · rintro _ ⟨⟩
      exact hwritten
  · have hwritten : h.written bytes = [] := by
      unfold written
      dsimp only
      rw [hsignals]
      rfl
    rw [hsignals] at hstep
    rw [hstep]
    refine ⟨hp1, .of_written_nil ?_ ?_⟩
    · rw [hstep]
      exact hp1.shows
    · rintro _ ⟨⟩
      exact hwritten
  rw [hsignals] at hstep
  by_cases hreg : u = h.cfg.unitId ∧ (f = .writeSingleRegister ∨ f = .writeMultipleRegisters)
  swap
  · -- coils, or another unit
    have hwritten : h.written bytes = [] := by
      unfold written
      dsimp only
      rw [hsignals, List.flatMap_cons, List.flatMap_nil, List.append_nil]
      exact if_neg hreg
    have hsame : (h.step (.request bytes)).1 =
        { h with server := (h.server.processRequest bytes).server } := by
      rw [hstep]
      exact congrArg Prod.fst (onDataWritten_other
        (h := { h with server := (h.server.processRequest bytes).server }) hreg)
    rw [hsame]
    refine ⟨hp1, .of_written_nil ?_ ?_⟩
    · rw [hsame]
      exact hp1.shows
    · rintro _ ⟨⟩
      exact hwritten
  obtain ⟨rfl, hf⟩ := hreg
  have hwritten := written_registers hsignals hf
  have hfst : (h.step (.request bytes)).1 =
      (({ h with server := (h.server.processRequest bytes).server } :
        SimPlcCraneHandler).onDataWritten h.cfg.unitId f a q).1 := by
    rw [hstep]
    rfl
  rcases Nat.lt_or_ge (a.toNat + q.toNat) 65536 with hin | hlast
  · obtain ⟨hpresent, hdevice, hevents⟩ := onDataWritten_offers hp1 hf hin
    have hnext : (h.step (.request bytes)).1.Present := by
      rw [hfst]
      exact hpresent
    refine ⟨hnext, hnext.shows, ?_⟩
    rintro _ ⟨⟩ - b value err hmem
    refine ⟨?_, fun hb hauto => ?_⟩
    · -- its event is one of those of the loop
      have hloop := mem_rejections hmem
      rw [hwritten, ← hevents] at hloop
      rw [hstep]
      exact List.mem_append_left _ (List.mem_append_left _ hloop)
    · rw [hnext.shows.registers b hb, hp.shows.registers b hb, sync_device, sync_device, hfst,
        hdevice, ← hwritten]
      refine congrArg some (offered_rejected ?_ hauto hmem)
      rw [hwritten]
      exact nodup_registersFrom hin
  · have hnext : (h.step (.request bytes)).1.Present := by
      rw [hfst, onDataWritten_last hp1 hf hlast]
      exact hp1.sync
    refine ⟨hnext, hnext.shows, ?_⟩
    rintro _ ⟨⟩ hnot
    exfalso
    -- the last address is one of those written
    obtain ⟨area', harea', hin⟩ := hregisters hf
    have hthere : (({ h with server := (h.server.processRequest bytes).server } :
        SimPlcCraneHandler).holding 65535).isSome = true := by
      have hlt : (65535 : UInt16).toNat < area'.holdingRegisters.length := by
        show 65535 < _
        omega
      rw [holding_area (h := { h with server := (h.server.processRequest bytes).server }) harea',
        List.getElem?_eq_getElem hlt]
      rfl
    obtain ⟨value, hmem⟩ := last_mem_registersFrom hlast hthere
    rw [← hwritten] at hmem
    exact hnot _ hmem rfl

/-- **One step** keeps the cells of the map, and what is shown after it is what was accepted. -/
theorem step_present (hp : h.Present) (i : SimInput) :
    (h.step i).1.Present ∧ ShowsAccepted h i := by
  cases i with
  | request bytes => exact request_step hp bytes
  | cylinderTimeout =>
    have hnext := hp.withDevice (h.device.step .cylinderTimeout).1
    exact ⟨hnext, .of_written_nil hnext.shows nofun⟩
  | valveTimeout =>
    have hnext := hp.withDevice (h.device.step .valveTimeout).1
    exact ⟨hnext, .of_written_nil hnext.shows nofun⟩
  | refresh => exact ⟨hp.sync, .of_written_nil hp.sync.shows nofun⟩

/-- A `run` that succeeds has the cells, if the data area has the size that the command asks for. -/
theorem present_started {listen : String → UInt16 → Except String UInt16}
    {data : List (String × Json)} (hsize : 32 ≤ (runConfig data).dataAreaSize)
    (hrunning : (handleRun listen {} data).1.running = true) :
    (handleRun listen {} data).1.Present := by
  unfold handleRun at hrunning ⊢
  rw [if_neg (by decide)] at hrunning ⊢
  dsimp only at hrunning ⊢
  cases hlisten : listen (runConfig data).listenAddress
      (UInt16.ofInt (runConfig data).listenPort) with
  | error errorString =>
    rw [hlisten] at hrunning
    cases hrunning
  | ok serverPort =>
    have hadd : UnitDataAreas.addUnit (fun _ => none) (runConfig data).unitId
        (runConfig data).dataAreaSize =
        some (UnitDataAreas.put (fun _ => none) (runConfig data).unitId
          (some (.ofSize (runConfig data).dataAreaSize.toNat))) := rfl
    rw [hadd]
    dsimp only
    apply Present.sync
    have hlen : 14 < (runConfig data).dataAreaSize.toNat := by omega
    have hself := UnitDataAreas.put_self (fun _ => none) (runConfig data).unitId
      (some (.ofSize (runConfig data).dataAreaSize.toNat))
    refine Present.of_area rfl hself ?_ ?_
    · show 14 < (List.replicate _ _).length
      rwa [List.length_replicate]
    · show 14 < (List.replicate _ _).length
      rwa [List.length_replicate]

/-- **The simulator shows what the device has accepted**, after every step of every run. -/
theorem shows_accepted (listen : String → UInt16 → Except String UInt16)
    (data : List (String × Json)) (hsize : 32 ≤ (runConfig data).dataAreaSize)
    (hrunning : (handleRun listen {} data).1.running = true) (inputs : List SimInput) :
    machine.EveryStep (fun c i => ShowsAccepted c.state i)
      (Machine.start (handleRun listen {} data).1) inputs := by
  apply Machine.everyStep_of_invariant (fun c => c.state.Present) (C := fun _ _ => True)
  · intro c i hp _
    exact (step_present hp i).1
  · intro c i hp _
    exact (step_present hp i).2
  · exact present_started hsize hrunning
  · exact Machine.everyStep_iff.mpr fun _ _ _ _ => trivial

end Runs

/-- A network on which every port can be listened on. -/
def openNetwork (_ : String) (port : UInt16) : Except String UInt16 := .ok port

/-- The smallest data area that the command takes. -/
def smallArea : List (String × Json) := [("data_area_size", num 32)]

/-- A write of one register of unit 1. -/
def writeRegister (address value : UInt16) : List UInt8 :=
  ModbusTcpServer.requestFrame 1 6 1 (0x06 :: (uint16ToBytes address ++ uint16ToBytes value))

/-- The cylinder is sent down, which is taken, and then somewhere else, which is not: the simulator
shows the device after both. -/
theorem cylinder_down_shown :
    let idle := (handleRun openNetwork {} smallArea).1
    let down := (idle.step (.request (writeRegister 0 2))).1
    ShowsAccepted idle (.request (writeRegister 0 2)) ∧
      ShowsAccepted down (.request (writeRegister 0 9)) ∧
      (down.step (.request (writeRegister 0 9))).2.head?.map (fun m => m.payload) =
        some (rejected 0 9 "Invalid cylinder action: 9, expected 0/1/2").payload := by
  intro idle down
  have hrun := shows_accepted openNetwork smallArea (by decide) rfl
    [.request (writeRegister 0 2), .request (writeRegister 0 9)]
  exact ⟨hrun.1, hrun.2.1, by decide⟩

/-- **A register above the map keeps what is written**, although the write is reported as rejected:
register 5 held 0 before, and holds 7 after the refresh. -/
theorem above_map_kept :
    (handleRun openNetwork {} smallArea).1.holding 5 = some 0 ∧
      ((handleRun openNetwork {} smallArea).1.step (.request (writeRegister 5 7))).2.head?.map
        (fun m => m.payload) = some (rejected 5 7 "Unsupported holding register address: 5").payload ∧
      ((handleRun openNetwork {} smallArea).1.step
        (.request (writeRegister 5 7))).1.syncDataAreaFromDevice.holding 5 = some 7 := by
  decide

end SimPlcCraneHandler

end Stdiolink.CraneSim
