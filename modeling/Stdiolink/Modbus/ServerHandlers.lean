/-
  Stdiolink.Modbus.ServerHandlers — the commands of the three Modbus server drivers.

  `handle` of `driver_modbustcp_server`, `driver_modbusrtu_server` and
  `driver_modbusrtu_serial_server`: three copies of the same dispatch.  They differ in how the server
  starts and in how a batch command takes 64-bit integers; both are parameters here.  What a cast
  does with a double out of range is not defined and enters as one, too.

  Main results:
    * `ServerDriver.handle_eq` — each of the three handlers is the common one with its own parts.
-/
import Stdiolink.Cli.Codec
import Stdiolink.Meta.Validator
import Stdiolink.Modbus.TypedRegisters
import Stdiolink.Modbus.UnitTable

namespace Stdiolink.Modbus

open Stdiolink.Lib
open Stdiolink.Protocol
open Stdiolink.Protocol.Json

/-! ## §1. The handler -/

/-- Where a server that runs is reached. -/
inductive Endpoint where
  | port (serverPort : UInt16)
  | serialPort (portName : String)
  deriving Repr, DecidableEq

/-- The endpoint in an answer. -/
def Endpoint.member : Endpoint → String × Json
  | .port serverPort => ("port", num serverPort.toNat)
  | .serialPort portName => ("port_name", str portName)

/-- A handler with its server; `endpoint` is there while the server is running. -/
structure ServerHandler where
  units : UnitDataAreas := fun _ => none
  endpoint : Option Endpoint := none
  eventMode : String := "write"

/-- The handler after a command, and what it sends. -/
abbrev Answered := ServerHandler × Message

/-- The answer to a request that the handler does not take. -/
def refusal (message : String) : Message := ⟨.error, 3, obj [("message", str message)]⟩

/-! ## §2. Commands -/

/-- The commands that need a unit. -/
inductive DataCommand where
  | setCoil
  | getCoil
  | setDiscreteInput
  | getDiscreteInput
  | setHoldingRegister
  | getHoldingRegister
  | setInputRegister
  | getInputRegister
  | setRegistersBatch
  | getRegistersBatch
  deriving Repr, DecidableEq

/-- The commands that a handler knows. -/
inductive ServerCommand where
  | status
  | run
  | startServer
  | stopServer
  | addUnit
  | removeUnit
  | listUnits
  | data (command : DataCommand)
  deriving Repr, DecidableEq

/-- The command with a name, if there is one. -/
def ServerCommand.ofName (cmd : String) : Option ServerCommand :=
  [("status", status), ("run", run), ("start_server", startServer), ("stop_server", stopServer),
    ("add_unit", addUnit), ("remove_unit", removeUnit), ("list_units", listUnits),
    ("set_coil", data .setCoil), ("get_coil", data .getCoil),
    ("set_discrete_input", data .setDiscreteInput),
    ("get_discrete_input", data .getDiscreteInput),
    ("set_holding_register", data .setHoldingRegister),
    ("get_holding_register", data .getHoldingRegister),
    ("set_input_register", data .setInputRegister),
    ("get_input_register", data .getInputRegister),
    ("set_registers_batch", data .setRegistersBatch),
    ("get_registers_batch", data .getRegistersBatch)].lookup cmd

/-! ## §3. Values in registers -/

/-- What the batch commands do with one value. -/
structure ValueCoding where
  encode : ByteOrderConverter → Json → DataType → List UInt16
  decode : ByteOrderConverter → List UInt16 → Nat → DataType → Json

section Coding

variable (undefinedCast : DataType → ℚ → Int)

/-- `QString::toLongLong`. -/
def toLongLong (text : String) : Int64 :=
  Int64.ofInt ((Cli.toBoundedInt (-2 ^ 63) (2 ^ 63 - 1) text.toList).getD 0)

/-- `QString::toULongLong`. -/
def toULongLong (text : String) : UInt64 :=
  UInt64.ofInt ((Cli.toBoundedInt 0 (2 ^ 64 - 1) text.toList).getD 0)

/-- The `switch` over the data type, with every value read as a double. -/
def numbersOnly : ValueCoding where
  encode conv v type := ModbusTcpHandler.encode undefinedCast conv (toDouble v) type
  decode := ModbusTcpHandler.decode

/-- The same `switch` with 64-bit integers that may be texts, and an unsigned one that is read as a
text. -/
def numbersAndTexts : ValueCoding where
  encode conv v type :=
    match type, v with
    | .int64, str text => conv.fromInt64 (toLongLong text)
    | .uint64, str text => conv.fromUInt64 (toULongLong text)
    | type, v => ModbusTcpHandler.encode undefinedCast conv (toDouble v) type
  decode conv regs i type :=
    match type with
    | .uint64 => str (toString (conv.toUInt64 regs i).toNat)
    | type => ModbusTcpHandler.decode conv regs i type

end Coding

/-! ## §4. Data commands -/

section Data

variable (coding : ValueCoding) (h : ServerHandler) (p : List (String × Json))

/-- `unitId`, and `uid`, to which it is narrowed. -/
def unitIdOf : Int := toInt (value p "unit_id")

def uidOf : UInt8 := UInt8.ofInt (unitIdOf p)

/-- `address`, and `addr`, to which it is narrowed. -/
def addressIntOf : Int := toInt (value p "address")

def addrOf : UInt16 := UInt16.ofInt (addressIntOf p)

def areaOf : Cells UInt16 :=
  if toStrOr "holding" (value p "area") = "input" then .inputRegisters else .holdingRegisters

def typeOf : DataType := parseDataType (ModbusTcpHandler.dataTypeOf p)

def converterOf : ByteOrderConverter := { order := parseByteOrder (ModbusTcpHandler.byteOrderOf p) }

def unitNotFound (unitId : Int) : Message :=
  refusal ("Unit " ++ toString unitId ++ " not found")

def outOfRange (address : Int) : Message :=
  refusal ("Address " ++ toString address ++ " out of range")

/-- The common body of the commands that set a cell. -/
def setCommand {α : Type} (c : Cells α) (v : α) : Answered :=
  match h.units.setCell c (uidOf p) (addrOf p) v with
  | none => (h, outOfRange (addressIntOf p))
  | some units => ({ h with units := units }, ⟨.done, 0, obj [("written", bool true)]⟩)

/-- The common body of the commands that get a cell. -/
def getCommand {α : Type} (c : Cells α) (toJson : α → Json) : Answered :=
  match h.units.getCell c (uidOf p) (addrOf p) with
  | none => (h, outOfRange (addressIntOf p))
  | some v => (h, ⟨.done, 0, obj [("value", toJson v)]⟩)

/-- A register as a JSON value. -/
def registerJson (register : UInt16) : Json := num register.toNat

/-- The registers of all values, one after another. -/
def registersOf : List UInt16 :=
  (Meta.toArray (value p "values")).flatMap fun v => coding.encode (converterOf p) v (typeOf p)

/-- `set_registers_batch`. -/
def setRegistersBatch : Answered :=
  let regs := registersOf coding p
  match UnitDataAreas.setEach (areaOf p) (uidOf p) (addrOf p) h.units 0 regs with
  -- what was set before the first failure stays set
  | (units, some i) =>
    ({ h with units := units }, outOfRange (((addrOf p).toNat + i : Nat) : Int))
  | (units, none) =>
    ({ h with units := units }, ⟨.done, 0, obj [("written", num regs.length)]⟩)

def countOf : Int := toInt (value p "count")

/-- The values in the registers read. -/
def valuesIn (raw : List UInt16) : List Json :=
  let step := registersPerType (typeOf p)
  (List.range (raw.length / step)).map fun k =>
    coding.decode (converterOf p) raw (k * step) (typeOf p)

/-- `get_registers_batch`. -/
def getRegistersBatch : Answered :=
  let step := registersPerType (typeOf p)
  if (countOf p).tmod step ≠ 0 then
    (h, refusal ("count " ++ toString (countOf p) ++ " is not a multiple of " ++ toString step ++
      " registers per " ++ ModbusTcpHandler.dataTypeOf p))
  else
    match h.units.getEach (areaOf p) (uidOf p) (addrOf p) 0 (countOf p).toNat with
    | .error i => (h, outOfRange (((addrOf p).toNat + i : Nat) : Int))
    | .ok raw =>
      (h, ⟨.done, 0, obj
        [("raw", arr (raw.map registerJson)), ("values", arr (valuesIn coding p raw))]⟩)

/-- The commands that need a unit, when it is there. -/
def dataCommand : DataCommand → Answered
  | .setCoil => setCommand h p .coils (toBool (value p "value"))
  | .getCoil => getCommand h p .coils bool
  | .setDiscreteInput => setCommand h p .discreteInputs (toBool (value p "value"))
  | .getDiscreteInput => getCommand h p .discreteInputs bool
  | .setHoldingRegister =>
    setCommand h p .holdingRegisters (UInt16.ofInt (toInt (value p "value")))
  | .getHoldingRegister => getCommand h p .holdingRegisters registerJson
  | .setInputRegister => setCommand h p .inputRegisters (UInt16.ofInt (toInt (value p "value")))
  | .getInputRegister => getCommand h p .inputRegisters registerJson
  | .setRegistersBatch => setRegistersBatch coding h p
  | .getRegistersBatch => getRegistersBatch coding h p

end Data

/-! ## §5. Starting the server -/

section Start

variable (h : ServerHandler) (p : List (String × Json))

def validModes : List String := ["write", "all", "read", "none"]

/-- `event_mode`, or the answer to a bad one. -/
def eventModeOf : Except Message String :=
  if hasKey p "event_mode" then
    match value p "event_mode" with
    | str eventMode =>
      if eventMode ∈ validModes then .ok eventMode
      else .error (refusal ("Invalid event_mode: " ++ eventMode))
    | _ => .error (refusal "event_mode must be a string")
  else .ok "write"

/-- `listen_address`, or the answer to a bad one. -/
def listenAddressOf : Except Message String :=
  if hasKey p "listen_address" then
    match value p "listen_address" with
    | str addr => .ok addr
    | _ => .error (refusal "listen_address must be a string")
  else .ok ""

/-- `startServer` of a TCP server with the answer to its failure.  `listen` is the one of the socket:
the port, or the error. -/
def startTcp (listen : String → UInt16 → Except String UInt16) : Except Message Endpoint :=
  match listenAddressOf p with
  | .error e => .error e
  | .ok addr =>
    let port := toIntOr 502 (value p "listen_port")
    match listen addr (UInt16.ofInt port) with
    | .error errorString =>
      .error ⟨.error, 1, obj [("message", str ("Failed to listen on " ++
        (if addr.isEmpty then "0.0.0.0" else addr) ++ ":" ++ toString port ++ ": " ++
        errorString))]⟩
    | .ok serverPort => .ok (.port serverPort)

/-- What a serial port is opened with. -/
structure SerialSettings where
  portName : String
  baudRate : Int
  dataBits : Int
  stopBits : String
  parity : String

/-- `startServer` of the serial server with the answer to its failure. -/
def startSerial (opens : SerialSettings → Bool) : Except Message Endpoint :=
  let settings : SerialSettings :=
    { portName := toStr (value p "port_name")
      baudRate := toIntOr 9600 (value p "baud_rate")
      dataBits := toIntOr 8 (value p "data_bits")
      stopBits := toStrOr "1" (value p "stop_bits")
      parity := toStrOr "none" (value p "parity") }
  if opens settings then .ok (.serialPort settings.portName)
  else .error ⟨.error, 1, obj [("message", str ("Failed to open serial port " ++
    settings.portName))]⟩

/-- One entry of `units`: its unit, or the answer to a bad entry. -/
def unitEntry (units : UnitDataAreas) (i : Nat) (uo : List (String × Json)) :
    Except Message (Int × UnitDataAreas) :=
  let entry := "units[" ++ toString i ++ "]: "
  match value uo "id" with
  | num q =>
    let idVal := toDouble (num q)
    if idVal ≠ ⌊idVal⌋ then .error (refusal (entry ++ "id must be an integer"))
    else
      let uid := Meta.castInt idVal
      if uid < 1 ∨ uid > 247 then
        .error (refusal (entry ++ "id " ++ toString uid ++ " out of range [1,247]"))
      else
        match units.addUnit (UInt8.ofInt uid) (toIntOr 10000 (value uo "size")) with
        | none =>
          .error (refusal (entry ++ "failed to add unit " ++ toString uid ++ " (duplicate?)"))
        | some units => .ok (uid, units)
  | _ => .error (refusal (entry ++ "missing or invalid 'id'"))

/-- The loop over the entries of `units`.  A bad entry stops the server. -/
def addUnits : ServerHandler → Nat → List Json → ServerHandler × Except Message (List Int)
  | h, _, [] => (h, .ok [])
  | h, i, entry :: rest =>
    match unitEntry h.units i (toObject entry) with
    | .error e => ({ h with endpoint := none }, .error e)
    | .ok (uid, units) =>
      match addUnits { h with units := units } (i + 1) rest with
      | (h, .error e) => (h, .error e)
      | (h, .ok addedUnits) => (h, .ok (uid :: addedUnits))

variable (start : List (String × Json) → Except Message Endpoint)

/-- `run`. -/
def runCommand : Answered :=
  if h.endpoint.isSome then (h, refusal "Server already running")
  else
    match eventModeOf p with
    | .error e => (h, e)
    | .ok eventMode =>
      match start p with
      | .error e => (h, e)
      | .ok endpoint =>
        let entries := Meta.toArray (value p "units")
        match addUnits { h with endpoint := some endpoint, eventMode := eventMode } 0 entries with
        | (h, .error e) => (h, e)
        | (h, .ok addedUnits) =>
          -- no `done`: the server goes on sending events
          (h, ⟨.event, 0, obj [("data", obj [("event_mode", str h.eventMode), endpoint.member,
            ("units", arr (addedUnits.map fun uid => num uid))]), ("event", str "started")]⟩)

/-- `start_server`. -/
def startCommand : Answered :=
  if h.endpoint.isSome then (h, refusal "Server already running")
  else
    match eventModeOf p with
    | .error e => (h, e)
    | .ok eventMode =>
      match start p with
      | .error e => (h, e)
      | .ok endpoint =>
        ({ h with endpoint := some endpoint, eventMode := eventMode },
          ⟨.done, 0, obj [endpoint.member, ("started", bool true)]⟩)

/-- `stop_server`. -/
def stopCommand : Answered :=
  if h.endpoint.isSome then
    ({ h with endpoint := none }, ⟨.done, 0, obj [("stopped", bool true)]⟩)
  else (h, refusal "Server not running")

end Start

/-! ## §6. Units and dispatch -/

section Dispatch

variable (h : ServerHandler) (p : List (String × Json))

/-- `add_unit`. -/
def addUnitCommand : Answered :=
  let size := toIntOr 10000 (value p "data_area_size")
  match h.units.addUnit (uidOf p) size with
  | none => (h, refusal ("Unit " ++ toString (unitIdOf p) ++ " already exists"))
  | some units =>
    ({ h with units := units }, ⟨.done, 0, obj
      [("added", bool true), ("data_area_size", num size), ("unit_id", num (unitIdOf p))]⟩)

/-- `remove_unit`. -/
def removeUnitCommand : Answered :=
  match h.units.removeUnit (uidOf p) with
  | none => (h, unitNotFound (unitIdOf p))
  | some units =>
    ({ h with units := units },
      ⟨.done, 0, obj [("removed", bool true), ("unit_id", num (unitIdOf p))]⟩)

/-- The units, as `status` and `list_units` give them. -/
def unitsJson : Json := arr (h.units.getUnits.map fun id => num id.toNat)

/-- `status`; `idle` is the endpoint that is given while the server is not running. -/
def statusCommand (idle : Endpoint) : Answered :=
  (h, ⟨.done, 0, obj [("event_mode", str h.eventMode), ("listening", bool h.endpoint.isSome),
    (h.endpoint.getD idle).member, ("status", str "ready"), ("units", unitsJson h)]⟩)

/-- What is not common to the three handlers. -/
structure ServerParts where
  coding : ValueCoding
  start : List (String × Json) → Except Message Endpoint
  idle : Endpoint

/-- The common `handle`. -/
def handleCommand (parts : ServerParts) (h : ServerHandler) (cmd : String) (data : Json) :
    Answered :=
  let p := toObject data
  let unitThere := h.units.hasUnit (uidOf p)
  match ServerCommand.ofName cmd with
  | some .status => statusCommand h parts.idle
  | some .run => runCommand h p parts.start
  | some .startServer => startCommand h p parts.start
  | some .stopServer => stopCommand h
  | some .addUnit => addUnitCommand h p
  | some .removeUnit => removeUnitCommand h p
  | some .listUnits => (h, ⟨.done, 0, obj [("units", unitsJson h)]⟩)
  | some (.data command) =>
    if unitThere then dataCommand parts.coding h p command else (h, unitNotFound (unitIdOf p))
  | none =>
    -- the unit is looked for before the command
    if unitThere then (h, ⟨.error, 404, obj [("message", str ("Unknown command: " ++ cmd))]⟩)
    else (h, unitNotFound (unitIdOf p))

end Dispatch

/-! ## §7. The three drivers -/

/-- What the handlers need from outside. -/
structure ServerPlatform where
  undefinedCast : DataType → ℚ → Int
  listen : String → UInt16 → Except String UInt16
  opens : SerialSettings → Bool

/-- A platform on which no server can be started. -/
def deafPlatform : ServerPlatform where
  undefinedCast _ _ := 0
  listen _ _ := .error "The address is not available"
  opens _ := false

/-- `ModbusTcpServerHandler`. -/
def ModbusTcpServerHandler.parts (platform : ServerPlatform) : ServerParts where
  coding := numbersAndTexts platform.undefinedCast
  start p := startTcp p platform.listen
  idle := .port 0

def ModbusTcpServerHandler.handle (platform : ServerPlatform) :
    ServerHandler → String → Json → Answered :=
  handleCommand (parts platform)

/-- `ModbusRtuServerHandler`. -/
def ModbusRtuServerHandler.parts (platform : ServerPlatform) : ServerParts where
  coding := numbersAndTexts platform.undefinedCast
  start p := startTcp p platform.listen
  idle := .port 0

def ModbusRtuServerHandler.handle (platform : ServerPlatform) :
    ServerHandler → String → Json → Answered :=
  handleCommand (parts platform)

/-- `ModbusRtuSerialServerHandler`. -/
def ModbusRtuSerialServerHandler.parts (platform : ServerPlatform) : ServerParts where
  coding := numbersOnly platform.undefinedCast
  start p := startSerial p platform.opens
  idle := .serialPort ""

def ModbusRtuSerialServerHandler.handle (platform : ServerPlatform) :
    ServerHandler → String → Json → Answered :=
  handleCommand (parts platform)

/-- The drivers. -/
inductive ServerDriver where
  | tcp
  | rtu
  | serial
  deriving Repr, DecidableEq

/-- What is not common, driver by driver. -/
def ServerDriver.parts (platform : ServerPlatform) : ServerDriver → ServerParts
  | .tcp => ModbusTcpServerHandler.parts platform
  | .rtu => ModbusRtuServerHandler.parts platform
  | .serial => ModbusRtuSerialServerHandler.parts platform

/-- The handler of a driver. -/
def ServerDriver.handle (platform : ServerPlatform) : ServerDriver →
    ServerHandler → String → Json → Answered
  | .tcp => ModbusTcpServerHandler.handle platform
  | .rtu => ModbusRtuServerHandler.handle platform
  | .serial => ModbusRtuSerialServerHandler.handle platform

theorem ServerDriver.handle_eq (platform : ServerPlatform) (driver : ServerDriver) :
    driver.handle platform = handleCommand (driver.parts platform) := by
  cases driver <;> rfl

end Stdiolink.Modbus
