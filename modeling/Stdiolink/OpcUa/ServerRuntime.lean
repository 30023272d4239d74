/-
  Stdiolink.OpcUa.ServerRuntime — nodes of the OPC UA server driver, `opcua_server_runtime.cpp`.

  Beside the address space the driver has a table of the nodes that it was given, with the value it
  takes each variable to have.  The table is keyed by text.  A command runs on both, and what it has
  done stays when it fails.
-/
import Stdiolink.Lib.Passes
import Stdiolink.OpcUa.AddressSpace

namespace Stdiolink.OpcUa

open Stdiolink.Lib
open Stdiolink.Protocol
open Stdiolink.Protocol.Json

/-! ## §1. Node specs -/

/-- `NodeSpec`; `hasInitialValue` is whether there is one. -/
structure NodeSpec where
  nodeId : String
  parentNodeId : String
  nodeClass : String
  browseName : String
  displayName : String
  description : String
  dataType : String := ""
  access : String := ""
  initialValue : Option Json := none
  deriving DecidableEq

/-- `NodeEntry`, without its way back to the runtime. -/
structure NodeEntry where
  nodeId : String
  parentNodeId : String
  nodeClass : String
  browseName : String
  displayName : String
  description : String
  dataType : String
  access : String
  currentValue : Json := .null
  deriving DecidableEq

/-- The server with its table of nodes. -/
structure ServerState where
  space : AddressSpace
  nodeEntries : String → Option NodeEntry

/-- A command, which may fail on the way. -/
abbrev Runtime := EStateM String ServerState

/-- `UA_LOCALIZEDTEXT_ALLOC` and its like take a C string. -/
def uaText (text : String) : List UInt8 := cString (Utf8.encode text.toList)

section Specs

variable (texts : Texts)

/-- What only variables have. -/
def parseVariableSpec (object : List (String × Json)) (spec : NodeSpec) : Except String NodeSpec :=
  let dataType := trimLower (value object "data_type").toStr
  let access := trimLower (value object "access").toStr
  if dataType.isEmpty then .error "data_type is required for variable nodes"
  else if access ≠ "read_only" ∧ access ≠ "read_write" then
    .error "access must be read_only or read_write"
  else .ok { spec with
    dataType := dataType
    access := access
    initialValue := object.lookup "initial_value" }

/-- `parseNodeSpec`. -/
def parseNodeSpec (object : List (String × Json)) : Except String NodeSpec :=
  match parseNodeIdString texts (value object "node_id").toStr with
  | .error errorMessage => .error errorMessage
  | .ok (_, nodeId) =>
    match parseNodeIdString texts (value object "parent_node_id").toStr with
    | .error errorMessage => .error ("parent_node_id invalid: " ++ errorMessage)
    | .ok (_, parentNodeId) =>
      let nodeClass := trimLower (value object "node_class").toStr
      let browseName := trimmed (value object "browse_name").toStr
      let displayName := (value object "display_name").toStr
      if nodeClass ≠ "folder" ∧ nodeClass ≠ "variable" then
        .error "node_class must be folder or variable"
      else if browseName.isEmpty then .error "browse_name is required"
      else
        let spec : NodeSpec := {
          nodeId := nodeId
          parentNodeId := parentNodeId
          nodeClass := nodeClass
          browseName := browseName
          displayName := if displayName.isEmpty then browseName else displayName
          description := (value object "description").toStr }
        if nodeClass = "variable" then parseVariableSpec object spec else .ok spec

/-- The first loop of `upsertNodes`, from this index on. -/
def parseNodeSpecs : Nat → List Json → Except String (List NodeSpec)
  | _, [] => .ok []
  | i, .obj object :: rest =>
    match parseNodeSpec texts object with
    | .error errorMessage => .error ("nodes[" ++ toString i ++ "]: " ++ errorMessage)
    | .ok spec => (parseNodeSpecs (i + 1) rest).map (spec :: ·)
  | i, _ :: _ => .error ("nodes[" ++ toString i ++ "] must be an object")

end Specs

/-! ## §2. Calls as commands -/

/-- What is found out without the server. -/
def given {σ α : Type} (r : Except String α) : EStateM String σ α := fun s =>
  match r with
  | .ok a => .ok a s
  | .error errorMessage => .error errorMessage s

/-- What is found out from the server. -/
def query {α : Type} (answer : AddressSpace → Except String α) : Runtime α := fun s =>
  given (answer s.space) s

/-- What a call answers. -/
def ask {α : Type} (action : String) (answer : AddressSpace → Except Status α) : Runtime α :=
  query fun space => (answer space).mapError (formatStatusMessage action)

/-- What a call does. -/
def perform (action : String) (effect : AddressSpace → Except Status AddressSpace) :
    Runtime Unit := fun s =>
  match effect s.space with
  | .ok space => .ok () { s with space := space }
  | .error status => .error (formatStatusMessage action status) s

section Upsert

variable (texts : Texts) (refuses : Refusals)

/-- `parseNodeIdOwned`. -/
def parseNodeIdOwned (text : String) : Except String NodeId :=
  (parseNodeIdString texts text).map Prod.fst

/-- `nodeExists`, with the class. -/
def nodeExists (nodeIdText : String) (space : AddressSpace) : Except String (Option NodeClass) :=
  match parseNodeIdOwned texts nodeIdText with
  | .error errorMessage => .error errorMessage
  | .ok nodeId =>
    match space.read refuses (.readNodeClass nodeId) Attributes.nodeClass with
    | .ok nodeClass => .ok (some nodeClass)
    | .error status =>
      if status = BADNODEIDUNKNOWN then .ok none
      else .error (formatStatusMessage "Read NodeClass failed" status)

/-- `accessLevelForMode`. -/
def accessLevelForMode (access : String) : UInt8 := if access = "read_write" then 3 else 1

/-- `updateLocalizedAttribute`. -/
def updateLocalizedAttribute (nodeIdText text : String) (isDisplayName : Bool) : Runtime Unit := do
  let nodeId ← given (parseNodeIdOwned texts nodeIdText)
  if isDisplayName then
    perform "Write DisplayName failed" fun space =>
      space.write refuses (.writeDisplayName nodeId (uaText text))
        fun a => { a with displayName := uaText text }
  else
    perform "Write Description failed" fun space =>
      space.write refuses (.writeDescription nodeId (uaText text))
        fun a => { a with description := uaText text }

/-- What a folder is created with. -/
def folderAttributes (spec : NodeSpec) : Attributes where
  nodeClass := .object
  browseName := (1, uaText spec.browseName)
  displayName := uaText spec.displayName
  description := uaText spec.description

/-- `createFolderNode`. -/
def createFolderNode (spec : NodeSpec) : Runtime Unit := do
  let nodeId ← given (parseNodeIdOwned texts spec.nodeId)
  let parentNodeId ← given (parseNodeIdOwned texts spec.parentNodeId)
  perform "UA_Server_addObjectNode failed" fun space =>
    space.add refuses nodeId parentNodeId (folderAttributes spec)

/-- What a variable is created with. -/
def variableAttributes (spec : NodeSpec) (dataType : DataType) (value : Variant) : Attributes where
  nodeClass := .variable
  browseName := (1, uaText spec.browseName)
  displayName := uaText spec.displayName
  description := uaText spec.description
  dataType := dataType.typeId
  accessLevel := accessLevelForMode spec.access
  value := value

/-- `createVariableNode`. -/
def createVariableNode (spec : NodeSpec) : Runtime Unit := do
  match spec.initialValue with
  | none => throw "initial_value is required when creating a variable node"
  | some initialValue =>
    let dataType ← given (resolveBuiltinDataType spec.dataType)
    let value ← given (jsonToVariant texts spec.dataType initialValue true)
    let nodeId ← given (parseNodeIdOwned texts spec.nodeId)
    let parentNodeId ← given (parseNodeIdOwned texts spec.parentNodeId)
    perform "UA_Server_addVariableNode failed" fun space =>
      space.add refuses nodeId parentNodeId (variableAttributes spec dataType value)

/-- The value that an existing variable is given; no event is sent. -/
def writeInitialValue (spec : NodeSpec) (nodeId : NodeId) : Runtime Unit := do
  match spec.initialValue with
  | none => return
  | some initialValue =>
    let value ← given (jsonToVariant texts spec.dataType initialValue true)
    perform "UA_Server_writeDataValue failed" fun space =>
      space.write refuses (.writeDataValue nodeId value) fun a => { a with value := value }

/-- `updateExistingVariable`. -/
def updateExistingVariable (spec : NodeSpec) : Runtime Unit := do
  let nodeId ← given (parseNodeIdOwned texts spec.nodeId)
  let expectedDataType ← given (resolveBuiltinDataType spec.dataType)
  let actualDataType ← ask "Read DataType failed" fun space =>
    space.read refuses (.readDataType nodeId) Attributes.dataType
  if actualDataType ≠ expectedDataType.typeId then
    throw ("existing variable data_type mismatch for " ++ spec.nodeId)
  else
    perform "Write AccessLevel failed" fun space =>
      space.write refuses (.writeAccessLevel nodeId (accessLevelForMode spec.access))
        fun a => { a with accessLevel := accessLevelForMode spec.access }
    writeInitialValue texts refuses spec nodeId

/-- What `ensureEntry` makes of an entry, with the value that is put into it. -/
def NodeSpec.entry (spec : NodeSpec) (old : Option NodeEntry) : NodeEntry :=
  let entry : NodeEntry := {
    nodeId := (old.map NodeEntry.nodeId).getD spec.nodeId
    parentNodeId := spec.parentNodeId
    nodeClass := spec.nodeClass
    browseName := spec.browseName
    displayName := spec.displayName
    description := spec.description
    dataType := spec.dataType
    access := spec.access
    currentValue := (old.map NodeEntry.currentValue).getD .null }
  if spec.nodeClass = "variable" then
    { entry with currentValue := spec.initialValue.getD entry.currentValue }
  else entry

/-- `ensureEntry`. -/
def ensureEntry (spec : NodeSpec) : Runtime Unit := modify fun s => { s with
  nodeEntries :=
    Function.update s.nodeEntries spec.nodeId (some (spec.entry (s.nodeEntries spec.nodeId))) }

/-- `updateEntryContext`, with the entry under this text. -/
def updateEntryContext (nodeIdText : String) : Runtime Unit := do
  let nodeId ← given (parseNodeIdOwned texts nodeIdText)
  perform "UA_Server_setNodeContext failed" fun space =>
    space.write refuses (.setNodeContext nodeId nodeIdText)
      fun a => { a with context := some nodeIdText }

/-- `installValueCallback`. -/
def installValueCallback (nodeIdText : String) : Runtime Unit := do
  let nodeId ← given (parseNodeIdOwned texts nodeIdText)
  perform "UA_Server_setVariableNode_valueCallback failed" fun space =>
    space.write refuses (.setValueCallback nodeId) fun a => { a with onWrite := true }

/-- Whether a node of this class may be upserted as it is. -/
def classMatches (spec : NodeSpec) (existingClass : NodeClass) : Bool :=
  spec.nodeClass == "folder" && isDirectoryNodeClass existingClass ||
    spec.nodeClass == "variable" && existingClass == .variable

/-- `createFolderNode` or `createVariableNode`. -/
def createNode (spec : NodeSpec) : Runtime Unit :=
  if spec.nodeClass = "folder" then createFolderNode texts refuses spec
  else createVariableNode texts refuses spec

/-- The first part of `upsertNode`: the node, and whether it was created. -/
def provideNode (spec : NodeSpec) : Runtime Bool := do
  match ← query (nodeExists texts refuses spec.nodeId) with
  | some existingClass =>
    if !classMatches spec existingClass then
      throw ("node_class mismatch for existing node " ++ spec.nodeId)
    else return false
  | none =>
    createNode texts refuses spec
    return true

/-- What is done with variables only. -/
def ifVariable {σ : Type} (spec : NodeSpec) (x : EStateM String σ Unit) : EStateM String σ Unit :=
  if spec.nodeClass = "variable" then x else return

/-- The second part, on a node that exists. -/
def updateNode (spec : NodeSpec) : Runtime Unit := do
  updateLocalizedAttribute texts refuses spec.nodeId spec.displayName true
  updateLocalizedAttribute texts refuses spec.nodeId spec.description false
  ifVariable spec (updateExistingVariable texts refuses spec)
  ensureEntry spec
  updateEntryContext texts refuses spec.nodeId
  ifVariable spec (installValueCallback texts refuses spec.nodeId)

/-- `upsertNode`. -/
def upsertNode (spec : NodeSpec) : Runtime Bool := do
  let created ← provideNode texts refuses spec
  updateNode texts refuses spec
  return created

/-! ## §3. Upserts -/

/-- The state of the loop in `upsertNodes`.  A call may be refused at one moment and not at another
one. -/
structure UpsertState where
  state : ServerState
  createdNodeIds : List String := []
  localResults : List Json := []
  moment : Nat := 0

/-- One spec, in one pass. -/
def upsertInPass (refusals : Nat → Refusals) (t : UpsertState) (spec : NodeSpec) :
    Passes.Handled UpsertState String :=
  let later : UpsertState := { t with moment := t.moment + 1 }
  match nodeExists texts (refusals t.moment) spec.parentNodeId t.state.space with
  | .error errorMessage => .failed later errorMessage
  | .ok none => .waits later
  | .ok (some _) =>
    match upsertNode texts (refusals t.moment) spec t.state with
    | .error errorMessage state => .failed { later with state := state } errorMessage
    | .ok created state => .done { later with
        state := state
        createdNodeIds :=
          if created then t.createdNodeIds ++ [spec.nodeId] else t.createdNodeIds
        localResults := t.localResults ++ [.obj [("created", .bool created),
          ("node_id", .str spec.nodeId), ("updated", .bool true)]] }

/-- The message for a pass in which all specs wait. -/
def unresolvedMessage (waiting : List NodeSpec) : String :=
  "unresolved parent_node_id for nodes: " ++
    texts.compact (.arr (waiting.map fun spec => .str spec.nodeId))

/-- One created node is taken back, as far as it can be. -/
def rollbackNode (server : UaServer) (s : ServerState) (nodeIdText : String) : ServerState :=
  match parseNodeIdOwned texts nodeIdText with
  | .error _ => s
  | .ok nodeId =>
    { space := match s.space.delete refuses server.removed nodeId true with
        | .ok space => space
        | .error _ => s.space
      nodeEntries := Function.update s.nodeEntries nodeIdText none }

/-- The loop after `rollback_failure`. -/
def rollback (server : UaServer) (s : ServerState) (createdNodeIds : List String) : ServerState :=
  createdNodeIds.reverse.foldl (rollbackNode texts refuses server) s

/-- `upsertNodes`, in at most so many passes, on a server that runs. -/
def upsertNodes (server : UaServer) (refusals : Nat → Refusals) (rounds : Nat)
    (nodes : List Json) (s : ServerState) :
    Option (EStateM.Result String ServerState (List Json)) :=
  match parseNodeSpecs texts 0 nodes with
  | .error errorMessage => some (.error errorMessage s)
  | .ok pending =>
    (runFor (Passes.round (upsertInPass texts refusals) (unresolvedMessage texts)) rounds
      ({ state := s }, pending)).map fun
      | (_, .ok t) => .ok t.localResults t.state
      | (_, .error (t, errorMessage)) =>
        .error errorMessage
          (rollback texts (refusals t.moment) server t.state t.createdNodeIds)

end Upsert

/-! ## §4. Writes and events -/

/-- `node_value_changed`. -/
structure ChangeEvent where
  nodeId : String
  displayName : String
  oldValue : Json
  value : Json
  source : String
  deriving DecidableEq

/-- `isWriteEventMode`. -/
def isWriteEventMode (eventMode : String) : Bool := eventMode == "write" || eventMode == "all"

section Write

variable (texts : Texts) (server : UaServer) (eventMode : String) (refuses : Refusals)

/-- What `writeSingleValue` finds out before it writes: the node, its old value, the new one and the
name of the type. -/
def prepareWrite (nodeIdText : String) (value : Json) (sourceTimestamp : String)
    (strictType : Bool) : Runtime (NodeId × Json × Variant × String) := do
  let nodeId ← given (parseNodeIdOwned texts nodeIdText)
  let nodeClass ← ask "Read NodeClass failed" fun space =>
    space.read refuses (.readNodeClass nodeId) Attributes.nodeClass
  if nodeClass ≠ .variable then throw (nodeIdText ++ " is not a variable node")
  else
    let accessLevel ← ask "Read AccessLevel failed" fun space =>
      space.read refuses (.readAccessLevel nodeId) Attributes.accessLevel
    if accessLevel &&& 2 = 0 then throw (nodeIdText ++ " is read_only")
    else
      let dataTypeId ← ask "Read DataType failed" fun space =>
        space.read refuses (.readDataType nodeId) Attributes.dataType
      let dataTypeName := dataTypeNameFromNodeId texts server dataTypeId
      let variant ← given (jsonToVariant texts dataTypeName value strictType)
      let oldValue ← ask "Read Value failed" fun space =>
        space.read refuses (.readValue nodeId) Attributes.value
      if (trimmed sourceTimestamp).isEmpty ∨ (parseIsoDateTime texts sourceTimestamp).isSome then
        return (nodeId, variantToJson texts oldValue, variant, dataTypeName)
      else throw "source_timestamp must be a valid ISO8601 string"

/-- `writeSingleValue`: the result, and the event if there is one. -/
def writeSingleValue (nodeIdText : String) (value : Json) (sourceTimestamp : String)
    (strictType : Bool) : Runtime (Json × List ChangeEvent) := do
  let (nodeId, oldValue, variant, dataTypeName) ←
    prepareWrite texts server refuses nodeIdText value sourceTimestamp strictType
  perform "UA_Server_writeDataValue failed" fun space =>
    space.write refuses (.writeDataValue nodeId variant) fun a => { a with value := variant }
  let entry := (← get).nodeEntries nodeIdText
  -- the table is searched for the text as it was given
  modify fun s => { s with
    nodeEntries := Function.update s.nodeEntries nodeIdText
      (entry.map fun e => { e with currentValue := value }) }
  let event : ChangeEvent := {
    nodeId := nodeIdText
    displayName := (entry.map NodeEntry.displayName).getD ""
    oldValue := oldValue
    value := value
    source := "command_write" }
  return (.obj [("data_type_name", .str dataTypeName), ("node_id", .str nodeIdText),
      ("old_value", oldValue), ("value", value)],
    if isWriteEventMode eventMode then [event] else [])

/-- `writeValues`, from this index on: the events of the writes that were made, and the results. -/
def writeValues (refusals : Nat → Refusals) (strictType : Bool) :
    Nat → List Json → ServerState →
      List ChangeEvent × EStateM.Result String ServerState (List Json)
  | _, [], s => ([], .ok [] s)
  | i, .obj item :: rest, s =>
    let nodeIdText := (value item "node_id").toStr
    if (trimmed nodeIdText).isEmpty then
      ([], .error ("items[" ++ toString i ++ "].node_id is required") s)
    else if !hasKey item "value" then
      ([], .error ("items[" ++ toString i ++ "].value is required") s)
    else
      match writeSingleValue texts server eventMode (refusals i) nodeIdText (value item "value")
        (value item "source_timestamp").toStr strictType s with
      | .error errorMessage s =>
        ([], .error ("items[" ++ toString i ++ "]: " ++ errorMessage) s)
      | .ok (result, events) s =>
        match writeValues refusals strictType (i + 1) rest s with
        | (more, .error errorMessage s) => (events ++ more, .error errorMessage s)
        | (more, .ok results s) => (events ++ more, .ok (result :: results) s)
  | i, _ :: _, s => ([], .error ("items[" ++ toString i ++ "] must be an object") s)

end Write

end Stdiolink.OpcUa
