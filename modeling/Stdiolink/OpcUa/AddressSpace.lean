/-
  Stdiolink.OpcUa.AddressSpace — the address space of an OPC UA server.

  What open62541 does on the calls of the driver: a call has its effect, or fails without any.
  Whether a call is refused, though what it needs is there, is a parameter: it may depend on the
  call, on the attributes of the node that it is about, and on the class of a parent.  Which nodes go
  with one that is deleted, and the order of references, are parameters too.
-/
import Mathlib.Data.Finset.Basic
import Mathlib.Data.Finset.Filter
import Stdiolink.OpcUa.Values

namespace Stdiolink.OpcUa

/-! ## §1. Nodes -/

/-- The attributes of a node that the driver reads or writes.  Those from `dataType` on are for
variables.  A context is an entry of the table of nodes, by its key. -/
structure Attributes where
  nodeClass : NodeClass
  browseName : UInt16 × List UInt8
  displayName : List UInt8
  description : List UInt8
  context : Option String := none
  dataType : NodeId := ⟨0, .numeric 0⟩
  valueRank : Int32 := -1
  accessLevel : UInt8 := 0
  value : Variant := .empty
  onWrite : Bool := false
  deriving DecidableEq

/-- A node, with its hierarchical references to nodes of this server. -/
structure Node where
  attributes : Attributes
  references : Finset NodeId := ∅
  deriving DecidableEq

/-- The nodes of a server. -/
abbrev AddressSpace := NodeId → Option Node

/-- `UA_StatusCode`, by its name. -/
abbrev Status := String

def BADNODEIDUNKNOWN : Status := "BadNodeIdUnknown"

/-! ## §2. Calls -/

/-- What `UA_Server` is asked for. -/
inductive Call where
  | readNodeClass (nodeId : NodeId)
  | readDataType (nodeId : NodeId)
  | readAccessLevel (nodeId : NodeId)
  | readValue (nodeId : NodeId)
  | addNode (nodeId parentNodeId : NodeId) (attributes : Attributes)
  | writeDisplayName (nodeId : NodeId) (text : List UInt8)
  | writeDescription (nodeId : NodeId) (text : List UInt8)
  | writeAccessLevel (nodeId : NodeId) (accessLevel : UInt8)
  | writeDataValue (nodeId : NodeId) (value : Variant)
  | setNodeContext (nodeId : NodeId) (key : String)
  | setValueCallback (nodeId : NodeId)
  | browse (nodeId : NodeId)
  | deleteNode (nodeId : NodeId) (deleteReferences : Bool)
  deriving DecidableEq

/-- The node that a call is about. -/
def Call.nodeId : Call → NodeId
  | .readNodeClass n | .readDataType n | .readAccessLevel n | .readValue n | .addNode n _ _
  | .writeDisplayName n _ | .writeDescription n _ | .writeAccessLevel n _ | .writeDataValue n _
  | .setNodeContext n _ | .setValueCallback n | .browse n | .deleteNode n _ => n

/-- The parent, where a node is added. -/
def Call.parentNodeId : Call → Option NodeId
  | .addNode _ parentNodeId _ => some parentNodeId
  | _ => none

/-- The status of the calls that are refused, from the attributes of the node, if there is one, and
the class of the parent. -/
abbrev Refusals := Call → Option Attributes → Option NodeClass → Option Status

namespace AddressSpace

variable (refuses : Refusals) (space : AddressSpace)

def attributes (n : NodeId) : Option Attributes := (space n).map Node.attributes

def nodeClass (n : NodeId) : Option NodeClass := (space.attributes n).map Attributes.nodeClass

/-- Whether this call is refused now. -/
def refusal (call : Call) : Option Status :=
  refuses call (space.attributes call.nodeId) (call.parentNodeId.bind space.nodeClass)

/-- `UA_Server_readNodeClass` and its like. -/
def read {α : Type*} (call : Call) (f : Attributes → α) : Except Status α :=
  match space.refusal refuses call, space call.nodeId with
  | some status, _ => .error status
  | none, none => .error BADNODEIDUNKNOWN
  | none, some node => .ok (f node.attributes)

/-- `UA_Server_writeDisplayName` and its like. -/
def write (call : Call) (f : Attributes → Attributes) : Except Status AddressSpace :=
  match space.refusal refuses call, space call.nodeId with
  | some status, _ => .error status
  | none, none => .error BADNODEIDUNKNOWN
  | none, some node =>
    .ok (Function.update space call.nodeId
      (some { node with attributes := f node.attributes }))

/-- `UA_Server_addObjectNode` and `UA_Server_addVariableNode`. -/
def add (n parent : NodeId) (attributes : Attributes) : Except Status AddressSpace :=
  match space.refusal refuses (.addNode n parent attributes), space n, space parent with
  | some status, _, _ => .error status
  | none, some _, _ => .error "BadNodeIdExists"
  | none, none, none => .error "BadParentNodeIdInvalid"
  | none, none, some node =>
    .ok (Function.update
      (Function.update space parent (some { node with references := insert n node.references }))
      n (some ⟨attributes, ∅⟩))

/-- The space without some nodes, and without references to them if these are deleted too. -/
def without (gone : NodeId → Bool) (deleteReferences : Bool) : AddressSpace := fun m =>
  if gone m then none
  else (space m).map fun node =>
    if deleteReferences then
      { node with references := node.references.filter fun target => gone target = false }
    else node

/-- `UA_Server_deleteNode`. -/
def delete (removed : AddressSpace → NodeId → NodeId → Bool) (n : NodeId)
    (deleteReferences : Bool) : Except Status AddressSpace :=
  match space.refusal refuses (.deleteNode n deleteReferences), space n with
  | some status, _ => .error status
  | none, none => .error BADNODEIDUNKNOWN
  | none, some _ => .ok (space.without (removed space n) deleteReferences)

/-- The node refers to `x`. -/
def Refers (m x : NodeId) : Prop := ∃ node, space m = some node ∧ x ∈ node.references

theorem without_attributes (gone : NodeId → Bool) (deleteReferences : Bool) (m : NodeId) :
    (space.without gone deleteReferences).attributes m =
      if gone m = true then none else space.attributes m := by
  rw [attributes, attributes, without]
  by_cases hgone : gone m = true
  · rw [if_pos hgone, if_pos hgone]
    rfl
  · rw [if_neg hgone, if_neg hgone]
    cases space m with
    | none => rfl
    | some node => cases deleteReferences <;> rfl

theorem without_refers (gone : NodeId → Bool) (m x : NodeId) :
    (space.without gone true).Refers m x ↔
      space.Refers m x ∧ gone m = false ∧ gone x = false := by
  rw [Refers, without]
  cases hm : gone m with
  | true => simp
  | false =>
    cases hnode : space m with
    | none => simp [Refers, hnode]
    | some node => simp [Refers, hnode]

end AddressSpace

/-- What is used of open62541 beyond the calls. -/
structure UaServer where
  /-- The nodes that go with a node that is deleted. -/
  removed : AddressSpace → NodeId → NodeId → Bool
  /-- References in the order in which they are browsed. -/
  browsed : Finset NodeId → List NodeId
  /-- `UA_TYPES`, beyond the built-in types. -/
  typeNames : NodeId → Option String

/-- `typeId`. -/
def DataType.typeId : DataType → NodeId
  | .boolean => ⟨0, .numeric 1⟩
  | .sbyte => ⟨0, .numeric 2⟩
  | .byte => ⟨0, .numeric 3⟩
  | .int16 => ⟨0, .numeric 4⟩
  | .uint16 => ⟨0, .numeric 5⟩
  | .int32 => ⟨0, .numeric 6⟩
  | .uint32 => ⟨0, .numeric 7⟩
  | .int64 => ⟨0, .numeric 8⟩
  | .uint64 => ⟨0, .numeric 9⟩
  | .float => ⟨0, .numeric 10⟩
  | .double => ⟨0, .numeric 11⟩
  | .string => ⟨0, .numeric 12⟩
  | .dateTime => ⟨0, .numeric 13⟩
  | .guid => ⟨0, .numeric 14⟩
  | .byteString => ⟨0, .numeric 15⟩
  | .nodeId => ⟨0, .numeric 17⟩
  | .expandedNodeId => ⟨0, .numeric 18⟩
  | .qualifiedName => ⟨0, .numeric 20⟩
  | .localizedText => ⟨0, .numeric 21⟩
  | .other _ => ⟨0, .numeric 0⟩

/-- The built-in types of `UA_TYPES`. -/
def builtinTypes : List DataType :=
  [.boolean, .sbyte, .byte, .int16, .uint16, .int32, .uint32, .int64, .uint64, .float, .double,
    .string, .dateTime, .guid, .byteString, .nodeId, .expandedNodeId, .qualifiedName,
    .localizedText]

/-- `dataTypeNameFromNodeId`. -/
def dataTypeNameFromNodeId (texts : Texts) (server : UaServer) (nodeId : NodeId) : String :=
  match builtinTypes.find? fun dataType => dataType.typeId = nodeId with
  | some dataType => dataType.typeName
  | none => (server.typeNames nodeId).getD (nodeIdToQString texts nodeId)

end Stdiolink.OpcUa
