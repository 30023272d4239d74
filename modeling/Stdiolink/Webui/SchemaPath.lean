/-
  Stdiolink.Webui.SchemaPath — the schema editor, `utils/schemaPath.ts` and the edits of
  `stores/useSchemaEditorStore.ts`.

  The editor turns a config schema into a tree of nodes, edits the tree at a dotted path, and turns
  it back.  The fields of a node are written back below objects and arrays of objects only, and only
  where there are any; a name is found on a path if it is not empty and has no dot, as the editor
  asks of the names it is given.

  Main results:
    * `nodesToSchema_schemaToNodes` — there and back is the same schema;
    * `nodesToSchema_editLevel` — an edit of the nodes is that edit of the schema, on its level;
    * `edits_take_effect` — the four edits of the editor;
    * `edits_without_effect` — edits that are not written back.
-/
import Stdiolink.Lib.PropertyOrder
import Stdiolink.Protocol.Json

namespace Stdiolink.Webui

open Stdiolink.Lib
open Stdiolink.Protocol

/-! ## §1. Schemas and nodes -/

/-- `SchemaFieldDescriptor`, with all that the editor does not look into as `attributes`. -/
inductive SchemaFieldDescriptor where
  | mk (type : Option String) (attributes : List (String × Json))
      (fields : Option (List (String × SchemaFieldDescriptor)))
      (items : Option SchemaFieldDescriptor)

abbrev ServiceConfigSchema := List (String × SchemaFieldDescriptor)

inductive SchemaNode where
  | mk (name : String) (descriptor : SchemaFieldDescriptor) (children : Option (List SchemaNode))

namespace SchemaFieldDescriptor

def type : SchemaFieldDescriptor → Option String
  | mk type _ _ _ => type

def fields : SchemaFieldDescriptor → Option ServiceConfigSchema
  | mk _ _ fields _ => fields

def items : SchemaFieldDescriptor → Option SchemaFieldDescriptor
  | mk _ _ _ items => items

end SchemaFieldDescriptor

mutual

/-- The node of a field. -/
def nodeOf : String → SchemaFieldDescriptor → SchemaNode
  | name, .mk type attributes fields items =>
    .mk name (.mk type attributes fields items)
      (match itemNodes type items with
      | some children => some children
      | none => fieldNodes fields)

def fieldNodes : Option ServiceConfigSchema → Option (List SchemaNode)
  | none => none
  | some fields => some (schemaToNodes fields)

def itemNodes : Option String → Option SchemaFieldDescriptor → Option (List SchemaNode)
  | type, some (.mk itemType _ fields _) =>
    if type = some "array" ∧ itemType = some "object" then fieldNodes fields else none
  | _, none => none

def schemaToNodes : ServiceConfigSchema → List SchemaNode
  | [] => []
  | (name, desc) :: rest => nodeOf name desc :: schemaToNodes rest

end

namespace SchemaFieldDescriptor

/-- `desc.fields = fields`. -/
def setFields : SchemaFieldDescriptor → ServiceConfigSchema → SchemaFieldDescriptor
  | mk type attributes _ items, fields => mk type attributes (some fields) items

/-- `desc.items = { ...desc.items, fields }`, where there are items. -/
def setItemFields : SchemaFieldDescriptor → ServiceConfigSchema → SchemaFieldDescriptor
  | mk type attributes fields (some items), itemFields =>
    mk type attributes fields (some (items.setFields itemFields))
  | desc, _ => desc

/-- `desc.items?.type === 'object'` of an array. -/
def isObjectArray (desc : SchemaFieldDescriptor) : Prop :=
  desc.type = some "array" ∧ desc.items.bind type = some "object"

instance (desc : SchemaFieldDescriptor) : Decidable desc.isObjectArray :=
  inferInstanceAs (Decidable (_ ∧ _))

/-- The fields of the children are written back to an array of objects or to an object only. -/
def writeBack (desc : SchemaFieldDescriptor) (fields : ServiceConfigSchema) :
    SchemaFieldDescriptor :=
  if desc.isObjectArray then desc.setItemFields fields
  else if desc.type = some "object" then desc.setFields fields
  else desc

end SchemaFieldDescriptor

namespace SchemaNode

def name : SchemaNode → String
  | mk name _ _ => name

def descriptor : SchemaNode → SchemaFieldDescriptor
  | mk _ descriptor _ => descriptor

def children : SchemaNode → Option (List SchemaNode)
  | mk _ _ children => children

end SchemaNode

mutual

/-- `desc` in the loop of `nodesToSchema`. -/
def nodeDescriptor : SchemaNode → SchemaFieldDescriptor
  | .mk _ desc children =>
    match childEntries children with
    | [] => desc
    | entry :: entries => desc.writeBack (ofEntries (entry :: entries))

def childEntries : Option (List SchemaNode) → ServiceConfigSchema
  | none => []
  | some children => nodeEntries children

/-- What the loop of `nodesToSchema` assigns. -/
def nodeEntries : List SchemaNode → ServiceConfigSchema
  | [] => []
  | node :: rest => (node.name, nodeDescriptor node) :: nodeEntries rest

end

def nodesToSchema (nodes : List SchemaNode) : ServiceConfigSchema := ofEntries (nodeEntries nodes)

/-! ## §2. Edits at a path -/

/-- `path.split('.')`. -/
def splitPath (path : String) : List String := (path.toList.splitOn '.').map String.ofList

/-- `names.join('.')`. -/
def joinPath (names : List String) : String :=
  String.ofList (List.intercalate ['.'] (names.map String.toList))

/-- The recursion of the edits: the last part of a path names a field of the list it leads to.
(Joining the rest of the parts and splitting it again is the rest.) -/
def editByParts (edit : String → List SchemaNode → List SchemaNode) :
    List String → List SchemaNode → List SchemaNode
  | [], nodes => nodes
  | [part], nodes => edit part nodes
  | part :: rest, nodes =>
    nodes.map fun node =>
      if node.name = part then
        .mk node.name node.descriptor (some (editByParts edit rest (node.children.getD [])))
      else node

def updateFieldByPath (nodes : List SchemaNode) (path : String)
    (updater : SchemaNode → SchemaNode) : List SchemaNode :=
  editByParts (fun name nodes => nodes.map fun node => if node.name = name then updater node else node)
    (splitPath path) nodes

def removeFieldByPath (nodes : List SchemaNode) (path : String) : List SchemaNode :=
  editByParts (fun name nodes => nodes.filter fun node => node.name ≠ name) (splitPath path) nodes

def addFieldToPath (nodes : List SchemaNode) (parentPath : String) (field : SchemaNode) :
    List SchemaNode :=
  if parentPath = "" then nodes ++ [field]
  else
    editByParts
      (fun name nodes => nodes.map fun node =>
        if node.name = name then
          .mk node.name node.descriptor (some (node.children.getD [] ++ [field]))
        else node)
      (splitPath parentPath) nodes

inductive MoveDirection where
  | up
  | down
  deriving DecidableEq

/-- The place that a field moves to. -/
def MoveDirection.newIdx : MoveDirection → Nat → Option Nat
  | .up, idx => if idx = 0 then none else some (idx - 1)
  | .down, idx => some (idx + 1)

/-- Swap a field with its neighbour, where there is one. -/
def moveField {α : Type*} (isField : α → Bool) (direction : MoveDirection) (nodes : List α) : List α :=
  match nodes.findIdx? isField with
  | none => nodes
  | some idx =>
      match direction.newIdx idx with
      | none => nodes
      | some newIdx =>
          match nodes[idx]?, nodes[newIdx]? with
          | some current, some target => (nodes.set idx target).set newIdx current
          | _, _ => nodes

def moveFieldInPath (nodes : List SchemaNode) (path : String) (direction : MoveDirection) :
    List SchemaNode :=
  editByParts (fun name nodes => moveField (fun node => node.name = name) direction nodes)
    (splitPath path) nodes

/-! ## §3. The fields below a field -/

namespace SchemaFieldDescriptor

/-- The fields that the node of a field has as its children. -/
def displayed (desc : SchemaFieldDescriptor) : Option ServiceConfigSchema :=
  (if desc.isObjectArray then desc.items.bind fields else none).or desc.fields

/-- They are written back. -/
def IsContainer (desc : SchemaFieldDescriptor) : Prop :=
  desc.isObjectArray ∨ desc.type = some "object"

instance (desc : SchemaFieldDescriptor) : Decidable desc.IsContainer :=
  inferInstanceAs (Decidable (_ ∨ _))

def childFields (desc : SchemaFieldDescriptor) : ServiceConfigSchema := desc.displayed.getD []

/-- An array of objects that says nothing of the fields of its items has fields of its own. -/
def Stray (desc : SchemaFieldDescriptor) : Prop :=
  desc.isObjectArray ∧ desc.items.bind fields = none ∧ desc.fields.getD [] ≠ []

/-- **Writing back what is displayed changes nothing.** -/
theorem writeBack_displayed {desc : SchemaFieldDescriptor} (hstray : ¬ desc.Stray)
    {entry : String × SchemaFieldDescriptor} {rest : ServiceConfigSchema}
    (h : desc.displayed = some (entry :: rest)) : desc.writeBack (entry :: rest) = desc := by
  obtain ⟨type, attributes, own, items⟩ := desc
  unfold writeBack
  by_cases harray : (mk type attributes own items).isObjectArray
  · rw [if_pos harray]
    rw [displayed, if_pos harray] at h
    cases items with
    | none => exact absurd harray.2 nofun
    | some items =>
      obtain ⟨itemType, itemAttributes, itemFields, itemItems⟩ := items
      cases itemFields with
      | none =>
        refine absurd ⟨harray, rfl, ?_⟩ hstray
        have hown : own = some (entry :: rest) := h
        rw [fields, hown]
        exact nofun
      | some itemFields =>
        obtain rfl := Option.some.inj h
        rfl
  · rw [if_neg harray]
    rw [displayed, if_neg harray] at h
    have hown : own = some (entry :: rest) := h
    rw [hown]
    split_ifs <;> rfl

end SchemaFieldDescriptor

/-- A schema as the editor finds it: on every level that it displays the names are in the order of
an object that was read, and no field is stray. -/
inductive WellFormed : ServiceConfigSchema → Prop
  | mk {schema : ServiceConfigSchema} (proper : Proper schema)
      (kept : ∀ entry ∈ schema, ¬ entry.2.Stray)
      (below : ∀ entry ∈ schema, ∀ fields, entry.2.displayed = some fields → WellFormed fields) :
      WellFormed schema

theorem WellFormed.nil : WellFormed [] := .mk .nil (by simp) (by simp)

variable {schema level : ServiceConfigSchema} {parents : List String} {α : Type*}

theorem WellFormed.childFields (h : WellFormed schema) {entry : String × SchemaFieldDescriptor}
    (hentry : entry ∈ schema) :
    WellFormed entry.2.childFields := by
  obtain ⟨-, -, below⟩ := h
  unfold SchemaFieldDescriptor.childFields
  cases hdisplayed : entry.2.displayed with
  | none => exact .nil
  | some fields => exact below entry hentry fields hdisplayed

/-! ## §4. There and back -/

variable (name : String) (desc : SchemaFieldDescriptor)

theorem nodeOf_eq : nodeOf name desc = .mk name desc (desc.displayed.map schemaToNodes) := by
  obtain ⟨type, attributes, own, items⟩ := desc
  have hfields (fields : Option ServiceConfigSchema) :
      fieldNodes fields = fields.map schemaToNodes := by cases fields <;> rfl
  rw [nodeOf, SchemaFieldDescriptor.displayed]
  cases items with
  | none =>
    rw [itemNodes, hfields]
    split_ifs <;> rfl
  | some items =>
    obtain ⟨itemType, itemAttributes, itemFields, itemItems⟩ := items
    rw [itemNodes, hfields, hfields]
    by_cases harray : type = some "array" ∧ itemType = some "object"
    · have harray' : (SchemaFieldDescriptor.mk type attributes own
          (some (.mk itemType itemAttributes itemFields itemItems))).isObjectArray := harray
      rw [if_pos harray, if_pos harray']
      cases itemFields <;> rfl
    · have harray' : ¬ (SchemaFieldDescriptor.mk type attributes own
          (some (.mk itemType itemAttributes itemFields itemItems))).isObjectArray := harray
      rw [if_neg harray, if_neg harray']
      rfl

theorem schemaToNodes_eq (schema : ServiceConfigSchema) :
    schemaToNodes schema = schema.map fun entry => nodeOf entry.1 entry.2 := by
  induction schema with
  | nil => rfl
  | cons entry rest ih =>
    obtain ⟨name, desc⟩ := entry
    rw [schemaToNodes, ih]
    rfl

theorem nodeEntries_eq (nodes : List SchemaNode) :
    nodeEntries nodes = nodes.map fun node => (node.name, nodeDescriptor node) := by
  induction nodes with
  | nil => rfl
  | cons node rest ih =>
    rw [nodeEntries, ih]
    rfl

/-- What a node is converted to, by its children. -/
theorem nodeDescriptor_eq (children : List SchemaNode) :
    nodeDescriptor (.mk name desc (some children)) =
      if children = [] then desc else desc.writeBack (nodesToSchema children) := by
  rw [nodeDescriptor]
  cases children with
  | nil => rfl
  | cons node rest => rfl

/-- What the nodes of a schema are converted to, if those below are converted to what they were. -/
theorem nodeDescriptor_nodeOf {desc : SchemaFieldDescriptor} (hstray : ¬ desc.Stray)
    (hbelow : ∀ fields, desc.displayed = some fields →
      nodesToSchema (schemaToNodes fields) = fields) :
    nodeDescriptor (nodeOf name desc) = desc := by
  rw [nodeOf_eq]
  cases hdisplayed : desc.displayed with
  | none => rfl
  | some fields =>
    rw [Option.map_some, nodeDescriptor_eq, hbelow fields hdisplayed]
    cases fields with
    | nil => rfl
    | cons entry rest =>
      rw [if_neg (by simp [schemaToNodes_eq])]
      exact SchemaFieldDescriptor.writeBack_displayed hstray hdisplayed

@[simp] theorem name_nodeOf : (nodeOf name desc).name = name := by
  rw [nodeOf_eq]
  rfl

theorem WellFormed.proper {schema : ServiceConfigSchema} (h : WellFormed schema) :
    Proper schema := by
  obtain ⟨proper, -, -⟩ := h
  exact proper

/-- The nodes of a schema are converted to its fields, one by one. -/
theorem WellFormed.nodeEntries {schema : ServiceConfigSchema} (h : WellFormed schema) :
    nodeEntries (schemaToNodes schema) = schema := by
  induction h with
  | @mk schema proper kept below ih =>
    rw [nodeEntries_eq, schemaToNodes_eq, List.map_map]
    conv_rhs => rw [← List.map_id schema]
    apply List.map_congr_left
    intro entry hentry
    show ((nodeOf entry.1 entry.2).name, nodeDescriptor (nodeOf entry.1 entry.2)) = entry
    rw [name_nodeOf, nodeDescriptor_nodeOf entry.1 (kept entry hentry)]
    intro fields hfields
    rw [nodesToSchema, ih entry hentry fields hfields]
    exact ofEntries_eq (below entry hentry fields hfields).proper

/-- **There and back.** -/
theorem nodesToSchema_schemaToNodes (h : WellFormed schema) :
    nodesToSchema (schemaToNodes schema) = schema := by
  rw [nodesToSchema, h.nodeEntries]
  exact ofEntries_eq h.proper

/-- The node of a field is converted to the field. -/
theorem WellFormed.nodeDescriptor {schema : ServiceConfigSchema} (h : WellFormed schema)
    {entry : String × SchemaFieldDescriptor} (hentry : entry ∈ schema) :
    nodeDescriptor (nodeOf entry.1 entry.2) = entry.2 := by
  obtain ⟨-, kept, below⟩ := h
  apply nodeDescriptor_nodeOf entry.1 (kept entry hentry)
  intro fields hfields
  exact nodesToSchema_schemaToNodes (below entry hentry fields hfields)

/-! ## §5. Edits -/

/-- The list of fields that a path of names leads to, if all of them are containers. -/
def levelAt : List String → ServiceConfigSchema → Option ServiceConfigSchema
  | [], schema => some schema
  | name :: rest, schema =>
    match schema.lookup name with
    | some desc => if desc.IsContainer then levelAt rest desc.childFields else none
    | none => none

/-- A schema with the fields at the end of a path changed, and nothing else. -/
def editAt (edit : ServiceConfigSchema → ServiceConfigSchema) :
    List String → ServiceConfigSchema → ServiceConfigSchema
  | [], schema => ofEntries (edit schema)
  | name :: rest, schema =>
    schema.map fun entry =>
      if entry.1 = name then (entry.1, entry.2.writeBack (editAt edit rest entry.2.childFields))
      else entry

/-- The nodes at the end of a path changed. -/
def editLevel (edit : List SchemaNode → List SchemaNode) :
    List String → List SchemaNode → List SchemaNode
  | [], nodes => edit nodes
  | name :: rest, nodes =>
    nodes.map fun node =>
      if node.name = name then
        .mk node.name node.descriptor (some (editLevel edit rest (node.children.getD [])))
      else node

/-- The first step of a path. -/
theorem levelAt_cons {name : String} {rest : List String}
    (h : levelAt (name :: rest) schema = some level) :
    ∃ desc, (name, desc) ∈ schema ∧ desc.IsContainer ∧ levelAt rest desc.childFields = some level := by
  unfold levelAt at h
  cases hlookup : schema.lookup name with
  | none => simp [hlookup] at h
  | some desc =>
    rw [hlookup] at h
    dsimp only at h
    split_ifs at h with hcontainer
    obtain ⟨before, after, rfl, -⟩ := List.lookup_eq_some_iff.mp hlookup
    exact ⟨desc, by simp, hcontainer, h⟩

/-- The children of a node are those of its field. -/
theorem children_nodeOf : (nodeOf name desc).children.getD [] = schemaToNodes desc.childFields := by
  rw [nodeOf_eq, SchemaFieldDescriptor.childFields]
  cases desc.displayed <;> rfl

/-- An edit leaves nodes where it leaves fields, or goes on below a field. -/
theorem editLevel_ne_nil {edit : List SchemaNode → List SchemaNode}
    (hlevel : levelAt parents schema = some level) (hkept : edit (schemaToNodes level) ≠ []) :
    editLevel edit parents (schemaToNodes schema) ≠ [] := by
  cases parents with
  | nil =>
    obtain rfl := Option.some.inj hlevel
    exact hkept
  | cons name rest =>
    obtain ⟨desc, hdesc, -⟩ := levelAt_cons hlevel
    rw [editLevel, schemaToNodes_eq, List.map_map]
    intro hnil
    rw [List.map_eq_nil_iff.mp hnil] at hdesc
    exact List.not_mem_nil hdesc

/-- **An edit of the nodes is the edit of the schema**, if the list that it changes does not become
empty below a field. -/
theorem nodesToSchema_editLevel {edit : List SchemaNode → List SchemaNode}
    {edit' : ServiceConfigSchema → ServiceConfigSchema}
    (hedit : ∀ level, WellFormed level → nodeEntries (edit (schemaToNodes level)) = edit' level)
    (hwf : WellFormed schema) (hlevel : levelAt parents schema = some level)
    (hkept : parents = [] ∨ edit (schemaToNodes level) ≠ []) :
    nodesToSchema (editLevel edit parents (schemaToNodes schema)) = editAt edit' parents schema := by
  induction parents generalizing schema with
  | nil =>
    rw [editLevel, nodesToSchema, hedit schema hwf]
    rfl
  | cons name rest ih =>
    obtain ⟨desc, hdesc, -, hrest⟩ := levelAt_cons hlevel
    have hkept := hkept.resolve_left (List.cons_ne_nil name rest)
    have hbelow := ih (hwf.childFields hdesc) hrest (.inr hkept)
    have hentries : nodeEntries (editLevel edit (name :: rest) (schemaToNodes schema)) =
        editAt edit' (name :: rest) schema := by
      rw [nodeEntries_eq, editLevel, editAt, schemaToNodes_eq, List.map_map, List.map_map]
      apply List.map_congr_left
      intro entry hentry
      dsimp only [Function.comp_apply]
      rw [name_nodeOf]
      split_ifs with hname
      · -- the field that the path goes through
        have hsame : entry = (name, desc) :=
          List.inj_on_of_nodup_map hwf.proper.nodup hentry hdesc hname
        subst hsame
        rw [children_nodeOf, nodeDescriptor_eq, if_neg (editLevel_ne_nil hrest hkept), hbelow,
          nodeOf_eq]
        rfl
      · rw [name_nodeOf, hwf.nodeDescriptor hentry]
    have hproper : Proper (editAt edit' (name :: rest) schema) := by
      apply hwf.proper.congr
      rw [editAt, List.map_map]
      apply List.map_congr_left
      intro entry _
      dsimp only [Function.comp_apply]
      split_ifs <;> rfl
    rw [nodesToSchema, hentries]
    exact ofEntries_eq hproper

/-- A part of a path that finds the field it names. -/
def Addressable (name : String) : Prop := name ≠ "" ∧ '.' ∉ name.toList

theorem split_join {names : List String} (hne : names ≠ [])
    (hnames : ∀ name ∈ names, Addressable name) : splitPath (joinPath names) = names := by
  have hdots : ∀ part ∈ names.map String.toList, '.' ∉ part := by
    intro part hpart
    obtain ⟨name, hname, rfl⟩ := List.mem_map.mp hpart
    exact (hnames name hname).2
  have hne' : names.map String.toList ≠ [] := by
    simpa using hne
  unfold splitPath joinPath
  rw [String.toList_ofList, List.splitOn_intercalate '.' hdots hne', List.map_map]
  conv_rhs => rw [← List.map_id names]
  apply List.map_congr_left
  intro name _
  exact String.ofList_toList

theorem editByParts_cons (edit : String → List SchemaNode → List SchemaNode) (part : String)
    {rest : List String} (hrest : rest ≠ []) (nodes : List SchemaNode) :
    editByParts edit (part :: rest) nodes = nodes.map fun node =>
      if node.name = part then
        .mk node.name node.descriptor (some (editByParts edit rest (node.children.getD [])))
      else node := by
  cases rest with
  | nil => exact absurd rfl hrest
  | cons next rest => rfl

/-- The edits go down to the list that holds the last part. -/
theorem editByParts_eq (edit : String → List SchemaNode → List SchemaNode) (parents : List String)
    (name : String) (nodes : List SchemaNode) :
    editByParts edit (parents ++ [name]) nodes = editLevel (edit name) parents nodes := by
  induction parents generalizing nodes with
  | nil => rfl
  | cons parent rest ih =>
    rw [List.cons_append, editByParts_cons edit parent (by simp), editLevel]
    apply List.map_congr_left
    intro node _
    rw [ih]

/-- An addition goes down to the children of the last part. -/
theorem appendByParts_eq (field : SchemaNode) (parent : String) (rest : List String)
    (nodes : List SchemaNode) :
    editByParts
      (fun name nodes => nodes.map fun node =>
        if node.name = name then
          .mk node.name node.descriptor (some (node.children.getD [] ++ [field]))
        else node)
      (parent :: rest) nodes = editLevel (· ++ [field]) (parent :: rest) nodes := by
  induction rest generalizing parent nodes with
  | nil => rfl
  | cons next rest ih =>
    rw [editByParts_cons _ parent (List.cons_ne_nil next rest), editLevel]
    apply List.map_congr_left
    intro node _
    rw [ih]

theorem addFieldToPath_eq (hparents : ∀ name ∈ parents, Addressable name) (field : SchemaNode)
    (nodes : List SchemaNode) :
    addFieldToPath nodes (joinPath parents) field = editLevel (· ++ [field]) parents nodes := by
  unfold addFieldToPath
  cases parents with
  | nil => exact if_pos rfl
  | cons parent rest =>
    have hsplit := split_join (List.cons_ne_nil parent rest) hparents
    have hne : joinPath (parent :: rest) ≠ "" := by
      intro hempty
      rw [hempty] at hsplit
      have hparent : "" = parent := (List.cons.inj hsplit).1
      exact (hparents parent (by simp)).1 hparent.symm
    rw [if_neg hne, hsplit, appendByParts_eq]

/-! ## §6. The edits of the editor -/

/-- `addField`, `updateField`, `removeField` and `moveField`. -/
inductive SchemaEdit where
  | add (field : SchemaNode)
  | update (name : String) (field : SchemaNode)
  | remove (name : String)
  | move (name : String) (direction : MoveDirection)

namespace SchemaEdit

/-- The edit, of the field below these parents. -/
def run (parents : List String) (nodes : List SchemaNode) : SchemaEdit → List SchemaNode
  | add field => addFieldToPath nodes (joinPath parents) field
  | update name field => updateFieldByPath nodes (joinPath (parents ++ [name])) fun _ => field
  | remove name => removeFieldByPath nodes (joinPath (parents ++ [name]))
  | move name direction => moveFieldInPath nodes (joinPath (parents ++ [name])) direction

/-- What is requested of the fields on the level of the edit. -/
def request : SchemaEdit → ServiceConfigSchema → ServiceConfigSchema
  | add field, level => level ++ [(field.name, nodeDescriptor field)]
  | update name field, level =>
    level.map fun entry => if entry.1 = name then (field.name, nodeDescriptor field) else entry
  | remove name, level => level.filter fun entry => entry.1 ≠ name
  | move name direction, level => moveField (fun entry => entry.1 = name) direction level

/-- The names on the way to the field, and its own. -/
def path (parents : List String) : SchemaEdit → List String
  | add _ => parents
  | update name _ | remove name | move name _ => parents ++ [name]

/-- A name that the edit gives to a field is not that of another. -/
def NewName : SchemaEdit → ServiceConfigSchema → Prop
  | add field, level => field.name ≠ "__proto__" ∧ field.name ∉ level.map Prod.fst
  | update name field, level =>
    field.name ≠ "__proto__" ∧ (field.name = name ∨ field.name ∉ level.map Prod.fst)
  | remove _, _ | move _ _, _ => True

end SchemaEdit

/-! ### Each edit on the entries of a level -/

/-- A move sees the names only. -/
theorem moveField_map {β : Type*} (f : α → β) (p : β → Bool) (direction : MoveDirection)
    (xs : List α) : moveField p direction (xs.map f) = (moveField (p ∘ f) direction xs).map f := by
  unfold moveField
  rw [List.findIdx?_map]
  cases xs.findIdx? (p ∘ f) with
  | none => rfl
  | some idx =>
    dsimp only
    cases direction.newIdx idx with
    | none => rfl
    | some newIdx =>
      dsimp only
      rw [List.getElem?_map, List.getElem?_map]
      cases xs[idx]? with
      | none => rfl
      | some current =>
        cases xs[newIdx]? with
        | none => rfl
        | some target => simp [List.map_set]

namespace SchemaEdit

/-- What the edit does to the nodes of its level. -/
def onNodes : SchemaEdit → List SchemaNode → List SchemaNode
  | add field, nodes => nodes ++ [field]
  | update name field, nodes => nodes.map fun node => if node.name = name then field else node
  | remove name, nodes => nodes.filter fun node => node.name ≠ name
  | move name direction, nodes => moveField (fun node => node.name = name) direction nodes

theorem run_eq (edit : SchemaEdit) {parents : List String}
    (hpath : ∀ name ∈ edit.path parents, Addressable name) (nodes : List SchemaNode) :
    edit.run parents nodes = editLevel edit.onNodes parents nodes := by
  have hsplit (name : String) (h : ∀ part ∈ parents ++ [name], Addressable part) :
      splitPath (joinPath (parents ++ [name])) = parents ++ [name] := split_join (by simp) h
  cases edit with
  | add field => exact addFieldToPath_eq hpath field nodes
  | update name field =>
    rw [run, updateFieldByPath, hsplit name hpath, editByParts_eq]
    rfl
  | remove name =>
    rw [run, removeFieldByPath, hsplit name hpath, editByParts_eq]
    rfl
  | move name direction =>
    rw [run, moveFieldInPath, hsplit name hpath, editByParts_eq]
    rfl

/-- **The nodes of a level are edited as is requested of its fields.** -/
theorem nodeEntries_onNodes (edit : SchemaEdit) {level : ServiceConfigSchema}
    (hwf : WellFormed level) :
    nodeEntries (edit.onNodes (schemaToNodes level)) = edit.request level := by
  have hentries := hwf.nodeEntries
  rw [nodeEntries_eq] at hentries ⊢
  cases edit with
  | add field =>
    rw [onNodes, List.map_append, hentries]
    rfl
  | update name field =>
    rw [onNodes, request, List.map_map]
    conv_rhs => rw [← hentries, List.map_map]
    apply List.map_congr_left
    intro node _
    dsimp only [Function.comp_apply]
    split_ifs <;> rfl
  | remove name =>
    rw [onNodes, request]
    conv_rhs => rw [← hentries, List.filter_map]
    rfl
  | move name direction =>
    rw [onNodes, request]
    conv_rhs => rw [← hentries, moveField_map]
    rfl

/-- Where fields are left, nodes are left. -/
theorem onNodes_ne_nil (edit : SchemaEdit) {level : ServiceConfigSchema} (hwf : WellFormed level)
    (h : edit.request level ≠ []) : edit.onNodes (schemaToNodes level) ≠ [] := by
  intro hnil
  rw [← edit.nodeEntries_onNodes hwf, hnil] at h
  exact h rfl

end SchemaEdit

/-! ## §7. What an edit leaves -/

theorem WellFormed.levelAt {parents : List String} {schema level : ServiceConfigSchema}
    (h : WellFormed schema) (hlevel : levelAt parents schema = some level) : WellFormed level := by
  induction parents generalizing schema with
  | nil =>
    obtain rfl := Option.some.inj hlevel
    exact h
  | cons name rest ih =>
    obtain ⟨desc, hdesc, -, hrest⟩ := levelAt_cons hlevel
    exact ih (h.childFields hdesc) hrest

namespace SchemaFieldDescriptor

/-- A container gives back the fields that were written to it, and is a container still. -/
theorem writeBack_childFields {desc : SchemaFieldDescriptor} (h : desc.IsContainer)
    (fields : ServiceConfigSchema) :
    (desc.writeBack fields).IsContainer ∧ (desc.writeBack fields).childFields = fields := by
  obtain ⟨type, attributes, own, items⟩ := desc
  unfold writeBack
  by_cases harray : (mk type attributes own items).isObjectArray
  · rw [if_pos harray]
    cases items with
    | none => exact absurd harray.2 nofun
    | some items =>
      obtain ⟨itemType, itemAttributes, itemFields, itemItems⟩ := items
      have harray' : ((mk type attributes own
          (some (mk itemType itemAttributes itemFields itemItems))).setItemFields
          fields).isObjectArray := harray
      refine ⟨.inl harray', ?_⟩
      rw [childFields, displayed, if_pos harray']
      rfl
  · have hobject := h.resolve_left harray
    rw [if_neg harray, if_pos hobject]
    have harray' : ¬ ((mk type attributes own items).setFields fields).isObjectArray := harray
    refine ⟨.inr hobject, ?_⟩
    rw [childFields, displayed, if_neg harray']
    rfl

end SchemaFieldDescriptor

theorem lookup_mapAt (f : α → α) (entries : List (String × α)) :
    (entries.map fun entry => if entry.1 = name then (entry.1, f entry.2) else entry).lookup name =
      (entries.lookup name).map f := by
  induction entries with
  | nil => rfl
  | cons entry rest ih =>
    obtain ⟨key, value⟩ := entry
    rw [List.map_cons]
    by_cases hkey : key = name
    · subst hkey
      simp
    · rw [if_neg hkey, List.lookup_cons, List.lookup_cons, ih, beq_false_of_ne (Ne.symm hkey)]

/-- The changed level is where the path leads. -/
theorem levelAt_editAt {edit : ServiceConfigSchema → ServiceConfigSchema}
    (hlevel : levelAt parents schema = some level) :
    levelAt parents (editAt edit parents schema) = some (ofEntries (edit level)) := by
  induction parents generalizing schema with
  | nil =>
    obtain rfl := Option.some.inj hlevel
    rfl
  | cons name rest ih =>
    have hmap := lookup_mapAt name
      (fun desc : SchemaFieldDescriptor => desc.writeBack (editAt edit rest desc.childFields)) schema
    unfold levelAt at hlevel ⊢
    rw [editAt, hmap]
    cases hlookup : schema.lookup name with
    | none => simp [hlookup] at hlevel
    | some desc =>
      rw [hlookup] at hlevel
      dsimp only at hlevel
      split_ifs at hlevel with hcontainer
      obtain ⟨hcontainer', hfields⟩ := SchemaFieldDescriptor.writeBack_childFields hcontainer
        (editAt edit rest desc.childFields)
      dsimp only [Option.map_some]
      rw [if_pos hcontainer', hfields]
      exact ih hlevel

/-- A move changes the order only. -/
theorem moveField_perm (isField : α → Bool) (direction : MoveDirection) (xs : List α) :
    (moveField isField direction xs).Perm xs := by
  unfold moveField
  cases xs.findIdx? isField with
  | none => exact .refl _
  | some idx =>
    dsimp only
    cases direction.newIdx idx with
    | none => exact .refl _
    | some newIdx =>
      dsimp only
      split
      · next current target hcurrent htarget =>
        obtain ⟨hidx, rfl⟩ := List.getElem?_eq_some_iff.mp hcurrent
        obtain ⟨hnewIdx, rfl⟩ := List.getElem?_eq_some_iff.mp htarget
        exact List.set_set_perm hidx hnewIdx
      · exact .refl _

namespace SchemaEdit

/-- The names of the level after the edit are different still. -/
theorem request_names (edit : SchemaEdit) {level : ServiceConfigSchema} (hproper : Proper level)
    (hnew : edit.NewName level) :
    ((edit.request level).map Prod.fst).Nodup ∧
      "__proto__" ∉ (edit.request level).map Prod.fst := by
  obtain ⟨hnodup, -, hplain⟩ := hproper
  cases edit with
  | add field =>
    rw [request, List.map_append]
    constructor
    · exact hnodup.append (List.nodup_singleton _) (List.disjoint_singleton.mpr hnew.2)
    · rw [List.mem_append, not_or]
      exact ⟨hplain, fun h => hnew.1 (List.mem_singleton.mp h).symm⟩
  | update name field =>
    have hnames : (request (update name field) level).map Prod.fst =
        (level.map Prod.fst).map fun other => if other = name then field.name else other := by
      rw [request, List.map_map, List.map_map]
      apply List.map_congr_left
      intro entry _
      dsimp only [Function.comp_apply]
      split_ifs <;> rfl
    rw [hnames]
    constructor
    · apply hnodup.map_on
      intro a ha b hb hab
      obtain ⟨-, hname⟩ := hnew
      -- the new name is the old one, or none of the others
      by_cases han : a = name <;> by_cases hbn : b = name
      · rw [han, hbn]
      · rw [if_pos han, if_neg hbn] at hab
        rw [hab] at hname
        exact absurd (hname.resolve_left hbn) (not_not_intro hb)
      · rw [if_neg han, if_pos hbn] at hab
        rw [← hab] at hname
        exact absurd (hname.resolve_left han) (not_not_intro ha)
      · rwa [if_neg han, if_neg hbn] at hab
    · intro h
      obtain ⟨other, hother, heq⟩ := List.mem_map.mp h
      split_ifs at heq
      · exact hnew.1 heq
      · exact hplain (heq ▸ hother)
  | remove name =>
    have hsublist : ((request (remove name) level).map Prod.fst).Sublist (level.map Prod.fst) :=
      List.filter_sublist.map _
    exact ⟨hnodup.sublist hsublist, fun h => hplain (hsublist.subset h)⟩
  | move name direction =>
    have hperm := (moveField_perm (fun entry => entry.1 = name) direction level).map Prod.fst
    exact ⟨hperm.nodup_iff.mpr hnodup, fun h => hplain (hperm.subset h)⟩

end SchemaEdit

/-- **Edits take effect, and nothing else changes.** -/
theorem edits_take_effect {schema : ServiceConfigSchema} (hwf : WellFormed schema) :
    nodesToSchema (schemaToNodes schema) = schema ∧
    ∀ (edit : SchemaEdit) (parents : List String) (level : ServiceConfigSchema),
      levelAt parents schema = some level →
      (∀ name ∈ edit.path parents, Addressable name) → edit.NewName level →
      (parents = [] ∨ edit.request level ≠ []) →
      let schema' := nodesToSchema (edit.run parents (schemaToNodes schema))
      schema' = editAt edit.request parents schema ∧
        ∃ level', levelAt parents schema' = some level' ∧ level'.Perm (edit.request level) ∧
          ((∀ name ∈ (edit.request level).map Prod.fst, arrayIndex? name = none) →
            level' = edit.request level) := by
  refine ⟨nodesToSchema_schemaToNodes hwf, ?_⟩
  intro edit parents level hlevel hpath hnew hkept schema'
  have hedit : schema' = editAt edit.request parents schema := by
    show nodesToSchema (edit.run parents (schemaToNodes schema)) = _
    rw [edit.run_eq hpath]
    apply nodesToSchema_editLevel (fun level h => edit.nodeEntries_onNodes h) hwf hlevel
    exact hkept.imp_right (edit.onNodes_ne_nil (hwf.levelAt hlevel))
  obtain ⟨hnodup, hplain⟩ := edit.request_names (hwf.levelAt hlevel).proper hnew
  refine ⟨hedit, ofEntries (edit.request level), ?_, ofEntries_perm hnodup hplain, ?_⟩
  · rw [hedit]
    exact levelAt_editAt hlevel
  · intro hnames
    exact ofEntries_eq (.of_names hnodup hplain hnames)

/-- A field without fields of its own. -/
def plainField (type : String) : SchemaFieldDescriptor := .mk (some type) [] none none

def optsSchema : ServiceConfigSchema :=
  [("opts", .mk (some "object") [] (some [("a", plainField "int"), ("b", plainField "string")]) none)]

theorem plainField_not_stray (type : String) : ¬ (plainField type).Stray :=
  fun h => absurd h.1.2 nofun

theorem plainField_displayed (type : String) : (plainField type).displayed = none := by
  rw [SchemaFieldDescriptor.displayed, if_neg fun h => absurd h.2 nofun]
  rfl

theorem optsSchema_wellFormed : WellFormed optsSchema := by
  have hbelow : WellFormed [("a", plainField "int"), ("b", plainField "string")] := by
    constructor
    · exact .of_names (by decide) (by decide) (by decide +kernel)
    · simp [plainField_not_stray]
    · simp [plainField_displayed]
  constructor
  · exact .of_names (by decide) (by decide) (by decide +kernel)
  · intro entry hentry hstray
    rw [List.mem_singleton.mp hentry] at hstray
    exact absurd hstray.1.2 nofun
  · intro entry hentry fields hfields
    rw [List.mem_singleton.mp hentry] at hfields
    obtain rfl := Option.some.inj hfields
    exact hbelow

/-- Of two fields of an object, the first is removed. -/
theorem edits_take_effect_opts :
    nodesToSchema (removeFieldByPath (schemaToNodes optsSchema) "opts.a") =
      [("opts", .mk (some "object") [] (some [("b", plainField "string")]) none)] := by
  obtain ⟨hedit, -⟩ := (edits_take_effect optsSchema_wellFormed).2 (.remove "a") ["opts"]
    [("a", plainField "int"), ("b", plainField "string")] rfl
    (by
      intro name hname
      simp only [SchemaEdit.path, List.cons_append, List.nil_append, List.mem_cons,
        List.not_mem_nil, or_false] at hname
      obtain rfl | rfl := hname <;> exact ⟨by decide, by decide⟩)
    trivial (.inr nofun)
  exact hedit

/-- A field added below a string is not written back; a field whose name has a dot is not found; and
the last field of an object stays when it is removed. -/
theorem edits_without_effect :
    nodesToSchema (addFieldToPath (schemaToNodes [("host", plainField "string")]) "host"
        (.mk "port" (plainField "int") none)) = [("host", plainField "string")] ∧
      nodesToSchema (removeFieldByPath (schemaToNodes [("a.b", plainField "int")]) "a.b") =
        [("a.b", plainField "int")] ∧
      nodesToSchema (removeFieldByPath
          (schemaToNodes [("o", .mk (some "object") [] (some [("a", plainField "int")]) none)]) "o.a") =
        [("o", .mk (some "object") [] (some [("a", plainField "int")]) none)] :=
  ⟨rfl, rfl, rfl⟩

end Stdiolink.Webui
