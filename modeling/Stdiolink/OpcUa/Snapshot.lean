/-
  Stdiolink.OpcUa.Snapshot — snapshots of an address space, `driver_opcua/handler.cpp`.

  A snapshot reads a node, browses what it refers to, page by page, and reads each of these in the
  same way.  The nodes that have been read are in a set; a node that is met again is read again, but
  not browsed.  The address space may be any graph.  A snapshot is given a number of levels and
  yields nothing when they do not suffice.

  Main results:
    * `readNodeSnapshot_eq` — a snapshot is a depth-first search that lists marked neighbours;
    * `snapshot_complete`   — it ends, and its tree has every node that can be reached, with all
      its references where it comes first;
    * `handle_complete`     — so has the answer to a request for it.
-/
import Stdiolink.Lib.DepthFirst
import Stdiolink.OpcUa.Values
import Stdiolink.Protocol.Jsonl

namespace Stdiolink.OpcUa

open Stdiolink.Lib
open Stdiolink.Protocol
open Stdiolink.Protocol.Json

/-! ## §1. The client -/

/-- `UA_ReferenceDescription`, as far as it is read. -/
structure ReferenceDescription where
  nodeId : ExpandedNodeId
  nodeClass : NodeClass

/-- `UA_BrowseResult`; the name of its status, where it is not good. -/
structure BrowseResult where
  statusCode : Option String := none
  references : List ReferenceDescription

/-- What the server answers to `Browse` and to `BrowseNext`.  A continuation point is what it
answers when it is asked to go on. -/
inductive BrowseResponse where
  | failed (serviceResult : String)
  | unexpectedCount
  | last (result : BrowseResult)
  | more (result : BrowseResult) (next : BrowseResponse)

/-- What is used of `UA_Client`; a call that fails yields the name of its status. -/
structure UaClient where
  readNodeClassAttribute : NodeId → Except String NodeClass
  readBrowseNameAttribute : NodeId → Except String (UInt16 × List UInt8)
  readDisplayNameAttribute : NodeId → Except String (List UInt8)
  readDescriptionAttribute : NodeId → Except String (List UInt8)
  readDataTypeAttribute : NodeId → Except String NodeId
  readValueRankAttribute : NodeId → Except String Int32
  readAccessLevelAttribute : NodeId → Except String UInt8
  readValueAttribute : NodeId → Except String Variant
  browse : NodeId → BrowseResponse

/-- The members that only variables have. -/
structure VariableFields where
  dataTypeId : String
  dataTypeName : String
  valueRank : Int32
  accessLevel : UInt8
  value : Json
  valueText : String

/-- A node of a snapshot, without its children. -/
structure SnapshotNode where
  nodeId : String
  nodeClass : NodeClass
  browseName : String
  displayName : String
  description : String
  isDirectory : Bool
  variableFields : Option VariableFields

section Reading

variable (texts : Texts) (client : UaClient)

/-- A status that is not good, as an error. -/
def checked {α : Type*} (action : String) (r : Except String α) : Except String α :=
  r.mapError (formatStatusMessage action)

/-- The `scalarToJson` of this driver: an instant is its ticks. -/
def clientScalarToJson : Scalar → Json
  | .dateTime ticks => .str (toString ticks.toInt)
  | v => scalarToJson texts v

/-- The `variantToJson` of this driver. -/
def clientVariantToJson : Variant → Json
  | .empty => .null
  | .scalar value => clientScalarToJson texts value
  | .array items => .arr (items.map (clientScalarToJson texts))

/-- `readDataTypeName`. -/
def readDataTypeName (dataTypeId : NodeId) : String :=
  match client.readBrowseNameAttribute dataTypeId with
  | .ok (namespaceIndex, name) =>
    let text := uaStringToQString texts name
    if text.isEmpty then qualifiedNameToQString texts namespaceIndex name else text
  | .error _ => nodeIdToQString texts dataTypeId

/-- What is read of a variable only. -/
def readVariable (nodeId : NodeId) : Except String VariableFields := do
  let dataTypeId ← checked "Read data type failed" (client.readDataTypeAttribute nodeId)
  let valueRank ← checked "Read value rank failed" (client.readValueRankAttribute nodeId)
  let accessLevel ← checked "Read access level failed" (client.readAccessLevelAttribute nodeId)
  let value ← checked "Read value failed" (client.readValueAttribute nodeId)
  let valueJson := clientVariantToJson texts value
  return {
    dataTypeId := nodeIdToQString texts dataTypeId
    dataTypeName := readDataTypeName texts client dataTypeId
    valueRank := valueRank
    accessLevel := accessLevel
    value := valueJson
    valueText := jsonValueToText texts valueJson }

def readVariableFields (nodeClass : NodeClass) (nodeId : NodeId) :
    Except String (Option VariableFields) :=
  if nodeClass = .variable then (readVariable texts client nodeId).map some else .ok none

/-- What `readNodeSnapshot` reads of the node itself. -/
def readFields (nodeId : NodeId) : Except String SnapshotNode := do
  let nodeClass ← checked "Read node class failed" (client.readNodeClassAttribute nodeId)
  let browseName ← checked "Read browse name failed" (client.readBrowseNameAttribute nodeId)
  let displayName ← checked "Read display name failed" (client.readDisplayNameAttribute nodeId)
  let description ← checked "Read description failed" (client.readDescriptionAttribute nodeId)
  let variableFields ← readVariableFields texts client nodeClass nodeId
  return {
    nodeId := nodeIdToQString texts nodeId
    nodeClass := nodeClass
    browseName := qualifiedNameToQString texts browseName.1 browseName.2
    displayName := uaStringToQString texts displayName
    description := uaStringToQString texts description
    isDirectory := isDirectoryNodeClass nodeClass
    variableFields := variableFields }

/-! ## §2. The recursion -/

/-- The next step of a call that may fail, or need more levels. -/
def andThen {α β : Type*} (r : Option (Except String α))
    (f : α → Option (Except String β)) : Option (Except String β) :=
  match r with
  | none => none
  | some (.error errorMessage) => some (.error errorMessage)
  | some (.ok a) => f a

/-- The set `visited`, in the order of insertion, and the children so far. -/
abbrev Browsed := List String × List (RoseTree SnapshotNode)

/-- `appendReferences` of `browseChildren`. -/
def appendReferences
    (read : NodeId → List String → Option (Except String (RoseTree SnapshotNode × List String)))
    (excludeNamespaceZeroChildren : Bool) :
    List ReferenceDescription → Browsed → Option (Except String Browsed)
  | [], s => some (.ok s)
  | reference :: rest, (visited, outChildren) =>
    if !reference.nodeId.isLocal then
      appendReferences read excludeNamespaceZeroChildren rest (visited, outChildren)
    else if !isBrowsableSnapshotNode reference.nodeClass then
      appendReferences read excludeNamespaceZeroChildren rest (visited, outChildren)
    else if excludeNamespaceZeroChildren && reference.nodeId.nodeId.namespaceIndex == 0 then
      appendReferences read excludeNamespaceZeroChildren rest (visited, outChildren)
    else
      andThen (read reference.nodeId.nodeId visited) fun (childNode, visited) =>
        appendReferences read excludeNamespaceZeroChildren rest
          (visited, outChildren ++ [childNode])

/-- `browseChildren`: the first page and, as long as there is a continuation point, the next. -/
def browseChildren
    (read : NodeId → List String → Option (Except String (RoseTree SnapshotNode × List String)))
    (excludeNamespaceZeroChildren : Bool) (service : String) :
    BrowseResponse → Browsed → Option (Except String Browsed)
  | .failed serviceResult, _ =>
    some (.error (formatStatusMessage (service ++ " failed") serviceResult))
  | .unexpectedCount, _ => some (.error (service ++ " failed: unexpected result count"))
  | .last result, s => page result s
  | .more result next, s =>
    andThen (page result s) fun s =>
      browseChildren read excludeNamespaceZeroChildren "BrowseNext" next s
where
  page (result : BrowseResult) (s : Browsed) : Option (Except String Browsed) :=
    match result.statusCode with
    | some status => some (.error (formatStatusMessage "Browse result failed" status))
    | none => appendReferences read excludeNamespaceZeroChildren result.references s

/-- `readNodeSnapshot`, at most so many levels deep. -/
def readNodeSnapshot : Nat → NodeId → Bool → Bool → Bool → List String →
    Option (Except String (RoseTree SnapshotNode × List String))
  | 0, _, _, _, _, _ => none
  | levels + 1, nodeId, expandChildren, recurseChildren, excludeNamespaceZeroChildren, visited =>
    match readFields texts client nodeId with
    | .error errorMessage => some (.error errorMessage)
    | .ok fields =>
      let alreadyVisited := visited.contains fields.nodeId
      let visited := if alreadyVisited then visited else visited ++ [fields.nodeId]
      if fields.isDirectory && expandChildren && !alreadyVisited then
        -- what is excluded is so only here
        andThen (browseChildren
            (fun childNodeId visited =>
              readNodeSnapshot levels childNodeId recurseChildren recurseChildren false visited)
            excludeNamespaceZeroChildren "Browse" (client.browse nodeId) (visited, []))
          fun (visited, children) => some (.ok (.node fields children, visited))
      else some (.ok (.node fields [], visited))

end Reading

/-! ## §3. Graphs -/

/-- **An address space** as a snapshot sees it: a graph of any shape on finitely many nodes, which a
reference that is followed does not leave.  A reference tells the class of its target. -/
structure AddressGraph where
  ids : Finset NodeId
  nodeClass : NodeId → NodeClass
  references : NodeId → List ReferenceDescription
  closed : ∀ n ∈ ids, ∀ r ∈ references n, r.nodeId.isLocal = true →
    isBrowsableSnapshotNode r.nodeClass = true →
      r.nodeId.nodeId ∈ ids ∧ nodeClass r.nodeId.nodeId = r.nodeClass

/-- The targets of the references that are followed, in their order. -/
def eligible (excludeNamespaceZeroChildren : Bool) (references : List ReferenceDescription) :
    List NodeId :=
  (references.filter fun r => r.nodeId.isLocal && isBrowsableSnapshotNode r.nodeClass &&
    !(excludeNamespaceZeroChildren && r.nodeId.nodeId.namespaceIndex == 0)).map (·.nodeId.nodeId)

/-- The answers to `Browse` and `BrowseNext` are pages of these references. -/
inductive Pages : BrowseResponse → List ReferenceDescription → Prop
  | last (references : List ReferenceDescription) : Pages (.last ⟨none, references⟩) references
  | more (references : List ReferenceDescription) {next : BrowseResponse}
      {rest : List ReferenceDescription} (hrest : Pages next rest) :
      Pages (.more ⟨none, references⟩ next) (references ++ rest)

namespace AddressGraph

variable (space : AddressGraph)

/-- The children of a node in a snapshot from `start`: none but of objects and views, and of the
start without those of namespace 0 where these are excluded. -/
def children (start : NodeId) (exclude : Bool) (n : NodeId) : List NodeId :=
  if isDirectoryNodeClass (space.nodeClass n) then
    eligible (exclude && decide (n = start)) (space.references n)
  else []

/-- **The client reads this space**: every read succeeds, each node is browsed in any number of
pages, and no two nodes have the same text. -/
structure ReadBy (texts : Texts) (client : UaClient) : Prop where
  nodeClass : ∀ n ∈ space.ids, client.readNodeClassAttribute n = .ok (space.nodeClass n)
  fields : ∀ n ∈ space.ids, ∃ fields, readFields texts client n = .ok fields
  pages : ∀ n ∈ space.ids, isDirectoryNodeClass (space.nodeClass n) = true →
    Pages (client.browse n) (space.references n)
  distinct : ∀ m ∈ space.ids, ∀ n ∈ space.ids,
    nodeIdToQString texts m = nodeIdToQString texts n → m = n

/-- **A complete snapshot** from `start`: the node ids are those that can be reached, what is at a
node has been read of it, and each node lists its children where it comes first, one for every
reference and in their order, and none elsewhere. -/
structure Complete (texts : Texts) (client : UaClient) (start : NodeId) (exclude : Bool)
    (tree : RoseTree SnapshotNode) : Prop where
  nodes : ∀ text, text ∈ (tree.map SnapshotNode.nodeId).preorder ↔
    ∃ n, DepthFirst.Reaches (space.children start exclude) start n ∧
      nodeIdToQString texts n = text
  attributes : ∀ node ∈ tree.preorder,
    ∃ n, DepthFirst.Reaches (space.children start exclude) start n ∧
      readFields texts client n = .ok node
  places : ∀ n, DepthFirst.Reaches (space.children start exclude) start n →
    ∃ m, (tree.map SnapshotNode.nodeId).childLists (nodeIdToQString texts n) =
      (space.children start exclude n).map (nodeIdToQString texts) :: List.replicate m []

variable {space}

theorem children_mem {start : NodeId} {exclude : Bool} {n : NodeId} (hn : n ∈ space.ids) :
    ∀ m ∈ space.children start exclude n, m ∈ space.ids := by
  intro m hm
  unfold children eligible at hm
  split_ifs at hm
  · obtain ⟨r, hr, rfl⟩ := List.mem_map.mp hm
    rw [List.mem_filter, Bool.and_eq_true, Bool.and_eq_true] at hr
    exact (space.closed n hn r hr.1 hr.2.1.1 hr.2.1.2).1
  · cases hm

end AddressGraph

/-! ## §4. A snapshot is a search -/

section Search

variable {texts : Texts} {client : UaClient}

/-- What is read of a node has its text and its class. -/
theorem readFields_ok {nodeId : NodeId} {fields : SnapshotNode} {nodeClass : NodeClass}
    (hclass : client.readNodeClassAttribute nodeId = .ok nodeClass)
    (h : readFields texts client nodeId = .ok fields) :
    fields.nodeId = nodeIdToQString texts nodeId ∧
      fields.isDirectory = isDirectoryNodeClass nodeClass := by
  have hbind : ∀ {α β : Type} {r : Except String α} {f : α → Except String β} {b : β},
      (r >>= f) = .ok b → ∃ a, r = .ok a ∧ f a = .ok b := by
    intro α β r f b hr
    cases r with
    | error => cases hr
    | ok a => exact ⟨a, rfl, hr⟩
  unfold readFields at h
  rw [hclass] at h
  obtain ⟨nodeClass', hclass', h⟩ := hbind h
  obtain rfl := Except.ok.inj hclass'
  obtain ⟨browseName, -, h⟩ := hbind h
  obtain ⟨displayName, -, h⟩ := hbind h
  obtain ⟨description, -, h⟩ := hbind h
  obtain ⟨variableFields, -, h⟩ := hbind h
  obtain rfl := Except.ok.inj h
  exact ⟨rfl, rfl⟩

section References

variable {read : NodeId → List String →
    Option (Except String (RoseTree SnapshotNode × List String))} {exclude : Bool}

/-- References that are read after others. -/
theorem appendReferences_append (references rest : List ReferenceDescription) (s : Browsed) :
    appendReferences read exclude (references ++ rest) s =
      andThen (appendReferences read exclude references s)
        (appendReferences read exclude rest) := by
  induction references generalizing s with
  | nil => rfl
  | cons r references ih =>
    obtain ⟨visited, outChildren⟩ := s
    rw [List.cons_append, appendReferences, appendReferences]
    split_ifs
    · exact ih _
    · exact ih _
    · exact ih _
    · cases hread : read r.nodeId.nodeId visited with
      | none => rfl
      | some result =>
        cases result with
        | error => rfl
        | ok child => exact ih _

/-- **The pages**, one after the other, are one list of references. -/
theorem browseChildren_pages {service : String} {response : BrowseResponse}
    {references : List ReferenceDescription} (h : Pages response references) (s : Browsed) :
    browseChildren read exclude service response s =
      appendReferences read exclude references s := by
  induction h generalizing service s with
  | last references => rfl
  | more references hrest ih =>
    rw [appendReferences_append, browseChildren]
    congr 1
    funext s
    exact ih s

theorem eligible_cons (r : ReferenceDescription) (rest : List ReferenceDescription) :
    eligible exclude (r :: rest) =
      if r.nodeId.isLocal && isBrowsableSnapshotNode r.nodeClass &&
          !(exclude && r.nodeId.nodeId.namespaceIndex == 0) then
        r.nodeId.nodeId :: eligible exclude rest
      else eligible exclude rest := by
  unfold eligible
  rw [List.filter_cons]
  split_ifs <;> rfl

end References

variable {space : AddressGraph} {fields : NodeId → SnapshotNode} {start : NodeId} {exclude : Bool}

/-- A search, with the texts of its marks, as the outcome of a call. -/
def searched (texts : Texts) (fields : NodeId → SnapshotNode)
    (r : Option (RoseTree NodeId × List NodeId)) :
    Option (Except String (RoseTree SnapshotNode × List String)) :=
  r.map fun (t, seen) => .ok (t.map fields, seen.map (nodeIdToQString texts))

/-- The marks when the search is under way. -/
def Marked (space : AddressGraph) (start : NodeId) (seen : List NodeId) : Prop :=
  start ∈ seen ∧ ∀ n ∈ seen, n ∈ space.ids

variable {n : NodeId} {levels : Nat} {seen : List NodeId}

/-- Nothing that can be reached lies outside. -/
theorem reaches_mem {m : NodeId} (hm : m ∈ space.ids)
    (hreach : DepthFirst.Reaches (space.children start exclude) m n) : n ∈ space.ids := by
  induction hreach with
  | refl => exact hm
  | tail _ hstep ih => exact AddressGraph.children_mem ih _ hstep

/-- A search leaves such marks. -/
theorem Marked.listing {seen' : List NodeId} {t : RoseTree NodeId} (h : Marked space start seen)
    (hn : n ∈ space.ids)
    (hsearch : DepthFirst.listing (space.children start exclude) levels n seen = some (t, seen')) :
    Marked space start seen' := by
  obtain ⟨found, hwalked⟩ := (DepthFirst.listing_listed hsearch).walked
  rw [hwalked.marks]
  refine ⟨List.mem_append_left _ h.1, ?_⟩
  intro m hm
  obtain hm | hm := List.mem_append.mp hm
  · exact h.2 m hm
  · obtain ⟨c, hc, hreach⟩ := hwalked.sound m hm
    rw [List.mem_singleton.mp hc] at hreach
    exact reaches_mem hn hreach

/-- The loop over the references is the loop of the search over their targets. -/
theorem appendReferences_searched
    {read : NodeId → List String → Option (Except String (RoseTree SnapshotNode × List String))}
    (hread : ∀ n ∈ space.ids, ∀ seen, Marked space start seen →
      read n (seen.map (nodeIdToQString texts)) =
        searched texts fields (DepthFirst.listing (space.children start exclude) levels n seen))
    {ex : Bool} {references : List ReferenceDescription}
    (hreferences : ∀ n ∈ eligible ex references, n ∈ space.ids) (hseen : Marked space start seen)
    (out : List (RoseTree SnapshotNode)) :
    appendReferences read ex references (seen.map (nodeIdToQString texts), out) =
      (DepthFirst.listingAll (DepthFirst.listing (space.children start exclude) levels)
        (eligible ex references) seen).map fun (ts, seen') =>
          .ok (seen'.map (nodeIdToQString texts), out ++ RoseTree.mapAll fields ts) := by
  induction references generalizing seen out with
  | nil =>
    show some (Except.ok (_, out)) = some (Except.ok (_, out ++ []))
    rw [List.append_nil]
  | cons r references ih =>
    rw [eligible_cons] at hreferences ⊢
    rw [appendReferences]
    cases hlocal : r.nodeId.isLocal with
    | false => exact ih (by simpa [hlocal] using hreferences) hseen out
    | true =>
    cases hclass : isBrowsableSnapshotNode r.nodeClass with
    | false => exact ih (by simpa [hclass] using hreferences) hseen out
    | true =>
    cases hex : (ex && r.nodeId.nodeId.namespaceIndex == 0) with
    | true => exact ih (by simpa [hex] using hreferences) hseen out
    | false =>
      -- the target is read next
      simp only [hlocal, hclass, hex, Bool.not_true, Bool.not_false, Bool.and_true, if_true,
        Bool.false_eq_true, if_false] at hreferences ⊢
      have htarget := hreferences _ List.mem_cons_self
      rw [hread _ htarget seen hseen, DepthFirst.listingAll]
      cases hsearch : DepthFirst.listing (space.children start exclude) levels r.nodeId.nodeId
        seen with
      | none => rfl
      | some result =>
        obtain ⟨t, mid⟩ := result
        have hrest := ih (fun n hn => hreferences n (List.mem_cons_of_mem _ hn))
          (hseen.listing htarget hsearch) (out ++ [t.map fields])
        refine hrest.trans ?_
        rw [Option.map_map]
        congr 1
        funext result
        obtain ⟨ts, last⟩ := result
        show Except.ok (_, out ++ [t.map fields] ++ _) = Except.ok (_, out ++ (t.map fields :: _))
        rw [List.append_assoc]
        rfl

/-- A node whose children are browsed with these exclusions. -/
theorem readNodeSnapshot_step (h : space.ReadBy texts client)
    (hfields : ∀ n ∈ space.ids, readFields texts client n = .ok (fields n))
    (hlevels : ∀ n ∈ space.ids, ∀ seen, Marked space start seen →
      readNodeSnapshot texts client levels n true true false
          (seen.map (nodeIdToQString texts)) =
        searched texts fields (DepthFirst.listing (space.children start exclude) levels n seen))
    (hn : n ∈ space.ids) (hseen : ∀ m ∈ seen, m ∈ space.ids)
    (hmarked : n ∉ seen → Marked space start (seen ++ [n])) {ex : Bool}
    (hex : n ∉ seen → isDirectoryNodeClass (space.nodeClass n) = true →
      space.children start exclude n = eligible ex (space.references n)) :
    readNodeSnapshot texts client (levels + 1) n true true ex
        (seen.map (nodeIdToQString texts)) =
      searched texts fields
        (DepthFirst.listing (space.children start exclude) (levels + 1) n seen) := by
  obtain ⟨htext, hdirectory⟩ := readFields_ok (h.nodeClass n hn) (hfields n hn)
  have hvisited : (seen.map (nodeIdToQString texts)).contains (fields n).nodeId = true ↔
      n ∈ seen := by
    rw [List.contains_iff_mem, htext, List.mem_map]
    constructor
    · rintro ⟨m, hm, heq⟩
      exact h.distinct m (hseen m hm) n hn heq ▸ hm
    · intro hmem
      exact ⟨n, hmem, rfl⟩
  rw [readNodeSnapshot, hfields n hn, DepthFirst.listing]
  dsimp only
  by_cases hmem : n ∈ seen
  · rw [hvisited.mpr hmem, if_pos hmem]
    simp [searched, RoseTree.map, RoseTree.mapAll]
  · rw [Bool.eq_false_iff.mpr (mt hvisited.mp hmem), if_neg hmem, hdirectory]
    have hmarks : seen.map (nodeIdToQString texts) ++ [(fields n).nodeId] =
        (seen ++ [n]).map (nodeIdToQString texts) := by
      rw [htext, List.map_append]
      rfl
    cases hclass : isDirectoryNodeClass (space.nodeClass n) with
    | false =>
      have hnone : space.children start exclude n = [] := by
        rw [AddressGraph.children, hclass]
        rfl
      rw [hnone]
      simp only [Bool.false_and, Bool.false_eq_true, if_false, hmarks]
      rfl
    | true =>
      have hchildren := hex hmem hclass
      have hloop := appendReferences_searched hlevels
        (fun m hm => AddressGraph.children_mem hn m (hchildren ▸ hm)) (hmarked hmem) []
      simp only [Bool.not_false, Bool.and_self, if_true, Bool.false_eq_true, if_false, hmarks]
      rw [browseChildren_pages (h.pages n hn hclass), hloop, hchildren]
      cases DepthFirst.listingAll (DepthFirst.listing (space.children start exclude) levels)
        (eligible ex (space.references n)) (seen ++ [n]) with
      | none => rfl
      | some result => rfl

/-- **A snapshot is a search** that lists marked neighbours. -/
theorem readNodeSnapshot_eq (h : space.ReadBy texts client)
    (hfields : ∀ n ∈ space.ids, readFields texts client n = .ok (fields n)) (hn : n ∈ space.ids)
    (hseen : Marked space start seen) :
    readNodeSnapshot texts client levels n true true false (seen.map (nodeIdToQString texts)) =
      searched texts fields
        (DepthFirst.listing (space.children start exclude) levels n seen) := by
  induction levels generalizing n seen with
  | zero => rfl
  | succ levels ih =>
    refine readNodeSnapshot_step h hfields (fun m hm mid hmid => ih hm hmid) hn hseen.2 ?_ ?_
    · intro _
      refine ⟨List.mem_append_left _ hseen.1, ?_⟩
      intro m hm
      obtain hm | hm := List.mem_append.mp hm
      · exact hseen.2 m hm
      · exact List.mem_singleton.mp hm ▸ hn
    · -- the start has been read before
      intro hmem hclass
      have hne : n ≠ start := fun heq => hmem (heq ▸ hseen.1)
      rw [AddressGraph.children, if_pos hclass, decide_eq_false hne, Bool.and_false]

end Search

/-! ## §5. Snapshots are complete -/

section Complete

variable {texts : Texts} {client : UaClient} {space : AddressGraph} {start : NodeId}
  {exclude : Bool}

/-- The tree of a search from the start, with what is read of the nodes. -/
theorem complete_of_search (h : space.ReadBy texts client) {fields : NodeId → SnapshotNode}
    (hfields : ∀ n ∈ space.ids, readFields texts client n = .ok (fields n))
    (hstart : start ∈ space.ids) {levels : Nat} {t : RoseTree NodeId} {seen : List NodeId}
    (hsearch : DepthFirst.listing (space.children start exclude) levels start [] =
      some (t, seen)) : space.Complete texts client start exclude (t.map fields) := by
  have htext : ∀ n ∈ space.ids, (SnapshotNode.nodeId ∘ fields) n = nodeIdToQString texts n :=
    fun n hn => (readFields_ok (h.nodeClass n hn) (hfields n hn)).1
  have hreached : ∀ n, DepthFirst.Reaches (space.children start exclude) start n →
      n ∈ space.ids := fun n hreach => reaches_mem hstart hreach
  have hspec := DepthFirst.listing_spec hsearch
  constructor
  · intro text
    rw [RoseTree.map_map, RoseTree.preorder_map, List.mem_map]
    constructor
    · rintro ⟨n, hn, rfl⟩
      have hreach := (hspec n).1.mp hn
      exact ⟨n, hreach, (htext n (hreached n hreach)).symm⟩
    · rintro ⟨n, hreach, rfl⟩
      exact ⟨n, (hspec n).1.mpr hreach, htext n (hreached n hreach)⟩
  · intro node hnode
    rw [RoseTree.preorder_map] at hnode
    obtain ⟨n, hn, rfl⟩ := List.mem_map.mp hnode
    have hreach := (hspec n).1.mp hn
    exact ⟨n, hreach, hfields n (hreached n hreach)⟩
  · intro n hreach
    have hn := hreached n hreach
    obtain ⟨m, hm⟩ := (hspec n).2 hreach
    refine ⟨m, ?_⟩
    rw [RoseTree.map_map, ← htext n hn, RoseTree.childLists_map, hm, List.map_cons,
      List.map_replicate, List.map_nil]
    · congr 1
      exact List.map_congr_left fun c hc => htext c (AddressGraph.children_mem hn c hc)
    · -- no other node has this text
      intro a ha heq
      have hmem := hreached a ((hspec a).1.mp ha)
      rw [htext a hmem, htext n hn] at heq
      exact h.distinct a hmem n hn heq

/-- **A snapshot ends, and is complete**, whatever the graph and its pages: so many levels as there
are nodes and one more are enough. -/
theorem snapshot_complete (h : space.ReadBy texts client) (hstart : start ∈ space.ids)
    (exclude : Bool) {levels : Nat} (hlevels : space.ids.card < levels) :
    ∃ tree visited,
      readNodeSnapshot texts client levels start true true exclude [] =
          some (.ok (tree, visited)) ∧
        space.Complete texts client start exclude tree := by
  have hnonempty : Nonempty SnapshotNode := ⟨(h.fields start hstart).choose⟩
  choose! fields hfields using h.fields
  cases levels with
  | zero => omega
  | succ levels =>
    -- the search goes through
    have hsome : (DepthFirst.listing (space.children start exclude) (levels + 1) start
        []).isSome = true :=
      DepthFirst.listing_isSome (fun n hn => AddressGraph.children_mem hn) hstart
        (by simpa using hlevels)
    obtain ⟨⟨t, seen⟩, hsearch⟩ := Option.isSome_iff_exists.mp hsome
    refine ⟨t.map fields, seen.map (nodeIdToQString texts), ?_,
      complete_of_search h hfields hstart hsearch⟩
    have hstep : readNodeSnapshot texts client (levels + 1) start true true exclude
        (([] : List NodeId).map (nodeIdToQString texts)) =
        searched texts fields
          (DepthFirst.listing (space.children start exclude) (levels + 1) start []) := by
      apply readNodeSnapshot_step h hfields
        (fun n hn mid hmid => readNodeSnapshot_eq h hfields hn hmid) hstart (by simp)
      · intro _
        simpa [Marked] using hstart
      · intro _ hclass
        rw [AddressGraph.children, if_pos hclass, decide_eq_true rfl, Bool.and_true]
    refine hstep.trans ?_
    rw [hsearch]
    rfl

end Complete

section Plant

/-- `UA_NODEID_NUMERIC(0, UA_NS0ID_OBJECTSFOLDER)`. -/
def objectsFolder : NodeId := ⟨0, .numeric 85⟩

def serverObject : NodeId := ⟨0, .numeric 2253⟩

def pumpFolder : NodeId := ⟨1, .numeric 1⟩

def speed : NodeId := ⟨1, .numeric 2⟩

/-- Texts with the node ids that have a number. -/
def numericTexts : Texts where
  fromMalformed _ := "\ufffd"
  isoDateWithMs _ := none
  isoDate _ := none
  toIsoDateWithMs _ := ""
  number q := toString q.num
  toDouble _ := none
  compact _ := "[]"
  undefinedCast _ := 0
  parseNodeId _ := .error "BadDecodingError"
  printNodeId nodeId :=
    match nodeId.identifier with
    | .numeric n =>
      let namespaceText :=
        if nodeId.namespaceIndex = 0 then ""
        else "ns=" ++ toString nodeId.namespaceIndex.toNat ++ ";"
      .ok (Utf8.encode (namespaceText ++ "i=" ++ toString n.toNat).toList)
    | _ => .error "BadNotImplemented"
  printExpandedNodeId _ := .error "BadNotImplemented"

/-- The objects folder refers to the server and to another folder. -/
def plantReferences (n : NodeId) : List ReferenceDescription :=
  if n = objectsFolder then [⟨⟨serverObject, [], 0⟩, .object⟩, ⟨⟨pumpFolder, [], 0⟩, .object⟩]
  -- up again, to itself and twice to the variable
  else if n = pumpFolder then
    [⟨⟨speed, [], 0⟩, .variable⟩, ⟨⟨objectsFolder, [], 0⟩, .object⟩,
      ⟨⟨pumpFolder, [], 0⟩, .object⟩, ⟨⟨speed, [], 0⟩, .variable⟩]
  else []

def plantClass (n : NodeId) : NodeClass := if n = speed then .variable else .object

/-- An address space with cycles. -/
def plant : AddressGraph where
  ids := {objectsFolder, serverObject, pumpFolder, speed}
  nodeClass := plantClass
  references := plantReferences
  closed := by decide

/-- Its server, with two references a page. -/
def plantClient : UaClient where
  readNodeClassAttribute n := .ok (plantClass n)
  readBrowseNameAttribute n := .ok (n.namespaceIndex, [])
  readDisplayNameAttribute _ := .ok []
  readDescriptionAttribute _ := .ok []
  readDataTypeAttribute _ := .ok ⟨0, .numeric 1⟩
  readValueRankAttribute _ := .ok (-1)
  readAccessLevelAttribute _ := .ok 1
  readValueAttribute _ := .ok (.scalar (.boolean true))
  browse n :=
    if n = pumpFolder then
      .more ⟨none, (plantReferences n).take 2⟩ (.last ⟨none, (plantReferences n).drop 2⟩)
    else .last ⟨none, plantReferences n⟩

theorem plantClient_reads : plant.ReadBy numericTexts plantClient := by
  constructor
  · intro n _
    rfl
  · intro n hn
    simp only [plant, Finset.mem_insert, Finset.mem_singleton] at hn
    obtain rfl | rfl | rfl | rfl := hn <;> exact ⟨_, rfl⟩
  · intro n _ _
    by_cases h : n = pumpFolder
    · subst h
      exact Pages.more _ (Pages.last _)
    · have hbrowse : plantClient.browse n = .last ⟨none, plantReferences n⟩ := if_neg h
      rw [hbrowse]
      exact Pages.last _
  · decide +kernel

theorem plant_snapshot :
    objectsFolder ∈ plant.ids ∧ plant.ids.card < 5 ∧ ∃ tree visited,
      readNodeSnapshot numericTexts plantClient 5 objectsFolder true true true [] =
          some (.ok (tree, visited)) ∧
        plant.Complete numericTexts plantClient objectsFolder true tree :=
  ⟨by decide, by decide,
    snapshot_complete plantClient_reads (by decide) true (by decide)⟩

end Plant

/-! ## §6. The commands -/

structure OpcUaConnectionOptions where
  host : String
  port : Int
  timeoutMs : Int

/-- `OpcUaHandler::resolveConnectionOptions`. -/
def resolveConnectionOptions (params : List (String × Json)) :
    Except String OpcUaConnectionOptions :=
  let host := trimmed (value params "host").toStr
  let port := toIntOr 4840 (value params "port")
  let timeoutMs := toIntOr 3000 (value params "timeout_ms")
  if host.isEmpty then .error "host is required"
  else if port < 1 ∨ 65535 < port then .error "port must be between 1 and 65535"
  else if timeoutMs < 1 ∨ 30000 < timeoutMs then .error "timeout_ms must be 1-30000"
  else .ok ⟨host, port, timeoutMs⟩

/-- `UaClientHandle::endpoint`. -/
def OpcUaConnectionOptions.endpoint (options : OpcUaConnectionOptions) : String :=
  "opc.tcp://" ++ options.host ++ ":" ++ toString options.port

/-- The members of a node. -/
def SnapshotNode.toMembers (node : SnapshotNode) (children : List Json) : List (String × Json) :=
  let members := [
    ("browse_name", .str node.browseName),
    ("children", .arr children),
    ("description", .str node.description),
    ("display_name", .str node.displayName),
    ("is_directory", .bool node.isDirectory),
    ("node_class", .str (nodeClassToQString node.nodeClass)),
    ("node_id", .str node.nodeId)]
  match node.variableFields with
  | none => members
  | some fields =>
    [("data_type_id", .str fields.dataTypeId), ("data_type_name", .str fields.dataTypeName),
      ("value_rank", .num fields.valueRank.toInt), ("access_level", .num fields.accessLevel.toNat),
      ("value", fields.value), ("value_text", .str fields.valueText)].foldl
        (fun members member => insert members member.1 member.2) members

mutual

/-- `outNode`. -/
def snapshotToJson : RoseTree SnapshotNode → Json
  | .node node children => .obj (node.toMembers (snapshotsToJson children))

def snapshotsToJson : List (RoseTree SnapshotNode) → List Json
  | [] => []
  | t :: ts => snapshotToJson t :: snapshotsToJson ts

end

/-- Where a command begins, whether it goes beyond the children, and whether it leaves out those of
namespace 0. -/
def resolveTarget (texts : Texts) (cmd : String) (params : List (String × Json)) :
    Except String (NodeId × Bool × Bool) :=
  if cmd = "inspect_node" then
    (parseNodeIdString texts (value params "node_id").toStr).map fun (nodeId, _) =>
      (nodeId, (value params "recurse").toBool, false)
  else .ok (objectsFolder, true, true)

def errorResponse (code : Int) (message : String) : Message :=
  ⟨.error, code, .obj [("message", .str message)]⟩

/-- `OpcUaHandler::handle`, at most so many levels deep. -/
def handle (texts : Texts) (connect : OpcUaConnectionOptions → Except String UaClient)
    (levels : Nat) (cmd : String) (data : Json) : Option Message :=
  if cmd = "status" then some ⟨.done, 0, .obj [("status", .str "ready")]⟩
  else if cmd ≠ "inspect_node" ∧ cmd ≠ "snapshot_nodes" then
    some (errorResponse 404 ("Unknown command: " ++ cmd))
  else
    match resolveConnectionOptions data.toObject with
    | .error errorMessage => some (errorResponse 3 errorMessage)
    | .ok options =>
      match resolveTarget texts cmd data.toObject with
      | .error errorMessage => some (errorResponse 3 errorMessage)
      | .ok (nodeId, recurseChildren, excludeNamespaceZeroChildren) =>
        match connect options with
        | .error errorMessage => some (errorResponse 1 errorMessage)
        | .ok client =>
          (readNodeSnapshot texts client levels nodeId true recurseChildren
            excludeNamespaceZeroChildren []).map fun
            | .error errorMessage => errorResponse 2 errorMessage
            | .ok (tree, _) =>
              ⟨.done, 0,
                .obj [("endpoint", .str options.endpoint), ("node", snapshotToJson tree)]⟩

/-- A request for a whole snapshot is answered with a complete one. -/
theorem handle_complete {texts : Texts} {client : UaClient} {space : AddressGraph}
    (h : space.ReadBy texts client) {start : NodeId} (hstart : start ∈ space.ids) {exclude : Bool}
    {levels : Nat} (hlevels : space.ids.card < levels)
    {connect : OpcUaConnectionOptions → Except String UaClient} {cmd : String} {data : Json}
    {options : OpcUaConnectionOptions} (hcmd : cmd = "inspect_node" ∨ cmd = "snapshot_nodes")
    (hoptions : resolveConnectionOptions data.toObject = .ok options)
    (htarget : resolveTarget texts cmd data.toObject = .ok (start, true, exclude))
    (hconnect : connect options = .ok client) :
    ∃ tree, space.Complete texts client start exclude tree ∧
      handle texts connect levels cmd data = some ⟨.done, 0,
        .obj [("endpoint", .str options.endpoint), ("node", snapshotToJson tree)]⟩ := by
  obtain ⟨tree, visited, hread, hcomplete⟩ := snapshot_complete h hstart exclude hlevels
  refine ⟨tree, hcomplete, ?_⟩
  have hstatus : cmd ≠ "status" := by
    obtain rfl | rfl := hcmd <;> decide
  have hknown : ¬(cmd ≠ "inspect_node" ∧ cmd ≠ "snapshot_nodes") := by
    obtain rfl | rfl := hcmd <;> decide
  rw [handle, if_neg hstatus, if_neg hknown, hoptions, htarget]
  simp only [hconnect, hread, Option.map_some]

/-- The plant above, from the objects folder. -/
theorem plant_answered :
    ∃ tree, plant.Complete numericTexts plantClient objectsFolder true tree ∧
      handle numericTexts (fun _ => .ok plantClient) 5 "snapshot_nodes"
          (.obj [("host", .str "plc")]) = some ⟨.done, 0,
        .obj [("endpoint", .str (OpcUaConnectionOptions.endpoint ⟨"plc", 4840, 3000⟩)),
          ("node", snapshotToJson tree)]⟩ :=
  handle_complete plantClient_reads (by decide) (by decide) (.inr rfl) rfl rfl rfl

end Stdiolink.OpcUa
