/-
  Stdiolink.OpcUa.UpsertOrder — upserts in any order, `opcua_server_runtime.cpp`.

  A list of node specs is upserted in passes, since a parent may come after its children.  An upsert
  sees its own node and entry, and the class of the parent, and none of these is changed by the
  upserts of other nodes; so the order is of no account.

  Main results:
    * `upserts_settled`      — what some of the specs have done is told by which they are;
    * `upserts_in_any_order` — the passes end; success, and the server after it, do not depend on
      the order of the list.
-/
import Stdiolink.OpcUa.Snapshot
import Stdiolink.OpcUa.UpsertSteps

namespace Stdiolink.OpcUa

open Stdiolink.Lib
open Stdiolink.Protocol

/-! ## §1. What an upsert depends on -/

/-- A node id reads back as it is printed. -/
def ReadsBack (texts : Texts) : Prop := ∀ input n text,
  parseNodeIdString texts input = .ok (n, text) → parseNodeIdString texts text = .ok (n, text)

/-- The class of a node that exists can be read. -/
def ClassesReadable (refuses : Refusals) : Prop := ∀ n a c, refuses (.readNodeClass n) a c = none

/-- The outcome of a program, if it succeeds. -/
def succeeded {σ : Type} : EStateM.Result String σ Unit → Option σ
  | .ok _ s => some s
  | .error _ _ => none

section Upsert

variable (texts : Texts) (refuses : Refusals)

/-- What becomes of a node and its entry, from what they are, if there is a node, and from the class
of the parent. -/
def upsertOwn (spec : NodeSpec) (n p : NodeId) (own : Option Attributes)
    (entry : Option NodeEntry) (parentClass : NodeClass) : Option Own :=
  match own with
  | some a =>
    if classMatches spec a.nodeClass then succeeded (updateOwn texts refuses spec n (a, entry))
    else none
  | none =>
    match createdAttributes texts spec with
    | .error _ => none
    | .ok attributes =>
      if (refuses (.addNode n p attributes) none (some parentClass)).isNone then
        succeeded (updateOwn texts refuses spec n (attributes, entry))
      else none

/-- The server with what becomes of a node. -/
def ServerState.upserted (s : ServerState) (spec : NodeSpec) (n p : NodeId) (parent : Node)
    (o : Own) : ServerState :=
  match s.space n with
  | some node => s.put n spec.nodeId node.references o
  | none => (s.withNode n p parent o.1).put n spec.nodeId ∅ o

variable {texts refuses} {spec : NodeSpec} {n p : NodeId}

theorem nodeExists_eq (hreadable : ClassesReadable refuses) {text : String} {m : NodeId}
    (hparse : parseNodeIdOwned texts text = .ok m) (space : AddressSpace) :
    nodeExists texts refuses text space = .ok (space.nodeClass m) := by
  have hnone : space.refusal refuses (.readNodeClass m) = none := hreadable ..
  rw [nodeExists, hparse]
  dsimp only [AddressSpace.read, Call.nodeId]
  rw [hnone, AddressSpace.nodeClass, AddressSpace.attributes]
  cases space m with
  | none => rfl
  | some node => rfl

/-- **An upsert, by the node, its entry, and the class of the parent.** -/
theorem upsertNode_own (hreadable : ClassesReadable refuses)
    (hn : parseNodeIdOwned texts spec.nodeId = .ok n)
    (hp : parseNodeIdOwned texts spec.parentNodeId = .ok p) {s : ServerState} {parent : Node}
    (hparent : s.space p = some parent) :
    match upsertOwn texts refuses spec n p (s.space.attributes n) (s.nodeEntries spec.nodeId)
      parent.attributes.nodeClass with
    | some o => upsertNode texts refuses spec s =
        .ok (s.space n).isNone (s.upserted spec n p parent o)
    | none => ∃ e s', upsertNode texts refuses spec s = .error e s' := by
  rw [upsertNode_eq, nodeExists_eq hreadable hn, AddressSpace.nodeClass, AddressSpace.attributes]
  simp only [ServerState.upserted]
  cases hnode : s.space n with
  | some node =>
    dsimp only [Option.map_some, upsertOwn]
    by_cases hclass : classMatches spec node.attributes.nodeClass = true
    · rw [if_pos hclass, if_pos hclass,
        updateNode_acts hn s node.attributes node.references hnode]
      cases updateOwn texts refuses spec n (node.attributes, s.nodeEntries spec.nodeId) with
      | ok u o => rfl
      | error e o => exact ⟨e, _, rfl⟩
    · rw [if_neg hclass, if_neg hclass]
      exact ⟨_, _, rfl⟩
  | none =>
    dsimp only [Option.map_none, upsertOwn]
    obtain ⟨action, hcreate⟩ : ∃ action, createNode texts refuses spec s = _ :=
      create_eq hn s
    rw [hcreate, hp]
    cases hattributes : createdAttributes texts spec with
    | error e => exact ⟨e, s, rfl⟩
    | ok attributes =>
      dsimp only
      have hadd := add_eq refuses action hnode hparent attributes
      cases hrefused : refuses (.addNode n p attributes) none
        (some parent.attributes.nodeClass) with
      | some status =>
        rw [hrefused] at hadd
        obtain ⟨e, he⟩ := hadd
        rw [he]
        exact ⟨e, s, rfl⟩
      | none =>
        rw [hrefused] at hadd
        rw [hadd]
        dsimp only [Option.isNone_none]
        rw [if_pos rfl, updateNode_acts hn _ attributes ∅ (Function.update_self ..),
          ServerState.withNode_nodeEntries]
        cases updateOwn texts refuses spec n (attributes, s.nodeEntries spec.nodeId) with
        | ok u o =>
          show EStateM.Result.ok true _ = EStateM.Result.ok true _
          rw [ServerState.withNode_put, ServerState.withNode_put]
        | error e o => exact ⟨e, _, rfl⟩

end Upsert

/-! ## §2. The server after an upsert -/

theorem isSome_attributes {space : AddressSpace} {m : NodeId} :
    (space.attributes m).isSome = (space m).isSome := Option.isSome_map

namespace ServerState

variable {s : ServerState} {spec : NodeSpec} {n p m : NodeId} {parent node : Node} {o : Own}

/-- The nodes after an upsert. -/
theorem upserted_space (m : NodeId) :
    (s.upserted spec n p parent o).space m =
      if m = n then some ⟨o.1, ((s.space n).map Node.references).getD ∅⟩
      else if m = p ∧ s.space n = none then
        some { parent with references := insert n parent.references }
      else s.space m := by
  unfold upserted
  cases hn : s.space n with
  | some node =>
    by_cases hmn : m = n
    · rw [if_pos hmn, hmn]
      exact put_space
    · simp only [reduceCtorEq, and_false, if_false, if_neg hmn]
      exact put_space_of_ne hmn
  | none =>
    dsimp only
    rw [withNode_put]
    by_cases hmn : m = n
    · rw [if_pos hmn, hmn]
      exact Function.update_self ..
    · rw [if_neg hmn]
      dsimp only
      rw [Function.update_of_ne hmn]
      by_cases hmp : m = p
      · rw [if_pos ⟨hmp, rfl⟩, hmp]
        exact Function.update_self ..
      · rw [if_neg fun h => hmp h.1, Function.update_of_ne hmp]

theorem upserted_nodeEntries :
    (s.upserted spec n p parent o).nodeEntries =
      Function.update s.nodeEntries spec.nodeId o.2 := by
  unfold upserted
  cases s.space n with
  | some node => rfl
  | none =>
    dsimp only
    rw [withNode_put]

/-- The node has other attributes, and no other one has. -/
theorem upserted_attributes (hparent : s.space p = some parent) (m : NodeId) :
    (s.upserted spec n p parent o).space.attributes m =
      if m = n then some o.1 else s.space.attributes m := by
  rw [AddressSpace.attributes, upserted_space]
  split_ifs with hmn hmp
  · rfl
  · rw [hmp.1, AddressSpace.attributes, hparent]
    rfl
  · rfl

/-- The parent refers to a new node. -/
theorem upserted_references (hparent : s.space p = some parent)
    (hm : (s.upserted spec n p parent o).space m = some node) (x : NodeId) :
    x ∈ node.references ↔ (∃ old, s.space m = some old ∧ x ∈ old.references) ∨
      (x = n ∧ p = m ∧ s.space n = none) := by
  rw [upserted_space] at hm
  split_ifs at hm with hmn hmp
  · obtain rfl := Option.some.inj hm
    subst hmn
    cases hold : s.space m with
    | none =>
      have hne : p ≠ m := fun heq => by rw [heq, hold] at hparent; cases hparent
      simp [hne]
    | some old => simp
  · obtain rfl := Option.some.inj hm
    obtain ⟨rfl, hnone⟩ := hmp
    simp [hparent, hnone, or_comm]
  · rw [hm]
    have hno : ¬(x = n ∧ p = m ∧ s.space n = none) := fun h => hmp ⟨h.2.1.symm, h.2.2⟩
    simp [hno]

/-- The references after an upsert. -/
theorem upserted_refers (hparent : s.space p = some parent) (m x : NodeId) :
    (s.upserted spec n p parent o).space.Refers m x ↔
      s.space.Refers m x ∨ (x = n ∧ p = m ∧ s.space n = none) := by
  constructor
  · rintro ⟨node, hm, hx⟩
    exact (upserted_references hparent hm x).mp hx
  · intro h
    have hm : ((s.upserted spec n p parent o).space m).isSome = true := by
      rw [← isSome_attributes, upserted_attributes hparent]
      split_ifs
      · rfl
      · rw [isSome_attributes]
        obtain ⟨old, hold, -⟩ | ⟨-, rfl, -⟩ := h
        · rw [hold]
          rfl
        · rw [hparent]
          rfl
    obtain ⟨node, hnode⟩ := Option.isSome_iff_exists.mp hm
    exact ⟨node, hnode, (upserted_references hparent hnode x).mpr h⟩

end ServerState

/-! ## §3. What some of the specs have done -/

section Order

variable (texts : Texts) (refuses : Refusals) (base : ServerState) (specs : List NodeSpec)

/-- The node of a text that can be read. -/
def nodeOf (text : String) : NodeId :=
  match parseNodeIdOwned texts text with
  | .ok n => n
  | .error _ => ⟨0, .numeric 0⟩

/-- Specs of different nodes, with texts that can be read. -/
structure Resolved : Prop where
  node : ∀ a ∈ specs, parseNodeIdOwned texts a.nodeId = .ok (nodeOf texts a.nodeId)
  parent : ∀ a ∈ specs, parseNodeIdOwned texts a.parentNodeId = .ok (nodeOf texts a.parentNodeId)
  distinct : ∀ a ∈ specs, ∀ b ∈ specs, nodeOf texts a.nodeId = nodeOf texts b.nodeId → a = b

/-- The class that a node is created with. -/
def createdClass (spec : NodeSpec) : NodeClass :=
  if spec.nodeClass = "folder" then .object else .variable

/-- The class of the parent, which may be created by another spec. -/
def parentClass (spec : NodeSpec) : NodeClass :=
  (base.space.nodeClass (nodeOf texts spec.parentNodeId)).getD
    (((specs.find? fun b => nodeOf texts b.nodeId = nodeOf texts spec.parentNodeId).map
      createdClass).getD .object)

/-- What becomes of the node of a spec, whenever its turn comes. -/
def outcome (spec : NodeSpec) : Option Own :=
  upsertOwn texts refuses spec (nodeOf texts spec.nodeId) (nodeOf texts spec.parentNodeId)
    (base.space.attributes (nodeOf texts spec.nodeId)) (base.nodeEntries spec.nodeId)
    (parentClass texts base specs spec)

/-- The server when just these specs are done. -/
structure After (done : Finset NodeSpec) (s : ServerState) : Prop where
  node : ∀ a ∈ done, ∃ o, outcome texts refuses base specs a = some o ∧
    s.space.attributes (nodeOf texts a.nodeId) = some o.1 ∧ s.nodeEntries a.nodeId = o.2
  attributes : ∀ m, (∀ a ∈ done, nodeOf texts a.nodeId ≠ m) →
    s.space.attributes m = base.space.attributes m
  entries : ∀ key, (∀ a ∈ done, a.nodeId ≠ key) → s.nodeEntries key = base.nodeEntries key
  parents : ∀ a ∈ done, (s.space (nodeOf texts a.parentNodeId)).isSome = true
  references : ∀ m node, s.space m = some node → ∀ x, x ∈ node.references ↔
    (∃ old, base.space m = some old ∧ x ∈ old.references) ∨
      ∃ b ∈ done, nodeOf texts b.nodeId = x ∧ nodeOf texts b.parentNodeId = m ∧
        base.space x = none

/-- The parent is there. -/
def Ready (done : Finset NodeSpec) (spec : NodeSpec) : Prop :=
  (base.space (nodeOf texts spec.parentNodeId)).isSome = true ∨
    ∃ b ∈ done, nodeOf texts b.nodeId = nodeOf texts spec.parentNodeId

variable {texts refuses base specs}

theorem After.start : After texts refuses base specs ∅ base := by
  refine ⟨by simp, fun _ _ => rfl, fun _ _ => rfl, by simp, ?_⟩
  intro m node hm x
  simp [hm]

variable {done : Finset NodeSpec} {s : ServerState} {a : NodeSpec}

/-- No node is lost. -/
theorem After.isSome (h : After texts refuses base specs done s) {m : NodeId}
    (hm : (base.space m).isSome = true) : (s.space m).isSome = true := by
  rw [← isSome_attributes]
  by_cases hdone : ∃ a ∈ done, nodeOf texts a.nodeId = m
  · obtain ⟨a, ha, rfl⟩ := hdone
    obtain ⟨o, -, hattributes, -⟩ := h.node a ha
    rw [hattributes]
    rfl
  · rw [h.attributes m fun a ha heq => hdone ⟨a, ha, heq⟩, isSome_attributes]
    exact hm

/-- **One state only**: which specs are done tells what the server is. -/
theorem After.unique {t : ServerState} (hs : After texts refuses base specs done s)
    (ht : After texts refuses base specs done t) :
    s = t := by
  have hattributes : ∀ m, s.space.attributes m = t.space.attributes m := by
    intro m
    by_cases hm : ∃ a ∈ done, nodeOf texts a.nodeId = m
    · obtain ⟨a, ha, rfl⟩ := hm
      obtain ⟨o, ho, hso, -⟩ := hs.node a ha
      obtain ⟨o', ho', hto, -⟩ := ht.node a ha
      rw [hso, hto, Option.some.inj (ho.symm.trans ho')]
    · have hother : ∀ a ∈ done, nodeOf texts a.nodeId ≠ m := fun a ha heq => hm ⟨a, ha, heq⟩
      rw [hs.attributes m hother, ht.attributes m hother]
  have hentries : s.nodeEntries = t.nodeEntries := by
    funext key
    by_cases hkey : ∃ a ∈ done, a.nodeId = key
    · obtain ⟨a, ha, rfl⟩ := hkey
      obtain ⟨o, ho, -, hso⟩ := hs.node a ha
      obtain ⟨o', ho', -, hto⟩ := ht.node a ha
      rw [hso, hto, Option.some.inj (ho.symm.trans ho')]
    · have hother : ∀ a ∈ done, a.nodeId ≠ key := fun a ha heq => hkey ⟨a, ha, heq⟩
      rw [hs.entries key hother, ht.entries key hother]
  have hspace : s.space = t.space := by
    funext m
    have hm := hattributes m
    rw [AddressSpace.attributes, AddressSpace.attributes] at hm
    cases hsm : s.space m with
    | none =>
      rw [hsm] at hm
      exact (Option.map_eq_none_iff.mp hm.symm).symm
    | some node =>
      rw [hsm] at hm
      obtain ⟨node', htm, heq⟩ := Option.map_eq_some_iff.mp hm.symm
      rw [htm]
      obtain ⟨attributes, references⟩ := node
      obtain ⟨attributes', references'⟩ := node'
      obtain rfl : attributes' = attributes := heq
      congr 2
      ext x
      exact (hs.references m _ hsm x).trans (ht.references m _ htm x).symm
  cases s
  cases t
  exact congrArg₂ ServerState.mk hspace hentries

theorem createdAttributes_class {spec : NodeSpec} {a : Attributes}
    (h : createdAttributes texts spec = .ok a) : a.nodeClass = createdClass spec := by
  rw [createdClass]
  obtain ⟨hfolder, rfl⟩ | ⟨hvariable, v, dataType, value, -, -, -, rfl⟩ := createdAttributes_cases h
  · rw [if_pos hfolder]
    rfl
  · rw [if_neg hvariable]
    rfl

/-- What becomes of a node has the class of the node, or the one that it is created with. -/
theorem upsertOwn_class {spec : NodeSpec} {n p : NodeId} {own : Option Attributes}
    {entry : Option NodeEntry} {c : NodeClass} {o : Own}
    (h : upsertOwn texts refuses spec n p own entry c = some o) :
    o.1.nodeClass = (own.map Attributes.nodeClass).getD (createdClass spec) := by
  have hkeeps : ∀ (a : Attributes), succeeded (updateOwn texts refuses spec n (a, entry)) = some o →
      o.1.nodeClass = a.nodeClass := by
    intro a hsome
    have hclass := @updateOwn_nodeClass texts refuses spec n (a, entry)
    cases hr : updateOwn texts refuses spec n (a, entry) with
    | error e o' =>
      rw [hr] at hsome
      cases hsome
    | ok u o' =>
      rw [hr] at hsome hclass
      cases hsome
      exact hclass
  cases own with
  | some a =>
    rw [upsertOwn] at h
    split_ifs at h
    exact hkeeps a h
  | none =>
    rw [upsertOwn] at h
    cases hattributes : createdAttributes texts spec with
    | error e =>
      rw [hattributes] at h
      cases h
    | ok attributes =>
      rw [hattributes] at h
      dsimp only at h
      split_ifs at h
      rw [hkeeps attributes h]
      exact createdAttributes_class hattributes

/-- The class of the parent, once it is there. -/
theorem After.parentClass (h : After texts refuses base specs done s)
    (hspecs : Resolved texts specs) (hdone : ∀ b ∈ done, b ∈ specs)
    (hready : Ready texts base done a) :
    ∃ parent, s.space (nodeOf texts a.parentNodeId) = some parent ∧
      parent.attributes.nodeClass = OpcUa.parentClass texts base specs a := by
  suffices hclass : s.space.nodeClass (nodeOf texts a.parentNodeId) =
      some (OpcUa.parentClass texts base specs a) by
    rw [AddressSpace.nodeClass, AddressSpace.attributes, Option.map_map,
      Option.map_eq_some_iff] at hclass
    exact hclass
  rw [AddressSpace.nodeClass, OpcUa.parentClass]
  by_cases hb : ∃ b ∈ done, nodeOf texts b.nodeId = nodeOf texts a.parentNodeId
  · -- the parent is one of those that are done
    obtain ⟨b, hb, heq⟩ := hb
    obtain ⟨o, ho, hattributes, -⟩ := h.node b hb
    have hfind : specs.find? (fun c => nodeOf texts c.nodeId = nodeOf texts a.parentNodeId) =
        some b := by
      have hmem := hdone b hb
      have hsome : (specs.find? fun c =>
          nodeOf texts c.nodeId = nodeOf texts a.parentNodeId).isSome = true :=
        List.find?_isSome.mpr ⟨b, hmem, by simpa using heq⟩
      obtain ⟨c, hc⟩ := Option.isSome_iff_exists.mp hsome
      have hsame : nodeOf texts c.nodeId = nodeOf texts a.parentNodeId := by
        simpa using List.find?_some hc
      rw [hc, hspecs.distinct c (List.mem_of_find?_eq_some hc) b hmem (hsame.trans heq.symm)]
    rw [← heq, hattributes, Option.map_some, upsertOwn_class ho, heq, hfind]
    rfl
  · rw [h.attributes _ fun b hbd heq => hb ⟨b, hbd, heq⟩]
    obtain hbase | hbase := hready
    · obtain ⟨node, hnode⟩ := Option.isSome_iff_exists.mp hbase
      rw [AddressSpace.nodeClass, AddressSpace.attributes, hnode]
      rfl
    · exact absurd hbase hb

/-- One more spec is done. -/
theorem After.insert {done : Finset NodeSpec} {s : ServerState} {a : NodeSpec}
    (h : After texts refuses base specs done s) (hspecs : Resolved texts specs)
    (hdone : ∀ b ∈ done, b ∈ specs) (ha : a ∈ specs) (hnew : a ∉ done) {parent : Node}
    (hparent : s.space (nodeOf texts a.parentNodeId) = some parent) {o : Own}
    (ho : outcome texts refuses base specs a = some o) :
    After texts refuses base specs (insert a done)
      (s.upserted a (nodeOf texts a.nodeId) (nodeOf texts a.parentNodeId) parent o) := by
  have hne : ∀ b ∈ done, nodeOf texts b.nodeId ≠ nodeOf texts a.nodeId := by
    intro b hb heq
    exact hnew (hspecs.distinct b (hdone b hb) a ha heq ▸ hb)
  have hkey : ∀ b ∈ done, b.nodeId ≠ a.nodeId := fun b hb heq => hne b hb (by rw [heq])
  have hbase : s.space (nodeOf texts a.nodeId) = none ↔
      base.space (nodeOf texts a.nodeId) = none := by
    have hattributes := h.attributes _ hne
    rw [AddressSpace.attributes, AddressSpace.attributes] at hattributes
    rw [← Option.map_eq_none_iff, hattributes, Option.map_eq_none_iff]
  have hexists : ∀ m, (s.space m).isSome = true → ((s.upserted a (nodeOf texts a.nodeId)
      (nodeOf texts a.parentNodeId) parent o).space m).isSome = true := by
    intro m hm
    rw [← isSome_attributes, ServerState.upserted_attributes hparent]
    split_ifs
    · rfl
    · rw [isSome_attributes]
      exact hm
  constructor
  · intro b hb
    rw [ServerState.upserted_attributes hparent, ServerState.upserted_nodeEntries]
    obtain rfl | hb := Finset.mem_insert.mp hb
    · exact ⟨o, ho, if_pos rfl, Function.update_self ..⟩
    · rw [if_neg (hne b hb), Function.update_of_ne (hkey b hb)]
      exact h.node b hb
  · intro m hm
    rw [ServerState.upserted_attributes hparent,
      if_neg (hm a (Finset.mem_insert_self a done)).symm]
    exact h.attributes m fun b hb => hm b (Finset.mem_insert_of_mem hb)
  · intro key hother
    rw [ServerState.upserted_nodeEntries,
      Function.update_of_ne (hother a (Finset.mem_insert_self a done)).symm]
    exact h.entries key fun b hb => hother b (Finset.mem_insert_of_mem hb)
  · intro b hb
    obtain rfl | hb := Finset.mem_insert.mp hb
    · exact hexists _ (by rw [hparent]; rfl)
    · exact hexists _ (h.parents b hb)
  · intro m node hm x
    rw [ServerState.upserted_references hparent hm]
    constructor
    · rintro (⟨old, hold, hx⟩ | ⟨rfl, rfl, hnone⟩)
      · obtain hx | ⟨b, hb, hx⟩ := (h.references m old hold x).mp hx
        · exact .inl hx
        · exact .inr ⟨b, Finset.mem_insert_of_mem hb, hx⟩
      · exact .inr ⟨a, Finset.mem_insert_self a done, rfl, rfl, hbase.mp hnone⟩
    · rintro (hx | ⟨b, hb, rfl, rfl, hnone⟩)
      · obtain ⟨old, hold, hmem⟩ := hx
        obtain ⟨now, hnow⟩ := Option.isSome_iff_exists.mp (h.isSome (by rw [hold]; rfl))
        exact .inl ⟨now, hnow, (h.references m now hnow x).mpr (.inl ⟨old, hold, hmem⟩)⟩
      · obtain rfl | hb := Finset.mem_insert.mp hb
        · exact .inr ⟨rfl, rfl, hbase.mpr hnone⟩
        · obtain ⟨now, hnow⟩ := Option.isSome_iff_exists.mp (h.parents b hb)
          exact .inl ⟨now, hnow, (h.references _ now hnow _).mpr (.inr ⟨b, hb, rfl, rfl, hnone⟩)⟩

/-- A spec in its turn, with its parent there. -/
theorem After.upsertInPass_ready {t : UpsertState} (h : After texts refuses base specs done t.state)
    (hreadable : ClassesReadable refuses) (hspecs : Resolved texts specs)
    (hdone : ∀ b ∈ done, b ∈ specs) (ha : a ∈ specs) (hnew : a ∉ done)
    (hready : Ready texts base done a) :
    match outcome texts refuses base specs a with
    | some _ => ∃ u, upsertInPass texts (fun _ => refuses) t a = .done u ∧
        After texts refuses base specs (Insert.insert a done) u.state
    | none => ∃ u e, upsertInPass texts (fun _ => refuses) t a = .failed u e := by
  obtain ⟨parent, hparent, hclass⟩ := h.parentClass hspecs hdone hready
  have hne : ∀ b ∈ done, nodeOf texts b.nodeId ≠ nodeOf texts a.nodeId := by
    intro b hb heq
    exact hnew (hspecs.distinct b (hdone b hb) a ha heq ▸ hb)
  have hkey : ∀ b ∈ done, b.nodeId ≠ a.nodeId := fun b hb heq => hne b hb (by rw [heq])
  -- it sees what it would have seen in the beginning
  have hown := upsertNode_own hreadable (hspecs.node a ha) (hspecs.parent a ha) hparent
  rw [h.attributes _ hne, h.entries _ hkey, hclass] at hown
  have hexists : nodeExists texts refuses a.parentNodeId t.state.space =
      .ok (some parent.attributes.nodeClass) := by
    rw [nodeExists_eq hreadable (hspecs.parent a ha), AddressSpace.nodeClass,
      AddressSpace.attributes, hparent]
    rfl
  rw [upsertInPass, hexists]
  cases ho : outcome texts refuses base specs a with
  | some o =>
    rw [outcome] at ho
    rw [ho] at hown
    dsimp only at hown ⊢
    rw [hown]
    exact ⟨_, rfl, h.insert hspecs hdone ha hnew hparent ho⟩
  | none =>
    rw [outcome] at ho
    rw [ho] at hown
    obtain ⟨e, s', he⟩ := hown
    dsimp only
    rw [he]
    exact ⟨_, e, rfl⟩

/-- A spec in its turn, with its parent missing. -/
theorem After.upsertInPass_waits {t : UpsertState} (h : After texts refuses base specs done t.state)
    (hreadable : ClassesReadable refuses) (hspecs : Resolved texts specs) (ha : a ∈ specs)
    (hready : ¬Ready texts base done a) :
    upsertInPass texts (fun _ => refuses) t a = .waits { t with moment := t.moment + 1 } := by
  have hnone : t.state.space.attributes (nodeOf texts a.parentNodeId) = none := by
    rw [h.attributes _ fun b hb heq => hready (.inr ⟨b, hb, heq⟩), AddressSpace.attributes,
      Option.map_eq_none_iff, ← Option.not_isSome_iff_eq_none]
    exact fun hbase => hready (.inl hbase)
  rw [upsertInPass, nodeExists_eq hreadable (hspecs.parent a ha), AddressSpace.nodeClass, hnone]
  rfl

/-- **Specs of different nodes do not get in each other's way.** -/
theorem upserts_settled (hreadable : ClassesReadable refuses) (hspecs : Resolved texts specs) :
    Passes.Settled (upsertInPass texts fun _ => refuses) specs.toFinset
      (fun done t => After texts refuses base specs done t.state) (Ready texts base)
      fun spec => (outcome texts refuses base specs spec).isSome = true := by
  have hmem : ∀ {done : Finset NodeSpec}, done ⊆ specs.toFinset → ∀ b ∈ done, b ∈ specs :=
    fun hdone b hb => List.mem_toFinset.mp (hdone hb)
  constructor
  case mono =>
    rintro done more a hsub - - (hbase | ⟨b, hb, heq⟩)
    · exact .inl hbase
    · exact .inr ⟨b, hsub hb, heq⟩
  case done =>
    intro done t a hat hdone ha hnew hready hgood
    have hpass := hat.upsertInPass_ready hreadable hspecs (hmem hdone) (List.mem_toFinset.mp ha)
      hnew hready
    obtain ⟨o, ho⟩ := Option.isSome_iff_exists.mp hgood
    rw [ho] at hpass
    exact hpass
  case failed =>
    intro done t a hat hdone ha hnew hready hbad
    have hpass := hat.upsertInPass_ready hreadable hspecs (hmem hdone) (List.mem_toFinset.mp ha)
      hnew hready
    rw [Option.not_isSome_iff_eq_none.mp hbad] at hpass
    exact hpass
  case waits =>
    intro done t a hat hdone ha hnew hready
    exact ⟨_, hat.upsertInPass_waits hreadable hspecs (List.mem_toFinset.mp ha) hready, hat⟩

end Order

/-! ## §4. Lists of specs -/

section Lists

variable {texts : Texts} {refuses : Refusals}

/-- The specs one after the other: the parent of each is there when its turn comes, and its upsert
succeeds. -/
inductive UpsertedInOrder (texts : Texts) (refuses : Refusals) :
    ServerState → List NodeSpec → ServerState → Prop
  | nil (s : ServerState) : UpsertedInOrder texts refuses s [] s
  | cons {s t u : ServerState} {spec : NodeSpec} {rest : List NodeSpec} {c : NodeClass}
      {created : Bool}
      (hparent : nodeExists texts refuses spec.parentNodeId s.space = .ok (some c))
      (hupsert : upsertNode texts refuses spec s = .ok created t)
      (hrest : UpsertedInOrder texts refuses t rest u) :
      UpsertedInOrder texts refuses s (spec :: rest) u

variable {spec : NodeSpec} {i : Nat} {nodes : List Json} {specs : List NodeSpec} {text : String}

/-- What an upsert in a pass does. -/
theorem upsertInPass_done {t u : UpsertState} :
    upsertInPass texts (fun _ => refuses) t spec = .done u →
      ∃ c created, nodeExists texts refuses spec.parentNodeId t.state.space = .ok (some c) ∧
        upsertNode texts refuses spec t.state = .ok created u.state := by
  intro h
  rw [upsertInPass] at h
  cases hexists : nodeExists texts refuses spec.parentNodeId t.state.space with
  | error e =>
    rw [hexists] at h
    cases h
  | ok existing =>
    cases existing with
    | none =>
      rw [hexists] at h
      cases h
    | some c =>
      rw [hexists] at h
      dsimp only at h
      cases hupsert : upsertNode texts refuses spec t.state with
      | error e s =>
        rw [hupsert] at h
        cases h
      | ok created s =>
        rw [hupsert] at h
        cases h
        exact ⟨c, created, rfl, rfl⟩

/-- Without passes. -/
theorem runs_iff_inOrder {t : UpsertState} {order : List NodeSpec} {s : ServerState} :
    (∃ u, Passes.Runs (upsertInPass texts fun _ => refuses) t order u ∧ u.state = s) ↔
      UpsertedInOrder texts refuses t.state order s := by
  constructor
  · rintro ⟨u, hruns, rfl⟩
    induction hruns with
    | nil t => exact .nil _
    | cons hone _ ih =>
      obtain ⟨c, created, hparent, hupsert⟩ := upsertInPass_done hone
      exact .cons hparent hupsert ih
  · intro hinorder
    induction order generalizing t with
    | nil =>
      cases hinorder
      exact ⟨t, .nil _, rfl⟩
    | cons spec rest ih =>
      cases hinorder with
      | @cons _ v _ _ _ c created hparent hupsert hrest =>
        obtain ⟨next, hone, rfl⟩ :
            ∃ next, upsertInPass texts (fun _ => refuses) t spec = .done next ∧ next.state = v := by
          rw [upsertInPass, hparent]
          dsimp only
          rw [hupsert]
          exact ⟨_, rfl, rfl⟩
        obtain ⟨u, hu, hstate⟩ := ih hrest
        exact ⟨u, .cons hone hu, hstate⟩

/-! ## §5. Lists of objects -/

/-- What the specs of a list are: those of its members. -/
theorem parseNodeSpecs_iff :
    parseNodeSpecs texts i nodes = .ok specs ↔
      List.Forall₂ (fun node spec => ∃ object, node = .obj object ∧
        parseNodeSpec texts object = .ok spec) nodes specs := by
  induction nodes generalizing i specs with
  | nil =>
    rw [List.forall₂_nil_left_iff, parseNodeSpecs, Except.ok.injEq, eq_comm]
  | cons node rest ih =>
    rw [List.forall₂_cons_left_iff]
    constructor
    · intro h
      cases node with
      | obj object =>
        rw [parseNodeSpecs] at h
        cases hone : parseNodeSpec texts object with
        | error e =>
          rw [hone] at h
          cases h
        | ok spec =>
          rw [hone] at h
          dsimp only at h
          cases hrest : parseNodeSpecs texts (i + 1) rest with
          | error e =>
            rw [hrest] at h
            cases h
          | ok more =>
            rw [hrest] at h
            cases h
            exact ⟨spec, more, ⟨object, rfl, hone⟩, ih.mp hrest, rfl⟩
      | _ => cases h
    · rintro ⟨spec, more, ⟨object, rfl, hone⟩, hrest, rfl⟩
      rw [parseNodeSpecs, hone]
      dsimp only
      rw [ih.mpr hrest]
      rfl

theorem mem_parsed
    (h : List.Forall₂ (fun node spec => ∃ object, node = .obj object ∧
      parseNodeSpec texts object = .ok spec) nodes specs) (hspec : spec ∈ specs) :
    ∃ object, parseNodeSpec texts object = .ok spec := by
  induction h with
  | nil => cases hspec
  | cons hone _ ih =>
    obtain rfl | hspec := List.mem_cons.mp hspec
    · obtain ⟨object, -, hobject⟩ := hone
      exact ⟨object, hobject⟩
    · exact ih hspec

theorem parseVariableSpec_ids {object : List (String × Json)} {spec' : NodeSpec}
    (h : parseVariableSpec object spec = .ok spec') :
    spec'.nodeId = spec.nodeId ∧ spec'.parentNodeId = spec.parentNodeId := by
  unfold parseVariableSpec at h
  dsimp only at h
  split_ifs at h
  rw [← Except.ok.inj h]
  exact ⟨rfl, rfl⟩

/-- The texts of a spec are printed node ids. -/
theorem parseNodeSpec_ids {object : List (String × Json)}
    (h : parseNodeSpec texts object = .ok spec) :
    ∃ input n input' p, parseNodeIdString texts input = .ok (n, spec.nodeId) ∧
      parseNodeIdString texts input' = .ok (p, spec.parentNodeId) := by
  rw [parseNodeSpec] at h
  cases hn : parseNodeIdString texts (Json.value object "node_id").toStr with
  | error e =>
    rw [hn] at h
    cases h
  | ok node =>
    rw [hn] at h
    cases hp : parseNodeIdString texts (Json.value object "parent_node_id").toStr with
    | error e =>
      rw [hp] at h
      cases h
    | ok parent =>
      rw [hp] at h
      dsimp only at h
      have hids : spec.nodeId = node.2 ∧ spec.parentNodeId = parent.2 := by
        split_ifs at h
        · exact parseVariableSpec_ids h
        · exact parseVariableSpec_ids h
        · rw [← Except.ok.inj h]
          exact ⟨rfl, rfl⟩
        · rw [← Except.ok.inj h]
          exact ⟨rfl, rfl⟩
      refine ⟨_, node.1, _, parent.1, hn.trans ?_, hp.trans ?_⟩
      · rw [hids.1]
      · rw [hids.2]

/-- A printed node id is the text of the node. -/
theorem parseNodeIdString_text {input : String} {n : NodeId}
    (h : parseNodeIdString texts input = .ok (n, text)) : text = nodeIdToQString texts n := by
  rw [parseNodeIdString] at h
  split_ifs at h
  cases hparse : texts.parseNodeId (Utf8.encode (trimmed input).toList) with
  | error e =>
    rw [hparse] at h
    cases h
  | ok m =>
    rw [hparse] at h
    cases h
    rfl

/-- The text is what a node id is printed as, and reads back. -/
def Canonical (texts : Texts) (text : String) : Prop :=
  ∃ n, parseNodeIdString texts text = .ok (n, text)

theorem Canonical.owned (h : Canonical texts text) :
    parseNodeIdOwned texts text = .ok (nodeOf texts text) := by
  obtain ⟨n, hn⟩ := h
  rw [nodeOf, parseNodeIdOwned, hn]
  rfl

theorem Canonical.text_eq (h : Canonical texts text) :
    text = nodeIdToQString texts (nodeOf texts text) := by
  have howned := h.owned
  obtain ⟨n, hn⟩ := h
  rw [parseNodeIdOwned, hn] at howned
  rw [← Except.ok.inj howned]
  exact parseNodeIdString_text hn

theorem Canonical.inj {text' : String} (h : Canonical texts text) (h' : Canonical texts text')
    (heq : nodeOf texts text = nodeOf texts text') :
    text = text' := by
  rw [h.text_eq, h'.text_eq, heq]

theorem parseNodeSpecs_canonical (htexts : ReadsBack texts)
    (hparse : parseNodeSpecs texts i nodes = .ok specs) :
    ∀ a ∈ specs, Canonical texts a.nodeId ∧ Canonical texts a.parentNodeId := by
  intro a ha
  obtain ⟨object, hspec⟩ := mem_parsed (parseNodeSpecs_iff.mp hparse) ha
  obtain ⟨input, n, input', p, hn, hp⟩ := parseNodeSpec_ids hspec
  exact ⟨⟨n, htexts _ _ _ hn⟩, ⟨p, htexts _ _ _ hp⟩⟩

/-- Specs with different node ids are those of different nodes. -/
theorem resolved_of_nodup (htexts : ReadsBack texts)
    (hparse : parseNodeSpecs texts i nodes = .ok specs) (hnodup : (specs.map NodeSpec.nodeId).Nodup) :
    Resolved texts specs := by
  have hids := parseNodeSpecs_canonical htexts hparse
  constructor
  · intro a ha
    exact (hids a ha).1.owned
  · intro a ha
    exact (hids a ha).2.owned
  · intro a ha b hb heq
    exact List.inj_on_of_nodup_map hnodup ha hb ((hids a ha).1.inj (hids b hb).1 heq)

/-- **One list**, of these specs in some order: the passes end, they succeed if and only if the specs
can be put in an order in which none waits, and then the server is the one on which just these specs
are done, as it is after such an order. -/
theorem upsertNodes_spec (hreadable : ClassesReadable refuses) (server : UaServer)
    {parsed : List NodeSpec} (hparse : parseNodeSpecs texts 0 nodes = .ok parsed)
    (hperm : parsed.Perm specs) (hspecs : Resolved texts specs) (hnodup : specs.Nodup)
    (s : ServerState) {rounds : Nat} (hrounds : nodes.length < rounds) :
    ∃ r, upsertNodes texts server (fun _ => refuses) rounds nodes s = some r ∧
      ((∃ results t, r = .ok results t) ↔
        ∃ order u, order.Perm specs ∧ UpsertedInOrder texts refuses s order u) ∧
      (∀ results t, r = .ok results t → After texts refuses s specs specs.toFinset t) ∧
      ∀ order u, order.Perm specs → UpsertedInOrder texts refuses s order u →
        After texts refuses s specs specs.toFinset u := by
  have hlength : parsed.length = nodes.length := (parseNodeSpecs_iff.mp hparse).length_eq.symm
  have hsettled : Passes.Settled (upsertInPass texts fun _ => refuses) specs.toFinset
      (fun done t => After texts refuses s specs done t.state) (Ready texts s) _ :=
    upserts_settled hreadable hspecs
  obtain ⟨n, o, hends, hn⟩ : ∃ n o, Ends (Passes.round (upsertInPass texts fun _ => refuses)
      (unresolvedMessage texts)) ({ state := s }, parsed) n o ∧ n ≤ parsed.length + 1 :=
    Passes.passes_end _ _
  have hrun := runFor_iff.mpr ⟨hends, show n ≤ rounds by omega⟩
  obtain ⟨hiff, hafter⟩ := hsettled.ends_ok_iff .start (hperm.symm.nodup hnodup)
    (List.toFinset_eq_of_perm _ _ hperm) hends
  have horder : (∃ t, o = .ok t) ↔
      ∃ order u, order.Perm specs ∧ UpsertedInOrder texts refuses s order u := by
    rw [hiff]
    constructor
    · rintro ⟨order, t, hparsed, hruns⟩
      exact ⟨order, t.state, hparsed.trans hperm, runs_iff_inOrder.mp ⟨t, hruns, rfl⟩⟩
    · rintro ⟨order, u, hspecs, hinorder⟩
      obtain ⟨t, ht, -⟩ := (runs_iff_inOrder (t := { state := s })).mpr hinorder
      exact ⟨order, t, hspecs.trans hperm.symm, ht⟩
  have hdone : ∀ order u, order.Perm specs → UpsertedInOrder texts refuses s order u →
      After texts refuses s specs specs.toFinset u := by
    intro order u hspecs' hinorder
    obtain ⟨t, ht, rfl⟩ := (runs_iff_inOrder (t := { state := s })).mpr hinorder
    have hleft : Passes.Left specs.toFinset ∅ order :=
      ⟨hspecs'.symm.nodup hnodup, fun a ha => List.mem_toFinset.mpr (hspecs'.mem_iff.mp ha), by simp⟩
    have hat := (hsettled.of_runs ht .start (Finset.empty_subset _) hleft).2
    rwa [Finset.empty_union, List.toFinset_eq_of_perm _ _ hspecs'] at hat
  rw [upsertNodes, hparse, ← horder]
  dsimp only
  rw [hrun]
  cases o with
  | ok t =>
    refine ⟨_, rfl, ⟨fun _ => ⟨t, rfl⟩, fun _ => ⟨_, _, rfl⟩⟩, ?_, hdone⟩
    intro results u hu
    cases hu
    exact hafter t rfl
  | error r => exact ⟨_, rfl, ⟨nofun, nofun⟩, nofun, hdone⟩

/-- **Upserts in any order**: on any server and for any list of specs with distinct node ids the
passes end, success does not depend on the order of the list, nor does the server after it, and
there is success if and only if the specs can be upserted one by one in some order; then they are
as after any such order. -/
theorem upserts_in_any_order (htexts : ReadsBack texts) (hreadable : ClassesReadable refuses)
    (server : UaServer) {nodes nodes' : List Json} (hperm : nodes.Perm nodes')
    (hdistinct : ∀ specs, parseNodeSpecs texts 0 nodes = .ok specs →
      (specs.map NodeSpec.nodeId).Nodup)
    (s : ServerState) {rounds : Nat} (hrounds : nodes.length < rounds) :
    ∃ r r', upsertNodes texts server (fun _ => refuses) rounds nodes s = some r ∧
      upsertNodes texts server (fun _ => refuses) rounds nodes' s = some r' ∧
      ((∃ results t, r = .ok results t) ↔ ∃ results t, r' = .ok results t) ∧
      (∀ results results' t t', r = .ok results t → r' = .ok results' t' → t.space = t'.space) ∧
      ((∃ results t, r = .ok results t) ↔ ∃ specs, parseNodeSpecs texts 0 nodes = .ok specs ∧
        ∃ order u, order.Perm specs ∧ UpsertedInOrder texts refuses s order u) ∧
      ∀ results t specs order u, r = .ok results t → parseNodeSpecs texts 0 nodes = .ok specs →
        order.Perm specs → UpsertedInOrder texts refuses s order u → t.space = u.space := by
  cases hparse : parseNodeSpecs texts 0 nodes with
  | error e =>
    -- then neither list is parsed
    cases hparse' : parseNodeSpecs texts 0 nodes' with
    | error e' =>
      refine ⟨.error e s, .error e' s, ?_, ?_, by simp, nofun, by simp, ?_⟩
      · rw [upsertNodes, hparse]
      · rw [upsertNodes, hparse']
      · intro results t specs order u ht
        cases ht
    | ok specs' =>
      obtain ⟨specs, hspecs, -⟩ := List.perm_comp_forall₂ hperm (parseNodeSpecs_iff.mp hparse')
      have hok := (parseNodeSpecs_iff (i := 0)).mpr hspecs
      rw [hparse] at hok
      cases hok
  | ok specs =>
    have hspecs := resolved_of_nodup htexts hparse (hdistinct specs hparse)
    have hnodup : specs.Nodup := (hdistinct specs hparse).of_map
    obtain ⟨specs', hspecs', hperm'⟩ :=
      List.perm_comp_forall₂ hperm.symm (parseNodeSpecs_iff.mp hparse)
    obtain ⟨r, hr, hiff, hafter, hdone⟩ :=
      upsertNodes_spec hreadable server hparse (.refl specs) hspecs hnodup s hrounds
    obtain ⟨r', hr', hiff', hafter', -⟩ :=
      upsertNodes_spec hreadable server (parseNodeSpecs_iff.mpr hspecs') hperm' hspecs hnodup s
        (hperm.length_eq ▸ hrounds)
    refine ⟨r, r', hr, hr', hiff.trans hiff'.symm, ?_, ?_, ?_⟩
    · intro results results' t t' ht ht'
      rw [(hafter results t ht).unique (hafter' results' t' ht')]
    · rw [hiff]
      constructor
      · intro h
        exact ⟨specs, rfl, h⟩
      · rintro ⟨more, hmore, h⟩
        cases hmore
        exact h
    · intro results t more order u ht hmore horder hinorder
      cases hmore
      rw [(hafter results t ht).unique (hdone order u horder hinorder)]

section Plant

/-- Texts in which some node ids can be read. -/
def plantTexts : Texts :=
  { numericTexts with
    parseNodeId := fun bytes =>
      match [objectsFolder, pumpFolder, speed].find? fun n =>
        numericTexts.printNodeId n = .ok bytes with
      | some n => .ok n
      | none => .error "BadDecodingError" }

theorem plantTexts_readsBack : ReadsBack plantTexts := by
  intro input n text h
  have hknown : n ∈ [objectsFolder, pumpFolder, speed] := by
    rw [parseNodeIdString] at h
    split_ifs at h
    dsimp only [plantTexts] at h
    cases hfind : [objectsFolder, pumpFolder, speed].find? fun n =>
      numericTexts.printNodeId n = .ok (Utf8.encode (trimmed input).toList) with
    | none =>
      rw [hfind] at h
      cases h
    | some m =>
      rw [hfind] at h
      cases h
      exact List.mem_of_find?_eq_some hfind
  rw [parseNodeIdString_text h]
  have hall : ∀ m ∈ [objectsFolder, pumpFolder, speed],
      parseNodeIdString plantTexts (nodeIdToQString plantTexts m) =
        .ok (m, nodeIdToQString plantTexts m) := by
    decide +kernel
  exact hall n hknown

/-- A folder for the pump. -/
def pumpSpec : Json := .obj [
  ("browse_name", .str "Pump"), ("node_class", .str "folder"), ("node_id", .str "ns=1;i=1"),
  ("parent_node_id", .str "i=85")]

/-- A variable in it. -/
def speedSpec : Json := .obj [
  ("access", .str "read_write"), ("browse_name", .str "Running"), ("data_type", .str "bool"),
  ("initial_value", .bool true), ("node_class", .str "variable"), ("node_id", .str " ns=1;i=2"),
  ("parent_node_id", .str "ns=1;i=1")]

/-- A server that has been started. -/
def startedServer : ServerState where
  space n :=
    if n = objectsFolder then some ⟨⟨.object, (0, uaText "Objects"), uaText "Objects", [], none,
      ⟨0, .numeric 0⟩, -1, 0, .empty, false⟩, ∅⟩
    else none
  nodeEntries _ := none

/-- open62541, where nothing is deleted with a node. -/
def plantServer : UaServer where
  removed _ n m := m = n
  browsed _ := []
  typeNames _ := none

theorem plant_parsed : ∃ specs, parseNodeSpecs plantTexts 0 [speedSpec, pumpSpec] = .ok specs ∧
    (specs.map NodeSpec.nodeId).Nodup := by
  refine ⟨[⟨"ns=1;i=2", "ns=1;i=1", "variable", "Running", "Running", "", "bool", "read_write",
    some (.bool true)⟩, ⟨"ns=1;i=1", "i=85", "folder", "Pump", "Pump", "", "", "", none⟩], ?_, ?_⟩
  · decide +kernel
  · decide

/-- How an upsert ends, apart from the state. -/
def ending {α : Type} (r : Option (EStateM.Result String ServerState α)) : Option (Option String) :=
  r.map fun
    | .ok _ _ => none
    | .error e _ => some e

theorem ok_of_ending {α : Type} {r : Option (EStateM.Result String ServerState α)}
    (h : ending r = some none) : ∃ a s, r = some (.ok a s) := by
  cases r with
  | none => cases h
  | some r =>
    cases r with
    | ok a s => exact ⟨a, s, rfl⟩
    | error e s => cases h

/-- Both orders succeed, and leave the same. -/
theorem plant_in_any_order : ∃ results t results' t',
    upsertNodes plantTexts plantServer (fun _ _ _ _ => none) 3 [speedSpec, pumpSpec]
        startedServer = some (.ok results t) ∧
      upsertNodes plantTexts plantServer (fun _ _ _ _ => none) 3 [pumpSpec, speedSpec]
        startedServer = some (.ok results' t') ∧ t.space = t'.space := by
  obtain ⟨results, t, ht⟩ := ok_of_ending
    (r := upsertNodes plantTexts plantServer (fun _ _ _ _ => none) 3 [speedSpec, pumpSpec]
      startedServer) (by decide +kernel)
  have hdistinct : ∀ specs, parseNodeSpecs plantTexts 0 [speedSpec, pumpSpec] = .ok specs →
      (specs.map NodeSpec.nodeId).Nodup := by
    intro specs hspecs
    obtain ⟨specs', hparse, hnodup⟩ := plant_parsed
    rw [hparse] at hspecs
    cases hspecs
    exact hnodup
  obtain ⟨r, r', hr, hr', hiff, hsame, -, -⟩ := @upserts_in_any_order plantTexts
    (fun _ _ _ => none) plantTexts_readsBack (fun _ _ _ => rfl) plantServer _ _
    (List.Perm.swap pumpSpec speedSpec []) hdistinct startedServer 3 (by decide)
  rw [ht] at hr
  cases hr
  obtain ⟨results', t', rfl⟩ := hiff.mp ⟨results, t, rfl⟩
  exact ⟨results, t, results', t', ht, hr', hsame results results' t t' rfl rfl⟩

end Plant

end Lists

end Stdiolink.OpcUa
