/-
  Stdiolink.OpcUa.UpsertSteps — what an upsert of one node can do.

  Once its node exists, an upsert sees and changes nothing but the attributes of the node and the
  entry under its text.  What it does to these is a program of its own; all that is proved about
  upserts is proved about that one.

  Main results:
    * `updateNode_acts`  — an upsert of a node that exists acts on the node and its entry only;
    * `upsertNode_cases` — the ways in which an upsert ends.
-/
import Mathlib.Logic.Function.Basic
import Stdiolink.OpcUa.ServerRuntime

namespace Stdiolink.OpcUa

open Stdiolink.Lib
open Stdiolink.Protocol

/-! ## §1. Programs on a node and its entry -/

/-- The attributes of a node, and its entry. -/
abbrev Own := Attributes × Option NodeEntry

namespace ServerState

/-- The server with other attributes and another entry. -/
def put (s : ServerState) (n : NodeId) (key : String) (references : Finset NodeId) (o : Own) :
    ServerState where
  space := Function.update s.space n (some ⟨o.1, references⟩)
  nodeEntries := Function.update s.nodeEntries key o.2

variable {s : ServerState} {n : NodeId} {key : String} {references : Finset NodeId} {o : Own}

@[simp]
theorem put_space : (s.put n key references o).space n = some ⟨o.1, references⟩ :=
  Function.update_self ..

theorem put_space_of_ne {m : NodeId} (h : m ≠ n) :
    (s.put n key references o).space m = s.space m :=
  Function.update_of_ne h ..

@[simp]
theorem put_nodeEntries : (s.put n key references o).nodeEntries key = o.2 :=
  Function.update_self ..

@[simp]
theorem put_put (o' : Own) :
    (s.put n key references o).put n key references o' = s.put n key references o' := by
  simp [put]

/-- Nothing is changed. -/
theorem put_self {a : Attributes} (h : s.space n = some ⟨a, references⟩) :
    s.put n key references (a, s.nodeEntries key) = s := by
  unfold put
  rw [← h, Function.update_eq_self, Function.update_eq_self]

end ServerState

theorem bind_apply {ε σ α β : Type} (x : EStateM ε σ α) (f : α → EStateM ε σ β) (s : σ) :
    (x >>= f) s =
      match x s with
      | .ok a s' => f a s'
      | .error e s' => .error e s' := rfl

/-- The outcome of a program on a node, for the server. -/
def lift {α : Type} (s : ServerState) (n : NodeId) (key : String) (references : Finset NodeId) :
    EStateM.Result String Own α → EStateM.Result String ServerState α
  | .ok a o => .ok a (s.put n key references o)
  | .error e o => .error e (s.put n key references o)

/-- The command `x` sees and changes no more than `y`. -/
def ActsAs {α : Type} (n : NodeId) (key : String) (x : Runtime α) (y : EStateM String Own α) :
    Prop :=
  ∀ s a references, s.space n = some ⟨a, references⟩ →
    x s = lift s n key references (y (a, s.nodeEntries key))

section Rules

variable {n : NodeId} {key : String}

variable {α : Type}

theorem ActsAs.bind {β : Type} {x : Runtime α} {y : EStateM String Own α} {f : α → Runtime β}
    {g : α → EStateM String Own β} (hx : ActsAs n key x y) (hf : ∀ a, ActsAs n key (f a) (g a)) :
    ActsAs n key (x >>= f) (y >>= g) := by
  intro s a references hs
  rw [bind_apply, bind_apply, hx s a references hs]
  cases y (a, s.nodeEntries key) with
  | error e o => rfl
  | ok r o =>
    show f r (s.put n key references o) = _
    rw [hf r _ o.1 references ServerState.put_space, ServerState.put_nodeEntries]
    show lift (s.put n key references o) n key references (g r o) = lift s n key references (g r o)
    cases g r o <;> simp [lift]

theorem ActsAs.given (r : Except String α) : ActsAs n key (OpcUa.given r) (OpcUa.given r) := by
  intro s a references hs
  cases r <;> simp [OpcUa.given, lift, ServerState.put_self hs]

theorem ActsAs.pure (a : α) : ActsAs n key (Pure.pure a) (Pure.pure a) := by
  intro s b references hs
  show EStateM.Result.ok a s = EStateM.Result.ok a _
  rw [ServerState.put_self hs]

theorem ActsAs.throw {α : Type} (e : String) :
    ActsAs (α := α) n key (throw e) (throw e) := by
  intro s b references hs
  show EStateM.Result.error e s = EStateM.Result.error e _
  rw [ServerState.put_self hs]

theorem ActsAs.ite {p : Prop} [Decidable p] {x x' : Runtime α} {y y' : EStateM String Own α}
    (hx : ActsAs n key x y) (hx' : ActsAs n key x' y') :
    ActsAs n key (if p then x else x') (if p then y else y') := by
  split_ifs
  · exact hx
  · exact hx'

end Rules

/-! ## §2. An upsert as such a program -/

section Programs

variable (texts : Texts) (refuses : Refusals)

/-- What a call answers that is about the node. -/
def askOwn {α : Type} (action : String) (call : Call) (f : Attributes → α) :
    EStateM String Own α := fun o =>
  match refuses call (some o.1) none with
  | some status => .error (formatStatusMessage action status) o
  | none => .ok (f o.1) o

/-- What a call does that is about the node. -/
def performOwn (action : String) (call : Call) (f : Attributes → Attributes) :
    EStateM String Own Unit := fun o =>
  match refuses call (some o.1) none with
  | some status => .error (formatStatusMessage action status) o
  | none => .ok () (f o.1, o.2)

/-- `writeInitialValue` on the node. -/
def writeOwnInitialValue (spec : NodeSpec) (n : NodeId) : EStateM String Own Unit :=
  match spec.initialValue with
  | none => return
  | some initialValue => do
    let value ← given (jsonToVariant texts spec.dataType initialValue true)
    performOwn refuses "UA_Server_writeDataValue failed" (.writeDataValue n value)
      fun a => { a with value := value }

/-- `updateExistingVariable` on the node. -/
def updateOwnVariable (spec : NodeSpec) (n : NodeId) : EStateM String Own Unit := do
  let expectedDataType ← given (resolveBuiltinDataType spec.dataType)
  let actualDataType ←
    askOwn refuses "Read DataType failed" (.readDataType n) Attributes.dataType
  if actualDataType ≠ expectedDataType.typeId then
    throw ("existing variable data_type mismatch for " ++ spec.nodeId)
  else
    performOwn refuses "Write AccessLevel failed"
      (.writeAccessLevel n (accessLevelForMode spec.access))
      fun a => { a with accessLevel := accessLevelForMode spec.access }
    writeOwnInitialValue texts refuses spec n

/-- `updateNode` on the node. -/
def updateOwn (spec : NodeSpec) (n : NodeId) : EStateM String Own Unit := do
  performOwn refuses "Write DisplayName failed" (.writeDisplayName n (uaText spec.displayName))
    fun a => { a with displayName := uaText spec.displayName }
  performOwn refuses "Write Description failed" (.writeDescription n (uaText spec.description))
    fun a => { a with description := uaText spec.description }
  ifVariable spec (updateOwnVariable texts refuses spec n)
  modify fun o => (o.1, some (spec.entry o.2))
  performOwn refuses "UA_Server_setNodeContext failed" (.setNodeContext n spec.nodeId)
    fun a => { a with context := some spec.nodeId }
  ifVariable spec (performOwn refuses "UA_Server_setVariableNode_valueCallback failed"
    (.setValueCallback n) fun a => { a with onWrite := true })

end Programs

section Acts

variable {texts : Texts} {refuses : Refusals} {n : NodeId} {key : String}

variable {call : Call}

/-- A call that is about a node that exists. -/
theorem refusal_of_exists {s : ServerState} {a : Attributes} {references : Finset NodeId}
    (hs : s.space n = some ⟨a, references⟩) (hcall : call.nodeId = n)
    (hparent : call.parentNodeId = none) :
    s.space.refusal refuses call = refuses call (some a) none := by
  rw [AddressSpace.refusal, AddressSpace.attributes, hcall, hs, hparent]
  rfl

theorem ActsAs.ask {α : Type} (action : String) (f : Attributes → α) (hcall : call.nodeId = n)
    (hparent : call.parentNodeId = none) :
    ActsAs n key (OpcUa.ask action fun space => space.read refuses call f)
      (askOwn refuses action call f) := by
  intro s a references hs
  rw [OpcUa.ask, query, AddressSpace.read, refusal_of_exists hs hcall hparent, hcall, hs, askOwn]
  cases refuses call (some a) none <;>
    simp [OpcUa.given, Except.mapError, lift, ServerState.put_self hs]

theorem ActsAs.perform (action : String) (f : Attributes → Attributes) (hcall : call.nodeId = n)
    (hparent : call.parentNodeId = none) :
    ActsAs n key (OpcUa.perform action fun space => space.write refuses call f)
      (performOwn refuses action call f) := by
  intro s a references hs
  rw [OpcUa.perform, AddressSpace.write, refusal_of_exists hs hcall hparent, hcall, hs, performOwn]
  cases refuses call (some a) none with
  | some status => simp [lift, ServerState.put_self hs]
  | none => simp [lift, ServerState.put, Function.update_eq_self]

theorem ActsAs.ensureEntry (spec : NodeSpec) :
    ActsAs n spec.nodeId (OpcUa.ensureEntry spec)
      (modify fun o => (o.1, some (spec.entry o.2))) := by
  intro s a references hs
  show EStateM.Result.ok () _ = EStateM.Result.ok () _
  rw [ServerState.put, ← hs, Function.update_eq_self]

theorem given_ok {σ α β : Type} {r : Except String α} {a : α} (h : r = .ok a)
    (f : α → EStateM String σ β) : (given r >>= f) = f a := by
  subst h
  rfl

/-- **An upsert of a node that exists acts on the node and its entry.** -/
theorem updateNode_acts {spec : NodeSpec} (hparse : parseNodeIdOwned texts spec.nodeId = .ok n) :
    ActsAs n spec.nodeId (updateNode texts refuses spec) (updateOwn texts refuses spec n) := by
  have hvariable : ActsAs n spec.nodeId (updateExistingVariable texts refuses spec)
      (updateOwnVariable texts refuses spec n) := by
    rw [updateExistingVariable, given_ok hparse]
    refine ActsAs.bind (.given _) fun expected => ActsAs.bind (.ask _ _ rfl rfl) fun actual => ?_
    refine ActsAs.ite (.throw _) (ActsAs.bind (.perform _ _ rfl rfl) fun _ => ?_)
    rw [writeInitialValue, writeOwnInitialValue]
    cases spec.initialValue with
    | none => exact .pure ()
    | some initialValue =>
      exact ActsAs.bind (.given _) fun value => .perform _ _ rfl rfl
  have hcallback : ActsAs n spec.nodeId (installValueCallback texts refuses spec.nodeId)
      (performOwn refuses "UA_Server_setVariableNode_valueCallback failed" (.setValueCallback n)
        fun a => { a with onWrite := true }) := by
    rw [installValueCallback, given_ok hparse]
    exact .perform _ _ rfl rfl
  rw [updateNode, updateOwn, updateLocalizedAttribute, updateLocalizedAttribute,
    updateEntryContext, given_ok hparse, given_ok hparse, given_ok hparse]
  refine ActsAs.bind (.perform _ _ rfl rfl) fun _ => ActsAs.bind (.perform _ _ rfl rfl) fun _ => ?_
  refine ActsAs.bind (.ite hvariable (.pure ())) fun _ => ActsAs.bind (.ensureEntry spec) fun _ => ?_
  exact ActsAs.bind (.perform _ _ rfl rfl) fun _ => .ite hcallback (.pure ())

end Acts

/-! ## §3. How an upsert ends -/

section Cases

variable (texts : Texts) (refuses : Refusals)

/-- What a node is created with. -/
def createdAttributes (spec : NodeSpec) : Except String Attributes :=
  if spec.nodeClass = "folder" then .ok (folderAttributes spec)
  else
    match spec.initialValue with
    | none => .error "initial_value is required when creating a variable node"
    | some initialValue =>
      match resolveBuiltinDataType spec.dataType with
      | .error errorMessage => .error errorMessage
      | .ok dataType =>
        (jsonToVariant texts spec.dataType initialValue true).map
          (variableAttributes spec dataType)

/-- The server with a new node, and a reference to it. -/
def ServerState.withNode (s : ServerState) (n p : NodeId) (parent : Node)
    (attributes : Attributes) : ServerState :=
  { s with
    space := Function.update
      (Function.update s.space p (some { parent with references := insert n parent.references }))
      n (some ⟨attributes, ∅⟩) }

@[simp]
theorem ServerState.withNode_nodeEntries (s : ServerState) (n p : NodeId) (parent : Node)
    (attributes : Attributes) :
    (s.withNode n p parent attributes).nodeEntries = s.nodeEntries := rfl

/-- A new node and its entry. -/
theorem ServerState.withNode_put (s : ServerState) (n p : NodeId) (parent : Node)
    (attributes : Attributes) (key : String) (o : Own) :
    (s.withNode n p parent attributes).put n key ∅ o =
      { space := Function.update (Function.update s.space p
          (some { parent with references := insert n parent.references })) n (some ⟨o.1, ∅⟩)
        nodeEntries := Function.update s.nodeEntries key o.2 } := by
  simp [put, withNode]

/-- The outcome of the second part, for the whole. -/
def ended (created : Bool) :
    EStateM.Result String ServerState Unit → EStateM.Result String ServerState Bool
  | .ok _ s => .ok created s
  | .error e s => .error e s

/-- The ways in which an upsert of the node `n` can end. -/
inductive Upserted (spec : NodeSpec) (n : NodeId) (s : ServerState) :
    EStateM.Result String ServerState Bool → Prop
  /-- Nothing has been done. -/
  | refused (e : String) : Upserted spec n s (.error e s)
  | updated {node : Node} (hnode : s.space n = some node)
      (hexists : nodeExists texts refuses spec.nodeId s.space =
        .ok (some node.attributes.nodeClass))
      (hclass : classMatches spec node.attributes.nodeClass = true) :
      Upserted spec n s (ended false (lift s n spec.nodeId node.references
        (updateOwn texts refuses spec n (node.attributes, s.nodeEntries spec.nodeId))))
  | created {p : NodeId} {parent : Node} {attributes : Attributes} (hnew : s.space n = none)
      (hexists : nodeExists texts refuses spec.nodeId s.space = .ok none)
      (hp : parseNodeIdOwned texts spec.parentNodeId = .ok p) (hparent : s.space p = some parent)
      (hattributes : createdAttributes texts spec = .ok attributes)
      (hadd : refuses (.addNode n p attributes) none (some parent.attributes.nodeClass) = none) :
      Upserted spec n s (ended true (lift (s.withNode n p parent attributes) n spec.nodeId ∅
        (updateOwn texts refuses spec n (attributes, s.nodeEntries spec.nodeId))))

end Cases

section Proofs

variable {texts : Texts} {refuses : Refusals} {n : NodeId} {spec : NodeSpec}

/-- What a node is created with, for both classes. -/
theorem createdAttributes_cases {attributes : Attributes}
    (h : createdAttributes texts spec = .ok attributes) :
    (spec.nodeClass = "folder" ∧ attributes = folderAttributes spec) ∨
    (spec.nodeClass ≠ "folder" ∧ ∃ v dataType value, spec.initialValue = some v ∧
      resolveBuiltinDataType spec.dataType = .ok dataType ∧
      jsonToVariant texts spec.dataType v true = .ok value ∧
      attributes = variableAttributes spec dataType value) := by
  rw [createdAttributes] at h
  split_ifs at h with hfolder
  · exact .inl ⟨hfolder, (Except.ok.inj h).symm⟩
  · refine .inr ⟨hfolder, ?_⟩
    cases hinitial : spec.initialValue with
    | none => simp [hinitial] at h
    | some v =>
      rw [hinitial] at h
      dsimp only at h
      cases hresolve : resolveBuiltinDataType spec.dataType with
      | error e => simp [hresolve] at h
      | ok dataType =>
        rw [hresolve] at h
        cases hvalue : jsonToVariant texts spec.dataType v true with
        | error e =>
          rw [hvalue] at h
          cases h
        | ok value =>
          rw [hvalue] at h
          exact ⟨v, dataType, value, rfl, rfl, hvalue, (Except.ok.inj h).symm⟩

/-- Both ways to create a node. -/
theorem create_eq (hparse : parseNodeIdOwned texts spec.nodeId = .ok n) (s : ServerState) :
    ∃ action, createNode texts refuses spec s =
      match createdAttributes texts spec, parseNodeIdOwned texts spec.parentNodeId with
      | .error e, _ => .error e s
      | .ok _, .error e => .error e s
      | .ok attributes, .ok p =>
        perform action (fun space => space.add refuses n p attributes) s := by
  rw [createNode]
  by_cases hfolder : spec.nodeClass = "folder"
  · refine ⟨"UA_Server_addObjectNode failed", ?_⟩
    rw [if_pos hfolder, createFolderNode, given_ok hparse, createdAttributes, if_pos hfolder]
    cases parseNodeIdOwned texts spec.parentNodeId <;> rfl
  · refine ⟨"UA_Server_addVariableNode failed", ?_⟩
    rw [if_neg hfolder, createVariableNode, createdAttributes, if_neg hfolder]
    cases spec.initialValue with
    | none => rfl
    | some initialValue =>
      dsimp only
      cases resolveBuiltinDataType spec.dataType with
      | error e => rfl
      | ok dataType =>
        rw [given_ok rfl]
        cases jsonToVariant texts spec.dataType initialValue true with
        | error e => rfl
        | ok v =>
          rw [given_ok rfl, given_ok hparse]
          cases parseNodeIdOwned texts spec.parentNodeId <;> rfl

/-- What adding a node does where there is a place for it. -/
theorem add_eq (refuses : Refusals) (action : String) {s : ServerState} {n p : NodeId}
    {parent : Node} (hn : s.space n = none) (hp : s.space p = some parent)
    (attributes : Attributes) :
    match refuses (.addNode n p attributes) none (some parent.attributes.nodeClass) with
    | some _ => ∃ e, perform action (fun space => space.add refuses n p attributes) s = .error e s
    | none => perform action (fun space => space.add refuses n p attributes) s =
        .ok () (s.withNode n p parent attributes) := by
  have hrefusal : s.space.refusal refuses (.addNode n p attributes) =
      refuses (.addNode n p attributes) none (some parent.attributes.nodeClass) := by
    rw [AddressSpace.refusal, AddressSpace.attributes, Call.nodeId, hn, Call.parentNodeId,
      Option.bind_some, AddressSpace.nodeClass, AddressSpace.attributes, hp]
    rfl
  rw [perform, AddressSpace.add, hrefusal, hn, hp]
  cases refuses (.addNode n p attributes) none (some parent.attributes.nodeClass) with
  | some status => exact ⟨_, rfl⟩
  | none => rfl

/-- What adding a node does, if it is not refused. -/
theorem add_cases (refuses : Refusals) (action : String) (s : ServerState) (n p : NodeId)
    (attributes : Attributes) :
    (∃ e, perform action (fun space => space.add refuses n p attributes) s = .error e s) ∨
    ∃ parent, s.space n = none ∧ s.space p = some parent ∧
      refuses (.addNode n p attributes) none (some parent.attributes.nodeClass) = none ∧
      perform action (fun space => space.add refuses n p attributes) s =
        .ok () (s.withNode n p parent attributes) := by
  cases hn : s.space n with
  | some node =>
    rw [perform, AddressSpace.add, hn]
    cases s.space.refusal refuses (.addNode n p attributes) <;> exact .inl ⟨_, rfl⟩
  | none =>
    cases hp : s.space p with
    | none =>
      rw [perform, AddressSpace.add, hn, hp]
      cases s.space.refusal refuses (.addNode n p attributes) <;> exact .inl ⟨_, rfl⟩
    | some parent =>
      have hadd := add_eq refuses action hn hp attributes
      cases hrefused : refuses (.addNode n p attributes) none
        (some parent.attributes.nodeClass) with
      | some status =>
        rw [hrefused] at hadd
        exact .inl hadd
      | none =>
        rw [hrefused] at hadd
        exact .inr ⟨parent, rfl, rfl, hrefused, hadd⟩

/-- The class that is read is that of the node. -/
theorem nodeExists_some {text : String} {m : NodeId} {space : AddressSpace} {c : NodeClass}
    (hparse : parseNodeIdOwned texts text = .ok m)
    (h : nodeExists texts refuses text space = .ok (some c)) :
    ∃ node, space m = some node ∧ node.attributes.nodeClass = c := by
  rw [nodeExists, hparse] at h
  dsimp only [AddressSpace.read, Call.nodeId] at h
  cases hrefusal : space.refusal refuses (.readNodeClass m) with
  | some status =>
    simp only [hrefusal] at h
    split_ifs at h
    cases h
  | none =>
    cases hm : space m with
    | none =>
      simp only [hrefusal, hm, if_true] at h
      cases h
    | some node =>
      simp only [hrefusal, hm] at h
      cases h
      exact ⟨node, rfl, rfl⟩

/-- An upsert, by what it finds. -/
theorem upsertNode_eq (s : ServerState) :
    upsertNode texts refuses spec s =
      match nodeExists texts refuses spec.nodeId s.space with
      | .error e => .error e s
      | .ok (some existingClass) =>
        if classMatches spec existingClass then ended false (updateNode texts refuses spec s)
        else .error ("node_class mismatch for existing node " ++ spec.nodeId) s
      | .ok none =>
        match createNode texts refuses spec s with
        | .ok _ s' => ended true (updateNode texts refuses spec s')
        | .error e s' => .error e s' := by
  have hended : ∀ (created : Bool) (t : ServerState),
      (updateNode texts refuses spec >>= fun _ => (return created : Runtime Bool)) t =
        ended created (updateNode texts refuses spec t) := by
    intro created t
    rw [bind_apply]
    cases updateNode texts refuses spec t <;> rfl
  rw [upsertNode, bind_apply, provideNode, bind_apply, query]
  cases nodeExists texts refuses spec.nodeId s.space with
  | error e => rfl
  | ok existing =>
    cases existing with
    | some existingClass =>
      dsimp only [given]
      cases classMatches spec existingClass with
      | false => rfl
      | true => exact hended false s
    | none =>
      dsimp only [given]
      rw [bind_apply]
      cases createNode texts refuses spec s with
      | error e s' => rfl
      | ok u s' => exact hended true s'

/-- **How an upsert ends.** -/
theorem upsertNode_cases (hparse : parseNodeIdOwned texts spec.nodeId = .ok n) (s : ServerState) :
    Upserted texts refuses spec n s (upsertNode texts refuses spec s) := by
  rw [upsertNode_eq]
  cases hexists : nodeExists texts refuses spec.nodeId s.space with
  | error e => exact .refused e
  | ok existing =>
    cases existing with
    | some existingClass =>
      obtain ⟨node, hnode, rfl⟩ := nodeExists_some hparse hexists
      dsimp only
      by_cases hclass : classMatches spec node.attributes.nodeClass = true
      · rw [if_pos hclass, updateNode_acts hparse s node.attributes node.references hnode]
        exact .updated hnode hexists hclass
      · rw [if_neg hclass]
        exact .refused _
    | none =>
      obtain ⟨action, hcreate⟩ : ∃ action, createNode texts refuses spec s = _ :=
        create_eq hparse s
      rw [hcreate]
      cases hattributes : createdAttributes texts spec with
      | error e => exact .refused e
      | ok attributes =>
        cases hp : parseNodeIdOwned texts spec.parentNodeId with
        | error e => exact .refused e
        | ok p =>
          obtain ⟨e, he⟩ | ⟨parent, hnew, hparent, hadd, hok⟩ :=
            add_cases refuses action s n p attributes
          · dsimp only
            rw [he]
            exact .refused e
          · dsimp only
            rw [hok]
            dsimp only
            rw [updateNode_acts hparse _ attributes ∅ (Function.update_self ..)]
            exact .created hnew hexists hp hparent hattributes hadd

end Proofs

/-! ## §4. What a program on a node keeps -/

/-- The state in which a program ends. -/
def after {ε σ α : Type} : EStateM.Result ε σ α → σ
  | .ok _ s => s
  | .error _ s => s

/-- The program keeps what `f` tells of the state. -/
def Keeps {σ α β : Type} (f : σ → β) (y : EStateM String σ α) : Prop := ∀ o, f (after (y o)) = f o

section Keeps

variable {σ α β γ : Type} {f : σ → γ}

theorem Keeps.bind {x : EStateM String σ α} {g : α → EStateM String σ β} (hx : Keeps f x)
    (hg : ∀ a, Keeps f (g a)) : Keeps f (x >>= g) := by
  intro o
  have hone := hx o
  rw [bind_apply]
  cases hr : x o with
  | error e o' =>
    rw [hr] at hone
    exact hone
  | ok a o' =>
    rw [hr] at hone
    exact (hg a o').trans hone

theorem Keeps.pure (a : α) : Keeps f (Pure.pure a : EStateM String σ α) := fun _ => rfl

theorem Keeps.throw (e : String) : Keeps f (throw e : EStateM String σ α) := fun _ => rfl

theorem Keeps.given (r : Except String α) : Keeps f (OpcUa.given r : EStateM String σ α) := by
  intro o
  cases r <;> rfl

theorem Keeps.ite {p : Prop} [Decidable p] {x y : EStateM String σ α} (hx : Keeps f x)
    (hy : Keeps f y) : Keeps f (if p then x else y) := by
  split_ifs
  · exact hx
  · exact hy

theorem Keeps.ask {f : Own → γ} {refuses : Refusals} (action : String) (call : Call)
    (g : Attributes → α) : Keeps f (askOwn refuses action call g) := by
  intro o
  rw [askOwn]
  cases refuses call (some o.1) none <;> rfl

theorem Keeps.perform {f : Own → γ} {refuses : Refusals} (action : String) (call : Call)
    {g : Attributes → Attributes} (hg : ∀ o : Own, f (g o.1, o.2) = f o) :
    Keeps f (performOwn refuses action call g) := by
  intro o
  rw [performOwn]
  cases refuses call (some o.1) none with
  | some status => rfl
  | none => exact hg o

end Keeps

section Kept

variable {texts : Texts} {refuses : Refusals}

/-- An upsert keeps the class of the node. -/
theorem updateOwn_nodeClass (spec : NodeSpec) (n : NodeId) :
    Keeps (fun o => o.1.nodeClass) (updateOwn texts refuses spec n) := by
  have hinitial : Keeps (fun o => o.1.nodeClass) (writeOwnInitialValue texts refuses spec n) := by
    rw [writeOwnInitialValue]
    cases spec.initialValue with
    | none => exact .pure ()
    | some v => exact .bind (.given _) fun _ => .perform _ _ fun _ => rfl
  have hvariable : Keeps (fun o => o.1.nodeClass) (updateOwnVariable texts refuses spec n) :=
    .bind (.given _) fun _ => .bind (.ask _ _ _) fun _ =>
      .ite (.throw _) (.bind (.perform _ _ fun _ => rfl) fun _ => hinitial)
  refine .bind (.perform _ _ fun _ => rfl) fun _ => .bind (.perform _ _ fun _ => rfl) fun _ => ?_
  refine .bind (.ite hvariable (.pure ())) fun _ => .bind (fun _ => rfl) fun _ => ?_
  exact .bind (.perform _ _ fun _ => rfl) fun _ => .ite (.perform _ _ fun _ => rfl) (.pure ())

end Kept

end Stdiolink.OpcUa
