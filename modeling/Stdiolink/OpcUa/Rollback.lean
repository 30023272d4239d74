/-
  Stdiolink.OpcUa.Rollback — upserts that fail, `opcua_server_runtime.cpp`.

  When a list of specs cannot be upserted, the nodes that were created are deleted again.  What was
  written to nodes that were there before stays, and so does a node whose own upsert fails after it
  has been created.

  Main results:
    * `rollback_same`            — deletion in reverse order takes all of the created nodes back;
    * `upserts_leave_no_trace`   — where nothing else was written, a failed upsert has no effect;
    * `renamed_by_failed_upsert` — a failed upsert that changes a node.
-/
import Stdiolink.OpcUa.UpsertOrder

namespace Stdiolink.OpcUa

open Stdiolink.Lib
open Stdiolink.Protocol

/-! ## §1. Upserts that change nothing -/

section Own

variable {texts : Texts} {refuses : Refusals} {spec : NodeSpec} {n : NodeId}

/-- A call about a node with these attributes goes through. -/
def Accepts (refuses : Refusals) (a : Attributes) (call : Call) : Prop :=
  refuses call (some a) none = none

/-- Both names are written. -/
def NamesGo (refuses : Refusals) (spec : NodeSpec) (n : NodeId) (a : Attributes) : Prop :=
  Accepts refuses a (.writeDisplayName n (uaText spec.displayName)) ∧
    Accepts refuses a (.writeDescription n (uaText spec.description))

/-- The variable has the type of the spec, and its access level is written. -/
structure AccessGoes (refuses : Refusals) (spec : NodeSpec) (n : NodeId) (a : Attributes)
    (dataType : DataType) : Prop where
  resolves : resolveBuiltinDataType spec.dataType = .ok dataType
  read : Accepts refuses a (.readDataType n)
  same : a.dataType = dataType.typeId
  accepted : Accepts refuses a (.writeAccessLevel n (accessLevelForMode spec.access))

/-- What is for variables only is done, the initial value with it if there is one. -/
def VariableGoes (texts : Texts) (refuses : Refusals) (spec : NodeSpec) (n : NodeId)
    (a : Attributes) : Prop :=
  (∃ dataType, AccessGoes refuses spec n a dataType) ∧
    ∀ v, spec.initialValue = some v →
      ∃ value, jsonToVariant texts spec.dataType v true = .ok value ∧
        Accepts refuses a (.writeDataValue n value)

/-- **The spec says of a node, and of its entry, what they are**, as far as they are written: each
field is about a write that is come to and is not refused. -/
structure Repeats (texts : Texts) (refuses : Refusals) (spec : NodeSpec) (n : NodeId)
    (a : Attributes) (entry : Option NodeEntry) : Prop where
  displayName : Accepts refuses a (.writeDisplayName n (uaText spec.displayName)) →
    a.displayName = uaText spec.displayName
  description : NamesGo refuses spec n a → a.description = uaText spec.description
  accessLevel : NamesGo refuses spec n a → spec.nodeClass = "variable" → ∀ dataType,
    AccessGoes refuses spec n a dataType → a.accessLevel = accessLevelForMode spec.access
  value : NamesGo refuses spec n a → spec.nodeClass = "variable" → ∀ dataType v value,
    AccessGoes refuses spec n a dataType → spec.initialValue = some v →
      jsonToVariant texts spec.dataType v true = .ok value →
        Accepts refuses a (.writeDataValue n value) → a.value = value
  entry : NamesGo refuses spec n a →
    (spec.nodeClass = "variable" → VariableGoes texts refuses spec n a) →
      entry = some (spec.entry entry)
  context : NamesGo refuses spec n a →
    (spec.nodeClass = "variable" → VariableGoes texts refuses spec n a) →
      Accepts refuses a (.setNodeContext n spec.nodeId) → a.context = some spec.nodeId
  onWrite : NamesGo refuses spec n a → spec.nodeClass = "variable" →
    VariableGoes texts refuses spec n a → Accepts refuses a (.setNodeContext n spec.nodeId) →
      Accepts refuses a (.setValueCallback n) → a.onWrite = true

/-- The program ends in the state in which it starts. -/
def Still {σ α : Type} (x : EStateM String σ α) (o : σ) : Prop := after (x o) = o

variable {α : Type} {f : Attributes → Attributes} {o : Own} {action : String} {call : Call}
  {a : Attributes}

theorem Still.bind {σ β : Type} {x : EStateM String σ α} {f : α → EStateM String σ β} {o : σ}
    (hx : Still x o) (hf : ∀ r, x o = .ok r o → Still (f r) o) : Still (x >>= f) o := by
  rw [Still, bind_apply]
  rw [Still] at hx
  cases hr : x o with
  | error e o' =>
    rw [hr] at hx
    exact hx
  | ok r o' =>
    rw [hr] at hx
    obtain rfl : o' = o := hx
    exact hf r hr

theorem Still.given {σ : Type} (r : Except String α) (o : σ) :
    Still (OpcUa.given r : EStateM String σ α) o := by
  cases r <;> rfl

theorem Still.ask (action : String) (call : Call) (f : Attributes → α) (o : Own) :
    Still (askOwn refuses action call f) o := by
  rw [Still, askOwn]
  cases refuses call (some o.1) none <;> rfl

theorem Still.perform (action : String) (call : Call)
    (hf : Accepts refuses o.1 call → f o.1 = o.1) :
    Still (performOwn refuses action call f) o := by
  rw [Still, performOwn]
  cases hcall : refuses call (some o.1) none with
  | some status => rfl
  | none => exact congrArg (·, o.2) (hf hcall)

theorem bind_eq_ok {σ β : Type} {x : EStateM String σ α} {f : α → EStateM String σ β} {b : β}
    {o o' : σ} (h : (x >>= f) o = .ok b o') : ∃ a t, x o = .ok a t ∧ f a t = .ok b o' := by
  rw [bind_apply] at h
  cases hx : x o with
  | error e t =>
    rw [hx] at h
    cases h
  | ok a t =>
    rw [hx] at h
    exact ⟨a, t, rfl, h⟩

theorem given_eq_ok {σ : Type} {r : Except String α} {a : α} {o o' : σ}
    (h : (given r : EStateM String σ α) o = .ok a o') : r = .ok a ∧ o' = o := by
  cases r with
  | error e => cases h
  | ok b =>
    cases h
    exact ⟨rfl, rfl⟩

theorem askOwn_eq_ok {f : Attributes → α} {r : α} {entry : Option NodeEntry} {o' : Own}
    (h : askOwn refuses action call f (a, entry) = .ok r o') :
    Accepts refuses a call ∧ f a = r ∧ o' = (a, entry) := by
  rw [askOwn] at h
  cases hcall : refuses call (some a) none with
  | some status =>
    rw [hcall] at h
    cases h
  | none =>
    rw [hcall] at h
    cases h
    exact ⟨hcall, rfl, rfl⟩

theorem performOwn_eq_ok {entry : Option NodeEntry} {u : Unit} {o' : Own}
    (h : performOwn refuses action call f (a, entry) = .ok u o') : Accepts refuses a call := by
  rw [performOwn] at h
  cases hcall : refuses call (some a) none with
  | some status =>
    rw [hcall] at h
    cases h
  | none => exact hcall

/-- Nothing is changed, and what is known where the program goes through. -/
def StillWith (x : EStateM String Own Unit) (o : Own) (P : Prop) : Prop :=
  Still x o ∧ ∀ u o', x o = .ok u o' → P

/-- The initial value, on a variable of the type. -/
theorem repeats_still_value {entry : Option NodeEntry} (h : Repeats texts refuses spec n a entry)
    (hnames : NamesGo refuses spec n a) (hclass : spec.nodeClass = "variable")
    {dataType : DataType} (haccess : AccessGoes refuses spec n a dataType) :
    StillWith (writeOwnInitialValue texts refuses spec n) (a, entry)
      (VariableGoes texts refuses spec n a) := by
  rw [writeOwnInitialValue]
  cases hinitial : spec.initialValue with
  | none => exact ⟨rfl, fun _ _ _ => ⟨⟨dataType, haccess⟩, by simp [hinitial]⟩⟩
  | some v =>
    refine ⟨.bind (.given _ _) fun value hvalue => .perform _ _ fun hwrite => ?_, ?_⟩
    · simp only [← h.value hnames hclass dataType v value haccess hinitial (given_eq_ok hvalue).1
        hwrite]
    · intro u o' hok
      obtain ⟨value, o₁, hgiven, hwritten⟩ := bind_eq_ok hok
      obtain ⟨hvalue, rfl⟩ := given_eq_ok hgiven
      have hwrite : Accepts refuses a (.writeDataValue n value) := performOwn_eq_ok hwritten
      refine ⟨⟨dataType, haccess⟩, fun w hw => ⟨value, ?_, hwrite⟩⟩
      rw [← Option.some.inj (hinitial.symm.trans hw)]
      exact hvalue

/-- The part of an upsert that is for variables only. -/
theorem repeats_still_variable {entry : Option NodeEntry}
    (h : Repeats texts refuses spec n a entry) (hnames : NamesGo refuses spec n a) :
    StillWith (ifVariable spec (updateOwnVariable texts refuses spec n)) (a, entry)
      (spec.nodeClass = "variable" → VariableGoes texts refuses spec n a) := by
  by_cases hclass : spec.nodeClass = "variable"
  swap
  · rw [ifVariable, if_neg hclass]
    exact ⟨rfl, fun _ _ _ hvariable => absurd hvariable hclass⟩
  -- once the access level is written, the variable is as before
  have hrest : ∀ {dataType : DataType} (action : String),
      (Accepts refuses a (.writeAccessLevel n (accessLevelForMode spec.access)) →
        AccessGoes refuses spec n a dataType) →
      StillWith (performOwn refuses action
          (.writeAccessLevel n (accessLevelForMode spec.access))
          (fun a => { a with accessLevel := accessLevelForMode spec.access }) >>= fun _ =>
        writeOwnInitialValue texts refuses spec n) (a, entry)
        (VariableGoes texts refuses spec n a) := by
    intro dataType action haccess
    have hwrite : Still (performOwn refuses action
        (.writeAccessLevel n (accessLevelForMode spec.access))
        fun a => { a with accessLevel := accessLevelForMode spec.access }) (a, entry) := by
      refine .perform _ _ fun hwrite => ?_
      simp only [← h.accessLevel hnames hclass dataType (haccess hwrite)]
    refine ⟨hwrite.bind fun _ hok => ?_, fun u o' hok => ?_⟩
    · exact (repeats_still_value h hnames hclass (haccess (performOwn_eq_ok hok))).1
    · obtain ⟨_, o₁, hone, hinitial⟩ := bind_eq_ok hok
      rw [Still, hone] at hwrite
      obtain rfl : o₁ = (a, entry) := hwrite
      exact (repeats_still_value h hnames hclass (haccess (performOwn_eq_ok hone))).2 _ _ hinitial
  rw [ifVariable, if_pos hclass]
  refine ⟨.bind (.given _ _) fun dataType hdataType => .bind (.ask ..) fun actual hactual => ?_, ?_⟩
  · obtain ⟨hread, hsame, -⟩ := askOwn_eq_ok hactual
    split_ifs with hne
    · rfl
    · exact (hrest _ fun hwrite => ⟨(given_eq_ok hdataType).1, hread,
        hsame.trans (not_not.mp hne), hwrite⟩).1
  · intro u o' hok _
    obtain ⟨dataType, o₁, hdataType, hasked⟩ := bind_eq_ok hok
    obtain ⟨hresolve, rfl⟩ := given_eq_ok hdataType
    obtain ⟨actual, o₂, hactual, hwritten⟩ := bind_eq_ok hasked
    obtain ⟨hread, hsame, rfl⟩ := askOwn_eq_ok hactual
    split_ifs at hwritten with hne
    · cases hwritten
    · exact (hrest _ fun hwrite => ⟨hresolve, hread, hsame.trans (not_not.mp hne), hwrite⟩).2 _ _
        hwritten

/-- A spec that repeats what is there has no effect on it. -/
theorem repeats_still {entry : Option NodeEntry} (h : Repeats texts refuses spec n a entry) :
    Still (updateOwn texts refuses spec n) (a, entry) := by
  refine .bind (.perform _ _ fun hname => by simp only [← h.displayName hname]) fun _ hname => ?_
  have hname : Accepts refuses a (.writeDisplayName n (uaText spec.displayName)) :=
    performOwn_eq_ok hname
  refine .bind (.perform _ _ fun hdescription => by
    simp only [← h.description ⟨hname, hdescription⟩]) fun _ hdescription => ?_
  have hnames : NamesGo refuses spec n a := ⟨hname, performOwn_eq_ok hdescription⟩
  obtain ⟨hstill, hgoes⟩ := repeats_still_variable h hnames
  refine .bind hstill fun _ hvariable => ?_
  have hgoes := hgoes _ _ hvariable
  refine .bind (congrArg (a, ·) (h.entry hnames hgoes).symm) fun _ _ =>
    .bind (.perform _ _ fun hcontext => by simp only [← h.context hnames hgoes hcontext])
      fun _ hcontext => ?_
  have hcontext : Accepts refuses a (.setNodeContext n spec.nodeId) := performOwn_eq_ok hcontext
  by_cases hclass : spec.nodeClass = "variable"
  · rw [ifVariable, if_pos hclass]
    exact .perform _ _ fun hcallback => by
      simp only [← h.onWrite hnames hclass (hgoes hclass) hcontext hcallback]
  · rw [ifVariable, if_neg hclass]
    rfl

/-- **No call is refused** once the node is created; the callback is the last one, when the node
has its context. -/
structure UpdateGoes (refuses : Refusals) (spec : NodeSpec) (n : NodeId) (a : Attributes) :
    Prop where
  names : NamesGo refuses spec n a
  context : Accepts refuses a (.setNodeContext n spec.nodeId)
  rest : spec.nodeClass = "variable" → ∀ call ∈ [Call.readDataType n,
    .writeAccessLevel n a.accessLevel, .writeDataValue n a.value], Accepts refuses a call
  callback : spec.nodeClass = "variable" →
    Accepts refuses { a with context := some spec.nodeId } (.setValueCallback n)

/-- What is written again to a node that has just been created is there already. -/
theorem createdAttributes_repeats (h : createdAttributes texts spec = .ok a) :
    a.displayName = uaText spec.displayName ∧ a.description = uaText spec.description ∧
      (spec.nodeClass = "variable" → ∃ v dataType value, spec.initialValue = some v ∧
        resolveBuiltinDataType spec.dataType = .ok dataType ∧
        jsonToVariant texts spec.dataType v true = .ok value ∧ a.dataType = dataType.typeId ∧
        a.accessLevel = accessLevelForMode spec.access ∧ a.value = value) := by
  obtain ⟨hclass, rfl⟩ | ⟨-, v, dataType, value, hv, hresolve, hvalue, rfl⟩ :=
    createdAttributes_cases h
  · exact ⟨rfl, rfl, fun hvariable => by simp [hclass] at hvariable⟩
  · exact ⟨rfl, rfl, fun _ => ⟨v, dataType, value, hv, hresolve, hvalue, rfl, rfl, rfl⟩⟩

/-- A write that goes through and changes nothing. -/
theorem performOwn_same (action : String) (entry : Option NodeEntry) (h : Accepts refuses a call)
    (hsame : f a = a) : performOwn refuses action call f (a, entry) = .ok () (a, entry) := by
  rw [performOwn, h]
  exact congrArg (fun a => EStateM.Result.ok () (a, entry)) hsame

theorem bind_of_ok {σ β : Type} {x : EStateM String σ α} {f : α → EStateM String σ β} {r : α}
    {o o' : σ} (h : x o = .ok r o') : (x >>= f) o = f r o' := by
  rw [bind_apply, h]

/-- What is for variables only, on a variable that has been created. -/
theorem updateOwnVariable_goes (hcreated : createdAttributes texts spec = .ok a)
    (h : UpdateGoes refuses spec n a) (hclass : spec.nodeClass = "variable")
    (entry : Option NodeEntry) :
    updateOwnVariable texts refuses spec n (a, entry) = .ok () (a, entry) := by
  obtain ⟨-, -, hvariable⟩ := createdAttributes_repeats hcreated
  obtain ⟨v, dataType, value, hv, hresolve, hvalue, htype, haccess, rfl⟩ := hvariable hclass
  have hrest := h.rest hclass
  simp only [List.forall_mem_cons, haccess] at hrest
  obtain ⟨hread, hlevel, hwrite, -⟩ := hrest
  have hasked : askOwn refuses "Read DataType failed" (.readDataType n) Attributes.dataType
      (a, entry) = .ok dataType.typeId (a, entry) := by
    rw [askOwn, hread, htype]
  rw [updateOwnVariable, given_ok hresolve, bind_of_ok hasked, if_neg (not_not.mpr rfl),
    bind_of_ok (performOwn_same _ entry hlevel (by simp only [← haccess])), writeOwnInitialValue, hv]
  dsimp only
  rw [given_ok hvalue]
  exact performOwn_same _ entry hwrite rfl

/-- **Once it is created, a node is upserted** if no call is refused. -/
theorem updateOwn_goes (hcreated : createdAttributes texts spec = .ok a)
    (h : UpdateGoes refuses spec n a) (entry : Option NodeEntry) :
    ∃ o, updateOwn texts refuses spec n (a, entry) = .ok () o := by
  obtain ⟨hname, hdescription, -⟩ := createdAttributes_repeats hcreated
  have hcontext : performOwn refuses "UA_Server_setNodeContext failed"
      (.setNodeContext n spec.nodeId) (fun a => { a with context := some spec.nodeId })
      (a, some (spec.entry entry)) =
      .ok () ({ a with context := some spec.nodeId }, some (spec.entry entry)) := by
    rw [performOwn, h.context]
  have hentry : (modify fun o : Own => (o.1, some (spec.entry o.2)) : EStateM String Own Unit)
      (a, entry) = .ok () (a, some (spec.entry entry)) := rfl
  rw [updateOwn, bind_of_ok (performOwn_same _ entry h.names.1 (by simp only [← hname])),
    bind_of_ok (performOwn_same _ entry h.names.2 (by simp only [← hdescription]))]
  by_cases hclass : spec.nodeClass = "variable"
  · rw [ifVariable, if_pos hclass, bind_of_ok (updateOwnVariable_goes hcreated h hclass entry),
      bind_of_ok hentry, bind_of_ok hcontext, ifVariable, if_pos hclass, performOwn,
      h.callback hclass]
    exact ⟨_, rfl⟩
  · have hskip : ∀ (x : EStateM String Own Unit) o, ifVariable spec x o = .ok () o := by
      intro x o
      rw [ifVariable, if_neg hclass]
      rfl
    rw [bind_of_ok (hskip _ _), bind_of_ok hentry, bind_of_ok hcontext, hskip]
    exact ⟨_, rfl⟩

end Own

/-! ## §2. Created nodes are taken back -/

/-- What goes with a node that is deleted is below it. -/
structure RemovesBelow (server : UaServer) : Prop where
  self : ∀ space n, server.removed space n n = true
  below : ∀ space n m, server.removed space n m = true →
    Relation.ReflTransGen (AddressSpace.Refers space) n m

/-- The same nodes, with the same references between them, and the same table. -/
structure Same (s t : ServerState) : Prop where
  attributes : ∀ m, t.space.attributes m = s.space.attributes m
  entries : t.nodeEntries = s.nodeEntries
  references : ∀ m x, (s.space x).isSome = true → (t.space.Refers m x ↔ s.space.Refers m x)

section Taken

variable {texts : Texts} {refuses : Refusals} {server : UaServer} {before t : ServerState}
  {created : List String} {key : String}

/-- Beside these nodes, the server is what it was before.  A node that has been created refers at
most to those created later. -/
structure Pending (texts : Texts) (before : ServerState) (created : List String)
    (t : ServerState) : Prop where
  canonical : ∀ key ∈ created, Canonical texts key
  fresh : ∀ key ∈ created, before.space (nodeOf texts key) = none ∧ before.nodeEntries key = none
  there : ∀ key ∈ created, (t.space (nodeOf texts key)).isSome = true
  attributes : ∀ m ∉ created.map (nodeOf texts), t.space.attributes m = before.space.attributes m
  entries : ∀ key ∉ created, t.nodeEntries key = before.nodeEntries key
  references : ∀ m ∉ created.map (nodeOf texts), ∀ x, (before.space x).isSome = true →
    (t.space.Refers m x ↔ before.space.Refers m x)
  inside : ∀ key ∈ created, ∀ x, t.space.Refers (nodeOf texts key) x →
    x ∈ created.map (nodeOf texts) ∧ x ≠ nodeOf texts key
  later : created.Pairwise fun first second => nodeOf texts first ≠ nodeOf texts second ∧
    ¬t.space.Refers (nodeOf texts second) (nodeOf texts first)

theorem Pending.start : Pending texts before [] before :=
  ⟨nofun, nofun, nofun, fun _ _ => rfl, fun _ _ => rfl, fun _ _ _ _ => Iff.rfl, nofun, .nil⟩

theorem Pending.same (h : Pending texts before [] t) : Same before t :=
  ⟨fun m => h.attributes m List.not_mem_nil, funext fun key => h.entries key List.not_mem_nil,
    fun m x hx => h.references m List.not_mem_nil x hx⟩

/-- The node that was created last refers to none. -/
theorem Pending.leaf (h : Pending texts before (created ++ [key]) t) (x : NodeId) :
    ¬t.space.Refers (nodeOf texts key) x := by
  intro hx
  obtain ⟨hmem, hne⟩ := h.inside key (by simp) x hx
  obtain ⟨first, hfirst, rfl⟩ := List.mem_map.mp hmem
  obtain hfirst | hfirst := List.mem_append.mp hfirst
  · have hlater := (List.pairwise_append.mp h.later).2.2 first hfirst key (by simp)
    exact hlater.2 hx
  · exact hne (by rw [List.mem_singleton.mp hfirst])

theorem delete_eq {space : AddressSpace} {n : NodeId} {node : Node} {deleteReferences : Bool}
    (hnode : space n = some node)
    (h : refuses (.deleteNode n deleteReferences) (some node.attributes) none = none) :
    space.delete refuses server.removed n deleteReferences =
      .ok (space.without (server.removed space n) deleteReferences) := by
  have hrefusal : space.refusal refuses (.deleteNode n deleteReferences) = none := by
    rw [AddressSpace.refusal, AddressSpace.attributes, Call.nodeId, hnode]
    exact h
  rw [AddressSpace.delete, hrefusal, hnode]

/-- The nodes that have been created can be deleted. -/
def Deletable (texts : Texts) (refuses : Refusals) (created : List String) (s : ServerState) :
    Prop :=
  ∀ key ∈ created, ∀ a, s.space.attributes (nodeOf texts key) = some a →
    Accepts refuses a (.deleteNode (nodeOf texts key) true)

/-- What a deletion in the rollback does. -/
theorem Pending.rollbackNode_eq (h : Pending texts before (created ++ [key]) t)
    (hserver : RemovesBelow server) (hdelete : Deletable texts refuses (created ++ [key]) t) :
    rollbackNode texts refuses server t key =
      { space := t.space.without (fun m => m = nodeOf texts key) true
        nodeEntries := Function.update t.nodeEntries key none } := by
  obtain ⟨node, hnode⟩ := Option.isSome_iff_exists.mp (h.there key (by simp))
  have hremoved : server.removed t.space (nodeOf texts key) =
      fun m => decide (m = nodeOf texts key) := by
    funext m
    rw [Bool.eq_iff_iff, decide_eq_true_iff]
    constructor
    · intro hm
      obtain heq | ⟨x, hx, -⟩ := (hserver.below _ _ _ hm).cases_head
      · exact heq.symm
      · exact absurd hx (h.leaf x)
    · rintro rfl
      exact hserver.self ..
  rw [rollbackNode, (h.canonical key (by simp)).owned]
  dsimp only
  rw [delete_eq hnode (hdelete key (by simp) _ (by rw [AddressSpace.attributes, hnode]; rfl)),
    hremoved]

/-- **One node is taken back.** -/
theorem Pending.takeBack (h : Pending texts before (created ++ [key]) t)
    (hserver : RemovesBelow server) (hdelete : Deletable texts refuses (created ++ [key]) t) :
    Pending texts before created (rollbackNode texts refuses server t key) := by
  rw [h.rollbackNode_eq hserver hdelete]
  have hnew := h.fresh key (by simp)
  have hpairs := List.pairwise_append.mp h.later
  have hne : ∀ first ∈ created, nodeOf texts first ≠ nodeOf texts key :=
    fun first hfirst => (hpairs.2.2 first hfirst key (by simp)).1
  have hother : ∀ {m : NodeId}, m ∉ created.map (nodeOf texts) → m ≠ nodeOf texts key →
      m ∉ (created ++ [key]).map (nodeOf texts) := by
    intro m hm hmkey hmem
    rw [List.map_append, List.mem_append] at hmem
    obtain hmem | hmem := hmem
    · exact hm hmem
    · exact hmkey (List.mem_singleton.mp hmem)
  constructor
  case canonical => exact fun first hfirst => h.canonical first (List.mem_append_left _ hfirst)
  case fresh => exact fun first hfirst => h.fresh first (List.mem_append_left _ hfirst)
  case there =>
    intro first hfirst
    rw [← isSome_attributes, AddressSpace.without_attributes, if_neg, isSome_attributes]
    · exact h.there first (List.mem_append_left _ hfirst)
    · simpa using hne first hfirst
  case attributes =>
    intro m hm
    rw [AddressSpace.without_attributes]
    by_cases hmkey : m = nodeOf texts key
    · rw [if_pos (decide_eq_true hmkey), hmkey, AddressSpace.attributes, hnew.1]
      rfl
    · rw [if_neg (by simpa using hmkey)]
      exact h.attributes m (hother hm hmkey)
  case entries =>
    intro other hmem
    dsimp only
    by_cases heq : other = key
    · rw [heq, Function.update_self, hnew.2]
    · rw [Function.update_of_ne heq]
      exact h.entries other (by simp [hmem, heq])
  case references =>
    intro m hm x hx
    rw [AddressSpace.without_refers]
    by_cases hmkey : m = nodeOf texts key
    · rw [hmkey]
      simp [AddressSpace.Refers, hnew.1]
    · have hxkey : x ≠ nodeOf texts key := by
        rintro rfl
        rw [hnew.1] at hx
        cases hx
      rw [← h.references m (hother hm hmkey) x hx]
      simp [hmkey, hxkey]
  case inside =>
    intro first hfirst x hx
    dsimp only at hx
    rw [AddressSpace.without_refers] at hx
    obtain ⟨hold, -, hxkey⟩ := hx
    obtain ⟨hmem, hself⟩ := h.inside first (List.mem_append_left _ hfirst) x hold
    rw [List.map_append, List.mem_append] at hmem
    obtain hmem | hmem := hmem
    · exact ⟨hmem, hself⟩
    · exact absurd (List.mem_singleton.mp hmem) (of_decide_eq_false hxkey)
  case later =>
    refine hpairs.1.imp fun {first second} hpair => ⟨hpair.1, fun hx => hpair.2 ?_⟩
    dsimp only at hx
    rw [AddressSpace.without_refers] at hx
    exact hx.1

/-- The others can be deleted as before. -/
theorem Pending.deletable (h : Pending texts before (created ++ [key]) t)
    (hserver : RemovesBelow server) (hdelete : Deletable texts refuses (created ++ [key]) t) :
    Deletable texts refuses created (rollbackNode texts refuses server t key) := by
  have hother : ∀ m, m ≠ nodeOf texts key →
      (rollbackNode texts refuses server t key).space.attributes m = t.space.attributes m := by
    intro m hm
    rw [h.rollbackNode_eq hserver hdelete, AddressSpace.without_attributes,
      if_neg (by simpa using hm)]
  intro first hfirst a ha
  rw [hother _ ((List.pairwise_append.mp h.later).2.2 first hfirst key (by simp)).1] at ha
  exact hdelete first (List.mem_append_left _ hfirst) a ha

/-- **Deletion in reverse order takes all of the created nodes back.** -/
theorem rollback_same (hserver : RemovesBelow server) (h : Pending texts before created t)
    (hdelete : Deletable texts refuses created t) :
    Same before (rollback texts refuses server t created) := by
  induction created using List.reverseRecOn generalizing t with
  | nil => exact h.same
  | append_singleton created key ih =>
    rw [rollback, List.reverse_append, List.reverse_singleton, List.singleton_append,
      List.foldl_cons]
    exact ih (h.takeBack hserver hdelete) (h.deletable hserver hdelete)

end Taken

/-! ## §3. Upserts that fail -/

section Failed

attribute [local irreducible] nodeOf

variable {texts : Texts} {refusals : Nat → Refusals} {before s : ServerState}
  {created : List String} {spec : NodeSpec} {p : NodeId} {parent : Node} {o : Own}

/-- A node that has been created is upserted again. -/
theorem Pending.again (h : Pending texts before created s) (hkey : spec.nodeId ∈ created)
    (hparent : s.space p = some parent) :
    Pending texts before created (s.upserted spec (nodeOf texts spec.nodeId) p parent o) := by
  have hmem : nodeOf texts spec.nodeId ∈ created.map (nodeOf texts) :=
    List.mem_map_of_mem hkey
  have hrefers : ∀ m x, (s.upserted spec (nodeOf texts spec.nodeId) p parent o).space.Refers m x ↔
      s.space.Refers m x := by
    intro m x
    have hsome := h.there _ hkey
    rw [ServerState.upserted_refers hparent, or_iff_left]
    rintro ⟨-, -, hnone⟩
    rw [hnone] at hsome
    cases hsome
  constructor
  case canonical => exact h.canonical
  case fresh => exact h.fresh
  case there =>
    intro key hcreated
    rw [← isSome_attributes, ServerState.upserted_attributes hparent]
    split_ifs
    · rfl
    · rw [isSome_attributes]
      exact h.there key hcreated
  case attributes =>
    intro m hm
    have hne : m ≠ nodeOf texts spec.nodeId := fun heq => hm (heq ▸ hmem)
    rw [ServerState.upserted_attributes hparent, if_neg hne]
    exact h.attributes m hm
  case entries =>
    intro key hother
    have hne : key ≠ spec.nodeId := fun heq => hother (heq ▸ hkey)
    rw [ServerState.upserted_nodeEntries, Function.update_of_ne hne]
    exact h.entries key hother
  case references =>
    intro m hm x hx
    rw [hrefers]
    exact h.references m hm x hx
  case inside =>
    intro key hcreated x hx
    exact h.inside key hcreated x ((hrefers _ _).mp hx)
  case later => exact h.later.imp fun hpair => ⟨hpair.1, fun hx => hpair.2 ((hrefers _ _).mp hx)⟩

/-- **One more node is created.** -/
theorem Pending.made (h : Pending texts before created s)
    (hcanonical : Canonical texts spec.nodeId) (hnew : s.space (nodeOf texts spec.nodeId) = none)
    (hentry : before.nodeEntries spec.nodeId = none) (hparent : s.space p = some parent) :
    Pending texts before (created ++ [spec.nodeId])
      (s.upserted spec (nodeOf texts spec.nodeId) p parent o) := by
  have hne : ∀ key ∈ created, nodeOf texts key ≠ nodeOf texts spec.nodeId := by
    intro key hkey heq
    have hsome := h.there key hkey
    rw [heq, hnew] at hsome
    cases hsome
  have hother : nodeOf texts spec.nodeId ∉ created.map (nodeOf texts) := by
    intro hmem
    obtain ⟨key, hkey, heq⟩ := List.mem_map.mp hmem
    exact hne key hkey heq
  have hbefore : before.space (nodeOf texts spec.nodeId) = none := by
    have hattributes := h.attributes _ hother
    rw [AddressSpace.attributes, AddressSpace.attributes, hnew] at hattributes
    exact Option.map_eq_none_iff.mp hattributes.symm
  have hsplit : ∀ {m : NodeId}, m ∉ (created ++ [spec.nodeId]).map (nodeOf texts) →
      m ∉ created.map (nodeOf texts) ∧ m ≠ nodeOf texts spec.nodeId := by
    intro m hm
    rw [List.map_append, List.mem_append, not_or] at hm
    exact ⟨hm.1, fun heq => hm.2 (List.mem_singleton.mpr heq)⟩
  -- only the parent refers to it, and it refers to none
  have hrefers : ∀ m x, (s.upserted spec (nodeOf texts spec.nodeId) p parent o).space.Refers m x ↔
      s.space.Refers m x ∨ (x = nodeOf texts spec.nodeId ∧ p = m) := by
    intro m x
    rw [ServerState.upserted_refers hparent]
    simp [hnew]
  have hpne : p ≠ nodeOf texts spec.nodeId := by
    rintro rfl
    rw [hnew] at hparent
    cases hparent
  have hleaf : ∀ x, ¬(s.upserted spec (nodeOf texts spec.nodeId) p parent o).space.Refers
      (nodeOf texts spec.nodeId) x := by
    intro x hx
    obtain ⟨node, hnode, -⟩ | ⟨-, heq⟩ := (hrefers _ _).mp hx
    · rw [hnew] at hnode
      cases hnode
    · exact hpne heq
  constructor
  case canonical => simpa [or_imp, forall_and] using ⟨h.canonical, hcanonical⟩
  case fresh =>
    intro key hkey
    obtain hkey | hkey := List.mem_append.mp hkey
    · exact h.fresh key hkey
    · rw [List.mem_singleton.mp hkey]
      exact ⟨hbefore, hentry⟩
  case there =>
    intro key hkey
    rw [← isSome_attributes, ServerState.upserted_attributes hparent]
    split_ifs with heq
    · rfl
    · rw [isSome_attributes]
      obtain hkey | hkey := List.mem_append.mp hkey
      · exact h.there key hkey
      · exact absurd (congrArg _ (List.mem_singleton.mp hkey)) heq
  case attributes =>
    intro m hm
    obtain ⟨hm, hmne⟩ := hsplit hm
    rw [ServerState.upserted_attributes hparent, if_neg hmne]
    exact h.attributes m hm
  case entries =>
    intro key hkey
    rw [List.mem_append, not_or] at hkey
    rw [ServerState.upserted_nodeEntries,
      Function.update_of_ne fun heq => hkey.2 (List.mem_singleton.mpr heq)]
    exact h.entries key hkey.1
  case references =>
    intro m hm x hx
    obtain ⟨hm, hmne⟩ := hsplit hm
    rw [hrefers, or_iff_left, h.references m hm x hx]
    rintro ⟨rfl, -⟩
    rw [hbefore] at hx
    cases hx
  case inside =>
    intro key hkey x hx
    rw [List.map_append, List.mem_append]
    obtain hkey | hkey := List.mem_append.mp hkey
    · obtain hx | ⟨heq, -⟩ := (hrefers _ _).mp hx
      · exact ⟨.inl (h.inside key hkey x hx).1, (h.inside key hkey x hx).2⟩
      · rw [heq]
        exact ⟨.inr (List.mem_singleton.mpr rfl), (hne key hkey).symm⟩
    · rw [List.mem_singleton.mp hkey] at hx
      exact absurd hx (hleaf x)
  case later =>
    refine List.pairwise_append.mpr ⟨?_, List.pairwise_singleton _ _, ?_⟩
    · refine h.later.imp_of_mem fun {first second} hfirst _ hpair => ⟨hpair.1, fun hx => ?_⟩
      obtain hx | ⟨heq, -⟩ := (hrefers _ _).mp hx
      · exact hpair.2 hx
      · exact hne first hfirst heq
    · intro first hfirst second hsecond
      rw [List.mem_singleton.mp hsecond]
      exact ⟨hne first hfirst, hleaf _⟩

/-- **What a spec leaves behind is taken back**: what it writes to a node that was there before is
what is there; a node that is created had no entry before, and is upserted without a refusal. -/
structure Undoable (texts : Texts) (refuses : Refusals) (before s : ServerState) (spec : NodeSpec) :
    Prop where
  repeats : ∀ node, before.space (nodeOf texts spec.nodeId) = some node →
    nodeExists texts refuses spec.nodeId s.space = .ok (some node.attributes.nodeClass) →
    classMatches spec node.attributes.nodeClass = true →
      Repeats texts refuses spec (nodeOf texts spec.nodeId) node.attributes
        (before.nodeEntries spec.nodeId)
  created : ∀ attributes parent, nodeExists texts refuses spec.nodeId s.space = .ok none →
    s.space (nodeOf texts spec.nodeId) = none →
    s.space (nodeOf texts spec.parentNodeId) = some parent →
    createdAttributes texts spec = .ok attributes →
    refuses (.addNode (nodeOf texts spec.nodeId) (nodeOf texts spec.parentNodeId) attributes) none
      (some parent.attributes.nodeClass) = none →
    before.nodeEntries spec.nodeId = none ∧
      UpdateGoes refuses spec (nodeOf texts spec.nodeId) attributes

/-- What is there is not touched. -/
theorem Pending.updated (h : Pending texts before created s) (refuses : Refusals) {node : Node}
    (hcanonical : Canonical texts spec.nodeId) (hparent : s.space p = some parent)
    (hnode : s.space (nodeOf texts spec.nodeId) = some node)
    (hrepeats : ∀ old, before.space (nodeOf texts spec.nodeId) = some old →
      old.attributes = node.attributes →
      Repeats texts refuses spec (nodeOf texts spec.nodeId) old.attributes
        (before.nodeEntries spec.nodeId)) :
    Pending texts before created (s.put (nodeOf texts spec.nodeId) spec.nodeId node.references
      (after (updateOwn texts refuses spec (nodeOf texts spec.nodeId)
        (node.attributes, s.nodeEntries spec.nodeId)))) := by
  by_cases hkey : spec.nodeId ∈ created
  · have hagain := h.again hkey hparent (o := after (updateOwn texts refuses spec
      (nodeOf texts spec.nodeId) (node.attributes, s.nodeEntries spec.nodeId)))
    rw [ServerState.upserted, hnode] at hagain
    exact hagain
  · -- the node was there before the first spec
    have hother : nodeOf texts spec.nodeId ∉ created.map (nodeOf texts) := by
      intro hmem
      obtain ⟨key, hcreated, heq⟩ := List.mem_map.mp hmem
      exact hkey ((h.canonical key hcreated).inj hcanonical heq ▸ hcreated)
    have hattributes := h.attributes _ hother
    rw [AddressSpace.attributes, AddressSpace.attributes, hnode] at hattributes
    obtain ⟨old, hold, heq⟩ := Option.map_eq_some_iff.mp hattributes.symm
    have hstill : Still (updateOwn texts refuses spec (nodeOf texts spec.nodeId))
        (node.attributes, s.nodeEntries spec.nodeId) := by
      rw [h.entries _ hkey, ← heq]
      exact repeats_still (hrepeats old hold heq)
    rw [hstill, ServerState.put_self hnode]
    exact h

/-- **One upsert**, when some nodes have been created. -/
theorem Pending.upsertNode {refuses : Refusals} (h : Pending texts before created s)
    (hcanonical : Canonical texts spec.nodeId) (hparse : Canonical texts spec.parentNodeId)
    (hparent : s.space (nodeOf texts spec.parentNodeId) = some parent)
    (hundoable : Undoable texts refuses before s spec) :
    (∀ t, upsertNode texts refuses spec s = .ok false t → Pending texts before created t) ∧
    (∀ t, upsertNode texts refuses spec s = .ok true t →
      Pending texts before (created ++ [spec.nodeId]) t) ∧
    ∀ e t, upsertNode texts refuses spec s = .error e t → Pending texts before created t := by
  have hcases : Upserted texts refuses spec _ s _ := upsertNode_cases hcanonical.owned s
  generalize OpcUa.upsertNode texts refuses spec s = r at hcases
  cases hcases with
  | refused e =>
    refine ⟨nofun, nofun, fun e' t ht => ?_⟩
    cases ht
    exact h
  | @updated node hnode hexists hclass =>
    have hupdated := h.updated refuses hcanonical hparent hnode
      fun old hold heq => hundoable.repeats old hold (heq ▸ hexists) (heq ▸ hclass)
    cases hr : updateOwn texts refuses spec (nodeOf texts spec.nodeId)
        (node.attributes, s.nodeEntries spec.nodeId) with
    | ok u o =>
      rw [hr] at hupdated
      refine ⟨fun t ht => ?_, nofun, nofun⟩
      cases ht
      exact hupdated
    | error e o =>
      rw [hr] at hupdated
      refine ⟨nofun, nofun, fun e' t ht => ?_⟩
      cases ht
      exact hupdated
  | @created p parent' attributes hnew hexists hp hparent' hattributes hadd =>
    obtain rfl : nodeOf texts spec.parentNodeId = p := Except.ok.inj (hparse.owned.symm.trans hp)
    obtain ⟨hentry, hgoes⟩ :=
      hundoable.created attributes parent' hexists hnew hparent' hattributes hadd
    obtain ⟨o, ho⟩ := updateOwn_goes hattributes hgoes (s.nodeEntries spec.nodeId)
    rw [ho]
    refine ⟨nofun, fun t ht => ?_, nofun⟩
    cases ht
    have hmade := h.made hcanonical hnew hentry hparent' (o := o)
    rw [ServerState.upserted, hnew] at hmade
    dsimp only at hmade
    rw [ServerState.withNode_put] at hmade ⊢
    exact hmade

/-- What holds between two specs. -/
def InPass (texts : Texts) (before : ServerState) (t : UpsertState) : Prop :=
  Pending texts before t.createdNodeIds t.state

/-- The parent of the spec is found. -/
def ParentFound (texts : Texts) (refusals : Nat → Refusals) (t : UpsertState) (spec : NodeSpec) :
    Prop :=
  ∃ c, nodeExists texts (refusals t.moment) spec.parentNodeId t.state.space = .ok (some c)

/-- One spec, in one pass. -/
theorem inPass_keepsAt {t : UpsertState} (hcanonical : Canonical texts spec.nodeId)
    (hparse : Canonical texts spec.parentNodeId)
    (hundoable : ParentFound texts refusals t spec →
      Undoable texts (refusals t.moment) before t.state spec) :
    Passes.KeepsAt (upsertInPass texts refusals) (InPass texts before)
      (fun t _ => InPass texts before t) t spec := by
  intro hpending
  rw [upsertInPass]
  cases hexists : nodeExists texts (refusals t.moment) spec.parentNodeId t.state.space with
  | error e =>
    refine ⟨by simp, fun t' e' h => ?_⟩
    cases h
    exact hpending
  | ok existing =>
    cases existing with
    | none =>
      refine ⟨fun t' h => ?_, fun t' e' h => by cases h⟩
      obtain h | h := h
      · cases h
      · cases h
        exact hpending
    | some c =>
      obtain ⟨parent, hparent, -⟩ := nodeExists_some hparse.owned hexists
      obtain ⟨hupdated, hcreated, hfailed⟩ :=
        Pending.upsertNode hpending hcanonical hparse hparent (hundoable ⟨c, hexists⟩)
      dsimp only
      cases hr : upsertNode texts (refusals t.moment) spec t.state with
      | error e s =>
        refine ⟨by simp, fun t' e' h => ?_⟩
        cases h
        exact hfailed e s hr
      | ok created s =>
        refine ⟨fun t' h => ?_, fun t' e' h => by cases h⟩
        obtain h | h := h
        · cases h
          cases created with
          | false => exact hupdated s hr
          | true => exact hcreated s hr
        · cases h

/-- **Nothing is left that is not taken back**: each spec that comes up with its parent there leaves
behind at most what the rollback undoes, and when the passes have failed no deletion is refused. -/
structure LeavesNoTrace (texts : Texts) (refusals : Nat → Refusals) (nodes : List Json)
    (before : ServerState) : Prop where
  undoable : ∀ specs, parseNodeSpecs texts 0 nodes = .ok specs → ∀ t spec,
    Passes.Met (upsertInPass texts refusals) (unresolvedMessage texts) { state := before } specs
      t spec →
    ParentFound texts refusals t spec → Undoable texts (refusals t.moment) before t.state spec
  deletable : ∀ specs, parseNodeSpecs texts 0 nodes = .ok specs → ∀ rounds left t e,
    runFor (Passes.round (upsertInPass texts refusals) (unresolvedMessage texts)) rounds
      ({ state := before }, specs) = some (left, .error (t, e)) →
    Deletable texts (refusals t.moment) t.createdNodeIds t.state

/-- **A failed upsert has no effect** if nothing is left that is not taken back: the nodes, their
attributes and references, and the table are those from before. -/
theorem upserts_leave_no_trace (htexts : ReadsBack texts) {server : UaServer}
    (hserver : RemovesBelow server) {rounds : Nat} {nodes : List Json} {e : String}
    {t : ServerState}
    (h : upsertNodes texts server refusals rounds nodes before = some (.error e t))
    (hnone : LeavesNoTrace texts refusals nodes before) : Same before t := by
  rw [OpcUa.upsertNodes] at h
  cases hparse : parseNodeSpecs texts 0 nodes with
  | error e' =>
    rw [hparse] at h
    cases h
    exact (Pending.start : Pending texts before [] before).same
  | ok specs =>
    rw [hparse] at h
    obtain ⟨⟨left, o⟩, hrun, hresult⟩ := Option.map_eq_some_iff.mp h
    obtain ⟨hends, -⟩ := runFor_iff.mp hrun
    have hcanonical := parseNodeSpecs_canonical htexts hparse
    have hkeeps := Passes.ends_keeps (F := fun t _ => InPass texts before t) hends
      (Pending.start : Pending texts before [] before)
      (fun t spec hmet => inPass_keepsAt (hcanonical spec hmet.mem).1 (hcanonical spec hmet.mem).2
        (hnone.undoable specs hparse t spec hmet))
      (fun t waiting ht => ht)
    cases o with
    | ok t' => cases hresult
    | error r =>
      obtain ⟨t', e'⟩ := r
      cases hresult
      exact rollback_same hserver (hkeeps.2 t' e rfl)
        (hnone.deletable specs hparse rounds _ t' e hrun)

section Plant

/-- The folder under another name. -/
def renamedPumpSpec : Json := .obj [
  ("browse_name", .str "Pump"), ("display_name", .str "Motor"), ("node_class", .str "folder"),
  ("node_id", .str "ns=1;i=1"), ("parent_node_id", .str "i=85")]

/-- A folder without a parent. -/
def orphanSpec : Json := .obj [
  ("browse_name", .str "Orphan"), ("node_class", .str "folder"), ("node_id", .str "ns=1;i=2"),
  ("parent_node_id", .str "ns=1;i=2")]

theorem plant_removesBelow : RemovesBelow plantServer := by
  constructor
  · intro space n
    exact decide_eq_true rfl
  · intro space n m hm
    rw [of_decide_eq_true hm]

theorem error_of_ending {α : Type} {r : Option (EStateM.Result String ServerState α)} {e : String}
    (h : ending r = some (some e)) : ∃ s, r = some (.error e s) := by
  cases r with
  | none => cases h
  | some r =>
    cases r with
    | ok a s => cases h
    | error e' s =>
      cases h
      exact ⟨s, rfl⟩

/-- The folder is created, and deleted again when its neighbour is not. -/
theorem orphan_leaves_no_trace : ∃ e t,
    upsertNodes plantTexts plantServer (fun _ _ _ _ => none) 4 [pumpSpec, orphanSpec]
      startedServer = some (.error e t) ∧ Same startedServer t := by
  have hparse : parseNodeSpecs plantTexts 0 [pumpSpec, orphanSpec] = .ok [
      ⟨"ns=1;i=1", "i=85", "folder", "Pump", "Pump", "", "", "", none⟩,
      ⟨"ns=1;i=2", "ns=1;i=2", "folder", "Orphan", "Orphan", "", "", "", none⟩] := by
    decide +kernel
  have hnew : ∀ spec ∈ [
      (⟨"ns=1;i=1", "i=85", "folder", "Pump", "Pump", "", "", "", none⟩ : NodeSpec),
      ⟨"ns=1;i=2", "ns=1;i=2", "folder", "Orphan", "Orphan", "", "", "", none⟩],
      startedServer.space (nodeOf plantTexts spec.nodeId) = none := by
    decide +kernel
  obtain ⟨t, ht⟩ := error_of_ending (e := unresolvedMessage plantTexts
      [⟨"ns=1;i=2", "ns=1;i=2", "folder", "Orphan", "Orphan", "", "", "", none⟩])
    (r := upsertNodes plantTexts plantServer (fun _ _ _ _ => none) 4 [pumpSpec, orphanSpec]
      startedServer) (by decide +kernel)
  refine ⟨_, t, ht, upserts_leave_no_trace plantTexts_readsBack plant_removesBelow ht
    ⟨?_, fun _ _ _ _ _ _ _ _ _ _ _ => rfl⟩⟩
  intro specs hspecs t spec hmet _
  rw [hparse] at hspecs
  cases hspecs
  constructor
  · intro node hnode
    rw [hnew spec hmet.mem] at hnode
    cases hnode
  · intro attributes parent _ _ _ _ _
    exact ⟨rfl, ⟨rfl, rfl⟩, rfl, fun _ _ _ => rfl, fun _ => rfl⟩

/-- The server with the folder. -/
def pumpServer : ServerState :=
  ((upsertNodes plantTexts plantServer (fun _ _ _ _ => none) 3 [pumpSpec] startedServer).map
    after).getD startedServer

/-- **A failed upsert that changes a node**, after one that created it. -/
theorem renamed_by_failed_upsert : ∃ results s e t,
    upsertNodes plantTexts plantServer (fun _ _ _ _ => none) 3 [pumpSpec] startedServer =
      some (.ok results s) ∧
    upsertNodes plantTexts plantServer (fun _ _ _ _ => none) 4 [renamedPumpSpec, orphanSpec] s =
      some (.error e t) ∧ ¬Same s t := by
  obtain ⟨results, s, hs⟩ := ok_of_ending
    (r := upsertNodes plantTexts plantServer (fun _ _ _ _ => none) 3 [pumpSpec] startedServer)
    (by decide +kernel)
  obtain rfl : pumpServer = s := by
    rw [pumpServer, hs]
    rfl
  obtain ⟨t, ht⟩ := error_of_ending (e := unresolvedMessage plantTexts
      [⟨"ns=1;i=2", "ns=1;i=2", "folder", "Orphan", "Orphan", "", "", "", none⟩])
    (r := upsertNodes plantTexts plantServer (fun _ _ _ _ => none) 4 [renamedPumpSpec, orphanSpec]
      pumpServer) (by decide +kernel)
  refine ⟨results, pumpServer, _, t, hs, ht, fun hsame => ?_⟩
  have hnamed : (upsertNodes plantTexts plantServer (fun _ _ _ _ => none) 4
      [renamedPumpSpec, orphanSpec] pumpServer).map
        (fun r => (after r).space.attributes pumpFolder) ≠
      some (pumpServer.space.attributes pumpFolder) := by
    decide +kernel
  rw [ht] at hnamed
  exact hnamed (congrArg some (hsame.attributes pumpFolder))

end Plant

end Failed

end Stdiolink.OpcUa
