/-
  Stdiolink.OpcUa.ToldWrites — the events of command writes, `opcua_server_runtime.cpp`.

  A batch of writes is made item by item, up to the first one that fails.  The server is asked for
  one thing after the other, and no write of a client comes between.

  Main results:
    * `writes_told` — the events of a batch are its writes, each with the value that was there.
-/
import Stdiolink.OpcUa.Rollback

namespace Stdiolink.OpcUa

open Stdiolink.Protocol
open Stdiolink.Protocol.Json

variable (texts : Texts) (server : UaServer) (strictType : Bool)

/-- **The writes between two states**, as events tell of them: each is made on a variable that may
be written, whose value before and after it is told, and changes nothing else but the entry. -/
inductive Told : ServerState → List ChangeEvent → ServerState → Prop where
  | nil (s : ServerState) : Told s [] s
  | cons {s s' : ServerState} {e : ChangeEvent} {es : List ChangeEvent} {n : NodeId} {node : Node}
      {variant : Variant} (hparse : parseNodeIdOwned texts e.nodeId = .ok n)
      (hnode : s.space n = some node) (hclass : node.attributes.nodeClass = .variable)
      (haccess : node.attributes.accessLevel &&& 2 ≠ 0)
      (hold : e.oldValue = variantToJson texts node.attributes.value)
      (hvalue : jsonToVariant texts (dataTypeNameFromNodeId texts server node.attributes.dataType)
        e.value strictType = .ok variant)
      (hmore : Told (s.put n e.nodeId node.references ({ node.attributes with value := variant },
        (s.nodeEntries e.nodeId).map fun entry => { entry with currentValue := e.value })) es s') :
      Told s (e :: es) s'

variable {texts server strictType} {eventMode : String} {refuses : Refusals} {key : String} {v : Json}
  {sourceTimestamp : String} {s s' : ServerState}

theorem ask_eq_ok {α : Type} {action : String} {call : Call} {f : Attributes → α} {r : α}
    (h : ask action (fun space => space.read refuses call f) s = .ok r s') :
    s' = s ∧ ∃ node, s.space call.nodeId = some node ∧ f node.attributes = r := by
  obtain ⟨hr, hs⟩ := given_eq_ok h
  refine ⟨hs, ?_⟩
  dsimp only [AddressSpace.read] at hr
  split at hr
  · cases hr
  · cases hr
  · cases hr
    exact ⟨_, by assumption, rfl⟩

/-- Nothing is written yet. -/
theorem keeps_prepareWrite :
    Keeps id (prepareWrite texts server refuses key v sourceTimestamp strictType) := by
  have hask {α : Type} (action : String) (answer : AddressSpace → Except Status α) :
      Keeps id (ask action answer) := fun s => Keeps.given _ s
  refine .bind (.given _) fun n => .bind (hask _ _) fun nodeClass => .ite (.throw _) ?_
  refine .bind (hask _ _) fun accessLevel => .ite (.throw _) (.bind (hask _ _) fun dataTypeId => ?_)
  refine .bind (.given _) fun variant => .bind (hask _ _) fun oldValue => ?_
  exact .ite (.pure _) (.throw _)

/-- What a write finds out before it is made. -/
theorem prepareWrite_ok {found : NodeId × Json × Variant × String}
    (h : prepareWrite texts server refuses key v sourceTimestamp strictType s = .ok found s') :
    s' = s ∧ parseNodeIdOwned texts key = .ok found.1 ∧ ∃ node, s.space found.1 = some node ∧
      node.attributes.nodeClass = .variable ∧ node.attributes.accessLevel &&& 2 ≠ 0 ∧
      found.2.1 = variantToJson texts node.attributes.value ∧
      jsonToVariant texts (dataTypeNameFromNodeId texts server node.attributes.dataType) v
        strictType = .ok found.2.2.1 := by
  rw [prepareWrite] at h
  obtain ⟨n, _, hgiven, h₁⟩ := bind_eq_ok h
  obtain ⟨hparse, rfl⟩ := given_eq_ok hgiven
  obtain ⟨_, _, hclass, h₂⟩ := bind_eq_ok h₁
  obtain ⟨rfl, node, hnode, rfl⟩ := ask_eq_ok hclass
  split at h₂
  · cases h₂
  rename_i hvariable
  obtain ⟨_, _, haccess, h₃⟩ := bind_eq_ok h₂
  obtain ⟨rfl, _, hnode₃, rfl⟩ := ask_eq_ok haccess
  cases hnode₃.symm.trans hnode
  split at h₃
  · cases h₃
  rename_i hwritable
  obtain ⟨_, _, htype, h₄⟩ := bind_eq_ok h₃
  obtain ⟨rfl, _, hnode₄, rfl⟩ := ask_eq_ok htype
  cases hnode₄.symm.trans hnode
  obtain ⟨variant, _, hread, h₅⟩ := bind_eq_ok h₄
  obtain ⟨hvalue, rfl⟩ := given_eq_ok hread
  obtain ⟨_, _, hold, h₆⟩ := bind_eq_ok h₅
  obtain ⟨rfl, _, hnode₆, rfl⟩ := ask_eq_ok hold
  cases hnode₆.symm.trans hnode
  split_ifs at h₆
  · obtain ⟨rfl, rfl⟩ := EStateM.Result.ok.inj h₆
    exact ⟨rfl, hparse, node, hnode, not_not.mp hvariable, hwritable, rfl, hvalue⟩
  · cases h₆

/-- One write is made and told, or the server stays as it is. -/
theorem writeSingleValue_cases :
    (∃ errorMessage, writeSingleValue texts server eventMode refuses key v sourceTimestamp strictType
      s = .error errorMessage s) ∨
    ∃ result e s', writeSingleValue texts server eventMode refuses key v sourceTimestamp strictType
      s = .ok (result, if isWriteEventMode eventMode then [e] else []) s' ∧
        (∀ es t, Told texts server strictType s' es t →
          Told texts server strictType s (e :: es) t) ∧
        (e.nodeId, e.value) = (key, v) := by
  rw [writeSingleValue, bind_apply]
  cases h : prepareWrite texts server refuses key v sourceTimestamp strictType s with
  | error errorMessage s' =>
    have hkeeps := @keeps_prepareWrite texts server strictType refuses key v sourceTimestamp s
    rw [h] at hkeeps
    obtain rfl : s' = s := hkeeps
    exact .inl ⟨errorMessage, rfl⟩
  | ok found s' =>
    obtain ⟨rfl, hparse, node, hnode, hclass, haccess, hold, hvalue⟩ := prepareWrite_ok h
    obtain ⟨n, old, variant, typeName⟩ := found
    dsimp only
    rw [bind_apply, perform, AddressSpace.write]
    cases s'.space.refusal refuses (.writeDataValue n variant) with
    | some status => exact .inl ⟨_, rfl⟩
    | none =>
      dsimp only [Call.nodeId]
      rw [hnode]
      refine .inr ⟨_, _, _, rfl, fun es t hmore => ?_, rfl⟩
      exact Told.cons hparse hnode hclass haccess hold hvalue hmore

/-- What an item asks for. -/
def writeItem (item : Json) : String × Json :=
  ((value item.toObject "node_id").toStr, value item.toObject "value")

variable (texts server strictType eventMode) in
/-- Writes of the first items, told of if events are on; of all items, unless something fails. -/
def WritesTold (s : ServerState) (items : List Json)
    (out : List ChangeEvent × EStateM.Result String ServerState (List Json)) : Prop :=
  ∃ told, out.1 = (if isWriteEventMode eventMode then told else []) ∧
    Told texts server strictType s told (after out.2) ∧
    (told.map fun e => (e.nodeId, e.value)) <+: items.map writeItem ∧
    ∀ results t, out.2 = .ok results t → told.length = items.length

/-- **Every event tells of a write, and every write is told of**, also where the batch fails. -/
theorem writes_told (refusals : Nat → Refusals) (items : List Json) (i : Nat) (s : ServerState) :
    WritesTold texts server strictType eventMode s items
      (writeValues texts server eventMode refusals strictType i items s) := by
  induction items generalizing i s with
  | nil => exact ⟨[], by simp [writeValues], .nil s, List.nil_prefix, fun _ _ _ => rfl⟩
  | cons item rest ih =>
    have hfailed : ∀ errorMessage, WritesTold texts server strictType eventMode s (item :: rest)
        ([], .error errorMessage s) := fun errorMessage =>
      ⟨[], by simp, .nil s, List.nil_prefix, fun results t h => by cases h⟩
    cases item with
    | obj object =>
      rw [writeValues]
      split_ifs
      · exact hfailed _
      · exact hfailed _
      rcases writeSingleValue_cases with ⟨errorMessage, h⟩ | ⟨result, e, s', h, htold, hitem⟩
      · rw [h]
        exact hfailed _
      obtain ⟨told, hevents, hwrites, hitems, hall⟩ := ih (i + 1) s'
      rw [h]
      dsimp only
      have hprefix := List.cons_prefix_cons.mpr ⟨hitem, hitems⟩
      -- the events of this item come before those of the others
      generalize writeValues texts server eventMode refusals strictType (i + 1) rest s' = out at *
      obtain ⟨more, r⟩ := out
      have htwo : (if isWriteEventMode eventMode then [e] else []) ++ more =
          if isWriteEventMode eventMode then e :: told else [] := by
        rw [show more = _ from hevents]
        split_ifs <;> rfl
      cases r with
      | error errorMessage t =>
        exact ⟨e :: told, htwo, htold _ _ hwrites, hprefix, fun results t' h => by cases h⟩
      | ok results t =>
        exact ⟨e :: told, htwo, htold _ _ hwrites, hprefix,
          fun _ _ _ => congrArg (· + 1) (hall _ _ rfl)⟩
    | _ => exact hfailed _

end Stdiolink.OpcUa
