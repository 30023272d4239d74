/-
  Stdiolink.Js.WaitAny — the bookkeeping of `WaitAnyScheduler`.

  Every promise is in one place at a time: among the pending ones, or among those settled.  The
  tasks of the pending groups are told apart by `addGroup`, and a poll only removes groups.  So a
  message that a poll takes can be meant for one group alone.

  Main results:
    • `balance_step`          — what one operation does to the places of the promises;
    • `apart_step`            — no operation mixes the tasks of two groups;
    • `wait_any_bookkeeping`  — along every run: groups apart, promises settled once, and every
                                message that a poll takes delivered to its group.
-/
import Stdiolink.Js.Schedulers
import Mathlib.Data.List.Perm.Basic

namespace Stdiolink.Js

open Stdiolink.Lib
open Stdiolink.Protocol
open Stdiolink.Host

namespace Schedulers

/-! ## §1. The places of a promise. -/

/-- The promises that are still to be settled. -/
def openPromises (s : Schedulers) : List Nat :=
  s.pendingTasks.map PendingTask.promise ++ s.pendingGroups.map PendingGroup.promise

/-- What an operation does to a promise: it stays where it is, or is settled, or is new. -/
structure Balance (s s' : Schedulers) (settled : List (Nat × Settlement)) : Prop where
  grows : s.promises ≤ s'.promises
  places : ∀ p, s'.openPromises.count p + (settled.map Prod.fst).count p =
    s.openPromises.count p + if s.promises ≤ p ∧ p < s'.promises then 1 else 0

theorem nulls_fst (promises : List Nat) : (nulls promises).map Prod.fst = promises := by
  unfold nulls
  rw [List.map_map]
  exact List.map_id promises

/-- A sweep moves promises from the pending ones to the others. -/
theorem count_sweep {α : Type*} (due : Nat → α → Bool) (xs : List α) (f : α → Nat) (p : Nat) :
    ((kept due xs).map f).count p + ((removed due xs).reverse.map f).count p =
      (xs.map f).count p := by
  have hsweep : (kept due xs ++ removed due xs).Perm xs := sweep_perm xs
  have hperm := (hsweep.map f).count_eq p
  rw [List.map_append, List.count_append] at hperm
  rw [List.map_reverse, List.count_reverse]
  exact hperm

/-- So does the removal of one element. -/
theorem count_eraseIdx {α : Type*} {xs : List α} {i : Nat} {x : α} (h : xs[i]? = some x)
    (f : α → Nat) (p : Nat) :
    ((xs.eraseIdx i).map f).count p + [f x].count p = (xs.map f).count p := by
  obtain ⟨hi, rfl⟩ := List.getElem?_eq_some_iff.mp h
  have hperm := ((List.getElem_cons_eraseIdx_perm hi).map f).count_eq p
  have hcons : (xs[i] :: xs.eraseIdx i).map f = [f xs[i]] ++ (xs.eraseIdx i).map f := rfl
  rw [← hperm, hcons, List.count_append, Nat.add_comm]

variable {s : Schedulers}

/-- No promise is made. -/
theorem Balance.of_count {s' : Schedulers} {settled : List (Nat × Settlement)}
    (hpromises : s'.promises = s.promises)
    (h : ∀ p, s'.openPromises.count p + (settled.map Prod.fst).count p = s.openPromises.count p) :
    Balance s s' settled := by
  constructor
  · exact Nat.le_of_eq hpromises.symm
  · intro p
    rw [h p, if_neg (by omega), Nat.add_zero]

theorem balance_onHost (a : Action HostState HostEvent) (s : Schedulers) :
    Balance s (onHost a s).1 (settlements (onHost a s).2) := by
  apply Balance.of_count
  · rfl
  · intro p
    show _ + ((settlements ((a s.host).2.map .host)).map Prod.fst).count p = _
    rw [settlements_host]
    rfl

/-- The one new promise. -/
theorem count_new (n p : Nat) : [n].count p = if n ≤ p ∧ p < n + 1 then 1 else 0 := by
  by_cases hp : p = n
  · rw [hp, if_pos ⟨Nat.le_refl n, Nat.lt_succ_self n⟩]
    exact List.count_singleton_self
  · rw [if_neg (by omega)]
    exact List.count_eq_zero.mpr fun hmem => hp (List.mem_singleton.mp hmem)

theorem balance_scheduleTask (k : Nat) (s : Schedulers) :
    Balance s (scheduleTask k s).1 (settlements (scheduleTask k s).2) := by
  constructor
  · exact Nat.le_succ _
  · intro p
    show ((s.pendingTasks ++ [PendingTask.mk k s.promises]).map PendingTask.promise ++
      s.pendingGroups.map PendingGroup.promise).count p + List.count p [] = _ +
        if s.promises ≤ p ∧ p < s.promises + 1 then 1 else 0
    have hnew : [PendingTask.mk k s.promises].map PendingTask.promise = [s.promises] := rfl
    unfold openPromises
    rw [← count_new, List.map_append, hnew, List.count_append, List.count_append,
      List.count_append, List.count_nil]
    omega

theorem balance_waitAny (tasks : List Nat) (timeoutMs : Int) (now : Nat) (s : Schedulers) :
    Balance s (waitAny tasks timeoutMs now s).1
      (settlements (waitAny tasks timeoutMs now s).2) := by
  obtain ⟨value, heq⟩ | ⟨-, heq⟩ := waitAny_cases tasks timeoutMs now s
  · rw [heq]
    constructor
    · exact Nat.le_succ _
    · intro p
      show s.openPromises.count p + [s.promises].count p = _ +
        if s.promises ≤ p ∧ p < s.promises + 1 then 1 else 0
      rw [← count_new]
  · rw [heq]
    constructor
    · exact Nat.le_succ _
    · intro p
      show (s.pendingTasks.map PendingTask.promise ++
        (s.pendingGroups ++ [PendingGroup.mk tasks timeoutMs now s.promises]).map
          PendingGroup.promise).count p + List.count p [] = _ +
        if s.promises ≤ p ∧ p < s.promises + 1 then 1 else 0
      have hnew : [PendingGroup.mk tasks timeoutMs now s.promises].map PendingGroup.promise =
        [s.promises] := rfl
      unfold openPromises
      rw [← count_new, List.map_append, hnew, List.count_append, List.count_append,
        List.count_append, List.count_nil]
      omega

theorem balance_pollTasks (qt : Qt) (during : List ProcessOp) (s : Schedulers) :
    Balance s (pollTasks qt during s).1 (settlements (pollTasks qt during s).2) := by
  obtain ⟨hpolled, hgroups, hpromises⟩ := pollTasks_cases qt during s
  apply Balance.of_count hpromises
  intro p
  unfold openPromises
  rw [hgroups, List.count_append, List.count_append]
  cases hpolled with
  | idle _ hleft hsettled =>
    have hsweep := count_sweep (finished (pollTasks qt during s).1.host) s.pendingTasks
      PendingTask.promise p
    rw [hleft, hsettled, nulls_fst]
    omega
  | served i item m hfound _ hleft hsettled =>
    rw [hleft, hsettled]
    by_cases hend : m.isTerminal = true
    · have herase := count_eraseIdx hfound PendingTask.promise p
      rw [if_pos hend, if_pos hend]
      show _ + _ + [item.promise].count p = _
      omega
    · rw [if_neg hend, if_neg hend]
      rfl

theorem balance_pollGroups (qt : Qt) (timeoutMs : Int) (clock : Nat → Nat)
    (during : List ProcessOp) (s : Schedulers) :
    Balance s (pollGroups qt timeoutMs clock during s).1
      (settlements (pollGroups qt timeoutMs clock during s).2) := by
  obtain ⟨settled, hsettlements, hserved, htasks, hpromises⟩ :=
    pollGroups_cases qt timeoutMs clock during s
  apply Balance.of_count hpromises
  intro p
  have hexpired := count_sweep (lapsed clock) s.pendingGroups PendingGroup.promise p
  rw [hsettlements, List.map_append, nulls_fst, List.count_append]
  unfold openPromises expiredPromises
  rw [htasks, List.count_append, List.count_append]
  cases hserved with
  | idle _ hleft hsettled =>
    have hsweep := count_sweep (groupDone (pollGroups qt timeoutMs clock during s).1.host)
      (unexpired clock s).pendingGroups PendingGroup.promise p
    have hkept : (unexpired clock s).pendingGroups = kept (lapsed clock) s.pendingGroups := rfl
    rw [hleft, hsettled, nulls_fst]
    rw [hkept] at hsweep ⊢
    omega
  | served i group k m hfound _ _ hleft hsettled =>
    have herase := count_eraseIdx hfound PendingGroup.promise p
    have hkept : (unexpired clock s).pendingGroups = kept (lapsed clock) s.pendingGroups := rfl
    rw [hleft, hsettled]
    rw [hkept] at herase ⊢
    show _ + _ + (_ + [group.promise].count p) = _
    omega

/-- **Where the promises are after an operation.** -/
theorem balance_step (qt : Qt) (op : SchedulerOp) (s : Schedulers) :
    Balance s (op.action qt s).1 (settlements (op.action qt s).2) := by
  cases op with
  | waitAny tasks timeoutMs now => exact balance_waitAny tasks timeoutMs now s
  | scheduleTask k => exact balance_scheduleTask k s
  | pollGroups timeoutMs clock during => exact balance_pollGroups qt timeoutMs clock during s
  | pollTasks during => exact balance_pollTasks qt during s
  | request d cmd data written m => exact balance_onHost _ s
  | tryNext k => exact balance_onHost _ s
  | waitNext k during => exact balance_onHost _ s
  | process op => exact balance_onHost _ s

/-! ## §2. The tasks of the groups. -/

/-- The pending groups have valid tasks, no task twice and none in common. -/
structure Apart (s : Schedulers) : Prop where
  valid : ∀ group ∈ s.pendingGroups, ∀ k ∈ group.tasks, k < s.host.created
  nodup : ∀ group ∈ s.pendingGroups, group.tasks.Nodup
  disjoint : s.pendingGroups.Pairwise fun group group' => ∀ k ∈ group.tasks, k ∉ group'.tasks

/-- Groups may be removed, and tasks made. -/
theorem Apart.of_sublist {s' : Schedulers} (h : Apart s)
    (hgroups : s'.pendingGroups.Sublist s.pendingGroups)
    (hcreated : s.host.created ≤ s'.host.created) : Apart s' where
  valid group hgroup k hk :=
    Nat.lt_of_lt_of_le (h.valid group (hgroups.subset hgroup) k hk) hcreated
  nodup group hgroup := h.nodup group (hgroups.subset hgroup)
  disjoint := h.disjoint.sublist hgroups

/-- What a list of tasks that is not refused is like. -/
theorem tasksError_none {host : HostState} {seen ks : List Nat}
    (h : tasksError host seen ks = none) :
    (∀ k ∈ ks, k < host.created) ∧ ks.Nodup ∧ ∀ k ∈ ks, k ∉ seen := by
  induction ks generalizing seen with
  | nil => simp
  | cons k ks ih =>
    unfold tasksError at h
    split at h
    · cases h
    · rename_i hvalid
      split at h
      · cases h
      · rename_i hnew
        obtain ⟨hks, hnodup, hseen⟩ := ih h
        have hk : k < host.created := by
          unfold HostState.isValid at hvalid
          simpa using hvalid
        refine ⟨?_, List.nodup_cons.mpr ⟨?_, hnodup⟩, ?_⟩
        · intro j hj
          obtain rfl | hj := List.mem_cons.mp hj
          · exact hk
          · exact hks j hj
        · intro hmem
          exact hseen k hmem (by simp)
        · intro j hj
          obtain rfl | hj := List.mem_cons.mp hj
          · exact hnew
          · intro hmem
            exact hseen j hj (List.mem_cons_of_mem k hmem)

theorem apart_waitAny (h : Apart s) (tasks : List Nat) (timeoutMs : Int) (now : Nat) :
    Apart (waitAny tasks timeoutMs now s).1 := by
  obtain ⟨value, heq⟩ | ⟨herror, heq⟩ := waitAny_cases tasks timeoutMs now s
  · rw [heq]
    exact ⟨h.valid, h.nodup, h.disjoint⟩
  · rw [heq]
    unfold groupError at herror
    split at herror
    · cases herror
    · rename_i htasks
      obtain ⟨hvalid, hnodup, -⟩ := tasksError_none htasks
      split at herror
      · cases herror
      · rename_i hconflict
        constructor
        · intro group hgroup
          obtain hgroup | hgroup := List.mem_append.mp hgroup
          · exact h.valid group hgroup
          · rw [List.mem_singleton.mp hgroup]
            exact hvalid
        · intro group hgroup
          obtain hgroup | hgroup := List.mem_append.mp hgroup
          · exact h.nodup group hgroup
          · rw [List.mem_singleton.mp hgroup]
            exact hnodup
        · show (s.pendingGroups ++ [_]).Pairwise _
          rw [List.pairwise_append]
          refine ⟨h.disjoint, List.pairwise_singleton _ _, ?_⟩
          intro group hgroup group' hgroup' k hk hk'
          rw [List.mem_singleton.mp hgroup'] at hk'
          -- the conflict test has looked at this task
          apply hconflict
          rw [List.any_eq_true]
          refine ⟨group, hgroup, ?_⟩
          rw [List.any_eq_true]
          exact ⟨k, hk, decide_eq_true hk'⟩

theorem groups_pollGroups (qt : Qt) (timeoutMs : Int) (clock : Nat → Nat)
    (during : List ProcessOp) (s : Schedulers) :
    (pollGroups qt timeoutMs clock during s).1.pendingGroups.Sublist s.pendingGroups := by
  have hkept : (unexpired clock s).pendingGroups.Sublist s.pendingGroups := kept_sublist _
  obtain ⟨settled, -, hserved, -⟩ := pollGroups_cases qt timeoutMs clock during s
  cases hserved with
  | idle _ hleft _ =>
    rw [hleft]
    exact (kept_sublist _).trans hkept
  | served i group k m _ _ _ hleft _ =>
    rw [hleft]
    exact (List.eraseIdx_sublist ..).trans hkept

/-- **No operation mixes the tasks of two groups.** -/
theorem apart_step (qt : Qt) (h : Apart s) (op : SchedulerOp) : Apart (op.action qt s).1 := by
  have hcreated := created_step qt op s
  cases op with
  | waitAny tasks timeoutMs now => exact apart_waitAny h tasks timeoutMs now
  | scheduleTask k => exact h.of_sublist (List.Sublist.refl _) hcreated
  | pollGroups timeoutMs clock during =>
    exact h.of_sublist (groups_pollGroups qt timeoutMs clock during s) hcreated
  | pollTasks during =>
    obtain ⟨-, hgroups, -⟩ := pollTasks_cases qt during s
    refine h.of_sublist ?_ hcreated
    show (pollTasks qt during s).1.pendingGroups.Sublist _
    rw [hgroups]
  | request d cmd data written m => exact h.of_sublist (List.Sublist.refl _) hcreated
  | tryNext k => exact h.of_sublist (List.Sublist.refl _) hcreated
  | waitNext k during => exact h.of_sublist (List.Sublist.refl _) hcreated
  | process op => exact h.of_sublist (List.Sublist.refl _) hcreated

end Schedulers

/-! ## §3. Every run. -/

open Schedulers

/-- **The property of a state.**  No task is in two pending groups, or twice in one, and no
promise was settled twice. -/
structure Bookkept (c : Machine.Config Schedulers JsEvent) : Prop where
  nodup : ∀ group ∈ c.state.pendingGroups, group.tasks.Nodup
  disjoint : c.state.pendingGroups.Pairwise
    fun group group' => ∀ k ∈ group.tasks, k ∉ group'.tasks
  once : ((settlements c.history).map Prod.fst).Nodup

/-- A poll has taken the message `m` of the task `k`: it settles the one pending group with this
task, and the messages of all other pending tasks stay where they are. -/
structure Delivered (s s' : Schedulers) (clock : Nat → Nat) (events : List JsEvent) (k : Nat)
    (m : Message) (i : Nat) (group : PendingGroup) : Prop where
  found : (unexpired clock s).pendingGroups[i]? = some group
  mem : k ∈ group.tasks
  only : ∀ group' ∈ s.pendingGroups, k ∈ group'.tasks → group' = group
  alone : takes (hostEvents events) = [(k, m)]
  settled : settlements events =
    nulls (expiredPromises clock s) ++ [(group.promise, .item (group.tasks.idxOf k) m)]
  left : s'.pendingGroups = (unexpired clock s).pendingGroups.eraseIdx i
  first : (s.host.tasks k).queue <+: m :: (s'.host.tasks k).queue
  queued : ∀ group' ∈ s.pendingGroups, ∀ j ∈ group'.tasks, j ≠ k →
    (s.host.tasks j).queue <+: (s'.host.tasks j).queue

/-- **The property of a step.**  What a poll of the groups takes is delivered. -/
def Delivers (qt : Qt) (c : Machine.Config Schedulers JsEvent) (op : SchedulerOp) : Prop :=
  ∀ timeoutMs clock during, op = .pollGroups timeoutMs clock during →
    ∀ k m, (k, m) ∈ takes (hostEvents (op.action qt c.state).2) →
      ∃ i group, Delivered c.state (op.action qt c.state).1 clock (op.action qt c.state).2 k m i
        group

/-- **The invariant.**  Groups apart, and every promise in one place. -/
structure Placed (c : Machine.Config Schedulers JsEvent) : Prop where
  apart : Apart c.state
  places : ∀ p, c.state.openPromises.count p + ((settlements c.history).map Prod.fst).count p =
    if p < c.state.promises then 1 else 0

theorem Placed.bookkept {c : Machine.Config Schedulers JsEvent} (h : Placed c) : Bookkept c where
  nodup := h.apart.nodup
  disjoint := h.apart.disjoint
  once := by
    rw [List.nodup_iff_count_le_one]
    intro p
    have hplaces := h.places p
    split at hplaces
    · omega
    · omega

theorem Placed.step (qt : Qt) {c : Machine.Config Schedulers JsEvent} (h : Placed c)
    (op : SchedulerOp) : Placed ((schedulerMachine qt).next c op) := by
  constructor
  · exact apart_step qt h.apart op
  · intro p
    show (op.action qt c.state).1.openPromises.count p +
      ((settlements (c.history ++ (op.action qt c.state).2)).map Prod.fst).count p =
        if p < (op.action qt c.state).1.promises then 1 else 0
    obtain ⟨hgrows, hbalance⟩ := balance_step qt op c.state
    have hplaces := h.places p
    have hmoved := hbalance p
    rw [settlements_append, List.map_append, List.count_append]
    split_ifs at hplaces hmoved ⊢ <;> omega

theorem placed_start (host : HostState) : Placed (Machine.start { host := host }) := by
  constructor
  · constructor
    · intro group hgroup
      cases hgroup
    · intro group hgroup
      cases hgroup
    · exact List.Pairwise.nil
  · intro p
    rfl

/-- A task leads to one pending group. -/
theorem Schedulers.Apart.unique {s : Schedulers} (h : Apart s) {group group' : PendingGroup}
    (hgroup : group ∈ s.pendingGroups) (hgroup' : group' ∈ s.pendingGroups) {k : Nat}
    (hk : k ∈ group.tasks) (hk' : k ∈ group'.tasks) : group' = group := by
  by_contra hne
  have hsymm : Std.Symm fun group group' : PendingGroup =>
      ∀ k ∈ group.tasks, k ∉ group'.tasks := ⟨fun _ _ hab k hkb hka => hab k hka hkb⟩
  exact h.disjoint.forall hgroup hgroup' (Ne.symm hne) k hk hk'

theorem Placed.delivers (qt : Qt) {c : Machine.Config Schedulers JsEvent} (h : Placed c)
    (op : SchedulerOp) : Delivers qt c op := by
  intro timeoutMs clock during hop k m htaken
  subst hop
  obtain ⟨settled, hsettlements, hserved, -⟩ := pollGroups_cases qt timeoutMs clock during c.state
  have hkept : (unexpired clock c.state).pendingGroups.Sublist c.state.pendingGroups :=
    kept_sublist _
  cases hserved with
  | idle hquiet _ _ =>
    -- nothing was taken
    have hnone : takes (hostEvents (pollGroups qt timeoutMs clock during c.state).2) = [] :=
      hquiet.taken
    have htaken : (k, m) ∈ takes (hostEvents (pollGroups qt timeoutMs clock during c.state).2) :=
      htaken
    rw [hnone] at htaken
    cases htaken
  | served i group k' m' hfound hmem htook hleft hsettled =>
    have hone : takes (hostEvents (pollGroups qt timeoutMs clock during c.state).2) = [(k', m')] :=
      htook.taken
    have htaken : (k, m) ∈ takes (hostEvents (pollGroups qt timeoutMs clock during c.state).2) :=
      htaken
    rw [hone] at htaken
    obtain ⟨rfl, rfl⟩ := Prod.mk.inj (List.mem_singleton.mp htaken)
    have hgroup : group ∈ c.state.pendingGroups := hkept.subset (List.mem_of_getElem? hfound)
    refine ⟨i, group, hfound, hmem, ?_, hone, ?_, hleft, ?_, ?_⟩
    · intro group' hgroup' hk'
      exact h.apart.unique hgroup hgroup' hmem hk'
    · show settlements (pollGroups qt timeoutMs clock during c.state).2 = _
      rw [hsettlements, hsettled]
    · have hqueue := htook.queues k (h.apart.valid group hgroup k hmem)
      rw [if_pos rfl] at hqueue
      exact hqueue
    · intro group' hgroup' j hj hjk
      have hqueue := htook.queues j (h.apart.valid group' hgroup' j hj)
      rw [if_neg hjk] at hqueue
      exact hqueue

/-- **The bookkeeping of `WaitAnyScheduler`**, along every run of calls, polls and whatever the
script and the processes do in between. -/
theorem wait_any_bookkeeping (qt : Qt) (host : HostState) (ops : List SchedulerOp) :
    (schedulerMachine qt).EveryState Bookkept (Machine.start { host := host }) ops ∧
      (schedulerMachine qt).EveryStep (Delivers qt) (Machine.start { host := host }) ops := by
  have hany : (schedulerMachine qt).EveryStep (fun _ _ => True) (Machine.start { host := host })
      ops := by
    rw [Machine.everyStep_iff]
    intro pre op post _
    trivial
  constructor
  · exact Machine.everyState_of_invariant Placed (fun c op h _ => h.step qt op)
      (fun c h => h.bookkept) (placed_start host) hany
  · exact Machine.everyStep_of_invariant Placed (fun c op h _ => h.step qt op)
      (fun c op h _ => h.delivers qt op) (placed_start host) hany

end Stdiolink.Js
