/-
  Stdiolink.Js.CommandTasks — what the schedulers hold of one task.

  The task of a command has at most one entry: a pending task, or a group that waits for it alone.
  Only a poll takes messages of it, and then the entry is settled with what was taken.

  Main results:
    • `untouched_step`               — an operation that neither polls nor names a task leaves it
                                       alone;
    • `pollTasks_own`, `pollGroups_own` — what a poll does to the entry of a task;
    • `Sound.step`                   — the invariants of the schedulers and their host together.
-/
import Stdiolink.Js.DriverProxy
import Stdiolink.Js.WaitAny

namespace Stdiolink.Js

open Stdiolink.Lib
open Stdiolink.Protocol
open Stdiolink.Host

/-! ## §1. What the schedulers hold of a task. -/

/-- The messages taken of a task so far. -/
def takenOf (k : Nat) (h : List JsEvent) : List Message := returns k (hostEvents h)

theorem takenOf_append (k : Nat) (h h' : List JsEvent) :
    takenOf k (h ++ h') = takenOf k h ++ takenOf k h' := by
  unfold takenOf
  rw [hostEvents_append, returns_append]

/-- An operation that polls a scheduler. -/
def SchedulerOp.polls : SchedulerOp → Bool
  | .pollGroups _ _ _ => true
  | .pollTasks _ => true
  | _ => false

namespace Schedulers

/-- The entries of a task. -/
def tasksOf (s : Schedulers) (k : Nat) : List PendingTask :=
  s.pendingTasks.filter fun item => item.task = k

/-- The groups that wait for a task. -/
def groupsOf (s : Schedulers) (k : Nat) : List PendingGroup :=
  s.pendingGroups.filter fun group => k ∈ group.tasks

variable {s : Schedulers} {events : List JsEvent} {k : Nat}

/-- What an operation takes of a task that it does not touch. -/
theorem takenOf_quiet {s s' : HostState} (h : HostState.Quiet [] s (hostEvents events) s') (k : Nat) :
    takenOf k events = [] := by
  have htaken : takes (hostEvents events) = [] := h.taken
  unfold takenOf returns
  rw [htaken]
  rfl

theorem takenOf_took {s s' : HostState} {k' : Nat} {m : Message}
    (h : HostState.TookMessage k' m [] s (hostEvents events) s') (k : Nat) :
    takenOf k events = if k' = k then [m] else [] := by
  have htaken : takes (hostEvents events) = [(k', m)] := h.taken
  unfold takenOf returns
  rw [htaken]
  by_cases hk : k' = k <;> simp [hk]

/-- An operation has left everything about a task as it was. -/
structure Untouched (k : Nat) (s s' : Schedulers) (events : List JsEvent) : Prop where
  tasks : s'.tasksOf k = s.tasksOf k
  groups : s'.groupsOf k = s.groupsOf k
  taken : takenOf k events = []

variable (qt : Qt) (timeoutMs : Int) (during : List ProcessOp) (clock : Nat → Nat)

theorem takenOf_step (op : SchedulerOp) (s : Schedulers) (hk : k ∉ op.touches s) :
    takenOf k (op.action qt s).2 = [] := by
  obtain hquiet | ⟨k', m, hk', htook⟩ := tookOne_step qt op s
  · exact takenOf_quiet hquiet k
  · rw [takenOf_took htook, if_neg]
    intro heq
    exact hk (heq ▸ hk')

theorem groupsOf_waitAny {tasks : List Nat} (now : Nat) (s : Schedulers) (hk : k ∉ tasks) :
    (waitAny tasks timeoutMs now s).1.groupsOf k = s.groupsOf k := by
  obtain ⟨value, heq⟩ | ⟨-, heq⟩ := waitAny_cases tasks timeoutMs now s
  · rw [heq]
    rfl
  · rw [heq]
    show (s.pendingGroups ++ [_]).filter _ = _
    rw [List.filter_append, List.filter_cons_of_neg (by simpa using hk), List.filter_nil,
      List.append_nil]
    rfl

theorem pendingTasks_waitAny (tasks : List Nat) (timeoutMs : Int) (now : Nat) (s : Schedulers) :
    (waitAny tasks timeoutMs now s).1.pendingTasks = s.pendingTasks := by
  obtain ⟨value, heq⟩ | ⟨-, heq⟩ := waitAny_cases tasks timeoutMs now s
  · rw [heq]
  · rw [heq]

/-- A call makes a promise, and leaves the host as it is. -/
theorem waitAny_makes (tasks : List Nat) (timeoutMs : Int) (now : Nat) (s : Schedulers) :
    (waitAny tasks timeoutMs now s).1.promises = s.promises + 1 ∧
      (waitAny tasks timeoutMs now s).1.host = s.host := by
  obtain ⟨value, heq⟩ | ⟨-, heq⟩ := waitAny_cases tasks timeoutMs now s
  · rw [heq]
    exact ⟨rfl, rfl⟩
  · rw [heq]
    exact ⟨rfl, rfl⟩

/-- A task of the scheduler is one of the entries of its task. -/
theorem mem_tasksOf {item : PendingTask} (h : item ∈ s.pendingTasks) : item ∈ s.tasksOf item.task :=
  List.mem_filter.mpr ⟨h, decide_eq_true rfl⟩

theorem mem_groupsOf {group : PendingGroup} (h : group ∈ s.pendingGroups) (hk : k ∈ group.tasks) :
    group ∈ s.groupsOf k :=
  List.mem_filter.mpr ⟨h, decide_eq_true hk⟩

theorem groupsOf_pollTasks (s : Schedulers) (k : Nat) :
    (pollTasks qt during s).1.groupsOf k = s.groupsOf k := by
  obtain ⟨-, hgroups, -⟩ := pollTasks_cases qt during s
  unfold groupsOf
  rw [hgroups]

theorem tasksOf_pollGroups (during : List ProcessOp) (s : Schedulers) (k : Nat) :
    (pollGroups qt timeoutMs clock during s).1.tasksOf k = s.tasksOf k := by
  obtain ⟨settled, -, -, htasks, -⟩ := pollGroups_cases qt timeoutMs clock during s
  unfold tasksOf
  rw [htasks]

theorem tasks_pollTasks (s : Schedulers) :
    (pollTasks qt during s).1.pendingTasks.Sublist s.pendingTasks := by
  obtain ⟨hpolled, -⟩ := pollTasks_cases qt during s
  cases hpolled with
  | idle _ hleft _ =>
    rw [hleft]
    exact kept_sublist _
  | served i item m _ _ hleft _ =>
    rw [hleft]
    split
    · exact List.eraseIdx_sublist ..
    · exact List.Sublist.refl _

/-- A poll of the tasks, for a task that is not among them. -/
theorem untouched_pollTasks (hk : s.tasksOf k = []) :
    Untouched k s (pollTasks qt during s).1 (pollTasks qt during s).2 := by
  have hnot : k ∉ s.pendingTasks.map PendingTask.task := by
    intro hmem
    obtain ⟨item, hitem, heq⟩ := List.mem_map.mp hmem
    have hin := mem_tasksOf hitem
    rw [heq, hk] at hin
    cases hin
  constructor
  · have hfilter := (tasks_pollTasks qt during s).filter fun item => decide (item.task = k)
    rw [hk]
    unfold tasksOf at hk
    rw [hk] at hfilter
    exact List.eq_nil_of_sublist_nil hfilter
  · exact groupsOf_pollTasks qt during s k
  · exact takenOf_step qt (.pollTasks during) s hnot

/-- A poll of the groups, for a task that is in none. -/
theorem untouched_pollGroups (during : List ProcessOp) (hk : s.groupsOf k = []) :
    Untouched k s (pollGroups qt timeoutMs clock during s).1
      (pollGroups qt timeoutMs clock during s).2 := by
  have hnot : k ∉ s.pendingGroups.flatMap PendingGroup.tasks := by
    intro hmem
    obtain ⟨group, hgroup, hin⟩ := List.mem_flatMap.mp hmem
    have hof := mem_groupsOf hgroup hin
    rw [hk] at hof
    cases hof
  constructor
  · exact tasksOf_pollGroups qt timeoutMs clock during s k
  · have hfilter := (groups_pollGroups qt timeoutMs clock during s).filter
      fun group => decide (k ∈ group.tasks)
    rw [hk]
    unfold groupsOf at hk
    rw [hk] at hfilter
    exact List.eq_nil_of_sublist_nil hfilter
  · exact takenOf_step qt (.pollGroups timeoutMs clock during) s hnot

/-- **An operation that neither polls nor names a task** leaves it alone. -/
theorem untouched_step (op : SchedulerOp) (s : Schedulers) (hpoll : op.polls = false)
    (hk : k ∉ op.names) :
    Untouched k s (op.action qt s).1 (op.action qt s).2 := by
  have htaken : ∀ hnot : k ∉ op.touches s, takenOf k (op.action qt s).2 = [] :=
    fun hnot => takenOf_step qt op s hnot
  cases op with
  | waitAny tasks timeoutMs now =>
    constructor
    · show (waitAny tasks timeoutMs now s).1.tasksOf k = _
      unfold tasksOf
      rw [pendingTasks_waitAny]
    · exact groupsOf_waitAny timeoutMs now s hk
    · exact htaken List.not_mem_nil
  | scheduleTask k' =>
    constructor
    · show (s.pendingTasks ++ [_]).filter _ = _
      have hne : k' ≠ k := fun heq => hk (List.mem_singleton.mpr heq.symm)
      rw [List.filter_append, List.filter_cons_of_neg (by simpa using hne), List.filter_nil,
        List.append_nil]
      rfl
    · rfl
    · exact htaken List.not_mem_nil
  | pollGroups timeoutMs clock during => cases hpoll
  | pollTasks during => cases hpoll
  | request d cmd data written m => exact ⟨rfl, rfl, htaken List.not_mem_nil⟩
  | tryNext k' => exact ⟨rfl, rfl, htaken hk⟩
  | waitNext k' during => exact ⟨rfl, rfl, htaken hk⟩
  | process op => exact ⟨rfl, rfl, htaken List.not_mem_nil⟩

/-! ## §2. A poll, for a task with an entry. -/

/-- What a poll of the tasks did for a task with the promise `p`: it took at most an event, or the
message that ends the task. -/
inductive TaskPolled (k p : Nat) (s s' : Schedulers) (events : List JsEvent) : Prop where
  | waits (tasks : s'.tasksOf k = s.tasksOf k)
      (taken : ∀ m ∈ takenOf k events, m.isTerminal = false)
  | ended (m : Message) (terminal : m.isTerminal = true) (tasks : s'.tasksOf k = [])
      (taken : takenOf k events = [m]) (job : (p, .message m) ∈ settlements events)

/-- **A poll of the tasks**, for a task that is not done where nothing was taken of it. -/
theorem pollTasks_own {p : Nat} (htasks : s.tasksOf k = [⟨k, p⟩])
    (hopen : takenOf k (pollTasks qt during s).2 = [] →
      (pollTasks qt during s).1.host.isDone k = false) :
    TaskPolled k p s (pollTasks qt during s).1 (pollTasks qt during s).2 := by
  obtain ⟨hpolled, -, -⟩ := pollTasks_cases qt during s
  cases hpolled with
  | idle hquiet hleft hsettled =>
    have htaken := takenOf_quiet hquiet k
    apply TaskPolled.waits
    · unfold tasksOf
      rw [hleft]
      apply filter_kept
      intro i item _ hitem
      -- the loop leaves out a task that is not done
      show isFinished (pollTasks qt during s).1.host item = false
      unfold isFinished
      rw [of_decide_eq_true hitem, hopen htaken]
      rfl
    · rw [htaken]
      intro m hm
      cases hm
  | served i item m hfound htook hleft hsettled =>
    have htaken := takenOf_took htook k
    by_cases hk : item.task = k
    · rw [if_pos hk] at htaken
      by_cases hend : m.isTerminal = true
      · rw [if_pos hend] at hleft hsettled
        obtain ⟨hnone, hitem⟩ := filter_eraseIdx_single
          (P := fun item : PendingTask => decide (item.task = k)) htasks hfound
          (decide_eq_true hk)
        apply TaskPolled.ended m hend
        · unfold tasksOf
          rw [hleft]
          exact hnone
        · exact htaken
        · rw [hsettled, hitem]
          exact List.mem_singleton_self _
      · rw [if_neg hend] at hleft
        apply TaskPolled.waits
        · unfold tasksOf
          rw [hleft]
        · rw [htaken]
          intro m' hm'
          rw [List.mem_singleton.mp hm']
          exact Bool.eq_false_iff.mpr hend
    · rw [if_neg hk] at htaken
      apply TaskPolled.waits
      · unfold tasksOf
        rw [hleft]
        split
        · exact filter_eraseIdx hfound (decide_eq_false hk)
        · rfl
      · rw [htaken]
        intro m' hm'
        cases hm'

/-- A poll finds that a group that waits for the task has expired. -/
def lapses (s : Schedulers) (clock : Nat → Nat) (k : Nat) : Bool :=
  s.pendingGroups.zipIdx.any fun (group, i) => k ∈ group.tasks && lapsed clock i group

theorem lapses_iff {clock : Nat → Nat} :
    s.lapses clock k = true ↔
      ∃ i group, s.pendingGroups[i]? = some group ∧ k ∈ group.tasks ∧
        lapsed clock i group = true := by
  unfold lapses
  simp only [List.any_eq_true, Prod.exists, List.mem_zipIdx_iff_getElem?, Bool.and_eq_true,
    decide_eq_true_eq]
  constructor
  · intro h
    obtain ⟨group, i, hfound, hk, hlapsed⟩ := h
    exact ⟨i, group, hfound, hk, hlapsed⟩
  · intro h
    obtain ⟨i, group, hfound, hk, hlapsed⟩ := h
    exact ⟨group, i, hfound, hk, hlapsed⟩

/-- Without a group, none expires. -/
theorem lapses_none (h : s.groupsOf k = []) (clock : Nat → Nat) : s.lapses clock k = false := by
  rw [Bool.eq_false_iff]
  intro hlapses
  obtain ⟨i, group, hfound, hk, -⟩ := lapses_iff.mp hlapses
  have hof := mem_groupsOf (List.mem_of_getElem? hfound) hk
  rw [h] at hof
  cases hof

/-- What a poll of the groups did for a task with a group of its own: nothing, or it took a
message. -/
inductive GroupPolled (k p : Nat) (s s' : Schedulers) (events : List JsEvent) : Prop where
  | waits (groups : s'.groupsOf k = s.groupsOf k) (taken : takenOf k events = [])
  | served (m : Message) (groups : s'.groupsOf k = []) (taken : takenOf k events = [m])
      (job : (p, .item 0 m) ∈ settlements events)
section OwnGroup

variable (qt : Qt) (timeoutMs : Int) (clock : Nat → Nat) (during : List ProcessOp)
variable {s : Schedulers} {k p : Nat} {waitMs : Int} {started : Nat}
variable (hgroups : s.groupsOf k = [⟨[k], waitMs, started, p⟩])

include hgroups in
/-- **A poll that finds the group expired** gives up the wait. -/
theorem pollGroups_late (hlate : s.lapses clock k = true) :
    (pollGroups qt timeoutMs clock during s).1.groupsOf k = [] ∧
      takenOf k (pollGroups qt timeoutMs clock during s).2 = [] ∧
      (p, .null) ∈ settlements (pollGroups qt timeoutMs clock during s).2 := by
  obtain ⟨i, group, hfound, hk, hlapsed⟩ := lapses_iff.mp hlate
  obtain ⟨hunexpired, hgroup⟩ : (unexpired clock s).groupsOf k = [] ∧
      group = ⟨[k], waitMs, started, p⟩ :=
    filter_kept_single hgroups hfound (decide_eq_true hk) hlapsed
  obtain ⟨settled, hsettlements, hserved, -, -⟩ := pollGroups_cases qt timeoutMs clock during s
  have hjob : (p, .null) ∈ settlements (pollGroups qt timeoutMs clock during s).2 := by
    rw [hsettlements]
    apply List.mem_append_left
    unfold nulls expiredPromises
    apply List.mem_map.mpr
    refine ⟨p, List.mem_map.mpr ⟨group, ?_, by rw [hgroup]⟩, rfl⟩
    exact List.mem_reverse.mpr (mem_removed.mpr ⟨i, hfound, hlapsed⟩)
  cases hserved with
  | idle hquiet hleft _ =>
    refine ⟨?_, takenOf_quiet hquiet k, hjob⟩
    have hkept : (pollGroups qt timeoutMs clock during s).1.pendingGroups.Sublist
        (unexpired clock s).pendingGroups := by
      rw [hleft]
      exact kept_sublist _
    have hsub := hkept.filter fun group => decide (k ∈ group.tasks)
    unfold groupsOf at hunexpired
    rw [hunexpired] at hsub
    exact List.eq_nil_of_sublist_nil hsub
  | served i' group' k' m hfound' hmem htook hleft _ =>
    -- what is served is another group
    have hnot : k ∉ group'.tasks := by
      intro hin
      have hof := mem_groupsOf (List.mem_of_getElem? hfound') hin
      rw [hunexpired] at hof
      cases hof
    have hne : k' ≠ k := fun heq => hnot (heq ▸ hmem)
    refine ⟨?_, ?_, hjob⟩
    · unfold groupsOf
      rw [hleft, filter_eraseIdx hfound' (decide_eq_false hnot)]
      exact hunexpired
    · rw [takenOf_took htook, if_neg hne]

include hgroups in
/-- **A poll in time** takes a message of the task, or leaves its group as it is. -/
theorem pollGroups_own (hlate : s.lapses clock k = false)
    (hvalid : (pollGroups qt timeoutMs clock during s).1.host.isValid k = true)
    (hopen : takenOf k (pollGroups qt timeoutMs clock during s).2 = [] →
      (pollGroups qt timeoutMs clock during s).1.host.isDone k = false) :
    GroupPolled k p s (pollGroups qt timeoutMs clock during s).1
      (pollGroups qt timeoutMs clock during s).2 := by
  have hunexpired : (unexpired clock s).groupsOf k = [⟨[k], waitMs, started, p⟩] := by
    rw [← hgroups]
    apply filter_kept
    intro i group hfound hk
    rw [Bool.eq_false_iff]
    intro hlapsed
    have hlapses := lapses_iff.mpr ⟨i, group, hfound, of_decide_eq_true hk, hlapsed⟩
    rw [hlate] at hlapses
    cases hlapses
  obtain ⟨settled, hsettlements, hserved, -, -⟩ := pollGroups_cases qt timeoutMs clock during s
  cases hserved with
  | idle hquiet hleft _ =>
    have htaken := takenOf_quiet hquiet k
    refine .waits ?_ htaken
    rw [hgroups, ← hunexpired]
    unfold groupsOf
    rw [hleft]
    apply filter_kept
    intro i group hfound hk
    -- a group with a task that is not done is left out
    show allDone (pollGroups qt timeoutMs clock during s).1.host group = false
    unfold allDone
    rw [List.all_eq_false]
    refine ⟨k, of_decide_eq_true hk, ?_⟩
    rw [hvalid, hopen htaken]
    simp
  | served i group k' m hfound hmem htook hleft hsettled =>
    have htaken := takenOf_took htook k
    by_cases hin : k ∈ group.tasks
    · obtain ⟨hnone, hgroup⟩ := filter_eraseIdx_single
        (P := fun group : PendingGroup => decide (k ∈ group.tasks)) hunexpired hfound
        (decide_eq_true hin)
      subst hgroup
      -- the group waits for this task alone
      obtain rfl := List.mem_singleton.mp hmem
      rw [if_pos rfl] at htaken
      refine .served m ?_ htaken ?_
      · unfold groupsOf
        rw [hleft]
        exact hnone
      · rw [hsettlements, hsettled, List.idxOf_cons_self]
        exact List.mem_append_right _ (List.mem_singleton_self _)
    · have hne : k' ≠ k := fun heq => hin (heq ▸ hmem)
      rw [if_neg hne] at htaken
      refine .waits ?_ htaken
      rw [hgroups, ← hunexpired]
      unfold groupsOf
      rw [hleft]
      exact filter_eraseIdx hfound (decide_eq_false hin)

end OwnGroup

/-! ## §3. The host under the schedulers. -/

/-- A poll waits for some tasks, or does not get as far. -/
def Waits (qt : Qt) (during : List ProcessOp) (s : HostState) (r : Schedulers × List JsEvent) :
    Prop :=
  (r.1.host = s ∧ hostEvents r.2 = []) ∨
    ∃ ks, r.1.host = (HostState.waitAny qt ks during s).1 ∧
      hostEvents r.2 = (HostState.waitAny qt ks during s).2

theorem settleTask_host (index : Nat) (value : Settlement) (s : Schedulers) :
    (settleTask index value s).1.host = s.host ∧ hostEvents (settleTask index value s).2 = [] := by
  unfold settleTask
  split
  · exact ⟨rfl, rfl⟩
  · exact ⟨rfl, rfl⟩

theorem settleGroup_host (index : Nat) (value : Settlement) (s : Schedulers) :
    (settleGroup index value s).1.host = s.host ∧
      hostEvents (settleGroup index value s).2 = [] := by
  unfold settleGroup
  split
  · exact ⟨rfl, rfl⟩
  · exact ⟨rfl, rfl⟩

/-- Going on after a wait without touching the host. -/
theorem waits_extend (ks : List Nat) (during : List ProcessOp) (s : Schedulers)
    {a : Action Schedulers JsEvent} (ha : ∀ s, (a s).1.host = s.host ∧ hostEvents (a s).2 = []) :
    Waits qt during s.host
      (Action.extend (onHost (HostState.waitAny qt ks during) s) a) := by
  right
  refine ⟨ks, ?_, ?_⟩
  · rw [Action.extend_fst, (ha _).1]
    rfl
  · unfold Action.extend
    rw [hostEvents_append, (ha _).2, List.append_nil]
    exact hostEvents_host _

theorem pollTasks_waits (s : Schedulers) : Waits qt during s.host (pollTasks qt during s) := by
  unfold pollTasks
  split
  · exact Or.inl ⟨rfl, rfl⟩
  · dsimp only
    split
    · split
      · exact waits_extend qt _ during s (settleTask_host _ _)
      · exact Or.inr ⟨_, rfl, hostEvents_host _⟩
    · apply waits_extend
      intro s
      rw [finishTasks_fst, finishTasks_snd, hostEvents_settleNull]
      exact ⟨rfl, rfl⟩

theorem serveGroups_waits (s : Schedulers) : Waits qt during s.host (serveGroups qt during s) := by
  have hfinish : ∀ s, (finishGroups s).1.host = s.host ∧ hostEvents (finishGroups s).2 = [] := by
    intro s
    show (settleDue _ s).1.host = _ ∧ hostEvents (settleDue _ s).2 = _
    rw [settleDue_fst, settleDue_snd, hostEvents_settleNull]
    exact ⟨rfl, rfl⟩
  unfold serveGroups
  dsimp only
  split
  · split
    · exact waits_extend qt _ during s (settleGroup_host _ _)
    · exact waits_extend qt _ during s hfinish
  · exact waits_extend qt _ during s hfinish

theorem pollGroups_waits (during : List ProcessOp) (s : Schedulers) :
    Waits qt during s.host (pollGroups qt timeoutMs clock during s) := by
  have hdue := settleDue_snd (lapsed clock) s
  have hswept := settleDue_fst (lapsed clock) s
  unfold pollGroups
  split
  · exact Or.inl ⟨rfl, rfl⟩
  · dsimp only
    split
    · left
      rw [hswept, hdue, hostEvents_settleNull]
      exact ⟨rfl, rfl⟩
    · -- the sweep and the timeout are no events of the host
      have hserved := serveGroups_waits qt during (settleDue (lapsed clock) s).1
      have hhost : (settleDue (lapsed clock) s).1.host = s.host := by rw [hswept]
      rw [hhost] at hserved
      unfold Waits at hserved ⊢
      simp only [Action.extend, Action.emit_apply, hostEvents_append, hdue, hostEvents_settleNull]
      exact hserved

/-- **What the host keeps, every operation keeps.** -/
theorem host_step {qt : Qt} {P : List HostEvent → HostState → Prop}
    (hP : HostState.KeptByProcess qt P)
    (hrequest : ∀ d cmd data written m, Action.Sat P (HostState.request qt d cmd data written m) P)
    (op : SchedulerOp) {h : List JsEvent} (hs : P (hostEvents h) s.host) :
    P (hostEvents (h ++ (op.action qt s).2)) (op.action qt s).1.host := by
  rw [hostEvents_append]
  have hhost : ∀ a : Action HostState HostEvent, Action.Sat P a P →
      P (hostEvents h ++ hostEvents (onHost a s).2) (onHost a s).1.host := by
    intro a ha
    show P (hostEvents h ++ hostEvents ((a s.host).2.map .host)) _
    rw [hostEvents_host]
    exact ha _ _ hs
  have hwaits : ∀ during r, Waits qt during s.host r →
      P (hostEvents h ++ hostEvents r.2) r.1.host := by
    intro during r hr
    obtain ⟨hsame, hnone⟩ | ⟨ks, hsame, hevents⟩ := hr
    · rw [hsame, hnone, List.append_nil]
      exact hs
    · rw [hsame, hevents]
      exact hP.waitAny ks during _ _ hs
  cases op with
  | waitAny tasks timeoutMs now =>
    show P (hostEvents h ++ hostEvents (waitAny tasks timeoutMs now s).2)
      (waitAny tasks timeoutMs now s).1.host
    obtain ⟨value, heq⟩ | ⟨-, heq⟩ := waitAny_cases tasks timeoutMs now s
    · rw [heq, hostEvents_settled, List.append_nil]
      exact hs
    · rw [heq]
      show P (hostEvents h ++ []) s.host
      rw [List.append_nil]
      exact hs
  | scheduleTask k =>
    show P (hostEvents h ++ []) s.host
    rw [List.append_nil]
    exact hs
  | pollGroups timeoutMs clock during =>
    exact hwaits during _ (pollGroups_waits qt timeoutMs clock during s)
  | pollTasks during => exact hwaits during _ (pollTasks_waits qt during s)
  | request d cmd data written m => exact hhost _ (hrequest d cmd data written m)
  | tryNext k => exact hhost _ (hP.tryNext k)
  | waitNext k during => exact hhost _ (hP.waitNextWhile k during)
  | process op => exact hhost _ (hP.outside.process op)

/-! ## §4. All invariants together. -/

/-- The host records what it does, and its queues are what was pushed and not taken. -/
def HostSound (h : List HostEvent) (s : HostState) : Prop := Invariant h s ∧ Queued h s

theorem keptByProcess_hostSound : HostState.KeptByProcess qt HostSound := by
  have hinv := HostState.keptByProcess_invariant qt
  have hqueued := HostState.keptByProcess_queued qt
  have hboth : ∀ a : Action HostState HostEvent, Action.Sat Invariant a Invariant →
      Action.Sat Queued a Queued → Action.Sat HostSound a HostSound :=
    fun a ha hb h s hs => ⟨ha h s hs.1, hb h s hs.2⟩
  exact {
    pump := fun d => hboth _ (hinv.pump d) (hqueued.pump d)
    abandon := fun k => hboth _ (hinv.abandon k) (hqueued.abandon k)
    take := fun k => hboth _ (hinv.take k) (hqueued.take k)
    waits := fun h s ws hs => ⟨hinv.waits h s ws hs.1, hqueued.waits h s ws hs.2⟩
    failed := fun h s ks b hs => ⟨hinv.failed h s ks b hs.1, hqueued.failed h s ks b hs.2⟩
    write := fun d bytes => hboth _ (hinv.write d bytes) (hqueued.write d bytes)
    receive := fun d n => hboth _ (hinv.receive d n) (hqueued.receive d n)
    markExited := fun d c b => hboth _ (hinv.markExited d c b) (hqueued.markExited d c b) }

theorem hostSound_request (d : Nat) (cmd : String) (data : Json) (written : Bool)
    (m : HostState.Meanwhile) :
    Action.Sat HostSound (HostState.request qt d cmd data written m) HostSound := by
  intro h s hs
  constructor
  · exact HostState.request_invariant qt d cmd data written m h s hs.1
  · exact HostState.queued_request qt d cmd data written m h s ⟨hs.1.recorded, hs.2⟩

/-- The invariants of the schedulers and of their host. -/
structure Sound (c : Machine.Config Schedulers JsEvent) : Prop where
  placed : Placed c
  host : HostSound (hostEvents c.history) c.state.host
  tasks : ∀ item ∈ c.state.pendingTasks, item.task < c.state.host.created

/-- **Every operation keeps the invariants**, if the tasks that it names exist. -/
theorem Sound.step (qt : Qt) {c : Machine.Config Schedulers JsEvent} (hc : Sound c)
    (op : SchedulerOp) (hnames : ∀ k ∈ op.names, k < c.state.host.created) :
    Sound ((schedulerMachine qt).next c op) := by
  have hcreated := created_step qt op c.state
  constructor
  · exact hc.placed.step qt op
  · exact host_step (keptByProcess_hostSound qt) (hostSound_request qt) op hc.host
  · intro item hitem
    have hold : item ∈ c.state.pendingTasks → item.task < (op.action qt c.state).1.host.created :=
      fun h => Nat.lt_of_lt_of_le (hc.tasks item h) hcreated
    cases op with
    | waitAny tasks timeoutMs now =>
      have hitem : item ∈ (waitAny tasks timeoutMs now c.state).1.pendingTasks := hitem
      rw [pendingTasks_waitAny] at hitem
      exact hold hitem
    | scheduleTask k =>
      obtain hitem | hitem := List.mem_append.mp hitem
      · exact hold hitem
      · rw [List.mem_singleton.mp hitem]
        exact hnames k (List.mem_singleton_self k)
    | pollGroups timeoutMs clock during =>
      obtain ⟨settled, -, -, htasks, -⟩ := pollGroups_cases qt timeoutMs clock during c.state
      have hitem : item ∈ (pollGroups qt timeoutMs clock during c.state).1.pendingTasks := hitem
      rw [htasks] at hitem
      exact hold hitem
    | pollTasks during => exact hold ((tasks_pollTasks qt during c.state).subset hitem)
    | request d cmd data written m => exact hold hitem
    | tryNext k => exact hold hitem
    | waitNext k during => exact hold hitem
    | process op => exact hold hitem

/-- A task that does not exist has no entry, and nothing was taken of it. -/
theorem Sound.fresh {c : Machine.Config Schedulers JsEvent} (hc : Sound c)
    (hk : c.state.host.created ≤ k) :
    c.state.tasksOf k = [] ∧ c.state.groupsOf k = [] ∧ takenOf k c.history = [] := by
  refine ⟨?_, ?_, ?_⟩
  · apply List.filter_eq_nil_iff.mpr
    intro item hitem heq
    have hlt := hc.tasks item hitem
    rw [of_decide_eq_true heq] at hlt
    omega
  · apply List.filter_eq_nil_iff.mpr
    intro group hgroup hin
    have hlt := hc.placed.apart.valid group hgroup k (of_decide_eq_true hin)
    omega
  · have hqueued := hc.host.2 k
    rw [hc.host.1.recorded.fresh k hk] at hqueued
    exact (List.append_eq_nil_iff.mp hqueued.symm).1

/-- A task of which no terminal message was taken is not done. -/
theorem Sound.notDone {c : Machine.Config Schedulers JsEvent} (hc : Sound c)
    (hk : k < c.state.host.created) (hopen : ∀ m ∈ takenOf k c.history, m.isTerminal = false) :
    c.state.host.isDone k = false := by
  rw [Bool.eq_false_iff]
  intro hdone
  obtain ⟨⟨m, hm, hterminal⟩, -⟩ :=
    (HostState.isDone_iff hc.host.1.recorded hc.host.2 hk).mp hdone
  rw [hopen m hm] at hterminal
  cases hterminal

/-! ## §5. The parts of a command. -/

theorem Untouched.trans {s₁ s₂ s₃ : Schedulers} {events' : List JsEvent}
    (h : Untouched k s₁ s₂ events) (h' : Untouched k s₂ s₃ events') :
    Untouched k s₁ s₃ (events ++ events') where
  tasks := h'.tasks.trans h.tasks
  groups := h'.groups.trans h.groups
  taken := by
    rw [takenOf_append, h.taken, h'.taken]
    rfl

/-- A wait for a task that no group waits for is pending. -/
theorem waitAny_own (hk : k < s.host.created) (hgroups : s.groupsOf k = []) (timeoutMs : Int)
    (now : Nat) :
    waitAny [k] timeoutMs now s =
      ({ s with
          promises := s.promises + 1
          pendingGroups := s.pendingGroups ++
            [{ tasks := [k], timeoutMs := timeoutMs, started := now,
               promise := s.promises }] }, []) := by
  have herror : groupError s [k] = none := by
    have htasks : tasksError s.host [] [k] = none := by
      unfold tasksError HostState.isValid
      rw [if_neg (by simpa using hk), if_neg List.not_mem_nil]
      rfl
    unfold groupError
    rw [htasks]
    dsimp only
    rw [if_neg]
    intro hconflict
    obtain ⟨group, hgroup, hany⟩ := List.any_eq_true.mp hconflict
    obtain ⟨k', hk', hin⟩ := List.any_eq_true.mp hany
    have heq : k' = k := List.mem_singleton.mp (of_decide_eq_true hin)
    have hof := mem_groupsOf hgroup (heq ▸ hk')
    rw [hgroups] at hof
    cases hof
  unfold waitAny addGroup
  simp only [Action.bind_apply, Action.seq_apply, Action.modify_apply, List.nil_append]
  have hsame : groupError { s with promises := s.promises + 1 } [k] = groupError s [k] := rfl
  rw [hsame, herror]
  rfl

/-- The groups of its task are then this one. -/
theorem groupsOf_concat (hgroups : s.groupsOf k = []) {group : PendingGroup} (hk : k ∈ group.tasks)
    (promises : Nat) :
    groupsOf { s with
      promises := promises
      pendingGroups := s.pendingGroups ++ [group] } k = [group] := by
  show (s.pendingGroups ++ [group]).filter _ = _
  unfold groupsOf at hgroups
  rw [List.filter_append, hgroups, List.nil_append]
  exact List.filter_eq_self.mpr fun group' hgroup' => by
    rw [List.mem_singleton.mp hgroup']
    exact decide_eq_true hk

section Processes

variable (qt : Qt) (during : List ProcessOp)

theorem quiet_processes (s : HostState) :
    HostState.Quiet [] s (Action.forEach during (ProcessOp.action qt) s).2
      (Action.forEach during (ProcessOp.action qt) s).1 := by
  have hquiet : Action.Sat (HostState.Quiet [] s) (Action.forEach during (ProcessOp.action qt))
      (HostState.Quiet [] s) :=
    Action.Sat.forEach fun op _ => (HostState.keptOutside_quiet qt).process op
  have htook := hquiet [] s (HostState.Quiet.refl [] s)
  rw [List.nil_append] at htook
  exact htook

theorem untouched_processes (s : Schedulers) (k : Nat) :
    Untouched k s (onHost (Action.forEach during (ProcessOp.action qt)) s).1
      (onHost (Action.forEach during (ProcessOp.action qt)) s).2 := by
  constructor
  · rfl
  · rfl
  · apply takenOf_quiet
    show HostState.Quiet [] s.host (hostEvents (List.map _ _)) _
    rw [hostEvents_host]
    exact quiet_processes qt during s.host

/-- What the processes do keeps the invariants. -/
theorem Sound.processes {h : List JsEvent} {s : Schedulers} (hs : Sound ⟨s, h⟩) :
    Sound ⟨(onHost (Action.forEach during (ProcessOp.action qt)) s).1,
      h ++ (onHost (Action.forEach during (ProcessOp.action qt)) s).2⟩ := by
  induction during generalizing h s with
  | nil =>
    show Sound ⟨s, h ++ []⟩
    rw [List.append_nil]
    exact hs
  | cons op ops ih =>
    have hstep := hs.step qt (.process op) fun k hk => absurd hk List.not_mem_nil
    have hrest := ih hstep
    unfold onHost at hrest ⊢
    rw [Action.forEach_cons, Action.seq_apply, List.map_append, ← List.append_assoc]
    exact hrest

end Processes

end Schedulers

end Stdiolink.Js
