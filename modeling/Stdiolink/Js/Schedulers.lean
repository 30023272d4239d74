/-
  Stdiolink.Js.Schedulers — the two schedulers of a JavaScript service.

  `bindings/js_task_scheduler.cpp` and `bindings/js_wait_any_scheduler.cpp`, over the host of
  `Stdiolink.Host`.  A promise is a number; its functions `resolve` and `reject` are the event
  that it is settled.  What the script does itself (requests, `tryNext`, `waitNext`) and what the
  processes do between two polls are further operations.

  A clock is read by the code; here every operation that reads it is given what it reads.

  Main results:
    • `refs_getElem?_idxOf` — a place in the flattened list of tasks leads back to its group;
    • `pollGroups_cases`    — what one poll of the groups does;
    • `pollTasks_cases`     — what one poll of the tasks does.
-/
import Stdiolink.Lib.Sweep
import Stdiolink.Host.Queues

namespace Stdiolink.Js

open Stdiolink.Lib
open Stdiolink.Protocol
open Stdiolink.Host

/-! ## §1. State and events. -/

/-- What a promise is settled with: the value of `resolve`, or the message of `reject`. -/
inductive Settlement where
  | null
  /-- `messageToJs(msg)`. -/
  | message (msg : Message)
  /-- `{ taskIndex, msg }`. -/
  | item (taskIndex : Nat) (msg : Message)
  | refused (text : String)

/-- `JsTaskScheduler::PendingTask`. -/
structure PendingTask where
  task : Nat
  promise : Nat

/-- `WaitAnyScheduler::PendingGroup`; `started` is when `elapsed` was. -/
structure PendingGroup where
  tasks : List Nat
  timeoutMs : Int
  started : Nat
  promise : Nat

/-- `elapsed.hasExpired(timeoutMs)`, of a group with a timeout. -/
def PendingGroup.expired (group : PendingGroup) (now : Nat) : Bool :=
  0 ≤ group.timeoutMs && group.timeoutMs < (now - group.started : Nat)

/-- Both schedulers and the host; `promises` is how many promises there are. -/
structure Schedulers where
  host : HostState := {}
  pendingTasks : List PendingTask := []
  pendingGroups : List PendingGroup := []
  promises : Nat := 0

inductive JsEvent where
  | host (e : HostEvent)
  | settled (promise : Nat) (value : Settlement)
  /-- `waitAnyNext` is called with this timeout. -/
  | waits (effectiveWaitMs : Int)

def JsEvent.settlement : JsEvent → Option (Nat × Settlement)
  | .settled promise value => some (promise, value)
  | _ => none

def JsEvent.hostEvent : JsEvent → Option HostEvent
  | .host e => some e
  | _ => none

/-- The promises settled so far. -/
def settlements (h : List JsEvent) : List (Nat × Settlement) := h.filterMap JsEvent.settlement

/-- What the host did so far. -/
def hostEvents (h : List JsEvent) : List HostEvent := h.filterMap JsEvent.hostEvent

@[simp] theorem settlements_append (h h' : List JsEvent) :
    settlements (h ++ h') = settlements h ++ settlements h' :=
  List.filterMap_append

@[simp] theorem hostEvents_append (h h' : List JsEvent) :
    hostEvents (h ++ h') = hostEvents h ++ hostEvents h' :=
  List.filterMap_append

@[simp] theorem settlements_host (events : List HostEvent) :
    settlements (events.map JsEvent.host) = [] := by
  unfold settlements
  rw [List.filterMap_map, List.filterMap_eq_nil_iff]
  intro e _
  rfl

@[simp] theorem hostEvents_host (events : List HostEvent) :
    hostEvents (events.map JsEvent.host) = events := by
  unfold hostEvents
  rw [List.filterMap_map]
  exact List.filterMap_some

@[simp] theorem settlements_settled (promise : Nat) (value : Settlement) :
    settlements [.settled promise value] = [(promise, value)] := rfl

@[simp] theorem hostEvents_settled (promise : Nat) (value : Settlement) :
    hostEvents [.settled promise value] = [] := rfl

/-- These promises, resolved with null. -/
def nulls (promises : List Nat) : List (Nat × Settlement) := promises.map fun p => (p, .null)

namespace Schedulers

/-- What the host does. -/
def onHost (a : Action HostState HostEvent) : Action Schedulers JsEvent := fun s =>
  ({ s with host := (a s.host).1 }, (a s.host).2.map .host)

/-- Resolve promises with null, one after another. -/
def settleNull (promises : List Nat) : Action Schedulers JsEvent := fun s =>
  (s, promises.map fun p => .settled p .null)

@[simp] theorem settlements_settleNull (promises : List Nat) (s : Schedulers) :
    settlements (settleNull promises s).2 = nulls promises := by
  show (promises.map _).filterMap _ = _
  rw [List.filterMap_map]
  exact congrFun List.filterMap_eq_map promises

@[simp] theorem hostEvents_settleNull (promises : List Nat) (s : Schedulers) :
    hostEvents (settleNull promises s).2 = [] := by
  show (promises.map _).filterMap _ = _
  rw [List.filterMap_map, List.filterMap_eq_nil_iff]
  intro p _
  rfl

/-! ## §2. `JsTaskScheduler`. -/

/-- `__scheduleTask(task)`: a new promise, and `addTask`. -/
def scheduleTask (k : Nat) : Action Schedulers JsEvent :=
  Action.modify fun s =>
    { s with
      pendingTasks := s.pendingTasks ++ [{ task := k, promise := s.promises }]
      promises := s.promises + 1 }

/-- `settleTask(index, value, false)`. -/
def settleTask (index : Nat) (value : Settlement) : Action Schedulers JsEvent := fun s =>
  match s.pendingTasks[index]? with
  | none => (s, [])
  | some item =>
    ({ s with pendingTasks := s.pendingTasks.eraseIdx index }, [.settled item.promise value])

theorem settleTask_found {s : Schedulers} {index : Nat} {item : PendingTask}
    (h : s.pendingTasks[index]? = some item) (value : Settlement) :
    settleTask index value s =
      ({ s with pendingTasks := s.pendingTasks.eraseIdx index },
        [.settled item.promise value]) := by
  unfold settleTask
  rw [h]

/-- `task.isDone() && !task.hasQueued()`. -/
def isFinished (host : HostState) (item : PendingTask) : Bool :=
  host.isDone item.task && !host.hasQueued item.task

/-- The loop that finishes the tasks that are done. -/
def finishTasks : Action Schedulers JsEvent := fun s =>
  let swept := sweep (fun _ item => isFinished s.host item) s.pendingTasks
  settleNull (swept.2.map PendingTask.promise) { s with pendingTasks := swept.1 }

variable (qt : Qt)

/-- `JsTaskScheduler::poll`; `during` is what the processes do while it waits. -/
def pollTasks (during : List ProcessOp) : Action Schedulers JsEvent := fun s =>
  if s.pendingTasks.isEmpty then (s, [])
  else
    let tasks := s.pendingTasks.map PendingTask.task
    let waited := onHost (HostState.waitAny qt tasks during) s
    match HostState.anyItem tasks (HostState.waitAny qt tasks during s.host).2 with
    | some anyItem =>
      -- intermediate messages are ignored
      if anyItem.msg.isTerminal then
        Action.extend waited (settleTask anyItem.taskIndex (.message anyItem.msg))
      else waited
    | none => Action.extend waited finishTasks

/-! ## §3. `WaitAnyScheduler`. -/

/-- Why a list of tasks is refused, apart from the groups that are pending. -/
def tasksError (host : HostState) : List Nat → List Nat → Option String
  | _, [] => none
  | seen, k :: ks =>
    if !host.isValid k then some "waitAny: all items must be valid Task"
    else if k ∈ seen then some "waitAny: duplicate Task in tasks array"
    else tasksError host (k :: seen) ks

/-- The message of `rejectImmediate`, if `addGroup` calls it. -/
def groupError (s : Schedulers) (tasks : List Nat) : Option String :=
  match tasksError s.host [] tasks with
  | some text => some text
  | none =>
    if s.pendingGroups.any fun group => group.tasks.any fun existing => existing ∈ tasks then
      some "waitAny conflict: the same Task is already in a pending waitAny group"
    else none

/-- `addGroup`. -/
def addGroup (tasks : List Nat) (timeoutMs : Int) (now promise : Nat) :
    Action Schedulers JsEvent := fun s =>
  if tasks.isEmpty then (s, [.settled promise .null])
  else
    match groupError s tasks with
    | some text => (s, [.settled promise (.refused text)])
    | none =>
      ({ s with
          pendingGroups := s.pendingGroups ++
            [{ tasks := tasks, timeoutMs := timeoutMs, started := now, promise := promise }] }, [])

/-- `__waitAny(tasks, timeoutMs)`, of a timeout that is not refused: a new promise, and
`addGroup`. -/
def waitAny (tasks : List Nat) (timeoutMs : Int) (now : Nat) : Action Schedulers JsEvent :=
  Action.bind fun s =>
    Action.seq (Action.modify fun s => { s with promises := s.promises + 1 })
      (addGroup tasks timeoutMs now s.promises)

/-- A call is answered at once, or a group is pending. -/
theorem waitAny_cases (tasks : List Nat) (timeoutMs : Int) (now : Nat) (s : Schedulers) :
    (∃ value, waitAny tasks timeoutMs now s =
      ({ s with promises := s.promises + 1 }, [.settled s.promises value])) ∨
    (groupError s tasks = none ∧ waitAny tasks timeoutMs now s =
      ({ s with
          promises := s.promises + 1
          pendingGroups := s.pendingGroups ++
            [{ tasks := tasks, timeoutMs := timeoutMs, started := now,
               promise := s.promises }] }, [])) := by
  unfold waitAny addGroup
  simp only [Action.bind_apply, Action.seq_apply, Action.modify_apply, List.nil_append]
  have hsame : groupError { s with promises := s.promises + 1 } tasks = groupError s tasks := rfl
  rw [hsame]
  by_cases hempty : tasks.isEmpty = true
  · left
    rw [if_pos hempty]
    exact ⟨_, rfl⟩
  · rw [if_neg hempty]
    cases herror : groupError s tasks with
    | some text => exact Or.inl ⟨_, rfl⟩
    | none => exact Or.inr ⟨rfl, rfl⟩

/-- `settleGroup(index, value, false)`. -/
def settleGroup (index : Nat) (value : Settlement) : Action Schedulers JsEvent := fun s =>
  match s.pendingGroups[index]? with
  | none => (s, [])
  | some item =>
    ({ s with pendingGroups := s.pendingGroups.eraseIdx index }, [.settled item.promise value])

theorem settleGroup_found {s : Schedulers} {index : Nat} {group : PendingGroup}
    (h : s.pendingGroups[index]? = some group) (value : Settlement) :
    settleGroup index value s =
      ({ s with pendingGroups := s.pendingGroups.eraseIdx index },
        [.settled group.promise value]) := by
  unfold settleGroup
  rw [h]

/-- A sweep of the groups: those that are due are resolved with null. -/
def settleDue (due : Nat → PendingGroup → Bool) : Action Schedulers JsEvent := fun s =>
  let swept := sweep due s.pendingGroups
  settleNull (swept.2.map PendingGroup.promise) { s with pendingGroups := swept.1 }

theorem settleDue_fst (due : Nat → PendingGroup → Bool) (s : Schedulers) :
    (settleDue due s).1 = { s with pendingGroups := kept due s.pendingGroups } := by
  show { s with pendingGroups := (sweep due s.pendingGroups).1 } = _
  rw [sweep_eq]

theorem settleDue_snd (due : Nat → PendingGroup → Bool) (s : Schedulers) :
    (settleDue due s).2 = (settleNull
      ((removed due s.pendingGroups).reverse.map PendingGroup.promise) s).2 := by
  show (settleNull ((sweep due s.pendingGroups).2.map PendingGroup.promise) _).2 = _
  rw [sweep_eq]
  rfl

/-- `effectiveWaitMs`, from the last group to the first. -/
def effectiveWaitMs (clock : Nat → Nat) (timeoutMs : Int) (groups : List PendingGroup) : Int :=
  groups.zipIdx.foldr (fun (group, i) wait =>
    if group.expired (clock i) || group.timeoutMs < 0 then wait
    else
      let remainingMs := max 0 (group.timeoutMs - (clock i - group.started : Nat))
      if wait < 0 || remainingMs < wait then remainingMs else wait) timeoutMs

/-- `TaskRef`. -/
structure TaskRef where
  groupIndex : Nat
  taskIndex : Nat
  deriving Repr, DecidableEq

/-- `refs`, from the group with this index on. -/
def refsFrom : Nat → List PendingGroup → List TaskRef
  | _, [] => []
  | groupIndex, group :: groups =>
    (List.range group.tasks.length).map (fun taskIndex => ⟨groupIndex, taskIndex⟩) ++
      refsFrom (groupIndex + 1) groups

/-- No task of the group has anything more to say. -/
def allDone (host : HostState) (group : PendingGroup) : Bool :=
  group.tasks.all fun k => !(host.isValid k && !host.isDone k)

/-- The loop that finishes the groups that are done. -/
def finishGroups : Action Schedulers JsEvent :=
  Action.bind fun s => settleDue fun _ group => allDone s.host group

/-- A group has expired when it is looked at. -/
def lapsed (clock : Nat → Nat) (i : Nat) (group : PendingGroup) : Bool := group.expired (clock i)

/-- The part of `poll` from `waitAnyNext` on. -/
def serveGroups (during : List ProcessOp) : Action Schedulers JsEvent := fun s =>
  let allTasks := s.pendingGroups.flatMap PendingGroup.tasks
  let waited := onHost (HostState.waitAny qt allTasks during) s
  match HostState.anyItem allTasks (HostState.waitAny qt allTasks during s.host).2 with
  | some anyItem =>
    match (refsFrom 0 s.pendingGroups)[anyItem.taskIndex]? with
    | some ref =>
      Action.extend waited (settleGroup ref.groupIndex (.item ref.taskIndex anyItem.msg))
    | none => Action.extend waited finishGroups
  | none => Action.extend waited finishGroups

/-- `WaitAnyScheduler::poll`; `clock i` is the time when the group `i` is looked at. -/
def pollGroups (timeoutMs : Int) (clock : Nat → Nat) (during : List ProcessOp) :
    Action Schedulers JsEvent := fun s =>
  if s.pendingGroups.isEmpty then (s, [])
  else
    let swept := settleDue (lapsed clock) s
    if swept.1.pendingGroups.isEmpty then swept
    else
      Action.extend
        (Action.extend swept
          (Action.emit fun _ => .waits (effectiveWaitMs clock timeoutMs s.pendingGroups)))
        (serveGroups qt during)

/-! ## §4. A place in the flattened list. -/

/-- **A place leads back to its group**: the first place of a task, to the first group that has
it. -/
theorem refs_getElem?_idxOf {groups : List PendingGroup} {k : Nat}
    (hk : k ∈ groups.flatMap PendingGroup.tasks) (n : Nat) :
    ∃ i group, groups[i]? = some group ∧ k ∈ group.tasks ∧
      (refsFrom n groups)[(groups.flatMap PendingGroup.tasks).idxOf k]? =
        some ⟨n + i, group.tasks.idxOf k⟩ := by
  induction groups generalizing n with
  | nil => cases hk
  | cons group groups ih =>
    rw [List.flatMap_cons, refsFrom]
    by_cases hmem : k ∈ group.tasks
    · -- the place is within the tasks of this group
      refine ⟨0, group, rfl, hmem, ?_⟩
      have hlt : group.tasks.idxOf k < group.tasks.length := List.idxOf_lt_length_of_mem hmem
      rw [List.idxOf_append_of_mem hmem, List.getElem?_append_left (by simpa using hlt),
        List.getElem?_map, List.getElem?_range hlt]
      rfl
    · -- it is behind them
      rw [List.flatMap_cons, List.mem_append] at hk
      obtain ⟨i, group', hgroup, hin, hplace⟩ := ih (hk.resolve_left hmem) (n + 1)
      refine ⟨i + 1, group', hgroup, hin, ?_⟩
      rw [List.idxOf_append_of_notMem hmem, List.getElem?_append_right (by simp)]
      rw [List.length_map, List.length_range, Nat.add_sub_cancel_left, hplace,
        show n + 1 + i = n + (i + 1) by omega]

/-! ## §5. What a poll does. -/

/-- The test of the loop that finishes tasks. -/
def finished (host : HostState) (_ : Nat) (item : PendingTask) : Bool := isFinished host item

variable (during : List ProcessOp) (s : Schedulers)

theorem finishTasks_fst :
    (finishTasks s).1 = { s with pendingTasks := kept (finished s.host) s.pendingTasks } := by
  show { s with pendingTasks := (sweep (finished s.host) s.pendingTasks).1 } = _
  rw [sweep_eq]

theorem finishTasks_snd :
    (finishTasks s).2 = (settleNull
      ((removed (finished s.host) s.pendingTasks).reverse.map PendingTask.promise) s).2 := by
  show (settleNull ((sweep (finished s.host) s.pendingTasks).2.map PendingTask.promise) _).2 = _
  rw [sweep_eq]
  rfl

/-- What a poll of the tasks did: no message was taken, and the tasks that are done are settled; or
a message was taken of a pending task, which is settled if the message ends it. -/
inductive TasksPolled (s s' : Schedulers) (events : List HostEvent)
    (settled : List (Nat × Settlement)) : Prop where
  | idle (quiet : HostState.Quiet [] s.host events s'.host)
      (left : s'.pendingTasks = kept (finished s'.host) s.pendingTasks)
      (settles : settled =
        nulls ((removed (finished s'.host) s.pendingTasks).reverse.map PendingTask.promise))
  | served (i : Nat) (item : PendingTask) (m : Message) (found : s.pendingTasks[i]? = some item)
      (took : HostState.TookMessage item.task m [] s.host events s'.host)
      (left : s'.pendingTasks =
        if m.isTerminal then s.pendingTasks.eraseIdx i else s.pendingTasks)
      (settles : settled = if m.isTerminal then [(item.promise, .message m)] else [])

theorem pollTasks_cases :
    TasksPolled s (pollTasks qt during s).1 (hostEvents (pollTasks qt during s).2)
        (settlements (pollTasks qt during s).2) ∧
      (pollTasks qt during s).1.pendingGroups = s.pendingGroups ∧
      (pollTasks qt during s).1.promises = s.promises := by
  unfold pollTasks
  split
  · -- nothing is pending
    rename_i hempty
    have hnone := List.isEmpty_iff.mp hempty
    refine ⟨.idle (HostState.Quiet.refl [] s.host) ?_ ?_, rfl, rfl⟩
    · rw [hnone]
      rfl
    · rw [hnone]
      rfl
  · dsimp only
    obtain ⟨hquiet, hitem⟩ | ⟨k, m, hk, htook, hitem⟩ := HostState.waitAny_cases qt
      (s.pendingTasks.map PendingTask.task) during s.host
    · -- no message: the loop over the tasks that are done
      rw [hitem]
      dsimp only
      refine ⟨.idle ?_ ?_ ?_, ?_, ?_⟩
      · rw [Action.extend_fst, finishTasks_fst]
        simp only [Action.extend, finishTasks_snd, onHost, hostEvents_append, hostEvents_host,
          hostEvents_settleNull, List.append_nil]
        exact hquiet
      · rw [Action.extend_fst, finishTasks_fst]
        rfl
      · rw [Action.extend_fst, finishTasks_fst]
        simp only [Action.extend, finishTasks_snd, onHost, settlements_append, settlements_host,
          settlements_settleNull, List.nil_append]
      · rw [Action.extend_fst, finishTasks_fst]
        rfl
      · rw [Action.extend_fst, finishTasks_fst]
        rfl
    · -- a message: its task is found at its first place
      rw [hitem]
      dsimp only
      obtain ⟨item, hfound, htask⟩ : ∃ item,
          s.pendingTasks[(s.pendingTasks.map PendingTask.task).idxOf k]? = some item ∧
            item.task = k := by
        have hplace : (s.pendingTasks.map PendingTask.task)[
            (s.pendingTasks.map PendingTask.task).idxOf k]? = some k := by
          exact List.getElem?_idxOf hk
        rw [List.getElem?_map, Option.map_eq_some_iff] at hplace
        exact hplace
      subst htask
      -- the list is the same after the wait
      have hwaited : (onHost (HostState.waitAny qt (s.pendingTasks.map PendingTask.task) during)
          s).1.pendingTasks[(s.pendingTasks.map PendingTask.task).idxOf item.task]? = some item :=
        hfound
      by_cases hend : m.isTerminal = true
      · rw [if_pos hend, Action.extend, settleTask_found hwaited]
        refine ⟨.served _ item m hfound ?_ ?_ ?_, rfl, rfl⟩
        · simp only [onHost, hostEvents_append, hostEvents_host, hostEvents_settled,
            List.append_nil]
          exact htook
        · rw [if_pos hend]
          rfl
        · rw [if_pos hend]
          simp only [onHost, settlements_append, settlements_host, settlements_settled,
            List.nil_append]
      · rw [if_neg hend]
        refine ⟨.served _ item m hfound ?_ ?_ ?_, rfl, rfl⟩
        · simp only [onHost, hostEvents_host]
          exact htook
        · rw [if_neg hend]
          rfl
        · rw [if_neg hend]
          exact settlements_host _

/-- The test of the loop that finishes groups. -/
def groupDone (host : HostState) (_ : Nat) (group : PendingGroup) : Bool := allDone host group

/-- What a poll of the groups did from `waitAnyNext` on: no message was taken, and the groups that
are done are settled; or a message was taken of a task of a pending group, which is settled. -/
inductive GroupsServed (s s' : Schedulers) (events : List HostEvent)
    (settled : List (Nat × Settlement)) : Prop where
  | idle (quiet : HostState.Quiet [] s.host events s'.host)
      (left : s'.pendingGroups = kept (groupDone s'.host) s.pendingGroups)
      (settles : settled =
        nulls ((removed (groupDone s'.host) s.pendingGroups).reverse.map PendingGroup.promise))
  | served (i : Nat) (group : PendingGroup) (k : Nat) (m : Message)
      (found : s.pendingGroups[i]? = some group) (mem : k ∈ group.tasks)
      (took : HostState.TookMessage k m [] s.host events s'.host)
      (left : s'.pendingGroups = s.pendingGroups.eraseIdx i)
      (settles : settled = [(group.promise, .item (group.tasks.idxOf k) m)])

theorem serveGroups_cases :
    GroupsServed s (serveGroups qt during s).1 (hostEvents (serveGroups qt during s).2)
        (settlements (serveGroups qt during s).2) ∧
      (serveGroups qt during s).1.pendingTasks = s.pendingTasks ∧
      (serveGroups qt during s).1.promises = s.promises := by
  unfold serveGroups
  dsimp only
  obtain ⟨hquiet, hitem⟩ | ⟨k, m, hk, htook, hitem⟩ := HostState.waitAny_cases qt
    (s.pendingGroups.flatMap PendingGroup.tasks) during s.host
  · -- no message: the loop over the groups that are done
    rw [hitem]
    dsimp only
    have hfinish : ∀ s : Schedulers, finishGroups s = settleDue (groupDone s.host) s :=
      fun _ => rfl
    rw [Action.extend, hfinish]
    refine ⟨.idle ?_ ?_ ?_, ?_, ?_⟩
    all_goals rw [settleDue_fst]
    · simp only [settleDue_snd, onHost, hostEvents_append, hostEvents_host,
        hostEvents_settleNull, List.append_nil]
      exact hquiet
    · rfl
    · simp only [settleDue_snd, onHost, settlements_append, settlements_host,
        settlements_settleNull, List.nil_append]
    · rfl
    · rfl
  · -- a message: its place leads back to its group
    rw [hitem]
    dsimp only
    obtain ⟨i, group, hfound, hmem, hplace⟩ := refs_getElem?_idxOf hk 0
    rw [hplace]
    have hwaited : (onHost (HostState.waitAny qt (s.pendingGroups.flatMap PendingGroup.tasks)
        during) s).1.pendingGroups[0 + i]? = some group := by
      rw [Nat.zero_add]
      exact hfound
    dsimp only
    rw [Action.extend, settleGroup_found hwaited]
    refine ⟨.served i group k m hfound hmem ?_ ?_ ?_, rfl, rfl⟩
    · simp only [onHost, hostEvents_append, hostEvents_host, hostEvents_settled, List.append_nil]
      exact htook
    · rw [Nat.zero_add]
      rfl
    · simp only [onHost, settlements_append, settlements_host, settlements_settled,
        List.nil_append]

/-- The groups that a poll still waits for, and the promises of those that it does not. -/
def unexpired (clock : Nat → Nat) (s : Schedulers) : Schedulers :=
  { s with pendingGroups := kept (lapsed clock) s.pendingGroups }

def expiredPromises (clock : Nat → Nat) (s : Schedulers) : List Nat :=
  (removed (lapsed clock) s.pendingGroups).reverse.map PendingGroup.promise

/-- **One poll of the groups**: those that have expired are settled with null, and then the others
are served. -/
theorem pollGroups_cases (timeoutMs : Int) (clock : Nat → Nat) (during : List ProcessOp)
    (s : Schedulers) :
    ∃ settled,
      settlements (pollGroups qt timeoutMs clock during s).2 =
        nulls (expiredPromises clock s) ++ settled ∧
      GroupsServed (unexpired clock s) (pollGroups qt timeoutMs clock during s).1
        (hostEvents (pollGroups qt timeoutMs clock during s).2) settled ∧
      (pollGroups qt timeoutMs clock during s).1.pendingTasks = s.pendingTasks ∧
      (pollGroups qt timeoutMs clock during s).1.promises = s.promises := by
  have hswept : (settleDue (lapsed clock) s).1 = unexpired clock s := settleDue_fst _ s
  -- without a group there is nothing to serve
  have hnone : ∀ s' : Schedulers, s'.pendingGroups = [] → GroupsServed s' s' [] [] := by
    intro s' hempty
    refine .idle (HostState.Quiet.refl [] s'.host) ?_ ?_
    · rw [hempty]
      rfl
    · rw [hempty]
      rfl
  unfold pollGroups
  split
  · rename_i hempty
    have hempty := List.isEmpty_iff.mp hempty
    refine ⟨[], ?_, ?_, rfl, rfl⟩
    · unfold expiredPromises
      rw [hempty]
      rfl
    · have hsame : unexpired clock s = s := by
        unfold unexpired
        rw [hempty]
        cases s
        dsimp only at hempty
        rw [hempty]
        rfl
      rw [hsame]
      exact hnone s hempty
  · dsimp only
    rw [hswept]
    split
    · rename_i _ hempty
      refine ⟨[], ?_, ?_, ?_, ?_⟩
      · rw [settleDue_snd, settlements_settleNull, List.append_nil]
        rfl
      · rw [hswept, settleDue_snd, hostEvents_settleNull]
        exact hnone _ (List.isEmpty_iff.mp hempty)
      · rw [hswept]
        rfl
      · rw [hswept]
        rfl
    · obtain ⟨hserved, htasks, hpromises⟩ := serveGroups_cases qt during (unexpired clock s)
      refine ⟨settlements (serveGroups qt during (unexpired clock s)).2, ?_, ?_, ?_, ?_⟩
      · simp only [Action.extend, Action.emit_apply, hswept, settleDue_snd, settlements_append,
          settlements_settleNull]
        show nulls (expiredPromises clock s) ++ [] ++ _ = _
        rw [List.append_nil]
      · simp only [Action.extend, Action.emit_apply, hswept, settleDue_snd, hostEvents_append,
          hostEvents_settleNull]
        exact hserved
      · simp only [Action.extend, Action.emit_apply, hswept]
        exact htasks
      · simp only [Action.extend, Action.emit_apply, hswept]
        exact hpromises

end Schedulers

/-! ## §6. The service as a machine. -/

inductive SchedulerOp where
  /-- `__waitAny`. -/
  | waitAny (tasks : List Nat) (timeoutMs : Int) (now : Nat)
  /-- `__scheduleTask`. -/
  | scheduleTask (task : Nat)
  | pollGroups (timeoutMs : Int) (clock : Nat → Nat) (during : List ProcessOp)
  | pollTasks (during : List ProcessOp)
  /-- `driver.request`. -/
  | request (driver : Nat) (cmd : String) (data : Json) (written : Bool)
      (meanwhile : HostState.Meanwhile)
  /-- `task.tryNext`. -/
  | tryNext (task : Nat)
  /-- `task.waitNext`. -/
  | waitNext (task : Nat) (during : List ProcessOp)
  | process (op : ProcessOp)

def SchedulerOp.action (qt : Qt) : SchedulerOp → Action Schedulers JsEvent
  | .waitAny tasks timeoutMs now => Schedulers.waitAny tasks timeoutMs now
  | .scheduleTask k => Schedulers.scheduleTask k
  | .pollGroups timeoutMs clock during => Schedulers.pollGroups qt timeoutMs clock during
  | .pollTasks during => Schedulers.pollTasks qt during
  | .request d cmd data written m => Schedulers.onHost (HostState.request qt d cmd data written m)
  | .tryNext k => Schedulers.onHost (HostState.tryNext k)
  | .waitNext k during => Schedulers.onHost (HostState.waitNextWhile qt k during)
  | .process op => Schedulers.onHost (op.action qt)

/-- The schedulers as a machine. -/
def schedulerMachine (qt : Qt) : Machine Schedulers SchedulerOp JsEvent where
  step s op := op.action qt s

/-- The tasks that an operation may take a message of. -/
def SchedulerOp.touches (s : Schedulers) : SchedulerOp → List Nat
  | .pollGroups _ _ _ => s.pendingGroups.flatMap PendingGroup.tasks
  | .pollTasks _ => s.pendingTasks.map PendingTask.task
  | .tryNext k => [k]
  | .waitNext k _ => [k]
  | _ => []

namespace Schedulers

theorem tookOne_onHost {a : Action HostState HostEvent} {ks : List Nat} {s : Schedulers}
    (h : Action.Sat (HostState.Quiet [] s.host) a (HostState.TookOne ks [] s.host)) :
    HostState.TookOne ks [] s.host (hostEvents (onHost a s).2) (onHost a s).1.host := by
  have htook := h [] s.host (HostState.Quiet.refl [] s.host)
  rw [List.nil_append] at htook
  show HostState.TookOne ks [] s.host (hostEvents ((a s.host).2.map .host)) _
  rw [hostEvents_host]
  exact htook

/-- **What an operation takes**: at most one message, of a task that it touches. -/
theorem tookOne_step (qt : Qt) (op : SchedulerOp) (s : Schedulers) :
    HostState.TookOne (op.touches s) [] s.host (hostEvents (op.action qt s).2)
      (op.action qt s).1.host := by
  cases op with
  | waitAny tasks timeoutMs now =>
    left
    obtain ⟨value, heq⟩ | ⟨-, heq⟩ := waitAny_cases tasks timeoutMs now s
    · show HostState.Quiet [] s.host (hostEvents (waitAny tasks timeoutMs now s).2)
        (waitAny tasks timeoutMs now s).1.host
      rw [heq]
      exact HostState.Quiet.refl [] s.host
    · show HostState.Quiet [] s.host (hostEvents (waitAny tasks timeoutMs now s).2)
        (waitAny tasks timeoutMs now s).1.host
      rw [heq]
      exact HostState.Quiet.refl [] s.host
  | scheduleTask k => exact Or.inl (HostState.Quiet.refl [] s.host)
  | pollGroups timeoutMs clock during =>
    obtain ⟨settled, -, hserved, -⟩ := pollGroups_cases qt timeoutMs clock during s
    cases hserved with
    | idle hquiet _ _ => exact Or.inl hquiet
    | served i group k m hfound hmem htook _ _ =>
      right
      have hgroup : group ∈ s.pendingGroups :=
        (kept_sublist s.pendingGroups).subset (List.mem_of_getElem? hfound)
      exact ⟨k, m, List.mem_flatMap.mpr ⟨group, hgroup, hmem⟩, htook⟩
  | pollTasks during =>
    obtain ⟨hpolled, -⟩ := pollTasks_cases qt during s
    cases hpolled with
    | idle hquiet _ _ => exact Or.inl hquiet
    | served i item m hfound htook _ _ =>
      right
      exact ⟨item.task, m, List.mem_map_of_mem (List.mem_of_getElem? hfound), htook⟩
  | request d cmd data written m =>
    apply tookOne_onHost
    exact (HostState.quiet_request qt d cmd data written m).weaken (fun _ _ hq => hq)
      fun _ _ hq => Or.inl hq
  | tryNext k => exact tookOne_onHost (HostState.tryNext_tookOne k)
  | waitNext k during => exact tookOne_onHost (HostState.waitNextWhile_tookOne k during)
  | process op =>
    apply tookOne_onHost
    exact ((HostState.keptOutside_quiet qt).process op).weaken (fun _ _ hq => hq)
      fun _ _ hq => Or.inl hq

theorem created_step (qt : Qt) (op : SchedulerOp) (s : Schedulers) :
    s.host.created ≤ (op.action qt s).1.host.created := by
  obtain hquiet | ⟨k, m, -, htook⟩ := tookOne_step qt op s
  · exact hquiet.created
  · exact htook.created

end Schedulers

end Stdiolink.Js
