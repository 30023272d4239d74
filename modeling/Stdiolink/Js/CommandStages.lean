/-
  Stdiolink.Js.CommandStages — the stages of a command.

  A command is followed through the service by its stage: where its promise is, and which messages
  were taken of its task.  Only a poll that serves the command's own entry takes one, so the stage
  moves on with the messages, one at a time.

  Main results:
    • `Stage.pollTasks`, `Stage.pollGroups` — what a poll does to the stage;
    • `Stage.resumed`  — what the settled promise does to it;
    • `followed_step`, `followed_run` — every command stays at a stage, along every run.
-/
import Stdiolink.Js.Commands

namespace Stdiolink.Js

open Stdiolink.Lib
open Stdiolink.Protocol
open Stdiolink.Host
open Schedulers

/-! ## §1. The stages. -/

/-- The schedulers hold nothing of a task. -/
structure Away (s : Schedulers) (k : Nat) : Prop where
  tasks : s.tasksOf k = []
  groups : s.groupsOf k = []

/-- Only events were taken of the task. -/
def OnlyEvents (k : Nat) (h : List JsEvent) : Prop := ∀ m ∈ takenOf k h, m.isTerminal = false

/-- Events were taken of the task, and then this message. -/
def EventsAnd (k : Nat) (h : List JsEvent) (m : Message) : Prop :=
  ∃ evs, takenOf k h = evs ++ [m] ∧ ∀ e ∈ evs, e.isTerminal = false

/-- The groups that wait for the command do so until its deadline. -/
def Timed (s : Schedulers) (c : Command) : Prop :=
  ∀ group ∈ s.groupsOf c.task, group.timeoutMs = toInt32 (c.deadline - group.started)

/-- **The stages of a command**; the last argument tells whether its wait was given up. -/
inductive Stage (h : List JsEvent) (s : Service) (c : Command) : Bool → Prop where
  | scheduled (hmode : c.timeoutMs = 0) (hopen : c.result = none)
      (htasks : s.schedulers.tasksOf c.task = [⟨c.task, c.awaiting⟩])
      (hgroups : s.schedulers.groupsOf c.task = []) (hevents : OnlyEvents c.task h) :
      Stage h s c false
  | grouped (hmode : 0 < c.timeoutMs) (hopen : c.result = none) (waitMs : Int) (started : Nat)
      (htasks : s.schedulers.tasksOf c.task = [])
      (hgroups : s.schedulers.groupsOf c.task = [⟨[c.task], waitMs, started, c.awaiting⟩])
      (hwaitMs : waitMs = toInt32 (c.deadline - started)) (hevents : OnlyEvents c.task h) :
      Stage h s c false
  | answered (hopen : c.result = none) (haway : Away s.schedulers c.task) (value : Settlement)
      (m : Message) (hmsg : value.msg = some m) (htaken : EventsAnd c.task h m)
      (hends : c.timeoutMs = 0 → m.isTerminal = true) (hjob : (c.awaiting, value) ∈ s.jobs) :
      Stage h s c false
  | lapsed (hmode : 0 < c.timeoutMs) (hopen : c.result = none) (haway : Away s.schedulers c.task)
      (hevents : OnlyEvents c.task h) (hjob : (c.awaiting, .null) ∈ s.jobs) : Stage h s c true
  | settled (haway : Away s.schedulers c.task) (m : Message) (htaken : EventsAnd c.task h m)
      (hends : m.isTerminal = true) (hresult : c.result = some (endsWith c.cmd m))
      (hfilled : 0 < c.timeoutMs → emptyDone m = false) : Stage h s c false
  | failed (hmode : 0 < c.timeoutMs) (haway : Away s.schedulers c.task)
      (hevents : OnlyEvents c.task h) (e : JsError) (hresult : c.result = some (.rejected e))
      (hdata : e.data = none) : Stage h s c true
  /-- The answer was null, and the command waits on, or has ended with an error. -/
  | emptied {b : Bool} (hmode : 0 < c.timeoutMs) (evs more : List Message) (m : Message)
      (htaken : takenOf c.task h = evs ++ m :: more) (hevents : ∀ e ∈ evs, e.isTerminal = false)
      (hempty : emptyDone m = true) (hresult : c.result ≠ some (.resolved .null))
      (htimed : Timed s.schedulers c) : Stage h s c b

variable {events : List JsEvent} {c : Machine.Config Service JsEvent} {b : Bool} {j : Nat}

theorem Schedulers.Untouched.away {k : Nat} {s s' : Schedulers} (hu : Untouched k s s' events)
    (h : Away s k) : Away s' k where
  tasks := hu.tasks.trans h.tasks
  groups := hu.groups.trans h.groups

theorem Schedulers.Untouched.taken_eq {k : Nat} {s s' : Schedulers} (hu : Untouched k s s' events)
    (h : List JsEvent) :
    takenOf k (h ++ events) = takenOf k h := by
  rw [takenOf_append, hu.taken, List.append_nil]

/-- A command stays at its stage while others act. -/
theorem Stage.beside {h : List JsEvent} {s s' : Service} {c : Command} (hstage : Stage h s c b)
    (hu : Untouched c.task s.schedulers s'.schedulers events)
    (hjob : c.result = none → ∀ value, (c.awaiting, value) ∈ s.jobs → (c.awaiting, value) ∈ s'.jobs) :
    Stage (h ++ events) s' c b := by
  have htaken := hu.taken_eq h
  have hevents : OnlyEvents c.task h → OnlyEvents c.task (h ++ events) := by
    intro hold
    unfold OnlyEvents
    rw [htaken]
    exact hold
  have hand : ∀ m, EventsAnd c.task h m → EventsAnd c.task (h ++ events) m := by
    intro m hold
    unfold EventsAnd
    rw [htaken]
    exact hold
  cases hstage with
  | scheduled hmode hopen htasks hgroups hold =>
    exact .scheduled hmode hopen (hu.tasks.trans htasks) (hu.groups.trans hgroups) (hevents hold)
  | grouped hmode hopen waitMs started htasks hgroups hwaitMs hold =>
    exact .grouped hmode hopen waitMs started (hu.tasks.trans htasks) (hu.groups.trans hgroups)
      hwaitMs (hevents hold)
  | answered hopen haway value m hmsg hold hends hin =>
    exact .answered hopen (hu.away haway) value m hmsg (hand m hold) hends (hjob hopen value hin)
  | lapsed hmode hopen haway hold hin =>
    exact .lapsed hmode hopen (hu.away haway) (hevents hold) (hjob hopen .null hin)
  | settled haway m hold hends hresult hfilled =>
    exact .settled (hu.away haway) m (hand m hold) hends hresult hfilled
  | failed hmode haway hold e hresult hdata =>
    exact .failed hmode (hu.away haway) (hevents hold) e hresult hdata
  | emptied hmode evs more m hold hbefore hempty hresult htimed =>
    refine .emptied hmode evs more m (htaken.trans hold) hbefore hempty hresult ?_
    intro group hgroup
    rw [hu.groups] at hgroup
    exact htimed group hgroup

/-- The messages that were taken stay where they are. -/
theorem Stage.still_emptied {h : List JsEvent} {s' : Service} {c : Command}
    (hmode : 0 < c.timeoutMs) {evs more : List Message} {m : Message}
    (htaken : takenOf c.task h = evs ++ m :: more) (hevents : ∀ e ∈ evs, e.isTerminal = false)
    (hempty : emptyDone m = true) (hresult : c.result ≠ some (.resolved .null))
    (htimed : Timed s'.schedulers c) : Stage (h ++ events) s' c b := by
  refine .emptied hmode evs (more ++ takenOf c.task events) m ?_ hevents hempty hresult htimed
  rw [takenOf_append, htaken, List.append_assoc]
  rfl

/-! ## §2. A poll. -/

section Poll

variable (qt : Qt) {h : List JsEvent} {s : Service} {c : Command} {b : Bool}

variable (hstage : Stage h s c b)

include hstage in
/-- An operation that leaves the task of the command alone. -/
theorem Stage.untouched (op : SchedulerOp)
    (hu : Untouched c.task s.schedulers (op.action qt s.schedulers).1
      (op.action qt s.schedulers).2) :
    Stage (h ++ (after qt op s).2) (after qt op s).1 c b :=
  hstage.beside hu fun _ _ hjob => List.mem_append_left _ hjob

include hstage in
/-- **A poll of the tasks** takes events, up to the message that ends the task. -/
theorem Stage.pollTasks (during : List ProcessOp)
    (hopen : OnlyEvents c.task (h ++ (pollTasks qt during s.schedulers).2) →
      (pollTasks qt during s.schedulers).1.host.isDone c.task = false) :
    Stage (h ++ (after qt (.pollTasks during) s).2) (after qt (.pollTasks during) s).1 c b := by
  have haside : s.schedulers.tasksOf c.task = [] →
      Stage (h ++ (after qt (.pollTasks during) s).2) (after qt (.pollTasks during) s).1 c b :=
    fun hnone => hstage.untouched qt (.pollTasks during) (untouched_pollTasks qt during hnone)
  cases hstage with
  | scheduled hmode hunsettled htasks hgroups hevents =>
    have hgroups' := (groupsOf_pollTasks qt during s.schedulers c.task).trans hgroups
    have hpolled := pollTasks_own qt during htasks fun hnone => hopen (by
      unfold OnlyEvents
      rw [takenOf_append, hnone, List.append_nil]
      exact hevents)
    cases hpolled with
    | waits htasks' htaken =>
      refine .scheduled hmode hunsettled (htasks'.trans htasks) hgroups' ?_
      intro m hm
      rw [takenOf_append, List.mem_append] at hm
      obtain hm | hm := hm
      · exact hevents m hm
      · exact htaken m hm
    | ended m hterminal htasks' htaken hjob =>
      refine .answered hunsettled ⟨htasks', hgroups'⟩ (.message m) m rfl ⟨_, ?_, hevents⟩
        (fun _ => hterminal) (List.mem_append_right _ hjob)
      rw [takenOf_append]
      exact congrArg _ htaken
  | grouped _ _ _ _ htasks _ _ _ => exact haside htasks
  | answered _ haway _ _ _ _ _ _ => exact haside haway.tasks
  | lapsed _ _ haway _ _ => exact haside haway.tasks
  | settled haway _ _ _ _ _ => exact haside haway.tasks
  | failed _ haway _ _ _ _ => exact haside haway.tasks
  | emptied hmode evs more m htaken hevents hempty hresult htimed =>
    refine .still_emptied hmode htaken hevents hempty hresult ?_
    intro group hgroup
    have hsame := groupsOf_pollTasks qt during s.schedulers c.task
    exact htimed group (hsame ▸ hgroup)

include hstage in
/-- **A poll of the groups** takes one message, or gives up. -/
theorem Stage.pollGroups (timeoutMs : Int) (clock : Nat → Nat) (during : List ProcessOp)
    (hvalid : (pollGroups qt timeoutMs clock during s.schedulers).1.host.isValid c.task = true)
    (hopen : OnlyEvents c.task (h ++ (pollGroups qt timeoutMs clock during s.schedulers).2) →
      (pollGroups qt timeoutMs clock during s.schedulers).1.host.isDone c.task = false) :
    Stage (h ++ (after qt (.pollGroups timeoutMs clock during) s).2)
      (after qt (.pollGroups timeoutMs clock during) s).1 c
      (b || s.schedulers.lapses clock c.task) := by
  have haside : s.schedulers.groupsOf c.task = [] →
      Stage (h ++ (after qt (.pollGroups timeoutMs clock during) s).2)
        (after qt (.pollGroups timeoutMs clock during) s).1 c
        (b || s.schedulers.lapses clock c.task) := by
    intro hnone
    rw [lapses_none hnone, Bool.or_false]
    exact hstage.untouched qt (.pollGroups timeoutMs clock during)
      (untouched_pollGroups qt timeoutMs clock during hnone)
  cases hstage with
  | scheduled _ _ _ hgroups _ => exact haside hgroups
  | grouped hmode hunsettled waitMs started htasks hgroups hwaitMs hevents =>
    have htasks' :=
      (tasksOf_pollGroups qt timeoutMs clock during s.schedulers c.task).trans htasks
    have hsame : takenOf c.task (pollGroups qt timeoutMs clock during s.schedulers).2 = [] →
        OnlyEvents c.task (h ++ (pollGroups qt timeoutMs clock during s.schedulers).2) := by
      intro hnone
      unfold OnlyEvents
      rw [takenOf_append, hnone, List.append_nil]
      exact hevents
    cases hlate : s.schedulers.lapses clock c.task with
    | true =>
      obtain ⟨hgroups', htaken, hjob⟩ :=
        pollGroups_late qt timeoutMs clock during hgroups hlate
      exact .lapsed hmode hunsettled ⟨htasks', hgroups'⟩ (hsame htaken)
        (List.mem_append_right _ hjob)
    | false =>
      have hpolled := pollGroups_own qt timeoutMs clock during hgroups hlate hvalid
        fun hnone => hopen (hsame hnone)
      cases hpolled with
      | waits hgroups' htaken =>
        exact .grouped hmode hunsettled waitMs started htasks' (hgroups'.trans hgroups) hwaitMs
          (hsame htaken)
      | served m hgroups' htaken hjob =>
        refine .answered hunsettled ⟨htasks', hgroups'⟩ (.item 0 m) m rfl ⟨_, ?_, hevents⟩
          (fun hzero => by omega) (List.mem_append_right _ hjob)
        rw [takenOf_append]
        exact congrArg _ htaken
  | answered _ haway _ _ _ _ _ _ => exact haside haway.groups
  | lapsed _ _ haway _ _ => exact haside haway.groups
  | settled haway _ _ _ _ _ => exact haside haway.groups
  | failed _ haway _ _ _ _ => exact haside haway.groups
  | emptied hmode evs more m htaken hevents hempty hresult htimed =>
    refine .still_emptied hmode htaken hevents hempty hresult ?_
    intro group hgroup
    have hsub := (groups_pollGroups qt timeoutMs clock during s.schedulers).filter
      fun group => decide (c.task ∈ group.tasks)
    exact htimed group (hsub.subset hgroup)

end Poll

/-! ## §3. A command that goes on. -/

/-- The next wait after this value is refused, before the task has ended. -/
def refusesWait (c : Command) (value : Settlement) (now : Nat) : Bool :=
  value.msg.any fun msg =>
    !msg.isTerminal && (0 < c.timeoutMs && toInt32 (c.deadline - now) < -1)

section Resumed

variable {qt : Qt} {h : List JsEvent} {s : Service} {j : Nat} {c : Command} {b : Bool}
variable {value : Settlement} {now : Nat} {rest : List (Nat × Settlement)}
variable {r : Service × List JsEvent}

/-- The promise was settled with the message `m`, the first after the events. -/
theorem Stage.resumed_message (hp : Proper h s) (hc : s.commands[j]? = some c)
    (hopen : c.result = none) (haway : Away s.schedulers c.task) (m : Message)
    (hmsg : value.msg = some m) (htaken : EventsAnd c.task h m)
    (hends : c.timeoutMs = 0 → m.isTerminal = true)
    (hresumed : Resumed qt j c value now { s with jobs := rest } r) :
    ∃ c', r.1.commands[j]? = some c' ∧ Stage (h ++ r.2) r.1 c' (refusesWait c value now) := by
  have hk : c.task < s.schedulers.host.created := hp.tasks j c hc
  have hrefuses : refusesWait c value now =
      (!m.isTerminal && (decide (0 < c.timeoutMs) &&
        decide (toInt32 (c.deadline - now) < -1))) := by
    unfold refusesWait
    rw [hmsg]
    rfl
  have hmsg' : ∀ msg, value.msg = some msg → msg = m := by
    intro msg h
    rw [hmsg] at h
    exact (Option.some.inj h).symm
  rw [hrefuses]
  cases hresumed with
  | ends result hresult during hstate hevents =>
    rw [hstate, hevents]
    refine ⟨_, set_self hc, ?_⟩
    have hu := untouched_processes qt during s.schedulers c.task
    have htaken' : EventsAnd c.task (h ++
        (onHost (Action.forEach during (ProcessOp.action qt)) s.schedulers).2) m := by
      unfold EventsAnd
      rw [hu.taken_eq]
      exact htaken
    cases hresult with
    | answered msg hmsg hgo =>
      obtain rfl := hmsg' msg hmsg
      have hterminal : msg.isTerminal = true := by
        obtain hmode | hanswer := hgo
        · exact hends hmode
        · by_contra hevent
          exact hanswer (answer_null.mpr (Or.inl (Bool.eq_false_iff.mpr hevent)))
      rw [hterminal]
      refine .settled (hu.away haway) msg htaken' hterminal rfl ?_
      intro hmode
      obtain hzero | hanswer := hgo
      · have hmode : 0 < c.timeoutMs := hmode
        omega
      · rw [Bool.eq_false_iff]
        intro hempty
        exact hanswer (answer_null.mpr (Or.inr hempty))
    | without e hdata hnone =>
      rw [hmsg] at hnone
      cases hnone
    | refused msg hmsg hmode hnull hwait e hdata =>
      obtain rfl := hmsg' msg hmsg
      obtain hevent | hempty := answer_null.mp hnull
      · rw [hevent, decide_eq_true hmode, decide_eq_true hwait]
        refine .failed hmode (hu.away haway) ?_ e rfl hdata
        obtain ⟨evs, heq, hevs⟩ := htaken'
        intro m' hm'
        have hm' : m' ∈ takenOf c.task (h ++
          (onHost (Action.forEach during (ProcessOp.action qt)) s.schedulers).2) := hm'
        rw [heq, List.mem_append, List.mem_singleton] at hm'
        obtain hm' | rfl := hm'
        · exact hevs m' hm'
        · exact hevent
      · obtain ⟨evs, heq, hevs⟩ := htaken
        refine .still_emptied hmode heq hevs hempty (by simp) ?_
        intro group hgroup
        have hnone := (hu.away haway).groups
        exact absurd hgroup (by simp [hnone])
  | again msg hmsg hmode hnull waitMs hwaitMs hwait hstate hevents =>
    obtain rfl := hmsg' msg hmsg
    have hown := waitAny_own hk haway.groups waitMs now
    rw [hstate, hevents]
    dsimp only
    rw [hown]
    refine ⟨_, set_self hc, ?_⟩
    obtain ⟨evs, heq, hevs⟩ := htaken
    obtain hevent | hempty := answer_null.mp hnull
    · rw [hevent, ← hwaitMs, decide_eq_false hwait, Bool.and_false, Bool.and_false]
      refine .grouped hmode hopen waitMs now haway.tasks
        (groupsOf_concat haway.groups (List.mem_singleton_self _) _) hwaitMs ?_
      intro m' hm'
      have hm' : m' ∈ takenOf c.task (h ++ []) := hm'
      rw [List.append_nil, heq, List.mem_append, List.mem_singleton] at hm'
      obtain hm' | rfl := hm'
      · exact hevs m' hm'
      · exact hevent
    · refine .still_emptied hmode heq hevs hempty (by simp [hopen]) ?_
      intro group hgroup
      rw [groupsOf_concat haway.groups (List.mem_singleton_self _) _,
        List.mem_singleton] at hgroup
      rw [hgroup]
      exact hwaitMs

/-- The answer was null, and the next promise was settled. -/
theorem Stage.resumed_emptied (hc : s.commands[j]? = some c) (hopen : c.result = none)
    (hmode : 0 < c.timeoutMs) {evs more : List Message} {m : Message}
    (htaken : takenOf c.task h = evs ++ m :: more) (hevents : ∀ e ∈ evs, e.isTerminal = false)
    (hempty : emptyDone m = true) (htimed : Timed s.schedulers c)
    (hresumed : Resumed qt j c value now { s with jobs := rest } r) (b : Bool) :
    ∃ c', r.1.commands[j]? = some c' ∧ Stage (h ++ r.2) r.1 c' b := by
  cases hresumed with
  | ends result hends during hstate hevents' =>
    rw [hstate]
    refine ⟨_, set_self hc, ?_⟩
    refine .still_emptied hmode htaken hevents hempty ?_ htimed
    intro hnull
    have hnull : result = .resolved .null := Option.some.inj hnull
    cases hends with
    | answered msg hmsg hgo =>
      obtain hzero | hanswer := hgo
      · omega
      · exact hanswer (endsWith_null hnull)
    | without e hdata hmsg => cases hnull
    | refused msg hmsg _ _ _ e hdata => cases hnull
  | again msg hmsg _ hnull waitMs hwaitMs hwait hstate hevents' =>
    rw [hstate]
    refine ⟨_, set_self hc, ?_⟩
    refine .still_emptied hmode htaken hevents hempty (by simp [hopen]) ?_
    intro group hgroup
    obtain ⟨result, heq⟩ | ⟨-, heq⟩ := waitAny_cases [c.task] waitMs now s.schedulers
    · dsimp only at hgroup
      rw [heq] at hgroup
      exact htimed group hgroup
    · dsimp only at hgroup
      rw [heq] at hgroup
      have hin := List.mem_filter.mp hgroup
      obtain hold | hnew := List.mem_append.mp hin.1
      · exact htimed group (List.mem_filter.mpr ⟨hold, hin.2⟩)
      · rw [List.mem_singleton.mp hnew]
        exact hwaitMs

/-- **The command that awaited the promise.** -/
theorem Stage.resumed (hp : Proper h s) (hc : s.commands[j]? = some c) (hopen : c.result = none)
    (hjobs : s.jobs = (c.awaiting, value) :: rest) (hstage : Stage h s c b)
    (hresumed : Resumed qt j c value now { s with jobs := rest } r) :
    ∃ c', r.1.commands[j]? = some c' ∧ Stage (h ++ r.2) r.1 c' (b || refusesWait c value now) := by
  have hhead : (c.awaiting, value) ∈ s.jobs := by
    rw [hjobs]
    exact List.mem_cons_self
  cases hstage with
  | scheduled _ _ htasks _ _ =>
    -- its promise is pending
    refine absurd hhead (hp.no_job (List.mem_append_left _ ?_))
    have hin : (⟨c.task, c.awaiting⟩ : PendingTask) ∈ s.schedulers.tasksOf c.task := by
      rw [htasks]
      exact List.mem_singleton_self _
    exact List.mem_map_of_mem (f := PendingTask.promise) (List.mem_filter.mp hin).1
  | grouped _ _ waitMs started _ hgroups _ _ =>
    refine absurd hhead (hp.no_job (List.mem_append_right _ ?_))
    have hin : (⟨[c.task], waitMs, started, c.awaiting⟩ : PendingGroup) ∈
        s.schedulers.groupsOf c.task := by
      rw [hgroups]
      exact List.mem_singleton_self _
    exact List.mem_map_of_mem (f := PendingGroup.promise) (List.mem_filter.mp hin).1
  | answered _ haway value' m hmsg htaken hends hjob =>
    obtain rfl := hp.job_unique hjobs hjob
    rw [Bool.false_or]
    exact Stage.resumed_message hp hc hopen haway m hmsg htaken hends hresumed
  | lapsed hmode _ haway hevents hjob =>
    obtain rfl := hp.job_unique hjobs hjob
    rw [Bool.true_or]
    cases hresumed with
    | ends result hresult during hstate hevents' =>
      rw [hstate, hevents']
      refine ⟨_, set_self hc, ?_⟩
      have hu := untouched_processes qt during s.schedulers c.task
      cases hresult with
      | answered msg hmsg hgo => cases hmsg
      | without e hdata hnone =>
        refine .failed hmode (hu.away haway) ?_ e rfl hdata
        unfold OnlyEvents
        rw [hu.taken_eq]
        exact hevents
      | refused msg hmsg _ _ _ e hdata => cases hmsg
    | again msg hmsg _ _ _ _ _ _ _ => cases hmsg
  | settled _ m _ _ hresult _ =>
    rw [hopen] at hresult
    cases hresult
  | failed _ _ _ e hresult _ =>
    rw [hopen] at hresult
    cases hresult
  | emptied hmode evs more m htaken hevents hempty _ htimed =>
    exact Stage.resumed_emptied hc hopen hmode htaken hevents hempty htimed hresumed _

end Resumed

/-! ## §4. Every operation. -/

/-- The wait of the command `j` is given up in this step: it is found expired, or refused. -/
def givesUp (j : Nat) (s : Service) : ServiceOp → Bool
  | .call d _ _ _ _ timeoutMs _ =>
    !s.busy d && (j = s.commands.length && (0 < timeoutMs && toInt32 timeoutMs < -1))
  | .runJob now _ =>
    s.commands[j]?.any fun c =>
      s.jobs.head?.any fun job => Service.awaits job.1 c && refusesWait c job.2 now
  | .other (.pollGroups _ clock _) =>
    s.commands[j]?.any fun c => s.schedulers.lapses clock c.task
  | .other _ => false

@[simp] theorem givesUp_call (j : Nat) (s : Service) (d : Nat) (cmd : String) (data : Json)
    (written : Bool) (m : HostState.Meanwhile) (timeoutMs now : Nat) :
    givesUp j s (.call d cmd data written m timeoutMs now) =
      (!s.busy d && (decide (j = s.commands.length) &&
        (decide (0 < timeoutMs) && decide (toInt32 timeoutMs < -1)))) := rfl

@[simp] theorem givesUp_runJob (j : Nat) (s : Service) (now : Nat) (m : HostState.Meanwhile) :
    givesUp j s (.runJob now m) = s.commands[j]?.any fun c =>
      s.jobs.head?.any fun job => Service.awaits job.1 c && refusesWait c job.2 now := rfl

theorem givesUp_other_none {s : Service} (hnone : s.commands[j]? = none) (op : SchedulerOp) :
    givesUp j s (.other op) = false := by
  cases op with
  | pollGroups timeoutMs clock during =>
    show (s.commands[j]?.any fun c => s.schedulers.lapses clock c.task) = false
    rw [hnone]
    rfl
  | _ => rfl

section Step

variable (qt : Qt) {h : List JsEvent} {s : Service}

/-- **A job**, for every command. -/
theorem Stage.runJob (hp : Proper h s) (now : Nat) (m : HostState.Meanwhile) {j : Nat} {c : Command}
    (hc : s.commands[j]? = some c) {b : Bool} (hstage : Stage h s c b) :
    ∃ c', (Service.runJob qt now m s).1.commands[j]? = some c' ∧
      Stage (h ++ (Service.runJob qt now m s).2) (Service.runJob qt now m s).1 c'
        (b || givesUp j s (.runJob now m)) := by
  have hgives : ∀ p value rest, s.jobs = (p, value) :: rest →
      givesUp j s (.runJob now m) = (Service.awaits p c && refusesWait c value now) := by
    intro p value rest hjobs
    rw [givesUp_runJob, hc, hjobs]
    rfl
  -- a job of another promise
  have hother : ∀ p value rest, s.jobs = (p, value) :: rest → Service.awaits p c = false →
      ∀ r : Service × List JsEvent, r.1.commands[j]? = some c →
        Untouched c.task s.schedulers r.1.schedulers r.2 → (∀ job ∈ rest, job ∈ r.1.jobs) →
        ∃ c', r.1.commands[j]? = some c' ∧
          Stage (h ++ r.2) r.1 c' (b || givesUp j s (.runJob now m)) := by
    intro p value rest hjobs hawaits r hcommands hu hkeeps
    refine ⟨c, hcommands, ?_⟩
    rw [hgives p value rest hjobs, hawaits, Bool.false_and, Bool.or_false]
    refine hstage.beside hu fun hopen value' hjob => hkeeps _ ?_
    rw [hjobs] at hjob
    obtain heq | hin := List.mem_cons.mp hjob
    · unfold Service.awaits at hawaits
      rw [hopen, ← (Prod.mk.inj heq).1] at hawaits
      simp at hawaits
    · exact hin
  obtain ⟨hjobs, heq⟩ | ⟨p, value, rest, hjobs, hjob⟩ := Service.runJob_cases qt now m s
  · rw [heq]
    have hnone : givesUp j s (.runJob now m) = false := by
      rw [givesUp_runJob, hc, hjobs]
      rfl
    rw [hnone, Bool.or_false, List.append_nil]
    exact ⟨c, hc, hstage⟩
  · obtain ⟨hnone, heq⟩ | ⟨i, ci, hci, hopen, hawaiting, heq⟩ := hjob
    · rw [heq]
      refine hother p value rest hjobs (hnone c (List.mem_of_getElem? hc)) _ hc ?_
        fun job hin => hin
      exact ⟨rfl, rfl, rfl⟩
    · have hresumed := Service.resume_cases qt i ci value now m { s with jobs := rest }
      rw [heq]
      by_cases hij : j = i
      · -- its own job
        subst hij
        obtain rfl : c = ci := Option.some.inj (hc.symm.trans hci)
        subst hawaiting
        have hawaits : Service.awaits c.awaiting c = true := by
          unfold Service.awaits
          rw [hopen]
          simp
        rw [hgives _ value rest hjobs, hawaits, Bool.true_and]
        exact hstage.resumed hp hc hopen hjobs hresumed
      · obtain ⟨hothers, huntouched, hkept⟩ := hresumed.others
        refine hother p value rest hjobs ?_ _ ((hothers j hij).trans hc) ?_ ?_
        · -- two commands do not await the same promise
          rw [Bool.eq_false_iff]
          intro hawaits
          unfold Service.awaits at hawaits
          rw [Bool.and_eq_true, Option.isNone_iff_eq_none, decide_eq_true_eq] at hawaits
          exact hij (hp.distinct j i c ci hc hci hawaits.1 hopen (by omega))
        · exact huntouched c.task fun htask => hij (hp.apart j i c ci hc hci htask)
        · intro job hin
          rw [hkept]
          exact List.mem_append_left _ hin

theorem Stage.other (hp : Proper h s) (op : SchedulerOp) (hname : s.mayName op.names = true)
    {j : Nat} {c : Command} (hc : s.commands[j]? = some c) {b : Bool} (hstage : Stage h s c b) :
    Stage (h ++ (after qt op s).2) (after qt op s).1 c (b || givesUp j s (.other op)) := by
  have hnext := (hp.other qt op hname).sound
  have hk : c.task < (op.action qt s.schedulers).1.host.created :=
    Nat.lt_of_lt_of_le (hp.tasks j c hc) (created_step qt op s.schedulers)
  have hdone : OnlyEvents c.task (h ++ (op.action qt s.schedulers).2) →
      (op.action qt s.schedulers).1.host.isDone c.task = false :=
    fun hevents => hnext.notDone hk hevents
  have hquiet : op.polls = false → Stage (h ++ (after qt op s).2) (after qt op s).1 c b := by
    intro hpoll
    refine hstage.untouched qt op (untouched_step qt op s.schedulers hpoll ?_)
    -- the script cannot name the task of a command
    intro hin
    have hthis := List.all_eq_true.mp hname c.task hin
    rw [Bool.and_eq_true, decide_eq_true_eq, decide_eq_true_eq] at hthis
    exact hthis.2 (List.mem_map_of_mem (List.mem_of_getElem? hc))
  cases op with
  | pollGroups timeoutMs clock during =>
    have hgives : givesUp j s (.other (.pollGroups timeoutMs clock during)) =
        s.schedulers.lapses clock c.task := by
      unfold givesUp
      rw [hc]
      rfl
    rw [hgives]
    exact hstage.pollGroups qt timeoutMs clock during (decide_eq_true hk) hdone
  | pollTasks during =>
    have hgives : givesUp j s (.other (.pollTasks during)) = false := rfl
    rw [hgives, Bool.or_false]
    exact hstage.pollTasks qt during hdone
  | waitAny tasks timeoutMs now => exact (Bool.or_false b).symm ▸ hquiet rfl
  | scheduleTask k => exact (Bool.or_false b).symm ▸ hquiet rfl
  | request d cmd data written m => exact (Bool.or_false b).symm ▸ hquiet rfl
  | tryNext k => exact (Bool.or_false b).symm ▸ hquiet rfl
  | waitNext k during => exact (Bool.or_false b).symm ▸ hquiet rfl
  | process op => exact (Bool.or_false b).symm ▸ hquiet rfl

section Call

variable (d : Nat) (cmd : String) (data : Json) (written : Bool) (m : HostState.Meanwhile)
  (timeoutMs now : Nat)

/-- The new command. -/
theorem Stage.called (hp : Proper h s) {r : Service × List JsEvent}
    (hcalled : Service.Called qt d cmd data written m timeoutMs now s r) :
    ∃ c', r.1.commands[s.commands.length]? = some c' ∧
      Stage (h ++ r.2) r.1 c' (0 < timeoutMs && toInt32 timeoutMs < -1) := by
  have hsound := requested_sound qt d cmd data written m hp
  have hcreated := requested_created qt (s := s) d cmd data written m
  -- nothing is known of the new task
  obtain ⟨htasks, hgroups, htaken⟩ := hp.sound.fresh (Nat.le_refl _)
  have hu := requested_untouched qt (s := s) d cmd data written m s.schedulers.host.created
  have haway := hu.away ⟨htasks, hgroups⟩
  have hevents' : OnlyEvents s.schedulers.host.created
      (h ++ (Service.requested qt d cmd data written m s.schedulers).2) := by
    unfold OnlyEvents
    rw [hu.taken_eq, htaken]
    intro m' hm'
    cases hm'
  cases hcalled with
  | scheduled hmode hstate hevents =>
    rw [hstate, hevents, hmode]
    refine ⟨_, List.getElem?_concat_length, ?_⟩
    refine .scheduled rfl rfl ?_ haway.groups hevents'
    show List.filter _ (_ ++ [_]) = _
    have hnone := haway.tasks
    unfold tasksOf at hnone
    have hthis : (fun item : PendingTask => decide (item.task = s.schedulers.host.created))
        ⟨s.schedulers.host.created, s.schedulers.promises⟩ = true := decide_eq_true rfl
    rw [List.filter_append]
    exact congrArg₂ (· ++ ·) hnone (List.filter_cons_of_pos hthis)
  | refused hmode hwait e hdata hstate hevents =>
    rw [hstate, hevents, decide_eq_true hmode, decide_eq_true hwait]
    refine ⟨_, List.getElem?_concat_length, ?_⟩
    exact .failed hmode haway hevents' e rfl hdata
  | waits hmode hwait hstate hevents =>
    have hown := waitAny_own hcreated haway.groups (toInt32 timeoutMs) now
    rw [hstate, hevents, hown, decide_eq_false hwait, Bool.and_false]
    refine ⟨_, List.getElem?_concat_length, ?_⟩
    rw [List.append_nil]
    refine .grouped hmode rfl (toInt32 timeoutMs) now haway.tasks
      (groupsOf_concat haway.groups (List.mem_singleton_self _) _) ?_ hevents'
    show _ = toInt32 (now + timeoutMs - now)
    rw [Nat.add_sub_cancel_left]

end Call

end Step

/-! ## §5. Every run. -/

/-- The command `j` is at a stage, or has not been called. -/
def Followed (j : Nat) (c : Machine.Config Service JsEvent) (b : Bool) : Prop :=
  (c.state.commands[j]? = none ∧ b = false) ∨
    ∃ command, c.state.commands[j]? = some command ∧ Stage c.history c.state command b

/-- A call, for a command that is followed. -/
theorem followed_call (qt : Qt) (d : Nat) (cmd : String) (data : Json) (written : Bool)
    (m : HostState.Meanwhile) (timeoutMs now : Nat) (hp : Proper c.history c.state)
    (hbusy : c.state.busy d = false) (hj : Followed j c b) {r : Service × List JsEvent}
    (hcalled : Service.Called qt d cmd data written m timeoutMs now c.state r) :
    Followed j ⟨r.1, c.history ++ r.2⟩
      (b || givesUp j c.state (.call d cmd data written m timeoutMs now)) := by
  obtain ⟨⟨c', hcommands, -, -⟩, huntouched, hjobs⟩ :=
    Service.Called.others qt d cmd data written m timeoutMs now hcalled
  have hgives : givesUp j c.state (.call d cmd data written m timeoutMs now) =
      (decide (j = c.state.commands.length) &&
        (decide (0 < timeoutMs) && decide (toInt32 timeoutMs < -1))) := by
    rw [givesUp_call, hbusy]
    rfl
  rw [hgives]
  obtain ⟨hnone, rfl⟩ | ⟨command, hc, hstage⟩ := hj
  · rw [Bool.false_or]
    have hle := List.getElem?_eq_none_iff.mp hnone
    by_cases hlast : j = c.state.commands.length
    · -- the new command
      rw [decide_eq_true hlast, Bool.true_and, hlast]
      exact Or.inr (Stage.called qt d cmd data written m timeoutMs now hp hcalled)
    · rw [decide_eq_false hlast, Bool.false_and]
      left
      refine ⟨?_, rfl⟩
      show r.1.commands[j]? = none
      have hlonger : (c.state.commands ++ [c']).length = c.state.commands.length + 1 := by simp
      rw [hcommands]
      exact List.getElem?_eq_none (by omega)
  · obtain ⟨hlt, -⟩ := List.getElem?_eq_some_iff.mp hc
    rw [decide_eq_false (by omega), Bool.false_and, Bool.or_false]
    right
    refine ⟨command, ?_, hstage.beside (huntouched _ ?_) fun _ value hjob => hjobs _ hjob⟩
    · show r.1.commands[j]? = _
      rw [hcommands, List.getElem?_append_left hlt]
      exact hc
    · have hk := hp.tasks j command hc
      omega

/-- **Every operation keeps the invariant, and moves every command from a stage to a stage.** -/
theorem followed_step (qt : Qt) (hp : Proper c.history c.state) (hj : Followed j c b)
    (op : ServiceOp) :
    Proper ((serviceMachine qt).next c op).history ((serviceMachine qt).next c op).state ∧
      Followed j ((serviceMachine qt).next c op) (b || givesUp j c.state op) := by
  -- an operation that does nothing
  have hskip : ∀ b', b' = false → Proper (c.history ++ []) c.state ∧
      Followed j ⟨c.state, c.history ++ []⟩ (b || b') := by
    intro b' hb'
    rw [hb', Bool.or_false, List.append_nil]
    exact ⟨hp, hj⟩
  cases op with
  | call d cmd data written m timeoutMs now =>
    show Proper (c.history ++ (Service.call qt d cmd data written m timeoutMs now c.state).2)
        (Service.call qt d cmd data written m timeoutMs now c.state).1 ∧
      Followed j ⟨(Service.call qt d cmd data written m timeoutMs now c.state).1,
        c.history ++ (Service.call qt d cmd data written m timeoutMs now c.state).2⟩ _
    cases hbusy : c.state.busy d with
    | true =>
      have hsame : Service.call qt d cmd data written m timeoutMs now c.state = (c.state, []) := by
        unfold Service.call
        rw [hbusy]
        rfl
      rw [hsame]
      apply hskip
      rw [givesUp_call, hbusy]
      rfl
    | false =>
      have hcalled := Service.call_cases qt d cmd data written m timeoutMs now hbusy
      exact ⟨hp.called qt d cmd data written m timeoutMs now hcalled,
        followed_call qt d cmd data written m timeoutMs now hp hbusy hj hcalled⟩
  | runJob now m =>
    refine ⟨hp.runJob qt now m, ?_⟩
    obtain ⟨hnone, rfl⟩ | ⟨command, hc, hstage⟩ := hj
    · left
      constructor
      · show (Service.runJob qt now m c.state).1.commands[j]? = none
        obtain ⟨-, heq⟩ | ⟨p, value, rest, -, ⟨-, heq⟩ | ⟨i, ci, hci, -, -, heq⟩⟩ :=
          Service.runJob_cases qt now m c.state
        · rw [heq]
          exact hnone
        · rw [heq]
          exact hnone
        · rw [heq]
          have hresumed := Service.resume_cases qt i ci value now m { c.state with jobs := rest }
          refine (hresumed.others.1 j ?_).trans hnone
          intro hij
          rw [hij, hci] at hnone
          cases hnone
      · rw [Bool.false_or, givesUp_runJob, hnone]
        rfl
    · exact Or.inr (hstage.runJob qt hp now m hc)
  | other op =>
    show Proper (c.history ++ ((ServiceOp.other op).action qt c.state).2)
        ((ServiceOp.other op).action qt c.state).1 ∧
      Followed j ⟨((ServiceOp.other op).action qt c.state).1,
        c.history ++ ((ServiceOp.other op).action qt c.state).2⟩ _
    have haction : (ServiceOp.other op).action qt c.state =
        if c.state.mayName op.names then after qt op c.state else (c.state, []) := by
      show (if c.state.mayName op.names then Service.onSchedulers (op.action qt)
        else Action.skip) c.state = _
      split
      · rfl
      · rfl
    rw [haction]
    by_cases hname : c.state.mayName op.names = true
    · rw [if_pos hname]
      refine ⟨hp.other qt op hname, ?_⟩
      obtain ⟨hnone, rfl⟩ | ⟨command, hc, hstage⟩ := hj
      · left
        refine ⟨hnone, ?_⟩
        rw [Bool.false_or, givesUp_other_none hnone]
      · exact Or.inr ⟨command, hc, hstage.other qt hp op hname hc⟩
    · rw [if_neg hname]
      apply hskip
      -- the script names no task in a poll
      unfold givesUp
      cases op with
      | pollGroups _ _ _ => exact absurd rfl hname
      | _ => rfl

theorem followed_run (qt : Qt) (hp : Proper c.history c.state) (hj : Followed j c b)
    (ops : List ServiceOp) :
    ∃ b', Followed j ((serviceMachine qt).run c ops) b' ∧
      (b' = false ↔ b = false ∧
        (serviceMachine qt).EveryStep (fun c op => givesUp j c.state op = false) c ops) := by
  induction ops generalizing c b with
  | nil => exact ⟨b, hj, by simp⟩
  | cons op ops ih =>
    obtain ⟨hp', hj'⟩ := followed_step qt hp hj op
    obtain ⟨b', hlast, hiff⟩ := ih hp' hj'
    refine ⟨b', hlast, ?_⟩
    rw [hiff, Machine.everyStep_cons, Bool.or_eq_false_iff, and_assoc]

end Stdiolink.Js
