/-
  Stdiolink.Js.Commands — the commands of a proxy beside one another.

  A command acts when it is called and when its promise has been settled: it ends, or it waits
  again.  Each command has a task of its own, and each that is not settled a promise of its own, so
  what one does leaves the others alone.

  Main results:
    • `resume_cases`, `runJob_cases`, `call_cases` — what the operations of the proxies do;
    • `Proper.move`  — tasks and promises stay apart where one command is changed;
    • `Resumed.others`, `Called.others` — what a command leaves of the others.
-/
import Stdiolink.Js.CommandTasks

namespace Stdiolink.Js

open Stdiolink.Lib
open Stdiolink.Protocol
open Stdiolink.Host
open Schedulers

/-! ## §1. How a command goes on. -/

/-- The message that a promise was settled with. -/
def Settlement.msg : Settlement → Option Message
  | .message msg => some msg
  | .item _ msg => some msg
  | _ => none

/-- How a command is settled by the message that ends its task. -/
def endsWith (cmd : String) (m : Message) : CommandResult :=
  match answer cmd m with
  | .ok value => .resolved value
  | .error error => .rejected error

/-- A done message with a payload that counts as null. -/
def emptyDone (m : Message) : Bool := m.status = .done && m.payload.isNullish

variable {cmd : String} {m : Message} {h : List JsEvent} {s : Service} {j : Nat}
  {value : Settlement} {c : Command}

/-- What the loop takes for a command that is still at work. -/
theorem answer_null : answer cmd m = .ok .null ↔ m.isTerminal = false ∨ emptyDone m = true := by
  unfold answer emptyDone Message.isTerminal
  cases m.status with
  | event => simp
  | error => simp
  | done => simp [qjsonToJsValue_eq_null]

theorem endsWith_emptyDone (h : emptyDone m = true) : endsWith cmd m = .resolved .null := by
  unfold endsWith
  rw [answer_null.mpr (Or.inr h)]

/-- An error message keeps its data. -/
theorem endsWith_data {e : JsError} (h : endsWith cmd m = .rejected e) : e.data ≠ none := by
  unfold endsWith answer at h
  cases hstatus : m.status with
  | event => simp [hstatus] at h
  | done => simp [hstatus] at h
  | error =>
    simp only [hstatus, CommandResult.rejected.injEq] at h
    rw [← h]
    exact Option.some_ne_none _

/-- The answer of an ended task is null only if the message is a done one without a payload. -/
theorem endsWith_null (h : endsWith cmd m = .resolved .null) : answer cmd m = .ok .null := by
  unfold endsWith at h
  cases hanswer : answer cmd m with
  | error error =>
    rw [hanswer] at h
    cases h
  | ok value =>
    rw [hanswer] at h
    rw [CommandResult.resolved.inj h]

/-- How a command ends that goes on with this value. -/
inductive Ends (command : Command) (value : Settlement) (now : Nat) : CommandResult → Prop where
  | answered (msg : Message) (hmsg : value.msg = some msg)
      (hgo : command.timeoutMs = 0 ∨ answer command.cmd msg ≠ .ok .null) :
      Ends command value now (endsWith command.cmd msg)
  /-- There is no message. -/
  | without (e : JsError) (hdata : e.data = none) (hmsg : value.msg = none) :
      Ends command value now (.rejected e)
  /-- The next wait is refused. -/
  | refused (msg : Message) (hmsg : value.msg = some msg) (hmode : 0 < command.timeoutMs)
      (hnull : answer command.cmd msg = .ok .null)
      (hwait : toInt32 (command.deadline - now) < -1) (e : JsError) (hdata : e.data = none) :
      Ends command value now (.rejected e)

/-- What a command does that goes on with this value. -/
inductive Resumed (qt : Qt) (j : Nat) (command : Command) (value : Settlement) (now : Nat)
    (s : Service) (r : Service × List JsEvent) : Prop where
  | ends (result : CommandResult) (hends : Ends command value now result) (during : List ProcessOp)
      (state : r.1 = { s with
        schedulers := (onHost (Action.forEach during (ProcessOp.action qt)) s.schedulers).1
        commands := s.commands.set j { command with result := some result } })
      (events : r.2 = (onHost (Action.forEach during (ProcessOp.action qt)) s.schedulers).2)
  | again (msg : Message) (hmsg : value.msg = some msg) (hmode : 0 < command.timeoutMs)
      (hnull : answer command.cmd msg = .ok .null) (waitMs : Int)
      (hwaitMs : waitMs = toInt32 (command.deadline - now)) (hwait : ¬ waitMs < -1)
      (state : r.1 = { s with
        schedulers := (waitAny [command.task] waitMs now s.schedulers).1
        commands := s.commands.set j { command with awaiting := s.schedulers.promises }
        jobs := s.jobs ++ settlements (waitAny [command.task] waitMs now s.schedulers).2 })
      (events : r.2 = (waitAny [command.task] waitMs now s.schedulers).2)

namespace Service

theorem onSchedulers_host (a : Action HostState HostEvent) (s : Service) :
    onSchedulers (onHost a) s =
      ({ s with schedulers := (onHost a s.schedulers).1 }, (onHost a s.schedulers).2) := by
  unfold onSchedulers
  have hnone : settlements (onHost a s.schedulers).2 = [] := settlements_host _
  rw [hnone, List.append_nil]

/-- `target.terminate()` is a few things that the process does. -/
theorem terminate_eq (qt : Qt) (d : Nat) (m : HostState.Meanwhile) (s : HostState) :
    ∃ during, terminate qt d m s = Action.forEach during (ProcessOp.action qt) s := by
  unfold terminate
  rw [Action.bind_apply]
  split
  · unfold HostState.waitForBytesWritten
    cases m.exited with
    | none =>
      exact ⟨[.write d m.wrote, .deliver d m.received], rfl⟩
    | some exit =>
      refine ⟨[.write d m.wrote, .deliver d m.received, .observeExit d exit.1 exit.2], ?_⟩
      simp only [Action.forEach_cons, Action.forEach_nil, Action.seq_apply, Action.skip_apply,
        List.append_nil, ProcessOp.action]
  · exact ⟨[], rfl⟩

variable (qt : Qt)

/-- A command that ends without the processes doing anything. -/
theorem settle_resumed {j : Nat} {command : Command} {value : Settlement} {now : Nat}
    {result : CommandResult} (h : Ends command value now result) (s : Service) :
    Resumed qt j command value now s (settle j command result s) :=
  .ends result h [] rfl rfl

theorem noAnswer_data (host : HostState) (cmd : String) (task timeoutMs : Nat) :
    (noAnswer host cmd task timeoutMs).1.data = none := by
  unfold noAnswer
  split
  · rfl
  · split
    · rfl
    · rfl

/-- **A command that goes on ends, or waits again.** -/
theorem resume_cases (j : Nat) (command : Command) (value : Settlement) (now : Nat)
    (m : HostState.Meanwhile) (s : Service) :
    Resumed qt j command value now s (resume qt j command value now m s) := by
  have hnone : ∀ hmsg : value.msg = none,
      Resumed qt j command value now s (goOn qt j command none now m s) := by
    intro hmsg
    unfold goOn
    dsimp only [Action.bind_apply]
    have hdata := noAnswer_data s.schedulers.host command.cmd command.task command.timeoutMs
    split
    · rw [Action.seq_apply, onSchedulers_host]
      obtain ⟨during, hterminate⟩ := terminate_eq qt command.driver m s.schedulers.host
      have hhost : onHost (terminate qt command.driver m) s.schedulers =
          onHost (Action.forEach during (ProcessOp.action qt)) s.schedulers := by
        unfold onHost
        rw [hterminate]
      rw [hhost]
      exact .ends _ (.without _ hdata hmsg) during rfl (List.append_nil _)
    · rw [Action.seq_apply]
      exact settle_resumed qt (.without _ hdata hmsg) s
  have hsome : ∀ msg, value.msg = some msg →
      Resumed qt j command value now s (goOn qt j command (some msg) now m s) := by
    intro msg hmsg
    unfold goOn
    dsimp only
    have hendsWith : endsWith command.cmd msg = match answer command.cmd msg with
      | .ok value => .resolved value
      | .error error => .rejected error := rfl
    cases hanswer : answer command.cmd msg with
    | error error =>
      rw [hanswer] at hendsWith
      dsimp only at hendsWith ⊢
      rw [← hendsWith]
      exact settle_resumed qt (.answered msg hmsg (Or.inr (by rw [hanswer]; simp))) s
    | ok result =>
      rw [hanswer] at hendsWith
      dsimp only at hendsWith ⊢
      rw [← hendsWith]
      by_cases hmode : command.timeoutMs ≤ 0
      · rw [if_pos hmode]
        exact settle_resumed qt (.answered msg hmsg (Or.inl (by omega))) s
      · rw [if_neg hmode]
        by_cases hnull : result = .null
        · rw [if_neg (by simpa using hnull)]
          subst hnull
          unfold awaitAny
          split
          · rename_i hwait
            exact settle_resumed qt (.refused msg hmsg (by omega) hanswer hwait _ rfl) s
          · rename_i hwait
            rw [Action.bind_apply, Action.seq_apply]
            exact .again msg hmsg (by omega) hanswer _ rfl hwait rfl rfl
        · rw [if_pos (by simpa using hnull)]
          refine settle_resumed qt (.answered msg hmsg (Or.inr ?_)) s
          rw [hanswer]
          simpa using hnull
  unfold resume
  cases value with
  | null => exact hnone rfl
  | message msg => exact hsome msg rfl
  | item i msg => exact hsome msg rfl
  | refused text => exact settle_resumed qt (.without _ rfl rfl) s

end Service

/-! ## §2. The operations of the proxies. -/

namespace Service

theorem findIdx?_some {α : Type*} {P : α → Bool} {xs : List α} {i : Nat}
    (h : xs.findIdx? P = some i) : ∃ x, xs[i]? = some x ∧ P x = true := by
  obtain ⟨hlt, hP, -⟩ := List.findIdx?_eq_some_iff_getElem.mp h
  exact ⟨xs[i], List.getElem?_eq_getElem hlt, hP⟩

/-- A job finds no command, or one that awaits its promise. -/
theorem runJob_cases (qt : Qt) (now : Nat) (m : HostState.Meanwhile) (s : Service) :
    (s.jobs = [] ∧ runJob qt now m s = (s, [])) ∨
    ∃ p value rest, s.jobs = (p, value) :: rest ∧
      (((∀ c ∈ s.commands, awaits p c = false) ∧
          runJob qt now m s = ({ s with jobs := rest }, [])) ∨
        ∃ (j : Nat) (c : Command), s.commands[j]? = some c ∧ c.result = none ∧ c.awaiting = p ∧
          runJob qt now m s = resume qt j c value now m { s with jobs := rest }) := by
  unfold runJob
  split
  · rename_i hjobs
    exact Or.inl ⟨hjobs, rfl⟩
  · rename_i p value rest hjobs
    right
    refine ⟨p, value, rest, hjobs, ?_⟩
    dsimp only
    cases hfind : s.commands.findIdx? (awaits p) with
    | none =>
      left
      exact ⟨fun c hc => by simpa using List.findIdx?_eq_none_iff.mp hfind c hc, rfl⟩
    | some j =>
      right
      obtain ⟨c, hc, hawaits⟩ := findIdx?_some hfind
      unfold awaits at hawaits
      rw [Bool.and_eq_true, Option.isNone_iff_eq_none, decide_eq_true_eq] at hawaits
      refine ⟨j, c, hc, hawaits.1, hawaits.2, ?_⟩
      dsimp only
      rw [hc]

variable (qt : Qt) (d : Nat) (cmd : String) (data : Json) (written : Bool)
  (m : HostState.Meanwhile) (timeoutMs now : Nat)

/-- The schedulers after the request of a call. -/
def requested (s : Schedulers) : Schedulers × List JsEvent :=
  onHost (HostState.request qt d cmd data written m) s

/-- The command of a call, up to its first `await`. -/
def newCommand (s : Schedulers) : Command where
  driver := d
  cmd := cmd
  task := s.host.created
  timeoutMs := timeoutMs
  deadline := now + timeoutMs
  awaiting := s.promises

/-- What a call does when the driver is not busy. -/
inductive Called (s : Service) (r : Service × List JsEvent) : Prop where
  | scheduled (hmode : timeoutMs = 0)
      (state : r.1 = { s with
        schedulers :=
          (scheduleTask s.schedulers.host.created (requested qt d cmd data written m s.schedulers).1).1
        commands := s.commands ++ [newCommand d cmd timeoutMs now s.schedulers] })
      (events : r.2 = (requested qt d cmd data written m s.schedulers).2)
  | refused (hmode : 0 < timeoutMs) (hwait : toInt32 timeoutMs < -1) (e : JsError)
      (hdata : e.data = none)
      (state : r.1 = { s with
        schedulers := (requested qt d cmd data written m s.schedulers).1
        commands := s.commands ++
          [{ newCommand d cmd timeoutMs now s.schedulers with result := some (.rejected e) }] })
      (events : r.2 = (requested qt d cmd data written m s.schedulers).2)
  | waits (hmode : 0 < timeoutMs) (hwait : ¬ toInt32 timeoutMs < -1)
      (state : r.1 = { s with
        schedulers := (waitAny [s.schedulers.host.created] (toInt32 timeoutMs) now
          (requested qt d cmd data written m s.schedulers).1).1
        commands := s.commands ++ [newCommand d cmd timeoutMs now s.schedulers]
        jobs := s.jobs ++ settlements (waitAny [s.schedulers.host.created] (toInt32 timeoutMs) now
          (requested qt d cmd data written m s.schedulers).1).2 })
      (events : r.2 = (requested qt d cmd data written m s.schedulers).2 ++
        (waitAny [s.schedulers.host.created] (toInt32 timeoutMs) now
          (requested qt d cmd data written m s.schedulers).1).2)

theorem set_concat {α : Type*} (xs : List α) (x y : α) :
    (xs ++ [x]).set xs.length y = xs ++ [y] := by
  rw [List.set_append_right _ _ (Nat.le_refl _), Nat.sub_self]
  rfl

/-- **A call**, of a driver that is not busy. -/
theorem call_cases {s : Service} (hbusy : s.busy d = false) :
    Called qt d cmd data written m timeoutMs now s
      (call qt d cmd data written m timeoutMs now s) := by
  have hremaining : now + timeoutMs - now = timeoutMs := Nat.add_sub_cancel_left now timeoutMs
  unfold call
  rw [hbusy]
  simp only [Bool.false_eq_true, if_false, onSchedulers_host]
  by_cases hmode : timeoutMs ≤ 0
  · rw [if_pos hmode]
    refine .scheduled (by omega) ?_ ?_
    · simp only [Action.extend, Action.modify_apply, onSchedulers]
      have hnone : ∀ k s, settlements (scheduleTask k s).2 = [] := fun _ _ => rfl
      rw [hnone, List.append_nil]
      rfl
    · simp only [Action.extend, Action.modify_apply, onSchedulers]
      have hnone : ∀ k s, (scheduleTask k s).2 = [] := fun _ _ => rfl
      rw [hnone, List.append_nil, List.append_nil]
      rfl
  · rw [if_neg hmode]
    unfold awaitAny
    dsimp only
    rw [hremaining]
    split
    · rename_i hwait
      refine .refused (by omega) hwait { message := .str "__waitAny: timeoutMs must be >= -1" }
        rfl ?_ ?_
      · simp only [Action.extend, Action.modify_apply, settle, setCommand]
        rw [set_concat]
        rfl
      · simp only [Action.extend, Action.modify_apply, settle, setCommand]
        rw [List.append_nil, List.append_nil]
        rfl
    · rename_i hwait
      refine .waits (by omega) hwait ?_ ?_
      · simp only [Action.extend, Action.bind_apply, Action.seq_apply, Action.modify_apply,
          setCommand, onSchedulers]
        rw [set_concat]
        rfl
      · simp only [Action.extend, Action.bind_apply, Action.seq_apply, Action.modify_apply,
          setCommand, onSchedulers, List.append_nil, List.nil_append]
        rfl

end Service

/-! ## §3. Tasks and promises of their own. -/

/-- **The invariant of the service.**  The commands have tasks of their own, and those that are not
settled have promises of their own. -/
structure Proper (h : List JsEvent) (s : Service) : Prop where
  sound : Sound ⟨s.schedulers, h⟩
  jobs : s.jobs <:+ settlements h
  tasks : ∀ (j : Nat) (c : Command), s.commands[j]? = some c → c.task < s.schedulers.host.created
  apart : ∀ (i j : Nat) (c c' : Command), s.commands[i]? = some c → s.commands[j]? = some c' →
    c.task = c'.task → i = j
  awaiting : ∀ (j : Nat) (c : Command), s.commands[j]? = some c → c.result = none →
    c.awaiting < s.schedulers.promises
  distinct : ∀ (i j : Nat) (c c' : Command), s.commands[i]? = some c → s.commands[j]? = some c' →
    c.result = none → c'.result = none → c.awaiting = c'.awaiting → i = j

/-- Between the two states at most the command `j` was changed: it is at its old task or at a new
one, and at a new promise unless it is settled. -/
structure Moves (j : Nat) (s s' : Service) : Prop where
  created : s.schedulers.host.created ≤ s'.schedulers.host.created
  promises : s.schedulers.promises ≤ s'.schedulers.promises
  others : ∀ i, i ≠ j → s'.commands[i]? = s.commands[i]?
  task : ∀ c' : Command, s'.commands[j]? = some c' →
    (∃ c : Command, s.commands[j]? = some c ∧ c.task = c'.task) ∨
    (s.schedulers.host.created ≤ c'.task ∧ c'.task < s'.schedulers.host.created)
  promise : ∀ c' : Command, s'.commands[j]? = some c' → c'.result = none →
    s.schedulers.promises ≤ c'.awaiting ∧ c'.awaiting < s'.schedulers.promises

theorem Proper.move {h' : List JsEvent} {s' : Service} (hp : Proper h s) (hm : Moves j s s')
    (hsound : Sound ⟨s'.schedulers, h'⟩) (hjobs : s'.jobs <:+ settlements h') :
    Proper h' s' := by
  -- the task of a command was there, or is a new one
  have htask : ∀ (i : Nat) (c' : Command), s'.commands[i]? = some c' →
      (∃ c : Command, s.commands[i]? = some c ∧ c.task = c'.task) ∨
      (i = j ∧ s.schedulers.host.created ≤ c'.task ∧ c'.task < s'.schedulers.host.created) := by
    intro i c' hc'
    by_cases hij : i = j
    · subst hij
      obtain hold | hnew := hm.task c' hc'
      · exact Or.inl hold
      · exact Or.inr ⟨rfl, hnew⟩
    · rw [hm.others i hij] at hc'
      exact Or.inl ⟨c', hc', rfl⟩
  -- and so is its promise
  have hpromise : ∀ (i : Nat) (c' : Command), s'.commands[i]? = some c' → c'.result = none →
      s.commands[i]? = some c' ∧ i ≠ j ∨
      (i = j ∧ s.schedulers.promises ≤ c'.awaiting ∧ c'.awaiting < s'.schedulers.promises) := by
    intro i c' hc' hopen
    by_cases hij : i = j
    · subst hij
      exact Or.inr ⟨rfl, hm.promise c' hc' hopen⟩
    · rw [hm.others i hij] at hc'
      exact Or.inl ⟨hc', hij⟩
  have hcreated := hm.created
  have hpromises := hm.promises
  constructor
  · exact hsound
  · exact hjobs
  · intro i c' hc'
    obtain ⟨c, hc, heq⟩ | ⟨-, -, hlt⟩ := htask i c' hc'
    · have hlt := hp.tasks i c hc
      omega
    · exact hlt
  · intro i k c₁ c₂ h₁ h₂ heq
    obtain ⟨c, hc, hct⟩ | ⟨hi, hle, -⟩ := htask i c₁ h₁
    · obtain ⟨c', hc', hct'⟩ | ⟨hk, hle', -⟩ := htask k c₂ h₂
      · exact hp.apart i k c c' hc hc' (by omega)
      · have hlt := hp.tasks i c hc
        omega
    · obtain ⟨c', hc', hct'⟩ | ⟨hk, -, -⟩ := htask k c₂ h₂
      · have hlt := hp.tasks k c' hc'
        omega
      · rw [hi, hk]
  · intro i c' hc' hopen
    obtain ⟨hc, -⟩ | ⟨-, -, hlt⟩ := hpromise i c' hc' hopen
    · have hlt := hp.awaiting i c' hc hopen
      omega
    · exact hlt
  · intro i k c₁ c₂ h₁ h₂ hopen₁ hopen₂ heq
    obtain ⟨hc₁, -⟩ | ⟨hi, hle, -⟩ := hpromise i c₁ h₁ hopen₁
    · obtain ⟨hc₂, -⟩ | ⟨hk, hle', -⟩ := hpromise k c₂ h₂ hopen₂
      · exact hp.distinct i k c₁ c₂ hc₁ hc₂ hopen₁ hopen₂ heq
      · have hlt := hp.awaiting i c₁ hc₁ hopen₁
        omega
    · obtain ⟨hc₂, -⟩ | ⟨hk, -, -⟩ := hpromise k c₂ h₂ hopen₂
      · have hlt := hp.awaiting k c₂ hc₂ hopen₂
        omega
      · rw [hi, hk]

/-- No command is changed. -/
theorem Moves.of_commands {s' : Service} (hcommands : s'.commands = s.commands)
    (hcreated : s.schedulers.host.created ≤ s'.schedulers.host.created)
    (hpromises : s.schedulers.promises ≤ s'.schedulers.promises) :
    Moves s.commands.length s s' := by
  have hnone : ∀ c' : Command, ¬ s'.commands[s.commands.length]? = some c' := by
    intro c' hc'
    rw [hcommands, List.getElem?_eq_none (Nat.le_refl _)] at hc'
    cases hc'
  exact ⟨hcreated, hpromises, fun i _ => by rw [hcommands], fun c' hc' => absurd hc' (hnone c'),
    fun c' hc' => absurd hc' (hnone c')⟩

/-- A settled promise is not pending, and has one job. -/
theorem Proper.job_count (hp : Proper h s) (p : Nat) :
    s.schedulers.openPromises.count p + (s.jobs.map Prod.fst).count p ≤ 1 := by
  have hplaces := hp.sound.placed.places p
  dsimp only at hplaces
  obtain ⟨ran, hran⟩ := hp.jobs
  rw [← hran, List.map_append, List.count_append] at hplaces
  split at hplaces
  · omega
  · omega

/-- The promise of an entry has no job. -/
theorem Proper.no_job (hp : Proper h s) {p : Nat} (hopen : p ∈ s.schedulers.openPromises)
    (hjob : (p, value) ∈ s.jobs) :
    False := by
  have hcount := hp.job_count p
  have hpos := List.count_pos_iff.mpr hopen
  have hpos' := List.count_pos_iff.mpr (List.mem_map_of_mem (f := Prod.fst) hjob)
  dsimp only at hpos'
  omega

/-- A promise has one job. -/
theorem Proper.job_unique (hp : Proper h s) {p : Nat} {value' : Settlement}
    {rest : List (Nat × Settlement)} (hjobs : s.jobs = (p, value) :: rest)
    (hjob : (p, value') ∈ s.jobs) : value' = value := by
  rw [hjobs] at hjob
  obtain heq | hin := List.mem_cons.mp hjob
  · exact (Prod.mk.inj heq).2
  · have hcount := hp.job_count p
    have hpos := List.count_pos_iff.mpr (List.mem_map_of_mem (f := Prod.fst) hin)
    rw [hjobs, List.map_cons, List.count_cons_self] at hcount
    dsimp only at hpos
    omega

/-- More settled promises make more jobs. -/
theorem suffix_settlements {jobs : List (Nat × Settlement)} (hjobs : jobs <:+ settlements h)
    (events : List JsEvent) :
    jobs ++ settlements events <:+ settlements (h ++ events) := by
  rw [settlements_append]
  obtain ⟨ran, hran⟩ := hjobs
  rw [← hran, List.append_assoc]
  exact List.suffix_append _ _

/-! ## §4. What a command leaves of the others. -/

/-- What is left of the place of a command. -/
theorem set_self {c' : Command} (hc : s.commands[j]? = some c) :
    (s.commands.set j c')[j]? = some c' := by
  obtain ⟨hlt, -⟩ := List.getElem?_eq_some_iff.mp hc
  exact List.getElem?_set_self hlt

/-- What a command that goes on leaves of the others: their tasks are untouched, and their jobs
stay. -/
theorem Resumed.others {qt : Qt} {now : Nat} {r : Service × List JsEvent}
    (hresumed : Resumed qt j c value now s r) :
    (∀ i, i ≠ j → r.1.commands[i]? = s.commands[i]?) ∧
      (∀ k, k ≠ c.task → Untouched k s.schedulers r.1.schedulers r.2) ∧
      r.1.jobs = s.jobs ++ settlements r.2 := by
  cases hresumed with
  | ends result _ during hstate hevents =>
    rw [hstate, hevents]
    refine ⟨fun i hij => List.getElem?_set_ne (Ne.symm hij), fun k _ => ?_, ?_⟩
    · exact untouched_processes qt during s.schedulers k
    · have hnone : settlements (onHost (Action.forEach during (ProcessOp.action qt))
          s.schedulers).2 = [] := settlements_host _
      rw [hnone, List.append_nil]
  | again _ _ _ _ waitMs _ _ hstate hevents =>
    rw [hstate, hevents]
    refine ⟨fun i hij => List.getElem?_set_ne (Ne.symm hij), fun k hk => ?_, rfl⟩
    exact untouched_step qt (.waitAny [c.task] waitMs now) s.schedulers rfl
      fun hin => hk (List.mem_singleton.mp hin)

/-- Nor does it break the invariant. -/
theorem Proper.resumed {qt : Qt} (hp : Proper h s) (hc : s.commands[j]? = some c) {now : Nat}
    {rest : List (Nat × Settlement)} (hrest : rest <:+ settlements h) {r : Service × List JsEvent}
    (hresumed : Resumed qt j c value now { s with jobs := rest } r) : Proper (h ++ r.2) r.1 := by
  obtain ⟨hothers, -, hjobs⟩ := hresumed.others
  have hsuffix : r.1.jobs <:+ settlements (h ++ r.2) := by
    rw [hjobs]
    exact suffix_settlements hrest r.2
  have hk : c.task < s.schedulers.host.created := hp.tasks j c hc
  cases hresumed with
  | ends result hends during hstate hevents =>
    have hsound := hp.sound.processes qt during
    refine hp.move (j := j) ⟨?_, ?_, hothers, ?_, ?_⟩ ?_ hsuffix
    · rw [hstate]
      exact (quiet_processes qt during s.schedulers.host).created
    · rw [hstate]
      exact Nat.le_refl _
    · intro c' hc'
      rw [hstate] at hc'
      have hset := (set_self hc).symm.trans hc'
      rw [← Option.some.inj hset]
      exact Or.inl ⟨c, hc, rfl⟩
    · intro c' hc' hopen
      rw [hstate] at hc'
      have hset := (set_self hc).symm.trans hc'
      rw [← Option.some.inj hset] at hopen
      cases hopen
    · rw [hstate, hevents]
      exact hsound
  | again _ _ _ _ waitMs _ _ hstate hevents =>
    have hsound := hp.sound.step qt (.waitAny [c.task] waitMs now) fun k hin => by
      rw [List.mem_singleton.mp hin]
      exact hk
    refine hp.move (j := j) ⟨?_, ?_, hothers, ?_, ?_⟩ ?_ hsuffix
    · rw [hstate]
      exact created_step qt (.waitAny [c.task] waitMs now) s.schedulers
    · rw [hstate]
      exact (balance_waitAny [c.task] waitMs now s.schedulers).grows
    · intro c' hc'
      rw [hstate] at hc'
      have hset := (set_self hc).symm.trans hc'
      rw [← Option.some.inj hset]
      exact Or.inl ⟨c, hc, rfl⟩
    · intro c' hc' _
      rw [hstate] at hc' ⊢
      have hset := (set_self hc).symm.trans hc'
      rw [← Option.some.inj hset]
      refine ⟨Nat.le_refl _, ?_⟩
      show s.schedulers.promises < (waitAny [c.task] waitMs now s.schedulers).1.promises
      rw [(waitAny_makes [c.task] waitMs now s.schedulers).1]
      exact Nat.lt_succ_self _
    · rw [hstate, hevents]
      exact hsound

section Step

variable (qt : Qt) {h : List JsEvent} {s : Service}

theorem Proper.runJob (hp : Proper h s) (now : Nat) (m : HostState.Meanwhile) :
    Proper (h ++ (Service.runJob qt now m s).2) (Service.runJob qt now m s).1 := by
  obtain ⟨-, heq⟩ | ⟨p, value, rest, hjobs, ⟨-, heq⟩ | ⟨j, c, hc, -, -, heq⟩⟩ :=
    Service.runJob_cases qt now m s
  · rw [heq, List.append_nil]
    exact hp
  · rw [heq, List.append_nil]
    refine hp.move (Moves.of_commands rfl (Nat.le_refl _) (Nat.le_refl _)) hp.sound ?_
    have hsuffix := hp.jobs
    rw [hjobs] at hsuffix
    exact (List.suffix_cons _ _).trans hsuffix
  · rw [heq]
    have hsuffix := hp.jobs
    rw [hjobs] at hsuffix
    exact hp.resumed hc ((List.suffix_cons _ _).trans hsuffix)
      (Service.resume_cases qt j c value now m _)

/-- The service after an operation of the schedulers. -/
def after (op : SchedulerOp) (s : Service) : Service × List JsEvent :=
  Service.onSchedulers (op.action qt) s

/-- A poll, or what the script and the processes do. -/
theorem Proper.other (hp : Proper h s) (op : SchedulerOp) (hname : s.mayName op.names = true) :
    Proper (h ++ (after qt op s).2) (after qt op s).1 := by
  have hnames : ∀ k ∈ op.names, k < s.schedulers.host.created := by
    intro k hk
    have hthis := List.all_eq_true.mp hname k hk
    rw [Bool.and_eq_true, decide_eq_true_eq] at hthis
    exact hthis.1
  refine hp.move (Moves.of_commands rfl ?_ ?_) (hp.sound.step qt op hnames)
    (suffix_settlements hp.jobs _)
  · exact created_step qt op s.schedulers
  · exact (balance_step qt op s.schedulers).grows

section Call

variable (d : Nat) (cmd : String) (data : Json) (written : Bool) (m : HostState.Meanwhile)
  (timeoutMs now : Nat)

/-- The request of a call: its task is new. -/
theorem requested_sound (hp : Proper h s) :
    Sound ⟨(Service.requested qt d cmd data written m s.schedulers).1,
      h ++ (Service.requested qt d cmd data written m s.schedulers).2⟩ :=
  hp.sound.step qt (.request d cmd data written m) fun _ hin => absurd hin List.not_mem_nil

theorem requested_created :
    s.schedulers.host.created <
      (Service.requested qt d cmd data written m s.schedulers).1.host.created :=
  HostState.created_request qt d cmd data written m s.schedulers.host

theorem requested_untouched (k : Nat) :
    Untouched k s.schedulers (Service.requested qt d cmd data written m s.schedulers).1
      (Service.requested qt d cmd data written m s.schedulers).2 :=
  untouched_step qt (.request d cmd data written m) s.schedulers rfl List.not_mem_nil

/-- What a call leaves of the other commands. -/
theorem Service.Called.others {r : Service × List JsEvent}
    (hcalled : Service.Called qt d cmd data written m timeoutMs now s r) :
    (∃ c', r.1.commands = s.commands ++ [c'] ∧ c'.task = s.schedulers.host.created ∧
      (c'.result = none → c'.awaiting = s.schedulers.promises)) ∧
      (∀ k, k ≠ s.schedulers.host.created → Untouched k s.schedulers r.1.schedulers r.2) ∧
      ∀ job ∈ s.jobs, job ∈ r.1.jobs := by
  have hrequested := requested_untouched qt (s := s) d cmd data written m
  cases hcalled with
  | scheduled _ hstate hevents =>
    rw [hstate, hevents]
    refine ⟨⟨_, rfl, rfl, fun _ => rfl⟩, fun k hk => ?_, fun _ hin => hin⟩
    have hstep := untouched_step qt (.scheduleTask s.schedulers.host.created)
      (Service.requested qt d cmd data written m s.schedulers).1 rfl
      fun hin => hk (List.mem_singleton.mp hin)
    have hboth := (hrequested k).trans hstep
    have hnone : (SchedulerOp.action qt (.scheduleTask s.schedulers.host.created)
      (Service.requested qt d cmd data written m s.schedulers).1).2 = [] := rfl
    rw [hnone, List.append_nil] at hboth
    exact hboth
  | refused _ _ e _ hstate hevents =>
    rw [hstate, hevents]
    exact ⟨⟨_, rfl, rfl, fun hopen => by cases hopen⟩, fun k _ => hrequested k, fun _ hin => hin⟩
  | waits _ _ hstate hevents =>
    rw [hstate, hevents]
    refine ⟨⟨_, rfl, rfl, fun _ => rfl⟩, fun k hk => ?_, fun _ hin => List.mem_append_left _ hin⟩
    exact (hrequested k).trans (untouched_step qt
      (.waitAny [s.schedulers.host.created] (toInt32 timeoutMs) now) _ rfl
      fun hin => hk (List.mem_singleton.mp hin))

theorem Proper.called (hp : Proper h s) {r : Service × List JsEvent}
    (hcalled : Service.Called qt d cmd data written m timeoutMs now s r) :
    Proper (h ++ r.2) r.1 := by
  obtain ⟨⟨c', hcommands, htask, hawaiting⟩, -, -⟩ :=
    Service.Called.others qt d cmd data written m timeoutMs now hcalled
  have hsound := requested_sound qt d cmd data written m hp
  have hcreated := requested_created qt (s := s) d cmd data written m
  have hlast : r.1.commands[s.commands.length]? = some c' := by
    rw [hcommands]
    exact List.getElem?_concat_length
  -- what is asked of the schedulers after the call
  have hmove : r.1.schedulers.host =
        (Service.requested qt d cmd data written m s.schedulers).1.host →
      s.schedulers.promises ≤ r.1.schedulers.promises →
      (c'.result = none → s.schedulers.promises < r.1.schedulers.promises) →
      Moves s.commands.length s r.1 := by
    intro hhost hle hlt
    constructor
    · rw [hhost]
      exact Nat.le_of_lt hcreated
    · exact hle
    · intro i hi
      rw [hcommands]
      by_cases hlength : i < s.commands.length
      · exact List.getElem?_append_left hlength
      · have hlonger : (s.commands ++ [c']).length = s.commands.length + 1 := by simp
        rw [List.getElem?_eq_none (by omega), List.getElem?_eq_none (by omega)]
    · intro c'' hc''
      obtain rfl := Option.some.inj (hlast.symm.trans hc'')
      right
      rw [htask, hhost]
      exact ⟨Nat.le_refl _, hcreated⟩
    · intro c'' hc'' hopen
      obtain rfl := Option.some.inj (hlast.symm.trans hc'')
      rw [hawaiting hopen]
      exact ⟨Nat.le_refl _, hlt hopen⟩
  have hsuffix : s.jobs <:+
      settlements (h ++ (Service.requested qt d cmd data written m s.schedulers).2) := by
    have hnone : settlements (Service.requested qt d cmd data written m s.schedulers).2 = [] :=
      settlements_host _
    rw [settlements_append, hnone, List.append_nil]
    exact hp.jobs
  have hnames : ∀ k ∈ [s.schedulers.host.created],
      k < (Service.requested qt d cmd data written m s.schedulers).1.host.created := by
    intro k hk
    rw [List.mem_singleton.mp hk]
    exact hcreated
  cases hcalled with
  | scheduled _ hstate hevents =>
    have hstep := hsound.step qt (.scheduleTask s.schedulers.host.created) hnames
    refine hp.move (hmove ?_ ?_ ?_) ?_ ?_
    · rw [hstate]
      rfl
    · rw [hstate]
      exact Nat.le_succ _
    · rw [hstate]
      exact fun _ => Nat.lt_succ_self _
    · rw [hstate, hevents]
      rw [← List.append_nil (h ++ _)]
      exact hstep
    · rw [hstate, hevents]
      exact hsuffix
  | refused _ _ e _ hstate hevents =>
    refine hp.move (hmove ?_ ?_ ?_) ?_ ?_
    · rw [hstate]
    · rw [hstate]
      exact Nat.le_refl _
    · intro hopen
      rw [hstate] at hlast
      have hthis := Option.some.inj (List.getElem?_concat_length.symm.trans hlast)
      rw [← hthis] at hopen
      cases hopen
    · rw [hstate, hevents]
      exact hsound
    · rw [hstate, hevents]
      exact hsuffix
  | waits _ _ hstate hevents =>
    have hstep := hsound.step qt
      (.waitAny [s.schedulers.host.created] (toInt32 timeoutMs) now) hnames
    obtain ⟨hpromises, hhost⟩ := waitAny_makes [s.schedulers.host.created] (toInt32 timeoutMs) now
      (Service.requested qt d cmd data written m s.schedulers).1
    have hgrows : s.schedulers.promises < r.1.schedulers.promises := by
      rw [hstate]
      dsimp only
      rw [hpromises]
      exact Nat.lt_succ_self _
    refine hp.move (hmove ?_ ?_ ?_) ?_ ?_
    · rw [hstate]
      exact hhost
    · exact Nat.le_of_lt hgrows
    · exact fun _ => hgrows
    · rw [hstate, hevents, ← List.append_assoc]
      exact hstep
    · rw [hstate, hevents, ← List.append_assoc]
      exact suffix_settlements hsuffix _

end Call

end Step

end Stdiolink.Js
