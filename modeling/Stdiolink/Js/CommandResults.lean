/-
  Stdiolink.Js.CommandResults — what the commands of a proxy are settled with.

  Without a timeout a command is settled by the message that ends its task.  With one it is so too,
  unless its wait is given up before, or the message is a done one whose payload counts as null:
  then the loop takes the answer for none and waits on.

  Main results:
    • `late_of_givesUp`       — a wait is given up only late;
    • `direct_result`, `timed_result_iff` — the results of the two modes;
    • `timeouts_keep_results` — the two modes settle alike exactly where the wait is not given up
                                and the answer is not null.
-/
import Stdiolink.Js.CommandStages

namespace Stdiolink.Js

open Stdiolink.Lib
open Stdiolink.Protocol
open Stdiolink.Host
open Schedulers

/-! ## §1. Late looks. -/

theorem toInt32_small {n : Nat} (h : n < 2 ^ 31) : toInt32 n = n := by
  have hmod : n % 0x100000000 = n := Nat.mod_eq_of_lt (by omega)
  unfold toInt32
  rw [hmod, if_pos (by omega)]

/-- The operation looks at the wait of the command `j` after its deadline, or the wait is one of
2^31 ms or more. -/
def Late (j : Nat) (s : Service) : ServiceOp → Prop
  | .call _ _ _ _ _ timeoutMs _ => 2 ^ 31 ≤ timeoutMs
  | .runJob now _ => ∃ c, s.commands[j]? = some c ∧ now + 2 ^ 31 ≤ c.deadline
  | .other (.pollGroups _ clock _) =>
    ∃ c, s.commands[j]? = some c ∧ ∃ i group, s.schedulers.pendingGroups[i]? = some group ∧
      c.task ∈ group.tasks ∧ (c.deadline < clock i ∨ group.started + 2 ^ 31 ≤ c.deadline)
  | .other _ => False

variable {b : Bool}

/-- At every stage the groups of the command wait until its deadline. -/
theorem Stage.timed {h : List JsEvent} {s : Service} {c : Command} (hstage : Stage h s c b) :
    Timed s.schedulers c := by
  have hnone : s.schedulers.groupsOf c.task = [] → Timed s.schedulers c := by
    intro hnone group hgroup
    rw [hnone] at hgroup
    cases hgroup
  cases hstage with
  | scheduled _ _ _ hgroups _ => exact hnone hgroups
  | grouped _ _ waitMs started _ hgroups hwaitMs _ =>
    intro group hgroup
    rw [hgroups, List.mem_singleton] at hgroup
    rw [hgroup]
    exact hwaitMs
  | answered _ haway _ _ _ _ _ _ => exact hnone haway.groups
  | lapsed _ _ haway _ _ => exact hnone haway.groups
  | settled haway _ _ _ _ _ => exact hnone haway.groups
  | failed _ haway _ _ _ _ => exact hnone haway.groups
  | emptied _ _ _ _ _ _ _ _ htimed => exact htimed

/-- **A wait is given up only late.** -/
theorem late_of_givesUp {c : Machine.Config Service JsEvent} {j : Nat} (hj : Followed j c b)
    {op : ServiceOp} (hgives : givesUp j c.state op = true) :
    Late j c.state op := by
  cases op with
  | call d cmd data written m timeoutMs now =>
    rw [givesUp_call] at hgives
    simp only [Bool.and_eq_true, decide_eq_true_eq] at hgives
    obtain ⟨-, -, -, hwait⟩ := hgives
    show 2 ^ 31 ≤ timeoutMs
    by_contra hsmall
    rw [toInt32_small (by omega)] at hwait
    omega
  | runJob now m =>
    rw [givesUp_runJob, Option.any_eq_true] at hgives
    obtain ⟨command, hc, hjob⟩ := hgives
    obtain ⟨job, -, hrefuses⟩ := (Option.any_eq_true _ _).mp hjob
    unfold refusesWait at hrefuses
    rw [Bool.and_eq_true, Option.any_eq_true] at hrefuses
    obtain ⟨-, msg, -, hrefuses⟩ := hrefuses
    simp only [Bool.and_eq_true, decide_eq_true_eq] at hrefuses
    obtain ⟨-, -, hwait⟩ := hrefuses
    refine ⟨command, hc, ?_⟩
    by_contra hsmall
    rw [toInt32_small (by omega)] at hwait
    omega
  | other op =>
    cases op with
    | pollGroups timeoutMs clock during =>
      have hgives : (c.state.commands[j]?.any fun command =>
          c.state.schedulers.lapses clock command.task) = true := hgives
      rw [Option.any_eq_true] at hgives
      obtain ⟨command, hc, hlapses⟩ := hgives
      obtain ⟨i, group, hfound, hk, hlapsed⟩ := lapses_iff.mp hlapses
      refine ⟨command, hc, i, group, hfound, hk, ?_⟩
      obtain ⟨hnone, -⟩ | ⟨command', hc', hstage⟩ := hj
      · rw [hnone] at hc
        cases hc
      · obtain rfl := Option.some.inj (hc.symm.trans hc')
        have htimed := hstage.timed group (mem_groupsOf (List.mem_of_getElem? hfound) hk)
        unfold lapsed PendingGroup.expired at hlapsed
        rw [Bool.and_eq_true, decide_eq_true_eq, decide_eq_true_eq, htimed] at hlapsed
        by_cases hsmall : command.deadline < group.started + 2 ^ 31
        · left
          rw [toInt32_small (by omega)] at hlapsed
          omega
        · right
          omega
    | _ => cases hgives

/-! ## §2. Runs from the start. -/

/-- The command is settled; or no job is left, and the message that ends its task was taken. -/
def Over (c : Machine.Config Service JsEvent) (command : Command) : Prop :=
  command.result ≠ none ∨
    c.state.jobs = [] ∧ ∃ m ∈ takenOf command.task c.history, m.isTerminal = true

theorem proper_fresh (drivers : Nat → Process) :
    Proper [] (freshService drivers) where
  sound := {
    placed := placed_start (freshHost drivers)
    host := by
      refine ⟨invariant_fresh drivers, ?_⟩
      intro k
      rfl
    tasks := by
      intro item hitem
      cases hitem }
  jobs := List.suffix_refl _
  tasks := by
    intro j c hc
    cases hc
  apart := by
    intro i j c c' hc
    cases hc
  awaiting := by
    intro j c hc
    cases hc
  distinct := by
    intro i j c c' hc
    cases hc

/-- Where a run from the start has brought a command. -/
theorem stage_of_run (qt : Qt) (drivers : Nat → Process) (ops : List ServiceOp) {j : Nat}
    {command : Command}
    (hc : ((serviceMachine qt).run (Machine.start (freshService drivers)) ops).state.commands[j]? =
      some command) :
    ∃ b, Stage ((serviceMachine qt).run (Machine.start (freshService drivers)) ops).history
        ((serviceMachine qt).run (Machine.start (freshService drivers)) ops).state command b ∧
      (b = false ↔ (serviceMachine qt).EveryStep (fun c op => givesUp j c.state op = false)
        (Machine.start (freshService drivers)) ops) := by
  have hstart : Followed j (Machine.start (freshService drivers)) false := Or.inl ⟨rfl, rfl⟩
  obtain ⟨b, hfollowed, hiff⟩ := followed_run qt (proper_fresh drivers) hstart ops
  refine ⟨b, ?_, ?_⟩
  · obtain ⟨hnone, -⟩ | ⟨command', hc', hstage⟩ := hfollowed
    · rw [hnone] at hc
      cases hc
    · rw [Option.some.inj (hc.symm.trans hc')]
      exact hstage
  · rw [hiff]
    exact and_iff_right rfl

/-- A run that meets no late look gives up no wait. -/
theorem everyStep_of_notLate (qt : Qt) (drivers : Nat → Process) (j : Nat) (ops : List ServiceOp)
    (hlate : (serviceMachine qt).EveryStep (fun c op => ¬ Late j c.state op)
      (Machine.start (freshService drivers)) ops) :
    (serviceMachine qt).EveryStep (fun c op => givesUp j c.state op = false)
      (Machine.start (freshService drivers)) ops := by
  refine Machine.everyStep_of_invariant
    (fun c => Proper c.history c.state ∧ ∃ b, Followed j c b) ?_ ?_
    ⟨proper_fresh drivers, false, Or.inl ⟨rfl, rfl⟩⟩ hlate
  · intro c op hinv _
    obtain ⟨hp, b, hj⟩ := hinv
    obtain ⟨hp', hj'⟩ := followed_step qt hp hj op
    exact ⟨hp', _, hj'⟩
  · intro c op hinv hnot
    obtain ⟨-, b, hj⟩ := hinv
    rw [Bool.eq_false_iff]
    intro hgives
    exact hnot (late_of_givesUp hj hgives)

/-- The first message that ends a task is the one that was pushed. -/
theorem taken_unique {taken evs evs' rest more : List Message} {m m' : Message}
    (hpushed : evs ++ [m] = taken ++ rest) (hevs : ∀ e ∈ evs, e.isTerminal = false)
    (htaken : taken = evs' ++ m' :: more) (hends : m'.isTerminal = true) : m' = m := by
  have hin : m' ∈ evs ++ [m] := by
    rw [hpushed, htaken]
    simp
  obtain hin | hin := List.mem_append.mp hin
  · rw [hevs m' hin] at hends
    cases hends
  · exact List.mem_singleton.mp hin

/-- What was pushed begins with what was taken. -/
theorem Proper.pushed {h : List JsEvent} {s : Service} (hp : Proper h s) (k : Nat) :
    (pushes k (hostEvents h)).map Prod.fst = takenOf k h ++ (s.schedulers.host.tasks k).queue :=
  hp.sound.host.2 k

/-- A command that is over is at one of the last stages. -/
theorem Stage.over {c : Machine.Config Service JsEvent} {command : Command}
    (hstage : Stage c.history c.state command b) (hover : Over c command) :
    (∃ m, EventsAnd command.task c.history m ∧ m.isTerminal = true ∧
      command.result = some (endsWith command.cmd m) ∧ b = false ∧
      (0 < command.timeoutMs → emptyDone m = false)) ∨
    (0 < command.timeoutMs ∧ b = true ∧
      ∃ e, command.result = some (.rejected e) ∧ e.data = none) ∨
    (0 < command.timeoutMs ∧ command.result ≠ some (.resolved .null) ∧
      ∃ evs m more, takenOf command.task c.history = evs ++ m :: more ∧ emptyDone m = true) := by
  -- a command that is not settled has a job, or its task has not ended
  have hjobs : command.result = none → ∀ job, ¬ job ∈ c.state.jobs := by
    intro hopen job hjob
    obtain hsettled | ⟨hnone, -⟩ := hover
    · exact hsettled hopen
    · rw [hnone] at hjob
      cases hjob
  have hended : command.result = none → ¬ OnlyEvents command.task c.history := by
    intro hopen hevents
    obtain hsettled | ⟨-, m, hm, hterminal⟩ := hover
    · exact hsettled hopen
    · rw [hevents m hm] at hterminal
      cases hterminal
  cases hstage with
  | scheduled _ hopen _ _ hevents => exact absurd hevents (hended hopen)
  | grouped _ hopen _ _ _ _ _ hevents => exact absurd hevents (hended hopen)
  | answered hopen _ _ _ _ _ _ hjob => exact absurd hjob (hjobs hopen _)
  | lapsed _ hopen _ _ hjob => exact absurd hjob (hjobs hopen _)
  | settled _ m htaken hends hresult hfilled =>
    exact Or.inl ⟨m, htaken, hends, hresult, rfl, hfilled⟩
  | failed hmode _ _ e hresult hdata => exact Or.inr (Or.inl ⟨hmode, rfl, e, hresult, hdata⟩)
  | emptied hmode evs more m htaken _ hempty hresult _ =>
    exact Or.inr (Or.inr ⟨hmode, hresult, evs, m, more, htaken, hempty⟩)

/-! ## §3. The two modes. -/

section Results

variable (qt : Qt) (drivers : Nat → Process) (ops : List ServiceOp)

/-- The service after a run from the start. -/
def served : Machine.Config Service JsEvent :=
  (serviceMachine qt).run (Machine.start (freshService drivers)) ops

variable {qt drivers ops} {j : Nat} {command : Command} {evs : List Message} {m : Message}
variable (hc : (served qt drivers ops).state.commands[j]? = some command)
variable (hevs : ∀ e ∈ evs, e.isTerminal = false)
variable (hpushed : (pushes command.task (hostEvents (served qt drivers ops).history)).map Prod.fst =
  evs ++ [m])
variable (hover : Over (served qt drivers ops) command)

theorem proper_served : Proper (served qt drivers ops).history (served qt drivers ops).state := by
  refine Machine.run_invariant (fun c => Proper c.history c.state) ?_ (proper_fresh drivers)
  intro c op hp
  exact (followed_step qt (j := c.state.commands.length) hp
    (Or.inl ⟨List.getElem?_eq_none (Nat.le_refl _), rfl⟩) op).1

include hevs hpushed in
/-- What was taken ends with the message that was pushed last. -/
theorem taken_last {evs' more : List Message} {m' : Message}
    (htaken : takenOf command.task (served qt drivers ops).history = evs' ++ m' :: more)
    (hends : m'.isTerminal = true) : m' = m := by
  have hall : Proper (served qt drivers ops).history (served qt drivers ops).state :=
    proper_served
  exact taken_unique (hpushed.symm.trans (hall.pushed command.task)) hevs htaken hends

include hc hevs hpushed hover in
/-- **Without a timeout** a command is settled by the message that ends its task. -/
theorem direct_result (hmode : command.timeoutMs = 0) :
    command.result = some (endsWith command.cmd m) := by
  obtain ⟨b, hstage, -⟩ := stage_of_run qt drivers ops hc
  obtain ⟨m', ⟨evs', htaken, -⟩, hends, hresult, -, -⟩ | ⟨hlt, -⟩ | ⟨hlt, -⟩ :=
    hstage.over hover
  · rw [hresult, taken_last hevs hpushed htaken hends]
  · omega
  · omega

include hc hevs hpushed hover in
/-- **With a timeout** this is so exactly where the wait is not given up and the answer is not
null. -/
theorem timed_result_iff (hmode : 0 < command.timeoutMs) :
    command.result = some (endsWith command.cmd m) ↔
      (serviceMachine qt).EveryStep (fun c op => givesUp j c.state op = false)
        (Machine.start (freshService drivers)) ops ∧ emptyDone m = false := by
  obtain ⟨b, hstage, hiff⟩ := stage_of_run qt drivers ops hc
  rw [← hiff]
  obtain ⟨m', ⟨evs', htaken, -⟩, hends, hresult, hkept, hfilled⟩ | ⟨-, hlost, e, hresult, hdata⟩ |
    ⟨-, hresult, evs', m', more, htaken, hempty⟩ := hstage.over hover
  · obtain rfl := taken_last hevs hpushed htaken hends
    exact iff_of_true hresult ⟨hkept, hfilled hmode⟩
  · refine iff_of_false ?_ fun h => ?_
    · -- an error without data answers no message
      intro hsame
      rw [hresult] at hsame
      exact endsWith_data (Option.some.inj hsame).symm hdata
    · rw [hlost] at h
      cases h.1
  · have hends : m'.isTerminal = true := by
      unfold emptyDone at hempty
      rw [Bool.and_eq_true, decide_eq_true_eq] at hempty
      unfold Message.isTerminal
      rw [hempty.1]
    obtain rfl := taken_last hevs hpushed htaken hends
    refine iff_of_false ?_ fun h => ?_
    · rw [endsWith_emptyDone hempty]
      exact hresult
    · rw [hempty] at h
      cases h.2

end Results

/-- **A timeout keeps the result** of a command exactly where its wait is not given up before the
message that ends the task has been taken, and this message is no done message with a payload that
counts as null.  A wait that lasts less than 2^31 ms and is looked at up to its deadline is not
given up. -/
theorem timeouts_keep_results (qt : Qt) (drivers drivers' : Nat → Process)
    (ops ops' : List ServiceOp) (i j : Nat) (direct timed : Command)
    (hdirect : (served qt drivers ops).state.commands[i]? = some direct)
    (htimed : (served qt drivers' ops').state.commands[j]? = some timed)
    (hcmd : timed.cmd = direct.cmd) (hnone : direct.timeoutMs = 0) (hsome : 0 < timed.timeoutMs)
    (evs : List Message) (m : Message) (hevs : ∀ e ∈ evs, e.isTerminal = false)
    (hpushed : (pushes direct.task (hostEvents (served qt drivers ops).history)).map Prod.fst =
      evs ++ [m])
    (hpushed' : (pushes timed.task (hostEvents (served qt drivers' ops').history)).map Prod.fst =
      evs ++ [m])
    (hover : Over (served qt drivers ops) direct)
    (hover' : Over (served qt drivers' ops') timed) :
    (timed.result = direct.result ↔
      (serviceMachine qt).EveryStep (fun c op => givesUp j c.state op = false)
        (Machine.start (freshService drivers')) ops' ∧ emptyDone m = false) ∧
    ((serviceMachine qt).EveryStep (fun c op => ¬ Late j c.state op)
        (Machine.start (freshService drivers')) ops' →
      (serviceMachine qt).EveryStep (fun c op => givesUp j c.state op = false)
        (Machine.start (freshService drivers')) ops') := by
  constructor
  · rw [direct_result hdirect hevs hpushed hover hnone, ← hcmd]
    exact timed_result_iff htimed hevs hpushed' hover' hsome
  · exact everyStep_of_notLate qt drivers' j ops'

/-- A line with a done message. -/
def doneLine (data : String) : List UInt8 :=
  asciiBytes ("\x7b\x22status\x22:\x22done\x22,\x22code\x22:0,\x22data\x22:" ++ data ++ "\x7d")

/-- What `QJsonDocument::fromJson` makes of the lines of these examples. -/
def doneQt : Qt where
  fromJson line :=
    if line = doneLine "null" then
      some (.obj [("code", .num 0), ("data", .null), ("status", .str "done")])
    else if line = doneLine "true" then
      some (.obj [("code", .num 0), ("data", .bool true), ("status", .str "done")])
    else none
  fromUtf8 _ := ""

/-- A driver answers its command; the service polls and runs its jobs, twice. -/
def answering (timeoutMs : Nat) (data : String) : List ServiceOp :=
  [.call 0 "run" (.obj []) true {} timeoutMs 0,
    .other (.process (.write 0 (doneLine data ++ [newline]))), .other (.process (.deliver 0 64)),
    .other (.pollTasks []), .other (.pollGroups 0 (fun _ => 1) []), .runJob 1 {},
    .other (.pollTasks []), .other (.pollGroups 0 (fun _ => 1) []), .runJob 1 {}]

/-- The command, when it is over. -/
def answeredCommand (timeoutMs awaiting : Nat) (result : CommandResult) : Command where
  driver := 0
  cmd := "run"
  task := 0
  timeoutMs := timeoutMs
  deadline := timeoutMs
  awaiting := awaiting
  result := some result

/-- An answer that is not null is kept. -/
theorem timeouts_keep_results_true :
    (serviceMachine doneQt).EveryStep (fun c op => givesUp 0 c.state op = false)
        (Machine.start (freshService fun _ => {})) (answering 1000 "true") ∧
      emptyDone ⟨.done, 0, .bool true⟩ = false :=
  (timeouts_keep_results doneQt (fun _ => {}) (fun _ => {}) (answering 0 "true")
    (answering 1000 "true") 0 0 (answeredCommand 0 0 (.resolved (.bool true)))
    (answeredCommand 1000 0 (.resolved (.bool true))) rfl rfl rfl rfl (by decide) []
    ⟨.done, 0, .bool true⟩ (fun _ h => nomatch h) rfl rfl (Or.inl (Option.some_ne_none _))
    (Or.inl (Option.some_ne_none _))).1.mp rfl

/-- The driver answers null in time.  Without a timeout the promise is resolved with null, with one
it is rejected, as if the driver had exited. -/
theorem null_answer_rejected :
    (served doneQt (fun _ => {}) (answering 0 "null")).state.commands =
        [answeredCommand 0 0 (.resolved .null)] ∧
      (served doneQt (fun _ => {}) (answering 1000 "null")).state.commands =
        [answeredCommand 1000 1 (.rejected
          { message := .str "driver exited during command: run", code := some (.num 0) })] ∧
      (∀ timeoutMs ∈ [0, 1000], (pushes 0 (hostEvents
        (served doneQt (fun _ => {}) (answering timeoutMs "null")).history)).map Prod.fst =
          [⟨.done, 0, .null⟩]) ∧
      (serviceMachine doneQt).EveryStep (fun c op => givesUp 0 c.state op = false)
        (Machine.start (freshService fun _ => {})) (answering 1000 "null") := by
  refine ⟨rfl, rfl, ?_, ⟨rfl, rfl, rfl, rfl, rfl, rfl, rfl, rfl, rfl, trivial⟩⟩
  intro timeoutMs htimeout
  obtain rfl | htimeout := List.mem_cons.mp htimeout
  · rfl
  · rw [List.mem_singleton.mp htimeout]
    rfl

end Stdiolink.Js
