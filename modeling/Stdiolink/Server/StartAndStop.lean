/-
  Stdiolink.Server.StartAndStop — whether a project is scheduled as it was asked to be.

  A stop suppresses a project; a start, an enable or a scheduling restart asks for it
  to be scheduled again.  `stopPending` reads from the history which came last.  A
  project that may run is scheduled as asked when its timer (fixed rate) or its
  suppression (daemon) says the same.

  Main results:
    * `restart_asked` — a scheduling restart schedules every project as asked;
    * `scheduledAsAsked_next` — which steps keep all projects scheduled as asked;
    * `scheduled_as_asked_iff` — the same for whole runs.
-/
import Stdiolink.Server.ProjectIsolation

namespace Stdiolink.Server

open Stdiolink.Lib

/-! ## §1. What was asked last -/

/-- The start request went through to `resumeProject`, or found the daemon running. -/
def Response.startAccepted : Response → Bool
  | .noop | .started _ => true
  | .error status _ => status = 500
  | _ => false

/-- What an event asks for the project: `some true` to stop it, `some false` to have it
scheduled, `none` nothing.  A request that stops the project and waits counts as a stop;
an update or a reload that waited ends in a scheduling restart. -/
def ServerEvent.asksStop (id : String) : ServerEvent → Option Bool
  | .schedulingRestarted => some false
  | .stopping id' => if id' = id then some true else none
  | .responded .start id' r => if id' = id ∧ r.startAccepted then some false else none
  | .responded .stop id' .stopped => if id' = id then some true else none
  | .responded .enabled id' (.project _ p _) => if id' = id then some (!p.enabled) else none
  | _ => none

/-- A stop or disable request for the project came after the last start, enable, update
or reload request for it and the last scheduling restart. -/
def stopPending (id : String) (h : List ServerEvent) : Bool :=
  h.foldl (fun b e => (e.asksStop id).getD b) false

theorem stopPending_append (id : String) (h h' : List ServerEvent) :
    stopPending id (h ++ h') = h'.foldl (fun b e => (e.asksStop id).getD b) (stopPending id h) :=
  List.foldl_append

/-- An event that asks nothing changes nothing. -/
theorem stopPending_concat (id : String) (h : List ServerEvent) (e : ServerEvent) :
    stopPending id (h ++ [e]) = (e.asksStop id).getD (stopPending id h) := by
  rw [stopPending_append]
  rfl

variable {id : String} {h h' : List ServerEvent} {e : ScheduleEngine} {p : Project}
  {x : Option String} {s : ServerManager} {r : Response} {services : ServiceMap}
  {c : Machine.Config ServerManager ServerEvent} {validate : ConfigValidator}

theorem stopPending_append_of_quiet (hq : ∀ e ∈ h', e.asksStop id = none) :
    stopPending id (h ++ h') = stopPending id h := by
  rw [stopPending_append]
  induction h' generalizing h with
  | nil => rfl
  | cons e h' ih =>
    rw [List.foldl_cons, hq e List.mem_cons_self]
    exact ih fun e' he' => hq e' (List.mem_cons_of_mem _ he')

/-! ## §2. Scheduled as asked -/

/-- The engine's timer or suppression of the project is as asked.  Suppression by the
crash-loop limit is not a stop. -/
def AsAsked (h : List ServerEvent) (e : ScheduleEngine) (p : Project) : Prop :=
  (p.schedule.type = .fixedRate →
    (e.timers.contains p.id = true ↔ stopPending p.id h = false)) ∧
  (p.schedule.type = .daemon →
    (e.restartSuppressed.find? p.id ≠ some .stopped ↔ stopPending p.id h = false))

/-- The server may schedule the project: enabled, valid and its service known. -/
structure Schedulable (s : ServerManager) (p : Project) : Prop where
  held : s.projects.find? p.id = some p
  enabled : p.enabled = true
  valid : p.valid = true
  known : s.services.contains p.serviceId = true

/-- Every project but `except` is scheduled as asked. -/
def AskedExcept (except : Option String) (h : List ServerEvent) (s : ServerManager) : Prop :=
  s.scheduler.engine.shuttingDown = false → ∀ p, Schedulable s p → some p.id ≠ except →
    AsAsked h s.scheduler.engine p

/-- **The property.**  Every project that may be scheduled is scheduled as asked. -/
def ScheduledAsAsked (c : Machine.Config ServerManager ServerEvent) : Prop :=
  AskedExcept none c.history c.state

/-- Timers and stops of the project are the same. -/
structure SameFlags (id : String) (e e' : ScheduleEngine) : Prop where
  timer : e'.timers.contains id = e.timers.contains id
  stopped : e'.restartSuppressed.find? id = some .stopped ↔
    e.restartSuppressed.find? id = some .stopped

theorem SameFlags.refl (id : String) (e : ScheduleEngine) : SameFlags id e e := ⟨rfl, Iff.rfl⟩

theorem SameSchedule.sameFlags {e' : ScheduleEngine} (h : SameSchedule id e e') :
    SameFlags id e e' :=
  ⟨by simp [SortedMap.contains, h.timer], by rw [h.restartSuppressed]⟩

theorem AsAsked.congr {e' : ScheduleEngine} {q : Project} (hq : q.id = p.id)
    (ht : q.schedule.type = p.schedule.type) (hf : SameFlags p.id e e')
    (hs : stopPending p.id h' = stopPending p.id h) :
    AsAsked h' e' q ↔ AsAsked h e p := by
  simp only [AsAsked, hq, ht, hf.timer, ne_eq, hf.stopped, hs]

/-! ## §3. Stops survive the engine's own steps -/

variable (projectId : String) (project : Project) (outcome : SpawnOutcome)
  (spawn : String → SpawnOutcome)

/-- The slot suppresses only what is not suppressed, and never as a stop. -/
theorem onInstanceFinished_sameFlags (exitCode : Int) (exitStatus : ExitStatus) (e : ScheduleEngine)
    (id : String) :
    SameFlags id e (ScheduleEngine.onInstanceFinished projectId exitCode exitStatus e).1 := by
  rcases ScheduleEngine.onInstanceFinished_cases e projectId exitCode exitStatus with
    ho | ⟨_, -, hsup, -, -, _, -, ho | ho | ⟨_, -, ho⟩⟩
  · rw [ho]
    exact SameFlags.refl id e
  · rw [ho]
    exact ⟨rfl, Iff.rfl⟩
  · rw [ho]
    refine ⟨rfl, ?_⟩
    simp only [SortedMap.find?_insert]
    split_ifs with hid
    · subst hid
      rw [SortedMap.contains_eq_false] at hsup
      simp [hsup]
    · exact Iff.rfl
  · rw [ho]
    exact ⟨rfl, Iff.rfl⟩

theorem startInstance_sameFlags (serviceDir : String) (outcome : SpawnOutcome) (s : Scheduler)
    (id : String) :
    SameFlags id s.engine
      (Scheduler.startInstance project serviceDir outcome s).1.engine := by
  rcases Scheduler.startInstance_cases project serviceDir outcome s with
    ⟨ho, -⟩ | ⟨-, -, ⟨-, ho⟩ | ⟨-, ho⟩⟩
  · rw [ho]
    exact SameFlags.refl id s.engine
  · rw [ho]
    exact SameFlags.refl id s.engine
  · rw [ho]
    exact onInstanceFinished_sameFlags project.id (-1) .crashExit s.engine id

theorem startDaemon_sameFlags (serviceDir : String) (outcome : SpawnOutcome) (s : Scheduler)
    (id : String) :
    SameFlags id s.engine (Scheduler.startDaemon project serviceDir outcome s).1.engine := by
  by_cases hm : s.DaemonMayStart project.id
  · rw [Scheduler.startDaemon_of_mayStart hm]
    exact startInstance_sameFlags project serviceDir outcome s id
  · rw [Scheduler.startDaemon_of_not_mayStart hm]
    exact SameFlags.refl id s.engine

/-- Launching may arm a timer; it never stops. -/
theorem launch_stopped (s : Scheduler) (id : String) :
    (Scheduler.launch project outcome s).1.engine.restartSuppressed.find? id = some .stopped ↔
      s.engine.restartSuppressed.find? id = some .stopped := by
  unfold Scheduler.launch
  split
  · exact Iff.rfl
  · split
    · exact Iff.rfl
    · exact Iff.rfl
    · exact (startDaemon_sameFlags project _ outcome s id).stopped

theorem startProject_shuttingDown (services : ServiceMap) (outcome : SpawnOutcome) (s : Scheduler) :
    (Scheduler.startProject project services outcome s).1.engine.shuttingDown =
      s.engine.shuttingDown := by
  rw [Scheduler.startProject_eq]
  dsimp only
  split_ifs
  · rfl
  · exact (Scheduler.launch_frame _ _ _).2.2

/-- After a scheduling restart nothing is stopped. -/
theorem startAll_not_stopped (projects : ProjectMap) (services : ServiceMap)
    (spawn : String → SpawnOutcome) (s : Scheduler) (id : String) :
    (Scheduler.startAll projects services spawn s).1.engine.restartSuppressed.find? id ≠
      some .stopped := by
  have hloop : Action.Sat
      (fun _ s => s.engine.restartSuppressed.find? id ≠ some SuppressReason.stopped)
      (Action.forEach projects.values fun p => Scheduler.startEntry p (spawn p.id))
      (fun _ s => s.engine.restartSuppressed.find? id ≠ some SuppressReason.stopped) := by
    refine Action.Sat.forEach fun p _ h s hs => ?_
    unfold Scheduler.startEntry
    split_ifs
    · exact hs
    · exact fun hc => hs ((launch_stopped p (spawn p.id) s id).mp hc)
  refine hloop [] { s with engine := s.engine.load projects services } ?_
  simp [ScheduleEngine.load, ScheduleEngine.stopAll]

theorem fixedRateTick_sameFlags (s : Scheduler) (id : String) :
    SameFlags id s.engine (Scheduler.fixedRateTick projectId outcome s).1.engine := by
  rcases Scheduler.fixedRateTick_cases projectId outcome s with
    ho | ⟨timer, project, -, -, -, -, -, ho⟩
  · rw [ho]
    exact SameFlags.refl id s.engine
  · rw [ho]
    exact startInstance_sameFlags project timer.serviceDir outcome s id

theorem restartFires_sameFlags (timerId : Nat) (outcome : SpawnOutcome) (s : Scheduler)
    (id : String) :
    SameFlags id s.engine (Scheduler.restartFires timerId outcome s).1.engine := by
  rcases Scheduler.restartFires_cases timerId outcome s with
    ⟨-, ho⟩ | ⟨r, -, ⟨-, ho⟩ | ⟨project, -, -, ho⟩⟩
  · rw [ho]
    exact SameFlags.refl id s.engine
  · rw [ho]
    exact ⟨rfl, Iff.rfl⟩
  · have h := startDaemon_sameFlags project r.serviceDir outcome (s.popRestart timerId) id
    rw [ho]
    exact ⟨h.timer, h.stopped⟩

theorem processFinished_sameFlags (instanceId : Nat) (exitCode : Int)
    (exitStatus : ExitStatus) (s : Scheduler) (id : String) :
    SameFlags id s.engine
      (Scheduler.processFinished instanceId exitCode exitStatus s).1.engine := by
  unfold Scheduler.processFinished
  split
  · exact SameFlags.refl id s.engine
  · exact onInstanceFinished_sameFlags _ exitCode exitStatus s.engine id

/-! ## §4. The server's steps -/

open ServerManager

/-- What one step does to the flags and the history of projects it is not about. -/
theorem AskedExcept.of_sameFlags {s' : ServerManager} (hs : AskedExcept x h s)
    (hsd : s'.scheduler.engine.shuttingDown = false → s.scheduler.engine.shuttingDown = false)
    (hsch : ∀ p, some p.id ≠ x → Schedulable s' p → Schedulable s p)
    (hf : ∀ id, some id ≠ x → SameFlags id s.scheduler.engine s'.scheduler.engine)
    (hh : ∀ id, some id ≠ x → stopPending id h' = stopPending id h) : AskedExcept x h' s' := by
  intro hd p hp hne
  exact (AsAsked.congr rfl rfl (hf p.id hne) (hh p.id hne)).mpr
    (hs (hsd hd) p (hsch p hne hp) hne)

theorem engine_asksNothing (l : List ScheduleEvent) (projects : ProjectMap) (id : String) :
    ∀ e ∈ l.map (fun ev => ServerEvent.engine ev projects), e.asksStop id = none := by
  intro e he
  obtain ⟨ev, -, rfl⟩ := List.mem_map.mp he
  rfl

/-- The engine's own steps keep what was asked. -/
theorem onScheduler_asked {a : Action Scheduler ScheduleEvent}
    (ha : ∀ s, ((a s).1.engine.shuttingDown = s.engine.shuttingDown) ∧
      ∀ id, some id ≠ x → SameFlags id s.engine (a s).1.engine) :
    Action.Sat (AskedExcept x) (onScheduler a) (AskedExcept x) := by
  intro h s hs
  refine AskedExcept.of_sameFlags hs (fun hd => (ha s.scheduler).1 ▸ hd)
    (fun p _ hp => ⟨hp.held, hp.enabled, hp.valid, hp.known⟩)
    (ha s.scheduler).2 fun id _ => stopPending_append_of_quiet (engine_asksNothing _ _ id)

/-- An answer that asks nothing. -/
theorem respond_asked {verb : Verb} {response : ServerManager → Response}
    (hq : ∀ s q, some q ≠ x → (ServerEvent.responded verb id (response s)).asksStop q = none) :
    Action.Sat (AskedExcept x) (respond verb id response) (AskedExcept x) := by
  refine Action.Sat.emit fun h s hs => ?_
  refine AskedExcept.of_sameFlags hs (fun hd => hd) (fun p _ hp => hp)
    (fun id _ => SameFlags.refl id _) fun q hne => ?_
  rw [stopPending_concat, hq s q hne]
  rfl

/-- **A scheduling restart** schedules every project as asked, whatever was before. -/
theorem restart_asked :
    Action.Sat (fun _ _ => True) (startScheduling spawn) (AskedExcept none) := by
  intro h s _ _ p hp _
  have hpend : stopPending p.id (h ++ (startScheduling spawn s).2) = false := by
    have hsplit : (startScheduling spawn s).2 = [.schedulingRestarted] ++
        (Scheduler.startAll s.projects s.services spawn s.scheduler).2.map
          fun e => .engine e s.projects := rfl
    rw [hsplit, ← List.append_assoc, stopPending_append_of_quiet (engine_asksNothing _ _ _),
      stopPending_concat]
    rfl
  have hr := startAll_restarted s.projects s.services spawn p.id s.scheduler
  have hn := startAll_not_stopped s.projects s.services spawn s.scheduler p.id
  refine ⟨fun ht => iff_of_true ?_ hpend, fun _ => iff_of_true hn hpend⟩
  exact hr.timer.mpr ⟨p, hp.held, ⟨hp.enabled, hp.valid, ht⟩, hp.known⟩

/-- A record changes; what was asked of the other projects stays. -/
theorem modify_asked (id : String) {f : ServerManager → ServerManager}
    (hf : ∀ s, (f s).scheduler = s.scheduler ∧ (f s).services = s.services ∧
      ∀ q, q ≠ id → (f s).projects.find? q = s.projects.find? q) :
    Action.Sat (AskedExcept (some id)) (Action.modify f) (AskedExcept (some id)) := by
  refine Action.Sat.modify fun h s hs => ?_
  obtain ⟨hsched, hsvc, hproj⟩ := hf s
  refine AskedExcept.of_sameFlags hs (fun hd => hsched ▸ hd) (fun p hne hp => ?_)
    (fun q _ => hsched ▸ SameFlags.refl q _) fun _ _ => rfl
  refine ⟨?_, hp.enabled, hp.valid, hsvc ▸ hp.known⟩
  rw [← hproj p.id fun hq => hne (congrArg some hq)]
  exact hp.held

theorem AskedExcept.some_of_none (hs : AskedExcept none h s) : AskedExcept x h s :=
  fun hd p hp _ => hs hd p hp (by simp)

/-- The project `id` is stopped for the engine. -/
def IsStopped (id : String) (s : ServerManager) : Prop :=
  s.scheduler.engine.timers.contains id = false ∧
    s.scheduler.engine.restartSuppressed.find? id = some .stopped

/-- Asked to be stopped last, and stopped. -/
theorem IsStopped.asAsked (hs : IsStopped p.id s) (hp : stopPending p.id h = true) :
    AsAsked h s.scheduler.engine p := by
  simp [AsAsked, hp, hs.1, hs.2]

theorem stopAndTerminate_asked (id : String) :
    Action.Sat (AskedExcept none) (stopAndTerminate id)
      (fun h s => AskedExcept (some id) h s ∧ IsStopped id s) := by
  refine Action.Sat.modify fun h s hs => ⟨?_, ?_, ?_⟩
  · refine AskedExcept.of_sameFlags (x := some id) hs.some_of_none (fun hd => hd)
      (fun p _ hp => ⟨hp.held, hp.enabled, hp.valid, hp.known⟩)
      (fun q hne => ?_) fun _ _ => rfl
    have hq : q ≠ id := fun hq => hne (congrArg some hq)
    refine ⟨?_, ?_⟩
    · simp [ScheduleEngine.stopProject, SortedMap.contains_erase, hq]
    · simp [ScheduleEngine.stopProject, SortedMap.find?_insert, hq]
  · simp [ScheduleEngine.stopProject, SortedMap.contains_erase]
  · simp [ScheduleEngine.stopProject]

/-- A project that may not be scheduled is no exception. -/
theorem AskedExcept.all (hs : AskedExcept (some id) h s) (hno : ∀ p, Schedulable s p → p.id ≠ id) :
    AskedExcept none h s :=
  fun hd p hp _ => hs hd p hp fun heq => hno p hp (Option.some.inj heq)

/-- Only what an event asks of a project concerns it. -/
theorem asksStop_of_ne {verb : Verb} {q : String} (hne : some q ≠ some id) :
    (ServerEvent.responded verb id r).asksStop q = none := by
  have hq : id ≠ q := fun h => hne (congrArg some h.symm)
  cases verb <;> cases r <;> simp [ServerEvent.asksStop, hq]

/-- The project the step is about is as asked again. -/
theorem AskedExcept.all_of_asAsked (hs : AskedExcept (some id) h s)
    (hown : s.scheduler.engine.shuttingDown = false → ∀ p, Schedulable s p → p.id = id →
      AsAsked h s.scheduler.engine p) :
    AskedExcept none h s := by
  intro hd p hp _
  by_cases hid : p.id = id
  · exact hown hd p hp hid
  · exact hs hd p hp fun heq => hid (Option.some.inj heq)

/-- An answer about one project leaves what was asked of the others. -/
theorem respond_others (verb : Verb) (id : String) (response : ServerManager → Response) :
    Action.Sat (AskedExcept (some id)) (respond verb id response) (AskedExcept (some id)) :=
  respond_asked fun _ _ hne => asksStop_of_ne hne

/-- A waiting request that returns: a scheduling restart, or a project that is gone or
disabled. -/
theorem finishPending_asked (op : PendingOp) (finished : Bool) (storage : Except String Unit)
    (spawn : String → SpawnOutcome) :
    Action.Sat (AskedExcept (some op.projectId)) (finishPending op finished storage spawn)
      (AskedExcept none) := by
  have hrestart : ∀ (verb : Verb) (id : String) (response : ServerManager → Response),
      (∀ s q, (ServerEvent.responded verb id (response s)).asksStop q = none) →
      Action.Sat (AskedExcept (some op.projectId))
        (Action.seq (startScheduling spawn) (respond verb id response)) (AskedExcept none) :=
    fun verb id response hq => Action.Sat.seq
      ((restart_asked spawn).weaken (fun _ _ _ => trivial) fun _ _ h => h)
      (respond_asked fun s q _ => hq s q)
  have hinsert : ∀ (project : Project) (verb : Verb) (id : String)
      (response : ServerManager → Response),
      (∀ s q, (ServerEvent.responded verb id (response s)).asksStop q = none) →
      Action.Sat (AskedExcept (some op.projectId))
        (Action.seq (Action.modify fun s => { s with projects := s.projects.insert project })
          (Action.seq (startScheduling spawn) (respond verb id response))) (AskedExcept none) :=
    fun project verb id response hq => Action.Sat.seq
      (Action.Sat.modify (Q := fun _ _ => True) fun _ _ _ => trivial)
      (Action.Sat.seq (restart_asked spawn) (respond_asked fun s q _ => hq s q))
  cases finished with
  | false =>
    cases op
    all_goals
      refine hrestart _ _ _ fun s q => ?_
      first
        | rfl
        | (cases storage <;> rfl)
  | true =>
    cases op with
    | update project => exact hinsert project _ _ _ fun _ _ => rfl
    | reload project => exact hinsert project _ _ _ fun _ _ => rfl
    | delete id =>
      cases storage with
      | error e => exact hrestart _ _ _ fun _ _ => rfl
      | ok =>
        refine Action.Sat.seq (R := AskedExcept none) (Action.Sat.modify fun h s hs => ?_)
          (respond_asked fun _ _ _ => rfl)
        have hothers := modify_asked id
          (f := fun s : ServerManager => { s with projects := s.projects.remove id })
          (fun s => ⟨rfl, rfl, fun q hq => by simp [ProjectMap.find?_remove, hq]⟩) h s hs
        rw [Action.modify_apply, List.append_nil] at hothers
        -- the deleted project is not there any more
        refine hothers.all fun p hp hid => ?_
        simpa [ProjectMap.find?_remove, hid] using hp.held
    | disable updated hdis =>
      refine Action.Sat.seq (R := fun h s => AskedExcept (some updated.id) h s ∧
        s.projects.find? updated.id = some updated) (Action.Sat.modify fun h s hs => ⟨?_, ?_⟩)
        (Action.Sat.weaken (Action.Sat.emit_frame (respond_others .enabled updated.id
          (projectResponse 200 updated))) (fun _ _ h => h) fun h s ⟨hs, hheld⟩ => ?_)
      · have hothers := modify_asked updated.id
          (f := fun s : ServerManager => { s with projects := s.projects.insert updated })
          (fun s => ⟨rfl, rfl, fun q hq => by simp [ProjectMap.find?_insert, hq]⟩) h s hs
        simpa using hothers
      · simp [ProjectMap.find?_insert]
      · refine hs.all fun p hp hid => ?_
        have hpu : p = updated := Option.some.inj ((hid ▸ hp.held).symm.trans hheld)
        have hen := hp.enabled
        rw [hpu, hdis] at hen
        exact absurd hen (by simp)

/-- The announced stop is a stop. -/
theorem stopping_asked (id : String) :
    Action.Sat (fun h s => AskedExcept (some id) h s ∧ IsStopped id s)
      (Action.emit fun _ => .stopping id) (AskedExcept none) := by
  refine Action.Sat.emit fun h s ⟨hs, hstop⟩ => ?_
  have hothers : AskedExcept (some id) (h ++ [.stopping id]) s := by
    refine AskedExcept.of_sameFlags hs (fun hd => hd) (fun _ _ hp => hp)
      (fun q _ => SameFlags.refl q _) fun q hne => ?_
    have hq : id ≠ q := fun heq => hne (congrArg some heq.symm)
    rw [stopPending_concat]
    simp [ServerEvent.asksStop, hq]
  refine hothers.all_of_asAsked fun _ p _ hpid => ?_
  subst hpid
  refine hstop.asAsked ?_
  rw [stopPending_concat]
  simp [ServerEvent.asksStop]

/-- A request that stops the project and waits. -/
theorem stopProjectAndWait_asked (op : PendingOp) (storage : Except String Unit)
    (spawn : String → SpawnOutcome) :
    Action.Sat (AskedExcept none) (stopProjectAndWait op storage spawn) (AskedExcept none) := by
  refine Action.Sat.seq (stopAndTerminate_asked op.projectId)
    (Action.Sat.seq (stopping_asked op.projectId) (Action.Sat.bind fun s₀ => ?_))
  split_ifs
  · exact (finishPending_asked op true storage spawn).weaken
      (fun _ _ h => h.2.some_of_none) fun _ _ h => h
  · exact Action.Sat.modify fun h s ⟨_, hs⟩ => AskedExcept.of_sameFlags hs (fun hd => hd)
      (fun p _ hp => ⟨hp.held, hp.enabled, hp.valid, hp.known⟩)
      (fun q _ => SameFlags.refl q _) fun _ _ => rfl

theorem resume_asked (storage : Except String Unit) (spawn : String → SpawnOutcome) :
    Action.Sat (AskedExcept none) (resume storage spawn) (AskedExcept none) := by
  intro h s hs
  unfold resume
  cases hp : s.pending with
  | nil => simpa using hs
  | cons op rest =>
    refine finishPending_asked op _ storage spawn h { s with pending := rest } ?_
    exact AskedExcept.of_sameFlags (x := some op.projectId) hs.some_of_none (fun hd => hd)
      (fun p _ hp' => ⟨hp'.held, hp'.enabled, hp'.valid, hp'.known⟩)
      (fun q _ => SameFlags.refl q _) fun _ _ => rfl

/-- Resuming forgets the stop of the project. -/
theorem resumeProject_asked (id : String) :
    Action.Sat (AskedExcept none) (onEngine (·.resumeProject id)) (AskedExcept (some id)) := by
  refine Action.Sat.modify fun h s hs => ?_
  refine AskedExcept.of_sameFlags (x := some id) hs.some_of_none (fun hd => hd)
    (fun p _ hp => ⟨hp.held, hp.enabled, hp.valid, hp.known⟩)
    (fun q hne => ⟨rfl, ?_⟩) fun _ _ => rfl
  have hq : q ≠ id := fun hq => hne (congrArg some hq)
  simp [ScheduleEngine.resumeProject, SortedMap.find?_erase, hq]

/-! ## §5. The requests -/

section Requests

variable {validate : ConfigValidator}

theorem create_asked (body : Parsed ProjectBody) (saved : Except String Unit)
    (spawn : String → SpawnOutcome) :
    Action.Sat (AskedExcept none) (create validate body saved spawn) (AskedExcept none) := by
  intro h s hs
  unfold create
  cases checkCreate validate s body saved with
  | error r => exact respond_asked (x := none) (fun _ _ _ => rfl) h s hs
  | ok project =>
    exact Action.Sat.seq (Action.Sat.modify (Q := fun _ _ => True) fun _ _ _ => trivial)
      (Action.Sat.seq (restart_asked spawn) (respond_asked fun _ _ _ => rfl)) h s hs

theorem update_asked (id : String) (body : Parsed ProjectBody)
    (saved storage : Except String Unit) (spawn : String → SpawnOutcome) :
    Action.Sat (AskedExcept none) (update validate id body saved storage spawn)
      (AskedExcept none) := by
  intro h s hs
  unfold update
  cases checkUpdate validate s id body saved with
  | error r => exact respond_asked (x := none) (fun _ _ _ => rfl) h s hs
  | ok project => exact stopProjectAndWait_asked (.update project) storage spawn h s hs

theorem delete_asked (id : String) (storage : Except String Unit)
    (spawn : String → SpawnOutcome) :
    Action.Sat (AskedExcept none) (delete id storage spawn) (AskedExcept none) := by
  intro h s hs
  unfold delete
  split_ifs
  · exact respond_asked (x := none) (fun _ _ _ => rfl) h s hs
  · exact respond_asked (x := none) (fun _ _ _ => rfl) h s hs
  · exact stopProjectAndWait_asked (.delete id) storage spawn h s hs

theorem reload_asked (id : String) (loaded : Except String ProjectDraft)
    (spawn : String → SpawnOutcome) :
    Action.Sat (AskedExcept none) (reload validate id loaded spawn) (AskedExcept none) := by
  intro h s hs
  unfold reload
  cases checkReload validate s id loaded with
  | error r => exact respond_asked (x := none) (fun _ _ _ => rfl) h s hs
  | ok project => exact stopProjectAndWait_asked (.reload project) (.ok ()) spawn h s hs

end Requests

/-- The engine holds the project's schedule: a timer, or no stop. -/
def HoldsSchedule (e : ScheduleEngine) (p : Project) : Prop :=
  (p.schedule.type = .fixedRate → e.timers.contains p.id = true) ∧
  (p.schedule.type = .daemon → e.restartSuppressed.find? p.id ≠ some .stopped)

/-- Asked to be scheduled last. -/
theorem asAsked_iff_holdsSchedule (hp : stopPending p.id h = false) :
    AsAsked h e p ↔ HoldsSchedule e p := by
  simp [AsAsked, HoldsSchedule, hp]

/-- Enabling launches the project. -/
theorem startProject_holdsSchedule {project : Project} (hen : project.enabled = true)
    (hv : project.valid = true) (hk : services.contains project.serviceId = true)
    (outcome : SpawnOutcome) {s : Scheduler} (hsd : s.engine.shuttingDown = false) :
    HoldsSchedule (Scheduler.startProject project services outcome s).1.engine project := by
  obtain ⟨service, hservice⟩ := SortedMap.contains_eq_true.mp hk
  set installed : Scheduler := { s with engine := s.engine.install project services } with hi
  have heq : Scheduler.startProject project services outcome s =
      Scheduler.launch project outcome installed := by
    rw [Scheduler.startProject_eq]
    simp [hsd, hen, hv, hi]
  rw [heq]
  refine ⟨fun ht => ?_, fun _ => ?_⟩
  · have hsvc : installed.engine.services.find? project.serviceId = some service := hservice
    simp [Scheduler.launch, hsvc, ht, Scheduler.onEngine, ScheduleEngine.startFixedRate,
      SortedMap.contains_insert]
  · rw [ne_eq, launch_stopped]
    simp [hi, ScheduleEngine.install]

theorem checkEnabled_error {body : Parsed (Option Bool)} {saved : Except String Unit}
    (h : checkEnabled s id body saved = .error r) :
    ∃ status message, r = .error status message := by
  unfold checkEnabled at h
  split at h
  · exact ⟨_, _, (Except.error.inj h).symm⟩
  · split_ifs at h
    · exact ⟨_, _, (Except.error.inj h).symm⟩
    · split at h
      · exact ⟨_, _, (Except.error.inj h).symm⟩
      · exact ⟨_, _, (Except.error.inj h).symm⟩
      · split at h
        · exact ⟨_, _, (Except.error.inj h).symm⟩
        · simp at h

theorem setEnabled_asked (id : String) (body : Parsed (Option Bool))
    (saved storage : Except String Unit) (spawn : String → SpawnOutcome) :
    Action.Sat (AskedExcept none) (setEnabled id body saved storage spawn)
      (AskedExcept none) := by
  intro h s hs
  unfold setEnabled
  cases hc : checkEnabled s id body saved with
  | error r =>
    obtain ⟨status, message, rfl⟩ := checkEnabled_error hc
    exact respond_asked (x := none) (fun _ _ _ => rfl) h s hs
  | ok updated =>
    have hid : updated.id = id := checkEnabled_id hc
    dsimp only
    split_ifs with hen
    · -- the enabled project is launched, and the answer asks for just that
      refine Action.Sat.seq (P := fun h s' => s' = s ∧ AskedExcept none h s)
        (R := fun h s' => s' = { s with projects := s.projects.insert updated } ∧
          AskedExcept (some id) h s')
        (Action.Sat.modify ?_)
        (Action.Sat.seq (R := fun h s' => AskedExcept (some id) h s' ∧
          s'.projects.find? id = some updated ∧ (s'.scheduler.engine.shuttingDown = false →
            s'.services.contains updated.serviceId = true → updated.valid = true →
            HoldsSchedule s'.scheduler.engine updated)) ?_ ?_) h s ⟨rfl, hs⟩
      · intro h s' hnow
        obtain ⟨heq, hs⟩ := hnow
        refine ⟨by rw [heq], ?_⟩
        have hothers := modify_asked id
          (f := fun s : ServerManager => { s with projects := s.projects.insert updated })
          (fun s => ⟨rfl, rfl, fun q hq => by simp [ProjectMap.find?_insert, hid, hq]⟩)
          h s hs.some_of_none
        subst heq
        simpa using hothers
      · intro h s' hnow
        obtain ⟨heq, hs⟩ := hnow
        have hspares : ∀ q, some q ≠ some id → ∀ s₁ : Scheduler,
            Spares q s₁ (Scheduler.startProject updated s.services (spawn id) s₁) :=
          fun q hq s₁ => startProject_spares (by rw [hid]; exact fun he => hq (congrArg some he))
            _ _ s₁
        refine ⟨onScheduler_asked (fun s₁ => ⟨startProject_shuttingDown _ _ _ s₁,
          fun q hq => (hspares q hq s₁).schedule.sameFlags⟩) h s' hs, ?_, ?_⟩
        · rw [heq]
          simp [ProjectMap.find?_insert, hid]
        · intro hrun hk hv
          rw [onScheduler_scheduler, startProject_shuttingDown] at hrun
          rw [heq] at hk
          exact startProject_holdsSchedule hen hv hk _ hrun
      · intro h s' hnow
        obtain ⟨hs, hheld, hsched⟩ := hnow
        refine (respond_others .enabled id _ h s' hs).all_of_asAsked fun hrun p hp hpid => ?_
        have hpu : p = updated := Option.some.inj ((hpid ▸ hp.held).symm.trans hheld)
        subst hpu
        have hpend : stopPending p.id (h ++ (respond .enabled id (projectResponse 200 p) s').2) =
            false := by
          rw [respond, Action.emit_apply, stopPending_concat]
          simp [ServerEvent.asksStop, projectResponse, hid, hen]
        exact (asAsked_iff_holdsSchedule hpend).mpr (hsched hrun hp.known hp.valid)
    · exact stopProjectAndWait_asked _ storage spawn h s hs

theorem stop_asked (id : String) :
    Action.Sat (AskedExcept none) (stop id) (AskedExcept none) := by
  intro h s hs
  unfold stop
  split_ifs
  · exact respond_asked (x := none) (fun _ _ _ => rfl) h s hs
  · exact respond_asked (x := none) (fun _ _ _ => rfl) h s hs
  · refine Action.Sat.seq (stopAndTerminate_asked id) (fun h s ⟨hs, hstop⟩ => ?_) h s hs
    refine (respond_others .stop id _ h s hs).all_of_asAsked fun _ p _ hpid => ?_
    subst hpid
    refine hstop.asAsked ?_
    rw [respond, Action.emit_apply, stopPending_concat]
    simp [ServerEvent.asksStop]

/-! ## §6. The steps that may break it -/

/-- A refused start asks nothing. -/
theorem checkStart_error (h : checkStart s id = .error r) (q : String) :
    (ServerEvent.responded .start id r).asksStop q = none := by
  have hr : r.startAccepted = false := by
    unfold checkStart at h
    split at h
    · exact Except.error.inj h ▸ rfl
    split at h
    · exact Except.error.inj h ▸ rfl
    split at h
    · exact Except.error.inj h ▸ rfl
    split at h
    · exact Except.error.inj h ▸ rfl
    split at h
    all_goals
      split at h
      · first
          | exact Except.error.inj h ▸ rfl
          | simp at h
      · simp at h
  cases r <;> simp_all [ServerEvent.asksStop]

/-- An answer of the instance manager means that the project has been resumed. -/
theorem startedResponse_accepted (r : Except String (Nat × InstanceManager)) :
    (startedResponse r).startAccepted = true := by
  cases r <;> rfl

/-- What an accepted start request of the project must find. -/
def StartFindsSchedule (s : ServerManager) (id : String) : Prop :=
  match checkStart s id with
  | .error _ => True
  | .ok .noop => ∀ p, s.projects.find? id = some p → p.enabled = true →
      s.scheduler.engine.restartSuppressed.find? id ≠ some .stopped
  | .ok (.start p _) => p.enabled = true → p.schedule.type = .fixedRate →
      s.scheduler.engine.timers.contains id = true

/-- Everything is as asked once the project asked for last is. -/
theorem AskedExcept.all_iff (hs : AskedExcept (some p.id) h s)
    (hsch : p.enabled = true → Schedulable s p) (hheld : s.projects.find? p.id = some p)
    (hpend : stopPending p.id h = false) :
    AskedExcept none h s ↔ (s.scheduler.engine.shuttingDown = false → p.enabled = true →
      HoldsSchedule s.scheduler.engine p) := by
  constructor
  · intro hall hrun hen
    exact (asAsked_iff_holdsSchedule hpend).mp (hall hrun p (hsch hen) (by simp))
  · intro hown
    refine hs.all_of_asAsked fun hrun q hq hqid => ?_
    obtain rfl : q = p := Option.some.inj ((hqid ▸ hq.held).symm.trans hheld)
    exact (asAsked_iff_holdsSchedule hpend).mpr (hown hrun hq.enabled)

/-- A start request leaves the projects as asked iff it finds the schedule in place. -/
theorem start_asked_iff (hs : AskedExcept none h s) (id : String) (outcome : SpawnOutcome) :
    AskedExcept none (h ++ (start id outcome s).2) (start id outcome s).1 ↔
      (s.scheduler.engine.shuttingDown = false → StartFindsSchedule s id) := by
  unfold start StartFindsSchedule
  cases hc : checkStart s id with
  | error r =>
    exact iff_of_true (respond_asked (x := none) (fun _ q _ => checkStart_error hc q) h s hs)
      fun _ => trivial
  | ok check =>
    obtain ⟨-, p, service, hp, hv, hsvc, hcase⟩ := checkStart_ok hc
    have hpid : p.id = id := ProjectMap.id_of_find? hp
    subst hpid
    have hk : s.services.contains p.serviceId = true :=
      SortedMap.contains_eq_true.mpr ⟨service, hsvc⟩
    rcases hcase with ⟨rfl, ht, -⟩ | ⟨rfl, -⟩
    · -- the daemon runs: nothing is done
      have hpend : stopPending p.id (h ++ (respond .start p.id (fun _ => .noop) s).2) =
          false := by
        rw [respond, Action.emit_apply, stopPending_concat]
        simp [ServerEvent.asksStop, Response.startAccepted]
      rw [(respond_others .start p.id _ h s hs.some_of_none).all_iff
        (fun hen => ⟨hp, hen, hv, hk⟩) hp hpend]
      refine forall_congr' fun _ => ⟨fun hown q hq hen => ?_, fun hfind hen => ⟨?_, ?_⟩⟩
      · obtain rfl := Option.some.inj (hp.symm.trans hq)
        exact (hown hen).2 ht
      · intro hfix
        exact absurd (ht.symm.trans hfix) (by simp)
      · exact fun _ => hfind p hp hen
    · -- the flags are cleared and the instance is started
      dsimp only
      set started := s.scheduler.manager.startInstance p service.serviceDir outcome
      set resumed : Scheduler :=
        { s.scheduler with engine := s.scheduler.engine.resumeProject p.id } with hres
      have hothers := Action.Sat.seq (resumeProject_asked p.id) (Action.Sat.seq
        (onScheduler_asked fun s₁ => ⟨(Scheduler.startInstance_sameRecords p
          service.serviceDir outcome s₁).shuttingDown, fun q _ =>
          startInstance_sameFlags p service.serviceDir outcome s₁ q⟩)
        (respond_others .start p.id fun _ => startedResponse started)) h s hs
      have hpend : stopPending p.id (h ++ (Action.seq (onEngine (·.resumeProject p.id))
          (Action.seq (onScheduler (Scheduler.startInstance p service.serviceDir outcome))
            (respond .start p.id fun _ => startedResponse started)) s).2) = false := by
        simp only [Action.seq_apply, respond, Action.emit_apply]
        rw [← List.append_assoc, ← List.append_assoc, stopPending_concat]
        simp [ServerEvent.asksStop, startedResponse_accepted]
      rw [hothers.all_iff (fun hen => ⟨hp, hen, hv, hk⟩) hp hpend]
      have hrec := Scheduler.startInstance_sameRecords p service.serviceDir outcome resumed
      have hflags := startInstance_sameFlags p service.serviceDir outcome resumed p.id
      refine imp_congr (iff_of_eq (congrArg (· = false) hrec.shuttingDown))
        (forall_congr' fun hen => ?_)
      refine ⟨fun hown hfix => ?_, fun hfind => ⟨fun hfix => ?_, fun _ hstop => ?_⟩⟩
      · exact hflags.timer.symm.trans (hown.1 hfix)
      · exact hflags.timer.trans (hfind hfix)
      · have hnone := hflags.stopped.mp hstop
        simp [hres, ScheduleEngine.resumeProject] at hnone

/-- Every project that `services` and `projects` let the server schedule, and that it
could not schedule before, is as asked already. -/
def AdmitsAsAsked (c : Machine.Config ServerManager ServerEvent) (services : ServiceMap)
    (projects : ProjectMap) : Prop :=
  c.state.scheduler.engine.shuttingDown = false →
    ∀ p, Schedulable { c.state with services := services, projects := projects } p →
      (∀ q, Schedulable c.state q → q.id ≠ p.id) → AsAsked c.history c.state.scheduler.engine p

/-- Stopping projects leaves the flags of the others. -/
theorem stopEach_sameFlags {ps : List Project} (hps : ∀ p ∈ ps, p.id ≠ id) (e : ScheduleEngine) :
    SameFlags id e (stopEach e ps) := by
  induction ps generalizing e with
  | nil => exact SameFlags.refl id e
  | cons p ps ih =>
    have hne : id ≠ p.id := (hps p (by simp)).symm
    have hone : SameFlags id e (e.stopProject p.id) := by
      refine ⟨?_, ?_⟩
      · simp [ScheduleEngine.stopProject, SortedMap.contains_erase, hne]
      · simp [ScheduleEngine.stopProject, SortedMap.find?_insert, hne]
    have hrest := ih (fun q hq => hps q (by simp [hq])) (e.stopProject p.id)
    exact ⟨hrest.timer.trans hone.timer, hrest.stopped.trans hone.stopped⟩

/-- A change of the maps keeps what was asked iff what it admits is as asked. -/
theorem admits_asked_iff (hc : ScheduledAsAsked c) {projects : ProjectMap}
    (htype : ∀ p, projects.find? p.id = some p → ∃ q, c.state.projects.find? p.id = some q ∧
      q.schedule = p.schedule) (s' : ServerManager)
    (hs' : s'.services = services ∧ s'.projects = projects ∧
      s'.scheduler.engine.shuttingDown = c.state.scheduler.engine.shuttingDown)
    (hf : ∀ p, Schedulable s' p → SameFlags p.id c.state.scheduler.engine s'.scheduler.engine)
    (hh : ∀ id, stopPending id h' = stopPending id c.history) :
    AskedExcept none h' s' ↔ AdmitsAsAsked c services projects := by
  obtain ⟨hsvc, hproj, hsd⟩ := hs'
  have hsch : ∀ p, Schedulable s' p ↔
      Schedulable { c.state with services := services, projects := projects } p := by
    intro p
    constructor
    · rintro ⟨hheld, hen, hv, hk⟩
      exact ⟨hproj ▸ hheld, hen, hv, hsvc ▸ hk⟩
    · rintro ⟨hheld, hen, hv, hk⟩
      exact ⟨hproj ▸ hheld, hen, hv, hsvc ▸ hk⟩
  have hasked : ∀ p, Schedulable s' p →
      (AsAsked h' s'.scheduler.engine p ↔ AsAsked c.history c.state.scheduler.engine p) :=
    fun p hp => AsAsked.congr rfl rfl (hf p hp) (hh p.id)
  constructor
  · intro hall hrun p hp _
    exact (hasked p ((hsch p).mpr hp)).mp (hall (hsd.trans hrun) p ((hsch p).mpr hp) (by simp))
  · intro hadm hrun p hp _
    rw [hasked p hp]
    by_cases hold : ∃ q, Schedulable c.state q ∧ q.id = p.id
    · -- it could be scheduled before
      obtain ⟨q, hq, hqid⟩ := hold
      obtain ⟨r, hr, hsched⟩ := htype p ((hsch p).mp hp).held
      obtain rfl : q = r := Option.some.inj ((hqid ▸ hq.held).symm.trans hr)
      exact (AsAsked.congr hqid.symm (by rw [hsched]) (SameFlags.refl _ _) rfl).mpr
        (hc (hsd.symm.trans hrun) q hq (by simp))
    · exact hadm (hsd.symm.trans hrun) p ((hsch p).mp hp) fun q hq hid => hold ⟨q, hq, hid⟩

/-- Validating again keeps the schedules. -/
theorem revalidated_schedule {projects : ProjectMap}
    (hp : (revalidated validate services projects).find? id = some p) :
    ∃ q, projects.find? id = some q ∧ q.schedule = p.schedule := by
  rw [revalidated, ProjectMap.find?_mapProjects, Option.map_eq_some_iff] at hp
  obtain ⟨q, hq, rfl⟩ := hp
  exact ⟨q, hq, by simp⟩

/-- A scan without a scheduling restart. -/
theorem rescan_asked_iff (hc : ScheduledAsAsked c) (found : ServiceMap)
    (revalidateProjects stopInvalidProjects : Bool) (spawn : String → SpawnOutcome) :
    ScheduledAsAsked ((serverMachine validate).next c
        (.rescanServices found revalidateProjects false stopInvalidProjects spawn)) ↔
      AdmitsAsAsked c found (if revalidateProjects then revalidated validate found c.state.projects
        else c.state.projects) := by
  have happly := rescanServices_apply validate found revalidateProjects false
    stopInvalidProjects spawn c.state
  rw [ScheduledAsAsked, Machine.next_history, Machine.next_state, serverMachine_step,
    ServerOp.action, happly]
  simp only [Bool.false_eq_true, if_false, Action.seq_apply, Action.skip_apply,
    Action.emit_apply, List.nil_append]
  refine admits_asked_iff hc (fun p hp => ?_)
    (rescannedState validate c.state found revalidateProjects stopInvalidProjects)
    ⟨rfl, rfl, (stopEach_records _ _).2.2.1⟩ (fun p hp => ?_) fun id => ?_
  · cases revalidateProjects with
    | true => exact revalidated_schedule hp
    | false => exact ⟨p, hp, rfl⟩
  · -- only invalid projects are stopped
    refine stopEach_sameFlags (fun q hq hid => ?_) c.state.scheduler.engine
    cases hstop : revalidateProjects && stopInvalidProjects with
    | false => simp [hstop] at hq
    | true =>
      rw [hstop, if_pos rfl] at hq
      obtain ⟨hmem, hinv⟩ := List.mem_filter.mp hq
      have hqp : q = p :=
        Option.some.inj ((hid ▸ ProjectMap.mem_values.mp hmem).symm.trans hp.held)
      rw [hqp, hp.valid] at hinv
      exact absurd hinv (by simp)
  · rw [stopPending_concat]
    rfl

theorem createService_asked_iff (hc : ScheduledAsAsked c) {request : ServiceCreateRequest}
    {loaded : Except String ServiceInfo} {service : ServiceInfo}
    (hok : checkCreateService c.state request loaded = .ok service) :
    ScheduledAsAsked ((serverMachine validate).next c (.createService request loaded)) ↔
      AdmitsAsAsked c (c.state.services.insert service.id service) c.state.projects := by
  rw [ScheduledAsAsked, Machine.next_history, Machine.next_state, serverMachine_step,
    ServerOp.action, createService, hok]
  refine admits_asked_iff hc (fun p hp => ⟨p, hp, rfl⟩)
    { c.state with services := c.state.services.insert service.id service }
    ⟨rfl, rfl, rfl⟩ (fun p _ => SameFlags.refl _ _) fun id => ?_
  rw [stopPending_concat]
  rfl

/-- Service results ask nothing. -/
theorem serviceResult_asked (hs : AskedExcept x h s) (result : Except String Unit) :
    AskedExcept x (h ++ [.serviceResult result]) s :=
  AskedExcept.of_sameFlags hs (fun hd => hd) (fun _ _ hp => hp)
    (fun id _ => SameFlags.refl id _) fun id _ => by
      rw [stopPending_concat]
      rfl

theorem reloadService_asked (serviceId : String) (loaded : Except String ServiceInfo) :
    Action.Sat (AskedExcept none) (reloadService serviceId loaded) (AskedExcept none) := by
  intro h s hs
  obtain ⟨services, result, ho, hk⟩ := reloadService_cases serviceId loaded s
  have hs' : AskedExcept none h { s with services := services } := by
    refine AskedExcept.of_sameFlags hs (fun hd => hd) (fun p _ hp => ?_)
      (fun id _ => SameFlags.refl id _) fun _ _ => rfl
    exact ⟨hp.held, hp.enabled, hp.valid, (hk p.serviceId).symm.trans hp.known⟩
  rw [ho]
  exact serviceResult_asked hs' result

/-- Deleting a service stops its projects only, and these are not valid any more. -/
theorem deleteService_asked (serviceId : String) (force removed : Bool) :
    Action.Sat (AskedExcept none) (deleteService serviceId force removed)
      (AskedExcept none) := by
  intro h s hs
  rcases deleteService_cases serviceId force removed s with
    ⟨result, ho⟩ | ⟨services, result, hk, ho⟩
  · rw [ho]
    exact serviceResult_asked hs result
  · rw [ho]
    refine serviceResult_asked ?_ result
    intro hrun p hp hne
    have hheld := hp.held
    rw [ProjectMap.find?_mapProjects, Option.map_eq_some_iff] at hheld
    obtain ⟨q, hq, hqp⟩ := hheld
    have hv := hp.valid
    have hother : q.serviceId ≠ serviceId ∧ q = p := by
      unfold orphan at hqp
      split_ifs at hqp with hsid
      · rw [← hqp] at hv
        exact absurd hv (by simp)
      · exact ⟨hsid, hqp⟩
    obtain ⟨hsid, rfl⟩ := hother
    have hflags : SameFlags q.id s.scheduler.engine (stopEach s.scheduler.engine
        (s.projects.values.filter fun p => p.serviceId = serviceId)) := by
      refine stopEach_sameFlags (fun r hr hid => ?_) s.scheduler.engine
      obtain ⟨hmem, hrs⟩ := List.mem_filter.mp hr
      have hrq : r = q :=
        Option.some.inj ((hid ▸ ProjectMap.mem_values.mp hmem).symm.trans hq)
      exact hsid (by simpa [hrq] using hrs)
    refine (AsAsked.congr rfl rfl hflags rfl).mpr (hs ?_ q ?_ hne)
    · exact (stopEach_records _ _).2.2.1.symm.trans hrun
    · exact ⟨hq, hp.enabled, hv, hk _ hp.known⟩

/-! ## §7. Whole runs -/

/-- **When a step leaves every project scheduled as asked.**
* an accepted start request for an enabled project finds the fixed-rate timer armed; one
  that finds the daemon running finds it not stopped;
* a service scan without a scheduling restart, and the creation of a service, admit only
  projects whose timer and suppression are as asked already.
Every other step does. -/
def KeepsAsked (validate : ConfigValidator) (c : Machine.Config ServerManager ServerEvent) :
    ServerOp → Prop
  | .start id _ =>
      c.state.scheduler.engine.shuttingDown = false → StartFindsSchedule c.state id
  | .rescanServices found revalidateProjects false _ _ =>
      AdmitsAsAsked c found
        (if revalidateProjects then revalidated validate found c.state.projects
          else c.state.projects)
  | .createService request loaded =>
      ∀ service, checkCreateService c.state request loaded = .ok service →
        AdmitsAsAsked c (c.state.services.insert service.id service) c.state.projects
  | _ => True

/-- **The step lemma.** -/
theorem scheduledAsAsked_next (hc : ScheduledAsAsked c) (op : ServerOp) :
    ScheduledAsAsked ((serverMachine validate).next c op) ↔ KeepsAsked validate c op := by
  have hkept (ha : Action.Sat (AskedExcept none) (op.action validate) (AskedExcept none)) :
      ScheduledAsAsked ((serverMachine validate).next c op) :=
    ha c.history c.state hc
  cases op with
  | create body saved spawn => exact iff_of_true (hkept (create_asked body saved spawn)) trivial
  | update id body saved storage spawn => exact iff_of_true (hkept (update_asked id body saved storage spawn)) trivial
  | delete id storage spawn => exact iff_of_true (hkept (delete_asked id storage spawn)) trivial
  | reload id loaded spawn => exact iff_of_true (hkept (reload_asked id loaded spawn)) trivial
  | setEnabled id body saved storage spawn =>
    exact iff_of_true (hkept (setEnabled_asked id body saved storage spawn)) trivial
  | start id outcome => exact start_asked_iff hc id outcome
  | stop id => exact iff_of_true (hkept (stop_asked id)) trivial
  | resume storage spawn => exact iff_of_true (hkept (resume_asked storage spawn)) trivial
  | rescanServices found revalidateProjects restartScheduling stopInvalidProjects spawn =>
    cases restartScheduling with
    | false => exact rescan_asked_iff hc ..
    | true =>
      refine iff_of_true ?_ trivial
      rw [ScheduledAsAsked, Machine.next_history, Machine.next_state, serverMachine_step,
        ServerOp.action, rescanServices_apply]
      exact Action.Sat.seq (restart_asked spawn)
        (Action.Sat.emit fun h s hs => AskedExcept.of_sameFlags hs (fun hd => hd)
          (fun _ _ hp => hp) (fun id _ => SameFlags.refl id _)
          fun id _ => by rw [stopPending_concat]; rfl) _ _ trivial
  | createService request loaded =>
    cases hok : checkCreateService c.state request loaded with
    | error e =>
      refine iff_of_true ?_ fun service h => ?_
      · rw [ScheduledAsAsked, Machine.next_history, Machine.next_state, serverMachine_step,
          ServerOp.action, createService, hok]
        exact serviceResult_asked hc _
      · exact absurd (hok.symm.trans h) (by simp)
    | ok service =>
      rw [createService_asked_iff hc hok]
      refine ⟨fun h service' h' => ?_, fun h => h service hok⟩
      obtain rfl := Except.ok.inj (hok.symm.trans h')
      exact h
  | deleteService id force removed =>
    exact iff_of_true (hkept (deleteService_asked id force removed)) trivial
  | reloadService id loaded => exact iff_of_true (hkept (reloadService_asked id loaded)) trivial
  | fixedRateTick projectId outcome =>
    exact iff_of_true (hkept (onScheduler_asked fun s =>
      ⟨(Scheduler.fixedRateTick_sameRecords projectId outcome s).shuttingDown,
        fun id _ => fixedRateTick_sameFlags projectId outcome s id⟩)) trivial
  | restartFires timerId outcome =>
    exact iff_of_true (hkept (onScheduler_asked fun s =>
      ⟨(Scheduler.restartFires_sameRecords timerId outcome s).shuttingDown,
        fun id _ => restartFires_sameFlags timerId outcome s id⟩)) trivial
  | processFinished instanceId exitCode exitStatus =>
    exact iff_of_true (hkept (onScheduler_asked fun s =>
      ⟨(Scheduler.processFinished_sameRecords instanceId exitCode exitStatus s).shuttingDown,
        fun id _ => processFinished_sameFlags instanceId exitCode exitStatus s id⟩)) trivial
  | shutdown =>
    refine iff_of_true (fun hrun => ?_) trivial
    exact absurd hrun (by simp [shutdown, onEngine, ServerOp.action, ScheduleEngine.stopAll])

/-- **Start undoes stop, along whole runs.**  In every state of a run from the start of
the server every project that may be scheduled is scheduled as asked, iff every step of
the run satisfies `KeepsAsked`. -/
theorem scheduled_as_asked_iff (validate : ConfigValidator) (services : ServiceMap)
    (projects : ProjectMap) (spawn : String → SpawnOutcome) (ops : List ServerOp) :
    (serverMachine validate).EveryState ScheduledAsAsked (booted services projects spawn) ops ↔
      (serverMachine validate).EveryStep (KeepsAsked validate) (booted services projects spawn)
        ops :=
  Machine.everyState_iff_everyStep (fun _ op hc => scheduledAsAsked_next hc op)
    (restart_asked spawn [] { services := services, projects := projects } trivial)

/-- A fixed-rate project on the echo service. -/
def echoPoll : Project :=
  { id := "p", name := "P", serviceId := "echo", schedule := { type := .fixedRate } }

/-- A server with the one fixed-rate project. -/
def pollServer : Machine.Config ServerManager ServerEvent :=
  booted echoServices (ProjectMap.empty.insert echoPoll) fun _ => .running

/-- The project is stopped and started again: one instance runs, but no timer. -/
theorem started_project_not_polled :
    ¬ (serverMachine acceptAll).EveryState ScheduledAsAsked pollServer
        [.stop "p", .start "p" .running] := by
  rintro ⟨-, -, h⟩
  have hasked := h (by decide) echoPoll
    ⟨rfl, rfl, rfl, by decide⟩ (by simp)
  have htimer := hasked.1 rfl
  revert htimer
  decide

end Stdiolink.Server
