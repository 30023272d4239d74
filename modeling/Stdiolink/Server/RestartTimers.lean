/-
  Stdiolink.Server.RestartTimers — what a delayed restart finds when it fires.

  A restart is armed for one crash and captures the project's id and service
  directory.  By the time it fires another instance of the project may have been
  started, or the project may have moved to another service.  Such a restart is
  stale.  `startDaemon` does not ask; what keeps a stale restart from starting an
  instance is a shutdown, a suppression, a missing record or a live instance.

  Main results:
    * `restartsSettled_next` — the invariant "every stale restart is held back" and
      the operations that keep it;
    * `restarts_fresh` — along every run of such operations a restart starts an
      instance only if none was started since its crash, in the current directory.
-/
import Stdiolink.Server.EngineRun

namespace Stdiolink.Server

open Stdiolink.Lib

/-! ## §1. Histories -/

/-- The event arms the restart with this timer id. -/
def ScheduleEvent.arms (timerId : Nat) : ScheduleEvent → Bool
  | .restartArmed r _ => decide (r.timerId = timerId)
  | _ => false

/-- The event creates an instance of the project. -/
def ScheduleEvent.creates (projectId : String) : ScheduleEvent → Bool
  | .instanceCreated _ id => decide (id = projectId)
  | _ => false

/-- Some instance of the project was created after the restart was armed. -/
def startedSince (timerId : Nat) (projectId : String) : List ScheduleEvent → Bool
  | [] => false
  | e :: h => (e.arms timerId && h.any (·.creates projectId)) || startedSince timerId projectId h

theorem startedSince_append (t : Nat) (q : String) (h h' : List ScheduleEvent) :
    startedSince t q (h ++ h') =
      (startedSince t q h || (h.any (·.arms t) && h'.any (·.creates q)) ||
        startedSince t q h') := by
  induction h with
  | nil => simp [startedSince]
  | cons e h ih =>
    simp only [List.cons_append, startedSince, ih, List.any_append, List.any_cons]
    cases e.arms t <;> cases h.any (·.creates q) <;> cases h'.any (·.creates q) <;>
      cases h.any (·.arms t) <;> cases startedSince t q h <;> rfl

variable {t : Nat} {q projectId : String} {h h' : List ScheduleEvent} {s s' : Scheduler}
  {r : RestartTimer} {fails : Prop} {project : Project} {spawn : String → SpawnOutcome}
  {ps : List Project}

theorem startedSince_of_not_armed (hno : h.any (·.arms t) = false) :
    startedSince t q h = false := by
  induction h with
  | nil => rfl
  | cons e h ih =>
    simp only [List.any_cons, Bool.or_eq_false_iff] at hno
    simp [startedSince, hno.1, ih hno.2]

theorem startedSince_of_not_created (hno : h.any (·.creates q) = false) :
    startedSince t q h = false := by
  induction h with
  | nil => rfl
  | cons e h ih =>
    simp only [List.any_cons, Bool.or_eq_false_iff] at hno
    simp [startedSince, hno.2, ih hno.2]

/-- Events that create no instance of the project change nothing. -/
theorem startedSince_append_of_not_created (hno : h'.any (·.creates q) = false) :
    startedSince t q (h ++ h') = startedSince t q h := by
  simp [startedSince_append, hno, startedSince_of_not_created hno]

/-! ## §2. Stale restarts -/

/-- The restart no longer belongs to its project: an instance was started since, or
the directory it captured is not the record's. -/
def Stale (h : List ScheduleEvent) (s : Scheduler) (r : RestartTimer) : Prop :=
  startedSince r.timerId r.projectId h = true ∨
    ∃ p, s.engine.projects.find? r.projectId = some p ∧
      s.engine.services.dir? p.serviceId ≠ some r.serviceDir

/-- A restart of this project would not start an instance now. -/
def RestartHeld (s : Scheduler) (projectId : String) : Prop :=
  ¬ s.DaemonMayStart projectId ∨ s.engine.projects.find? projectId = none

/-- Armed and logged restarts have old timer ids. -/
structure IdsBelow (h : List ScheduleEvent) (s : Scheduler) : Prop where
  restarts : ∀ r ∈ s.engine.restarts, r.timerId < s.engine.nextTimer
  logged : ∀ r p, .restartArmed r p ∈ h → r.timerId < s.engine.nextTimer

/-- The restart may fire: it is not stale, or it is held back. -/
def Settled (h : List ScheduleEvent) (s : Scheduler) (r : RestartTimer) : Prop :=
  Stale h s r → RestartHeld s r.projectId

/-- **The invariant.** -/
structure RestartsSettled (h : List ScheduleEvent) (s : Scheduler) : Prop where
  settled : ∀ r ∈ s.engine.restarts, Settled h s r
  ids : IdsBelow h s

/-- What an operation on one project may do to the restarts, the history and what
holds restarts back. -/
structure Touches (projectId : String) (h : List ScheduleEvent) (s : Scheduler)
    (h' : List ScheduleEvent) (s' : Scheduler) : Prop where
  projects : s'.engine.projects = s.engine.projects
  services : s'.engine.services = s.engine.services
  restarts : ∀ r ∈ s'.engine.restarts,
    r ∈ s.engine.restarts ∨ r.projectId = projectId ∧ ¬ Stale h' s' r
  started : ∀ r ∈ s.engine.restarts, r.projectId ≠ projectId →
    startedSince r.timerId r.projectId h' = startedSince r.timerId r.projectId h
  held : ∀ q, RestartHeld s q → RestartHeld s' q
  ids : IdsBelow h' s'

theorem Touches.rfl (hids : IdsBelow h s) : Touches projectId h s h s :=
  ⟨Eq.refl _, Eq.refl _, fun _ hr => Or.inl hr, fun _ _ _ => Eq.refl _, fun _ hq => hq, hids⟩

/-- Restarts of other projects stay settled. -/
theorem Touches.settled_of_ne (ht : Touches projectId h s h' s') (hr : r ∈ s.engine.restarts)
    (hne : r.projectId ≠ projectId) (hset : Settled h s r) :
    Settled h' s' r := by
  rintro (hst | ⟨p, hp, hdir⟩)
  · rw [ht.started r hr hne] at hst
    exact ht.held _ (hset (Or.inl hst))
  · rw [ht.projects] at hp
    rw [ht.services] at hdir
    exact ht.held _ (hset (Or.inr ⟨p, hp, hdir⟩))

theorem RestartHeld.congr (hsd : s'.engine.shuttingDown = s.engine.shuttingDown)
    (hsup : s.engine.restartSuppressed.contains q = true →
      s'.engine.restartSuppressed.contains q = true)
    (hcount : 0 < s.manager.instanceCount q → 0 < s'.manager.instanceCount q)
    (hp : s'.engine.projects = s.engine.projects) (h : RestartHeld s q) : RestartHeld s' q := by
  rcases h with h | h
  · left
    rintro ⟨h1, h2, h3⟩
    refine h ⟨by rw [← hsd]; exact h1, ?_, ?_⟩
    · by_contra hc
      rw [hsup (by simpa using hc)] at h2
      exact absurd h2 (by simp)
    · by_contra hc
      have := hcount (by omega)
      omega
  · right
    rwa [hp]

/-- **The slot.**  Whatever it does, it starts nothing, lifts nothing, and a restart
it arms is fresh. -/
theorem notifyFinished_touches (hids : IdsBelow h s) (projectId : String) (exitCode : Int)
    (exitStatus : ExitStatus) :
    Touches projectId h s (h ++ (Scheduler.notifyFinished projectId exitCode exitStatus s).2)
        (Scheduler.notifyFinished projectId exitCode exitStatus s).1 ∧
      ∀ q, (Scheduler.notifyFinished projectId exitCode exitStatus s).2.any (·.creates q) =
        false := by
  unfold Scheduler.notifyFinished
  rcases ScheduleEngine.onInstanceFinished_cases s.engine projectId exitCode exitStatus with
    ho | ⟨project, -, -, hp, -, cf, -, ho | ho | ⟨service, hsvc, ho⟩⟩
  · rw [ho]
    simpa using Touches.rfl hids
  · rw [ho]
    refine ⟨?_, by simp⟩
    simp only [List.append_nil]
    exact ⟨rfl, rfl, fun _ hr => Or.inl hr, fun _ _ _ => rfl, fun _ hq => hq,
      ⟨hids.restarts, hids.logged⟩⟩
  · rw [ho]
    have hnone : ∀ q, [ScheduleEvent.scheduleSuppressed projectId "crash_loop"
        (s.engine.failures projectId + 1)].any (·.creates q) = false := by
      simp [ScheduleEvent.creates]
    refine ⟨⟨rfl, rfl, fun _ hr => Or.inl hr, fun r _ _ => ?_, fun q hq => ?_, ?_⟩, hnone⟩
    · exact startedSince_append_of_not_created (hnone _)
    · refine RestartHeld.congr (s := s) rfl (fun hc => ?_) (fun hc => hc) rfl hq
      simp [SortedMap.contains_insert, hc]
    · exact ⟨hids.restarts, fun r p hmem => hids.logged r p (by simpa using hmem)⟩
  · rw [ho]
    set r₀ := s.engine.restartFor project service.serviceDir with hr₀
    have hid : project.id = projectId := ProjectMap.id_of_find? hp
    have hnone : ∀ q, [ScheduleEvent.restartArmed r₀ project].any (·.creates q) = false := by
      simp [ScheduleEvent.creates]
    refine ⟨⟨rfl, rfl, fun r hr => ?_, fun r _ _ => ?_, fun q hq => hq, ?_⟩, hnone⟩
    · rcases List.mem_append.mp hr with hr | hr
      · exact Or.inl hr
      · obtain rfl := List.mem_singleton.mp hr
        refine Or.inr ⟨hid, ?_⟩
        rintro (hst | ⟨p, hfind, hdir⟩)
        · rw [startedSince_append_of_not_created (hnone _)] at hst
          have hno : h.any (·.arms r₀.timerId) = false := by
            rw [List.any_eq_false]
            intro e he harm
            cases e with
            | restartArmed r p =>
              have hlt := hids.logged r p he
              have heq : r.timerId = s.engine.nextTimer := by
                simpa [ScheduleEvent.arms, hr₀, ScheduleEngine.restartFor] using harm
              omega
            | _ => simp [ScheduleEvent.arms] at harm
          rw [startedSince_of_not_armed hno] at hst
          exact absurd hst (by simp)
        · have hpp : p = project := by
            have : s.engine.projects.find? project.id = some p := hfind
            rw [hid, hp] at this
            exact (Option.some.inj this).symm
          subst hpp
          refine hdir ?_
          simp [ServiceMap.dir?, ScheduleEngine.armRestart, hsvc, hr₀, ScheduleEngine.restartFor]
    · exact startedSince_append_of_not_created (hnone _)
    · refine ⟨fun r hr => ?_, fun r p hmem => ?_⟩
      · rcases List.mem_append.mp hr with hr | hr
        · exact Nat.lt_succ_of_lt (hids.restarts r hr)
        · obtain rfl := List.mem_singleton.mp hr
          exact Nat.lt_succ_self _
      · rcases List.mem_append.mp hmem with hmem | hmem
        · exact Nat.lt_succ_of_lt (hids.logged r p hmem)
        · obtain ⟨rfl, rfl⟩ := ScheduleEvent.restartArmed.inj (List.mem_singleton.mp hmem)
          exact Nat.lt_succ_self _

/-! ## §3. Starts -/

theorem IdsBelow.append (hids : IdsBelow h s) (hno : ∀ r p, .restartArmed r p ∉ h') :
    IdsBelow (h ++ h') s := by
  refine ⟨hids.restarts, fun r p hmem => ?_⟩
  rcases List.mem_append.mp hmem with hmem | hmem
  · exact hids.logged r p hmem
  · exact absurd hmem (hno r p)

/-- A start that leaves the instance alive holds back every restart of its project. -/
theorem createInstance_touches (hids : IdsBelow h s) (project : Project) (serviceDir : String) :
    Touches project.id h s (h ++ [.instanceCreated s.manager.nextId project.id])
      { s with manager := s.manager.add project serviceDir } := by
  refine ⟨rfl, rfl, fun _ hr => Or.inl hr, fun r _ hne => ?_, fun q hq => ?_, ?_⟩
  · refine startedSince_append_of_not_created ?_
    simpa [ScheduleEvent.creates] using Ne.symm hne
  · refine RestartHeld.congr (s := s) rfl (fun hc => hc) ?_ rfl hq
    exact (s.manager.persists_add project serviceDir).instanceCount_pos
  · exact ⟨hids.restarts, fun r p hmem => hids.logged r p (by simpa using hmem)⟩

/-- A start that fails inside `QProcess::start` is a notification: its instance is
gone again, and every older instance is still there. -/
theorem failedStart_touches (hids : IdsBelow h s) (project : Project) (serviceDir : String) :
    let created : Scheduler := { s with manager := s.manager.add project serviceDir }
    let out := Scheduler.endInstance s.manager.nextId project.id (-1) .crashExit created
    Touches project.id h s
      (h ++ .instanceCreated s.manager.nextId project.id :: out.2) out.1 := by
  intro created out
  set start : List ScheduleEvent := [.instanceCreated s.manager.nextId project.id,
    .instanceFinished s.manager.nextId project.id (-1) .crashExit] with hstart
  set slot := Scheduler.notifyFinished project.id (-1) .crashExit s with hslot
  have hout1 : out.1 = { slot.1 with manager :=
      (s.manager.add project serviceDir).remove s.manager.nextId } := rfl
  have hout2 : h ++ .instanceCreated s.manager.nextId project.id :: out.2 =
      (h ++ start) ++ slot.2 := by
    simp [out, hstart, hslot, Scheduler.endInstance, Scheduler.notifyFinished, created]
  have hids' : IdsBelow (h ++ start) s := hids.append (by simp [hstart])
  obtain ⟨ht, hno⟩ := notifyFinished_touches hids' project.id (-1) .crashExit
  have hman : slot.1.manager = s.manager := rfl
  rw [hout2]
  refine ⟨ht.projects, ht.services, fun r hr => ?_, fun r hr hne => ?_, fun q hq => ?_, ?_⟩
  · exact ht.restarts r hr
  · rw [ht.started r hr hne]
    refine startedSince_append_of_not_created ?_
    simpa [hstart, ScheduleEvent.creates] using Ne.symm hne
  · refine RestartHeld.congr (s := slot.1) rfl (fun hc => hc) ?_ rfl (ht.held q hq)
    rw [hman]
    exact (s.manager.persists_add_remove project serviceDir).instanceCount_pos
  · exact ⟨ht.ids.restarts, ht.ids.logged⟩

/-- What a call that may start the project, and may fail inside `QProcess::start` only
under `fails`, leaves of the project's own restarts. -/
structure StartsOwn (projectId : String) (fails : Prop) (h : List ScheduleEvent)
    (s : Scheduler) (h' : List ScheduleEvent) (s' : Scheduler) : Prop where
  touches : Touches projectId h s h' s'
  own : ¬ fails →
    (∀ t, startedSince t projectId h' = startedSince t projectId h) ∨
      RestartHeld s' projectId

theorem StartsOwn.rfl (hids : IdsBelow h s) : StartsOwn projectId fails h s h s :=
  ⟨Touches.rfl hids, fun _ => Or.inl fun _ => Eq.refl _⟩

/-- **A start.**  Unless it fails inside `QProcess::start`, it creates no instance or
leaves one that holds its project's restarts back. -/
theorem startInstance_startsOwn (hids : IdsBelow h s) (project : Project) (serviceDir : String)
    (outcome : SpawnOutcome) :
    StartsOwn project.id (outcome = .failedToStart) h s
      (h ++ (Scheduler.startInstance project serviceDir outcome s).2)
      (Scheduler.startInstance project serviceDir outcome s).1 := by
  rcases Scheduler.startInstance_cases project serviceDir outcome s with
    ⟨ho, -⟩ | ⟨-, -, ⟨-, ho⟩ | ⟨hfail, ho⟩⟩
  · rw [ho]
    simpa using StartsOwn.rfl hids
  · rw [ho]
    refine ⟨createInstance_touches hids project serviceDir, fun _ => Or.inr (Or.inl ?_)⟩
    rintro ⟨-, -, hcount⟩
    have := InstanceManager.instanceCount_add s.manager project serviceDir
    simp only at hcount
    omega
  · rw [ho]
    exact ⟨failedStart_touches hids project serviceDir, fun hne => absurd hfail hne⟩

/-- Events that neither arm a restart nor create an instance. -/
def Quiet (l : List ScheduleEvent) : Prop :=
  (∀ r p, .restartArmed r p ∉ l) ∧ ∀ q, l.any (·.creates q) = false

theorem Touches.of_quiet {l : List ScheduleEvent} (hl : Quiet l)
    (ht : Touches projectId (h ++ l) s h' s') : Touches projectId h s h' s' := by
  refine ⟨ht.projects, ht.services, ht.restarts, fun r hr hne => ?_, ht.held, ht.ids⟩
  rw [ht.started r hr hne]
  exact startedSince_append_of_not_created (hl.2 _)

theorem callStart_startsOwn (hids : IdsBelow h s) (caller : StartCaller) (project : Project)
    (serviceDir : String) (outcome : SpawnOutcome) {pre : List ScheduleEvent} (hpre : Quiet pre) :
    StartsOwn project.id (outcome = .failedToStart) h s
      (h ++ (pre ++ (Scheduler.callStart caller project serviceDir outcome s).2))
      (Scheduler.callStart caller project serviceDir outcome s).1 := by
  set l := pre ++ [ScheduleEvent.startCall caller project serviceDir
    (s.engine.projects.find? project.id)] with hl
  have hquiet : Quiet l := by
    refine ⟨fun r p hmem => ?_, fun q => ?_⟩
    · rw [hl] at hmem
      exact hpre.1 r p (by simpa using hmem)
    · rw [hl, List.any_append, hpre.2 q]
      simp [ScheduleEvent.creates]
  have hs := startInstance_startsOwn (hids.append hquiet.1) project serviceDir outcome
  have hh : h ++ (pre ++ (Scheduler.callStart caller project serviceDir outcome s).2) =
      (h ++ l) ++ (Scheduler.startInstance project serviceDir outcome s).2 := by
    simp [hl, Scheduler.callStart]
  rw [hh]
  refine ⟨hs.touches.of_quiet hquiet, fun hne => ?_⟩
  rcases hs.own hne with hno | hheld
  · left
    intro t
    rw [hno]
    exact startedSince_append_of_not_created (hquiet.2 _)
  · exact Or.inr hheld

theorem quiet_scheduleTriggered (projectId scheduleType : String) :
    Quiet [.scheduleTriggered projectId scheduleType] := by
  simp [Quiet, ScheduleEvent.creates]

theorem startDaemon_startsOwn (hids : IdsBelow h s) (project : Project) (serviceDir : String)
    (outcome : SpawnOutcome) :
    StartsOwn project.id (outcome = .failedToStart) h s
      (h ++ (Scheduler.startDaemon project serviceDir outcome s).2)
      (Scheduler.startDaemon project serviceDir outcome s).1 := by
  by_cases hm : s.DaemonMayStart project.id
  · rw [Scheduler.startDaemon_of_mayStart hm]
    exact callStart_startsOwn hids .daemon project serviceDir outcome
      (quiet_scheduleTriggered project.id "daemon")
  · rw [Scheduler.startDaemon_of_not_mayStart hm]
    simpa using StartsOwn.rfl hids

/-- Launching a project that may run can fail inside `QProcess::start` only for a
daemon. -/
theorem launch_startsOwn (hids : IdsBelow h s) (hen : project.enabled = true)
    (hv : project.valid = true) (outcome : SpawnOutcome) :
    StartsOwn project.id (project.RunsAs .daemon ∧ outcome = .failedToStart) h s
      (h ++ (Scheduler.launch project outcome s).2) (Scheduler.launch project outcome s).1 := by
  unfold Scheduler.launch
  split
  · simpa using StartsOwn.rfl hids
  · cases ht : project.schedule.type with
    | manual => simpa using StartsOwn.rfl hids
    | fixedRate =>
      simp only [Scheduler.onEngine, Action.modify_apply, List.append_nil]
      refine ⟨⟨rfl, rfl, fun _ hr => Or.inl hr, fun _ _ _ => rfl, fun _ hq => hq, ?_⟩,
        fun _ => Or.inl fun _ => rfl⟩
      exact ⟨fun r hr => Nat.lt_succ_of_lt (hids.restarts r hr),
        fun r p hmem => Nat.lt_succ_of_lt (hids.logged r p hmem)⟩
    | daemon =>
      have hs := startDaemon_startsOwn hids project ‹ServiceInfo›.serviceDir outcome
      exact ⟨hs.touches, fun hnf => hs.own fun hout => hnf ⟨⟨hen, hv, ht⟩, hout⟩⟩

/-- A daemon that the operating system lets start. -/
def LaunchesNow (services : ServiceMap) (project : Project) (outcome : SpawnOutcome) : Prop :=
  project.RunsAs .daemon ∧ outcome = .running ∧
    ∃ dir, services.dir? project.serviceId = some dir ∧ dir ≠ ""

/-- Launching such a daemon leaves a live instance, or something else already held
its restarts back. -/
theorem launch_held {outcome : SpawnOutcome} (hl : LaunchesNow s.engine.services project outcome) :
    RestartHeld (Scheduler.launch project outcome s).1 project.id := by
  obtain ⟨hrun, rfl, dir, hdir, hne⟩ := hl
  obtain ⟨service, hsvc, rfl⟩ := Option.map_eq_some_iff.mp hdir
  simp only [Scheduler.launch, hsvc, hrun.2.2]
  by_cases hm : s.DaemonMayStart project.id
  · rw [Scheduler.startDaemon_of_mayStart hm]
    left
    rintro ⟨-, -, hcount⟩
    have hadd := InstanceManager.instanceCount_add s.manager project service.serviceDir
    simp [Scheduler.callStart, Scheduler.startInstance, InstanceManager.startInstance,
      hrun.2.1, hne] at hcount
    omega
  · rw [Scheduler.startDaemon_of_not_mayStart hm]
    exact Or.inl hm

/-! ## §4. Loading records -/

/-- The projects still to be launched leave the restart settled: it is settled and no
failing start will disturb it, or its daemon is launched. -/
def ReadyFor (spawn : String → SpawnOutcome) (ps : List Project) (h : List ScheduleEvent)
    (s : Scheduler) (r : RestartTimer) : Prop :=
  (∃ p ∈ ps, p.id = r.projectId ∧ LaunchesNow s.engine.services p (spawn p.id)) ∨
    Settled h s r ∧ ∀ p ∈ ps, p.id = r.projectId → p.RunsAs .daemon →
      spawn p.id = .failedToStart → RestartHeld s r.projectId

/-- Every restart is ready for the projects still to be launched. -/
def Ready (spawn : String → SpawnOutcome) (ps : List Project) (h : List ScheduleEvent)
    (s : Scheduler) : Prop :=
  IdsBelow h s ∧ ∀ r ∈ s.engine.restarts, ReadyFor spawn ps h s r

theorem ReadyFor.of_held (hheld : RestartHeld s r.projectId) : ReadyFor spawn ps h s r :=
  Or.inr ⟨fun _ => hheld, fun _ _ _ _ _ => hheld⟩

theorem Ready.restartsSettled (hr : Ready spawn [] h s) : RestartsSettled h s := by
  refine ⟨fun r hmem => ?_, hr.1⟩
  rcases hr.2 r hmem with ⟨p, hp, -⟩ | ⟨hset, -⟩
  · simp at hp
  · exact hset

/-- The restart of the started project itself stays settled. -/
theorem StartsOwn.settled_own (hs : StartsOwn projectId fails h s h' s')
    (hid : r.projectId = projectId) (hset : Settled h s r)
    (hfail : fails → RestartHeld s r.projectId) : Settled h' s' r := by
  by_cases hout : fails
  · exact fun _ => hs.touches.held _ (hfail hout)
  · rcases hs.own hout with hno | hheld
    · rintro (hst | ⟨p, hp, hdir⟩)
      · rw [hid, hno, ← hid] at hst
        exact hs.touches.held _ (hset (Or.inl hst))
      · rw [hs.touches.projects] at hp
        rw [hs.touches.services] at hdir
        exact hs.touches.held _ (hset (Or.inr ⟨p, hp, hdir⟩))
    · intro _
      rwa [hid]

/-- A call that may start the project keeps every restart settled, if a start that can
fail finds the project's restarts held back. -/
theorem StartsOwn.restartsSettled (hs : StartsOwn projectId fails h s h' s')
    (hr : RestartsSettled h s)
    (hfail : ∀ r ∈ s.engine.restarts, r.projectId = projectId → fails → RestartHeld s r.projectId) :
    RestartsSettled h' s' := by
  refine ⟨fun r hmem => ?_, hs.touches.ids⟩
  rcases hs.touches.restarts r hmem with hold | ⟨-, hfresh⟩
  · by_cases hid : r.projectId = projectId
    · exact hs.settled_own hid (hr.settled r hold) (hfail r hold hid)
    · exact hs.touches.settled_of_ne hold hid (hr.settled r hold)
  · exact fun hst => absurd hst hfresh

/-- One round of a launch loop. -/
theorem Ready.step {spawn : String → SpawnOutcome} {p : Project} {ps : List Project}
    {h h' : List ScheduleEvent} {s s' : Scheduler} (hr : Ready spawn (p :: ps) h s)
    (hdistinct : ∀ q ∈ ps, p.id ≠ q.id)
    (hs : StartsOwn p.id (p.RunsAs .daemon ∧ spawn p.id = .failedToStart) h s h' s')
    (hlaunch : LaunchesNow s.engine.services p (spawn p.id) → RestartHeld s' p.id) :
    Ready spawn ps h' s' := by
  refine ⟨hs.touches.ids, fun r hmem => ?_⟩
  rcases hs.touches.restarts r hmem with hold | ⟨hid, hfresh⟩
  · rcases hr.2 r hold with ⟨q, hq, hqid, hl⟩ | ⟨hset, hfail⟩
    · rcases List.mem_cons.mp hq with rfl | hq
      · -- its own daemon has just been launched
        right
        refine ⟨fun _ => hqid ▸ hlaunch hl, fun q' hq' hid' => ?_⟩
        exact absurd (hqid.trans hid'.symm) (hdistinct q' hq')
      · left
        rw [hs.touches.services]
        exact ⟨q, hq, hqid, hl⟩
    · right
      refine ⟨?_, fun q hq hid' hrun hout => hs.touches.held _ ?_⟩
      · by_cases hid : r.projectId = p.id
        · refine hs.settled_own hid hset fun ⟨hrun, hout⟩ => ?_
          exact hfail p List.mem_cons_self hid.symm hrun hout
        · exact hs.touches.settled_of_ne hold hid hset
      · exact hfail q (List.mem_cons_of_mem _ hq) hid' hrun hout
  · right
    refine ⟨fun hst => absurd hst hfresh, fun q hq hid' => ?_⟩
    exact absurd (hid.symm.trans hid'.symm) (hdistinct q hq)

/-- The loop of `startAll` uses up the projects to be launched. -/
theorem Ready.forEach_startEntry (hr : Ready spawn ps h s)
    (hps : ps.Pairwise fun p q => p.id ≠ q.id) :
    RestartsSettled
      (h ++ (Action.forEach ps (fun p => Scheduler.startEntry p (spawn p.id)) s).2)
      (Action.forEach ps (fun p => Scheduler.startEntry p (spawn p.id)) s).1 := by
  induction ps generalizing h s with
  | nil => simpa using hr.restartsSettled
  | cons p ps ih =>
    obtain ⟨hne, hps⟩ := List.pairwise_cons.mp hps
    simp only [Action.forEach_cons, Action.seq_apply, ← List.append_assoc]
    refine ih (hr.step hne ?_ ?_) hps
    · unfold Scheduler.startEntry
      split_ifs with hbad
      · simpa using StartsOwn.rfl hr.1
      · simp only [Bool.or_eq_true, Bool.not_eq_true', not_or, Bool.not_eq_false] at hbad
        exact launch_startsOwn hr.1 hbad.1 hbad.2 _
    · intro hl
      simpa [Scheduler.startEntry, hl.1.1, hl.1.2.1] using launch_held hl

/-! ## §5. Operations that keep stale restarts held -/

/-- New records keep an armed restart: its daemon is launched with them, or nothing
was started since it was armed, its directory is still the record's, and no failing
start disturbs it. -/
def KeptBy (h : List ScheduleEvent) (r : RestartTimer) (services : ServiceMap) (p : Project)
    (outcome : SpawnOutcome) : Prop :=
  LaunchesNow services p outcome ∨
    startedSince r.timerId r.projectId h = false ∧
      services.dir? p.serviceId = some r.serviceDir ∧
      ¬ (p.RunsAs .daemon ∧ outcome = .failedToStart)

/-- A live instance or a missing record holds the restart back. -/
def HeldWithoutFlags (s : Scheduler) (projectId : String) : Prop :=
  0 < s.manager.instanceCount projectId ∨ s.engine.projects.find? projectId = none

/-- The operation releases no stale restart `r`:
* new records keep it, unless a shutdown or a live instance holds it;
* lifting a suppression or a shutdown leaves something else that holds it;
* the end of an instance leaves something else that holds it;
* a start that fails inside `QProcess::start` happens only while it is held. -/
def KeepsSettled (h : List ScheduleEvent) (s : Scheduler) (r : RestartTimer) : EngineOp → Prop
  | .startAll projects services spawn =>
      s.engine.shuttingDown = true ∨ 0 < s.manager.instanceCount r.projectId ∨
        ∀ p, projects.find? r.projectId = some p → KeptBy h r services p (spawn p.id)
  | .startProject project services outcome =>
      if r.projectId = project.id then
        s.engine.shuttingDown = true ∨ 0 < s.manager.instanceCount r.projectId ∨
          KeptBy h r services project outcome
      else
        RestartHeld s r.projectId ∨
          ∀ p, s.engine.projects.find? r.projectId = some p →
            services.dir? p.serviceId = some r.serviceDir
  | .stopProject _ => True
  | .resumeProject projectId =>
      r.projectId = projectId → Stale h s r →
        s.engine.shuttingDown = true ∨ HeldWithoutFlags s projectId
  | .stopAll =>
      Stale h s r → s.engine.shuttingDown = true ∨ HeldWithoutFlags s r.projectId
  | .setShuttingDown value =>
      value = false → Stale h s r →
        s.engine.restartSuppressed.contains r.projectId = true ∨ HeldWithoutFlags s r.projectId
  | .instanceFinished _ _ _ => True
  | .processFinished instanceId _ _ =>
      Stale h s r → RestartHeld { s with manager := s.manager.remove instanceId } r.projectId
  | .fixedRateTick projectId outcome =>
      r.projectId = projectId → outcome = .failedToStart → RestartHeld s projectId
  | .restartFires timerId outcome =>
      r.timerId ≠ timerId → outcome = .failedToStart →
        ∀ fired, s.findRestart timerId = some fired → r.projectId = fired.projectId →
          RestartHeld s r.projectId
  | .manualStart project _ outcome =>
      r.projectId = project.id → outcome = .failedToStart → RestartHeld s project.id

theorem restartHeld_of_flags
    (h : s.engine.shuttingDown = true ∨ s.engine.restartSuppressed.contains q = true ∨
      HeldWithoutFlags s q) : RestartHeld s q := by
  rcases h with h | h | h | h
  · exact Or.inl fun hm => absurd (hm.1.symm.trans h) (by simp)
  · exact Or.inl fun hm => absurd (hm.2.1.symm.trans h) (by simp)
  · exact Or.inl fun hm => absurd hm.2.2 (by omega)
  · exact Or.inr h

/-- A change of the flags alone keeps restarts settled if it releases none of them. -/
theorem RestartsSettled.flags (hr : RestartsSettled h s) {e : ScheduleEngine}
    (hp : e.projects = s.engine.projects) (hs : e.services = s.engine.services)
    (harmed : e.restarts = s.engine.restarts) (hnext : e.nextTimer = s.engine.nextTimer)
    (hrel : ∀ r ∈ s.engine.restarts, Stale h s r → RestartHeld { s with engine := e } r.projectId) :
    RestartsSettled h { s with engine := e } := by
  refine ⟨fun r hmem => ?_, ?_⟩
  · rintro (hst | ⟨p, hfind, hdir⟩)
    · exact hrel r (harmed ▸ hmem) (Or.inl hst)
    · dsimp only at hfind hdir
      rw [hp] at hfind
      rw [hs] at hdir
      exact hrel r (harmed ▸ hmem) (Or.inr ⟨p, hfind, hdir⟩)
  · refine ⟨fun r hmem => ?_, fun r p hmem => ?_⟩
    · exact hnext ▸ hr.ids.restarts r (harmed ▸ hmem)
    · exact hnext ▸ hr.ids.logged r p hmem

/-- A kept restart is ready for the launch of the new record. -/
theorem KeptBy.readyFor (spawn : String → SpawnOutcome) {p : Project}
    (hk : KeptBy h r s.engine.services p (spawn p.id))
    (hp : s.engine.projects.find? r.projectId = some p) (hmem : p ∈ ps)
    (honly : ∀ q ∈ ps, q.id = r.projectId → q = p) : ReadyFor spawn ps h s r := by
  rcases hk with hl | ⟨hno, hdir, hnf⟩
  · exact Or.inl ⟨p, hmem, ProjectMap.id_of_find? hp, hl⟩
  · right
    refine ⟨?_, fun q hq hqid hrun hout => ?_⟩
    · rintro (hst | ⟨q, hq, hne⟩)
      · simp [hno] at hst
      · obtain rfl := Option.some.inj (hp.symm.trans hq)
        exact absurd hdir hne
    · obtain rfl := honly q hq hqid
      exact absurd ⟨hrun, hout⟩ hnf

theorem startAll_restartsSettled (hr : RestartsSettled h s) {projects : ProjectMap}
    {services : ServiceMap}
    (hk : ∀ r ∈ s.engine.restarts, KeepsSettled h s r (.startAll projects services spawn)) :
    RestartsSettled (h ++ (Scheduler.startAll projects services spawn s).2)
      (Scheduler.startAll projects services spawn s).1 := by
  set loaded : Scheduler := { s with engine := s.engine.load projects services } with hloaded
  have hready : Ready spawn projects.values h loaded := by
    refine ⟨⟨hr.ids.restarts, hr.ids.logged⟩, fun r hmem => ?_⟩
    rcases hk r hmem with hsd | hc | hkept
    · exact ReadyFor.of_held (restartHeld_of_flags (Or.inl hsd))
    · exact ReadyFor.of_held (restartHeld_of_flags (Or.inr (Or.inr (Or.inl hc))))
    · cases hp : projects.find? r.projectId with
      | none => exact ReadyFor.of_held (Or.inr hp)
      | some p =>
        refine (hkept p hp).readyFor spawn (s := loaded) hp ?_ fun q hq hqid => ?_
        · refine ProjectMap.mem_values.mpr ?_
          rwa [ProjectMap.id_of_find? hp]
        · have hq' := ProjectMap.mem_values.mp hq
          rw [hqid, hp] at hq'
          exact (Option.some.inj hq').symm
  have hall := hready.forEach_startEntry projects.values_pairwise_id
  simpa [Scheduler.startAll, Scheduler.onEngine] using hall

/-- Installing a record keeps what holds the restarts of other projects back. -/
theorem RestartHeld.install (h : RestartHeld s q) (project : Project) (services : ServiceMap)
    (hne : q ≠ project.id) :
    RestartHeld { s with engine := s.engine.install project services } q := by
  rcases h with h | h
  · left
    rintro ⟨hsd, hsup, hcount⟩
    refine h ⟨hsd, ?_, hcount⟩
    simpa [ScheduleEngine.install, SortedMap.contains_erase, hne] using hsup
  · right
    simpa [ScheduleEngine.install, ProjectMap.find?_insert, hne] using h

theorem startProject_restartsSettled (hr : RestartsSettled h s) {services : ServiceMap}
    {outcome : SpawnOutcome}
    (hk : ∀ r ∈ s.engine.restarts, KeepsSettled h s r (.startProject project services outcome)) :
    RestartsSettled (h ++ (Scheduler.startProject project services outcome s).2)
      (Scheduler.startProject project services outcome s).1 := by
  set installed : Scheduler := { s with engine := s.engine.install project services }
    with hinst
  have hready : Ready (fun _ => outcome) [project] h installed := by
    refine ⟨⟨hr.ids.restarts, hr.ids.logged⟩, fun r hmem => ?_⟩
    have hkr := hk r hmem
    simp only [KeepsSettled] at hkr
    split_ifs at hkr with hid
    · rcases hkr with hsd | hc | hkept
      · exact ReadyFor.of_held (restartHeld_of_flags (Or.inl hsd))
      · exact ReadyFor.of_held (restartHeld_of_flags (Or.inr (Or.inr (Or.inl hc))))
      · refine hkept.readyFor (fun _ => outcome) (s := installed) ?_
          List.mem_cons_self fun q hq _ => List.mem_singleton.mp hq
        rw [hid]
        exact ProjectMap.find?_insert_self s.engine.projects project
    · right
      refine ⟨fun hst => ?_, fun q hq hqid => ?_⟩
      · refine RestartHeld.install ?_ project services hid
        rcases hst with hst | ⟨p, hp, hne⟩
        · exact hr.settled r hmem (Or.inl hst)
        · rcases hkr with hheld | hdir
          · exact hheld
          · refine absurd (hdir p ?_) hne
            simpa [hinst, ScheduleEngine.install, ProjectMap.find?_insert, hid] using hp
      · exact absurd (List.mem_singleton.mp hq ▸ hqid.symm) hid
  rw [Scheduler.startProject_eq]
  dsimp only
  split_ifs with hbad
  · refine Ready.restartsSettled (hready.step (by simp) ?_ fun hl => ?_)
    · simpa using StartsOwn.rfl hready.1
    · simp only [hl.1.1, hl.1.2.1, Bool.not_true, Bool.or_false] at hbad
      exact restartHeld_of_flags (Or.inl hbad)
  · simp only [Bool.or_eq_true, Bool.not_eq_true', not_or, Bool.not_eq_false] at hbad
    exact Ready.restartsSettled (hready.step (by simp)
      (launch_startsOwn hready.1 hbad.1.2 hbad.2 outcome) fun hl => launch_held hl)

theorem onEngine_flags_restartsSettled (hr : RestartsSettled h s)
    (f : ScheduleEngine → ScheduleEngine) (hp : (f s.engine).projects = s.engine.projects)
    (hs : (f s.engine).services = s.engine.services)
    (harmed : (f s.engine).restarts = s.engine.restarts)
    (hnext : (f s.engine).nextTimer = s.engine.nextTimer)
    (hrel : ∀ r ∈ s.engine.restarts, Stale h s r →
      RestartHeld { s with engine := f s.engine } r.projectId) :
    RestartsSettled (h ++ (Scheduler.onEngine f s).2) (Scheduler.onEngine f s).1 := by
  simpa [Scheduler.onEngine] using hr.flags hp hs harmed hnext hrel

theorem processFinished_restartsSettled (hr : RestartsSettled h s) {instanceId : Nat}
    {exitCode : Int} {exitStatus : ExitStatus}
    (hk : ∀ r ∈ s.engine.restarts,
      KeepsSettled h s r (.processFinished instanceId exitCode exitStatus)) :
    RestartsSettled (h ++ (Scheduler.processFinished instanceId exitCode exitStatus s).2)
      (Scheduler.processFinished instanceId exitCode exitStatus s).1 := by
  unfold Scheduler.processFinished
  cases hi : s.manager.instances.find? instanceId with
  | none => simpa using hr
  | some i =>
    -- the slot does not look at the manager, so the instance may as well be gone before
    set removed : Scheduler := { s with manager := s.manager.remove instanceId } with hrem
    set fin : List ScheduleEvent :=
      [.instanceFinished instanceId i.projectId exitCode exitStatus] with hfin
    have hquiet : Quiet fin := by simp [hfin, Quiet, ScheduleEvent.creates]
    have hids : IdsBelow (h ++ fin) removed := by
      exact IdsBelow.append ⟨hr.ids.restarts, hr.ids.logged⟩ hquiet.1
    have hsettled : RestartsSettled (h ++ fin) removed := by
      refine ⟨fun r hmem hst => hk r hmem ?_, hids⟩
      rcases hst with hst | hdir
      · left
        rwa [startedSince_append_of_not_created (hquiet.2 _)] at hst
      · exact Or.inr hdir
    obtain ⟨ht, hno⟩ := notifyFinished_touches hids i.projectId exitCode exitStatus
    have hh : h ++ (Scheduler.endInstance instanceId i.projectId exitCode exitStatus s).2 =
        (h ++ fin) ++ (Scheduler.notifyFinished i.projectId exitCode exitStatus removed).2 := by
      simp [hfin, Scheduler.endInstance, Scheduler.notifyFinished, hrem]
    rw [hh]
    refine ⟨fun r hmem => ?_, ?_⟩
    · rcases ht.restarts r hmem with hold | ⟨-, hfresh⟩
      · rintro (hst | ⟨p, hp, hdir⟩)
        · rw [startedSince_append_of_not_created (hno _)] at hst
          exact ht.held _ (hsettled.settled r hold (Or.inl hst))
        · refine ht.held _ (hsettled.settled r hold (Or.inr ⟨p, ?_, ?_⟩))
          · exact ht.projects ▸ hp
          · exact ht.services ▸ hdir
      · exact fun hst => absurd hst hfresh
    · exact ht.ids

/-- **The step lemma.**  Every operation that releases no stale restart keeps the
invariant. -/
theorem restartsSettled_next {c : Machine.Config Scheduler ScheduleEvent} {op : EngineOp}
    (hr : RestartsSettled c.history c.state)
    (hk : ∀ r ∈ c.state.engine.restarts, KeepsSettled c.history c.state r op) :
    RestartsSettled (engineMachine.next c op).history (engineMachine.next c op).state := by
  obtain ⟨s, h⟩ := c
  simp only [Machine.next_history, Machine.next_state, engineMachine_step]
  cases op with
  | startAll projects services spawn => exact startAll_restartsSettled hr hk
  | startProject project services outcome => exact startProject_restartsSettled hr hk
  | stopProject projectId =>
    refine onEngine_flags_restartsSettled hr (·.stopProject projectId) rfl rfl rfl rfl ?_
    intro r hmem hst
    refine RestartHeld.congr (s := s) rfl (fun hc => ?_) (fun hc => hc) rfl
      (hr.settled r hmem hst)
    simp [ScheduleEngine.stopProject, SortedMap.contains_insert, hc]
  | resumeProject projectId =>
    refine onEngine_flags_restartsSettled hr (·.resumeProject projectId) rfl rfl rfl rfl ?_
    intro r hmem hst
    by_cases hid : r.projectId = projectId
    · rcases hk r hmem hid hst with hsd | hheld
      · exact restartHeld_of_flags (Or.inl hsd)
      · exact restartHeld_of_flags (Or.inr (Or.inr (hid ▸ hheld)))
    · refine RestartHeld.congr (s := s) rfl (fun hc => ?_) (fun hc => hc) rfl
        (hr.settled r hmem hst)
      simp [ScheduleEngine.resumeProject, SortedMap.contains_erase, hc, hid]
  | stopAll =>
    refine onEngine_flags_restartsSettled hr (·.stopAll) rfl rfl rfl rfl ?_
    intro r hmem hst
    rcases hk r hmem hst with hsd | hheld
    · exact restartHeld_of_flags (Or.inl hsd)
    · exact restartHeld_of_flags (Or.inr (Or.inr hheld))
  | setShuttingDown value =>
    refine onEngine_flags_restartsSettled hr (fun e => { e with shuttingDown := value })
      rfl rfl rfl rfl ?_
    intro r hmem hst
    cases value with
    | true => exact restartHeld_of_flags (Or.inl rfl)
    | false => exact restartHeld_of_flags (Or.inr (hk r hmem rfl hst))
  | instanceFinished projectId exitCode exitStatus =>
    obtain ⟨ht, hno⟩ := notifyFinished_touches hr.ids projectId exitCode exitStatus
    have hs : StartsOwn projectId False h s _ _ :=
      ⟨ht, fun _ => Or.inl fun t => startedSince_append_of_not_created (hno _)⟩
    exact hs.restartsSettled hr fun _ _ _ hf => hf.elim
  | processFinished instanceId exitCode exitStatus =>
    exact processFinished_restartsSettled hr hk
  | fixedRateTick projectId outcome =>
    simp only [EngineOp.action]
    rcases Scheduler.fixedRateTick_cases projectId outcome s with
      ho | ⟨timer, project, -, -, hp, -, -, ho⟩
    · simpa [ho] using hr
    · have hid := ProjectMap.id_of_find? hp
      rw [ho]
      refine (callStart_startsOwn hr.ids .fixedRate project timer.serviceDir outcome
        (quiet_scheduleTriggered projectId "fixed_rate")).restartsSettled hr ?_
      intro r hmem hrid hfail
      have hpid := hrid.trans hid
      rw [hpid]
      exact hk r hmem hpid hfail
  | manualStart project serviceDir outcome =>
    refine (startInstance_startsOwn hr.ids project serviceDir outcome).restartsSettled hr
      fun r hmem hid hfail => ?_
    rw [hid]
    exact hk r hmem hid hfail
  | restartFires timerId outcome =>
    have hpop : RestartsSettled h (s.popRestart timerId) := by
      refine ⟨fun r hmem => hr.settled r (List.mem_of_mem_filter hmem), ?_⟩
      exact ⟨fun r hmem => hr.ids.restarts r (List.mem_of_mem_filter hmem), hr.ids.logged⟩
    simp only [EngineOp.action]
    rcases Scheduler.restartFires_cases timerId outcome s with
      ⟨-, ho⟩ | ⟨fired, hfired, ⟨-, ho⟩ | ⟨project, -, hp, ho⟩⟩
    · simpa [ho] using hr
    · simpa [ho] using hpop
    · rw [ho]
      refine (startDaemon_startsOwn hpop.ids project fired.serviceDir outcome).restartsSettled
        hpop fun r hmem hid hfail => ?_
      obtain ⟨hold, hne⟩ := List.mem_filter.mp hmem
      exact hk r hold (by simpa using hne) hfail fired hfired
        (hid.trans (ProjectMap.id_of_find? hp))

/-! ## §6. Runs -/

/-- A start by the restart `timerId` is fresh: no instance of the project was created
since the restart was armed, and the directory it passes is the one the engine has
for the service of the project's record. -/
def ScheduleEvent.Fresh (timerId : Nat) (c : Machine.Config Scheduler ScheduleEvent) :
    ScheduleEvent → Prop
  | .startCall _ project serviceDir held =>
      startedSince timerId project.id c.history = false ∧
        ∃ p, held = some p ∧ c.state.engine.services.dir? p.serviceId = some serviceDir
  | _ => True

instance (timerId : Nat) (c : Machine.Config Scheduler ScheduleEvent) (e : ScheduleEvent) :
    Decidable (e.Fresh timerId c) :=
  match e with
  | .startCall _ project serviceDir (some p) =>
      decidable_of_iff (startedSince timerId project.id c.history = false ∧
        c.state.engine.services.dir? p.serviceId = some serviceDir)
        (by simp [ScheduleEvent.Fresh])
  | .startCall _ _ _ none => isFalse (by simp [ScheduleEvent.Fresh])
  | .scheduleTriggered .. | .scheduleSuppressed .. | .instanceCreated ..
  | .instanceFinished .. | .restartArmed .. => isTrue trivial

/-- If this step fires a delayed restart, whatever it starts is fresh. -/
def FiresFresh (c : Machine.Config Scheduler ScheduleEvent) : EngineOp → Prop
  | .restartFires timerId outcome =>
      ∀ e ∈ (engineMachine.step c.state (.restartFires timerId outcome)).2, e.Fresh timerId c
  | _ => True

/-- A restart that fires in a settled state is fresh. -/
theorem RestartsSettled.firesFresh {c : Machine.Config Scheduler ScheduleEvent}
    (hr : RestartsSettled c.history c.state) (op : EngineOp) : FiresFresh c op := by
  cases op with
  | restartFires timerId outcome =>
    intro e he
    simp only [engineMachine_step, EngineOp.action] at he
    rcases Scheduler.restartFires_cases timerId outcome c.state with
      ⟨-, ho⟩ | ⟨fired, hfired, ⟨-, ho⟩ | ⟨project, hm, hp, ho⟩⟩
    · simp [ho] at he
    · simp [ho] at he
    · have hid := ProjectMap.id_of_find? hp
      have hm' : (c.state.popRestart timerId).DaemonMayStart project.id := by
        rw [hid]
        exact hm
      have hheld : (c.state.popRestart timerId).engine.projects.find? project.id =
          some project := by
        rw [hid]
        exact hp
      have hnot : ¬ RestartHeld c.state fired.projectId := by
        rintro (hno | hnone)
        · exact hno hm
        · simp [hnone] at hp
      have hfresh : ¬ Stale c.history c.state fired := fun hst =>
        hnot (hr.settled fired (List.mem_of_find?_eq_some hfired) hst)
      have htimer : fired.timerId = timerId := by
        simpa using List.find?_some hfired
      have hno := startInstance_noStartCall project fired.serviceDir outcome
        (c.state.popRestart timerId)
      rw [ho, Scheduler.startDaemon_of_mayStart hm'] at he
      simp only [Scheduler.callStart, Action.seq_apply, Action.emit_apply, hheld,
        List.mem_cons, List.cons_append, List.nil_append] at he
      rcases he with rfl | rfl | he
      · trivial
      · -- the one start call
        refine ⟨?_, project, rfl, ?_⟩
        · by_contra hst
          refine hfresh (Or.inl ?_)
          rw [htimer, ← hid]
          simpa using hst
        · by_contra hdir
          exact hfresh (Or.inr ⟨project, hp, hdir⟩)
      · cases e with
        | startCall _ _ _ _ => exact absurd he (hno _ _ _ _)
        | _ => trivial
  | _ => trivial

/-- **Fresh restarts.**  Along every run whose operations release no stale restart, a
delayed restart starts its project only if no instance of it was created since the
restart was armed, and in the directory the engine has for it now. -/
theorem restarts_fresh {ops : List EngineOp}
    (hops : engineMachine.EveryStep
      (fun c op => ∀ r ∈ c.state.engine.restarts, KeepsSettled c.history c.state r op)
      (Machine.start {}) ops) :
    engineMachine.EveryStep FiresFresh (Machine.start {}) ops := by
  refine Machine.everyStep_of_invariant (fun c => RestartsSettled c.history c.state)
    (fun c op hr hk => restartsSettled_next hr hk) (fun c op hr _ => hr.firesFresh op) ?_ hops
  refine ⟨fun r hmem => ?_, fun r hmem => ?_, fun r p hmem => ?_⟩
  · simp at hmem
  · simp at hmem
  · simp at hmem

/-- A crash and its restart. -/
def crashAndRestart : List EngineOp :=
  [.startAll (ProjectMap.empty.insert echoDaemon) echoServices fun _ => .running,
    .processFinished 0 1 .normalExit,
    .restartFires 0 .running]

theorem crashAndRestart_fresh :
    engineMachine.EveryStep FiresFresh (Machine.start {}) crashAndRestart := by
  refine restarts_fresh ⟨fun r hr => ?_, fun r hr => ?_, fun r hr => ?_, trivial⟩
  · exact absurd hr List.not_mem_nil
  · exact absurd hr List.not_mem_nil
  · obtain rfl := List.mem_singleton.mp (show r ∈ [_] from hr)
    exact fun hne => absurd rfl hne

/-- The daemon crashes, is started by hand and exits normally before the restart
armed for its crash fires. -/
def exitedBeforeRestart : List EngineOp :=
  [.startAll (ProjectMap.empty.insert echoDaemon) echoServices fun _ => .running,
    .processFinished 0 1 .normalExit,
    .resumeProject "p",
    .manualStart echoDaemon "/srv/echo" .running,
    .processFinished 1 0 .normalExit,
    .restartFires 0 .running]

theorem exited_daemon_restarted :
    ¬ engineMachine.EveryStep FiresFresh (Machine.start {}) exitedBeforeRestart := by
  rintro ⟨-, -, -, -, -, h, -⟩
  revert h
  unfold FiresFresh
  decide

end Stdiolink.Server
