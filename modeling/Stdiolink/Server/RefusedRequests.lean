/-
  Stdiolink.Server.RefusedRequests — updates and toggles that are answered with an error,
  `http/api_router.cpp`.

  The handler checks, saves the new files, stops the project and waits for its instances; the
  wait processes events, so other requests run in the middle.  When instances are left, the old
  record is saved over the new files and scheduling is restarted.  How much of what was there
  before this brings back is decided by what the record says, not by what was stopped.

  Main results:
    * `wait_keeps_project`     — nothing that runs during the wait changes the project's record;
    * `startAll_running`       — a restart leaves no suppression on a project that still runs;
    * `refused_unchanged_iff`  — when a request that is answered with an error changes nothing.
-/
import Stdiolink.Server.Rollback
import Stdiolink.Server.ProjectIsolation

namespace Stdiolink.Server

open Stdiolink.Lib
open Stdiolink.Protocol
open Stdiolink.Protocol.Json
open Stdiolink.Meta
open ProjectManager

/-! ## §1. The server and its directory -/

/-- The server with the projects directory. -/
structure StoredServer where
  server : ServerManager
  disk : ProjectsDisk

namespace StoredServer

variable (validate : ConfigValidator) (projectsDir : String)

/-- The projects as loaded and validated from the directory. -/
def loaded (c : StoredServer) : ProjectMap :=
  loadAll validate projectsDir c.server.services c.disk.store

/-- Loading and validating every stored project gives the records in memory. -/
def Agrees (c : StoredServer) : Prop := c.loaded validate projectsDir = c.server.projects

/-- The engine has a timer for the project, and suppresses it. -/
def timerArmed (c : StoredServer) (id : String) : Bool :=
  c.server.scheduler.engine.timers.contains id

def restartSuppressed (c : StoredServer) (id : String) : Bool :=
  c.server.scheduler.engine.restartSuppressed.contains id

/-- The record of the project, what its files are loaded and validated as, and its scheduling are
the same. -/
structure Unchanged (id : String) (before after : StoredServer) : Prop where
  record : after.server.projects.find? id = before.server.projects.find? id
  loaded : (after.loaded validate projectsDir).find? id =
    (before.loaded validate projectsDir).find? id
  timer : after.timerArmed id = before.timerArmed id
  suppressed : after.restartSuppressed id = before.restartSuppressed id

end StoredServer

/-! ## §2. Requests -/

/-- An update or a toggle with what its body parses as. -/
inductive ChangeRequest where
  | update (id : String) (body : Parsed (List (String × Json)))
  | setEnabled (id : String) (body : Parsed (Option Bool))

namespace ChangeRequest

def projectId : ChangeRequest → String
  | .update id _ => id
  | .setEnabled id _ => id

def verb : ChangeRequest → Verb
  | .update _ _ => .update
  | .setEnabled _ _ => .enabled

section Handlers

variable (validate : ConfigValidator) (projectsDir : String)

/-- The handler up to what `saveProject` returns. -/
def check (s : ServerManager) (saved : Except String Unit) :
    ChangeRequest → Except Response Project
  | .update id body => ServerManager.checkUpdate validate s id (body.map (projectBody id)) saved
  | .setEnabled id body => ServerManager.checkEnabled s id body saved

/-- The handler, up to its answer or to the wait. -/
def handle (saved : Except String Unit) (spawn : String → SpawnOutcome) :
    ChangeRequest → Action ServerManager ServerEvent
  | .update id body =>
      ServerManager.update validate id (body.map (projectBody id)) saved (.ok ()) spawn
  | .setEnabled id body => ServerManager.setEnabled id body saved (.ok ()) spawn

/-- The save of the handler: of the record that passes the checks. -/
def save (run : SaveRun) (c : StoredServer) (request : ChangeRequest) :
    ProjectsDisk × Except String Unit :=
  match request.check validate c.server (.ok ()) with
  | .error _ => (c.disk, .ok ())
  | .ok project => saveProject run projectsDir project c.disk

/-- The request arrives. -/
def begins (run : SaveRun) (spawn : String → SpawnOutcome) (c : StoredServer)
    (request : ChangeRequest) : StoredServer × List ServerEvent :=
  let (disk, saved) := request.save validate projectsDir run c
  let (server, events) := request.handle validate saved spawn c.server
  (⟨server, disk⟩, events)

/-- Its wait returns.  With instances left, `rollbackProjectStorage` saves the record that was in
memory when the request arrived. -/
def returns (rollback : SaveRun) (spawn : String → SpawnOutcome) (oldProject : Project)
    (c : StoredServer) (request : ChangeRequest) : StoredServer × List ServerEvent :=
  let (disk, storage) :=
    if c.server.running request.projectId = 0 then (c.disk, .ok ())
    else saveProject rollback projectsDir oldProject c.disk
  let (server, events) := ServerManager.resume storage spawn c.server
  (⟨server, disk⟩, events)

end Handlers

/-- The events have an answer to the request with an error status. -/
def AnswersError (request : ChangeRequest) (events : List ServerEvent) : Prop :=
  ∃ status message,
    .responded request.verb request.projectId (.error status message) ∈ events

end ChangeRequest

/-- The step changes the table of services, or what the records say about them. -/
def ServerOp.onServices : ServerOp → Bool
  | .rescanServices .. | .createService .. | .deleteService .. | .reloadService .. => true
  | _ => false

/-- The step is one of anything but services, and is not the return of this wait. -/
def StillWaits (op : PendingOp) (rest : List PendingOp)
    (c : Machine.Config ServerManager ServerEvent) (i : ServerOp) : Prop :=
  i.onServices = false ∧ ∀ storage spawn, i = .resume storage spawn → c.state.pending ≠ op :: rest

/-- **A request that is answered with an error**, from its arrival to its answer.  It is answered at
once, or it waits while the server does `others`, in any order, and is answered when the wait
returns; a rollback, if it comes to one, succeeds. -/
inductive Refused (validate : ConfigValidator) (projectsDir : String) (run : SaveRun)
    (request : ChangeRequest) (c : StoredServer) : StoredServer → Prop where
  | atOnce (spawn : String → SpawnOutcome) :
      request.AnswersError (request.begins validate projectsDir run spawn c).2 →
      Refused validate projectsDir run request c
        (request.begins validate projectsDir run spawn c).1
  | afterWait (rollback : SaveRun) (spawn spawn' : String → SpawnOutcome) {oldProject : Project}
      {op : PendingOp} (others : List ServerOp) {waited : ServerManager} (disk : ProjectsDisk) :
      c.server.projects.find? request.projectId = some oldProject →
      (request.begins validate projectsDir run spawn c).1.server.pending =
        op :: c.server.pending →
      (serverMachine validate).EveryStep (StillWaits op c.server.pending)
        (Machine.start (request.begins validate projectsDir run spawn c).1.server) others →
      ((serverMachine validate).run
        (Machine.start (request.begins validate projectsDir run spawn c).1.server) others).state =
        waited →
      waited.pending = op :: c.server.pending →
      (waited.running request.projectId ≠ 0 →
        (saveProject rollback projectsDir oldProject disk).2 = .ok ()) →
      request.AnswersError
        (request.returns projectsDir rollback spawn' oldProject ⟨waited, disk⟩).2 →
      Refused validate projectsDir run request c
        (request.returns projectsDir rollback spawn' oldProject ⟨waited, disk⟩).1

/-! ## §3. While the request waits -/

namespace ServerManager

/-- The services and the record of the project are the same, and at most a request for another
project has begun to wait. -/
structure Beside (id : String) (s s' : ServerManager) : Prop where
  services : s'.services = s.services
  record : s'.projects.find? id = s.projects.find? id
  pending : s'.pending = s.pending ∨ ∃ op, op.projectId ≠ id ∧ s'.pending = op :: s.pending

theorem Beside.refl (id : String) (s : ServerManager) : Beside id s s := ⟨rfl, rfl, Or.inl rfl⟩

section Beside

variable {validate : ConfigValidator} {id : String} {s : ServerManager}

/-- Another record is put in, or taken out. -/
theorem find?_insert_other (projects : ProjectMap) {project : Project} (hne : project.id ≠ id) :
    (projects.insert project).find? id = projects.find? id := by
  rw [ProjectMap.find?_insert, if_neg (Ne.symm hne)]

/-- A wait that returns changes neither the services nor the waits. -/
theorem finishPending_frame (op : PendingOp) (finished : Bool) (storage : Except String Unit)
    (spawn : String → SpawnOutcome) (s : ServerManager) :
    (finishPending op finished storage spawn s).1.services = s.services ∧
      (finishPending op finished storage spawn s).1.pending = s.pending := by
  cases finished with
  | false => cases op <;> exact ⟨rfl, rfl⟩
  | true =>
    cases op with
    | delete id => cases storage <;> exact ⟨rfl, rfl⟩
    | _ => exact ⟨rfl, rfl⟩

/-- **A wait for another project returns.** -/
theorem finishPending_record {op : PendingOp} (hne : op.projectId ≠ id) (finished : Bool)
    (storage : Except String Unit) (spawn : String → SpawnOutcome) (s : ServerManager) :
    (finishPending op finished storage spawn s).1.projects.find? id = s.projects.find? id := by
  cases finished with
  | false => cases op <;> rfl
  | true =>
    cases op with
    | update project => exact find?_insert_other s.projects hne
    | reload project => exact find?_insert_other s.projects hne
    | disable updated disabled => exact find?_insert_other s.projects hne
    | delete other =>
      cases storage with
      | error e => rfl
      | ok => exact (ProjectMap.find?_remove _ _ _).trans (if_neg (Ne.symm hne))

theorem stopProjectAndWait_beside {op : PendingOp} (hne : op.projectId ≠ id)
    (storage : Except String Unit) (spawn : String → SpawnOutcome) (s : ServerManager) :
    Beside id s (stopProjectAndWait op storage spawn s).1 := by
  have hstop : ∀ t : ServerManager, t.services = s.services → t.projects = s.projects →
      t.pending = s.pending → Beside id s (if t.running op.projectId = 0 then
        finishPending op true storage spawn t
        else ({ t with pending := op :: t.pending }, [])).1 := by
    intro t hservices hprojects hpending
    split_ifs
    · obtain ⟨hs, hp⟩ := finishPending_frame op true storage spawn t
      refine ⟨hs.trans hservices, ?_, Or.inl (hp.trans hpending)⟩
      rw [finishPending_record hne, hprojects]
    · refine ⟨hservices, ?_, Or.inr ⟨op, hne, ?_⟩⟩
      · show t.projects.find? id = s.projects.find? id
        rw [hprojects]
      · show op :: t.pending = op :: s.pending
        rw [hpending]
  have hstopped := hstop (stopAndTerminate op.projectId s).1 rfl rfl rfl
  unfold stopProjectAndWait
  simp only [Action.seq_apply, Action.emit_apply, Action.bind_apply]
  split_ifs at hstopped ⊢
  · exact hstopped
  · exact hstopped

/-- A project that is in flight is not the one of a request that is let through. -/
theorem ne_of_not_inFlight {other : String} (hflight : s.inFlight id = true)
    (h : s.inFlight other = false) : other ≠ id := by
  intro heq
  rw [heq, hflight] at h
  cases h

theorem create_beside (hthere : s.projects.contains id = true) (body : Parsed ProjectBody)
    (saved : Except String Unit) (spawn : String → SpawnOutcome) :
    Beside id s (create validate body saved spawn s).1 := by
  unfold create
  cases hcheck : checkCreate validate s body saved with
  | error r => exact Beside.refl id s
  | ok project =>
    obtain ⟨-, -, -, hnew⟩ := checkCreate_ok hcheck
    have hne : project.id ≠ id := by
      intro heq
      obtain ⟨p, hp⟩ := ProjectMap.contains_eq_true.mp hthere
      rw [heq, hp] at hnew
      cases hnew
    exact ⟨rfl, find?_insert_other s.projects hne, Or.inl rfl⟩

theorem update_beside (hflight : s.inFlight id = true) (other : String) (body : Parsed ProjectBody)
    (saved storage : Except String Unit) (spawn : String → SpawnOutcome) :
    Beside id s (update validate other body saved storage spawn s).1 := by
  unfold update
  cases hcheck : checkUpdate validate s other body saved with
  | error r => exact Beside.refl id s
  | ok project =>
    obtain ⟨hid, -, hfree⟩ := checkUpdate_ok hcheck
    apply stopProjectAndWait_beside
    show project.id ≠ id
    rw [hid]
    exact ne_of_not_inFlight hflight hfree

theorem delete_beside (hflight : s.inFlight id = true) (other : String)
    (storage : Except String Unit) (spawn : String → SpawnOutcome) :
    Beside id s (delete other storage spawn s).1 := by
  unfold delete
  split_ifs with hno hbusy
  · exact Beside.refl id s
  · exact Beside.refl id s
  · apply stopProjectAndWait_beside
    exact ne_of_not_inFlight hflight (Bool.eq_false_of_not_eq_true hbusy)

theorem reload_beside (hflight : s.inFlight id = true) (other : String)
    (loaded : Except String ProjectDraft) (spawn : String → SpawnOutcome) :
    Beside id s (reload validate other loaded spawn s).1 := by
  unfold reload
  cases hcheck : checkReload validate s other loaded with
  | error r => exact Beside.refl id s
  | ok project =>
    obtain ⟨hid, hfree, -⟩ := checkReload_ok hcheck
    apply stopProjectAndWait_beside
    show project.id ≠ id
    rw [hid]
    exact ne_of_not_inFlight hflight hfree

theorem setEnabled_beside (hflight : s.inFlight id = true) (other : String)
    (body : Parsed (Option Bool)) (saved storage : Except String Unit)
    (spawn : String → SpawnOutcome) :
    Beside id s (setEnabled other body saved storage spawn s).1 := by
  unfold setEnabled
  cases hcheck : checkEnabled s other body saved with
  | error r => exact Beside.refl id s
  | ok updated =>
    have hne : updated.id ≠ id := by
      rw [checkEnabled_id hcheck]
      exact ne_of_not_inFlight hflight (checkEnabled_ok hcheck).1
    dsimp only
    split_ifs
    · exact ⟨rfl, find?_insert_other s.projects hne, Or.inl rfl⟩
    · apply stopProjectAndWait_beside
      exact hne

theorem start_beside (other : String) (outcome : SpawnOutcome) :
    Beside id s (start other outcome s).1 := by
  unfold start
  cases checkStart s other with
  | error r => exact Beside.refl id s
  | ok check =>
    cases check with
    | noop => exact Beside.refl id s
    | start project serviceDir => exact ⟨rfl, rfl, Or.inl rfl⟩

/-- **A step beside the request.**  What is not about services, and is not the return of a wait,
leaves the services and the record of a project in flight. -/
theorem action_beside (hflight : s.inFlight id = true)
    (hthere : s.projects.contains id = true) {i : ServerOp} (hservices : i.onServices = false)
    (hresume : ∀ storage spawn, i ≠ .resume storage spawn) :
    Beside id s (i.action validate s).1 := by
  cases i with
  | create body saved spawn => exact create_beside hthere body saved spawn
  | update other body saved storage spawn =>
    exact update_beside hflight other body saved storage spawn
  | delete other storage spawn => exact delete_beside hflight other storage spawn
  | reload other loaded spawn => exact reload_beside hflight other loaded spawn
  | setEnabled other body saved storage spawn =>
    exact setEnabled_beside hflight other body saved storage spawn
  | start other outcome => exact start_beside other outcome
  | stop other =>
    show Beside id s (stop other s).1
    unfold stop
    split_ifs
    · exact Beside.refl id s
    · exact Beside.refl id s
    · exact ⟨rfl, rfl, Or.inl rfl⟩
  | resume storage spawn => exact absurd rfl (hresume storage spawn)
  | rescanServices => cases hservices
  | createService => cases hservices
  | deleteService => cases hservices
  | reloadService => cases hservices
  | fixedRateTick => exact ⟨rfl, rfl, Or.inl rfl⟩
  | restartFires => exact ⟨rfl, rfl, Or.inl rfl⟩
  | processFinished => exact ⟨rfl, rfl, Or.inl rfl⟩
  | shutdown => exact ⟨rfl, rfl, Or.inl rfl⟩

end Beside

end ServerManager

/-- The request waits below others, which are for other projects; the services and the record of
its project are the given ones. -/
structure WaitsUnder (op : PendingOp) (rest : List PendingOp) (services : ServiceMap) (p : Project)
    (s : ServerManager) : Prop where
  pending : ∃ above, s.pending = above ++ op :: rest ∧ ∀ a ∈ above, a.projectId ≠ op.projectId
  services : s.services = services
  record : s.projects.find? op.projectId = some p

section Wait

variable {validate : ConfigValidator} {op : PendingOp} {rest : List PendingOp}
variable {services : ServiceMap} {p : Project}

/-- What a step beside the request does to the waits above it. -/
theorem WaitsUnder.beside {s s' : ServerManager} (h : WaitsUnder op rest services p s)
    (hbeside : s.Beside op.projectId s') : WaitsUnder op rest services p s' := by
  obtain ⟨⟨above, hpending, hothers⟩, hservices, hrecord⟩ := h
  refine ⟨?_, hbeside.services.trans hservices, hbeside.record.trans hrecord⟩
  obtain hsame | ⟨new, hne, hnew⟩ := hbeside.pending
  · exact ⟨above, hsame.trans hpending, hothers⟩
  · refine ⟨new :: above, ?_, ?_⟩
    · rw [hnew, hpending]
      rfl
    · intro a ha
      obtain rfl | ha := List.mem_cons.mp ha
      · exact hne
      · exact hothers a ha

/-- **One step of the wait.** -/
theorem WaitsUnder.step {c : Machine.Config ServerManager ServerEvent} {i : ServerOp}
    (h : WaitsUnder op rest services p c.state) (hstill : StillWaits op rest c i) :
    WaitsUnder op rest services p ((serverMachine validate).next c i).state := by
  obtain ⟨hservices, hnot⟩ := hstill
  rw [Machine.next_state, serverMachine_step]
  by_cases hresume : ∃ storage spawn, i = .resume storage spawn
  · obtain ⟨storage, spawn, rfl⟩ := hresume
    obtain ⟨⟨above, hpending, hothers⟩, htable, hrecord⟩ := h
    cases above with
    | nil => exact absurd hpending (hnot storage spawn rfl)
    | cons a above =>
      -- the innermost of the others returns
      have hne := hothers a List.mem_cons_self
      show WaitsUnder op rest services p (ServerManager.resume storage spawn c.state).1
      unfold ServerManager.resume
      rw [hpending]
      obtain ⟨hs, hp⟩ := ServerManager.finishPending_frame a
        (c.state.running a.projectId = 0) storage spawn
        { c.state with pending := above ++ op :: rest }
      refine ⟨⟨above, hp, ?_⟩, hs.trans htable,
        (ServerManager.finishPending_record hne _ _ _ _).trans hrecord⟩
      intro b hb
      exact hothers b (List.mem_cons_of_mem _ hb)
  · have hflight : c.state.inFlight op.projectId = true := by
      obtain ⟨above, hpending, -⟩ := h.pending
      apply List.any_eq_true.mpr
      refine ⟨op, ?_, decide_eq_true rfl⟩
      rw [hpending]
      exact List.mem_append_right _ List.mem_cons_self
    apply h.beside
    apply ServerManager.action_beside hflight _ hservices
    · intro storage spawn heq
      exact hresume ⟨storage, spawn, heq⟩
    · exact ProjectMap.contains_eq_true.mpr ⟨p, h.record⟩

/-- **The wait keeps the project.**  Whatever runs until it returns, the services and the record
are as they were. -/
theorem wait_keeps_project {c : Machine.Config ServerManager ServerEvent} {others : List ServerOp}
    (h : WaitsUnder op rest services p c.state)
    (hothers : (serverMachine validate).EveryStep (StillWaits op rest) c others) :
    WaitsUnder op rest services p ((serverMachine validate).run c others).state :=
  Machine.run_invariant_of_everyStep (fun c => WaitsUnder op rest services p c.state)
    (fun _ _ hwaits hstill => hwaits.step hstill) h hothers

end Wait

/-! ## §4. Scheduling restarted while the project still runs -/

namespace Scheduler

/-- A project that runs and is not suppressed. -/
structure RunsFree (id : String) (s : Scheduler) : Prop where
  free : s.engine.restartSuppressed.find? id = none
  live : 0 < s.manager.instanceCount id

/-- One round of the loop of `startAll` leaves it so: its own round starts nothing. -/
theorem RunsFree.startEntry {id : String} {s : Scheduler} (h : RunsFree id s) (project : Project)
    (outcome : SpawnOutcome) : RunsFree id (startEntry project outcome s).1 := by
  by_cases hid : id = project.id
  · subst hid
    unfold Scheduler.startEntry
    split_ifs
    · exact h
    unfold launch
    split
    · exact h
    · split
      · exact h
      · exact ⟨h.free, h.live⟩
      · rw [startDaemon_of_not_mayStart]
        · exact h
        · intro hmay
          have hlive := h.live
          rw [hmay.2.2] at hlive
          omega
  · have hspares := startEntry_spares hid outcome s
    refine ⟨?_, hspares.manager.instanceCount_pos h.live⟩
    rw [hspares.schedule.restartSuppressed]
    exact h.free

/-- **A restart while the project runs.**  It starts nothing of it, and whatever suppressed it is
forgotten. -/
theorem startAll_running (projects : ProjectMap) (services : ServiceMap)
    (spawn : String → SpawnOutcome) {id : String} {s : Scheduler}
    (hlive : 0 < s.manager.instanceCount id) :
    RunsFree id (startAll projects services spawn s).1 := by
  have hloop : Action.Sat (fun _ t => RunsFree id t)
      (Action.forEach projects.values fun p => startEntry p (spawn p.id))
      (fun _ t => RunsFree id t) := by
    apply Action.Sat.forEach
    intro p _ h t ht
    exact ht.startEntry p (spawn p.id)
  have hloaded : RunsFree id { s with engine := s.engine.load projects services } := ⟨rfl, hlive⟩
  exact hloop [] _ hloaded

end Scheduler

/-! ## §5. The phases of a request -/

/-- No event is an answer with an error status. -/
def NoError (events : List ServerEvent) : Prop :=
  ∀ verb id status message, .responded verb id (.error status message) ∉ events

theorem NoError.append {a b : List ServerEvent} (ha : NoError a) (hb : NoError b) :
    NoError (a ++ b) := by
  intro verb id status message hmem
  obtain h | h := List.mem_append.mp hmem
  · exact ha verb id status message h
  · exact hb verb id status message h

namespace ServerManager

theorem onScheduler_noError (a : Action Scheduler ScheduleEvent) (s : ServerManager) :
    NoError (onScheduler a s).2 := by
  intro verb id status message hmem
  obtain ⟨event, -, heq⟩ := List.mem_map.mp hmem
  cases heq

/-- An answer with the project. -/
theorem respond_noError (verb : Verb) (id : String) (status : Nat) (project : Project)
    (s : ServerManager) :
    NoError (respond verb id (projectResponse status project) s).2 := by
  intro verb' id' status' message hmem
  cases List.mem_singleton.mp hmem

theorem startScheduling_noError (spawn : String → SpawnOutcome) (s : ServerManager) :
    NoError (startScheduling spawn s).2 := by
  apply NoError.append _ (onScheduler_noError _ s)
  intro verb id status message hmem
  cases List.mem_singleton.mp hmem

/-- What an update or a toggle waits with. -/
def Changes (op : PendingOp) : Prop :=
  (∃ project, op = .update project) ∨ ∃ updated disabled, op = .disable updated disabled

variable {op : PendingOp}

/-- With no instance left, an update or a toggle answers with the project. -/
theorem finishPending_noError (hop : Changes op) (storage : Except String Unit)
    (spawn : String → SpawnOutcome) (s : ServerManager) :
    NoError (finishPending op true storage spawn s).2 := by
  obtain ⟨project, rfl⟩ | ⟨updated, disabled, rfl⟩ := hop
  · exact (startScheduling_noError spawn _).append (respond_noError _ _ _ _ _)
  · exact respond_noError _ _ _ _ _

/-- **The two ways on from a stop.**  Without instances the request goes on at once; else it is
pushed on the waits, and nothing but the engine has changed. -/
theorem stopProjectAndWait_cases (hop : Changes op) (storage : Except String Unit)
    (spawn : String → SpawnOutcome) (s : ServerManager) :
    NoError (stopProjectAndWait op storage spawn s).2 ∧
      ((stopProjectAndWait op storage spawn s).1.pending = s.pending ∨
        (stopProjectAndWait op storage spawn s).1 =
          { (stopAndTerminate op.projectId s).1 with pending := op :: s.pending }) := by
  have hstopping : NoError [.stopping op.projectId] := by
    intro verb id status message hmem
    cases List.mem_singleton.mp hmem
  unfold stopProjectAndWait
  simp only [Action.seq_apply, Action.emit_apply, Action.bind_apply]
  split_ifs
  · refine ⟨?_, Or.inl ?_⟩
    · exact hstopping.append (finishPending_noError hop storage spawn _)
    · exact (finishPending_frame op true storage spawn _).2
  · exact ⟨hstopping, Or.inr rfl⟩

/-- With instances left, every request restarts scheduling. -/
theorem finishPending_busy (op : PendingOp) (storage : Except String Unit)
    (spawn : String → SpawnOutcome) (s : ServerManager) :
    (finishPending op false storage spawn s).1 = (startScheduling spawn s).1 := by
  cases op <;> rfl

/-- The innermost wait returns with instances left. -/
theorem resume_busy {rest : List PendingOp} {s : ServerManager} (hpending : s.pending = op :: rest)
    (hrunning : s.running op.projectId ≠ 0) (storage : Except String Unit)
    (spawn : String → SpawnOutcome) :
    (resume storage spawn s).1 = (startScheduling spawn { s with pending := rest }).1 := by
  unfold resume
  rw [hpending]
  dsimp only
  rw [decide_eq_false hrunning]
  exact finishPending_busy op storage spawn _

/-- The innermost wait returns with none: an update or a toggle is answered with the project. -/
theorem resume_noError {rest : List PendingOp} {s : ServerManager} (hop : Changes op)
    (hpending : s.pending = op :: rest) (hrunning : s.running op.projectId = 0)
    (storage : Except String Unit) (spawn : String → SpawnOutcome) :
    NoError (resume storage spawn s).2 := by
  unfold resume
  rw [hpending]
  dsimp only
  rw [decide_eq_true hrunning]
  exact finishPending_noError hop storage spawn _

end ServerManager

theorem NoError.not_answersError {request : ChangeRequest} {events : List ServerEvent}
    (h : NoError events) : ¬ request.AnswersError events := by
  intro hanswers
  obtain ⟨status, message, hmem⟩ := hanswers
  exact h _ _ _ _ hmem

namespace ChangeRequest

variable {validate : ConfigValidator} {saved : Except String Unit}
variable {request : ChangeRequest} {s : ServerManager}

/-- A request that does not pass its checks is answered, and that is all. -/
theorem handle_refused (spawn : String → SpawnOutcome) {response : Response}
    (h : request.check validate s saved = .error response) :
    (request.handle validate saved spawn s).1 = s := by
  cases request with
  | update id body =>
    show (ServerManager.update validate id _ saved (.ok ()) spawn s).1 = s
    change ServerManager.checkUpdate validate s id _ saved = .error response at h
    unfold ServerManager.update
    rw [h]
    rfl
  | setEnabled id body =>
    show (ServerManager.setEnabled id body saved (.ok ()) spawn s).1 = s
    change ServerManager.checkEnabled s id body saved = .error response at h
    unfold ServerManager.setEnabled
    rw [h]
    rfl

/-- A request that passes its checks is not answered with an error at once; it goes on, or waits
with the project stopped. -/
theorem handle_passed (spawn : String → SpawnOutcome) {project : Project}
    (h : request.check validate s saved = .ok project) :
    NoError (request.handle validate saved spawn s).2 ∧
      ((request.handle validate saved spawn s).1.pending = s.pending ∨
        ∃ op, ServerManager.Changes op ∧ op.projectId = request.projectId ∧
          (request.handle validate saved spawn s).1 =
            { (ServerManager.stopAndTerminate op.projectId s).1 with
              pending := op :: s.pending }) := by
  have hstop (op : PendingOp) (hop : ServerManager.Changes op)
      (hid : op.projectId = request.projectId) :
      NoError (ServerManager.stopProjectAndWait op (.ok ()) spawn s).2 ∧
        ((ServerManager.stopProjectAndWait op (.ok ()) spawn s).1.pending = s.pending ∨
          ∃ op', ServerManager.Changes op' ∧ op'.projectId = request.projectId ∧
            (ServerManager.stopProjectAndWait op (.ok ()) spawn s).1 =
              { (ServerManager.stopAndTerminate op'.projectId s).1 with
                pending := op' :: s.pending }) := by
    obtain ⟨hno, hcases⟩ := ServerManager.stopProjectAndWait_cases hop (.ok ()) spawn s
    exact ⟨hno, hcases.imp_right fun hwaits => ⟨op, hop, hid, hwaits⟩⟩
  cases request with
  | update id body =>
    change ServerManager.checkUpdate validate s id _ saved = .ok project at h
    have hupdate : handle validate saved spawn (.update id body) s =
        ServerManager.stopProjectAndWait (.update project) (.ok ()) spawn s := by
      show ServerManager.update validate id _ saved (.ok ()) spawn s = _
      unfold ServerManager.update
      rw [h]
    rw [hupdate]
    exact hstop (.update project) (Or.inl ⟨project, rfl⟩) (ServerManager.checkUpdate_ok h).1
  | setEnabled id body =>
    change ServerManager.checkEnabled s id body saved = .ok project at h
    have hid : project.id = id := ServerManager.checkEnabled_id h
    show NoError (ServerManager.setEnabled id body saved (.ok ()) spawn s).2 ∧
      ((ServerManager.setEnabled id body saved (.ok ()) spawn s).1.pending = s.pending ∨
        ∃ op, ServerManager.Changes op ∧ op.projectId = id ∧
          (ServerManager.setEnabled id body saved (.ok ()) spawn s).1 = _)
    unfold ServerManager.setEnabled
    rw [h]
    dsimp only
    split_ifs with henabled
    · -- it is enabled and started, without a wait
      refine ⟨?_, Or.inl rfl⟩
      exact (ServerManager.onScheduler_noError _ _).append (ServerManager.respond_noError _ _ _ _ _)
    · exact hstop (.disable project _) (Or.inr ⟨project, _, rfl⟩) hid

/-- A request that passes is for a project that is there, and saves a record of it. -/
theorem check_ok {project : Project} (h : request.check validate s saved = .ok project) :
    project.id = request.projectId ∧ s.projects.contains request.projectId = true := by
  cases request with
  | update id body =>
    obtain ⟨hid, hthere, -⟩ := ServerManager.checkUpdate_ok h
    exact ⟨hid, hthere⟩
  | setEnabled id body =>
    obtain ⟨-, p, hp, -⟩ := ServerManager.checkEnabled_ok h
    exact ⟨ServerManager.checkEnabled_id h, ProjectMap.contains_eq_true.mpr ⟨p, hp⟩⟩

end ChangeRequest

/-! ## §6. What an error leaves -/

section Outcome

variable {qt : ValidatorQt} {configSchema : ServiceInfo → ServiceConfigSchema}
variable {projectsDir : String} {run : SaveRun} {request : ChangeRequest}
variable {c after : StoredServer}

/-- The request passes its checks and the new record is saved, so that it comes to the stop. -/
def ChangeRequest.Passes (validate : ConfigValidator) (projectsDir : String) (run : SaveRun)
    (request : ChangeRequest) (c : StoredServer) : Prop :=
  ∃ project, request.check validate c.server (request.save validate projectsDir run c).2 =
    .ok project

/-- **What a rollback and a restart give back.**  The files are loaded as they were once their
record is written over them, the project was not suppressed, and it had a timer as its record says
that it should. -/
structure StoredServer.Restorable (qt : ValidatorQt)
    (configSchema : ServiceInfo → ServiceConfigSchema) (projectsDir : String) (c : StoredServer)
    (id : String) : Prop where
  files : ∀ files, c.disk.store.find? id = some files →
    files.Rewritable id ∨
      RejectsAlike qt configSchema c.server.services
        (loadOne (projectDirPath projectsDir id) id files)
  free : c.restartSuppressed id = false
  timer : c.timerArmed id = true ↔ ∃ p, c.server.projects.find? id = some p ∧
    p.RunsAs .fixedRate ∧ c.server.services.contains p.serviceId = true

/-- A project in memory with a valid id has files on disk, which load as the record. -/
theorem StoredServer.Agrees.files {validate : ConfigValidator} {id : String} {p : Project}
    (hagrees : c.Agrees validate projectsDir) (hid : isValidProjectId id = true)
    (hp : c.server.projects.find? id = some p) :
    ∃ files, c.disk.store.find? id = some files ∧
      loadEntry validate projectsDir c.server.services id files = p := by
  rw [← hagrees] at hp
  unfold loaded at hp
  rw [find?_loadAll _ _ _ _ hid] at hp
  exact Option.map_eq_some_iff.mp hp

variable {validate : ConfigValidator}

/-- **A save that fails.**  The projects load as they did. -/
theorem ChangeRequest.save_error {response : Response} (hagrees : c.Agrees validate projectsDir)
    (h : request.check validate c.server (request.save validate projectsDir run c).2 =
      .error response) :
    (request.save validate projectsDir run c).1.store = c.disk.store := by
  unfold save at h ⊢
  split at h
  · rfl
  · rename_i project hpassed
    obtain ⟨hid, hthere⟩ := check_ok hpassed
    obtain ⟨-, hstore⟩ | ⟨hok, -⟩ := saveProject_store run projectsDir project c.disk
    · -- what a save leaves is known for a project whose directory is there
      by_cases hvalid : isValidProjectId project.id = true
      · apply hstore
        obtain ⟨p, hp⟩ := ProjectMap.contains_eq_true.mp hthere
        rw [← hid] at hp
        obtain ⟨files, hfiles, -⟩ := hagrees.files hvalid hp
        rw [ProjectsDisk.find?_store] at hfiles
        obtain ⟨dir, hdir, -⟩ := Option.map_eq_some_iff.mp hfiles
        exact SortedMap.contains_eq_true.mpr ⟨dir, hdir⟩
      · exact (saveProject_refused projectsDir c.disk
          (Or.inl (Bool.eq_false_of_not_eq_true hvalid))).2
    · -- with the record saved it passes
      rw [hok, hpassed] at h
      cases h

/-- **A request that does not pass.**  It leaves everything as it was. -/
theorem unchanged_of_not_passes (spawn : String → SpawnOutcome)
    (hagrees : c.Agrees validate projectsDir) (h : ¬ request.Passes validate projectsDir run c) :
    StoredServer.Unchanged validate projectsDir request.projectId c
      (request.begins validate projectsDir run spawn c).1 := by
  cases hcheck : request.check validate c.server (request.save validate projectsDir run c).2 with
  | ok project => exact absurd ⟨project, hcheck⟩ h
  | error response =>
    have hserver : (request.begins validate projectsDir run spawn c).1.server = c.server :=
      request.handle_refused spawn hcheck
    have hstore : (request.begins validate projectsDir run spawn c).1.disk.store = c.disk.store :=
      request.save_error hagrees hcheck
    refine ⟨?_, ?_, ?_, ?_⟩
    · rw [hserver]
    · unfold StoredServer.loaded
      rw [hserver, hstore]
    · unfold StoredServer.timerArmed
      rw [hserver]
    · unfold StoredServer.restartSuppressed
      rw [hserver]

/-- A request that waits has passed; its project waits with the record it had. -/
theorem passes_of_waits {spawn : String → SpawnOutcome} {op : PendingOp} {p : Project}
    (hp : c.server.projects.find? request.projectId = some p)
    (hpending : (request.begins validate projectsDir run spawn c).1.server.pending =
      op :: c.server.pending) :
    request.Passes validate projectsDir run c ∧ ServerManager.Changes op ∧
      op.projectId = request.projectId ∧
      WaitsUnder op c.server.pending c.server.services p
        (request.begins validate projectsDir run spawn c).1.server := by
  have hserver : (request.begins validate projectsDir run spawn c).1.server =
      (request.handle validate (request.save validate projectsDir run c).2 spawn c.server).1 := rfl
  rw [hserver] at hpending ⊢
  have hmore : ∀ s : ServerManager, s.pending = op :: c.server.pending →
      s.pending ≠ c.server.pending := by
    intro s hs heq
    rw [hs] at heq
    exact List.cons_ne_self _ _ heq
  cases hcheck : request.check validate c.server (request.save validate projectsDir run c).2 with
  | error response =>
    rw [request.handle_refused spawn hcheck] at hpending
    exact absurd rfl (hmore _ hpending)
  | ok project =>
    obtain ⟨-, hsame | ⟨op', hop, hid, hstate⟩⟩ := request.handle_passed spawn hcheck
    · exact absurd hsame (hmore _ hpending)
    · rw [hstate] at hpending ⊢
      obtain rfl : op' = op := (List.cons.inj hpending).1
      refine ⟨⟨project, hcheck⟩, hop, hid, ⟨[], rfl, ?_⟩, rfl, ?_⟩
      · intro a ha
        cases ha
      · rw [hid]
        exact hp

/-- The rollback, and the files it leaves. -/
theorem rolledBack_loads_iff (hagrees : c.Agrees (configValidator qt configSchema) projectsDir)
    {id : String} {oldProject : Project} (rollback : SaveRun) (disk : ProjectsDisk)
    (hold : c.server.projects.find? id = some oldProject)
    (hsaved : (saveProject rollback projectsDir oldProject disk).2 = .ok ()) :
    (loadAll (configValidator qt configSchema) projectsDir c.server.services
        (saveProject rollback projectsDir oldProject disk).1.store).find? id =
      (c.loaded (configValidator qt configSchema) projectsDir).find? id ↔
    ∀ files, c.disk.store.find? id = some files → files.Rewritable id ∨
      RejectsAlike qt configSchema c.server.services
        (loadOne (projectDirPath projectsDir id) id files) := by
  have hid : oldProject.id = id := ProjectMap.id_of_find? hold
  obtain ⟨⟨error, herror⟩, -⟩ | ⟨-, hvalid, hstore⟩ :=
    saveProject_store rollback projectsDir oldProject disk
  · rw [hsaved] at herror
    cases herror
  rw [hid] at hvalid
  obtain ⟨files, hfiles, hloaded⟩ := hagrees.files hvalid hold
  have hbefore : (c.loaded (configValidator qt configSchema) projectsDir).find? id =
      some oldProject := by
    rw [hagrees]
    exact hold
  rw [hbefore, find?_loadAll _ _ _ _ hvalid, hstore, if_pos hid.symm, Option.map_some,
    Option.some_inj, hfiles]
  simp only [Option.some.injEq, forall_eq']
  rw [← hloaded]
  exact rollback_loads_iff c.server.services projectsDir id files

/-- **A wait that runs out.**  Everything is as it was if the rollback and the restart give it
back. -/
theorem unchanged_after_wait_iff (hagrees : c.Agrees (configValidator qt configSchema) projectsDir)
    {op : PendingOp} {oldProject : Project} {waited : ServerManager} {disk : ProjectsDisk}
    (rollback : SaveRun) (spawn : String → SpawnOutcome) (hid : op.projectId = request.projectId)
    (hold : c.server.projects.find? request.projectId = some oldProject)
    (hwaits : WaitsUnder op c.server.pending c.server.services oldProject waited)
    (hpending : waited.pending = op :: c.server.pending)
    (hrunning : waited.running request.projectId ≠ 0)
    (hsaved : (saveProject rollback projectsDir oldProject disk).2 = .ok ()) :
    StoredServer.Unchanged (configValidator qt configSchema) projectsDir request.projectId c
        (request.returns projectsDir rollback spawn oldProject ⟨waited, disk⟩).1 ↔
      c.Restorable qt configSchema projectsDir request.projectId := by
  have hrecord : waited.projects.find? request.projectId = c.server.projects.find?
      request.projectId := by
    rw [hold, ← hid]
    exact hwaits.record
  have hafter : (request.returns projectsDir rollback spawn oldProject ⟨waited, disk⟩).1 =
      ⟨(ServerManager.startScheduling spawn { waited with pending := c.server.pending }).1,
        (saveProject rollback projectsDir oldProject disk).1⟩ := by
    unfold ChangeRequest.returns
    dsimp only
    rw [if_neg hrunning]
    rw [← hid] at hrunning
    rw [ServerManager.resume_busy hpending hrunning]
  rw [hafter]
  -- the restart goes by the records; that an instance is left keeps it from starting another
  have hrestarted := startAll_restarted waited.projects waited.services spawn request.projectId
    waited.scheduler
  have hfree := Scheduler.startAll_running waited.projects waited.services spawn
    (Nat.pos_of_ne_zero hrunning)
  have hloads := rolledBack_loads_iff hagrees rollback disk hold hsaved
  rw [← hwaits.services] at hloads
  have htimer := hrestarted.timer
  rw [hrecord] at htimer
  have hsuppressed := SortedMap.contains_eq_false.mpr hfree.free
  constructor
  · intro h
    refine ⟨?_, ?_, ?_⟩
    · rw [← hwaits.services]
      exact hloads.mp h.loaded
    · exact h.suppressed.symm.trans hsuppressed
    · rw [← hwaits.services, ← htimer]
      exact iff_of_eq (congrArg (· = true) h.timer.symm)
  · intro h
    have harmed := h.timer
    rw [← hwaits.services] at harmed
    refine ⟨hrecord, ?_, ?_, ?_⟩
    · apply hloads.mpr
      rw [hwaits.services]
      exact h.files
    · exact Bool.eq_iff_iff.mpr (htimer.trans harmed.symm)
    · exact hsuppressed.trans h.free.symm

/-- **What an error leaves.**  A request that is answered with an error leaves the record, what is
loaded and the schedule as they were exactly if its project was not stopped, or if what was there
can be given back. -/
theorem refused_unchanged_iff
    (hagrees : c.Agrees (configValidator qt configSchema) projectsDir)
    (hrefused : Refused (configValidator qt configSchema) projectsDir run request c after) :
    StoredServer.Unchanged (configValidator qt configSchema) projectsDir request.projectId c
        after ↔
      ¬ request.Passes (configValidator qt configSchema) projectsDir run c ∨
        c.Restorable qt configSchema projectsDir request.projectId := by
  cases hrefused with
  | atOnce spawn hanswers =>
    -- a request that passes has no error to answer yet
    have hnot : ¬ request.Passes (configValidator qt configSchema) projectsDir run c := by
      intro hpasses
      obtain ⟨project, hcheck⟩ := hpasses
      exact (request.handle_passed spawn hcheck).1.not_answersError hanswers
    exact iff_of_true (unchanged_of_not_passes spawn hagrees hnot) (Or.inl hnot)
  | afterWait rollback spawn spawn' others disk hold hbegun hothers hwaited hpending hsaved
      hanswers =>
    rename_i oldProject op waited
    obtain ⟨hpasses, hop, hid, hwaits⟩ := passes_of_waits hold hbegun
    -- the invariant of the wait carries the record and the services to its end
    have hkept := wait_keeps_project
      (c := Machine.start (request.begins _ projectsDir run spawn c).1.server) hwaits hothers
    rw [hwaited] at hkept
    rw [or_iff_right (not_not_intro hpasses)]
    -- without instances it would be answered with the project
    by_cases hrunning : waited.running request.projectId = 0
    · exact absurd hanswers (NoError.not_answersError
        (ServerManager.resume_noError hop hpending (by rw [hid]; exact hrunning) _ spawn'))
    · exact unchanged_after_wait_iff hagrees rollback spawn' hid hold hkept hpending hrunning
        (hsaved hrunning)

end Outcome

/-- Configs are checked against the one schema. -/
def portValidator : ConfigValidator := configValidator plainQt fun _ => portSchema

/-- The ticking project is saved, the server loads it, and does the steps. -/
def tickingAfter (steps : List ServerOp) : StoredServer :=
  let disk := (saveProject goodDisk "/projects" tickingProject none).1
  let projects := loadAll portValidator "/projects" oneService.services disk.store
  ⟨((serverMachine portValidator).run
    (ServerManager.booted oneService.services projects fun _ => .running) steps).state, disk⟩

/-- The project is to be disabled. -/
def disableTicking : ChangeRequest := .setEnabled "p" (.ok (some false))

/-- The request has arrived; no step of its save fails. -/
def disableBegun (c : StoredServer) : StoredServer :=
  (disableTicking.begins portValidator "/projects" goodDisk (fun _ => .running) c).1

/-- The instance outlives the wait. -/
def disableReturned (c : StoredServer) : StoredServer :=
  (disableTicking.returns "/projects" goodDisk (fun _ => .running) tickingProject
    (disableBegun c)).1

/-- The request is refused while an instance runs. -/
theorem disableReturned_refused {c : StoredServer}
    (hfound : c.server.projects.find? "p" = some tickingProject)
    (hpending : (disableBegun c).server.pending =
      .disable { tickingProject with enabled := false } rfl :: c.server.pending)
    (hrunning : (disableBegun c).server.running "p" ≠ 0)
    (hsaved : (saveProject goodDisk "/projects" tickingProject (disableBegun c).disk).2 = .ok ()) :
    Refused portValidator "/projects" goodDisk disableTicking c (disableReturned c) := by
  have hanswers : disableTicking.AnswersError (disableTicking.returns "/projects" goodDisk
      (fun _ => .running) tickingProject (disableBegun c)).2 := by
    have hresumed : (disableTicking.returns "/projects" goodDisk (fun _ => .running) tickingProject
        (disableBegun c)).2 =
        (ServerManager.resume
          (saveProject goodDisk "/projects" tickingProject (disableBegun c).disk).2
          (fun _ => .running) (disableBegun c).server).2 := by
      unfold ChangeRequest.returns
      rw [show disableTicking.projectId = "p" from rfl, if_neg hrunning]
    refine ⟨409, "project instances still running after stop timeout: " ++ "p", ?_⟩
    rw [hresumed, hsaved]
    unfold ServerManager.resume
    rw [hpending]
    dsimp only
    rw [show PendingOp.projectId (.disable { tickingProject with enabled := false } rfl) = "p"
      from rfl, decide_eq_false hrunning]
    exact List.mem_append_right _ (List.mem_singleton.mpr rfl)
  exact Refused.afterWait goodDisk _ _ [] (disableBegun c).disk hfound hpending trivial rfl hpending
    (fun _ => hsaved) hanswers

/-- A project that ticks, with a timer and not suppressed, is as it was. -/
theorem refused_ticking_unchanged :
    StoredServer.Unchanged portValidator "/projects" "p"
      (tickingAfter [.fixedRateTick "p" .running])
      (disableReturned (tickingAfter [.fixedRateTick "p" .running])) := by
  have hagrees : StoredServer.Agrees portValidator "/projects"
      (tickingAfter [.fixedRateTick "p" .running]) := rfl
  have hrefused := disableReturned_refused (c := tickingAfter [.fixedRateTick "p" .running])
    rfl rfl (by decide +kernel) rfl
  have hfiles : (tickingAfter [.fixedRateTick "p" .running]).disk.store.find? "p" =
      some (written tickingProject) := by
    rfl
  have hrewritable : (written tickingProject).Rewritable "p" :=
    ⟨_, rfl, Or.inl ⟨rfl, Or.inr ⟨_, rfl⟩⟩⟩
  apply (refused_unchanged_iff hagrees hrefused).mpr
  right
  refine ⟨?_, rfl, ?_⟩
  · intro files hfound
    obtain rfl := Option.some.inj (hfiles.symm.trans hfound)
    exact Or.inl hrewritable
  · exact iff_of_true rfl ⟨tickingProject, rfl, ⟨rfl, rfl, rfl⟩, rfl⟩

/-- **A stopped project ticks again.**  It ran at a fixed rate and was stopped by request, which
keeps it from being started; a request to disable it that is refused sets its timer again. -/
theorem refused_stopped_resumed :
    StoredServer.Agrees portValidator "/projects"
      (tickingAfter [.fixedRateTick "p" .running, .stop "p"]) ∧
    Refused portValidator "/projects" goodDisk disableTicking
      (tickingAfter [.fixedRateTick "p" .running, .stop "p"])
      (disableReturned (tickingAfter [.fixedRateTick "p" .running, .stop "p"])) ∧
    ¬ StoredServer.Unchanged portValidator "/projects" "p"
      (tickingAfter [.fixedRateTick "p" .running, .stop "p"])
      (disableReturned (tickingAfter [.fixedRateTick "p" .running, .stop "p"])) := by
  refine ⟨rfl, ?_, ?_⟩
  · exact disableReturned_refused rfl rfl (by decide +kernel) rfl
  · intro h
    -- the timer, which the stop had taken away
    have htimer := h.timer
    revert htimer
    decide +kernel

end Stdiolink.Server
