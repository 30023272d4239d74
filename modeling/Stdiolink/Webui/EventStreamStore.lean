/-
  Stdiolink.Webui.EventStreamStore — the store that listens to the events of the server,
  `stores/useEventStreamStore.ts` with `api/event-stream.ts`.

  The store holds an event stream or a reconnect timer, and refers to them by fields that it sets in
  several steps.  Beside the store the model keeps what really exists in the browser: the event
  sources that are open, and the timers that are pending.  A closed source fires no callbacks, and
  neither does a cleared timer.

  Main results:
    * `step_linked` — every callback leaves one source, or one timer, or nothing;
    * `one_link`    — the stream is never lost or doubled, in any run.
-/
import Stdiolink.Webui.DriverLabStore

namespace Stdiolink.Webui

open Stdiolink.Lib
open Stdiolink.Protocol

/-! ## §1. The store -/

inductive SseStatus where
  | disconnected
  | connecting
  | connected
  | reconnecting
  | error
  deriving Repr, DecidableEq

structure ServerEvent where
  type : String
  data : Json
  deriving DecidableEq

def MAX_RECENT_EVENTS : Nat := 50
def INITIAL_DELAY_MS : Nat := 1000
def MAX_DELAY_MS : Nat := 30000
def BACKOFF_MULTIPLIER : Nat := 2

def getReconnectDelay (attempts : Nat) : Nat :=
  min (INITIAL_DELAY_MS * BACKOFF_MULTIPLIER ^ attempts) MAX_DELAY_MS

/-- What the store asks of the other stores. -/
inductive StoreCall where
  | fetchInstances
  | fetchServerStatus
  | fetchDashboardInstances
  | fetchRuntimes
  | addEvent (event : ServerEvent)
  | fetchProjects
  | fetchServices
  | fetchDrivers
  deriving DecidableEq

/-- The value counts as true. -/
def truthy : Json → Bool
  | .undefined | .null => false
  | .bool b => b
  | .num q => q ≠ 0
  | .str s => s ≠ ""
  | .arr _ | .obj _ => true

def dispatchEvent (event : ServerEvent) : List StoreCall :=
  match event.type with
  | "instance.started" | "instance.finished" =>
    [.fetchInstances, .fetchServerStatus] ++
      if truthy (DriverLabStore.member event.data "projectId") then [.fetchRuntimes] else []
  | "schedule.triggered" | "schedule.suppressed" => [.addEvent event]
  | "project.status_changed" => [.fetchProjects]
  | "service.scanned" => [.fetchServices]
  | "driver.scanned" => [.fetchDrivers]
  | _ => []

def onReconnected : List StoreCall :=
  [.fetchServerStatus, .fetchDashboardInstances, .fetchInstances, .fetchProjects]

/-- `eventTypes` of `EventStream.connect`: what an event source is listened to for. -/
def eventTypes : List String :=
  ["instance.started", "instance.finished", "schedule.triggered", "schedule.suppressed"]

/-- An event source that is open.  A stream opens one, which is known by the stream's number; its
callbacks keep the `wasReconnecting` of the `connect` that made it. -/
structure OpenSource where
  stream : Nat
  wasReconnecting : Bool
  deriving Repr, DecidableEq

/-- A timer that is pending. -/
structure PendingTimer where
  id : Nat
  delay : Nat
  deriving Repr, DecidableEq

/-- The store, and behind it what exists in the browser.  Streams and timers are numbered from 1. -/
structure EventStreamStore where
  status : SseStatus := .disconnected
  reconnectAttempts : Nat := 0
  lastEventTime : Option Int := none
  recentEvents : List ServerEvent := []
  error : Option String := none
  stream : Option Nat := none
  reconnectTimer : Option Nat := none
  opened : List OpenSource := []
  pending : List PendingTimer := []
  streams : Nat := 0
  timers : Nat := 0
  deriving DecidableEq

namespace EventStreamStore

variable (s : EventStreamStore)

/-- `EventStream.close`: of a stream that is closed already it does nothing. -/
def close (stream : Nat) : EventStreamStore :=
  { s with opened := s.opened.filter (·.stream ≠ stream) }

def clearTimeout (id : Nat) : EventStreamStore :=
  { s with pending := s.pending.filter (·.id ≠ id) }

/-- `if (prev) prev.close()` -/
def closeStream : EventStreamStore :=
  match s.stream with
  | some stream => s.close stream
  | none => s

/-- `if (prevTimer) clearTimeout(prevTimer)` -/
def clearReconnectTimer : EventStreamStore :=
  match s.reconnectTimer with
  | some id => s.clearTimeout id
  | none => s

def connect : EventStreamStore :=
  let s := s.closeStream
  let s := s.clearReconnectTimer
  let stream := s.streams + 1
  let wasReconnecting := decide (s.status = .reconnecting)
  { s with
    status := .connecting
    stream := some stream
    reconnectTimer := none
    error := none
    opened := s.opened ++ [⟨stream, wasReconnecting⟩]
    streams := stream }

def disconnect : EventStreamStore :=
  let s := s.closeStream
  let s := s.clearReconnectTimer
  { s with status := .disconnected, stream := none, reconnectTimer := none, error := none }

/-- `stream.on('connected', …)` -/
def onConnected (wasReconnecting : Bool) : EventStreamStore × List StoreCall :=
  let isReconnect := wasReconnecting || decide (s.reconnectAttempts > 0)
  ({ s with status := .connected, reconnectAttempts := 0, error := none },
    if isReconnect then onReconnected else [])

/-- `stream.on('event', …)` -/
def onEvent (event : ServerEvent) (now : Int) : EventStreamStore × List StoreCall :=
  ({ s with
      lastEventTime := some now
      recentEvents := (event :: s.recentEvents).take MAX_RECENT_EVENTS },
    dispatchEvent event)

/-- `stream.on('error', …)` -/
def onError : EventStreamStore :=
  if s.status = .disconnected then s
  else
    let attempts := s.reconnectAttempts
    let s := { s with
      status := .reconnecting, reconnectAttempts := attempts + 1, error := some "Connection lost" }
    let s := s.closeStream
    let timer := s.timers + 1
    { s with
      pending := s.pending ++ [⟨timer, getReconnectDelay attempts⟩]
      timers := timer
      reconnectTimer := some timer
      stream := none }

end EventStreamStore

/-- What happens to the store: the page calls it, a source calls back, a timer fires.  The data of a
message may be no JSON. -/
inductive StreamEvent where
  | connect
  | disconnect
  | opened (source : OpenSource)
  | failed (source : OpenSource)
  | message (source : OpenSource) (type : String) (data : Option Json) (now : Int)
  | timerFires (timer : PendingTimer)

namespace EventStreamStore

/-- One step.  A source that is not open and a timer that is not pending do nothing. -/
def step (s : EventStreamStore) : StreamEvent → EventStreamStore × List StoreCall
  | .connect => (s.connect, [])
  | .disconnect => (s.disconnect, [])
  | .opened source =>
    if source ∈ s.opened then s.onConnected source.wasReconnecting else (s, [])
  | .failed source => if source ∈ s.opened then (s.onError, []) else (s, [])
  | .message source type data now =>
    match data with
    | some data =>
      if source ∈ s.opened ∧ type ∈ eventTypes then s.onEvent ⟨type, data⟩ now else (s, [])
    | none => (s, [])
  | .timerFires timer =>
    if timer ∈ s.pending then
      (connect { s with pending := s.pending.filter (· ≠ timer) }, [])
    else (s, [])

/-- The store as a machine. -/
def machine : Machine EventStreamStore StreamEvent StoreCall where
  step := step

/-! ## §2. One link at a time -/

/-- **What the store has** between two callbacks: nothing, a stream, or a timer; the fields refer to
what exists. -/
inductive Linked : EventStreamStore → Prop
  | idle {s : EventStreamStore} (status : s.status = .disconnected) (opened : s.opened = [])
      (pending : s.pending = []) (stream : s.stream = none) (timer : s.reconnectTimer = none) :
      Linked s
  | streaming {s : EventStreamStore} (status : s.status ≠ .disconnected) (source : OpenSource)
      (opened : s.opened = [source]) (pending : s.pending = [])
      (stream : s.stream = some source.stream) (timer : s.reconnectTimer = none) : Linked s
  | waiting {s : EventStreamStore} (status : s.status ≠ .disconnected) (timer : PendingTimer)
      (opened : s.opened = []) (pending : s.pending = [timer]) (stream : s.stream = none)
      (reconnectTimer : s.reconnectTimer = some timer.id) : Linked s

/-- **One event source or one timer, unless the store is disconnected**, and then neither. -/
structure OneLink (s : EventStreamStore) : Prop where
  opened : s.opened.length ≤ 1
  pending : s.pending.length ≤ 1
  one : s.status ≠ .disconnected → s.opened.length + s.pending.length = 1
  none : s.status = .disconnected → s.opened = [] ∧ s.pending = []

variable {s : EventStreamStore}

theorem Linked.oneLink (h : Linked s) : OneLink s := by
  cases h with
  | idle status opened pending _ _ =>
    refine ⟨?_, ?_, fun hne => absurd status hne, fun _ => ⟨opened, pending⟩⟩
    · rw [opened]
      decide
    · rw [pending]
      decide
  | streaming status source opened pending _ _ =>
    refine ⟨?_, ?_, fun _ => ?_, fun heq => absurd heq status⟩ <;> simp [opened, pending]
  | waiting status timer opened pending _ _ =>
    refine ⟨?_, ?_, fun _ => ?_, fun heq => absurd heq status⟩ <;> simp [opened, pending]

/-- The fields refer to whatever exists. -/
structure Tracked (s : EventStreamStore) : Prop where
  opened : ∀ source ∈ s.opened, s.stream = some source.stream
  pending : ∀ timer ∈ s.pending, s.reconnectTimer = some timer.id

theorem Linked.tracked (h : Linked s) : Tracked s := by
  cases h with
  | idle _ opened pending _ _ => exact ⟨by simp [opened], by simp [pending]⟩
  | streaming _ source opened pending stream _ =>
    exact ⟨by simp [opened, stream], by simp [pending]⟩
  | waiting _ timer opened pending _ reconnectTimer =>
    exact ⟨by simp [opened], by simp [pending, reconnectTimer]⟩

theorem Tracked.closeStream_opened (h : Tracked s) : s.closeStream.opened = [] := by
  unfold closeStream
  cases hstream : s.stream with
  | none =>
    refine List.eq_nil_iff_forall_not_mem.mpr fun source hmem => ?_
    have := h.opened source hmem
    rw [hstream] at this
    contradiction
  | some stream =>
    refine List.filter_eq_nil_iff.mpr fun source hmem => ?_
    have := h.opened source hmem
    rw [hstream] at this
    simpa using (Option.some.inj this).symm

/-- Closing the stream leaves the timers alone. -/
theorem closeStream_timers :
    s.closeStream.pending = s.pending ∧ s.closeStream.reconnectTimer = s.reconnectTimer := by
  unfold closeStream
  split <;> exact ⟨rfl, rfl⟩

theorem clearReconnectTimer_opened : s.clearReconnectTimer.opened = s.opened := by
  unfold clearReconnectTimer
  split <;> rfl

theorem clearReconnectTimer_pending
    (h : ∀ timer ∈ s.pending, s.reconnectTimer = some timer.id) :
    s.clearReconnectTimer.pending = [] := by
  unfold clearReconnectTimer
  cases htimer : s.reconnectTimer with
  | none =>
    refine List.eq_nil_iff_forall_not_mem.mpr fun timer hmem => ?_
    have := h timer hmem
    rw [htimer] at this
    contradiction
  | some id =>
    refine List.filter_eq_nil_iff.mpr fun timer hmem => ?_
    have := h timer hmem
    rw [htimer] at this
    simpa using (Option.some.inj this).symm

/-- **The cleanup** of `connect` and `disconnect` leaves no source and no timer. -/
theorem Tracked.cleared (h : Tracked s) :
    s.closeStream.clearReconnectTimer.opened = [] ∧
      s.closeStream.clearReconnectTimer.pending = [] := by
  refine ⟨clearReconnectTimer_opened.trans h.closeStream_opened, clearReconnectTimer_pending ?_⟩
  rw [closeStream_timers.1, closeStream_timers.2]
  exact h.pending

theorem connect_linked (h : Tracked s) : Linked s.connect := by
  obtain ⟨hopened, hpending⟩ := h.cleared
  refine .streaming (show SseStatus.connecting ≠ .disconnected by decide)
    ⟨s.closeStream.clearReconnectTimer.streams + 1,
      decide (s.closeStream.clearReconnectTimer.status = .reconnecting)⟩ ?_ hpending rfl rfl
  show s.closeStream.clearReconnectTimer.opened ++ [_] = [_]
  rw [hopened]
  rfl

theorem disconnect_linked (h : Tracked s) : Linked s.disconnect :=
  .idle rfl h.cleared.1 h.cleared.2 rfl rfl

/-- An error of the open source closes it and arms a timer. -/
theorem onError_linked (h : Linked s) {source : OpenSource} (hsource : source ∈ s.opened) :
    Linked s.onError := by
  cases h with
  | idle _ opened _ _ _ =>
    rw [opened] at hsource
    exact absurd hsource List.not_mem_nil
  | waiting _ _ opened _ _ _ =>
    rw [opened] at hsource
    exact absurd hsource List.not_mem_nil
  | streaming status source opened pending stream timer =>
    unfold onError closeStream close
    rw [if_neg status]
    simp only [stream]
    exact .waiting (show SseStatus.reconnecting ≠ .disconnected by decide)
      ⟨s.timers + 1, getReconnectDelay s.reconnectAttempts⟩ (by simp [opened]) (by simp [pending])
      rfl rfl

/-- A callback that leaves the links alone, and leaves the store connected if it is. -/
theorem Linked.frame (h : Linked s) {s' : EventStreamStore}
    (hlinks : s'.opened = s.opened ∧ s'.pending = s.pending ∧ s'.stream = s.stream ∧
      s'.reconnectTimer = s.reconnectTimer)
    (hstatus : s'.status = .disconnected ↔ s.status = .disconnected) : Linked s' := by
  obtain ⟨hopened, hpending, hstream, htimer⟩ := hlinks
  cases h with
  | idle status opened pending stream timer =>
    exact .idle (hstatus.mpr status) (hopened.trans opened) (hpending.trans pending)
      (hstream.trans stream) (htimer.trans timer)
  | streaming status source opened pending stream timer =>
    exact .streaming (fun h => status (hstatus.mp h)) source (hopened.trans opened)
      (hpending.trans pending) (hstream.trans stream) (htimer.trans timer)
  | waiting status timer opened pending stream reconnectTimer =>
    exact .waiting (fun h => status (hstatus.mp h)) timer (hopened.trans opened)
      (hpending.trans pending) (hstream.trans stream) (htimer.trans reconnectTimer)

/-- An open source means that the store is not disconnected. -/
theorem Linked.connected_of_mem (h : Linked s) {source : OpenSource} (hsource : source ∈ s.opened) :
    s.status ≠ .disconnected := by
  cases h with
  | idle _ opened _ _ _ =>
    rw [opened] at hsource
    exact absurd hsource List.not_mem_nil
  | streaming status _ _ _ _ _ => exact status
  | waiting status _ _ _ _ _ => exact status

/-! ## §3. Every run -/

/-- **One step** keeps the links. -/
theorem step_linked (h : Linked s) (event : StreamEvent) : Linked (s.step event).1 := by
  cases event with
  | connect => exact connect_linked h.tracked
  | disconnect => exact disconnect_linked h.tracked
  | opened source =>
    simp only [step]
    split
    · rename_i hsource
      have hstatus := h.connected_of_mem hsource
      refine h.frame ⟨rfl, rfl, rfl, rfl⟩ ?_
      show SseStatus.connected = .disconnected ↔ _
      simp [hstatus]
    · exact h
  | failed source =>
    simp only [step]
    split
    · rename_i hsource
      exact onError_linked h hsource
    · exact h
  | message source type data now =>
    simp only [step]
    split
    · split
      · exact h.frame ⟨rfl, rfl, rfl, rfl⟩ Iff.rfl
      · exact h
    · exact h
  | timerFires timer =>
    simp only [step]
    split
    · -- the timer that fires is no longer pending, but the field still refers to it
      refine connect_linked ⟨h.tracked.opened, fun other hother => ?_⟩
      exact h.tracked.pending other (List.mem_of_mem_filter hother)
    · exact h

/-- **The event stream is never lost or doubled**, in any run of the store from the start. -/
theorem one_link {events : List StreamEvent} :
    machine.EveryState (fun c => OneLink c.state) (Machine.start {}) events := by
  have hstart : Linked {} := .idle rfl rfl rfl rfl rfl
  exact Machine.everyState_of_invariant (M := machine) (C := fun _ _ => True)
    (fun c => Linked c.state) (fun c event h _ => step_linked h event) (fun c h => h.oneLink) hstart
    (Machine.everyStep_iff.mpr fun _ _ _ _ => trivial)

/-- A `connect` while a reconnect is pending: the timer is gone, and the new stream is there. -/
example :
    (machine.run (Machine.start {}) [.connect, .failed ⟨1, false⟩, .connect]).state.opened =
        [⟨2, true⟩] ∧
      (machine.run (Machine.start {}) [.connect, .failed ⟨1, false⟩, .connect]).state.pending = [] := by
  decide

end EventStreamStore

end Stdiolink.Webui
