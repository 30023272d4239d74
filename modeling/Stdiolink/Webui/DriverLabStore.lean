/-
  Stdiolink.Webui.DriverLabStore — the store behind the DriverLab page,
  `stores/useDriverLabStore.ts` with `api/driverlab-ws.ts`.

  The store keeps one web socket client at a time.  A client that was replaced keeps its listeners,
  so the callbacks of every client created so far reach the store, in any order.  The form of the
  page (the selected command and its parameters) is left out.

  Main results:
    * `executing_follows_execs` — in every run, an exec of the current client sets `executing`, and
      what ends the exec resets it;
    * `cancel_ends_executing` — a cancelled exec is not waited for, and a client that was replaced
      still reaches the store.
-/
import Stdiolink.Lib.Machine
import Stdiolink.Protocol.Json

namespace Stdiolink.Webui

open Stdiolink.Lib
open Stdiolink.Protocol

/-! ## §1. The store -/

inductive ConnectionStatus where
  | disconnected
  | connecting
  | connected
  | error
  deriving DecidableEq

inductive RunMode where
  | oneshot
  | keepalive
  deriving DecidableEq

structure ConnectionState where
  status : ConnectionStatus := .disconnected
  driverId : Option String := none
  runMode : RunMode := .oneshot
  pid : Json := .null
  connectedAt : Option Int := none
  driverMeta : Json := .null
  error : Json := .null
  deriving DecidableEq

/-- `direction` of a message. -/
inductive Direction where
  | send
  | recv
  deriving DecidableEq

structure MessageEntry where
  id : String
  timestamp : Int
  direction : Direction
  type : Json
  raw : Json
  payload : Json
  expanded : Bool := false
  deriving DecidableEq

def MAX_MESSAGES : Nat := 500

/-- The store, with the counters of the module: `msgCounter`, and how many clients were created.  A
client is known by its number. -/
structure DriverLabStore where
  connection : ConnectionState := {}
  messages : List MessageEntry := []
  commands : Json := .arr []
  executing : Bool := false
  executedFieldValues : List (String × Json) := []
  wsClient : Option Nat := none
  msgCounter : Nat := 0
  clients : Nat := 0
  deriving DecidableEq

namespace DriverLabStore

/-- `value.key`, on a value that is not null. -/
def member (value : Json) (key : String) : Json := Json.value value.toObject key

def normalizePayload (msg : Json) : Json :=
  let type := member msg "type"
  if type = .str "stdout" || type = .str "error" then member msg "message"
  else if type = .str "meta" then member msg "meta"
  else msg

def appendMessage (entry : MessageEntry) (s : DriverLabStore) : DriverLabStore :=
  let msgs := s.messages ++ [entry]
  if msgs.length > MAX_MESSAGES then { s with messages := msgs.drop (msgs.length - MAX_MESSAGES) }
  else { s with messages := msgs }

/-- `makeId`, with the counter that it advances. -/
def makeId (now : Int) (s : DriverLabStore) : String × DriverLabStore :=
  ("msg-" ++ toString now ++ "-" ++ toString (s.msgCounter + 1),
    { s with msgCounter := s.msgCounter + 1 })

/-- The `switch` of `handleWsMessage`. -/
def dispatch (msg : Json) (s : DriverLabStore) : DriverLabStore :=
  match member msg "type" with
  | .str "driver.started" | .str "driver.restarted" =>
      { s with connection := { s.connection with pid := member msg "pid" } }
  | .str "meta" =>
      let driverMeta := member msg "meta"
      let commands := member driverMeta "commands"
      { s with
        connection := { s.connection with driverMeta := driverMeta }
        commands := if commands.isNullish then .arr [] else commands }
  | .str "stdout" =>
      let status := member (member msg "message") "status"
      if status = .str "done" || status = .str "error" then { s with executing := false } else s
  | .str "driver.exited" =>
      if s.connection.runMode = .keepalive then
        { s with
          connection := { s.connection with status := .disconnected, pid := .null }
          executing := false }
      else { s with executing := false, connection := { s.connection with pid := .null } }
  | .str "error" => { s with connection := { s.connection with error := member msg "message" } }
  | _ => s

def handleWsMessage (msg : Json) (now : Int) (s : DriverLabStore) : DriverLabStore :=
  let (id, s) := makeId now s
  let entry : MessageEntry :=
    { id := id, timestamp := now, direction := .recv, type := member msg "type", raw := msg,
      payload := normalizePayload msg }
  dispatch msg (appendMessage entry s)

/-! ### The listeners of a client -/

def onConnected (now : Int) (s : DriverLabStore) : DriverLabStore :=
  { s with connection := { s.connection with status := .connected, connectedAt := some now } }

def onError (s : DriverLabStore) : DriverLabStore :=
  { s with connection := { s.connection with status := .error, error := .str "WebSocket error" } }

def onDisconnected (s : DriverLabStore) : DriverLabStore :=
  { s with connection := { s.connection with status := .disconnected }, executing := false }

/-- `emit(msg.type, msg)`: the listener that a type happens to name. -/
def emitType (msg : Json) (now : Int) (s : DriverLabStore) : DriverLabStore :=
  match member msg "type" with
  | .str "connected" => s.onConnected now
  | .str "message" => handleWsMessage msg now s
  | .str "error" => s.onError
  | .str "disconnected" => s.onDisconnected
  | _ => s

/-- `onmessage`; the data is `none` where it does not parse. -/
def onMessage (data : Option Json) (now : Int) (s : DriverLabStore) : DriverLabStore :=
  match data with
  | none => s
  -- the handler has made an id when `null.type` throws
  | some .null => (makeId now s).2
  | some msg => emitType msg now (handleWsMessage msg now s)

/-! ### The actions -/

/-- `connect`: the previous client closes its socket, and the new one, with the next number, opens
its own. -/
def connect (driverId : String) (runMode : RunMode) (s : DriverLabStore) : DriverLabStore :=
  { s with
    connection := { status := .connecting, driverId := some driverId, runMode := runMode }
    messages := []
    commands := .arr []
    executedFieldValues := []
    executing := false
    wsClient := some s.clients
    clients := s.clients + 1 }

def disconnect (s : DriverLabStore) : DriverLabStore :=
  { s with
    connection := { s.connection with status := .disconnected }
    executing := false
    wsClient := none }

/-- The entry of something that the user sends. -/
def appendSent (type : String) (raw payload : Json) (now : Int) (s : DriverLabStore) :
    DriverLabStore :=
  let (id, s) := makeId now s
  let entry : MessageEntry :=
    { id := id, timestamp := now, direction := .send, type := .str type, raw := raw,
      payload := payload }
  appendMessage entry s

/-- `execCommand` where there is a client. -/
def execCommand (command : String) (data : List (String × Json)) (now : Int) (s : DriverLabStore) :
    DriverLabStore :=
  let s := { s with
    executing := true
    executedFieldValues := Json.putAll s.executedFieldValues data }
  appendSent "exec"
    (.obj (Json.record [("type", .str "exec"), ("cmd", .str command), ("data", .obj data)]))
    (.obj (Json.record [("cmd", .str command), ("data", .obj data)])) now s

/-- `cancelCommand` where there is a client. -/
def cancelCommand (now : Int) (s : DriverLabStore) : DriverLabStore :=
  appendSent "cancel" (.obj [("type", .str "cancel")]) .null now { s with executing := false }

end DriverLabStore

/-- A callback of a client's web socket. -/
inductive LabCallback where
  | opened
  | message (data : Option Json)
  | failed
  | closed
  deriving DecidableEq

/-- What happens to the store.  For an exec, whether the socket of the client is open then. -/
inductive StoreInput where
  | connect (driverId : String) (runMode : RunMode)
  | disconnect
  | exec (command : String) (data : List (String × Json)) (isOpen : Bool) (now : Int)
  | cancel (now : Int)
  | clearMessages
  | callback (client : Nat) (callback : LabCallback) (now : Int)
  deriving DecidableEq

/-- What a run is judged by. -/
inductive StoreEvent where
  | connected (client : Nat)
  | disconnected
  | exec (client : Nat) (sent : Bool)
  | cancelled (client : Nat)
  | callback (client : Nat) (callback : LabCallback)
  deriving DecidableEq

/-- The effect of a callback, whichever client it comes from. -/
def DriverLabStore.onCallback (callback : LabCallback) (now : Int) (s : DriverLabStore) :
    DriverLabStore :=
  match callback with
  | .opened => s.onConnected now
  | .message data => s.onMessage data now
  | .failed => s.onError
  | .closed => s.onDisconnected

/-- The store and its clients; only a client that was created has callbacks. -/
def driverLabStore : Machine DriverLabStore StoreInput StoreEvent where
  step s input :=
    match input with
    | .connect driverId runMode => (s.connect driverId runMode, [.connected s.clients])
    | .disconnect => (s.disconnect, [.disconnected])
    | .exec command data isOpen now =>
        match s.wsClient with
        | none => (s, [])
        | some client => (s.execCommand command data now, [.exec client isOpen])
    | .cancel now =>
        match s.wsClient with
        | none => (s, [])
        | some client => (s.cancelCommand now, [.cancelled client])
    | .clearMessages => ({ s with messages := [] }, [])
    | .callback client callback now =>
        if client < s.clients then (s.onCallback callback now, [.callback client callback])
        else (s, [])

/-! ## §2. What an exec waits for -/

/-- A reply of the driver that ends a command: it is done with it, with or without an error, or has
exited. -/
def isReply (msg : Json) : Bool :=
  match DriverLabStore.member msg "type" with
  | .str "stdout" =>
      let status := DriverLabStore.member (DriverLabStore.member msg "message") "status"
      status = .str "done" || status = .str "error"
  | .str "driver.exited" => true
  | _ => false

/-- Such a reply, or a message that calls itself a close. -/
def isTerminal (msg : Json) : Bool :=
  isReply msg || DriverLabStore.member msg "type" = .str "disconnected"

/-- A message that says why a request failed. -/
def isRequestError (msg : Json) : Bool := DriverLabStore.member msg "type" = .str "error"

namespace StoreEvent

/-- A reply of the driver to this client, or a close of its connection. -/
def Replies (client : Nat) : StoreEvent → Prop
  | .callback from_ (.message (some msg)) => from_ = client ∧ isTerminal msg = true
  | .callback from_ .closed => from_ = client
  | .connected _ | .disconnected => True
  | _ => False

/-- A request error for this client. -/
def Fails (client : Nat) : StoreEvent → Prop
  | .callback from_ (.message (some msg)) => from_ = client ∧ isRequestError msg = true
  | _ => False

def IsCancel : StoreEvent → Prop
  | .cancelled _ => True
  | _ => False

/-- A callback of another client, one that was replaced. -/
def IsStale (client : Nat) : StoreEvent → Prop
  | .callback from_ _ => from_ ≠ client
  | _ => False

/-- An exec of this client; `sent` if its socket was open. -/
def IsExec (client : Nat) : StoreEvent → Prop
  | .exec from_ _ => from_ = client
  | _ => False

def IsSentExec (client : Nat) : StoreEvent → Prop
  | .exec from_ sent => from_ = client ∧ sent = true
  | _ => False

end StoreEvent

/-! ## §3. What the operations do to `executing` -/

namespace DriverLabStore

@[simp] theorem executing_appendMessage (entry : MessageEntry) (s : DriverLabStore) :
    (s.appendMessage entry).executing = s.executing := by
  unfold appendMessage
  dsimp only
  split_ifs <;> rfl

@[simp] theorem wsClient_appendMessage (entry : MessageEntry) (s : DriverLabStore) :
    (s.appendMessage entry).wsClient = s.wsClient := by
  unfold appendMessage
  dsimp only
  split_ifs <;> rfl

variable (msg : Json) (now : Int) (s : DriverLabStore)

theorem executing_dispatch : (s.dispatch msg).executing = (s.executing && !isReply msg) := by
  unfold dispatch isReply
  generalize member msg "type" = type
  split
  · simp
  · simp
  · simp
  · dsimp only
    split_ifs <;> simp [*]
  · dsimp only
    split_ifs <;> simp
  · simp
  · next hstdout hexited _ =>
    split
    · exact absurd rfl hstdout
    · exact absurd rfl hexited
    · simp

theorem wsClient_dispatch : (s.dispatch msg).wsClient = s.wsClient := by
  unfold dispatch
  split
  all_goals dsimp only
  all_goals split_ifs
  all_goals rfl

theorem executing_handleWsMessage :
    (handleWsMessage msg now s).executing = (s.executing && !isReply msg) := by
  unfold handleWsMessage
  rw [executing_dispatch, executing_appendMessage]
  rfl

theorem wsClient_handleWsMessage : (handleWsMessage msg now s).wsClient = s.wsClient := by
  unfold handleWsMessage
  rw [wsClient_dispatch, wsClient_appendMessage]
  rfl

theorem executing_emitType :
    (emitType msg now s).executing =
      (s.executing && !decide (member msg "type" = .str "disconnected")) := by
  unfold emitType
  split
  · next htype => simp [htype, onConnected]
  · next htype =>
    -- dispatched once more, and no reply
    have hreply : isReply msg = false := by
      unfold isReply
      rw [htype]
      split
      · next h => simp at h
      · next h => simp at h
      · rfl
    simp [htype, executing_handleWsMessage, hreply]
  · next htype => simp [htype, onError]
  · next htype => simp [htype, onDisconnected]
  · next htype =>
    rw [decide_eq_false htype]
    simp

theorem wsClient_emitType : (emitType msg now s).wsClient = s.wsClient := by
  unfold emitType
  split
  · rfl
  · exact wsClient_handleWsMessage msg now s
  · rfl
  · rfl
  · rfl

/-- A message resets `executing` when it ends a command. -/
theorem executing_onMessage :
    (s.onMessage (some msg) now).executing = (s.executing && !isTerminal msg) := by
  unfold onMessage
  split
  · next h => simp at h
  · next h =>
    obtain rfl := Option.some.inj h
    show s.executing = _
    simp [isTerminal, isReply, member, Json.toObject, Json.value]
  · next other _ h =>
    obtain rfl := Option.some.inj h
    rw [executing_emitType, executing_handleWsMessage, isTerminal, Bool.not_or, Bool.and_assoc]

theorem wsClient_onMessage (data : Option Json) (now : Int) (s : DriverLabStore) :
    (s.onMessage data now).wsClient = s.wsClient := by
  unfold onMessage
  split
  · rfl
  · rfl
  · rw [wsClient_emitType, wsClient_handleWsMessage]

/-- No callback changes which client is the current one. -/
theorem wsClient_onCallback (callback : LabCallback) (now : Int) (s : DriverLabStore) :
    (s.onCallback callback now).wsClient = s.wsClient := by
  cases callback with
  | message data => exact wsClient_onMessage data now s
  | opened | failed | closed => rfl

/-- No callback sets `executing`. -/
theorem executing_onCallback {callback : LabCallback} {now : Int} {s : DriverLabStore}
    (h : (s.onCallback callback now).executing = true) : s.executing = true := by
  cases callback with
  | opened => exact h
  | failed => exact h
  | closed => exact absurd h Bool.false_ne_true
  | message data =>
    cases data with
    | none => exact h
    | some msg =>
      rw [onCallback, executing_onMessage, Bool.and_eq_true] at h
      exact h.1

@[simp] theorem executing_execCommand (command : String) (data : List (String × Json)) (now : Int)
    (s : DriverLabStore) : (s.execCommand command data now).executing = true :=
  executing_appendMessage _ _

@[simp] theorem wsClient_execCommand (command : String) (data : List (String × Json)) (now : Int)
    (s : DriverLabStore) : (s.execCommand command data now).wsClient = s.wsClient :=
  wsClient_appendMessage _ _

@[simp] theorem executing_cancelCommand :
    (s.cancelCommand now).executing = false := executing_appendMessage _ _

end DriverLabStore

/-! ## §4. Runs -/

/-- Since an exec of the current client, nothing has come that ends it or that the user ends it
with. -/
def MayBeExecuting (c : Machine.Config DriverLabStore StoreEvent) : Prop :=
  ∃ client, c.state.wsClient = some client ∧
    Machine.Since (StoreEvent.IsExec client) (fun e => e.Replies client ∨ e.IsCancel) c.history

/-- Since an exec was sent for the current client, nothing has come for it that ends it, no request
error, and nothing of another client. -/
def MustBeExecuting (c : Machine.Config DriverLabStore StoreEvent) : Prop :=
  ∃ client, c.state.wsClient = some client ∧
    Machine.Since (StoreEvent.IsSentExec client)
      (fun e => e.Replies client ∨ e.Fails client ∨ e.IsCancel ∨ e.IsStale client) c.history

/-- `executing` is true only while an exec may be executing, and while one must be. -/
structure FollowsExecs (c : Machine.Config DriverLabStore StoreEvent) : Prop where
  only : c.state.executing = true → MayBeExecuting c
  whenever : MustBeExecuting c → c.state.executing = true

/-- Nothing that matters happens. -/
theorem FollowsExecs.frame {c c' : Machine.Config DriverLabStore StoreEvent} (h : FollowsExecs c)
    (hexecuting : c'.state.executing = c.state.executing)
    (hclient : c'.state.wsClient = c.state.wsClient) (hhistory : c'.history = c.history) :
    FollowsExecs c' := by
  constructor
  · unfold MayBeExecuting
    rw [hexecuting, hclient, hhistory]
    exact h.only
  · unfold MustBeExecuting
    rw [hexecuting, hclient, hhistory]
    exact h.whenever

/-- **A callback**, of the current client or of one before it. -/
theorem FollowsExecs.callback {c : Machine.Config DriverLabStore StoreEvent} (h : FollowsExecs c)
    (from_ : Nat) (callback : LabCallback) (now : Int) :
    FollowsExecs ⟨c.state.onCallback callback now, c.history ++ [.callback from_ callback]⟩ := by
  constructor
  · intro hexecuting
    obtain ⟨client, hclient, hsince⟩ := h.only (DriverLabStore.executing_onCallback hexecuting)
    refine ⟨client, (DriverLabStore.wsClient_onCallback callback now c.state).trans hclient, ?_⟩
    rw [Machine.since_concat]
    refine .inr ⟨hsince, ?_⟩
    -- what ends the exec would have reset `executing`
    rintro (hreplies | hcancel)
    · cases callback with
      | opened | failed => exact hreplies
      | closed => exact absurd hexecuting Bool.false_ne_true
      | message data =>
        cases data with
        | none => exact hreplies
        | some msg =>
          rw [DriverLabStore.onCallback, DriverLabStore.executing_onMessage, hreplies.2] at hexecuting
          simp at hexecuting
    · exact hcancel
  · rintro ⟨client, hclient, hsince⟩
    rw [DriverLabStore.wsClient_onCallback] at hclient
    rw [Machine.since_concat] at hsince
    obtain hexec | ⟨hsince, hquiet⟩ := hsince
    · exact absurd hexec id
    have hexecuting := h.whenever ⟨client, hclient, hsince⟩
    rw [not_or, not_or, not_or] at hquiet
    obtain ⟨hreplies, -, -, hstale⟩ := hquiet
    have hfrom : from_ = client := by
      by_contra hne
      exact hstale hne
    cases callback with
    | opened | failed => exact hexecuting
    | closed => exact absurd hfrom hreplies
    | message data =>
      cases data with
      | none => exact hexecuting
      | some msg =>
        have hopen : isTerminal msg = false := by
          by_contra hne
          exact hreplies ⟨hfrom, Bool.eq_true_of_not_eq_false hne⟩
        show (c.state.onMessage (some msg) now).executing = true
        rw [DriverLabStore.executing_onMessage, hexecuting, hopen]
        rfl

/-- **One step.** -/
theorem FollowsExecs.next {c : Machine.Config DriverLabStore StoreEvent} (h : FollowsExecs c)
    (input : StoreInput) : FollowsExecs (driverLabStore.next c input) := by
  unfold Machine.next driverLabStore
  cases input with
  | connect driverId runMode =>
    constructor
    · exact fun hexecuting => absurd hexecuting Bool.false_ne_true
    · rintro ⟨client, hclient, hsince⟩
      -- the new connection ends whatever was sent before
      obtain hexec | ⟨-, hquiet⟩ := Machine.since_concat.mp hsince
      · exact absurd hexec id
      · exact absurd (.inl trivial) hquiet
  | disconnect =>
    constructor
    · exact fun hexecuting => absurd hexecuting Bool.false_ne_true
    · rintro ⟨client, hclient, -⟩
      exact absurd hclient nofun
  | exec command data isOpen now =>
    dsimp only
    cases hclient : c.state.wsClient with
    | none => exact h.frame rfl rfl (List.append_nil _)
    | some client =>
      constructor
      · intro _
        refine ⟨client, (DriverLabStore.wsClient_execCommand ..).trans hclient, ?_⟩
        exact Machine.since_concat.mpr (.inl rfl)
      · exact fun _ => DriverLabStore.executing_execCommand ..
  | cancel now =>
    dsimp only
    cases hclient : c.state.wsClient with
    | none => exact h.frame rfl rfl (List.append_nil _)
    | some client =>
      constructor
      · intro hexecuting
        rw [DriverLabStore.executing_cancelCommand] at hexecuting
        exact absurd hexecuting Bool.false_ne_true
      · rintro ⟨client', -, hsince⟩
        obtain hexec | ⟨-, hquiet⟩ := Machine.since_concat.mp hsince
        · exact absurd hexec id
        · exact absurd (.inr (.inr (.inl trivial))) hquiet
  | clearMessages => exact h.frame rfl rfl (List.append_nil _)
  | callback from_ callback now =>
    dsimp only
    split_ifs
    · exact h.callback from_ callback now
    · exact h.frame rfl rfl (List.append_nil _)

/-- A callback of a client that is not the current one neither sets `executing` nor changes which
client is the current one. -/
def StaleStartsNothing (c : Machine.Config DriverLabStore StoreEvent) (input : StoreInput) : Prop :=
  ∀ client callback now, input = .callback client callback now → c.state.wsClient ≠ some client →
    (driverLabStore.next c input).state.wsClient = c.state.wsClient ∧
    ((driverLabStore.next c input).state.executing = true → c.state.executing = true)

/-- **In every run**, from a store without a client. -/
theorem executing_follows_execs (inputs : List StoreInput) :
    driverLabStore.EveryState FollowsExecs (Machine.start {}) inputs ∧
      driverLabStore.EveryStep StaleStartsNothing (Machine.start {}) inputs := by
  constructor
  · have hstart : FollowsExecs (Machine.start {}) := by
      constructor
      · exact fun hexecuting => absurd hexecuting Bool.false_ne_true
      · rintro ⟨client, hclient, -⟩
        exact absurd hclient nofun
    exact Machine.everyState_of_invariant FollowsExecs (C := fun _ _ => True)
      (fun c input h _ => h.next input) (fun _ h => h) hstart
      (Machine.everyStep_iff.mpr fun _ _ _ _ => trivial)
  · rw [Machine.everyStep_iff]
    rintro before _ after - client callback now rfl -
    generalize (driverLabStore.run (Machine.start {}) before) = c
    show (driverLabStore.step c.state _).1.wsClient = _ ∧
      ((driverLabStore.step c.state _).1.executing = true → _)
    unfold driverLabStore
    dsimp only
    split_ifs
    · exact ⟨DriverLabStore.wsClient_onCallback callback now c.state,
        DriverLabStore.executing_onCallback⟩
    · exact ⟨rfl, id⟩

/-- `executing` is true exactly while an exec that was sent on the current connection has neither a
reply nor a request error nor a close. -/
def AwaitsReply (c : Machine.Config DriverLabStore StoreEvent) : Prop :=
  c.state.executing = true ↔
    ∃ client, c.state.wsClient = some client ∧
      Machine.Since (StoreEvent.IsSentExec client) (fun e => e.Replies client ∨ e.Fails client)
        c.history

/-- A callback of a client that is not the current one changes nothing. -/
def StaleChangesNothing (c : Machine.Config DriverLabStore StoreEvent) (input : StoreInput) : Prop :=
  ∀ client callback now, input = .callback client callback now → c.state.wsClient ≠ some client →
    (driverLabStore.next c input).state = c.state

/-- Neither is so: an exec that is cancelled is not waited for, and the close of a client that was
replaced is taken for one of the current connection. -/
theorem cancel_ends_executing :
    ¬ driverLabStore.EveryState AwaitsReply (Machine.start {})
        [.connect "d" .oneshot, .callback 0 .opened 1, .exec "run" [] true 2, .cancel 3] ∧
      ¬ driverLabStore.EveryStep StaleChangesNothing (Machine.start {})
        [.connect "d" .oneshot, .connect "e" .oneshot, .callback 0 .closed 1] := by
  constructor
  · rintro ⟨-, -, -, -, hend⟩
    have hexecuting := hend.mpr ⟨0, rfl,
      [.connected 0, .callback 0 .opened], .exec 0 true, [.cancelled 0], rfl, ⟨rfl, rfl⟩, by
        intro e he
        rw [List.mem_singleton.mp he]
        rintro (h | h) <;> exact h⟩
    exact absurd hexecuting (by decide +kernel)
  · rintro ⟨-, -, hstale, -⟩
    have hsame := hstale 0 .closed 1 rfl (by decide)
    have hstatus := congrArg (fun s => s.connection.status) hsame
    exact absurd hstatus (by decide +kernel)

end Stdiolink.Webui
