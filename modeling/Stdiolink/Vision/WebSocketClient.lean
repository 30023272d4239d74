/-
  Stdiolink.Vision.WebSocketClient — subscriptions over one WebSocket, `websocket_client.cpp`.

  The client of the 3dvision driver keeps its topics while it is not connected and sends them again
  when it is.  `ws.connect` waits in an event loop of its own, in which other commands are handled;
  when it fails, it cleans up with the same `disconnect` as an explicit `ws.disconnect`.

  `QWebSocket` is its states and its signals, which come as events.  Whether closing a socket ends it
  at once and whether an address can be opened at all is part of the event.

  Main results:
    * `step_kept`        — one step keeps the topics that are wanted and those that are told, unless it
      is a `ws.connect` that fails while there are topics;
    * `topics_survive`   — in every run without such a step, the server is told what is wanted.
-/
import Stdiolink.Lib.Machine
import Stdiolink.Protocol.Jsonl

namespace Stdiolink.Vision

open Stdiolink.Lib
open Stdiolink.Protocol
open Stdiolink.Protocol.Json

/-! ## §1. The client -/

/-- `QAbstractSocket::SocketState`, as far as a `QWebSocket` has them. -/
inductive SocketState where
  | unconnected
  | connecting
  | connected
  | closing
  deriving Repr, DecidableEq

/-- The messages that the client sends. -/
inductive WsMessage where
  | sub (topic : String)
  | unsub (topic : String)
  | ping
  deriving Repr, DecidableEq

/-- `WebSocketClient` with its socket.  `m_subscriptions` is a set; its order here is that of the
first insertions. -/
structure WebSocketClient where
  socket : SocketState := .unconnected
  subscriptions : List String := []
  currentUrl : String := ""
  connected : Bool := false
  deriving Repr, DecidableEq

/-- What can be seen from outside: a connection is begun, a message is sent on it, a command is
answered. -/
inductive WsObserved where
  | opened
  | sent (message : WsMessage)
  | wsConnected (url : String)
  | wsSubscribed (topic : String)
  | wsUnsubscribed (topic : String)
  | wsDisconnected
  | refused (message : String)
  deriving Repr, DecidableEq

namespace WebSocketClient

variable (c : WebSocketClient)

/-- `m_socket->close()`: a socket may take its time to close. -/
def closeSocket (atOnce : Bool) : WebSocketClient :=
  if c.socket = .unconnected then c
  else { c with socket := if atOnce then .unconnected else .closing }

/-- `m_socket->open()`: the old socket is left, unless the address is refused. -/
def openSocket (opens : Bool) : WebSocketClient × List WsObserved :=
  if opens then ({ c with socket := .connecting }, [.opened]) else (c, [])

def connectToServer (url : String) (atOnce opens : Bool) : WebSocketClient × List WsObserved :=
  if c.connected ∧ c.currentUrl = url then (c, [])
  else
    let c :=
      if c.socket ≠ .unconnected then { c.closeSocket atOnce with connected := false } else c
    { c with currentUrl := url }.openSocket opens

def disconnect (atOnce : Bool) : WebSocketClient :=
  { { c with subscriptions := [] }.closeSocket atOnce with connected := false, currentUrl := "" }

def send (message : WsMessage) : List WsObserved :=
  if c.socket = .connected then [.sent message] else []

def subscribe (topic : String) : WebSocketClient × List WsObserved :=
  if !c.connected then (c, [])
  else ({ c with subscriptions := c.subscriptions.insert topic }, c.send (.sub topic))

def unsubscribe (topic : String) : WebSocketClient × List WsObserved :=
  if !c.connected then (c, [])
  else ({ c with subscriptions := c.subscriptions.filter (· ≠ topic) }, c.send (.unsub topic))

def sendPing : List WsObserved := if !c.connected then [] else c.send .ping

/-- `onConnected`: the topics are sent again. -/
def onConnected : WebSocketClient × List WsObserved :=
  ({ c with connected := true }, c.subscriptions.flatMap fun topic => c.send (.sub topic))

def onDisconnected : WebSocketClient := { c with connected := false }

end WebSocketClient

/-! ## §2. The commands -/

/-- The wait of `ws.connect`: `success`, `errorMsg`, and whether the loop has been told to quit. -/
structure Wait where
  url : String
  success : Bool := false
  errorMsg : String := ""
  quit : Bool := false
  deriving Repr, DecidableEq

/-- The part of `Vision3DHandler` about the socket; `m_wsConnecting` is that there is a wait. -/
structure Vision3DHandler where
  wsClient : WebSocketClient := {}
  waiting : Option Wait := none
  deriving Repr, DecidableEq

/-- What happens to the handler: commands, signals of the socket, and timers. -/
inductive WsEvent where
  | wsConnect (params : List (String × Json)) (atOnce opens : Bool)
  | wsSubscribe (params : List (String × Json))
  | wsUnsubscribe (params : List (String × Json))
  | wsDisconnect (atOnce : Bool)
  | socketConnected
  | socketClosing
  | socketDisconnected
  | socketError (message : String)
  | heartbeat
  | connectTimeout
  | connectReturns (atOnce : Bool)

namespace Vision3DHandler

variable (h : Vision3DHandler)

def DEFAULT_ADDR : String := "localhost:6100"

def wsUrl (params : List (String × Json)) : String :=
  "ws://" ++ toStrOr DEFAULT_ADDR (value params "addr") ++ "/ws"

/-- `handleWsConnect`, up to the wait. -/
def handleWsConnect (params : List (String × Json)) (atOnce opens : Bool) :
    Vision3DHandler × List WsObserved :=
  if h.waiting.isSome then (h, [.refused "ws.connect already in progress"])
  else if h.wsClient.connected ∧ h.wsClient.currentUrl = wsUrl params then
    (h, [.wsConnected (wsUrl params)])
  else
    let (wsClient, observed) := h.wsClient.connectToServer (wsUrl params) atOnce opens
    ({ wsClient := wsClient, waiting := some { url := wsUrl params } }, observed)

/-- `handleWsConnect` behind the wait. -/
def connectReturns (atOnce : Bool) : Vision3DHandler × List WsObserved :=
  match h.waiting with
  | none => (h, [])
  | some wait =>
    if !wait.quit then (h, [])
    else if wait.success then ({ h with waiting := none }, [.wsConnected wait.url])
    else
      ({ wsClient := h.wsClient.disconnect atOnce, waiting := none }, [.refused wait.errorMsg])

def handleWsSubscribe (params : List (String × Json)) : Vision3DHandler × List WsObserved :=
  if !h.wsClient.connected then (h, [.refused "WebSocket not connected"])
  else
    let topic := toStrOr "vessel.notify" (value params "topic")
    let (wsClient, observed) := h.wsClient.subscribe topic
    ({ h with wsClient := wsClient }, observed ++ [.wsSubscribed topic])

def handleWsUnsubscribe (params : List (String × Json)) : Vision3DHandler × List WsObserved :=
  if !h.wsClient.connected then (h, [.refused "WebSocket not connected"])
  else
    let topic := toStr (value params "topic")
    let (wsClient, observed) := h.wsClient.unsubscribe topic
    ({ h with wsClient := wsClient }, observed ++ [.wsUnsubscribed topic])

def handleWsDisconnect (atOnce : Bool) : Vision3DHandler × List WsObserved :=
  ({ h with wsClient := h.wsClient.disconnect atOnce }, [.wsDisconnected])

/-- The three slots of the wait. -/
def quitWith (f : Wait → Wait) : Vision3DHandler :=
  { h with waiting := h.waiting.map fun wait => { f wait with quit := true } }

/-- One step.  A signal that the socket cannot send in its state, a timer that is not running and a
loop that has not been told to quit do nothing. -/
def step (h : Vision3DHandler) : WsEvent → Vision3DHandler × List WsObserved
  | .wsConnect params atOnce opens => h.handleWsConnect params atOnce opens
  | .wsSubscribe params => h.handleWsSubscribe params
  | .wsUnsubscribe params => h.handleWsUnsubscribe params
  | .wsDisconnect atOnce => h.handleWsDisconnect atOnce
  | .socketConnected =>
    if h.wsClient.socket = .connecting then
      let (wsClient, observed) := { h.wsClient with socket := .connected }.onConnected
      ({ h with wsClient := wsClient }.quitWith fun wait => { wait with success := true }, observed)
    else (h, [])
  | .socketClosing =>
    if h.wsClient.socket = .connected then
      ({ h with wsClient := { h.wsClient with socket := .closing } }, [])
    else (h, [])
  | .socketDisconnected =>
    if h.wsClient.socket ≠ .unconnected then
      ({ h with wsClient := { h.wsClient with socket := .unconnected }.onDisconnected }, [])
    else (h, [])
  | .socketError message => (h.quitWith fun wait => { wait with errorMsg := message }, [])
  | .heartbeat => (h, h.wsClient.sendPing)
  | .connectTimeout =>
    (h.quitWith fun wait => { wait with errorMsg := "WebSocket connect timeout (5s)" }, [])
  | .connectReturns atOnce => h.connectReturns atOnce

/-- The handler as a machine. -/
def machine : Machine Vision3DHandler WsEvent WsObserved where
  step := step

end Vision3DHandler

/-! ## §3. What is wanted and what is told -/

/-- One topic more, or less. -/
def wantedAfter (topics : List String) : WsObserved → List String
  | .wsSubscribed topic => topics.insert topic
  | .wsUnsubscribed topic => topics.filter (· ≠ topic)
  | .wsDisconnected => []
  | _ => topics

/-- **The topics that are wanted**: subscribed and not unsubscribed since the last `ws.disconnect`. -/
def wanted (history : List WsObserved) : List String := history.foldl wantedAfter []

/-- One topic more, or less. -/
def toldAfter (topics : List String) : WsObserved → List String
  | .opened => []
  | .sent (.sub topic) => topics.insert topic
  | .sent (.unsub topic) => topics.filter (· ≠ topic)
  | _ => topics

/-- **The topics that the server has been told** to publish on the current connection. -/
def told (history : List WsObserved) : List String := history.foldl toldAfter []

/-- The handler is connected. -/
def Connected (h : Vision3DHandler) : Prop :=
  h.wsClient.connected = true ∧ h.wsClient.socket = .connected

instance (h : Vision3DHandler) : Decidable (Connected h) := inferInstanceAs (Decidable (_ ∧ _))

/-- **The server is told what is wanted**, while the handler is connected. -/
def TopicsTold (c : Machine.Config Vision3DHandler WsObserved) : Prop :=
  Connected c.state → ∀ topic, topic ∈ told c.history ↔ topic ∈ wanted c.history

/-- A `ws.connect` ends in failure while there are topics. -/
def FailsSubscribed (h : Vision3DHandler) : WsEvent → Prop
  | .connectReturns _ =>
    h.wsClient.subscriptions ≠ [] ∧
      (h.waiting.any fun wait => wait.quit && !wait.success) = true
  | _ => False

instance (h : Vision3DHandler) (event : WsEvent) : Decidable (FailsSubscribed h event) := by
  cases event <;> unfold FailsSubscribed <;> infer_instance

/-- **What one step keeps**: the client has the topics that are wanted; a connection on which nothing
has been sent has told the server nothing, and an established one has told it the topics. -/
structure Kept (c : Machine.Config Vision3DHandler WsObserved) : Prop where
  wanted : ∀ topic, topic ∈ c.state.wsClient.subscriptions ↔ topic ∈ wanted c.history
  fresh : c.state.wsClient.socket = .connecting → told c.history = []
  told : c.state.wsClient.socket = .connected →
    ∀ topic, topic ∈ told c.history ↔ topic ∈ c.state.wsClient.subscriptions

/-! ## §4. One step -/

variable {c : Machine.Config Vision3DHandler WsObserved}

variable {history observed : List WsObserved} {client : WebSocketClient} {atOnce : Bool}

theorem wanted_append :
    wanted (history ++ observed) = observed.foldl wantedAfter (wanted history) :=
  List.foldl_append

theorem told_append : told (history ++ observed) = observed.foldl toldAfter (told history) :=
  List.foldl_append

/-- What says nothing about topics. -/
def WsObserved.Quiet (o : WsObserved) : Prop :=
  ∀ topics, wantedAfter topics o = topics ∧ toldAfter topics o = topics

theorem wanted_append_quiet (h : ∀ o ∈ observed, o.Quiet) :
    wanted (history ++ observed) = wanted history := by
  rw [wanted_append]
  induction observed with
  | nil => rfl
  | cons o os ih =>
    rw [List.foldl_cons, (h o List.mem_cons_self _).1]
    exact ih fun o ho => h o (List.mem_cons_of_mem _ ho)

theorem told_append_quiet (h : ∀ o ∈ observed, o.Quiet) :
    told (history ++ observed) = told history := by
  rw [told_append]
  induction observed with
  | nil => rfl
  | cons o os ih =>
    rw [List.foldl_cons, (h o List.mem_cons_self _).2]
    exact ih fun o ho => h o (List.mem_cons_of_mem _ ho)

/-- A step that leaves the topics alone, says nothing about them, and leaves the socket or ends its
connection. -/
theorem kept_frame (hk : Kept c) {h' : Vision3DHandler}
    (hsubs : h'.wsClient.subscriptions = c.state.wsClient.subscriptions)
    (hsocket : h'.wsClient.socket = c.state.wsClient.socket ∨
      h'.wsClient.socket = .closing ∨ h'.wsClient.socket = .unconnected)
    (hquiet : ∀ o ∈ observed, o.Quiet) : Kept ⟨h', c.history ++ observed⟩ := by
  have hold : ∀ {socket : SocketState}, socket = .connecting ∨ socket = .connected →
      h'.wsClient.socket = socket → c.state.wsClient.socket = socket := by
    rintro socket hsocket' rfl
    rcases hsocket with hsame | hend | hend
    · exact hsame.symm
    · rw [hend] at hsocket'
      rcases hsocket' with h | h <;> contradiction
    · rw [hend] at hsocket'
      rcases hsocket' with h | h <;> contradiction
  refine ⟨?_, ?_, ?_⟩
  · show ∀ topic, topic ∈ h'.wsClient.subscriptions ↔ topic ∈ wanted (c.history ++ observed)
    rw [hsubs, wanted_append_quiet hquiet]
    exact hk.wanted
  · show h'.wsClient.socket = .connecting → told (c.history ++ observed) = []
    rw [told_append_quiet hquiet]
    exact fun h => hk.fresh (hold (.inl rfl) h)
  · show h'.wsClient.socket = .connected → ∀ topic, topic ∈ told (c.history ++ observed) ↔
      topic ∈ h'.wsClient.subscriptions
    rw [hsubs, told_append_quiet hquiet]
    exact fun h => hk.told (hold (.inr rfl) h)

theorem quiet_refused {message : String} : (WsObserved.refused message).Quiet :=
  fun _ => ⟨rfl, rfl⟩

theorem quiet_wsConnected {url : String} : (WsObserved.wsConnected url).Quiet :=
  fun _ => ⟨rfl, rfl⟩

theorem quiet_ping : (WsObserved.sent .ping).Quiet := fun _ => ⟨rfl, rfl⟩

/-- Closing leaves no socket that connects or is connected. -/
theorem closeSocket_socket :
    (client.closeSocket atOnce).socket = .closing ∨
      (client.closeSocket atOnce).socket = .unconnected := by
  unfold WebSocketClient.closeSocket
  by_cases hsocket : client.socket = .unconnected
  · rw [if_pos hsocket]
    exact .inr hsocket
  · rw [if_neg hsocket]
    cases atOnce
    · exact .inl rfl
    · exact .inr rfl

@[simp] theorem closeSocket_subscriptions :
    (client.closeSocket atOnce).subscriptions = client.subscriptions := by
  unfold WebSocketClient.closeSocket
  split <;> rfl

@[simp] theorem disconnect_subscriptions : (client.disconnect atOnce).subscriptions = [] := by
  unfold WebSocketClient.disconnect
  simp

theorem disconnect_socket (client : WebSocketClient) (atOnce : Bool) :
    (client.disconnect atOnce).socket = .closing ∨
      (client.disconnect atOnce).socket = .unconnected :=
  closeSocket_socket

/-- An ended connection is neither begun nor established. -/
theorem ended_socket {socket : SocketState} (h : socket = .closing ∨ socket = .unconnected) :
    socket ≠ .connecting ∧ socket ≠ .connected := by
  rcases h with rfl | rfl <;> exact ⟨by decide, by decide⟩

/-- A disconnect keeps what is wanted, if nothing is. -/
theorem kept_disconnect {waiting : Option Wait} (hwanted : wanted history = []) :
    Kept ⟨⟨client.disconnect atOnce, waiting⟩, history⟩ := by
  have hend := ended_socket (disconnect_socket client atOnce)
  refine ⟨?_, fun h => absurd h hend.1, fun h => absurd h hend.2⟩
  show ∀ topic, topic ∈ (client.disconnect atOnce).subscriptions ↔ topic ∈ wanted history
  rw [disconnect_subscriptions, hwanted]
  exact fun _ => Iff.rfl

/-- A new connection has told the server nothing. -/
theorem kept_opened (hk : Kept c) {waiting : Option Wait}
    (hsubs : client.subscriptions = c.state.wsClient.subscriptions)
    (hsocket : client.socket = .connecting) :
    Kept ⟨⟨client, waiting⟩, c.history ++ [.opened]⟩ := by
  refine ⟨?_, ?_, ?_⟩
  · show ∀ topic, topic ∈ client.subscriptions ↔ topic ∈ wanted (c.history ++ [.opened])
    rw [hsubs, wanted_append]
    exact hk.wanted
  · intro _
    show told (c.history ++ [.opened]) = []
    rw [told_append]
    rfl
  · show client.socket = .connected → _
    rw [hsocket]
    exact fun h => absurd h (by decide)

/-- `ws.connect` keeps the topics over a change of address. -/
theorem kept_handleWsConnect (hk : Kept c) (params : List (String × Json)) (atOnce opens : Bool) :
    Kept (Vision3DHandler.machine.next c (.wsConnect params atOnce opens)) := by
  show Kept ⟨(c.state.handleWsConnect params atOnce opens).1,
    c.history ++ (c.state.handleWsConnect params atOnce opens).2⟩
  unfold Vision3DHandler.handleWsConnect
  split
  · exact kept_frame hk rfl (.inl rfl) (by simp [quiet_refused])
  · split
    · exact kept_frame hk rfl (.inl rfl) (by simp [quiet_wsConnected])
    · rename_i hother
      unfold WebSocketClient.connectToServer
      rw [if_neg hother]
      -- the address is another one: the old connection is closed, and the new one is begun
      by_cases hsocket : c.state.wsClient.socket = .unconnected
      · rw [if_neg (by simpa using hsocket)]
        unfold WebSocketClient.openSocket
        cases opens
        · exact kept_frame hk rfl (.inl rfl) (by simp)
        · exact kept_opened hk rfl rfl
      · rw [if_pos hsocket]
        unfold WebSocketClient.openSocket
        cases opens
        · exact kept_frame hk closeSocket_subscriptions (.inr closeSocket_socket) (by simp)
        · exact kept_opened hk closeSocket_subscriptions rfl

/-- What `ws.subscribe` does once the client is connected. -/
theorem handleWsSubscribe_connected {h : Vision3DHandler} {params : List (String × Json)}
    (hconnected : h.wsClient.connected = true) :
    h.handleWsSubscribe params =
      let topic := toStrOr "vessel.notify" (value params "topic")
      ({ h with wsClient :=
          { h.wsClient with subscriptions := h.wsClient.subscriptions.insert topic } },
        h.wsClient.send (.sub topic) ++ [.wsSubscribed topic]) := by
  unfold Vision3DHandler.handleWsSubscribe WebSocketClient.subscribe
  simp [hconnected]

/-- What `ws.unsubscribe` does then. -/
theorem handleWsUnsubscribe_connected {h : Vision3DHandler} {params : List (String × Json)}
    (hconnected : h.wsClient.connected = true) :
    h.handleWsUnsubscribe params =
      let topic := toStr (value params "topic")
      ({ h with wsClient :=
          { h.wsClient with subscriptions := h.wsClient.subscriptions.filter (· ≠ topic) } },
        h.wsClient.send (.unsub topic) ++ [.wsUnsubscribed topic]) := by
  unfold Vision3DHandler.handleWsUnsubscribe WebSocketClient.unsubscribe
  simp [hconnected]

/-- A message about topics that changes the topics and what the server is told in one way. -/
theorem kept_send (hk : Kept c) (edit : List String → List String) {message : WsMessage}
    {answer : WsObserved}
    (hedit : ∀ {topics topics' : List String}, (∀ topic, topic ∈ topics ↔ topic ∈ topics') →
      ∀ topic, topic ∈ edit topics ↔ topic ∈ edit topics')
    (hsent : ∀ topics, wantedAfter topics (.sent message) = topics ∧
      toldAfter topics (.sent message) = edit topics)
    (hanswer : ∀ topics, wantedAfter topics answer = edit topics ∧
      toldAfter topics answer = topics) :
    Kept ⟨{ c.state with wsClient :=
        { c.state.wsClient with subscriptions := edit c.state.wsClient.subscriptions } },
      c.history ++ (c.state.wsClient.send message ++ [answer])⟩ := by
  unfold WebSocketClient.send
  refine ⟨fun other => ?_, fun hsocket => ?_, fun hsocket other => ?_⟩
  · show other ∈ edit _ ↔ _
    rw [hedit hk.wanted, wanted_append, List.foldl_append]
    split_ifs <;> simp [(hsent _).1, (hanswer _).1]
  · have hsocket : c.state.wsClient.socket = .connecting := hsocket
    show told (c.history ++ _) = []
    rw [told_append, if_neg (by rw [hsocket]; decide)]
    simp [(hanswer _).2, hk.fresh hsocket]
  · have hsocket : c.state.wsClient.socket = .connected := hsocket
    show other ∈ told (c.history ++ _) ↔ other ∈ edit _
    rw [told_append, if_pos hsocket, ← hedit (hk.told hsocket)]
    simp [(hsent _).2, (hanswer _).2]

/-- A subscription is kept, and told if the connection is established. -/
theorem kept_handleWsSubscribe (hk : Kept c) (params : List (String × Json)) :
    Kept (Vision3DHandler.machine.next c (.wsSubscribe params)) := by
  show Kept ⟨(c.state.handleWsSubscribe params).1,
    c.history ++ (c.state.handleWsSubscribe params).2⟩
  by_cases hconnected : c.state.wsClient.connected = true
  · rw [handleWsSubscribe_connected hconnected]
    apply kept_send hk (·.insert _) _ (fun _ => ⟨rfl, rfl⟩) fun _ => ⟨rfl, rfl⟩
    intro topics topics' hsame topic
    rw [List.mem_insert_iff, List.mem_insert_iff, hsame]
  · unfold Vision3DHandler.handleWsSubscribe
    rw [if_pos (by simpa using hconnected)]
    exact kept_frame hk rfl (.inl rfl) (by simp [quiet_refused])

/-- So is the end of one. -/
theorem kept_handleWsUnsubscribe (hk : Kept c) (params : List (String × Json)) :
    Kept (Vision3DHandler.machine.next c (.wsUnsubscribe params)) := by
  show Kept ⟨(c.state.handleWsUnsubscribe params).1,
    c.history ++ (c.state.handleWsUnsubscribe params).2⟩
  by_cases hconnected : c.state.wsClient.connected = true
  · rw [handleWsUnsubscribe_connected hconnected]
    apply kept_send hk (·.filter _) _ (fun _ => ⟨rfl, rfl⟩) fun _ => ⟨rfl, rfl⟩
    intro topics topics' hsame topic
    rw [List.mem_filter, List.mem_filter, hsame]
  · unfold Vision3DHandler.handleWsUnsubscribe
    rw [if_pos (by simpa using hconnected)]
    exact kept_frame hk rfl (.inl rfl) (by simp [quiet_refused])

/-- What the topics that are sent again tell the server. -/
theorem mem_told_replay {topics acc : List String} {topic : String} :
    topic ∈ (topics.flatMap fun t => [WsObserved.sent (.sub t)]).foldl toldAfter acc ↔
      topic ∈ topics ∨ topic ∈ acc := by
  induction topics generalizing acc with
  | nil => simp
  | cons t ts ih =>
    rw [List.flatMap_cons, List.foldl_append, ih]
    show topic ∈ ts ∨ topic ∈ acc.insert t ↔ _
    rw [List.mem_insert_iff, List.mem_cons]
    tauto

/-- Topics that are sent again are wanted as before. -/
theorem wanted_replay {topics acc : List String} :
    (topics.flatMap fun t => [WsObserved.sent (.sub t)]).foldl wantedAfter acc = acc := by
  induction topics with
  | nil => rfl
  | cons t ts ih =>
    rw [List.flatMap_cons, List.foldl_append]
    exact ih

/-- **Once the connection is established, all the topics are told.** -/
theorem kept_socketConnected (hk : Kept c) :
    Kept (Vision3DHandler.machine.next c .socketConnected) := by
  show Kept ⟨(c.state.step .socketConnected).1, c.history ++ (c.state.step .socketConnected).2⟩
  unfold Vision3DHandler.step
  by_cases hsocket : c.state.wsClient.socket = .connecting
  · rw [if_pos hsocket]
    refine ⟨fun topic => ?_, fun h => ?_, fun _ topic => ?_⟩
    · show topic ∈ c.state.wsClient.subscriptions ↔ topic ∈ wanted (c.history ++
        c.state.wsClient.subscriptions.flatMap fun t => [WsObserved.sent (.sub t)])
      rw [wanted_append, wanted_replay]
      exact hk.wanted topic
    · have h : SocketState.connected = .connecting := h
      contradiction
    · show topic ∈ told (c.history ++
        c.state.wsClient.subscriptions.flatMap fun t => [WsObserved.sent (.sub t)]) ↔
        topic ∈ c.state.wsClient.subscriptions
      rw [told_append, mem_told_replay, hk.fresh hsocket]
      simp
  · rw [if_neg hsocket]
    exact kept_frame hk rfl (.inl rfl) (by simp)

/-- The end of the wait keeps the topics, unless it is a failure and there are some. -/
theorem kept_connectReturns (hk : Kept c)
    (hcond : ¬ FailsSubscribed c.state (.connectReturns atOnce)) :
    Kept (Vision3DHandler.machine.next c (.connectReturns atOnce)) := by
  show Kept ⟨(c.state.connectReturns atOnce).1, c.history ++ (c.state.connectReturns atOnce).2⟩
  unfold Vision3DHandler.connectReturns
  cases hwaiting : c.state.waiting with
  | none => exact kept_frame hk rfl (.inl rfl) (by simp)
  | some wait =>
    by_cases hquit : wait.quit = true
    · by_cases hsuccess : wait.success = true
      · simp only [hquit, hsuccess, Bool.not_true, Bool.false_eq_true, if_false, if_true]
        exact kept_frame hk rfl (.inl rfl) (by simp [quiet_wsConnected])
      · have hsubs : c.state.wsClient.subscriptions = [] := by
          by_contra hne
          refine hcond ⟨hne, ?_⟩
          rw [hwaiting]
          simp [hquit, hsuccess]
        simp only [hquit, hsuccess, Bool.not_true, Bool.false_eq_true, if_false]
        refine kept_disconnect ?_
        rw [wanted_append_quiet (by simp [quiet_refused])]
        refine List.eq_nil_iff_forall_not_mem.mpr fun topic hmem => ?_
        have hmem := (hk.wanted topic).mpr hmem
        rw [hsubs] at hmem
        exact List.not_mem_nil hmem
    · simp only [hquit, Bool.not_false, if_true]
      exact kept_frame hk rfl (.inl rfl) (by simp)

/-- **One step** keeps the topics, unless it is a `ws.connect` that fails while there are some. -/
theorem step_kept (hk : Kept c) {event : WsEvent} (hcond : ¬ FailsSubscribed c.state event) :
    Kept (Vision3DHandler.machine.next c event) := by
  cases event with
  | wsConnect params atOnce opens => exact kept_handleWsConnect hk params atOnce opens
  | wsSubscribe params => exact kept_handleWsSubscribe hk params
  | wsUnsubscribe params => exact kept_handleWsUnsubscribe hk params
  | wsDisconnect atOnce =>
    refine kept_disconnect ?_
    rw [wanted_append]
    rfl
  | socketConnected => exact kept_socketConnected hk
  | socketClosing =>
    show Kept ⟨(c.state.step .socketClosing).1, c.history ++ (c.state.step .socketClosing).2⟩
    simp only [Vision3DHandler.step]
    split
    · exact kept_frame hk rfl (.inr (.inl rfl)) (by simp)
    · exact kept_frame hk rfl (.inl rfl) (by simp)
  | socketDisconnected =>
    show Kept ⟨(c.state.step .socketDisconnected).1,
      c.history ++ (c.state.step .socketDisconnected).2⟩
    simp only [Vision3DHandler.step]
    split
    · exact kept_frame hk rfl (.inr (.inr rfl)) (by simp)
    · exact kept_frame hk rfl (.inl rfl) (by simp)
  | socketError message => exact kept_frame hk rfl (.inl rfl) (List.forall_mem_nil _)
  | heartbeat =>
    refine kept_frame hk rfl (.inl rfl) ?_
    show ∀ o ∈ c.state.wsClient.sendPing, o.Quiet
    unfold WebSocketClient.sendPing WebSocketClient.send
    split
    · simp
    · split
      · simp [quiet_ping]
      · simp
  | connectTimeout => exact kept_frame hk rfl (.inl rfl) (List.forall_mem_nil _)
  | connectReturns atOnce => exact kept_connectReturns hk hcond

/-! ## §5. Every run -/

/-- The client has no topics before the first command. -/
theorem kept_start : Kept (Machine.start {}) where
  wanted := fun _ => Iff.rfl
  fresh := fun _ => rfl
  told := fun _ _ => Iff.rfl

theorem Kept.topicsTold (hk : Kept c) : TopicsTold c :=
  fun hconnected topic => (hk.told hconnected.2 topic).trans (hk.wanted topic)

/-- **Subscriptions survive reconnects**: in every run in which no `ws.connect` fails while there are
topics, the server has been told the wanted topics in every state in which the client is connected. -/
theorem topics_survive {events : List WsEvent}
    (hcond : Vision3DHandler.machine.EveryStep (fun c event => ¬ FailsSubscribed c.state event)
      (Machine.start {}) events) :
    Vision3DHandler.machine.EveryState TopicsTold (Machine.start {}) events :=
  Machine.everyState_of_invariant Kept (fun _ _ hk hcond => step_kept hk hcond)
    (fun _ hk => hk.topicsTold) kept_start hcond

/-- `ws.connect` to an address that opens. -/
def connectTo (addr : String) : WsEvent := .wsConnect [("addr", str addr)] true true

/-- A topic is subscribed at one address, the connection drops, and another address is connected. -/
def switchedEvents : List WsEvent :=
  [connectTo "one", .socketConnected, .connectReturns true, .wsSubscribe [],
    .socketDisconnected, connectTo "two", .socketConnected, .connectReturns true]

/-- The topic is told at the second address. -/
theorem switched_told : Vision3DHandler.machine.EveryState TopicsTold (Machine.start {}) switchedEvents :=
  topics_survive (by
    unfold switchedEvents
    refine ⟨?_, ?_, ?_, ?_, ?_, ?_, ?_, ?_, trivial⟩ <;> decide)

/-- A topic is subscribed at one address, another address does not answer, and the first one is
connected again. -/
def timedOutEvents : List WsEvent :=
  [connectTo "one", .socketConnected, .connectReturns true, .wsSubscribe [],
    connectTo "two", .connectTimeout, .connectReturns true,
    connectTo "one", .socketConnected, .connectReturns true]

/-- The topic that was never unsubscribed is not told any more. -/
theorem timed_out_forgotten :
    (wanted (Vision3DHandler.machine.run (Machine.start {}) timedOutEvents).history =
        ["vessel.notify"] ∧
      told (Vision3DHandler.machine.run (Machine.start {}) timedOutEvents).history = []) ∧
      ¬ Vision3DHandler.machine.EveryState TopicsTold (Machine.start {}) timedOutEvents := by
  have hwanted : wanted (Vision3DHandler.machine.run (Machine.start {}) timedOutEvents).history =
      ["vessel.notify"] := by decide
  have htold : told (Vision3DHandler.machine.run (Machine.start {}) timedOutEvents).history = [] := by
    decide
  refine ⟨⟨hwanted, htold⟩, fun h => ?_⟩
  have hlast := h.last (by decide) "vessel.notify"
  rw [hwanted, htold] at hlast
  exact List.not_mem_nil (hlast.mpr List.mem_cons_self)

end Stdiolink.Vision
