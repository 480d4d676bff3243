import Mathlib.Logic.Function.Basic
import Signet.Lib.Machine

/-!
# The handler of the SDK

`createSignetHandler` keeps one state variable, one event stream and one request tracker, and the
listeners of all its sockets and its timers work on them. A step is what runs without an await: a
listener, a timer or a call. Each socket keeps the variables its listeners close over.

* `Handler.connectInternal`, `Handler.attemptReconnect`: what listeners, timers and calls share.
* `Handler.onMessage`, `Handler.onClose`, `Handler.onAuthTimeout`: the listeners and the timer of
  one socket.
* `handlerMachine`: the steps in any order that a WebSocket allows. An event of a socket needs a
  socket that has not closed, a message one that is open.
-/

namespace Signet.Sdk

open Lib

inductive HandlerState where
  | disconnected
  | connecting
  | authenticating
  | connected
  | reconnecting
  | closed
  deriving DecidableEq

def nonRetryableCodes : List Nat := [4001, 4002, 4004, 4009]

/-- Whether a close code is retryable. -/
def isRetryable (code : Nat) : Bool :=
  !nonRetryableCodes.contains code

/-- What decides about connections in `SignetHandlerConfig`. -/
structure HandlerConfig where
  /-- `new WebSocket(config.url)` does not throw. -/
  urlValid : Bool
  reconnectEnabled : Bool
  /-- Zero stands for no bound. -/
  maxAttempts : Nat

/-- The `readyState` of a WebSocket. -/
inductive ReadyState where
  | connecting
  | opened
  | closing
  | closed
  deriving DecidableEq

/-- `close` on a WebSocket: the close event comes later. -/
def ReadyState.close : ReadyState → ReadyState
  | .closed => .closed
  | _ => .closing

theorem ReadyState.close_eq_closed_iff {r : ReadyState} : r.close = .closed ↔ r = .closed := by
  cases r <;> simp [ReadyState.close]

theorem ReadyState.close_ne_connecting {r : ReadyState} : r.close ≠ .connecting := by
  cases r <;> nofun

theorem ReadyState.close_eq_closing {r : ReadyState} (h : r.close ≠ .closed) :
    r.close = .closing := by
  cases r <;> first | rfl | exact absurd rfl h

/-- A socket, with the variables of `connectInternal` that its listeners share. -/
structure Socket where
  readyState : ReadyState
  authHandled : Bool
  /-- The timer `authTimeout` is set. -/
  authTimeout : Bool

/-- A frame from the signet, as far as the handler reads it. -/
inductive Frame where
  /-- `JSON.parse` throws. -/
  | invalid
  /-- `type` is a string at that key, `credential` says whether the fields of the credential can be
  read, `requestId` is a string at that key next to a key `ok`. -/
  | json (type : Option String) (credential : Bool) (requestId : Option String)

/-- The variables of `createSignetHandler`. -/
structure Handler where
  state : HandlerState
  ws : Option Nat
  sockets : Nat → Socket
  nextSocket : Nat
  /-- `complete` has been called on the current `eventStream`. -/
  streamComplete : Bool
  /-- The keys of the request tracker's map. -/
  pending : List String
  heartbeatMonitor : Option Nat
  /-- The monitors that have a timer. -/
  running : Nat → Bool
  nextMonitor : Nat
  /-- The `attempt` of the reconnection tracker. -/
  attempt : Nat
  /-- How many timers of `attemptReconnect` are set. -/
  reconnectTimers : Nat
  /-- History: a connection has been attempted. -/
  attempted : Bool

namespace Handler

/-- A handler before the first call. -/
def initial : Handler where
  state := .disconnected
  ws := none
  sockets _ := { readyState := .closed, authHandled := true, authTimeout := false }
  nextSocket := 0
  streamComplete := false
  pending := []
  heartbeatMonitor := none
  running _ := false
  nextMonitor := 0
  attempt := 0
  reconnectTimers := 0
  attempted := false

def setSocket (h : Handler) (i : Nat) (socket : Socket) : Handler :=
  { h with sockets := Function.update h.sockets i socket }

/-- `heartbeatMonitor?.stop()`. -/
def stopMonitor (h : Handler) : Handler :=
  { h with running := fun m => h.running m && h.heartbeatMonitor != some m }

/-- `requestTracker.rejectAll`. -/
def rejectAll (h : Handler) : Handler :=
  { h with pending := [] }

/-- `ws?.close()`. -/
def closeSocket (h : Handler) : Handler :=
  { h with
    sockets := fun i =>
      if h.ws = some i then { h.sockets i with readyState := (h.sockets i).readyState.close }
      else h.sockets i }

theorem setSocket_self (h : Handler) (i : Nat) (socket : Socket) :
    (h.setSocket i socket).sockets i = socket := by
  show Function.update h.sockets i socket i = socket
  rw [Function.update_self]

theorem setSocket_of_ne (h : Handler) {i j : Nat} (hne : j ≠ i) (socket : Socket) :
    (h.setSocket i socket).sockets j = h.sockets j := by
  show Function.update h.sockets i socket j = h.sockets j
  rw [Function.update_of_ne hne]

theorem readyState_closeSocket (h : Handler) (i : Nat) :
    (h.closeSocket.sockets i).readyState =
      if h.ws = some i then (h.sockets i).readyState.close else (h.sockets i).readyState := by
  unfold closeSocket
  dsimp only
  split <;> rfl

theorem authHandled_closeSocket (h : Handler) (i : Nat) :
    (h.closeSocket.sockets i).authHandled = (h.sockets i).authHandled := by
  unfold closeSocket
  dsimp only
  split <;> rfl

/-- `reconnectionTracker.exhausted`. -/
def exhausted (config : HandlerConfig) (h : Handler) : Bool :=
  config.maxAttempts != 0 && decide (config.maxAttempts ≤ h.attempt)

def attemptReconnect (config : HandlerConfig) (h : Handler) : Handler :=
  if !config.reconnectEnabled || h.exhausted config then
    { h with state := .disconnected, streamComplete := true }
  else
    { h with
      state := .reconnecting, attempt := h.attempt + 1, reconnectTimers := h.reconnectTimers + 1 }

/-- Up to the first event of the new socket. Without a valid address the constructor throws. -/
def connectInternal (config : HandlerConfig) (h : Handler) : Handler :=
  let h := { h with state := .connecting, attempted := true }
  if config.urlValid then
    { h with
      ws := some h.nextSocket
      sockets := Function.update h.sockets h.nextSocket
        { readyState := .connecting, authHandled := false, authTimeout := true }
      nextSocket := h.nextSocket + 1 }
  else h

/-! ### Calls -/

def connect (config : HandlerConfig) (h : Handler) : Handler :=
  match h.state with
  | .disconnected => { h with streamComplete := false }.connectInternal config
  -- closed, connected already, or in progress
  | _ => h

def disconnect (h : Handler) : Handler :=
  { h.stopMonitor.rejectAll.closeSocket with
    ws := none, state := .closed, streamComplete := true }

/-- `requestTracker.track`. -/
def track (h : Handler) (requestId : String) : Handler :=
  { h with pending := if requestId ∈ h.pending then h.pending else h.pending ++ [requestId] }

/-- The request methods, up to the response. -/
def sendRequest (h : Handler) (requestId : String) : Handler :=
  if h.state = .connected ∧ h.ws ≠ none then h.track requestId else h

/-- A response takes its request off the tracker, and so does its timeout. -/
def resolve (h : Handler) (requestId : String) : Handler :=
  { h with pending := h.pending.filter (· ≠ requestId) }

/-! ### Listeners of a socket -/

def onOpen (h : Handler) (i : Nat) : Handler :=
  { h.setSocket i { h.sockets i with readyState := .opened } with state := .authenticating }

/-- `authHandled = true; clearTimeout(authTimeout)`. -/
def handleAuth (h : Handler) (i : Nat) : Handler :=
  h.setSocket i { h.sockets i with authHandled := true, authTimeout := false }

/-- A message before the auth response. -/
def onAuthMessage (h : Handler) (i : Nat) : Frame → Handler
  | .invalid =>
    -- the timer is cleared, but `authHandled` stays as it is
    { h.setSocket i { h.sockets i with authTimeout := false } with state := .closed }
  | .json type credential _ =>
    if type = some "authenticated" then
      let h := h.handleAuth i
      if credential then
        { h with
          heartbeatMonitor := some h.nextMonitor
          running := Function.update h.running h.nextMonitor true
          nextMonitor := h.nextMonitor + 1
          attempt := 0
          state := .connected }
      else h
    else if type = some "auth_error" then { h.handleAuth i with state := .closed }
    else h

/-- A message after it. Events and errors are not part of the state. -/
def handleFrame (h : Handler) : Frame → Handler
  | .invalid => h
  | .json type _ requestId =>
    if type = some "backpressure" then h
    else
      match requestId with
      | some id => h.resolve id
      | none => h

def onMessage (h : Handler) (i : Nat) (frame : Frame) : Handler :=
  if (h.sockets i).authHandled then h.handleFrame frame else h.onAuthMessage i frame

def onClose (config : HandlerConfig) (h : Handler) (i : Nat) (code : Nat) : Handler :=
  let left := (h.setSocket i { h.sockets i with readyState := .closed }).stopMonitor
  if (h.sockets i).authHandled = false then
    if isRetryable code = false then { left.handleAuth i with state := .closed }
    else (left.handleAuth i).rejectAll.attemptReconnect config
  else if isRetryable code = false then
    { left.rejectAll with ws := none, state := .closed, streamComplete := true }
  else if h.state ≠ .closed then { left.rejectAll with ws := none }.attemptReconnect config
  else { left.rejectAll with ws := none }

/-! ### Timers -/

def onAuthTimeout (h : Handler) (i : Nat) : Handler :=
  if (h.sockets i).authHandled = false then
    { h.setSocket i ⟨(h.sockets i).readyState.close, true, false⟩ with state := .closed }
  else h.setSocket i { h.sockets i with authTimeout := false }

/-- The timer of `attemptReconnect`; a constructor that throws leads back to it. -/
def onReconnectTimer (config : HandlerConfig) (h : Handler) : Handler :=
  let h := { h with reconnectTimers := h.reconnectTimers - 1 }
  if h.state ≠ .reconnecting then h
  else if config.urlValid then h.connectInternal config
  else (h.connectInternal config).attemptReconnect config

def handleConnectionDead (config : HandlerConfig) (h : Handler) : Handler :=
  let h := h.stopMonitor
  match h.ws with
  | some _ => h.closeSocket
  | none => h.attemptReconnect config

/-- The timer of the monitor `m`. -/
def onHeartbeatDead (config : HandlerConfig) (h : Handler) (m : Nat) : Handler :=
  { h with running := Function.update h.running m false }.handleConnectionDead config

end Handler

/-! ### The machine -/

/-- What may happen to a handler. -/
inductive Event where
  | connect
  | disconnect
  | sendRequest (requestId : String)
  | socketOpen (i : Nat)
  | socketMessage (i : Nat) (frame : Frame)
  | socketClose (i : Nat) (code : Nat)
  | authTimeout (i : Nat)
  | reconnectTimer
  | requestTimeout (requestId : String)
  | heartbeatDead (m : Nat)

/-- The event can happen: the socket is in a state for it, the timer is set. -/
def Handler.Enabled (h : Handler) : Event → Prop
  | .connect | .disconnect | .sendRequest _ => True
  | .socketOpen i => (h.sockets i).readyState = .connecting
  | .socketMessage i _ => (h.sockets i).readyState = .opened
  | .socketClose i _ => (h.sockets i).readyState ≠ .closed
  | .authTimeout i => (h.sockets i).authTimeout = true
  | .reconnectTimer => 0 < h.reconnectTimers
  | .requestTimeout requestId => requestId ∈ h.pending
  | .heartbeatDead m => h.running m = true

instance (h : Handler) : (event : Event) → Decidable (h.Enabled event)
  | .connect | .disconnect | .sendRequest _ => inferInstanceAs (Decidable True)
  | .socketOpen i => inferInstanceAs (Decidable ((h.sockets i).readyState = .connecting))
  | .socketMessage i _ => inferInstanceAs (Decidable ((h.sockets i).readyState = .opened))
  | .socketClose i _ => inferInstanceAs (Decidable ((h.sockets i).readyState ≠ .closed))
  | .authTimeout i => inferInstanceAs (Decidable ((h.sockets i).authTimeout = true))
  | .reconnectTimer => inferInstanceAs (Decidable (0 < h.reconnectTimers))
  | .requestTimeout requestId => inferInstanceAs (Decidable (requestId ∈ h.pending))
  | .heartbeatDead m => inferInstanceAs (Decidable (h.running m = true))

/-- What the event does. -/
def Handler.perform (config : HandlerConfig) (h : Handler) : Event → Handler
  | .connect => h.connect config
  | .disconnect => h.disconnect
  | .sendRequest requestId => h.sendRequest requestId
  | .socketOpen i => h.onOpen i
  | .socketMessage i frame => h.onMessage i frame
  | .socketClose i code => h.onClose config i code
  | .authTimeout i => h.onAuthTimeout i
  | .reconnectTimer => h.onReconnectTimer config
  | .requestTimeout requestId => h.resolve requestId
  | .heartbeatDead m => h.onHeartbeatDead config m

/-- A step of a run. -/
structure Transition where
  before : Handler
  event : Event
  after : Handler

/-- The handler under any order of events. -/
def handlerMachine (config : HandlerConfig) : Machine Handler Event Transition where
  init := .initial
  step h event :=
    if h.Enabled event then
      some (h.perform config event, [⟨h, event, h.perform config event⟩])
    else none

end Signet.Sdk
