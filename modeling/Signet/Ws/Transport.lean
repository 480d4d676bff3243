import Signet.Lib.Emits
import Signet.Lib.OrdMap
import Signet.Schemas.Credential
import Signet.Ws.ReplayBuffer

/-!
# The transport of the WebSocket server

`createWsServer` frame by frame: the connections with their phases and timers, the registry,
the replay state of the credentials, and the frames that are sent, interleaved at every await.
What the environment answers is part of the actions.

Promises are numbered in the order in which they are started. A credential record is kept with
the number of the lookup that returned it (`Snapshot`), and a broadcast has a number of its own.

`ws.send` always takes the frame if the socket is open, so there is no backpressure, and the
server is not stopped. Whether `ws.close` runs the `close` callback at once or later is left
open (`TransportConfig`). Lookups and projections answer anything here; `Ws/Server` is the same
server over the credential service and the projector, without the frames.
-/

namespace Signet.Ws

open Lib

/-! ### Connections -/

inductive ConnectionPhase where
  | authenticating
  | active
  | draining
  | closed
  deriving DecidableEq

def ConnectionPhase.validTransitions : ConnectionPhase → List ConnectionPhase
  | authenticating => [active, closed]
  | active => [draining, closed]
  | draining => [closed]
  | closed => []

/-- A credential record and the lookup that returned it. -/
structure Snapshot where
  record : CredentialRecord
  lookup : Nat
  deriving DecidableEq

structure ConnectionData where
  phase : ConnectionPhase
  /-- Neither `ws.close` has been called nor has the peer gone. -/
  socketOpen : Bool
  credentialRecord : Option Snapshot
  credentialId : Option String
  credentialReplayState : Option String
  authTimer : Bool
  heartbeatTimer : Option Nat
  inFlightRequests : OrdMap String Nat

namespace ConnectionData

/-- `createConnectionState`. -/
def create : ConnectionData :=
  ⟨.authenticating, true, none, none, none, true, none, .empty⟩

/-- `transition`: an invalid one is ignored. -/
def transition (d : ConnectionData) (target : ConnectionPhase) : ConnectionData :=
  if target ∈ d.phase.validTransitions then { d with phase := target } else d

end ConnectionData

/-! ### Frames -/

/-- `WS_CLOSE_CODES`, those that the server uses here. -/
inductive CloseCode where
  | authFailed
  | authTimeout
  | credentialExpired
  | credentialRevoked
  | policyChange
  | deadConnection
  | rateLimited
  | protocolError
  deriving DecidableEq

def CloseCode.code : CloseCode → Nat
  | authFailed => 4001
  | authTimeout => 4002
  | credentialExpired => 4003
  | credentialRevoked => 4004
  | policyChange => 4005
  | deadConnection => 4010
  | rateLimited => 1008
  | protocolError => 4009

def closeCodeOf : CredentialStatus → CloseCode
  | .revoked => .credentialRevoked
  | .expired => .credentialExpired
  | _ => .policyChange

/-- How a request is answered. -/
inductive RequestReply where
  | routed
  | invalidFrame
  | timedOut
  | internalError
  deriving DecidableEq

inductive ServerFrame where
  | authError (code : Nat) (message : String)
  | authenticated (credential : Snapshot) (fingerprint : String) (resumedFromSeq : Option Nat)
  | sequenced (frame : SequencedFrame)
  | response (requestId : String) (reply : RequestReply)
  deriving DecidableEq

/-- What happens on the connections. -/
inductive NetEvent where
  /-- `ws.send` on an open socket. -/
  | sent (connectionId : Nat) (frame : ServerFrame)
  /-- `ws.close`. -/
  | closing (connectionId : Nat) (code : CloseCode)
  /-- The `close` callback. -/
  | closed (connectionId : Nat)
  /-- Authentication binds the connection to a credential. -/
  | accepted (connectionId lookup : Nat) (credentialId : String) (lastSeenSeq : Option Nat)
  /-- `ws.data.credentialRecord` is set to the answer of a lookup. -/
  | cached (connectionId lookup : Nat)
  /-- A frame gets its number and goes into the replay buffer. -/
  | sequenced (credentialId : String) (frame : SequencedFrame)
  /-- A broadcast for the credential is projected for an open socket, with the record of a
  lookup. -/
  | projected (connectionId : Nat) (credentialId : String) (broadcast lookup : Nat)
  deriving DecidableEq

/-! ### The network -/

structure TransportConfig where
  replayBufferSize : ℕ+
  /-- `ws.close` runs the `close` callback before it returns. -/
  closesInline : Bool

/-- The connections, with what is kept for them. -/
structure Net where
  connections : OrdMap Nat ConnectionData
  connectionCounter : Nat
  /-- `ConnectionRegistry`. -/
  registry : OrdMap Nat Unit
  credentialStates : OrdMap String CredentialReplayState
  /-- The live heartbeat timers and their connections. -/
  heartbeatTimers : OrdMap Nat Nat
  /-- The live request timers, with connection and request id. -/
  requestTimers : OrdMap Nat (Nat × String)

namespace Net

def empty : Net :=
  ⟨.empty, 0, .empty, .empty, .empty, .empty⟩

variable (net : Net)

def modify (connectionId : Nat) (f : ConnectionData → ConnectionData) : Net :=
  match net.connections.get? connectionId with
  | none => net
  | some d => { net with connections := net.connections.set connectionId (f d) }

def isOpen (connectionId : Nat) : Bool :=
  (net.connections.get? connectionId).any (·.socketOpen)

/-- The replay state of a credential, a new one if it has none. -/
def getOrCreateCredentialState (cfg : TransportConfig) (credentialId : String) :
    CredentialReplayState :=
  (net.credentialStates.get? credentialId).getD (.new cfg.replayBufferSize)

def getByCredentialId (credentialId : String) : List Nat :=
  net.registry.keys.filter fun connectionId =>
    (net.connections.get? connectionId).any fun d => d.credentialId = some credentialId

/-! #### Sending and closing -/

def opened : Emits Net NetEvent := fun net =>
  ({ net with
      connections := net.connections.set net.connectionCounter .create
      connectionCounter := net.connectionCounter + 1 }, [])

def clearAuthTimer (connectionId : Nat) : Emits Net NetEvent := fun net =>
  (net.modify connectionId fun d => { d with authTimer := false }, [])

def sendJson (connectionId : Nat) (frame : ServerFrame) : Emits Net NetEvent := fun net =>
  (net, if net.isOpen connectionId then [.sent connectionId frame] else [])

def sendSequenced (connectionId : Nat) (e : SourcedEvent) : Emits Net NetEvent := fun net =>
  match (net.connections.get? connectionId).bind (·.credentialReplayState) with
  | none => (net, [])
  | some credentialId =>
    match net.credentialStates.get? credentialId with
    | none => (net, [])
    | some st =>
      ({ net with
          credentialStates := net.credentialStates.set credentialId (st.sequenceEvent e) },
        .sequenced credentialId (st.frame e) ::
          if net.isOpen connectionId then [.sent connectionId (.sequenced (st.frame e))] else [])

def cleanupConnection (connectionId : Nat) : Emits Net NetEvent := fun net =>
  match net.connections.get? connectionId with
  | none => (net, [])
  | some d =>
    ({ net with
        connections := net.connections.set connectionId
          (ConnectionData.transition
            { d with
              socketOpen := false, authTimer := false, heartbeatTimer := none
              inFlightRequests := .empty }
            .closed)
        registry := net.registry.erase connectionId
        heartbeatTimers :=
          match d.heartbeatTimer with
          | some timer => net.heartbeatTimers.erase timer
          | none => net.heartbeatTimers
        requestTimers := d.inFlightRequests.values.foldl OrdMap.erase net.requestTimers },
      [.closed connectionId])

/-- `ws.close`, of a socket that is not closed yet. -/
def closeSocket (cfg : TransportConfig) (connectionId : Nat) (code : CloseCode) :
    Emits Net NetEvent := fun net =>
  if net.isOpen connectionId then
    let closing := net.modify connectionId fun d => { d with socketOpen := false }
    if cfg.closesInline then
      let cleaned := cleanupConnection connectionId closing
      (cleaned.1, .closing connectionId code :: cleaned.2)
    else (closing, [.closing connectionId code])
  else (net, [])

/-! #### Records and heartbeats -/

/-- `ws.data.credentialRecord = …`. -/
def setRecord (connectionId : Nat) (credential : Snapshot) : Emits Net NetEvent := fun net =>
  (net.modify connectionId fun d => { d with credentialRecord := some credential },
    [.cached connectionId credential.lookup])

def stopHeartbeat (connectionId : Nat) : Emits Net NetEvent := fun net =>
  match net.connections.get? connectionId with
  | none => (net, [])
  | some d =>
    match d.heartbeatTimer with
    | none => (net, [])
    | some timer =>
      ({ net with
          connections := net.connections.set connectionId { d with heartbeatTimer := none }
          heartbeatTimers := net.heartbeatTimers.erase timer }, [])

def startHeartbeat (connectionId timer : Nat) : Emits Net NetEvent := fun net =>
  match net.connections.get? connectionId with
  | none => (net, [])
  | some d =>
    match d.credentialRecord with
    | none => (net, [])
    | some _ =>
      ({ net with
          connections := net.connections.set connectionId { d with heartbeatTimer := some timer }
          heartbeatTimers := net.heartbeatTimers.set timer connectionId }, [])

/-- `handleAuthFrame` from the accepted lookup up to `registry.add`. -/
def accept (cfg : TransportConfig) (connectionId : Nat) (credential : Snapshot)
    (lastSeenSeq : Option Nat) : Emits Net NetEvent := fun net =>
  let credentialId := credential.record.credentialId
  match net.connections.get? connectionId with
  | none => (net, [])
  | some d =>
    ({ net with
        connections := net.connections.set connectionId
          { (ConnectionData.transition
              { d with credentialRecord := some credential, credentialId := some credentialId }
              .active) with
            credentialReplayState := some credentialId }
        registry := net.registry.set connectionId ()
        credentialStates := net.credentialStates.set credentialId
          (net.getOrCreateCredentialState cfg credentialId) },
      [.accepted connectionId credential.lookup credentialId lastSeenSeq,
        .cached connectionId credential.lookup])

/-! #### Requests -/

def beginRequest (connectionId timer : Nat) (requestId : String) : Emits Net NetEvent := fun net =>
  ({ net.modify connectionId fun d =>
      { d with inFlightRequests := d.inFlightRequests.set requestId timer } with
      requestTimers := net.requestTimers.set timer (connectionId, requestId) }, [])

/-- The request is answered, unless it is not in flight any more. -/
def endRequest (connectionId : Nat) (requestId : String) (reply : RequestReply) :
    Emits Net NetEvent := fun net =>
  match (net.connections.get? connectionId).bind (·.inFlightRequests.get? requestId) with
  | none => (net, [])
  | some timer =>
    sendJson connectionId (.response requestId reply)
      { net.modify connectionId fun d =>
          { d with inFlightRequests := d.inFlightRequests.erase requestId } with
        requestTimers := net.requestTimers.erase timer }

def timeoutRequest (connectionId timer : Nat) (requestId : String) : Emits Net NetEvent :=
  fun net =>
    sendJson connectionId (.response requestId .timedOut)
      { net.modify connectionId fun d =>
          { d with inFlightRequests := d.inFlightRequests.erase requestId } with
        requestTimers := net.requestTimers.erase timer }

end Net

/-! ### The server -/

/-- How a lookup ends. -/
inductive LookupAnswer where
  | ok (record : CredentialRecord)
  | err (message : String)
  /-- The promise rejects. -/
  | rejected
  deriving DecidableEq

/-- `projectEvent`, as it answers in one segment; without a projector every event passes. -/
abbrev Projector := SignetEvent → CredentialRecord → Option SignetEvent

/-- An event that `broadcast` was called with; broadcasts are numbered. -/
structure Broadcast where
  number : Nat
  event : SignetEvent
  deriving DecidableEq

/-- An entry of `pendingInvalidations`. -/
structure PendingInvalidation where
  refcount : Nat
  generation : Nat
  events : List Broadcast

structure AuthFrame where
  token : String
  lastSeenSeq : Option Nat

/-- What `HarnessRequest.safeParse` makes of a frame. -/
inductive RequestFrame where
  /-- `mutating`: the type is `update_scopes` or `reveal_content`. -/
  | request (requestId : String) (mutating : Bool)
  | invalid (requestId : Option String)

/-- A call that awaits the promise whose number it has. -/
inductive TransportCall where
  /-- `handleAuthFrame` awaits `tokenLookup`. -/
  | authenticating (connectionId : Nat) (lastSeenSeq : Option Nat)
  /-- `handleAuthFrame` awaits `fingerprintToken`. -/
  | fingerprinting (connectionId : Nat) (credential : Snapshot)
      (resume : CredentialReplayState.Resume)
  /-- A heartbeat awaits `credentialLookup`. -/
  | heartbeat (connectionId : Nat)
  /-- `handleRequestFrame` awaits `credentialLookup`. -/
  | requesting (connectionId : Nat) (frame : RequestFrame)
  /-- `handleRequestFrame` awaits `routeRequest`. -/
  | routing (connectionId : Nat) (requestId : String) (mutating : Bool)
  /-- `handleRequestFrame` awaits the `credentialLookup` after a mutating request. -/
  | resyncing (connectionId : Nat) (requestId : String)
  /-- `invalidateCredential` awaits `credentialLookup`. -/
  | invalidating (credentialId : String) (generation : Nat)

inductive TransportAction where
  /-- A socket is opened. -/
  | connect
  | authTimeout (connectionId : Nat)
  /-- A message in the authenticating phase: an auth frame or something else. -/
  | authFrame (connectionId : Nat) (frame : Option AuthFrame)
  /-- A message in the active phase. -/
  | requestFrame (connectionId : Nat) (frame : RequestFrame)
  /-- A message that the server closes the socket on: no JSON, or too many of them. -/
  | refuse (connectionId : Nat) (code : CloseCode)
  | looked (call : Nat) (answer : LookupAnswer) (project : Projector)
  /-- `fingerprintToken` returns. -/
  | fingerprinted (call : Nat) (fingerprint : String)
  /-- `routeRequest` returns, or throws. -/
  | routed (call : Nat) (threw : Bool)
  | requestTimeout (timer : Nat)
  /-- A heartbeat timer ticks; `dead`: the client has been silent for too long. -/
  | heartbeat (timer : Nat) (dead : Bool)
  | broadcast (credentialId : String) (event : SignetEvent) (project : Projector)
  | invalidate (credentialId : String)
  /-- The `close` callback. -/
  | close (connectionId : Nat)

inductive TransportEvent where
  | net (e : NetEvent)
  /-- `broadcast` is called. -/
  | broadcasted (credentialId : String) (broadcast : Broadcast)
  /-- `broadcastToCredential` goes through the connections. -/
  | handed (credentialId : String) (broadcast : Broadcast) (project : Projector)
  /-- `invalidateCredential` is called. -/
  | invalidating (credentialId : String) (call : Nat)
  /-- It has come to the drain in its `finally`. -/
  | invalidated (credentialId : String) (call : Nat)

structure TransportState where
  net : Net
  pendingInvalidations : OrdMap String PendingInvalidation
  invalidationGen : Nat
  calls : OrdMap Nat TransportCall
  /-- The number of promises started so far. -/
  started : Nat
  /-- The number of broadcasts so far. -/
  broadcasts : Nat

/-! #### Parts of segments -/

section Segments

variable (cfg : TransportConfig)

/-- Close the socket of a credential that is not active. -/
def closeInactive (connectionId : Nat) (status : CredentialStatus) : Emits Net NetEvent :=
  if status = .active then .skip
  else (Net.closeSocket cfg connectionId (closeCodeOf status)).seq (Net.stopHeartbeat connectionId)

/-- Close the socket after a failed lookup. -/
def closeRevoked (connectionId : Nat) : Emits Net NetEvent :=
  (Net.closeSocket cfg connectionId .credentialRevoked).seq (Net.stopHeartbeat connectionId)

/-- `handleAuthFrame` without success. -/
def rejectAuth (connectionId : Nat) (code : CloseCode) (message : String) : Emits Net NetEvent :=
  (Net.sendJson connectionId (.authError code.code message)).seq
    (Net.closeSocket cfg connectionId code)

/-- The heartbeat after its lookup. -/
def beat (connectionId lookup : Nat) : LookupAnswer → Emits Net NetEvent
  | .rejected => .skip
  | .err _ => closeRevoked cfg connectionId
  | .ok record =>
    (Net.setRecord connectionId ⟨record, lookup⟩).seq
      (if record.status = .active then Net.sendSequenced connectionId (.other "heartbeat", none)
      else closeInactive cfg connectionId record.status)

/-- `handleAuthFrame` after `fingerprintToken`; the heartbeat timer gets the number of the
call. -/
def welcome (connectionId call : Nat) (credential : Snapshot) (fingerprint : String)
    (resume : CredentialReplayState.Resume) : Emits Net NetEvent :=
  (Net.sendJson connectionId (.authenticated credential fingerprint resume.resumedFromSeq)).seq
    (((if resume.needsRecovery then
          Net.sendSequenced connectionId (.other "signet.recovery.complete", none)
        else
          .forEach (fun f => Net.sendJson connectionId (.sequenced f)) resume.replayFrames)).seq
      (Net.startHeartbeat connectionId call))

/-- The record of a connection that `broadcastToCredential` does not skip. -/
def ConnectionData.receiver? (d : ConnectionData) : Option Snapshot :=
  if d.phase = .active then d.credentialRecord.filter (·.record.status = .active) else none

/-- One turn of `broadcastToCredential`. -/
def deliver (credentialId : String) (b : Broadcast) (project : Projector) (connectionId : Nat) :
    Emits Net NetEvent := fun net =>
  match (net.connections.get? connectionId).bind (·.receiver?) with
  | none => (net, [])
  | some credential =>
    Emits.seq
      (fun net => (net, if net.isOpen connectionId then
        [.projected connectionId credentialId b.number credential.lookup] else []))
      (match project b.event credential.record with
      | none => .skip
      | some projected => Net.sendSequenced connectionId (projected, some b.number))
      net

/-- What an answered invalidation does to one connection. -/
def refresh (lookup : Nat) (answer : LookupAnswer) (connectionId : Nat) : Emits Net NetEvent :=
  fun net =>
    match net.connections.get? connectionId with
    | none => (net, [])
    | some d =>
      if d.phase = .active then
        match answer with
        | .ok record =>
          ((Net.setRecord connectionId ⟨record, lookup⟩).seq
            (closeInactive cfg connectionId record.status)) net
        | .err _ => closeRevoked cfg connectionId net
        | .rejected => (net, [])
      else (net, [])

end Segments

namespace TransportState

variable (s : TransportState)

/-- The call goes on to wait for a new promise. -/
def await (call : TransportCall) : TransportState :=
  { s with calls := s.calls.set s.started call, started := s.started + 1 }

def finish (call : Nat) : TransportState :=
  { s with calls := s.calls.erase call }

/-- Something happens on the connections. -/
def onNet (f : Emits Net NetEvent) : TransportState × List TransportEvent :=
  ({ s with net := (f s.net).1 }, (f s.net).2.map .net)

/-- `broadcastToCredential` when nothing is pending. -/
def handOut (credentialId : String) (project : Projector) (b : Broadcast) :
    Emits TransportState TransportEvent := fun s =>
  let sent := s.onNet
    (.forEach (deliver credentialId b project) (s.net.getByCredentialId credentialId))
  (sent.1, .handed credentialId b project :: sent.2)

def broadcastToCredential (credentialId : String) (project : Projector) (b : Broadcast) :
    Emits TransportState TransportEvent := fun s =>
  match s.pendingInvalidations.get? credentialId with
  | some pending =>
    ({ s with
        pendingInvalidations := s.pendingInvalidations.set credentialId
          { pending with events := pending.events ++ [b] } }, [])
  | none => handOut credentialId project b s

/-- `invalidateCredential` up to its lookup. -/
def startInvalidation (credentialId : String) : TransportState :=
  let generation := s.invalidationGen + 1
  { s with
    invalidationGen := generation
    pendingInvalidations := s.pendingInvalidations.set credentialId
      (match s.pendingInvalidations.get? credentialId with
      | some existing =>
        { existing with refcount := existing.refcount + 1, generation := generation }
      | none => ⟨1, generation, []⟩) }

/-- The answer of an invalidation's lookup reaches the connections, if it is the latest one. -/
def applyInvalidation (cfg : TransportConfig) (credentialId : String) (generation call : Nat)
    (answer : LookupAnswer) : Emits TransportState TransportEvent := fun s =>
  match s.pendingInvalidations.get? credentialId with
  | none => (s, [])
  | some entry =>
    if entry.generation = generation then
      s.onNet (.forEach (refresh cfg call answer) (s.net.getByCredentialId credentialId))
    else (s, [])

/-- The `finally` of `invalidateCredential`. -/
def releaseInvalidation (credentialId : String) (call : Nat) (project : Projector) :
    Emits TransportState TransportEvent := fun s =>
  match s.pendingInvalidations.get? credentialId with
  | none => (s, [.invalidated credentialId call])
  | some entry =>
    if entry.refcount ≤ 1 then
      let drained := Emits.forEach (broadcastToCredential credentialId project) entry.events
        { s with pendingInvalidations := s.pendingInvalidations.erase credentialId }
      (drained.1, .invalidated credentialId call :: drained.2)
    else
      ({ s with
          pendingInvalidations := s.pendingInvalidations.set credentialId
            { entry with refcount := entry.refcount - 1 } },
        [.invalidated credentialId call])

end TransportState

/-! #### The step -/

section Step

variable (cfg : TransportConfig)

open TransportState

/-- `handleAuthFrame` after its lookup. -/
def authLooked (s : TransportState) (call connectionId : Nat) (lastSeenSeq : Option Nat) :
    LookupAnswer → TransportState × List TransportEvent
  | .rejected => (s, [])
  | .err message => s.onNet (rejectAuth cfg connectionId .authFailed message)
  | .ok record =>
    if record.status = .active then
      let accepted := s.onNet (Net.accept cfg connectionId ⟨record, call⟩ lastSeenSeq)
      let st := accepted.1.net.getOrCreateCredentialState cfg record.credentialId
      (accepted.1.await (.fingerprinting connectionId ⟨record, call⟩ (st.resume lastSeenSeq)),
        accepted.2)
    else
      s.onNet (rejectAuth cfg connectionId .authFailed
        ("Credential " ++ record.credentialId ++ " is not active"))

/-- `handleRequestFrame` after its first lookup. -/
def requestLooked (s : TransportState) (call connectionId : Nat) (frame : RequestFrame) :
    LookupAnswer → TransportState × List TransportEvent
  | .rejected => (s, [])
  | .err _ => s.onNet (closeRevoked cfg connectionId)
  | .ok record =>
    let kept := s.onNet (Net.setRecord connectionId ⟨record, call⟩)
    if record.status = .active then
      match frame with
      | .invalid none =>
        let closed := kept.1.onNet (Net.closeSocket cfg connectionId .protocolError)
        (closed.1, kept.2 ++ closed.2)
      | .invalid (some requestId) =>
        let answered := kept.1.onNet
          (Net.sendJson connectionId (.response requestId .invalidFrame))
        (answered.1, kept.2 ++ answered.2)
      | .request requestId mutating =>
        -- the timer gets the number of the call that is started here
        let begun := kept.1.onNet (Net.beginRequest connectionId s.started requestId)
        (begun.1.await (.routing connectionId requestId mutating), kept.2 ++ begun.2)
    else
      let closed := kept.1.onNet (closeInactive cfg connectionId record.status)
      (closed.1, kept.2 ++ closed.2)

/-- `handleRequestFrame` after the lookup that follows a mutating request. -/
def resyncLooked (s : TransportState) (call connectionId : Nat) (requestId : String) :
    LookupAnswer → TransportState × List TransportEvent
  | .rejected => s.onNet (Net.endRequest connectionId requestId .internalError)
  | .err _ => s.onNet (Net.endRequest connectionId requestId .routed)
  | .ok record =>
    s.onNet ((Net.setRecord connectionId ⟨record, call⟩).seq
      (Net.endRequest connectionId requestId .routed))

def lookupStep (s : TransportState) (call : Nat) (answer : LookupAnswer) (project : Projector) :
    Option (TransportState × List TransportEvent) :=
  match s.calls.get? call with
  | some (.authenticating connectionId lastSeenSeq) =>
    some (authLooked cfg (s.finish call) call connectionId lastSeenSeq answer)
  | some (.heartbeat connectionId) =>
    some ((s.finish call).onNet (beat cfg connectionId call answer))
  | some (.requesting connectionId frame) =>
    some (requestLooked cfg (s.finish call) call connectionId frame answer)
  | some (.resyncing connectionId requestId) =>
    some (resyncLooked (s.finish call) call connectionId requestId answer)
  | some (.invalidating credentialId generation) =>
    some (Emits.seq (applyInvalidation cfg credentialId generation call answer)
      (releaseInvalidation credentialId call project) (s.finish call))
  | _ => none

def transportStep (s : TransportState) :
    TransportAction → Option (TransportState × List TransportEvent)
  | .connect => some (s.onNet Net.opened)
  | .authTimeout connectionId =>
    match s.net.connections.get? connectionId with
    | none => none
    | some d =>
      if d.authTimer then
        let fired := s.onNet (Net.clearAuthTimer connectionId)
        if d.phase = .authenticating then
          let closed := fired.1.onNet (rejectAuth cfg connectionId .authTimeout "Auth timeout")
          some (closed.1, fired.2 ++ closed.2)
        else some fired
      else none
  | .authFrame connectionId frame =>
    match s.net.connections.get? connectionId with
    | none => none
    | some d =>
      if d.phase = .authenticating then
        let cleared := s.onNet (Net.clearAuthTimer connectionId)
        match frame with
        | none =>
          let closed :=
            cleared.1.onNet (rejectAuth cfg connectionId .protocolError "Invalid auth frame")
          some (closed.1, cleared.2 ++ closed.2)
        | some frame => some (cleared.1.await (.authenticating connectionId frame.lastSeenSeq),
            cleared.2)
      else none
  | .requestFrame connectionId frame =>
    match s.net.connections.get? connectionId with
    | none => none
    | some d =>
      if d.phase = .active then
        match d.credentialRecord with
        | none => some (s.onNet (Net.closeSocket cfg connectionId .protocolError))
        | some _ => some (s.await (.requesting connectionId frame), [])
      else none
  | .refuse connectionId code =>
    match s.net.connections.get? connectionId with
    | none => none
    | some d =>
      if d.phase = .closed then none else some (s.onNet (Net.closeSocket cfg connectionId code))
  | .looked call answer project => lookupStep cfg s call answer project
  | .fingerprinted call fingerprint =>
    match s.calls.get? call with
    | some (.fingerprinting connectionId credential resume) =>
      some ((s.finish call).onNet (welcome connectionId call credential fingerprint resume))
    | _ => none
  | .routed call threw =>
    match s.calls.get? call with
    | some (.routing connectionId requestId mutating) =>
      if threw then
        some ((s.finish call).onNet (Net.endRequest connectionId requestId .internalError))
      else if mutating then
        some ((s.finish call).await (.resyncing connectionId requestId), [])
      else some ((s.finish call).onNet (Net.endRequest connectionId requestId .routed))
    | _ => none
  | .requestTimeout timer =>
    match s.net.requestTimers.get? timer with
    | none => none
    | some (connectionId, requestId) =>
      some (s.onNet (Net.timeoutRequest connectionId timer requestId))
  | .heartbeat timer dead =>
    match s.net.heartbeatTimers.get? timer with
    | none => none
    | some connectionId =>
      match s.net.connections.get? connectionId with
      | none => none
      | some d =>
        if d.phase = .active then
          if dead then some (s.onNet (Net.closeSocket cfg connectionId .deadConnection))
          else some (s.await (.heartbeat connectionId), [])
        else some (s, [])
  | .broadcast credentialId event project =>
    let b : Broadcast := ⟨s.broadcasts, event⟩
    let r := broadcastToCredential credentialId project b { s with broadcasts := s.broadcasts + 1 }
    some (r.1, .broadcasted credentialId b :: r.2)
  | .invalidate credentialId =>
    let generation := s.invalidationGen + 1
    some ((s.startInvalidation credentialId).await (.invalidating credentialId generation),
      [.invalidating credentialId s.started])
  | .close connectionId =>
    match s.net.connections.get? connectionId with
    | none => none
    | some d =>
      if d.phase = .closed then none else some (s.onNet (Net.cleanupConnection connectionId))

/-- **The transport.** -/
def transportMachine : Machine TransportState TransportAction TransportEvent where
  init := ⟨.empty, .empty, 0, .empty, 0, 0⟩
  step := transportStep cfg

end Step

/-- A credential that may read one chat, for examples. -/
def oneChatRecord : CredentialRecord where
  credentialId := "cred_1"
  operatorId := "op_1"
  chatIds := ["conv_1"]
  effectiveScopes := ⟨[.readMessages], []⟩
  status := .active
  issuedAt := 0
  expiresAt := 1000
  issuedBy := "owner"
  isExpired := false
  lastHeartbeat := 0

/-- Every event passes. -/
def passAll : Projector := fun event _ => some event

/-- A connection is opened and authenticated with the token; its heartbeat timer runs. `call` is
the number of the first promise that is started. -/
def openAuthenticated (connectionId call : Nat) (lastSeenSeq : Option Nat) : List TransportAction :=
  [.connect, .authFrame connectionId (some ⟨"token", lastSeenSeq⟩),
    .looked call (.ok oneChatRecord) passAll, .fingerprinted (call + 1) "sha256:00"]

end Signet.Ws
