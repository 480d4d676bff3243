import Signet.Cli.EventProjector
import Signet.Cli.WsRequestHandler
import Signet.Sessions.RecordIdentity

/-!
# The WebSocket server

`createWsServer` as far as it decides who gets which event: connections with the
credential record they hold, `broadcastToCredential`, `invalidateCredential` with
its queue, and the `reveal_content` request, which replays messages through
`broadcast`. `wsMachine` interleaves them with the credential operations at every
await.

A connection's record is the answer of the last lookup that was delivered to it:
at authentication, at a heartbeat, at a request or by an invalidation. Lookups
read the store when they are called. Refused frames, sequence numbers, the replay
buffer of reconnections and backpressure do not change who is sent an event by
`broadcast` and are left out (`Ws/Transport` has them, with lookups that answer
anything); `ws.close` asks for a close, and the connection goes away when
`closeConnection` runs.
-/

namespace Signet

open Lib

/-! ### State -/

inductive ConnectionPhase where
  | active
  | draining
  deriving DecidableEq

/-- `ConnectionData` of a registered connection. -/
structure Connection where
  phase : ConnectionPhase
  credentialId : String
  credentialRecord : CredentialRecord
  deriving DecidableEq

/-- `broadcastToCredential` considers the connection. -/
def Connection.receives (conn : Connection) : Bool :=
  conn.phase = .active && conn.credentialRecord.status = .active

/-- An entry of `pendingInvalidations`. -/
structure Invalidation where
  refcount : Nat
  generation : Nat
  events : List SignetEvent
  deriving DecidableEq

/-- A call that waits. -/
inductive WsCall where
  /-- `handleAuthFrame` awaits `tokenLookup`. -/
  | authenticating (looked : Result CredentialRecord)
  /-- A heartbeat, or the re-sync after a mutating request, awaits
  `credentialLookup`; only a heartbeat closes the socket on a bad answer. -/
  | refreshing (connectionId : Nat) (heartbeat : Bool) (looked : Result CredentialRecord)
  /-- `handleRequestFrame` of a `reveal_content` request awaits `credentialLookup`. -/
  | requesting (connectionId : Nat) (reveal : RevealRequest) (looked : Result CredentialRecord)
  /-- `handleRevealContent` awaits `listMessages`. -/
  | revealing (credential : CredentialRecord) (access : RevealAccess)
  /-- `invalidateCredential` awaits `credentialLookup`. -/
  | invalidating (credentialId : String) (generation : Nat) (looked : Result CredentialRecord)
  deriving DecidableEq

/-- A segment of the server or of a credential operation. -/
inductive WsAction where
  | service (a : ServiceAction)
  | authenticate (call : Nat) (token : String) (now : Time)
  | authenticated (call : Nat)
  | refresh (call connectionId : Nat) (heartbeat : Bool) (now : Time)
  | refreshed (call : Nat)
  | request (call connectionId : Nat) (reveal : RevealRequest) (now : Time)
  | reveal (call : Nat) (now : Time)
  | messagesListed (call : Nat) (result : Result (List ReplayMessage)) (now : Time)
  | invalidate (call : Nat) (credentialId : String) (now : Time)
  | invalidated (call : Nat) (now : Time)
  | broadcast (credentialId : String) (event : SignetEvent) (now : Time)
  /-- `stop` puts the connection into its draining phase. -/
  | drain (connectionId : Nat)
  /-- The socket is gone. -/
  | closeConnection (connectionId : Nat)

/-- What a step does to the outside. -/
inductive WsEvent where
  | service (e : ServiceEvent)
  /-- `broadcastToCredential` sends `projected` for `event` on a connection. -/
  | sent (connectionId : Nat) (event projected : SignetEvent)
  /-- `ws.close` is called. -/
  | closed (connectionId : Nat)
  /-- A `reveal_content` request is answered. -/
  | replied (call : Nat) (result : Result RevealAccess)
  deriving DecidableEq

/-- The server with its calls in flight, over the credential service. -/
structure WsState where
  service : ServiceState
  /-- `ConnectionRegistry`. -/
  connections : OrdMap Nat Connection
  /-- `connectionCounter`: ids are not used twice. -/
  connectionCounter : Nat
  /-- `pendingInvalidations`. -/
  invalidations : OrdMap String Invalidation
  invalidationGen : Nat
  calls : OrdMap Nat WsCall

namespace WsState

variable (s : WsState)

abbrev store : CredentialStore :=
  s.service.store

/-- The call is over. -/
def finish (call : Nat) : WsState :=
  { s with calls := s.calls.erase call }

def look (o : Outcome (Result CredentialRecord)) (call : Nat)
    (phase : Result CredentialRecord → WsCall) : WsState × List WsEvent :=
  ({ s with
      service := { s.service with store := o.store }
      calls := s.calls.set call (phase o.value) },
    o.effects.map (.service ∘ .effect))

/-- `ws.data.credentialRecord = credential`. -/
def setRecord (connectionId : Nat) (credential : CredentialRecord) : WsState :=
  match s.connections.get? connectionId with
  | some conn =>
    { s with
      connections := s.connections.set connectionId { conn with credentialRecord := credential } }
  | none => s

/-- `getRevealState` as the runtime passes it to the projector. That it creates an
empty store on first use is not observable. -/
def revealState (credentialId : String) : Option RevealState :=
  match (s.store.getRevealState credentialId).value with
  | .ok store => some store
  | .error _ => none

/-! ### Broadcast -/

section Broadcast

variable (parseDate : String → Option Time) (now : Time)

/-- One turn of the loop of `broadcastToCredential`. -/
def sendProjected (credentialId : String) (event : SignetEvent) (entry : Nat × Connection) :
    Option WsEvent :=
  let conn := entry.2
  if conn.credentialId = credentialId && conn.receives then
    (projectEvent parseDate (s.revealState conn.credentialRecord.credentialId)
      conn.credentialRecord now event).map (.sent entry.1 event)
  else none

/-- `broadcastToCredential`: queue while an invalidation is pending, else send on
every connection. -/
def broadcast (credentialId : String) (event : SignetEvent) : WsState × List WsEvent :=
  match s.invalidations.get? credentialId with
  | some pending =>
    ({ s with
        invalidations := s.invalidations.set credentialId
          { pending with events := pending.events ++ [event] } }, [])
  | none => (s, s.connections.entries.filterMap (s.sendProjected parseDate now credentialId event))

/-- Broadcast one event after the other. -/
def broadcastAll (s : WsState) (credentialId : String) :
    List SignetEvent → WsState × List WsEvent
  | [] => (s, [])
  | event :: rest =>
    let first := s.broadcast parseDate now credentialId event
    let others := first.1.broadcastAll credentialId rest
    (others.1, first.2 ++ others.2)

end Broadcast

/-! ### Invalidation -/

/-- What an invalidation does to one connection. -/
def refreshConnection (credentialId : String) (looked : Result CredentialRecord)
    (conn : Connection) : Connection :=
  if conn.credentialId = credentialId && conn.phase = .active then
    match looked with
    | .ok fresh => { conn with credentialRecord := fresh }
    | .error _ => conn
  else conn

/-- The connections an invalidation closes: all on a failed lookup or an inactive
record. -/
def closedBy (credentialId : String) (looked : Result CredentialRecord) : List WsEvent :=
  s.connections.entries.filterMap fun (id, conn) =>
    if conn.credentialId = credentialId && conn.phase = .active &&
        !(looked.toOption.any (·.status = .active)) then some (.closed id)
    else none

/-- `invalidateCredential` up to its lookup: a new generation that holds the queue. -/
def startInvalidation (credentialId : String) : WsState :=
  let generation := s.invalidationGen + 1
  { s with
    invalidationGen := generation
    invalidations := s.invalidations.set credentialId
      (match s.invalidations.get? credentialId with
      | some existing =>
        { existing with refcount := existing.refcount + 1, generation := generation }
      | none => ⟨1, generation, []⟩) }

/-- The answer of the lookup reaches the connections, if no later invalidation has
started. -/
def applyInvalidation (credentialId : String) (latest : Bool) (looked : Result CredentialRecord) :
    WsState × List WsEvent :=
  if latest then
    ({ s with connections := s.connections.mapValues (refreshConnection credentialId looked) },
      s.closedBy credentialId looked)
  else (s, [])

/-- The `finally` of `invalidateCredential`: the last one drains the queue. -/
def releaseInvalidation (parseDate : String → Option Time) (now : Time) (credentialId : String)
    (entry : Invalidation) : WsState × List WsEvent :=
  if entry.refcount ≤ 1 then
    { s with invalidations := s.invalidations.erase credentialId }.broadcastAll parseDate now
      credentialId entry.events
  else
    ({ s with
        invalidations := s.invalidations.set credentialId
          { entry with refcount := entry.refcount - 1 } }, [])

end WsState

/-! ### The step -/

section Step

variable (cfg : CredentialManagerConfig) (hash : ScopeSet → List String → String)
  (parseDate : String → Option Time)

/-- `handleRequestFrame` of a reveal from the lookup on, and `handleRevealContent`
up to `listMessages`. -/
def startReveal (s : WsState) (call connectionId : Nat) (reveal : RevealRequest)
    (credential : CredentialRecord) (now : Time) : WsState × List WsEvent :=
  let s := s.setRecord connectionId credential
  if credential.status ≠ .active then (s.finish call, [.closed connectionId])
  else
    match heartbeatGuard cfg s.store credential.credentialId now with
    | .error e => (s.finish call, [.replied call (.error e)])
    | .ok () =>
      let o := s.store.getRevealState credential.credentialId
      match o.value with
      | .error e => (s.finish call, [.replied call (.error e)])
      | .ok store =>
        let access := grantReveal reveal now
        ({ s with
            service := { s.service with
              store := { o.store with
                revealStates := o.store.revealStates.set credential.credentialId
                  (store.record access reveal) } }
            calls := s.calls.set call (.revealing credential access) }, [])

/-- One segment of the server or of a credential operation. -/
def wsStep (s : WsState) : WsAction → Option (WsState × List WsEvent)
  | .service a =>
    match serviceStep cfg hash s.service a with
    | none => none
    | some (service, es) => some ({ s with service := service }, es.map .service)
  | .authenticate call token now =>
    if s.calls.has call then none
    else some (s.look (Service.lookupByToken s.store token now) call .authenticating)
  | .authenticated call =>
    match s.calls.get? call with
    | some (.authenticating (.ok credential)) =>
      if credential.status = .active then
        some ({ (s.finish call) with
          connections := s.connections.set s.connectionCounter
            ⟨.active, credential.credentialId, credential⟩
          connectionCounter := s.connectionCounter + 1 }, [])
      else some (s.finish call, [])
    | some (.authenticating (.error _)) => some (s.finish call, [])
    | _ => none
  | .refresh call connectionId heartbeat now =>
    match s.connections.get? connectionId with
    | some conn =>
      if s.calls.has call || (heartbeat && conn.phase ≠ .active) then none
      else some (s.look (Service.lookup cfg s.store conn.credentialRecord.credentialId now) call
        (.refreshing connectionId heartbeat))
    | none => none
  | .refreshed call =>
    match s.calls.get? call with
    | some (.refreshing connectionId heartbeat (.ok credential)) =>
      some ((s.setRecord connectionId credential).finish call,
        if heartbeat ∧ credential.status ≠ .active then [.closed connectionId] else [])
    | some (.refreshing connectionId heartbeat (.error _)) =>
      some (s.finish call, if heartbeat then [.closed connectionId] else [])
    | _ => none
  | .request call connectionId reveal now =>
    match s.connections.get? connectionId with
    | some conn =>
      if s.calls.has call || conn.phase ≠ .active then none
      else some (s.look (Service.lookup cfg s.store conn.credentialRecord.credentialId now) call
        (.requesting connectionId reveal))
    | none => none
  | .reveal call now =>
    match s.calls.get? call with
    | some (.requesting connectionId reveal (.ok credential)) =>
      some (startReveal cfg s call connectionId reveal credential now)
    | some (.requesting connectionId _ (.error _)) => some (s.finish call, [.closed connectionId])
    | _ => none
  | .messagesListed call result now =>
    match s.calls.get? call with
    | some (.revealing credential access) =>
      match result with
      | .error _ => some (s.finish call, [.replied call (.ok access)])
      | .ok messages =>
        -- the reveal store is emptied in place, never replaced, so the store the
        -- handler took before it awaited is the one of the credential
        let store := (s.revealState credential.credentialId).getD []
        let replayed := (s.finish call).broadcastAll parseDate now credential.credentialId
          (replayEvents parseDate store credential access now messages)
        some (replayed.1, replayed.2 ++ [.replied call (.ok access)])
    | _ => none
  | .invalidate call credentialId now =>
    if s.calls.has call then none
    else
      some ((s.startInvalidation credentialId).look
        (Service.lookup cfg s.store credentialId now) call
        (.invalidating credentialId (s.invalidationGen + 1)))
  | .invalidated call now =>
    match s.calls.get? call with
    | some (.invalidating credentialId generation looked) =>
      match s.invalidations.get? credentialId with
      | none => some (s.finish call, [])
      | some entry =>
        let applied := (s.finish call).applyInvalidation credentialId
          (entry.generation = generation) looked
        let released := applied.1.releaseInvalidation parseDate now credentialId entry
        some (released.1, applied.2 ++ released.2)
    | _ => none
  | .broadcast credentialId event now => some (s.broadcast parseDate now credentialId event)
  | .drain connectionId =>
    match s.connections.get? connectionId with
    | some conn =>
      some ({ s with
          connections := s.connections.set connectionId { conn with phase := .draining } },
        [])
    | none => none
  | .closeConnection connectionId =>
    some ({ s with connections := s.connections.erase connectionId }, [])

/-- **The WebSocket server under concurrent credential operations.** -/
def wsMachine : Machine WsState WsAction WsEvent where
  init := ⟨⟨.new, .empty⟩, .empty, 0, .empty, 0, .empty⟩
  step := wsStep cfg hash parseDate

end Step

/-! ### What broadcast does -/

namespace WsState

variable {parseDate : String → Option Time} {now : Time} {s : WsState} {credentialId : String}

/-- Broadcasting changes the queues only. -/
structure SameButQueues (s s' : WsState) : Prop where
  service_eq : s'.service = s.service
  connections_eq : s'.connections = s.connections
  counter_eq : s'.connectionCounter = s.connectionCounter
  calls_eq : s'.calls = s.calls

theorem broadcast_same (parseDate : String → Option Time) (now : Time) (s : WsState)
    (credentialId : String) (event : SignetEvent) :
    SameButQueues s (s.broadcast parseDate now credentialId event).1 := by
  unfold broadcast
  split <;> exact ⟨rfl, rfl, rfl, rfl⟩

theorem broadcastAll_same (parseDate : String → Option Time) (now : Time) (s : WsState)
    (credentialId : String) (events : List SignetEvent) :
    SameButQueues s (s.broadcastAll parseDate now credentialId events).1 := by
  induction events generalizing s with
  | nil => exact ⟨rfl, rfl, rfl, rfl⟩
  | cons event events ih =>
    have hfirst : SameButQueues s (s.broadcast parseDate now credentialId event).1 :=
      broadcast_same parseDate now s credentialId event
    have hrest := ih (s.broadcast parseDate now credentialId event).1
    exact ⟨hrest.service_eq.trans hfirst.service_eq,
      hrest.connections_eq.trans hfirst.connections_eq,
      hrest.counter_eq.trans hfirst.counter_eq, hrest.calls_eq.trans hfirst.calls_eq⟩

/-- `event` reaches the connection `id` of the credential as `projected`. -/
structure Sends (parseDate : String → Option Time) (now : Time) (s : WsState)
    (credentialId : String) (id : Nat) (event projected : SignetEvent) (conn : Connection) :
    Prop where
  connection : s.connections.get? id = some conn
  owner : conn.credentialId = credentialId
  receives : conn.receives = true
  projected : projectEvent parseDate (s.revealState conn.credentialRecord.credentialId)
    conn.credentialRecord now event = some projected
  notQueued : s.invalidations.get? credentialId = none

/-- An invalidation leaves a connection alone, or gives a fresh record to a connection
of its credential. -/
theorem refreshConnection_cases (credentialId : String) (looked : Result CredentialRecord)
    (conn : Connection) :
    refreshConnection credentialId looked conn = conn ∨
      ∃ fresh, looked = .ok fresh ∧ conn.credentialId = credentialId ∧
        refreshConnection credentialId looked conn = { conn with credentialRecord := fresh } := by
  unfold refreshConnection
  split
  · next hcond =>
    rw [Bool.and_eq_true, decide_eq_true_eq] at hcond
    cases looked with
    | ok fresh => exact .inr ⟨fresh, rfl, hcond.1, rfl⟩
    | error e => exact .inl rfl
  · exact .inl rfl

theorem sends_of_broadcast {event input projected : SignetEvent} {id : Nat}
    (h : .sent id input projected ∈ (s.broadcast parseDate now credentialId event).2) :
    input = event ∧ ∃ conn, Sends parseDate now s credentialId id event projected conn := by
  unfold broadcast at h
  split at h
  · cases h
  · next hnone =>
    obtain ⟨⟨id', conn⟩, hmem, hsend⟩ := List.mem_filterMap.1 h
    unfold sendProjected at hsend
    dsimp only at hsend
    split at hsend
    · next hcond =>
      obtain ⟨out, hproject, heq⟩ := Option.map_eq_some_iff.1 hsend
      cases heq
      rw [Bool.and_eq_true, decide_eq_true_eq] at hcond
      exact ⟨rfl, conn, OrdMap.mem_entries_iff.1 hmem, hcond.1, hcond.2, hproject, hnone⟩
    · cases hsend

/-- What a sequence of broadcasts sends: one of the events, as if it were alone. -/
theorem sends_of_broadcastAll {events : List SignetEvent} {input projected : SignetEvent} {id : Nat}
    (h : .sent id input projected ∈ (s.broadcastAll parseDate now credentialId events).2) :
    input ∈ events ∧ ∃ conn, Sends parseDate now s credentialId id input projected conn := by
  induction events generalizing s with
  | nil => cases h
  | cons event events ih =>
    rcases List.mem_append.1 h with hfirst | hrest
    · obtain ⟨rfl, hsends⟩ := sends_of_broadcast hfirst
      exact ⟨List.mem_cons_self, hsends⟩
    · -- a broadcast that is not queued changes nothing at all
      obtain ⟨hmem, conn, hsends⟩ := ih hrest
      have hstate : (s.broadcast parseDate now credentialId event).1 = s := by
        have hnone := hsends.notQueued
        unfold broadcast at hnone ⊢
        split at hnone
        · simp at hnone
        · rfl
      rw [hstate] at hsends
      exact ⟨List.mem_cons_of_mem _ hmem, conn, hsends⟩

/-- What is queued afterwards was queued before or has been broadcast while an
invalidation was pending. -/
theorem queued_of_broadcastAll {events : List SignetEvent} {id : String} {entry : Invalidation}
    (h : (s.broadcastAll parseDate now credentialId events).1.invalidations.get? id = some entry)
    {event : SignetEvent} (hevent : event ∈ entry.events) :
    (∃ entry₀, s.invalidations.get? id = some entry₀ ∧ event ∈ entry₀.events) ∨
      (event ∈ events ∧ s.invalidations.get? credentialId ≠ none) := by
  induction events generalizing s with
  | nil => exact .inl ⟨entry, h, hevent⟩
  | cons first events ih =>
    have hrest := ih h
    unfold broadcast at hrest
    split at hrest
    · next pending hpending =>
      have hsome : s.invalidations.get? credentialId ≠ none := by
        rw [hpending]
        exact Option.some_ne_none _
      rcases hrest with ⟨entry₀, hget, hold⟩ | ⟨hmem, -⟩
      · rcases OrdMap.get?_set_eq_some hget with ⟨rfl, rfl⟩ | ⟨-, hget⟩
        · rcases List.mem_append.1 hold with hold | hnew
          · exact .inl ⟨pending, hpending, hold⟩
          · exact .inr ⟨by rw [List.mem_singleton.1 hnew]; exact List.mem_cons_self, hsome⟩
        · exact .inl ⟨entry₀, hget, hold⟩
      · exact .inr ⟨List.mem_cons_of_mem _ hmem, hsome⟩
    · rcases hrest with hold | ⟨hmem, hsome⟩
      · exact .inl hold
      · exact .inr ⟨List.mem_cons_of_mem _ hmem, hsome⟩

end WsState

end Signet
