import Signet.Core.IdentityStore
import Signet.Lib.Machine
import Signet.Lib.OrdMap

/-!
# The core and its calls

`SignetCoreImpl`: the lifecycle state, the registry of clients, the table of streams and the timers.
Its methods are asynchronous, so that a call is in flight between its awaits, and other calls go on
meanwhile. A `Call` says what a call in flight waits for and what it knows; `advance` runs it from
the end of this await to the beginning of the next one, with the answer that the environment gives.
`coreMachine` interleaves calls in any order.

A stream is opened when the client answers with it. What a stream delivers, and the groups of a
client, have no part in this. The statements of the identity store do not throw here: `list` could
throw into the `catch` of `start`, which ends it like a call that is thrown.
-/

namespace Signet.Core

open Lib

/-! ### The state -/

inductive SignetState where
  | idle
  | local
  | starting
  | running
  | stopping
  | stopped
  | error
  deriving DecidableEq

/-- What a stream delivers. -/
inductive StreamKind where
  | messages
  | groups
  | dms
  deriving DecidableEq

/-- An entry of `#streams`. -/
structure CoreStream where
  identityId : String
  kind : StreamKind
  deriving DecidableEq

/-- `SignetCoreImpl`. -/
structure SignetCore where
  state : SignetState
  store : SqliteIdentityStore
  /-- `#registry`: the inbox ids of the managed clients, by identity. -/
  registry : OrdMap String String
  streams : List CoreStream
  /-- `#heartbeatTimer` and `#livenessTimer` are set. -/
  heartbeatTimer : Bool
  livenessTimer : Bool

/-- What happens. -/
inductive CoreEvent where
  | opened (stream : CoreStream)
  | aborted (stream : CoreStream)
  /-- `raw.core.started`, with its count. -/
  | started (identityCount : Nat)
  /-- `raw.core.stopped`. -/
  | stopped
  /-- A call has returned a result, `true` for a value, or has thrown. -/
  | returned (call : Nat) (ok : Bool)
  | threw (call : Nat)
  deriving DecidableEq

/-! ### Calls in flight -/

/-- Who hydrates an identity. -/
inductive Caller where
  /-- `registerManagedIdentity`. -/
  | register
  /-- `attachPersistedIdentity`. -/
  | attach
  /-- `start`, with the identities that follow and the state to fall back to. -/
  | start (rest : List IdentityRow) (fallback : SignetState)
  deriving DecidableEq

/-- The awaits of `hydrateIdentity`. -/
inductive Await where
  | getDbEncryptionKey
  | getXmtpIdentityKey
  | createClient
  /-- `setInboxId`, after its lookup: whether the row was found. -/
  | inboxLookup (inboxId : String) (found : Bool)
  /-- `setInboxId`, at its end. -/
  | inboxUpdate (inboxId : String) (stored : Bool)
  | syncAll
  | listGroups
  | streamAllMessages
  | streamGroups
  | streamDms
  /-- The result, on its way to the caller. -/
  | returned (ok : Bool)
  deriving DecidableEq

/-- A call in flight. -/
inductive Call where
  /-- `registerManagedIdentity` awaits the row of the store. -/
  | creating (row : Option IdentityRow)
  /-- `attachPersistedIdentity` awaits `getById`. -/
  | lookup (identityId : String) (row : Option IdentityRow)
  /-- `start` awaits `list`. -/
  | listing (rows : List IdentityRow) (fallback : SignetState)
  | hydrating (caller : Caller) (row : IdentityRow) (at_ : Await)
  /-- `registerManagedIdentity` awaits the key for the address of its result. -/
  | addressing (identityId : String)
  /-- The cleanup of `registerManagedIdentity`: detached, then in `remove` after its lookup. -/
  | detached (identityId : String)
  | removing (identityId : String) (found : Bool)
  deriving DecidableEq

/-- How an await of the environment ends. -/
inductive Reply where
  | ok (inboxId : String)
  | err
  | thrown
  deriving DecidableEq

/-- What follows an await: the core, the next await if there is one, and the events. -/
structure Advance where
  core : SignetCore
  next : Option Call
  events : List CoreEvent

/-! ### Synchronous parts -/

namespace SignetCore

variable (core : SignetCore)

/-- `detachManagedIdentity`. -/
def detach (identityId : String) : SignetCore × List CoreEvent :=
  ({ core with
      streams := core.streams.filter (·.identityId ≠ identityId)
      registry := core.registry.erase identityId },
    (core.streams.filter (·.identityId = identityId)).map .aborted)

def startHeartbeat : SignetCore := { core with heartbeatTimer := true, livenessTimer := true }

def stopHeartbeat : SignetCore := { core with heartbeatTimer := false, livenessTimer := false }

/-- Every stream is aborted, and all clients are unregistered. -/
def clear : SignetCore := { core with streams := [], registry := .empty }

def resetStartupArtifacts : SignetCore × List CoreEvent :=
  (core.stopHeartbeat.clear, core.streams.map .aborted)

def failStart (fallback : SignetState) : SignetCore × List CoreEvent :=
  let (core, events) := core.resetStartupArtifacts
  ({ core with state := fallback }, events)

/-- The end of `start`, behind the loop. -/
def finishStart : SignetCore × List CoreEvent :=
  ({ core.startHeartbeat with state := .running }, [.started core.registry.entries.length])

/-- `stop`, with what it emits; `none` if the state does not allow it. Nothing is awaited, so that
nobody sees the state `stopping`. -/
def stop : Option (SignetCore × List CoreEvent) :=
  if core.state = .local ∨ core.state = .running ∨ core.state = .error then
    let stopping := { core.stopHeartbeat with state := .stopping }
    some ({ stopping.clear with store := stopping.store.close, state := .stopped },
      core.streams.map .aborted ++ if core.state = .local then [] else [.stopped])
  else none

/-- `registry.register`. -/
def register (identityId inboxId : String) : SignetCore :=
  { core with registry := core.registry.set identityId inboxId }

/-- `#streams.push`. -/
def push (stream : CoreStream) : SignetCore := { core with streams := core.streams ++ [stream] }

end SignetCore

/-! ### What follows an await -/

/-- The call ends with a result. -/
def finish (core : SignetCore) (call : Nat) (ok : Bool) (events : List CoreEvent) : Advance :=
  ⟨core, none, events ++ [.returned call ok]⟩

/-- The loop of `start`: the next identity, or the end. -/
def startNext (core : SignetCore) (call : Nat) (rest : List IdentityRow) (fallback : SignetState) :
    Advance :=
  match rest with
  | [] =>
    let (core, events) := core.finishStart
    finish core call true events
  | row :: rest => ⟨core, some (.hydrating (.start rest fallback) row .getDbEncryptionKey), []⟩

/-- An exception in `hydrateIdentity`: `start` catches it. -/
def throwOut (core : SignetCore) (call : Nat) (caller : Caller) : Advance :=
  match caller with
  | .start _ fallback =>
    let (core, events) := core.failStart fallback
    finish core call false events
  | _ => ⟨core, none, [.threw call]⟩

/-- The client is registered, and synchronised unless the core is local. -/
def registerClient (core : SignetCore) (caller : Caller) (row : IdentityRow) (inboxId : String) :
    Advance :=
  if core.state = .running ∨ core.state = .starting then
    ⟨core.register row.id inboxId, some (.hydrating caller row .syncAll), []⟩
  else if core.state = .local then
    ⟨core.register row.id inboxId, some (.hydrating caller row (.returned true)), []⟩
  else ⟨core, some (.hydrating caller row (.returned true)), []⟩

/-- The client has been created: its inbox id is stored if this has to be. -/
def clientCreated (core : SignetCore) (call : Nat) (caller : Caller) (row : IdentityRow)
    (inboxId : String) : Advance :=
  if caller = .register ∨ row.inboxId = none then
    match core.store.getById row.id with
    | none => throwOut core call caller
    | some found => ⟨core, some (.hydrating caller row (.inboxLookup inboxId found.isSome)), []⟩
  else registerClient core caller row inboxId

def streamOpened (core : SignetCore) (caller : Caller) (row : IdentityRow) (kind : StreamKind)
    (next : Await) : Advance :=
  ⟨core.push ⟨row.id, kind⟩, some (.hydrating caller row next), [.opened ⟨row.id, kind⟩]⟩

/-- The caller of `hydrateIdentity` goes on with its result. -/
def hydrated (core : SignetCore) (call : Nat) (caller : Caller) (row : IdentityRow) (ok : Bool) :
    Advance :=
  match caller, ok with
  | .register, true => ⟨core, some (.addressing row.id), []⟩
  | .register, false =>
    let (core, events) := core.detach row.id
    ⟨core, some (.detached row.id), events⟩
  | .attach, true => finish core call true []
  | .attach, false =>
    let (core, events) := core.detach row.id
    finish core call false events
  | .start rest fallback, true => startNext core call rest fallback
  | .start _ fallback, false =>
    let (core, events) := core.failStart fallback
    finish core call false events

/-- `hydrateIdentity`, from an await on. -/
def hydrate (core : SignetCore) (call : Nat) (caller : Caller) (row : IdentityRow) (at_ : Await)
    (reply : Reply) : Advance :=
  let go (next : Await) : Advance := ⟨core, some (.hydrating caller row next), []⟩
  match at_ with
  | .inboxLookup inboxId found =>
    if found then
      match core.store.updateInboxId row.id inboxId with
      | none => throwOut core call caller
      | some store =>
        ⟨{ core with store := store }, some (.hydrating caller row (.inboxUpdate inboxId true)), []⟩
    else go (.inboxUpdate inboxId false)
  | .inboxUpdate inboxId stored =>
    if stored then registerClient core caller row inboxId else go (.returned false)
  | .returned ok => hydrated core call caller row ok
  | at_ =>
    match reply with
    | .thrown => throwOut core call caller
    | .err => go (.returned false)
    | .ok inboxId =>
      match at_ with
      | .getDbEncryptionKey => go .getXmtpIdentityKey
      | .getXmtpIdentityKey => go .createClient
      | .createClient => clientCreated core call caller row inboxId
      | .syncAll => go .listGroups
      | .listGroups => go .streamAllMessages
      | .streamAllMessages => streamOpened core caller row .messages .streamGroups
      | .streamGroups => streamOpened core caller row .groups .streamDms
      | .streamDms => streamOpened core caller row .dms (.returned true)
      | at_ => go at_

/-- **A call goes on** from its await to the next one. -/
def advance (core : SignetCore) (call : Nat) (waiting : Call) (reply : Reply) : Advance :=
  match waiting with
  | .creating none => finish core call false []
  | .creating (some row) => ⟨core, some (.hydrating .register row .getDbEncryptionKey), []⟩
  | .lookup _ none => finish core call false []
  | .lookup _ (some row) => ⟨core, some (.hydrating .attach row .getDbEncryptionKey), []⟩
  | .listing rows fallback => startNext core call rows fallback
  | .hydrating caller row at_ => hydrate core call caller row at_ reply
  | .addressing identityId =>
    match reply with
    | .thrown => ⟨core, none, [.threw call]⟩
    | .err =>
      let (core, events) := core.detach identityId
      ⟨core, some (.detached identityId), events⟩
    | .ok _ => finish core call true []
  | .detached identityId =>
    match core.store.getById identityId with
    | none => ⟨core, none, [.threw call]⟩
    | some found => ⟨core, some (.removing identityId found.isSome), []⟩
  | .removing identityId found =>
    if found then
      match core.store.delete identityId with
      | none => ⟨core, none, [.threw call]⟩
      | some store => finish { core with store := store } call false []
    else finish core call false []

/-! ### The machine -/

/-- The core with its calls in flight. -/
structure CoreRuntime where
  core : SignetCore
  calls : OrdMap Nat Call

/-- A method is called, or a call goes on. -/
inductive CoreAction where
  | startLocal
  | start (call : Nat)
  | stop
  | register (call : Nat) (identityId : String) (groupId label : Option String)
  | attach (call : Nat) (identityId : String)
  | detach (identityId : String)
  | unregisterManagedClient (identityId : String)
  /-- `identityStore.remove` from outside. -/
  | removeIdentity (identityId : String)
  | resume (call : Nat) (reply : Reply)
  deriving DecidableEq

/-- The states in which identities are registered and attached. -/
def SignetState.Serves (state : SignetState) : Prop := state = .running ∨ state = .local

instance (state : SignetState) : Decidable state.Serves := inferInstanceAs (Decidable (_ ∨ _))

/-- Put a call in flight. -/
def CoreRuntime.begin (s : CoreRuntime) (call : Nat) (waiting : Call) : CoreRuntime :=
  { s with calls := s.calls.set call waiting }

/-- The result of an await. -/
def CoreRuntime.settle (s : CoreRuntime) (call : Nat) (after : Advance) : CoreRuntime where
  core := after.core
  calls :=
    match after.next with
    | some waiting => s.calls.set call waiting
    | none => s.calls.erase call

/-- One step; a call gets a number that is not in use. -/
def coreStep (s : CoreRuntime) : CoreAction → Option (CoreRuntime × List CoreEvent)
  | .startLocal =>
    if s.core.state = .idle then some ({ s with core := { s.core with state := .local } }, [])
    else some (s, [])
  | .start call =>
    if s.calls.has call then none
    else if s.core.state = .idle ∨ s.core.state = .local then
      let fallback : SignetState := if s.core.state = .local then .local else .error
      let starting : CoreRuntime := { s with core := { s.core with state := .starting } }
      some (starting.begin call (.listing s.core.store.rows fallback), [])
    else some (s, [.returned call false])
  | .stop =>
    match s.core.stop with
    | none => some (s, [])
    | some (core, events) => some ({ s with core := core }, events)
  | .register call identityId groupId label =>
    if s.calls.has call then none
    else if s.core.state.Serves then
      match s.core.store.create identityId groupId label with
      | none => some (s.begin call (.creating none), [])
      | some (row, store) =>
        let created : CoreRuntime := { s with core := { s.core with store := store } }
        some (created.begin call (.creating (some row)), [])
    else some (s, [.returned call false])
  | .attach call identityId =>
    if s.calls.has call then none
    else if s.core.state.Serves then
      if s.core.registry.has identityId then some (s, [.returned call true])
      else
        match s.core.store.getById identityId with
        | none => some (s, [.threw call])
        | some row => some (s.begin call (.lookup identityId row), [])
    else some (s, [.returned call false])
  | .detach identityId =>
    let (core, events) := s.core.detach identityId
    some ({ s with core := core }, events)
  | .unregisterManagedClient identityId =>
    some ({ s with core := { s.core with registry := s.core.registry.erase identityId } }, [])
  | .removeIdentity identityId =>
    match s.core.store.delete identityId with
    | none => some (s, [])
    | some store => some ({ s with core := { s.core with store := store } }, [])
  | .resume call reply =>
    match s.calls.get? call with
    | none => none
    | some waiting =>
      let after := advance s.core call waiting reply
      some (s.settle call after, after.events)

def coreMachine (store : SqliteIdentityStore) : Machine CoreRuntime CoreAction CoreEvent where
  init := ⟨⟨.idle, store, .empty, [], false, false⟩, .empty⟩
  step := coreStep

end Signet.Core
