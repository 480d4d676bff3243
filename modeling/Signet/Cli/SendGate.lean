import Signet.Cli.WsRequestHandler
import Signet.Sessions.RecordIdentity

/-!
# Send requests and credential operations

`gateMachine` interleaves `send_message` and `confirm_action` requests with the
credential operations at every await of a request: the lookup with which the
server starts a frame, `ensureCoreReady`, the second lookup of `send_message`, and
the send itself. A lookup reads the store when it is called (and sweeps first) and
delivers its answer later.

Both requests check the scopes and chats on the snapshot of the first lookup.
`send_message` looks the credential up again before it sends, but only for the
status; `confirm_action` does not look at it again. So a message is sent within
the credential's authority of the moment under a condition on the order of steps
(`keepsSendAuthority`), and `narrowed_credential_sends` is a run without it.

`GateStep` is the inversion of a step, `GateInv` what a call in flight still knows of the stored
record.
-/

namespace Signet

open Lib

/-! ### Calls, actions, events -/

/-- The two requests that send. -/
inductive GateRequest where
  | sendMessage (request : SendMessageRequest)
  | confirmAction (request : ConfirmActionRequest)
  deriving DecidableEq

/-- A request that waits for a reply. -/
inductive GateCall where
  /-- `handleRequestFrame` awaits `credentialLookup`, which has read the record. -/
  | awaitCredential (request : GateRequest) (looked : Result CredentialRecord)
  /-- `handleSendMessage` awaits `ensureCoreReady`. -/
  | awaitCore (request : SendMessageRequest) (credentialId : String)
  /-- `handleSendMessage` awaits `credentialManager.lookup`, which has read the record. -/
  | awaitLookup (request : SendMessageRequest) (credentialId : String)
      (looked : Result CredentialRecord)
  /-- `handleConfirmAction` awaits `ensureCoreReady`. -/
  | awaitConfirmedCore (payload : SendMessageRequest) (credentialId : String)
  /-- `deps.sendMessage` has been called. -/
  | sending
  deriving DecidableEq

/-- A segment of a request or of a credential operation. -/
inductive GateAction where
  | service (a : ServiceAction)
  /-- `pendingActions.add`. -/
  | queue (action : PendingAction)
  /-- A frame arrives on a connection of the credential. -/
  | frame (call : Nat) (credentialId : String) (request : GateRequest) (now : Time)
  | handle (call : Nat) (now : Time)
  | coreReady (call : Nat) (result : Result Unit) (now : Time)
  | lookedUp (call : Nat)
  | sent (call : Nat) (result : Result String)

/-- What a step does to the outside. -/
inductive GateEvent where
  | service (e : ServiceEvent)
  /-- `deps.sendMessage` is called for a request of the credential. -/
  | sendMessage (credentialId : String) (message : SendMessageRequest)
  /-- The server closes the socket. -/
  | closed (call : Nat)
  | replied (call : Nat) (result : Result HandlerReply)
  deriving DecidableEq

/-- The store, the pending actions and the requests in flight. -/
structure GateState where
  service : ServiceState
  pendingActions : PendingActions
  calls : OrdMap Nat GateCall

namespace GateState

/-- The call waits in a new phase. -/
def await (s : GateState) (call : Nat) (phase : GateCall) : GateState :=
  { s with calls := s.calls.set call phase }

/-- The call is answered. -/
def reply (s : GateState) (call : Nat) (result : Result HandlerReply) :
    GateState × List GateEvent :=
  ({ s with calls := s.calls.erase call }, [.replied call result])

/-- `deps.sendMessage` is called. -/
def send (s : GateState) (call : Nat) (credentialId : String) (message : SendMessageRequest) :
    GateState × List GateEvent :=
  (s.await call .sending, [.sendMessage credentialId message])

def look (s : GateState) (cfg : CredentialManagerConfig) (call : Nat) (credentialId : String)
    (now : Time) (phase : Result CredentialRecord → GateCall) : GateState × List GateEvent :=
  let looked := Service.lookup cfg s.service.store credentialId now
  (({ s with service := { s.service with store := looked.store } }).await call (phase looked.value),
    looked.effects.map (.service ∘ .effect))

end GateState

/-! ### The step -/

section Step

variable (cfg : CredentialManagerConfig) (hash : ScopeSet → List String → String)
  (parseDate : String → Option Time)

/-- The handler of a request, up to its first await. -/
def handleRequest (s : GateState) (call : Nat) (request : GateRequest)
    (credential : CredentialRecord) (now : Time) : GateState × List GateEvent :=
  match heartbeatGuard cfg s.service.store credential.credentialId now with
  | .error e => s.reply call (.error e)
  | .ok () =>
    match request with
    | .sendMessage request =>
      match validateSendAs credential request.groupId with
      | .error e => s.reply call (.error e)
      | .ok _ => (s.await call (.awaitCore request credential.credentialId), [])
    | .confirmAction request =>
      match handleConfirmAction parseDate s.pendingActions request credential now with
      | (actions, .answer result) => { s with pendingActions := actions }.reply call result
      | (actions, .execute payload) =>
        ({ s with pendingActions := actions }.await call
          (.awaitConfirmedCore payload credential.credentialId), [])

/-- One segment of a request or of a credential operation. -/
def gateStep (s : GateState) : GateAction → Option (GateState × List GateEvent)
  | .service a =>
    match serviceStep cfg hash s.service a with
    | none => none
    | some (service, es) => some ({ s with service := service }, es.map .service)
  | .queue action => some ({ s with pendingActions := s.pendingActions.add action }, [])
  | .frame call credentialId request now =>
    if s.calls.has call then none
    else some (s.look cfg call credentialId now (.awaitCredential request))
  | .handle call now =>
    match s.calls.get? call with
    | some (.awaitCredential _ (.error _)) =>
      some ({ s with calls := s.calls.erase call }, [.closed call])
    | some (.awaitCredential request (.ok credential)) =>
      if credential.status ≠ .active then
        some ({ s with calls := s.calls.erase call }, [.closed call])
      else some (handleRequest cfg parseDate s call request credential now)
    | _ => none
  | .coreReady call result now =>
    match s.calls.get? call with
    | some (.awaitCore request credentialId) =>
      match result with
      | .error e => some (s.reply call (.error e))
      | .ok () => some (s.look cfg call credentialId now (.awaitLookup request credentialId))
    | some (.awaitConfirmedCore payload credentialId) =>
      match result with
      | .error e => some (s.reply call (.error e))
      | .ok () => some (s.send call credentialId payload)
    | _ => none
  | .lookedUp call =>
    match s.calls.get? call with
    | some (.awaitLookup request credentialId looked) =>
      match recheckActive looked with
      | .error e => some (s.reply call (.error e))
      | .ok () => some (s.send call credentialId request)
    | _ => none
  | .sent call result =>
    match s.calls.get? call with
    | some .sending => some (s.reply call (result.map .sent))
    | _ => none

/-- **Send requests under concurrent credential operations.** -/
def gateMachine : Machine GateState GateAction GateEvent where
  init := ⟨⟨.new, .empty⟩, .empty, .empty⟩
  step := gateStep cfg hash parseDate

end Step

/-! ### What a step can do -/

/-- The outcomes of a step, by what happens to the calls. -/
inductive GateStep (cfg : CredentialManagerConfig) (hash : ScopeSet → List String → String)
    (s : GateState) : GateAction → GateState → List GateEvent → Prop
  /-- A credential operation. -/
  | service {a : ServiceAction} {s' : GateState} {es : List ServiceEvent}
      (hs : serviceStep cfg hash s.service a = some (s'.service, es))
      (hcalls : s'.calls = s.calls) :
      GateStep cfg hash s (.service a) s' (es.map .service)
  | queued {a : GateAction} {s' : GateState} (hservice : s'.service = s.service)
      (hcalls : s'.calls = s.calls) : GateStep cfg hash s a s' []
  /-- A request is over, with a reply or a closed socket. -/
  | finished {a : GateAction} {s' : GateState} {call : Nat} {e : GateEvent}
      (he : e = .closed call ∨ ∃ result, e = .replied call result)
      (hservice : s'.service = s.service) (hcalls : s'.calls = s.calls.erase call) :
      GateStep cfg hash s a s' [e]
  /-- A frame arrives; the credential is looked up. -/
  | framed {call : Nat} {credentialId : String} {request : GateRequest} {now : Time} :
      GateStep cfg hash s (.frame call credentialId request now)
        (s.look cfg call credentialId now (.awaitCredential request)).1
        (s.look cfg call credentialId now (.awaitCredential request)).2
  /-- `send_message` has validated the snapshot. -/
  | validated {call : Nat} {request : SendMessageRequest} {credential : CredentialRecord}
      {now : Time}
      (hcall : s.calls.get? call = some (.awaitCredential (.sendMessage request) (.ok credential)))
      (hchat : request.groupId ∈ credential.chatIds)
      (hsend : .send ∈ resolveScopeSet credential.effectiveScopes) :
      GateStep cfg hash s (.handle call now)
        (s.await call (.awaitCore request credential.credentialId)) []
  /-- `confirm_action` has validated the snapshot and taken the action out. -/
  | confirmed {call : Nat} {request : ConfirmActionRequest} {credential : CredentialRecord}
      {now : Time} {payload : SendMessageRequest} {s' : GateState}
      (hcall : s.calls.get? call =
        some (.awaitCredential (.confirmAction request) (.ok credential)))
      (hactive : credential.status = .active) (hchat : payload.groupId ∈ credential.chatIds)
      (hsend : .send ∈ resolveScopeSet credential.effectiveScopes)
      (hservice : s'.service = s.service)
      (hcalls : s'.calls =
        s.calls.set call (.awaitConfirmedCore payload credential.credentialId)) :
      GateStep cfg hash s (.handle call now) s' []
  /-- The core is ready; `send_message` looks the credential up again. -/
  | looked {call : Nat} {request : SendMessageRequest} {credentialId : String} {now : Time}
      (hcall : s.calls.get? call = some (.awaitCore request credentialId)) :
      GateStep cfg hash s (.coreReady call (.ok ()) now)
        (s.look cfg call credentialId now (.awaitLookup request credentialId)).1
        (s.look cfg call credentialId now (.awaitLookup request credentialId)).2
  /-- `send_message` found the credential active and sends. -/
  | sendChecked {call : Nat} {request : SendMessageRequest} {credentialId : String}
      {credential : CredentialRecord}
      (hcall : s.calls.get? call = some (.awaitLookup request credentialId (.ok credential)))
      (hactive : credential.status = .active) :
      GateStep cfg hash s (.lookedUp call) (s.await call .sending)
        [.sendMessage credentialId request]
  /-- The core is ready; `confirm_action` sends. -/
  | sendConfirmed {call : Nat} {payload : SendMessageRequest} {credentialId : String} {now : Time}
      (hcall : s.calls.get? call = some (.awaitConfirmedCore payload credentialId)) :
      GateStep cfg hash s (.coreReady call (.ok ()) now) (s.await call .sending)
        [.sendMessage credentialId payload]

section Sound

variable {cfg : CredentialManagerConfig} {hash : ScopeSet → List String → String}
  {parseDate : String → Option Time} {s s' : GateState} {a : GateAction} {es : List GateEvent}

private theorem GateStep.of_reply {t : GateState} {call : Nat} {result : Result HandlerReply}
    (hservice : t.service = s.service) (hcalls : t.calls = s.calls) :
    GateStep cfg hash s a (t.reply call result).1 (t.reply call result).2 :=
  .finished (.inr ⟨result, rfl⟩) hservice (by rw [← hcalls]; rfl)

/-- The segment that starts a handler. -/
private theorem handleRequest_sound (parseDate : String → Option Time) {call : Nat}
    {request : GateRequest}
    {credential : CredentialRecord} (now : Time)
    (hcall : s.calls.get? call = some (.awaitCredential request (.ok credential)))
    (hactive : credential.status = .active) :
    GateStep cfg hash s (.handle call now)
      (handleRequest cfg parseDate s call request credential now).1
      (handleRequest cfg parseDate s call request credential now).2 := by
  unfold handleRequest
  split
  -- the credential is not active any more
  · exact .of_reply rfl rfl
  · cases request with
    | sendMessage request =>
      dsimp only
      split
      · exact .of_reply rfl rfl
      -- the send is within the credential that the frame came with
      · next hvalid =>
        obtain ⟨hchat, hsend⟩ := validateSendAs_isOk hvalid
        exact .validated hcall hchat hsend
    | confirmAction request =>
      dsimp only
      split
      · exact .of_reply rfl rfl
      · next hexecute =>
        -- the queued action is checked against it when it is confirmed
        obtain ⟨-, hchat, hsend, -⟩ := handleConfirmAction_execute hexecute
        exact .confirmed hcall hactive hchat hsend rfl rfl

/-- **Inversion of a step.** -/
theorem gateStep_sound (h : gateStep cfg hash parseDate s a = some (s', es)) :
    GateStep cfg hash s a s' es := by
  cases a with
  | service a =>
    dsimp only [gateStep] at h
    split at h
    · cases h
    · next hs => cases h; exact .service hs rfl
  | queue action =>
    cases h
    exact .queued rfl rfl
  | frame call credentialId request now =>
    dsimp only [gateStep] at h
    split at h
    · cases h
    · cases h; exact .framed
  | handle call now =>
    dsimp only [gateStep] at h
    split at h
    -- the lookup before the handler threw or found nothing
    · cases h; exact .finished (.inl rfl) rfl rfl
    · next hcall =>
      split at h
      · cases h; exact .finished (.inl rfl) rfl rfl
      · next hactive =>
        have hsound : GateStep cfg hash s (.handle call now) _ _ :=
          handleRequest_sound parseDate now hcall (not_not.1 hactive)
        rw [Option.some.inj h] at hsound
        exact hsound
    · cases h
  | coreReady call result now =>
    dsimp only [gateStep] at h
    split at h
    · next hcall =>
      split at h
      · cases h; exact .of_reply rfl rfl
      -- a send looks its credential up again
      · cases h; exact .looked hcall
    · next hcall =>
      split at h
      · cases h; exact .of_reply rfl rfl
      -- a confirmed action is sent without another look
      · cases h; exact .sendConfirmed hcall
    · cases h
  | lookedUp call =>
    dsimp only [gateStep] at h
    split at h
    · next looked hcall =>
      split at h
      · cases h; exact .of_reply rfl rfl
      · next hcheck =>
        cases h
        obtain ⟨credential, rfl, hactive⟩ := recheckActive_eq_ok hcheck
        exact .sendChecked hcall hactive
    · cases h
  | sent call result =>
    dsimp only [gateStep] at h
    split at h
    · cases h; exact .of_reply rfl rfl
    · cases h

end Sound

end Signet
