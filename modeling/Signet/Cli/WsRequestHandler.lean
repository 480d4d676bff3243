import Signet.Policy.Permissions
import Signet.Policy.Projection
import Signet.Sessions.Service

/-!
# Requests over the WebSocket

`createWsRequestHandler` and the pending action store it works with. A handler is
cut at its awaits; what is here are the segments, each a pure function of what
the closure reads. `Cli.SendGate` interleaves them.

The deps are the ones of `start.ts`: a credential manager and pending actions are
there, a message binding is not, so a sent message carries no provenance.
-/

namespace Signet

open Lib

/-! ### Requests -/

/-- The message of a `send_message` request, and the payload of a pending action of
that type. -/
structure SendMessageRequest where
  groupId : String
  contentType : String
  content : MessageContent
  deriving DecidableEq

structure ConfirmActionRequest where
  actionId : String
  confirmed : Bool
  deriving DecidableEq

/-- What a handler answers on success. -/
inductive HandlerReply where
  /-- `{ messageId, provenance: null }`. -/
  | sent (messageId : String)
  /-- `{ denied: true, actionId }`. -/
  | denied (actionId : String)
  deriving DecidableEq

/-! ### Pending actions -/

/-- `PendingAction`; the payload is the one of `send_message`, the only type that
is executed. -/
structure PendingAction where
  actionId : String
  credentialId : String
  actionType : String
  payload : SendMessageRequest
  expiresAt : String
  deriving DecidableEq

/-- `createPendingActionStore`: by action id. -/
abbrev PendingActions := OrdMap String PendingAction

def PendingActions.add (actions : PendingActions) (action : PendingAction) : PendingActions :=
  actions.set action.actionId action

/-- `confirm` and `deny` both remove the action. -/
def PendingActions.removeAndReturn (actions : PendingActions) (actionId : String) :
    PendingActions × Option PendingAction :=
  (actions.erase actionId, actions.get? actionId)

/-! ### Guard and `send_message` -/

/-- The guard in front of every handler but `heartbeat`: the heartbeat is stale. -/
def heartbeatGuard (cfg : CredentialManagerConfig) (m : CredentialStore) (credentialId : String)
    (now : Time) : Result Unit :=
  match m.isHeartbeatStale cfg credentialId now with
  | .ok true =>
    .error (.authError
      "Credential heartbeat is stale -- send a heartbeat before making requests" [])
  | _ => .ok ()

/-- `validateSendMessage` on a credential as the handler holds it. -/
def validateSendAs (credential : CredentialRecord) (groupId : String) : Result SendValidation :=
  validateSendMessage groupId (resolveScopeSet credential.effectiveScopes) credential.chatIds

/-- `handleSendMessage` after the second lookup: only the status is looked at. -/
def recheckActive : Result CredentialRecord → Result Unit
  | .error e => .error e
  | .ok credential =>
    if credential.status ≠ .active then
      .error (.authError
        ("Credential is " ++ credential.status.name ++ " -- cannot send messages") [])
    else .ok ()

/-! ### `confirm_action` -/

/-- What `handleConfirmAction` does before it awaits: answer, or execute the
message. -/
inductive ConfirmStart where
  | answer (result : Result HandlerReply)
  | execute (payload : SendMessageRequest)
  deriving DecidableEq

/-- Re-validation of a queued message; other types have nothing to validate. -/
def revalidatePending (pending : PendingAction) (credential : CredentialRecord) : Result Unit :=
  if pending.actionType = "send_message" then
    (validateSendAs credential pending.payload.groupId).map fun _ => ()
  else .ok ()

/-- `handleConfirmAction` up to its first await. Every branch but the first two
removes the action; since nothing runs between `get` and `confirm`, `confirm`
finds the action that `get` found. -/
def handleConfirmAction (parseDate : String → Option Time) (pendingActions : PendingActions)
    (request : ConfirmActionRequest) (credential : CredentialRecord) (now : Time) :
    PendingActions × ConfirmStart :=
  match pendingActions.get? request.actionId with
  | none =>
    (pendingActions, .answer (.error (.notFoundError "PendingAction" request.actionId)))
  | some pending =>
    let removed := (pendingActions.removeAndReturn request.actionId).1
    if pending.credentialId ≠ credential.credentialId then
      (pendingActions, .answer (.error (.permissionError
        "Pending action does not belong to this credential"
        [("actionId", request.actionId), ("credentialId", credential.credentialId)])))
    else if (parseDate pending.expiresAt).any (· < now) then
      (removed, .answer (.error (.permissionError "Pending action has expired"
        [("actionId", request.actionId), ("expiresAt", pending.expiresAt)])))
    else if !request.confirmed then
      (removed, .answer (.ok (.denied request.actionId)))
    else
      match revalidatePending pending credential with
      | .error e => (removed, .answer (.error e))
      | .ok () =>
        if pending.actionType = "send_message" then (removed, .execute pending.payload)
        else (removed, .answer (.error (.internalError
          ("Unknown pending action type: " ++ pending.actionType))))

/-! ### `reveal_content` -/

/-- `ReplayMessage`: a message as `listMessages` returns it. -/
structure ReplayMessage where
  messageId : String
  groupId : String
  senderInboxId : String
  contentType : String
  content : MessageContent
  sentAt : Time
  threadId : Option String
  deriving DecidableEq

/-- The message as the pipeline takes it; every replayed message is historical. -/
def ReplayMessage.toRaw (msg : ReplayMessage) : RawMessage :=
  ⟨msg.messageId, msg.groupId, msg.senderInboxId, msg.contentType, some msg.content, msg.sentAt,
    msg.threadId, none, true⟩

/-- The access `handleRevealContent` grants for a request. -/
def grantReveal (reveal : RevealRequest) (now : Time) : RevealAccess :=
  ⟨reveal.revealId, now, reveal.requestedBy, reveal.expiresAt⟩

/-- The event for one message of the replay, if a reveal covers it and the pipeline
emits it for the credential of the request. -/
def replayMessage (parseDate : String → Option Time) (store : RevealState)
    (credential : CredentialRecord) (access : RevealAccess) (now : Time) (msg : ReplayMessage) :
    Option SignetEvent :=
  if store.isRevealed parseDate msg.toRaw.target now then
    (projectMessage msg.toRaw (resolveScopeSet credential.effectiveScopes) credential.chatIds
      [msg.contentType] true).map fun event =>
        .messageRevealed
          ⟨msg.messageId, msg.groupId, msg.contentType, event.content, access.revealId⟩
  else none

/-- The replay of `handleRevealContent`: what is handed to `broadcast`, in order. -/
def replayEvents (parseDate : String → Option Time) (store : RevealState)
    (credential : CredentialRecord) (access : RevealAccess) (now : Time)
    (messages : List ReplayMessage) : List SignetEvent :=
  messages.filterMap (replayMessage parseDate store credential access now)

/-! ### What the segments have checked -/

theorem validateSendAs_isOk {credential : CredentialRecord} {groupId : String}
    {validation : SendValidation} (h : validateSendAs credential groupId = .ok validation) :
    groupId ∈ credential.chatIds ∧ .send ∈ resolveScopeSet credential.effectiveScopes := by
  obtain ⟨hin, hsend, -⟩ := validateSendMessage_eq_ok.1 h
  exact ⟨hin, hsend⟩

theorem recheckActive_eq_ok {looked : Result CredentialRecord} (h : recheckActive looked = .ok ()) :
    ∃ credential, looked = .ok credential ∧ credential.status = .active := by
  unfold recheckActive at h
  split at h
  · cases h
  · next credential =>
    split at h
    · cases h
    · next hstatus => exact ⟨credential, rfl, not_not.1 hstatus⟩

/-- **A confirmed message has been validated** against the credential that the
handler holds, whose own message it was. -/
theorem handleConfirmAction_execute {parseDate : String → Option Time}
    {pendingActions actions : PendingActions} {request : ConfirmActionRequest}
    {credential : CredentialRecord} {now : Time} {payload : SendMessageRequest}
    (h : handleConfirmAction parseDate pendingActions request credential now =
      (actions, .execute payload)) :
    request.confirmed = true ∧ payload.groupId ∈ credential.chatIds ∧
      .send ∈ resolveScopeSet credential.effectiveScopes ∧
      ∃ pending, pendingActions.get? request.actionId = some pending ∧
        pending.credentialId = credential.credentialId ∧ pending.payload = payload := by
  unfold handleConfirmAction at h
  split at h
  · cases h
  · next pending hget =>
    dsimp only at h
    split at h
    · cases h
    · next hcred =>
      split at h
      · cases h
      · split at h
        · cases h
        · next hconfirmed =>
          split at h
          · cases h
          · next hvalid =>
            split at h
            · next htype =>
              cases h
              rw [revalidatePending, if_pos htype] at hvalid
              -- validation succeeded, whatever its value
              cases hv : validateSendAs credential pending.payload.groupId with
              | error e => rw [hv] at hvalid; cases hvalid
              | ok validation =>
                obtain ⟨hin, hsend⟩ := validateSendAs_isOk hv
                exact ⟨by simpa using hconfirmed, hin, hsend, pending, hget, not_not.1 hcred, rfl⟩
            · cases h

/-- **A replayed event** is about a listed message that a reveal covers and that is
in a chat of the credential. -/
theorem mem_replayEvents {parseDate : String → Option Time} {store : RevealState}
    {credential : CredentialRecord} {access : RevealAccess} {now : Time}
    {messages : List ReplayMessage} {event : SignetEvent}
    (h : event ∈ replayEvents parseDate store credential access now messages) :
    ∃ msg ∈ messages, (∃ content, event = .messageRevealed
        ⟨msg.messageId, msg.groupId, msg.contentType, content, access.revealId⟩) ∧
      store.isRevealed parseDate msg.toRaw.target now = true ∧
      msg.groupId ∈ credential.chatIds := by
  obtain ⟨msg, hmem, hevent⟩ := List.mem_filterMap.1 h
  unfold replayMessage at hevent
  split at hevent
  · next hrevealed =>
    obtain ⟨projected, hproject, rfl⟩ := Option.map_eq_some_iff.1 hevent
    exact ⟨msg, hmem, ⟨_, rfl⟩, hrevealed, (projectMessage_emit hproject).1⟩
  · cases hevent

end Signet
