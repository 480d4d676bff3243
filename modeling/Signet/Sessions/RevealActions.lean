import Signet.Sessions.Service

/-!
# The reveal actions

`sessions/src/reveal-actions.ts`: `reveal.request` records a reveal for a credential,
`reveal.list` shows the recorded ones. A request looks the credential up first and
judges by the record the lookup returned.
-/

namespace Signet

open Lib

structure RevealRequestInput where
  credentialId : String
  chatId : String
  scope : RevealScope
  targetId : String
  requestedBy : String
  expiresAt : Option Time
  deriving DecidableEq

/-- `resolveCredentialTarget`: a credential may only name itself. -/
def resolveCredentialTarget (requestedCredentialId : String) :
    Option String → Result String
  | some authenticatedCredentialId =>
    if authenticatedCredentialId ≠ requestedCredentialId then
      .error (.permissionError
        "Credential-scoped reveal actions may only target the authenticated credential"
        [("authenticatedCredentialId", authenticatedCredentialId),
          ("requestedCredentialId", requestedCredentialId)])
    else .ok requestedCredentialId
  | none => .ok requestedCredentialId

/-- The authenticated credential of an action context, as an entry of an error. -/
def authenticatedContext (ctx : Option String) : List (String × String) :=
  ctx.toList.map fun id => ("authenticatedCredentialId", id)

/-- The checks of `reveal.request` on the record its lookup returned. -/
def checkRevealRequest (input : RevealRequestInput) (ctx : Option String)
    (credential : CredentialRecord) : Result Unit :=
  if credential.status ≠ .active then
    .error (.permissionError
      ("Credential is " ++ credential.status.name ++
        " -- reveal requests require an active credential")
      ([("credentialId", input.credentialId)] ++ authenticatedContext ctx ++
        [("status", credential.status.name)]))
  else if input.chatId ∉ credential.chatIds then
    .error (.permissionError "Chat is not within the credential's scoped conversations"
      ([("credentialId", input.credentialId)] ++ authenticatedContext ctx ++
        [("chatId", input.chatId)]))
  else .ok ()

/-- The access `reveal.request` grants; `revealId` is a new UUID. -/
def RevealRequestInput.access (input : RevealRequestInput) (revealId : String) (now : Time) :
    RevealAccess :=
  ⟨revealId, now, input.requestedBy, input.expiresAt⟩

/-- The request `reveal.request` records it with. -/
def RevealRequestInput.request (input : RevealRequestInput) (revealId : String) : RevealRequest :=
  ⟨revealId, input.chatId, input.scope, input.targetId, input.requestedBy, input.expiresAt⟩

namespace CredentialStore

variable (m : CredentialStore)

/-- `getRevealState` followed by `record` on the store it returns. -/
def recordReveal (credentialId : String) (access : RevealAccess) (request : RevealRequest) :
    Outcome (Result RevealAccess) :=
  let o := m.getRevealState credentialId
  match o.value with
  | .error e => ⟨o.store, o.effects, .error e⟩
  | .ok reveals =>
    let recorded := o.store.revealStates.set credentialId (reveals.record access request)
    ⟨{ o.store with revealStates := recorded }, o.effects, .ok access⟩

/-- `reveal.request` from the settled lookup on. -/
def revealRequestFinish (input : RevealRequestInput) (ctx : Option String)
    (looked : Result CredentialRecord) (revealId : String) (now : Time) :
    Outcome (Result RevealAccess) :=
  match looked with
  | .error e => ⟨m, [], .error e⟩
  | .ok credential =>
    match checkRevealRequest input ctx credential with
    | .error e => ⟨m, [], .error e⟩
    | .ok () => m.recordReveal input.credentialId (input.access revealId now)
      (input.request revealId)

def revealList (credentialId : String) (ctx : Option String) : Outcome (Result RevealState) :=
  match resolveCredentialTarget credentialId ctx with
  | .error e => ⟨m, [], .error e⟩
  | .ok target => m.getRevealState target

end CredentialStore

/-- A target that resolves is the credential that was named. -/
theorem resolveCredentialTarget_eq_ok {requested target : String} {ctx : Option String}
    (h : resolveCredentialTarget requested ctx = .ok target) : target = requested := by
  cases ctx with
  | none =>
    cases h
    rfl
  | some authenticated =>
    rw [resolveCredentialTarget] at h
    split at h
    · cases h
    · cases h
      rfl

end Signet
