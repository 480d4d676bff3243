import Signet.Admin.DisclosureStore
import Signet.Core.Client
import Signet.Schemas.Json

/-!
# Admin read elevation

`createAdminReadElevationManager` as `start.ts` creates it: with an approver, an audit
log, the disclosure store and `onDisclosureChanged`. `resolveForRequest` and the
callback of an expiration timer are cut at their `await`s; a call in flight is an
`ElevationPhase`, the continuation the source would resume, and `elevationStep` runs
one segment. Replies of the approver, of the audit log and of `onDisclosureChanged`,
clock readings and drawn ids are part of the action.

A request carries the frame of its caller (`ResolveInput.caller`), which comes back
with the answer, as the caller's own continuation does in the source.

* `ElevationStep` lists what a step can do; `elevationStep_sound` is the inversion.
* `ElevationPhase.grant?` is the elevation a call is about to return: only a reuse
  and an approval have one.
* `ElevationState.reused?` is the cached elevation that a request is about to reuse. The cache is
  keyed by `iss:jti:chat`, which different sessions and chats can share.
-/

namespace Signet

open Lib

/-! ### Sessions and requests -/

/-- The claims that tell admin sessions apart. The payload schema of `verifyJwt` takes any
texts; the key manager draws hex digits for both. -/
structure AdminSession where
  iss : String
  jti : String
  deriving DecidableEq

/-- `${iss}:${jti}`. -/
def AdminSession.sessionKey (session : AdminSession) : String :=
  joinKey session.iss session.jti

/-- `ResolveAdminReadElevationInput`, with the frame that waits for the answer.
`adminFingerprint` is the session's issuer and goes into the audit log only. -/
structure ResolveInput (κ : Type) where
  method : String
  params : JsonObject
  session : AdminSession
  caller : κ

def isMessageReadMethod (method : String) : Bool :=
  method = "message.list" || method = "message.info" || method = "search.messages"

def wantsDangerousMessageRead (params : JsonObject) : Bool :=
  match params.get? "dangerouslyAllowMessageRead" with
  | some (.bool flag) => flag
  | some (.string flag) => flag = "true"
  | _ => false

def resolveChatId (params : JsonObject) : Option String :=
  match params.get? "chatId" with
  | some (.string chatId) => truthy (some chatId)
  | _ => none

/-- The chat that `resolveForRequest` resolves an elevation for. -/
def ResolveInput.chatId? {κ : Type} (input : ResolveInput κ) : Option String :=
  if isMessageReadMethod input.method && wantsDangerousMessageRead input.params then
    resolveChatId input.params
  else none

/-- `normalizeChatId` of `start.ts`: the local id of the conversation, if it is mapped. -/
def normalizeChatId (idMappings : Option IdMappings) (chatId : String) : String :=
  ((idMappings.bind (·.resolve chatId)).map (·.localId)).getD chatId

def buildCacheKey (session : AdminSession) (chatId : String) : String :=
  joinKey session.sessionKey chatId

/-! ### Calls in flight -/

structure CachedElevation where
  elevation : AdminReadElevation
  chatId : String
  session : AdminSession
  deriving DecidableEq

namespace CachedElevation

variable (cached : CachedElevation)

/-- The key an elevation is cached under. -/
def key : String :=
  buildCacheKey cached.session cached.chatId

/-- What an elevation discloses; `disclosureActorId` is `owner`. -/
def disclosure : AdminReadDisclosure :=
  ⟨"owner", cached.elevation.expiresAt⟩

end CachedElevation

/-- A request for an elevation, with the chat it is for. -/
structure ElevationRequest (κ : Type) where
  input : ResolveInput κ
  canonicalChatId : String

namespace ElevationRequest

variable {κ : Type} (request : ElevationRequest κ)

/-- `buildCacheKey(input.sessionKey, canonicalChatId)`. -/
def cacheKey : String :=
  buildCacheKey request.input.session request.canonicalChatId

/-- An elevation for the request as it is cached. -/
def cached (elevation : AdminReadElevation) : CachedElevation :=
  ⟨elevation, request.canonicalChatId, request.input.session⟩

end ElevationRequest

/-- Why the disclosure of an elevation is withdrawn. -/
inductive ExpiryCause (κ : Type) where
  /-- `expireCachedElevation`, of a request or of a timer. -/
  | expired (origin : Option (ElevationRequest κ))
  /-- The approval could not be audited. -/
  | auditFailed (request : ElevationRequest κ) (reason : SignetError)

/-- The chat a request goes on to when the disclosure is withdrawn. -/
def ExpiryCause.chats {κ : Type} : ExpiryCause κ → List String
  | .expired origin => (origin.map (·.canonicalChatId)).toList
  | .auditFailed _ _ => []

/-- The request that an elevation is withdrawn for, if there is one. -/
def ExpiryCause.request? {κ : Type} : ExpiryCause κ → Option (ElevationRequest κ)
  | .expired origin => origin
  | .auditFailed request _ => some request

/-- A call that waits for a reply. -/
inductive ElevationPhase (κ : Type) where
  /-- `appendReuseAudit`, with what was found in the cache. -/
  | reuseAudit (request : ElevationRequest κ) (cached : CachedElevation)
  /-- `approver.authorize`. -/
  | authorizing (request : ElevationRequest κ)
  /-- `approver.getApprovalFingerprint`. -/
  | fingerprinting (request : ElevationRequest κ)
  /-- `notifyDisclosureChanged` after the disclosure is set, for the chats it changed. -/
  | approving (request : ElevationRequest κ) (elevation : AdminReadElevation)
      (changedChats : List String)
  /-- `notifyDisclosureChanged` after the disclosure is taken back. -/
  | approvalRollback (request : ElevationRequest κ) (reason : SignetError)
      (rollbackChats : List String)
  | approvedAudit (request : ElevationRequest κ) (elevation : AdminReadElevation)
  /-- `notifyDisclosureChanged` after the disclosure has ended. -/
  | expirySync (cause : ExpiryCause κ) (cached : CachedElevation) (changedChats : List String)
  /-- `notifyDisclosureChanged` after the disclosure is restored. -/
  | expiryRestore (cause : ExpiryCause κ) (cached : CachedElevation) (reason : SignetError)
  /-- `appendExpiredAudit`, with the outcome of `syncDisclosureExpiry`. -/
  | expiredAudit (origin : Option (ElevationRequest κ)) (disclosure : Result Unit)
  /-- The audit of a failure, which the call ends with. -/
  | failureAudit (origin : Option (ElevationRequest κ)) (reason : SignetError)

namespace ElevationPhase

variable {κ : Type}

/-- The elevation a call is about to return. -/
def grant? : ElevationPhase κ → Option CachedElevation
  | .reuseAudit _ cached => some cached
  | .approving request elevation _ => some (request.cached elevation)
  | .approvedAudit request elevation => some (request.cached elevation)
  | _ => none

/-- The elevation whose disclosure a call has ended and may restore. -/
def withdrawn? : ElevationPhase κ → Option CachedElevation
  | .expirySync _ cached _ => some cached
  | _ => none

/-- The call waits for a notification about no chat. `notifyDisclosureChanged` answers it with `Ok`
and does not call `onDisclosureChanged`. -/
def notifiesNobody : ElevationPhase κ → Bool
  | .approving _ _ chatIds | .approvalRollback _ _ chatIds | .expirySync _ _ chatIds => chatIds = []
  | _ => false

/-- The chats whose disclosure a call may still change. -/
def chats : ElevationPhase κ → List String
  | .reuseAudit request _ => [request.canonicalChatId]
  | .authorizing request => [request.canonicalChatId]
  | .fingerprinting request => [request.canonicalChatId]
  | .approving request _ _ => [request.canonicalChatId]
  | .approvalRollback _ _ _ => []
  | .approvedAudit request _ => [request.canonicalChatId]
  | .expirySync cause cached _ => cached.chatId :: cause.chats
  | .expiryRestore cause _ _ => cause.chats
  | .expiredAudit origin _ => (origin.map (·.canonicalChatId)).toList
  | .failureAudit _ _ => []

/-- The request a call works on; a timer has none. -/
def request? : ElevationPhase κ → Option (ElevationRequest κ)
  | .reuseAudit request _ => some request
  | .authorizing request => some request
  | .fingerprinting request => some request
  | .approving request _ _ => some request
  | .approvalRollback request _ _ => some request
  | .approvedAudit request _ => some request
  | .expirySync cause _ _ => cause.request?
  | .expiryRestore cause _ _ => cause.request?
  | .expiredAudit origin _ => origin
  | .failureAudit origin _ => origin

end ElevationPhase

/-- A call is started or resumed, or a timer is due. -/
inductive ElevationAction (κ : Type) where
  | resolve (call : Nat) (input : ResolveInput κ) (idMappings : Option IdMappings) (now : Time)
  | timer (call : Nat) (cacheKey : String) (now : Time)
  | authorized (call : Nat) (result : Result Unit)
  | fingerprint (call : Nat) (result : Result String) (approvalId : String) (now : Time)
  | notified (call : Nat) (result : Result Unit) (now : Time)
  | audited (call : Nat) (result : Result Unit) (now : Time)

/-- What the manager does to the outside. -/
inductive ElevationEvent (κ : Type) where
  /-- `notifyDisclosureChanged` is called. -/
  | notify (call : Nat) (chatIds : List String) (includeExpired : Bool)
  /-- The approver has authorized a read for the session. -/
  | authorized (call : Nat) (session : AdminSession)
  /-- An elevation is made out to the session. -/
  | approved (call : Nat) (session : AdminSession) (elevation : AdminReadElevation)
  /-- `resolveForRequest` returns. -/
  | resolved (call : Nat) (input : ResolveInput κ) (result : Result (Option AdminReadElevation))

/-- The closure state of the manager with its calls in flight. -/
structure ElevationState (κ : Type) where
  cache : OrdMap String CachedElevation
  /-- The armed timers, with what their callbacks close over. -/
  expirationTimers : OrdMap String CachedElevation
  disclosureStore : DisclosureStore
  calls : OrdMap Nat (ElevationPhase κ)

namespace ElevationState

variable {κ : Type} (s : ElevationState κ)

/-- The manager as created. -/
def init : ElevationState κ :=
  ⟨.empty, .empty, .new, .empty⟩

/-- The call waits in a new phase. -/
def await (call : Nat) (phase : ElevationPhase κ) : ElevationState κ :=
  { s with calls := s.calls.set call phase }

/-- The call is over. -/
def finish (call : Nat) : ElevationState κ :=
  { s with calls := s.calls.erase call }

/-- The call ends: a request gets its answer, a timer has nobody to tell. -/
def respond (call : Nat) (origin : Option (ElevationRequest κ))
    (result : Result (Option AdminReadElevation)) : ElevationState κ × List (ElevationEvent κ) :=
  (s.finish call, (origin.map fun request => .resolved call request.input result).toList)

/-- `syncDisclosureApproval` up to its notification. -/
def syncDisclosureApproval (call : Nat) (request : ElevationRequest κ)
    (elevation : AdminReadElevation) (now : Time) :
    ElevationState κ × List (ElevationEvent κ) :=
  let cached := request.cached elevation
  let (changedChats, store) :=
    s.disclosureStore.set [cached.chatId] cached.session.sessionKey cached.disclosure now
  ({ s.await call (.approving request elevation changedChats) with disclosureStore := store },
    [.notify call changedChats false])

/-- The rollback of `syncDisclosureApproval` up to its notification. -/
def rollBackApproval (call : Nat) (request : ElevationRequest κ) (elevation : AdminReadElevation)
    (reason : SignetError) (now : Time) : ElevationState κ × List (ElevationEvent κ) :=
  let cached := request.cached elevation
  let (rollbackChats, store) :=
    s.disclosureStore.delete [cached.chatId] cached.session.sessionKey now
  ({ s.await call (.approvalRollback request reason rollbackChats) with disclosureStore := store },
    [.notify call rollbackChats false])

/-- `syncDisclosureExpiry` up to its notification. -/
def syncDisclosureExpiry (call : Nat) (cause : ExpiryCause κ) (cached : CachedElevation)
    (now : Time) : ElevationState κ × List (ElevationEvent κ) :=
  let (changedChats, store) :=
    s.disclosureStore.delete [cached.chatId] cached.session.sessionKey now
  ({ s.await call (.expirySync cause cached changedChats) with disclosureStore := store },
    [.notify call changedChats false])

/-- The rollback of `syncDisclosureExpiry` up to its notification. -/
def restoreExpired (call : Nat) (cause : ExpiryCause κ) (cached : CachedElevation)
    (reason : SignetError) : ElevationState κ × List (ElevationEvent κ) :=
  let store :=
    s.disclosureStore.restore [cached.chatId] cached.session.sessionKey cached.disclosure
  ({ s.await call (.expiryRestore cause cached reason) with disclosureStore := store },
    [.notify call [cached.chatId] true])

/-- Drop an elevation from the cache and clear its timer. -/
def dropCached (cached : CachedElevation) : ElevationState κ :=
  { s with
    cache := s.cache.erase cached.key
    expirationTimers := s.expirationTimers.erase cached.key }

/-- `expireCachedElevation` up to its notification. -/
def expireCachedElevation (call : Nat) (origin : Option (ElevationRequest κ))
    (cached : CachedElevation) (now : Time) : ElevationState κ × List (ElevationEvent κ) :=
  (s.dropCached cached).syncDisclosureExpiry call (.expired origin) cached now

/-- `syncDisclosureExpiry` returns to the code that called it. -/
def expirySynced (call : Nat) (cause : ExpiryCause κ) (result : Result Unit) :
    ElevationState κ × List (ElevationEvent κ) :=
  match cause with
  | .expired origin => (s.await call (.expiredAudit origin result), [])
  | .auditFailed request reason =>
    s.respond call (some request) (.error (match result with | .ok () => reason | .error e => e))

/-- `expireCachedElevation` returns: a request goes on to the approver. -/
def expired (call : Nat) (origin : Option (ElevationRequest κ)) (result : Result Unit) :
    ElevationState κ × List (ElevationEvent κ) :=
  match origin, result with
  | none, _ => s.respond call none (.ok none)
  | some request, .error e => s.respond call (some request) (.error e)
  | some request, .ok () => (s.await call (.authorizing request), [])

/-- `cache.set` and `scheduleExpiration`, which replaces a timer under the same key. -/
def cacheElevation (cached : CachedElevation) : ElevationState κ :=
  { s with
    cache := s.cache.set cached.key cached
    expirationTimers := s.expirationTimers.set cached.key cached }

end ElevationState

/-- The errors of a refresh that could not be rolled back; the context repeats both
messages. -/
def approvalRollbackError : SignetError :=
  .internalError "Failed to roll back admin read disclosure refresh"

@[inherit_doc approvalRollbackError]
def expiryRollbackError : SignetError :=
  .internalError "Failed to roll back expired admin read disclosure refresh"

/-! ### The step -/

section Step

variable {κ : Type} (ttlMs : Nat)

/-- The elevation that is made out at `now`. -/
def newElevation (request : ElevationRequest κ) (approvalId fingerprint : String) (now : Time) :
    AdminReadElevation where
  approvalId := approvalId
  chatIds := [request.canonicalChatId]
  approvedAt := now
  expiresAt := now + ttlMs
  approvalKeyFingerprint := fingerprint

/-- `resolveForRequest` up to its first `await`. -/
def startResolve (s : ElevationState κ) (call : Nat) (input : ResolveInput κ)
    (idMappings : Option IdMappings) (now : Time) :
    ElevationState κ × List (ElevationEvent κ) :=
  match input.chatId? with
  | none => (s, [.resolved call input (.ok none)])
  | some chatId =>
    let request : ElevationRequest κ := ⟨input, normalizeChatId idMappings chatId⟩
    match s.cache.get? request.cacheKey with
    | none => (s.await call (.authorizing request), [])
    | some cached =>
      if now < cached.elevation.expiresAt then
        (s.await call (.reuseAudit request cached), [])
      else s.expireCachedElevation call (some request) cached now

/-- The notification a call waits for has returned. -/
def resumeNotified (s : ElevationState κ) (call : Nat) (phase : ElevationPhase κ)
    (result : Result Unit) (now : Time) :
    Option (ElevationState κ × List (ElevationEvent κ)) :=
  match phase, result with
  | .approving request elevation _, .ok () =>
    some (s.await call (.approvedAudit request elevation), [])
  | .approving request elevation _, .error e =>
    some (s.rollBackApproval call request elevation e now)
  | .approvalRollback request reason _, .ok () =>
    some (s.await call (.failureAudit (some request) reason), [])
  | .approvalRollback request _ _, .error _ =>
    some (s.await call (.failureAudit (some request) approvalRollbackError), [])
  | .expirySync cause _ _, .ok () => some (s.expirySynced call cause (.ok ()))
  | .expirySync cause cached _, .error e => some (s.restoreExpired call cause cached e)
  | .expiryRestore cause _ reason, .ok () => some (s.expirySynced call cause (.error reason))
  | .expiryRestore cause _ _, .error _ =>
    some (s.expirySynced call cause (.error expiryRollbackError))
  | _, _ => none

/-- The audit entry a call waits for has been written, or could not be. -/
def resumeAudited (s : ElevationState κ) (call : Nat) (phase : ElevationPhase κ)
    (result : Result Unit) (now : Time) :
    Option (ElevationState κ × List (ElevationEvent κ)) :=
  match phase, result with
  | .reuseAudit request cached, .ok () =>
    some (s.respond call (some request) (.ok (some cached.elevation)))
  | .reuseAudit request _, .error e => some (s.respond call (some request) (.error e))
  | .approvedAudit request elevation, .ok () =>
    some ((s.cacheElevation (request.cached elevation)).respond call (some request)
      (.ok (some elevation)))
  | .approvedAudit request elevation, .error e =>
    some (s.syncDisclosureExpiry call (.auditFailed request e) (request.cached elevation) now)
  | .expiredAudit origin (.error reason), _ =>
    -- the failed refresh is reported, whatever became of the entry about the expiry
    some (s.await call (.failureAudit origin reason), [])
  | .expiredAudit origin (.ok ()), result => some (s.expired call origin result)
  | .failureAudit origin reason, .ok () => some (s.respond call origin (.error reason))
  | .failureAudit origin _, .error e => some (s.respond call origin (.error e))
  | _, _ => none

/-- One segment of one call. -/
def elevationStep (s : ElevationState κ) :
    ElevationAction κ → Option (ElevationState κ × List (ElevationEvent κ))
  | .resolve call input idMappings now =>
    if s.calls.has call then none else some (startResolve s call input idMappings now)
  | .timer call cacheKey now =>
    if s.calls.has call then none
    else
      match s.expirationTimers.get? cacheKey with
      | none => none
      | some cached =>
        if now < cached.elevation.expiresAt then none
        else some (s.expireCachedElevation call none cached now)
  | .authorized call result =>
    match s.calls.get? call, result with
    | some (.authorizing request), .ok () =>
      some (s.await call (.fingerprinting request), [.authorized call request.input.session])
    | some (.authorizing request), .error e =>
      some (s.await call (.failureAudit (some request) e), [])
    | _, _ => none
  | .fingerprint call result approvalId now =>
    match s.calls.get? call, result with
    | some (.fingerprinting request), .ok fingerprint =>
      let elevation := newElevation ttlMs request approvalId fingerprint now
      let (s', es) := s.syncDisclosureApproval call request elevation now
      some (s', .approved call request.input.session elevation :: es)
    | some (.fingerprinting request), .error e => some (s.respond call (some request) (.error e))
    | _, _ => none
  | .notified call result now =>
    match s.calls.get? call with
    | none => none
    | some phase =>
      if phase.notifiesNobody && !result.isOk then none
      else resumeNotified s call phase result now
  | .audited call result now =>
    match s.calls.get? call with
    | none => none
    | some phase => resumeAudited s call phase result now

end Step

/-- The cached elevation that a request is about to reuse, with the request. -/
def ElevationState.reused? {κ : Type} (s : ElevationState κ) :
    ElevationAction κ → Option (ElevationRequest κ × CachedElevation)
  | .resolve _ input idMappings now =>
    input.chatId?.bind fun chatId =>
      let request : ElevationRequest κ := ⟨input, normalizeChatId idMappings chatId⟩
      ((s.cache.get? request.cacheKey).filter (now < ·.elevation.expiresAt)).map (request, ·)
  | _ => none

/-! ### What a step can do -/

/-- The outcomes of a step, by the segment that ran. -/
inductive ElevationStep {κ : Type} (ttlMs : Nat) (s : ElevationState κ) :
    ElevationAction κ → ElevationState κ → List (ElevationEvent κ) → Prop
  /-- Nothing is asked for. -/
  | skipped {call : Nat} {input : ResolveInput κ} {idMappings : Option IdMappings} {now : Time}
      (hchat : input.chatId? = none) :
      ElevationStep ttlMs s (.resolve call input idMappings now) s
        [.resolved call input (.ok none)]
  /-- A cached elevation is found. -/
  | reused {call : Nat} {input : ResolveInput κ} {idMappings : Option IdMappings} {now : Time}
      {chatId : String} {cached : CachedElevation} (hnew : s.calls.get? call = none)
      (hchat : input.chatId? = some chatId)
      (hcached : s.cache.get? (buildCacheKey input.session (normalizeChatId idMappings chatId)) =
        some cached)
      (hlive : now < cached.elevation.expiresAt) :
      ElevationStep ttlMs s (.resolve call input idMappings now)
        (s.await call (.reuseAudit ⟨input, normalizeChatId idMappings chatId⟩ cached)) []
  /-- A cached elevation is found that has expired. -/
  | expiredFound {call : Nat} {input : ResolveInput κ} {idMappings : Option IdMappings}
      {now : Time} {chatId : String} {cached : CachedElevation}
      (hnew : s.calls.get? call = none) (hchat : input.chatId? = some chatId)
      (hcached : s.cache.get? (buildCacheKey input.session (normalizeChatId idMappings chatId)) =
        some cached)
      (hexpired : cached.elevation.expiresAt ≤ now) :
      ElevationStep ttlMs s (.resolve call input idMappings now)
        (s.expireCachedElevation call (some ⟨input, normalizeChatId idMappings chatId⟩) cached
          now).1
        (s.expireCachedElevation call (some ⟨input, normalizeChatId idMappings chatId⟩) cached
          now).2
  /-- A timer is due. -/
  | timer {call : Nat} {cacheKey : String} {now : Time} {cached : CachedElevation}
      (hnew : s.calls.get? call = none)
      (htimer : s.expirationTimers.get? cacheKey = some cached)
      (hexpired : cached.elevation.expiresAt ≤ now) :
      ElevationStep ttlMs s (.timer call cacheKey now)
        (s.expireCachedElevation call none cached now).1
        (s.expireCachedElevation call none cached now).2
  /-- The approver is asked. -/
  | asked {call : Nat} {input : ResolveInput κ} {idMappings : Option IdMappings} {now : Time}
      {chatId : String} (hnew : s.calls.get? call = none) (hchat : input.chatId? = some chatId) :
      ElevationStep ttlMs s (.resolve call input idMappings now)
        (s.await call (.authorizing ⟨input, normalizeChatId idMappings chatId⟩)) []
  /-- The approver has said yes. -/
  | authorized {call : Nat} {request : ElevationRequest κ}
      (hcall : s.calls.get? call = some (.authorizing request)) :
      ElevationStep ttlMs s (.authorized call (.ok ())) (s.await call (.fingerprinting request))
        [.authorized call request.input.session]
  /-- An elevation is made out and disclosed. -/
  | approved {call : Nat} {request : ElevationRequest κ} {fingerprint approvalId : String}
      {now : Time} (hcall : s.calls.get? call = some (.fingerprinting request)) :
      ElevationStep ttlMs s (.fingerprint call (.ok fingerprint) approvalId now)
        (s.syncDisclosureApproval call request
          (newElevation ttlMs request approvalId fingerprint now) now).1
        (.approved call request.input.session
            (newElevation ttlMs request approvalId fingerprint now) ::
          (s.syncDisclosureApproval call request
            (newElevation ttlMs request approvalId fingerprint now) now).2)
  /-- A call moves on; it is about to return nothing, and may change the disclosure
  of no chat, that it was not before. -/
  | moved {a : ElevationAction κ} {call : Nat} {phase phase' : ElevationPhase κ}
      (hcall : s.calls.get? call = some phase)
      (hgrant : phase'.grant? = none ∨ phase'.grant? = phase.grant?)
      (hrest : phase'.withdrawn? = none ∧ ∀ request, phase' ≠ .fingerprinting request)
      (hreuse : ∀ request cached, phase' ≠ .reuseAudit request cached)
      (hchats : phase'.chats ⊆ phase.chats) (hrequest : phase'.request? = phase.request?) :
      ElevationStep ttlMs s a (s.await call phase') []
  | ended {a : ElevationAction κ} {call : Nat} {phase : ElevationPhase κ}
      {es : List (ElevationEvent κ)} (hcall : s.calls.get? call = some phase)
      (hes : es = [] ∨ ∃ input e, es = [.resolved call input (.error e)]) :
      ElevationStep ttlMs s a (s.finish call) es
  /-- The approval could not be published and is taken back. -/
  | rolledBack {call : Nat} {request : ElevationRequest κ} {elevation : AdminReadElevation}
      {changedChats : List String} {e : SignetError} {now : Time}
      (hcall : s.calls.get? call = some (.approving request elevation changedChats)) :
      ElevationStep ttlMs s (.notified call (.error e) now)
        (s.rollBackApproval call request elevation e now).1
        (s.rollBackApproval call request elevation e now).2
  /-- The approval could not be audited and is taken back. -/
  | auditFailed {call : Nat} {request : ElevationRequest κ} {elevation : AdminReadElevation}
      {e : SignetError} {now : Time}
      (hcall : s.calls.get? call = some (.approvedAudit request elevation)) :
      ElevationStep ttlMs s (.audited call (.error e) now)
        (s.syncDisclosureExpiry call (.auditFailed request e) (request.cached elevation) now).1
        (s.syncDisclosureExpiry call (.auditFailed request e) (request.cached elevation) now).2
  /-- The end of a disclosure could not be published; it is restored. -/
  | restored {call : Nat} {cause : ExpiryCause κ} {cached : CachedElevation}
      {changedChats : List String} {e : SignetError} {now : Time}
      (hcall : s.calls.get? call = some (.expirySync cause cached changedChats)) :
      ElevationStep ttlMs s (.notified call (.error e) now)
        (s.restoreExpired call cause cached e).1 (s.restoreExpired call cause cached e).2
  | returnedReused {call : Nat} {request : ElevationRequest κ} {cached : CachedElevation}
      {now : Time} (hcall : s.calls.get? call = some (.reuseAudit request cached)) :
      ElevationStep ttlMs s (.audited call (.ok ()) now) (s.finish call)
        [.resolved call request.input (.ok (some cached.elevation))]
  /-- A new elevation is cached and returned. -/
  | returnedApproved {call : Nat} {request : ElevationRequest κ} {elevation : AdminReadElevation}
      {now : Time} (hcall : s.calls.get? call = some (.approvedAudit request elevation)) :
      ElevationStep ttlMs s (.audited call (.ok ()) now)
        ((s.cacheElevation (request.cached elevation)).finish call)
        [.resolved call request.input (.ok (some elevation))]

section Sound

variable {κ : Type} {ttlMs : Nat} {s s' : ElevationState κ} {es : List (ElevationEvent κ)}

/-- The end of a call without an elevation. -/
private theorem ElevationStep.respond {a : ElevationAction κ} {call : Nat}
    {phase : ElevationPhase κ} {origin : Option (ElevationRequest κ)} {e : SignetError}
    (hcall : s.calls.get? call = some phase)
    (h : s.respond call origin (.error e) = (s', es)) : ElevationStep ttlMs s a s' es := by
  cases h
  cases origin with
  | none => exact .ended hcall (.inl rfl)
  | some request => exact .ended hcall (.inr ⟨request.input, e, rfl⟩)

/-- A call that waits for one reply moves on to one that returns nothing. -/
private theorem ElevationStep.expirySynced {a : ElevationAction κ} {call : Nat}
    {phase : ElevationPhase κ} {cause : ExpiryCause κ} {result : Result Unit}
    (hcall : s.calls.get? call = some phase) (hchats : cause.chats ⊆ phase.chats)
    (hrequest : cause.request? = phase.request?)
    (h : s.expirySynced call cause result = (s', es)) : ElevationStep ttlMs s a s' es := by
  cases cause with
  | expired origin =>
    cases h
    -- the disclosure is withdrawn, and the request goes on to the audit
    exact .moved hcall (.inl rfl) ⟨rfl, by rintro _ ⟨⟩⟩ nofun hchats hrequest
  | auditFailed request reason => exact .respond hcall h

private theorem startResolve_sound {call : Nat} {input : ResolveInput κ}
    {idMappings : Option IdMappings} {now : Time} (hnew : s.calls.get? call = none) :
    ElevationStep ttlMs s (.resolve call input idMappings now)
      (startResolve s call input idMappings now).1
      (startResolve s call input idMappings now).2 := by
  unfold startResolve
  cases hchat : input.chatId? with
  | none => exact .skipped hchat
  | some chatId =>
    dsimp only
    cases hcached : s.cache.get?
        (ElevationRequest.mk input (normalizeChatId idMappings chatId)).cacheKey with
    | none => exact .asked hnew hchat
    | some cached =>
      dsimp only
      -- a cached elevation is reused while it lives, and expires otherwise
      by_cases hlive : now < cached.elevation.expiresAt
      · rw [if_pos hlive]
        exact .reused hnew hchat hcached hlive
      · rw [if_neg hlive]
        exact .expiredFound hnew hchat hcached (Nat.not_lt.1 hlive)

private theorem resumeNotified_sound {call : Nat} {phase : ElevationPhase κ}
    {result : Result Unit} {now : Time} (hcall : s.calls.get? call = some phase)
    (h : resumeNotified s call phase result now = some (s', es)) :
    ElevationStep ttlMs s (.notified call result now) s' es := by
  unfold resumeNotified at h
  -- the phases in the order of the definition
  split at h
  · cases h; exact .moved hcall (.inr rfl) ⟨rfl, nofun⟩ nofun (List.Subset.refl _) rfl
  · cases h; exact .rolledBack hcall
  · cases h; exact .moved hcall (.inl rfl) ⟨rfl, by rintro _ ⟨⟩⟩ nofun (List.nil_subset _) rfl
  · cases h; exact .moved hcall (.inl rfl) ⟨rfl, by rintro _ ⟨⟩⟩ nofun (List.nil_subset _) rfl
  · exact .expirySynced hcall (List.subset_cons_self _ _) rfl (Option.some.inj h)
  · cases h; exact .restored hcall
  · exact .expirySynced hcall (List.Subset.refl _) rfl (Option.some.inj h)
  · exact .expirySynced hcall (List.Subset.refl _) rfl (Option.some.inj h)
  · cases h

private theorem resumeAudited_sound {call : Nat} {phase : ElevationPhase κ}
    {result : Result Unit} {now : Time} (hcall : s.calls.get? call = some phase)
    (h : resumeAudited s call phase result now = some (s', es)) :
    ElevationStep ttlMs s (.audited call result now) s' es := by
  unfold resumeAudited at h
  split at h
  · cases h; exact .returnedReused hcall
  · exact .respond hcall (Option.some.inj h)
  · cases h; exact .returnedApproved hcall
  · cases h; exact .auditFailed hcall
  · cases h; exact .moved hcall (.inl rfl) ⟨rfl, by rintro _ ⟨⟩⟩ nofun (List.nil_subset _) rfl
  · next origin =>
    -- a timer is done, a request fails or goes on to the approver
    cases origin with
    | none => cases h; exact .ended hcall (.inl rfl)
    | some request =>
      cases result with
      | error e => cases h; exact .ended hcall (.inr ⟨request.input, e, rfl⟩)
      | ok _ =>
        cases h
        exact .moved hcall (.inl rfl) ⟨rfl, by rintro _ ⟨⟩⟩ nofun (List.Subset.refl _) rfl
  · exact .respond hcall (Option.some.inj h)
  · exact .respond hcall (Option.some.inj h)
  · cases h

/-- **Inversion of a step.** -/
theorem elevationStep_sound {a : ElevationAction κ} (h : elevationStep ttlMs s a = some (s', es)) :
    ElevationStep ttlMs s a s' es := by
  cases a with
  | resolve call input idMappings now =>
    dsimp only [elevationStep] at h
    split at h
    · cases h
    · next hnew =>
      have hsound : ElevationStep ttlMs s (.resolve call input idMappings now) _ _ :=
        startResolve_sound (OrdMap.get?_eq_none_of_not_has hnew)
      rw [Option.some.inj h] at hsound
      exact hsound
  | timer call cacheKey now =>
    dsimp only [elevationStep] at h
    split at h
    · cases h
    · next hnew =>
      split at h
      · cases h
      · next cached htimer =>
        split at h
        · cases h
        · next hexpired =>
          cases h
          exact .timer (OrdMap.get?_eq_none_of_not_has hnew) htimer (Nat.not_lt.1 hexpired)
  | authorized call result =>
    dsimp only [elevationStep] at h
    split at h
    · next hcall => cases h; exact .authorized hcall
    · next hcall =>
      cases h
      exact .moved hcall (.inl rfl) ⟨rfl, by rintro _ ⟨⟩⟩ (by rintro _ _ ⟨⟩) (List.nil_subset _) rfl
    · cases h
  | fingerprint call result approvalId now =>
    dsimp only [elevationStep] at h
    split at h
    · next hcall => cases h; exact .approved hcall
    · next hcall => exact .respond hcall (Option.some.inj h)
    · cases h
  | notified call result now =>
    dsimp only [elevationStep] at h
    split at h
    · cases h
    · next hcall =>
      split at h
      · cases h
      · exact resumeNotified_sound hcall h
  | audited call result now =>
    dsimp only [elevationStep] at h
    split at h
    · cases h
    · next hcall => exact resumeAudited_sound hcall h

end Sound

end Signet
