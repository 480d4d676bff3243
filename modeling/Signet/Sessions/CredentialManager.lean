import Signet.Lib.OrdMap
import Signet.Policy.RevealState
import Signet.Schemas.Credential
import Signet.Sessions.Materiality
import Mathlib.Data.List.Sort

/-!
# The internal credential manager

`createCredentialManager`: an in-memory store of credential records with
issuance, lookup, renewal, revocation, heartbeats and sweeps. Every operation is
synchronous, so each is one function from store to `Outcome`: the store after
it, the effects it had on the way (hooks fired, records created) and its result.
The clock is read once per operation.

What the operations leave alone is the subject of `Sessions.RecordFrame`.
-/

namespace Signet

open Lib

/-- `CredentialManagerConfig`, with the defaults of `DEFAULT_CONFIG`. -/
structure CredentialManagerConfig where
  defaultTtlSeconds : Nat := 3600
  maxConcurrentPerOperator : Nat := 3
  renewalWindowSeconds : Nat := 300
  heartbeatGracePeriod : Nat := 3
  deriving DecidableEq

structure InternalCredentialRecord where
  credentialId : String
  token : String
  operatorId : String
  chatIds : List String
  effectiveScopes : ScopeSet
  resolvedScopes : List PermissionScope
  policyHash : String
  status : CredentialStatus
  heartbeatInterval : Nat
  lastHeartbeat : Time
  issuedAt : Time
  expiresAt : Time
  issuedBy : String
  ttlMs : Nat
  revokedAt : Option Time
  revocationReason : Option CredentialRevocationReason
  deriving DecidableEq

/-- What an operation does besides changing the store. -/
inductive CredentialEffect where
  /-- `onCredentialMutated` fires. -/
  | mutated (credentialId : String)
  /-- `onCredentialRevoked` fires with the updated record. -/
  | revoked (record : InternalCredentialRecord)
  | stored (record : InternalCredentialRecord)
  deriving DecidableEq

/-- The maps of `createCredentialManager`. -/
structure CredentialStore where
  byId : OrdMap String InternalCredentialRecord
  /-- Token to credential id. -/
  byToken : OrdMap String String
  /-- Operator id to credential ids. -/
  byOperator : OrdMap String (List String)
  revealStates : OrdMap String RevealState

/-- The store as created. -/
def CredentialStore.new : CredentialStore :=
  ⟨.empty, .empty, .empty, .empty⟩

/-- The store after an operation, the effects on the way and the result. -/
structure Outcome (α : Type) where
  store : CredentialStore
  effects : List CredentialEffect
  value : α

/-- The part of `Partial<InternalCredentialRecord>` that callers pass to
`mutateRecord`; an absent field keeps the existing value. -/
structure RecordUpdates where
  effectiveScopes : Option ScopeSet := none
  resolvedScopes : Option (List PermissionScope) := none
  policyHash : Option String := none
  status : Option CredentialStatus := none
  lastHeartbeat : Option Time := none
  expiresAt : Option Time := none
  revokedAt : Option Time := none
  revocationReason : Option CredentialRevocationReason := none

/-- The record `mutateRecord` writes. -/
def InternalCredentialRecord.updatedWith (existing : InternalCredentialRecord)
    (updates : RecordUpdates) : InternalCredentialRecord :=
  { existing with
    effectiveScopes := updates.effectiveScopes.getD existing.effectiveScopes
    resolvedScopes := updates.resolvedScopes.getD existing.resolvedScopes
    policyHash := updates.policyHash.getD existing.policyHash
    status := updates.status.getD existing.status
    lastHeartbeat := updates.lastHeartbeat.getD existing.lastHeartbeat
    expiresAt := updates.expiresAt.getD existing.expiresAt
    revokedAt := updates.revokedAt.or existing.revokedAt
    revocationReason := updates.revocationReason.or existing.revocationReason }

/-- The updates that fire `onCredentialMutated`. -/
def RecordUpdates.policyChanged (updates : RecordUpdates) : Bool :=
  updates.effectiveScopes.isSome || updates.status.isSome || updates.revokedAt.isSome ||
    updates.policyHash.isSome

namespace CredentialStore

variable (m : CredentialStore)

/-! ### Helpers of the closure -/

def upsertRecord (record : InternalCredentialRecord) : CredentialStore :=
  let operatorCreds := (m.byOperator.get? record.operatorId).getD []
  { m with
    byId := m.byId.set record.credentialId record
    byToken := m.byToken.set record.token record.credentialId
    byOperator := m.byOperator.set record.operatorId
      (if record.credentialId ∈ operatorCreds then operatorCreds
       else operatorCreds ++ [record.credentialId]) }

def mutateRecord (credentialId : String) (updates : RecordUpdates) :
    Outcome (Result InternalCredentialRecord) :=
  match m.byId.get? credentialId with
  | none =>
    ⟨m, [], .error (.internalError ("Credential " ++ credentialId ++ " not found in store"))⟩
  | some existing =>
    let updated := existing.updatedWith updates
    ⟨{ m with byId := m.byId.set credentialId updated },
      if updates.policyChanged then [.mutated credentialId] else [], .ok updated⟩

def getActiveForOperator (operatorId : String) : List InternalCredentialRecord :=
  (((m.byOperator.get? operatorId).getD []).filterMap m.byId.get?).filter (·.status = .active)

/-- `cleanupRevealState`: empty the reveal store of the credential, if it has one. -/
def cleanupRevealState (credentialId : String) : CredentialStore :=
  match m.revealStates.get? credentialId with
  | some _ => { m with revealStates := m.revealStates.set credentialId [] }
  | none => m

def revokeRecord (credentialId : String) (reason : CredentialRevocationReason) (now : Time) :
    Outcome (Result InternalCredentialRecord) :=
  let result := (m.cleanupRevealState credentialId).mutateRecord credentialId
    { status := some .revoked, revokedAt := some now, revocationReason := some reason }
  match result.value with
  | .ok record => { result with effects := result.effects ++ [.revoked record] }
  | .error _ => result

/-! ### Operations -/

def buildScopeSet (config : CredentialConfig) : ScopeSet :=
  ⟨config.allow.getD [], config.deny.getD []⟩

/-- What an issuance draws or receives besides the configuration. -/
structure IssueOptions where
  credentialId : String
  issuedBy : String
  token : String
  now : Time

/-- The record `issueCredential` creates. -/
def newRecord (cfg : CredentialManagerConfig) (policyHash : String) (config : CredentialConfig)
    (options : IssueOptions) : InternalCredentialRecord :=
  let scopes := buildScopeSet config
  let ttlMs := config.ttlSeconds.getD cfg.defaultTtlSeconds * 1000
  { credentialId := options.credentialId
    token := options.token
    operatorId := config.operatorId
    chatIds := config.chatIds
    effectiveScopes := scopes
    resolvedScopes := resolveScopeSet scopes
    policyHash := policyHash
    status := .active
    heartbeatInterval := 30
    lastHeartbeat := options.now
    issuedAt := options.now
    expiresAt := options.now + ttlMs
    issuedBy := options.issuedBy
    ttlMs := ttlMs
    revokedAt := none
    revocationReason := none }

/-- `issueCredential` after the eviction: reuse an active record with the same
policy hash, or store a new one. -/
def reuseOrStore (cfg : CredentialManagerConfig) (policyHash : String)
    (config : CredentialConfig) (options : IssueOptions) :
    Outcome (Result InternalCredentialRecord) :=
  match (m.getActiveForOperator config.operatorId).find? (·.policyHash = policyHash) with
  | some existing => ⟨m, [], .ok existing⟩
  | none =>
    let record := newRecord cfg policyHash config options
    ⟨m.upsertRecord record, [.stored record], .ok record⟩

/-- The oldest active record of an operator that is at the limit. -/
def evicted (cfg : CredentialManagerConfig) (operatorId : String) :
    Option InternalCredentialRecord :=
  let active := m.getActiveForOperator operatorId
  if cfg.maxConcurrentPerOperator ≤ active.length then
    (active.insertionSort fun a b => a.issuedAt ≤ b.issuedAt).head?
  else none

/-- `issueCredential`. `hash` is `computePolicyHash`, the hash of the canonical
form of scopes and chats. -/
def issueCredential (cfg : CredentialManagerConfig) (hash : ScopeSet → List String → String)
    (config : CredentialConfig) (options : IssueOptions) :
    Outcome (Result InternalCredentialRecord) :=
  let policyHash := hash (buildScopeSet config) config.chatIds
  match m.evicted cfg config.operatorId with
  | none => m.reuseOrStore cfg policyHash config options
  | some oldest =>
    let revokeResult := m.revokeRecord oldest.credentialId .policyViolation options.now
    match revokeResult.value with
    | .error e => ⟨revokeResult.store, revokeResult.effects, .error e⟩
    | .ok _ =>
      let issued := revokeResult.store.reuseOrStore cfg policyHash config options
      { issued with effects := revokeResult.effects ++ issued.effects }

def getCredentialById (credentialId : String) : Result InternalCredentialRecord :=
  match m.byId.get? credentialId with
  | none => .error (.notFoundError "credential" credentialId)
  | some record => .ok record

/-- `getCredentialByToken`: an expired record is marked on the way. -/
def getCredentialByToken (token : String) (now : Time) :
    Outcome (Result InternalCredentialRecord) :=
  match m.byToken.get? token with
  | none => ⟨m, [], .error (.notFoundError "credential" token)⟩
  | some credentialId =>
    match m.byId.get? credentialId with
    | none => ⟨m, [], .error (.notFoundError "credential" token)⟩
    | some record =>
      if record.expiresAt ≤ now then
        let result := m.mutateRecord credentialId { status := some .expired }
        ⟨result.store, result.effects, .error (.credentialExpiredError credentialId)⟩
      else if record.status ≠ .active then
        ⟨m, [], .error (.credentialExpiredError credentialId)⟩
      else ⟨m, [], .ok record⟩

/-- `listCredentials`: the active records, of one operator or of all. -/
def listCredentials : Option String → List InternalCredentialRecord
  | some operatorId => m.getActiveForOperator operatorId
  | none => m.byId.values.filter (·.status = .active)

def recordHeartbeat (credentialId : String) (now : Time) : Outcome (Result Unit) :=
  match m.byId.get? credentialId with
  | none => ⟨m, [], .error (.notFoundError "credential" credentialId)⟩
  | some record =>
    if record.status ≠ .active then ⟨m, [], .error (.credentialExpiredError credentialId)⟩
    else
      let result := m.mutateRecord credentialId { lastHeartbeat := some now }
      ⟨result.store, result.effects, .ok ()⟩

def renewCredential (cfg : CredentialManagerConfig) (credentialId : String) (now : Time) :
    Outcome (Result InternalCredentialRecord) :=
  match m.byId.get? credentialId with
  | none => ⟨m, [], .error (.notFoundError "credential" credentialId)⟩
  | some record =>
    if record.status ≠ .active then ⟨m, [], .error (.credentialExpiredError credentialId)⟩
    else if now + cfg.renewalWindowSeconds * 1000 < record.expiresAt then
      ⟨m, [], .error (.authError "Not in renewal window" [("credentialId", credentialId)])⟩
    else m.mutateRecord credentialId { expiresAt := some (now + record.ttlMs) }

def updateCredentialScopes (hash : ScopeSet → List String → String) (credentialId : String)
    (scopes : ScopeSet) : Outcome (Result InternalCredentialRecord) :=
  match m.byId.get? credentialId with
  | none => ⟨m, [], .error (.notFoundError "credential" credentialId)⟩
  | some record =>
    if record.status ≠ .active then ⟨m, [], .error (.credentialExpiredError credentialId)⟩
    else
      m.mutateRecord credentialId
        { effectiveScopes := some scopes
          resolvedScopes := some (resolveScopeSet scopes)
          policyHash := some (hash scopes record.chatIds) }

def revokeCredential (credentialId : String) (reason : CredentialRevocationReason) (now : Time) :
    Outcome (Result InternalCredentialRecord) :=
  match m.byId.get? credentialId with
  | none => ⟨m, [], .error (.notFoundError "credential" credentialId)⟩
  | some _ => m.revokeRecord credentialId reason now

def revokeAllCredentials (operatorId : String) (reason : CredentialRevocationReason)
    (now : Time) : Outcome (List InternalCredentialRecord) :=
  (m.getActiveForOperator operatorId).foldl
    (fun o cred =>
      let result := o.store.revokeRecord cred.credentialId reason now
      ⟨result.store, o.effects ++ result.effects,
        match result.value with
        | .ok record => o.value ++ [record]
        | .error _ => o.value⟩)
    ⟨m, [], []⟩

/-- `getRevealState`: the reveal store of a credential, created on first use. -/
def getRevealState (credentialId : String) : Outcome (Result RevealState) :=
  match m.byId.get? credentialId with
  | none => ⟨m, [], .error (.notFoundError "credential" credentialId)⟩
  | some _ =>
    match m.revealStates.get? credentialId with
    | some store => ⟨m, [], .ok store⟩
    | none => ⟨{ m with revealStates := m.revealStates.set credentialId [] }, [], .ok []⟩

def setCredentialStatus (credentialId : String) (status : CredentialStatus) :
    Outcome (Result InternalCredentialRecord) :=
  match m.byId.get? credentialId with
  | none => ⟨m, [], .error (.notFoundError "credential" credentialId)⟩
  | some _ => m.mutateRecord credentialId { status := some status }

/-- `checkMateriality` of the manager: compare with the stored scopes. -/
def checkMateriality (credentialId : String) (newScopes : ScopeSet) :
    Result DetailedMaterialityCheck :=
  match m.byId.get? credentialId with
  | none => .error (.notFoundError "credential" credentialId)
  | some record => .ok (Signet.checkMateriality record.effectiveScopes newScopes)

def heartbeatDeadline (cfg : CredentialManagerConfig) (record : InternalCredentialRecord) : Time :=
  record.lastHeartbeat + record.heartbeatInterval * 1000 + cfg.heartbeatGracePeriod * 1000

def isHeartbeatStale (cfg : CredentialManagerConfig) (credentialId : String) (now : Time) :
    Result Bool :=
  match m.byId.get? credentialId with
  | none => .error (.notFoundError "credential" credentialId)
  | some record =>
    if record.status ≠ .active then .ok false
    else .ok (heartbeatDeadline cfg record ≤ now)

/-- One turn of the loop of `sweepExpired`: expiry first, then the heartbeat. -/
def sweepRecord (cfg : CredentialManagerConfig) (now : Time)
    (o : Outcome (List InternalCredentialRecord)) (record : InternalCredentialRecord) :
    Outcome (List InternalCredentialRecord) :=
  if record.status ≠ .active then o
  else
    let result : Option (Outcome (Result InternalCredentialRecord)) :=
      if record.expiresAt ≤ now then
        some ((o.store.cleanupRevealState record.credentialId).mutateRecord record.credentialId
          { status := some .expired })
      else if heartbeatDeadline cfg record ≤ now then
        some (o.store.revokeRecord record.credentialId .heartbeatTimeout now)
      else none
    match result with
    | none => o
    | some result =>
      ⟨result.store, o.effects ++ result.effects,
        match result.value with
        | .ok swept => o.value ++ [swept]
        | .error _ => o.value⟩

/-- `sweepExpired`. A turn only rewrites the record it is about, so the loop sees
the records as they were at its start. -/
def sweepExpired (cfg : CredentialManagerConfig) (now : Time) :
    Outcome (List InternalCredentialRecord) :=
  m.byId.values.foldl (sweepRecord cfg now) ⟨m, [], []⟩

end CredentialStore

end Signet
