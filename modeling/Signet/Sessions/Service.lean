import Signet.Sessions.RecordFrame

/-!
# The credential service and its update entry points

`createCredentialService`, the public API over the internal manager, and the two
other ways to change the scopes of a credential: the action
`credential.updateScopes` and the WebSocket request `update_scopes`.

Operations that await something in the middle (the policy lookup, the lookup of
the action) are cut there; everything else is one synchronous segment.
-/

namespace Signet

open Lib

/-! ### Mapping records -/

def toSchemaCredentialRecord (record : InternalCredentialRecord) : SchemaCredentialRecord where
  credentialId := record.credentialId
  operatorId := record.operatorId
  chatIds := record.chatIds
  effectiveScopes := record.effectiveScopes
  status := record.status
  issuedAt := record.issuedAt
  expiresAt := record.expiresAt
  issuedBy := record.issuedBy

def toCredentialRecord (record : InternalCredentialRecord) (now : Time) : CredentialRecord where
  toSchemaCredentialRecord := toSchemaCredentialRecord record
  isExpired := record.status = .expired || record.expiresAt ≤ now
  lastHeartbeat := record.lastHeartbeat

def toIssuedCredential (record : InternalCredentialRecord) : IssuedCredential where
  token := record.token
  credential := toSchemaCredentialRecord record

namespace Service

variable (cfg : CredentialManagerConfig) (hash : ScopeSet → List String → String)
  (m : CredentialStore)

/-! ### Issue, list, lookup, revoke, renew -/

/-- The configuration `issue` goes on with once the policy is resolved. -/
def withPolicyScopes (config : CredentialConfig) (scopes : ScopeSet) : CredentialConfig :=
  { config with allow := some scopes.allow, deny := some scopes.deny }

/-- `issue` from the resolved configuration on. -/
def issueFinish (config : CredentialConfig) (options : CredentialStore.IssueOptions) :
    Outcome (Result IssuedCredential) :=
  let created := m.issueCredential cfg hash config options
  ⟨created.store, created.effects, created.value.map toIssuedCredential⟩

/-- `list`: sweep, then the active records. -/
def list (operatorId : Option String) (now : Time) : Outcome (List CredentialRecord) :=
  let swept := m.sweepExpired cfg now
  ⟨swept.store, swept.effects,
    (swept.store.listCredentials operatorId).map (toCredentialRecord · now)⟩

/-- `lookup`: sweep, then the record whatever its status. -/
def lookup (credentialId : String) (now : Time) : Outcome (Result CredentialRecord) :=
  let swept := m.sweepExpired cfg now
  ⟨swept.store, swept.effects,
    (swept.store.getCredentialById credentialId).map (toCredentialRecord · now)⟩

def lookupByToken (token : String) (now : Time) : Outcome (Result CredentialRecord) :=
  let result := m.getCredentialByToken token now
  ⟨result.store, result.effects, result.value.map (toCredentialRecord · now)⟩

def revoke (credentialId : String) (reason : CredentialRevocationReason) (now : Time) :
    Outcome (Result Unit) :=
  let result := m.revokeCredential credentialId reason now
  ⟨result.store, result.effects, result.value.map fun _ => ()⟩

def renew (credentialId : String) (now : Time) : Outcome (Result CredentialToken) :=
  let result := m.renewCredential cfg credentialId now
  ⟨result.store, result.effects, result.value.map fun record =>
    ⟨record.credentialId, record.operatorId, record.issuedAt, record.expiresAt⟩⟩

/-! ### Update -/

/-- `Partial<CredentialConfigType>`. -/
structure CredentialChanges where
  operatorId : Option String := none
  chatIds : Option (List String) := none
  ttlSeconds : Option Nat := none
  policyId : Option String := none
  allow : Option (List PermissionScope) := none
  deny : Option (List PermissionScope) := none
  deriving DecidableEq

/-- The changes name a field an update must not touch. -/
def CredentialChanges.touchesIdentity (changes : CredentialChanges) : Bool :=
  changes.operatorId.isSome || changes.chatIds.isSome || changes.ttlSeconds.isSome

def CredentialChanges.hasScopeChanges (changes : CredentialChanges) : Bool :=
  changes.allow.isSome || changes.deny.isSome || changes.policyId.isSome

/-- The scopes an update asks for: each list given, or the one in force. -/
def nextScopes (current : ScopeSet) (allow deny : Option (List PermissionScope)) : ScopeSet :=
  ⟨allow.getD current.allow, deny.getD current.deny⟩

/-- `update` from the next scopes on: revoke on an escalation, apply otherwise. -/
def updateFinish (credentialId : String) (next : ScopeSet) (now : Time) :
    Outcome (Result CredentialRecord) :=
  match m.checkMateriality credentialId next with
  | .error e => ⟨m, [], .error e⟩
  | .ok check =>
    let result :=
      if check.requiresReauthorization then
        m.revokeCredential credentialId .reauthorizationRequired now
      else m.updateCredentialScopes hash credentialId next
    ⟨result.store, result.effects, result.value.map (toCredentialRecord · now)⟩

/-- What `update` does before it awaits: answer, go on with the next scopes, or
look up a policy. -/
inductive UpdateStart where
  | answer (result : Result CredentialRecord)
  | apply (next : ScopeSet)
  | awaitPolicy (policyId : String)

/-- `update` up to the policy lookup. -/
def updateStart (credentialId : String) (changes : CredentialChanges) (now : Time) :
    UpdateStart :=
  match m.getCredentialById credentialId with
  | .error e => .answer (.error e)
  | .ok current =>
    if changes.touchesIdentity then
      .answer (.error (.validationError "changes"
        "Credential updates only support allow/deny/policyId changes"))
    else if !changes.hasScopeChanges then .answer (.ok (toCredentialRecord current now))
    else
      match changes.policyId with
      | some policyId => .awaitPolicy policyId
      | none => .apply (nextScopes current.effectiveScopes changes.allow changes.deny)

/-! ### The action and the WebSocket request -/

/-- `UpdateResult` of the action and of the request. -/
structure UpdateResult where
  updated : Bool
  material : Bool
  reason : Option String
  deriving DecidableEq

/-- `credential.updateScopes` from the settled lookup on. -/
def updateScopesFinish (credentialId : String) (scopes : ScopeSet)
    (lookupResult : Result CredentialRecord) (now : Time) : Outcome (Result UpdateResult) :=
  match lookupResult with
  | .error e => ⟨m, [], .error e⟩
  | .ok credential =>
    if credential.status ≠ .active then
      ⟨m, [], .error (.authError "Credential is not active"
        [("credentialId", credentialId), ("status", credential.status.name)])⟩
    else
      match m.checkMateriality credentialId scopes with
      | .error e => ⟨m, [], .error e⟩
      | .ok check =>
        if check.requiresReauthorization then
          let result := m.revokeCredential credentialId .reauthorizationRequired now
          ⟨result.store, result.effects, result.value.map fun _ => ⟨false, true, check.reason⟩⟩
        else
          let result := m.updateCredentialScopes hash credentialId scopes
          ⟨result.store, result.effects,
            result.value.map fun _ => ⟨true, check.isMaterial, check.reason⟩⟩

/-- `handleUpdateScopes`: the WebSocket request, with omitted lists taken from the
connection's snapshot of the credential. An escalation puts the credential on
hold instead of revoking it. -/
def handleUpdateScopes (credential : CredentialRecord)
    (allow deny : Option (List PermissionScope)) :
    Outcome (Result UpdateResult) :=
  let newScopes := nextScopes credential.effectiveScopes allow deny
  match m.checkMateriality credential.credentialId newScopes with
  | .error e => ⟨m, [], .error e⟩
  | .ok check =>
    if check.requiresReauthorization then
      let result := m.setCredentialStatus credential.credentialId .pending
      ⟨result.store, result.effects, .ok ⟨false, true, check.reason⟩⟩
    else
      let result := m.updateCredentialScopes hash credential.credentialId newScopes
      ⟨result.store, result.effects, result.value.map fun _ =>
        ⟨true, check.isMaterial, if check.isMaterial then check.reason else none⟩⟩

/-! ### The three updates apply or leave the scopes alone -/

/-- **What an update entry point does to the store**: it keeps it, or it rewrites
one record to scopes that allow nothing new. -/
inductive Narrows (m : CredentialStore) (id : String) (next : ScopeSet) :
    CredentialStore → Prop
  | kept {m' : CredentialStore} (hkeep : Keeps m m') : Narrows m id next m'
  | applied {m' : CredentialStore} {r r' : InternalCredentialRecord}
      (hr : m.byId.get? id = some r) (hactive : r.status = .active)
      (hnarrow : resolveScopeSet next ⊆ resolveScopeSet r.effectiveScopes)
      (hset : m'.byId = m.byId.set id r')
      (hsame : r'.credentialId = r.credentialId ∧ r'.operatorId = r.operatorId ∧
        r'.chatIds = r.chatIds ∧ r'.status = r.status)
      (hscopes : r'.effectiveScopes = next ∧ r'.resolvedScopes = resolveScopeSet next) :
      Narrows m id next m'

/-- An update entry point: it narrows at most, and stores no new record. -/
structure NarrowsOnly {α : Type} (m : CredentialStore) (id : String) (next : ScopeSet)
    (o : Outcome α) : Prop where
  store : Narrows m id next o.store
  stores_none : storedRecords o.effects = []

variable {m}

theorem NarrowsOnly.of_frame {α : Type} {id : String} {next : ScopeSet} {o : Outcome α}
    (h : Frame m o) : NarrowsOnly m id next o :=
  ⟨.kept h.keeps, h.stores_none⟩

theorem NarrowsOnly.withValue {α β : Type} {id : String} {next : ScopeSet} {o : Outcome α}
    (h : NarrowsOnly m id next o) (value : β) :
    NarrowsOnly m id next ⟨o.store, o.effects, value⟩ :=
  ⟨h.store, h.stores_none⟩

/-- The materiality check of the manager is against the stored scopes. -/
theorem checkMateriality_eq_ok {id : String} {next : ScopeSet} {check : DetailedMaterialityCheck}
    (h : m.checkMateriality id next = .ok check) :
    ∃ r, m.byId.get? id = some r ∧ check = checkMateriality r.effectiveScopes next := by
  unfold CredentialStore.checkMateriality at h
  split at h
  · cases h
  · next r hr =>
    cases h
    exact ⟨r, hr, rfl⟩

theorem updateCredentialScopes_narrows {id : String} {next : ScopeSet}
    {check : DetailedMaterialityCheck} (h : m.checkMateriality id next = .ok check)
    (hreauth : ¬ check.requiresReauthorization = true) :
    NarrowsOnly m id next (m.updateCredentialScopes hash id next) := by
  refine ⟨?_, m.updateCredentialScopes_stores_none hash id next⟩
  obtain ⟨r, hr, rfl⟩ := checkMateriality_eq_ok h
  rcases m.updateCredentialScopes_spec hash id next with hs | ⟨r₀, r', hr₀, hactive, hset,
    hcred, hop, hchat, hstatus, heff, hres⟩
  · rw [hs]
    exact .kept (.refl m)
  · rw [hr] at hr₀
    cases hr₀
    -- an update that needs no reauthorization allows nothing new
    have hsub := resolveScopeSet_subset_of_not_requiresReauthorization
      (Bool.not_eq_true _ ▸ hreauth)
    exact .applied hr hactive hsub hset ⟨hcred, hop, hchat, hstatus⟩ ⟨heff, hres⟩

theorem updateFinish_narrows (id : String) (next : ScopeSet) (now : Time) :
    NarrowsOnly m id next (updateFinish hash m id next now) := by
  unfold updateFinish
  split
  · exact .of_frame (.silent m _)
  · next check hcheck =>
    dsimp only
    split
    -- a material update revokes the credential and applies nothing
    · exact .of_frame ((m.revokeCredential_frame id _ now).withValue _)
    · next hreauth => exact (updateCredentialScopes_narrows hash hcheck hreauth).withValue _

theorem updateScopesFinish_narrows (id : String) (scopes : ScopeSet)
    (lookupResult : Result CredentialRecord) (now : Time) :
    NarrowsOnly m id scopes (updateScopesFinish hash m id scopes lookupResult now) := by
  unfold updateScopesFinish
  split
  · exact .of_frame (.silent m _)
  · split
    · exact .of_frame (.silent m _)
    · split
      · exact .of_frame (.silent m _)
      · next check hcheck =>
        split
        -- a material update revokes the credential here too
        · exact .of_frame ((m.revokeCredential_frame id _ now).withValue _)
        · next hreauth => exact (updateCredentialScopes_narrows hash hcheck hreauth).withValue _

theorem handleUpdateScopes_narrows (credential : CredentialRecord)
    (allow deny : Option (List PermissionScope)) :
    NarrowsOnly m credential.credentialId (nextScopes credential.effectiveScopes allow deny)
      (handleUpdateScopes hash m credential allow deny) := by
  dsimp only [handleUpdateScopes]
  split
  · exact .of_frame (.silent m _)
  · next check hcheck =>
    split
    -- over the socket a material update only sets the credential back to `pending`
    · exact .of_frame ((m.setCredentialStatus_frame _ (by simp)).withValue _)
    · next hreauth => exact (updateCredentialScopes_narrows hash hcheck hreauth).withValue _

end Service

end Signet
