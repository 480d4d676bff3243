import Signet.Lib.Machine
import Signet.Sessions.Service

/-!
# Runs of credential operations

`serviceMachine` interleaves every way to reach a credential record from outside:
the operations of the credential service, the action `credential.updateScopes`,
the WebSocket requests `update_scopes` and `heartbeat`, and the revocation of all
credentials of an operator. Policy lookups and the lookup of the action are
awaited, so other operations may run in between.

`ServiceStep` sorts the steps by what they do to the records: most keep them,
some store one new record, some narrow the scopes of one record.
-/

namespace Signet

open Lib Service

/-- An operation that waits for a reply. -/
inductive ServiceCall where
  /-- `issue` awaits the policy of its configuration. -/
  | issuing (config : CredentialConfig) (issuedBy : String)
  /-- `update` awaits the policy of its changes. -/
  | updating (credentialId : String) (allow deny : Option (List PermissionScope))
  /-- `credential.updateScopes` awaits its lookup, which has read the record. -/
  | updatingScopes (credentialId : String) (scopes : ScopeSet)
      (lookupResult : Result CredentialRecord)
  deriving DecidableEq

/-- An operation is called or resumed. -/
inductive ServiceAction where
  | issue (call : Nat) (config : CredentialConfig) (options : CredentialStore.IssueOptions)
  | list (operatorId : Option String) (now : Time)
  | lookup (credentialId : String) (now : Time)
  | lookupByToken (token : String) (now : Time)
  | revoke (credentialId : String) (reason : CredentialRevocationReason) (now : Time)
  | update (call : Nat) (credentialId : String) (changes : CredentialChanges) (now : Time)
  | renew (credentialId : String) (now : Time)
  | policyResolved (call : Nat) (policy : Result PolicyConfig)
      (options : CredentialStore.IssueOptions)
  | updateScopes (call : Nat) (credentialId : String) (scopes : ScopeSet) (now : Time)
  | updateScopesLookedUp (call : Nat) (now : Time)
  | wsUpdateScopes (credential : CredentialRecord) (allow deny : Option (List PermissionScope))
  | heartbeat (credentialId : String) (now : Time)
  | revokeAll (operatorId : String) (reason : CredentialRevocationReason) (now : Time)

/-- What an operation answers. -/
inductive ServiceReply where
  | issued (result : Result IssuedCredential)
  | record (result : Result CredentialRecord)
  | records (result : List CredentialRecord)
  | token (result : Result CredentialToken)
  | updated (result : Result UpdateResult)
  | done (result : Result Unit)
  deriving DecidableEq

/-- The effects of an operation and its answer. -/
inductive ServiceEvent where
  | effect (effect : CredentialEffect)
  | replied (reply : ServiceReply)
  deriving DecidableEq

/-- The store and the operations that wait. -/
structure ServiceState where
  store : CredentialStore
  calls : OrdMap Nat ServiceCall

/-- The outcome of an operation, with its answer as the last event. -/
def ServiceState.reply {α : Type} (s : ServiceState) (o : Outcome α) (answer : α → ServiceReply) :
    ServiceState × List ServiceEvent :=
  ({ s with store := o.store }, o.effects.map .effect ++ [.replied (answer o.value)])

/-- The outcome of a segment that awaits. -/
def ServiceState.wait {α : Type} (s : ServiceState) (o : Outcome α) (call : Nat)
    (phase : ServiceCall) : ServiceState × List ServiceEvent :=
  (⟨o.store, s.calls.set call phase⟩, o.effects.map .effect)

/-- The call is over. -/
def ServiceState.finish (s : ServiceState) (call : Nat) : ServiceState :=
  { s with calls := s.calls.erase call }

section Step

variable (cfg : CredentialManagerConfig) (hash : ScopeSet → List String → String)

/-- One segment of one operation. -/
def serviceStep (s : ServiceState) : ServiceAction → Option (ServiceState × List ServiceEvent)
  | .issue call config options =>
    if s.calls.has call then none
    else
      let swept := s.store.sweepExpired cfg options.now
      match config.policyId with
      | some _ => some (s.wait swept call (.issuing config options.issuedBy))
      | none =>
        let issued := issueFinish cfg hash swept.store config options
        some (s.reply { issued with effects := swept.effects ++ issued.effects } .issued)
  | .list operatorId now => some (s.reply (list cfg s.store operatorId now) .records)
  | .lookup credentialId now => some (s.reply (lookup cfg s.store credentialId now) .record)
  | .lookupByToken token now => some (s.reply (lookupByToken s.store token now) .record)
  | .revoke credentialId reason now =>
    some (s.reply (revoke s.store credentialId reason now) .done)
  | .update call credentialId changes now =>
    if s.calls.has call then none
    else
      match updateStart s.store credentialId changes now with
      | .answer result => some (s.reply ⟨s.store, [], result⟩ .record)
      | .apply next => some (s.reply (updateFinish hash s.store credentialId next now) .record)
      | .awaitPolicy _ =>
        some (s.wait (⟨s.store, [], ()⟩ : Outcome Unit) call
          (.updating credentialId changes.allow changes.deny))
  | .renew credentialId now => some (s.reply (renew cfg s.store credentialId now) .token)
  | .policyResolved call policy options =>
    match s.calls.get? call with
    | some (.issuing config issuedBy) =>
      match policy with
      | .error e => some ((s.finish call).reply ⟨s.store, [], .error e⟩ .issued)
      | .ok policy =>
        let resolved := withPolicyScopes config (resolvePolicy policy config.allow config.deny)
        some ((s.finish call).reply
          (issueFinish cfg hash s.store resolved { options with issuedBy := issuedBy }) .issued)
    | some (.updating credentialId allow deny) =>
      match policy with
      | .error e => some ((s.finish call).reply ⟨s.store, [], .error e⟩ .record)
      | .ok policy =>
        some ((s.finish call).reply
          (updateFinish hash s.store credentialId (resolvePolicy policy allow deny) options.now)
          .record)
    | _ => none
  | .updateScopes call credentialId scopes now =>
    if s.calls.has call then none
    else
      let result := lookup cfg s.store credentialId now
      some (s.wait result call (.updatingScopes credentialId scopes result.value))
  | .updateScopesLookedUp call now =>
    match s.calls.get? call with
    | some (.updatingScopes credentialId scopes lookupResult) =>
      some ((s.finish call).reply
        (updateScopesFinish hash s.store credentialId scopes lookupResult now) .updated)
    | _ => none
  | .wsUpdateScopes credential allow deny =>
    some (s.reply (handleUpdateScopes hash s.store credential allow deny) .updated)
  | .heartbeat credentialId now =>
    some (s.reply (s.store.recordHeartbeat credentialId now) .done)
  | .revokeAll operatorId reason now =>
    let revoked := s.store.revokeAllCredentials operatorId reason now
    some (s.reply ⟨revoked.store, revoked.effects, .ok ()⟩ .done)

/-- **Credential operations in any order.** -/
def serviceMachine : Machine ServiceState ServiceAction ServiceEvent where
  init := ⟨.new, .empty⟩
  step := serviceStep cfg hash

end Step

/-- The scopes an action asks to put into force at this step, and for which
credential. -/
def requestedScopes (s : ServiceState) : ServiceAction → Option (String × ScopeSet)
  | .update _ credentialId changes now =>
    match updateStart s.store credentialId changes now with
    | .apply next => some (credentialId, next)
    | _ => none
  | .policyResolved call (.ok policy) _ =>
    match s.calls.get? call with
    | some (.updating credentialId allow deny) =>
      some (credentialId, resolvePolicy policy allow deny)
    | _ => none
  | .updateScopesLookedUp call _ =>
    match s.calls.get? call with
    | some (.updatingScopes credentialId scopes _) => some (credentialId, scopes)
    | _ => none
  | .wsUpdateScopes credential allow deny =>
    some (credential.credentialId, nextScopes credential.effectiveScopes allow deny)
  | _ => none

/-- The id a new record would be stored under. -/
def drawnCredentialId : ServiceAction → Option String
  | .issue _ _ options => some options.credentialId
  | .policyResolved _ _ options => some options.credentialId
  | _ => none

/-- A new record is stored under an unused id. -/
def freshCredentialId (s : ServiceState) (a : ServiceAction) : Bool :=
  (drawnCredentialId a).all fun id => !s.store.byId.has id

/-- The record an event reports as stored for the first time. -/
def ServiceEvent.created? : ServiceEvent → Option InternalCredentialRecord
  | .effect (.stored record) => some record
  | _ => none

/-- The records created in a trace, as they were issued. -/
def createdRecords (tr : List ServiceEvent) : List InternalCredentialRecord :=
  tr.filterMap ServiceEvent.created?

@[simp] theorem createdRecords_append (tr es : List ServiceEvent) :
    createdRecords (tr ++ es) = createdRecords tr ++ createdRecords es :=
  List.filterMap_append

theorem createdRecords_effects (effects : List CredentialEffect) :
    createdRecords (effects.map .effect) = storedRecords effects := by
  unfold createdRecords storedRecords
  rw [List.filterMap_map]
  refine congrArg (List.filterMap · effects) (funext fun effect => ?_)
  cases effect <;> rfl

@[simp] theorem createdRecords_reply {α : Type} (s : ServiceState) (o : Outcome α)
    (answer : α → ServiceReply) :
    createdRecords (s.reply o answer).2 = storedRecords o.effects := by
  unfold ServiceState.reply
  rw [createdRecords_append, createdRecords_effects]
  exact List.append_nil _

/-! ### What a step can do -/

/-- The steps, by what happens to the records. -/
inductive ServiceStep (s : ServiceState) (a : ServiceAction) (s' : ServiceState)
    (es : List ServiceEvent) : Prop
  /-- The records keep their authority. -/
  | framed (hkeep : Keeps s.store s'.store) (hnone : createdRecords es = [])
  /-- One record is stored under the drawn id. -/
  | issued {m : CredentialStore} {record : InternalCredentialRecord}
      (hkeep : Keeps s.store m) (hstore : s'.store = m.upsertRecord record)
      (hcreated : createdRecords es = [record])
      (hdrawn : drawnCredentialId a = some record.credentialId)
      (hactive : record.status = .active)
      (hresolved : record.resolvedScopes = resolveScopeSet record.effectiveScopes)
      (hrequest : requestedScopes s a = none)
  | narrowed {id : String} {next : ScopeSet} (hrequest : requestedScopes s a = some (id, next))
      (hnarrow : Narrows s.store id next s'.store) (hnone : createdRecords es = [])

section Sound

variable {cfg : CredentialManagerConfig} {hash : ScopeSet → List String → String}
  {s s' : ServiceState} {a : ServiceAction} {es : List ServiceEvent}

/-- A segment in the frame of the store. -/
private theorem ServiceStep.of_frame {α : Type} {t : ServiceState} {o : Outcome α}
    (answer : α → ServiceReply) (h : Frame s.store o) :
    ServiceStep s a (t.reply o answer).1 (t.reply o answer).2 :=
  .framed h.keeps (by rw [createdRecords_reply, h.stores_none])

private theorem ServiceStep.of_narrows {α : Type} {t : ServiceState} {o : Outcome α}
    {id : String} {next : ScopeSet} (answer : α → ServiceReply)
    (hrequest : requestedScopes s a = some (id, next)) (h : NarrowsOnly s.store id next o) :
    ServiceStep s a (t.reply o answer).1 (t.reply o answer).2 :=
  .narrowed hrequest h.store (by rw [createdRecords_reply, h.stores_none])

private theorem ServiceStep.of_issueFinish {t : ServiceState} {m : CredentialStore}
    {config : CredentialConfig} {options : CredentialStore.IssueOptions}
    (effects : List CredentialEffect) (hkeep : Keeps s.store m)
    (heffects : storedRecords effects = [])
    (hdrawn : drawnCredentialId a = some options.credentialId)
    (hrequest : requestedScopes s a = none) :
    let issued := issueFinish cfg hash m config options
    let r := t.reply ⟨issued.store, effects ++ issued.effects, issued.value⟩ .issued
    ServiceStep s a r.1 r.2 := by
  obtain ⟨m', hkeep', hcases⟩ := (m.issueCredential_spec cfg hash config options).spec
  intro issued r
  have hcreated : createdRecords r.2 =
      storedRecords (m.issueCredential cfg hash config options).effects := by
    rw [createdRecords_reply, storedRecords_append, heffects]
    rfl
  -- the reuse of a record stores nothing, an issuance one record
  rcases hcases with ⟨hstore, hnone⟩ | ⟨hstore, hone⟩
  · refine .framed ?_ (hcreated.trans hnone)
    change Keeps s.store (m.issueCredential cfg hash config options).store
    rw [hstore]
    exact hkeep.trans hkeep'
  · exact .issued (hkeep.trans hkeep') hstore (hcreated.trans hone) hdrawn rfl rfl hrequest

/-- **Inversion of a step.** -/
theorem serviceStep_sound (h : serviceStep cfg hash s a = some (s', es)) :
    ServiceStep s a s' es := by
  cases a with
  | issue call config options =>
    dsimp only [serviceStep] at h
    -- the sweep in front of every call ends records and stores none
    have hsweep := s.store.sweepExpired_frame cfg options.now
    split at h
    · cases h
    · split at h
      -- the named policy is awaited, and only the sweep has happened
      · cases h
        exact .framed hsweep.keeps (by
          rw [createdRecords_effects]; exact hsweep.stores_none)
      · cases h
        exact .of_issueFinish _ hsweep.keeps hsweep.stores_none rfl rfl
  | list operatorId now =>
    cases h
    exact .of_frame _ ((s.store.sweepExpired_frame cfg now).withValue _)
  | lookup credentialId now =>
    cases h
    exact .of_frame _ ((s.store.sweepExpired_frame cfg now).withValue _)
  | lookupByToken token now =>
    cases h
    exact .of_frame _ ((s.store.getCredentialByToken_frame token now).withValue _)
  | revoke credentialId reason now =>
    cases h
    exact .of_frame _ ((s.store.revokeCredential_frame credentialId reason now).withValue _)
  | update call credentialId changes now =>
    dsimp only [serviceStep] at h
    split at h
    · cases h
    · split at h
      · cases h
        exact .of_frame _ (.silent _ _)
      -- without a policy to look up the update is done at once
      · next next hstart =>
        cases h
        exact .of_narrows _ (by simp only [requestedScopes, hstart])
          (updateFinish_narrows hash credentialId next now)
      · cases h
        exact .framed (.refl _) rfl
  | renew credentialId now =>
    cases h
    exact .of_frame _ ((s.store.renewCredential_frame cfg credentialId now).withValue _)
  | policyResolved call policy options =>
    dsimp only [serviceStep] at h
    split at h
    · next config issuedBy hcall =>
      split at h
      · cases h
        exact .of_frame _ (.silent _ _)
      · cases h
        exact .of_issueFinish [] (.refl _) rfl rfl (by
          simp only [requestedScopes, hcall])
    -- the policy of an update has come
    · next credentialId allow deny hcall =>
      split at h
      · cases h
        exact .of_frame _ (.silent _ _)
      · cases h
        exact .of_narrows _ (by simp only [requestedScopes, hcall])
          (updateFinish_narrows hash _ _ _)
    · cases h
  | updateScopes call credentialId scopes now =>
    dsimp only [serviceStep] at h
    split at h
    · cases h
    · cases h
      have hsweep := s.store.sweepExpired_frame cfg now
      exact .framed hsweep.keeps (by rw [createdRecords_effects]; exact hsweep.stores_none)
  | updateScopesLookedUp call now =>
    dsimp only [serviceStep] at h
    split at h
    · next credentialId scopes lookupResult hcall =>
      cases h
      exact .of_narrows _ (by simp only [requestedScopes, hcall])
        (updateScopesFinish_narrows hash _ _ _ _)
    · cases h
  | wsUpdateScopes credential allow deny =>
    cases h
    exact .of_narrows _ rfl (handleUpdateScopes_narrows hash _ _ _)
  | heartbeat credentialId now =>
    cases h
    exact .of_frame _ (s.store.recordHeartbeat_frame credentialId now)
  | revokeAll operatorId reason now =>
    cases h
    exact .of_frame _ ((s.store.revokeAllCredentials_frame operatorId reason now).withValue _)

end Sound

end Signet
