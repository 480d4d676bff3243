import Signet.Sessions.CredentialManager

/-!
# What credential operations leave alone

`Keeps m m'` is the frame of the credential store: no record appears or
disappears, every record keeps its operator, its chats and its scopes, and a
record is active afterwards only if it was before. It is reflexive and
transitive. `Frame m o` adds that the operation stored no new record, and holds of
every operation but two:

* `issueCredential_spec`: an issuance keeps the store and then, possibly, stores
  one new record under the given id;
* `updateCredentialScopes_spec`: an update rewrites the scopes of one active
  record.
-/

namespace Signet

open Lib

/-- `r'` has the identity and the scopes of `r` and is active only if `r` is. -/
structure SameAuthority (r r' : InternalCredentialRecord) : Prop where
  credentialId_eq : r'.credentialId = r.credentialId
  operatorId_eq : r'.operatorId = r.operatorId
  chatIds_eq : r'.chatIds = r.chatIds
  effectiveScopes_eq : r'.effectiveScopes = r.effectiveScopes
  resolvedScopes_eq : r'.resolvedScopes = r.resolvedScopes
  active_of_active : r'.status = .active → r.status = .active

theorem SameAuthority.refl (r : InternalCredentialRecord) : SameAuthority r r :=
  ⟨rfl, rfl, rfl, rfl, rfl, id⟩

theorem SameAuthority.trans {r₁ r₂ r₃ : InternalCredentialRecord} (h : SameAuthority r₁ r₂)
    (h' : SameAuthority r₂ r₃) : SameAuthority r₁ r₃ where
  credentialId_eq := h'.credentialId_eq.trans h.credentialId_eq
  operatorId_eq := h'.operatorId_eq.trans h.operatorId_eq
  chatIds_eq := h'.chatIds_eq.trans h.chatIds_eq
  effectiveScopes_eq := h'.effectiveScopes_eq.trans h.effectiveScopes_eq
  resolvedScopes_eq := h'.resolvedScopes_eq.trans h.resolvedScopes_eq
  active_of_active := h.active_of_active ∘ h'.active_of_active

/-- **The frame of the credential store.** -/
structure Keeps (m m' : CredentialStore) : Prop where
  /-- A record stays, with its authority. -/
  forward : ∀ {id r}, m.byId.get? id = some r →
    ∃ r', m'.byId.get? id = some r' ∧ SameAuthority r r'
  /-- No record appears. -/
  backward : ∀ {id r'}, m'.byId.get? id = some r' → ∃ r, m.byId.get? id = some r

namespace Keeps

theorem refl (m : CredentialStore) : Keeps m m where
  forward h := ⟨_, h, .refl _⟩
  backward h := ⟨_, h⟩

/-- Stores with the same records. -/
theorem of_byId_eq {m m' : CredentialStore} (h : m'.byId = m.byId) : Keeps m m' where
  forward hr := ⟨_, by rw [h]; exact hr, .refl _⟩
  backward hr := ⟨_, by rw [← h]; exact hr⟩

theorem trans {m₁ m₂ m₃ : CredentialStore} (h : Keeps m₁ m₂) (h' : Keeps m₂ m₃) :
    Keeps m₁ m₃ where
  forward hr := by
    obtain ⟨r₂, hr₂, hsame⟩ := h.forward hr
    obtain ⟨r₃, hr₃, hsame'⟩ := h'.forward hr₂
    exact ⟨r₃, hr₃, hsame.trans hsame'⟩
  backward hr := by
    obtain ⟨r₂, hr₂⟩ := h'.backward hr
    exact h.backward hr₂

theorem origin {m m' : CredentialStore} (h : Keeps m m') {id : String}
    {r' : InternalCredentialRecord} (hr' : m'.byId.get? id = some r') :
    ∃ r, m.byId.get? id = some r ∧ SameAuthority r r' := by
  obtain ⟨r, hr⟩ := h.backward hr'
  obtain ⟨r'', hr'', hsame⟩ := h.forward hr
  rw [hr'] at hr''
  cases hr''
  exact ⟨r, hr, hsame⟩

end Keeps

/-- The records an operation stored for the first time. -/
def storedRecords (effects : List CredentialEffect) : List InternalCredentialRecord :=
  effects.filterMap fun
    | .stored record => some record
    | _ => none

@[simp] theorem storedRecords_append (es es' : List CredentialEffect) :
    storedRecords (es ++ es') = storedRecords es ++ storedRecords es' :=
  List.filterMap_append

/-- **The frame of an operation**: it keeps the store and stores no new record. -/
structure Frame {α : Type} (m : CredentialStore) (o : Outcome α) : Prop where
  keeps : Keeps m o.store
  stores_none : storedRecords o.effects = []

namespace Frame

variable {α β : Type} {m : CredentialStore}

/-- An operation that only answers. -/
theorem silent (m : CredentialStore) (value : α) : Frame m ⟨m, [], value⟩ :=
  ⟨.refl m, rfl⟩

theorem withValue {o : Outcome α} (h : Frame m o) (value : β) :
    Frame m ⟨o.store, o.effects, value⟩ :=
  ⟨h.keeps, h.stores_none⟩

theorem andThen {o : Outcome α} {o' : Outcome β} (h : Frame m o) (h' : Frame o.store o')
    {γ : Type} (value : γ) : Frame m ⟨o'.store, o.effects ++ o'.effects, value⟩ where
  keeps := h.keeps.trans h'.keeps
  stores_none := by
    rw [storedRecords_append, h.stores_none, h'.stores_none]
    rfl

end Frame

namespace CredentialStore

variable (m : CredentialStore)

/-! ### The helpers -/

/-- Updates that touch neither the scopes nor activate. -/
structure Harmless (updates : RecordUpdates) : Prop where
  effectiveScopes_none : updates.effectiveScopes = none
  resolvedScopes_none : updates.resolvedScopes = none
  not_active : updates.status ≠ some .active

theorem sameAuthority_updatedWith {updates : RecordUpdates} (h : Harmless updates)
    (r : InternalCredentialRecord) : SameAuthority r (r.updatedWith updates) where
  credentialId_eq := rfl
  operatorId_eq := rfl
  chatIds_eq := rfl
  effectiveScopes_eq := by simp [InternalCredentialRecord.updatedWith, h.effectiveScopes_none]
  resolvedScopes_eq := by simp [InternalCredentialRecord.updatedWith, h.resolvedScopes_none]
  active_of_active hactive := by
    unfold InternalCredentialRecord.updatedWith at hactive
    cases hstatus : updates.status with
    | none => simpa [hstatus] using hactive
    | some status =>
      simp only [hstatus, Option.getD_some] at hactive
      -- the new status is not active, so an active record has kept its own
      exact absurd (hactive ▸ hstatus) h.not_active

theorem mutateRecord_stores_none (id : String) (updates : RecordUpdates) :
    storedRecords (m.mutateRecord id updates).effects = [] := by
  unfold mutateRecord
  split
  · rfl
  · cases updates.policyChanged <;> rfl

theorem mutateRecord_frame {updates : RecordUpdates} (h : Harmless updates) (id : String) :
    Frame m (m.mutateRecord id updates) := by
  refine ⟨?_, m.mutateRecord_stores_none id updates⟩
  unfold mutateRecord
  split
  · exact .refl m
  · next existing hexisting =>
    refine ⟨?_, ?_⟩
    · intro id' r hr
      -- the rewritten record keeps its authority, the others are untouched
      by_cases hid : id' = id
      · subst hid
        rw [hexisting] at hr
        cases hr
        exact ⟨_, OrdMap.get?_set_self _ _ _, sameAuthority_updatedWith h _⟩
      · exact ⟨r, by rw [OrdMap.get?_set_of_ne _ _ hid]; exact hr, .refl r⟩
    · intro id' r' hr'
      rcases OrdMap.get?_set_eq_some hr' with ⟨rfl, -⟩ | ⟨-, hr'⟩
      · exact ⟨existing, hexisting⟩
      · exact ⟨r', hr'⟩

@[simp] theorem cleanupRevealState_byId (id : String) :
    (m.cleanupRevealState id).byId = m.byId := by
  unfold cleanupRevealState
  split <;> rfl

/-- A write after the reveal store was emptied. -/
theorem cleanup_mutateRecord_frame {updates : RecordUpdates} (h : Harmless updates)
    (id : String) : Frame m ((m.cleanupRevealState id).mutateRecord id updates) := by
  have hframe := (m.cleanupRevealState id).mutateRecord_frame h id
  exact ⟨(Keeps.of_byId_eq (m.cleanupRevealState_byId id)).trans hframe.keeps, hframe.stores_none⟩

theorem revokeRecord_frame (id : String) (reason : CredentialRevocationReason) (now : Time) :
    Frame m (m.revokeRecord id reason now) := by
  have hframe : Frame m ((m.cleanupRevealState id).mutateRecord id
      { status := some .revoked, revokedAt := some now, revocationReason := some reason }) :=
    m.cleanup_mutateRecord_frame ⟨rfl, rfl, by simp⟩ id
  dsimp only [revokeRecord]
  split
  · -- the revocation hook is the only further effect
    refine ⟨hframe.keeps, ?_⟩
    rw [storedRecords_append, hframe.stores_none]
    rfl
  · exact hframe

/-! ### The operations that only narrow -/

theorem getCredentialByToken_frame (token : String) (now : Time) :
    Frame m (m.getCredentialByToken token now) := by
  unfold getCredentialByToken
  split
  · exact .silent m _
  · split
    · exact .silent m _
    · split
      · exact (m.mutateRecord_frame ⟨rfl, rfl, by simp⟩ _).withValue _
      · split <;> exact .silent m _

theorem recordHeartbeat_frame (id : String) (now : Time) :
    Frame m (m.recordHeartbeat id now) := by
  unfold recordHeartbeat
  split
  · exact .silent m _
  · split
    · exact .silent m _
    · exact (m.mutateRecord_frame ⟨rfl, rfl, by simp⟩ _).withValue _

theorem renewCredential_frame (cfg : CredentialManagerConfig) (id : String) (now : Time) :
    Frame m (m.renewCredential cfg id now) := by
  unfold renewCredential
  split
  · exact .silent m _
  · split
    · exact .silent m _
    · split
      · exact .silent m _
      · exact m.mutateRecord_frame ⟨rfl, rfl, by simp⟩ _

theorem revokeCredential_frame (id : String) (reason : CredentialRevocationReason) (now : Time) :
    Frame m (m.revokeCredential id reason now) := by
  unfold revokeCredential
  split
  · exact .silent m _
  · exact m.revokeRecord_frame id reason now

theorem setCredentialStatus_frame (id : String) {status : CredentialStatus}
    (h : status ≠ .active) : Frame m (m.setCredentialStatus id status) := by
  unfold setCredentialStatus
  split
  · exact .silent m _
  · exact m.mutateRecord_frame ⟨rfl, rfl, by simpa using h⟩ _

private theorem foldl_frame {α : Type} {turn : Outcome α → InternalCredentialRecord → Outcome α}
    (hturn : ∀ o r, Frame m o → Frame m (turn o r)) (l : List InternalCredentialRecord) :
    ∀ o, Frame m o → Frame m (l.foldl turn o) := by
  induction l with
  | nil => intro o ho; exact ho
  | cons r l ih => intro o ho; exact ih _ (hturn o r ho)

theorem revokeAllCredentials_frame (operatorId : String) (reason : CredentialRevocationReason)
    (now : Time) : Frame m (m.revokeAllCredentials operatorId reason now) :=
  m.foldl_frame (fun o r ho => ho.andThen (o.store.revokeRecord_frame r.credentialId reason now) _)
    _ _ (.silent m _)

theorem sweepExpired_frame (cfg : CredentialManagerConfig) (now : Time) :
    Frame m (m.sweepExpired cfg now) := by
  refine m.foldl_frame ?_ _ _ (.silent m _)
  intro o r ho
  unfold sweepRecord
  -- kept, expired, or revoked for missing heartbeats
  split
  · exact ho
  · split
    · exact ho.andThen (o.store.cleanup_mutateRecord_frame ⟨rfl, rfl, by simp⟩ _) _
    · split
      · exact ho.andThen (o.store.revokeRecord_frame _ _ _) _
      · exact ho

/-! ### The two exceptions -/

theorem get?_upsertRecord (record : InternalCredentialRecord) (id : String) :
    (m.upsertRecord record).byId.get? id =
      if id = record.credentialId then some record else m.byId.get? id :=
  OrdMap.get?_set _ _ _ _

/-- **What an issuance can do**: keep the store, or keep it and store `record`. -/
structure IssuesAtMost {α : Type} (record : InternalCredentialRecord) (o : Outcome α) :
    Prop where
  spec : ∃ m', Keeps m m' ∧
    ((o.store = m' ∧ storedRecords o.effects = []) ∨
      (o.store = m'.upsertRecord record ∧ storedRecords o.effects = [record]))

theorem issueCredential_spec (cfg : CredentialManagerConfig)
    (hash : ScopeSet → List String → String) (config : CredentialConfig)
    (options : IssueOptions) :
    m.IssuesAtMost (newRecord cfg (hash (buildScopeSet config) config.chatIds) config options)
      (m.issueCredential cfg hash config options) := by
  have hreuse : ∀ m' : CredentialStore,
      let record := newRecord cfg (hash (buildScopeSet config) config.chatIds) config options
      let o := m'.reuseOrStore cfg (hash (buildScopeSet config) config.chatIds) config options
      (o.store = m' ∧ storedRecords o.effects = []) ∨
        (o.store = m'.upsertRecord record ∧ storedRecords o.effects = [record]) := by
    intro m'
    unfold reuseOrStore
    split
    · exact .inl ⟨rfl, rfl⟩
    · exact .inr ⟨rfl, rfl⟩
  unfold CredentialStore.issueCredential
  cases m.evicted cfg config.operatorId with
  | none => exact ⟨m, .refl m, hreuse m⟩
  | some oldest =>
    have hframe := m.revokeRecord_frame oldest.credentialId .policyViolation options.now
    refine ⟨_, hframe.keeps, ?_⟩
    dsimp only
    split
    · exact .inl ⟨rfl, hframe.stores_none⟩
    · -- the eviction went through: what it stored is nothing, the rest is the reuse
      simp only [storedRecords_append, hframe.stores_none, List.nil_append]
      exact hreuse _

/-- **A scope update** rewrites one active record or does nothing. -/
theorem updateCredentialScopes_spec (hash : ScopeSet → List String → String) (id : String)
    (scopes : ScopeSet) :
    (m.updateCredentialScopes hash id scopes).store = m ∨
      ∃ r r', m.byId.get? id = some r ∧ r.status = .active ∧
        (m.updateCredentialScopes hash id scopes).store.byId = m.byId.set id r' ∧
        r'.credentialId = r.credentialId ∧ r'.operatorId = r.operatorId ∧
        r'.chatIds = r.chatIds ∧ r'.status = r.status ∧
        r'.effectiveScopes = scopes ∧ r'.resolvedScopes = resolveScopeSet scopes := by
  unfold updateCredentialScopes
  split
  · exact .inl rfl
  · next r hr =>
    split
    · exact .inl rfl
    · next hactive =>
      let updates : RecordUpdates :=
        { effectiveScopes := some scopes, resolvedScopes := some (resolveScopeSet scopes),
          policyHash := some (hash scopes r.chatIds) }
      refine .inr ⟨r, r.updatedWith updates, hr, not_not.1 hactive, ?_, rfl, rfl, rfl, rfl, rfl,
        rfl⟩
      simp only [mutateRecord, hr, updates]

theorem updateCredentialScopes_stores_none (hash : ScopeSet → List String → String) (id : String)
    (scopes : ScopeSet) :
    storedRecords (m.updateCredentialScopes hash id scopes).effects = [] := by
  unfold updateCredentialScopes
  split
  · rfl
  · split
    · rfl
    · exact m.mutateRecord_stores_none _ _

end CredentialStore

end Signet
