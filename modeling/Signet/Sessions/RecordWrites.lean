import Signet.Sessions.RecordIdentity

/-!
# The primitive writes of the credential store

Every operation of the credential manager comes down to a few primitive writes: a
record is stored, a record is rewritten under its id (expired, revoked, given a
status, a heartbeat, a new expiry or new scopes), a reveal store is opened or a
reveal is recorded in it. `writeMachine` takes such writes in any order. A law about
all operations is proved once, for its runs under the guard that says which writes
the law admits.

`StoreInv` is what the maps of the store say about each other: a record sits under
its own id and is listed, once, under its operator. It holds in every run that
stores records under unused ids (`StoreInv.of_run`).
-/

namespace Signet

open Lib

/-- The ways to rewrite a record. -/
inductive RewriteKind where
  /-- The status becomes `expired`; the sweep empties the reveal store first, the
  lookup by token does not. -/
  | expire (clearReveals : Bool)
  /-- `revokeRecord`. -/
  | revoke (reason : CredentialRevocationReason) (now : Time)
  /-- `setCredentialStatus`. -/
  | setStatus (status : CredentialStatus)
  | heartbeat (now : Time)
  | renew (expiresAt : Time)
  | rescope (scopes : ScopeSet) (policyHash : String)
  deriving DecidableEq

namespace RewriteKind

/-- What is passed to `mutateRecord`. -/
def updates : RewriteKind → RecordUpdates
  | .expire _ => { status := some .expired }
  | .revoke reason now =>
    { status := some .revoked, revokedAt := some now, revocationReason := some reason }
  | .setStatus status => { status := some status }
  | .heartbeat now => { lastHeartbeat := some now }
  | .renew expiresAt => { expiresAt := some expiresAt }
  | .rescope scopes policyHash =>
    { effectiveScopes := some scopes
      resolvedScopes := some (resolveScopeSet scopes)
      policyHash := some policyHash }

/-- `cleanupRevealState` runs first. -/
def clearsReveals : RewriteKind → Bool
  | .expire clearReveals => clearReveals
  | .revoke _ _ => true
  | _ => false

/-- The effects of writing `updated` under `credentialId`. -/
def effects (kind : RewriteKind) (credentialId : String) (updated : InternalCredentialRecord) :
    List CredentialEffect :=
  (if kind.updates.policyChanged then [.mutated credentialId] else []) ++
    match kind with
    | .revoke _ _ => [.revoked updated]
    | _ => []

end RewriteKind

/-- A primitive write. -/
inductive RecordWrite where
  | store (record : InternalCredentialRecord)
  | rewrite (credentialId : String) (kind : RewriteKind)
  /-- `getRevealState` creates the reveal store. -/
  | openReveals (credentialId : String)
  /-- `record` on the reveal store of a credential. -/
  | recordReveal (credentialId : String) (access : RevealAccess) (request : RevealRequest)

namespace CredentialStore

variable (m : CredentialStore)

/-- The store after a rewrite of `existing`. -/
def rewritten (credentialId : String) (kind : RewriteKind)
    (existing : InternalCredentialRecord) : CredentialStore :=
  let m' := if kind.clearsReveals then m.cleanupRevealState credentialId else m
  { m' with byId := m'.byId.set credentialId (existing.updatedWith kind.updates) }

/-- One primitive write: a rewrite needs the record, a reveal the reveal store. -/
def write : RecordWrite → Option (CredentialStore × List CredentialEffect)
  | .store record => some (m.upsertRecord record, [.stored record])
  | .rewrite credentialId kind =>
    (m.byId.get? credentialId).map fun existing =>
      (m.rewritten credentialId kind existing,
        kind.effects credentialId (existing.updatedWith kind.updates))
  | .openReveals credentialId =>
    match m.byId.get? credentialId, m.revealStates.get? credentialId with
    | some _, none => some ({ m with revealStates := m.revealStates.set credentialId [] }, [])
    | _, _ => none
  | .recordReveal credentialId access request =>
    match m.byId.get? credentialId, m.revealStates.get? credentialId with
    | some _, some reveals =>
      let recorded := reveals.record access request
      some ({ m with revealStates := m.revealStates.set credentialId recorded }, [])
    | _, _ => none

/-! ### What a rewrite leaves alone -/

section Rewritten

variable (credentialId : String) (kind : RewriteKind) (existing : InternalCredentialRecord)

@[simp] theorem rewritten_byToken :
    (m.rewritten credentialId kind existing).byToken = m.byToken := by
  unfold rewritten cleanupRevealState
  dsimp only
  split
  · split <;> rfl
  · rfl

@[simp] theorem rewritten_byOperator :
    (m.rewritten credentialId kind existing).byOperator = m.byOperator := by
  unfold rewritten cleanupRevealState
  dsimp only
  split
  · split <;> rfl
  · rfl

@[simp] theorem rewritten_byId :
    (m.rewritten credentialId kind existing).byId =
      m.byId.set credentialId (existing.updatedWith kind.updates) := by
  unfold rewritten
  dsimp only
  split
  · rw [cleanupRevealState_byId]
  · rfl

/-- The reveal stores of other credentials stay. -/
theorem get?_rewritten_revealStates_of_ne {id : String} (h : id ≠ credentialId) :
    (m.rewritten credentialId kind existing).revealStates.get? id = m.revealStates.get? id := by
  unfold rewritten cleanupRevealState
  dsimp only
  split
  · split
    · exact OrdMap.get?_set_of_ne _ _ h
    · rfl
  · rfl

end Rewritten

end CredentialStore

/-- **Primitive writes in any order.** -/
def writeMachine : Machine CredentialStore RecordWrite CredentialEffect where
  init := .new
  step := CredentialStore.write

theorem writeMachine_step (m : CredentialStore) (w : RecordWrite) :
    writeMachine.step m w = m.write w := rfl

/-- **What a primitive write can do.** -/
inductive Written (m : CredentialStore) :
    RecordWrite → CredentialStore → List CredentialEffect → Prop
  | stored (record : InternalCredentialRecord) :
      Written m (.store record) (m.upsertRecord record) [.stored record]
  | rewritten {id : String} (kind : RewriteKind) {existing : InternalCredentialRecord}
      (hget : m.byId.get? id = some existing) :
      Written m (.rewrite id kind) (m.rewritten id kind existing)
        (kind.effects id (existing.updatedWith kind.updates))
  | opened {id : String} {existing : InternalCredentialRecord}
      (hget : m.byId.get? id = some existing) (hnone : m.revealStates.get? id = none) :
      Written m (.openReveals id) { m with revealStates := m.revealStates.set id [] } []
  | revealed {id : String} {existing : InternalCredentialRecord} {reveals : RevealState}
      {access : RevealAccess} {request : RevealRequest}
      (hget : m.byId.get? id = some existing) (hsome : m.revealStates.get? id = some reveals) :
      Written m (.recordReveal id access request)
        { m with revealStates := m.revealStates.set id (reveals.record access request) } []

theorem writeMachine_sound {m m' : CredentialStore} {w : RecordWrite}
    {effects : List CredentialEffect} (h : writeMachine.step m w = some (m', effects)) :
    Written m w m' effects := by
  change m.write w = some (m', effects) at h
  cases w with
  | store record =>
    cases h
    exact .stored record
  | rewrite id kind =>
    rw [CredentialStore.write, Option.map_eq_some_iff] at h
    obtain ⟨existing, hget, heq⟩ := h
    obtain ⟨rfl, rfl⟩ := Prod.mk.inj heq
    exact .rewritten kind hget
  | openReveals id =>
    rw [CredentialStore.write] at h
    split at h
    · next existing hget hnone =>
      cases h
      exact .opened hget hnone
    · cases h
  | recordReveal id access request =>
    rw [CredentialStore.write] at h
    split at h
    · next existing reveals hget hsome =>
      cases h
      exact .revealed hget hsome
    · cases h

/-! ### What the maps say about each other -/

/-- Records sit under their own ids, and operators list ids once. Every write keeps
this, also one that stores a record under an id in use. -/
structure Indexed (m : CredentialStore) : Prop where
  /-- A record sits under its own id. -/
  keyed : Keyed m
  /-- An operator lists a credential once. -/
  nodup : ∀ {operatorId ids}, m.byOperator.get? operatorId = some ids → ids.Nodup

theorem Indexed.initial : Indexed .new where
  keyed := Keyed.initial
  nodup h := by cases h

/-- **The maps of the store agree.** -/
structure StoreInv (m : CredentialStore) : Prop where
  /-- A record sits under its own id. -/
  keyed : Keyed m
  /-- An operator lists a credential once. -/
  nodup : ∀ {operatorId ids}, m.byOperator.get? operatorId = some ids → ids.Nodup
  /-- A record is listed under its operator. -/
  listed : ∀ {id r}, m.byId.get? id = some r →
    ∃ ids, m.byOperator.get? r.operatorId = some ids ∧ id ∈ ids
  /-- What an operator lists are records of the operator. -/
  owned : ∀ {operatorId ids id}, m.byOperator.get? operatorId = some ids → id ∈ ids →
    ∃ r, m.byId.get? id = some r ∧ r.operatorId = operatorId

theorem StoreInv.initial : StoreInv .new where
  keyed := Keyed.initial
  nodup h := by cases h
  listed h := by cases h
  owned h := by cases h

theorem StoreInv.indexed {m : CredentialStore} (hI : StoreInv m) : Indexed m :=
  ⟨hI.keyed, hI.nodup⟩

/-- Records are stored under unused ids. -/
def StoresFresh (m : CredentialStore) : RecordWrite → Prop
  | .store record => m.byId.get? record.credentialId = none
  | _ => True

/-- A rewrite keeps the identity of the record. -/
theorem Indexed.rewritten {m : CredentialStore} (hI : Indexed m) {id : String}
    (kind : RewriteKind) {existing : InternalCredentialRecord}
    (hget : m.byId.get? id = some existing) : Indexed (m.rewritten id kind existing) := by
  have hid : (existing.updatedWith kind.updates).credentialId = existing.credentialId := rfl
  constructor
  · intro id' r hr
    rw [CredentialStore.rewritten_byId] at hr
    rcases OrdMap.get?_set_eq_some hr with ⟨rfl, rfl⟩ | ⟨-, hr⟩
    · rw [hid]
      exact hI.keyed hget
    · exact hI.keyed hr
  · intro operatorId ids hids
    rw [CredentialStore.rewritten_byOperator] at hids
    exact hI.nodup hids

theorem StoreInv.rewritten {m : CredentialStore} (hI : StoreInv m) {id : String}
    (kind : RewriteKind) {existing : InternalCredentialRecord}
    (hget : m.byId.get? id = some existing) : StoreInv (m.rewritten id kind existing) := by
  have hop : (existing.updatedWith kind.updates).operatorId = existing.operatorId := rfl
  have hindexed := hI.indexed.rewritten kind hget
  refine ⟨hindexed.keyed, hindexed.nodup, ?_, ?_⟩
  · intro id' r hr
    rw [CredentialStore.rewritten_byOperator]
    rw [CredentialStore.rewritten_byId] at hr
    rcases OrdMap.get?_set_eq_some hr with ⟨rfl, rfl⟩ | ⟨-, hr⟩
    · rw [hop]
      exact hI.listed hget
    · exact hI.listed hr
  · intro operatorId ids id' hids hmem
    rw [CredentialStore.rewritten_byOperator] at hids
    rw [CredentialStore.rewritten_byId]
    obtain ⟨r, hr, hown⟩ := hI.owned hids hmem
    -- a rewrite changes neither the id nor the operator of a record
    by_cases hne : id' = id
    · subst hne
      rw [hget] at hr
      cases hr
      exact ⟨_, OrdMap.get?_set_self _ _ _, hown⟩
    · exact ⟨r, by rw [OrdMap.get?_set_of_ne _ _ hne]; exact hr, hown⟩

theorem CredentialStore.byOperator_upsertRecord (m : CredentialStore)
    (record : InternalCredentialRecord) :
    ∃ ids, (m.upsertRecord record).byOperator = m.byOperator.set record.operatorId ids ∧
      (∀ id, id ∈ ids ↔
        id ∈ (m.byOperator.get? record.operatorId).getD [] ∨ id = record.credentialId) ∧
      (((m.byOperator.get? record.operatorId).getD []).Nodup → ids.Nodup) := by
  refine ⟨_, rfl, ?_, ?_⟩
  · intro id
    -- an id that is listed already is not listed again
    split
    · next hlisted =>
      constructor
      · exact .inl
      · rintro (h | rfl)
        · exact h
        · exact hlisted
    · rw [List.mem_append, List.mem_singleton]
  · intro hnodup
    split
    · exact hnodup
    · next hnot =>
      rw [List.nodup_append]
      refine ⟨hnodup, List.nodup_singleton _, ?_⟩
      intro a ha b hb heq
      rw [List.mem_singleton.1 hb] at heq
      exact hnot (heq ▸ ha)

theorem Indexed.upsertRecord {m : CredentialStore} (hI : Indexed m)
    (record : InternalCredentialRecord) : Indexed (m.upsertRecord record) := by
  obtain ⟨ids', hset, -, hnodup'⟩ := m.byOperator_upsertRecord record
  constructor
  · intro id r hr
    rw [CredentialStore.get?_upsertRecord] at hr
    split at hr
    · next hid =>
      cases hr
      exact hid.symm
    · exact hI.keyed hr
  · intro operatorId ids hids
    rw [hset] at hids
    rcases OrdMap.get?_set_eq_some hids with ⟨rfl, rfl⟩ | ⟨-, hids⟩
    · apply hnodup'
      cases hids : m.byOperator.get? record.operatorId with
      | none => exact List.nodup_nil
      | some ids => exact hI.nodup hids
    · exact hI.nodup hids

/-- A record is stored under an unused id, or over a record of the same operator. -/
def StoresOwn (m : CredentialStore) : RecordWrite → Prop
  | .store record =>
    ∀ r, m.byId.get? record.credentialId = some r → r.operatorId = record.operatorId
  | _ => True

/-- Fresh ids are nobody's. -/
theorem StoresFresh.own {m : CredentialStore} {w : RecordWrite} (h : StoresFresh m w) :
    StoresOwn m w := by
  cases w with
  | store record =>
    intro r hr
    have hnone : m.byId.get? record.credentialId = none := h
    rw [hnone] at hr
    cases hr
  | rewrite id kind => trivial
  | openReveals id => trivial
  | recordReveal id access request => trivial

/-- A record that is stored under no other operator's id joins the list of its operator. -/
theorem StoreInv.upsertRecord {m : CredentialStore} (hI : StoreInv m)
    {record : InternalCredentialRecord}
    (hown : ∀ r, m.byId.get? record.credentialId = some r → r.operatorId = record.operatorId) :
    StoreInv (m.upsertRecord record) := by
  obtain ⟨ids', hset, hmem', -⟩ := m.byOperator_upsertRecord record
  have hindexed := hI.indexed.upsertRecord record
  -- what an operator lists, as a list that may be missing
  have hlist : ∀ {id}, id ∈ (m.byOperator.get? record.operatorId).getD [] →
      ∃ ids, m.byOperator.get? record.operatorId = some ids ∧ id ∈ ids := by
    intro id hmem
    cases hids : m.byOperator.get? record.operatorId with
    | none =>
      rw [hids] at hmem
      exact absurd hmem List.not_mem_nil
    | some ids =>
      rw [hids] at hmem
      exact ⟨ids, rfl, hmem⟩
  refine ⟨hindexed.keyed, hindexed.nodup, ?_, ?_⟩
  · intro id r hr
    rw [hset]
    rw [CredentialStore.get?_upsertRecord] at hr
    split at hr
    · next hid =>
      cases hr
      exact ⟨_, OrdMap.get?_set_self _ _ _, (hmem' id).2 (.inr hid)⟩
    · obtain ⟨ids, hids, hmem⟩ := hI.listed hr
      -- the operator of the record lists one more, the others what they listed
      by_cases hop : r.operatorId = record.operatorId
      · rw [hop] at hids ⊢
        refine ⟨_, OrdMap.get?_set_self _ _ _, (hmem' id).2 (.inl ?_)⟩
        rw [hids]
        exact hmem
      · exact ⟨ids, by rw [OrdMap.get?_set_of_ne _ _ hop]; exact hids, hmem⟩
  · intro operatorId ids id hids hmem
    rw [hset] at hids
    rw [CredentialStore.get?_upsertRecord]
    by_cases hid : id = record.credentialId
    · refine ⟨record, if_pos hid, ?_⟩
      rcases OrdMap.get?_set_eq_some hids with ⟨rfl, -⟩ | ⟨-, hids⟩
      · rfl
      · -- listed by its operator before, so the stored record is of that operator
        obtain ⟨r, hr, hop⟩ := hI.owned hids hmem
        rw [hid] at hr
        exact (hown r hr).symm.trans hop
    · rw [if_neg hid]
      rcases OrdMap.get?_set_eq_some hids with ⟨rfl, rfl⟩ | ⟨-, hids⟩
      · rcases (hmem' id).1 hmem with hmem | heq
        · obtain ⟨ids, hids, hmem⟩ := hlist hmem
          exact hI.owned hids hmem
        · exact absurd heq hid
      · exact hI.owned hids hmem

/-- Every write keeps the invariant, if no record is stored over another operator's. -/
theorem StoreInv.step_own {m m' : CredentialStore} {w : RecordWrite}
    {effects : List CredentialEffect} (hI : StoreInv m) (hown : StoresOwn m w)
    (h : Written m w m' effects) : StoreInv m' := by
  cases h with
  | stored record => exact hI.upsertRecord hown
  | rewritten kind hget => exact hI.rewritten kind hget
  | opened _ _ => exact ⟨hI.keyed, hI.nodup, hI.listed, hI.owned⟩
  | revealed _ _ => exact ⟨hI.keyed, hI.nodup, hI.listed, hI.owned⟩

/-- Every write keeps the invariant, if ids are fresh. -/
theorem StoreInv.step {m m' : CredentialStore} {w : RecordWrite}
    {effects : List CredentialEffect} (hI : StoreInv m) (hfresh : StoresFresh m w)
    (h : Written m w m' effects) : StoreInv m' :=
  hI.step_own hfresh.own h

/-- **The maps agree after every run** that stores records under unused ids. -/
theorem StoreInv.of_runFrom {ok : CredentialStore → RecordWrite → Prop}
    (hok : ∀ m w, ok m w → StoresFresh m w) {m m' : CredentialStore}
    {effects : List CredentialEffect} (hI : StoreInv m)
    (h : RunFrom writeMachine ok m effects m') : StoreInv m' :=
  h.preserves (fun hI hw hs => hI.step (hok _ _ hw) (writeMachine_sound hs)) hI

end Signet
