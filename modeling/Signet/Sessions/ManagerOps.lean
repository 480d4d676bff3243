import Signet.Sessions.RecordWrites
import Mathlib.Data.List.Sort

/-!
# Credential operations as primitive writes

`ManagerOp` lists the operations of the internal credential manager, and
`OpWrite m₀ op m w` says what the code does on behalf of one: an operation called on
`m₀` performs the write `w` on `m` only after the checks that `OpWrite` names. Most
operations perform at most one write, on the store they were called with; the
eviction of an issuance, `revokeAllCredentials` and `sweepExpired` go through
several records, each of them active at its turn.

* `ManagerOp.writes`: an operation is a run of the write machine under `OpWrite`.
* `serviceStep_managerOps`: a segment of the service, of `credential.updateScopes`
  or of the WebSocket requests performs the manager operations `managerOps` lists.
* `credentialRun_writes`: a run of both kinds of operations is a run of the write
  machine, under any guard that the guards of the operations imply.
-/

namespace Signet

open Lib Service

/-- The operations of `createCredentialManager`. -/
inductive ManagerOp where
  | issueCredential (config : CredentialConfig) (options : CredentialStore.IssueOptions)
  | getCredentialByToken (token : String) (now : Time)
  | getCredentialById (credentialId : String)
  | listCredentials (operatorId : Option String)
  | recordHeartbeat (credentialId : String) (now : Time)
  | renewCredential (credentialId : String) (now : Time)
  | updateCredentialScopes (credentialId : String) (scopes : ScopeSet)
  | revokeCredential (credentialId : String) (reason : CredentialRevocationReason) (now : Time)
  | revokeAllCredentials (operatorId : String) (reason : CredentialRevocationReason) (now : Time)
  | setCredentialStatus (credentialId : String) (status : CredentialStatus)
  | getRevealState (credentialId : String)
  | sweepExpired (now : Time)

section Perform

variable (cfg : CredentialManagerConfig) (hash : ScopeSet → List String → String)
  (m : CredentialStore)

/-- The store after an operation, its effects and whether it returns `Ok`. The
operations that cannot fail always do. -/
def ManagerOp.perform : ManagerOp → Outcome Bool
  | .issueCredential config options =>
    let o := m.issueCredential cfg hash config options
    ⟨o.store, o.effects, o.value.isOk⟩
  | .getCredentialByToken token now =>
    let o := m.getCredentialByToken token now
    ⟨o.store, o.effects, o.value.isOk⟩
  | .getCredentialById credentialId => ⟨m, [], (m.getCredentialById credentialId).isOk⟩
  | .listCredentials _ => ⟨m, [], true⟩
  | .recordHeartbeat credentialId now =>
    let o := m.recordHeartbeat credentialId now
    ⟨o.store, o.effects, o.value.isOk⟩
  | .renewCredential credentialId now =>
    let o := m.renewCredential cfg credentialId now
    ⟨o.store, o.effects, o.value.isOk⟩
  | .updateCredentialScopes credentialId scopes =>
    let o := m.updateCredentialScopes hash credentialId scopes
    ⟨o.store, o.effects, o.value.isOk⟩
  | .revokeCredential credentialId reason now =>
    let o := m.revokeCredential credentialId reason now
    ⟨o.store, o.effects, o.value.isOk⟩
  | .revokeAllCredentials operatorId reason now =>
    let o := m.revokeAllCredentials operatorId reason now
    ⟨o.store, o.effects, true⟩
  | .setCredentialStatus credentialId status =>
    let o := m.setCredentialStatus credentialId status
    ⟨o.store, o.effects, o.value.isOk⟩
  | .getRevealState credentialId =>
    let o := m.getRevealState credentialId
    ⟨o.store, o.effects, o.value.isOk⟩
  | .sweepExpired now =>
    let o := m.sweepExpired cfg now
    ⟨o.store, o.effects, true⟩

/-- The operations in order: the last store and all effects. -/
def performAll : CredentialStore → List ManagerOp → CredentialStore × List CredentialEffect
  | m, [] => (m, [])
  | m, op :: ops =>
    let o := op.perform cfg hash m
    let rest := performAll o.store ops
    (rest.1, o.effects ++ rest.2)

end Perform

/-- The operations in order each satisfy the guard on the store they are called on. -/
def GuardedOps (cfg : CredentialManagerConfig) (hash : ScopeSet → List String → String)
    (ok : CredentialStore → ManagerOp → Bool) : CredentialStore → List ManagerOp → Bool
  | _, [] => true
  | m, op :: ops => ok m op && GuardedOps cfg hash ok (op.perform cfg hash m).store ops

/-- **What an operation called on `m₀` may write to `m`**, with the checks before it. -/
inductive OpWrite (cfg : CredentialManagerConfig) (hash : ScopeSet → List String → String)
    (m₀ : CredentialStore) : ManagerOp → CredentialStore → RecordWrite → Prop
  /-- The eviction of an issuance: the oldest active record. -/
  | evict {config options id r} (hget : m₀.byId.get? id = some r) (hactive : r.status = .active) :
      OpWrite cfg hash m₀ (.issueCredential config options) m₀
        (.rewrite id (.revoke .policyViolation options.now))
  | store {config m} {options : CredentialStore.IssueOptions}
      (hkeys : ∀ id, m.byId.get? id = none ↔ m₀.byId.get? id = none) :
      OpWrite cfg hash m₀ (.issueCredential config options) m
        (.store (CredentialStore.newRecord cfg
          (hash (CredentialStore.buildScopeSet config) config.chatIds) config options))
  /-- The lookup by token expires the record, whatever its status. -/
  | expireByToken {token now id r} (htoken : m₀.byToken.get? token = some id)
      (hget : m₀.byId.get? id = some r) (hdue : r.expiresAt ≤ now) :
      OpWrite cfg hash m₀ (.getCredentialByToken token now) m₀ (.rewrite id (.expire false))
  | heartbeat {id now r} (hget : m₀.byId.get? id = some r) (hactive : r.status = .active) :
      OpWrite cfg hash m₀ (.recordHeartbeat id now) m₀ (.rewrite id (.heartbeat now))
  | renew {id now r} (hget : m₀.byId.get? id = some r) (hactive : r.status = .active)
      (hwindow : r.expiresAt ≤ now + cfg.renewalWindowSeconds * 1000) :
      OpWrite cfg hash m₀ (.renewCredential id now) m₀ (.rewrite id (.renew (now + r.ttlMs)))
  | rescope {id scopes r} (hget : m₀.byId.get? id = some r) (hactive : r.status = .active) :
      OpWrite cfg hash m₀ (.updateCredentialScopes id scopes) m₀
        (.rewrite id (.rescope scopes (hash scopes r.chatIds)))
  /-- A revocation on request, whatever the status. -/
  | revoke {id reason now r} (hget : m₀.byId.get? id = some r) :
      OpWrite cfg hash m₀ (.revokeCredential id reason now) m₀ (.rewrite id (.revoke reason now))
  | revokeAll {operatorId reason now m id r} (hget : m.byId.get? id = some r)
      (hactive : r.status = .active) :
      OpWrite cfg hash m₀ (.revokeAllCredentials operatorId reason now) m
        (.rewrite id (.revoke reason now))
  | setStatus {id status r} (hget : m₀.byId.get? id = some r) :
      OpWrite cfg hash m₀ (.setCredentialStatus id status) m₀ (.rewrite id (.setStatus status))
  | openReveals {id r} (hget : m₀.byId.get? id = some r) :
      OpWrite cfg hash m₀ (.getRevealState id) m₀ (.openReveals id)
  | sweepExpire {now m id r} (hget : m.byId.get? id = some r) (hactive : r.status = .active)
      (hdue : r.expiresAt ≤ now) :
      OpWrite cfg hash m₀ (.sweepExpired now) m (.rewrite id (.expire true))
  | sweepRevoke {now m id r} (hget : m.byId.get? id = some r) (hactive : r.status = .active)
      (hstale : CredentialStore.heartbeatDeadline cfg r ≤ now) :
      OpWrite cfg hash m₀ (.sweepExpired now) m (.rewrite id (.revoke .heartbeatTimeout now))

namespace CredentialStore

variable {m : CredentialStore} {ok : CredentialStore → RecordWrite → Prop}

/-! ### One write -/

/-- `mutateRecord` is a rewrite that neither clears nor announces. -/
theorem step_mutateRecord {id : String} {r : InternalCredentialRecord}
    (hget : m.byId.get? id = some r) (kind : RewriteKind) (hclear : kind.clearsReveals = false)
    (hquiet : ∀ updated, kind.effects id updated =
      if kind.updates.policyChanged then [.mutated id] else []) :
    writeMachine.step m (.rewrite id kind) =
      some ((m.mutateRecord id kind.updates).store, (m.mutateRecord id kind.updates).effects) := by
  rw [writeMachine_step]
  simp only [write, mutateRecord, hget, Option.map_some, rewritten, hclear, hquiet,
    Bool.false_eq_true, if_false]

theorem cleanupRevealState_get? {id : String} (k : String) :
    (m.cleanupRevealState id).byId.get? k = m.byId.get? k := by
  rw [cleanupRevealState_byId]

theorem step_sweepExpire {id : String} {r : InternalCredentialRecord}
    (hget : m.byId.get? id = some r) :
    let o := (m.cleanupRevealState id).mutateRecord id { status := some .expired }
    writeMachine.step m (.rewrite id (.expire true)) = some (o.store, o.effects) ∧
      ∃ updated, o.value = .ok updated := by
  intro o
  have hget' : (m.cleanupRevealState id).byId.get? id = some r := by
    rw [cleanupRevealState_get?]
    exact hget
  constructor
  · rw [writeMachine_step]
    simp only [write, hget, Option.map_some, o, mutateRecord, hget']
    rfl
  · simp only [o, mutateRecord, hget']
    exact ⟨_, rfl⟩

theorem step_revokeRecord {id : String} {r : InternalCredentialRecord}
    (hget : m.byId.get? id = some r) (reason : CredentialRevocationReason) (now : Time) :
    let o := m.revokeRecord id reason now
    writeMachine.step m (.rewrite id (.revoke reason now)) = some (o.store, o.effects) ∧
      o.value = .ok (r.updatedWith (RewriteKind.revoke reason now).updates) := by
  intro o
  have hget' : (m.cleanupRevealState id).byId.get? id = some r := by
    rw [cleanupRevealState_get?]
    exact hget
  constructor
  · rw [writeMachine_step]
    simp only [write, hget, Option.map_some, o, revokeRecord, mutateRecord, hget']
    rfl
  · simp only [o, revokeRecord, mutateRecord, hget']
    rfl

theorem get?_of_step_rewrite {m' : CredentialStore} {id : String} {kind : RewriteKind}
    {effects : List CredentialEffect}
    (h : writeMachine.step m (.rewrite id kind) = some (m', effects)) {k : String} (hne : k ≠ id) :
    m'.byId.get? k = m.byId.get? k := by
  cases writeMachine_sound h with
  | rewritten kind hget =>
    rw [rewritten_byId, OrdMap.get?_set_of_ne _ _ hne]

theorem get?_eq_none_of_step_rewrite {m' : CredentialStore} {id : String} {kind : RewriteKind}
    {effects : List CredentialEffect}
    (h : writeMachine.step m (.rewrite id kind) = some (m', effects)) (k : String) :
    m'.byId.get? k = none ↔ m.byId.get? k = none := by
  by_cases hk : k = id
  · cases writeMachine_sound h with
    | rewritten kind hget =>
      rw [rewritten_byId, hk, OrdMap.get?_set_self, hget]
      simp
  · rw [get?_of_step_rewrite h hk]

/-! ### Loops over records -/

/-- A loop over records with different ids, each of whose turns writes only the record
it is about, finds every record as it was at the start. -/
theorem foldl_writes {turn : Outcome (List InternalCredentialRecord) → InternalCredentialRecord →
      Outcome (List InternalCredentialRecord)} {l : List InternalCredentialRecord}
    (hturn : ∀ o, ∀ r ∈ l, o.store.byId.get? r.credentialId = some r →
      ∃ effects, (turn o r).effects = o.effects ++ effects ∧
        RunFrom writeMachine ok o.store effects (turn o r).store ∧
        ∀ k, k ≠ r.credentialId → (turn o r).store.byId.get? k = o.store.byId.get? k)
    (hnodup : (l.map (·.credentialId)).Nodup) :
    ∀ o, (∀ r ∈ l, o.store.byId.get? r.credentialId = some r) →
      ∃ effects, (l.foldl turn o).effects = o.effects ++ effects ∧
        RunFrom writeMachine ok o.store effects (l.foldl turn o).store := by
  induction l with
  | nil =>
    intro o _
    exact ⟨[], (List.append_nil _).symm, .nil⟩
  | cons r l ih =>
    intro o hat
    rw [List.map_cons, List.nodup_cons] at hnodup
    obtain ⟨effects, heffects, hrun, hframe⟩ :=
      hturn o r List.mem_cons_self (hat r List.mem_cons_self)
    -- the later records have other ids, so this turn left them alone
    have hat' : ∀ r' ∈ l, (turn o r).store.byId.get? r'.credentialId = some r' := by
      intro r' hr'
      have hne : r'.credentialId ≠ r.credentialId := by
        intro heq
        exact hnodup.1 (heq ▸ List.mem_map_of_mem hr')
      rw [hframe _ hne]
      exact hat r' (List.mem_cons_of_mem _ hr')
    obtain ⟨rest, hrest, hrun'⟩ :=
      ih (fun o r hr => hturn o r (List.mem_cons_of_mem _ hr)) hnodup.2 (turn o r) hat'
    refine ⟨effects ++ rest, ?_, hrun.trans hrun'⟩
    rw [List.foldl_cons, hrest, heffects, List.append_assoc]

theorem values_nodup (hI : Indexed m) :
    (m.byId.values.map (·.credentialId)).Nodup ∧
      ∀ r ∈ m.byId.values, m.byId.get? r.credentialId = some r := by
  constructor
  · have hkeys : m.byId.values.map (·.credentialId) = m.byId.keys := by
      rw [OrdMap.values, OrdMap.keys, List.map_map]
      refine List.map_congr_left fun e he => ?_
      exact hI.keyed (OrdMap.mem_entries_iff.1 he)
    rw [hkeys]
    exact m.byId.nodup
  · intro r hr
    obtain ⟨id, hget⟩ := OrdMap.mem_values_iff.1 hr
    rw [hI.keyed hget]
    exact hget

/-- The active records of an operator: different ids, under their ids, and active. -/
theorem getActiveForOperator_spec (hI : Indexed m) (operatorId : String) :
    ((m.getActiveForOperator operatorId).map (·.credentialId)).Nodup ∧
      ∀ r ∈ m.getActiveForOperator operatorId,
        m.byId.get? r.credentialId = some r ∧ r.status = .active := by
  -- the ids that are found are among the listed ones, in their order
  have hsub : ∀ ids : List String,
      ((ids.filterMap m.byId.get?).map (·.credentialId)).Sublist ids := by
    intro ids
    induction ids with
    | nil => exact .slnil
    | cons id ids ih =>
      cases hget : m.byId.get? id with
      | none =>
        rw [List.filterMap_cons_none hget]
        exact ih.cons id
      | some r =>
        rw [List.filterMap_cons_some hget, List.map_cons, hI.keyed hget]
        exact ih.cons_cons id
  constructor
  · have hids : ((m.byOperator.get? operatorId).getD []).Nodup := by
      cases hlist : m.byOperator.get? operatorId with
      | none => exact List.nodup_nil
      | some ids => exact hI.nodup hlist
    exact ((List.filter_sublist.map _).trans (hsub _)).nodup hids
  · intro r hr
    obtain ⟨hmem, hactive⟩ := List.mem_filter.1 hr
    obtain ⟨id, -, hget⟩ := List.mem_filterMap.1 hmem
    rw [hI.keyed hget]
    exact ⟨hget, of_decide_eq_true hactive⟩

theorem evicted_spec (hI : Indexed m) {cfg : CredentialManagerConfig} {operatorId : String}
    {oldest : InternalCredentialRecord} (h : m.evicted cfg operatorId = some oldest) :
    m.byId.get? oldest.credentialId = some oldest ∧ oldest.status = .active := by
  unfold evicted at h
  dsimp only at h
  split at h
  · have hmem := List.mem_of_head? h
    rw [List.mem_insertionSort] at hmem
    exact (getActiveForOperator_spec hI operatorId).2 oldest hmem
  · cases h

end CredentialStore

/-! ### Every operation -/

section Writes

open CredentialStore

variable {cfg : CredentialManagerConfig} {hash : ScopeSet → List String → String}
  {m : CredentialStore}

theorem revokeAllCredentials_writes (hI : Indexed m) (operatorId : String)
    (reason : CredentialRevocationReason) (now : Time) :
    RunFrom writeMachine (OpWrite cfg hash m (.revokeAllCredentials operatorId reason now)) m
      (m.revokeAllCredentials operatorId reason now).effects
      (m.revokeAllCredentials operatorId reason now).store := by
  obtain ⟨hnodup, hat⟩ := getActiveForOperator_spec hI operatorId
  -- each turn revokes one record and leaves the others to the later turns
  have hloop : ∃ effects,
      (m.revokeAllCredentials operatorId reason now).effects = [] ++ effects ∧
        RunFrom writeMachine (OpWrite cfg hash m (.revokeAllCredentials operatorId reason now)) m
          effects (m.revokeAllCredentials operatorId reason now).store := by
    refine foldl_writes (fun o r hr hget => ?_) hnodup ⟨m, [], []⟩ fun r hr => (hat r hr).1
    have hstep := (step_revokeRecord hget reason now).1
    refine ⟨_, rfl, .single (.revokeAll hget (hat r hr).2) hstep, ?_⟩
    intro k hne
    exact get?_of_step_rewrite hstep hne
  obtain ⟨effects, heffects, hrun⟩ := hloop
  rw [heffects]
  exact hrun

theorem sweepExpired_writes (hI : Indexed m) (now : Time) :
    RunFrom writeMachine (OpWrite cfg hash m (.sweepExpired now)) m
      (m.sweepExpired cfg now).effects (m.sweepExpired cfg now).store := by
  obtain ⟨hnodup, hat⟩ := values_nodup hI
  have hloop : ∃ effects, (m.sweepExpired cfg now).effects = [] ++ effects ∧
      RunFrom writeMachine (OpWrite cfg hash m (.sweepExpired now)) m effects
        (m.sweepExpired cfg now).store := by
    refine foldl_writes (fun o r _ hget => ?_) hnodup ⟨m, [], []⟩ hat
    by_cases hactive : r.status = .active
    · by_cases hdue : r.expiresAt ≤ now
      · -- expiry comes first
        obtain ⟨hstep, -⟩ := step_sweepExpire hget
        simp only [sweepRecord, hactive, ne_eq, not_true_eq_false, if_false, hdue, if_true]
        exact ⟨_, rfl, .single (.sweepExpire hget hactive hdue) hstep,
          fun k hne => get?_of_step_rewrite hstep hne⟩
      · by_cases hstale : heartbeatDeadline cfg r ≤ now
        · obtain ⟨hstep, -⟩ := step_revokeRecord hget .heartbeatTimeout now
          simp only [sweepRecord, hactive, ne_eq, not_true_eq_false, if_false, hdue, hstale,
            if_true]
          exact ⟨_, rfl, .single (.sweepRevoke hget hactive hstale) hstep,
            fun k hne => get?_of_step_rewrite hstep hne⟩
        · simp only [sweepRecord, hactive, ne_eq, not_true_eq_false, if_false, hdue, hstale]
          exact ⟨[], (List.append_nil _).symm, .nil, by simp⟩
    · simp only [sweepRecord, ne_eq, hactive, not_false_eq_true, if_true]
      exact ⟨[], (List.append_nil _).symm, .nil, by simp⟩
  obtain ⟨effects, heffects, hrun⟩ := hloop
  rw [heffects]
  exact hrun

theorem issueCredential_writes (hI : Indexed m) (config : CredentialConfig)
    (options : IssueOptions) :
    RunFrom writeMachine (OpWrite cfg hash m (.issueCredential config options)) m
      (m.issueCredential cfg hash config options).effects
      (m.issueCredential cfg hash config options).store := by
  -- the second half, on a store with the same keys
  have hreuse : ∀ m' : CredentialStore, (∀ id, m'.byId.get? id = none ↔ m.byId.get? id = none) →
      let o := m'.reuseOrStore cfg (hash (buildScopeSet config) config.chatIds) config options
      RunFrom writeMachine (OpWrite cfg hash m (.issueCredential config options)) m' o.effects
        o.store := by
    intro m' hkeys
    unfold reuseOrStore
    split
    · exact .nil
    · exact .single (.store hkeys) rfl
  unfold CredentialStore.issueCredential
  dsimp only
  split
  · exact hreuse m fun _ => Iff.rfl
  · next oldest hevicted =>
    obtain ⟨hget, hactive⟩ := evicted_spec hI hevicted
    obtain ⟨hstep, hvalue⟩ := step_revokeRecord hget .policyViolation options.now
    rw [hvalue]
    -- the eviction is a write, and it keeps the keys
    exact (RunFrom.single (.evict hget hactive) hstep).trans
      (hreuse _ (get?_eq_none_of_step_rewrite hstep))

theorem issueCredential_of_none {config : CredentialConfig} {options : IssueOptions}
    (hevicted : m.evicted cfg config.operatorId = none) :
    m.issueCredential cfg hash config options =
      m.reuseOrStore cfg (hash (buildScopeSet config) config.chatIds) config options := by
  unfold CredentialStore.issueCredential
  dsimp only
  rw [hevicted]

/-- At the limit, an issuance reuses or stores in what the eviction has left. -/
theorem issueCredential_of_evicted {config : CredentialConfig} {oldest : InternalCredentialRecord}
    (hevicted : m.evicted cfg config.operatorId = some oldest)
    (hget : m.byId.get? oldest.credentialId = some oldest) (options : IssueOptions) :
    let issued := (m.rewritten oldest.credentialId (.revoke .policyViolation options.now)
      oldest).reuseOrStore cfg (hash (buildScopeSet config) config.chatIds) config options
    (m.issueCredential cfg hash config options).store = issued.store ∧
      (m.issueCredential cfg hash config options).value = issued.value := by
  obtain ⟨hstep, hvalue⟩ := step_revokeRecord hget .policyViolation options.now
  have hstore : (m.revokeRecord oldest.credentialId .policyViolation options.now).store =
      m.rewritten oldest.credentialId (.revoke .policyViolation options.now) oldest := by
    rw [writeMachine_step, write, hget, Option.map_some] at hstep
    exact (Prod.mk.inj (Option.some.inj hstep)).1.symm
  unfold CredentialStore.issueCredential
  dsimp only
  rw [hevicted]
  dsimp only
  rw [hvalue, hstore]
  exact ⟨rfl, rfl⟩

/-- **What an issuance does.** It first evicts the oldest active record of an operator at
the limit; then it hands out an active record of the operator with the policy hash, or
stores a new one. -/
theorem issueCredential_cases (hI : Indexed m) (config : CredentialConfig)
    (options : IssueOptions) :
    ∃ m' : CredentialStore,
      ((m.evicted cfg config.operatorId = none ∧ m' = m) ∨
        ∃ oldest, m.evicted cfg config.operatorId = some oldest ∧
          m.byId.get? oldest.credentialId = some oldest ∧ oldest.status = .active ∧
          m' = m.rewritten oldest.credentialId (.revoke .policyViolation options.now) oldest) ∧
      ((∃ existing ∈ m'.getActiveForOperator config.operatorId,
          existing.policyHash = hash (buildScopeSet config) config.chatIds ∧
          (m.issueCredential cfg hash config options).store = m' ∧
          (m.issueCredential cfg hash config options).value = .ok existing) ∨
        ∃ record, record =
          newRecord cfg (hash (buildScopeSet config) config.chatIds) config options ∧
          (m.issueCredential cfg hash config options).store = m'.upsertRecord record ∧
          (m.issueCredential cfg hash config options).value = .ok record) := by
  -- the second half
  have hreuse : ∀ m' : CredentialStore,
      let o := m'.reuseOrStore cfg (hash (buildScopeSet config) config.chatIds) config options
      (∃ existing ∈ m'.getActiveForOperator config.operatorId,
        existing.policyHash = hash (buildScopeSet config) config.chatIds ∧
          o.store = m' ∧ o.value = .ok existing) ∨
      ∃ record, record = newRecord cfg (hash (buildScopeSet config) config.chatIds) config options ∧
        o.store = m'.upsertRecord record ∧ o.value = .ok record := by
    intro m'
    unfold reuseOrStore
    split
    · next existing hfind =>
      have hhash := List.find?_some hfind
      exact .inl ⟨existing, List.mem_of_find?_eq_some hfind, of_decide_eq_true hhash, rfl, rfl⟩
    · exact .inr ⟨_, rfl, rfl, rfl⟩
  cases hevicted : m.evicted cfg config.operatorId with
  | none =>
    refine ⟨m, .inl ⟨rfl, rfl⟩, ?_⟩
    rw [issueCredential_of_none hevicted]
    exact hreuse m
  | some oldest =>
    obtain ⟨hget, hactive⟩ := evicted_spec hI hevicted
    refine ⟨_, .inr ⟨oldest, rfl, hget, hactive, rfl⟩, ?_⟩
    obtain ⟨hstore, hvalue⟩ := issueCredential_of_evicted hevicted hget options
    rw [hstore, hvalue]
    exact hreuse _

/-- **An operation performs the writes that `OpWrite` names.** -/
theorem ManagerOp.writes (hI : Indexed m) (op : ManagerOp) :
    RunFrom writeMachine (OpWrite cfg hash m op) m (op.perform cfg hash m).effects
      (op.perform cfg hash m).store := by
  cases op with
  | issueCredential config options => exact issueCredential_writes hI config options
  | getCredentialByToken token now =>
    simp only [perform, CredentialStore.getCredentialByToken]
    split
    · exact .nil
    · next id htoken =>
      split
      · exact .nil
      · next r hget =>
        split
        · next hdue =>
          exact .single (.expireByToken htoken hget hdue)
            (step_mutateRecord hget (.expire false) rfl fun _ => rfl)
        · split <;> exact .nil
  | getCredentialById id => exact .nil
  | listCredentials operatorId => exact .nil
  | recordHeartbeat id now =>
    simp only [perform, CredentialStore.recordHeartbeat]
    split
    · exact .nil
    · next r hget =>
      split
      · exact .nil
      · next hactive =>
        exact .single (.heartbeat hget (not_not.1 hactive))
          (step_mutateRecord hget (.heartbeat now) rfl fun _ => rfl)
  | renewCredential id now =>
    simp only [perform, CredentialStore.renewCredential]
    split
    · exact .nil
    · next r hget =>
      split
      · exact .nil
      · next hactive =>
        split
        · exact .nil
        · next hwindow =>
          exact .single (.renew hget (not_not.1 hactive) (Nat.le_of_not_lt hwindow))
            (step_mutateRecord hget (.renew (now + r.ttlMs)) rfl fun _ => rfl)
  | updateCredentialScopes id scopes =>
    simp only [perform, CredentialStore.updateCredentialScopes]
    split
    · exact .nil
    · next r hget =>
      split
      · exact .nil
      · next hactive =>
        exact .single (.rescope hget (not_not.1 hactive))
          (step_mutateRecord hget (.rescope scopes (hash scopes r.chatIds)) rfl
            fun _ => rfl)
  | revokeCredential id reason now =>
    simp only [perform, CredentialStore.revokeCredential]
    split
    · exact .nil
    · next r hget => exact .single (.revoke hget) (step_revokeRecord hget reason now).1
  | revokeAllCredentials operatorId reason now =>
    exact revokeAllCredentials_writes hI operatorId reason now
  | setCredentialStatus id status =>
    simp only [perform, CredentialStore.setCredentialStatus]
    split
    · exact .nil
    · next r hget =>
      exact .single (.setStatus hget)
        (step_mutateRecord hget (.setStatus status) rfl fun _ => rfl)
  | getRevealState id =>
    simp only [perform, CredentialStore.getRevealState]
    split
    · exact .nil
    · next r hget =>
      split
      · exact .nil
      · next hnone =>
        refine .single (.openReveals hget) ?_
        rw [writeMachine_step]
        simp only [write, hget, hnone]
  | sweepExpired now => exact sweepExpired_writes hI now

end Writes

/-! ### The operations behind a segment of the service -/

/-- An update applies the scopes, or revokes the credential if they escalate. -/
def updateOps (m : CredentialStore) (credentialId : String) (next : ScopeSet) (now : Time) :
    List ManagerOp :=
  match m.checkMateriality credentialId next with
  | .error _ => []
  | .ok check =>
    if check.requiresReauthorization then
      [.revokeCredential credentialId .reauthorizationRequired now]
    else [.updateCredentialScopes credentialId next]

/-- The WebSocket request applies the scopes, or puts the credential on hold. -/
def wsUpdateOps (m : CredentialStore) (credentialId : String) (next : ScopeSet) :
    List ManagerOp :=
  match m.checkMateriality credentialId next with
  | .error _ => []
  | .ok check =>
    if check.requiresReauthorization then [.setCredentialStatus credentialId .pending]
    else [.updateCredentialScopes credentialId next]

/-- The manager operations a segment calls, in order. -/
def ServiceAction.managerOps (s : ServiceState) : ServiceAction → List ManagerOp
  | .issue _ config options =>
    match config.policyId with
    | some _ => [.sweepExpired options.now]
    | none => [.sweepExpired options.now, .issueCredential config options]
  | .list operatorId now => [.sweepExpired now, .listCredentials operatorId]
  | .lookup credentialId now => [.sweepExpired now, .getCredentialById credentialId]
  | .lookupByToken token now => [.getCredentialByToken token now]
  | .revoke credentialId reason now => [.revokeCredential credentialId reason now]
  | .update _ credentialId changes now =>
    .getCredentialById credentialId ::
      match updateStart s.store credentialId changes now with
      | .apply next => updateOps s.store credentialId next now
      | _ => []
  | .renew credentialId now => [.renewCredential credentialId now]
  | .policyResolved call policy options =>
    match s.calls.get? call, policy with
    | some (.issuing config issuedBy), .ok policy =>
      [.issueCredential
        (withPolicyScopes config (resolvePolicy policy config.allow config.deny))
        { options with issuedBy := issuedBy }]
    | some (.updating credentialId allow deny), .ok policy =>
      updateOps s.store credentialId (resolvePolicy policy allow deny) options.now
    | _, _ => []
  | .updateScopes _ credentialId _ now =>
    [.sweepExpired now, .getCredentialById credentialId]
  | .updateScopesLookedUp call now =>
    match s.calls.get? call with
    | some (.updatingScopes credentialId scopes (.ok credential)) =>
      if credential.status ≠ .active then []
      else updateOps s.store credentialId scopes now
    | _ => []
  | .wsUpdateScopes credential allow deny =>
    wsUpdateOps s.store credential.credentialId
      (nextScopes credential.effectiveScopes allow deny)
  | .heartbeat credentialId now => [.recordHeartbeat credentialId now]
  | .revokeAll operatorId reason now => [.revokeAllCredentials operatorId reason now]

/-- The effect an event reports. -/
def ServiceEvent.effect? : ServiceEvent → Option CredentialEffect
  | .effect e => some e
  | .replied _ => none

/-- The effects in a trace. -/
def recordEffects (tr : List ServiceEvent) : List CredentialEffect :=
  tr.filterMap ServiceEvent.effect?

@[simp] theorem recordEffects_append (tr es : List ServiceEvent) :
    recordEffects (tr ++ es) = recordEffects tr ++ recordEffects es :=
  List.filterMap_append

@[simp] theorem recordEffects_effects (effects : List CredentialEffect) :
    recordEffects (effects.map .effect) = effects := by
  unfold recordEffects
  rw [List.filterMap_map]
  exact List.filterMap_some

/-- A segment that answers leaves the store and the effects of its outcome. -/
theorem outcome_of_reply {α : Type} {s s' : ServiceState} {es : List ServiceEvent} {o : Outcome α}
    {answer : α → ServiceReply} (h : some (s.reply o answer) = some (s', es)) :
    (s'.store, recordEffects es) = (o.store, o.effects) := by
  cases h
  change (o.store, recordEffects (o.effects.map .effect ++ [.replied (answer o.value)])) = _
  rw [recordEffects_append, recordEffects_effects]
  exact congrArg (Prod.mk o.store) (List.append_nil o.effects)

theorem outcome_of_wait {α : Type} {s s' : ServiceState} {es : List ServiceEvent} {o : Outcome α}
    {call : Nat} {phase : ServiceCall} (h : some (s.wait o call phase) = some (s', es)) :
    (s'.store, recordEffects es) = (o.store, o.effects) := by
  cases h
  change (o.store, recordEffects (o.effects.map .effect)) = _
  rw [recordEffects_effects]

section Segments

variable {cfg : CredentialManagerConfig} {hash : ScopeSet → List String → String}
  {m : CredentialStore}

@[simp] theorem performAll_single (op : ManagerOp) :
    performAll cfg hash m [op] =
      ((op.perform cfg hash m).store, (op.perform cfg hash m).effects) := by
  simp only [performAll, List.append_nil]

theorem updateFinish_ops (credentialId : String) (next : ScopeSet) (now : Time) :
    performAll cfg hash m (updateOps m credentialId next now) =
      ((updateFinish hash m credentialId next now).store,
        (updateFinish hash m credentialId next now).effects) := by
  unfold updateOps updateFinish
  cases m.checkMateriality credentialId next with
  | error e => rfl
  | ok check =>
    dsimp only
    split
    · rw [performAll_single]
      rfl
    · rw [performAll_single]
      rfl

theorem updateScopesFinish_ops (credentialId : String) (scopes : ScopeSet)
    (credential : CredentialRecord) (now : Time) (hactive : credential.status = .active) :
    performAll cfg hash m (updateOps m credentialId scopes now) =
      ((updateScopesFinish hash m credentialId scopes (.ok credential) now).store,
        (updateScopesFinish hash m credentialId scopes (.ok credential) now).effects) := by
  unfold updateOps updateScopesFinish
  dsimp only
  rw [if_neg (not_not.2 hactive)]
  cases m.checkMateriality credentialId scopes with
  | error e => rfl
  | ok check =>
    dsimp only
    split
    · rw [performAll_single]
      rfl
    · rw [performAll_single]
      rfl

theorem handleUpdateScopes_ops (credential : CredentialRecord)
    (allow deny : Option (List PermissionScope)) :
    performAll cfg hash m (wsUpdateOps m credential.credentialId
        (nextScopes credential.effectiveScopes allow deny)) =
      ((handleUpdateScopes hash m credential allow deny).store,
        (handleUpdateScopes hash m credential allow deny).effects) := by
  unfold wsUpdateOps handleUpdateScopes
  dsimp only
  cases m.checkMateriality credential.credentialId
      (nextScopes credential.effectiveScopes allow deny) with
  | error e => rfl
  | ok check =>
    dsimp only
    split
    · rw [performAll_single]
      rfl
    · rw [performAll_single]
      rfl

theorem performAll_sweep {op : ManagerOp} (now : Time)
    (hread : ∀ m, op.perform cfg hash m = ⟨m, [], (op.perform cfg hash m).value⟩) :
    performAll cfg hash m [.sweepExpired now, op] =
      ((m.sweepExpired cfg now).store, (m.sweepExpired cfg now).effects) := by
  have hsweep : (ManagerOp.sweepExpired now).perform cfg hash m =
      ⟨(m.sweepExpired cfg now).store, (m.sweepExpired cfg now).effects, true⟩ := rfl
  simp only [performAll, hsweep]
  rw [hread]
  simp only [List.append_nil]

/-- **A segment of the service performs its manager operations.** -/
theorem serviceStep_managerOps {s s' : ServiceState} {a : ServiceAction} {es : List ServiceEvent}
    (h : serviceStep cfg hash s a = some (s', es)) :
    performAll cfg hash s.store (a.managerOps s) = (s'.store, recordEffects es) := by
  cases a with
  | issue call config options =>
    dsimp only [serviceStep] at h
    dsimp only [ServiceAction.managerOps]
    split at h
    · cases h
    · cases hpolicy : config.policyId with
      | some policyId =>
        rw [hpolicy] at h
        rw [outcome_of_wait h]
        exact performAll_single _
      | none =>
        rw [hpolicy] at h
        rw [outcome_of_reply h]
        simp only [performAll, List.append_nil]
        rfl
  | list operatorId now =>
    rw [outcome_of_reply h]
    exact performAll_sweep now fun _ => rfl
  | lookup credentialId now =>
    rw [outcome_of_reply h]
    exact performAll_sweep now fun _ => rfl
  | lookupByToken token now =>
    rw [outcome_of_reply h]
    exact performAll_single _
  | revoke credentialId reason now =>
    rw [outcome_of_reply h]
    exact performAll_single _
  | update call credentialId changes now =>
    dsimp only [serviceStep] at h
    dsimp only [ServiceAction.managerOps, performAll, ManagerOp.perform]
    split at h
    · cases h
    · split at h
      · next result hstart =>
        rw [hstart, outcome_of_reply h]
        rfl
      · next next hstart =>
        rw [hstart, outcome_of_reply h]
        dsimp only
        rw [updateFinish_ops]
        rfl
      · next policyId hstart =>
        rw [hstart, outcome_of_wait h]
        rfl
  | renew credentialId now =>
    rw [outcome_of_reply h]
    exact performAll_single _
  | policyResolved call policy options =>
    dsimp only [serviceStep] at h
    dsimp only [ServiceAction.managerOps]
    split at h
    · next config issuedBy hcall =>
      split at h
      · rw [hcall, outcome_of_reply h]
        rfl
      · rw [hcall, outcome_of_reply h]
        exact performAll_single _
    · next credentialId allow deny hcall =>
      split at h
      · rw [hcall, outcome_of_reply h]
        rfl
      · rw [hcall, outcome_of_reply h]
        exact updateFinish_ops _ _ _
    · cases h
  | updateScopes call credentialId scopes now =>
    dsimp only [serviceStep] at h
    split at h
    · cases h
    · rw [outcome_of_wait h]
      exact performAll_sweep now fun _ => rfl
  | updateScopesLookedUp call now =>
    dsimp only [serviceStep] at h
    dsimp only [ServiceAction.managerOps]
    split at h
    · next credentialId scopes lookupResult hcall =>
      rw [hcall, outcome_of_reply h]
      cases lookupResult with
      | error e => rfl
      | ok credential =>
        dsimp only
        by_cases hactive : credential.status = .active
        · rw [if_neg (not_not.2 hactive)]
          exact updateScopesFinish_ops _ _ _ _ hactive
        · rw [if_pos hactive]
          unfold updateScopesFinish
          dsimp only
          rw [if_pos hactive]
          rfl
    · cases h
  | wsUpdateScopes credential allow deny =>
    rw [outcome_of_reply h]
    exact handleUpdateScopes_ops _ _ _
  | heartbeat credentialId now =>
    rw [outcome_of_reply h]
    exact performAll_single _
  | revokeAll operatorId reason now =>
    rw [outcome_of_reply h]
    exact performAll_single _

end Segments

/-! ### Runs of operations -/

/-- A direct call of the manager, or a segment of the service. -/
inductive CredentialAction where
  | manager (op : ManagerOp)
  | service (a : ServiceAction)

/-- The manager operations of an action. -/
def CredentialAction.managerOps (s : ServiceState) : CredentialAction → List ManagerOp
  | .manager op => [op]
  | .service a => a.managerOps s

section Runs

variable (cfg : CredentialManagerConfig) (hash : ScopeSet → List String → String)

def credentialStep (s : ServiceState) :
    CredentialAction → Option (ServiceState × List ServiceEvent)
  | .manager op =>
    let o := op.perform cfg hash s.store
    some ({ s with store := o.store }, o.effects.map .effect)
  | .service a => serviceStep cfg hash s a

/-- **Manager operations and service segments in any order.** -/
def credentialMachine : Machine ServiceState CredentialAction ServiceEvent where
  init := ⟨.new, .empty⟩
  step := credentialStep cfg hash

/-- Every manager operation of the action satisfies the guard where it is called. -/
def guardedOps (ok : CredentialStore → ManagerOp → Bool) (s : ServiceState)
    (a : CredentialAction) : Bool :=
  GuardedOps cfg hash ok s.store (a.managerOps s)

variable {cfg hash}

/-- The store and the effects of a step are those of its manager operations. -/
theorem credentialStep_managerOps {s s' : ServiceState} {a : CredentialAction}
    {es : List ServiceEvent} (h : credentialStep cfg hash s a = some (s', es)) :
    performAll cfg hash s.store (a.managerOps s) = (s'.store, recordEffects es) := by
  cases a with
  | manager op =>
    cases h
    rw [CredentialAction.managerOps, performAll_single, recordEffects_effects]
  | service a => exact serviceStep_managerOps h

variable {ok : CredentialStore → ManagerOp → Bool} {okW : CredentialStore → RecordWrite → Prop}

/-- **Induction over operations.** What every guarded operation keeps, operations in order
keep. -/
theorem performAll_preserves {I : CredentialStore → Prop}
    (hop : ∀ m op, I m → ok m op = true → I (op.perform cfg hash m).store) :
    ∀ {m : CredentialStore} (ops : List ManagerOp), I m → GuardedOps cfg hash ok m ops = true →
      I (performAll cfg hash m ops).1 := by
  intro m ops
  induction ops generalizing m with
  | nil =>
    intro hI _
    exact hI
  | cons op ops ih =>
    intro hI hguard
    rw [GuardedOps, Bool.and_eq_true] at hguard
    exact ih (hop m op hI hguard.1) hguard.2

theorem credentialRun_preserves {I : CredentialStore → Prop}
    (hop : ∀ m op, I m → ok m op = true → I (op.perform cfg hash m).store)
    {s s' : ServiceState} {tr : List ServiceEvent} (hI : I s.store)
    (h : RunFrom (credentialMachine cfg hash) (fun s a => guardedOps cfg hash ok s a = true) s tr
      s') : I s'.store := by
  refine h.preserves (I := fun s => I s.store) ?_ hI
  intro s a s' es hI hguard hs
  have hops := performAll_preserves hop (a.managerOps s) hI hguard
  rw [credentialStep_managerOps hs] at hops
  exact hops

/-- Operations in order are a run of the write machine, if the guard of each operation
implies the guard of its writes. -/
theorem performAll_writes (hfresh : ∀ m w, okW m w → StoresFresh m w)
    (hok : ∀ m op, StoreInv m → ok m op = true → ∀ m' w, OpWrite cfg hash m op m' w → okW m' w) :
    ∀ {m : CredentialStore} (ops : List ManagerOp), StoreInv m →
      GuardedOps cfg hash ok m ops = true →
      RunFrom writeMachine okW m (performAll cfg hash m ops).2 (performAll cfg hash m ops).1 := by
  intro m ops
  induction ops generalizing m with
  | nil =>
    intro _ _
    exact .nil
  | cons op ops ih =>
    intro hI hguard
    rw [GuardedOps, Bool.and_eq_true] at hguard
    have hop : RunFrom writeMachine okW m (op.perform cfg hash m).effects
        (op.perform cfg hash m).store :=
      (ManagerOp.writes hI.indexed op).mono (hok m op hI hguard.1)
    have hI' := StoreInv.of_runFrom hfresh hI hop
    exact hop.trans (ih hI' hguard.2)

end Runs

end Signet
