import Signet.Sessions.RevocationFinal
import Mathlib.Data.List.Sort

/-!
# The cap on an operator's active credentials

`issueCredential` keeps an operator at `maxConcurrentPerOperator` active credentials by
revoking the oldest one first. Everything else only takes credentials out of the active
status, as long as `setCredentialStatus` does not set it.

`CapInv` holds in every state of a run: the three maps agree (`StoreInv` for ids and
operators, `TokenInv` for tokens) and no operator has more active records than the limit.
`operator_cap` adds what an issuance revokes.

The number of active records is a count over `byId`, which a write changes at one entry
(`OrdMap.countP_values_set`). The code counts over what the operator lists;
`length_getActiveForOperator` says that this is the same number.
-/

namespace Signet

open Lib CredentialStore

def isActiveOf (operatorId : String) (r : InternalCredentialRecord) : Bool :=
  r.operatorId = operatorId && r.status = .active

def activeCount (m : CredentialStore) (operatorId : String) : Nat :=
  m.byId.values.countP (isActiveOf operatorId)

theorem isActiveOf_iff {operatorId : String} {r : InternalCredentialRecord} :
    isActiveOf operatorId r = true ↔ r.operatorId = operatorId ∧ r.status = .active := by
  rw [isActiveOf, Bool.and_eq_true, decide_eq_true_eq, decide_eq_true_eq]

/-- Ids and tokens are fresh, and no status is set to active: the runs the cap is about. -/
def capGuard (m : CredentialStore) : ManagerOp → Bool
  | .issueCredential _ options => !m.byId.has options.credentialId && !m.byToken.has options.token
  | .setCredentialStatus _ status => status ≠ .active
  | _ => true

/-! ### What the code counts -/

section Count

variable {m : CredentialStore}

/-- The active records an operator lists are the active records of the operator. -/
theorem mem_getActiveForOperator (hI : StoreInv m) {operatorId : String}
    {r : InternalCredentialRecord} :
    r ∈ m.getActiveForOperator operatorId ↔
      r ∈ m.byId.values ∧ isActiveOf operatorId r = true := by
  rw [isActiveOf_iff]
  constructor
  · intro h
    obtain ⟨hmem, hactive⟩ := List.mem_filter.1 h
    obtain ⟨id, hid, hget⟩ := List.mem_filterMap.1 hmem
    cases hids : m.byOperator.get? operatorId with
    | none =>
      rw [hids] at hid
      exact absurd hid List.not_mem_nil
    | some ids =>
      rw [hids] at hid
      obtain ⟨r', hget', hop⟩ := hI.owned hids hid
      rw [hget] at hget'
      cases hget'
      exact ⟨OrdMap.mem_values_iff.2 ⟨id, hget⟩, hop, of_decide_eq_true hactive⟩
  · rintro ⟨hmem, rfl, hactive⟩
    obtain ⟨id, hget⟩ := OrdMap.mem_values_iff.1 hmem
    obtain ⟨ids, hids, hid⟩ := hI.listed hget
    refine List.mem_filter.2 ⟨List.mem_filterMap.2 ⟨id, ?_, hget⟩, decide_eq_true hactive⟩
    rw [hids]
    exact hid

/-- The code counts what `activeCount` counts. -/
theorem length_getActiveForOperator (hI : StoreInv m) (operatorId : String) :
    (m.getActiveForOperator operatorId).length = activeCount m operatorId := by
  have hlisted : (m.getActiveForOperator operatorId).Nodup :=
    (getActiveForOperator_spec hI.indexed operatorId).1.of_map
  have hstored : (m.byId.values.filter (isActiveOf operatorId)).Nodup :=
    (values_nodup hI.indexed).1.of_map.filter _
  have hperm : (m.getActiveForOperator operatorId).Perm
      (m.byId.values.filter (isActiveOf operatorId)) := by
    rw [List.perm_ext_iff_of_nodup hlisted hstored]
    intro r
    rw [mem_getActiveForOperator hI, List.mem_filter]
  rw [activeCount, List.countP_eq_length_filter]
  exact hperm.length_eq

/-- No active record of the operator is older than the evicted one. -/
theorem evicted_oldest {cfg : CredentialManagerConfig} (hI : StoreInv m) {operatorId : String}
    {oldest : InternalCredentialRecord} (h : m.evicted cfg operatorId = some oldest) :
    isActiveOf operatorId oldest = true ∧
      ∀ r ∈ m.byId.values, isActiveOf operatorId r = true → oldest.issuedAt ≤ r.issuedAt := by
  unfold evicted at h
  dsimp only at h
  split at h
  · set byAge := fun a b : InternalCredentialRecord => a.issuedAt ≤ b.issuedAt
    have : Std.Total byAge := ⟨fun a b => Nat.le_total a.issuedAt b.issuedAt⟩
    have : IsTrans InternalCredentialRecord byAge :=
      ⟨fun _ _ _ hab hbc => Nat.le_trans hab hbc⟩
    have hsorted := List.pairwise_insertionSort byAge (m.getActiveForOperator operatorId)
    obtain ⟨rest, hrest⟩ := List.head?_eq_some_iff.1 h
    rw [hrest] at hsorted
    have hmem : ∀ r, r ∈ oldest :: rest ↔ r ∈ m.byId.values ∧ isActiveOf operatorId r = true := by
      intro r
      rw [← hrest, List.mem_insertionSort, mem_getActiveForOperator hI]
    refine ⟨((hmem oldest).1 List.mem_cons_self).2, ?_⟩
    intro r hr hactive
    rcases List.mem_cons.1 ((hmem r).2 ⟨hr, hactive⟩) with rfl | hlater
    · exact Nat.le_refl _
    · exact List.rel_of_pairwise_cons hsorted hlater
  · cases h

/-- An issuance evicts nothing only below the limit. -/
theorem activeCount_lt_of_not_evicted {cfg : CredentialManagerConfig} (hI : StoreInv m)
    (hmax : 1 ≤ cfg.maxConcurrentPerOperator) {operatorId : String}
    (h : m.evicted cfg operatorId = none) :
    activeCount m operatorId < cfg.maxConcurrentPerOperator := by
  rw [← length_getActiveForOperator hI]
  unfold evicted at h
  dsimp only at h
  split at h
  · -- at the limit there is a record to evict
    have hnil := List.head?_eq_none_iff.1 h
    have hlength := List.length_insertionSort
      (fun a b : InternalCredentialRecord => a.issuedAt ≤ b.issuedAt)
      (m.getActiveForOperator operatorId)
    rw [hnil, List.length_nil] at hlength
    omega
  · next hbelow => exact Nat.lt_of_not_le hbelow

end Count

/-! ### One write -/

section Write

variable {m : CredentialStore} {id : String} {existing : InternalCredentialRecord}

/-- A rewrite that does not set the active status makes no record active. -/
theorem activeCount_rewritten_le (hget : m.byId.get? id = some existing) {kind : RewriteKind}
    (hkind : kind.updates.status ≠ some .active) (operatorId : String) :
    activeCount (m.rewritten id kind existing) operatorId ≤ activeCount m operatorId := by
  have hcount := m.byId.countP_values_set id (existing.updatedWith kind.updates)
    (isActiveOf operatorId)
  rw [hget, Option.any_some, ← rewritten_byId] at hcount
  have hactive : isActiveOf operatorId (existing.updatedWith kind.updates) = true →
      isActiveOf operatorId existing = true := by
    rw [isActiveOf_iff, isActiveOf_iff]
    rintro ⟨hop, hstatus⟩
    refine ⟨hop, ?_⟩
    have hkept : (kind.updates.status.getD existing.status) = .active := hstatus
    cases hnew : kind.updates.status with
    | none =>
      rw [hnew] at hkept
      exact hkept
    | some status =>
      rw [hnew] at hkept
      exact absurd (hnew.trans (congrArg some hkept)) hkind
  unfold activeCount
  by_cases hnew : isActiveOf operatorId (existing.updatedWith kind.updates) = true
  · rw [if_pos hnew, if_pos (hactive hnew)] at hcount
    omega
  · rw [if_neg hnew] at hcount
    omega

theorem activeCount_revoked (hget : m.byId.get? id = some existing) {operatorId : String}
    (hactive : isActiveOf operatorId existing = true) (reason : CredentialRevocationReason)
    (now : Time) :
    activeCount (m.rewritten id (.revoke reason now) existing) operatorId + 1 =
      activeCount m operatorId := by
  have hcount := m.byId.countP_values_set id
    (existing.updatedWith (RewriteKind.revoke reason now).updates) (isActiveOf operatorId)
  have hnot : ¬ isActiveOf operatorId
      (existing.updatedWith (RewriteKind.revoke reason now).updates) = true := by
    rw [isActiveOf_iff]
    rintro ⟨-, hstatus⟩
    cases hstatus
  rw [hget, Option.any_some, if_pos hactive, if_neg hnot, ← rewritten_byId] at hcount
  exact hcount

theorem activeCount_upsertRecord_le (record : InternalCredentialRecord) (operatorId : String) :
    activeCount (m.upsertRecord record) operatorId ≤
      activeCount m operatorId + (if record.operatorId = operatorId then 1 else 0) := by
  have hcount := m.byId.countP_values_set record.credentialId record (isActiveOf operatorId)
  have hactive : isActiveOf operatorId record = true → record.operatorId = operatorId :=
    fun h => (isActiveOf_iff.1 h).1
  change activeCount (m.upsertRecord record) operatorId + _ = _ at hcount
  change _ ≤ m.byId.values.countP (isActiveOf operatorId) + _
  by_cases hnew : isActiveOf operatorId record = true
  · rw [if_pos hnew] at hcount
    rw [if_pos (hactive hnew)]
    omega
  · rw [if_neg hnew] at hcount
    omega

end Write

/-! ### The tokens -/

/-- **The token map is the inverse of the tokens of the records.** -/
structure TokenInv (m : CredentialStore) : Prop where
  /-- A record is found under its token. -/
  indexed : ∀ {id r}, m.byId.get? id = some r → m.byToken.get? r.token = some id
  /-- A token leads to a record that holds it. -/
  held : ∀ {token id}, m.byToken.get? token = some id →
    ∃ r, m.byId.get? id = some r ∧ r.token = token

theorem TokenInv.initial : TokenInv .new where
  indexed h := by cases h
  held h := by cases h

/-- A rewrite keeps the token of the record. -/
theorem TokenInv.rewritten {m : CredentialStore} (hT : TokenInv m) {id : String}
    (kind : RewriteKind) {existing : InternalCredentialRecord}
    (hget : m.byId.get? id = some existing) : TokenInv (m.rewritten id kind existing) := by
  have htoken : (existing.updatedWith kind.updates).token = existing.token := rfl
  refine ⟨?_, ?_⟩
  · intro id' r hr
    rw [rewritten_byToken]
    rw [rewritten_byId] at hr
    rcases OrdMap.get?_set_eq_some hr with ⟨rfl, rfl⟩ | ⟨-, hr⟩
    · rw [htoken]
      exact hT.indexed hget
    · exact hT.indexed hr
  · intro token id' hid
    rw [rewritten_byToken] at hid
    rw [rewritten_byId]
    obtain ⟨r, hr, hheld⟩ := hT.held hid
    by_cases hne : id' = id
    · subst hne
      rw [hget] at hr
      cases hr
      exact ⟨_, OrdMap.get?_set_self _ _ _, hheld⟩
    · exact ⟨r, by rw [OrdMap.get?_set_of_ne _ _ hne]; exact hr, hheld⟩

theorem TokenInv.upsertRecord {m : CredentialStore} (hT : TokenInv m)
    {record : InternalCredentialRecord} (hid : m.byId.get? record.credentialId = none)
    (htoken : m.byToken.get? record.token = none) : TokenInv (m.upsertRecord record) := by
  have hbyToken : (m.upsertRecord record).byToken =
      m.byToken.set record.token record.credentialId := rfl
  refine ⟨?_, ?_⟩
  · intro id r hr
    rw [hbyToken]
    rw [get?_upsertRecord] at hr
    split at hr
    · next heq =>
      cases hr
      rw [heq]
      exact OrdMap.get?_set_self _ _ _
    · -- an old record does not hold the new token
      have hne : r.token ≠ record.token := by
        intro heq
        have hindexed := hT.indexed hr
        rw [heq, htoken] at hindexed
        cases hindexed
      rw [OrdMap.get?_set_of_ne _ _ hne]
      exact hT.indexed hr
  · intro token id hlookup
    rw [hbyToken] at hlookup
    rw [get?_upsertRecord]
    rcases OrdMap.get?_set_eq_some hlookup with ⟨rfl, rfl⟩ | ⟨-, hlookup⟩
    · exact ⟨record, if_pos rfl, rfl⟩
    · obtain ⟨r, hr, hheld⟩ := hT.held hlookup
      have hne : id ≠ record.credentialId := by
        rintro rfl
        rw [hid] at hr
        cases hr
      exact ⟨r, by rw [if_neg hne]; exact hr, hheld⟩

/-! ### The invariant -/

/-- **The maps agree and no operator is over the limit.** -/
structure CapInv (cfg : CredentialManagerConfig) (m : CredentialStore) : Prop where
  store : StoreInv m
  tokens : TokenInv m
  cap : ∀ operatorId, activeCount m operatorId ≤ cfg.maxConcurrentPerOperator

theorem CapInv.initial (cfg : CredentialManagerConfig) : CapInv cfg .new where
  store := .initial
  tokens := .initial
  cap _ := Nat.zero_le _

/-- The writes of everything but an issuance: none stores or activates a record. -/
def NeverActivates : RecordWrite → Prop
  | .store _ => False
  | .rewrite _ kind => kind.updates.status ≠ some .active
  | _ => True

section Step

variable {cfg : CredentialManagerConfig} {hash : ScopeSet → List String → String}
  {m : CredentialStore}

/-- A rewrite that does not activate keeps the invariant. -/
theorem CapInv.rewritten (hC : CapInv cfg m) {id : String} {existing : InternalCredentialRecord}
    (hget : m.byId.get? id = some existing) {kind : RewriteKind}
    (hkind : kind.updates.status ≠ some .active) :
    CapInv cfg (m.rewritten id kind existing) where
  store := hC.store.rewritten kind hget
  tokens := hC.tokens.rewritten kind hget
  cap operatorId := (activeCount_rewritten_le hget hkind operatorId).trans (hC.cap operatorId)

theorem CapInv.written (hC : CapInv cfg m) {w : RecordWrite} (hw : NeverActivates w)
    {m' : CredentialStore} {effects : List CredentialEffect} (h : Written m w m' effects) :
    CapInv cfg m' := by
  cases h with
  | stored record => exact hw.elim
  | rewritten kind hget => exact hC.rewritten hget hw
  | opened _ _ =>
    exact ⟨⟨hC.store.keyed, hC.store.nodup, hC.store.listed, hC.store.owned⟩,
      ⟨hC.tokens.indexed, hC.tokens.held⟩, hC.cap⟩
  | revealed _ _ =>
    exact ⟨⟨hC.store.keyed, hC.store.nodup, hC.store.listed, hC.store.owned⟩,
      ⟨hC.tokens.indexed, hC.tokens.held⟩, hC.cap⟩

theorem neverActivates_of_capGuard {op : ManagerOp} (hguard : capGuard m op = true)
    (hissue : ∀ config options, op ≠ .issueCredential config options) {m' : CredentialStore}
    {w : RecordWrite} (h : OpWrite cfg hash m op m' w) : NeverActivates w := by
  cases h with
  | evict hget hactive => exact absurd rfl (hissue _ _)
  | store hkeys => exact absurd rfl (hissue _ _)
  | setStatus hget =>
    intro heq
    cases heq
    cases hguard
  | openReveals hget => trivial
  | _ => exact fun heq => by cases heq

/-- An issuance keeps the operator at the limit: it evicts before it stores. -/
theorem CapInv.issueCredential (hC : CapInv cfg m) (hmax : 1 ≤ cfg.maxConcurrentPerOperator)
    {config : CredentialConfig} {options : IssueOptions}
    (hid : m.byId.get? options.credentialId = none)
    (htoken : m.byToken.get? options.token = none) :
    CapInv cfg (m.issueCredential cfg hash config options).store := by
  obtain ⟨m', hevict, hrest⟩ := @issueCredential_cases cfg hash m hC.store.indexed config options
  -- after the eviction there is room, and id and token are still unused
  have hmid : CapInv cfg m' ∧ activeCount m' config.operatorId < cfg.maxConcurrentPerOperator ∧
      m'.byId.get? options.credentialId = none ∧ m'.byToken.get? options.token = none := by
    rcases hevict with ⟨hnone, rfl⟩ | ⟨oldest, hsome, hget, -, rfl⟩
    · exact ⟨hC, activeCount_lt_of_not_evicted hC.store hmax hnone, hid, htoken⟩
    · obtain ⟨hactive, -⟩ := evicted_oldest hC.store hsome
      have hless := activeCount_revoked hget hactive .policyViolation options.now
      have hcap := hC.cap config.operatorId
      refine ⟨hC.rewritten hget (fun heq => by cases heq), by omega, ?_, ?_⟩
      · have hne : options.credentialId ≠ oldest.credentialId := by
          intro heq
          rw [heq, hget] at hid
          cases hid
        rw [rewritten_byId, OrdMap.get?_set_of_ne _ _ hne]
        exact hid
      · rw [rewritten_byToken]
        exact htoken
  obtain ⟨hC', hroom, hid', htoken'⟩ := hmid
  rcases hrest with ⟨existing, -, -, hstore, -⟩ | ⟨record, hrecord, hstore, -⟩
  · rw [hstore]
    exact hC'
  · have hkey : record.credentialId = options.credentialId := by rw [hrecord]; rfl
    have hheld : record.token = options.token := by rw [hrecord]; rfl
    have howner : record.operatorId = config.operatorId := by rw [hrecord]; rfl
    rw [hstore]
    refine ⟨hC'.store.upsertRecord ?_, hC'.tokens.upsertRecord ?_ ?_, ?_⟩
    · intro r hr
      rw [hkey, hid'] at hr
      cases hr
    · rw [hkey]
      exact hid'
    · rw [hheld]
      exact htoken'
    · intro operatorId
      refine (activeCount_upsertRecord_le record operatorId).trans ?_
      by_cases hop : record.operatorId = operatorId
      · rw [if_pos hop, ← hop, howner]
        omega
      · rw [if_neg hop]
        exact hC'.cap operatorId

/-- **Every operation keeps the invariant.** -/
theorem CapInv.perform (hmax : 1 ≤ cfg.maxConcurrentPerOperator) (hC : CapInv cfg m)
    (op : ManagerOp) (hguard : capGuard m op = true) :
    CapInv cfg (op.perform cfg hash m).store := by
  by_cases hissue : ∃ config options, op = .issueCredential config options
  · obtain ⟨config, options, rfl⟩ := hissue
    rw [capGuard, Bool.and_eq_true, Bool.not_eq_true', Bool.not_eq_true'] at hguard
    exact hC.issueCredential hmax
      (Option.isSome_eq_false_iff.1 hguard.1 |> Option.isNone_iff_eq_none.1)
      (Option.isSome_eq_false_iff.1 hguard.2 |> Option.isNone_iff_eq_none.1)
  · have hother : ∀ config options, op ≠ .issueCredential config options :=
      fun config options heq => hissue ⟨config, options, heq⟩
    have hwrites := @ManagerOp.writes cfg hash m hC.store.indexed op
    refine hwrites.preserves ?_ hC
    intro m₁ w m₂ effects hC₁ hw hs
    exact hC₁.written (neverActivates_of_capGuard hguard hother hw) (writeMachine_sound hs)

end Step

/-! ### What an issuance revokes -/

/-- The credential is revoked on the way from `m` to `m'`. -/
def RevokedOnTheWay (m m' : CredentialStore) (credentialId : String) : Prop :=
  isRevoked m credentialId = false ∧ isRevoked m' credentialId = true

/-- Only the evicted record is revoked by an issuance. -/
theorem revokedOnTheWay_evicted {cfg : CredentialManagerConfig}
    {hash : ScopeSet → List String → String} {m : CredentialStore} (hI : StoreInv m)
    {config : CredentialConfig} {options : IssueOptions} {id : String}
    (h : RevokedOnTheWay m (m.issueCredential cfg hash config options).store id) :
    ∃ oldest, m.evicted cfg config.operatorId = some oldest ∧ oldest.credentialId = id ∧
      m.byId.get? id = some oldest := by
  obtain ⟨hbefore, hafter⟩ := h
  obtain ⟨m', hevict, hrest⟩ := @issueCredential_cases cfg hash m hI.indexed config options
  -- a new record is active, so the revoked one was revoked by the eviction
  have hmid : isRevoked m' id = true := by
    rcases hrest with ⟨existing, -, -, hstore, -⟩ | ⟨record, hrecord, hstore, -⟩
    · rw [hstore] at hafter
      exact hafter
    · rw [hstore, isRevoked, get?_upsertRecord] at hafter
      split at hafter
      · rw [Option.any_some, hrecord] at hafter
        exact absurd (of_decide_eq_true hafter) (by simp [newRecord])
      · exact hafter
  rcases hevict with ⟨-, rfl⟩ | ⟨oldest, hsome, hget, -, rfl⟩
  · rw [hbefore] at hmid
    cases hmid
  · by_cases hid : id = oldest.credentialId
    · subst hid
      exact ⟨oldest, hsome, rfl, hget⟩
    · rw [isRevoked, rewritten_byId, OrdMap.get?_set_of_ne _ _ hid] at hmid
      rw [isRevoked, hmid] at hbefore
      cases hbefore

/-! ### The cap -/

def CredentialStore.credentialIds (m : CredentialStore) (operatorId : String) : List String :=
  (m.byOperator.get? operatorId).getD []

theorem mem_credentialIds {m : CredentialStore} (hI : StoreInv m) {operatorId id : String} :
    id ∈ m.credentialIds operatorId ↔
      ∃ r, m.byId.get? id = some r ∧ r.operatorId = operatorId := by
  unfold CredentialStore.credentialIds
  constructor
  · intro hmem
    cases hids : m.byOperator.get? operatorId with
    | none =>
      rw [hids] at hmem
      exact absurd hmem List.not_mem_nil
    | some ids =>
      rw [hids] at hmem
      exact hI.owned hids hmem
  · rintro ⟨r, hget, rfl⟩
    obtain ⟨ids, hids, hmem⟩ := hI.listed hget
    rw [hids]
    exact hmem

/-- **The cap and the indexes.** For a limit of at least one, in every run of credential
operations with fresh ids and tokens that never sets a status to active: an operator has
at most the limit of active credentials; a record sits under its own id, a token leads to
exactly the record that holds it, and an operator lists, once each, exactly the ids of its
credentials; and an issuance from here revokes at most one credential, an active one of the
operator that no other active one of the operator is older than. -/
theorem operator_cap {cfg : CredentialManagerConfig} {hash : ScopeSet → List String → String}
    (hmax : 1 ≤ cfg.maxConcurrentPerOperator) {tr : List ServiceEvent} {s : ServiceState}
    (h : Run (credentialMachine cfg hash)
      (fun s a => guardedOps cfg hash capGuard s a = true) tr s) :
    (∀ operatorId, activeCount s.store operatorId ≤ cfg.maxConcurrentPerOperator) ∧
    ((∀ id r, s.store.byId.get? id = some r → r.credentialId = id) ∧
      (∀ token id, s.store.byToken.get? token = some id ↔
        ∃ r, s.store.byId.get? id = some r ∧ r.token = token) ∧
      (∀ operatorId, (s.store.credentialIds operatorId).Nodup ∧
        ∀ id, id ∈ s.store.credentialIds operatorId ↔
          ∃ r, s.store.byId.get? id = some r ∧ r.operatorId = operatorId)) ∧
    (∀ config options,
      let issued := (s.store.issueCredential cfg hash config options).store
      (∀ id, RevokedOnTheWay s.store issued id →
        ∃ oldest, s.store.byId.get? id = some oldest ∧
          isActiveOf config.operatorId oldest = true ∧
          ∀ id' r, s.store.byId.get? id' = some r → isActiveOf config.operatorId r = true →
            oldest.issuedAt ≤ r.issuedAt) ∧
      (∀ id id', RevokedOnTheWay s.store issued id → RevokedOnTheWay s.store issued id' →
        id = id')) := by
  have hC : CapInv cfg s.store :=
    credentialRun_preserves (I := CapInv cfg) (fun m op hC hguard => hC.perform hmax op hguard)
      (.initial cfg) h.runFrom
  refine ⟨hC.cap, ⟨fun id r hget => hC.store.keyed hget, ?_, ?_⟩, ?_⟩
  · intro token id
    constructor
    · exact hC.tokens.held
    · rintro ⟨r, hget, rfl⟩
      exact hC.tokens.indexed hget
  · intro operatorId
    refine ⟨?_, fun id => mem_credentialIds hC.store⟩
    unfold CredentialStore.credentialIds
    cases hids : s.store.byOperator.get? operatorId with
    | none => exact List.nodup_nil
    | some ids => exact hC.store.nodup hids
  · intro config options
    constructor
    · intro id hrevoked
      obtain ⟨oldest, hsome, -, hget⟩ := revokedOnTheWay_evicted hC.store hrevoked
      obtain ⟨hactive, holdest⟩ := evicted_oldest hC.store hsome
      exact ⟨oldest, hget, hactive,
        fun id' r hr => holdest r (OrdMap.mem_values_iff.2 ⟨id', hr⟩)⟩
    · intro id id' hrevoked hrevoked'
      obtain ⟨oldest, hsome, rfl, -⟩ := revokedOnTheWay_evicted hC.store hrevoked
      obtain ⟨oldest', hsome', rfl, -⟩ := revokedOnTheWay_evicted hC.store hrevoked'
      rw [hsome] at hsome'
      cases hsome'
      rfl

/-- A limit of one: the second credential of an operator takes the place of the first. -/
theorem operator_cap_replaced :
    ∃ (tr : List ServiceEvent) (s : ServiceState),
      Run (credentialMachine { maxConcurrentPerOperator := 1 } fun _ _ => "")
        (fun s a => guardedOps { maxConcurrentPerOperator := 1 }
          (fun _ _ => "") capGuard s a = true)
        tr s ∧
      (isRevoked s.store "cred_0123456789abcdef" &&
        !isRevoked s.store "cred_fedcba9876543210") = true ∧
      (∀ operatorId, activeCount s.store operatorId ≤ 1) ∧
      ∀ id, id ∈ s.store.credentialIds "op_0123456789abcdef" ↔
        ∃ r, s.store.byId.get? id = some r ∧ r.operatorId = "op_0123456789abcdef" := by
  obtain ⟨tr, s, hrun, htest⟩ := exists_run_of_exec
    (credentialMachine { maxConcurrentPerOperator := 1 } fun _ _ => "")
    (guardedOps { maxConcurrentPerOperator := 1 } (fun _ _ => "") capGuard)
    [.manager (.issueCredential
        ⟨"op_0123456789abcdef", ["conv_0123456789abcdef"], none, some [.send], none, none⟩
        ⟨"cred_0123456789abcdef", "owner", "token", 0⟩),
      .manager (.issueCredential
        ⟨"op_0123456789abcdef", ["conv_0123456789abcdef"], none, some [.reply], none, none⟩
        ⟨"cred_fedcba9876543210", "owner", "another token", 1000⟩)]
    (fun _ s => isRevoked s.store "cred_0123456789abcdef" &&
      !isRevoked s.store "cred_fedcba9876543210")
    (by decide)
  obtain ⟨hcap, ⟨-, -, hlisted⟩, -⟩ := operator_cap (by decide) hrun
  exact ⟨tr, s, hrun, htest, hcap, (hlisted "op_0123456789abcdef").2⟩

end Signet
