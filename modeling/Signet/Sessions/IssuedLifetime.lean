import Signet.Sessions.ExpiredCredentials

/-!
# The lifetime of an issued credential

`issueCredential` looks for an active credential of the operator with the policy hash of
the request and returns it as it is; only when there is none does it store a new one. The
hash is over scopes and chats, so the lifetime that is asked for is the new credential's
alone.

* `reusable` is the credential that an issuance finds: active, with the same policy, and
  not the one that the issuance evicts. It keeps the expiry of its issue or last renewal.
* `LifetimeInv`: no record expires later than its own lifetime after the latest reading of
  the clock. Issuance and renewal are the two writers of an expiry.
-/

namespace Signet

open Lib CredentialStore

/-- The active credential that an issuance returns again. -/
def CredentialStore.reusable (m : CredentialStore) (cfg : CredentialManagerConfig)
    (hash : ScopeSet → List String → String) (config : CredentialConfig) :
    Option InternalCredentialRecord :=
  let policyHash := hash (buildScopeSet config) config.chatIds
  (m.getActiveForOperator config.operatorId).find? fun existing =>
    (m.evicted cfg config.operatorId).all (·.credentialId ≠ existing.credentialId) &&
      decide (existing.policyHash = policyHash)

/-! ### The eviction and the active records -/

section Evicted

variable {m : CredentialStore}

/-- The active records of an operator after one of them is revoked. -/
theorem getActiveForOperator_revoked (hI : Indexed m) {id : String}
    {existing : InternalCredentialRecord} (hget : m.byId.get? id = some existing)
    (reason : CredentialRevocationReason) (now : Time) (operatorId : String) :
    (m.rewritten id (.revoke reason now) existing).getActiveForOperator operatorId =
      (m.getActiveForOperator operatorId).filter fun r => decide (id ≠ r.credentialId) := by
  unfold getActiveForOperator
  rw [rewritten_byOperator, rewritten_byId]
  generalize (m.byOperator.get? operatorId).getD [] = ids
  induction ids with
  | nil => rfl
  | cons listed ids ih =>
    -- the lists are compared id by id
    have hcons : ∀ f : String → Option InternalCredentialRecord,
        ((listed :: ids).filterMap f).filter (·.status = .active) =
          ((f listed).toList.filter (·.status = .active)) ++
            ((ids.filterMap f).filter (·.status = .active)) := by
      intro f
      cases hf : f listed with
      | none => rw [List.filterMap_cons_none hf]; rfl
      | some r => rw [List.filterMap_cons_some hf, ← List.singleton_append, List.filter_append]; rfl
    rw [hcons, hcons, List.filter_append, ← ih]
    congr 1
    by_cases hlisted : listed = id
    · -- the revoked record itself drops out
      subst hlisted
      rw [OrdMap.get?_set_self, hget]
      have hid : existing.credentialId = listed := hI.keyed hget
      cases hactive : decide (existing.status = .active) <;>
        simp [hactive, hid, InternalCredentialRecord.updatedWith, RewriteKind.updates]
    · rw [OrdMap.get?_set_of_ne _ _ hlisted]
      cases hr : m.byId.get? listed with
      | none => rfl
      | some r =>
        have hid : r.credentialId = listed := hI.keyed hr
        have hne : id ≠ r.credentialId := by
          rw [hid]
          exact Ne.symm hlisted
        cases hactive : decide (r.status = .active) <;> simp [hactive, hne]

end Evicted

section Issue

variable {cfg : CredentialManagerConfig} {hash : ScopeSet → List String → String}
  {m : CredentialStore}

/-- After the eviction, the record found by its hash is the reusable one. -/
theorem reuseOrStore_value (m' : CredentialStore) (config : CredentialConfig)
    (options : IssueOptions)
    (hfind : (m'.getActiveForOperator config.operatorId).find?
      (·.policyHash = hash (buildScopeSet config) config.chatIds) = m.reusable cfg hash config) :
    (m'.reuseOrStore cfg (hash (buildScopeSet config) config.chatIds) config options).value =
      .ok ((m.reusable cfg hash config).getD
        (newRecord cfg (hash (buildScopeSet config) config.chatIds) config options)) := by
  unfold reuseOrStore
  rw [hfind]
  cases m.reusable cfg hash config with
  | none => rfl
  | some existing => rfl

/-- **What an issuance returns**: the reusable record, or a new one. -/
theorem issueCredential_value (hI : Indexed m) (config : CredentialConfig)
    (options : IssueOptions) :
    (m.issueCredential cfg hash config options).value =
      .ok ((m.reusable cfg hash config).getD
        (newRecord cfg (hash (buildScopeSet config) config.chatIds) config options)) := by
  cases hevicted : m.evicted cfg config.operatorId with
  | none =>
    rw [issueCredential_of_none hevicted]
    apply reuseOrStore_value
    simp only [reusable, hevicted, Option.all_none, Bool.true_and]
  | some oldest =>
    obtain ⟨hget, -⟩ := evicted_spec hI hevicted
    rw [(issueCredential_of_evicted hevicted hget options).2]
    -- the evicted record is not reused, even if its hash is the one looked for
    apply reuseOrStore_value
    rw [getActiveForOperator_revoked hI hget, List.find?_filter]
    simp only [reusable, hevicted, Option.all_some]
    congr 1
    funext existing
    by_cases hid : oldest.credentialId = existing.credentialId <;> simp [hid]

/-- The reusable record is stored, active and has the policy hash of the request. -/
theorem reusable_spec (hI : Indexed m) {config : CredentialConfig}
    {existing : InternalCredentialRecord} (h : m.reusable cfg hash config = some existing) :
    m.byId.get? existing.credentialId = some existing ∧ existing.status = .active ∧
      existing.policyHash = hash (buildScopeSet config) config.chatIds := by
  have hmem := List.mem_of_find?_eq_some h
  have hfound := List.find?_some h
  obtain ⟨hget, hactive⟩ := (getActiveForOperator_spec hI config.operatorId).2 existing hmem
  exact ⟨hget, hactive, of_decide_eq_true (Bool.and_eq_true_iff.1 hfound).2⟩

end Issue

/-! ### The expiry of a stored record -/

/-- The operation reads the clock at `latest` or before, if it reads it. -/
def readsUpTo (latest : Time) (_ : CredentialStore) (op : ManagerOp) : Bool :=
  op.clock?.all fun now => decide (now ≤ latest)

/-- **Records expire within their own lifetime** after the latest reading of the clock. -/
structure LifetimeInv (latest : Time) (m : CredentialStore) : Prop where
  indexed : Indexed m
  granted : ∀ {id r}, m.byId.get? id = some r → r.expiresAt ≤ latest + r.ttlMs

section Lifetime

variable {cfg : CredentialManagerConfig} {hash : ScopeSet → List String → String}
  {m : CredentialStore} {latest : Time}

theorem LifetimeInv.initial : LifetimeInv latest .new where
  indexed := .initial
  granted h := by cases h

/-- A rewrite other than a renewal leaves the expiry and the lifetime alone. -/
theorem LifetimeInv.rewritten (hL : LifetimeInv latest m) {id : String} {kind : RewriteKind}
    {existing : InternalCredentialRecord} (hget : m.byId.get? id = some existing)
    (hrenew : ∀ expiresAt, kind = .renew expiresAt → expiresAt ≤ latest + existing.ttlMs) :
    LifetimeInv latest (m.rewritten id kind existing) where
  indexed := hL.indexed.rewritten kind hget
  granted := by
    intro id' r hr
    rw [rewritten_byId] at hr
    rcases OrdMap.get?_set_eq_some hr with ⟨rfl, rfl⟩ | ⟨-, hr⟩
    · have hold := hL.granted hget
      cases kind with
      -- only a renewal writes an expiry, and it has read the clock
      | renew expiresAt => exact hrenew expiresAt rfl
      | expire clearReveals => exact hold
      | revoke reason now => exact hold
      | setStatus status => exact hold
      | heartbeat now => exact hold
      | rescope scopes policyHash => exact hold
    · exact hL.granted hr

/-- **Every operation keeps the expiries within the lifetimes.** -/
theorem LifetimeInv.perform (hL : LifetimeInv latest m) (op : ManagerOp)
    (hclock : readsUpTo latest m op = true) :
    LifetimeInv latest (op.perform cfg hash m).store := by
  have hwrites := @ManagerOp.writes cfg hash m hL.indexed op
  refine hwrites.preserves (I := fun m' => LifetimeInv latest m') ?_ hL
  intro m₁ w m₂ effects hL₁ hw hs
  -- the two writers of an expiry have read the clock
  have hnow : ∀ {now}, op.clock? = some now → now ≤ latest := by
    intro now hread
    rw [readsUpTo, hread, Option.all_some] at hclock
    exact of_decide_eq_true hclock
  cases writeMachine_sound hs with
  | stored record =>
    refine ⟨hL₁.indexed.upsertRecord record, ?_⟩
    intro id r hr
    rw [get?_upsertRecord] at hr
    split at hr
    · cases hr
      cases hw with
      | store hkeys => exact Nat.add_le_add_right (hnow rfl) _
    · exact hL₁.granted hr
  | @rewritten id kind existing hget =>
    refine hL₁.rewritten hget ?_
    rintro expiresAt rfl
    cases hw with
    | renew hget' hactive hwindow =>
      rw [hget] at hget'
      cases hget'
      exact Nat.add_le_add_right (hnow rfl) _
  | opened _ _ => exact ⟨⟨hL₁.indexed.keyed, hL₁.indexed.nodup⟩, hL₁.granted⟩
  | revealed _ _ => exact ⟨⟨hL₁.indexed.keyed, hL₁.indexed.nodup⟩, hL₁.granted⟩

/-- **The lifetime of what is issued.** After every run of credential operations whose
readings of the clock are at most `latest`, and for every request with a positive
lifetime: the credential returned is active. If no active credential has the policy of the
request, it is a new one, not expired, that expires exactly the requested lifetime after
the call. Otherwise it is that credential, as it is stored, which expires no later than
its own lifetime after `latest`. -/
theorem issued_lifetime {tr : List ServiceEvent} {s : ServiceState}
    (h : Run (credentialMachine cfg hash)
      (fun s a => guardedOps cfg hash (readsUpTo latest) s a = true) tr s)
    {config : CredentialConfig} {ttl : Nat} (httl : config.ttlSeconds = some ttl) (hpos : 0 < ttl)
    (options : IssueOptions) {record : InternalCredentialRecord}
    (hissue : (s.store.issueCredential cfg hash config options).value = .ok record) :
    record.status = .active ∧
      (s.store.reusable cfg hash config = none →
        options.now < record.expiresAt ∧ record.expiresAt = options.now + ttl * 1000) ∧
      ∀ existing, s.store.reusable cfg hash config = some existing →
        record = existing ∧ s.store.byId.get? existing.credentialId = some existing ∧
          existing.policyHash = hash (buildScopeSet config) config.chatIds ∧
          existing.expiresAt ≤ latest + existing.ttlMs := by
  have hL : LifetimeInv latest s.store :=
    credentialRun_preserves (I := LifetimeInv latest) (fun m op hL hclock => hL.perform op hclock)
      .initial h.runFrom
  rw [issueCredential_value hL.indexed] at hissue
  cases hreusable : s.store.reusable cfg hash config with
  | none =>
    rw [hreusable] at hissue
    cases hissue
    have hexpires : (newRecord cfg (hash (buildScopeSet config) config.chatIds) config
        options).expiresAt = options.now + ttl * 1000 := by
      rw [newRecord, httl, Option.getD_some]
    refine ⟨rfl, fun _ => ⟨?_, hexpires⟩, nofun⟩
    rw [Option.getD_none, hexpires]
    exact Nat.lt_add_of_pos_right (Nat.mul_pos hpos (by decide))
  | some existing =>
    rw [hreusable] at hissue
    cases hissue
    obtain ⟨hget, hactive, hhash⟩ := reusable_spec hL.indexed hreusable
    refine ⟨hactive, nofun, ?_⟩
    rintro _ ⟨⟩
    exact ⟨rfl, hget, hhash, hL.granted hget⟩

end Lifetime

/-! ### Runs on fixed inputs -/

/-- A request for a credential that may send, with the given lifetime. -/
def sendFor (operatorId : String) (ttlSeconds : Nat) : CredentialConfig :=
  ⟨operatorId, ["conv_0123456789abcdef"], none, some [.send], none, some ttlSeconds⟩

/-- The first issuance: an hour, at time zero. -/
def issueHour : CredentialAction :=
  .manager (.issueCredential (sendFor "op_0123456789abcdef" 3600)
    ⟨"cred_0123456789abcdef", "owner", "token", 0⟩)

/-- What the second issuance draws, a second later. -/
def secondIssue : IssueOptions :=
  ⟨"cred_fedcba9876543210", "owner", "another token", 1000⟩

/-- The expiry of the credential that the second issuance returns. -/
def expiryOf (m : CredentialStore) (config : CredentialConfig) : Option Time :=
  match (m.issueCredential {} (fun _ _ => "") config secondIssue).value with
  | .ok record => some record.expiresAt
  | .error _ => none

theorem expiryOf_eq_some {m : CredentialStore} {config : CredentialConfig} {expiresAt : Time}
    (h : expiryOf m config = some expiresAt) :
    ∃ record, (m.issueCredential {} (fun _ _ => "") config secondIssue).value = .ok record ∧
      record.expiresAt = expiresAt := by
  rw [expiryOf] at h
  split at h
  · next record hissue => exact ⟨record, hissue, Option.some.inj h⟩
  · cases h

/-- Another operator asks for a minute, and a minute is given. -/
theorem issued_lifetime_minute :
    ∃ (s : ServiceState) (record : InternalCredentialRecord),
      (s.store.issueCredential {} (fun _ _ => "") (sendFor "op_fedcba9876543210" 60)
        secondIssue).value = .ok record ∧
      record.status = .active ∧ record.expiresAt = 1000 + 60 * 1000 := by
  obtain ⟨tr, s, hrun, htest⟩ := exists_run_of_exec (credentialMachine {} fun _ _ => "")
    (guardedOps {} (fun _ _ => "") (readsUpTo 1000)) [issueHour]
    (fun _ s => (expiryOf s.store (sendFor "op_fedcba9876543210" 60)).isSome &&
      (s.store.reusable {} (fun _ _ => "") (sendFor "op_fedcba9876543210" 60)).isNone)
    (by decide)
  obtain ⟨hsome, hnone⟩ := Bool.and_eq_true_iff.1 htest
  obtain ⟨expiresAt, hexpiry⟩ := Option.isSome_iff_exists.1 hsome
  obtain ⟨record, hissue, -⟩ := expiryOf_eq_some hexpiry
  obtain ⟨hactive, hnew, -⟩ := issued_lifetime hrun rfl (by decide) secondIssue hissue
  exact ⟨s, record, hissue, hactive, (hnew (Option.isNone_iff_eq_none.1 hnone)).2⟩

/-- **The lifetime that is asked for is not what a reused credential has.** An hour was
given at time zero; a second later a minute is asked for, and the hour is returned. -/
theorem reused_credential_outlives :
    ¬ ∀ (tr : List ServiceEvent) (s : ServiceState),
      Run (credentialMachine {} fun _ _ => "") (fun _ _ => True) tr s →
      ∀ (config : CredentialConfig) (ttl : Nat), config.ttlSeconds = some ttl → 0 < ttl →
      ∀ (options : IssueOptions) (record : InternalCredentialRecord),
        (s.store.issueCredential {} (fun _ _ => "") config options).value = .ok record →
        options.now < record.expiresAt ∧ record.expiresAt ≤ options.now + ttl * 1000 := by
  intro h
  obtain ⟨tr, s, hrun, htest⟩ := exists_run_of_exec_of_forall
    (credentialMachine {} fun _ _ => "") (fun _ _ => True) [issueHour]
    (fun _ s => expiryOf s.store (sendFor "op_0123456789abcdef" 60) = some 3600000)
    (fun _ _ _ => trivial) (by decide)
  obtain ⟨record, hissue, hexpires⟩ := expiryOf_eq_some (of_decide_eq_true htest)
  have hbound := (h tr s hrun _ 60 rfl (by decide) secondIssue record hissue).2
  rw [hexpires] at hbound
  exact absurd hbound (by decide)

end Signet
