import Signet.Sessions.RevocationFinal

/-!
# An expired credential stays dead

Once the clock has reached the expiry of a credential, its expiry, its scopes and its
last heartbeat do not change any more (`expired_stays_dead`), in every run on a clock
that does not go back, whether or not the expiry has been noticed yet. The condition
is that no renewal, heartbeat or scope update comes for a record that is due but still
marked as active: these three look at the status alone, and only the lookup by token
and the sweep compare the expiry with the clock. Where the condition fails, a renewal
brings the credential back (`expired_credential_renewed`).
-/

namespace Signet

open Lib

/-- The clock reading of an operation, if it takes one. -/
def ManagerOp.clock? : ManagerOp → Option Time
  | .issueCredential _ options => some options.now
  | .getCredentialByToken _ now => some now
  | .recordHeartbeat _ now => some now
  | .renewCredential _ now => some now
  | .revokeCredential _ _ now => some now
  | .revokeAllCredentials _ _ now => some now
  | .sweepExpired now => some now
  | .getCredentialById _ => none
  | .listCredentials _ => none
  | .updateCredentialScopes _ _ => none
  | .setCredentialStatus _ _ => none
  | .getRevealState _ => none

/-- The record is marked as active and its expiry has come. -/
def activeAndDue (m : CredentialStore) (credentialId : String) (now : Time) : Bool :=
  (m.byId.get? credentialId).any fun r => r.status = .active && decide (r.expiresAt ≤ now)

/-- **The condition**: the operation does not change a record that is due but not marked
as expired yet. -/
def sparesDue (now : Time) (m : CredentialStore) : ManagerOp → Bool
  | .recordHeartbeat credentialId _ => !activeAndDue m credentialId now
  | .renewCredential credentialId _ => !activeAndDue m credentialId now
  | .updateCredentialScopes credentialId _ => !activeAndDue m credentialId now
  | _ => true

/-- Fresh ids, and one clock reading for all operations of an action. -/
def readsClock (now : Time) (m : CredentialStore) (op : ManagerOp) : Bool :=
  drawsFreshId m op && op.clock?.all (· = now)

/-- The store and the calls, with the time of the last action. -/
structure ClockedState where
  service : ServiceState
  clock : Time

section Machine

variable (cfg : CredentialManagerConfig) (hash : ScopeSet → List String → String)

/-- An action at a time that is not before the last one. -/
def clockedCredentialStep (s : ClockedState) (a : Time × CredentialAction) :
    Option (ClockedState × List ServiceEvent) :=
  if a.1 < s.clock then none
  else (credentialStep cfg hash s.service a.2).map fun r => (⟨r.1, a.1⟩, r.2)

/-- **Credential operations on a clock that does not go back.** -/
def clockedCredentialMachine : Machine ClockedState (Time × CredentialAction) ServiceEvent where
  init := ⟨⟨.new, .empty⟩, 0⟩
  step := clockedCredentialStep cfg hash

/-- Every manager operation of the action satisfies the guard at the time of the action. -/
def clockedGuard (ok : Time → CredentialStore → ManagerOp → Bool) (s : ClockedState)
    (a : Time × CredentialAction) : Bool :=
  guardedOps cfg hash (ok a.1) s.service a.2

end Machine

/-- The base guard and the condition. -/
def expiryGuard (now : Time) (m : CredentialStore) (op : ManagerOp) : Bool :=
  readsClock now m op && sparesDue now m op

/-! ### One write -/

/-- The rewrites that make use of a credential. -/
def RewriteKind.prolongs : RewriteKind → Bool
  | .heartbeat _ => true
  | .renew _ => true
  | .rescope _ _ => true
  | _ => false

/-- The writes the condition admits: none that makes use of a record that is due. -/
def KeepsDue (now : Time) (m : CredentialStore) : RecordWrite → Prop
  | .store record => m.byId.get? record.credentialId = none
  | .rewrite id kind =>
    kind.prolongs = true → ∀ r, m.byId.get? id = some r → now < r.expiresAt
  | _ => True

theorem KeepsDue.storesFresh {now : Time} {m : CredentialStore} {w : RecordWrite}
    (h : KeepsDue now m w) : StoresFresh m w := by
  cases w with
  | store record => exact h
  | rewrite id kind => trivial
  | openReveals id => trivial
  | recordReveal id access request => trivial

/-- `r'` grants what `r` grants, for as long. -/
structure SameTerms (r r' : InternalCredentialRecord) : Prop where
  expiresAt_eq : r'.expiresAt = r.expiresAt
  effectiveScopes_eq : r'.effectiveScopes = r.effectiveScopes
  resolvedScopes_eq : r'.resolvedScopes = r.resolvedScopes
  lastHeartbeat_eq : r'.lastHeartbeat = r.lastHeartbeat

theorem SameTerms.refl (r : InternalCredentialRecord) : SameTerms r r :=
  ⟨rfl, rfl, rfl, rfl⟩

theorem SameTerms.trans {r₁ r₂ r₃ : InternalCredentialRecord} (h : SameTerms r₁ r₂)
    (h' : SameTerms r₂ r₃) : SameTerms r₁ r₃ where
  expiresAt_eq := h'.expiresAt_eq.trans h.expiresAt_eq
  effectiveScopes_eq := h'.effectiveScopes_eq.trans h.effectiveScopes_eq
  resolvedScopes_eq := h'.resolvedScopes_eq.trans h.resolvedScopes_eq
  lastHeartbeat_eq := h'.lastHeartbeat_eq.trans h.lastHeartbeat_eq

/-- The other rewrites change the status and the revocation only. -/
theorem sameTerms_updatedWith {kind : RewriteKind} (h : kind.prolongs = false)
    (r : InternalCredentialRecord) : SameTerms r (r.updatedWith kind.updates) := by
  cases kind with
  | expire clear => exact ⟨rfl, rfl, rfl, rfl⟩
  | revoke reason now => exact ⟨rfl, rfl, rfl, rfl⟩
  | setStatus status => exact ⟨rfl, rfl, rfl, rfl⟩
  | heartbeat now => cases h
  | renew expiresAt => cases h
  | rescope scopes policyHash => cases h

/-- **A record that is due keeps its terms.** -/
theorem sameTerms_of_written {now : Time} {m m' : CredentialStore} {w : RecordWrite}
    {effects : List CredentialEffect} (hw : KeepsDue now m w) (h : Written m w m' effects)
    {id : String} {r : InternalCredentialRecord} (hget : m.byId.get? id = some r)
    (hdue : r.expiresAt ≤ now) : ∃ r', m'.byId.get? id = some r' ∧ SameTerms r r' := by
  cases h with
  | stored record =>
    have hne : id ≠ record.credentialId := by
      rintro rfl
      have hnone : m.byId.get? record.credentialId = none := hw
      rw [hget] at hnone
      cases hnone
    refine ⟨r, ?_, .refl r⟩
    rw [CredentialStore.get?_upsertRecord, if_neg hne]
    exact hget
  | @rewritten id' kind existing hexisting =>
    rw [CredentialStore.rewritten_byId]
    by_cases hid : id = id'
    · subst hid
      rw [hget] at hexisting
      cases hexisting
      have hkind : kind.prolongs = false := by
        by_contra hprolongs
        have halive := hw (Bool.not_eq_false _ ▸ hprolongs) r hget
        exact absurd hdue (Nat.not_le_of_lt halive)
      exact ⟨_, OrdMap.get?_set_self _ _ _, sameTerms_updatedWith hkind r⟩
    · exact ⟨r, by rw [OrdMap.get?_set_of_ne _ _ hid]; exact hget, .refl r⟩
  | opened _ _ => exact ⟨r, hget, .refl r⟩
  | revealed _ _ => exact ⟨r, hget, .refl r⟩

section Guard

variable {cfg : CredentialManagerConfig} {hash : ScopeSet → List String → String}

/-- An operation under the condition makes no use of a record that is due. -/
theorem keepsDue_of_expiryGuard {now : Time} {m₀ m : CredentialStore} {op : ManagerOp}
    {w : RecordWrite} (hguard : expiryGuard now m₀ op = true) (h : OpWrite cfg hash m₀ op m w) :
    KeepsDue now m w := by
  rw [expiryGuard, readsClock, Bool.and_eq_true, Bool.and_eq_true] at hguard
  obtain ⟨⟨hfresh, -⟩, hspares⟩ := hguard
  -- the three operations of the condition: the record is active, so it is not due
  have halive : ∀ {id : String} {r : InternalCredentialRecord}, m₀.byId.get? id = some r →
      r.status = .active → (!activeAndDue m₀ id now) = true →
        ∀ r', m₀.byId.get? id = some r' → now < r'.expiresAt := by
    intro id r hget hactive hnot r' hget'
    rw [hget] at hget'
    cases hget'
    by_contra hdue
    rw [activeAndDue, hget, Option.any_some, decide_eq_true hactive,
      decide_eq_true (Nat.le_of_not_lt hdue)] at hnot
    cases hnot
  cases h with
  | evict hget hact => rintro ⟨⟩
  | store hkeys =>
    refine (hkeys _).2 ?_
    rw [drawsFreshId, Bool.not_eq_true', OrdMap.has, Option.isSome_eq_false_iff,
      Option.isNone_iff_eq_none] at hfresh
    exact hfresh
  | expireByToken htoken hget hdue => rintro ⟨⟩
  | heartbeat hget hact => exact fun _ => halive hget hact hspares
  | renew hget hact hwindow => exact fun _ => halive hget hact hspares
  | rescope hget hact => exact fun _ => halive hget hact hspares
  | revoke hget => rintro ⟨⟩
  | revokeAll hget hact => rintro ⟨⟩
  | setStatus hget => rintro ⟨⟩
  | openReveals hget => trivial
  | sweepExpire hget hact hdue => rintro ⟨⟩
  | sweepRevoke hget hact hstale => rintro ⟨⟩

/-! ### Runs -/

private theorem clocked_writes {s s' : ClockedState} {a : Time × CredentialAction}
    {es : List ServiceEvent} (hI : StoreInv s.service.store)
    (hguard : clockedGuard cfg hash expiryGuard s a = true)
    (h : clockedCredentialStep cfg hash s a = some (s', es)) :
    s.clock ≤ a.1 ∧ s'.clock = a.1 ∧
      RunFrom writeMachine (KeepsDue a.1) s.service.store (recordEffects es) s'.service.store := by
  rw [clockedCredentialStep] at h
  split at h
  · cases h
  · next hclock =>
    rw [Option.map_eq_some_iff] at h
    obtain ⟨⟨s₁, es₁⟩, hstep, heq⟩ := h
    obtain ⟨rfl, rfl⟩ := Prod.mk.inj heq
    refine ⟨Nat.le_of_not_lt hclock, rfl, ?_⟩
    have hwrites := performAll_writes (fun _ _ => KeepsDue.storesFresh)
      (fun m op _ hok m' w hw => keepsDue_of_expiryGuard hok hw) _ hI hguard
    rw [credentialStep_managerOps hstep] at hwrites
    exact hwrites

private theorem clocked_storeInv {s s' : ClockedState} {tr : List ServiceEvent}
    (hI : StoreInv s.service.store)
    (h : RunFrom (clockedCredentialMachine cfg hash)
      (fun s a => clockedGuard cfg hash expiryGuard s a = true) s tr s') :
    StoreInv s'.service.store := by
  refine h.preserves (I := fun s => StoreInv s.service.store) ?_ hI
  intro s a s' es hI hguard hs
  obtain ⟨-, -, hwrites⟩ := clocked_writes hI hguard hs
  exact StoreInv.of_runFrom (fun _ _ => KeepsDue.storesFresh) hI hwrites

/-- **Expired credentials stay dead.** In every run of credential operations under the
condition: once the clock reads a time at or after the expiry of a credential, every
later state has the credential with the same expiry, the same scopes and the same last
heartbeat. -/
theorem expired_stays_dead {tr : List ServiceEvent} {s : ClockedState}
    (h : Run (clockedCredentialMachine cfg hash)
      (fun s a => clockedGuard cfg hash expiryGuard s a = true) tr s)
    {id : String} {r : InternalCredentialRecord} (hget : s.service.store.byId.get? id = some r)
    {now : Time} (hdue : r.expiresAt ≤ now) {tr' : List ServiceEvent} {s' : ClockedState}
    (h' : RunFrom (clockedCredentialMachine cfg hash)
      (fun s a => clockedGuard cfg hash expiryGuard s a = true) ⟨s.service, now⟩ tr' s') :
    ∃ r', s'.service.store.byId.get? id = some r' ∧ r'.expiresAt = r.expiresAt ∧
      r'.effectiveScopes = r.effectiveScopes ∧ r'.resolvedScopes = r.resolvedScopes ∧
      r'.lastHeartbeat = r.lastHeartbeat := by
  have hI : StoreInv s.service.store :=
      clocked_storeInv (s := ⟨⟨.new, .empty⟩, 0⟩) .initial h.runFrom
  -- the record is due at every later reading of the clock
  have hlater : StoreInv s'.service.store ∧ now ≤ s'.clock ∧
      ∃ r', s'.service.store.byId.get? id = some r' ∧ SameTerms r r' := by
    refine h'.preserves (I := fun s => StoreInv s.service.store ∧ now ≤ s.clock ∧
      ∃ r', s.service.store.byId.get? id = some r' ∧ SameTerms r r') ?_
      ⟨hI, Nat.le_refl _, r, hget, .refl r⟩
    intro s₁ a s₂ es ⟨hI₁, hclock₁, r₁, hget₁, hsame₁⟩ hguard hs
    obtain ⟨hle, hset, hwrites⟩ := clocked_writes hI₁ hguard hs
    refine ⟨StoreInv.of_runFrom (fun _ _ => KeepsDue.storesFresh) hI₁ hwrites, ?_, ?_⟩
    · rw [hset]
      exact Nat.le_trans hclock₁ hle
    · have hdue₁ : r.expiresAt ≤ a.1 := Nat.le_trans hdue (Nat.le_trans hclock₁ hle)
      refine hwrites.preserves
        (I := fun m => ∃ r', m.byId.get? id = some r' ∧ SameTerms r r') ?_ ⟨r₁, hget₁, hsame₁⟩
      intro m w m' effects ⟨r₂, hget₂, hsame₂⟩ hw hs
      obtain ⟨r₃, hget₃, hsame₃⟩ := sameTerms_of_written hw (writeMachine_sound hs) hget₂
        (by rw [hsame₂.expiresAt_eq]; exact hdue₁)
      exact ⟨r₃, hget₃, hsame₂.trans hsame₃⟩
  obtain ⟨-, -, r', hget', hsame⟩ := hlater
  exact ⟨r', hget', hsame.expiresAt_eq, hsame.effectiveScopes_eq, hsame.resolvedScopes_eq,
    hsame.lastHeartbeat_eq⟩

end Guard

/-! ### Runs on fixed inputs -/

private def hourCredential : CredentialAction :=
  .manager (.issueCredential
    ⟨"op_0123456789abcdef", ["conv_0123456789abcdef"], none, some [.send], none, none⟩
    ⟨"cred_0123456789abcdef", "owner", "token", 0⟩)

/-- A credential issued for an hour keeps its expiry from then on. -/
theorem expired_stays_dead_hour :
    ∃ (s : ClockedState) (r : InternalCredentialRecord),
      s.service.store.byId.get? "cred_0123456789abcdef" = some r ∧ r.expiresAt = 3600000 ∧
      ∀ tr' s', RunFrom (clockedCredentialMachine {} fun _ _ => "")
          (fun s a => clockedGuard {} (fun _ _ => "") expiryGuard s a = true)
          ⟨s.service, 3600000⟩ tr' s' →
        ∃ r', s'.service.store.byId.get? "cred_0123456789abcdef" = some r' ∧
          r'.expiresAt = r.expiresAt ∧ r'.effectiveScopes = r.effectiveScopes ∧
          r'.resolvedScopes = r.resolvedScopes ∧ r'.lastHeartbeat = r.lastHeartbeat := by
  obtain ⟨tr, s, hrun, htest⟩ := exists_run_of_exec (clockedCredentialMachine {} fun _ _ => "")
    (clockedGuard {} (fun _ _ => "") expiryGuard) [(0, hourCredential)]
    (fun _ s => (s.service.store.byId.get? "cred_0123456789abcdef").any (·.expiresAt = 3600000))
    (by decide)
  obtain ⟨r, hget, hexpires⟩ := (Option.any_eq_true _ _).1 htest
  have hdue : r.expiresAt = 3600000 := of_decide_eq_true hexpires
  exact ⟨s, r, hget, hdue, fun tr' s' h' => expired_stays_dead hrun hget hdue.le h'⟩

/-- **The condition is needed.** Nobody has looked at a credential since it expired, and
a renewal moves its expiry into the future. -/
theorem expired_credential_renewed :
    ∃ tr s, Run (clockedCredentialMachine {} fun _ _ => "")
        (fun s a => clockedGuard {} (fun _ _ => "") readsClock s a = true) tr s ∧
      ((s.service.store.byId.get? "cred_0123456789abcdef").any fun r =>
        r.status = .active && decide (r.expiresAt = 7600000)) = true :=
  exists_run_of_exec (clockedCredentialMachine {} fun _ _ => "")
    (clockedGuard {} (fun _ _ => "") readsClock)
    [(0, hourCredential), (4000000, .service (.renew "cred_0123456789abcdef" 4000000))]
    (fun _ s => (s.service.store.byId.get? "cred_0123456789abcdef").any fun r =>
      r.status = .active && decide (r.expiresAt = 7600000))
    (by decide)

end Signet
