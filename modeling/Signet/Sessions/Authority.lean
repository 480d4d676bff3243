import Signet.Sessions.ServiceMachine

/-!
# Authority only narrows

In every run of credential operations a record stays within what it was issued
with (`Within`): its operator and chats never change, its resolved scopes are a
subset of the issued ones and always those of its effective scopes
(`authority_only_narrows`). An update entry point that is asked for scopes which
would allow something new leaves the scopes of the record as they are.

The invariant `AuthorityInv` ties every record to the event of its issuance. It
rests on two facts: `Keeps` steps do not touch what `Within` speaks of, and an
update is applied only when the materiality check against the *stored* scopes
found nothing newly allowed. That the WebSocket request fills omitted lists from
a possibly outdated snapshot does not matter for this reason. Fresh ids are
needed, since storing a record under an id in use would replace one.
-/

namespace Signet

open Lib Service

/-- `r` is within the authority of the record it was issued as. -/
structure Within (issued r : InternalCredentialRecord) : Prop where
  operatorId_eq : r.operatorId = issued.operatorId
  chatIds_eq : r.chatIds = issued.chatIds
  resolved_subset : r.resolvedScopes ⊆ issued.resolvedScopes
  resolved_eq : r.resolvedScopes = resolveScopeSet r.effectiveScopes

namespace Within

theorem self {r : InternalCredentialRecord}
    (h : r.resolvedScopes = resolveScopeSet r.effectiveScopes) : Within r r :=
  ⟨rfl, rfl, List.Subset.refl _, h⟩

theorem same {issued r r' : InternalCredentialRecord} (h : Within issued r)
    (hsame : SameAuthority r r') : Within issued r' where
  operatorId_eq := hsame.operatorId_eq.trans h.operatorId_eq
  chatIds_eq := hsame.chatIds_eq.trans h.chatIds_eq
  resolved_subset := by rw [hsame.resolvedScopes_eq]; exact h.resolved_subset
  resolved_eq := by rw [hsame.resolvedScopes_eq, hsame.effectiveScopes_eq]; exact h.resolved_eq

end Within

/-- **Records and their issuance.** -/
structure AuthorityInv (tr : List ServiceEvent) (s : ServiceState) : Prop where
  /-- An issued record is still there and within its authority. -/
  issued_within : ∀ {issued}, issued ∈ createdRecords tr →
    ∃ r, s.store.byId.get? issued.credentialId = some r ∧ Within issued r
  /-- Every record was issued. -/
  origin : ∀ {id r}, s.store.byId.get? id = some r →
    ∃ issued ∈ createdRecords tr, issued.credentialId = id

theorem AuthorityInv.initial : AuthorityInv [] ⟨.new, .empty⟩ where
  issued_within h := by simp [createdRecords] at h
  origin h := by simp [CredentialStore.new] at h

/-- The record under an id is within the authority of its issuance. -/
theorem AuthorityInv.within {tr : List ServiceEvent} {s : ServiceState}
    (hI : AuthorityInv tr s) {id : String} {r : InternalCredentialRecord}
    (hr : s.store.byId.get? id = some r) :
    ∃ issued ∈ createdRecords tr, issued.credentialId = id ∧ Within issued r := by
  obtain ⟨issued, hmem, rfl⟩ := hI.origin hr
  obtain ⟨r', hr', hw⟩ := hI.issued_within hmem
  rw [hr] at hr'
  cases hr'
  exact ⟨issued, hmem, rfl, hw⟩

private theorem AuthorityInv.of_keeps {tr es : List ServiceEvent} {s s' : ServiceState}
    (hI : AuthorityInv tr s) (hkeep : Keeps s.store s'.store) (hnone : createdRecords es = []) :
    AuthorityInv (tr ++ es) s' where
  issued_within hmem := by
    rw [createdRecords_append, hnone, List.append_nil] at hmem
    obtain ⟨r, hr, hw⟩ := hI.issued_within hmem
    obtain ⟨r', hr', hsame⟩ := hkeep.forward hr
    exact ⟨r', hr', hw.same hsame⟩
  origin hr' := by
    rw [createdRecords_append, hnone, List.append_nil]
    obtain ⟨r, hr⟩ := hkeep.backward hr'
    exact hI.origin hr

/-- **Every step keeps the invariant** when ids are fresh. -/
theorem AuthorityInv.step {tr es : List ServiceEvent} {s s' : ServiceState} {a : ServiceAction}
    (hI : AuthorityInv tr s) (hfresh : freshCredentialId s a = true)
    (hstep : ServiceStep s a s' es) : AuthorityInv (tr ++ es) s' := by
  cases hstep with
  | framed hkeep hnone => exact hI.of_keeps hkeep hnone
  | @issued m record hkeep hstore hcreated hdrawn hactive hresolved hrequest =>
    have hunused : s.store.byId.get? record.credentialId = none := by
      simpa [freshCredentialId, hdrawn, OrdMap.has] using hfresh
    refine ⟨?_, ?_⟩
    · intro issued hmem
      rw [createdRecords_append, hcreated] at hmem
      rw [hstore, CredentialStore.get?_upsertRecord]
      rcases List.mem_append.1 hmem with hold | hnew
      · -- an older record sits under another id
        obtain ⟨r, hr, hw⟩ := hI.issued_within hold
        have hne : issued.credentialId ≠ record.credentialId := by
          intro heq
          rw [heq, hunused] at hr
          cases hr
        obtain ⟨r', hr', hsame⟩ := hkeep.forward hr
        exact ⟨r', by rw [if_neg hne]; exact hr', hw.same hsame⟩
      · obtain rfl := List.mem_singleton.1 hnew
        exact ⟨issued, if_pos rfl, .self hresolved⟩
    · intro id r hr
      rw [createdRecords_append, hcreated]
      rw [hstore, CredentialStore.get?_upsertRecord] at hr
      split at hr
      · next hid =>
        exact ⟨record, List.mem_append_right _ (List.mem_singleton_self _), hid.symm⟩
      · obtain ⟨r₀, hr₀⟩ := hkeep.backward hr
        obtain ⟨issued, hmem, hid⟩ := hI.origin hr₀
        exact ⟨issued, List.mem_append_left _ hmem, hid⟩
  | @narrowed id next hrequest hnarrow hnone =>
    cases hnarrow with
    | kept hkeep => exact hI.of_keeps hkeep hnone
    | @applied r r' hr hactive hsub hset hsame hscopes =>
      refine ⟨?_, ?_⟩
      · intro issued hmem
        rw [createdRecords_append, hnone, List.append_nil] at hmem
        obtain ⟨r₀, hr₀, hw⟩ := hI.issued_within hmem
        by_cases hid : issued.credentialId = id
        · -- the rewritten record: narrower than the stored one, hence than the issued one
          rw [hid, hr] at hr₀
          cases hr₀
          refine ⟨r', by rw [hset, hid]; exact OrdMap.get?_set_self _ _ _, ?_, ?_, ?_, ?_⟩
          · exact hsame.2.1.trans hw.operatorId_eq
          · exact hsame.2.2.1.trans hw.chatIds_eq
          · rw [hscopes.2]
            exact List.Subset.trans hsub (hw.resolved_eq ▸ hw.resolved_subset)
          · rw [hscopes.1, hscopes.2]
        · exact ⟨r₀, by rw [hset, OrdMap.get?_set_of_ne _ _ hid]; exact hr₀, hw⟩
      · intro id' r₀ hr₀
        rw [createdRecords_append, hnone, List.append_nil]
        rw [hset] at hr₀
        rcases OrdMap.get?_set_eq_some hr₀ with ⟨rfl, -⟩ | ⟨-, hr₀⟩
        · exact hI.origin hr
        · exact hI.origin hr₀

/-- **An escalation leaves the scopes alone.** A step that is asked to put scopes
into force which would newly allow something does not change the scopes. -/
theorem scopes_unchanged_of_escalation {s s' : ServiceState} {a : ServiceAction}
    {es : List ServiceEvent} (hstep : ServiceStep s a s' es) {id : String} {next : ScopeSet}
    (hrequest : requestedScopes s a = some (id, next)) {r : InternalCredentialRecord}
    (hr : s.store.byId.get? id = some r)
    (hresolved : r.resolvedScopes = resolveScopeSet r.effectiveScopes)
    (hnew : ∃ scope ∈ resolveScopeSet next, scope ∉ r.resolvedScopes) :
    ∃ r', s'.store.byId.get? id = some r' ∧ r'.effectiveScopes = r.effectiveScopes ∧
      r'.resolvedScopes = r.resolvedScopes := by
  have hkept : ∀ {m'}, Keeps s.store m' → ∃ r', m'.byId.get? id = some r' ∧
      r'.effectiveScopes = r.effectiveScopes ∧ r'.resolvedScopes = r.resolvedScopes := by
    intro m' hkeep
    obtain ⟨r', hr', hsame⟩ := hkeep.forward hr
    exact ⟨r', hr', hsame.effectiveScopes_eq, hsame.resolvedScopes_eq⟩
  cases hstep with
  | framed hkeep _ => exact hkept hkeep
  | issued _ _ _ _ _ _ hnone =>
    rw [hrequest] at hnone
    cases hnone
  | narrowed hrequest' hnarrow _ =>
    rw [hrequest] at hrequest'
    cases hrequest'
    cases hnarrow with
    | kept hkeep => exact hkept hkeep
    | applied hr₀ _ hsub _ _ _ =>
      rw [hr] at hr₀
      cases hr₀
      obtain ⟨scope, hin, hout⟩ := hnew
      rw [hresolved] at hout
      exact absurd (hsub hin) hout

/-- **Authority only narrows.** In every run of the credential operations with
fresh credential ids: every record is within the authority it was issued with,
every issued record stays, and a step that is asked for scopes which would newly
allow something leaves the scopes of the record unchanged. -/
theorem authority_only_narrows {cfg : CredentialManagerConfig}
    {hash : ScopeSet → List String → String} {tr : List ServiceEvent} {s : ServiceState}
    (h : Run (serviceMachine cfg hash) (fun s a => freshCredentialId s a = true) tr s) :
    (∀ id r, s.store.byId.get? id = some r →
      ∃ issued ∈ createdRecords tr, issued.credentialId = id ∧ Within issued r) ∧
    (∀ issued ∈ createdRecords tr,
      ∃ r, s.store.byId.get? issued.credentialId = some r ∧ Within issued r) ∧
    (∀ a s' es id next r, serviceStep cfg hash s a = some (s', es) →
      requestedScopes s a = some (id, next) → s.store.byId.get? id = some r →
      (∃ scope ∈ resolveScopeSet next, scope ∉ r.resolvedScopes) →
      ∃ r', s'.store.byId.get? id = some r' ∧ r'.effectiveScopes = r.effectiveScopes ∧
        r'.resolvedScopes = r.resolvedScopes) := by
  have hI : AuthorityInv tr s :=
    h.invariant .initial fun _ hI hok hs => hI.step hok (serviceStep_sound hs)
  refine ⟨fun id r hr => hI.within hr, fun issued hmem => hI.issued_within hmem, ?_⟩
  intro a s' es id next r hs hrequest hr hnew
  obtain ⟨issued, -, -, hw⟩ := hI.within hr
  exact scopes_unchanged_of_escalation (serviceStep_sound hs) hrequest hr hw.resolved_eq hnew

/-- A credential issued for sending and replying and narrowed to sending over the
WebSocket is within its issuance, and cannot get `reply` back. -/
theorem authority_only_narrows_sending :
    ∃ tr s r, s.store.byId.get? "cred_0123456789abcdef" = some r ∧
      r.resolvedScopes = [.send] ∧
      (∃ issued ∈ createdRecords tr, issued.credentialId = "cred_0123456789abcdef" ∧
        Within issued r) ∧
      Run (serviceMachine {} fun _ _ => "") (fun s a => freshCredentialId s a = true) tr s := by
  obtain ⟨tr, s, hrun, htest⟩ := exists_run_of_exec (serviceMachine {} fun _ _ => "")
    freshCredentialId
    [.issue 0 ⟨"op_0123456789abcdef", ["conv_0123456789abcdef"], none, some [.send, .reply], none,
        none⟩ ⟨"cred_0123456789abcdef", "owner", "token", 0⟩,
      .wsUpdateScopes ⟨⟨"cred_0123456789abcdef", "op_0123456789abcdef",
        ["conv_0123456789abcdef"], ⟨[.send, .reply], []⟩, .active, 0, 3600000, "owner"⟩, false, 0⟩
        none (some [.reply])]
    (fun _ s => (s.store.byId.get? "cred_0123456789abcdef").any (·.resolvedScopes = [.send]))
    (by decide)
  obtain ⟨r, hr, hsend⟩ := (Option.any_eq_true _ _).1 htest
  exact ⟨tr, s, r, hr, by simpa using hsend, (authority_only_narrows hrun).1 _ r hr, hrun⟩

end Signet
