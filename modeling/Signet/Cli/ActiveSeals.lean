import Signet.Cli.SealLifecycle
import Signet.Sessions.RecordIdentity

/-!
# Seals and the status of their credential

The resolver checks that a chat belongs to the credential, but not that the
credential is active, and nothing looks at the credential again between the
lookup and the publication. So a seal is published for an active credential only
under a condition on the order of steps (`sealsWhileActive`):

* an issue or refresh that has a seal to build resumes or starts while its
  credential is active, and
* no credential leaves `active` while one of its seals is being signed.

`dead_credential_sealed` is a run in which a revoked credential gets its first seal.

The invariant `LifecycleInv` follows the chat from the record through the
resolver into the stored inputs; the chats of a record never change
(`KeepsChats`), which is why a refresh needs no resolver.
-/

namespace Signet

open Lib

/-! ### Credentials and their chats -/

/-- The credential of a pair exists and has the chat of the pair in its set. -/
def ChatOf (m : CredentialStore) (pair : String × String) : Prop :=
  ∃ r, m.byId.get? pair.1 = some r ∧ pair.2 ∈ r.chatIds

theorem KeepsChats.chatOf {m m' : CredentialStore} (h : KeepsChats m m') {pair : String × String}
    (hchat : ChatOf m pair) : ChatOf m' pair := by
  obtain ⟨r, hr, hmem⟩ := hchat
  obtain ⟨r', hr', heq⟩ := h hr
  exact ⟨r', hr', by rw [heq]; exact hmem⟩

/-! ### The condition -/

section Condition

variable (cfg : CredentialManagerConfig) (hash : ScopeSet → List String → String)
  (s : LifecycleState)

/-- Credential ids are drawn fresh. -/
def freshIds : LifecycleAction → Bool
  | .service a => freshCredentialId s.service a
  | _ => true

/-- An issue or refresh that has a seal to build is for an active credential. -/
def buildsWhileActive : LifecycleAction → Bool
  | .inputReady call _ _ =>
    match s.resolving.get? call with
    | some ⟨_, chatId, .answered (.ok input)⟩ =>
      !s.seals.manager.needsSeal chatId input || isActive s.service.store input.credentialId
    | _ => true
  | .seals (.refresh _ sealId _ _) =>
    match s.seals.manager.sealsById.get? sealId with
    | some existing =>
      !s.seals.manager.isRefreshable sealId existing ||
        isActive s.service.store existing.pair.1
    | none => true
  | _ => true

/-- The credential store after the credential operation of a step. -/
def storeAfter : LifecycleAction → CredentialStore
  | .service a =>
    match serviceStep cfg hash s.service a with
    | some (service, _) => service.store
    | none => s.service.store
  | .issue _ credentialId _ now => (Service.lookup cfg s.service.store credentialId now).store
  | _ => s.service.store

/-- No credential leaves `active` while one of its seals is being signed. -/
def keepsSigningActive (a : LifecycleAction) : Bool :=
  s.seals.calls.values.all fun
    | .signing pending =>
      !isActive s.service.store pending.pair.1 ||
        isActive (storeAfter cfg hash s a) pending.pair.1
    | _ => true

/-- **The condition under which seals are published for active credentials.** -/
def sealsWhileActive (a : LifecycleAction) : Bool :=
  buildsWhileActive s a && keepsSigningActive cfg hash s a

end Condition

/-! ### The invariant -/

/-- The credential of a resolver call exists and has these chats. -/
def HasChats (m : CredentialStore) (credentialId : String) (chatIds : List String) : Prop :=
  ∃ r, m.byId.get? credentialId = some r ∧ r.chatIds = chatIds

/-- What is known of a resolver call: the record it has read still has its chats,
and its answer is about the pair asked for, with the chat in scope. -/
def ResolverCall.Ok (m : CredentialStore) (resolver : ResolverCall) : Prop :=
  match resolver.stage with
  | .awaitCredential (.ok cred) => HasChats m resolver.credentialId cred.chatIds
  | .awaitOperator cred => HasChats m resolver.credentialId cred.chatIds
  | .answered (.ok input) =>
    input.credentialId = resolver.credentialId ∧ input.chatId = resolver.chatId ∧
      ChatOf m (resolver.credentialId, resolver.chatId)
  | _ => True

theorem ResolverCall.Ok.keep {m m' : CredentialStore} (h : KeepsChats m m')
    {resolver : ResolverCall} (hok : resolver.Ok m) : resolver.Ok m' := by
  -- the chats of a record never change, so what was looked up stays true
  have hchats : ∀ {id chatIds}, HasChats m id chatIds → HasChats m' id chatIds := by
    rintro id chatIds ⟨r, hr, heq⟩
    obtain ⟨r', hr', heq'⟩ := h hr
    exact ⟨r', hr', heq'.trans heq⟩
  unfold ResolverCall.Ok at hok ⊢
  split at hok
  · exact hchats hok
  · exact hchats hok
  · exact ⟨hok.1, hok.2.1, h.chatOf hok.2.2⟩
  · trivial

/-- A resolver call that moves on stays sound. -/
theorem ResolverCall.Ok.next {m : CredentialStore} {trustTier : TrustTier}
    {call : Nat} {resolver : ResolverCall} {a : LifecycleAction} {stage : ResolverStage}
    (hok : resolver.Ok m) (hnext : resolver.Next trustTier call a stage) :
    ResolverCall.Ok m { resolver with stage := stage } := by
  cases hnext with
  | failed e => trivial
  | credential h => simpa [ResolverCall.Ok, h] using hok
  | @answer cred op adminAccess h =>
    have hchats : HasChats m resolver.credentialId cred.chatIds := by
      simpa [ResolverCall.Ok, h] using hok
    unfold ResolverCall.Ok
    dsimp only
    split
    · next heq => cases heq
    · next heq => cases heq
    · next input heq =>
      obtain ⟨hin, hcred, hchat, -, -⟩ :=
        resolveSealInput_eq_ok (ResolverStage.answered.inj heq)
      obtain ⟨r, hr, hr_chats⟩ := hchats
      exact ⟨hcred, hchat, r, hr, by rw [hr_chats]; exact hin⟩
    · trivial

/-- The record a lookup returns has the chats of the one in the store afterwards. -/
theorem lookup_hasChats {cfg : CredentialManagerConfig} {m : CredentialStore}
    {credentialId : String} {now : Time} {cred : CredentialRecord}
    (h : (Service.lookup cfg m credentialId now).value = .ok cred) :
    HasChats (Service.lookup cfg m credentialId now).store credentialId cred.chatIds := by
  obtain ⟨r, hr, rfl⟩ := lookup_eq_ok h
  exact ⟨r, hr, rfl⟩

/-- **Chats and status along a run.** -/
structure LifecycleInv (s : LifecycleState) : Prop extends IssuesInv s where
  /-- Resolver calls are sound. -/
  resolver_ok : s.resolving.Forall fun _ resolver => resolver.Ok s.service.store
  /-- Seals are for chats of their credential; those being signed, for active
  credentials. -/
  pairs : SealPairs (ChatOf s.service.store) (fun pair => isActive s.service.store pair.1 = true)
    s.seals

theorem LifecycleInv.initial : LifecycleInv .init where
  toIssuesInv := .initial
  resolver_ok := .empty
  pairs :=
    { tracked := fun h => by simp [LifecycleState.init, SealState.init, SealManager.new] at h
      pending := fun h => by simp [LifecycleState.init, SealState.init] at h
      signing := fun h => by simp [LifecycleState.init, SealState.init] at h }

section Step

variable {cfg : CredentialManagerConfig} {hash : ScopeSet → List String → String}
  {trustTier : TrustTier} {s s' : LifecycleState} {a : LifecycleAction}
  {es : List LifecycleEvent}

/-- The pairs after a change of the credential store. -/
private theorem LifecycleInv.pairs_of_store (hI : LifecycleInv s) {m' : CredentialStore}
    (hchats : KeepsChats s.service.store m')
    (hactive : keepsSigningActive cfg hash s a = true) (hafter : storeAfter cfg hash s a = m') :
    SealPairs (ChatOf m') (fun pair => isActive m' pair.1 = true) s.seals := by
  refine hI.pairs.mono (fun _ => hchats.chatOf) ?_
  intro call p hcall
  -- the condition: the credential of a seal about to be published is active after the step
  have hall := List.all_eq_true.1 hactive _ (OrdMap.mem_values_iff.2 ⟨call, hcall⟩)
  rw [hafter] at hall
  simpa [hI.pairs.signing hcall] using hall

private theorem LifecycleInv.pairs_of_direct (hI : LifecycleInv s) {α : SealAction}
    {es : List SealEvent} (hdirect : α.isDirect = true)
    (hs : sealStep s.seals α = some (s'.seals, es)) (hservice : s'.service = s.service)
    (hrefresh : ∀ {call sealId newSealId now existing}, α = .refresh call sealId newSealId now →
      s.seals.manager.sealsById.get? sealId = some existing →
      s.seals.manager.isRefreshable sealId existing = true →
      isActive s.service.store existing.pair.1 = true) :
    SealPairs (ChatOf s'.service.store)
      (fun pair => isActive s'.service.store pair.1 = true) s'.seals := by
  have hans : resolverAnswers s.seals α = true := by
    cases α <;> first | rfl | cases hdirect
  rw [hservice]
  refine hI.pairs.step hI.seals hans ?_ hrefresh (sealStep_sound hs)
  rintro call credentialId chatId input newSealId now rfl
  cases hdirect

/-- **Every step keeps the invariant** under the condition. -/
theorem LifecycleInv.step (hI : LifecycleInv s) (hfresh : freshIds s a = true)
    (hok : sealsWhileActive cfg hash s a = true)
    (hstep : LifecycleStep cfg hash trustTier s a s' es) : LifecycleInv s' := by
  obtain ⟨hbuild, hkeep⟩ := Bool.and_eq_true_iff.1 hok
  have hissues := hI.toIssuesInv.step hstep
  cases hstep with
  | @service a s' es hs hseals hresolving =>
    have hchats : KeepsChats s.service.store s'.service.store :=
      (serviceStep_sound hs).keepsChats hfresh
    refine ⟨hissues, ?_, ?_⟩
    -- a credential operation: records keep their chats, and the condition keeps them active
    · rw [hresolving]
      exact hI.resolver_ok.imp fun h => h.keep hchats
    · rw [hseals]
      exact hI.pairs_of_store hchats hkeep (by simp only [storeAfter, hs])
  | @issue call credentialId chatId now s' es es' hs hstore hresolving =>
    have hchats : KeepsChats s.service.store s'.service.store := by
      rw [hstore]
      exact (s.service.store.sweepExpired_frame cfg now).keeps.keepsChats
    refine ⟨hissues, ?_, ?_⟩
    · rw [hresolving]
      refine (hI.resolver_ok.imp fun h => h.keep hchats).set ?_
      rw [hstore]
      unfold ResolverCall.Ok
      dsimp only
      split
      · next heq => exact lookup_hasChats (ResolverStage.awaitCredential.inj heq)
      · next heq => cases heq
      · next heq => cases heq
      · trivial
    -- beginning a call sweeps the expired records first
    · have hpairs := hI.pairs_of_store hchats hkeep (a := .issue call credentialId chatId now)
        (by simp only [storeAfter, hstore])
      exact hpairs.step hI.seals rfl (by rintro _ _ _ _ _ _ ⟨⟩) (by rintro _ _ _ _ _ ⟨⟩)
        (sealStep_sound hs)
  | @resolved a call resolver stage hget hnext =>
    exact ⟨hissues, hI.resolver_ok.set ((hI.resolver_ok.of_get? hget).next hnext), hI.pairs⟩
  | @inputReady call resolver result newSealId now seals es hget hstage hs =>
    have hcall := hI.resolving_call hget
    have hresolver := hI.resolver_ok.of_get? hget
    have hans : resolverAnswers s.seals (.inputResolved call result newSealId now) = true := by
      cases result with
      | error e => rfl
      | ok input =>
        simp only [ResolverCall.Ok, hstage] at hresolver
        simp [resolverAnswers, hcall, hresolver.1, hresolver.2.1]
    refine ⟨hissues, hI.resolver_ok.erase call, ?_⟩
    refine hI.pairs.step hI.seals hans ?_ (by rintro _ _ _ _ _ ⟨⟩) (sealStep_sound hs)
    rintro _ credentialId chatId input _ _ ⟨⟩ hcall' hneeds
    rw [hcall] at hcall'
    cases hcall'
    simp only [ResolverCall.Ok, hstage] at hresolver
    -- the input is in the chats of its credential, and the condition says that it is active
    refine ⟨hresolver.2.2, ?_⟩
    obtain ⟨credentialId, chatId, stage⟩ := resolver
    cases hstage
    dsimp only at hneeds hresolver ⊢
    have hbuilt : isActive s.service.store input.credentialId = true := by
      simpa [buildsWhileActive, hget, hneeds] using hbuild
    rw [← hresolver.1]
    exact hbuilt
  | seals hα hs hservice hresolving =>
    refine ⟨hissues, ?_, ?_⟩
    · rw [hresolving, hservice]
      exact hI.resolver_ok
    · refine hI.pairs_of_direct hα hs hservice ?_
      rintro call sealId newSealId now existing rfl hget hrefreshable
      simpa [buildsWhileActive, hget, hrefreshable] using hbuild
  | taskRevoke hs hservice hresolving =>
    refine ⟨hissues, ?_, hI.pairs_of_direct rfl hs hservice (by rintro _ _ _ _ _ ⟨⟩)⟩
    rw [hresolving, hservice]
    exact hI.resolver_ok
  | idle hservice hseals hresolving =>
    refine ⟨hissues, ?_, by rw [hseals, hservice]; exact hI.pairs⟩
    rw [hresolving, hservice]
    exact hI.resolver_ok

end Step

/-! ### Seals for living credentials -/

theorem signing_of_publish {s s' : SealState} {α : SealAction} {es : List SealEvent}
    {chatId : String} {envelope : SealEnvelope} (hs : sealStep s α = some (s', es))
    (hmem : .publish chatId envelope ∈ es) :
    s'.manager = s.manager ∧ ∃ call pending, s.calls.get? call = some (.signing pending) ∧
      chatId = pending.publishTo ∧ envelope.pair = pending.pair := by
  have hstep := sealStep_sound hs
  cases hstep with
  | failed _ _ _ hes => rcases hes with rfl | rfl <;> simp at hmem
  | rejected _ _ hes => rcases hes with rfl | rfl <;> simp at hmem
  | publish hcall =>
    obtain ⟨rfl, rfl⟩ : chatId = _ ∧ envelope = _ := by simpa using hmem
    exact ⟨rfl, _, _, hcall, rfl, rfl⟩
  | issue | unchanged | issueBuilt | refreshBuilt | recorded | revoke | publishRevocation
  | revoked => simp at hmem

/-- A step that publishes a seal leaves the credentials alone and finds the seal
being signed. -/
theorem LifecycleStep.publish {cfg : CredentialManagerConfig}
    {hash : ScopeSet → List String → String} {trustTier : TrustTier} {s s' : LifecycleState}
    {a : LifecycleAction} {es : List LifecycleEvent}
    (hstep : LifecycleStep cfg hash trustTier s a s' es) {chatId : String}
    {envelope : SealEnvelope} (hmem : .seal (.publish chatId envelope) ∈ es) :
    s'.service = s.service ∧ ∃ call pending, s.seals.calls.get? call = some (.signing pending) ∧
      chatId = pending.publishTo ∧ envelope.pair = pending.pair := by
  cases hstep with
  | service => simp at hmem
  | issue hs _ _ =>
    obtain ⟨-, -, rfl⟩ := sealStep_issue_eq_some hs
    simp at hmem
  | resolved => simp at hmem
  | inputReady _ _ hs =>
    obtain ⟨e, he, heq⟩ := List.mem_map.1 hmem
    cases heq
    exact ⟨rfl, (signing_of_publish hs he).2⟩
  | seals _ hs hservice _ | taskRevoke hs hservice _ =>
    obtain ⟨e, he, heq⟩ := List.mem_map.1 hmem
    cases heq
    exact ⟨hservice, (signing_of_publish hs he).2⟩
  | idle => simp at hmem

/-- **No seal for a dead credential.** In every run whose builds are for active
credentials and in which no credential leaves `active` while one of its seals is
being signed: when a seal is published, its credential is active and has the chat,
which is the chat of the seal, in its set. -/
theorem seal_published_while_active {cfg : CredentialManagerConfig}
    {hash : ScopeSet → List String → String} {trustTier : TrustTier}
    {tr : List LifecycleEvent} {s : LifecycleState}
    (h : Run (lifecycleMachine cfg hash trustTier)
      (fun s a => (freshIds s a && sealsWhileActive cfg hash s a) = true) tr s)
    {a : LifecycleAction} {s' : LifecycleState} {es : List LifecycleEvent} {chatId : String}
    {envelope : SealEnvelope} (hs : lifecycleStep cfg hash trustTier s a = some (s', es))
    (hmem : .seal (.publish chatId envelope) ∈ es) :
    chatId = envelope.pair.2 ∧ ∃ r, s'.service.store.byId.get? envelope.pair.1 = some r ∧
      r.status = .active ∧ chatId ∈ r.chatIds := by
  have hI : LifecycleInv s := by
    refine h.invariant (I := fun _ s => LifecycleInv s) .initial ?_
    intro _ _ _ _ _ _ hI hok hs
    have hok := Bool.and_eq_true_iff.1 hok
    exact hI.step hok.1 hok.2 (lifecycleStep_sound hs)
  obtain ⟨hservice, call, pending, hcall, hto, hpair⟩ := (lifecycleStep_sound hs).publish hmem
  have hchat : chatId = envelope.pair.2 := by
    rw [hto, hpair]
    exact (hI.seals.pending_ok hcall rfl).publishTo_eq
  -- both facts about the pair speak of the one record under its id
  obtain ⟨r, hr, hactive⟩ := isActive_iff.1 (hI.pairs.signing hcall)
  obtain ⟨r', hr', hin⟩ := hI.pairs.pending hcall rfl
  rw [hr] at hr'
  cases hr'
  rw [hservice, hchat, hpair]
  exact ⟨rfl, r, hr, hactive, hin⟩

/-- A credential for one chat. -/
def issueCredential : LifecycleAction :=
  .service (.issue 0 ⟨"op_0123456789abcdef", ["conv_0123456789abcdef"], none, some [.send], none,
    none⟩ ⟨"cred_0123456789abcdef", "owner", "token", 0⟩)

/-- Its first seal, up to the point where the signer is awaited. -/
def buildFirst : List LifecycleAction :=
  [.issue 0 "cred_0123456789abcdef" "conv_0123456789abcdef" 2, .credentialLookedUp 0,
    .operatorLookedUp 0 (.ok ⟨.perChat, none⟩) none, .inputReady 0 "seal_0000000000000001" 2]

/-- The signature of that seal arrives. -/
def signFirst : LifecycleAction :=
  .seals (.signed 0 (.ok ⟨"sig", "key_0123456789abcdef"⟩))

/-- The event publishes a seal of the pair of `buildFirst`. -/
def LifecycleEvent.publishesFirst : LifecycleEvent → Bool
  | .seal (.publish chatId envelope) =>
    chatId = "conv_0123456789abcdef" ∧
      envelope.pair = ("cred_0123456789abcdef", "conv_0123456789abcdef")
  | _ => false

/-- With the signature the seal is published while its credential has the status. -/
def publishesFirstWhile (status : CredentialStatus) (s : LifecycleState) : Bool :=
  (lifecycleStep {} (fun _ _ => "") .sourceVerified s signFirst).any fun (s', es) =>
    es.any LifecycleEvent.publishesFirst &&
      (s'.service.store.byId.get? "cred_0123456789abcdef").any (·.status = status)

theorem publishesFirstWhile_iff {status : CredentialStatus} {s : LifecycleState} :
    publishesFirstWhile status s = true ↔ ∃ s' es envelope r,
      lifecycleStep {} (fun _ _ => "") .sourceVerified s signFirst = some (s', es) ∧
      .seal (.publish "conv_0123456789abcdef" envelope) ∈ es ∧
      envelope.pair = ("cred_0123456789abcdef", "conv_0123456789abcdef") ∧
      s'.service.store.byId.get? envelope.pair.1 = some r ∧ r.status = status := by
  simp only [publishesFirstWhile, Option.any_eq_true, List.any_eq_true, Bool.and_eq_true,
    Prod.exists, decide_eq_true_eq]
  constructor
  · rintro ⟨s', es, hs, ⟨e, hmem, he⟩, r, hr, hstatus⟩
    unfold LifecycleEvent.publishesFirst at he
    split at he
    · next chatId envelope =>
      obtain ⟨rfl, hpair⟩ := of_decide_eq_true he
      exact ⟨s', es, envelope, r, hs, hmem, hpair, by rw [hpair]; exact hr, hstatus⟩
    · cases he
  · rintro ⟨s', es, envelope, r, hs, hmem, hpair, hr, hstatus⟩
    rw [hpair] at hr
    exact ⟨s', es, hs, ⟨_, hmem, by simp [LifecycleEvent.publishesFirst, hpair]⟩, r, hr, hstatus⟩

/-- A seal that is built, signed and published for an active credential. -/
theorem seal_published_while_active_first :
    ∃ tr s s' es envelope, Run (lifecycleMachine {} (fun _ _ => "") .sourceVerified)
        (fun s a => (freshIds s a && sealsWhileActive {} (fun _ _ => "") s a) = true) tr s ∧
      lifecycleStep {} (fun _ _ => "") .sourceVerified s signFirst = some (s', es) ∧
      .seal (.publish "conv_0123456789abcdef" envelope) ∈ es ∧
      ∃ r, s'.service.store.byId.get? envelope.pair.1 = some r ∧ r.status = .active ∧
        "conv_0123456789abcdef" ∈ r.chatIds := by
  obtain ⟨tr, s, hrun, htest⟩ := exists_run_of_exec
    (lifecycleMachine {} (fun _ _ => "") .sourceVerified)
    (fun s a => freshIds s a && sealsWhileActive {} (fun _ _ => "") s a)
    (issueCredential :: buildFirst) (fun _ s => publishesFirstWhile .active s) (by decide)
  obtain ⟨s', es, envelope, -, hs, hmem, -, -, -⟩ := publishesFirstWhile_iff.1 htest
  exact ⟨tr, s, s', es, envelope, hrun, hs, hmem, (seal_published_while_active hrun hs hmem).2⟩

/-- **A dead credential gets its first seal.** The credential is revoked before any
seal of it exists, so the callback has nothing to revoke; an issue that comes
afterwards looks the credential up, finds its chats and publishes. -/
theorem dead_credential_sealed :
    ∃ tr s s' es envelope r, Run (lifecycleMachine {} (fun _ _ => "") .sourceVerified)
        (fun s a => freshIds s a = true) tr s ∧
      lifecycleStep {} (fun _ _ => "") .sourceVerified s signFirst = some (s', es) ∧
      .seal (.publish "conv_0123456789abcdef" envelope) ∈ es ∧
      s'.service.store.byId.get? envelope.pair.1 = some r ∧ r.status = .revoked := by
  obtain ⟨tr, s, hrun, htest⟩ := exists_run_of_exec
    (lifecycleMachine {} (fun _ _ => "") .sourceVerified) freshIds
    (issueCredential :: .service (.revoke "cred_0123456789abcdef" .ownerInitiated 1) :: buildFirst)
    (fun _ s => publishesFirstWhile .revoked s) (by decide)
  obtain ⟨s', es, envelope, r, hs, hmem, -, hr, hstatus⟩ := publishesFirstWhile_iff.1 htest
  exact ⟨tr, s, s', es, envelope, r, hrun, hs, hmem, hr, hstatus⟩

end Signet
