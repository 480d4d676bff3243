import Signet.Seals.DeltaAgreement
import Signet.Seals.Revocation

/-!
# What an issue discloses

`issue` returns either a seal it has just built or the head of the pair, when its
materiality check finds the head unchanged. `issueMachine` is the seal machine
with the input each call has resolved noted beside it; it reports every successful
`issue` as that input with the seal returned.

* `isMaterialChange_computePayloadDelta`: the delta of two payloads is immaterial
  exactly when their allow and deny sets agree.
* `FreshInv`: the head of a pair was built from the input kept under its id, and a
  call that has passed its resolver carries the input it resolved.
* `issue_discloses_iff`: the seal returned discloses what the input says, unless
  the head is found unchanged and its `bypassed` marker is not the marker of the
  input. `hasInputChanges` compares every other field.
-/

namespace Signet

open Lib

/-! ### The delta and the permission sets -/

/-- One delta is material exactly when it lists a grant or a withdrawal. -/
theorem isMaterialChange_iff_listed {delta : SealDelta} :
    isMaterialChange [delta] = true ↔ ∃ scope, delta.Grants scope ∨ delta.Withdraws scope := by
  have hlists : isMaterialChange [delta] = true ↔
      (∃ scope, scope ∈ delta.added) ∨ (∃ scope, scope ∈ delta.removed) ∨
        ∃ change, change ∈ delta.changed := by
    simp only [isMaterialChange, isSingleDeltaMaterial, List.any_cons, List.any_nil,
      Bool.or_false, Bool.or_eq_true, Bool.not_eq_true', List.isEmpty_eq_false_iff_exists_mem,
      or_assoc]
  rw [hlists]
  constructor
  · rintro (⟨scope, hadded⟩ | ⟨scope, hremoved⟩ | ⟨change, hchanged⟩)
    · exact ⟨scope, .inl (.inl hadded)⟩
    · exact ⟨scope, .inr (.inl hremoved)⟩
    · -- a change goes to one stance or the other
      cases hto : change.toStance with
      | allow => exact ⟨change.scope, .inl (.inr ⟨change, hchanged, rfl, hto⟩)⟩
      | deny => exact ⟨change.scope, .inr (.inr ⟨change, hchanged, rfl, hto⟩)⟩
  · rintro ⟨scope, (hadded | ⟨change, hchanged, -⟩) | (hremoved | ⟨change, hchanged, -⟩)⟩
    · exact .inl ⟨scope, hadded⟩
    · exact .inr (.inr ⟨change, hchanged⟩)
    · exact .inr (.inl ⟨scope, hremoved⟩)
    · exact .inr (.inr ⟨change, hchanged⟩)

/-- Two scope sets with the same allow set and the same deny set. -/
def ScopeSet.SameSets (before after : ScopeSet) : Prop :=
  ∀ scope, (scope ∈ before.allow ↔ scope ∈ after.allow) ∧
    (scope ∈ before.deny ↔ scope ∈ after.deny)

/-- **The delta sees every change of the sets.** It is immaterial exactly when the
allow sets agree and the deny sets agree. -/
theorem isMaterialChange_computePayloadDelta {previous next : SealPayloadType} :
    isMaterialChange [computePayloadDelta previous next] = false ↔
      previous.permissions.SameSets next.permissions := by
  rw [Bool.eq_false_iff, ne_eq, isMaterialChange_iff_listed, not_exists]
  refine forall_congr' fun scope => ?_
  rw [withdraws_iff_grants, grants_iff, grants_iff]
  -- four memberships of one scope
  by_cases hprevAllow : scope ∈ previous.permissions.allow <;>
    by_cases hnextAllow : scope ∈ next.permissions.allow <;>
    by_cases hprevDeny : scope ∈ previous.permissions.deny <;>
    by_cases hnextDeny : scope ∈ next.permissions.deny <;>
    simp [hprevAllow, hnextAllow, hprevDeny, hnextDeny]

/-! ### What a seal discloses -/

/-- Two payloads disclose the same: the same permissions as sets, and the same
value in every other disclosed field. -/
structure SealPayloadType.SameDisclosure (payload derived : SealPayloadType) : Prop where
  permissions : payload.permissions.SameSets derived.permissions
  scopeMode : payload.scopeMode = derived.scopeMode
  adminAccess : payload.adminAccess = derived.adminAccess
  bypassed : payload.bypassed = derived.bypassed
  trustTier : payload.trustTier = derived.trustTier
  operatorDisclosures : payload.operatorDisclosures = derived.operatorDisclosures
  provenanceMap : payload.provenanceMap = derived.provenanceMap

/-- The seal discloses what `buildSeal` derives from the input, whatever id and time
it would draw. -/
def SealEnvelope.Discloses (envelope : SealEnvelope) (input : SealInput) : Prop :=
  ∀ sealId now, envelope.chain.current.SameDisclosure (input.toPayload sealId now)

/-- A payload built from the input discloses what the input says. -/
theorem SealEnvelope.discloses_of_eq {envelope : SealEnvelope} {input : SealInput}
    {sealId : String} {now : Time}
    (h : envelope.chain.current.toSealPayloadType = input.toPayload sealId now) :
    envelope.Discloses input := by
  intro otherId otherNow
  constructor <;> rw [h]
  · exact fun scope => ⟨.rfl, .rfl⟩
  all_goals rfl

/-! ### The machine that notes what was resolved -/

/-- The seal manager with the input that each call has resolved. -/
structure IssueState where
  seals : SealState
  resolved : OrdMap Nat SealInput

/-- What an action notes: the input an `issue` resolves; a `refresh` resolves none. -/
def noteResolved (resolved : OrdMap Nat SealInput) : SealAction → OrdMap Nat SealInput
  | .inputResolved call (.ok input) _ _ => resolved.set call input
  | .refresh call _ _ _ => resolved.erase call
  | _ => resolved

/-- The report of an `issue` that returns a seal: the input it resolved and the seal. -/
def issueReturn? (resolved : OrdMap Nat SealInput) :
    SealEvent → Option (SealInput × SealEnvelope)
  | .returned call (.ok envelope) => (resolved.get? call).map fun input => (input, envelope)
  | _ => none

/-- **The seal machine, reporting what each successful `issue` resolved and
returned.** -/
def issueMachine : Machine IssueState SealAction (SealInput × SealEnvelope) where
  init := ⟨.init, .empty⟩
  step s a :=
    match sealStep s.seals a with
    | none => none
    | some (seals, events) =>
      let resolved := noteResolved s.resolved a
      some (⟨seals, resolved⟩, events.filterMap (issueReturn? resolved))

/-- A step is a step of the seal machine. -/
theorem issueMachine_step {s s' : IssueState} {a : SealAction}
    {returns : List (SealInput × SealEnvelope)}
    (h : issueMachine.step s a = some (s', returns)) :
    ∃ events, SealStep s.seals a s'.seals events ∧ s'.resolved = noteResolved s.resolved a ∧
      returns = events.filterMap (issueReturn? s'.resolved) := by
  simp only [issueMachine] at h
  split at h
  · cases h
  · next seals events hstep =>
    cases h
    exact ⟨events, sealStep_sound hstep, rfl, rfl⟩

/-! ### What is missed -/

/-- The head of the pair is found unchanged although its `bypassed` marker is not
the marker of the input. -/
def SealManager.overlooksBypass (m : SealManager) (chatId : String) (input : SealInput) : Bool :=
  let key := chainKey input.credentialId chatId
  key ∉ m.revokedPairs && (m.currentSeals.get? key).any fun previous =>
    m.isUnchanged previous input && previous.chain.current.bypassed != input.bypassed

/-- The action resolves an input whose `bypassed` marker is missed. -/
def overlooksBypass (s : SealState) : SealAction → Bool
  | .inputResolved call (.ok input) _ _ =>
    match s.calls.get? call with
    | some (.resolving _ chatId) => s.manager.overlooksBypass chatId input
    | _ => false
  | _ => false

/-- Every other field of the input is compared. -/
theorem hasInputChanges_eq_false {previous next : SealInput}
    (h : hasInputChanges previous next = false) :
    previous =
      { next with permissions := previous.permissions, bypassed := previous.bypassed } := by
  simp only [hasInputChanges, Bool.or_eq_false_iff, decide_eq_false_iff_not, ne_eq, not_not] at h
  obtain ⟨⟨⟨⟨⟨⟨⟨hcred, hop⟩, hchat⟩, hmode⟩, hadmin⟩, htier⟩, hdisc⟩, hprov⟩ := h
  cases previous
  cases next
  simp only at hcred hop hchat hmode hadmin htier hdisc hprov
  subst hcred hop hchat hmode hadmin htier hdisc hprov
  rfl

theorem SealManager.isUnchanged_eq_true {m : SealManager} {previous : SealEnvelope}
    {input : SealInput} (h : m.isUnchanged previous input = true) :
    ∃ previousInput, m.inputsBySealId.get? previous.sealId = some previousInput ∧
      hasInputChanges previousInput input = false ∧
      previous.chain.current.permissions.SameSets input.permissions := by
  simp only [isUnchanged] at h
  split at h
  · cases h
  · next previousInput hprevious =>
    simp only [Bool.and_eq_true, Bool.not_eq_true'] at h
    exact ⟨previousInput, hprevious, h.2, isMaterialChange_computePayloadDelta.1 h.1⟩

/-! ### The invariant -/

/-- What ties the heads and the calls to the inputs they were built from. -/
structure FreshInv (s : IssueState) : Prop where
  seals : SealInv s.seals
  /-- A head whose id leads to an input of its own pair was built from that input. A
  drawn id may lead to the input of another pair, which the check tells apart. -/
  head_input : ∀ {key envelope input},
    s.seals.manager.currentSeals.get? key = some envelope →
    s.seals.manager.inputsBySealId.get? envelope.sealId = some input →
    key = chainKey input.credentialId input.chatId →
    ∃ sealId now, envelope.chain.current.toSealPayloadType = input.toPayload sealId now
  /-- A call past its resolver builds from the input it resolved. -/
  pending_input : ∀ {call phase pending input}, s.seals.calls.get? call = some phase →
    phase.pending? = some pending → s.resolved.get? call = some input → pending.input = input

theorem FreshInv.initial : FreshInv issueMachine.init where
  seals := .initial
  head_input h := by simp [issueMachine, SealState.init, SealManager.new] at h
  pending_input h := by simp [issueMachine, SealState.init] at h

section Step

variable {s s' : IssueState} {a : SealAction} {events : List SealEvent}

/-- An action notes nothing about another call. -/
theorem noteResolved_frame (resolved : OrdMap Nat SealInput) {c : Nat} (hc : c ≠ a.call) :
    (noteResolved resolved a).get? c = resolved.get? c := by
  unfold noteResolved
  split
  · exact OrdMap.get?_set_of_ne _ _ hc
  · exact OrdMap.get?_erase_of_ne _ hc
  · rfl

theorem PendingSeal.Coherent.key_input {pending : PendingSeal} (h : pending.Coherent) :
    pending.key = chainKey pending.input.credentialId pending.input.chatId := by
  obtain ⟨sealId, now, hpayload⟩ := h.payload_eq
  rw [h.key_eq, PendingSeal.pair, hpayload]
  rfl

theorem FreshInv.head_input_track (hI : FreshInv s) {pending : PendingSeal} {signed : Signature}
    (hco : pending.Coherent) {key : String} {envelope : SealEnvelope} {input : SealInput}
    (hget : (s.seals.manager.track pending (pending.envelope signed)).currentSeals.get? key =
      some envelope)
    (hinput : (s.seals.manager.track pending (pending.envelope signed)).inputsBySealId.get?
      envelope.sealId = some input)
    (hkey : key = chainKey input.credentialId input.chatId) :
    ∃ sealId now, envelope.chain.current.toSealPayloadType = input.toPayload sealId now := by
  rw [SealManager.track] at hget hinput
  rcases OrdMap.get?_set_eq_some hget with ⟨rfl, rfl⟩ | ⟨hne, hget⟩
  · -- the head is the seal just recorded
    rw [OrdMap.get?_set_self] at hinput
    cases hinput
    exact hco.payload_eq
  · rcases OrdMap.get?_set_eq_some hinput with ⟨-, rfl⟩ | ⟨-, hinput⟩
    · -- the head shares its id with the recorded seal, whose input is of another pair
      rw [hco.key_input] at hne
      exact absurd hkey hne
    · exact hI.head_input hget hinput hkey

/-- The input that a call past its resolver carries, after a step of the call itself. -/
theorem FreshInv.pending_input_self (hI : FreshInv s) (hstep : SealStep s.seals a s'.seals events)
    (hres : s'.resolved = noteResolved s.resolved a) {phase : SealCall} {pending : PendingSeal}
    {input : SealInput} (hphase : s'.seals.calls.get? a.call = some phase)
    (hpending : phase.pending? = some pending) (hinput : s'.resolved.get? a.call = some input) :
    pending.input = input := by
  rw [hres] at hinput
  generalize s'.seals = t at hstep hphase
  cases hstep with
  | issue hnew =>
    rw [SealState.await_calls, SealAction.call, OrdMap.get?_set_self] at hphase
    cases hphase
    cases hpending
  | failed =>
    rw [SealState.finish_calls, OrdMap.get?_erase_self] at hphase
    cases hphase
  | rejected hnew =>
    rw [hnew] at hphase
    cases hphase
  | unchanged =>
    rw [SealState.finish_calls, SealAction.call, OrdMap.get?_erase_self] at hphase
    cases hphase
  | issueBuilt hcall hissue =>
    rw [SealState.await_calls, SealAction.call, OrdMap.get?_set_self] at hphase
    cases hphase
    cases hpending
    rw [noteResolved, SealAction.call, OrdMap.get?_set_self] at hinput
    cases hinput
    exact (SealManager.issueResolved_eq_pending hissue).2.1
  | refreshBuilt hnew hrefresh =>
    -- a refresh has resolved nothing
    rw [noteResolved, SealAction.call, OrdMap.get?_erase_self] at hinput
    cases hinput
  | publish hcall =>
    rw [SealState.await_calls, SealAction.call, OrdMap.get?_set_self] at hphase
    cases hphase
    cases hpending
    exact hI.pending_input hcall rfl hinput
  | recorded =>
    change (OrdMap.erase _ _).get? _ = _ at hphase
    rw [SealAction.call, OrdMap.get?_erase_self] at hphase
    cases hphase
  | revoke =>
    rw [SealState.await_calls, SealAction.call, OrdMap.get?_set_self] at hphase
    cases hphase
    cases hpending
  | publishRevocation =>
    rw [SealState.await_calls, SealAction.call, OrdMap.get?_set_self] at hphase
    cases hphase
    cases hpending
  | revoked =>
    change (OrdMap.erase _ _).get? _ = _ at hphase
    rw [SealAction.call, OrdMap.get?_erase_self] at hphase
    cases hphase

/-- **Every step keeps the invariant** when the resolver answers its pair. -/
theorem FreshInv.step (hI : FreshInv s) (hans : resolverAnswers s.seals a = true)
    (hstep : SealStep s.seals a s'.seals events) (hres : s'.resolved = noteResolved s.resolved a) :
    FreshInv s' := by
  refine ⟨hI.seals.step hans hstep, ?_, ?_⟩
  · intro key envelope input hget hinput hkey
    have hold := @FreshInv.head_input s hI key envelope input
    generalize s'.seals = t at hstep hget hinput
    cases hstep with
    | recorded hcall =>
      exact hI.head_input_track (hI.seals.pending_ok hcall rfl) hget hinput hkey
    | revoked hcall => exact hold (OrdMap.get?_erase_eq_some hget).2 hinput hkey
    | _ => exact hold hget hinput hkey
  · intro call phase pending input hphase hpending hinput
    by_cases hcall : call = a.call
    · subst hcall
      exact hI.pending_input_self hstep hres hphase hpending hinput
    · -- the step neither resumes the call nor notes anything about it
      rw [hstep.calls_frame hcall] at hphase
      rw [hres, noteResolved_frame _ hcall] at hinput
      exact hI.pending_input hphase hpending hinput

/-- The head returned as unchanged discloses the input exactly when it has its marker. -/
theorem FreshInv.discloses_iff_bypassed (hI : FreshInv s) {credentialId chatId : String}
    {input : SealInput} {previous : SealEnvelope}
    (hans : input.credentialId = credentialId ∧ input.chatId = chatId)
    (hhead : s.seals.manager.currentSeals.get? (chainKey input.credentialId chatId) =
      some previous)
    (hunchanged : s.seals.manager.isUnchanged previous input = true) :
    previous.Discloses input ↔ previous.chain.current.bypassed = input.bypassed := by
  obtain ⟨previousInput, hinput, hsame, hsets⟩ := SealManager.isUnchanged_eq_true hunchanged
  have hfields := hasInputChanges_eq_false hsame
  have hkey : chainKey input.credentialId chatId =
      chainKey previousInput.credentialId previousInput.chatId := by
    rw [hfields, hans.2]
  obtain ⟨sealId, now, hpayload⟩ := hI.head_input hhead hinput hkey
  constructor
  · intro h
    exact (h sealId now).bypassed
  · intro hbypassed otherId otherNow
    refine ⟨hsets, ?_, ?_, hbypassed, ?_, ?_, ?_⟩ <;> rw [hpayload, hfields] <;> rfl

end Step

/-! ### What `issue` returns -/

section Returns

variable {s s' : IssueState} {a : SealAction} {returns : List (SealInput × SealEnvelope)}

theorem overlooksBypass_unchanged {call : Nat} {credentialId chatId newSealId : String}
    {input : SealInput} {now : Time} {previous : SealEnvelope}
    (hcall : s.seals.calls.get? call = some (.resolving credentialId chatId))
    (hissue : s.seals.manager.issueResolved chatId input newSealId now = .ok (.inl previous)) :
    overlooksBypass s.seals (.inputResolved call (.ok input) newSealId now) = true ↔
      previous.chain.current.bypassed ≠ input.bypassed := by
  obtain ⟨hhead, hunchanged⟩ := SealManager.issueResolved_eq_unchanged hissue
  have hrevoked : chainKey input.credentialId chatId ∉ s.seals.manager.revokedPairs := by
    intro hmem
    rw [SealManager.issueResolved, if_pos hmem] at hissue
    cases hissue
  simp [overlooksBypass, hcall, SealManager.overlooksBypass, hrevoked, hhead, hunchanged]

/-- An input whose marker is missed is answered with the unchanged head. -/
theorem unchanged_of_overlooksBypass {call : Nat} {newSealId : String} {input : SealInput}
    {now : Time}
    (h : overlooksBypass s.seals (.inputResolved call (.ok input) newSealId now) = true) :
    ∃ credentialId chatId previous,
      s.seals.calls.get? call = some (.resolving credentialId chatId) ∧
      s.seals.manager.issueResolved chatId input newSealId now = .ok (.inl previous) := by
  simp only [overlooksBypass] at h
  split at h
  · next credentialId chatId hcall =>
    simp only [SealManager.overlooksBypass, Bool.and_eq_true, decide_eq_true_eq] at h
    obtain ⟨hrevoked, hany⟩ := h
    obtain ⟨previous, hhead, hmissed⟩ := (Option.any_eq_true _ _).1 hany
    have hunchanged := (Bool.and_eq_true_iff.1 hmissed).1
    refine ⟨credentialId, chatId, previous, hcall, ?_⟩
    have hfilter : Option.filter (s.seals.manager.isUnchanged · input)
        (s.seals.manager.currentSeals.get? (chainKey input.credentialId chatId)) =
          some previous :=
      Option.filter_eq_some_iff.2 ⟨hhead, hunchanged⟩
    rw [SealManager.issueResolved, if_neg hrevoked]
    simp only [hfilter]
  · cases h

/-- A step that misses no marker returns what discloses its input. -/
theorem FreshInv.returns_disclose (hI : FreshInv s) (hans : resolverAnswers s.seals a = true)
    (hmissed : overlooksBypass s.seals a = false)
    (hstep : issueMachine.step s a = some (s', returns)) :
    ∀ r ∈ returns, r.2.Discloses r.1 := by
  obtain ⟨events, hseal, hres, rfl⟩ := issueMachine_step hstep
  rw [hres]
  generalize s'.seals = t at hseal
  intro r hr
  obtain ⟨e, he, hreturn⟩ := List.mem_filterMap.1 hr
  cases hseal with
  | issue | issueBuilt | refreshBuilt | revoke => cases he
  | failed _ _ _ hes | rejected _ _ hes =>
    -- an error is no seal
    rcases hes with rfl | rfl <;> cases List.mem_singleton.1 he <;> cases hreturn
  | publish | publishRevocation | revoked => cases List.mem_singleton.1 he; cases hreturn
  | @unchanged call credentialId chatId input newSealId now previous hcall hissue =>
    cases List.mem_singleton.1 he
    rw [issueReturn?, noteResolved, OrdMap.get?_set_self] at hreturn
    cases hreturn
    obtain ⟨hhead, hunchanged⟩ := SealManager.issueResolved_eq_unchanged hissue
    rw [hI.discloses_iff_bypassed (resolverAnswers_resolving hans hcall) hhead hunchanged]
    by_contra hbypassed
    rw [(overlooksBypass_unchanged hcall hissue).2 hbypassed] at hmissed
    cases hmissed
  | @recorded call pending signed hcall =>
    rcases List.mem_cons.1 he with rfl | he
    · cases hreturn
    · cases List.mem_singleton.1 he
      obtain ⟨input, hinput, heq⟩ := Option.map_eq_some_iff.1 hreturn
      cases heq
      obtain ⟨sealId, now, hpayload⟩ := (hI.seals.pending_ok hcall rfl).payload_eq
      rw [hI.pending_input hcall rfl hinput] at hpayload
      exact SealEnvelope.discloses_of_eq hpayload

/-- A step that misses a marker returns a seal that does not disclose its input. -/
theorem FreshInv.exists_not_discloses (hI : FreshInv s) (hans : resolverAnswers s.seals a = true)
    (hmissed : overlooksBypass s.seals a = true)
    (hstep : issueMachine.step s a = some (s', returns)) :
    ∃ r ∈ returns, ¬ r.2.Discloses r.1 := by
  cases a with
  | inputResolved call result newSealId now =>
    cases result with
    | error e => cases hmissed
    | ok input =>
      obtain ⟨credentialId, chatId, previous, hcall, hissue⟩ :=
        unchanged_of_overlooksBypass hmissed
      obtain ⟨hhead, hunchanged⟩ := SealManager.issueResolved_eq_unchanged hissue
      have hreturns : returns = [(input, previous)] := by
        simp only [issueMachine, sealStep, hcall, hissue, noteResolved, Option.some.injEq,
          Prod.mk.injEq, List.filterMap_cons, List.filterMap_nil, issueReturn?,
          OrdMap.get?_set_self, Option.map_some] at hstep
        exact hstep.2.symm
      refine ⟨(input, previous), ?_, ?_⟩
      · rw [hreturns]
        exact List.mem_singleton_self _
      · rw [hI.discloses_iff_bypassed (resolverAnswers_resolving hans hcall) hhead hunchanged]
        exact (overlooksBypass_unchanged hcall hissue).1 hmissed
  | _ => cases hmissed

end Returns

theorem FreshInv.of_run {ok : IssueState → SealAction → Prop}
    (hok : ∀ s a, ok s a → resolverAnswers s.seals a = true)
    {tr : List (SealInput × SealEnvelope)} {s : IssueState} (h : Run issueMachine ok tr s) :
    FreshInv s := by
  refine h.invariant (I := fun _ s => FreshInv s) FreshInv.initial ?_
  intro tr s a s' returns _ hI ha hstep
  obtain ⟨events, hseal, hres, -⟩ := issueMachine_step hstep
  exact hI.step (hok _ _ ha) hseal hres

/-- **An issue discloses what it resolved, its `bypassed` marker apart.** In a run
that never meets an unchanged head with another marker, every seal that an `issue`
returns discloses what `buildSeal` derives from the input resolved. In every run, a
step does so exactly when it does not meet such a head. -/
theorem issue_discloses_iff : ∀ tr s,
    (Run issueMachine (fun s a => resolverAnswers s.seals a = true ∧
        overlooksBypass s.seals a = false) tr s →
      ∀ r ∈ tr, r.2.Discloses r.1) ∧
    (Run issueMachine (fun s a => resolverAnswers s.seals a = true) tr s →
      ∀ a s' returns, resolverAnswers s.seals a = true →
        issueMachine.step s a = some (s', returns) →
        ((∀ r ∈ returns, r.2.Discloses r.1) ↔ overlooksBypass s.seals a = false)) := by
  intro tr s
  constructor
  · intro hrun r hr
    obtain ⟨tr₀, s₀, a, s₁, returns, hrun₀, hok, hstep, hmem⟩ := hrun.emitted hr
    have hI : FreshInv s₀ := FreshInv.of_run (fun _ _ h => h.1) hrun₀
    exact hI.returns_disclose hok.1 hok.2 hstep r hmem
  · intro hrun a s' returns hans hstep
    have hI : FreshInv s := FreshInv.of_run (fun _ _ h => h) hrun
    constructor
    · intro hall
      by_contra hmissed
      rw [Bool.not_eq_false] at hmissed
      obtain ⟨r, hr, hnot⟩ := hI.exists_not_discloses hans hmissed hstep
      exact hnot (hall r hr)
    · intro hmissed
      exact hI.returns_disclose hans hmissed hstep

def firstInput : SealInput :=
  .plain firstPair.1 "op_0123456789abcdef" firstPair.2 ⟨[.send], []⟩

/-- A second issue for the pair of the first seal, with the input resolved then. -/
def issueAgain (input : SealInput) : List SealAction :=
  firstSeal ++
    [.issue 1 firstPair.1 firstPair.2, .inputResolved 1 (.ok input) "seal_0000000000000002" 1]

/-- The first seal is returned twice for its input. -/
def repeatsFirst : List (SealInput × SealEnvelope) → Bool
  | [first, second] => first.1 = firstInput && first = second
  | _ => false

/-- The first seal is returned again for the input it was built from. -/
theorem issue_discloses_iff_again :
    ∃ tr s envelope, Run issueMachine (fun s a => resolverAnswers s.seals a = true ∧
        overlooksBypass s.seals a = false) tr s ∧
      tr = [(firstInput, envelope), (firstInput, envelope)] ∧ envelope.Discloses firstInput := by
  obtain ⟨tr, s, hrun, htest⟩ := exists_run_of_exec issueMachine
    (fun s a => resolverAnswers s.seals a && !overlooksBypass s.seals a)
    (issueAgain firstInput)
    (fun tr _ => repeatsFirst tr) (by decide)
  have hrun' : Run issueMachine (fun s a => resolverAnswers s.seals a = true ∧
      overlooksBypass s.seals a = false) tr s := by
    refine hrun.mono fun s a hok => ?_
    rwa [Bool.and_eq_true, Bool.not_eq_true'] at hok
  unfold repeatsFirst at htest
  split at htest
  · next first second =>
    obtain ⟨hinput, hsame⟩ := Bool.and_eq_true_iff.1 htest
    have hinput : first.1 = firstInput := of_decide_eq_true hinput
    obtain rfl : first = second := of_decide_eq_true hsame
    have hdiscloses := (issue_discloses_iff _ _).1 hrun' first (List.mem_cons_self ..)
    rw [hinput] at hdiscloses
    refine ⟨_, s, first.2, hrun', ?_, hdiscloses⟩
    rw [← hinput]
  · cases htest

/-- **A seal without the marker of a bypassed input.** The second issue resolves an
input that differs in `bypassed` alone, and gets the first seal back. -/
theorem bypassed_not_disclosed :
    ¬ ∀ tr s, Run issueMachine (fun s a => resolverAnswers s.seals a = true) tr s →
      ∀ r ∈ tr, r.2.Discloses r.1 := by
  intro h
  obtain ⟨tr, s, hrun, htest⟩ := exists_run_of_exec issueMachine
    (fun s a => resolverAnswers s.seals a)
    (issueAgain { firstInput with bypassed := true })
    (fun tr _ => tr.any fun r => r.2.chain.current.bypassed != r.1.bypassed)
    (by decide)
  obtain ⟨r, hr, hmarker⟩ := List.any_eq_true.1 htest
  have hdiscloses := h tr s hrun r hr r.2.sealId 0
  rw [bne_iff_ne] at hmarker
  exact hmarker hdiscloses.bypassed

end Signet
