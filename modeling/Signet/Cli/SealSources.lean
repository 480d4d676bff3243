import Signet.Cli.SealLifecycle

/-!
# What the seals of a chat disclose

The admin access on a seal comes from the seal input resolver alone: `issue` builds a
seal from what the resolver has answered, and `refresh` builds one from the stored input
of the head, which discloses what the head discloses. So the disclosures of a chat have
three sources (`LifecycleState.Source`): its current seals, its seals in flight, and the
answers of the resolver that no issue has taken up yet.

`LifecycleStep.source`: a step adds no source but the answer of a resolver call. The
argument needs to know what a refresh rebuilds, which is `SealManager.HeadsTracked`: the
seal that is tracked under the id of a head is the head.
-/

namespace Signet

open Lib

/-! ### Heads -/

/-- A seal that is tracked under the id of the head of its pair is the head. -/
def SealManager.HeadsTracked (m : SealManager) : Prop :=
  ∀ {sealId existing head}, m.sealsById.get? sealId = some existing →
    m.currentSeals.get? (pairKey existing.pair) = some head → head.sealId = sealId →
    head = existing

/-- **Every step keeps the heads tracked.** -/
theorem SealStep.headsTracked {s s' : SealState} {a : SealAction} {es : List SealEvent}
    (hstep : SealStep s a s' es) (hI : SealInv s) (h : s.manager.HeadsTracked) :
    s'.manager.HeadsTracked := by
  cases hstep with
  | issue | failed | rejected | unchanged | issueBuilt | refreshBuilt | publish | revoke
  | publishRevocation => exact h
  | @recorded call pending signed hcall =>
    intro sealId existing head hexisting hhead hid
    have hkey : pending.key = pairKey pending.pair := (hI.pending_ok hcall rfl).key_eq
    rcases OrdMap.get?_set_eq_some hexisting with ⟨rfl, rfl⟩ | ⟨hne, hexisting⟩
    · -- the recorded seal became the head of its pair by the same write
      rw [PendingSeal.envelope_pair, ← hkey] at hhead
      exact Option.some.inj (hhead.symm.trans (OrdMap.get?_set_self _ _ _))
    · rcases OrdMap.get?_set_eq_some hhead with ⟨-, rfl⟩ | ⟨-, hhead⟩
      · exact absurd hid.symm hne
      · exact h hexisting hhead hid
  | revoked =>
    intro sealId existing head hexisting hhead hid
    exact h hexisting (OrdMap.get?_erase_eq_some hhead).2 hid

/-! ### Sources -/

/-- What the seals of a chat disclose, now or when they are recorded. -/
inductive SealState.Source (s : SealState) (chatId : String) : Option AdminAccess → Prop
  | current {key : String} {envelope : SealEnvelope}
      (hget : s.manager.currentSeals.get? key = some envelope) (hchat : envelope.pair.2 = chatId) :
      s.Source chatId envelope.chain.current.adminAccess
  | pending {call : Nat} {phase : SealCall} {pending : PendingSeal}
      (hcall : s.calls.get? call = some phase) (hpending : phase.pending? = some pending)
      (hchat : pending.pair.2 = chatId) : s.Source chatId pending.chain.current.adminAccess

namespace SealState.Source

variable {s s' : SealState} {chatId : String} {access : Option AdminAccess}

/-- A call moves to a phase whose seal, if it carries one, has a source. -/
private theorem of_await {call : Nat} {phase : SealCall}
    (hphase : ∀ pending, phase.pending? = some pending → pending.pair.2 = chatId →
      s.Source chatId pending.chain.current.adminAccess)
    (h : (s.await call phase).Source chatId access) : s.Source chatId access := by
  cases h with
  | current hget hchat => exact .current hget hchat
  | pending hcall hpending hchat =>
    rcases OrdMap.get?_set_eq_some hcall with ⟨-, rfl⟩ | ⟨-, hcall⟩
    · exact hphase _ hpending hchat
    · exact .pending hcall hpending hchat

private theorem of_await_none {call : Nat} {phase : SealCall} (hphase : phase.pending? = none)
    (h : (s.await call phase).Source chatId access) : s.Source chatId access := by
  refine of_await (fun pending hpending _ => ?_) h
  rw [hphase] at hpending
  cases hpending

private theorem of_finish {call : Nat} (h : (s.finish call).Source chatId access) :
    s.Source chatId access := by
  cases h with
  | current hget hchat => exact .current hget hchat
  | pending hcall hpending hchat =>
    exact .pending (OrdMap.get?_erase_eq_some hcall).2 hpending hchat

/-- A refresh discloses what the head discloses. -/
private theorem of_refreshStart (hI : SealInv s) (hheads : s.manager.HeadsTracked)
    {sealId newSealId : String} {now : Time} {pending : PendingSeal}
    (h : s.manager.refreshStart sealId newSealId now = .ok pending)
    (hchat : pending.pair.2 = chatId) :
    s.Source chatId pending.chain.current.adminAccess := by
  obtain ⟨hstart, hinput, hhead, existing, hexisting, hkey, -, -⟩ :=
    SealManager.refreshStart_eq_ok h
  obtain ⟨-, existing', hexisting', hpair⟩ := hI.coherent_of_refreshStart h
  obtain rfl : existing = existing' := Option.some.inj (hexisting.symm.trans hexisting')
  -- the stored input is the one the existing seal was built from
  obtain ⟨input, issuedAt, hinput', hpayload⟩ := hI.seal_input hexisting
  obtain rfl : input = pending.input := Option.some.inj (hinput'.symm.trans hinput)
  have haccess : pending.chain.current.adminAccess = existing.chain.current.adminAccess := by
    rw [hstart.payload_eq, hpayload]
    rfl
  -- and the existing seal is current
  obtain ⟨head, hget, hid⟩ := Option.map_eq_some_iff.1 hhead
  rw [hkey] at hget
  obtain rfl := hheads hexisting hget hid
  rw [haccess]
  exact .current hget (hpair ▸ hchat)

end SealState.Source

/-- **A step of the seal manager adds no source** but the input that an issue takes up. -/
theorem SealStep.source {s s' : SealState} {a : SealAction} {es : List SealEvent}
    (hstep : SealStep s a s' es) (hI : SealInv s) (hheads : s.manager.HeadsTracked)
    {chatId : String} {access : Option AdminAccess} (h : s'.Source chatId access) :
    s.Source chatId access ∨ ∃ call input newSealId now,
      a = .inputResolved call (.ok input) newSealId now ∧ input.chatId = chatId ∧
        input.adminAccess = access := by
  cases hstep with
  | issue | revoke | publishRevocation => exact .inl (.of_await_none rfl h)
  | failed | unchanged => exact .inl h.of_finish
  | rejected => exact .inl h
  | @issueBuilt call credentialId _ input newSealId now pending hcall hres =>
    obtain ⟨hstart, hinput, -⟩ := SealManager.issueResolved_eq_pending hres
    have hpayload : pending.chain.current.toSealPayloadType = input.toPayload newSealId now :=
      hinput ▸ hstart.payload_eq
    cases h with
    | current hget hchat => exact .inl (.current hget hchat)
    | @pending c phase p hcall' hpending hchat =>
      rcases OrdMap.get?_set_eq_some hcall' with ⟨-, rfl⟩ | ⟨-, hcall'⟩
      · -- the seal that was built carries the input
        cases hpending
        refine .inr ⟨call, input, newSealId, now, rfl, ?_, ?_⟩
        · rw [← hchat, PendingSeal.pair, hpayload]
          rfl
        · rw [hpayload]
          rfl
      · exact .inl (.pending hcall' hpending hchat)
  | refreshBuilt hnew hres =>
    refine .inl (.of_await (fun pending hpending hchat => ?_) h)
    cases hpending
    exact .of_refreshStart hI hheads hres hchat
  | publish hcall =>
    refine .inl (.of_await (fun pending hpending hchat => ?_) h)
    cases hpending
    exact .pending hcall rfl hchat
  | @recorded call pending signed hcall =>
    cases h with
    | current hget hchat =>
      rcases OrdMap.get?_set_eq_some hget with ⟨-, rfl⟩ | ⟨-, hget⟩
      · exact .inl (.pending hcall rfl hchat)
      · exact .inl (.current hget hchat)
    | pending hcall' hpending hchat =>
      exact .inl (.pending (OrdMap.get?_erase_eq_some hcall').2 hpending hchat)
  | revoked =>
    cases h with
    | current hget hchat => exact .inl (.current (OrdMap.get?_erase_eq_some hget).2 hchat)
    | pending hcall hpending hchat =>
      exact .inl (.pending (OrdMap.get?_erase_eq_some hcall).2 hpending hchat)

/-- What the seals of a chat disclose or are about to: the seal manager's sources, and
what the resolver has answered to an issue that has not resumed. -/
inductive LifecycleState.Source (s : LifecycleState) (chatId : String) :
    Option AdminAccess → Prop
  | seals {access : Option AdminAccess} (h : s.seals.Source chatId access) :
      s.Source chatId access
  | answered {call : Nat} {resolver : ResolverCall} {input : SealInput}
      (hget : s.resolving.get? call = some resolver)
      (hstage : resolver.stage = .answered (.ok input)) (hchat : input.chatId = chatId) :
      s.Source chatId input.adminAccess

/-- The resolver call of an issue is about to answer for the chat: it has found the
credential, which has the chat in its set. -/
def LifecycleState.Resolves (s : LifecycleState) (call : Nat) (chatId : String) : Prop :=
  ∃ credentialId cred, s.resolving.get? call = some ⟨credentialId, chatId, .awaitOperator cred⟩ ∧
    chatId ∈ cred.chatIds

section Step

variable {cfg : CredentialManagerConfig} {hash : ScopeSet → List String → String}
  {trustTier : TrustTier} {s s' : LifecycleState} {a : LifecycleAction}
  {es : List LifecycleEvent}

/-- A step runs the seal manager once or not at all. -/
theorem LifecycleStep.sealStep (hstep : LifecycleStep cfg hash trustTier s a s' es) :
    s'.seals = s.seals ∨ ∃ α es', SealStep s.seals α s'.seals es' := by
  cases hstep with
  | service _ hseals _ | idle _ hseals _ => exact .inl hseals
  | resolved => exact .inl rfl
  | issue hs _ _ | inputReady _ _ hs | seals _ hs _ _ | taskRevoke hs _ _ =>
    exact .inr ⟨_, _, sealStep_sound hs⟩

theorem LifecycleStep.headsTracked (hstep : LifecycleStep cfg hash trustTier s a s' es)
    (hI : SealInv s.seals) (h : s.seals.manager.HeadsTracked) :
    s'.seals.manager.HeadsTracked := by
  rcases hstep.sealStep with heq | ⟨α, es', hs⟩
  · rw [heq]
    exact h
  · exact hs.headsTracked hI h

/-- **A step adds no source** but what the resolver reads when it answers. -/
theorem LifecycleStep.source (hstep : LifecycleStep cfg hash trustTier s a s' es)
    (hI : SealInv s.seals) (hheads : s.seals.manager.HeadsTracked) {chatId : String}
    {access : Option AdminAccess} (h : s'.Source chatId access) :
    s.Source chatId access ∨ ∃ call op, a = .operatorLookedUp call (.ok op) access ∧
      s.Resolves call chatId := by
  -- an answer that is not new was there before
  have hanswered : ∀ {call resolver input}, s.resolving.get? call = some resolver →
      resolver.stage = .answered (.ok input) → input.chatId = chatId →
      s.Source chatId input.adminAccess := fun hget hstage hchat => .answered hget hstage hchat
  -- a direct call of the seal manager takes up no input
  have hdirect : ∀ {α : SealAction} {es' : List SealEvent}, α.isDirect = true →
      Signet.sealStep s.seals α = some (s'.seals, es') → s'.seals.Source chatId access →
      s.Source chatId access := by
    intro α es' hα hs h
    rcases (sealStep_sound hs).source hI hheads h with hold | ⟨call, input, newSealId, now, rfl, -⟩
    · exact .seals hold
    · cases hα
  cases hstep with
  | service _ hseals hresolving | idle _ hseals hresolving =>
    left
    cases h with
    | seals h => exact .seals (hseals ▸ h)
    | answered hget hstage hchat => exact hanswered (hresolving ▸ hget) hstage hchat
  | issue hs _ hresolving =>
    left
    cases h with
    | seals h =>
      rcases (sealStep_sound hs).source hI hheads h with hold | ⟨_, _, _, _, heq, -⟩
      · exact .seals hold
      · cases heq
    | answered hget hstage hchat =>
      rw [hresolving] at hget
      rcases OrdMap.get?_set_eq_some hget with ⟨-, rfl⟩ | ⟨-, hget⟩
      · cases hstage
      · exact hanswered hget hstage hchat
  | @resolved a call resolver stage hget hnext =>
    cases h with
    | seals h => exact .inl (.seals h)
    | answered hget' hstage hchat =>
      rcases OrdMap.get?_set_eq_some hget' with ⟨rfl, rfl⟩ | ⟨-, hget'⟩
      · cases hnext with
        | failed | credential => cases hstage
        | @answer cred op adminAccess hawait =>
          obtain ⟨hmem, -, hinput, -, haccess⟩ :=
            resolveSealInput_eq_ok (ResolverStage.answered.inj hstage)
          obtain rfl : resolver.chatId = chatId := hinput.symm.trans hchat
          refine .inr ⟨_, op, by rw [haccess], resolver.credentialId, cred, ?_, hmem⟩
          rw [hget, ← hawait]
      · exact .inl (hanswered hget' hstage hchat)
  | @inputReady call resolver result newSealId now seals es hget hstage hs =>
    left
    cases h with
    | seals h =>
      rcases (sealStep_sound hs).source hI hheads h with hold | ⟨_, _, _, _, heq, hchat, rfl⟩
      · exact .seals hold
      · -- the issue takes up what the resolver has answered
        cases heq
        exact hanswered hget hstage hchat
    | answered hget' hstage' hchat =>
      exact hanswered (OrdMap.get?_erase_eq_some hget').2 hstage' hchat
  | seals hα hs _ hresolving =>
    left
    cases h with
    | seals h => exact hdirect hα hs h
    | answered hget hstage hchat => exact hanswered (hresolving ▸ hget) hstage hchat
  | taskRevoke hs _ hresolving =>
    left
    cases h with
    | seals h => exact hdirect rfl hs h
    | answered hget hstage hchat => exact hanswered (hresolving ▸ hget) hstage hchat

end Step

/-! ### Listing the sources -/

def ResolverCall.answer? (resolver : ResolverCall) : Option SealInput :=
  match resolver.stage with
  | .answered (.ok input) => some input
  | _ => none

/-- The sources of a chat: current seals, seals in flight, answers. -/
def LifecycleState.sources (s : LifecycleState) (chatId : String) : List (Option AdminAccess) :=
  ((s.seals.manager.currentSeals.values.map (·.chain.current.toSealPayloadType) ++
      (s.seals.calls.values.filterMap (·.pending?)).map (·.chain.current.toSealPayloadType)).filter
        (·.chatId = chatId)).map (·.adminAccess) ++
    ((s.resolving.values.filterMap (·.answer?)).filter (·.chatId = chatId)).map (·.adminAccess)

theorem LifecycleState.mem_sources {s : LifecycleState} {chatId : String}
    {access : Option AdminAccess} (h : s.Source chatId access) : access ∈ s.sources chatId := by
  cases h with
  | seals h =>
    refine List.mem_append_left _ ?_
    cases h with
    | @current key envelope hget hchat =>
      refine List.mem_map.2 ⟨envelope.chain.current.toSealPayloadType, ?_, rfl⟩
      refine List.mem_filter.2 ⟨List.mem_append_left _ ?_, decide_eq_true hchat⟩
      exact List.mem_map.2 ⟨envelope, OrdMap.mem_values_iff.2 ⟨key, hget⟩, rfl⟩
    | @pending call phase pending hcall hpending hchat =>
      refine List.mem_map.2 ⟨pending.chain.current.toSealPayloadType, ?_, rfl⟩
      refine List.mem_filter.2 ⟨List.mem_append_right _ ?_, decide_eq_true hchat⟩
      refine List.mem_map.2 ⟨pending, ?_, rfl⟩
      exact List.mem_filterMap.2 ⟨phase, OrdMap.mem_values_iff.2 ⟨call, hcall⟩, hpending⟩
  | @answered call resolver input hget hstage hchat =>
    refine List.mem_append_right _ (List.mem_map.2 ⟨input, ?_, rfl⟩)
    refine List.mem_filter.2 ⟨?_, decide_eq_true hchat⟩
    refine List.mem_filterMap.2 ⟨resolver, OrdMap.mem_values_iff.2 ⟨call, hget⟩, ?_⟩
    rw [ResolverCall.answer?, hstage]

end Signet
