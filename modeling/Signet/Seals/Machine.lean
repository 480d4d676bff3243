import Signet.Lib.Machine
import Signet.Seals.Manager

/-!
# Concurrent calls on one seal manager

`sealMachine` interleaves `issue`, `refresh` and `revoke` calls on one manager at
every `await`. A call in flight is a `SealCall`, the continuation the source
would resume; a step either starts a call or resumes one with the reply it was
waiting for. Replies, clock readings and drawn ids are part of the action.

Two moments of a publication are told apart: `publish` is the call of
`publisher.publish`, `recorded` its success together with the writes that follow
it without another await.

`SealStep` lists what a step can do, one constructor per segment of the source;
`sealStep_sound` is the only place where the step function is taken apart.
-/

namespace Signet

open Lib

/-! ### Calls, actions, events -/

/-- A call that waits for a reply. -/
inductive SealCall where
  /-- `issue` awaits `resolveInput`. -/
  | resolving (credentialId chatId : String)
  /-- `issue` or `refresh` awaits `signer.sign`. -/
  | signing (pending : PendingSeal)
  /-- `issue` or `refresh` awaits `publisher.publish`. -/
  | publishing (pending : PendingSeal) (signed : Signature)
  /-- `revoke` awaits `signer.signRevocation`. -/
  | signingRevocation (pending : PendingRevocation)
  /-- `revoke` awaits `publisher.publishRevocation`. -/
  | publishingRevocation (pending : PendingRevocation)
  deriving DecidableEq

/-- The seal a call is about to publish and record, if it is past its checks. -/
def SealCall.pending? : SealCall → Option PendingSeal
  | .signing pending => some pending
  | .publishing pending _ => some pending
  | _ => none

/-- The revocation a call is about to publish and record. -/
def SealCall.revocation? : SealCall → Option PendingRevocation
  | .signingRevocation pending => some pending
  | .publishingRevocation pending => some pending
  | _ => none

/-- A call is started or resumed. -/
inductive SealAction where
  | issue (call : Nat) (credentialId chatId : String)
  | inputResolved (call : Nat) (result : Result SealInput) (newSealId : String) (now : Time)
  | refresh (call : Nat) (sealId newSealId : String) (now : Time)
  | signed (call : Nat) (result : Result Signature)
  | published (call : Nat) (result : Result Unit)
  | revoke (call : Nat) (sealId : String) (reason : AgentRevocationReason) (newSealId : String)
      (now : Time)
  | revocationSigned (call : Nat) (result : Result Signature)
  | revocationPublished (call : Nat) (result : Result Unit)
  deriving DecidableEq

/-- The action is the success of a publication, after which the maps are written. -/
def SealAction.writes : SealAction → Bool
  | .published _ (.ok ()) => true
  | .revocationPublished _ (.ok ()) => true
  | _ => false

/-- The call an action starts or resumes. -/
def SealAction.call : SealAction → Nat
  | .issue call .. => call
  | .inputResolved call .. => call
  | .refresh call .. => call
  | .signed call _ => call
  | .published call _ => call
  | .revoke call .. => call
  | .revocationSigned call _ => call
  | .revocationPublished call _ => call

/-- The action is the reply a call in this phase waits for. -/
def SealAction.resumes : SealAction → SealCall → Bool
  | .inputResolved .., .resolving .. => true
  | .signed .., .signing _ => true
  | .published .., .publishing .. => true
  | .revocationSigned .., .signingRevocation _ => true
  | .revocationPublished .., .publishingRevocation _ => true
  | _, _ => false

/-- What the manager does to the outside. -/
inductive SealEvent where
  /-- `publisher.publish(chatId, envelope)` is called. -/
  | publish (chatId : String) (envelope : SealEnvelope)
  /-- The publication succeeded and the envelope is tracked. -/
  | recorded (envelope : SealEnvelope)
  /-- `publisher.publishRevocation(chatId, revocation)` is called. -/
  | publishRevocation (chatId : String) (revocation : RevocationSeal)
  /-- An `issue` or `refresh` call returns. -/
  | returned (call : Nat) (result : Result SealEnvelope)
  /-- A `revoke` call for the pair returns `Ok`. -/
  | revoked (call : Nat) (pair : String × String)
  /-- A `revoke` call fails. -/
  | revokeFailed (call : Nat) (error : SignetError)
  deriving DecidableEq

/-- The manager with its calls in flight. -/
structure SealState where
  manager : SealManager
  calls : OrdMap Nat SealCall

namespace SealState

/-- The call waits in a new phase. -/
def await (s : SealState) (call : Nat) (phase : SealCall) : SealState :=
  { s with calls := s.calls.set call phase }

/-- The call is over. -/
def finish (s : SealState) (call : Nat) : SealState :=
  { s with calls := s.calls.erase call }

@[simp] theorem await_manager (s : SealState) (call : Nat) (phase : SealCall) :
    (s.await call phase).manager = s.manager := rfl

@[simp] theorem finish_manager (s : SealState) (call : Nat) :
    (s.finish call).manager = s.manager := rfl

@[simp] theorem await_calls (s : SealState) (call : Nat) (phase : SealCall) :
    (s.await call phase).calls = s.calls.set call phase := rfl

@[simp] theorem finish_calls (s : SealState) (call : Nat) :
    (s.finish call).calls = s.calls.erase call := rfl

end SealState

/-! ### The step -/

/-- One segment of one call. -/
def sealStep (s : SealState) : SealAction → Option (SealState × List SealEvent)
  | .issue call credentialId chatId =>
    if s.calls.has call then none
    else some (s.await call (.resolving credentialId chatId), [])
  | .inputResolved call result newSealId now =>
    match s.calls.get? call with
    | some (.resolving _ chatId) =>
      match result with
      | .error e => some (s.finish call, [.returned call (.error e)])
      | .ok input =>
        match s.manager.issueResolved chatId input newSealId now with
        | .error e => some (s.finish call, [.returned call (.error e)])
        | .ok (.inl previous) => some (s.finish call, [.returned call (.ok previous)])
        | .ok (.inr pending) => some (s.await call (.signing pending), [])
    | _ => none
  | .refresh call sealId newSealId now =>
    if s.calls.has call then none
    else
      match s.manager.refreshStart sealId newSealId now with
      | .error e => some (s, [.returned call (.error e)])
      | .ok pending => some (s.await call (.signing pending), [])
  | .signed call result =>
    match s.calls.get? call with
    | some (.signing pending) =>
      match result with
      | .error e => some (s.finish call, [.returned call (.error e)])
      | .ok signed =>
        some (s.await call (.publishing pending signed),
          [.publish pending.publishTo (pending.envelope signed)])
    | _ => none
  | .published call result =>
    match s.calls.get? call with
    | some (.publishing pending signed) =>
      match result with
      | .error e => some (s.finish call, [.returned call (.error e)])
      | .ok () =>
        let envelope := pending.envelope signed
        some ({ (s.finish call) with manager := s.manager.track pending envelope },
          [.recorded envelope, .returned call (.ok envelope)])
    | _ => none
  | .revoke call sealId reason newSealId now =>
    if s.calls.has call then none
    else
      match s.manager.revokeStart sealId reason newSealId now with
      | .error e => some (s, [.revokeFailed call e])
      | .ok pending => some (s.await call (.signingRevocation pending), [])
  | .revocationSigned call result =>
    match s.calls.get? call with
    | some (.signingRevocation pending) =>
      match result with
      | .error e => some (s.finish call, [.revokeFailed call e])
      | .ok _ =>
        some (s.await call (.publishingRevocation pending),
          [.publishRevocation pending.pair.2 pending.revocation])
    | _ => none
  | .revocationPublished call result =>
    match s.calls.get? call with
    | some (.publishingRevocation pending) =>
      match result with
      | .error e => some (s.finish call, [.revokeFailed call e])
      | .ok () =>
        some ({ (s.finish call) with manager := s.manager.markRevoked pending },
          [.revoked call pending.pair])
    | _ => none

/-- A manager without calls. -/
def SealState.init : SealState :=
  ⟨.new, .empty⟩

/-- **The seal manager under concurrent calls.** -/
def sealMachine : Machine SealState SealAction SealEvent where
  init := .init
  step := sealStep

/-! ### What a step can do -/

/-- The outcomes of a step, by the segment that ran. -/
inductive SealStep (s : SealState) : SealAction → SealState → List SealEvent → Prop
  | issue {call : Nat} {credentialId chatId : String} (hnew : s.calls.get? call = none) :
      SealStep s (.issue call credentialId chatId)
        (s.await call (.resolving credentialId chatId)) []
  /-- An operation gives up; nothing changes but its own call. -/
  | failed {a : SealAction} {phase : SealCall} {e : SignetError} {es : List SealEvent}
      (hcall : s.calls.get? a.call = some phase) (hresumes : a.resumes phase = true)
      (hwrites : a.writes = false)
      (hes : es = [.returned a.call (.error e)] ∨ es = [.revokeFailed a.call e]) :
      SealStep s a (s.finish a.call) es
  /-- An operation fails in its first segment. -/
  | rejected {a : SealAction} {e : SignetError} {es : List SealEvent}
      (hnew : s.calls.get? a.call = none) (hwrites : a.writes = false)
      (hes : es = [.returned a.call (.error e)] ∨ es = [.revokeFailed a.call e]) :
      SealStep s a s es
  /-- `issue` finds nothing new to say and returns the head. -/
  | unchanged {call : Nat} {credentialId chatId : String} {input : SealInput}
      {newSealId : String} {now : Time} {previous : SealEnvelope}
      (hcall : s.calls.get? call = some (.resolving credentialId chatId))
      (hres : s.manager.issueResolved chatId input newSealId now = .ok (.inl previous)) :
      SealStep s (.inputResolved call (.ok input) newSealId now) (s.finish call)
        [.returned call (.ok previous)]
  /-- `issue` has built a seal and calls the signer. -/
  | issueBuilt {call : Nat} {credentialId chatId : String} {input : SealInput}
      {newSealId : String} {now : Time} {pending : PendingSeal}
      (hcall : s.calls.get? call = some (.resolving credentialId chatId))
      (hres : s.manager.issueResolved chatId input newSealId now = .ok (.inr pending)) :
      SealStep s (.inputResolved call (.ok input) newSealId now)
        (s.await call (.signing pending)) []
  /-- `refresh` has built a seal and calls the signer. -/
  | refreshBuilt {call : Nat} {sealId newSealId : String} {now : Time} {pending : PendingSeal}
      (hnew : s.calls.get? call = none)
      (hres : s.manager.refreshStart sealId newSealId now = .ok pending) :
      SealStep s (.refresh call sealId newSealId now) (s.await call (.signing pending)) []
  /-- The seal is signed; the publisher is called. -/
  | publish {call : Nat} {pending : PendingSeal} {signed : Signature}
      (hcall : s.calls.get? call = some (.signing pending)) :
      SealStep s (.signed call (.ok signed)) (s.await call (.publishing pending signed))
        [.publish pending.publishTo (pending.envelope signed)]
  /-- The seal is published; the maps are written. -/
  | recorded {call : Nat} {pending : PendingSeal} {signed : Signature}
      (hcall : s.calls.get? call = some (.publishing pending signed)) :
      SealStep s (.published call (.ok ()))
        { (s.finish call) with manager := s.manager.track pending (pending.envelope signed) }
        [.recorded (pending.envelope signed), .returned call (.ok (pending.envelope signed))]
  | revoke {call : Nat} {sealId newSealId : String} {reason : AgentRevocationReason}
      {now : Time} {pending : PendingRevocation} (hnew : s.calls.get? call = none)
      (hres : s.manager.revokeStart sealId reason newSealId now = .ok pending) :
      SealStep s (.revoke call sealId reason newSealId now)
        (s.await call (.signingRevocation pending)) []
  /-- The revocation is signed; the publisher is called. -/
  | publishRevocation {call : Nat} {pending : PendingRevocation} {signed : Signature}
      (hcall : s.calls.get? call = some (.signingRevocation pending)) :
      SealStep s (.revocationSigned call (.ok signed))
        (s.await call (.publishingRevocation pending))
        [.publishRevocation pending.pair.2 pending.revocation]
  /-- The revocation is published; the pair is marked. -/
  | revoked {call : Nat} {pending : PendingRevocation}
      (hcall : s.calls.get? call = some (.publishingRevocation pending)) :
      SealStep s (.revocationPublished call (.ok ()))
        { (s.finish call) with manager := s.manager.markRevoked pending }
        [.revoked call pending.pair]

/-- `issue` starts by calling the resolver, whatever the state. -/
theorem sealStep_issue_eq_some {s s' : SealState} {call : Nat} {credentialId chatId : String}
    {es : List SealEvent} (h : sealStep s (.issue call credentialId chatId) = some (s', es)) :
    s.calls.get? call = none ∧ s' = s.await call (.resolving credentialId chatId) ∧ es = [] := by
  dsimp only [sealStep] at h
  split at h
  · cases h
  · next hnew =>
    cases h
    exact ⟨OrdMap.get?_eq_none_of_not_has hnew, rfl, rfl⟩

/-- **Inversion of a step.** -/
theorem sealStep_sound {s s' : SealState} {a : SealAction} {es : List SealEvent}
    (h : sealStep s a = some (s', es)) : SealStep s a s' es := by
  cases a with
  -- each action: the calls that cannot be answered are no steps, the other branches are outcomes
  | issue call credentialId chatId =>
    simp only [sealStep] at h
    split at h
    · cases h
    · next hnew => cases h; exact .issue (OrdMap.get?_eq_none_of_not_has hnew)
  | inputResolved call result newSealId now =>
    simp only [sealStep] at h
    split at h
    · next hcall =>
      split at h
      · cases h; exact .failed hcall rfl rfl (.inl rfl)
      · split at h
        · cases h; exact .failed hcall rfl rfl (.inl rfl)
        · next hres => cases h; exact .unchanged hcall hres
        · next hres => cases h; exact .issueBuilt hcall hres
    · cases h
  | refresh call sealId newSealId now =>
    simp only [sealStep] at h
    split at h
    · cases h
    · next hnew =>
      split at h
      · cases h; exact .rejected (OrdMap.get?_eq_none_of_not_has hnew) rfl (.inl rfl)
      · next hres => cases h; exact .refreshBuilt (OrdMap.get?_eq_none_of_not_has hnew) hres
  | signed call result =>
    simp only [sealStep] at h
    split at h
    · next hcall =>
      split at h
      · cases h; exact .failed hcall rfl rfl (.inl rfl)
      · cases h; exact .publish hcall
    · cases h
  | published call result =>
    simp only [sealStep] at h
    split at h
    · next hcall =>
      split at h
      · cases h; exact .failed hcall rfl rfl (.inl rfl)
      · cases h; exact .recorded hcall
    · cases h
  | revoke call sealId reason newSealId now =>
    simp only [sealStep] at h
    split at h
    · cases h
    · next hnew =>
      split at h
      · cases h; exact .rejected (OrdMap.get?_eq_none_of_not_has hnew) rfl (.inr rfl)
      · next hres => cases h; exact .revoke (OrdMap.get?_eq_none_of_not_has hnew) hres
  | revocationSigned call result =>
    simp only [sealStep] at h
    split at h
    · next hcall =>
      split at h
      · cases h; exact .failed hcall rfl rfl (.inr rfl)
      · cases h; exact .publishRevocation hcall
    · cases h
  | revocationPublished call result =>
    simp only [sealStep] at h
    split at h
    · next hcall =>
      split at h
      · cases h; exact .failed hcall rfl rfl (.inr rfl)
      · cases h; exact .revoked hcall
    · cases h

/-! ### Frames -/

theorem SealStep.calls_frame {s s' : SealState} {a : SealAction} {es : List SealEvent}
    (h : SealStep s a s' es) {c : Nat} (hc : c ≠ a.call) :
    s'.calls.get? c = s.calls.get? c := by
  cases h with
  | failed | unchanged | recorded | revoked => exact OrdMap.get?_erase_of_ne _ hc
  | rejected => rfl
  | issue | issueBuilt | refreshBuilt | publish | revoke | publishRevocation =>
    exact OrdMap.get?_set_of_ne _ _ hc

/-- Seal actions that do not pass through the resolver. -/
def SealAction.isDirect : SealAction → Bool
  | .issue .. => false
  | .inputResolved .. => false
  | _ => true

/-- A call that waits for the resolver is left alone by every other action. -/
theorem SealStep.resolving_kept {s s' : SealState} {a : SealAction} {es : List SealEvent}
    (h : SealStep s a s' es) (hdirect : a.isDirect = true) {c : Nat} {credentialId chatId : String}
    (hcall : s.calls.get? c = some (.resolving credentialId chatId)) :
    s'.calls.get? c = some (.resolving credentialId chatId) := by
  by_cases hc : c = a.call
  · -- the action would have to resume this very call
    subst hc
    cases h with
    | failed hphase hresumes =>
      rw [hcall] at hphase
      cases hphase
      cases a <;> cases hresumes
      cases hdirect
    | rejected hnew => rw [hcall] at hnew; cases hnew
    | issue => cases hdirect
    | unchanged => cases hdirect
    | issueBuilt => cases hdirect
    | refreshBuilt hnew | revoke hnew => rw [SealAction.call, hnew] at hcall; cases hcall
    | publish hphase | recorded hphase | publishRevocation hphase | revoked hphase =>
      rw [SealAction.call, hphase] at hcall
      cases hcall
  -- another call keeps its place
  · rw [h.calls_frame hc]
    exact hcall

end Signet
