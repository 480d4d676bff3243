import Signet.Cli.InviteAcceptance

/-!
# Steps of the invite listener

A message is marked in flight, by its id and by the key of its request, in the segment that checks
the marks, and the marks of what has been processed are set before those are released. A step is
described here by what it does to the marks, to the calls that hold a request and to the timers
that release a key.

* `InviteFresh`: calls and timers have new handles.
* `DedupStep`, `dedupStep_sound`: what a step does.
* `OnlyClears`: what is left after the end of the listener.
-/

namespace Signet

open Lib

/-! ### Calls that hold a request -/

/-- The message that the call has marked in flight; `true` while its dispatch runs. -/
def InviteCall.held : InviteCall → Option (RawMessageEvent × Bool)
  | scanning _ _ | recovering _ => none
  | dispatching event _ => some (event, true)
  | notifying event _ => some (event, false)

namespace InviteListenerState

/-- What a call holds. -/
def held (s : InviteListenerState) (call : Nat) : Option (RawMessageEvent × Bool) :=
  (s.calls.get? call).bind (·.held)

/-- The timer will release the key. -/
def KeyTimer (s : InviteListenerState) (timer : Nat) (key : String) (due : Time) : Prop :=
  s.timers.get? timer = some ⟨due, .releaseInviteKey key⟩

variable {s s' : InviteListenerState} {call : Nat}

theorem held_of_get? {phase : InviteCall} (h : s.calls.get? call = some phase) :
    s.held call = phase.held := by
  unfold held
  rw [h, Option.bind_some]

/-- A write of one call. -/
theorem held_set {phase : InviteCall} (hcalls : s'.calls = s.calls.set call phase) (call' : Nat) :
    s'.held call' = if call' = call then phase.held else s.held call' := by
  unfold held
  rw [hcalls, OrdMap.get?_set]
  split
  · rfl
  · rfl

theorem held_erase (hcalls : s'.calls = s.calls.erase call) (call' : Nat) :
    s'.held call' = if call' = call then none else s.held call' := by
  unfold held
  rw [hcalls, OrdMap.get?_erase]
  split
  · rfl
  · rfl

/-- Back in the recovery, or over, the call holds nothing. -/
theorem held_returnTo (recovery : Option InviteRecovery) (call' : Nat) :
    (s.returnTo call recovery).held call' = if call' = call then none else s.held call' := by
  cases recovery with
  | none => exact @held_erase s (s.returnTo call none) call rfl call'
  | some recovery => exact @held_set s (s.returnTo call (some recovery)) call _ rfl call'

theorem markAccepted_started (cfg : InviteListenerConfig) (messageId : String)
    (requestKey : Option String) :
    (s.markAccepted cfg messageId requestKey).started = s.started := by
  cases requestKey with
  | none => rfl
  | some key => rfl

end InviteListenerState

/-- The marks and the timers that release a key are the same. -/
structure SameMarks (s s' : InviteListenerState) : Prop where
  now : s'.now = s.now
  processed : s'.processed = s.processed
  inflightMessageIds : s'.inflightMessageIds = s.inflightMessageIds
  inflightInviteKeys : s'.inflightInviteKeys = s.inflightInviteKeys
  keyTimers : s'.processedInviteKeyTimers = s.processedInviteKeyTimers
  timers : ∀ timer key due, s'.KeyTimer timer key due ↔ s.KeyTimer timer key due

theorem SameMarks.refl (s : InviteListenerState) : SameMarks s s :=
  ⟨rfl, rfl, rfl, rfl, rfl, fun _ _ _ => Iff.rfl⟩

/-- A step, as to marks and held requests. -/
inductive DedupStep (cfg : InviteListenerConfig) (s : InviteListenerState) :
    InviteListenerState → List InviteAccepted → Prop
  | ticked {now : Time} (hnow : s.now ≤ now) : DedupStep cfg s { s with now := now } []
  | quiet {s' : InviteListenerState} (hmarks : SameMarks s s')
      (hheld : ∀ call, s'.held call = s.held call) : DedupStep cfg s s' []
  | began {s' : InviteListenerState} {call : Nat} {event : RawMessageEvent}
      (hfree : s.held call = none)
      (hprocessed : s.processed.isProcessed event.messageId
        (cfg.onboardingScheme.resolveInviteRequestKey event) = false)
      (hinflight : s.isInflight event.messageId
        (cfg.onboardingScheme.resolveInviteRequestKey event) = false)
      (hmarks : SameMarks (s.markInflight event.messageId
        (cfg.onboardingScheme.resolveInviteRequestKey event)) s')
      (hheld : ∀ call', s'.held call' = if call' = call then some (event, true) else s.held call') :
      DedupStep cfg s s' []
  | accepted {s' : InviteListenerState} {call : Nat} {event : RawMessageEvent}
      (hcall : s.held call = some (event, true))
      (hmarks : SameMarks (s.markAccepted cfg event.messageId
        (cfg.onboardingScheme.resolveInviteRequestKey event)) s')
      (hheld : ∀ call', s'.held call' =
        if call' = call then some (event, false) else s.held call') :
      DedupStep cfg s s'
        [⟨event.messageId, cfg.onboardingScheme.resolveInviteRequestKey event, s.now⟩]
  /-- A dispatch ends without a join. -/
  | rejected {s' : InviteListenerState} {call : Nat} {event : RawMessageEvent}
      (hcall : s.held call = some (event, true)) (hmarks : SameMarks s s')
      (hheld : ∀ call', s'.held call' =
        if call' = call then some (event, false) else s.held call') :
      DedupStep cfg s s' []
  | released {s' : InviteListenerState} {call : Nat} {event : RawMessageEvent} {dispatching : Bool}
      (hcall : s.held call = some (event, dispatching))
      (hmarks : SameMarks (s.releaseInflight event.messageId
        (cfg.onboardingScheme.resolveInviteRequestKey event)) s')
      (hheld : ∀ call', s'.held call' = if call' = call then none else s.held call') :
      DedupStep cfg s s' []
  | expired {timer : Nat} {key : String} {due : Time} (htimer : s.KeyTimer timer key due)
      (hdue : due ≤ s.now) :
      DedupStep cfg s ({ s with timers := s.timers.erase timer }.runTask (.releaseInviteKey key)) []
  | stopped : DedupStep cfg s s.stop []

/-! ### Handles are new -/

/-- Calls and timers have been given out before. -/
structure InviteFresh (s : InviteListenerState) : Prop where
  calls : s.calls.Forall fun call _ => call < s.started
  timers : s.timers.Forall fun timer _ => timer < s.timersSet

namespace InviteFresh

variable {cfg : InviteListenerConfig} {s : InviteListenerState} {call : Nat}

/-- The next timer is not set. -/
theorem timer_none (h : InviteFresh s) : s.timers.get? s.timersSet = none := by
  cases hget : s.timers.get? s.timersSet with
  | none => rfl
  | some set => exact absurd (h.timers.of_get? hget) (lt_irrefl _)

theorem call_none (h : InviteFresh s) : s.held s.started = none := by
  unfold InviteListenerState.held
  cases hget : s.calls.get? s.started with
  | none => rfl
  | some phase => exact absurd (h.calls.of_get? hget) (lt_irrefl _)

theorem start (h : InviteFresh s) (phase : InviteCall) : InviteFresh (s.start phase) where
  calls := (h.calls.imp Nat.lt_succ_of_lt).set (Nat.lt_succ_self _)
  timers := h.timers

theorem setTimeout (h : InviteFresh s) (ms : Rat) (task : InviteTask) :
    InviteFresh (s.setTimeout ms task) where
  calls := h.calls
  timers := (h.timers.imp Nat.lt_succ_of_lt).set (Nat.lt_succ_self _)

theorem returnTo (h : InviteFresh s) (hcall : call < s.started)
    (recovery : Option InviteRecovery) : InviteFresh (s.returnTo call recovery) := by
  cases recovery with
  | none => exact ⟨h.calls.erase call, h.timers⟩
  | some recovery => exact ⟨h.calls.set hcall, h.timers⟩

theorem processInviteCandidate (h : InviteFresh s) (hcall : call < s.started)
    (event : RawMessageEvent) (recovery : Option InviteRecovery) :
    InviteFresh (s.processInviteCandidate cfg call event recovery) := by
  unfold InviteListenerState.processInviteCandidate
  dsimp only
  split
  · exact h.returnTo hcall recovery
  · split
    · exact h.returnTo hcall recovery
    · exact ⟨h.calls.set hcall, h.timers⟩

theorem clearProcessedInviteKeyTimer (h : InviteFresh s) (key : String) :
    InviteFresh (s.clearProcessedInviteKeyTimer key) where
  calls := h.calls
  timers := by
    unfold InviteListenerState.clearProcessedInviteKeyTimer
    cases s.processedInviteKeyTimers.get? key with
    | none => exact h.timers
    | some timer => exact h.timers.erase timer

theorem clearRecoveryRetryTimer (h : InviteFresh s) (dmId : String) :
    InviteFresh (s.clearRecoveryRetryTimer dmId) where
  calls := h.calls
  timers := by
    unfold InviteListenerState.clearRecoveryRetryTimer
    cases s.recoveryRetryTimers.get? dmId with
    | none => exact h.timers
    | some timer => exact h.timers.erase timer

theorem markAccepted (h : InviteFresh s) (messageId : String) (requestKey : Option String) :
    InviteFresh (s.markAccepted cfg messageId requestKey) := by
  cases requestKey with
  | none => exact ⟨h.calls, h.timers⟩
  | some key =>
    have hmarked : InviteFresh { s with
        processed := ⟨s.processed.processedMessageIds.set messageId (),
          s.processed.processedInviteKeys.set key ()⟩ } := ⟨h.calls, h.timers⟩
    have hset := (hmarked.clearProcessedInviteKeyTimer key).setTimeout cfg.ttlMs
      (.releaseInviteKey key)
    exact ⟨hset.calls, hset.timers⟩

theorem continueRecovery (h : InviteFresh s) (hcall : call < s.started)
    (recovery : InviteRecovery) : InviteFresh (s.continueRecovery cfg call recovery) := by
  unfold InviteListenerState.continueRecovery
  split
  · unfold InviteListenerState.finishRecovery
    have hdone : InviteFresh { s with calls := s.calls.erase call } :=
      ⟨h.calls.erase call, h.timers⟩
    dsimp only
    split
    · exact hdone
    · have hset := hdone.setTimeout dmRecoveryRetryDelayMs
        (.retryRecovery recovery.dmId (recovery.retryCount + 1))
      exact ⟨hset.calls, hset.timers⟩
  · exact h.processInviteCandidate hcall _ _

theorem stop (h : InviteFresh s) : InviteFresh s.stop := by
  unfold InviteListenerState.stop
  have hretries : ∀ (dmIds : List String) (t : InviteListenerState), InviteFresh t →
      InviteFresh (dmIds.foldl InviteListenerState.clearRecoveryRetryTimer t) := by
    intro dmIds
    induction dmIds with
    | nil => exact fun _ ht => ht
    | cons dmId dmIds ih => exact fun t ht => ih _ (ht.clearRecoveryRetryTimer dmId)
  have hkeys : ∀ (keys : List String) (t : InviteListenerState), InviteFresh t →
      InviteFresh (keys.foldl InviteListenerState.clearProcessedInviteKeyTimer t) := by
    intro keys
    induction keys with
    | nil => exact fun _ ht => ht
    | cons key keys ih => exact fun t ht => ih _ (ht.clearProcessedInviteKeyTimer key)
  have hretried := hretries s.recoveryRetryTimers.keys s h
  dsimp only
  generalize s.recoveryRetryTimers.keys.foldl InviteListenerState.clearRecoveryRetryTimer s =
    retried at hretried ⊢
  have hcleared := hkeys retried.processedInviteKeyTimers.keys retried hretried
  exact ⟨hcleared.calls, hcleared.timers⟩

theorem step (h : InviteFresh s) {a : InviteAction} {s' : InviteListenerState}
    {es : List InviteAccepted} (hstep : s.step cfg a = some (s', es)) : InviteFresh s' := by
  cases a with
  | tick now =>
    obtain ⟨-, heq⟩ := Option.ite_none_right_eq_some.1 hstep
    cases heq
    exact ⟨h.calls, h.timers⟩
  | event event =>
    obtain ⟨-, heq⟩ := Option.ite_none_right_eq_some.1 hstep
    cases heq
    cases event with
    | message event =>
      unfold InviteListenerState.handleEvent
      dsimp only
      split
      · have hnext : InviteFresh { s with started := s.started + 1 } :=
          ⟨h.calls.imp Nat.lt_succ_of_lt, h.timers⟩
        exact hnext.processInviteCandidate (Nat.lt_succ_self _) event none
      · exact h
    | dmJoined dmId => exact h.start _
    | other => exact h
  | scanned call result =>
    unfold InviteListenerState.step at hstep
    dsimp only at hstep
    split at hstep
    · next hget =>
      cases hstep
      cases result with
      | none => exact ⟨h.calls.erase call, h.timers⟩
      | some found => exact h.continueRecovery (h.calls.of_get? hget) _
    · cases hstep
  | resume call =>
    unfold InviteListenerState.step at hstep
    dsimp only at hstep
    split at hstep
    · next hget =>
      cases hstep
      exact h.continueRecovery (h.calls.of_get? hget) _
    · cases hstep
  | dispatched call outcome =>
    unfold InviteListenerState.step at hstep
    dsimp only at hstep
    split at hstep
    · next event recovery hget =>
      have hcall := h.calls.of_get? hget
      have hreleased : InviteFresh (s.releaseInflight event.messageId
          (cfg.onboardingScheme.resolveInviteRequestKey event)) := ⟨h.calls, h.timers⟩
      unfold InviteListenerState.settleDispatch at hstep
      split at hstep
      · cases hstep
        exact hreleased.returnTo hcall _
      · cases hstep
        have hmarked := @markAccepted cfg s h event.messageId
          (cfg.onboardingScheme.resolveInviteRequestKey event)
        have hcalls : (s.calls.set call (.notifying event recovery)).Forall fun call' _ =>
            call' < (s.markAccepted cfg event.messageId
              (cfg.onboardingScheme.resolveInviteRequestKey event)).started := by
          rw [InviteListenerState.markAccepted_started]
          exact h.calls.set hcall
        exact ⟨hcalls, hmarked.timers⟩
      · cases hstep
        exact ⟨h.calls.set hcall, h.timers⟩
      · cases hstep
        exact hreleased.returnTo hcall _
      · cases hstep
        exact hreleased.returnTo hcall none
    · cases hstep
  | notified call =>
    unfold InviteListenerState.step at hstep
    dsimp only at hstep
    split at hstep
    · next event recovery hget =>
      cases hstep
      have hreleased : InviteFresh (s.releaseInflight event.messageId
          (cfg.onboardingScheme.resolveInviteRequestKey event)) := ⟨h.calls, h.timers⟩
      exact hreleased.returnTo (h.calls.of_get? hget) recovery
    · cases hstep
  | fire timer =>
    unfold InviteListenerState.step at hstep
    dsimp only at hstep
    split at hstep
    · next set hget =>
      obtain ⟨-, heq⟩ := Option.ite_none_right_eq_some.1 hstep
      cases heq
      have herased : InviteFresh { s with timers := s.timers.erase timer } :=
        ⟨h.calls, h.timers.erase timer⟩
      cases set.task with
      | retryRecovery dmId retryCount =>
        have hretry : InviteFresh { s with
            timers := s.timers.erase timer
            recoveryRetryTimers := s.recoveryRetryTimers.erase dmId } :=
          ⟨herased.calls, herased.timers⟩
        exact hretry.start _
      | releaseInviteKey key => exact ⟨herased.calls, herased.timers⟩
    · cases hstep
  | stop =>
    cases hstep
    exact h.stop

end InviteFresh

/-! ### What a step does -/

section Sound

variable {cfg : InviteListenerConfig} {s : InviteListenerState} {call : Nat}

/-- A call that holds nothing returns to its recovery, or is over. -/
theorem dedupStep_returnTo (hfree : s.held call = none) (started : Nat)
    (recovery : Option InviteRecovery) :
    DedupStep cfg s ({ s with started := started }.returnTo call recovery) [] := by
  have hmarks : SameMarks s ({ s with started := started }.returnTo call recovery) := by
    cases recovery with
    | none => exact ⟨rfl, rfl, rfl, rfl, rfl, fun _ _ _ => Iff.rfl⟩
    | some recovery => exact ⟨rfl, rfl, rfl, rfl, rfl, fun _ _ _ => Iff.rfl⟩
  refine .quiet hmarks fun call' => ?_
  rw [InviteListenerState.held_returnTo]
  split
  · next heq => rw [heq, hfree]
  · rfl

theorem dedupStep_candidate (hfree : s.held call = none) (started : Nat)
    (event : RawMessageEvent) (recovery : Option InviteRecovery) :
    DedupStep cfg s
      ({ s with started := started }.processInviteCandidate cfg call event recovery) [] := by
  unfold InviteListenerState.processInviteCandidate
  dsimp only
  split
  · exact dedupStep_returnTo hfree started recovery
  · next hprocessed =>
    split
    · exact dedupStep_returnTo hfree started recovery
    · next hinflight =>
      refine .began hfree (Bool.eq_false_iff.2 hprocessed) (Bool.eq_false_iff.2 hinflight)
        ⟨rfl, rfl, rfl, rfl, rfl, fun _ _ _ => Iff.rfl⟩ fun call' => ?_
      exact @InviteListenerState.held_set s _ call (.dispatching event recovery) (by rfl) call'

theorem dedupStep_start (hfresh : InviteFresh s) {phase : InviteCall} (hphase : phase.held = none) :
    DedupStep cfg s (s.start phase) [] := by
  refine .quiet ⟨rfl, rfl, rfl, rfl, rfl, fun _ _ _ => Iff.rfl⟩ fun call' => ?_
  rw [InviteListenerState.held_set (s := s) rfl, hphase]
  split
  · next heq => rw [heq, hfresh.call_none]
  · rfl

theorem dedupStep_continue (hfresh : InviteFresh s) (hfree : s.held call = none)
    (recovery : InviteRecovery) :
    DedupStep cfg s (s.continueRecovery cfg call recovery) [] := by
  unfold InviteListenerState.continueRecovery
  split
  · have hheld : ∀ call',
        ({ s with calls := s.calls.erase call } : InviteListenerState).held call' =
          s.held call' := by
      intro call'
      rw [InviteListenerState.held_erase (s := s) rfl]
      split
      · next heq => rw [heq, hfree]
      · rfl
    unfold InviteListenerState.finishRecovery
    dsimp only
    split
    · exact .quiet ⟨rfl, rfl, rfl, rfl, rfl, fun _ _ _ => Iff.rfl⟩ hheld
    · refine .quiet ⟨rfl, rfl, rfl, rfl, rfl, fun timer key due => ?_⟩ hheld
      -- the new timer releases no key, and it takes no handle that is in use
      show (s.timers.set s.timersSet _).get? timer = _ ↔ s.timers.get? timer = _
      rw [OrdMap.get?_set]
      split
      · next heq =>
        rw [heq, hfresh.timer_none]
        exact iff_of_false (fun h => by cases h) (fun h => by cases h)
      · exact Iff.rfl
  · exact dedupStep_candidate hfree s.started _ _

theorem dedupStep_release {event : RawMessageEvent} {dispatching : Bool}
    (hcall : s.held call = some (event, dispatching)) (recovery : Option InviteRecovery) :
    DedupStep cfg s ((s.releaseInflight event.messageId
      (cfg.onboardingScheme.resolveInviteRequestKey event)).returnTo call recovery) [] := by
  refine .released hcall ?_ fun call' => ?_
  · cases recovery with
    | none => exact ⟨rfl, rfl, rfl, rfl, rfl, fun _ _ _ => Iff.rfl⟩
    | some recovery => exact ⟨rfl, rfl, rfl, rfl, rfl, fun _ _ _ => Iff.rfl⟩
  · rw [InviteListenerState.held_returnTo]
    rfl

theorem dedupStep_settle {event : RawMessageEvent} {recovery : Option InviteRecovery}
    (hget : s.calls.get? call = some (.dispatching event recovery))
    (outcome : InviteDispatchOutcome) :
    DedupStep cfg s (s.settleDispatch cfg call event recovery outcome).1
      (s.settleDispatch cfg call event recovery outcome).2 := by
  have hcall : s.held call = some (event, true) := InviteListenerState.held_of_get? hget
  unfold InviteListenerState.settleDispatch
  split
  · exact dedupStep_release hcall _
  · refine .accepted hcall ⟨rfl, rfl, rfl, rfl, rfl, fun _ _ _ => Iff.rfl⟩ fun call' => ?_
    exact @InviteListenerState.held_set s _ call (.notifying event recovery) (by rfl) call'
  · refine .rejected hcall ⟨rfl, rfl, rfl, rfl, rfl, fun _ _ _ => Iff.rfl⟩ fun call' => ?_
    exact @InviteListenerState.held_set s _ call (.notifying event recovery) (by rfl) call'
  · exact dedupStep_release hcall _
  · exact dedupStep_release hcall none

/-- **Every step is one of these.** -/
theorem dedupStep_sound (hfresh : InviteFresh s) {a : InviteAction} {s' : InviteListenerState}
    {es : List InviteAccepted} (h : s.step cfg a = some (s', es)) : DedupStep cfg s s' es := by
  have hsame : ∀ {s' : InviteListenerState}, SameMarks s s' → s'.calls = s.calls →
      DedupStep cfg s s' [] := by
    intro s' hmarks hcalls
    refine .quiet hmarks fun call => ?_
    unfold InviteListenerState.held
    rw [hcalls]
  cases a with
  | tick now =>
    obtain ⟨hnow, heq⟩ := Option.ite_none_right_eq_some.1 h
    cases heq
    exact .ticked hnow
  | event event =>
    obtain ⟨-, heq⟩ := Option.ite_none_right_eq_some.1 h
    cases heq
    cases event with
    | message event =>
      unfold InviteListenerState.handleEvent
      dsimp only
      split
      · exact dedupStep_candidate hfresh.call_none (s.started + 1) event none
      · exact hsame (.refl s) rfl
    | dmJoined dmId => exact dedupStep_start hfresh rfl
    | other => exact hsame (.refl s) rfl
  | scanned call result =>
    unfold InviteListenerState.step at h
    dsimp only at h
    split at h
    · next hget =>
      have hfree : s.held call = none := InviteListenerState.held_of_get? hget
      cases h
      cases result with
      | none => exact dedupStep_returnTo hfree s.started none
      | some found => exact dedupStep_continue hfresh hfree _
    · cases h
  | resume call =>
    unfold InviteListenerState.step at h
    dsimp only at h
    split at h
    · next recovery hget =>
      cases h
      exact dedupStep_continue hfresh (InviteListenerState.held_of_get? hget) recovery
    · cases h
  | dispatched call outcome =>
    unfold InviteListenerState.step at h
    dsimp only at h
    split at h
    · next event recovery hget =>
      have hsettle := @dedupStep_settle cfg s call event recovery hget outcome
      rw [Option.some.inj h] at hsettle
      exact hsettle
    · cases h
  | notified call =>
    unfold InviteListenerState.step at h
    dsimp only at h
    split at h
    · next event recovery hget =>
      cases h
      exact dedupStep_release (InviteListenerState.held_of_get? hget) recovery
    · cases h
  | fire timer =>
    unfold InviteListenerState.step at h
    dsimp only at h
    split at h
    · next set hget =>
      obtain ⟨hdue, heq⟩ := Option.ite_none_right_eq_some.1 h
      obtain ⟨due, task⟩ := set
      cases heq
      cases task with
      | releaseInviteKey key => exact .expired hget hdue
      | retryRecovery dmId retryCount =>
        refine .quiet ⟨rfl, rfl, rfl, rfl, rfl, fun timer' key due' => ?_⟩ fun call' => ?_
        · show (s.timers.erase timer).get? timer' = _ ↔ s.timers.get? timer' = _
          rw [OrdMap.get?_erase]
          split
          · next heq =>
            -- the timer that has fired is no timer of a key
            rw [heq, hget]
            exact iff_of_false (fun h => by cases h) (fun h => by cases h)
          · exact Iff.rfl
        · refine (@InviteListenerState.held_set s _ s.started (.scanning dmId retryCount) (by rfl)
            call').trans ?_
          split
          · next heq => rw [heq, hfresh.call_none]; rfl
          · rfl
    · cases h
  | stop =>
    cases h
    exact .stopped

end Sound

/-! ### The end of the listener -/

/-- Timers have been cleared, and nothing else. -/
structure OnlyClears (s s' : InviteListenerState) : Prop where
  now : s'.now = s.now
  processed : s'.processed = s.processed
  inflightMessageIds : s'.inflightMessageIds = s.inflightMessageIds
  inflightInviteKeys : s'.inflightInviteKeys = s.inflightInviteKeys
  calls : s'.calls = s.calls
  timers : ∀ timer set, s'.timers.get? timer = some set → s.timers.get? timer = some set

namespace OnlyClears

variable {s s' s'' : InviteListenerState}

theorem refl (s : InviteListenerState) : OnlyClears s s :=
  ⟨rfl, rfl, rfl, rfl, rfl, fun _ _ h => h⟩

theorem trans (h : OnlyClears s s') (h' : OnlyClears s' s'') : OnlyClears s s'' where
  now := h'.now.trans h.now
  processed := h'.processed.trans h.processed
  inflightMessageIds := h'.inflightMessageIds.trans h.inflightMessageIds
  inflightInviteKeys := h'.inflightInviteKeys.trans h.inflightInviteKeys
  calls := h'.calls.trans h.calls
  timers timer set hget := h.timers timer set (h'.timers timer set hget)

/-- A handle, or none, is erased. -/
theorem timers_elim {timers : OrdMap Nat InviteTimer} {handle : Option Nat} (timer : Nat)
    (set : InviteTimer) (h : (handle.elim timers timers.erase).get? timer = some set) :
    timers.get? timer = some set := by
  cases handle with
  | none => exact h
  | some handle => exact (OrdMap.get?_erase_eq_some h).2

theorem retryTimer (s : InviteListenerState) (dmId : String) :
    OnlyClears s (s.clearRecoveryRetryTimer dmId) :=
  ⟨rfl, rfl, rfl, rfl, rfl, timers_elim⟩

theorem keyTimer (s : InviteListenerState) (key : String) :
    OnlyClears s (s.clearProcessedInviteKeyTimer key) :=
  ⟨rfl, rfl, rfl, rfl, rfl, timers_elim⟩

theorem retryTimers (dmIds : List String) (s : InviteListenerState) :
    OnlyClears s (dmIds.foldl InviteListenerState.clearRecoveryRetryTimer s) ∧
      (dmIds.foldl InviteListenerState.clearRecoveryRetryTimer s).processedInviteKeyTimers =
        s.processedInviteKeyTimers := by
  induction dmIds generalizing s with
  | nil => exact ⟨refl s, rfl⟩
  | cons dmId dmIds ih =>
    obtain ⟨hclears, hkept⟩ := ih (s.clearRecoveryRetryTimer dmId)
    exact ⟨(retryTimer s dmId).trans hclears, hkept⟩

theorem keyTimers (keys : List String) (s : InviteListenerState) :
    OnlyClears s (keys.foldl InviteListenerState.clearProcessedInviteKeyTimer s) ∧
      ∀ key ∈ keys, ∀ timer, s.processedInviteKeyTimers.get? key = some timer →
        (keys.foldl InviteListenerState.clearProcessedInviteKeyTimer s).timers.get? timer =
          none := by
  induction keys generalizing s with
  | nil => exact ⟨refl s, fun _ h => absurd h List.not_mem_nil⟩
  | cons first keys ih =>
    obtain ⟨hclears, hnone⟩ := ih (s.clearProcessedInviteKeyTimer first)
    refine ⟨(keyTimer s first).trans hclears, fun key hmem timer hget => ?_⟩
    by_cases hfirst : key = first
    · -- it is cleared now, and no timer is set later
      have herased : (s.clearProcessedInviteKeyTimer first).timers.get? timer = none := by
        show ((s.processedInviteKeyTimers.get? first).elim s.timers s.timers.erase).get? timer =
          none
        rw [← hfirst, hget]
        exact OrdMap.get?_erase_self s.timers timer
      rw [List.foldl_cons]
      cases hlater : (keys.foldl InviteListenerState.clearProcessedInviteKeyTimer
          (s.clearProcessedInviteKeyTimer first)).timers.get? timer with
      | none => rfl
      | some set =>
        rw [hclears.timers timer set hlater] at herased
        cases herased
    · refine hnone key ((List.mem_cons.1 hmem).resolve_left hfirst) timer ?_
      show (s.processedInviteKeyTimers.erase first).get? key = some timer
      rw [OrdMap.get?_erase_of_ne _ hfirst]
      exact hget

/-- After `stop` no key is going to be released. -/
theorem stop (hkeys : ∀ timer key due, s.KeyTimer timer key due →
      s.processedInviteKeyTimers.get? key = some timer) :
    OnlyClears s s.stop ∧ ∀ timer key due, ¬ s.stop.KeyTimer timer key due := by
  obtain ⟨hretries, hsame⟩ := retryTimers s.recoveryRetryTimers.keys s
  unfold InviteListenerState.stop
  dsimp only
  generalize s.recoveryRetryTimers.keys.foldl InviteListenerState.clearRecoveryRetryTimer s =
    retried at hretries hsame ⊢
  obtain ⟨hclears, hnone⟩ := keyTimers retried.processedInviteKeyTimers.keys retried
  have hall := hretries.trans hclears
  refine ⟨⟨hall.now, hall.processed, hall.inflightMessageIds, hall.inflightInviteKeys, hall.calls,
    hall.timers⟩, fun timer key due htimer => ?_⟩
  -- the timer was in the map, so it has been cleared
  have hmap : retried.processedInviteKeyTimers.get? key = some timer := by
    rw [hsame]
    exact hkeys timer key due (hall.timers timer _ htimer)
  have hmem : key ∈ retried.processedInviteKeyTimers.keys := by
    rw [OrdMap.mem_keys_iff, OrdMap.has_eq_true_iff]
    exact ⟨timer, hmap⟩
  have hcleared := hnone key hmem timer hmap
  replace htimer : _ = some _ := htimer
  rw [hcleared] at htimer
  cases htimer

end OnlyClears

end Signet
