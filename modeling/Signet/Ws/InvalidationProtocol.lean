import Signet.Ws.TransportCalls

/-!
# The invalidation protocol

Overlapping calls of `invalidateCredential` share one entry of `pendingInvalidations`, which
counts them, remembers the generation of the latest one and queues broadcasts. Over every
schedule of lookups, answers and broadcasts (`ProtocolInv`): the entry is there as long as a
call is in flight and counts the calls; what is queued is handed out in the order of the
broadcasts, once no call is in flight (`HandedWhenIdle`); and a record written by an invalidation
is the answer to the latest one (`CachedByLatest`).

A step that is quiet, or is about another credential, leaves the protocol alone
(`ProtocolInv.untouched`); the three that are not have a lemma each.
-/

namespace Signet.Ws

open Lib

/-! ### What the protocol is about -/

def TransportCall.invalidates (credentialId : String) : TransportCall → Bool
  | invalidating credentialId' _ => credentialId' = credentialId
  | _ => false

namespace TransportState

variable (s : TransportState)

/-- The number of invalidations of a credential that await their lookup. -/
def invalidationsInFlight (credentialId : String) : Nat :=
  s.calls.values.countP (·.invalidates credentialId)

/-- The broadcasts that wait for the invalidations of a credential. -/
def queued (credentialId : String) : List Broadcast :=
  ((s.pendingInvalidations.get? credentialId).map (·.events)).getD []

end TransportState

/-- The broadcasts for a credential, in the order of the calls. -/
def broadcasted (credentialId : String) (tr : List TransportEvent) : List Broadcast :=
  tr.filterMap fun
    | .broadcasted credentialId' b => if credentialId' = credentialId then some b else none
    | _ => none

/-- The broadcasts that have been handed to the connections of a credential. -/
def handedOut (credentialId : String) (tr : List TransportEvent) : List Broadcast :=
  tr.filterMap fun
    | .handed credentialId' b _ => if credentialId' = credentialId then some b else none
    | _ => none

section Projections

variable {c : String} {tr es : List TransportEvent} {ns : List NetEvent}

theorem broadcasted_append : broadcasted c (tr ++ es) = broadcasted c tr ++ broadcasted c es :=
  List.filterMap_append

theorem handedOut_append : handedOut c (tr ++ es) = handedOut c tr ++ handedOut c es :=
  List.filterMap_append

@[simp] theorem broadcasted_map_net : broadcasted c (ns.map .net) = [] := by
  refine List.filterMap_eq_nil_iff.2 fun e he => ?_
  obtain ⟨n, -, rfl⟩ := List.mem_map.1 he
  rfl

@[simp] theorem handedOut_map_net : handedOut c (ns.map .net) = [] := by
  refine List.filterMap_eq_nil_iff.2 fun e he => ?_
  obtain ⟨n, -, rfl⟩ := List.mem_map.1 he
  rfl

end Projections

/-! ### The calls of the invalidations -/

section Calls

variable {cfg : TransportConfig} {s : TransportState} {a : TransportAction}
  {r : TransportState × List TransportEvent} {c : String}

/-- A quiet step answers no invalidation. -/
theorem not_answered_of_quiet (h : transportStep cfg s a = some r) (hquiet : IsQuiet s a)
    {call generation : Nat} (hcall : s.calls.get? call = some (.invalidating c generation)) :
    a.answered ≠ some call := by
  intro hanswered
  cases a with
  | looked call' answer project =>
    cases hanswered
    exact hquiet c generation hcall
  | fingerprinted call' fingerprint =>
    cases hanswered
    simp only [transportStep, hcall] at h
    cases h
  | routed call' threw =>
    cases hanswered
    simp only [transportStep, hcall] at h
    cases h
  | _ => cases hanswered

theorem invalidationsInFlight_core (h : CoreStep cfg s a r) (hfresh : s.Fresh) :
    ∃ new : Option TransportCall, (∀ phase, new = some phase → Starts cfg s a phase) ∧
      r.1.invalidationsInFlight c +
          (if (a.answered.bind s.calls.get?).any (·.invalidates c) then 1 else 0) =
        s.invalidationsInFlight c + (if new.any (·.invalidates c) then 1 else 0) := by
  obtain ⟨new, hnew, hcalls, -⟩ := h.calls
  refine ⟨new, hnew, ?_⟩
  have herase : (a.answered.elim s.calls s.calls.erase).values.countP (·.invalidates c) +
      (if (a.answered.bind s.calls.get?).any (·.invalidates c) then 1 else 0) =
      s.invalidationsInFlight c := by
    cases a.answered with
    | none => rfl
    | some call => exact s.calls.countP_values_erase call (·.invalidates c)
  unfold TransportState.invalidationsInFlight at herase ⊢
  rw [hcalls]
  cases new with
  | none => exact herase
  | some phase =>
    have hnone : (a.answered.elim s.calls s.calls.erase).get? s.started = none := by
      have hold : s.calls.get? s.started = none := by
        cases hget : s.calls.get? s.started with
        | none => rfl
        | some phase' => exact absurd (hfresh.of_get? hget) (Nat.lt_irrefl _)
      cases a.answered with
      | none => exact hold
      | some call =>
        show (s.calls.erase call).get? s.started = none
        rw [OrdMap.get?_erase, hold]
        exact ite_self none
    have hset := (a.answered.elim s.calls s.calls.erase).countP_values_set s.started phase
      (·.invalidates c)
    rw [hnone] at hset
    show ((a.answered.elim s.calls s.calls.erase).set s.started phase).values.countP _ + _ =
      _ + if phase.invalidates c then 1 else 0
    have hnot : (if (none : Option TransportCall).any (·.invalidates c) then 1 else 0) = 0 := rfl
    omega

end Calls

/-! ### Steps that leave a credential alone -/

/-- The event is one of the protocol of the credential. -/
def TransportEvent.concerns (c : String) : TransportEvent → Prop
  | net _ => False
  | broadcasted c' _ => c' = c
  | handed c' _ _ => c' = c
  | invalidating c' _ => c' = c
  | invalidated c' _ => c' = c

/-- The step is none of the protocol of the credential. -/
def Elsewhere (c : String) (s : TransportState) : TransportAction → Prop
  | .broadcast c' _ _ => c' ≠ c
  | .invalidate c' => c' ≠ c
  | .looked call _ _ => ∀ generation, s.calls.get? call ≠ some (.invalidating c generation)
  | _ => True

section Elsewhere

variable {cfg : TransportConfig} {s : TransportState} {a : TransportAction}
  {r : TransportState × List TransportEvent} {c : String}

theorem handedOut_of_unconcerned {es : List TransportEvent} (h : ∀ e ∈ es, ¬ e.concerns c) :
    handedOut c es = [] := by
  refine List.filterMap_eq_nil_iff.2 fun e he => ?_
  have hno := h e he
  cases e with
  | handed c' b project => exact if_neg hno
  | _ => rfl

theorem broadcasted_of_unconcerned {es : List TransportEvent} (h : ∀ e ∈ es, ¬ e.concerns c) :
    broadcasted c es = [] := by
  refine List.filterMap_eq_nil_iff.2 fun e he => ?_
  have hno := h e he
  cases e with
  | broadcasted c' b => exact if_neg hno
  | _ => rfl

/-- What is queued for a credential when another one's invalidation ends. -/
theorem releaseInvalidation_pending_of_ne {c' : String} {call : Nat} {project : Projector}
    {s : TransportState} (hne : c' ≠ c) :
    (TransportState.releaseInvalidation c' call project s).1.pendingInvalidations.get? c =
      s.pendingInvalidations.get? c ∧
    (TransportState.releaseInvalidation c' call project s).1.invalidationGen =
      s.invalidationGen := by
  unfold TransportState.releaseInvalidation
  split
  · exact ⟨rfl, rfl⟩
  · next entry _ =>
    split
    · obtain ⟨states, hframe⟩ := @drain_frame
        { s with pendingInvalidations := s.pendingInvalidations.erase c' } c' project
        entry.events (OrdMap.get?_erase_self _ _)
      dsimp only
      rw [hframe]
      exact ⟨OrdMap.get?_erase_of_ne _ hne.symm, rfl⟩
    · exact ⟨OrdMap.get?_set_of_ne _ _ hne.symm, rfl⟩

theorem applyInvalidation_generation {call generation : Nat} {answer : LookupAnswer} {c' : String}
    {s : TransportState} :
    (TransportState.applyInvalidation cfg c' generation call answer s).1.invalidationGen =
      s.invalidationGen := by
  unfold TransportState.applyInvalidation
  split
  · rfl
  · split <;> rfl

/-- **What is elsewhere leaves the credential alone.** -/
theorem elsewhere_step (h : transportStep cfg s a = some r) (hc : Elsewhere c s a) :
    r.1.pendingInvalidations.get? c = s.pendingInvalidations.get? c ∧
      s.invalidationGen ≤ r.1.invalidationGen ∧ ∀ e ∈ r.2, ¬ e.concerns c := by
  have hquiet : IsQuiet s a → r.1.pendingInvalidations.get? c = s.pendingInvalidations.get? c ∧
      s.invalidationGen ≤ r.1.invalidationGen ∧ ∀ e ∈ r.2, ¬ e.concerns c := by
    intro hq
    obtain ⟨hpending, hgeneration, ns, hns⟩ := (transportStep_core h).quiet hq
    refine ⟨by rw [hpending], hgeneration.ge, fun e he => ?_⟩
    rw [hns] at he
    obtain ⟨n, -, rfl⟩ := List.mem_map.1 he
    exact id
  cases a with
  | broadcast c' event project =>
    replace hc : c' ≠ c := hc
    cases h
    cases hpending : s.pendingInvalidations.get? c' with
    | none =>
      have heq := @broadcastToCredential_of_none c' project ⟨s.broadcasts, event⟩
        { s with broadcasts := s.broadcasts + 1 } hpending
      obtain ⟨ns, hevents, -⟩ := @handOut_events c' project ⟨s.broadcasts, event⟩
        { s with broadcasts := s.broadcasts + 1 }
      dsimp only
      rw [heq, hevents]
      refine ⟨rfl, Nat.le_refl _, fun e he => ?_⟩
      rcases List.mem_cons.1 he with rfl | hrest
      · exact hc
      · rcases List.mem_cons.1 hrest with rfl | hnet
        · exact hc
        · obtain ⟨n, -, rfl⟩ := List.mem_map.1 hnet
          exact id
    | some pending =>
      unfold TransportState.broadcastToCredential
      dsimp only
      rw [hpending]
      refine ⟨OrdMap.get?_set_of_ne _ _ hc.symm, Nat.le_refl _, fun e he => ?_⟩
      rw [List.mem_singleton.1 he]
      exact hc
  | invalidate c' =>
    replace hc : c' ≠ c := hc
    cases h
    refine ⟨OrdMap.get?_set_of_ne _ _ hc.symm, Nat.le_succ _, fun e he => ?_⟩
    rw [List.mem_singleton.1 he]
    exact hc
  | looked call answer project =>
    by_cases hq : IsQuiet s (.looked call answer project)
    · exact hquiet hq
    · obtain ⟨c', generation, hcall⟩ : ∃ c' generation,
          s.calls.get? call = some (.invalidating c' generation) := by
        by_contra hnone
        exact hq fun c' generation hcall => hnone ⟨c', generation, hcall⟩
      have hne : c' ≠ c := by
        rintro rfl
        exact hc generation hcall
      simp only [transportStep, lookupStep, hcall] at h
      cases h
      have hpending := @applyInvalidation_pending cfg (s.finish call) call generation answer c'
      have hrelease := @releaseInvalidation_pending_of_ne c c' call project
        (TransportState.applyInvalidation cfg c' generation call answer (s.finish call)).1 hne
      refine ⟨?_, ?_, fun e he => ?_⟩
      · exact hrelease.1.trans (congrArg (OrdMap.get? · c) hpending)
      · have hgeneration := hrelease.2.trans applyInvalidation_generation
        exact hgeneration.ge
      · obtain ⟨ns, out, hevents, hout⟩ :=
          @invalidation_events cfg s call generation c' answer project
        rw [hevents] at he
        rcases List.mem_append.1 he with hnet | hrest
        · obtain ⟨n, -, rfl⟩ := List.mem_map.1 hnet
          exact id
        · rcases List.mem_cons.1 hrest with rfl | hrest
          · exact hne
          · rcases hout e hrest with ⟨_, _, _, _, _, rfl⟩ | ⟨n, rfl, -⟩
            · exact hne
            · exact id
  | _ => exact hquiet trivial

/-- What is elsewhere neither answers nor starts an invalidation of the credential. -/
theorem elsewhere_answered (h : transportStep cfg s a = some r) (hc : Elsewhere c s a)
    {call generation : Nat} (hcall : s.calls.get? call = some (.invalidating c generation)) :
    a.answered ≠ some call := by
  intro hanswered
  cases a with
  | looked call' answer project =>
    cases hanswered
    exact hc generation hcall
  | fingerprinted call' fingerprint => exact not_answered_of_quiet h trivial hcall hanswered
  | routed call' threw => exact not_answered_of_quiet h trivial hcall hanswered
  | _ => cases hanswered

theorem elsewhere_starts {phase : TransportCall} (hc : Elsewhere c s a)
    (h : Starts cfg s a phase) : phase.invalidates c = false := by
  cases h with
  | invalidating => exact decide_eq_false hc
  | _ => rfl

theorem elsewhere_inFlight (h : transportStep cfg s a = some r) (hc : Elsewhere c s a)
    (hfresh : s.Fresh) : r.1.invalidationsInFlight c = s.invalidationsInFlight c := by
  obtain ⟨new, hnew, hcount⟩ := @invalidationsInFlight_core _ _ _ _ c (transportStep_core h) hfresh
  have hanswered : (a.answered.bind s.calls.get?).any (·.invalidates c) = false := by
    cases hanswered : a.answered with
    | none => rfl
    | some call =>
      show (s.calls.get? call).any (·.invalidates c) = false
      cases hcall : s.calls.get? call with
      | none => rfl
      | some phase =>
        show phase.invalidates c = false
        cases phase with
        | invalidating c' generation =>
          refine decide_eq_false ?_
          rintro rfl
          exact elsewhere_answered h hc hcall hanswered
        | _ => rfl
  have hstarted : new.any (·.invalidates c) = false := by
    cases hphase : new with
    | none => rfl
    | some phase => exact elsewhere_starts hc (hnew phase hphase)
  rw [hanswered, hstarted] at hcount
  exact hcount

end Elsewhere

/-! ### The invariant -/

/-- The state of the protocol of a credential after a trace. -/
structure ProtocolInv (c : String) (tr : List TransportEvent) (s : TransportState) : Prop where
  /-- In flight is what has been started and has not ended. -/
  inFlight : ∀ call, (∃ generation, s.calls.get? call = some (.invalidating c generation)) ↔
    .invalidating c call ∈ tr ∧ .invalidated c call ∉ tr
  /-- The number of an invalidation is not the number of another call. -/
  own : ∀ call phase, .invalidating c call ∈ tr → s.calls.get? call = some phase →
    ∃ generation, phase = .invalidating c generation
  started : ∀ call, .invalidating c call ∈ tr → call < s.started
  ended : ∀ call, .invalidated c call ∈ tr → .invalidating c call ∈ tr
  refcount : (s.pendingInvalidations.get? c).map (·.refcount) =
    if s.invalidationsInFlight c = 0 then none else some (s.invalidationsInFlight c)
  order : handedOut c tr ++ s.queued c = broadcasted c tr
  /-- The entry remembers the generation of the latest invalidation. -/
  latest : ∀ entry, s.pendingInvalidations.get? c = some entry →
    entry.generation ≤ s.invalidationGen ∧
      ∀ call generation, s.calls.get? call = some (.invalidating c generation) →
        generation ≤ entry.generation ∧
          (generation = entry.generation → ∀ call', .invalidating c call' ∈ tr → call' ≤ call)

namespace ProtocolInv

variable {cfg : TransportConfig} {s s' : TransportState} {a : TransportAction}
  {tr es : List TransportEvent} {c : String}

theorem initial : ProtocolInv c [] (transportMachine cfg).init where
  inFlight := by
    intro call
    constructor
    · rintro ⟨generation, hcall⟩
      cases hcall
    · rintro ⟨hmem, -⟩
      cases hmem
  own _ _ hmem := by cases hmem
  started _ hmem := by cases hmem
  ended _ hmem := by cases hmem
  refcount := rfl
  order := rfl
  latest _ hentry := by cases hentry

/-- Without an entry no invalidation is in flight, and none that was started is left. -/
theorem idle (h : ProtocolInv c tr s) (hnone : s.pendingInvalidations.get? c = none) :
    s.invalidationsInFlight c = 0 := by
  have hcount := h.refcount
  rw [hnone] at hcount
  by_contra hne
  rw [if_neg hne] at hcount
  cases hcount

theorem counts (h : ProtocolInv c tr s) {entry : PendingInvalidation}
    (hentry : s.pendingInvalidations.get? c = some entry) :
    entry.refcount = s.invalidationsInFlight c ∧ 0 < s.invalidationsInFlight c := by
  have hcount := h.refcount
  rw [hentry] at hcount
  by_cases hzero : s.invalidationsInFlight c = 0
  · rw [if_pos hzero] at hcount
    cases hcount
  · rw [if_neg hzero] at hcount
    exact ⟨Option.some.inj hcount, Nat.pos_of_ne_zero hzero⟩

theorem all_ended (h : ProtocolInv c tr s) (hidle : s.invalidationsInFlight c = 0) {call : Nat}
    (hmem : .invalidating c call ∈ tr) : .invalidated c call ∈ tr := by
  by_contra hnot
  obtain ⟨generation, hcall⟩ := (h.inFlight call).2 ⟨hmem, hnot⟩
  have hpos : 0 < s.invalidationsInFlight c := by
    refine List.countP_pos_iff.2 ⟨_, OrdMap.mem_values_iff.2 ⟨call, hcall⟩, ?_⟩
    exact decide_eq_true rfl
  omega

theorem untouched (h : ProtocolInv c tr s) (hfresh : s.Fresh)
    (hstep : transportStep cfg s a = some (s', es)) (hc : Elsewhere c s a) :
    ProtocolInv c (tr ++ es) s' := by
  have hcore := transportStep_core hstep
  obtain ⟨hpending, hgeneration, hes⟩ := elsewhere_step hstep hc
  have hinvalidating : ∀ {call}, .invalidating c call ∈ tr ++ es ↔ .invalidating c call ∈ tr := by
    intro call
    refine List.mem_append.trans (or_iff_left fun hmem => ?_)
    exact hes _ hmem rfl
  have hinvalidated : ∀ {call}, .invalidated c call ∈ tr ++ es ↔ .invalidated c call ∈ tr := by
    intro call
    refine List.mem_append.trans (or_iff_left fun hmem => ?_)
    exact hes _ hmem rfl
  have hcalls : ∀ {call generation}, s'.calls.get? call = some (.invalidating c generation) ↔
      s.calls.get? call = some (.invalidating c generation) := by
    intro call generation
    constructor
    · intro hcall
      obtain ⟨hold, -⟩ | ⟨-, -, hstarts⟩ := hcore.get?_calls hcall
      · exact hold
      · have hno := elsewhere_starts hc hstarts
        exact absurd rfl (of_decide_eq_false hno)
    · intro hcall
      exact hcore.kept hfresh hcall (elsewhere_answered hstep hc hcall)
  constructor
  · intro call
    rw [hinvalidating, hinvalidated, ← h.inFlight call]
    simp only [hcalls]
  · intro call phase hmem hcall
    rw [hinvalidating] at hmem
    obtain ⟨hold, -⟩ | ⟨rfl, -, -⟩ := hcore.get?_calls hcall
    · exact h.own call phase hmem hold
    · exact absurd (h.started _ hmem) (Nat.lt_irrefl _)
  · intro call hmem
    exact Nat.lt_of_lt_of_le (h.started call (hinvalidating.1 hmem)) hcore.started_le
  · intro call hmem
    exact hinvalidating.2 (h.ended call (hinvalidated.1 hmem))
  · rw [hpending, elsewhere_inFlight hstep hc hfresh]
    exact h.refcount
  · rw [handedOut_append, broadcasted_append, handedOut_of_unconcerned hes,
      broadcasted_of_unconcerned hes, List.append_nil, List.append_nil,
      TransportState.queued, hpending]
    exact h.order
  · intro entry hentry
    rw [hpending] at hentry
    obtain ⟨hle, hlatest⟩ := h.latest entry hentry
    refine ⟨Nat.le_trans hle hgeneration, fun call generation hcall => ?_⟩
    obtain ⟨hle', hmax⟩ := hlatest call generation (hcalls.1 hcall)
    exact ⟨hle', fun heq call' hmem => hmax heq call' (hinvalidating.1 hmem)⟩

theorem same_calls (h : ProtocolInv c tr s) (hcalls : s'.calls = s.calls)
    (hstarted : s'.started = s.started) (hgeneration : s'.invalidationGen = s.invalidationGen)
    (hes : ∀ call, .invalidating c call ∉ es ∧ .invalidated c call ∉ es)
    (hentry : (s'.pendingInvalidations.get? c).map
      (fun entry => (entry.refcount, entry.generation)) =
      (s.pendingInvalidations.get? c).map fun entry => (entry.refcount, entry.generation))
    (horder : handedOut c es ++ s'.queued c = s.queued c ++ broadcasted c es) :
    ProtocolInv c (tr ++ es) s' := by
  have hinvalidating : ∀ {call}, .invalidating c call ∈ tr ++ es ↔ .invalidating c call ∈ tr :=
    List.mem_append.trans (or_iff_left (hes _).1)
  have hinvalidated : ∀ {call}, .invalidated c call ∈ tr ++ es ↔ .invalidated c call ∈ tr :=
    List.mem_append.trans (or_iff_left (hes _).2)
  constructor
  · intro call
    rw [hinvalidating, hinvalidated, hcalls]
    exact h.inFlight call
  · intro call phase hmem hcall
    rw [hcalls] at hcall
    exact h.own call phase (hinvalidating.1 hmem) hcall
  · intro call hmem
    rw [hstarted]
    exact h.started call (hinvalidating.1 hmem)
  · intro call hmem
    exact hinvalidating.2 (h.ended call (hinvalidated.1 hmem))
  · have hcount : (s'.pendingInvalidations.get? c).map (·.refcount) =
        (s.pendingInvalidations.get? c).map (·.refcount) := by
      have hfirst := congrArg (Option.map Prod.fst) hentry
      rwa [Option.map_map, Option.map_map] at hfirst
    rw [hcount, TransportState.invalidationsInFlight, hcalls]
    exact h.refcount
  · rw [handedOut_append, broadcasted_append, List.append_assoc, horder, ← List.append_assoc,
      h.order]
  · intro entry' hentry'
    rw [hentry'] at hentry
    obtain ⟨entry, hold, heq⟩ := Option.map_eq_some_iff.1 hentry.symm
    obtain ⟨-, hsame⟩ := Prod.mk.inj heq
    obtain ⟨hle, hlatest⟩ := h.latest entry hold
    rw [hsame] at hle hlatest
    refine ⟨hgeneration ▸ hle, fun call generation hcall => ?_⟩
    rw [hcalls] at hcall
    obtain ⟨hle', hmax⟩ := hlatest call generation hcall
    exact ⟨hle', fun heq call' hmem => hmax heq call' (hinvalidating.1 hmem)⟩

/-- A broadcast for the credential is handed out or goes to the end of the queue. -/
theorem broadcast (h : ProtocolInv c tr s) {event : SignetEvent} {project : Projector}
    (hstep : transportStep cfg s (.broadcast c event project) = some (s', es)) :
    ProtocolInv c (tr ++ es) s' := by
  cases hpending : s.pendingInvalidations.get? c with
  | none =>
    have heq := @broadcastToCredential_of_none c project ⟨s.broadcasts, event⟩
      { s with broadcasts := s.broadcasts + 1 } hpending
    obtain ⟨ns, hevents, -⟩ := @handOut_events c project ⟨s.broadcasts, event⟩
      { s with broadcasts := s.broadcasts + 1 }
    simp only [transportStep, heq, hevents] at hstep
    cases hstep
    refine h.same_calls rfl rfl rfl (fun call => ?_) rfl ?_
    · simp
    · have hqueued : s.queued c = [] := by
        unfold TransportState.queued
        rw [hpending]
        rfl
      have hsame : (TransportState.handOut c project ⟨s.broadcasts, event⟩
          { s with broadcasts := s.broadcasts + 1 }).1.queued c = s.queued c := rfl
      rw [hsame, hqueued]
      simp [handedOut, broadcasted]
  | some pending =>
    have heq : TransportState.broadcastToCredential c project ⟨s.broadcasts, event⟩
        { s with broadcasts := s.broadcasts + 1 } =
        ({ s with
            broadcasts := s.broadcasts + 1
            pendingInvalidations := s.pendingInvalidations.set c
              { pending with events := pending.events ++ [⟨s.broadcasts, event⟩] } }, []) := by
      unfold TransportState.broadcastToCredential
      dsimp only
      rw [hpending]
    simp only [transportStep, heq] at hstep
    cases hstep
    refine h.same_calls rfl rfl rfl (fun call => ?_) ?_ ?_
    · simp
    · rw [OrdMap.get?_set_self, hpending]
      rfl
    · have hqueued : s.queued c = pending.events := by
        unfold TransportState.queued
        rw [hpending]
        rfl
      rw [hqueued]
      simp [handedOut, broadcasted, TransportState.queued]

theorem invalidate (h : ProtocolInv c tr s) (hfresh : s.Fresh)
    (hstep : transportStep cfg s (.invalidate c) = some (s', es)) :
    ProtocolInv c (tr ++ es) s' := by
  have hnone : s.calls.get? s.started = none := by
    cases hget : s.calls.get? s.started with
    | none => rfl
    | some phase => exact absurd (hfresh.of_get? hget) (Nat.lt_irrefl _)
  -- the new call's number is larger than the numbers in the trace
  have hnew : .invalidating c s.started ∉ tr := fun hmem => Nat.lt_irrefl _ (h.started _ hmem)
  have hnotended : .invalidated c s.started ∉ tr := fun hmem => hnew (h.ended _ hmem)
  have hcount : s'.invalidationsInFlight c = s.invalidationsInFlight c + 1 := by
    cases hstep
    have hset := s.calls.countP_values_set s.started (.invalidating c (s.invalidationGen + 1))
      (·.invalidates c)
    have hself : (TransportCall.invalidating c (s.invalidationGen + 1)).invalidates c = true :=
      decide_eq_true rfl
    rw [hnone, hself] at hset
    exact hset
  cases hstep
  have hinvalidating : ∀ {call}, .invalidating c call ∈ tr ++ [.invalidating c s.started] ↔
      .invalidating c call ∈ tr ∨ call = s.started := by
    intro call
    simp
  have hinvalidated : ∀ {call}, .invalidated c call ∈ tr ++ [.invalidating c s.started] ↔
      .invalidated c call ∈ tr := by
    intro call
    simp
  have hcalls : ∀ {call phase}, (s.calls.set s.started
      (.invalidating c (s.invalidationGen + 1))).get? call = some phase ↔
      (call = s.started ∧ phase = .invalidating c (s.invalidationGen + 1)) ∨
        s.calls.get? call = some phase := by
    intro call phase
    rw [OrdMap.get?_set]
    by_cases hcall : call = s.started
    · rw [if_pos hcall, hcall, hnone]
      simp [eq_comm]
    · rw [if_neg hcall]
      simp [hcall]
  constructor
  · intro call
    rw [hinvalidating, hinvalidated]
    constructor
    · rintro ⟨generation, hcall⟩
      rcases hcalls.1 hcall with ⟨rfl, -⟩ | hold
      · exact ⟨.inr rfl, hnotended⟩
      · obtain ⟨hmem, hnot⟩ := (h.inFlight call).1 ⟨generation, hold⟩
        exact ⟨.inl hmem, hnot⟩
    · rintro ⟨hmem | rfl, hnot⟩
      · obtain ⟨generation, hold⟩ := (h.inFlight call).2 ⟨hmem, hnot⟩
        exact ⟨generation, hcalls.2 (.inr hold)⟩
      · exact ⟨_, hcalls.2 (.inl ⟨rfl, rfl⟩)⟩
  · intro call phase hmem hcall
    rcases hcalls.1 hcall with ⟨-, rfl⟩ | hold
    · exact ⟨_, rfl⟩
    · rcases hinvalidating.1 hmem with hold' | rfl
      · exact h.own call phase hold' hold
      · rw [hnone] at hold
        cases hold
  · intro call hmem
    show call < s.started + 1
    rcases hinvalidating.1 hmem with hold | rfl
    · exact Nat.lt_succ_of_lt (h.started call hold)
    · exact Nat.lt_succ_self _
  · intro call hmem
    exact hinvalidating.2 (.inl (h.ended call (hinvalidated.1 hmem)))
  · rw [hcount, if_neg (Nat.succ_ne_zero _)]
    show ((s.pendingInvalidations.set c _).get? c).map _ = _
    rw [OrdMap.get?_set_self]
    cases hpending : s.pendingInvalidations.get? c with
    | none =>
      have hidle := h.idle hpending
      rw [hidle]
      rfl
    | some existing =>
      have hrefcount := (h.counts hpending).1
      show some (existing.refcount + 1) = _
      rw [hrefcount]
  · have hqueued : (s.startInvalidation c).queued c = s.queued c := by
      show (((s.pendingInvalidations.set c _).get? c).map (·.events)).getD [] = _
      rw [OrdMap.get?_set_self]
      unfold TransportState.queued
      cases s.pendingInvalidations.get? c <;> rfl
    rw [handedOut_append, broadcasted_append]
    show handedOut c tr ++ [] ++ (s.startInvalidation c).queued c = broadcasted c tr ++ []
    rw [List.append_nil, List.append_nil, hqueued]
    exact h.order
  · intro entry hentry
    replace hentry : (s.pendingInvalidations.set c _).get? c = some entry := hentry
    rw [OrdMap.get?_set_self] at hentry
    have hgeneration : entry.generation = s.invalidationGen + 1 := by
      rw [← Option.some.inj hentry]
      cases s.pendingInvalidations.get? c <;> rfl
    refine ⟨hgeneration.le, fun call generation hcall => ?_⟩
    rcases hcalls.1 hcall with ⟨rfl, heq⟩ | hold
    · obtain ⟨-, rfl⟩ := TransportCall.invalidating.inj heq
      refine ⟨hgeneration.ge, fun _ call' hmem => ?_⟩
      rcases hinvalidating.1 hmem with hmem | rfl
      · exact (h.started call' hmem).le
      · exact Nat.le_refl _
    · -- the older ones have smaller generations
      have hpending : ∃ existing, s.pendingInvalidations.get? c = some existing := by
        cases hpending : s.pendingInvalidations.get? c with
        | some existing => exact ⟨existing, rfl⟩
        | none =>
          have hpos : 0 < s.invalidationsInFlight c :=
            List.countP_pos_iff.2 ⟨_, OrdMap.mem_values_iff.2 ⟨call, hold⟩, decide_eq_true rfl⟩
          exact absurd (h.idle hpending) (Nat.ne_of_gt hpos)
      obtain ⟨existing, hexisting⟩ := hpending
      obtain ⟨hle, hlatest⟩ := h.latest existing hexisting
      have hle' := (hlatest call generation hold).1
      exact ⟨by omega, fun heq => by omega⟩

theorem handedOut_drain {project : Projector} (bs : List Broadcast)
    (hnone : s.pendingInvalidations.get? c = none) :
    handedOut c (Emits.forEach (TransportState.broadcastToCredential c project) bs s).2 = bs := by
  induction bs generalizing s with
  | nil => rfl
  | cons b bs ih =>
    have heq := @broadcastToCredential_of_none c project b s hnone
    obtain ⟨states, hframe⟩ := @handOut_frame c project b s
    obtain ⟨ns, hevents, -⟩ := @handOut_events c project b s
    have hfirst : handedOut c (TransportState.broadcastToCredential c project b s).2 = [b] := by
      rw [heq, hevents]
      show handedOut c ([.handed c b project] ++ ns.map .net) = [b]
      rw [handedOut_append, handedOut_map_net]
      simp [handedOut]
    have hrest := @ih (TransportState.broadcastToCredential c project b s).1 (by
      rw [heq, hframe]
      exact hnone)
    show handedOut c ((TransportState.broadcastToCredential c project b s).2 ++ _) = b :: bs
    rw [handedOut_append, hfirst]
    exact congrArg (b :: ·) hrest

/-- How an invalidation ends, with the entry it finds. -/
theorem releaseInvalidation_cases {call : Nat} {project : Projector} {entry : PendingInvalidation}
    (hentry : s.pendingInvalidations.get? c = some entry) :
    (entry.refcount ≤ 1 ∧
      (TransportState.releaseInvalidation c call project s).1.pendingInvalidations.get? c = none ∧
      handedOut c (TransportState.releaseInvalidation c call project s).2 = entry.events) ∨
    (1 < entry.refcount ∧
      (TransportState.releaseInvalidation c call project s).1.pendingInvalidations.get? c =
        some { entry with refcount := entry.refcount - 1 } ∧
      handedOut c (TransportState.releaseInvalidation c call project s).2 = []) := by
  unfold TransportState.releaseInvalidation
  rw [hentry]
  dsimp only
  by_cases hlast : entry.refcount ≤ 1
  · rw [if_pos hlast]
    have hnone : (s.pendingInvalidations.erase c).get? c = none := OrdMap.get?_erase_self _ _
    obtain ⟨states, hframe⟩ := @drain_frame
      { s with pendingInvalidations := s.pendingInvalidations.erase c } c project entry.events hnone
    refine .inl ⟨hlast, ?_, ?_⟩
    · dsimp only
      rw [hframe]
      exact hnone
    · exact @handedOut_drain { s with pendingInvalidations := s.pendingInvalidations.erase c } c
        project entry.events hnone
  · rw [if_neg hlast]
    exact .inr ⟨Nat.lt_of_not_le hlast, OrdMap.get?_set_self _ _ _, rfl⟩

/-- What an answered invalidation does to the entry of its credential. -/
theorem answered_effect {call generation : Nat} {answer : LookupAnswer} {project : Projector}
    {entry : PendingInvalidation} (hcall : s.calls.get? call = some (.invalidating c generation))
    (hentry : s.pendingInvalidations.get? c = some entry)
    (hstep : transportStep cfg s (.looked call answer project) = some (s', es)) :
    s'.invalidationGen = s.invalidationGen ∧
      ((entry.refcount ≤ 1 ∧ s'.pendingInvalidations.get? c = none ∧
        handedOut c es = entry.events) ∨
      (1 < entry.refcount ∧ s'.pendingInvalidations.get? c =
        some { entry with refcount := entry.refcount - 1 } ∧ handedOut c es = [])) := by
  simp only [transportStep, lookupStep, hcall] at hstep
  have hpending := @applyInvalidation_pending cfg (s.finish call) call generation answer c
  have hgeneration := @applyInvalidation_generation cfg call generation answer c (s.finish call)
  obtain ⟨ns, hns, -⟩ := @applyInvalidation_events cfg (s.finish call) call generation c answer
  have hrelease := @releaseInvalidation_cases
    (TransportState.applyInvalidation cfg c generation call answer (s.finish call)).1 c call project
    entry (by rw [hpending]; exact hentry)
  have hreleased : ∀ s₀ : TransportState, (TransportState.releaseInvalidation c call project
      s₀).1.invalidationGen = s₀.invalidationGen := by
    intro s₀
    unfold TransportState.releaseInvalidation
    split
    · rfl
    · next entry' _ =>
      split
      · obtain ⟨states, hframe⟩ := @drain_frame
          { s₀ with pendingInvalidations := s₀.pendingInvalidations.erase c } c project
          entry'.events (OrdMap.get?_erase_self _ _)
        dsimp only
        rw [hframe]
      · rfl
  cases hstep
  refine ⟨(hreleased _).trans hgeneration, ?_⟩
  rw [handedOut_append, hns, handedOut_map_net, List.nil_append]
  exact hrelease

theorem answered (h : ProtocolInv c tr s) (hfresh : s.Fresh) {call generation : Nat}
    {answer : LookupAnswer} {project : Projector}
    (hcall : s.calls.get? call = some (.invalidating c generation))
    (hstep : transportStep cfg s (.looked call answer project) = some (s', es)) :
    ProtocolInv c (tr ++ es) s' := by
  have hcore := transportStep_core hstep
  -- the answered call is the only change among the calls
  have hcalls : ∀ {k phase}, s'.calls.get? k = some phase ↔
      k ≠ call ∧ s.calls.get? k = some phase := by
    intro k phase
    constructor
    · intro hk
      obtain ⟨hold, hne⟩ | ⟨-, -, hstarts⟩ := hcore.get?_calls hk
      · exact ⟨fun heq => hne (congrArg some heq.symm), hold⟩
      · cases hstarts with
        | fingerprinting hcall' => rw [hcall] at hcall'; cases hcall'
        | routing hcall' => rw [hcall] at hcall'; cases hcall'
    · rintro ⟨hne, hold⟩
      exact hcore.kept hfresh hold fun heq => hne (Option.some.inj heq).symm
  have hcount : s'.invalidationsInFlight c + 1 = s.invalidationsInFlight c := by
    obtain ⟨new, hnew, hcount⟩ := @invalidationsInFlight_core _ _ _ _ c hcore hfresh
    have hself : (TransportCall.invalidating c generation).invalidates c = true :=
      decide_eq_true rfl
    have hanswered : ((TransportAction.looked call answer project).answered.bind
        s.calls.get?).any (·.invalidates c) = true := by
      show (s.calls.get? call).any _ = true
      rw [hcall]
      exact hself
    have hnone : new = none := by
      cases hnew' : new with
      | none => rfl
      | some phase =>
        cases hnew phase hnew' with
        | fingerprinting hcall' => rw [hcall] at hcall'; cases hcall'
        | routing hcall' => rw [hcall] at hcall'; cases hcall'
    rw [hanswered, hnone] at hcount
    exact hcount
  obtain ⟨entry, hentry⟩ : ∃ entry, s.pendingInvalidations.get? c = some entry := by
    cases hpending : s.pendingInvalidations.get? c with
    | some entry => exact ⟨entry, rfl⟩
    | none =>
      have hidle := h.idle hpending
      omega
  have hrefcount := (h.counts hentry).1
  obtain ⟨hgeneration, heffect⟩ := answered_effect hcall hentry hstep
  -- what the step emits
  obtain ⟨ns, out, hevents, hout⟩ := @invalidation_events cfg s call generation c answer project
  have hes : es = ns.map .net ++ .invalidated c call :: out := by
    simp only [transportStep, lookupStep, hcall] at hstep
    rw [← hevents]
    cases hstep
    rfl
  have hnet : ∀ e ∈ es, e = .invalidated c call ∨ (∃ b, e = .handed c b project) ∨
      ∃ n, e = .net n := by
    intro e he
    rw [hes] at he
    rcases List.mem_append.1 he with he | he
    · obtain ⟨n, -, rfl⟩ := List.mem_map.1 he
      exact .inr (.inr ⟨n, rfl⟩)
    · rcases List.mem_cons.1 he with rfl | he
      · exact .inl rfl
      · rcases hout e he with ⟨_, b, _, _, _, rfl⟩ | ⟨n, rfl, -⟩
        · exact .inr (.inl ⟨b, rfl⟩)
        · exact .inr (.inr ⟨n, rfl⟩)
  have hinvalidating : ∀ {k}, .invalidating c k ∈ tr ++ es ↔ .invalidating c k ∈ tr := by
    intro k
    refine List.mem_append.trans (or_iff_left fun hmem => ?_)
    rcases hnet _ hmem with heq | ⟨_, heq⟩ | ⟨_, heq⟩ <;> cases heq
  have hinvalidated : ∀ {k}, .invalidated c k ∈ tr ++ es ↔ .invalidated c k ∈ tr ∨ k = call := by
    intro k
    refine List.mem_append.trans (or_congr_right ?_)
    constructor
    · intro hmem
      rcases hnet _ hmem with heq | ⟨_, heq⟩ | ⟨_, heq⟩
      · cases heq
        rfl
      · cases heq
      · cases heq
    · rintro rfl
      rw [hes]
      exact List.mem_append_right _ List.mem_cons_self
  have hbroadcasted : broadcasted c es = [] := by
    refine List.filterMap_eq_nil_iff.2 fun e he => ?_
    rcases hnet e he with rfl | ⟨_, rfl⟩ | ⟨_, rfl⟩ <;> rfl
  constructor
  · intro k
    rw [hinvalidating, hinvalidated]
    constructor
    · rintro ⟨g, hk⟩
      obtain ⟨hne, hold⟩ := hcalls.1 hk
      obtain ⟨hmem, hnot⟩ := (h.inFlight k).1 ⟨g, hold⟩
      exact ⟨hmem, fun hor => hor.elim hnot hne⟩
    · rintro ⟨hmem, hnot⟩
      obtain ⟨g, hold⟩ := (h.inFlight k).2 ⟨hmem, fun hmem' => hnot (.inl hmem')⟩
      exact ⟨g, hcalls.2 ⟨fun heq => hnot (.inr heq), hold⟩⟩
  · intro k phase hmem hk
    exact h.own k phase (hinvalidating.1 hmem) (hcalls.1 hk).2
  · intro k hmem
    exact Nat.lt_of_lt_of_le (h.started k (hinvalidating.1 hmem)) hcore.started_le
  · intro k hmem
    rcases hinvalidated.1 hmem with hold | rfl
    · exact hinvalidating.2 (h.ended k hold)
    · exact hinvalidating.2 ((h.inFlight k).1 ⟨generation, hcall⟩).1
  · rcases heffect with ⟨hlast, hnone, -⟩ | ⟨hmore, hsome, -⟩
    · have hzero : s'.invalidationsInFlight c = 0 := by omega
      rw [hnone, hzero]
      rfl
    · have hne : s'.invalidationsInFlight c ≠ 0 := by omega
      rw [hsome, if_neg hne]
      show some (entry.refcount - 1) = _
      congr 1
      omega
  · have horder := h.order
    have hqueued : s.queued c = entry.events := by
      unfold TransportState.queued
      rw [hentry]
      rfl
    rw [hqueued] at horder
    rw [handedOut_append, broadcasted_append, hbroadcasted, List.append_nil, ← horder]
    rcases heffect with ⟨-, hnone, hout⟩ | ⟨-, hsome, hout⟩
    · have hempty : s'.queued c = [] := by
        unfold TransportState.queued
        rw [hnone]
        rfl
      rw [hout, hempty, List.append_nil]
    · have hsame : s'.queued c = entry.events := by
        unfold TransportState.queued
        rw [hsome]
        rfl
      rw [hout, hsame, List.append_nil]
  · intro entry' hentry'
    obtain ⟨hle, hlatest⟩ := h.latest entry hentry
    rcases heffect with ⟨-, hnone, -⟩ | ⟨-, hsome, -⟩
    · rw [hnone] at hentry'
      cases hentry'
    · rw [hsome] at hentry'
      cases hentry'
      refine ⟨hgeneration.symm ▸ hle, fun k g hk => ?_⟩
      obtain ⟨hle', hmax⟩ := hlatest k g (hcalls.1 hk).2
      exact ⟨hle', fun heq k' hmem => hmax heq k' (hinvalidating.1 hmem)⟩

theorem step (h : ProtocolInv c tr s) (hfresh : s.Fresh)
    (hstep : transportStep cfg s a = some (s', es)) : ProtocolInv c (tr ++ es) s' := by
  by_cases hc : Elsewhere c s a
  · exact h.untouched hfresh hstep hc
  · cases a with
    | broadcast c' event project =>
      obtain rfl : c' = c := not_not.1 hc
      exact h.broadcast hstep
    | invalidate c' =>
      obtain rfl : c' = c := not_not.1 hc
      exact h.invalidate hfresh hstep
    | looked call answer project =>
      obtain ⟨generation, hcall⟩ : ∃ generation,
          s.calls.get? call = some (.invalidating c generation) := by
        by_contra hnone
        exact hc fun generation hcall => hnone ⟨generation, hcall⟩
      exact h.answered hfresh hcall hstep
    | _ => exact absurd trivial hc

theorem of_run {ok : TransportState → TransportAction → Prop}
    (h : Run (transportMachine cfg) ok tr s) : ProtocolInv c tr s :=
  h.invariant (I := fun tr s => ProtocolInv c tr s) initial
    fun hrun hinv _ hstep => hinv.step (fresh_of_run hrun) hstep

end ProtocolInv

/-! ### The order of the events -/

/-- A broadcast is handed out when every invalidation that has started has ended. -/
def HandedWhenIdle (c : String) (before : List TransportEvent) (e : TransportEvent) : Prop :=
  ∀ b project, e = .handed c b project →
    ∀ call, .invalidating c call ∈ before → .invalidated c call ∈ before

/-- A record that an invalidation writes comes from the latest one, which is in flight. -/
def CachedByLatest (c : String) (before : List TransportEvent) (e : TransportEvent) : Prop :=
  ∀ connectionId call, e = .net (.cached connectionId call) → .invalidating c call ∈ before →
    .invalidated c call ∉ before ∧ ∀ call', .invalidating c call' ∈ before → call' ≤ call

section Order

variable {cfg : TransportConfig} {s s' : TransportState} {a : TransportAction}
  {tr es : List TransportEvent} {c : String}

/-- Who writes records: a lookup that is answered, and among the invalidations the latest. -/
theorem cached_of_transportStep {connectionId call : Nat}
    (h : transportStep cfg s a = some (s', es)) (hmem : .net (.cached connectionId call) ∈ es) :
    ∃ record project phase, a = .looked call (.ok record) project ∧
      s.calls.get? call = some phase ∧
      ∀ c generation, phase = .invalidating c generation →
        ∃ entry, s.pendingInvalidations.get? c = some entry ∧ entry.generation = generation := by
  obtain ⟨-, net, op, -, hop, hemitted⟩ := emitted_of_transportStep h hmem
  cases hemitted with
  | cachedFirst =>
    cases hop with
    | accept hcall hactive => exact ⟨_, _, _, rfl, hcall, nofun⟩
  | cached =>
    cases hop with
    | delivers hcall htarget =>
      refine ⟨_, _, _, rfl, hcall, fun c generation heq => ?_⟩
      rw [heq] at htarget
      cases htarget
    | refreshes hcall hentry hlatest hid =>
      refine ⟨_, _, _, rfl, hcall, fun c generation heq => ?_⟩
      cases heq
      exact ⟨_, hentry, hlatest⟩

theorem answered_events {call generation : Nat} {answer : LookupAnswer} {project : Projector}
    (hcall : s.calls.get? call = some (.invalidating c generation))
    (hstep : transportStep cfg s (.looked call answer project) = some (s', es)) :
    ∃ (ns : List NetEvent) (out : List TransportEvent),
      es = ns.map .net ++ .invalidated c call :: out ∧
      ∀ e ∈ out, (∃ entry b, s.pendingInvalidations.get? c = some entry ∧
          entry.refcount ≤ 1 ∧ b ∈ entry.events ∧ e = .handed c b project) ∨
        ∃ n, e = .net n ∧ n.isDelivery = true := by
  simp only [transportStep, lookupStep, hcall] at hstep
  obtain ⟨ns, out, hevents, hout⟩ := @invalidation_events cfg s call generation c answer project
  refine ⟨ns, out, ?_, hout⟩
  rw [← hevents]
  cases hstep
  rfl

theorem invalidating_of_transportStep {call : Nat} (h : transportStep cfg s a = some (s', es))
    (hmem : .invalidating c call ∈ es) : a = .invalidate c := by
  by_cases hc : Elsewhere c s a
  · exact absurd rfl ((elsewhere_step h hc).2.2 _ hmem)
  · cases a with
    | invalidate c' =>
      obtain rfl : c' = c := not_not.1 hc
      rfl
    | broadcast c' event project =>
      cases h
      rcases List.mem_cons.1 hmem with heq | hmem
      · cases heq
      · unfold TransportState.broadcastToCredential at hmem
        split at hmem
        · cases hmem
        · rcases List.mem_cons.1 hmem with heq | hmem
          · cases heq
          · obtain ⟨n, -, heq⟩ := List.mem_map.1 hmem
            cases heq
    | looked call' answer project =>
      obtain ⟨generation, hcall⟩ : ∃ generation,
          s.calls.get? call' = some (.invalidating c generation) := by
        by_contra hnone
        exact hc fun generation hcall => hnone ⟨generation, hcall⟩
      obtain ⟨ns, out, rfl, hout⟩ := answered_events hcall h
      rcases List.mem_append.1 hmem with hmem | hmem
      · obtain ⟨n, -, heq⟩ := List.mem_map.1 hmem
        cases heq
      · rcases List.mem_cons.1 hmem with heq | hmem
        · cases heq
        · rcases hout _ hmem with ⟨_, _, _, _, _, heq⟩ | ⟨_, heq, -⟩ <;> cases heq
    | _ => exact absurd trivial hc

theorem handed_step (hinv : ProtocolInv c tr s) (hfresh : s.Fresh)
    (hstep : transportStep cfg s a = some (s', es)) :
    ∀ before e after, es = before ++ e :: after → HandedWhenIdle c (tr ++ before) e := by
  rintro before e after hes b project rfl call hmem
  have hhanded : .handed c b project ∈ es := by
    rw [hes]
    exact List.mem_append_right before List.mem_cons_self
  have hc : ¬ Elsewhere c s a := fun hc => (elsewhere_step hstep hc).2.2 _ hhanded rfl
  -- an invalidation that has started has started before the step
  have hnot : .invalidating c call ∉ es ∨ a = .invalidate c :=
    or_iff_not_imp_left.2 fun hmem => invalidating_of_transportStep hstep (not_not.1 hmem)
  cases a with
  | invalidate c' =>
    cases hstep
    cases List.mem_singleton.1 hhanded
  | broadcast c' event project' =>
    obtain rfl : c' = c := not_not.1 hc
    have hold : .invalidating c' call ∈ tr := by
      rcases List.mem_append.1 hmem with hold | hnew
      · exact hold
      · refine absurd ?_ (hnot.resolve_right (by rintro ⟨⟩))
        rw [hes]
        exact List.mem_append_left _ hnew
    refine List.mem_append_left _ (hinv.all_ended (hinv.idle ?_) hold)
    cases hpending : s.pendingInvalidations.get? c' with
    | none => rfl
    | some pending =>
      simp only [transportStep, TransportState.broadcastToCredential, hpending] at hstep
      cases hstep
      cases List.mem_singleton.1 hhanded
  | looked call' answer project' =>
    obtain ⟨generation, hcall⟩ : ∃ generation,
        s.calls.get? call' = some (.invalidating c generation) := by
      by_contra hnone
      exact hc fun generation hcall => hnone ⟨generation, hcall⟩
    have hinv' := hinv.step hfresh hstep
    obtain ⟨ns, out, hevents, hout⟩ := answered_events hcall hstep
    -- it was the last one in flight
    have hidle : s'.invalidationsInFlight c = 0 := by
      cases hentry : s'.pendingInvalidations.get? c with
      | none => exact hinv'.idle hentry
      | some entry' =>
        have hfirst : .handed c b project ∈ out := by
          rw [hevents] at hhanded
          rcases List.mem_append.1 hhanded with hmem | hmem
          · obtain ⟨n, -, heq⟩ := List.mem_map.1 hmem
            cases heq
          · rcases List.mem_cons.1 hmem with heq | hmem
            · cases heq
            · exact hmem
        rcases hout _ hfirst with ⟨entry, b', hentry', hlast, -, -⟩ | ⟨n, heq, -⟩
        · obtain ⟨-, ⟨-, hnone, -⟩ | ⟨hmore, -, -⟩⟩ :=
            ProtocolInv.answered_effect hcall hentry' hstep
          · rw [hentry] at hnone
            cases hnone
          · omega
        · cases heq
    have hended : .invalidated c call' ∈ before := by
      refine mem_before_of_split (hevents.symm.trans hes) ?_ (by rintro ⟨⟩)
      intro hnet
      obtain ⟨n, -, heq⟩ := List.mem_map.1 hnet
      cases heq
    have hmem' : .invalidating c call ∈ tr ++ es := by
      rw [hes, ← List.append_assoc]
      exact List.mem_append_left _ hmem
    rcases List.mem_append.1 (hinv'.all_ended hidle hmem') with hold | hnew
    · exact List.mem_append_left _ hold
    · obtain rfl : call = call' := by
        rw [hevents] at hnew
        rcases List.mem_append.1 hnew with hmem | hmem
        · obtain ⟨n, -, heq⟩ := List.mem_map.1 hmem
          cases heq
        · rcases List.mem_cons.1 hmem with heq | hmem
          · cases heq
            rfl
          · rcases hout _ hmem with ⟨_, _, _, _, _, heq⟩ | ⟨_, heq, -⟩ <;> cases heq
      exact List.mem_append_right _ hended
  | _ => exact absurd trivial hc

theorem cached_step (hinv : ProtocolInv c tr s)
    (hstep : transportStep cfg s a = some (s', es)) :
    ∀ before e after, es = before ++ e :: after → CachedByLatest c (tr ++ before) e := by
  rintro before e after hes connectionId call rfl hmem
  have hcached : .net (.cached connectionId call) ∈ es := by
    rw [hes]
    exact List.mem_append_right before List.mem_cons_self
  obtain ⟨record, project, phase, rfl, hcall, hlatest⟩ := cached_of_transportStep hstep hcached
  have hno : ∀ call, .invalidating c call ∉ before := by
    intro call hmem
    have hmem' : .invalidating c call ∈ es := by
      rw [hes]
      exact List.mem_append_left _ hmem
    cases invalidating_of_transportStep hstep hmem'
  have hold : .invalidating c call ∈ tr := (List.mem_append.1 hmem).resolve_right (hno call)
  obtain ⟨generation, rfl⟩ := hinv.own call phase hold hcall
  obtain ⟨entry, hentry, heq⟩ := hlatest c generation rfl
  obtain ⟨ns, out, hevents, hout⟩ := answered_events hcall hstep
  refine ⟨fun hended => ?_, fun call' hmem' => ?_⟩
  · rcases List.mem_append.1 hended with hended | hended
    · exact ((hinv.inFlight call).1 ⟨generation, hcall⟩).2 hended
    · -- the mark of the end comes after the writes
      have hnet := mem_first_of_split (hevents.symm.trans hes)
          (e := .net (.cached connectionId call))
        (fun hlater => by
          rcases List.mem_cons.1 hlater with heq | hlater
          · cases heq
          · rcases hout _ hlater with ⟨_, _, _, _, _, heq⟩ | ⟨n, heq, hdelivery⟩
            · cases heq
            · cases heq
              cases hdelivery) hended
      obtain ⟨n, -, heq⟩ := List.mem_map.1 hnet
      cases heq
  · have hold' : .invalidating c call' ∈ tr := (List.mem_append.1 hmem').resolve_right (hno call')
    exact ((hinv.latest entry hentry).2 call generation hcall).2 heq.symm call' hold'

end Order

end Signet.Ws
