import Signet.Ws.TransportSteps

/-!
# What a step of the transport does with the calls

A step answers at most one call and starts at most one (`CoreStep`). Only three kinds of steps
touch the pending invalidations: `broadcast`, `invalidate`, and the answer to the lookup of an
invalidation; the others are quiet (`IsQuiet`). `transportStep_core` is the only place where the
step is taken apart for this.
-/

namespace Signet.Ws

open Lib

/-! ### The calls of a step -/

def TransportAction.answered : TransportAction → Option Nat
  | looked call _ _ => some call
  | fingerprinted call _ => some call
  | routed call _ => some call
  | _ => none

/-- The calls that an action can start. -/
inductive Starts (cfg : TransportConfig) (s : TransportState) :
    TransportAction → TransportCall → Prop
  | authenticating {connectionId : Nat} {frame : AuthFrame} {d : ConnectionData}
      (hd : s.net.connections.get? connectionId = some d) :
      Starts cfg s (.authFrame connectionId (some frame))
        (.authenticating connectionId frame.lastSeenSeq)
  | requesting {connectionId : Nat} {frame : RequestFrame} :
      Starts cfg s (.requestFrame connectionId frame) (.requesting connectionId frame)
  | fingerprinting {call connectionId : Nat} {lastSeenSeq : Option Nat}
      {record : CredentialRecord} {project : Projector}
      (hcall : s.calls.get? call = some (.authenticating connectionId lastSeenSeq))
      (hactive : record.status = .active) :
      Starts cfg s (.looked call (.ok record) project)
        (.fingerprinting connectionId ⟨record, call⟩
          ((s.net.getOrCreateCredentialState cfg record.credentialId).resume lastSeenSeq))
  | routing {call connectionId : Nat} {requestId : String} {mutating : Bool}
      {record : CredentialRecord} {project : Projector}
      (hcall : s.calls.get? call =
        some (.requesting connectionId (.request requestId mutating))) :
      Starts cfg s (.looked call (.ok record) project) (.routing connectionId requestId mutating)
  | resyncing {call connectionId : Nat} {requestId : String} {mutating threw : Bool}
      (hcall : s.calls.get? call = some (.routing connectionId requestId mutating)) :
      Starts cfg s (.routed call threw) (.resyncing connectionId requestId)
  | heartbeat {timer connectionId : Nat} {dead : Bool}
      (htimer : s.net.heartbeatTimers.get? timer = some connectionId) :
      Starts cfg s (.heartbeat timer dead) (.heartbeat connectionId)
  | invalidating {credentialId : String} :
      Starts cfg s (.invalidate credentialId) (.invalidating credentialId (s.invalidationGen + 1))

/-- The step has nothing to do with broadcasts and invalidations. -/
def IsQuiet (s : TransportState) : TransportAction → Prop
  | .broadcast _ _ _ => False
  | .invalidate _ => False
  | .looked call _ _ => ∀ credentialId generation,
      s.calls.get? call ≠ some (.invalidating credentialId generation)
  | _ => True

/-- What a step does away from the connections: it takes the answered call away and may start
one, and if it is quiet, the rest of the state stays. -/
structure CoreStep (cfg : TransportConfig) (s : TransportState) (a : TransportAction)
    (r : TransportState × List TransportEvent) : Prop where
  calls : ∃ new : Option TransportCall, (∀ phase, new = some phase → Starts cfg s a phase) ∧
    r.1.calls = (new.elim id fun phase calls => calls.set s.started phase)
      (a.answered.elim s.calls s.calls.erase) ∧
    r.1.started = s.started + (if new.isSome then 1 else 0)
  quiet : IsQuiet s a → r.1.pendingInvalidations = s.pendingInvalidations ∧
    r.1.invalidationGen = s.invalidationGen ∧ ∃ ns, r.2 = List.map TransportEvent.net ns
  broadcasts : (∀ c event project, a ≠ .broadcast c event project) → r.1.broadcasts = s.broadcasts

section Core

variable {cfg : TransportConfig} {s : TransportState} {a : TransportAction}

/-- The drain of a finished invalidation touches the replay states only. -/
theorem drain_frame {credentialId : String} {project : Projector} (bs : List Broadcast)
    (hnone : s.pendingInvalidations.get? credentialId = none) :
    ∃ states, (Emits.forEach (TransportState.broadcastToCredential credentialId project) bs s).1 =
      { s with net := { s.net with credentialStates := states } } := by
  -- on the queue: no turn of the drain makes anything pending
  induction bs generalizing s with
  | nil => exact ⟨s.net.credentialStates, rfl⟩
  | cons b bs ih =>
    obtain ⟨first, hfirst⟩ := @handOut_frame credentialId project b s
    rw [← broadcastToCredential_of_none hnone] at hfirst
    have hnone' : (TransportState.broadcastToCredential credentialId project b
        s).1.pendingInvalidations.get? credentialId = none := by
      rw [hfirst]
      exact hnone
    obtain ⟨rest, hrest⟩ := ih hnone'
    refine ⟨rest, ?_⟩
    show (Emits.forEach (TransportState.broadcastToCredential credentialId project) bs
      (TransportState.broadcastToCredential credentialId project b s).1).1 = _
    rw [hrest, hfirst]

/-- Binding a connection does not change what replay state a credential has or would get. -/
theorem accept_getOrCreateCredentialState {net : Net} {connectionId : Nat} {credential : Snapshot}
    {lastSeenSeq : Option Nat} :
    (Net.accept cfg connectionId credential lastSeenSeq net).1.getOrCreateCredentialState cfg
        credential.record.credentialId =
      net.getOrCreateCredentialState cfg credential.record.credentialId := by
  unfold Net.accept
  dsimp only
  split
  · rfl
  · show ((net.credentialStates.set _ _).get? credential.record.credentialId).getD _ = _
    rw [OrdMap.get?_set_self]
    rfl

theorem core_onNet {s₀ : TransportState} {f : Emits Net NetEvent}
    (hcalls : s₀.calls = a.answered.elim s.calls s.calls.erase) (hstarted : s₀.started = s.started)
    (hpending : s₀.pendingInvalidations = s.pendingInvalidations)
    (hgeneration : s₀.invalidationGen = s.invalidationGen)
    (hbroadcasts : s₀.broadcasts = s.broadcasts) :
    CoreStep cfg s a (s₀.onNet f) where
  calls := ⟨none, nofun, hcalls, hstarted⟩
  quiet _ := ⟨hpending, hgeneration, _, rfl⟩
  broadcasts _ := hbroadcasts

theorem core_onNet_onNet {s₀ : TransportState} {f g : Emits Net NetEvent}
    (hcalls : s₀.calls = a.answered.elim s.calls s.calls.erase) (hstarted : s₀.started = s.started)
    (hpending : s₀.pendingInvalidations = s.pendingInvalidations)
    (hgeneration : s₀.invalidationGen = s.invalidationGen)
    (hbroadcasts : s₀.broadcasts = s.broadcasts) :
    CoreStep cfg s a
      (((s₀.onNet f).1.onNet g).1, (s₀.onNet f).2 ++ ((s₀.onNet f).1.onNet g).2) where
  calls := ⟨none, nofun, hcalls, hstarted⟩
  quiet _ := ⟨hpending, hgeneration, _, List.map_append.symm⟩
  broadcasts _ := hbroadcasts

theorem core_authLooked {call connectionId : Nat} {lastSeenSeq : Option Nat}
    {answer : LookupAnswer} {project : Projector}
    (hcall : s.calls.get? call = some (.authenticating connectionId lastSeenSeq)) :
    CoreStep cfg s (.looked call answer project)
      (authLooked cfg (s.finish call) call connectionId lastSeenSeq answer) := by
  cases answer with
  | rejected =>
    exact ⟨⟨none, (by rintro _ ⟨⟩), rfl, rfl⟩, fun _ => ⟨rfl, rfl, [], rfl⟩, fun _ => rfl⟩
  | err message => exact core_onNet rfl rfl rfl rfl rfl
  | ok record =>
    unfold authLooked
    dsimp only
    by_cases hactive : record.status = .active
    · rw [if_pos hactive]
      -- the reply waits for the fingerprint, with what the replay state said at this moment
      refine ⟨⟨some _, fun phase hphase => ?_, rfl, rfl⟩, fun _ => ⟨rfl, rfl, _, rfl⟩, fun _ => rfl⟩
      rw [← Option.some.inj hphase]
      -- the state is read behind the acceptance, which has created it if it was not there
      have hstate := @accept_getOrCreateCredentialState cfg s.net connectionId ⟨record, call⟩
        lastSeenSeq
      show Starts cfg s _ (.fingerprinting connectionId ⟨record, call⟩
        (((Net.accept cfg connectionId ⟨record, call⟩ lastSeenSeq
          s.net).1.getOrCreateCredentialState cfg record.credentialId).resume lastSeenSeq))
      rw [hstate]
      exact .fingerprinting hcall hactive
    · rw [if_neg hactive]
      exact core_onNet rfl rfl rfl rfl rfl

theorem core_requestLooked {call connectionId : Nat} {frame : RequestFrame}
    {answer : LookupAnswer} {project : Projector}
    (hcall : s.calls.get? call = some (.requesting connectionId frame)) :
    CoreStep cfg s (.looked call answer project)
      (requestLooked cfg (s.finish call) call connectionId frame answer) := by
  cases answer with
  | rejected =>
    exact ⟨⟨none, (by rintro _ ⟨⟩), rfl, rfl⟩, fun _ => ⟨rfl, rfl, [], rfl⟩, fun _ => rfl⟩
  | err message => exact core_onNet rfl rfl rfl rfl rfl
  | ok record =>
    unfold requestLooked
    dsimp only
    by_cases hactive : record.status = .active
    · rw [if_pos hactive]
      cases frame with
      | invalid requestId =>
        cases requestId with
        | none => exact core_onNet_onNet rfl rfl rfl rfl rfl
        | some requestId => exact core_onNet_onNet rfl rfl rfl rfl rfl
      | request requestId mutating =>
        refine ⟨⟨some _, fun phase hphase => ?_, rfl, rfl⟩,
          fun _ => ⟨rfl, rfl, _, List.map_append.symm⟩, fun _ => rfl⟩
        rw [← Option.some.inj hphase]
        exact .routing hcall
    · rw [if_neg hactive]
      exact core_onNet_onNet rfl rfl rfl rfl rfl

theorem core_resyncLooked {call connectionId : Nat} {requestId : String}
    {answer : LookupAnswer} {project : Projector} :
    CoreStep cfg s (.looked call answer project)
      (resyncLooked (s.finish call) call connectionId requestId answer) := by
  cases answer <;> exact core_onNet rfl rfl rfl rfl rfl

/-- Neither part of an answered invalidation awaits anything. -/
theorem core_invalidation {call generation : Nat} {answer : LookupAnswer} {project : Projector}
    {credentialId : String}
    (hcall : s.calls.get? call = some (.invalidating credentialId generation)) :
    CoreStep cfg s (.looked call answer project)
      (Emits.seq (TransportState.applyInvalidation cfg credentialId generation call answer)
        (TransportState.releaseInvalidation credentialId call project) (s.finish call)) := by
  have happly : (TransportState.applyInvalidation cfg credentialId generation call answer
      (s.finish call)).1.calls = s.calls.erase call ∧
      (TransportState.applyInvalidation cfg credentialId generation call answer
        (s.finish call)).1.started = s.started ∧
      (TransportState.applyInvalidation cfg credentialId generation call answer
        (s.finish call)).1.broadcasts = s.broadcasts := by
    unfold TransportState.applyInvalidation
    split
    · exact ⟨rfl, rfl, rfl⟩
    · split <;> exact ⟨rfl, rfl, rfl⟩
  have hrelease : ∀ s₀ : TransportState,
      (TransportState.releaseInvalidation credentialId call project s₀).1.calls = s₀.calls ∧
      (TransportState.releaseInvalidation credentialId call project s₀).1.started =
        s₀.started ∧
      (TransportState.releaseInvalidation credentialId call project s₀).1.broadcasts =
        s₀.broadcasts := by
    intro s₀
    unfold TransportState.releaseInvalidation
    split
    · exact ⟨rfl, rfl, rfl⟩
    · next entry _ =>
      split
      · obtain ⟨states, hframe⟩ := @drain_frame
          { s₀ with pendingInvalidations := s₀.pendingInvalidations.erase credentialId }
          credentialId project entry.events (OrdMap.get?_erase_self _ _)
        dsimp only
        rw [hframe]
        exact ⟨rfl, rfl, rfl⟩
      · exact ⟨rfl, rfl, rfl⟩
  -- it is no quiet step, so nothing is said about what is pending
  refine ⟨⟨none, (by rintro _ ⟨⟩), ?_, ?_⟩, fun hquiet => absurd hcall (hquiet _ _), fun _ => ?_⟩
  · exact (hrelease _).1.trans happly.1
  · exact (hrelease _).2.1.trans happly.2.1
  · exact (hrelease _).2.2.trans happly.2.2

theorem core_lookupStep {call : Nat} {answer : LookupAnswer} {project : Projector}
    {r : TransportState × List TransportEvent} (h : lookupStep cfg s call answer project = some r) :
    CoreStep cfg s (.looked call answer project) r := by
  unfold lookupStep at h
  split at h
  · next hcall =>
    cases h
    exact core_authLooked hcall
  · cases h
    exact core_onNet rfl rfl rfl rfl rfl
  · next hcall =>
    cases h
    exact core_requestLooked hcall
  · cases h
    exact core_resyncLooked
  · next hcall =>
    cases h
    exact core_invalidation hcall
  · cases h

/-- **What a step does away from the connections.** -/
theorem transportStep_core {r : TransportState × List TransportEvent}
    (h : transportStep cfg s a = some r) : CoreStep cfg s a r := by
  cases a with
  | connect =>
    cases h
    exact core_onNet rfl rfl rfl rfl rfl
  | authTimeout connectionId =>
    simp only [transportStep] at h
    split at h
    · cases h
    · split at h
      · split at h
        · cases h
          exact core_onNet_onNet rfl rfl rfl rfl rfl
        · cases h
          exact core_onNet rfl rfl rfl rfl rfl
      · cases h
  | authFrame connectionId frame =>
    simp only [transportStep] at h
    split at h
    · cases h
    · next hd =>
      split at h
      · cases frame with
        | none =>
          cases h
          exact core_onNet_onNet rfl rfl rfl rfl rfl
        | some frame =>
          cases h
          -- the lookup of the token is started
          refine ⟨⟨some _, fun phase hphase => ?_, rfl, rfl⟩, fun _ =>
            ⟨rfl, rfl, _, rfl⟩, fun _ => rfl⟩
          rw [← Option.some.inj hphase]
          exact .authenticating hd
      · cases h
  | requestFrame connectionId frame =>
    simp only [transportStep] at h
    split at h
    · cases h
    · split at h
      · split at h
        · cases h
          exact core_onNet rfl rfl rfl rfl rfl
        · cases h
          -- the lookup before the request is started
          refine ⟨⟨some _, fun phase hphase => ?_, rfl, rfl⟩, fun _ => ⟨rfl, rfl, [], rfl⟩,
            fun _ => rfl⟩
          rw [← Option.some.inj hphase]
          exact .requesting
      · cases h
  | refuse connectionId code =>
    simp only [transportStep] at h
    split at h
    · cases h
    · split at h
      · cases h
      · cases h
        exact core_onNet rfl rfl rfl rfl rfl
  | looked call answer project => exact core_lookupStep h
  | fingerprinted call fingerprint =>
    simp only [transportStep] at h
    split at h
    · cases h
      exact core_onNet rfl rfl rfl rfl rfl
    · cases h
  | routed call threw =>
    simp only [transportStep] at h
    split at h
    · next hcall =>
      split at h
      · cases h
        exact core_onNet rfl rfl rfl rfl rfl
      · split at h
        · cases h
          -- a mutating request waits for the credential once more
          refine ⟨⟨some _, fun phase hphase => ?_, rfl, rfl⟩, fun _ => ⟨rfl, rfl, [], rfl⟩,
            fun _ => rfl⟩
          rw [← Option.some.inj hphase]
          exact .resyncing hcall
        · cases h
          exact core_onNet rfl rfl rfl rfl rfl
    · cases h
  | requestTimeout timer =>
    simp only [transportStep] at h
    split at h
    · cases h
    · cases h
      exact core_onNet rfl rfl rfl rfl rfl
  | heartbeat timer dead =>
    simp only [transportStep] at h
    split at h
    · cases h
    · next htimer =>
      split at h
      · cases h
      · split at h
        · split at h
          · cases h
            exact core_onNet rfl rfl rfl rfl rfl
          · cases h
            -- a heartbeat of a live connection looks the credential up
            refine ⟨⟨some _, fun phase hphase => ?_, rfl, rfl⟩, fun _ => ⟨rfl, rfl, [], rfl⟩,
            fun _ => rfl⟩
            rw [← Option.some.inj hphase]
            exact .heartbeat htimer
        · cases h
          exact ⟨⟨none, (by rintro _ ⟨⟩), rfl, rfl⟩, fun _ => ⟨rfl, rfl, [], rfl⟩, fun _ => rfl⟩
  | broadcast credentialId event project =>
    cases h
    refine ⟨⟨none, (by rintro _ ⟨⟩), ?_, ?_⟩, False.elim, fun hno => absurd rfl (hno _ _ _)⟩
    -- the broadcast is handed out or queued, and starts nothing
    all_goals
      unfold TransportState.broadcastToCredential
      dsimp only
      split <;> rfl
  | invalidate credentialId =>
    cases h
    refine ⟨⟨some _, fun phase hphase => ?_, rfl, rfl⟩, False.elim, fun _ => rfl⟩
    rw [← Option.some.inj hphase]
    exact .invalidating
  | close connectionId =>
    simp only [transportStep] at h
    split at h
    · cases h
    · split at h
      · cases h
      · cases h
        exact core_onNet rfl rfl rfl rfl rfl

end Core

/-! ### Calls in flight -/

/-- Promises that are not started have no calls. -/
def TransportState.Fresh (s : TransportState) : Prop :=
  s.calls.Forall fun call _ => call < s.started

namespace CoreStep

variable {cfg : TransportConfig} {s : TransportState} {a : TransportAction}
  {r : TransportState × List TransportEvent} {call : Nat} {phase : TransportCall}

/-- A call after a step was in flight before and is not answered by the step, or is the one
that the step starts. -/
theorem get?_calls (h : CoreStep cfg s a r) (hcall : r.1.calls.get? call = some phase) :
    (s.calls.get? call = some phase ∧ a.answered ≠ some call) ∨
      (call = s.started ∧ r.1.started = s.started + 1 ∧ Starts cfg s a phase) := by
  obtain ⟨new, hnew, hcalls, hstarted⟩ := h.calls
  -- first without the call that the step starts
  have hbase : (a.answered.elim s.calls s.calls.erase).get? call = some phase →
      s.calls.get? call = some phase ∧ a.answered ≠ some call := by
    cases a.answered with
    | none => exact fun hget => ⟨hget, nofun⟩
    | some answered =>
      intro hget
      obtain ⟨hne, hold⟩ := OrdMap.get?_erase_eq_some hget
      exact ⟨hold, fun heq => hne (Option.some.inj heq).symm⟩
  rw [hcalls] at hcall
  cases new with
  | none => exact .inl (hbase hcall)
  -- the new call is in flight under the next number
  | some phase' =>
    obtain ⟨rfl, rfl⟩ | ⟨-, hold⟩ := OrdMap.get?_set_eq_some hcall
    · exact .inr ⟨rfl, hstarted, hnew _ rfl⟩
    · exact .inl (hbase hold)

theorem kept (h : CoreStep cfg s a r) (hfresh : s.Fresh) (hcall : s.calls.get? call = some phase)
    (hne : a.answered ≠ some call) : r.1.calls.get? call = some phase := by
  obtain ⟨new, -, hcalls, -⟩ := h.calls
  have hbase : (a.answered.elim s.calls s.calls.erase).get? call = some phase := by
    cases ha : a.answered with
    | none => exact hcall
    | some answered =>
      have hcall_ne : call ≠ answered := by
        rintro rfl
        exact hne ha
      -- the next number is not in use
      exact (OrdMap.get?_erase_of_ne _ hcall_ne).trans hcall
  rw [hcalls]
  cases new with
  | none => exact hbase
  | some phase' =>
    exact (OrdMap.get?_set_of_ne _ _ (Nat.ne_of_lt (hfresh.of_get? hcall))).trans hbase

theorem started_le (h : CoreStep cfg s a r) : s.started ≤ r.1.started := by
  obtain ⟨new, -, -, hstarted⟩ := h.calls
  rw [hstarted]
  exact Nat.le_add_right _ _

theorem fresh (h : CoreStep cfg s a r) (hfresh : s.Fresh) : r.1.Fresh := by
  intro call phase hcall
  obtain ⟨hold, -⟩ | ⟨rfl, hstarted, -⟩ := h.get?_calls hcall
  · exact Nat.lt_of_lt_of_le (hfresh _ _ hold) h.started_le
  · omega

end CoreStep

theorem fresh_of_run {cfg : TransportConfig} {ok : TransportState → TransportAction → Prop}
    {tr : List TransportEvent} {s : TransportState} (h : Run (transportMachine cfg) ok tr s) :
    s.Fresh :=
  h.invariant (I := fun _ s => s.Fresh) OrdMap.Forall.empty
    fun _ hfresh _ hstep => (transportStep_core hstep).fresh hfresh

/-! ### What is handed out -/

/-- What happens on the connections when a broadcast is handed out. -/
def NetEvent.isDelivery : NetEvent → Bool
  | sent _ _ => true
  | sequenced _ _ => true
  | projected _ _ _ _ => true
  | _ => false

section HandOut

variable {credentialId : String} {project : Projector} {b : Broadcast}

theorem isDelivery_of_sendSequenced {connectionId : Nat} {e : SourcedEvent} {net : Net}
    {n : NetEvent} (h : n ∈ (Net.sendSequenced connectionId e net).2) : n.isDelivery = true := by
  unfold Net.sendSequenced at h
  split at h
  · cases h
  · split at h
    · cases h
    · rcases List.mem_cons.1 h with rfl | hsent
      · rfl
      · split at hsent
        · rw [List.mem_singleton.1 hsent]
          rfl
        · cases hsent

theorem isDelivery_of_deliver {connectionId : Nat} {net : Net} {n : NetEvent}
    (h : n ∈ (deliver credentialId b project connectionId net).2) : n.isDelivery = true := by
  unfold deliver at h
  split at h
  · cases h
  · next credential _ =>
    rcases List.mem_append.1 h with hprojected | hsent
    · dsimp only at hprojected
      split at hprojected
      · rw [List.mem_singleton.1 hprojected]
        rfl
      · cases hprojected
    · replace hsent :
          n ∈ (sendProjected b connectionId (project b.event credential.record) net).2 := hsent
      cases hproject : project b.event credential.record with
      | none =>
        rw [hproject] at hsent
        cases hsent
      | some projected =>
        rw [hproject] at hsent
        exact isDelivery_of_sendSequenced hsent

/-- The events of a hand-out: the mark, then deliveries. -/
theorem handOut_events (s : TransportState) :
    ∃ ns : List NetEvent, (TransportState.handOut credentialId project b s).2 =
      .handed credentialId b project :: ns.map .net ∧ ∀ n ∈ ns, n.isDelivery = true := by
  refine ⟨_, rfl, fun n hn => ?_⟩
  exact Emits.of_mem_forEach (P := fun n => NetEvent.isDelivery n = true)
    (fun id _ net n hn => isDelivery_of_deliver hn) hn

theorem mem_drain {bs : List Broadcast} {s : TransportState} {e : TransportEvent}
    (hnone : s.pendingInvalidations.get? credentialId = none)
    (h : e ∈ (Emits.forEach (TransportState.broadcastToCredential credentialId project) bs s).2) :
    (∃ b ∈ bs, e = .handed credentialId b project) ∨ ∃ n, e = .net n ∧ n.isDelivery = true := by
  -- on the queue; each turn gives its mark and then deliveries
  induction bs generalizing s with
  | nil => cases h
  | cons b bs ih =>
    have heq := @broadcastToCredential_of_none credentialId project b s hnone
    obtain ⟨states, hframe⟩ := @handOut_frame credentialId project b s
    rcases List.mem_append.1 h with hfirst | hrest
    · rw [heq] at hfirst
      obtain ⟨ns, hevents, hns⟩ := @handOut_events credentialId project b s
      rw [hevents] at hfirst
      rcases List.mem_cons.1 hfirst with rfl | hnet
      · exact .inl ⟨b, List.mem_cons_self, rfl⟩
      · obtain ⟨n, hn, rfl⟩ := List.mem_map.1 hnet
        exact .inr ⟨n, rfl, hns n hn⟩
    · refine (ih ?_ hrest).imp_left fun ⟨b', hb', heq⟩ => ⟨b', List.mem_cons_of_mem b hb', heq⟩
      rw [heq, hframe]
      exact hnone

end HandOut

theorem not_isDelivery_of_close {cfg : TransportConfig} {net : Net} {connectionId : Nat}
    {code : CloseCode} {n : NetEvent}
    (h : n ∈ ((Net.closeSocket cfg connectionId code).seq (Net.stopHeartbeat connectionId) net).2) :
    n.isDelivery = false := by
  rcases List.mem_append.1 h with hclose | hstop
  · rcases mem_closeSocket hclose with rfl | rfl <;> rfl
  · cases @emittedBy cfg _ _ (.stopHeartbeat connectionId) hstop

/-- An answered invalidation sends nothing on the connections that it goes to. -/
theorem not_isDelivery_of_refresh {cfg : TransportConfig} {net : Net} {connectionId call : Nat}
    {answer : LookupAnswer} {n : NetEvent}
    (h : n ∈ (refresh cfg call answer connectionId net).2) : n.isDelivery = false := by
  unfold refresh at h
  split at h
  · cases h
  · split at h
    · cases answer with
      | rejected => cases h
      | err message => exact not_isDelivery_of_close h
      -- the record is cached, and an inactive one closes the connection
      | ok record =>
        rcases List.mem_append.1 h with hset | hclose
        · rw [List.mem_singleton.1 hset]
          rfl
        · unfold closeInactive at hclose
          split at hclose
          · cases hclose
          · exact not_isDelivery_of_close hclose
    · cases h

theorem applyInvalidation_events {cfg : TransportConfig} {s : TransportState}
    {call generation : Nat} {credentialId : String} {answer : LookupAnswer} :
    ∃ ns : List NetEvent, (TransportState.applyInvalidation cfg credentialId generation call answer
      s).2 = ns.map .net ∧ ∀ n ∈ ns, n.isDelivery = false := by
  unfold TransportState.applyInvalidation
  split
  · exact ⟨[], rfl, nofun⟩
  · split
    · refine ⟨_, rfl, fun n hn => ?_⟩
      exact Emits.of_mem_forEach (P := fun n => NetEvent.isDelivery n = false)
        (fun id _ net n hn => not_isDelivery_of_refresh hn) hn
    · exact ⟨[], rfl, nofun⟩

/-- The events of an answered invalidation: what it does to the connections, the mark, and
what is handed out. -/
theorem invalidation_events {cfg : TransportConfig} {s : TransportState} {call generation : Nat}
    {credentialId : String} {answer : LookupAnswer} {project : Projector} :
    ∃ (ns : List NetEvent) (out : List TransportEvent),
      (Emits.seq (TransportState.applyInvalidation cfg credentialId generation call answer)
        (TransportState.releaseInvalidation credentialId call project) (s.finish call)).2 =
        ns.map .net ++ .invalidated credentialId call :: out ∧
      ∀ e ∈ out, (∃ entry b, s.pendingInvalidations.get? credentialId = some entry ∧
          entry.refcount ≤ 1 ∧ b ∈ entry.events ∧ e = .handed credentialId b project) ∨
        ∃ n, e = .net n ∧ n.isDelivery = true := by
  obtain ⟨ns, hns, -⟩ := @applyInvalidation_events cfg (s.finish call) call generation
    credentialId answer
  have hpending := @applyInvalidation_pending cfg (s.finish call) call generation answer
    credentialId
  generalize hs₀ : (TransportState.applyInvalidation cfg credentialId generation call answer
    (s.finish call)).1 = s₀ at hpending
  have hrelease : ∃ out, (TransportState.releaseInvalidation credentialId call project s₀).2 =
      .invalidated credentialId call :: out ∧
      ∀ e ∈ out, (∃ entry b, s.pendingInvalidations.get? credentialId = some entry ∧
          entry.refcount ≤ 1 ∧ b ∈ entry.events ∧ e = .handed credentialId b project) ∨
        ∃ n, e = .net n ∧ n.isDelivery = true := by
    unfold TransportState.releaseInvalidation
    split
    · exact ⟨[], rfl, nofun⟩
    · next entry hentry =>
      rw [hpending] at hentry
      split
      · next hlast =>
        refine ⟨_, rfl, fun e he => ?_⟩
        refine (mem_drain ?_ he).imp_left fun ⟨b, hb, heq⟩ => ⟨entry, b, hentry, hlast, hb, heq⟩
        exact OrdMap.get?_erase_self _ _
      · exact ⟨[], rfl, nofun⟩
  obtain ⟨out, hout, hmem⟩ := hrelease
  refine ⟨ns, out, ?_, hmem⟩
  show (TransportState.applyInvalidation cfg credentialId generation call answer
    (s.finish call)).2 ++ (TransportState.releaseInvalidation credentialId call project
      (TransportState.applyInvalidation cfg credentialId generation call answer
        (s.finish call)).1).2 = _
  rw [hns, hs₀, hout]

end Signet.Ws
