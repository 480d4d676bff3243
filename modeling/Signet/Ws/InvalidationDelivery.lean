import Signet.Ws.BroadcastHistory

/-!
# The invalidation protocol and its deliveries

A broadcast that is handed out goes to the connections that are registered for the credential, one
turn of the loop of `broadcastToCredential` each, in the segment in which it is handed out
(`delivered_of_transportStep`): nothing comes between its mark in the trace and its deliveries, and
after them comes the next queued broadcast or the end of the segment.

`invalidation_protocol` puts this together with the counts, the order and the records of
`ProtocolInv`.
-/

namespace Signet.Ws

open Lib

/-- The loop of `broadcastToCredential`: one turn for each connection registered for the
credential. -/
def deliverAll (c : String) (project : Projector) (b : Broadcast) : Emits Net NetEvent := fun net =>
  Emits.forEach (deliver c b project) (net.getByCredentialId c) net

/-- The mark of a broadcast, after the events `pre` of its segment, is followed by its deliveries.
They start from the connections as the segment has found or refreshed them and the earlier
broadcasts of the segment have left them. -/
structure DeliveredNext (cfg : TransportConfig) (s : TransportState) (a : TransportAction)
    (c : String) (b : Broadcast) (project : Projector)
    (pre deliveries rest : List TransportEvent) : Prop where
  delivers : deliveries = (deliverAll c project b
    (Emits.forEach (deliverAll c project) (handedOut c pre) (handOutNet cfg s a)).1).2.map .net
  /-- The next broadcast of the queue follows, or nothing. -/
  next : rest = [] ∨ ∃ b' rest', rest = .handed c b' project :: rest'

/-- Every broadcast that is handed out is delivered in the same segment. -/
def DeliveredAtOnce (cfg : TransportConfig) (c : String) (tr : List TransportEvent)
    (s : TransportState) : Prop :=
  ∀ before b project after, tr = before ++ .handed c b project :: after →
    ∃ tr₁ s₁ a s₂ tr₂ pre deliveries rest,
      Run (transportMachine cfg) (fun _ _ => True) tr₁ s₁ ∧
      transportStep cfg s₁ a =
        some (s₂, pre ++ .handed c b project :: (deliveries ++ rest)) ∧
      RunFrom (transportMachine cfg) (fun _ _ => True) s₂ tr₂ s ∧
      before = tr₁ ++ pre ∧ after = deliveries ++ rest ++ tr₂ ∧
      DeliveredNext cfg s₁ a c b project pre deliveries rest

section Deliveries

variable {cfg : TransportConfig} {s s' : TransportState} {a : TransportAction}
  {pre post : List TransportEvent} {c : String} {b : Broadcast} {project project' : Projector}

/-- Handing out starts with the mark of the first broadcast and its deliveries. -/
theorem forEach_handOut_cons (first : Broadcast) (bs : List Broadcast) (s : TransportState) :
    (Emits.forEach (TransportState.handOut c project) (first :: bs) s).2 =
      .handed c first project :: ((deliverAll c project first s.net).2.map .net ++
        (Emits.forEach (TransportState.handOut c project) bs
          { s with net := (deliverAll c project first s.net).1 }).2) :=
  rfl

/-- What handing out several broadcasts looks like at each of their marks. -/
theorem deliveries_of_forEach_handOut {bs : List Broadcast}
    (h : (Emits.forEach (TransportState.handOut c project) bs s).2 =
      pre ++ .handed c b project' :: post) :
    project' = project ∧ ∃ rest, post = (deliverAll c project b
        (Emits.forEach (deliverAll c project) (handedOut c pre) s.net).1).2.map .net ++ rest ∧
      (rest = [] ∨ ∃ b' rest', rest = .handed c b' project :: rest') := by
  induction bs generalizing s pre with
  | nil => cases pre <;> cases h
  | cons first bs ih =>
    rw [forEach_handOut_cons] at h
    cases pre with
    | nil =>
      obtain ⟨hmark, rfl⟩ := List.cons.inj h
      cases hmark
      refine ⟨rfl, _, rfl, ?_⟩
      cases bs with
      | nil => exact .inl rfl
      | cons second bs => exact .inr ⟨second, _, forEach_handOut_cons second bs _⟩
    | cons mark pre =>
      obtain ⟨rfl, hlater⟩ := List.cons.inj h
      -- the deliveries of the first one hold no mark
      obtain ⟨mid, rfl, hmid⟩ := exists_of_split hlater (by
        intro hmem
        obtain ⟨n, -, heq⟩ := List.mem_map.1 hmem
        cases heq)
      have hrest : handedOut c ((deliverAll c project first s.net).2.map .net ++ mid) =
          handedOut c mid := by
        rw [handedOut_append, handedOut_map_net, List.nil_append]
      have hhanded : handedOut c (.handed c first project ::
          ((deliverAll c project first s.net).2.map .net ++ mid)) =
            first :: handedOut c mid := by
        rw [← hrest]
        exact List.filterMap_cons_some (if_pos rfl)
      have hnet : (Emits.forEach (deliverAll c project) (first :: handedOut c mid) s.net).1 =
          (Emits.forEach (deliverAll c project) (handedOut c mid)
            (deliverAll c project first s.net).1).1 := rfl
      rw [hhanded, hnet]
      exact ih hmid

/-- **A broadcast is delivered in the segment in which it is handed out.** -/
theorem delivered_of_transportStep
    (h : transportStep cfg s a = some (s', pre ++ .handed c b project :: post)) :
    ∃ deliveries rest, post = deliveries ++ rest ∧
      DeliveredNext cfg s a c b project pre deliveries rest := by
  have hmark : b ∈ handedOut c (pre ++ .handed c b project :: post) :=
    List.mem_filterMap.2 ⟨_, List.mem_append_right pre List.mem_cons_self, if_pos rfl⟩
  rcases handOut_of_transportStep h c with ⟨hnone, -⟩ | ⟨project', bs, start, s₀, hlast⟩
  · rw [hnone] at hmark
    cases hmark
  · -- the marks of the step stand in its last part
    have hstart : .handed c b project ∉ start := by
      intro hmem
      have hb : b ∈ handedOut c start := List.mem_filterMap.2 ⟨_, hmem, if_pos rfl⟩
      rw [hlast.before] at hb
      cases hb
    obtain ⟨mid, rfl, hmid⟩ := exists_of_split hlast.events.symm hstart
    obtain ⟨rfl, rest, rfl, hnext⟩ := deliveries_of_forEach_handOut hmid
    refine ⟨_, rest, rfl, ?_, hnext⟩
    rw [handedOut_append, hlast.before, List.nil_append, hlast.at_handOut]

theorem deliveredAtOnce_of_run {tr : List TransportEvent}
    (h : Run (transportMachine cfg) (fun _ _ => True) tr s) : DeliveredAtOnce cfg c tr s := by
  intro before b project after htr
  obtain ⟨tr₁, s₁, a, s₂, pre, post, tr₂, hrun, -, hstep, hrest, hbefore, hafter⟩ := h.split htr
  obtain ⟨deliveries, rest, rfl, hdelivered⟩ := delivered_of_transportStep hstep
  exact ⟨tr₁, s₁, a, s₂, tr₂, pre, deliveries, rest, hrun, hstep, hrest, hbefore, hafter,
    hdelivered⟩

end Deliveries

/-- **The invalidation protocol.** -/
theorem invalidation_protocol (cfg : TransportConfig) {tr : List TransportEvent}
    {s : TransportState} (h : Run (transportMachine cfg) (fun _ _ => True) tr s) (c : String) :
    (s.pendingInvalidations.get? c).map (·.refcount) =
        (if s.invalidationsInFlight c = 0 then none else some (s.invalidationsInFlight c)) ∧
      handedOut c tr ++ s.queued c = broadcasted c tr ∧
      DeliveredAtOnce cfg c tr s ∧
      EachAfter (HandedWhenIdle c) tr ∧ EachAfter (CachedByLatest c) tr := by
  have hinv : ProtocolInv c tr s := .of_run h
  refine ⟨hinv.refcount, hinv.order, deliveredAtOnce_of_run h, ?_, ?_⟩
  · refine h.invariant (I := fun tr _ => EachAfter (HandedWhenIdle c) tr) (eachAfter_nil _)
      fun hrun htr _ hstep => ?_
    exact htr.append (handed_step (.of_run hrun) (fresh_of_run hrun) hstep)
  · refine h.invariant (I := fun tr _ => EachAfter (CachedByLatest c) tr) (eachAfter_nil _)
      fun hrun htr _ hstep => ?_
    exact htr.append (cached_step (.of_run hrun) hstep)

/-- Two overlapping calls, the later one answered first and the earlier one rejected: the event that
is broadcast meanwhile reaches the connection, once. -/
theorem invalidation_protocol_overlapping :
    ∃ tr s, Run (transportMachine ⟨2, true⟩) (fun _ _ => True) tr s ∧
      handedOut "cred_1" tr = [⟨0, .other "message.visible"⟩] ∧
      (framesSent 0 (netEvents tr)).map (·.origin) = [some 0] ∧
      handedOut "cred_1" tr ++ s.queued "cred_1" = broadcasted "cred_1" tr ∧
      DeliveredAtOnce ⟨2, true⟩ "cred_1" tr s ∧
      EachAfter (HandedWhenIdle "cred_1") tr ∧ EachAfter (CachedByLatest "cred_1") tr := by
  obtain ⟨tr, s, hrun, htest⟩ := exists_run_of_exec_of_forall (transportMachine ⟨2, true⟩)
    (fun _ _ => True)
    (openAuthenticated 0 0 none ++
      [.invalidate "cred_1", .invalidate "cred_1",
        .broadcast "cred_1" (.other "message.visible") passAll,
        .looked 3 (.ok oneChatRecord) passAll, .looked 2 .rejected passAll])
    (fun tr _ => handedOut "cred_1" tr = [⟨0, .other "message.visible"⟩] &&
      (framesSent 0 (netEvents tr)).map (·.origin) = [some 0])
    (fun _ _ _ => trivial) (by decide +kernel)
  obtain ⟨hhanded, hsent⟩ := Bool.and_eq_true_iff.1 htest
  obtain ⟨-, horder, hdelivered, hidle, hcached⟩ := invalidation_protocol ⟨2, true⟩ hrun "cred_1"
  exact ⟨tr, s, hrun, of_decide_eq_true hhanded, of_decide_eq_true hsent, horder, hdelivered,
    hidle, hcached⟩

end Signet.Ws
