import Signet.Ws.InvalidationProtocol
import Signet.Ws.ReplayHistory

/-!
# Broadcasts and frames

A broadcast that is handed out gets a number in the history of the credential for each connection
that takes it (`receiversOf`): a frame with this origin is sequenced, and sent if the socket is
open (`handOuts_spec`). A step hands out in one piece, at its end (`handOut_of_transportStep`).

`sent_of_transportStep` says who else sends on a connection, and `sequenced_of_transportStep` that
a frame gets an origin only when a broadcast is handed out.
-/

namespace Signet.Ws

open Lib

/-! ### Numbers of broadcasts -/

section Numbers

variable {cfg : TransportConfig} {s s' : TransportState} {a : TransportAction}
  {tr es : List TransportEvent} {c : String}

theorem broadcasted_of_transportStep (h : transportStep cfg s a = some (s', es))
    (hno : ∀ event project, a ≠ .broadcast c event project) : broadcasted c es = [] := by
  -- most steps only report events of the connections
  have hquiet : IsQuiet s a → broadcasted c es = [] := by
    intro hq
    obtain ⟨-, -, ns, hns⟩ := (transportStep_core h).quiet hq
    dsimp only at hns
    rw [hns, broadcasted_map_net]
  cases a with
  | broadcast c' event project =>
    have hne : c' ≠ c := by
      rintro rfl
      exact hno event project rfl
    obtain ⟨-, -, hes⟩ := elsewhere_step (c := c) h hne
    exact broadcasted_of_unconcerned hes
  | invalidate c' =>
    cases h
    rfl
  | looked call answer project =>
    by_cases hq : IsQuiet s (.looked call answer project)
    · exact hquiet hq
    · obtain ⟨c', generation, hcall⟩ : ∃ c' generation,
          s.calls.get? call = some (.invalidating c' generation) := by
        by_contra hnone
        exact hq fun c' generation hcall => hnone ⟨c', generation, hcall⟩
      -- an answered invalidation hands out what was queued, and calls no broadcast
      obtain ⟨ns, out, rfl, hout⟩ := answered_events hcall h
      refine List.filterMap_eq_nil_iff.2 fun e he => ?_
      rcases List.mem_append.1 he with hnet | hrest
      · obtain ⟨n, -, rfl⟩ := List.mem_map.1 hnet
        rfl
      · rcases List.mem_cons.1 hrest with rfl | hrest
        · rfl
        · obtain ⟨_, _, _, _, _, rfl⟩ | ⟨n, rfl, -⟩ := hout e hrest
          · rfl
          · rfl
  | _ => exact hquiet trivial

theorem broadcast_step {event : SignetEvent} {project : Projector}
    (h : transportStep cfg s (.broadcast c event project) = some (s', es)) :
    s'.broadcasts = s.broadcasts + 1 ∧ broadcasted c es = [⟨s.broadcasts, event⟩] := by
  cases h
  cases hpending : s.pendingInvalidations.get? c with
  | none =>
    have heq := @broadcastToCredential_of_none c project ⟨s.broadcasts, event⟩
      { s with broadcasts := s.broadcasts + 1 } hpending
    obtain ⟨ns, hevents, -⟩ := @handOut_events c project ⟨s.broadcasts, event⟩
      { s with broadcasts := s.broadcasts + 1 }
    rw [heq, hevents]
    refine ⟨rfl, ?_⟩
    have hrest : broadcasted c (.handed c ⟨s.broadcasts, event⟩ project :: ns.map .net) = [] := by
      rw [← @broadcasted_map_net c ns]
      exact List.filterMap_cons_none rfl
    rw [← hrest]
    exact List.filterMap_cons_some (if_pos rfl)
  | some pending =>
    unfold TransportState.broadcastToCredential
    dsimp only
    rw [hpending]
    exact ⟨rfl, List.filterMap_cons_some (if_pos rfl)⟩

/-- The broadcasts for a credential are numbered in the order of the calls. -/
theorem broadcasted_numbers {ok : TransportState → TransportAction → Prop}
    (h : Run (transportMachine cfg) ok tr s) :
    ((broadcasted c tr).map (·.number)).Pairwise (· < ·) ∧
      ∀ b ∈ broadcasted c tr, b.number < s.broadcasts := by
  -- all numbers so far are below the counter, so the next one is the largest
  refine h.invariant (I := fun tr s => ((broadcasted c tr).map (·.number)).Pairwise (· < ·) ∧
    ∀ b ∈ broadcasted c tr, b.number < s.broadcasts) ⟨.nil, nofun⟩
    fun {tr s a s' es} _ hI _ hstep => ?_
  obtain ⟨horder, hlt⟩ := hI
  rw [broadcasted_append]
  by_cases ha : ∃ event project, a = .broadcast c event project
  · obtain ⟨event, project, rfl⟩ := ha
    obtain ⟨hnext, hes⟩ := @broadcast_step cfg _ _ _ _ _ _ hstep
    rw [hes, hnext]
    constructor
    · rw [List.map_append]
      refine List.pairwise_append.2 ⟨horder, List.pairwise_singleton _ _, fun n hn n' hn' => ?_⟩
      obtain ⟨b, hb, rfl⟩ := List.mem_map.1 hn
      rw [List.mem_singleton.1 hn']
      exact hlt b hb
    · intro b hb
      rcases List.mem_append.1 hb with hold | hnew
      · exact Nat.lt_succ_of_lt (hlt b hold)
      · rw [List.mem_singleton.1 hnew]
        exact Nat.lt_succ_self _
  · have hno : ∀ event project, a ≠ .broadcast c event project :=
      fun event project heq => ha ⟨event, project, heq⟩
    rw [broadcasted_of_transportStep hstep hno, List.append_nil]
    refine ⟨horder, fun b hb => Nat.lt_of_lt_of_le (hlt b hb) ?_⟩
    by_cases hother : ∃ c' event project, a = .broadcast c' event project
    · obtain ⟨c', event, project, rfl⟩ := hother
      obtain ⟨hnext, -⟩ := @broadcast_step cfg _ _ _ _ _ _ hstep
      rw [hnext]
      exact Nat.le_succ _
    · have hsame := (transportStep_core hstep).broadcasts
        fun c' event project heq => hother ⟨c', event, project, heq⟩
      exact hsame.ge

end Numbers

/-! ### Handing out -/

section HandOut

variable {cfg : TransportConfig} {s s' : TransportState} {a : TransportAction}
  {es : List TransportEvent} {c : String} {project : Projector}

theorem drain_eq {bs : List Broadcast} (hnone : s.pendingInvalidations.get? c = none) :
    Emits.forEach (TransportState.broadcastToCredential c project) bs s =
      Emits.forEach (TransportState.handOut c project) bs s := by
  induction bs generalizing s with
  | nil => rfl
  | cons b bs ih =>
    have heq := @broadcastToCredential_of_none c project b s hnone
    obtain ⟨states, hframe⟩ := @handOut_frame c project b s
    have hrest : Emits.forEach (TransportState.broadcastToCredential c project) bs
        (TransportState.handOut c project b s).1 =
        Emits.forEach (TransportState.handOut c project) bs
          (TransportState.handOut c project b s).1 := by
      refine ih ?_
      rw [hframe]
      exact hnone
    show ((Emits.forEach (TransportState.broadcastToCredential c project) bs
        (TransportState.broadcastToCredential c project b s).1).1,
      (TransportState.broadcastToCredential c project b s).2 ++
        (Emits.forEach (TransportState.broadcastToCredential c project) bs
          (TransportState.broadcastToCredential c project b s).1).2) = _
    rw [heq, hrest]
    rfl

theorem forEach_handOut_net (bs : List Broadcast) (s : TransportState) :
    ∃ states, (Emits.forEach (TransportState.handOut c project) bs s).1.net =
      { s.net with credentialStates := states } := by
  induction bs generalizing s with
  | nil => exact ⟨s.net.credentialStates, rfl⟩
  | cons b bs ih =>
    obtain ⟨first, hfirst⟩ := @handOut_frame c project b s
    obtain ⟨rest, hrest⟩ := ih (TransportState.handOut c project b s).1
    refine ⟨rest, ?_⟩
    show (Emits.forEach (TransportState.handOut c project) bs
      (TransportState.handOut c project b s).1).1.net = _
    rw [hrest, hfirst]

/-- The step ends with handing out broadcasts for the credential. -/
structure HandsOutLast (cfg : TransportConfig) (s : TransportState) (a : TransportAction)
    (c : String) (r : TransportState × List TransportEvent) (project : Projector)
    (bs : List Broadcast) (pre : List TransportEvent) (s₀ : TransportState) : Prop where
  events : r.2 = pre ++ (Emits.forEach (TransportState.handOut c project) bs s₀).2
  net : r.1.net = (Emits.forEach (TransportState.handOut c project) bs s₀).1.net
  before : handedOut c pre = []
  quiet : ∀ n ∈ netEvents pre, n.isDelivery = false
  at_handOut : s₀.net = handOutNet cfg s a
  part : RunFrom (netMachine cfg) (NetOpOf cfg s a) s.net (netEvents pre) s₀.net
  hands : ∀ b ∈ bs, HandsOut s a c b project

/-- **Where a step hands out.** -/
theorem handOut_of_transportStep (h : transportStep cfg s a = some (s', es)) (c : String) :
    (handedOut c es = [] ∧ ∀ b project, ¬ HandsOut s a c b project) ∨
      ∃ project bs pre s₀, HandsOutLast cfg s a c (s', es) project bs pre s₀ := by
  by_cases helse : Elsewhere c s a
  · refine .inl ⟨handedOut_of_unconcerned (elsewhere_step h helse).2.2, fun b project hhands => ?_⟩
    cases hhands with
    | direct => exact helse rfl
    | drained hcall => exact helse _ hcall
  · cases a with
    | broadcast c' event project =>
      obtain rfl : c' = c := not_not.1 helse
      cases h
      cases hpending : s.pendingInvalidations.get? c' with
      | none =>
        have heq := @broadcastToCredential_of_none c' project ⟨s.broadcasts, event⟩
          { s with broadcasts := s.broadcasts + 1 } hpending
        refine .inr ⟨project, [⟨s.broadcasts, event⟩], [.broadcasted c' ⟨s.broadcasts, event⟩],
          { s with broadcasts := s.broadcasts + 1 }, ?_, ?_, rfl, (by rintro _ ⟨⟩), rfl, .nil,
            fun b hb => ?_⟩
        · rw [heq]
          show _ :: _ = _ :: (_ ++ [])
          rw [List.append_nil]
        · rw [heq]
          rfl
        · rw [List.mem_singleton.1 hb]
          exact .direct hpending
      | some pending =>
        refine .inl ⟨?_, fun b project' hhands => ?_⟩
        · unfold TransportState.broadcastToCredential
          dsimp only
          rw [hpending]
          rfl
        · cases hhands with
          | direct hnone =>
            rw [hpending] at hnone
            cases hnone
    | invalidate c' =>
      cases h
      exact .inl ⟨rfl, fun b project hhands => by cases hhands⟩
    | looked call answer project =>
      obtain ⟨generation, hcall⟩ : ∃ generation,
          s.calls.get? call = some (.invalidating c generation) := by
        by_contra hnone
        exact helse fun generation hcall => hnone ⟨generation, hcall⟩
      have hpart := @part_applyInvalidation cfg s call generation answer project c hcall
      have hpending := @applyInvalidation_pending cfg (s.finish call) call generation answer c
      obtain ⟨ns, hns, hquiet⟩ :=
        @applyInvalidation_events cfg (s.finish call) call generation c answer
      have hnet : handOutNet cfg s (.looked call answer project) =
          (TransportState.applyInvalidation cfg c generation call answer
            (s.finish call)).1.net := by
        simp only [handOutNet, hcall]
      simp only [transportStep, lookupStep, hcall] at h
      cases h
      unfold PartOf at hpart
      generalize happly : TransportState.applyInvalidation cfg c generation call answer
        (s.finish call) = applied at hpart hpending hns hnet
      rw [hns]
      rw [hns] at hpart
      cases hentry : s.pendingInvalidations.get? c with
      | none =>
        have hrelease : TransportState.releaseInvalidation c call project applied.1 =
            (applied.1, [.invalidated c call]) := by
          unfold TransportState.releaseInvalidation
          rw [hpending, show (s.finish call).pendingInvalidations.get? c = none from hentry]
        refine .inl ⟨?_, fun b project' hhands => ?_⟩
        · rw [hrelease, handedOut_append, handedOut_map_net]
          rfl
        · cases hhands with
          | drained _ hentry' =>
            rw [hentry] at hentry'
            cases hentry'
      | some entry =>
        -- what the answer does to the connections leaves the queue
        have hentry' : applied.1.pendingInvalidations.get? c = some entry := by
          rw [hpending]
          exact hentry
        -- only the last invalidation of the credential hands the queue out
        by_cases hlast : entry.refcount ≤ 1
        · have hdrain := @drain_eq
            { applied.1 with pendingInvalidations := applied.1.pendingInvalidations.erase c } c
            project entry.events (OrdMap.get?_erase_self _ _)
          have hrelease : TransportState.releaseInvalidation c call project applied.1 =
              ((Emits.forEach (TransportState.handOut c project) entry.events
                { applied.1 with
                  pendingInvalidations := applied.1.pendingInvalidations.erase c }).1,
                .invalidated c call :: (Emits.forEach (TransportState.handOut c project)
                  entry.events { applied.1 with
                    pendingInvalidations := applied.1.pendingInvalidations.erase c }).2) := by
            unfold TransportState.releaseInvalidation
            rw [hentry']
            dsimp only
            rw [if_pos hlast, hdrain]
          refine .inr ⟨project, entry.events, ns.map .net ++ [.invalidated c call],
            { applied.1 with pendingInvalidations := applied.1.pendingInvalidations.erase c },
            ?_, ?_, ?_, ?_, hnet.symm, ?_, fun b hb => .drained hcall hentry hlast hb⟩
          · rw [hrelease, List.append_assoc]
            rfl
          · rw [hrelease]
          · rw [handedOut_append, handedOut_map_net]
            rfl
          · rw [netEvents_append, netEvents_map]
            exact fun n hn => hquiet n ((List.mem_append.1 hn).resolve_right (by rintro ⟨⟩))
          · rw [netEvents_append, netEvents_map] at *
            rw [show netEvents [TransportEvent.invalidated c call] = [] from rfl, List.append_nil]
            exact hpart
        · have hrelease : handedOut c
              (TransportState.releaseInvalidation c call project applied.1).2 = [] := by
            obtain ⟨hle, -⟩ | ⟨-, -, hnone⟩ :=
              @ProtocolInv.releaseInvalidation_cases applied.1 c call project entry hentry'
            · exact absurd hle hlast
            · exact hnone
          refine .inl ⟨?_, fun b project' hhands => ?_⟩
          · rw [handedOut_append, handedOut_map_net, hrelease]
            rfl
          · cases hhands with
            | drained _ hentry'' hle =>
              rw [hentry] at hentry''
              cases hentry''
              exact hlast hle
    | _ => exact absurd trivial helse

end HandOut

/-! ### The frames of a hand-out -/

/-- The connection takes an event that is handed out. -/
def takes (net : Net) (project : Projector) (event : SignetEvent) (connectionId : Nat) : Bool :=
  ((net.connections.get? connectionId).bind (·.receiver?)).any fun credential =>
    (project event credential.record).isSome

section Frames

variable {cfg : TransportConfig} {net : Net} {ns : List NetEvent} {c : String}
  {project : Projector} {b : Broadcast}

/-- A connection that does not take the event gets no frame. -/
theorem deliver_of_not_takes {id : Nat} (h : takes net project b.event id = false) :
    (deliver c b project id net).1 = net ∧
      ∀ n ∈ (deliver c b project id net).2, ∃ lookup, n = .projected id c b.number lookup := by
  unfold takes at h
  unfold deliver
  cases hreceiver : (net.connections.get? id).bind (·.receiver?) with
  | none => exact ⟨rfl, nofun⟩
  | some credential =>
    rw [hreceiver, Option.any_some, Option.isSome_eq_false_iff, Option.isNone_iff_eq_none] at h
    dsimp only
    rw [h]
    refine ⟨rfl, fun n hn => ?_⟩
    rcases List.mem_append.1 hn with hmark | hnil
    · dsimp only at hmark
      split at hmark
      · exact ⟨credential.lookup, List.mem_singleton.1 hmark⟩
      · cases hmark
    · cases hnil

theorem deliver_of_takes {id : Nat} (h : takes net project b.event id = true) :
    ∃ projected mark, (∀ n ∈ mark, ∃ lookup, n = .projected id c b.number lookup) ∧
      deliver c b project id net =
        ((Net.sendSequenced id (projected, some b.number) net).1,
          mark ++ (Net.sendSequenced id (projected, some b.number) net).2) := by
  unfold takes at h
  unfold deliver
  cases hreceiver : (net.connections.get? id).bind (·.receiver?) with
  | none =>
    rw [hreceiver] at h
    cases h
  | some credential =>
    rw [hreceiver, Option.any_some] at h
    obtain ⟨projected, hprojected⟩ := Option.isSome_iff_exists.1 h
    refine ⟨projected, if net.isOpen id then [.projected id c b.number credential.lookup] else [],
      fun n hn => ?_, ?_⟩
    · split at hn
      · exact ⟨credential.lookup, List.mem_singleton.1 hn⟩
      · cases hn
    · dsimp only
      rw [hprojected]
      rfl

theorem sequencedFrames_marks {c' : String} {marks : List NetEvent}
    (h : ∀ n ∈ marks, ∃ id b lookup, n = .projected id c b lookup) :
    sequencedFrames c' marks = [] := by
  refine List.eq_nil_iff_forall_not_mem.2 fun f hf => ?_
  obtain ⟨_, _, _, heq⟩ := h _ (mem_sequencedFrames.1 hf)
  cases heq

theorem HistoryInv.append_marks {marks : List NetEvent} (h : HistoryInv cfg ns net)
    (hmarks : ∀ n ∈ marks, ∃ id b lookup, n = .projected id c b lookup) :
    HistoryInv cfg (ns ++ marks) net :=
  h.of_shrinks (W := fun _ _ => False) (.refl net) rfl fun _ => sequencedFrames_marks hmarks

/-- A turn of a hand-out for a connection of the credential. -/
theorem deliver_spec (h : HistoryInv cfg ns net) {id : Nat} {d : ConnectionData}
    (hd : net.connections.get? id = some d) (hbound : d.credentialId = some c) :
    HistoryInv cfg (ns ++ (deliver c b project id net).2) (deliver c b project id net).1 ∧
    (sequencedFrames c (deliver c b project id net).2).map (·.origin) =
      (if takes net project b.event id then [some b.number] else []) ∧
    (takes net project b.event id = true → net.isOpen id = true →
      ∃ f ∈ framesSent id (deliver c b project id net).2, f.origin = some b.number) := by
  cases htakes : takes net project b.event id with
  -- not taken: at most a mark, and no frame
  | false =>
    obtain ⟨hnet, hmarks⟩ := @deliver_of_not_takes net c project b id htakes
    have hmarks' : ∀ n ∈ (deliver c b project id net).2,
        ∃ id b lookup, n = .projected id c b lookup := fun n hn => by
      obtain ⟨lookup, heq⟩ := hmarks n hn
      exact ⟨id, b.number, lookup, heq⟩
    rw [hnet, sequencedFrames_marks hmarks']
    exact ⟨h.append_marks hmarks', rfl, nofun⟩
  -- taken: one frame, numbered with the broadcast
  | true =>
    obtain ⟨projected, marks, hmarks, heq⟩ := @deliver_of_takes net c project b id htakes
    have hmarks' : ∀ n ∈ marks, ∃ id b lookup, n = .projected id c b lookup := fun n hn => by
      obtain ⟨lookup, heq⟩ := hmarks n hn
      exact ⟨id, b.number, lookup, heq⟩
    obtain ⟨st, -, hsent⟩ := h.sendSequenced_of_bound (projected, some b.number) hd hbound
    have hhistory := @HistoryInv.sendSequenced cfg _ _ (h.append_marks hmarks') id
      (projected, some b.number)
    rw [heq]
    refine ⟨?_, ?_, fun _ hopen => ⟨st.frame (projected, some b.number), ?_, rfl⟩⟩
    · rw [← List.append_assoc]
      exact hhistory
    · rw [sequencedFrames_append, sequencedFrames_marks hmarks', hsent, List.nil_append,
        sequencedFrames_cons_self, sequencedFrames_sent]
      rfl
    · rw [mem_framesSent, hsent, if_pos hopen]
      exact List.mem_append_right marks (List.mem_cons_of_mem _ List.mem_cons_self)

theorem forEach_deliver_spec {ids : List Nat} (h : HistoryInv cfg ns net)
    (hids : ∀ id ∈ ids, ∃ d, net.connections.get? id = some d ∧ d.credentialId = some c) :
    HistoryInv cfg (ns ++ (Emits.forEach (deliver c b project) ids net).2)
      (Emits.forEach (deliver c b project) ids net).1 ∧
    (sequencedFrames c (Emits.forEach (deliver c b project) ids net).2).map (·.origin) =
      List.replicate (ids.filter (takes net project b.event)).length (some b.number) ∧
    ∀ id ∈ ids, takes net project b.event id = true → net.isOpen id = true →
      ∃ f ∈ framesSent id (Emits.forEach (deliver c b project) ids net).2,
        f.origin = some b.number := by
  induction ids generalizing ns net with
  | nil =>
    refine ⟨?_, rfl, nofun⟩
    show HistoryInv cfg (ns ++ []) net
    rw [List.append_nil]
    exact h
  | cons id ids ih =>
    obtain ⟨d, hd, hbound⟩ := hids id List.mem_cons_self
    obtain ⟨hfirst, horigins, hsent⟩ := @deliver_spec cfg net ns c project b h id d hd hbound
    -- the connections stay, and so do those that take the event
    obtain ⟨states, hframe⟩ := @deliver_frame c project b id net
    have htakes : takes (deliver c b project id net).1 project b.event =
        takes net project b.event := by
      rw [hframe]
      rfl
    have hisOpen : ∀ id', (deliver c b project id net).1.isOpen id' = net.isOpen id' := by
      intro id'
      rw [hframe]
      rfl
    have hids' : ∀ id' ∈ ids, ∃ d, (deliver c b project id net).1.connections.get? id' = some d ∧
        d.credentialId = some c := by
      intro id' hid'
      rw [hframe]
      exact hids id' (List.mem_cons_of_mem id hid')
    obtain ⟨hrest, horigins', hsent'⟩ := ih hfirst hids'
    refine ⟨?_, ?_, fun id' hid' htake hopen => ?_⟩
    · show HistoryInv cfg (ns ++ ((deliver c b project id net).2 ++
        (Emits.forEach (deliver c b project) ids (deliver c b project id net).1).2)) _
      rw [← List.append_assoc]
      exact hrest
    · show (sequencedFrames c ((deliver c b project id net).2 ++
        (Emits.forEach (deliver c b project) ids (deliver c b project id net).1).2)).map _ = _
      rw [sequencedFrames_append, List.map_append, horigins, horigins', htakes]
      cases hid : takes net project b.event id with
      | true =>
        rw [List.filter_cons_of_pos hid]
        rfl
      | false =>
        rw [List.filter_cons_of_neg (by rw [hid]; nofun)]
        rfl
    · show ∃ f ∈ framesSent id' ((deliver c b project id net).2 ++
        (Emits.forEach (deliver c b project) ids (deliver c b project id net).1).2), _
      rw [framesSent_append]
      rcases List.mem_cons.1 hid' with rfl | hid'
      · obtain ⟨f, hf, horigin⟩ := hsent htake hopen
        exact ⟨f, List.mem_append_left _ hf, horigin⟩
      · obtain ⟨f, hf, horigin⟩ := hsent' id' hid' (by rw [htakes]; exact htake)
          (by rw [hisOpen]; exact hopen)
        exact ⟨f, List.mem_append_right _ hf, horigin⟩

/-- What comes of a broadcast once it is handed out. -/
structure HandedSpec (net : Net) (c : String) (project : Projector) (b : Broadcast)
    (after : List NetEvent) : Prop where
  sequenced : receiversOf net c project b.event ≠ [] →
    ∃ f ∈ sequencedFrames c after, f.origin = some b.number
  sent : ∀ id ∈ receiversOf net c project b.event, net.isOpen id = true →
    ∃ f ∈ framesSent id after, f.origin = some b.number

theorem HandedSpec.append {after after' : List NetEvent} (h : HandedSpec net c project b after) :
    HandedSpec net c project b (after ++ after') where
  sequenced hne := by
    obtain ⟨f, hf, horigin⟩ := h.sequenced hne
    exact ⟨f, sequencedFrames_append ▸ List.mem_append_left _ hf, horigin⟩
  sent id hid hopen := by
    obtain ⟨f, hf, horigin⟩ := h.sent id hid hopen
    exact ⟨f, framesSent_append ▸ List.mem_append_left _ hf, horigin⟩

/-- **What is sent when broadcasts are handed out.** -/
theorem handOuts_spec {bs : List Broadcast} {s : TransportState} (h : HistoryInv cfg ns s.net) :
    HistoryInv cfg
      (ns ++ netEvents (Emits.forEach (TransportState.handOut c project) bs s).2)
      (Emits.forEach (TransportState.handOut c project) bs s).1.net ∧
    ((∀ b ∈ bs, (receiversOf s.net c project b.event).length ≤ 1) →
      ((sequencedFrames c (netEvents (Emits.forEach (TransportState.handOut c project) bs
        s).2)).map (·.origin)).Sublist (bs.map fun b => some b.number)) ∧
    handedOut c (Emits.forEach (TransportState.handOut c project) bs s).2 = bs ∧
    ∀ before b project' after, (Emits.forEach (TransportState.handOut c project) bs s).2 =
        before ++ .handed c b project' :: after →
      b ∈ bs ∧ project' = project ∧ HandedSpec s.net c project b (netEvents after) := by
  induction bs generalizing ns s with
  | nil =>
    refine ⟨?_, fun _ => .slnil, rfl, fun before b project' after heq => ?_⟩
    · show HistoryInv cfg (ns ++ []) s.net
      rw [List.append_nil]
      exact h
    · cases before <;> cases heq
  | cons b bs ih =>
    have hids : ∀ id ∈ s.net.getByCredentialId c,
        ∃ d, s.net.connections.get? id = some d ∧ d.credentialId = some c := by
      intro id hid
      exact (Net.mem_getByCredentialId.1 hid).2
    obtain ⟨hfirst, horigins, hsent⟩ := @forEach_deliver_spec cfg s.net ns c project b _ h hids
    -- the loop over the connections for the first broadcast; the others follow on what it leaves
    generalize hloop : Emits.forEach (deliver c b project) (s.net.getByCredentialId c) s.net = loop
      at hfirst horigins hsent
    obtain ⟨states, hframe⟩ := @handOut_frame c project b s
    have hhand : TransportState.handOut c project b s =
        ({ s with net := loop.1 }, .handed c b project :: loop.2.map .net) := by
      rw [← hloop]
      rfl
    have hevents : (Emits.forEach (TransportState.handOut c project) (b :: bs) s).2 =
        .handed c b project :: loop.2.map .net ++
          (Emits.forEach (TransportState.handOut c project) bs { s with net := loop.1 }).2 := by
      show (TransportState.handOut c project b s).2 ++ _ = _
      rw [hhand]
    have hnet : (Emits.forEach (TransportState.handOut c project) (b :: bs) s).1.net =
        (Emits.forEach (TransportState.handOut c project) bs { s with net := loop.1 }).1.net := by
      show (Emits.forEach (TransportState.handOut c project) bs
        (TransportState.handOut c project b s).1).1.net = _
      rw [hhand]
    have hspec : HandedSpec s.net c project b loop.2 := by
      constructor
      · intro hne
        -- as many frames as connections that take the event
        have hlen := congrArg List.length horigins
        rw [List.length_map, List.length_replicate] at hlen
        obtain ⟨f, hf⟩ : ∃ f, f ∈ sequencedFrames c loop.2 := by
          refine List.exists_mem_of_length_pos ?_
          rw [hlen]
          exact List.length_pos_of_ne_nil hne
        have horigin : f.origin ∈ (sequencedFrames c loop.2).map (·.origin) :=
          List.mem_map_of_mem hf
        rw [horigins] at horigin
        exact ⟨f, hf, List.eq_of_mem_replicate horigin⟩
      · intro id hid hopen
        obtain ⟨hmem, htake⟩ := List.mem_filter.1 hid
        exact hsent id hmem htake hopen
    rw [hhand] at hframe
    have hloopnet : loop.1 = { s.net with credentialStates := states } :=
      congrArg TransportState.net hframe
    have hspecs : ∀ {b' after}, HandedSpec loop.1 c project b' after →
        HandedSpec s.net c project b' after := by
      intro b' after hspec
      rw [hloopnet] at hspec
      exact ⟨hspec.sequenced, hspec.sent⟩
    obtain ⟨hrest, hsub, hhanded, hlater⟩ := @ih (ns ++ loop.2) { s with net := loop.1 } hfirst
    have hnetEvents : netEvents (.handed c b project :: loop.2.map .net ++
        (Emits.forEach (TransportState.handOut c project) bs { s with net := loop.1 }).2) =
        loop.2 ++ netEvents
          (Emits.forEach (TransportState.handOut c project) bs { s with net := loop.1 }).2 := by
      rw [netEvents_append]
      exact congrArg (· ++ _) (netEvents_map loop.2)
    rw [hevents, hnet, hnetEvents]
    refine ⟨?_, fun hsingle => ?_, ?_, fun before b' project' after heq => ?_⟩
    · rw [← List.append_assoc]
      exact hrest
    · rw [sequencedFrames_append, List.map_append, List.map_cons, horigins]
      have hone : (List.replicate ((s.net.getByCredentialId c).filter
          (takes s.net project b.event)).length (some b.number)).Sublist [some b.number] := by
        have hle : ((s.net.getByCredentialId c).filter (takes s.net project b.event)).length ≤ 1 :=
          hsingle b List.mem_cons_self
        exact (List.replicate_sublist_replicate _).2 hle
      have htail : ∀ b' ∈ bs, (receiversOf loop.1 c project b'.event).length ≤ 1 := by
        intro b' hb'
        rw [hloopnet]
        exact hsingle b' (List.mem_cons_of_mem b hb')
      exact hone.append (hsub htail)
    · rw [handedOut_append, hhanded]
      have hself : handedOut c (.handed c b project :: loop.2.map .net) = [b] := by
        rw [← @handedOut_map_net c loop.2]
        exact List.filterMap_cons_some (if_pos rfl)
      rw [hself]
      rfl
    -- a mark is the first one, or one of the rest
    · rcases List.append_eq_append_iff.1 heq with ⟨mid, -, hmid⟩ | ⟨mid, hleft, hmid⟩
      · obtain ⟨hmem, hproject, hspec'⟩ := hlater mid b' project' after hmid
        exact ⟨List.mem_cons_of_mem b hmem, hproject, hspecs hspec'⟩
      · cases mid with
        | nil =>
          obtain ⟨hmem, hproject, hspec'⟩ := hlater [] b' project' after hmid.symm
          exact ⟨List.mem_cons_of_mem b hmem, hproject, hspecs hspec'⟩
        | cons e mid =>
          obtain ⟨rfl, rfl⟩ := List.cons.inj hmid
          cases before with
          | nil =>
            obtain ⟨heq', rfl⟩ := List.cons.inj hleft
            cases heq'
            refine ⟨List.mem_cons_self, rfl, ?_⟩
            show HandedSpec s.net c _ _ (netEvents (loop.2.map .net ++ _))
            rw [netEvents_append, netEvents_map]
            exact hspec.append
          | cons e before =>
            -- after the mark of a broadcast come the events on the connections
            have hmark : .handed c b' project' ∈ loop.2.map TransportEvent.net := by
              rw [(List.cons.inj hleft).2]
              exact List.mem_append_right before List.mem_cons_self
            obtain ⟨n, -, hn⟩ := List.mem_map.1 hmark
            cases hn

end Frames

/-! ### Who sends -/

section Senders

variable {cfg : TransportConfig} {ns : List NetEvent} {s s' : TransportState}
  {a : TransportAction} {es : List TransportEvent} {id : Nat}

/-- The occasions on which a step sends on a connection. -/
inductive Sends (cfg : TransportConfig) (s : TransportState) (id : Nat) :
    TransportAction → ServerFrame → Prop
  | reply {a : TransportAction} {frame : ServerFrame} (hframe : frame.isReply = true)
      (htarget : replyTarget s a = some id) : Sends cfg s id a frame
  | welcome {call : Nat} {fingerprint : String} {credential : Snapshot}
      {resume : CredentialReplayState.Resume} {frame : ServerFrame}
      (hcall : s.calls.get? call = some (.fingerprinting id credential resume)) :
      Sends cfg s id (.fingerprinted call fingerprint) frame
  | beat {lookup : Nat} {record : CredentialRecord} {project : Projector} {f : SequencedFrame}
      (hcall : s.calls.get? lookup = some (.heartbeat id)) (hactive : record.status = .active) :
      Sends cfg s id (.looked lookup (.ok record) project) (.sequenced f)
  | handOut {a : TransportAction} {c : String} {b : Broadcast} {project : Projector}
      {f : SequencedFrame} (hhands : HandsOut s a c b project)
      (hid : id ∈ receiversOf (handOutNet cfg s a) c project b.event) :
      Sends cfg s id a (.sequenced f)

/-- What is accepted or opened sends nothing. -/
theorem other_of_sent {frame : ServerFrame} (h : transportStep cfg s a = some (s', es))
    (hmem : .net (.sent id frame) ∈ es) :
    a ≠ .connect ∧ ∀ call id last record, ¬ Accepts s call id last record a := by
  constructor
  · rintro rfl
    cases h
    cases hmem
  · intro call id' last record haccepts
    obtain ⟨-, hevents⟩ := net_of_accepts h haccepts
    dsimp only at hevents
    rw [hevents] at hmem
    obtain ⟨n, hn, heq⟩ := List.mem_map.1 hmem
    cases heq
    cases @emittedBy cfg _ _ (.accept id' ⟨record, call⟩ last) hn

/-- **Who sends on a connection.** -/
theorem sent_of_transportStep {frame : ServerFrame} (h : transportStep cfg s a = some (s', es))
    (hmem : .net (.sent id frame) ∈ es) : s.net.isOpen id = true ∧ Sends cfg s id a frame := by
  obtain ⟨hconnect, haccepts⟩ := other_of_sent h hmem
  obtain ⟨ns, net, op, hrun, hop, hemitted⟩ := emitted_of_transportStep h hmem
  have hshrinks := shrinks_of_ops hrun hconnect haccepts
  have hback : net.isOpen id = true → s.net.isOpen id = true := by
    intro hopen
    obtain ⟨d', hd', hopen'⟩ := (Option.any_eq_true _ _).1 hopen
    obtain ⟨d, hd, hbelow⟩ := hshrinks.connections hd'
    unfold Net.isOpen
    rw [hd, Option.any_some]
    exact (hbelow.isOpen hopen').1
  cases hemitted with
  | sent hopen =>
    refine ⟨hback hopen, ?_⟩
    cases hop with
    | reply htarget hframe => exact .reply hframe htarget
    | authenticated hcall => exact .welcome hcall
    | replays hcall => exact .welcome hcall
  | sentSequenced _ _ hopen =>
    refine ⟨hback hopen, ?_⟩
    cases hop with
    | beats hcall hactive => exact .beat hcall hactive
    | recovers hcall => exact .welcome hcall
    | sends hhands hid => exact .handOut hhands hid
  | answered hopen =>
    refine ⟨hback hopen, ?_⟩
    cases hop with
    | endRequest htarget => exact .reply rfl htarget
  | timedOut hopen =>
    refine ⟨hback hopen, ?_⟩
    cases hop with
    | timeoutRequest htarget => exact .reply rfl htarget

/-- A frame is sequenced for a broadcast only when the broadcast is handed out. -/
theorem sequenced_of_transportStep {c : String} {f : SequencedFrame}
    (hinv : HistoryInv cfg ns s.net) (h : transportStep cfg s a = some (s', es))
    (hmem : .net (.sequenced c f) ∈ es) :
    f.origin = none ∨ ∃ b project, HandsOut s a c b project := by
  obtain ⟨ns', net, op, hrun, hop, hemitted⟩ := emitted_of_transportStep h hmem
  cases hemitted with
  | sequenced hbound hstate =>
    cases hop with
    | beats => exact .inl rfl
    | recovers => exact .inl rfl
    | @sends _ c' b project _ _ _ hhands hid hconn =>
      -- the connection is bound to the credential that is handed out to
      obtain ⟨d, hd, hreplay⟩ := Option.bind_eq_some_iff.1 hbound
      obtain ⟨-, d', hd', hcred⟩ := Net.mem_getByCredentialId.1 (List.mem_filter.1 hid).1
      rw [← hconn] at hd'
      cases hd.symm.trans hd'
      rw [((hinv.run hrun).bound _ d hd).1, hcred] at hreplay
      cases hreplay
      exact .inr ⟨b, project, hhands⟩

theorem phase_of_sent {ok : TransportState → TransportAction → Prop} {tr : List TransportEvent}
    {f : SequencedFrame} (hrun : Run (transportMachine cfg) ok tr s)
    (h : transportStep cfg s a = some (s', es)) (hmem : .net (.sent id (.sequenced f)) ∈ es) :
    ∃ d, s.net.connections.get? id = some d ∧ d.socketOpen = true ∧ d.phase ≠ .authenticating := by
  have hinv := historyInv_of_run hrun
  obtain ⟨hopen, hsends⟩ := sent_of_transportStep h hmem
  obtain ⟨d, hd, hsocket⟩ := (Option.any_eq_true _ _).1 hopen
  refine ⟨d, hd, hsocket, ?_⟩
  obtain ⟨hconnect, haccepts⟩ := other_of_sent h hmem
  obtain ⟨ns', net, op, hops, hop, hemitted⟩ := emitted_of_transportStep h hmem
  cases hemitted with
  | sent =>
    cases hop with
    | reply htarget hframe => cases hframe
    | replays hcall =>
      obtain ⟨d', hd', hphase⟩ := known_of_fingerprinting hrun hcall
      cases hd.symm.trans hd'
      exact hphase
  | sentSequenced hbound hstate =>
    obtain ⟨d', hd', hreplay⟩ := Option.bind_eq_some_iff.1 hbound
    obtain ⟨d₀, hd₀, hbelow⟩ := (shrinks_of_ops hops hconnect haccepts).connections hd'
    cases hd.symm.trans hd₀
    rw [hbelow.replayState, (hinv.bound id d hd).1] at hreplay
    -- an open connection with a replay state is active
    rcases hinv.live id d hd hsocket with ⟨-, hnone⟩ | ⟨hactive, -⟩
    · rw [hnone] at hreplay
      cases hreplay
    · rw [hactive]
      nofun

end Senders

end Signet.Ws
