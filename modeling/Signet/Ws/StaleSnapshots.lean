import Signet.Ws.InvalidationProtocol

/-!
# Snapshots after an invalidation

The record on which a broadcast is projected is written by five lookups: the token lookup, the
heartbeat, the request, the lookup after a mutating request, and the latest invalidation. Only the
last one is guarded, so a slow lookup of another kind can put an older record back
(`stale_record_projected`).

Promises are numbered as they are started; `FreshProjection` says that a broadcast is projected
with a record whose lookup is no older than any invalidation that has ended. It holds of every
run in which no other lookup delivers a record that is older than an invalidation that has ended,
and the latest invalidation does not reject (`NoStaleAnswer`, `fresh_projections`).
-/

namespace Signet.Ws

open Lib

/-- A broadcast for the credential is projected with a record that is not older than an
invalidation that has ended. -/
def FreshProjection (c : String) (before : List TransportEvent) (e : TransportEvent) : Prop :=
  ∀ connectionId b lookup, e = .net (.projected connectionId c b lookup) →
    ∀ call, .invalidated c call ∈ before → call ≤ lookup

/-- The open connection of a credential receives broadcasts, with the record. -/
def Receives (net : Net) (c : String) (id : Nat) (credential : Snapshot) : Prop :=
  ∃ d, net.connections.get? id = some d ∧ d.socketOpen = true ∧ d.credentialId = some c ∧
    d.receiver? = some credential

/-- No lookup brings back a record from before an invalidation that has ended; the second part
of the state is the trace. -/
structure NoStaleAnswer (p : TransportState × List TransportEvent) (a : TransportAction) :
    Prop where
  /-- A token lookup that is accepted on an open connection is not older. -/
  accepts : ∀ call id lastSeenSeq record d, Accepts p.1 call id lastSeenSeq record a →
    p.1.net.connections.get? id = some d → d.socketOpen = true → d.phase ≠ .closed →
      ∀ ended, .invalidated record.credentialId ended ∈ p.2 → ended ≤ call
  /-- Neither is an active record that a heartbeat or a request brings to an active connection. -/
  delivers : ∀ call record project phase id c d, a = .looked call (.ok record) project →
    p.1.calls.get? call = some phase → phase.recordTarget = some id → record.status = .active →
      p.1.net.connections.get? id = some d → d.socketOpen = true → d.phase = .active →
        d.credentialId = some c → ∀ ended, .invalidated c ended ∈ p.2 → ended ≤ call
  /-- The latest invalidation does not reject while older records are in use. -/
  rejects : ∀ call project c entry, a = .looked call .rejected project →
    p.1.calls.get? call = some (.invalidating c entry.generation) →
      p.1.pendingInvalidations.get? c = some entry →
        ∀ id credential, Receives p.1.net c id credential → call ≤ credential.lookup

/-! ### Receivers along a step -/

theorem receiver?_eq_some {d : ConnectionData} {credential : Snapshot} :
    d.receiver? = some credential ↔ d.phase = .active ∧ d.credentialRecord = some credential ∧
      credential.record.status = .active := by
  unfold ConnectionData.receiver?
  by_cases hactive : d.phase = .active
  · rw [if_pos hactive, Option.filter_eq_some_iff, decide_eq_true_eq]
    exact (and_iff_right hactive).symm
  · rw [if_neg hactive]
    exact ⟨nofun, fun h => absurd h.1 hactive⟩

section Receivers

variable {cfg : TransportConfig} {s s' : TransportState} {a : TransportAction}
  {es : List TransportEvent} {W : Nat → Snapshot → Prop} {net net' : Net} {c : String} {id : Nat}
  {credential : Snapshot}

/-- A receiver afterwards was one before, with the same record or with one that is written. -/
theorem Receives.of_shrinks (h : Net.Shrinks W net net')
    (hreceives : Receives net' c id credential) :
    Receives net c id credential ∨ (W id credential ∧ credential.record.status = .active ∧
      ∃ d, net.connections.get? id = some d ∧ d.socketOpen = true ∧ d.phase = .active ∧
        d.credentialId = some c) := by
  obtain ⟨d', hd', hopen, hbound, hreceiver⟩ := hreceives
  obtain ⟨hactive, hrecord, hstatus⟩ := receiver?_eq_some.1 hreceiver
  obtain ⟨d, hd, hbelow⟩ := h.connections hd'
  have hbound' : d.credentialId = some c := hbelow.credentialId.symm.trans hbound
  rcases hbelow.record with hsame | ⟨written, hnew, hW⟩
  · refine .inl ⟨d, hd, (hbelow.isOpen hopen).1, hbound', receiver?_eq_some.2 ?_⟩
    exact ⟨hbelow.active hactive, hsame.symm.trans hrecord, hstatus⟩
  · obtain rfl : written = credential := Option.some.inj (hnew.symm.trans hrecord)
    exact .inr ⟨hW, hstatus, d, hd, (hbelow.isOpen hopen).1, hbelow.active hactive, hbound'⟩

theorem Receives.of_opened (hreceives : Receives (Net.opened net).1 c id credential) :
    Receives net c id credential := by
  obtain ⟨d, hd, hrest⟩ := hreceives
  obtain ⟨rfl, rfl⟩ | ⟨-, hold⟩ := OrdMap.get?_set_eq_some hd
  · cases hrest.2.1
  · exact ⟨d, hold, hrest⟩

/-- Binding a connection makes at most that connection a receiver, with the new record. -/
theorem Receives.of_accept {credential' : Snapshot} {lastSeenSeq : Option Nat} {id' : Nat}
    (hreceives : Receives (Net.accept cfg id' credential' lastSeenSeq net).1 c id credential) :
    Receives net c id credential ∨ (id = id' ∧ credential = credential' ∧
      c = credential'.record.credentialId ∧
      ∃ d, net.connections.get? id = some d ∧ d.socketOpen = true ∧ d.phase ≠ .closed) := by
  obtain ⟨d', hd', hopen, hbound, hreceiver⟩ := hreceives
  cases hd : net.connections.get? id' with
  | none =>
    rw [Net.accept_of_none hd] at hd'
    exact .inl ⟨d', hd', hopen, hbound, hreceiver⟩
  | some d =>
    rw [Net.accept_of_some hd] at hd'
    obtain ⟨rfl, rfl⟩ | ⟨-, hold⟩ := OrdMap.get?_set_eq_some hd'
    · obtain ⟨hactive, hrecord, -⟩ := receiver?_eq_some.1 hreceiver
      refine .inr ⟨rfl, (Option.some.inj hrecord).symm, (Option.some.inj hbound).symm, d, hd, hopen,
        fun hclosed => ?_⟩
      -- a closed connection stays closed
      replace hactive : (if d.phase = .authenticating then .active else d.phase) =
        ConnectionPhase.active := hactive
      rw [hclosed] at hactive
      cases hactive
    · exact .inl ⟨d', hold, hopen, hbound, hreceiver⟩

/-! ### What the latest invalidation leaves -/

theorem shrinks_closeRevoked : Net.Shrinks W net (closeRevoked cfg id net).1 := by
  have hstop : Net.Shrinks W (Net.closeSocket cfg id .credentialRevoked net).1
      (closeRevoked cfg id net).1 :=
    (@NetOp.shrinks cfg _ (.stopHeartbeat id) rfl).mono fun _ _ hwrites => hwrites.elim
  exact (Net.shrinks_closeSocket cfg net id .credentialRevoked).trans hstop

theorem shrinks_closeInactive {status : CredentialStatus} :
    Net.Shrinks W net (closeInactive cfg id status net).1 := by
  unfold closeInactive
  split
  · exact .refl net
  · have hstop : Net.Shrinks W (Net.closeSocket cfg id (closeCodeOf status) net).1
        (Net.stopHeartbeat id (Net.closeSocket cfg id (closeCodeOf status) net).1).1 :=
      (@NetOp.shrinks cfg _ (.stopHeartbeat id) rfl).mono fun _ _ hwrites => hwrites.elim
    exact (Net.shrinks_closeSocket cfg net id _).trans hstop

theorem shrinks_refresh {call : Nat} {answer : LookupAnswer} :
    Net.Shrinks (fun _ credential => credential.lookup = call) net
      (refresh cfg call answer id net).1 := by
  unfold refresh
  split
  · exact .refl net
  · split
    · cases answer with
      | rejected => exact .refl net
      | err message => exact shrinks_closeRevoked
      | ok record =>
        have hset : Net.Shrinks (fun _ credential => credential.lookup = call) net
            (Net.setRecord id ⟨record, call⟩ net).1 :=
          (@NetOp.shrinks cfg _ (.setRecord id ⟨record, call⟩) rfl).mono
            fun _ _ hwrites => by rw [hwrites.2]
        exact hset.trans shrinks_closeInactive
    · exact .refl net

theorem socketOpen_closeSocket {code : CloseCode} {d : ConnectionData}
    (hd : (Net.closeSocket cfg id code net).1.connections.get? id = some d) :
    d.socketOpen = false := by
  unfold Net.closeSocket at hd
  split at hd
  · have hclosing : ∀ {d}, (net.modify id fun d =>
        { d with socketOpen := false }).connections.get? id = some d → d.socketOpen = false := by
      intro d hd
      obtain ⟨d₀, -, ⟨-, rfl⟩ | ⟨hne, -⟩⟩ := Net.get?_modify_eq_some hd
      · rfl
      · exact absurd rfl hne
    dsimp only at hd
    split at hd
    · obtain ⟨d₀, hd₀, hbelow⟩ :=
        (@Net.shrinks_cleanupConnection (fun _ _ => True) _ _).connections hd
      have hclosed := hclosing hd₀
      cases hopen : d.socketOpen with
      | false => rfl
      | true =>
        rw [(hbelow.isOpen hopen).1] at hclosed
        cases hclosed
    · exact hclosing hd
  · next hclosed =>
    cases hopen : d.socketOpen with
    | false => rfl
    | true =>
      refine absurd ?_ hclosed
      unfold Net.isOpen
      rw [hd]
      exact hopen

/-- A connection that the answered invalidation goes to has its record afterwards. -/
theorem receives_refresh {call : Nat} {answer : LookupAnswer} (hanswer : answer ≠ .rejected)
    (hreceives : Receives (refresh cfg call answer id net).1 c id credential) :
    credential.lookup = call := by
  unfold refresh at hreceives
  cases hd : net.connections.get? id with
  | none =>
    obtain ⟨d, hd', -⟩ := hreceives
    rw [hd] at hd'
    dsimp only at hd'
    rw [hd] at hd'
    cases hd'
  | some d =>
    rw [hd] at hreceives
    dsimp only at hreceives
    by_cases hactive : d.phase = .active
    · rw [if_pos hactive] at hreceives
      cases answer with
      | rejected => exact absurd rfl hanswer
      | err message =>
        -- the socket is closed
        have hstop : Net.Shrinks (fun _ _ => False) (Net.closeSocket cfg id .credentialRevoked
            net).1 (closeRevoked cfg id net).1 :=
          @NetOp.shrinks cfg _ (.stopHeartbeat id) rfl
        rcases hreceives.of_shrinks hstop with ⟨d', hd', hopen, -⟩ | ⟨hno, -⟩
        · rw [socketOpen_closeSocket hd'] at hopen
          cases hopen
        · exact hno.elim
      | ok record =>
        have hclose : Net.Shrinks (fun _ _ => False) (Net.setRecord id ⟨record, call⟩ net).1
            ((Net.setRecord id ⟨record, call⟩).seq (closeInactive cfg id record.status) net).1 :=
          shrinks_closeInactive
        rcases hreceives.of_shrinks hclose with ⟨d', hd', -, -, hreceiver⟩ | ⟨hno, -⟩
        · obtain ⟨-, hrecord, -⟩ := receiver?_eq_some.1 hreceiver
          obtain ⟨d₀, -, ⟨-, rfl⟩ | ⟨hne, -⟩⟩ := Net.get?_modify_eq_some hd'
          · rw [← Option.some.inj hrecord]
          · exact absurd rfl hne
        · exact hno.elim
    · rw [if_neg hactive] at hreceives
      obtain ⟨d', hd', -, -, hreceiver⟩ := hreceives
      cases hd.symm.trans hd'
      exact absurd (receiver?_eq_some.1 hreceiver).1 hactive

theorem receives_forEach_refresh {call : Nat} {answer : LookupAnswer} {ids : List Nat}
    (hanswer : answer ≠ .rejected) (hid : id ∈ ids ∨ ∀ credential, Receives net c id credential →
      credential.lookup = call)
    (hreceives : Receives (Emits.forEach (refresh cfg call answer) ids net).1 c id credential) :
    credential.lookup = call := by
  induction ids generalizing net with
  | nil =>
    rcases hid with hmem | hgood
    · cases hmem
    · exact hgood credential hreceives
  | cons id' ids ih =>
    refine ih ?_ hreceives
    by_cases hmem : id ∈ ids
    · exact .inl hmem
    · refine .inr fun credential' hreceives' => ?_
      by_cases heq : id = id'
      · rw [← heq] at hreceives'
        exact receives_refresh hanswer hreceives'
      · rcases hreceives'.of_shrinks shrinks_refresh with hbefore | ⟨hcall, -⟩
        · rcases hid with hmem' | hgood
          · rcases List.mem_cons.1 hmem' with rfl | hmem'
            · exact absurd rfl heq
            · exact absurd hmem' hmem
          · exact hgood credential' hbefore
        · exact hcall

end Receivers

/-! ### With which record a broadcast is projected -/

section Projected

variable {cfg : TransportConfig} {s s' : TransportState} {a : TransportAction}
  {es : List TransportEvent} {net : Net} {c c' : String} {id id' number lookup : Nat}
  {b : Broadcast} {project : Projector}

theorem projected_of_deliver
    (h : .projected id' c' number lookup ∈ (deliver c b project id net).2) :
    id' = id ∧ c' = c ∧ ∃ d credential, net.connections.get? id = some d ∧ d.socketOpen = true ∧
      d.receiver? = some credential ∧ credential.lookup = lookup := by
  cases hreceiver : (net.connections.get? id).bind (·.receiver?) with
  | none =>
    unfold deliver at h
    rw [hreceiver] at h
    cases h
  | some credential =>
    obtain ⟨d, hd, hcredential⟩ := Option.bind_eq_some_iff.1 hreceiver
    unfold deliver at h
    rw [hreceiver] at h
    rcases List.mem_append.1 h with hnote | hsent
    · dsimp only at hnote
      split at hnote
      · next hopen =>
        cases List.mem_singleton.1 hnote
        unfold Net.isOpen at hopen
        rw [hd] at hopen
        exact ⟨rfl, rfl, d, credential, hd, hopen, hcredential, rfl⟩
      · cases hnote
    · replace hsent : .projected id' c' number lookup ∈
          (sendProjected b id (project b.event credential.record) net).2 := hsent
      cases hproject : project b.event credential.record with
      | none =>
        rw [hproject] at hsent
        cases hsent
      | some projected =>
        rw [hproject] at hsent
        cases @emittedBy ⟨1, true⟩ net _ (.sendSequenced id (projected, some b.number)) hsent

theorem projected_of_forEach {ids : List Nat}
    (h : .projected id' c' number lookup ∈ (Emits.forEach (deliver c b project) ids net).2) :
    id' ∈ ids ∧ c' = c ∧ ∃ d credential, net.connections.get? id' = some d ∧
      d.socketOpen = true ∧ d.receiver? = some credential ∧ credential.lookup = lookup := by
  induction ids generalizing net with
  | nil => cases h
  | cons id ids ih =>
    rcases List.mem_append.1 h with hfirst | hrest
    · obtain ⟨rfl, rfl, hd⟩ := projected_of_deliver hfirst
      exact ⟨List.mem_cons_self, rfl, hd⟩
    · obtain ⟨states, hframe⟩ := @deliver_frame c project b id net
      obtain ⟨hmem, rfl, d, credential, hd, hrest⟩ := ih hrest
      rw [hframe] at hd
      exact ⟨List.mem_cons_of_mem id hmem, rfl, d, credential, hd, hrest⟩

theorem projected_of_handOut
    (h : .net (.projected id c' number lookup) ∈ (TransportState.handOut c project b s).2) :
    c' = c ∧ ∃ credential, Receives s.net c id credential ∧ credential.lookup = lookup := by
  replace h : TransportEvent.net (.projected id c' number lookup) ∈
    .handed c b project :: List.map TransportEvent.net
      (Emits.forEach (deliver c b project) (s.net.getByCredentialId c) s.net).2 := h
  rcases List.mem_cons.1 h with heq | hmem
  · cases heq
  · obtain ⟨n, hn, heq⟩ := List.mem_map.1 hmem
    cases heq
    obtain ⟨hid, rfl, d, credential, hd, hopen, hreceiver, hlookup⟩ := projected_of_forEach hn
    obtain ⟨-, d', hd', hbound⟩ := Net.mem_getByCredentialId.1 hid
    cases hd.symm.trans hd'
    exact ⟨rfl, credential, ⟨d, hd, hopen, hbound, hreceiver⟩, hlookup⟩

theorem projected_of_drain {bs : List Broadcast} (hnone : s.pendingInvalidations.get? c = none)
    (h : .net (.projected id c' number lookup) ∈
      (Emits.forEach (TransportState.broadcastToCredential c project) bs s).2) :
    c' = c ∧ ∃ credential, Receives s.net c id credential ∧ credential.lookup = lookup := by
  induction bs generalizing s with
  | nil => cases h
  | cons b bs ih =>
    have heq := @broadcastToCredential_of_none c project b s hnone
    obtain ⟨states, hframe⟩ := @handOut_frame c project b s
    rcases List.mem_append.1 h with hfirst | hrest
    · rw [heq] at hfirst
      exact projected_of_handOut hfirst
    · rw [heq, hframe] at hrest
      obtain ⟨rfl, credential, hreceives, hlookup⟩ :=
        @ih { s with net := { s.net with credentialStates := states } } hnone hrest
      exact ⟨rfl, credential, hreceives, hlookup⟩

/-- A broadcast is projected with the record that the connection has after the step, when no
invalidation is pending. -/
theorem projected_of_transportStep (h : transportStep cfg s a = some (s', es))
    (hmem : .net (.projected id c number lookup) ∈ es) :
    s'.pendingInvalidations.get? c = none ∧
      ∃ credential, Receives s'.net c id credential ∧ credential.lookup = lookup := by
  obtain ⟨b, project, hhands⟩ : ∃ b project, HandsOut s a c b project := by
    obtain ⟨-, net, op, -, hop, hemitted⟩ := emitted_of_transportStep h hmem
    cases hemitted with
    | projected =>
      cases hop with
      | projects hhands hid hreceiver => exact ⟨_, _, hhands⟩
  cases hhands with
  | @direct c event project hnone =>
    have heq := @broadcastToCredential_of_none c project ⟨s.broadcasts, event⟩
      { s with broadcasts := s.broadcasts + 1 } hnone
    obtain ⟨states, hframe⟩ := @handOut_frame c project ⟨s.broadcasts, event⟩
      { s with broadcasts := s.broadcasts + 1 }
    simp only [transportStep, heq] at h
    cases h
    rcases List.mem_cons.1 hmem with heq | hmem
    · cases heq
    · obtain ⟨-, credential, hreceives, hlookup⟩ := projected_of_handOut hmem
      rw [hframe]
      exact ⟨hnone, credential, hreceives, hlookup⟩
  | @drained call generation c answer project entry b hcall hentry hlast hqueued =>
    simp only [transportStep, lookupStep, hcall] at h
    obtain ⟨ns, hns, hquiet⟩ :=
      @applyInvalidation_events cfg (s.finish call) call generation c answer
    have hpending := @applyInvalidation_pending cfg (s.finish call) call generation answer c
    generalize happlied : TransportState.applyInvalidation cfg c generation call answer
      (s.finish call) = applied at hns hpending
    have hrelease : TransportState.releaseInvalidation c call project applied.1 =
        ((Emits.forEach (TransportState.broadcastToCredential c project) entry.events
          { applied.1 with
            pendingInvalidations := applied.1.pendingInvalidations.erase c }).1,
          .invalidated c call :: (Emits.forEach (TransportState.broadcastToCredential c project)
            entry.events { applied.1 with
              pendingInvalidations := applied.1.pendingInvalidations.erase c }).2) := by
      unfold TransportState.releaseInvalidation
      rw [hpending]
      dsimp only
      rw [show (s.finish call).pendingInvalidations.get? c = some entry from hentry]
      dsimp only
      rw [if_pos hlast]
    have hnone : (applied.1.pendingInvalidations.erase c).get? c = none :=
      OrdMap.get?_erase_self _ _
    obtain ⟨states, hframe⟩ := @drain_frame
      { applied.1 with pendingInvalidations := applied.1.pendingInvalidations.erase c } c project
      entry.events hnone
    have hstep : (s', es) = ((TransportState.releaseInvalidation c call project applied.1).1,
        applied.2 ++ (TransportState.releaseInvalidation c call project applied.1).2) := by
      rw [← happlied]
      exact (Option.some.inj h).symm
    rw [hrelease] at hstep
    obtain ⟨rfl, rfl⟩ := Prod.mk.inj hstep
    rcases List.mem_append.1 hmem with hmem | hmem
    · rw [hns] at hmem
      obtain ⟨n, hn, heq⟩ := List.mem_map.1 hmem
      cases heq
      cases hquiet _ hn
    · rcases List.mem_cons.1 hmem with heq | hmem
      · cases heq
      · obtain ⟨-, credential, hreceives, hlookup⟩ := projected_of_drain hnone hmem
        dsimp only
        rw [hframe]
        exact ⟨hnone, credential, hreceives, hlookup⟩

end Projected

/-! ### Active connections are registered -/

/-- Every active connection is in the registry. -/
def ActiveRegistered (net : Net) : Prop :=
  ∀ id d, net.connections.get? id = some d → d.phase = .active → net.registry.has id = true

theorem ActiveRegistered.step {cfg : TransportConfig} {s : TransportState} {a : TransportAction}
    {r : TransportState × List TransportEvent} (hreg : ActiveRegistered s.net)
    (h : transportStep cfg s a = some r) : ActiveRegistered r.1.net := by
  intro id d hd hactive
  rcases net_of_transportStep h with ⟨-, rfl⟩ | ⟨call, id', last, record, -, hnet, -⟩ | hshrinks
  · obtain ⟨-, rfl⟩ | ⟨-, hold⟩ := OrdMap.get?_set_eq_some hd
    · cases hactive
    · exact hreg id d hold hactive
  · rw [hnet] at hd ⊢
    cases hd' : s.net.connections.get? id' with
    | none =>
      rw [Net.accept_of_none hd'] at hd ⊢
      exact hreg id d hd hactive
    | some d' =>
      rw [Net.accept_of_some hd'] at hd ⊢
      refine OrdMap.has_eq_true_iff.2 ?_
      by_cases hid : id = id'
      · rw [hid]
        exact ⟨(), OrdMap.get?_set_self _ _ _⟩
      · obtain ⟨heq, -⟩ | ⟨-, hold⟩ := OrdMap.get?_set_eq_some hd
        · exact absurd heq hid
        · obtain ⟨u, hu⟩ := OrdMap.has_eq_true_iff.1 (hreg id d hold hactive)
          exact ⟨u, (OrdMap.get?_set_of_ne _ _ hid).trans hu⟩
  · obtain ⟨d₀, hd₀, hbelow⟩ := hshrinks.connections hd
    rcases hshrinks.removed hd with hsame | ⟨hclosed, -⟩
    · rw [hsame]
      exact hreg id d₀ hd₀ (hbelow.active hactive)
    · rw [hactive] at hclosed
      cases hclosed

theorem activeRegistered_of_run {cfg : TransportConfig}
    {ok : TransportState → TransportAction → Prop} {tr : List TransportEvent} {s : TransportState}
    (h : Run (transportMachine cfg) ok tr s) : ActiveRegistered s.net :=
  h.invariant (I := fun _ s => ActiveRegistered s.net) (fun _ _ hd => by cases hd)
    fun _ hreg _ hstep => hreg.step hstep

/-! ### The invariant -/

/-- The latest invalidation of the credential is in flight. -/
def LatestInFlight (c : String) (s : TransportState) : Prop :=
  ∃ call entry, s.pendingInvalidations.get? c = some entry ∧
    s.calls.get? call = some (.invalidating c entry.generation)

/-- An invalidation as late as any has ended, and every receiver has a record from no earlier. -/
structure Settled (c : String) (tr : List TransportEvent) (s : TransportState) : Prop where
  ended : ∀ call, .invalidating c call ∈ tr → ∃ ended, .invalidated c ended ∈ tr ∧ call ≤ ended
  receivers : ∀ id credential, Receives s.net c id credential →
    ∀ ended, .invalidated c ended ∈ tr → ended ≤ credential.lookup

/-- Unless the latest invalidation is still in flight, no receiver has an older record. -/
def SnapshotInv (c : String) (tr : List TransportEvent) (s : TransportState) : Prop :=
  LatestInFlight c s ∨ Settled c tr s

section Invariant

variable {cfg : TransportConfig} {s s' : TransportState} {a : TransportAction}
  {tr es : List TransportEvent} {c : String}

/-- Where the receivers of a step come from, if no lookup is stale. -/
theorem receivers_step (hstep : transportStep cfg s a = some (s', es))
    (hok : NoStaleAnswer (s, tr) a) (hc : Elsewhere c s a) (hsettled : Settled c tr s) {id : Nat}
    {credential : Snapshot} (hreceives : Receives s'.net c id credential) :
    ∀ ended, .invalidated c ended ∈ tr → ended ≤ credential.lookup := by
  rcases net_of_transportStep hstep with
    ⟨-, heq⟩ | ⟨call, id', last, record, haccepts, hnet, -⟩ | hshrinks
  · obtain ⟨rfl, -⟩ := Prod.mk.inj heq
    exact hsettled.receivers id credential hreceives.of_opened
  · rw [hnet] at hreceives
    rcases hreceives.of_accept with hold | ⟨rfl, rfl, rfl, d, hd, hopen, hclosed⟩
    · exact hsettled.receivers id credential hold
    · exact hok.accepts call id last record d haccepts hd hopen hclosed
  · rcases hreceives.of_shrinks hshrinks with
      hold | ⟨hdelivers, hstatus, d, hd, hopen, hactive, hbound⟩
    · exact hsettled.receivers id credential hold
    · obtain ⟨project, phase, rfl, hcall, htarget | ⟨c', entry, rfl, -, hid⟩⟩ := hdelivers
      · exact hok.delivers credential.lookup credential.record project phase id c d rfl
          hcall htarget
          hstatus hd hopen hactive hbound
      · -- an invalidation of another credential does not come here
        obtain ⟨-, d', hd', hbound'⟩ := Net.mem_getByCredentialId.1 hid
        cases hd.symm.trans hd'
        obtain rfl : c' = c := Option.some.inj (hbound'.symm.trans hbound)
        exact absurd hcall (hc entry.generation)

/-- A step that is elsewhere, or a broadcast, keeps the invariant. -/
theorem SnapshotInv.untouched (h : SnapshotInv c tr s) (hfresh : s.Fresh)
    (hstep : transportStep cfg s a = some (s', es)) (hok : NoStaleAnswer (s, tr) a)
    (hc : Elsewhere c s a) : SnapshotInv c (tr ++ es) s' := by
  obtain ⟨hpending, -, hes⟩ := elsewhere_step hstep hc
  rcases h with ⟨call, entry, hentry, hcall⟩ | hsettled
  · refine .inl ⟨call, entry, hpending.trans hentry, ?_⟩
    exact (transportStep_core hstep).kept hfresh hcall (elsewhere_answered hstep hc hcall)
  · have hold : ∀ {call}, .invalidated c call ∈ tr ++ es → .invalidated c call ∈ tr := by
      intro call hmem
      exact (List.mem_append.1 hmem).resolve_right fun hnew => hes _ hnew rfl
    refine .inr ⟨fun call hmem => ?_, fun id credential hreceives ended hmem => ?_⟩
    · have hmem' : .invalidating c call ∈ tr :=
        (List.mem_append.1 hmem).resolve_right fun hnew => hes _ hnew rfl
      obtain ⟨ended, hended, hle⟩ := hsettled.ended call hmem'
      exact ⟨ended, List.mem_append_left _ hended, hle⟩
    · exact receivers_step hstep hok hc hsettled hreceives ended (hold hmem)

theorem SnapshotInv.broadcast (h : SnapshotInv c tr s) {event : SignetEvent} {project : Projector}
    (hstep : transportStep cfg s (.broadcast c event project) = some (s', es)) :
    SnapshotInv c (tr ++ es) s' := by
  have hes : ∀ call, .invalidating c call ∉ es ∧ .invalidated c call ∉ es := by
    cases hstep
    intro call
    unfold TransportState.broadcastToCredential
    dsimp only
    split
    · simp
    · obtain ⟨ns, hevents, -⟩ := @handOut_events c project ⟨s.broadcasts, event⟩
        { s with broadcasts := s.broadcasts + 1 }
      rw [hevents]
      simp
  have hnet : ∃ states, s'.net = { s.net with credentialStates := states } := by
    cases hstep
    unfold TransportState.broadcastToCredential
    dsimp only
    split
    · exact ⟨_, rfl⟩
    · obtain ⟨states, hframe⟩ := @handOut_frame c project ⟨s.broadcasts, event⟩
        { s with broadcasts := s.broadcasts + 1 }
      exact ⟨states, by rw [hframe]⟩
  rcases h with ⟨call, entry, hentry, hcall⟩ | hsettled
  · refine .inl ⟨call, { entry with events := entry.events ++ [⟨s.broadcasts, event⟩] }, ?_, ?_⟩
    all_goals
      simp only [transportStep, TransportState.broadcastToCredential, hentry] at hstep
      cases hstep
    · exact OrdMap.get?_set_self _ _ _
    · exact hcall
  · obtain ⟨states, heq⟩ := hnet
    refine .inr ⟨fun call hmem => ?_, fun id credential hreceives ended hmem => ?_⟩
    · have hmem' := (List.mem_append.1 hmem).resolve_right (hes call).1
      obtain ⟨ended, hended, hle⟩ := hsettled.ended call hmem'
      exact ⟨ended, List.mem_append_left _ hended, hle⟩
    · rw [heq] at hreceives
      exact hsettled.receivers id credential hreceives ended
        ((List.mem_append.1 hmem).resolve_right (hes ended).2)

theorem SnapshotInv.invalidate
    (hstep : transportStep cfg s (.invalidate c) = some (s', es)) :
    SnapshotInv c (tr ++ es) s' := by
  cases hstep
  have hentry : ∃ entry : PendingInvalidation,
      (s.startInvalidation c).pendingInvalidations.get? c = some entry ∧
        entry.generation = s.invalidationGen + 1 := by
    refine ⟨_, OrdMap.get?_set_self _ _ _, ?_⟩
    cases s.pendingInvalidations.get? c <;> rfl
  obtain ⟨entry, hget, hgeneration⟩ := hentry
  refine .inl ⟨s.started, entry, hget, ?_⟩
  rw [hgeneration]
  exact OrdMap.get?_set_self _ _ _

theorem answered_net {call generation : Nat} {answer : LookupAnswer} {project : Projector}
    (hcall : s.calls.get? call = some (.invalidating c generation))
    (hstep : transportStep cfg s (.looked call answer project) = some (s', es)) :
    ∃ states, s'.net = { (TransportState.applyInvalidation cfg c generation call answer
      (s.finish call)).1.net with credentialStates := states } := by
  simp only [transportStep, lookupStep, hcall] at hstep
  have hrelease : ∀ s₀ : TransportState, ∃ states,
      (TransportState.releaseInvalidation c call project s₀).1.net =
        { s₀.net with credentialStates := states } := by
    intro s₀
    unfold TransportState.releaseInvalidation
    split
    · exact ⟨_, rfl⟩
    · next entry _ =>
      split
      · obtain ⟨states, hframe⟩ := @drain_frame
          { s₀ with pendingInvalidations := s₀.pendingInvalidations.erase c } c project
          entry.events (OrdMap.get?_erase_self _ _)
        exact ⟨states, by dsimp only; rw [hframe]⟩
      · exact ⟨_, rfl⟩
  cases hstep
  exact hrelease _

theorem SnapshotInv.answered (h : SnapshotInv c tr s) (hinv : ProtocolInv c tr s)
    (hreg : ActiveRegistered s.net) (hfresh : s.Fresh) {call generation : Nat}
    {answer : LookupAnswer} {project : Projector}
    (hcall : s.calls.get? call = some (.invalidating c generation))
    (hstep : transportStep cfg s (.looked call answer project) = some (s', es))
    (hok : NoStaleAnswer (s, tr) (.looked call answer project)) :
    SnapshotInv c (tr ++ es) s' := by
  obtain ⟨ns, out, hevents, hout⟩ := answered_events hcall hstep
  obtain ⟨states, hnet⟩ := answered_net hcall hstep
  have hinv' := hinv.step hfresh hstep
  have hstarted : ∀ {k}, .invalidating c k ∈ tr ++ es → .invalidating c k ∈ tr := by
    intro k hmem
    refine (List.mem_append.1 hmem).resolve_right fun hnew => ?_
    cases invalidating_of_transportStep hstep hnew
  have hended : ∀ {k}, .invalidated c k ∈ tr ++ es → .invalidated c k ∈ tr ∨ k = call := by
    intro k hmem
    refine (List.mem_append.1 hmem).imp_right fun hnew => ?_
    rw [hevents] at hnew
    rcases List.mem_append.1 hnew with hmem | hmem
    · obtain ⟨n, -, heq⟩ := List.mem_map.1 hmem
      cases heq
    · rcases List.mem_cons.1 hmem with heq | hmem
      · cases heq
        rfl
      · rcases hout _ hmem with ⟨_, _, _, _, _, heq⟩ | ⟨_, heq, -⟩ <;> cases heq
  have hself : .invalidated c call ∈ tr ++ es := by
    rw [hevents]
    exact List.mem_append_right _ (List.mem_append_right _ List.mem_cons_self)
  obtain ⟨entry, hentry⟩ : ∃ entry, s.pendingInvalidations.get? c = some entry := by
    cases hpending : s.pendingInvalidations.get? c with
    | some entry => exact ⟨entry, rfl⟩
    | none =>
      have hpos : 0 < s.invalidationsInFlight c :=
        List.countP_pos_iff.2 ⟨_, OrdMap.mem_values_iff.2 ⟨call, hcall⟩, decide_eq_true rfl⟩
      exact absurd (hinv.idle hpending) (Nat.ne_of_gt hpos)
  have hbefore : ∀ {id credential}, Receives s'.net c id credential →
      Receives (if entry.generation = generation then (s.finish call).onNet
        (.forEach (refresh cfg call answer) (s.net.getByCredentialId c))
        else (s.finish call, [])).1.net c id credential := by
    intro id credential hreceives
    rw [hnet, TransportState.applyInvalidation,
      show (s.finish call).pendingInvalidations.get? c = some entry from hentry] at hreceives
    exact hreceives
  by_cases hlatest : entry.generation = generation
  · -- the latest one: its record reaches every receiver
    have hmax := ((hinv.latest entry hentry).2 call generation hcall).2 hlatest.symm
    have hreceives_lookup : ∀ id credential, Receives s'.net c id credential →
        call ≤ credential.lookup := by
      intro id credential hreceives
      replace hreceives := hbefore hreceives
      rw [if_pos hlatest] at hreceives
      by_cases hrejected : answer = .rejected
      · subst hrejected
        -- nothing is written, and the records in use are not older
        have hkept : Net.Shrinks (fun _ _ => False) s.net
            (Emits.forEach (refresh cfg call .rejected) (s.net.getByCredentialId c) s.net).1 := by
          have hskip : ∀ (ids : List Nat) (net : Net),
              (Emits.forEach (refresh cfg call .rejected) ids net).1 = net := by
            intro ids
            induction ids with
            | nil => exact fun net => rfl
            | cons id ids ih =>
              intro net
              have hturn : (refresh cfg call .rejected id net).1 = net := by
                unfold refresh
                split
                · rfl
                · split <;> rfl
              show (Emits.forEach _ ids (refresh cfg call .rejected id net).1).1 = net
              rw [hturn]
              exact ih net
          rw [hskip]
          exact .refl _
        rcases hreceives.of_shrinks hkept with hold | ⟨hno, -⟩
        · exact hok.rejects call project c entry rfl (hlatest ▸ hcall) hentry id credential hold
        · exact hno.elim
      · refine (receives_forEach_refresh hrejected ?_ hreceives).ge
        by_cases hid : id ∈ s.net.getByCredentialId c
        · exact .inl hid
        · -- who is not registered receives nothing
          refine .inr fun credential' hreceives' => ?_
          obtain ⟨d, hd, -, hbound, hreceiver⟩ := hreceives'
          refine absurd (Net.mem_getByCredentialId.2 ⟨?_, d, hd, hbound⟩) hid
          exact hreg id d hd (receiver?_eq_some.1 hreceiver).1
    refine .inr ⟨fun k hmem => ⟨call, hself, hmax k (hstarted hmem)⟩,
      fun id credential hreceives k hmem => ?_⟩
    have hle : k ≤ call := by
      rcases hended hmem with hold | rfl
      · exact hmax k (hinv.ended k hold)
      · exact Nat.le_refl _
    exact Nat.le_trans hle (hreceives_lookup id credential hreceives)
  · -- a superseded one writes nothing
    have hsame : ∀ {id credential}, Receives s'.net c id credential →
        Receives s.net c id credential := by
      intro id credential hreceives
      replace hreceives := hbefore hreceives
      rw [if_neg hlatest] at hreceives
      exact hreceives
    rcases h with ⟨latest, entry', hentry', hlatest'⟩ | hsettled
    · cases hentry.symm.trans hentry'
      have hne : latest ≠ call := by
        rintro rfl
        cases hcall.symm.trans hlatest'
        exact hlatest rfl
      have hkept : s'.calls.get? latest = some (.invalidating c entry.generation) :=
        (transportStep_core hstep).kept hfresh hlatest' fun heq => hne (Option.some.inj heq).symm
      obtain ⟨-, ⟨-, hnone, -⟩ | ⟨-, hsome, -⟩⟩ := ProtocolInv.answered_effect hcall hentry hstep
      · have hpos : 0 < s'.invalidationsInFlight c :=
          List.countP_pos_iff.2 ⟨_, OrdMap.mem_values_iff.2 ⟨latest, hkept⟩, decide_eq_true rfl⟩
        exact absurd (hinv'.idle hnone) (Nat.ne_of_gt hpos)
      · exact .inl ⟨latest, _, hsome, hkept⟩
    · refine .inr ⟨fun k hmem => ?_, fun id credential hreceives k hmem => ?_⟩
      · obtain ⟨ended, hmem', hle⟩ := hsettled.ended k (hstarted hmem)
        exact ⟨ended, List.mem_append_left _ hmem', hle⟩
      · rcases hended hmem with hold | rfl
        · exact hsettled.receivers id credential (hsame hreceives) k hold
        · have hmem' := ((hinv.inFlight k).1 ⟨generation, hcall⟩).1
          obtain ⟨ended, hold, hle⟩ := hsettled.ended k hmem'
          exact Nat.le_trans hle (hsettled.receivers id credential (hsame hreceives) ended hold)

end Invariant

/-! ### Fresh projections -/

section Fresh

variable {cfg : TransportConfig} {tr : List TransportEvent}
    {p : TransportState × List TransportEvent}

theorem snapshotInv_of_run (h : Run (transportMachine cfg).withTrace NoStaleAnswer tr p)
    (c : String) : SnapshotInv c tr p.1 := by
  refine h.invariant (I := fun tr p => SnapshotInv c tr p.1) ?_
    fun {tr p a p' es} hrun hinv hok hstep => ?_
  · refine .inr ⟨fun call hmem => ?_, fun id credential hreceives => ?_⟩
    · cases hmem
    · obtain ⟨d, hd, -⟩ := hreceives
      cases hd
  · obtain ⟨hstep, -⟩ := Machine.withTrace_step hstep
    have hfresh := fresh_of_run hrun.forget
    have hok' : NoStaleAnswer (p.1, tr) a := by
      rw [← hrun.kept]
      exact hok
    by_cases hc : Elsewhere c p.1 a
    · exact hinv.untouched hfresh hstep hok' hc
    · cases a with
      | broadcast c' event project =>
        obtain rfl : c' = c := not_not.1 hc
        exact @SnapshotInv.broadcast cfg _ _ _ _ _ hinv _ _ hstep
      | invalidate c' =>
        obtain rfl : c' = c := not_not.1 hc
        exact @SnapshotInv.invalidate cfg _ _ _ _ _ hstep
      | looked call answer project =>
        obtain ⟨generation, hcall⟩ : ∃ generation,
            p.1.calls.get? call = some (.invalidating c generation) := by
          by_contra hnone
          exact hc fun generation hcall => hnone ⟨generation, hcall⟩
        exact hinv.answered (.of_run hrun.forget) (activeRegistered_of_run hrun.forget) hfresh hcall
          hstep hok'
      | _ => exact absurd trivial hc

/-- **No stale snapshot after an invalidation**, if no other lookup brings an older record. -/
theorem fresh_projections (cfg : TransportConfig) {tr : List TransportEvent}
    {p : TransportState × List TransportEvent}
    (h : Run (transportMachine cfg).withTrace NoStaleAnswer tr p) (c : String) :
    EachAfter (FreshProjection c) tr := by
  refine h.invariant (I := fun tr _ => EachAfter (FreshProjection c) tr) (eachAfter_nil _)
    fun {tr p a p' es} hrun htr hok hstep => htr.append ?_
  rintro before e after hes id b lookup rfl call hmem
  have hinv := snapshotInv_of_run (hrun.snoc hok hstep) c
  obtain ⟨hstep, -⟩ := Machine.withTrace_step hstep
  have hprojected : .net (.projected id c b lookup) ∈ es := by
    rw [hes]
    exact List.mem_append_right before List.mem_cons_self
  obtain ⟨hnone, credential, hreceives, rfl⟩ := projected_of_transportStep hstep hprojected
  have hmem' : .invalidated c call ∈ tr ++ es := by
    rw [hes, ← List.append_assoc]
    exact List.mem_append_left _ hmem
  rcases hinv with ⟨_, entry, hentry, -⟩ | hsettled
  · rw [hnone] at hentry
    cases hentry
  · exact hsettled.receivers id credential hreceives call hmem'

end Fresh

/-- Lookups are answered only while no invalidation has ended. -/
def answersEarly (p : TransportState × List TransportEvent) : TransportAction → Bool
  | .looked _ answer _ => !(answer matches .rejected) && !p.2.any (· matches .invalidated _ _)
  | _ => true

theorem noStaleAnswer_of_answersEarly {p : TransportState × List TransportEvent}
    {a : TransportAction} (h : answersEarly p a = true) : NoStaleAnswer p a := by
  have hnone : ∀ call answer project, a = .looked call answer project →
      answer ≠ .rejected ∧ ∀ c ended, .invalidated c ended ∉ p.2 := by
    rintro call answer project rfl
    obtain ⟨hanswer, hany⟩ := Bool.and_eq_true_iff.1 h
    refine ⟨?_, fun c ended hmem => ?_⟩
    · rintro rfl
      cases hanswer
    · have htrue : (p.2.any (· matches .invalidated _ _)) = true :=
        List.any_eq_true.2 ⟨_, hmem, rfl⟩
      rw [htrue] at hany
      cases hany
  constructor
  · intro call id lastSeenSeq record d haccepts _ _ _ ended hmem
    cases a with
    | looked call' answer project => exact absurd hmem ((hnone _ _ _ rfl).2 _ _)
    | _ => exact haccepts.elim
  · intro call record project phase id c d heq _ _ _ _ _ _ _ ended hmem
    exact absurd hmem ((hnone _ _ _ heq).2 _ _)
  · intro call project c entry heq
    exact absurd rfl (hnone _ _ _ heq).1

/-- A broadcast after an invalidation that has ended. -/
theorem fresh_projections_invalidated :
    ∃ tr p, Run (transportMachine ⟨2, true⟩).withTrace NoStaleAnswer tr p ∧
      followedBy (· matches .invalidated "cred_1" 2)
        (· matches .net (.projected 0 "cred_1" 0 2)) tr = true ∧
      EachAfter (FreshProjection "cred_1") tr := by
  obtain ⟨tr, p, hrun, htest⟩ := exists_run_of_exec (transportMachine ⟨2, true⟩).withTrace
    answersEarly
    (openAuthenticated 0 0 none ++ [.invalidate "cred_1", .looked 2 (.ok oneChatRecord) passAll,
      .broadcast "cred_1" (.other "message.visible") passAll])
    (fun tr _ => followedBy (· matches .invalidated "cred_1" 2)
      (· matches .net (.projected 0 "cred_1" 0 2)) tr)
    (by decide)
  have hrun' := hrun.mono fun _ _ => noStaleAnswer_of_answersEarly
  exact ⟨tr, p, hrun', htest, fresh_projections ⟨2, true⟩ hrun' "cred_1"⟩

/-- A heartbeat's lookup that is started before an invalidation and answered after it puts its
record back. -/
theorem stale_record_projected :
    ∃ tr s, Run (transportMachine ⟨2, true⟩) (fun _ _ => True) tr s ∧
      ¬ EachAfter (FreshProjection "cred_1") tr := by
  obtain ⟨tr, s, hrun, htest⟩ := exists_run_of_exec_of_forall (transportMachine ⟨2, true⟩)
    (fun _ _ => True)
    (openAuthenticated 0 0 none ++ [.heartbeat 1 false, .invalidate "cred_1",
      .looked 3 (.ok oneChatRecord) passAll, .looked 2 (.ok oneChatRecord) passAll,
      .broadcast "cred_1" (.other "message.visible") passAll])
    (fun tr _ => followedBy (· matches .invalidated "cred_1" 3)
      (· matches .net (.projected 0 "cred_1" 0 2)) tr)
    (fun _ _ _ => trivial) (by decide)
  refine ⟨tr, s, hrun, fun hfresh => ?_⟩
  obtain ⟨before, e, after, rfl, he, e', hmem, he'⟩ := exists_split_of_followedBy htest
  split at he
  · split at he'
    · exact absurd (hfresh before _ after rfl 0 0 2 rfl 3 hmem) (by decide)
    · cases he'
  · cases he

end Signet.Ws
