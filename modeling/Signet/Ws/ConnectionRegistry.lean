import Signet.Ws.TransportCalls

/-!
# The connection registry

The registry, the phases and the heartbeat timers agree (`ConnInv`) as long as the two awaits of
`handleAuthFrame` find the connection where they left it: an accepted token lookup finds it
still authenticating, and `fingerprintToken` returns before it is closed (`AuthUninterrupted`).
`registry_invariant` is about every such run; without the condition a connection that is closed
while its token is looked up goes into the registry and stays there
(`closed_connection_registered`).
-/

namespace Signet.Ws

open Lib

/-! ### The connections agree -/

/-- The registry and the timers agree with the connections. -/
structure ConnInv (net : Net) : Prop where
  counted : ∀ id d, net.connections.get? id = some d → id < net.connectionCounter
  registered : ∀ id, net.registry.has id = true →
    ∃ d, net.connections.get? id = some d ∧ d.phase = .active ∧ d.credentialId.isSome = true
  /-- The timers that are live are those that the connections know of. -/
  timers : ∀ timer id, net.heartbeatTimers.get? timer = some id ↔
    ∃ d, net.connections.get? id = some d ∧ d.heartbeatTimer = some timer
  beating : ∀ id d timer, net.connections.get? id = some d → d.heartbeatTimer = some timer →
    d.phase ≠ .authenticating ∧ d.phase ≠ .closed

/-- What `ConnInv` reads of a connection. -/
def ConnectionData.skeleton (d : ConnectionData) :
    ConnectionPhase × Option String × Option Nat :=
  (d.phase, d.credentialId, d.heartbeatTimer)

namespace ConnInv

variable {cfg : TransportConfig} {net net' : Net} {id : Nat}

theorem empty : ConnInv Net.empty where
  counted _ _ hd := by cases hd
  registered _ hreg := by cases hreg
  timers _ _ := by
    constructor
    · intro htimer
      cases htimer
    · rintro ⟨_, hd, -⟩
      cases hd
  beating _ _ _ hd := by cases hd

/-- Only the skeletons of the connections matter. -/
theorem of_skeleton (h : ConnInv net) (hcounter : net'.connectionCounter = net.connectionCounter)
    (hreg : net'.registry = net.registry) (htimers : net'.heartbeatTimers = net.heartbeatTimers)
    (hconn : ∀ id, (net'.connections.get? id).map ConnectionData.skeleton =
      (net.connections.get? id).map ConnectionData.skeleton) : ConnInv net' := by
  -- the clauses only read phase, credential and timer, which the skeleton keeps
  have hback : ∀ {id d'}, net'.connections.get? id = some d' →
      ∃ d, net.connections.get? id = some d ∧ d'.skeleton = d.skeleton := by
    intro id d' hd'
    have heq := hconn id
    rw [hd'] at heq
    obtain ⟨d, hd, hskeleton⟩ := Option.map_eq_some_iff.1 heq.symm
    exact ⟨d, hd, hskeleton.symm⟩
  have hforth : ∀ {id d}, net.connections.get? id = some d →
      ∃ d', net'.connections.get? id = some d' ∧ d'.skeleton = d.skeleton := by
    intro id d hd
    have heq := hconn id
    rw [hd] at heq
    obtain ⟨d', hd', hskeleton⟩ := Option.map_eq_some_iff.1 heq
    exact ⟨d', hd', hskeleton⟩
  constructor
  · intro id d' hd'
    obtain ⟨d, hd, -⟩ := hback hd'
    rw [hcounter]
    exact h.counted id d hd
  · intro id hid
    rw [hreg] at hid
    obtain ⟨d, hd, hactive, hbound⟩ := h.registered id hid
    obtain ⟨d', hd', hskeleton⟩ := hforth hd
    obtain ⟨hphase, hcred, -⟩ := by simpa [ConnectionData.skeleton] using hskeleton
    exact ⟨d', hd', hphase.trans hactive, hcred ▸ hbound⟩
  · intro timer id
    rw [htimers, h.timers timer id]
    constructor
    · rintro ⟨d, hd, htimer⟩
      obtain ⟨d', hd', hskeleton⟩ := hforth hd
      exact ⟨d', hd', (congrArg (·.2.2) hskeleton).trans htimer⟩
    · rintro ⟨d', hd', htimer⟩
      obtain ⟨d, hd, hskeleton⟩ := hback hd'
      exact ⟨d, hd, (congrArg (·.2.2) hskeleton).symm.trans htimer⟩
  · intro id d' timer hd' htimer
    obtain ⟨d, hd, hskeleton⟩ := hback hd'
    have hphase : d'.phase = d.phase := congrArg (·.1) hskeleton
    rw [hphase]
    exact h.beating id d timer hd ((congrArg (·.2.2) hskeleton).symm.trans htimer)

theorem modify (h : ConnInv net) {f : ConnectionData → ConnectionData}
    (hf : ∀ d, (f d).skeleton = d.skeleton) : ConnInv (net.modify id f) := by
  refine h.of_skeleton Net.modify_connectionCounter Net.modify_registry Net.modify_heartbeatTimers
    fun id' => ?_
  rw [Net.get?_modify]
  split
  · next heq =>
    rw [Option.map_map, heq]
    congr 1
    exact funext hf
  · rfl

theorem opened (h : ConnInv net) : ConnInv (Net.opened net).1 := by
  -- the new id is the counter, which no connection has yet
  have hnew : net.connections.get? net.connectionCounter = none := by
    cases hget : net.connections.get? net.connectionCounter with
    | none => rfl
    | some d => exact absurd (h.counted _ d hget) (Nat.lt_irrefl _)
  have hkept : ∀ {id d}, net.connections.get? id = some d →
      (net.connections.set net.connectionCounter .create).get? id = some d := by
    intro id d hd
    rw [OrdMap.get?_set_of_ne _ _ (Nat.ne_of_lt (h.counted id d hd))]
    exact hd
  constructor
  · intro id d hd
    show id < net.connectionCounter + 1
    obtain ⟨rfl, -⟩ | ⟨-, hold⟩ := OrdMap.get?_set_eq_some hd
    · exact Nat.lt_succ_self _
    · exact Nat.lt_succ_of_lt (h.counted id d hold)
  · intro id hid
    obtain ⟨d, hd, hrest⟩ := h.registered id hid
    exact ⟨d, hkept hd, hrest⟩
  · intro timer id
    refine (h.timers timer id).trans ⟨fun ⟨d, hd, htimer⟩ => ⟨d, hkept hd, htimer⟩, ?_⟩
    rintro ⟨d, hd, htimer⟩
    obtain ⟨-, rfl⟩ | ⟨-, hold⟩ := OrdMap.get?_set_eq_some hd
    · cases htimer
    · exact ⟨d, hold, htimer⟩
  · intro id d timer hd htimer
    obtain ⟨-, rfl⟩ | ⟨-, hold⟩ := OrdMap.get?_set_eq_some hd
    · cases htimer
    · exact h.beating id d timer hold htimer

theorem timers_erase (h : ConnInv net) {d d' : ConnectionData}
    (hd : net.connections.get? id = some d) (htimer : d'.heartbeatTimer = none)
    {heartbeatTimers : OrdMap Nat Nat}
    (hlost : heartbeatTimers = match d.heartbeatTimer with
      | some timer => net.heartbeatTimers.erase timer
      | none => net.heartbeatTimers) (timer id' : Nat) :
    heartbeatTimers.get? timer = some id' ↔
      ∃ d'', (net.connections.set id d').get? id' = some d'' ∧ d''.heartbeatTimer = some timer := by
  have hother : (∃ d'', (net.connections.set id d').get? id' = some d'' ∧
      d''.heartbeatTimer = some timer) ↔ id' ≠ id ∧ net.heartbeatTimers.get? timer = some id' := by
    rw [h.timers]
    constructor
    · rintro ⟨d'', hd'', heq⟩
      obtain ⟨-, rfl⟩ | ⟨hne, hold⟩ := OrdMap.get?_set_eq_some hd''
      · rw [htimer] at heq
        cases heq
      · exact ⟨hne, d'', hold, heq⟩
    · rintro ⟨hne, d'', hold, heq⟩
      exact ⟨d'', (OrdMap.get?_set_of_ne _ _ hne).trans hold, heq⟩
  rw [hother, hlost]
  cases hown : d.heartbeatTimer with
  | none =>
    refine (and_iff_right_of_imp fun htimer' => ?_).symm
    rintro rfl
    obtain ⟨d'', hd'', heq⟩ := (h.timers timer id').1 htimer'
    cases hd.symm.trans hd''
    rw [hown] at heq
    cases heq
  | some own =>
    dsimp only
    rw [OrdMap.get?_erase]
    have hownId := (h.timers own id).2 ⟨d, hd, hown⟩
    by_cases heq : timer = own
    · rw [if_pos heq, heq, hownId]
      constructor
      · nofun
      · rintro ⟨hne, heq'⟩
        exact absurd (Option.some.inj heq').symm hne
    · rw [if_neg heq]
      refine (and_iff_right_of_imp fun htimer' => ?_).symm
      rintro rfl
      obtain ⟨d'', hd'', heq'⟩ := (h.timers timer id').1 htimer'
      cases hd.symm.trans hd''
      exact heq (Option.some.inj (heq'.symm.trans hown))

theorem cleanupConnection (h : ConnInv net) : ConnInv (Net.cleanupConnection id net).1 := by
  unfold Net.cleanupConnection
  split
  · exact h
  · next d hd =>
    rw [ConnectionData.transition_closed]
    constructor
    · intro id' d' hd'
      obtain ⟨rfl, -⟩ | ⟨-, hold⟩ := OrdMap.get?_set_eq_some hd'
      · exact h.counted _ d hd
      · exact h.counted id' d' hold
    · intro id' hid'
      -- a connection that is cleaned up leaves the registry
      have hne : id' ≠ id := by
        rintro rfl
        obtain ⟨u, hu⟩ := OrdMap.has_eq_true_iff.1 hid'
        exact (OrdMap.get?_erase_eq_some hu).1 rfl
      obtain ⟨d', hd', hrest⟩ := h.registered id' (Net.has_erase hid')
      exact ⟨d', (OrdMap.get?_set_of_ne _ _ hne).trans hd', hrest⟩
    · exact h.timers_erase hd rfl rfl
    · intro id' d' timer hd' htimer
      obtain ⟨-, rfl⟩ | ⟨-, hold⟩ := OrdMap.get?_set_eq_some hd'
      · cases htimer
      · exact h.beating id' d' timer hold htimer

theorem closeSocket (h : ConnInv net) {code : CloseCode} :
    ConnInv (Net.closeSocket cfg id code net).1 := by
  have hclosing : ConnInv (net.modify id fun d => { d with socketOpen := false }) :=
    h.modify fun _ => rfl
  unfold Net.closeSocket
  split
  · dsimp only
    split
    · exact hclosing.cleanupConnection
    · exact hclosing
  · exact h

theorem stopHeartbeat (h : ConnInv net) : ConnInv (Net.stopHeartbeat id net).1 := by
  unfold Net.stopHeartbeat
  split
  · exact h
  · next d hd =>
    split
    · exact h
    · next own hown =>
      constructor
      · intro id' d' hd'
        obtain ⟨rfl, -⟩ | ⟨-, hold⟩ := OrdMap.get?_set_eq_some hd'
        · exact h.counted _ d hd
        · exact h.counted id' d' hold
      · intro id' hid'
        obtain ⟨d', hd', hactive, hbound⟩ := h.registered id' hid'
        by_cases heq : id' = id
        · subst heq
          cases hd.symm.trans hd'
          exact ⟨_, OrdMap.get?_set_self _ _ _, hactive, hbound⟩
        · exact ⟨d', (OrdMap.get?_set_of_ne _ _ heq).trans hd', hactive, hbound⟩
      · exact h.timers_erase hd rfl (by rw [hown])
      · intro id' d' timer hd' htimer
        obtain ⟨-, rfl⟩ | ⟨-, hold⟩ := OrdMap.get?_set_eq_some hd'
        · cases htimer
        · exact h.beating id' d' timer hold htimer

theorem accept (h : ConnInv net) {credential : Snapshot} {lastSeenSeq : Option Nat}
    (hphase : ∀ d, net.connections.get? id = some d → d.phase = .authenticating) :
    ConnInv (Net.accept cfg id credential lastSeenSeq net).1 := by
  cases hd : net.connections.get? id with
  | none =>
    rw [Net.accept_of_none hd]
    exact h
  | some d =>
    have hauth := hphase d hd
    rw [Net.accept_of_some hd]
    constructor
    · intro id' d' hd'
      obtain ⟨rfl, -⟩ | ⟨-, hold⟩ := OrdMap.get?_set_eq_some hd'
      · exact h.counted _ d hd
      · exact h.counted id' d' hold
    · intro id' hid'
      by_cases heq : id' = id
      · rw [heq]
        refine ⟨d.accepted credential, OrdMap.get?_set_self _ _ _, ?_, rfl⟩
        show (if d.phase = .authenticating then ConnectionPhase.active else d.phase) = .active
        rw [if_pos hauth]
      · obtain ⟨u, hu⟩ := OrdMap.has_eq_true_iff.1 hid'
        obtain ⟨d', hd', hrest⟩ := h.registered id'
          (OrdMap.has_eq_true_iff.2 ⟨u, (OrdMap.get?_set_of_ne _ _ heq).symm.trans hu⟩)
        exact ⟨d', (OrdMap.get?_set_of_ne _ _ heq).trans hd', hrest⟩
    · intro timer id'
      refine (h.timers timer id').trans ?_
      constructor
      · rintro ⟨d', hd', htimer⟩
        by_cases heq : id' = id
        · subst heq
          cases hd.symm.trans hd'
          exact ⟨_, OrdMap.get?_set_self _ _ _, htimer⟩
        · exact ⟨d', (OrdMap.get?_set_of_ne _ _ heq).trans hd', htimer⟩
      · rintro ⟨d', hd', htimer⟩
        obtain ⟨rfl, rfl⟩ | ⟨-, hold⟩ := OrdMap.get?_set_eq_some hd'
        · exact ⟨d, hd, htimer⟩
        · exact ⟨d', hold, htimer⟩
    · intro id' d' timer hd' htimer
      obtain ⟨rfl, rfl⟩ | ⟨-, hold⟩ := OrdMap.get?_set_eq_some hd'
      · exact absurd hauth (h.beating _ d timer hd htimer).1
      · exact h.beating id' d' timer hold htimer

theorem startHeartbeat (h : ConnInv net) {timer : Nat}
    (hnew : net.heartbeatTimers.get? timer = none)
    (hphase : ∀ d, net.connections.get? id = some d → d.phase ≠ .authenticating ∧
      d.phase ≠ .closed ∧ d.heartbeatTimer = none) :
    ConnInv (Net.startHeartbeat id timer net).1 := by
  unfold Net.startHeartbeat
  split
  · exact h
  · next d hd =>
    obtain ⟨hauth, hclosed, hnone⟩ := hphase d hd
    split
    · exact h
    · constructor
      · intro id' d' hd'
        obtain ⟨rfl, -⟩ | ⟨-, hold⟩ := OrdMap.get?_set_eq_some hd'
        · exact h.counted _ d hd
        · exact h.counted id' d' hold
      · intro id' hid'
        obtain ⟨d', hd', hactive, hbound⟩ := h.registered id' hid'
        by_cases heq : id' = id
        · subst heq
          cases hd.symm.trans hd'
          exact ⟨_, OrdMap.get?_set_self _ _ _, hactive, hbound⟩
        · exact ⟨d', (OrdMap.get?_set_of_ne _ _ heq).trans hd', hactive, hbound⟩
      · intro timer' id'
        dsimp only
        rw [OrdMap.get?_set]
        by_cases heq : timer' = timer
        · rw [if_pos heq, heq]
          constructor
          · intro hid
            rw [← Option.some.inj hid]
            exact ⟨_, OrdMap.get?_set_self _ _ _, rfl⟩
          · rintro ⟨d', hd', htimer⟩
            obtain ⟨rfl, -⟩ | ⟨-, hold⟩ := OrdMap.get?_set_eq_some hd'
            · rfl
            · rw [(h.timers timer id').2 ⟨d', hold, htimer⟩] at hnew
              cases hnew
        · rw [if_neg heq, h.timers]
          constructor
          · rintro ⟨d', hd', htimer⟩
            -- the connection had no timer before
            have hne : id' ≠ id := by
              rintro rfl
              cases hd.symm.trans hd'
              rw [hnone] at htimer
              cases htimer
            exact ⟨d', (OrdMap.get?_set_of_ne _ _ hne).trans hd', htimer⟩
          · rintro ⟨d', hd', htimer⟩
            obtain ⟨-, rfl⟩ | ⟨-, hold⟩ := OrdMap.get?_set_eq_some hd'
            · exact absurd (Option.some.inj htimer).symm heq
            · exact ⟨d', hold, htimer⟩
      · intro id' d' timer' hd' htimer
        obtain ⟨rfl, rfl⟩ | ⟨-, hold⟩ := OrdMap.get?_set_eq_some hd'
        · exact ⟨hauth, hclosed⟩
        · exact h.beating id' d' timer' hold htimer

theorem op (h : ConnInv net) {op : NetOp} (haccept : ∀ id credential last,
      op ≠ .accept id credential last) (hstart : ∀ id timer, op ≠ .startHeartbeat id timer) :
    ConnInv (op.apply cfg net).1 := by
  cases op with
  | accept id credential last => exact absurd rfl (haccept id credential last)
  | startHeartbeat id timer => exact absurd rfl (hstart id timer)
  | opened => exact h.opened
  | clearAuthTimer id => exact h.modify fun _ => rfl
  | sendJson => exact h
  | noteProjected => exact h
  | sendSequenced id e =>
    show ConnInv (Net.sendSequenced id e net).1
    unfold Net.sendSequenced
    split
    · exact h
    · split
      · exact h
      · exact h.of_skeleton rfl rfl rfl fun _ => rfl
  | cleanupConnection id => exact h.cleanupConnection
  | closeSocket id code => exact h.closeSocket
  | setRecord id credential => exact h.modify fun _ => rfl
  | stopHeartbeat id => exact h.stopHeartbeat
  | beginRequest id timer requestId =>
    have hmodify : ConnInv (net.modify id fun d =>
        { d with inFlightRequests := d.inFlightRequests.set requestId timer }) :=
      h.modify fun _ => rfl
    exact hmodify.of_skeleton rfl rfl rfl fun _ => rfl
  | endRequest id requestId reply =>
    have hmodify : ConnInv (net.modify id fun d =>
        { d with inFlightRequests := d.inFlightRequests.erase requestId }) :=
      h.modify fun _ => rfl
    show ConnInv (Net.endRequest id requestId reply net).1
    unfold Net.endRequest
    split
    · exact h
    · exact hmodify.of_skeleton rfl rfl rfl fun _ => rfl
  | timeoutRequest id timer requestId =>
    have hmodify : ConnInv (net.modify id fun d =>
        { d with inFlightRequests := d.inFlightRequests.erase requestId }) :=
      h.modify fun _ => rfl
    exact hmodify.of_skeleton rfl rfl rfl fun _ => rfl

end ConnInv

theorem heartbeatTimers_of_op {cfg : TransportConfig} {net : Net} {op : NetOp}
    (hstart : ∀ id timer, op ≠ .startHeartbeat id timer) {timer id : Nat}
    (h : (op.apply cfg net).1.heartbeatTimers.get? timer = some id) :
    net.heartbeatTimers.get? timer = some id := by
  have hcleanup : ∀ {net : Net} {id'},
      (Net.cleanupConnection id' net).1.heartbeatTimers.get? timer =
      some id → net.heartbeatTimers.get? timer = some id := by
    intro net id' h
    unfold Net.cleanupConnection at h
    split at h
    · exact h
    · dsimp only at h
      split at h
      · exact (OrdMap.get?_erase_eq_some h).2
      · exact h
  cases op with
  | startHeartbeat id timer => exact absurd rfl (hstart id timer)
  | sendSequenced id' e =>
    replace h : (Net.sendSequenced id' e net).1.heartbeatTimers.get? timer = some id := h
    unfold Net.sendSequenced at h
    split at h
    · exact h
    · split at h <;> exact h
  | cleanupConnection id' => exact hcleanup h
  | closeSocket id' code =>
    replace h : (Net.closeSocket cfg id' code net).1.heartbeatTimers.get? timer = some id := h
    unfold Net.closeSocket at h
    split at h
    · dsimp only at h
      split at h
      · have hclosing := hcleanup h
        rwa [Net.modify_heartbeatTimers] at hclosing
      · rwa [Net.modify_heartbeatTimers] at h
    · exact h
  | stopHeartbeat id' =>
    replace h : (Net.stopHeartbeat id' net).1.heartbeatTimers.get? timer = some id := h
    unfold Net.stopHeartbeat at h
    split at h
    · exact h
    · split at h
      · exact h
      · exact (OrdMap.get?_erase_eq_some h).2
  | accept id' credential last =>
    replace h : (Net.accept cfg id' credential last net).1.heartbeatTimers.get? timer = some id := h
    cases hd : net.connections.get? id' with
    | none => rwa [Net.accept_of_none hd] at h
    | some d => rwa [Net.accept_of_some hd] at h
  | endRequest id' requestId reply =>
    replace h : (Net.endRequest id' requestId reply net).1.heartbeatTimers.get? timer = some id := h
    unfold Net.endRequest at h
    split at h
    · exact h
    · rwa [← @Net.modify_heartbeatTimers net id' fun d =>
        { d with inFlightRequests := d.inFlightRequests.erase requestId }]
  | opened => exact h
  | sendJson => exact h
  | noteProjected => exact h
  | clearAuthTimer id' =>
    rwa [← @Net.modify_heartbeatTimers net id' fun d => { d with authTimer := false }]
  | setRecord id' credential =>
    rwa [← @Net.modify_heartbeatTimers net id' fun d =>
      { d with credentialRecord := some credential }]
  | beginRequest id' timer' requestId =>
    rwa [← @Net.modify_heartbeatTimers net id' fun d =>
      { d with inFlightRequests := d.inFlightRequests.set requestId timer' }]
  | timeoutRequest id' timer' requestId =>
    rwa [← @Net.modify_heartbeatTimers net id' fun d =>
      { d with inFlightRequests := d.inFlightRequests.erase requestId }]

/-! ### The condition -/

/-- The awaits of `handleAuthFrame` find the connection where they left it. -/
structure AuthUninterrupted (s : TransportState) (a : TransportAction) : Prop where
  /-- A token lookup is accepted while the connection is authenticating. -/
  accepted : ∀ call id lastSeenSeq record d, Accepts s call id lastSeenSeq record a →
    s.net.connections.get? id = some d → d.phase = .authenticating
  /-- `fingerprintToken` returns before the connection is closed. -/
  fingerprinted : ∀ call fingerprint id credential resume d, a = .fingerprinted call fingerprint →
    s.calls.get? call = some (.fingerprinting id credential resume) →
      s.net.connections.get? id = some d → d.phase ≠ .closed

/-! ### The registry -/

/-- The invariant, with the calls of `handleAuthFrame`. -/
structure RegistryInv (tr : List TransportEvent) (s : TransportState) : Prop where
  net : ConnInv s.net
  known : ∀ call id lastSeenSeq, s.calls.get? call = some (.authenticating id lastSeenSeq) →
    ∃ d, s.net.connections.get? id = some d
  /-- Who awaits its fingerprint has no heartbeat yet. -/
  awaiting : ∀ call id credential resume,
    s.calls.get? call = some (.fingerprinting id credential resume) →
      ∃ d, s.net.connections.get? id = some d ∧ d.phase ≠ .authenticating ∧ d.heartbeatTimer = none
  /-- It awaits one only. -/
  single : ∀ call call' id credential credential' resume resume',
    s.calls.get? call = some (.fingerprinting id credential resume) →
      s.calls.get? call' = some (.fingerprinting id credential' resume') → call = call'
  /-- Timers have the numbers of calls that have returned. -/
  numbered : ∀ timer id, s.net.heartbeatTimers.get? timer = some id →
    timer < s.started ∧ s.calls.get? timer = none
  accepted : ∀ id call c last, .net (.accepted id call c last) ∈ tr →
    ∃ d, s.net.connections.get? id = some d ∧ d.phase ≠ .authenticating ∧ d.credentialId = some c
  closed : ∀ id, .net (.closed id) ∈ tr →
    ∃ d, s.net.connections.get? id = some d ∧ d.phase = .closed

namespace RegistryInv

variable {cfg : TransportConfig} {s s' : TransportState} {a : TransportAction}
  {tr es : List TransportEvent}

theorem initial : RegistryInv [] (transportMachine cfg).init where
  net := .empty
  known _ _ _ hcall := by cases hcall
  awaiting _ _ _ _ hcall := by cases hcall
  single _ _ _ _ _ _ _ hcall := by cases hcall
  numbered _ _ htimer := by cases htimer
  accepted _ _ _ _ hmem := by cases hmem
  closed _ hmem := by cases hmem

/-- Steps other than an accepted lookup and a returned fingerprint. -/
theorem net_step_other (hinv : ConnInv s.net) (hstep : transportStep cfg s a = some (s', es))
    (haccepts : ∀ call id last record, ¬ Accepts s call id last record a)
    (hfinger : ∀ call fingerprint, a ≠ .fingerprinted call fingerprint) :
    ConnInv s'.net ∧ ∀ timer id, s'.net.heartbeatTimers.get? timer = some id →
      s.net.heartbeatTimers.get? timer = some id := by
  -- none of these operations accepts a token or starts a heartbeat
  have hop : ∀ {net op}, NetOpOf cfg s a net op →
      (∀ id credential last, op ≠ .accept id credential last) ∧
        ∀ id timer, op ≠ .startHeartbeat id timer := by
    intro net op hop
    cases hop with
    | accept hcall hactive => exact absurd ⟨rfl, rfl, hactive, hcall⟩ (haccepts _ _ _ _)
    | startHeartbeat hcall => exact absurd rfl (hfinger _ _)
    | _ => exact ⟨nofun, nofun⟩
  refine RunFrom.preserves (I := fun net => ConnInv net ∧ ∀ timer id,
    net.heartbeatTimers.get? timer = some id → s.net.heartbeatTimers.get? timer = some id)
    (transportStep_net hstep) (fun {net op net' es} hnet hok hs => ?_) ⟨hinv, fun _ _ h => h⟩
  obtain ⟨rfl, -⟩ := Prod.mk.inj (Option.some.inj hs)
  obtain ⟨haccept, hstart⟩ := hop hok
  exact ⟨hnet.1.op haccept hstart, fun timer id h =>
    hnet.2 timer id (heartbeatTimers_of_op hstart h)⟩

theorem net_step (hinv : RegistryInv tr s) (hok : AuthUninterrupted s a)
    (hstep : transportStep cfg s a = some (s', es)) :
    ConnInv s'.net ∧ ∀ timer id, s'.net.heartbeatTimers.get? timer = some id →
      s.net.heartbeatTimers.get? timer = some id ∨ ∃ fingerprint credential resume,
        a = .fingerprinted timer fingerprint ∧
          s.calls.get? timer = some (.fingerprinting id credential resume) := by
  by_cases haccepts : ∃ call id last record, Accepts s call id last record a
  · obtain ⟨call, id, last, record, haccepts⟩ := haccepts
    obtain ⟨hnet, -⟩ := net_of_accepts hstep haccepts
    dsimp only at hnet
    rw [hnet]
    refine ⟨hinv.net.accept fun d hd => hok.accepted call id last record d haccepts hd, ?_⟩
    intro timer id' htimer
    exact .inl (@heartbeatTimers_of_op cfg _ (.accept id ⟨record, call⟩ last) nofun _ _ htimer)
  by_cases hfinger : ∃ call fingerprint, a = .fingerprinted call fingerprint
  · obtain ⟨call, fingerprint, rfl⟩ := hfinger
    simp only [transportStep] at hstep
    split at hstep
    · next id credential resume hcall =>
      cases hstep
      obtain ⟨states, hnet⟩ := welcome_net id call credential fingerprint resume s.net
      have hsame : ConnInv { s.net with credentialStates := states } :=
        hinv.net.of_skeleton rfl rfl rfl fun _ => rfl
      have hfree : s.net.heartbeatTimers.get? call = none := by
        cases htimer : s.net.heartbeatTimers.get? call with
        | none => rfl
        | some id' =>
          have hnone := (hinv.numbered call id' htimer).2
          rw [hcall] at hnone
          cases hnone
      show ConnInv (welcome id call credential fingerprint resume s.net).1 ∧
        ∀ timer id', (welcome id call credential fingerprint resume
          s.net).1.heartbeatTimers.get? timer = some id' → _
      rw [hnet]
      refine ⟨hsame.startHeartbeat hfree fun d hd => ?_, fun timer id' htimer => ?_⟩
      · obtain ⟨d', hd', hauth, hnone⟩ := hinv.awaiting call id credential resume hcall
        cases hd.symm.trans hd'
        exact ⟨hauth, hok.fingerprinted call fingerprint id credential resume d rfl hcall hd, hnone⟩
      · unfold Net.startHeartbeat at htimer
        split at htimer
        · exact .inl htimer
        · split at htimer
          · exact .inl htimer
          · obtain ⟨rfl, rfl⟩ | ⟨-, hold⟩ := OrdMap.get?_set_eq_some htimer
            · exact .inr ⟨fingerprint, credential, resume, rfl, hcall⟩
            · exact .inl hold
    · cases hstep
  · obtain ⟨hconn, htimers⟩ := net_step_other hinv.net hstep
      (fun call id last record hno => haccepts ⟨call, id, last, record, hno⟩)
      (fun call fingerprint heq => hfinger ⟨call, fingerprint, heq⟩)
    exact ⟨hconn, fun timer id htimer => .inl (htimers timer id htimer)⟩

/-- **The invariant along a step.** -/
theorem step (hinv : RegistryInv tr s) (hfresh : s.Fresh) (hok : AuthUninterrupted s a)
    (hstep : transportStep cfg s a = some (s', es)) : RegistryInv (tr ++ es) s' := by
  have hcore := transportStep_core hstep
  obtain ⟨hnet, htimers⟩ := hinv.net_step hok hstep
  -- a call that awaits a fingerprint is an old one or has just been accepted
  have hawaits : ∀ {call id credential resume},
      s'.calls.get? call = some (.fingerprinting id credential resume) →
      (s.calls.get? call = some (.fingerprinting id credential resume) ∧
        a.answered ≠ some call) ∨
      (call = s.started ∧ ∃ last record, Accepts s credential.lookup id last record a) := by
    intro call id credential resume hcall
    rcases hcore.get?_calls hcall with hold | ⟨rfl, -, hstarts⟩
    · exact .inl hold
    · cases hstarts with
      | fingerprinting hcall' hactive =>
        exact .inr ⟨rfl, _, _, rfl, rfl, hactive, hcall'⟩
  -- who is accepted has no fingerprint to await yet
  have hno : ∀ {call id credential resume call' last record},
      s.calls.get? call = some (.fingerprinting id credential resume) →
      ¬ Accepts s call' id last record a := by
    intro call id credential resume call' last record hcall haccepts
    obtain ⟨d, hd, hauth, -⟩ := hinv.awaiting call id credential resume hcall
    exact hauth (hok.accepted call' id last record d haccepts hd)
  have hopen : ∀ {call id credential resume},
      s.calls.get? call = some (.fingerprinting id credential resume) → a.answered ≠ some call →
      ∃ d, s'.net.connections.get? id = some d ∧ d.phase ≠ .authenticating ∧
        d.heartbeatTimer = none := by
    intro call id credential resume hcall hne
    obtain ⟨d, hd, hauth, hnone⟩ := hinv.awaiting call id credential resume hcall
    obtain ⟨d', hd', hauth', -, -, -⟩ :=
      connection_of_transportStep hstep (hinv.net.counted id d hd) hd
    refine ⟨d', hd', hauth' hauth, ?_⟩
    cases htimer : d'.heartbeatTimer with
    | none => rfl
    | some timer =>
      rcases htimers timer id ((hnet.timers timer id).2 ⟨d', hd', htimer⟩) with
        hold | ⟨fingerprint, credential', resume', rfl, hcall'⟩
      · obtain ⟨d₀, hd₀, heq⟩ := (hinv.net.timers timer id).1 hold
        cases hd.symm.trans hd₀
        rw [hnone] at heq
        cases heq
      · -- its own fingerprint has returned
        exact absurd (congrArg some (hinv.single _ _ _ _ _ _ _ hcall' hcall)) hne
  constructor
  · exact hnet
  -- `known`: lookups are started for open connections, and no connection is forgotten
  · intro call id last hcall
    have hd : ∃ d, s.net.connections.get? id = some d := by
      rcases hcore.get?_calls hcall with ⟨hold, -⟩ | ⟨-, -, hstarts⟩
      · exact hinv.known call id last hold
      · cases hstarts with
        | authenticating hd => exact ⟨_, hd⟩
    obtain ⟨d, hd⟩ := hd
    obtain ⟨d', hd', -⟩ := connection_of_transportStep hstep (hinv.net.counted id d hd) hd
    exact ⟨d', hd'⟩
  -- `awaiting`: accepted before, or in this step, and no heartbeat runs yet
  · intro call id credential resume hcall
    rcases hawaits hcall with ⟨hold, hne⟩ | ⟨-, last, record, haccepts⟩
    · exact hopen hold hne
    · have hauthenticating : ∃ call, s.calls.get? call = some (.authenticating id last) := by
        cases a with
        | looked call' answer project => exact ⟨call', haccepts.1 ▸ haccepts.2.2.2⟩
        | _ => exact haccepts.elim
      obtain ⟨call', hcall'⟩ := hauthenticating
      obtain ⟨d, hd⟩ := hinv.known call' id last hcall'
      have hauth := hok.accepted credential.lookup id last record d haccepts hd
      obtain ⟨hnet', -⟩ := net_of_accepts hstep haccepts
      dsimp only at hnet'
      rw [hnet', Net.accept_of_some hd]
      refine ⟨_, OrdMap.get?_set_self _ _ _, ?_, ?_⟩
      · show (if d.phase = .authenticating then ConnectionPhase.active else d.phase) ≠ _
        rw [if_pos hauth]
        nofun
      · show d.heartbeatTimer = none
        cases htimer : d.heartbeatTimer with
        | none => rfl
        | some timer => exact absurd hauth (hinv.net.beating id d timer hd htimer).1
  -- `single`: a second one would have been accepted after the first
  · intro call call' id credential credential' resume resume' hcall hcall'
    rcases hawaits hcall with ⟨hold, -⟩ | ⟨rfl, last, record, haccepts⟩
    · rcases hawaits hcall' with ⟨hold', -⟩ | ⟨rfl, last', record', haccepts'⟩
      · exact hinv.single _ _ _ _ _ _ _ hold hold'
      · exact absurd haccepts' (hno hold)
    · rcases hawaits hcall' with ⟨hold', -⟩ | ⟨rfl, -⟩
      · exact absurd haccepts (hno hold')
      · rfl
  -- `numbered`: the timer of a heartbeat has the number of a call that is over
  · intro timer id htimer
    rcases htimers timer id htimer with hold | ⟨fingerprint, credential, resume, rfl, hcall⟩
    · obtain ⟨hlt, hnone⟩ := hinv.numbered timer id hold
      refine ⟨Nat.lt_of_lt_of_le hlt hcore.started_le, ?_⟩
      cases hcall : s'.calls.get? timer with
      | none => rfl
      | some phase =>
        rcases hcore.get?_calls hcall with ⟨hold', -⟩ | ⟨rfl, -⟩
        · rw [hnone] at hold'
          cases hold'
        · exact absurd hlt (Nat.lt_irrefl _)
    · refine ⟨Nat.lt_of_lt_of_le (hfresh.of_get? hcall) hcore.started_le, ?_⟩
      cases hcall' : s'.calls.get? timer with
      | none => rfl
      | some phase =>
        rcases hcore.get?_calls hcall' with ⟨-, hne⟩ | ⟨rfl, -⟩
        · exact absurd rfl hne
        · exact absurd (hfresh.of_get? hcall) (Nat.lt_irrefl _)
  -- `accepted`: a bound connection stays bound
  · intro id call c last hmem
    rcases List.mem_append.1 hmem with hold | hnew
    · obtain ⟨d, hd, hauth, hbound⟩ := hinv.accepted id call c last hold
      obtain ⟨d', hd', hauth', -, -, hcred | ⟨call', last', record, haccepts⟩⟩ :=
        connection_of_transportStep hstep (hinv.net.counted id d hd) hd
      · exact ⟨d', hd', hauth' hauth, hcred.trans hbound⟩
      · exact absurd (hok.accepted call' id last' record d haccepts hd) hauth
    · -- bound in this step
      obtain ⟨record, d, haccepts, rfl, hd⟩ := accepted_of_transportStep hstep hnew
      have hauth := hok.accepted call id last record d haccepts hd
      obtain ⟨hnet', -⟩ := net_of_accepts hstep haccepts
      dsimp only at hnet'
      rw [hnet', Net.accept_of_some hd]
      refine ⟨_, OrdMap.get?_set_self _ _ _, ?_, rfl⟩
      show (if d.phase = .authenticating then ConnectionPhase.active else d.phase) ≠ _
      rw [if_pos hauth]
      nofun
  -- `closed`: a closed connection stays closed
  · intro id hmem
    rcases List.mem_append.1 hmem with hold | hnew
    · obtain ⟨d, hd, hclosed⟩ := hinv.closed id hold
      obtain ⟨d', hd', -, hclosed', -⟩ :=
        connection_of_transportStep hstep (hinv.net.counted id d hd) hd
      exact ⟨d', hd', hclosed' hclosed⟩
    · exact closed_of_transportStep hstep hnew

end RegistryInv

end Signet.Ws
