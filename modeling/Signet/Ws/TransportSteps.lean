import Signet.Ws.TransportOps

/-!
# What a step of the transport does on the connections

On the connections a step is a run of operations; `NetOpOf` says which ones and when, and
`transportStep_net` is the only place where the step is taken apart for them.
-/

namespace Signet.Ws

open Lib

/-! ### Which operations a step performs -/

/-- The frame answers a message of the client. -/
def ServerFrame.isReply : ServerFrame → Bool
  | authError _ _ => true
  | response _ _ => true
  | _ => false

/-- The connection that a call delivers a record to. -/
def TransportCall.recordTarget : TransportCall → Option Nat
  | heartbeat connectionId => some connectionId
  | requesting connectionId _ => some connectionId
  | resyncing connectionId _ => some connectionId
  | _ => none

/-- The connection that a call sends a reply on when its lookup is answered. -/
def TransportCall.replyTarget : TransportCall → LookupAnswer → Option Nat
  | authenticating connectionId _, .err _ => some connectionId
  | authenticating connectionId _, .ok record =>
    if record.status = .active then none else some connectionId
  | requesting connectionId (.invalid (some _)), .ok record =>
    if record.status = .active then some connectionId else none
  | resyncing connectionId _, _ => some connectionId
  | _, _ => none

/-- The connection that an action sends a reply on. -/
def replyTarget (s : TransportState) : TransportAction → Option Nat
  | .authTimeout connectionId => some connectionId
  | .authFrame connectionId none => some connectionId
  | .looked call answer _ => (s.calls.get? call).bind (·.replyTarget answer)
  | .routed call threw =>
    match s.calls.get? call with
    | some (.routing connectionId _ mutating) =>
      if threw || !mutating then some connectionId else none
    | _ => none
  | .requestTimeout timer => (s.net.requestTimers.get? timer).map (·.1)
  | _ => none

inductive HandsOut (s : TransportState) : TransportAction → String → Broadcast → Projector → Prop
  | direct {credentialId : String} {event : SignetEvent} {project : Projector}
      (hnone : s.pendingInvalidations.get? credentialId = none) :
      HandsOut s (.broadcast credentialId event project) credentialId ⟨s.broadcasts, event⟩ project
  | drained {call generation : Nat} {credentialId : String} {answer : LookupAnswer}
      {project : Projector} {entry : PendingInvalidation} {b : Broadcast}
      (hcall : s.calls.get? call = some (.invalidating credentialId generation))
      (hentry : s.pendingInvalidations.get? credentialId = some entry)
      (hlast : entry.refcount ≤ 1) (hqueued : b ∈ entry.events) :
      HandsOut s (.looked call answer project) credentialId b project

/-- The connections as they are when a step hands broadcasts out: an invalidation that is answered
has written its record. -/
def handOutNet (cfg : TransportConfig) (s : TransportState) : TransportAction → Net
  | .looked call answer _ =>
    match s.calls.get? call with
    | some (.invalidating credentialId generation) =>
      (TransportState.applyInvalidation cfg credentialId generation call answer
        (s.finish call)).1.net
    | _ => s.net
  | _ => s.net

/-- The connections on which a broadcast that is handed out gets a number. -/
def receiversOf (net : Net) (credentialId : String) (project : Projector) (event : SignetEvent) :
    List Nat :=
  (net.getByCredentialId credentialId).filter fun connectionId =>
    ((net.connections.get? connectionId).bind (·.receiver?)).any fun credential =>
      (project event credential.record).isSome

/-- The operations of a step, each with what is known when it is performed. -/
inductive NetOpOf (cfg : TransportConfig) (s : TransportState) :
    TransportAction → Net → NetOp → Prop
  | opened {net : Net} : NetOpOf cfg s .connect net .opened
  | clearAuthTimer {a : TransportAction} {net : Net} {connectionId : Nat} :
      NetOpOf cfg s a net (.clearAuthTimer connectionId)
  | reply {a : TransportAction} {net : Net} {connectionId : Nat} {frame : ServerFrame}
      (htarget : replyTarget s a = some connectionId) (hframe : frame.isReply = true) :
      NetOpOf cfg s a net (.sendJson connectionId frame)
  | closeSocket {a : TransportAction} {net : Net} {connectionId : Nat} {code : CloseCode} :
      NetOpOf cfg s a net (.closeSocket connectionId code)
  | stopHeartbeat {a : TransportAction} {net : Net} {connectionId : Nat} :
      NetOpOf cfg s a net (.stopHeartbeat connectionId)
  | cleanupConnection {connectionId : Nat} {net : Net} :
      NetOpOf cfg s (.close connectionId) net (.cleanupConnection connectionId)
  | accept {call connectionId : Nat} {lastSeenSeq : Option Nat} {record : CredentialRecord}
      {project : Projector} {net : Net}
      (hcall : s.calls.get? call = some (.authenticating connectionId lastSeenSeq))
      (hactive : record.status = .active) :
      NetOpOf cfg s (.looked call (.ok record) project) net
        (.accept connectionId ⟨record, call⟩ lastSeenSeq)
  /-- A heartbeat or a request delivers a record. -/
  | delivers {call connectionId : Nat} {phase : TransportCall} {record : CredentialRecord}
      {project : Projector} {net : Net} (hcall : s.calls.get? call = some phase)
      (htarget : phase.recordTarget = some connectionId) :
      NetOpOf cfg s (.looked call (.ok record) project) net (.setRecord connectionId ⟨record, call⟩)
  /-- The latest invalidation delivers a record. -/
  | refreshes {call connectionId generation : Nat} {credentialId : String}
      {record : CredentialRecord} {project : Projector} {net : Net} {entry : PendingInvalidation}
      (hcall : s.calls.get? call = some (.invalidating credentialId generation))
      (hentry : s.pendingInvalidations.get? credentialId = some entry)
      (hlatest : entry.generation = generation)
      (hid : connectionId ∈ s.net.getByCredentialId credentialId) :
      NetOpOf cfg s (.looked call (.ok record) project) net (.setRecord connectionId ⟨record, call⟩)
  | beats {call connectionId : Nat} {record : CredentialRecord} {project : Projector} {net : Net}
      (hcall : s.calls.get? call = some (.heartbeat connectionId))
      (hactive : record.status = .active) :
      NetOpOf cfg s (.looked call (.ok record) project) net
        (.sendSequenced connectionId (.other "heartbeat", none))
  | authenticated {call connectionId : Nat} {fingerprint : String} {credential : Snapshot}
      {resume : CredentialReplayState.Resume} {net : Net}
      (hcall : s.calls.get? call = some (.fingerprinting connectionId credential resume)) :
      NetOpOf cfg s (.fingerprinted call fingerprint) net
        (.sendJson connectionId (.authenticated credential fingerprint resume.resumedFromSeq))
  | recovers {call connectionId : Nat} {fingerprint : String} {credential : Snapshot}
      {resume : CredentialReplayState.Resume} {net : Net}
      (hcall : s.calls.get? call = some (.fingerprinting connectionId credential resume))
      (hrecovery : resume.needsRecovery = true) :
      NetOpOf cfg s (.fingerprinted call fingerprint) net
        (.sendSequenced connectionId (.other "signet.recovery.complete", none))
  | replays {call connectionId : Nat} {fingerprint : String} {credential : Snapshot}
      {resume : CredentialReplayState.Resume} {net : Net} {frame : SequencedFrame}
      (hcall : s.calls.get? call = some (.fingerprinting connectionId credential resume))
      (hframe : frame ∈ resume.replayFrames) :
      NetOpOf cfg s (.fingerprinted call fingerprint) net
        (.sendJson connectionId (.sequenced frame))
  | startHeartbeat {call connectionId : Nat} {fingerprint : String} {credential : Snapshot}
      {resume : CredentialReplayState.Resume} {net : Net}
      (hcall : s.calls.get? call = some (.fingerprinting connectionId credential resume)) :
      NetOpOf cfg s (.fingerprinted call fingerprint) net (.startHeartbeat connectionId call)
  | projects {a : TransportAction} {credentialId : String} {b : Broadcast} {project : Projector}
      {net : Net} {connectionId : Nat} {credential : Snapshot}
      (hhands : HandsOut s a credentialId b project)
      (hid : connectionId ∈ s.net.getByCredentialId credentialId)
      (hreceiver : (net.connections.get? connectionId).bind (·.receiver?) = some credential) :
      NetOpOf cfg s a net (.noteProjected connectionId credentialId b.number credential.lookup)
  | sends {a : TransportAction} {credentialId : String} {b : Broadcast} {project : Projector}
      {net : Net} {connectionId : Nat} {projected : SignetEvent}
      (hhands : HandsOut s a credentialId b project)
      (hid : connectionId ∈ receiversOf (handOutNet cfg s a) credentialId project b.event)
      (hconn : net.connections = (handOutNet cfg s a).connections) :
      NetOpOf cfg s a net (.sendSequenced connectionId (projected, some b.number))
  | beginRequest {call connectionId : Nat} {frame : RequestFrame} {answer : LookupAnswer}
      {project : Projector} {net : Net} {timer : Nat} {requestId : String}
      (hcall : s.calls.get? call = some (.requesting connectionId frame)) :
      NetOpOf cfg s (.looked call answer project) net (.beginRequest connectionId timer requestId)
  | endRequest {a : TransportAction} {net : Net} {connectionId : Nat} {requestId : String}
      {reply : RequestReply} (htarget : replyTarget s a = some connectionId) :
      NetOpOf cfg s a net (.endRequest connectionId requestId reply)
  | timeoutRequest {a : TransportAction} {net : Net} {connectionId timer : Nat}
      {requestId : String} (htarget : replyTarget s a = some connectionId) :
      NetOpOf cfg s a net (.timeoutRequest connectionId timer requestId)

/-- What happens on the connections, among the events of a step. -/
def netEvents (es : List TransportEvent) : List NetEvent :=
  es.filterMap fun
    | .net e => some e
    | _ => none

theorem netEvents_append (es es' : List TransportEvent) :
    netEvents (es ++ es') = netEvents es ++ netEvents es' :=
  List.filterMap_append

theorem netEvents_map (es : List NetEvent) : netEvents (es.map .net) = es := by
  induction es with
  | nil => rfl
  | cons e es ih =>
    show e :: netEvents (es.map .net) = _
    rw [ih]

theorem mem_netEvents {es : List TransportEvent} {e : NetEvent} :
    e ∈ netEvents es ↔ .net e ∈ es := by
  constructor
  · intro h
    obtain ⟨e', hmem, heq⟩ := List.mem_filterMap.1 h
    cases e' with
    | net e' =>
      rw [← Option.some.inj heq]
      exact hmem
    | _ => cases heq
  · intro h
    exact List.mem_filterMap.2 ⟨.net e, h, rfl⟩

/-! ### The operations of the segments -/

section Segments

variable {cfg : TransportConfig} {s : TransportState} {a : TransportAction} {net : Net}
  {connectionId : Nat}

/-- The piece performs only operations of the step. -/
abbrev OpsOf (cfg : TransportConfig) (s : TransportState) (a : TransportAction) (net : Net)
    (f : Emits Net NetEvent) : Prop :=
  Emits.Runs (netMachine cfg) (NetOpOf cfg s a) net f

theorem ops_op (op : NetOp) (h : NetOpOf cfg s a net op) : OpsOf cfg s a net (op.apply cfg) :=
  Emits.Runs.op h

theorem ops_closeRevoked : OpsOf cfg s a net (closeRevoked cfg connectionId) := by
  have hclose : OpsOf cfg s a net (Net.closeSocket cfg connectionId .credentialRevoked) :=
    ops_op (.closeSocket connectionId .credentialRevoked) .closeSocket
  exact hclose.seq (ops_op (.stopHeartbeat connectionId) .stopHeartbeat)

theorem ops_closeInactive {status : CredentialStatus} :
    OpsOf cfg s a net (closeInactive cfg connectionId status) := by
  unfold closeInactive
  split
  · exact .skip
  · have hclose : OpsOf cfg s a net (Net.closeSocket cfg connectionId (closeCodeOf status)) :=
      ops_op (.closeSocket connectionId (closeCodeOf status)) .closeSocket
    exact hclose.seq (ops_op (.stopHeartbeat connectionId) .stopHeartbeat)

theorem ops_rejectAuth {code : CloseCode} {message : String}
    (htarget : replyTarget s a = some connectionId) :
    OpsOf cfg s a net (rejectAuth cfg connectionId code message) := by
  have hreply : OpsOf cfg s a net
      (Net.sendJson connectionId (.authError code.code message)) :=
    ops_op (.sendJson connectionId (.authError code.code message)) (.reply htarget rfl)
  exact hreply.seq (ops_op (.closeSocket connectionId code) .closeSocket)

theorem ops_beat {call : Nat} {answer : LookupAnswer} {project : Projector}
    (hcall : s.calls.get? call = some (.heartbeat connectionId)) :
    OpsOf cfg s (.looked call answer project) net (beat cfg connectionId call answer) := by
  cases answer with
  | rejected => exact .skip
  | err message => exact ops_closeRevoked
  | ok record =>
    -- the record is delivered before its status is looked at
    have hset : OpsOf cfg s (.looked call (.ok record) project) net
        (Net.setRecord connectionId ⟨record, call⟩) :=
      ops_op (.setRecord connectionId ⟨record, call⟩) (.delivers hcall rfl)
    refine hset.seq ?_
    by_cases hactive : record.status = .active
    · rw [if_pos hactive]
      exact ops_op (.sendSequenced connectionId (.other "heartbeat", none)) (.beats hcall hactive)
    · rw [if_neg hactive]
      exact ops_closeInactive

theorem ops_welcome {call : Nat} {fingerprint : String} {credential : Snapshot}
    {resume : CredentialReplayState.Resume}
    (hcall : s.calls.get? call = some (.fingerprinting connectionId credential resume)) :
    OpsOf cfg s (.fingerprinted call fingerprint) net
      (welcome connectionId call credential fingerprint resume) := by
  refine .seq (ops_op (.sendJson connectionId _) (.authenticated hcall)) (.seq ?_
    (ops_op (.startHeartbeat connectionId call) (.startHeartbeat hcall)))
  -- a client that cannot be brought up to date is told to recover, the others are sent what
  -- they missed
  by_cases hrecovery : resume.needsRecovery = true
  · rw [if_pos hrecovery]
    exact ops_op (.sendSequenced connectionId _) (.recovers hcall hrecovery)
  · rw [if_neg hrecovery]
    exact .forEach fun f hf _ => ops_op (.sendJson connectionId (.sequenced f)) (.replays hcall hf)

/-- What `deliver` sends of the projected event. -/
def sendProjected (b : Broadcast) (connectionId : Nat) : Option SignetEvent → Emits Net NetEvent
  | none => .skip
  | some projected => Net.sendSequenced connectionId (projected, some b.number)

theorem ops_deliver {credentialId : String} {b : Broadcast} {project : Projector}
    (hhands : HandsOut s a credentialId b project)
    (hid : connectionId ∈ s.net.getByCredentialId credentialId)
    (hout : connectionId ∈ (handOutNet cfg s a).getByCredentialId credentialId)
    (hconn : net.connections = (handOutNet cfg s a).connections) :
    OpsOf cfg s a net (deliver credentialId b project connectionId) := by
  cases hreceiver : (net.connections.get? connectionId).bind (·.receiver?) with
  -- a connection that is not active, or whose record is not, is skipped
  | none =>
    have heq : deliver credentialId b project connectionId net = Emits.skip net := by
      unfold deliver
      rw [hreceiver]
      rfl
    show RunFrom _ _ net (deliver credentialId b project connectionId net).2 _
    rw [heq]
    exact .nil
  | some credential =>
    have heq : deliver credentialId b project connectionId net =
        Emits.seq ((NetOp.noteProjected connectionId credentialId b.number
          credential.lookup).apply cfg)
          (sendProjected b connectionId (project b.event credential.record)) net := by
      unfold deliver
      rw [hreceiver]
      rfl
    show RunFrom _ _ net (deliver credentialId b project connectionId net).2 _
    rw [heq]
    -- the projection is noted first, and a frame is sent only if it gives an event
    refine Emits.Runs.seq (ops_op _ (.projects hhands hid hreceiver)) ?_
    cases hproject : project b.event credential.record with
    | none => exact .skip
    | some projected =>
      refine ops_op (.sendSequenced connectionId _) (.sends hhands ?_ hconn)
      refine List.mem_filter.2 ⟨hout, ?_⟩
      rw [← hconn, hreceiver, Option.any_some, hproject]
      rfl

theorem ops_refresh {call generation : Nat} {credentialId : String} {answer : LookupAnswer}
    {project : Projector} {entry : PendingInvalidation}
    (hcall : s.calls.get? call = some (.invalidating credentialId generation))
    (hentry : s.pendingInvalidations.get? credentialId = some entry)
    (hlatest : entry.generation = generation)
    (hid : connectionId ∈ s.net.getByCredentialId credentialId) :
    OpsOf cfg s (.looked call answer project) net (refresh cfg call answer connectionId) := by
  have hskip : OpsOf cfg s (.looked call answer project) net .skip := .skip
  show RunFrom _ _ net (refresh cfg call answer connectionId net).2 _
  unfold refresh
  split
  -- the connection has been cleaned up since the invalidation began
  · exact hskip
  · split
    · cases answer with
      | ok record =>
        exact Emits.Runs.seq
          (ops_op (.setRecord connectionId ⟨record, call⟩) (.refreshes hcall hentry hlatest hid))
          ops_closeInactive
      -- the credential is gone, so its connections are closed as revoked
      | err message => exact @ops_closeRevoked cfg s _ net connectionId
      | rejected => exact hskip
    · exact hskip

end Segments

/-! ### Handing out -/

section HandOut

variable {credentialId : String} {project : Projector}

/-- Sending touches the replay states only. -/
theorem sendSequenced_frame (connectionId : Nat) (e : SourcedEvent) (net : Net) :
    ∃ states, (Net.sendSequenced connectionId e net).1 =
      { net with credentialStates := states } := by
  unfold Net.sendSequenced
  split
  · exact ⟨net.credentialStates, rfl⟩
  · split
    · exact ⟨net.credentialStates, rfl⟩
    · exact ⟨_, rfl⟩

/-- A turn of `broadcastToCredential` touches the replay states only. -/
theorem deliver_frame (b : Broadcast) (connectionId : Nat) (net : Net) :
    ∃ states, (deliver credentialId b project connectionId net).1 =
      { net with credentialStates := states } := by
  unfold deliver
  split
  · exact ⟨net.credentialStates, rfl⟩
  · next credential _ =>
    show ∃ states, (sendProjected b connectionId (project b.event credential.record) net).1 = _
    cases project b.event credential.record with
    | none => exact ⟨net.credentialStates, rfl⟩
    | some projected =>
      exact sendSequenced_frame connectionId (projected, some b.number) net

theorem forEach_deliver_frame (b : Broadcast) (ids : List Nat) (net : Net) :
    ∃ states, (Emits.forEach (deliver credentialId b project) ids net).1 =
      { net with credentialStates := states } := by
  -- on the connections of the loop; the states that a turn leaves are the next turn's
  induction ids generalizing net with
  | nil => exact ⟨net.credentialStates, rfl⟩
  | cons id ids ih =>
    obtain ⟨first, hfirst⟩ := @deliver_frame credentialId project b id net
    obtain ⟨rest, hrest⟩ := ih (deliver credentialId b project id net).1
    refine ⟨rest, ?_⟩
    show (Emits.forEach (deliver credentialId b project) ids
      (deliver credentialId b project id net).1).1 = _
    rw [hrest, hfirst]

theorem handOut_frame (b : Broadcast) (s : TransportState) :
    ∃ states, (TransportState.handOut credentialId project b s).1 =
      { s with net := { s.net with credentialStates := states } } := by
  obtain ⟨states, heq⟩ := @forEach_deliver_frame credentialId project b
    (s.net.getByCredentialId credentialId) s.net
  refine ⟨states, ?_⟩
  show { s with net := _ } = _
  rw [heq]

/-- Without a pending invalidation a broadcast is handed out. -/
theorem broadcastToCredential_of_none {b : Broadcast} {s : TransportState}
    (hnone : s.pendingInvalidations.get? credentialId = none) :
    TransportState.broadcastToCredential credentialId project b s =
      TransportState.handOut credentialId project b s := by
  unfold TransportState.broadcastToCredential
  rw [hnone]

end HandOut

/-! ### Welcoming -/

theorem forEach_sendJson_net {β : Type} (connectionId : Nat) (frame : β → ServerFrame)
    (bs : List β) (net : Net) :
    (Emits.forEach (fun b => Net.sendJson connectionId (frame b)) bs net).1 = net := by
  induction bs with
  | nil => rfl
  | cons b bs ih => exact ih

theorem welcome_net (connectionId call : Nat) (credential : Snapshot) (fingerprint : String)
    (resume : CredentialReplayState.Resume) (net : Net) :
    ∃ states, (welcome connectionId call credential fingerprint resume net).1 =
      (Net.startHeartbeat connectionId call { net with credentialStates := states }).1 := by
  show ∃ states, (Net.startHeartbeat connectionId call
    ((if resume.needsRecovery then
        Net.sendSequenced connectionId (.other "signet.recovery.complete", none)
      else .forEach (fun f => Net.sendJson connectionId (.sequenced f)) resume.replayFrames)
      net).1).1 = _
  split
  · obtain ⟨states, hframe⟩ := sendSequenced_frame connectionId
      (.other "signet.recovery.complete", none) net
    exact ⟨states, by rw [hframe]⟩
  · exact ⟨net.credentialStates, by rw [forEach_sendJson_net]⟩

/-! ### The operations of a step -/

section Step

variable {cfg : TransportConfig} {s s₀ : TransportState} {a : TransportAction}
  {W : Nat → Snapshot → Prop}

/-- On the connections this part of the step performs only operations of the step. -/
def PartOf (cfg : TransportConfig) (s : TransportState) (a : TransportAction)
    (s₀ : TransportState) (r : TransportState × List TransportEvent) : Prop :=
  RunFrom (netMachine cfg) (NetOpOf cfg s a) s₀.net (netEvents r.2) r.1.net

theorem part_onNet {f : Emits Net NetEvent} (h : OpsOf cfg s a s₀.net f) :
    PartOf cfg s a s₀ (s₀.onNet f) := by
  show RunFrom _ _ s₀.net (netEvents ((f s₀.net).2.map .net)) (f s₀.net).1
  rw [netEvents_map]
  exact h

theorem PartOf.append {r r' : TransportState × List TransportEvent} (h : PartOf cfg s a s₀ r)
    (h' : PartOf cfg s a r.1 r') : PartOf cfg s a s₀ (r'.1, r.2 ++ r'.2) := by
  show RunFrom _ _ s₀.net (netEvents (r.2 ++ r'.2)) r'.1.net
  rw [netEvents_append]
  exact h.trans h'

/-- The connections are those that the step hands broadcasts out to. -/
def AtHandOut (cfg : TransportConfig) (s : TransportState) (a : TransportAction) (net : Net) :
    Prop :=
  net.connections = (handOutNet cfg s a).connections ∧ net.registry = (handOutNet cfg s a).registry

theorem AtHandOut.getByCredentialId {net : Net} (h : AtHandOut cfg s a net) (c : String) :
    net.getByCredentialId c = (handOutNet cfg s a).getByCredentialId c := by
  unfold Net.getByCredentialId
  rw [h.1, h.2]

theorem part_handOut {credentialId : String} {project : Projector} {b : Broadcast}
    (hhands : HandsOut s a credentialId b project) (hshrinks : Net.Shrinks W s.net s₀.net)
    (hout : AtHandOut cfg s a s₀.net) :
    PartOf cfg s a s₀ (TransportState.handOut credentialId project b s₀) := by
  have hids := hout.getByCredentialId credentialId
  have hpart := @part_onNet cfg s s₀ a
    (.forEach (deliver credentialId b project) (s₀.net.getByCredentialId credentialId))
    (.forEach_of (J := fun net => net.connections = (handOutNet cfg s a).connections)
      (fun id hid net hconn => ?_) hout.1)
  · exact hpart
  -- a turn leaves the connections, so that the next one finds them as the loop began
  · refine ⟨ops_deliver hhands (hshrinks.getByCredentialId hid) (hids ▸ hid) hconn, ?_⟩
    obtain ⟨states, hframe⟩ := @deliver_frame credentialId project b id net
    rw [hframe]
    exact hconn

/-- The drain of a finished invalidation. -/
theorem part_drain {credentialId : String} {project : Projector} {bs : List Broadcast}
    (hhands : ∀ b ∈ bs, HandsOut s a credentialId b project)
    (hnone : s₀.pendingInvalidations.get? credentialId = none)
    (hshrinks : Net.Shrinks W s.net s₀.net) (hout : AtHandOut cfg s a s₀.net) :
    PartOf cfg s a s₀
      (Emits.forEach (TransportState.broadcastToCredential credentialId project) bs s₀) := by
  -- on the queue: handing a broadcast out leaves nothing pending and the connections alone
  induction bs generalizing s₀ with
  | nil => exact .nil
  | cons b bs ih =>
    have heq := @broadcastToCredential_of_none credentialId project b s₀ hnone
    obtain ⟨states, hframe⟩ := @handOut_frame credentialId project b s₀
    have hfirst : PartOf cfg s a s₀ (TransportState.broadcastToCredential credentialId project b
        s₀) := by
      rw [heq]
      exact part_handOut (hhands b List.mem_cons_self) hshrinks hout
    refine hfirst.append (ih (fun b' hb' => hhands b' (List.mem_cons_of_mem b hb')) ?_ ?_ ?_)
    · rw [heq, hframe]
      exact hnone
    · rw [heq, hframe]
      exact hshrinks.trans (.of_eq rfl rfl rfl)
    · rw [heq, hframe]
      exact hout

/-- The records that an answered invalidation writes. -/
def Refreshes (s : TransportState) (call : Nat) (answer : LookupAnswer) (c : String)
    (generation : Nat) (id : Nat) (credential : Snapshot) : Prop :=
  id ∈ s.net.getByCredentialId c ∧ credential.lookup = call ∧ answer = .ok credential.record ∧
    ∃ entry, s.pendingInvalidations.get? c = some entry ∧ entry.generation = generation

/-- An answered invalidation binds nothing. -/
theorem shrinks_of_part {call : Nat} {answer : LookupAnswer} {project : Projector}
    {credentialId : String} {generation : Nat} {r : TransportState × List TransportEvent}
    (hcall : s.calls.get? call = some (.invalidating credentialId generation))
    (h : PartOf cfg s (.looked call answer project) s₀ r) :
    Net.Shrinks (Refreshes s call answer credentialId generation) s₀.net r.1.net := by
  refine RunFrom.preserves h (fun {net op net' es} hnet hop hstep => ?_) (.refl _)
  obtain ⟨rfl, -⟩ := Prod.mk.inj (Option.some.inj hstep)
  -- only the lookup of an auth frame binds, and the call answered here is another one
  have hbinds : op.binds = false := by
    cases hop with
    | accept hauth => rw [hcall] at hauth; cases hauth
    | _ => rfl
  refine hnet.trans ((NetOp.shrinks hbinds).mono fun id credential hwrites => ?_)
  cases hop with
  -- a heartbeat or a request would be another call
  | delivers hcall' htarget =>
    rw [hcall] at hcall'
    cases hcall'
    cases htarget
  | refreshes hcall' hentry hlatest hid =>
    rw [hcall] at hcall'
    cases hcall'
    obtain ⟨rfl, rfl⟩ := hwrites
    exact ⟨hid, rfl, rfl, _, hentry, hlatest⟩
  | _ => cases hwrites

theorem part_applyInvalidation {call generation : Nat} {answer : LookupAnswer}
    {project : Projector} {credentialId : String}
    (hcall : s.calls.get? call = some (.invalidating credentialId generation)) :
    PartOf cfg s (.looked call answer project) s
      (TransportState.applyInvalidation cfg credentialId generation call answer
        (s.finish call)) := by
  unfold TransportState.applyInvalidation
  split
  · exact .nil
  · next entry hentry =>
    split
    · next hlatest =>
      exact @part_onNet cfg s (s.finish call) _ _
        (.forEach fun id hid _ => ops_refresh hcall hentry hlatest hid)
    · exact .nil

theorem applyInvalidation_pending {call generation : Nat} {answer : LookupAnswer}
    {credentialId : String} :
    (TransportState.applyInvalidation cfg credentialId generation call answer
      s).1.pendingInvalidations = s.pendingInvalidations := by
  unfold TransportState.applyInvalidation
  split
  · rfl
  · split <;> rfl

theorem part_releaseInvalidation {call generation : Nat} {answer : LookupAnswer}
    {project : Projector} {credentialId : String}
    (hcall : s.calls.get? call = some (.invalidating credentialId generation))
    (hpending : s₀.pendingInvalidations = s.pendingInvalidations)
    (hshrinks : Net.Shrinks W s.net s₀.net)
    (hout : AtHandOut cfg s (.looked call answer project) s₀.net) :
    PartOf cfg s (.looked call answer project) s₀
      (TransportState.releaseInvalidation credentialId call project s₀) := by
  unfold TransportState.releaseInvalidation
  split
  · exact .nil
  · next entry hentry =>
    rw [hpending] at hentry
    split
    · next hlast =>
      exact @part_drain cfg s { s₀ with pendingInvalidations := s₀.pendingInvalidations.erase _ }
        _ _ _ project entry.events (fun b hb => .drained hcall hentry hlast hb)
        (OrdMap.get?_erase_self _ _) hshrinks hout
    · exact .nil

theorem part_authLooked {call connectionId : Nat} {lastSeenSeq : Option Nat}
    {answer : LookupAnswer} {project : Projector}
    (hcall : s.calls.get? call = some (.authenticating connectionId lastSeenSeq)) :
    PartOf cfg s (.looked call answer project) s
      (authLooked cfg (s.finish call) call connectionId lastSeenSeq answer) := by
  have hreply : ∀ {answer}, (TransportCall.authenticating connectionId lastSeenSeq).replyTarget
      answer = some connectionId → replyTarget s (.looked call answer project) =
        some connectionId := by
    intro answer h
    show (s.calls.get? call).bind _ = _
    rw [hcall]
    exact h
  cases answer with
  -- a lookup that throws leaves the client waiting for its timer
  | rejected => exact .nil
  | err message =>
    exact @part_onNet cfg s (s.finish call) _ _ (ops_rejectAuth (hreply rfl))
  | ok record =>
    unfold authLooked
    dsimp only
    by_cases hactive : record.status = .active
    · rw [if_pos hactive]
      exact @part_onNet cfg s (s.finish call) _ _
        (ops_op (.accept connectionId ⟨record, call⟩ lastSeenSeq) (.accept hcall hactive))
    · rw [if_neg hactive]
      exact @part_onNet cfg s (s.finish call) _ _
        (ops_rejectAuth (hreply (if_neg hactive)))

theorem part_requestLooked {call connectionId : Nat} {frame : RequestFrame}
    {answer : LookupAnswer} {project : Projector}
    (hcall : s.calls.get? call = some (.requesting connectionId frame)) :
    PartOf cfg s (.looked call answer project) s
      (requestLooked cfg (s.finish call) call connectionId frame answer) := by
  cases answer with
  | rejected => exact .nil
  | err message => exact @part_onNet cfg s (s.finish call) _ _ ops_closeRevoked
  | ok record =>
    -- the record is written whatever the request is
    have hkept : PartOf cfg s (.looked call (.ok record) project) s
        ((s.finish call).onNet (Net.setRecord connectionId ⟨record, call⟩)) :=
      @part_onNet cfg s (s.finish call) _ _
        (ops_op (.setRecord connectionId ⟨record, call⟩) (.delivers hcall rfl))
    unfold requestLooked
    dsimp only
    by_cases hactive : record.status = .active
    · rw [if_pos hactive]
      cases frame with
      | invalid requestId =>
        cases requestId with
        | none =>
          exact hkept.append (part_onNet
            (ops_op (.closeSocket connectionId .protocolError) .closeSocket))
        | some requestId =>
          have htarget : replyTarget s (.looked call (.ok record) project) =
              some connectionId := by
            show (s.calls.get? call).bind _ = _
            rw [hcall]
            exact if_pos hactive
          exact hkept.append (part_onNet
            (ops_op (.sendJson connectionId (.response requestId .invalidFrame))
              (.reply htarget rfl)))
      | request requestId mutating =>
        exact hkept.append (part_onNet
          (ops_op (.beginRequest connectionId _ requestId) (.beginRequest hcall)))
    · rw [if_neg hactive]
      exact hkept.append (part_onNet ops_closeInactive)

theorem part_resyncLooked {call connectionId : Nat} {requestId : String}
    {answer : LookupAnswer} {project : Projector}
    (hcall : s.calls.get? call = some (.resyncing connectionId requestId)) :
    PartOf cfg s (.looked call answer project) s
      (resyncLooked (s.finish call) call connectionId requestId answer) := by
  have htarget : replyTarget s (.looked call answer project) = some connectionId := by
    show (s.calls.get? call).bind _ = _
    rw [hcall]
    rfl
  have hend : ∀ {net reply}, OpsOf cfg s (.looked call answer project) net
      (Net.endRequest connectionId requestId reply) :=
    fun {_ reply} => ops_op (.endRequest connectionId requestId reply) (.endRequest htarget)
  cases answer with
  | rejected => exact @part_onNet cfg s (s.finish call) _ _ hend
  | err message => exact @part_onNet cfg s (s.finish call) _ _ hend
  | ok record =>
    exact @part_onNet cfg s (s.finish call) _ _
      (.seq (ops_op (.setRecord connectionId ⟨record, call⟩) (.delivers hcall rfl)) hend)

theorem part_lookupStep {call : Nat} {answer : LookupAnswer} {project : Projector}
    {r : TransportState × List TransportEvent} (h : lookupStep cfg s call answer project = some r) :
    PartOf cfg s (.looked call answer project) s r := by
  unfold lookupStep at h
  split at h
  · next hcall =>
    cases h
    exact part_authLooked hcall
  · next hcall =>
    cases h
    exact @part_onNet cfg s (s.finish call) _ _ (ops_beat hcall)
  · next hcall =>
    cases h
    exact part_requestLooked hcall
  · next hcall =>
    cases h
    exact part_resyncLooked hcall
  · next credentialId generation hcall =>
    cases h
    -- the record of the invalidation is written before its queue is released
    have happly := @part_applyInvalidation cfg s call generation answer project credentialId hcall
    refine happly.append (part_releaseInvalidation hcall applyInvalidation_pending
      (shrinks_of_part hcall happly) ?_)
    have hnet : handOutNet cfg s (.looked call answer project) =
        (TransportState.applyInvalidation cfg credentialId generation call answer
          (s.finish call)).1.net := by
      simp only [handOutNet, hcall]
    rw [AtHandOut, hnet]
    exact ⟨rfl, rfl⟩
  · cases h

/-- **The operations of a step.** -/
theorem transportStep_net {r : TransportState × List TransportEvent}
    (h : transportStep cfg s a = some r) : PartOf cfg s a s r := by
  cases a with
  | connect =>
    cases h
    exact part_onNet (ops_op .opened .opened)
  | authTimeout connectionId =>
    simp only [transportStep] at h
    split at h
    · cases h
    · split at h
      -- the timer is over in any case; only a client that is still authenticating is rejected
      · have hfired : PartOf cfg s (.authTimeout connectionId) s
            (s.onNet (Net.clearAuthTimer connectionId)) :=
          part_onNet (ops_op (.clearAuthTimer connectionId) .clearAuthTimer)
        split at h
        · cases h
          exact hfired.append (part_onNet (ops_rejectAuth rfl))
        · cases h
          exact hfired
      · cases h
  | authFrame connectionId frame =>
    simp only [transportStep] at h
    split at h
    · cases h
    · split at h
      · have hcleared : ∀ {frame}, PartOf cfg s (.authFrame connectionId frame) s
            (s.onNet (Net.clearAuthTimer connectionId)) :=
          part_onNet (ops_op (.clearAuthTimer connectionId) .clearAuthTimer)
        cases frame with
        | none =>
          cases h
          exact hcleared.append (part_onNet (ops_rejectAuth rfl))
        | some frame =>
          cases h
          exact hcleared
      · cases h
  | requestFrame connectionId frame =>
    simp only [transportStep] at h
    split at h
    · cases h
    · split at h
      · split at h
        · cases h
          exact part_onNet (ops_op (.closeSocket connectionId .protocolError) .closeSocket)
        · cases h
          exact .nil
      · cases h
  | refuse connectionId code =>
    simp only [transportStep] at h
    split at h
    · cases h
    · split at h
      · cases h
      · cases h
        exact part_onNet (ops_op (.closeSocket connectionId code) .closeSocket)
  | looked call answer project => exact part_lookupStep h
  | fingerprinted call fingerprint =>
    simp only [transportStep] at h
    split at h
    · next hcall =>
      cases h
      exact @part_onNet cfg s (s.finish call) _ _ (ops_welcome hcall)
    · cases h
  | routed call threw =>
    simp only [transportStep] at h
    split at h
    · next connectionId requestId mutating hcall =>
      -- a reply is due unless the credential is read once more first
      have hend : (threw || !mutating) = true → ∀ {net reply},
          OpsOf cfg s (.routed call threw) net (Net.endRequest connectionId requestId reply) := by
        intro hreplies net reply
        refine ops_op (.endRequest connectionId requestId reply) (.endRequest ?_)
        show (match s.calls.get? call with
          | some (.routing connectionId _ mutating) =>
            if threw || !mutating then some connectionId else none
          | _ => none) = _
        rw [hcall]
        exact if_pos hreplies
      split at h
      · next hthrew =>
        cases h
        exact @part_onNet cfg s (s.finish call) _ _ (hend (by rw [hthrew]; rfl))
      · next hthrew =>
        split at h
        · cases h
          exact .nil
        · next hmutating =>
          cases h
          exact @part_onNet cfg s (s.finish call) _ _
            (hend (by rw [Bool.not_eq_true] at hmutating; rw [hmutating, Bool.or_comm]; rfl))
    · cases h
  | requestTimeout timer =>
    simp only [transportStep] at h
    split at h
    · cases h
    · next connectionId requestId htimer =>
      cases h
      have htarget : replyTarget s (.requestTimeout timer) = some connectionId := by
        show (s.net.requestTimers.get? timer).map _ = _
        rw [htimer]
        rfl
      exact part_onNet (ops_op (.timeoutRequest connectionId timer requestId)
        (.timeoutRequest htarget))
  | heartbeat timer dead =>
    simp only [transportStep] at h
    split at h
    · cases h
    · next connectionId _ =>
      split at h
      · cases h
      · split at h
        · split at h
          · cases h
            exact part_onNet (ops_op (.closeSocket connectionId .deadConnection) .closeSocket)
          · cases h
            exact .nil
        · cases h
          exact .nil
  | broadcast credentialId event project =>
    cases h
    cases hpending : s.pendingInvalidations.get? credentialId with
    -- nothing is pending, so the broadcast is handed out at once
    | none =>
      have heq := @broadcastToCredential_of_none credentialId project ⟨s.broadcasts, event⟩
        { s with broadcasts := s.broadcasts + 1 } hpending
      have hpart : PartOf cfg s (.broadcast credentialId event project) s
          (TransportState.handOut credentialId project ⟨s.broadcasts, event⟩
            { s with broadcasts := s.broadcasts + 1 }) :=
        @part_handOut cfg s { s with broadcasts := s.broadcasts + 1 } _ (fun _ _ => True) _ _ _
          (.direct hpending) (.refl s.net) ⟨rfl, rfl⟩
      rw [← heq] at hpart
      exact hpart
    -- it waits in the queue, and the connections are left alone
    | some pending =>
      show RunFrom _ _ s.net (netEvents (TransportState.broadcastToCredential credentialId project
        ⟨s.broadcasts, event⟩ { s with broadcasts := s.broadcasts + 1 }).2) _
      unfold TransportState.broadcastToCredential
      dsimp only
      rw [hpending]
      exact .nil
  | invalidate credentialId =>
    cases h
    exact .nil
  | close connectionId =>
    simp only [transportStep] at h
    split at h
    · cases h
    · split at h
      · cases h
      · cases h
        exact part_onNet (ops_op (.cleanupConnection connectionId) .cleanupConnection)

/-- Every event on the connections comes from an operation of the step. -/
theorem emitted_of_transportStep {e : NetEvent} {r : TransportState × List TransportEvent}
    (h : transportStep cfg s a = some r) (he : .net e ∈ r.2) :
    ∃ ns net op, RunFrom (netMachine cfg) (NetOpOf cfg s a) s.net ns net ∧
      NetOpOf cfg s a net op ∧ EmittedBy net op e := by
  -- the event stands in the segment of one operation
  obtain ⟨ns, net, op, _, es, hrun, hop, hstep, hmem⟩ :=
    RunFrom.emitted (transportStep_net h) (mem_netEvents.2 he)
  refine ⟨ns, net, op, hrun, hop, @emittedBy cfg net e op ?_⟩
  obtain ⟨-, rfl⟩ := Prod.mk.inj (Option.some.inj hstep)
  exact hmem

/-! ### Steps that bind nothing -/

/-- A token lookup is accepted. -/
def Accepts (s : TransportState) (call connectionId : Nat) (lastSeenSeq : Option Nat)
    (record : CredentialRecord) : TransportAction → Prop
  | .looked call' answer _ => call' = call ∧ answer = .ok record ∧ record.status = .active ∧
      s.calls.get? call = some (.authenticating connectionId lastSeenSeq)
  | _ => False

/-- A heartbeat, a request or the latest invalidation delivers a record to the connection. -/
def Delivers (s : TransportState) (a : TransportAction) (id : Nat) (credential : Snapshot) : Prop :=
  ∃ project phase, a = .looked credential.lookup (.ok credential.record) project ∧
    s.calls.get? credential.lookup = some phase ∧
    (phase.recordTarget = some id ∨ ∃ c entry,
      phase = .invalidating c entry.generation ∧ s.pendingInvalidations.get? c = some entry ∧
        id ∈ s.net.getByCredentialId c)

/-- The operations of other steps bind nothing. -/
theorem binds_of_other (hconnect : a ≠ .connect)
    (haccepts : ∀ call id lastSeenSeq record, ¬ Accepts s call id lastSeenSeq record a) {net : Net}
    {op : NetOp} (hop : NetOpOf cfg s a net op) : op.binds = false := by
  cases hop with
  | opened => exact absurd rfl hconnect
  | accept hcall hactive => exact absurd ⟨rfl, rfl, hactive, hcall⟩ (haccepts _ _ _ _)
  | _ => rfl

/-- In other steps nothing is bound, and only the records that are delivered are written. -/
theorem shrinks_of_ops {ns : List NetEvent} {net : Net}
    (h : RunFrom (netMachine cfg) (NetOpOf cfg s a) s.net ns net) (hconnect : a ≠ .connect)
    (haccepts : ∀ call id lastSeenSeq record, ¬ Accepts s call id lastSeenSeq record a) :
    Net.Shrinks (Delivers s a) s.net net := by
  refine RunFrom.preserves h (fun {net op net' es} hnet hop hstep => ?_) (.refl _)
  obtain ⟨rfl, -⟩ := Prod.mk.inj (Option.some.inj hstep)
  have hbinds := binds_of_other hconnect haccepts hop
  refine hnet.trans ((NetOp.shrinks hbinds).mono fun id credential hwrites => ?_)
  -- of the operations that bind nothing, two write a record
  cases hop with
  | delivers hcall htarget =>
    obtain ⟨rfl, rfl⟩ := hwrites
    exact ⟨_, _, rfl, hcall, .inl htarget⟩
  | refreshes hcall hentry hlatest hid =>
    obtain ⟨rfl, rfl⟩ := hwrites
    exact ⟨_, _, rfl, hcall, .inr ⟨_, _, by rw [hlatest], hentry, hid⟩⟩
  | _ => cases hwrites

theorem shrinks_of_transportStep {r : TransportState × List TransportEvent}
    (h : transportStep cfg s a = some r) (hconnect : a ≠ .connect)
    (haccepts : ∀ call id lastSeenSeq record, ¬ Accepts s call id lastSeenSeq record a) :
    Net.Shrinks (Delivers s a) s.net r.1.net :=
  shrinks_of_ops (transportStep_net h) hconnect haccepts

theorem net_of_accepts {call id : Nat} {lastSeenSeq : Option Nat} {record : CredentialRecord}
    {r : TransportState × List TransportEvent} (h : transportStep cfg s a = some r)
    (haccepts : Accepts s call id lastSeenSeq record a) :
    r.1.net = (Net.accept cfg id ⟨record, call⟩ lastSeenSeq s.net).1 ∧
      r.2 = (Net.accept cfg id ⟨record, call⟩ lastSeenSeq s.net).2.map .net := by
  cases a with
  | looked call' answer project =>
    obtain ⟨rfl, rfl, hactive, hcall⟩ := haccepts
    simp only [transportStep, lookupStep, hcall, authLooked, if_pos hactive] at h
    cases h
    exact ⟨rfl, rfl⟩
  | _ => exact haccepts.elim

/-- **What a step does to the connections**: one is opened, one is bound, or none is. -/
theorem net_of_transportStep {r : TransportState × List TransportEvent}
    (h : transportStep cfg s a = some r) :
    (a = .connect ∧ r = s.onNet Net.opened) ∨
    (∃ call id lastSeenSeq record, Accepts s call id lastSeenSeq record a ∧
      r.1.net = (Net.accept cfg id ⟨record, call⟩ lastSeenSeq s.net).1 ∧
      r.2 = (Net.accept cfg id ⟨record, call⟩ lastSeenSeq s.net).2.map .net) ∨
    Net.Shrinks (Delivers s a) s.net r.1.net := by
  by_cases hconnect : a = .connect
  · subst hconnect
    cases h
    exact .inl ⟨rfl, rfl⟩
  · by_cases haccepts : ∃ call id lastSeenSeq record, Accepts s call id lastSeenSeq record a
    · obtain ⟨call, id, lastSeenSeq, record, haccepts⟩ := haccepts
      exact .inr (.inl ⟨call, id, lastSeenSeq, record, haccepts, net_of_accepts h haccepts⟩)
    · refine .inr (.inr (shrinks_of_transportStep h hconnect ?_))
      intro call id lastSeenSeq record hno
      exact haccepts ⟨call, id, lastSeenSeq, record, hno⟩

theorem accepted_of_transportStep {r : TransportState × List TransportEvent} {id call : Nat}
    {c : String} {lastSeenSeq : Option Nat} (h : transportStep cfg s a = some r)
    (hmem : .net (.accepted id call c lastSeenSeq) ∈ r.2) :
    ∃ record d, Accepts s call id lastSeenSeq record a ∧ record.credentialId = c ∧
      s.net.connections.get? id = some d := by
  obtain ⟨record, haccepts, rfl⟩ : ∃ record, Accepts s call id lastSeenSeq record a ∧
      record.credentialId = c := by
    obtain ⟨-, net, op, -, hop, hemitted⟩ := emitted_of_transportStep h hmem
    -- an acceptance is emitted by the operation that binds
    cases hemitted with
    | accepted hd =>
      cases hop with
      | accept hcall hactive => exact ⟨_, ⟨rfl, rfl, hactive, hcall⟩, rfl⟩
  obtain ⟨-, hevents⟩ := net_of_accepts h haccepts
  cases hd : s.net.connections.get? id with
  | some d => exact ⟨record, d, haccepts, rfl, rfl⟩
  -- on a connection that is gone nothing is accepted
  | none =>
    rw [hevents, Net.accept_of_none hd] at hmem
    cases hmem

theorem connection_of_transportStep {r : TransportState × List TransportEvent} {id : Nat}
    {d : ConnectionData} (h : transportStep cfg s a = some r)
    (hcounted : id < s.net.connectionCounter) (hd : s.net.connections.get? id = some d) :
    ∃ d', r.1.net.connections.get? id = some d' ∧
      (d.phase ≠ .authenticating → d'.phase ≠ .authenticating) ∧
      (d.phase = .closed → d'.phase = .closed) ∧
      (d'.socketOpen = true → d.socketOpen = true) ∧
      (d'.credentialId = d.credentialId ∨
        ∃ call last record, Accepts s call id last record a) := by
  rcases net_of_transportStep h with
    ⟨-, heq⟩ | ⟨call, id', last, record, haccepts, hnet, -⟩ | hshrinks
  -- a new connection has a number that no other one has
  · rw [heq]
    exact ⟨d, (OrdMap.get?_set_of_ne _ _ (Nat.ne_of_lt hcounted)).trans hd, (·), (·), (·), .inl rfl⟩
  · rw [hnet]
    -- an accepted lookup changes one connection, if it is still there
    cases hd' : s.net.connections.get? id' with
    | none =>
      rw [Net.accept_of_none hd']
      exact ⟨d, hd, (·), (·), (·), .inl rfl⟩
    | some d' =>
      rw [Net.accept_of_some hd']
      by_cases hid : id = id'
      · subst hid
        cases hd.symm.trans hd'
        refine ⟨_, OrdMap.get?_set_self _ _ _, fun hauth => ?_, fun hclosed => ?_, (·),
          .inr ⟨call, last, record, haccepts⟩⟩
        · show (if d.phase = .authenticating then ConnectionPhase.active else d.phase) ≠ _
          rwa [if_neg hauth]
        · show (if d.phase = .authenticating then ConnectionPhase.active else d.phase) = _
          rw [hclosed]
          rfl
      · exact ⟨d, (OrdMap.get?_set_of_ne _ _ hid).trans hd, (·), (·), (·), .inl rfl⟩
  · obtain ⟨d', hd'⟩ := hshrinks.kept hd
    obtain ⟨d₀, hd₀, hbelow⟩ := hshrinks.connections hd'
    cases hd.symm.trans hd₀
    refine ⟨d', hd', fun hauth => ?_, hbelow.closed, fun hopen => (hbelow.isOpen hopen).1,
      .inl hbelow.credentialId⟩
    rcases hbelow.phase with heq | hclosed
    · rwa [heq]
    · rw [hclosed]
      nofun

/-! ### Connections that are closed -/

theorem closed_of_cleanupConnection {net : Net} {connectionId id : Nat}
    (h : .closed id ∈ (Net.cleanupConnection connectionId net).2) :
    ∃ d, (Net.cleanupConnection connectionId net).1.connections.get? id = some d ∧
      d.phase = .closed := by
  obtain rfl : id = connectionId := by cases mem_cleanupConnection h; rfl
  unfold Net.cleanupConnection at h ⊢
  split at h
  · cases h
  · rw [ConnectionData.transition_closed]
    exact ⟨_, OrdMap.get?_set_self _ _ _, rfl⟩

theorem closed_of_op {net : Net} {op : NetOp} {id : Nat} (h : .closed id ∈ (op.apply cfg net).2) :
    ∃ d, (op.apply cfg net).1.connections.get? id = some d ∧ d.phase = .closed := by
  have hemitted := emittedBy h
  cases hemitted with
  | closed => exact closed_of_cleanupConnection h
  -- a socket that is closed inline runs its `close` callback in the same step
  | closedInline =>
    rename_i code
    replace h : .closed id ∈ (Net.closeSocket cfg id code net).2 := h
    show ∃ d, (Net.closeSocket cfg id code net).1.connections.get? id = some d ∧ _
    unfold Net.closeSocket at h ⊢
    split
    · next hopen =>
      rw [if_pos hopen] at h
      dsimp only at h ⊢
      split
      · next hinline =>
        rw [if_pos hinline] at h
        rcases List.mem_cons.1 h with heq | hclosed
        · cases heq
        · exact closed_of_cleanupConnection hclosed
      · next hinline =>
        rw [if_neg hinline] at h
        cases List.mem_singleton.1 h
    · next hopen =>
      rw [if_neg hopen] at h
      cases h

theorem closed_of_transportStep {r : TransportState × List TransportEvent} {id : Nat}
    (h : transportStep cfg s a = some r) (hmem : .net (.closed id) ∈ r.2) :
    ∃ d, r.1.net.connections.get? id = some d ∧ d.phase = .closed := by
  -- neither opening nor binding a connection closes one
  by_cases hconnect : a = .connect
  · subst hconnect
    cases h
    cases hmem
  by_cases haccepts : ∃ call id lastSeenSeq record, Accepts s call id lastSeenSeq record a
  · obtain ⟨call, id', lastSeenSeq, record, haccepts⟩ := haccepts
    obtain ⟨-, hevents⟩ := net_of_accepts h haccepts
    rw [hevents] at hmem
    obtain ⟨n, hn, heq⟩ := List.mem_map.1 hmem
    cases heq
    cases @emittedBy cfg _ _ (.accept id' ⟨record, call⟩ lastSeenSeq) hn
  have hbinds : ∀ {net op}, NetOpOf cfg s a net op → op.binds = false :=
    binds_of_other hconnect fun call id last record hno => haccepts ⟨call, id, last, record, hno⟩
  have hrun := transportStep_net h
  replace hmem := mem_netEvents.2 hmem
  unfold PartOf at hrun
  generalize netEvents r.2 = es at hmem hrun
  generalize r.1.net = net at hrun ⊢
  -- on the operations of the step: what one closes stays closed under the later ones
  induction hrun with
  | nil => cases hmem
  | @snoc tr net net' op es hrun hop hstep ih =>
    obtain ⟨rfl, rfl⟩ := Prod.mk.inj (Option.some.inj hstep)
    rcases List.mem_append.1 hmem with hold | hnew
    · obtain ⟨d, hd, hclosed⟩ := ih hold
      have hshrinks := @NetOp.shrinks cfg net op (hbinds hop)
      obtain ⟨d', hd'⟩ := hshrinks.kept hd
      obtain ⟨d₀, hd₀, hbelow⟩ := hshrinks.connections hd'
      cases hd.symm.trans hd₀
      exact ⟨d', hd', hbelow.closed hclosed⟩
    · exact closed_of_op hnew

end Step

end Signet.Ws
