import Signet.Ws.FrameOrder
import Signet.Ws.ReplayExact
import Signet.Ws.StaleSnapshots

/-!
# Events across a disconnect

`NoEventLoss`: a client that has seen the frames up to a number and comes back with this number is
sent every broadcast that it has not seen, or the recovery signal.

A broadcast gets a number, and with it a place in the replay buffer, only on a connection that
takes it. So nothing is lost if somebody is there whenever an event is handed out (`Attended`,
`no_event_loss`), and what is broadcast while nobody is there is lost (`unattended_event_lost`).
-/

namespace Signet.Ws

open Lib

/-! ### The property -/

def Passes (R : CredentialRecord → Prop) (project : Projector) (event : SignetEvent) : Prop :=
  ∀ record, R record → (project event record).isSome = true

/-- The client has been let in: its socket is open, and no fingerprint is awaited. -/
def LetIn (s : TransportState) (id : Nat) : Prop :=
  s.net.isOpen id = true ∧ ∀ call credential resume,
    s.calls.get? call ≠ some (.fingerprinting id credential resume)

/-- A client has received the frames up to `lastSeen` on a connection, and comes back on another
one. What has been broadcast since it was let in first it had received, or it is sent it now, or it
is told that it has missed something. What is still queued at the end is not lost. -/
def NoEventLoss (c : String) (R : CredentialRecord → Prop) (tr : List TransportEvent)
    (s : TransportState) : Prop :=
  ∀ before between after id id' call call' lastSeenSeq lastSeen,
    tr = before ++ .net (.accepted id call c lastSeenSeq) :: between ++
        .net (.accepted id' call' c (some lastSeen)) :: after →
      (lastSeen = 0 ∨ ∃ f ∈ framesSent id (netEvents between), f.seq = lastSeen) →
      LetIn s id' →
      ∀ b ∈ broadcasted c (between ++ after), b ∉ s.queued c →
        (∀ project, .handed c b project ∈ tr → Passes R project b.event) →
          (∃ f ∈ framesSent id (netEvents between),
            f.seq ≤ lastSeen ∧ f.origin = some b.number) ∨
          ∃ f ∈ framesSent id' (netEvents after),
            f.origin = some b.number ∨ f.event = .other "signet.recovery.complete"

/-- The credential stays active, and `R` holds of its records. -/
structure StaysActive (c : String) (R : CredentialRecord → Prop) (s : TransportState)
    (a : TransportAction) : Prop where
  accepted : ∀ call id lastSeenSeq record, Accepts s call id lastSeenSeq record a →
    record.credentialId = c → R record
  delivered : ∀ id credential d, Delivers s a id credential →
    s.net.connections.get? id = some d → d.credentialId = some c →
      R credential.record ∧ credential.record.status = .active

/-- Somebody is there. -/
structure Attended (cfg : TransportConfig) (c : String) (R : CredentialRecord → Prop)
    (s : TransportState) (a : TransportAction) : Prop where
  /-- An open connection that has been let in is let in again only with the same credential. -/
  accepts : ∀ call id lastSeenSeq record d, Accepts s call id lastSeenSeq record a →
    s.net.connections.get? id = some d → d.socketOpen = true → d.phase ≠ .authenticating →
      (d.credentialId = some c ↔ record.credentialId = c)
  /-- An event for a credential that has been connected before gets on one of its connections. -/
  attended : (∃ st, s.net.credentialStates.get? c = some st) → ∀ b project,
    HandsOut s a c b project → Passes R project b.event →
      receiversOf (handOutNet cfg s a) c project b.event ≠ []

/-- Steps of runs in which nothing is lost. -/
def ActiveAttended (cfg : TransportConfig) (c : String) (R : CredentialRecord → Prop)
    (s : TransportState) (a : TransportAction) : Prop :=
  StaysActive c R s a ∧ Attended cfg c R s a

/-! ### Steps -/

section Steps

variable {cfg : TransportConfig} {ok : TransportState → TransportAction → Prop}
  {s s' : TransportState} {a : TransportAction} {tr es : List TransportEvent} {c : String}
  {id k : Nat} {credential : Snapshot} {resume : CredentialReplayState.Resume}

/-- A credential keeps its replay state. -/
theorem hasState_step (hstep : transportStep cfg s a = some (s', es))
    (h : ∃ st, s.net.credentialStates.get? c = some st) :
    ∃ st, s'.net.credentialStates.get? c = some st := by
  refine RunFrom.preserves (I := fun net : Net => ∃ st, net.credentialStates.get? c = some st)
    (transportStep_net hstep) (fun {net op net' es} hnet _ hop => ?_) h
  obtain ⟨st, hst⟩ := hnet
  obtain ⟨rfl, rfl⟩ := Prod.mk.inj (Option.some.inj hop)
  have hset : ∀ c' st', ∃ st'', (net.credentialStates.set c' st').get? c = some st'' := by
    intro c' st'
    by_cases hc : c = c'
    · rw [hc]
      exact ⟨st', OrdMap.get?_set_self _ _ _⟩
    · exact ⟨st, (OrdMap.get?_set_of_ne _ _ hc).trans hst⟩
  have hother : (∀ id e, op ≠ .sendSequenced id e) →
      (∀ id credential last, op ≠ .accept id credential last) →
        ∃ st, (op.apply cfg net).1.credentialStates.get? c = some st := by
    intro hsend haccept
    rw [credentialStates_of_op hsend haccept]
    exact ⟨st, hst⟩
  cases op with
  | sendSequenced id e =>
    show ∃ st, (Net.sendSequenced id e net).1.credentialStates.get? c = some st
    rcases @sendSequenced_cases net id e with heq | ⟨c', st', -, -, heq⟩
    · rw [heq]
      exact ⟨st, hst⟩
    · rw [heq]
      exact hset c' _
  | accept id credential last =>
    show ∃ st, (Net.accept cfg id credential last net).1.credentialStates.get? c = some st
    cases hd : net.connections.get? id with
    | none =>
      rw [Net.accept_of_none hd]
      exact ⟨st, hst⟩
    | some d =>
      rw [Net.accept_of_some hd]
      exact hset _ _
  | _ => exact hother nofun nofun

theorem replayFrames_of_fingerprinting (h : Run (transportMachine cfg) ok tr s)
    (hcall : s.calls.get? k = some (.fingerprinting id credential resume)) :
    ∀ f ∈ resume.replayFrames,
      f ∈ sequencedFrames credential.record.credentialId (netEvents tr) := by
  refine h.invariant (I := fun tr s => ∀ k id credential resume,
    s.calls.get? k = some (.fingerprinting id credential resume) → ∀ f ∈ resume.replayFrames,
      f ∈ sequencedFrames credential.record.credentialId (netEvents tr))
    (fun _ _ _ _ hcall => by cases hcall)
    (fun {tr s a s' es} hrun hknown _ hstep k id credential resume hcall f hf => ?_)
    k id credential resume hcall
  rw [netEvents_append, sequencedFrames_append]
  refine List.mem_append_left _ ?_
  rcases (transportStep_core hstep).get?_calls hcall with ⟨hold, -⟩ | ⟨rfl, -, hstarts⟩
  · exact hknown k id credential resume hold f hf
  · -- the resume of an accepted lookup is taken from the history
    obtain ⟨last, haccepts⟩ := accepts_of_starts hstarts
    rw [(calls_of_accepts hstep haccepts).1] at hcall
    cases hcall
    exact ((historyInv_of_run hrun).replayFrames last).1.subset hf

theorem isOpen_of_handOut {b : Broadcast} {project : Projector} {f : SequencedFrame}
    (hstep : transportStep cfg s a = some (s', es)) (hhands : HandsOut s a c b project)
    (hmem : .net (.sent id (.sequenced f)) ∈ es) : s'.net.isOpen id = true := by
  rcases handOut_of_transportStep hstep c with ⟨-, hnone⟩ | ⟨project', bs, pre, s₀, hlast⟩
  · exact absurd hhands (hnone b project)
  obtain ⟨states, hframe⟩ := @forEach_handOut_net c project' bs s₀
  have hsame : s'.net.isOpen id = (handOutNet cfg s a).isOpen id := by
    rw [show s'.net = _ from hlast.net, hframe, ← hlast.at_handOut]
    rfl
  rw [hsame]
  -- only the broadcasts are sent
  obtain ⟨ns, net, op, -, hop, hemitted⟩ := emitted_of_transportStep hstep hmem
  cases hemitted with
  | sent hopen =>
    cases hop with
    | reply htarget hframe' => cases hframe'
    | replays hcall => cases hhands
  | sentSequenced _ _ hopen =>
    cases hop with
    | beats hcall hactive =>
      cases hhands with
      | drained hcall' => cases hcall.symm.trans hcall'
    | recovers hcall => cases hhands
    | sends hhands' hid hconn =>
      unfold Net.isOpen at hopen ⊢
      rwa [← hconn]

end Steps

/-! ### A connection that has been let in -/

/-- Every event since a connection was let in is on a frame: on one that was sent on it, or, if
the socket is closed by now, on a later one. `tr₀` is the trace up to then, `tr` the trace since. -/
structure Attached (c : String) (R : CredentialRecord → Prop) (k id : Nat) (credential : Snapshot)
    (resume : CredentialReplayState.Resume) (tr₀ tr : List TransportEvent) (s : TransportState) :
    Prop where
  started : k < s.started
  exist : ∃ d, s.net.connections.get? id = some d
  receiver : ∀ d, s.net.connections.get? id = some d → d.socketOpen = true →
    d.phase = .active ∧ d.credentialId = some c ∧
      ∃ snapshot, d.receiver? = some snapshot ∧ R snapshot.record
  hasState : ∃ st, s.net.credentialStates.get? c = some st
  sequenced : ∀ f ∈ framesSent id (netEvents tr), f ∈ sequencedFrames c (netEvents (tr₀ ++ tr))
  delivered : ∀ b project, .handed c b project ∈ tr → Passes R project b.event →
    ∃ f, f.origin = some b.number ∧ (f ∈ framesSent id (netEvents tr) ∨
      (s.net.isOpen id = false ∧ f ∈ sequencedFrames c (netEvents tr) ∧
        ∀ g ∈ framesSent id (netEvents tr), g.seq < f.seq))
  /-- The fingerprint is awaited, or the client has been sent what was decided. -/
  resumed : s.net.isOpen id = true →
    s.calls.get? k = some (.fingerprinting id credential resume) ∨
      ((resume.needsRecovery = true → ∃ f ∈ framesSent id (netEvents tr),
        f.event = .other "signet.recovery.complete") ∧
      (resume.needsRecovery ≠ true → ∀ f ∈ resume.replayFrames, f ∈ framesSent id (netEvents tr)))

section Guarded

variable {cfg : TransportConfig} {c : String} {R : CredentialRecord → Prop}
  {s s' : TransportState} {a : TransportAction} {tr tr₀ es : List TransportEvent}
  {k id : Nat} {credential : Snapshot} {resume : CredentialReplayState.Resume}

/-- The fingerprint that an open connection of the credential awaits is one of the credential. -/
theorem credential_of_fingerprinting
    (h : Run (transportMachine cfg) (ActiveAttended cfg c R) tr s) {d : ConnectionData}
    (hd : s.net.connections.get? id = some d) (hopen : d.socketOpen = true)
    (hbound : d.credentialId = some c)
    (hcall : s.calls.get? k = some (.fingerprinting id credential resume)) :
    credential.record.credentialId = c := by
  refine h.invariant (I := fun _ s => ∀ k id credential resume d,
    s.net.connections.get? id = some d → d.socketOpen = true → d.credentialId = some c →
      s.calls.get? k = some (.fingerprinting id credential resume) →
        credential.record.credentialId = c) (fun _ _ _ _ _ hd => by cases hd)
    (fun {tr s a s' es} hrun hI hok hstep k id credential resume d' hd' hopen' hbound' hcall => ?_)
    k id credential resume d hd hopen hbound hcall
  rcases (transportStep_core hstep).get?_calls hcall with ⟨hold, -⟩ | ⟨-, -, hstarts⟩
  · -- the call was in flight, so the connection has been let in before
    obtain ⟨d, hd, hphase⟩ := known_of_fingerprinting hrun hold
    have hcounted := (historyInv_of_run hrun).counted id d hd
    obtain ⟨d'', hd'', -, -, hback, hcredential⟩ := connection_of_transportStep hstep hcounted hd
    cases hd'.symm.trans hd''
    rcases hcredential with hsame | ⟨call, last, record, haccepts⟩
    · exact hI k id credential resume d hd (hback hopen') (hsame.symm.trans hbound') hold
    · obtain ⟨d₀, hd₀, hd₁, -⟩ := connection_of_accepts hrun hstep haccepts
      cases hd.symm.trans hd₀
      cases hd'.symm.trans hd₁
      have hrecord : record.credentialId = c := Option.some.inj hbound'
      have hbound :=
          (hok.2.accepts call id last record d haccepts hd (hback hopen') hphase).2 hrecord
      exact hI k id credential resume d hd (hback hopen') hbound hold
  · obtain ⟨last, haccepts⟩ := accepts_of_starts hstarts
    obtain ⟨d₀, -, hd₁, -⟩ := connection_of_accepts hrun hstep haccepts
    cases hd'.symm.trans hd₁
    exact Option.some.inj hbound'

/-- An open connection of the credential takes what is handed out. -/
theorem mem_receiversOf {ns : List NetEvent} {net : Net} (hinv : HistoryInv cfg ns s.net)
    {d : ConnectionData} {snapshot : Snapshot} {project : Projector} {event : SignetEvent}
    (hd : s.net.connections.get? id = some d) (hopen : d.socketOpen = true)
    (hactive : d.phase = .active) (hbound : d.credentialId = some c)
    (hreceiver : d.receiver? = some snapshot) (hR : R snapshot.record)
    (hconnections : net.connections = s.net.connections) (hregistry : net.registry = s.net.registry)
    (hpasses : Passes R project event) : id ∈ receiversOf net c project event := by
  have hregistered : s.net.registry.has id = true := by
    rcases hinv.live id d hd hopen with ⟨hauth, -⟩ | ⟨-, -, hhas⟩
    · rw [hactive] at hauth
      cases hauth
    · exact hhas
  refine List.mem_filter.2 ⟨Net.mem_getByCredentialId.2 ⟨?_, d, ?_, hbound⟩, ?_⟩
  · rw [hregistry]
    exact hregistered
  · rw [hconnections]
    exact hd
  · rw [hconnections, hd, Option.bind_some, hreceiver, Option.any_some]
    exact hpasses snapshot.record hR

namespace Attached

theorem receiver_step (h : Attached c R k id credential resume tr₀ tr s)
    (hrun : Run (transportMachine cfg) (ActiveAttended cfg c R) (tr₀ ++ tr) s)
    (hok : ActiveAttended cfg c R s a) (hstep : transportStep cfg s a = some (s', es)) :
    (∃ d', s'.net.connections.get? id = some d') ∧
      ∀ d', s'.net.connections.get? id = some d' → d'.socketOpen = true →
        s.net.isOpen id = true ∧ d'.phase = .active ∧ d'.credentialId = some c ∧
          ∃ snapshot, d'.receiver? = some snapshot ∧ R snapshot.record := by
  obtain ⟨d, hd⟩ := h.exist
  have hcounted := (historyInv_of_run hrun).counted id d hd
  obtain ⟨d', hd', -, -, hback, -⟩ := connection_of_transportStep hstep hcounted hd
  refine ⟨⟨d', hd'⟩, fun d'' hd'' hopen' => ?_⟩
  cases hd'.symm.trans hd''
  have hopen := hback hopen'
  refine ⟨isOpen_iff.2 ⟨d, hd, hopen⟩, ?_⟩
  have hbefore := h.receiver d hd hopen
  obtain ⟨hactive, hbound, snapshot, hreceiver, hR⟩ := hbefore
  rcases net_of_transportStep hstep with
    ⟨-, heq⟩ | ⟨call, id', last, record, haccepts, hnet, -⟩ | hshrinks
  · -- a new connection has another number
    obtain ⟨rfl, -⟩ := Prod.mk.inj heq
    obtain ⟨rfl, -⟩ | ⟨-, hold⟩ := OrdMap.get?_set_eq_some hd'
    · exact absurd hcounted (Nat.lt_irrefl _)
    · cases hd.symm.trans hold
      exact ⟨hactive, hbound, snapshot, hreceiver, hR⟩
  · by_cases hid : id' = id
    · -- the same connection is let in again
      subst hid
      obtain ⟨d₀, hd₀, hd₁, -⟩ := connection_of_accepts hrun hstep haccepts
      cases hd.symm.trans hd₀
      cases hd'.symm.trans hd₁
      have hrecord : record.credentialId = c :=
        (hok.2.accepts call id' last record d haccepts hd hopen (by rw [hactive]; nofun)).1 hbound
      have hphase : (d.accepted ⟨record, call⟩).phase = .active := by
        show (if d.phase = .authenticating then ConnectionPhase.active else d.phase) = _
        rw [hactive]
        rfl
      have hstatus : record.status = .active := by
        cases a with
        | looked call' answer project => exact haccepts.2.2.1
        | _ => exact haccepts.elim
      refine ⟨hphase, congrArg some hrecord, ⟨record, call⟩, ?_, ?_⟩
      · exact receiver?_eq_some.2 ⟨hphase, rfl, hstatus⟩
      · exact hok.1.accepted call id' last record haccepts hrecord
    · dsimp only at hnet
      rw [hnet] at hd'
      have hold : s.net.connections.get? id = some d' := by
        cases hd₀ : s.net.connections.get? id' with
        | none => rwa [Net.accept_of_none hd₀] at hd'
        | some d₀ =>
          rw [Net.accept_of_some hd₀] at hd'
          exact (OrdMap.get?_set_of_ne _ _ (Ne.symm hid)).symm.trans hd'
      cases hd.symm.trans hold
      exact ⟨hactive, hbound, snapshot, hreceiver, hR⟩
  · obtain ⟨d₀, hd₀, hbelow⟩ := hshrinks.connections hd'
    cases hd.symm.trans hd₀
    have hactive' : d'.phase = .active := (hbelow.isOpen hopen').2.trans hactive
    refine ⟨hactive', hbelow.credentialId.trans hbound, ?_⟩
    rcases hbelow.record with hsame | ⟨written, hnew, hdelivers⟩
    · refine ⟨snapshot, receiver?_eq_some.2 ⟨hactive', ?_⟩, hR⟩
      obtain ⟨-, hrecord, hstatus⟩ := receiver?_eq_some.1 hreceiver
      exact ⟨hsame.trans hrecord, hstatus⟩
    · obtain ⟨hR', hstatus⟩ := hok.1.delivered id written d hdelivers hd hbound
      exact ⟨written, receiver?_eq_some.2 ⟨hactive', hnew, hstatus⟩, hR'⟩

theorem silent (hstep : transportStep cfg s a = some (s', es))
    (hclosed : ¬ s.net.isOpen id = true) :
    framesSent id (netEvents es) = [] := by
  refine List.eq_nil_iff_forall_not_mem.2 fun f hf => hclosed ?_
  exact (sent_of_transportStep hstep (mem_netEvents.1 (mem_framesSent.1 hf))).1

/-- What a step sends on the connection are frames of the credential. -/
theorem sequenced_step (h : Attached c R k id credential resume tr₀ tr s)
    (hrun : Run (transportMachine cfg) (ActiveAttended cfg c R) (tr₀ ++ tr) s)
    (hstep : transportStep cfg s a = some (s', es)) :
    ∀ f ∈ framesSent id (netEvents es), f ∈ sequencedFrames c (netEvents (tr₀ ++ tr ++ es)) := by
  intro f hf
  have hinv := historyInv_of_run hrun
  obtain ⟨hopen, -⟩ := sent_of_transportStep hstep (mem_netEvents.1 (mem_framesSent.1 hf))
  obtain ⟨d, hd, hsocket⟩ := isOpen_iff.1 hopen
  obtain ⟨hactive, hbound, -⟩ := h.receiver d hd hsocket
  rw [netEvents_append, sequencedFrames_append]
  by_cases hwelcome : ∃ call fingerprint credential' resume', a = .fingerprinted call fingerprint ∧
      s.calls.get? call = some (.fingerprinting id credential' resume')
  · obtain ⟨call, fingerprint, credential', resume', rfl, hcall⟩ := hwelcome
    have hcredential := credential_of_fingerprinting hrun hd hsocket hbound hcall
    have hreplay := replayFrames_of_fingerprinting hrun hcall
    rw [hcredential] at hreplay
    obtain ⟨-, hrecovers, hreplays⟩ :=
      hinv.framesSent_welcome hd hsocket hactive hbound call credential' fingerprint resume'
    simp only [transportStep, hcall] at hstep
    cases hstep
    rw [netEvents_map, show (s.finish call).net = s.net from rfl] at hf ⊢
    by_cases hrecovery : resume'.needsRecovery = true
    · obtain ⟨f', hframes, -, hmem⟩ := hrecovers hrecovery
      rw [hframes] at hf
      rw [List.mem_singleton.1 hf]
      exact List.mem_append_right _ hmem
    · rw [hreplays hrecovery] at hf
      exact List.mem_append_left _ (hreplay f hf)
  · refine List.mem_append_right _ ?_
    refine (framesSent_of_transportStep hinv hstep hd hbound ?_).subset hf
    intro call fingerprint heq credential' resume' hcall
    exact hwelcome ⟨call, fingerprint, credential', resume', heq, hcall⟩

theorem delivered_step (h : Attached c R k id credential resume tr₀ tr s)
    (hrun : Run (transportMachine cfg) (ActiveAttended cfg c R) (tr₀ ++ tr) s)
    (hok : ActiveAttended cfg c R s a) (hstep : transportStep cfg s a = some (s', es))
    {b : Broadcast} {project : Projector} (hhanded : .handed c b project ∈ es)
    (hpasses : Passes R project b.event) :
    ∃ f, f.origin = some b.number ∧ (f ∈ framesSent id (netEvents es) ∨
      (s'.net.isOpen id = false ∧ f ∈ sequencedFrames c (netEvents es) ∧
        framesSent id (netEvents es) = [])) := by
  rcases handOut_of_transportStep hstep c with ⟨hnone, -⟩ | ⟨project', bs, pre, s₀, hlast⟩
  · have hmem : b ∈ handedOut c es := List.mem_filterMap.2 ⟨_, hhanded, if_pos rfl⟩
    rw [hnone] at hmem
    cases hmem
  obtain ⟨-, -, -, hspec⟩ := @handOuts_spec cfg _ c project' bs s₀
    ((historyInv_of_run hrun).run hlast.part)
  obtain ⟨states, hframe⟩ := @forEach_handOut_net c project' bs s₀
  have hnet : s'.net = { s₀.net with credentialStates := states } := hlast.net.trans hframe
  have hevents : es = pre ++ (Emits.forEach (TransportState.handOut c project') bs s₀).2 :=
    hlast.events
  -- it is handed out at the end of the step
  have hout : .handed c b project ∈
      (Emits.forEach (TransportState.handOut c project') bs s₀).2 := by
    rw [hevents] at hhanded
    rcases List.mem_append.1 hhanded with hpre | hout
    · have hmem : b ∈ handedOut c pre := List.mem_filterMap.2 ⟨_, hpre, if_pos rfl⟩
      rw [hlast.before] at hmem
      cases hmem
    · exact hout
  obtain ⟨before, after, hsplit⟩ := List.append_of_mem hout
  obtain ⟨hb, rfl, hspec⟩ := hspec before b project after hsplit
  have hhands := hlast.hands b hb
  obtain ⟨ns, hwhole⟩ : ∃ ns, netEvents es = ns ++ netEvents after := by
    rw [hevents, hsplit, netEvents_append, netEvents_append, ← List.append_assoc]
    exact ⟨netEvents pre ++ netEvents before, rfl⟩
  cases hopen : s'.net.isOpen id with
  | true =>
    obtain ⟨d', hd', hsocket⟩ := isOpen_iff.1 hopen
    obtain ⟨-, hactive, hbound, snapshot, hreceiver, hR⟩ :=
      (h.receiver_step hrun hok hstep).2 d' hd' hsocket
    have hinv' := (historyInv_of_run hrun).run (transportStep_net hstep)
    have hid : id ∈ receiversOf s₀.net c project b.event := by
      refine mem_receiversOf hinv' hd' hsocket hactive hbound hreceiver hR ?_ ?_ hpasses
      · rw [hnet]
      · rw [hnet]
    have hopen₀ : s₀.net.isOpen id = true := by
      rw [hnet] at hopen
      exact hopen
    obtain ⟨f, hf, horigin⟩ := hspec.sent id hid hopen₀
    refine ⟨f, horigin, .inl ?_⟩
    rw [hwhole, framesSent_append]
    exact List.mem_append_right _ hf
  | false =>
    have hreceivers : receiversOf s₀.net c project b.event ≠ [] := by
      rw [hlast.at_handOut]
      exact hok.2.attended h.hasState b project hhands hpasses
    obtain ⟨f, hf, horigin⟩ := hspec.sequenced hreceivers
    refine ⟨f, horigin, .inr ⟨rfl, ?_, ?_⟩⟩
    · rw [hwhole, sequencedFrames_append]
      exact List.mem_append_right _ hf
    refine List.eq_nil_iff_forall_not_mem.2 fun g hg => ?_
    have hopen' := isOpen_of_handOut hstep hhands (mem_netEvents.1 (mem_framesSent.1 hg))
    rw [hopen] at hopen'
    cases hopen'

/-- **A step after a connection has been let in.** -/
theorem step (h : Attached c R k id credential resume tr₀ tr s)
    (hrun : Run (transportMachine cfg) (ActiveAttended cfg c R) (tr₀ ++ tr) s)
    (hok : ActiveAttended cfg c R s a) (hstep : transportStep cfg s a = some (s', es)) :
    Attached c R k id credential resume tr₀ (tr ++ es) s' := by
  obtain ⟨hexist, hreceiver⟩ := h.receiver_step hrun hok hstep
  have hcore := transportStep_core hstep
  have hinv := historyInv_of_run hrun
  have hback : s'.net.isOpen id = true → s.net.isOpen id = true := by
    intro hopen'
    obtain ⟨d', hd', hsocket'⟩ := isOpen_iff.1 hopen'
    exact (hreceiver d' hd' hsocket').1
  constructor
  · exact Nat.lt_of_lt_of_le h.started hcore.started_le
  · exact hexist
  · intro d' hd' hsocket'
    exact (hreceiver d' hd' hsocket').2
  · exact hasState_step hstep h.hasState
  · intro f hf
    rw [netEvents_append, framesSent_append] at hf
    rw [← List.append_assoc]
    rcases List.mem_append.1 hf with hold | hnew
    · rw [netEvents_append, sequencedFrames_append]
      exact List.mem_append_left _ (h.sequenced f hold)
    · exact h.sequenced_step hrun hstep f hnew
  · intro b project hhanded hpasses
    simp only [netEvents_append, framesSent_append, sequencedFrames_append, List.mem_append]
    rcases List.mem_append.1 hhanded with hold | hnew
    · obtain ⟨f, horigin, hsent | ⟨hclosed, hmem, hlater⟩⟩ := h.delivered b project hold hpasses
      · exact ⟨f, horigin, .inl (.inl hsent)⟩
      · -- the closed connection stays closed
        have hclosed' : ¬ s.net.isOpen id = true := by rw [hclosed]; nofun
        refine ⟨f, horigin, .inr ⟨?_, .inl hmem, fun g hg => ?_⟩⟩
        · rw [Bool.eq_false_iff]
          exact fun hopen' => hclosed' (hback hopen')
        · rcases hg with hg | hg
          · exact hlater g hg
          · rw [silent hstep hclosed'] at hg
            cases hg
    · obtain ⟨f, horigin, hsent | ⟨hclosed, hmem, hnone⟩⟩ :=
        h.delivered_step hrun hok hstep hnew hpasses
      · exact ⟨f, horigin, .inl (.inr hsent)⟩
      · refine ⟨f, horigin, .inr ⟨hclosed, .inr hmem, fun g hg => ?_⟩⟩
        rcases hg with hg | hg
        · exact (hinv.run (transportStep_net hstep)).seq_lt (h.sequenced g hg) hmem
        · rw [hnone] at hg
          cases hg
  · intro hopen'
    have hopen := hback hopen'
    simp only [netEvents_append, framesSent_append, List.mem_append]
    rcases h.resumed hopen with hcall | ⟨hrecovers, hreplays⟩
    · by_cases hanswered : a.answered = some k
      · -- the client is sent what was decided
        obtain ⟨fingerprint, rfl⟩ := fingerprinted_of_answered hstep hcall hanswered
        obtain ⟨d, hd, hsocket⟩ := isOpen_iff.1 hopen
        obtain ⟨hactive, hbound, -⟩ := h.receiver d hd hsocket
        obtain ⟨-, hrecovers, hreplays⟩ :=
          hinv.framesSent_welcome hd hsocket hactive hbound k credential fingerprint resume
        simp only [transportStep, hcall] at hstep
        cases hstep
        rw [netEvents_map, show (s.finish k).net = s.net from rfl]
        refine .inr ⟨fun hrecovery => ?_, fun hrecovery f hf => .inr ?_⟩
        · obtain ⟨f, hframes, hevent, -⟩ := hrecovers hrecovery
          exact ⟨f, .inr (hframes ▸ List.mem_singleton_self f), hevent⟩
        · rw [hreplays hrecovery]
          exact hf
      · exact .inl (hcore.kept (fresh_of_run hrun) hcall hanswered)
    · refine .inr ⟨fun hrecovery => ?_, fun hrecovery f hf => .inl (hreplays hrecovery f hf)⟩
      obtain ⟨f, hf, hevent⟩ := hrecovers hrecovery
      exact ⟨f, .inl hf, hevent⟩

end Attached

/-- **What follows an accepted lookup.** -/
theorem attached_of_run {s₀ s₁ : TransportState} {call : Nat} {lastSeenSeq : Option Nat}
    {record : CredentialRecord} (h : Run (transportMachine cfg) (ActiveAttended cfg c R) tr₀ s₀)
    (hok : ActiveAttended cfg c R s₀ a) (haccepts : Accepts s₀ call id lastSeenSeq record a)
    (hrecord : record.credentialId = c) (hstep : transportStep cfg s₀ a = some (s₁, es))
    (hrest : RunFrom (transportMachine cfg) (ActiveAttended cfg c R) s₁ tr s) :
    Attached c R s₀.started id ⟨record, call⟩
      ((s₀.net.getOrCreateCredentialState cfg c).resume lastSeenSeq) (tr₀ ++ es) tr s := by
  have hrun₁ := h.snoc hok hstep
  refine hrest.invariant (I := fun tr s => Attached c R s₀.started id ⟨record, call⟩
    ((s₀.net.getOrCreateCredentialState cfg c).resume lastSeenSeq) (tr₀ ++ es) tr s)
    (fun hrun hI hok' hstep' => hI.step (hrun₁.extend hrun) hok' hstep') ?_
  obtain ⟨hcall, hstarted⟩ := calls_of_accepts hstep haccepts
  obtain ⟨d, hd, hd₁, hphase₁⟩ := connection_of_accepts h hstep haccepts
  have hstatus : record.status = .active := by
    cases a with
    | looked call' answer project => exact haccepts.2.2.1
    | _ => exact haccepts.elim
  constructor
  · rw [hstarted]
    exact Nat.lt_succ_self _
  · exact ⟨_, hd₁⟩
  · intro d' hd' hsocket
    cases hd₁.symm.trans hd'
    rcases (historyInv_of_run hrun₁).live id _ hd₁ hsocket with ⟨hauth, -⟩ | ⟨hactive, -⟩
    · exact absurd hauth hphase₁
    · refine ⟨hactive, congrArg some hrecord, ⟨record, call⟩, ?_, ?_⟩
      · exact receiver?_eq_some.2 ⟨hactive, rfl, hstatus⟩
      · exact hok.1.accepted call id lastSeenSeq record haccepts hrecord
  · obtain ⟨st, hst⟩ := ((historyInv_of_run hrun₁).bound id _ hd₁).2 c (congrArg some hrecord)
    exact ⟨st, hst⟩
  · exact nofun
  · exact nofun
  · intro _
    rw [hrecord] at hcall
    exact .inl hcall

/-- What is broadcast after a point and is not queued at the end is handed out after this point. -/
theorem handed_of_broadcasted {ok : TransportState → TransportAction → Prop} {s₀ : TransportState}
    {since : List TransportEvent} (h : Run (transportMachine cfg) ok tr s)
    (h₀ : Run (transportMachine cfg) ok tr₀ s₀) (htr : tr = tr₀ ++ since) {b : Broadcast}
    (hb : b ∈ broadcasted c since) (hqueued : b ∉ s.queued c) :
    ∃ project, .handed c b project ∈ since := by
  have hinv : ProtocolInv c tr s := .of_run h
  have hinv₀ : ProtocolInv c tr₀ s₀ := .of_run h₀
  have hnumbers := (@broadcasted_numbers cfg s tr c ok h).1
  rw [htr, broadcasted_append, List.map_append] at hnumbers
  have hbefore : b ∉ handedOut c tr₀ := by
    intro hmem
    have hold : b ∈ broadcasted c tr₀ := by
      rw [← hinv₀.order]
      exact List.mem_append_left _ hmem
    have hlt := (List.pairwise_append.1 hnumbers).2.2 b.number (List.mem_map_of_mem hold)
      b.number (List.mem_map_of_mem hb)
    exact Nat.lt_irrefl _ hlt
  have hall : b ∈ handedOut c tr ++ s.queued c := by
    rw [hinv.order, htr, broadcasted_append]
    exact List.mem_append_right _ hb
  have hsince : b ∈ handedOut c since := by
    rcases List.mem_append.1 hall with hhanded | hno
    · rw [htr, handedOut_append] at hhanded
      exact (List.mem_append.1 hhanded).resolve_left hbefore
    · exact absurd hno hqueued
  obtain ⟨e, he, heq⟩ := List.mem_filterMap.1 hsince
  cases e with
  | handed c' b' project =>
    dsimp only at heq
    split at heq
    · next hc =>
      cases heq
      exact ⟨project, hc ▸ he⟩
    · cases heq
  | _ => cases heq

theorem seq_bounds {ns : List NetEvent} {net : Net} (h : HistoryInv cfg ns net)
    {f : SequencedFrame} (hf : f ∈ sequencedFrames c ns) :
    0 < f.seq ∧ f.seq < (net.getOrCreateCredentialState cfg c).nextSeq := by
  obtain ⟨events, hafter, hframes⟩ := h.history c
  rw [hframes] at hf
  obtain ⟨i, hi, rfl⟩ := List.getElem_of_mem hf
  rw [hafter, CredentialReplayState.after_eq, CredentialReplayState.seq_getElem]
  rw [CredentialReplayState.frames_length] at hi
  exact ⟨Nat.succ_pos i, Nat.succ_lt_succ hi⟩

end Guarded

/-- **Nothing is lost**, in every run in which the credential stays active and somebody is there
when an event is handed out. -/
theorem no_event_loss (cfg : TransportConfig) (c : String) (R : CredentialRecord → Prop)
    {tr : List TransportEvent} {s : TransportState}
    (h : Run (transportMachine cfg) (ActiveAttended cfg c R) tr s) : NoEventLoss c R tr s := by
  intro before between after id id' call call' lastSeenSeq lastSeen htr hlast hin b hb hqueued
    hpasses
  obtain ⟨s₂, a₂, s₃, record', d', rest', hrun₂, hok₂, haccepts₂, hrecord', hstep₂, -,
    hrest₂, rfl⟩ :=
    split_accepted h htr
  obtain ⟨s₀, a₀, s₁, record, d, rest, hrun₀, hok₀, haccepts₀, hrecord, hstep₀, -, hrest₀, rfl⟩ :=
    split_accepted hrun₂ rfl
  have hold := attached_of_run hrun₀ hok₀ haccepts₀ hrecord hstep₀ hrest₀
  have hnew := attached_of_run hrun₂ hok₂ haccepts₂ hrecord' hstep₂ hrest₂
  have hinv₂ := historyInv_of_run hrun₂
  replace hlast : lastSeen = 0 ∨ ∃ f ∈ framesSent id (netEvents rest), f.seq = lastSeen := hlast
  show (∃ f ∈ framesSent id (netEvents rest), _ ∧ _) ∨
    ∃ f ∈ framesSent id' (netEvents rest'), _ ∨ _
  -- the trace up to the second acceptance, as the run before it sees it
  have htr₂ : before ++ .net (.accepted id call c lastSeenSeq) ::
      .net (.cached id call) :: rest = before ++ [.net (.accepted id call c lastSeenSeq),
        .net (.cached id call)] ++ rest := by
    rw [List.append_assoc]
    rfl
  obtain ⟨project, hhanded⟩ : ∃ project, .handed c b project ∈
      .net (.accepted id call c lastSeenSeq) :: .net (.cached id call) :: rest ++
        .net (.accepted id' call' c (some lastSeen)) :: .net (.cached id' call') :: rest' := by
    refine handed_of_broadcasted h hrun₀ ?_ ?_ hqueued
    · rw [htr, List.append_assoc]
    · rw [broadcasted_append] at hb ⊢
      exact hb
  have hpass : Passes R project b.event := by
    refine hpasses project ?_
    rw [htr, List.append_assoc]
    exact List.mem_append_right _ hhanded
  have hwhen : .handed c b project ∈ rest ∨ .handed c b project ∈ rest' := by
    rcases List.mem_append.1 hhanded with hmem | hmem
    · cases hmem with
      | tail _ hmem =>
        cases hmem with
        | tail _ hmem => exact .inl hmem
    · cases hmem with
      | tail _ hmem =>
        cases hmem with
        | tail _ hmem => exact .inr hmem
  rcases hwhen with hmem | hmem
  · -- it was handed out before the client came back
    obtain ⟨f, horigin, hwhere⟩ := hold.delivered b project hmem hpass
    by_cases hseen : f ∈ framesSent id (netEvents rest) ∧ f.seq ≤ lastSeen
    · exact .inl ⟨f, hseen.1, hseen.2, horigin⟩
    right
    have hframe : f ∈ sequencedFrames c (netEvents (before ++
        [.net (.accepted id call c lastSeenSeq), .net (.cached id call)] ++ rest)) := by
      rcases hwhere with hsent | ⟨-, hsequenced, -⟩
      · exact hold.sequenced f hsent
      · rw [netEvents_append, sequencedFrames_append]
        exact List.mem_append_right _ hsequenced
    rw [← htr₂] at hframe
    have hlt : lastSeen < f.seq := by
      rcases hwhere with hsent | ⟨-, -, hlater⟩
      · exact Nat.lt_of_not_le fun hle => hseen ⟨hsent, hle⟩
      · rcases hlast with rfl | ⟨g, hg, rfl⟩
        · exact (seq_bounds hinv₂ hframe).1
        · exact hlater g hg
    have hafter : f ∈ framesAfter c lastSeen (netEvents (before ++
        .net (.accepted id call c lastSeenSeq) :: .net (.cached id call) :: rest)) :=
      List.mem_filter.2 ⟨hframe, decide_eq_true hlt⟩
    have hbound := Nat.lt_trans hlt (seq_bounds hinv₂ hframe).2
    obtain ⟨hrecovery, hreplay⟩ := hinv₂.resume hbound
    rcases hnew.resumed hin.1 with hcall | ⟨hrecovers, hreplays⟩
    · exact absurd hcall (hin.2 _ _ _)
    · by_cases hevicted : Evicted cfg c lastSeen (netEvents (before ++
          .net (.accepted id call c lastSeenSeq) :: .net (.cached id call) :: rest)) s₂.net
      · obtain ⟨g, hg, hevent⟩ := hrecovers (by rw [hrecovery hevicted])
        exact ⟨g, hg, .inr hevent⟩
      · refine ⟨f, hreplays (by rw [hreplay hevicted]; nofun) f ?_, .inl horigin⟩
        rw [hreplay hevicted]
        exact hafter
  · obtain ⟨f, horigin, hsent | ⟨hclosed, -⟩⟩ := hnew.delivered b project hmem hpass
    · exact .inr ⟨f, hsent, .inl horigin⟩
    · rw [hin.1] at hclosed
      cases hclosed

/-- Lookups are asked for by authentications only, and somebody takes what is broadcast. -/
def attends (s : TransportState) : TransportAction → Bool
  | .looked call (.ok record) _ =>
    match s.calls.get? call with
    | some (.authenticating connectionId _) => record.status == .active &&
        (s.net.connections.get? connectionId).all (·.phase == .authenticating)
    | _ => false
  | .looked .. => false
  | .broadcast credentialId event project => !(receiversOf s.net credentialId project event).isEmpty
  | _ => true

theorem activeAttended_of_attends {cfg : TransportConfig} {c : String} {s : TransportState}
    {a : TransportAction} (h : attends s a = true) : ActiveAttended cfg c (fun _ => True) s a := by
  have hlooked : ∀ call answer project, a = .looked call answer project →
      ∃ id last, s.calls.get? call = some (.authenticating id last) ∧
        (s.net.connections.get? id).all (·.phase == .authenticating) = true := by
    rintro call answer project rfl
    cases answer with
    | ok record =>
      unfold attends at h
      dsimp only at h
      split at h
      · next id last hcall => exact ⟨id, last, hcall, (Bool.and_eq_true_iff.1 h).2⟩
      · cases h
    | _ => cases h
  refine ⟨⟨fun _ _ _ _ _ _ => trivial, ?_⟩, ⟨?_, ?_⟩⟩
  · rintro id credential d ⟨project, phase, rfl, hcall, htarget⟩ _ _
    obtain ⟨id', last, hcall', -⟩ := hlooked _ _ _ rfl
    cases hcall.symm.trans hcall'
    rcases htarget with htarget | ⟨_, _, heq, -⟩
    · cases htarget
    · cases heq
  · intro call id last record d haccepts hd _ hphase
    cases a with
    | looked call' answer project =>
      obtain ⟨rfl, -, -, hcall⟩ := haccepts
      obtain ⟨id', last', hcall', hall⟩ := hlooked _ _ _ rfl
      cases hcall.symm.trans hcall'
      rw [hd] at hall
      exact absurd (eq_of_beq hall) hphase
    | _ => exact haccepts.elim
  · rintro - b project (@⟨_, event, _, hnone⟩ | ⟨hcall, -, -, -⟩) _ hnil
    · replace h : (!(receiversOf s.net c project event).isEmpty) = true := h
      rw [show receiversOf s.net c project event = [] from hnil] at h
      cases h
    · obtain ⟨_, _, hcall', -⟩ := hlooked _ _ _ rfl
      cases hcall.symm.trans hcall'

/-- An event that is broadcast while another client of the credential is there. -/
theorem no_event_loss_attended :
    ∃ tr s, Run (transportMachine ⟨2, true⟩)
        (ActiveAttended ⟨2, true⟩ "cred_1" fun _ => True) tr s ∧
      framesSent 0 (netEvents tr) = [⟨1, .other "message.visible", some 0⟩] ∧
      framesSent 2 (netEvents tr) = [⟨2, .other "message.visible", some 0⟩,
        ⟨3, .other "message.deleted", some 1⟩] ∧
      NoEventLoss "cred_1" (fun _ => True) tr s := by
  obtain ⟨tr, s, hrun, htest⟩ := exists_run_of_exec (transportMachine ⟨2, true⟩) attends
    (openAuthenticated 0 0 none ++ openAuthenticated 1 2 none ++
      [.broadcast "cred_1" (.other "message.visible") passAll, .close 0,
        .broadcast "cred_1" (.other "message.deleted") passAll] ++ openAuthenticated 2 4 (some 1))
    (fun tr _ => decide (framesSent 0 (netEvents tr) = [⟨1, .other "message.visible", some 0⟩]) &&
      decide (framesSent 2 (netEvents tr) = [⟨2, .other "message.visible", some 0⟩,
        ⟨3, .other "message.deleted", some 1⟩]))
    (by decide +kernel)
  obtain ⟨hfirst, hsecond⟩ := Bool.and_eq_true_iff.1 htest
  have hrun' : Run (transportMachine ⟨2, true⟩)
      (ActiveAttended ⟨2, true⟩ "cred_1" fun _ => True) tr s :=
    hrun.mono fun _ _ => activeAttended_of_attends
  exact ⟨tr, s, hrun', of_decide_eq_true hfirst, of_decide_eq_true hsecond,
    no_event_loss ⟨2, true⟩ "cred_1" (fun _ => True) hrun'⟩

/-- Lookups return the one record. -/
def looksUpOneChat : TransportAction → Bool
  | .looked _ (.ok record) _ => record == oneChatRecord
  | _ => true

theorem staysActive_of_looksUpOneChat {c : String} {s : TransportState} {a : TransportAction}
    (h : looksUpOneChat a = true) : StaysActive c (· = oneChatRecord) s a where
  accepted := by
    intro call id last record haccepts _
    cases a with
    | looked call' answer project =>
      obtain ⟨-, rfl, -, -⟩ := haccepts
      exact eq_of_beq h
    | _ => exact haccepts.elim
  delivered := by
    rintro id credential d ⟨project, phase, rfl, -⟩ - -
    have hrecord : credential.record = oneChatRecord := eq_of_beq h
    rw [hrecord]
    exact ⟨rfl, rfl⟩

def handsOutPassing : TransportEvent → Bool
  | .handed _ b project => (project b.event oneChatRecord).isSome
  | _ => true

/-- The client goes away, and comes back after a broadcast. -/
def returnsAfterBroadcast : List TransportAction :=
  openAuthenticated 0 0 none ++
    [.close 0, .broadcast "cred_1" (.other "message.visible") passAll] ++
    openAuthenticated 1 2 (some 0)

/-- Neither connection is sent anything of the broadcast between them. -/
def sendsNothing : List TransportEvent → Bool
  | [.net (.accepted 0 0 "cred_1" none), e₁, e₂, e₃, .broadcasted "cred_1" b, e₄,
      .net (.accepted 1 2 "cred_1" (some 0)), e₅, e₆] =>
    decide (framesSent 0 (netEvents [e₁, e₂, e₃, .broadcasted "cred_1" b, e₄]) = []) &&
      decide (framesSent 1 (netEvents [e₅, e₆]) = [])
  | _ => false

/-- An event that is broadcast while nobody is there is not replayed. -/
theorem unattended_event_lost :
    ∃ tr s, Run (transportMachine ⟨2, true⟩) (StaysActive "cred_1" (· = oneChatRecord)) tr s ∧
      ¬ NoEventLoss "cred_1" (· = oneChatRecord) tr s := by
  have hactive : returnsAfterBroadcast.all looksUpOneChat = true := by decide
  obtain ⟨tr, s, hrun, htest⟩ := exists_run_of_exec_of_forall (transportMachine ⟨2, true⟩)
    (StaysActive "cred_1" (· = oneChatRecord)) returnsAfterBroadcast
    (fun tr s => s.net.isOpen 1 && s.calls.isEmpty && (s.queued "cred_1").isEmpty &&
      tr.all handsOutPassing && sendsNothing tr)
    (fun a ha s => staysActive_of_looksUpOneChat (List.all_eq_true.1 hactive a ha))
    (by decide +kernel)
  obtain ⟨hstate, htrace⟩ := Bool.and_eq_true_iff.1 htest
  simp only [Bool.and_eq_true, List.isEmpty_iff] at hstate
  obtain ⟨⟨⟨hopen, hcalls⟩, hqueued⟩, hpasses⟩ := hstate
  refine ⟨tr, s, hrun, fun hloss => ?_⟩
  unfold sendsNothing at htrace
  split at htrace
  · next e₁ e₂ e₃ b e₄ e₅ e₆ =>
    obtain ⟨hfirst, hsecond⟩ := Bool.and_eq_true_iff.1 htrace
    have hin : LetIn s 1 := by
      refine ⟨hopen, fun call credential resume => ?_⟩
      rw [OrdMap.get?_of_isEmpty hcalls]
      rintro ⟨⟩
    have hb : b ∈ broadcasted "cred_1" ([e₁, e₂, e₃, .broadcasted "cred_1" b, e₄] ++ [e₅, e₆]) :=
      List.mem_filterMap.2 ⟨.broadcasted "cred_1" b, by simp, if_pos rfl⟩
    obtain ⟨f, hf, -⟩ | ⟨f, hf, -⟩ := hloss [] [e₁, e₂, e₃, .broadcasted "cred_1" b, e₄] [e₅, e₆]
      0 1 0 2 none 0 rfl (.inl rfl) hin b hb (by rw [hqueued]; rintro ⟨⟩) (by
        rintro project hmem _ rfl
        exact List.all_eq_true.1 hpasses _ hmem)
    · rw [of_decide_eq_true hfirst] at hf
      cases hf
    · rw [of_decide_eq_true hsecond] at hf
      cases hf
  · cases htrace

end Signet.Ws
