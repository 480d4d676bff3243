import Mathlib.Data.List.Pairwise
import Signet.Ws.BroadcastHistory

/-!
# The order of frames on a connection

`FrameOrder`: the first frame after an accepted lookup is the authenticated frame, the sequenced
frames on a connection have increasing numbers, and a client that comes back with the largest
number it has seen gets no broadcast a second time.

It holds in every run whose steps are in order (`InOrder`, `frame_order`): a lookup is accepted
only once on an open connection, nothing else is sent before the welcome, and a broadcast gets
only one number. What follows an accepted lookup is one invariant (`AfterAccept`).
-/

namespace Signet.Ws

open Lib

/-! ### The property -/

/-- The frame tells the client that the lookup has let it in. -/
def ServerFrame.authenticates (call : Nat) : ServerFrame → Prop
  | authenticated credential _ _ => credential.lookup = call
  | _ => False

/-- The broadcasts that frames come from. -/
def origins (frames : List SequencedFrame) : List Nat :=
  frames.filterMap (·.origin)

structure FrameOrder (tr : List TransportEvent) : Prop where
  /-- The first frame after the authentication has succeeded is the authenticated frame. -/
  first : ∀ before after id call c lastSeenSeq,
    tr = before ++ .net (.accepted id call c lastSeenSeq) :: after →
      ∀ frame, (sentOn id (netEvents after)).head? = some frame → frame.authenticates call
  increasing : ∀ id, (framesSent id (netEvents tr)).Pairwise fun f g => f.seq < g.seq
  /-- A client sees some frames, goes away and comes back with a number that is not smaller. -/
  once : ∀ before seen away after id id' call call' c lastSeenSeq lastSeenSeq',
    tr = before ++ .net (.accepted id call c lastSeenSeq) :: seen ++ away ++
        .net (.accepted id' call' c lastSeenSeq') :: after →
      (∀ f ∈ framesSent id (netEvents seen), ∃ L, lastSeenSeq' = some L ∧ f.seq ≤ L) →
        (origins (framesSent id (netEvents seen) ++ framesSent id' (netEvents after))).Nodup

/-- A broadcast gets at most one number. -/
def TakenOnce (cfg : TransportConfig) (s : TransportState) (a : TransportAction) : Prop :=
  ∀ c b project, HandsOut s a c b project →
    (receiversOf (handOutNet cfg s a) c project b.event).length ≤ 1

/-- The step comes in order. -/
structure InOrder (cfg : TransportConfig) (s : TransportState) (a : TransportAction) : Prop where
  /-- A lookup that is accepted on an open connection finds it authenticating. -/
  accepts : ∀ call id lastSeenSeq record d, Accepts s call id lastSeenSeq record a →
    s.net.connections.get? id = some d → d.socketOpen = true → d.phase = .authenticating
  /-- Nothing else is sent on an open connection that awaits its fingerprint: no reply, -/
  replies : ∀ call id credential resume,
    s.calls.get? call = some (.fingerprinting id credential resume) →
      s.net.isOpen id = true → replyTarget s a ≠ some id
  /-- no heartbeat, -/
  beats : ∀ call id credential resume,
    s.calls.get? call = some (.fingerprinting id credential resume) →
      s.net.isOpen id = true → ∀ lookup record project, a = .looked lookup (.ok record) project →
        s.calls.get? lookup = some (.heartbeat id) → record.status ≠ .active
  /-- and no broadcast. -/
  handsOut : ∀ call id credential resume,
    s.calls.get? call = some (.fingerprinting id credential resume) →
      s.net.isOpen id = true → ∀ c b project, HandsOut s a c b project →
        id ∉ receiversOf (handOutNet cfg s a) c project b.event
  once : TakenOnce cfg s a

/-! ### Frames of one connection -/

section Frames

variable {cfg : TransportConfig} {ns : List NetEvent} {net : Net} {c : String} {id : Nat}

/-- The frames of a credential have increasing numbers. -/
theorem HistoryInv.increasing (h : HistoryInv cfg ns net) :
    (sequencedFrames c ns).Pairwise fun f g => f.seq < g.seq := by
  obtain ⟨events, -, hframes⟩ := h.history c
  rw [hframes]
  refine List.pairwise_iff_getElem.2 fun i j hi hj hij => ?_
  rw [CredentialReplayState.seq_getElem, CredentialReplayState.seq_getElem]
  omega

theorem HistoryInv.seq_lt {ns' : List NetEvent} (h : HistoryInv cfg (ns ++ ns') net)
    {f g : SequencedFrame} (hf : f ∈ sequencedFrames c ns) (hg : g ∈ sequencedFrames c ns') :
    f.seq < g.seq := by
  have hincreasing := h.increasing (c := c)
  rw [sequencedFrames_append] at hincreasing
  exact (List.pairwise_append.1 hincreasing).2.2 f hf g hg

/-- What is decided to be replayed are frames of the credential after the last one seen. -/
theorem HistoryInv.replayFrames (h : HistoryInv cfg ns net) (lastSeenSeq : Option Nat) :
    (((net.getOrCreateCredentialState cfg c).resume lastSeenSeq).replayFrames).Sublist
        (sequencedFrames c ns) ∧
      ∀ f ∈ ((net.getOrCreateCredentialState cfg c).resume lastSeenSeq).replayFrames,
        ∃ L, lastSeenSeq = some L ∧ L < f.seq := by
  obtain ⟨events, hafter, hframes⟩ := h.history c
  have harray : ((net.getOrCreateCredentialState cfg c).buffer.toArray).Sublist
      (sequencedFrames c ns) := by
    rw [hafter, hframes, CredentialReplayState.after_eq, CircularBuffer.toArray_ofHistory]
    exact List.drop_sublist _ _
  have hsince : ∀ L, (((net.getOrCreateCredentialState cfg c).replaySince L).replayFrames).Sublist
      (sequencedFrames c ns) ∧
      ∀ f ∈ ((net.getOrCreateCredentialState cfg c).replaySince L).replayFrames, L < f.seq := by
    intro L
    refine ⟨List.filter_sublist.trans harray, fun f hf => ?_⟩
    exact of_decide_eq_true (List.mem_filter.1 hf).2
  cases lastSeenSeq with
  | none => exact ⟨List.nil_sublist _, nofun⟩
  | some L =>
    unfold CredentialReplayState.resume
    dsimp only
    split
    · split
      · exact ⟨List.nil_sublist _, nofun⟩
      · exact ⟨(hsince L).1, fun f hf => ⟨L, rfl, (hsince L).2 f hf⟩⟩
    · exact ⟨(hsince L).1, fun f hf => ⟨L, rfl, (hsince L).2 f hf⟩⟩

/-- An operation that replays nothing sends a frame only when it is sequenced. -/
theorem framesSent_op {op : NetOp} (hreplay : ∀ f, op ≠ .sendJson id (.sequenced f))
    (hbound : ∀ d, net.connections.get? id = some d → d.credentialReplayState = some c) :
    (framesSent id (op.apply cfg net).2).Sublist (sequencedFrames c (op.apply cfg net).2) := by
  have hnone : (∀ e, op ≠ .sendSequenced id e) →
      (framesSent id (op.apply cfg net).2).Sublist (sequencedFrames c (op.apply cfg net).2) := by
    intro hsend
    have hnil : framesSent id (op.apply cfg net).2 = [] := by
      refine List.eq_nil_iff_forall_not_mem.2 fun f hf => ?_
      have hemitted := emittedBy (mem_framesSent.1 hf)
      cases hemitted with
      | sent => exact hreplay f rfl
      | sentSequenced => exact hsend _ rfl
    rw [hnil]
    exact List.nil_sublist _
  cases op with
  | sendSequenced id' e =>
    by_cases hid : id' = id
    · subst hid
      show (framesSent id' (Net.sendSequenced id' e net).2).Sublist
        (sequencedFrames c (Net.sendSequenced id' e net).2)
      rcases @sendSequenced_cases net id' e with heq | ⟨c', st, hbound', -, heq⟩
      · rw [heq]
        exact .slnil
      · obtain ⟨d, hd, hreplayState⟩ := Option.bind_eq_some_iff.1 hbound'
        obtain rfl : c' = c := Option.some.inj (hreplayState.symm.trans (hbound d hd))
        rw [heq, sequencedFrames_cons_self, sequencedFrames_sent]
        unfold framesSent
        rw [sentOn_cons_sequenced]
        cases net.isOpen id' with
        | true =>
          rw [if_pos rfl, sentOn_cons_self]
          exact .refl _
        | false => exact List.nil_sublist _
    · exact hnone fun e' heq => hid (NetOp.sendSequenced.inj heq).1
  | _ => exact hnone nofun

/-- A step that does not welcome the connection sends only frames that it sequences. -/
theorem framesSent_of_transportStep {s s' : TransportState} {a : TransportAction}
    {es : List TransportEvent} {d : ConnectionData} (hinv : HistoryInv cfg ns s.net)
    (h : transportStep cfg s a = some (s', es)) (hd : s.net.connections.get? id = some d)
    (hbound : d.credentialId = some c)
    (hwelcome : ∀ call fingerprint, a = .fingerprinted call fingerprint → ∀ credential resume,
      s.calls.get? call ≠ some (.fingerprinting id credential resume)) :
    (framesSent id (netEvents es)).Sublist (sequencedFrames c (netEvents es)) := by
  by_cases hnil : framesSent id (netEvents es) = []
  · rw [hnil]
    exact List.nil_sublist _
  obtain ⟨f, hf⟩ := List.exists_mem_of_ne_nil _ hnil
  obtain ⟨hconnect, haccepts⟩ := other_of_sent h (mem_netEvents.1 (mem_framesSent.1 hf))
  have hI : Net.Shrinks (fun _ _ => True) s.net s'.net ∧
      (framesSent id (netEvents es)).Sublist (sequencedFrames c (netEvents es)) := by
    refine RunFrom.invariant (I := fun ns net => Net.Shrinks (fun _ _ => True) s.net net ∧
      (framesSent id ns).Sublist (sequencedFrames c ns)) (transportStep_net h)
      (fun {ns net op net' es'} _ hnet hop hstep => ?_) ⟨.refl _, .slnil⟩
    obtain ⟨hshrinks, hsub⟩ := hnet
    obtain ⟨rfl, rfl⟩ := Prod.mk.inj (Option.some.inj hstep)
    have hbinds := binds_of_other hconnect haccepts hop
    have hreplay : ∀ f, op ≠ .sendJson id (.sequenced f) := by
      rintro f rfl
      cases hop with
      | reply htarget hframe => cases hframe
      | replays hcall => exact hwelcome _ _ rfl _ _ hcall
    have hstate : ∀ d', net.connections.get? id = some d' → d'.credentialReplayState = some c := by
      intro d' hd'
      obtain ⟨d₀, hd₀, hbelow⟩ := hshrinks.connections hd'
      cases hd.symm.trans hd₀
      rw [hbelow.replayState, (hinv.bound id d hd).1, hbound]
    refine ⟨hshrinks.trans ((NetOp.shrinks hbinds).mono fun _ _ _ => trivial), ?_⟩
    rw [framesSent_append, sequencedFrames_append]
    exact hsub.append (framesSent_op hreplay hstate)
  exact hI.2

end Frames

/-! ### After an accepted lookup -/

/-- The frames on a connection after its lookup was accepted: `ns₀` is what has happened up to the
acceptance, and `ns` what has happened since. -/
structure FramesInOrder (c : String) (id call : Nat) (lastSeenSeq : Option Nat)
    (ns₀ ns : List NetEvent) : Prop where
  first : ∀ frame, (sentOn id ns).head? = some frame → frame.authenticates call
  increasing : (framesSent id ns).Pairwise fun f g => f.seq < g.seq
  /-- A frame from before the acceptance is replayed, since the client has not seen it. -/
  known : ∀ f ∈ framesSent id ns, f ∈ sequencedFrames c (ns₀ ++ ns) ∧
    (f ∈ sequencedFrames c ns₀ → ∃ L, lastSeenSeq = some L ∧ L < f.seq)

/-- A connection after its lookup was accepted: `k` is the call that awaits the fingerprint. -/
structure AfterAccept (c : String) (k id : Nat) (credential : Snapshot)
    (resume : CredentialReplayState.Resume) (ns : List NetEvent) (s : TransportState) : Prop where
  started : k < s.started
  exist : ∃ d, s.net.connections.get? id = some d
  bound : ∀ d, s.net.connections.get? id = some d → d.socketOpen = true →
    d.phase = .active ∧ d.credentialId = some c
  single : s.net.isOpen id = true → ∀ k' credential' resume',
    s.calls.get? k' = some (.fingerprinting id credential' resume') → k' = k
  /-- The fingerprint is awaited and nothing has been sent, or the client has been welcomed. -/
  welcomed : s.net.isOpen id = true →
    (s.calls.get? k = some (.fingerprinting id credential resume) ∧ sentOn id ns = []) ∨
      (s.calls.get? k = none ∧ sentOn id ns ≠ [])

theorem isOpen_iff {net : Net} {id : Nat} :
    net.isOpen id = true ↔ ∃ d, net.connections.get? id = some d ∧ d.socketOpen = true := by
  unfold Net.isOpen
  rw [Option.any_eq_true]

namespace AfterAccept

variable {cfg : TransportConfig} {c : String} {k id : Nat} {credential : Snapshot}
  {resume : CredentialReplayState.Resume} {ns₀ ns : List NetEvent} {s s' : TransportState}
  {a : TransportAction} {es : List TransportEvent}

/-- Nobody accepts the connection again. -/
theorem not_accepts (h : AfterAccept c k id credential resume ns s)
    (hok : InOrder cfg s a) (hopen : s.net.isOpen id = true) {call : Nat} {last : Option Nat}
    {record : CredentialRecord} : ¬ Accepts s call id last record a := by
  intro haccepts
  obtain ⟨d, hd, hopen⟩ := isOpen_iff.1 hopen
  have hauth := hok.accepts call id last record d haccepts hd hopen
  rw [(h.bound d hd hopen).1] at hauth
  cases hauth

theorem connection (h : AfterAccept c k id credential resume ns s)
    (hinv : HistoryInv cfg (ns₀ ++ ns) s.net) (hok : InOrder cfg s a)
    (hstep : transportStep cfg s a = some (s', es)) :
    (∃ d', s'.net.connections.get? id = some d') ∧
      ∀ d', s'.net.connections.get? id = some d' → d'.socketOpen = true →
        s.net.isOpen id = true ∧ d'.phase = .active ∧ d'.credentialId = some c := by
  obtain ⟨d, hd⟩ := h.exist
  obtain ⟨d', hd', hphase, -, hopen, hcred⟩ :=
    connection_of_transportStep hstep (hinv.counted id d hd) hd
  refine ⟨⟨d', hd'⟩, fun d'' hd'' hopen'' => ?_⟩
  cases hd'.symm.trans hd''
  have hopen₀ := hopen hopen''
  have hisOpen := isOpen_iff.2 ⟨d, hd, hopen₀⟩
  obtain ⟨hactive, hbound⟩ := h.bound d hd hopen₀
  have hphase' : d'.phase ≠ .authenticating := hphase (by rw [hactive]; nofun)
  have hinv' := hinv.run (transportStep_net hstep)
  refine ⟨hisOpen, ?_, ?_⟩
  · rcases hinv'.live id d' hd' hopen'' with ⟨hauth, -⟩ | ⟨hactive', -⟩
    · exact absurd hauth hphase'
    · exact hactive'
  · rcases hcred with heq | ⟨call, last, record, haccepts⟩
    · exact heq.trans hbound
    · exact absurd haccepts (h.not_accepts hok hisOpen)

theorem silent (hok : InOrder cfg s a) (hstep : transportStep cfg s a = some (s', es))
    (hcall : s.calls.get? k = some (.fingerprinting id credential resume))
    (hsingle : ∀ k' credential' resume',
      s.calls.get? k' = some (.fingerprinting id credential' resume') → k' = k)
    (hanswered : a.answered ≠ some k) : sentOn id (netEvents es) = [] := by
  refine sentOn_eq_nil fun frame hmem => ?_
  obtain ⟨hopen, hsends⟩ := sent_of_transportStep hstep (mem_netEvents.1 hmem)
  cases hsends with
  | reply _ htarget => exact hok.replies k id credential resume hcall hopen htarget
  | welcome hcall' => exact hanswered (congrArg some (hsingle _ _ _ hcall'))
  | beat hheartbeat hactive =>
    exact hok.beats k id credential resume hcall hopen _ _ _ rfl hheartbeat hactive
  | handOut hhands hid => exact hok.handsOut k id credential resume hcall hopen _ _ _ hhands hid

theorem calls (h : AfterAccept c k id credential resume ns s)
    (hok : InOrder cfg s a) (hstep : transportStep cfg s a = some (s', es))
    (hopen : s.net.isOpen id = true) :
    (∀ k' credential' resume',
      s'.calls.get? k' = some (.fingerprinting id credential' resume') → k' = k) ∧
    (s.calls.get? k = none → s'.calls.get? k = none) := by
  have hcore := transportStep_core hstep
  constructor
  · intro k' credential' resume' hcall'
    rcases hcore.get?_calls hcall' with ⟨hold, -⟩ | ⟨-, -, hstarts⟩
    · exact h.single hopen k' credential' resume' hold
    · cases hstarts with
      | fingerprinting hauth hactive =>
        exact absurd ⟨rfl, rfl, hactive, hauth⟩ (h.not_accepts hok hopen)
  · intro hnone
    cases hcall' : s'.calls.get? k with
    | none => rfl
    | some phase =>
      rcases hcore.get?_calls hcall' with ⟨hold, -⟩ | ⟨heq, -⟩
      · rw [hnone] at hold
        cases hold
      · exact absurd h.started (heq ▸ Nat.lt_irrefl _)

theorem welcome (h : AfterAccept c k id credential resume ns s)
    (hinv : HistoryInv cfg (ns₀ ++ ns) s.net) {fingerprint : String}
    (hcall : s.calls.get? k = some (.fingerprinting id credential resume))
    (hstep : transportStep cfg s (.fingerprinted k fingerprint) = some (s', es))
    (hopen : s.net.isOpen id = true) :
    sentOn id (netEvents es) = .authenticated credential fingerprint resume.resumedFromSeq ::
        (framesSent id (netEvents es)).map .sequenced ∧
      ((∃ f, framesSent id (netEvents es) = [f] ∧ f ∈ sequencedFrames c (netEvents es)) ∨
        framesSent id (netEvents es) = resume.replayFrames) := by
  obtain ⟨d, hd, hsocket⟩ := isOpen_iff.1 hopen
  obtain ⟨hactive, hbound⟩ := h.bound d hd hsocket
  simp only [transportStep, hcall] at hstep
  cases hstep
  have hwelcome := hinv.framesSent_welcome hd hsocket hactive hbound k credential fingerprint resume
  rw [netEvents_map, show (s.finish k).net = s.net from rfl]
  refine ⟨hwelcome.1, ?_⟩
  by_cases hrecovery : resume.needsRecovery = true
  · obtain ⟨f, hframes, -, hmem⟩ := hwelcome.2.1 hrecovery
    exact .inl ⟨f, hframes, hmem⟩
  · exact .inr (hwelcome.2.2 hrecovery)

theorem step (h : AfterAccept c k id credential resume ns s)
    (hinv : HistoryInv cfg (ns₀ ++ ns) s.net) (hfresh : s.Fresh) (hok : InOrder cfg s a)
    (hstep : transportStep cfg s a = some (s', es)) :
    AfterAccept c k id credential resume (ns ++ netEvents es) s' := by
  obtain ⟨hexist, hconn⟩ := h.connection hinv hok hstep
  have hcore := transportStep_core hstep
  have hback : s'.net.isOpen id = true → s.net.isOpen id = true := by
    intro hopen'
    obtain ⟨d', hd', hsocket'⟩ := isOpen_iff.1 hopen'
    exact (hconn d' hd' hsocket').1
  constructor
  · exact Nat.lt_of_lt_of_le h.started hcore.started_le
  · exact hexist
  · intro d' hd' hsocket'
    exact (hconn d' hd' hsocket').2
  · intro hopen'
    exact (h.calls hok hstep (hback hopen')).1
  · intro hopen'
    have hopen := hback hopen'
    rw [sentOn_append]
    rcases h.welcomed hopen with ⟨hcall, hnil⟩ | ⟨hgone, hsent⟩
    · by_cases hanswered : a.answered = some k
      · obtain ⟨fingerprint, rfl⟩ := fingerprinted_of_answered hstep hcall hanswered
        refine .inr ⟨?_, ?_⟩
        · cases hcall' : s'.calls.get? k with
          | none => rfl
          | some phase =>
            rcases hcore.get?_calls hcall' with ⟨-, hne⟩ | ⟨heq, -⟩
            · exact absurd rfl hne
            · exact absurd h.started (heq ▸ Nat.lt_irrefl _)
        · rw [(h.welcome hinv hcall hstep hopen).1, hnil]
          exact List.cons_ne_nil _ _
      · refine .inl ⟨hcore.kept hfresh hcall hanswered, ?_⟩
        rw [hnil, silent hok hstep hcall (h.single hopen) hanswered]
        rfl
    · exact .inr ⟨(h.calls hok hstep hopen).2 hgone, List.append_ne_nil_of_left_ne_nil hsent _⟩

end AfterAccept

namespace FramesInOrder

variable {cfg : TransportConfig} {c : String} {k id : Nat} {credential : Snapshot}
  {resume : CredentialReplayState.Resume} {lastSeenSeq : Option Nat} {ns₀ ns : List NetEvent}
  {s s' : TransportState} {a : TransportAction} {es : List TransportEvent}

theorem initial {call : Nat} : FramesInOrder c id call lastSeenSeq ns₀ [] where
  first _ hframe := by cases hframe
  increasing := .nil
  known _ hf := by cases hf

theorem append {call : Nat} (h : FramesInOrder c id call lastSeenSeq ns₀ ns) {ns' : List NetEvent}
    (hfirst : sentOn id ns = [] → ∀ frame, (sentOn id ns').head? = some frame →
      frame.authenticates call)
    (hincreasing : (framesSent id ns').Pairwise fun f g => f.seq < g.seq)
    (hlarger : ∀ f ∈ framesSent id ns, ∀ g ∈ framesSent id ns', f.seq < g.seq)
    (hknown : ∀ f ∈ framesSent id ns', f ∈ sequencedFrames c (ns₀ ++ (ns ++ ns')) ∧
      (f ∈ sequencedFrames c ns₀ → ∃ L, lastSeenSeq = some L ∧ L < f.seq)) :
    FramesInOrder c id call lastSeenSeq ns₀ (ns ++ ns') := by
  constructor
  · intro frame hframe
    rw [sentOn_append] at hframe
    cases hsent : sentOn id ns with
    | nil =>
      rw [hsent] at hframe
      exact hfirst hsent frame hframe
    | cons frame' rest =>
      refine h.first frame ?_
      rw [hsent] at hframe ⊢
      exact hframe
  · rw [framesSent_append]
    exact List.pairwise_append.2 ⟨h.increasing, hincreasing, hlarger⟩
  · intro f hf
    rw [framesSent_append] at hf
    rcases List.mem_append.1 hf with hold | hnew
    · obtain ⟨hmem, hlast⟩ := h.known f hold
      refine ⟨?_, hlast⟩
      rw [← List.append_assoc, sequencedFrames_append]
      exact List.mem_append_left _ hmem
    · exact hknown f hnew

theorem append_of_silent {call : Nat} (h : FramesInOrder c id call lastSeenSeq ns₀ ns)
    {ns' : List NetEvent} (hnil : sentOn id ns' = []) :
    FramesInOrder c id call lastSeenSeq ns₀ (ns ++ ns') := by
  have hframes : framesSent id ns' = [] := by
    unfold framesSent
    rw [hnil]
    rfl
  refine h.append (fun _ frame hframe => ?_) ?_ (fun _ _ g hg => ?_) fun f hf => ?_
  · rw [hnil] at hframe
    cases hframe
  · rw [hframes]
    exact .nil
  · rw [hframes] at hg
    cases hg
  · rw [hframes] at hf
    cases hf

/-- **The frames after a step.** -/
theorem step (h : FramesInOrder c id credential.lookup lastSeenSeq ns₀ ns)
    (hafter : AfterAccept c k id credential resume ns s)
    (hinv : HistoryInv cfg (ns₀ ++ ns) s.net)
    (hreplay : resume.replayFrames.Sublist (sequencedFrames c ns₀) ∧
      ∀ f ∈ resume.replayFrames, ∃ L, lastSeenSeq = some L ∧ L < f.seq)
    (hok : InOrder cfg s a) (hstep : transportStep cfg s a = some (s', es)) :
    FramesInOrder c id credential.lookup lastSeenSeq ns₀ (ns ++ netEvents es) := by
  have hinv' := hinv.run (transportStep_net hstep)
  -- what is sequenced in this step is larger than what has been sequenced before
  have hfresh : ∀ f ∈ sequencedFrames c (netEvents es),
      f ∈ sequencedFrames c (ns₀ ++ (ns ++ netEvents es)) ∧ f ∉ sequencedFrames c ns₀ := by
    intro f hf
    constructor
    · rw [← List.append_assoc, sequencedFrames_append]
      exact List.mem_append_right _ hf
    · intro hold
      have hold' : f ∈ sequencedFrames c (ns₀ ++ ns) := by
        rw [sequencedFrames_append]
        exact List.mem_append_left _ hold
      exact Nat.lt_irrefl _ (hinv'.seq_lt hold' hf)
  by_cases hopen : s.net.isOpen id = true
  · rcases hafter.welcomed hopen with ⟨hcall, hnil⟩ | ⟨hgone, hsent⟩
    · by_cases hanswered : a.answered = some k
      · -- the welcome
        obtain ⟨fingerprint, rfl⟩ := fingerprinted_of_answered hstep hcall hanswered
        obtain ⟨hsent, hframes⟩ := hafter.welcome hinv hcall hstep hopen
        have hnone : framesSent id ns = [] := by
          unfold framesSent
          rw [hnil]
          rfl
        refine h.append (fun _ frame hframe => ?_) ?_ (fun f hf => ?_) fun f hf => ?_
        · rw [hsent] at hframe
          cases hframe
          rfl
        · rcases hframes with ⟨f, heq, -⟩ | heq
          · rw [heq]
            exact List.pairwise_singleton _ _
          · rw [heq]
            have hincreasing := hinv.increasing (c := c)
            rw [sequencedFrames_append] at hincreasing
            exact (List.pairwise_append.1 hincreasing).1.sublist hreplay.1
        · rw [hnone] at hf
          cases hf
        · rcases hframes with ⟨f', heq, hmem⟩ | heq
          · rw [heq] at hf
            rw [List.mem_singleton.1 hf]
            exact ⟨(hfresh f' hmem).1, fun hold => absurd hold (hfresh f' hmem).2⟩
          · rw [heq] at hf
            refine ⟨?_, fun _ => hreplay.2 f hf⟩
            rw [sequencedFrames_append]
            exact List.mem_append_left _ (hreplay.1.subset hf)
      · exact h.append_of_silent
          (AfterAccept.silent hok hstep hcall (hafter.single hopen) hanswered)
    · -- after the welcome every frame is a new one
      obtain ⟨d, hd, hsocket⟩ := isOpen_iff.1 hopen
      have hsub := framesSent_of_transportStep hinv hstep hd (hafter.bound d hd hsocket).2
        fun call fingerprint heq credential' resume' hcall => by
          have hk := hafter.single hopen call credential' resume' hcall
          rw [hk, hgone] at hcall
          cases hcall
      refine h.append (fun hnil => absurd hnil hsent) ?_ (fun f hf g hg => ?_) fun f hf => ?_
      · have hincreasing := hinv'.increasing (c := c)
        rw [sequencedFrames_append] at hincreasing
        exact (List.pairwise_append.1 hincreasing).2.1.sublist hsub
      · exact hinv'.seq_lt (h.known f hf).1 (hsub.subset hg)
      · obtain ⟨hmem, hnot⟩ := hfresh f (hsub.subset hf)
        exact ⟨hmem, fun hold => absurd hold hnot⟩
  · -- a closed connection is sent nothing
    refine h.append_of_silent (sentOn_eq_nil fun frame hmem => hopen ?_)
    exact (sent_of_transportStep hstep (mem_netEvents.1 hmem)).1

end FramesInOrder

/-! ### Origins -/

section Origins

variable {cfg : TransportConfig} {ok : TransportState → TransportAction → Prop}
  {s s' : TransportState} {a : TransportAction} {tr es : List TransportEvent}
  {ns : List NetEvent} {c : String}

/-- A step sequences what it hands out, in this order and at most once. -/
theorem origins_step (hinv : HistoryInv cfg ns s.net) (honce : TakenOnce cfg s a)
    (hstep : transportStep cfg s a = some (s', es)) :
    (origins (sequencedFrames c (netEvents es))).Sublist ((handedOut c es).map (·.number)) := by
  rcases handOut_of_transportStep hstep c with ⟨-, hnone⟩ | ⟨project, bs, pre, s₀, hlast⟩
  · have hnil : origins (sequencedFrames c (netEvents es)) = [] := by
      refine List.filterMap_eq_nil_iff.2 fun f hf => ?_
      rcases sequenced_of_transportStep hinv hstep
        (mem_netEvents.1 (mem_sequencedFrames.1 hf)) with hown | ⟨b, project, hhands⟩
      · exact hown
      · exact absurd hhands (hnone b project)
    rw [hnil]
    exact List.nil_sublist _
  · have hpre : sequencedFrames c (netEvents pre) = [] := by
      refine List.eq_nil_iff_forall_not_mem.2 fun f hf => ?_
      have hquiet := hlast.quiet _ (mem_sequencedFrames.1 hf)
      cases hquiet
    obtain ⟨-, hsub, hhanded, -⟩ := @handOuts_spec cfg _ c project bs s₀ (hinv.run hlast.part)
    have hsingle : ∀ b ∈ bs, (receiversOf s₀.net c project b.event).length ≤ 1 := by
      intro b hb
      rw [hlast.at_handOut]
      exact honce c b project (hlast.hands b hb)
    have horigins := (hsub hsingle).filterMap id
    have hevents : es = pre ++ (Emits.forEach (TransportState.handOut c project) bs s₀).2 :=
      hlast.events
    rw [hevents, netEvents_append, sequencedFrames_append, handedOut_append, hpre,
      hlast.before, hhanded]
    rw [List.filterMap_map, List.filterMap_map] at horigins
    have hnumbers : bs.filterMap (id ∘ fun b => some b.number) = bs.map (·.number) :=
      congrFun List.filterMap_eq_map bs
    rw [hnumbers] at horigins
    exact horigins

/-- **Every broadcast has at most one frame.** -/
theorem origins_nodup (h : Run (transportMachine cfg) ok tr s)
    (honce : ∀ s a, ok s a → TakenOnce cfg s a) :
    (origins (sequencedFrames c (netEvents tr))).Nodup := by
  have hsub : (origins (sequencedFrames c (netEvents tr))).Sublist
      ((handedOut c tr).map (·.number)) := by
    refine h.invariant (I := fun tr _ => (origins (sequencedFrames c (netEvents tr))).Sublist
      ((handedOut c tr).map (·.number))) .slnil fun {tr s a s' es} hrun hI hok hstep => ?_
    rw [netEvents_append, sequencedFrames_append, handedOut_append, List.map_append]
    unfold origins at hI ⊢
    rw [List.filterMap_append]
    exact hI.append (origins_step (historyInv_of_run hrun) (honce s a hok) hstep)
  have hinv : ProtocolInv c tr s := .of_run h
  have hnumbers : ((handedOut c tr).map (·.number)).Nodup := by
    have hpairwise := (@broadcasted_numbers cfg s tr c ok h).1
    rw [← hinv.order, List.map_append] at hpairwise
    exact (List.pairwise_append.1 hpairwise).1.imp Nat.ne_of_lt
  exact hnumbers.sublist hsub

/-- Different frames of a history come from different broadcasts. -/
theorem origins_nodup_of_subset {frames history : List SequencedFrame}
    (hhistory : (origins history).Nodup) (hframes : frames.Nodup)
    (hsub : ∀ f ∈ frames, f ∈ history) : (origins frames).Nodup := by
  have hdifferent : history.Pairwise fun f g => ∀ n, f.origin = some n →
      ∀ n', g.origin = some n' → n ≠ n' := List.pairwise_filterMap.1 hhistory
  have hsymm : Std.Symm fun f g : SequencedFrame => ∀ n, f.origin = some n →
      ∀ n', g.origin = some n' → n ≠ n' := ⟨fun f g h n hn n' hn' heq => h n' hn' n hn heq.symm⟩
  refine List.pairwise_filterMap.2 (hframes.imp_of_mem fun {f g} hf hg hne => ?_)
  exact hdifferent.forall (hsub f hf) (hsub g hg) hne

end Origins

/-! ### Runs -/

/-- A lookup was accepted on an open connection, somewhere in the run. -/
structure OpenAccept (cfg : TransportConfig) (ok : TransportState → TransportAction → Prop)
    (id : Nat) (tr : List TransportEvent) (s : TransportState) : Prop where
  accepted : ∃ tr₀ s₀ a call lastSeenSeq record d s₁ es₁ tr',
    Run (transportMachine cfg) ok tr₀ s₀ ∧ ok s₀ a ∧ Accepts s₀ call id lastSeenSeq record a ∧
      transportStep cfg s₀ a = some (s₁, es₁) ∧ s₀.net.connections.get? id = some d ∧
      d.socketOpen = true ∧ RunFrom (transportMachine cfg) ok s₁ tr' s ∧ tr = tr₀ ++ es₁ ++ tr'

section Runs

variable {cfg : TransportConfig} {ok : TransportState → TransportAction → Prop}
  {s s₀ s₁ : TransportState} {a : TransportAction} {tr tr₀ tr' es : List TransportEvent}
  {id call : Nat} {lastSeenSeq : Option Nat} {record : CredentialRecord} {c : String}

/-- Whoever is sent sequenced frames has been let in before. -/
theorem openAccept_of_sent (h : Run (transportMachine cfg) ok tr s)
    (hsent : framesSent id (netEvents tr) ≠ []) : OpenAccept cfg ok id tr s := by
  have hI : (framesSent id (netEvents tr) ≠ [] ∨ ∃ d, s.net.connections.get? id = some d ∧
      d.socketOpen = true ∧ d.phase ≠ .authenticating) → OpenAccept cfg ok id tr s := by
    refine h.invariant (I := fun tr s => (framesSent id (netEvents tr) ≠ [] ∨
      ∃ d, s.net.connections.get? id = some d ∧ d.socketOpen = true ∧
        d.phase ≠ .authenticating) → OpenAccept cfg ok id tr s) ?_
      fun {tr s a s' es} hrun hI hok hstep hcase => ?_
    · rintro (hne | ⟨d, hd, -⟩)
      · exact absurd rfl hne
      · cases hd
    · have hkeep : OpenAccept cfg ok id tr s → OpenAccept cfg ok id (tr ++ es) s' := by
        rintro ⟨tr₀, s₀, a', call, last, record, d, s₁, es₁, tr', hrun₀, hok', haccepts, hstep₀, hd,
          hopen, hrest, rfl⟩
        exact ⟨tr₀, s₀, a', call, last, record, d, s₁, es₁, tr' ++ es, hrun₀, hok',
          haccepts, hstep₀,
          hd, hopen, hrest.snoc hok hstep, List.append_assoc _ _ _⟩
      rcases hcase with hsent | ⟨d', hd', hopen', hphase'⟩
      · refine hkeep (hI ?_)
        rw [netEvents_append, framesSent_append] at hsent
        by_cases hold : framesSent id (netEvents tr) = []
        · rw [hold, List.nil_append] at hsent
          obtain ⟨f, hf⟩ := List.exists_mem_of_ne_nil _ hsent
          exact .inr (phase_of_sent hrun hstep (mem_netEvents.1 (mem_framesSent.1 hf)))
        · exact .inl hold
      · -- a connection that leaves the authenticating phase is let in
        rcases net_of_transportStep hstep with
          ⟨-, heq⟩ | ⟨call, id', last, record, haccepts, hnet, -⟩ | hshrinks
        · obtain ⟨rfl, -⟩ := Prod.mk.inj heq
          obtain ⟨-, rfl⟩ | ⟨-, hold⟩ := OrdMap.get?_set_eq_some hd'
          · exact absurd rfl hphase'
          · exact hkeep (hI (.inr ⟨d', hold, hopen', hphase'⟩))
        · dsimp only at hnet
          rw [hnet] at hd'
          cases hd : s.net.connections.get? id' with
          | none =>
            rw [Net.accept_of_none hd] at hd'
            exact hkeep (hI (.inr ⟨d', hd', hopen', hphase'⟩))
          | some d =>
            rw [Net.accept_of_some hd] at hd'
            obtain ⟨rfl, rfl⟩ | ⟨-, hold⟩ := OrdMap.get?_set_eq_some hd'
            · exact ⟨tr, s, a, call, last, record, d, s', es, [], hrun, hok, haccepts, hstep, hd,
                hopen', .nil, (List.append_nil _).symm⟩
            · exact hkeep (hI (.inr ⟨d', hold, hopen', hphase'⟩))
        · obtain ⟨d, hd, hbelow⟩ := hshrinks.connections hd'
          obtain ⟨hopen, hphase⟩ := hbelow.isOpen hopen'
          exact hkeep (hI (.inr ⟨d, hd, hopen, hphase ▸ hphase'⟩))
  exact hI (.inl hsent)

/-- **What follows an accepted lookup.** -/
theorem afterAccept_of_run (h : Run (transportMachine cfg) (InOrder cfg) tr₀ s₀)
    (hok : InOrder cfg s₀ a) (haccepts : Accepts s₀ call id lastSeenSeq record a)
    (hstep : transportStep cfg s₀ a = some (s₁, es)) {d : ConnectionData}
    (hd : s₀.net.connections.get? id = some d) (hopen : d.socketOpen = true)
    (hrest : RunFrom (transportMachine cfg) (InOrder cfg) s₁ tr' s) :
    AfterAccept record.credentialId s₀.started id ⟨record, call⟩
      ((s₀.net.getOrCreateCredentialState cfg record.credentialId).resume lastSeenSeq)
      (netEvents tr') s ∧
    FramesInOrder record.credentialId id call lastSeenSeq (netEvents (tr₀ ++ es))
      (netEvents tr') := by
  have hrun₁ := h.snoc hok hstep
  have hhistory := historyInv_of_run h
  obtain ⟨hcall, hstarted⟩ := calls_of_accepts hstep haccepts
  have hauth := hok.accepts call id lastSeenSeq record d haccepts hd hopen
  obtain ⟨d₀, hd₀, hd₁, -⟩ := connection_of_accepts h hstep haccepts
  cases hd.symm.trans hd₀
  have hreplay := hhistory.replayFrames (c := record.credentialId) lastSeenSeq
  have hreplay' : ((s₀.net.getOrCreateCredentialState cfg record.credentialId).resume
      lastSeenSeq).replayFrames.Sublist
        (sequencedFrames record.credentialId (netEvents (tr₀ ++ es))) := by
    rw [netEvents_append, sequencedFrames_append]
    exact hreplay.1.trans (List.sublist_append_left _ _)
  refine hrest.invariant (I := fun tr' s => AfterAccept record.credentialId s₀.started id
      ⟨record, call⟩ _ (netEvents tr') s ∧ FramesInOrder record.credentialId id call lastSeenSeq
        (netEvents (tr₀ ++ es)) (netEvents tr'))
    (fun {tr' s a s' es'} hrun hI hok' hstep' => ?_) ⟨?_, .initial⟩
  · have hrun' := hrun₁.extend hrun
    have hinv := historyInv_of_run hrun'
    rw [netEvents_append] at hinv
    rw [netEvents_append]
    exact ⟨hI.1.step hinv (fresh_of_run hrun') hok' hstep',
      hI.2.step hI.1 hinv ⟨hreplay', hreplay.2⟩ hok' hstep'⟩
  · constructor
    · rw [hstarted]
      exact Nat.lt_succ_self _
    · exact ⟨_, hd₁⟩
    · intro d' hd' _
      cases hd₁.symm.trans hd'
      refine ⟨?_, rfl⟩
      show (if d.phase = .authenticating then ConnectionPhase.active else d.phase) = _
      exact if_pos hauth
    · intro _ k' credential' resume' hcall'
      rcases (transportStep_core hstep).get?_calls hcall' with ⟨hold, -⟩ | ⟨heq, -⟩
      · obtain ⟨d', hd', hphase⟩ := known_of_fingerprinting h hold
        cases hd.symm.trans hd'
        exact absurd hauth hphase
      · exact heq
    · intro _
      exact .inl ⟨hcall, rfl⟩

theorem sentOn_of_closed (h : Run (transportMachine cfg) ok tr s₁)
    (hrest : RunFrom (transportMachine cfg) ok s₁ tr' s) {d : ConnectionData}
    (hd : s₁.net.connections.get? id = some d) (hclosed : d.socketOpen ≠ true) :
    sentOn id (netEvents tr') = [] := by
  refine hrest.invariant (I := fun tr' _ => sentOn id (netEvents tr') = [])
    (fun {tr' s a s' es} hrun hI _ hstep => ?_) rfl
  rw [netEvents_append, sentOn_append, hI, List.nil_append]
  refine sentOn_eq_nil fun frame hmem => ?_
  have hopen := (sent_of_transportStep hstep (mem_netEvents.1 hmem)).1
  obtain ⟨d', hd', hopen'⟩ := isOpen_iff.1 hopen
  obtain ⟨d₂, hd₂, -, hback⟩ := connection_of_runFrom h hrun hd
  cases hd'.symm.trans hd₂
  exact hclosed (hback hopen')

/-- The run around an accepted lookup. -/
theorem split_accepted {before after : List TransportEvent} (h : Run (transportMachine cfg) ok tr s)
    (htr : tr = before ++ .net (.accepted id call c lastSeenSeq) :: after) :
    ∃ s₀ a s₁ record d rest, Run (transportMachine cfg) ok before s₀ ∧ ok s₀ a ∧
      Accepts s₀ call id lastSeenSeq record a ∧ record.credentialId = c ∧
      transportStep cfg s₀ a =
        some (s₁, [.net (.accepted id call c lastSeenSeq), .net (.cached id call)]) ∧
      s₀.net.connections.get? id = some d ∧ RunFrom (transportMachine cfg) ok s₁ rest s ∧
      after = .net (.cached id call) :: rest := by
  obtain ⟨tr₀, s₀, a, s₁, es₁, es₂, rest, hrun, hok, hstep, hrest, rfl, rfl⟩ := h.split htr
  obtain ⟨record, d, haccepts, rfl, hd⟩ :=
    @accepted_of_transportStep cfg s₀ a _ id call c lastSeenSeq hstep
      (List.mem_append_right es₁ List.mem_cons_self)
  obtain ⟨-, hevents⟩ := @net_of_accepts cfg s₀ a call id lastSeenSeq record _ hstep haccepts
  rw [Net.accept_of_some hd] at hevents
  replace hevents : es₁ ++ .net (.accepted id call record.credentialId lastSeenSeq) :: es₂ =
      [.net (.accepted id call record.credentialId lastSeenSeq), .net (.cached id call)] := hevents
  cases es₁ with
  | nil =>
    cases hevents
    rw [List.append_nil]
    exact ⟨s₀, a, s₁, record, d, rest, hrun, hok, haccepts, rfl, hstep, hd, hrest, rfl⟩
  | cons e es₁ =>
    -- the event is the first one of the step
    obtain ⟨-, htail⟩ := List.cons.inj hevents
    cases es₁ with
    | nil => cases htail
    | cons e' es₁ =>
      have hnil := (List.cons.inj htail).2
      cases es₁ <;> cases hnil

theorem first_of_run (h : Run (transportMachine cfg) (InOrder cfg) tr s)
    {before after : List TransportEvent}
    (htr : tr = before ++ .net (.accepted id call c lastSeenSeq) :: after) {frame : ServerFrame}
    (hframe : (sentOn id (netEvents after)).head? = some frame) : frame.authenticates call := by
  obtain ⟨s₀, a, s₁, record, d, rest, hrun, hok, haccepts, -, hstep, hd, hrest, rfl⟩ :=
    split_accepted h htr
  have hrest_sent : sentOn id (netEvents (.net (.cached id call) :: rest)) =
      sentOn id (netEvents rest) := rfl
  rw [hrest_sent] at hframe
  by_cases hopen : d.socketOpen = true
  · have hafter := afterAccept_of_run hrun hok haccepts hstep hd hopen hrest
    exact hafter.2.first frame hframe
  · obtain ⟨d₀, hd₀, hd₁, -⟩ := connection_of_accepts hrun hstep haccepts
    cases hd.symm.trans hd₀
    rw [sentOn_of_closed (hrun.snoc hok hstep) hrest hd₁ hopen] at hframe
    cases hframe

theorem not_openAccept (h : Run (transportMachine cfg) (InOrder cfg) tr₀ s₀)
    (hok : InOrder cfg s₀ a) (haccepts : Accepts s₀ call id lastSeenSeq record a)
    {d : ConnectionData} (hd : s₀.net.connections.get? id = some d) (hopen : d.socketOpen = true) :
    ¬ OpenAccept cfg (InOrder cfg) id tr₀ s₀ := by
  rintro ⟨tr, s, a', call', last', record', d', s', es', rest, hrun, hok', haccepts', hstep', hd',
    hopen', hrest, rfl⟩
  have hafter := (afterAccept_of_run hrun hok' haccepts' hstep' hd' hopen' hrest).1
  have hactive := (hafter.bound d hd hopen).1
  rw [hok.accepts call id lastSeenSeq record d haccepts hd hopen] at hactive
  cases hactive

theorem increasing_of_run (h : Run (transportMachine cfg) (InOrder cfg) tr s) (id : Nat) :
    (framesSent id (netEvents tr)).Pairwise fun f g => f.seq < g.seq := by
  by_cases hsent : framesSent id (netEvents tr) = []
  · rw [hsent]
    exact .nil
  obtain ⟨tr₀, s₀, a, call, last, record, d, s₁, es, rest, hrun, hok, haccepts, hstep, hd, hopen,
    hrest, rfl⟩ := openAccept_of_sent h hsent
  have hbefore : framesSent id (netEvents tr₀) = [] := by
    by_contra hne
    exact not_openAccept hrun hok haccepts hd hopen (openAccept_of_sent hrun hne)
  have haccept : framesSent id (netEvents es) = [] := by
    obtain ⟨-, hevents⟩ := net_of_accepts hstep haccepts
    rw [Net.accept_of_some hd] at hevents
    dsimp only at hevents
    rw [hevents]
    rfl
  rw [netEvents_append, netEvents_append, framesSent_append, framesSent_append, hbefore, haccept]
  exact (afterAccept_of_run hrun hok haccepts hstep hd hopen hrest).2.increasing

/-- What is sent after an accepted lookup: frames of the credential, each with its own number, and
of those from before the acceptance only what the client has not seen. -/
theorem framesSent_of_accepted (h : Run (transportMachine cfg) (InOrder cfg) tr s)
    {before after : List TransportEvent}
    (htr : tr = before ++ .net (.accepted id call c lastSeenSeq) :: after) :
    (framesSent id (netEvents after)).Nodup ∧ ∀ f ∈ framesSent id (netEvents after),
      f ∈ sequencedFrames c (netEvents tr) ∧
        (f ∈ sequencedFrames c (netEvents before) → ∃ L, lastSeenSeq = some L ∧ L < f.seq) := by
  obtain ⟨s₀, a, s₁, record, d, rest, hrun, hok, haccepts, rfl, hstep, hd, hrest, rfl⟩ :=
    split_accepted h htr
  have hrest_sent : framesSent id (netEvents (.net (.cached id call) :: rest)) =
      framesSent id (netEvents rest) := rfl
  rw [hrest_sent]
  by_cases hopen : d.socketOpen = true
  · have hframes := (afterAccept_of_run hrun hok haccepts hstep hd hopen hrest).2
    refine ⟨hframes.increasing.imp fun {f g} hlt heq => ?_, fun f hf => ?_⟩
    · rw [heq] at hlt
      exact Nat.lt_irrefl _ hlt
    · obtain ⟨hmem, hnew⟩ := hframes.known f hf
      refine ⟨?_, fun hold => hnew ?_⟩
      · have hwhole : tr = before ++ [.net (.accepted id call record.credentialId lastSeenSeq),
            .net (.cached id call)] ++ rest := by
          rw [htr, List.append_assoc]
          rfl
        rw [hwhole, netEvents_append]
        exact hmem
      · rw [netEvents_append, sequencedFrames_append]
        exact List.mem_append_left _ hold
  · obtain ⟨d₀, hd₀, hd₁, -⟩ := connection_of_accepts hrun hstep haccepts
    cases hd.symm.trans hd₀
    have hnone : framesSent id (netEvents rest) = [] := by
      unfold framesSent
      rw [sentOn_of_closed (hrun.snoc hok hstep) hrest hd₁ hopen]
      rfl
    rw [hnone]
    exact ⟨List.nodup_nil, nofun⟩

/-- A client that comes back with what it has seen gets no broadcast twice. -/
theorem once_of_run (h : Run (transportMachine cfg) (InOrder cfg) tr s) {id' call' : Nat}
    {lastSeenSeq' : Option Nat} {before seen away after : List TransportEvent}
    (htr : tr = before ++ .net (.accepted id call c lastSeenSeq) :: seen ++ away ++
      .net (.accepted id' call' c lastSeenSeq') :: after)
    (hseen : ∀ f ∈ framesSent id (netEvents seen), ∃ L, lastSeenSeq' = some L ∧ f.seq ≤ L) :
    (origins (framesSent id (netEvents seen) ++ framesSent id' (netEvents after))).Nodup := by
  -- the second acceptance ends the run in which the first one is
  obtain ⟨s₀, a, s₁, record, d, rest, hrun, -⟩ := split_accepted h htr
  obtain ⟨hnodup, hnew⟩ := framesSent_of_accepted h htr
  have hfirst : before ++ .net (.accepted id call c lastSeenSeq) :: seen ++ away =
      before ++ .net (.accepted id call c lastSeenSeq) :: (seen ++ away) :=
    List.append_assoc _ _ _
  obtain ⟨hnodup₀, hold⟩ := framesSent_of_accepted hrun hfirst
  rw [netEvents_append, framesSent_append] at hnodup₀ hold
  have hseen_old : ∀ f ∈ framesSent id (netEvents seen), f ∈ sequencedFrames c (netEvents
      (before ++ .net (.accepted id call c lastSeenSeq) :: seen ++ away)) :=
    fun f hf => (hold f (List.mem_append_left _ hf)).1
  refine origins_nodup_of_subset
    (origins_nodup h (c := c) fun _ _ hok => hok.once) ?_ fun f hf => ?_
  · refine List.nodup_append.2 ⟨(List.nodup_append.1 hnodup₀).1, hnodup, ?_⟩
    rintro f hf _ hf' rfl
    obtain ⟨L, rfl, hle⟩ := hseen f hf
    obtain ⟨L', heq, hlt⟩ := (hnew f hf').2 (hseen_old f hf)
    cases heq
    exact absurd hle (Nat.not_le_of_lt hlt)
  · rcases List.mem_append.1 hf with hf | hf
    · rw [htr, netEvents_append, sequencedFrames_append]
      exact List.mem_append_left _ (hseen_old f hf)
    · exact (hnew f hf).1

end Runs

/-- **The order of frames on a client**, in every run whose steps come in order. -/
theorem frame_order (cfg : TransportConfig) {tr : List TransportEvent} {s : TransportState}
    (h : Run (transportMachine cfg) (InOrder cfg) tr s) : FrameOrder tr where
  first _ _ _ _ _ _ htr _ hframe := first_of_run h htr hframe
  increasing id := increasing_of_run h id
  once _ _ _ _ _ _ _ _ _ _ _ htr hseen := once_of_run h htr hseen

/-- Nothing else happens during an authentication, and a credential has one connection. -/
def oneAfterTheOther (s : TransportState) : TransportAction → Bool
  | .looked call (.ok record) _ =>
    match s.calls.get? call with
    | some (.authenticating connectionId _) => record.status == .active &&
        (s.net.connections.get? connectionId).all (·.phase == .authenticating)
    | _ => false
  | .authFrame _ frame => frame.isSome
  | .broadcast credentialId event project =>
    s.calls.isEmpty && (receiversOf s.net credentialId project event).length ≤ 1
  | .connect | .fingerprinted .. | .close _ => true
  | _ => false

theorem inOrder_of_oneAfterTheOther {cfg : TransportConfig} {s : TransportState}
    {a : TransportAction} (h : oneAfterTheOther s a = true) : InOrder cfg s a := by
  have hlooked : ∀ call answer project, a = .looked call answer project →
      ∃ record id last, answer = .ok record ∧ record.status = .active ∧
        s.calls.get? call = some (.authenticating id last) ∧
        (s.net.connections.get? id).all (·.phase == .authenticating) = true := by
    rintro call answer project rfl
    cases answer with
    | ok record =>
      unfold oneAfterTheOther at h
      dsimp only at h
      split at h
      · next id last hcall =>
        obtain ⟨hactive, hphase⟩ := Bool.and_eq_true_iff.1 h
        exact ⟨record, id, last, rfl, eq_of_beq hactive, hcall, hphase⟩
      · cases h
    | _ => cases h
  have hhandsOut : ∀ c b project, HandsOut s a c b project → s.calls.isEmpty = true ∧
      (receiversOf (handOutNet cfg s a) c project b.event).length ≤ 1 := by
    rintro c b project (@⟨_, event, _, hnone⟩ | ⟨hcall, -, -, -⟩)
    · obtain ⟨hempty, hreceivers⟩ := Bool.and_eq_true_iff.1 h
      exact ⟨hempty, of_decide_eq_true hreceivers⟩
    · obtain ⟨record, id, last, -, -, hcall', -⟩ := hlooked _ _ _ rfl
      cases hcall.symm.trans hcall'
  constructor
  · intro call id last record d haccepts hd _
    cases a with
    | looked call' answer project =>
      obtain ⟨rfl, -, -, hcall⟩ := haccepts
      obtain ⟨record', id', last', -, -, hcall', hphase⟩ := hlooked _ _ _ rfl
      cases hcall.symm.trans hcall'
      rw [hd] at hphase
      exact eq_of_beq hphase
    | _ => exact haccepts.elim
  · intro call id credential resume _ _ htarget
    cases a with
    | looked call' answer project =>
      obtain ⟨record, id', last, rfl, hactive, hcall, -⟩ := hlooked _ _ _ rfl
      simp only [replyTarget, hcall, Option.bind_some, TransportCall.replyTarget,
        if_pos hactive] at htarget
      cases htarget
    | authFrame id' frame =>
      cases frame with
      | none => cases h
      | some frame => cases htarget
    | connect => cases htarget
    | fingerprinted call' fingerprint => cases htarget
    | close id' => cases htarget
    | broadcast c e project => cases htarget
    | _ => cases h
  · intro call id credential resume _ _ lookup record project heq hheartbeat
    obtain ⟨record', id', last, -, -, hcall', -⟩ := hlooked _ _ _ heq
    cases hheartbeat.symm.trans hcall'
  · intro call id credential resume hcall _ c b project hhands
    rw [OrdMap.get?_of_isEmpty (hhandsOut c b project hhands).1] at hcall
    cases hcall
  · intro c b project hhands
    exact (hhandsOut c b project hhands).2

/-- A client sees the first of two broadcasts and comes back for the second. -/
theorem frame_order_reconnected :
    ∃ tr s, Run (transportMachine ⟨2, true⟩) (InOrder ⟨2, true⟩) tr s ∧
      framesSent 0 (netEvents tr) = [⟨1, .other "message.visible", some 0⟩] ∧
      framesSent 1 (netEvents tr) = [⟨2, .other "message.deleted", some 1⟩] ∧ FrameOrder tr := by
  obtain ⟨tr, s, hrun, htest⟩ := exists_run_of_exec (transportMachine ⟨2, true⟩) oneAfterTheOther
    (openAuthenticated 0 0 none ++
      [.broadcast "cred_1" (.other "message.visible") passAll, .close 0, .connect,
        .authFrame 1 (some ⟨"token", some 1⟩), .looked 2 (.ok oneChatRecord) passAll,
        .fingerprinted 3 "sha256:00", .broadcast "cred_1" (.other "message.deleted") passAll])
    (fun tr _ => decide (framesSent 0 (netEvents tr) = [⟨1, .other "message.visible", some 0⟩]) &&
      decide (framesSent 1 (netEvents tr) = [⟨2, .other "message.deleted", some 1⟩]))
    (by decide +kernel)
  obtain ⟨hfirst, hsecond⟩ := Bool.and_eq_true_iff.1 htest
  have hrun' : Run (transportMachine ⟨2, true⟩) (InOrder ⟨2, true⟩) tr s :=
    hrun.mono fun _ _ => inOrder_of_oneAfterTheOther
  exact ⟨tr, s, hrun', of_decide_eq_true hfirst, of_decide_eq_true hsecond,
    frame_order ⟨2, true⟩ hrun'⟩

/-- The first frame that is sent to the first connection is the broadcast. -/
def sequencedFirst : List TransportEvent → Bool
  | .net (.accepted 0 0 "cred_1" none) :: after =>
    decide ((sentOn 0 (netEvents after)).head? =
      some (.sequenced ⟨1, .other "message.visible", some 0⟩))
  | _ => false

/-- A broadcast while the fingerprint is awaited is sent before the authenticated frame. -/
theorem broadcast_before_welcome :
    ∃ tr s, Run (transportMachine ⟨2, true⟩) (fun _ _ => True) tr s ∧ ¬ FrameOrder tr := by
  obtain ⟨tr, s, hrun, htest⟩ := exists_run_of_exec_of_forall (transportMachine ⟨2, true⟩)
    (fun _ _ => True)
    [.connect, .authFrame 0 (some ⟨"token", none⟩), .looked 0 (.ok oneChatRecord) passAll,
      .broadcast "cred_1" (.other "message.visible") passAll, .fingerprinted 1 "sha256:00"]
    (fun tr _ => sequencedFirst tr) (fun _ _ _ => trivial) (by decide)
  refine ⟨tr, s, hrun, fun horder => ?_⟩
  unfold sequencedFirst at htest
  split at htest
  · next after =>
    exact horder.first [] after 0 0 "cred_1" none rfl _ (of_decide_eq_true htest)
  · cases htest

end Signet.Ws
