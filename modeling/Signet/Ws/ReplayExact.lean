import Signet.Ws.ReplayHistory

/-!
# Exact replay

What authentication sends to a client that has seen the frames up to some number
(`replay_exact`): if one of the later frames is not in the buffer any more, the recovery signal,
and otherwise exactly these frames. It is decided when the token lookup is accepted; whatever
happens until the fingerprint is there makes no difference.
-/

namespace Signet.Ws

open Lib

/-- The frames of a credential after a number. -/
def framesAfter (c : String) (lastSeen : Nat) (ns : List NetEvent) : List SequencedFrame :=
  (sequencedFrames c ns).filter fun f => decide (lastSeen < f.seq)

/-- One of them is not in the buffer any more. -/
def Evicted (cfg : TransportConfig) (c : String) (lastSeen : Nat) (ns : List NetEvent)
    (net : Net) : Prop :=
  ∃ f ∈ framesAfter c lastSeen ns,
    f ∉ (net.getOrCreateCredentialState cfg c).buffer.toArray

section Decision

variable {cfg : TransportConfig} {ns : List NetEvent} {net : Net} {c : String} {lastSeen : Nat}

/-- The numbers of the frames to replay. -/
theorem HistoryInv.framesAfter_seq (h : HistoryInv cfg ns net) :
    (framesAfter c lastSeen ns).map (·.seq) =
      List.range' (lastSeen + 1) ((sequencedFrames c ns).length - lastSeen) := by
  obtain ⟨events, -, hframes⟩ := h.history c
  unfold framesAfter
  rw [hframes, CredentialReplayState.filter_frames, CredentialReplayState.map_seq_drop,
    CredentialReplayState.frames_length]

theorem HistoryInv.resume (h : HistoryInv cfg ns net)
    (hlast : lastSeen < (net.getOrCreateCredentialState cfg c).nextSeq) :
    (Evicted cfg c lastSeen ns net →
      (net.getOrCreateCredentialState cfg c).resume (some lastSeen) = ⟨true, [], none⟩) ∧
    (¬ Evicted cfg c lastSeen ns net →
      (net.getOrCreateCredentialState cfg c).resume (some lastSeen) =
        ⟨false, framesAfter c lastSeen ns,
          if (framesAfter c lastSeen ns).isEmpty then none else some lastSeen⟩) := by
  obtain ⟨events, hafter, hframes⟩ := h.history c
  have hle : lastSeen ≤ events.length := by
    rw [hafter, CredentialReplayState.after_eq] at hlast
    exact Nat.lt_succ_iff.1 hlast
  have hevicted : Evicted cfg c lastSeen ns net ↔
      lastSeen < events.length - cfg.replayBufferSize := by
    rw [← CredentialReplayState.evicted_iff hle]
    unfold Evicted framesAfter
    rw [hafter, hframes]
    simp only [List.mem_filter, decide_eq_true_eq, and_assoc]
  rw [hafter] at hlast
  rw [hafter, CredentialReplayState.resume_after hlast]
  constructor
  · intro hmissing
    exact if_pos (hevicted.1 hmissing)
  · intro hkept
    rw [if_neg (fun hlt => hkept (hevicted.2 hlt))]
    have hheld : events.length - cfg.replayBufferSize ≤ lastSeen :=
      Nat.le_of_not_lt fun hlt => hkept (hevicted.2 hlt)
    have hreplay := @CredentialReplayState.replaySince_eq cfg.replayBufferSize events lastSeen hheld
    have hfilter : framesAfter c lastSeen ns =
        (CredentialReplayState.frames events).drop lastSeen := by
      unfold framesAfter
      rw [hframes, CredentialReplayState.filter_frames]
    rw [hfilter, ← hreplay]
    rfl

end Decision

/-- **Replay is exact.** -/
theorem replay_exact (cfg : TransportConfig) {tr tr' es es' : List TransportEvent}
    {s s₁ s₂ s₃ : TransportState} {a : TransportAction} {call id lastSeen : Nat}
    {record : CredentialRecord} {fingerprint : String}
    (h : Run (transportMachine cfg) (fun _ _ => True) tr s)
    (haccepts : Accepts s call id (some lastSeen) record a)
    (hlast : lastSeen < (s.net.getOrCreateCredentialState cfg record.credentialId).nextSeq)
    (hstep : transportStep cfg s a = some (s₁, es))
    (hmeanwhile : RunFrom (transportMachine cfg) (fun _ _ => True) s₁ tr' s₂)
    (hopen : s₂.net.isOpen id = true)
    (hwelcome : transportStep cfg s₂ (.fingerprinted s.started fingerprint) = some (s₃, es')) :
    (Evicted cfg record.credentialId lastSeen (netEvents tr) s.net →
      ∃ f, f.event = .other "signet.recovery.complete" ∧ sentOn id (netEvents es') =
        [.authenticated ⟨record, call⟩ fingerprint none, .sequenced f]) ∧
    (¬ Evicted cfg record.credentialId lastSeen (netEvents tr) s.net →
      sentOn id (netEvents es') =
        .authenticated ⟨record, call⟩ fingerprint
            (if (framesAfter record.credentialId lastSeen (netEvents tr)).isEmpty then none
              else some lastSeen) ::
          (framesAfter record.credentialId lastSeen (netEvents tr)).map .sequenced) ∧
    (framesAfter record.credentialId lastSeen (netEvents tr)).map (·.seq) =
      List.range' (lastSeen + 1)
        ((sequencedFrames record.credentialId (netEvents tr)).length - lastSeen) := by
  have hhistory := historyInv_of_run h
  obtain ⟨hrecovery, hreplay⟩ := hhistory.resume hlast
  obtain ⟨hcall, hstarted⟩ := calls_of_accepts hstep haccepts
  have hrun₁ := h.snoc trivial hstep
  have hrun₂ := hrun₁.extend hmeanwhile
  -- the call still carries the decision
  obtain ⟨resume, hcall₂, hevents⟩ : ∃ resume,
      s₂.calls.get? s.started = some (.fingerprinting id ⟨record, call⟩ resume) ∧
      resume = (s.net.getOrCreateCredentialState cfg record.credentialId).resume (some lastSeen) ∧
      netEvents es' = (welcome id s.started ⟨record, call⟩ fingerprint resume s₂.net).2 := by
    simp only [transportStep] at hwelcome
    split at hwelcome
    · next id' credential' resume' hcall' =>
      have hsame := call_of_runFrom hmeanwhile (by omega) hcall'
      rw [hcall] at hsame
      cases hsame
      cases hwelcome
      exact ⟨_, hcall', rfl, netEvents_map _⟩
    · cases hwelcome
  obtain ⟨rfl, hevents⟩ := hevents
  -- the connection is bound when it is welcomed
  obtain ⟨d, -, hd₁, hphase₁⟩ := connection_of_accepts h hstep haccepts
  obtain ⟨d₂, hd₂, hphase₂, -⟩ := connection_of_runFrom hrun₁ hmeanwhile hd₁
  have hopen₂ : d₂.socketOpen = true := by
    unfold Net.isOpen at hopen
    rwa [hd₂, Option.any_some] at hopen
  refine ⟨fun hmissing => ?_, fun hkept => ?_, hhistory.framesAfter_seq⟩
  · obtain ⟨c, st, -, -, hsequenced⟩ := (historyInv_of_run hrun₂).sendSequenced_of_open
      (.other "signet.recovery.complete", none) hd₂ hopen₂ (hphase₂ hphase₁)
    refine ⟨st.frame (.other "signet.recovery.complete", none), rfl, ?_⟩
    rw [hevents, hrecovery hmissing, welcome_events hopen, if_pos rfl, hsequenced, sentOn_cons_self,
      sentOn_cons_sequenced, sentOn_cons_self, sentOn_nil]
  · rw [hevents, hreplay hkept, welcome_events hopen, if_neg Bool.false_ne_true, sentOn_cons_self,
      sentOn_map_sequenced]

/-- Two broadcasts, the first of which the client has seen. -/
def resumeAfterBroadcasts : List TransportAction :=
  openAuthenticated 0 0 none ++
    [.broadcast "cred_1" (.other "message.visible") passAll,
      .broadcast "cred_1" (.other "message.deleted") passAll, .close 0,
      .connect, .authFrame 1 (some ⟨"token", some 1⟩)]

/-- The client has said which frame it saw last. -/
def isResuming : TransportCall → Bool
  | .authenticating 1 (some 1) => true
  | _ => false

/-- The second connection is let in, stays open and is welcomed. -/
def welcomesSecond (s : TransportState) : Bool :=
  match transportStep ⟨2, true⟩ s (.looked 2 (.ok oneChatRecord) passAll) with
  | none => false
  | some (s₁, _) => s₁.net.isOpen 1 &&
    (transportStep ⟨2, true⟩ s₁ (.fingerprinted s.started "sha256:00")).isSome

/-- The client comes back and is sent the second one. -/
theorem replay_exact_resumed :
    ∃ tr s s₁ s₂ es es', Run (transportMachine ⟨2, true⟩) (fun _ _ => True) tr s ∧
      transportStep ⟨2, true⟩ s (.looked 2 (.ok oneChatRecord) passAll) = some (s₁, es) ∧
      transportStep ⟨2, true⟩ s₁ (.fingerprinted s.started "sha256:00") = some (s₂, es') ∧
      framesAfter "cred_1" 1 (netEvents tr) = [⟨2, .other "message.deleted", some 1⟩] ∧
      sentOn 1 (netEvents es') =
        [.authenticated ⟨oneChatRecord, 2⟩ "sha256:00" (some 1),
          .sequenced ⟨2, .other "message.deleted", some 1⟩] := by
  obtain ⟨tr, s, hrun, htest⟩ := exists_run_of_exec_of_forall (transportMachine ⟨2, true⟩)
    (fun _ _ => True) resumeAfterBroadcasts
    (fun tr s => (s.calls.get? 2).any isResuming &&
      decide (1 < (s.net.getOrCreateCredentialState ⟨2, true⟩ "cred_1").nextSeq) &&
      decide (framesAfter "cred_1" 1 (netEvents tr) = [⟨2, .other "message.deleted", some 1⟩]) &&
      ((s.net.getOrCreateCredentialState ⟨2, true⟩ "cred_1").buffer.toArray.contains
        ⟨2, .other "message.deleted", some 1⟩) &&
      welcomesSecond s)
    (fun _ _ _ => trivial) (by decide)
  simp only [Bool.and_eq_true, decide_eq_true_eq] at htest
  obtain ⟨⟨⟨⟨hcall, hlast⟩, hframes⟩, hheld⟩, hsteps⟩ := htest
  obtain ⟨phase, hphase, hmatches⟩ := (Option.any_eq_true _ _).1 hcall
  have haccepts : Accepts s 2 1 (some 1) oneChatRecord (.looked 2 (.ok oneChatRecord) passAll) := by
    refine ⟨rfl, rfl, rfl, ?_⟩
    rw [hphase]
    unfold isResuming at hmatches
    split at hmatches
    · rfl
    · cases hmatches
  unfold welcomesSecond at hsteps
  split at hsteps
  · cases hsteps
  · next s₁ es hstep =>
    rw [Bool.and_eq_true] at hsteps
    obtain ⟨⟨s₂, es'⟩, hwelcome⟩ := Option.isSome_iff_exists.1 hsteps.2
    obtain ⟨-, hreplay, -⟩ :=
      replay_exact ⟨2, true⟩ hrun haccepts hlast hstep .nil hsteps.1 hwelcome
    refine ⟨tr, s, s₁, s₂, es, es', hrun, hstep, hwelcome, hframes, ?_⟩
    have hkept : ¬ Evicted ⟨2, true⟩ "cred_1" 1 (netEvents tr) s.net := by
      rintro ⟨f, hf, hmissing⟩
      rw [hframes] at hf
      rw [List.mem_singleton.1 hf] at hmissing
      exact hmissing (List.contains_iff_mem.1 hheld)
    rw [hreplay hkept]
    show ServerFrame.authenticated _ _ (if (framesAfter "cred_1" 1 (netEvents tr)).isEmpty then none
      else some 1) :: (framesAfter "cred_1" 1 (netEvents tr)).map .sequenced = _
    rw [hframes]
    rfl

end Signet.Ws
