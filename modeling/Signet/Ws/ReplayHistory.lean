import Signet.Ws.TransportCalls

/-!
# The history of a credential

The frames of a credential are numbered in the order in which they come into the trace, and its
replay state is that of this history (`HistoryInv`, in every run). An open connection is bound to
a credential exactly if it is active, and then it is in the registry.

After an accepted token lookup the call that awaits the fingerprint carries the decision what to
replay until the fingerprint is there (`calls_of_accepts`, `call_of_runFrom`).
-/

namespace Signet.Ws

open Lib

/-! ### Frames in a trace -/

/-- The frames that are sequenced for a credential. -/
def sequencedFrames (c : String) (ns : List NetEvent) : List SequencedFrame :=
  ns.filterMap fun
    | .sequenced c' f => if c' = c then some f else none
    | _ => none

/-- What is sent on a connection. -/
def sentOn (id : Nat) (ns : List NetEvent) : List ServerFrame :=
  ns.filterMap fun
    | .sent id' frame => if id' = id then some frame else none
    | _ => none

def ServerFrame.sequenced? : ServerFrame → Option SequencedFrame
  | sequenced f => some f
  | _ => none

/-- The sequenced frames that are sent on a connection, replayed ones included. -/
def framesSent (id : Nat) (ns : List NetEvent) : List SequencedFrame :=
  (sentOn id ns).filterMap (·.sequenced?)

section Frames

variable {c : String} {id : Nat} {ns ns' : List NetEvent} {f : SequencedFrame}
  {frame : ServerFrame}

theorem sequencedFrames_append :
    sequencedFrames c (ns ++ ns') = sequencedFrames c ns ++ sequencedFrames c ns' :=
  List.filterMap_append

theorem sentOn_append : sentOn id (ns ++ ns') = sentOn id ns ++ sentOn id ns' :=
  List.filterMap_append

theorem framesSent_append : framesSent id (ns ++ ns') = framesSent id ns ++ framesSent id ns' := by
  unfold framesSent
  rw [sentOn_append, List.filterMap_append]

theorem mem_sequencedFrames : f ∈ sequencedFrames c ns ↔ .sequenced c f ∈ ns := by
  constructor
  · intro h
    obtain ⟨e, hmem, heq⟩ := List.mem_filterMap.1 h
    cases e with
    | sequenced c' f' =>
      by_cases hc : c' = c
      · subst hc
        obtain rfl : f' = f := Option.some.inj ((if_pos rfl).symm.trans heq)
        exact hmem
      · cases (if_neg hc).symm.trans heq
    | _ => cases heq
  · intro h
    exact List.mem_filterMap.2 ⟨_, h, if_pos rfl⟩

theorem mem_sentOn : frame ∈ sentOn id ns ↔ .sent id frame ∈ ns := by
  constructor
  · intro h
    obtain ⟨e, hmem, heq⟩ := List.mem_filterMap.1 h
    cases e with
    | sent id' frame' =>
      by_cases hc : id' = id
      · subst hc
        obtain rfl : frame' = frame := Option.some.inj ((if_pos rfl).symm.trans heq)
        exact hmem
      · cases (if_neg hc).symm.trans heq
    | _ => cases heq
  · intro h
    exact List.mem_filterMap.2 ⟨_, h, if_pos rfl⟩

theorem mem_framesSent : f ∈ framesSent id ns ↔ .sent id (.sequenced f) ∈ ns := by
  rw [← mem_sentOn]
  constructor
  · intro h
    obtain ⟨frame, hmem, heq⟩ := List.mem_filterMap.1 h
    cases frame with
    | sequenced f' =>
      cases heq
      exact hmem
    | _ => cases heq
  · intro h
    exact List.mem_filterMap.2 ⟨_, h, rfl⟩

@[simp] theorem sentOn_nil : sentOn id [] = [] := rfl

@[simp] theorem sentOn_cons_self : sentOn id (.sent id frame :: ns) = frame :: sentOn id ns :=
  List.filterMap_cons_some (if_pos rfl)

@[simp] theorem sentOn_cons_sequenced : sentOn id (.sequenced c f :: ns) = sentOn id ns :=
  List.filterMap_cons_none rfl

@[simp] theorem sequencedFrames_nil : sequencedFrames c [] = [] := rfl

@[simp] theorem sequencedFrames_cons_self :
    sequencedFrames c (.sequenced c f :: ns) = f :: sequencedFrames c ns :=
  List.filterMap_cons_some (if_pos rfl)

@[simp] theorem sequencedFrames_cons_of_ne {c' : String} (hne : c' ≠ c) :
    sequencedFrames c (.sequenced c' f :: ns) = sequencedFrames c ns :=
  List.filterMap_cons_none (if_neg hne)

/-- Sending sequences nothing. -/
@[simp] theorem sequencedFrames_sent {isOpen : Bool} :
    sequencedFrames c (if isOpen then [.sent id frame] else []) = [] := by
  cases isOpen <;> rfl

theorem sentOn_map_sequenced (frames : List SequencedFrame) :
    sentOn id (frames.map fun f => .sent id (.sequenced f)) = frames.map .sequenced := by
  induction frames with
  | nil => rfl
  | cons f frames ih => rw [List.map_cons, sentOn_cons_self, ih, List.map_cons]

theorem sentOn_eq_nil (h : ∀ frame, .sent id frame ∉ ns) : sentOn id ns = [] :=
  List.eq_nil_iff_forall_not_mem.2 fun frame hmem => h frame (mem_sentOn.1 hmem)

end Frames

/-! ### Sequencing -/

section Sequencing

variable {net : Net} {id : Nat} {e : SourcedEvent} {c : String}

/-- An event is sequenced for the credential of the connection, if it is bound to one. -/
theorem sendSequenced_cases :
    Net.sendSequenced id e net = (net, []) ∨
      ∃ c st, (net.connections.get? id).bind (·.credentialReplayState) = some c ∧
        net.credentialStates.get? c = some st ∧
        Net.sendSequenced id e net =
          ({ net with credentialStates := net.credentialStates.set c (st.sequenceEvent e) },
            .sequenced c (st.frame e) ::
              if net.isOpen id then [.sent id (.sequenced (st.frame e))] else []) := by
  unfold Net.sendSequenced
  cases hbound : (net.connections.get? id).bind (·.credentialReplayState) with
  -- the connection is bound to no credential yet
  | none => exact .inl rfl
  | some c =>
    dsimp only
    cases hstate : net.credentialStates.get? c with
    | none => exact .inl rfl
    | some st => exact .inr ⟨c, st, rfl, hstate, rfl⟩

theorem getOrCreate_of_get? {cfg : TransportConfig} {st : CredentialReplayState}
    (h : net.credentialStates.get? c = some st) : net.getOrCreateCredentialState cfg c = st := by
  unfold Net.getOrCreateCredentialState
  rw [h]
  rfl

theorem credentialStates_of_op {cfg : TransportConfig} {op : NetOp}
    (hsend : ∀ id e, op ≠ .sendSequenced id e)
    (haccept : ∀ id credential last, op ≠ .accept id credential last) :
    (op.apply cfg net).1.credentialStates = net.credentialStates := by
  have hcleanup : ∀ {net : Net} {id}, (Net.cleanupConnection id net).1.credentialStates =
      net.credentialStates := by
    intro net id
    unfold Net.cleanupConnection
    split <;> rfl
  -- only sequencing and accepting write a replay state
  cases op with
  | sendSequenced id e => exact absurd rfl (hsend id e)
  | accept id credential last => exact absurd rfl (haccept id credential last)
  | opened => rfl
  | sendJson => rfl
  | noteProjected => rfl
  | clearAuthTimer => exact Net.modify_credentialStates
  | setRecord => exact Net.modify_credentialStates
  | beginRequest => exact Net.modify_credentialStates
  | timeoutRequest => exact Net.modify_credentialStates
  | cleanupConnection => exact hcleanup
  | closeSocket id code =>
    show (Net.closeSocket cfg id code net).1.credentialStates = _
    unfold Net.closeSocket
    split
    · dsimp only
      split
      · exact hcleanup.trans Net.modify_credentialStates
      · exact Net.modify_credentialStates
    · rfl
  | stopHeartbeat id =>
    show (Net.stopHeartbeat id net).1.credentialStates = _
    unfold Net.stopHeartbeat
    split
    · rfl
    · split <;> rfl
  | startHeartbeat id timer =>
    show (Net.startHeartbeat id timer net).1.credentialStates = _
    unfold Net.startHeartbeat
    split
    · rfl
    · split <;> rfl
  | endRequest id requestId reply =>
    show (Net.endRequest id requestId reply net).1.credentialStates = _
    unfold Net.endRequest
    split
    · rfl
    · exact Net.modify_credentialStates

theorem sequencedFrames_of_op {cfg : TransportConfig} {op : NetOp}
    (hsend : ∀ id e, op ≠ .sendSequenced id e) : sequencedFrames c (op.apply cfg net).2 = [] := by
  refine List.eq_nil_iff_forall_not_mem.2 fun f hmem => ?_
  have hemitted := emittedBy (mem_sequencedFrames.1 hmem)
  cases hemitted with
  | sequenced => exact hsend _ _ rfl

end Sequencing

/-! ### The invariant -/

/-- The replay states are those of the histories, and the open connections are bound if they are
active. -/
structure HistoryInv (cfg : TransportConfig) (ns : List NetEvent) (net : Net) : Prop where
  /-- The replay state of a credential is the one after all its events, in the order of their
  numbers. -/
  history : ∀ c, ∃ events,
    net.getOrCreateCredentialState cfg c = .after cfg.replayBufferSize events ∧
      sequencedFrames c ns = CredentialReplayState.frames events
  /-- Ids are given out in order. -/
  counted : ∀ id d, net.connections.get? id = some d → id < net.connectionCounter
  /-- A bound connection uses the replay state of its credential, and the state is there. -/
  bound : ∀ id d, net.connections.get? id = some d → d.credentialReplayState = d.credentialId ∧
    ∀ c, d.credentialId = some c → ∃ st, net.credentialStates.get? c = some st
  /-- An open connection is authenticating and unbound, or active, bound and registered. -/
  live : ∀ id d, net.connections.get? id = some d → d.socketOpen = true →
    (d.phase = .authenticating ∧ d.credentialId = none) ∨
      (d.phase = .active ∧ d.credentialId.isSome = true ∧ net.registry.has id = true)

namespace HistoryInv

variable {cfg : TransportConfig} {ns es : List NetEvent} {net net' : Net}

theorem empty : HistoryInv cfg [] Net.empty where
  history _ := ⟨[], rfl, rfl⟩
  counted _ _ hd := by cases hd
  bound _ _ hd := by cases hd
  live _ _ hd := by cases hd

/-- The history goes on as before if nothing is sequenced. -/
theorem history_of_states (h : HistoryInv cfg ns net)
    (hstates : net'.credentialStates = net.credentialStates)
    (hes : ∀ c, sequencedFrames c es = []) (c : String) :
    ∃ events, net'.getOrCreateCredentialState cfg c = .after cfg.replayBufferSize events ∧
      sequencedFrames c (ns ++ es) = CredentialReplayState.frames events := by
  obtain ⟨events, hafter, hframes⟩ := h.history c
  refine ⟨events, ?_, ?_⟩
  · unfold Net.getOrCreateCredentialState at hafter ⊢
    rw [hstates]
    exact hafter
  · rw [sequencedFrames_append, hes, List.append_nil]
    exact hframes

theorem of_shrinks {W : Nat → Snapshot → Prop} (h : HistoryInv cfg ns net)
    (hshrinks : Net.Shrinks W net net') (hstates : net'.credentialStates = net.credentialStates)
    (hes : ∀ c, sequencedFrames c es = []) : HistoryInv cfg (ns ++ es) net' where
  history := h.history_of_states hstates hes
  counted id d' hd' := by
    obtain ⟨d, hd, -⟩ := hshrinks.connections hd'
    rw [hshrinks.counter]
    exact h.counted id d hd
  bound id d' hd' := by
    obtain ⟨d, hd, hbelow⟩ := hshrinks.connections hd'
    rw [hbelow.replayState, hbelow.credentialId, hstates]
    exact h.bound id d hd
  live id d' hd' hopen' := by
    obtain ⟨d, hd, hbelow⟩ := hshrinks.connections hd'
    obtain ⟨hopen, hphase⟩ := hbelow.isOpen hopen'
    rw [hbelow.credentialId, hphase]
    refine (h.live id d hd hopen).imp_right fun ⟨hactive, hsome, hreg⟩ => ⟨hactive, hsome, ?_⟩
    -- what has left the registry is closed, and an open active connection has not
    rcases hshrinks.removed hd' with hsame | ⟨hclosed, -⟩
    · exact hsame.trans hreg
    · rw [hphase, hactive] at hclosed
      cases hclosed

theorem opened (h : HistoryInv cfg ns net) : HistoryInv cfg ns (Net.opened net).1 where
  history := h.history
  counted id d hd := by
    obtain ⟨rfl, -⟩ | ⟨-, hold⟩ := OrdMap.get?_set_eq_some hd
    · exact Nat.lt_succ_self _
    · exact Nat.lt_succ_of_lt (h.counted id d hold)
  bound id d hd := by
    obtain ⟨-, rfl⟩ | ⟨-, hold⟩ := OrdMap.get?_set_eq_some hd
    · exact ⟨rfl, nofun⟩
    · exact h.bound id d hold
  live id d hd hopen := by
    obtain ⟨-, rfl⟩ | ⟨-, hold⟩ := OrdMap.get?_set_eq_some hd
    · exact .inl ⟨rfl, rfl⟩
    · exact h.live id d hold hopen

theorem accept (h : HistoryInv cfg ns net) {id : Nat} {credential : Snapshot}
    {lastSeenSeq : Option Nat} :
    HistoryInv cfg (ns ++ (Net.accept cfg id credential lastSeenSeq net).2)
      (Net.accept cfg id credential lastSeenSeq net).1 := by
  cases hd : net.connections.get? id with
  | none =>
    rw [Net.accept_of_none hd, List.append_nil]
    exact h
  | some d =>
    rw [Net.accept_of_some hd]
    -- no replay state is lost
    have hstates : ∀ {c st}, net.credentialStates.get? c = some st →
        ∃ st', (net.credentialStates.set credential.record.credentialId
          (net.getOrCreateCredentialState cfg credential.record.credentialId)).get? c =
            some st' := by
      intro c st hst
      by_cases hc : c = credential.record.credentialId
      · rw [hc]
        exact ⟨_, OrdMap.get?_set_self _ _ _⟩
      · exact ⟨st, (OrdMap.get?_set_of_ne _ _ hc).trans hst⟩
    constructor
    · intro c
      obtain ⟨events, hafter, hframes⟩ := h.history c
      refine ⟨events, ?_, ?_⟩
      -- a state that is created here is the one that would have been created later
      · rw [← hafter]
        unfold Net.getOrCreateCredentialState
        dsimp only
        by_cases hc : c = credential.record.credentialId
        · rw [hc, OrdMap.get?_set_self]
          rfl
        · rw [OrdMap.get?_set_of_ne _ _ hc]
      · rw [sequencedFrames_append, hframes]
        exact List.append_nil _
    · intro id' d' hd'
      obtain ⟨rfl, -⟩ | ⟨-, hold⟩ := OrdMap.get?_set_eq_some hd'
      · exact h.counted _ d hd
      · exact h.counted id' d' hold
    · intro id' d' hd'
      obtain ⟨rfl, rfl⟩ | ⟨-, hold⟩ := OrdMap.get?_set_eq_some hd'
      · refine ⟨rfl, fun c hc => ?_⟩
        rw [← Option.some.inj hc]
        exact ⟨_, OrdMap.get?_set_self _ _ _⟩
      · obtain ⟨heq, hst⟩ := h.bound id' d' hold
        refine ⟨heq, fun c hc => ?_⟩
        obtain ⟨st, hst⟩ := hst c hc
        exact hstates hst
    · intro id' d' hd' hopen'
      obtain ⟨rfl, rfl⟩ | ⟨hne, hold⟩ := OrdMap.get?_set_eq_some hd'
      · refine .inr ⟨?_, rfl, OrdMap.has_eq_true_iff.2 ⟨(), OrdMap.get?_set_self _ _ _⟩⟩
        show (if d.phase = .authenticating then ConnectionPhase.active else d.phase) = .active
        -- an open connection is authenticating and becomes active, or was accepted already
        rcases h.live _ d hd hopen' with ⟨hauth, -⟩ | ⟨hactive, -⟩
        · exact if_pos hauth
        · rw [hactive]
          rfl
      · refine (h.live id' d' hold hopen').imp_right fun ⟨hactive, hsome, hreg⟩ =>
          ⟨hactive, hsome, ?_⟩
        obtain ⟨u, hu⟩ := OrdMap.has_eq_true_iff.1 hreg
        exact OrdMap.has_eq_true_iff.2 ⟨u, (OrdMap.get?_set_of_ne _ _ hne).trans hu⟩

theorem sendSequenced (h : HistoryInv cfg ns net) {id : Nat} {e : SourcedEvent} :
    HistoryInv cfg (ns ++ (Net.sendSequenced id e net).2) (Net.sendSequenced id e net).1 := by
  rcases @sendSequenced_cases net id e with heq | ⟨c, st, hbound, hst, heq⟩
  · rw [heq, List.append_nil]
    exact h
  · rw [heq]
    have hshrinks : Net.Shrinks (fun _ _ => True) net
        { net with credentialStates := net.credentialStates.set c (st.sequenceEvent e) } :=
      .of_eq rfl rfl rfl
    constructor
    · intro c'
      obtain ⟨events, hafter, hframes⟩ := h.history c'
      by_cases hc : c' = c
      -- the history grows by this event, under the next number
      · subst hc
        have hst' : net.getOrCreateCredentialState cfg c' = st := getOrCreate_of_get? hst
        rw [hafter] at hst'
        refine ⟨events ++ [e], ?_, ?_⟩
        · rw [getOrCreate_of_get? (OrdMap.get?_set_self _ _ _),
            CredentialReplayState.after_snoc, hst']
        · have hframe : st.frame e = ⟨events.length + 1, e.1, e.2⟩ := by
            rw [← hst', CredentialReplayState.after_eq]
            rfl
          rw [sequencedFrames_append, hframes, sequencedFrames_cons_self, sequencedFrames_sent,
            hframe, CredentialReplayState.frames_snoc]
      -- other credentials neither get the event nor a new state
      · refine ⟨events, ?_, ?_⟩
        · rw [← hafter]
          unfold Net.getOrCreateCredentialState
          dsimp only
          rw [OrdMap.get?_set_of_ne _ _ hc]
        · rw [sequencedFrames_append, sequencedFrames_cons_of_ne (Ne.symm hc), sequencedFrames_sent,
            List.append_nil]
          exact hframes
    · intro id' d hd
      exact h.counted id' d hd
    · intro id' d hd
      obtain ⟨heq', hst'⟩ := h.bound id' d hd
      refine ⟨heq', fun c' hc' => ?_⟩
      by_cases hc : c' = c
      · rw [hc]
        exact ⟨_, OrdMap.get?_set_self _ _ _⟩
      · obtain ⟨st', hst'⟩ := hst' c' hc'
        exact ⟨st', (OrdMap.get?_set_of_ne _ _ hc).trans hst'⟩
    · intro id' d hd hopen
      exact h.live id' d hd hopen

theorem op (h : HistoryInv cfg ns net) (op : NetOp) :
    HistoryInv cfg (ns ++ (op.apply cfg net).2) (op.apply cfg net).1 := by
  -- opening, accepting and sequencing are the operations that are not quiet
  have hother : op.binds = false → (∀ id e, op ≠ .sendSequenced id e) →
      HistoryInv cfg (ns ++ (op.apply cfg net).2) (op.apply cfg net).1 := by
    intro hbinds hsend
    have haccept : ∀ id credential last, op ≠ .accept id credential last := by
      rintro id credential last rfl
      cases hbinds
    exact h.of_shrinks (NetOp.shrinks hbinds) (credentialStates_of_op hsend haccept)
      fun c => sequencedFrames_of_op hsend
  cases op with
  | opened => exact (List.append_nil ns).symm ▸ h.opened
  | accept => exact h.accept
  | sendSequenced => exact h.sendSequenced
  | _ => exact hother rfl nofun

end HistoryInv

/-- An event is sequenced for the credential of a bound connection. -/
theorem HistoryInv.sendSequenced_of_bound {cfg : TransportConfig} {ns : List NetEvent} {net : Net}
    (h : HistoryInv cfg ns net) {id : Nat} {d : ConnectionData} {c : String} (e : SourcedEvent)
    (hd : net.connections.get? id = some d) (hbound : d.credentialId = some c) :
    ∃ st, net.credentialStates.get? c = some st ∧ Net.sendSequenced id e net =
      ({ net with credentialStates := net.credentialStates.set c (st.sequenceEvent e) },
        .sequenced c (st.frame e) ::
          if net.isOpen id then [.sent id (.sequenced (st.frame e))] else []) := by
  obtain ⟨hreplay, hstates⟩ := h.bound id d hd
  obtain ⟨st, hst⟩ := hstates c hbound
  refine ⟨st, hst, ?_⟩
  unfold Net.sendSequenced
  rw [hd, Option.bind_some, hreplay, hbound]
  dsimp only
  rw [hst]

/-- An event that is sequenced for an open active connection is sent on it. -/
theorem HistoryInv.sendSequenced_of_open {cfg : TransportConfig} {ns : List NetEvent} {net : Net}
    (h : HistoryInv cfg ns net) {id : Nat} {d : ConnectionData} (e : SourcedEvent)
    (hd : net.connections.get? id = some d) (hopen : d.socketOpen = true)
    (hphase : d.phase ≠ .authenticating) :
    ∃ c st, d.credentialId = some c ∧ net.credentialStates.get? c = some st ∧
      Net.sendSequenced id e net =
        ({ net with credentialStates := net.credentialStates.set c (st.sequenceEvent e) },
          [.sequenced c (st.frame e), .sent id (.sequenced (st.frame e))]) := by
  obtain ⟨hauth, -⟩ | ⟨-, hsome, -⟩ := h.live id d hd hopen
  · exact absurd hauth hphase
  · obtain ⟨c, hc⟩ := Option.isSome_iff_exists.1 hsome
    obtain ⟨st, hst, heq⟩ := h.sendSequenced_of_bound e hd hc
    have hisOpen : net.isOpen id = true := by
      unfold Net.isOpen
      rw [hd, Option.any_some, hopen]
    rw [if_pos hisOpen] at heq
    exact ⟨c, st, hc, hst, heq⟩

theorem HistoryInv.run {cfg : TransportConfig} {ok : Net → NetOp → Prop} {ns ns' : List NetEvent}
    {net net' : Net} (h : HistoryInv cfg ns net) (hrun : RunFrom (netMachine cfg) ok net ns' net') :
    HistoryInv cfg (ns ++ ns') net' := by
  refine hrun.invariant (I := fun ns' net' => HistoryInv cfg (ns ++ ns') net')
    (fun {ns' net op net' es} _ hnet _ hop => ?_) ?_
  · obtain ⟨rfl, rfl⟩ := Prod.mk.inj (Option.some.inj hop)
    rw [← List.append_assoc]
    exact hnet.op op
  · rw [List.append_nil]
    exact h

theorem historyInv_of_run {cfg : TransportConfig} {ok : TransportState → TransportAction → Prop}
    {tr : List TransportEvent} {s : TransportState} (h : Run (transportMachine cfg) ok tr s) :
    HistoryInv cfg (netEvents tr) s.net := by
  refine h.invariant (I := fun tr s => HistoryInv cfg (netEvents tr) s.net) .empty
    fun {tr s a s' es} _ hinv _ hstep => ?_
  rw [netEvents_append]
  exact hinv.run (transportStep_net hstep)

/-! ### From the accepted lookup to the fingerprint -/

section Awaiting

variable {cfg : TransportConfig} {ok : TransportState → TransportAction → Prop}
  {s s₁ s₂ : TransportState} {a : TransportAction} {tr tr' es : List TransportEvent}

/-- An accepted lookup decides what to replay and awaits the fingerprint. -/
theorem calls_of_accepts {call id : Nat} {lastSeenSeq : Option Nat} {record : CredentialRecord}
    (hstep : transportStep cfg s a = some (s₁, es))
    (haccepts : Accepts s call id lastSeenSeq record a) :
    s₁.calls.get? s.started = some (.fingerprinting id ⟨record, call⟩
      ((s.net.getOrCreateCredentialState cfg record.credentialId).resume lastSeenSeq)) ∧
    s₁.started = s.started + 1 := by
  cases a with
  | looked call' answer project =>
    obtain ⟨rfl, rfl, hactive, hcall⟩ := haccepts
    have hstate := @accept_getOrCreateCredentialState cfg s.net id ⟨record, call'⟩ lastSeenSeq
    simp only [transportStep, lookupStep, hcall, authLooked, if_pos hactive] at hstep
    cases hstep
    refine ⟨?_, rfl⟩
    show (OrdMap.set _ s.started (TransportCall.fingerprinting id ⟨record, call'⟩
      (((Net.accept cfg id ⟨record, call'⟩ lastSeenSeq s.net).1.getOrCreateCredentialState cfg
        record.credentialId).resume lastSeenSeq))).get? s.started = _
    rw [OrdMap.get?_set_self, hstate]
  | _ => exact haccepts.elim

theorem known_of_authenticating (h : Run (transportMachine cfg) ok tr s) {call id : Nat}
    {lastSeenSeq : Option Nat}
    (hcall : s.calls.get? call = some (.authenticating id lastSeenSeq)) :
    ∃ d, s.net.connections.get? id = some d := by
  -- along the run: the call is started for a connection, and connections are closed but never
  -- dropped
  refine h.invariant (I := fun _ s => ∀ call id last,
    s.calls.get? call = some (.authenticating id last) →
      ∃ d, s.net.connections.get? id = some d) (fun _ _ _ hcall => by cases hcall)
    (fun {tr s a s' es} hrun hknown _ hstep call id last hcall => ?_) call id lastSeenSeq hcall
  have hd : ∃ d, s.net.connections.get? id = some d := by
    rcases (transportStep_core hstep).get?_calls hcall with ⟨hold, -⟩ | ⟨-, -, hstarts⟩
    · exact hknown call id last hold
    · cases hstarts with
      | authenticating hd => exact ⟨_, hd⟩
  obtain ⟨d, hd⟩ := hd
  have hcounted := (historyInv_of_run hrun).counted id d hd
  obtain ⟨d', hd', -⟩ := connection_of_transportStep hstep hcounted hd
  exact ⟨d', hd'⟩

theorem connection_of_accepts (h : Run (transportMachine cfg) ok tr s) {call id : Nat}
    {lastSeenSeq : Option Nat} {record : CredentialRecord}
    (hstep : transportStep cfg s a = some (s₁, es))
    (haccepts : Accepts s call id lastSeenSeq record a) :
    ∃ d, s.net.connections.get? id = some d ∧
      s₁.net.connections.get? id = some (d.accepted ⟨record, call⟩) ∧
      (d.accepted ⟨record, call⟩).phase ≠ .authenticating := by
  have hcall : s.calls.get? call = some (.authenticating id lastSeenSeq) := by
    cases a with
    | looked call' answer project => exact haccepts.2.2.2
    | _ => exact haccepts.elim
  obtain ⟨d, hd⟩ := known_of_authenticating h hcall
  obtain ⟨hnet, -⟩ := net_of_accepts hstep haccepts
  dsimp only at hnet
  refine ⟨d, hd, ?_, ?_⟩
  · rw [hnet, Net.accept_of_some hd]
    exact OrdMap.get?_set_self _ _ _
  · show (if d.phase = .authenticating then ConnectionPhase.active else d.phase) ≠ _
    split
    · nofun
    · next hne => exact hne

/-- A fingerprint is asked for by a lookup that is accepted. -/
theorem accepts_of_starts {id : Nat} {credential : Snapshot} {resume : CredentialReplayState.Resume}
    (h : Starts cfg s a (.fingerprinting id credential resume)) :
    ∃ last, Accepts s credential.lookup id last credential.record a := by
  cases h with
  | @fingerprinting _ _ last _ _ hcall hactive => exact ⟨last, rfl, rfl, hactive, hcall⟩

/-- A fingerprint is awaited for a connection that is out of the authenticating phase. -/
theorem known_of_fingerprinting (h : Run (transportMachine cfg) ok tr s) {call id : Nat}
    {credential : Snapshot} {resume : CredentialReplayState.Resume}
    (hcall : s.calls.get? call = some (.fingerprinting id credential resume)) :
    ∃ d, s.net.connections.get? id = some d ∧ d.phase ≠ .authenticating := by
  -- along the run, as for the lookup before it
  refine h.invariant (I := fun _ s => ∀ call id credential resume,
    s.calls.get? call = some (.fingerprinting id credential resume) →
      ∃ d, s.net.connections.get? id = some d ∧ d.phase ≠ .authenticating)
    (fun _ _ _ _ hcall => by cases hcall)
    (fun {tr s a s' es} hrun hknown _ hstep call id credential resume hcall => ?_)
    call id credential resume hcall
  rcases (transportStep_core hstep).get?_calls hcall with ⟨hold, -⟩ | ⟨-, -, hstarts⟩
  · obtain ⟨d, hd, hphase⟩ := hknown call id credential resume hold
    have hcounted := (historyInv_of_run hrun).counted id d hd
    obtain ⟨d', hd', hphase', -⟩ := connection_of_transportStep hstep hcounted hd
    exact ⟨d', hd', hphase' hphase⟩
  · obtain ⟨last, haccepts⟩ := accepts_of_starts hstarts
    obtain ⟨d, -, hd', hphase'⟩ := connection_of_accepts hrun hstep haccepts
    exact ⟨_, hd', hphase'⟩

/-- Only the fingerprint answers a call that awaits it. -/
theorem fingerprinted_of_answered {r : TransportState × List TransportEvent} {call id : Nat}
    {credential : Snapshot} {resume : CredentialReplayState.Resume}
    (hstep : transportStep cfg s a = some r)
    (hcall : s.calls.get? call = some (.fingerprinting id credential resume))
    (hanswered : a.answered = some call) : ∃ fingerprint, a = .fingerprinted call fingerprint := by
  cases a with
  | looked call' answer project =>
    cases hanswered
    simp only [transportStep, lookupStep, hcall] at hstep
    cases hstep
  | fingerprinted call' fingerprint =>
    cases hanswered
    exact ⟨fingerprint, rfl⟩
  | routed call' threw =>
    cases hanswered
    simp only [transportStep, hcall] at hstep
    cases hstep
  | _ => cases hanswered

/-- A call that is in flight at the end of a run was in flight when the run began. -/
theorem call_of_runFrom (h : RunFrom (transportMachine cfg) ok s₁ tr s₂) {call : Nat}
    (hlt : call < s₁.started) {phase : TransportCall} (hcall : s₂.calls.get? call = some phase) :
    s₁.calls.get? call = some phase := by
  have hinv : s₁.started ≤ s₂.started ∧
      ∀ phase, s₂.calls.get? call = some phase → s₁.calls.get? call = some phase := by
    -- on the run: numbers below the one it began with are not given out again
    refine RunFrom.preserves (I := fun s => s₁.started ≤ s.started ∧
      ∀ phase, s.calls.get? call = some phase → s₁.calls.get? call = some phase) h
      (fun {s a s' es} hs _ hstep => ?_) ⟨Nat.le_refl _, fun _ => id⟩
    have hcore := transportStep_core hstep
    refine ⟨Nat.le_trans hs.1 hcore.started_le, fun phase hphase => ?_⟩
    rcases hcore.get?_calls hphase with ⟨hold, -⟩ | ⟨rfl, -⟩
    · exact hs.2 phase hold
    · exact absurd hs.1 (Nat.not_le_of_lt hlt)
  exact hinv.2 phase hcall

/-- An open connection was open before, and stays out of the authenticating phase. -/
theorem connection_of_runFrom (h : Run (transportMachine cfg) ok tr s₁)
    (h' : RunFrom (transportMachine cfg) ok s₁ tr' s₂) {id : Nat} {d₁ : ConnectionData}
    (hd₁ : s₁.net.connections.get? id = some d₁) :
    ∃ d₂, s₂.net.connections.get? id = some d₂ ∧
      (d₁.phase ≠ .authenticating → d₂.phase ≠ .authenticating) ∧
      (d₂.socketOpen = true → d₁.socketOpen = true) := by
  refine RunFrom.invariant (I := fun _ s => ∃ d₂, s.net.connections.get? id = some d₂ ∧
    (d₁.phase ≠ .authenticating → d₂.phase ≠ .authenticating) ∧
      (d₂.socketOpen = true → d₁.socketOpen = true)) h' (fun hrun hI _ hstep => ?_)
    ⟨d₁, hd₁, (·), (·)⟩
  obtain ⟨d, hd, hphase, hopen⟩ := hI
  have hcounted := (historyInv_of_run (h.extend hrun)).counted id d hd
  obtain ⟨d', hd', hphase', -, hopen', -⟩ := connection_of_transportStep hstep hcounted hd
  exact ⟨d', hd', fun hne => hphase' (hphase hne), fun ho => hopen (hopen' ho)⟩

end Awaiting

/-! ### What a welcome sends -/

theorem startHeartbeat_events (id timer : Nat) (net : Net) :
    (Net.startHeartbeat id timer net).2 = [] := by
  unfold Net.startHeartbeat
  split
  · rfl
  · split <;> rfl

theorem forEach_sendJson_events {β : Type} {id : Nat} (frame : β → ServerFrame) (bs : List β)
    {net : Net} (hopen : net.isOpen id = true) :
    (Emits.forEach (fun b => Net.sendJson id (frame b)) bs net).2 =
      bs.map fun b => .sent id (frame b) := by
  induction bs with
  | nil => rfl
  | cons b bs ih =>
    show (if net.isOpen id then [NetEvent.sent id (frame b)] else []) ++
      (Emits.forEach (fun b => Net.sendJson id (frame b)) bs net).2 = _
    rw [if_pos hopen, ih]
    rfl

theorem welcome_events {id call : Nat} {credential : Snapshot} {fingerprint : String}
    {resume : CredentialReplayState.Resume} {net : Net} (hopen : net.isOpen id = true) :
    (welcome id call credential fingerprint resume net).2 =
      .sent id (.authenticated credential fingerprint resume.resumedFromSeq) ::
        if resume.needsRecovery then
          (Net.sendSequenced id (.other "signet.recovery.complete", none) net).2
        else resume.replayFrames.map fun f => .sent id (.sequenced f) := by
  show (if net.isOpen id then [NetEvent.sent id _] else []) ++
    (((if resume.needsRecovery then
        Net.sendSequenced id (.other "signet.recovery.complete", none)
      else .forEach (fun f => Net.sendJson id (.sequenced f)) resume.replayFrames) net).2 ++
      (Net.startHeartbeat id call _).2) = _
  rw [if_pos hopen, startHeartbeat_events, List.append_nil]
  refine congrArg (NetEvent.sent id _ :: ·) ?_
  by_cases hrecovery : resume.needsRecovery = true
  · rw [if_pos hrecovery, if_pos hrecovery]
    rfl
  · rw [if_neg hrecovery, if_neg hrecovery]
    exact forEach_sendJson_events _ _ hopen

/-- The frames of a welcome: the recovery signal, which gets a number, or the replay. -/
theorem HistoryInv.framesSent_welcome {cfg : TransportConfig} {ns : List NetEvent} {net : Net}
    (h : HistoryInv cfg ns net) {c : String} {id : Nat} {d : ConnectionData}
    (hd : net.connections.get? id = some d) (hsocket : d.socketOpen = true)
    (hactive : d.phase = .active) (hbound : d.credentialId = some c) (call : Nat)
    (credential : Snapshot) (fingerprint : String) (resume : CredentialReplayState.Resume) :
    let es := (welcome id call credential fingerprint resume net).2
    sentOn id es = .authenticated credential fingerprint resume.resumedFromSeq ::
        (framesSent id es).map .sequenced ∧
      (resume.needsRecovery = true → ∃ f, framesSent id es = [f] ∧
        f.event = .other "signet.recovery.complete" ∧ f ∈ sequencedFrames c es) ∧
      (resume.needsRecovery ≠ true → framesSent id es = resume.replayFrames) := by
  have hopen : net.isOpen id = true := by
    unfold Net.isOpen
    rw [hd, Option.any_some, hsocket]
  dsimp only
  rw [welcome_events hopen]
  by_cases hrecovery : resume.needsRecovery = true
  · -- the recovery signal is sequenced
    obtain ⟨c', st, hc', -, hsequenced⟩ := h.sendSequenced_of_open
      (.other "signet.recovery.complete", none) hd hsocket (by rw [hactive]; nofun)
    obtain rfl : c' = c := Option.some.inj (hc'.symm.trans hbound)
    rw [if_pos hrecovery, hsequenced]
    unfold framesSent
    rw [sentOn_cons_self, sentOn_cons_sequenced, sentOn_cons_self, sentOn_nil]
    refine ⟨rfl, fun _ => ⟨_, rfl, rfl, ?_⟩, fun hno => absurd hrecovery hno⟩
    exact mem_sequencedFrames.2 (List.mem_cons_of_mem _ List.mem_cons_self)
  · rw [if_neg hrecovery]
    have hframes : framesSent id (.sent id (.authenticated credential fingerprint
        resume.resumedFromSeq) :: resume.replayFrames.map fun f => .sent id (.sequenced f)) =
        resume.replayFrames := by
      unfold framesSent
      rw [sentOn_cons_self, sentOn_map_sequenced]
      show (resume.replayFrames.map ServerFrame.sequenced).filterMap (·.sequenced?) = _
      rw [List.filterMap_map]
      exact List.filterMap_some
    rw [hframes, sentOn_cons_self, sentOn_map_sequenced]
    exact ⟨rfl, fun hyes => absurd hyes hrecovery, fun _ => rfl⟩

end Signet.Ws
