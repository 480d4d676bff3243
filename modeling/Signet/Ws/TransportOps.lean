import Signet.Ws.Transport

/-!
# Operations on the connections

What the segments of the server do on the connections comes down to a few operations (`NetOp`).
`emittedBy` says what each of them emits; `NetOp.shrinks`, that only two of them register a
connection or bind one to a credential.
-/

namespace Signet.Ws

open Lib

/-! ### Operations on the connections -/

inductive NetOp where
  | opened
  | clearAuthTimer (connectionId : Nat)
  | sendJson (connectionId : Nat) (frame : ServerFrame)
  | sendSequenced (connectionId : Nat) (e : SourcedEvent)
  | noteProjected (connectionId : Nat) (credentialId : String) (broadcast lookup : Nat)
  | cleanupConnection (connectionId : Nat)
  | closeSocket (connectionId : Nat) (code : CloseCode)
  | setRecord (connectionId : Nat) (credential : Snapshot)
  | stopHeartbeat (connectionId : Nat)
  | startHeartbeat (connectionId timer : Nat)
  | accept (connectionId : Nat) (credential : Snapshot) (lastSeenSeq : Option Nat)
  | beginRequest (connectionId timer : Nat) (requestId : String)
  | endRequest (connectionId : Nat) (requestId : String) (reply : RequestReply)
  | timeoutRequest (connectionId timer : Nat) (requestId : String)

def NetOp.apply (cfg : TransportConfig) : NetOp → Emits Net NetEvent
  | opened => Net.opened
  | clearAuthTimer connectionId => Net.clearAuthTimer connectionId
  | sendJson connectionId frame => Net.sendJson connectionId frame
  | sendSequenced connectionId e => Net.sendSequenced connectionId e
  | noteProjected connectionId credentialId broadcast lookup => fun net =>
    (net, if net.isOpen connectionId then
      [.projected connectionId credentialId broadcast lookup] else [])
  | cleanupConnection connectionId => Net.cleanupConnection connectionId
  | closeSocket connectionId code => Net.closeSocket cfg connectionId code
  | setRecord connectionId credential => Net.setRecord connectionId credential
  | stopHeartbeat connectionId => Net.stopHeartbeat connectionId
  | startHeartbeat connectionId timer => Net.startHeartbeat connectionId timer
  | accept connectionId credential lastSeenSeq => Net.accept cfg connectionId credential lastSeenSeq
  | beginRequest connectionId timer requestId => Net.beginRequest connectionId timer requestId
  | endRequest connectionId requestId reply => Net.endRequest connectionId requestId reply
  | timeoutRequest connectionId timer requestId => Net.timeoutRequest connectionId timer requestId

def netMachine (cfg : TransportConfig) : Machine Net NetOp NetEvent :=
  .ofOps .empty (NetOp.apply cfg)

/-! ### Operations that bind nothing -/

/-- The connection is bound as before and no livelier; a new record is one of `W`. -/
structure ConnectionData.Below (W : Snapshot → Prop) (d' d : ConnectionData) : Prop where
  credentialId : d'.credentialId = d.credentialId
  replayState : d'.credentialReplayState = d.credentialReplayState
  isOpen : d'.socketOpen = true → d.socketOpen = true ∧ d'.phase = d.phase
  phase : d'.phase = d.phase ∨ d'.phase = .closed
  record : d'.credentialRecord = d.credentialRecord ∨
    ∃ credential, d'.credentialRecord = some credential ∧ W credential

namespace ConnectionData

variable {W W' : Snapshot → Prop} {d d' d'' : ConnectionData}

theorem Below.refl (d : ConnectionData) : d.Below W d :=
  ⟨rfl, rfl, fun h => ⟨h, rfl⟩, .inl rfl, .inl rfl⟩

theorem Below.active (h : d'.Below W d) (hactive : d'.phase = .active) : d.phase = .active := by
  rcases h.phase with heq | hclosed
  · exact heq.symm.trans hactive
  · rw [hactive] at hclosed
    cases hclosed

theorem Below.closed (h : d'.Below W d) (hclosed : d.phase = .closed) : d'.phase = .closed := by
  rcases h.phase with heq | hclosed'
  · exact heq.trans hclosed
  · exact hclosed'

theorem Below.trans (h : d'.Below W d) (h' : d''.Below W d') : d''.Below W d where
  credentialId := h'.credentialId.trans h.credentialId
  replayState := h'.replayState.trans h.replayState
  -- an open socket was open before, and its phase has not moved in between
  isOpen hopen := by
    obtain ⟨hopen', hphase'⟩ := h'.isOpen hopen
    obtain ⟨hopen'', hphase⟩ := h.isOpen hopen'
    exact ⟨hopen'', hphase'.trans hphase⟩
  phase := by
    rcases h'.phase with heq | hclosed
    · rw [heq]
      exact h.phase
    · exact .inr hclosed
  record := by
    rcases h'.record with heq | hnew
    · rw [heq]
      exact h.record
    · exact .inr hnew

theorem Below.mono (h : d'.Below W d) (hle : ∀ credential, W credential → W' credential) :
    d'.Below W' d :=
  { h with record := h.record.imp_right fun ⟨credential, heq, hW⟩ => ⟨credential, heq, hle _ hW⟩ }

/-- Every connection can be closed. -/
theorem transition_closed (d : ConnectionData) :
    d.transition .closed = { d with phase := .closed } := by
  obtain ⟨phase, _, _, _, _, _, _, _⟩ := d
  cases phase <;> rfl

end ConnectionData

/-- Nothing is registered or bound between the two, and new records are those of `W`. -/
structure Net.Shrinks (W : Nat → Snapshot → Prop) (net net' : Net) : Prop where
  counter : net'.connectionCounter = net.connectionCounter
  registry : ∀ {id}, net'.registry.has id = true → net.registry.has id = true
  connections : ∀ {id d'}, net'.connections.get? id = some d' →
    ∃ d, net.connections.get? id = some d ∧ d'.Below (W id) d
  kept : ∀ {id d}, net.connections.get? id = some d → ∃ d', net'.connections.get? id = some d'
  /-- A connection leaves the registry when it is closed. -/
  removed : ∀ {id d'}, net'.connections.get? id = some d' →
    net'.registry.has id = net.registry.has id ∨
      (d'.phase = .closed ∧ net'.registry.has id = false)

namespace Net

theorem mem_getByCredentialId {net : Net} {credentialId : String} {id : Nat} :
    id ∈ net.getByCredentialId credentialId ↔ net.registry.has id = true ∧
      ∃ d, net.connections.get? id = some d ∧ d.credentialId = some credentialId := by
  unfold getByCredentialId
  rw [List.mem_filter, OrdMap.mem_keys_iff, Option.any_eq_true]
  simp only [decide_eq_true_eq]

variable {W W' : Nat → Snapshot → Prop}

theorem Shrinks.refl (net : Net) : Shrinks W net net :=
  ⟨rfl, fun h => h, fun h => ⟨_, h, .refl _⟩, fun h => ⟨_, h⟩, fun _ => .inl rfl⟩

theorem Shrinks.trans {net₁ net₂ net₃ : Net} (h : Shrinks W net₁ net₂)
    (h' : Shrinks W net₂ net₃) : Shrinks W net₁ net₃ := by
  refine ⟨h'.counter.trans h.counter, fun hreg => h.registry (h'.registry hreg), fun hget => ?_,
    fun hget => ?_, fun hget => ?_⟩
  -- what was closed in the first part is still closed after the second
  · obtain ⟨d₂, hd₂, hbelow₂⟩ := h'.connections hget
    obtain ⟨d₁, hd₁, hbelow₁⟩ := h.connections hd₂
    exact ⟨d₁, hd₁, hbelow₁.trans hbelow₂⟩
  · obtain ⟨d₂, hd₂⟩ := h.kept hget
    exact h'.kept hd₂
  · obtain ⟨d₂, hd₂, hbelow₂⟩ := h'.connections hget
    rcases h'.removed hget with hsame' | hremoved'
    · rcases h.removed hd₂ with hsame | ⟨hclosed, hremoved⟩
      · exact .inl (hsame'.trans hsame)
      · exact .inr ⟨hbelow₂.closed hclosed, hsame'.trans hremoved⟩
    · exact .inr hremoved'

theorem Shrinks.mono {net net' : Net} (h : Shrinks W net net')
    (hle : ∀ id credential, W id credential → W' id credential) : Shrinks W' net net' := by
  refine ⟨h.counter, h.registry, fun hget => ?_, h.kept, h.removed⟩
  obtain ⟨d, hd, hbelow⟩ := h.connections hget
  exact ⟨d, hd, hbelow.mono (hle _)⟩

theorem Shrinks.getByCredentialId {net net' : Net} (h : Shrinks W net net')
    {credentialId : String} {id : Nat} (hid : id ∈ net'.getByCredentialId credentialId) :
    id ∈ net.getByCredentialId credentialId := by
  obtain ⟨hreg, d', hd', hbound⟩ := mem_getByCredentialId.1 hid
  obtain ⟨d, hd, hbelow⟩ := h.connections hd'
  exact mem_getByCredentialId.2 ⟨h.registry hreg, d, hd, hbelow.credentialId.symm.trans hbound⟩

/-! #### Writing one connection -/

section Modify

variable {net : Net} {id id' : Nat} {f : ConnectionData → ConnectionData}

/-- Lookup after a change of one connection. -/
theorem get?_modify :
    (net.modify id f).connections.get? id' =
      if id' = id then (net.connections.get? id).map f else net.connections.get? id' := by
  unfold modify
  cases hd : net.connections.get? id with
  -- an unknown id changes nothing
  | none =>
    by_cases hid : id' = id
    · rw [if_pos hid, hid, hd]
      rfl
    · rw [if_neg hid]
  | some d =>
    show (net.connections.set id (f d)).get? id' = _
    rw [OrdMap.get?_set]
    rfl

@[simp] theorem modify_registry : (net.modify id f).registry = net.registry := by
  unfold modify
  split <;> rfl

@[simp] theorem modify_credentialStates :
    (net.modify id f).credentialStates = net.credentialStates := by
  unfold modify
  split <;> rfl

@[simp] theorem modify_connectionCounter :
    (net.modify id f).connectionCounter = net.connectionCounter := by
  unfold modify
  split <;> rfl

@[simp] theorem modify_heartbeatTimers :
    (net.modify id f).heartbeatTimers = net.heartbeatTimers := by
  unfold modify
  split <;> rfl

theorem get?_modify_eq_some {d' : ConnectionData}
    (h : (net.modify id f).connections.get? id' = some d') :
    ∃ d, net.connections.get? id' = some d ∧ ((id' = id ∧ d' = f d) ∨ (id' ≠ id ∧ d' = d)) := by
  rw [get?_modify] at h
  by_cases hid : id' = id
  · rw [if_pos hid] at h
    obtain ⟨d, hd, rfl⟩ := Option.map_eq_some_iff.1 h
    exact ⟨d, by rw [hid]; exact hd, .inl ⟨hid, rfl⟩⟩
  · rw [if_neg hid] at h
    exact ⟨d', h, .inr ⟨hid, rfl⟩⟩

theorem isOpen_requests (g : OrdMap String Nat → OrdMap String Nat)
    {timers : OrdMap Nat (Nat × String)} :
    Net.isOpen { net.modify id fun d => { d with inFlightRequests := g d.inFlightRequests } with
      requestTimers := timers } id' = net.isOpen id' := by
  show ((net.modify id _).connections.get? id').any _ = (net.connections.get? id').any _
  -- whether a socket is open does not depend on its requests
  rw [get?_modify]
  by_cases hid : id' = id
  · rw [if_pos hid, hid]
    cases net.connections.get? id with
    | none => rfl
    | some d => rfl
  · rw [if_neg hid]

theorem shrinks_modify (hf : ∀ d, (f d).Below (W id) d) : Shrinks W net (net.modify id f) := by
  refine ⟨modify_connectionCounter, fun hreg => by rwa [modify_registry] at hreg, fun hget => ?_,
    fun hget => ?_, fun _ => .inl (by rw [modify_registry])⟩
  · obtain ⟨d, hd, ⟨rfl, rfl⟩ | ⟨-, rfl⟩⟩ := get?_modify_eq_some hget
    · exact ⟨d, hd, hf d⟩
    · exact ⟨_, hd, .refl _⟩
  · rw [get?_modify]
    split
    · next heq =>
      rw [← heq, hget]
      exact ⟨_, rfl⟩
    · exact ⟨_, hget⟩

theorem Shrinks.of_eq {net' : Net} (hcounter : net'.connectionCounter = net.connectionCounter)
    (hconn : net'.connections = net.connections) (hreg : net'.registry = net.registry) :
    Shrinks W net net' := by
  refine ⟨hcounter, fun h => by rwa [hreg] at h, fun h => ⟨_, by rwa [hconn] at h, .refl _⟩,
    fun h => ⟨_, by rw [hconn]; exact h⟩, fun _ => .inl (by rw [hreg])⟩

end Modify

theorem exists_get?_set {m : OrdMap Nat ConnectionData} {id id' : Nat} {d d' : ConnectionData}
    (hget : m.get? id' = some d) : ∃ d'', (m.set id d').get? id' = some d'' := by
  rw [OrdMap.get?_set]
  split
  · exact ⟨_, rfl⟩
  · exact ⟨_, hget⟩

theorem shrinks_set {net net' : Net} {id : Nat} {d d' : ConnectionData}
    (hd : net.connections.get? id = some d) (hconn : net'.connections = net.connections.set id d')
    (hbelow : d'.Below (W id) d) (hreg : net'.registry = net.registry)
    (hcounter : net'.connectionCounter = net.connectionCounter) : Shrinks W net net' := by
  refine ⟨hcounter, fun h => by rwa [hreg] at h, fun hget => ?_, fun hget => ?_,
    fun _ => .inl (by rw [hreg])⟩
  · rw [hconn] at hget
    obtain ⟨rfl, rfl⟩ | ⟨-, hold⟩ := OrdMap.get?_set_eq_some hget
    · exact ⟨d, hd, hbelow⟩
    · exact ⟨_, hold, .refl _⟩
  · rw [hconn]
    exact exists_get?_set hget

theorem has_erase {m : OrdMap Nat Unit} {id id' : Nat} (h : (m.erase id).has id' = true) :
    m.has id' = true := by
  obtain ⟨u, hget⟩ := OrdMap.has_eq_true_iff.1 h
  exact OrdMap.has_eq_true_iff.2 ⟨u, (OrdMap.get?_erase_eq_some hget).2⟩

theorem shrinks_cleanupConnection (net : Net) (id : Nat) :
    Shrinks W net (cleanupConnection id net).1 := by
  unfold cleanupConnection
  split
  · exact .refl net
  · next d hd =>
    -- the callback closes the connection and takes it out of the registry
    rw [ConnectionData.transition_closed]
    refine ⟨rfl, has_erase, fun hget => ?_, exists_get?_set, fun {id' d'} hget => ?_⟩
    · obtain ⟨rfl, rfl⟩ | ⟨-, hold⟩ := OrdMap.get?_set_eq_some hget
      · exact ⟨d, hd, rfl, rfl, nofun, .inr rfl, .inl rfl⟩
      · exact ⟨_, hold, .refl _⟩
    · by_cases hid : id' = id
      · subst hid
        -- the connection itself: closed, and registered no more
        refine .inr ⟨?_, ?_⟩
        · have hd' := (OrdMap.get?_set_self _ _ _).symm.trans hget
          rw [← Option.some.inj hd']
        · show ((net.registry.erase id').get? id').isSome = false
          rw [OrdMap.get?_erase_self]
          rfl
      · refine .inl ?_
        show ((net.registry.erase id).get? id').isSome = (net.registry.get? id').isSome
        rw [OrdMap.get?_erase_of_ne _ hid]

theorem shrinks_closeSocket (cfg : TransportConfig) (net : Net) (id : Nat) (code : CloseCode) :
    Shrinks W net (closeSocket cfg id code net).1 := by
  unfold closeSocket
  split
  -- the socket is closed first; whether the callback runs inline is a parameter
  · have hmodify : Shrinks W net (net.modify id fun d => { d with socketOpen := false }) :=
      shrinks_modify fun _ => ⟨rfl, rfl, nofun, .inl rfl, .inl rfl⟩
    dsimp only
    split
    · exact hmodify.trans (shrinks_cleanupConnection _ _)
    · exact hmodify
  · exact .refl net

end Net

namespace NetOp

/-- The operation opens a connection or binds one to a credential. -/
def binds : NetOp → Bool
  | opened => true
  | accept _ _ _ => true
  | _ => false

/-- The operation writes the record of the connection. -/
def Writes : NetOp → Nat → Snapshot → Prop
  | setRecord connectionId credential, id, credential' =>
    id = connectionId ∧ credential' = credential
  | _, _, _ => False

/-- The other operations bind nothing. -/
theorem shrinks {cfg : TransportConfig} {net : Net} {op : NetOp} (h : op.binds = false) :
    Net.Shrinks op.Writes net (op.apply cfg net).1 := by
  cases op with
  | opened => cases h
  | accept => cases h
  | clearAuthTimer id => exact Net.shrinks_modify fun _ =>
    ⟨rfl, rfl, fun h => ⟨h, rfl⟩, .inl rfl, .inl rfl⟩
  | sendJson => exact .refl net
  | noteProjected => exact .refl net
  -- a frame touches the replay state of its credential only
  | sendSequenced id e =>
    show Net.Shrinks _ net (Net.sendSequenced id e net).1
    unfold Net.sendSequenced
    split
    · exact .refl net
    · split
      · exact .refl net
      · exact .of_eq rfl rfl rfl
  | cleanupConnection id => exact Net.shrinks_cleanupConnection net id
  | closeSocket id code => exact Net.shrinks_closeSocket cfg net id code
  | setRecord id credential =>
    exact Net.shrinks_modify fun _ =>
      ⟨rfl, rfl, fun h => ⟨h, rfl⟩, .inl rfl, .inr ⟨credential, rfl, rfl, rfl⟩⟩
  -- the heartbeat and the requests are no part of what a connection is bound to
  | stopHeartbeat id =>
    show Net.Shrinks _ net (Net.stopHeartbeat id net).1
    unfold Net.stopHeartbeat
    split
    · exact .refl net
    · next d hd =>
      split
      · exact .refl net
      · exact Net.shrinks_set hd rfl ⟨rfl, rfl, fun h => ⟨h, rfl⟩, .inl rfl, .inl rfl⟩ rfl rfl
  | startHeartbeat id timer =>
    show Net.Shrinks _ net (Net.startHeartbeat id timer net).1
    unfold Net.startHeartbeat
    split
    · exact .refl net
    · next d hd =>
      split
      · exact .refl net
      · exact Net.shrinks_set hd rfl ⟨rfl, rfl, fun h => ⟨h, rfl⟩, .inl rfl, .inl rfl⟩ rfl rfl
  | beginRequest id timer requestId =>
    have hmodify : Net.Shrinks (beginRequest id timer requestId).Writes net (net.modify id fun d =>
        { d with inFlightRequests := d.inFlightRequests.set requestId timer }) :=
      Net.shrinks_modify fun _ => ⟨rfl, rfl, fun h => ⟨h, rfl⟩, .inl rfl, .inl rfl⟩
    exact hmodify.trans (.of_eq rfl rfl rfl)
  | endRequest id requestId reply =>
    show Net.Shrinks _ net (Net.endRequest id requestId reply net).1
    unfold Net.endRequest
    split
    · exact .refl net
    · have hmodify : Net.Shrinks (endRequest id requestId reply).Writes net (net.modify id fun d =>
          { d with inFlightRequests := d.inFlightRequests.erase requestId }) :=
        Net.shrinks_modify fun _ => ⟨rfl, rfl, fun h => ⟨h, rfl⟩, .inl rfl, .inl rfl⟩
      exact hmodify.trans (.of_eq rfl rfl rfl)
  | timeoutRequest id timer requestId =>
    have hmodify : Net.Shrinks (timeoutRequest id timer requestId).Writes net
        (net.modify id fun d =>
          { d with inFlightRequests := d.inFlightRequests.erase requestId }) :=
      Net.shrinks_modify fun _ => ⟨rfl, rfl, fun h => ⟨h, rfl⟩, .inl rfl, .inl rfl⟩
    exact hmodify.trans (.of_eq rfl rfl rfl)

end NetOp

/-! ### Binding a connection -/

/-- The connection after an accepted token lookup. -/
def ConnectionData.accepted (d : ConnectionData) (credential : Snapshot) : ConnectionData :=
  { d with
    phase := if d.phase = .authenticating then .active else d.phase
    credentialRecord := some credential
    credentialId := some credential.record.credentialId
    credentialReplayState := some credential.record.credentialId }

namespace Net

variable {cfg : TransportConfig} {net : Net} {id : Nat} {credential : Snapshot}
  {lastSeenSeq : Option Nat}

theorem accept_of_none (hd : net.connections.get? id = none) :
    accept cfg id credential lastSeenSeq net = (net, []) := by
  unfold accept
  dsimp only
  rw [hd]

theorem accept_of_some {d : ConnectionData} (hd : net.connections.get? id = some d) :
    accept cfg id credential lastSeenSeq net =
      ({ net with
          connections := net.connections.set id (d.accepted credential)
          registry := net.registry.set id ()
          credentialStates := net.credentialStates.set credential.record.credentialId
            (net.getOrCreateCredentialState cfg credential.record.credentialId) },
        [.accepted id credential.lookup credential.record.credentialId lastSeenSeq,
          .cached id credential.lookup]) := by
  unfold accept
  dsimp only
  rw [hd]
  -- the transition is allowed from `authenticating` only; other phases stay
  obtain ⟨phase, _, _, _, _, _, _, _⟩ := d
  cases phase <;> rfl

end Net

/-! ### What the operations emit -/

inductive EmittedBy (net : Net) : NetOp → NetEvent → Prop
  | sent {connectionId : Nat} {frame : ServerFrame} (hopen : net.isOpen connectionId = true) :
      EmittedBy net (.sendJson connectionId frame) (.sent connectionId frame)
  | sequenced {connectionId : Nat} {e : SourcedEvent} {credentialId : String}
      {st : CredentialReplayState}
      (hbound : (net.connections.get? connectionId).bind (·.credentialReplayState) =
        some credentialId)
      (hstate : net.credentialStates.get? credentialId = some st) :
      EmittedBy net (.sendSequenced connectionId e) (.sequenced credentialId (st.frame e))
  | sentSequenced {connectionId : Nat} {e : SourcedEvent} {credentialId : String}
      {st : CredentialReplayState}
      (hbound : (net.connections.get? connectionId).bind (·.credentialReplayState) =
        some credentialId)
      (hstate : net.credentialStates.get? credentialId = some st)
      (hopen : net.isOpen connectionId = true) :
      EmittedBy net (.sendSequenced connectionId e) (.sent connectionId (.sequenced (st.frame e)))
  | closing {connectionId : Nat} {code : CloseCode} :
      EmittedBy net (.closeSocket connectionId code) (.closing connectionId code)
  | closedInline {connectionId : Nat} {code : CloseCode} :
      EmittedBy net (.closeSocket connectionId code) (.closed connectionId)
  | closed {connectionId : Nat} :
      EmittedBy net (.cleanupConnection connectionId) (.closed connectionId)
  | accepted {connectionId : Nat} {credential : Snapshot} {lastSeenSeq : Option Nat}
      {d : ConnectionData} (hd : net.connections.get? connectionId = some d) :
      EmittedBy net (.accept connectionId credential lastSeenSeq)
        (.accepted connectionId credential.lookup credential.record.credentialId lastSeenSeq)
  | cachedFirst {connectionId : Nat} {credential : Snapshot} {lastSeenSeq : Option Nat} :
      EmittedBy net (.accept connectionId credential lastSeenSeq)
        (.cached connectionId credential.lookup)
  | cached {connectionId : Nat} {credential : Snapshot} :
      EmittedBy net (.setRecord connectionId credential) (.cached connectionId credential.lookup)
  | projected {connectionId broadcast lookup : Nat} {credentialId : String}
      (hopen : net.isOpen connectionId = true) :
      EmittedBy net (.noteProjected connectionId credentialId broadcast lookup)
        (.projected connectionId credentialId broadcast lookup)
  | answered {connectionId : Nat} {requestId : String} {reply : RequestReply}
      (hopen : net.isOpen connectionId = true) :
      EmittedBy net (.endRequest connectionId requestId reply)
        (.sent connectionId (.response requestId reply))
  | timedOut {connectionId timer : Nat} {requestId : String}
      (hopen : net.isOpen connectionId = true) :
      EmittedBy net (.timeoutRequest connectionId timer requestId)
        (.sent connectionId (.response requestId .timedOut))

section Emitted

variable {cfg : TransportConfig} {net : Net} {connectionId : Nat} {e : NetEvent}

theorem mem_sendJson {frame : ServerFrame} (h : e ∈ (Net.sendJson connectionId frame net).2) :
    net.isOpen connectionId = true ∧ e = .sent connectionId frame := by
  unfold Net.sendJson at h
  dsimp only at h
  split at h
  · next hopen => exact ⟨hopen, List.mem_singleton.1 h⟩
  · cases h

theorem mem_cleanupConnection (h : e ∈ (Net.cleanupConnection connectionId net).2) :
    e = .closed connectionId := by
  unfold Net.cleanupConnection at h
  split at h
  · cases h
  · exact List.mem_singleton.1 h

theorem mem_closeSocket {code : CloseCode}
    (h : e ∈ (Net.closeSocket cfg connectionId code net).2) :
    e = .closing connectionId code ∨ e = .closed connectionId := by
  unfold Net.closeSocket at h
  split at h
  · dsimp only at h
    split at h
    · rcases List.mem_cons.1 h with rfl | hclosed
      · exact .inl rfl
      · exact .inr (mem_cleanupConnection hclosed)
    · exact .inl (List.mem_singleton.1 h)
  · cases h

/-- **What the operations emit.** -/
theorem emittedBy {op : NetOp} (h : e ∈ (op.apply cfg net).2) : EmittedBy net op e := by
  cases op with
  | opened => cases h
  | clearAuthTimer => cases h
  | beginRequest => cases h
  | sendJson connectionId frame =>
    obtain ⟨hopen, rfl⟩ := mem_sendJson h
    exact .sent hopen
  -- the frame is recorded whether or not the socket is open
  | sendSequenced connectionId e' =>
    replace h : e ∈ (Net.sendSequenced connectionId e' net).2 := h
    unfold Net.sendSequenced at h
    split at h
    · cases h
    · next hbound =>
      split at h
      · cases h
      · next hstate =>
        rcases List.mem_cons.1 h with rfl | hsent
        · exact .sequenced hbound hstate
        · split at hsent
          · next hopen =>
            rw [List.mem_singleton.1 hsent]
            exact .sentSequenced hbound hstate hopen
          · cases hsent
  | noteProjected connectionId credentialId broadcast lookup =>
    replace h : e ∈ (if net.isOpen connectionId then
      [NetEvent.projected connectionId credentialId broadcast lookup] else []) := h
    split at h
    · next hopen =>
      rw [List.mem_singleton.1 h]
      exact .projected hopen
    · cases h
  | cleanupConnection connectionId =>
    rw [mem_cleanupConnection h]
    exact .closed
  | closeSocket connectionId code =>
    rcases mem_closeSocket h with rfl | rfl
    · exact .closing
    · exact .closedInline
  | setRecord connectionId credential =>
    rw [List.mem_singleton.1 h]
    exact .cached
  | stopHeartbeat connectionId =>
    replace h : e ∈ (Net.stopHeartbeat connectionId net).2 := h
    unfold Net.stopHeartbeat at h
    split at h
    · cases h
    · split at h <;> cases h
  | startHeartbeat connectionId timer =>
    replace h : e ∈ (Net.startHeartbeat connectionId timer net).2 := h
    unfold Net.startHeartbeat at h
    split at h
    · cases h
    · split at h <;> cases h
  -- accepting delivers a first record
  | accept connectionId credential lastSeenSeq =>
    replace h : e ∈ (Net.accept cfg connectionId credential lastSeenSeq net).2 := h
    unfold Net.accept at h
    dsimp only at h
    split at h
    · cases h
    · next hd =>
      rcases List.mem_cons.1 h with rfl | hcached
      · exact .accepted hd
      · rw [List.mem_singleton.1 hcached]
        exact .cachedFirst
  -- only a request in flight is answered, on an open socket
  | endRequest connectionId requestId reply =>
    replace h : e ∈ (Net.endRequest connectionId requestId reply net).2 := h
    unfold Net.endRequest at h
    split at h
    · cases h
    · obtain ⟨hopen, rfl⟩ := mem_sendJson h
      exact .answered ((Net.isOpen_requests (·.erase requestId)).symm.trans hopen)
  | timeoutRequest connectionId timer requestId =>
    obtain ⟨hopen, rfl⟩ := mem_sendJson h
    exact .timedOut ((Net.isOpen_requests (·.erase requestId)).symm.trans hopen)

end Emitted

end Signet.Ws
