import Signet.Ws.ServerStep

/-!
# What reaches a connection

`broadcastToCredential` hands every event to the projector, which filters
`message.visible` and lets `message.revealed` pass. So a `message.visible` event is
always sent within the record that the connection holds, while a
`message.revealed` event is as safe as the replay that produced it: the replay
checks the record of the *request*, which an invalidation may have narrowed since,
and its events may wait in the queue of an invalidation.

* `replaysProjected` is the condition: only replays broadcast `message.revealed`,
  none into a queue, and none to a connection whose record has lost `read-history`.
* `content_sent_projected`: in every run under the condition, what carries content
  is sent within the connection's record (`ContentAllowed`).
* `narrowed_connection_gets_replay`: a run without it.
-/

namespace Signet

open Lib

/-! ### The condition -/

/-- A `message.revealed` event. -/
def SignetEvent.isRevealed : SignetEvent → Bool
  | .messageRevealed _ => true
  | _ => false

/-- `read-history` is effective in the record. -/
def CredentialRecord.readsHistory (credential : CredentialRecord) : Bool :=
  .readHistory ∈ resolveScopeSet credential.effectiveScopes

section Condition

variable (parseDate : String → Option Time) (s : WsState)

/-- **The condition under which replays stay within the projection**: `broadcast` is
not called with `message.revealed` from elsewhere, and a replay that has something
to send finds no invalidation of the credential pending and `read-history`
effective on every connection it reaches. -/
def replaysProjected : WsAction → Bool
  | .broadcast _ event _ => !event.isRevealed
  | .messagesListed call (.ok messages) now =>
    match s.calls.get? call with
    | some (.revealing credential access) =>
      (replayEvents parseDate ((s.revealState credential.credentialId).getD []) credential access
        now messages).isEmpty ||
      (!s.invalidations.has credential.credentialId &&
        s.connections.values.all fun conn =>
          conn.credentialId ≠ credential.credentialId || !conn.receives ||
            conn.credentialRecord.readsHistory)
    | _ => true
  | _ => true

/-- Credential ids are drawn fresh. -/
def WsState.freshIds : WsAction → Bool
  | .service a => freshCredentialId s.service a
  | _ => true

end Condition

/-! ### The invariant -/

/-- The record is the stored one's, up to what may change: same id, same chats. -/
def Known (m : CredentialStore) (credential : CredentialRecord) : Prop :=
  ∃ r, m.byId.get? credential.credentialId = some r ∧ r.chatIds = credential.chatIds

theorem Known.keep {m m' : CredentialStore} (h : KeepsChats m m') {credential : CredentialRecord}
    (hknown : Known m credential) : Known m' credential := by
  obtain ⟨r, hr, heq⟩ := hknown
  obtain ⟨r', hr', heq'⟩ := h hr
  exact ⟨r', hr', heq'.trans heq⟩

theorem known_of_lookup {m : CredentialStore} (hkeyed : Keyed m) {id : String}
    {r : InternalCredentialRecord} (now : Time) (hr : m.byId.get? id = some r) :
    Known m (toCredentialRecord r now) ∧ (toCredentialRecord r now).credentialId = id := by
  have hid : (toCredentialRecord r now).credentialId = id := hkeyed hr
  exact ⟨⟨r, by rw [hid]; exact hr, rfl⟩, hid⟩

/-- A record that will be delivered to a connection is one of its credential. -/
structure DeliverableTo (s : WsState) (connectionId : Nat) (credential : CredentialRecord) :
    Prop where
  known : Known s.store credential
  owner : ∀ {conn}, s.connections.get? connectionId = some conn →
    conn.credentialId = credential.credentialId

/-- What is known of a call in flight. -/
def WsCall.Ok (s : WsState) : WsCall → Prop
  | .authenticating (.ok credential) => Known s.store credential
  | .refreshing connectionId _ (.ok credential) =>
    connectionId < s.connectionCounter ∧ DeliverableTo s connectionId credential
  | .requesting connectionId _ (.ok credential) =>
    connectionId < s.connectionCounter ∧ DeliverableTo s connectionId credential
  | .revealing credential _ => Known s.store credential
  | .invalidating credentialId _ (.ok credential) =>
    credential.credentialId = credentialId ∧ Known s.store credential
  | _ => True

/-- What is known of a registered connection. -/
structure Connection.Ok (s : WsState) (id : Nat) (conn : Connection) : Prop where
  registered : id < s.connectionCounter
  record_id : conn.credentialRecord.credentialId = conn.credentialId
  known : Known s.store conn.credentialRecord

/-- **Records held by the server along a run.** -/
structure WsInv (s : WsState) : Prop where
  keyed : Keyed s.store
  connections_ok : ∀ {id conn}, s.connections.get? id = some conn → conn.Ok s id
  calls_ok : ∀ {call phase}, s.calls.get? call = some phase → phase.Ok s
  /-- No `message.revealed` waits in a queue. -/
  queues : ∀ {id entry}, s.invalidations.get? id = some entry →
    ∀ event ∈ entry.events, event.isRevealed = false

/-- What every step leaves alone: chats, the meaning of a connection id and its
owner. -/
structure WsFrame (s s' : WsState) : Prop where
  chats : KeepsChats s.store s'.store
  counter : s.connectionCounter ≤ s'.connectionCounter
  owners : ∀ {id conn'}, id < s.connectionCounter → s'.connections.get? id = some conn' →
    ∃ conn, s.connections.get? id = some conn ∧ conn'.credentialId = conn.credentialId

theorem WsFrame.of_connections {s s' : WsState} (hchats : KeepsChats s.store s'.store)
    (hconn : s'.connections = s.connections)
    (hcounter : s'.connectionCounter = s.connectionCounter) :
    WsFrame s s' :=
  ⟨hchats, hcounter.ge, fun _ hget => ⟨_, by rw [← hconn]; exact hget, rfl⟩⟩

theorem DeliverableTo.keep {s s' : WsState} (h : WsFrame s s') {connectionId : Nat}
    {credential : CredentialRecord} (hlt : connectionId < s.connectionCounter)
    (hdel : DeliverableTo s connectionId credential) :
    DeliverableTo s' connectionId credential where
  known := hdel.known.keep h.chats
  owner hget := by
    obtain ⟨conn, hconn, howner⟩ := h.owners hlt hget
    exact howner.trans (hdel.owner hconn)

theorem WsCall.Ok.keep {s s' : WsState} (h : WsFrame s s') {phase : WsCall} (hok : phase.Ok s) :
    phase.Ok s' := by
  unfold WsCall.Ok at hok ⊢
  split at hok
  · exact hok.keep h.chats
  · exact ⟨hok.1.trans_le h.counter, hok.2.keep h hok.1⟩
  · exact ⟨hok.1.trans_le h.counter, hok.2.keep h hok.1⟩
  · exact hok.keep h.chats
  · exact ⟨hok.1, hok.2.keep h.chats⟩
  · trivial

theorem Connection.Ok.keep {s s' : WsState} (h : WsFrame s s') {id : Nat} {conn : Connection}
    (hok : conn.Ok s id) : conn.Ok s' id :=
  ⟨hok.registered.trans_le h.counter, hok.record_id, hok.known.keep h.chats⟩

/-- What a call that delivers a record knows. -/
theorem WsCall.Ok.delivers {s : WsState} {phase : WsCall} (hok : phase.Ok s) {connectionId : Nat}
    {credential : CredentialRecord} (h : phase.delivers = some (connectionId, credential)) :
    DeliverableTo s connectionId credential := by
  unfold WsCall.delivers at h
  split at h
  · cases h; exact hok.2
  · cases h; exact hok.2
  · cases h

namespace WsInv

variable {cfg : CredentialManagerConfig} {hash : ScopeSet → List String → String}
  {parseDate : String → Option Time} {s s' : WsState} {a : WsAction} {es : List WsEvent}

theorem initial : WsInv (wsMachine cfg hash parseDate).init where
  keyed := Keyed.initial
  connections_ok h := by simp [wsMachine] at h
  calls_ok h := by simp [wsMachine] at h
  queues h := by simp [wsMachine] at h

private theorem of_frame (hI : WsInv s) (hframe : WsFrame s s') (hkeyed : Keyed s'.store)
    (hconn : ∀ {id conn}, s'.connections.get? id = some conn →
      s.connections.get? id = some conn ∨ conn.Ok s' id)
    (hcalls : ∀ {call phase}, s'.calls.get? call = some phase →
      s.calls.get? call = some phase ∨ phase.Ok s')
    (hqueues : ∀ {id entry}, s'.invalidations.get? id = some entry →
      ∀ event ∈ entry.events, event.isRevealed = false) : WsInv s' where
  keyed := hkeyed
  connections_ok hget := by
    -- a connection or a call is as before, or has just been made right
    rcases hconn hget with hold | hnew
    · exact (hI.connections_ok hold).keep hframe
    · exact hnew
  calls_ok hget := by
    rcases hcalls hget with hold | hnew
    · exact (hI.calls_ok hold).keep hframe
    · exact hnew
  queues := hqueues

private theorem setRecord_frame (s : WsState) (connectionId : Nat)
    (credential : CredentialRecord) :
    WsFrame s (s.setRecord connectionId credential) ∧
      (s.setRecord connectionId credential).store = s.store ∧
      (s.setRecord connectionId credential).calls = s.calls ∧
      (s.setRecord connectionId credential).connectionCounter = s.connectionCounter ∧
      (s.setRecord connectionId credential).invalidations = s.invalidations := by
  unfold WsState.setRecord
  split
  · next conn hconn =>
    refine ⟨⟨fun hr => ⟨_, hr, rfl⟩, le_rfl, ?_⟩, rfl, rfl, rfl, rfl⟩
    intro id conn' _ hget
    rcases OrdMap.get?_set_eq_some hget with ⟨rfl, rfl⟩ | ⟨-, hget⟩
    · exact ⟨conn, hconn, rfl⟩
    · exact ⟨conn', hget, rfl⟩
  · exact ⟨⟨fun hr => ⟨_, hr, rfl⟩, le_rfl, fun _ hget => ⟨_, hget, rfl⟩⟩, rfl, rfl, rfl, rfl⟩

private theorem setRecord_connection {connectionId : Nat} {credential : CredentialRecord}
    (hdel : DeliverableTo s connectionId credential) (hI : WsInv s) {id : Nat} {conn : Connection}
    (hget : (s.setRecord connectionId credential).connections.get? id = some conn) :
    s.connections.get? id = some conn ∨
      (id < s.connectionCounter ∧ conn.credentialRecord.credentialId = conn.credentialId ∧
        Known s.store conn.credentialRecord) := by
  unfold WsState.setRecord at hget
  split at hget
  · next conn₀ hconn =>
    rcases OrdMap.get?_set_eq_some hget with ⟨rfl, rfl⟩ | ⟨-, hget⟩
    -- the record that is delivered is one of the owner of the connection
    · exact .inr ⟨(hI.connections_ok hconn).registered, (hdel.owner hconn).symm, hdel.known⟩
    · exact .inl hget
  · exact .inl hget

/-- A lookup is called; `t` is the state with the invalidation it may have started. -/
private theorem of_look (hI : WsInv s) {t : WsState} {o : Outcome (Result CredentialRecord)}
    {call : Nat} {phase : Result CredentialRecord → WsCall} (hkeep : Keeps s.store o.store)
    (hconn : t.connections = s.connections) (hcounter : t.connectionCounter = s.connectionCounter)
    (hcalls : t.calls = s.calls)
    (hqueues : ∀ {id entry}, t.invalidations.get? id = some entry →
      ∀ event ∈ entry.events, event.isRevealed = false)
    (hphase : Keyed o.store → (phase o.value).Ok (t.look o call phase).1) :
    WsInv (t.look o call phase).1 := by
  have hkeyed : Keyed o.store := hkeep.keyed hI.keyed
  refine hI.of_frame (.of_connections hkeep.keepsChats hconn hcounter) hkeyed ?_ ?_ hqueues
  · intro id conn hget
    rw [← hconn]
    exact .inl hget
  · intro c ph hget
    rcases OrdMap.get?_set_eq_some hget with ⟨rfl, rfl⟩ | ⟨-, hget⟩
    · exact .inr (hphase hkeyed)
    · rw [← hcalls]
      exact .inl hget

private theorem deliverable_of_lookup (hI : WsInv s) {connectionId call : Nat} {conn : Connection}
    {now : Time} {phase : Result CredentialRecord → WsCall} {credential : CredentialRecord}
    (hconn : s.connections.get? connectionId = some conn)
    (hkeyed : Keyed (Service.lookup cfg s.store conn.credentialRecord.credentialId now).store)
    (hvalue : (Service.lookup cfg s.store conn.credentialRecord.credentialId now).value =
      .ok credential) :
    connectionId < s.connectionCounter ∧
      DeliverableTo (s.look (Service.lookup cfg s.store conn.credentialRecord.credentialId now)
        call phase).1 connectionId credential := by
  obtain ⟨r, hr, rfl⟩ := lookup_eq_ok hvalue
  obtain ⟨hknown, hid⟩ := known_of_lookup hkeyed now hr
  have hok := hI.connections_ok hconn
  refine ⟨hok.registered, hknown, ?_⟩
  intro conn' hconn'
  have heq : conn' = conn := Option.some.inj (hconn'.symm.trans hconn)
  rw [hid, heq, hok.record_id]

private theorem lookupCall (hI : WsInv s) {t : WsState} {o : Outcome (Result CredentialRecord)}
    {call : Nat} {phase : Result CredentialRecord → WsCall}
    (hlook : LookupCall cfg s a t o call phase) : WsInv (t.look o call phase).1 := by
  cases hlook with
  | @authenticate call token now =>
    have hkeep := (s.store.getCredentialByToken_frame token now).keeps
    refine hI.of_look hkeep rfl rfl rfl hI.queues fun hkeyed => ?_
    cases hvalue : (Service.lookupByToken s.store token now).value with
    | error e => trivial
    | ok credential =>
      obtain ⟨id, r, hr, rfl⟩ := lookupByToken_eq_ok hvalue
      exact (known_of_lookup hkeyed now hr).1
  | @refresh call connectionId heartbeat now conn hconn =>
    have hkeep := (s.store.sweepExpired_frame cfg now).keeps
    refine hI.of_look hkeep rfl rfl rfl hI.queues fun hkeyed => ?_
    cases hvalue : (Service.lookup cfg s.store conn.credentialRecord.credentialId now).value with
    | error e => trivial
    | ok credential => exact hI.deliverable_of_lookup hconn hkeyed hvalue
  | @request call connectionId reveal now conn hconn =>
    have hkeep := (s.store.sweepExpired_frame cfg now).keeps
    refine hI.of_look hkeep rfl rfl rfl hI.queues fun hkeyed => ?_
    cases hvalue : (Service.lookup cfg s.store conn.credentialRecord.credentialId now).value with
    | error e => trivial
    | ok credential => exact hI.deliverable_of_lookup hconn hkeyed hvalue
  | @invalidate call credentialId now =>
    have hkeep := (s.store.sweepExpired_frame cfg now).keeps
    refine hI.of_look hkeep rfl rfl rfl ?_ fun hkeyed => ?_
    · -- a new entry starts with an empty queue
      intro id entry hget
      rcases OrdMap.get?_set_eq_some hget with ⟨rfl, rfl⟩ | ⟨-, hget⟩
      · split
        · next existing hexisting => exact fun event hmem => hI.queues hexisting event hmem
        · simp
      · exact hI.queues hget
    · cases hvalue : (Service.lookup cfg s.store credentialId now).value with
      | error e => trivial
      | ok credential =>
        obtain ⟨r, hr, rfl⟩ := lookup_eq_ok hvalue
        obtain ⟨hknown, hid⟩ := known_of_lookup hkeyed now hr
        exact ⟨hid, hknown⟩

/-- Broadcasting events that are not `message.revealed`, or with nothing pending. -/
private theorem broadcastAll (hI : WsInv s) {credentialId : String} {events : List SignetEvent}
    {now : Time}
    (hevents : (∀ event ∈ events, event.isRevealed = false) ∨
      s.invalidations.get? credentialId = none) :
    WsInv (s.broadcastAll parseDate now credentialId events).1 := by
  have hsame : WsState.SameButQueues s (s.broadcastAll parseDate now credentialId events).1 :=
    WsState.broadcastAll_same parseDate now s credentialId events
  have hstore : (s.broadcastAll parseDate now credentialId events).1.store = s.store := by
    rw [WsState.store, hsame.service_eq]
  refine hI.of_frame (.of_connections ?_ hsame.connections_eq hsame.counter_eq) ?_ ?_ ?_ ?_
  · rw [hstore]
    exact fun hr => ⟨_, hr, rfl⟩
  · rw [hstore]
    exact hI.keyed
  · rw [hsame.connections_eq]
    exact .inl
  · rw [hsame.calls_eq]
    exact .inl
  · intro id entry hget event hmem
    rcases WsState.queued_of_broadcastAll hget hmem with ⟨entry₀, hold, hmem⟩ | ⟨hmem, hpending⟩
    · exact hI.queues hold event hmem
    · rcases hevents with hevents | hnone
      · exact hevents event hmem
      · exact absurd hnone hpending

private theorem broadcast (hI : WsInv s) {credentialId : String} {event : SignetEvent} {now : Time}
    (hevent : event.isRevealed = false) :
    WsInv (s.broadcast parseDate now credentialId event).1 := by
  have h : WsInv (s.broadcastAll parseDate now credentialId [event]).1 :=
    hI.broadcastAll (.inl (by simpa using hevent))
  exact h

private theorem finish (hI : WsInv s) (call : Nat) : WsInv (s.finish call) :=
  hI.of_frame (.of_connections (fun hr => ⟨_, hr, rfl⟩) rfl rfl) hI.keyed .inl
    (fun hget => .inl (OrdMap.get?_erase_eq_some hget).2) hI.queues

private theorem applyInvalidation (hI : WsInv s) {credentialId : String} (latest : Bool)
    {looked : Result CredentialRecord}
    (hlooked : ∀ credential, looked = .ok credential →
      credential.credentialId = credentialId ∧ Known s.store credential) :
    WsInv (s.applyInvalidation credentialId latest looked).1 ∧
      (s.applyInvalidation credentialId latest looked).1.invalidations = s.invalidations := by
  unfold WsState.applyInvalidation
  split
  · refine ⟨?_, rfl⟩
    -- a connection keeps its owner, and its record stays one of its credential
    have hget : ∀ {id conn'},
        (s.connections.mapValues (WsState.refreshConnection credentialId looked)).get? id =
          some conn' → ∃ conn, s.connections.get? id = some conn ∧
            conn' = WsState.refreshConnection credentialId looked conn := by
      intro id conn' hget
      rw [OrdMap.get?_mapValues] at hget
      obtain ⟨conn, hconn, heq⟩ := Option.map_eq_some_iff.1 hget
      exact ⟨conn, hconn, heq.symm⟩
    refine hI.of_frame ⟨fun hr => ⟨_, hr, rfl⟩, le_rfl, ?_⟩ hI.keyed ?_ .inl hI.queues
    · intro id conn' _ hconn'
      obtain ⟨conn, hconn, rfl⟩ := hget hconn'
      refine ⟨conn, hconn, ?_⟩
      rcases WsState.refreshConnection_cases credentialId looked conn with hself | ⟨_, _, _, hfresh⟩
      · rw [hself]
      · rw [hfresh]
    · intro id conn' hconn'
      obtain ⟨conn, hconn, rfl⟩ := hget hconn'
      have hok := hI.connections_ok hconn
      rcases WsState.refreshConnection_cases credentialId looked conn with
        hself | ⟨fresh, rfl, hid, hfresh⟩
      · rw [hself]
        exact .inl hconn
      · obtain ⟨hfresh_id, hknown⟩ := hlooked fresh rfl
        rw [hfresh]
        exact .inr ⟨hok.registered, hfresh_id.trans hid.symm, hknown⟩
  · exact ⟨hI, rfl⟩

private theorem eraseInvalidation (hI : WsInv s) (credentialId : String) :
    WsInv { s with invalidations := s.invalidations.erase credentialId } :=
  hI.of_frame (.of_connections (fun hr => ⟨_, hr, rfl⟩) rfl rfl) hI.keyed .inl .inl
    fun hget => hI.queues (OrdMap.get?_erase_eq_some hget).2

/-- The last invalidation drains its queue. -/
private theorem releaseInvalidation (hI : WsInv s) {credentialId : String} {entry : Invalidation}
    {now : Time} (hentry : ∀ event ∈ entry.events, event.isRevealed = false) :
    WsInv (s.releaseInvalidation parseDate now credentialId entry).1 := by
  unfold WsState.releaseInvalidation
  split
  · exact (hI.eraseInvalidation credentialId).broadcastAll (.inl hentry)
  · refine hI.of_frame (.of_connections (fun hr => ⟨_, hr, rfl⟩) rfl rfl) hI.keyed .inl .inl ?_
    intro id entry' hget
    rcases OrdMap.get?_set_eq_some hget with ⟨rfl, rfl⟩ | ⟨-, hget⟩
    · exact hentry
    · exact hI.queues hget

/-- **Every step keeps the invariant** under the condition. -/
theorem step (hI : WsInv s) (hfresh : s.freshIds a = true)
    (hreplays : replaysProjected parseDate s a = true)
    (hstep : WsStep cfg hash parseDate s a s' es) : WsInv s' := by
  cases hstep with
  | @service a service es hs =>
    have hstep := serviceStep_sound hs
    have hchats : KeepsChats s.store service.store := hstep.keepsChats hfresh
    exact hI.of_frame (.of_connections hchats rfl rfl) (hstep.keyed hI.keyed) .inl .inl hI.queues
  | looked hlook => exact hI.lookupCall hlook
  | finished _ => exact hI.finish _
  | @authenticated call credential hcall =>
    have hknown : Known s.store credential := hI.calls_ok hcall
    refine hI.of_frame ⟨fun hr => ⟨_, hr, rfl⟩, Nat.le_succ _, ?_⟩ hI.keyed ?_
      (fun hget => .inl (OrdMap.get?_erase_eq_some hget).2) hI.queues
    · intro id conn' hlt hget
      rcases OrdMap.get?_set_eq_some hget with ⟨rfl, -⟩ | ⟨-, hget⟩
      -- the new connection is none of those before
      · exact absurd hlt (lt_irrefl _)
      · exact ⟨conn', hget, rfl⟩
    · intro id conn hget
      rcases OrdMap.get?_set_eq_some hget with ⟨rfl, rfl⟩ | ⟨-, hget⟩
      · exact .inr ⟨Nat.lt_succ_self _, rfl, hknown⟩
      · exact .inl hget
  | @delivered a call connectionId phase credential es hcall hdelivers _ =>
    have hdel := (hI.calls_ok hcall).delivers hdelivers
    obtain ⟨hframe, hstore, hcalls, hcounter, hinv⟩ :=
      setRecord_frame s connectionId credential
    refine WsInv.finish (hI.of_frame hframe (by rw [hstore]; exact hI.keyed) ?_ ?_ ?_) call
    · intro id conn hget
      rcases setRecord_connection hdel hI hget with hold | ⟨hlt, hid, hknown⟩
      · exact .inl hold
      · exact .inr ⟨by rw [hcounter]; exact hlt, hid, by rw [hstore]; exact hknown⟩
    · rw [hcalls]
      exact .inl
    · rw [hinv]
      exact hI.queues
  | @revealed call connectionId reveal credential now store access hcall hbyId =>
    have hdel : DeliverableTo s connectionId credential := (hI.calls_ok hcall).delivers rfl
    obtain ⟨hframe, hstore, hcalls, hcounter, hinv⟩ :=
      setRecord_frame s connectionId credential
    have hkeep : Keeps s.store store := .of_byId_eq hbyId
    refine hI.of_frame ⟨hkeep.keepsChats, hcounter.ge, hframe.owners⟩ (hkeep.keyed hI.keyed)
      ?_ ?_ ?_
    · intro id conn hget
      rcases setRecord_connection hdel hI hget with hold | ⟨hlt, hid, hknown⟩
      · exact .inl hold
      · exact .inr ⟨by show id < _; rw [hcounter]; exact hlt, hid, hknown.keep hkeep.keepsChats⟩
    · intro c phase hget
      rcases OrdMap.get?_set_eq_some hget with ⟨rfl, rfl⟩ | ⟨-, hget⟩
      · exact .inr (hdel.known.keep hkeep.keepsChats)
      · exact .inl hget
    · show ∀ {id entry}, (s.setRecord connectionId credential).invalidations.get? id =
        some entry → _
      rw [hinv]
      exact hI.queues
  | @replayed call credential access messages now es s' hcall hs hes =>
    subst hs
    refine (hI.finish call).broadcastAll ?_
    simp only [replaysProjected, hcall, Bool.or_eq_true, Bool.and_eq_true] at hreplays
    rcases hreplays with hempty | ⟨hnone, -⟩
    · rw [List.isEmpty_iff.1 hempty]
      exact .inl (by simp)
    · right
      show s.invalidations.get? credential.credentialId = none
      simpa [OrdMap.has] using hnone
  | @invalidated call generation credentialId looked entry now applied es hcall hentry happlied _ =>
    have hlooked : ∀ credential, looked = .ok credential →
        credential.credentialId = credentialId ∧ Known (s.finish call).store credential := by
      rintro credential rfl
      exact hI.calls_ok hcall
    obtain ⟨happ, -⟩ := (hI.finish call).applyInvalidation
      (decide (entry.generation = generation)) hlooked
    rw [happlied] at happ
    exact happ.releaseInvalidation (hI.queues hentry)
  | @broadcast credentialId event now =>
    refine hI.broadcast ?_
    simpa [replaysProjected] using hreplays
  | @connections a connections hconn =>
    refine hI.of_frame ⟨fun hr => ⟨_, hr, rfl⟩, le_rfl, ?_⟩ hI.keyed ?_ .inl hI.queues
    · intro id conn' _ hget
      obtain ⟨conn, hold, howner, -⟩ := hconn hget
      exact ⟨conn, hold, howner⟩
    · intro id conn' hget
      obtain ⟨conn, hold, howner, hrecord⟩ := hconn hget
      have hok := hI.connections_ok hold
      exact .inr ⟨hok.registered, by rw [hrecord, howner]; exact hok.record_id,
        by rw [hrecord]; exact hok.known⟩

end WsInv

/-! ### What is sent -/

/-- Content for a connection is allowed at the moment: the message is in a chat of
the credential, it may be read or an unexpired reveal covers it, and history only
goes to a record with `read-history`. -/
structure ContentAllowed (parseDate : String → Option Time) (now : Time) (s : WsState)
    (conn : Connection) (target : RevealTarget) (historical : Bool) : Prop where
  chat : ∃ r, s.store.byId.get? conn.credentialId = some r ∧ target.groupId ∈ r.chatIds
  readable : .readMessages ∈ resolveScopeSet conn.credentialRecord.effectiveScopes ∨
    ∃ reveals, s.revealState conn.credentialId = some reveals ∧
      reveals.isRevealed parseDate target now = true
  history : historical = true → conn.credentialRecord.readsHistory = true

theorem ContentAllowed.congr {parseDate : String → Option Time} {now : Time} {s s' : WsState}
    {conn : Connection} {target : RevealTarget} {historical : Bool}
    (h : ContentAllowed parseDate now s conn target historical)
    (hservice : s'.service = s.service) :
    ContentAllowed parseDate now s' conn target historical := by
  have hstore : s'.store = s.store := by rw [WsState.store, hservice]
  refine ⟨by rw [hstore]; exact h.chat, ?_, h.history⟩
  rw [WsState.revealState, hstore]
  exact h.readable

/-- The clock of a segment that may send. -/
def WsAction.clock : WsAction → Option Time
  | .messagesListed _ _ now => some now
  | .invalidated _ now => some now
  | .broadcast _ _ now => some now
  | _ => none

/-- The message behind an event: the one a `message.visible` event is about, or the
listed message that a replay is about, which is historical. -/
inductive ContentOrigin (a : WsAction) : SignetEvent → RevealTarget → Bool → Prop
  | visible (event : MessageEvent) :
      ContentOrigin a (.messageVisible event) event.toRaw.target (event.visibility = .historical)
  | replayed {call : Nat} {messages : List ReplayMessage} {now : Time} {msg : ReplayMessage}
      {content : Option MessageContent} {revealId : String}
      (ha : a = .messagesListed call (.ok messages) now) (hmem : msg ∈ messages) :
      ContentOrigin a
        (.messageRevealed ⟨msg.messageId, msg.groupId, msg.contentType, content, revealId⟩)
        msg.toRaw.target true

section Sends

variable {parseDate : String → Option Time} {now : Time} {s : WsState} {credentialId : String}
  {id : Nat} {conn : Connection}

/-- A `message.visible` event is sent within the record of the connection. -/
theorem WsState.Sends.visible {event : MessageEvent} {projected : SignetEvent} (hI : WsInv s)
    (h : Sends parseDate now s credentialId id (.messageVisible event) projected conn) :
    ContentAllowed parseDate now s conn event.toRaw.target (event.visibility = .historical) ∧
      projected.message? = some (event.messageId, event.groupId) := by
  obtain ⟨hin, hread, hhistory, hmessage⟩ := projectEvent_visible h.projected
  have hok := hI.connections_ok h.connection
  obtain ⟨r, hr, heq⟩ := hok.known
  rw [hok.record_id] at hr hread
  refine ⟨⟨⟨r, hr, by rw [heq]; exact hin⟩, hread, ?_⟩, hmessage⟩
  intro hist
  exact decide_eq_true (hhistory (of_decide_eq_true hist))

/-- A replayed event is sent within the record of the connection, if that record
reads history. -/
theorem WsState.Sends.replayed {credential : CredentialRecord} {access : RevealAccess}
    {messages : List ReplayMessage} {event projected : SignetEvent}
    (hknown : Known s.store credential)
    (hevent : event ∈ replayEvents parseDate ((s.revealState credential.credentialId).getD [])
      credential access now messages)
    (hreads : conn.credentialRecord.readsHistory = true)
    (h : Sends parseDate now s credential.credentialId id event projected conn) :
    ∃ msg ∈ messages, (∃ content, event = .messageRevealed
        ⟨msg.messageId, msg.groupId, msg.contentType, content, access.revealId⟩) ∧
      ContentAllowed parseDate now s conn msg.toRaw.target true ∧
      projected.message? = some (msg.messageId, msg.groupId) := by
  obtain ⟨msg, hmem, ⟨content, rfl⟩, hrevealed, hin⟩ := mem_replayEvents hevent
  obtain ⟨r, hr, heq⟩ := hknown
  have hprojected := h.projected
  rw [projectEvent_of_not_visible (by simp)] at hprojected
  cases hprojected
  refine ⟨msg, hmem, ⟨content, rfl⟩, ⟨⟨r, by rw [h.owner]; exact hr, by rw [heq]; exact hin⟩, ?_,
    fun _ => hreads⟩, rfl⟩
  -- a message is covered only if there is a store of reveals
  right
  rw [h.owner]
  cases hstate : s.revealState credential.credentialId with
  | none => rw [hstate] at hrevealed; cases hrevealed
  | some reveals => rw [hstate] at hrevealed; exact ⟨reveals, rfl, hrevealed⟩

end Sends

/-- A sent event that is a replay of listed messages to a connection that reads
history. -/
structure ReplayedSend (parseDate : String → Option Time) (now : Time) (s : WsState)
    (credentialId : String) (event : SignetEvent) (conn : Connection) (a : WsAction) : Prop where
  reads : conn.credentialRecord.readsHistory = true
  replay : ∃ call messages credential access, a = .messagesListed call (.ok messages) now ∧
    credential.credentialId = credentialId ∧ Known s.store credential ∧
    event ∈ replayEvents parseDate ((s.revealState credential.credentialId).getD []) credential
      access now messages

/-- **Every sent event comes from a broadcast** in a state with the same connections
and credentials as the end of the step, and is a replay if it is
`message.revealed`. -/
theorem WsInv.sends {cfg : CredentialManagerConfig} {hash : ScopeSet → List String → String}
    {parseDate : String → Option Time} {s s' : WsState} {a : WsAction} {es : List WsEvent}
    (hI : WsInv s) (hreplays : replaysProjected parseDate s a = true)
    (hstep : WsStep cfg hash parseDate s a s' es) {id : Nat} {event projected : SignetEvent}
    (hmem : .sent id event projected ∈ es) :
    ∃ t now credentialId conn, WsInv t ∧
      WsState.Sends parseDate now t credentialId id event projected conn ∧
      s'.service = t.service ∧ s'.connections = t.connections ∧ a.clock = some now ∧
      (event.isRevealed = false ∨ ReplayedSend parseDate now t credentialId event conn a) := by
  cases hstep with
  | service => simp at hmem
  | looked => simp [WsState.look] at hmem
  | finished hsent => exact absurd hmem (hsent id event projected)
  | authenticated => simp at hmem
  | delivered _ _ hsent => exact absurd hmem (hsent id event projected)
  | revealed => simp at hmem
  | @replayed call credential access messages now es s' hcall hs hes =>
    subst hs hes
    have hsame := WsState.broadcastAll_same parseDate now (s.finish call) credential.credentialId
      (replayEvents parseDate ((s.revealState credential.credentialId).getD []) credential access
        now messages)
    have hmem : .sent id event projected ∈ ((s.finish call).broadcastAll parseDate now
        credential.credentialId (replayEvents parseDate
          ((s.revealState credential.credentialId).getD []) credential access now messages)).2 := by
      simpa using hmem
    obtain ⟨hevent, conn, hsends⟩ := WsState.sends_of_broadcastAll hmem
    refine ⟨s.finish call, now, credential.credentialId, conn, hI.finish call, hsends,
      hsame.service_eq, hsame.connections_eq, rfl, .inr ⟨?_, call, messages, credential, access,
        rfl, rfl, hI.calls_ok hcall, hevent⟩⟩
    -- the guard speaks, since there is something to send
    simp only [replaysProjected, hcall, Bool.or_eq_true, Bool.and_eq_true] at hreplays
    rcases hreplays with hempty | ⟨-, hall⟩
    · rw [List.isEmpty_iff.1 hempty] at hevent
      cases hevent
    · have hconn := List.all_eq_true.1 hall conn (OrdMap.mem_values_iff.2 ⟨id, hsends.connection⟩)
      simpa [hsends.owner, hsends.receives] using hconn
  | @invalidated call generation credentialId looked entry now applied es hcall hentry happlied
      hsent =>
    have hlooked : ∀ credential, looked = .ok credential →
        credential.credentialId = credentialId ∧ Known (s.finish call).store credential := by
      rintro credential rfl
      exact hI.calls_ok hcall
    obtain ⟨happ, -⟩ := (hI.finish call).applyInvalidation
      (decide (entry.generation = generation)) hlooked
    rw [happlied] at happ
    have hmem := (List.mem_append.1 hmem).resolve_left (hsent id event projected)
    unfold WsState.releaseInvalidation at hmem ⊢
    split at hmem
    · next hlast =>
      -- what was queued has met the condition when it was broadcast
      rw [if_pos hlast]
      obtain ⟨hevent, conn, hsends⟩ := WsState.sends_of_broadcastAll hmem
      have hsame := WsState.broadcastAll_same parseDate now
        { applied with invalidations := applied.invalidations.erase credentialId } credentialId
        entry.events
      exact ⟨_, now, credentialId, conn, happ.eraseInvalidation credentialId, hsends,
        hsame.service_eq, hsame.connections_eq, rfl, .inl (hI.queues hentry event hevent)⟩
    · cases hmem
  | @broadcast credentialId input now =>
    obtain ⟨rfl, conn, hsends⟩ := WsState.sends_of_broadcast hmem
    have hsame := WsState.broadcast_same parseDate now s credentialId event
    exact ⟨s, now, credentialId, conn, hI, hsends, hsame.service_eq, hsame.connections_eq, rfl,
      .inl (by simpa [replaysProjected] using hreplays)⟩
  | connections => cases hmem

/-- **Projection safety.** In every run in which only replays broadcast
`message.revealed`, and those find no invalidation pending and history readable on
the connections they reach: content sent on a connection is allowed there at the
moment it is sent. -/
theorem content_sent_projected {cfg : CredentialManagerConfig}
    {hash : ScopeSet → List String → String} {parseDate : String → Option Time}
    {tr : List WsEvent} {s : WsState}
    (h : Run (wsMachine cfg hash parseDate)
      (fun s a => (s.freshIds a && replaysProjected parseDate s a) = true) tr s)
    {a : WsAction} {s' : WsState} {es : List WsEvent}
    (hok : replaysProjected parseDate s a = true)
    (hs : wsStep cfg hash parseDate s a = some (s', es))
    {id : Nat} {event projected : SignetEvent} {message : String × String}
    (hmem : .sent id event projected ∈ es) (hcontent : projected.message? = some message) :
    ∃ conn target historical now, s'.connections.get? id = some conn ∧ a.clock = some now ∧
      ContentOrigin a event target historical ∧ message = (target.messageId, target.groupId) ∧
      ContentAllowed parseDate now s' conn target historical := by
  have hI : WsInv s := by
    refine h.invariant (I := fun _ s => WsInv s) .initial ?_
    intro _ _ _ _ _ _ hI hok hs
    have hok := Bool.and_eq_true_iff.1 hok
    exact hI.step hok.1 hok.2 (wsStep_sound hs)
  obtain ⟨t, now, credentialId, conn, hT, hsends, hservice, hconns, hclock, hkind⟩ :=
    hI.sends hok (wsStep_sound hs) hmem
  have hconn : s'.connections.get? id = some conn := by
    rw [hconns]
    exact hsends.connection
  -- a visible message, or the replay of a reveal
  rcases hkind with hplain | ⟨hreads, call, messages, credential, access, rfl, rfl, hknown, hevent⟩
  · cases event with
    | messageVisible event =>
      obtain ⟨hallowed, hmessage⟩ := hsends.visible hT
      rw [hcontent] at hmessage
      exact ⟨conn, _, _, now, hconn, hclock, .visible event, Option.some.inj hmessage,
        hallowed.congr hservice⟩
    | messageRevealed event => cases hplain
    | other type =>
      have hprojected := hsends.projected
      rw [projectEvent_of_not_visible (by simp)] at hprojected
      cases hprojected
      cases hcontent
  · obtain ⟨msg, hmsg, ⟨content, rfl⟩, hallowed, hmessage⟩ :=
      hsends.replayed hknown hevent hreads
    rw [hcontent] at hmessage
    exact ⟨conn, _, _, now, hconn, hclock, .replayed rfl hmsg, Option.some.inj hmessage,
      hallowed.congr hservice⟩

/-! ### Two sends -/

def connectReader : List WsAction :=
  [.service (.issue 0 ⟨"op_0123456789abcdef", ["conv_0123456789abcdef"], none,
      some [.readMessages, .readHistory], none, none⟩
        ⟨"cred_0123456789abcdef", "owner", "token", 0⟩),
    .authenticate 0 "token" 1, .authenticated 0]

def newMessage : SignetEvent :=
  .messageVisible ⟨"message", "conv_0123456789abcdef", "sender", "xmtp.org/text:1.0", some "hello",
    .visible, 2, none, none⟩

def oldMessage : ReplayMessage :=
  ⟨"old", "conv_0123456789abcdef", "sender", "xmtp.org/text:1.0", "secret", 0, none⟩

/-- The reader asks for the old message to be revealed and the messages are listed. -/
def requestOld : List WsAction :=
  [.request 1 0 ⟨"reveal", "conv_0123456789abcdef", .message, "old", "owner", none⟩ 2, .reveal 1 3]

/-- Meanwhile the reader loses `read-history`, and the connections are told. -/
def denyHistory : List WsAction :=
  [.service (.update 1 "cred_0123456789abcdef" { deny := some [.readHistory] } 4),
    .invalidate 2 "cred_0123456789abcdef" 4, .invalidated 2 4]

/-- What the step sends on the first connection, to a record with the property. -/
def sendsFirst (a : WsAction) (p : SignetEvent → Connection → Bool) (s : WsState) : Bool :=
  (wsStep {} (fun _ _ => "") (fun _ => none) s a).any fun (s', es) =>
    es.any fun
      | .sent 0 _ projected => (s'.connections.get? 0).any (p projected)
      | _ => false

theorem sendsFirst_iff {a : WsAction} {p : SignetEvent → Connection → Bool} {s : WsState} :
    sendsFirst a p s = true ↔ ∃ s' es event projected conn,
      wsStep {} (fun _ _ => "") (fun _ => none) s a = some (s', es) ∧
      .sent 0 event projected ∈ es ∧ s'.connections.get? 0 = some conn ∧
        p projected conn = true := by
  simp only [sendsFirst, Option.any_eq_true, List.any_eq_true, Prod.exists]
  constructor
  · rintro ⟨s', es, hs, e, hmem, he⟩
    split at he
    · next event projected =>
      obtain ⟨conn, hconn, hp⟩ := (Option.any_eq_true _ _).1 he
      exact ⟨s', es, event, projected, conn, hs, hmem, hconn, hp⟩
    · cases he
  · rintro ⟨s', es, event, projected, conn, hs, hmem, hconn, hp⟩
    exact ⟨s', es, hs, _, hmem, (Option.any_eq_true _ _).2 ⟨conn, hconn, hp⟩⟩

/-- A new message reaches the reader. -/
theorem content_sent_projected_new :
    ∃ tr s s' es event projected, Run (wsMachine {} (fun _ _ => "") fun _ => none)
        (fun s a => (s.freshIds a && replaysProjected (fun _ => none) s a) = true) tr s ∧
      wsStep {} (fun _ _ => "") (fun _ => none) s
        (.broadcast "cred_0123456789abcdef" newMessage 5) = some (s', es) ∧
      .sent 0 event projected ∈ es ∧
      ∃ conn target historical now, s'.connections.get? 0 = some conn ∧
        WsAction.clock (.broadcast "cred_0123456789abcdef" newMessage 5) = some now ∧
        ContentOrigin (.broadcast "cred_0123456789abcdef" newMessage 5) event target historical ∧
        ("message", "conv_0123456789abcdef") = (target.messageId, target.groupId) ∧
        ContentAllowed (fun _ => none) now s' conn target historical := by
  obtain ⟨tr, s, hrun, htest⟩ := exists_run_of_exec (wsMachine {} (fun _ _ => "") fun _ => none)
    (fun s a => s.freshIds a && replaysProjected (fun _ => none) s a) connectReader
    (fun _ s => sendsFirst (.broadcast "cred_0123456789abcdef" newMessage 5)
      (fun projected _ => projected.message? = some ("message", "conv_0123456789abcdef")) s)
    (by decide)
  obtain ⟨s', es, event, projected, -, hs, hmem, -, hmessage⟩ := sendsFirst_iff.1 htest
  exact ⟨tr, s, s', es, event, projected, hrun, hs, hmem,
    content_sent_projected hrun rfl hs hmem (of_decide_eq_true hmessage)⟩

/-- **A narrowed connection gets a replay.** The reader loses `read-history` while
the messages of its reveal are listed; its connection already holds the narrowed
record when the replay sends the old message. -/
theorem narrowed_connection_gets_replay :
    ∃ tr s s' es event projected conn, Run (wsMachine {} (fun _ _ => "") fun _ => none)
        (fun s a => s.freshIds a = true) tr s ∧
      wsStep {} (fun _ _ => "") (fun _ => none) s (.messagesListed 1 (.ok [oldMessage]) 5) =
        some (s', es) ∧
      .sent 0 event projected ∈ es ∧ s'.connections.get? 0 = some conn ∧
      projected = .messageRevealed ⟨"old", "conv_0123456789abcdef", "xmtp.org/text:1.0",
        some "secret", "reveal"⟩ ∧
      conn.credentialRecord.readsHistory = false := by
  obtain ⟨tr, s, hrun, htest⟩ := exists_run_of_exec (wsMachine {} (fun _ _ => "") fun _ => none)
    (fun s a => s.freshIds a) (connectReader ++ requestOld ++ denyHistory)
    (fun _ s => sendsFirst (.messagesListed 1 (.ok [oldMessage]) 5) (fun projected conn =>
      projected = .messageRevealed ⟨"old", "conv_0123456789abcdef", "xmtp.org/text:1.0",
        some "secret", "reveal"⟩ && !conn.credentialRecord.readsHistory) s)
    (by decide)
  obtain ⟨s', es, event, projected, conn, hs, hmem, hconn, hp⟩ := sendsFirst_iff.1 htest
  rw [Bool.and_eq_true, decide_eq_true_eq, Bool.not_eq_true'] at hp
  exact ⟨tr, s, s', es, event, projected, conn, hrun, hs, hmem, hconn, hp.1, hp.2⟩

end Signet
