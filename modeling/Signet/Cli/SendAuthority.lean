import Signet.Cli.SendGate

/-!
# Messages are sent within the authority of the moment

A request in flight relies on what it has checked: on `send` being in force for
its credential and, once it does not look at the status any more, on the
credential being active. The guard `keepsSendAuthority` is that no step takes
either away from a request that relies on it.

The chats need no guard: they never change (`KeepsChats`).
-/

namespace Signet

open Lib

/-! ### The condition -/

/-- `send` is among the effective scopes of the credential. -/
def allowsSend (m : CredentialStore) (credentialId : String) : Bool :=
  (m.byId.get? credentialId).any fun r => decide (.send ∈ resolveScopeSet r.effectiveScopes)

theorem allowsSend_iff {m : CredentialStore} {credentialId : String} :
    allowsSend m credentialId = true ↔ ∃ r, m.byId.get? credentialId = some r ∧
      .send ∈ resolveScopeSet r.effectiveScopes := by
  simp [allowsSend, Option.any_eq_true]

/-- The credential whose `send` scope a call in flight relies on. -/
def GateCall.reliesOn : GateCall → Option String
  | .awaitCredential _ (.ok credential) => some credential.credentialId
  | .awaitCredential _ (.error _) => none
  | .awaitCore _ credentialId => some credentialId
  | .awaitLookup _ credentialId _ => some credentialId
  | .awaitConfirmedCore _ credentialId => some credentialId
  | .sending => none

/-- The call will not look at the status again: a confirmation in flight, or a
`send_message` past its second lookup. -/
def GateCall.reliesOnActive : GateCall → Bool
  | .awaitCredential (.confirmAction _) _ => true
  | .awaitLookup .. => true
  | .awaitConfirmedCore .. => true
  | _ => false

section Condition

variable (cfg : CredentialManagerConfig) (hash : ScopeSet → List String → String) (s : GateState)

def GateState.storeAfter : GateAction → CredentialStore
  | .service a =>
    match serviceStep cfg hash s.service a with
    | some (service, _) => service.store
    | none => s.service.store
  | .frame _ credentialId _ now => (Service.lookup cfg s.service.store credentialId now).store
  | .coreReady call (.ok ()) now =>
    match s.calls.get? call with
    | some (.awaitCore _ credentialId) =>
      (Service.lookup cfg s.service.store credentialId now).store
    | _ => s.service.store
  | _ => s.service.store

/-- Going from `m` to `m'` takes nothing away that the call relies on. -/
def GateCall.keptBy (phase : GateCall) (m m' : CredentialStore) : Bool :=
  phase.reliesOn.all fun id =>
    (!allowsSend m id || allowsSend m' id) &&
      (!phase.reliesOnActive || !isActive m id || isActive m' id)

/-- **The condition under which messages are sent within the authority of the
moment**: no step takes `send` from a credential with a send or confirm request in
flight, or the active status from one with a request that looks at it no more. -/
def keepsSendAuthority (a : GateAction) : Bool :=
  s.calls.values.all fun phase => phase.keptBy s.service.store (s.storeAfter cfg hash a)

/-- Credential ids are drawn fresh. -/
def GateState.freshIds : GateAction → Bool
  | .service a => freshCredentialId s.service a
  | _ => true

end Condition

/-! ### The invariant -/

/-- The record behind a snapshot: it has the snapshot's chats, and what the
snapshot promises still holds of it. -/
structure SnapshotHolds (m : CredentialStore) (credential : CredentialRecord) (active : Bool) :
    Prop where
  chats : ∃ r, m.byId.get? credential.credentialId = some r ∧ r.chatIds = credential.chatIds
  send : .send ∈ resolveScopeSet credential.effectiveScopes →
    allowsSend m credential.credentialId = true
  active : active = true → credential.status = .active →
    isActive m credential.credentialId = true

structure MaySend (m : CredentialStore) (credentialId groupId : String) : Prop where
  chat : ∃ r, m.byId.get? credentialId = some r ∧ groupId ∈ r.chatIds
  send : allowsSend m credentialId = true

/-- What a call in flight knows of the stored record. -/
def GateCall.Ok (m : CredentialStore) : GateCall → Prop
  | .awaitCredential request (.ok credential) =>
    SnapshotHolds m credential (GateCall.awaitCredential request (.ok credential)).reliesOnActive
  | .awaitCredential _ (.error _) => True
  | .awaitCore request credentialId => MaySend m credentialId request.groupId
  | .awaitLookup request credentialId looked =>
    MaySend m credentialId request.groupId ∧
      ∀ credential, looked = .ok credential → credential.status = .active →
        isActive m credentialId = true
  | .awaitConfirmedCore payload credentialId =>
    MaySend m credentialId payload.groupId ∧ isActive m credentialId = true
  | .sending => True

/-- A step that takes nothing away keeps what a call knows. -/
theorem GateCall.Ok.keep {m m' : CredentialStore} (hchats : KeepsChats m m') {phase : GateCall}
    (hkept : phase.keptBy m m' = true) (hok : phase.Ok m) : phase.Ok m' := by
  have hmay : ∀ {id groupId}, (allowsSend m id = true → allowsSend m' id = true) →
      MaySend m id groupId → MaySend m' id groupId := by
    rintro id groupId hsend ⟨⟨r, hr, hin⟩, hallows⟩
    obtain ⟨r', hr', heq⟩ := hchats hr
    exact ⟨⟨r', hr', by rw [heq]; exact hin⟩, hsend hallows⟩
  -- the guard, read off for the credential of the call
  have hread : ∀ {id}, phase.reliesOn = some id →
      (allowsSend m id = true → allowsSend m' id = true) ∧
        (phase.reliesOnActive = true → isActive m id = true → isActive m' id = true) := by
    intro id hid
    simp only [keptBy, hid, Option.all_some, Bool.and_eq_true] at hkept
    constructor
    · intro hsend
      simpa [hsend] using hkept.1
    · intro hrelies hactive
      simpa [hrelies, hactive] using hkept.2
  cases phase with
  | awaitCredential request looked =>
    cases looked with
    | error e => trivial
    | ok credential =>
      obtain ⟨hsend, hactive⟩ := hread rfl
      obtain ⟨r, hr, heq⟩ := hok.chats
      obtain ⟨r', hr', heq'⟩ := hchats hr
      exact ⟨⟨r', hr', heq'.trans heq⟩, fun h => hsend (hok.send h),
        fun h hstatus => hactive h (hok.active h hstatus)⟩
  | awaitCore request credentialId => exact hmay (hread rfl).1 hok
  | awaitLookup request credentialId looked =>
    obtain ⟨hsend, hactive⟩ := hread rfl
    exact ⟨hmay hsend hok.1, fun credential hlooked hstatus =>
      hactive rfl (hok.2 credential hlooked hstatus)⟩
  | awaitConfirmedCore payload credentialId =>
    obtain ⟨hsend, hactive⟩ := hread rfl
    exact ⟨hmay hsend hok.1, hactive rfl hok.2⟩
  | sending => trivial

theorem snapshotHolds_of_lookup {cfg : CredentialManagerConfig} {m : CredentialStore}
    {credentialId : String} {now : Time} {credential : CredentialRecord} {active : Bool}
    (hkeyed : Keyed (Service.lookup cfg m credentialId now).store)
    (h : (Service.lookup cfg m credentialId now).value = .ok credential) :
    SnapshotHolds (Service.lookup cfg m credentialId now).store credential active := by
  obtain ⟨r, hr, rfl⟩ := lookup_eq_ok h
  have hid : (toCredentialRecord r now).credentialId = credentialId := hkeyed hr
  refine ⟨⟨r, by rw [hid]; exact hr, rfl⟩, ?_, ?_⟩
  · intro hsend
    rw [hid]
    exact allowsSend_iff.2 ⟨r, hr, hsend⟩
  · intro _ hstatus
    rw [hid]
    exact isActive_iff.2 ⟨r, hr, hstatus⟩

/-- **Requests and records along a run.** -/
structure GateInv (s : GateState) : Prop where
  keyed : Keyed s.service.store
  calls_ok : ∀ {call phase}, s.calls.get? call = some phase → phase.Ok s.service.store

theorem GateInv.initial {cfg : CredentialManagerConfig} {hash : ScopeSet → List String → String}
    {parseDate : String → Option Time} : GateInv (gateMachine cfg hash parseDate).init where
  keyed := Keyed.initial
  calls_ok h := by simp [gateMachine] at h

namespace GateInv

variable {cfg : CredentialManagerConfig} {hash : ScopeSet → List String → String}
  {s s' : GateState} {a : GateAction} {es : List GateEvent}

/-- The calls that stay, after a step that takes nothing away from them. -/
private theorem kept (hI : GateInv s) {m' : CredentialStore}
    (hchats : KeepsChats s.service.store m') (hkeeps : keepsSendAuthority cfg hash s a = true)
    (hafter : s.storeAfter cfg hash a = m') {call : Nat} {phase : GateCall}
    (hcall : s.calls.get? call = some phase) : phase.Ok m' := by
  have hall := List.all_eq_true.1 hkeeps phase (OrdMap.mem_values_iff.2 ⟨call, hcall⟩)
  rw [hafter] at hall
  exact (hI.calls_ok hcall).keep hchats hall

private theorem of_set (hI : GateInv s) {call : Nat} {phase : GateCall}
    (hservice : s'.service = s.service) (hcalls : s'.calls = s.calls.set call phase)
    (hok : phase.Ok s.service.store) : GateInv s' := by
  refine ⟨by rw [hservice]; exact hI.keyed, ?_⟩
  intro c ph hget
  rw [hcalls] at hget
  rw [hservice]
  rcases OrdMap.get?_set_eq_some hget with ⟨-, rfl⟩ | ⟨-, hget⟩
  · exact hok
  · exact hI.calls_ok hget

private theorem of_look (hI : GateInv s) (hkeeps : keepsSendAuthority cfg hash s a = true)
    {call : Nat} {credentialId : String} {now : Time} {phase : Result CredentialRecord → GateCall}
    (hafter : s.storeAfter cfg hash a =
      (Service.lookup cfg s.service.store credentialId now).store)
    (hok : Keyed (Service.lookup cfg s.service.store credentialId now).store →
      (phase (Service.lookup cfg s.service.store credentialId now).value).Ok
        (Service.lookup cfg s.service.store credentialId now).store) :
    GateInv (s.look cfg call credentialId now phase).1 := by
  have hframe : Keeps s.service.store (Service.lookup cfg s.service.store credentialId now).store :=
    (s.service.store.sweepExpired_frame cfg now).keeps
  refine ⟨hframe.keyed hI.keyed, ?_⟩
  intro c ph hget
  rcases OrdMap.get?_set_eq_some hget with ⟨-, rfl⟩ | ⟨-, hget⟩
  · exact hok (hframe.keyed hI.keyed)
  · exact hI.kept hframe.keepsChats hkeeps hafter hget

/-- **Every step keeps the invariant** under the condition. -/
theorem step (hI : GateInv s) (hfresh : s.freshIds a = true)
    (hkeeps : keepsSendAuthority cfg hash s a = true) (hstep : GateStep cfg hash s a s' es) :
    GateInv s' := by
  cases hstep with
  | service hs hcalls =>
    have hchats : KeepsChats s.service.store s'.service.store :=
      (serviceStep_sound hs).keepsChats hfresh
    refine ⟨(serviceStep_sound hs).keyed hI.keyed, ?_⟩
    intro call phase hget
    rw [hcalls] at hget
    exact hI.kept hchats hkeeps (by simp only [GateState.storeAfter, hs]) hget
  | queued hservice hcalls =>
    refine ⟨by rw [hservice]; exact hI.keyed, ?_⟩
    rw [hservice, hcalls]
    exact hI.calls_ok
  | finished _ hservice hcalls =>
    refine ⟨by rw [hservice]; exact hI.keyed, ?_⟩
    rw [hservice, hcalls]
    exact fun hget => hI.calls_ok (OrdMap.get?_erase_eq_some hget).2
  | @framed call credentialId request now =>
    refine hI.of_look hkeeps rfl fun hkeyed => ?_
    cases hvalue : (Service.lookup cfg s.service.store credentialId now).value with
    | error e => trivial
    | ok credential => exact snapshotHolds_of_lookup hkeyed hvalue
  | @validated call request credential now hcall hchat hsend =>
    have hsnap := hI.calls_ok hcall
    obtain ⟨r, hr, heq⟩ := hsnap.chats
    exact hI.of_set rfl rfl ⟨⟨r, hr, by rw [heq]; exact hchat⟩, hsnap.send hsend⟩
  | @confirmed call request credential now payload s' hcall hactive hchat hsend hservice hcalls =>
    have hsnap := hI.calls_ok hcall
    obtain ⟨r, hr, heq⟩ := hsnap.chats
    exact hI.of_set hservice hcalls
      ⟨⟨⟨r, hr, by rw [heq]; exact hchat⟩, hsnap.send hsend⟩, hsnap.active rfl hactive⟩
  | @looked call request credentialId now hcall =>
    have hafter : s.storeAfter cfg hash (.coreReady call (.ok ()) now) =
        (Service.lookup cfg s.service.store credentialId now).store := by
      simp only [GateState.storeAfter, hcall]
    refine hI.of_look hkeeps hafter fun _ => ⟨?_, ?_⟩
    · -- the sweep of the lookup is itself a step that keeps what the call relies on
      have hframe := s.service.store.sweepExpired_frame cfg now
      have hstill := hI.kept hframe.keeps.keepsChats hkeeps hafter hcall
      exact hstill
    · intro credential hvalue hstatus
      obtain ⟨r, hr, rfl⟩ := lookup_eq_ok hvalue
      exact isActive_iff.2 ⟨r, hr, hstatus⟩
  | sendChecked hcall hactive => exact hI.of_set rfl rfl trivial
  | sendConfirmed hcall => exact hI.of_set rfl rfl trivial

end GateInv

/-! ### Messages -/

/-- A step that sends leaves the credentials alone, and its call knows that the
credential is active and may send. -/
theorem GateStep.sendMessage {cfg : CredentialManagerConfig}
    {hash : ScopeSet → List String → String} {s s' : GateState} {a : GateAction}
    {es : List GateEvent} (hI : GateInv s) (hstep : GateStep cfg hash s a s' es)
    {credentialId : String} {message : SendMessageRequest}
    (hmem : .sendMessage credentialId message ∈ es) :
    s'.service = s.service ∧ isActive s.service.store credentialId = true ∧
      MaySend s.service.store credentialId message.groupId := by
  cases hstep with
  | service => simp at hmem
  | queued => simp at hmem
  | finished he =>
    obtain rfl := List.mem_singleton.1 hmem
    rcases he with he | ⟨result, he⟩ <;> cases he
  | framed => simp [GateState.look] at hmem
  | validated => simp at hmem
  | confirmed => simp at hmem
  | looked => simp [GateState.look] at hmem
  | @sendChecked call request id credential hcall hactive =>
    cases List.mem_singleton.1 hmem
    obtain ⟨hmay, hstatus⟩ := hI.calls_ok hcall
    exact ⟨rfl, hstatus credential rfl hactive, hmay⟩
  | sendConfirmed hcall =>
    cases List.mem_singleton.1 hmem
    obtain ⟨hmay, hactive⟩ := hI.calls_ok hcall
    exact ⟨rfl, hactive, hmay⟩

/-- **Send authorization.** In every run in which no step takes away what a send
or confirm request in flight relies on: when a message is sent for a credential,
the credential is active and `validateSendMessage` accepts the group for its
effective scopes and its chats of that moment. -/
theorem sent_while_authorised {cfg : CredentialManagerConfig}
    {hash : ScopeSet → List String → String} {parseDate : String → Option Time}
    {tr : List GateEvent} {s : GateState}
    (h : Run (gateMachine cfg hash parseDate)
      (fun s a => (s.freshIds a && keepsSendAuthority cfg hash s a) = true) tr s)
    {a : GateAction} {s' : GateState} {es : List GateEvent} {credentialId : String}
    {message : SendMessageRequest} (hs : gateStep cfg hash parseDate s a = some (s', es))
    (hmem : .sendMessage credentialId message ∈ es) :
    ∃ r, s'.service.store.byId.get? credentialId = some r ∧ r.status = .active ∧
      validateSendMessage message.groupId (resolveScopeSet r.effectiveScopes) r.chatIds =
        .ok ⟨false⟩ := by
  have hI : GateInv s := by
    refine h.invariant (I := fun _ s => GateInv s) .initial ?_
    intro _ _ _ _ _ _ hI hok hs
    have hok := Bool.and_eq_true_iff.1 hok
    exact hI.step hok.1 hok.2 (gateStep_sound hs)
  obtain ⟨hservice, hactive, hmay⟩ := (gateStep_sound hs).sendMessage hI hmem
  -- the three facts are about the one record under the id
  obtain ⟨r, hr, hstatus⟩ := isActive_iff.1 hactive
  obtain ⟨r₁, hr₁, hin⟩ := hmay.chat
  obtain ⟨r₂, hr₂, hsend⟩ := allowsSend_iff.1 hmay.send
  rw [hr] at hr₁ hr₂
  cases hr₁
  cases hr₂
  rw [hservice]
  exact ⟨r, hr, hstatus, validateSendMessage_eq_ok.2 ⟨hin, hsend, rfl⟩⟩

/-! ### Two requests -/

/-- The credential of the requests below, for one chat and for sending. -/
def issueSender : GateAction :=
  .service (.issue 0 ⟨"op_0123456789abcdef", ["conv_0123456789abcdef"], none, some [.send], none,
    none⟩ ⟨"cred_0123456789abcdef", "owner", "token", 0⟩)

def hello : SendMessageRequest :=
  ⟨"conv_0123456789abcdef", "xmtp.org/text:1.0", "hello"⟩

/-- A `send_message` request, up to the point where the core is awaited. -/
def requestHello : List GateAction :=
  [issueSender, .frame 0 "cred_0123456789abcdef" (.sendMessage hello) 1, .handle 0 1]

/-- A confirmation of the queued message, up to the point where the core is awaited. -/
def confirmHello : List GateAction :=
  [issueSender, .queue ⟨"action", "cred_0123456789abcdef", "send_message", hello, ""⟩,
    .frame 0 "cred_0123456789abcdef" (.confirmAction ⟨"action", true⟩) 1, .handle 0 1]

/-- The step sends the message while the record passes the test. -/
def sendsHelloFor (a : GateAction) (p : InternalCredentialRecord → Bool) (s : GateState) : Bool :=
  (gateStep {} (fun _ _ => "") (fun _ => none) s a).any fun (s', es) =>
    es.contains (.sendMessage "cred_0123456789abcdef" hello) &&
      (s'.service.store.byId.get? "cred_0123456789abcdef").any p

theorem sendsHelloFor_iff {a : GateAction} {p : InternalCredentialRecord → Bool} {s : GateState} :
    sendsHelloFor a p s = true ↔ ∃ s' es r,
      gateStep {} (fun _ _ => "") (fun _ => none) s a = some (s', es) ∧
      .sendMessage "cred_0123456789abcdef" hello ∈ es ∧
      s'.service.store.byId.get? "cred_0123456789abcdef" = some r ∧ p r = true := by
  simp only [sendsHelloFor, Option.any_eq_true, Bool.and_eq_true, Prod.exists,
    List.contains_iff_mem]
  constructor
  · rintro ⟨s', es, hs, hmem, r, hr, hp⟩
    exact ⟨s', es, r, hs, hmem, hr, hp⟩
  · rintro ⟨s', es, r, hs, hmem, hr, hp⟩
    exact ⟨s', es, hs, hmem, r, hr, hp⟩

/-- A request with nothing in between. -/
theorem sent_while_authorised_hello :
    ∃ tr s s' es, Run (gateMachine {} (fun _ _ => "") fun _ => none)
        (fun s a => (s.freshIds a && keepsSendAuthority {} (fun _ _ => "") s a) = true) tr s ∧
      gateStep {} (fun _ _ => "") (fun _ => none) s (.lookedUp 0) = some (s', es) ∧
      .sendMessage "cred_0123456789abcdef" hello ∈ es ∧
      ∃ r, s'.service.store.byId.get? "cred_0123456789abcdef" = some r ∧ r.status = .active ∧
        validateSendMessage hello.groupId (resolveScopeSet r.effectiveScopes) r.chatIds =
          .ok ⟨false⟩ := by
  obtain ⟨tr, s, hrun, htest⟩ := exists_run_of_exec
    (gateMachine {} (fun _ _ => "") fun _ => none)
    (fun s a => s.freshIds a && keepsSendAuthority {} (fun _ _ => "") s a)
    (requestHello ++ [.coreReady 0 (.ok ()) 3])
    (fun _ s => sendsHelloFor (.lookedUp 0) (fun _ => true) s) (by decide)
  obtain ⟨s', es, -, hs, hmem, -, -⟩ := sendsHelloFor_iff.1 htest
  exact ⟨tr, s, s', es, hrun, hs, hmem, sent_while_authorised hrun hs hmem⟩

/-- **A narrowed credential sends.** `send` is taken from the credential while the
core is awaited; the second lookup finds the credential active and the message
goes out. -/
theorem narrowed_credential_sends :
    ∃ tr s s' es r, Run (gateMachine {} (fun _ _ => "") fun _ => none)
        (fun s a => s.freshIds a = true) tr s ∧
      gateStep {} (fun _ _ => "") (fun _ => none) s (.lookedUp 0) = some (s', es) ∧
      .sendMessage "cred_0123456789abcdef" hello ∈ es ∧
      s'.service.store.byId.get? "cred_0123456789abcdef" = some r ∧
      (validateSendMessage hello.groupId (resolveScopeSet r.effectiveScopes) r.chatIds).isOk =
        false := by
  obtain ⟨tr, s, hrun, htest⟩ := exists_run_of_exec
    (gateMachine {} (fun _ _ => "") fun _ => none) (fun s a => s.freshIds a)
    (requestHello ++
      [.service (.update 1 "cred_0123456789abcdef" { deny := some [.send] } 2),
        .coreReady 0 (.ok ()) 3])
    (fun _ s => sendsHelloFor (.lookedUp 0) (fun r =>
      !(validateSendMessage hello.groupId (resolveScopeSet r.effectiveScopes) r.chatIds).isOk) s)
    (by decide)
  obtain ⟨s', es, r, hs, hmem, hr, hp⟩ := sendsHelloFor_iff.1 htest
  exact ⟨tr, s, s', es, r, hrun, hs, hmem, hr, by simpa using hp⟩

end Signet
