import Signet.Ws.Server

/-!
# What a step of the server can do

`WsStep` lists the outcomes of a step by what they do to connections, calls and
queues; `wsStep_sound` is the only place where the step function is taken apart.
-/

namespace Signet

open Lib

/-- The events of a segment that sends nothing. -/
def NothingSent (es : List WsEvent) : Prop :=
  ∀ id event projected, .sent id event projected ∉ es

inductive LookupCall (cfg : CredentialManagerConfig) (s : WsState) :
    WsAction → WsState → Outcome (Result CredentialRecord) → Nat →
      (Result CredentialRecord → WsCall) → Prop
  | authenticate {call : Nat} {token : String} {now : Time} :
      LookupCall cfg s (.authenticate call token now) s
        (Service.lookupByToken s.store token now) call .authenticating
  | refresh {call connectionId : Nat} {heartbeat : Bool} {now : Time} {conn : Connection}
      (hconn : s.connections.get? connectionId = some conn) :
      LookupCall cfg s (.refresh call connectionId heartbeat now) s
        (Service.lookup cfg s.store conn.credentialRecord.credentialId now) call
        (.refreshing connectionId heartbeat)
  | request {call connectionId : Nat} {reveal : RevealRequest} {now : Time} {conn : Connection}
      (hconn : s.connections.get? connectionId = some conn) :
      LookupCall cfg s (.request call connectionId reveal now) s
        (Service.lookup cfg s.store conn.credentialRecord.credentialId now) call
        (.requesting connectionId reveal)
  | invalidate {call : Nat} {credentialId : String} {now : Time} :
      LookupCall cfg s (.invalidate call credentialId now) (s.startInvalidation credentialId)
        (Service.lookup cfg s.store credentialId now) call
        (.invalidating credentialId (s.invalidationGen + 1))

def WsCall.delivers : WsCall → Option (Nat × CredentialRecord)
  | .refreshing connectionId _ (.ok credential) => some (connectionId, credential)
  | .requesting connectionId _ (.ok credential) => some (connectionId, credential)
  | _ => none

/-- The outcomes of a step. -/
inductive WsStep (cfg : CredentialManagerConfig) (hash : ScopeSet → List String → String)
    (parseDate : String → Option Time) (s : WsState) : WsAction → WsState → List WsEvent → Prop
  /-- A credential operation. -/
  | service {a : ServiceAction} {service : ServiceState} {es : List ServiceEvent}
      (hs : serviceStep cfg hash s.service a = some (service, es)) :
      WsStep cfg hash parseDate s (.service a) { s with service := service } (es.map .service)
  | looked {a : WsAction} {t : WsState} {o : Outcome (Result CredentialRecord)} {call : Nat}
      {phase : Result CredentialRecord → WsCall} (hlook : LookupCall cfg s a t o call phase) :
      WsStep cfg hash parseDate s a (t.look o call phase).1 (t.look o call phase).2
  /-- A call is over without an effect on the connections. -/
  | finished {a : WsAction} {call : Nat} {es : List WsEvent} (hsent : NothingSent es) :
      WsStep cfg hash parseDate s a (s.finish call) es
  /-- A connection is authenticated and registered. -/
  | authenticated {call : Nat} {credential : CredentialRecord}
      (hcall : s.calls.get? call = some (.authenticating (.ok credential))) :
      WsStep cfg hash parseDate s (.authenticated call)
        { (s.finish call) with
          connections := s.connections.set s.connectionCounter
            ⟨.active, credential.credentialId, credential⟩
          connectionCounter := s.connectionCounter + 1 } []
  | delivered {a : WsAction} {call connectionId : Nat} {phase : WsCall}
      {credential : CredentialRecord} {es : List WsEvent}
      (hcall : s.calls.get? call = some phase)
      (hdelivers : phase.delivers = some (connectionId, credential)) (hsent : NothingSent es) :
      WsStep cfg hash parseDate s a ((s.setRecord connectionId credential).finish call) es
  /-- A record is delivered and `handleRevealContent` records the reveal. -/
  | revealed {call connectionId : Nat} {reveal : RevealRequest} {credential : CredentialRecord}
      {now : Time} {store : CredentialStore} {access : RevealAccess}
      (hcall : s.calls.get? call = some (.requesting connectionId reveal (.ok credential)))
      (hbyId : store.byId = s.store.byId) :
      WsStep cfg hash parseDate s (.reveal call now)
        { (s.setRecord connectionId credential) with
          service := { s.service with store := store }
          calls := s.calls.set call (.revealing credential access) } []
  | replayed {call : Nat} {credential : CredentialRecord} {access : RevealAccess}
      {messages : List ReplayMessage} {now : Time} {es : List WsEvent} {s' : WsState}
      (hcall : s.calls.get? call = some (.revealing credential access))
      (hs : s' = ((s.finish call).broadcastAll parseDate now credential.credentialId
        (replayEvents parseDate ((s.revealState credential.credentialId).getD []) credential access
          now messages)).1)
      (hes : es = ((s.finish call).broadcastAll parseDate now credential.credentialId
        (replayEvents parseDate ((s.revealState credential.credentialId).getD []) credential access
          now messages)).2 ++ [.replied call (.ok access)]) :
      WsStep cfg hash parseDate s (.messagesListed call (.ok messages) now) s' es
  /-- The lookup of an invalidation is answered. -/
  | invalidated {call generation : Nat} {credentialId : String}
      {looked : Result CredentialRecord} {entry : Invalidation} {now : Time} {applied : WsState}
      {es : List WsEvent}
      (hcall : s.calls.get? call = some (.invalidating credentialId generation looked))
      (hentry : s.invalidations.get? credentialId = some entry)
      (happlied : ((s.finish call).applyInvalidation credentialId
        (entry.generation = generation) looked).1 = applied) (hsent : NothingSent es) :
      WsStep cfg hash parseDate s (.invalidated call now)
        (applied.releaseInvalidation parseDate now credentialId entry).1
        (es ++ (applied.releaseInvalidation parseDate now credentialId entry).2)
  /-- `broadcast` is called. -/
  | broadcast {credentialId : String} {event : SignetEvent} {now : Time} :
      WsStep cfg hash parseDate s (.broadcast credentialId event now)
        (s.broadcast parseDate now credentialId event).1
        (s.broadcast parseDate now credentialId event).2
  /-- A connection drains or goes away. -/
  | connections {a : WsAction} {connections : OrdMap Nat Connection}
      (hconn : ∀ {id conn'}, connections.get? id = some conn' → ∃ conn,
        s.connections.get? id = some conn ∧ conn'.credentialId = conn.credentialId ∧
          conn'.credentialRecord = conn.credentialRecord) :
      WsStep cfg hash parseDate s a { s with connections := connections } []

section Sound

variable {cfg : CredentialManagerConfig} {hash : ScopeSet → List String → String}
  {parseDate : String → Option Time} {s s' : WsState} {a : WsAction} {es : List WsEvent}

theorem WsState.closedBy_nothingSent (credentialId : String) (looked : Result CredentialRecord) :
    NothingSent (s.closedBy credentialId looked) := by
  intro id event projected hmem
  obtain ⟨entry, -, hsome⟩ := List.mem_filterMap.1 hmem
  dsimp only at hsome
  split at hsome <;> cases hsome

/-- The segment that starts a reveal. -/
private theorem startReveal_sound {call connectionId : Nat} {reveal : RevealRequest}
    {credential : CredentialRecord} {now : Time}
    (hcall : s.calls.get? call = some (.requesting connectionId reveal (.ok credential))) :
    WsStep cfg hash parseDate s (.reveal call now)
      (startReveal cfg s call connectionId reveal credential now).1
      (startReveal cfg s call connectionId reveal credential now).2 := by
  -- delivering the record touches the connections only
  have hset : (s.setRecord connectionId credential).store = s.store ∧
      (s.setRecord connectionId credential).service = s.service ∧
      (s.setRecord connectionId credential).calls = s.calls := by
    unfold WsState.setRecord
    split <;> exact ⟨rfl, rfl, rfl⟩
  unfold startReveal
  dsimp only
  split
  · exact .delivered hcall rfl (by simp [NothingSent])
  · split
    · exact .delivered hcall rfl (by simp [NothingSent])
    · split
      · exact .delivered hcall rfl (by simp [NothingSent])
      · next store hstore =>
        rw [hset.2.1, hset.2.2]
        refine .revealed hcall ?_
        -- `getRevealState` and the recording leave the records alone
        rw [hset.1]
        unfold CredentialStore.getRevealState
        split
        · rfl
        · split <;> rfl

/-- **Inversion of a step.** -/
theorem wsStep_sound (h : wsStep cfg hash parseDate s a = some (s', es)) :
    WsStep cfg hash parseDate s a s' es := by
  cases a with
  | service a =>
    dsimp only [wsStep] at h
    split at h
    · cases h
    · next hs => cases h; exact .service hs
  | authenticate call token now =>
    dsimp only [wsStep] at h
    split at h
    · cases h
    · cases h; exact .looked .authenticate
  | authenticated call =>
    dsimp only [wsStep] at h
    split at h
    · next hcall =>
      split at h
      · cases h; exact .authenticated hcall
      · cases h; exact .finished (by simp [NothingSent])
    · cases h; exact .finished (by simp [NothingSent])
    · cases h
  | refresh call connectionId heartbeat now =>
    dsimp only [wsStep] at h
    split at h
    · next hconn =>
      split at h
      · cases h
      · cases h; exact .looked (.refresh hconn)
    · cases h
  | refreshed call =>
    dsimp only [wsStep] at h
    split at h
    · next hcall =>
      cases h
      refine .delivered hcall rfl ?_
      split <;> simp [NothingSent]
    · cases h
      refine .finished ?_
      split <;> simp [NothingSent]
    · cases h
  | request call connectionId reveal now =>
    dsimp only [wsStep] at h
    split at h
    · next hconn =>
      split at h
      · cases h
      · cases h; exact .looked (.request hconn)
    · cases h
  | reveal call now =>
    dsimp only [wsStep] at h
    split at h
    · next hcall =>
      have hsound : WsStep cfg hash parseDate s (.reveal call now) _ _ := startReveal_sound hcall
      rw [Option.some.inj h] at hsound
      exact hsound
    · cases h; exact .finished (by simp [NothingSent])
    · cases h
  | messagesListed call result now =>
    dsimp only [wsStep] at h
    split at h
    · next hcall =>
      split at h
      · cases h; exact .finished (by simp [NothingSent])
      · cases h; exact .replayed hcall rfl rfl
    · cases h
  | invalidate call credentialId now =>
    dsimp only [wsStep] at h
    split at h
    · cases h
    · cases h; exact .looked .invalidate
  | invalidated call now =>
    dsimp only [wsStep] at h
    split at h
    · next hcall =>
      split at h
      · cases h; exact .finished (by simp [NothingSent])
      · next entry hentry =>
        cases h
        -- the last of several invalidations that overlap: only it goes to the connections
        refine .invalidated hcall hentry rfl ?_
        unfold WsState.applyInvalidation
        split
        · exact WsState.closedBy_nothingSent _ _
        · simp [NothingSent]
    · cases h
  | broadcast credentialId event now =>
    have hsound : WsStep cfg hash parseDate s (.broadcast credentialId event now) _ _ := .broadcast
    rw [Option.some.inj h] at hsound
    exact hsound
  | drain connectionId =>
    dsimp only [wsStep] at h
    split at h
    · next conn hconn =>
      cases h
      -- draining keeps the credential of the connection
      refine .connections fun {id conn'} hget => ?_
      rcases OrdMap.get?_set_eq_some hget with ⟨rfl, rfl⟩ | ⟨-, hget⟩
      · exact ⟨conn, hconn, rfl, rfl⟩
      · exact ⟨conn', hget, rfl, rfl⟩
    · cases h
  | closeConnection connectionId =>
    cases h
    exact .connections fun hget => ⟨_, (OrdMap.get?_erase_eq_some hget).2, rfl, rfl⟩

end Sound

end Signet
