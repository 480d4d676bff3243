import Signet.Sessions.RevealActions
import Signet.Sessions.RevocationFinal
import Signet.Ws.ServerStep

/-!
# Reveals die with the credential

A credential that is not active has no recorded reveals (`reveals_die_with_credential`),
in every run of the WebSocket server, the reveal actions and the operations of the
credential manager that meets a condition with three parts:

* a reveal is recorded while its credential is still active: `reveal.request` and
  `reveal_content` judge by the record of a lookup they have awaited;
* a lookup by token that expires a credential finds no reveals of it: it marks the
  record, but unlike the sweep it does not call `cleanupRevealState`;
* `setCredentialStatus`, to which an escalating `update_scopes` request falls back,
  takes no credential with reveals out of the active status.

`RevealInv` is kept by every write that `KeepsReveals` admits. Each part of the
condition is needed: `reveals_outlive_credential` is a run for the second one.
-/

namespace Signet

open Lib

/-- Some reveal of the credential is recorded. -/
def hasReveals (m : CredentialStore) (credentialId : String) : Bool :=
  (m.revealStates.get? credentialId).any fun reveals => !reveals.isEmpty

/-! ### Writes -/

/-- The rewrite takes the credential out of the active status, or may do so. -/
def RewriteKind.deactivates (kind : RewriteKind) : Bool :=
  kind.updates.status.any (· ≠ .active)

/-- The writes the condition admits. -/
def KeepsReveals (m : CredentialStore) : RecordWrite → Prop
  | .store record => m.byId.get? record.credentialId = none ∧ record.status = .active
  | .rewrite id kind =>
    kind.deactivates = true → kind.clearsReveals = true ∨ hasReveals m id = false
  | .openReveals _ => True
  | .recordReveal id _ _ => isActive m id = true

theorem KeepsReveals.storesFresh {m : CredentialStore} {w : RecordWrite}
    (h : KeepsReveals m w) : StoresFresh m w := by
  cases w with
  | store record => exact h.1
  | rewrite id kind => trivial
  | openReveals id => trivial
  | recordReveal id access request => trivial

/-- **Only active credentials have reveals.** -/
def RevealInv (m : CredentialStore) : Prop :=
  ∀ {id r}, m.byId.get? id = some r → r.status ≠ .active → hasReveals m id = false

theorem RevealInv.initial : RevealInv .new := by
  intro id r hget
  cases hget

/-- Emptying the reveal store leaves no reveals. -/
theorem hasReveals_cleanupRevealState (m : CredentialStore) (id : String) :
    hasReveals (m.cleanupRevealState id) id = false := by
  unfold CredentialStore.cleanupRevealState
  split
  · rw [hasReveals, OrdMap.get?_set_self]
    rfl
  · next hnone =>
    rw [hasReveals, hnone]
    rfl

section Rewritten

variable (m : CredentialStore) {id : String} {kind : RewriteKind}
  {existing : InternalCredentialRecord}

theorem hasReveals_rewritten_of_clears (hclear : kind.clearsReveals = true) :
    hasReveals (m.rewritten id kind existing) id = false := by
  have hstates : (m.rewritten id kind existing).revealStates =
      (m.cleanupRevealState id).revealStates := by
    simp only [CredentialStore.rewritten, hclear, if_true]
  rw [hasReveals, hstates]
  exact hasReveals_cleanupRevealState m id

theorem hasReveals_rewritten_of_ne {k : String} (hne : k ≠ id) :
    hasReveals (m.rewritten id kind existing) k = hasReveals m k := by
  rw [hasReveals, m.get?_rewritten_revealStates_of_ne id kind existing hne, hasReveals]

theorem hasReveals_rewritten (hnone : hasReveals m id = false) :
    hasReveals (m.rewritten id kind existing) id = false := by
  by_cases hclear : kind.clearsReveals = true
  · exact hasReveals_rewritten_of_clears m hclear
  · have hstates : (m.rewritten id kind existing).revealStates = m.revealStates := by
      simp only [CredentialStore.rewritten, hclear, Bool.false_eq_true, if_false]
    rw [hasReveals, hstates]
    exact hnone

end Rewritten

/-- **One write.** -/
theorem RevealInv.step {m m' : CredentialStore} {w : RecordWrite}
    {effects : List CredentialEffect} (hI : RevealInv m) (hw : KeepsReveals m w)
    (h : Written m w m' effects) : RevealInv m' := by
  intro id r hget hstatus
  cases h with
  | stored record =>
    rw [CredentialStore.get?_upsertRecord] at hget
    split at hget
    · -- the new record is active
      cases hget
      exact absurd hw.2 hstatus
    · exact hI hget hstatus
  | @rewritten id' kind existing hexisting =>
    rw [CredentialStore.rewritten_byId] at hget
    rcases OrdMap.get?_set_eq_some hget with ⟨rfl, rfl⟩ | ⟨hne, hget⟩
    · by_cases hdeactivates : kind.deactivates = true
      · rcases hw hdeactivates with hclear | hnone
        · exact hasReveals_rewritten_of_clears m hclear
        · exact hasReveals_rewritten m hnone
      · -- the status is as before, so the record was inactive already
        refine hasReveals_rewritten m (hI hexisting ?_)
        intro hactive
        refine hstatus ?_
        unfold InternalCredentialRecord.updatedWith
        cases hupdate : kind.updates.status with
        | none => exact hactive
        | some status =>
          rw [RewriteKind.deactivates, hupdate, Option.any_some, decide_eq_true_eq,
            not_not] at hdeactivates
          exact hdeactivates
    · rw [hasReveals_rewritten_of_ne m hne]
      exact hI hget hstatus
  | @opened id' existing hexisting hnone =>
    have hold : hasReveals m id = false := hI hget hstatus
    by_cases hid : id = id'
    · rw [hasReveals, hid, OrdMap.get?_set_self]
      rfl
    · rw [hasReveals, OrdMap.get?_set_of_ne _ _ hid]
      exact hold
  | @revealed id' existing reveals access request hexisting hsome =>
    by_cases hid : id = id'
    · -- a reveal is recorded for an active credential only
      subst hid
      obtain ⟨r', hget', hactive⟩ := isActive_iff.1 hw
      have heq : m.byId.get? id = some r := hget
      rw [hget'] at heq
      cases heq
      exact absurd hactive hstatus
    · rw [hasReveals, OrdMap.get?_set_of_ne _ _ hid]
      exact hI hget hstatus

theorem RevealInv.of_runFrom {m m' : CredentialStore} {effects : List CredentialEffect}
    (hI : RevealInv m) (h : RunFrom writeMachine KeepsReveals m effects m') : RevealInv m' :=
  h.preserves (I := RevealInv) (fun hI hw hs => hI.step hw (writeMachine_sound hs)) hI

/-! ### Operations -/

/-- The token is one of a credential that is due to expire and has reveals. -/
def tokenDueWithReveals (m : CredentialStore) (token : String) (now : Time) : Bool :=
  (m.byToken.get? token).any fun id =>
    hasReveals m id && (m.byId.get? id).any fun r => decide (r.expiresAt ≤ now)

/-- **The condition on operations.** -/
def sparesReveals (m : CredentialStore) : ManagerOp → Bool
  | .getCredentialByToken token now => !tokenDueWithReveals m token now
  | .setCredentialStatus credentialId status =>
    decide (status = .active) || !hasReveals m credentialId
  | _ => true

/-- Fresh ids, and the condition. -/
def revealGuard (m : CredentialStore) (op : ManagerOp) : Bool :=
  drawsFreshId m op && sparesReveals m op

section Guard

variable {cfg : CredentialManagerConfig} {hash : ScopeSet → List String → String}

theorem keepsReveals_of_revealGuard {m₀ m : CredentialStore} {op : ManagerOp} {w : RecordWrite}
    (hguard : revealGuard m₀ op = true) (h : OpWrite cfg hash m₀ op m w) : KeepsReveals m w := by
  rw [revealGuard, Bool.and_eq_true] at hguard
  obtain ⟨hfresh, hspares⟩ := hguard
  cases h with
  | evict hget hact => exact fun _ => .inl rfl
  | store hkeys =>
    refine ⟨(hkeys _).2 ?_, rfl⟩
    rw [drawsFreshId, Bool.not_eq_true', OrdMap.has, Option.isSome_eq_false_iff,
      Option.isNone_iff_eq_none] at hfresh
    exact hfresh
  | @expireByToken token now id r htoken hget hdue =>
    intro _
    rw [sparesReveals, tokenDueWithReveals, htoken, Option.any_some, hget, Option.any_some,
      decide_eq_true hdue, Bool.and_true, Bool.not_eq_true'] at hspares
    exact .inr hspares
  | heartbeat hget hact => rintro ⟨⟩
  | renew hget hact hwindow => rintro ⟨⟩
  | rescope hget hact => rintro ⟨⟩
  | revoke hget => exact fun _ => .inl rfl
  | revokeAll hget hact => exact fun _ => .inl rfl
  | @setStatus id status r hget =>
    intro hdeactivates
    rw [sparesReveals, Bool.or_eq_true, decide_eq_true_eq, Bool.not_eq_true'] at hspares
    rcases hspares with rfl | hnone
    · cases hdeactivates
    · exact .inr hnone
  | openReveals hget => trivial
  | sweepExpire hget hact hdue => exact fun _ => .inl rfl
  | sweepRevoke hget hact hstale => exact fun _ => .inl rfl

/-- `getRevealState` and `record` on behalf of an active credential. -/
theorem recordReveal_writes {m : CredentialStore} {id : String} (access : RevealAccess)
    (request : RevealRequest) (hactive : isActive m id = true) :
    RunFrom writeMachine KeepsReveals m [] (m.recordReveal id access request).store := by
  obtain ⟨r, hget, -⟩ := isActive_iff.1 hactive
  cases hstate : m.revealStates.get? id with
  | some reveals =>
    have hstore : (m.recordReveal id access request).store =
        { m with revealStates := m.revealStates.set id (reveals.record access request) } := by
      simp only [CredentialStore.recordReveal, CredentialStore.getRevealState, hget, hstate]
    have hok : KeepsReveals m (.recordReveal id access request) := hactive
    rw [hstore]
    refine .single hok ?_
    simp only [writeMachine_step, CredentialStore.write, hget, hstate]
  | none =>
    -- the reveal store is opened first
    let opened : CredentialStore := { m with revealStates := m.revealStates.set id [] }
    have hopen : RunFrom writeMachine KeepsReveals m [] opened := by
      have hok : KeepsReveals m (.openReveals id) := trivial
      refine .single hok ?_
      simp only [writeMachine_step, CredentialStore.write, hget, hstate, opened]
    have hopened : opened.revealStates.get? id = some [] := OrdMap.get?_set_self _ _ _
    have hget' : opened.byId.get? id = some r := hget
    have hrecord : RunFrom writeMachine KeepsReveals opened []
        (m.recordReveal id access request).store := by
      have hstore : (m.recordReveal id access request).store =
          { opened with revealStates :=
              opened.revealStates.set id (RevealState.record [] access request) } := by
        simp only [CredentialStore.recordReveal, CredentialStore.getRevealState, hget, hstate,
          opened]
      have hok : KeepsReveals opened (.recordReveal id access request) := hactive
      rw [hstore]
      refine .single hok ?_
      simp only [writeMachine_step, CredentialStore.write, hget', hopened]
    exact hopen.trans hrecord

end Guard

/-! ### The WebSocket server -/

/-- The manager operations of a segment of the server. -/
def WsAction.managerOps (s : WsState) : WsAction → List ManagerOp
  | .service a => a.managerOps s.service
  | .authenticate _ token now => [.getCredentialByToken token now]
  | .refresh _ connectionId _ now =>
    match s.connections.get? connectionId with
    | some conn => [.sweepExpired now, .getCredentialById conn.credentialRecord.credentialId]
    | none => []
  | .request _ connectionId _ now =>
    match s.connections.get? connectionId with
    | some conn => [.sweepExpired now, .getCredentialById conn.credentialRecord.credentialId]
    | none => []
  | .invalidate _ credentialId now => [.sweepExpired now, .getCredentialById credentialId]
  | _ => []

/-- The credential for which `reveal_content` is about to record a reveal. -/
def WsAction.recordsRevealFor (cfg : CredentialManagerConfig) (s : WsState) :
    WsAction → Option String
  | .reveal call now =>
    match s.calls.get? call with
    | some (.requesting _ _ (.ok credential)) =>
      if credential.status ≠ .active then none
      else
        match heartbeatGuard cfg s.store credential.credentialId now with
        | .error _ => none
        | .ok () => some credential.credentialId
    | _ => none
  | _ => none

section Server

variable {cfg : CredentialManagerConfig} {hash : ScopeSet → List String → String}
  {parseDate : String → Option Time} {s s' : WsState} {a : WsAction} {es : List WsEvent}

theorem WsState.setRecord_service (connectionId : Nat) (credential : CredentialRecord) :
    (s.setRecord connectionId credential).service = s.service := by
  unfold WsState.setRecord
  split <;> rfl

theorem WsState.releaseInvalidation_service (now : Time) (credentialId : String)
    (entry : Invalidation) :
    (s.releaseInvalidation parseDate now credentialId entry).1.service = s.service := by
  unfold WsState.releaseInvalidation
  split
  · exact (WsState.broadcastAll_same parseDate now _ credentialId entry.events).service_eq
  · rfl

/-- A lookup performs its manager operations. -/
theorem LookupCall.performs {t : WsState} {o : Outcome (Result CredentialRecord)} {call : Nat}
    {phase : Result CredentialRecord → WsCall} (h : LookupCall cfg s a t o call phase) :
    (performAll cfg hash s.store (a.managerOps s)).1 = o.store := by
  cases h with
  | authenticate =>
    rw [WsAction.managerOps, performAll_single]
    rfl
  | refresh hconn =>
    rw [WsAction.managerOps, hconn]
    dsimp only
    rw [performAll_sweep _ fun _ => rfl]
    rfl
  | request hconn =>
    rw [WsAction.managerOps, hconn]
    dsimp only
    rw [performAll_sweep _ fun _ => rfl]
    rfl
  | invalidate =>
    rw [WsAction.managerOps, performAll_sweep _ fun _ => rfl]
    rfl

/-- `reveal_content` records its reveal for the credential the condition is about. -/
theorem startReveal_writes {call connectionId : Nat} {reveal : RevealRequest}
    {credential : CredentialRecord} {now : Time}
    (hcall : s.calls.get? call = some (.requesting connectionId reveal (.ok credential)))
    (hactive : ((WsAction.reveal call now).recordsRevealFor cfg s).all (isActive s.store) = true) :
    RunFrom writeMachine KeepsReveals s.store []
      (startReveal cfg s call connectionId reveal credential now).1.store := by
  have hservice : (s.setRecord connectionId credential).service = s.service :=
    WsState.setRecord_service connectionId credential
  have hstore : (s.setRecord connectionId credential).store = s.store := by
    rw [WsState.store, hservice]
  rw [WsAction.recordsRevealFor, hcall] at hactive
  unfold startReveal
  dsimp only at hactive ⊢
  rw [hstore]
  split
  · show RunFrom writeMachine KeepsReveals s.store [] (s.setRecord connectionId credential).store
    rw [hstore]
    exact .nil
  · next hstatus =>
    rw [if_neg hstatus] at hactive
    split
    · show RunFrom writeMachine KeepsReveals s.store [] (s.setRecord connectionId credential).store
      rw [hstore]
      exact .nil
    · next hbeat =>
      rw [hbeat, Option.all_some] at hactive
      have hrecord := recordReveal_writes (grantReveal reveal now) reveal hactive
      rw [CredentialStore.recordReveal] at hrecord
      split
      · show RunFrom writeMachine KeepsReveals s.store []
          (s.setRecord connectionId credential).store
        rw [hstore]
        exact .nil
      · next store hvalue =>
        rw [hvalue] at hrecord
        exact hrecord

/-- **A segment of the server writes what the condition admits.** -/
theorem wsStep_writes (hI : StoreInv s.store)
    (hguard : GuardedOps cfg hash revealGuard s.store (a.managerOps s) = true)
    (hactive : (a.recordsRevealFor cfg s).all (isActive s.store) = true)
    (h : wsStep cfg hash parseDate s a = some (s', es)) :
    ∃ effects, RunFrom writeMachine KeepsReveals s.store effects s'.store := by
  have hops : RunFrom writeMachine KeepsReveals s.store
      (performAll cfg hash s.store (a.managerOps s)).2
      (performAll cfg hash s.store (a.managerOps s)).1 :=
    performAll_writes (fun _ _ => KeepsReveals.storesFresh)
      (fun m op _ hok m' w hw => keepsReveals_of_revealGuard hok hw) _ hI hguard
  -- most segments leave the store alone
  have hsame : s'.service = s.service →
      ∃ effects, RunFrom writeMachine KeepsReveals s.store effects s'.store := by
    intro hservice
    refine ⟨[], ?_⟩
    rw [WsState.store, WsState.store, hservice]
    exact .nil
  by_cases hreveal : ∃ call now, a = .reveal call now
  · obtain ⟨call, now, rfl⟩ := hreveal
    dsimp only [wsStep] at h
    split at h
    · next connectionId reveal credential hcall =>
      have hstart := startReveal_writes hcall hactive
      rw [Option.some.inj h] at hstart
      exact ⟨[], hstart⟩
    · cases h
      exact hsame rfl
    · cases h
  · cases wsStep_sound h with
    | service hs =>
      have hstep := serviceStep_managerOps hs
      rw [WsAction.managerOps, hstep] at hops
      exact ⟨_, hops⟩
    | looked hlook =>
      rw [hlook.performs] at hops
      exact ⟨_, hops⟩
    | finished hsent => exact hsame rfl
    | authenticated hcall => exact hsame rfl
    | delivered hcall hdelivers hsent => exact hsame (WsState.setRecord_service _ _)
    | @revealed call _ _ _ now _ _ hcall hbyId => exact absurd ⟨call, now, rfl⟩ hreveal
    | replayed hcall hs hes =>
      refine hsame ?_
      rw [hs]
      exact (WsState.broadcastAll_same parseDate _ _ _ _).service_eq
    | invalidated hcall hentry happlied hsent =>
      refine hsame ?_
      rw [WsState.releaseInvalidation_service, ← happlied]
      unfold WsState.applyInvalidation
      split <;> rfl
    | broadcast => exact hsame (WsState.broadcast_same parseDate _ s _ _).service_eq
    | connections hconn => exact hsame rfl

end Server

/-! ### Both surfaces -/

/-- A `reveal.request` that awaits its lookup. -/
structure PendingRevealRequest where
  input : RevealRequestInput
  ctx : Option String
  looked : Result CredentialRecord
  deriving DecidableEq

/-- The server, and the reveal actions in flight. -/
structure RevealRunState where
  ws : WsState
  requests : OrdMap Nat PendingRevealRequest

namespace RevealRunState

variable (s : RevealRunState)

abbrev store : CredentialStore :=
  s.ws.store

def withStore (store : CredentialStore) : RevealRunState :=
  { s with ws := { s.ws with service := { s.ws.service with store := store } } }

end RevealRunState

/-- A segment of the server, of a reveal action, or an operation of the manager. -/
inductive RevealRunAction where
  | ws (a : WsAction)
  | manager (op : ManagerOp)
  | request (call : Nat) (input : RevealRequestInput) (ctx : Option String) (now : Time)
  | requestLookedUp (call : Nat) (revealId : String) (now : Time)
  | list (credentialId : String) (ctx : Option String)

/-- What a segment does to the outside. -/
inductive RevealRunEvent where
  | ws (e : WsEvent)
  | granted (result : Result RevealAccess)
  | listed (result : Result RevealState)

section Step

variable (cfg : CredentialManagerConfig) (hash : ScopeSet → List String → String)
  (parseDate : String → Option Time)

def revealStep (s : RevealRunState) :
    RevealRunAction → Option (RevealRunState × List RevealRunEvent)
  | .ws a =>
    (wsStep cfg hash parseDate s.ws a).map fun r => ({ s with ws := r.1 }, r.2.map .ws)
  | .manager op => some (s.withStore (op.perform cfg hash s.store).store, [])
  | .request call input ctx now =>
    match resolveCredentialTarget input.credentialId ctx with
    | .error e => some (s, [.granted (.error e)])
    | .ok target =>
      if s.requests.has call then none
      else
        let o := Service.lookup cfg s.store target now
        some ({ s.withStore o.store with
          requests := s.requests.set call ⟨input, ctx, o.value⟩ }, [])
  | .requestLookedUp call revealId now =>
    match s.requests.get? call with
    | none => none
    | some pending =>
      let o := s.store.revealRequestFinish pending.input pending.ctx pending.looked revealId now
      some ({ s.withStore o.store with requests := s.requests.erase call }, [.granted o.value])
  | .list credentialId ctx =>
    let o := s.store.revealList credentialId ctx
    some (s.withStore o.store, [.listed o.value])

/-- **Reveals, from both surfaces, under concurrent credential operations.** -/
def revealMachine : Machine RevealRunState RevealRunAction RevealRunEvent where
  init := ⟨(wsMachine cfg hash parseDate).init, .empty⟩
  step := revealStep cfg hash parseDate

/-- The manager operations of a segment. -/
def RevealRunAction.managerOps (s : RevealRunState) : RevealRunAction → List ManagerOp
  | .ws a => a.managerOps s.ws
  | .manager op => [op]
  | .request _ input _ now => [.sweepExpired now, .getCredentialById input.credentialId]
  | .requestLookedUp _ _ _ => []
  | .list credentialId _ => [.getRevealState credentialId]

/-- The credential for which a segment is about to record a reveal. -/
def RevealRunAction.recordsRevealFor (s : RevealRunState) : RevealRunAction → Option String
  | .ws a => a.recordsRevealFor cfg s.ws
  | .requestLookedUp call _ _ =>
    match s.requests.get? call with
    | some ⟨input, ctx, .ok credential⟩ =>
      match checkRevealRequest input ctx credential with
      | .ok () => some input.credentialId
      | .error _ => none
    | _ => none
  | _ => none

/-- Fresh ids. -/
def revealRunFresh (s : RevealRunState) (a : RevealRunAction) : Bool :=
  GuardedOps cfg hash drawsFreshId s.store (a.managerOps s)

/-- **The condition**: the operations spare recorded reveals, and a reveal is recorded
for a credential that is active. -/
def revealRunGuard (s : RevealRunState) (a : RevealRunAction) : Bool :=
  GuardedOps cfg hash revealGuard s.store (a.managerOps s) &&
    (a.recordsRevealFor cfg s).all (isActive s.store)

end Step

section Runs

variable {cfg : CredentialManagerConfig} {hash : ScopeSet → List String → String}
  {parseDate : String → Option Time}

/-- **A step writes what the condition admits.** -/
theorem revealStep_writes {s s' : RevealRunState} {a : RevealRunAction}
    {es : List RevealRunEvent} (hI : StoreInv s.store)
    (hguard : revealRunGuard cfg hash s a = true)
    (h : revealStep cfg hash parseDate s a = some (s', es)) :
    ∃ effects, RunFrom writeMachine KeepsReveals s.store effects s'.store := by
  rw [revealRunGuard, Bool.and_eq_true] at hguard
  obtain ⟨hops, hactive⟩ := hguard
  have hwrites : RunFrom writeMachine KeepsReveals s.store
      (performAll cfg hash s.store (a.managerOps s)).2
      (performAll cfg hash s.store (a.managerOps s)).1 :=
    performAll_writes (fun _ _ => KeepsReveals.storesFresh)
      (fun m op _ hok m' w hw => keepsReveals_of_revealGuard hok hw) _ hI hops
  cases a with
  | ws a =>
    rw [revealStep, Option.map_eq_some_iff] at h
    obtain ⟨⟨ws, es'⟩, hstep, heq⟩ := h
    obtain ⟨rfl, -⟩ := Prod.mk.inj heq
    exact wsStep_writes hI hops hactive hstep
  | manager op =>
    cases h
    rw [RevealRunAction.managerOps, performAll_single] at hwrites
    exact ⟨_, hwrites⟩
  | request call input ctx now =>
    dsimp only [revealStep] at h
    split at h
    · cases h
      exact ⟨[], .nil⟩
    · next target htarget =>
      split at h
      · cases h
      · cases h
        rw [RevealRunAction.managerOps, performAll_sweep now fun _ => rfl] at hwrites
        exact ⟨_, hwrites⟩
  | requestLookedUp call revealId now =>
    dsimp only [revealStep] at h
    split at h
    · cases h
    · next pending hpending =>
      cases h
      obtain ⟨input, ctx, looked⟩ := pending
      rw [RevealRunAction.recordsRevealFor, hpending] at hactive
      show ∃ effects, RunFrom writeMachine KeepsReveals s.store effects
        (s.store.revealRequestFinish input ctx looked revealId now).store
      cases looked with
      | error e => exact ⟨[], .nil⟩
      | ok credential =>
        dsimp only [CredentialStore.revealRequestFinish] at hactive ⊢
        split
        · exact ⟨[], .nil⟩
        · next hcheck =>
          rw [hcheck, Option.all_some] at hactive
          exact ⟨[], recordReveal_writes _ _ hactive⟩
  | list credentialId ctx =>
    cases h
    show ∃ effects, RunFrom writeMachine KeepsReveals s.store effects
      (s.store.revealList credentialId ctx).store
    unfold CredentialStore.revealList
    split
    · exact ⟨[], .nil⟩
    · next target htarget =>
      rw [resolveCredentialTarget_eq_ok htarget]
      rw [RevealRunAction.managerOps, performAll_single] at hwrites
      exact ⟨_, hwrites⟩

/-- **Reveals die with the credential.** In every run under the condition, a credential
that is not active has no active reveals. -/
theorem reveals_die_with_credential {tr : List RevealRunEvent} {s : RevealRunState}
    (h : Run (revealMachine cfg hash parseDate)
      (fun s a => revealRunGuard cfg hash s a = true) tr s) :
    ∀ id r, s.store.byId.get? id = some r → r.status ≠ .active →
      (s.store.revealStates.get? id).getD [] = [] := by
  have hinv : StoreInv s.store ∧ RevealInv s.store := by
    refine h.invariant (I := fun _ s => StoreInv s.store ∧ RevealInv s.store)
      ⟨StoreInv.initial, RevealInv.initial⟩ ?_
    intro tr s a s' es _ ⟨hI, hR⟩ hguard hs
    obtain ⟨effects, hwrites⟩ := revealStep_writes hI hguard hs
    exact ⟨StoreInv.of_runFrom (fun _ _ => KeepsReveals.storesFresh) hI hwrites,
      RevealInv.of_runFrom hR hwrites⟩
  intro id r hget hstatus
  have hnone := hinv.2 hget hstatus
  rw [hasReveals] at hnone
  cases hstate : s.store.revealStates.get? id with
  | none => rfl
  | some reveals =>
    rw [hstate, Option.any_some, Bool.not_eq_false', List.isEmpty_iff] at hnone
    exact hnone

end Runs

/-! ### Runs on fixed inputs -/

/-- A credential for an hour, for which one message is revealed. -/
private def revealOne : List RevealRunAction :=
  [.manager (.issueCredential
      ⟨"op_0123456789abcdef", ["conv_0123456789abcdef"], none, some [.send], none, none⟩
      ⟨"cred_0123456789abcdef", "owner", "token", 0⟩),
    .request 0 ⟨"cred_0123456789abcdef", "conv_0123456789abcdef", .message, "message",
      "owner", none⟩
      none 1,
    .requestLookedUp 0 "reveal" 2]

/-- The reveal is recorded, and gone once the credential is revoked. -/
theorem reveals_die_with_credential_revoked :
    ∃ s : RevealRunState, (∃ r, s.store.byId.get? "cred_0123456789abcdef" = some r ∧
        r.status = .revoked) ∧
      (s.store.revealStates.get? "cred_0123456789abcdef").getD [] = [] := by
  obtain ⟨tr, s, hrun, htest⟩ := exists_run_of_exec (revealMachine {} (fun _ _ => "") fun _ => none)
    (revealRunGuard {} fun _ _ => "")
    (revealOne ++
      [.ws (.service (.revoke "cred_0123456789abcdef" .ownerInitiated 3))])
    (fun _ s => isRevoked s.store "cred_0123456789abcdef") (by decide)
  obtain ⟨r, hget, hrevoked⟩ := (Option.any_eq_true _ _).1 htest
  have hstatus : r.status = .revoked := of_decide_eq_true hrevoked
  refine ⟨s, ⟨r, hget, hstatus⟩, reveals_die_with_credential hrun _ r hget ?_⟩
  rw [hstatus]
  nofun

/-- **The condition is needed.** A client authenticates with the token of a credential
that has just expired; the credential is marked as expired and keeps its reveal. -/
theorem reveals_outlive_credential :
    ∃ tr s, Run (revealMachine {} (fun _ _ => "") fun _ => none)
        (fun s a => revealRunFresh {} (fun _ _ => "") s a = true) tr s ∧
      (((s.store.byId.get? "cred_0123456789abcdef").any fun r => r.status = .expired) &&
        hasReveals s.store "cred_0123456789abcdef") = true :=
  exists_run_of_exec (revealMachine {} (fun _ _ => "") fun _ => none)
    (revealRunFresh {} fun _ _ => "")
    (revealOne ++ [.ws (.authenticate 0 "token" 3600000)])
    (fun _ s => ((s.store.byId.get? "cred_0123456789abcdef").any fun r => r.status = .expired) &&
      hasReveals s.store "cred_0123456789abcdef")
    (by decide)

end Signet
