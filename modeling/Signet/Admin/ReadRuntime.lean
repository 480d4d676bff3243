import Signet.Admin.DisclosureCoupling
import Signet.Cli.SealLifecycle

/-!
# Elevations and seals, wired as in the runtime

`start.ts` connects the elevation manager to the seal manager twice. When the disclosure
of a chat changes, `onDisclosureChanged` lists the current seals of the chat and refreshes
them one after the other; and the resolver of seal inputs reads the disclosure store
(`lookupAdminAccess`), through `peek` while a rollback is under way.

`readRuntime` runs the elevation manager, the machine of credentials and seals, and the
calls of `onDisclosureChanged` (`RefreshTask`), one step per synchronous segment. A refresh
task belongs to the elevation call that waits for it, and gets the result of a `refresh`
from the event with which the seal manager returns it (`deliver`).

`readStep_sound` lists what a step does to each component.
-/

namespace Signet

open Lib

/-! ### State -/

/-- Where a call of `onDisclosureChanged` stands. -/
inductive RefreshStage where
  /-- Awaiting `sealManager.list`, which has read the seals. -/
  | awaitList (result : List SealEnvelope)
  /-- Awaiting `sealManager.refresh`, with the seals of the list that are left. -/
  | awaitRefresh (call : Nat) (rest : List SealEnvelope)
  /-- `refresh` has returned. -/
  | refreshReturned (result : Result Unit) (rest : List SealEnvelope)
  /-- The call has returned. -/
  | returned (result : Result Unit)

/-- A call of `onDisclosureChanged`. -/
structure RefreshTask where
  chatIds : List String
  includeExpired : Bool
  /-- The chats that are not listed yet. -/
  remaining : List String
  refreshedSealIds : List String
  stage : RefreshStage

/-- A call of the seal manager has returned. -/
def RefreshTask.note (task : RefreshTask) (call : Nat) (result : Result SealEnvelope) :
    RefreshTask :=
  match task.stage with
  | .awaitRefresh awaited rest =>
    if awaited = call then { task with stage := .refreshReturned (result.map fun _ => ()) rest }
    else task
  | _ => task

/-- The runtime: the components and the calls between them. -/
structure ReadRuntime (κ : Type) where
  elevation : ElevationState κ
  lifecycle : LifecycleState
  /-- `rollbackDisclosureTracker`. -/
  rollbackTracker : RollbackTracker
  /-- Calls of `onDisclosureChanged`, by the elevation call that waits for them. -/
  refreshing : OrdMap Nat RefreshTask
  /-- `idMappingStoreRef`. -/
  idMappings : Option IdMappings
  /-- The last clock reading of the elevation manager or of the disclosure store. -/
  clock : Time

/-- The runtime as started. -/
def ReadRuntime.init (κ : Type) : ReadRuntime κ :=
  ⟨.init, .init, .new, .empty, none, 0⟩

/-- A segment of one of the components. -/
inductive ReadAction (κ : Type) where
  /-- `resolveForRequest` is called. -/
  | resolve (call : Nat) (input : ResolveInput κ) (now : Time)
  /-- A timer, or a reply of the approver or of the audit log. -/
  | elevation (a : ElevationAction κ)
  /-- `onDisclosureChanged` returns to the elevation manager. -/
  | notified (call : Nat) (now : Time)
  /-- Credential operations, seal calls, and the resolver but for its last segment. -/
  | lifecycle (a : LifecycleAction)
  /-- The last segment of the resolver, which reads the disclosure store. -/
  | operatorLookedUp (call : Nat) (op : Result OperatorConfig) (now : Time)
  /-- `onDisclosureChanged` goes on to its next seal or chat. -/
  | refreshNext (id call : Nat) (newSealId : String) (now : Time)
  | mapped (idMappings : Option IdMappings)

/-- The events of both machines. -/
inductive ReadEvent (κ : Type) where
  | elevation (e : ElevationEvent κ)
  | lifecycle (e : LifecycleEvent)

/-- The event, if it is one of the elevation manager. -/
def ReadEvent.elevation? {κ : Type} : ReadEvent κ → Option (ElevationEvent κ)
  | .elevation e => some e
  | .lifecycle _ => none

namespace ReadRuntime

variable {κ : Type} (s : ReadRuntime κ)

/-! ### The calls between the components -/

/-- `onDisclosureChanged` returns, out of its `try` block. -/
def endRefresh (id : Nat) (task : RefreshTask) (result : Result Unit) : ReadRuntime κ :=
  { s with
    rollbackTracker :=
      if task.includeExpired then s.rollbackTracker.leave task.chatIds else s.rollbackTracker
    refreshing := s.refreshing.set id { task with stage := .returned result } }

/-- The outer loop of `onDisclosureChanged`: list the seals of the next chat. -/
def listNext (id : Nat) (task : RefreshTask) : ReadRuntime κ :=
  match task.remaining with
  | [] => s.endRefresh id task (.ok ())
  | chatId :: rest =>
    { s with
      refreshing := s.refreshing.set id
        { task with
          remaining := rest
          stage := .awaitList (s.lifecycle.seals.manager.list (some chatId) none) } }

/-- `onDisclosureChanged`, up to its first `await`. -/
def onDisclosureChanged (id : Nat) (chatIds : List String) (includeExpired : Bool) :
    ReadRuntime κ :=
  let tracker :=
    if includeExpired then s.rollbackTracker.enter chatIds else s.rollbackTracker
  { s with rollbackTracker := tracker }.listNext id
    ⟨chatIds, includeExpired, chatIds, [], .awaitList []⟩

/-- `notifyDisclosureChanged`: without changed chats there is nothing to do. -/
def notifyDisclosureChanged (id : Nat) (chatIds : List String) (includeExpired : Bool) :
    ReadRuntime κ :=
  if chatIds = [] then
    { s with refreshing := s.refreshing.set id ⟨[], includeExpired, [], [], .returned (.ok ())⟩ }
  else s.onDisclosureChanged id chatIds includeExpired

/-- Make the calls of the elevation manager. -/
def notify (es : List (ElevationEvent κ)) : ReadRuntime κ :=
  es.foldl
    (fun s e =>
      match e with
      | .notify call chatIds includeExpired =>
        s.notifyDisclosureChanged call chatIds includeExpired
      | _ => s) s

/-- Deliver what the seal manager returns to the tasks that wait for it. -/
def deliver (es : List LifecycleEvent) : ReadRuntime κ :=
  es.foldl
    (fun s e =>
      match e with
      | .seal (.returned call result) =>
        { s with refreshing := s.refreshing.mapValues (·.note call result) }
      | _ => s) s

/-- What the last segment of the resolver reads in the disclosure store, with the store it
leaves behind. The store is read after the checks have passed. -/
def lookedUp (call : Nat) (op : Result OperatorConfig) (now : Time) :
    Option AdminReadDisclosure × DisclosureStore :=
  let store := s.elevation.disclosureStore
  match s.lifecycle.resolving.get? call, op with
  | some ⟨_, chatId, .awaitOperator cred⟩, .ok _ =>
    if (checkChatInScope chatId cred.chatIds).isOk then
      lookupAdminAccess s.rollbackTracker store chatId now
    else (none, store)
  | _, _ => (none, store)

/-- The result of the `onDisclosureChanged` that an elevation call waits for. -/
def notification? (call : Nat) : Option (Result Unit) :=
  (s.refreshing.get? call).bind fun task =>
    match task.stage with
    | .returned result => some result
    | _ => none

end ReadRuntime

/-! ### The step -/

section Step

variable {κ : Type} (cfg : CredentialManagerConfig) (hash : ScopeSet → List String → String)
  (trustTier : TrustTier) (ttlMs : Nat)

/-- A segment of the elevation manager, and the notification it makes. -/
def ReadRuntime.elevate (s : ReadRuntime κ) (a : ElevationAction κ) :
    Option (ReadRuntime κ × List (ReadEvent κ)) :=
  match elevationStep ttlMs s.elevation a with
  | none => none
  | some (elevation, es) =>
    some ({ s with elevation := elevation, clock := a.time?.getD s.clock }.notify es,
      es.map .elevation)

/-- A segment of the machine of credentials and seals. -/
def ReadRuntime.live (s : ReadRuntime κ) (a : LifecycleAction) :
    Option (ReadRuntime κ × List (ReadEvent κ)) :=
  match lifecycleStep cfg hash trustTier s.lifecycle a with
  | none => none
  | some (lifecycle, es) => some ({ s with lifecycle := lifecycle }.deliver es, es.map .lifecycle)

/-- The inner loop of `onDisclosureChanged`: refresh the next seal that has not been
refreshed yet, or go on to the next chat. -/
def ReadRuntime.refreshNext (s : ReadRuntime κ) (id : Nat) (task : RefreshTask)
    (seals : List SealEnvelope) (call : Nat) (newSealId : String) (now : Time) :
    Option (ReadRuntime κ × List (ReadEvent κ)) :=
  match seals.dropWhile (·.sealId ∈ task.refreshedSealIds) with
  | [] => some (s.listNext id task, [])
  | envelope :: rest =>
    let task : RefreshTask :=
      { task with
        refreshedSealIds := task.refreshedSealIds ++ [envelope.sealId]
        stage := .awaitRefresh call rest }
    ReadRuntime.live cfg hash trustTier { s with refreshing := s.refreshing.set id task }
      (.seals (.refresh call envelope.sealId newSealId now))

/-- One segment of one component. -/
def readStep (s : ReadRuntime κ) :
    ReadAction κ → Option (ReadRuntime κ × List (ReadEvent κ))
  | .resolve call input now => s.elevate ttlMs (.resolve call input s.idMappings now)
  | .elevation a =>
    match a with
    | .resolve .. => none
    | .notified .. => none
    | a => s.elevate ttlMs a
  | .notified call now =>
    match s.notification? call with
    | none => none
    | some result =>
      { s with refreshing := s.refreshing.erase call }.elevate ttlMs (.notified call result now)
  | .lifecycle a =>
    match a with
    | .operatorLookedUp .. => none
    | a => s.live cfg hash trustTier a
  | .operatorLookedUp call op now =>
    let (adminAccess, store) := s.lookedUp call op now
    ReadRuntime.live cfg hash trustTier
      { s with elevation := { s.elevation with disclosureStore := store }, clock := now }
      (.operatorLookedUp call op adminAccess)
  | .refreshNext id call newSealId now =>
    match s.refreshing.get? id with
    | none => none
    | some task =>
      match task.stage with
      | .awaitList seals => s.refreshNext cfg hash trustTier id task seals call newSealId now
      | .refreshReturned (.ok ()) seals =>
        s.refreshNext cfg hash trustTier id task seals call newSealId now
      | .refreshReturned (.error e) _ => some (s.endRefresh id task (.error e), [])
      | _ => none
  | .mapped idMappings => some ({ s with idMappings := idMappings }, [])

/-- **Elevations, credentials and seals under concurrent operations.** -/
def readRuntime (κ : Type) : Machine (ReadRuntime κ) (ReadAction κ) (ReadEvent κ) where
  init := .init κ
  step := readStep cfg hash trustTier ttlMs

end Step

/-! ### What a step does to the components -/

/-- The two differ in the calls of `onDisclosureChanged` only. -/
def ReadRuntime.SameComponents {κ : Type} (s s' : ReadRuntime κ) : Prop :=
  ∃ tracker refreshing, s' = { s with rollbackTracker := tracker, refreshing := refreshing }

namespace ReadRuntime

variable {κ : Type} {s s' s'' : ReadRuntime κ}

theorem SameComponents.refl (s : ReadRuntime κ) : s.SameComponents s :=
  ⟨s.rollbackTracker, s.refreshing, rfl⟩

theorem SameComponents.trans (h : s.SameComponents s') (h' : s'.SameComponents s'') :
    s.SameComponents s'' := by
  obtain ⟨_, _, rfl⟩ := h
  obtain ⟨tracker, refreshing, rfl⟩ := h'
  exact ⟨tracker, refreshing, rfl⟩

theorem listNext_same (s : ReadRuntime κ) (id : Nat) (task : RefreshTask) :
    s.SameComponents (s.listNext id task) := by
  unfold listNext
  split
  · exact ⟨_, _, rfl⟩
  · exact ⟨_, _, rfl⟩

theorem notifyDisclosureChanged_same (s : ReadRuntime κ) (id : Nat) (chatIds : List String)
    (includeExpired : Bool) :
    s.SameComponents (s.notifyDisclosureChanged id chatIds includeExpired) := by
  unfold notifyDisclosureChanged
  split
  · exact ⟨_, _, rfl⟩
  · exact SameComponents.trans ⟨_, _, rfl⟩ (listNext_same _ _ _)

theorem notify_same (s : ReadRuntime κ) (es : List (ElevationEvent κ)) :
    s.SameComponents (s.notify es) := by
  -- on the events: each call of `onDisclosureChanged` starts one more list of refreshes
  induction es generalizing s with
  | nil => exact .refl s
  | cons e es ih =>
    cases e with
    | notify call chatIds includeExpired =>
      exact (s.notifyDisclosureChanged_same call chatIds includeExpired).trans (ih _)
    | authorized | approved | resolved => exact ih s

theorem deliver_same (s : ReadRuntime κ) (es : List LifecycleEvent) :
    s.SameComponents (s.deliver es) := by
  induction es generalizing s with
  | nil => exact .refl s
  | cons e es ih =>
    rcases e with e | e
    · exact ih s
    · cases e with
      -- only a returned call concerns the refreshes
      | returned call result => exact SameComponents.trans ⟨_, _, rfl⟩ (ih _)
      | publish | recorded | publishRevocation | revoked | revokeFailed => exact ih s

end ReadRuntime

/-- The segment of the elevation manager that an action runs. -/
def ReadRuntime.elevationAction? {κ : Type} (s : ReadRuntime κ) :
    ReadAction κ → Option (ElevationAction κ)
  | .resolve call input now => some (.resolve call input s.idMappings now)
  | .elevation a =>
    match a with
    | .resolve .. => none
    | .notified .. => none
    | a => some a
  | .notified call now => (s.notification? call).map (.notified call · now)
  | _ => none

/-- The segment is the one of the resolver that reads the disclosure store. -/
def LifecycleAction.readsDisclosure : LifecycleAction → Bool
  | .operatorLookedUp .. => true
  | _ => false

section Sound

variable {κ : Type} (cfg : CredentialManagerConfig) (hash : ScopeSet → List String → String)
  (trustTier : TrustTier) (ttlMs : Nat)

/-- The outcomes of a step, by the component that moved. -/
inductive ReadStep (s : ReadRuntime κ) :
    ReadAction κ → ReadRuntime κ → List (ReadEvent κ) → Prop
  /-- A segment of the elevation manager. -/
  | elevated {a : ReadAction κ} {α : ElevationAction κ} {elevation : ElevationState κ}
      {s' : ReadRuntime κ} {es : List (ElevationEvent κ)} (hα : s.elevationAction? a = some α)
      (h : ElevationStep ttlMs s.elevation α elevation es)
      (hsame : ReadRuntime.SameComponents
        { s with elevation := elevation, clock := α.time?.getD s.clock } s') :
      ReadStep s a s' (es.map .elevation)
  /-- A segment of the machine of credentials and seals that does not read the store. -/
  | lived {a : ReadAction κ} {α : LifecycleAction} {lifecycle : LifecycleState}
      {s' : ReadRuntime κ} {es : List LifecycleEvent} (hα : α.readsDisclosure = false)
      (h : lifecycleStep cfg hash trustTier s.lifecycle α = some (lifecycle, es))
      (hsame : ReadRuntime.SameComponents { s with lifecycle := lifecycle } s') :
      ReadStep s a s' (es.map .lifecycle)
  /-- The resolver reads the store and returns. -/
  | lookedUp {call : Nat} {op : Result OperatorConfig} {now : Time} {lifecycle : LifecycleState}
      {s' : ReadRuntime κ} {es : List LifecycleEvent}
      (h : lifecycleStep cfg hash trustTier s.lifecycle
        (.operatorLookedUp call op (s.lookedUp call op now).1) = some (lifecycle, es))
      (hsame : ReadRuntime.SameComponents
        { s with
          elevation := { s.elevation with disclosureStore := (s.lookedUp call op now).2 }
          lifecycle := lifecycle
          clock := now } s') :
      ReadStep s (.operatorLookedUp call op now) s' (es.map .lifecycle)
  | mapped (idMappings : Option IdMappings) :
      ReadStep s (.mapped idMappings) { s with idMappings := idMappings } []
  /-- A call of `onDisclosureChanged` moves on. -/
  | idle {a : ReadAction κ} {s' : ReadRuntime κ} (hsame : s.SameComponents s') :
      ReadStep s a s' []

variable {cfg hash trustTier ttlMs} {s s' : ReadRuntime κ} {es : List (ReadEvent κ)}

private theorem elevate_sound {a : ReadAction κ} {α : ElevationAction κ} {t : ReadRuntime κ}
    (hα : s.elevationAction? a = some α) (hsame : s.SameComponents t)
    (h : t.elevate ttlMs α = some (s', es)) : ReadStep cfg hash trustTier ttlMs s a s' es := by
  -- neither the tracker nor the refreshes are read by the elevation manager
  obtain ⟨tracker, refreshing, rfl⟩ := hsame
  unfold ReadRuntime.elevate at h
  split at h
  · cases h
  · next elevation es' hstep =>
    cases h
    obtain ⟨tracker', refreshing', heq⟩ := ReadRuntime.notify_same _ es'
    exact .elevated hα (elevationStep_sound hstep) ⟨tracker', refreshing', heq⟩

private theorem live_sound {a : ReadAction κ} {α : LifecycleAction} {t : ReadRuntime κ}
    (hα : α.readsDisclosure = false) (hsame : s.SameComponents t)
    (h : t.live cfg hash trustTier α = some (s', es)) :
    ReadStep cfg hash trustTier ttlMs s a s' es := by
  obtain ⟨tracker, refreshing, rfl⟩ := hsame
  unfold ReadRuntime.live at h
  split at h
  · cases h
  · next lifecycle es' hstep =>
    cases h
    obtain ⟨tracker', refreshing', heq⟩ := ReadRuntime.deliver_same _ es'
    exact .lived hα hstep ⟨tracker', refreshing', heq⟩

private theorem refreshNext_sound {a : ReadAction κ} {id call : Nat} {task : RefreshTask}
    {seals : List SealEnvelope} {newSealId : String} {now : Time}
    (h : s.refreshNext cfg hash trustTier id task seals call newSealId now = some (s', es)) :
    ReadStep cfg hash trustTier ttlMs s a s' es := by
  unfold ReadRuntime.refreshNext at h
  split at h
  · cases h
    exact .idle (s.listNext_same id task)
  · exact live_sound rfl ⟨_, _, rfl⟩ h

/-- **Inversion of a step.** -/
theorem readStep_sound {a : ReadAction κ}
    (h : readStep cfg hash trustTier ttlMs s a = some (s', es)) :
    ReadStep cfg hash trustTier ttlMs s a s' es := by
  cases a with
  | resolve call input now => exact elevate_sound rfl (.refl s) h
  | elevation a =>
    cases a with
    | resolve | notified => cases h
    | timer | authorized | fingerprint | audited => exact elevate_sound rfl (.refl s) h
  | notified call now =>
    dsimp only [readStep] at h
    split at h
    · cases h
    · next result hresult =>
      -- the reply is the one that the list of refreshes has come to
      have hα : s.elevationAction? (.notified call now) = some (.notified call result now) := by
        rw [ReadRuntime.elevationAction?, hresult]
        rfl
      exact elevate_sound hα ⟨_, _, rfl⟩ h
  | lifecycle a =>
    cases a with
    | operatorLookedUp => cases h
    | service | issue | credentialLookedUp | inputReady | seals | taskCurrent | taskRevoked =>
      exact live_sound rfl (.refl s) h
  | operatorLookedUp call op now =>
    dsimp only [readStep, ReadRuntime.live] at h
    split at h
    · cases h
    · next lifecycle es' hstep =>
      cases h
      -- the resolver reads the disclosure store at this moment
      obtain ⟨tracker, refreshing, heq⟩ := ReadRuntime.deliver_same _ es'
      exact .lookedUp hstep ⟨tracker, refreshing, heq⟩
  | refreshNext id call newSealId now =>
    dsimp only [readStep] at h
    split at h
    · cases h
    · next task htask =>
      split at h
      · exact refreshNext_sound h
      · exact refreshNext_sound h
      · cases h
        exact .idle ⟨_, _, rfl⟩
      · cases h
  | mapped idMappings =>
    cases h
    exact .mapped idMappings

end Sound

end Signet
