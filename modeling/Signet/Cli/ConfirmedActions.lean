import Signet.Cli.SendAuthority

/-!
# Confirmed actions

`confirm_action` takes the pending action out of the store before it awaits the core. The gate is
followed here with the action that each confirmed call executes (`executing`), and with
`expireStale` of the store as one more step.

* `PendingStep`, `pendingStep_sound`: what a step does to the pending actions and to the calls that
  execute one.
* `ConfirmInv`: an action is in the store, or executed by one call, or sent, once for each time it
  was queued.
* `confirmed_once`: the message of an action is sent at most once, and the action is taken out
  of the store exactly when a confirmation of its own credential is handled or it is swept.
-/

namespace Signet

open Lib

/-! ### The store -/

/-- `expireStale`: what is left. -/
def PendingActions.expireStale (parseDate : String → Option Time) (actions : PendingActions)
    (now : Time) : PendingActions :=
  actions.filterValues fun action => !(parseDate action.expiresAt).any (· ≤ now)

/-- What is left after a sweep. -/
theorem PendingActions.get?_expireStale {parseDate : String → Option Time}
    {actions : PendingActions} {now : Time} {actionId : String} {action : PendingAction} :
    (actions.expireStale parseDate now).get? actionId = some action ↔
      actions.get? actionId = some action ∧ (parseDate action.expiresAt).any (· ≤ now) = false := by
  unfold expireStale
  rw [OrdMap.get?_filterValues, Option.filter_eq_some_iff, Bool.not_eq_true']

section Handler

variable {parseDate : String → Option Time} {actions : PendingActions}
  {request : ConfirmActionRequest} {credential : CredentialRecord} {now : Time}

/-- What comes of a confirmation by the credential of the action. -/
inductive ConfirmOutcome (parseDate : String → Option Time) (pending : PendingAction)
    (request : ConfirmActionRequest) (credential : CredentialRecord) (now : Time) :
    ConfirmStart → Prop
  | expired {e : SignetError} (hexpired : (parseDate pending.expiresAt).any (· < now) = true) :
      ConfirmOutcome parseDate pending request credential now (.answer (.error e))
  | denied (hlive : (parseDate pending.expiresAt).any (· < now) = false)
      (hdenied : request.confirmed = false) :
      ConfirmOutcome parseDate pending request credential now
        (.answer (.ok (.denied request.actionId)))
  | refused {e : SignetError} (hlive : (parseDate pending.expiresAt).any (· < now) = false)
      (hconfirmed : request.confirmed = true)
      (hrefused : revalidatePending pending credential = .error e) :
      ConfirmOutcome parseDate pending request credential now (.answer (.error e))
  | unsupported {e : SignetError} (hlive : (parseDate pending.expiresAt).any (· < now) = false)
      (hconfirmed : request.confirmed = true) (htype : pending.actionType ≠ "send_message") :
      ConfirmOutcome parseDate pending request credential now (.answer (.error e))
  | executed (hlive : (parseDate pending.expiresAt).any (· < now) = false)
      (hconfirmed : request.confirmed = true)
      (hvalid : revalidatePending pending credential = .ok ()) :
      ConfirmOutcome parseDate pending request credential now (.execute pending.payload)

/-- A request for an action of the credential takes it out, whatever comes of it. -/
theorem handleConfirmAction_own {pending : PendingAction}
    (hget : actions.get? request.actionId = some pending)
    (hown : pending.credentialId = credential.credentialId) :
    ∃ start, handleConfirmAction parseDate actions request credential now =
        (actions.erase request.actionId, start) ∧
      ConfirmOutcome parseDate pending request credential now start := by
  unfold handleConfirmAction
  rw [hget]
  dsimp only
  rw [if_neg (not_not.2 hown)]
  -- the checks in the order of the source: expiry, answer, permission, action type
  by_cases hexpired : (parseDate pending.expiresAt).any (· < now) = true
  · rw [if_pos hexpired]
    exact ⟨_, rfl, .expired hexpired⟩
  · rw [if_neg hexpired]
    have hlive := Bool.eq_false_iff.2 hexpired
    cases hconfirmed : request.confirmed with
    | false => exact ⟨_, rfl, .denied hlive hconfirmed⟩
    | true =>
      rw [if_neg (by decide)]
      split
      · next e hrefused => exact ⟨_, rfl, .refused hlive hconfirmed hrefused⟩
      · next hvalid =>
        by_cases htype : pending.actionType = "send_message"
        · rw [if_pos htype]
          exact ⟨_, rfl, .executed hlive hconfirmed hvalid⟩
        · rw [if_neg htype]
          exact ⟨_, rfl, .unsupported hlive hconfirmed htype⟩

theorem handleConfirmAction_other
    (hother : ∀ pending, actions.get? request.actionId = some pending →
      pending.credentialId ≠ credential.credentialId) :
    ∃ e, handleConfirmAction parseDate actions request credential now =
      (actions, .answer (.error e)) := by
  unfold handleConfirmAction
  cases hget : actions.get? request.actionId with
  | none => exact ⟨_, rfl⟩
  | some pending =>
    dsimp only
    rw [if_pos (hother pending hget)]
    exact ⟨_, rfl⟩

end Handler

/-! ### What a step does to pending actions -/

/-- The message that a call sends for a confirmed action once the core is ready, and for which
credential. -/
def GateCall.executes : GateCall → Option (SendMessageRequest × String)
  | awaitConfirmedCore payload credentialId => some (payload, credentialId)
  | _ => none

namespace GateState

/-- What a call in flight executes. -/
def executed (s : GateState) (call : Nat) : Option (SendMessageRequest × String) :=
  (s.calls.get? call).bind (·.executes)

/-- The step handles a confirmation of the pending action by its own credential. -/
structure Confirms (cfg : CredentialManagerConfig) (s : GateState) (a : GateAction)
    (pending : PendingAction) (call : Nat) (request : ConfirmActionRequest)
    (credential : CredentialRecord) (now : Time) : Prop where
  action : a = .handle call now
  waits : s.calls.get? call = some (.awaitCredential (.confirmAction request) (.ok credential))
  active : credential.status = .active
  alive : heartbeatGuard cfg s.service.store credential.credentialId now = .ok ()
  stored : s.pendingActions.get? request.actionId = some pending
  own : pending.credentialId = credential.credentialId

variable {s s' : GateState} {call : Nat} {phase : GateCall}

theorem executed_of_get? (h : s.calls.get? call = some phase) :
    s.executed call = phase.executes := by
  unfold executed
  rw [h, Option.bind_some]

theorem executed_eq_some {executed : SendMessageRequest × String} :
    s.executed call = some executed ↔
      s.calls.get? call = some (.awaitConfirmedCore executed.1 executed.2) := by
  constructor
  · intro h
    obtain ⟨phase, hcall, hphase⟩ := Option.bind_eq_some_iff.1 h
    cases phase with
    | awaitConfirmedCore payload credentialId =>
      cases hphase
      exact hcall
    | _ => cases hphase
  · exact fun h => executed_of_get? h

/-- A write of one call. -/
theorem executed_set (hcalls : s'.calls = s.calls.set call phase) (call' : Nat) :
    s'.executed call' = if call' = call then phase.executes else s.executed call' := by
  unfold executed
  rw [hcalls, OrdMap.get?_set]
  split
  · rfl
  · rfl

theorem executed_erase (hcalls : s'.calls = s.calls.erase call) (call' : Nat) :
    s'.executed call' = if call' = call then none else s.executed call' := by
  unfold executed
  rw [hcalls, OrdMap.get?_erase]
  split
  · rfl
  · rfl

end GateState

/-- What a step does to the pending actions and to the calls that execute one. -/
inductive PendingStep (cfg : CredentialManagerConfig) (parseDate : String → Option Time)
    (s : GateState) : GateAction → GateState → List GateEvent → Prop
  | queued {action : PendingAction} {s' : GateState}
      (hpending : s'.pendingActions = s.pendingActions.add action) (hcalls : s'.calls = s.calls) :
      PendingStep cfg parseDate s (.queue action) s' []
  /-- A confirmation is answered at once. -/
  | answered {pending : PendingAction} {call : Nat} {request : ConfirmActionRequest}
      {credential : CredentialRecord} {now : Time} {s' : GateState} {result : Result HandlerReply}
      (hconfirms : s.Confirms cfg (.handle call now) pending call request credential now)
      (houtcome : ConfirmOutcome parseDate pending request credential now (.answer result))
      (hpending : s'.pendingActions = s.pendingActions.erase request.actionId)
      (hcalls : s'.calls = s.calls.erase call) :
      PendingStep cfg parseDate s (.handle call now) s' [.replied call result]
  /-- A confirmation waits for the core. -/
  | executed {pending : PendingAction} {call : Nat} {request : ConfirmActionRequest}
      {credential : CredentialRecord} {now : Time} {s' : GateState}
      (hconfirms : s.Confirms cfg (.handle call now) pending call request credential now)
      (houtcome : ConfirmOutcome parseDate pending request credential now
        (.execute pending.payload))
      (hpending : s'.pendingActions = s.pendingActions.erase request.actionId)
      (hcalls : s'.calls = s.calls.set call
        (.awaitConfirmedCore pending.payload credential.credentialId)) :
      PendingStep cfg parseDate s (.handle call now) s' []
  /-- The core is ready for a confirmation. -/
  | sent {call : Nat} {payload : SendMessageRequest} {credentialId : String} {now : Time}
      {s' : GateState} (hcall : s.executed call = some (payload, credentialId))
      (hpending : s'.pendingActions = s.pendingActions)
      (hcalls : s'.calls = s.calls.set call .sending) :
      PendingStep cfg parseDate s (.coreReady call (.ok ()) now) s'
        [.sendMessage credentialId payload]
  | failed {call : Nat} {payload : SendMessageRequest} {credentialId : String} {now : Time}
      {s' : GateState} {e : SignetError}
      (hcall : s.executed call = some (payload, credentialId))
      (hpending : s'.pendingActions = s.pendingActions) (hcalls : s'.calls = s.calls.erase call) :
      PendingStep cfg parseDate s (.coreReady call (.error e) now) s' [.replied call (.error e)]
  /-- Anything else. -/
  | other {a : GateAction} {s' : GateState} {es : List GateEvent}
      (hpending : s'.pendingActions = s.pendingActions) (hqueue : ∀ action, a ≠ .queue action)
      (hexecuted : ∀ call, s'.executed call = s.executed call)
      (hready : ∀ call result now, a = .coreReady call result now → s.executed call = none) :
      PendingStep cfg parseDate s a s' es

section Sound

variable {cfg : CredentialManagerConfig} {hash : ScopeSet → List String → String}
  {parseDate : String → Option Time} {s s' : GateState} {a : GateAction} {es : List GateEvent}

/-- A call that executes nothing goes on to something that executes nothing. -/
theorem PendingStep.of_set {call : Nat} {phase : GateCall}
    (hpending : s'.pendingActions = s.pendingActions) (hqueue : ∀ action, a ≠ .queue action)
    (hcall : s.executed call = none) (hphase : phase.executes = none)
    (hcalls : s'.calls = s.calls.set call phase)
    (hready : ∀ call' result now, a = .coreReady call' result now → call' = call) :
    PendingStep cfg parseDate s a s' es := by
  refine .other hpending hqueue (fun call' => ?_) fun call' result now ha => ?_
  · rw [GateState.executed_set hcalls]
    split
    · next heq => rw [heq, hcall, hphase]
    · rfl
  · rw [hready call' result now ha, hcall]

theorem PendingStep.of_erase {call : Nat} (hpending : s'.pendingActions = s.pendingActions)
    (hqueue : ∀ action, a ≠ .queue action) (hcall : s.executed call = none)
    (hcalls : s'.calls = s.calls.erase call)
    (hready : ∀ call' result now, a = .coreReady call' result now → call' = call) :
    PendingStep cfg parseDate s a s' es := by
  refine .other hpending hqueue (fun call' => ?_) fun call' result now ha => ?_
  · rw [GateState.executed_erase hcalls]
    split
    · next heq => rw [heq, hcall]
    · rfl
  · rw [hready call' result now ha, hcall]

theorem pendingStep_handle {call : Nat} {request : GateRequest} {credential : CredentialRecord}
    {now : Time} (hcall : s.calls.get? call = some (.awaitCredential request (.ok credential)))
    (hactive : credential.status = .active)
    (h : handleRequest cfg parseDate s call request credential now = (s', es)) :
    PendingStep cfg parseDate s (.handle call now) s' es := by
  have hnone : s.executed call = none := GateState.executed_of_get? hcall
  unfold handleRequest at h
  split at h
  · obtain ⟨rfl, rfl⟩ := Prod.mk.inj h
    exact .of_erase rfl nofun hnone rfl nofun
  · next halive =>
    cases request with
    | sendMessage request =>
      dsimp only at h
      split at h
      · obtain ⟨rfl, rfl⟩ := Prod.mk.inj h
        exact .of_erase rfl nofun hnone rfl nofun
      · obtain ⟨rfl, rfl⟩ := Prod.mk.inj h
        exact .of_set rfl nofun hnone rfl rfl nofun
    | confirmAction request =>
      dsimp only at h
      -- only a confirmation of an own action touches the store
      by_cases hown : ∃ pending, s.pendingActions.get? request.actionId = some pending ∧
          pending.credentialId = credential.credentialId
      · obtain ⟨pending, hstored, hown⟩ := hown
        obtain ⟨start, hstart, houtcome⟩ :=
          @handleConfirmAction_own parseDate _ _ _ now _ hstored hown
        have hconfirms : s.Confirms cfg (.handle call now) pending call request credential now :=
          ⟨rfl, hcall, hactive, halive, hstored, hown⟩
        rw [hstart] at h
        cases start with
        | answer result =>
          obtain ⟨rfl, rfl⟩ := Prod.mk.inj h
          exact .answered hconfirms houtcome rfl rfl
        | execute payload =>
          obtain ⟨rfl, rfl⟩ := Prod.mk.inj h
          cases houtcome with
          | executed hlive hconfirmed hvalid =>
            exact .executed hconfirms (.executed hlive hconfirmed hvalid) rfl rfl
      · obtain ⟨e, hother⟩ := @handleConfirmAction_other parseDate _ _ _ now
          fun pending hget heq => hown ⟨pending, hget, heq⟩
        rw [hother] at h
        obtain ⟨rfl, rfl⟩ := Prod.mk.inj h
        exact .of_erase rfl nofun hnone rfl nofun

/-- **What a step does to the pending actions.** -/
theorem pendingStep_sound (h : gateStep cfg hash parseDate s a = some (s', es)) :
    PendingStep cfg parseDate s a s' es := by
  cases a with
  | service a =>
    dsimp only [gateStep] at h
    split at h
    · cases h
    · cases h
      exact .other rfl (by rintro _ ⟨⟩) (fun _ => rfl) (by rintro _ _ _ ⟨⟩)
  | queue action =>
    cases h
    exact .queued rfl rfl
  | frame call credentialId request now =>
    dsimp only [gateStep] at h
    split at h
    · cases h
    · next hnew =>
      cases h
      have hnone : s.executed call = none := by
        unfold GateState.executed
        rw [OrdMap.get?_eq_none_of_not_has hnew]
        rfl
      exact .of_set rfl (by rintro _ ⟨⟩) hnone rfl rfl (by rintro _ _ _ ⟨⟩)
  | handle call now =>
    dsimp only [gateStep] at h
    split at h
    · next hcall =>
      cases h
      exact .of_erase rfl (by rintro _ ⟨⟩) (GateState.executed_of_get? hcall) rfl
        (by rintro _ _ _ ⟨⟩)
    · next hcall =>
      split at h
      · cases h
        exact .of_erase rfl (by rintro _ ⟨⟩) (GateState.executed_of_get? hcall) rfl
          (by rintro _ _ _ ⟨⟩)
      · next hactive => exact pendingStep_handle hcall (not_not.1 hactive) (Option.some.inj h)
    · cases h
  | coreReady call result now =>
    -- a step of `coreReady` is about its own call
    have hself : ∀ call' result' now', GateAction.coreReady call result now =
        .coreReady call' result' now' → call' = call := by
      intro call' result' now' heq
      cases heq
      rfl
    dsimp only [gateStep] at h
    split at h
    · next hcall =>
      have hnone : s.executed call = none := GateState.executed_of_get? hcall
      split at h
      · cases h
        exact .of_erase rfl (by rintro _ ⟨⟩) hnone rfl hself
      · cases h
        exact .of_set rfl (by rintro _ ⟨⟩) hnone rfl rfl hself
    · next hcall =>
      have hexecuted := GateState.executed_of_get? hcall
      split at h
      · cases h
        exact .failed hexecuted rfl rfl
      · cases h
        exact .sent hexecuted rfl rfl
    · cases h
  | lookedUp call =>
    dsimp only [gateStep] at h
    split at h
    · next hcall =>
      have hnone : s.executed call = none := GateState.executed_of_get? hcall
      split at h
      · cases h
        exact .of_erase rfl (by rintro _ ⟨⟩) hnone rfl (by rintro _ _ _ ⟨⟩)
      · cases h
        exact .of_set rfl (by rintro _ ⟨⟩) hnone rfl rfl (by rintro _ _ _ ⟨⟩)
    · cases h
  | sent call result =>
    dsimp only [gateStep] at h
    split at h
    · next hcall =>
      cases h
      exact .of_erase rfl (by rintro _ ⟨⟩) (GateState.executed_of_get? hcall) rfl
        (by rintro _ _ _ ⟨⟩)
    · cases h

end Sound

/-! ### The gate with the actions that are executed -/

/-- The gate, with the action that each call in flight executes. -/
structure ConfirmState where
  gate : GateState
  executing : OrdMap Nat String

inductive ConfirmAction where
  | gate (a : GateAction)
  /-- `pendingActions.expireStale`. -/
  | expireStale (now : Time)

inductive ConfirmEvent where
  | queued (action : PendingAction)
  /-- `deps.sendMessage` is called for the action. -/
  | sent (actionId : String) (message : SendMessageRequest)
  deriving DecidableEq

namespace ConfirmState

/-- The actions that are executed after a step. -/
def noteExecuting (s : ConfirmState) (gate : GateState) : GateAction → OrdMap Nat String
  | .handle call _ =>
    match s.gate.calls.get? call, gate.executed call with
    | some (.awaitCredential (.confirmAction request) _), some _ =>
      s.executing.set call request.actionId
    | _, _ => s.executing
  | .coreReady call _ _ =>
    if (s.gate.executed call).isSome then s.executing.erase call else s.executing
  | _ => s.executing

/-- What a step does for the actions. -/
def report (s : ConfirmState) (es : List GateEvent) : GateAction → List ConfirmEvent
  | .queue action => [.queued action]
  | .coreReady call _ _ => es.filterMap fun
    | .sendMessage _ message => (s.executing.get? call).map (.sent · message)
    | _ => none
  | _ => []

end ConfirmState

/-- **Confirmations, with the store's own sweep.** -/
def confirmMachine (cfg : CredentialManagerConfig) (hash : ScopeSet → List String → String)
    (parseDate : String → Option Time) : Machine ConfirmState ConfirmAction ConfirmEvent where
  init := ⟨(gateMachine cfg hash parseDate).init, .empty⟩
  step s
    | .gate a =>
      match gateStep cfg hash parseDate s.gate a with
      | none => none
      | some (gate, es) => some (⟨gate, s.noteExecuting gate a⟩, s.report es a)
    | .expireStale now =>
      some (⟨{ s.gate with pendingActions := s.gate.pendingActions.expireStale parseDate now },
        s.executing⟩, [])

/-- How often an action has been queued under the id. -/
def queuedCount (actionId : String) (tr : List ConfirmEvent) : Nat :=
  tr.countP fun
    | .queued action => action.actionId = actionId
    | .sent _ _ => false

/-- How often an action of the id has been sent. -/
def sentCount (actionId : String) (tr : List ConfirmEvent) : Nat :=
  tr.countP fun
    | .queued _ => false
    | .sent actionId' _ => actionId' = actionId

theorem queuedCount_append (actionId : String) (tr tr' : List ConfirmEvent) :
    queuedCount actionId (tr ++ tr') = queuedCount actionId tr + queuedCount actionId tr' :=
  List.countP_append

theorem sentCount_append (actionId : String) (tr tr' : List ConfirmEvent) :
    sentCount actionId (tr ++ tr') = sentCount actionId tr + sentCount actionId tr' :=
  List.countP_append

/-! ### Where an action is -/

/-- An action that has been queued is in the store, or executed by one call, or sent. -/
structure ConfirmInv (tr : List ConfirmEvent) (s : ConfirmState) : Prop where
  stored : ∀ {actionId action}, s.gate.pendingActions.get? actionId = some action →
    action.actionId = actionId ∧ .queued action ∈ tr
  executing : ∀ {call actionId}, s.executing.get? call = some actionId →
    ∃ action, .queued action ∈ tr ∧ action.actionId = actionId ∧
      s.gate.executed call = some (action.payload, action.credentialId)
  noted : ∀ {call executed}, s.gate.executed call = some executed →
    ∃ actionId, s.executing.get? call = some actionId
  sent : ∀ {actionId message}, .sent actionId message ∈ tr →
    ∃ action, .queued action ∈ tr ∧ action.actionId = actionId ∧ action.payload = message
  once : ∀ actionId, sentCount actionId tr + s.executing.values.countP (· = actionId) +
    (if s.gate.pendingActions.has actionId then 1 else 0) ≤ queuedCount actionId tr

namespace ConfirmInv

variable {cfg : CredentialManagerConfig} {hash : ScopeSet → List String → String}
  {parseDate : String → Option Time} {tr es : List ConfirmEvent} {s s' : ConfirmState}

theorem init : ConfirmInv [] (confirmMachine cfg hash parseDate).init where
  stored := nofun
  executing := nofun
  noted := nofun
  sent := nofun
  once _ := Nat.le_refl 0

/-- A step that neither queues an action nor begins or ends to execute one. -/
theorem of_same (hinv : ConfirmInv tr s)
    (hstored : ∀ {actionId action}, s'.gate.pendingActions.get? actionId = some action →
      s.gate.pendingActions.get? actionId = some action)
    (hexecuting : s'.executing = s.executing)
    (hexecuted : ∀ call, s'.gate.executed call = s.gate.executed call) :
    ConfirmInv (tr ++ []) s' := by
  rw [List.append_nil]
  refine ⟨fun h => hinv.stored (hstored h), fun {call actionId} h => ?_, fun {call _} h => ?_,
    hinv.sent, fun actionId => ?_⟩
  · rw [hexecuting] at h
    rw [hexecuted]
    exact hinv.executing h
  · rw [hexecuted] at h
    rw [hexecuting]
    exact hinv.noted h
  · have hle := hinv.once actionId
    rw [hexecuting]
    -- the store may only have lost entries, so the count of an id does not grow
    by_cases hhas : s'.gate.pendingActions.has actionId = true
    · obtain ⟨action, hget⟩ := OrdMap.has_eq_true_iff.1 hhas
      have hold := OrdMap.has_eq_true_iff.2 ⟨action, hstored hget⟩
      rw [if_pos hhas]
      rwa [if_pos hold] at hle
    · rw [if_neg hhas]
      exact Nat.le_trans (Nat.add_le_add_left (Nat.zero_le _) _) hle

theorem queued {action : PendingAction} (hinv : ConfirmInv tr s)
    (hpending : s'.gate.pendingActions = s.gate.pendingActions.add action)
    (hcalls : s'.gate.calls = s.gate.calls) (hexecuting : s'.executing = s.executing) :
    ConfirmInv (tr ++ [.queued action]) s' := by
  have hexecuted : ∀ call, s'.gate.executed call = s.gate.executed call := by
    intro call
    unfold GateState.executed
    rw [hcalls]
  refine ⟨fun {actionId action'} h => ?_, fun {call actionId} h => ?_, fun {call _} h => ?_,
    fun {actionId message} h => ?_, fun actionId => ?_⟩
  · rw [hpending] at h
    rcases OrdMap.get?_set_eq_some h with ⟨rfl, rfl⟩ | ⟨-, hold⟩
    · exact ⟨rfl, List.mem_append_right tr List.mem_cons_self⟩
    · obtain ⟨hid, hmem⟩ := hinv.stored hold
      exact ⟨hid, List.mem_append_left _ hmem⟩
  · rw [hexecuting] at h
    obtain ⟨action', hmem, hid, hexec⟩ := hinv.executing h
    exact ⟨action', List.mem_append_left _ hmem, hid, (hexecuted call).trans hexec⟩
  · rw [hexecuted] at h
    rw [hexecuting]
    exact hinv.noted h
  · rcases List.mem_append.1 h with hold | hnew
    · obtain ⟨action', hmem, hrest⟩ := hinv.sent hold
      exact ⟨action', List.mem_append_left _ hmem, hrest⟩
    · cases List.mem_singleton.1 hnew
  · have hle := hinv.once actionId
    rw [sentCount_append, queuedCount_append, hexecuting]
    have hsent : sentCount actionId [.queued action] = 0 := rfl
    by_cases hid : action.actionId = actionId
    · -- the action comes into the store, where it may replace another one of its id
      have hqueued : queuedCount actionId [.queued action] = 1 := by
        simp [queuedCount, hid]
      have hnew : (if s'.gate.pendingActions.has actionId = true then 1 else 0) ≤ 1 := by
        split <;> omega
      omega
    · have hsame : s'.gate.pendingActions.has actionId = s.gate.pendingActions.has actionId := by
        unfold OrdMap.has
        rw [hpending]
        unfold PendingActions.add
        rw [OrdMap.get?_set_of_ne _ _ (Ne.symm hid)]
      rw [hsame, hsent]
      omega

theorem count_erase {actionId actionId' : String} {action : PendingAction}
    (hget : s.gate.pendingActions.get? actionId = some action)
    (hpending : s'.gate.pendingActions = s.gate.pendingActions.erase actionId) :
    (if s'.gate.pendingActions.has actionId' then 1 else 0) +
    (if actionId = actionId' then 1 else 0)
      ≤ (if s.gate.pendingActions.has actionId' then 1 else 0) := by
  by_cases hid : actionId = actionId'
  -- of the id itself nothing is left in the store
  · have hgone : ¬ s'.gate.pendingActions.has actionId' = true := by
      intro hhas
      obtain ⟨action', hget'⟩ := OrdMap.has_eq_true_iff.1 hhas
      rw [hpending, hid, OrdMap.get?_erase_self] at hget'
      cases hget'
    rw [if_neg hgone, if_pos hid, if_pos (OrdMap.has_eq_true_iff.2 ⟨action, hid ▸ hget⟩)]
  · have hsame : s'.gate.pendingActions.has actionId' = s.gate.pendingActions.has actionId' := by
      unfold OrdMap.has
      rw [hpending, OrdMap.get?_erase_of_ne _ (Ne.symm hid)]
    rw [hsame, if_neg hid]
    exact Nat.le_refl _

/-- A confirmation is handled: the action goes from the store to the call. -/
theorem executed {call : Nat} {request : ConfirmActionRequest} {pending : PendingAction}
    (hinv : ConfirmInv tr s)
    (hstored : s.gate.pendingActions.get? request.actionId = some pending)
    (hidle : s.gate.executed call = none)
    (hpending : s'.gate.pendingActions = s.gate.pendingActions.erase request.actionId)
    (hcalls : s'.gate.calls =
      s.gate.calls.set call (.awaitConfirmedCore pending.payload pending.credentialId))
    (hexecuting : s'.executing = s.executing.set call request.actionId) :
    ConfirmInv (tr ++ []) s' := by
  rw [List.append_nil]
  obtain ⟨hid, hmem⟩ := hinv.stored hstored
  have hnone : s.executing.get? call = none := by
    cases hget : s.executing.get? call with
    | none => rfl
    | some actionId =>
      obtain ⟨action, -, -, hexec⟩ := hinv.executing hget
      rw [hidle] at hexec
      cases hexec
  refine ⟨fun h => ?_, fun {call' actionId} h => ?_, fun {call' _} h => ?_, hinv.sent,
    fun actionId => ?_⟩
  · rw [hpending] at h
    exact hinv.stored (OrdMap.get?_erase_eq_some h).2
  · rw [hexecuting] at h
    rw [GateState.executed_set hcalls]
    rcases OrdMap.get?_set_eq_some h with ⟨rfl, rfl⟩ | ⟨hne, hold⟩
    · rw [if_pos rfl]
      exact ⟨pending, hmem, hid, rfl⟩
    · rw [if_neg hne]
      exact hinv.executing hold
  · rw [GateState.executed_set hcalls] at h
    rw [hexecuting, OrdMap.get?_set]
    split at h
    · next heq =>
      rw [if_pos heq]
      exact ⟨_, rfl⟩
    · next hne =>
      rw [if_neg hne]
      exact hinv.noted h
  · have hle := hinv.once actionId
    have hcount := OrdMap.countP_values_set s.executing call request.actionId (· = actionId)
    have hstore := @count_erase s s' request.actionId actionId pending hstored hpending
    rw [hnone] at hcount
    simp only [Option.any_none, Bool.false_eq_true, if_false, decide_eq_true_eq] at hcount
    rw [hexecuting]
    omega

theorem done {call : Nat} {executed : SendMessageRequest × String} (hinv : ConfirmInv tr s)
    (hcall : s.gate.executed call = some executed)
    (hpending : s'.gate.pendingActions = s.gate.pendingActions)
    (hexecuted : ∀ call', s'.gate.executed call' =
      if call' = call then none else s.gate.executed call')
    (hexecuting : s'.executing = s.executing.erase call)
    (hes : es = [] ∨ ∃ actionId, s.executing.get? call = some actionId ∧
      es = [.sent actionId executed.1]) : ConfirmInv (tr ++ es) s' := by
  have hqueued : ∀ actionId, queuedCount actionId es = 0 := by
    intro actionId
    rcases hes with rfl | ⟨_, -, rfl⟩ <;> rfl
  refine ⟨fun {actionId action} h => ?_, fun {call' actionId} h => ?_, fun {call' _} h => ?_,
    fun {actionId message} h => ?_, fun actionId => ?_⟩
  · rw [hpending] at h
    obtain ⟨hid, hmem⟩ := hinv.stored h
    exact ⟨hid, List.mem_append_left _ hmem⟩
  · rw [hexecuting] at h
    obtain ⟨hne, hold⟩ := OrdMap.get?_erase_eq_some h
    obtain ⟨action, hmem, hid, hexec⟩ := hinv.executing hold
    rw [hexecuted, if_neg hne]
    exact ⟨action, List.mem_append_left _ hmem, hid, hexec⟩
  · rw [hexecuted] at h
    split at h
    · cases h
    · next hne =>
      rw [hexecuting, OrdMap.get?_erase_of_ne _ hne]
      exact hinv.noted h
  · rcases List.mem_append.1 h with hold | hnew
    · obtain ⟨action, hmem, hrest⟩ := hinv.sent hold
      exact ⟨action, List.mem_append_left _ hmem, hrest⟩
    · rcases hes with rfl | ⟨actionId', hget, rfl⟩
      · cases hnew
      · cases List.mem_singleton.1 hnew
        obtain ⟨action, hmem, hid, hexec⟩ := hinv.executing hget
        rw [hcall] at hexec
        rw [Option.some.inj hexec]
        exact ⟨action, List.mem_append_left _ hmem, hid, rfl⟩
  · have hle := hinv.once actionId
    have hcount := OrdMap.countP_values_erase s.executing call (· = actionId)
    rw [sentCount_append, queuedCount_append, hqueued, hexecuting, hpending]
    -- it is sent at most once, by the call that was noted for it
    have hsent : sentCount actionId es ≤
        if (s.executing.get? call).any (· = actionId) then 1 else 0 := by
      rcases hes with rfl | ⟨actionId', hget, rfl⟩
      · exact Nat.zero_le _
      · rw [hget, Option.any_some]
        simp only [sentCount, List.countP_singleton]
        exact Nat.le_refl _
    omega

/-- **Every step keeps the invariant.** -/
theorem step {a : ConfirmAction} (hinv : ConfirmInv tr s)
    (h : (confirmMachine cfg hash parseDate).step s a = some (s', es)) :
    ConfirmInv (tr ++ es) s' := by
  cases a with
  | expireStale now =>
    cases h
    exact hinv.of_same (fun hget => (PendingActions.get?_expireStale.1 hget).1) rfl fun _ => rfl
  | gate a =>
    simp only [confirmMachine] at h
    split at h
    · cases h
    · next gate events hgate =>
      cases h
      have hstep := pendingStep_sound hgate
      cases hstep with
      | queued hpending hcalls => exact hinv.queued hpending hcalls rfl
      | @answered pending call request credential now _ result hconfirms houtcome hpending hcalls =>
        have hexecuted : ∀ call', gate.executed call' = s.gate.executed call' := by
          intro call'
          rw [GateState.executed_erase hcalls]
          split
          · next heq =>
            rw [heq]
            exact (GateState.executed_of_get? hconfirms.waits).symm
          · rfl
        -- a confirmation that executes nothing only takes the action out
        refine hinv.of_same (fun hget => ?_) ?_ hexecuted
        · rw [hpending] at hget
          exact (OrdMap.get?_erase_eq_some hget).2
        · have hidle : gate.executed call = none := by
            rw [GateState.executed_erase hcalls, if_pos rfl]
          simp only [ConfirmState.noteExecuting, hconfirms.waits, hidle]
      | @executed pending call request credential now _ hconfirms houtcome hpending hcalls =>
        rw [← hconfirms.own] at hcalls
        refine hinv.executed hconfirms.stored (GateState.executed_of_get? hconfirms.waits)
          hpending hcalls ?_
        have hnew : gate.executed call = some (pending.payload, pending.credentialId) := by
          rw [GateState.executed_set hcalls, if_pos rfl]
          rfl
        simp only [ConfirmState.noteExecuting, hconfirms.waits, hnew]
      | @sent call payload credentialId now _ hcall hpending hcalls =>
        obtain ⟨actionId, hget⟩ := hinv.noted hcall
        refine hinv.done hcall hpending (GateState.executed_set hcalls) ?_
          (.inr ⟨actionId, hget, ?_⟩)
        · simp only [ConfirmState.noteExecuting, hcall, Option.isSome_some, if_true]
        · simp only [ConfirmState.report, hget]
          rfl
      | failed hcall hpending hcalls =>
        refine hinv.done hcall hpending (GateState.executed_erase hcalls) ?_ (.inl rfl)
        simp only [ConfirmState.noteExecuting, hcall, Option.isSome_some, if_true]
      | other hpending hqueue hexecuted hready =>
        have hnote : s.noteExecuting gate a = s.executing := by
          cases a with
          | handle call now =>
            unfold ConfirmState.noteExecuting
            dsimp only
            split
            · next hwaits hsome =>
              -- a call that waits for its credential executes nothing
              rw [hexecuted, GateState.executed_of_get? hwaits] at hsome
              cases hsome
            · rfl
          | coreReady call result now =>
            unfold ConfirmState.noteExecuting
            dsimp only
            rw [hready call result now rfl]
            rfl
          | _ => rfl
        have hreport : s.report events a = [] := by
          cases a with
          | queue action => exact absurd rfl (hqueue action)
          | coreReady call result now =>
            have hnone : s.executing.get? call = none := by
              cases hget : s.executing.get? call with
              | none => rfl
              | some actionId =>
                obtain ⟨action, -, -, hexec⟩ := hinv.executing hget
                rw [hready call result now rfl] at hexec
                cases hexec
            unfold ConfirmState.report
            refine List.filterMap_eq_nil_iff.2 fun e _ => ?_
            rw [hnone]
            cases e <;> rfl
          | _ => rfl
        rw [hreport]
        exact hinv.of_same (fun hget => by rwa [hpending] at hget) hnote hexecuted

end ConfirmInv

/-! ### At most once -/

/-- The step takes the action out of the store: a confirmation by its own credential is handled, or
the sweep finds it expired. -/
def ConfirmState.TakesOut (cfg : CredentialManagerConfig) (parseDate : String → Option Time)
    (s : ConfirmState) (actionId : String) (pending : PendingAction) : ConfirmAction → Prop
  | .gate a => ∃ call request credential now,
    s.gate.Confirms cfg a pending call request credential now ∧ request.actionId = actionId
  | .expireStale now => (parseDate pending.expiresAt).any (· ≤ now) = true

section Once

variable {cfg : CredentialManagerConfig} {hash : ScopeSet → List String → String}
  {parseDate : String → Option Time}

/-- A confirmation of an own action takes it out; it is answered, or its call awaits the core. -/
theorem gateStep_confirms {s s' : GateState} {es : List GateEvent} {a : GateAction}
    {pending : PendingAction} {call : Nat} {request : ConfirmActionRequest}
    {credential : CredentialRecord} {now : Time}
    (hconfirms : s.Confirms cfg a pending call request credential now)
    (h : gateStep cfg hash parseDate s a = some (s', es)) :
    s'.pendingActions = s.pendingActions.erase request.actionId ∧
      ((∃ result, ConfirmOutcome parseDate pending request credential now (.answer result) ∧
          es = [.replied call result]) ∨
        (ConfirmOutcome parseDate pending request credential now (.execute pending.payload) ∧
          s'.executed call = some (pending.payload, pending.credentialId))) := by
  obtain ⟨start, hstart, houtcome⟩ :=
    @handleConfirmAction_own parseDate _ _ _ now _ hconfirms.stored hconfirms.own
  rw [hconfirms.action] at h
  simp only [gateStep, hconfirms.waits] at h
  rw [if_neg (not_not.2 hconfirms.active)] at h
  unfold handleRequest at h
  rw [hconfirms.alive] at h
  dsimp only at h
  rw [hstart] at h
  cases start with
  | answer result =>
    cases h
    exact ⟨rfl, .inl ⟨result, houtcome, rfl⟩⟩
  | execute payload =>
    cases h
    cases houtcome with
    | executed hlive hconfirmed hvalid =>
      refine ⟨rfl, .inr ⟨.executed hlive hconfirmed hvalid, ?_⟩⟩
      rw [GateState.executed_set rfl, if_pos rfl, hconfirms.own]
      rfl

variable {tr es : List ConfirmEvent} {s s' : ConfirmState} {a : ConfirmAction}
  {actionId : String} {pending : PendingAction}

/-- **An action goes exactly when it is confirmed by its credential or swept.** -/
theorem takesOut_iff (h : (confirmMachine cfg hash parseDate).step s a = some (s', es))
    (hget : s.gate.pendingActions.get? actionId = some pending) :
    s'.gate.pendingActions.get? actionId = none ↔
      s.TakesOut cfg parseDate actionId pending a := by
  cases a with
  | expireStale now =>
    cases h
    rw [Option.eq_none_iff_forall_ne_some]
    constructor
    · intro hgone
      show (parseDate pending.expiresAt).any (· ≤ now) = true
      rw [← Bool.not_eq_false]
      exact fun hlive => hgone pending (PendingActions.get?_expireStale.2 ⟨hget, hlive⟩)
    · intro hexpired action hkept
      obtain ⟨hold, hlive⟩ := PendingActions.get?_expireStale.1 hkept
      rw [hget] at hold
      rw [← Option.some.inj hold, show (parseDate pending.expiresAt).any (· ≤ now) = true
        from hexpired] at hlive
      cases hlive
  | gate a =>
    simp only [confirmMachine] at h
    split at h
    · cases h
    · next gate events hgate =>
      cases h
      constructor
      · intro hgone
        change gate.pendingActions.get? actionId = none at hgone
        have hsame : gate.pendingActions ≠ s.gate.pendingActions := by
          intro heq
          rw [heq, hget] at hgone
          cases hgone
        -- an action that is gone after a confirmation was the confirmed one
        have hconfirmed : ∀ {pending' call request credential now},
            s.gate.Confirms cfg a pending' call request credential now →
            gate.pendingActions = s.gate.pendingActions.erase request.actionId →
              s.TakesOut cfg parseDate actionId pending (.gate a) := by
          intro pending' call request credential now hconfirms hpending
          have hid : request.actionId = actionId := by
            by_contra hne
            rw [hpending, OrdMap.get?_erase_of_ne _ (Ne.symm hne), hget] at hgone
            cases hgone
          have hpending' : pending' = pending := by
            have hstored := hconfirms.stored
            rw [hid, hget] at hstored
            exact (Option.some.inj hstored).symm
          rw [hpending'] at hconfirms
          exact ⟨call, request, credential, now, hconfirms, hid⟩
        cases pendingStep_sound hgate with
        | @queued action _ hpending hcalls =>
          rw [hpending, PendingActions.add, OrdMap.get?_set] at hgone
          split at hgone
          · cases hgone
          · rw [hget] at hgone
            cases hgone
        | answered hconfirms houtcome hpending hcalls => exact hconfirmed hconfirms hpending
        | executed hconfirms houtcome hpending hcalls => exact hconfirmed hconfirms hpending
        | sent hcall hpending hcalls => exact absurd hpending hsame
        | failed hcall hpending hcalls => exact absurd hpending hsame
        | other hpending hqueue hexecuted hready => exact absurd hpending hsame
      · rintro ⟨call, request, credential, now, hconfirms, rfl⟩
        show gate.pendingActions.get? request.actionId = none
        rw [(gateStep_confirms hconfirms hgate).1, OrdMap.get?_erase_self]

theorem confirmInv_of_run (h : Run (confirmMachine cfg hash parseDate) (fun _ _ => True) tr s) :
    ConfirmInv tr s :=
  h.invariant (I := ConfirmInv) ConfirmInv.init fun _ hinv _ hstep => hinv.step hstep

theorem ConfirmInv.sends (hinv : ConfirmInv tr s) {call : Nat}
    {executed : SendMessageRequest × String} (hcall : s.gate.executed call = some executed)
    (now : Time) : ∃ s' actionId, (confirmMachine cfg hash parseDate).step s
      (.gate (.coreReady call (.ok ()) now)) = some (s', [.sent actionId executed.1]) := by
  obtain ⟨actionId, hget⟩ := hinv.noted hcall
  have hawaits := GateState.executed_eq_some.1 hcall
  have hgate : gateStep cfg hash parseDate s.gate (.coreReady call (.ok ()) now) =
      some (s.gate.send call executed.2 executed.1) := by
    simp only [gateStep, hawaits]
  have hreport : s.report (s.gate.send call executed.2 executed.1).2
      (.coreReady call (.ok ()) now) = [.sent actionId executed.1] := by
    simp only [ConfirmState.report, hget]
    rfl
  refine ⟨⟨(s.gate.send call executed.2 executed.1).1,
    s.noteExecuting (s.gate.send call executed.2 executed.1).1 (.coreReady call (.ok ()) now)⟩,
    actionId, ?_⟩
  simp only [confirmMachine, hgate]
  rw [hreport]

/-- **A pending action is executed at most once**: its message is sent at most once for each time it
is queued, it is taken out of the store exactly when a confirmation of its own credential is handled
or it is swept, the confirmation is then answered, or it is executed, and what is executed is sent
when the core is ready. -/
theorem confirmed_once (h : Run (confirmMachine cfg hash parseDate) (fun _ _ => True) tr s) :
    (∀ actionId, sentCount actionId tr ≤ queuedCount actionId tr) ∧
    (∀ actionId message, .sent actionId message ∈ tr →
      ∃ action, .queued action ∈ tr ∧ action.actionId = actionId ∧ action.payload = message) ∧
    (∀ a s' es actionId pending, (confirmMachine cfg hash parseDate).step s a = some (s', es) →
      s.gate.pendingActions.get? actionId = some pending →
        (s'.gate.pendingActions.get? actionId = none ↔
          s.TakesOut cfg parseDate actionId pending a)) ∧
    (∀ a gate es pending call request credential now,
      gateStep cfg hash parseDate s.gate a = some (gate, es) →
      s.gate.Confirms cfg a pending call request credential now →
        (∃ result, ConfirmOutcome parseDate pending request credential now (.answer result) ∧
            es = [.replied call result]) ∨
          (ConfirmOutcome parseDate pending request credential now (.execute pending.payload) ∧
            gate.executed call = some (pending.payload, pending.credentialId))) ∧
    ∀ call executed now, s.gate.executed call = some executed →
      ∃ s' actionId, (confirmMachine cfg hash parseDate).step s
        (.gate (.coreReady call (.ok ()) now)) = some (s', [.sent actionId executed.1]) := by
  have hinv := confirmInv_of_run h
  refine ⟨fun actionId => ?_, fun _ _ hmem => hinv.sent hmem, fun _ _ _ _ _ hstep hget =>
    takesOut_iff hstep hget, fun _ _ _ _ _ _ _ _ hstep hconfirms =>
      (gateStep_confirms hconfirms hstep).2, fun _ _ now hcall => hinv.sends hcall now⟩
  have hle := hinv.once actionId
  omega

end Once

/-- A confirmation of the queued message whose core is ready, and one that comes too late. -/
theorem confirmed_once_hello : ∃ tr s,
    Run (confirmMachine {} (fun _ _ => "") fun _ => none) (fun _ _ => True) tr s ∧
      .sent "action" hello ∈ tr ∧ sentCount "action" tr ≤ 1 := by
  obtain ⟨tr, s, hrun, h⟩ := exists_run_of_exec_of_forall
    (confirmMachine {} (fun _ _ => "") fun _ => none) (fun _ _ => True)
    ((confirmHello ++ [GateAction.coreReady 0 (.ok ()) 3,
      .frame 1 "cred_0123456789abcdef" (.confirmAction ⟨"action", true⟩) 3, .handle 1 3]).map .gate)
    (fun tr _ => tr.contains (.sent "action" hello) && queuedCount "action" tr == 1)
    (fun _ _ _ => trivial) (by decide +kernel)
  obtain ⟨hsent, hqueued⟩ := Bool.and_eq_true_iff.1 h
  have honce := (confirmed_once hrun).1 "action"
  rw [beq_iff_eq.1 hqueued] at honce
  exact ⟨tr, s, hrun, List.contains_iff_mem.1 hsent, honce⟩

/-- **A confirmed action is lost** when the core is not ready: it is not in the store any more, and
its message has not been sent. -/
theorem unready_core_loses_action : ∃ tr s s',
    Run (confirmMachine {} (fun _ _ => "") fun _ => none) (fun _ _ => True) tr s ∧
      s.gate.executed 0 = some (hello, "cred_0123456789abcdef") ∧
      (confirmMachine {} (fun _ _ => "") fun _ => none).step s
        (.gate (.coreReady 0 (.error (.internalError "")) 3)) = some (s', []) ∧
      queuedCount "action" tr = 1 ∧ sentCount "action" tr = 0 ∧
      s'.gate.pendingActions.get? "action" = none ∧ s'.gate.executed 0 = none := by
  obtain ⟨tr, s, hrun, h⟩ := exists_run_of_exec_of_forall
    (confirmMachine {} (fun _ _ => "") fun _ => none) (fun _ _ => True) (confirmHello.map .gate)
    (fun tr s => s.gate.executed 0 == some (hello, "cred_0123456789abcdef") &&
      queuedCount "action" tr == 1 && sentCount "action" tr == 0 &&
      ((confirmMachine {} (fun _ _ => "") fun _ => none).step s
        (.gate (.coreReady 0 (.error (.internalError "")) 3))).any fun r => r.2 == [] &&
          r.1.gate.pendingActions.get? "action" == none && r.1.gate.executed 0 == none)
    (fun _ _ _ => trivial) (by decide +kernel)
  simp only [Bool.and_eq_true, beq_iff_eq, Option.any_eq_true] at h
  obtain ⟨⟨⟨hexecuted, hqueued⟩, hsent⟩, ⟨s', es⟩, hstep, ⟨rfl, hgone⟩, hover⟩ := h
  exact ⟨tr, s, s', hrun, hexecuted, hstep, hqueued, hsent, hgone, hover⟩

end Signet
