import Mathlib.Data.Rat.Floor
import Mathlib.Tactic.NormNum
import Signet.Cli.InviteListener
import Signet.Lib.Machine

/-!
# The managed invite host listener

The state of `startManagedInviteHostListener` and its steps. A segment of code between two awaits is
a step; what a dispatch, a scan or a callback comes back with is part of the action. A recovery
starts from any result of its scan. A timer may fire once its delay is over. Times to live are
exact rationals: doubles round, and may be NaN or infinite.

* `InviteListenerState.processInviteCandidate`: the marks are checked and set in one segment.
* `inviteMachine`: the listener.
-/

namespace Signet

open Lib

/-- The delay of `setTimeout`: a fraction of a millisecond is cut off, and what does not fit into 31
bits, or is below one, is replaced by one. -/
def setTimeoutDelay (ms : Rat) : Nat :=
  if 1 ≤ ms ∧ ms ≤ 2147483647 then ⌊ms⌋₊ else 1

def dmRecoveryRetryDelayMs : Rat := 250

def maxDmRecoveryRetries : Nat := 3

def defaultProcessedInviteKeyTtlMs : Rat := 5000

/-- The dependencies that decide about duplicates. -/
structure InviteListenerConfig where
  onboardingScheme : InviteScheme
  processedInviteKeyTtlMs : Option Rat

/-- The time to live of a key. -/
def InviteListenerConfig.ttlMs (cfg : InviteListenerConfig) : Rat :=
  cfg.processedInviteKeyTtlMs.getD defaultProcessedInviteKeyTtlMs

/-- What a timer does. -/
inductive InviteTask where
  | retryRecovery (dmId : String) (retryCount : Nat)
  | releaseInviteKey (requestKey : String)
  deriving DecidableEq

/-- A timer that is set. -/
structure InviteTimer where
  due : Time
  task : InviteTask
  deriving DecidableEq

/-- A run of `recoverInviteCandidatesFromDm` after its scan. -/
structure InviteRecovery where
  dmId : String
  retryCount : Nat
  shouldRetry : Bool
  /-- The messages of the scan that are left. -/
  messages : List RawMessageEvent

/-- A candidate was not accepted; `shouldRetry` says whether to try again. -/
def InviteRecovery.noteRetry (recovery : InviteRecovery) (shouldRetry : Bool) : InviteRecovery :=
  { recovery with shouldRetry := recovery.shouldRetry || shouldRetry }

/-- A call in flight, by what it awaits; `recovery` is who has called `processInviteCandidate`,
`none` for an event of the stream. -/
inductive InviteCall where
  | scanning (dmId : String) (retryCount : Nat)
  | recovering (recovery : InviteRecovery)
  | dispatching (event : RawMessageEvent) (recovery : Option InviteRecovery)
  | notifying (event : RawMessageEvent) (recovery : Option InviteRecovery)

/-- What a dispatch comes back with. -/
inductive InviteDispatchOutcome where
  /-- `result` is null. -/
  | nothing (shouldRetry : Bool)
  | accepted
  | rejected (shouldRetry : Bool)
  | threw

structure InviteListenerState where
  now : Time
  processed : ProcessedInvites
  inflightMessageIds : OrdMap String Unit
  inflightInviteKeys : OrdMap String Unit
  recoveryRetryTimers : OrdMap String Nat
  processedInviteKeyTimers : OrdMap String Nat
  /-- The timers that are set, by handle. -/
  timers : OrdMap Nat InviteTimer
  timersSet : Nat
  calls : OrdMap Nat InviteCall
  started : Nat
  subscribed : Bool

structure InviteAccepted where
  messageId : String
  requestKey : Option String
  time : Time
  deriving DecidableEq

/-- What can happen next. -/
inductive InviteAction where
  | tick (now : Time)
  | event (event : CoreRawEvent)
  /-- The scan of a recovery comes back with its messages and `shouldRetry`, or throws. -/
  | scanned (call : Nat) (result : Option (List RawMessageEvent × Bool))
  | resume (call : Nat)
  | dispatched (call : Nat) (outcome : InviteDispatchOutcome)
  /-- `onJoinAccepted` or `onJoinRejected` has come back. -/
  | notified (call : Nat)
  | fire (timer : Nat)
  | stop

/-! ### Segments -/

namespace InviteListenerState

variable (cfg : InviteListenerConfig) (s : InviteListenerState)

/-- A new call. -/
def start (call : InviteCall) : InviteListenerState :=
  { s with calls := s.calls.set s.started call, started := s.started + 1 }

def setTimeout (ms : Rat) (task : InviteTask) : InviteListenerState :=
  { s with
    timers := s.timers.set s.timersSet ⟨s.now + setTimeoutDelay ms, task⟩
    timersSet := s.timersSet + 1 }

/-- `processInviteCandidate` returns to a recovery, or the call is over. -/
def returnTo (call : Nat) : Option InviteRecovery → InviteListenerState
  | none => { s with calls := s.calls.erase call }
  | some recovery => { s with calls := s.calls.set call (.recovering recovery) }

/-- A dispatch of the message, or of a request with its key, is in flight. -/
def isInflight (messageId : String) (requestKey : Option String) : Bool :=
  s.inflightMessageIds.has messageId || requestKey.any s.inflightInviteKeys.has

def markInflight (messageId : String) (requestKey : Option String) : InviteListenerState :=
  { s with
    inflightMessageIds := s.inflightMessageIds.set messageId ()
    inflightInviteKeys :=
      requestKey.elim s.inflightInviteKeys fun key => s.inflightInviteKeys.set key () }

/-- The `finally` block. -/
def releaseInflight (messageId : String) (requestKey : Option String) : InviteListenerState :=
  { s with
    inflightMessageIds := s.inflightMessageIds.erase messageId
    inflightInviteKeys :=
      requestKey.elim s.inflightInviteKeys fun key => s.inflightInviteKeys.erase key }

/-- `processInviteCandidate`, up to its first await. -/
def processInviteCandidate (call : Nat) (event : RawMessageEvent)
    (recovery : Option InviteRecovery) : InviteListenerState :=
  let requestKey := cfg.onboardingScheme.resolveInviteRequestKey event
  if s.processed.isProcessed event.messageId requestKey then s.returnTo call recovery
  else if s.isInflight event.messageId requestKey then s.returnTo call recovery
  else
    { s.markInflight event.messageId requestKey with
      calls := s.calls.set call (.dispatching event recovery) }

/-- `clearProcessedInviteKeyTimer`; without a timer nothing changes. -/
def clearProcessedInviteKeyTimer (requestKey : String) : InviteListenerState :=
  { s with
    timers := (s.processedInviteKeyTimers.get? requestKey).elim s.timers s.timers.erase
    processedInviteKeyTimers := s.processedInviteKeyTimers.erase requestKey }

def clearRecoveryRetryTimer (dmId : String) : InviteListenerState :=
  { s with
    timers := (s.recoveryRetryTimers.get? dmId).elim s.timers s.timers.erase
    recoveryRetryTimers := s.recoveryRetryTimers.erase dmId }

def markInviteKeyProcessed (requestKey : String) : InviteListenerState :=
  let processed := { s.processed with
    processedInviteKeys := s.processed.processedInviteKeys.set requestKey () }
  let cleared := { s with processed := processed }.clearProcessedInviteKeyTimer requestKey
  let timer := cleared.timersSet
  { cleared.setTimeout cfg.ttlMs (.releaseInviteKey requestKey) with
    processedInviteKeyTimers := cleared.processedInviteKeyTimers.set requestKey timer }

def markAccepted (messageId : String) (requestKey : Option String) : InviteListenerState :=
  let marked := { s with
    processed := { s.processed with
      processedMessageIds := s.processed.processedMessageIds.set messageId () } }
  requestKey.elim marked (marked.markInviteKeyProcessed cfg)

/-- The end of a recovery. -/
def finishRecovery (call : Nat) (recovery : InviteRecovery) : InviteListenerState :=
  let done := { s with calls := s.calls.erase call }
  if !recovery.shouldRetry || decide (maxDmRecoveryRetries ≤ recovery.retryCount) ||
      s.recoveryRetryTimers.has recovery.dmId then done
  else
    { done.setTimeout dmRecoveryRetryDelayMs
        (.retryRecovery recovery.dmId (recovery.retryCount + 1)) with
      recoveryRetryTimers := s.recoveryRetryTimers.set recovery.dmId s.timersSet }

/-- The loop of a recovery goes on. -/
def continueRecovery (call : Nat) (recovery : InviteRecovery) : InviteListenerState :=
  match recovery.messages with
  | [] => s.finishRecovery call recovery
  | event :: messages =>
    s.processInviteCandidate cfg call event (some { recovery with messages := messages })

/-- `processInviteCandidate` after the dispatch, up to its next await, with the acceptance. -/
def settleDispatch (call : Nat) (event : RawMessageEvent) (recovery : Option InviteRecovery) :
    InviteDispatchOutcome → InviteListenerState × List InviteAccepted
  | .nothing shouldRetry =>
    let requestKey := cfg.onboardingScheme.resolveInviteRequestKey event
    ((s.releaseInflight event.messageId requestKey).returnTo call
      (recovery.map (·.noteRetry shouldRetry)), [])
  | .accepted =>
    let requestKey := cfg.onboardingScheme.resolveInviteRequestKey event
    ({ s.markAccepted cfg event.messageId requestKey with
        calls := s.calls.set call (.notifying event recovery) },
      [⟨event.messageId, requestKey, s.now⟩])
  | .rejected false => ({ s with calls := s.calls.set call (.notifying event recovery) }, [])
  | .rejected true =>
    let requestKey := cfg.onboardingScheme.resolveInviteRequestKey event
    ((s.releaseInflight event.messageId requestKey).returnTo call
      (recovery.map (·.noteRetry true)), [])
  | .threw =>
    let requestKey := cfg.onboardingScheme.resolveInviteRequestKey event
    ((s.releaseInflight event.messageId requestKey).returnTo call none, [])

/-- What a timer runs. -/
def runTask : InviteTask → InviteListenerState
  | .retryRecovery dmId retryCount =>
    { s with recoveryRetryTimers := s.recoveryRetryTimers.erase dmId }.start
      (.scanning dmId retryCount)
  | .releaseInviteKey requestKey =>
    { s with
      processed := { s.processed with
        processedInviteKeys := s.processed.processedInviteKeys.erase requestKey }
      processedInviteKeyTimers := s.processedInviteKeyTimers.erase requestKey }

def handleEvent : CoreRawEvent → InviteListenerState
  | .message event =>
    if cfg.onboardingScheme.isInviteCandidate (.message event) then
      { s with started := s.started + 1 }.processInviteCandidate cfg s.started event none
    else s
  | .dmJoined dmId => s.start (.scanning dmId 0)
  | .other => s

/-- The function that `startManagedInviteHostListener` returns. -/
def stop : InviteListenerState :=
  let cleared := s.recoveryRetryTimers.keys.foldl clearRecoveryRetryTimer s
  let cleared := cleared.processedInviteKeyTimers.keys.foldl clearProcessedInviteKeyTimer cleared
  { cleared with subscribed := false }

def step : InviteAction → Option (InviteListenerState × List InviteAccepted)
  | .tick now => if s.now ≤ now then some ({ s with now := now }, []) else none
  | .event event => if s.subscribed then some (s.handleEvent cfg event, []) else none
  | .scanned call result =>
    match s.calls.get? call with
    | some (.scanning dmId retryCount) =>
      some (match result with
        | none => { s with calls := s.calls.erase call }
        | some (messages, shouldRetry) =>
          s.continueRecovery cfg call ⟨dmId, retryCount, shouldRetry, messages⟩, [])
    | _ => none
  | .resume call =>
    match s.calls.get? call with
    | some (.recovering recovery) => some (s.continueRecovery cfg call recovery, [])
    | _ => none
  | .dispatched call outcome =>
    match s.calls.get? call with
    | some (.dispatching event recovery) => some (s.settleDispatch cfg call event recovery outcome)
    | _ => none
  | .notified call =>
    match s.calls.get? call with
    | some (.notifying event recovery) =>
      some ((s.releaseInflight event.messageId
        (cfg.onboardingScheme.resolveInviteRequestKey event)).returnTo call recovery, [])
    | _ => none
  | .fire timer =>
    match s.timers.get? timer with
    | some set =>
      if set.due ≤ s.now then
        some ({ s with timers := s.timers.erase timer }.runTask set.task, [])
      else none
    | none => none
  | .stop => some (s.stop, [])

end InviteListenerState

/-- `startManagedInviteHostListener`. -/
def inviteMachine (cfg : InviteListenerConfig) :
    Machine InviteListenerState InviteAction InviteAccepted where
  init :=
    { now := 0, processed := ⟨.empty, .empty⟩, inflightMessageIds := .empty,
      inflightInviteKeys := .empty, recoveryRetryTimers := .empty,
      processedInviteKeyTimers := .empty, timers := .empty, timersSet := 0, calls := .empty,
      started := 0, subscribed := true }
  step := InviteListenerState.step cfg

end Signet
