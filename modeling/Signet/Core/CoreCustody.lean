import Mathlib.Data.List.Count
import Signet.Core.SignetCore

/-!
# What the core holds

Whatever calls overlap and whatever fails, the table of streams holds exactly the streams that
were opened and not aborted, and the timers run exactly while the core is running
(`core_custody`). A core is started at most once, and a call of `start` is in flight exactly in
the state `starting`.

The proof says once what a step can do. `Effect` lists the changes of the core that leave the calls
of `start` alone; `RuntimeStep` adds the step that begins such a call and the two that end one, and
`runtimeStep_of_step` finds one of the three for every step of the machine. The invariant `Custody`
is kept by each of them.
-/

namespace Signet.Core

open Lib

/-! ### Effects -/

/-- The event tells the outcome of a call. -/
def CoreEvent.IsReply : CoreEvent → Prop
  | .returned _ _ | .threw _ => True
  | _ => False

/-- The core changes without a part of `start`. -/
inductive Effect (core : SignetCore) : List CoreEvent → SignetCore → Prop
  | stored (store : SqliteIdentityStore) : Effect core [] { core with store := store }
  | register (identityId inboxId : String) :
    Effect core [] (core.register identityId inboxId)
  | push (stream : CoreStream) : Effect core [.opened stream] (core.push stream)
  | detach (identityId : String) :
    Effect core (core.detach identityId).2 (core.detach identityId).1
  | unregister (identityId : String) :
    Effect core [] { core with registry := core.registry.erase identityId }
  | startLocal (hstate : core.state = .idle) : Effect core [] { core with state := .local }
  | stop {core' : SignetCore} {es : List CoreEvent} (hstop : core.stop = some (core', es)) :
    Effect core es core'

/-- Nothing changes. -/
theorem Effect.stay (core : SignetCore) : Effect core [] core := .stored core.store

/-- The events of an effect, with the outcome of the call behind them. -/
def EndsWith (es events : List CoreEvent) : Prop :=
  ∃ replies, events = es ++ replies ∧ ∀ e ∈ replies, e.IsReply

theorem EndsWith.refl (es : List CoreEvent) : EndsWith es es :=
  ⟨[], (List.append_nil es).symm, List.forall_mem_nil _⟩

theorem EndsWith.reply (es : List CoreEvent) {e : CoreEvent} (he : e.IsReply) :
    EndsWith es (es ++ [e]) :=
  ⟨[e], rfl, List.forall_mem_singleton.2 he⟩

/-! ### Calls of `start` -/

/-- The fallback of a call of `start`; other calls have none. -/
def Caller.fallback? : Caller → Option SignetState
  | .start _ fallback => some fallback
  | _ => none

/-- The same for a call in flight. -/
def Call.fallback? : Call → Option SignetState
  | .listing _ fallback => some fallback
  | .hydrating caller _ _ => caller.fallback?
  | _ => none

/-- The fallback of the call with this number, if it is one of `start`. -/
def CoreRuntime.startOf (s : CoreRuntime) (call : Nat) : Option SignetState :=
  (s.calls.get? call).bind Call.fallback?

theorem CoreRuntime.startOf_of_get? {s : CoreRuntime} {call : Nat} {waiting : Call}
    (h : s.calls.get? call = some waiting) : s.startOf call = waiting.fallback? := by
  rw [startOf, h, Option.bind_some]

theorem CoreRuntime.startOf_of_not_has {s : CoreRuntime} {call : Nat}
    (h : ¬ s.calls.has call = true) : s.startOf call = none := by
  rw [startOf, OrdMap.get?_eq_none_of_not_has h, Option.bind_none]

theorem CoreRuntime.startOf_begin (s : CoreRuntime) (call other : Nat) (waiting : Call) :
    (s.begin call waiting).startOf other =
      if other = call then waiting.fallback? else s.startOf other := by
  unfold startOf begin
  rw [OrdMap.get?_set]
  split <;> rfl

theorem CoreRuntime.startOf_settle (s : CoreRuntime) (call other : Nat) (after : Advance) :
    (s.settle call after).startOf other =
      if other = call then after.next.bind Call.fallback? else s.startOf other := by
  unfold startOf settle
  cases hnext : after.next with
  | none =>
    dsimp only
    rw [OrdMap.get?_erase]
    split <;> rfl
  | some waiting =>
    dsimp only
    rw [OrdMap.get?_set]
    split <;> rfl

/-! ### What a call can do until its next await -/

/-- The call goes on or ends, and is one of `start` as before. -/
def Advance.Goes (core : SignetCore) (fallback? : Option SignetState) (after : Advance) : Prop :=
  ∃ es, EndsWith es after.events ∧ Effect core es after.core ∧
    after.next.bind Call.fallback? = fallback?

def Advance.EndsStart (core : SignetCore) (fallback? : Option SignetState) (after : Advance) :
    Prop :=
  ∃ fallback es, fallback? = some fallback ∧ EndsWith es after.events ∧ after.next = none ∧
    ((after.core, es) = core.failStart fallback ∨ (after.core, es) = core.finishStart)

section Advance

variable {core : SignetCore} {call : Nat}

/-- Only the next await changes. -/
theorem goes_next (core : SignetCore) (waiting : Call) :
    Advance.Goes core waiting.fallback? ⟨core, some waiting, []⟩ :=
  ⟨[], .refl [], .stay core, rfl⟩

theorem goes_threw (core : SignetCore) (call : Nat) :
    Advance.Goes core none ⟨core, none, [.threw call]⟩ :=
  ⟨[], .reply [] trivial, .stay core, rfl⟩

theorem goes_finish {core' : SignetCore} {es : List CoreEvent} (h : Effect core es core')
    (call : Nat) (ok : Bool) : Advance.Goes core none (finish core' call ok es) :=
  ⟨es, .reply es trivial, h, rfl⟩

theorem endsStart_fail (core : SignetCore) (call : Nat) (fallback : SignetState) :
    Advance.EndsStart core (some fallback)
      (finish (core.failStart fallback).1 call false (core.failStart fallback).2) :=
  ⟨fallback, _, rfl, .reply _ trivial, rfl, .inl rfl⟩

theorem throwOut_cases (caller : Caller) :
    (throwOut core call caller).Goes core caller.fallback? ∨
      (throwOut core call caller).EndsStart core caller.fallback? := by
  cases caller with
  | start rest fallback => exact .inr (endsStart_fail core call fallback)
  | register => exact .inl (goes_threw core call)
  | attach => exact .inl (goes_threw core call)

theorem startNext_cases (rest : List IdentityRow) (fallback : SignetState) :
    (startNext core call rest fallback).Goes core (some fallback) ∨
      (startNext core call rest fallback).EndsStart core (some fallback) := by
  cases rest with
  | nil => exact .inr ⟨fallback, _, rfl, .reply _ trivial, rfl, .inr rfl⟩
  | cons row rest =>
    exact .inl (goes_next core (.hydrating (.start rest fallback) row .getDbEncryptionKey))

theorem registerClient_cases (caller : Caller) (row : IdentityRow) (inboxId : String) :
    (registerClient core caller row inboxId).Goes core caller.fallback? := by
  unfold registerClient
  split_ifs with honline hlocal
  · exact ⟨_, .refl _, .register row.id inboxId, rfl⟩
  · exact ⟨_, .refl _, .register row.id inboxId, rfl⟩
  · exact goes_next core (.hydrating caller row (.returned true))

theorem clientCreated_cases (caller : Caller) (row : IdentityRow) (inboxId : String) :
    (clientCreated core call caller row inboxId).Goes core caller.fallback? ∨
      (clientCreated core call caller row inboxId).EndsStart core caller.fallback? := by
  unfold clientCreated
  split
  · split
    · exact throwOut_cases caller
    · next found => exact .inl (goes_next core (.hydrating caller row (.inboxLookup inboxId _)))
  · exact .inl (registerClient_cases caller row inboxId)

theorem hydrated_cases (caller : Caller) (row : IdentityRow) (ok : Bool) :
    (hydrated core call caller row ok).Goes core caller.fallback? ∨
      (hydrated core call caller row ok).EndsStart core caller.fallback? := by
  cases caller with
  | register =>
    cases ok with
    | true => exact .inl (goes_next core (.addressing row.id))
    | false => exact .inl ⟨_, .refl _, .detach row.id, rfl⟩
  | attach =>
    cases ok with
    | true => exact .inl (goes_finish (.stay core) call true)
    | false => exact .inl (goes_finish (.detach row.id) call false)
  | start rest fallback =>
    cases ok with
    | true => exact startNext_cases rest fallback
    | false => exact .inr (endsStart_fail core call fallback)

theorem streamOpened_goes (caller : Caller) (row : IdentityRow) (kind : StreamKind)
    (next : Await) : (streamOpened core caller row kind next).Goes core caller.fallback? :=
  ⟨_, .refl _, .push ⟨row.id, kind⟩, rfl⟩

/-- A stretch of `hydrateIdentity`. -/
theorem hydrate_cases (caller : Caller) (row : IdentityRow) (at_ : Await) (reply : Reply) :
    (hydrate core call caller row at_ reply).Goes core caller.fallback? ∨
      (hydrate core call caller row at_ reply).EndsStart core caller.fallback? := by
  have hgo : ∀ next, Advance.Goes core caller.fallback?
      ⟨core, some (.hydrating caller row next), []⟩ :=
    fun next => goes_next core (.hydrating caller row next)
  cases at_ with
  | inboxLookup inboxId found =>
    unfold hydrate
    dsimp only
    cases found with
    | true =>
      rw [if_pos rfl]
      split
      -- the statement throws on a closed database
      · exact throwOut_cases caller
      · next store _ => exact .inl ⟨_, .refl _, .stored store, rfl⟩
    | false => exact .inl (hgo _)
  | inboxUpdate inboxId stored =>
    cases stored with
    | true => exact .inl (registerClient_cases caller row inboxId)
    | false => exact .inl (hgo _)
  | returned ok => exact hydrated_cases caller row ok
  -- the other awaits are of the environment, which may throw or answer with an error
  | createClient =>
    cases reply with
    | thrown => exact throwOut_cases caller
    | err => exact .inl (hgo _)
    | ok inboxId => exact clientCreated_cases caller row inboxId
  | streamAllMessages | streamGroups | streamDms =>
    cases reply with
    | thrown => exact throwOut_cases caller
    | err => exact .inl (hgo _)
    | ok _ => exact .inl (streamOpened_goes caller row _ _)
  | getDbEncryptionKey | getXmtpIdentityKey | syncAll | listGroups =>
    cases reply with
    | thrown => exact throwOut_cases caller
    | err => exact .inl (hgo _)
    | ok _ => exact .inl (hgo _)

/-- **What a call can do** until its next await. -/
theorem advance_cases (waiting : Call) (reply : Reply) :
    (advance core call waiting reply).Goes core waiting.fallback? ∨
      (advance core call waiting reply).EndsStart core waiting.fallback? := by
  cases waiting with
  | creating row =>
    cases row with
    | none => exact .inl (goes_finish (.stay core) call false)
    | some row => exact .inl (goes_next core (.hydrating .register row .getDbEncryptionKey))
  | lookup identityId row =>
    cases row with
    | none => exact .inl (goes_finish (.stay core) call false)
    | some row => exact .inl (goes_next core (.hydrating .attach row .getDbEncryptionKey))
  | listing rows fallback => exact startNext_cases rows fallback
  | hydrating caller row at_ => exact hydrate_cases caller row at_ reply
  | addressing identityId =>
    cases reply with
    | ok _ => exact .inl (goes_finish (.stay core) call true)
    | err => exact .inl ⟨_, .refl _, .detach identityId, rfl⟩
    | thrown => exact .inl (goes_threw core call)
  | detached identityId =>
    left
    unfold advance
    dsimp only
    split
    · exact goes_threw core call
    · next found => exact goes_next core (.removing identityId _)
  | removing identityId found =>
    left
    unfold advance
    dsimp only
    split
    · split
      · exact goes_threw core call
      · next store => exact goes_finish (.stored _) call false
    · exact goes_finish (.stay core) call false

end Advance

/-! ### What a step can do -/

/-- A step of the core and its calls: an effect beside the calls of `start`, the beginning of such a
call, or its end. -/
inductive RuntimeStep (s : CoreRuntime) : List CoreEvent → CoreRuntime → Prop
  | effect {s' : CoreRuntime} {es events : List CoreEvent} (hevents : EndsWith es events)
    (heffect : Effect s.core es s'.core) (hcalls : ∀ call, s'.startOf call = s.startOf call) :
    RuntimeStep s events s'
  | starts {s' : CoreRuntime} {call : Nat} {fallback : SignetState}
    (hstate : s.core.state = .idle ∨ s.core.state = .local)
    (hfallback : fallback = .local ∨ fallback = .error)
    (hcore : s'.core = { s.core with state := .starting })
    (hcalls : ∀ other, s'.startOf other = if other = call then some fallback else s.startOf other) :
    RuntimeStep s [] s'
  | ends {s' : CoreRuntime} {call : Nat} {fallback : SignetState} {es events : List CoreEvent}
    (hstart : s.startOf call = some fallback) (hevents : EndsWith es events)
    (hcore : (s'.core, es) = s.core.failStart fallback ∨ (s'.core, es) = s.core.finishStart)
    (hcalls : ∀ other, s'.startOf other = if other = call then none else s.startOf other) :
    RuntimeStep s events s'

/-- A call that is none of `start` begins. -/
theorem RuntimeStep.begins {s : CoreRuntime} {core' : SignetCore} {call : Nat} {waiting : Call}
    (hnew : ¬ s.calls.has call = true) (hother : waiting.fallback? = none)
    (heffect : Effect s.core [] core') :
    RuntimeStep s [] (({ s with core := core' } : CoreRuntime).begin call waiting) := by
  refine .effect (.refl []) heffect fun other => ?_
  rw [CoreRuntime.startOf_begin]
  split
  · next hcall => rw [hother, hcall, CoreRuntime.startOf_of_not_has hnew]
  · rfl

/-- A method returns at once. -/
theorem RuntimeStep.refused (s : CoreRuntime) {events : List CoreEvent}
    (h : ∀ e ∈ events, e.IsReply) : RuntimeStep s events s :=
  .effect ⟨events, rfl, h⟩ (.stay s.core) fun _ => rfl

/-- **What a step can do.** -/
theorem runtimeStep_of_step {s s' : CoreRuntime} {a : CoreAction} {es : List CoreEvent}
    (h : coreStep s a = some (s', es)) : RuntimeStep s es s' := by
  have hreturned : ∀ (call : Nat) (ok : Bool), ∀ e ∈ [CoreEvent.returned call ok], e.IsReply :=
    fun call ok => List.forall_mem_singleton.2 trivial
  cases a with
  | startLocal =>
    unfold coreStep at h
    dsimp only at h
    split at h <;> cases h
    · next hstate => exact .effect (.refl []) (.startLocal hstate) fun _ => rfl
    · exact .refused s (List.forall_mem_nil _)
  | start call =>
    unfold coreStep at h
    dsimp only at h
    split_ifs at h with hhas hstate <;> cases h
    · exact .starts hstate (.inl rfl) rfl (CoreRuntime.startOf_begin _ call · _)
    · exact .starts hstate (.inr rfl) rfl (CoreRuntime.startOf_begin _ call · _)
    · exact .refused s (hreturned call false)
  | stop =>
    unfold coreStep at h
    dsimp only at h
    split at h <;> cases h
    · exact .refused s (List.forall_mem_nil _)
    · next hstop => exact .effect (.refl _) (.stop hstop) fun _ => rfl
  | register call identityId groupId label =>
    unfold coreStep at h
    dsimp only at h
    split_ifs at h with hhas hserves
    · split at h <;> cases h
      · exact .begins hhas rfl (.stay s.core)
      · exact .begins hhas rfl (.stored _)
    · cases h
      exact .refused s (hreturned call _)
  | attach call identityId =>
    unfold coreStep at h
    dsimp only at h
    split_ifs at h with hhas hserves hregistered
    · cases h
      exact .refused s (hreturned call _)
    · split at h <;> cases h
      · exact .refused s (List.forall_mem_singleton.2 (trivial : (CoreEvent.threw call).IsReply))
      · exact .begins hhas rfl (.stay s.core)
    · cases h
      exact .refused s (hreturned call _)
  | detach identityId =>
    cases h
    exact .effect (.refl _) (.detach identityId) fun _ => rfl
  | unregisterManagedClient identityId =>
    cases h
    exact .effect (.refl _) (.unregister identityId) fun _ => rfl
  | removeIdentity identityId =>
    unfold coreStep at h
    dsimp only at h
    split at h <;> cases h
    · exact .refused s (List.forall_mem_nil _)
    · exact .effect (.refl []) (.stored _) fun _ => rfl
  | resume call reply =>
    unfold coreStep at h
    dsimp only at h
    split at h <;> cases h
    next waiting hwaiting =>
    have hstart := CoreRuntime.startOf_of_get? hwaiting
    rcases advance_cases waiting reply with
      ⟨es, hevents, heffect, hnext⟩ | ⟨fallback, es, hfallback, hevents, hnext, hcore⟩
    · refine .effect hevents heffect fun other => ?_
      rw [CoreRuntime.startOf_settle]
      split
      · next hcall => rw [hnext, hcall, hstart]
      · rfl
    · refine .ends (hstart.trans hfallback) hevents hcore fun other => ?_
      rw [CoreRuntime.startOf_settle, hnext]
      rfl

/-! ### What the events tell -/

/-- `raw.core.started`. -/
def CoreEvent.isStarted : CoreEvent → Bool
  | .started _ => true
  | _ => false

/-- The events tell how the streams change. -/
def Accounted (core : SignetCore) (es : List CoreEvent) (core' : SignetCore) : Prop :=
  ∀ stream, core.streams.count stream + es.count (.opened stream) =
    core'.streams.count stream + es.count (.aborted stream)

/-- Events of other kinds are no replies. -/
theorem count_eq_zero_of_replies {replies : List CoreEvent} (h : ∀ e ∈ replies, e.IsReply)
    {e : CoreEvent} (he : ¬ e.IsReply) : replies.count e = 0 :=
  List.count_eq_zero.2 fun hmem => he (h e hmem)

theorem Accounted.endsWith {core core' : SignetCore} {es events : List CoreEvent}
    (h : Accounted core es core') (hevents : EndsWith es events) : Accounted core events core' := by
  obtain ⟨replies, rfl, hreplies⟩ := hevents
  intro stream
  have hopened : replies.count (.opened stream) = 0 :=
    count_eq_zero_of_replies hreplies (e := .opened stream) not_false
  have haborted : replies.count (.aborted stream) = 0 :=
    count_eq_zero_of_replies hreplies (e := .aborted stream) not_false
  rw [List.count_append, List.count_append, hopened, haborted]
  exact h stream

/-- Every stream of a list is aborted once for each time it is in the list. -/
theorem count_aborted (streams : List CoreStream) (stream : CoreStream) :
    (streams.map CoreEvent.aborted).count (.aborted stream) = streams.count stream :=
  List.count_map_of_injective streams _ (fun _ _ h => by cases h; rfl) stream

theorem count_map_aborted (streams : List CoreStream) {e : CoreEvent}
    (he : ∀ stream, e ≠ .aborted stream) : (streams.map CoreEvent.aborted).count e = 0 := by
  refine List.count_eq_zero.2 fun hmem => ?_
  obtain ⟨stream, -, rfl⟩ := List.mem_map.1 hmem
  exact he stream rfl

theorem count_opened_aborted (streams : List CoreStream) (stream : CoreStream) :
    (streams.map CoreEvent.aborted).count (.opened stream) = 0 :=
  count_map_aborted streams fun _ h => nomatch h

theorem accounted_clear {core core' : SignetCore} {es : List CoreEvent}
    (hstreams : core'.streams = []) (hopened : ∀ stream, es.count (.opened stream) = 0)
    (haborted : ∀ stream, es.count (.aborted stream) = 0) :
    Accounted core (core.streams.map .aborted ++ es) core' := by
  intro stream
  rw [List.count_append, List.count_append, count_aborted, count_opened_aborted, hopened, haborted,
    hstreams, List.count_nil, Nat.add_zero, Nat.zero_add]

theorem failStart_accounted (core : SignetCore) (fallback : SignetState) :
    Accounted core (core.failStart fallback).2 (core.failStart fallback).1 := by
  have h : Accounted core (core.streams.map .aborted ++ []) (core.failStart fallback).1 :=
    accounted_clear rfl (fun _ => List.count_nil) fun _ => List.count_nil
  rwa [List.append_nil] at h

theorem stop_eq_some {core core' : SignetCore} {es : List CoreEvent}
    (h : core.stop = some (core', es)) :
    (core.state = .local ∨ core.state = .running ∨ core.state = .error) ∧
      core' = { core.stopHeartbeat.clear with store := core.store.close, state := .stopped } ∧
      es = core.streams.map .aborted ++ if core.state = .local then [] else [.stopped] := by
  unfold SignetCore.stop at h
  split at h
  · next hstate =>
    obtain ⟨rfl, rfl⟩ := Prod.mk.inj (Option.some.inj h)
    exact ⟨hstate, rfl, rfl⟩
  · cases h

/-- `stop` says that the core has stopped, unless nothing but the local part was running. -/
theorem count_stopLine (core : SignetCore) {e : CoreEvent} (he : e ≠ .stopped) :
    (if core.state = .local then [] else [CoreEvent.stopped]).count e = 0 := by
  split
  · rfl
  · exact List.count_eq_zero.2 fun hmem => he (List.mem_singleton.1 hmem)

theorem detach_accounted (core : SignetCore) (identityId : String) :
    Accounted core (core.detach identityId).2 (core.detach identityId).1 := by
  intro stream
  have hparts : (core.streams.filter (·.identityId = identityId)).count stream +
      (core.streams.filter (·.identityId ≠ identityId)).count stream =
        core.streams.count stream := by
    by_cases hid : stream.identityId = identityId
    · have hnone : (core.streams.filter (·.identityId ≠ identityId)).count stream = 0 :=
        List.count_eq_zero.2 fun hmem => of_decide_eq_true (List.mem_filter.1 hmem).2 hid
      have hall := List.count_filter (l := core.streams) (a := stream)
        (p := (·.identityId = identityId)) (decide_eq_true hid)
      rw [hnone, hall, Nat.add_zero]
    · have hnone : (core.streams.filter (·.identityId = identityId)).count stream = 0 :=
        List.count_eq_zero.2 fun hmem => hid (of_decide_eq_true (List.mem_filter.1 hmem).2)
      have hall := List.count_filter (l := core.streams) (a := stream)
        (p := (·.identityId ≠ identityId)) (decide_eq_true hid)
      rw [hnone, hall, Nat.zero_add]
  unfold SignetCore.detach
  rw [count_aborted, count_opened_aborted]
  exact hparts.symm.trans (Nat.add_comm _ _)

/-- **An effect is told by its events.** -/
theorem Effect.accounted {core core' : SignetCore} {es : List CoreEvent}
    (h : Effect core es core') : Accounted core es core' := by
  cases h with
  | push stream =>
    intro other
    have hsame : [CoreEvent.opened stream].count (.opened other) = [stream].count other :=
      List.count_map_of_injective [stream] _ (fun _ _ h => by cases h; rfl) other
    have hnone : [CoreEvent.opened stream].count (.aborted other) = 0 := rfl
    rw [hsame, hnone, Nat.add_zero]
    exact List.count_append.symm
  | detach identityId => exact detach_accounted core identityId
  | stop hstop =>
    obtain ⟨-, rfl, rfl⟩ := stop_eq_some hstop
    exact accounted_clear rfl (fun _ => count_stopLine core nofun)
      fun _ => count_stopLine core nofun
  | _ => exact fun _ => rfl

/-! ### The lifecycle -/

/-- The timers run exactly while the core is running. -/
structure TimersMatch (core : SignetCore) : Prop where
  heartbeat : core.heartbeatTimer = decide (core.state = .running)
  liveness : core.livenessTimer = decide (core.state = .running)

/-- How often the core may have started, and stopped, in a state. -/
def SignetState.startCount : SignetState → Nat
  | .running | .stopped => 1
  | _ => 0

def SignetState.stopCount : SignetState → Nat
  | .stopped => 1
  | _ => 0

/-- **The custody of the core**: what it holds is what the trace tells. -/
structure Custody (tr : List CoreEvent) (s : CoreRuntime) : Prop where
  /-- Each stream is in the table as often as it was opened and not aborted. -/
  streams : ∀ stream, tr.count (.opened stream) =
    s.core.streams.count stream + tr.count (.aborted stream)
  timers : TimersMatch s.core
  /-- A call of `start` is in flight exactly while the core starts. -/
  starting : s.core.state = .starting ↔ ∃ call, (s.startOf call).isSome = true
  /-- No two calls of `start` are in flight. -/
  alone : ∀ call call', (s.startOf call).isSome = true → (s.startOf call').isSome = true →
    call = call'
  /-- A start that fails goes back to `local`, or to `error` if it was begun in `idle`. -/
  fallback : ∀ call fallback, s.startOf call = some fallback →
    fallback = .local ∨ fallback = .error
  /-- `stop` comes to its end in the step that begins it. -/
  settled : s.core.state ≠ .stopping
  /-- The core was not started before it runs, and at most once since. -/
  started : tr.countP CoreEvent.isStarted ≤ s.core.state.startCount
  stopped : tr.count .stopped ≤ s.core.state.stopCount

/-- What a step keeps of the lifecycle, apart from the calls. -/
structure Proceeds (core : SignetCore) (es : List CoreEvent) (core' : SignetCore) : Prop where
  timers : TimersMatch core'
  settled : core'.state ≠ .stopping
  started : es.countP CoreEvent.isStarted + core.state.startCount ≤ core'.state.startCount
  stopped : es.count .stopped + core.state.stopCount ≤ core'.state.stopCount

/-- Replies are no events of the lifecycle. -/
theorem Proceeds.endsWith {core core' : SignetCore} {es events : List CoreEvent}
    (h : Proceeds core es core') (hevents : EndsWith es events) : Proceeds core events core' := by
  obtain ⟨replies, rfl, hreplies⟩ := hevents
  have hstarted : replies.countP CoreEvent.isStarted = 0 := by
    refine List.countP_eq_zero.2 fun e hmem => ?_
    have he := hreplies e hmem
    cases e with
    | returned _ _ => exact Bool.false_ne_true
    | threw _ => exact Bool.false_ne_true
    | _ => cases he
  have hstopped : replies.count .stopped = 0 :=
    count_eq_zero_of_replies hreplies (e := .stopped) not_false
  refine ⟨h.timers, h.settled, ?_, ?_⟩
  · rw [List.countP_append, hstarted]
    exact h.started
  · rw [List.count_append, hstopped]
    exact h.stopped

theorem proceeds_of_same {core core' : SignetCore} {es : List CoreEvent}
    (htimers : TimersMatch core) (hsettled : core.state ≠ .stopping)
    (hstate : core'.state = core.state) (hheartbeat : core'.heartbeatTimer = core.heartbeatTimer)
    (hliveness : core'.livenessTimer = core.livenessTimer)
    (hstarted : es.countP CoreEvent.isStarted = 0) (hstopped : es.count .stopped = 0) :
    Proceeds core es core' := by
  refine ⟨⟨?_, ?_⟩, hstate ▸ hsettled, ?_, ?_⟩
  · rw [hheartbeat, hstate, htimers.heartbeat]
  · rw [hliveness, hstate, htimers.liveness]
  · exact Nat.le_of_eq (by rw [hstarted, hstate, Nat.zero_add])
  · exact Nat.le_of_eq (by rw [hstopped, hstate, Nat.zero_add])

theorem aborted_lifecycle (streams : List CoreStream) :
    (streams.map CoreEvent.aborted).countP CoreEvent.isStarted = 0 ∧
      (streams.map CoreEvent.aborted).count .stopped = 0 := by
  refine ⟨List.countP_eq_zero.2 fun e hmem => ?_, count_map_aborted streams fun _ h => nomatch h⟩
  obtain ⟨_, -, rfl⟩ := List.mem_map.1 hmem
  exact Bool.false_ne_true

theorem Effect.proceeds {core core' : SignetCore} {es : List CoreEvent} (h : Effect core es core')
    (htimers : TimersMatch core) (hsettled : core.state ≠ .stopping) : Proceeds core es core' := by
  cases h with
  | stored store => exact proceeds_of_same htimers hsettled rfl rfl rfl rfl rfl
  | register identityId inboxId => exact proceeds_of_same htimers hsettled rfl rfl rfl rfl rfl
  | push stream => exact proceeds_of_same htimers hsettled rfl rfl rfl rfl rfl
  | unregister identityId => exact proceeds_of_same htimers hsettled rfl rfl rfl rfl rfl
  | detach identityId =>
    obtain ⟨hstarted, hstopped⟩ :=
      aborted_lifecycle (core.streams.filter (·.identityId = identityId))
    exact proceeds_of_same htimers hsettled rfl rfl rfl hstarted hstopped
  | startLocal hstate =>
    -- neither `idle` nor `local` is running
    refine ⟨⟨?_, ?_⟩, nofun, ?_, ?_⟩
    · exact htimers.heartbeat.trans (by rw [hstate]; rfl)
    · exact htimers.liveness.trans (by rw [hstate]; rfl)
    · exact hstate ▸ Nat.le_refl 0
    · exact hstate ▸ Nat.le_refl 0
  | stop hstop =>
    obtain ⟨hstate, rfl, rfl⟩ := stop_eq_some hstop
    obtain ⟨hstarted, hstopped⟩ := aborted_lifecycle core.streams
    have hline : (if core.state = .local then [] else [CoreEvent.stopped]).countP
        CoreEvent.isStarted = 0 ∧
        (if core.state = .local then [] else [CoreEvent.stopped]).count .stopped ≤ 1 := by
      split <;> exact ⟨rfl, by decide⟩
    -- the state was none in which the core has stopped
    have hcounts : core.state.startCount ≤ 1 ∧ core.state.stopCount = 0 := by
      rcases hstate with h | h | h <;> rw [h] <;> decide
    refine ⟨⟨rfl, rfl⟩, nofun, ?_, ?_⟩
    · rw [List.countP_append, hstarted, hline.1, Nat.zero_add]
      exact hcounts.1
    · rw [List.count_append, hstopped, hcounts.2, Nat.zero_add]
      exact hline.2

/-- Whether the core is starting changes only with the calls of `start`. -/
theorem Effect.starting_iff {core core' : SignetCore} {es : List CoreEvent}
    (h : Effect core es core') : core'.state = .starting ↔ core.state = .starting := by
  cases h with
  | startLocal hstate => exact iff_of_false nofun fun h => by cases hstate.symm.trans h
  | stop hstop =>
    obtain ⟨hstate, rfl, -⟩ := stop_eq_some hstop
    refine iff_of_false nofun fun h => ?_
    rcases hstate with h' | h' | h' <;> cases h'.symm.trans h
  | _ => exact Iff.rfl

theorem proceeds_endsStart {core core' : SignetCore} {es : List CoreEvent}
    {fallback : SignetState} (hstate : core.state = .starting)
    (hfallback : fallback = .local ∨ fallback = .error)
    (h : (core', es) = core.failStart fallback ∨ (core', es) = core.finishStart) :
    Proceeds core es core' ∧ Accounted core es core' ∧ core'.state ≠ .starting := by
  rcases h with h | h <;> obtain ⟨rfl, rfl⟩ := Prod.mk.inj h
  · obtain ⟨hstarted, hstopped⟩ := aborted_lifecycle core.streams
    refine ⟨⟨⟨?_, ?_⟩, ?_, ?_, ?_⟩, failStart_accounted core fallback, ?_⟩
    · rcases hfallback with rfl | rfl <;> rfl
    · rcases hfallback with rfl | rfl <;> rfl
    · rcases hfallback with rfl | rfl <;> nofun
    · exact hstate ▸ hstarted ▸ Nat.zero_le _
    · exact hstate ▸ hstopped ▸ Nat.zero_le _
    · rcases hfallback with rfl | rfl <;> nofun
  · refine ⟨⟨⟨rfl, rfl⟩, nofun, ?_, ?_⟩, fun _ => rfl, nofun⟩
    · exact hstate ▸ Nat.le_refl 1
    · exact hstate ▸ Nat.zero_le 0

/-! ### Runs -/

theorem Custody.init (store : SqliteIdentityStore) : Custody [] (coreMachine store).init where
  streams _ := rfl
  timers := ⟨rfl, rfl⟩
  starting := iff_of_false nofun fun ⟨_, h⟩ => Bool.false_ne_true h
  alone _ _ h := absurd h Bool.false_ne_true
  fallback _ _ h := by cases h
  settled := nofun
  started := Nat.le_refl 0
  stopped := Nat.le_refl 0

theorem Custody.core_step {tr es : List CoreEvent} {s s' : CoreRuntime} (h : Custody tr s)
    (hproceeds : Proceeds s.core es s'.core) (haccounted : Accounted s.core es s'.core)
    (hstarting : s'.core.state = .starting ↔ ∃ call, (s'.startOf call).isSome = true)
    (halone : ∀ call call', (s'.startOf call).isSome = true →
      (s'.startOf call').isSome = true → call = call')
    (hfallback : ∀ call fallback, s'.startOf call = some fallback →
      fallback = .local ∨ fallback = .error) :
    Custody (tr ++ es) s' where
  streams stream := by
    have hbefore := h.streams stream
    have hstep := haccounted stream
    rw [List.count_append, List.count_append]
    omega
  timers := hproceeds.timers
  starting := hstarting
  alone := halone
  fallback := hfallback
  settled := hproceeds.settled
  started := by
    rw [List.countP_append, Nat.add_comm]
    exact Nat.le_trans (Nat.add_le_add_left h.started _) hproceeds.started
  stopped := by
    rw [List.count_append, Nat.add_comm]
    exact Nat.le_trans (Nat.add_le_add_left h.stopped _) hproceeds.stopped

/-- **Every step keeps the custody.** -/
theorem Custody.step {tr es : List CoreEvent} {s s' : CoreRuntime} (h : Custody tr s)
    (hstep : RuntimeStep s es s') : Custody (tr ++ es) s' := by
  cases hstep with
  | effect hevents heffect hcalls =>
    refine h.core_step ((heffect.proceeds h.timers h.settled).endsWith hevents)
      (heffect.accounted.endsWith hevents) ?_ ?_ ?_
    · simp only [hcalls]
      exact heffect.starting_iff.trans h.starting
    · simp only [hcalls]
      exact h.alone
    · simp only [hcalls]
      exact h.fallback
  | @starts _ call fallback hstate hfallback hcore hcalls =>
    -- no call of `start` was in flight, as the core was not starting
    have hnone : ∀ other, s.startOf other = none := by
      intro other
      by_contra hsome
      have hstarting := h.starting.2 ⟨other, Option.isSome_iff_ne_none.2 hsome⟩
      rcases hstate with h' | h' <;> cases h'.symm.trans hstarting
    have honly : ∀ other, (s'.startOf other).isSome = true ↔ other = call := by
      intro other
      rw [hcalls other, hnone other]
      split
      · next heq => exact iff_of_true rfl heq
      · next hne => exact iff_of_false Bool.false_ne_true hne
    have hsame : TimersMatch s'.core := by
      rw [hcore]
      refine ⟨?_, ?_⟩
      · exact h.timers.heartbeat.trans (by rcases hstate with h' | h' <;> rw [h'] <;> rfl)
      · exact h.timers.liveness.trans (by rcases hstate with h' | h' <;> rw [h'] <;> rfl)
    refine h.core_step ⟨hsame, ?_, ?_, ?_⟩ ?_ ?_ ?_ ?_
    · rw [hcore]
      nofun
    · rcases hstate with h' | h' <;> rw [hcore, h'] <;> exact Nat.le_refl 0
    · rcases hstate with h' | h' <;> rw [hcore, h'] <;> exact Nat.le_refl 0
    · rw [hcore]
      exact fun _ => rfl
    · rw [hcore]
      exact iff_of_true rfl ⟨call, (honly call).2 rfl⟩
    · intro other other' hother hother'
      exact ((honly other).1 hother).trans ((honly other').1 hother').symm
    · intro other fallback' hother
      have heq := (honly other).1 (Option.isSome_iff_exists.2 ⟨_, hother⟩)
      rw [hcalls other, if_pos heq] at hother
      exact Option.some.inj hother ▸ hfallback
  | @ends _ call fallback es₀ _ hstart hevents hcore hcalls =>
    have hstate := h.starting.2 ⟨call, Option.isSome_iff_exists.2 ⟨_, hstart⟩⟩
    obtain ⟨hproceeds, haccounted, hended⟩ :=
      proceeds_endsStart hstate (h.fallback call fallback hstart) hcore
    -- the only call of `start` ends
    have hnone : ∀ other, s'.startOf other = none := by
      intro other
      rw [hcalls other]
      split
      · rfl
      · next hne =>
        by_contra hsome
        exact hne (h.alone other call (Option.isSome_iff_ne_none.2 hsome)
          (Option.isSome_iff_exists.2 ⟨_, hstart⟩))
    refine h.core_step (hproceeds.endsWith hevents) (haccounted.endsWith hevents) ?_ ?_ ?_
    · refine iff_of_false hended ?_
      rintro ⟨other, hother⟩
      rw [hnone other] at hother
      cases hother
    · intro other _ hother
      rw [hnone other] at hother
      cases hother
    · intro other _ hother
      rw [hnone other] at hother
      cases hother

theorem custody_of_run {store : SqliteIdentityStore} {ok : CoreRuntime → CoreAction → Prop}
    {tr : List CoreEvent} {s : CoreRuntime} (hrun : Run (coreMachine store) ok tr s) :
    Custody tr s := by
  refine Run.invariant (I := Custody) (Custody.init store) ?_ hrun
  intro tr s a s' es _ h _ hstep
  exact h.step (runtimeStep_of_step hstep)

/-- **The core keeps what it opens.** In every run, whatever calls overlap, the table of streams
holds what was opened and not aborted, both timers run exactly while the core is running, one call
of `start` is in flight exactly while it is starting, and it starts and stops at most once. -/
theorem core_custody (store : SqliteIdentityStore) {tr : List CoreEvent} {s : CoreRuntime}
    (hrun : Run (coreMachine store) (fun _ _ => True) tr s) :
    (∀ stream, tr.count (.opened stream) =
      s.core.streams.count stream + tr.count (.aborted stream)) ∧
    s.core.heartbeatTimer = decide (s.core.state = .running) ∧
    s.core.livenessTimer = decide (s.core.state = .running) ∧
    (s.core.state = .starting ↔ ∃ call, (s.startOf call).isSome = true) ∧
    (∀ call call', (s.startOf call).isSome = true → (s.startOf call').isSome = true →
      call = call') ∧
    s.core.state ≠ .stopping ∧ tr.countP CoreEvent.isStarted ≤ 1 ∧ tr.count .stopped ≤ 1 := by
  have h := custody_of_run hrun
  have hcounts : ∀ state : SignetState, state.startCount ≤ 1 ∧ state.stopCount ≤ 1 := by
    intro state
    cases state <;> decide
  exact ⟨h.streams, h.timers.heartbeat, h.timers.liveness, h.starting, h.alone,
    h.settled, Nat.le_trans h.started (hcounts _).1, Nat.le_trans h.stopped (hcounts _).2⟩

/-- The core starts, and an identity is registered until its streams are opened. -/
def hydratesUntilStreams : List CoreAction :=
  [.start 0, .resume 0 .err, .register 1 "id_1" none none] ++
    List.replicate 9 (.resume 1 (.ok "inbox"))

/-- The core is stopped while an identity is hydrated: a stream is opened afterwards, and nothing
aborts it. -/
theorem core_custody_stopped :
    ∃ tr s, Run (coreMachine .empty) (fun _ _ => True) tr s ∧ s.core.state = .stopped ∧
      0 < s.core.streams.count ⟨"id_1", .groups⟩ ∧
      tr.count (.opened ⟨"id_1", .groups⟩) = s.core.streams.count ⟨"id_1", .groups⟩ +
        tr.count (.aborted ⟨"id_1", .groups⟩) := by
  obtain ⟨tr, s, hrun, htest⟩ := exists_run_of_exec_of_forall (coreMachine .empty)
    (fun _ _ => True) (hydratesUntilStreams ++ [.stop, .resume 1 (.ok "inbox")])
    (fun _ s => s.core.state = .stopped ∧ ⟨"id_1", .groups⟩ ∈ s.core.streams)
    (fun _ _ _ => trivial) (by decide +kernel)
  obtain ⟨hstate, hmem⟩ := of_decide_eq_true htest
  exact ⟨tr, s, hrun, hstate, List.count_pos_iff.2 hmem, (core_custody .empty hrun).1 _⟩

end Signet.Core
