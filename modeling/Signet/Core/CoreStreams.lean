import Signet.Core.IdentityView

/-!
# Streams and clients

Calls that overlap can leave the core with streams of identities that are not registered: an
identity is detached while a call of `attachPersistedIdentity` opens its streams, the core is
stopped while one does (`core_custody_stopped`), or two calls hydrate one identity.
`CoreRuntime.Undisturbed` names the disturbances, and `undisturbed_streams` says that without them
the table of streams and the registry agree in every reachable state: a registered identity of a
running core that no call works on has each of its streams exactly once, streams belong to
registered identities, and a core that does not run has none.

The invariant is that calls keep their promises, that no two of them work on one identity, and that
the views on which none works are settled.
-/

namespace Signet.Core

open Lib

/-! ### The invariant -/

/-- **What is not done to the core**: a start begins while no call is in flight, the core is not
stopped while streams are opened, identities are worked on by one call at a time, they are
detached before they are unregistered or removed and not while their streams are opened, and a
client does not throw on a call that opens streams, outside of the start. -/
def CoreRuntime.Undisturbed (s : CoreRuntime) : CoreAction → Prop
  | .startLocal => True
  | .start _ => s.core.state = .idle ∨ s.core.state = .local → s.calls.values = []
  | .stop => s.core.state = .starting ∨
      ∀ waiting ∈ s.calls.values, ∀ identityId ∈ waiting.ids, ¬ waiting.Opens identityId
  | .register _ identityId _ _ | .attach _ identityId =>
    s.core.state.Serves → ∀ waiting ∈ s.calls.values, identityId ∉ waiting.ids
  | .detach identityId => ∀ waiting ∈ s.calls.values, ¬ waiting.Opens identityId
  | .unregisterManagedClient identityId =>
    (∀ stream ∈ s.core.streams, stream.identityId ≠ identityId) ∧
      ∀ waiting ∈ s.calls.values, ¬ waiting.Opens identityId
  | .removeIdentity identityId =>
    s.core.registry.has identityId = false ∧ ∀ waiting ∈ s.calls.values, identityId ∉ waiting.ids
  | .resume call reply => ∀ waiting ∈ s.calls.get? call, waiting.fallback? = none →
      (∃ identityId ∈ waiting.ids, waiting.Opens identityId) → reply ≠ .thrown

instance (s : CoreRuntime) : ∀ a, Decidable (s.Undisturbed a)
  | .startLocal => inferInstanceAs (Decidable True)
  | .start _ => inferInstanceAs (Decidable (_ → _))
  | .stop => inferInstanceAs (Decidable (_ ∨ _))
  | .register _ _ _ _ => inferInstanceAs (Decidable (_ → _))
  | .attach _ _ => inferInstanceAs (Decidable (_ → _))
  | .detach identityId =>
    inferInstanceAs (Decidable (∀ waiting ∈ s.calls.values, ¬ waiting.Opens identityId))
  | .unregisterManagedClient _ => inferInstanceAs (Decidable (_ ∧ _))
  | .removeIdentity _ => inferInstanceAs (Decidable (_ ∧ _))
  | .resume call reply =>
    inferInstanceAs (Decidable (∀ waiting ∈ s.calls.get? call, waiting.fallback? = none →
      (∃ identityId ∈ waiting.ids, waiting.Opens identityId) → reply ≠ .thrown))

/-- **The invariant**: calls keep their promises, no two of them work on one identity, and the
identities on which none works are settled. -/
structure StreamsInv (s : CoreRuntime) : Prop where
  calls : ∀ call waiting, s.calls.get? call = some waiting → waiting.fallback? = none →
    ∀ identityId ∈ waiting.ids, CallOk s.core.state (s.core.view identityId) waiting
  start : ∀ call waiting fallback, s.calls.get? call = some waiting →
    waiting.fallback? = some fallback →
      StartOk s.core waiting ∧ ∀ other, other ≠ call → s.calls.get? other = none
  distinct : ∀ call call' waiting waiting', s.calls.get? call = some waiting →
    s.calls.get? call' = some waiting' → ∀ identityId ∈ waiting.ids, identityId ∈ waiting'.ids →
      call = call'
  free : s.core.state ≠ .starting → ∀ identityId,
    (∀ call waiting, s.calls.get? call = some waiting → identityId ∉ waiting.ids) →
      (s.core.view identityId).Settled s.core.state

/-! ### Steps keep the invariant -/

section Steps

variable {s s' : CoreRuntime}

theorem StreamsInv.init (store : SqliteIdentityStore) : StreamsInv (coreMachine store).init where
  calls _ _ h := by cases h
  start _ _ _ h := by cases h
  distinct _ _ _ _ h := by cases h
  free _ identityId _ := (view_clear_bare rfl rfl identityId).settled .idle

/-- An identity that no call works on is settled. -/
theorem StreamsInv.settled (h : StreamsInv s) (hstarting : s.core.state ≠ .starting)
    {identityId : String} (halone : ∀ waiting ∈ s.calls.values, identityId ∉ waiting.ids) :
    (s.core.view identityId).Settled s.core.state :=
  h.free hstarting identityId fun call waiting hget =>
    halone waiting (OrdMap.mem_values_iff.2 ⟨call, hget⟩)

/-- While the core does not start, no call of `start` is in flight. -/
theorem Custody.not_start {tr : List CoreEvent} (h : Custody tr s)
    (hstate : s.core.state ≠ .starting) {call : Nat} {waiting : Call}
    (hget : s.calls.get? call = some waiting) : waiting.fallback? = none := by
  by_contra hsome
  refine hstate (h.starting.2 ⟨call, ?_⟩)
  rw [CoreRuntime.startOf_of_get? hget]
  exact Option.isSome_iff_ne_none.2 hsome

theorem StreamsInv.sound {tr : List CoreEvent} (h : StreamsInv s) (hcustody : Custody tr s)
    (identityId : String) : (s.core.view identityId).Sound s.core.state := by
  by_cases hstarting : s.core.state = .starting
  · -- the start is the only call in flight
    obtain ⟨call, hcall⟩ := hcustody.starting.1 hstarting
    obtain ⟨fallback, hfallback⟩ := Option.isSome_iff_exists.1 hcall
    obtain ⟨waiting, hget, hwaiting⟩ := Option.bind_eq_some_iff.1 hfallback
    obtain ⟨hok, -⟩ := h.start call waiting fallback hget hwaiting
    have hhydrates : ∀ {rest : List IdentityRow} {current : Option String},
        Hydrates s.core rest current → current ≠ some identityId →
          (s.core.view identityId).Sound .starting := by
      intro rest current hhydrates hcurrent
      by_cases hrest : ∃ row ∈ rest, row.id = identityId
      · obtain ⟨row, hmem, rfl⟩ := hrest
        exact (hhydrates.pending row hmem).sound fun _ => rfl
      · exact (hhydrates.done identityId (fun row hmem heq => hrest ⟨row, hmem, heq⟩)
          hcurrent).sound
    rw [hstarting]
    cases waiting with
    | listing rows fb => exact hhydrates hok nofun
    | hydrating caller row at_ =>
      cases caller with
      | start rest fb =>
        by_cases hrow : row.id = identityId
        · exact hrow ▸ hok.2.2.sound fun _ => rfl
        · exact hhydrates hok.1 fun hsome => hrow (Option.some.inj hsome)
      | register => exact hok.elim
      | attach => exact hok.elim
    | _ => exact hok.elim
  · by_cases hfree : ∃ call waiting, s.calls.get? call = some waiting ∧ identityId ∈ waiting.ids
    · obtain ⟨call, waiting, hget, hmem⟩ := hfree
      exact (h.calls call waiting hget (hcustody.not_start hstarting hget) identityId hmem).sound
    · exact (h.free hstarting identityId fun call waiting hget hmem =>
        hfree ⟨call, waiting, hget, hmem⟩).sound

/-- **A step about some identities** of a core that does not start keeps the calls on others. -/
theorem StreamsInv.step_of {tr : List CoreEvent} (h : StreamsInv s) (hcustody : Custody tr s)
    (hstarting : s.core.state ≠ .starting) (Touched : String → Prop) (number : Nat)
    (hstate : s'.core.state = s.core.state)
    (hviews : ∀ identityId, ¬ Touched identityId →
      s'.core.view identityId = s.core.view identityId)
    (hcalls : ∀ call waiting, s'.calls.get? call = some waiting →
      (s.calls.get? call = some waiting ∧ call ≠ number ∧
        ∀ identityId ∈ waiting.ids, ¬ Touched identityId) ∨
      (call = number ∧ waiting.fallback? = none ∧ ∀ identityId ∈ waiting.ids, Touched identityId ∧
        CallOk s.core.state (s'.core.view identityId) waiting))
    (hkept : ∀ call waiting, s.calls.get? call = some waiting →
      s'.calls.get? call = some waiting ∨ ∀ identityId ∈ waiting.ids, Touched identityId)
    (hfree : ∀ identityId, Touched identityId →
      (∀ call waiting, s'.calls.get? call = some waiting → identityId ∉ waiting.ids) →
        (s'.core.view identityId).Settled s.core.state) : StreamsInv s' := by
  refine ⟨?_, ?_, ?_, ?_⟩
  · intro call waiting hget hother identityId hmem
    rw [hstate]
    rcases hcalls call waiting hget with ⟨hold, -, huntouched⟩ | ⟨-, -, hnew⟩
    · rw [hviews identityId (huntouched identityId hmem)]
      exact h.calls call waiting hold hother identityId hmem
    · exact (hnew identityId hmem).2
  · intro call waiting fallback hget hfallback
    rcases hcalls call waiting hget with ⟨hold, -⟩ | ⟨-, hother, -⟩
    · cases (hcustody.not_start hstarting hold).symm.trans hfallback
    · cases hother.symm.trans hfallback
  · intro call call' waiting waiting' hget hget' identityId hmem hmem'
    rcases hcalls call waiting hget with ⟨hold, -, huntouched⟩ | ⟨hcall, -, hnew⟩ <;>
      rcases hcalls call' waiting' hget' with ⟨hold', -, huntouched'⟩ | ⟨hcall', -, hnew'⟩
    · exact h.distinct call call' waiting waiting' hold hold' identityId hmem hmem'
    · exact absurd (hnew' identityId hmem').1 (huntouched identityId hmem)
    · exact absurd (hnew identityId hmem).1 (huntouched' identityId hmem')
    · exact hcall.trans hcall'.symm
  · intro _ identityId hnone
    rw [hstate]
    by_cases htouched : Touched identityId
    · exact hfree identityId htouched hnone
    · rw [hviews identityId htouched]
      refine h.free hstarting identityId fun call waiting hget hmem => ?_
      rcases hkept call waiting hget with hstays | hall
      · exact hnone call waiting hstays hmem
      · exact htouched (hall identityId hmem)

theorem CallOk.state_of_opens {state : SignetState} {v : IdentityView} {waiting : Call}
    {identityId : String} (h : CallOk state v waiting) (hopens : waiting.Opens identityId) :
    state = .starting ∨ state = .running := by
  cases waiting with
  | hydrating caller row at_ =>
    obtain ⟨-, hok⟩ := h
    obtain ⟨-, hat⟩ := hopens
    cases at_ with
    | syncAll => exact IdentityView.Opening.state hok
    | listGroups => exact IdentityView.Opening.state hok
    | streamAllMessages => exact IdentityView.Opening.state hok
    | streamGroups => exact IdentityView.Opening.state hok
    | streamDms => exact IdentityView.Opening.state hok
    | _ => cases hat
  | _ => exact hopens.elim

/-- Only rows are left, and no call opens streams. -/
theorem StreamsInv.bare_step {tr : List CoreEvent} (h : StreamsInv s) (hcustody : Custody tr s)
    (hstarting : s.core.state ≠ .starting) (hcalls : s'.calls = s.calls)
    (hopens : ∀ call waiting, s.calls.get? call = some waiting → ∀ identityId ∈ waiting.ids,
      ¬ waiting.Opens identityId)
    (hviews : ∀ identityId, (s'.core.view identityId).Bare ∧
      (s'.core.view identityId).stored = (s.core.view identityId).stored) : StreamsInv s' := by
  refine ⟨?_, ?_, ?_, fun _ identityId _ => (hviews identityId).1.settled _⟩
  · intro call waiting hget hother identityId hmem
    rw [hcalls] at hget
    obtain ⟨hbare, hstored⟩ := hviews identityId
    exact (h.calls call waiting hget hother identityId hmem).bare hmem
      (hopens call waiting hget identityId hmem) hbare hstored
  · intro call waiting fallback hget hfallback
    rw [hcalls] at hget
    cases (hcustody.not_start hstarting hget).symm.trans hfallback
  · rw [hcalls]
    exact h.distinct

theorem IdentityView.Sound.bare {state : SignetState} {v : IdentityView} (h : v.Sound state)
    (hstate : state = .idle ∨ state = .stopped ∨ state = .error) : v.Bare := by
  have hregistered : v.registered = false := by
    refine Bool.eq_false_iff.2 fun hregistered => ?_
    obtain ⟨-, h' | h' | h'⟩ := h.registered hregistered <;>
      rcases hstate with h | h | h <;> cases h.symm.trans h'
  refine ⟨hregistered, ?_⟩
  by_contra hne
  cases hregistered.symm.trans (h.streams hne).1

theorem StreamsInv.startLocal_step {tr : List CoreEvent} (h : StreamsInv s)
    (hcustody : Custody tr s) (hstate : s.core.state = .idle) :
    StreamsInv { s with core := { s.core with state := .local } } := by
  have hbare : ∀ identityId, (s.core.view identityId).Bare := fun identityId =>
    (h.sound hcustody identityId).bare (.inl hstate)
  have hstarting : s.core.state ≠ .starting := by
    rw [hstate]
    nofun
  refine h.bare_step hcustody hstarting rfl ?_ fun identityId => ⟨hbare identityId, rfl⟩
  intro call waiting hget identityId hmem hopens
  have hok := h.calls call waiting hget (hcustody.not_start hstarting hget) identityId hmem
  rcases hok.state_of_opens hopens with h' | h' <;> cases hstate.symm.trans h'

theorem StreamsInv.stop_step {tr es : List CoreEvent} {core' : SignetCore} (h : StreamsInv s)
    (hcustody : Custody tr s) (hguard : s.Undisturbed .stop)
    (hstop : s.core.stop = some (core', es)) : StreamsInv { s with core := core' } := by
  obtain ⟨hstate, rfl, -⟩ := stop_eq_some hstop
  have hstarting : s.core.state ≠ .starting := by
    rcases hstate with h' | h' | h' <;> rw [h'] <;> nofun
  refine h.bare_step hcustody hstarting rfl ?_ fun identityId => ⟨view_clear_bare rfl rfl _, rfl⟩
  intro call waiting hget
  exact (hguard.resolve_left hstarting) waiting (OrdMap.mem_values_iff.2 ⟨call, hget⟩)

theorem IdentityView.Settled.streams_eq_nil {state : SignetState} {v : IdentityView}
    (h : v.Settled state) (hstate : state = .idle ∨ state = .local) : v.streams = [] := by
  cases hregistered : v.registered with
  | false => exact h.bare hregistered
  | true =>
    rcases h.streams hregistered with ⟨-, hnone⟩ | ⟨hrun, -⟩
    · exact hnone
    · rcases hstate with h | h <;> rcases hrun with h' | h' <;> cases h.symm.trans h'

theorem StreamsInv.start_step (h : StreamsInv s)
    (hstate : s.core.state = .idle ∨ s.core.state = .local) (hnone : s.calls.values = [])
    (call : Nat) (fallback : SignetState) :
    StreamsInv (CoreRuntime.begin { s with core := { s.core with state := .starting } } call
      (.listing s.core.store.rows fallback)) := by
  have hempty : ∀ other, s.calls.get? other = none := by
    intro other
    refine Option.eq_none_iff_forall_ne_some.2 fun waiting hget => ?_
    have hmem := OrdMap.mem_values_iff.2 ⟨other, hget⟩
    rw [hnone] at hmem
    cases hmem
  have honly : ∀ other waiting, (s.calls.set call (.listing s.core.store.rows fallback)).get?
      other = some waiting → other = call ∧ waiting = .listing s.core.store.rows fallback := by
    intro other waiting hget
    rcases OrdMap.get?_set_eq_some hget with ⟨rfl, rfl⟩ | ⟨-, hold⟩
    · exact ⟨rfl, rfl⟩
    · cases (hempty other).symm.trans hold
  have hstarting : s.core.state ≠ .starting := by
    rcases hstate with h' | h' <;> rw [h'] <;> nofun
  have hsettled : ∀ identityId, (s.core.view identityId).Settled s.core.state :=
    fun identityId => h.settled hstarting (hnone ▸ List.forall_mem_nil _)
  refine ⟨?_, ?_, ?_, fun hne => absurd rfl hne⟩
  · intro other waiting hget hother
    obtain ⟨-, rfl⟩ := honly other waiting hget
    cases hother
  · intro other waiting fb hget _
    obtain ⟨rfl, rfl⟩ := honly other waiting hget
    refine ⟨⟨s.core.store.nodup_id, fun row hmem => ?_, fun identityId hnew _ => ?_⟩, ?_⟩
    · -- the rows of the store are yet to be hydrated
      exact ⟨decide_eq_true (List.mem_map_of_mem hmem),
        (hsettled row.id).streams_eq_nil hstate, nofun⟩
    · -- only stored identities are registered
      have hstored : (s.core.view identityId).stored = false := by
        refine decide_eq_false fun hmem => ?_
        obtain ⟨row, hrow, heq⟩ := List.mem_map.1 hmem
        exact hnew row hrow heq
      exact ((hsettled identityId).bare_of_not_stored hstored).settled .starting
    · intro other' hne
      exact (OrdMap.get?_set_of_ne _ _ hne).trans (hempty other')
  · intro other other' waiting waiting' hget hget' _ _ _
    exact (honly other waiting hget).1.trans (honly other' waiting' hget').1.symm

/-- A call begins that is the only one to work on an identity. -/
theorem StreamsInv.begin_step {tr : List CoreEvent} (h : StreamsInv s) (hcustody : Custody tr s)
    (hstarting : s.core.state ≠ .starting) {core' : SignetCore} {call : Nat} {waiting : Call}
    {identityId : String} (hnew : ¬ s.calls.has call = true)
    (halone : ∀ other ∈ s.calls.values, identityId ∉ other.ids)
    (hstate : core'.state = s.core.state)
    (hviews : ∀ other, other ≠ identityId → core'.view other = s.core.view other)
    (hother : waiting.fallback? = none) (hids : ∀ id ∈ waiting.ids, id = identityId)
    (hok : identityId ∈ waiting.ids → CallOk s.core.state (core'.view identityId) waiting)
    (hfree : identityId ∉ waiting.ids → core'.view identityId = s.core.view identityId) :
    StreamsInv (CoreRuntime.begin { s with core := core' } call waiting) := by
  have hnone := OrdMap.get?_eq_none_of_not_has hnew
  refine h.step_of hcustody hstarting (· = identityId) call hstate (fun id hne => hviews id hne)
    ?_ ?_ ?_
  · intro other waiting' hget
    rcases OrdMap.get?_set_eq_some hget with ⟨rfl, rfl⟩ | ⟨hne, hold⟩
    · exact .inr ⟨rfl, hother, fun id hmem => by
        obtain rfl := hids id hmem
        exact ⟨rfl, hok hmem⟩⟩
    · refine .inl ⟨hold, hne, ?_⟩
      rintro id hmem rfl
      exact halone waiting' (OrdMap.mem_values_iff.2 ⟨other, hold⟩) hmem
  · intro other waiting' hget
    left
    refine (OrdMap.get?_set_of_ne _ _ ?_).trans hget
    rintro rfl
    cases hnone.symm.trans hget
  · rintro id rfl hnobody
    have hnot : id ∉ waiting.ids := hnobody call waiting (OrdMap.get?_set_self _ _ _)
    show (core'.view id).Settled s.core.state
    rw [hfree hnot]
    exact h.settled hstarting halone

theorem SignetState.Serves.ne_starting {state : SignetState} (h : state.Serves) :
    state ≠ .starting := by
  rcases h with rfl | rfl <;> nofun

theorem StreamsInv.register_step {tr es : List CoreEvent} (h : StreamsInv s)
    (hcustody : Custody tr s) {call : Nat} {identityId : String} {groupId label : Option String}
    (hguard : s.Undisturbed (.register call identityId groupId label))
    (hstep : coreStep s (.register call identityId groupId label) = some (s', es)) :
    StreamsInv s' := by
  unfold coreStep at hstep
  dsimp only at hstep
  split_ifs at hstep with hhas hserves
  · have halone := hguard hserves
    have hsettled := h.settled hserves.ne_starting halone
    split at hstep <;> cases hstep
    · exact h.begin_step hcustody hserves.ne_starting hhas halone rfl (fun _ _ => rfl) rfl
        (List.forall_mem_nil _) (fun hmem => absurd hmem List.not_mem_nil) fun _ => rfl
    · next row store hcreate =>
      obtain ⟨rfl, hnew, hids, -⟩ := SqliteIdentityStore.create_eq_some hcreate
      have hbare := hsettled.bare_of_not_stored (decide_eq_false hnew)
      refine h.begin_step hcustody hserves.ne_starting hhas halone rfl
        (fun other hne => view_store s.core other ?_) rfl (fun id hmem => List.mem_singleton.1 hmem)
        (fun _ => ?_) fun hnot => absurd (List.mem_singleton.2 rfl) hnot
      · rw [hids, List.mem_append, List.mem_singleton]
        exact or_iff_left hne
      · refine ⟨decide_eq_true ?_, hbare.streams, fun _ => hbare.registered⟩
        show identityId ∈ store.ids
        rw [hids]
        exact List.mem_append_right _ List.mem_cons_self
  · cases hstep
    exact h

theorem StreamsInv.attach_step {tr es : List CoreEvent} (h : StreamsInv s)
    (hcustody : Custody tr s) {call : Nat} {identityId : String}
    (hguard : s.Undisturbed (.attach call identityId))
    (hstep : coreStep s (.attach call identityId) = some (s', es)) : StreamsInv s' := by
  unfold coreStep at hstep
  dsimp only at hstep
  split_ifs at hstep with hhas hserves hregistered
  · cases hstep
    exact h
  · have halone := hguard hserves
    have hsettled := h.settled hserves.ne_starting halone
    have hnot : (s.core.view identityId).registered = false := Bool.eq_false_iff.2 hregistered
    split at hstep <;> cases hstep
    · exact h
    · next row hfound =>
      refine h.begin_step hcustody hserves.ne_starting hhas halone rfl
        (fun _ _ => rfl) rfl (fun id hmem => List.mem_singleton.1 hmem) (fun _ => ?_)
        fun hnone => absurd (List.mem_singleton.2 rfl) hnone
      refine ⟨⟨hnot, hsettled.bare hnot⟩, ?_⟩
      rintro found rfl
      obtain ⟨hmem, hid⟩ := SqliteIdentityStore.getById_eq_some hfound
      exact ⟨hid, decide_eq_true (hid ▸ List.mem_map_of_mem hmem)⟩
  · cases hstep
    exact h

theorem Hydrates.forget {core core' : SignetCore} {rest : List IdentityRow}
    {current : Option String} {identityId : String} (h : Hydrates core rest current)
    (hviews : ∀ other, other ≠ identityId → core'.view other = core.view other)
    (hbare : (core'.view identityId).Bare)
    (hstored : identityId ∈ rest.map (·.id) →
      (core'.view identityId).stored = (core.view identityId).stored) :
    Hydrates core' rest current := by
  refine ⟨h.nodup, fun row hmem => ?_, fun other hother hcurrent => ?_⟩
  · by_cases heq : row.id = identityId
    · have hmem' : identityId ∈ rest.map (·.id) := List.mem_map.2 ⟨row, hmem, heq⟩
      rw [heq]
      exact ⟨(hstored hmem').trans (heq ▸ (h.pending row hmem).stored), hbare.streams, nofun⟩
    · rw [hviews row.id heq]
      exact h.pending row hmem
  · by_cases heq : other = identityId
    · exact heq ▸ hbare.settled .starting
    · rw [hviews other heq]
      exact h.done other hother hcurrent

/-- **An identity is forgotten**: detached, unregistered or removed. -/
theorem StreamsInv.forget_step {core' : SignetCore} {identityId : String} (h : StreamsInv s)
    (hstate : core'.state = s.core.state)
    (hviews : ∀ other, other ≠ identityId → core'.view other = s.core.view other)
    (hbare : (core'.view identityId).Bare)
    (hopens : ∀ waiting ∈ s.calls.values, ¬ waiting.Opens identityId)
    (hstored : ∀ waiting ∈ s.calls.values, identityId ∈ waiting.ids →
      (core'.view identityId).stored = (s.core.view identityId).stored) :
    StreamsInv { s with core := core' } := by
  refine ⟨?_, ?_, h.distinct, ?_⟩
  · intro call waiting hget hother other hmem
    have hvalue := OrdMap.mem_values_iff.2 ⟨call, hget⟩
    have hok := h.calls call waiting hget hother other hmem
    by_cases heq : other = identityId
    · subst heq
      exact hok.bare hmem (hopens waiting hvalue) hbare (hstored waiting hvalue hmem)
    · show CallOk core'.state (core'.view other) waiting
      rw [hstate, hviews other heq]
      exact hok
  · intro call waiting fallback hget hfallback
    have hvalue := OrdMap.mem_values_iff.2 ⟨call, hget⟩
    obtain ⟨hok, hrest⟩ := h.start call waiting fallback hget hfallback
    refine ⟨?_, hrest⟩
    cases waiting with
    | listing rows fb => exact hok.forget hviews hbare (hstored _ hvalue)
    | hydrating caller row at_ =>
      cases caller with
      | register => exact hok
      | attach => exact hok
      | start rest fb =>
        obtain ⟨hhydrates, hnew, hat⟩ := hok
        refine ⟨hhydrates.forget hviews hbare fun hmem =>
          hstored _ hvalue (List.mem_cons_of_mem _ hmem), hnew, ?_⟩
        by_cases heq : row.id = identityId
        · subst heq
          exact hat.bare (Bool.eq_false_iff.2 fun hopen => hopens _ hvalue ⟨rfl, hopen⟩) hbare
            (hstored _ hvalue List.mem_cons_self)
        · show AwaitOk false .starting (core'.view row.id) at_
          rw [hviews row.id heq]
          exact hat
    | _ => exact hok
  · intro hstarting other hnone
    show (core'.view other).Settled core'.state
    by_cases heq : other = identityId
    · exact heq ▸ hbare.settled _
    · rw [hviews other heq, hstate]
      exact h.free (hstate ▸ hstarting) other hnone

/-- The ids of a call that is none of `start`: one, or none before a row is there. -/
theorem Call.ids_cases {waiting : Call} (hother : waiting.fallback? = none) :
    waiting = .creating none ∨ ∃ identityId, waiting.ids = [identityId] := by
  cases waiting with
  | creating row =>
    cases row with
    | none => exact .inl rfl
    | some row => exact .inr ⟨row.id, rfl⟩
  | listing rows fallback => cases hother
  | hydrating caller row at_ =>
    cases caller with
    | start rest fallback => cases hother
    | register => exact .inr ⟨row.id, rfl⟩
    | attach => exact .inr ⟨row.id, rfl⟩
  | lookup identityId row => exact .inr ⟨identityId, rfl⟩
  | addressing identityId => exact .inr ⟨identityId, rfl⟩
  | detached identityId => exact .inr ⟨identityId, rfl⟩
  | removing identityId found => exact .inr ⟨identityId, rfl⟩

theorem get?_settle {call other : Nat} {after : Advance} {waiting : Call}
    (h : (s.settle call after).calls.get? other = some waiting) :
    (s.calls.get? other = some waiting ∧ other ≠ call) ∨
      (other = call ∧ after.next = some waiting) := by
  unfold CoreRuntime.settle at h
  cases hnext : after.next with
  | none =>
    rw [hnext] at h
    obtain ⟨hne, hold⟩ := OrdMap.get?_erase_eq_some h
    exact .inl ⟨hold, hne⟩
  | some next =>
    rw [hnext] at h
    rcases OrdMap.get?_set_eq_some h with ⟨rfl, rfl⟩ | ⟨hne, hold⟩
    · exact .inr ⟨rfl, rfl⟩
    · exact .inl ⟨hold, hne⟩

theorem get?_settle_of_ne {call other : Nat} {after : Advance} (hne : other ≠ call) :
    (s.settle call after).calls.get? other = s.calls.get? other := by
  unfold CoreRuntime.settle
  cases after.next with
  | none => exact OrdMap.get?_erase_of_ne _ hne
  | some next => exact OrdMap.get?_set_of_ne _ _ hne

theorem StreamsInv.resume_step {tr : List CoreEvent} (h : StreamsInv s)
    (hcustody : Custody tr s) {call : Nat} {reply : Reply} {waiting : Call}
    (hguard : s.Undisturbed (.resume call reply)) (hget : s.calls.get? call = some waiting) :
    StreamsInv (s.settle call (advance s.core call waiting reply)) := by
  cases hfallback : waiting.fallback? with
  | some fallback =>
    have hstarting := hcustody.starting.2
      ⟨call, (congrArg Option.isSome (CoreRuntime.startOf_of_get? hget)).trans
        (congrArg Option.isSome hfallback)⟩
    obtain ⟨hok, halone⟩ := h.start call waiting fallback hget hfallback
    -- nothing else is in flight
    have honly : ∀ other next, (s.settle call (advance s.core call waiting reply)).calls.get?
        other = some next → other = call ∧
          (advance s.core call waiting reply).next = some next := by
      intro other next hother
      rcases get?_settle hother with ⟨hold, hne⟩ | hnew
      · cases (halone other hne).symm.trans hold
      · exact hnew
    rcases advance_startKeeps hstarting hfallback hok with
      ⟨next, hnext, hsame, hstate, hstart⟩ | ⟨hnext, hsettled⟩
    · refine ⟨?_, ?_, ?_, fun hne => absurd hstate hne⟩
      · intro other next' hother hnone
        obtain ⟨-, heq⟩ := honly other next' hother
        rw [← Option.some.inj (hnext.symm.trans heq)] at hnone
        cases hsame.symm.trans hnone
      · intro other next' fb hother _
        obtain ⟨rfl, heq⟩ := honly other next' hother
        obtain rfl := Option.some.inj (hnext.symm.trans heq)
        exact ⟨hstart, fun other' hne => (get?_settle_of_ne hne).trans (halone other' hne)⟩
      · intro other other' next' next'' hother hother' _ _ _
        exact (honly other next' hother).1.trans (honly other' next'' hother').1.symm
    · have hempty : ∀ other next', (s.settle call (advance s.core call waiting reply)).calls.get?
          other ≠ some next' := by
        intro other next' hother
        cases hnext.symm.trans (honly other next' hother).2
      exact ⟨fun other next' hother => absurd hother (hempty other next'),
        fun other next' _ hother => absurd hother (hempty other next'),
        fun other _ next' _ hother => absurd hother (hempty other next'),
        fun _ identityId _ => hsettled identityId⟩
  | none =>
    have hstarting : s.core.state ≠ .starting := by
      intro hstate
      obtain ⟨call', hsome⟩ := hcustody.starting.1 hstate
      obtain ⟨fallback, hstart⟩ := Option.isSome_iff_exists.1 hsome
      obtain ⟨waiting', hget', hwaiting'⟩ := Option.bind_eq_some_iff.1 hstart
      -- the call would be the one of `start`, or not be there
      by_cases hsame : call = call'
      · subst hsame
        obtain rfl := Option.some.inj (hget.symm.trans hget')
        cases hfallback.symm.trans hwaiting'
      · cases ((h.start call' waiting' fallback hget' hwaiting').2 call hsame).symm.trans hget
    rcases Call.ids_cases hfallback with rfl | ⟨identityId, hids⟩
    · refine h.step_of hcustody hstarting (fun _ => False) call rfl (fun _ _ => rfl) ?_ ?_
        fun _ hfalse => hfalse.elim
      · intro other next hother
        rcases get?_settle hother with ⟨hold, hne⟩ | ⟨-, hnext⟩
        · exact .inl ⟨hold, hne, fun _ _ => not_false⟩
        · cases hnext
      · intro other next hother
        by_cases hne : other = call
        · subst hne
          obtain rfl := Option.some.inj (hget.symm.trans hother)
          exact .inr (List.forall_mem_nil _)
        · exact .inl ((get?_settle_of_ne hne).trans hother)
    · have hmem : identityId ∈ waiting.ids := hids ▸ List.mem_cons_self
      have hkeeps := advance_keeps call hfallback hids
        (h.calls call waiting hget hfallback identityId hmem) fun hopens =>
          hguard waiting hget hfallback ⟨identityId, hmem, hopens⟩
      refine h.step_of hcustody hstarting (· = identityId) call hkeeps.state
        (fun other hne => hkeeps.others other hne) ?_ ?_ ?_
      · intro other next hother
        rcases get?_settle hother with ⟨hold, hne⟩ | ⟨rfl, hnext⟩
        · refine .inl ⟨hold, hne, ?_⟩
          rintro id hmem' rfl
          exact hne (h.distinct other call next waiting hold hget id hmem' hmem)
        · obtain ⟨hother, hnextIds, hok⟩ := hkeeps.next next hnext
          refine .inr ⟨rfl, hother, fun id hid => ?_⟩
          obtain rfl := List.mem_singleton.1 (hnextIds ▸ hid)
          exact ⟨rfl, hok⟩
      · intro other next hother
        by_cases hne : other = call
        · subst hne
          obtain rfl := Option.some.inj (hget.symm.trans hother)
          exact .inr fun id hid => List.mem_singleton.1 (hids ▸ hid)
        · exact .inl ((get?_settle_of_ne hne).trans hother)
      · rintro id rfl hnobody
        refine hkeeps.ended (Option.eq_none_iff_forall_ne_some.2 fun next hnext => ?_)
        have hthere : (s.settle call (advance s.core call waiting reply)).calls.get? call =
            some next := by
          unfold CoreRuntime.settle
          rw [hnext]
          exact OrdMap.get?_set_self _ _ _
        exact hnobody call next hthere ((hkeeps.next next hnext).2.1 ▸ List.mem_cons_self)

/-- **Every undisturbed step keeps the invariant.** -/
theorem StreamsInv.step {tr es : List CoreEvent} {a : CoreAction} (h : StreamsInv s)
    (hcustody : Custody tr s) (hguard : s.Undisturbed a) (hstep : coreStep s a = some (s', es)) :
    StreamsInv s' := by
  cases a with
  | startLocal =>
    unfold coreStep at hstep
    dsimp only at hstep
    split at hstep <;> cases hstep
    · next hstate => exact h.startLocal_step hcustody hstate
    · exact h
  | start call =>
    unfold coreStep at hstep
    dsimp only at hstep
    split at hstep
    · cases hstep
    · split at hstep <;> cases hstep
      · next hstate => exact h.start_step hstate (hguard hstate) call _
      · exact h
  | stop =>
    unfold coreStep at hstep
    dsimp only at hstep
    split at hstep <;> cases hstep
    · exact h
    · next hstop => exact h.stop_step hcustody hguard hstop
  | register call identityId groupId label => exact h.register_step hcustody hguard hstep
  | attach call identityId => exact h.attach_step hcustody hguard hstep
  | detach identityId =>
    cases hstep
    obtain ⟨hbare, hstored⟩ := view_detach_self s.core identityId
    exact h.forget_step rfl (fun other hne => view_detach_of_ne s.core identityId hne) hbare hguard
      fun _ _ _ => hstored
  | unregisterManagedClient identityId =>
    cases hstep
    obtain ⟨hstreams, hopens⟩ := hguard
    refine h.forget_step rfl (fun other hne => view_erase_of_ne s.core identityId hne) ⟨?_, ?_⟩
      hopens fun _ _ _ => rfl
    · exact has_erase_self s.core.registry identityId
    · have hnone : s.core.streams.filter (·.identityId = identityId) = [] :=
        List.filter_eq_nil_iff.2 fun stream hmem heq => hstreams stream hmem (of_decide_eq_true heq)
      exact congrArg (List.map (·.kind)) hnone
  | removeIdentity identityId =>
    obtain ⟨hregistered, hnobody⟩ := hguard
    unfold coreStep at hstep
    dsimp only at hstep
    split at hstep <;> cases hstep
    · exact h
    · next store hstore =>
      have hstreams : (s.core.view identityId).streams = [] := by
        by_contra hne
        cases hregistered.symm.trans ((h.sound hcustody identityId).streams hne).1
      refine h.forget_step rfl (fun other hne => view_store s.core other ?_)
        ⟨hregistered, hstreams⟩ ?_ fun waiting hmem hid => absurd hid (hnobody waiting hmem)
      · rw [(SqliteIdentityStore.mem_ids_delete hstore).1]
        exact and_iff_left hne
      · -- a call that opens streams works on the identity
        intro waiting hmem hopens
        refine hnobody waiting hmem ?_
        cases waiting with
        | hydrating caller row at_ =>
          cases caller <;> exact hopens.1 ▸ List.mem_cons_self
        | _ => exact hopens.elim
  | resume call reply =>
    unfold coreStep at hstep
    dsimp only at hstep
    split at hstep <;> cases hstep
    next waiting hget => exact h.resume_step hcustody hguard hget

end Steps

/-! ### Undisturbed runs -/

theorem streamsInv_of_run {store : SqliteIdentityStore} {tr : List CoreEvent} {s : CoreRuntime}
    (hrun : Run (coreMachine store) CoreRuntime.Undisturbed tr s) : StreamsInv s := by
  refine Run.invariant (I := fun _ s => StreamsInv s) (StreamsInv.init store) ?_ hrun
  intro tr s a s' es hrun h hguard hstep
  exact h.step (custody_of_run hrun) hguard hstep

theorem mem_view_streams {core : SignetCore} {stream : CoreStream} :
    stream ∈ core.streams ↔ stream.kind ∈ (core.view stream.identityId).streams := by
  constructor
  · exact fun hmem => List.mem_map_of_mem (List.mem_filter.2 ⟨hmem, decide_eq_true rfl⟩)
  · intro hmem
    obtain ⟨other, hother, hkind⟩ := List.mem_map.1 hmem
    obtain ⟨hmem', hid⟩ := List.mem_filter.1 hother
    have heq : other = stream := by
      cases other
      cases stream
      exact congrArg₂ _ (of_decide_eq_true hid) hkind
    exact heq ▸ hmem'

theorem nodup_streams {core : SignetCore}
    (h : ∀ identityId, (core.view identityId).streams.Nodup) : core.streams.Nodup := by
  refine List.nodup_iff_sublist.2 fun stream hsub => ?_
  have hboth : [stream, stream].filter (·.identityId = stream.identityId) = [stream, stream] :=
    List.filter_eq_self.2 fun other hmem => by
      rcases List.mem_pair.1 hmem with rfl | rfl <;> exact decide_eq_true rfl
  have hpair := (hsub.filter (·.identityId = stream.identityId)).map (·.kind)
  rw [hboth] at hpair
  exact List.nodup_iff_sublist.1 (h stream.identityId) stream.kind hpair

/-- **Streams and registry agree** in every state that is reached undisturbed: the streams are
different, each belongs to a registered identity, and a registered identity is stored. A running
core has all streams of every registered identity that no call works on, and a core that neither
runs nor starts has aborted every stream it has opened. -/
theorem undisturbed_streams (store : SqliteIdentityStore) {tr : List CoreEvent} {s : CoreRuntime}
    (hrun : Run (coreMachine store) CoreRuntime.Undisturbed tr s) :
    s.core.streams.Nodup ∧
    (∀ stream ∈ s.core.streams, s.core.registry.has stream.identityId = true) ∧
    (∀ identityId, s.core.registry.has identityId = true → identityId ∈ s.core.store.ids ∧
      (s.core.state = .local ∨ s.core.state = .starting ∨ s.core.state = .running)) ∧
    (s.core.state = .running → ∀ identityId, s.core.registry.has identityId = true →
      (∀ waiting ∈ s.calls.values, identityId ∉ waiting.ids) →
        ∀ kind, ⟨identityId, kind⟩ ∈ s.core.streams) ∧
    (s.core.state ≠ .starting → s.core.state ≠ .running →
      ∀ stream, tr.count (.opened stream) = tr.count (.aborted stream)) := by
  have hcustody := custody_of_run hrun
  have hinv := streamsInv_of_run hrun
  have hsound := hinv.sound hcustody
  have hstreams : ∀ stream ∈ s.core.streams, s.core.registry.has stream.identityId = true ∧
      (s.core.state = .starting ∨ s.core.state = .running) := fun stream hmem =>
    (hsound stream.identityId).streams (List.ne_nil_of_mem (mem_view_streams.1 hmem))
  refine ⟨nodup_streams fun identityId => (hsound identityId).nodup,
    fun stream hmem => (hstreams stream hmem).1, ?_, ?_, ?_⟩
  · intro identityId hregistered
    obtain ⟨hstored, hstate⟩ := (hsound identityId).registered hregistered
    exact ⟨of_decide_eq_true hstored, hstate⟩
  · intro hstate identityId hregistered hnobody kind
    have hsettled := hinv.settled (by rw [hstate]; nofun) hnobody
    rcases hsettled.streams hregistered with ⟨hlocal, -⟩ | ⟨-, hall⟩
    · cases hstate.symm.trans hlocal
    · refine mem_view_streams.2 ?_
      show kind ∈ (s.core.view identityId).streams
      rw [hall]
      cases kind <;> decide
  · intro hstarting hrunning stream
    have hnone : s.core.streams.count stream = 0 := by
      refine List.count_eq_zero.2 fun hmem => ?_
      rcases (hstreams stream hmem).2 with h | h
      · exact hstarting h
      · exact hrunning h
    rw [hcustody.streams stream, hnone, Nat.zero_add]

def startsWithIdentity : List CoreAction :=
  [.startLocal, .register 0 "id_1" none none] ++ List.replicate 8 (.resume 0 (.ok "inbox")) ++
    [.start 1] ++ List.replicate 10 (.resume 1 (.ok "inbox"))

/-- An identity that was registered in a local core has its streams when the core runs. -/
theorem undisturbed_streams_started :
    ∃ tr s, Run (coreMachine .empty) CoreRuntime.Undisturbed tr s ∧ s.core.state = .running ∧
      ∀ kind, ⟨"id_1", kind⟩ ∈ s.core.streams := by
  obtain ⟨tr, s, hrun, htest⟩ := exists_run_of_exec (coreMachine .empty)
    (fun s a => s.Undisturbed a) startsWithIdentity
    (fun _ s => s.core.state = .running ∧ s.core.registry.has "id_1" = true ∧ s.calls.values = [])
    (by decide +kernel)
  obtain ⟨hstate, hregistered, hnone⟩ := of_decide_eq_true htest
  have hrun := hrun.mono fun _ _ h => of_decide_eq_true h
  refine ⟨tr, s, hrun, hstate, ?_⟩
  have hnobody : ∀ waiting ∈ s.calls.values, "id_1" ∉ waiting.ids := by
    rw [hnone]
    exact List.forall_mem_nil _
  exact (undisturbed_streams .empty hrun).2.2.2.1 hstate "id_1" hregistered hnobody

end Signet.Core
