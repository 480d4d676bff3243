import Mathlib.Data.List.Nodup
import Signet.Core.CoreCustody

/-!
# What the core holds of one identity

`IdentityView` is what the core holds of an identity: whether it is registered and stored, and which
streams it has. A call in flight promises something about the views of the identities it works on
(`CallOk`, and `StartOk` for `start`). It keeps its promise when it goes on, leaves a settled view
when it ends, and changes no other view (`advance_keeps`, `advance_startKeeps`).
-/

namespace Signet.Core

open Lib

/-! ### What the core holds of an identity -/

/-- What the core holds of an identity. -/
structure IdentityView where
  registered : Bool
  stored : Bool
  streams : List StreamKind

def SignetCore.view (core : SignetCore) (identityId : String) : IdentityView where
  registered := core.registry.has identityId
  stored := identityId ∈ core.store.ids
  streams := (core.streams.filter (·.identityId = identityId)).map (·.kind)

/-- Nothing is held but the row of the store. -/
structure IdentityView.Bare (v : IdentityView) : Prop where
  registered : v.registered = false
  streams : v.streams = []

/-- The streams are where they may be. -/
structure IdentityView.Sound (state : SignetState) (v : IdentityView) : Prop where
  nodup : v.streams.Nodup
  streams : v.streams ≠ [] → v.registered = true ∧ (state = .starting ∨ state = .running)
  registered : v.registered = true →
    v.stored = true ∧ (state = .local ∨ state = .starting ∨ state = .running)

/-- A registered identity has all its streams, or none in a local core. -/
structure IdentityView.Settled (state : SignetState) (v : IdentityView) : Prop where
  bare : v.registered = false → v.streams = []
  stored : v.registered = true → v.stored = true
  streams : v.registered = true →
    state = .local ∧ v.streams = [] ∨
      (state = .starting ∨ state = .running) ∧ v.streams = [.messages, .groups, .dms]

/-- The client is not registered for this call. -/
structure IdentityView.Waiting (fresh : Bool) (v : IdentityView) : Prop where
  stored : v.stored = true
  streams : v.streams = []
  fresh : fresh = true → v.registered = false

/-- The streams are being opened, in order. -/
structure IdentityView.Opening (state : SignetState) (v : IdentityView)
    (opened : List StreamKind) : Prop where
  registered : v.registered = true
  stored : v.stored = true
  state : state = .starting ∨ state = .running
  streams : v.streams = opened

namespace IdentityView

variable {state : SignetState} {v : IdentityView}

theorem Bare.settled (h : v.Bare) (state : SignetState) : v.Settled state where
  bare _ := h.streams
  stored hregistered := absurd (h.registered.symm.trans hregistered) Bool.false_ne_true
  streams hregistered := absurd (h.registered.symm.trans hregistered) Bool.false_ne_true

theorem Bare.sound (h : v.Bare) (state : SignetState) : v.Sound state where
  nodup := h.streams ▸ List.nodup_nil
  streams hne := absurd h.streams hne
  registered hregistered := absurd (h.registered.symm.trans hregistered) Bool.false_ne_true

theorem Settled.sound (h : v.Settled state) : v.Sound state := by
  cases hregistered : v.registered with
  | false => exact Bare.sound ⟨hregistered, h.bare hregistered⟩ state
  | true =>
    have hstored := h.stored hregistered
    rcases h.streams hregistered with ⟨hlocal, hnone⟩ | ⟨hrun, hall⟩
    · exact ⟨hnone ▸ List.nodup_nil, fun hne => absurd hnone hne,
        fun _ => ⟨hstored, .inl hlocal⟩⟩
    · exact ⟨hall ▸ by decide, fun _ => ⟨hregistered, hrun⟩, fun _ => ⟨hstored, .inr hrun⟩⟩

/-- An identity that is not stored is not registered. -/
theorem Settled.bare_of_not_stored (h : v.Settled state) (hstored : v.stored = false) : v.Bare := by
  have hregistered : v.registered = false := by
    refine Bool.eq_false_iff.2 fun hregistered => ?_
    cases hstored.symm.trans (h.stored hregistered)
  exact ⟨hregistered, h.bare hregistered⟩

theorem Opening.sound {opened : List StreamKind} (h : v.Opening state opened)
    (hnodup : opened.Nodup) : v.Sound state where
  nodup := h.streams ▸ hnodup
  streams _ := ⟨h.registered, h.state⟩
  registered _ := ⟨h.stored, .inr h.state⟩

theorem Waiting.bare (h : v.Waiting true) : v.Bare := ⟨h.fresh rfl, h.streams⟩

/-- While the core starts, an identity may be registered already. -/
theorem Waiting.sound {fresh : Bool} (h : v.Waiting fresh)
    (hstate : fresh = false → state = .starting) : v.Sound state := by
  cases fresh with
  | true => exact h.bare.sound state
  | false =>
    exact ⟨h.streams ▸ List.nodup_nil, fun hne => absurd h.streams hne,
      fun _ => ⟨h.stored, .inr (.inl (hstate rfl))⟩⟩

end IdentityView

/-! ### Views after a change -/

theorem has_erase (registry : OrdMap String String) (identityId other : String) :
    (registry.erase identityId).has other = (registry.has other && identityId ≠ other) := by
  refine Bool.eq_iff_iff.2 ?_
  rw [OrdMap.has_erase_iff, Bool.and_eq_true, decide_eq_true_iff, and_comm, ne_comm]

theorem has_erase_self (registry : OrdMap String String) (identityId : String) :
    (registry.erase identityId).has identityId = false := by
  rw [has_erase, decide_eq_false (not_not_intro rfl), Bool.and_false]

section Views

variable (core : SignetCore) (identityId : String)

@[simp] theorem view_register_self (inboxId : String) :
    (core.register identityId inboxId).view identityId =
      { core.view identityId with registered := true } := by
  have hhas : (core.registry.set identityId inboxId).has identityId = true :=
    OrdMap.has_set_iff.2 (.inl rfl)
  unfold SignetCore.view SignetCore.register
  rw [hhas]

theorem view_register_of_ne (inboxId : String) {other : String} (h : other ≠ identityId) :
    (core.register identityId inboxId).view other = core.view other := by
  have hhas : (core.registry.set identityId inboxId).has other = core.registry.has other :=
    Bool.eq_iff_iff.2 (OrdMap.has_set_iff.trans (or_iff_right h))
  unfold SignetCore.view SignetCore.register
  rw [hhas]

@[simp] theorem view_push_self (kind : StreamKind) :
    (core.push ⟨identityId, kind⟩).view identityId =
      { core.view identityId with streams := (core.view identityId).streams ++ [kind] } := by
  unfold SignetCore.view SignetCore.push
  simp [List.filter_append]

theorem view_push_of_ne (kind : StreamKind) {other : String} (h : other ≠ identityId) :
    (core.push ⟨identityId, kind⟩).view other = core.view other := by
  unfold SignetCore.view SignetCore.push
  simp [List.filter_append, h.symm]

theorem view_detach_self :
    ((core.detach identityId).1.view identityId).Bare ∧
      ((core.detach identityId).1.view identityId).stored = (core.view identityId).stored := by
  refine ⟨⟨?_, ?_⟩, rfl⟩
  · exact has_erase_self core.registry identityId
  · unfold SignetCore.view SignetCore.detach
    dsimp only
    rw [List.map_eq_nil_iff, List.filter_filter, List.filter_eq_nil_iff]
    intro stream _ hboth
    obtain ⟨heq, hne⟩ := Bool.and_eq_true_iff.1 hboth
    exact of_decide_eq_true hne (of_decide_eq_true heq)

theorem view_erase_of_ne {other : String} (h : other ≠ identityId) :
    ({ core with registry := core.registry.erase identityId } : SignetCore).view other =
      core.view other := by
  unfold SignetCore.view
  rw [has_erase, decide_eq_true h.symm, Bool.and_true]

theorem view_detach_of_ne {other : String} (h : other ≠ identityId) :
    (core.detach identityId).1.view other = core.view other := by
  refine Eq.trans ?_ (view_erase_of_ne core identityId h)
  unfold SignetCore.view SignetCore.detach
  dsimp only
  rw [List.filter_filter]
  congr 2
  refine List.filter_congr fun stream _ => ?_
  by_cases heq : stream.identityId = other
  · rw [decide_eq_true heq, Bool.true_and]
    exact decide_eq_true (heq ▸ h)
  · rw [decide_eq_false heq, Bool.false_and]

theorem view_clear_bare {core : SignetCore} (hstreams : core.streams = [])
    (hregistry : core.registry = .empty) (identityId : String) : (core.view identityId).Bare := by
  unfold SignetCore.view
  rw [hstreams, hregistry]
  exact ⟨rfl, rfl⟩

theorem view_store {store : SqliteIdentityStore}
    (h : identityId ∈ store.ids ↔ identityId ∈ core.store.ids) :
    ({ core with store := store } : SignetCore).view identityId = core.view identityId := by
  unfold SignetCore.view
  simp only [h]

end Views

/-! ### What a call promises -/

/-- The streams of the identity are being opened. -/
def Await.opens : Await → Bool
  | .syncAll | .listGroups | .streamAllMessages | .streamGroups | .streamDms => true
  | _ => false

/-- What holds of the identity at an await of `hydrateIdentity`. -/
def AwaitOk (fresh : Bool) (state : SignetState) (v : IdentityView) : Await → Prop
  | .getDbEncryptionKey | .getXmtpIdentityKey | .createClient | .inboxLookup _ _
  | .inboxUpdate _ _ => v.Waiting fresh
  | .syncAll | .listGroups | .streamAllMessages => v.Opening state []
  | .streamGroups => v.Opening state [.messages]
  | .streamDms => v.Opening state [.messages, .groups]
  | .returned true => v.Settled state
  | .returned false => v.Sound state

/-- The identities that a call works on. -/
def Call.ids : Call → List String
  | .creating row => row.toList.map (·.id)
  | .lookup identityId _ => [identityId]
  | .listing rows _ => rows.map (·.id)
  | .hydrating (.start rest _) row _ => row.id :: rest.map (·.id)
  | .hydrating _ row _ => [row.id]
  | .addressing identityId | .detached identityId | .removing identityId _ => [identityId]

/-- What a call that is none of `start` promises of its identity. -/
def CallOk (state : SignetState) (v : IdentityView) : Call → Prop
  | .creating _ => v.Waiting true
  | .lookup identityId row =>
    v.Bare ∧ ∀ found, row = some found → found.id = identityId ∧ v.stored = true
  | .listing _ _ => False
  | .hydrating caller _ at_ => caller.fallback? = none ∧ AwaitOk true state v at_
  | .addressing _ => v.Settled state
  | .detached _ | .removing _ _ => v.Bare

def Call.Opens (identityId : String) : Call → Prop
  | .hydrating _ row at_ => row.id = identityId ∧ at_.opens = true
  | _ => False

instance (identityId : String) : ∀ waiting : Call, Decidable (waiting.Opens identityId)
  | .hydrating _ row at_ => inferInstanceAs (Decidable (row.id = identityId ∧ at_.opens = true))
  | .creating _ | .lookup _ _ | .listing _ _ | .addressing _ | .detached _ | .removing _ _ =>
    inferInstanceAs (Decidable False)

/-- What holds at an await that opens no streams still holds if only the row is left. -/
theorem AwaitOk.bare {fresh : Bool} {state state' : SignetState} {v v' : IdentityView}
    {at_ : Await} (h : AwaitOk fresh state v at_) (hopens : at_.opens = false) (hbare : v'.Bare)
    (hstored : v'.stored = v.stored) : AwaitOk fresh state' v' at_ := by
  have hwaiting : v.Waiting fresh → v'.Waiting fresh :=
    fun hw => ⟨hstored.trans hw.stored, hbare.streams, fun _ => hbare.registered⟩
  cases at_ with
  | syncAll => cases hopens
  | listGroups => cases hopens
  | streamAllMessages => cases hopens
  | streamGroups => cases hopens
  | streamDms => cases hopens
  | returned ok =>
    cases ok with
    | true => exact hbare.settled state'
    | false => exact hbare.sound state'
  | _ => exact hwaiting h

theorem CallOk.bare {state state' : SignetState} {v v' : IdentityView} {waiting : Call}
    {identityId : String} (hid : identityId ∈ waiting.ids) (h : CallOk state v waiting)
    (hopens : ¬ waiting.Opens identityId) (hbare : v'.Bare) (hstored : v'.stored = v.stored) :
    CallOk state' v' waiting := by
  cases waiting with
  | creating row => exact ⟨hstored.trans h.stored, hbare.streams, fun _ => hbare.registered⟩
  | lookup other row => exact ⟨hbare, fun found hfound => ⟨(h.2 found hfound).1,
      hstored.trans (h.2 found hfound).2⟩⟩
  | listing rows fallback => exact h
  | hydrating caller row at_ =>
    obtain ⟨hother, hok⟩ := h
    -- such a call works on the one identity
    have hrow : row.id = identityId := by
      cases caller with
      | start rest fallback => cases hother
      | register => exact (List.mem_singleton.1 hid).symm
      | attach => exact (List.mem_singleton.1 hid).symm
    exact ⟨hother, hok.bare (Bool.eq_false_iff.2 fun h => hopens ⟨hrow, h⟩) hbare hstored⟩
  | addressing other => exact hbare.settled state'
  | detached other => exact hbare
  | removing other found => exact hbare

theorem AwaitOk.sound {fresh : Bool} {state : SignetState} {v : IdentityView} {at_ : Await}
    (h : AwaitOk fresh state v at_) (hstate : fresh = false → state = .starting) :
    v.Sound state := by
  cases at_ with
  | syncAll => exact IdentityView.Opening.sound h List.nodup_nil
  | listGroups => exact IdentityView.Opening.sound h List.nodup_nil
  | streamAllMessages => exact IdentityView.Opening.sound h List.nodup_nil
  | streamGroups => exact IdentityView.Opening.sound h (by decide)
  | streamDms => exact IdentityView.Opening.sound h (by decide)
  | returned ok =>
    cases ok with
    | true => exact IdentityView.Settled.sound h
    | false => exact h
  | _ => exact IdentityView.Waiting.sound h hstate

theorem CallOk.sound {state : SignetState} {v : IdentityView} {waiting : Call}
    (h : CallOk state v waiting) : v.Sound state := by
  cases waiting with
  | creating row => exact IdentityView.Waiting.sound h nofun
  | lookup other row => exact h.1.sound state
  | listing rows fallback => exact h.elim
  | hydrating caller row at_ => exact h.2.sound nofun
  | addressing other => exact IdentityView.Settled.sound h
  | detached other => exact IdentityView.Bare.sound h state
  | removing other found => exact IdentityView.Bare.sound h state

/-! ### One call goes on -/

/-- The call is none of `start`. -/
def Caller.fresh (caller : Caller) : Bool := caller.fallback?.isNone

section Hydrate

variable {core : SignetCore} {call : Nat} {caller : Caller} {row : IdentityRow}

/-- The call throws, or goes on to an await at which the promise holds; it touches nobody else. -/
def HydrateOk (core : SignetCore) (call : Nat) (caller : Caller) (row : IdentityRow)
    (thrown : Prop) (after : Advance) : Prop :=
  (after = throwOut core call caller ∧ thrown) ∨
    ∃ core' at_ es, after = ⟨core', some (.hydrating caller row at_), es⟩ ∧
      core'.state = core.state ∧ (∀ other, other ≠ row.id → core'.view other = core.view other) ∧
      AwaitOk caller.fresh core.state (core'.view row.id) at_

/-- The next await follows at once. -/
theorem hydrateOk_next {thrown : Prop} (next : Await)
    (h : AwaitOk caller.fresh core.state (core.view row.id) next) :
    HydrateOk core call caller row thrown ⟨core, some (.hydrating caller row next), []⟩ :=
  .inr ⟨core, next, [], rfl, rfl, fun _ _ => rfl, h⟩

theorem registerClient_ok {thrown : Prop} (inboxId : String)
    (hstate : caller.fresh = false → core.state = .starting)
    (h : (core.view row.id).Waiting caller.fresh) :
    HydrateOk core call caller row thrown (registerClient core caller row inboxId) := by
  unfold registerClient
  split_ifs with honline hlocal
  · refine .inr ⟨_, _, _, rfl, rfl, fun other hne => view_register_of_ne core _ inboxId hne, ?_⟩
    rw [view_register_self]
    exact ⟨rfl, h.stored, honline.symm, h.streams⟩
  · refine .inr ⟨_, _, _, rfl, rfl, fun other hne => view_register_of_ne core _ inboxId hne, ?_⟩
    rw [view_register_self]
    exact ⟨nofun, fun _ => h.stored, fun _ => .inl ⟨hlocal, h.streams⟩⟩
  · -- a core that serves nobody: the call is none of `start`
    cases hfresh : caller.fresh with
    | true =>
      have hbare : (core.view row.id).Bare := (hfresh ▸ h).bare
      exact hydrateOk_next (.returned true) (hbare.settled core.state)
    | false => exact absurd (.inr (hstate hfresh)) honline

theorem clientCreated_ok {thrown : Prop} (inboxId : String)
    (hstate : caller.fresh = false → core.state = .starting)
    (h : (core.view row.id).Waiting caller.fresh) (hthrown : thrown) :
    HydrateOk core call caller row thrown (clientCreated core call caller row inboxId) := by
  unfold clientCreated
  split
  · split
    · exact .inl ⟨rfl, hthrown⟩
    · exact hydrateOk_next _ h
  · exact registerClient_ok inboxId hstate h

theorem streamOpened_ok {thrown : Prop} {opened : List StreamKind} (kind : StreamKind)
    {next : Await} (h : (core.view row.id).Opening core.state opened)
    (hnext : ∀ v : IdentityView, v.Opening core.state (opened ++ [kind]) →
      AwaitOk caller.fresh core.state v next) :
    HydrateOk core call caller row thrown (streamOpened core caller row kind next) := by
  refine .inr ⟨_, _, _, rfl, rfl, fun other hne => view_push_of_ne core row.id kind hne, ?_⟩
  apply hnext
  rw [view_push_self]
  exact ⟨h.registered, h.stored, h.state, congrArg (· ++ [kind]) h.streams⟩

/-- An await of the environment: an exception, an error, or what follows. -/
def hydrateReply (core : SignetCore) (call : Nat) (caller : Caller) (row : IdentityRow)
    (after : String → Advance) : Reply → Advance
  | .thrown => throwOut core call caller
  | .err => ⟨core, some (.hydrating caller row (.returned false)), []⟩
  | .ok inboxId => after inboxId

variable (call caller) in
/-- **A stretch of `hydrateIdentity`** keeps the promise and touches nobody else. -/
theorem hydrate_ok {at_ : Await} (reply : Reply) (hat : ∀ ok, at_ ≠ .returned ok)
    (hstate : caller.fresh = false → core.state = .starting)
    (h : AwaitOk caller.fresh core.state (core.view row.id) at_) :
    HydrateOk core call caller row (at_.opens = true → reply = .thrown)
      (hydrate core call caller row at_ reply) := by
  have herr : HydrateOk core call caller row (at_.opens = true → reply = .thrown)
      ⟨core, some (.hydrating caller row (.returned false)), []⟩ :=
    hydrateOk_next _ (h.sound hstate)
  have hreply : ∀ {after : String → Advance},
      (∀ inboxId, HydrateOk core call caller row (at_.opens = true → reply = .thrown)
        (after inboxId)) →
      HydrateOk core call caller row (at_.opens = true → reply = .thrown)
        (hydrateReply core call caller row after reply) := by
    intro after hafter
    cases reply with
    | thrown => exact .inl ⟨rfl, fun _ => rfl⟩
    | err => exact herr
    | ok inboxId => exact hafter inboxId
  cases at_ with
  | returned ok => exact absurd rfl (hat ok)
  | inboxLookup inboxId found =>
    unfold hydrate
    dsimp only
    split
    · split
      · exact .inl ⟨rfl, nofun⟩
      · next store hstore =>
        have hids : ∀ other, other ∈ store.ids ↔ other ∈ core.store.ids := fun other => by
          rw [(SqliteIdentityStore.ids_updateInboxId hstore).1]
        refine .inr ⟨_, _, _, rfl, rfl, fun other _ => view_store core other (hids other), ?_⟩
        rw [view_store core row.id (hids row.id)]
        exact h
    · exact hydrateOk_next _ h
  | inboxUpdate inboxId stored =>
    unfold hydrate
    dsimp only
    split
    · exact registerClient_ok inboxId hstate h
    · exact herr
  | getDbEncryptionKey => exact hreply fun _ => hydrateOk_next .getXmtpIdentityKey h
  | getXmtpIdentityKey => exact hreply fun _ => hydrateOk_next .createClient h
  | createClient => exact hreply fun inboxId => clientCreated_ok inboxId hstate h nofun
  | syncAll => exact hreply fun _ => hydrateOk_next .listGroups h
  | listGroups => exact hreply fun _ => hydrateOk_next .streamAllMessages h
  | streamAllMessages => exact hreply fun _ => streamOpened_ok .messages h fun _ hv => hv
  | streamGroups => exact hreply fun _ => streamOpened_ok .groups h fun _ hv => hv
  | streamDms =>
    refine hreply fun _ => streamOpened_ok .dms h fun v hv =>
      ⟨fun hnot => ?_, fun _ => hv.stored, fun _ => .inr ⟨hv.state, hv.streams⟩⟩
    exact absurd (hnot.symm.trans hv.registered) Bool.false_ne_true

end Hydrate

/-- What a call leaves behind for its identity, at its next await or at its end. -/
structure Advance.Keeps (core : SignetCore) (identityId : String) (after : Advance) : Prop where
  state : after.core.state = core.state
  others : ∀ other, other ≠ identityId → after.core.view other = core.view other
  ended : after.next = none → (after.core.view identityId).Settled core.state
  next : ∀ waiting, after.next = some waiting → waiting.fallback? = none ∧
    waiting.ids = [identityId] ∧ CallOk core.state (after.core.view identityId) waiting

section Keeps

variable {core : SignetCore} {call : Nat} {identityId : String}

/-- The call ends and the identity is settled. -/
theorem keeps_ended {es : List CoreEvent} (h : (core.view identityId).Settled core.state) :
    Advance.Keeps core identityId ⟨core, none, es⟩ :=
  ⟨rfl, fun _ _ => rfl, fun _ => h, nofun⟩

theorem keeps_next {es : List CoreEvent} {waiting : Call} (hfallback : waiting.fallback? = none)
    (hids : waiting.ids = [identityId]) (h : CallOk core.state (core.view identityId) waiting) :
    Advance.Keeps core identityId ⟨core, some waiting, es⟩ :=
  ⟨rfl, fun _ _ => rfl, nofun, fun _ hnext => Option.some.inj hnext ▸ ⟨hfallback, hids, h⟩⟩

theorem keeps_detach {next : Option Call} {es : List CoreEvent}
    (hnext : ∀ waiting, next = some waiting → waiting = .detached identityId) :
    Advance.Keeps core identityId ⟨(core.detach identityId).1, next, es⟩ where
  state := rfl
  others _ hne := view_detach_of_ne core identityId hne
  ended _ := (view_detach_self core identityId).1.settled core.state
  next waiting hsome := by
    obtain rfl := hnext waiting hsome
    exact ⟨rfl, rfl, (view_detach_self core identityId).1⟩

theorem hydrated_keeps {caller : Caller} {row : IdentityRow} {ok : Bool}
    (hother : caller.fallback? = none)
    (h : AwaitOk true core.state (core.view row.id) (.returned ok)) :
    Advance.Keeps core row.id (hydrated core call caller row ok) := by
  cases caller with
  | start rest fallback => cases hother
  | register =>
    cases ok with
    | true => exact keeps_next rfl rfl h
    | false => exact keeps_detach fun _ hsome => (Option.some.inj hsome).symm
  | attach =>
    cases ok with
    | true => exact keeps_ended h
    | false => exact keeps_detach nofun

variable (call) in
/-- **A call that is none of `start` goes on.** -/
theorem advance_keeps {waiting : Call} {reply : Reply} (hother : waiting.fallback? = none)
    (hids : waiting.ids = [identityId]) (h : CallOk core.state (core.view identityId) waiting)
    (hthrown : waiting.Opens identityId → reply ≠ .thrown) :
    (advance core call waiting reply).Keeps core identityId := by
  cases waiting with
  | creating row =>
    cases row with
    | none => cases hids
    | some row =>
      obtain rfl := (List.cons.inj hids).1
      exact keeps_next rfl rfl ⟨rfl, h⟩
  | lookup other row =>
    obtain rfl := (List.cons.inj hids).1
    cases row with
    | none => exact keeps_ended (h.1.settled core.state)
    | some row =>
      obtain ⟨hrow, hstored⟩ := h.2 row rfl
      refine keeps_next rfl (congrArg ([·]) hrow) ⟨rfl, ?_⟩
      exact ⟨hstored, h.1.streams, fun _ => h.1.registered⟩
  | listing rows fallback => exact h.elim
  | hydrating caller row at_ =>
    obtain ⟨hcaller, hok⟩ := h
    have hrow : [row.id] = [identityId] := by
      cases caller with
      | start rest fallback => cases hcaller
      | register => exact hids
      | attach => exact hids
    obtain rfl := (List.cons.inj hrow).1
    have hfresh : caller.fresh = true := Option.isNone_iff_eq_none.2 hcaller
    by_cases hat : ∃ ok, at_ = .returned ok
    · obtain ⟨ok, rfl⟩ := hat
      exact hydrated_keeps hcaller hok
    · have hstep := hydrate_ok call caller reply (fun ok heq => hat ⟨ok, heq⟩)
        (fun hnot => absurd (hfresh.symm.trans hnot).symm Bool.false_ne_true) (hfresh ▸ hok)
      rcases hstep with ⟨hthrow, hwhen⟩ | ⟨core', next, es, heq, hstate, hothers, hnext⟩
      · -- a call throws only where it opens no streams
        have hopens : at_.opens = false :=
          Bool.eq_false_iff.2 fun hopens => hthrown ⟨rfl, hopens⟩ (hwhen hopens)
        have hbare : (core.view row.id).Settled core.state := by
          cases at_ with
          | returned ok => exact absurd ⟨ok, rfl⟩ hat
          | syncAll => cases hopens
          | listGroups => cases hopens
          | streamAllMessages => cases hopens
          | streamGroups => cases hopens
          | streamDms => cases hopens
          | _ => exact (IdentityView.Waiting.bare hok).settled core.state
        have hended : throwOut core call caller = ⟨core, none, [.threw call]⟩ := by
          cases caller with
          | start rest fallback => cases hcaller
          | register => rfl
          | attach => rfl
        unfold advance
        dsimp only
        rw [hthrow, hended]
        exact keeps_ended hbare
      · unfold advance
        dsimp only
        rw [heq]
        refine ⟨hstate, hothers, nofun, fun _ hsome => Option.some.inj hsome ▸ ⟨hcaller, ?_, ?_⟩⟩
        · cases caller with
          | start rest fallback => cases hcaller
          | register => rfl
          | attach => rfl
        · exact ⟨hcaller, hfresh ▸ hnext⟩
  | addressing other =>
    obtain rfl := (List.cons.inj hids).1
    cases reply with
    | ok inboxId => exact keeps_ended h
    | err => exact keeps_detach fun _ hsome => (Option.some.inj hsome).symm
    | thrown => exact keeps_ended h
  | detached other =>
    obtain rfl := (List.cons.inj hids).1
    unfold advance
    dsimp only
    split
    · exact keeps_ended (IdentityView.Bare.settled h core.state)
    · exact keeps_next rfl rfl h
  | removing other found =>
    obtain rfl := (List.cons.inj hids).1
    have hended := IdentityView.Bare.settled h core.state
    unfold advance
    dsimp only
    split
    · split
      · exact keeps_ended hended
      · next store hstore =>
        -- the row of the identity is deleted
        have hbare : (({ core with store := store } : SignetCore).view other).Bare :=
          ⟨h.registered, h.streams⟩
        refine ⟨rfl, fun other hne => view_store core other ?_,
          fun _ => hbare.settled core.state, nofun⟩
        rw [(SqliteIdentityStore.mem_ids_delete hstore).1]
        exact and_iff_left hne
    · exact keeps_ended hended

end Keeps

/-! ### The start goes on -/

/-- The identities that a start has yet to hydrate, and those it is done with. -/
structure Hydrates (core : SignetCore) (rest : List IdentityRow) (current : Option String) :
    Prop where
  nodup : (rest.map (·.id)).Nodup
  pending : ∀ row ∈ rest, (core.view row.id).Waiting false
  done : ∀ identityId, (∀ row ∈ rest, row.id ≠ identityId) → current ≠ some identityId →
    (core.view identityId).Settled .starting

/-- What a call of `start` promises. -/
def StartOk (core : SignetCore) : Call → Prop
  | .listing rows _ => Hydrates core rows none
  | .hydrating (.start rest _) row at_ =>
    Hydrates core rest (some row.id) ∧ (∀ other ∈ rest, other.id ≠ row.id) ∧
      AwaitOk false .starting (core.view row.id) at_
  | _ => False

/-- The start goes on, or it ends with all identities settled. -/
def StartKeeps (fallback : SignetState) (after : Advance) : Prop :=
  (∃ waiting, after.next = some waiting ∧ waiting.fallback? = some fallback ∧
      after.core.state = .starting ∧ StartOk after.core waiting) ∨
    after.next = none ∧ ∀ identityId, (after.core.view identityId).Settled after.core.state

section Start

variable {core : SignetCore} {call : Nat} {fallback : SignetState}

/-- A start that fails leaves rows only. -/
theorem failStart_keeps (core : SignetCore) (call : Nat) (fallback : SignetState) :
    StartKeeps fallback
      (finish (core.failStart fallback).1 call false (core.failStart fallback).2) :=
  .inr ⟨rfl, fun identityId => (view_clear_bare rfl rfl identityId).settled fallback⟩

theorem startNext_keeps {rest : List IdentityRow} (hstate : core.state = .starting)
    (h : Hydrates core rest none) :
    StartKeeps fallback (startNext core call rest fallback) := by
  cases rest with
  | nil =>
    -- all are done, and what is settled while starting is settled while running
    refine .inr ⟨rfl, fun identityId => ?_⟩
    have hdone := h.done identityId (List.forall_mem_nil _) nofun
    refine ⟨hdone.bare, hdone.stored, fun hregistered => .inr ⟨.inr rfl, ?_⟩⟩
    rcases hdone.streams hregistered with ⟨hlocal, -⟩ | ⟨-, hall⟩
    · cases hlocal
    · exact hall
  | cons row rest =>
    obtain ⟨hnew, hnodup⟩ := List.nodup_cons.1 h.nodup
    obtain ⟨hrow, hrest⟩ := List.forall_mem_cons.1 h.pending
    refine .inl ⟨_, rfl, rfl, hstate, ⟨hnodup, hrest, fun identityId hother hcurrent => ?_⟩,
      ?_, hrow⟩
    · refine h.done identityId (List.forall_mem_cons.2 ⟨?_, hother⟩) nofun
      exact fun heq => hcurrent (congrArg some heq)
    · exact fun other hmem heq => hnew (List.mem_map.2 ⟨other, hmem, heq⟩)

theorem Hydrates.finished {rest : List IdentityRow} {identityId : String}
    (h : Hydrates core rest (some identityId))
    (hsettled : (core.view identityId).Settled .starting) : Hydrates core rest none := by
  refine ⟨h.nodup, h.pending, fun other hother _ => ?_⟩
  by_cases heq : other = identityId
  · exact heq ▸ hsettled
  · exact h.done other hother fun hsome => heq (Option.some.inj hsome).symm

theorem Hydrates.congr {core' : SignetCore} {rest : List IdentityRow} {identityId : String}
    (h : Hydrates core rest (some identityId)) (hnew : ∀ other ∈ rest, other.id ≠ identityId)
    (hviews : ∀ other, other ≠ identityId → core'.view other = core.view other) :
    Hydrates core' rest (some identityId) := by
  refine ⟨h.nodup, fun row hmem => ?_, fun other hother hcurrent => ?_⟩
  · rw [hviews row.id (hnew row hmem)]
    exact h.pending row hmem
  · rw [hviews other fun heq => hcurrent (congrArg some heq.symm)]
    exact h.done other hother hcurrent

/-- **A call of `start` goes on.** -/
theorem advance_startKeeps {waiting : Call} {reply : Reply} (hstate : core.state = .starting)
    (hfallback : waiting.fallback? = some fallback) (h : StartOk core waiting) :
    StartKeeps fallback (advance core call waiting reply) := by
  cases waiting with
  | listing rows fb =>
    obtain rfl := Option.some.inj hfallback
    exact startNext_keeps hstate h
  | hydrating caller row at_ =>
    cases caller with
    | register => cases hfallback
    | attach => cases hfallback
    | start rest fb =>
      obtain rfl := Option.some.inj hfallback
      obtain ⟨hhydrates, hnew, hok⟩ := h
      by_cases hat : ∃ ok, at_ = .returned ok
      · obtain ⟨ok, rfl⟩ := hat
        cases ok with
        | true => exact startNext_keeps hstate (hhydrates.finished hok)
        | false => exact failStart_keeps core call fb
      · have hstep := hydrate_ok call (.start rest fb) reply (fun ok heq => hat ⟨ok, heq⟩)
          (fun _ => hstate) (hstate ▸ hok)
        rcases hstep with ⟨hthrow, -⟩ | ⟨core', next, es, heq, hsame, hothers, hnext⟩
        · unfold advance
          dsimp only
          rw [hthrow]
          exact failStart_keeps core call fb
        · unfold advance
          dsimp only
          rw [heq]
          exact .inl ⟨_, rfl, rfl, hsame.trans hstate, hhydrates.congr hnew hothers, hnew,
            hstate ▸ hnext⟩
  | _ => exact h.elim

end Start

end Signet.Core
