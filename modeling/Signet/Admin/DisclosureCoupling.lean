import Signet.Admin.ElevationApproval
import Signet.Lib.Machine

/-!
# Elevation and disclosure

`clockedElevation` runs the elevation manager and remembers the time. The store keeps one
disclosure for each session and chat, but several approvals of the same session and chat can
overlap, and each one that fails takes the one disclosure back. So an elevation can stay cached
while nothing is disclosed for it (`cached_undisclosed`).

A step `sparesOthers` if the disclosure that it withdraws or sets back belongs to no
other elevation that is live, cached or about to be returned. In a run of such steps
elevation and disclosure stay coupled (`elevation_disclosure_coupled`). The argument is
`CouplingInv`: every holder of an elevation, the cache or a call in flight, is backed by
the store while the elevation is live. A new approval may overwrite the disclosure of
an older holder, because it lasts at least as long: all of them last until at most
`clock + ttlMs`.
-/

namespace Signet

open Lib

variable {κ : Type}

/-! ### The manager and the clock -/

/-- The clock reading of an action, if its segment reads the clock. -/
def ElevationAction.time? : ElevationAction κ → Option Time
  | .resolve _ _ _ now => some now
  | .timer _ _ now => some now
  | .authorized _ _ => none
  | .fingerprint _ _ _ now => some now
  | .notified _ _ now => some now
  | .audited _ _ now => some now

/-- The manager and the time of the last segment. -/
structure ClockedElevation (κ : Type) where
  manager : ElevationState κ
  clock : Time

/-- The time of the segment that an action runs. -/
def ClockedElevation.timeOf (s : ClockedElevation κ) (a : ElevationAction κ) : Time :=
  a.time?.getD s.clock

/-- **The elevation manager with its clock.** -/
def clockedElevation (κ : Type) (ttlMs : Nat) :
    Machine (ClockedElevation κ) (ElevationAction κ) (ElevationEvent κ) where
  init := ⟨.init, 0⟩
  step s a :=
    (elevationStep ttlMs s.manager a).map fun (manager, es) => (⟨manager, s.timeOf a⟩, es)

structure Coupled (tr : List (ElevationEvent κ)) (s : ClockedElevation κ) : Prop where
  /-- A cached elevation is disclosed for its chat until it expires. -/
  disclosed : ∀ key cached now, s.manager.cache.get? key = some cached → s.clock ≤ now →
    now < cached.elevation.expiresAt →
    ∃ disclosure, (s.manager.disclosureStore.get cached.chatId now).1 = some disclosure ∧
      cached.elevation.expiresAt ≤ disclosure.expiresAt
  /-- A disclosure for a session and chat ends with an elevation approved for them. -/
  bounded : ∀ chatId sessionKey disclosure,
    s.manager.disclosureStore.disclosed? chatId sessionKey = some disclosure →
    ∃ cached : CachedElevation, cached.Approved tr ∧ cached.chatId = chatId ∧
      cached.session.sessionKey = sessionKey ∧
      disclosure.expiresAt ≤ cached.elevation.expiresAt

/-! ### Holders and withdrawals -/

/-- Who holds an elevation: the cache, or a call that is about to return it. -/
inductive ElevationState.Holds (s : ElevationState κ) : Option Nat → CachedElevation → Prop
  | cached {key : String} {held : CachedElevation} (h : s.cache.get? key = some held) :
      s.Holds none held
  | granted {call : Nat} {phase : ElevationPhase κ} {held : CachedElevation}
      (hcall : s.calls.get? call = some phase) (hgrant : phase.grant? = some held) :
      s.Holds (some call) held

/-- The chat and the session that an elevation is disclosed for. -/
def CachedElevation.entryKey (held : CachedElevation) : String × String :=
  (held.chatId, held.session.sessionKey)

/-- A change of the disclosure of a chat and session that makes no elevation out. -/
structure Withdrawal where
  key : String × String
  /-- The call that makes the change. -/
  call : Nat
  now : Time
  /-- The end of the disclosure that is left, if there is one. -/
  left : Option Time

namespace ElevationState

/-- The withdrawal that an action makes, if it is possible. -/
def withdrawal? (s : ElevationState κ) : ElevationAction κ → Option Withdrawal
  | .resolve call input idMappings now =>
    match input.chatId? with
    | none => none
    | some chatId =>
      (s.cache.get? (buildCacheKey input.session (normalizeChatId idMappings chatId))).bind
        fun cached =>
          if now < cached.elevation.expiresAt then none else some ⟨cached.entryKey, call, now, none⟩
  | .timer call key now =>
    (s.expirationTimers.get? key).map fun cached => ⟨cached.entryKey, call, now, none⟩
  | .notified call (.error _) now =>
    match s.calls.get? call with
    | some (.approving request elevation _) =>
      some ⟨(request.cached elevation).entryKey, call, now, none⟩
    | some (.expirySync _ cached _) =>
      some ⟨cached.entryKey, call, now, some cached.elevation.expiresAt⟩
    | _ => none
  | .audited call (.error _) now =>
    match s.calls.get? call with
    | some (.approvedAudit request elevation) =>
      some ⟨(request.cached elevation).entryKey, call, now, none⟩
    | _ => none
  | _ => none

/-- The holders, the cache first. -/
def holders (s : ElevationState κ) : List (Option Nat × CachedElevation) :=
  s.cache.values.map (none, ·) ++
    s.calls.entries.filterMap fun e => e.2.grant?.map (some e.1, ·)

/-- **No other holder loses its disclosure**: each holder of the withdrawn entry but the
call itself has expired or is covered by what is left. -/
def sparesOthers (s : ElevationState κ) (a : ElevationAction κ) : Bool :=
  (s.withdrawal? a).all fun w =>
    s.holders.all fun (owner, held) =>
      owner = some w.call || held.entryKey ≠ w.key || held.elevation.expiresAt ≤ w.now ||
        w.left.any (held.elevation.expiresAt ≤ ·)

variable {s : ElevationState κ} {a : ElevationAction κ}

theorem mem_holders {owner : Option Nat} {held : CachedElevation} (h : s.Holds owner held) :
    (owner, held) ∈ s.holders := by
  cases h with
  | cached h => exact List.mem_append_left _ (List.mem_map_of_mem (OrdMap.mem_values_iff.2 ⟨_, h⟩))
  | granted hcall hgrant =>
    refine List.mem_append_right _ (List.mem_filterMap.2 ⟨_, OrdMap.mem_entries_iff.2 hcall, ?_⟩)
    rw [hgrant]
    rfl

/-- What is left of a withdrawn disclosure covers every other live holder. -/
theorem covered_of_sparesOthers (hspares : s.sparesOthers a = true) {w : Withdrawal}
    (hw : s.withdrawal? a = some w) {owner : Option Nat} {held : CachedElevation}
    (hholds : s.Holds owner held) (howner : owner ≠ some w.call) (hkey : held.entryKey = w.key)
    (hlive : w.now < held.elevation.expiresAt) :
    ∃ left, w.left = some left ∧ held.elevation.expiresAt ≤ left := by
  rw [sparesOthers, hw, Option.all_some, List.all_eq_true] at hspares
  have hheld := hspares _ (mem_holders hholds)
  have hnot : ¬ held.elevation.expiresAt ≤ w.now := Nat.not_le.2 hlive
  simp only [howner, hkey, hnot, decide_false, ne_eq, not_true_eq_false, Bool.false_or,
    Option.any_eq_true, decide_eq_true_eq] at hheld
  exact hheld

end ElevationState

/-- The local ids of the mapping a request is resolved with are not empty. -/
def ElevationAction.idsNamed : ElevationAction κ → Bool
  | .resolve _ _ idMappings _ => idMappings.all (·.rows.all (·.localId ≠ ""))
  | _ => true

/-- **The step keeps elevation and disclosure coupled**: it withdraws the disclosure
of no other live elevation, resolves ids that are not empty, and the clock does not go
back. -/
def keepsCoupling (s : ClockedElevation κ) (a : ElevationAction κ) : Bool :=
  s.manager.sparesOthers a && a.idsNamed && s.clock ≤ s.timeOf a

/-! ### The invariant -/

/-- The store discloses the elevation at `now` or later, while it is live. -/
def DisclosureStore.Backs (store : DisclosureStore) (now : Time) (held : CachedElevation) : Prop :=
  now < held.elevation.expiresAt →
    ∃ disclosure, store.disclosed? held.chatId held.session.sessionKey = some disclosure ∧
      held.elevation.expiresAt ≤ disclosure.expiresAt

/-- What holds of every held elevation. -/
structure CachedElevation.Backed (ttlMs : Nat) (clock : Time) (store : DisclosureStore)
    (held : CachedElevation) : Prop where
  chat_ne : held.chatId ≠ ""
  lasts : held.elevation.expiresAt ≤ clock + ttlMs
  backed : store.Backs clock held

/-- **Every holder of an elevation is backed by the store.** -/
structure CouplingInv (ttlMs : Nat) (clock : Time) (s : ElevationState κ) : Prop where
  cached : s.cache.Forall fun _ held => held.Backed ttlMs clock s.disclosureStore
  granted : s.calls.Forall fun _ phase =>
    ∀ held, phase.grant? = some held → held.Backed ttlMs clock s.disclosureStore
  named : s.calls.Forall fun _ phase => ∀ chatId ∈ phase.chats, chatId ≠ ""

/-- A chat that is resolved has an id. -/
theorem normalizeChatId_ne_empty {input : ResolveInput κ} {idMappings : Option IdMappings}
    {call : Nat} {now : Time} {chatId : String} (hchat : input.chatId? = some chatId)
    (hnamed : (ElevationAction.resolve call input idMappings now).idsNamed = true) :
    normalizeChatId idMappings chatId ≠ "" := by
  have hne : chatId ≠ "" := by
    unfold ResolveInput.chatId? resolveChatId truthy at hchat
    split at hchat
    · split at hchat
      · exact of_decide_eq_true (Option.filter_eq_some_iff.1 hchat).2
      · cases hchat
    · cases hchat
  unfold normalizeChatId
  cases hrow : idMappings.bind (·.resolve chatId) with
  | none => exact hne
  | some row =>
    -- the local id is one of the mapping
    obtain ⟨m, rfl, hresolve⟩ := Option.bind_eq_some_iff.1 hrow
    have hmem : row ∈ m.rows := IdMappings.mem_of_resolve hresolve
    have hall : ∀ row ∈ m.rows, decide (row.localId ≠ "") = true := List.all_eq_true.1 hnamed
    exact of_decide_eq_true (hall row hmem)

namespace CachedElevation.Backed

variable {ttlMs : Nat} {clock now : Time} {store store' : DisclosureStore} {held : CachedElevation}

theorem later (h : held.Backed ttlMs clock store) (hle : clock ≤ now) :
    held.Backed ttlMs now store where
  chat_ne := h.chat_ne
  lasts := Nat.le_trans h.lasts (Nat.add_le_add_right hle ttlMs)
  backed hlive := h.backed (Nat.lt_of_le_of_lt hle hlive)

/-- The store changes and keeps the disclosure of the holder. -/
theorem restored (h : held.Backed ttlMs clock store)
    (hkeeps : clock < held.elevation.expiresAt → ∀ disclosure,
      store.disclosed? held.chatId held.session.sessionKey = some disclosure →
      held.elevation.expiresAt ≤ disclosure.expiresAt →
      ∃ disclosure', store'.disclosed? held.chatId held.session.sessionKey = some disclosure' ∧
        held.elevation.expiresAt ≤ disclosure'.expiresAt) :
    held.Backed ttlMs clock store' where
  chat_ne := h.chat_ne
  lasts := h.lasts
  backed hlive := by
    obtain ⟨disclosure, hentry, hle⟩ := h.backed hlive
    exact hkeeps hlive disclosure hentry hle

/-- An approval overwrites the disclosure with one that lasts at least as long. -/
theorem set (h : held.Backed ttlMs now store) (other : CachedElevation)
    (hchat : other.chatId ≠ "") (hlasts : other.elevation.expiresAt = now + ttlMs) :
    held.Backed ttlMs now
      (store.set [other.chatId] other.session.sessionKey other.disclosure now).2 := by
  refine h.restored fun hlive disclosure hentry hle => ?_
  by_cases hsame : held.chatId = other.chatId ∧
      held.session.sessionKey = other.session.sessionKey
  · have hcovers : held.elevation.expiresAt ≤ other.elevation.expiresAt := hlasts ▸ h.lasts
    rw [hsame.1, hsame.2]
    exact ⟨_, DisclosureStore.disclosed?_set_self hchat (Nat.lt_of_lt_of_le hlive hcovers), hcovers⟩
  · refine ⟨disclosure, DisclosureStore.disclosed?_set_of_ne hchat hsame hentry ?_, hle⟩
    exact Nat.lt_of_lt_of_le hlive hle

/-- A disclosure that is deleted is not one of a live holder. -/
theorem delete (h : held.Backed ttlMs now store) (other : CachedElevation)
    (hchat : other.chatId ≠ "")
    (hspared : held.entryKey = other.entryKey → ¬ now < held.elevation.expiresAt) :
    held.Backed ttlMs now (store.delete [other.chatId] other.session.sessionKey now).2 := by
  refine h.restored fun hlive disclosure hentry hle => ?_
  by_cases hsame : held.chatId = other.chatId ∧
      held.session.sessionKey = other.session.sessionKey
  · exact absurd hlive (hspared (Prod.ext hsame.1 hsame.2))
  · have hkept := DisclosureStore.disclosed?_delete_of_ne hchat hsame hentry
      (Nat.lt_of_lt_of_le hlive hle)
    exact ⟨disclosure, hkept, hle⟩

/-- A disclosure that is restored covers every live holder of its key. -/
theorem restore (h : held.Backed ttlMs now store) (other : CachedElevation)
    (hchat : other.chatId ≠ "")
    (hspared : held.entryKey = other.entryKey → now < held.elevation.expiresAt →
      held.elevation.expiresAt ≤ other.elevation.expiresAt) :
    held.Backed ttlMs now
      (store.restore [other.chatId] other.session.sessionKey other.disclosure) := by
  refine h.restored fun hlive disclosure hentry hle => ?_
  rw [DisclosureStore.disclosed?_restore hchat]
  by_cases hsame : held.chatId = other.chatId ∧
      held.session.sessionKey = other.session.sessionKey
  · rw [if_pos hsame]
    exact ⟨other.disclosure, rfl, hspared (Prod.ext hsame.1 hsame.2) hlive⟩
  · rw [if_neg hsame]
    exact ⟨disclosure, hentry, hle⟩

end CachedElevation.Backed

namespace CouplingInv

variable {ttlMs : Nat} {clock now : Time} {s s' : ElevationState κ}

theorem initial : CouplingInv ttlMs clock (ElevationState.init : ElevationState κ) where
  cached := OrdMap.Forall.empty
  granted := OrdMap.Forall.empty
  named := OrdMap.Forall.empty

theorem later (hI : CouplingInv ttlMs clock s) (hle : clock ≤ now) : CouplingInv ttlMs now s where
  cached := hI.cached.imp fun h => h.later hle
  granted := hI.granted.imp fun h held hgrant => (h held hgrant).later hle
  named := hI.named

theorem of_holds (hI : CouplingInv ttlMs clock s) {owner : Option Nat} {held : CachedElevation}
    (hholds : s.Holds owner held) : held.Backed ttlMs clock s.disclosureStore := by
  cases hholds with
  | cached h => exact hI.cached.of_get? h
  | granted hcall hgrant => exact hI.granted.of_get? hcall held hgrant

/-- A call moves on, and the store changes without harm to the other holders. -/
theorem await (hI : CouplingInv ttlMs now s) {call : Nat} {phase : ElevationPhase κ}
    {store : DisclosureStore}
    (hkeeps : ∀ {owner held}, s.Holds owner held → owner ≠ some call →
      held.Backed ttlMs now s.disclosureStore → held.Backed ttlMs now store)
    (hgrant : ∀ held, phase.grant? = some held → held.Backed ttlMs now store)
    (hnamed : ∀ chatId ∈ phase.chats, chatId ≠ "") :
    CouplingInv ttlMs now { s.await call phase with disclosureStore := store } where
  cached := fun key held hget =>
    hkeeps (.cached hget) nofun (hI.cached.of_get? hget)
  granted := by
    refine OrdMap.Forall.set_of_ne (fun c phase' hne hcall held hphase => ?_) hgrant
    have hother : some c ≠ some call := fun h => hne (Option.some.inj h)
    exact hkeeps (.granted hcall hphase) hother (hI.granted.of_get? hcall held hphase)
  named := hI.named.set hnamed

theorem finish (hI : CouplingInv ttlMs now s) (call : Nat) :
    CouplingInv ttlMs now (s.finish call) where
  cached := hI.cached
  granted := hI.granted.erase call
  named := hI.named.erase call

theorem dropCached (hI : CouplingInv ttlMs now s) (cached : CachedElevation) :
    CouplingInv ttlMs now (s.dropCached cached) where
  cached := hI.cached.erase _
  granted := hI.granted
  named := hI.named

theorem cacheElevation (hI : CouplingInv ttlMs now s) {cached : CachedElevation}
    (hbacked : cached.Backed ttlMs now s.disclosureStore) :
    CouplingInv ttlMs now (s.cacheElevation cached) where
  cached := hI.cached.set hbacked
  granted := hI.granted
  named := hI.named

/-- A holder after an elevation has left the cache was one before. -/
private theorem holds_of_dropCached {cached held : CachedElevation} {owner : Option Nat}
    (h : (s.dropCached cached).Holds owner held) : s.Holds owner held := by
  cases h with
  | cached h => exact .cached (OrdMap.get?_erase_eq_some h).2
  | granted hcall hgrant => exact .granted hcall hgrant

/-- An elevation expires and no other live one has its key. -/
theorem expireCachedElevation (hI : CouplingInv ttlMs now s) {call : Nat}
    {origin : Option (ElevationRequest κ)} {cached : CachedElevation}
    (hchat : cached.chatId ≠ "")
    (horigin : ∀ request, origin = some request → request.canonicalChatId ≠ "")
    (hspared : ∀ {owner held}, s.Holds owner held → owner ≠ some call →
      held.entryKey = cached.entryKey → ¬ now < held.elevation.expiresAt) :
    CouplingInv ttlMs now (s.expireCachedElevation call origin cached now).1 := by
  refine (hI.dropCached cached).await ?_ (by nofun) ?_
  · intro owner held hholds howner hbacked
    exact hbacked.delete cached hchat (hspared (holds_of_dropCached hholds) howner)
  · intro chatId hmem
    rcases List.mem_cons.1 hmem with rfl | hmem
    · exact hchat
    · cases horig : origin with
      | none =>
        rw [horig] at hmem
        exact absurd hmem List.not_mem_nil
      | some request =>
        rw [horig] at hmem
        rw [List.mem_singleton.1 hmem]
        exact horigin request horig

/-- What the guard of a step says about the withdrawal that the step makes. -/
private theorem spared {a : ElevationAction κ} (hspares : s.sparesOthers a = true)
    {w : Withdrawal} (hw : s.withdrawal? a = some w) (hleft : w.left = none)
    {owner : Option Nat} {held : CachedElevation} (hholds : s.Holds owner held)
    (howner : owner ≠ some w.call) (hkey : held.entryKey = w.key) :
    ¬ w.now < held.elevation.expiresAt := by
  intro hlive
  obtain ⟨left, hsome, -⟩ :=
    ElevationState.covered_of_sparesOthers hspares hw hholds howner hkey hlive
  rw [hleft] at hsome
  cases hsome

/-- **Every step that spares the other holders keeps the invariant.** -/
theorem step {tr : List (ElevationEvent κ)} {a : ElevationAction κ}
    {es : List (ElevationEvent κ)} (hI : CouplingInv ttlMs clock s) (hE : ElevationInv tr s)
    (hspares : s.sparesOthers a = true) (hids : a.idsNamed = true)
    (hclock : clock ≤ a.time?.getD clock) (hstep : ElevationStep ttlMs s a s' es) :
    CouplingInv ttlMs (a.time?.getD clock) s' := by
  have hI := hI.later hclock
  cases hstep with
  | skipped => exact hI
  | @reused call input idMappings now chatId cached _ hchat hcached =>
    -- what the cache holds is backed, and now the call holds it too
    refine hI.await (fun _ _ hbacked => hbacked) (fun held hgrant => ?_) (fun c hmem => ?_)
    · cases hgrant
      exact hI.cached.of_get? hcached
    · rw [List.mem_singleton.1 hmem]
      exact normalizeChatId_ne_empty hchat hids
  | @expiredFound call input idMappings now chatId cached hnew hchat hcached hexpired =>
    refine hI.expireCachedElevation (hI.cached.of_get? hcached).chat_ne ?_ ?_
    · intro request hrequest
      cases hrequest
      exact normalizeChatId_ne_empty hchat hids
    · intro owner held hholds howner hkey
      have hw : s.withdrawal? (.resolve call input idMappings now) =
          some ⟨cached.entryKey, call, now, none⟩ := by
        simp only [ElevationState.withdrawal?, hchat, hcached, Option.bind_some]
        exact if_neg (Nat.not_lt.2 hexpired)
      exact spared hspares hw rfl hholds howner hkey
  | @timer call key now cached hnew htimer hexpired =>
    have hcached := (hE.of_timer htimer).1
    refine hI.expireCachedElevation (hI.cached.of_get? hcached).chat_ne (by nofun) ?_
    intro owner held hholds howner hkey
    have hw : s.withdrawal? (.timer call key now) = some ⟨cached.entryKey, call, now, none⟩ := by
      rw [ElevationState.withdrawal?, htimer]
      rfl
    exact spared hspares hw rfl hholds howner hkey
  | asked _ hchat =>
    refine hI.await (fun _ _ hbacked => hbacked) (by nofun) (fun c hmem => ?_)
    rw [List.mem_singleton.1 hmem]
    exact normalizeChatId_ne_empty hchat hids
  | authorized hcall =>
    exact hI.await (fun _ _ hbacked => hbacked) (by nofun)
      (fun c hmem => hI.named.of_get? hcall c hmem)
  | @approved call request fingerprint approvalId now hcall =>
    -- the new disclosure lasts as long as the new elevation, and no other lasts longer
    have hchat : request.canonicalChatId ≠ "" :=
      hI.named.of_get? hcall _ List.mem_cons_self
    refine hI.await (fun _ _ hbacked => hbacked.set (request.cached _) hchat rfl)
      (fun held hgrant => ?_) (fun c hmem => hI.named.of_get? hcall c hmem)
    cases hgrant
    refine ⟨hchat, Nat.le_refl _, fun hlive => ?_⟩
    exact ⟨_, DisclosureStore.disclosed?_set_self hchat hlive, Nat.le_refl _⟩
  | moved hcall hgrant hrest _ hchats _ =>
    refine hI.await (fun _ _ hbacked => hbacked) (fun held hheld => ?_)
      (fun c hmem => hI.named.of_get? hcall c (hchats hmem))
    rcases hgrant with hnone | hsame
    · rw [hnone] at hheld
      cases hheld
    · exact hI.granted.of_get? hcall held (hsame ▸ hheld)
  | ended => exact hI.finish _
  | @rolledBack call request elevation changedChats e now hcall =>
    have hchat : request.canonicalChatId ≠ "" :=
      hI.named.of_get? hcall _ List.mem_cons_self
    have hw : s.withdrawal? (.notified call (.error e) now) =
        some ⟨(request.cached elevation).entryKey, call, now, none⟩ := by
      simp only [ElevationState.withdrawal?, hcall]
    refine hI.await (fun hholds howner hbacked => ?_) (by nofun) (by nofun)
    exact hbacked.delete (request.cached elevation) hchat
      (spared hspares hw rfl hholds howner)
  | @auditFailed call request elevation e now hcall =>
    have hchat : request.canonicalChatId ≠ "" :=
      hI.named.of_get? hcall _ List.mem_cons_self
    have hw : s.withdrawal? (.audited call (.error e) now) =
        some ⟨(request.cached elevation).entryKey, call, now, none⟩ := by
      simp only [ElevationState.withdrawal?, hcall]
    refine hI.await (fun hholds howner hbacked => ?_) (by nofun) (fun c hmem => ?_)
    · exact hbacked.delete (request.cached elevation) hchat
        (spared hspares hw rfl hholds howner)
    · rw [List.mem_singleton.1 hmem]
      exact hchat
  | @restored call cause cached changedChats e now hcall =>
    have hchat : cached.chatId ≠ "" := hI.named.of_get? hcall _ List.mem_cons_self
    have hw : s.withdrawal? (.notified call (.error e) now) =
        some ⟨cached.entryKey, call, now, some cached.elevation.expiresAt⟩ := by
      simp only [ElevationState.withdrawal?, hcall]
    refine hI.await (fun hholds howner hbacked => ?_) (by nofun)
      (fun c hmem => hI.named.of_get? hcall c (List.mem_cons_of_mem _ hmem))
    refine hbacked.restore cached hchat fun hkey hlive => ?_
    -- what is restored covers the live holders of the key
    obtain ⟨left, hleft, hle⟩ :=
      ElevationState.covered_of_sparesOthers hspares hw hholds howner hkey hlive
    cases hleft
    exact hle
  | returnedReused => exact hI.finish _
  | returnedApproved hcall =>
    have hbacked := hI.granted.of_get? hcall _ rfl
    exact (hI.cacheElevation hbacked).finish _

end CouplingInv

/-! ### What the store holds was approved -/

/-- A disclosure for a session and chat ends with an elevation approved for them. -/
def DisclosureStore.BoundedBy (tr : List (ElevationEvent κ)) (store : DisclosureStore) : Prop :=
  ∀ chatId sessionKey disclosure, store.disclosed? chatId sessionKey = some disclosure →
    ∃ cached : CachedElevation, cached.Approved tr ∧ cached.chatId = chatId ∧
      cached.session.sessionKey = sessionKey ∧
      disclosure.expiresAt ≤ cached.elevation.expiresAt

namespace DisclosureStore.BoundedBy

variable {tr : List (ElevationEvent κ)} {store : DisclosureStore} {cached : CachedElevation}
  {now : Time}

theorem append (h : store.BoundedBy tr) (es : List (ElevationEvent κ)) :
    store.BoundedBy (tr ++ es) := by
  intro chatId sessionKey disclosure hentry
  obtain ⟨cached, happroved, hrest⟩ := h chatId sessionKey disclosure hentry
  exact ⟨cached, happroved.append es, hrest⟩

theorem set (h : store.BoundedBy tr) (hchat : cached.chatId ≠ "") (happroved : cached.Approved tr) :
    BoundedBy tr (store.set [cached.chatId] cached.session.sessionKey cached.disclosure now).2 := by
  intro chatId sessionKey disclosure hentry
  rcases DisclosureStore.disclosed?_set_eq_some hchat hentry with ⟨rfl, rfl, rfl⟩ | hold
  · exact ⟨cached, happroved, rfl, rfl, Nat.le_refl _⟩
  · exact h chatId sessionKey disclosure hold

theorem restore (h : store.BoundedBy tr) (hchat : cached.chatId ≠ "")
    (happroved : cached.Approved tr) :
    BoundedBy tr
      (store.restore [cached.chatId] cached.session.sessionKey cached.disclosure) := by
  intro chatId sessionKey disclosure hentry
  rcases DisclosureStore.disclosed?_restore_eq_some hchat hentry with ⟨rfl, rfl, rfl⟩ | hold
  · exact ⟨cached, happroved, rfl, rfl, Nat.le_refl _⟩
  · exact h chatId sessionKey disclosure hold

theorem delete (h : store.BoundedBy tr) (cached : CachedElevation) (hchat : cached.chatId ≠ "") :
    BoundedBy tr (store.delete [cached.chatId] cached.session.sessionKey now).2 :=
  fun chatId sessionKey disclosure hentry =>
    h chatId sessionKey disclosure (DisclosureStore.disclosed?_delete_eq_some hchat hentry)

/-- **Every step writes only what was approved.** The chats of calls and of cached
elevations have ids, which `CouplingInv` says of the state before the step. -/
theorem step {ttlMs : Nat} {clock : Time} {s s' : ElevationState κ} {a : ElevationAction κ}
    {es : List (ElevationEvent κ)} (h : s.disclosureStore.BoundedBy tr)
    (hE : ElevationInv tr s) (hI : CouplingInv ttlMs clock s)
    (hstep : ElevationStep ttlMs s a s' es) : s'.disclosureStore.BoundedBy (tr ++ es) := by
  have hE' := hE.step hstep
  cases hstep with
  | skipped | reused | asked | authorized | moved | ended | returnedReused | returnedApproved =>
    exact h.append _
  | expiredFound _ _ hcached =>
    exact (h.delete _ (hI.cached.of_get? hcached).chat_ne).append _
  | timer _ htimer =>
    exact (h.delete _ (hI.cached.of_get? (hE.of_timer htimer).1).chat_ne).append _
  | @approved call request fingerprint approvalId now hcall =>
    -- the elevation is approved by this very step
    have hphase := (hE'.calls.of_get? (OrdMap.get?_set_self _ _ _)).granted _ rfl
    exact (h.append _).set (hI.named.of_get? hcall _ List.mem_cons_self) hphase
  | @rolledBack call request elevation changedChats e now hcall =>
    have hchat := hI.named.of_get? hcall _ List.mem_cons_self
    exact (h.delete (request.cached elevation) hchat).append _
  | @auditFailed call request elevation e now hcall =>
    have hchat := hI.named.of_get? hcall _ List.mem_cons_self
    exact (h.delete (request.cached elevation) hchat).append _
  | @restored call cause cached changedChats e now hcall =>
    have happroved := (hE.calls.of_get? hcall).withdrawn _ rfl
    exact (h.restore (hI.named.of_get? hcall _ List.mem_cons_self) happroved).append _

end DisclosureStore.BoundedBy

/-! ### The coupling along a run -/

/-- All three invariants of the clocked manager. -/
structure ClockedInv (ttlMs : Nat) (tr : List (ElevationEvent κ)) (s : ClockedElevation κ) :
    Prop where
  approval : ElevationInv tr s.manager
  coupling : CouplingInv ttlMs s.clock s.manager
  bounded : s.manager.disclosureStore.BoundedBy tr

theorem ClockedInv.initial {ttlMs : Nat} : ClockedInv ttlMs [] (clockedElevation κ ttlMs).init where
  approval := ElevationInv.initial
  coupling := CouplingInv.initial
  bounded chatId sessionKey disclosure hentry := by cases hentry

theorem ClockedInv.of_run {ttlMs : Nat} {tr : List (ElevationEvent κ)} {s : ClockedElevation κ}
    (h : Run (clockedElevation κ ttlMs) (fun s a => keepsCoupling s a = true) tr s) :
    ClockedInv ttlMs tr s := by
  refine h.invariant (I := ClockedInv ttlMs) .initial ?_
  intro tr s a s' es _ hI hok hstep
  simp only [keepsCoupling, Bool.and_eq_true, decide_eq_true_eq] at hok
  obtain ⟨⟨hspares, hids⟩, hclock⟩ := hok
  obtain ⟨⟨manager, es'⟩, helev, heq⟩ := Option.map_eq_some_iff.1 hstep
  cases heq
  have hsound := elevationStep_sound helev
  exact ⟨hI.approval.step hsound,
    hI.coupling.step hI.approval hspares hids hclock hsound,
    hI.bounded.step hI.approval hI.coupling hsound⟩

/-- **Elevation and disclosure stay coupled** in every run whose steps spare the
disclosure of other live elevations. -/
theorem elevation_disclosure_coupled {ttlMs : Nat} {tr : List (ElevationEvent κ)}
    {s : ClockedElevation κ}
    (h : Run (clockedElevation κ ttlMs) (fun s a => keepsCoupling s a = true) tr s) :
    Coupled tr s where
  disclosed key cached now hcached hclock hlive := by
    have hbacked := (ClockedInv.of_run h).coupling.cached.of_get? hcached
    obtain ⟨disclosure, hentry, hle⟩ := hbacked.backed (Nat.lt_of_le_of_lt hclock hlive)
    have hcounts : DisclosureStore.counts now false disclosure = true :=
      decide_eq_true (Nat.lt_of_lt_of_le hlive hle)
    obtain ⟨last, hlast, hlast_le⟩ := DisclosureStore.le_aggregateForChat hentry hcounts
    exact ⟨last, hlast, Nat.le_trans hle hlast_le⟩
  bounded := (ClockedInv.of_run h).bounded

/-! ### Overlapping approvals -/

def someSession : AdminSession where
  iss := "0123456789abcdef0123456789abcdef0123456789abcdef0123456789abcdef"
  jti := "0123456789abcdef0123456789abcdef"

/-- A request of that session to list the messages of a chat. -/
def someRequest : ResolveInput Unit where
  method := "message.list"
  params := [("chatId", .string "conv_0000000000000001"),
    ("dangerouslyAllowMessageRead", .bool true)]
  session := someSession
  caller := ()

/-- One approval from the request to the cache. -/
def approvalRun (call : Nat) : List (ElevationAction Unit) :=
  [.resolve call someRequest none 0, .authorized call (.ok ()),
    .fingerprint call (.ok "fingerprint") "approval_1" 0, .notified call (.ok ()) 1,
    .audited call (.ok ()) 2]

/-- Two approvals overlap, the second one made out a millisecond after the first; the first one is
cached, then the second one fails. -/
def overlappingRun : List (ElevationAction Unit) :=
  [.resolve 1 someRequest none 0, .resolve 2 someRequest none 0, .authorized 1 (.ok ()),
    .authorized 2 (.ok ()), .fingerprint 1 (.ok "fingerprint") "approval_1" 0,
    .fingerprint 2 (.ok "fingerprint") "approval_2" 1, .notified 1 (.ok ()) 1,
    .audited 1 (.ok ()) 2, .notified 2 (.error (.internalError "publish failed")) 3]

theorem elevation_disclosure_coupled_approval :
    ∃ (tr : List (ElevationEvent Unit)) (s : ClockedElevation Unit),
      Coupled tr s ∧ s.manager.cache.values.length = 1 := by
  obtain ⟨tr, s, hrun, hcached⟩ := exists_run_of_exec (clockedElevation Unit 60000) keepsCoupling
    (approvalRun 1) (fun _ s => s.manager.cache.values.length = 1) (by decide)
  exact ⟨tr, s, elevation_disclosure_coupled hrun, of_decide_eq_true hcached⟩

/-- **A failed approval takes the disclosure of another one with it**: an elevation is
cached and live, and nothing is disclosed for its chat. -/
theorem cached_undisclosed :
    ¬ ∀ tr s, Run (clockedElevation Unit 60000)
      (fun s a => s.clock ≤ s.timeOf a ∧ a.idsNamed = true) tr s → Coupled tr s := by
  intro hall
  obtain ⟨tr, s, hrun, hbad⟩ := exists_run_of_exec (clockedElevation Unit 60000)
    (fun s a => s.clock ≤ s.timeOf a && a.idsNamed) overlappingRun
    (fun _ s => s.clock = 3 && s.manager.cache.values.any fun cached =>
      3 < cached.elevation.expiresAt &&
        (s.manager.disclosureStore.get cached.chatId 3).1.isNone) (by decide)
  simp only [Bool.and_eq_true, decide_eq_true_eq] at hrun hbad
  obtain ⟨hclock, hany⟩ := hbad
  obtain ⟨cached, hmem, hcached⟩ := List.any_eq_true.1 hany
  rw [Bool.and_eq_true, decide_eq_true_eq] at hcached
  obtain ⟨key, hget⟩ := OrdMap.mem_values_iff.1 hmem
  obtain ⟨disclosure, hsome, -⟩ :=
    (hall tr s hrun).disclosed key cached 3 hget (Nat.le_of_eq hclock) hcached.1
  rw [hsome] at hcached
  cases hcached.2

end Signet
