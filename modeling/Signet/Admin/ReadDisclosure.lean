import Signet.Admin.ReadRuntime
import Signet.Cli.ActiveSeals
import Signet.Cli.SealSources

/-!
# Reads are disclosed on the seals

An elevation that `resolveForRequest` returns is disclosed in the store, and `issue` reads
the store; but `refresh` builds a seal from the input it was issued with, so a seal that is
there before the approval never learns of it (`elevation_undisclosed`).

`elevation_disclosed`: every current seal of the conversation discloses a returned elevation
until it ends, in every run whose steps keep the disclosure (`keepsDisclosed`):

* no elevation is made out while a seal of its chat, current or on its way, discloses less;
* no step withdraws the disclosure of another live elevation (`sparesOthers`);
* no request reuses an elevation of another chat, which it can find if ids of sessions or chats
  have colons (`ElevationInv.own_of_colonFree`);
* an elevation is returned before it ends;
* a request's chat keeps its local id until the request returns, and a network id is not
  itself the id of a conversation.

The invariant is `ReadInv`: every source of seals of a chat discloses every elevation that is
held for the chat. A new elevation finds all sources disclosing it, and a new source reads
the store, which backs every holder (`CouplingInv`).
-/

namespace Signet

open Lib

variable {κ : Type}

/-! ### Conversations -/

/-- The ids under which a conversation may have seals: its local and its network id. -/
def conversationIds (idMappings : Option IdMappings) (chatId : String) : List String :=
  match idMappings.bind (·.resolve chatId) with
  | some row => [row.localId, row.networkId]
  | none => [chatId]

/-- Local ids are not empty, and network ids are not ids of conversations. -/
def IdMappings.separatesIds (m : IdMappings) : Bool :=
  m.rows.all fun row => row.localId ≠ "" && !isResourceId .conversation row.networkId

/-- A seal of the conversation is a seal under the id that requests are normalized to. -/
theorem eq_normalizeChatId {idMappings : Option IdMappings}
    (hids : idMappings.all (·.separatesIds) = true) {chatId c : String}
    (hc : isResourceId .conversation c = true) (hmem : c ∈ conversationIds idMappings chatId) :
    c = normalizeChatId idMappings chatId := by
  unfold conversationIds at hmem
  unfold normalizeChatId
  split at hmem
  · next row hrow =>
    rw [hrow]
    rcases List.mem_cons.1 hmem with rfl | hmem
    · rfl
    · -- the network id is no id of a seal
      obtain ⟨m, rfl, hresolve⟩ := Option.bind_eq_some_iff.1 hrow
      have hrows := List.all_eq_true.1 hids row (IdMappings.mem_of_resolve hresolve)
      rw [← List.mem_singleton.1 hmem, hc, Bool.not_true, Bool.and_false] at hrows
      cases hrows
  · next hnone =>
    rw [hnone]
    exact List.mem_singleton.1 hmem

/-- The chat of the request is normalized to the chat it is resolved for. -/
def ElevationRequest.Named (idMappings : Option IdMappings) (request : ElevationRequest κ) : Prop :=
  ∃ chatId, request.input.chatId? = some chatId ∧
    normalizeChatId idMappings chatId = request.canonicalChatId

/-! ### The condition -/

def disclosedUntil (time : Time) (access : Option AdminAccess) : Bool :=
  access.any (time ≤ ·.expiresAt)

/-- **Every current seal of the conversation discloses a read** until the time. -/
def ReadRuntime.Discloses (s : ReadRuntime κ) (chatId : String) (time : Time) : Prop :=
  ∀ key envelope, s.lifecycle.seals.manager.currentSeals.get? key = some envelope →
    envelope.pair.2 ∈ conversationIds s.idMappings chatId →
    disclosedUntil time envelope.chain.current.adminAccess = true

instance (s : ReadRuntime κ) (chatId : String) (time : Time) :
    Decidable (s.Discloses chatId time) :=
  decidable_of_iff (∀ envelope ∈ s.lifecycle.seals.manager.currentSeals.values,
      envelope.pair.2 ∈ conversationIds s.idMappings chatId →
      disclosedUntil time envelope.chain.current.adminAccess = true)
    ⟨fun h key envelope hget => h envelope (OrdMap.mem_values_iff.2 ⟨key, hget⟩),
      fun h envelope hmem => (OrdMap.mem_values_iff.1 hmem).elim fun key hget =>
        h key envelope hget⟩

namespace ReadRuntime

/-- The time of the segment that an action runs. -/
def timeOf (s : ReadRuntime κ) (a : ReadAction κ) : Time :=
  match a with
  | .operatorLookedUp _ _ now => now
  | a => ((s.elevationAction? a).bind (·.time?)).getD s.clock

/-- No elevation is made out while a seal of its chat discloses less. -/
def approvesDisclosed (ttlMs : Nat) (s : ReadRuntime κ) (a : ReadAction κ) : Bool :=
  match s.elevationAction? a with
  | some (.fingerprint call (.ok _) _ now) =>
    match s.elevation.calls.get? call with
    | some (.fingerprinting request) =>
      (s.lifecycle.sources request.canonicalChatId).all (disclosedUntil (now + ttlMs))
    | _ => true
  | _ => true

/-- No elevation is returned after its end. -/
def returnsLive (s : ReadRuntime κ) (a : ReadAction κ) : Bool :=
  match s.elevationAction? a with
  | some (.audited call (.ok ()) now) =>
    ((s.elevation.calls.get? call).bind (·.grant?)).all (now < ·.elevation.expiresAt)
  | _ => true

/-- A request reuses an elevation of its own chat. -/
def reusesOwnChat (s : ReadRuntime κ) (a : ReadAction κ) : Bool :=
  ((s.elevationAction? a).bind s.elevation.reused?).all fun (request, cached) =>
    cached.chatId = request.canonicalChatId

/-- A new mapping keeps the names of the chats that are being resolved. -/
def keepsNames (s : ReadRuntime κ) (a : ReadAction κ) : Bool :=
  match a with
  | .mapped idMappings =>
    idMappings.all (·.separatesIds) &&
      s.elevation.calls.values.all fun phase =>
        phase.request?.all fun request =>
          request.input.chatId?.all (normalizeChatId idMappings · = request.canonicalChatId)
  | _ => true

end ReadRuntime

/-- **The step keeps reads disclosed.** -/
def keepsDisclosed (ttlMs : Nat) (s : ReadRuntime κ) (a : ReadAction κ) : Bool :=
  (s.elevationAction? a).all s.elevation.sparesOthers && s.approvesDisclosed ttlMs a &&
    s.returnsLive a && s.reusesOwnChat a && s.keepsNames a && s.clock ≤ s.timeOf a

/-! ### Holders after a step -/

section Holds

variable {ttlMs : Nat} {s s' : ElevationState κ} {owner : Option Nat} {held : CachedElevation}

/-- Who holds an elevation when a call moves on: a holder from before, or the call. -/
private theorem ElevationState.holds_of_await {call : Nat} {phase : ElevationPhase κ}
    (store : DisclosureStore)
    (h : ElevationState.Holds { s.await call phase with disclosureStore := store } owner held) :
    s.Holds owner held ∨ phase.grant? = some held := by
  cases h with
  | cached h => exact .inl (.cached h)
  | granted hcall hgrant =>
    rcases OrdMap.get?_set_eq_some hcall with ⟨-, rfl⟩ | ⟨-, hcall⟩
    · exact .inr hgrant
    · exact .inl (.granted hcall hgrant)

private theorem ElevationState.holds_of_finish {call : Nat}
    (h : (s.finish call).Holds owner held) : s.Holds owner held := by
  cases h with
  | cached h => exact .cached h
  | granted hcall hgrant => exact .granted (OrdMap.get?_erase_eq_some hcall).2 hgrant

/-- **A step adds no holder** but of the elevation that it makes out. -/
theorem ElevationStep.holds {a : ElevationAction κ} {es : List (ElevationEvent κ)}
    (hstep : ElevationStep ttlMs s a s' es) (h : s'.Holds owner held) :
    (∃ owner', s.Holds owner' held) ∨
      ∃ call request fingerprint approvalId now,
        a = .fingerprint call (.ok fingerprint) approvalId now ∧
        s.calls.get? call = some (.fingerprinting request) ∧
        held = request.cached (newElevation ttlMs request approvalId fingerprint now) := by
  cases hstep with
  | skipped => exact .inl ⟨_, h⟩
  | reused _ _ hcached =>
    left
    rcases ElevationState.holds_of_await s.disclosureStore h with hold | hgrant
    · exact ⟨_, hold⟩
    · -- the call holds what the cache holds
      cases hgrant
      exact ⟨none, .cached hcached⟩
  | expiredFound | timer =>
    left
    rcases ElevationState.holds_of_await _ h with hold | hgrant
    · cases hold with
      | cached hget => exact ⟨_, .cached (OrdMap.get?_erase_eq_some hget).2⟩
      | granted hcall hgrant => exact ⟨_, .granted hcall hgrant⟩
    · cases hgrant
  | asked | authorized =>
    left
    rcases ElevationState.holds_of_await s.disclosureStore h with hold | hgrant
    · exact ⟨_, hold⟩
    · cases hgrant
  | @approved call request fingerprint approvalId now hcall =>
    rcases ElevationState.holds_of_await _ h with hold | hgrant
    · exact .inl ⟨_, hold⟩
    · cases hgrant
      exact .inr ⟨call, request, fingerprint, approvalId, now, rfl, hcall, rfl⟩
  | @moved _ call phase phase' hcall hgrant =>
    left
    rcases ElevationState.holds_of_await s.disclosureStore h with hold | hheld
    · exact ⟨_, hold⟩
    · rcases hgrant with hnone | hsame
      · rw [hnone] at hheld
        cases hheld
      · exact ⟨some call, .granted hcall (hsame ▸ hheld)⟩
  | ended | returnedReused => exact .inl ⟨_, ElevationState.holds_of_finish h⟩
  | rolledBack | auditFailed | restored =>
    left
    rcases ElevationState.holds_of_await _ h with hold | hgrant
    · exact ⟨_, hold⟩
    · cases hgrant
  | @returnedApproved call request elevation now hcall =>
    left
    cases ElevationState.holds_of_finish h with
    | cached hget =>
      rcases OrdMap.get?_set_eq_some hget with ⟨-, rfl⟩ | ⟨-, hget⟩
      · exact ⟨some call, .granted hcall rfl⟩
      · exact ⟨_, .cached hget⟩
    | granted hcall hgrant => exact ⟨_, .granted hcall hgrant⟩

/-- **Requests keep their names**: a call works on the request it worked on before, or on a
new one. -/
theorem ElevationStep.named {a : ElevationAction κ} {es : List (ElevationEvent κ)}
    {idMappings : Option IdMappings} (hstep : ElevationStep ttlMs s a s' es)
    (hmap : ∀ call input m now, a = .resolve call input m now → m = idMappings)
    (h : s.calls.Forall fun _ phase =>
      ∀ request, phase.request? = some request → request.Named idMappings) :
    s'.calls.Forall fun _ phase =>
      ∀ request, phase.request? = some request → request.Named idMappings := by
  cases hstep with
  | skipped => exact h
  | reused _ hchat | asked _ hchat | expiredFound _ hchat =>
    cases hmap _ _ _ _ rfl
    refine h.set fun request hrequest => ?_
    cases hrequest
    exact ⟨_, hchat, rfl⟩
  | timer => exact h.set (by nofun)
  | authorized hcall | approved hcall | rolledBack hcall | auditFailed hcall | restored hcall =>
    exact h.set fun request hrequest => h.of_get? hcall request hrequest
  | moved hcall _ _ _ _ hsame =>
    exact h.set fun request hrequest => h.of_get? hcall request (hsame ▸ hrequest)
  | ended | returnedReused | returnedApproved => exact h.erase _

end Holds

/-! ### The invariant -/

/-- Every source of seals of the chat discloses a read until the time. -/
def LifecycleState.Covers (s : LifecycleState) (chatId : String) (time : Time) : Prop :=
  ∀ access, s.Source chatId access → disclosedUntil time access = true

/-- **What is held for a chat is disclosed by all sources of its seals.** -/
structure ReadInv (ttlMs : Nat) (tr : List (ReadEvent κ)) (s : ReadRuntime κ) : Prop where
  approval : ElevationInv (tr.filterMap ReadEvent.elevation?) s.elevation
  coupling : CouplingInv ttlMs s.clock s.elevation
  issues : IssuesInv s.lifecycle
  heads : s.lifecycle.seals.manager.HeadsTracked
  ids : s.idMappings.all (·.separatesIds) = true
  named : s.elevation.calls.Forall fun _ phase =>
    ∀ request, phase.request? = some request → request.Named s.idMappings
  reused : s.elevation.calls.Forall fun _ phase =>
    phase.Reuses fun request cached => cached.chatId = request.canonicalChatId
  covered : ∀ owner held, s.elevation.Holds owner held → s.clock < held.elevation.expiresAt →
    s.lifecycle.Covers held.chatId held.elevation.expiresAt

/-- A read is disclosed when the runtime starts: nothing is held. -/
theorem ReadInv.initial {ttlMs : Nat} : ReadInv ttlMs [] (ReadRuntime.init κ) where
  approval := .initial
  coupling := .initial
  issues := .initial
  heads hexisting := by cases hexisting
  ids := rfl
  named := .empty
  reused := .empty
  covered owner held hholds := by
    cases hholds with
    | cached h => cases h
    | granted hcall => cases hcall

section Step

variable {cfg : CredentialManagerConfig} {hash : ScopeSet → List String → String}
  {trustTier : TrustTier} {ttlMs : Nat} {tr : List (ReadEvent κ)} {s s' : ReadRuntime κ}
  {a : ReadAction κ} {es : List (ReadEvent κ)}

private theorem filterMap_elevation (es : List (ElevationEvent κ)) :
    (es.map ReadEvent.elevation).filterMap ReadEvent.elevation? = es := by
  rw [List.filterMap_map]
  exact List.filterMap_some

private theorem filterMap_lifecycle (es : List LifecycleEvent) :
    (es.map (ReadEvent.lifecycle (κ := κ))).filterMap ReadEvent.elevation? = [] := by
  rw [List.filterMap_map]
  exact List.filterMap_none _

private theorem ReadInv.of_same (hI : ReadInv ttlMs tr s) (h : s.SameComponents s') :
    ReadInv ttlMs tr s' := by
  obtain ⟨tracker, refreshing, rfl⟩ := h
  exact ⟨hI.approval, hI.coupling, hI.issues, hI.heads, hI.ids, hI.named, hI.reused, hI.covered⟩

private theorem idMappings_of_elevationAction {call : Nat} {input : ResolveInput κ}
    {m : Option IdMappings} {now : Time}
    (h : s.elevationAction? a = some (.resolve call input m now)) : m = s.idMappings := by
  cases a with
  | resolve => cases h; rfl
  | elevation α => cases α <;> cases h
  | notified call now =>
    obtain ⟨result, -, heq⟩ := Option.map_eq_some_iff.1 h
    cases heq
  | lifecycle | operatorLookedUp | refreshNext | mapped => cases h

private theorem idsNamed_of_elevationAction (hids : s.idMappings.all (·.separatesIds) = true)
    {α : ElevationAction κ} (hα : s.elevationAction? a = some α) : α.idsNamed = true := by
  cases α with
  | timer | authorized | fingerprint | notified | audited => rfl
  | resolve call input m now =>
    rw [idMappings_of_elevationAction hα]
    show s.idMappings.all (fun m => m.rows.all (·.localId ≠ "")) = true
    rw [Option.all_eq_true] at hids ⊢
    refine fun m hm => List.all_eq_true.2 fun row hrow => ?_
    have hrows := List.all_eq_true.1 (hids m hm) row hrow
    exact (Bool.and_eq_true_iff.1 hrows).1

private theorem timeOf_of_elevationAction {α : ElevationAction κ}
    (hα : s.elevationAction? a = some α) : s.timeOf a = α.time?.getD s.clock := by
  unfold ReadRuntime.timeOf
  split
  · cases hα
  · rw [hα]
    rfl

/-- **A segment of the elevation manager** keeps the invariant: what is held was held
before, or is disclosed by all sources when it is made out. -/
private theorem ReadInv.elevated (hI : ReadInv ttlMs tr s) {α : ElevationAction κ}
    {elevation : ElevationState κ} {es : List (ElevationEvent κ)}
    (hα : s.elevationAction? a = some α) (hok : keepsDisclosed ttlMs s a = true)
    (h : ElevationStep ttlMs s.elevation α elevation es) :
    ReadInv ttlMs (tr ++ es.map .elevation)
      { s with elevation := elevation, clock := α.time?.getD s.clock } := by
  simp only [keepsDisclosed, hα, Option.all_some, Bool.and_eq_true, decide_eq_true_eq] at hok
  obtain ⟨⟨⟨⟨⟨hspares, happroves⟩, -⟩, hreuses⟩, -⟩, hclock⟩ := hok
  rw [timeOf_of_elevationAction hα] at hclock
  have hids := idsNamed_of_elevationAction hI.ids hα
  have hmap : ∀ call input m now, α = .resolve call input m now → m = s.idMappings := by
    rintro call input m now rfl
    exact idMappings_of_elevationAction hα
  have hown : ∀ request cached, s.elevation.reused? α = some (request, cached) →
      cached.chatId = request.canonicalChatId := by
    intro request cached hreused
    rw [ReadRuntime.reusesOwnChat, hα, Option.bind_some, hreused] at hreuses
    exact of_decide_eq_true hreuses
  refine ⟨?_, hI.coupling.step hI.approval hspares hids hclock h, hI.issues, hI.heads, hI.ids,
    h.named hmap hI.named, h.reuses hown hI.reused, ?_⟩
  · rw [List.filterMap_append, filterMap_elevation]
    exact hI.approval.step h
  · intro owner held hholds hlive
    rcases h.holds hholds with ⟨owner', hold⟩ | hnew
    · exact hI.covered owner' held hold (Nat.lt_of_le_of_lt hclock hlive)
    · obtain ⟨call, request, fingerprint, approvalId, now, rfl, hcall, rfl⟩ := hnew
      intro access hsource
      simp only [ReadRuntime.approvesDisclosed, hα, hcall] at happroves
      exact List.all_eq_true.1 happroves access (LifecycleState.mem_sources hsource)

/-- **A segment of the other machine** that does not read the store adds no source. -/
private theorem ReadInv.lived (hI : ReadInv ttlMs tr s) {α : LifecycleAction}
    {lifecycle : LifecycleState} {es : List LifecycleEvent} (hα : α.readsDisclosure = false)
    (h : lifecycleStep cfg hash trustTier s.lifecycle α = some (lifecycle, es)) :
    ReadInv ttlMs (tr ++ es.map .lifecycle) { s with lifecycle := lifecycle } := by
  have hstep := lifecycleStep_sound h
  refine ⟨?_, hI.coupling, hI.issues.step hstep, hstep.headsTracked hI.issues.seals hI.heads,
    hI.ids, hI.named, hI.reused, ?_⟩
  · rw [List.filterMap_append, filterMap_lifecycle, List.append_nil]
    exact hI.approval
  · intro owner held hholds hlive access hsource
    rcases hstep.source hI.issues.seals hI.heads hsource with hold | ⟨call, op, rfl, -⟩
    · exact hI.covered owner held hholds hlive access hold
    · cases hα

private theorem lookedUp_of_resolves {call : Nat} {op : OperatorConfig} {now : Time}
    {chatId : String} (h : s.lifecycle.Resolves call chatId) :
    s.lookedUp call (.ok op) now =
      lookupAdminAccess s.rollbackTracker s.elevation.disclosureStore chatId now := by
  obtain ⟨credentialId, cred, hget, hmem⟩ := h
  simp only [ReadRuntime.lookedUp, hget, checkChatInScope_eq_ok.2 hmem]
  rfl

/-- Whatever the resolver reads, the disclosures that are live stay in the store. -/
private theorem disclosed?_lookedUp {call : Nat} {op : Result OperatorConfig} {now : Time}
    {c key : String} {disclosure : AdminReadDisclosure}
    (hentry : s.elevation.disclosureStore.disclosed? c key = some disclosure)
    (hlive : now < disclosure.expiresAt) :
    (s.lookedUp call op now).2.disclosed? c key = some disclosure := by
  unfold ReadRuntime.lookedUp
  dsimp only
  split
  · split
    · exact disclosed?_lookupAdminAccess hentry hlive
    · exact hentry
  · exact hentry

private theorem CouplingInv.lookedUp {call : Nat} {op : Result OperatorConfig} {now : Time}
    (hI : CouplingInv ttlMs now s.elevation) :
    CouplingInv ttlMs now
      { s.elevation with disclosureStore := (s.lookedUp call op now).2 } := by
  have hkeeps : ∀ held : CachedElevation, held.Backed ttlMs now s.elevation.disclosureStore →
      held.Backed ttlMs now (s.lookedUp call op now).2 := by
    intro held hbacked
    refine hbacked.restored fun hlive disclosure hentry hle => ⟨disclosure, ?_, hle⟩
    exact disclosed?_lookedUp hentry (Nat.lt_of_lt_of_le hlive hle)
  exact ⟨hI.cached.imp fun h => hkeeps _ h, hI.granted.imp fun h held hgrant =>
    hkeeps held (h held hgrant), hI.named⟩

/-- **The resolver reads the store**, which discloses every live elevation of the chat. -/
private theorem ReadInv.lookedUp (hI : ReadInv ttlMs tr s) {call : Nat}
    {op : Result OperatorConfig} {now : Time} {lifecycle : LifecycleState}
    {es : List LifecycleEvent} (hclock : s.clock ≤ now)
    (h : lifecycleStep cfg hash trustTier s.lifecycle
      (.operatorLookedUp call op (s.lookedUp call op now).1) = some (lifecycle, es)) :
    ReadInv ttlMs (tr ++ es.map .lifecycle)
      { s with
        elevation := { s.elevation with disclosureStore := (s.lookedUp call op now).2 }
        lifecycle := lifecycle
        clock := now } := by
  have hstep := lifecycleStep_sound h
  have hcoupling := hI.coupling.later hclock
  refine ⟨?_, hcoupling.lookedUp, hI.issues.step hstep,
    hstep.headsTracked hI.issues.seals hI.heads, hI.ids, hI.named, hI.reused, ?_⟩
  · rw [List.filterMap_append, filterMap_lifecycle, List.append_nil]
    exact ⟨hI.approval.timers_eq, hI.approval.cached, hI.approval.calls⟩
  · intro owner held hholds hlive access hsource
    have hheld : s.elevation.Holds owner held := by
      cases hholds with
      | cached hget => exact .cached hget
      | granted hcall hgrant => exact .granted hcall hgrant
    rcases hstep.source hI.issues.seals hI.heads hsource with hold | ⟨call', op', heq, hresolves⟩
    · exact hI.covered owner held hheld (Nat.lt_of_le_of_lt hclock hlive) access hold
    · -- the new source is what was read, and the store backs the holder
      cases heq
      obtain ⟨disclosure, hentry, hle⟩ := (hcoupling.of_holds hheld).backed hlive
      have hread : ∃ last, (lookupAdminAccess s.rollbackTracker s.elevation.disclosureStore
          held.chatId now).1 = some last ∧ disclosure.expiresAt ≤ last.expiresAt :=
        le_lookupAdminAccess hentry (Nat.lt_of_lt_of_le hlive hle)
      obtain ⟨last, hlast, hlast_le⟩ := hread
      rw [lookedUp_of_resolves hresolves, hlast]
      exact decide_eq_true (Nat.le_trans hle hlast_le)

/-- **Every step that keeps reads disclosed keeps the invariant.** -/
theorem ReadInv.step (hI : ReadInv ttlMs tr s) (hok : keepsDisclosed ttlMs s a = true)
    (hstep : ReadStep cfg hash trustTier ttlMs s a s' es) : ReadInv ttlMs (tr ++ es) s' := by
  cases hstep with
  | elevated hα h hsame => exact (hI.elevated hα hok h).of_same hsame
  | lived hα h hsame => exact (hI.lived hα h).of_same hsame
  | lookedUp h hsame =>
    have hclock := of_decide_eq_true (Bool.and_eq_true_iff.1 hok).2
    exact (hI.lookedUp hclock h).of_same hsame
  | mapped idMappings =>
    rw [List.append_nil]
    have hnames := (Bool.and_eq_true_iff.1 (Bool.and_eq_true_iff.1 hok).1).2
    obtain ⟨hids, hrequests⟩ := Bool.and_eq_true_iff.1 hnames
    refine ⟨hI.approval, hI.coupling, hI.issues, hI.heads, hids, ?_, hI.reused, hI.covered⟩
    intro call phase hcall request hrequest
    -- the requests in flight keep their chats
    obtain ⟨chatId, hchat, -⟩ := hI.named.of_get? hcall request hrequest
    have hphase := List.all_eq_true.1 hrequests phase (OrdMap.mem_values_iff.2 ⟨call, hcall⟩)
    rw [hrequest, Option.all_some, hchat, Option.all_some] at hphase
    exact ⟨chatId, hchat, of_decide_eq_true hphase⟩
  | idle hsame =>
    rw [List.append_nil]
    exact hI.of_same hsame

theorem ReadInv.of_run
    (h : Run (readRuntime cfg hash trustTier ttlMs κ)
      (fun s a => keepsDisclosed ttlMs s a = true) tr s) : ReadInv ttlMs tr s := by
  refine h.invariant (I := ReadInv ttlMs) .initial ?_
  intro tr s a s' es _ hI hok hstep
  exact hI.step hok (readStep_sound hstep)

end Step

/-! ### Returned elevations are disclosed -/

section Returned

variable {cfg : CredentialManagerConfig} {hash : ScopeSet → List String → String}
  {trustTier : TrustTier} {ttlMs : Nat} {tr : List (ReadEvent κ)} {s s' : ReadRuntime κ}
  {a : ReadAction κ} {es : List (ReadEvent κ)} {call : Nat} {input : ResolveInput κ}
  {elevation : AdminReadElevation}

/-- The step that returns an elevation finds it live and held by the call of the request, and
leaves seals and mapping alone. -/
private theorem granted_of_resolved (hok : keepsDisclosed ttlMs s a = true)
    (hstep : ReadStep cfg hash trustTier ttlMs s a s' es)
    (hmem : .elevation (.resolved call input (.ok (some elevation))) ∈ es) :
    s'.lifecycle = s.lifecycle ∧ s'.idMappings = s.idMappings ∧
      s.clock < elevation.expiresAt ∧ ∃ phase request held,
        s.elevation.calls.get? call = some phase ∧ phase.request? = some request ∧
        request.input = input ∧ phase.grant? = some held ∧ held.elevation = elevation ∧
        (phase = .reuseAudit request held ∨ held = request.cached elevation) := by
  cases hstep with
  | elevated hα h hsame =>
    obtain ⟨tracker, refreshing, rfl⟩ := hsame
    obtain ⟨e, hmem, heq⟩ := List.mem_map.1 hmem
    cases heq
    obtain ⟨phase, request, held, now, rfl, hcall, hrequest, hinput, hgrant, rfl, hheld, -⟩ :=
      h.grant_of_resolved hmem
    refine ⟨rfl, rfl, ?_, phase, request, held, hcall, hrequest, hinput, hgrant, rfl, hheld⟩
    -- the guard looks at what the call is about to return
    simp only [keepsDisclosed, Bool.and_eq_true, decide_eq_true_eq, ReadRuntime.returnsLive, hα,
      timeOf_of_elevationAction hα, hcall, Option.bind_some, hgrant, Option.all_some] at hok
    obtain ⟨⟨⟨⟨-, hlive⟩, -⟩, -⟩, hclock⟩ := hok
    exact Nat.lt_of_le_of_lt hclock hlive
  | lived _ _ _ | lookedUp _ _ =>
    obtain ⟨e, -, heq⟩ := List.mem_map.1 hmem
    cases heq
  | mapped | idle => exact absurd hmem List.not_mem_nil

/-- **Reads are disclosed on the seals.** In every run whose steps keep reads disclosed: when
`resolveForRequest` returns an elevation for a chat, every current seal of the conversation
that the chat id names discloses admin access until the elevation ends. -/
theorem elevation_disclosed
    (h : Run (readRuntime cfg hash trustTier ttlMs κ)
      (fun s a => keepsDisclosed ttlMs s a = true) tr s)
    (hok : keepsDisclosed ttlMs s a = true)
    (hs : readStep cfg hash trustTier ttlMs s a = some (s', es))
    (hmem : .elevation (.resolved call input (.ok (some elevation))) ∈ es) :
    ∃ chatId, input.chatId? = some chatId ∧ s'.Discloses chatId elevation.expiresAt := by
  have hI := ReadInv.of_run h
  obtain ⟨hlifecycle, hmapping, hlive, phase, request, held, hcall, hrequest, rfl, hgrant, rfl,
    hheld⟩ := granted_of_resolved hok (readStep_sound hs) hmem
  obtain ⟨chatId, hchat, hnamed⟩ := hI.named.of_get? hcall request hrequest
  refine ⟨chatId, hchat, ?_⟩
  intro key envelope hget hconversation
  rw [hlifecycle] at hget
  rw [hmapping] at hconversation
  -- a seal of the conversation is one of the chat that the request is resolved for
  have hseal : envelope.pair.2 = request.canonicalChatId :=
    (eq_normalizeChatId hI.ids envelope.chain.current.chatId_ok hconversation).trans hnamed
  -- what the call reuses is for the same chat
  have hchatId : held.chatId = request.canonicalChatId := by
    rcases hheld with hreused | hmade
    · exact hI.reused.of_get? hcall request held hreused
    · rw [hmade]
      rfl
  exact hI.covered (some call) held (.granted hcall hgrant) hlive _
    (.seals (.current hget (hseal.trans hchatId.symm)))

end Returned

/-! ### Seals from before the approval -/

/-- The chat and the end of an elevation that the event returns. -/
def ReadEvent.returned? : ReadEvent κ → Option (String × Time)
  | .elevation (.resolved _ input (.ok (some approved))) =>
    input.chatId?.map (·, approved.expiresAt)
  | _ => none

/-- A request to list the messages of the chat that `buildFirst` issues a seal for. -/
def readRequest : ResolveInput Unit :=
  { someRequest with
    params := [("chatId", .string "conv_0123456789abcdef"),
      ("dangerouslyAllowMessageRead", .bool true)] }

def publishSeal (call : Nat) : List (ReadAction Unit) :=
  [.lifecycle (.seals (.signed call (.ok ⟨"sig", "key_0123456789abcdef"⟩))),
    .lifecycle (.seals (.published call (.ok ())))]

/-- The first seal of the chat, from the call of `issue` to its publication. -/
def issueSeal (now : Time) : List (ReadAction Unit) :=
  [.lifecycle (.issue 0 "cred_0123456789abcdef" "conv_0123456789abcdef" now),
    .lifecycle (.credentialLookedUp 0), .operatorLookedUp 0 (.ok ⟨.perChat, none⟩) now,
    .lifecycle (.inputReady 0 "seal_0000000000000001" now)] ++ publishSeal 0

/-- An approval up to the notification that waits for the refreshes. -/
def approve (now : Time) : List (ReadAction Unit) :=
  [.resolve 1 readRequest now, .elevation (.authorized 1 (.ok ())),
    .elevation (.fingerprint 1 (.ok "fingerprint") "approval_1" now)]

/-- The approval comes first, and the seal reads it; a second request finds it cached. -/
def sealAfterApproval : List (ReadAction Unit) :=
  .lifecycle issueCredential :: approve 1 ++
    [.refreshNext 1 10 "seal_0000000000000002" 1, .notified 1 2,
      .elevation (.audited 1 (.ok ()) 2)] ++
    issueSeal 3 ++ [.resolve 2 readRequest 4]

/-- The seal comes first, and is refreshed after the approval. -/
def sealBeforeApproval : List (ReadAction Unit) :=
  .lifecycle issueCredential :: issueSeal 1 ++ approve 2 ++
    .refreshNext 1 10 "seal_0000000000000002" 3 :: publishSeal 10 ++
    [.refreshNext 1 11 "seal_0000000000000003" 4, .notified 1 4]

/-- The runtime of both runs. -/
def exampleRuntime : Machine (ReadRuntime Unit) (ReadAction Unit) (ReadEvent Unit) :=
  readRuntime {} (fun _ _ => "") .sourceVerified 60000 Unit

def auditWritten (call : Nat) : ReadAction Unit :=
  .elevation (.audited call (.ok ()) 5)

/-- The state, chat and end of the elevation that the call returns with its audit entry. -/
def returnOf (call : Nat) (s : ReadRuntime Unit) : Option (ReadRuntime Unit × String × Time) :=
  (exampleRuntime.step s (auditWritten call)).bind fun (s', es) =>
    (es.filterMap ReadEvent.returned?).head?.map (s', ·)

theorem returnOf_eq_some {call : Nat} {s s' : ReadRuntime Unit} {chatId : String} {time : Time}
    (h : returnOf call s = some (s', chatId, time)) :
    ∃ es call' input elevation, exampleRuntime.step s (auditWritten call) = some (s', es) ∧
      .elevation (.resolved call' input (.ok (some elevation))) ∈ es ∧
      input.chatId? = some chatId ∧ elevation.expiresAt = time := by
  obtain ⟨⟨t, es⟩, hs, hreturned⟩ := Option.bind_eq_some_iff.1 h
  obtain ⟨found, hhead, heq⟩ := Option.map_eq_some_iff.1 hreturned
  cases heq
  obtain ⟨e, hmem, he⟩ := List.mem_filterMap.1 (List.mem_of_head? hhead)
  unfold ReadEvent.returned? at he
  split at he
  · next call' input elevation =>
    obtain ⟨c, hchat, heq⟩ := Option.map_eq_some_iff.1 he
    cases heq
    exact ⟨es, call', input, elevation, hs, hmem, hchat, rfl⟩
  · cases he

/-- The second request returns the cached elevation while the seal of the chat discloses it. -/
theorem elevation_disclosed_reused :
    ∃ tr s s' es call input elevation key envelope,
      Run exampleRuntime (fun s a => keepsDisclosed 60000 s a = true) tr s ∧
      exampleRuntime.step s (auditWritten 2) = some (s', es) ∧
      .elevation (.resolved call input (.ok (some elevation))) ∈ es ∧
      s'.lifecycle.seals.manager.currentSeals.get? key = some envelope ∧
      disclosedUntil elevation.expiresAt envelope.chain.current.adminAccess = true := by
  obtain ⟨tr, s, hrun, htest⟩ := exists_run_of_exec exampleRuntime
    (fun s a => keepsDisclosed 60000 s a) sealAfterApproval
    (fun _ s => keepsDisclosed 60000 s (auditWritten 2) &&
      (returnOf 2 s).any fun (s', chatId, _) =>
        s'.lifecycle.seals.manager.currentSeals.values.any
          (·.pair.2 ∈ conversationIds s'.idMappings chatId)) (by decide)
  obtain ⟨hok, hany⟩ := Bool.and_eq_true_iff.1 htest
  obtain ⟨⟨s', chatId, time⟩, hreturn, hseal⟩ := (Option.any_eq_true _ _).1 hany
  obtain ⟨envelope, hvalue, hconversation⟩ := List.any_eq_true.1 hseal
  obtain ⟨key, hget⟩ := OrdMap.mem_values_iff.1 hvalue
  obtain ⟨es, call, input, elevation, hs, hmem, hchat, -⟩ := returnOf_eq_some hreturn
  obtain ⟨chatId', hchat', hdiscloses⟩ := elevation_disclosed hrun hok hs hmem
  obtain rfl : chatId = chatId' := Option.some.inj (hchat.symm.trans hchat')
  exact ⟨tr, s, s', es, call, input, elevation, key, envelope, hrun, hs, hmem, hget,
    hdiscloses key envelope hget (of_decide_eq_true hconversation)⟩

/-- **A seal from before the approval does not disclose it**: the refresh rebuilds the seal
from the input it was issued with, and the elevation is returned all the same. -/
theorem elevation_undisclosed :
    ¬ ∀ tr s a s' es call input elevation,
      Run exampleRuntime (fun s a => s.clock ≤ s.timeOf a) tr s →
      exampleRuntime.step s a = some (s', es) →
      .elevation (.resolved call input (.ok (some elevation))) ∈ es →
      ∃ chatId, input.chatId? = some chatId ∧ s'.Discloses chatId elevation.expiresAt := by
  intro hall
  obtain ⟨tr, s, hrun, htest⟩ := exists_run_of_exec exampleRuntime
    (fun s a => s.clock ≤ s.timeOf a) sealBeforeApproval
    (fun _ s => (returnOf 1 s).any fun (s', chatId, time) => !decide (s'.Discloses chatId time))
    (by decide)
  obtain ⟨⟨s', chatId, time⟩, hreturn, hnot⟩ := (Option.any_eq_true _ _).1 htest
  obtain ⟨es, call, input, elevation, hs, hmem, hchat, rfl⟩ := returnOf_eq_some hreturn
  obtain ⟨chatId', hchat', hdiscloses⟩ :=
    hall tr s (auditWritten 1) s' es call input elevation (hrun.mono fun _ _ => of_decide_eq_true)
      hs hmem
  obtain rfl : chatId = chatId' := Option.some.inj (hchat.symm.trans hchat')
  have hundisclosed : (!decide (s'.Discloses chatId elevation.expiresAt)) = true := hnot
  rw [decide_eq_true hdiscloses] at hundisclosed
  cases hundisclosed

end Signet
