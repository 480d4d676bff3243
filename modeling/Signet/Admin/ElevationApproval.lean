import Signet.Admin.ReadElevation

/-!
# Elevations are approved

What `resolveForRequest` returns was approved: the approver authorized a call of a session, and
that call made the elevation out. The argument is one invariant, `ElevationInv`, of the trace and
the state: what is cached, what a call is about to return, and what a call may restore to the store
were each approved for their own session and chat.

A cached elevation is found by its key, which does not determine the session: it is the one of the
session that asks if requests reuse elevations of their own session only
(`ElevationInv.of_resolved`, with `ElevationPhase.Reuses` along a run). Sessions whose ids have no
colon share no key (`ElevationInv.own_of_colonFree`).
-/

namespace Signet

open Lib

variable {κ : Type} {ttlMs : Nat}

/-- In the trace the approver has authorized a call of the session, that call has
made the elevation out, and it is for the chat. -/
structure CachedElevation.Approved (tr : List (ElevationEvent κ)) (cached : CachedElevation) :
    Prop where
  made : ∃ call, .authorized call cached.session ∈ tr ∧
    .approved call cached.session cached.elevation ∈ tr
  scope : cached.elevation.chatIds = [cached.chatId]

/-- What a call rests on: an elevation it is about to return or to restore was
approved, and before that the approver was asked. -/
structure ElevationPhase.Justified (tr : List (ElevationEvent κ)) (call : Nat)
    (phase : ElevationPhase κ) : Prop where
  granted : ∀ cached, phase.grant? = some cached → cached.Approved tr
  withdrawn : ∀ cached, phase.withdrawn? = some cached → cached.Approved tr
  authorized : ∀ request, phase = .fingerprinting request →
    .authorized call request.input.session ∈ tr

/-- **Nothing is kept or about to be returned that was not approved.** -/
structure ElevationInv (tr : List (ElevationEvent κ)) (s : ElevationState κ) : Prop where
  /-- A timer is armed exactly for what is cached. -/
  timers_eq : s.expirationTimers = s.cache
  /-- An elevation is cached under its own key and was approved. -/
  cached : s.cache.Forall fun key cached => key = cached.key ∧ cached.Approved tr
  calls : s.calls.Forall fun call phase => phase.Justified tr call

theorem CachedElevation.Approved.append {tr : List (ElevationEvent κ)} {cached : CachedElevation}
    (h : cached.Approved tr) (es : List (ElevationEvent κ)) : cached.Approved (tr ++ es) := by
  obtain ⟨⟨call, hauthorized, happroved⟩, hscope⟩ := h
  exact ⟨⟨call, List.mem_append_left _ hauthorized, List.mem_append_left _ happroved⟩, hscope⟩

namespace ElevationPhase.Justified

variable {tr : List (ElevationEvent κ)} {call : Nat} {phase phase' : ElevationPhase κ}

theorem append (h : phase.Justified tr call) (es : List (ElevationEvent κ)) :
    phase.Justified (tr ++ es) call where
  granted cached hgrant := (h.granted cached hgrant).append es
  withdrawn cached hwithdrawn := (h.withdrawn cached hwithdrawn).append es
  authorized request hphase := List.mem_append_left _ (h.authorized request hphase)

/-- A phase that is about to return an approved elevation. -/
theorem of_grant {cached : CachedElevation} (hgrant : phase.grant? = some cached)
    (happroved : cached.Approved tr)
    (hrest : phase.withdrawn? = none ∧ ∀ request, phase ≠ .fingerprinting request) :
    phase.Justified tr call where
  granted cached' hsome := by
    rw [hgrant] at hsome
    cases hsome
    exact happroved
  withdrawn cached' hsome := by
    rw [hrest.1] at hsome
    cases hsome
  authorized request hphase := absurd hphase (hrest.2 request)

theorem idle (hgrant : phase.grant? = none)
    (hrest : phase.withdrawn? = none ∧ ∀ request, phase ≠ .fingerprinting request) :
    phase.Justified tr call where
  granted cached hsome := by
    rw [hgrant] at hsome
    cases hsome
  withdrawn cached hsome := by
    rw [hrest.1] at hsome
    cases hsome
  authorized request hphase := absurd hphase (hrest.2 request)

theorem moved (h : phase.Justified tr call)
    (hgrant : phase'.grant? = none ∨ phase'.grant? = phase.grant?)
    (hrest : phase'.withdrawn? = none ∧ ∀ request, phase' ≠ .fingerprinting request) :
    phase'.Justified tr call := by
  cases hnew : phase'.grant? with
  | none => exact idle hnew hrest
  | some cached =>
    rw [hnew] at hgrant
    have hsame : phase.grant? = some cached := (hgrant.resolve_left nofun).symm
    exact of_grant hnew (h.granted cached hsame) hrest

/-- A phase that may restore the disclosure of an approved elevation. -/
theorem of_withdrawn {cached : CachedElevation} {cause : ExpiryCause κ}
    {changedChats : List String} (happroved : cached.Approved tr) :
    (ElevationPhase.expirySync cause cached changedChats).Justified tr call where
  granted cached' hsome := by cases hsome
  withdrawn cached' hsome := by
    cases hsome
    exact happroved
  authorized request hphase := by cases hphase

end ElevationPhase.Justified

namespace ElevationInv

variable {tr : List (ElevationEvent κ)} {s s' : ElevationState κ}

theorem initial : ElevationInv tr (ElevationState.init : ElevationState κ) where
  timers_eq := rfl
  cached := OrdMap.Forall.empty
  calls := OrdMap.Forall.empty

theorem append (hI : ElevationInv tr s) (es : List (ElevationEvent κ)) :
    ElevationInv (tr ++ es) s where
  timers_eq := hI.timers_eq
  cached := hI.cached.imp fun h => ⟨h.1, h.2.append es⟩
  calls := hI.calls.imp fun h => h.append es

/-- A call moves to a justified phase, whatever is disclosed. -/
theorem await (hI : ElevationInv tr s) {call : Nat} {phase : ElevationPhase κ}
    (hphase : phase.Justified tr call) (store : DisclosureStore) :
    ElevationInv tr { s.await call phase with disclosureStore := store } where
  timers_eq := hI.timers_eq
  cached := hI.cached
  calls := hI.calls.set hphase

theorem finish (hI : ElevationInv tr s) (call : Nat) : ElevationInv tr (s.finish call) where
  timers_eq := hI.timers_eq
  cached := hI.cached
  calls := hI.calls.erase call

theorem of_timer (hI : ElevationInv tr s) {key : String} {cached : CachedElevation}
    (htimer : s.expirationTimers.get? key = some cached) :
    s.cache.get? cached.key = some cached ∧ cached.Approved tr := by
  rw [hI.timers_eq] at htimer
  obtain ⟨hkey, happroved⟩ := hI.cached.of_get? htimer
  rw [hkey] at htimer
  exact ⟨htimer, happroved⟩

/-- An elevation leaves the cache with its timer, and its disclosure ends. -/
theorem expireCachedElevation (hI : ElevationInv tr s) (call : Nat)
    (origin : Option (ElevationRequest κ)) {cached : CachedElevation} (now : Time)
    (happroved : cached.Approved tr) :
    ElevationInv tr (s.expireCachedElevation call origin cached now).1 where
  timers_eq := congrArg (OrdMap.erase · cached.key) hI.timers_eq
  cached := hI.cached.erase _
  calls := hI.calls.set (.of_withdrawn happroved)

theorem cacheElevation (hI : ElevationInv tr s) {cached : CachedElevation}
    (happroved : cached.Approved tr) : ElevationInv tr (s.cacheElevation cached) where
  timers_eq := congrArg (OrdMap.set · cached.key cached) hI.timers_eq
  cached := hI.cached.set ⟨rfl, happroved⟩
  calls := hI.calls

/-- **Every step keeps the invariant.** -/
theorem step {a : ElevationAction κ} {es : List (ElevationEvent κ)} (hI : ElevationInv tr s)
    (hstep : ElevationStep ttlMs s a s' es) : ElevationInv (tr ++ es) s' := by
  cases hstep with
  | skipped => exact hI.append _
  | reused _ _ hcached =>
    -- the call holds what the cache holds
    rw [List.append_nil]
    exact hI.await (.of_grant rfl (hI.cached.of_get? hcached).2 ⟨rfl, by nofun⟩) _
  | expiredFound _ _ hcached =>
    have happroved := (hI.cached.of_get? hcached).2
    exact (hI.expireCachedElevation _ _ _ happroved).append _
  | timer _ htimer =>
    have happroved := (hI.of_timer htimer).2
    exact (hI.expireCachedElevation _ _ _ happroved).append _
  | asked => exact (hI.append []).await (.idle rfl ⟨rfl, by nofun⟩) _
  | @authorized call request hcall =>
    refine (hI.append _).await ⟨by nofun, by nofun, fun request' hphase => ?_⟩ _
    cases hphase
    exact List.mem_append_right _ List.mem_cons_self
  | @approved call request fingerprint approvalId now hcall =>
    -- the call was authorized before, and the elevation is made out now
    have hauthorized := (hI.calls.of_get? hcall).authorized request rfl
    refine (hI.append _).await (.of_grant rfl ⟨⟨call, ?_, ?_⟩, rfl⟩ ⟨rfl, by nofun⟩) _
    · exact List.mem_append_left _ hauthorized
    · exact List.mem_append_right _ List.mem_cons_self
  | moved hcall hgrant hrest =>
    rw [List.append_nil]
    exact hI.await ((hI.calls.of_get? hcall).moved hgrant hrest) _
  | ended => exact (hI.finish _).append _
  | rolledBack => exact (hI.append _).await (.idle rfl ⟨rfl, by nofun⟩) _
  | auditFailed hcall =>
    have happroved := (hI.calls.of_get? hcall).granted _ rfl
    exact (hI.await (.of_withdrawn happroved) _).append _
  | restored => exact (hI.append _).await (.idle rfl ⟨rfl, by nofun⟩) _
  | returnedReused => exact (hI.finish _).append _
  | returnedApproved hcall =>
    have happroved := (hI.calls.of_get? hcall).granted _ rfl
    exact ((hI.cacheElevation happroved).finish _).append _

end ElevationInv

/-! ### Reuse -/

/-- What the call reuses is related to its request. -/
def ElevationPhase.Reuses (Own : ElevationRequest κ → CachedElevation → Prop)
    (phase : ElevationPhase κ) : Prop :=
  ∀ request cached, phase = .reuseAudit request cached → Own request cached

/-- **A step reuses only what its request finds**: if that is the request's own, calls reuse only
elevations of their own. -/
theorem ElevationStep.reuses {Own : ElevationRequest κ → CachedElevation → Prop}
    {s s' : ElevationState κ} {a : ElevationAction κ} {es : List (ElevationEvent κ)}
    (hstep : ElevationStep ttlMs s a s' es)
    (hown : ∀ request cached, s.reused? a = some (request, cached) → Own request cached)
    (h : s.calls.Forall fun _ phase => phase.Reuses Own) :
    s'.calls.Forall fun _ phase => phase.Reuses Own := by
  cases hstep with
  | skipped => exact h
  | @reused call input idMappings now chatId cached _ hchat hcached hlive =>
    refine h.set fun request cached' hphase => ?_
    cases hphase
    refine hown _ cached ?_
    simp only [ElevationState.reused?, hchat, Option.bind_some, ElevationRequest.cacheKey, hcached,
      Option.filter_some, decide_eq_true hlive, if_true, Option.map_some]
  | moved _ _ _ hreuse => exact h.set fun request cached hphase => absurd hphase (hreuse _ _)
  | expiredFound | timer | asked | authorized | approved | rolledBack | auditFailed | restored =>
    exact h.set (by nofun)
  | ended | returnedReused | returnedApproved => exact h.erase _

/-- The ids of the session have no colon. -/
def AdminSession.colonFree (session : AdminSession) : Bool :=
  ':' ∉ session.iss.toList && ':' ∉ session.jti.toList

/-- **Sessions without colons in their ids share no key.** -/
theorem cacheKey_inj {session session' : AdminSession} {chatId chatId' : String}
    (hs : session.colonFree = true) (hs' : session'.colonFree = true)
    (h : buildCacheKey session chatId = buildCacheKey session' chatId') :
    session = session' ∧ chatId = chatId' := by
  simp only [AdminSession.colonFree, Bool.and_eq_true, decide_eq_true_eq] at hs hs'
  have hkey : joinKey session.iss (joinKey session.jti chatId) =
      joinKey session'.iss (joinKey session'.jti chatId') := by
    simpa only [buildCacheKey, AdminSession.sessionKey, joinKey, String.append_assoc] using h
  obtain ⟨hiss, hrest⟩ := joinKey_inj_of_not_mem hs.1 hs'.1 hkey
  obtain ⟨hjti, hchat⟩ := joinKey_inj_of_not_mem hs.2 hs'.2 hrest
  cases session
  cases session'
  cases hiss
  cases hjti
  exact ⟨rfl, hchat⟩

/-- If the ids of all sessions have no colon, a request reuses what was approved for its own
session and chat. -/
theorem ElevationInv.own_of_colonFree {tr : List (ElevationEvent κ)} {s : ElevationState κ}
    {a : ElevationAction κ} {request : ElevationRequest κ} {cached : CachedElevation}
    (hI : ElevationInv tr s)
    (hsessions : ∀ call session, .authorized call session ∈ tr → session.colonFree = true)
    (hrequest : request.input.session.colonFree = true)
    (h : s.reused? a = some (request, cached)) :
    cached.session = request.input.session ∧ cached.chatId = request.canonicalChatId := by
  cases a with
  | resolve call input idMappings now =>
    obtain ⟨chatId, -, hfound⟩ := Option.bind_eq_some_iff.1 h
    obtain ⟨found, hcached, heq⟩ := Option.map_eq_some_iff.1 hfound
    cases heq
    obtain ⟨hkey, ⟨call, hauthorized, -⟩, -⟩ :=
      hI.cached.of_get? (Option.filter_eq_some_iff.1 hcached).1
    exact cacheKey_inj (hsessions call _ hauthorized) hrequest hkey.symm
  | timer | authorized | fingerprint | notified | audited => cases h

/-! ### Returned elevations -/

/-- **A step returns an elevation only for a call that was about to return it**, when the
audit entry has been written: one that it reuses, or one that it made out. -/
theorem ElevationStep.grant_of_resolved {s s' : ElevationState κ} {a : ElevationAction κ}
    {es : List (ElevationEvent κ)} (hstep : ElevationStep ttlMs s a s' es) {call : Nat}
    {input : ResolveInput κ} {elevation : AdminReadElevation}
    (hmem : .resolved call input (.ok (some elevation)) ∈ es) :
    ∃ (phase : ElevationPhase κ) (request : ElevationRequest κ) (held : CachedElevation)
      (now : Time),
      a = .audited call (.ok ()) now ∧ s.calls.get? call = some phase ∧
      phase.request? = some request ∧ request.input = input ∧
      phase.grant? = some held ∧ held.elevation = elevation ∧
      (phase = .reuseAudit request held ∨ held = request.cached elevation) ∧
      s'.disclosureStore = s.disclosureStore := by
  cases hstep with
  | returnedReused hcall =>
    cases List.mem_singleton.1 hmem
    exact ⟨_, _, _, _, rfl, hcall, rfl, rfl, rfl, rfl, .inl rfl, rfl⟩
  | returnedApproved hcall =>
    cases List.mem_singleton.1 hmem
    exact ⟨_, _, _, _, rfl, hcall, rfl, rfl, rfl, rfl, .inr rfl, rfl⟩
  | ended _ hes =>
    rcases hes with rfl | ⟨_, _, rfl⟩
    · exact absurd hmem List.not_mem_nil
    · cases List.mem_singleton.1 hmem
  | skipped => cases List.mem_singleton.1 hmem
  | reused | asked | moved => exact absurd hmem List.not_mem_nil
  | authorized | expiredFound | timer | rolledBack | auditFailed | restored =>
    cases List.mem_singleton.1 hmem
  | approved =>
    -- the elevation is not returned before it is published and audited
    rcases List.mem_cons.1 hmem with h | h
    · cases h
    · cases List.mem_singleton.1 h

/-- **`resolveForRequest` returns only what was approved for the session**, if calls reuse only
elevations of their own session. -/
theorem ElevationInv.of_resolved {tr : List (ElevationEvent κ)} {s s' : ElevationState κ}
    {a : ElevationAction κ} {es : List (ElevationEvent κ)} (hI : ElevationInv tr s)
    (hreuses : s.calls.Forall fun _ phase =>
      phase.Reuses fun request cached => cached.session = request.input.session)
    (hstep : ElevationStep ttlMs s a s' es) {call : Nat} {input : ResolveInput κ}
    {elevation : AdminReadElevation}
    (hmem : .resolved call input (.ok (some elevation)) ∈ es) :
    ∃ cached : CachedElevation, cached.elevation = elevation ∧ cached.session = input.session ∧
      cached.Approved tr := by
  obtain ⟨phase, request, held, now, -, hcall, -, rfl, hgrant, hsame, hheld, -⟩ :=
    hstep.grant_of_resolved hmem
  refine ⟨held, hsame, ?_, (hI.calls.of_get? hcall).granted _ hgrant⟩
  rcases hheld with hreused | rfl
  · exact hreuses.of_get? hcall request held hreused
  · rfl

end Signet
