import Signet.Seals.Machine

/-!
# Invariants of the seal manager

`SealInv` ties the tracked maps and the calls in flight to the payloads they are
about. It holds in every run whose resolver answers the pair it was asked about
(`resolverAnswers`), which is what `InputResolver` documents and what
`createSealInputResolver` does, since every step keeps it (`SealInv.step`).
-/

namespace Signet

open Lib

/-- The resolver's answer is about the credential and chat it was asked for. -/
def resolverAnswers (s : SealState) : SealAction → Bool
  | .inputResolved call (.ok input) _ _ =>
    match s.calls.get? call with
    | some (.resolving credentialId chatId) =>
      input.credentialId = credentialId && input.chatId = chatId
    | _ => true
  | _ => true

/-- A seal in flight is tracked and published under its own pair, and its payload
is its input under some id and time. -/
structure PendingSeal.Coherent (pending : PendingSeal) : Prop where
  key_eq : pending.key = pairKey pending.pair
  /-- The chat it goes to is the chat it is about. -/
  publishTo_eq : pending.publishTo = pending.pair.2
  /-- The payload carries the input. -/
  payload_eq : ∃ sealId now,
    pending.chain.current.toSealPayloadType = pending.input.toPayload sealId now

/-- **Coherence of the tracked maps and the calls in flight.** -/
structure SealInv (s : SealState) : Prop where
  /-- A tracked seal was built from the tracked input under its own id. -/
  seal_input : ∀ {sealId envelope}, s.manager.sealsById.get? sealId = some envelope →
    ∃ input now, s.manager.inputsBySealId.get? sealId = some input ∧
      envelope.chain.current.toSealPayloadType = input.toPayload sealId now
  /-- A current seal is tracked under the key of its pair. -/
  current_key : ∀ {key envelope}, s.manager.currentSeals.get? key = some envelope →
    key = pairKey envelope.pair
  /-- Seals in flight are coherent. -/
  pending_ok : ∀ {call phase pending}, s.calls.get? call = some phase →
    phase.pending? = some pending → pending.Coherent
  /-- A revocation in flight is tracked under the pair of some seal. -/
  revocation_ok : ∀ {call phase pending}, s.calls.get? call = some phase →
    phase.revocation? = some pending →
      pending.key = pairKey pending.pair ∧ ∃ payload : SealPayload, pending.pair = payload.pair

theorem SealInv.initial : SealInv .init where
  seal_input h := by simp [SealState.init, SealManager.new] at h
  current_key h := by simp [SealState.init, SealManager.new] at h
  pending_ok h := by simp [SealState.init] at h
  revocation_ok h := by simp [SealState.init] at h

/-- What the resolver contract says about the call that resumes. -/
theorem resolverAnswers_resolving {s : SealState} {call : Nat} {input : SealInput}
    {newSealId : String} {now : Time} {credentialId chatId : String}
    (h : resolverAnswers s (.inputResolved call (.ok input) newSealId now) = true)
    (hcall : s.calls.get? call = some (.resolving credentialId chatId)) :
    input.credentialId = credentialId ∧ input.chatId = chatId := by
  simpa [resolverAnswers, hcall] using h

theorem forall_calls_set {calls : OrdMap Nat SealCall} {P : SealCall → Prop} {call : Nat}
    {phase : SealCall} (hold : ∀ {c ph}, calls.get? c = some ph → P ph) (hnew : P phase)
    {c : Nat} {ph : SealCall} (h : (calls.set call phase).get? c = some ph) : P ph := by
  rcases OrdMap.get?_set_eq_some h with ⟨-, rfl⟩ | ⟨-, h⟩
  · exact hnew
  · exact hold h

section Step

variable {s : SealState}

theorem PendingSeal.coherent_of_issueResolved {credentialId chatId : String}
    {input : SealInput} {newSealId : String} {now : Time} {pending : PendingSeal}
    (hans : input.credentialId = credentialId ∧ input.chatId = chatId)
    (h : s.manager.issueResolved chatId input newSealId now = .ok (.inr pending)) :
    pending.Coherent := by
  obtain ⟨hstart, hinput, hkey, hto, -⟩ := SealManager.issueResolved_eq_pending h
  have hpair : pending.pair = (input.credentialId, chatId) := by
    rw [PendingSeal.pair, hstart.payload_eq, hinput, ← hans.2]
    rfl
  refine ⟨?_, ?_, newSealId, now, hstart.payload_eq⟩
  · rw [hkey, hpair]; rfl
  · rw [hto, hpair]

/-- A refresh is coherent, and is about the pair of the seal it was called for. -/
theorem SealInv.coherent_of_refreshStart (hI : SealInv s) {sealId newSealId : String}
    {now : Time} {pending : PendingSeal}
    (h : s.manager.refreshStart sealId newSealId now = .ok pending) :
    pending.Coherent ∧ ∃ existing, s.manager.sealsById.get? sealId = some existing ∧
      pending.pair = existing.pair := by
  obtain ⟨hstart, hinput, -, existing, hexisting, hkey, hto, -⟩ :=
    SealManager.refreshStart_eq_ok h
  obtain ⟨input, issuedAt, hinput', hpayload⟩ := hI.seal_input hexisting
  obtain rfl : input = pending.input := Option.some.inj (hinput'.symm.trans hinput)
  have hpair : pending.pair = existing.pair := by
    rw [PendingSeal.pair, SealEnvelope.pair, hstart.payload_eq, hpayload]
    rfl
  refine ⟨⟨?_, ?_, newSealId, now, hstart.payload_eq⟩, existing, hexisting, hpair⟩
  · rw [hkey, hpair]
  · rw [hto, hpair]

end Step

/-- **Every step keeps the invariant** when the resolver answers its pair. -/
theorem SealInv.step {s s' : SealState} {a : SealAction} {es : List SealEvent}
    (hI : SealInv s) (hans : resolverAnswers s a = true) (hstep : SealStep s a s' es) :
    SealInv s' := by
  -- the calls that stay and the maps that stay keep their clauses; only the
  -- phase written by the step needs an argument
  have hpend : ∀ {c ph}, s.calls.get? c = some ph →
      ∀ pending, ph.pending? = some pending → pending.Coherent :=
    fun hc _ hp => hI.pending_ok hc hp
  have hrev : ∀ {c ph}, s.calls.get? c = some ph → ∀ pending, ph.revocation? = some pending →
      pending.key = pairKey pending.pair ∧ ∃ payload : SealPayload, pending.pair = payload.pair :=
    fun hc _ hp => hI.revocation_ok hc hp
  cases hstep with
  | issue hnew =>
    exact ⟨hI.seal_input, hI.current_key,
      fun hc => forall_calls_set hpend (by simp [SealCall.pending?]) hc _,
      fun hc => forall_calls_set hrev (by simp [SealCall.revocation?]) hc _⟩
  | failed _ _ _ hes =>
    exact ⟨hI.seal_input, hI.current_key,
      fun hc => hI.pending_ok (OrdMap.get?_erase_eq_some hc).2,
      fun hc => hI.revocation_ok (OrdMap.get?_erase_eq_some hc).2⟩
  | rejected _ _ hes => exact hI
  | unchanged hcall hres =>
    exact ⟨hI.seal_input, hI.current_key,
      fun hc => hI.pending_ok (OrdMap.get?_erase_eq_some hc).2,
      fun hc => hI.revocation_ok (OrdMap.get?_erase_eq_some hc).2⟩
  | issueBuilt hcall hres =>
    have hco := PendingSeal.coherent_of_issueResolved (resolverAnswers_resolving hans hcall) hres
    exact ⟨hI.seal_input, hI.current_key,
      fun hc => forall_calls_set hpend (by simpa [SealCall.pending?] using hco) hc _,
      fun hc => forall_calls_set hrev (by simp [SealCall.revocation?]) hc _⟩
  | refreshBuilt hnew hres =>
    have hco := (hI.coherent_of_refreshStart hres).1
    exact ⟨hI.seal_input, hI.current_key,
      fun hc => forall_calls_set hpend (by simpa [SealCall.pending?] using hco) hc _,
      fun hc => forall_calls_set hrev (by simp [SealCall.revocation?]) hc _⟩
  | publish hcall =>
    have hco := hI.pending_ok hcall rfl
    exact ⟨hI.seal_input, hI.current_key,
      fun hc => forall_calls_set hpend (by simpa [SealCall.pending?] using hco) hc _,
      fun hc => forall_calls_set hrev (by simp [SealCall.revocation?]) hc _⟩
  | @recorded call pending signed hcall =>
    have hco := hI.pending_ok hcall rfl
    refine ⟨?_, ?_, fun hc => hI.pending_ok (OrdMap.get?_erase_eq_some hc).2,
      fun hc => hI.revocation_ok (OrdMap.get?_erase_eq_some hc).2⟩
    · -- the seal and its input are written together, under the seal's id
      intro sealId envelope hget
      obtain ⟨id, now, hpayload⟩ := hco.payload_eq
      have hid : (pending.envelope signed).sealId = id := by
        rw [PendingSeal.envelope_sealId, hpayload]; rfl
      simp only [SealManager.track] at hget ⊢
      rcases OrdMap.get?_set_eq_some hget with ⟨rfl, rfl⟩ | ⟨hne, hget⟩
      · refine ⟨pending.input, now, OrdMap.get?_set_self _ _ _, ?_⟩
        rw [hid]
        exact hpayload
      · obtain ⟨input, issuedAt, hinput, hp⟩ := hI.seal_input hget
        exact ⟨input, issuedAt, by rw [OrdMap.get?_set_of_ne _ _ hne]; exact hinput, hp⟩
    · intro key envelope hget
      rcases OrdMap.get?_set_eq_some hget with ⟨rfl, rfl⟩ | ⟨-, hget⟩
      · exact hco.key_eq
      · exact hI.current_key hget
  | revoke hnew hres =>
    obtain ⟨-, hkey, existing, -, hpair⟩ := SealManager.revokeStart_eq_ok hres
    exact ⟨hI.seal_input, hI.current_key,
      fun hc => forall_calls_set hpend (by simp [SealCall.pending?]) hc _,
      fun hc => forall_calls_set hrev
        (by simpa [SealCall.revocation?] using ⟨hkey, existing.chain.current, hpair⟩) hc _⟩
  | publishRevocation hcall =>
    have hok := hI.revocation_ok hcall rfl
    exact ⟨hI.seal_input, hI.current_key,
      fun hc => forall_calls_set hpend (by simp [SealCall.pending?]) hc _,
      fun hc => forall_calls_set hrev (by simpa [SealCall.revocation?] using hok) hc _⟩
  | revoked hcall =>
    refine ⟨hI.seal_input, ?_, fun hc => hI.pending_ok (OrdMap.get?_erase_eq_some hc).2,
      fun hc => hI.revocation_ok (OrdMap.get?_erase_eq_some hc).2⟩
    intro key envelope hget
    exact hI.current_key (OrdMap.get?_erase_eq_some hget).2

/-! ### Properties of the pairs that get seals -/

/-- Every seal that is tracked or in flight is about a pair with `P`, and every
seal that waits for its signature about a pair with `A`. -/
structure SealPairs (P A : String × String → Prop) (s : SealState) : Prop where
  tracked : ∀ {sealId envelope}, s.manager.sealsById.get? sealId = some envelope →
    P envelope.pair
  pending : ∀ {call phase p}, s.calls.get? call = some phase → phase.pending? = some p →
    P p.pair
  signing : ∀ {call p}, s.calls.get? call = some (.signing p) → A p.pair

/-- Weakening both properties. -/
theorem SealPairs.mono {P A P' A' : String × String → Prop} {s : SealState}
    (h : SealPairs P A s) (hP : ∀ pair, P pair → P' pair)
    (hA : ∀ {call p}, s.calls.get? call = some (.signing p) → A' p.pair) :
    SealPairs P' A' s where
  tracked ht := hP _ (h.tracked ht)
  pending hc hp := hP _ (h.pending hc hp)
  signing := hA

/-- **A step keeps the properties** when an issue that has a seal to build is about
a pair with both, and a refresh that has one about a pair with `A`. -/
theorem SealPairs.step {P A : String × String → Prop} {s s' : SealState} {a : SealAction}
    {es : List SealEvent} (h : SealPairs P A s) (hI : SealInv s)
    (hans : resolverAnswers s a = true)
    (hissue : ∀ {call credentialId chatId input newSealId now},
      a = .inputResolved call (.ok input) newSealId now →
      s.calls.get? call = some (.resolving credentialId chatId) →
      s.manager.needsSeal chatId input = true → P (credentialId, chatId) ∧ A (credentialId, chatId))
    (hrefresh : ∀ {call sealId newSealId now existing}, a = .refresh call sealId newSealId now →
      s.manager.sealsById.get? sealId = some existing →
      s.manager.isRefreshable sealId existing = true → A existing.pair)
    (hstep : SealStep s a s' es) : SealPairs P A s' := by
  have hpend : ∀ {c ph}, s.calls.get? c = some ph → ∀ p, ph.pending? = some p → P p.pair :=
    fun hc _ hp => h.pending hc hp
  have hsign : ∀ {c ph}, s.calls.get? c = some ph → ∀ p, ph = .signing p → A p.pair := by
    rintro c ph hc p rfl
    exact h.signing hc
  cases hstep with
  | issue hnew =>
    exact ⟨h.tracked, fun hc => forall_calls_set hpend (by simp [SealCall.pending?]) hc _,
      fun hc => forall_calls_set hsign (by simp) hc _ rfl⟩
  | failed _ _ _ hes =>
    exact ⟨h.tracked, fun hc => h.pending (OrdMap.get?_erase_eq_some hc).2,
      fun hc => h.signing (OrdMap.get?_erase_eq_some hc).2⟩
  | rejected _ _ hes => exact h
  | unchanged hcall hres =>
    exact ⟨h.tracked, fun hc => h.pending (OrdMap.get?_erase_eq_some hc).2,
      fun hc => h.signing (OrdMap.get?_erase_eq_some hc).2⟩
  | @issueBuilt call credentialId chatId input newSealId now pending hcall hres =>
    have hansw := resolverAnswers_resolving hans hcall
    obtain ⟨hstart, hinput, -, -, -⟩ := SealManager.issueResolved_eq_pending hres
    have hpair : pending.pair = (credentialId, chatId) := by
      rw [PendingSeal.pair, hstart.payload_eq, hinput, ← hansw.1, ← hansw.2]
      rfl
    obtain ⟨hP, hA⟩ := hissue rfl hcall (SealManager.needsSeal_of_issueResolved hres)
    rw [← hpair] at hP hA
    exact ⟨h.tracked,
      fun hc => forall_calls_set hpend (by simpa [SealCall.pending?] using hP) hc _,
      fun hc => forall_calls_set hsign (by simpa using hA) hc _ rfl⟩
  | @refreshBuilt call sealId newSealId now pending hnew hres =>
    obtain ⟨-, existing, hexisting, hpair⟩ := hI.coherent_of_refreshStart hres
    obtain ⟨hstart, -, hhead, existing', hexisting', hkey, -⟩ := SealManager.refreshStart_eq_ok hres
    have hP : P pending.pair := by rw [hpair]; exact h.tracked hexisting
    have hA : A pending.pair := by
      rw [hpair]
      refine hrefresh rfl hexisting ?_
      rw [hexisting] at hexisting'
      cases hexisting'
      have hnotRevoked := hstart.notRevoked
      rw [hkey] at hhead hnotRevoked
      simp [SealManager.isRefreshable, hhead, hnotRevoked]
    exact ⟨h.tracked,
      fun hc => forall_calls_set hpend (by simpa [SealCall.pending?] using hP) hc _,
      fun hc => forall_calls_set hsign (by simpa using hA) hc _ rfl⟩
  | publish hcall =>
    have hP := h.pending hcall rfl
    exact ⟨h.tracked,
      fun hc => forall_calls_set hpend (by simpa [SealCall.pending?] using hP) hc _,
      fun hc => forall_calls_set hsign (by simp) hc _ rfl⟩
  | recorded hcall =>
    have hP := h.pending hcall rfl
    refine ⟨?_, fun hc => h.pending (OrdMap.get?_erase_eq_some hc).2,
      fun hc => h.signing (OrdMap.get?_erase_eq_some hc).2⟩
    intro sealId envelope hget
    rcases OrdMap.get?_set_eq_some hget with ⟨-, rfl⟩ | ⟨-, hget⟩
    · exact hP
    · exact h.tracked hget
  | revoke hnew hres =>
    exact ⟨h.tracked, fun hc => forall_calls_set hpend (by simp [SealCall.pending?]) hc _,
      fun hc => forall_calls_set hsign (by simp) hc _ rfl⟩
  | publishRevocation hcall =>
    exact ⟨h.tracked, fun hc => forall_calls_set hpend (by simp [SealCall.pending?]) hc _,
      fun hc => forall_calls_set hsign (by simp) hc _ rfl⟩
  | revoked hcall =>
    exact ⟨h.tracked, fun hc => h.pending (OrdMap.get?_erase_eq_some hc).2,
      fun hc => h.signing (OrdMap.get?_erase_eq_some hc).2⟩

end Signet
