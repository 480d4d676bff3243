import Signet.Seals.Invariants

/-!
# Revocation under concurrency

`revoke` marks its pair only after it has signed and published the revocation,
while `issue` and `refresh` look at the mark before they sign and publish.
Revocation is therefore terminal exactly when no issue or refresh of the pair is
past its check at the moment `revoke` completes (`revokesAlone`).

Otherwise (`revocation_overtaken`) the seal in flight can still be recorded as the current seal
after the revocation, whatever the state; `revoked_pair_republished` is a run in which it is.

The invariant is `RevocationInv`: a marked key has no current seal and no seal in
flight. Completing a revocation establishes it for its key because of
`revokesAlone`; every other step keeps it, since `issue` and `refresh` go on only
for an unmarked key.
-/

namespace Signet

open Lib

/-- No issue or refresh of `pair` is past its revocation check. -/
def noSealInFlight (s : SealState) (pair : String × String) : Bool :=
  s.calls.values.all fun phase => phase.pending?.all (·.pair ≠ pair)

/-- A revocation that completes finds no issue or refresh of its pair in flight. -/
def revokesAlone (s : SealState) : SealAction → Bool
  | .revocationPublished call (.ok ()) =>
    match s.calls.get? call with
    | some (.publishingRevocation pending) => noSealInFlight s pending.pair
    | _ => true
  | _ => true

theorem noSealInFlight_iff {s : SealState} {pair : String × String} :
    noSealInFlight s pair = true ↔ ∀ call phase pending, s.calls.get? call = some phase →
      phase.pending? = some pending → pending.pair ≠ pair := by
  simp only [noSealInFlight, List.all_eq_true, OrdMap.mem_values_iff, Option.all_eq_true]
  constructor
  · intro h call phase pending hcall hpend
    simpa using h phase ⟨call, hcall⟩ pending hpend
  · rintro h phase ⟨call, hcall⟩ pending hpend
    simpa using h call phase pending hcall hpend

/-- The pair whose seal the event publishes or records. -/
def SealEvent.sealPair? : SealEvent → Option (String × String)
  | .publish _ envelope => some envelope.pair
  | .recorded envelope => some envelope.pair
  | _ => none

/-- The pair whose revocation the event reports. -/
def SealEvent.revokedPair? : SealEvent → Option (String × String)
  | .revoked _ pair => some pair
  | _ => none

/-- **A marked key is dead**: no current seal, none on its way, and every pair
reported as revoked is marked. -/
structure RevocationInv (tr : List SealEvent) (s : SealState) : Prop where
  /-- A marked key has no current seal. -/
  current_none : ∀ {key}, key ∈ s.manager.revokedPairs →
    s.manager.currentSeals.get? key = none
  /-- A marked key has no seal in flight. -/
  pending_none : ∀ {key call phase pending}, key ∈ s.manager.revokedPairs →
    s.calls.get? call = some phase → phase.pending? = some pending → pending.key ≠ key
  marked : ∀ {e pair}, e ∈ tr → e.revokedPair? = some pair →
    pairKey pair ∈ s.manager.revokedPairs
  /-- After the report no seal of the pair is published or recorded. -/
  neverAfter : ∀ pair, NeverAfter (fun e : SealEvent => e.revokedPair? = some pair)
    (fun e => e.sealPair? = some pair) tr

theorem RevocationInv.initial : RevocationInv [] .init where
  current_none h := by simp [SealState.init, SealManager.new] at h
  pending_none h := by simp [SealState.init, SealManager.new] at h
  marked h := by simp at h
  neverAfter _ := neverAfter_nil _ _

namespace RevocationInv

variable {tr : List SealEvent} {s s' : SealState} {es : List SealEvent}

/-- A step that reports neither a seal nor a revocation keeps the order. -/
private theorem neverAfter_silent (hI : RevocationInv tr s)
    (hseal : ∀ e ∈ es, e.sealPair? = none) (pair : String × String) :
    NeverAfter (fun e : SealEvent => e.revokedPair? = some pair)
      (fun e => e.sealPair? = some pair) (tr ++ es) := by
  have hno : ∀ e ∈ es, ¬ e.sealPair? = some pair := fun e he => by simp [hseal e he]
  refine (hI.neverAfter pair).append ?_ fun _ => hno
  exact List.pairwise_of_forall_mem_list fun _ _ e' he' _ => hno e' he'

/-- Steps that leave the manager alone and send no new seal past its check. -/
private theorem frame (hI : RevocationInv tr s) (hman : s'.manager = s.manager)
    (hcalls : ∀ {c ph p}, s'.calls.get? c = some ph → ph.pending? = some p →
      p.key ∉ s.manager.revokedPairs)
    (hseal : ∀ e ∈ es, e.sealPair? = none) (hrev : ∀ e ∈ es, e.revokedPair? = none) :
    RevocationInv (tr ++ es) s' where
  current_none h := by rw [hman] at h ⊢; exact hI.current_none h
  pending_none h hc hp := by
    rw [hman] at h
    rintro rfl
    exact hcalls hc hp h
  marked he hpair := by
    rw [hman]
    rcases List.mem_append.1 he with he | he
    · exact hI.marked he hpair
    · simp [hrev _ he] at hpair
  neverAfter := hI.neverAfter_silent hseal

/-- **Every step keeps the invariant** when revocations complete alone. -/
theorem step (hI : RevocationInv tr s) (hS : SealInv s) {a : SealAction}
    (halone : revokesAlone s a = true) (hstep : SealStep s a s' es) :
    RevocationInv (tr ++ es) s' := by
  have hold : ∀ {c ph}, s.calls.get? c = some ph →
      ∀ p, ph.pending? = some p → p.key ∉ s.manager.revokedPairs :=
    fun hc p hp hkey => hI.pending_none hkey hc hp rfl
  cases hstep with
  | issue hnew =>
    exact hI.frame rfl
      (fun hc => forall_calls_set hold (by simp [SealCall.pending?]) hc _) (by simp) (by simp)
  | failed _ _ _ hes =>
    refine hI.frame rfl (fun hc => hold (OrdMap.get?_erase_eq_some hc).2 _) ?_ ?_ <;>
      rcases hes with rfl | rfl <;> simp [SealEvent.sealPair?, SealEvent.revokedPair?]
  | rejected _ _ hes =>
    refine hI.frame rfl (fun hc => hold hc _) ?_ ?_ <;>
      rcases hes with rfl | rfl <;> simp [SealEvent.sealPair?, SealEvent.revokedPair?]
  | unchanged hcall hres =>
    exact hI.frame rfl (fun hc => hold (OrdMap.get?_erase_eq_some hc).2 _)
      (by simp [SealEvent.sealPair?]) (by simp [SealEvent.revokedPair?])
  | issueBuilt hcall hres =>
    have hstart := (SealManager.issueResolved_eq_pending hres).1.notRevoked
    exact hI.frame rfl
      (fun hc => forall_calls_set hold (by simpa [SealCall.pending?] using hstart) hc _)
      (by simp) (by simp)
  | refreshBuilt hnew hres =>
    have hstart := (SealManager.refreshStart_eq_ok hres).1.notRevoked
    exact hI.frame rfl
      (fun hc => forall_calls_set hold (by simpa [SealCall.pending?] using hstart) hc _)
      (by simp) (by simp)
  | @publish call pending signed hcall =>
    -- the seal is in flight, so its key is not marked and its pair not reported
    have hkey := hold hcall pending rfl
    refine ⟨fun h => hI.current_none h, ?_, ?_, ?_⟩
    · rintro key c ph p hmark hc hp rfl
      exact forall_calls_set hold (by simpa [SealCall.pending?] using hkey) hc _ hp hmark
    · intro e pair he hpair
      rcases List.mem_append.1 he with he | he
      · exact hI.marked he hpair
      · obtain rfl := List.mem_singleton.1 he
        simp [SealEvent.revokedPair?] at hpair
    · intro pair
      refine (hI.neverAfter pair).append (List.pairwise_singleton _ _) ?_
      rintro ⟨e, he, hrev⟩ e' he' hseal
      obtain rfl := List.mem_singleton.1 he'
      simp only [SealEvent.sealPair?, PendingSeal.envelope_pair, Option.some.injEq] at hseal
      have hmark := hI.marked he hrev
      rw [← hseal, ← (hS.pending_ok hcall rfl).key_eq] at hmark
      exact hkey hmark
  | @recorded call pending signed hcall =>
    have hkey := hold hcall pending rfl
    refine ⟨?_, ?_, ?_, ?_⟩
    · intro key hmark
      have hne : key ≠ pending.key := fun heq => hkey (heq ▸ hmark)
      simp only [SealManager.track]
      rw [OrdMap.get?_set_of_ne _ _ hne]
      exact hI.current_none hmark
    · intro key c ph p hmark hc hp
      exact hI.pending_none hmark (OrdMap.get?_erase_eq_some hc).2 hp
    · intro e pair he hpair
      rcases List.mem_append.1 he with he | he
      · exact hI.marked he hpair
      · rcases List.mem_cons.1 he with rfl | he
        · simp [SealEvent.revokedPair?] at hpair
        · obtain rfl := List.mem_singleton.1 he
          simp [SealEvent.revokedPair?] at hpair
    · intro pair
      refine (hI.neverAfter pair).append (by simp [NeverAfter, SealEvent.revokedPair?]) ?_
      rintro ⟨e, he, hrev⟩ e' he' hseal
      have hpair : pending.pair = pair := by
        rcases List.mem_cons.1 he' with rfl | he'
        · simpa [SealEvent.sealPair?] using hseal
        · obtain rfl := List.mem_singleton.1 he'
          simp [SealEvent.sealPair?] at hseal
      have hmark := hI.marked he hrev
      rw [← hpair, ← (hS.pending_ok hcall rfl).key_eq] at hmark
      exact hkey hmark
  | revoke hnew hres =>
    exact hI.frame rfl
      (fun hc => forall_calls_set hold (by simp [SealCall.pending?]) hc _) (by simp) (by simp)
  | publishRevocation hcall =>
    exact hI.frame rfl
      (fun hc => forall_calls_set hold (by simp [SealCall.pending?]) hc _)
      (by simp [SealEvent.sealPair?]) (by simp [SealEvent.revokedPair?])
  | @revoked call pending hcall =>
    -- the only step that marks a key: nothing of the pair is in flight
    obtain ⟨hkey, payload, hpayload⟩ := hS.revocation_ok hcall rfl
    have halone := noSealInFlight_iff.1 (by simpa [revokesAlone, hcall] using halone)
    refine ⟨?_, ?_, ?_, ?_⟩
    · intro key hmark
      simp only [SealManager.markRevoked, Finset.mem_insert] at hmark ⊢
      rw [OrdMap.get?_erase]
      split
      · rfl
      · next hne => exact hI.current_none (hmark.resolve_left hne)
    · intro key c ph p hmark hc hp heq
      have hc := (OrdMap.get?_erase_eq_some hc).2
      rcases Finset.mem_insert.1 hmark with hnew | hmark
      · refine halone c ph p hc hp ?_
        have hp_key := (hS.pending_ok hc hp).key_eq
        have hkeys : pairKey p.chain.current.pair = pairKey payload.pair := by
          rw [← hpayload, ← hkey, ← hnew, ← heq, hp_key]; rfl
        rw [hpayload, ← SealPayload.pair_eq_of_key_eq hkeys]
        rfl
      · exact hI.pending_none hmark hc hp heq
    · intro e pair he hpair
      rcases List.mem_append.1 he with he | he
      · exact Finset.mem_insert_of_mem (hI.marked he hpair)
      · obtain rfl := List.mem_singleton.1 he
        simp only [SealEvent.revokedPair?, Option.some.injEq] at hpair
        rw [← hpair, ← hkey]
        exact Finset.mem_insert_self _ _
    · exact hI.neverAfter_silent (by simp [SealEvent.sealPair?])

end RevocationInv

/-! ### Revocation is terminal when it completes alone -/

/-- **Terminal revocation.** In every run whose resolver answers the pair it is
asked about and whose revocations complete while no issue or refresh of the pair
is past its check: once `revoke` has returned `Ok` for a pair, the pair has no
current seal and none of its seals is published or recorded afterwards. -/
theorem revocation_terminal {tr : List SealEvent} {s : SealState}
    (h : Run sealMachine (fun s a => (resolverAnswers s a && revokesAlone s a) = true) tr s)
    (pair : String × String) :
    ((∃ call, .revoked call pair ∈ tr) → s.manager.current pair.1 pair.2 = none) ∧
      NeverAfter (fun e => ∃ call, e = .revoked call pair)
        (fun e => e.sealPair? = some pair) tr := by
  have hI : SealInv s ∧ RevocationInv tr s := by
    refine h.invariant (I := fun tr s => SealInv s ∧ RevocationInv tr s)
      ⟨.initial, .initial⟩ ?_
    intro tr s a s' es _ hI hok hs
    have hok := Bool.and_eq_true_iff.1 hok
    have hstep := sealStep_sound hs
    exact ⟨hI.1.step hok.1 hstep, hI.2.step hI.1 hok.2 hstep⟩
  refine ⟨?_, ?_⟩
  · rintro ⟨call, hmem⟩
    exact hI.2.current_none (hI.2.marked hmem rfl)
  · refine (hI.2.neverAfter pair).imp ?_
    rintro e e' hrel ⟨call, rfl⟩
    exact hrel rfl

/-! ### A revocation that does not complete alone -/

/-- A first seal for the pair: issued, signed and published by call `0`. -/
def firstSeal : List SealAction :=
  [.issue 0 "cred_0123456789abcdef" "conv_0123456789abcdef",
    .inputResolved 0 (.ok (.plain "cred_0123456789abcdef" "op_0123456789abcdef"
      "conv_0123456789abcdef" ⟨[.send], []⟩)) "seal_0000000000000001" 0,
    .signed 0 (.ok ⟨"sig", "key_0123456789abcdef"⟩), .published 0 (.ok ())]

/-- A `revoke` of the first seal by call `1` that runs to completion. -/
def revokeFirst : List SealAction :=
  [.revoke 1 "seal_0000000000000001" .ownerInitiated "seal_0000000000000002" 1,
    .revocationSigned 1 (.ok ⟨"sig", "key_0123456789abcdef"⟩), .revocationPublished 1 (.ok ())]

def firstPair : String × String :=
  ("cred_0123456789abcdef", "conv_0123456789abcdef")

/-- A revocation with nothing else in flight. -/
theorem revocation_terminal_first :
    ∃ tr s, .revoked 1 firstPair ∈ tr ∧ s.manager.current firstPair.1 firstPair.2 = none ∧
      Run sealMachine (fun s a => (resolverAnswers s a && revokesAlone s a) = true) tr s := by
  obtain ⟨tr, s, hrun, htest⟩ := exists_run_of_exec sealMachine
    (fun s a => resolverAnswers s a && revokesAlone s a)
    (firstSeal ++ revokeFirst) (fun tr _ => tr.contains (.revoked 1 firstPair))
    (by decide)
  have hmem : SealEvent.revoked 1 firstPair ∈ tr := by simpa using htest
  exact ⟨tr, s, hmem, (revocation_terminal hrun firstPair).1 ⟨1, hmem⟩, hrun⟩

/-- **A revoked pair gets a new seal.** A refresh that passed its check before
the revocation completed publishes and records a seal afterwards, and the pair
has a current seal again. -/
theorem revoked_pair_republished :
    ∃ before after s, Run sealMachine (fun s a => resolverAnswers s a = true) (before ++ after) s ∧
      .revoked 1 firstPair ∈ before ∧
      (∃ chatId envelope, .publish chatId envelope ∈ after ∧ .recorded envelope ∈ after ∧
        envelope.pair = firstPair) ∧
      s.manager.current firstPair.1 firstPair.2 ≠ none := by
  obtain ⟨tr, s, hrun, htest⟩ := exists_run_of_exec sealMachine resolverAnswers
    (firstSeal ++
      [.refresh 2 "seal_0000000000000001" "seal_0000000000000003" 2] ++ revokeFirst ++
      [.signed 2 (.ok ⟨"sig", "key_0123456789abcdef"⟩), .published 2 (.ok ())])
    (fun tr s =>
      (tr.take 5).contains (.revoked 1 firstPair) &&
      ((s.manager.current firstPair.1 firstPair.2).any fun envelope =>
        (tr.drop 5).contains (.publish firstPair.2 envelope) &&
        (tr.drop 5).contains (.recorded envelope) && envelope.pair = firstPair))
    (by decide)
  rw [Bool.and_eq_true, Option.any_eq_true] at htest
  obtain ⟨hrev, envelope, hcur, hafter⟩ := htest
  simp only [Bool.and_eq_true, List.contains_iff_mem, decide_eq_true_eq] at hrev hafter
  refine ⟨tr.take 5, tr.drop 5, s, by rwa [List.take_append_drop], hrev,
    ⟨firstPair.2, envelope, hafter.1.1, hafter.1.2, hafter.2⟩, by simp [hcur]⟩

/-- A seal in flight can always go on to be recorded as the current seal of its
key: the signer and the publisher only have to succeed. -/
theorem exists_recorded_of_inFlight {tr : List SealEvent} {s : SealState} {call : Nat}
    {phase : SealCall} {pending : PendingSeal}
    (hrun : Run sealMachine (fun s a => resolverAnswers s a = true) tr s)
    (hcall : s.calls.get? call = some phase) (hpend : phase.pending? = some pending) :
    ∃ es s' envelope, Run sealMachine (fun s a => resolverAnswers s a = true) (tr ++ es) s' ∧
      .recorded envelope ∈ es ∧ envelope.pair = pending.pair ∧
      s'.manager.currentSeals.get? pending.key = some envelope := by
  -- the last segment, from the state in which the publisher is awaited
  have hrecord : ∀ {tr s} {signed : Signature},
      Run sealMachine (fun s a => resolverAnswers s a = true) tr s →
      s.calls.get? call = some (.publishing pending signed) →
      ∃ es s' envelope, Run sealMachine (fun s a => resolverAnswers s a = true) (tr ++ es) s' ∧
        .recorded envelope ∈ es ∧ envelope.pair = pending.pair ∧
        s'.manager.currentSeals.get? pending.key = some envelope := by
    intro tr s signed hrun hcall
    have hstep : sealMachine.step s (.published call (.ok ())) =
        some ({ (s.finish call) with
            manager := s.manager.track pending (pending.envelope signed) },
          [.recorded (pending.envelope signed),
            .returned call (.ok (pending.envelope signed))]) := by
      simp [sealMachine, sealStep, hcall]
    exact ⟨_, _, pending.envelope signed, hrun.snoc rfl hstep, by simp, rfl,
      by simp [SealManager.track]⟩
  cases phase with
  | publishing p signed =>
    obtain rfl : p = pending := Option.some.inj hpend
    exact hrecord hrun hcall
  | signing p =>
    obtain rfl : p = pending := Option.some.inj hpend
    have hstep : sealMachine.step s (.signed call (.ok ⟨"", ""⟩)) =
        some (s.await call (.publishing p ⟨"", ""⟩),
          [.publish p.publishTo (p.envelope ⟨"", ""⟩)]) := by
      simp [sealMachine, sealStep, hcall]
    obtain ⟨es, s', envelope, hrun', hrec, hpair, hcur⟩ :=
      hrecord (hrun.snoc rfl hstep) (OrdMap.get?_set_self _ _ _)
    rw [List.append_assoc] at hrun'
    exact ⟨_, s', envelope, hrun', List.mem_append_right _ hrec, hpair, hcur⟩
  | resolving _ _ => cases hpend
  | signingRevocation _ => cases hpend
  | publishingRevocation _ => cases hpend

/-- **The condition is exact.** Whenever a revocation is about to complete while
an issue or refresh of the pair is past its check, the run can go on to report
the revocation and then record a seal of the pair as current. -/
theorem revocation_overtaken {tr : List SealEvent} {s : SealState} {revoker call : Nat}
    {revocation : PendingRevocation} {phase : SealCall} {pending : PendingSeal}
    (hrun : Run sealMachine (fun s a => resolverAnswers s a = true) tr s)
    (hrev : s.calls.get? revoker = some (.publishingRevocation revocation))
    (hcall : s.calls.get? call = some phase) (hpend : phase.pending? = some pending) :
    ∃ es s' envelope, Run sealMachine (fun s a => resolverAnswers s a = true)
        (tr ++ .revoked revoker revocation.pair :: es) s' ∧
      .recorded envelope ∈ es ∧ envelope.pair = pending.pair ∧
      s'.manager.currentSeals.get? pending.key = some envelope := by
  have hne : call ≠ revoker := by
    rintro rfl
    rw [hrev] at hcall
    cases hcall
    cases hpend
  have hstep : sealMachine.step s (.revocationPublished revoker (.ok ())) =
      some ({ (s.finish revoker) with manager := s.manager.markRevoked revocation },
        [.revoked revoker revocation.pair]) := by
    simp [sealMachine, sealStep, hrev]
  have hcall' : (s.calls.erase revoker).get? call = some phase := by
    rw [OrdMap.get?_erase_of_ne _ hne]
    exact hcall
  obtain ⟨es, s', envelope, hrun', hrest⟩ :=
    exists_recorded_of_inFlight (hrun.snoc rfl hstep) hcall' hpend
  rw [List.append_assoc] at hrun'
  exact ⟨es, s', envelope, hrun', hrest⟩

end Signet
