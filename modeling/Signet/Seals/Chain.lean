import Signet.Seals.Invariants
import Mathlib.Logic.Relation

/-!
# Linear seal chains

`issue` and `refresh` read the head of a pair, wait for the signer and the
publisher, and then install their seal as the new head. The chain of a pair
stays linear exactly when every publication that succeeds still finds the head
its operation had read (`recordsOnHead`), the classical lost-update condition.

`seal_chain_linear_iff` states this as an equivalence: no two recorded seals of a pair follow the
same seal (`LinearChains`), and following `previous` from the current one reaches all of them
(`CurrentReachesAll`).

The invariant `ChainInv` records that ids identify seals, that nothing follows a
head, and that the head an operation has read is still the head or is already
followed by a recorded seal (`head_or_taken`). The last clause turns a
publication away from the head into a fork (`ChainInv.fork`).
-/

namespace Signet

open Lib

/-! ### Recorded seals and the two properties -/

def SealEvent.recordedSeal? : SealEvent → Option SealEnvelope
  | .recorded envelope => some envelope
  | _ => none

/-- The successfully published seals of a trace, in order. -/
def recordedSeals (tr : List SealEvent) : List SealEnvelope :=
  tr.filterMap SealEvent.recordedSeal?

/-- No two recorded seals of a pair follow the same seal, or both none. -/
def LinearChains (tr : List SealEvent) : Prop :=
  (recordedSeals tr).Pairwise fun e e' => e.pair = e'.pair → e.previousId ≠ e'.previousId

/-- Following `previous` from the current seal of a pair reaches every recorded
seal of the pair. -/
def CurrentReachesAll (tr : List SealEvent) (m : SealManager) : Prop :=
  ∀ e ∈ recordedSeals tr, ∃ head, m.current e.pair.1 e.pair.2 = some head ∧
    Relation.ReflTransGen (fun x y => m.previousOf x = some y) head e

/-! ### Conditions on the steps -/

/-- The drawn id is the id of no tracked seal and of no seal in flight. -/
def isFreshSealId (s : SealState) (sealId : String) : Bool :=
  !s.manager.sealsById.has sealId &&
    s.calls.values.all fun phase => phase.pending?.all (·.chain.current.sealId ≠ sealId)

/-- A step of `issue` or `refresh` calls: the resolver answers its pair and seal
ids are drawn fresh. -/
def issueOrRefresh (s : SealState) (a : SealAction) : Bool :=
  resolverAnswers s a &&
    match a with
    | .inputResolved _ _ newSealId _ => isFreshSealId s newSealId
    | .refresh _ _ newSealId _ => isFreshSealId s newSealId
    | .revoke .. => false
    | .revocationSigned .. => false
    | .revocationPublished .. => false
    | _ => true

/-- A publication that succeeds finds the head its operation had read. -/
def recordsOnHead (s : SealState) : SealAction → Bool
  | .published call (.ok ()) =>
    match s.calls.get? call with
    | some (.publishing pending _) =>
      (s.manager.currentSeals.get? pending.key).map (·.chain.current) = pending.chain.previous
    | _ => true
  | _ => true

theorem recordsOnHead_of_not_writes {s : SealState} {a : SealAction} (h : a.writes = false) :
    ¬ recordsOnHead s a = false := by
  unfold recordsOnHead
  split
  · cases h
  · simp

theorem isFreshSealId_iff {s : SealState} {sealId : String} :
    isFreshSealId s sealId = true ↔ s.manager.sealsById.get? sealId = none ∧
      ∀ call phase pending, s.calls.get? call = some phase →
        phase.pending? = some pending → pending.chain.current.sealId ≠ sealId := by
  simp only [isFreshSealId, OrdMap.has, Bool.and_eq_true, Bool.not_eq_true',
    Option.isSome_eq_false_iff,
    Option.isNone_iff_eq_none, List.all_eq_true, OrdMap.mem_values_iff, Option.all_eq_true]
  refine and_congr_right fun _ => ⟨?_, ?_⟩
  · intro h call phase pending hcall hpend
    simpa using h phase ⟨call, hcall⟩ pending hpend
  · rintro h phase ⟨call, hcall⟩ pending hpend
    simpa using h call phase pending hcall hpend

/-! ### The invariant -/

/-- **Chains in order**: ids identify seals, heads are last, and what an
operation has read is the head or already followed. -/
structure ChainInv (tr : List SealEvent) (s : SealState) : Prop where
  /-- The coherence invariant. -/
  coherent : SealInv s
  /-- A recorded seal stays tracked under its id. -/
  recorded_tracked : ∀ {e}, e ∈ recordedSeals tr → s.manager.sealsById.get? e.sealId = some e
  tracked_recorded : ∀ {id e}, s.manager.sealsById.get? id = some e →
    e.sealId = id ∧ e ∈ recordedSeals tr
  current_tracked : ∀ {key e}, s.manager.currentSeals.get? key = some e →
    s.manager.sealsById.get? e.sealId = some e
  /-- The id of a seal in flight is not tracked. -/
  pending_fresh : ∀ {call phase p}, s.calls.get? call = some phase → phase.pending? = some p →
    s.manager.sealsById.get? p.chain.current.sealId = none
  /-- Seals in flight have different ids. -/
  pending_inj : ∀ {call call' phase phase' p p'}, s.calls.get? call = some phase →
    s.calls.get? call' = some phase' → phase.pending? = some p → phase'.pending? = some p' →
    p.chain.current.sealId = p'.chain.current.sealId → call = call'
  /-- What a seal in flight follows is still the head, or is followed already. -/
  head_or_taken : ∀ {call phase p}, s.calls.get? call = some phase → phase.pending? = some p →
    p.chain.previous = (s.manager.currentSeals.get? p.key).map (·.chain.current) ∨
      ∃ e ∈ recordedSeals tr, e.pair = p.pair ∧ e.chain.previous = p.chain.previous
  previous_tracked : ∀ {e q}, e ∈ recordedSeals tr → e.chain.previous = some q →
    ∃ x, s.manager.sealsById.get? q.sealId = some x
  /-- Nothing recorded follows a head. -/
  head_last : ∀ {key head e}, s.manager.currentSeals.get? key = some head →
    e ∈ recordedSeals tr → e.pair = head.pair → e.previousId ≠ some head.sealId
  /-- No forks. -/
  linear : LinearChains tr
  /-- Every recorded seal is reached from its head. -/
  reaches : CurrentReachesAll tr s.manager

theorem ChainInv.initial : ChainInv [] .init where
  coherent := .initial
  recorded_tracked h := by simp [recordedSeals] at h
  tracked_recorded h := by simp [SealState.init, SealManager.new] at h
  current_tracked h := by simp [SealState.init, SealManager.new] at h
  pending_fresh h := by simp [SealState.init] at h
  pending_inj h := by simp [SealState.init] at h
  head_or_taken h := by simp [SealState.init] at h
  previous_tracked h := by simp [recordedSeals] at h
  head_last _ h := by simp [recordedSeals] at h
  linear := List.Pairwise.nil
  reaches _ h := by simp [recordedSeals] at h

@[simp] theorem recordedSeals_append (tr es : List SealEvent) :
    recordedSeals (tr ++ es) = recordedSeals tr ++ recordedSeals es :=
  List.filterMap_append

namespace ChainInv

variable {tr : List SealEvent} {s s' : SealState} {es : List SealEvent}

/-- The head of a pair, from the key of a seal in flight. -/
private theorem key_pair (hI : ChainInv tr s) {call : Nat} {phase : SealCall}
    {p : PendingSeal} (hcall : s.calls.get? call = some phase) (hp : phase.pending? = some p)
    {e : SealEnvelope} (hhead : s.manager.currentSeals.get? p.key = some e) :
    e.pair = p.pair := by
  have hkey := (hI.coherent.pending_ok hcall hp).key_eq
  have hkeys : pairKey e.chain.current.pair = pairKey p.chain.current.pair :=
    (hI.coherent.current_key hhead).symm.trans hkey
  exact SealPayload.pair_eq_of_key_eq hkeys

/-- Steps that leave the manager alone, record nothing and keep what is known of
the seals in flight. -/
private theorem frame (hI : ChainInv tr s) (hS : SealInv s') (hman : s'.manager = s.manager)
    (hes : recordedSeals es = [])
    (hcalls : ∀ {c ph p}, s'.calls.get? c = some ph → ph.pending? = some p →
      ∃ ph', s.calls.get? c = some ph' ∧ ph'.pending? = some p) :
    ChainInv (tr ++ es) s' where
  coherent := hS
  recorded_tracked h := by
    rw [recordedSeals_append, hes, List.append_nil] at h
    rw [hman]; exact hI.recorded_tracked h
  tracked_recorded h := by
    rw [hman] at h
    rw [recordedSeals_append, hes, List.append_nil]
    exact hI.tracked_recorded h
  current_tracked h := by rw [hman] at h ⊢; exact hI.current_tracked h
  pending_fresh hc hp := by
    obtain ⟨ph', hc', hp'⟩ := hcalls hc hp
    rw [hman]; exact hI.pending_fresh hc' hp'
  pending_inj hc hc' hp hp' heq := by
    obtain ⟨_, h₁, h₂⟩ := hcalls hc hp
    obtain ⟨_, h₃, h₄⟩ := hcalls hc' hp'
    exact hI.pending_inj h₁ h₃ h₂ h₄ heq
  head_or_taken hc hp := by
    obtain ⟨ph', hc', hp'⟩ := hcalls hc hp
    rw [hman, recordedSeals_append, hes, List.append_nil]
    exact hI.head_or_taken hc' hp'
  previous_tracked h := by
    rw [recordedSeals_append, hes, List.append_nil] at h
    rw [hman]; exact hI.previous_tracked h
  head_last hh h := by
    rw [recordedSeals_append, hes, List.append_nil] at h
    rw [hman] at hh; exact hI.head_last hh h
  linear := by
    unfold LinearChains
    rw [recordedSeals_append, hes, List.append_nil]; exact hI.linear
  reaches := by
    unfold CurrentReachesAll
    rw [recordedSeals_append, hes, List.append_nil, hman]; exact hI.reaches

private theorem startPending (hI : ChainInv tr s) {call : Nat} {p : PendingSeal}
    (hS : SealInv (s.await call (.signing p)))
    (hnone : ∀ {ph q}, s.calls.get? call = some ph → ph.pending? = some q → False)
    (hfresh : isFreshSealId s p.chain.current.sealId = true)
    (hhead : p.chain.previous = (s.manager.currentSeals.get? p.key).map (·.chain.current)) :
    ChainInv tr (s.await call (.signing p)) := by
  obtain ⟨huntracked, hids⟩ := isFreshSealId_iff.1 hfresh
  -- a seal in flight after the step is the new one, or an old one of another call
  have hcases : ∀ {c ph q}, (s.await call (.signing p)).calls.get? c = some ph →
      ph.pending? = some q → (c = call ∧ q = p) ∨ (c ≠ call ∧ s.calls.get? c = some ph) := by
    intro c ph q hc hq
    rcases OrdMap.get?_set_eq_some hc with ⟨rfl, rfl⟩ | ⟨hne, hc⟩
    · exact .inl ⟨rfl, (Option.some.inj hq).symm⟩
    · exact .inr ⟨hne, hc⟩
  exact
    { coherent := hS
      recorded_tracked := hI.recorded_tracked
      tracked_recorded := hI.tracked_recorded
      current_tracked := hI.current_tracked
      previous_tracked := hI.previous_tracked
      head_last := hI.head_last
      linear := hI.linear
      reaches := hI.reaches
      pending_fresh := by
        intro c ph q hc hq
        rcases hcases hc hq with ⟨rfl, rfl⟩ | ⟨-, hc⟩
        · exact huntracked
        · exact hI.pending_fresh hc hq
      pending_inj := by
        intro c c' ph ph' q q' hc hc' hq hq' heq
        rcases hcases hc hq with ⟨rfl, rfl⟩ | ⟨-, hold⟩ <;>
          rcases hcases hc' hq' with ⟨rfl, rfl⟩ | ⟨-, hold'⟩
        · rfl
        · exact absurd heq.symm (hids _ _ _ hold' hq')
        · exact absurd heq (hids _ _ _ hold hq)
        · exact hI.pending_inj hold hold' hq hq' heq
      head_or_taken := by
        intro c ph q hc hq
        rcases hcases hc hq with ⟨rfl, rfl⟩ | ⟨-, hc⟩
        · exact .inl hhead
        · exact hI.head_or_taken hc hq }

private theorem refresh_head (hI : ChainInv tr s) {sealId newSealId : String} {now : Time}
    {p : PendingSeal} (h : s.manager.refreshStart sealId newSealId now = .ok p) :
    p.chain.previous = (s.manager.currentSeals.get? p.key).map (·.chain.current) := by
  obtain ⟨-, -, hhead, existing, hexisting, -, -, hprev⟩ := SealManager.refreshStart_eq_ok h
  obtain ⟨head, hcur, hid⟩ := Option.map_eq_some_iff.1 hhead
  have htracked := hI.current_tracked hcur
  rw [hid, hexisting] at htracked
  cases htracked
  rw [hprev, hcur]
  rfl

/-- **Recording on the head.** The new seal becomes the head, follows the old one
and nothing follows it. -/
private theorem record (hI : ChainInv tr s) {call : Nat} {p : PendingSeal}
    {signed : Signature} (hcall : s.calls.get? call = some (.publishing p signed))
    (hS : SealInv { (s.finish call) with
      manager := s.manager.track p (p.envelope signed) })
    (hon : p.chain.previous = (s.manager.currentSeals.get? p.key).map (·.chain.current)) :
    ChainInv (tr ++ [.recorded (p.envelope signed), .returned call (.ok (p.envelope signed))])
      { (s.finish call) with manager := s.manager.track p (p.envelope signed) } := by
  set new := p.envelope signed with hnew
  have hrec : recordedSeals (tr ++ [.recorded new, .returned call (.ok new)]) =
      recordedSeals tr ++ [new] := by
    rw [recordedSeals_append]; rfl
  have hid : new.sealId = p.chain.current.sealId := rfl
  have huntracked : s.manager.sealsById.get? new.sealId = none := hI.pending_fresh hcall rfl
  have hkey : p.key = pairKey new.pair := (hI.coherent.pending_ok hcall rfl).key_eq
  -- what was tracked stays tracked, since the new id was not
  have hkeep : ∀ {id x}, s.manager.sealsById.get? id = some x →
      (s.manager.track p new).sealsById.get? id = some x := by
    intro id x hx
    have hne : id ≠ new.sealId := by
      rintro rfl
      rw [huntracked] at hx
      cases hx
    simp only [SealManager.track]
    rw [OrdMap.get?_set_of_ne _ _ hne]
    exact hx
  have hnew_tracked : (s.manager.track p new).sealsById.get? new.sealId = some new := by
    simp [SealManager.track]
  -- the predecessor of a recorded seal is tracked, hence not the new seal
  have hprev_ne : ∀ {e}, e ∈ recordedSeals tr ++ [new] → e.previousId ≠ some new.sealId := by
    intro e he hprev
    obtain ⟨q, hq, hqid⟩ := Option.map_eq_some_iff.1 hprev
    have htracked : ∃ x, s.manager.sealsById.get? q.sealId = some x := by
      rcases List.mem_append.1 he with he | he
      · exact hI.previous_tracked he hq
      · obtain rfl := List.mem_singleton.1 he
        have hq' : (s.manager.currentSeals.get? p.key).map (·.chain.current) = some q := by
          rw [← hon]; exact hq
        obtain ⟨head, hcur, rfl⟩ := Option.map_eq_some_iff.1 hq'
        exact ⟨head, hI.current_tracked hcur⟩
    obtain ⟨x, hx⟩ := htracked
    rw [hqid, huntracked] at hx
    cases hx
  have hcur : ∀ {key head},
      (s.manager.track p new).currentSeals.get? key = some head →
      (key = p.key ∧ head = new) ∨ (key ≠ p.key ∧ s.manager.currentSeals.get? key = some head) :=
    fun h => OrdMap.get?_set_eq_some h
  -- the old head, if any, is the predecessor of the new seal
  have hpred : new.previousId = (s.manager.currentSeals.get? p.key).map (·.sealId) := by
    change p.chain.previous.map (·.sealId) = _
    rw [hon, Option.map_map]
    rfl
  exact
    { coherent := hS
      recorded_tracked := by
        intro e he
        rw [hrec] at he
        rcases List.mem_append.1 he with he | he
        · exact hkeep (hI.recorded_tracked he)
        · obtain rfl := List.mem_singleton.1 he
          exact hnew_tracked
      tracked_recorded := by
        intro id e he
        rw [hrec]
        rcases OrdMap.get?_set_eq_some he with ⟨rfl, rfl⟩ | ⟨-, he⟩
        · exact ⟨rfl, List.mem_append_right _ (List.mem_singleton_self _)⟩
        · obtain ⟨hid, hmem⟩ := hI.tracked_recorded he
          exact ⟨hid, List.mem_append_left _ hmem⟩
      current_tracked := by
        intro key e he
        rcases hcur he with ⟨-, rfl⟩ | ⟨-, he⟩
        · exact hnew_tracked
        · exact hkeep (hI.current_tracked he)
      pending_fresh := by
        intro c ph q hc hq
        obtain ⟨hne, hc⟩ := OrdMap.get?_erase_eq_some hc
        have hid_ne : q.chain.current.sealId ≠ new.sealId := fun heq =>
          hne (hI.pending_inj hc hcall hq rfl heq)
        simp only [SealManager.track]
        rw [OrdMap.get?_set_of_ne _ _ hid_ne]
        exact hI.pending_fresh hc hq
      pending_inj := by
        intro c c' ph ph' q q' hc hc' hq hq' heq
        exact hI.pending_inj (OrdMap.get?_erase_eq_some hc).2 (OrdMap.get?_erase_eq_some hc').2
          hq hq' heq
      head_or_taken := by
        intro c ph q hc hq
        have hc := (OrdMap.get?_erase_eq_some hc).2
        rw [hrec]
        rcases hI.head_or_taken hc hq with hhead | ⟨e, he, hpair, hprev⟩
        · by_cases hk : q.key = p.key
          · -- another operation on the same pair: the new seal took its head
            refine .inr ⟨new, List.mem_append_right _ (List.mem_singleton_self _), ?_, ?_⟩
            · have hqkey := (hI.coherent.pending_ok hc hq).key_eq
              refine SealPayload.pair_eq_of_key_eq (q := q.chain.current) ?_
              exact hkey.symm.trans (hk.symm.trans hqkey)
            · rw [hhead, hk]
              exact hon
          · refine .inl ?_
            simp only [SealManager.track]
            rw [OrdMap.get?_set_of_ne _ _ hk]
            exact hhead
        · exact .inr ⟨e, List.mem_append_left _ he, hpair, hprev⟩
      previous_tracked := by
        intro e q he hq
        rw [hrec] at he
        rcases List.mem_append.1 he with he | he
        · obtain ⟨x, hx⟩ := hI.previous_tracked he hq
          exact ⟨x, hkeep hx⟩
        · obtain rfl := List.mem_singleton.1 he
          have hq' : (s.manager.currentSeals.get? p.key).map (·.chain.current) = some q := by
            rw [← hon]; exact hq
          obtain ⟨head, hhead, rfl⟩ := Option.map_eq_some_iff.1 hq'
          exact ⟨head, hkeep (hI.current_tracked hhead)⟩
      head_last := by
        intro key head e hhead he hpair
        rw [hrec] at he
        rcases hcur hhead with ⟨-, rfl⟩ | ⟨hne, hhead⟩
        · exact hprev_ne he
        · rcases List.mem_append.1 he with he | he
          · exact hI.head_last hhead he hpair
          · -- the new seal is about another pair
            obtain rfl := List.mem_singleton.1 he
            refine absurd ?_ hne
            rw [hI.coherent.current_key hhead, ← hpair, hkey]
      linear := by
        unfold LinearChains
        rw [hrec, List.pairwise_append]
        refine ⟨hI.linear, List.pairwise_singleton _ _, ?_⟩
        intro e he e' he' hpair
        obtain rfl := List.mem_singleton.1 he'
        obtain ⟨head, hhead, -⟩ := hI.reaches e he
        have hhead' : s.manager.currentSeals.get? p.key = some head := by
          rw [hkey, ← hpair]; exact hhead
        rw [hpred, hhead']
        exact hI.head_last hhead' he (hpair.trans (hI.key_pair hcall rfl hhead').symm)
      reaches := by
        intro e he
        rw [hrec] at he
        have hcursor : ∀ {x y}, s.manager.previousOf x = some y →
            (s.manager.track p new).previousOf x = some y := by
          intro x y hxy
          obtain ⟨id, hid, hget⟩ := Option.bind_eq_some_iff.1 hxy
          exact Option.bind_eq_some_iff.2 ⟨id, hid, hkeep hget⟩
        rcases List.mem_append.1 he with he | he
        · obtain ⟨head, hhead, hpath⟩ := hI.reaches e he
          have hpath' := Relation.ReflTransGen.mono (fun x y hxy => hcursor hxy) _ _ hpath
          by_cases hpair : e.pair = new.pair
          · -- prepend the step from the new head to the old one
            have hhead' : s.manager.currentSeals.get? p.key = some head := by
              rw [hkey, ← hpair]; exact hhead
            refine ⟨new, ?_, .head ?_ hpath'⟩
            · change (s.manager.track p new).currentSeals.get? (pairKey e.pair) = some new
              rw [hpair, ← hkey]
              simp [SealManager.track]
            · refine Option.bind_eq_some_iff.2 ⟨head.sealId, ?_, hkeep ?_⟩
              · rw [hpred, hhead']; rfl
              · exact hI.current_tracked hhead'
          · refine ⟨head, ?_, hpath'⟩
            have hne : pairKey e.pair ≠ p.key := by
              rw [hkey]
              exact fun heq => hpair (SealPayload.pair_eq_of_key_eq (p := e.chain.current)
                (q := new.chain.current) heq)
            change (s.manager.currentSeals.set p.key new).get? (pairKey e.pair) = some head
            rw [OrdMap.get?_set_of_ne _ _ hne]
            exact hhead
        · obtain rfl := List.mem_singleton.1 he
          refine ⟨new, ?_, .refl⟩
          change (s.manager.currentSeals.set p.key new).get? (pairKey new.pair) = some new
          rw [← hkey]
          exact OrdMap.get?_set_self _ _ _ }

/-- **Every step keeps the invariant** when publications find their head. -/
theorem step (hI : ChainInv tr s) {a : SealAction} (hok : issueOrRefresh s a = true)
    (hon : recordsOnHead s a = true) (hstep : SealStep s a s' es) :
    ChainInv (tr ++ es) s' := by
  have hans : resolverAnswers s a = true := (Bool.and_eq_true_iff.1 hok).1
  have hS := hI.coherent.step hans hstep
  cases hstep with
  | issue hnew =>
    refine hI.frame hS rfl rfl fun hc hp => ?_
    rcases OrdMap.get?_set_eq_some hc with ⟨-, rfl⟩ | ⟨-, hc⟩
    · cases hp
    · exact ⟨_, hc, hp⟩
  | failed _ _ _ hes =>
    exact hI.frame hS rfl (by rcases hes with rfl | rfl <;> rfl)
      fun hc hp => ⟨_, (OrdMap.get?_erase_eq_some hc).2, hp⟩
  | rejected _ _ hes =>
    exact hI.frame hS rfl (by rcases hes with rfl | rfl <;> rfl) fun hc hp => ⟨_, hc, hp⟩
  | unchanged hcall hres =>
    exact hI.frame hS rfl rfl fun hc hp => ⟨_, (OrdMap.get?_erase_eq_some hc).2, hp⟩
  | @issueBuilt call credentialId chatId input newSealId now pending hcall hres =>
    obtain ⟨hstart, -, -, -, hhead⟩ := SealManager.issueResolved_eq_pending hres
    have hfresh : isFreshSealId s newSealId = true := by
      simpa [issueOrRefresh, hans] using hok
    rw [List.append_nil]
    refine hI.startPending hS ?_ ?_ hhead
    · intro ph q hc hq
      rw [hcall] at hc
      cases hc
      cases hq
    · rw [hstart.payload_eq]; exact hfresh
  | @refreshBuilt call sealId newSealId now pending hnew hres =>
    have hstart := (SealManager.refreshStart_eq_ok hres).1
    have hfresh : isFreshSealId s newSealId = true := by
      simpa [issueOrRefresh, hans] using hok
    rw [List.append_nil]
    refine hI.startPending hS ?_ ?_ (hI.refresh_head hres)
    · intro ph q hc hq
      rw [hnew] at hc
      cases hc
    · rw [hstart.payload_eq]; exact hfresh
  | publish hcall =>
    refine hI.frame hS rfl rfl fun hc hp => ?_
    rcases OrdMap.get?_set_eq_some hc with ⟨rfl, rfl⟩ | ⟨-, hc⟩
    · exact ⟨_, hcall, hp⟩
    · exact ⟨_, hc, hp⟩
  | recorded hcall =>
    refine hI.record hcall hS ?_
    exact (by simpa [recordsOnHead, hcall] using hon : _ = _).symm
  | revoke hnew hres => simp [issueOrRefresh] at hok
  | publishRevocation hcall => simp [issueOrRefresh] at hok
  | revoked hcall => simp [issueOrRefresh] at hok

/-- **A publication away from the head forks the chain.** -/
theorem fork (hI : ChainInv tr s) {a : SealAction} (hoff : recordsOnHead s a = false)
    (hstep : SealStep s a s' es) : ¬ LinearChains (tr ++ es) := by
  cases hstep with
  | @recorded call p signed hcall =>
    have hne : p.chain.previous ≠ (s.manager.currentSeals.get? p.key).map (·.chain.current) := by
      simpa [recordsOnHead, hcall, eq_comm] using hoff
    obtain ⟨e, he, hpair, hprev⟩ := (hI.head_or_taken hcall rfl).resolve_left hne
    intro hlin
    unfold LinearChains at hlin
    rw [recordedSeals_append, List.pairwise_append] at hlin
    refine hlin.2.2 e he (p.envelope signed) (by simp [recordedSeals, SealEvent.recordedSeal?])
      hpair ?_
    change e.chain.previous.map _ = p.chain.previous.map _
    rw [hprev]
  | failed _ _ hwrites hes => exact absurd hoff (recordsOnHead_of_not_writes hwrites)
  | rejected _ hwrites hes => exact absurd hoff (recordsOnHead_of_not_writes hwrites)
  | _ => simp [recordsOnHead] at hoff

end ChainInv

/-! ### Linearity is finding the head -/

/-- **Linear chains.** The runs of `issue` and `refresh` calls in which every
successful publication finds the head its operation had read are exactly the runs
in which no two recorded seals of a pair follow the same seal and the current
seal of a pair leads back to all of them. -/
theorem seal_chain_linear_iff {tr : List SealEvent} {s : SealState} :
    Run sealMachine (fun s a => (issueOrRefresh s a && recordsOnHead s a) = true) tr s ↔
      Run sealMachine (fun s a => issueOrRefresh s a = true) tr s ∧
        LinearChains tr ∧ CurrentReachesAll tr s.manager := by
  have hinv : ∀ {tr s},
      Run sealMachine (fun s a => (issueOrRefresh s a && recordsOnHead s a) = true) tr s →
      ChainInv tr s := by
    intro tr s h
    refine h.invariant .initial ?_
    intro tr s a s' es _ hI hok hs
    have hok := Bool.and_eq_true_iff.1 hok
    exact hI.step hok.1 hok.2 (sealStep_sound hs)
  constructor
  · intro h
    exact ⟨h.mono fun _ _ hok => (Bool.and_eq_true_iff.1 hok).1, (hinv h).linear,
      (hinv h).reaches⟩
  · rintro ⟨h, hlin, -⟩
    -- a linear trace has only linear initial parts, and a step off the head would fork
    induction h with
    | nil => exact .nil
    | @snoc tr s s' a es hrun hok hs ih =>
      have hlin_tr : LinearChains tr := by
        unfold LinearChains at hlin ⊢
        rw [recordedSeals_append] at hlin
        exact (List.pairwise_append.1 hlin).1
      have hrun' := ih hlin_tr
      refine hrun'.snoc (Bool.and_eq_true_iff.2 ⟨hok, ?_⟩) hs
      by_contra hoff
      exact (hinv hrun').fork (Bool.eq_false_iff.2 hoff) (sealStep_sound hs) hlin

instance (tr : List SealEvent) : Decidable (LinearChains tr) :=
  inferInstanceAs (Decidable (List.Pairwise _ _))

/-- The input of the two overlapping issues below. -/
def overlappingInput : SealInput :=
  .plain "cred_0123456789abcdef" "op_0123456789abcdef" "conv_0123456789abcdef" ⟨[.send], []⟩

/-- **Two overlapping issues fork the chain.** Both read an empty head before
either publishes; when all calls have finished, the pair has two first seals and
the current one does not lead back to the other. -/
theorem overlapping_issues_fork :
    ∃ tr s, Run sealMachine (fun s a => issueOrRefresh s a = true) tr s ∧
      s.calls.entries = [] ∧ ¬ LinearChains tr ∧ ¬ CurrentReachesAll tr s.manager := by
  obtain ⟨tr, s, hrun, htest⟩ := exists_run_of_exec sealMachine issueOrRefresh
    [.issue 0 overlappingInput.credentialId overlappingInput.chatId,
        .issue 1 overlappingInput.credentialId overlappingInput.chatId,
        .inputResolved 0 (.ok overlappingInput) "seal_0000000000000001" 0,
        .inputResolved 1 (.ok overlappingInput) "seal_0000000000000002" 0,
        .signed 0 (.ok ⟨"sig", "key_0123456789abcdef"⟩),
        .signed 1 (.ok ⟨"sig", "key_0123456789abcdef"⟩),
        .published 0 (.ok ()), .published 1 (.ok ())]
    (fun tr s => s.calls.entries.isEmpty && !decide (LinearChains tr) &&
      (recordedSeals tr).any fun e =>
        (s.manager.current e.pair.1 e.pair.2).all fun head =>
          (s.manager.previousOf head).isNone && head ≠ e)
    (by decide)
  simp only [Bool.and_eq_true, List.isEmpty_iff, Bool.not_eq_true', decide_eq_false_iff_not,
    List.any_eq_true] at htest
  obtain ⟨⟨hdone, hfork⟩, e, he, hhead⟩ := htest
  refine ⟨tr, s, hrun, hdone, hfork, ?_⟩
  intro hreach
  obtain ⟨head, hcur, hpath⟩ := hreach e he
  simp only [hcur, Option.all_some, Bool.and_eq_true, Option.isNone_iff_eq_none,
    decide_eq_true_eq] at hhead
  rcases hpath.cases_head with heq | ⟨x, hx, -⟩
  · exact hhead.2 heq
  · rw [hhead.1] at hx
    cases hx

end Signet
