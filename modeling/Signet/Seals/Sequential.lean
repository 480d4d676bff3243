import Signet.Seals.Invariants
import Signet.Seals.ChainValidator
import Signet.Seals.History

/-!
# Sequential seal operations

Each operation runs to its end before the next one starts. `SealManager.perform` is one
operation with all the replies it gets; `sequentialMachine` runs operations one after
the other under a clock that does not go back. An operation is a run of the segments of
`sealMachine` from a manager without calls to one without calls (`perform_runFrom`), so
the invariant of the interleaved runs holds here too.

`SequentialInv` relates the manager to the seals that operations have returned
(`issuedSeals`): they are what is tracked, in order; those of a pair are a chain, and
the current seal of a pair that is not revoked is the newest of its chain.
`sequential_seals` reads the results off it.
-/

namespace Signet

open Lib

/-! ### One operation -/

/-- A call with the replies it gets: of the resolver, the signer and the publisher. -/
inductive SealOp where
  | issue (credentialId chatId : String) (resolved : Result SealInput) (newSealId : String)
      (now : Time) (signed : Result Signature) (published : Result Unit)
  | refresh (sealId newSealId : String) (now : Time) (signed : Result Signature)
      (published : Result Unit)
  | revoke (sealId : String) (reason : AgentRevocationReason) (newSealId : String) (now : Time)
      (signed : Result Signature) (published : Result Unit)
  deriving DecidableEq

/-- When the operation reads the clock. -/
def SealOp.now : SealOp → Time
  | .issue _ _ _ _ now _ _ => now
  | .refresh _ _ now _ _ => now
  | .revoke _ _ _ now _ _ => now

/-- What an operation hands to `publisher.publish`, and what it returns: the seal of an
`issue` or a `refresh`, nothing for a `revoke`. -/
structure SealOutcome where
  published : Option SealEnvelope
  result : Result (Option SealEnvelope)
  deriving DecidableEq

namespace SealManager

variable (m : SealManager)

/-- `issue` and `refresh` from `signer.sign` on. -/
def complete (pending : PendingSeal) (signed : Result Signature) (published : Result Unit) :
    SealManager × SealOutcome :=
  match signed with
  | .error e => (m, ⟨none, .error e⟩)
  | .ok signature =>
    let envelope := pending.envelope signature
    match published with
    | .error e => (m, ⟨some envelope, .error e⟩)
    | .ok () => (m.track pending envelope, ⟨some envelope, .ok (some envelope)⟩)

/-- `revoke` from `signer.signRevocation` on. -/
def completeRevocation (pending : PendingRevocation) (signed : Result Signature)
    (published : Result Unit) : SealManager × SealOutcome :=
  match signed, published with
  | .error e, _ => (m, ⟨none, .error e⟩)
  | .ok _, .error e => (m, ⟨none, .error e⟩)
  | .ok _, .ok () => (m.markRevoked pending, ⟨none, .ok none⟩)

def issue (chatId : String) (resolved : Result SealInput) (newSealId : String) (now : Time)
    (signed : Result Signature) (published : Result Unit) : SealManager × SealOutcome :=
  match resolved with
  | .error e => (m, ⟨none, .error e⟩)
  | .ok input =>
    match m.issueResolved chatId input newSealId now with
    | .error e => (m, ⟨none, .error e⟩)
    | .ok (.inl previous) => (m, ⟨none, .ok (some previous)⟩)
    | .ok (.inr pending) => m.complete pending signed published

def refresh (sealId newSealId : String) (now : Time) (signed : Result Signature)
    (published : Result Unit) : SealManager × SealOutcome :=
  match m.refreshStart sealId newSealId now with
  | .error e => (m, ⟨none, .error e⟩)
  | .ok pending => m.complete pending signed published

def revoke (sealId : String) (reason : AgentRevocationReason) (newSealId : String) (now : Time)
    (signed : Result Signature) (published : Result Unit) : SealManager × SealOutcome :=
  match m.revokeStart sealId reason newSealId now with
  | .error e => (m, ⟨none, .error e⟩)
  | .ok pending => m.completeRevocation pending signed published

/-- One operation from its call to its return. -/
def perform : SealOp → SealManager × SealOutcome
  | .issue _ chatId resolved newSealId now signed published =>
    m.issue chatId resolved newSealId now signed published
  | .refresh sealId newSealId now signed published =>
    m.refresh sealId newSealId now signed published
  | .revoke sealId reason newSealId now signed published =>
    m.revoke sealId reason newSealId now signed published

end SealManager

/-! ### What an operation can do -/

/-- The operation builds a seal and has it signed. -/
inductive SealOp.Builds (m : SealManager) : SealOp → PendingSeal → Prop
  | issue {credentialId chatId newSealId : String} {input : SealInput} {now : Time}
      {signed : Result Signature} {published : Result Unit} {pending : PendingSeal}
      (hres : m.issueResolved chatId input newSealId now = .ok (.inr pending)) :
      Builds m (.issue credentialId chatId (.ok input) newSealId now signed published) pending
  | refresh {sealId newSealId : String} {now : Time} {signed : Result Signature}
      {published : Result Unit} {pending : PendingSeal}
      (hres : m.refreshStart sealId newSealId now = .ok pending) :
      Builds m (.refresh sealId newSealId now signed published) pending

/-- The ways an operation ends. -/
inductive SealOp.Performs (m : SealManager) (op : SealOp) : SealManager → SealOutcome → Prop
  /-- It fails before it publishes a seal. -/
  | failed (e : SignetError) : Performs m op m ⟨none, .error e⟩
  /-- The publication of its seal fails. -/
  | unpublished (e : SignetError) {pending : PendingSeal} {signed : Signature}
      (hbuilds : op.Builds m pending) :
      Performs m op m ⟨some (pending.envelope signed), .error e⟩
  /-- An issue finds nothing new to say and returns the head. -/
  | unchanged {chatId newSealId : String} {input : SealInput} {now : Time}
      {previous : SealEnvelope}
      (hres : m.issueResolved chatId input newSealId now = .ok (.inl previous)) :
      Performs m op m ⟨none, .ok (some previous)⟩
  /-- Its seal is published and tracked. -/
  | recorded {pending : PendingSeal} {signed : Signature} (hbuilds : op.Builds m pending) :
      Performs m op (m.track pending (pending.envelope signed))
        ⟨some (pending.envelope signed), .ok (some (pending.envelope signed))⟩
  /-- The pair is revoked. -/
  | revoked {sealId newSealId : String} {reason : AgentRevocationReason} {now : Time}
      {pending : PendingRevocation}
      (hres : m.revokeStart sealId reason newSealId now = .ok pending) :
      Performs m op (m.markRevoked pending) ⟨none, .ok none⟩

variable {m : SealManager}

theorem SealManager.complete_performs {op : SealOp} {pending : PendingSeal}
    (hbuilds : op.Builds m pending) (signed : Result Signature) (published : Result Unit) :
    op.Performs m (m.complete pending signed published).1
      (m.complete pending signed published).2 := by
  cases signed with
  | error e => exact .failed e
  | ok signature =>
    cases published with
    | error e => exact .unpublished e hbuilds
    | ok _ => exact .recorded hbuilds

/-- **Inversion of an operation.** -/
theorem SealManager.perform_performs (op : SealOp) :
    op.Performs m (m.perform op).1 (m.perform op).2 := by
  cases op with
  | issue credentialId chatId resolved newSealId now signed published =>
    cases resolved with
    | error e => exact .failed e
    | ok input =>
      cases hres : m.issueResolved chatId input newSealId now with
      | error e =>
        simp only [SealManager.perform, SealManager.issue, hres]
        exact .failed e
      | ok built =>
        cases built with
        | inl previous =>
          simp only [SealManager.perform, SealManager.issue, hres]
          exact .unchanged hres
        | inr pending =>
          simp only [SealManager.perform, SealManager.issue, hres]
          exact SealManager.complete_performs (.issue hres) signed published
  | refresh sealId newSealId now signed published =>
    cases hres : m.refreshStart sealId newSealId now with
    | error e =>
      simp only [SealManager.perform, SealManager.refresh, hres]
      exact .failed e
    | ok pending =>
      simp only [SealManager.perform, SealManager.refresh, hres]
      exact SealManager.complete_performs (.refresh hres) signed published
  | revoke sealId reason newSealId now signed published =>
    cases hres : m.revokeStart sealId reason newSealId now with
    | error e =>
      simp only [SealManager.perform, SealManager.revoke, hres]
      exact .failed e
    | ok pending =>
      simp only [SealManager.perform, SealManager.revoke, hres]
      cases signed with
      | error e => exact .failed e
      | ok signature =>
        cases published with
        | error e => exact .failed e
        | ok _ => exact .revoked hres

/-! ### Operations one after the other -/

/-- The manager and the time. -/
structure SequentialState where
  manager : SealManager
  clock : Time

/-- **The seal manager under one call at a time.** -/
def sequentialMachine : Machine SequentialState SealOp SealOutcome where
  init := ⟨.new, 0⟩
  step s op :=
    if op.now < s.clock then none
    else some (⟨(s.manager.perform op).1, op.now⟩, [(s.manager.perform op).2])

/-- What a run may assume of an operation: a seal id that is drawn is not one that is
in use, and the resolver answers for the credential and chat it was asked about, always
with the operator `operatorOf` of the pair. -/
def SealOp.Fits (operatorOf : String → String → String) (m : SealManager) : SealOp → Prop
  | .issue credentialId chatId resolved newSealId _ _ _ =>
    m.sealsById.get? newSealId = none ∧ ∀ input, resolved = .ok input →
      input.credentialId = credentialId ∧ input.chatId = chatId ∧
        input.operatorId = operatorOf credentialId chatId
  | .refresh _ newSealId _ _ _ => m.sealsById.get? newSealId = none
  | .revoke .. => True

/-- The chains handed to the publisher, whether the publication succeeded or not. -/
def publishedChains (tr : List SealOutcome) : List SealChain :=
  tr.filterMap fun outcome => outcome.published.map (·.chain)

/-- The seal an operation has returned. -/
def SealOutcome.seal? (outcome : SealOutcome) : Option SealEnvelope :=
  match outcome.result with
  | .ok envelope => envelope
  | .error _ => none

/-- The seals that an `issue` or a `refresh` has returned, each once, in the order of
their first return. -/
def issuedSeals (tr : List SealOutcome) : List SealEnvelope :=
  (tr.filterMap SealOutcome.seal?).eraseDups

/-- Those of a pair, newest first. -/
def issuedFor (issued : List SealEnvelope) (pair : String × String) : List SealEnvelope :=
  (issued.filter (·.pair = pair)).reverse

/-! ### An operation is a run of its segments -/

/-- The manager without calls. -/
def idle (m : SealManager) : SealState :=
  ⟨m, .empty⟩

def busy (m : SealManager) (phase : SealCall) : SealState :=
  ⟨m, OrdMap.empty.set 0 phase⟩

def SealEvent.published? : SealEvent → Option SealEnvelope
  | .publish _ envelope => some envelope
  | _ => none

section Segments

/-- A run whose resolver answers its pair and which hands the given envelope, if any, to
the publisher. -/
def RunsTo (s s' : SealState) (published : Option SealEnvelope) : Prop :=
  ∃ tr, RunFrom sealMachine (fun s a => resolverAnswers s a = true) s tr s' ∧
    tr.filterMap SealEvent.published? = published.toList

theorem RunsTo.trans {s₀ s₁ s₂ : SealState} {published : Option SealEnvelope}
    (h : RunsTo s₀ s₁ none) (h' : RunsTo s₁ s₂ published) : RunsTo s₀ s₂ published := by
  obtain ⟨tr, hrun, hpublished⟩ := h
  obtain ⟨tr', hrun', hpublished'⟩ := h'
  refine ⟨tr ++ tr', hrun.trans hrun', ?_⟩
  rw [List.filterMap_append, hpublished, hpublished']
  rfl

/-- One segment that publishes nothing. -/
theorem RunsTo.segment {s s' : SealState} {a : SealAction} {es : List SealEvent}
    (hanswers : resolverAnswers s a = true) (hstep : sealStep s a = some (s', es))
    (hsilent : es.filterMap SealEvent.published? = []) : RunsTo s s' none :=
  ⟨es, .single hanswers hstep, hsilent⟩

theorem SealManager.complete_runsTo (pending : PendingSeal) (signed : Result Signature)
    (published : Result Unit) :
    RunsTo (busy m (.signing pending)) (idle (m.complete pending signed published).1)
      (m.complete pending signed published).2.published := by
  cases signed with
  | error e => exact .segment (a := .signed 0 (.error e)) rfl rfl rfl
  | ok signature =>
    -- the call of the publisher is an event of the first segment
    have hpublish : RunFrom sealMachine (fun s a => resolverAnswers s a = true)
        (busy m (.signing pending)) [.publish pending.publishTo (pending.envelope signature)]
        (busy m (.publishing pending signature)) := .single (a := .signed 0 (.ok signature)) rfl rfl
    cases published with
    | error e =>
      exact ⟨_, hpublish.trans (.single (a := .published 0 (.error e)) rfl rfl), rfl⟩
    | ok _ =>
      exact ⟨_, hpublish.trans (.single (a := .published 0 (.ok ())) rfl rfl), rfl⟩

/-- **An operation is a run of its segments** that starts and ends without calls. -/
theorem SealManager.perform_runsTo {operatorOf : String → String → String} {op : SealOp}
    (hfits : op.Fits operatorOf m) :
    RunsTo (idle m) (idle (m.perform op).1) (m.perform op).2.published := by
  cases op with
  | issue credentialId chatId resolved newSealId now signed published =>
    have hresolve : RunsTo (idle m) (busy m (.resolving credentialId chatId)) none :=
      .segment (a := .issue 0 credentialId chatId) rfl rfl rfl
    refine hresolve.trans ?_
    cases resolved with
    | error e => exact .segment (a := .inputResolved 0 (.error e) newSealId now) rfl rfl rfl
    | ok input =>
      obtain ⟨hcredential, hchat, -⟩ := hfits.2 input rfl
      have hanswers : resolverAnswers (busy m (.resolving credentialId chatId))
          (.inputResolved 0 (.ok input) newSealId now) = true := by
        show (decide (input.credentialId = credentialId) && decide (input.chatId = chatId)) = true
        rw [hcredential, hchat]
        simp
      have hstep : sealStep (busy m (.resolving credentialId chatId))
          (.inputResolved 0 (.ok input) newSealId now) =
            match m.issueResolved chatId input newSealId now with
            | .error e => some (idle m, [.returned 0 (.error e)])
            | .ok (.inl previous) => some (idle m, [.returned 0 (.ok previous)])
            | .ok (.inr pending) => some (busy m (.signing pending), []) := rfl
      cases hres : m.issueResolved chatId input newSealId now with
      | error e =>
        rw [hres] at hstep
        simp only [SealManager.perform, SealManager.issue, hres]
        exact .segment hanswers hstep rfl
      | ok built =>
        cases built with
        | inl previous =>
          rw [hres] at hstep
          simp only [SealManager.perform, SealManager.issue, hres]
          exact .segment hanswers hstep rfl
        | inr pending =>
          rw [hres] at hstep
          simp only [SealManager.perform, SealManager.issue, hres]
          exact (RunsTo.segment hanswers hstep rfl).trans
            (SealManager.complete_runsTo pending signed published)
  | refresh sealId newSealId now signed published =>
    have hstep : sealStep (idle m) (.refresh 0 sealId newSealId now) =
        match m.refreshStart sealId newSealId now with
        | .error e => some (idle m, [.returned 0 (.error e)])
        | .ok pending => some (busy m (.signing pending), []) := rfl
    cases hres : m.refreshStart sealId newSealId now with
    | error e =>
      rw [hres] at hstep
      simp only [SealManager.perform, SealManager.refresh, hres]
      exact .segment rfl hstep rfl
    | ok pending =>
      rw [hres] at hstep
      simp only [SealManager.perform, SealManager.refresh, hres]
      exact (RunsTo.segment rfl hstep rfl).trans
        (SealManager.complete_runsTo pending signed published)
  | revoke sealId reason newSealId now signed published =>
    have hstep : sealStep (idle m) (.revoke 0 sealId reason newSealId now) =
        match m.revokeStart sealId reason newSealId now with
        | .error e => some (idle m, [.revokeFailed 0 e])
        | .ok pending => some (busy m (.signingRevocation pending), []) := rfl
    cases hres : m.revokeStart sealId reason newSealId now with
    | error e =>
      rw [hres] at hstep
      simp only [SealManager.perform, SealManager.revoke, hres]
      exact .segment rfl hstep rfl
    | ok pending =>
      rw [hres] at hstep
      simp only [SealManager.perform, SealManager.revoke, hres]
      refine (RunsTo.segment rfl hstep rfl).trans ?_
      cases signed with
      | error e => exact .segment (a := .revocationSigned 0 (.error e)) rfl rfl rfl
      | ok signature =>
        have hsigned : RunsTo (busy m (.signingRevocation pending))
            (busy m (.publishingRevocation pending)) none :=
          .segment (a := .revocationSigned 0 (.ok signature)) rfl rfl rfl
        refine hsigned.trans ?_
        cases published with
        | error e => exact .segment (a := .revocationPublished 0 (.error e)) rfl rfl rfl
        | ok _ => exact .segment (a := .revocationPublished 0 (.ok ())) rfl rfl rfl

theorem SealManager.perform_coherent {operatorOf : String → String → String} {op : SealOp}
    (hfits : op.Fits operatorOf m) (hI : SealInv (idle m)) :
    SealInv (idle (m.perform op).1) := by
  obtain ⟨tr, hrun, -⟩ := SealManager.perform_runsTo hfits
  exact hrun.preserves (I := SealInv)
    (fun hI hok hs => hI.step hok (sealStep_sound hs)) hI

end Segments

/-! ### The invariant -/

theorem mem_issuedFor {issued : List SealEnvelope} {pair : String × String} {e : SealEnvelope} :
    e ∈ issuedFor issued pair ↔ e ∈ issued ∧ e.pair = pair := by
  simp [issuedFor]

theorem issuedFor_append_self (issued : List SealEnvelope) (e : SealEnvelope) :
    issuedFor (issued ++ [e]) e.pair = e :: issuedFor issued e.pair := by
  simp [issuedFor, List.filter_append]

theorem issuedFor_append_of_ne (issued : List SealEnvelope) {e : SealEnvelope}
    {pair : String × String} (h : e.pair ≠ pair) :
    issuedFor (issued ++ [e]) pair = issuedFor issued pair := by
  simp [issuedFor, List.filter_append, h]

/-- **What the manager holds is what operations have returned.** -/
structure SequentialInv (operatorOf : String → String → String) (issued : List SealEnvelope)
    (s : SequentialState) : Prop where
  /-- The coherence invariant. -/
  coherent : SealInv (idle s.manager)
  tracked : s.manager.sealsById.values = issued
  /-- A seal is tracked under its id. -/
  keyed : ∀ {id e}, s.manager.sealsById.get? id = some e → e.sealId = id
  current_newest : ∀ {key head}, s.manager.currentSeals.get? key = some head →
    (issuedFor issued head.pair).head? = some head
  newest_current : ∀ payload : SealPayload, pairKey payload.pair ∉ s.manager.revokedPairs →
    s.manager.currentSeals.get? (pairKey payload.pair) = (issuedFor issued payload.pair).head?
  /-- The seals of a pair are a chain. -/
  linked : ∀ pair, Linked (issuedFor issued pair)
  /-- The operator of a seal is the one of its pair. -/
  operator : ∀ e ∈ issued, e.chain.current.operatorId = operatorOf e.pair.1 e.pair.2
  /-- No seal is from the future. -/
  clock : ∀ e ∈ issued, e.chain.current.issuedAt ≤ s.clock
  /-- A newer seal is not issued before an older one. -/
  ordered : ∀ pair, (issuedFor issued pair).Pairwise fun newer older =>
    older.chain.current.issuedAt ≤ newer.chain.current.issuedAt

/-- A seal under construction continues the chain of its pair. -/
structure PendingSeal.Continues (operatorOf : String → String → String)
    (issued : List SealEnvelope) (now : Time) (m : SealManager) (pending : PendingSeal) : Prop where
  key_eq : pending.key = pairKey pending.pair
  /-- Its id is not in use. -/
  fresh : m.sealsById.get? pending.chain.current.sealId = none
  /-- It follows the newest seal of the pair. -/
  previous : pending.chain.previous =
    (issuedFor issued pending.pair).head?.map (·.chain.current)
  operator : pending.chain.current.operatorId = operatorOf pending.pair.1 pending.pair.2
  issuedAt : pending.chain.current.issuedAt = now
  delta : pending.chain.delta = expectedDelta pending.chain.current pending.chain.previous

/-- The delta of a chain in flight is the one its builder has computed. -/
theorem SealOp.Builds.delta {op : SealOp} {pending : PendingSeal} (h : op.Builds m pending) :
    pending.chain.delta = expectedDelta pending.chain.current pending.chain.previous := by
  cases h with
  | issue hres =>
    simp only [SealManager.issueResolved] at hres
    split at hres
    · cases hres
    split at hres
    · cases hres
    split at hres
    · cases hres
    · next chain hbuild =>
      cases hres
      exact delta_of_buildSeal hbuild
  | refresh hres =>
    simp only [SealManager.refreshStart] at hres
    split at hres
    · cases hres
    split at hres
    · cases hres
    split at hres
    · cases hres
    split at hres
    · cases hres
    split at hres
    · cases hres
    · next chain hbuild =>
      cases hres
      exact delta_of_buildSeal hbuild

namespace SequentialInv

variable {operatorOf : String → String → String} {issued : List SealEnvelope}
  {s : SequentialState}

theorem initial : SequentialInv operatorOf [] ⟨.new, 0⟩ where
  coherent := SealInv.initial
  tracked := rfl
  keyed h := by cases h
  current_newest h := by cases h
  newest_current _ _ := rfl
  linked _ := trivial
  operator _ h := absurd h List.not_mem_nil
  clock _ h := absurd h List.not_mem_nil
  ordered _ := .nil

theorem get?_of_mem (hI : SequentialInv operatorOf issued s) {e : SealEnvelope}
    (he : e ∈ issued) : s.manager.sealsById.get? e.sealId = some e := by
  rw [← hI.tracked] at he
  obtain ⟨id, hid⟩ := OrdMap.mem_values_iff.1 he
  rw [hI.keyed hid]
  exact hid

theorem mem_of_get? (hI : SequentialInv operatorOf issued s) {id : String} {e : SealEnvelope}
    (he : s.manager.sealsById.get? id = some e) : e ∈ issued := by
  rw [← hI.tracked]
  exact OrdMap.mem_values_iff.2 ⟨id, he⟩

theorem mem_of_current (hI : SequentialInv operatorOf issued s) {key : String}
    {head : SealEnvelope} (h : s.manager.currentSeals.get? key = some head) : head ∈ issued :=
  (mem_issuedFor.1 (List.mem_of_head? (hI.current_newest h))).1

/-- **A seal under construction continues the chain of its pair.** -/
theorem continues (hI : SequentialInv operatorOf issued s) {op : SealOp} {pending : PendingSeal}
    (hfits : op.Fits operatorOf s.manager) (hbuilds : op.Builds s.manager pending) :
    pending.Continues operatorOf issued op.now s.manager := by
  have hdelta := hbuilds.delta
  cases hbuilds with
  | @issue credentialId chatId newSealId input now signed published pending hres =>
    obtain ⟨hfresh, hanswers⟩ := hfits
    obtain ⟨hcredential, hchat, hoperator⟩ := hanswers input rfl
    obtain ⟨hstart, hinput, -, -, hprevious⟩ := SealManager.issueResolved_eq_pending hres
    have hcoherent : pending.Coherent :=
      PendingSeal.coherent_of_issueResolved (s := idle s.manager) ⟨hcredential, hchat⟩ hres
    have hpair : pending.pair = (credentialId, chatId) := by
      rw [PendingSeal.pair, hstart.payload_eq, hinput, ← hcredential, ← hchat]
      rfl
    refine ⟨hcoherent.key_eq, ?_, ?_, ?_, ?_, hdelta⟩
    · rw [hstart.payload_eq]
      exact hfresh
    · have hnot : pairKey pending.chain.current.pair ∉ s.manager.revokedPairs := by
        have hkey : pairKey pending.chain.current.pair = pending.key := hcoherent.key_eq.symm
        rw [hkey]
        exact hstart.notRevoked
      rw [hprevious, hcoherent.key_eq]
      exact congrArg _ (hI.newest_current pending.chain.current hnot)
    · rw [hpair, hstart.payload_eq, hinput]
      exact hoperator
    · rw [hstart.payload_eq]
      rfl
  | @refresh sealId newSealId now signed published pending hres =>
    obtain ⟨hstart, hinput, hhead, -⟩ := SealManager.refreshStart_eq_ok hres
    obtain ⟨-, -, -, existing, hexisting, -, -, hprevious⟩ := SealManager.refreshStart_eq_ok hres
    obtain ⟨hcoherent, existing', hexisting', hpair⟩ :=
      hI.coherent.coherent_of_refreshStart (s := idle s.manager) hres
    obtain rfl : existing = existing' := Option.some.inj (hexisting.symm.trans hexisting')
    -- the head has the id of the existing seal, so it is that seal
    obtain ⟨head, hcurrent, hid⟩ := Option.map_eq_some_iff.1 hhead
    have hsame : head = existing := by
      have htracked := hI.get?_of_mem (hI.mem_of_current hcurrent)
      rw [hid, hexisting] at htracked
      exact (Option.some.inj htracked).symm
    subst hsame
    obtain ⟨input, issuedAt, hinput', hpayload⟩ := hI.coherent.seal_input hexisting
    obtain rfl : input = pending.input := Option.some.inj (hinput'.symm.trans hinput)
    refine ⟨hcoherent.key_eq, ?_, ?_, ?_, ?_, hdelta⟩
    · rw [hstart.payload_eq]
      exact hfits
    · rw [hprevious, hpair, hI.current_newest hcurrent]
      rfl
    · have hoperator := hI.operator head (hI.mem_of_get? hexisting)
      rw [hpayload] at hoperator
      rw [hpair, hstart.payload_eq]
      exact hoperator
    · rw [hstart.payload_eq]
      rfl

/-- **A chain that continues passes the validator.** -/
theorem valid_of_continues (hI : SequentialInv operatorOf issued s) {now : Time}
    (hclock : s.clock ≤ now) {pending : PendingSeal}
    (hcont : pending.Continues operatorOf issued now s.manager) :
    validateSealChain pending.chain = .ok () ∧ verifyChainDelta pending.chain = .ok () := by
  refine ⟨validateSealChain_eq_ok fun previous hprevious => ?_, verifyChainDelta_eq_ok hcont.delta⟩
  rw [hcont.previous] at hprevious
  obtain ⟨head, hhead, rfl⟩ := Option.map_eq_some_iff.1 hprevious
  obtain ⟨hmem, hpair⟩ := mem_issuedFor.1 (List.mem_of_head? hhead)
  refine ⟨?_, ?_, ?_, ?_⟩
  · rw [hcont.operator, hI.operator head hmem, hpair]
  · exact (congrArg Prod.fst hpair).symm
  · exact (congrArg Prod.snd hpair).symm
  · calc head.chain.current.issuedAt ≤ s.clock := hI.clock head hmem
      _ ≤ now := hclock
      _ = pending.chain.current.issuedAt := hcont.issuedAt.symm

theorem later (hI : SequentialInv operatorOf issued s) {now : Time} (hclock : s.clock ≤ now) :
    SequentialInv operatorOf issued ⟨s.manager, now⟩ :=
  { hI with clock := fun e he => Nat.le_trans (hI.clock e he) hclock }

/-- **A recorded seal becomes the newest of its pair.** -/
theorem record (hI : SequentialInv operatorOf issued s) {now : Time} (hclock : s.clock ≤ now)
    {pending : PendingSeal} (hcont : pending.Continues operatorOf issued now s.manager)
    (signed : Signature)
    (hcoherent : SealInv (idle (s.manager.track pending (pending.envelope signed)))) :
    SequentialInv operatorOf (issued ++ [pending.envelope signed])
      ⟨s.manager.track pending (pending.envelope signed), now⟩ := by
  set new := pending.envelope signed with hnew
  have hkey : pending.key = pairKey new.pair := hcont.key_eq
  have hsealId : new.sealId = pending.chain.current.sealId := rfl
  have htime : new.chain.current.issuedAt = now := hcont.issuedAt
  -- another key stands for another pair
  have hother : ∀ payload : SealPayload, pairKey payload.pair ≠ pending.key →
      new.pair ≠ payload.pair := by
    intro payload hne heq
    exact hne (by rw [hkey, ← heq])
  have hfor : ∀ pair, issuedFor (issued ++ [new]) pair =
      if new.pair = pair then new :: issuedFor issued pair else issuedFor issued pair := by
    intro pair
    by_cases hpair : new.pair = pair
    · subst hpair
      rw [issuedFor_append_self, if_pos rfl]
    · rw [issuedFor_append_of_ne issued hpair, if_neg hpair]
  refine
    { coherent := hcoherent
      tracked := ?_
      keyed := ?_
      current_newest := ?_
      newest_current := ?_
      linked := ?_
      operator := ?_
      clock := ?_
      ordered := ?_ }
  · show (s.manager.sealsById.set new.sealId new).values = issued ++ [new]
    rw [OrdMap.values_set_of_new new (hsealId ▸ hcont.fresh), hI.tracked]
  · intro id e he
    rcases OrdMap.get?_set_eq_some he with ⟨rfl, rfl⟩ | ⟨-, he⟩
    · rfl
    · exact hI.keyed he
  · intro key head hhead
    rcases OrdMap.get?_set_eq_some hhead with ⟨rfl, rfl⟩ | ⟨hne, hhead⟩
    · rw [issuedFor_append_self, List.head?_cons]
    · have hpair : new.pair ≠ head.pair := by
        refine hother head.chain.current ?_
        have hheadKey := hI.coherent.current_key hhead
        exact fun heq => hne (hheadKey.trans heq)
      rw [hfor, if_neg hpair]
      exact hI.current_newest hhead
  · intro payload hnot
    show (s.manager.currentSeals.set pending.key new).get? _ = _
    by_cases heq : pairKey payload.pair = pending.key
    · have hpair : new.pair = payload.pair :=
        SealPayload.pair_eq_of_key_eq (p := new.chain.current) (hkey.symm.trans heq.symm)
      rw [heq, OrdMap.get?_set_self, hfor, if_pos hpair, List.head?_cons]
    · rw [OrdMap.get?_set_of_ne _ _ heq, hfor, if_neg (hother payload heq)]
      exact hI.newest_current payload hnot
  · intro pair
    rw [hfor]
    by_cases hpair : new.pair = pair
    · subst hpair
      rw [if_pos rfl]
      exact ⟨hcont.previous, hI.linked _⟩
    · rw [if_neg hpair]
      exact hI.linked pair
  · intro e he
    rcases List.mem_append.1 he with he | he
    · exact hI.operator e he
    · obtain rfl := List.mem_singleton.1 he
      exact hcont.operator
  · intro e he
    rcases List.mem_append.1 he with he | he
    · exact Nat.le_trans (hI.clock e he) hclock
    · obtain rfl := List.mem_singleton.1 he
      exact Nat.le_of_eq htime
  · intro pair
    rw [hfor]
    by_cases hpair : new.pair = pair
    · rw [if_pos hpair]
      refine List.pairwise_cons.2 ⟨fun e he => ?_, hI.ordered pair⟩
      rw [htime]
      exact Nat.le_trans (hI.clock e (mem_issuedFor.1 he).1) hclock
    · rw [if_neg hpair]
      exact hI.ordered pair

/-- **A revocation takes the current seal of its pair** and leaves the issued ones. -/
theorem revoke (hI : SequentialInv operatorOf issued s) {now : Time} (hclock : s.clock ≤ now)
    {pending : PendingRevocation} (hcoherent : SealInv (idle (s.manager.markRevoked pending))) :
    SequentialInv operatorOf issued ⟨s.manager.markRevoked pending, now⟩ where
  coherent := hcoherent
  tracked := hI.tracked
  keyed := hI.keyed
  current_newest h := hI.current_newest (OrdMap.get?_erase_eq_some h).2
  newest_current payload hnot := by
    have hnot' : pairKey payload.pair ∉ insert pending.key s.manager.revokedPairs := hnot
    rw [Finset.mem_insert, not_or] at hnot'
    show (s.manager.currentSeals.erase pending.key).get? _ = _
    rw [OrdMap.get?_erase_of_ne _ hnot'.1]
    exact hI.newest_current payload hnot'.2
  linked := hI.linked
  operator := hI.operator
  clock e he := Nat.le_trans (hI.clock e he) hclock
  ordered := hI.ordered

end SequentialInv

/-! ### Runs -/

theorem issuedSeals_snoc (tr : List SealOutcome) (outcome : SealOutcome) :
    issuedSeals (tr ++ [outcome]) =
      match outcome.seal? with
      | none => issuedSeals tr
      | some e => if e ∈ issuedSeals tr then issuedSeals tr else issuedSeals tr ++ [e] := by
  unfold issuedSeals
  rw [List.filterMap_append, List.eraseDups_append]
  cases hseal : outcome.seal? with
  | none => simp [hseal]
  | some e =>
    rw [show [outcome].filterMap SealOutcome.seal? = [e] by simp [hseal], List.removeAll]
    by_cases hmem : e ∈ tr.filterMap SealOutcome.seal?
    · rw [List.filter_cons_of_neg (by simpa using hmem)]
      show _ ++ [] = if e ∈ (tr.filterMap SealOutcome.seal?).eraseDups then _ else _
      rw [if_pos (List.mem_eraseDups.2 hmem), List.append_nil]
    · rw [List.filter_cons_of_pos (by simpa using hmem)]
      show _ ++ [e].eraseDups = if e ∈ (tr.filterMap SealOutcome.seal?).eraseDups then _ else _
      rw [if_neg fun h => hmem (List.mem_eraseDups.1 h)]
      rfl

theorem mem_publishedChains_snoc {tr : List SealOutcome} {outcome : SealOutcome}
    {chain : SealChain} (h : chain ∈ publishedChains (tr ++ [outcome])) :
    chain ∈ publishedChains tr ∨ ∃ e, outcome.published = some e ∧ chain = e.chain := by
  unfold publishedChains at h ⊢
  rw [List.filterMap_append, List.mem_append] at h
  rcases h with h | h
  · exact .inl h
  · right
    simpa [eq_comm] using h

/-- **The invariant of sequential runs**, with the chains that have been published. -/
structure SequentialRunInv (operatorOf : String → String → String) (tr : List SealOutcome)
    (s : SequentialState) : Prop where
  inv : SequentialInv operatorOf (issuedSeals tr) s
  valid : ∀ chain ∈ publishedChains tr,
    validateSealChain chain = .ok () ∧ verifyChainDelta chain = .ok ()

variable {operatorOf : String → String → String}

theorem SequentialRunInv.step {tr : List SealOutcome} {s : SequentialState}
    (hI : SequentialRunInv operatorOf tr s) {op : SealOp} (hfits : op.Fits operatorOf s.manager)
    (hclock : s.clock ≤ op.now) :
    SequentialRunInv operatorOf (tr ++ [(s.manager.perform op).2])
      ⟨(s.manager.perform op).1, op.now⟩ := by
  have hcoherent := SealManager.perform_coherent hfits hI.inv.coherent
  have hperforms := SealManager.perform_performs (m := s.manager) op
  generalize s.manager.perform op = performed at hcoherent hperforms ⊢
  obtain ⟨m', outcome⟩ := performed
  -- what is published has been built on the chain of its pair
  have hvalid : (∀ e, outcome.published = some e →
      validateSealChain e.chain = .ok () ∧ verifyChainDelta e.chain = .ok ()) →
      ∀ chain ∈ publishedChains (tr ++ [outcome]),
        validateSealChain chain = .ok () ∧ verifyChainDelta chain = .ok () := by
    intro hnew chain hchain
    rcases mem_publishedChains_snoc hchain with hold | ⟨e, he, rfl⟩
    · exact hI.valid chain hold
    · exact hnew e he
  refine ⟨?_, hvalid ?_⟩
  · rw [issuedSeals_snoc]
    cases hperforms with
    | failed e => exact hI.inv.later hclock
    | unpublished e hbuilds => exact hI.inv.later hclock
    | @unchanged chatId newSealId input now previous hres =>
      have hmem := hI.inv.mem_of_current (SealManager.issueResolved_eq_unchanged hres).1
      show SequentialInv operatorOf (if previous ∈ issuedSeals tr then _ else _) _
      rw [if_pos hmem]
      exact hI.inv.later hclock
    | @recorded pending signed hbuilds =>
      have hcont := hI.inv.continues hfits hbuilds
      have hnot : pending.envelope signed ∉ issuedSeals tr := by
        intro hmem
        have htracked := hI.inv.get?_of_mem hmem
        rw [show (pending.envelope signed).sealId = pending.chain.current.sealId from rfl,
          hcont.fresh] at htracked
        cases htracked
      show SequentialInv operatorOf (if pending.envelope signed ∈ issuedSeals tr then _ else _) _
      rw [if_neg hnot]
      exact hI.inv.record hclock hcont signed hcoherent
    | revoked hres => exact hI.inv.revoke hclock hcoherent
  · intro e he
    cases hperforms with
    | failed _ => cases he
    | unpublished _ hbuilds =>
      cases he
      exact hI.inv.valid_of_continues hclock (hI.inv.continues hfits hbuilds)
    | unchanged _ => cases he
    | recorded hbuilds =>
      cases he
      exact hI.inv.valid_of_continues hclock (hI.inv.continues hfits hbuilds)
    | revoked _ => cases he

theorem SequentialRunInv.of_run {tr : List SealOutcome} {s : SequentialState}
    (h : Run sequentialMachine (fun s op => op.Fits operatorOf s.manager) tr s) :
    SequentialRunInv operatorOf tr s := by
  refine h.invariant ⟨.initial, fun _ hc => absurd hc List.not_mem_nil⟩ ?_
  intro tr s op s' es _ hI hfits hstep
  simp only [sequentialMachine] at hstep
  split at hstep
  · cases hstep
  · next hclock =>
    cases hstep
    exact hI.step hfits (Nat.le_of_not_lt hclock)

/-! ### Reading the manager -/

/-- The history of a pair is what was issued for it, newest first. -/
theorem SequentialInv.history_eq {issued : List SealEnvelope} {s : SequentialState}
    (hI : SequentialInv operatorOf issued s) (credentialId chatId : String) :
    s.manager.history credentialId chatId = issuedFor issued (credentialId, chatId) := by
  have htracked : s.manager.trackedSeals credentialId chatId =
      (issuedFor issued (credentialId, chatId)).reverse := by
    unfold SealManager.trackedSeals issuedFor
    rw [hI.tracked, List.reverse_reverse]
    refine List.filter_congr fun e _ => ?_
    simp [SealEnvelope.pair, SealPayloadType.pair]
  have hnodup : ((issuedFor issued (credentialId, chatId)).map SealEnvelope.sealId).Nodup := by
    have hids : (issued.map SealEnvelope.sealId).Nodup := by
      rw [← hI.tracked]
      exact OrdMap.nodup_values_of_key SealEnvelope.sealId hI.keyed
    unfold issuedFor
    rw [List.map_reverse, List.nodup_reverse]
    exact (List.filter_sublist.map _).nodup hids
  refine history_eq_of_linked htracked (hI.linked _)
    (fun e he => hI.get?_of_mem (mem_issuedFor.1 he).1) hnodup fun head hne hhead => ?_
  -- the pair is well-formed, for it has a seal, and its key determines it
  obtain ⟨e, he⟩ := List.exists_mem_of_ne_nil _ hne
  have hkey : pairKey e.pair = pairKey head.pair := by
    rw [(mem_issuedFor.1 he).2]
    exact hI.coherent.current_key hhead
  have hpair : e.pair = head.pair :=
    SealPayload.pair_eq_of_key_eq (p := e.chain.current) (q := head.chain.current) hkey
  rw [← (mem_issuedFor.1 he).2, hpair]
  exact hI.current_newest hhead

/-- What the reads of the interface show. -/
structure SameReads (m m' : SealManager) : Prop where
  current : ∀ credentialId chatId, m'.current credentialId chatId = m.current credentialId chatId
  lookup : ∀ sealId, m'.lookup sealId = m.lookup sealId
  history : ∀ credentialId chatId, m'.history credentialId chatId = m.history credentialId chatId
  list : ∀ chatId credentialId, m'.list chatId credentialId = m.list chatId credentialId

/-- **An operation that fails leaves the reads as they are.** -/
theorem SealManager.sameReads_of_error {op : SealOp} {e : SignetError}
    (h : (m.perform op).2.result = .error e) : SameReads m (m.perform op).1 := by
  have hperforms := SealManager.perform_performs (m := m) op
  generalize m.perform op = performed at h hperforms ⊢
  obtain ⟨m', outcome⟩ := performed
  have hsame : m' = m := by
    cases hperforms with
    | failed _ => rfl
    | unpublished _ _ => rfl
    | unchanged _ => rfl
    | recorded _ => cases h
    | revoked _ => cases h
  subst hsame
  exact ⟨fun _ _ => rfl, fun _ => rfl, fun _ _ => rfl, fun _ _ => rfl⟩

/-- **Sequential seal operations.** In every run of operations one after the other

* every chain handed to the publisher passes `validateSealChain` and `verifyChainDelta`;
* the history of a pair is the list of the seals that its operations have returned, each
  once, newest first, whether the pair has been revoked or not;
* an operation that fails changes nothing that can be read. -/
theorem sequential_seals {tr : List SealOutcome} {s : SequentialState}
    (h : Run sequentialMachine (fun s op => op.Fits operatorOf s.manager) tr s) :
    (∀ chain ∈ publishedChains tr,
      validateSealChain chain = .ok () ∧ verifyChainDelta chain = .ok ()) ∧
    (∀ credentialId chatId,
      s.manager.history credentialId chatId =
          ((issuedSeals tr).filter (·.pair = (credentialId, chatId))).reverse ∧
        (s.manager.history credentialId chatId).Pairwise fun newer older =>
          older.chain.current.issuedAt ≤ newer.chain.current.issuedAt) ∧
    ∀ op e, (s.manager.perform op).2.result = .error e →
      SameReads s.manager (s.manager.perform op).1 := by
  have hI := SequentialRunInv.of_run h
  refine ⟨hI.valid, fun credentialId chatId => ?_, fun _ _ => SealManager.sameReads_of_error⟩
  have hhistory := hI.inv.history_eq credentialId chatId
  refine ⟨hhistory, ?_⟩
  rw [hhistory]
  exact hI.inv.ordered _

instance (operatorOf : String → String → String) (op : SealOp) (m : SealManager) :
    Decidable (op.Fits operatorOf m) :=
  match op with
  | .issue _ _ (.error _) newSealId _ _ _ =>
    decidable_of_iff (m.sealsById.get? newSealId = none)
      ⟨fun h => ⟨h, fun _ heq => by cases heq⟩, fun h => h.1⟩
  | .issue credentialId chatId (.ok input) newSealId _ _ _ =>
    decidable_of_iff (m.sealsById.get? newSealId = none ∧ input.credentialId = credentialId ∧
        input.chatId = chatId ∧ input.operatorId = operatorOf credentialId chatId)
      ⟨fun h => ⟨h.1, fun _ heq => by cases heq; exact h.2⟩, fun h => ⟨h.1, h.2 input rfl⟩⟩
  | .refresh _ newSealId _ _ _ => inferInstanceAs (Decidable (m.sealsById.get? newSealId = none))
  | .revoke .. => isTrue trivial

/-- The input of the run below. -/
def sequentialInput : SealInput :=
  .plain "cred_0123456789abcdef" "op_0123456789abcdef" "conv_0123456789abcdef" ⟨[.send], []⟩

/-- An issue, a refresh, one whose publication fails, and a revocation: the history
lists the two seals. -/
theorem sequential_seals_revoked :
    ∃ tr s, Run sequentialMachine
        (fun s op => op.Fits (fun _ _ => sequentialInput.operatorId) s.manager) tr s ∧
      s.manager.current sequentialInput.credentialId sequentialInput.chatId = none ∧
      (s.manager.history sequentialInput.credentialId sequentialInput.chatId).map (·.sealId) =
        ["seal_0000000000000002", "seal_0000000000000001"] ∧
      s.manager.history sequentialInput.credentialId sequentialInput.chatId =
        ((issuedSeals tr).filter
          (·.pair = (sequentialInput.credentialId, sequentialInput.chatId))).reverse := by
  obtain ⟨tr, s, hrun, htest⟩ := exists_run_of_exec sequentialMachine
    (fun s op => decide (op.Fits (fun _ _ => sequentialInput.operatorId) s.manager))
    [.issue sequentialInput.credentialId sequentialInput.chatId (.ok sequentialInput)
        "seal_0000000000000001" 10 (.ok ⟨"sig", "key_0123456789abcdef"⟩) (.ok ()),
      .refresh "seal_0000000000000001" "seal_0000000000000002" 20
        (.ok ⟨"sig", "key_0123456789abcdef"⟩) (.ok ()),
      .refresh "seal_0000000000000002" "seal_0000000000000003" 20
        (.ok ⟨"sig", "key_0123456789abcdef"⟩) (.error (.internalError "offline")),
      .revoke "seal_0000000000000001" .ownerInitiated "seal_0000000000000004" 30
        (.ok ⟨"sig", "key_0123456789abcdef"⟩) (.ok ())]
    (fun _ s =>
      s.manager.current sequentialInput.credentialId sequentialInput.chatId = none &&
        (s.manager.history sequentialInput.credentialId sequentialInput.chatId).map (·.sealId) =
          ["seal_0000000000000002", "seal_0000000000000001"])
    (by decide)
  have hrun' : Run sequentialMachine
      (fun s op => op.Fits (fun _ _ => sequentialInput.operatorId) s.manager) tr s :=
    hrun.mono fun _ _ hok => of_decide_eq_true hok
  simp only [Bool.and_eq_true, decide_eq_true_eq] at htest
  exact ⟨tr, s, hrun', htest.1, htest.2, ((sequential_seals hrun').2.1 _ _).1⟩

end Signet
