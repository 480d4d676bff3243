import Signet.Lib.OrdMap
import Signet.Policy.Materiality
import Signet.Seals.Build
import Mathlib.Data.Finset.Insert
import Mathlib.Data.List.Sort

/-!
# The seal manager

`createSealManager`: the tracked maps, and each public operation cut at its
`await`s. An operation that awaits is a first segment up to the call it awaits
(`issueResolved`, `refreshStart`, `revokeStart`), the data it carries across
(`PendingSeal`, `PendingRevocation`) and a last segment that writes the maps
(`track`, `markRevoked`). `Seals.Machine` interleaves the segments.
-/

namespace Signet

open Lib

/-- The closure state of `createSealManager`. -/
structure SealManager where
  /-- Current seal per credential+chat. -/
  currentSeals : OrdMap String SealEnvelope
  /-- Seals by id, for refresh and revoke. -/
  sealsById : OrdMap String SealEnvelope
  /-- Which inputs produced which seals, for refresh. -/
  inputsBySealId : OrdMap String SealInput
  /-- Revoked credential+chat pairs. -/
  revokedPairs : Finset String

/-- The manager as created. -/
def SealManager.new : SealManager where
  currentSeals := .empty
  sealsById := .empty
  inputsBySealId := .empty
  revokedPairs := ∅

/-- `chainKey`: composite key for credential+chat tracking. -/
def chainKey (credentialId chatId : String) : String :=
  joinKey credentialId chatId

/-- The credential and the chat a payload is about. -/
def SealPayloadType.pair (payload : SealPayloadType) : String × String :=
  (payload.credentialId, payload.chatId)

/-- The tracking key of a pair. -/
def pairKey (pair : String × String) : String :=
  chainKey pair.1 pair.2

def SealEnvelope.pair (envelope : SealEnvelope) : String × String :=
  envelope.chain.current.pair

/-- Payloads with one key are about one pair. -/
theorem SealPayload.pair_eq_of_key_eq {p q : SealPayload}
    (h : pairKey p.pair = pairKey q.pair) : p.pair = q.pair := by
  obtain ⟨hcred, hchat⟩ := joinKey_inj p.credentialId_ok q.credentialId_ok h
  exact Prod.ext hcred hchat

/-! ### Change detection -/

/-- `hasInputChanges`: did a field other than the permissions change? Canonical
serialization makes the nested comparisons structural. -/
def hasInputChanges (previous next : SealInput) : Bool :=
  previous.credentialId ≠ next.credentialId ||
    previous.operatorId ≠ next.operatorId ||
    previous.chatId ≠ next.chatId ||
    previous.scopeMode ≠ next.scopeMode ||
    previous.adminAccess ≠ next.adminAccess ||
    previous.trustTier ≠ next.trustTier ||
    previous.operatorDisclosures ≠ next.operatorDisclosures ||
    previous.provenanceMap ≠ next.provenanceMap

namespace SealManager

variable (m : SealManager)

/-- The materiality check of `issue`: the previous seal was built from a known
input, and neither its scopes nor the rest of the input changed. -/
def isUnchanged (previous : SealEnvelope) (input : SealInput) : Bool :=
  match m.inputsBySealId.get? previous.sealId with
  | none => false
  | some previousInput =>
    let payload := previous.chain.current.toSealPayloadType
    let delta := computePayloadDelta payload
      { payload with
        permissions := input.permissions
        scopeMode := input.scopeMode
        adminAccess := input.adminAccess }
    !isMaterialChange [delta] && !hasInputChanges previousInput input

/-- An issue with this input has a seal to build: the pair is not revoked and the
head, if any, does not say the same already. -/
def needsSeal (chatId : String) (input : SealInput) : Bool :=
  let key := chainKey input.credentialId chatId
  key ∉ m.revokedPairs && (m.currentSeals.get? key).all fun previous =>
    !m.isUnchanged previous input

/-- A refresh of this seal has a seal to build: it is the head of its pair and the
pair is not revoked. -/
def isRefreshable (sealId : String) (existing : SealEnvelope) : Bool :=
  let key := pairKey existing.pair
  (m.currentSeals.get? key).map (·.sealId) = some sealId && key ∉ m.revokedPairs

end SealManager

/-! ### Issue and refresh -/

/-- What `issue` and `refresh` carry across their awaits. -/
structure PendingSeal where
  /-- The key the seal will be tracked under. -/
  key : String
  /-- The chat the seal will be published to. -/
  publishTo : String
  /-- The input the seal was built from. -/
  input : SealInput
  /-- The built chain. -/
  chain : SealChain
  deriving DecidableEq

/-- The pair the seal in flight is about. -/
def PendingSeal.pair (pending : PendingSeal) : String × String :=
  pending.chain.current.pair

/-- The signed envelope with the full chain put back. -/
def PendingSeal.envelope (pending : PendingSeal) (signed : Signature) : SealEnvelope :=
  ⟨pending.chain, signed⟩

@[simp] theorem PendingSeal.envelope_pair (pending : PendingSeal) (signed : Signature) :
    (pending.envelope signed).pair = pending.pair := rfl

@[simp] theorem PendingSeal.envelope_sealId (pending : PendingSeal) (signed : Signature) :
    (pending.envelope signed).sealId = pending.chain.current.sealId := rfl

namespace SealManager

variable (m : SealManager)

/-- `issue` from the settled resolver to `signer.sign`: either the previous seal
is still good, or there is a seal to sign. -/
def issueResolved (chatId : String) (input : SealInput) (sealId : String) (now : Time) :
    Result (SealEnvelope ⊕ PendingSeal) :=
  let key := chainKey input.credentialId chatId
  if key ∈ m.revokedPairs then
    .error (.sealError "" "Cannot issue seal for revoked credential+chat")
  else
    let previous := m.currentSeals.get? key
    match previous.filter (m.isUnchanged · input) with
    | some envelope => .ok (.inl envelope)
    | none =>
      match buildSeal input (previous.map (·.chain.current)) sealId now with
      | .error e => .error e
      | .ok chain => .ok (.inr ⟨key, chatId, input, chain⟩)

/-- `refresh` up to `signer.sign`. The seal is rebuilt from the input that
produced the existing one. -/
def refreshStart (sealId newSealId : String) (now : Time) : Result PendingSeal :=
  match m.sealsById.get? sealId with
  | none => .error (.sealError sealId "Seal not found")
  | some existing =>
    match m.inputsBySealId.get? sealId with
    | none => .error (.sealError sealId "Input not found for seal")
    | some input =>
      let current := existing.chain.current
      let key := chainKey current.credentialId current.chatId
      if (m.currentSeals.get? key).map (·.sealId) ≠ some sealId then
        .error (.sealError sealId "Only the current head seal can be refreshed")
      else if key ∈ m.revokedPairs then
        .error (.sealError sealId "Cannot refresh: credential+chat pair has been revoked")
      else
        match buildSeal input (some current) newSealId now with
        | .error e => .error e
        | .ok chain => .ok ⟨key, current.chatId, input, chain⟩

/-- The writes of `issue` and `refresh` after a successful publish. -/
def track (pending : PendingSeal) (envelope : SealEnvelope) : SealManager :=
  { m with
    currentSeals := m.currentSeals.set pending.key envelope
    sealsById := m.sealsById.set envelope.sealId envelope
    inputsBySealId := m.inputsBySealId.set envelope.sealId pending.input }

end SealManager

/-! ### Revoke -/

/-- What `revoke` carries across its awaits. -/
structure PendingRevocation where
  /-- The key of the pair under revocation. -/
  key : String
  /-- The validated revocation. -/
  revocation : RevocationSeal
  deriving DecidableEq

def PendingRevocation.pair (pending : PendingRevocation) : String × String :=
  (pending.revocation.credentialId, pending.revocation.chatId)

namespace SealManager

variable (m : SealManager)

/-- `revoke` up to `signer.signRevocation`. -/
def revokeStart (sealId : String) (reason : AgentRevocationReason) (newSealId : String)
    (now : Time) : Result PendingRevocation :=
  match m.sealsById.get? sealId with
  | none => .error (.sealError sealId "Seal not found")
  | some existing =>
    let current := existing.chain.current
    let key := chainKey current.credentialId current.chatId
    if key ∈ m.revokedPairs then
      .error (.sealError sealId "Credential+chat already revoked")
    else
      let revocation : RevocationSeal :=
        { sealId := newSealId
          previousSealId := sealId
          operatorId := current.operatorId
          credentialId := current.credentialId
          chatId := current.chatId
          reason := reason
          revokedAt := now
          issuer := "signet" }
      if revocationSealIssues revocation = [] then .ok ⟨key, revocation⟩
      else .error (.schemaError "revocation" (revocationSealIssues revocation))

/-- The writes of `revoke` after the revocation is published. -/
def markRevoked (pending : PendingRevocation) : SealManager :=
  { m with
    revokedPairs := insert pending.key m.revokedPairs
    currentSeals := m.currentSeals.erase pending.key }

/-! ### Reading -/

def current (credentialId chatId : String) : Option SealEnvelope :=
  m.currentSeals.get? (chainKey credentialId chatId)

/-- `matchesFilter`: the optional list filters. -/
def matchesFilter (envelope : SealEnvelope) (chatId credentialId : Option String) : Bool :=
  chatId.all (envelope.chain.current.chatId == ·) &&
    credentialId.all (envelope.chain.current.credentialId == ·)

/-- `compareNewestFirst` as an order: newest first, ties in insertion order. -/
def newestFirst (envelopes : List SealEnvelope) : List SealEnvelope :=
  envelopes.insertionSort fun left right =>
    right.chain.current.issuedAt ≤ left.chain.current.issuedAt

/-- `list`: the current seals that pass the filter, newest first. -/
def list (chatId credentialId : Option String) : List SealEnvelope :=
  newestFirst (m.currentSeals.values.filter (matchesFilter · chatId credentialId))

def lookup (sealId : String) : Result SealEnvelope :=
  match m.sealsById.get? sealId with
  | none => .error (.sealError sealId "Seal not found")
  | some envelope => .ok envelope

/-- The envelope a history cursor moves to. -/
def previousOf (envelope : SealEnvelope) : Option SealEnvelope :=
  envelope.previousId.bind m.sealsById.get?

end SealManager

/-! ### What the segments do -/

variable {m : SealManager}

/-- What holds of a seal in flight when its operation reaches `signer.sign`. -/
structure PendingSeal.Started (m : SealManager) (pending : PendingSeal) (sealId : String)
    (now : Time) : Prop where
  /-- The payload is the input under the drawn id and time. -/
  payload_eq : pending.chain.current.toSealPayloadType = pending.input.toPayload sealId now
  /-- The pair was not revoked at that moment. -/
  notRevoked : pending.key ∉ m.revokedPairs

/-- An issue that goes on to sign follows the head it read. -/
theorem SealManager.issueResolved_eq_pending {chatId : String} {input : SealInput}
    {sealId : String} {now : Time} {pending : PendingSeal}
    (h : m.issueResolved chatId input sealId now = .ok (.inr pending)) :
    pending.Started m sealId now ∧ pending.input = input ∧
      pending.key = chainKey input.credentialId chatId ∧ pending.publishTo = chatId ∧
      pending.chain.previous = (m.currentSeals.get? pending.key).map (·.chain.current) := by
  simp only [issueResolved] at h
  split at h
  · cases h
  -- the pair is not revoked
  · next hrev =>
    split at h
    · cases h
    · split at h
      · cases h
      -- the chain is built on what was the head of the pair
      · next chain hbuild =>
        cases h
        obtain ⟨hpayload, hprev⟩ := buildSeal_eq_ok hbuild
        exact ⟨⟨hpayload, hrev⟩, rfl, rfl, rfl, hprev⟩

theorem SealManager.needsSeal_of_issueResolved {chatId : String} {input : SealInput}
    {sealId : String} {now : Time} {pending : PendingSeal}
    (h : m.issueResolved chatId input sealId now = .ok (.inr pending)) :
    m.needsSeal chatId input = true := by
  simp only [issueResolved] at h
  split at h
  · cases h
  · next hrev =>
    split at h
    · cases h
    -- no head is returned unchanged
    · next hnone =>
      rw [Option.filter_eq_none_iff] at hnone
      simp only [needsSeal, hrev, not_false_eq_true, decide_true, Bool.true_and,
        Option.all_eq_true, Bool.not_eq_true']
      intro previous hprev
      exact Bool.not_eq_true _ ▸ hnone previous hprev

theorem SealManager.issueResolved_eq_unchanged {chatId : String} {input : SealInput}
    {sealId : String} {now : Time} {envelope : SealEnvelope}
    (h : m.issueResolved chatId input sealId now = .ok (.inl envelope)) :
    m.currentSeals.get? (chainKey input.credentialId chatId) = some envelope ∧
      m.isUnchanged envelope input = true := by
  simp only [issueResolved] at h
  split at h
  · cases h
  · split at h
    · next previous hfilter =>
      cases h
      exact Option.filter_eq_some_iff.1 hfilter
    · split at h <;> cases h

/-- A refresh that goes on to sign rebuilds the stored input on the seal it was
called for, which is the head of its pair. -/
theorem SealManager.refreshStart_eq_ok {sealId newSealId : String} {now : Time}
    {pending : PendingSeal} (h : m.refreshStart sealId newSealId now = .ok pending) :
    pending.Started m newSealId now ∧
      m.inputsBySealId.get? sealId = some pending.input ∧
      (m.currentSeals.get? pending.key).map (·.sealId) = some sealId ∧
      ∃ existing, m.sealsById.get? sealId = some existing ∧
        pending.key = pairKey existing.pair ∧ pending.publishTo = existing.pair.2 ∧
        pending.chain.previous = some existing.chain.current := by
  simp only [refreshStart] at h
  split at h
  · cases h
  -- the seal is tracked
  · next existing hexisting =>
    split at h
    · cases h
    · next input hinput =>
      split at h
      · cases h
      -- it is the head of its pair
      · next hhead =>
        split at h
        · cases h
        -- the pair is not revoked
        · next hrev =>
          split at h
          · cases h
          · next chain hbuild =>
            cases h
            obtain ⟨hpayload, hprev⟩ := buildSeal_eq_ok hbuild
            exact ⟨⟨hpayload, hrev⟩, hinput, not_not.1 hhead, existing, hexisting, rfl, rfl,
              hprev⟩

theorem SealManager.revokeStart_eq_ok {sealId newSealId : String}
    {reason : AgentRevocationReason} {now : Time} {pending : PendingRevocation}
    (h : m.revokeStart sealId reason newSealId now = .ok pending) :
    pending.key ∉ m.revokedPairs ∧ pending.key = pairKey pending.pair ∧
      ∃ existing, m.sealsById.get? sealId = some existing ∧ pending.pair = existing.pair := by
  simp only [revokeStart] at h
  split at h
  · cases h
  -- the seal is tracked, whether or not it is the head
  · next existing hexisting =>
    split at h
    · cases h
    · next hrev =>
      split at h
      · cases h
        exact ⟨hrev, rfl, existing, hexisting, rfl⟩
      · cases h

end Signet
