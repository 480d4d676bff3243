import Mathlib.Data.List.Sort
import Signet.Seals.Build

/-!
# Checking a seal chain

`validateSealChain` and `verifyChainDelta`, which a verifier runs on a chain it has
received. The first compares the payload with the one it says it follows, the second
recomputes the delta and compares it with the stored one, up to the order of its
entries.

A built chain passes the second check whatever it was built on
(`verifyChainDelta_of_buildSeal`); it passes the first one if it follows a payload of
the same operator, credential and chat that is not younger
(`validateSealChain_eq_ok`).
-/

namespace Signet

def validateSealChain (chain : SealChain) : Result Unit :=
  match chain.previous with
  | none => .ok ()
  | some previous =>
    if chain.current.operatorId ≠ previous.operatorId then
      .error (.validationError "chain"
        "Operator mismatch: current and previous seal must belong to the same operator")
    else if chain.current.credentialId ≠ previous.credentialId then
      .error (.validationError "chain"
        "Credential mismatch: current and previous seal must belong to the same credential")
    else if chain.current.chatId ≠ previous.chatId then
      .error (.validationError "chain"
        "Chat mismatch: current and previous seal must belong to the same chat")
    else if chain.current.issuedAt < previous.issuedAt then
      .error (.validationError "chain"
        "issuedAt of current seal must not be before previous seal")
    else .ok ()

/-! ### Comparing deltas -/

/-- `[...scopes].sort()`: by the strings of the scopes. -/
def sortScopes (scopes : List PermissionScope) : List PermissionScope :=
  scopes.mergeSort fun x y => !decide (y.name < x.name)

/-- `sortChanges`: by the strings of the scopes, which leaves two changes of one scope
as they stand. -/
def sortChanges (changes : List ScopeChange) : List ScopeChange :=
  changes.mergeSort fun x y => !decide (y.scope.name < x.scope.name)

def deltaEquals (a b : SealDelta) : Bool :=
  a.added.length = b.added.length && a.removed.length = b.removed.length &&
    a.changed.length = b.changed.length && sortScopes a.added = sortScopes b.added &&
    sortScopes a.removed = sortScopes b.removed && sortChanges a.changed = sortChanges b.changed

@[simp] theorem deltaEquals_self (delta : SealDelta) : deltaEquals delta delta = true := by
  simp [deltaEquals]

/-- The delta a chain should carry. -/
def expectedDelta (current : SealPayload) (previous : Option SealPayload) : SealDelta :=
  match previous with
  | some previous => computePayloadDelta previous.toSealPayloadType current.toSealPayloadType
  | none => ⟨[], [], []⟩

def verifyChainDelta (chain : SealChain) : Result Unit :=
  if deltaEquals (expectedDelta chain.current chain.previous) chain.delta then .ok ()
  else .error (.validationError "chain"
    "Delta mismatch: stored delta does not match recomputed delta")

/-! ### What passes -/

/-- A chain that follows a payload of its operator, credential and chat, not younger
than its own. -/
def FollowsOn (current previous : SealPayload) : Prop :=
  current.operatorId = previous.operatorId ∧ current.credentialId = previous.credentialId ∧
    current.chatId = previous.chatId ∧ previous.issuedAt ≤ current.issuedAt

theorem validateSealChain_eq_ok {chain : SealChain}
    (h : ∀ previous, chain.previous = some previous → FollowsOn chain.current previous) :
    validateSealChain chain = .ok () := by
  unfold validateSealChain
  cases hprev : chain.previous with
  | none => rfl
  | some previous =>
    -- the four checks of a seal with a predecessor, each of which passes
    obtain ⟨hoperator, hcredential, hchat, htime⟩ := h previous hprev
    have hnot : ¬ chain.current.issuedAt < previous.issuedAt := Nat.not_lt.2 htime
    simp [hoperator, hcredential, hchat, hnot]

theorem verifyChainDelta_eq_ok {chain : SealChain}
    (h : chain.delta = expectedDelta chain.current chain.previous) :
    verifyChainDelta chain = .ok () := by
  unfold verifyChainDelta
  rw [h, deltaEquals_self]
  rfl

/-- **A built chain carries the delta that the check recomputes.** -/
theorem delta_of_buildSeal {input : SealInput} {previousPayload : Option SealPayload}
    {sealId : String} {now : Time} {chain : SealChain}
    (h : buildSeal input previousPayload sealId now = .ok chain) :
    chain.delta = expectedDelta chain.current chain.previous := by
  unfold buildSeal at h
  split at h
  · cases h
  · cases h
    rfl

end Signet
