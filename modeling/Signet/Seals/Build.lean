import Signet.Schemas.Seal

/-!
# Building a seal

`computePayloadDelta` compares the scope sets of two payloads, `buildSeal`
assembles, validates and links a payload. The seal id and the clock are drawn
inside `buildSeal` in the source; here they are arguments.
-/

namespace Signet

/-- `computePayloadDelta`: the loops over the four scope sets, each scope once,
in the order of its first listing. -/
def computePayloadDelta (previous next : SealPayloadType) : SealDelta :=
  let prevAllow := previous.permissions.allow.eraseDups
  let nextAllow := next.permissions.allow.eraseDups
  let prevDeny := previous.permissions.deny.eraseDups
  let nextDeny := next.permissions.deny.eraseDups
  { added :=
      -- newly allowed and not denied before, then a denial that was dropped
      nextAllow.filter (fun scope => scope ∉ prevAllow ∧ scope ∉ prevDeny) ++
        prevDeny.filter (fun scope => scope ∉ nextDeny ∧ scope ∉ nextAllow)
    removed :=
      -- no longer allowed and not denied now, then newly denied out of nothing
      prevAllow.filter (fun scope => scope ∉ nextAllow ∧ scope ∉ nextDeny) ++
        nextDeny.filter (fun scope => scope ∉ prevDeny ∧ scope ∉ prevAllow)
    changed :=
      (nextAllow.filter (fun scope => scope ∉ prevAllow ∧ scope ∈ prevDeny)).map
          (⟨·, .deny, .allow⟩) ++
        (prevAllow.filter (fun scope => scope ∉ nextAllow ∧ scope ∈ nextDeny)).map
          (⟨·, .allow, .deny⟩) ++
        -- scopes that stay listed in allow but toggle deny
        (nextDeny.filter
            (fun scope => scope ∉ prevDeny ∧ scope ∈ prevAllow ∧ scope ∈ nextAllow)).map
          (⟨·, .allow, .deny⟩) ++
        (prevDeny.filter
            (fun scope => scope ∉ nextDeny ∧ scope ∈ prevAllow ∧ scope ∈ nextAllow)).map
          (⟨·, .deny, .allow⟩) }

/-- `SealInput`: the fields a seal is built from. The seal id and the time of
issue are never among them. -/
structure SealInput where
  credentialId : String
  operatorId : String
  chatId : String
  scopeMode : ScopeMode
  permissions : ScopeSet
  adminAccess : Option AdminAccess
  bypassed : Bool
  trustTier : Option TrustTier
  operatorDisclosures : Option OperatorDisclosures
  provenanceMap : Option ProvenanceMap
  deriving DecidableEq

/-- An input that discloses nothing beyond the permissions. -/
def SealInput.plain (credentialId operatorId chatId : String) (permissions : ScopeSet) :
    SealInput where
  credentialId := credentialId
  operatorId := operatorId
  chatId := chatId
  scopeMode := .perChat
  permissions := permissions
  adminAccess := none
  bypassed := false
  trustTier := none
  operatorDisclosures := none
  provenanceMap := none

/-- The payload `buildSeal` puts together before it is validated. -/
def SealInput.toPayload (input : SealInput) (sealId : String) (now : Time) : SealPayloadType where
  sealId := sealId
  credentialId := input.credentialId
  operatorId := input.operatorId
  chatId := input.chatId
  scopeMode := input.scopeMode
  permissions := input.permissions
  adminAccess := input.adminAccess
  issuedAt := now
  bypassed := input.bypassed
  trustTier := input.trustTier
  operatorDisclosures := input.operatorDisclosures
  provenanceMap := input.provenanceMap

/-- `buildSeal`: validate the payload and link it to the previous one. -/
def buildSeal (input : SealInput) (previousPayload : Option SealPayload) (sealId : String)
    (now : Time) : Result SealChain :=
  match SealPayload.safeParse (input.toPayload sealId now) with
  | .error issues => .error (.schemaError "seal" issues)
  | .ok current =>
    let delta :=
      match previousPayload with
      | some previous => computePayloadDelta previous.toSealPayloadType current.toSealPayloadType
      | none => ⟨[], [], []⟩
    .ok ⟨current, previousPayload, delta⟩

/-- **What a built chain says.** Its payload is the input under the drawn id and
time, linked to the payload it was given. -/
theorem buildSeal_eq_ok {input : SealInput} {previousPayload : Option SealPayload}
    {sealId : String} {now : Time} {chain : SealChain}
    (h : buildSeal input previousPayload sealId now = .ok chain) :
    chain.current.toSealPayloadType = input.toPayload sealId now ∧
      chain.previous = previousPayload := by
  unfold buildSeal at h
  split at h
  · cases h
  · next current hparse =>
    cases h
    exact ⟨SealPayload.toSealPayloadType_of_safeParse hparse, rfl⟩

end Signet
