import Signet.Policy.Permissions
import Signet.Schemas.Credential
import Signet.Seals.Build

/-!
# The seal input resolver

`cli/src/seal-input-resolver.ts` turns a credential and its operator into the
input of a seal. The two lookups it awaits are made by its callers here
(`Cli.SealLifecycle` runs them as steps); this module has the pure remainder.

The resolver looks at the chats of the credential (`resolveSealInput_eq_ok`), not
at its status.
-/

namespace Signet

/-- The part of `OperatorConfigType` the resolver reads. -/
structure OperatorConfig where
  scopeMode : ScopeMode
  operatorDisclosures : Option OperatorDisclosures
  deriving DecidableEq

/-- A record that names only its source. -/
def ClaimProvenanceRecord.ofSource (source : ClaimProvenance) : ClaimProvenanceRecord :=
  ⟨source, none, none, none⟩

/-- `buildSealProvenanceMap`: the trust tier is verified, what the operator
discloses is declared. -/
def buildSealProvenanceMap (operatorDisclosures : Option OperatorDisclosures) : ProvenanceMap :=
  let declared := fun {α : Type} (claim : Option α) =>
    claim.map fun _ => ClaimProvenanceRecord.ofSource .declared
  { inferenceMode := declared (operatorDisclosures.bind (·.inferenceMode))
    inferenceProviders := declared (operatorDisclosures.bind (·.inferenceProviders))
    contentEgressScope := declared (operatorDisclosures.bind (·.contentEgressScope))
    retentionAtProvider := declared (operatorDisclosures.bind (·.retentionAtProvider))
    hostingMode := declared (operatorDisclosures.bind (·.hostingMode))
    trustTier := some (.ofSource .verified) }

/-- `createSealInputResolver` from the two settled lookups on. `adminAccess` is
what `lookupAdminAccess` returns for the chat at that moment. -/
def resolveSealInput (trustTier : TrustTier) (credentialId chatId : String)
    (cred : CredentialRecord) (op : OperatorConfig) (adminAccess : Option AdminAccess) :
    Result SealInput :=
  match checkChatInScope chatId cred.chatIds with
  | .error (.permissionError message context) =>
    .error (.permissionError message (context ++ [("credentialId", credentialId)]))
  | .error e => .error e
  | .ok () =>
    .ok
      { credentialId := credentialId
        operatorId := cred.operatorId
        chatId := chatId
        scopeMode := op.scopeMode
        permissions := cred.effectiveScopes
        adminAccess := adminAccess
        bypassed := false
        trustTier := some trustTier
        operatorDisclosures := op.operatorDisclosures
        provenanceMap := some (buildSealProvenanceMap op.operatorDisclosures) }

/-- **What a resolved input says**: it is about the pair asked for, the chat is in
the credential's set, and it discloses the admin access of the moment. -/
theorem resolveSealInput_eq_ok {trustTier : TrustTier} {credentialId chatId : String}
    {cred : CredentialRecord} {op : OperatorConfig} {adminAccess : Option AdminAccess}
    {input : SealInput}
    (h : resolveSealInput trustTier credentialId chatId cred op adminAccess = .ok input) :
    chatId ∈ cred.chatIds ∧ input.credentialId = credentialId ∧ input.chatId = chatId ∧
      input.operatorId = cred.operatorId ∧ input.adminAccess = adminAccess := by
  unfold resolveSealInput at h
  split at h
  · cases h
  · cases h
  -- the scope check has passed, and the input is built from the records
  · next hin =>
    cases h
    exact ⟨checkChatInScope_eq_ok.1 hin, rfl, rfl, rfl, rfl⟩

theorem resolveSealInput_isOk {trustTier : TrustTier} {credentialId chatId : String}
    {cred : CredentialRecord} {op : OperatorConfig} {adminAccess : Option AdminAccess} :
    (resolveSealInput trustTier credentialId chatId cred op adminAccess).isOk = true ↔
      chatId ∈ cred.chatIds := by
  constructor
  · intro h
    cases hres : resolveSealInput trustTier credentialId chatId cred op adminAccess with
    | error e => rw [hres] at h; cases h
    | ok input => exact (resolveSealInput_eq_ok hres).1
  · intro hin
    unfold resolveSealInput
    rw [checkChatInScope_eq_ok.2 hin]
    rfl

end Signet
