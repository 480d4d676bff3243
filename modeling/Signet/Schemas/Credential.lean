import Signet.Schemas.ResourceId
import Signet.Schemas.PermissionScope

/-!
# Credentials

The credential schemas of `credential.ts`, the policy merge of `policy.ts` and
the record the credential service hands to the transports.
-/

namespace Signet

inductive CredentialStatus where
  | pending
  | active
  | expired
  | revoked
  deriving DecidableEq

def CredentialStatus.name : CredentialStatus → String
  | .pending => "pending"
  | .active => "active"
  | .expired => "expired"
  | .revoked => "revoked"

inductive CredentialRevocationReason where
  | ownerInitiated
  | credentialExpired
  | heartbeatTimeout
  | policyViolation
  | reauthorizationRequired
  deriving DecidableEq

/-- `CredentialConfigType`: what a credential is issued from. -/
structure CredentialConfig where
  operatorId : String
  chatIds : List String
  policyId : Option String
  allow : Option (List PermissionScope)
  deny : Option (List PermissionScope)
  ttlSeconds : Option Nat
  deriving DecidableEq

/-- The `CredentialConfig` schema accepts the configuration: resource ids in
place, at least one chat, a positive lifetime. -/
def CredentialConfig.accepted (config : CredentialConfig) : Bool :=
  isResourceId .operator config.operatorId &&
    (config.chatIds.all (isResourceId .conversation) && !config.chatIds.isEmpty) &&
    config.policyId.all (isResourceId .policy) &&
    config.ttlSeconds.all (0 < ·)

/-- Every chat of an accepted configuration is a local conversation id. -/
theorem CredentialConfig.chatIds_of_accepted {config : CredentialConfig}
    (h : config.accepted = true) {chatId : String} (hmem : chatId ∈ config.chatIds) :
    isResourceId .conversation chatId = true := by
  simp only [accepted, Bool.and_eq_true] at h
  exact List.all_eq_true.1 h.1.1.2.1 chatId hmem

/-- `CredentialRecordType`: the record as persisted and shown. `config` is spelled
out in its fields; its scope lists are the effective scopes. -/
structure SchemaCredentialRecord where
  credentialId : String
  operatorId : String
  chatIds : List String
  effectiveScopes : ScopeSet
  status : CredentialStatus
  issuedAt : Time
  expiresAt : Time
  issuedBy : String
  deriving DecidableEq

/-- `CredentialRecord` of the contracts: the runtime-enriched record the
transports work with. -/
structure CredentialRecord extends SchemaCredentialRecord where
  isExpired : Bool
  lastHeartbeat : Time
  deriving DecidableEq

/-- `IssuedCredentialType`: the bearer token, shown once, and the record. -/
structure IssuedCredential where
  token : String
  credential : SchemaCredentialRecord
  deriving DecidableEq

/-- `CredentialTokenType`, without the fingerprint of the token. -/
structure CredentialToken where
  credentialId : String
  operatorId : String
  issuedAt : Time
  expiresAt : Time
  deriving DecidableEq

/-- `PolicyConfigType`, without the label. -/
structure PolicyConfig where
  allow : List PermissionScope
  deny : List PermissionScope
  deriving DecidableEq

/-- `resolvePolicy`: the policy's lists followed by the inline ones. -/
def resolvePolicy (policy : PolicyConfig) (inlineAllow inlineDeny : Option (List PermissionScope)) :
    ScopeSet where
  allow := policy.allow ++ inlineAllow.getD []
  deny := policy.deny ++ inlineDeny.getD []

end Signet
