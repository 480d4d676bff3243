import Signet.Schemas.ResourceId
import Signet.Schemas.PermissionScope

/-!
# Seals

The seal schemas of `seal.ts`, with the parts of `operator.ts`,
`claim-provenance.ts` and `revocation.ts` they are made of.

`SealPayloadType` is the TypeScript type, `SealPayload` what
`SealPayload.safeParse` returns: a payload that carries the proof that the schema
raised no issue. A chain holds parsed payloads only, so every seal that is ever
built has well-formed ids (`SealPayload.credentialId_ok` and its companions).
-/

namespace Signet

/-! ### Operator disclosures and provenance -/

/-- `ScopeMode`: whether scopes are per chat or shared across conversations. -/
inductive ScopeMode where
  | perChat
  | shared
  deriving DecidableEq

inductive TrustTier where
  | unverified
  | sourceVerified
  | reproduciblyVerified
  | runtimeAttested
  deriving DecidableEq

/-- `InferenceMode`: how an operator performs inference. -/
inductive InferenceMode where
  | localInference
  | cloud
  | hybrid
  deriving DecidableEq

/-- `ContentEgressScope`: what content may leave the signet boundary. -/
inductive ContentEgressScope where
  | none
  | providerOnly
  | unrestricted
  deriving DecidableEq

/-- `HostingMode`: where the operator runtime is hosted. -/
inductive HostingMode where
  | selfHosted
  | cloud
  | tee
  deriving DecidableEq

/-- `OperatorDisclosuresType`: claims an operator declares about its runtime. -/
structure OperatorDisclosures where
  inferenceMode : Option InferenceMode
  inferenceProviders : Option (List String)
  contentEgressScope : Option ContentEgressScope
  retentionAtProvider : Option String
  hostingMode : Option HostingMode
  deriving DecidableEq

/-- `ClaimProvenance`: how a claim was established. -/
inductive ClaimProvenance where
  | verified
  | observed
  | declared
  deriving DecidableEq

/-- `ClaimProvenanceRecordType`. -/
structure ClaimProvenanceRecord where
  source : ClaimProvenance
  attestedBy : Option String
  attestedAt : Option Time
  expiresAt : Option Time
  deriving DecidableEq

/-- `ProvenanceMapType`: a record for each supported claim key, or none. -/
structure ProvenanceMap where
  inferenceMode : Option ClaimProvenanceRecord
  inferenceProviders : Option ClaimProvenanceRecord
  contentEgressScope : Option ClaimProvenanceRecord
  retentionAtProvider : Option ClaimProvenanceRecord
  hostingMode : Option ClaimProvenanceRecord
  trustTier : Option ClaimProvenanceRecord
  deriving DecidableEq

/-! ### Payloads -/

/-- Disclosed admin read access: the acting operator (or `owner`) and when the
access ends. -/
structure AdminAccess where
  operatorId : String
  expiresAt : Time
  deriving DecidableEq

/-- `SealPayloadType`: the fields of a payload, before any check. -/
structure SealPayloadType where
  sealId : String
  credentialId : String
  operatorId : String
  chatId : String
  scopeMode : ScopeMode
  permissions : ScopeSet
  adminAccess : Option AdminAccess
  issuedAt : Time
  /-- `bypassed`: `true` stands for `true`, `false` for an absent field. -/
  bypassed : Bool
  trustTier : Option TrustTier
  operatorDisclosures : Option OperatorDisclosures
  provenanceMap : Option ProvenanceMap
  deriving DecidableEq

/-- The issue of a resource id field, if its value is not an id of the type. -/
def resourceIdIssues (type : ResourceType) (path : List String) (value : String) :
    List ZodIssue :=
  if isResourceId type value then [] else [⟨path, resourceIdMessage type⟩]

/-- `AdminAccessActor`: an operator id or the literal `owner`. -/
def adminAccessIssues : Option AdminAccess → List ZodIssue
  | none => []
  | some access =>
    if access.operatorId = "owner" then []
    else resourceIdIssues .operator ["adminAccess", "operatorId"] access.operatorId

/-- One turn of the provenance refinement: a record for a claim the payload does
not make. -/
def provenanceIssue (key : String) (hasRecord hasClaim : Bool) (requires : String) :
    List ZodIssue :=
  if hasRecord && !hasClaim then
    [⟨["provenanceMap", key], "Provenance for " ++ key ++ " requires a corresponding " ++ requires⟩]
  else []

/-- The `superRefine` of the payload schema: each of
`OPERATOR_DISCLOSURE_PROVENANCE_KEYS` in order, then `trustTier`. -/
def provenanceIssues (payload : SealPayloadType) : List ZodIssue :=
  match payload.provenanceMap with
  | none => []
  | some records =>
    let claims := payload.operatorDisclosures
    provenanceIssue "inferenceMode" records.inferenceMode.isSome
        (claims.bind (·.inferenceMode)).isSome "operator disclosure" ++
      provenanceIssue "inferenceProviders" records.inferenceProviders.isSome
        (claims.bind (·.inferenceProviders)).isSome "operator disclosure" ++
      provenanceIssue "contentEgressScope" records.contentEgressScope.isSome
        (claims.bind (·.contentEgressScope)).isSome "operator disclosure" ++
      provenanceIssue "retentionAtProvider" records.retentionAtProvider.isSome
        (claims.bind (·.retentionAtProvider)).isSome "operator disclosure" ++
      provenanceIssue "hostingMode" records.hostingMode.isSome
        (claims.bind (·.hostingMode)).isSome "operator disclosure" ++
      provenanceIssue "trustTier" records.trustTier.isSome
        payload.trustTier.isSome "trustTier value"

/-- The issues of the `SealPayload` schema, in the order zod reports them. The
enumerations and timestamps are well-typed by construction. -/
def sealPayloadIssues (payload : SealPayloadType) : List ZodIssue :=
  resourceIdIssues .seal ["sealId"] payload.sealId ++
    resourceIdIssues .credential ["credentialId"] payload.credentialId ++
    resourceIdIssues .operator ["operatorId"] payload.operatorId ++
    resourceIdIssues .conversation ["chatId"] payload.chatId ++
    adminAccessIssues payload.adminAccess ++
    provenanceIssues payload

/-- A parsed payload: the schema raised no issue on it. -/
structure SealPayload extends SealPayloadType where
  /-- The check of the schema passed. -/
  wellFormed : sealPayloadIssues toSealPayloadType = []
  deriving DecidableEq

def SealPayload.safeParse (raw : SealPayloadType) : Except (List ZodIssue) SealPayload :=
  if h : sealPayloadIssues raw = [] then .ok ⟨raw, h⟩ else .error (sealPayloadIssues raw)

/-- Parsing changes nothing. -/
theorem SealPayload.toSealPayloadType_of_safeParse {raw : SealPayloadType}
    {payload : SealPayload} (h : SealPayload.safeParse raw = .ok payload) :
    payload.toSealPayloadType = raw := by
  unfold SealPayload.safeParse at h
  split at h
  · cases h; rfl
  · cases h

theorem resourceIdIssues_eq_nil {type : ResourceType} {path : List String} {value : String} :
    resourceIdIssues type path value = [] ↔ isResourceId type value = true := by
  unfold resourceIdIssues
  split <;> simp_all

section WellFormed

variable (payload : SealPayload)

theorem SealPayload.credentialId_ok : isResourceId .credential payload.credentialId = true := by
  have h := payload.wellFormed
  simp only [sealPayloadIssues, List.append_eq_nil_iff, resourceIdIssues_eq_nil] at h
  exact h.1.1.1.1.2

theorem SealPayload.sealId_ok : isResourceId .seal payload.sealId = true := by
  have h := payload.wellFormed
  simp only [sealPayloadIssues, List.append_eq_nil_iff, resourceIdIssues_eq_nil] at h
  exact h.1.1.1.1.1

theorem SealPayload.sealId_ne_empty : payload.sealId ≠ "" :=
  ne_empty_of_isResourceId payload.sealId_ok

theorem SealPayload.operatorId_ok : isResourceId .operator payload.operatorId = true := by
  have h := payload.wellFormed
  simp only [sealPayloadIssues, List.append_eq_nil_iff, resourceIdIssues_eq_nil] at h
  exact h.1.1.1.2

theorem SealPayload.chatId_ok : isResourceId .conversation payload.chatId = true := by
  have h := payload.wellFormed
  simp only [sealPayloadIssues, List.append_eq_nil_iff, resourceIdIssues_eq_nil] at h
  exact h.1.1.2

theorem SealPayload.adminAccess_ok : adminAccessIssues payload.adminAccess = [] := by
  have h := payload.wellFormed
  simp only [sealPayloadIssues, List.append_eq_nil_iff] at h
  exact h.1.2

end WellFormed

/-! ### Chains and envelopes -/

/-- Where a changed scope stood or stands. -/
inductive ScopeStance where
  | allow
  | deny
  deriving DecidableEq

def ScopeStance.name : ScopeStance → String
  | .allow => "allow"
  | .deny => "deny"

/-- One entry of `changed` in a delta. -/
structure ScopeChange where
  scope : PermissionScope
  fromStance : ScopeStance
  toStance : ScopeStance
  deriving DecidableEq

/-- `SealDeltaType` (and `PolicyDelta`, which has the same fields). -/
structure SealDelta where
  added : List PermissionScope
  removed : List PermissionScope
  changed : List ScopeChange
  deriving DecidableEq

/-- `SealChainType`: a payload with the full payload it follows. -/
structure SealChain where
  current : SealPayload
  previous : Option SealPayload
  delta : SealDelta
  deriving DecidableEq

/-- What the stamper adds to a chain. -/
structure Signature where
  signature : String
  keyId : String
  deriving DecidableEq

/-- `SealEnvelopeType`: a signed chain. -/
structure SealEnvelope where
  chain : SealChain
  signed : Signature
  deriving DecidableEq

def SealEnvelope.sealId (envelope : SealEnvelope) : String :=
  envelope.chain.current.sealId

def SealEnvelope.previousId (envelope : SealEnvelope) : Option String :=
  envelope.chain.previous.map (·.sealId)

/-! ### Revocation seals -/

inductive AgentRevocationReason where
  | ownerInitiated
  | credentialExpired
  | adminRemoved
  | heartbeatTimeout
  | policyViolation
  deriving DecidableEq

structure RevocationSeal where
  sealId : String
  previousSealId : String
  operatorId : String
  credentialId : String
  chatId : String
  reason : AgentRevocationReason
  revokedAt : Time
  issuer : String
  deriving DecidableEq

/-- The issues of the `RevocationSeal` schema. -/
def revocationSealIssues (revocation : RevocationSeal) : List ZodIssue :=
  resourceIdIssues .seal ["sealId"] revocation.sealId ++
    resourceIdIssues .seal ["previousSealId"] revocation.previousSealId ++
    resourceIdIssues .operator ["operatorId"] revocation.operatorId ++
    resourceIdIssues .credential ["credentialId"] revocation.credentialId ++
    resourceIdIssues .conversation ["chatId"] revocation.chatId

end Signet
