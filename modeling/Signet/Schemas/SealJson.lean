import Signet.Schemas.Seal
import Signet.Schemas.ZodSchema

/-!
# Seals as JSON

What `JSON.stringify` writes for a seal envelope and what the zod schemas of `seal.ts`
read, from the enumerations up to `SealEnvelope`. Timestamps are texts there: a
`DatetimeFormat` says how an instant is written and which texts `datetime()` accepts.

Each schema reads back what is written for a value (`SealPayload.schema_toJson`,
`SealChain.schema_toJson`), given that its timestamps are among those the format accepts,
as the schema of the payload has checked when it was built.
-/

namespace Signet

open Lib Zod

/-! ### Enumerations -/

/-- `PERMISSION_SCOPE_VALUES`, in order. -/
def PermissionScope.values : List PermissionScope :=
  [.send, .reply, .react, .readReceipt, .attachment, .addMember, .removeMember, .promoteAdmin,
    .demoteAdmin, .updatePermission, .updateName, .updateDescription, .updateImage, .invite,
    .join, .leave, .createGroup, .createDm, .readMessages, .readHistory, .listMembers,
    .listConversations, .readPermissions, .streamMessages, .streamConversations,
    .forwardToProvider, .storeExcerpts, .useForMemory, .quoteRevealed, .summarize]

def ScopeMode.name : ScopeMode → String
  | .perChat => "per-chat"
  | .shared => "shared"

def TrustTier.name : TrustTier → String
  | .unverified => "unverified"
  | .sourceVerified => "source-verified"
  | .reproduciblyVerified => "reproducibly-verified"
  | .runtimeAttested => "runtime-attested"

def InferenceMode.name : InferenceMode → String
  | .localInference => "local"
  | .cloud => "cloud"
  | .hybrid => "hybrid"

def ContentEgressScope.name : ContentEgressScope → String
  | .none => "none"
  | .providerOnly => "provider-only"
  | .unrestricted => "unrestricted"

def HostingMode.name : HostingMode → String
  | .selfHosted => "self-hosted"
  | .cloud => "cloud"
  | .tee => "tee"

def ClaimProvenance.name : ClaimProvenance → String
  | .verified => "verified"
  | .observed => "observed"
  | .declared => "declared"

/-- `PermissionScope`. -/
def PermissionScope.schema : ZodSchema PermissionScope :=
  enumeration PermissionScope.values PermissionScope.name

/-- `ScopeMode`. -/
def ScopeMode.schema : ZodSchema ScopeMode := enumeration [.perChat, .shared] ScopeMode.name

/-- `TrustTier`. -/
def TrustTier.schema : ZodSchema TrustTier :=
  enumeration [.unverified, .sourceVerified, .reproduciblyVerified, .runtimeAttested]
    TrustTier.name

/-- `InferenceMode`. -/
def InferenceMode.schema : ZodSchema InferenceMode :=
  enumeration [.localInference, .cloud, .hybrid] InferenceMode.name

/-- `ContentEgressScope`. -/
def ContentEgressScope.schema : ZodSchema ContentEgressScope :=
  enumeration [.none, .providerOnly, .unrestricted] ContentEgressScope.name

/-- `HostingMode`. -/
def HostingMode.schema : ZodSchema HostingMode :=
  enumeration [.selfHosted, .cloud, .tee] HostingMode.name

/-- `ClaimProvenance`. -/
def ClaimProvenance.schema : ZodSchema ClaimProvenance :=
  enumeration [.verified, .observed, .declared] ClaimProvenance.name

def ScopeStance.schema : ZodSchema ScopeStance := enumeration [.allow, .deny] ScopeStance.name

section Enumerations

@[simp] theorem PermissionScope.schema_name (scope : PermissionScope) :
    PermissionScope.schema (.string scope.name) = .ok scope :=
  enumeration_string (by cases scope <;> decide)

/-- The names of scopes are different. -/
theorem PermissionScope.name_injective : Function.Injective PermissionScope.name := by
  intro scope scope' heq
  have hread := PermissionScope.schema_name scope
  rw [heq, PermissionScope.schema_name scope'] at hread
  exact (Except.ok.inj hread).symm

@[simp] theorem ScopeMode.schema_name (mode : ScopeMode) :
    ScopeMode.schema (.string mode.name) = .ok mode :=
  enumeration_string (by cases mode <;> decide)

@[simp] theorem TrustTier.schema_name (tier : TrustTier) :
    TrustTier.schema (.string tier.name) = .ok tier :=
  enumeration_string (by cases tier <;> decide)

@[simp] theorem InferenceMode.schema_name (mode : InferenceMode) :
    InferenceMode.schema (.string mode.name) = .ok mode :=
  enumeration_string (by cases mode <;> decide)

@[simp] theorem ContentEgressScope.schema_name (scope : ContentEgressScope) :
    ContentEgressScope.schema (.string scope.name) = .ok scope :=
  enumeration_string (by cases scope <;> decide)

@[simp] theorem HostingMode.schema_name (mode : HostingMode) :
    HostingMode.schema (.string mode.name) = .ok mode :=
  enumeration_string (by cases mode <;> decide)

@[simp] theorem ClaimProvenance.schema_name (source : ClaimProvenance) :
    ClaimProvenance.schema (.string source.name) = .ok source :=
  enumeration_string (by cases source <;> decide)

@[simp] theorem ScopeStance.schema_name (stance : ScopeStance) :
    ScopeStance.schema (.string stance.name) = .ok stance :=
  enumeration_string (by cases stance <;> decide)

end Enumerations

/-! ### Ids and timestamps -/

/-- `createResourceIdSchema`, as a schema. -/
def resourceIdSchema (type : ResourceType) : ZodSchema String
  | .string value =>
    if isResourceId type value then .ok value else .error (issue (resourceIdMessage type))
  | value => .error (issue (expected "string" value))

theorem resourceIdSchema_string {type : ResourceType} {value : String}
    (h : isResourceId type value = true) : resourceIdSchema type (.string value) = .ok value :=
  if_pos h

theorem resourceIdSchema_string_error {type : ResourceType} {value : String}
    (h : isResourceId type value = false) :
    resourceIdSchema type (.string value) = .error (issue (resourceIdMessage type)) := by
  simp [resourceIdSchema, h]

/-- `AdminAccessActor`: an operator id or the literal `owner`. -/
def adminAccessActorSchema : ZodSchema String
  | .string value =>
    if value = "owner" then .ok value
    -- the refinement of the first option is the issue that a union reports
    else resourceIdSchema .operator (.string value)
  | _ => .error (issue "Invalid input")

/-- How instants are written, and the texts that `z.string().datetime()` accepts with the
instants they denote. -/
structure DatetimeFormat where
  write : Time → String
  read? : String → Option Time

/-- The format accepts what it writes for the instants. -/
def DatetimeFormat.Accepts (format : DatetimeFormat) (times : List Time) : Prop :=
  ∀ time ∈ times, format.read? (format.write time) = some time

section

variable (format : DatetimeFormat)

/-- `z.string().datetime()`. -/
def datetimeSchema : ZodSchema Time
  | .string value =>
    match format.read? value with
    | some time => .ok time
    | none => .error (issue "Invalid datetime")
  | value => .error (issue (expected "string" value))

/-- A timestamp, as it is written. -/
def timeJson (time : Time) : JsonValue := .string (format.write time)

variable {format}

theorem datetimeSchema_timeJson {times : List Time} (h : format.Accepts times) {time : Time}
    (hmem : time ∈ times) : datetimeSchema format (timeJson format time) = .ok time := by
  simp only [datetimeSchema, timeJson, h time hmem]

end

/-! ### Scope sets, disclosures and provenance -/

def scopesJson (scopes : List PermissionScope) : JsonValue :=
  .array (scopes.map fun scope => .string scope.name)

def ScopeSet.toJson (scopeSet : ScopeSet) : JsonValue :=
  jsonObject [("allow", some (scopesJson scopeSet.allow)),
    ("deny", some (scopesJson scopeSet.deny))]

/-- `ScopeSet`. -/
def ScopeSet.schema : ZodSchema ScopeSet := fun value => do
  let fields ← object value
  let allow ← member fields "allow" (array PermissionScope.schema)
  let deny ← member fields "deny" (array PermissionScope.schema)
  .ok ⟨allow, deny⟩

def OperatorDisclosures.toJson (claims : OperatorDisclosures) : JsonValue :=
  jsonObject
    [("inferenceMode", claims.inferenceMode.map (.string ·.name)),
      ("inferenceProviders", claims.inferenceProviders.map (.array <| ·.map .string)),
      ("contentEgressScope", claims.contentEgressScope.map (.string ·.name)),
      ("retentionAtProvider", claims.retentionAtProvider.map .string),
      ("hostingMode", claims.hostingMode.map (.string ·.name))]

/-- `OperatorDisclosures`. -/
def OperatorDisclosures.schema : ZodSchema OperatorDisclosures := fun value => do
  let fields ← object value
  let inferenceMode ← optionalMember fields "inferenceMode" InferenceMode.schema
  let inferenceProviders ← optionalMember fields "inferenceProviders" (array text)
  let contentEgressScope ← optionalMember fields "contentEgressScope" ContentEgressScope.schema
  let retentionAtProvider ← optionalMember fields "retentionAtProvider" text
  let hostingMode ← optionalMember fields "hostingMode" HostingMode.schema
  .ok ⟨inferenceMode, inferenceProviders, contentEgressScope, retentionAtProvider, hostingMode⟩

@[simp] theorem schema_scopesJson (scopes : List PermissionScope) :
    array PermissionScope.schema (scopesJson scopes) = .ok scopes :=
  array_map fun scope _ => PermissionScope.schema_name scope

@[simp] theorem ScopeSet.schema_toJson (scopeSet : ScopeSet) :
    ScopeSet.schema scopeSet.toJson = .ok scopeSet := by
  unfold ScopeSet.schema ScopeSet.toJson jsonObject
  rw [object_object, ok_bind, member_jsonMembers (by simp) (schema_scopesJson scopeSet.allow),
    ok_bind, member_jsonMembers (by simp) (schema_scopesJson scopeSet.deny), ok_bind]

@[simp] theorem OperatorDisclosures.schema_toJson (claims : OperatorDisclosures) :
    OperatorDisclosures.schema claims.toJson = .ok claims := by
  unfold OperatorDisclosures.schema OperatorDisclosures.toJson jsonObject
  rw [object_object, ok_bind,
    optionalMember_jsonMembers claims.inferenceMode (.string ·.name) (by simp) (by simp),
    ok_bind,
    optionalMember_jsonMembers claims.inferenceProviders (.array <| ·.map .string) (by simp)
      (fun texts _ => array_map fun value _ => text_string value),
    ok_bind,
    optionalMember_jsonMembers claims.contentEgressScope (.string ·.name) (by simp) (by simp),
    ok_bind, optionalMember_jsonMembers claims.retentionAtProvider .string (by simp) (by simp),
    ok_bind, optionalMember_jsonMembers claims.hostingMode (.string ·.name) (by simp) (by simp),
    ok_bind]

section

variable (format : DatetimeFormat)

def ClaimProvenanceRecord.toJson (record : ClaimProvenanceRecord) : JsonValue :=
  jsonObject
    [("source", some (.string record.source.name)), ("attestedBy", record.attestedBy.map .string),
      ("attestedAt", record.attestedAt.map (timeJson format)),
      ("expiresAt", record.expiresAt.map (timeJson format))]

/-- `ClaimProvenanceRecord`. -/
def ClaimProvenanceRecord.schema : ZodSchema ClaimProvenanceRecord := fun value => do
  let fields ← object value
  let source ← member fields "source" ClaimProvenance.schema
  let attestedBy ← optionalMember fields "attestedBy" text
  let attestedAt ← optionalMember fields "attestedAt" (datetimeSchema format)
  let expiresAt ← optionalMember fields "expiresAt" (datetimeSchema format)
  .ok ⟨source, attestedBy, attestedAt, expiresAt⟩

def ClaimProvenanceRecord.timestamps (record : ClaimProvenanceRecord) : List Time :=
  record.attestedAt.toList ++ record.expiresAt.toList

/-- The records of a map by their keys, in the order of `SUPPORTED_PROVENANCE_KEYS`. -/
def ProvenanceMap.members (records : ProvenanceMap) :
    List (String × Option ClaimProvenanceRecord) :=
  [("inferenceMode", records.inferenceMode), ("inferenceProviders", records.inferenceProviders),
    ("contentEgressScope", records.contentEgressScope),
    ("retentionAtProvider", records.retentionAtProvider), ("hostingMode", records.hostingMode),
    ("trustTier", records.trustTier)]

def supportedProvenanceKeys : List String :=
  ["inferenceMode", "inferenceProviders", "contentEgressScope", "retentionAtProvider",
    "hostingMode", "trustTier"]

/-- The members of a record `z.record(z.string(), ...)`. -/
def recordMembers {α : Type} (schema : ZodSchema α) :
    JsonObject → Except ZodIssue (List (String × α))
  | [] => .ok []
  | (key, value) :: fields => do
    let parsed ← (schema value).mapError (·.under key)
    let rest ← recordMembers schema fields
    .ok ((key, parsed) :: rest)

def ProvenanceMap.toJson (records : ProvenanceMap) : JsonValue :=
  jsonObject (records.members.map fun member =>
    (member.1, member.2.map (ClaimProvenanceRecord.toJson format)))

/-- `ProvenanceMap`. -/
def ProvenanceMap.schema : ZodSchema ProvenanceMap := fun value => do
  let fields ← object value
  let records ← recordMembers (ClaimProvenanceRecord.schema format) fields
  match records.find? (·.1 ∉ supportedProvenanceKeys) with
  | some (key, _) => .error ⟨[key], "Unsupported provenance key: " ++ key⟩
  | none =>
    .ok ⟨memberValue records "inferenceMode", memberValue records "inferenceProviders",
      memberValue records "contentEgressScope", memberValue records "retentionAtProvider",
      memberValue records "hostingMode", memberValue records "trustTier"⟩

def ProvenanceMap.timestamps (records : ProvenanceMap) : List Time :=
  (jsonMembers records.members).flatMap (·.2.timestamps)

variable {format}

theorem ClaimProvenanceRecord.schema_toJson {record : ClaimProvenanceRecord}
    (h : format.Accepts record.timestamps) :
    ClaimProvenanceRecord.schema format (record.toJson format) = .ok record := by
  have hattested : ∀ time ∈ record.attestedAt,
      datetimeSchema format (timeJson format time) = .ok time := fun time htime =>
    datetimeSchema_timeJson h (List.mem_append_left _ (Option.mem_toList.2 htime))
  have hexpires : ∀ time ∈ record.expiresAt,
      datetimeSchema format (timeJson format time) = .ok time := fun time htime =>
    datetimeSchema_timeJson h (List.mem_append_right _ (Option.mem_toList.2 htime))
  unfold ClaimProvenanceRecord.schema ClaimProvenanceRecord.toJson jsonObject
  rw [object_object, ok_bind,
    member_jsonMembers (by simp) (ClaimProvenance.schema_name record.source), ok_bind,
    optionalMember_jsonMembers record.attestedBy .string (by simp) (by simp), ok_bind,
    optionalMember_jsonMembers record.attestedAt (timeJson format) (by simp) hattested, ok_bind,
    optionalMember_jsonMembers record.expiresAt (timeJson format) (by simp) hexpires, ok_bind]

/-- The members of a written record are read back. -/
theorem recordMembers_jsonMembers {α : Type} {schema : ZodSchema α} {write : α → JsonValue}
    {members : List (String × Option α)}
    (h : ∀ member ∈ jsonMembers members, schema (write member.2) = .ok member.2) :
    recordMembers schema (jsonMembers (members.map fun member => (member.1, member.2.map write))) =
      .ok (jsonMembers members) := by
  induction members with
  | nil => rfl
  | cons member members ih =>
    obtain ⟨key, value⟩ := member
    cases value with
    -- a missing value is no member of the object
    | none => exact ih h
    | some value =>
      have hhead : schema (write value) = .ok value := h (key, value) List.mem_cons_self
      have htail := ih fun other hother => h other (List.mem_cons_of_mem _ hother)
      rw [List.map_cons, Option.map_some, jsonMembers_cons_some, jsonMembers_cons_some,
        recordMembers, hhead, mapError_ok, ok_bind, htail, ok_bind]

theorem ProvenanceMap.schema_toJson {records : ProvenanceMap}
    (h : format.Accepts records.timestamps) :
    ProvenanceMap.schema format (records.toJson format) = .ok records := by
  have hread : ∀ member ∈ jsonMembers records.members,
      ClaimProvenanceRecord.schema format (member.2.toJson format) = .ok member.2 := by
    intro member hmember
    exact ClaimProvenanceRecord.schema_toJson fun time htime =>
      h time (List.mem_flatMap.2 ⟨member, hmember, htime⟩)
  -- only supported keys are written, so the schema misses none
  have hsupported : (jsonMembers records.members).find? (·.1 ∉ supportedProvenanceKeys) = none := by
    rw [List.find?_eq_none]
    intro member hmember
    have hkey : member.1 ∈ supportedProvenanceKeys := name_mem_of_mem_jsonMembers hmember
    simpa using hkey
  unfold ProvenanceMap.schema ProvenanceMap.toJson jsonObject
  rw [object_object, ok_bind, recordMembers_jsonMembers hread, ok_bind]
  simp only [hsupported]
  simp [ProvenanceMap.members]

end

/-! ### Payloads -/

section

variable (format : DatetimeFormat)

def AdminAccess.toJson (access : AdminAccess) : JsonValue :=
  jsonObject [("operatorId", some (.string access.operatorId)),
    ("expiresAt", some (timeJson format access.expiresAt))]

def AdminAccess.schema : ZodSchema AdminAccess := fun value => do
  let fields ← object value
  let operatorId ← member fields "operatorId" adminAccessActorSchema
  let expiresAt ← member fields "expiresAt" (datetimeSchema format)
  .ok ⟨operatorId, expiresAt⟩

/-- `bypassed`, as the member it is. -/
def SealPayloadType.bypassed? (payload : SealPayloadType) : Option Bool :=
  if payload.bypassed then some true else none

def SealPayloadType.toJson (payload : SealPayloadType) : JsonValue :=
  jsonObject
    [("sealId", some (.string payload.sealId)),
      ("credentialId", some (.string payload.credentialId)),
      ("operatorId", some (.string payload.operatorId)),
      ("chatId", some (.string payload.chatId)),
      ("scopeMode", some (.string payload.scopeMode.name)),
      ("permissions", some payload.permissions.toJson),
      ("adminAccess", payload.adminAccess.map (AdminAccess.toJson format)),
      ("issuedAt", some (timeJson format payload.issuedAt)),
      ("bypassed", payload.bypassed?.map .bool),
      ("trustTier", payload.trustTier.map (.string ·.name)),
      ("operatorDisclosures", payload.operatorDisclosures.map OperatorDisclosures.toJson),
      ("provenanceMap", payload.provenanceMap.map (ProvenanceMap.toJson format))]

/-- `SealPayload`: the members, then the refinement over all of them. -/
def SealPayload.schema : ZodSchema SealPayload := fun value => do
  let fields ← object value
  let sealId ← member fields "sealId" (resourceIdSchema .seal)
  let credentialId ← member fields "credentialId" (resourceIdSchema .credential)
  let operatorId ← member fields "operatorId" (resourceIdSchema .operator)
  let chatId ← member fields "chatId" (resourceIdSchema .conversation)
  let scopeMode ← member fields "scopeMode" ScopeMode.schema
  let permissions ← member fields "permissions" ScopeSet.schema
  let adminAccess ← optionalMember fields "adminAccess" (AdminAccess.schema format)
  let issuedAt ← member fields "issuedAt" (datetimeSchema format)
  let bypassed ← optionalMember fields "bypassed" literalTrue
  let trustTier ← optionalMember fields "trustTier" TrustTier.schema
  let operatorDisclosures ←
    optionalMember fields "operatorDisclosures" OperatorDisclosures.schema
  let provenanceMap ← optionalMember fields "provenanceMap" (ProvenanceMap.schema format)
  -- the ids have passed, so the issues that are left are those of `superRefine`
  (SealPayload.safeParse
    { sealId, credentialId, operatorId, chatId, scopeMode, permissions, adminAccess, issuedAt,
      bypassed := bypassed.isSome, trustTier, operatorDisclosures, provenanceMap }).mapError
    (·.headD (issue "Invalid input"))

def SealPayloadType.timestamps (payload : SealPayloadType) : List Time :=
  payload.issuedAt :: ((payload.adminAccess.map (·.expiresAt)).toList ++
    payload.provenanceMap.toList.flatMap (·.timestamps))

variable {format}

theorem AdminAccess.schema_toJson {access : AdminAccess}
    (hactor : adminAccessIssues (some access) = []) {times : List Time}
    (h : format.Accepts times) (hmem : access.expiresAt ∈ times) :
    AdminAccess.schema format (access.toJson format) = .ok access := by
  have hread : adminAccessActorSchema (.string access.operatorId) = .ok access.operatorId := by
    -- the owner, or an operator by a valid id
    by_cases howner : access.operatorId = "owner"
    · exact if_pos howner
    · have hoperator : isResourceId .operator access.operatorId = true := by
        rw [adminAccessIssues, if_neg howner] at hactor
        exact resourceIdIssues_eq_nil.1 hactor
      exact (if_neg howner).trans (resourceIdSchema_string hoperator)
  unfold AdminAccess.schema AdminAccess.toJson jsonObject
  rw [object_object, ok_bind, member_jsonMembers (by simp) hread, ok_bind,
    member_jsonMembers (by simp) (datetimeSchema_timeJson h hmem), ok_bind]

theorem SealPayload.safeParse_toSealPayloadType (payload : SealPayload) :
    SealPayload.safeParse payload.toSealPayloadType = .ok payload :=
  dif_pos payload.wellFormed

/-- **The payload schema reads back what is written for a payload.** -/
theorem SealPayload.schema_toJson {payload : SealPayload}
    (h : format.Accepts payload.timestamps) :
    SealPayload.schema format (payload.toJson format) = .ok payload := by
  have hissued := datetimeSchema_timeJson h List.mem_cons_self
  have hadmin : ∀ access ∈ payload.adminAccess,
      AdminAccess.schema format (access.toJson format) = .ok access := by
    intro access haccess
    have haccess : payload.adminAccess = some access := haccess
    refine AdminAccess.schema_toJson ?_ h ?_
    · rw [← haccess]
      exact payload.adminAccess_ok
    · simp [SealPayloadType.timestamps, haccess]
  have hprovenance : ∀ records ∈ payload.provenanceMap,
      ProvenanceMap.schema format (records.toJson format) = .ok records := by
    intro records hrecords
    have hrecords : payload.provenanceMap = some records := hrecords
    refine ProvenanceMap.schema_toJson fun time htime => h time ?_
    simp [SealPayloadType.timestamps, hrecords, htime]
  have hbypassed : ∀ value ∈ payload.bypassed?, literalTrue (.bool value) = .ok value := by
    intro value hvalue
    obtain ⟨-, rfl⟩ : payload.bypassed = true ∧ true = value := by
      simpa [SealPayloadType.bypassed?] using hvalue
    rfl
  have hisSome : payload.bypassed?.isSome = payload.bypassed := by
    unfold SealPayloadType.bypassed?
    split <;> simp_all
  unfold SealPayload.schema SealPayloadType.toJson jsonObject
  rw [object_object, ok_bind,
    member_jsonMembers (by simp) (resourceIdSchema_string payload.sealId_ok), ok_bind,
    member_jsonMembers (by simp) (resourceIdSchema_string payload.credentialId_ok), ok_bind,
    member_jsonMembers (by simp) (resourceIdSchema_string payload.operatorId_ok), ok_bind,
    member_jsonMembers (by simp) (resourceIdSchema_string payload.chatId_ok), ok_bind,
    member_jsonMembers (by simp) (ScopeMode.schema_name payload.scopeMode), ok_bind,
    member_jsonMembers (by simp) (ScopeSet.schema_toJson payload.permissions), ok_bind,
    optionalMember_jsonMembers payload.adminAccess (AdminAccess.toJson format) (by simp) hadmin,
    ok_bind, member_jsonMembers (by simp) hissued, ok_bind,
    optionalMember_jsonMembers payload.bypassed? .bool (by simp) hbypassed, ok_bind,
    optionalMember_jsonMembers payload.trustTier (.string ·.name) (by simp) (by simp), ok_bind,
    optionalMember_jsonMembers payload.operatorDisclosures OperatorDisclosures.toJson (by simp)
      (by simp), ok_bind,
    optionalMember_jsonMembers payload.provenanceMap (ProvenanceMap.toJson format) (by simp)
      hprovenance, ok_bind, hisSome]
  show (SealPayload.safeParse payload.toSealPayloadType).mapError _ = _
  rw [safeParse_toSealPayloadType]
  rfl

end

/-! ### Deltas, chains and envelopes -/

def ScopeChange.toJson (change : ScopeChange) : JsonValue :=
  jsonObject [("scope", some (.string change.scope.name)),
    ("from", some (.string change.fromStance.name)), ("to", some (.string change.toStance.name))]

/-- The schema of an entry of `changed`. -/
def ScopeChange.schema : ZodSchema ScopeChange := fun value => do
  let fields ← object value
  let scope ← member fields "scope" PermissionScope.schema
  let fromStance ← member fields "from" ScopeStance.schema
  let toStance ← member fields "to" ScopeStance.schema
  .ok ⟨scope, fromStance, toStance⟩

def SealDelta.toJson (delta : SealDelta) : JsonValue :=
  jsonObject [("added", some (scopesJson delta.added)),
    ("removed", some (scopesJson delta.removed)),
    ("changed", some (.array (delta.changed.map ScopeChange.toJson)))]

/-- `SealDelta`. -/
def SealDelta.schema : ZodSchema SealDelta := fun value => do
  let fields ← object value
  let added ← member fields "added" (array PermissionScope.schema)
  let removed ← member fields "removed" (array PermissionScope.schema)
  let changed ← member fields "changed" (array ScopeChange.schema)
  .ok ⟨added, removed, changed⟩

theorem ScopeChange.schema_toJson (change : ScopeChange) :
    ScopeChange.schema change.toJson = .ok change := by
  unfold ScopeChange.schema ScopeChange.toJson jsonObject
  rw [object_object, ok_bind,
    member_jsonMembers (by simp) (PermissionScope.schema_name change.scope), ok_bind,
    member_jsonMembers (by simp) (ScopeStance.schema_name change.fromStance), ok_bind,
    member_jsonMembers (by simp) (ScopeStance.schema_name change.toStance), ok_bind]

theorem SealDelta.schema_toJson (delta : SealDelta) :
    SealDelta.schema delta.toJson = .ok delta := by
  have hchanged : array ScopeChange.schema (.array (delta.changed.map ScopeChange.toJson)) =
      .ok delta.changed := array_map fun change _ => change.schema_toJson
  unfold SealDelta.schema SealDelta.toJson jsonObject
  rw [object_object, ok_bind, member_jsonMembers (by simp) (schema_scopesJson delta.added),
    ok_bind, member_jsonMembers (by simp) (schema_scopesJson delta.removed), ok_bind,
    member_jsonMembers (by simp) hchanged, ok_bind]

section

variable (format : DatetimeFormat)

def SealChain.toJson (chain : SealChain) : JsonValue :=
  jsonObject [("current", some (chain.current.toJson format)),
    ("previous", chain.previous.map (·.toJson format)), ("delta", some chain.delta.toJson)]

/-- `SealChain`. -/
def SealChain.schema : ZodSchema SealChain := fun value => do
  let fields ← object value
  let current ← member fields "current" (SealPayload.schema format)
  let previous ← optionalMember fields "previous" (SealPayload.schema format)
  let delta ← member fields "delta" SealDelta.schema
  .ok ⟨current, previous, delta⟩

def SealChain.timestamps (chain : SealChain) : List Time :=
  chain.current.timestamps ++ chain.previous.toList.flatMap (·.timestamps)

/-- `algorithm` of every envelope. -/
def sealAlgorithm : String := "Ed25519"

def SealEnvelope.members (envelope : SealEnvelope) : List (String × Option JsonValue) :=
  [("chain", some (envelope.chain.toJson format)),
    ("signature", some (.string envelope.signed.signature)),
    ("keyId", some (.string envelope.signed.keyId)), ("algorithm", some (.string sealAlgorithm))]

/-- `SealEnvelope`. -/
def SealEnvelope.schema : ZodSchema SealEnvelope := fun value => do
  let fields ← object value
  let chain ← member fields "chain" (SealChain.schema format)
  let signature ← member fields "signature" text
  let keyId ← member fields "keyId" (resourceIdSchema .key)
  let _ ← member fields "algorithm" (literal sealAlgorithm)
  .ok ⟨chain, ⟨signature, keyId⟩⟩

variable {format}

/-- **The chain schema reads back what is written for a chain.** -/
theorem SealChain.schema_toJson {chain : SealChain} (h : format.Accepts chain.timestamps) :
    SealChain.schema format (chain.toJson format) = .ok chain := by
  have hcurrent : SealPayload.schema format (chain.current.toJson format) = .ok chain.current :=
    SealPayload.schema_toJson fun time htime => h time (List.mem_append_left _ htime)
  have hprevious : ∀ previous ∈ chain.previous,
      SealPayload.schema format (previous.toJson format) = .ok previous := by
    intro previous hprevious
    refine SealPayload.schema_toJson fun time htime => h time (List.mem_append_right _ ?_)
    exact List.mem_flatMap.2 ⟨previous, Option.mem_toList.2 hprevious, htime⟩
  unfold SealChain.schema SealChain.toJson jsonObject
  rw [object_object, ok_bind, member_jsonMembers (by simp) hcurrent, ok_bind,
    optionalMember_jsonMembers chain.previous (·.toJson format) (by simp) hprevious, ok_bind,
    member_jsonMembers (by simp) chain.delta.schema_toJson, ok_bind]

end

end Signet
