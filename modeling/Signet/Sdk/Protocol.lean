import Signet.Cli.WsRequestHandler
import Signet.Sdk.Requests

/-!
# The protocol between the SDK and the signet

`handleSendMessage` of the request handler from its guard to its result, `routeRequest`, which makes
a response of the result, and the two ends against each other. Here its awaits are answered at once;
`gateStep` is the handler cut at its awaits.

* `parse_sendMessage`, `parse_sendReaction`: a reaction is read back, and a message whose content
  type is one; the union has no request of the other two methods.
* `outcome_ok`: a response to a message that was sent lacks two of the three fields that
  `sendMessage` wants.
* `outcome_error`: an error keeps its category if it is one of five.
* `agrees_iff`: what follows for a call.
-/

namespace Signet

/-! ### The fields of errors -/

namespace SignetError

def code : SignetError → Nat
  | validationError .. | schemaError .. => 1000
  | sealError .. => 1010
  | notFoundError .. => 1100
  | permissionError .. => 1200
  | authError .. => 1300
  | credentialExpiredError _ => 1310
  | internalError _ => 1400
  | timeoutError .. => 1500
  | cancelledError _ => 1600
  | networkError .. => 1700

/-- `message`; `zodMessage` is how zod puts issues into the message of its error. -/
def message (zodMessage : List ZodIssue → String) : SignetError → String
  | validationError field reason => "Validation failed on '" ++ field ++ "': " ++ reason
  | schemaError field issues => "Validation failed on '" ++ field ++ "': " ++ zodMessage issues
  | sealError sealId reason => "Seal '" ++ sealId ++ "': " ++ reason
  | notFoundError resourceType resourceId =>
    resourceType ++ " '" ++ resourceId ++ "' not found"
  | permissionError message _ | authError message _ | internalError message |
    cancelledError message => message
  | credentialExpiredError credentialId => "Credential '" ++ credentialId ++ "' has expired"
  | timeoutError operation timeoutMs =>
    "Operation '" ++ operation ++ "' timed out after " ++ toString timeoutMs ++ "ms"
  | networkError endpoint reason =>
    "Network error reaching '" ++ endpoint ++ "': " ++ reason

/-- An object with texts, and null without. -/
def textContext : List (String × String) → JsonValue
  | [] => .null
  | entries => .object (entries.map fun entry => (entry.1, .string entry.2))

def context (zodMessage : List ZodIssue → String) : SignetError → JsonValue
  | validationError field reason => textContext [("field", field), ("reason", reason)]
  | schemaError field issues => textContext [("field", field), ("reason", zodMessage issues)]
  | sealError sealId reason => textContext [("sealId", sealId), ("reason", reason)]
  | notFoundError resourceType resourceId =>
    textContext [("resourceType", resourceType), ("resourceId", resourceId)]
  | permissionError _ entries | authError _ entries => textContext entries
  | credentialExpiredError credentialId => textContext [("credentialId", credentialId)]
  | internalError _ | cancelledError _ => .null
  | timeoutError operation timeoutMs =>
    .object [("operation", .string operation), ("timeoutMs", .number timeoutMs)]
  | networkError endpoint _ => textContext [("endpoint", endpoint)]

end SignetError

def ErrorCategory.name : ErrorCategory → String
  | .validation => "validation"
  | .notFound => "not_found"
  | .permission => "permission"
  | .auth => "auth"
  | .internal => "internal"
  | .timeout => "timeout"
  | .cancelled => "cancelled"
  | .network => "network"

end Signet

namespace Signet.Sdk

open Lib

/-! ### The request handler -/

/-- What the dependencies of the handler answer while it handles one `send_message`. -/
structure SendDeps where
  /-- Absent without an internal credential manager, or where the check throws. -/
  isHeartbeatStale : Option (Result Bool)
  ensureCoreReady : Result Unit
  /-- The second lookup. -/
  lookup : Result CredentialRecord
  sendMessage : (groupId contentType : String) → (content : Option JsonValue) → Result String
  /-- Absent unless there are a seal manager and a message binding. -/
  currentSeal : Option (Result (Option SealEnvelope))
  createMessageBinding : (messageId sealId : String) → Result (String × String)

/-- `MessageProvenanceMetadata`. -/
structure Provenance where
  credentialId : String
  operatorId : String
  sealRef : String
  sealSignature : String
  deriving DecidableEq

/-- What `handleSendMessage` returns on success. -/
structure SendMessageReply where
  messageId : String
  provenance : Option Provenance
  deriving DecidableEq

namespace SendDeps

variable (deps : SendDeps)

/-- The guard in front of the handler. -/
def guardHeartbeat : Result Unit :=
  match deps.isHeartbeatStale with
  | some (.ok true) =>
    .error (.authError
      "Credential heartbeat is stale -- send a heartbeat before making requests" [])
  | _ => .ok ()

/-- The provenance of a message that has been sent. -/
def provenance (messageId : String) : Result (Option Provenance) :=
  match deps.currentSeal with
  | some (.ok (some envelope)) => do
    let current := envelope.chain.current
    let (sealRef, sealSignature) ← deps.createMessageBinding messageId current.sealId
    .ok (some ⟨current.credentialId, current.operatorId, sealRef, sealSignature⟩)
  | _ => .ok none

/-- A `send_message` request in the handler, with the credential that the server has looked up. -/
def handleSendMessage (credential : CredentialRecord) (groupId contentType : String)
    (content : Option JsonValue) : Result SendMessageReply := do
  deps.guardHeartbeat
  let _ ← validateSendAs credential groupId
  deps.ensureCoreReady
  recheckActive deps.lookup
  let messageId ← deps.sendMessage groupId contentType content
  let provenance ← deps.provenance messageId
  .ok ⟨messageId, provenance⟩

end SendDeps

/-! ### Responses of the server -/

/-- `data` of the response. -/
def SendMessageReply.toJson (reply : SendMessageReply) : JsonValue :=
  .object [("messageId", .string reply.messageId), ("provenance", match reply.provenance with
    | none => .null
    | some provenance => .object [("credentialId", .string provenance.credentialId),
        ("operatorId", .string provenance.operatorId), ("sealRef", .string provenance.sealRef),
        ("sealSignature", .string provenance.sealSignature)])]

def routeRequest (zodMessage : List ZodIssue → String) (requestId : String) :
    Result SendMessageReply → JsonValue
  | .ok reply =>
    .object [("ok", .bool true), ("requestId", .string requestId), ("data", reply.toJson)]
  | .error e =>
    .object [("ok", .bool false), ("requestId", .string requestId),
      ("error", .object [("code", .number e.code), ("category", .string e.category.name),
        ("message", .string (e.message zodMessage)), ("context", e.context zodMessage)])]

/-! ### The two ends -/

/-- What `sendMessage` resolves with when the handler returns `result` in time: the response is for
the request that waits. -/
def sendMessageOutcome (zodMessage : List ZodIssue → String) (requestId : String)
    (result : Result SendMessageReply) : Option (Except ResponseError MessageSent) :=
  match responseOf (routeRequest zodMessage requestId result) with
  | some (id, response) => if id = requestId then some (sendMessageResult response) else none
  | none => none

/-- The message id that the handler returned, or an error of the category of its error. -/
def SameOutcome : Result SendMessageReply → Except ResponseError MessageSent → Prop
  | .ok reply, .ok sent => sent.messageId = reply.messageId
  | .error e, .error error => error.category = e.category
  | _, _ => False

/-- The request that a call stands for, if there is one in the union. -/
def Call.meaning (call : Call) (requestId : String) : Option HarnessRequest :=
  match call with
  | sendMessage groupId content =>
    some (.sendMessage requestId groupId content.contentType content.payload)
  | sendReaction groupId messageId reaction =>
    some (.sendReaction requestId groupId messageId .added reaction)
  | listConversations | getConversationInfo _ => none

/-- The frame of the call is read as the request it stands for, and `sendMessage` resolves with what
the handler has returned. -/
structure Agrees (format : DatetimeFormat) (zodMessage : List ZodIssue → String) (deps : SendDeps)
    (credential : CredentialRecord) (call : Call) (requestId : String) : Prop where
  parses : ∃ request, call.meaning requestId = some request ∧
    HarnessRequest.schema format (call.frame requestId) = .ok request
  answers : ∀ groupId content, call = .sendMessage groupId content → ∃ outcome,
    sendMessageOutcome zodMessage requestId
      (deps.handleSendMessage credential groupId content.contentType content.payload) =
        some outcome ∧
    SameOutcome (deps.handleSendMessage credential groupId content.contentType content.payload)
      outcome

/-! ### The condition -/

/-- The categories that `handleFrame` has an error of its own for, and the one it takes for all
others. -/
def reportedCategories : List ErrorCategory :=
  [.auth, .validation, .notFound, .permission, .internal]

/-- The error, if it is one. -/
def errorOf {α : Type} : Result α → Option SignetError
  | .error e => some e
  | .ok _ => none

/-- The first check or answer in front of a `send_message` that fails. -/
def SendDeps.failure (deps : SendDeps) (credential : CredentialRecord)
    (groupId contentType : String) (content : Option JsonValue) : Option SignetError :=
  errorOf deps.guardHeartbeat <|> errorOf (validateSendAs credential groupId) <|>
    errorOf deps.ensureCoreReady <|> errorOf (recheckActive deps.lookup) <|>
      match deps.sendMessage groupId contentType content with
      | .error e => some e
      | .ok messageId => errorOf (deps.provenance messageId)

/-- The condition of a call: a reaction, or a message with a content type id that is not sent
because of an error of a category that is reported. -/
def Call.Meets (deps : SendDeps) (credential : CredentialRecord) : Call → Prop
  | sendMessage groupId content => isContentTypeId content.contentType = true ∧
      ∃ e, deps.failure credential groupId content.contentType content.payload = some e ∧
        e.category ∈ reportedCategories
  | sendReaction .. => True
  | listConversations | getConversationInfo _ => False

/-! ### Frames -/

section Frames

variable (format : DatetimeFormat) (requestId : String)

/-- A message is read back if its content type is one. -/
theorem parse_sendMessage (groupId : String) (content : MessageContent) :
    HarnessRequest.schema format ((Call.sendMessage groupId content).frame requestId) =
      if isContentTypeId content.contentType = true then
        .ok (.sendMessage requestId groupId content.contentType content.payload)
      else .error ⟨["contentType"], "Invalid"⟩ := by
  let fields := jsonMembers ((Call.sendMessage groupId content).request ++
    [("requestId", some (.string requestId))])
  have hid : Zod.member fields "requestId" Zod.text = .ok requestId :=
    Zod.member_jsonMembers (by simp [Call.request]) (Zod.text_string requestId)
  have hgroup : Zod.member fields "groupId" Zod.text = .ok groupId :=
    Zod.member_jsonMembers (by simp [Call.request]) (Zod.text_string groupId)
  have hcontent : JsonObject.get? fields "content" = content.payload := by
    rw [get?_jsonMembers]
    simp [Call.request]
  show HarnessRequest.sendMessageSchema fields = _
  unfold HarnessRequest.sendMessageSchema
  rw [hid, ok_bind, hgroup, ok_bind]
  have hvalue : memberValue fields "contentType" = some (.string content.contentType) := by
    show memberValue (jsonMembers _) _ = _
    simp [Call.request]
  -- the only member that the client does not check is the content type
  by_cases htype : isContentTypeId content.contentType = true
  · have hmember : Zod.member fields "contentType" contentTypeIdSchema =
        .ok content.contentType :=
      Zod.member_jsonMembers hvalue (if_pos htype)
    rw [hmember, ok_bind, hcontent, if_pos htype]
  · have hrefused : contentTypeIdSchema (.string content.contentType) =
        .error (Zod.issue "Invalid") := if_neg htype
    have hmember : Zod.member fields "contentType" contentTypeIdSchema =
        .error ⟨["contentType"], "Invalid"⟩ :=
      Zod.member_jsonMembers_error hvalue hrefused
    rw [hmember, error_bind, if_neg htype]

theorem parse_sendReaction (groupId messageId reaction : String) :
    HarnessRequest.schema format ((Call.sendReaction groupId messageId reaction).frame requestId) =
      .ok (.sendReaction requestId groupId messageId .added reaction) := by
  rfl

/-- The union has no request of the other two methods. -/
theorem parse_listConversations :
    HarnessRequest.schema format (Call.listConversations.frame requestId) =
      .error HarnessRequest.discriminatorIssue := by
  rfl

theorem parse_getConversationInfo (groupId : String) :
    HarnessRequest.schema format ((Call.getConversationInfo groupId).frame requestId) =
      .error HarnessRequest.discriminatorIssue := by
  rfl

end Frames

/-! ### Responses -/

section Responses

variable (zodMessage : List ZodIssue → String) (requestId : String)

theorem responseOf_ok (reply : SendMessageReply) :
    responseOf (routeRequest zodMessage requestId (.ok reply)) =
      some (requestId, .ok (some reply.toJson)) := by
  rfl

theorem sendMessageResult_ok (reply : SendMessageReply) :
    sendMessageResult (.ok (some reply.toJson)) = .error (.validation "response"
      (.string "Missing required fields: messageId, groupId, sentAt")) := by
  rfl

theorem responseOf_error (e : SignetError) :
    responseOf (routeRequest zodMessage requestId (.error e)) =
      some (requestId, .error (responseError (some (.object [("code", .number e.code),
        ("category", .string e.category.name), ("message", .string (e.message zodMessage)),
        ("context", e.context zodMessage)])))) := by
  rfl

theorem category_responseError (code message context : JsonValue) (category : ErrorCategory) :
    (responseError (some (.object [("code", code), ("category", .string category.name),
      ("message", message), ("context", context)]))).category = category ↔
        category ∈ reportedCategories := by
  have hcategory : property? (some (.object [("code", code), ("category", .string category.name),
      ("message", message), ("context", context)])) "category" = some (.string category.name) := rfl
  unfold responseError
  dsimp only
  rw [hcategory]
  dsimp only
  cases category <;> simp [ErrorCategory.name, ResponseError.category, reportedCategories]

/-- A handler that succeeds is never answered as it should be. -/
theorem outcome_ok (reply : SendMessageReply) :
    sendMessageOutcome zodMessage requestId (.ok reply) = some (.error (.validation "response"
      (.string "Missing required fields: messageId, groupId, sentAt"))) := by
  unfold sendMessageOutcome
  rw [responseOf_ok]
  dsimp only
  rw [if_pos rfl, sendMessageResult_ok]

/-- An error keeps its category if it is one that is reported. -/
theorem outcome_error (e : SignetError) : ∃ error,
    sendMessageOutcome zodMessage requestId (.error e) = some (.error error) ∧
      (error.category = e.category ↔ e.category ∈ reportedCategories) := by
  refine ⟨_, ?_, category_responseError (.number e.code) (.string (e.message zodMessage))
    (e.context zodMessage) e.category⟩
  unfold sendMessageOutcome
  rw [responseOf_error]
  dsimp only
  rw [if_pos rfl]
  rfl

end Responses

/-! ### The handler and the condition -/

section Condition

variable {deps : SendDeps} {credential : CredentialRecord} {groupId contentType : String}
  {content : Option JsonValue}

theorem errorOf_eq_some {α : Type} {result : Result α} {e : SignetError} :
    errorOf result = some e ↔ result = .error e := by
  cases result with
  | error e' => rw [errorOf, Option.some.injEq, Except.error.injEq]
  | ok a =>
    constructor
    · intro h
      cases h
    · intro h
      cases h

/-- **The handler returns the first failure**, if there is one. -/
theorem errorOf_handleSendMessage :
    errorOf (deps.handleSendMessage credential groupId contentType content) =
      deps.failure credential groupId contentType content := by
  unfold SendDeps.handleSendMessage SendDeps.failure
  -- the steps in the order of the handler, each of which ends it with its error
  cases deps.guardHeartbeat with
  | error e => rfl
  | ok _ =>
    cases validateSendAs credential groupId with
    | error e => rfl
    | ok _ =>
      cases deps.ensureCoreReady with
      | error e => rfl
      | ok _ =>
        cases recheckActive deps.lookup with
        | error e => rfl
        | ok _ =>
          cases deps.sendMessage groupId contentType content with
          | error e => rfl
          | ok messageId =>
            cases hprovenance : deps.provenance messageId with
            | error e =>
              show errorOf (deps.provenance messageId >>= _) = errorOf (deps.provenance messageId)
              rw [hprovenance]
              rfl
            | ok provenance =>
              show errorOf (deps.provenance messageId >>= _) = errorOf (deps.provenance messageId)
              rw [hprovenance]
              rfl

end Condition

/-! ### The result -/

/-- **The SDK and the signet agree** on a call exactly if it is a reaction, or a message with a
content type id that a reported error keeps from being sent. -/
theorem agrees_iff (format : DatetimeFormat) (zodMessage : List ZodIssue → String) (deps : SendDeps)
    (credential : CredentialRecord) (call : Call) (requestId : String) :
    Agrees format zodMessage deps credential call requestId ↔ call.Meets deps credential := by
  cases call with
  | sendMessage groupId content =>
    constructor
    · intro hagrees
      -- a request that parses has a content type, and one that succeeds is not answered right
      obtain ⟨request, -, hparses⟩ := hagrees.parses
      obtain ⟨outcome, houtcome, hsame⟩ := hagrees.answers groupId content rfl
      refine ⟨?_, ?_⟩
      · by_contra htype
        rw [parse_sendMessage, if_neg htype] at hparses
        cases hparses
      · cases hresult :
          deps.handleSendMessage credential groupId content.contentType content.payload with
        | ok reply =>
          -- the answer is an error
          rw [hresult, outcome_ok] at houtcome
          rw [hresult] at hsame
          obtain rfl := Option.some.inj houtcome
          exact hsame.elim
        | error e =>
          obtain ⟨error, herror, hcategory⟩ := outcome_error zodMessage requestId e
          rw [hresult, herror] at houtcome
          rw [hresult] at hsame
          obtain rfl := Option.some.inj houtcome
          refine ⟨e, ?_, hcategory.1 hsame⟩
          rw [← errorOf_handleSendMessage]
          exact errorOf_eq_some.2 hresult
    · rintro ⟨htype, e, hfailure, hreported⟩
      have hresult := errorOf_eq_some.1 (errorOf_handleSendMessage.trans hfailure)
      refine ⟨⟨_, rfl, ?_⟩, ?_⟩
      · rw [parse_sendMessage, if_pos htype]
      · intro groupId' content' hcall
        cases hcall
        obtain ⟨error, herror, hcategory⟩ := outcome_error zodMessage requestId e
        rw [hresult]
        exact ⟨_, herror, hcategory.2 hreported⟩
  | sendReaction groupId messageId reaction =>
    refine iff_of_true ⟨⟨_, rfl, ?_⟩, ?_⟩ trivial
    · exact parse_sendReaction format requestId groupId messageId reaction
    · intro groupId' content' hcall
      cases hcall
  | listConversations =>
    -- the server has no such request
    refine iff_of_false (fun hagrees => ?_) id
    obtain ⟨request, -, hparses⟩ := hagrees.parses
    rw [parse_listConversations] at hparses
    cases hparses
  | getConversationInfo groupId =>
    refine iff_of_false (fun hagrees => ?_) id
    obtain ⟨request, -, hparses⟩ := hagrees.parses
    rw [parse_getConversationInfo] at hparses
    cases hparses

/-- A credential that may send to one chat. -/
def sendingCredential : CredentialRecord where
  credentialId := "cred_1"
  operatorId := "op_1"
  chatIds := ["conv_1"]
  effectiveScopes := ⟨[.send], []⟩
  status := .active
  issuedAt := 0
  expiresAt := 1000
  issuedBy := "owner"
  isExpired := false
  lastHeartbeat := 0

/-- Dependencies that send. -/
def sendingDeps : SendDeps where
  isHeartbeatStale := some (.ok false)
  ensureCoreReady := .ok ()
  lookup := .ok sendingCredential
  sendMessage _ _ _ := .ok "msg-1"
  currentSeal := none
  createMessageBinding _ _ := .error (.internalError "no signer")

/-- **A message that was sent is reported as a failure.** -/
theorem sent_message_fails :
    sendingDeps.handleSendMessage sendingCredential "conv_1" "xmtp.org/text:1.0"
        (MessageContent.text "hi").payload = .ok ⟨"msg-1", none⟩ ∧
      ∀ format zodMessage, ¬ Agrees format zodMessage sendingDeps sendingCredential
        (.sendMessage "conv_1" (.text "hi")) "req-1" := by
  refine ⟨by rfl, fun format zodMessage hagrees => ?_⟩
  obtain ⟨outcome, houtcome, hsame⟩ := hagrees.answers "conv_1" (.text "hi") rfl
  have hresult : sendingDeps.handleSendMessage sendingCredential "conv_1"
      (MessageContent.text "hi").contentType (MessageContent.text "hi").payload =
        .ok ⟨"msg-1", none⟩ := rfl
  rw [hresult, outcome_ok] at houtcome
  rw [hresult] at hsame
  obtain rfl := Option.some.inj houtcome
  exact hsame.elim

end Signet.Sdk
