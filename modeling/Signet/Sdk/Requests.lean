import Signet.Schemas.HarnessRequest

/-!
# Requests and responses of the SDK

The frames that the request methods of `createSignetHandler` send, the branch of `handleFrame` for
responses, and what `sendMessage` makes of a response. `JSON.stringify` and `JSON.parse` are left
out: a frame is the value that arrives, without the members that are undefined.
-/

namespace Signet.Sdk

open Lib

/-! ### Requests -/

/-- The content that `sendMessage` takes; what a custom content is in JSON, if anything. -/
inductive MessageContent where
  | text (value : String)
  | custom (contentType : String) (content : Option JsonValue)

def MessageContent.contentType : MessageContent → String
  | text _ => "xmtp.org/text:1.0"
  | custom contentType _ => contentType

def MessageContent.payload : MessageContent → Option JsonValue
  | text value => some (jsonObject [("text", some (.string value))])
  | custom _ content => content

/-- A call of a request method. -/
inductive Call where
  | sendMessage (groupId : String) (content : MessageContent)
  | sendReaction (groupId messageId reaction : String)
  | listConversations
  | getConversationInfo (groupId : String)

/-- The argument of `sendRequest`. -/
def Call.request : Call → List (String × Option JsonValue)
  | sendMessage groupId content =>
    [("type", some (.string "send_message")), ("groupId", some (.string groupId)),
      ("contentType", some (.string content.contentType)), ("content", content.payload)]
  | sendReaction groupId messageId reaction =>
    [("type", some (.string "send_reaction")), ("groupId", some (.string groupId)),
      ("messageId", some (.string messageId)), ("action", some (.string "added")),
      ("content", some (.string reaction))]
  | listConversations => [("type", some (.string "list_conversations"))]
  | getConversationInfo groupId =>
    [("type", some (.string "get_conversation_info")), ("groupId", some (.string groupId))]

/-- The frame that `sendRequest` sends. -/
def Call.frame (call : Call) (requestId : String) : JsonValue :=
  jsonObject (call.request ++ [("requestId", some (.string requestId))])

/-! ### Responses -/

/-- The errors that `handleFrame` and the methods create, with the arguments of `create`. -/
inductive ResponseError where
  | auth (message : JsonValue) (context : Option JsonValue)
  | validation (field : String) (reason : JsonValue)
  | notFound (resourceType : String) (resourceId : JsonValue)
  | permission (message : JsonValue) (context : Option JsonValue)
  | internal (message : JsonValue) (context : Option JsonValue)

/-- The category of the class. -/
def ResponseError.category : ResponseError → ErrorCategory
  | auth .. => .auth
  | validation .. => .validation
  | notFound .. => .notFound
  | permission .. => .permission
  | internal .. => .internal

/-- `value?.name`, for a value that is an object or has no such property. -/
def property? (value : Option JsonValue) (name : String) : Option JsonValue :=
  match value with
  | some (.object fields) => JsonObject.get? fields name
  | _ => none

/-- `value ?? undefined`. -/
def nonNull : Option JsonValue → Option JsonValue
  | some .null => none
  | value => value

/-- The value in a condition. -/
def isTruthy : JsonValue → Bool
  | .null => false
  | .bool value => value
  | .number value => value ≠ 0
  | .string value => value ≠ ""
  | .array _ | .object _ => true

/-- The error of a response that is not ok. -/
def responseError (error : Option JsonValue) : ResponseError :=
  let errMsg := (nonNull (property? error "message")).getD (.string "Request failed")
  let errCtx := nonNull (property? error "context")
  match property? error "category" with
  | some (.string category) =>
    if category = "auth" then .auth errMsg errCtx
    else if category = "validation" then .validation "response" errMsg
    else if category = "not_found" then .notFound "resource" errMsg
    else if category = "permission" then .permission errMsg errCtx
    else .internal errMsg errCtx
  | _ => .internal errMsg errCtx

/-- What a request is resolved with: `resp.data` or an error. -/
abbrev Response := Except ResponseError (Option JsonValue)

/-- The branch of `handleFrame` for responses: the request to resolve, and with what. A backpressure
frame comes first, and a value without properties has no branch at all. -/
def responseOf : JsonValue → Option (String × Response)
  | .object fields =>
    match JsonObject.get? fields "type", JsonObject.get? fields "requestId",
      JsonObject.get? fields "ok" with
    | some (.string "backpressure"), _, _ => none
    | _, some (.string requestId), some ok =>
      some (requestId,
        if isTruthy ok then .ok (JsonObject.get? fields "data")
        else .error (responseError (JsonObject.get? fields "error")))
    | _, _, _ => none
  | _ => none

structure MessageSent where
  messageId : String
  groupId : String
  sentAt : String
  deriving DecidableEq

/-- `hasStringFields` for one field. -/
def stringField (value : Option JsonValue) (name : String) : Option String :=
  match property? value name with
  | some (.string text) => some text
  | _ => none

/-- `sendMessage` once its request is resolved. -/
def sendMessageResult : Response → Except ResponseError MessageSent
  | .error error => .error error
  | .ok value =>
    match stringField value "messageId", stringField value "groupId",
      stringField value "sentAt" with
    | some messageId, some groupId, some sentAt => .ok ⟨messageId, groupId, sentAt⟩
    | _, _, _ =>
      .error (.validation "response"
        (.string "Missing required fields: messageId, groupId, sentAt"))

end Signet.Sdk
