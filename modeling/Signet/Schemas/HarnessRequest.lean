import Signet.Policy.RevealState
import Signet.Schemas.SealJson

/-!
# Requests of a harness

`ContentTypeId` of `content-types.ts` and the union of `requests.ts`, which is told apart by the
member `type` of a frame. Members that a request does not have are ignored.
-/

namespace Signet

open Lib Zod

/-! ### Content type ids -/

/-- A character of the class `[a-z0-9.-]`. -/
def isAuthorityChar (c : Char) : Bool :=
  ('a' ≤ c && c ≤ 'z') || ('0' ≤ c && c ≤ '9') || c == '.' || c == '-'

/-- A character of the class `[a-zA-Z0-9]`. -/
def isTypeChar (c : Char) : Bool :=
  ('a' ≤ c && c ≤ 'z') || ('A' ≤ c && c ≤ 'Z') || ('0' ≤ c && c ≤ '9')

/-- A character of the class `\d`. -/
def isVersionDigit (c : Char) : Bool :=
  '0' ≤ c && c ≤ '9'

/-- One or more characters of a class, as many as there are. -/
def takeClass (charClass : Char → Bool) (text : List Char) : Option (List Char) :=
  if (text.takeWhile charClass).isEmpty then none else some (text.dropWhile charClass)

/-- A fixed character. -/
def takeChar (expected : Char) : List Char → Option (List Char)
  | c :: rest => if c = expected then some rest else none
  | [] => none

/-- The expression of `ContentTypeId`. The character after a class is never in it, so that taking as
many as there are misses no match. -/
def isContentTypeId (value : String) : Bool :=
  let rest := takeClass isAuthorityChar value.toList >>= takeChar '/' >>= takeClass isTypeChar >>=
    takeChar ':' >>= takeClass isVersionDigit >>= takeChar '.' >>= takeClass isVersionDigit
  rest == some []

/-- `ContentTypeId`. -/
def contentTypeIdSchema : ZodSchema String
  | .string value => if isContentTypeId value then .ok value else .error (issue "Invalid")
  | value => .error (issue (expected "string" value))

/-! ### The requests -/

/-- The `action` of a reaction. -/
inductive ReactionAction where
  | added
  | removed
  deriving DecidableEq

def ReactionAction.name : ReactionAction → String
  | .added => "added"
  | .removed => "removed"

def RevealScope.name : RevealScope → String
  | .message => "message"
  | .thread => "thread"
  | .timeWindow => "time-window"
  | .contentType => "content-type"
  | .sender => "sender"

/-- `HarnessRequest`. Content is unknown and may be undefined. -/
inductive HarnessRequest where
  | sendMessage (requestId groupId contentType : String) (content : Option JsonValue)
  | sendReaction (requestId groupId messageId : String) (action : ReactionAction)
      (content : String)
  | sendReply (requestId groupId messageId contentType : String) (content : Option JsonValue)
  | updateScopes (requestId : String) (allow deny : Option (List PermissionScope))
  | revealContent (requestId : String) (reveal : RevealRequest)
  | confirmAction (requestId actionId : String) (confirmed : Bool)
  | heartbeat (requestId credentialId : String)

namespace HarnessRequest

/-- The values of `type`, in the order of the union. -/
def types : List String :=
  ["send_message", "send_reaction", "send_reply", "update_scopes", "reveal_content",
    "confirm_action", "heartbeat"]

end HarnessRequest

/-! ### The schema -/

/-- `z.boolean()`. -/
def Zod.truth : ZodSchema Bool := fun value => (Zod.boolean value).mapError issue

def Zod.nullable {α : Type} (schema : ZodSchema α) : ZodSchema (Option α)
  | .null => .ok none
  | value => (schema value).map some

/-- `RevealRequest`. -/
def RevealRequest.schema (format : DatetimeFormat) : ZodSchema RevealRequest := fun value => do
  let fields ← Zod.object value
  let revealId ← Zod.member fields "revealId" text
  let groupId ← Zod.member fields "groupId" text
  let scope ← Zod.member fields "scope"
    (enumeration [.message, .thread, .timeWindow, .contentType, .sender] RevealScope.name)
  let targetId ← Zod.member fields "targetId" text
  let requestedBy ← Zod.member fields "requestedBy" text
  let expiresAt ← Zod.member fields "expiresAt" (Zod.nullable (datetimeSchema format))
  .ok ⟨revealId, groupId, scope, targetId, requestedBy, expiresAt⟩

namespace HarnessRequest

def sendMessageSchema (fields : JsonObject) : Except ZodIssue HarnessRequest := do
  let requestId ← Zod.member fields "requestId" text
  let groupId ← Zod.member fields "groupId" text
  let contentType ← Zod.member fields "contentType" contentTypeIdSchema
  .ok (.sendMessage requestId groupId contentType (fields.get? "content"))

def sendReactionSchema (fields : JsonObject) : Except ZodIssue HarnessRequest := do
  let requestId ← Zod.member fields "requestId" text
  let groupId ← Zod.member fields "groupId" text
  let messageId ← Zod.member fields "messageId" text
  let action ← Zod.member fields "action" (enumeration [.added, .removed] ReactionAction.name)
  let content ← Zod.member fields "content" text
  .ok (.sendReaction requestId groupId messageId action content)

def sendReplySchema (fields : JsonObject) : Except ZodIssue HarnessRequest := do
  let requestId ← Zod.member fields "requestId" text
  let groupId ← Zod.member fields "groupId" text
  let messageId ← Zod.member fields "messageId" text
  let contentType ← Zod.member fields "contentType" contentTypeIdSchema
  .ok (.sendReply requestId groupId messageId contentType (fields.get? "content"))

def updateScopesSchema (fields : JsonObject) : Except ZodIssue HarnessRequest := do
  let requestId ← Zod.member fields "requestId" text
  let allow ← Zod.optionalMember fields "allow" (array PermissionScope.schema)
  let deny ← Zod.optionalMember fields "deny" (array PermissionScope.schema)
  .ok (.updateScopes requestId allow deny)

def revealContentSchema (format : DatetimeFormat) (fields : JsonObject) :
    Except ZodIssue HarnessRequest := do
  let requestId ← Zod.member fields "requestId" text
  let reveal ← Zod.member fields "reveal" (RevealRequest.schema format)
  .ok (.revealContent requestId reveal)

def confirmActionSchema (fields : JsonObject) : Except ZodIssue HarnessRequest := do
  let requestId ← Zod.member fields "requestId" text
  let actionId ← Zod.member fields "actionId" text
  let confirmed ← Zod.member fields "confirmed" Zod.truth
  .ok (.confirmAction requestId actionId confirmed)

def heartbeatSchema (fields : JsonObject) : Except ZodIssue HarnessRequest := do
  let requestId ← Zod.member fields "requestId" text
  let credentialId ← Zod.member fields "credentialId" (resourceIdSchema .credential)
  .ok (.heartbeat requestId credentialId)

/-- The issue of a frame that none of the requests has the `type` of. -/
def discriminatorIssue : ZodIssue :=
  ⟨["type"], "Invalid discriminator value. Expected " ++ enumerationText types id⟩

/-- `HarnessRequest`. -/
def schema (format : DatetimeFormat) : ZodSchema HarnessRequest := fun value => do
  let fields ← Zod.object value
  match fields.get? "type" with
  | some (.string type) =>
    if type = "send_message" then sendMessageSchema fields
    else if type = "send_reaction" then sendReactionSchema fields
    else if type = "send_reply" then sendReplySchema fields
    else if type = "update_scopes" then updateScopesSchema fields
    else if type = "reveal_content" then revealContentSchema format fields
    else if type = "confirm_action" then confirmActionSchema fields
    else if type = "heartbeat" then heartbeatSchema fields
    else .error discriminatorIssue
  | _ => .error discriminatorIssue

end HarnessRequest

end Signet
