import Signet.Schemas.ResourceId

/-!
# Events

The events of `events.ts` that carry the content of a message, and all others as
one case.
-/

namespace Signet

/-- `content: unknown`, in serialized form. -/
abbrev MessageContent := String

inductive MessageVisibility where
  | visible
  | historical
  | hidden
  | revealed
  | redacted
  deriving DecidableEq

/-- `MessageEvent`, of type `message.visible`; redacted content is null. -/
structure MessageEvent where
  messageId : String
  groupId : String
  senderInboxId : String
  contentType : String
  content : Option MessageContent
  visibility : MessageVisibility
  sentAt : Time
  sealId : Option String
  threadId : Option String
  deriving DecidableEq

/-- `RevealedMessageEvent`, of type `message.revealed`. -/
structure RevealedMessageEvent where
  messageId : String
  groupId : String
  contentType : String
  content : Option MessageContent
  revealId : String
  deriving DecidableEq

/-- `SignetEvent`; the types without message content keep only their name. -/
inductive SignetEvent where
  | messageVisible (event : MessageEvent)
  | messageRevealed (event : RevealedMessageEvent)
  | other (type : String)
  deriving DecidableEq

/-- The message whose content the event carries, by id and group. -/
def SignetEvent.message? : SignetEvent → Option (String × String)
  | .messageVisible event => some (event.messageId, event.groupId)
  | .messageRevealed event => some (event.messageId, event.groupId)
  | .other _ => none

end Signet
