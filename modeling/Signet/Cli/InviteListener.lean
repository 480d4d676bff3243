import Signet.Core.ProcessJoinRequest
import Signet.Core.SdkMessages
import Signet.Lib.OrdMap

/-!
# Invite candidates

What the managed invite host listener takes for a join request, and the key under which it knows
one: the same invite of the same sender may come as a structured message and as plain text.
-/

namespace Signet

open Lib

structure RawMessageEvent where
  messageId : String
  groupId : String
  senderInboxId : String
  contentType : String
  content : DecodedContent
  sentAt : String
  threadId : Option String
  isHistorical : Bool

/-- `CoreRawEvent`, as the listener tells the events apart. -/
inductive CoreRawEvent where
  | message (event : RawMessageEvent)
  | dmJoined (dmId : String)
  | other

/-- `OnboardingScheme`, as the listener calls it, and functions of the runtime. -/
structure InviteScheme where
  isJoinRequestContentType : String → Bool
  prims : InvitePrimitives
  /-- `JSON.parse`, `none` where it throws. -/
  jsonParse : String → Option DecodedContent
  /-- JavaScript's `toLowerCase`. -/
  toLowerCase : String → String

def toRawMessageEvent (message : DecodedMessage) : RawMessageEvent :=
  ⟨message.messageId, message.groupId, message.senderInboxId, message.contentType,
    message.content, message.sentAt, message.threadId, false⟩

namespace InviteScheme

variable (scheme : InviteScheme)

/-- `isInviteCandidate`, for a message. -/
def isInviteMessage (event : RawMessageEvent) : Bool :=
  if event.isHistorical then false
  else if scheme.isJoinRequestContentType event.contentType then true
  else match event.content with
  | .string content =>
    let text := jsTrim content
    decide (50 ≤ (codeUnits text).length) && !text.toList.contains ' '
  | _ => false

def isInviteCandidate : CoreRawEvent → Bool
  | .message event => scheme.isInviteMessage event
  | _ => false

/-- `resolveInviteRequestKey`; the empty slug is none. -/
def resolveInviteRequestKey (event : RawMessageEvent) : Option String :=
  let inviteSlug := (extractJoinRequestContent scheme.prims scheme.jsonParse event.content).or
    (match event.content with
      | .string content => some (jsTrim content)
      | _ => none)
  (inviteSlug.bind orUndefined).map fun slug =>
    scheme.toLowerCase event.senderInboxId ++ ":" ++ slug

def preferInviteCandidate (current : Option RawMessageEvent) (candidate : RawMessageEvent) :
    RawMessageEvent :=
  match current with
  | none => candidate
  | some current =>
    if scheme.isJoinRequestContentType candidate.contentType &&
        !scheme.isJoinRequestContentType current.contentType then candidate
    else current

/-- The key of a candidate in the result of a scan: `requestKey ?? event.messageId`. -/
def candidateKey (event : RawMessageEvent) : String :=
  (scheme.resolveInviteRequestKey event).getD event.messageId

end InviteScheme

/-- The sets of what has been processed. -/
structure ProcessedInvites where
  processedMessageIds : OrdMap String Unit
  processedInviteKeys : OrdMap String Unit

/-- The message, or the request it stands for, has been processed. -/
def ProcessedInvites.isProcessed (processed : ProcessedInvites) (messageId : String)
    (requestKey : Option String) : Bool :=
  processed.processedMessageIds.has messageId ||
    requestKey.any processed.processedInviteKeys.has

end Signet
