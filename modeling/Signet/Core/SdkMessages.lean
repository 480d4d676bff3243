import Mathlib.Data.List.Infix
import Mathlib.Order.Nat
import Signet.Core.Client
import Signet.Core.ProcessJoinRequest
import Signet.Lib.Paging

/-!
# Messages of the SDK

The reads of the client that `createSdkClient` makes, on top of the conversations of the SDK. The
SDK keeps the time of a message in nanoseconds; what goes out and comes back is a date, in
milliseconds, as a string. So a bound that is the time of a message is a cut of its time
(`sentAtCut`).

* `createSdkClient`: what the client answers to `listMessages`, `getMessageById` and `listGroups`.
* `SdkConversation.Returns`: a conversation that answers from its history, newest first.
* `listMessages_first`, `listMessages_before`: what `listMessages` then answers is a page of the
  history.
-/

namespace Signet

open Lib

/-! ### Texts and errors of the SDK -/

/-- Strings and dates of the runtime. -/
structure RuntimeTexts where
  /-- JavaScript's `toLowerCase`. -/
  toLowerCase : String → String
  /-- `date.toISOString()`. -/
  toISOString : Time → String
  /-- `new Date(text).getTime()`, none if that is no number. -/
  parseDate : String → Option Time
  /-- The message of the error that `BigInt` throws for what is no integer. -/
  bigIntError : String

/-- A date goes through its text. -/
structure RuntimeTexts.DatesRoundTrip (texts : RuntimeTexts) : Prop where
  parse : ∀ t, texts.parseDate (texts.toISOString t) = some t
  nonempty : ∀ t, texts.toISOString t ≠ ""

def matchesAny (texts : RuntimeTexts) (message : String) (patterns : List String) : Bool :=
  patterns.any fun p => p.toList <:+: (texts.toLowerCase message).toList

/-- `wrapSdkCall` for a resource, without a timeout; an SDK call that throws is given by its
message. -/
def wrapSdkCall {α : Type} (texts : RuntimeTexts) (fn : Except String α) (context : String)
    (resourceType resourceId : String) : Result α :=
  match fn with
  | .ok value => .ok value
  | .error message =>
    if matchesAny texts message ["not found", "does not exist", "no such"] then
      .error (.notFoundError resourceType resourceId)
    else if matchesAny texts message ["timed out", "timeout", "deadline exceeded"] then
      .error (.timeoutError context 0)
    else .error (.internalError ("SDK error (" ++ context ++ "): " ++ message))

/-! ### Messages -/

/-- `SdkDecodedMessageShape`, as `toDecodedMessage` reads it. -/
structure SdkDecodedMessage where
  id : String
  conversationId : String
  senderInboxId : String
  /-- `contentType?.typeId`. -/
  contentTypeId : Option String
  content : DecodedContent
  sentAt : Time
  sentAtNs : Nat

/-- `XmtpDecodedMessage`, with its content as the handlers of invites look into it. -/
structure DecodedMessage where
  messageId : String
  groupId : String
  senderInboxId : String
  contentType : String
  content : DecodedContent
  sentAt : String
  threadId : Option String

def toDecodedMessage (texts : RuntimeTexts) (msg : SdkDecodedMessage) : DecodedMessage :=
  ⟨msg.id, msg.conversationId, msg.senderInboxId, msg.contentTypeId.getD "unknown", msg.content,
    texts.toISOString msg.sentAt, msg.content.stringMember? "reference"⟩

/-- The options of `group.messages`. -/
structure SdkListOptions where
  limit : Option Rat
  sentBeforeNs : Option Nat
  sentAfterNs : Option Nat
  /-- `SortDirection`. -/
  direction : Option Nat

structure SdkConversation where
  messages : SdkListOptions → Except String (List SdkDecodedMessage)

/-- A time of the options in nanoseconds. -/
def dateToNs (texts : RuntimeTexts) (date : String) : Except String Nat :=
  match texts.parseDate date with
  | none => .error texts.bigIntError
  | some ms => .ok (ms * 1000000)

def toSdkListOptions (texts : RuntimeTexts) (options : ListMessagesOptions) :
    Except String SdkListOptions := do
  let sentBeforeNs ← options.before.mapM (dateToNs texts)
  let sentAfterNs ← options.after.mapM (dateToNs texts)
  .ok ⟨options.limit, sentBeforeNs, sentAfterNs,
    options.direction.map fun direction => if direction = .ascending then 1 else 2⟩

/-- `getGroup`; `getConversationById` throws, or finds no conversation, or finds one. -/
def getGroup (texts : RuntimeTexts)
    (getConversationById : String → Except String (Option SdkConversation)) (groupId : String) :
    Result SdkConversation :=
  match wrapSdkCall texts (getConversationById groupId) "getConversationById" "group" groupId with
  | .error e => .error e
  | .ok none => .error (.notFoundError "group" groupId)
  | .ok (some group) => .ok group

def listMessages (texts : RuntimeTexts)
    (getConversationById : String → Except String (Option SdkConversation)) (groupId : String)
    (options : ListMessagesOptions) : Result (List DecodedMessage) :=
  match getGroup texts getConversationById groupId with
  | .error e => .error e
  | .ok group =>
    wrapSdkCall texts
      (do
        let sdkOptions ← toSdkListOptions texts options
        let messages ← group.messages sdkOptions
        .ok (messages.map (toDecodedMessage texts)))
      "listMessages" "group" groupId

/-! ### Groups and single messages -/

/-- A group of the SDK, with what `members()` answers. -/
structure SdkGroup where
  id : String
  name : String
  description : String
  imageUrl : Option String
  createdAtNs : Nat
  members : Except String (List String)

/-- `client.conversations`, as the reads use it; what throws is given by its message. -/
structure SdkConversations where
  getConversationById : String → Except String (Option SdkConversation)
  getMessageById : String → Except String (Option SdkDecodedMessage)
  listGroups : Except String (List SdkGroup)

/-- The error of `wrapSdkCall` for a call that is about no resource. -/
def sdkCallError (texts : RuntimeTexts) (context message : String) : SignetError :=
  if matchesAny texts message ["timed out", "timeout", "deadline exceeded"] then
    .timeoutError context 0
  else .internalError ("SDK error (" ++ context ++ "): " ++ message)

def toGroupInfo (texts : RuntimeTexts) (group : SdkGroup) (members : List String) :
    XmtpGroupInfo :=
  ⟨group.id, group.name, group.description, group.imageUrl, members,
    texts.toISOString (group.createdAtNs / 1000000)⟩

/-- The loop of `listGroups`: the first group whose members cannot be read ends it. -/
def groupInfos (texts : RuntimeTexts) : List SdkGroup → Except String (List XmtpGroupInfo)
  | [] => .ok []
  | group :: groups =>
    match group.members with
    | .error message => .error message
    | .ok members =>
      match groupInfos texts groups with
      | .error message => .error message
      | .ok infos => .ok (toGroupInfo texts group members :: infos)

def listGroups (texts : RuntimeTexts) (conversations : SdkConversations) :
    Result (List XmtpGroupInfo) :=
  match conversations.listGroups with
  | .error message => .error (sdkCallError texts "listGroups" message)
  | .ok groups =>
    match groupInfos texts groups with
    | .error message => .error (sdkCallError texts "listGroups" message)
    | .ok infos => .ok infos

def getMessageById (texts : RuntimeTexts) (conversations : SdkConversations) (messageId : String) :
    Result (Option DecodedMessage) :=
  match conversations.getMessageById messageId with
  | .error message => .error (.internalError ("SDK error (getMessageById): " ++ message))
  | .ok found => .ok (found.map (toDecodedMessage texts))

/-- A message as the message actions see it; `render` writes down content that is no text. -/
def DecodedMessage.toXmtp (render : DecodedContent → MessageContent) (msg : DecodedMessage) :
    XmtpDecodedMessage where
  messageId := msg.messageId
  groupId := msg.groupId
  senderInboxId := msg.senderInboxId
  contentType := msg.contentType
  content :=
    match msg.content with
    | .string text => text
    | content => render content
  isText :=
    match msg.content with
    | .string _ => true
    | _ => false
  sentAt := msg.sentAt
  threadId := msg.threadId

/-- The reads of `createSdkClient`; `others` are its other operations. -/
def createSdkClient (texts : RuntimeTexts) (render : DecodedContent → MessageContent)
    (conversations : SdkConversations) (others : XmtpClient) : XmtpClient :=
  { others with
    listMessages groupId options :=
      (listMessages texts conversations.getConversationById groupId options).map
        (·.map (·.toXmtp render))
    getMessageById messageId :=
      (getMessageById texts conversations messageId).map (·.map (·.toXmtp render))
    listGroups := listGroups texts conversations }

/-! ### Pages of a history -/

/-- The time of a message in whole milliseconds. -/
def SdkDecodedMessage.sentAtCut (msg : SdkDecodedMessage) : Nat :=
  msg.sentAtNs / 1000000 * 1000000

theorem SdkDecodedMessage.sentAtCut_le (msg : SdkDecodedMessage) : msg.sentAtCut ≤ msg.sentAtNs :=
  Nat.div_mul_le_self _ _

/-- **The conversation answers from its history**: up to `limit` messages that were sent strictly
before the bound, newest first. -/
structure SdkConversation.Returns (group : SdkConversation) (history : List SdkDecodedMessage) :
    Prop where
  sorted : NewestFirst SdkDecodedMessage.sentAtNs history
  /-- The date of a message is its time in whole milliseconds. -/
  dates : ∀ msg ∈ history, msg.sentAt = msg.sentAtNs / 1000000
  page : ∀ (limit : Nat) (bound : Option Nat),
    group.messages ⟨some limit, bound, none, some 2⟩ =
      .ok (pageBefore SdkDecodedMessage.sentAtNs limit history bound)

/-- The options of a scan from a bound on. -/
def descendingBefore (limit : Nat) (before : Option String) : ListMessagesOptions :=
  ⟨some limit, before, none, some .descending⟩

section Pages

variable {texts : RuntimeTexts}
  {getConversationById : String → Except String (Option SdkConversation)} {groupId : String}
  {group : SdkConversation} {history : List SdkDecodedMessage} {limit : Nat}

theorem getGroup_of_found (hfound : getConversationById groupId = .ok (some group)) :
    getGroup texts getConversationById groupId = .ok group := by
  unfold getGroup wrapSdkCall
  rw [hfound]

/-- The first page. -/
theorem listMessages_first (hfound : getConversationById groupId = .ok (some group))
    (hreturns : group.Returns history) :
    listMessages texts getConversationById groupId (descendingBefore limit none) =
      .ok ((pageBefore SdkDecodedMessage.sentAtNs limit history none).map
        (toDecodedMessage texts)) := by
  have hpage := hreturns.page limit none
  unfold listMessages
  rw [getGroup_of_found hfound]
  dsimp only
  show wrapSdkCall texts (group.messages ⟨some limit, none, none, some 2⟩ >>= _) _ _ _ = _
  rw [hpage]
  rfl

/-- The page before a message: its text stands for its time in whole milliseconds. -/
theorem listMessages_before (hdates : texts.DatesRoundTrip)
    (hfound : getConversationById groupId = .ok (some group)) (hreturns : group.Returns history)
    {msg : SdkDecodedMessage} (hmem : msg ∈ history) :
    listMessages texts getConversationById groupId
        (descendingBefore limit (some (toDecodedMessage texts msg).sentAt)) =
      .ok ((pageBefore SdkDecodedMessage.sentAtNs limit history (some msg.sentAtCut)).map
        (toDecodedMessage texts)) := by
  have hpage := hreturns.page limit (some msg.sentAtCut)
  -- the date goes through its text, which keeps the milliseconds
  have hns : dateToNs texts (texts.toISOString msg.sentAt) = .ok msg.sentAtCut := by
    unfold dateToNs SdkDecodedMessage.sentAtCut
    rw [hdates.parse, hreturns.dates msg hmem]
  have hoptions : toSdkListOptions texts
      (descendingBefore limit (some (toDecodedMessage texts msg).sentAt)) =
        .ok ⟨some limit, some msg.sentAtCut, none, some 2⟩ := by
    show (dateToNs texts (texts.toISOString msg.sentAt) >>= fun _ => _) >>= _ = _
    rw [hns]
    rfl
  unfold listMessages
  rw [getGroup_of_found hfound]
  dsimp only
  rw [hoptions]
  show wrapSdkCall texts (group.messages ⟨some limit, some msg.sentAtCut, none, some 2⟩ >>= _) _ _
    _ = _
  rw [hpage]
  rfl

end Pages

end Signet
