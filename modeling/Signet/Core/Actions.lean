import Signet.Core.ConversationActions
import Signet.Core.MessageActions
import Signet.Schemas.Json

/-!
# Action specs

The specs that `createMessageActions` and `createConversationActions` return: their
ids, their MCP tool names, their input schemas and their handlers, behind one type of
inputs. A registry is a list of these specs.

`ToolInput.target` names, from the input and the state before the call, the group
that a tool reaches and the scopes for what it does there; `runTool_within` says that
a tool reaches exactly its target.
-/

namespace Signet

open Lib

/-- The specs of the two factories. -/
inductive ActionSpec where
  | messageSend
  | messageList
  | messageInfo
  | messageReply
  | messageReact
  | messageRead
  | chatCreate
  | chatList
  | chatInfo
  | chatUpdate
  | chatUpdateProfile
  | chatJoin
  | chatInvite
  | chatLeave
  | chatRm
  | chatAddMember
  | chatRemoveMember
  | chatPromoteMember
  | chatDemoteMember
  | chatMembers
  deriving DecidableEq

namespace ActionSpec

/-- `spec.id`. -/
def id : ActionSpec → String
  | .messageSend => "message.send"
  | .messageList => "message.list"
  | .messageInfo => "message.info"
  | .messageReply => "message.reply"
  | .messageReact => "message.react"
  | .messageRead => "message.read"
  | .chatCreate => "chat.create"
  | .chatList => "chat.list"
  | .chatInfo => "chat.info"
  | .chatUpdate => "chat.update"
  | .chatUpdateProfile => "chat.update-profile"
  | .chatJoin => "chat.join"
  | .chatInvite => "chat.invite"
  | .chatLeave => "chat.leave"
  | .chatRm => "chat.rm"
  | .chatAddMember => "chat.add-member"
  | .chatRemoveMember => "chat.remove-member"
  | .chatPromoteMember => "chat.promote-member"
  | .chatDemoteMember => "chat.demote-member"
  | .chatMembers => "chat.members"

/-- `spec.mcp.toolName`; the conversation specs have none. -/
def toolName : ActionSpec → Option String
  | .messageSend => some "message_send"
  | .messageList => some "message_list"
  | .messageInfo => some "message_info"
  | .messageReply => some "message_reply"
  | .messageReact => some "message_react"
  | .messageRead => some "message_read"
  | _ => none

def deriveMcpToolName (spec : ActionSpec) : String :=
  spec.toolName.getD ("signet/" ++ spec.id.map fun c => if c = '.' then '/' else c)

end ActionSpec

/-- The parsed input of a tool. -/
inductive ToolInput where
  | messageSend (input : MessageSendInput)
  | messageList (input : MessageListInput)
  | messageInfo (input : MessageInfoInput)
  | messageReply (input : MessageReferenceInput)
  | messageReact (input : MessageReferenceInput)
  | messageRead (input : MessageReadInput)
  | chatCreate (input : ChatCreateInput)
  | chatList (input : ChatListInput)
  | chatInfo (input : ChatInput)
  | chatUpdate (input : ChatUpdateInput)
  | chatUpdateProfile (input : ChatUpdateProfileInput)
  | chatJoin (input : ChatJoinInput)
  | chatInvite (input : ChatInviteInput)
  | chatLeave (input : ChatFlagInput)
  | chatRm (input : ChatFlagInput)
  | chatAddMember (input : ChatMemberInput)
  | chatRemoveMember (input : ChatMemberInput)
  | chatPromoteMember (input : ChatMemberInput)
  | chatDemoteMember (input : ChatMemberInput)
  | chatMembers (input : ChatInput)
  deriving DecidableEq

/-- What a tool returns. -/
inductive ToolOutput where
  | sent (output : MessageSentOutput)
  | messages (output : MessageListOutput)
  | message (output : XmtpDecodedMessage)
  | conversation (output : ConversationOutput)
  deriving DecidableEq

/-- The dependencies of both factories, which share their stores. -/
structure RegistryDeps extends ConversationActionDeps where
  credentialLookup : Option (String → Result SchemaCredentialRecord)
  /-- `z.coerce.number()`, `none` for what is no number. -/
  coerceNumber : JsonValue → Option Rat

namespace RegistryDeps

def messageDeps (deps : RegistryDeps) : MessageActionDeps :=
  ⟨deps.toActionDeps, deps.credentialLookup⟩

end RegistryDeps

/-- Dependencies with one identity and its client, which neither join nor invite. -/
def quietDeps (client : XmtpClient) (idMappings : Option IdMappings) : RegistryDeps where
  identities := [⟨"inbox_0000000000000001", none, none⟩]
  getManagedClient identityId := some ⟨identityId, client.inboxId, client⟩
  idMappings := idMappings
  onboardingScheme :=
    { parse := fun _ => .error (.internalError "no scheme")
      verify := fun _ => .ok ()
      generate := fun _ _ _ _ _ _ => .error (.internalError "no scheme")
      profileUpdateContentType := "profile" }
  operatorLabel := none
  getManagedClientForGroup := none
  getGroupInfo groupId := .error (.notFoundError "group" groupId)
  join := none
  invite := none
  attachManagedIdentity := none
  storesInviteTag := false
  cleanupLocalState := none
  newLocalId := id
  newInviteTag := "tag"
  credentialLookup := none
  coerceNumber _ := none

/-! ### Input schemas -/

section Parse

open Zod

variable (deps : RegistryDeps)

/-- `z.coerce.number()`. -/
def coercedNumber : ZodParser Rat := fun value =>
  match deps.coerceNumber value with
  | some number => .ok number
  | none => .error "Expected number, received nan"

/-- The schema of `chat.add-member` and `chat.remove-member`. -/
def parseLabelledMember (args : JsonObject) : Except ZodIssue ChatMemberInput := do
  return ⟨← field args "chatId" string, ← field args "inboxId" string,
    ← optionalField args "identityLabel" string⟩

/-- The schema of `chat.promote-member` and `chat.demote-member`. -/
def parseMember (args : JsonObject) : Except ZodIssue ChatMemberInput := do
  return ⟨← field args "chatId" string, ← field args "inboxId" string, none⟩

/-- The schema of `message.reply`, and with another name of the text of
`message.react`. -/
def parseReference (textField : String) (args : JsonObject) :
    Except ZodIssue MessageReferenceInput := do
  return ⟨← field args "chatId" string, ← field args "messageId" string,
    ← field args textField string, ← optionalField args "identityLabel" string⟩

/-- The schema of `chat.leave` and of `chat.rm`. -/
def parseFlag (flagField : String) (args : JsonObject) : Except ZodIssue ChatFlagInput := do
  return ⟨← field args "chatId" string, ← optionalField args flagField boolean⟩

/-- The schema of `chat.update`: one of the fields must be given. -/
def parseUpdate (args : JsonObject) : Except ZodIssue ChatUpdateInput := do
  let chatId ← field args "chatId" string
  let name ← optionalField args "name" string
  let description ← optionalField args "description" string
  let imageUrl ← optionalField args "imageUrl" string
  if name.isNone && description.isNone && imageUrl.isNone then
    throw ⟨["chatId"], "At least one metadata field must be provided"⟩
  return ⟨chatId, ⟨name, description, imageUrl⟩⟩

/-- The schema of `chat.update-profile`: a name or an operator must be given. -/
def parseUpdateProfile (args : JsonObject) : Except ZodIssue ChatUpdateProfileInput := do
  let chatId ← field args "chatId" string
  let identityLabel ← optionalField args "identityLabel" string
  let operatorId ← optionalField args "operatorId" string
  let profileName ← optionalField args "profileName" string
  if profileName.isNone && operatorId.isNone then
    throw ⟨["chatId"], "Provide a profile name or operator ID"⟩
  return ⟨chatId, identityLabel, operatorId, profileName⟩

/-- `spec.input.safeParse`. -/
def ActionSpec.parseInput (args : JsonObject) : ActionSpec → Except ZodIssue ToolInput
  | .messageSend => do
    return .messageSend ⟨← field args "chatId" string, ← field args "text" string,
      ← optionalField args "identityLabel" string⟩
  | .messageList => do
    return .messageList ⟨← field args "chatId" string,
      ← optionalField args "limit" (coercedNumber deps), ← optionalField args "before" string,
      ← optionalField args "after" string, ← optionalField args "identityLabel" string⟩
  | .messageInfo => do
    return .messageInfo ⟨← field args "chatId" string, ← field args "messageId" string,
      ← optionalField args "identityLabel" string⟩
  | .messageReply => .messageReply <$> parseReference "text" args
  | .messageReact => .messageReact <$> parseReference "reaction" args
  | .messageRead => do
    return .messageRead ⟨← field args "chatId" string, ← optionalField args "identityLabel" string⟩
  | .chatCreate => do
    return .chatCreate ⟨← field args "memberInboxIds" stringArray,
      ← optionalField args "name" string, ← optionalField args "creatorIdentityLabel" string⟩
  | .chatList => do return .chatList ⟨← optionalField args "identityLabel" string⟩
  | .chatInfo => do return .chatInfo ⟨← field args "chatId" string⟩
  | .chatUpdate => .chatUpdate <$> parseUpdate args
  | .chatUpdateProfile => .chatUpdateProfile <$> parseUpdateProfile args
  | .chatJoin => do
    return .chatJoin ⟨← field args "inviteUrl" string, ← optionalField args "label" string,
      ← optionalField args "operatorId" string, ← optionalField args "profileName" string,
      ← optionalField args "timeoutSeconds" positiveNumber⟩
  | .chatInvite => do
    return .chatInvite ⟨← field args "chatId" string, ← optionalField args "identityLabel" string,
      ← optionalField args "name" string, ← optionalField args "description" string⟩
  | .chatLeave => .chatLeave <$> parseFlag "purge" args
  | .chatRm => .chatRm <$> parseFlag "force" args
  | .chatAddMember => .chatAddMember <$> parseLabelledMember args
  | .chatRemoveMember => .chatRemoveMember <$> parseLabelledMember args
  | .chatPromoteMember => .chatPromoteMember <$> parseMember args
  | .chatDemoteMember => .chatDemoteMember <$> parseMember args
  | .chatMembers => do return .chatMembers ⟨← field args "chatId" string⟩

end Parse

/-! ### Handlers -/

def ActionRun.as {α : Type} (run : ActionRun α) (wrap : α → ToolOutput) : ActionRun ToolOutput := do
  let output ← run
  .ok (wrap output)

/-- `spec.handler` on a parsed input. -/
def runTool (deps : RegistryDeps) (ctx : HandlerContext) (now : Time) :
    ToolInput → ActionRun ToolOutput
  | .messageSend input => (messageSend deps.messageDeps input).as .sent
  | .messageList input => (messageList deps.messageDeps ctx now input).as .messages
  | .messageInfo input => (messageInfo deps.messageDeps ctx now input).as .message
  | .messageReply input => (messageReply deps.messageDeps input).as .sent
  | .messageReact input => (messageReact deps.messageDeps input).as .sent
  | .messageRead input => (messageRead deps.messageDeps input).as .sent
  | .chatCreate input => (chatCreate deps.toConversationActionDeps input).as .conversation
  | .chatList input => (chatList deps.toConversationActionDeps input).as .conversation
  | .chatInfo input => (chatInfo deps.toConversationActionDeps input).as .conversation
  | .chatUpdate input => (chatUpdate deps.toConversationActionDeps input).as .conversation
  | .chatUpdateProfile input =>
    (chatUpdateProfile deps.toConversationActionDeps input).as .conversation
  | .chatJoin input => (chatJoin deps.toConversationActionDeps input).as .conversation
  | .chatInvite input => (chatInvite deps.toConversationActionDeps input).as .conversation
  | .chatLeave input => (chatLeave deps.toConversationActionDeps input).as .conversation
  | .chatRm input => (chatRm deps.toConversationActionDeps input).as .conversation
  | .chatAddMember input => (chatAddMember deps.toConversationActionDeps input).as .conversation
  | .chatRemoveMember input =>
    (chatRemoveMember deps.toConversationActionDeps input).as .conversation
  | .chatPromoteMember input =>
    (chatPromoteMember deps.toConversationActionDeps input).as .conversation
  | .chatDemoteMember input =>
    (chatDemoteMember deps.toConversationActionDeps input).as .conversation
  | .chatMembers input => (chatMembers deps.toConversationActionDeps input).as .conversation

/-! ### The target of a tool -/

/-- A group and the scopes for what is done there. -/
abbrev Target := String × List PermissionScope

/-- The target, if what it takes to reach it is there. -/
def targetIf {α : Type} (reached : Result α) (target : Target) : Option Target :=
  match reached with
  | .ok _ => some target
  | .error _ => none

theorem targetIf_eq_some {α : Type} {reached : Result α} {target : Target}
    {P : Target → Prop} :
    (∀ t, targetIf reached target = some t → P t) ↔ ∀ a, reached = .ok a → P target := by
  unfold targetIf
  cases reached with
  | error e => simp
  | ok a => simp

/-- The group that `chat.join` finds. -/
def joinTarget (deps : ConversationActionDeps) (input : ChatJoinInput) : Option Target :=
  match deps.join, resolveProfileSelection deps input.operatorId input.profileName with
  | some joinDeps, .ok profile =>
    match (discoverGroup deps.onboardingScheme joinDeps input.inviteUrl
      (input.options profile)).value with
    | .ok found => some (found.group.groupId, [.send])
    | .error _ => none
  | _, _ => none

/-- **The group a tool reaches and the scopes for it**, from the input and the state
before the call; `none` for the tools that reach none, and if there is no client. -/
def ToolInput.target (deps : RegistryDeps) : ToolInput → Option Target
  | .messageSend input =>
    targetIf (deps.resolveClient input.identityLabel)
      (resolveGroupId deps.idMappings input.chatId, [.send])
  | .messageReply input =>
    targetIf (deps.resolveClient input.identityLabel)
      (resolveGroupId deps.idMappings input.chatId, [.reply])
  | .messageReact input =>
    targetIf (deps.resolveClient input.identityLabel)
      (resolveGroupId deps.idMappings input.chatId, [.react])
  | .messageRead input =>
    targetIf (deps.resolveClient input.identityLabel)
      (resolveGroupId deps.idMappings input.chatId, [.readReceipt])
  | .chatUpdate input =>
    let groupId := resolveGroupId deps.idMappings input.chatId
    targetIf (resolveManagedClientForGroup deps.toConversationActionDeps groupId none)
      (groupId, input.changes.scopes)
  | .chatUpdateProfile input =>
    targetIf (resolveProfileUpdate deps.toConversationActionDeps input)
      (resolveGroupId deps.idMappings input.chatId, [.send])
  | .chatLeave input =>
    let groupId := resolveGroupId deps.idMappings input.chatId
    targetIf (resolveManagedClientForGroup deps.toConversationActionDeps groupId none)
      (groupId, [.leave])
  | .chatAddMember input =>
    let groupId := resolveGroupId deps.idMappings input.chatId
    targetIf (resolveManagedClientForGroup deps.toConversationActionDeps groupId
      input.identityLabel) (groupId, [.addMember])
  | .chatRemoveMember input =>
    let groupId := resolveGroupId deps.idMappings input.chatId
    targetIf (resolveManagedClientForGroup deps.toConversationActionDeps groupId
      input.identityLabel) (groupId, [.removeMember])
  | .chatPromoteMember input =>
    let groupId := resolveGroupId deps.idMappings input.chatId
    targetIf (resolveManagedClientForGroup deps.toConversationActionDeps groupId none)
      (groupId, [.promoteAdmin])
  | .chatDemoteMember input =>
    let groupId := resolveGroupId deps.idMappings input.chatId
    targetIf (resolveManagedClientForGroup deps.toConversationActionDeps groupId none)
      (groupId, [.demoteAdmin])
  | .chatJoin input => joinTarget deps.toConversationActionDeps input
  | .messageList _ | .messageInfo _ | .chatCreate _ | .chatList _ | .chatInfo _ | .chatInvite _
  | .chatRm _ | .chatMembers _ => none

/-! ### A tool reaches its target -/

section Within

variable {allowed : String → List PermissionScope → Prop}

theorem ActionRun.as_within {α : Type} {run : ActionRun α} {wrap : α → ToolOutput} :
    (run.as wrap).AllCalls (·.Within allowed) ↔ run.AllCalls (·.Within allowed) :=
  Logged.allCalls_bind_of_tail fun _ => Logged.AllCalls.ok _

/-- A tool that reaches no group stays within any bounds. -/
private theorem silent_within {α : Type} {run : ActionRun α} {wrap : α → ToolOutput}
    (h : Silent run) : (run.as wrap).AllCalls (·.Within allowed) ↔
      ∀ t : Target, (none : Option Target) = some t → allowed t.1 t.2 :=
  ⟨fun _ _ ht => absurd ht nofun, fun _ => ActionRun.as_within.2 (h.within allowed)⟩

/-- A tool whose handler reaches one group has it as its target. -/
private theorem reaching_within {α β : Type} {run : ActionRun α} {wrap : α → ToolOutput}
    {reached : Result β} {target : Target}
    (h : run.AllCalls (·.Within allowed) ↔ ∀ b, reached = .ok b → allowed target.1 target.2) :
    (run.as wrap).AllCalls (·.Within allowed) ↔
      ∀ t, targetIf reached target = some t → allowed t.1 t.2 := by
  rw [ActionRun.as_within, h]
  exact (targetIf_eq_some (P := fun t => allowed t.1 t.2)).symm

private theorem joinTarget_within {deps : ConversationActionDeps} {input : ChatJoinInput} :
    (chatJoin deps input).AllCalls (·.Within allowed) ↔
      ∀ t, joinTarget deps input = some t → allowed t.1 t.2 := by
  rw [chatJoin_within]
  unfold joinTarget
  cases hjoin : deps.join with
  | none => simp
  | some joinDeps =>
    cases hprofile : resolveProfileSelection deps input.operatorId input.profileName with
    | error e => simp
    | ok profile =>
      cases hfound : (discoverGroup deps.onboardingScheme joinDeps input.inviteUrl
        (input.options profile)).value with
      | error e =>
        simp only [hfound]
        -- nothing is joined, so there is neither a target nor a successful join
        refine ⟨fun _ _ ht => absurd ht nofun, fun _ joinDeps' profile' found hdeps hprof hok => ?_⟩
        cases hdeps
        cases hprof
        rw [hfound] at hok
        cases hok
      | ok found =>
        simp only [hfound]
        constructor
        · intro h t ht
          cases ht
          exact h joinDeps profile found rfl rfl hfound
        · intro h joinDeps' profile' found' hdeps hprof hok
          -- the join is the one whose group is the target
          cases hdeps
          cases hprof
          rw [hfound] at hok
          cases hok
          exact h _ rfl

/-- **A tool stays within bounds exactly if its target is within them.** -/
theorem runTool_within {deps : RegistryDeps} {ctx : HandlerContext} {now : Time}
    {input : ToolInput} :
    (runTool deps ctx now input).AllCalls (·.Within allowed) ↔
      ∀ t, input.target deps = some t → allowed t.1 t.2 := by
  cases input with
  -- a handler that sends reaches its target; one that only asks reaches nothing
  | messageSend input => exact reaching_within messageSend_within
  | messageList input => exact silent_within messageList_silent
  | messageInfo input => exact silent_within messageInfo_silent
  | messageReply input => exact reaching_within messageReply_within
  | messageReact input => exact reaching_within messageReact_within
  | messageRead input => exact reaching_within messageRead_within
  | chatCreate input => exact silent_within chatCreate_silent
  | chatList input => exact silent_within chatList_silent
  | chatInfo input => exact silent_within chatInfo_silent
  | chatUpdate input => exact reaching_within chatUpdate_within
  | chatUpdateProfile input => exact reaching_within chatUpdateProfile_within
  | chatJoin input => exact ActionRun.as_within.trans joinTarget_within
  | chatInvite input => exact silent_within chatInvite_silent
  | chatLeave input => exact reaching_within chatLeave_within
  | chatRm input => exact silent_within chatRm_silent
  | chatAddMember input => exact reaching_within chatAddMember_within
  | chatRemoveMember input => exact reaching_within chatRemoveMember_within
  | chatPromoteMember input => exact reaching_within chatPromoteMember_within
  | chatDemoteMember input => exact reaching_within chatDemoteMember_within
  | chatMembers input => exact silent_within chatMembers_silent

end Within

end Signet
