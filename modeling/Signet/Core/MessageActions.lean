import Signet.Core.Client

/-!
# Message actions

`createMessageActions`. Three handlers read: `message.list` and `message.info` here,
`search.messages` in `Core.SearchActions`. They look at who asks: for a credential
they check its chats and its scopes on resolved group ids, for an admin the
elevation of the request (`authorizeAdminReadAccess`). The four handlers that send
take no context and look at nothing.

* `messageList_calls_ne_nil`, `messageInfo_calls_ne_nil`: when a read reaches the client.
* `messageList_value`, `messageInfo_value`: what the messages of an answer have passed.
* `sendToChat_within`: a sending handler reaches the group its chat resolves to, and
  nothing stops it but a missing client.
-/

namespace Signet

open Lib

structure MessageActionDeps extends ActionDeps where
  /-- `credentialLookup`, if it is wired. -/
  credentialLookup : Option (String → Result SchemaCredentialRecord)

/-! ### Who may read -/

/-- `authorizeAdminReadElevation`: not expired, and for the group of the chat. -/
def authorizeAdminReadElevation (elevation : AdminReadElevation) (chatId : String)
    (idMappings : Option IdMappings) (now : Time) : Result Unit :=
  if elevation.expiresAt ≤ now then
    .error (.permissionError "Admin read elevation has expired"
      [("approvalId", elevation.approvalId)])
  else if resolveGroupId idMappings chatId ∉ scopedGroupIds idMappings elevation.chatIds then
    .error (.permissionError "Admin read elevation does not cover this conversation"
      [("approvalId", elevation.approvalId), ("chatId", chatId)])
  else .ok ()

/-- `authorizeAdminReadAccess`: credentials are checked later, an admin needs an
elevation, and a caller that is neither passes. -/
def authorizeAdminReadAccess (ctx : HandlerContext) (chatId : String)
    (idMappings : Option IdMappings) (now : Time) : Result Unit :=
  match truthy ctx.credentialId, ctx.adminReadElevation, ctx.adminAuth with
  | some _, _, _ => .ok ()
  | none, some elevation, _ => authorizeAdminReadElevation elevation chatId idMappings now
  | none, none, some _ =>
    .error (.permissionError "Admin message reads require owner-approved elevation"
      [("chatId", chatId), ("hint", "--dangerously-allow-message-read")])
  | none, none, none => .ok ()

/-- The elevation lets the holder read the chat at the moment. -/
def AdminReadElevation.Covers (elevation : AdminReadElevation) (chatId : String)
    (idMappings : Option IdMappings) (now : Time) : Prop :=
  now < elevation.expiresAt ∧
    resolveGroupId idMappings chatId ∈ scopedGroupIds idMappings elevation.chatIds

theorem authorizeAdminReadElevation_eq_ok {elevation : AdminReadElevation} {chatId : String}
    {idMappings : Option IdMappings} {now : Time} :
    authorizeAdminReadElevation elevation chatId idMappings now = .ok () ↔
      elevation.Covers chatId idMappings now := by
  unfold authorizeAdminReadElevation AdminReadElevation.Covers
  split
  · next hexpired => exact ⟨nofun, fun h => absurd h.1 (Nat.not_lt.2 hexpired)⟩
  · next hlive =>
    split
    · next hout => exact ⟨nofun, fun h => absurd h.2 hout⟩
    · next hin => exact ⟨fun _ => ⟨Nat.not_le.1 hlive, not_not.1 hin⟩, fun _ => rfl⟩

/-- **An admin who passes holds an elevation that covers the chat.** -/
theorem authorizeAdminReadAccess_admin {ctx : HandlerContext} {chatId : String}
    {idMappings : Option IdMappings} {now : Time} (hcred : ctx.credentialId = none)
    (hadmin : ctx.adminAuth ≠ none)
    (h : authorizeAdminReadAccess ctx chatId idMappings now = .ok ()) :
    ∃ elevation, ctx.adminReadElevation = some elevation ∧
      elevation.Covers chatId idMappings now := by
  unfold authorizeAdminReadAccess at h
  rw [hcred] at h
  cases helev : ctx.adminReadElevation with
  | some elevation =>
    rw [helev] at h
    exact ⟨elevation, rfl, authorizeAdminReadElevation_eq_ok.1 h⟩
  | none =>
    -- without an elevation an admin is turned away
    obtain ⟨fingerprint, hauth⟩ := Option.ne_none_iff_exists'.1 hadmin
    rw [helev, hauth] at h
    exact absurd h nofun

/-- The credential part of a read: its chats, then its scopes. Every failure is the
same `notFound`, so that nothing about the conversation shows. -/
def authorizeCredentialRead (deps : MessageActionDeps) (ctx : HandlerContext) (chatId : String)
    (notFound : SignetError) : Result Unit :=
  match truthy ctx.credentialId with
  | none => .ok ()
  | some credentialId =>
    match deps.credentialLookup with
    | none => .error notFound
    | some lookup =>
      match lookup credentialId with
      | .error _ => .error notFound
      | .ok credential =>
        if resolveGroupId deps.idMappings chatId ∉
            scopedGroupIds deps.idMappings credential.chatIds then .error notFound
        else if .readMessages ∉ resolveEffectiveScopes credential.effectiveScopes then
          .error notFound
        else .ok ()

/-! ### `message.list` -/

structure MessageListInput where
  chatId : String
  limit : Option Rat
  before : Option String
  after : Option String
  identityLabel : Option String
  deriving DecidableEq

structure MessageListOutput where
  chatId : String
  messages : List XmtpDecodedMessage
  deriving DecidableEq

/-- What `message.list` asks the client for. -/
def MessageListInput.options (input : MessageListInput) : ListMessagesOptions :=
  ⟨input.limit, input.before, input.after, none⟩

def messageList (deps : MessageActionDeps) (ctx : HandlerContext) (now : Time)
    (input : MessageListInput) : ActionRun MessageListOutput := do
  .ofExcept (authorizeAdminReadAccess ctx input.chatId deps.idMappings now)
  .ofExcept (authorizeCredentialRead deps ctx input.chatId
    (.notFoundError "conversation" input.chatId))
  let managed ← .ofExcept (deps.resolveClient input.identityLabel)
  let messages ← managed.list (resolveGroupId deps.idMappings input.chatId) input.options
  .ok ⟨input.chatId, messages⟩

/-! ### `message.info` -/

structure MessageInfoInput where
  chatId : String
  messageId : String
  identityLabel : Option String
  deriving DecidableEq

/-- The message found by its id, if it is one of the chat asked for. -/
def messageOfChat (idMappings : Option IdMappings) (input : MessageInfoInput) :
    Option XmtpDecodedMessage → Result XmtpDecodedMessage
  | none => .error (.notFoundError "message" input.messageId)
  | some message =>
    if message.groupId ≠ resolveGroupId idMappings input.chatId then
      .error (.notFoundError "message" input.messageId)
    else .ok message

def messageInfo (deps : MessageActionDeps) (ctx : HandlerContext) (now : Time)
    (input : MessageInfoInput) : ActionRun XmtpDecodedMessage := do
  .ofExcept (authorizeAdminReadAccess ctx input.chatId deps.idMappings now)
  .ofExcept (authorizeCredentialRead deps ctx input.chatId
    (.notFoundError "message" input.messageId))
  let managed ← .ofExcept (deps.resolveClient input.identityLabel)
  let messageId := resolveMessageId deps.idMappings input.messageId
  let found ← .call (.getMessageById messageId) (managed.client.getMessageById messageId)
  .ofExcept (messageOfChat deps.idMappings input found)

/-! ### The handlers that send -/

structure MessageSendInput where
  chatId : String
  text : String
  identityLabel : Option String
  deriving DecidableEq

/-- The input of `message.reply` and, with the reaction as text, of `message.react`. -/
structure MessageReferenceInput where
  chatId : String
  messageId : String
  text : String
  identityLabel : Option String
  deriving DecidableEq

structure MessageReadInput where
  chatId : String
  identityLabel : Option String
  deriving DecidableEq

/-- The output of the handlers that send: the new message, the chat as it was given
and the message it refers to. -/
structure MessageSentOutput where
  /-- Absent for a read receipt. -/
  messageId : Option String
  chatId : String
  /-- `inReplyTo` or `reactedTo`. -/
  reference : Option String
  deriving DecidableEq

/-- The common body of the handlers that send: resolve identity and client, send to
the group of the chat. -/
def sendToChat (deps : ActionDeps) (identityLabel : Option String) (chatId : String)
    (content : OutgoingContent) (contentType : Option String) : ActionRun String := do
  let managed ← .ofExcept (deps.resolveClient identityLabel)
  managed.send (resolveGroupId deps.idMappings chatId) content contentType

def messageSend (deps : MessageActionDeps) (input : MessageSendInput) :
    ActionRun MessageSentOutput := do
  let messageId ← sendToChat deps.toActionDeps input.identityLabel input.chatId (.text input.text)
    none
  .ok ⟨some messageId, input.chatId, none⟩

def messageReply (deps : MessageActionDeps) (input : MessageReferenceInput) :
    ActionRun MessageSentOutput := do
  let messageId ← sendToChat deps.toActionDeps input.identityLabel input.chatId
    (.reply input.text (resolveMessageId deps.idMappings input.messageId)) (some "reply")
  .ok ⟨some messageId, input.chatId, some input.messageId⟩

def messageReact (deps : MessageActionDeps) (input : MessageReferenceInput) :
    ActionRun MessageSentOutput := do
  let messageId ← sendToChat deps.toActionDeps input.identityLabel input.chatId
    (.reaction (resolveMessageId deps.idMappings input.messageId) "added" input.text "unicode")
    (some "reaction")
  .ok ⟨some messageId, input.chatId, some input.messageId⟩

def messageRead (deps : MessageActionDeps) (input : MessageReadInput) :
    ActionRun MessageSentOutput := do
  let _ ← sendToChat deps.toActionDeps input.identityLabel input.chatId .readReceipt
    (some "readReceipt")
  .ok ⟨none, input.chatId, none⟩

/-! ### What the reads have checked -/

/-- The credential part passes a credential that is found, for the groups of its
chats, if it may read. -/
theorem authorizeCredentialRead_credential {deps : MessageActionDeps} {ctx : HandlerContext}
    {credentialId chatId : String} {lookup : String → Result SchemaCredentialRecord}
    {credential : SchemaCredentialRecord} {notFound : SignetError}
    (hcred : truthy ctx.credentialId = some credentialId)
    (hwired : deps.credentialLookup = some lookup) (hfound : lookup credentialId = .ok credential)
    (hread : .readMessages ∈ resolveScopeSet credential.effectiveScopes) :
    authorizeCredentialRead deps ctx chatId notFound = .ok () ↔
      resolveGroupId deps.idMappings chatId ∈
        scopedGroupIds deps.idMappings credential.chatIds := by
  have hscope :
      ¬ PermissionScope.readMessages ∉ resolveEffectiveScopes credential.effectiveScopes :=
    not_not.2 (mem_resolveEffectiveScopes.2 hread)
  unfold authorizeCredentialRead
  simp only [hcred, hwired, hfound, if_neg hscope]
  split
  · next hout => exact ⟨nofun, fun hin => absurd hin hout⟩
  · next hin => exact ⟨fun _ => not_not.1 hin, fun _ => rfl⟩

/-- **When `message.list` reads**: both checks pass and a client is there. -/
theorem messageList_calls_ne_nil {deps : MessageActionDeps} {ctx : HandlerContext} {now : Time}
    {input : MessageListInput} :
    (messageList deps ctx now input).calls ≠ [] ↔
      authorizeAdminReadAccess ctx input.chatId deps.idMappings now = .ok () ∧
        authorizeCredentialRead deps ctx input.chatId
          (.notFoundError "conversation" input.chatId) = .ok () ∧
        ∃ managed, deps.resolveClient input.identityLabel = .ok managed := by
  unfold messageList
  simp only [Logged.calls_ofExcept_bind_ne_nil]
  constructor
  · rintro ⟨_, hadmin, _, hcred, managed, hclient, -⟩
    exact ⟨hadmin, hcred, managed, hclient⟩
  · rintro ⟨hadmin, hcred, managed, hclient⟩
    -- the client is asked for the messages, whatever it answers
    refine ⟨(), hadmin, (), hcred, managed, hclient, ?_⟩
    simp [ManagedClient.list, Logged.calls_bind]

/-- **When `message.info` reads**: both checks pass and a client is there. -/
theorem messageInfo_calls_ne_nil {deps : MessageActionDeps} {ctx : HandlerContext} {now : Time}
    {input : MessageInfoInput} :
    (messageInfo deps ctx now input).calls ≠ [] ↔
      authorizeAdminReadAccess ctx input.chatId deps.idMappings now = .ok () ∧
        authorizeCredentialRead deps ctx input.chatId
          (.notFoundError "message" input.messageId) = .ok () ∧
        ∃ managed, deps.resolveClient input.identityLabel = .ok managed := by
  unfold messageInfo
  simp only [Logged.calls_ofExcept_bind_ne_nil]
  constructor
  · rintro ⟨_, hadmin, _, hcred, managed, hclient, -⟩
    exact ⟨hadmin, hcred, managed, hclient⟩
  · rintro ⟨hadmin, hcred, managed, hclient⟩
    refine ⟨(), hadmin, (), hcred, managed, hclient, ?_⟩
    simp [Logged.calls_bind]

/-- **What an answer of `message.list` has passed**: the check of an admin, and its
messages are the client's for the group of the chat. -/
theorem messageList_value {deps : MessageActionDeps} {ctx : HandlerContext} {now : Time}
    {input : MessageListInput} {output : MessageListOutput}
    (h : (messageList deps ctx now input).value = .ok output) :
    authorizeAdminReadAccess ctx input.chatId deps.idMappings now = .ok () ∧
      ∃ managed, deps.resolveClient input.identityLabel = .ok managed ∧
        managed.client.listMessages (resolveGroupId deps.idMappings input.chatId) input.options =
          .ok output.messages := by
  unfold messageList at h
  obtain ⟨_, hadmin, h⟩ := Logged.value_bind_ok.1 h
  obtain ⟨_, -, h⟩ := Logged.value_bind_ok.1 h
  obtain ⟨managed, hclient, h⟩ := Logged.value_bind_ok.1 h
  obtain ⟨messages, hmessages, h⟩ := Logged.value_bind_ok.1 h
  cases h
  exact ⟨hadmin, managed, hclient, hmessages⟩

/-- **What an answer of `message.info` has passed**: the check of an admin, and it is
the client's message of that id in the group of the chat. -/
theorem messageInfo_value {deps : MessageActionDeps} {ctx : HandlerContext} {now : Time}
    {input : MessageInfoInput} {message : XmtpDecodedMessage}
    (h : (messageInfo deps ctx now input).value = .ok message) :
    authorizeAdminReadAccess ctx input.chatId deps.idMappings now = .ok () ∧
      message.groupId = resolveGroupId deps.idMappings input.chatId ∧
      ∃ managed, deps.resolveClient input.identityLabel = .ok managed ∧
        managed.client.getMessageById (resolveMessageId deps.idMappings input.messageId) =
          .ok (some message) := by
  unfold messageInfo at h
  obtain ⟨_, hadmin, h⟩ := Logged.value_bind_ok.1 h
  obtain ⟨_, -, h⟩ := Logged.value_bind_ok.1 h
  obtain ⟨managed, hclient, h⟩ := Logged.value_bind_ok.1 h
  obtain ⟨found, hfound, h⟩ := Logged.value_bind_ok.1 h
  have hmessage : messageOfChat deps.idMappings input found = .ok message := h
  unfold messageOfChat at hmessage
  split at hmessage
  · exact absurd hmessage nofun
  · split at hmessage
    · exact absurd hmessage nofun
    -- a message of another group is answered like one that is not there
    · next hgroup =>
      cases hmessage
      exact ⟨hadmin, not_not.1 hgroup, managed, hclient, hfound⟩

/-! ### What the handlers reach -/

section Within

variable {deps : MessageActionDeps} {allowed : String → List PermissionScope → Prop}

theorem messageList_silent {ctx : HandlerContext} {now : Time} {input : MessageListInput} :
    Silent (messageList deps ctx now input) := by
  refine Logged.AllCalls.bind (Logged.AllCalls.ofExcept _) fun _ _ => ?_
  refine Logged.AllCalls.bind (Logged.AllCalls.ofExcept _) fun _ _ => ?_
  refine Logged.AllCalls.bind (Logged.AllCalls.ofExcept _) fun managed _ => ?_
  exact Logged.AllCalls.bind (Logged.allCalls_call.2 rfl) fun _ _ => Logged.AllCalls.ok _

theorem messageInfo_silent {ctx : HandlerContext} {now : Time} {input : MessageInfoInput} :
    Silent (messageInfo deps ctx now input) := by
  refine Logged.AllCalls.bind (Logged.AllCalls.ofExcept _) fun _ _ => ?_
  refine Logged.AllCalls.bind (Logged.AllCalls.ofExcept _) fun _ _ => ?_
  refine Logged.AllCalls.bind (Logged.AllCalls.ofExcept _) fun managed _ => ?_
  exact Logged.AllCalls.bind (Logged.allCalls_call.2 rfl) fun _ _ => Logged.AllCalls.ofExcept _

/-- **A sending handler looks at nothing but the client**: if there is one, it sends
to the group of the chat. -/
theorem sendToChat_within {deps : ActionDeps} {identityLabel : Option String} {chatId : String}
    {content : OutgoingContent} {contentType : Option String} :
    (sendToChat deps identityLabel chatId content contentType).AllCalls (·.Within allowed) ↔
      ∀ managed, deps.resolveClient identityLabel = .ok managed →
        allowed (resolveGroupId deps.idMappings chatId) [content.scope] := by
  unfold sendToChat
  rw [Logged.allCalls_bind_of_silent (Logged.calls_ofExcept _)]
  exact forall_congr' fun managed =>
    imp_congr Iff.rfl (Logged.allCalls_call.trans (ClientCall.within_iff rfl))

theorem messageSend_within {input : MessageSendInput} :
    (messageSend deps input).AllCalls (·.Within allowed) ↔
      ∀ managed, deps.resolveClient input.identityLabel = .ok managed →
        allowed (resolveGroupId deps.idMappings input.chatId) [.send] :=
  (Logged.allCalls_bind_of_tail fun _ => Logged.AllCalls.ok _).trans sendToChat_within

theorem messageReply_within {input : MessageReferenceInput} :
    (messageReply deps input).AllCalls (·.Within allowed) ↔
      ∀ managed, deps.resolveClient input.identityLabel = .ok managed →
        allowed (resolveGroupId deps.idMappings input.chatId) [.reply] :=
  (Logged.allCalls_bind_of_tail fun _ => Logged.AllCalls.ok _).trans sendToChat_within

theorem messageReact_within {input : MessageReferenceInput} :
    (messageReact deps input).AllCalls (·.Within allowed) ↔
      ∀ managed, deps.resolveClient input.identityLabel = .ok managed →
        allowed (resolveGroupId deps.idMappings input.chatId) [.react] :=
  (Logged.allCalls_bind_of_tail fun _ => Logged.AllCalls.ok _).trans sendToChat_within

theorem messageRead_within {input : MessageReadInput} :
    (messageRead deps input).AllCalls (·.Within allowed) ↔
      ∀ managed, deps.resolveClient input.identityLabel = .ok managed →
        allowed (resolveGroupId deps.idMappings input.chatId) [.readReceipt] :=
  (Logged.allCalls_bind_of_tail fun _ => Logged.AllCalls.ok _).trans sendToChat_within

end Within

end Signet
