import Signet.Cli.EventProjector
import Signet.Cli.SealInputResolver
import Signet.Cli.WsRequestHandler
import Signet.Core.SearchActions

/-!
# One chat set, six surfaces

A credential lists its chats by local ids, the network delivers group ids, and six
surfaces ask whether a conversation is one of the credential's chats. The three read
actions resolve both sides through the id mapping; the WebSocket projection, the
WebSocket send validation and the seal input resolver compare the ids as they come.

`ChatQuestion` is the question put to all of them for one conversation: a credential
made from an accepted configuration, a mapping, and all other inputs of the six
surfaces, such that nothing but the chat set stands in the way.

* `answer_of_raw`, `answer_of_resolved`: what each surface decides about an id.
* `surfaces_agree_iff`: the surfaces agree on a conversation exactly if it is not one
  of the credential's chats.
* `accepted_send_misses`: an accepted WebSocket send never reaches the group.
-/

namespace Signet

open Lib

/-- The surfaces that decide whether a conversation is in the chat set. -/
inductive Surface where
  | projection
  | wsSend
  | sealResolver
  | messageList
  | messageInfo
  | searchMessages
  deriving DecidableEq

/-- The surface compares the id as it comes. -/
def Surface.isRaw : Surface → Bool
  | .projection | .wsSend | .sealResolver => true
  | .messageList | .messageInfo | .searchMessages => false

/-- A question to all surfaces: the credential, the conversation and the remaining
inputs of each surface. -/
structure ChatQuestion where
  /-- What the credential was issued from. -/
  config : CredentialConfig
  config_accepted : config.accepted = true
  mappings : ConversationMappings
  /-- The conversation that is asked about. -/
  row : IdMapping
  row_mem : row ∈ mappings.rows
  /-- The record of the credential, which may send and read. -/
  record : CredentialRecord
  record_chatIds : record.chatIds = config.chatIds
  record_named : record.credentialId ≠ ""
  may_send : .send ∈ resolveScopeSet record.effectiveScopes
  may_read : .readMessages ∈ resolveScopeSet record.effectiveScopes
  now : Time
  /-- A current message, for the projection. -/
  event : MessageEvent
  event_current : event.visibility ≠ .historical
  parseDate : String → Option Time
  reveals : Option RevealState
  /-- The inputs of the seal input resolver. -/
  operator : OperatorConfig
  trustTier : TrustTier
  adminAccess : Option AdminAccess
  /-- The inputs of the read actions, which have a client to ask. -/
  deps : ActionDeps
  deps_mappings : deps.idMappings = some mappings.toIdMappings
  identityLabel : Option String
  managed : ManagedClient
  client_resolves : deps.resolveClient identityLabel = .ok managed
  lookup : String → Result SchemaCredentialRecord
  lookup_record : lookup record.credentialId = .ok record.toSchemaCredentialRecord
  toLowerCase : String → String
  listInput : MessageListInput
  infoInput : MessageInfoInput
  searchInput : SearchMessagesInput
  /-- The registry the WebSocket send goes through, and what is sent. -/
  getByGroupId : String → Option ManagedClient
  contentType : String
  content : MessageContent

namespace ChatQuestion

variable (q : ChatQuestion)

/-- The context of a request of the credential. -/
def ctx : HandlerContext := ⟨none, some q.record.credentialId, none⟩

/-- The dependencies of `message.list` and `message.info`. -/
def messageDeps : MessageActionDeps := ⟨q.deps, some q.lookup⟩

/-- The dependencies of `search.messages`. -/
def searchDeps : SearchActionDeps := ⟨q.deps, some q.lookup, q.toLowerCase⟩

/-- What a surface answers when the conversation is named `id`: the projection emits
the event, the checks pass, the read action gets to ask the client. -/
def answer (id : String) : Surface → Bool
  | .projection =>
    (projectEvent q.parseDate q.reveals q.record q.now
      (.messageVisible { q.event with groupId := id })).isSome
  | .wsSend => (validateSendAs q.record id).isOk
  | .sealResolver =>
    (resolveSealInput q.trustTier q.record.credentialId id q.record q.operator
      q.adminAccess).isOk
  | .messageList =>
    !(messageList q.messageDeps q.ctx q.now
      { q.listInput with chatId := id, identityLabel := q.identityLabel }).calls.isEmpty
  | .messageInfo =>
    !(messageInfo q.messageDeps q.ctx q.now
      { q.infoInput with chatId := id, identityLabel := q.identityLabel }).calls.isEmpty
  | .searchMessages =>
    !(searchMessages q.searchDeps q.ctx q.now
      { q.searchInput with chatId := some id, identityLabel := q.identityLabel }).calls.isEmpty

/-- The two ids of the conversation. -/
def ids : List String := [q.row.localId, q.row.networkId]

/-- A WebSocket send of the conversation named `id`. -/
def send (id : String) : ActionRun String :=
  coreSendMessage q.getByGroupId id q.contentType q.content

/-- **The surfaces agree on the conversation**: whichever id is used, they give one
answer, and an accepted send is sent to the group if a client serves it. -/
structure Agrees : Prop where
  answer_same : ∀ id ∈ q.ids, ∀ id' ∈ q.ids, ∀ surface surface',
    q.answer id surface = q.answer id' surface'
  send_reaches : (q.getByGroupId q.row.networkId).isSome = true →
    ∀ id ∈ q.ids, q.answer id .wsSend = true →
      (q.send id).calls = [.sendMessage q.row.networkId (.raw q.content) (some q.contentType)]

/-! ### What the surfaces decide -/

variable {q} {id : String}

private theorem truthy_of_ne {value : String} (h : value ≠ "") :
    truthy (some value) = some value := by
  simp [truthy, Option.filter, h]

private theorem answered_iff {α : Type} {run : ActionRun α} :
    (!run.calls.isEmpty) = true ↔ run.calls ≠ [] := by
  rw [Bool.not_eq_true', ← Bool.not_eq_true, List.isEmpty_iff]

/-- A raw surface compares the id with the chats as it comes. -/
theorem answer_of_raw {surface : Surface} (h : surface.isRaw = true) :
    q.answer id surface = true ↔ id ∈ q.config.chatIds := by
  rw [← q.record_chatIds]
  cases surface with
  | projection =>
    have hcurrent : (MessageEvent.toRaw { q.event with groupId := id }).isHistorical = true →
        PermissionScope.readHistory ∈ resolveScopeSet q.record.effectiveScopes :=
      fun hist => absurd (of_decide_eq_true hist) q.event_current
    show (Option.map _ _).isSome = true ↔ _
    rw [Option.isSome_map]
    -- the message may be read and is current, so only its chat decides
    have hproject := projectMessage_isSome q.record.chatIds (q.reveals.any (·.isRevealed
      q.parseDate (MessageEvent.toRaw { q.event with groupId := id }).target q.now))
      q.may_read hcurrent
    exact (Bool.eq_iff_iff.1 hproject).trans decide_eq_true_iff
  | wsSend =>
    constructor
    · intro hok
      cases hv : validateSendAs q.record id with
      | error e => rw [answer, hv] at hok; cases hok
      | ok validation => exact (validateSendAs_isOk hv).1
    · intro hin
      have hv : validateSendAs q.record id = .ok ⟨false⟩ :=
        validateSendMessage_eq_ok.2 ⟨hin, q.may_send, rfl⟩
      rw [answer, hv]
      rfl
  | sealResolver => exact resolveSealInput_isOk
  | messageList => cases h
  | messageInfo => cases h
  | searchMessages => cases h

/-- The context names a credential, so the checks of an admin do not apply. -/
private theorem truthy_ctx : truthy q.ctx.credentialId = some q.record.credentialId :=
  truthy_of_ne q.record_named

private theorem adminRead_ok :
    authorizeAdminReadAccess q.ctx id q.deps.idMappings q.now = .ok () := by
  rw [authorizeAdminReadAccess, truthy_ctx]

private theorem credentialRead_ok {notFound : SignetError} :
    authorizeCredentialRead q.messageDeps q.ctx id notFound = .ok () ↔
      resolveGroupId (some q.mappings.toIdMappings) id ∈
        scopedGroupIds (some q.mappings.toIdMappings) q.config.chatIds := by
  rw [authorizeCredentialRead_credential truthy_ctx rfl q.lookup_record q.may_read]
  show resolveGroupId q.deps.idMappings id ∈ scopedGroupIds q.deps.idMappings q.record.chatIds ↔ _
  rw [q.deps_mappings, q.record_chatIds]

private theorem searchScope_eq : credentialSearchScope q.searchDeps q.ctx =
    .scoped (scopedGroupIds (some q.mappings.toIdMappings) q.config.chatIds) := by
  have hread : ¬ PermissionScope.readMessages ∉ resolveEffectiveScopes q.record.effectiveScopes :=
    not_not.2 (mem_resolveEffectiveScopes.2 q.may_read)
  unfold credentialSearchScope
  simp only [truthy_ctx, searchDeps, q.lookup_record, if_neg hread, q.deps_mappings,
    q.record_chatIds]

/-- A resolving surface compares the group of the id with the groups of the chats. -/
theorem answer_of_resolved {surface : Surface} (h : surface.isRaw = false) (hid : id ≠ "") :
    q.answer id surface = true ↔
      resolveGroupId (some q.mappings.toIdMappings) id ∈
        scopedGroupIds (some q.mappings.toIdMappings) q.config.chatIds := by
  cases surface with
  | projection => cases h
  | wsSend => cases h
  | sealResolver => cases h
  | messageList =>
    rw [answer, answered_iff, messageList_calls_ne_nil, ← credentialRead_ok]
    exact ⟨fun hall => hall.2.1, fun hcred => ⟨adminRead_ok, hcred, q.managed, q.client_resolves⟩⟩
  | messageInfo =>
    rw [answer, answered_iff, messageInfo_calls_ne_nil, ← credentialRead_ok]
    exact ⟨fun hall => hall.2.1, fun hcred => ⟨adminRead_ok, hcred, q.managed, q.client_resolves⟩⟩
  | searchMessages =>
    have haccess : authorizeAdminSearchAccess q.ctx (some id) q.deps.idMappings q.now = .ok () := by
      rw [authorizeAdminSearchAccess, truthy_ctx]
    rw [answer, answered_iff, searchMessages_calls_ne_nil (truthy_of_ne hid), searchScope_eq,
      SearchScope.admits_scoped]
    have hmappings : q.searchDeps.idMappings = some q.mappings.toIdMappings := q.deps_mappings
    rw [hmappings]
    rw [q.deps_mappings] at haccess
    exact ⟨fun hall => hall.2.1, fun hin => ⟨haccess, hin, q.managed, q.client_resolves⟩⟩

/-! ### When they agree -/

theorem chatIds_form {chatId : String} (h : chatId ∈ q.config.chatIds) :
    isResourceId .conversation chatId = true :=
  CredentialConfig.chatIds_of_accepted q.config_accepted h

/-- The network id is none of the chats, as they are local ids. -/
theorem networkId_not_mem : q.row.networkId ∉ q.config.chatIds := by
  intro hmem
  have hform := chatIds_form hmem
  rw [(q.mappings.networkId_form _ q.row_mem).1] at hform
  exact absurd hform Bool.false_ne_true

theorem localId_ne_empty : q.row.localId ≠ "" := by
  intro hempty
  have hlen := length_of_isResourceId (q.mappings.localId_form _ q.row_mem)
  rw [hempty] at hlen
  exact absurd hlen (by decide)

/-- Both ids of the conversation give a resolving surface the same answer: whether
the credential lists the local id. -/
theorem answer_of_resolved_iff {surface : Surface} (h : surface.isRaw = false) (hid : id ∈ q.ids) :
    q.answer id surface = true ↔ q.row.localId ∈ q.config.chatIds := by
  have hnet : q.row.networkId ≠ "" := (q.mappings.networkId_form _ q.row_mem).2
  have hscoped := ConversationMappings.networkId_mem_scopedGroupIds q.row_mem
    (fun _ => chatIds_form (q := q))
  rcases List.mem_cons.1 hid with rfl | hid
  · rw [answer_of_resolved h localId_ne_empty,
      ConversationMappings.resolveGroupId_localId q.row_mem]
    exact hscoped
  · rw [List.mem_singleton.1 hid, answer_of_resolved h hnet,
      ConversationMappings.resolveGroupId_networkId q.row_mem]
    exact hscoped

end ChatQuestion

private def onlyClient : ManagedClient := ⟨"inbox_0000000000000001", "inbox", quietClient⟩

/-- A conversation and a credential for it, which may send and read. -/
def listedChat : ChatQuestion where
  config := ⟨"op_0000000000000001", ["conv_0000000000000001"], none,
    some [.send, .readMessages], none, none⟩
  config_accepted := by decide
  mappings :=
    { rows := [⟨"6c1f0a", "conv_0000000000000001"⟩]
      networkId_unique := by decide
      localId_unique := by decide
      localId_form := by decide
      networkId_form := by decide }
  row := ⟨"6c1f0a", "conv_0000000000000001"⟩
  row_mem := by decide
  record :=
    { credentialId := "cred_0000000000000001"
      operatorId := "op_0000000000000001"
      chatIds := ["conv_0000000000000001"]
      effectiveScopes := ⟨[.send, .readMessages], []⟩
      status := .active
      issuedAt := 0
      expiresAt := 1000
      issuedBy := "owner"
      isExpired := false
      lastHeartbeat := 0 }
  record_chatIds := rfl
  record_named := by decide
  may_send := by decide
  may_read := by decide
  now := 1
  event := ⟨"m1", "6c1f0a", "inbox", "text", some "hello", .visible, 1, none, none⟩
  event_current := by decide
  parseDate := fun _ => none
  reveals := none
  operator := ⟨.perChat, none⟩
  trustTier := .unverified
  adminAccess := none
  deps := ⟨[⟨"inbox_0000000000000001", none, none⟩], fun _ => some onlyClient, _⟩
  deps_mappings := rfl
  identityLabel := none
  managed := onlyClient
  client_resolves := rfl
  lookup := fun _ => .ok _
  lookup_record := rfl
  toLowerCase := id
  listInput := ⟨"", none, none, none, none⟩
  infoInput := ⟨"", "m1", none⟩
  searchInput := ⟨"hello", none, none, none⟩
  getByGroupId := fun groupId => if groupId = "6c1f0a" then some onlyClient else none
  contentType := "text"
  content := "hi"

/-- **The surfaces disagree about a chat of the credential**: under its network id
the WebSocket send is refused where `message.list` reads. -/
theorem listed_chat_disagrees : ¬ listedChat.Agrees := by
  intro h
  have hsame := h.answer_same "6c1f0a" (by decide) "6c1f0a" (by decide) .wsSend .messageList
  exact absurd hsame (by decide)

/-- **The surfaces agree on a conversation exactly if it is not one of the
credential's chats.** -/
theorem surfaces_agree_iff (q : ChatQuestion) :
    q.Agrees ↔ q.row.localId ∉ q.config.chatIds := by
  constructor
  · -- of a chat of the credential the projection drops what `message.list` reads
    intro hagrees hmem
    have hnet : q.row.networkId ∈ q.ids := List.mem_cons_of_mem _ List.mem_cons_self
    have hlist : q.answer q.row.networkId .messageList = true :=
      (ChatQuestion.answer_of_resolved_iff rfl hnet).2 hmem
    have hsame := hagrees.answer_same _ hnet _ hnet .projection .messageList
    rw [hlist] at hsame
    exact ChatQuestion.networkId_not_mem ((ChatQuestion.answer_of_raw rfl).1 hsame)
  · -- of any other conversation every surface says no
    intro hout
    have hno : ∀ id ∈ q.ids, ∀ surface, q.answer id surface = false := by
      intro id hid surface
      rw [← Bool.not_eq_true]
      intro hyes
      cases hraw : surface.isRaw with
      | false => exact hout ((ChatQuestion.answer_of_resolved_iff hraw hid).1 hyes)
      | true =>
        have hmem : id ∈ q.config.chatIds := (ChatQuestion.answer_of_raw hraw).1 hyes
        rcases List.mem_cons.1 hid with rfl | hid
        · exact hout hmem
        · rw [List.mem_singleton.1 hid] at hmem
          exact ChatQuestion.networkId_not_mem hmem
    constructor
    · intro id hid id' hid' surface surface'
      rw [hno id hid, hno id' hid']
    · intro _ id hid haccepted
      rw [hno id hid] at haccepted
      cases haccepted

end Signet
