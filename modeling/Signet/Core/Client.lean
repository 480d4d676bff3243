import Signet.Core.IdMappings
import Signet.Lib.Logged
import Signet.Schemas.Credential
import Signet.Schemas.Event

/-!
# XMTP clients and action handlers

What the action handlers work with: the managed clients, the identity store and the
handler context. A handler is a `Logged` computation over `ClientCall`: it makes
calls on an XMTP client, or on the signet's own stores, and ends in a value or an
error. A client is given by its answers; a handler makes no call twice with the
same arguments except for the polls of a join, which are numbered
(`Core.ConversationActions`).

`ClientCall.groupEffect?` says which calls reach a group of the network, and which
scopes are needed for what they do there.
-/

namespace Signet

open Lib

/-! ### Values of the client -/

structure XmtpDecodedMessage where
  messageId : String
  groupId : String
  senderInboxId : String
  contentType : String
  content : MessageContent
  /-- `typeof content === "string"`. -/
  isText : Bool
  sentAt : String
  threadId : Option String
  deriving DecidableEq

structure XmtpGroupInfo where
  groupId : String
  name : String
  description : String
  imageUrl : Option String
  memberInboxIds : List String
  createdAt : String
  deriving DecidableEq

/-- The direction of a query. -/
inductive SortDirection where
  | ascending
  | descending
  deriving DecidableEq

structure ListMessagesOptions where
  limit : Option Rat
  before : Option String
  after : Option String
  direction : Option SortDirection
  deriving DecidableEq

/-- What the handlers hand to `sendMessage`. -/
inductive OutgoingContent where
  | text (text : String)
  | reply (text reference : String)
  | reaction (reference action content schema : String)
  | readReceipt
  /-- `encodeProfileUpdate` of a profile. -/
  | profileUpdate (name : Option String) (memberKind : String)
  /-- `JoinRequestContent`. -/
  | joinRequest (inviteSlug : String) (name : Option String) (memberKind : String)
  /-- The content of a WebSocket request, as it came. -/
  | raw (content : MessageContent)
  deriving DecidableEq

/-- The changes of `updateGroupMetadata`. -/
structure GroupMetadataChanges where
  name : Option String
  description : Option String
  imageUrl : Option String
  deriving DecidableEq

structure XmtpClient where
  inboxId : String
  sendMessage : String → OutgoingContent → Option String → Result String
  listMessages : String → ListMessagesOptions → Result (List XmtpDecodedMessage)
  getMessageById : String → Result (Option XmtpDecodedMessage)
  listGroups : Result (List XmtpGroupInfo)
  createGroup : List String → Option String → Result XmtpGroupInfo
  addMembers : String → List String → Result Unit
  removeMembers : String → List String → Result Unit
  updateGroupMetadata : String → GroupMetadataChanges → Result XmtpGroupInfo
  leaveGroup : String → Result Unit
  addAdmin : String → String → Result Unit
  removeAdmin : String → String → Result Unit

/-- `ManagedClient`, without the set of groups it serves. -/
structure ManagedClient where
  identityId : String
  inboxId : String
  client : XmtpClient

/-! ### Calls -/

/-- A call of a handler that is not a plain lookup. -/
inductive ClientCall where
  | sendMessage (groupId : String) (content : OutgoingContent) (contentType : Option String)
  | listMessages (groupId : String) (options : ListMessagesOptions)
  | getMessageById (messageId : String)
  | listGroups
  | createGroup (memberInboxIds : List String) (name : Option String)
  | addMembers (groupId : String) (inboxIds : List String)
  | removeMembers (groupId : String) (inboxIds : List String)
  | updateGroupMetadata (groupId : String) (changes : GroupMetadataChanges)
  | leaveGroup (groupId : String)
  | addAdmin (groupId inboxId : String)
  | removeAdmin (groupId inboxId : String)
  /-- `createDm`, and `sendMessage` and `sendDmMessage` to the DM. -/
  | createDm (peerInboxId : String)
  | sendDm (dmId : String) (content : OutgoingContent)
  | syncAll
  /-- `idMappings.set`. -/
  | setMapping (networkId localId : String)
  | storeInviteTag (groupId inviteTag : String)
  | cleanupLocalState (groupId : String) (execute : Bool)
  /-- `create`, `setInboxId` and `remove` of the identity store. -/
  | createIdentity (label : Option String)
  | setInboxId (identityId inboxId : String)
  | removeIdentity (identityId : String)
  | attachManagedIdentity (identityId : String)
  deriving DecidableEq

/-- The scope for a message of the kind. -/
def OutgoingContent.scope : OutgoingContent → PermissionScope
  | .text _ | .profileUpdate _ _ | .joinRequest _ _ _ | .raw _ => .send
  | .reply _ _ => .reply
  | .reaction _ _ _ _ => .react
  | .readReceipt => .readReceipt

/-- The scopes for a change of the metadata: one for each field that is changed. -/
def GroupMetadataChanges.scopes (changes : GroupMetadataChanges) : List PermissionScope :=
  (if changes.name.isSome then [.updateName] else []) ++
    (if changes.description.isSome then [.updateDescription] else []) ++
    (if changes.imageUrl.isSome then [.updateImage] else [])

/-- The group a call sends to or changes, with the scopes for what it does there.
Reads, direct messages and the signet's own stores reach no group, and a new group
is no group yet. -/
def ClientCall.groupEffect? : ClientCall → Option (String × List PermissionScope)
  | .sendMessage groupId content _ => some (groupId, [content.scope])
  | .addMembers groupId _ => some (groupId, [.addMember])
  | .removeMembers groupId _ => some (groupId, [.removeMember])
  | .updateGroupMetadata groupId changes => some (groupId, changes.scopes)
  | .leaveGroup groupId => some (groupId, [.leave])
  | .addAdmin groupId _ => some (groupId, [.promoteAdmin])
  | .removeAdmin groupId _ => some (groupId, [.demoteAdmin])
  | _ => none

/-- A handler that has been run. -/
abbrev ActionRun (α : Type) := Logged ClientCall SignetError α

/-- Where the call reaches a group, `allowed` admits the group and the scopes. -/
def ClientCall.Within (allowed : String → List PermissionScope → Prop) (c : ClientCall) : Prop :=
  ∀ groupId scopes, c.groupEffect? = some (groupId, scopes) → allowed groupId scopes

/-- The run reaches no group. -/
abbrev Silent {α : Type} (run : ActionRun α) : Prop :=
  run.AllCalls fun c => c.groupEffect? = none

theorem Silent.within {α : Type} {run : ActionRun α} (h : Silent run)
    (allowed : String → List PermissionScope → Prop) : run.AllCalls (·.Within allowed) := by
  refine h.mono fun c hc groupId scopes heff => ?_
  rw [hc] at heff
  cases heff

/-- A call that reaches a group stays within `allowed` exactly if the group and the
scopes are allowed. -/
theorem ClientCall.within_iff {allowed : String → List PermissionScope → Prop} {c : ClientCall}
    {groupId : String} {scopes : List PermissionScope}
    (h : c.groupEffect? = some (groupId, scopes)) : c.Within allowed ↔ allowed groupId scopes := by
  constructor
  · exact fun hwithin => hwithin groupId scopes h
  · intro hallowed groupId' scopes' h'
    rw [h] at h'
    cases h'
    exact hallowed

/-! ### Context and stores -/

/-- `AdminReadElevationType`; `expiresAt` is kept as the string that is parsed. -/
structure AdminReadElevation where
  approvalId : String
  /-- `scope.chatIds`. -/
  chatIds : List String
  approvedAt : Time
  expiresAt : Time
  approvalKeyFingerprint : String
  deriving DecidableEq

/-- `HandlerContext`, without the signet id, the signer and the request id. -/
structure HandlerContext where
  /-- `adminAuth.adminKeyFingerprint`. -/
  adminAuth : Option String
  credentialId : Option String
  adminReadElevation : Option AdminReadElevation
  deriving DecidableEq

/-- A string that JavaScript takes for true: there and not empty. -/
def truthy (value : Option String) : Option String :=
  value.filter (· ≠ "")

/-- `AgentIdentity`, as the handlers use it. -/
structure AgentIdentity where
  id : String
  inboxId : Option String
  label : Option String
  deriving DecidableEq

/-- The dependencies that all action factories share: the identities in the order
of `list()`, the clients by identity and the id mapping. -/
structure ActionDeps where
  identities : List AgentIdentity
  getManagedClient : String → Option ManagedClient
  idMappings : Option IdMappings

namespace ActionDeps

/-- `resolveIdentity`: by label, or the first identity without one. -/
def resolveIdentity (deps : ActionDeps) (label : Option String) : Result String :=
  match truthy label with
  | some label =>
    match deps.identities.find? (·.label = some label) with
    | none => .error (.notFoundError "identity" label)
    | some identity => .ok identity.id
  | none =>
    match deps.identities.head? with
    | none => .error (.notFoundError "identity" "(none)")
    | some first => .ok first.id

def clientOf (deps : ActionDeps) (identityId : String) : Result ManagedClient :=
  match deps.getManagedClient identityId with
  | none => .error (.notFoundError "managed-client" identityId)
  | some managed => .ok managed

/-- The managed client of the identity of a label, as most handlers resolve it. -/
def resolveClient (deps : ActionDeps) (label : Option String) : Result ManagedClient :=
  match deps.resolveIdentity label with
  | .error e => .error e
  | .ok identityId => deps.clientOf identityId

/-- A resolved client is the managed client of an identity. -/
theorem getManagedClient_of_resolveClient {deps : ActionDeps} {label : Option String}
    {managed : ManagedClient} (h : deps.resolveClient label = .ok managed) :
    ∃ identityId, deps.getManagedClient identityId = some managed := by
  unfold resolveClient at h
  split at h
  · cases h
  · next identityId _ =>
    unfold clientOf at h
    split at h
    · cases h
    -- what is resolved is a client of the registry
    · next hmanaged =>
      cases h
      exact ⟨identityId, hmanaged⟩

end ActionDeps

/-- `resolveEffectiveScopes`: the inline computation of the read handlers. -/
def resolveEffectiveScopes (config : ScopeSet) : List PermissionScope :=
  config.allow.filter fun scope => scope ∉ config.deny

@[simp] theorem mem_resolveEffectiveScopes {config : ScopeSet} {scope : PermissionScope} :
    scope ∈ resolveEffectiveScopes config ↔ scope ∈ resolveScopeSet config := by
  simp [resolveEffectiveScopes]

/-! ### Clients as handlers use them -/

namespace ManagedClient

/-- `managed.client.sendMessage`. -/
def send (managed : ManagedClient) (groupId : String) (content : OutgoingContent)
    (contentType : Option String) : ActionRun String :=
  .call (.sendMessage groupId content contentType)
    (managed.client.sendMessage groupId content contentType)

/-- `managed.client.listMessages`. -/
def list (managed : ManagedClient) (groupId : String) (options : ListMessagesOptions) :
    ActionRun (List XmtpDecodedMessage) :=
  .call (.listMessages groupId options) (managed.client.listMessages groupId options)

end ManagedClient

/-- A client that does what it is told and has nothing to show. -/
def quietClient : XmtpClient where
  inboxId := "inbox"
  sendMessage _ _ _ := .ok "m1"
  listMessages _ _ := .ok []
  getMessageById _ := .ok none
  listGroups := .ok []
  createGroup members name := .ok ⟨"g1", name.getD "", "", none, members, ""⟩
  addMembers _ _ := .ok ()
  removeMembers _ _ := .ok ()
  updateGroupMetadata groupId changes :=
    .ok ⟨groupId, changes.name.getD "", changes.description.getD "", changes.imageUrl, [], ""⟩
  leaveGroup _ := .ok ()
  addAdmin _ _ := .ok ()
  removeAdmin _ _ := .ok ()

/-- `SignetCoreContext.sendMessage`, what the WebSocket handler sends through:
`getByGroupId` is the registry's lookup, and the group id is used as it comes. -/
def coreSendMessage (getByGroupId : String → Option ManagedClient) (groupId contentType : String)
    (content : MessageContent) : ActionRun String :=
  match getByGroupId groupId with
  | none => .fail (.notFoundError "group" groupId)
  | some managed => managed.send groupId (.raw content) (some contentType)

end Signet
