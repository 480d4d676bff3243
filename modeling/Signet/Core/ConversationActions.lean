import Mathlib.Algebra.Order.Floor.Ring
import Mathlib.Data.Rat.Floor
import Signet.Core.JoinConversation

/-!
# Conversation actions

`createConversationActions`. None of the handlers takes a context: they resolve the
chat to a group, find a client, and act. `…_silent` says that a handler reaches no
group, `…_within` says when a handler that reaches one stays within given bounds: the
group is always the one its chat resolves to, or the one it has joined.

`chat.promote-member` and `chat.demote-member` take no identity label, so unlike
`chat.add-member` and `chat.remove-member` they act through the client of the group.
-/

namespace Signet

open Lib

/-- The reason of a local clean-up. -/
inductive CleanupReason where
  | rm
  | leavePurge
  deriving DecidableEq

structure CleanupResult where
  executed : Bool
  actions : List String
  deriving DecidableEq

/-- `signerProviderFactory` and `config`, where both are given. -/
structure InviteDeps where
  getXmtpIdentityKey : String → Result String

/-- `ConversationActionDeps`. The random values a request draws are given: a local id
for each group and an invite tag. -/
structure ConversationActionDeps extends ActionDeps where
  onboardingScheme : OnboardingScheme
  /-- `operatorManager.lookup`, as far as the label. -/
  operatorLabel : Option (String → Result String)
  getManagedClientForGroup : Option (String → Option ManagedClient)
  getGroupInfo : String → Result XmtpGroupInfo
  /-- `clientFactory`, `signerProviderFactory` and `config`, where all are given. -/
  join : Option JoinDeps
  invite : Option InviteDeps
  attachManagedIdentity : Option (String → Result Unit)
  /-- `storeInviteTag` is given. -/
  storesInviteTag : Bool
  cleanupLocalState : Option (String → Bool → CleanupReason → Result CleanupResult)
  newLocalId : String → String
  newInviteTag : String

/-! ### Shared steps -/

def ensureLocalId (deps : ConversationActionDeps) (groupId : String) :
    ActionRun (Option String) :=
  match deps.idMappings with
  | none => .ok none
  | some m =>
    match truthy (m.getLocal groupId) with
    | some existing => .ok (some existing)
    | none =>
      .call (.setMapping groupId (deps.newLocalId groupId)) (.ok (some (deps.newLocalId groupId)))

/-- `ProfileSelectionSource`. -/
inductive ProfileSource where
  | explicit
  | operatorDefault
  deriving DecidableEq

structure ProfileSelection where
  profileName : String
  profileSource : ProfileSource
  deriving DecidableEq

def resolveProfileSelection (deps : ConversationActionDeps)
    (operatorId profileName : Option String) :
    Result (Option ProfileSelection) :=
  match profileName, operatorId with
  | some name, _ => .ok (some ⟨name, .explicit⟩)
  | none, none => .ok none
  | none, some operatorId =>
    match deps.operatorLabel with
    | none =>
      .error (.internalError "OperatorManager not initialized before resolving profile defaults")
    | some lookup => (lookup operatorId).map fun label => some ⟨label, .operatorDefault⟩

/-- `resolveManagedClientForGroup`: by label if one is given, else the client of the
group, else the one of the first identity. -/
def resolveManagedClientForGroup (deps : ConversationActionDeps) (groupId : String)
    (identityLabel : Option String) : Result ManagedClient :=
  match identityLabel with
  | some label => deps.resolveClient (some label)
  | none =>
    match deps.getManagedClientForGroup.bind (· groupId) with
    | some managed => .ok managed
    | none => deps.resolveClient none

def runLocalCleanup (deps : ConversationActionDeps) (groupId : String) (execute : Bool)
    (reason : CleanupReason) : ActionRun CleanupResult :=
  match deps.cleanupLocalState with
  | none => .ok ⟨execute, []⟩
  | some cleanup => .call (.cleanupLocalState groupId execute) (cleanup groupId execute reason)

/-! ### Inputs and outputs -/

structure ChatCreateInput where
  memberInboxIds : List String
  name : Option String
  creatorIdentityLabel : Option String
  deriving DecidableEq

structure ChatListInput where
  identityLabel : Option String
  deriving DecidableEq

/-- The input of `chat.info` and of `chat.members`. -/
structure ChatInput where
  chatId : String
  deriving DecidableEq

structure ChatUpdateInput where
  chatId : String
  changes : GroupMetadataChanges
  deriving DecidableEq

structure ChatUpdateProfileInput where
  chatId : String
  identityLabel : Option String
  operatorId : Option String
  profileName : Option String
  deriving DecidableEq

structure ChatJoinInput where
  inviteUrl : String
  label : Option String
  operatorId : Option String
  profileName : Option String
  timeoutSeconds : Option Rat
  deriving DecidableEq

structure ChatInviteInput where
  chatId : String
  identityLabel : Option String
  name : Option String
  description : Option String
  deriving DecidableEq

/-- The input of `chat.leave`, with `purge`, and of `chat.rm`, with `force`. -/
structure ChatFlagInput where
  chatId : String
  flag : Option Bool
  deriving DecidableEq

/-- The input of the four handlers on one member; the label is given only for the
first two. -/
structure ChatMemberInput where
  chatId : String
  inboxId : String
  identityLabel : Option String
  deriving DecidableEq

/-- The outputs of the handlers. -/
inductive ConversationOutput where
  | created (chatId : Option String) (groupId name creatorInboxId : String) (memberCount : Nat)
  | groups (groups : List (XmtpGroupInfo × Option String))
  | info (chatId : String) (group : XmtpGroupInfo)
  | joined (chatId : Option String) (join : JoinResult) (profileSource : Option ProfileSource)
  | invited (inviteUrl chatId groupId groupName creatorInboxId inviteTag : String)
  | profile (chatId groupId profileName : String) (profileSource : ProfileSource)
  | left (chatId groupId : String) (cleanup : Option CleanupResult)
  | removed (chatId groupId : String) (cleanup : CleanupResult)
  | memberCount (chatId groupId : String) (memberCount : Nat)
  | role (chatId groupId inboxId role : String)
  | members (chatId groupId : String) (members : List String)
  deriving DecidableEq

/-! ### The handlers -/

section Handlers

variable (deps : ConversationActionDeps)

def chatCreate (input : ChatCreateInput) : ActionRun ConversationOutput := do
  let managed ← .ofExcept (deps.resolveClient input.creatorIdentityLabel)
  let group ← .call (.createGroup input.memberInboxIds input.name)
    (managed.client.createGroup input.memberInboxIds input.name)
  let chatId ← ensureLocalId deps group.groupId
  .ok (.created chatId group.groupId group.name managed.inboxId group.memberInboxIds.length)

/-- `groups.map(g => ({...g, chatId: ensureLocalId(g.groupId)}))`. -/
def withLocalIds : List XmtpGroupInfo → ActionRun (List (XmtpGroupInfo × Option String))
  | [] => .ok []
  | group :: groups => do
    let chatId ← ensureLocalId deps group.groupId
    let rest ← withLocalIds groups
    .ok ((group, chatId) :: rest)

def chatList (input : ChatListInput) : ActionRun ConversationOutput := do
  let managed ← .ofExcept (deps.resolveClient input.identityLabel)
  let groups ← .call .listGroups managed.client.listGroups
  let named ← withLocalIds deps groups
  .ok (.groups named)

def chatInfo (input : ChatInput) : ActionRun ConversationOutput := do
  let group ← .ofExcept (deps.getGroupInfo (resolveGroupId deps.idMappings input.chatId))
  .ok (.info input.chatId group)

/-- `Math.ceil((timeoutSeconds * 1000) / 2000)` polls. -/
def pollAttempts (timeoutSeconds : Option Rat) : Option Nat :=
  timeoutSeconds.map fun seconds => ⌈seconds * 1000 / 2000⌉.toNat

def ChatJoinInput.options (input : ChatJoinInput) (profile : Option ProfileSelection) :
    JoinConversationOptions :=
  ⟨input.label, profile.map (·.profileName), pollAttempts input.timeoutSeconds⟩

/-- `attachManagedIdentity`, if it is wired; a failure is not an error. -/
def attachIdentity (identityId : String) : ActionRun (Result Unit) :=
  match deps.attachManagedIdentity with
  | none => .ok (.ok ())
  | some attach => .attempt (.attachManagedIdentity identityId) (attach identityId)

/-- What `chat.join` does after `joinConversation`. -/
def finishJoin (profile : Option ProfileSelection) (join : JoinResult) :
    ActionRun ConversationOutput := do
  let _ ← attachIdentity deps join.identityId
  let chatId ← ensureLocalId deps join.groupId
  .ok (.joined chatId join (profile.map (·.profileSource)))

def chatJoin (input : ChatJoinInput) : ActionRun ConversationOutput :=
  match deps.join with
  | none =>
    .fail (.notFoundError "join-deps"
      "Join requires clientFactory, signerProviderFactory, and config")
  | some joinDeps => do
    let profile ← .ofExcept (resolveProfileSelection deps input.operatorId input.profileName)
    let join ← joinConversation deps.onboardingScheme joinDeps input.inviteUrl
      (input.options profile)
    finishJoin deps profile join

/-- `keyResult.value` without a leading `0x`. -/
def stripHexPrefix (key : String) : String :=
  if "0x".toList.isPrefixOf key.toList then String.ofList (key.toList.drop 2) else key

/-- `storeInviteTag`, if it is wired. -/
def keepInviteTag (groupId : String) : ActionRun Unit :=
  if deps.storesInviteTag then .call (.storeInviteTag groupId deps.newInviteTag) (.ok ())
  else .ok ()

def chatInvite (input : ChatInviteInput) : ActionRun ConversationOutput := do
  let groupId := resolveGroupId deps.idMappings input.chatId
  match deps.invite with
  | none =>
    .fail (.notFoundError "invite-deps" "Invite requires signerProviderFactory and config")
  | some inviteDeps => do
    let identityId ← .ofExcept (deps.resolveIdentity input.identityLabel)
    let managed ← .ofExcept (deps.clientOf identityId)
    let group ← .ofExcept (deps.getGroupInfo groupId)
    let key ← .ofExcept (inviteDeps.getXmtpIdentityKey identityId)
    let url ← .ofExcept (deps.onboardingScheme.generate groupId managed.inboxId
      (stripHexPrefix key) deps.newInviteTag (input.name.getD group.name)
      (input.description.getD group.description))
    keepInviteTag deps groupId
    .ok (.invited url input.chatId groupId group.name managed.inboxId deps.newInviteTag)

/-- The common body of the handlers that act on a group: resolve the client, make the
call, go on with its answer. -/
def actOnGroup {α : Type} (groupId : String) (identityLabel : Option String) (c : ClientCall)
    (answer : XmtpClient → Result α) (next : α → ActionRun ConversationOutput) :
    ActionRun ConversationOutput := do
  let managed ← .ofExcept (resolveManagedClientForGroup deps groupId identityLabel)
  let a ← .call c (answer managed.client)
  next a

/-- The answer of the handlers that report the group's number of members. -/
def countMembers (chatId groupId : String) : ActionRun ConversationOutput := do
  let group ← .ofExcept (deps.getGroupInfo groupId)
  .ok (.memberCount chatId groupId group.memberInboxIds.length)

def chatAddMember (input : ChatMemberInput) : ActionRun ConversationOutput :=
  let groupId := resolveGroupId deps.idMappings input.chatId
  actOnGroup deps groupId input.identityLabel (.addMembers groupId [input.inboxId])
    (·.addMembers groupId [input.inboxId]) fun _ => countMembers deps input.chatId groupId

def chatRemoveMember (input : ChatMemberInput) : ActionRun ConversationOutput :=
  let groupId := resolveGroupId deps.idMappings input.chatId
  actOnGroup deps groupId input.identityLabel (.removeMembers groupId [input.inboxId])
    (·.removeMembers groupId [input.inboxId]) fun _ => countMembers deps input.chatId groupId

def chatPromoteMember (input : ChatMemberInput) : ActionRun ConversationOutput :=
  let groupId := resolveGroupId deps.idMappings input.chatId
  actOnGroup deps groupId none (.addAdmin groupId input.inboxId)
    (·.addAdmin groupId input.inboxId) fun _ =>
      .ok (.role input.chatId groupId input.inboxId "admin")

def chatDemoteMember (input : ChatMemberInput) : ActionRun ConversationOutput :=
  let groupId := resolveGroupId deps.idMappings input.chatId
  actOnGroup deps groupId none (.removeAdmin groupId input.inboxId)
    (·.removeAdmin groupId input.inboxId) fun _ =>
      .ok (.role input.chatId groupId input.inboxId "member")

def chatUpdate (input : ChatUpdateInput) : ActionRun ConversationOutput :=
  let groupId := resolveGroupId deps.idMappings input.chatId
  actOnGroup deps groupId none (.updateGroupMetadata groupId input.changes)
    (·.updateGroupMetadata groupId input.changes) fun _ => do
      let group ← .ofExcept (deps.getGroupInfo groupId)
      .ok (.info input.chatId group)

def chatLeave (input : ChatFlagInput) : ActionRun ConversationOutput :=
  let groupId := resolveGroupId deps.idMappings input.chatId
  actOnGroup deps groupId none (.leaveGroup groupId) (·.leaveGroup groupId) fun _ =>
    if input.flag = some true then do
      let cleanup ← runLocalCleanup deps groupId true .leavePurge
      .ok (.left input.chatId groupId (some cleanup))
    else .ok (.left input.chatId groupId none)

/-- What `chat.update-profile` has settled before it sends: a client, then a name. -/
def resolveProfileUpdate (input : ChatUpdateProfileInput) :
    Result (ManagedClient × ProfileSelection) :=
  match resolveManagedClientForGroup deps (resolveGroupId deps.idMappings input.chatId)
      input.identityLabel with
  | .error e => .error e
  | .ok managed =>
    match resolveProfileSelection deps input.operatorId input.profileName with
    | .error e => .error e
    | .ok none =>
      .error (.validationError "profileName" "A profile name or operator default is required")
    | .ok (some profile) => .ok (managed, profile)

def chatUpdateProfile (input : ChatUpdateProfileInput) : ActionRun ConversationOutput := do
  let groupId := resolveGroupId deps.idMappings input.chatId
  let (managed, profile) ← .ofExcept (resolveProfileUpdate deps input)
  let _ ← managed.send groupId (.profileUpdate (some profile.profileName) "agent")
    (some deps.onboardingScheme.profileUpdateContentType)
  .ok (.profile input.chatId groupId profile.profileName profile.profileSource)

def chatRm (input : ChatFlagInput) : ActionRun ConversationOutput := do
  let groupId := resolveGroupId deps.idMappings input.chatId
  let cleanup ← runLocalCleanup deps groupId (input.flag = some true) .rm
  .ok (.removed input.chatId groupId cleanup)

def chatMembers (input : ChatInput) : ActionRun ConversationOutput := do
  let groupId := resolveGroupId deps.idMappings input.chatId
  let group ← .ofExcept (deps.getGroupInfo groupId)
  .ok (.members input.chatId groupId group.memberInboxIds)

end Handlers

/-! ### Handlers that reach no group -/

section Silent

variable {deps : ConversationActionDeps}

theorem ensureLocalId_silent {groupId : String} : Silent (ensureLocalId deps groupId) := by
  unfold ensureLocalId
  split
  · exact Logged.AllCalls.ok _
  · split
    · exact Logged.AllCalls.ok _
    · exact Logged.allCalls_call.2 rfl

theorem runLocalCleanup_silent {groupId : String} {execute : Bool} {reason : CleanupReason} :
    Silent (runLocalCleanup deps groupId execute reason) := by
  unfold runLocalCleanup
  split
  · exact Logged.AllCalls.ok _
  · exact Logged.allCalls_call.2 rfl

theorem withLocalIds_silent {groups : List XmtpGroupInfo} : Silent (withLocalIds deps groups) := by
  induction groups with
  | nil => exact Logged.AllCalls.ok _
  | cons group groups ih =>
    refine Logged.AllCalls.bind ensureLocalId_silent fun _ _ => ?_
    exact Logged.AllCalls.bind ih fun _ _ => Logged.AllCalls.ok _

theorem chatCreate_silent {input : ChatCreateInput} : Silent (chatCreate deps input) := by
  refine Logged.AllCalls.bind (Logged.AllCalls.ofExcept _) fun managed _ => ?_
  refine Logged.AllCalls.bind (Logged.allCalls_call.2 rfl) fun group _ => ?_
  exact Logged.AllCalls.bind ensureLocalId_silent fun _ _ => Logged.AllCalls.ok _

theorem chatList_silent {input : ChatListInput} : Silent (chatList deps input) := by
  refine Logged.AllCalls.bind (Logged.AllCalls.ofExcept _) fun managed _ => ?_
  refine Logged.AllCalls.bind (Logged.allCalls_call.2 rfl) fun groups _ => ?_
  exact Logged.AllCalls.bind withLocalIds_silent fun _ _ => Logged.AllCalls.ok _

theorem chatInfo_silent {input : ChatInput} : Silent (chatInfo deps input) :=
  Logged.AllCalls.bind (Logged.AllCalls.ofExcept _) fun _ _ => Logged.AllCalls.ok _

theorem chatMembers_silent {input : ChatInput} : Silent (chatMembers deps input) :=
  Logged.AllCalls.bind (Logged.AllCalls.ofExcept _) fun _ _ => Logged.AllCalls.ok _

theorem chatRm_silent {input : ChatFlagInput} : Silent (chatRm deps input) :=
  Logged.AllCalls.bind runLocalCleanup_silent fun _ _ => Logged.AllCalls.ok _

theorem countMembers_silent {chatId groupId : String} :
    Silent (countMembers deps chatId groupId) :=
  Logged.AllCalls.bind (Logged.AllCalls.ofExcept _) fun _ _ => Logged.AllCalls.ok _

theorem finishJoin_silent {profile : Option ProfileSelection} (join : JoinResult) :
    Silent (finishJoin deps profile join) := by
  refine Logged.AllCalls.bind ?_ fun _ _ => ?_
  · unfold attachIdentity
    split
    · exact Logged.AllCalls.ok _
    · exact Logged.allCalls_attempt.2 rfl
  · exact Logged.AllCalls.bind ensureLocalId_silent fun _ _ => Logged.AllCalls.ok _

/-- The invite tag is kept by the signet itself. -/
theorem chatInvite_silent {input : ChatInviteInput} : Silent (chatInvite deps input) := by
  unfold chatInvite
  dsimp only
  split
  · exact Logged.AllCalls.fail _
  · refine Logged.AllCalls.bind (Logged.AllCalls.ofExcept _) fun identityId _ => ?_
    refine Logged.AllCalls.bind (Logged.AllCalls.ofExcept _) fun managed _ => ?_
    refine Logged.AllCalls.bind (Logged.AllCalls.ofExcept _) fun group _ => ?_
    refine Logged.AllCalls.bind (Logged.AllCalls.ofExcept _) fun key _ => ?_
    refine Logged.AllCalls.bind (Logged.AllCalls.ofExcept _) fun url _ => ?_
    -- what is asked is free; at the end the tag is kept by the signet itself
    refine Logged.AllCalls.bind ?_ fun _ _ => Logged.AllCalls.ok _
    unfold keepInviteTag
    split
    · exact Logged.allCalls_call.2 rfl
    · exact Logged.AllCalls.ok _

end Silent

/-! ### Handlers that reach a group -/

section Within

variable {deps : ConversationActionDeps} {allowed : String → List PermissionScope → Prop}

/-- **A handler that acts on a group** stays within bounds exactly if it finds no
client or what it does there is within them. -/
theorem actOnGroup_within {α : Type} {groupId : String} {identityLabel : Option String}
    {c : ClientCall} {scopes : List PermissionScope} {answer : XmtpClient → Result α}
    {next : α → ActionRun ConversationOutput} (hc : c.groupEffect? = some (groupId, scopes))
    (hnext : ∀ a, Silent (next a)) :
    (actOnGroup deps groupId identityLabel c answer next).AllCalls (·.Within allowed) ↔
      ∀ managed, resolveManagedClientForGroup deps groupId identityLabel = .ok managed →
        allowed groupId scopes := by
  unfold actOnGroup
  rw [Logged.allCalls_bind_of_silent (Logged.calls_ofExcept _)]
  refine forall_congr' fun managed => imp_congr Iff.rfl ?_
  -- only the call on the group is left, what follows is silent
  rw [Logged.allCalls_bind_of_tail fun a => (hnext a).within allowed, Logged.allCalls_call]
  exact ClientCall.within_iff hc

theorem chatAddMember_within {input : ChatMemberInput} :
    (chatAddMember deps input).AllCalls (·.Within allowed) ↔
      ∀ managed, resolveManagedClientForGroup deps (resolveGroupId deps.idMappings input.chatId)
          input.identityLabel = .ok managed →
        allowed (resolveGroupId deps.idMappings input.chatId) [.addMember] :=
  actOnGroup_within rfl fun _ => countMembers_silent

theorem chatRemoveMember_within {input : ChatMemberInput} :
    (chatRemoveMember deps input).AllCalls (·.Within allowed) ↔
      ∀ managed, resolveManagedClientForGroup deps (resolveGroupId deps.idMappings input.chatId)
          input.identityLabel = .ok managed →
        allowed (resolveGroupId deps.idMappings input.chatId) [.removeMember] :=
  actOnGroup_within rfl fun _ => countMembers_silent

theorem chatPromoteMember_within {input : ChatMemberInput} :
    (chatPromoteMember deps input).AllCalls (·.Within allowed) ↔
      ∀ managed, resolveManagedClientForGroup deps (resolveGroupId deps.idMappings input.chatId)
          none = .ok managed →
        allowed (resolveGroupId deps.idMappings input.chatId) [.promoteAdmin] :=
  actOnGroup_within rfl fun _ => Logged.AllCalls.ok _

theorem chatDemoteMember_within {input : ChatMemberInput} :
    (chatDemoteMember deps input).AllCalls (·.Within allowed) ↔
      ∀ managed, resolveManagedClientForGroup deps (resolveGroupId deps.idMappings input.chatId)
          none = .ok managed →
        allowed (resolveGroupId deps.idMappings input.chatId) [.demoteAdmin] :=
  actOnGroup_within rfl fun _ => Logged.AllCalls.ok _

theorem chatUpdate_within {input : ChatUpdateInput} :
    (chatUpdate deps input).AllCalls (·.Within allowed) ↔
      ∀ managed, resolveManagedClientForGroup deps (resolveGroupId deps.idMappings input.chatId)
          none = .ok managed →
        allowed (resolveGroupId deps.idMappings input.chatId) input.changes.scopes :=
  actOnGroup_within rfl fun _ =>
    Logged.AllCalls.bind (Logged.AllCalls.ofExcept _) fun _ _ => Logged.AllCalls.ok _

theorem chatLeave_within {input : ChatFlagInput} :
    (chatLeave deps input).AllCalls (·.Within allowed) ↔
      ∀ managed, resolveManagedClientForGroup deps (resolveGroupId deps.idMappings input.chatId)
          none = .ok managed →
        allowed (resolveGroupId deps.idMappings input.chatId) [.leave] := by
  refine actOnGroup_within rfl fun _ => ?_
  -- a purge cleans up the signet's own state only
  split
  · exact Logged.AllCalls.bind runLocalCleanup_silent fun _ _ => Logged.AllCalls.ok _
  · exact Logged.AllCalls.ok _

theorem chatUpdateProfile_within {input : ChatUpdateProfileInput} :
    (chatUpdateProfile deps input).AllCalls (·.Within allowed) ↔
      ∀ settled, resolveProfileUpdate deps input = .ok settled →
        allowed (resolveGroupId deps.idMappings input.chatId) [.send] := by
  unfold chatUpdateProfile
  rw [Logged.allCalls_bind_of_silent (Logged.calls_ofExcept _)]
  refine forall_congr' fun settled => imp_congr Iff.rfl ?_
  rw [Logged.allCalls_bind_of_tail fun a => Logged.AllCalls.ok _]
  exact Logged.allCalls_call.trans (ClientCall.within_iff rfl)

/-- **A join** reaches exactly the group it has found. -/
theorem joinConversation_within {scheme : OnboardingScheme} {joinDeps : JoinDeps}
    {inviteUrl : String} {options : JoinConversationOptions} :
    (joinConversation scheme joinDeps inviteUrl options).AllCalls (·.Within allowed) ↔
      ∀ found, (discoverGroup scheme joinDeps inviteUrl options).value = .ok found →
        allowed found.group.groupId [.send] := by
  constructor
  · intro h found hfound
    -- the profile message is a call of the join
    refine h (.sendMessage found.group.groupId (.profileUpdate options.profileName "agent")
      (some scheme.profileUpdateContentType)) ?_ _ _ rfl
    unfold joinConversation
    rw [Logged.calls_bind_of_ok hfound, List.mem_append, Logged.calls_bind]
    exact .inr List.mem_cons_self
  · intro h
    refine Logged.AllCalls.bind (discoverGroup_silent.within allowed) fun found hfound => ?_
    refine Logged.AllCalls.bind (Logged.allCalls_attempt.2 ?_) fun _ _ => Logged.AllCalls.ok _
    exact (ClientCall.within_iff rfl).2 (h found hfound)

theorem chatJoin_within {input : ChatJoinInput} :
    (chatJoin deps input).AllCalls (·.Within allowed) ↔
      ∀ joinDeps profile found, deps.join = some joinDeps →
        resolveProfileSelection deps input.operatorId input.profileName = .ok profile →
        (discoverGroup deps.onboardingScheme joinDeps input.inviteUrl
          (input.options profile)).value = .ok found →
        allowed found.group.groupId [.send] := by
  unfold chatJoin
  cases hjoin : deps.join with
  | none =>
    exact ⟨fun _ _ _ _ h => absurd h nofun, fun _ => Logged.AllCalls.fail _⟩
  | some joinDeps =>
    dsimp only
    rw [Logged.allCalls_bind_of_silent (Logged.calls_ofExcept _)]
    constructor
    · intro h joinDeps' profile found hdeps hprofile hfound
      cases hdeps
      -- finishing a join calls nothing outside, so the calls are those of the join
      have hjoined := (Logged.allCalls_bind_of_tail
        fun join => (finishJoin_silent join).within allowed).1 (h profile hprofile)
      exact joinConversation_within.1 hjoined found hfound
    · intro h profile hprofile
      refine (Logged.allCalls_bind_of_tail
        fun join => (finishJoin_silent join).within allowed).2 ?_
      exact joinConversation_within.2 fun found hfound =>
        h joinDeps profile found rfl hprofile hfound

end Within

end Signet
