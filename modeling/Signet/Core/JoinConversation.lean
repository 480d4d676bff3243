import Signet.Core.Client

/-!
# Joining a conversation

`joinConversation` and `registerIdentity`: create an identity and its client, ask the
creator of the invite for admission over a DM, poll until the client is in a group,
publish a profile there. The polls read the same answers again and again, so they
are numbered; `signer` and `createClient` are asked twice, by `registerIdentity` and
by the join itself, and are numbered too.

`discoverGroup` is everything before the profile message: what it calls reaches no
group (`discoverGroup_silent`).
-/

namespace Signet

open Lib

/-- `ParsedInvite`, as the join uses it. -/
structure ParsedInvite where
  creatorInboxId : String
  tag : String
  name : Option String
  isExpired : Bool
  isConversationExpired : Bool
  deriving DecidableEq

inductive InviteJoinErrorType where
  | conversationExpired
  | genericFailure
  | unknown
  deriving DecidableEq

/-- `InviteJoinError`, without its timestamp. -/
structure InviteJoinError where
  errorType : InviteJoinErrorType
  inviteTag : String
  deriving DecidableEq

def getInviteJoinErrorMessage (error : InviteJoinError) : String :=
  match error.errorType with
  | .conversationExpired => "This conversation is no longer available"
  | .genericFailure | .unknown => "Failed to join conversation"

def isInviteJoinErrorContentType (contentType : String) : Bool :=
  contentType = "inviteJoinError" || contentType = "convos.app/inviteJoinError:1.0" ||
    contentType = "convos.org/invite_join_error:1.0" || contentType = "invite_join_error"

/-- What the joiner's client answers in one poll. -/
structure PollAnswers where
  syncAll : Result Unit
  listGroups : Result (List XmtpGroupInfo)
  /-- `listMessages` of the DM. -/
  listDm : Result (List XmtpDecodedMessage)

/-- The client of the new identity, by its answers. -/
structure JoinClient where
  inboxId : String
  createDm : String → Result String
  /-- `sendMessage` to the DM. -/
  sendToDm : String → OutgoingContent → Result String
  poll : Nat → PollAnswers
  /-- `sendMessage` to the group. -/
  sendToGroup : String → OutgoingContent → Result String

/-- `OnboardingScheme`, as the conversation actions use it. -/
structure OnboardingScheme where
  parse : String → Result ParsedInvite
  verify : ParsedInvite → Result Unit
  /-- `generate(...)` of group, creator inbox, key, tag, name and description. -/
  generate : String → String → String → String → String → String → Result String
  profileUpdateContentType : String

/-- The remaining dependencies of a join. -/
structure JoinDeps where
  /-- `identityStore.create`. -/
  createIdentity : Option String → Result String
  /-- `identityStore.setInboxId`. -/
  setInboxId : String → String → Result Unit
  getDbEncryptionKey : Nat → String → Result String
  getXmtpIdentityKey : Nat → String → Result String
  /-- `privateKeyToAccount`: the address of a key. It throws for a text that is no key. -/
  privateKeyToAccount : String → Result String
  /-- `mkdirSync` of `resolveDbPath`, for the database of an identity. It throws when the directory
  cannot be made. -/
  makeDbDirectory : String → Result Unit
  createClient : Nat → String → Result JoinClient
  /-- `extractSlugForDm`: the slug in an invite URL. -/
  extractSlugForDm : String → String
  extractInviteJoinError : MessageContent → Option InviteJoinError
  /-- JavaScript's `toLowerCase`. -/
  toLowerCase : String → String

/-- `JoinConversationOptions`; the poll interval is never given. -/
structure JoinConversationOptions where
  label : Option String
  profileName : Option String
  maxPollAttempts : Option Nat
  deriving DecidableEq

structure JoinResult where
  identityId : String
  inboxId : String
  groupId : String
  inviteTag : String
  groupName : Option String
  creatorInboxId : String
  profileName : Option String
  profileApplied : Bool
  deriving DecidableEq

def defaultPollIntervalMs : Nat := 2000

def defaultMaxPollAttempts : Nat := 30

/-! ### Registration -/

/-- Make a call; if it fails, remove the identity and end with the error. -/
def callOrRemove {α : Type} (identityId : String) (c : ClientCall) (answer : Result α) :
    ActionRun α :=
  match answer with
  | .ok a => ⟨[c], .ok a⟩
  | .error e => ⟨[c, .removeIdentity identityId], .error e⟩

/-- An answer that is no call; if it fails, remove the identity and end with the error. -/
def orRemove {α : Type} (identityId : String) (answer : Result α) : ActionRun α :=
  match answer with
  | .ok a => .ok a
  | .error e => ⟨[.removeIdentity identityId], .error e⟩

/-- `registerIdentity`: the identity and its inbox. An exception, which the surfaces report as an
error, ends it without removing the identity. -/
def registerIdentity (deps : JoinDeps) (label : Option String) :
    ActionRun (String × String) := do
  let identityId ← .call (.createIdentity label) (deps.createIdentity label)
  let _ ← orRemove identityId (deps.getDbEncryptionKey 0 identityId)
  let identityKey ← orRemove identityId (deps.getXmtpIdentityKey 0 identityId)
  let _ ← .ofExcept (deps.privateKeyToAccount identityKey)
  .ofExcept (deps.makeDbDirectory identityId)
  let client ← orRemove identityId (deps.createClient 0 identityId)
  callOrRemove identityId (.setInboxId identityId client.inboxId)
    ((deps.setInboxId identityId client.inboxId).mapError fun _ =>
      .internalError "Failed to persist inbox ID")
  .ok (identityId, client.inboxId)

/-! ### Discovery -/

def findInviteJoinErrorReply (deps : JoinDeps) (messages : List XmtpDecodedMessage)
    (creatorInboxId inviteTag : String) : Option String :=
  messages.findSome? fun message =>
    if deps.toLowerCase message.senderInboxId ≠ deps.toLowerCase creatorInboxId then none
    else if !isInviteJoinErrorContentType message.contentType then none
    else
      match deps.extractInviteJoinError message.content with
      | none => none
      | some error =>
        if error.inviteTag ≠ inviteTag then none else some (getInviteJoinErrorMessage error)

/-- The query for replies of the host. -/
def rejectionOptions : ListMessagesOptions := ⟨some 20, none, none, some .descending⟩

/-- The polls from `attempt` on, `remaining` of them: the first group the client is
in, or an error that removes the identity. -/
def pollForGroup (deps : JoinDeps) (client : JoinClient) (invite : ParsedInvite)
    (identityId dmId : String) (totalMs : Nat) : Nat → Nat → ActionRun XmtpGroupInfo
  | _, 0 => orRemove identityId (.error (.timeoutError "joinConversation" totalMs))
  | attempt, remaining + 1 => do
    let _ ← callOrRemove identityId .syncAll (client.poll attempt).syncAll
    let groups ← callOrRemove identityId .listGroups (client.poll attempt).listGroups
    match groups.head? with
    | some group => .ok group
    | none => do
      let replies ← .attempt (.listMessages dmId rejectionOptions) (client.poll attempt).listDm
      match replies with
      | .error _ =>
        pollForGroup deps client invite identityId dmId totalMs (attempt + 1) remaining
      | .ok messages =>
        match findInviteJoinErrorReply deps messages invite.creatorInboxId invite.tag with
        | some message => orRemove identityId (.error (.validationError "inviteUrl" message))
        | none => pollForGroup deps client invite identityId dmId totalMs (attempt + 1) remaining

/-- What is known when the group has been found. -/
structure DiscoveredGroup where
  identityId : String
  inboxId : String
  client : JoinClient
  invite : ParsedInvite
  group : XmtpGroupInfo

/-- `joinConversation` up to the group. -/
def discoverGroup (scheme : OnboardingScheme) (deps : JoinDeps) (inviteUrl : String)
    (options : JoinConversationOptions) : ActionRun DiscoveredGroup := do
  let invite ← .ofExcept (scheme.parse inviteUrl)
  .ofExcept (scheme.verify invite)
  if invite.isExpired then .fail (.validationError "inviteUrl" "Invite has expired")
  else if invite.isConversationExpired then
    .fail (.validationError "inviteUrl" "Conversation has expired")
  else do
    let registered ← registerIdentity deps options.label
    let identityId := registered.1
    let _ ← orRemove identityId (deps.getDbEncryptionKey 1 identityId)
    let _ ← orRemove identityId (deps.getXmtpIdentityKey 1 identityId)
    let client ← orRemove identityId (deps.createClient 1 identityId)
    let dmId ← callOrRemove identityId (.createDm invite.creatorInboxId)
      (client.createDm invite.creatorInboxId)
    let slug := deps.extractSlugForDm inviteUrl
    let request := OutgoingContent.joinRequest slug options.profileName "agent"
    let _ ← callOrRemove identityId (.sendDm dmId request) (client.sendToDm dmId request)
    -- the plain text fallback may fail
    let _ ← .attempt (.sendDm dmId (.text slug)) (client.sendToDm dmId (.text slug))
    let attempts := options.maxPollAttempts.getD defaultMaxPollAttempts
    let group ← pollForGroup deps client invite identityId dmId (attempts * defaultPollIntervalMs)
      0 attempts
    .ok ⟨identityId, registered.2, client, invite, group⟩

/-- `joinConversation`: discover the group and publish the profile there. -/
def joinConversation (scheme : OnboardingScheme) (deps : JoinDeps) (inviteUrl : String)
    (options : JoinConversationOptions) : ActionRun JoinResult := do
  let found ← discoverGroup scheme deps inviteUrl options
  let profile := OutgoingContent.profileUpdate options.profileName "agent"
  let sent ← .attempt
    (.sendMessage found.group.groupId profile (some scheme.profileUpdateContentType))
    (found.client.sendToGroup found.group.groupId profile)
  .ok
    { identityId := found.identityId
      inboxId := found.inboxId
      groupId := found.group.groupId
      inviteTag := found.invite.tag
      groupName := if found.group.name ≠ "" then some found.group.name else found.invite.name
      creatorInboxId := found.invite.creatorInboxId
      profileName := options.profileName
      profileApplied := sent.isOk }

/-! ### Discovery reaches no group -/

theorem callOrRemove_silent {α : Type} {identityId : String} {c : ClientCall} {answer : Result α}
    (hc : c.groupEffect? = none) : Silent (callOrRemove identityId c answer) := by
  unfold callOrRemove
  cases answer with
  | ok a => simpa [Silent, Logged.AllCalls] using hc
  | error e => simpa [Silent, Logged.AllCalls, ClientCall.groupEffect?] using hc

theorem orRemove_silent {α : Type} {identityId : String} {answer : Result α} :
    Silent (orRemove identityId answer) := by
  unfold orRemove
  cases answer with
  | ok a => exact Logged.AllCalls.ok a
  | error e => simp [Silent, Logged.AllCalls, ClientCall.groupEffect?]

theorem registerIdentity_silent {deps : JoinDeps} {label : Option String} :
    Silent (registerIdentity deps label) := by
  refine Logged.AllCalls.bind (Logged.allCalls_call.2 rfl) fun identityId _ => ?_
  refine Logged.AllCalls.bind orRemove_silent fun _ _ => ?_
  refine Logged.AllCalls.bind orRemove_silent fun _ _ => ?_
  refine Logged.AllCalls.bind (Logged.AllCalls.ofExcept _) fun _ _ => ?_
  refine Logged.AllCalls.bind (Logged.AllCalls.ofExcept _) fun _ _ => ?_
  refine Logged.AllCalls.bind orRemove_silent fun client _ => ?_
  exact Logged.AllCalls.bind (callOrRemove_silent rfl) fun _ _ => Logged.AllCalls.ok _

theorem pollForGroup_silent {deps : JoinDeps} {client : JoinClient} {invite : ParsedInvite}
    {identityId dmId : String} {totalMs : Nat} (remaining : Nat) :
    ∀ attempt, Silent
      (pollForGroup deps client invite identityId dmId totalMs attempt remaining) := by
  induction remaining with
  | zero => exact fun _ => orRemove_silent
  | succ remaining ih =>
    intro attempt
    refine Logged.AllCalls.bind (callOrRemove_silent rfl) fun _ _ => ?_
    refine Logged.AllCalls.bind (callOrRemove_silent rfl) fun groups _ => ?_
    split
    · exact Logged.AllCalls.ok _
    · -- no group yet: the replies are read and the next poll follows
      refine Logged.AllCalls.bind (Logged.allCalls_attempt.2 rfl) fun replies _ => ?_
      split
      · exact ih _
      · split
        · exact orRemove_silent
        · exact ih _

/-- **Up to the group a join reaches no group.** -/
theorem discoverGroup_silent {scheme : OnboardingScheme} {deps : JoinDeps} {inviteUrl : String}
    {options : JoinConversationOptions} : Silent (discoverGroup scheme deps inviteUrl options) := by
  refine Logged.AllCalls.bind (Logged.AllCalls.ofExcept _) fun invite _ => ?_
  refine Logged.AllCalls.bind (Logged.AllCalls.ofExcept _) fun _ _ => ?_
  split
  · exact Logged.AllCalls.fail _
  · split
    · exact Logged.AllCalls.fail _
    · refine Logged.AllCalls.bind registerIdentity_silent fun registered _ => ?_
      refine Logged.AllCalls.bind orRemove_silent fun _ _ => ?_
      refine Logged.AllCalls.bind orRemove_silent fun _ _ => ?_
      refine Logged.AllCalls.bind orRemove_silent fun client _ => ?_
      refine Logged.AllCalls.bind (callOrRemove_silent rfl) fun dmId _ => ?_
      refine Logged.AllCalls.bind (callOrRemove_silent rfl) fun _ _ => ?_
      refine Logged.AllCalls.bind (Logged.allCalls_attempt.2 rfl) fun _ _ => ?_
      exact Logged.AllCalls.bind (pollForGroup_silent _ _) fun _ _ => Logged.AllCalls.ok _

end Signet
