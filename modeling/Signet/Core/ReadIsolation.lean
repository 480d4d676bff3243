import Signet.Core.SdkMessages
import Signet.Core.SearchActions

/-!
# Isolation of credential reads

Two states are compared that agree on the chats of a credential: on what the SDK answers about
their conversations and messages, and on the ids that name them. Whatever a request made with the
credential is answered, it is the same in both but for one thing, the calls of the SDK that are not
about one chat: a search without a chat lists all groups and fails with the first that fails, and
`message.info` looks its message up before it knows the chat.

* `ReadState.AgreeOn`: two states agree on the chats of a credential.
* `ReadState.SameFailures`: what is not about one chat fails in both for the same reason.
* `credential_reads_isolated`: the responses are the same exactly in that case.
-/

namespace Signet

open Lib

/-! ### States and requests -/

/-- A client of the SDK, by what it reads and by its other operations. -/
structure SdkClient extends SdkConversations where
  others : XmtpClient

/-- What the reads work on. -/
structure ReadState where
  identities : List AgentIdentity
  /-- The client of an identity. -/
  clients : String → Option SdkClient
  idMappings : Option IdMappings
  /-- `credentialLookup` and `credentialManager.lookup`. -/
  lookup : Option (String → Result SchemaCredentialRecord)

inductive ReadRequest where
  | list (input : MessageListInput)
  | info (input : MessageInfoInput)
  | search (input : SearchMessagesInput)

/-- What a read answers. -/
inductive ReadOutput where
  | list (output : MessageListOutput)
  | info (message : XmtpDecodedMessage)
  | search (output : SearchMessagesOutput)
  deriving DecidableEq

/-- The runtime under the clients. -/
structure SdkRuntime extends RuntimeTexts where
  /-- Content that is no text, written down. -/
  renderContent : DecodedContent → MessageContent

namespace ReadState

variable (runtime : SdkRuntime) (s : ReadState)

def managed (identityId : String) (client : SdkClient) : ManagedClient :=
  ⟨identityId, client.others.inboxId,
    createSdkClient runtime.toRuntimeTexts runtime.renderContent client.toSdkConversations
      client.others⟩

/-- What all actions work with. -/
def actionDeps : ActionDeps where
  identities := s.identities
  getManagedClient identityId := (s.clients identityId).map (managed runtime identityId)
  idMappings := s.idMappings

def messageDeps : MessageActionDeps :=
  { s.actionDeps runtime with credentialLookup := s.lookup }

/-- What the search works with. -/
def searchDeps : SearchActionDeps :=
  { s.actionDeps runtime with
    credentialManager := s.lookup
    toLowerCase := runtime.toLowerCase }

/-- The response to a read. -/
def respond (ctx : HandlerContext) (now : Time) : ReadRequest → Result ReadOutput
  | .list input => (messageList (s.messageDeps runtime) ctx now input).value.map .list
  | .info input => (messageInfo (s.messageDeps runtime) ctx now input).value.map .info
  | .search input => (searchMessages (s.searchDeps runtime) ctx now input).value.map .search

def credentialOf (credentialId : String) : Option SchemaCredentialRecord :=
  s.lookup.bind fun lookup => (lookup credentialId).toOption

/-- The client that a request is served by. -/
def clientFor (label : Option String) : Option SdkClient :=
  match (s.actionDeps runtime).resolveIdentity label with
  | .error _ => none
  | .ok identityId => s.clients identityId

end ReadState

/-! ### Agreement -/

/-- The same answers about the groups and what is in them. -/
structure SdkConversations.AgreeOn (groupIds : List String) (c c' : SdkConversations) : Prop where
  conversations : ∀ groupId ∈ groupIds,
    c.getConversationById groupId = c'.getConversationById groupId
  messages : ∀ messageId msg, msg.conversationId ∈ groupIds →
    (c.getMessageById messageId = .ok (some msg) ↔ c'.getMessageById messageId = .ok (some msg))
  groups : ∀ groups groups', c.listGroups = .ok groups → c'.listGroups = .ok groups' →
    groups.filter (fun g => decide (g.id ∈ groupIds)) =
      groups'.filter (fun g => decide (g.id ∈ groupIds))

namespace ReadState

/-- The groups of the chats of a credential. -/
def chats (s : ReadState) (credential : SchemaCredentialRecord) : List String :=
  scopedGroupIds s.idMappings credential.chatIds

/-- Some client has the message, in one of the groups. -/
def HasMessage (s : ReadState) (groupIds : List String) (messageId : String) : Prop :=
  ∃ identityId client msg, s.clients identityId = some client ∧
    client.getMessageById messageId = .ok (some msg) ∧ msg.conversationId ∈ groupIds

/-- Two states that agree on the chats of a credential. -/
structure AgreeOn (credential : SchemaCredentialRecord) (s s' : ReadState) : Prop where
  identities : s.identities = s'.identities
  clients : ∀ identityId, (s.clients identityId = none ∧ s'.clients identityId = none) ∨
    ∃ c c', s.clients identityId = some c ∧ s'.clients identityId = some c' ∧
      c.toSdkConversations.AgreeOn (s.chats credential) c'.toSdkConversations
  /-- An id names the same chat of the credential. -/
  chatIds : ∀ id, ∀ groupId ∈ s.chats credential,
    (resolveGroupId s.idMappings id = groupId ↔ resolveGroupId s'.idMappings id = groupId)
  localIds : ∀ groupId ∈ s.chats credential,
    s.idMappings.bind (·.getLocal groupId) = s'.idMappings.bind (·.getLocal groupId)
  /-- An id names the same message of these chats. -/
  messageIds : ∀ id messageId, s.HasMessage (s.chats credential) messageId →
    (resolveMessageId s.idMappings id = messageId ↔ resolveMessageId s'.idMappings id = messageId)

end ReadState

/-! ### Failures that are about no chat -/

/-- What a call of the SDK throws. -/
def thrown? {α : Type} : Except String α → Option String
  | .error message => some message
  | .ok _ => none

/-- What the listing of the groups fails with. -/
def SdkConversations.listingFailure (texts : RuntimeTexts) (c : SdkConversations) :
    Option SignetError :=
  match c.listGroups with
  | .error message => some (sdkCallError texts "listGroups" message)
  | .ok groups =>
    (groups.findSome? fun g => thrown? g.members).map (sdkCallError texts "listGroups")

def SdkConversations.lookupFailure (c : SdkConversations) (messageId : String) : Option String :=
  thrown? (c.getMessageById messageId)

/-- The lookup of `message.info`, for a chat of the credential, and the listing of a search without
a chat fail in both states for the same reason, or in neither. -/
def ReadState.SameFailures (runtime : SdkRuntime) (credential : SchemaCredentialRecord)
    (s s' : ReadState) : ReadRequest → Prop
  | .list _ => True
  | .info input => resolveGroupId s.idMappings input.chatId ∈ s.chats credential →
      ∀ c c', s.clientFor runtime input.identityLabel = some c →
        s'.clientFor runtime input.identityLabel = some c' →
        c.lookupFailure (resolveMessageId s.idMappings input.messageId) =
          c'.lookupFailure (resolveMessageId s'.idMappings input.messageId)
  | .search input => truthy input.chatId = none →
      ∀ c c', s.clientFor runtime input.identityLabel = some c →
        s'.clientFor runtime input.identityLabel = some c' →
        c.listingFailure runtime.toRuntimeTexts = c'.listingFailure runtime.toRuntimeTexts

namespace ReadState

/-! ### The responses -/

def MayRead (s : ReadState) (credentialId : String) (credential : SchemaCredentialRecord) : Prop :=
  s.credentialOf credentialId = some credential ∧
    .readMessages ∈ resolveScopeSet credential.effectiveScopes

section Responses

variable {runtime : SdkRuntime} {s : ReadState} {ctx : HandlerContext} {now : Time}
  {credentialId : String} {credential : SchemaCredentialRecord}

theorem credentialOf_eq_some :
    s.credentialOf credentialId = some credential ↔
      ∃ lookup, s.lookup = some lookup ∧ lookup credentialId = .ok credential := by
  unfold credentialOf
  rw [Option.bind_eq_some_iff]
  have hok : ∀ found : Result SchemaCredentialRecord,
      found.toOption = some credential ↔ found = .ok credential := by
    intro found
    cases found with
    | error e => exact ⟨nofun, nofun⟩
    | ok record => exact ⟨fun h => congrArg _ (Option.some.inj h),
        fun h => congrArg _ (Except.ok.inj h)⟩
  constructor
  · rintro ⟨lookup, hwired, hfound⟩
    exact ⟨lookup, hwired, (hok _).1 hfound⟩
  · rintro ⟨lookup, hwired, hfound⟩
    exact ⟨lookup, hwired, (hok _).2 hfound⟩

/-- A request with a credential is not one of an admin. -/
theorem authorizeAdminReadAccess_credential (hcred : truthy ctx.credentialId = some credentialId)
    (chatId : String) (idMappings : Option IdMappings) :
    authorizeAdminReadAccess ctx chatId idMappings now = .ok () := by
  unfold authorizeAdminReadAccess
  rw [hcred]

theorem authorizeCredentialRead_eq (hcred : truthy ctx.credentialId = some credentialId)
    (hread : s.MayRead credentialId credential) (chatId : String) (notFound : SignetError) :
    authorizeCredentialRead (s.messageDeps runtime) ctx chatId notFound =
      if resolveGroupId s.idMappings chatId ∈ s.chats credential then .ok ()
      else .error notFound := by
  obtain ⟨hfound, hscope⟩ := hread
  obtain ⟨lookup, hwired, hrecord⟩ := credentialOf_eq_some.1 hfound
  have hiff := @authorizeCredentialRead_credential (s.messageDeps runtime) ctx credentialId chatId
    lookup credential notFound hcred hwired hrecord hscope
  by_cases hin : resolveGroupId s.idMappings chatId ∈ s.chats credential
  · rw [if_pos hin]
    exact hiff.2 hin
  · rw [if_neg hin]
    -- refused: whichever check fails, the answer is that there is nothing
    have hnot : authorizeCredentialRead (s.messageDeps runtime) ctx chatId notFound ≠ .ok () :=
      fun hok => hin (hiff.1 hok)
    unfold authorizeCredentialRead at hnot ⊢
    rw [hcred, show (s.messageDeps runtime).credentialLookup = some lookup from hwired] at hnot ⊢
    dsimp only at hnot ⊢
    rw [hrecord] at hnot ⊢
    dsimp only at hnot ⊢
    split
    · rfl
    · split
      · rfl
      · next hout hmay =>
        rw [if_neg hout, if_neg hmay] at hnot
        exact absurd rfl hnot

/-- A credential that may not read is told that there is nothing. -/
theorem authorizeCredentialRead_none (hcred : truthy ctx.credentialId = some credentialId)
    (hnone : ∀ credential, ¬ s.MayRead credentialId credential) (chatId : String)
    (notFound : SignetError) :
    authorizeCredentialRead (s.messageDeps runtime) ctx chatId notFound = .error notFound := by
  unfold authorizeCredentialRead
  rw [hcred]
  dsimp only
  split
  · rfl
  · next lookup hwired =>
    split
    · rfl
    · next credential hrecord =>
      have hmay : PermissionScope.readMessages ∉
          resolveEffectiveScopes credential.effectiveScopes := fun hscope =>
        hnone credential
          ⟨credentialOf_eq_some.2 ⟨lookup, hwired, hrecord⟩, mem_resolveEffectiveScopes.1 hscope⟩
      split
      · rfl
      · rfl

theorem credentialSearchScope_eq (hcred : truthy ctx.credentialId = some credentialId)
    (hread : s.MayRead credentialId credential) :
    credentialSearchScope (s.searchDeps runtime) ctx = .scoped (s.chats credential) := by
  obtain ⟨hfound, hscope⟩ := hread
  obtain ⟨lookup, hwired, hrecord⟩ := credentialOf_eq_some.1 hfound
  unfold credentialSearchScope
  rw [hcred, show (s.searchDeps runtime).credentialManager = some lookup from hwired]
  dsimp only
  rw [hrecord]
  exact if_neg (not_not.2 (mem_resolveEffectiveScopes.2 hscope))

theorem credentialSearchScope_none (hcred : truthy ctx.credentialId = some credentialId)
    (hnone : ∀ credential, ¬ s.MayRead credentialId credential) :
    credentialSearchScope (s.searchDeps runtime) ctx = .nothing := by
  unfold credentialSearchScope
  rw [hcred]
  dsimp only
  split
  · rfl
  · next lookup hwired =>
    split
    · rfl
    · next credential hrecord =>
      refine if_pos fun hscope => hnone credential ?_
      exact ⟨credentialOf_eq_some.2 ⟨lookup, hwired, hrecord⟩, mem_resolveEffectiveScopes.1 hscope⟩

/-- A read for a chat of the credential goes on to the client. -/
theorem value_read {α β : Type} {chatId : String} {idMappings : Option IdMappings}
    {notFound : SignetError} {label : Option String} {f : α → β}
    (hcred : truthy ctx.credentialId = some credentialId)
    (hread : s.MayRead credentialId credential) (answer : ManagedClient → ActionRun α) :
    (Logged.value (do
      .ofExcept (authorizeAdminReadAccess ctx chatId idMappings now)
      .ofExcept (authorizeCredentialRead (s.messageDeps runtime) ctx chatId notFound)
      let managed ← .ofExcept ((s.messageDeps runtime).resolveClient label)
      answer managed)).map f =
      if resolveGroupId s.idMappings chatId ∈ s.chats credential then
        (s.actionDeps runtime).resolveClient label >>= fun managed => (answer managed).value.map f
      else .error notFound := by
  rw [Logged.value_bind, Logged.value_ofExcept, authorizeAdminReadAccess_credential hcred]
  show (Logged.value (Logged.ofExcept _ >>= _)).map _ = _
  rw [Logged.value_bind, Logged.value_ofExcept, authorizeCredentialRead_eq hcred hread]
  split
  · show (Logged.value (Logged.ofExcept _ >>= _)).map _ = _
    rw [Logged.value_bind, Logged.value_ofExcept]
    show (((s.actionDeps runtime).resolveClient label) >>= _).map _ = _
    cases (s.actionDeps runtime).resolveClient label with
    | error e => rfl
    | ok managed => rfl
  · rfl

theorem respond_list (hcred : truthy ctx.credentialId = some credentialId)
    (hread : s.MayRead credentialId credential) (input : MessageListInput) :
    s.respond runtime ctx now (.list input) =
      if resolveGroupId s.idMappings input.chatId ∈ s.chats credential then
        (s.actionDeps runtime).resolveClient input.identityLabel >>= fun managed =>
          (managed.client.listMessages (resolveGroupId s.idMappings input.chatId)
            input.options).map fun messages => .list ⟨input.chatId, messages⟩
      else .error (.notFoundError "conversation" input.chatId) := by
  show (messageList (s.messageDeps runtime) ctx now input).value.map _ = _
  unfold messageList
  refine (value_read hcred hread _).trans (congrArg (ite _ · _) ?_)
  refine congrArg (_ >>= ·) (funext fun managed => ?_)
  rw [Logged.value_bind]
  show ((managed.client.listMessages (resolveGroupId s.idMappings input.chatId) _) >>= _).map _ = _
  cases managed.client.listMessages (resolveGroupId s.idMappings input.chatId) input.options with
  | error e => rfl
  | ok messages => rfl

theorem respond_info (hcred : truthy ctx.credentialId = some credentialId)
    (hread : s.MayRead credentialId credential) (input : MessageInfoInput) :
    s.respond runtime ctx now (.info input) =
      if resolveGroupId s.idMappings input.chatId ∈ s.chats credential then
        (s.actionDeps runtime).resolveClient input.identityLabel >>= fun managed =>
          managed.client.getMessageById (resolveMessageId s.idMappings input.messageId) >>=
            fun found => (messageOfChat s.idMappings input found).map .info
      else .error (.notFoundError "message" input.messageId) := by
  show (messageInfo (s.messageDeps runtime) ctx now input).value.map _ = _
  unfold messageInfo
  refine (value_read hcred hread _).trans (congrArg (ite _ · _) ?_)
  refine congrArg (_ >>= ·) (funext fun managed => ?_)
  rw [Logged.value_bind, Logged.value_call]
  show ((managed.client.getMessageById (resolveMessageId s.idMappings _)) >>= _).map _ = _
  cases managed.client.getMessageById (resolveMessageId s.idMappings input.messageId) with
  | error e => rfl
  | ok found => rfl

theorem respond_search (hcred : truthy ctx.credentialId = some credentialId)
    (hread : s.MayRead credentialId credential) (input : SearchMessagesInput) :
    s.respond runtime ctx now (.search input) =
      ((s.actionDeps runtime).resolveClient input.identityLabel >>= fun managed =>
        (searchWith (s.searchDeps runtime) (.scoped (s.chats credential)) input
          managed).value).map .search := by
  have haccess : authorizeAdminSearchAccess ctx input.chatId (s.searchDeps runtime).idMappings now =
      .ok () := by
    unfold authorizeAdminSearchAccess
    rw [hcred]
  show (searchMessages (s.searchDeps runtime) ctx now input).value.map _ = _
  unfold searchMessages
  rw [Logged.value_bind, Logged.value_ofExcept, haccess, credentialSearchScope_eq hcred hread]
  show (Logged.value (if _ then _ else Logged.ofExcept _ >>= _)).map _ = _
  rw [if_neg (by exact fun heq => by cases heq), Logged.value_bind, Logged.value_ofExcept]
  rfl

/-- **A credential that may not read gets the answer of a state without messages.** -/
theorem respond_none (hcred : truthy ctx.credentialId = some credentialId)
    (hnone : ∀ credential, ¬ s.MayRead credentialId credential) (request : ReadRequest) :
    s.respond runtime ctx now request =
      match request with
      | .list input => .error (.notFoundError "conversation" input.chatId)
      | .info input => .error (.notFoundError "message" input.messageId)
      | .search input => .ok (.search (noMatches input.query)) := by
  cases request with
  | list input =>
    show (messageList (s.messageDeps runtime) ctx now input).value.map _ = _
    unfold messageList
    rw [Logged.value_bind, Logged.value_ofExcept, authorizeAdminReadAccess_credential hcred]
    show (Logged.value (Logged.ofExcept _ >>= _)).map _ = _
    rw [Logged.value_bind, Logged.value_ofExcept, authorizeCredentialRead_none hcred hnone]
    rfl
  | info input =>
    show (messageInfo (s.messageDeps runtime) ctx now input).value.map _ = _
    unfold messageInfo
    rw [Logged.value_bind, Logged.value_ofExcept, authorizeAdminReadAccess_credential hcred]
    show (Logged.value (Logged.ofExcept _ >>= _)).map _ = _
    rw [Logged.value_bind, Logged.value_ofExcept, authorizeCredentialRead_none hcred hnone]
    rfl
  | search input =>
    have haccess : authorizeAdminSearchAccess ctx input.chatId
        (s.searchDeps runtime).idMappings now = .ok () := by
      unfold authorizeAdminSearchAccess
      rw [hcred]
    show (searchMessages (s.searchDeps runtime) ctx now input).value.map _ = _
    unfold searchMessages
    rw [Logged.value_bind, Logged.value_ofExcept, haccess, credentialSearchScope_none hcred hnone]
    rfl

end Responses

end ReadState

/-! ### The listing of the groups -/

section Listing

variable {texts : RuntimeTexts}

/-- The first group whose members cannot be read is what the loop fails with. -/
theorem groupInfos_cases (groups : List SdkGroup) :
    (∃ message, groups.findSome? (fun g => thrown? g.members) = some message ∧
        groupInfos texts groups = .error message) ∨
      (groups.findSome? (fun g => thrown? g.members) = none ∧
        ∃ infos, groupInfos texts groups = .ok infos) := by
  induction groups with
  | nil => exact Or.inr ⟨rfl, [], rfl⟩
  | cons group groups ih =>
    unfold groupInfos
    rw [List.findSome?_cons]
    cases group.members with
    | error message => exact Or.inl ⟨message, rfl, rfl⟩
    | ok members =>
      rcases ih with ⟨message, hfind, hinfos⟩ | ⟨hfind, infos, hinfos⟩
      · refine Or.inl ⟨message, hfind, ?_⟩
        rw [hinfos]
      · refine Or.inr ⟨hfind, toGroupInfo texts group members :: infos, ?_⟩
        rw [hinfos]

theorem groupInfos_filter (groupIds : List String) {groups : List SdkGroup}
    {infos : List XmtpGroupInfo} (h : groupInfos texts groups = .ok infos) :
    groupInfos texts (groups.filter fun g => decide (g.id ∈ groupIds)) =
      .ok (infos.filter fun info => decide (info.groupId ∈ groupIds)) := by
  induction groups generalizing infos with
  | nil =>
    cases h
    rfl
  | cons group groups ih =>
    unfold groupInfos at h
    cases hmembers : group.members with
    | error message =>
      rw [hmembers] at h
      cases h
    | ok members =>
      rw [hmembers] at h
      dsimp only at h
      cases hrest : groupInfos texts groups with
      | error message =>
        rw [hrest] at h
        cases h
      | ok rest =>
        rw [hrest] at h
        cases h
        rw [List.filter_cons, List.filter_cons]
        -- a group that is filtered away is not in the chats
        by_cases hin : group.id ∈ groupIds
        · have hinfo : decide ((toGroupInfo texts group members).groupId ∈ groupIds) = true :=
            decide_eq_true hin
          rw [if_pos (decide_eq_true hin), if_pos hinfo]
          unfold groupInfos
          rw [hmembers, ih hrest]
        · have hinfo : ¬ decide ((toGroupInfo texts group members).groupId ∈ groupIds) = true :=
            fun h => hin (of_decide_eq_true h)
          rw [if_neg (fun h => hin (of_decide_eq_true h)), if_neg hinfo]
          exact ih hrest

/-- The client fails to list the groups with what the listing fails with. -/
theorem listGroups_cases (c : SdkConversations) :
    (∃ e, c.listingFailure texts = some e ∧ listGroups texts c = .error e) ∨
      (c.listingFailure texts = none ∧ ∃ groups infos, c.listGroups = .ok groups ∧
        groupInfos texts groups = .ok infos ∧ listGroups texts c = .ok infos) := by
  unfold SdkConversations.listingFailure listGroups
  cases c.listGroups with
  | error message => exact Or.inl ⟨_, rfl, rfl⟩
  | ok groups =>
    dsimp only
    rcases @groupInfos_cases texts groups with ⟨message, hfind, hinfos⟩ | ⟨hfind, infos, hinfos⟩
    · refine Or.inl ⟨sdkCallError texts "listGroups" message, ?_, ?_⟩
      · rw [hfind]
        rfl
      · rw [hinfos]
    · refine Or.inr ⟨?_, groups, infos, rfl, hinfos, ?_⟩
      · rw [hfind]
        rfl
      · rw [hinfos]

theorem SdkConversations.AgreeOn.infos {groupIds : List String} {c c' : SdkConversations}
    (h : c.AgreeOn groupIds c') {groups groups' : List SdkGroup}
    {infos infos' : List XmtpGroupInfo} (hgroups : c.listGroups = .ok groups)
    (hgroups' : c'.listGroups = .ok groups') (hinfos : groupInfos texts groups = .ok infos)
    (hinfos' : groupInfos texts groups' = .ok infos') :
    infos.filter (fun info => decide (info.groupId ∈ groupIds)) =
      infos'.filter fun info => decide (info.groupId ∈ groupIds) := by
  have hfilter := groupInfos_filter groupIds hinfos
  have hfilter' := groupInfos_filter groupIds hinfos'
  rw [h.groups groups groups' hgroups hgroups', hfilter'] at hfilter
  exact (Except.ok.inj hfilter).symm

end Listing

/-! ### The search over several groups -/

section Search

variable {deps deps' : SearchActionDeps} {query : String} {maxResults : Nat}
  {managed managed' : ManagedClient} {scope : SearchScope}

theorem searchGroups_full {hits : List MessageSearchHit} (hfull : maxResults ≤ hits.length)
    (groups : List XmtpGroupInfo) :
    searchGroups deps query maxResults managed scope hits groups = .ok hits := by
  cases groups with
  | nil => rfl
  | cons group groups =>
    unfold searchGroups
    rw [if_pos hfull]

/-- **Only the groups in scope are searched.** -/
theorem searchGroups_filter (hits : List MessageSearchHit) (groups : List XmtpGroupInfo) :
    searchGroups deps query maxResults managed scope hits groups =
      searchGroups deps query maxResults managed scope hits
        (groups.filter fun g => scope.admits g.groupId) := by
  induction groups generalizing hits with
  | nil => rfl
  | cons group groups ih =>
    by_cases hfull : maxResults ≤ hits.length
    · rw [searchGroups_full hfull, searchGroups_full hfull]
    · rw [List.filter_cons]
      -- a group outside the scope is passed over by the loop as by the filter
      cases hin : scope.admits group.groupId with
      | false =>
        rw [if_neg Bool.false_ne_true, ← ih]
        conv_lhs => unfold searchGroups
        rw [if_neg hfull, hin]
        rfl
      | true =>
        rw [if_pos rfl]
        unfold searchGroups
        have hsearched : ¬ (!scope.admits group.groupId) = true := by
          rw [hin]
          exact Bool.false_ne_true
        rw [if_neg hfull, if_neg hfull, if_neg hsearched, if_neg hsearched]
        congr 1
        funext listed
        cases listed with
        | error e => exact ih _
        | ok messages => exact ih _

/-- A group whose messages cannot be listed does not end the search. -/
theorem searchGroups_ok (hits : List MessageSearchHit) (groups : List XmtpGroupInfo) :
    ∃ found, (searchGroups deps query maxResults managed scope hits groups).value = .ok found := by
  induction groups generalizing hits with
  | nil => exact ⟨hits, rfl⟩
  | cons group groups ih =>
    unfold searchGroups
    split
    · exact ⟨hits, rfl⟩
    · split
      · exact ih hits
      · rw [Logged.value_bind, Logged.value_attempt]
        cases managed.client.listMessages group.groupId searchListOptions with
        | error e => exact ih hits
        | ok messages => exact ih _

theorem collectHits_congr (htext : deps.toLowerCase = deps'.toLowerCase) (chatId : String)
    (hits : List MessageSearchHit) (messages : List XmtpDecodedMessage) :
    collectHits deps query maxResults chatId hits messages =
      collectHits deps' query maxResults chatId hits messages := by
  induction messages generalizing hits with
  | nil => rfl
  | cons msg messages ih =>
    have hhit : searchHit deps query chatId msg = searchHit deps' query chatId msg := by
      unfold searchHit
      rw [htext]
    unfold collectHits
    rw [hhit]
    split
    · rfl
    · split
      · exact ih _
      · exact ih _

theorem searchGroups_congr (htext : deps.toLowerCase = deps'.toLowerCase)
    {groups : List XmtpGroupInfo}
    (hmessages : ∀ g ∈ groups, managed.client.listMessages g.groupId searchListOptions =
      managed'.client.listMessages g.groupId searchListOptions)
    (hids : ∀ g ∈ groups, deps.idMappings.bind (·.getLocal g.groupId) =
      deps'.idMappings.bind (·.getLocal g.groupId))
    (hits : List MessageSearchHit) :
    searchGroups deps query maxResults managed scope hits groups =
      searchGroups deps' query maxResults managed' scope hits groups := by
  induction groups generalizing hits with
  | nil => rfl
  | cons group groups ih =>
    have hrest := ih (fun g hg => hmessages g (List.mem_cons_of_mem _ hg))
      (fun g hg => hids g (List.mem_cons_of_mem _ hg))
    unfold searchGroups
    rw [hmessages group List.mem_cons_self, hids group List.mem_cons_self]
    split
    · rfl
    · split
      · exact hrest hits
      · congr 1
        funext listed
        cases listed with
        | error e => exact hrest hits
        | ok messages =>
          dsimp only
          rw [collectHits_congr htext]
          exact hrest _

end Search

namespace ReadState

/-! ### Two states -/

namespace AgreeOn

variable {runtime : SdkRuntime} {s s' : ReadState} {credential : SchemaCredentialRecord}

theorem chats_eq (h : AgreeOn credential s s') : s'.chats credential = s.chats credential := by
  unfold chats scopedGroupIds
  refine List.map_congr_left fun chatId hmem => ?_
  exact (h.chatIds chatId _ (mem_scopedGroupIds.2 ⟨chatId, hmem, rfl⟩)).1 rfl

theorem resolve_eq (h : AgreeOn credential s s') {id : String}
    (hin : resolveGroupId s.idMappings id ∈ s.chats credential) :
    resolveGroupId s'.idMappings id = resolveGroupId s.idMappings id :=
  (h.chatIds id _ hin).1 rfl

theorem resolve_mem_iff (h : AgreeOn credential s s') (id : String) :
    resolveGroupId s'.idMappings id ∈ s.chats credential ↔
      resolveGroupId s.idMappings id ∈ s.chats credential := by
  constructor
  · intro hin
    rw [(h.chatIds id _ hin).2 rfl]
    exact hin
  · intro hin
    rw [h.resolve_eq hin]
    exact hin

/-- A request is served by clients that agree, or by none. -/
theorem client_cases (h : AgreeOn credential s s') (label : Option String) :
    (s.clientFor runtime label = none ∧ s'.clientFor runtime label = none ∧
      ∃ e, (s.actionDeps runtime).resolveClient label = .error e ∧
        (s'.actionDeps runtime).resolveClient label = .error e) ∨
    ∃ identityId c c', s.clientFor runtime label = some c ∧
      s'.clientFor runtime label = some c' ∧
      c.toSdkConversations.AgreeOn (s.chats credential) c'.toSdkConversations ∧
      (s.actionDeps runtime).resolveClient label = .ok (managed runtime identityId c) ∧
      (s'.actionDeps runtime).resolveClient label = .ok (managed runtime identityId c') := by
  have hidentity : (s'.actionDeps runtime).resolveIdentity label =
      (s.actionDeps runtime).resolveIdentity label := by
    unfold ActionDeps.resolveIdentity actionDeps
    rw [h.identities]
  unfold clientFor ActionDeps.resolveClient
  rw [hidentity]
  cases (s.actionDeps runtime).resolveIdentity label with
  | error e => exact Or.inl ⟨rfl, rfl, e, rfl, rfl⟩
  | ok identityId =>
    dsimp only
    unfold ActionDeps.clientOf
    have hmanaged : (s.actionDeps runtime).getManagedClient identityId =
        (s.clients identityId).map (managed runtime identityId) := rfl
    have hmanaged' : (s'.actionDeps runtime).getManagedClient identityId =
        (s'.clients identityId).map (managed runtime identityId) := rfl
    rw [hmanaged, hmanaged']
    -- the two states have no client for the identity, or clients that agree
    rcases h.clients identityId with ⟨hnone, hnone'⟩ | ⟨c, c', hclient, hclient', hagree⟩
    · rw [hnone, hnone']
      exact Or.inl ⟨rfl, rfl, _, rfl, rfl⟩
    · rw [hclient, hclient']
      exact Or.inr ⟨identityId, c, c', rfl, rfl, hagree, rfl, rfl⟩

theorem hasMessage (h : AgreeOn credential s s') {messageId : String}
    (hmessage : s'.HasMessage (s.chats credential) messageId) :
    s.HasMessage (s.chats credential) messageId := by
  obtain ⟨identityId, c', msg, hclient', hget, hin⟩ := hmessage
  rcases h.clients identityId with ⟨-, hnone⟩ | ⟨c, c'', hclient, hclient'', hagree⟩
  · rw [hnone] at hclient'
    cases hclient'
  · rw [hclient''] at hclient'
    cases hclient'
    exact ⟨identityId, c, msg, hclient, (hagree.messages messageId msg hin).2 hget, hin⟩

end AgreeOn

theorem listMessages_agree {runtime : SdkRuntime} {groupIds : List String} {c c' : SdkClient}
    (h : c.toSdkConversations.AgreeOn groupIds c'.toSdkConversations) (identityId : String)
    {groupId : String} (hin : groupId ∈ groupIds) (options : ListMessagesOptions) :
    (managed runtime identityId c).client.listMessages groupId options =
      (managed runtime identityId c').client.listMessages groupId options := by
  have hlist : listMessages runtime.toRuntimeTexts c.getConversationById groupId options =
      listMessages runtime.toRuntimeTexts c'.getConversationById groupId options := by
    unfold listMessages getGroup
    rw [h.conversations groupId hin]
  show (listMessages runtime.toRuntimeTexts c.getConversationById groupId options).map _ =
    (listMessages runtime.toRuntimeTexts c'.getConversationById groupId options).map _
  rw [hlist]

section Isolation

variable {runtime : SdkRuntime} {s s' : ReadState} {ctx : HandlerContext} {now now' : Time}
  {credentialId : String} {credential : SchemaCredentialRecord}

theorem list_isolated (hcred : truthy ctx.credentialId = some credentialId)
    (hread : s.MayRead credentialId credential) (hread' : s'.MayRead credentialId credential)
    (h : AgreeOn credential s s') (input : MessageListInput) :
    s.respond runtime ctx now (.list input) = s'.respond runtime ctx now' (.list input) := by
  rw [respond_list hcred hread, respond_list hcred hread', h.chats_eq]
  by_cases hin : resolveGroupId s.idMappings input.chatId ∈ s.chats credential
  · rw [if_pos hin, if_pos ((h.resolve_mem_iff _).2 hin), h.resolve_eq hin]
    rcases @AgreeOn.client_cases runtime _ _ _ h input.identityLabel with
      ⟨-, -, e, hclient, hclient'⟩ | ⟨identityId, c, c', -, -, hagree, hclient, hclient'⟩
    · rw [hclient, hclient']
    · rw [hclient, hclient']
      show ((managed runtime identityId c).client.listMessages _ _).map _ =
        ((managed runtime identityId c').client.listMessages _ _).map _
      rw [listMessages_agree hagree identityId hin]
  · rw [if_neg hin, if_neg fun hin' => hin ((h.resolve_mem_iff _).1 hin')]

theorem managed_getMessageById (identityId : String) (c : SdkClient) (messageId : String) :
    (managed runtime identityId c).client.getMessageById messageId =
      match c.getMessageById messageId with
      | .error message => .error (.internalError ("SDK error (getMessageById): " ++ message))
      | .ok found => .ok (found.map fun msg =>
          (toDecodedMessage runtime.toRuntimeTexts msg).toXmtp runtime.renderContent) := by
  show (getMessageById _ c.toSdkConversations messageId).map _ = _
  unfold getMessageById
  cases c.getMessageById messageId with
  | error message => rfl
  | ok found =>
    cases found with
    | none => rfl
    | some msg => rfl

/-- The answer of `message.info`, from what the SDK finds. -/
def infoAnswer (runtime : SdkRuntime) (groupId messageId : String) :
    Except String (Option SdkDecodedMessage) → Result ReadOutput
  | .error message => .error (.internalError ("SDK error (getMessageById): " ++ message))
  | .ok none => .error (.notFoundError "message" messageId)
  | .ok (some msg) =>
    if msg.conversationId ≠ groupId then .error (.notFoundError "message" messageId)
    else .ok (.info ((toDecodedMessage runtime.toRuntimeTexts msg).toXmtp runtime.renderContent))

/-- What `message.info` answers for a chat of the credential. -/
theorem info_value (hcred : truthy ctx.credentialId = some credentialId)
    (hread : s.MayRead credentialId credential) {input : MessageInfoInput}
    (hin : resolveGroupId s.idMappings input.chatId ∈ s.chats credential) {identityId : String}
    {c : SdkClient}
    (hclient : (s.actionDeps runtime).resolveClient input.identityLabel =
      .ok (managed runtime identityId c)) :
    s.respond runtime ctx now (.info input) =
      infoAnswer runtime (resolveGroupId s.idMappings input.chatId) input.messageId
        (c.getMessageById (resolveMessageId s.idMappings input.messageId)) := by
  rw [respond_info hcred hread, if_pos hin, hclient]
  show (managed runtime identityId c).client.getMessageById _ >>= _ = _
  rw [managed_getMessageById]
  cases c.getMessageById (resolveMessageId s.idMappings input.messageId) with
  | error message => rfl
  | ok found =>
    cases found with
    | none => rfl
    | some msg =>
      show (messageOfChat s.idMappings input (some _)).map _ = _
      unfold messageOfChat infoAnswer
      dsimp only
      by_cases hother : msg.conversationId ≠ resolveGroupId s.idMappings input.chatId
      · rw [if_pos hother]
        exact congrArg _ (if_pos hother)
      · rw [if_neg hother]
        exact congrArg _ (if_neg hother)

theorem infoAnswer_ok (runtime : SdkRuntime) (groupId messageId : String)
    (found : Option SdkDecodedMessage) :
    (∃ msg, found = some msg ∧ msg.conversationId = groupId) ∨
      ((∀ msg, found = some msg → msg.conversationId ≠ groupId) ∧
        infoAnswer runtime groupId messageId (.ok found) =
          .error (.notFoundError "message" messageId)) := by
  cases found with
  | none => exact Or.inr ⟨nofun, rfl⟩
  | some msg =>
    by_cases hsame : msg.conversationId = groupId
    · exact Or.inl ⟨msg, rfl, hsame⟩
    · refine Or.inr ⟨fun msg' h => ?_, if_pos hsame⟩
      cases h
      exact hsame

/-- Two answers that find the same in the chat differ in their failures at most. -/
theorem infoAnswer_eq_iff {groupId messageId : String}
    {found found' : Except String (Option SdkDecodedMessage)}
    (hsame : ∀ msg, msg.conversationId = groupId →
      (found = .ok (some msg) ↔ found' = .ok (some msg))) :
    infoAnswer runtime groupId messageId found = infoAnswer runtime groupId messageId found' ↔
      thrown? found = thrown? found' := by
  -- a failure is neither a message nor its absence
  have hfailed : ∀ message (answer : Option SdkDecodedMessage),
      infoAnswer runtime groupId messageId (.error message) ≠
        infoAnswer runtime groupId messageId (.ok answer) := by
    intro message answer
    cases answer with
    | none => exact fun h => by cases h
    | some msg =>
      unfold infoAnswer
      dsimp only
      split
      · exact fun h => by cases h
      · exact fun h => by cases h
  cases found with
  | error message =>
    cases found' with
    | error message' =>
      constructor
      · intro h
        have htext : "SDK error (getMessageById): " ++ message =
            "SDK error (getMessageById): " ++ message' :=
          SignetError.internalError.inj (Except.error.inj h)
        exact congrArg some ((String.append_right_inj _).1 htext)
      · intro h
        cases h
        rfl
    | ok answer' => exact ⟨fun h => absurd h (hfailed message answer'), fun h => by cases h⟩
  | ok answer =>
    cases found' with
    | error message' =>
      exact ⟨fun h => absurd h.symm (hfailed message' answer), fun h => by cases h⟩
    | ok answer' =>
      refine ⟨fun _ => rfl, fun _ => ?_⟩
      -- what is found in the group is the same; what is not is absent in both
      rcases infoAnswer_ok runtime groupId messageId answer with ⟨msg, rfl, hin⟩ | ⟨hnot, hnone⟩
      · rw [(hsame msg hin).1 rfl]
      · rcases infoAnswer_ok runtime groupId messageId answer' with
          ⟨msg, rfl, hin⟩ | ⟨-, hnone'⟩
        · exact absurd hin (hnot msg (Except.ok.inj ((hsame msg hin).2 rfl)))
        · rw [hnone, hnone']

theorem clients_of_clientFor {label : Option String} {c : SdkClient}
    (h : s.clientFor runtime label = some c) : ∃ identityId, s.clients identityId = some c := by
  unfold clientFor at h
  split at h
  · cases h
  · exact ⟨_, h⟩

/-- `message.info` finds what is in the chats in both states, or in neither. -/
theorem info_isolated (hcred : truthy ctx.credentialId = some credentialId)
    (hread : s.MayRead credentialId credential) (hread' : s'.MayRead credentialId credential)
    (h : AgreeOn credential s s') (input : MessageInfoInput) :
    s.respond runtime ctx now (.info input) = s'.respond runtime ctx now' (.info input) ↔
      SameFailures runtime credential s s' (.info input) := by
  by_cases hin : resolveGroupId s.idMappings input.chatId ∈ s.chats credential
  swap
  · rw [respond_info hcred hread, respond_info hcred hread', h.chats_eq, if_neg hin,
      if_neg fun hin' => hin ((h.resolve_mem_iff _).1 hin')]
    exact ⟨fun _ hin' => absurd hin' hin, fun _ => rfl⟩
  have hin' : resolveGroupId s'.idMappings input.chatId ∈ s'.chats credential := by
    rw [h.chats_eq]
    exact (h.resolve_mem_iff _).2 hin
  rcases @AgreeOn.client_cases runtime _ _ _ h input.identityLabel with
    ⟨hnone, -, e, hclient, hclient'⟩ | ⟨identityId, c, c', hfor, hfor', hagree, hclient, hclient'⟩
  · rw [respond_info hcred hread, respond_info hcred hread', if_pos hin, if_pos hin', hclient,
      hclient']
    refine ⟨fun _ _ c c' hc _ => ?_, fun _ => rfl⟩
    rw [hnone] at hc
    cases hc
  -- only one client can be asked, so the clause on failures is about this one
  have hfailures : SameFailures runtime credential s s' (.info input) ↔
      c.lookupFailure (resolveMessageId s.idMappings input.messageId) =
        c'.lookupFailure (resolveMessageId s'.idMappings input.messageId) := by
    constructor
    · exact fun hsame => hsame hin c c' hfor hfor'
    · intro hsame _ d d' hd hd'
      rw [hfor] at hd
      rw [hfor'] at hd'
      cases hd
      cases hd'
      exact hsame
  rw [hfailures, info_value hcred hread hin hclient, info_value hcred hread' hin' hclient',
    h.resolve_eq hin]
  refine infoAnswer_eq_iff fun msg hgroup => ?_
  -- a message of the chats is found in both states by the same id
  have hchat : msg.conversationId ∈ s.chats credential := by
    rw [hgroup]
    exact hin
  obtain ⟨identity, hidentity⟩ := clients_of_clientFor hfor
  obtain ⟨identity', hidentity'⟩ := clients_of_clientFor hfor'
  constructor
  · intro hfound
    have hid := (h.messageIds input.messageId _ ⟨identity, c, msg, hidentity, hfound, hchat⟩).1 rfl
    rw [hid]
    exact (hagree.messages _ msg hchat).1 hfound
  · intro hfound
    have hid := (h.messageIds input.messageId _
      (h.hasMessage ⟨identity', c', msg, hidentity', hfound, hchat⟩)).2 rfl
    rw [hid]
    exact (hagree.messages _ msg hchat).2 hfound

theorem searchWith_chat {deps : SearchActionDeps} {scope : SearchScope}
    {input : SearchMessagesInput} {client : ManagedClient} {chatId : String}
    (hchat : truthy input.chatId = some chatId) :
    (searchWith deps scope input client).value =
      if !scope.admits (resolveGroupId deps.idMappings chatId) then .ok (noMatches input.query)
      else (client.client.listMessages (resolveGroupId deps.idMappings chatId)
        searchListOptions).map fun messages =>
          let hits := collectHits deps input.query (input.limit.getD defaultSearchLimit) chatId []
            messages
          ⟨input.query, hits, hits.length⟩ := by
  unfold searchWith
  rw [hchat]
  dsimp only
  split
  · rfl
  · show (Logged.value (client.list _ _ >>= _)) = _
    rw [Logged.value_bind]
    show (client.client.listMessages _ _ >>= _) = _
    cases client.client.listMessages (resolveGroupId deps.idMappings chatId)
      searchListOptions with
    | error e => rfl
    | ok messages => rfl

theorem searchWith_all {deps : SearchActionDeps} {scope : SearchScope}
    {input : SearchMessagesInput} {client : ManagedClient}
    (hchat : truthy input.chatId = none) :
    (searchWith deps scope input client).value =
      client.client.listGroups >>= fun groups =>
        (searchGroups deps input.query (input.limit.getD defaultSearchLimit) client scope []
          groups).value.map fun hits => ⟨input.query, hits, hits.length⟩ := by
  unfold searchWith
  rw [hchat]
  dsimp only
  rw [Logged.value_bind, Logged.value_call]
  cases client.client.listGroups with
  | error e => rfl
  | ok groups =>
    show (Logged.value (searchGroups _ _ _ _ _ _ _ >>= _)) = Except.map _ _
    rw [Logged.value_bind]
    cases (searchGroups deps input.query (input.limit.getD defaultSearchLimit) client scope []
      groups).value with
    | error e => rfl
    | ok hits => rfl

theorem search_isolated (hcred : truthy ctx.credentialId = some credentialId)
    (hread : s.MayRead credentialId credential) (hread' : s'.MayRead credentialId credential)
    (h : AgreeOn credential s s') (input : SearchMessagesInput) :
    s.respond runtime ctx now (.search input) = s'.respond runtime ctx now' (.search input) ↔
      SameFailures runtime credential s s' (.search input) := by
  rw [respond_search hcred hread, respond_search hcred hread', h.chats_eq]
  rcases @AgreeOn.client_cases runtime _ _ _ h input.identityLabel with
    ⟨hnone, -, e, hclient, hclient'⟩ | ⟨identityId, c, c', hfor, hfor', hagree, hclient, hclient'⟩
  · rw [hclient, hclient']
    refine ⟨fun _ _ c c' hc _ => ?_, fun _ => rfl⟩
    rw [hnone] at hc
    cases hc
  rw [hclient, hclient']
  show (searchWith (s.searchDeps runtime) _ input (managed runtime identityId c)).value.map _ =
    (searchWith (s'.searchDeps runtime) _ input (managed runtime identityId c')).value.map _ ↔ _
  cases hchat : truthy input.chatId with
  | some chatId =>
    have hsame : SameFailures runtime credential s s' (.search input) := by
      intro hnone
      rw [hchat] at hnone
      cases hnone
    refine iff_of_true ?_ hsame
    rw [searchWith_chat hchat, searchWith_chat hchat]
    show Except.map _ (if (!decide (resolveGroupId s.idMappings chatId ∈ s.chats credential)) = true
        then _ else _) =
      Except.map _ (if (!decide (resolveGroupId s'.idMappings chatId ∈ s.chats credential)) = true
        then _ else _)
    by_cases hin : resolveGroupId s.idMappings chatId ∈ s.chats credential
    -- one chat: the client lists its messages, and these agree
    · have hin' := (h.resolve_mem_iff chatId).2 hin
      rw [decide_eq_true hin, decide_eq_true hin']
      show Except.map _ (((managed runtime identityId c).client.listMessages
          (resolveGroupId s.idMappings chatId) searchListOptions).map _) =
        Except.map _ (((managed runtime identityId c').client.listMessages
          (resolveGroupId s'.idMappings chatId) searchListOptions).map _)
      rw [h.resolve_eq hin, listMessages_agree hagree identityId hin]
      refine congrArg _ (congrArg (fun f => Except.map f _) (funext fun messages => ?_))
      rw [@collectHits_congr (s.searchDeps runtime) (s'.searchDeps runtime) _ _ rfl]
    · have hin' := fun hin' => hin ((h.resolve_mem_iff chatId).1 hin')
      rw [decide_eq_false hin, decide_eq_false hin']
      rfl
  | none =>
    have hfailures : SameFailures runtime credential s s' (.search input) ↔
        c.listingFailure runtime.toRuntimeTexts = c'.listingFailure runtime.toRuntimeTexts := by
      constructor
      · exact fun hsame => hsame hchat c c' hfor hfor'
      · intro hsame _ d d' hd hd'
        rw [hfor] at hd
        rw [hfor'] at hd'
        cases hd
        cases hd'
        exact hsame
    rw [hfailures, searchWith_all hchat, searchWith_all hchat]
    show ((listGroups runtime.toRuntimeTexts c.toSdkConversations >>= _).map _) =
      ((listGroups runtime.toRuntimeTexts c'.toSdkConversations >>= _).map _) ↔ _
    -- a listing that does not fail is followed by a search that does not
    have hsearch : ∀ (deps : SearchActionDeps) (client : ManagedClient)
        (infos : List XmtpGroupInfo), ∃ output, ((searchGroups deps input.query
          (input.limit.getD defaultSearchLimit) client (.scoped (s.chats credential)) []
          infos).value.map fun hits => (⟨input.query, hits, hits.length⟩ :
            SearchMessagesOutput)).map ReadOutput.search = .ok output := by
      intro deps client infos
      obtain ⟨hits, hhits⟩ := @searchGroups_ok deps input.query
        (input.limit.getD defaultSearchLimit) client (.scoped (s.chats credential)) [] infos
      rw [hhits]
      exact ⟨_, rfl⟩
    rcases @listGroups_cases runtime.toRuntimeTexts c.toSdkConversations with
      ⟨e, hfail, hlist⟩ | ⟨hfail, groups, infos, hgroups, hinfos, hlist⟩
    · rcases @listGroups_cases runtime.toRuntimeTexts c'.toSdkConversations with
        ⟨e', hfail', hlist'⟩ | ⟨hfail', groups', infos', hgroups', hinfos', hlist'⟩
      · rw [hlist, hlist', hfail, hfail']
        exact ⟨fun heq => congrArg some (Except.error.inj heq),
          fun heq => congrArg Except.error (Option.some.inj heq)⟩
      · rw [hlist, hlist', hfail, hfail']
        obtain ⟨output, houtput⟩ := hsearch (s'.searchDeps runtime) (managed runtime identityId c')
          infos'
        refine iff_of_false (fun heq => ?_) (by exact fun heq => by cases heq)
        have herror := heq.trans houtput
        cases herror
    · rcases @listGroups_cases runtime.toRuntimeTexts c'.toSdkConversations with
        ⟨e', hfail', hlist'⟩ | ⟨hfail', groups', infos', hgroups', hinfos', hlist'⟩
      · rw [hlist, hlist', hfail, hfail']
        obtain ⟨output, houtput⟩ := hsearch (s.searchDeps runtime) (managed runtime identityId c)
          infos
        refine iff_of_false (fun heq => ?_) (by exact fun heq => by cases heq)
        have herror := heq.symm.trans houtput
        cases herror
      · rw [hlist, hlist', hfail, hfail']
        refine iff_of_true ?_ rfl
        -- the groups of the scope are the same, in the same order
        have hfilter := hagree.infos hgroups hgroups' hinfos hinfos'
        have hscope : ∀ g ∈ infos'.filter (fun g => decide (g.groupId ∈ s.chats credential)),
            g.groupId ∈ s.chats credential :=
          fun g hg => of_decide_eq_true (List.mem_filter.1 hg).2
        have hruns : searchGroups (s.searchDeps runtime) input.query
              (input.limit.getD defaultSearchLimit) (managed runtime identityId c)
              (.scoped (s.chats credential)) [] infos =
            searchGroups (s'.searchDeps runtime) input.query
              (input.limit.getD defaultSearchLimit) (managed runtime identityId c')
              (.scoped (s.chats credential)) [] infos' := by
          rw [searchGroups_filter [] infos, searchGroups_filter [] infos']
          show searchGroups _ _ _ _ _ [] (infos.filter fun g =>
              decide (g.groupId ∈ s.chats credential)) =
            searchGroups _ _ _ _ _ [] (infos'.filter fun g =>
              decide (g.groupId ∈ s.chats credential))
          rw [hfilter]
          exact @searchGroups_congr (s.searchDeps runtime) (s'.searchDeps runtime) _ _ _ _ _ rfl _
            (fun g hg => listMessages_agree hagree identityId (hscope g hg) _)
            (fun g hg => h.localIds g.groupId (hscope g hg)) []
        show Except.map _ (Except.map _ (searchGroups _ _ _ _ _ _ _).value) =
          Except.map _ (Except.map _ (searchGroups _ _ _ _ _ _ _).value)
        rw [hruns]

/-- **Reads with a credential are isolated**, but for failures that are about no chat. Where two
states agree on the chats of a credential that may read, the responses to a request are the same
exactly if what lists all groups, or looks up a message by its id alone, fails in both for the same
reason or in neither. A credential that is not found or may not read is answered the same in all
states. -/
theorem credential_reads_isolated (hcred : truthy ctx.credentialId = some credentialId) :
    (s.MayRead credentialId credential → s'.MayRead credentialId credential →
      AgreeOn credential s s' → ∀ request,
        (s.respond runtime ctx now request = s'.respond runtime ctx now' request ↔
          SameFailures runtime credential s s' request)) ∧
    ((∀ record, ¬ s.MayRead credentialId record) → (∀ record, ¬ s'.MayRead credentialId record) →
      ∀ request, s.respond runtime ctx now request = s'.respond runtime ctx now' request) := by
  constructor
  · intro hread hread' h request
    cases request with
    | list input => exact iff_of_true (list_isolated hcred hread hread' h input) trivial
    | info input => exact info_isolated hcred hread hread' h input
    | search input => exact search_isolated hcred hread hread' h input
  · intro hnone hnone' request
    rw [respond_none hcred hnone, respond_none hcred hnone']

end Isolation

/-! ### Two accounts -/

def oneChat : SchemaCredentialRecord :=
  ⟨"cred_0123456789abcdef", "op_0123456789abcdef", ["g1"], ⟨[.readMessages], []⟩, .active, 0, 10,
    "owner"⟩

/-- A runtime whose texts do not matter. -/
def plainRuntime : SdkRuntime where
  toLowerCase := id
  toISOString _ := ""
  parseDate _ := none
  bigIntError := ""
  renderContent _ := ""

def chatGroup : SdkGroup := ⟨"g1", "", "", none, 0, .ok []⟩

def accountWith (others : List SdkGroup) : ReadState where
  identities := [⟨"agent", some "inbox", none⟩]
  clients _ := some {
    getConversationById groupId :=
      if groupId = "g1" then .ok (some ⟨fun _ => .ok [⟨"m1", "g1", "alice", some "text",
        .string "hello", 0, 0⟩]⟩)
      else .ok none
    getMessageById _ := .ok none
    listGroups := .ok (others ++ [chatGroup])
    others := quietClient }
  idMappings := none
  lookup := some fun _ => .ok oneChat

/-- The other groups are none of the credential's. -/
theorem accountWith_agree {others others' : List SdkGroup} (h : ∀ g ∈ others, g.id ≠ "g1")
    (h' : ∀ g ∈ others', g.id ≠ "g1") :
    AgreeOn oneChat (accountWith others) (accountWith others') := by
  have hfilter : ∀ {others : List SdkGroup}, (∀ g ∈ others, g.id ≠ "g1") →
      (others ++ [chatGroup]).filter
        (fun g => decide (g.id ∈ (accountWith []).chats oneChat)) = [chatGroup] := by
    intro others hothers
    have hnone : others.filter (fun g => decide (g.id ∈ (accountWith []).chats oneChat)) = [] := by
      refine List.filter_eq_nil_iff.2 fun g hg hin => hothers g hg ?_
      exact List.mem_singleton.1 (of_decide_eq_true hin)
    rw [List.filter_append, hnone]
    rfl
  refine ⟨rfl, fun _ => Or.inr ⟨_, _, rfl, rfl, fun _ _ => rfl, fun _ _ _ => Iff.rfl, ?_⟩,
    fun _ _ _ => Iff.rfl, fun _ _ => rfl, fun _ _ _ => Iff.rfl⟩
  intro groups groups' hgroups hgroups'
  cases hgroups
  cases hgroups'
  exact (hfilter h).trans (hfilter h').symm

theorem accountWith_mayRead (others : List SdkGroup) :
    (accountWith others).MayRead "cred_0123456789abcdef" oneChat :=
  ⟨rfl, by decide⟩

/-- A request of the credential. -/
def oneChatContext : HandlerContext := ⟨none, some "cred_0123456789abcdef", none⟩

/-- A group that can be listed makes no difference. -/
theorem credential_reads_isolated_listed :
    (accountWith []).respond plainRuntime oneChatContext 0 (.search ⟨"hello", none, none, none⟩) =
      (accountWith [⟨"g2", "secret", "", none, 0, .ok ["alice"]⟩]).respond plainRuntime
        oneChatContext 0 (.search ⟨"hello", none, none, none⟩) := by
  have hcred : truthy oneChatContext.credentialId = some "cred_0123456789abcdef" := rfl
  refine (((credential_reads_isolated hcred).1 (accountWith_mayRead _) (accountWith_mayRead _)
    (accountWith_agree (fun g hg => ?_) fun g hg => ?_)) _).2 ?_
  · cases hg
  · rw [List.mem_singleton.1 hg]
    decide
  · intro _ c c' hc hc'
    cases hc
    cases hc'
    rfl

/-- **A group outside of the credential's chats shows**: when its members cannot be read, the
search of the credential fails. -/
theorem foreign_group_fails_search :
    (accountWith []).MayRead "cred_0123456789abcdef" oneChat ∧
      (accountWith [⟨"g2", "secret", "", none, 0, .error "no network"⟩]).MayRead
        "cred_0123456789abcdef" oneChat ∧
      AgreeOn oneChat (accountWith [])
        (accountWith [⟨"g2", "secret", "", none, 0, .error "no network"⟩]) ∧
      (accountWith []).respond plainRuntime oneChatContext 0
          (.search ⟨"hello", none, none, none⟩) ≠
        (accountWith [⟨"g2", "secret", "", none, 0, .error "no network"⟩]).respond plainRuntime
          oneChatContext 0 (.search ⟨"hello", none, none, none⟩) := by
  have hcred : truthy oneChatContext.credentialId = some "cred_0123456789abcdef" := rfl
  have hagree : AgreeOn oneChat (accountWith [])
      (accountWith [⟨"g2", "secret", "", none, 0, .error "no network"⟩]) := by
    refine accountWith_agree (fun g hg => ?_) fun g hg => ?_
    · cases hg
    · rw [List.mem_singleton.1 hg]
      decide
  refine ⟨accountWith_mayRead _, accountWith_mayRead _, hagree, fun heq => ?_⟩
  have hsame := (search_isolated hcred (accountWith_mayRead _) (accountWith_mayRead _) hagree
    _).1 heq rfl _ _ rfl rfl
  cases hsame

end ReadState

end Signet
