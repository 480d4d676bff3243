import Signet.Core.MessageActions
import Signet.Schemas.Json
import Mathlib.Data.List.Infix

/-!
# Message search

The handler of `search.messages` in `createSearchActions`. With a chat it searches
that conversation, without one all groups of the client. A credential outside its
scopes gets an empty result rather than an error; an admin must name a chat and
hold an elevation for it (`authorizeAdminSearchAccess`), so an admin never reaches
the search across groups (`searchMessages_admin`).
-/

namespace Signet

open Lib

/-- `SearchActionDeps`, as `search.messages` uses it. -/
structure SearchActionDeps extends ActionDeps where
  /-- `credentialManager.lookup`, if there is a credential manager. -/
  credentialManager : Option (String → Result SchemaCredentialRecord)
  /-- JavaScript's `toLowerCase`. -/
  toLowerCase : String → String

structure SearchMessagesInput where
  query : String
  chatId : Option String
  limit : Option Nat
  identityLabel : Option String
  deriving DecidableEq

/-- The schema of `search.messages`. -/
def parseSearchMessages (args : JsonObject) : Except ZodIssue SearchMessagesInput := do
  return ⟨← Zod.field args "query" Zod.nonemptyString,
    ← Zod.optionalField args "chatId" Zod.string,
    ← Zod.optionalField args "limit" Zod.positiveInt,
    ← Zod.optionalField args "identityLabel" Zod.string⟩

structure MessageSearchHit where
  chatId : String
  messageId : String
  senderInboxId : String
  content : MessageContent
  sentAt : String
  deriving DecidableEq

structure SearchMessagesOutput where
  query : String
  «matches» : List MessageSearchHit
  total : Nat
  deriving DecidableEq

/-- `DEFAULT_LIMIT`. -/
def defaultSearchLimit : Nat := 20

/-- `{ limit: MESSAGES_PER_CONVERSATION }`. -/
def searchListOptions : ListMessagesOptions := ⟨some 100, none, none, none⟩

/-! ### Who may search -/

def authorizeAdminSearchAccess (ctx : HandlerContext) (chatId : Option String)
    (idMappings : Option IdMappings) (now : Time) : Result Unit :=
  match truthy ctx.credentialId, ctx.adminAuth, ctx.adminReadElevation with
  | some _, _, _ => .ok ()
  | none, none, none => .ok ()
  | none, _, elevation =>
    match truthy chatId, elevation with
    | none, _ =>
      .error (.permissionError "Admin message search requires a specific conversation"
        [("hint", "--chat")])
    | some chatId, some elevation =>
      authorizeAdminReadElevation elevation chatId idMappings now
    | some chatId, none =>
      .error (.permissionError "Admin message search requires owner-approved elevation"
        [("chatId", chatId), ("hint", "--dangerously-allow-message-read")])

/-- What a credential may search: everything (there is none), some groups, nothing. -/
inductive SearchScope where
  | unscoped
  | scoped (groupIds : List String)
  | nothing
  deriving DecidableEq

/-- The credential part of the handler. -/
def credentialSearchScope (deps : SearchActionDeps) (ctx : HandlerContext) : SearchScope :=
  match truthy ctx.credentialId with
  | none => .unscoped
  | some credentialId =>
    match deps.credentialManager with
    | none => .nothing
    | some lookup =>
      match lookup credentialId with
      | .error _ => .nothing
      | .ok credential =>
        if .readMessages ∉ resolveEffectiveScopes credential.effectiveScopes then .nothing
        else .scoped (scopedGroupIds deps.idMappings credential.chatIds)

/-- `scopedGroupIds && !scopedGroupIds.includes(groupId)` does not hold. -/
def SearchScope.admits : SearchScope → String → Bool
  | .unscoped, _ => true
  | .scoped groupIds, groupId => groupId ∈ groupIds
  | .nothing, _ => false

theorem SearchScope.admits_scoped {groupIds : List String} {groupId : String} :
    (SearchScope.scoped groupIds).admits groupId = true ↔ groupId ∈ groupIds :=
  decide_eq_true_iff

/-! ### The search -/

section Search

variable (deps : SearchActionDeps) (query : String) (maxResults : Nat)

/-- A message as a hit under the chat, if it is text that has the query in it. -/
def searchHit (chatId : String) (msg : XmtpDecodedMessage) : Option MessageSearchHit :=
  if msg.isText ∧ (deps.toLowerCase query).toList <:+: (deps.toLowerCase msg.content).toList then
    some ⟨chatId, msg.messageId, msg.senderInboxId, msg.content, msg.sentAt⟩
  else none

/-- The loop over the messages of a conversation. -/
def collectHits (chatId : String) : List MessageSearchHit → List XmtpDecodedMessage →
    List MessageSearchHit
  | hits, [] => hits
  | hits, msg :: messages =>
    if maxResults ≤ hits.length then hits
    else
      match searchHit deps query chatId msg with
      | some hit => collectHits chatId (hits ++ [hit]) messages
      | none => collectHits chatId hits messages

/-- The loop over the groups of the client; a group whose messages cannot be listed
is skipped. -/
def searchGroups (managed : ManagedClient) (scope : SearchScope) :
    List MessageSearchHit → List XmtpGroupInfo → ActionRun (List MessageSearchHit)
  | hits, [] => .ok hits
  | hits, group :: groups =>
    if maxResults ≤ hits.length then .ok hits
    else if !scope.admits group.groupId then searchGroups managed scope hits groups
    else do
      let listed ← .attempt (.listMessages group.groupId searchListOptions)
        (managed.client.listMessages group.groupId searchListOptions)
      match listed with
      | .error _ => searchGroups managed scope hits groups
      | .ok messages =>
        let chatId := (deps.idMappings.bind (·.getLocal group.groupId)).getD group.groupId
        searchGroups managed scope (collectHits deps query maxResults chatId hits messages) groups

end Search

/-- The empty result. -/
def noMatches (query : String) : SearchMessagesOutput := ⟨query, [], 0⟩

/-- The search itself, behind the checks. -/
def searchWith (deps : SearchActionDeps) (scope : SearchScope) (input : SearchMessagesInput)
    (managed : ManagedClient) : ActionRun SearchMessagesOutput :=
  let maxResults := input.limit.getD defaultSearchLimit
  match truthy input.chatId with
  | some chatId =>
    let groupId := resolveGroupId deps.idMappings chatId
    if !scope.admits groupId then .ok (noMatches input.query)
    else do
      let messages ← managed.list groupId searchListOptions
      let hits := collectHits deps input.query maxResults chatId [] messages
      .ok ⟨input.query, hits, hits.length⟩
  | none => do
    let groups ← .call .listGroups managed.client.listGroups
    let hits ← searchGroups deps input.query maxResults managed scope [] groups
    .ok ⟨input.query, hits, hits.length⟩

def searchMessages (deps : SearchActionDeps) (ctx : HandlerContext) (now : Time)
    (input : SearchMessagesInput) : ActionRun SearchMessagesOutput := do
  .ofExcept (authorizeAdminSearchAccess ctx input.chatId deps.idMappings now)
  let scope := credentialSearchScope deps ctx
  if scope = .nothing then .ok (noMatches input.query)
  else do
    let managed ← .ofExcept (deps.resolveClient input.identityLabel)
    searchWith deps scope input managed

/-! ### What the search finds -/

/-- Every hit of a conversation was there before or is a message of it. -/
theorem mem_collectHits {deps : SearchActionDeps} {query chatId : String} {maxResults : Nat}
    {messages : List XmtpDecodedMessage} {hit : MessageSearchHit} :
    ∀ {hits : List MessageSearchHit},
      hit ∈ collectHits deps query maxResults chatId hits messages →
      hit ∈ hits ∨ ∃ msg ∈ messages, searchHit deps query chatId msg = some hit := by
  induction messages with
  | nil => exact fun h => .inl h
  | cons msg messages ih =>
    intro hits h
    unfold collectHits at h
    split at h
    · exact .inl h
    · -- the message is a hit or it is passed over
      cases hhit : searchHit deps query chatId msg with
      | none =>
        rw [hhit] at h
        rcases ih h with hold | ⟨m, hm, hmhit⟩
        · exact .inl hold
        · exact .inr ⟨m, List.mem_cons_of_mem _ hm, hmhit⟩
      | some new =>
        rw [hhit] at h
        rcases ih h with hold | ⟨m, hm, hmhit⟩
        · rcases List.mem_append.1 hold with hold | hnew
          · exact .inl hold
          · rw [List.mem_singleton.1 hnew]
            exact .inr ⟨msg, List.mem_cons_self, hhit⟩
        · exact .inr ⟨m, List.mem_cons_of_mem _ hm, hmhit⟩

theorem searchHit_eq_some {deps : SearchActionDeps} {query chatId : String}
    {msg : XmtpDecodedMessage} {hit : MessageSearchHit}
    (h : searchHit deps query chatId msg = some hit) :
    hit.messageId = msg.messageId ∧ hit.content = msg.content := by
  unfold searchHit at h
  split at h
  · cases h
    exact ⟨rfl, rfl⟩
  · cases h

/-- **An admin searches one chat and holds an elevation that covers it.** -/
theorem authorizeAdminSearchAccess_admin {ctx : HandlerContext} {chatId : Option String}
    {idMappings : Option IdMappings} {now : Time} (hcred : ctx.credentialId = none)
    (hadmin : ctx.adminAuth ≠ none)
    (h : authorizeAdminSearchAccess ctx chatId idMappings now = .ok ()) :
    ∃ chat elevation, truthy chatId = some chat ∧ ctx.adminReadElevation = some elevation ∧
      elevation.Covers chat idMappings now := by
  obtain ⟨fingerprint, hauth⟩ := Option.ne_none_iff_exists'.1 hadmin
  unfold authorizeAdminSearchAccess at h
  rw [hcred, hauth] at h
  cases hchat : truthy chatId with
  | none =>
    rw [hchat] at h
    exact absurd h nofun
  | some chat =>
    rw [hchat] at h
    cases helev : ctx.adminReadElevation with
    | none =>
      rw [helev] at h
      exact absurd h nofun
    | some elevation =>
      rw [helev] at h
      exact ⟨chat, elevation, rfl, rfl, authorizeAdminReadElevation_eq_ok.1 h⟩

theorem credentialSearchScope_admin {deps : SearchActionDeps} {ctx : HandlerContext}
    (hcred : ctx.credentialId = none) : credentialSearchScope deps ctx = .unscoped := by
  unfold credentialSearchScope
  rw [hcred]
  rfl

/-- **What an admin finds**: messages of the chat asked for, under an elevation that
covers it. -/
theorem searchMessages_admin {deps : SearchActionDeps} {ctx : HandlerContext} {now : Time}
    {input : SearchMessagesInput} {output : SearchMessagesOutput}
    (hcred : ctx.credentialId = none) (hadmin : ctx.adminAuth ≠ none)
    (h : (searchMessages deps ctx now input).value = .ok output) :
    ∃ chat elevation managed messages, ctx.adminReadElevation = some elevation ∧
      elevation.Covers chat deps.idMappings now ∧ truthy input.chatId = some chat ∧
      deps.resolveClient input.identityLabel = .ok managed ∧
      managed.client.listMessages (resolveGroupId deps.idMappings chat) searchListOptions =
        .ok messages ∧
      ∀ hit ∈ output.matches, ∃ msg ∈ messages,
        hit.messageId = msg.messageId ∧ hit.content = msg.content := by
  unfold searchMessages at h
  obtain ⟨_, haccess, h⟩ := Logged.value_bind_ok.1 h
  obtain ⟨chat, elevation, hchat, helev, hcovers⟩ :=
    authorizeAdminSearchAccess_admin hcred hadmin haccess
  rw [credentialSearchScope_admin hcred, if_neg nofun] at h
  obtain ⟨managed, hclient, h⟩ := Logged.value_bind_ok.1 h
  have hclient : deps.resolveClient input.identityLabel = .ok managed := hclient
  -- there is a chat, so a single conversation is searched
  unfold searchWith at h
  simp only [hchat, SearchScope.admits, Bool.not_true, if_neg Bool.false_ne_true] at h
  obtain ⟨messages, hmessages, h⟩ := Logged.value_bind_ok.1 h
  cases h
  refine ⟨chat, elevation, managed, messages, helev, hcovers, hchat, hclient, hmessages, ?_⟩
  intro hit hmem
  rcases mem_collectHits hmem with hnil | ⟨msg, hmsg, hhit⟩
  · exact absurd hnil List.not_mem_nil
  · exact ⟨msg, hmsg, searchHit_eq_some hhit⟩

/-- **When a search of one chat reads**: the check of an admin passes, there is
something to search, a client is there, and the group is in scope. -/
theorem searchMessages_calls_ne_nil {deps : SearchActionDeps} {ctx : HandlerContext} {now : Time}
    {input : SearchMessagesInput} {chat : String} (hchat : truthy input.chatId = some chat) :
    (searchMessages deps ctx now input).calls ≠ [] ↔
      authorizeAdminSearchAccess ctx input.chatId deps.idMappings now = .ok () ∧
        (credentialSearchScope deps ctx).admits (resolveGroupId deps.idMappings chat) = true ∧
        ∃ managed, deps.resolveClient input.identityLabel = .ok managed := by
  unfold searchMessages
  rw [Logged.calls_ofExcept_bind_ne_nil]
  by_cases hscope : credentialSearchScope deps ctx = .nothing
  · simp [hscope, SearchScope.admits]
  · simp only [if_neg hscope, Logged.calls_ofExcept_bind_ne_nil]
    cases hin : (credentialSearchScope deps ctx).admits (resolveGroupId deps.idMappings chat) with
    | false => simp [searchWith, hchat, hin]
    | true =>
      constructor
      · rintro ⟨_, haccess, managed, hclient, -⟩
        exact ⟨haccess, rfl, managed, hclient⟩
      · rintro ⟨haccess, -, managed, hclient⟩
        refine ⟨(), haccess, managed, hclient, ?_⟩
        simp [searchWith, hchat, hin, ManagedClient.list, Logged.calls_bind]

end Signet
