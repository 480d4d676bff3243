import Signet.Core.Actions

/-!
# The MCP server

The `CallTool` handler of `createMcpServer`: a liveness check of the credential the
server holds, then `handleCallTool`, which finds the spec by its tool name, parses the
arguments and runs the handler with the credential's id as its context.

The check looks at the status and the expiry of the credential, and the handlers that
reach a group look at neither its chats nor its scopes. So a call stays inside the
credential exactly if the target of the call happens to lie there
(`tool_call_inside_iff`): the code has no check of its own that would stop it, and
`foreign_group_written` is a call that writes to a group the credential does not list.
-/

namespace Signet

open Lib

structure McpServer where
  /-- The specs of the registry that have the `mcp` surface, in its order. -/
  registry : List ActionSpec
  deps : RegistryDeps
  /-- `cachedCredential`, set at startup. -/
  cachedCredential : Option CredentialRecord
  credentialLookup : String → Result CredentialRecord

/-- `checkCredentialLiveness`, with the record it has looked up. -/
def checkCredentialLiveness (lookup : String → Result CredentialRecord)
    (credential : CredentialRecord) (now : Time) : Result CredentialRecord :=
  match lookup credential.credentialId with
  | .error _ =>
    .error (.authError "Credential check failed" [("credentialId", credential.credentialId)])
  | .ok current =>
    if current.status ≠ .active then
      .error (.authError ("Credential is " ++ current.status.name)
        [("credentialId", credential.credentialId)])
    else if current.expiresAt ≤ now then
      .error (.authError "Credential expired" [("credentialId", credential.credentialId)])
    else .ok current

namespace McpServer

variable (server : McpServer)

def findSpecByToolName (toolName : String) : Option ActionSpec :=
  server.registry.find? (·.deriveMcpToolName = toolName)

/-- The spec and its input, or the error a call ends with before its handler. -/
def parseCall (name : String) (arguments : JsonObject) : Result ToolInput :=
  match server.findSpecByToolName name with
  | none => .error (.notFoundError "tool" name)
  | some spec =>
    match spec.parseInput server.deps arguments with
    | .error issue => .error (.validationError (".".intercalate issue.path) issue.message)
    | .ok input => .ok input

/-- The handler context of a call: the credential's id, and no admin. -/
def handlerContext (credential : CredentialRecord) : HandlerContext :=
  ⟨none, some credential.credentialId, none⟩

def callTool (name : String) (arguments : JsonObject) (now : Time) : ActionRun ToolOutput :=
  match server.cachedCredential with
  | none => .fail (.authError "No active credential" [])
  | some credential => do
    let _ ← .ofExcept (checkCredentialLiveness server.credentialLookup credential now)
    let input ← .ofExcept (server.parseCall name arguments)
    runTool server.deps (handlerContext credential) now input

/-! ### Inside the credential -/

/-- The group is one of the credential's chats, through the id mapping, and the
effective scopes allow what is done there. -/
def Covers (credential : CredentialRecord) (groupId : String) (scopes : List PermissionScope) :
    Prop :=
  groupId ∈ scopedGroupIds server.deps.idMappings credential.chatIds ∧
    ∀ scope ∈ scopes, scope ∈ resolveScopeSet credential.effectiveScopes

/-- The credential the server holds, as it is now. -/
def Holds (credential : CredentialRecord) : Prop :=
  ∃ cached, server.cachedCredential = some cached ∧
    server.credentialLookup cached.credentialId = .ok credential

/-- Every call on a group that the tool call makes is covered by the credential the
server holds. -/
def StaysInside (name : String) (arguments : JsonObject) (now : Time) : Prop :=
  (server.callTool name arguments now).AllCalls (·.Within fun groupId scopes =>
    ∃ credential, server.Holds credential ∧ server.Covers credential groupId scopes)

/-- The target of a tool call that passes the liveness check and parses. -/
def callTarget (name : String) (arguments : JsonObject) (now : Time) : Option Target :=
  match server.cachedCredential with
  | none => none
  | some cached =>
    match checkCredentialLiveness server.credentialLookup cached now,
        server.parseCall name arguments with
    | .ok _, .ok input => input.target server.deps
    | _, _ => none

variable {server} {cached current : CredentialRecord} {now : Time}

/-- A tool call reaches exactly its target. -/
theorem callTool_within {allowed : String → List PermissionScope → Prop} {name : String}
    {arguments : JsonObject} :
    (server.callTool name arguments now).AllCalls (·.Within allowed) ↔
      ∀ t, server.callTarget name arguments now = some t → allowed t.1 t.2 := by
  unfold callTool callTarget
  cases server.cachedCredential with
  -- before any credential is known the call fails without reaching a client
  | none => exact ⟨fun _ _ ht => absurd ht nofun, fun _ => Logged.AllCalls.fail _⟩
  | some cached =>
    dsimp only
    rw [Logged.allCalls_bind_of_silent (Logged.calls_ofExcept _), Logged.value_ofExcept]
    -- the checks come first, and they call nothing
    cases checkCredentialLiveness server.credentialLookup cached now with
    | error e => simp
    | ok current =>
      simp only [Except.ok.injEq, forall_eq']
      rw [Logged.allCalls_bind_of_silent (Logged.calls_ofExcept _), Logged.value_ofExcept]
      cases server.parseCall name arguments with
      | error e => simp
      | ok input =>
        simp only [Except.ok.injEq, forall_eq']
        exact runTool_within

end McpServer

/-! ### A call outside the credential -/

/-- The scheme of a server that neither joins nor invites. -/
private def noOnboarding : OnboardingScheme where
  parse _ := .error (.internalError "no scheme")
  verify _ := .ok ()
  generate _ _ _ _ _ _ := .error (.internalError "no scheme")
  profileUpdateContentType := "profile"

/-- A credential for one chat that may only read. -/
private def readingCredential : CredentialRecord where
  credentialId := "cred_0000000000000001"
  operatorId := "op_0000000000000001"
  chatIds := ["conv_0000000000000001"]
  effectiveScopes := ⟨[.readMessages], []⟩
  status := .active
  issuedAt := 0
  expiresAt := 1000
  issuedBy := "owner"
  isExpired := false
  lastHeartbeat := 0

/-- A server with the message actions that holds the reading credential. -/
def readingServer : McpServer where
  registry := [.messageSend, .messageList, .messageInfo, .messageReply, .messageReact, .messageRead]
  deps :=
    { identities := [⟨"inbox_0000000000000001", none, none⟩]
      getManagedClient := fun identityId => some ⟨identityId, "inbox", quietClient⟩
      idMappings := some ⟨[⟨"g1", "conv_0000000000000001"⟩], by decide, by decide⟩
      onboardingScheme := noOnboarding
      operatorLabel := none
      getManagedClientForGroup := none
      getGroupInfo := fun groupId => .error (.notFoundError "group" groupId)
      join := none
      invite := none
      attachManagedIdentity := none
      storesInviteTag := false
      cleanupLocalState := none
      newLocalId := id
      newInviteTag := "tag"
      credentialLookup := none
      coerceNumber := fun _ => none }
  cachedCredential := some readingCredential
  credentialLookup := fun _ => .ok readingCredential

/-- **A credential that may only read one chat writes to another**: `message_send`
with the id of a group that is none of its chats. -/
theorem foreign_group_written :
    ¬ readingServer.StaysInside "message_send"
      [("chatId", .string "g2"), ("text", .string "hello")] 1 := by
  intro h
  have hcall := h (.sendMessage "g2" (.text "hello") none) (by decide) "g2" [.send] rfl
  obtain ⟨credential, ⟨cached, hcached, hlookup⟩, hin, -⟩ := hcall
  cases hlookup
  -- the group is none of the chats of the credential
  exact absurd hin (by decide)

/-- **A tool call stays inside the credential exactly if its target lies there**:
nothing between the liveness check and the client looks at chats or scopes. -/
theorem tool_call_inside_iff (server : McpServer) (name : String) (arguments : JsonObject)
    (now : Time) :
    server.StaysInside name arguments now ↔
      ∀ groupId scopes, server.callTarget name arguments now = some (groupId, scopes) →
        ∃ credential, server.Holds credential ∧ server.Covers credential groupId scopes := by
  unfold McpServer.StaysInside
  rw [McpServer.callTool_within]
  exact ⟨fun h groupId scopes ht => h (groupId, scopes) ht, fun h t ht => h t.1 t.2 ht⟩

end Signet
