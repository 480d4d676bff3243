import Signet.Admin.ElevationApproval
import Signet.Core.Actions
import Signet.Core.SearchActions
import Signet.Lib.Machine

/-!
# The admin servers

A request of an admin reaches an action over three transports: the admin socket
(`admin/server.ts`), `/v1/admin/:method` and the routes derived from the actions
(`http/server.ts`). Each one finds the action, validates the params, resolves an
elevation, builds the handler context and runs the handler. They differ in what they
resolve the elevation from: the first two from the validated params with the
dangerous-read flag of the raw ones, the third from the raw params.

`adminServer` runs requests of any sessions against one elevation manager. Between the
answer of `resolveForRequest` and the handler other segments may run, and the handler
runs on the stores, the clients and the mapping that it finds.

The transports decide nothing in the argument of `admin_reads_need_elevation`: whatever elevation
was resolved, the handler checks it against the chat it is about to read.

The manager finds an elevation under `iss:jti:chat`, and the payload schema of a token takes
any texts. So two sessions whose ids have colons can share a key, and then the approval of one
lets the other read (`admin_reads_unapproved`).
-/

namespace Signet

open Lib

/-! ### Actions of the registry -/

/-- An action of the registry. -/
inductive AdminMethod where
  | action (spec : ActionSpec)
  | searchMessages
  /-- An action whose output holds no message, with the outcome of its schema on each
  params. -/
  | other (id : String) (parse : JsonObject → Except ZodIssue JsonObject)

/-- `deriveRpcMethod`, which is the id of the action. -/
def AdminMethod.id : AdminMethod → String
  | .action spec => spec.id
  | .searchMessages => "search.messages"
  | .other id _ => id

/-- Validated params. -/
inductive AdminInput where
  | action (input : ToolInput)
  | search (input : SearchMessagesInput)
  | other (params : JsonObject)

/-- What a handler returns. -/
inductive AdminOutput where
  | action (output : ToolOutput)
  | search (output : SearchMessagesOutput)
  | other

/-- The dependencies of the action factories, which share their stores. -/
structure AdminDeps extends RegistryDeps where
  /-- `SearchActionDeps.credentialManager`. -/
  credentialManager : Option (String → Result SchemaCredentialRecord)
  /-- JavaScript's `toLowerCase`. -/
  toLowerCase : String → String
  /-- The handlers of the other actions. -/
  runOther : JsonObject → Result Unit

def AdminDeps.searchDeps (deps : AdminDeps) : SearchActionDeps :=
  ⟨deps.toActionDeps, deps.credentialManager, deps.toLowerCase⟩

/-- `spec.input.safeParse`. -/
def AdminMethod.parseInput (deps : RegistryDeps) (params : JsonObject) :
    AdminMethod → Except ZodIssue AdminInput
  | .action spec => .action <$> spec.parseInput deps params
  | .searchMessages => .search <$> parseSearchMessages params
  | .other _ parse => .other <$> parse params

/-- `spec.handler`. -/
def runAdmin (deps : AdminDeps) (ctx : HandlerContext) (now : Time) :
    AdminInput → Result AdminOutput
  | .action input => AdminOutput.action <$> (runTool deps.toRegistryDeps ctx now input).value
  | .search input => AdminOutput.search <$> (searchMessages deps.searchDeps ctx now input).value
  | .other params => (fun _ => .other) <$> deps.runOther params

/-! ### Params for the elevation -/

/-- A member of an object, if the field is there. -/
def jsonMember {α : Type} (name : String) (wrap : α → JsonValue) (value : Option α) :
    JsonObject :=
  (value.map fun v => (name, wrap v)).toList

/-- The validated params as an object. No elevation is resolved for the other actions,
whatever their params are. -/
def AdminInput.params : AdminInput → JsonObject
  | .action (.messageList input) =>
    ("chatId", .string input.chatId) :: jsonMember "limit" .number input.limit ++
      jsonMember "before" .string input.before ++ jsonMember "after" .string input.after ++
      jsonMember "identityLabel" .string input.identityLabel
  | .action (.messageInfo input) =>
    [("chatId", .string input.chatId), ("messageId", .string input.messageId)] ++
      jsonMember "identityLabel" .string input.identityLabel
  | .search input =>
    ("query", .string input.query) :: jsonMember "chatId" .string input.chatId ++
      jsonMember "limit" (fun limit => .number limit) input.limit ++
      jsonMember "identityLabel" .string input.identityLabel
  | .action _ => []
  | .other params => params

def mergeTransportControls (rawParams validatedParams : JsonObject) : JsonObject :=
  match rawParams.get? "dangerouslyAllowMessageRead" with
  | some flag =>
    if wantsDangerousMessageRead rawParams then
      validatedParams.filter (·.1 ≠ "dangerouslyAllowMessageRead") ++
        [("dangerouslyAllowMessageRead", flag)]
    else validatedParams
  | none => validatedParams

/-- How a request comes in. -/
inductive AdminTransport where
  | socket
  /-- `/v1/admin/:method`. -/
  | adminRoute
  /-- A route derived from an action, with `auth: "admin"`. -/
  | actionRoute
  deriving DecidableEq

/-- The params that `resolveForRequest` is given. -/
def AdminTransport.elevationParams (transport : AdminTransport) (rawParams : JsonObject)
    (input : AdminInput) : JsonObject :=
  match transport with
  | .socket | .adminRoute => mergeTransportControls rawParams input.params
  | .actionRoute => rawParams

/-- The error for params that the schema rejects. -/
def AdminTransport.paramsError (transport : AdminTransport) (issue : ZodIssue) : SignetError :=
  match transport with
  | .socket | .adminRoute =>
    .validationError "params" (".".intercalate issue.path ++ ": " ++ issue.message)
  | .actionRoute => .validationError (".".intercalate issue.path) issue.message

/-! ### Requests in flight -/

/-- A request whose elevation is resolved. -/
structure AdminHandling where
  session : AdminSession
  input : AdminInput
  elevation : Option AdminReadElevation

/-- `makeHandlerContext` for an admin. -/
def AdminHandling.context (handling : AdminHandling) : HandlerContext :=
  ⟨some handling.session.iss, none, handling.elevation⟩

/-- The elevation manager and the requests that wait for their handler. -/
structure AdminServerState where
  elevation : ElevationState AdminInput
  handling : OrdMap Nat AdminHandling

/-- A request comes in, the elevation manager moves, or a handler runs. -/
inductive AdminAction where
  /-- An authenticated request. -/
  | request (call : Nat) (transport : AdminTransport) (session : AdminSession) (method : String)
      (params : JsonObject) (deps : RegistryDeps) (now : Time)
  | elevation (a : ElevationAction AdminInput)
  | handle (call : Nat) (deps : AdminDeps) (now : Time)

/-- What the servers do to the outside. -/
inductive AdminEvent where
  | elevation (e : ElevationEvent AdminInput)
  /-- A request fails before its handler runs. -/
  | rejected (call : Nat) (session : AdminSession) (error : SignetError)
  /-- A handler has run on this mapping at this time, and the request is answered. -/
  | responded (call : Nat) (session : AdminSession) (idMappings : Option IdMappings) (now : Time)
      (result : Result AdminOutput)

def AdminEvent.elevation? : AdminEvent → Option (ElevationEvent AdminInput)
  | .elevation e => some e
  | _ => none

namespace AdminServerState

/-- The servers as started. -/
def init : AdminServerState :=
  ⟨.init, .empty⟩

/-- The servers hear what the elevation manager does: `resolveForRequest` returns to
the request that called it. -/
def receive (s : AdminServerState) :
    List (ElevationEvent AdminInput) → AdminServerState × List AdminEvent
  | [] => (s, [])
  | .resolved call input (.error e) :: es =>
    let (s', es') := s.receive es
    (s', .elevation (.resolved call input (.error e)) :: .rejected call input.session e :: es')
  | .resolved call input (.ok elevation) :: es =>
    let handling : AdminHandling := ⟨input.session, input.caller, elevation⟩
    let (s', es') := receive { s with handling := s.handling.set call handling } es
    (s', .elevation (.resolved call input (.ok elevation)) :: es')
  | e :: es =>
    let (s', es') := s.receive es
    (s', .elevation e :: es')

end AdminServerState

/-! ### The step -/

section Step

variable (ttlMs : Nat) (registry : List AdminMethod)

/-- A segment of the elevation manager. -/
def elevate (s : AdminServerState) (a : ElevationAction AdminInput) :
    Option (AdminServerState × List AdminEvent) :=
  (elevationStep ttlMs s.elevation a).map fun (elevation, es) =>
    { s with elevation := elevation }.receive es

/-- One segment of one request. -/
def adminStep (s : AdminServerState) : AdminAction → Option (AdminServerState × List AdminEvent)
  | .request call transport session method params deps now =>
    if s.handling.has call then none
    else
      match registry.find? (·.id = method) with
      | none => some (s, [.rejected call session (.notFoundError "Method" method)])
      | some spec =>
        match spec.parseInput deps params with
        | .error issue => some (s, [.rejected call session (transport.paramsError issue)])
        | .ok input =>
          elevate ttlMs s (.resolve call
            ⟨method, transport.elevationParams params input, session, input⟩ deps.idMappings now)
  | .elevation a =>
    match a with
    | .resolve .. => none
    | a => elevate ttlMs s a
  | .handle call deps now =>
    match s.handling.get? call with
    | none => none
    | some handling =>
      some ({ s with handling := s.handling.erase call },
        [.responded call handling.session deps.idMappings now
          (runAdmin deps handling.context now handling.input)])

/-- What a request asks of the elevation manager. -/
def AdminAction.resolves? : AdminAction → Option (ElevationAction AdminInput)
  | .request call transport session method params deps now =>
    (registry.find? (·.id = method)).bind fun spec =>
      match spec.parseInput deps params with
      | .error _ => none
      | .ok input =>
        some (.resolve call ⟨method, transport.elevationParams params input, session, input⟩
          deps.idMappings now)
  | _ => none

/-- A request reuses an elevation of its own session. -/
def reusesOwnSession (s : AdminServerState) (a : AdminAction) : Bool :=
  ((a.resolves? registry).bind s.elevation.reused?).all fun (request, cached) =>
    cached.session = request.input.session

/-- **The admin servers under concurrent requests.** -/
def adminServer : Machine AdminServerState AdminAction AdminEvent where
  init := .init
  step := adminStep ttlMs registry

end Step

/-! ### What a response shows -/

/-- The messages whose content an output of the message and conversation actions
holds. -/
def ToolOutput.messageIds : ToolOutput → List String
  | .messages output => output.messages.map (·.messageId)
  | .message found => [found.messageId]
  | .sent _ | .conversation _ => []

/-- The messages whose content an output holds. -/
def AdminOutput.messageIds : AdminOutput → List String
  | .action output => output.messageIds
  | .search output => output.matches.map (·.messageId)
  | .other => []

/-- **What the clients promise**: `groupOf` is the group of a message of the network,
and a client answers with messages of the group it is asked for. -/
structure AdminDeps.Truthful (groupOf : String → String) (deps : AdminDeps) : Prop where
  listed : ∀ {identityId managed groupId options messages},
    deps.getManagedClient identityId = some managed →
    managed.client.listMessages groupId options = .ok messages →
    ∀ message ∈ messages, groupOf message.messageId = groupId
  found : ∀ {identityId managed messageId message},
    deps.getManagedClient identityId = some managed →
    managed.client.getMessageById messageId = .ok (some message) →
    groupOf message.messageId = message.groupId

/-- The handlers run on truthful clients. -/
def AdminAction.Truthful (groupOf : String → String) : AdminAction → Prop
  | .handle _ deps _ => deps.Truthful groupOf
  | _ => True

/-! ### Handlers check the elevation -/

section Handlers

variable {groupOf : String → String} {deps : AdminDeps} {handling : AdminHandling} {now : Time}
  {groupId : String}

/-- The elevation of a request lets its session read the group now. -/
def AdminHandling.MayRead (handling : AdminHandling) (idMappings : Option IdMappings) (now : Time)
    (groupId : String) : Prop :=
  ∃ elevation, handling.elevation = some elevation ∧ now < elevation.expiresAt ∧
    groupId ∈ scopedGroupIds idMappings elevation.chatIds

private theorem mayRead_of_covers {elevation : AdminReadElevation} {chatId : String}
    {idMappings : Option IdMappings} (helev : handling.context.adminReadElevation = some elevation)
    (hcovers : elevation.Covers chatId idMappings now)
    (hgroup : resolveGroupId idMappings chatId = groupId) :
    handling.MayRead idMappings now groupId :=
  ⟨elevation, helev, hcovers.1, hgroup ▸ hcovers.2⟩

/-- The output of an action, and what it shows. -/
private theorem value_as {α : Type} {run : ActionRun α} {wrap : α → ToolOutput}
    {output : ToolOutput} (h : (run.as wrap).value = .ok output) :
    ∃ a, run.value = .ok a ∧ wrap a = output := by
  obtain ⟨a, ha, hwrap⟩ := Logged.value_bind_ok.1 h
  exact ⟨a, ha, Except.ok.inj hwrap⟩

/-- An action that is no read shows no message. -/
private theorem nothing_shown {α : Type} {run : ActionRun α} {wrap : α → ToolOutput}
    {output : ToolOutput} (h : (run.as wrap).value = .ok output)
    (hwrap : ∀ a, (wrap a).messageIds = []) {groupId : String} :
    groupId ∉ output.messageIds.map groupOf := by
  obtain ⟨a, -, rfl⟩ := value_as h
  rw [hwrap]
  exact List.not_mem_nil

/-- A message of a list of truthful clients is one of the group that was asked for. -/
private theorem groupOf_listed (htruthful : deps.Truthful groupOf) {label : Option String}
    {managed : ManagedClient} {group : String} {options : ListMessagesOptions}
    {messages : List XmtpDecodedMessage} {message : XmtpDecodedMessage}
    (hclient : deps.resolveClient label = .ok managed)
    (hlisted : managed.client.listMessages group options = .ok messages)
    (hmem : message ∈ messages) : groupOf message.messageId = group := by
  obtain ⟨identityId, hmanaged⟩ := ActionDeps.getManagedClient_of_resolveClient hclient
  exact htruthful.listed hmanaged hlisted message hmem

/-- **A message action shows an admin only what the elevation covers.** -/
theorem runTool_mayRead (htruthful : deps.Truthful groupOf) {input : ToolInput}
    {output : ToolOutput}
    (h : (runTool deps.toRegistryDeps handling.context now input).value = .ok output)
    (hshown : groupId ∈ output.messageIds.map groupOf) :
    handling.MayRead deps.idMappings now groupId := by
  obtain ⟨messageId, hmem, rfl⟩ := List.mem_map.1 hshown
  cases input with
  | messageList input =>
    obtain ⟨out, hout, rfl⟩ := value_as h
    obtain ⟨hadmin, managed, hclient, hlisted⟩ := messageList_value hout
    obtain ⟨elevation, helev, hcovers⟩ := authorizeAdminReadAccess_admin rfl (by nofun) hadmin
    obtain ⟨message, hmessage, rfl⟩ := List.mem_map.1 hmem
    exact mayRead_of_covers helev hcovers (groupOf_listed htruthful hclient hlisted hmessage).symm
  | messageInfo input =>
    obtain ⟨found, hfound, rfl⟩ := value_as h
    obtain ⟨hadmin, hgroup, managed, hclient, hget⟩ := messageInfo_value hfound
    obtain ⟨elevation, helev, hcovers⟩ := authorizeAdminReadAccess_admin rfl (by nofun) hadmin
    obtain ⟨identityId, hmanaged⟩ := ActionDeps.getManagedClient_of_resolveClient hclient
    have hid : messageId = found.messageId := List.mem_singleton.1 hmem
    rw [hid, htruthful.found hmanaged hget, hgroup]
    exact mayRead_of_covers helev hcovers rfl
  | messageSend | messageReply | messageReact | messageRead | chatCreate | chatList | chatInfo
  | chatUpdate | chatUpdateProfile | chatJoin | chatInvite | chatLeave | chatRm | chatAddMember
  | chatRemoveMember | chatPromoteMember | chatDemoteMember | chatMembers =>
    exact absurd hshown (nothing_shown h fun _ => rfl)

/-- **A handler shows an admin only what the elevation covers.** -/
theorem runAdmin_mayRead (htruthful : deps.Truthful groupOf) {output : AdminOutput}
    (h : runAdmin deps handling.context now handling.input = .ok output)
    (hshown : groupId ∈ output.messageIds.map groupOf) :
    handling.MayRead deps.idMappings now groupId := by
  unfold runAdmin at h
  split at h
  · next input _ =>
    cases htool : (runTool deps.toRegistryDeps handling.context now input).value with
    | error e =>
      rw [htool] at h
      cases h
    | ok out =>
      rw [htool] at h
      cases h
      exact runTool_mayRead htruthful htool hshown
  · next input _ =>
    cases hsearch : (searchMessages deps.searchDeps handling.context now input).value with
    | error e =>
      rw [hsearch] at h
      cases h
    | ok out =>
      rw [hsearch] at h
      cases h
      obtain ⟨chat, elevation, managed, messages, helev, hcovers, -, hclient, hlisted, hhits⟩ :=
        searchMessages_admin rfl (by nofun) hsearch
      obtain ⟨messageId, hmem, rfl⟩ := List.mem_map.1 hshown
      obtain ⟨hit, hhit, rfl⟩ := List.mem_map.1 hmem
      obtain ⟨message, hmessage, hid, -⟩ := hhits hit hhit
      rw [hid]
      exact mayRead_of_covers helev hcovers
        (groupOf_listed htruthful hclient hlisted hmessage).symm
  · next params _ =>
    cases hother : deps.runOther params with
    | error e =>
      rw [hother] at h
      cases h
    | ok _ =>
      rw [hother] at h
      cases h
      exact absurd hshown List.not_mem_nil

end Handlers

/-! ### The invariant -/

/-- The part of a trace that concerns the elevation manager. -/
def elevationTrace (tr : List AdminEvent) : List (ElevationEvent AdminInput) :=
  tr.filterMap AdminEvent.elevation?

/-- The elevation of a request was approved for its session. -/
def AdminHandling.Approved (tr : List (ElevationEvent AdminInput)) (handling : AdminHandling) :
    Prop :=
  ∀ elevation, handling.elevation = some elevation → ∃ cached : CachedElevation,
    cached.elevation = elevation ∧ cached.session = handling.session ∧ cached.Approved tr

/-- **Requests run with elevations approved for their sessions.** -/
structure AdminInv (tr : List AdminEvent) (s : AdminServerState) : Prop where
  elevation : ElevationInv (elevationTrace tr) s.elevation
  /-- Calls reuse elevations of their own session. -/
  reused : s.elevation.calls.Forall fun _ phase =>
    phase.Reuses fun request cached => cached.session = request.input.session
  handling : s.handling.Forall fun _ handling => handling.Approved (elevationTrace tr)

/-- A response shows messages of groups for which the session had an elevation. -/
def AdminEvent.Elevated (groupOf : String → String) (before : List AdminEvent) :
    AdminEvent → Prop
  | .responded _ session idMappings now (.ok output) =>
    ∀ groupId ∈ output.messageIds.map groupOf, ∃ cached : CachedElevation,
      cached.session = session ∧ cached.Approved (elevationTrace before) ∧
        now < cached.elevation.expiresAt ∧ resolveGroupId idMappings cached.chatId = groupId
  | _ => True

theorem AdminHandling.Approved.append {tr : List (ElevationEvent AdminInput)}
    {handling : AdminHandling} (h : handling.Approved tr) (es : List (ElevationEvent AdminInput)) :
    handling.Approved (tr ++ es) := by
  intro elevation helev
  obtain ⟨cached, hsame, hsession, happroved⟩ := h elevation helev
  exact ⟨cached, hsame, hsession, happroved.append es⟩

/-- What the servers do when the elevation manager has moved: they report its events,
and a request whose elevation is resolved goes on with what was returned. -/
theorem AdminServerState.receive_spec {P : AdminHandling → Prop} {s : AdminServerState}
    {es : List (ElevationEvent AdminInput)}
    (hold : s.handling.Forall fun _ handling => P handling)
    (hnew : ∀ {call input elevation}, .resolved call input (.ok elevation) ∈ es →
      P ⟨input.session, input.caller, elevation⟩) :
    (s.receive es).1.elevation = s.elevation ∧
      ((s.receive es).1.handling.Forall fun _ handling => P handling) ∧
      elevationTrace (s.receive es).2 = es ∧
      ∀ groupOf before, ∀ e ∈ (s.receive es).2, AdminEvent.Elevated groupOf before e := by
  induction es generalizing s with
  | nil => exact ⟨rfl, hold, rfl, fun _ _ _ h => absurd h List.not_mem_nil⟩
  | cons e es ih =>
    have hrest : ∀ {call input elevation}, .resolved call input (.ok elevation) ∈ es →
        P ⟨input.session, input.caller, elevation⟩ :=
      fun h => hnew (List.mem_cons_of_mem _ h)
    -- an event that resolves nothing is only reported
    have hplain : ∀ reported : List AdminEvent,
        elevationTrace reported = [e] → (∀ groupOf before, ∀ e ∈ reported,
          AdminEvent.Elevated groupOf before e) →
        (s.receive es).1.elevation = s.elevation ∧
          ((s.receive es).1.handling.Forall fun _ handling => P handling) ∧
          elevationTrace (reported ++ (s.receive es).2) = e :: es ∧
          ∀ groupOf before, ∀ e ∈ reported ++ (s.receive es).2,
            AdminEvent.Elevated groupOf before e := by
      intro reported htrace helevated
      obtain ⟨h₁, h₂, h₃, h₄⟩ := ih hold hrest
      refine ⟨h₁, h₂, ?_, fun groupOf before e' hmem => ?_⟩
      · rw [elevationTrace, List.filterMap_append, ← elevationTrace, ← elevationTrace, htrace, h₃]
        rfl
      · rcases List.mem_append.1 hmem with hmem | hmem
        · exact helevated groupOf before e' hmem
        · exact h₄ groupOf before e' hmem
    cases e with
    | notify call chatIds includeExpired =>
      exact hplain [.elevation (.notify call chatIds includeExpired)] rfl
        fun _ _ e h => by rw [List.mem_singleton.1 h]; trivial
    | authorized call session =>
      exact hplain [.elevation (.authorized call session)] rfl
        fun _ _ e h => by rw [List.mem_singleton.1 h]; trivial
    | approved call session elevation =>
      exact hplain [.elevation (.approved call session elevation)] rfl
        fun _ _ e h => by rw [List.mem_singleton.1 h]; trivial
    | resolved call input result =>
      cases result with
      | error e =>
        refine hplain [.elevation (.resolved call input (.error e)),
          .rejected call input.session e] rfl fun _ _ e' h => ?_
        rcases List.mem_cons.1 h with rfl | h
        · trivial
        · rw [List.mem_singleton.1 h]
          trivial
      | ok elevation =>
        -- the request goes on with the elevation that was returned
        have hset := hold.set (k := call) (hnew List.mem_cons_self)
        obtain ⟨h₁, h₂, h₃, h₄⟩ := ih (s := { s with
          handling := s.handling.set call ⟨input.session, input.caller, elevation⟩ }) hset hrest
        refine ⟨h₁, h₂, ?_, fun groupOf before e' hmem => ?_⟩
        · exact congrArg (ElevationEvent.resolved call input (.ok elevation) :: ·) h₃
        · rcases List.mem_cons.1 hmem with rfl | hmem
          · trivial
          · exact h₄ groupOf before e' hmem

theorem AdminInv.initial : AdminInv [] AdminServerState.init where
  elevation := ElevationInv.initial
  reused := OrdMap.Forall.empty
  handling := OrdMap.Forall.empty

/-- A segment of the elevation manager keeps the invariant and answers no request. -/
theorem AdminInv.elevate {ttlMs : Nat} {tr : List AdminEvent} {s s' : AdminServerState}
    {a : ElevationAction AdminInput} {es : List AdminEvent} (hI : AdminInv tr s)
    (hown : ∀ request cached, s.elevation.reused? a = some (request, cached) →
      cached.session = request.input.session)
    (h : elevate ttlMs s a = some (s', es)) :
    AdminInv (tr ++ es) s' ∧ ∀ groupOf before, ∀ e ∈ es, AdminEvent.Elevated groupOf before e := by
  obtain ⟨⟨elevation, elevationEvents⟩, hstep, heq⟩ := Option.map_eq_some_iff.1 h
  have hsound := elevationStep_sound hstep
  have heq : AdminServerState.receive { s with elevation := elevation } elevationEvents =
      (s', es) := heq
  have happroved : ∀ {call : Nat} {input : ResolveInput AdminInput}
      {granted : Option AdminReadElevation}, .resolved call input (.ok granted) ∈ elevationEvents →
      (AdminHandling.mk input.session input.caller granted).Approved
        (elevationTrace tr ++ elevationEvents) := by
    rintro call input granted hmem elevation rfl
    obtain ⟨cached, hsame, hsession, happroved⟩ := hI.elevation.of_resolved hI.reused hsound hmem
    exact ⟨cached, hsame, hsession, happroved.append _⟩
  have hold : s.handling.Forall fun _ handling =>
      handling.Approved (elevationTrace tr ++ elevationEvents) :=
    hI.handling.imp fun h => h.append _
  obtain ⟨h₁, h₂, h₃, h₄⟩ :=
    AdminServerState.receive_spec (s := { s with elevation := elevation }) hold happroved
  rw [heq] at h₁ h₂ h₃ h₄
  have htrace : elevationTrace (tr ++ es) = elevationTrace tr ++ elevationEvents := by
    rw [elevationTrace, List.filterMap_append, ← elevationTrace, ← elevationTrace, h₃]
  refine ⟨⟨?_, ?_, ?_⟩, h₄⟩
  · rw [htrace, h₁]
    exact hI.elevation.step hsound
  · rw [h₁]
    exact hsound.reuses hown hI.reused
  · rw [htrace]
    exact h₂

/-- **Every step keeps the invariant, and answers only what was approved.** -/
theorem AdminInv.step {ttlMs : Nat} {registry : List AdminMethod} {groupOf : String → String}
    {tr : List AdminEvent} {s s' : AdminServerState} {a : AdminAction} {es : List AdminEvent}
    (hI : AdminInv tr s) (htruthful : a.Truthful groupOf)
    (hreuses : reusesOwnSession registry s a = true)
    (h : adminStep ttlMs registry s a = some (s', es)) :
    AdminInv (tr ++ es) s' ∧
      ∀ before e after, es = before ++ e :: after →
        AdminEvent.Elevated groupOf (tr ++ before) e := by
  -- a segment that answers no request
  have hquiet : (AdminInv (tr ++ es) s' ∧
      ∀ groupOf before, ∀ e ∈ es, AdminEvent.Elevated groupOf before e) →
      AdminInv (tr ++ es) s' ∧ ∀ before e after, es = before ++ e :: after →
        AdminEvent.Elevated groupOf (tr ++ before) e := by
    rintro ⟨hinv, helevated⟩
    refine ⟨hinv, fun before e after hes => helevated groupOf _ e ?_⟩
    rw [hes]
    exact List.mem_append_right _ List.mem_cons_self
  have hrejected : ∀ {call session error}, s' = s → es = [.rejected call session error] →
      AdminInv (tr ++ es) s' ∧
        ∀ groupOf before, ∀ e ∈ es, AdminEvent.Elevated groupOf before e := by
    rintro call session error rfl rfl
    refine ⟨⟨?_, hI.reused, ?_⟩, fun _ _ e hmem => ?_⟩
    · rw [elevationTrace, List.filterMap_append]
      exact hI.elevation.append []
    · rw [elevationTrace, List.filterMap_append]
      exact hI.handling.imp fun h => h.append []
    · rw [List.mem_singleton.1 hmem]
      trivial
  cases a with
  | request call transport session method params deps now =>
    apply hquiet
    dsimp only [adminStep] at h
    split at h
    · cases h
    · split at h
      · cases h
        exact hrejected rfl rfl
      · next spec hspec =>
        split at h
        · cases h
          exact hrejected rfl rfl
        · next input hinput =>
          refine hI.elevate (fun request cached hreused => ?_) h
          simp only [reusesOwnSession, AdminAction.resolves?, hspec, Option.bind_some, hinput,
            hreused] at hreuses
          exact of_decide_eq_true hreuses
  | elevation a =>
    apply hquiet
    cases a with
    | resolve => cases h
    | timer | authorized | fingerprint | notified | audited =>
      exact hI.elevate (fun _ _ hreused => by cases hreused) h
  | handle call deps now =>
    dsimp only [adminStep] at h
    split at h
    · cases h
    · next handling hcall =>
      cases h
      refine ⟨⟨?_, hI.reused, ?_⟩, fun before e after hes => ?_⟩
      · rw [elevationTrace, List.filterMap_append]
        exact hI.elevation.append []
      · rw [elevationTrace, List.filterMap_append]
        exact (hI.handling.imp fun h => h.append []).erase call
      · -- the response is the only event of the step
        obtain ⟨rfl, rfl⟩ : before = [] ∧ e = .responded call handling.session deps.idMappings now
            (runAdmin deps handling.context now handling.input) := by
          cases before with
          | nil =>
            cases hes
            exact ⟨rfl, rfl⟩
          | cons e₀ rest =>
            have hnil : rest ++ e :: after = [] := (List.cons.inj hes).2.symm
            cases rest <;> cases hnil
        rw [List.append_nil]
        cases hrun : runAdmin deps handling.context now handling.input with
        | error e => trivial
        | ok output =>
          intro groupId hshown
          obtain ⟨elevation, helev, hlive, hgroup⟩ := runAdmin_mayRead htruthful hrun hshown
          obtain ⟨cached, rfl, hsession, happroved⟩ :=
            hI.handling.of_get? hcall elevation helev
          -- the scope of the elevation is its one chat
          rw [happroved.scope, mem_scopedGroupIds] at hgroup
          obtain ⟨chatId, hchat, hresolves⟩ := hgroup
          rw [List.mem_singleton.1 hchat] at hresolves
          exact ⟨cached, hsession, happroved, hlive, hresolves⟩

/-- **Admin reads need an approved elevation**: in every run of the admin servers on
truthful clients in which requests reuse elevations of their own session, a response that
shows a message of a group was given while an elevation was live that the approver had
authorized for the session of the request, and whose chat resolves to that group. -/
theorem admin_reads_need_elevation {ttlMs : Nat} {registry : List AdminMethod}
    {groupOf : String → String} {tr : List AdminEvent} {s : AdminServerState}
    (h : Run (adminServer ttlMs registry)
      (fun s a => a.Truthful groupOf ∧ reusesOwnSession registry s a = true) tr s)
    {before after : List AdminEvent} {call : Nat} {session : AdminSession}
    {idMappings : Option IdMappings} {now : Time} {output : AdminOutput}
    (htr : tr = before ++ .responded call session idMappings now (.ok output) :: after)
    (groupId : String) (hshown : groupId ∈ output.messageIds.map groupOf) :
    ∃ cached : CachedElevation, cached.session = session ∧
      cached.Approved (elevationTrace before) ∧ now < cached.elevation.expiresAt ∧
      resolveGroupId idMappings cached.chatId = groupId := by
  have hinv := h.invariant
    (I := fun tr s => AdminInv tr s ∧ EachAfter (AdminEvent.Elevated groupOf) tr)
    ⟨.initial, eachAfter_nil _⟩ (fun _ hI hok hstep => by
      obtain ⟨hinv, hnew⟩ := hI.1.step hok.1 hok.2 hstep
      exact ⟨hinv, hI.2.append hnew⟩)
  exact hinv.2 before _ after htr groupId hshown

/-! ### A read that is let through -/

theorem readableNetworkIds_nodup : ["g1"].Nodup := List.nodup_singleton _

theorem readableLocalIds_nodup : ["conv_0000000000000001"].Nodup := List.nodup_singleton _

/-- A conversation with one message. -/
def readableDeps : AdminDeps :=
  { quietDeps
      { quietClient with
        listMessages := fun groupId _ =>
          .ok (if groupId = "g1" then
            [⟨"m1", "g1", "sender", "text", "hello", true, "2026-01-01T00:00:00.000Z", none⟩]
          else []) }
      (some ⟨[⟨"g1", "conv_0000000000000001"⟩], readableNetworkIds_nodup,
        readableLocalIds_nodup⟩) with
    credentialManager := none
    toLowerCase := id
    runOther := fun _ => .ok () }

theorem readableDeps_truthful : readableDeps.Truthful fun _ => "g1" where
  listed hmanaged hlisted message hmem := by
    cases hmanaged
    cases hlisted
    split at hmem
    · next hgroup => exact hgroup.symm
    · exact absurd hmem List.not_mem_nil
  found hmanaged hfound := by
    cases hmanaged
    cases hfound

/-- A request of a session to list the messages of the conversation, over the socket, the segments
of the elevation manager for it, and its answer. -/
def readBy (session : AdminSession) (call : Nat) (segments : List (ElevationAction AdminInput))
    (now : Time) : List AdminAction :=
  .request call .socket session "message.list"
      [("chatId", .string "g1"), ("dangerouslyAllowMessageRead", .bool true)]
      readableDeps.toRegistryDeps now ::
    segments.map .elevation ++ [.handle call readableDeps now]

theorem readBy_truthful {session : AdminSession} {call : Nat}
    {segments : List (ElevationAction AdminInput)} {now : Time} :
    ∀ a ∈ readBy session call segments now, a.Truthful fun _ => "g1" := by
  intro a ha
  rcases List.mem_cons.1 ha with rfl | ha
  · trivial
  · rcases List.mem_append.1 ha with ha | ha
    · obtain ⟨_, -, rfl⟩ := List.mem_map.1 ha
      trivial
    · rw [List.mem_singleton.1 ha]
      exact readableDeps_truthful

def approvedRead (session : AdminSession) : List AdminAction :=
  readBy session 1 [.authorized 1 (.ok ()), .fingerprint 1 (.ok "fingerprint") "approval_1" 0,
    .notified 1 (.ok ()) 1, .audited 1 (.ok ()) 2] 0

def AdminEvent.shows (session : AdminSession) : AdminEvent → Bool
  | .responded _ session' _ _ (.ok output) => session' = session && output.messageIds = ["m1"]
  | _ => false

theorem AdminEvent.shows_iff {session : AdminSession} {e : AdminEvent}
    (h : e.shows session = true) :
    ∃ call idMappings now output, e = .responded call session idMappings now (.ok output) ∧
      "g1" ∈ output.messageIds.map fun _ => "g1" := by
  unfold shows at h
  split at h
  · next call session' idMappings now output =>
    obtain ⟨hsession, hids⟩ := Bool.and_eq_true_iff.1 h
    refine ⟨call, idMappings, now, output, by rw [of_decide_eq_true hsession], ?_⟩
    rw [of_decide_eq_true hids]
    exact List.mem_cons_self
  · cases h

theorem admin_reads_need_elevation_list :
    ∃ (cached : CachedElevation) (before : List AdminEvent) (idMappings : Option IdMappings)
      (now : Time), cached.Approved (elevationTrace before) ∧ now < cached.elevation.expiresAt ∧
      resolveGroupId idMappings cached.chatId = "g1" := by
  obtain ⟨tr, s, hrun, hshown⟩ := exists_run_of_exec_of_mem
    (adminServer 60000 [.action .messageList]) (reusesOwnSession [.action .messageList])
    (fun s a => (a.Truthful fun _ => "g1") ∧ reusesOwnSession [.action .messageList] s a = true)
    (approvedRead ⟨"iss", "jti"⟩) (fun tr _ => tr.any (·.shows ⟨"iss", "jti"⟩))
    (fun a ha _ hok => ⟨readBy_truthful a ha, hok⟩) (by decide)
  obtain ⟨e, hmem, he⟩ := List.any_eq_true.1 hshown
  obtain ⟨before, after, htr⟩ := List.append_of_mem hmem
  obtain ⟨call, idMappings, now, output, rfl, hg1⟩ := AdminEvent.shows_iff he
  obtain ⟨cached, -, happroved, hlive, hgroup⟩ := admin_reads_need_elevation hrun htr "g1" hg1
  exact ⟨cached, before, idMappings, now, happroved, hlive, hgroup⟩

/-- **Two sessions share a key**: the approval for `a` and `b:c` lets `a:b` and `c` read, which the
approver was never asked about. -/
theorem admin_reads_unapproved :
    ¬ ∀ tr s, Run (adminServer 60000 [.action .messageList])
        (fun _ a => a.Truthful fun _ => "g1") tr s →
      ∀ before after call session idMappings now output,
        tr = before ++ .responded call session idMappings now (.ok output) :: after →
        ∀ groupId ∈ output.messageIds.map fun _ => "g1", ∃ cached : CachedElevation,
          cached.session = session ∧ cached.Approved (elevationTrace before) ∧
            now < cached.elevation.expiresAt ∧
            resolveGroupId idMappings cached.chatId = groupId := by
  intro hall
  obtain ⟨tr, s, hrun, htest⟩ := exists_run_of_exec_of_forall
    (adminServer 60000 [.action .messageList]) (fun _ a => a.Truthful fun _ => "g1")
    (approvedRead ⟨"a", "b:c"⟩ ++ readBy ⟨"a:b", "c"⟩ 2 [.audited 2 (.ok ()) 4] 3)
    (fun tr _ => tr.any (·.shows ⟨"a:b", "c"⟩) && (elevationTrace tr).all fun
      | .authorized _ session => session ≠ ⟨"a:b", "c"⟩
      | _ => true)
    (fun a ha _ => (List.mem_append.1 ha).elim (readBy_truthful a) (readBy_truthful a)) (by decide)
  obtain ⟨hshown, hnever⟩ := Bool.and_eq_true_iff.1 htest
  obtain ⟨e, hmem, he⟩ := List.any_eq_true.1 hshown
  obtain ⟨before, after, rfl⟩ := List.append_of_mem hmem
  obtain ⟨call, idMappings, now, output, rfl, hg1⟩ := AdminEvent.shows_iff he
  obtain ⟨cached, hsession, ⟨⟨call', hauthorized, -⟩, -⟩, -⟩ :=
    hall _ s hrun before after call _ idMappings now output rfl "g1" hg1
  -- the approver was never asked for this session
  have hmem : .authorized call' cached.session ∈ elevationTrace (before ++
      .responded call ⟨"a:b", "c"⟩ idMappings now (.ok output) :: after) := by
    rw [elevationTrace, List.filterMap_append]
    exact List.mem_append_left _ hauthorized
  exact of_decide_eq_true (List.all_eq_true.1 hnever _ hmem) hsession

end Signet
