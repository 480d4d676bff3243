import Mathlib.Data.List.Nodup
import Mathlib.Data.List.Pairwise
import Signet.Contracts.ActionSpecs

/-!
# The action registry and what is dispatched through it

`createActionRegistry` of `action-registry.ts`, `buildHttpActionRoutes` and `matchHttpActionRoute`
of `action-routes.ts`, and `findSpecByToolName` of `call-handler.ts`.

Every registration checks all specs together with the new one, so a registry that was reached
without an error holds specs that the checks accept (`Registered.accepted`): its routes are
different from each other, and none is reserved. No check looks at the tool names. Two actions may
have the same one, by an override or since both `a.b` and `a/b` give `signet/a/b`, and the tool
lookup then finds the one that was registered first (`unambiguous_iff`).
-/

namespace Signet.Contracts

open Lib

/-- The map `specs` of `createActionRegistry`. -/
abbrev ActionRegistry := OrdMap String ActionSpec

/-- What `register` throws. -/
inductive RegisterError where
  | alreadyRegistered (message : String)
  /-- The `ValidationError` with its issues. -/
  | validation (issues : List ActionContractIssue)
  deriving DecidableEq

section Code

variable (stringify : AnnotationValue → String)

def register (registry : ActionRegistry) (spec : ActionSpec) :
    Except RegisterError ActionRegistry :=
  if registry.has spec.id then
    .error (.alreadyRegistered ("Action '" ++ spec.id ++ "' is already registered"))
  else
    let issues := validateActionSpecs stringify (registry.values ++ [spec])
    if issues ≠ [] then .error (.validation issues) else .ok (registry.set spec.id spec)

/-- A sequence of `register` calls on a registry. -/
def registerAll : ActionRegistry → List ActionSpec → Except RegisterError ActionRegistry
  | registry, [] => .ok registry
  | registry, spec :: specs =>
    match register stringify registry spec with
    | .error error => .error error
    | .ok registry' => registerAll registry' specs

/-- `listForSurface("http")`. -/
def listForHttp (registry : ActionRegistry) : List ActionSpec :=
  registry.values.filter (·.http.isSome)

/-- `listForSurface("mcp")`. -/
def listForMcp (registry : ActionRegistry) : List ActionSpec :=
  registry.values.filter (·.mcp.isSome)

structure HttpActionRoute where
  actionId : String
  auth : Option HttpAuth
  inputSource : HttpInputSource
  method : HttpMethod
  path : String
  spec : ActionSpec

def httpActionRoute (spec : ActionSpec) : HttpActionRoute where
  actionId := spec.id
  auth := spec.http.bind (·.auth)
  inputSource := deriveHttpInputSource spec.deriveHttpMethod
  method := spec.deriveHttpMethod
  path := spec.deriveHttpPath
  spec := spec

def buildHttpActionRoutes (registry : ActionRegistry) :
    Except (List ActionContractIssue) (List HttpActionRoute) :=
  let issues := validateActionSpecs stringify registry.values
  if issues ≠ [] then .error issues
  else .ok (((listForHttp registry).filter (·.isHttpExposed)).map httpActionRoute)

end Code

def matchHttpActionRoute (routes : List HttpActionRoute) (method path : String) :
    Option HttpActionRoute :=
  routes.find? fun route => decide (route.method.name = method ∧ route.path = path)

def findSpecByToolName (toolName : String) (registry : ActionRegistry) : Option ActionSpec :=
  (listForMcp registry).find? fun spec => decide (spec.deriveMcpToolName = toolName)

/-! ### Unambiguous dispatch -/

/-- Routes and tool names lead back to the actions they were derived from. -/
structure Unambiguous (stringify : AnnotationValue → String) (registry : ActionRegistry) :
    Prop where
  /-- The routes are built, and each is matched with the action it belongs to. -/
  routes : ∃ routes, buildHttpActionRoutes stringify registry = .ok routes ∧
    ∀ spec ∈ registry.values, spec.isHttpExposed = true →
      ∃ route, matchHttpActionRoute routes spec.deriveHttpMethod.name spec.deriveHttpPath =
        some route ∧ route.spec = spec ∧ route.actionId = spec.id
  /-- A tool name finds the action it was derived from. -/
  tools : ∀ spec ∈ registry.values, spec.mcp.isSome = true →
    findSpecByToolName spec.deriveMcpToolName registry = some spec
  /-- No action has a reserved path. -/
  reserved : ∀ spec ∈ registry.values, spec.isHttpExposed = true →
    ¬ IsReservedPath spec.deriveHttpPath

/-- Two specs do not share a tool name. -/
def ToolNamesDiffer (spec spec' : ActionSpec) : Prop :=
  spec.mcp.isSome = true → spec'.mcp.isSome = true →
    spec.deriveMcpToolName ≠ spec'.deriveMcpToolName

instance : DecidableRel ToolNamesDiffer := fun _ _ =>
  inferInstanceAs (Decidable (_ → _ → _ ≠ _))

/-! ### What a sequence of registrations leaves -/

variable {stringify : AnnotationValue → String} {registry registry' : ActionRegistry}

/-- A registry that holds the specs, in the order in which they were registered. -/
structure Registered (stringify : AnnotationValue → String) (specs : List ActionSpec)
    (registry : ActionRegistry) : Prop where
  entries_eq : registry.entries = specs.map fun spec => (spec.id, spec)
  accepted : validateActionSpecs stringify specs = []

theorem Registered.values_eq {specs : List ActionSpec}
    (h : Registered stringify specs registry) : registry.values = specs := by
  unfold OrdMap.values
  rw [h.entries_eq, List.map_map]
  exact List.map_id specs

theorem Registered.empty : Registered stringify [] OrdMap.empty where
  entries_eq := rfl
  accepted := rfl

theorem Registered.register {specs : List ActionSpec} {spec : ActionSpec}
    (h : Registered stringify specs registry)
    (hok : register stringify registry spec = .ok registry') :
    Registered stringify (specs ++ [spec]) registry' := by
  unfold Contracts.register at hok
  dsimp only at hok
  split at hok
  · cases hok
  · next hnew =>
    split at hok
    · cases hok
    · next hissues =>
      cases hok
      -- a new id goes to the end, so the map keeps the order of the registrations
      have hnone : registry.get? spec.id = none := OrdMap.get?_eq_none_of_not_has hnew
      refine ⟨?_, ?_⟩
      · rw [OrdMap.entries_set_of_new _ hnone, h.entries_eq, List.map_append]
        rfl
      · rw [h.values_eq] at hissues
        exact not_not.1 hissues

theorem Registered.registerAll {done specs : List ActionSpec}
    (h : Registered stringify done registry)
    (hok : registerAll stringify registry specs = .ok registry') :
    Registered stringify (done ++ specs) registry' := by
  induction specs generalizing done registry with
  | nil =>
    cases hok
    rw [List.append_nil]
    exact h
  | cons spec specs ih =>
    rw [Contracts.registerAll] at hok
    split at hok
    · cases hok
    · next registered hregister =>
      have hrest := ih (h.register hregister) hok
      rwa [List.append_assoc] at hrest

/-- No two specs of a registry have the same id. -/
theorem Registered.pairwise_id {specs : List ActionSpec}
    (h : Registered stringify specs registry) : specs.Pairwise fun s s' => s.id ≠ s'.id := by
  have hnodup := registry.nodup
  rw [h.entries_eq, List.map_map] at hnodup
  exact List.pairwise_map.1 hnodup

/-! ### Lookups -/

theorem find?_eq_some_of_unique {α : Type} {l : List α} {p : α → Bool} {a : α} (hmem : a ∈ l)
    (hp : p a = true) (honly : ∀ b ∈ l, p b = true → b = a) : l.find? p = some a := by
  cases hfind : l.find? p with
  | none => exact absurd hp (List.find?_eq_none.1 hfind a hmem)
  | some b => rw [honly b (List.mem_of_find?_eq_some hfind) (List.find?_some hfind)]

theorem isSome_http_of_exposed {spec : ActionSpec} (h : spec.isHttpExposed = true) :
    spec.http.isSome = true := by
  unfold ActionSpec.isHttpExposed at h
  cases hhttp : spec.http with
  | none =>
    rw [hhttp] at h
    cases h
  | some http => rfl

theorem mem_exposed_iff {spec : ActionSpec} :
    spec ∈ (listForHttp registry).filter (·.isHttpExposed) ↔
      spec ∈ registry.values ∧ spec.isHttpExposed = true := by
  unfold listForHttp
  rw [List.mem_filter, List.mem_filter]
  constructor
  · rintro ⟨⟨hmem, -⟩, hexposed⟩
    exact ⟨hmem, hexposed⟩
  · rintro ⟨hmem, hexposed⟩
    exact ⟨⟨hmem, isSome_http_of_exposed hexposed⟩, hexposed⟩

/-- **Routes lead back to their actions.** -/
theorem Registered.routes {specs : List ActionSpec} (h : Registered stringify specs registry) :
    ∃ routes, buildHttpActionRoutes stringify registry = .ok routes ∧
      ∀ spec ∈ registry.values, spec.isHttpExposed = true →
        ∃ route, matchHttpActionRoute routes spec.deriveHttpMethod.name spec.deriveHttpPath =
          some route ∧ route.spec = spec ∧ route.actionId = spec.id := by
  refine ⟨((listForHttp registry).filter (·.isHttpExposed)).map httpActionRoute, ?_, ?_⟩
  · unfold buildHttpActionRoutes
    rw [h.values_eq, h.accepted]
    exact if_neg (not_not.2 rfl)
  · intro spec hmem hexposed
    refine ⟨httpActionRoute spec, ?_, rfl, rfl⟩
    refine find?_eq_some_of_unique (List.mem_map_of_mem (mem_exposed_iff.2 ⟨hmem, hexposed⟩))
      (decide_eq_true ⟨rfl, rfl⟩) fun route hroute hmatch => ?_
    obtain ⟨other, hother, rfl⟩ := List.mem_map.1 hroute
    obtain ⟨hmethod, hpath⟩ := of_decide_eq_true hmatch
    obtain ⟨hotherMem, hotherExposed⟩ := mem_exposed_iff.1 hother
    -- the same method and path make the same key, and no key occurs twice
    have hkey : other.routeKey = spec.routeKey := by
      unfold ActionSpec.routeKey
      rw [show other.deriveHttpMethod.name = spec.deriveHttpMethod.name from hmethod,
        show other.deriveHttpPath = spec.deriveHttpPath from hpath]
    have hnodup := nodup_routeKeys h.accepted
    rw [h.values_eq] at hmem hotherMem
    have hin : ∀ {s : ActionSpec}, s ∈ specs → s.isHttpExposed = true → s ∈ exposedSpecs specs :=
      fun hs hyes => List.mem_filter.2 ⟨hs, hyes⟩
    rw [List.inj_on_of_nodup_map hnodup (hin hotherMem hotherExposed) (hin hmem hexposed) hkey]

/-- **Dispatch is unambiguous if and only if no two tools share a name.** -/
theorem unambiguous_iff {specs : List ActionSpec}
    (h : registerAll stringify OrdMap.empty specs = .ok registry) :
    Unambiguous stringify registry ↔ specs.Pairwise ToolNamesDiffer := by
  have hregistered : Registered stringify specs registry := Registered.empty.registerAll h
  have hvalues := hregistered.values_eq
  constructor
  -- two specs of one name would both be found under it
  · intro hunambiguous
    refine hregistered.pairwise_id.imp_of_mem fun {s s'} hs hs' hid hmcp hmcp' hname => hid ?_
    rw [← hvalues] at hs hs'
    have hfound := hunambiguous.tools s hs hmcp
    rw [hname, hunambiguous.tools s' hs' hmcp'] at hfound
    rw [Option.some.inj hfound]
  · intro hdiffer
    refine ⟨hregistered.routes, fun spec hmem hmcp => ?_, fun spec hmem hexposed => ?_⟩
    · refine find?_eq_some_of_unique (List.mem_filter.2 ⟨hmem, hmcp⟩) (decide_eq_true rfl)
        fun other hother hname => ?_
      obtain ⟨hotherMem, hotherMcp⟩ := List.mem_filter.1 hother
      -- another spec of the name is excluded by the pairwise condition
      by_contra hne
      have hsymm : Std.Symm ToolNamesDiffer :=
        ⟨fun _ _ hdiff hm hm' heq => hdiff hm' hm heq.symm⟩
      rw [hvalues] at hmem hotherMem
      have hnot := hdiffer.forall hotherMem hmem hne
      exact hnot hotherMcp hmcp (of_decide_eq_true hname)
    · rw [hvalues] at hmem
      exact not_isReservedPath hregistered.accepted hmem hexposed

/-! ### Two actions with one tool name -/

/-- An action that is exposed over MCP and HTTP. -/
def sendAction : ActionSpec where
  id := "message.send"
  description := some "Send a message"
  intent := none
  idempotent := none
  mcp := some { toolName := none, annotations := none }
  http := some { path := none, method := none, auth := some .credential, expose := none }

/-- An action whose tool name is the one that is derived for `message.send`. -/
def postAction : ActionSpec where
  id := "message.post"
  description := some "Post a message"
  intent := none
  idempotent := none
  mcp := some { toolName := some "signet/message/send", annotations := none }
  http := some { path := none, method := none, auth := some .credential, expose := none }

/-- Two actions whose tools are told apart. -/
theorem unambiguous_iff_sendAction :
    Unambiguous (fun _ => "") ((OrdMap.empty.set sendAction.id sendAction).set "message.reply"
      { sendAction with id := "message.reply" }) := by
  have hok : registerAll (fun _ => "") OrdMap.empty
      [sendAction, { sendAction with id := "message.reply" }] =
        .ok ((OrdMap.empty.set sendAction.id sendAction).set "message.reply"
          { sendAction with id := "message.reply" }) := rfl
  refine (unambiguous_iff hok).2 (List.pairwise_pair.2 fun _ _ hname => ?_)
  exact absurd hname (by decide)

/-- **Both actions are registered, and the tool name of the second one finds the first one.** -/
theorem second_tool_shadowed :
    ∃ registry, registerAll (fun _ => "") OrdMap.empty [sendAction, postAction] = .ok registry ∧
      postAction ∈ registry.values ∧
      findSpecByToolName postAction.deriveMcpToolName registry = some sendAction ∧
      ¬ Unambiguous (fun _ => "") registry := by
  have hok : registerAll (fun _ => "") OrdMap.empty [sendAction, postAction] =
      .ok ((OrdMap.empty.set sendAction.id sendAction).set postAction.id postAction) := rfl
  have hfound : findSpecByToolName postAction.deriveMcpToolName
      ((OrdMap.empty.set sendAction.id sendAction).set postAction.id postAction) =
        some sendAction := rfl
  have hmem : postAction ∈
      ((OrdMap.empty.set sendAction.id sendAction).set postAction.id postAction).values :=
    List.mem_cons_of_mem _ List.mem_cons_self
  refine ⟨_, hok, hmem, hfound, fun hunambiguous => ?_⟩
  have hself := hunambiguous.tools postAction hmem rfl
  rw [hfound] at hself
  have hid : sendAction.id = postAction.id := congrArg ActionSpec.id (Option.some.inj hself)
  exact absurd hid (by decide)

end Signet.Contracts
