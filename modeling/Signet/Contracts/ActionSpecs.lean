import Signet.Core.ConvosInvite
import Signet.Lib.OrdMap

/-!
# Action specs, their routes and tool names

The parts of `ActionSpec` that say where an action is exposed, what `action-derive.ts` derives from
them, and the checks of `action-validate.ts`. Each check walks over the specs and reports what it
finds; `validateActionSpecs` accepts the specs if there is nothing to report.

The handler and the schemas of a spec are left out: no function here reads them. The specs of the
message and conversation actions, with both, are `Signet.ActionSpec`.
-/

namespace Signet.Contracts

open Lib

/-! ### Specs -/

inductive HttpMethod where
  | get
  | post
  | delete
  deriving DecidableEq

def HttpMethod.name : HttpMethod → String
  | .get => "GET"
  | .post => "POST"
  | .delete => "DELETE"

inductive ActionIntent where
  | read
  | write
  | destroy
  deriving DecidableEq

/-- Who may call an action over HTTP. -/
inductive HttpAuth where
  | admin
  | credential
  deriving DecidableEq

/-- The value of an authored annotation; `other` is any value that is neither undefined, a boolean
nor a string, by its JSON text. -/
inductive AnnotationValue where
  | undefined
  | bool (value : Bool)
  | text (value : String)
  | other (json : String)
  deriving DecidableEq

structure McpSurface where
  toolName : Option String
  annotations : Option (OrdMap String AnnotationValue)

/-- `HttpSurface`. The type wants `auth`, and a check looks for it at run time. -/
structure HttpSurface where
  path : Option String
  method : Option HttpMethod
  auth : Option HttpAuth
  expose : Option Bool

structure ActionSpec where
  id : String
  description : Option String
  intent : Option ActionIntent
  idempotent : Option Bool
  mcp : Option McpSurface
  http : Option HttpSurface

/-! ### Derived names -/

def defaultHttpBasePath : String := "/v1/actions"

/-- The id with `/` for every `.`. -/
def slashedId (id : String) : String :=
  String.ofList (id.toList.map fun c => if c = '.' then '/' else c)

/-- The path with a slash in front. -/
def withLeadingSlash (path : String) : String :=
  if path.toList.head? = some '/' then path else "/" ++ path

def normalizeBasePath (basePath : String) : String :=
  let trimmed := jsTrim basePath
  if trimmed = "" ∨ trimmed = "/" then ""
  else String.ofList ((withLeadingSlash trimmed).toList.reverse.dropWhile (· = '/')).reverse

/-- `path.replace(/\/{2,}/g, "/")`; `slash` says that the character before is a slash. -/
def collapseSlashes : Bool → List Char → List Char
  | _, [] => []
  | slash, c :: rest =>
    if c = '/' then
      if slash then collapseSlashes true rest else c :: collapseSlashes true rest
    else c :: collapseSlashes false rest

def normalizePath (path : String) : String :=
  let trimmed := jsTrim path
  if trimmed = "" then "/"
  else String.ofList (collapseSlashes false (withLeadingSlash trimmed).toList)

namespace ActionSpec

variable (spec : ActionSpec)

/-- `deriveMcpToolName`, with its default prefix. -/
def deriveMcpToolName : String :=
  (spec.mcp.bind (·.toolName)).getD ("signet/" ++ slashedId spec.id)

def deriveHttpMethod : HttpMethod :=
  match spec.http.bind (·.method) with
  | some method => method
  | none => if spec.intent = some .read then .get else .post

/-- `deriveHttpPath`, with its default base path. -/
def deriveHttpPath : String :=
  match spec.http.bind (·.path) with
  | some path => normalizePath path
  | none => normalizePath (normalizeBasePath defaultHttpBasePath ++ "/" ++ slashedId spec.id)

def isHttpExposed : Bool :=
  match spec.http with
  | some http => decide (http.expose ≠ some false)
  | none => false

end ActionSpec

inductive HttpInputSource where
  | query
  | body
  deriving DecidableEq

def deriveHttpInputSource (method : HttpMethod) : HttpInputSource :=
  if method = .get then .query else .body

/-- The keys of `STANDARD_MCP_ANNOTATION_KEYS`. -/
inductive AnnotationKey where
  | readOnlyHint
  | destructiveHint
  | idempotentHint
  | title
  deriving DecidableEq

def AnnotationKey.name : AnnotationKey → String
  | .readOnlyHint => "readOnlyHint"
  | .destructiveHint => "destructiveHint"
  | .idempotentHint => "idempotentHint"
  | .title => "title"

def standardMcpAnnotationKeys : List AnnotationKey :=
  [.readOnlyHint, .destructiveHint, .idempotentHint, .title]

def standardBooleanMcpAnnotationKeys : List AnnotationKey :=
  [.readOnlyHint, .destructiveHint, .idempotentHint]

/-- `deriveStandardMcpAnnotations`, key by key. -/
def ActionSpec.deriveStandardMcpAnnotation (spec : ActionSpec) : AnnotationKey → AnnotationValue
  | .readOnlyHint =>
    if spec.intent.getD .write = .read then .bool true else .undefined
  | .destructiveHint =>
    if spec.intent.getD .write = .destroy then .bool true else .undefined
  | .idempotentHint => if spec.idempotent = some true then .bool true else .undefined
  | .title =>
    match spec.description with
    | some description => .text description
    | none => .undefined

/-! ### The checks -/

inductive IssueSurface where
  | registry
  | http
  | mcp
  deriving DecidableEq

structure ActionContractIssue where
  actionId : String
  rule : String
  message : String
  surface : IssueSurface
  deriving DecidableEq

/-- The loop of `validateUniqueIds`. -/
def validateUniqueIdsFrom : List String → List ActionSpec → List ActionContractIssue
  | _, [] => []
  | seen, spec :: specs =>
    if spec.id ∈ seen then
      { actionId := spec.id
        message := "Action '" ++ spec.id ++ "' is registered more than once"
        rule := "unique-action-id"
        surface := .registry } :: validateUniqueIdsFrom seen specs
    else validateUniqueIdsFrom (spec.id :: seen) specs

def validateUniqueIds (specs : List ActionSpec) : List ActionContractIssue :=
  validateUniqueIdsFrom [] specs

def validateHttpAuth (specs : List ActionSpec) : List ActionContractIssue :=
  specs.filterMap fun spec =>
    if spec.isHttpExposed = false then none
    else if spec.http.bind (·.auth) = none then
      some
        { actionId := spec.id
          message := "HTTP-exposed action '" ++ spec.id ++ "' must declare http.auth"
          rule := "http-auth-required"
          surface := .http }
    else none

/-- The key of a route in `seenRoutes`. -/
def ActionSpec.routeKey (spec : ActionSpec) : String :=
  spec.deriveHttpMethod.name ++ " " ++ spec.deriveHttpPath

/-- The loop of `validateUniqueHttpRoutes`. -/
def validateUniqueHttpRoutesFrom :
    OrdMap String String → List ActionSpec → List ActionContractIssue
  | _, [] => []
  | seenRoutes, spec :: specs =>
    if spec.isHttpExposed = false then validateUniqueHttpRoutesFrom seenRoutes specs
    else
      match seenRoutes.get? spec.routeKey with
      | some existingId =>
        { actionId := spec.id
          message := "Action '" ++ spec.id ++ "' collides with '" ++ existingId ++
            "' on derived route " ++ spec.deriveHttpMethod.name ++ " " ++ spec.deriveHttpPath
          rule := "unique-http-route"
          surface := .http } :: validateUniqueHttpRoutesFrom seenRoutes specs
      | none => validateUniqueHttpRoutesFrom (seenRoutes.set spec.routeKey spec.id) specs

def validateUniqueHttpRoutes (specs : List ActionSpec) : List ActionContractIssue :=
  validateUniqueHttpRoutesFrom OrdMap.empty specs

def reservedHttpRoutePrefixes : List String := ["/v1/admin/", "/v1/credential/"]

def reservedHttpRoutePaths : List String := ["/v1/health"]

/-- The first reserved beginning of a path. -/
def collidesWithPrefix (path : String) : Option String :=
  reservedHttpRoutePrefixes.find? fun start => start.toList.isPrefixOf path.toList

def validateReservedHttpRoutes (specs : List ActionSpec) : List ActionContractIssue :=
  specs.filterMap fun spec =>
    if spec.isHttpExposed = false then none
    else
      let path := spec.deriveHttpPath
      match collidesWithPrefix path with
      | some start =>
        some
          { actionId := spec.id
            message := "Action '" ++ spec.id ++ "' derives reserved HTTP path '" ++ path ++
              "' under '" ++ start ++ "'"
            rule := "reserved-http-route"
            surface := .http }
      | none =>
        if path ∈ reservedHttpRoutePaths then
          some
            { actionId := spec.id
              message := "Action '" ++ spec.id ++ "' derives reserved HTTP path '" ++ path ++ "'"
              rule := "reserved-http-route"
              surface := .http }
        else none

/-- One turn of the inner loop of `validateMcpAnnotations`. -/
def mcpAnnotationIssue (stringify : AnnotationValue → String) (spec : ActionSpec)
    (authored : OrdMap String AnnotationValue) (key : AnnotationKey) :
    Option ActionContractIssue :=
  match authored.get? key.name with
  | none => none
  | some authoredValue =>
    let derivedValue := spec.deriveStandardMcpAnnotation key
    if key ∈ standardBooleanMcpAnnotationKeys ∧ authoredValue = .bool false ∧
        derivedValue = .undefined then none
    else if authoredValue ≠ derivedValue then
      some
        { actionId := spec.id
          message := "Action '" ++ spec.id ++ "' authors MCP annotation '" ++ key.name ++
            "' as " ++ stringify authoredValue ++ ", but the derived value is " ++
            stringify derivedValue
          rule := "mcp-annotation-consistency"
          surface := .mcp }
    else none

/-- `validateMcpAnnotations`; `stringify` is `JSON.stringify`. -/
def validateMcpAnnotations (stringify : AnnotationValue → String) (specs : List ActionSpec) :
    List ActionContractIssue :=
  specs.flatMap fun spec =>
    match spec.mcp.bind (·.annotations) with
    | none => []
    | some authored =>
      standardMcpAnnotationKeys.filterMap (mcpAnnotationIssue stringify spec authored)

/-- The issues that `validateActionSpecs` collects; it accepts the specs if there are none. -/
def validateActionSpecs (stringify : AnnotationValue → String) (specs : List ActionSpec) :
    List ActionContractIssue :=
  validateUniqueIds specs ++ validateHttpAuth specs ++ validateUniqueHttpRoutes specs ++
    validateReservedHttpRoutes specs ++ validateMcpAnnotations stringify specs

/-! ### What the checks rule out -/

variable {stringify : AnnotationValue → String} {specs : List ActionSpec}

/-- The specs with a route. -/
def exposedSpecs (specs : List ActionSpec) : List ActionSpec :=
  specs.filter (·.isHttpExposed)

theorem nodup_routeKeys_from {seenRoutes : OrdMap String String}
    (h : validateUniqueHttpRoutesFrom seenRoutes specs = []) :
    (∀ spec ∈ exposedSpecs specs, seenRoutes.get? spec.routeKey = none) ∧
      ((exposedSpecs specs).map (·.routeKey)).Nodup := by
  unfold exposedSpecs
  induction specs generalizing seenRoutes with
  | nil => exact ⟨fun _ hmem => absurd hmem List.not_mem_nil, .nil⟩
  | cons spec specs ih =>
    rw [validateUniqueHttpRoutesFrom] at h
    -- specs that are not exposed are skipped by the loop and by the list
    by_cases hexposed : spec.isHttpExposed = false
    · rw [if_pos hexposed] at h
      rw [List.filter_cons_of_neg (by simp [hexposed])]
      exact ih h
    · rw [if_neg hexposed] at h
      cases hget : seenRoutes.get? spec.routeKey with
      | some existingId =>
        rw [hget] at h
        cases h
      | none =>
        rw [hget] at h
        obtain ⟨hfresh, hnodup⟩ := ih h
        -- a later route is neither this one nor one that was seen before
        have hne : ∀ later ∈ specs.filter (·.isHttpExposed), later.routeKey ≠ spec.routeKey := by
          intro later hmem heq
          have hnone := hfresh later hmem
          rw [heq, OrdMap.get?_set_self] at hnone
          cases hnone
        rw [List.filter_cons_of_pos (by simpa using hexposed)]
        refine ⟨fun s hmem => ?_, ?_⟩
        · rcases List.mem_cons.1 hmem with rfl | hlater
          · exact hget
          · have hnone := hfresh s hlater
            rwa [OrdMap.get?_set_of_ne _ _ (hne s hlater)] at hnone
        · refine List.nodup_cons.2 ⟨fun hmem => ?_, hnodup⟩
          obtain ⟨later, hlater, heq⟩ := List.mem_map.1 hmem
          exact hne later hlater heq

/-- **Accepted specs have different routes.** -/
theorem nodup_routeKeys (h : validateActionSpecs stringify specs = []) :
    ((exposedSpecs specs).map (·.routeKey)).Nodup := by
  unfold validateActionSpecs at h
  simp only [List.append_eq_nil_iff] at h
  exact (nodup_routeKeys_from h.1.1.2).2

/-- A path that no action may have. -/
def IsReservedPath (path : String) : Prop :=
  (∃ start ∈ reservedHttpRoutePrefixes, start.toList <+: path.toList) ∨
    path ∈ reservedHttpRoutePaths

/-- **Accepted specs have no reserved paths.** -/
theorem not_isReservedPath (h : validateActionSpecs stringify specs = []) {spec : ActionSpec}
    (hmem : spec ∈ specs) (hexposed : spec.isHttpExposed = true) :
    ¬ IsReservedPath spec.deriveHttpPath := by
  unfold validateActionSpecs at h
  simp only [List.append_eq_nil_iff] at h
  have hnone := List.filterMap_eq_nil_iff.1 h.1.2 spec hmem
  rw [if_neg (by simp [hexposed])] at hnone
  dsimp only at hnone
  cases hcollides : collidesWithPrefix spec.deriveHttpPath with
  | some start =>
    rw [hcollides] at hnone
    cases hnone
  | none =>
    rw [hcollides] at hnone
    -- neither of the two checks of a path has found anything
    rintro (⟨start, hstart, hbegins⟩ | hpath)
    · have hnot := List.find?_eq_none.1 hcollides start hstart
      exact hnot (List.isPrefixOf_iff_prefix.2 hbegins)
    · dsimp only at hnone
      rw [if_pos hpath] at hnone
      cases hnone

end Signet.Contracts
