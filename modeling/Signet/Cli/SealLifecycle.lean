import Signet.Cli.SealInputResolver
import Signet.Seals.Invariants
import Signet.Sessions.ServiceMachine

/-!
# Credentials and seals, wired as in the runtime

`start.ts` connects the credential service to the seal manager twice: the seal
manager resolves its input through `createSealInputResolver`, which looks the
credential up, and `onCredentialRevoked` revokes the current seals of a revoked
credential in the background.

`lifecycleMachine` runs credential operations, seal calls, resolver calls and
revocation tasks in any order, one step per synchronous segment. A resolver call
belongs to the `issue` call that made it. The lookup of the credential reads the
store when it is called and delivers its answer later; so does `current` in a
revocation task.
-/

namespace Signet

open Lib

/-! ### State -/

/-- Where a resolver call stands. -/
inductive ResolverStage where
  /-- Awaiting `credentialManager.lookup`, which has read the record. -/
  | awaitCredential (result : Result CredentialRecord)
  /-- Awaiting `operatorManager.lookup`. -/
  | awaitOperator (cred : CredentialRecord)
  /-- The resolver has returned; the issue has not resumed yet. -/
  | answered (result : Result SealInput)
  deriving DecidableEq

/-- The resolver call of an `issue` call. -/
structure ResolverCall where
  credentialId : String
  chatId : String
  stage : ResolverStage
  deriving DecidableEq

/-- Where a revocation task stands. -/
inductive RevocationStage where
  /-- Awaiting `sealMgr.current`, which has read the head. -/
  | awaitCurrent (result : Option SealEnvelope)
  /-- Awaiting `sealMgr.revoke`, a call of the seal manager. -/
  | awaitRevoke (call : Nat)
  deriving DecidableEq

/-- The loop over the chats of a revoked credential. -/
structure RevocationTask where
  credentialId : String
  reason : AgentRevocationReason
  remaining : List String
  stage : RevocationStage
  deriving DecidableEq

/-- The runtime: both components and the calls between them. -/
structure LifecycleState where
  service : ServiceState
  seals : SealState
  /-- Resolver calls, by the `issue` call they belong to. -/
  resolving : OrdMap Nat ResolverCall
  tasks : OrdMap Nat RevocationTask
  nextTask : Nat

/-- The runtime as started. -/
def LifecycleState.init : LifecycleState :=
  ⟨⟨.new, .empty⟩, .init, .empty, .empty, 0⟩

/-- A segment of one of the components. -/
inductive LifecycleAction where
  | service (a : ServiceAction)
  | issue (call : Nat) (credentialId chatId : String) (now : Time)
  | credentialLookedUp (call : Nat)
  | operatorLookedUp (call : Nat) (op : Result OperatorConfig) (adminAccess : Option AdminAccess)
  | inputReady (call : Nat) (newSealId : String) (now : Time)
  /-- `refresh` and `revoke` calls and the replies of signer and publisher. -/
  | seals (a : SealAction)
  | taskCurrent (task call : Nat) (newSealId : String) (now : Time)
  | taskRevoked (task : Nat)

/-- The events of both components. -/
inductive LifecycleEvent where
  | service (e : ServiceEvent)
  | seal (e : SealEvent)
  deriving DecidableEq

/-! ### The revocation callback -/

/-- `reasonMap`: the reason on the revocation seal. -/
def agentReason : Option CredentialRevocationReason → AgentRevocationReason
  | some .ownerInitiated => .ownerInitiated
  | some .credentialExpired => .credentialExpired
  | some .heartbeatTimeout => .heartbeatTimeout
  | some .policyViolation => .policyViolation
  | some .reauthorizationRequired => .adminRemoved
  | none => .ownerInitiated

namespace LifecycleState

/-- Put a revocation task at its next chat, or end it. -/
def nextChat (s : LifecycleState) (id : Nat) (task : RevocationTask) : LifecycleState :=
  match task.remaining with
  | [] => { s with tasks := s.tasks.erase id }
  | chatId :: rest =>
    { s with
      tasks := s.tasks.set id
        { task with
          remaining := rest
          stage := .awaitCurrent (s.seals.manager.current task.credentialId chatId) } }

/-- `onCredentialRevoked`: start a task over the chats of the credential. -/
def onCredentialRevoked (s : LifecycleState) (record : InternalCredentialRecord) :
    LifecycleState :=
  { s with nextTask := s.nextTask + 1 }.nextChat s.nextTask
    ⟨record.credentialId, agentReason record.revocationReason, record.chatIds, .awaitCurrent none⟩

/-- Fire the hooks of an operation. The invalidation of WebSocket connections does
not concern credentials or seals. -/
def fireHooks (s : LifecycleState) (effects : List CredentialEffect) : LifecycleState :=
  effects.foldl
    (fun s effect =>
      match effect with
      | .revoked record => s.onCredentialRevoked record
      | _ => s) s

def resolve (s : LifecycleState) (call : Nat) (resolver : ResolverCall) (stage : ResolverStage) :
    LifecycleState :=
  { s with resolving := s.resolving.set call { resolver with stage := stage } }

end LifecycleState

/-- The effects among the events of a credential operation. -/
def effectsOf (es : List ServiceEvent) : List CredentialEffect :=
  es.filterMap fun
    | .effect e => some e
    | .replied _ => none

/-! ### The step -/

section Step

variable (cfg : CredentialManagerConfig) (hash : ScopeSet → List String → String)
  (trustTier : TrustTier)

/-- One segment of one component. -/
def lifecycleStep (s : LifecycleState) :
    LifecycleAction → Option (LifecycleState × List LifecycleEvent)
  | .service a =>
    match serviceStep cfg hash s.service a with
    | none => none
    | some (service, es) =>
      some ({ s with service := service }.fireHooks (effectsOf es), es.map .service)
  | .issue call credentialId chatId now =>
    match sealStep s.seals (.issue call credentialId chatId) with
    | none => none
    | some (seals, es) =>
      let looked := Service.lookup cfg s.service.store credentialId now
      some ({ s with
          seals := seals
          service := { s.service with store := looked.store }
          resolving := s.resolving.set call ⟨credentialId, chatId, .awaitCredential looked.value⟩
          }.fireHooks looked.effects,
        looked.effects.map (.service ∘ .effect) ++ es.map .seal)
  | .credentialLookedUp call =>
    match s.resolving.get? call with
    | some resolver =>
      match resolver.stage with
      | .awaitCredential (.error e) => some (s.resolve call resolver (.answered (.error e)), [])
      | .awaitCredential (.ok cred) => some (s.resolve call resolver (.awaitOperator cred), [])
      | _ => none
    | none => none
  | .operatorLookedUp call op adminAccess =>
    match s.resolving.get? call with
    | some resolver =>
      match resolver.stage, op with
      | .awaitOperator _, .error e => some (s.resolve call resolver (.answered (.error e)), [])
      | .awaitOperator cred, .ok op =>
        some (s.resolve call resolver (.answered
          (resolveSealInput trustTier resolver.credentialId resolver.chatId cred op adminAccess)),
          [])
      | _, _ => none
    | none => none
  | .inputReady call newSealId now =>
    match s.resolving.get? call with
    | some resolver =>
      match resolver.stage with
      | .answered result =>
        match sealStep s.seals (.inputResolved call result newSealId now) with
        | none => none
        | some (seals, es) =>
          some ({ s with seals := seals, resolving := s.resolving.erase call }, es.map .seal)
      | _ => none
    | none => none
  | .seals a =>
    match a with
    | .issue .. => none
    | .inputResolved .. => none
    | a =>
      match sealStep s.seals a with
      | none => none
      | some (seals, es) => some ({ s with seals := seals }, es.map .seal)
  | .taskCurrent id call newSealId now =>
    match s.tasks.get? id with
    | some task =>
      match task.stage with
      | .awaitCurrent none => some (s.nextChat id task, [])
      | .awaitCurrent (some envelope) =>
        match sealStep s.seals (.revoke call envelope.sealId task.reason newSealId now) with
        | none => none
        | some (seals, es) =>
          some ({ s with
              seals := seals
              tasks := s.tasks.set id { task with stage := .awaitRevoke call } },
            es.map .seal)
      | .awaitRevoke _ => none
    | none => none
  | .taskRevoked id =>
    match s.tasks.get? id with
    | some task =>
      match task.stage with
      | .awaitRevoke call =>
        if s.seals.calls.has call then none else some (s.nextChat id task, [])
      | _ => none
    | none => none

/-- **Credentials and seals under concurrent operations.** -/
def lifecycleMachine : Machine LifecycleState LifecycleAction LifecycleEvent where
  init := .init
  step := lifecycleStep cfg hash trustTier

end Step

/-! ### What a step does to each component -/

@[simp] theorem LifecycleState.nextChat_service (s : LifecycleState) (id : Nat)
    (task : RevocationTask) : (s.nextChat id task).service = s.service := by
  unfold nextChat
  split <;> rfl

@[simp] theorem LifecycleState.nextChat_seals (s : LifecycleState) (id : Nat)
    (task : RevocationTask) : (s.nextChat id task).seals = s.seals := by
  unfold nextChat
  split <;> rfl

@[simp] theorem LifecycleState.nextChat_resolving (s : LifecycleState) (id : Nat)
    (task : RevocationTask) : (s.nextChat id task).resolving = s.resolving := by
  unfold nextChat
  split <;> rfl

/-- The hooks start tasks and touch nothing else. -/
theorem LifecycleState.fireHooks_frame (s : LifecycleState) (effects : List CredentialEffect) :
    (s.fireHooks effects).service = s.service ∧ (s.fireHooks effects).seals = s.seals ∧
      (s.fireHooks effects).resolving = s.resolving := by
  induction effects generalizing s with
  | nil => exact ⟨rfl, rfl, rfl⟩
  | cons effect effects ih =>
    cases effect with
    | revoked record =>
      obtain ⟨h₁, h₂, h₃⟩ := ih (s.onCredentialRevoked record)
      refine ⟨h₁.trans ?_, h₂.trans ?_, h₃.trans ?_⟩ <;> simp [onCredentialRevoked]
    | mutated _ => exact ih s
    | stored _ => exact ih s

/-- How the resolver call of an issue can move on. -/
inductive ResolverCall.Next (trustTier : TrustTier) (call : Nat) (resolver : ResolverCall) :
    LifecycleAction → ResolverStage → Prop
  /-- A lookup failed. -/
  | failed {a : LifecycleAction} (e : SignetError) :
      resolver.Next trustTier call a (.answered (.error e))
  /-- The credential was found; the operator is looked up. -/
  | credential {a : LifecycleAction} {cred : CredentialRecord}
      (h : resolver.stage = .awaitCredential (.ok cred)) :
      resolver.Next trustTier call a (.awaitOperator cred)
  /-- The operator was found; the resolver returns. -/
  | answer {cred : CredentialRecord} {op : OperatorConfig} {adminAccess : Option AdminAccess}
      (h : resolver.stage = .awaitOperator cred) :
      resolver.Next trustTier call (.operatorLookedUp call (.ok op) adminAccess) (.answered
        (resolveSealInput trustTier resolver.credentialId resolver.chatId cred op adminAccess))

/-- The outcomes of a step, by the component that moved. -/
inductive LifecycleStep (cfg : CredentialManagerConfig) (hash : ScopeSet → List String → String)
    (trustTier : TrustTier) (s : LifecycleState) :
    LifecycleAction → LifecycleState → List LifecycleEvent → Prop
  /-- A credential operation. -/
  | service {a : ServiceAction} {s' : LifecycleState} {es : List ServiceEvent}
      (hs : serviceStep cfg hash s.service a = some (s'.service, es))
      (hseals : s'.seals = s.seals) (hresolving : s'.resolving = s.resolving) :
      LifecycleStep cfg hash trustTier s (.service a) s' (es.map .service)
  /-- `issue` starts: the seal manager calls the resolver, which looks the
  credential up. -/
  | issue {call : Nat} {credentialId chatId : String} {now : Time} {s' : LifecycleState}
      {es : List ServiceEvent} {es' : List SealEvent}
      (hs : sealStep s.seals (.issue call credentialId chatId) = some (s'.seals, es'))
      (hstore : s'.service.store = (Service.lookup cfg s.service.store credentialId now).store)
      (hresolving : s'.resolving = s.resolving.set call ⟨credentialId, chatId,
        .awaitCredential (Service.lookup cfg s.service.store credentialId now).value⟩) :
      LifecycleStep cfg hash trustTier s (.issue call credentialId chatId now) s'
        (es.map .service ++ es'.map .seal)
  | resolved {a : LifecycleAction} {call : Nat} {resolver : ResolverCall} {stage : ResolverStage}
      (hget : s.resolving.get? call = some resolver)
      (hnext : resolver.Next trustTier call a stage) :
      LifecycleStep cfg hash trustTier s a (s.resolve call resolver stage) []
  /-- `issue` resumes with its input. -/
  | inputReady {call : Nat} {resolver : ResolverCall} {result : Result SealInput}
      {newSealId : String} {now : Time} {seals : SealState} {es : List SealEvent}
      (hget : s.resolving.get? call = some resolver) (hstage : resolver.stage = .answered result)
      (hs : sealStep s.seals (.inputResolved call result newSealId now) = some (seals, es)) :
      LifecycleStep cfg hash trustTier s (.inputReady call newSealId now)
        { s with seals := seals, resolving := s.resolving.erase call } (es.map .seal)
  /-- A call of the seal manager that does not resolve an input. -/
  | seals {α : SealAction} {s' : LifecycleState} {es : List SealEvent}
      (hα : α.isDirect = true) (hs : sealStep s.seals α = some (s'.seals, es))
      (hservice : s'.service = s.service) (hresolving : s'.resolving = s.resolving) :
      LifecycleStep cfg hash trustTier s (.seals α) s' (es.map .seal)
  /-- A revocation task calls `revoke`. -/
  | taskRevoke {a : LifecycleAction} {call : Nat} {sealId newSealId : String}
      {reason : AgentRevocationReason} {now : Time} {s' : LifecycleState} {es : List SealEvent}
      (hs : sealStep s.seals (.revoke call sealId reason newSealId now) = some (s'.seals, es))
      (hservice : s'.service = s.service) (hresolving : s'.resolving = s.resolving) :
      LifecycleStep cfg hash trustTier s a s' (es.map .seal)
  /-- A revocation task moves on. -/
  | idle {a : LifecycleAction} {s' : LifecycleState} (hservice : s'.service = s.service)
      (hseals : s'.seals = s.seals) (hresolving : s'.resolving = s.resolving) :
      LifecycleStep cfg hash trustTier s a s' []

/-- **Inversion of a step.** -/
theorem lifecycleStep_sound {cfg : CredentialManagerConfig}
    {hash : ScopeSet → List String → String} {trustTier : TrustTier} {s s' : LifecycleState}
    {a : LifecycleAction} {es : List LifecycleEvent}
    (h : lifecycleStep cfg hash trustTier s a = some (s', es)) :
    LifecycleStep cfg hash trustTier s a s' es := by
  cases a with
  | service a =>
    dsimp only [lifecycleStep] at h
    split at h
    · cases h
    · next service es' hs =>
      cases h
      obtain ⟨h₁, h₂, h₃⟩ :=
        LifecycleState.fireHooks_frame { s with service := service } (effectsOf es')
      -- the hooks only start revocation tasks, so the rest of the state is that of the service
      exact .service (by rw [h₁]; exact hs) h₂ h₃
  | issue call credentialId chatId now =>
    dsimp only [lifecycleStep] at h
    split at h
    · cases h
    · next seals es' hs =>
      cases h
      rw [← List.map_map]
      refine .issue ?_ ?_ ?_
      · rw [(LifecycleState.fireHooks_frame _ _).2.1]; exact hs
      · rw [(LifecycleState.fireHooks_frame _ _).1]
      · rw [(LifecycleState.fireHooks_frame _ _).2.2]
  | credentialLookedUp call =>
    dsimp only [lifecycleStep] at h
    split at h
    · next resolver hget =>
      split at h
      · cases h; exact .resolved hget (.failed _)
      · next hstage => cases h; exact .resolved hget (.credential hstage)
      · cases h
    · cases h
  | operatorLookedUp call op adminAccess =>
    dsimp only [lifecycleStep] at h
    split at h
    · next resolver hget =>
      split at h
      · cases h; exact .resolved hget (.failed _)
      · next hstage => cases h; exact .resolved hget (.answer hstage)
      · cases h
    · cases h
  | inputReady call newSealId now =>
    dsimp only [lifecycleStep] at h
    split at h
    · next resolver hget =>
      split at h
      · next hstage =>
        split at h
        · cases h
        · next hs => cases h; exact .inputReady hget hstage hs
      · cases h
    · cases h
  | seals a =>
    cases a
    case issue | inputResolved => cases h
    all_goals
      dsimp only [lifecycleStep] at h
      split at h
      · cases h
      · next hs => cases h; exact .seals rfl hs rfl rfl
  | taskCurrent id call newSealId now =>
    dsimp only [lifecycleStep] at h
    split at h
    · next task hget =>
      split at h
      · cases h
        exact .idle (s.nextChat_service id task) (s.nextChat_seals id task)
          (s.nextChat_resolving id task)
      · split at h
        · cases h
        · next hs => cases h; exact .taskRevoke hs rfl rfl
      · cases h
    · cases h
  | taskRevoked id =>
    dsimp only [lifecycleStep] at h
    split at h
    · next task hget =>
      split at h
      · split at h
        · cases h
        · cases h
          exact .idle (s.nextChat_service id task) (s.nextChat_seals id task)
            (s.nextChat_resolving id task)
      · cases h
    · cases h

/-! ### Issues and their resolver calls -/

/-- The resolver's answer is about the pair it was asked for. -/
def ResolverCall.AnswersPair (resolver : ResolverCall) : Prop :=
  ∀ input, resolver.stage = .answered (.ok input) →
    input.credentialId = resolver.credentialId ∧ input.chatId = resolver.chatId

theorem ResolverCall.Next.answersPair {trustTier : TrustTier} {call : Nat}
    {resolver : ResolverCall} {a : LifecycleAction} {stage : ResolverStage}
    (h : resolver.Next trustTier call a stage) :
    ResolverCall.AnswersPair { resolver with stage := stage } := by
  intro input hstage
  cases h with
  | failed | credential => cases hstage
  | answer =>
    obtain ⟨-, hcredential, hchat, -⟩ := resolveSealInput_eq_ok (ResolverStage.answered.inj hstage)
    exact ⟨hcredential, hchat⟩

/-- **An issue waits for the resolver call that answers its pair**, and so the seal
manager stays coherent. -/
structure IssuesInv (s : LifecycleState) : Prop where
  /-- The coherence of the seal manager. -/
  seals : SealInv s.seals
  /-- A resolver call belongs to an issue that waits for it. -/
  resolving_call : ∀ {call resolver}, s.resolving.get? call = some resolver →
    s.seals.calls.get? call = some (.resolving resolver.credentialId resolver.chatId)
  answers : s.resolving.Forall fun _ resolver => resolver.AnswersPair

theorem IssuesInv.initial : IssuesInv .init where
  seals := .initial
  resolving_call h := by simp [LifecycleState.init] at h
  answers := .empty

/-- A call of the seal manager that needs no resolver. -/
private theorem IssuesInv.of_direct {s s' : LifecycleState} (hI : IssuesInv s) {α : SealAction}
    {es : List SealEvent} (hdirect : α.isDirect = true)
    (hs : sealStep s.seals α = some (s'.seals, es)) (hresolving : s'.resolving = s.resolving) :
    IssuesInv s' := by
  have hstep := sealStep_sound hs
  have hans : resolverAnswers s.seals α = true := by
    cases α <;> first | rfl | cases hdirect
  refine ⟨hI.seals.step hans hstep, ?_, by rw [hresolving]; exact hI.answers⟩
  intro call resolver hget
  rw [hresolving] at hget
  exact hstep.resolving_kept hdirect (hI.resolving_call hget)

theorem IssuesInv.step {cfg : CredentialManagerConfig} {hash : ScopeSet → List String → String}
    {trustTier : TrustTier} {s s' : LifecycleState} {a : LifecycleAction}
    {es : List LifecycleEvent} (hI : IssuesInv s)
    (hstep : LifecycleStep cfg hash trustTier s a s' es) : IssuesInv s' := by
  cases hstep with
  | service _ hseals hresolving | idle _ hseals hresolving =>
    refine ⟨by rw [hseals]; exact hI.seals, ?_, by rw [hresolving]; exact hI.answers⟩
    intro call resolver hget
    rw [hresolving] at hget
    rw [hseals]
    exact hI.resolving_call hget
  | @issue call credentialId chatId now s' es es' hs hstore hresolving =>
    -- the new call waits for the resolver
    obtain ⟨-, hcalls, -⟩ := sealStep_issue_eq_some hs
    refine ⟨hI.seals.step rfl (sealStep_sound hs), ?_, ?_⟩
    · intro c resolver hget
      rw [hresolving] at hget
      rw [hcalls]
      rcases OrdMap.get?_set_eq_some hget with ⟨rfl, rfl⟩ | ⟨hne, hget⟩
      -- the call that begins waits in the seal manager and has its resolver
      · exact OrdMap.get?_set_self _ _ _
      · exact (OrdMap.get?_set_of_ne _ _ hne).trans (hI.resolving_call hget)
    · rw [hresolving]
      exact hI.answers.set fun input hstage => by cases hstage
  | @resolved a call resolver stage hget hnext =>
    refine ⟨hI.seals, ?_, hI.answers.set hnext.answersPair⟩
    intro c resolver' hget'
    rcases OrdMap.get?_set_eq_some hget' with ⟨rfl, rfl⟩ | ⟨-, hget'⟩
    · show s.seals.calls.get? _ = some (.resolving resolver.credentialId resolver.chatId)
      exact hI.resolving_call hget
    · exact hI.resolving_call hget'
  | @inputReady call resolver result newSealId now seals es hget hstage hs =>
    have hcall := hI.resolving_call hget
    -- the resolver answers for the pair it was asked about
    have hans : resolverAnswers s.seals (.inputResolved call result newSealId now) = true := by
      cases result with
      | error e => rfl
      | ok input =>
        obtain ⟨hcredential, hchat⟩ := hI.answers.of_get? hget input hstage
        simp [resolverAnswers, hcall, hcredential, hchat]
    have hstep := sealStep_sound hs
    refine ⟨hI.seals.step hans hstep, ?_, hI.answers.erase call⟩
    intro c resolver' hget'
    -- the other resolver calls still wait for theirs
    obtain ⟨hne, hget'⟩ := OrdMap.get?_erase_eq_some hget'
    exact (hstep.calls_frame hne).trans (hI.resolving_call hget')
  | seals hα hs _ hresolving => exact hI.of_direct hα hs hresolving
  | taskRevoke hs _ hresolving => exact hI.of_direct rfl hs hresolving

end Signet
