import Signet.Sessions.OperatorManager
import Signet.Sessions.RevocationFinal

/-!
# Removed operators hold no authority

`operatorMachine` interleaves the operator actions, wired as in `start.ts`, with every
operation on credentials. The hook of a removal revokes the credentials of the
operator that are active at that moment; the removal is over only after the hook has
been awaited.

After a removal has returned `Ok`, the operator stays removed and has no active
credential (`removed_operator_powerless`), if no credential is issued for it once its
removal has revoked its credentials, and none is put back to active. The issuance
itself does not ask whether the operator exists, so it can overlap a removal and can
follow it (`removed_operator_issues`).

The invariant is about the operators that are *gone*: removed, or past the hook of a
removal. That a whole removal deactivates every credential of the operator rests on
`StoreInv`: every record is listed under its operator.
-/

namespace Signet

open Lib

/-! ### The hook of a removal -/

section RevokeAll

variable {m : CredentialStore}

theorem get?_revokeRecord {id : String} {r : InternalCredentialRecord}
    (hget : m.byId.get? id = some r) (reason : CredentialRevocationReason) (now : Time)
    (k : String) :
    (m.revokeRecord id reason now).store.byId.get? k =
      if k = id then some (r.updatedWith (RewriteKind.revoke reason now).updates)
      else m.byId.get? k := by
  simp only [CredentialStore.revokeRecord, CredentialStore.mutateRecord,
    CredentialStore.cleanupRevealState_byId, hget]
  exact OrdMap.get?_set m.byId id k _

/-- A loop that rewrites its records in the same way leaves each of them rewritten and
the others as they were. -/
theorem foldl_rewrites {turn : Outcome (List InternalCredentialRecord) → InternalCredentialRecord →
      Outcome (List InternalCredentialRecord)} {updates : RecordUpdates}
    (hturn : ∀ o r, o.store.byId.get? r.credentialId = some r → ∀ k,
      (turn o r).store.byId.get? k =
        if k = r.credentialId then some (r.updatedWith updates) else o.store.byId.get? k)
    {l : List InternalCredentialRecord} (hnodup : (l.map (·.credentialId)).Nodup) :
    ∀ o, (∀ r ∈ l, o.store.byId.get? r.credentialId = some r) → ∀ k,
      (∃ r ∈ l, r.credentialId = k ∧
          (l.foldl turn o).store.byId.get? k = some (r.updatedWith updates)) ∨
        (k ∉ l.map (·.credentialId) ∧
          (l.foldl turn o).store.byId.get? k = o.store.byId.get? k) := by
  induction l with
  | nil =>
    intro o _ k
    exact .inr ⟨List.not_mem_nil, rfl⟩
  | cons r l ih =>
    intro o hat k
    rw [List.map_cons, List.nodup_cons] at hnodup
    have hget := hturn o r (hat r List.mem_cons_self)
    -- the later records have other ids, so they are still as they were read
    have hat' : ∀ r' ∈ l, (turn o r).store.byId.get? r'.credentialId = some r' := by
      intro r' hr'
      have hne : r'.credentialId ≠ r.credentialId := by
        intro heq
        exact hnodup.1 (heq ▸ List.mem_map_of_mem hr')
      rw [hget, if_neg hne]
      exact hat r' (List.mem_cons_of_mem _ hr')
    rw [List.foldl_cons]
    rcases ih hnodup.2 (turn o r) hat' k with ⟨r', hr', hid, hrest⟩ | ⟨hnot, hrest⟩
    · exact .inl ⟨r', List.mem_cons_of_mem _ hr', hid, hrest⟩
    · by_cases hk : k = r.credentialId
      · refine .inl ⟨r, List.mem_cons_self, hk.symm, ?_⟩
        rw [hrest, hget, if_pos hk]
      · refine .inr ⟨?_, ?_⟩
        · rw [List.map_cons, List.mem_cons]
          rintro (hk' | hmem)
          · exact hk hk'
          · exact hnot hmem
        · rw [hrest, hget, if_neg hk]

/-- **`revokeAllCredentials` is complete**: afterwards the operator has no active
credential. -/
theorem revokeAllCredentials_none_active (hI : StoreInv m) (operatorId : String)
    (reason : CredentialRevocationReason) (now : Time) {id : String}
    {r : InternalCredentialRecord}
    (hget : (m.revokeAllCredentials operatorId reason now).store.byId.get? id = some r)
    (hop : r.operatorId = operatorId) : r.status ≠ .active := by
  obtain ⟨hnodup, hat⟩ := CredentialStore.getActiveForOperator_spec hI.indexed operatorId
  let updates := (RewriteKind.revoke reason now).updates
  have hloop : (∃ r ∈ m.getActiveForOperator operatorId, r.credentialId = id ∧
        (m.revokeAllCredentials operatorId reason now).store.byId.get? id =
          some (r.updatedWith updates)) ∨
      (id ∉ (m.getActiveForOperator operatorId).map (·.credentialId) ∧
        (m.revokeAllCredentials operatorId reason now).store.byId.get? id = m.byId.get? id) := by
    refine foldl_rewrites (fun o r hr k => ?_) hnodup ⟨m, [], []⟩ (fun r hr => (hat r hr).1) id
    exact get?_revokeRecord hr reason now k
  rcases hloop with ⟨r', hr', -, hget'⟩ | ⟨hnot, hget'⟩
  · -- the record was active before, and is revoked now
    have heq : r = r'.updatedWith updates := Option.some.inj (hget.symm.trans hget')
    rw [heq]
    nofun
  · -- the record was not among the active ones of the operator
    intro hactive
    have hold : m.byId.get? id = some r := hget'.symm.trans hget
    obtain ⟨ids, hids, hmem⟩ := hI.listed hold
    rw [hop] at hids
    refine hnot (List.mem_map.2 ⟨r, ?_, hI.keyed hold⟩)
    refine List.mem_filter.2 ⟨?_, decide_eq_true hactive⟩
    rw [hids]
    exact List.mem_filterMap.2 ⟨id, hmem, hold⟩

end RevokeAll

/-! ### The machine -/

/-- An operator action that waits. -/
inductive OperatorCall where
  /-- `operator.update` has resolved its operator. -/
  | updating (resolved : Result String) (changes : OperatorConfigChanges)
  /-- `operator.remove` has resolved its operator. -/
  | resolvingRemoval (resolved : Result String)
  /-- `remove` has revoked the credentials and awaits its hook. -/
  | removing (operatorId : String) (existing : OperatorRecord)
  deriving DecidableEq

/-- The credential operations, the operators and the operator actions in flight. -/
structure OperatorRunState where
  service : ServiceState
  operators : OperatorStore
  calls : OrdMap Nat OperatorCall

/-- A segment of an operator action or of a credential operation. -/
inductive OperatorRunAction where
  | credential (a : CredentialAction)
  /-- `operator.create`. -/
  | create (config : OperatorConfigType) (id : String) (now : Time)
  /-- `operator.update`, up to the resolved id. -/
  | updateAction (call : Nat) (idOrLabel : String) (changes : OperatorConfigChanges)
  | updateResolved (call : Nat)
  /-- `update` called by `keys.init`. -/
  | update (operatorId : String) (changes : OperatorConfigChanges)
  /-- `operator.remove`, up to the resolved id. -/
  | removeAction (call : Nat) (idOrLabel : String)
  | removeResolved (call : Nat) (now : Time)
  /-- `remove` after its hook. -/
  | removed (call : Nat)

/-- What the segments do to the outside. -/
inductive OperatorRunEvent where
  | credential (e : ServiceEvent)
  | operator (result : Result OperatorRecord)
  /-- `remove` returns. -/
  | removed (operatorId : String) (result : Result Unit)
  deriving DecidableEq

namespace OperatorRunState

variable (s : OperatorRunState)

abbrev store : CredentialStore :=
  s.service.store

/-- The call is over. -/
def finish (call : Nat) : OperatorRunState :=
  { s with calls := s.calls.erase call }

/-- `operatorManager.update`, with its answer. -/
def updateOperator (operatorId : String) (changes : OperatorConfigChanges) :
    OperatorRunState × List OperatorRunEvent :=
  let updated := s.operators.update operatorId changes
  ({ s with operators := updated.1 }, [.operator updated.2])

/-- A removal of the operator is past its hook. -/
def isRemoving (operatorId : String) : Bool :=
  s.calls.values.any fun
    | .removing id _ => id = operatorId
    | _ => false

/-- The operator is removed, or past the hook of its removal. -/
def isGone (operatorId : String) : Bool :=
  s.operators.isRemoved operatorId || s.isRemoving operatorId

end OperatorRunState

section Step

variable (cfg : CredentialManagerConfig) (hash : ScopeSet → List String → String)

def operatorStep (s : OperatorRunState) :
    OperatorRunAction → Option (OperatorRunState × List OperatorRunEvent)
  | .credential a =>
    (credentialStep cfg hash s.service a).map fun r =>
      ({ s with service := r.1 }, r.2.map .credential)
  | .create config id now =>
    let created := s.operators.create config id now
    some ({ s with operators := created.1 }, [.operator created.2])
  | .updateAction call idOrLabel changes =>
    if s.calls.has call then none
    else
      let resolved := s.operators.resolveOperatorId idOrLabel
      some ({ s with calls := s.calls.set call (.updating resolved changes) }, [])
  | .updateResolved call =>
    match s.calls.get? call with
    | some (.updating (.ok operatorId) changes) =>
      some ((s.finish call).updateOperator operatorId changes)
    | some (.updating (.error e) _) => some (s.finish call, [.operator (.error e)])
    | _ => none
  | .update operatorId changes => some (s.updateOperator operatorId changes)
  | .removeAction call idOrLabel =>
    if s.calls.has call then none
    else
      let resolved := s.operators.resolveOperatorId idOrLabel
      some ({ s with calls := s.calls.set call (.resolvingRemoval resolved) }, [])
  | .removeResolved call now =>
    match s.calls.get? call with
    | some (.resolvingRemoval (.ok operatorId)) =>
      match s.operators.removeStart operatorId with
      | .error e => some (s.finish call, [.removed operatorId (.error e)])
      | .ok existing =>
        let revoked := s.store.revokeAllCredentials operatorId .ownerInitiated now
        some ({ s with
            service := { s.service with store := revoked.store }
            calls := s.calls.set call (.removing operatorId existing) },
          revoked.effects.map (.credential ∘ .effect))
    | some (.resolvingRemoval (.error e)) => some (s.finish call, [.operator (.error e)])
    | _ => none
  | .removed call =>
    match s.calls.get? call with
    | some (.removing operatorId existing) =>
      some ({ s.finish call with operators := s.operators.removeFinish operatorId existing },
        [.removed operatorId (.ok ())])
    | _ => none

/-- **Operators and their credentials.** -/
def operatorMachine : Machine OperatorRunState OperatorRunAction OperatorRunEvent where
  init := ⟨⟨.new, .empty⟩, .empty, .empty⟩
  step := operatorStep cfg hash

/-- **The condition on operations**: no credential is issued for a gone operator, and
none of its credentials is set to active. -/
def sparesGone (gone : String → Bool) (m : CredentialStore) : ManagerOp → Bool
  | .issueCredential config _ => !gone config.operatorId
  | .setCredentialStatus credentialId status =>
    decide (status ≠ .active) || (m.byId.get? credentialId).all fun r => !gone r.operatorId
  | _ => true

/-- New ids are not in use. -/
def operatorRunFresh (s : OperatorRunState) : OperatorRunAction → Bool
  | .credential a => guardedOps cfg hash drawsFreshId s.service a
  | .create _ id _ => !s.operators.has id
  | _ => true

/-- Fresh ids, and the condition. -/
def operatorRunGuard (s : OperatorRunState) : OperatorRunAction → Bool
  | .credential a =>
    guardedOps cfg hash (fun m op => drawsFreshId m op && sparesGone s.isGone m op) s.service a
  | .create _ id _ => !s.operators.has id
  | _ => true

end Step

/-! ### Credentials of gone operators -/

/-- The writes the condition admits. -/
def KeepsGone (gone : String → Bool) (m : CredentialStore) : RecordWrite → Prop
  | .store record => m.byId.get? record.credentialId = none ∧ gone record.operatorId = false
  | .rewrite id kind =>
    kind.updates.status = some .active → ∀ r, m.byId.get? id = some r → gone r.operatorId = false
  | _ => True

theorem KeepsGone.storesFresh {gone : String → Bool} {m : CredentialStore} {w : RecordWrite}
    (h : KeepsGone gone m w) : StoresFresh m w := by
  cases w with
  | store record => exact h.1
  | rewrite id kind => trivial
  | openReveals id => trivial
  | recordReveal id access request => trivial

def NoneActive (gone : String → Bool) (m : CredentialStore) : Prop :=
  ∀ {id r}, m.byId.get? id = some r → gone r.operatorId = true → r.status ≠ .active

/-- **One write.** -/
theorem NoneActive.step {gone : String → Bool} {m m' : CredentialStore} {w : RecordWrite}
    {effects : List CredentialEffect} (hN : NoneActive gone m) (hw : KeepsGone gone m w)
    (h : Written m w m' effects) : NoneActive gone m' := by
  intro id r hget hgone hactive
  cases h with
  | stored record =>
    rw [CredentialStore.get?_upsertRecord] at hget
    split at hget
    · cases hget
      rw [hw.2] at hgone
      cases hgone
    · exact hN hget hgone hactive
  | @rewritten id' kind existing hexisting =>
    rw [CredentialStore.rewritten_byId] at hget
    rcases OrdMap.get?_set_eq_some hget with ⟨rfl, rfl⟩ | ⟨-, hget⟩
    · -- a rewrite keeps the operator; only a status can make the record active
      change gone existing.operatorId = true at hgone
      unfold InternalCredentialRecord.updatedWith at hactive
      dsimp only at hactive
      cases hupdate : kind.updates.status with
      | none =>
        rw [hupdate, Option.getD_none] at hactive
        exact hN hexisting hgone hactive
      | some status =>
        rw [hupdate, Option.getD_some] at hactive
        have hnot := hw (hactive ▸ hupdate) existing hexisting
        rw [hnot] at hgone
        cases hgone
    · exact hN hget hgone hactive
  | opened _ _ => exact hN hget hgone hactive
  | revealed _ _ => exact hN hget hgone hactive

theorem NoneActive.of_runFrom {gone : String → Bool} {m m' : CredentialStore}
    {effects : List CredentialEffect} (hN : NoneActive gone m)
    (h : RunFrom writeMachine (KeepsGone gone) m effects m') : NoneActive gone m' :=
  h.preserves (I := NoneActive gone) (fun hN hw hs => hN.step hw (writeMachine_sound hs)) hN

section Runs

variable {cfg : CredentialManagerConfig} {hash : ScopeSet → List String → String}

theorem keepsGone_of_guard {gone : String → Bool} {m₀ m : CredentialStore} {op : ManagerOp}
    {w : RecordWrite} (hguard : (drawsFreshId m₀ op && sparesGone gone m₀ op) = true)
    (h : OpWrite cfg hash m₀ op m w) : KeepsGone gone m w := by
  rw [Bool.and_eq_true] at hguard
  obtain ⟨hfresh, hspares⟩ := hguard
  cases h with
  -- only two writes matter: the new record, and a status that is set to active
  | evict hget hact => rintro ⟨⟩
  | store hkeys =>
    refine ⟨(hkeys _).2 ?_, ?_⟩
    · rw [drawsFreshId, Bool.not_eq_true', OrdMap.has, Option.isSome_eq_false_iff,
        Option.isNone_iff_eq_none] at hfresh
      exact hfresh
    · rw [sparesGone, Bool.not_eq_true'] at hspares
      exact hspares
  | expireByToken htoken hget hdue => rintro ⟨⟩
  | heartbeat hget hact => rintro ⟨⟩
  | renew hget hact hwindow => rintro ⟨⟩
  | rescope hget hact => rintro ⟨⟩
  | revoke hget => rintro ⟨⟩
  | revokeAll hget hact => rintro ⟨⟩
  | @setStatus id status r hget =>
    intro hactive r' hget'
    rw [Option.some.inj hactive] at hspares
    rw [sparesGone, hget', Option.all_some, Bool.or_eq_true, Bool.not_eq_true'] at hspares
    rcases hspares with hnot | hgone
    · cases hnot
    · exact hgone
  | openReveals hget => trivial
  | sweepExpire hget hact hdue => rintro ⟨⟩
  | sweepRevoke hget hact hstale => rintro ⟨⟩

theorem keepsGone_revokeAll (gone : String → Bool) {m : CredentialStore} (hI : StoreInv m)
    (operatorId : String) (reason : CredentialRevocationReason) (now : Time) :
    RunFrom writeMachine (KeepsGone gone) m
      (m.revokeAllCredentials operatorId reason now).effects
      (m.revokeAllCredentials operatorId reason now).store := by
  have hwrites := @revokeAllCredentials_writes {} (fun _ _ => "") m hI.indexed operatorId reason now
  refine hwrites.mono ?_
  intro m' w hw
  cases hw with
  | revokeAll hget hact => nofun

/-! ### Runs -/

/-- **Gone operators.** -/
structure OperatorInv (tr : List OperatorRunEvent) (s : OperatorRunState) : Prop where
  store : StoreInv s.store
  none_active : NoneActive s.isGone s.store
  /-- A removal that has returned `Ok` has left its operator removed. -/
  removed : ∀ {operatorId}, .removed operatorId (.ok ()) ∈ tr →
    s.operators.isRemoved operatorId = true

theorem OperatorInv.initial : OperatorInv [] ⟨⟨.new, .empty⟩, .empty, .empty⟩ where
  store := StoreInv.initial
  none_active hget := by cases hget
  removed h := absurd h List.not_mem_nil

theorem OperatorRunState.isRemoving_iff {s : OperatorRunState} {operatorId : String} :
    s.isRemoving operatorId = true ↔
      ∃ call existing, s.calls.get? call = some (.removing operatorId existing) := by
  rw [OperatorRunState.isRemoving, List.any_eq_true]
  constructor
  · rintro ⟨phase, hmem, hphase⟩
    obtain ⟨call, hcall⟩ := OrdMap.mem_values_iff.1 hmem
    split at hphase
    · next id existing =>
      rw [of_decide_eq_true hphase] at hcall
      exact ⟨call, existing, hcall⟩
    · cases hphase
  · rintro ⟨call, existing, hcall⟩
    exact ⟨_, OrdMap.mem_values_iff.2 ⟨call, hcall⟩, decide_eq_true rfl⟩

theorem OperatorRunState.isGone_iff {s : OperatorRunState} {operatorId : String} :
    s.isGone operatorId = true ↔
      s.operators.isRemoved operatorId = true ∨ s.isRemoving operatorId = true := by
  rw [OperatorRunState.isGone, Bool.or_eq_true]

/-- The removals past their hook, after a call has been put or taken. -/
private theorem isRemoving_of_subset {s s' : OperatorRunState} {operatorId : String}
    (hcalls : ∀ call existing, s'.calls.get? call = some (.removing operatorId existing) →
      ∃ call', s.calls.get? call' = some (.removing operatorId existing))
    (h : s'.isRemoving operatorId = true) : s.isRemoving operatorId = true := by
  obtain ⟨call, existing, hcall⟩ := OperatorRunState.isRemoving_iff.1 h
  obtain ⟨call', hcall'⟩ := hcalls call existing hcall
  exact OperatorRunState.isRemoving_iff.2 ⟨call', existing, hcall'⟩

private theorem isRemoving_of_put {s s' : OperatorRunState} {call : Nat} {phase : OperatorCall}
    (hcalls : s'.calls = s.calls.set call phase)
    (hphase : ∀ id existing, phase ≠ .removing id existing)
    {operatorId : String} (h : s'.isRemoving operatorId = true) :
    s.isRemoving operatorId = true := by
  refine isRemoving_of_subset (fun call' existing hcall' => ?_) h
  rw [hcalls] at hcall'
  rcases OrdMap.get?_set_eq_some hcall' with ⟨-, heq⟩ | ⟨-, hold⟩
  · exact absurd heq.symm (hphase _ _)
  · exact ⟨call', hold⟩

private theorem isRemoving_of_taken {s s' : OperatorRunState} {call : Nat}
    (hcalls : s'.calls = s.calls.erase call) {operatorId : String}
    (h : s'.isRemoving operatorId = true) : s.isRemoving operatorId = true := by
  refine isRemoving_of_subset (fun call' existing hcall' => ?_) h
  rw [hcalls] at hcall'
  exact ⟨call', (OrdMap.get?_erase_eq_some hcall').2⟩

/-- A segment that leaves the credentials alone, lets nobody go and removes nobody. -/
private theorem OperatorInv.of_quiet {tr es : List OperatorRunEvent} {s s' : OperatorRunState}
    (hI : OperatorInv tr s) (hstore : s'.store = s.store)
    (hoperators : ∀ id, s'.operators.isRemoved id = s.operators.isRemoved id)
    (hremoving : ∀ id, s'.isRemoving id = true → s.isRemoving id = true)
    (hes : ∀ id, .removed id (.ok ()) ∉ es) : OperatorInv (tr ++ es) s' where
  store := by rw [hstore]; exact hI.store
  none_active := by
    intro id r hget hgone
    rw [hstore] at hget
    refine hI.none_active hget ?_
    rw [OperatorRunState.isGone_iff, hoperators] at hgone
    exact OperatorRunState.isGone_iff.2 (hgone.imp_right (hremoving _))
  removed h := by
    rw [hoperators]
    rcases List.mem_append.1 h with hold | hnew
    · exact hI.removed hold
    · exact absurd hnew (hes _)

/-- A removal past its hook: the operator is gone from now on. -/
private theorem OperatorInv.of_hook {tr : List OperatorRunEvent} {s : OperatorRunState}
    (hI : OperatorInv tr s) (call : Nat) (operatorId : String) (existing : OperatorRecord)
    (now : Time) :
    let revoked := s.store.revokeAllCredentials operatorId .ownerInitiated now
    OperatorInv (tr ++ revoked.effects.map (.credential ∘ .effect))
      { s with
        service := { s.service with store := revoked.store }
        calls := s.calls.set call (.removing operatorId existing) } := by
  intro revoked
  have hwrites := keepsGone_revokeAll s.isGone hI.store operatorId .ownerInitiated now
  refine ⟨StoreInv.of_runFrom (fun _ _ => KeepsGone.storesFresh) hI.store hwrites, ?_, ?_⟩
  · intro id r hget hgone
    by_cases hop : r.operatorId = operatorId
    · exact revokeAllCredentials_none_active hI.store operatorId .ownerInitiated now hget hop
    · -- another operator that is gone was gone before
      refine NoneActive.of_runFrom hI.none_active hwrites hget ?_
      refine OperatorRunState.isGone_iff.2 ((OperatorRunState.isGone_iff.1 hgone).imp_right ?_)
      refine isRemoving_of_subset fun call' existing' hcall' => ?_
      rcases OrdMap.get?_set_eq_some hcall' with ⟨-, heq⟩ | ⟨-, hold⟩
      · injection heq with hid _
        exact absurd hid hop
      · exact ⟨call', hold⟩
  · intro operatorId' h
    rcases List.mem_append.1 h with hold | hnew
    · exact hI.removed hold
    · obtain ⟨effect, -, heq⟩ := List.mem_map.1 hnew
      cases heq

/-- The end of a removal: the operator was gone already, and is removed now. -/
private theorem OperatorInv.of_removed {tr : List OperatorRunEvent} {s : OperatorRunState}
    (hI : OperatorInv tr s) {call : Nat} {operatorId : String} {existing : OperatorRecord}
    (hcall : s.calls.get? call = some (.removing operatorId existing)) :
    OperatorInv (tr ++ [.removed operatorId (.ok ())])
      { s.finish call with operators := s.operators.removeFinish operatorId existing } where
  store := hI.store
  none_active := by
    intro id r hget hgone
    refine hI.none_active hget (OperatorRunState.isGone_iff.2 ?_)
    rcases OperatorRunState.isGone_iff.1 hgone with hremoved | hremoving
    · change (s.operators.removeFinish operatorId existing).isRemoved r.operatorId =
        true at hremoved
      rw [OperatorStore.isRemoved_removeFinish, Bool.or_eq_true, decide_eq_true_eq] at hremoved
      -- the operator was gone already, as its removal was in flight
      rcases hremoved with hop | hold
      · rw [hop]
        exact .inr (OperatorRunState.isRemoving_iff.2 ⟨call, existing, hcall⟩)
      · exact .inl hold
    · exact .inr (isRemoving_of_taken rfl hremoving)
  removed := by
    intro operatorId' h
    show (s.operators.removeFinish operatorId existing).isRemoved operatorId' = true
    rw [OperatorStore.isRemoved_removeFinish, Bool.or_eq_true, decide_eq_true_eq]
    rcases List.mem_append.1 h with hold | hnew
    · exact .inr (hI.removed hold)
    · injection List.mem_singleton.1 hnew with hop _
      exact .inl hop

/-- **Every step keeps the invariant.** -/
theorem OperatorInv.step {tr es : List OperatorRunEvent} {s s' : OperatorRunState}
    {a : OperatorRunAction} (hI : OperatorInv tr s)
    (hguard : operatorRunGuard cfg hash s a = true)
    (h : operatorStep cfg hash s a = some (s', es)) : OperatorInv (tr ++ es) s' := by
  cases a with
  -- credential operations write under the condition, and leave the operators
  | credential a =>
    rw [operatorStep, Option.map_eq_some_iff] at h
    obtain ⟨⟨service, es'⟩, hstep, heq⟩ := h
    obtain ⟨rfl, rfl⟩ := Prod.mk.inj heq
    have hwrites := performAll_writes (fun _ _ => KeepsGone.storesFresh)
      (fun m op _ hok m' w hw => keepsGone_of_guard hok hw) _ hI.store hguard
    rw [credentialStep_managerOps hstep] at hwrites
    refine ⟨StoreInv.of_runFrom (fun _ _ => KeepsGone.storesFresh) hI.store hwrites,
      NoneActive.of_runFrom hI.none_active hwrites, ?_⟩
    intro operatorId hmem
    rcases List.mem_append.1 hmem with hold | hnew
    · exact hI.removed hold
    · obtain ⟨e, -, heq⟩ := List.mem_map.1 hnew
      cases heq
  -- the actions on operators leave the credentials, up to the hook of a removal
  | create config id now =>
    cases h
    have hfresh : s.operators.get? id = none := by
      rw [operatorRunGuard, Bool.not_eq_true', OrdMap.has, Option.isSome_eq_false_iff,
        Option.isNone_iff_eq_none] at hguard
      exact hguard
    exact hI.of_quiet rfl (OperatorStore.isRemoved_create config now hfresh)
      (fun _ h => h) (by simp)
  | updateAction call idOrLabel changes =>
    dsimp only [operatorStep] at h
    split at h
    · cases h
    · cases h
      exact hI.of_quiet rfl (fun _ => rfl)
        (fun _ => isRemoving_of_put rfl (fun _ _ h => by cases h))
        (by simp)
  | updateResolved call =>
    dsimp only [operatorStep] at h
    split at h
    · next operatorId changes hcall =>
      cases h
      exact hI.of_quiet rfl (OperatorStore.isRemoved_update operatorId changes)
        (fun _ => isRemoving_of_taken rfl) (by simp)
    · cases h
      exact hI.of_quiet rfl (fun _ => rfl) (fun _ => isRemoving_of_taken rfl) (by simp)
    · cases h
  | update operatorId changes =>
    cases h
    exact hI.of_quiet rfl (OperatorStore.isRemoved_update operatorId changes)
      (fun _ h => h) (by simp)
  | removeAction call idOrLabel =>
    dsimp only [operatorStep] at h
    split at h
    · cases h
    · cases h
      exact hI.of_quiet rfl (fun _ => rfl)
        (fun _ => isRemoving_of_put rfl (fun _ _ h => by cases h))
        (by simp)
  | removeResolved call now =>
    dsimp only [operatorStep] at h
    split at h
    · next operatorId hcall =>
      split at h
      · cases h
        exact hI.of_quiet rfl (fun _ => rfl) (fun _ => isRemoving_of_taken rfl) (by simp)
      · next existing hexisting =>
        cases h
        exact hI.of_hook call operatorId existing now
    · cases h
      exact hI.of_quiet rfl (fun _ => rfl) (fun _ => isRemoving_of_taken rfl) (by simp)
    · cases h
  | removed call =>
    dsimp only [operatorStep] at h
    split at h
    · next operatorId existing hcall =>
      cases h
      exact hI.of_removed hcall
    · cases h

/-- **Removed operators hold no authority.** In every run under the condition: once a
removal of an operator has returned `Ok`, the operator is removed and none of its
credentials is active. -/
theorem removed_operator_powerless {tr : List OperatorRunEvent} {s : OperatorRunState}
    (h : Run (operatorMachine cfg hash) (fun s a => operatorRunGuard cfg hash s a = true) tr s)
    {operatorId : String} (hremoved : .removed operatorId (.ok ()) ∈ tr) :
    (∀ id r, s.store.byId.get? id = some r → r.operatorId = operatorId → r.status ≠ .active) ∧
      ∃ record, s.operators.get? operatorId = some record ∧ record.status = .removed := by
  have hI : OperatorInv tr s :=
    h.invariant (I := OperatorInv) .initial fun _ hI hguard hs => hI.step hguard hs
  have hstatus := hI.removed hremoved
  constructor
  · intro id r hget hop
    refine hI.none_active hget (OperatorRunState.isGone_iff.2 (.inl ?_))
    rw [hop]
    exact hstatus
  · obtain ⟨record, hrecord, hst⟩ := (Option.any_eq_true _ _).1 hstatus
    exact ⟨record, hrecord, of_decide_eq_true hst⟩

end Runs

/-! ### Runs on fixed inputs -/

private def operatorWithCredential : List OperatorRunAction :=
  [.create ⟨"helper", .operator, .perChat, .internal, none, none, none⟩ "op_0123456789abcdef" 0,
    .credential (.manager (.issueCredential
      ⟨"op_0123456789abcdef", ["conv_0123456789abcdef"], none, some [.send], none, none⟩
      ⟨"cred_0123456789abcdef", "owner", "token", 1⟩))]

/-- The operator is removed by its label. -/
private def removeHelper : List OperatorRunAction :=
  [.removeAction 0 "helper", .removeResolved 0 2, .removed 0]

/-- The removal leaves the operator without an active credential. -/
theorem removed_operator_powerless_helper :
    ∃ tr s, .removed "op_0123456789abcdef" (.ok ()) ∈ tr ∧
      (∃ r, s.store.byId.get? "cred_0123456789abcdef" = some r ∧ r.status ≠ .active) ∧
      Run (operatorMachine {} fun _ _ => "")
        (fun s a => operatorRunGuard {} (fun _ _ => "") s a = true) tr s := by
  obtain ⟨tr, s, hrun, htest⟩ := exists_run_of_exec (operatorMachine {} fun _ _ => "")
    (operatorRunGuard {} fun _ _ => "") (operatorWithCredential ++ removeHelper)
    (fun tr s => decide (.removed "op_0123456789abcdef" (.ok ()) ∈ tr) &&
      (s.store.byId.get? "cred_0123456789abcdef").any (·.operatorId = "op_0123456789abcdef"))
    (by decide)
  rw [Bool.and_eq_true, decide_eq_true_eq] at htest
  obtain ⟨r, hget, hop⟩ := (Option.any_eq_true _ _).1 htest.2
  exact ⟨tr, s, htest.1, ⟨r, hget,
    (removed_operator_powerless hrun htest.1).1 _ r hget (of_decide_eq_true hop)⟩, hrun⟩

/-- **The condition is needed.** A credential is issued for an operator that has been
removed. -/
theorem removed_operator_issues :
    ∃ tr s, Run (operatorMachine {} fun _ _ => "")
        (fun s a => operatorRunFresh {} (fun _ _ => "") s a = true) tr s ∧
      (decide (.removed "op_0123456789abcdef" (.ok ()) ∈ tr) &&
        (s.store.byId.get? "cred_fedcba9876543210").any fun r =>
          r.operatorId = "op_0123456789abcdef" && r.status = .active) = true :=
  exists_run_of_exec (operatorMachine {} fun _ _ => "")
    (operatorRunFresh {} fun _ _ => "")
    (operatorWithCredential ++ removeHelper ++
      [.credential (.service (.issue 0
        ⟨"op_0123456789abcdef", ["conv_0123456789abcdef"], none, some [.send], none, none⟩
        ⟨"cred_fedcba9876543210", "owner", "token2", 3⟩))])
    (fun tr s => decide (.removed "op_0123456789abcdef" (.ok ()) ∈ tr) &&
      (s.store.byId.get? "cred_fedcba9876543210").any fun r =>
        r.operatorId = "op_0123456789abcdef" && r.status = .active)
    (by decide)

end Signet
