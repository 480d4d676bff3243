import Signet.Sessions.CredentialCap
import Signet.Sessions.PolicyHash
import Mathlib.Data.Char
import Mathlib.Data.List.Lex

/-!
# Issued authority is exact

What `issueCredential` returns is for the operator, the chats and the effective scopes
that were asked for, also when it hands out an active credential with the same policy
hash (`issued_authority`).

* `SyncInv` is the invariant: the maps of the store agree, and every record holds the
  hash and the effective scopes of its own scope lists. A scope update writes all three
  at once.
* A record found by its hash lists the same scopes and chats
  (`samePolicy_of_computePolicyHash`), and one that an operator lists is the operator's.

The last point needs the condition that no credential is stored under the id of another
operator's record. `upsertRecord` replaces the record and leaves its id in the list of
the old operator, which then finds the new operator's record by its hash
(`reused_id_issues_foreign`). Generated ids are never in use.
-/

namespace Signet

open Lib CredentialStore

/-- The hash and the effective scopes of a record are those of its scope lists. -/
structure RecordInSync (hash : ScopeSet → List String → String) (r : InternalCredentialRecord) :
    Prop where
  policyHash_eq : r.policyHash = hash r.effectiveScopes r.chatIds
  resolvedScopes_eq : r.resolvedScopes = resolveScopeSet r.effectiveScopes

/-- **The condition**: an issuance does not store over another operator's record. -/
def sparesForeignIds (m : CredentialStore) : ManagerOp → Bool
  | .issueCredential config options =>
    (m.byId.get? options.credentialId).all (·.operatorId = config.operatorId)
  | _ => true

/-- **The maps agree and the records are in sync.** -/
structure SyncInv (hash : ScopeSet → List String → String) (m : CredentialStore) : Prop where
  store : StoreInv m
  sync : ∀ {id r}, m.byId.get? id = some r → RecordInSync hash r

section Sync

variable {cfg : CredentialManagerConfig} {hash : ScopeSet → List String → String}
  {m : CredentialStore}

theorem SyncInv.initial : SyncInv hash .new where
  store := .initial
  sync h := by cases h

/-- The rewrites the operations perform: new scopes come with their hash. -/
def RehashesScopes (hash : ScopeSet → List String → String) (m : CredentialStore) :
    RecordWrite → Prop
  | .store _ => False
  | .rewrite id (.rescope scopes policyHash) =>
    ∀ r, m.byId.get? id = some r → policyHash = hash scopes r.chatIds
  | _ => True

/-- Such a rewrite leaves the record in sync. -/
theorem SyncInv.rewritten (hS : SyncInv hash m) {id : String} {kind : RewriteKind}
    {existing : InternalCredentialRecord} (hget : m.byId.get? id = some existing)
    (hkind : RehashesScopes hash m (.rewrite id kind)) :
    SyncInv hash (m.rewritten id kind existing) where
  store := hS.store.rewritten kind hget
  sync := by
    intro id' r hr
    rw [rewritten_byId] at hr
    rcases OrdMap.get?_set_eq_some hr with ⟨rfl, rfl⟩ | ⟨-, hr⟩
    · obtain ⟨hhash, hresolved⟩ := hS.sync hget
      cases kind with
      | rescope scopes policyHash => exact ⟨hkind existing hget, rfl⟩
      | expire clearReveals => exact ⟨hhash, hresolved⟩
      | revoke reason now => exact ⟨hhash, hresolved⟩
      | setStatus status => exact ⟨hhash, hresolved⟩
      | heartbeat now => exact ⟨hhash, hresolved⟩
      | renew expiresAt => exact ⟨hhash, hresolved⟩
    · exact hS.sync hr

theorem SyncInv.upsertRecord (hS : SyncInv hash m) {record : InternalCredentialRecord}
    (hown : ∀ r, m.byId.get? record.credentialId = some r → r.operatorId = record.operatorId)
    (hsync : RecordInSync hash record) : SyncInv hash (m.upsertRecord record) where
  store := hS.store.upsertRecord hown
  sync := by
    intro id r hr
    rw [get?_upsertRecord] at hr
    split at hr
    · cases hr
      exact hsync
    · exact hS.sync hr

/-- **The halves of an issuance**: the store after the eviction is in sync and its ids
belong to the operators they belonged to before. -/
theorem SyncInv.issueCredential_cases (hS : SyncInv hash m) (config : CredentialConfig)
    (options : IssueOptions) :
    ∃ m', SyncInv hash m' ∧
      (∀ id r, m'.byId.get? id = some r →
        ∃ r₀, m.byId.get? id = some r₀ ∧ r₀.operatorId = r.operatorId) ∧
      ((∃ existing ∈ m'.getActiveForOperator config.operatorId,
          existing.policyHash = hash (buildScopeSet config) config.chatIds ∧
          (m.issueCredential cfg hash config options).store = m' ∧
          (m.issueCredential cfg hash config options).value = .ok existing) ∨
        ∃ record, record =
          newRecord cfg (hash (buildScopeSet config) config.chatIds) config options ∧
          (m.issueCredential cfg hash config options).store = m'.upsertRecord record ∧
          (m.issueCredential cfg hash config options).value = .ok record) := by
  obtain ⟨m', hevict, hrest⟩ :=
    @Signet.issueCredential_cases cfg hash m hS.store.indexed config options
  refine ⟨m', ?_, ?_, hrest⟩
  · rcases hevict with ⟨-, rfl⟩ | ⟨oldest, -, hget, -, rfl⟩
    · exact hS
    · exact hS.rewritten hget trivial
  -- an eviction rewrites a record in place, so ids and operators stay
  · intro id r hr
    rcases hevict with ⟨-, rfl⟩ | ⟨oldest, -, hget, -, rfl⟩
    · exact ⟨r, hr, rfl⟩
    · rw [rewritten_byId] at hr
      rcases OrdMap.get?_set_eq_some hr with ⟨rfl, rfl⟩ | ⟨-, hr⟩
      · exact ⟨oldest, hget, rfl⟩
      · exact ⟨r, hr, rfl⟩

/-- **Every operation under the condition keeps the invariant.** -/
theorem SyncInv.perform (hS : SyncInv hash m) (op : ManagerOp)
    (hguard : sparesForeignIds m op = true) : SyncInv hash (op.perform cfg hash m).store := by
  by_cases hissue : ∃ config options, op = .issueCredential config options
  · obtain ⟨config, options, rfl⟩ := hissue
    obtain ⟨m', hS', howner, hrest⟩ := @SyncInv.issueCredential_cases cfg hash m hS config options
    change SyncInv hash (m.issueCredential cfg hash config options).store
    rcases hrest with ⟨existing, -, -, hstore, -⟩ | ⟨record, hrecord, hstore, -⟩
    · rw [hstore]
      exact hS'
    · rw [hstore]
      refine hS'.upsertRecord ?_ ?_
      -- a record under the drawn id would be of the same operator, by the condition
      · intro r hr
        rw [hrecord] at hr ⊢
        obtain ⟨r₀, hr₀, hop⟩ := howner _ r hr
        rw [← hop]
        exact of_decide_eq_true ((Option.all_eq_true _ _).1 hguard r₀ hr₀)
      · rw [hrecord]
        exact ⟨rfl, rfl⟩
  · have hwrites := @ManagerOp.writes cfg hash m hS.store.indexed op
    refine hwrites.preserves
      (I := fun m' => SyncInv hash m') ?_ hS
    intro m₁ w m₂ effects hS₁ hw hs
    -- none of the other operations stores a record, and a scope update brings its hash
    have hwrite : RehashesScopes hash m₁ w := by
      cases hw with
      | evict hget hactive => exact absurd ⟨_, _, rfl⟩ hissue
      | store hkeys => exact absurd ⟨_, _, rfl⟩ hissue
      | rescope hget hactive =>
        intro r hr
        rw [hget] at hr
        cases hr
        rfl
      | _ => trivial
    cases writeMachine_sound hs with
    | stored record => exact hwrite.elim
    | rewritten kind hget => exact hS₁.rewritten hget hwrite
    | opened _ _ =>
      exact ⟨⟨hS₁.store.keyed, hS₁.store.nodup, hS₁.store.listed, hS₁.store.owned⟩, hS₁.sync⟩
    | revealed _ _ =>
      exact ⟨⟨hS₁.store.keyed, hS₁.store.nodup, hS₁.store.listed, hS₁.store.owned⟩, hS₁.sync⟩

end Sync

/-! ### What is issued -/

/-- The issuance returns a credential of the requested operator, for the requested chats,
whose effective scopes are those of the requested lists. -/
def IssuesExactly (cfg : CredentialManagerConfig) (hash : ScopeSet → List String → String)
    (m : CredentialStore) (config : CredentialConfig) (options : IssueOptions) : Prop :=
  ∃ record, (m.issueCredential cfg hash config options).value = .ok record ∧
    record.operatorId = config.operatorId ∧
    (∀ chatId, chatId ∈ record.chatIds ↔ chatId ∈ config.chatIds) ∧
    (∀ scope, scope ∈ record.resolvedScopes ↔ scope ∈ resolveScopeSet (buildScopeSet config)) ∧
    (∀ scope, scope ∈ resolveScopeSet record.effectiveScopes ↔
      scope ∈ resolveScopeSet (buildScopeSet config))

/-- Policies that list the same scopes have the same effective scopes. -/
theorem SamePolicy.mem_resolveScopeSet {scopes scopes' : ScopeSet} {chatIds chatIds' : List String}
    (h : SamePolicy scopes chatIds scopes' chatIds') (scope : PermissionScope) :
    scope ∈ resolveScopeSet scopes ↔ scope ∈ resolveScopeSet scopes' := by
  rw [Signet.mem_resolveScopeSet, Signet.mem_resolveScopeSet, h.allow.mem_iff, h.deny.mem_iff]

/-- **An issuance from a store in sync is exact.** -/
theorem SyncInv.issuesExactly {cfg : CredentialManagerConfig}
    {hash : ScopeSet → List String → String} {m : CredentialStore} (hS : SyncInv hash m)
    (hhash : ∀ {scopes chatIds scopes' chatIds'}, hash scopes chatIds = hash scopes' chatIds' →
      SamePolicy scopes chatIds scopes' chatIds')
    (config : CredentialConfig) (options : IssueOptions) :
    IssuesExactly cfg hash m config options := by
  obtain ⟨m', hS', -, hrest⟩ := @SyncInv.issueCredential_cases cfg hash m hS config options
  rcases hrest with ⟨existing, hmem, hequal, -, hvalue⟩ | ⟨record, rfl, -, hvalue⟩
  · obtain ⟨hstored, hactive⟩ := (mem_getActiveForOperator hS'.store).1 hmem
    obtain ⟨id, hget⟩ := OrdMap.mem_values_iff.1 hstored
    obtain ⟨hhashed, hresolved⟩ := hS'.sync hget
    -- equal hashes, hence the same lists
    have hsame : SamePolicy existing.effectiveScopes existing.chatIds (buildScopeSet config)
        config.chatIds := hhash (hhashed.symm.trans hequal)
    refine ⟨existing, hvalue, (isActiveOf_iff.1 hactive).1, fun chatId => hsame.chatIds.mem_iff,
      ?_, hsame.mem_resolveScopeSet⟩
    rw [hresolved]
    exact hsame.mem_resolveScopeSet
  · exact ⟨_, hvalue, rfl, fun _ => Iff.rfl, fun _ => Iff.rfl, fun _ => Iff.rfl⟩

/-- **Issued authority is exact.** In every run of credential operations that never stores a
credential under the id of another operator's record, every issuance returns a credential
of the requested operator, for the requested chats, with exactly the effective scopes of
the requested lists. -/
theorem issued_authority {cfg : CredentialManagerConfig} {localeLE : List Char → List Char → Bool}
    {bunHash : String → Nat} (hbun : Function.Injective bunHash) {tr : List ServiceEvent}
    {s : ServiceState}
    (h : Run (credentialMachine cfg (computePolicyHash localeLE bunHash))
      (fun s a => guardedOps cfg (computePolicyHash localeLE bunHash) sparesForeignIds s a = true)
      tr s) (config : CredentialConfig) (options : IssueOptions) :
    IssuesExactly cfg (computePolicyHash localeLE bunHash) s.store config options := by
  have hS : SyncInv (computePolicyHash localeLE bunHash) s.store :=
    credentialRun_preserves (I := SyncInv (computePolicyHash localeLE bunHash))
      (fun m op hS hguard => hS.perform op hguard) .initial h.runFrom
  exact hS.issuesExactly (samePolicy_of_computePolicyHash hbun) config options

/-! ### Runs on fixed inputs -/

/-- The characters of a string as the digits of a number. -/
def numeral (cs : List Char) : Nat :=
  cs.foldr (fun c n => n * 0x110000 + c.toNat + 1) 0

private theorem char_lt (c : Char) : c.toNat < 0x110000 := by
  rcases c.valid with hlow | ⟨-, hhigh⟩
  · exact Nat.lt_trans hlow (by decide)
  · exact hhigh

private theorem numeral_injective : Function.Injective numeral := by
  intro cs
  induction cs with
  | nil =>
    intro cs' heq
    cases cs' with
    | nil => rfl
    | cons c' cs' => exact absurd heq.symm (Nat.succ_ne_zero _)
  | cons c cs ih =>
    intro cs' heq
    cases cs' with
    | nil => exact absurd heq (Nat.succ_ne_zero _)
    | cons c' cs' =>
      have hc := char_lt c
      have hc' := char_lt c'
      -- a digit is below the base, so the last one is the remainder
      have hstep : numeral cs * 0x110000 + c.toNat = numeral cs' * 0x110000 + c'.toNat :=
        Nat.succ.inj heq
      have hrest : cs = cs' := ih (by omega)
      have hchar : c = c' := Char.toNat_inj.1 (by omega)
      rw [hrest, hchar]

/-- `Bun.hash` of the text below, and other numbers for other texts. -/
def recordedHash (text : String) : Nat :=
  if text = "\x7b\"chatIds\":[\"conv_0123456789abcdef\"],\"scopes\":" ++
      "\x7b\"allow\":[\"reply\",\"send\"],\"deny\":[]\x7d\x7d"
  then 0x1f80cf2debfafe04 else 2 ^ 64 + numeral text.toList

private theorem recordedHash_injective : Function.Injective recordedHash := by
  intro text text' heq
  unfold recordedHash at heq
  split at heq
  · next htext =>
    split at heq
    · next htext' => rw [htext, htext']
    · omega
  · split at heq
    · omega
    · exact String.toList_injective (numeral_injective (by omega))

/-- A credential for one chat that may send and reply, its lists in the given order. -/
def sendAndReply (operatorId : String) (allow : List PermissionScope) : CredentialConfig :=
  ⟨operatorId, ["conv_0123456789abcdef"], none, some allow, none, none⟩

def recordedPolicyHash : ScopeSet → List String → String :=
  computePolicyHash (fun left right => left ≤ right) recordedHash

/-- The record an issuance returns, if its test holds. -/
def issuedSatisfies (m : CredentialStore) (config : CredentialConfig)
    (options : IssueOptions) (p : InternalCredentialRecord → Bool) : Bool :=
  match (m.issueCredential {} recordedPolicyHash config options).value with
  | .ok record => p record
  | .error _ => false

/-- The same scopes in another order are deduplicated, and what is returned is what was
asked for. -/
theorem issued_authority_reordered :
    ∃ s : ServiceState,
      issuedSatisfies s.store (sendAndReply "op_0123456789abcdef" [.reply, .send])
          ⟨"cred_fedcba9876543210", "owner", "another token", 1000⟩
          (·.credentialId = "cred_0123456789abcdef") = true ∧
      IssuesExactly {} recordedPolicyHash s.store
        (sendAndReply "op_0123456789abcdef" [.reply, .send])
        ⟨"cred_fedcba9876543210", "owner", "another token", 1000⟩ := by
  obtain ⟨tr, s, hrun, htest⟩ := exists_run_of_exec (credentialMachine {} recordedPolicyHash)
    (guardedOps {} recordedPolicyHash sparesForeignIds)
    [.manager (.issueCredential (sendAndReply "op_0123456789abcdef" [.send, .reply])
      ⟨"cred_0123456789abcdef", "owner", "token", 0⟩)]
    (fun _ s => issuedSatisfies s.store (sendAndReply "op_0123456789abcdef" [.reply, .send])
      ⟨"cred_fedcba9876543210", "owner", "another token", 1000⟩
      (·.credentialId = "cred_0123456789abcdef"))
    (by decide +kernel)
  exact ⟨s, htest, issued_authority recordedHash_injective hrun _ _⟩

/-- **The condition is needed.** An id is used again for a credential of another operator;
the first operator asks for its policy once more and gets the other one's credential. -/
theorem reused_id_issues_foreign :
    Function.Injective recordedHash ∧ ∃ (tr : List ServiceEvent) (s : ServiceState),
      Run (credentialMachine {} recordedPolicyHash) (fun _ _ => True) tr s ∧
      ¬ IssuesExactly {} recordedPolicyHash s.store
        (sendAndReply "op_0123456789abcdef" [.send, .reply])
        ⟨"cred_fedcba9876543210", "owner", "third token", 2000⟩ := by
  obtain ⟨tr, s, hrun, htest⟩ := exists_run_of_exec_of_forall
    (credentialMachine {} recordedPolicyHash) (fun _ _ => True)
    [.manager (.issueCredential (sendAndReply "op_0123456789abcdef" [.send, .reply])
        ⟨"cred_0123456789abcdef", "owner", "token", 0⟩),
      .manager (.issueCredential (sendAndReply "op_fedcba9876543210" [.send, .reply])
        ⟨"cred_0123456789abcdef", "owner", "another token", 1000⟩)]
    (fun _ s => issuedSatisfies s.store (sendAndReply "op_0123456789abcdef" [.send, .reply])
      ⟨"cred_fedcba9876543210", "owner", "third token", 2000⟩
      (·.operatorId = "op_fedcba9876543210"))
    (fun _ _ _ => trivial) (by decide +kernel)
  refine ⟨recordedHash_injective, tr, s, hrun, ?_⟩
  rintro ⟨record, hvalue, hoperator, -⟩
  unfold issuedSatisfies at htest
  rw [hvalue] at htest
  rw [of_decide_eq_true htest] at hoperator
  exact absurd hoperator (by decide)

end Signet
