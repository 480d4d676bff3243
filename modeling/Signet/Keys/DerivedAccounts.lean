import Signet.Keys.DeriveAccount

/-!
# No derived account is lost

`derived_accounts_kept`: in every run of `deriveAccount`, `listAccounts` and `sign` calls on a
wallet under the condition `derivesAlone`, the accounts of successful calls have distinct
indexes, every later list has each of them, and without a call in flight the wallet's file
holds the account list in memory. Two calls that overlap return one index
(`overlapping_derivations`).

The invariant relates the file to the state object in use (`FileOk`): the file holds its list,
unless a call that has touched the file is still in flight. State objects only grow.
-/

namespace Signet

open Lib AccountsState

/-! ### Distinct indexes and complete lists -/

/-- The account was returned before the call was made. -/
def ReturnedBefore (tr : List AccountsEvent) (call : Nat) (info : AccountInfo) : Prop :=
  ∃ before after c, tr = before ++ .called call :: after ∧ .derived c (.ok info) ∈ before

def ListsReturned (before : List AccountsEvent) (e : AccountsEvent) : Prop :=
  ∀ call infos, e = .listed call (.ok infos) → ∀ info, ReturnedBefore before call info →
    info ∈ infos

/-- The account that a call has returned. -/
def AccountsEvent.derivedInfo? : AccountsEvent → Option AccountInfo
  | .derived _ (.ok info) => some info
  | _ => none

/-- The indexes that have been returned. -/
def derivedIndexes (tr : List AccountsEvent) : List Nat :=
  (tr.filterMap AccountsEvent.derivedInfo?).map (·.index)

/-- **The condition.** A `deriveAccount` whose write has succeeded finds the state object it
holds still in use, with the list it has extended; a load replaces no other list; and a write
that fails has not touched the file. -/
def derivesAlone (s : AccountsState) : AccountsAction → Bool
  | .load call =>
    match s.calls.get? call with
    | some (.gotAccounts _ accounts) =>
      s.current.all fun object => (s.objects object).accounts = accounts
    | _ => true
  | .updated call (.ok ()) =>
    match s.calls.get? call with
    | some (.updating update) =>
      s.current = some update.object &&
        update.newAccounts =
          (s.objects update.object).accounts ++ [update.info.toAccountEntry]
    | _ => true
  | .updated call (.error _) =>
    match s.calls.get? call with
    | some (.updating update) => !update.touched
    | _ => true
  | _ => true

/-! ### One step -/

/-- The event neither returns an account or a list nor begins a call. -/
def AccountsEvent.quiet : AccountsEvent → Bool
  | .derived _ (.error _) | .listed _ (.error _) | .signed _ _ => true
  | _ => false

/-- The call is not in `updateWalletAccounts`. -/
def AccountsCall.reads : AccountsCall → Bool
  | .updating _ => false
  | _ => true

/-- **What a step can do.** -/
inductive AccountsStep (crypto : KeyDerivation) (seed : Bytes) (s : AccountsState) :
    AccountsAction → AccountsState → List AccountsEvent → Prop
  | begins {a call op} (hnew : s.calls.get? call = none) :
      AccountsStep crypto seed s a (s.await call (.starting op s.current)) [.called call]
  | beginsSigning {a call accountIndex data} (hnew : s.calls.get? call = none) :
      AccountsStep crypto seed s a (s.await call (.signing accountIndex data)) [.called call]
  /-- A call ends that returns neither an account nor a list. -/
  | ends {a call phase e} (hcall : s.calls.get? call = some phase) (hreads : phase.reads = true)
      (hquiet : e.quiet = true) : AccountsStep crypto seed s a (s.finish call) [e]
  | reuses {a call op object} (hcall : s.calls.get? call = some (.starting op (some object))) :
      AccountsStep crypto seed s a (s.await call (.ready op object)) []
  | lists {a call op} (hcall : s.calls.get? call = some (.starting op none)) :
      AccountsStep crypto seed s a (s.await call (.listing op)) []
  | gets {a call op} (hcall : s.calls.get? call = some (.listing op)) :
      AccountsStep crypto seed s a (s.await call (.gettingAccounts op)) []
  | reads {a call op accounts} (hcall : s.calls.get? call = some (.gettingAccounts op))
      (hfile : s.file = some accounts) :
      AccountsStep crypto seed s a (s.await call (.gotAccounts op accounts)) []
  | loads {call op accounts} (hcall : s.calls.get? call = some (.gotAccounts op accounts)) :
      AccountsStep crypto seed s (.load call) ((s.install accounts).await call (.ready op s.loads))
        []
  | returnsList {a call object}
      (hcall : s.calls.get? call = some (.ready .listAccounts object)) :
      AccountsStep crypto seed s a (s.finish call)
        [.listed call ((s.objects object).accounts.mapM (accountInfo crypto seed))]
  | derives {a call chain object info}
      (hcall : s.calls.get? call = some (.ready (.deriveAccount chain) object))
      (hinfo : deriveInfo crypto seed (s.objects object).nextIndex chain = .ok info) :
      AccountsStep crypto seed s a
        (s.await call (.updating ⟨object, info,
          (s.objects object).accounts ++ [info.toAccountEntry], false, false⟩)) []
  | tears {a call update} (hcall : s.calls.get? call = some (.updating update))
      (hlanded : update.landed = false) :
      AccountsStep crypto seed s a
        { s.await call (.updating { update with touched := true }) with file := none } []
  | lands {a call update} (hcall : s.calls.get? call = some (.updating update))
      (hlanded : update.landed = false) :
      AccountsStep crypto seed s a
        { s.await call (.updating { update with touched := true, landed := true }) with
          file := some update.newAccounts } []
  | stores {call update} (hcall : s.calls.get? call = some (.updating update))
      (hlanded : update.landed = true) :
      AccountsStep crypto seed s (.updated call (.ok ())) ((s.store update).finish call)
        [.derived call (.ok update.info)]
  | refused {call update e} (hcall : s.calls.get? call = some (.updating update)) :
      AccountsStep crypto seed s (.updated call (.error e)) (s.finish call)
        [.derived call (.error (.err e))]

section Step

variable {walletId : String} {crypto : KeyDerivation} {seed : Bytes} {s s' : AccountsState}
  {a : AccountsAction} {es : List AccountsEvent}

theorem quiet_failed (op : AccountsOp) (call : Nat) (failure : Failure) :
    (op.failed call failure).quiet = true := by
  cases op with
  | deriveAccount chain => rfl
  | listAccounts => rfl

theorem accountsStep_sound (h : accountsStep walletId crypto seed s a = some (s', es)) :
    AccountsStep crypto seed s a s' es := by
  cases a with
  | call call op =>
    dsimp only [accountsStep] at h
    split at h
    · cases h
    · next hnew =>
      cases h
      exact .begins (OrdMap.get?_eq_none_of_not_has hnew)
  | sign call accountIndex data =>
    dsimp only [accountsStep] at h
    split at h
    · cases h
    · next hnew =>
      cases h
      exact .beginsSigning (OrdMap.get?_eq_none_of_not_has hnew)
  | seedRead call answer =>
    dsimp only [accountsStep] at h
    split at h
    · next hcall =>
      cases h
      exact .ends hcall rfl (quiet_failed _ _ _)
    · next hcall =>
      cases h
      exact .reuses hcall
    · next hcall =>
      cases h
      exact .lists hcall
    · next hcall =>
      cases h
      exact .ends hcall rfl rfl
    · next hcall =>
      cases h
      exact .ends hcall rfl rfl
    · cases h
  | listed call answer =>
    dsimp only [accountsStep] at h
    split at h
    · next hcall =>
      cases h
      exact .ends hcall rfl (quiet_failed _ _ _)
    · next hcall =>
      cases h
      exact .gets hcall
    · cases h
  | accountsRead call answer =>
    dsimp only [accountsStep] at h
    split at h
    · next hcall =>
      cases h
      exact .ends hcall rfl (quiet_failed _ _ _)
    · next hcall _ =>
      cases h
      exact .ends hcall rfl (quiet_failed _ _ _)
    · next hcall hfile =>
      cases h
      exact .reads hcall hfile
    · cases h
  | load call =>
    dsimp only [accountsStep] at h
    split at h
    · next hcall =>
      cases h
      exact .loads hcall
    · cases h
  | resume call =>
    dsimp only [accountsStep] at h
    split at h
    · next hcall =>
      cases h
      exact .returnsList hcall
    · next hcall =>
      unfold AccountsState.deriveAccount at h
      split at h
      · cases h
        exact .ends hcall rfl rfl
      · next hinfo =>
        cases h
        exact .derives hcall hinfo
    · cases h
  | tear call =>
    dsimp only [accountsStep] at h
    split at h
    · next hcall =>
      split at h
      · cases h
      · next hlanded =>
        cases h
        exact .tears hcall (Bool.eq_false_iff.2 hlanded)
    · cases h
  | land call =>
    dsimp only [accountsStep] at h
    split at h
    · next hcall =>
      split at h
      · cases h
      · next hlanded =>
        cases h
        exact .lands hcall (Bool.eq_false_iff.2 hlanded)
    · cases h
  | updated call answer =>
    dsimp only [accountsStep] at h
    split at h
    · next hcall =>
      cases h
      exact .refused hcall
    · next hcall =>
      split at h
      · next hlanded =>
        cases h
        exact .stores hcall hlanded
      · cases h
    · cases h

end Step

/-! ### The events of a trace -/

section Trace

variable {tr es : List AccountsEvent} {call : Nat} {info : AccountInfo}

theorem ReturnedBefore.returned (h : ReturnedBefore tr call info) :
    ∃ c, .derived c (.ok info) ∈ tr := by
  obtain ⟨before, after, c, rfl, hmem⟩ := h
  exact ⟨c, List.mem_append_left _ hmem⟩

/-- What was returned before a call does not depend on what comes after it. -/
theorem ReturnedBefore.of_append (h : ReturnedBefore (tr ++ es) call info)
    (hes : .called call ∉ es) : ReturnedBefore tr call info := by
  obtain ⟨before, after, c, heq, hmem⟩ := h
  rcases List.append_eq_append_iff.1 heq with ⟨mid, rfl, hmid⟩ | ⟨mid, htr, hmid⟩
  -- the call was not made by the new events, so it was made and answered before
  · exact absurd (hmid ▸ List.mem_append_right mid List.mem_cons_self) hes
  · cases mid with
    | nil =>
      have hmem : .called call ∈ es := by
        rw [List.nil_append] at hmid
        exact hmid ▸ List.mem_cons_self
      exact absurd hmem hes
    | cons e rest =>
      obtain ⟨rfl, -⟩ := List.cons.inj hmid
      exact ⟨before, rest, c, htr, hmem⟩

theorem derivedIndexes_append (tr es : List AccountsEvent) :
    derivedIndexes (tr ++ es) = derivedIndexes tr ++ derivedIndexes es := by
  unfold derivedIndexes
  rw [List.filterMap_append, List.map_append]

/-- An index that has been returned is that of an account that has been returned. -/
theorem exists_of_mem_derivedIndexes {index : Nat} (h : index ∈ derivedIndexes tr) :
    ∃ c info, .derived c (.ok info) ∈ tr ∧ info.index = index := by
  obtain ⟨info, hinfo, rfl⟩ := List.mem_map.1 h
  obtain ⟨e, he, heq⟩ := List.mem_filterMap.1 hinfo
  unfold AccountsEvent.derivedInfo? at heq
  split at heq
  · cases heq
    exact ⟨_, info, he, rfl⟩
  · cases heq

end Trace

/-! ### The invariant -/

/-- The state object in use has been made, and a call holds one that has been made; a call
that updates the list extends one that its object has or had. -/
def AccountsCallOk (crypto : KeyDerivation) (seed : Bytes) (s : AccountsState) :
    AccountsCall → Prop
  | .starting _ (some object) | .ready _ object => object < s.loads
  | .gotAccounts _ accounts => s.loads = 0 → s.file = some accounts
  | .updating update =>
    update.object < s.loads ∧
    accountInfo crypto seed update.info.toAccountEntry = .ok update.info ∧
    (update.landed = true → update.touched = true) ∧
    ∃ base, update.newAccounts = base ++ [update.info.toAccountEntry] ∧
      update.info.index = nextIndexOf base ∧
      base.length ≤ (s.objects update.object).accounts.length
  | _ => True

/-- The file holds the list of the state object, or a call that has touched it is in
flight. -/
def FileOk (s : AccountsState) (object : Nat) : Prop :=
  (s.file = some (s.objects object).accounts ∧
    ∀ call update, s.calls.get? call = some (.updating update) → update.landed = true →
      update.object = object →
      update.newAccounts ≠ (s.objects object).accounts ++ [update.info.toAccountEntry]) ∨
  ∃ call update, s.calls.get? call = some (.updating update) ∧ update.touched = true ∧
    (s.file = none ∧ update.landed = false ∨
      s.file = some update.newAccounts ∧ update.landed = true)

/-- What a list in flight holds of an account that was returned before it was asked for. -/
def Owes (s : AccountsState) (entry : AccountEntry) : AccountsCall → Prop
  | .starting .listAccounts (some object) | .ready .listAccounts object =>
    entry ∈ (s.objects object).accounts
  | .starting .listAccounts none | .listing .listAccounts | .gettingAccounts .listAccounts
  | .gotAccounts .listAccounts _ => False
  | _ => True

/-- **Accounts in memory, in the file and returned.** -/
structure AccountsInv (crypto : KeyDerivation) (seed : Bytes) (tr : List AccountsEvent)
    (s : AccountsState) : Prop where
  states : ∀ object, (s.objects object).nextIndex = nextIndexOf (s.objects object).accounts
  current : ∀ object, s.current = some object → object < s.loads
  unloaded : s.current = none → s.loads = 0
  calls : s.calls.Forall fun _ phase => AccountsCallOk crypto seed s phase
  file : ∀ object, s.current = some object → FileOk s object
  returned : ∀ c info, .derived c (.ok info) ∈ tr →
    accountInfo crypto seed info.toAccountEntry = .ok info ∧
      ∃ object, s.current = some object ∧ info.toAccountEntry ∈ (s.objects object).accounts
  distinct : (derivedIndexes tr).Nodup
  owed : s.calls.Forall fun call phase =>
    ∀ info, ReturnedBefore tr call info → Owes s info.toAccountEntry phase
  listings : EachAfter ListsReturned tr

section Invariant

variable {crypto : KeyDerivation} {seed : Bytes} {s s' : AccountsState} {tr es : List AccountsEvent}
  {a : AccountsAction} {call : Nat} {phase phase' : AccountsCall}

theorem AccountsInv.initial (accounts : List AccountEntry) (loaded : Bool) :
    AccountsInv crypto seed [] ⟨fun _ => .load accounts, if loaded then 1 else 0,
      if loaded then some 0 else none, some accounts, .empty⟩ where
  states := fun _ => rfl
  current := by
    intro object hcurrent
    cases loaded with
    | true =>
      cases hcurrent
      exact Nat.one_pos
    | false => cases hcurrent
  unloaded := by
    intro hcurrent
    cases loaded with
    | true => cases hcurrent
    | false => rfl
  calls := OrdMap.Forall.empty
  file := fun object _ => .inl ⟨rfl, nofun⟩
  returned := nofun
  distinct := List.nodup_nil
  owed := OrdMap.Forall.empty
  listings := eachAfter_nil _

/-- State objects only grow, and the file of a wallet that is not loaded is left alone. -/
structure Grows (s s' : AccountsState) : Prop where
  loads : s.loads ≤ s'.loads
  file : s'.loads = 0 → s'.file = s.file
  accounts : ∀ object, object < s.loads →
    (s.objects object).accounts <+: (s'.objects object).accounts

theorem Grows.of_eq (hloads : s'.loads = s.loads) (hobjects : s'.objects = s.objects)
    (hfile : s'.loads = 0 → s'.file = s.file) : Grows s s' where
  loads := Nat.le_of_eq hloads.symm
  file := hfile
  accounts := by
    intro object _
    have heq : (s'.objects object).accounts = (s.objects object).accounts := by rw [hobjects]
    exact heq ▸ List.prefix_rfl

theorem AccountsCallOk.mono (hgrows : Grows s s') (h : AccountsCallOk crypto seed s phase) :
    AccountsCallOk crypto seed s' phase := by
  cases phase with
  | starting op existing =>
    cases existing with
    | none => trivial
    | some object => exact Nat.lt_of_lt_of_le h hgrows.loads
  | ready op object => exact Nat.lt_of_lt_of_le h hgrows.loads
  | gotAccounts op accounts =>
    -- no load so far, so the file is as it was read
    intro hloads
    have hle := hgrows.loads
    rw [hgrows.file hloads]
    exact h (by omega)
  | updating update =>
    obtain ⟨hobject, hinfo, hlanded, base, hnew, hindex, hlength⟩ := h
    have hprefix := hgrows.accounts update.object hobject
    exact ⟨Nat.lt_of_lt_of_le hobject hgrows.loads, hinfo, hlanded, base, hnew, hindex,
      Nat.le_trans hlength hprefix.length_le⟩
  | listing | gettingAccounts | signing => trivial

theorem Owes.mono {entry : AccountEntry} (hgrows : Grows s s')
    (hok : AccountsCallOk crypto seed s phase) (h : Owes s entry phase) : Owes s' entry phase := by
  cases phase with
  | starting op existing =>
    cases op with
    | deriveAccount chain => trivial
    | listAccounts =>
      cases existing with
      | none => exact h
      | some object => exact (hgrows.accounts object hok).subset h
  | ready op object =>
    cases op with
    | deriveAccount chain => trivial
    | listAccounts => exact (hgrows.accounts object hok).subset h
  | listing op | gettingAccounts op | gotAccounts op _ =>
    cases op with
    | deriveAccount chain => trivial
    | listAccounts => exact h
  | updating | signing => trivial

/-- A step that leaves the file and the object, and the calls that have touched the file. -/
theorem FileOk.frame {object : Nat} (h : FileOk s object) (hfile : s'.file = s.file)
    (haccounts : (s'.objects object).accounts = (s.objects object).accounts)
    (hold : ∀ call update, s'.calls.get? call = some (.updating update) → update.landed = true →
      s.calls.get? call = some (.updating update))
    (hkept : ∀ call update, s.calls.get? call = some (.updating update) → update.touched = true →
      s'.calls.get? call = some (.updating update)) : FileOk s' object := by
  -- the file is as the object, or a write of a call that is still in flight explains it
  rcases h with ⟨heq, hfresh⟩ | ⟨call, update, hcall, htouched, hwhere⟩
  · refine .inl ⟨by rw [hfile, heq, haccounts], fun call update hcall hlanded hobject => ?_⟩
    rw [haccounts]
    exact hfresh call update (hold call update hcall hlanded) hlanded hobject
  · refine .inr ⟨call, update, hkept call update hcall htouched, htouched, ?_⟩
    rw [hfile]
    exact hwhere

/-- The clauses on the trace after a step without calls, accounts or lists. -/
theorem AccountsInv.returned_step (hI : AccountsInv crypto seed tr s) (hgrows : Grows s s')
    (hcurrent : s'.current = s.current)
    (hes : ∀ c info, .derived c (.ok info) ∉ es) :
    ∀ c info, .derived c (.ok info) ∈ tr ++ es →
      accountInfo crypto seed info.toAccountEntry = .ok info ∧
        ∃ object, s'.current = some object ∧
          info.toAccountEntry ∈ (s'.objects object).accounts := by
  intro c info hmem
  rcases List.mem_append.1 hmem with hold | hnew
  · obtain ⟨hinfo, object, hobject, hentry⟩ := hI.returned c info hold
    refine ⟨hinfo, object, hcurrent.trans hobject, ?_⟩
    exact (hgrows.accounts object (hI.current object hobject)).subset hentry
  · exact absurd hnew (hes c info)

theorem AccountsInv.distinct_step (hI : AccountsInv crypto seed tr s)
    (hes : ∀ c info, .derived c (.ok info) ∉ es) : (derivedIndexes (tr ++ es)).Nodup := by
  have hnil : derivedIndexes es = [] := by
    refine List.eq_nil_iff_forall_not_mem.2 fun index hindex => ?_
    obtain ⟨c, info, hmem, -⟩ := exists_of_mem_derivedIndexes hindex
    exact hes c info hmem
  rw [derivedIndexes_append, hnil, List.append_nil]
  exact hI.distinct

theorem AccountsInv.await (hI : AccountsInv crypto seed tr s)
    (hcall : s.calls.get? call = some phase) (hreads : phase.reads = true)
    (hok : AccountsCallOk crypto seed s phase')
    (hlanded : ∀ update, phase' = .updating update → update.landed = false)
    (howes : ∀ entry, Owes s entry phase → Owes s entry phase') :
    AccountsInv crypto seed tr (s.await call phase') where
  states := hI.states
  current := hI.current
  unloaded := hI.unloaded
  calls := hI.calls.set hok
  file := by
    intro object hobject
    refine (hI.file object hobject).frame rfl rfl ?_ ?_
    · intro c update hc hland
      rcases OrdMap.get?_set_eq_some hc with ⟨-, rfl⟩ | ⟨-, hold⟩
      · rw [hlanded update rfl] at hland
        cases hland
      · exact hold
    · intro c update hc _
      have hne : c ≠ call := by
        rintro rfl
        cases hcall.symm.trans hc
        cases hreads
      exact (OrdMap.get?_set_of_ne _ _ hne).trans hc
  returned := hI.returned
  distinct := hI.distinct
  owed := by
    refine OrdMap.Forall.set hI.owed ?_
    intro info hinfo
    exact howes _ (hI.owed call phase hcall info hinfo)
  listings := hI.listings

theorem AccountsInv.begins (hI : AccountsInv crypto seed tr s) (hnew : s.calls.get? call = none)
    (hok : AccountsCallOk crypto seed s phase') (hreads : phase'.reads = true)
    (howes : ∀ info, (∃ c, .derived c (.ok info) ∈ tr) → Owes s info.toAccountEntry phase') :
    AccountsInv crypto seed (tr ++ [.called call]) (s.await call phase') where
  states := hI.states
  current := hI.current
  unloaded := hI.unloaded
  calls := hI.calls.set hok
  file := by
    intro object hobject
    refine (hI.file object hobject).frame rfl rfl ?_ ?_
    · intro c update hc _
      rcases OrdMap.get?_set_eq_some hc with ⟨-, rfl⟩ | ⟨-, hold⟩
      · cases hreads
      · exact hold
    · intro c update hc _
      have hne : c ≠ call := by
        rintro rfl
        cases hnew.symm.trans hc
      exact (OrdMap.get?_set_of_ne _ _ hne).trans hc
  returned := hI.returned_step (.of_eq rfl rfl fun _ => rfl) rfl (by simp)
  distinct := hI.distinct_step (by simp)
  owed := by
    refine OrdMap.Forall.set_of_ne (fun c phase hc hphase info hinfo => ?_) fun info hinfo => ?_
    · refine hI.owed c phase hphase info (hinfo.of_append fun hmem => hc ?_)
      cases List.mem_singleton.1 hmem
      rfl
    -- an account returned before the call is one returned so far
    · obtain ⟨c, hmem⟩ := hinfo.returned
      rcases List.mem_append.1 hmem with hold | hnew
      · exact howes info ⟨c, hold⟩
      · cases List.mem_singleton.1 hnew
  listings := hI.listings.snoc fun c infos heq => by cases heq

theorem AccountsInv.finish (hI : AccountsInv crypto seed tr s) {e : AccountsEvent}
    (huntouched : ∀ update, s.calls.get? call = some (.updating update) → update.touched = false)
    (hderived : e.derivedInfo? = none) (hcalled : ∀ c, e ≠ .called c)
    (hlist : ListsReturned tr e) :
    AccountsInv crypto seed (tr ++ [e]) (s.finish call) where
  states := hI.states
  current := hI.current
  unloaded := hI.unloaded
  calls := hI.calls.erase call
  file := by
    intro object hobject
    refine (hI.file object hobject).frame rfl rfl ?_ ?_
    · intro c update hc _
      exact (OrdMap.get?_erase_eq_some hc).2
    · intro c update hc htouched
      -- the call that ends has written nothing, so no write of it is forgotten
      have hne : c ≠ call := by
        rintro rfl
        rw [huntouched update hc] at htouched
        cases htouched
      exact (OrdMap.get?_erase_of_ne _ hne).trans hc
  returned := by
    refine hI.returned_step (.of_eq rfl rfl fun _ => rfl) rfl fun c info hmem => ?_
    cases List.mem_singleton.1 hmem
    cases hderived
  distinct := by
    refine hI.distinct_step fun c info hmem => ?_
    cases List.mem_singleton.1 hmem
    cases hderived
  owed := by
    refine (OrdMap.Forall.erase hI.owed call).imp fun howed info hinfo => ?_
    refine howed info (hinfo.of_append fun hmem => ?_)
    exact hcalled _ (List.mem_singleton.1 hmem).symm
  listings := hI.listings.snoc hlist

/-- A load under the condition installs the list that is in use, if one is. -/
theorem AccountsInv.loads (hI : AccountsInv crypto seed tr s) {op : AccountsOp}
    {accounts : List AccountEntry} (hcall : s.calls.get? call = some (.gotAccounts op accounts))
    (hguard : ∀ object, s.current = some object → (s.objects object).accounts = accounts) :
    AccountsInv crypto seed tr ((s.install accounts).await call (.ready op s.loads)) := by
  have hobject : ∀ object, object < s.loads →
      (s.install accounts).objects object = s.objects object := fun object hlt =>
    Function.update_of_ne (Nat.ne_of_lt hlt) _ _
  have hself : (s.install accounts).objects s.loads = .load accounts := Function.update_self _ _ _
  have hgrows : Grows s ((s.install accounts).await call (.ready op s.loads)) := by
    refine ⟨Nat.le_succ _, fun h => absurd h (Nat.succ_ne_zero _), fun object hlt => ?_⟩
    show _ <+: ((s.install accounts).objects object).accounts
    exact (hobject object hlt) ▸ List.prefix_rfl
  constructor
  · intro object
    show ((s.install accounts).objects object).nextIndex =
      nextIndexOf ((s.install accounts).objects object).accounts
    by_cases hn : object = s.loads
    · rw [hn, hself]
      rfl
    · rw [show (s.install accounts).objects object = s.objects object from
        Function.update_of_ne hn _ _]
      exact hI.states object
  · intro object hcurrent
    cases hcurrent
    exact Nat.lt_succ_self _
  · intro hcurrent
    cases hcurrent
  · exact OrdMap.Forall.set (hI.calls.imp fun hok => hok.mono hgrows) (Nat.lt_succ_self s.loads)
  · intro object hcurrent
    cases hcurrent
    -- calls in flight hold older objects
    have hother : ∀ c update, ((s.install accounts).await call (.ready op s.loads)).calls.get? c =
        some (.updating update) → s.calls.get? c = some (.updating update) := by
      intro c update hc
      rcases OrdMap.get?_set_eq_some hc with ⟨-, hphase⟩ | ⟨-, hold⟩
      · cases hphase
      · exact hold
    have hkept : ∀ c update, s.calls.get? c = some (.updating update) →
        ((s.install accounts).await call (.ready op s.loads)).calls.get? c =
          some (.updating update) := by
      intro c update hc
      have hne : c ≠ call := by
        rintro rfl
        cases hcall.symm.trans hc
      exact (OrdMap.get?_set_of_ne _ _ hne).trans hc
    have hfresh : s.file = some accounts →
        FileOk ((s.install accounts).await call (.ready op s.loads)) s.loads := by
      intro hfile
      refine .inl ⟨?_, fun c update hc _ hobj => ?_⟩
      · show s.file = some ((s.install accounts).objects s.loads).accounts
        rw [hself]
        exact hfile
      · have hlt := (hI.calls c _ (hother c update hc)).1
        omega
    cases hcur : s.current with
    | none => exact hfresh (hI.calls call _ hcall (hI.unloaded hcur))
    | some object =>
      rcases hI.file object hcur with ⟨hfile, -⟩ | ⟨c, update, hc, htouched, hwhere⟩
      · rw [hguard object hcur] at hfile
        exact hfresh hfile
      · exact .inr ⟨c, update, hkept c update hc, htouched, hwhere⟩
  · intro c info hmem
    obtain ⟨hinfo, object, hcur, hentry⟩ := hI.returned c info hmem
    refine ⟨hinfo, s.loads, rfl, ?_⟩
    show _ ∈ ((s.install accounts).objects s.loads).accounts
    rw [hself]
    rw [hguard object hcur] at hentry
    exact hentry
  · exact hI.distinct
  · refine OrdMap.Forall.set (fun c phase hc info hinfo => ?_) fun info hinfo => ?_
    · exact (hI.owed c phase hc info hinfo).mono hgrows (hI.calls c phase hc)
    · cases op with
      | deriveAccount chain => trivial
      | listAccounts => exact (hI.owed call _ hcall info hinfo).elim
  · exact hI.listings

theorem AccountsInv.touches (hI : AccountsInv crypto seed tr s) {update : AccountsUpdate}
    {file : Option (List AccountEntry)} {landed : Bool}
    (hcall : s.calls.get? call = some (.updating update))
    (hfile : file = none ∧ landed = false ∨ file = some update.newAccounts ∧ landed = true) :
    AccountsInv crypto seed tr
      { s.await call (.updating { update with touched := true, landed := landed }) with
        file := file } := by
  obtain ⟨hobject, hinfo, -, hbase⟩ := hI.calls call _ hcall
  have hgrows : Grows s
      { s.await call (.updating { update with touched := true, landed := landed }) with
        file := file } := by
    refine ⟨Nat.le_refl _, fun hloads => ?_, fun object _ => List.prefix_rfl⟩
    have hzero : s.loads = 0 := hloads
    omega
  constructor
  · exact hI.states
  · exact hI.current
  · exact hI.unloaded
  · exact OrdMap.Forall.set (hI.calls.imp fun hok => hok.mono hgrows)
      ⟨hobject, hinfo, fun _ => rfl, hbase⟩
  · intro object _
    exact .inr ⟨call, _, OrdMap.get?_set_self _ _ _, rfl, hfile⟩
  · exact hI.returned
  · exact hI.distinct
  · exact OrdMap.Forall.set (fun c phase hc info hinfo =>
      (hI.owed c phase hc info hinfo).mono hgrows (hI.calls c phase hc)) fun _ _ => trivial
  · exact hI.listings

/-- A call under the condition writes memory and returns its account. -/
theorem AccountsInv.stores (hI : AccountsInv crypto seed tr s) {update : AccountsUpdate}
    (hcall : s.calls.get? call = some (.updating update)) (hlanded : update.landed = true)
    (hcurrent : s.current = some update.object)
    (hnew : update.newAccounts =
      (s.objects update.object).accounts ++ [update.info.toAccountEntry]) :
    AccountsInv crypto seed (tr ++ [.derived call (.ok update.info)])
      ((s.store update).finish call) := by
  obtain ⟨hobject, hinfo, -, base, hbase, hindex, -⟩ := hI.calls call _ hcall
  -- the call has extended the list in memory
  obtain rfl : (s.objects update.object).accounts = base :=
    List.append_cancel_right (hnew.symm.trans hbase)
  have hself : ((s.store update).finish call).objects update.object =
      ⟨update.info.index + 1, update.newAccounts⟩ := Function.update_self _ _ _
  have hother : ∀ object, object ≠ update.object →
      ((s.store update).finish call).objects object = s.objects object :=
    fun object hne => Function.update_of_ne hne _ _
  have hgrows : Grows s ((s.store update).finish call) := by
    refine ⟨Nat.le_refl _, fun _ => rfl, fun object _ => ?_⟩
    by_cases hobj : object = update.object
    · rw [hobj, hself, hnew]
      exact List.prefix_append _ _
    · exact (hother object hobj) ▸ List.prefix_rfl
  constructor
  · intro object
    by_cases hobj : object = update.object
    · rw [hobj, hself]
      show update.info.index + 1 = nextIndexOf update.newAccounts
      rw [hnew, nextIndexOf_snoc hindex]
    · rw [hother object hobj]
      exact hI.states object
  · exact hI.current
  · exact hI.unloaded
  · exact (hI.calls.imp fun hok => hok.mono hgrows).erase call
  · intro object hobj
    cases hcurrent.symm.trans hobj
    rcases hI.file update.object hcurrent with ⟨-, hfresh⟩ | ⟨c, other, hc, htouched, hwhere⟩
    · exact absurd hnew (hfresh call update hcall hlanded rfl)
    · by_cases hcc : c = call
      · subst hcc
        cases hcall.symm.trans hc
        rcases hwhere with ⟨-, hnot⟩ | ⟨hfile, -⟩
        · rw [hlanded] at hnot
          cases hnot
        · refine .inl ⟨?_, fun d late hd _ hsame hlate => ?_⟩
          · rw [hself]
            exact hfile
          · -- a call that has not returned has extended a shorter list
            obtain ⟨-, -, -, base', hbase', -, hlength⟩ :=
              hI.calls d _ (OrdMap.get?_erase_eq_some hd).2
            rw [hself] at hlate
            have hlen := congrArg List.length (hbase'.symm.trans hlate)
            rw [hnew] at hlen
            rw [hsame] at hlength
            simp only [List.length_append, List.length_singleton] at hlen
            omega
      · exact .inr ⟨c, other, (OrdMap.get?_erase_of_ne _ hcc).trans hc, htouched, hwhere⟩
  · intro c info hmem
    rcases List.mem_append.1 hmem with hold | hlast
    · obtain ⟨hinfo', object, hobj, hentry⟩ := hI.returned c info hold
      exact ⟨hinfo', object, hobj,
        (hgrows.accounts object (hI.current object hobj)).subset hentry⟩
    · cases List.mem_singleton.1 hlast
      refine ⟨hinfo, update.object, hcurrent, ?_⟩
      rw [hself]
      show _ ∈ update.newAccounts
      rw [hnew]
      exact List.mem_append_right _ List.mem_cons_self
  · rw [derivedIndexes_append]
    refine List.nodup_append.2 ⟨hI.distinct, List.nodup_singleton _, ?_⟩
    intro index hold index' hlast heq
    obtain ⟨c, info, hmem, rfl⟩ := exists_of_mem_derivedIndexes hold
    obtain ⟨-, object, hobj, hentry⟩ := hI.returned c info hmem
    cases hcurrent.symm.trans hobj
    have hlt := index_lt_nextIndexOf hentry
    have hindex' : index' = update.info.index := List.mem_singleton.1 hlast
    omega
  · intro c phase hc info howed
    have hc' := (OrdMap.get?_erase_eq_some hc).2
    refine (hI.owed c phase hc' info (howed.of_append ?_)).mono hgrows (hI.calls c phase hc')
    simp
  · exact hI.listings.snoc fun c infos heq => by cases heq

/-- **Every step under the condition keeps the invariant.** -/
theorem AccountsInv.step (hI : AccountsInv crypto seed tr s) (hguard : derivesAlone s a = true)
    (h : AccountsStep crypto seed s a s' es) : AccountsInv crypto seed (tr ++ es) s' := by
  cases h with
  | @begins _ call op hnew =>
    refine hI.begins hnew ?_ rfl fun info hreturned => ?_
    · cases hcur : s.current with
      | none => trivial
      | some object => exact hI.current object hcur
    · obtain ⟨c, hmem⟩ := hreturned
      obtain ⟨-, object, hcur, hentry⟩ := hI.returned c info hmem
      rw [hcur]
      cases op with
      | deriveAccount chain => trivial
      | listAccounts => exact hentry
  | beginsSigning hnew => exact hI.begins hnew trivial rfl fun _ _ => trivial
  | @ends _ call phase e hcall hreads hquiet =>
    refine hI.finish (fun update hc => ?_) ?_ ?_ ?_
    · cases hcall.symm.trans hc
      cases hreads
    · unfold AccountsEvent.quiet at hquiet
      split at hquiet <;> first | rfl | cases hquiet
    · rintro c rfl
      cases hquiet
    · rintro c infos rfl
      cases hquiet
  | @reuses _ call op object hcall =>
    rw [List.append_nil]
    have hobject : object < s.loads := hI.calls call _ hcall
    refine hI.await hcall rfl hobject nofun fun entry howes => ?_
    cases op with
    | deriveAccount chain => trivial
    | listAccounts => exact howes
  | @lists _ call op hcall =>
    rw [List.append_nil]
    refine hI.await hcall rfl trivial nofun fun entry howes => ?_
    cases op with
    | deriveAccount chain => trivial
    | listAccounts => exact howes
  | @gets _ call op hcall =>
    rw [List.append_nil]
    refine hI.await hcall rfl trivial nofun fun entry howes => ?_
    cases op with
    | deriveAccount chain => trivial
    | listAccounts => exact howes
  | @reads _ call op accounts hcall hfile =>
    rw [List.append_nil]
    refine hI.await hcall rfl (fun _ => hfile) nofun fun entry howes => ?_
    cases op with
    | deriveAccount chain => trivial
    | listAccounts => exact howes
  | loads hcall =>
    rw [List.append_nil]
    refine hI.loads hcall fun object hcur => ?_
    simp only [derivesAlone, hcall, hcur, Option.all_some, decide_eq_true_eq] at hguard
    exact hguard
  | @returnsList _ call object hcall =>
    refine hI.finish (fun update hc => ?_) ?_ (by simp) ?_
    · cases hcall.symm.trans hc
    · rfl
    · intro c infos heq info hinfo
      obtain ⟨rfl, hlist⟩ := AccountsEvent.listed.inj heq
      obtain ⟨c', hmem⟩ := hinfo.returned
      have hentry : info.toAccountEntry ∈ (s.objects object).accounts :=
        hI.owed _ _ hcall info hinfo
      exact mem_of_mapM_eq_ok hlist hentry (hI.returned c' info hmem).1
  | @derives _ call chain object info hcall hinfo =>
    rw [List.append_nil]
    obtain ⟨hindex, -, hentry⟩ := deriveInfo_eq_ok hinfo
    refine hI.await hcall rfl ?_ ?_ fun _ _ => trivial
    · refine ⟨hI.calls _ _ hcall, hentry, nofun, _, rfl, ?_, Nat.le_refl _⟩
      rw [hindex, hI.states object]
    · intro update heq
      cases heq
      rfl
  | tears hcall hlanded =>
    rw [List.append_nil]
    exact hI.touches hcall (.inl ⟨rfl, hlanded⟩)
  | lands hcall =>
    rw [List.append_nil]
    exact hI.touches hcall (.inr ⟨rfl, rfl⟩)
  | stores hcall hlanded =>
    simp only [derivesAlone, hcall, Bool.and_eq_true, decide_eq_true_eq] at hguard
    exact hI.stores hcall hlanded hguard.1 hguard.2
  | refused hcall =>
    simp only [derivesAlone, hcall, Bool.not_eq_true'] at hguard
    refine hI.finish (fun update hc => ?_) rfl (by simp) fun c infos heq => by cases heq
    cases hcall.symm.trans hc
    exact hguard

end Invariant

/-- **No derived account is lost.** In every run of calls on a wallet under the condition, the
accounts that were returned have distinct indexes and are in the state in memory; a list has
all accounts that were returned before it was asked for; and when no call is in flight, the
wallet's file holds the list in memory. -/
theorem derived_accounts_kept {walletId : String} {crypto : KeyDerivation} {seed : Bytes}
    {accounts : List AccountEntry} {loaded : Bool} {tr : List AccountsEvent} {s : AccountsState}
    (h : Run (accountsMachine walletId crypto seed accounts loaded)
      (fun s a => derivesAlone s a = true) tr s) :
    (derivedIndexes tr).Nodup ∧
    (∀ call info, .derived call (.ok info) ∈ tr →
      ∃ object, s.current = some object ∧ info.toAccountEntry ∈ (s.objects object).accounts) ∧
    EachAfter ListsReturned tr ∧
    (s.calls.isEmpty = true → ∀ object, s.current = some object →
      s.file = some (s.objects object).accounts) := by
  have hI : AccountsInv crypto seed tr s :=
    h.invariant (I := AccountsInv crypto seed) (.initial accounts loaded)
      fun _ hI hguard hs => hI.step hguard (accountsStep_sound hs)
  refine ⟨hI.distinct, fun call info hmem => (hI.returned call info hmem).2, hI.listings, ?_⟩
  intro hidle object hobject
  rcases hI.file object hobject with ⟨hfile, -⟩ | ⟨call, update, hcall, -⟩
  · exact hfile
  · rw [OrdMap.get?_of_isEmpty hidle] at hcall
    cases hcall

/-! ### A recorded wallet -/

namespace RecordedWallet

/-- The machine of a backend that has loaded the wallet, without accounts. -/
abbrev machine : Machine AccountsState AccountsAction AccountsEvent :=
  accountsMachine "id_wallet" crypto seed [] true

/-- A `deriveAccount` call up to the state from `ensureWalletState`. -/
def begins (call : Nat) : List AccountsAction :=
  [.call call (.deriveAccount .ed25519), .seedRead call (.ok ())]

/-- A `deriveAccount` call from there to its end. -/
def proceeds (call : Nat) : List AccountsAction :=
  [.resume call, .land call, .updated call (.ok ())]

/-- Two accounts are derived in turn, and listed. -/
def inTurn : List AccountsAction :=
  begins 0 ++ proceeds 0 ++ begins 1 ++ proceeds 1 ++
    [.call 2 .listAccounts, .seedRead 2 (.ok ()), .resume 2]

def inTurnEvents : List AccountsEvent :=
  [.called 0, .derived 0 (.ok info₀), .called 1, .derived 1 (.ok info₁), .called 2,
    .listed 2 (.ok [info₀, info₁])]

/-- The second call reads the state before the first one writes it. -/
def overlapping : List AccountsAction :=
  begins 0 ++ begins 1 ++ [.resume 0, .resume 1, .land 0, .updated 0 (.ok ()), .land 1,
    .updated 1 (.ok ())]

end RecordedWallet

open RecordedWallet in
/-- Two accounts derived in turn are listed. -/
theorem derived_accounts_kept_inTurn :
    (derivedIndexes inTurnEvents).Nodup ∧ EachAfter ListsReturned inTurnEvents := by
  have hrun : ∃ s, Run machine (fun s a => derivesAlone s a = true) inTurnEvents s :=
    exists_run_of_execFrom inTurn rfl
  obtain ⟨s, hrun⟩ := hrun
  have hkept := derived_accounts_kept hrun
  exact ⟨hkept.1, hkept.2.2.1⟩

open RecordedWallet in
/-- Two overlapping calls return the same index. -/
theorem overlapping_derivations :
    ¬ ∀ tr s, Run machine (fun _ _ => True) tr s → (derivedIndexes tr).Nodup := by
  intro hclaim
  have hrun : ∃ s, Run machine (fun _ _ => true = true)
      [.called 0, .called 1, .derived 0 (.ok info₀), .derived 1 (.ok info₀)] s :=
    exists_run_of_execFrom overlapping rfl
  obtain ⟨s, hrun⟩ := hrun
  have hnodup := hclaim _ s (hrun.mono fun _ _ _ => trivial)
  have htwice : ¬ ([0, 0] : List Nat).Nodup := by decide
  exact htwice hnodup

end Signet
