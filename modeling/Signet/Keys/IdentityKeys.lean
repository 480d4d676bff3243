import Signet.Keys.CompatSecrets
import Signet.Seals.Stamper

/-!
# One key per identity

`getOrCreateDbKey` and `getOrCreateXmtpIdentityKey` of the compat key manager: a get of the
secret store, and a set of a generated key where the get found none. The calls of one kind
for one identity run over one key of the store, whose segments are those of `secretStep`.

`one_key_per_identity`: on a store that holds nothing for the identity, in every run in which
a call that found no key starts its write only while the store still holds none and no other
write is in flight, all calls return one key, and the store holds it from then on. Two calls
that both find nothing return two keys (`overlapping_calls_return_two`).
-/

namespace Signet

open Lib

/-! ### The model -/

inductive KeyKind where
  | db
  | xmtpIdentity
  deriving DecidableEq

/-- What the calls return: the key, or `0x` and the key in hex. -/
inductive IdentityKey where
  | bytes (key : Bytes)
  | hex (key : String)
  deriving DecidableEq

namespace KeyKind

def storeKey (identityId : String) : KeyKind → String
  | db => "db-key:" ++ identityId
  | xmtpIdentity => "xmtp-identity-key:" ++ identityId

/-- The returned form of a key. -/
def returned (key : Bytes) : KeyKind → IdentityKey
  | db => .bytes key
  | xmtpIdentity => .hex ("0x" ++ bytesToHex key)

end KeyKind

/-- A call that awaits the store, or is about to resume with its answer. -/
inductive IdentityKeyCall where
  | getting (get : Nat)
  | got (result : Result Bytes)
  | setting (set : Nat) (generated : Bytes)
  | stored (generated : Bytes) (result : Result Unit)

/-- The answer of the store to a get. -/
def SecretEvent.getResult? (get : Nat) : SecretEvent → Option (Result Bytes)
  | .getReturned call _ result => if call = get then some result else none
  | _ => none

/-- The answer of the store to a set. -/
def SecretEvent.setResult? (set : Nat) : SecretEvent → Option (Result Unit)
  | .writeReturned call _ result => if call = set then some result else none
  | _ => none

/-- The store's answers reach the calls that await them. -/
def IdentityKeyCall.deliver (es : List SecretEvent) : IdentityKeyCall → IdentityKeyCall
  | .getting get =>
    match es.findSome? (·.getResult? get) with
    | some result => .got result
    | none => .getting get
  | .setting set generated =>
    match es.findSome? (·.setResult? set) with
    | some result => .stored generated result
    | none => .setting set generated
  | phase => phase

/-- The calls of one kind for one identity. -/
structure IdentityKeyState where
  store : SecretState
  calls : OrdMap Nat IdentityKeyCall

inductive IdentityKeyAction where
  | getOrCreate (call : Nat)
  /-- A segment of a get or a set of the store. -/
  | store (a : SecretAction)
  /-- The call goes on with the answer; `generated` is drawn if it found no key. -/
  | resume (call : Nat) (generated : Bytes)

inductive IdentityKeyEvent where
  | returned (call : Nat) (result : Result IdentityKey)
  deriving DecidableEq

def SecretAction.isCall : SecretAction → Bool
  | .get | .set _ | .delete _ => true
  | _ => false

section Step

variable (kind : KeyKind) (identityId : String)

def identityKeyStep (s : IdentityKeyState) :
    IdentityKeyAction → Option (IdentityKeyState × List IdentityKeyEvent)
  | .getOrCreate call =>
    if s.calls.has call then none
    else
      (secretStep (kind.storeKey identityId) s.store .get).map fun r =>
        (⟨r.1, s.calls.set call (.getting s.store.now)⟩, [])
  | .store a =>
    if a.isCall then none
    else
      (secretStep (kind.storeKey identityId) s.store a).map fun r =>
        (⟨r.1, s.calls.mapValues (·.deliver r.2)⟩, [])
  | .resume call generated =>
    match s.calls.get? call with
    | some (.got (.ok key)) =>
      some (⟨s.store, s.calls.erase call⟩, [.returned call (.ok (kind.returned key))])
    | some (.got (.error (.notFoundError _ _))) =>
      (secretStep (kind.storeKey identityId) s.store (.set generated)).map fun r =>
        (⟨r.1, s.calls.set call (.setting s.store.now generated)⟩, [])
    | some (.got (.error e)) => some (⟨s.store, s.calls.erase call⟩, [.returned call (.error e)])
    | some (.stored key (.ok ())) =>
      some (⟨s.store, s.calls.erase call⟩, [.returned call (.ok (kind.returned key))])
    | some (.stored _ (.error e)) =>
      some (⟨s.store, s.calls.erase call⟩, [.returned call (.error e)])
    | _ => none

/-- The calls over a store that holds nothing for the identity. -/
def identityKeyMachine : Machine IdentityKeyState IdentityKeyAction IdentityKeyEvent where
  init := ⟨⟨none, false, none, 0, .empty⟩, .empty⟩
  step := identityKeyStep kind identityId

end Step

/-- **All identities**: distinct kinds and identities have distinct keys of the store. -/
def identityKeys :
    Machine (KeyKind × String → IdentityKeyState) ((KeyKind × String) × IdentityKeyAction)
      ((KeyKind × String) × IdentityKeyEvent) :=
  .family fun k => identityKeyMachine k.1 k.2

def IdentityKeyState.Holds (s : IdentityKeyState) (kind : KeyKind) (key : IdentityKey) : Prop :=
  s.store.torn = false ∧ ∃ value, s.store.vault = some value ∧ key = kind.returned value

/-- The call writes a key. -/
def SecretCall.isSetting : SecretCall → Bool
  | .setting _ _ => true
  | _ => false

/-- **The condition.** A call that found no key starts its write only while the store still
holds none and no other write is in flight. -/
def writesAlone (s : IdentityKeyState) : IdentityKeyAction → Bool
  | .resume call _ =>
    match s.calls.get? call with
    | some (.got (.error (.notFoundError _ _))) =>
      s.store.vault.isNone && !s.store.calls.values.any (·.isSetting)
    | _ => true
  | _ => true

/-! ### The store under the calls -/

/-- A segment in flight of the store. -/
def StoreCallOk (vault : Option Bytes) : SecretCall → Prop
  | .reading | .missed => True
  | .found key => vault = some key
  | .setting key landed => vault = if landed then some key else none
  | _ => False

/-- **The store with at most one write.** -/
structure KeyStoreInv (s : SecretState) : Prop where
  called : s.calls.Forall fun call _ => call < s.now
  legacy : s.legacy = none
  calls : s.calls.Forall fun _ phase => StoreCallOk s.vault phase
  single : ∀ w w' key landed key' landed', s.calls.get? w = some (.setting key landed) →
    s.calls.get? w' = some (.setting key' landed') → w = w'
  readable : ∀ key, s.vault = some key → s.torn = false

section Store

variable {key : String} {s s' : SecretState} {a : SecretAction} {es : List SecretEvent}

theorem KeyStoreInv.initial : KeyStoreInv ⟨none, false, none, 0, .empty⟩ where
  called := OrdMap.Forall.empty
  legacy := rfl
  calls := OrdMap.Forall.empty
  single := nofun
  readable := nofun

/-- A call goes on without writing. -/
theorem KeyStoreInv.await (hK : KeyStoreInv s) {call : Nat} {phase : SecretCall}
    (hcall : call ≤ s.now) (hphase : StoreCallOk s.vault phase) (hset : phase.isSetting = false) :
    KeyStoreInv (s.await call phase) where
  called := by
    refine OrdMap.Forall.set (hK.called.imp fun h => Nat.lt_succ_of_lt h) ?_
    exact Nat.lt_succ_of_le hcall
  legacy := hK.legacy
  calls := hK.calls.set hphase
  single := by
    intro w w' k l k' l' hw hw'
    rcases OrdMap.get?_set_eq_some hw with ⟨-, rfl⟩ | ⟨-, hold⟩
    · cases hset
    rcases OrdMap.get?_set_eq_some hw' with ⟨-, rfl⟩ | ⟨-, hold'⟩
    · cases hset
    · exact hK.single w w' k l k' l' hold hold'
  readable := hK.readable

theorem KeyStoreInv.finish (hK : KeyStoreInv s) (call : Nat) : KeyStoreInv (s.finish call) where
  called := (hK.called.imp fun h => Nat.lt_succ_of_lt h).erase call
  legacy := hK.legacy
  calls := hK.calls.erase call
  single := fun w w' k l k' l' hw hw' =>
    hK.single w w' k l k' l' (OrdMap.get?_erase_eq_some hw).2 (OrdMap.get?_erase_eq_some hw').2
  readable := hK.readable

/-- The only write in flight reaches the file. -/
theorem KeyStoreInv.lands (hK : KeyStoreInv s) {call : Nat} {value : Bytes}
    (hcall : s.calls.get? call = some (.setting value false)) :
    KeyStoreInv ((s.write value).await call (.setting value true)) where
  called := by
    refine OrdMap.Forall.set (hK.called.imp fun h => Nat.lt_succ_of_lt h) ?_
    exact Nat.lt_succ_of_lt (hK.called call _ hcall)
  legacy := hK.legacy
  calls := by
    have hnone : s.vault = none := hK.calls call _ hcall
    refine OrdMap.Forall.set_of_ne (fun w phase hw hphase => ?_) rfl
    have hok := hK.calls w phase hphase
    cases phase with
    | reading | missed => trivial
    -- nothing was there to be found before the write
    | found key =>
      rw [StoreCallOk, hnone] at hok
      cases hok
    -- there is no other write, by `single`
    | setting key landed => exact absurd (hK.single w call _ _ _ _ hphase hcall) hw
    | migrating | deleting | rejecting => exact hok
  single := by
    have hold : ∀ {w key landed}, ((s.write value).await call (.setting value true)).calls.get? w =
        some (.setting key landed) → ∃ key' landed',
          s.calls.get? w = some (.setting key' landed') := by
      intro w key landed hw
      rcases OrdMap.get?_set_eq_some hw with ⟨rfl, -⟩ | ⟨-, hw⟩
      · exact ⟨value, false, hcall⟩
      · exact ⟨key, landed, hw⟩
    intro w w' k l k' l' hw hw'
    obtain ⟨_, _, h₁⟩ := hold hw
    obtain ⟨_, _, h₂⟩ := hold hw'
    exact hK.single w w' _ _ _ _ h₁ h₂
  readable := fun _ _ => rfl

/-- A call starts to write on a store that holds nothing and that no call writes. -/
theorem KeyStoreInv.startsSetting (hK : KeyStoreInv s) (hvault : s.vault = none)
    (hnone : s.calls.values.any (·.isSetting) = false) (value : Bytes) :
    KeyStoreInv (s.await s.now (.setting value false)) where
  called := by
    refine OrdMap.Forall.set (hK.called.imp fun h => Nat.lt_succ_of_lt h) ?_
    exact Nat.lt_succ_self _
  legacy := hK.legacy
  calls := hK.calls.set hvault
  single := by
    -- the guard: no other write is in flight
    have honly : ∀ {w key landed}, (s.await s.now (.setting value false)).calls.get? w =
        some (.setting key landed) → w = s.now := by
      intro w key landed hw
      rcases OrdMap.get?_set_eq_some hw with ⟨rfl, -⟩ | ⟨-, hw⟩
      · rfl
      · exact absurd rfl (List.any_eq_false.1 hnone _ (OrdMap.mem_values_iff.2 ⟨w, hw⟩))
    intro w w' k l k' l' hw hw'
    rw [honly hw, honly hw']
  readable := hK.readable

theorem KeyStoreInv.removeLegacy_eq (hK : KeyStoreInv s) (removed : Bool) :
    s.removeLegacy removed = s := by
  have hlegacy := hK.legacy
  cases s
  cases removed with
  | true =>
    cases hlegacy
    rfl
  | false => rfl

theorem KeyStoreInv.step (hK : KeyStoreInv s) (ha : a.isCall = false)
    (h : SecretStep key s a s' es) : KeyStoreInv s' := by
  cases h with
  | getFound | getMissed | set | unlinks | throws | notThere => cases ha
  | @reads call value hcall hvault =>
    exact hK.await (Nat.le_of_lt (hK.called call _ hcall)) hvault rfl
  | fails | returns | notFound | refused => exact hK.finish _
  -- there is no legacy entry to be migrated
  | migrates hcall hlegacy =>
    rw [hK.legacy] at hlegacy
    cases hlegacy
  -- only the write in flight can leave half a file, and nothing was stored before it
  | @tears call phase hcall hphase =>
    have hok := hK.calls call phase hcall
    obtain ⟨value, rfl | rfl⟩ := hphase
    · exact hok.elim
    · have hnone : s.vault = none := hok
      exact ⟨hK.called.imp fun h => Nat.lt_succ_of_lt h, hK.legacy, hK.calls, hK.single,
        fun key hkey => by cases hnone.symm.trans hkey⟩
  -- neither migrations nor deletions are called
  | landsLegacy hcall => exact (hK.calls _ _ hcall).elim
  | landsSet hcall => exact hK.lands hcall
  | migrated hcall => exact (hK.calls _ _ hcall).elim
  | wrote hcall =>
    rw [hK.removeLegacy_eq]
    exact hK.finish _
  | deleted hcall => exact (hK.calls _ _ hcall).elim
  | deletedLegacy hcall => exact (hK.calls _ _ hcall).elim

theorem KeyStoreInv.vault_step (hK : KeyStoreInv s) (ha : a.isCall = false)
    (h : SecretStep key s a s' es) {value : Bytes} (hvault : s.vault = some value) :
    s'.vault = some value := by
  cases h with
  | getFound | getMissed | set | unlinks | throws | notThere => cases ha
  | reads | fails | returns | notFound | refused | migrates | tears | migrated | wrote =>
    exact hvault
  | landsLegacy hcall => exact (hK.calls _ _ hcall).elim
  -- a write begins only while nothing is stored
  | landsSet hcall =>
    have hnone : s.vault = none := hK.calls _ _ hcall
    rw [hnone] at hvault
    cases hvault
  | deleted hcall => exact (hK.calls _ _ hcall).elim
  | deletedLegacy hcall => exact (hK.calls _ _ hcall).elim

theorem KeyStoreInv.vault_of_get (hK : KeyStoreInv s) (h : SecretStep key s a s' es)
    {get ended : Nat} {value : Bytes} (hmem : .getReturned get ended (.ok value) ∈ es) :
    s.vault = some value := by
  cases h with
  | getFound | getMissed | set | unlinks | throws | notThere | reads | migrates | tears
  | landsLegacy | landsSet | refused | wrote | deleted | deletedLegacy | fails | notFound =>
    simp at hmem
  | returns hcall =>
    cases List.mem_singleton.1 hmem
    exact hK.calls _ _ hcall
  | migrated hcall => exact (hK.calls _ _ hcall).elim

theorem KeyStoreInv.landed_of_set (hK : KeyStoreInv s) (h : SecretStep key s a s' es)
    {set ended : Nat} (hmem : .writeReturned set ended (.ok ()) ∈ es) :
    ∃ value, s.calls.get? set = some (.setting value true) ∧ s.vault = some value := by
  cases h with
  | getFound | getMissed | set | unlinks | throws | notThere | reads | migrates | tears
  | landsLegacy | landsSet | refused | fails | notFound | returns | migrated => simp at hmem
  | @wrote call value removed hcall =>
    cases List.mem_singleton.1 hmem
    exact ⟨value, hcall, hK.calls _ _ hcall⟩
  | deleted hcall => exact (hK.calls _ _ hcall).elim
  | deletedLegacy hcall => exact (hK.calls _ _ hcall).elim

theorem setting_step (ha : a.isCall = false)
    (h : SecretStep key s a s' es) {set : Nat} {value : Bytes} {landed : Bool}
    (hset : s.calls.get? set = some (.setting value landed)) :
    (∃ landed', s'.calls.get? set = some (.setting value landed')) ∨
      ∃ ended result, .writeReturned set ended result ∈ es := by
  have hshape := h.shape
  -- the step is about this write, or about another call
  by_cases hcall : set = a.caller s
  · subst hcall
    cases h with
    | getFound | getMissed | set | unlinks | throws | notThere => cases ha
    | reads hcall | returns hcall | notFound hcall | migrates hcall | landsLegacy hcall
    | migrated hcall | deleted hcall | deletedLegacy hcall =>
      cases hcall.symm.trans hset
    | fails hcall hget =>
      cases hcall.symm.trans hset
      -- a write is no read, so that it does not fail as one
      cases hget
    | tears => exact .inl ⟨landed, hset⟩
    | landsSet hcall =>
      cases hcall.symm.trans hset
      exact .inl ⟨true, OrdMap.get?_set_self _ _ _⟩
    | refused | wrote => exact .inr ⟨_, _, List.mem_cons_self⟩
  · rw [← hshape.others set hcall] at hset
    exact .inl ⟨landed, hset⟩

end Store

/-! ### The calls -/

/-- What a call in flight has got from the store. -/
def IdentityCallOk (store : SecretState) : IdentityKeyCall → Prop
  | .got (.ok key) => store.vault = some key
  | .setting set generated => ∃ landed, store.calls.get? set = some (.setting generated landed)
  | .stored generated (.ok ()) => store.vault = some generated
  | _ => True

structure IdentityKeyInv (kind : KeyKind) (tr : List IdentityKeyEvent) (s : IdentityKeyState) :
    Prop where
  store : KeyStoreInv s.store
  calls : s.calls.Forall fun _ phase => IdentityCallOk s.store phase
  returned : ∀ call key, .returned call (.ok key) ∈ tr →
    ∃ value, s.store.vault = some value ∧ key = kind.returned value

section Calls

variable {kind : KeyKind} {identityId : String} {s s' : IdentityKeyState}
  {a : IdentityKeyAction} {tr es : List IdentityKeyEvent}

theorem getReturned_of_find {events : List SecretEvent} {get : Nat} {result : Result Bytes}
    (h : events.findSome? (·.getResult? get) = some result) :
    ∃ ended, .getReturned get ended result ∈ events := by
  obtain ⟨e, he, hres⟩ := List.exists_of_findSome?_eq_some h
  unfold SecretEvent.getResult? at hres
  split at hres
  · split at hres
    · next hcall =>
      cases hres
      subst hcall
      exact ⟨_, he⟩
    · cases hres
  · cases hres

theorem writeReturned_of_find {events : List SecretEvent} {set : Nat} {result : Result Unit}
    (h : events.findSome? (·.setResult? set) = some result) :
    ∃ ended, .writeReturned set ended result ∈ events := by
  obtain ⟨e, he, hres⟩ := List.exists_of_findSome?_eq_some h
  unfold SecretEvent.setResult? at hres
  split at hres
  · split at hres
    · next hcall =>
      cases hres
      subst hcall
      exact ⟨_, he⟩
    · cases hres
  · cases hres

/-- A segment of the store and its answers keep what a call has got. -/
theorem IdentityCallOk.deliver {key : String} {store store' : SecretState} {b : SecretAction}
    {events : List SecretEvent} {phase : IdentityKeyCall} (hK : KeyStoreInv store)
    (hb : b.isCall = false) (h : SecretStep key store b store' events)
    (hok : IdentityCallOk store phase) : IdentityCallOk store' (phase.deliver events) := by
  cases phase with
  | getting get =>
    -- the read is still going on, or its result is delivered
    cases hfind : events.findSome? (·.getResult? get) with
    | none =>
      rw [IdentityKeyCall.deliver, hfind]
      trivial
    | some result =>
      rw [IdentityKeyCall.deliver, hfind]
      cases result with
      | error err => trivial
      | ok value =>
        obtain ⟨ended, hmem⟩ := getReturned_of_find hfind
        exact hK.vault_step hb h (hK.vault_of_get h hmem)
  | got result =>
    cases result with
    | error err => trivial
    | ok value => exact hK.vault_step hb h hok
  | setting set generated =>
    obtain ⟨landed, hset⟩ := hok
    cases hfind : events.findSome? (·.setResult? set) with
    | none =>
      rw [IdentityKeyCall.deliver, hfind]
      -- a write that has not returned is still in flight
      rcases setting_step hb h hset with hset' | ⟨ended, result, hmem⟩
      · exact hset'
      · have hres := List.findSome?_eq_none_iff.1 hfind _ hmem
        rw [SecretEvent.setResult?, if_pos rfl] at hres
        cases hres
    | some result =>
      rw [IdentityKeyCall.deliver, hfind]
      cases result with
      | error err => trivial
      | ok u =>
        obtain ⟨ended, hmem⟩ := writeReturned_of_find hfind
        obtain ⟨value, hvalue, hvault⟩ := hK.landed_of_set h hmem
        cases hset.symm.trans hvalue
        exact hK.vault_step hb h hvault
  | stored generated result =>
    cases result with
    | error err => trivial
    | ok u => exact hK.vault_step hb h hok

theorem IdentityCallOk.await {store : SecretState} {phase : SecretCall} {b : IdentityKeyCall}
    (hK : KeyStoreInv store) (hok : IdentityCallOk store b) :
    IdentityCallOk (store.await store.now phase) b := by
  cases b with
  | getting get => trivial
  | got result =>
    cases result with
    | error err => trivial
    | ok value => exact hok
  | setting set generated =>
    obtain ⟨landed, hset⟩ := hok
    refine ⟨landed, ?_⟩
    -- the new call has a number of its own
    have hne : set ≠ store.now := Nat.ne_of_lt (hK.called set _ hset)
    exact (OrdMap.get?_set_of_ne _ _ hne).trans hset
  | stored generated result =>
    cases result with
    | error err => trivial
    | ok u => exact hok

theorem IdentityKeyInv.initial :
    IdentityKeyInv kind [] ⟨⟨none, false, none, 0, .empty⟩, .empty⟩ where
  store := .initial
  calls := OrdMap.Forall.empty
  returned := nofun

theorem IdentityKeyInv.returns (hI : IdentityKeyInv kind tr s) {call : Nat}
    {result : Result IdentityKey}
    (hresult : ∀ key, result = .ok key →
      ∃ value, s.store.vault = some value ∧ key = kind.returned value) :
    IdentityKeyInv kind (tr ++ [.returned call result]) ⟨s.store, s.calls.erase call⟩ where
  store := hI.store
  calls := hI.calls.erase call
  returned := by
    intro call' key hmem
    rcases List.mem_append.1 hmem with hold | hnew
    · exact hI.returned call' key hold
    · cases List.mem_singleton.1 hnew
      exact hresult key rfl

/-- **Every step under the condition keeps the invariant.** -/
theorem IdentityKeyInv.step (hI : IdentityKeyInv kind tr s) (hguard : writesAlone s a = true)
    (h : identityKeyStep kind identityId s a = some (s', es)) :
    IdentityKeyInv kind (tr ++ es) s' := by
  cases a with
  | getOrCreate call =>
    dsimp only [identityKeyStep] at h
    split at h
    · cases h
    · cases h
      rw [List.append_nil]
      -- a call first reads the entry
      refine ⟨hI.store.await (Nat.le_refl _) ?_ ?_, ?_, hI.returned⟩
      · split <;> trivial
      · split <;> rfl
      · exact OrdMap.Forall.set (hI.calls.imp fun hok => hok.await hI.store) trivial
  | store b =>
    dsimp only [identityKeyStep] at h
    split at h
    · cases h
    · next hb =>
      obtain ⟨⟨store', events⟩, hstep, hres⟩ := Option.map_eq_some_iff.1 h
      cases hres
      have hb' : b.isCall = false := Bool.eq_false_iff.2 hb
      have hS := secretStep_sound hstep
      rw [List.append_nil]
      refine ⟨hI.store.step hb' hS, ?_, ?_⟩
      · intro call phase hcall
        rw [OrdMap.get?_mapValues] at hcall
        obtain ⟨phase₀, hcall₀, rfl⟩ := Option.map_eq_some_iff.1 hcall
        exact (hI.calls call phase₀ hcall₀).deliver hI.store hb' hS
      · intro call key hmem
        obtain ⟨value, hvault, hkey⟩ := hI.returned call key hmem
        exact ⟨value, hI.store.vault_step hb' hS hvault, hkey⟩
  | resume call generated =>
    dsimp only [identityKeyStep] at h
    split at h
    · next hcall =>
      cases h
      have hok := hI.calls call _ hcall
      refine hI.returns fun key hkey => ?_
      cases hkey
      exact ⟨_, hok, rfl⟩
    · next hcall =>
      cases h
      rw [List.append_nil]
      simp only [writesAlone, hcall, Bool.and_eq_true, Bool.not_eq_true',
        Option.isNone_iff_eq_none] at hguard
      -- nothing was found, so a key is generated and written, alone as the guard says
      refine ⟨hI.store.startsSetting hguard.1 hguard.2 generated, ?_, hI.returned⟩
      exact OrdMap.Forall.set (hI.calls.imp fun hok => hok.await hI.store)
        ⟨false, OrdMap.get?_set_self _ _ _⟩
    · cases h
      exact hI.returns (by rintro _ ⟨⟩)
    · next hcall =>
      cases h
      have hok := hI.calls call _ hcall
      refine hI.returns fun key hkey => ?_
      cases hkey
      exact ⟨_, hok, rfl⟩
    · cases h
      exact hI.returns (by rintro _ ⟨⟩)
    · cases h

end Calls

/-- **One key per identity.** In every run in which every call that found no key starts its
write on a store that holds none and that no call writes, the calls of a kind for an identity
all return the same key, and from then on the store holds it. -/
theorem one_key_per_identity {tr : List ((KeyKind × String) × IdentityKeyEvent)}
    {s : KeyKind × String → IdentityKeyState}
    (h : Run identityKeys (fun s a => writesAlone (s a.1) a.2 = true) tr s)
    (kind : KeyKind) (identityId : String) :
    (∀ call key, ((kind, identityId), .returned call (.ok key)) ∈ tr →
      (s (kind, identityId)).Holds kind key) ∧
    ∀ call key call' key', ((kind, identityId), .returned call (.ok key)) ∈ tr →
      ((kind, identityId), .returned call' (.ok key')) ∈ tr → key = key' := by
  -- each entry has its own machine; the run of all is a run of each
  have hrun := Run.component (P := fun _ s a => writesAlone s a = true) h (kind, identityId)
  have hI : IdentityKeyInv kind (componentTrace (kind, identityId) tr) (s (kind, identityId)) :=
    hrun.invariant (I := IdentityKeyInv kind) .initial fun _ hI hguard hs => hI.step hguard hs
  constructor
  · intro call key hmem
    obtain ⟨value, hvault, hkey⟩ := hI.returned call key (mem_componentTrace.2 hmem)
    exact ⟨hI.store.readable value hvault, value, hvault, hkey⟩
  · intro call key call' key' hmem hmem'
    obtain ⟨value, hvault, rfl⟩ := hI.returned call key (mem_componentTrace.2 hmem)
    obtain ⟨value', hvault', rfl⟩ := hI.returned call' key' (mem_componentTrace.2 hmem')
    cases hvault.symm.trans hvault'
    rfl

namespace NewIdentity

def finds (call get : Nat) : List IdentityKeyAction :=
  [.getOrCreate call, .store (.readLegacy get true)]

def writes (call set : Nat) (key : Bytes) : List IdentityKeyAction :=
  [.resume call key, .store (.land set), .store (.written set true true), .resume call []]

/-- A key of 32 bytes, all the same. -/
def key (byte : UInt8) : Bytes := List.replicate 32 byte

/-- Two calls for the database key of an identity, one after the other. -/
def inTurn : List IdentityKeyAction :=
  finds 0 0 ++ writes 0 2 (key 1) ++
    [.getOrCreate 1, .store (.read 5 true), .store (.resume 5), .resume 1 (key 3)]

/-- Both calls find no key before either writes. -/
def overlapping : List IdentityKeyAction :=
  [.getOrCreate 0, .getOrCreate 1, .store (.readLegacy 0 true), .store (.readLegacy 1 true)] ++
    writes 0 4 (key 1) ++ writes 1 7 (key 3)

end NewIdentity

open NewIdentity in
/-- The second call returns the key of the first, and the store holds it. -/
theorem one_key_per_identity_inTurn :
    ∃ tr s, Run identityKeys (fun s a => writesAlone (s a.1) a.2 = true) tr s ∧
      ((.db, "id_1"), .returned 1 (.ok (.bytes (key 1)))) ∈ tr ∧
      (s (.db, "id_1")).Holds .db (.bytes (key 1)) := by
  have hrun : ∃ s, Run identityKeys (fun s a => writesAlone (s a.1) a.2 = true)
      ([.returned 0 (.ok (.bytes (key 1))), .returned 1 (.ok (.bytes (key 1)))].map
        (Prod.mk (KeyKind.db, "id_1"))) s :=
    exists_run_of_execFrom (inTurn.map (Prod.mk (KeyKind.db, "id_1"))) rfl
  obtain ⟨s, hrun⟩ := hrun
  have hmem : ((KeyKind.db, "id_1"), IdentityKeyEvent.returned 1 (.ok (.bytes (key 1)))) ∈
      [IdentityKeyEvent.returned 0 (.ok (.bytes (key 1))), .returned 1 (.ok (.bytes (key 1)))].map
        (Prod.mk (KeyKind.db, "id_1")) := List.mem_cons_of_mem _ List.mem_cons_self
  exact ⟨_, s, hrun, hmem, (one_key_per_identity hrun .db "id_1").1 1 _ hmem⟩

open NewIdentity in
/-- Two calls that both find no key return two keys. -/
theorem overlapping_calls_return_two :
    ¬ ∀ tr s, Run identityKeys (fun _ _ => True) tr s → ∀ kind identityId,
      ∀ call key call' key', ((kind, identityId), .returned call (.ok key)) ∈ tr →
        ((kind, identityId), .returned call' (.ok key')) ∈ tr → key = key' := by
  intro hclaim
  have hrun : ∃ s, Run identityKeys (fun _ _ => true = true)
      ([.returned 0 (.ok (.bytes (key 1))), .returned 1 (.ok (.bytes (key 3)))].map
        (Prod.mk (KeyKind.db, "id_1"))) s :=
    exists_run_of_execFrom (overlapping.map (Prod.mk (KeyKind.db, "id_1"))) rfl
  obtain ⟨s, hrun⟩ := hrun
  have hkeys := hclaim _ s (hrun.mono fun _ _ _ => trivial) .db "id_1" 0 (.bytes (key 1)) 1
    (.bytes (key 3)) List.mem_cons_self (List.mem_cons_of_mem _ List.mem_cons_self)
  exact absurd hkeys (by decide)

end Signet
