import Signet.Keys.Derivation
import Signet.Lib.Machine
import Signet.Lib.OrdMap

/-!
# Deriving accounts

`deriveAccount`, `listAccounts` and `sign` of `key-manager.ts` on one wallet, interleaved at
every await, with `ensureWalletState` and the vault's `updateWalletAccounts`.

`walletStates` holds a reference to a state object, and a call goes on with the object it got
from `ensureWalletState`, whether or not it is still the one in the map; so objects are named
by numbers. The wallet's file is read and written at some time between a call of the vault and
its return; a write may reach the file in two steps (`tear`: it is not readable for a while).
The memory vault does all this at the call.
-/

namespace Signet

open Lib

/-! ### The model -/

/-- The two calls that begin with `ensureWalletState`. -/
inductive AccountsOp where
  | deriveAccount (chain : AccountChain)
  | listAccounts
  deriving DecidableEq

/-- A call of `updateWalletAccounts` in flight. -/
structure AccountsUpdate where
  /-- The state object that the call holds. -/
  object : Nat
  /-- The new account. -/
  info : AccountInfo
  newAccounts : List AccountEntry
  /-- The file has been truncated. -/
  touched : Bool
  /-- The list is in the file. -/
  landed : Bool

/-- A call that awaits. -/
inductive AccountsCall where
  /-- `vault.readWallet` is awaited; `existing` is what `walletStates.get` gave before. -/
  | starting (op : AccountsOp) (existing : Option Nat)
  | listing (op : AccountsOp)
  /-- `vault.getWalletAccounts` is awaited. -/
  | gettingAccounts (op : AccountsOp)
  | gotAccounts (op : AccountsOp) (accounts : List AccountEntry)
  /-- `ensureWalletState` has returned. -/
  | ready (op : AccountsOp) (object : Nat)
  | updating (update : AccountsUpdate)
  /-- `sign` awaits `vault.readWallet`. -/
  | signing (accountIndex : Nat) (data : Bytes)

/-- One wallet of the backend and its file. -/
structure AccountsState where
  /-- The state objects made so far. -/
  objects : Nat → WalletState
  loads : Nat
  /-- `walletStates.get(walletId)`. -/
  current : Option Nat
  /-- The account list in the wallet's file, unless it is not readable. -/
  file : Option (List AccountEntry)
  calls : OrdMap Nat AccountsCall

inductive AccountsAction where
  | call (call : Nat) (op : AccountsOp)
  | sign (call : Nat) (accountIndex : Nat) (data : Bytes)
  /-- `vault.readWallet` returns. -/
  | seedRead (call : Nat) (answer : Result Unit)
  /-- `vault.listWallets` returns, and lists the wallet. -/
  | listed (call : Nat) (answer : Result Unit)
  /-- `vault.getWalletAccounts` reads the file. -/
  | accountsRead (call : Nat) (answer : Result Unit)
  /-- `vault.getWalletAccounts` returns. -/
  | load (call : Nat)
  /-- The call goes on with the state from `ensureWalletState`. -/
  | resume (call : Nat)
  | tear (call : Nat)
  | land (call : Nat)
  /-- `vault.updateWalletAccounts` returns. -/
  | updated (call : Nat) (answer : Result Unit)

inductive AccountsEvent where
  | called (call : Nat)
  | derived (call : Nat) (result : KeyOutcome AccountInfo)
  | listed (call : Nat) (result : KeyOutcome (List AccountInfo))
  | signed (call : Nat) (result : KeyOutcome SigningResult)

/-- The result of a call that `ensureWalletState` fails. -/
def AccountsOp.failed (call : Nat) (failure : Failure) : AccountsOp → AccountsEvent
  | deriveAccount _ => .derived call (.error failure)
  | listAccounts => .listed call (.error failure)

namespace AccountsState

variable (s : AccountsState)

def await (call : Nat) (phase : AccountsCall) : AccountsState :=
  { s with calls := s.calls.set call phase }

def finish (call : Nat) : AccountsState :=
  { s with calls := s.calls.erase call }

/-- `walletStates.set` of a new state object. -/
def install (accounts : List AccountEntry) : AccountsState :=
  { s with
    objects := Function.update s.objects s.loads (.load accounts)
    loads := s.loads + 1
    current := some s.loads }

/-- `deriveAccount` writes the state object it holds. -/
def store (update : AccountsUpdate) : AccountsState :=
  { s with
    objects :=
      Function.update s.objects update.object ⟨update.info.index + 1, update.newAccounts⟩ }

def chainAt (index : Nat) : Option AccountChain :=
  s.current.bind fun object => (s.objects object).chainAt index

end AccountsState

section Step

variable (walletId : String) (crypto : KeyDerivation) (seed : Bytes)

def AccountsState.resolveAndSign (s : AccountsState) (accountIndex : Nat) (data : Bytes) :
    KeyOutcome SigningResult :=
  match s.chainAt accountIndex with
  | none => .error (.err (.notFoundError "Account" (walletId ++ "/" ++ toString accountIndex)))
  | some chain => signWithSeed crypto seed accountIndex chain data

/-- `deriveAccount` with the state object from `ensureWalletState`. -/
def AccountsState.deriveAccount (s : AccountsState) (call object : Nat) (chain : AccountChain) :
    AccountsState × List AccountsEvent :=
  match deriveInfo crypto seed (s.objects object).nextIndex chain with
  | .error failure => (s.finish call, [.derived call (.error failure)])
  | .ok info =>
    (s.await call (.updating ⟨object, info, (s.objects object).accounts ++ [info.toAccountEntry],
      false, false⟩), [])

def accountsStep (s : AccountsState) :
    AccountsAction → Option (AccountsState × List AccountsEvent)
  | .call call op =>
    if s.calls.has call then none
    else some (s.await call (.starting op s.current), [.called call])
  | .sign call accountIndex data =>
    if s.calls.has call then none
    else some (s.await call (.signing accountIndex data), [.called call])
  | .seedRead call answer =>
    match s.calls.get? call, answer with
    | some (.starting op _), .error e => some (s.finish call, [op.failed call (.err e)])
    | some (.starting op (some object)), .ok () => some (s.await call (.ready op object), [])
    | some (.starting op none), .ok () => some (s.await call (.listing op), [])
    | some (.signing _ _), .error e => some (s.finish call, [.signed call (.error (.err e))])
    | some (.signing accountIndex data), .ok () =>
      some (s.finish call,
        [.signed call (s.resolveAndSign walletId crypto seed accountIndex data)])
    | _, _ => none
  | .listed call answer =>
    match s.calls.get? call, answer with
    | some (.listing op), .error e => some (s.finish call, [op.failed call (.err e)])
    | some (.listing op), .ok () => some (s.await call (.gettingAccounts op), [])
    | _, _ => none
  | .accountsRead call answer =>
    match s.calls.get? call, answer, s.file with
    | some (.gettingAccounts op), .error e, _ => some (s.finish call, [op.failed call (.err e)])
    | some (.gettingAccounts op), .ok (), none =>
      some (s.finish call,
        [op.failed call (.err (.internalError "Failed to read wallet accounts"))])
    | some (.gettingAccounts op), .ok (), some accounts =>
      some (s.await call (.gotAccounts op accounts), [])
    | _, _, _ => none
  | .load call =>
    match s.calls.get? call with
    | some (.gotAccounts op accounts) =>
      some ((s.install accounts).await call (.ready op s.loads), [])
    | _ => none
  | .resume call =>
    match s.calls.get? call with
    | some (.ready .listAccounts object) =>
      some (s.finish call,
        [.listed call ((s.objects object).accounts.mapM (accountInfo crypto seed))])
    | some (.ready (.deriveAccount chain) object) =>
      some (s.deriveAccount crypto seed call object chain)
    | _ => none
  | .tear call =>
    match s.calls.get? call with
    | some (.updating update) =>
      if update.landed then none
      else
        some ({ s.await call (.updating { update with touched := true }) with file := none }, [])
    | _ => none
  | .land call =>
    match s.calls.get? call with
    | some (.updating update) =>
      if update.landed then none
      else
        some ({ s.await call (.updating { update with touched := true, landed := true }) with
          file := some update.newAccounts }, [])
    | _ => none
  | .updated call answer =>
    match s.calls.get? call, answer with
    | some (.updating _), .error e => some (s.finish call, [.derived call (.error (.err e))])
    | some (.updating update), .ok () =>
      if update.landed then
        some ((s.store update).finish call, [.derived call (.ok update.info)])
      else none
    | _, _ => none

/-- The calls on a wallet whose file holds `accounts`, by a backend that has loaded it or
not. -/
def accountsMachine (accounts : List AccountEntry) (loaded : Bool) :
    Machine AccountsState AccountsAction AccountsEvent where
  init :=
    ⟨fun _ => .load accounts, if loaded then 1 else 0, if loaded then some 0 else none,
      some accounts, .empty⟩
  step := accountsStep walletId crypto seed

end Step

end Signet
