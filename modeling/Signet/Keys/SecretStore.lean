import Signet.Lib.Machine
import Signet.Lib.OrdMap
import Signet.Schemas.ResourceId
import Signet.Core.ConvosInvite

/-!
# The compat secret store

`createCompatSecretStore` of `key-manager-compat.ts`, over the vault's `set`, `get` and
`delete` and the legacy directory: one machine for each key (`secretMachine`), side by side
in `compatSecretStore`. Distinct keys have distinct files in both places.

Calls are cut at their awaits. The file vault looks for the file when `get` or `delete` is
called, reads it some time later, and a `set` reaches the file some time between its call
and its return, possibly in two steps (`tear`: the file is there but not readable yet, or
not any more). The memory vault does all this at the call. Removing a legacy entry is
synchronous and may fail silently.

Calls are named by the time they were made; time counts the steps.
-/

namespace Signet

open Lib

/-! ### The model -/

/-- A call that awaits. -/
inductive SecretCall where
  /-- `get`: the vault has the file, its content is awaited. -/
  | reading
  | found (value : Bytes)
  /-- `get`: the vault had no file when it was called. -/
  | missed
  /-- `get`: `vault.set` of the legacy value is awaited. -/
  | migrating (value : Bytes) (landed : Bool)
  /-- `set`: `vault.set` is awaited. -/
  | setting (value : Bytes) (landed : Bool)
  /-- `delete`: `vault.delete` has removed the file, or has not found it. -/
  | deleting (deleted : Bool)
  /-- `delete`: `unlinkSync` has thrown. -/
  | rejecting (message : String)

/-- One key of the store. -/
structure SecretState where
  /-- What the last write has left in the vault's file. -/
  vault : Option Bytes
  /-- The file is there but not readable. -/
  torn : Bool
  /-- The entry in the legacy directory, decoded. -/
  legacy : Option Bytes
  now : Nat
  calls : OrdMap Nat SecretCall

inductive SecretAction where
  | get
  | set (value : Bytes)
  /-- `thrown`: what `unlinkSync` throws if the file is there. -/
  | delete (thrown : Option String)
  /-- The vault reads and decrypts the file, or fails to. -/
  | read (call : Nat) (ok : Bool)
  | resume (call : Nat)
  /-- `readLegacyKvEntry`; `ok`: `readFileSync` does not throw. -/
  | readLegacy (call : Nat) (ok : Bool)
  | tear (call : Nat)
  | land (call : Nat)
  /-- `vault.set` returns; `removed`: `unlinkSync` of the legacy entry goes through. -/
  | written (call : Nat) (ok : Bool) (removed : Bool)
  | deleted (call : Nat) (removed : Bool)

/-- What callers see, and when a write takes effect. -/
inductive SecretEvent where
  | getReturned (call ended : Nat) (result : Result Bytes)
  | writeReturned (call ended : Nat) (result : Result Unit)
  /-- The key has been set, or removed, by the call. -/
  | applied (call : Nat) (value : Option Bytes)
  /-- A legacy value has been written to the vault, where `found` was. -/
  | migrated (time : Nat) (found : Option Bytes) (value : Bytes)

namespace SecretState

variable (s : SecretState)

/-- `existsSync` of the vault's file. -/
def fileExists : Bool :=
  s.torn || s.vault.isSome

def await (call : Nat) (phase : SecretCall) : SecretState :=
  { s with now := s.now + 1, calls := s.calls.set call phase }

def finish (call : Nat) : SecretState :=
  { s with now := s.now + 1, calls := s.calls.erase call }

/-- A write of the vault reaches its file. -/
def write (value : Bytes) : SecretState :=
  { s with vault := some value, torn := false }

/-- The vault's file is unlinked. -/
def unlink : SecretState :=
  { s with vault := none, torn := false }

/-- `removeLegacyKvEntry`. -/
def removeLegacy (removed : Bool) : SecretState :=
  { s with legacy := if removed then none else s.legacy }

end SecretState

section Step

variable (key : String)

def secretStep (s : SecretState) : SecretAction → Option (SecretState × List SecretEvent)
  | .get => some (s.await s.now (if s.fileExists then .reading else .missed), [])
  | .set value => some (s.await s.now (.setting value false), [])
  | .delete thrown =>
    if s.fileExists then
      match thrown with
      | none => some (s.unlink.await s.now (.deleting true), [.applied s.now none])
      | some message => some (s.await s.now (.rejecting message), [])
    else some (s.await s.now (.deleting false), [])
  | .read call ok =>
    match s.calls.get? call with
    | some .reading =>
      match ok, s.torn, s.vault with
      | true, false, some value => some (s.await call (.found value), [])
      | _, _, _ =>
        some (s.finish call,
          [.getReturned call s.now (.error (.internalError "Failed to read vault secret"))])
    | _ => none
  | .resume call =>
    match s.calls.get? call with
    | some (.found value) => some (s.finish call, [.getReturned call s.now (.ok value)])
    | some (.rejecting message) =>
      some (s.finish call, [.writeReturned call s.now (.error (.internalError message))])
    | _ => none
  | .readLegacy call ok =>
    match s.calls.get? call with
    | some .missed =>
      match s.legacy, ok with
      | none, _ =>
        some (s.finish call, [.getReturned call s.now (.error (.notFoundError "kv-entry" key))])
      | some _, false =>
        some (s.finish call,
          [.getReturned call s.now
            (.error (.internalError "Failed to read legacy compat vault entry"))])
      | some value, true => some (s.await call (.migrating value false), [])
    | _ => none
  | .tear call =>
    match s.calls.get? call with
    | some (.migrating _ false) | some (.setting _ false) =>
      some ({ s with torn := true, now := s.now + 1 }, [])
    | _ => none
  | .land call =>
    match s.calls.get? call with
    | some (.migrating value false) =>
      some ((s.write value).await call (.migrating value true), [.migrated s.now s.vault value])
    | some (.setting value false) =>
      some ((s.write value).await call (.setting value true), [.applied call (some value)])
    | _ => none
  | .written call ok removed =>
    match s.calls.get? call, ok with
    | some (.migrating value true), true =>
      some ((s.removeLegacy removed).finish call, [.getReturned call s.now (.ok value)])
    | some (.setting _ true), true =>
      some ((s.removeLegacy removed).finish call, [.writeReturned call s.now (.ok ())])
    | some (.migrating _ _), false =>
      some (s.finish call,
        [.getReturned call s.now (.error (.internalError "Failed to store vault secret"))])
    | some (.setting _ _), false =>
      some (s.finish call,
        [.writeReturned call s.now (.error (.internalError "Failed to store vault secret"))])
    | _, _ => none
  | .deleted call removed =>
    match s.calls.get? call with
    | some (.deleting true) =>
      some ((s.removeLegacy removed).finish call, [.writeReturned call s.now (.ok ())])
    | some (.deleting false) =>
      if s.legacy.isSome then
        -- only the legacy entry was there, and counts as deleted
        some ((s.removeLegacy removed).finish call,
          [.applied call none, .writeReturned call s.now (.ok ())])
      else
        some (s.finish call,
          [.writeReturned call s.now (.error (.notFoundError "VaultSecret" key))])
    | _ => none

/-- The store of one key, over what its two files hold at first. -/
def secretMachine (vault legacy : Option Bytes) :
    Machine SecretState SecretAction SecretEvent where
  init := ⟨vault, false, legacy, 0, .empty⟩
  step := secretStep key

end Step

/-- **The store**: every key by itself. -/
def compatSecretStore (vault legacy : String → Option Bytes) :
    Machine (String → SecretState) (String × SecretAction) (String × SecretEvent) :=
  .family fun key => secretMachine key (vault key) (legacy key)

end Signet
