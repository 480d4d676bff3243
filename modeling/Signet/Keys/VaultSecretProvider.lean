import Signet.Core.ConvosInvite
import Signet.Lib.Machine
import Signet.Lib.OrdMap

/-!
# Vault secret providers

`vault-secret-provider.ts`: the software provider, the Secure Enclave provider, and the choice
between them. A process resolves one provider; `restart` ends the process wherever it is, and
begins the next one over what its files hold.

Calls are cut at their awaits. A write may leave any beginning of its text in the file (`tear`)
before all of it is there (`land`); it returns when it has landed, and fails at any time. The
signer, the JSON of a sealed box and the cipher are parameters (`EnclavePrimitives`).
-/

namespace Signet

open Lib

/-! ### The data directory -/

/-- The files of the providers in the data directory. -/
structure SecretDir where
  vaultKey : Option Bytes
  vaultPassphrase : Option String
  /-- `se-vault-keyref`. -/
  keyRef : Option String
  /-- `vault-sealed-box.json`. -/
  sealedBox : Option String
  /-- `se-vault-pubkey`. -/
  publicKey : Option String

/-- The 32 bytes of a generated secret. -/
abbrev SecretBytes := { bytes : Bytes // bytes.length = 32 }

/-- The hex text of a generated secret. -/
def SecretBytes.hex (secret : SecretBytes) : String :=
  bytesToHex secret.1

/-- `/^[0-9a-f]{64}$/`. -/
def isSecretHex (text : String) : Bool :=
  text.toList.length = 64 && text.toList.all isLowerHex

def normalizeVaultSecret (value : String) : Result String :=
  let normalized := asciiLowerCase (jsTrim value)
  if isSecretHex normalized then .ok normalized
  else .error (.internalError "Vault secret is malformed")

inductive ArtifactState where
  | existing
  | fresh
  deriving DecidableEq

def validateSeVaultArtifacts (dir : SecretDir) : Result ArtifactState :=
  if dir.keyRef.isSome || dir.sealedBox.isSome || dir.publicKey.isSome then
    if dir.keyRef.isSome && dir.sealedBox.isSome then .ok .existing
    else .error (.internalError
      "Vault Secure Enclave metadata is incomplete. Refusing to reinitialize automatically.")
  else .ok .fresh

/-! ### The Secure Enclave -/

structure SealedBox where
  ephemeralPublicKey : String
  nonce : String
  ciphertext : String
  tag : String
  deriving DecidableEq

/-- What the Secure Enclave provider takes from the signer, the platform and its packages. -/
structure EnclavePrimitives where
  /-- The public key that `seCreate` returns next to a key reference. -/
  publicKey : String → String
  /-- `seEncrypt`, from the ephemeral key and nonce that it draws. -/
  seEncrypt : Bytes → String → Bytes → Option SealedBox
  /-- The plaintext, in hex, that the signer answers if it decrypts. -/
  seDecrypt : String → SealedBox → Option String
  /-- `JSON.stringify`. -/
  boxText : SealedBox → String
  /-- `JSON.parse`. -/
  parseBox : String → Option SealedBox
  /-- The JSON of an encrypted box is parsed back. -/
  parse_text : ∀ drawn publicKey plaintext box,
    seEncrypt drawn publicKey plaintext = some box → parseBox (boxText box) = some box
  /-- Decryption with a key of the enclave inverts encryption under its public key. -/
  decrypt_encrypt : ∀ keyRef drawn plaintext box,
    seEncrypt drawn (publicKey keyRef) plaintext = some box →
      seDecrypt keyRef box = some (bytesToHex plaintext)

/-! ### The providers -/

inductive VaultSecretEvent where
  | returned (call : Nat) (result : Result String)
  deriving DecidableEq

/-- The file that a call of the software provider awaits. -/
inductive SoftwareRead where
  | vaultKey
  | vaultPassphrase
  deriving DecidableEq

/-- `Bun.write` of `vault-passphrase` in flight. -/
structure PassphraseWrite where
  call : Nat
  text : String
  landed : Bool

/-- `createSoftwareVaultSecretProvider`. -/
structure SoftwareProvider where
  cached : Option String
  write : Option PassphraseWrite
  calls : OrdMap Nat SoftwareRead

/-- `resolveSecret`, where it awaits. -/
inductive Resolution where
  | readingKeyRef
  | readingSealedBox (keyRef : String)
  | decrypting (keyRef : String) (box : SealedBox)
  | creating
  | writingKeyRef (keyRef : String) (landed : Bool)
  | writingPublicKey (keyRef : String) (landed : Bool)
  | writingSealedBox (secretHex : String) (box : SealedBox) (landed : Bool)
  | settled (result : Result String)

/-- A call that awaits `inflight`. -/
inductive EnclaveCall where
  /-- `starter`: the call has called `resolveSecret`. -/
  | awaiting (starter : Bool)
  | answered (starter : Bool) (result : Result String)

/-- `createSeVaultSecretProvider`. -/
structure EnclaveProvider where
  cached : Option String
  inflight : Option Resolution
  calls : OrdMap Nat EnclaveCall

/-- The provider of the process. -/
inductive Provider where
  /-- None is resolved yet. -/
  | unresolved
  | software (p : SoftwareProvider)
  | enclave (p : EnclaveProvider)
  /-- `createErrorVaultSecretProvider`. -/
  | failing (message : String)

inductive SoftwareAction where
  | read (call : Nat) (ok : Bool)
  /-- The text is a beginning of the written one. -/
  | tear (text : String)
  | land
  | written (ok : Bool)

inductive EnclaveAction where
  | keyRefRead (ok : Bool)
  | sealedBoxRead (ok : Bool)
  /-- `ok`: the signer is not cancelled, killed or unreachable. -/
  | decrypted (ok : Bool)
  /-- `seCreate` returns a key reference, or fails. -/
  | created (keyRef : Option String)
  | tear (text : String)
  | land
  | keyRefWritten (ok : Bool)
  /-- `drawn`: what `seEncrypt` draws. -/
  | publicKeyWritten (ok : Bool) (random : SecretBytes) (drawn : Bytes)
  | sealedBoxWritten (ok : Bool)
  | resume (call : Nat)

inductive VaultSecretAction where
  | restart
  /-- `platform`: `detectPlatform` finds a Secure Enclave; `signer`: `findSignerBinary` finds
  the signer. -/
  | resolve (platform signer : Bool)
  /-- `ensured`: the data directory is there or can be made; `random` is drawn if the software
  provider generates a secret. -/
  | getSecret (call : Nat) (ensured : Bool) (random : SecretBytes)
  | software (a : SoftwareAction)
  | enclave (a : EnclaveAction)

/-! #### The software provider -/

def softwareFailed : Result String :=
  .error (.internalError "Failed to resolve software vault secret")

namespace SoftwareProvider

variable (dir : SecretDir) (p : SoftwareProvider)

def await (call : Nat) (file : SoftwareRead) : SoftwareProvider :=
  { p with calls := p.calls.set call file }

def finish (call : Nat) : SoftwareProvider :=
  { p with calls := p.calls.erase call }

def isPending (call : Nat) : Bool :=
  p.calls.has call || p.write.any (·.call = call)

def getSecret (call : Nat) (ensured : Bool) (random : SecretBytes) :
    SoftwareProvider × List VaultSecretEvent :=
  match p.cached with
  | some secret => (p, [.returned call (.ok secret)])
  | none =>
    if ensured = false then (p, [.returned call softwareFailed])
    else if dir.vaultKey.isSome then (p.await call .vaultKey, [])
    else if dir.vaultPassphrase.isSome then (p.await call .vaultPassphrase, [])
    else
      -- the secret is cached before it is written
      ({ p with cached := some random.hex, write := some ⟨call, random.hex, false⟩ }, [])

/-- The call caches a secret that it has read, and returns it. -/
def found (call : Nat) (secret : String) : SoftwareProvider × List VaultSecretEvent :=
  ({ p.finish call with cached := some secret }, [.returned call (.ok secret)])

/-- The call returns an error. -/
def failed (call : Nat) (result : Result String) : SoftwareProvider × List VaultSecretEvent :=
  (p.finish call, [.returned call result])

/-- The awaited file is read. -/
def read (call : Nat) (ok : Bool) : SoftwareRead → SoftwareProvider × List VaultSecretEvent
  | .vaultKey =>
    match dir.vaultKey, ok with
    | some raw, true =>
      if raw.length ≠ 32 then p.failed call (.error (.internalError "Vault key is malformed"))
      else p.found call (bytesToHex raw)
    | _, _ => p.failed call softwareFailed
  | .vaultPassphrase =>
    match dir.vaultPassphrase, ok with
    | some text, true =>
      match normalizeVaultSecret text with
      | .error e => p.failed call (.error e)
      | .ok secret => p.found call secret
    | _, _ => p.failed call softwareFailed

end SoftwareProvider

def softwareStep (dir : SecretDir) (p : SoftwareProvider) :
    SoftwareAction → Option (SecretDir × SoftwareProvider × List VaultSecretEvent)
  | .read call ok => (p.calls.get? call).map fun file => (dir, p.read dir call ok file)
  | .tear text =>
    match p.write with
    | some ⟨_, full, false⟩ =>
      if text.toList <+: full.toList then some ({ dir with vaultPassphrase := some text }, p, [])
      else none
    | _ => none
  | .land =>
    match p.write with
    | some ⟨call, full, false⟩ =>
      some ({ dir with vaultPassphrase := some full },
        { p with write := some ⟨call, full, true⟩ }, [])
    | _ => none
  | .written ok =>
    match p.write, p.cached, ok with
    | some ⟨call, _, _⟩, _, false =>
      -- the cached secret stays
      some (dir, { p with write := none }, [.returned call softwareFailed])
    | some ⟨call, _, true⟩, some secret, true =>
      some (dir, { p with write := none }, [.returned call (.ok secret)])
    | _, _, _ => none

/-! #### The Secure Enclave provider -/

def enclaveFailed : Result String :=
  .error (.internalError "SE vault secret provider failed")

/-- The awaited promise is settled. -/
def EnclaveCall.answer (result : Result String) : EnclaveCall → EnclaveCall
  | awaiting starter => .answered starter result
  | answered starter result' => .answered starter result'

namespace EnclaveProvider

variable (dir : SecretDir) (p : EnclaveProvider)

def await (call : Nat) (phase : EnclaveCall) : EnclaveProvider :=
  { p with calls := p.calls.set call phase }

def next (phase : Resolution) : EnclaveProvider :=
  { p with inflight := some phase }

/-- `resolveSecret` returns. -/
def settle (result : Result String) : EnclaveProvider :=
  { p with inflight := some (.settled result), calls := p.calls.mapValues (·.answer result) }

/-- `resolveSecret`, to its first await. -/
def resolveSecret (ensured : Bool) : EnclaveProvider :=
  if ensured = false then p.settle enclaveFailed
  else
    match validateSeVaultArtifacts dir with
    | .error e => p.settle (.error e)
    | .ok .existing => p.next .readingKeyRef
    | .ok .fresh => p.next .creating

def getSecret (call : Nat) (ensured : Bool) : EnclaveProvider × List VaultSecretEvent :=
  match p.cached, p.inflight with
  | some secret, _ => (p, [.returned call (.ok secret)])
  | none, some (.settled result) => (p.await call (.answered false result), [])
  | none, some _ => (p.await call (.awaiting false), [])
  | none, none => ((p.await call (.awaiting true)).resolveSecret dir ensured, [])

end EnclaveProvider

section Enclave

variable (prims : EnclavePrimitives)

def enclaveStep (dir : SecretDir) (p : EnclaveProvider) :
    EnclaveAction → Option (SecretDir × EnclaveProvider × List VaultSecretEvent)
  | .keyRefRead ok =>
    match p.inflight with
    | some .readingKeyRef =>
      match dir.keyRef, ok with
      | some keyRef, true => some (dir, p.next (.readingSealedBox keyRef), [])
      | _, _ => some (dir, p.settle enclaveFailed, [])
    | _ => none
  | .sealedBoxRead ok =>
    match p.inflight with
    | some (.readingSealedBox keyRef) =>
      match dir.sealedBox.bind prims.parseBox, ok with
      | some box, true => some (dir, p.next (.decrypting keyRef box), [])
      | _, _ => some (dir, p.settle enclaveFailed, [])
    | _ => none
  | .decrypted ok =>
    match p.inflight with
    | some (.decrypting keyRef box) =>
      match prims.seDecrypt keyRef box, ok with
      | some plaintext, true =>
        match normalizeVaultSecret plaintext with
        | .error e => some (dir, p.settle (.error e), [])
        | .ok secret => some (dir, { p.settle (.ok secret) with cached := some secret }, [])
      | _, _ =>
        some (dir, p.settle (.error (.internalError "Failed to decrypt vault secret from SE")), [])
    | _ => none
  | .created answer =>
    match p.inflight, answer with
    | some .creating, none =>
      some (dir, p.settle (.error (.internalError "Failed to create SE vault key")), [])
    | some .creating, some keyRef => some (dir, p.next (.writingKeyRef keyRef false), [])
    | _, _ => none
  | .tear text =>
    match p.inflight with
    | some (.writingKeyRef keyRef false) =>
      if text.toList <+: keyRef.toList then some ({ dir with keyRef := some text }, p, [])
      else none
    | some (.writingPublicKey keyRef false) =>
      if text.toList <+: (prims.publicKey keyRef).toList then
        some ({ dir with publicKey := some text }, p, [])
      else none
    | some (.writingSealedBox _ box false) =>
      if text.toList <+: (prims.boxText box).toList then
        some ({ dir with sealedBox := some text }, p, [])
      else none
    | _ => none
  | .land =>
    match p.inflight with
    | some (.writingKeyRef keyRef false) =>
      some ({ dir with keyRef := some keyRef }, p.next (.writingKeyRef keyRef true), [])
    | some (.writingPublicKey keyRef false) =>
      some ({ dir with publicKey := some (prims.publicKey keyRef) },
        p.next (.writingPublicKey keyRef true), [])
    | some (.writingSealedBox secretHex box false) =>
      some ({ dir with sealedBox := some (prims.boxText box) },
        p.next (.writingSealedBox secretHex box true), [])
    | _ => none
  | .keyRefWritten ok =>
    match p.inflight, ok with
    | some (.writingKeyRef _ _), false => some (dir, p.settle enclaveFailed, [])
    | some (.writingKeyRef keyRef true), true =>
      some (dir, p.next (.writingPublicKey keyRef false), [])
    | _, _ => none
  | .publicKeyWritten ok random drawn =>
    match p.inflight, ok with
    | some (.writingPublicKey _ _), false => some (dir, p.settle enclaveFailed, [])
    | some (.writingPublicKey keyRef true), true =>
      match prims.seEncrypt drawn (prims.publicKey keyRef) random.1 with
      | none => some (dir, p.settle enclaveFailed, [])
      | some box => some (dir, p.next (.writingSealedBox random.hex box false), [])
    | _, _ => none
  | .sealedBoxWritten ok =>
    match p.inflight, ok with
    | some (.writingSealedBox _ _ _), false => some (dir, p.settle enclaveFailed, [])
    | some (.writingSealedBox secretHex _ true), true =>
      some (dir, { p.settle (.ok secretHex) with cached := some secretHex }, [])
    | _, _ => none
  | .resume call =>
    match p.calls.get? call with
    | some (.answered starter result) =>
      some (dir,
        { p with
          inflight := if starter then none else p.inflight
          calls := p.calls.erase call },
        [.returned call result])
    | _ => none

end Enclave

/-! ### The process and its directory -/

def resolveVaultSecretProvider (dir : SecretDir) (platform signer : Bool) : Provider :=
  if dir.vaultKey.isSome || dir.vaultPassphrase.isSome then .software ⟨none, none, .empty⟩
  else
    match validateSeVaultArtifacts dir with
    | .error (.internalError message) => .failing message
    -- the only error is an `InternalError`
    | .error _ => .failing ""
    | .ok .existing =>
      if signer then .enclave ⟨none, none, .empty⟩
      else
        .failing ("Vault was created with Secure Enclave but signet-signer binary not found. " ++
          "Cannot decrypt vault secret.")
    | .ok .fresh =>
      if platform && signer then .enclave ⟨none, none, .empty⟩
      else .software ⟨none, none, .empty⟩

structure VaultSecretState where
  dir : SecretDir
  provider : Provider

section Step

variable (prims : EnclavePrimitives)

def vaultSecretStep (s : VaultSecretState) :
    VaultSecretAction → Option (VaultSecretState × List VaultSecretEvent)
  | .restart => some (⟨s.dir, .unresolved⟩, [])
  | .resolve platform signer =>
    match s.provider with
    | .unresolved => some (⟨s.dir, resolveVaultSecretProvider s.dir platform signer⟩, [])
    | _ => none
  | .getSecret call ensured random =>
    match s.provider with
    | .unresolved => none
    | .failing message => some (s, [.returned call (.error (.internalError message))])
    | .software p =>
      if p.isPending call then none
      else
        let r := p.getSecret s.dir call ensured random
        some (⟨s.dir, .software r.1⟩, r.2)
    | .enclave p =>
      if p.calls.has call then none
      else
        let r := p.getSecret s.dir call ensured
        some (⟨s.dir, .enclave r.1⟩, r.2)
  | .software a =>
    match s.provider with
    | .software p => (softwareStep s.dir p a).map fun r => (⟨r.1, .software r.2.1⟩, r.2.2)
    | _ => none
  | .enclave a =>
    match s.provider with
    | .enclave p => (enclaveStep prims s.dir p a).map fun r => (⟨r.1, .enclave r.2.1⟩, r.2.2)
    | _ => none

/-- The processes over a data directory. -/
def vaultSecretMachine (dir : SecretDir) :
    Machine VaultSecretState VaultSecretAction VaultSecretEvent where
  init := ⟨dir, .unresolved⟩
  step := vaultSecretStep prims

end Step

end Signet
