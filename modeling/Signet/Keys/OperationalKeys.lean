import Signet.Lib.Machine
import Signet.Lib.OrdMap
import Signet.Seals.Stamper

/-!
# Operational keys of the compat key manager

`key-manager-compat.ts`: the operational keys of the compat key manager (creation,
rotation, automatic rotation, signing) and `createSealStamperCompat`, which signs with
one lookup of the identity's key and names the key with a later one. Every call is cut at
its awaits: the gate, the steps of the key generation, the signature.

A key operation writes the key in its last segment, after all its awaits; `settle` hands
the control back to the caller or to the loop of the automatic rotation, which goes through
the identities in the order of their first keys.
-/

namespace Signet

open Lib

/-! ### The model -/

/-- Ed25519 of the platform, over private keys `κ`. -/
structure Ed25519 (κ : Type) where
  /-- The raw public key of a private key. -/
  publicHalf : κ → Bytes
  sign : κ → Bytes → Bytes
  /-- `verify(publicKey, data, signature)`. -/
  verify : Bytes → Bytes → Bytes → Bool

/-- Signatures verify with the public half of the key. -/
def Ed25519.Correct {κ : Type} (ed25519 : Ed25519 κ) : Prop :=
  ∀ k data, ed25519.verify (ed25519.publicHalf k) data (ed25519.sign k data) = true

/-- `OperationalKeyEntry`; the group of the key stands beside it. -/
structure OperationalKeyEntry (κ : Type) where
  key : OperationalKey
  groupId : Option String
  privateKey : κ

/-- What a stamper is asked to sign. -/
inductive StampRequest where
  | seal (payload : SealPayload)
  | revocation (revocation : RevocationSeal)

/-- What a stamper returns: a seal envelope, or a revocation with its signature and
`signerKeyRef`. -/
inductive StampedEnvelope where
  | seal (envelope : SealEnvelope)
  | revocation (revocation : RevocationSeal) (signature signerKeyRef : String)

namespace StampedEnvelope

/-- The payload that was signed. -/
def request : StampedEnvelope → StampRequest
  | .seal envelope => .seal envelope.chain.current
  | .revocation payload _ _ => .revocation payload

def signature : StampedEnvelope → String
  | .seal envelope => envelope.signed.signature
  | .revocation _ signature _ => signature

/-- `keyId` or `signerKeyRef`. -/
def keyRef : StampedEnvelope → String
  | .seal envelope => envelope.signed.keyId
  | .revocation _ _ signerKeyRef => signerKeyRef

end StampedEnvelope

def StampRequest.envelope (signature keyRef : String) : StampRequest → StampedEnvelope
  | .seal payload => .seal (stampedEnvelope payload signature keyRef)
  | .revocation payload => .revocation payload signature keyRef

/-- A call that awaits. `loop` is the position at which the loop of the automatic rotation
goes on after the call, if it is the loop that made it. -/
inductive KeyManagerCall (κ : Type) where
  /-- `createOperationalKey` and `rotateOperationalKey` await the gate. -/
  | gating (identityId : String) (groupId : Option String) (loop : Option Nat)
  /-- `createOperationalKeyRecord` awaits the key pair, the export and the fingerprint. -/
  | generating (identityId : String) (groupId : Option String) (loop : Option Nat)
  | exporting (identityId : String) (groupId : Option String) (privateKey : κ) (loop : Option Nat)
  | fingerprinting (identityId : String) (groupId : Option String) (privateKey : κ)
      (loop : Option Nat)
  /-- The loop over `opKeys.keys()` is about to go on. -/
  | looping (index : Nat)
  /-- The stamper awaits the signature with the key it has looked up. -/
  | signing (identityId : String) (request : StampRequest) (privateKey : κ)

/-- The maps of `createKeyManager` that hold operational keys, and the calls in flight. -/
structure KeyManagerState (κ : Type) where
  opKeys : OrdMap String (OperationalKeyEntry κ)
  groupIdIndex : OrdMap String String
  calls : OrdMap Nat (KeyManagerCall κ)

/-- Calls and their resumptions. A `Result` is the settled promise of the platform or the
gate. -/
inductive KeyManagerAction (κ : Type) where
  | createOperationalKey (call : Nat) (identityId : String) (groupId : Option String)
  | rotateOperationalKey (call : Nat) (identityId : String)
  /-- The rotation timer fires. -/
  | autoRotate (call : Nat)
  | loop (call : Nat)
  | gated (call : Nat) (answer : Result Unit)
  | generated (call : Nat) (pair : Result κ)
  | exported (call : Nat) (answer : Result Unit)
  | fingerprinted (call : Nat) (answer : Result Unit)
  /-- `sign` or `signRevocation` of the stamper of the identity. -/
  | stamp (call : Nat) (identityId : String) (request : StampRequest)
  | signed (call : Nat) (answer : Result Unit)

/-- What callers get back. -/
inductive KeyManagerEvent where
  | keyReturned (call : Nat) (result : Result OperationalKey)
  | stamped (call : Nat) (result : Result StampedEnvelope)

namespace KeyManagerState

variable {κ : Type} (s : KeyManagerState κ)

def await (call : Nat) (phase : KeyManagerCall κ) : KeyManagerState κ :=
  { s with calls := s.calls.set call phase }

def finish (call : Nat) : KeyManagerState κ :=
  { s with calls := s.calls.erase call }

/-- A key operation ends: back to the loop, or to the caller. -/
def settle (call : Nat) (loop : Option Nat) (result : Result OperationalKey) :
    KeyManagerState κ × List KeyManagerEvent :=
  match loop with
  | some index => (s.await call (.looping index), [])
  | none => (s.finish call, [.keyReturned call result])

/-- The last segment of `createOperationalKeyRecord` stores the key. -/
def storeKey (identityId : String) (entry : OperationalKeyEntry κ) : KeyManagerState κ :=
  { s with
    opKeys := s.opKeys.set identityId entry
    groupIdIndex :=
      match entry.groupId with
      | some groupId => s.groupIdIndex.set groupId identityId
      | none => s.groupIdIndex }

/-- `rotateOperationalKey` up to its gate. -/
def rotate (call : Nat) (identityId : String) (loop : Option Nat) :
    KeyManagerState κ × List KeyManagerEvent :=
  match s.opKeys.get? identityId with
  | none => s.settle call loop (.error (.notFoundError "operational-key" identityId))
  | some existing => (s.await call (.gating identityId existing.groupId loop), [])

def getOperationalKey (identityId : String) : Result OperationalKey :=
  match s.opKeys.get? identityId with
  | none => .error (.notFoundError "operational-key" identityId)
  | some entry => .ok entry.key

end KeyManagerState

section Step

variable {κ : Type} (ed25519 : Ed25519 κ) (canonicalize : StampRequest → Bytes)
  (toBase64 : Bytes → String)

open KeyManagerState

/-- The stamper after the await of its signature: the key is looked up again. -/
def stampFinish (s : KeyManagerState κ) (identityId : String) (request : StampRequest)
    (privateKey : κ) (answer : Result Unit) : Result StampedEnvelope := do
  let _ ← answer
  let key ← s.getOperationalKey identityId
  .ok (request.envelope (toBase64 (ed25519.sign privateKey (canonicalize request))) key.publicKey)

def keyManagerStep (s : KeyManagerState κ) :
    KeyManagerAction κ → Option (KeyManagerState κ × List KeyManagerEvent)
  | .createOperationalKey call identityId groupId =>
    if s.calls.has call then none
    else some (s.await call (.gating identityId groupId none), [])
  | .rotateOperationalKey call identityId =>
    if s.calls.has call then none else some (s.rotate call identityId none)
  | .autoRotate call =>
    if s.calls.has call then none else some (s.await call (.looping 0), [])
  | .loop call =>
    match s.calls.get? call with
    | some (.looping index) =>
      match s.opKeys.keys[index]? with
      | none => some (s.finish call, [])
      | some identityId => some (s.rotate call identityId (some (index + 1)))
    | _ => none
  | .gated call answer =>
    match s.calls.get? call, answer with
    | some (.gating _ _ loop), .error e => some (s.settle call loop (.error e))
    | some (.gating identityId groupId loop), .ok () =>
      some (s.await call (.generating identityId groupId loop), [])
    | _, _ => none
  | .generated call pair =>
    match s.calls.get? call, pair with
    | some (.generating _ _ loop), .error e => some (s.settle call loop (.error e))
    | some (.generating identityId groupId loop), .ok privateKey =>
      some (s.await call (.exporting identityId groupId privateKey loop), [])
    | _, _ => none
  | .exported call answer =>
    match s.calls.get? call, answer with
    | some (.exporting _ _ _ loop), .error e => some (s.settle call loop (.error e))
    | some (.exporting identityId groupId privateKey loop), .ok () =>
      some (s.await call (.fingerprinting identityId groupId privateKey loop), [])
    | _, _ => none
  | .fingerprinted call answer =>
    match s.calls.get? call, answer with
    | some (.fingerprinting _ _ _ loop), .error e => some (s.settle call loop (.error e))
    | some (.fingerprinting identityId groupId privateKey loop), .ok () =>
      let key : OperationalKey := ⟨ed25519.publicHalf privateKey⟩
      some ((s.storeKey identityId ⟨key, groupId, privateKey⟩).settle call loop (.ok key))
    | _, _ => none
  | .stamp call identityId request =>
    if s.calls.has call then none
    else
      match s.opKeys.get? identityId with
      | none =>
        some (s, [.stamped call (.error (.notFoundError "operational-key" identityId))])
      | some entry => some (s.await call (.signing identityId request entry.privateKey), [])
  | .signed call answer =>
    match s.calls.get? call with
    | some (.signing identityId request privateKey) =>
      some (s.finish call,
        [.stamped call
          (stampFinish ed25519 canonicalize toBase64 s identityId request privateKey answer)])
    | _ => none

/-- **Key operations, rotations and stampers, interleaved at every await.** -/
def keyManagerMachine : Machine (KeyManagerState κ) (KeyManagerAction κ) KeyManagerEvent where
  init := ⟨.empty, .empty, .empty⟩
  step := keyManagerStep ed25519 canonicalize toBase64

end Step

end Signet
