import Signet.Core.ConvosInvite
import Signet.Seals.Build

/-!
# The seal stampers

The three `sign` functions of the repository that make an envelope of a payload: two of
the keys package, over a `KeyBackend` and over the compat `KeyManager`, and one of the
seals package, over a `SigningKeyHandle`. What the key store answers is part of a
`SealStamper`; hashing and base64 are `StamperPrimitives`.

They differ in the key id they put on the envelope. `keyId_isResourceId_iff`: it is a
`KeyId` only from a signing key whose fingerprint is one.
-/

namespace Signet

open Lib

/-- What the stampers import. -/
structure StamperPrimitives where
  sha256 : Bytes → Bytes
  /-- `toBase64`, and `btoa` of the bytes as characters. -/
  toBase64 : Bytes → String

/-- What `KeyBackend.sign` returns. -/
structure BackendSignature where
  signature : Bytes
  publicKey : Bytes

/-- An `OperationalKey`, as `createOperationalKeyRecord` makes it: its public key is the
raw key in hex. -/
structure OperationalKey where
  /-- `exportPublicKey`. -/
  rawPublicKey : Bytes

def OperationalKey.publicKey (key : OperationalKey) : String :=
  bytesToHex key.rawPublicKey

/-- A stamper, with what its key store answers when it signs. -/
inductive SealStamper where
  /-- `createSealStamper(backend, walletId, accountIndex)` of the keys package. -/
  | keyBackend (answer : Result BackendSignature)
  /-- `createSealStamperCompat(keyManager, identityId)`: the answers of
  `signWithOperationalKey` and `getOperationalKey`. -/
  | compat (signature : Result Bytes) (key : Result OperationalKey)
  /-- `createSealStamper` of the seals package: what `signingKey.sign` returns or throws, a
  structured error or another, and `signingKey.fingerprint()`. -/
  | signingKey (signature : Except (Option SignetError) Bytes) (fingerprint : String)

/-- An envelope around a payload alone. -/
def stampedEnvelope (payload : SealPayload) (signature keyId : String) : SealEnvelope where
  chain := ⟨payload, none, ⟨[], [], []⟩⟩
  signed := ⟨signature, keyId⟩

section

variable (prims : StamperPrimitives)

/-- `toKeyId`: the first four bytes of the digest. -/
def toKeyId (publicKey : Bytes) : String :=
  "key_" ++ bytesToHex ((prims.sha256 publicKey).take 4)

/-- `signBytes` of the seals package, from the settled `signingKey.sign`. -/
def signBytes (signature : Except (Option SignetError) Bytes) : Result String :=
  match signature with
  | .ok bytes => .ok (prims.toBase64 bytes)
  | .error (some e) => .error e
  | .error none => .error (.internalError "Seal signing failed")

def SealStamper.sign (payload : SealPayload) : SealStamper → Result SealEnvelope
  | .keyBackend answer => do
    let signed ← answer
    .ok (stampedEnvelope payload (prims.toBase64 signed.signature) (toKeyId prims signed.publicKey))
  | .compat signature key => do
    let bytes ← signature
    let operationalKey ← key
    .ok (stampedEnvelope payload (prims.toBase64 bytes) operationalKey.publicKey)
  | .signingKey signature fingerprint => do
    let base64 ← signBytes prims signature
    .ok (stampedEnvelope payload base64 fingerprint)

variable {prims}

/-! ### Key ids -/

/-- Four bytes of a digest are too few for a `KeyId`. -/
theorem toKeyId_not_keyId (publicKey : Bytes) :
    isResourceId .key (toKeyId prims publicKey) = false := by
  by_contra h
  have hlength := length_of_isResourceId (Bool.of_not_eq_false h)
  -- four bytes of the digest are eight digits, and a `KeyId` has sixteen
  have htake : ((prims.sha256 publicKey).take 4).length ≤ 4 := List.length_take_le _ _
  rw [toKeyId, String.toList_append, List.length_append, length_bytesToHex] at hlength
  have hword : "key_".toList.length = 4 := rfl
  have hprefix : (resourcePrefix .key).toList.length = 4 := rfl
  rw [hword, hprefix, resourceIdHexLength] at hlength
  omega

theorem bytesToHex_not_keyId (bytes : Bytes) : isResourceId .key (bytesToHex bytes) = false := by
  cases bytes with
  | nil => decide
  | cons b bytes =>
    have hdigit : b.toNat / 16 < 16 := by
      have := b.toNat_lt
      omega
    -- no digit is the first letter of the prefix
    have hhead : ∀ n < 16, Char.ofNat (if n < 10 then 0x30 + n else 0x61 + (n - 10)) ≠ 'k' := by
      decide
    have hfalse : List.isPrefixOf (resourcePrefix .key).toList (bytesToHex (b :: bytes)).toList =
        false := by
      simp only [bytesToHex, List.flatMap_cons, String.toList_ofList, byteToHex]
      show ('k' == _ && _) = false
      rw [beq_eq_false_iff_ne.2 (hhead _ hdigit).symm, Bool.false_and]
    simp only [isResourceId, hfalse, Bool.false_and]

theorem keyId_isResourceId_iff {stamper : SealStamper} {payload : SealPayload}
    {stamped : SealEnvelope} (h : stamper.sign prims payload = .ok stamped) :
    isResourceId .key stamped.signed.keyId = true ↔ ∃ signature fingerprint,
      stamper = .signingKey signature fingerprint ∧ isResourceId .key fingerprint = true := by
  cases stamper with
  -- the backend stamps with a truncated digest, the compat manager with the key in hex
  | keyBackend answer =>
    obtain ⟨signed, -, hstamped⟩ := bind_eq_ok.1 h
    obtain rfl := Except.ok.inj hstamped
    rw [stampedEnvelope, toKeyId_not_keyId]
    simp
  | compat signature key =>
    obtain ⟨bytes, -, hkey⟩ := bind_eq_ok.1 h
    obtain ⟨operationalKey, -, hstamped⟩ := bind_eq_ok.1 hkey
    obtain rfl := Except.ok.inj hstamped
    rw [stampedEnvelope, OperationalKey.publicKey, bytesToHex_not_keyId]
    simp
  -- a signing key answers with an id of its own
  | signingKey signature fingerprint =>
    obtain ⟨base64, -, hstamped⟩ := bind_eq_ok.1 h
    obtain rfl := Except.ok.inj hstamped
    constructor
    · exact fun hkey => ⟨signature, fingerprint, rfl, hkey⟩
    · rintro ⟨signature', fingerprint', heq, hkey⟩
      cases heq
      exact hkey

end

/-! ### A recorded seal -/

namespace RecordedSeal

def input : SealInput :=
  .plain "cred_0123456789abcdef" "op_0123456789abcdef" "conv_0123456789abcdef" ⟨[.send], []⟩

/-- The payload: the input under an id and a time. -/
def payload : SealPayloadType :=
  input.toPayload "seal_0000000000000001" 1700000000000

/-- The public key of the seed of 32 bytes `11`. -/
def publicKey : Bytes :=
  [208, 74, 178, 50, 116, 43, 180, 171, 58, 19, 104, 189, 70, 21, 228, 230, 208, 34, 74, 183, 26,
   1, 107, 175, 133, 32, 163, 50, 201, 119, 135, 55]

/-- The signature of the canonical text of the payload. -/
def signature : Bytes :=
  [39, 165, 208, 129, 82, 9, 151, 67, 86, 176, 36, 173, 92, 31, 39, 45, 2, 119, 162, 241, 243, 72,
   221, 231, 25, 71, 135, 103, 1, 151, 245, 150, 204, 23, 207, 198, 28, 115, 132, 183, 200, 219,
   66, 20, 248, 35, 56, 215, 30, 0, 179, 157, 0, 38, 154, 243, 192, 110, 222, 11, 134, 54, 157,
   14]

/-- What the stamper of a key backend puts on the envelope. -/
def signed : Signature where
  signature := "J6XQgVIJl0NWsCStXB8nLQJ3ovHzSN3nGUeHZwGX9ZbMF8/GHHOEt8jbQhT4IzjXHgCznQAmmvPA" ++
    "bt4LhjadDg=="
  keyId := "key_10ba682c"

/-- The digest of the public key. -/
def digest : Bytes :=
  [16, 186, 104, 44, 138, 209, 53, 19, 151, 30, 139, 86, 136, 26, 171, 139, 215, 2, 187, 128, 119,
   150, 236, 168, 25, 50, 199, 53, 169, 77, 110, 109]

/-- What the stampers import, by its recorded values. -/
def stamperPrimitives : StamperPrimitives where
  sha256 bytes := if bytes = publicKey then digest else []
  toBase64 bytes := if bytes = signature then signed.signature else ""

def keyBackend : SealStamper := .keyBackend (.ok ⟨signature, publicKey⟩)

/-- A signing key with a `KeyId` for its fingerprint has signed. -/
def signingKey : SealStamper := .signingKey (.ok signature) "key_feedc0defeedbabe"

theorem toBase64_signature : stamperPrimitives.toBase64 signature = signed.signature := by
  simp only [stamperPrimitives, if_true]

theorem keyBackend_sign (payload : SealPayload) :
    keyBackend.sign stamperPrimitives payload =
      .ok (stampedEnvelope payload signed.signature signed.keyId) := by
  have hdigest : stamperPrimitives.sha256 publicKey = digest := by
    simp only [stamperPrimitives, if_true]
  have hkeyId : toKeyId stamperPrimitives publicKey = signed.keyId := by
    rw [toKeyId, hdigest]
    decide
  show Except.ok (stampedEnvelope payload (stamperPrimitives.toBase64 signature)
    (toKeyId stamperPrimitives publicKey)) = _
  rw [toBase64_signature, hkeyId]

theorem signingKey_sign (payload : SealPayload) :
    signingKey.sign stamperPrimitives payload =
      .ok (stampedEnvelope payload signed.signature "key_feedc0defeedbabe") := by
  show Except.ok (stampedEnvelope payload (stamperPrimitives.toBase64 signature) _) = _
  rw [toBase64_signature]

end RecordedSeal

end Signet
