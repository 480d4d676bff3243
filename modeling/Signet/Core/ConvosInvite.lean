import Signet.Lib.Except
import Signet.Lib.JsText
import Signet.Schemas.ResourceId

/-!
# Convos invites

How a host reads the text of an invite: `parseConvosInviteUrl` from the slug to the
payload with its expiry flags, and `decryptConversationToken` from the payload's token
to a conversation id. The hex helpers, the compressed framing, the
checks and the packed format of conversation ids are the source's own; what it imports
(URLs, base64, zlib, protobuf messages, curves and ciphers) is `InvitePrimitives`.

Two definitions are not from the source. `encryptToken` takes the nonce that the
source draws, and `EncryptsConversation` says which conversation id a token holds; with
an authenticated cipher the id is unique (`EncryptsConversation.unique`) and the one
that decryption finds (`encryptsConversation_of_decrypt`).
-/

namespace Signet

open Lib

/-! ### Hex -/

/-- `parseInt(pair, 16)` as it is stored in a `Uint8Array`: not a number is zero, and
a number is taken modulo 256. -/
def parseHexPair (a b : Nat) : UInt8 :=
  match hexDigit? a, hexDigit? b with
  | some x, some y => UInt8.ofNat (16 * x + y)
  | some x, none => UInt8.ofNat x
  -- `parseInt` skips white space and reads a sign
  | none, some y =>
    if isJsSpace a || a = 0x2b then UInt8.ofNat y
    else if a = 0x2d then UInt8.ofNat (256 - y)
    else 0
  | none, none => 0

/-- The pairs of the loop of `hexToBytes`; an odd unit at the end is not read. -/
def parseHexPairs : List Nat → Bytes
  | a :: b :: rest => parseHexPair a b :: parseHexPairs rest
  | _ => []

def hexToBytes (hex : String) : Bytes :=
  match codeUnits hex with
  | 0x30 :: 0x78 :: clean => parseHexPairs clean
  | clean => parseHexPairs clean

/-- The digits of `toString(16)` of one byte, padded to two. -/
def byteToHex (b : UInt8) : List Char :=
  let digit (n : Nat) : Char := Char.ofNat (if n < 10 then 0x30 + n else 0x61 + (n - 10))
  [digit (b.toNat / 16), digit (b.toNat % 16)]

def bytesToHex (bytes : Bytes) : String :=
  String.ofList (bytes.flatMap byteToHex)

theorem length_bytesToHex (bytes : Bytes) :
    (bytesToHex bytes).toList.length = 2 * bytes.length := by
  induction bytes with
  | nil => rfl
  | cons b bytes ih =>
    simp only [bytesToHex, List.flatMap_cons, String.toList_ofList] at ih ⊢
    rw [List.length_append, ih]
    simp only [byteToHex, List.length_cons, List.length_nil]
    omega

/-- `slice(start, stop)` of a string of hex digits. -/
def hexSlice (hex : String) (start stop : Nat) : String :=
  String.ofList ((hex.toList.take stop).drop start)

/-! ### What the parser imports -/

/-- A URL, as the parser reads it. -/
structure InviteUrl where
  /-- `searchParams.get("i")`. -/
  i : Option String
  /-- `searchParams.get("code")`. -/
  code : Option String
  pathname : String

/-- `DecodedSignedInvite`; an absent field decodes to no bytes. -/
structure SignedInvite where
  payload : Bytes
  signature : Bytes
  deriving DecidableEq

/-- `DecodedInvitePayload`; an absent text decodes to the empty one. -/
structure InvitePayload where
  conversationToken : Bytes
  creatorInboxId : Bytes
  tag : String
  name : String
  description : String
  imageURL : String
  conversationExpiresAtUnix : Option Int
  expiresAtUnix : Option Int
  expiresAfterUse : Bool
  deriving DecidableEq

/-- What the invite code takes from its platform and from packages. A primitive that
throws returns `none`, or the message where the source reports it. -/
structure InvitePrimitives where
  /-- `new URL(...)`. -/
  parseUrl : String → Option InviteUrl
  /-- `Buffer.from(text, "base64")`. -/
  fromBase64 : String → Bytes
  /-- `inflateSync(data, { maxOutputLength })`. -/
  inflateSync : Bytes → Except String Bytes
  /-- `SignedInviteType.decode`. -/
  decodeSignedInvite : Bytes → Except String SignedInvite
  /-- `InvitePayloadType.decode`. -/
  decodeInvitePayload : Bytes → Except String InvitePayload
  /-- `new TextDecoder().decode`. -/
  decodeText : Bytes → String
  sha256 : Bytes → Bytes
  /-- `Signature.fromCompact(compact).addRecoveryBit(bit).recoverPublicKey(hash)`, in hex. -/
  recoverPublicKey : Bytes → UInt8 → Bytes → Option String
  /-- `secp256k1.getPublicKey(privateKey, false)`. -/
  getPublicKey : Bytes → Option Bytes
  /-- `hkdf(sha256, key, salt, info, 32)`. -/
  hkdf : Bytes → Bytes → Bytes → Bytes
  /-- `chacha20poly1305(key, nonce, aad).encrypt(plaintext)`. -/
  encrypt : Bytes → Bytes → Bytes → Bytes → Bytes
  /-- `chacha20poly1305(key, nonce, aad).decrypt(ciphertext)`. -/
  decrypt : Bytes → Bytes → Bytes → Bytes → Except String Bytes

/-- `new TextEncoder().encode`. -/
def encodeText (text : String) : Bytes :=
  text.toList.flatMap String.utf8EncodeChar

variable (prims : InvitePrimitives)

/-! ### The parser -/

structure ParsedConvosInvite where
  signedInvitePayloadBytes : Bytes
  signedInviteSignature : Bytes
  conversationToken : Bytes
  creatorInboxId : String
  tag : String
  name : Option String
  description : Option String
  imageUrl : Option String
  isExpired : Bool
  isConversationExpired : Bool
  expiresAfterUse : Bool
  deriving DecidableEq

/-- `text || undefined`. -/
def orUndefined (text : String) : Option String :=
  if text = "" then none else some text

def extractSlug (input : String) : String :=
  let trimmed := jsTrim input
  match prims.parseUrl trimmed with
  | none => trimmed
  | some url =>
    let parts := (url.pathname.toList.splitOn '/').map String.ofList |>.filter (· ≠ "")
    ((url.i.bind orUndefined).or ((url.code.bind orUndefined).or parts.getLast?)).getD trimmed

def base64UrlDecode (str : String) : Bytes :=
  let base64 := str.toList.map fun c => if c = '-' then '+' else if c = '_' then '/' else c
  let padLength := (4 - (codeUnits str).length % 4) % 4
  prims.fromBase64 (String.ofList (base64 ++ List.replicate padLength '='))

/-- `DEFAULT_COMPRESSION_MARKER`. -/
def compressionMarker : UInt8 := 0x1f

/-- `DEFAULT_MAX_DECOMPRESSED_SIZE`. -/
def maxDecompressedSize : Nat := 1024 * 1024

/-- `decompress`, with the error field of its caller. -/
def decompress (errorField : String) (data : Bytes) : Result Bytes :=
  if data.head? ≠ some compressionMarker then .ok data
  else match data with
  | _ :: b1 :: b2 :: b3 :: b4 :: body =>
    let declaredSize :=
      b1.toNat * 0x1000000 + b2.toNat * 0x10000 + b3.toNat * 0x100 + b4.toNat
    if declaredSize > maxDecompressedSize then
      .error (.validationError errorField
        ("Decompressed size exceeds maximum: " ++ toString declaredSize))
    else match prims.inflateSync body with
    | .error cause =>
      .error (.validationError errorField ("Failed to decompress invite data: " ++ cause))
    | .ok decompressed =>
      if decompressed.length > maxDecompressedSize then
        .error (.validationError errorField
          ("Decompressed size exceeds maximum: " ++ toString decompressed.length))
      else .ok decompressed
  | _ => .error (.validationError errorField "Compressed invite data is truncated")

/-- The error of the `catch` around the parser. -/
def parseFailure (cause : String) : SignetError :=
  .validationError "inviteUrl" ("Failed to parse invite: " ++ cause)

/-- Steps 1 to 4 of `parseConvosInviteUrl`: the bytes of the signed invite. -/
def inviteData (input : String) : Result Bytes :=
  let cleanSlug := String.ofList ((extractSlug prims input).toList.filter (· ≠ '*'))
  let decoded := base64UrlDecode prims cleanSlug
  if decoded.isEmpty then .error (.validationError "inviteUrl" "Empty invite data")
  else decompress prims "inviteUrl" decoded

/-- Step 5: the signed invite. -/
def decodeSigned (data : Bytes) : Result SignedInvite := do
  let signedInvite ← (prims.decodeSignedInvite data).mapError parseFailure
  if signedInvite.payload.isEmpty || signedInvite.signature.isEmpty then
    .error (.validationError "inviteUrl" "Invalid SignedInvite: missing payload or signature")
  else .ok signedInvite

/-- Step 6: the payload. -/
def decodePayload (payloadBytes : Bytes) : Result InvitePayload := do
  let payload ← (prims.decodeInvitePayload payloadBytes).mapError parseFailure
  if payload.creatorInboxId.isEmpty then
    .error (.validationError "inviteUrl" "Invalid InvitePayload: missing creatorInboxId")
  else if payload.tag = "" then
    .error (.validationError "inviteUrl" "Invalid InvitePayload: missing tag")
  else .ok payload

/-- An expiry field, in seconds, is set and has passed; zero stands for no expiry. -/
def isPastUnix (nowMs : Nat) (field : Option Int) : Bool :=
  match field with
  | none => false
  | some expiresAt => expiresAt ≠ 0 && expiresAt < (nowMs / 1000 : Nat)

def parseConvosInviteUrl (nowMs : Nat) (input : String) : Result ParsedConvosInvite := do
  let data ← inviteData prims input
  let signedInvite ← decodeSigned prims data
  let payload ← decodePayload prims signedInvite.payload
  .ok {
    signedInvitePayloadBytes := signedInvite.payload
    signedInviteSignature := signedInvite.signature
    conversationToken := payload.conversationToken
    creatorInboxId := bytesToHex payload.creatorInboxId
    tag := payload.tag
    name := orUndefined payload.name
    description := orUndefined payload.description
    imageUrl := orUndefined payload.imageURL
    isExpired := isPastUnix nowMs payload.expiresAtUnix
    isConversationExpired := isPastUnix nowMs payload.conversationExpiresAtUnix
    expiresAfterUse := payload.expiresAfterUse }

/-! ### Conversation tokens -/

/-- The salt of `convosInviteCrypto`. -/
def inviteSalt : Bytes := encodeText "ConvosInviteV1"

/-- `DEFAULT_FORMAT_VERSION`. -/
def tokenFormatVersion : UInt8 := 1

def deriveTokenKey (privateKeyBytes : Bytes) (inboxId : String) : Bytes :=
  prims.hkdf privateKeyBytes inviteSalt (encodeText ("inbox:" ++ inboxId))

/-- `encryptToken`, with the nonce that it draws. -/
def encryptToken (nonce plaintext : Bytes) (inboxId : String) (privateKeyBytes : Bytes) : Bytes :=
  tokenFormatVersion :: nonce ++
    prims.encrypt (deriveTokenKey prims privateKeyBytes inboxId) nonce (encodeText inboxId)
      plaintext

/-- `String(byte)` of an array access. -/
def byteOrUndefined (data : Bytes) : String :=
  match data.head? with
  | none => "undefined"
  | some b => toString b.toNat

/-- `decryptToken`; an error is the message thrown. -/
def decryptToken (tokenBytes : Bytes) (inboxId : String) (privateKeyBytes : Bytes) :
    Except String Bytes :=
  if tokenBytes.head? ≠ some tokenFormatVersion then
    .error ("Unsupported token version: " ++ byteOrUndefined tokenBytes)
  else
    prims.decrypt (deriveTokenKey prims privateKeyBytes inboxId) ((tokenBytes.drop 1).take 12)
      (encodeText inboxId) (tokenBytes.drop 13)

/-- `unpackConversationId`; an error is the message thrown. -/
def unpackConversationId (data : Bytes) : Except String String :=
  match data with
  | 0x01 :: rest =>
    let hex := bytesToHex (rest.take 16)
    .ok ("-".intercalate [hexSlice hex 0 8, hexSlice hex 8 12, hexSlice hex 12 16,
      hexSlice hex 16 20, hexSlice hex 20 32])
  | 0x02 :: [] => .error "Invalid packed conversation ID"
  -- a length byte of zero announces two bytes of length
  | 0x02 :: 0x00 :: high :: low :: text =>
    .ok (prims.decodeText (text.take (high.toNat * 256 + low.toNat)))
  | 0x02 :: 0x00 :: _ => .error "Invalid packed conversation ID length"
  | 0x02 :: length :: text => .ok (prims.decodeText (text.take length.toNat))
  | data => .error ("Unknown conversation ID tag: " ++ byteOrUndefined data)

def decryptConversationToken (tokenBytes : Bytes) (inboxId : String) (privateKeyBytes : Bytes) :
    Except String String := do
  unpackConversationId prims (← decryptToken prims tokenBytes inboxId privateKeyBytes)

/-! ### The conversation in a token -/

/-- **An authenticated cipher.** It decrypts what it has encrypted, and nothing else:
a ciphertext that decrypts is the encryption of its plaintext. Nonces have 12 bytes. -/
structure AuthenticatedCipher : Prop where
  /-- Decryption inverts encryption. -/
  decrypt_encrypt : ∀ key nonce aad plaintext, nonce.length = 12 →
    prims.decrypt key nonce aad (prims.encrypt key nonce aad plaintext) = .ok plaintext
  /-- What decrypts has been encrypted. -/
  encrypt_of_decrypt : ∀ key nonce aad ciphertext plaintext,
    prims.decrypt key nonce aad ciphertext = .ok plaintext →
      nonce.length = 12 ∧ prims.encrypt key nonce aad plaintext = ciphertext

/-- The token is an encryption, under the key and for the inbox, of the packed
conversation id. -/
def EncryptsConversation (inboxId : String) (privateKeyBytes token : Bytes)
    (conversationId : String) : Prop :=
  ∃ nonce packed : Bytes, nonce.length = 12 ∧
    token = encryptToken prims nonce packed inboxId privateKeyBytes ∧
    unpackConversationId prims packed = .ok conversationId

variable {prims}

/-- Decryption of a token undoes its encryption. -/
theorem decryptToken_encryptToken (hcipher : AuthenticatedCipher prims) {nonce : Bytes}
    (hnonce : nonce.length = 12) (packed : Bytes) (inboxId : String) (key : Bytes) :
    decryptToken prims (encryptToken prims nonce packed inboxId key) inboxId key =
      .ok packed := by
  have hhead : (encryptToken prims nonce packed inboxId key).head? =
      some tokenFormatVersion := rfl
  have htake : ((encryptToken prims nonce packed inboxId key).drop 1).take 12 = nonce := by
    show (nonce ++ _).take 12 = nonce
    rw [← hnonce, List.take_left]
  have hdrop : (encryptToken prims nonce packed inboxId key).drop 13 =
      prims.encrypt (deriveTokenKey prims key inboxId) nonce (encodeText inboxId) packed := by
    show (nonce ++ _).drop 12 = _
    rw [← hnonce, List.drop_left]
  unfold decryptToken
  rw [if_neg (by rw [hhead]; simp), htake, hdrop]
  exact hcipher.decrypt_encrypt _ _ _ _ hnonce

theorem encryptToken_of_decryptToken (hcipher : AuthenticatedCipher prims) {token packed : Bytes}
    {inboxId : String} {key : Bytes}
    (h : decryptToken prims token inboxId key = .ok packed) :
    ∃ nonce : Bytes, nonce.length = 12 ∧
      token = encryptToken prims nonce packed inboxId key := by
  unfold decryptToken at h
  by_cases hhead : token.head? = some tokenFormatVersion
  · rw [if_neg (by simpa using hhead)] at h
    obtain ⟨hnonce, hcipherText⟩ := hcipher.encrypt_of_decrypt _ _ _ _ _ h
    refine ⟨(token.drop 1).take 12, hnonce, ?_⟩
    cases token with
    | nil => cases hhead
    | cons version body =>
      obtain rfl : version = tokenFormatVersion := Option.some.inj hhead
      show _ = tokenFormatVersion :: body.take 12 ++ prims.encrypt _ _ _ packed
      -- the ciphertext is what follows the nonce
      rw [show prims.encrypt _ _ _ packed = body.drop 12 from hcipherText, List.cons_append,
        List.take_append_drop]
  · rw [if_pos hhead] at h
    cases h

/-- **Decryption finds the conversation that the token holds.** -/
theorem encryptsConversation_of_decrypt (hcipher : AuthenticatedCipher prims) {token : Bytes}
    {inboxId conversationId : String} {key : Bytes}
    (h : decryptConversationToken prims token inboxId key = .ok conversationId) :
    EncryptsConversation prims inboxId key token conversationId := by
  obtain ⟨packed, hdecrypt, hunpack⟩ := bind_eq_ok.1 h
  obtain ⟨nonce, hnonce, htoken⟩ := encryptToken_of_decryptToken hcipher hdecrypt
  exact ⟨nonce, packed, hnonce, htoken, hunpack⟩

theorem EncryptsConversation.decrypt (hcipher : AuthenticatedCipher prims) {token : Bytes}
    {inboxId conversationId : String} {key : Bytes}
    (h : EncryptsConversation prims inboxId key token conversationId) :
    decryptConversationToken prims token inboxId key = .ok conversationId := by
  obtain ⟨nonce, packed, hnonce, rfl, hunpack⟩ := h
  unfold decryptConversationToken
  rw [decryptToken_encryptToken hcipher hnonce]
  exact hunpack

/-- **A token holds one conversation.** -/
theorem EncryptsConversation.unique (hcipher : AuthenticatedCipher prims) {token : Bytes}
    {inboxId left right : String} {key : Bytes}
    (hl : EncryptsConversation prims inboxId key token left)
    (hr : EncryptsConversation prims inboxId key token right) : left = right :=
  Except.ok.inj ((hl.decrypt hcipher).symm.trans (hr.decrypt hcipher))

end Signet
