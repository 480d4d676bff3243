import Signet.Lib.Logged
import Signet.Core.ConvosInvite

/-!
# Join requests

`processJoinRequest`, run by the host of a group on the DMs it receives. The content of
a DM is the requester's, every byte of the invite included. `authorizeInvite` is the
pure part, from the content to the group (steps 1 to 5); the tag lookup and the
admission are logged calls.

`AuthorizedBy` states what a request must carry for a group, in terms of the decoded
messages and of two ideals: the payloads the holder of a key has signed (`signed`), and
an authenticated cipher for the tokens. `joinRequest_authorized` is the result: either
the requester is added, once and to the group the request is authorized for, or nobody
is added and the answer is an error.
-/

namespace Signet

open Lib

/-! ### The content of a request -/

/-- A decoded message content, `unknown` in the source. -/
inductive DecodedContent where
  | string (text : String)
  /-- A `Uint8Array`. -/
  | bytes (data : Bytes)
  /-- An object of any other kind, by its members. -/
  | object (members : List (String × DecodedContent))
  /-- Any value that is neither text nor an object. -/
  | other

/-- Property access on a value that may be an object. -/
def DecodedContent.member? (name : String) : DecodedContent → Option DecodedContent
  | .object members => (members.find? (·.1 = name)).map (·.2)
  | _ => none

def DecodedContent.stringMember? (name : String) (value : DecodedContent) : Option String :=
  match value.member? name with
  | some (.string text) => some text
  | _ => none

/-- `isJoinRequestShape`, with the slug that it finds. -/
def joinRequestSlug (value : DecodedContent) : Option String :=
  value.stringMember? "inviteSlug"

/-- `isEncodedContentEnvelope`, with the content that it finds. -/
def encodedContent (value : DecodedContent) : Option Bytes :=
  match value.member? "type", value.member? "content" with
  | some type, some (.bytes content) =>
    if (type.stringMember? "authorityId").isSome && (type.stringMember? "typeId").isSome then
      some content
    else none
  | _, _ => none

/-- `extractJoinRequestContent`, by the slug; `jsonParse` is `JSON.parse`, `none` where
it throws. -/
def extractJoinRequestContent (prims : InvitePrimitives)
    (jsonParse : String → Option DecodedContent) (value : DecodedContent) : Option String :=
  match joinRequestSlug value with
  | some slug => some slug
  | none =>
    (encodedContent value).bind fun content =>
      (jsonParse (prims.decodeText content)).bind joinRequestSlug

/-- `inviteText`; the empty one is none. -/
def inviteText (prims : InvitePrimitives) (jsonParse : String → Option DecodedContent)
    (content : DecodedContent) : Option String :=
  let text := (extractJoinRequestContent prims jsonParse content).or
    (match content with
      | .string text => some text
      | _ => none)
  text.bind orUndefined

/-! ### The host -/

inductive HostCall where
  | getGroupInviteTag (groupId : String)
  | addMembersToGroup (groupId : String) (inboxIds : List String)
  deriving DecidableEq

/-- The group and the new members of an admission. -/
def HostCall.addition? : HostCall → Option (String × List String)
  | .getGroupInviteTag _ => none
  | .addMembersToGroup groupId inboxIds => some (groupId, inboxIds)

/-- `ProcessJoinRequestDeps`: the host, by its answers. -/
structure ProcessJoinRequestDeps where
  walletPrivateKeyHex : String
  creatorInboxId : String
  addMembersToGroup : String → List String → Result Unit
  getGroupInviteTag : String → Result (Option String)

structure IncomingJoinMessage where
  senderInboxId : String
  content : DecodedContent

structure JoinRequestResult where
  groupId : String
  requesterInboxId : String
  inviteTag : String
  deriving DecidableEq

def verifySignatureMatchesKey (prims : InvitePrimitives)
    (payloadBytes signatureBytes privateKeyBytes : Bytes) : Bool :=
  if signatureBytes.length ≠ 65 then false
  else match signatureBytes[64]? with
  | none => false
  | some recoveryBit =>
    if recoveryBit > 3 then false
    else
      match prims.recoverPublicKey (signatureBytes.take 64) recoveryBit
          (prims.sha256 payloadBytes), prims.getPublicKey privateKeyBytes with
      | some recovered, some expected => recovered = bytesToHex expected
      -- one of the two has thrown
      | _, _ => false

variable (prims : InvitePrimitives) (jsonParse : String → Option DecodedContent)

def inviteError (reason : String) : SignetError :=
  .validationError "invite" reason

/-- Steps 2 to 4: expiry, signature and creator. -/
def checkInvite (deps : ProcessJoinRequestDeps) (invite : ParsedConvosInvite) : Result Unit :=
  if invite.isExpired then .error (inviteError "Invite has expired")
  else if invite.isConversationExpired then .error (inviteError "Conversation has expired")
  else if verifySignatureMatchesKey prims invite.signedInvitePayloadBytes
      invite.signedInviteSignature (hexToBytes deps.walletPrivateKeyHex) = false then
    .error (inviteError "Invite signature does not match creator wallet key")
  else if invite.creatorInboxId ≠ deps.creatorInboxId then
    .error (inviteError "Invite creator inbox ID does not match")
  else .ok ()

/-- Steps 1 to 5 of `processJoinRequest`: the invite and its group. -/
def authorizeInvite (deps : ProcessJoinRequestDeps) (nowMs : Nat) (content : DecodedContent) :
    Result (ParsedConvosInvite × String) :=
  match inviteText prims jsonParse content with
  | none => .error (inviteError "Join request does not contain an invite")
  | some text => do
    let invite ← parseConvosInviteUrl prims nowMs text
    checkInvite prims deps invite
    let groupId ← (decryptConversationToken prims invite.conversationToken
      invite.creatorInboxId (hexToBytes deps.walletPrivateKeyHex)).mapError fun cause =>
        inviteError ("Failed to decrypt conversation token: " ++ cause)
    .ok (invite, groupId)

/-- Step 6: the stored tag, if there is one, is the invite's. -/
def checkInviteTag (stored : Option String) (tag : String) : Result Unit :=
  if stored = none ∨ stored = some tag then .ok ()
  else .error (inviteError "Invite tag does not match the stored tag for this group")

/-- Steps 6 and 7: compare the stored tag and add the requester. -/
def admitRequester (deps : ProcessJoinRequestDeps) (senderInboxId tag groupId : String) :
    Logged HostCall SignetError JoinRequestResult := do
  let stored ← .call (.getGroupInviteTag groupId) (deps.getGroupInviteTag groupId)
  let _ ← .ofExcept (checkInviteTag stored tag)
  let _ ← .call (.addMembersToGroup groupId [senderInboxId])
    (deps.addMembersToGroup groupId [senderInboxId])
  .ok ⟨groupId, senderInboxId, tag⟩

def processJoinRequest (deps : ProcessJoinRequestDeps) (nowMs : Nat)
    (message : IncomingJoinMessage) : Logged HostCall SignetError JoinRequestResult := do
  let (invite, groupId) ← .ofExcept (authorizeInvite prims jsonParse deps nowMs message.content)
  admitRequester deps message.senderInboxId invite.tag groupId

/-- The admissions among the calls of a run. -/
def additions {α : Type} (run : Logged HostCall SignetError α) :
    List (String × List String) :=
  run.calls.filterMap HostCall.addition?

/-! ### Authorized requests -/

/-- The request carries the signed invite: its text is the encoding of one. -/
def CarriesInvite (content : DecodedContent) (signedInvite : SignedInvite) : Prop :=
  ∃ text data, inviteText prims jsonParse content = some text ∧
    inviteData prims text = .ok data ∧ prims.decodeSignedInvite data = .ok signedInvite

/-- **Ideal signatures.** `signed` holds of the payloads that the holder of a key has
signed; recovering the public key of the key from a payload and a signature shows that
the payload is one of them. -/
def UnforgeableSignatures (signed : Bytes → Bytes → Prop) : Prop :=
  ∀ privateKeyBytes publicKey payload compact recoveryBit,
    prims.getPublicKey privateKeyBytes = some publicKey →
    prims.recoverPublicKey compact recoveryBit (prims.sha256 payload) =
      some (bytesToHex publicKey) →
    signed privateKeyBytes payload

/-- The expiry field is set and its second has passed. -/
def HasExpired (nowMs : Nat) (field : Option Int) : Prop :=
  ∃ expiresAt : Int, field = some expiresAt ∧ expiresAt ≠ 0 ∧ expiresAt < (nowMs / 1000 : Nat)

/-- **What admits a requester to a group**: a signed invite with its payload, read by
the host at a time. -/
structure AuthorizedBy (signed : Bytes → Bytes → Prop) (deps : ProcessJoinRequestDeps)
    (nowMs : Nat) (content : DecodedContent) (signedInvite : SignedInvite)
    (payload : InvitePayload) (groupId : String) : Prop where
  carries : CarriesInvite prims jsonParse content signedInvite
  /-- The payload is what the signed bytes decode to. -/
  decodes : prims.decodeInvitePayload signedInvite.payload = .ok payload
  /-- These bytes are signed with the key of the host. -/
  signed : signed (hexToBytes deps.walletPrivateKeyHex) signedInvite.payload
  /-- The invite has not expired. -/
  current : ¬ HasExpired nowMs payload.expiresAtUnix
  conversation_current : ¬ HasExpired nowMs payload.conversationExpiresAtUnix
  /-- The creator is the host. -/
  creator : bytesToHex payload.creatorInboxId = deps.creatorInboxId
  /-- The group is the conversation in the token. -/
  token : EncryptsConversation prims deps.creatorInboxId (hexToBytes deps.walletPrivateKeyHex)
    payload.conversationToken groupId
  /-- The token holds no other. -/
  token_unique : ∀ other, EncryptsConversation prims deps.creatorInboxId
    (hexToBytes deps.walletPrivateKeyHex) payload.conversationToken other → other = groupId
  /-- The tag stored for the group, if there is one, is the invite's. -/
  tag : ∃ stored, deps.getGroupInviteTag groupId = .ok stored ∧
    ∀ storedTag, stored = some storedTag → storedTag = payload.tag

variable {prims jsonParse}

theorem isPastUnix_iff {nowMs : Nat} {field : Option Int} :
    isPastUnix nowMs field = true ↔ HasExpired nowMs field := by
  cases field with
  | none => simp [isPastUnix, HasExpired]
  | some expiresAt => simp [isPastUnix, HasExpired]

/-- **What the parser has read**: the signed invite and the payload in it. -/
theorem parseConvosInviteUrl_ok {nowMs : Nat} {input : String} {invite : ParsedConvosInvite}
    (h : parseConvosInviteUrl prims nowMs input = .ok invite) :
    ∃ data signedInvite payload, inviteData prims input = .ok data ∧
      prims.decodeSignedInvite data = .ok signedInvite ∧
      prims.decodeInvitePayload signedInvite.payload = .ok payload ∧
      invite = {
        signedInvitePayloadBytes := signedInvite.payload
        signedInviteSignature := signedInvite.signature
        conversationToken := payload.conversationToken
        creatorInboxId := bytesToHex payload.creatorInboxId
        tag := payload.tag
        name := orUndefined payload.name
        description := orUndefined payload.description
        imageUrl := orUndefined payload.imageURL
        isExpired := isPastUnix nowMs payload.expiresAtUnix
        isConversationExpired := isPastUnix nowMs payload.conversationExpiresAtUnix
        expiresAfterUse := payload.expiresAfterUse } := by
  obtain ⟨data, hdata, h⟩ := bind_eq_ok.1 h
  obtain ⟨signedInvite, hsigned, h⟩ := bind_eq_ok.1 h
  obtain ⟨payload, hpayload, h⟩ := bind_eq_ok.1 h
  refine ⟨data, signedInvite, payload, hdata, ?_, ?_, (Except.ok.inj h).symm⟩
  · obtain ⟨decoded, hdecoded, hcheck⟩ := bind_eq_ok.1 hsigned
    obtain ⟨_, rfl⟩ := guard_eq_ok.1 hcheck
    exact mapError_eq_ok.1 hdecoded
  · obtain ⟨decoded, hdecoded, hcheck⟩ := bind_eq_ok.1 hpayload
    -- two checks follow the decoder
    split at hcheck
    · cases hcheck
    · obtain ⟨_, rfl⟩ := guard_eq_ok.1 hcheck
      exact mapError_eq_ok.1 hdecoded

theorem signed_of_verifySignature {signed : Bytes → Bytes → Prop}
    (hsig : UnforgeableSignatures prims signed) {payload signature key : Bytes}
    (h : verifySignatureMatchesKey prims payload signature key = true) :
    signed key payload := by
  unfold verifySignatureMatchesKey at h
  split at h
  · cases h
  split at h
  · cases h
  split at h
  · cases h
  split at h
  · rename_i recovered expected hrecovered hexpected
    rw [of_decide_eq_true h] at hrecovered
    exact hsig key expected payload _ _ hexpected hrecovered
  · cases h

/-- The four checks of an invite. -/
structure CheckedInvite (prims : InvitePrimitives) (deps : ProcessJoinRequestDeps)
    (invite : ParsedConvosInvite) : Prop where
  current : invite.isExpired = false
  conversation_current : invite.isConversationExpired = false
  verified : verifySignatureMatchesKey prims invite.signedInvitePayloadBytes
    invite.signedInviteSignature (hexToBytes deps.walletPrivateKeyHex) = true
  creator : invite.creatorInboxId = deps.creatorInboxId

theorem checkInvite_ok {deps : ProcessJoinRequestDeps} {invite : ParsedConvosInvite} {u : Unit}
    (h : checkInvite prims deps invite = .ok u) : CheckedInvite prims deps invite := by
  unfold checkInvite at h
  by_cases hexpired : invite.isExpired = true
  · rw [if_pos hexpired] at h
    cases h
  rw [if_neg hexpired] at h
  by_cases hconversation : invite.isConversationExpired = true
  · rw [if_pos hconversation] at h
    cases h
  rw [if_neg hconversation] at h
  by_cases hverified : verifySignatureMatchesKey prims invite.signedInvitePayloadBytes
      invite.signedInviteSignature (hexToBytes deps.walletPrivateKeyHex) = false
  · rw [if_pos hverified] at h
    cases h
  rw [if_neg hverified] at h
  exact ⟨eq_false_of_ne_true hexpired, eq_false_of_ne_true hconversation,
    eq_true_of_ne_false hverified, not_not.1 (guard_eq_ok.1 h).1⟩

/-- **An authorized group**: what steps 1 to 5 have found when they name a group. -/
theorem authorizeInvite_ok {deps : ProcessJoinRequestDeps} {nowMs : Nat}
    {content : DecodedContent} {invite : ParsedConvosInvite} {groupId : String}
    (h : authorizeInvite prims jsonParse deps nowMs content = .ok (invite, groupId)) :
    ∃ text, inviteText prims jsonParse content = some text ∧
      parseConvosInviteUrl prims nowMs text = .ok invite ∧ CheckedInvite prims deps invite ∧
      decryptConversationToken prims invite.conversationToken invite.creatorInboxId
        (hexToBytes deps.walletPrivateKeyHex) = .ok groupId := by
  unfold authorizeInvite at h
  cases htext : inviteText prims jsonParse content with
  | none => rw [htext] at h; cases h
  | some text =>
    rw [htext] at h
    obtain ⟨parsed, hparsed, h⟩ := bind_eq_ok.1 h
    obtain ⟨_, hchecked, h⟩ := bind_eq_ok.1 h
    obtain ⟨group, hgroup, h⟩ := bind_eq_ok.1 h
    obtain ⟨rfl, rfl⟩ := Prod.mk.inj (Except.ok.inj h)
    exact ⟨text, rfl, hparsed, checkInvite_ok hchecked, mapError_eq_ok.1 hgroup⟩

theorem authorizeInvite_of_checks {deps : ProcessJoinRequestDeps} {nowMs : Nat}
    {content : DecodedContent} {text : String} {invite : ParsedConvosInvite} {groupId : String}
    (htext : inviteText prims jsonParse content = some text)
    (hparse : parseConvosInviteUrl prims nowMs text = .ok invite)
    (hcheck : checkInvite prims deps invite = .ok ())
    (hgroup : decryptConversationToken prims invite.conversationToken invite.creatorInboxId
      (hexToBytes deps.walletPrivateKeyHex) = .ok groupId) :
    authorizeInvite prims jsonParse deps nowMs content = .ok (invite, groupId) := by
  simp only [authorizeInvite, htext]
  rw [hparse]
  show (checkInvite prims deps invite >>= _) = _
  rw [hcheck]
  show ((decryptConversationToken prims _ _ _).mapError _ >>= _) = _
  rw [hgroup]
  rfl

theorem inviteText_string {text : String} (h : text ≠ "") :
    inviteText prims jsonParse (.string text) = some text :=
  if_neg h

theorem checkInviteTag_ok {stored : Option String} {tag : String} {u : Unit}
    (h : checkInviteTag stored tag = .ok u) :
    ∀ storedTag, stored = some storedTag → storedTag = tag := by
  rintro storedTag rfl
  unfold checkInviteTag at h
  split at h
  · rename_i hstored
    simpa using hstored
  · cases h

/-- **An admission**: the requester alone is added, to the one group, if the stored tag
is known and matches. -/
theorem additions_admitRequester (deps : ProcessJoinRequestDeps)
    (senderInboxId tag groupId : String) :
    (additions (admitRequester deps senderInboxId tag groupId) = [(groupId, [senderInboxId])] ∧
      ∃ stored, deps.getGroupInviteTag groupId = .ok stored ∧
        ∀ storedTag, stored = some storedTag → storedTag = tag) ∨
    (additions (admitRequester deps senderInboxId tag groupId) = [] ∧
      ∃ e, (admitRequester deps senderInboxId tag groupId).value = .error e) := by
  unfold additions admitRequester
  cases hstored : deps.getGroupInviteTag groupId with
  | error e => exact .inr ⟨rfl, e, rfl⟩
  | ok stored =>
    cases htag : checkInviteTag stored tag with
    | error e =>
      right
      constructor
      · rw [Logged.calls_bind_of_ok (Logged.value_call _ _),
          Logged.calls_bind_of_error (by rw [Logged.value_ofExcept, htag])]
        rfl
      · refine ⟨e, ?_⟩
        show (Logged.bind (Logged.ofExcept (checkInviteTag stored tag)) _).value = _
        rw [htag]
        rfl
    | ok u =>
      left
      refine ⟨?_, stored, rfl, checkInviteTag_ok htag⟩
      -- whatever the addition answers, it is the last call
      cases hadd : deps.addMembersToGroup groupId [senderInboxId] with
      | error e =>
        simp only [Logged.calls_bind, Logged.value_call, Logged.value_ofExcept, htag]
        rfl
      | ok added =>
        simp only [Logged.calls_bind, Logged.value_call, Logged.value_ofExcept, htag]
        rfl

section

variable {signed : Bytes → Bytes → Prop} {deps : ProcessJoinRequestDeps} {nowMs : Nat}
  {content : DecodedContent} {invite : ParsedConvosInvite} {groupId : String}

/-- **The checks authorize the group**, once its stored tag is the invite's. -/
theorem authorizedBy_of_checks (hsig : UnforgeableSignatures prims signed)
    (hcipher : AuthenticatedCipher prims)
    (hauthorize : authorizeInvite prims jsonParse deps nowMs content = .ok (invite, groupId))
    {stored : Option String} (hstored : deps.getGroupInviteTag groupId = .ok stored)
    (htag : ∀ storedTag, stored = some storedTag → storedTag = invite.tag) :
    ∃ signedInvite payload,
      AuthorizedBy prims jsonParse signed deps nowMs content signedInvite payload groupId := by
  obtain ⟨text, htext, hparse, hchecked, hdecrypt⟩ := authorizeInvite_ok hauthorize
  obtain ⟨data, signedInvite, payload, hdata, hsigned, hpayload, rfl⟩ :=
    parseConvosInviteUrl_ok hparse
  -- the token was read for the creator in the invite, who is the host
  have hcreator : bytesToHex payload.creatorInboxId = deps.creatorInboxId := hchecked.creator
  have htoken : EncryptsConversation prims deps.creatorInboxId
      (hexToBytes deps.walletPrivateKeyHex) payload.conversationToken groupId := by
    rw [← hcreator]
    exact encryptsConversation_of_decrypt hcipher hdecrypt
  refine ⟨signedInvite, payload, ?_⟩
  exact {
    carries := ⟨text, data, htext, hdata, hsigned⟩
    decodes := hpayload
    signed := signed_of_verifySignature hsig hchecked.verified
    current := fun h => Bool.false_ne_true (hchecked.current ▸ isPastUnix_iff.2 h)
    conversation_current := fun h =>
      Bool.false_ne_true (hchecked.conversation_current ▸ isPastUnix_iff.2 h)
    creator := hcreator
    token := htoken
    token_unique := fun _ hother => hother.unique hcipher htoken
    tag := ⟨stored, hstored, htag⟩ }

end

/-- **A join request adds its sender to the group it is authorized for, or nobody.** In
the second case the answer is an error. -/
theorem joinRequest_authorized {signed : Bytes → Bytes → Prop}
    (hsig : UnforgeableSignatures prims signed) (hcipher : AuthenticatedCipher prims)
    (jsonParse : String → Option DecodedContent) (deps : ProcessJoinRequestDeps) (nowMs : Nat)
    (message : IncomingJoinMessage) :
    (∃ groupId, additions (processJoinRequest prims jsonParse deps nowMs message) =
        [(groupId, [message.senderInboxId])] ∧
      ∃ signedInvite payload, AuthorizedBy prims jsonParse signed deps nowMs message.content
        signedInvite payload groupId) ∨
    (additions (processJoinRequest prims jsonParse deps nowMs message) = [] ∧
      ∃ e, (processJoinRequest prims jsonParse deps nowMs message).value = .error e) := by
  cases hauthorize : authorizeInvite prims jsonParse deps nowMs message.content with
  | error e =>
    right
    unfold processJoinRequest
    rw [hauthorize]
    exact ⟨rfl, e, rfl⟩
  | ok authorized =>
    obtain ⟨invite, groupId⟩ := authorized
    have hrun : processJoinRequest prims jsonParse deps nowMs message =
        admitRequester deps message.senderInboxId invite.tag groupId := by
      unfold processJoinRequest
      rw [hauthorize]
      rfl
    rw [hrun]
    rcases additions_admitRequester deps message.senderInboxId invite.tag groupId with
      ⟨hadded, stored, hstored, htag⟩ | hfailed
    · exact .inl ⟨groupId, hadded, authorizedBy_of_checks hsig hcipher hauthorize hstored htag⟩
    · exact .inr hfailed

namespace RecordedInvite

/-- The slug of an invite to the group `g1` by the inbox `ab`, with the key of 32 bytes
`11`. -/
def slugChars : List Char :=
  ['C', 'i', 's', 'K', 'I', 'Q', 'E', 'A', 'A', 'Q', 'I', 'D', 'B', 'A', 'U', 'G', 'B', 'w', 'g',
   'J', 'C', 'g', 'u', 's', 'I', 'W', 'U', 'p', '9', 'O', 'G', 'V', 's', 't', 'm', 'v', 'L', 'a',
   '0', 'n', 'J', 'N', 'l', 'J', 'O', 'f', 'F', 'L', 'J', 'R', 'I', 'B', 'q', 'x', 'o', 'B', 'd',
   'E', 'g', 'A', 'E', 'k', 'H', '1', 'B', 'g', 'J', 'I', 'U', 'm', 'w', '2', 'p', 'Z', 'G', 'W',
   '2', 'k', '7', 'v', 'k', 'Z', 'l', '4', 'o', 'j', '1', 'A', 'g', 'i', '9', 'F', 'j', 'y', 'F',
   'x', 'e', 'O', 'r', 'p', '0', 'w', 'o', 'g', 'v', 'n', 'L', 'Q', 's', 'u', 'N', 'k', 'F', 'f',
   'j', 'G', 'D', 'k', 'k', 'E', 'f', '_', 'Q', '2', 'O', 'Z', 'P', '9', 'w', 'x', 'k', '8', '6',
   '9', 'G', 'Z', 'R', '8', '2', 'N', '1', 'n', '9', 't', 'w', 'k', 'n', 'W', 'A', 'A']

def slug : String :=
  String.ofList slugChars

/-- What `Buffer.from` gets. -/
def base64 : String :=
  String.ofList ((slugChars.map fun c => if c = '_' then '/' else c) ++ ['=', '='])

/-- The encrypted id of the group, with its authentication tag. -/
def ciphertext : Bytes :=
  [172, 33, 101, 41, 244, 225, 149, 178, 217, 175, 45, 173, 39, 36, 217, 73, 57, 241, 75, 37]

/-- The signature, with the recovery bit. -/
def signature : Bytes :=
  [245, 6, 2, 72, 82, 108, 54, 165, 145, 150, 218, 78, 239, 145, 153, 120, 162, 61, 64, 130, 47,
   69, 143, 33, 113, 120, 234, 233, 211, 10, 32, 190, 114, 208, 178, 227, 100, 21, 248, 198, 14,
   73, 4, 127, 244, 54, 57, 147, 253, 195, 25, 60, 235, 209, 153, 71, 205, 141, 214, 127, 109,
   194, 73, 214, 0]

/-- `sha256` of the payload. -/
def payloadHash : Bytes :=
  [116, 8, 155, 211, 254, 93, 55, 250, 180, 17, 249, 80, 19, 210, 184, 191, 75, 180, 87, 204, 224,
   165, 111, 60, 79, 222, 176, 238, 128, 47, 4, 133]

def tokenKey : Bytes :=
  [75, 58, 37, 163, 208, 29, 20, 113, 233, 252, 37, 109, 195, 226, 169, 94, 144, 131, 177, 42,
   181, 221, 116, 27, 233, 192, 113, 131, 194, 11, 61, 194]

def publicKey : Bytes :=
  [4, 79, 53, 91, 220, 183, 204, 10, 247, 40, 239, 60, 206, 185, 97, 93, 144, 104, 75, 181, 178,
   202, 95, 133, 154, 176, 240, 183, 4, 7, 88, 113, 170, 56, 91, 107, 27, 142, 173, 128, 156, 166,
   116, 84, 217, 104, 63, 207, 43, 160, 52, 86, 214, 254, 44, 74, 190, 43, 7, 240, 251, 219, 178,
   241, 193]

def privateKey : Bytes :=
  List.replicate 32 0x11

/-- The nonce of the token. -/
def nonce : Bytes :=
  [0, 1, 2, 3, 4, 5, 6, 7, 8, 9, 10, 11]

/-- The packed id of the group. -/
def packed : Bytes :=
  [2, 2, 103, 49]

def token : Bytes :=
  1 :: nonce ++ ciphertext

/-- The payload: token, creator, tag and the flag for one use. -/
def payload : Bytes :=
  [10, 33] ++ token ++ [18, 1, 171, 26, 1, 116, 72, 0]

/-- The signed invite. -/
def data : Bytes :=
  [10, 43] ++ payload ++ [18, 65] ++ signature

/-- The arguments of the recorded encryption, its plaintext apart. -/
def IsRecorded (key nonce aad : Bytes) : Prop :=
  key = tokenKey ∧ nonce = RecordedInvite.nonce ∧ aad = encodeText "ab"

instance (key nonce aad : Bytes) : Decidable (IsRecorded key nonce aad) :=
  inferInstanceAs (Decidable (_ ∧ _))

/-- Encryption: the recorded one, and appending an empty tag to any other plaintext. -/
def encrypt (key nonce aad plaintext : Bytes) : Bytes :=
  if IsRecorded key nonce aad ∧ plaintext = packed then ciphertext
  else plaintext ++ List.replicate 16 0

/-- Its inverse. -/
def decrypt (key nonce aad text : Bytes) : Except String Bytes :=
  if IsRecorded key nonce aad ∧ text = ciphertext then .ok packed
  else
    let plaintext := text.take (text.length - 16)
    if nonce.length = 12 ∧ text = plaintext ++ List.replicate 16 0 ∧
        ¬ (IsRecorded key nonce aad ∧ plaintext = packed) then .ok plaintext
    else .error "invalid tag"

/-- The primitives, by their recorded values. -/
def primitives : InvitePrimitives where
  parseUrl _ := none
  fromBase64 text := if text = base64 then data else []
  inflateSync _ := .error "incorrect header check"
  decodeSignedInvite bytes :=
    if bytes = data then .ok ⟨payload, signature⟩ else .error "invalid wire type"
  decodeInvitePayload bytes :=
    if bytes = payload then .ok ⟨token, [0xab], "t", "", "", "", none, none, false⟩
    else .error "invalid wire type"
  decodeText bytes := String.ofList (bytes.map fun b => Char.ofNat b.toNat)
  sha256 bytes := if bytes = payload then payloadHash else []
  recoverPublicKey compact bit hash :=
    if compact = signature.take 64 ∧ bit = 0 ∧ hash = payloadHash then
      some (bytesToHex publicKey)
    else none
  getPublicKey key := if key = privateKey then some publicKey else none
  hkdf key salt info :=
    if key = privateKey ∧ salt = inviteSalt ∧ info = encodeText "inbox:ab" then tokenKey else []
  encrypt := encrypt
  decrypt := decrypt

/-- The host of the group; its group has the tag of the invite. -/
def host : ProcessJoinRequestDeps where
  walletPrivateKeyHex := "1111111111111111111111111111111111111111111111111111111111111111"
  creatorInboxId := "ab"
  addMembersToGroup _ _ := .ok ()
  getGroupInviteTag _ := .ok (some "t")

theorem unforgeable :
    UnforgeableSignatures primitives fun key bytes => key = privateKey ∧ bytes = payload := by
  intro key publicKey bytes compact bit hkey hrecover
  constructor
  · by_contra hne
    have hnone : primitives.getPublicKey key = none := if_neg hne
    rw [hnone] at hkey
    cases hkey
  · by_contra hne
    -- the table hashes no other payload to the recorded value
    have hhash : primitives.sha256 bytes = [] := if_neg hne
    rw [hhash] at hrecover
    have hnone : primitives.recoverPublicKey compact bit [] = none :=
      if_neg fun h => List.cons_ne_nil _ _ h.2.2.symm
    rw [hnone] at hrecover
    cases hrecover

/-- The recorded ciphertext is no other plaintext with an empty tag. -/
theorem ciphertext_ne_append (plaintext : Bytes) :
    ciphertext ≠ plaintext ++ List.replicate 16 0 := by
  intro h
  have hlast : some (37 : UInt8) = some 0 := by
    calc some (37 : UInt8) = ciphertext.getLast? := rfl
      _ = (plaintext ++ List.replicate 16 0).getLast? := by rw [h]
      _ = some 0 := by rw [List.getLast?_append]; rfl
  cases hlast

theorem authenticated : AuthenticatedCipher primitives where
  decrypt_encrypt := by
    intro key nonce aad plaintext hnonce
    show decrypt key nonce aad (encrypt key nonce aad plaintext) = .ok plaintext
    by_cases hrecorded : IsRecorded key nonce aad ∧ plaintext = packed
    · rw [encrypt, if_pos hrecorded, decrypt, if_pos ⟨hrecorded.1, rfl⟩, hrecorded.2]
    · have htake : (plaintext ++ List.replicate 16 (0 : UInt8)).take
          ((plaintext ++ List.replicate 16 (0 : UInt8)).length - 16) = plaintext := by
        rw [List.length_append, List.length_replicate, Nat.add_sub_cancel, List.take_left]
      rw [encrypt, if_neg hrecorded, decrypt,
        if_neg fun h => ciphertext_ne_append plaintext h.2.symm, htake,
        if_pos ⟨hnonce, rfl, hrecorded⟩]
  encrypt_of_decrypt := by
    intro key nonce aad text plaintext h
    show nonce.length = 12 ∧ encrypt key nonce aad plaintext = text
    replace h : decrypt key nonce aad text = .ok plaintext := h
    by_cases hrecorded : IsRecorded key nonce aad ∧ text = ciphertext
    · rw [decrypt, if_pos hrecorded] at h
      obtain rfl := Except.ok.inj h
      rw [encrypt, if_pos ⟨hrecorded.1, rfl⟩]
      exact ⟨by rw [hrecorded.1.2.1]; rfl, hrecorded.2.symm⟩
    · rw [decrypt, if_neg hrecorded] at h
      by_cases hother : nonce.length = 12 ∧
          text = text.take (text.length - 16) ++ List.replicate 16 0 ∧
          ¬ (IsRecorded key nonce aad ∧ text.take (text.length - 16) = packed)
      · have hplain : text.take (text.length - 16) = plaintext :=
          Except.ok.inj ((if_pos hother).symm.trans h)
        rw [hplain] at hother
        rw [encrypt, if_neg hother.2.2]
        exact ⟨hother.1, hother.2.1.symm⟩
      · cases (if_neg hother).symm.trans h

theorem slug_ne_empty : slug ≠ "" := by
  intro h
  have hchars : slugChars = "".toList :=
    String.toList_ofList.symm.trans (congrArg String.toList h)
  exact List.cons_ne_nil _ _ hchars

set_option maxRecDepth 2000 in
theorem inviteData_slug : inviteData primitives slug = .ok data := by
  have hslug : extractSlug primitives slug = slug := by
    show jsTrim slug = slug
    rw [jsTrim, slug, String.toList_ofList]
    exact congrArg String.ofList (by decide)
  have hclean : slug.toList.filter (· ≠ '*') = slugChars := by
    rw [slug, String.toList_ofList]
    decide
  have hpad : (codeUnits slug).length = 150 := by
    rw [codeUnits, slug, String.toList_ofList]
    decide
  have hdecoded : base64UrlDecode primitives slug = data := by
    have htext : slug.toList.map (fun c => if c = '-' then '+' else if c = '_' then '/' else c) =
        slugChars.map fun c => if c = '_' then '/' else c := by
      rw [slug, String.toList_ofList]
      decide
    rw [base64UrlDecode, hpad, htext]
    show (if base64 = base64 then data else []) = data
    exact if_pos rfl
  have hdecompressed : decompress primitives "inviteUrl" data = .ok data := if_pos (by decide)
  have hsame : String.ofList slugChars = slug := rfl
  rw [inviteData, hslug, hclean, hsame, hdecoded, hdecompressed]
  exact if_neg (by decide)

/-- What the host reads in the slug. -/
def invite : ParsedConvosInvite where
  signedInvitePayloadBytes := payload
  signedInviteSignature := signature
  conversationToken := token
  creatorInboxId := "ab"
  tag := "t"
  name := none
  description := none
  imageUrl := none
  isExpired := false
  isConversationExpired := false
  expiresAfterUse := false

set_option maxRecDepth 2000 in
theorem authorizeInvite_slug :
    authorizeInvite primitives (fun _ => none) host 0 (.string slug) = .ok (invite, "g1") := by
  have hparse : parseConvosInviteUrl primitives 0 slug = .ok invite := by
    rw [parseConvosInviteUrl, inviteData_slug]
    decide
  have hcheck : checkInvite primitives host invite = .ok () := by decide
  have hgroup : decryptConversationToken primitives invite.conversationToken
      invite.creatorInboxId (hexToBytes host.walletPrivateKeyHex) = .ok "g1" := by decide
  exact authorizeInvite_of_checks (inviteText_string slug_ne_empty) hparse hcheck hgroup

end RecordedInvite

open RecordedInvite in
/-- The recorded invite admits its sender to the group of its token. -/
theorem joinRequest_authorized_recorded :
    ∃ groupId, additions (processJoinRequest primitives (fun _ => none) host 0
        ⟨"cd", .string slug⟩) = [(groupId, ["cd"])] ∧
      ∃ signedInvite payload, AuthorizedBy primitives (fun _ => none)
        (fun key bytes => key = privateKey ∧ bytes = RecordedInvite.payload)
        host 0 (.string slug) signedInvite payload groupId := by
  refine (joinRequest_authorized unforgeable authenticated _ host 0
    ⟨"cd", .string slug⟩).resolve_right fun h => ?_
  have hadded := h.1
  unfold processJoinRequest at hadded
  rw [authorizeInvite_slug] at hadded
  exact List.cons_ne_nil _ _ hadded

end Signet
