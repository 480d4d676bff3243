import Signet.Core.InviteGenerator
import Signet.Core.ProfileMessages
import Signet.Core.ProcessJoinRequest

/-!
# From an invite's options to its reader and back

What `parseConvosInviteUrl` and `decryptConversationToken` make of an invite that the generator
accepted. The packages are parameters, with what both sides rely on in `InviteLibraries`.

* `parse_generated`: every such invite is parsed, from its slug and from its URL, if its signed
  invite is not too large and names a creator and a tag.
* `invite_round_trip`: what is parsed is what was given. UUIDs come back in lower case, and the
  second 0 counts as no expiry.

Bytes that were not compressed are taken for themselves, since a signed invite begins with the tag
of its first field and never with the marker of compressed data.
-/

namespace Signet

open Lib

/-! ### The packages -/

/-- `InvitePayloadType.decode` of a payload: what was not set has its default. -/
def InvitePayloadObject.decoded (payloadObj : InvitePayloadObject) : InvitePayload where
  conversationToken := payloadObj.conversationToken
  creatorInboxId := payloadObj.creatorInboxId
  tag := payloadObj.tag
  name := payloadObj.name.getD ""
  description := payloadObj.description_p.getD ""
  imageURL := payloadObj.imageURL.getD ""
  conversationExpiresAtUnix := some 0
  expiresAtUnix := some (payloadObj.expiresAtUnix.join.getD 0)
  expiresAfterUse := payloadObj.expiresAfterUse

/-- **What the two sides of an invite rely on.** -/
structure InviteLibraries (prims : InvitePrimitives) (enc : InviteEncoders) (zlib : Zlib) :
    Prop where
  /-- A text without a scheme is no URL. -/
  parseUrl_of_no_colon : ∀ text : String, ':' ∉ text.toList → prims.parseUrl text = none
  /-- The search parameter is read where it stands. -/
  parseUrl_query : ∀ (env : Option InviteEnv) (query : String),
    (∀ c ∈ query.toList, isUriUnreserved c = true) →
      ∃ url, prims.parseUrl (inviteBaseUrl env ++ "?i=" ++ query) = some url ∧ url.i = some query
  fromBase64_btoa : ∀ data, prims.fromBase64 (btoa data) = data
  decodeText_eq : ∀ data, prims.decodeText data = String.ofList (textDecode data)
  inflateSync_eq : prims.inflateSync = zlib.inflateSync maxDecompressedSize
  /-- A verified payload is read back, also with an expiry that no `Date` has. -/
  decode_payload : ∀ payloadObj, enc.verifyInvitePayload payloadObj = none →
    prims.decodeInvitePayload (enc.encodeInvitePayload payloadObj) = .ok payloadObj.decoded
  payload_ne_nil : ∀ payloadObj, enc.encodeInvitePayload payloadObj ≠ []
  decode_signed : ∀ signedInvite,
    prims.decodeSignedInvite (enc.encodeSignedInvite signedInvite) = .ok signedInvite
  /-- Field 1 comes first, delimited by its length. -/
  head_signed : ∀ signedInvite, (enc.encodeSignedInvite signedInvite).head? = some 0x0a
  cipher : AuthenticatedCipher prims

/-! ### From the text to the bytes -/

theorem jsTrim_of_no_space {text : String} (h : ∀ c ∈ text.toList, isJsSpace c.toNat = false) :
    jsTrim text = text := by
  have hkeep : ∀ {chars : List Char}, (∀ c ∈ chars, isJsSpace c.toNat = false) →
      chars.dropWhile (isJsSpace ·.toNat) = chars := by
    intro chars hchars
    cases chars with
    | nil => rfl
    | cons c chars =>
      refine List.dropWhile_cons_of_neg ?_
      rw [hchars c List.mem_cons_self]
      exact Bool.false_ne_true
  unfold jsTrim
  dsimp only
  rw [hkeep h, hkeep fun c hmem => h c (List.mem_reverse.1 hmem), List.reverse_reverse,
    String.ofList_toList]

section Slug

variable {prims : InvitePrimitives} {enc : InviteEncoders} {zlib : Zlib} {data : Bytes}

/-- What holds of the separator and of all digits holds of the characters of a slug. -/
theorem forall_mem_inviteSlug {p : Char → Prop} (hsep : p '*')
    (hdigits : ∀ n < 64, p (base64UrlChar n)) : ∀ c ∈ (inviteSlug zlib data).toList, p c := by
  intro c hmem
  rcases mem_inviteSlug hmem with rfl | ⟨n, hn, rfl⟩
  · exact hsep
  · exact hdigits n hn

theorem star_not_mem_base64Url : '*' ∉ base64Url data := by
  intro hmem
  obtain ⟨n, hn, heq⟩ := List.mem_map.1 hmem
  have hdigits : ∀ n < 64, base64UrlChar n ≠ '*' := by decide
  exact hdigits n (digitsOfBytes_lt _ n hn) heq

theorem base64UrlDecode_clean (hlib : InviteLibraries prims enc zlib) :
    base64UrlDecode prims (String.ofList ((inviteSlug zlib data).toList.filter (· ≠ '*'))) =
      ({} : CompressionConfig).compress zlib data := by
  have hunits :
      codeUnits (String.ofList (base64Url (({} : CompressionConfig).compress zlib data))) =
      (base64Url (({} : CompressionConfig).compress zlib data)).map Char.toNat := by
    refine codeUnits_ofList fun c hmem => ?_
    obtain ⟨n, hn, rfl⟩ := List.mem_map.1 hmem
    have hdigits : ∀ n < 64, (base64UrlChar n).toNat < 0x10000 := by decide
    exact hdigits n (digitsOfBytes_lt _ n hn)
  rw [inviteSlug, String.toList_ofList, filter_insertSeparators star_not_mem_base64Url (by decide)]
  unfold base64UrlDecode
  dsimp only
  rw [hunits, List.length_map, String.toList_ofList, btoa_of_base64Url]
  exact hlib.fromBase64_btoa _

theorem compress_ne_nil (hne : data ≠ []) :
    ({} : CompressionConfig).compress zlib data ≠ [] := by
  by_cases hcompresses : ({} : CompressionConfig).Compresses zlib data
  · rw [CompressionConfig.compress_of_compresses hcompresses]
    exact List.cons_ne_nil _ _
  · rwa [CompressionConfig.compress_of_not_compresses hcompresses]

theorem inviteSlug_ne_empty (hne : data ≠ []) : inviteSlug zlib data ≠ "" := by
  intro hempty
  have hcompressed : ({} : CompressionConfig).compress zlib data ≠ [] := compress_ne_nil hne
  refine hcompressed ?_
  have hdigits : digitsOfBytes (({} : CompressionConfig).compress zlib data) = [] := by
    have hstar : '*' ∉ base64Url (({} : CompressionConfig).compress zlib data) :=
      star_not_mem_base64Url
    have hfilter := filter_insertSeparators hstar (show 0 < separatorInterval by decide)
    have hchars := congrArg String.toList hempty
    rw [inviteSlug, String.toList_ofList] at hchars
    rw [hchars] at hfilter
    exact List.map_eq_nil_iff.1 hfilter.symm
  rw [← bytesOfDigits_digitsOfBytes (({} : CompressionConfig).compress zlib data), hdigits]
  rfl

/-- **The bytes of the signed invite come back**, wherever the slug is found. -/
theorem inviteData_of_slug (hlib : InviteLibraries prims enc zlib) {text : String}
    (hslug : extractSlug prims text = inviteSlug zlib data) (hhead : data.head? = some 0x0a)
    (hsize : ({} : CompressionConfig).Compresses zlib data → data.length ≤ maxDecompressedSize) :
    inviteData prims text = .ok data := by
  have hne : data ≠ [] := by
    rintro rfl
    cases hhead
  have hback : decompress prims "inviteUrl" (({} : CompressionConfig).compress zlib data) =
      .ok data := by
    rw [CompressionConfig.decompress_default zlib hlib.inflateSync_eq]
    by_cases hcompresses : ({} : CompressionConfig).Compresses zlib data
    · exact CompressionConfig.decompress_compress_of_compresses (hsize hcompresses) hcompresses
    · -- a signed invite does not begin with the marker
      rw [CompressionConfig.compress_of_not_compresses hcompresses]
      refine CompressionConfig.decompress_of_head ?_
      rw [hhead]
      decide
  unfold inviteData
  dsimp only
  rw [hslug, base64UrlDecode_clean hlib, if_neg, hback]
  rw [List.isEmpty_iff]
  exact compress_ne_nil hne

theorem parseUrl_slug (hlib : InviteLibraries prims enc zlib) (data : Bytes) :
    jsTrim (inviteSlug zlib data) = inviteSlug zlib data ∧
      prims.parseUrl (inviteSlug zlib data) = none := by
  constructor
  · exact jsTrim_of_no_space (forall_mem_inviteSlug (by decide) (by decide))
  · refine hlib.parseUrl_of_no_colon _ fun hmem => ?_
    exact forall_mem_inviteSlug (p := (· ≠ ':')) (by decide) (by decide) ':' hmem rfl

theorem extractSlug_slug (hlib : InviteLibraries prims enc zlib) :
    extractSlug prims (inviteSlug zlib data) = inviteSlug zlib data := by
  obtain ⟨htrim, hparse⟩ := parseUrl_slug hlib data
  unfold extractSlug
  dsimp only
  rw [htrim, hparse]

theorem encodeURIComponent_slug :
    encodeURIComponent (inviteSlug zlib data) = inviteSlug zlib data := by
  have hkeep : ∀ {chars : List Char}, (∀ c ∈ chars, isUriUnreserved c = true) →
      (chars.flatMap fun c => if isUriUnreserved c then [c]
        else (String.utf8EncodeChar c).flatMap fun b => '%' :: (byteToHex b).map Char.toUpper) =
          chars := by
    intro chars hchars
    induction chars with
    | nil => rfl
    | cons c chars ih =>
      rw [List.flatMap_cons, if_pos (hchars c List.mem_cons_self),
        ih fun c' hmem => hchars c' (List.mem_cons_of_mem _ hmem)]
      rfl
  unfold encodeURIComponent
  rw [hkeep (forall_mem_inviteSlug (by decide) (by decide)), String.ofList_toList]

theorem parseUrl_inviteUrl (hlib : InviteLibraries prims enc zlib) (env : Option InviteEnv)
    (data : Bytes) :
    jsTrim (inviteUrl env (inviteSlug zlib data)) = inviteUrl env (inviteSlug zlib data) ∧
      ∃ url, prims.parseUrl (inviteUrl env (inviteSlug zlib data)) = some url ∧
        url.i = some (inviteSlug zlib data) := by
  unfold inviteUrl
  rw [encodeURIComponent_slug]
  constructor
  · refine jsTrim_of_no_space ?_
    rw [String.toList_append]
    intro c hmem
    rcases List.mem_append.1 hmem with hbase | hslug
    · have hbases :
          ((inviteBaseUrl env ++ "?i=").toList.all fun c => !isJsSpace c.toNat) = true := by
        unfold inviteBaseUrl
        split <;> decide
      have hspace := List.all_eq_true.1 hbases c hbase
      rwa [Bool.not_eq_true'] at hspace
    · exact forall_mem_inviteSlug (p := fun c => isJsSpace c.toNat = false) (by decide) (by decide)
        c hslug
  · exact hlib.parseUrl_query env _ (forall_mem_inviteSlug (by decide) (by decide))

/-- **The slug is found in its URL.** -/
theorem extractSlug_url (hlib : InviteLibraries prims enc zlib) (env : Option InviteEnv)
    (hne : inviteSlug zlib data ≠ "") :
    extractSlug prims (inviteUrl env (inviteSlug zlib data)) = inviteSlug zlib data := by
  obtain ⟨htrim, url, hurl, hi⟩ := parseUrl_inviteUrl hlib env data
  unfold extractSlug
  dsimp only
  rw [htrim, hurl]
  dsimp only
  rw [hi, Option.bind_some, orUndefined, if_neg hne]
  rfl

end Slug

/-! ### From the bytes to the invite -/

section RoundTrip

variable {prims : InvitePrimitives} {enc : InviteEncoders} {zlib : Zlib} {nonce : Bytes}

theorem signedInviteBytes_eq_ok {opts : GenerateInviteSlugOptions} {data : Bytes}
    (h : signedInviteBytes prims enc nonce opts = .ok data) :
    ∃ packed compact recovery,
      packConversationId opts.conversationId opts.conversationIdFormat = .ok packed ∧
      enc.verifyInvitePayload (invitePayloadObject prims nonce opts packed) = none ∧
      enc.sign (prims.sha256
        (enc.encodeInvitePayload (invitePayloadObject prims nonce opts packed)))
        (hexToBytes opts.walletPrivateKeyHex) = .ok (compact, recovery) ∧
      data = enc.encodeSignedInvite
        ⟨enc.encodeInvitePayload (invitePayloadObject prims nonce opts packed),
          compact ++ [recovery]⟩ := by
  unfold signedInviteBytes at h
  obtain ⟨packed, hpacked, h⟩ := bind_eq_ok.1 h
  dsimp only at h
  cases hverify : enc.verifyInvitePayload (invitePayloadObject prims nonce opts packed) with
  | some errMsg =>
    rw [hverify] at h
    cases h
  | none =>
    rw [hverify] at h
    obtain ⟨⟨compact, recovery⟩, hsign, h⟩ := bind_eq_ok.1 h
    exact ⟨packed, compact, recovery, mapError_eq_ok.1 hpacked, hverify, mapError_eq_ok.1 hsign,
      (Except.ok.inj h).symm⟩

theorem signedInviteBytes_head (hlib : InviteLibraries prims enc zlib)
    {opts : GenerateInviteSlugOptions} {data : Bytes}
    (h : signedInviteBytes prims enc nonce opts = .ok data) : data.head? = some 0x0a := by
  obtain ⟨packed, compact, recovery, -, -, -, rfl⟩ := signedInviteBytes_eq_ok h
  exact hlib.head_signed _

/-- The expiry of the options in seconds; without one it is zero. -/
def GenerateInviteSlugOptions.expiresAtUnix (opts : GenerateInviteSlugOptions) : Int :=
  (opts.expiresAt.join.map fun ms => ms / 1000).getD 0

/-- What an invite is parsed to. -/
def generatedInvite (prims : InvitePrimitives) (enc : InviteEncoders) (nonce : Bytes)
    (opts : GenerateInviteSlugOptions) (packed signature : Bytes) (nowMs : Nat) :
    ParsedConvosInvite where
  signedInvitePayloadBytes :=
    enc.encodeInvitePayload (invitePayloadObject prims nonce opts packed)
  signedInviteSignature := signature
  conversationToken := (invitePayloadObject prims nonce opts packed).conversationToken
  creatorInboxId := bytesToHex (hexToBytes opts.creatorInboxId)
  tag := opts.inviteTag
  name := orUndefined (opts.name.getD "")
  description := orUndefined (opts.description.getD "")
  imageUrl := orUndefined (opts.imageUrl.getD "")
  isExpired := isPastUnix nowMs (some opts.expiresAtUnix)
  isConversationExpired := false
  expiresAfterUse := opts.expiresAfterUse.getD false

/-- **Every generated invite is parsed**, from its slug and from its URL. -/
theorem parse_generated (hlib : InviteLibraries prims enc zlib) {opts : GenerateInviteSlugOptions}
    {data : Bytes} (hdata : signedInviteBytes prims enc nonce opts = .ok data)
    (hinbox : hexToBytes opts.creatorInboxId ≠ []) (htag : opts.inviteTag ≠ "")
    (hsize : ({} : CompressionConfig).Compresses zlib data → data.length ≤ maxDecompressedSize) :
    ∃ packed compact recovery,
      packConversationId opts.conversationId opts.conversationIdFormat = .ok packed ∧
      enc.sign (prims.sha256
        (enc.encodeInvitePayload (invitePayloadObject prims nonce opts packed)))
        (hexToBytes opts.walletPrivateKeyHex) = .ok (compact, recovery) ∧
      ∀ text, extractSlug prims text = inviteSlug zlib data → ∀ nowMs,
        parseConvosInviteUrl prims nowMs text =
          .ok (generatedInvite prims enc nonce opts packed (compact ++ [recovery]) nowMs) := by
  have hhead := signedInviteBytes_head hlib hdata
  obtain ⟨packed, compact, recovery, hpacked, hverify, hsign, hdata⟩ :=
    signedInviteBytes_eq_ok hdata
  refine ⟨packed, compact, recovery, hpacked, hsign, fun text hslug nowMs => ?_⟩
  have hsigned : decodeSigned prims data =
      .ok ⟨enc.encodeInvitePayload (invitePayloadObject prims nonce opts packed),
        compact ++ [recovery]⟩ := by
    unfold decodeSigned
    rw [hdata, hlib.decode_signed]
    refine if_neg ?_
    rw [Bool.or_eq_true, List.isEmpty_iff, List.isEmpty_iff]
    rintro (hempty | hempty)
    · exact hlib.payload_ne_nil _ hempty
    · exact List.append_ne_nil_of_right_ne_nil _ (List.cons_ne_nil _ _) hempty
  have hpayload : decodePayload prims
      (enc.encodeInvitePayload (invitePayloadObject prims nonce opts packed)) =
        .ok (invitePayloadObject prims nonce opts packed).decoded := by
    unfold decodePayload
    rw [hlib.decode_payload _ hverify]
    refine (if_neg ?_).trans (if_neg htag)
    rw [List.isEmpty_iff]
    exact hinbox
  have hexpiry : ((invitePayloadObject prims nonce opts packed).expiresAtUnix.join.getD 0 : Int) =
      opts.expiresAtUnix := by
    unfold invitePayloadObject GenerateInviteSlugOptions.expiresAtUnix
    cases opts.expiresAt <;> rfl
  unfold parseConvosInviteUrl
  rw [inviteData_of_slug hlib hslug hhead hsize]
  show (decodeSigned prims data >>= _) = _
  rw [hsigned]
  show (decodePayload prims _ >>= _) = _
  rw [hpayload]
  show Except.ok _ = Except.ok _
  unfold generatedInvite
  rw [← hexpiry]
  rfl

/-- The token of a generated invite is decrypted to what was packed. -/
theorem decrypt_generated (hlib : InviteLibraries prims enc zlib) (hnonce : nonce.length = 12)
    (opts : GenerateInviteSlugOptions) (packed : Bytes) :
    decryptConversationToken prims (invitePayloadObject prims nonce opts packed).conversationToken
        opts.creatorInboxId (hexToBytes opts.walletPrivateKeyHex) =
      unpackConversationId prims packed := by
  unfold decryptConversationToken invitePayloadObject
  dsimp only
  rw [decryptToken_encryptToken hlib.cipher hnonce]
  rfl

/-! ### The round trip -/

/-- What an invite says is what its options say, and its token decrypts to the conversation id. -/
structure InviteComesBack (prims : InvitePrimitives) (opts : GenerateInviteSlugOptions)
    (expired : Prop) (conversationId : String) (invite : ParsedConvosInvite) : Prop where
  tag : invite.tag = opts.inviteTag
  name : invite.name = opts.name.bind orUndefined
  description : invite.description = opts.description.bind orUndefined
  imageUrl : invite.imageUrl = opts.imageUrl.bind orUndefined
  expiresAfterUse : invite.expiresAfterUse = opts.expiresAfterUse.getD false
  creatorInboxId : invite.creatorInboxId = opts.creatorInboxId
  isExpired : invite.isExpired = true ↔ expired
  isConversationExpired : invite.isConversationExpired = false
  token : decryptConversationToken prims invite.conversationToken opts.creatorInboxId
    (hexToBytes opts.walletPrivateKeyHex) = .ok conversationId

namespace GenerateInviteSlugOptions

/-- The expiry, cut to whole seconds, lies before the current second. -/
def Expired (opts : GenerateInviteSlugOptions) (nowMs : Nat) : Prop :=
  ∃ ms, opts.expiresAt = some (some ms) ∧ ms / 1000 < (nowMs / 1000 : Nat)

/-- The id that comes back: UUIDs are packed without their case. -/
def conversationIdBack (opts : GenerateInviteSlugOptions) : String :=
  if shouldUseUuidEncoding opts.conversationId opts.conversationIdFormat then
    asciiLowerCase opts.conversationId
  else opts.conversationId

/-- A text is packed whole: it is neither empty nor too long, and does not begin with a byte order
mark. -/
def PacksText (opts : GenerateInviteSlugOptions) : Prop :=
  shouldUseUuidEncoding opts.conversationId opts.conversationIdFormat = false →
    opts.conversationId ≠ "" ∧ (encodeText opts.conversationId).length ≤ 65535 ∧
      opts.conversationId.toList.head? ≠ some byteOrderMark

/-- **What makes an invite readable**: a canonical creator, a tag, an id that is packed whole, and
a signed invite that is not compressed beyond the limit of the parser. -/
structure Readable (prims : InvitePrimitives) (enc : InviteEncoders) (zlib : Zlib) (nonce : Bytes)
    (opts : GenerateInviteSlugOptions) : Prop where
  nonce_length : nonce.length = 12
  canonical : IsCanonicalInboxId opts.creatorInboxId
  creator : opts.creatorInboxId ≠ ""
  tag : opts.inviteTag ≠ ""
  packs : opts.PacksText
  size : ∀ data, signedInviteBytes prims enc nonce opts = .ok data →
    ({} : CompressionConfig).Compresses zlib data → data.length ≤ maxDecompressedSize

end GenerateInviteSlugOptions

theorem orUndefined_getD (text? : Option String) :
    orUndefined (text?.getD "") = text?.bind orUndefined := by
  cases text? with
  | none => rfl
  | some text => rfl

/-- The second 0 is no expiry. -/
theorem isPastUnix_expiresAtUnix {opts : GenerateInviteSlugOptions} {nowMs : Nat} :
    isPastUnix nowMs (some opts.expiresAtUnix) = true ↔
      opts.Expired nowMs ∧ opts.expiresAtUnix ≠ 0 := by
  unfold isPastUnix GenerateInviteSlugOptions.Expired GenerateInviteSlugOptions.expiresAtUnix
  cases hexpiry : opts.expiresAt.join with
  | none =>
    have hnone : ∀ ms, opts.expiresAt ≠ some (some ms) := by
      intro ms heq
      rw [heq] at hexpiry
      cases hexpiry
    simp [hnone]
  | some ms =>
    have hsome : opts.expiresAt = some (some ms) := by
      rwa [Option.join_eq_some_iff] at hexpiry
    simp [hsome, and_comm]

theorem bytesToHex_hexToBytes_canonical {inboxId : String} (h : IsCanonicalInboxId inboxId) :
    bytesToHex (hexToBytes inboxId) = inboxId := by
  have hdigits : (lowerHexDigits.all fun c => isHexDigit c && c.toLower == c) = true := by decide
  have hall : ∀ c ∈ lowerHexDigits, isHexDigit c = true ∧ c.toLower = c := by
    intro c hmem
    have hc := List.all_eq_true.1 hdigits c hmem
    rw [Bool.and_eq_true, beq_iff_eq] at hc
    exact hc
  calc bytesToHex (hexToBytes inboxId)
      = bytesToHex (hexToBytes (String.ofList inboxId.toList)) := by rw [String.ofList_toList]
    _ = String.ofList (inboxId.toList.map Char.toLower) :=
        bytesToHex_hexToBytes_digits h.even fun c hmem => (hall c (h.digits c hmem)).1
    _ = String.ofList inboxId.toList := by
        rw [List.map_congr_left fun c hmem => (hall c (h.digits c hmem)).2, List.map_id']
    _ = inboxId := String.ofList_toList

theorem unpack_packed (hlib : InviteLibraries prims enc zlib) {opts : GenerateInviteSlugOptions}
    {packed : Bytes}
    (hpacked : packConversationId opts.conversationId opts.conversationIdFormat = .ok packed)
    (htext : opts.PacksText) :
    unpackConversationId prims packed = .ok opts.conversationIdBack := by
  rw [unpack_packConversationId hpacked]
  unfold GenerateInviteSlugOptions.conversationIdBack
  by_cases huuid : shouldUseUuidEncoding opts.conversationId opts.conversationIdFormat = true
  · rw [if_pos huuid, if_pos huuid]
  rw [if_neg huuid, if_neg huuid]
  obtain ⟨hne, hlength, hmark⟩ := htext (Bool.eq_false_of_not_eq_true huuid)
  have hbytes : (encodeText opts.conversationId).length ≠ 0 := by
    intro hzero
    have hnil : encodeUtf8 opts.conversationId.toList = encodeUtf8 [] :=
      List.eq_nil_of_length_eq_zero hzero
    exact hne (String.toList_eq_nil_iff.1 (encodeUtf8_injective hnil))
  have hread : unpackedLength (encodeText opts.conversationId).length =
      (encodeText opts.conversationId).length := by
    unfold unpackedLength
    split
    · rfl
    · exact Nat.mod_eq_of_lt (by omega)
  have hdecoded : textDecode (encodeText opts.conversationId) = opts.conversationId.toList :=
    textDecode_encode_of_head hmark
  rw [if_neg hbytes, hread, List.take_length, hlib.decodeText_eq, hdecoded, String.ofList_toList]

theorem GenerateInviteSlugOptions.Readable.creator_bytes {opts : GenerateInviteSlugOptions}
    (h : opts.Readable prims enc zlib nonce) : hexToBytes opts.creatorInboxId ≠ [] := by
  intro hnil
  have hback := bytesToHex_hexToBytes_canonical h.canonical
  rw [hnil] at hback
  exact h.creator hback.symm

theorem extractSlug_of_mem (hlib : InviteLibraries prims enc zlib)
    {opts : GenerateInviteSlugOptions} {data : Bytes}
    (hdata : signedInviteBytes prims enc nonce opts = .ok data) {env : Option InviteEnv}
    {text : String} (hmem : text ∈ [inviteSlug zlib data, inviteUrl env (inviteSlug zlib data)]) :
    extractSlug prims text = inviteSlug zlib data := by
  rcases List.mem_pair.1 hmem with rfl | rfl
  · exact extractSlug_slug hlib
  · refine extractSlug_url hlib env (inviteSlug_ne_empty ?_)
    rintro rfl
    cases signedInviteBytes_head hlib hdata

/-- **Invites come back.** For all readable options that the generator accepts, the slug and its URL
are parsed to what was given. -/
theorem invite_round_trip (hlib : InviteLibraries prims enc zlib)
    {opts : GenerateInviteUrlOptions} {slug : String}
    (hslug : generateConvosInviteSlug prims enc zlib nonce opts.toGenerateInviteSlugOptions =
      .ok slug)
    (hreadable : opts.Readable prims enc zlib nonce) :
    generateConvosInviteUrl prims enc zlib nonce opts = .ok (inviteUrl opts.env slug) ∧
    ∀ text ∈ [slug, inviteUrl opts.env slug], ∀ nowMs, ∃ invite,
      parseConvosInviteUrl prims nowMs text = .ok invite ∧
      InviteComesBack prims opts.toGenerateInviteSlugOptions
        (opts.Expired nowMs ∧ opts.expiresAtUnix ≠ 0) opts.conversationIdBack invite := by
  refine ⟨?_, fun text hmem nowMs => ?_⟩
  · unfold generateConvosInviteUrl
    rw [hslug]
    rfl
  obtain ⟨data, hdata, rfl⟩ := map_eq_ok.1 hslug
  obtain ⟨packed, compact, recovery, hpacked, -, hparse⟩ :=
    parse_generated hlib hdata hreadable.creator_bytes hreadable.tag (hreadable.size data hdata)
  refine ⟨_, hparse text (extractSlug_of_mem hlib hdata hmem) nowMs, ?_⟩
  exact
    { tag := rfl
      name := orUndefined_getD opts.name
      description := orUndefined_getD opts.description
      imageUrl := orUndefined_getD opts.imageUrl
      expiresAfterUse := rfl
      creatorInboxId := bytesToHex_hexToBytes_canonical hreadable.canonical
      isExpired := isPastUnix_expiresAtUnix
      isConversationExpired := rfl
      token := (decrypt_generated hlib hreadable.nonce_length _ packed).trans
        (unpack_packed hlib hpacked hreadable.packs) }

end RoundTrip

/-! ### The recorded invite -/

namespace RecordedInvite

/-- The options of the recorded invite. -/
def options : GenerateInviteUrlOptions where
  conversationId := "g1"
  conversationIdFormat := none
  creatorInboxId := "ab"
  walletPrivateKeyHex := host.walletPrivateKeyHex
  inviteTag := "t"
  name := none
  description := none
  imageUrl := none
  expiresAt := none
  expiresAfterUse := none
  env := none

def payloadObject : InvitePayloadObject where
  conversationToken := token
  creatorInboxId := [0xab]
  tag := "t"
  expiresAfterUse := false
  name := none
  description_p := none
  imageURL := none
  expiresAtUnix := none

/-- Streams that hold their bytes as they are, in place of those of zlib: the recorded invite is too
short to be compressed. -/
def storedZlib : Zlib where
  deflateSync data := 0x78 :: data
  inflateSync maxOutputLength data :=
    match data with
    | 0x78 :: rest =>
      if rest.length ≤ maxOutputLength then .ok rest else .error "output is too large"
    | _ => .error "incorrect header check"
  inflate_deflate h := if_pos h

/-- Bytes of a signed invite: the recorded ones, and for any other invite its two fields behind the
length of the first. -/
def encodeSigned (signedInvite : SignedInvite) : Bytes :=
  if signedInvite = ⟨payload, signature⟩ then data
  else
    0x0a :: 0x00 :: (List.replicate signedInvite.payload.length 1 ++
      0 :: (signedInvite.payload ++ signedInvite.signature))

/-- Its inverse. -/
def decodeSignedBytes (bytes : Bytes) : Except String SignedInvite :=
  if bytes = data then .ok ⟨payload, signature⟩
  else
    match bytes with
    | 0x0a :: 0x00 :: rest =>
      let length := (rest.takeWhile (· = 1)).length
      .ok ⟨(rest.drop (length + 1)).take length, (rest.drop (length + 1)).drop length⟩
    | _ => .error "invalid wire type"

/-- The primitives of the reader, with URLs whose only parameter is the slug. -/
def codecs : InvitePrimitives :=
  { primitives with
    parseUrl := fun text =>
      if ':' ∈ text.toList then
        some ⟨some (String.ofList (text.toList.dropWhile (· ≠ '=')).tail), none, "/v2"⟩
      else none
    fromBase64 := fun text => (atob text).getD []
    inflateSync := storedZlib.inflateSync maxDecompressedSize
    decodeSignedInvite := decodeSignedBytes
    decodeInvitePayload := fun bytes =>
      if bytes = payload then .ok payloadObject.decoded else .error "invalid wire type"
    decodeText := fun bytes => String.ofList (textDecode bytes) }

/-- The primitives of the generator. -/
def encoders : InviteEncoders where
  verifyInvitePayload payloadObj :=
    if payloadObj = payloadObject then none else some "not the recorded payload"
  encodeInvitePayload payloadObj := if payloadObj = payloadObject then payload else [0]
  encodeSignedInvite := encodeSigned
  sign hash key :=
    if hash = payloadHash ∧ key = privateKey then .ok (signature.take 64, 0)
    else .error "invalid private key"

theorem decode_encodeSigned (signedInvite : SignedInvite) :
    decodeSignedBytes (encodeSigned signedInvite) = .ok signedInvite := by
  unfold encodeSigned
  split
  · next hrecorded =>
    rw [hrecorded]
    exact if_pos rfl
  · next hother =>
    have hne : 0x0a :: 0x00 :: (List.replicate signedInvite.payload.length 1 ++
        0 :: (signedInvite.payload ++ signedInvite.signature)) ≠ data := by
      intro heq
      -- the second byte of the recorded one is a length
      have hsecond := congrArg (fun bytes => bytes[1]?) heq
      exact absurd (Option.some.inj hsecond) (by decide)
    have hlength : ((List.replicate signedInvite.payload.length (1 : UInt8) ++
        0 :: (signedInvite.payload ++ signedInvite.signature)).takeWhile (· = 1)).length =
          signedInvite.payload.length := by
      rw [List.takeWhile_append_of_pos (by simp [List.mem_replicate]), List.length_append,
        List.length_replicate, List.takeWhile_cons_of_neg (by decide), List.length_nil]
      rfl
    have hrest : (List.replicate signedInvite.payload.length (1 : UInt8) ++
        0 :: (signedInvite.payload ++ signedInvite.signature)).drop
          (signedInvite.payload.length + 1) = signedInvite.payload ++ signedInvite.signature := by
      rw [List.drop_append, List.length_replicate]
      simp
    rw [decodeSignedBytes, if_neg hne]
    dsimp only
    rw [hlength, hrest, List.take_left, List.drop_left]

theorem parseUrl_query (env : Option InviteEnv) (query : String) :
    ∃ url, codecs.parseUrl (inviteBaseUrl env ++ "?i=" ++ query) = some url ∧
      url.i = some query := by
  have hcolon : ':' ∈ (inviteBaseUrl env ++ "?i=" ++ query).toList := by
    rw [String.toList_append, String.toList_append]
    refine List.mem_append_left _ (List.mem_append_left _ ?_)
    unfold inviteBaseUrl
    split <;> decide
  refine ⟨_, if_pos hcolon, ?_⟩
  have hbase : ∀ base : List Char, (base.all fun c => c ≠ '=') = true →
      (base ++ ['?', 'i', '='] ++ query.toList).dropWhile (· ≠ '=') = '=' :: query.toList := by
    intro base hall
    have hkeep : ∀ c ∈ base ++ ['?', 'i'], decide (c ≠ '=') = true := by
      intro c hmem
      rcases List.mem_append.1 hmem with hmem | hmem
      · exact List.all_eq_true.1 hall c hmem
      · rcases List.mem_pair.1 hmem with rfl | rfl <;> decide
    have hsplit : base ++ ['?', 'i', '='] ++ query.toList =
        (base ++ ['?', 'i']) ++ '=' :: query.toList := by simp
    rw [hsplit, List.dropWhile_append_of_pos hkeep, List.dropWhile_cons_of_neg (by decide)]
  have hquery : ((inviteBaseUrl env ++ "?i=" ++ query).toList.dropWhile (· ≠ '=')).tail =
      query.toList := by
    rw [String.toList_append, String.toList_append]
    have hall : ((inviteBaseUrl env).toList.all fun c => c ≠ '=') = true := by
      unfold inviteBaseUrl
      split <;> decide
    have hdrop := hbase _ hall
    have hname : "?i=".toList = ['?', 'i', '='] := rfl
    rw [hname, hdrop, List.tail_cons]
  rw [hquery, String.ofList_toList]

theorem libraries : InviteLibraries codecs encoders storedZlib where
  parseUrl_of_no_colon _ h := if_neg h
  parseUrl_query env query _ := parseUrl_query env query
  fromBase64_btoa data := by
    show (atob (btoa data)).getD [] = data
    rw [atob_btoa]
    rfl
  decodeText_eq _ := rfl
  inflateSync_eq := rfl
  decode_payload payloadObj h := by
    have hrecorded : payloadObj = payloadObject := by
      by_contra hother
      cases (if_neg hother).symm.trans h
    rw [hrecorded]
    rfl
  payload_ne_nil payloadObj := by
    show (if payloadObj = payloadObject then payload else [0]) ≠ []
    split <;> exact List.cons_ne_nil _ _
  decode_signed := decode_encodeSigned
  head_signed signedInvite := by
    show (encodeSigned signedInvite).head? = _
    unfold encodeSigned
    split <;> rfl
  cipher := ⟨authenticated.decrypt_encrypt, authenticated.encrypt_of_decrypt⟩

/-- The generator makes the recorded bytes. -/
theorem signedInviteBytes_options :
    signedInviteBytes codecs encoders nonce options.toGenerateInviteSlugOptions = .ok data := by
  have hobject : invitePayloadObject codecs nonce options.toGenerateInviteSlugOptions packed =
      payloadObject := by
    decide
  have hpacked : packConversationId options.conversationId options.conversationIdFormat =
      .ok packed := by
    decide
  unfold signedInviteBytes
  rw [hpacked]
  dsimp only [Except.mapError, bind, Except.bind]
  rw [hobject]
  rfl

theorem readable : options.Readable codecs encoders storedZlib nonce where
  nonce_length := rfl
  canonical := by
    have hall : (options.creatorInboxId.toList.all fun c => c ∈ lowerHexDigits) = true := by decide
    exact ⟨rfl, fun c hmem => of_decide_eq_true (List.all_eq_true.1 hall c hmem)⟩
  creator := by decide
  tag := by decide
  packs _ := ⟨by decide, by decide, by decide⟩
  size bytes _ hcompresses := by
    -- a stored stream is longer than its bytes
    have hlonger := hcompresses.2
    have hlength : (storedZlib.deflateSync bytes).length = bytes.length + 1 := rfl
    omega

end RecordedInvite

open RecordedInvite in
/-- The recorded invite comes back. -/
theorem invite_round_trip_recorded :
    generateConvosInviteUrl codecs encoders storedZlib RecordedInvite.nonce options =
      .ok (inviteUrl none (inviteSlug storedZlib RecordedInvite.data)) ∧
    ∀ text ∈ [inviteSlug storedZlib RecordedInvite.data,
        inviteUrl none (inviteSlug storedZlib RecordedInvite.data)], ∀ nowMs, ∃ invite,
      parseConvosInviteUrl codecs nowMs text = .ok invite ∧
      InviteComesBack codecs options.toGenerateInviteSlugOptions
        (options.Expired nowMs ∧ options.expiresAtUnix ≠ 0) options.conversationIdBack invite :=
  invite_round_trip libraries (congrArg _ signedInviteBytes_options) readable

end Signet
