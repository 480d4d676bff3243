import Signet.Core.InviteCompression
import Signet.Lib.Base64
import Signet.Lib.Utf8
import Mathlib.Data.List.Infix

/-!
# Generating invites

`generateConvosInviteSlug` and `generateConvosInviteUrl`: the packed conversation id is encrypted,
the payload with the token is signed, and the signed invite is compressed, encoded and separated
into a slug. The packing, the hex helpers, the separators and the percent encoding are the source's
own; protobuf messages and signatures are `InviteEncoders`, zlib is `Zlib`, and the nonce that
`encryptToken` draws is an argument.

Each step is followed by what its counterpart in the parser makes of it. For ids this is
`unpack_packConversationId`: a UUID loses its case, and a text is read from as many bytes as its two
length bytes say, which is another number if the text is empty or has more than 65535 bytes.
-/

namespace Signet

open Lib

/-! ### Options -/

inductive ConversationIdFormat where
  | uuid
  | string
  deriving DecidableEq

structure GenerateInviteSlugOptions where
  conversationId : String
  conversationIdFormat : Option ConversationIdFormat
  creatorInboxId : String
  walletPrivateKeyHex : String
  inviteTag : String
  name : Option String
  description : Option String
  imageUrl : Option String
  /-- `getTime()` of the date; `some none` is that of an invalid date. -/
  expiresAt : Option (Option Int)
  expiresAfterUse : Option Bool

/-- The XMTP environments. -/
inductive InviteEnv where
  | production
  | dev
  | local
  deriving DecidableEq

structure GenerateInviteUrlOptions extends GenerateInviteSlugOptions where
  env : Option InviteEnv

/-- `payloadObj`. -/
structure InvitePayloadObject where
  conversationToken : Bytes
  creatorInboxId : Bytes
  tag : String
  expiresAfterUse : Bool
  name : Option String
  description_p : Option String
  imageURL : Option String
  /-- A number, or `some none` for not a number. -/
  expiresAtUnix : Option (Option Int)
  deriving DecidableEq

/-- What the generator takes from packages, beside `InvitePrimitives`. -/
structure InviteEncoders where
  /-- `InvitePayloadType.verify`. -/
  verifyInvitePayload : InvitePayloadObject → Option String
  /-- `InvitePayloadType.encode(InvitePayloadType.create(...)).finish()`. -/
  encodeInvitePayload : InvitePayloadObject → Bytes
  /-- `SignedInviteType.encode(SignedInviteType.create(...)).finish()`. -/
  encodeSignedInvite : SignedInvite → Bytes
  /-- `secp256k1.sign(hash, privateKey)`: the compact signature and the recovery bit, or the message
  of what is thrown. -/
  sign : Bytes → Bytes → Except String (Bytes × UInt8)

/-! ### Packing the conversation id -/

/-- A character class of `packConversationId`, with the flag `i`. -/
def isHexDigit (c : Char) : Bool := (hexDigit? c.toNat).isSome

/-- `uuidMatch`: the groups of a UUID. -/
def uuidMatch (conversationId : String) : Option (List (List Char)) :=
  let groups := conversationId.toList.splitOn '-'
  if groups.map List.length = [8, 4, 4, 4, 12] ∧ groups.flatten.all isHexDigit then some groups
  else none

def shouldUseUuidEncoding (conversationId : String) (format : Option ConversationIdFormat) : Bool :=
  match format with
  | some .uuid => true
  | some .string => false
  | none => (uuidMatch conversationId).isSome

/-- `packConversationId`; an error is the message thrown. -/
def packConversationId (conversationId : String) (format : Option ConversationIdFormat) :
    Except String Bytes :=
  if shouldUseUuidEncoding conversationId format then
    match uuidMatch conversationId with
    | none =>
      .error ("Conversation ID format \"uuid\" requires a canonical UUID: " ++ conversationId)
    | some groups => .ok (0x01 :: hexToBytes (String.ofList groups.flatten))
  else
    let strBytes := encodeText conversationId
    if strBytes.length ≤ 255 then .ok (0x02 :: UInt8.ofNat strBytes.length :: strBytes)
    else
      .ok (0x02 :: 0x00 :: UInt8.ofNat (strBytes.length >>> 8) :: UInt8.ofNat strBytes.length ::
        strBytes)

/-! ### The slug -/

/-- The pieces of the loop of `insertSeparators`. -/
def slices (every : Nat) : Nat → List Char → List (List Char)
  | 0, _ => []
  | _ + 1, [] => []
  | fuel + 1, str => str.take every :: slices every fuel (str.drop every)

def insertSeparators (str sep : List Char) (every : Nat) : List Char :=
  if str.length ≤ every then str else sep.intercalate (slices every str.length str)

def separatorInterval : Nat := 300

/-- The end of `generateConvosInviteSlug`: compress, encode and separate. -/
def inviteSlug (zlib : Zlib) (signedInviteBytes : Bytes) : String :=
  let compressed := ({} : CompressionConfig).compress zlib signedInviteBytes
  String.ofList (insertSeparators (base64Url compressed) ['*'] separatorInterval)

/-- The error of the `catch` around the generator. -/
def generateFailure (cause : String) : SignetError :=
  .internalError ("Failed to generate invite slug: " ++ cause)

section Generator

variable (prims : InvitePrimitives) (enc : InviteEncoders) (zlib : Zlib) (nonce : Bytes)

/-- Steps 1 and 2 of `generateConvosInviteSlug`, up to the check of the payload. -/
def invitePayloadObject (opts : GenerateInviteSlugOptions) (packed : Bytes) :
    InvitePayloadObject where
  conversationToken :=
    encryptToken prims nonce packed opts.creatorInboxId (hexToBytes opts.walletPrivateKeyHex)
  creatorInboxId := hexToBytes opts.creatorInboxId
  tag := opts.inviteTag
  expiresAfterUse := opts.expiresAfterUse.getD false
  name := opts.name
  description_p := opts.description
  imageURL := opts.imageUrl
  -- the quotient of an integer is rounded down
  expiresAtUnix := opts.expiresAt.map fun time => time.map fun ms => ms / 1000

/-- Steps 1 to 4 of `generateConvosInviteSlug`: the bytes of the signed invite. -/
def signedInviteBytes (opts : GenerateInviteSlugOptions) : Result Bytes := do
  let packed ← (packConversationId opts.conversationId opts.conversationIdFormat).mapError
    generateFailure
  let payloadObj := invitePayloadObject prims nonce opts packed
  match enc.verifyInvitePayload payloadObj with
  | some errMsg => .error (.internalError ("Invalid invite payload: " ++ errMsg))
  | none =>
    let payloadBytes := enc.encodeInvitePayload payloadObj
    let (compact, recovery) ← (enc.sign (prims.sha256 payloadBytes)
      (hexToBytes opts.walletPrivateKeyHex)).mapError generateFailure
    .ok (enc.encodeSignedInvite ⟨payloadBytes, compact ++ [recovery]⟩)

/-- `generateConvosInviteSlug`, with the nonce that is drawn. -/
def generateConvosInviteSlug (opts : GenerateInviteSlugOptions) : Result String :=
  (signedInviteBytes prims enc nonce opts).map (inviteSlug zlib)

/-- Characters that `encodeURIComponent` leaves alone. -/
def isUriUnreserved (c : Char) : Bool :=
  c.isAlphanum || c ∈ ['-', '_', '.', '!', '~', '*', Char.ofNat 0x27, '(', ')']

def encodeURIComponent (text : String) : String :=
  String.ofList (text.toList.flatMap fun c =>
    if isUriUnreserved c then [c]
    else (String.utf8EncodeChar c).flatMap fun b => '%' :: (byteToHex b).map Char.toUpper)

/-- `baseUrl`. -/
def inviteBaseUrl (env : Option InviteEnv) : String :=
  if env = some .dev ∨ env = some .local then "https://dev.convos.org/v2"
  else "https://popup.convos.org/v2"

def inviteUrl (env : Option InviteEnv) (slug : String) : String :=
  inviteBaseUrl env ++ "?i=" ++ encodeURIComponent slug

/-- `generateConvosInviteUrl`, with the nonce that is drawn. -/
def generateConvosInviteUrl (opts : GenerateInviteUrlOptions) : Result String :=
  (generateConvosInviteSlug prims enc zlib nonce opts.toGenerateInviteSlugOptions).map
    (inviteUrl opts.env)

end Generator

/-! ### Hex -/

/-- The hex digits, in both cases. -/
def hexDigits : List Char :=
  ['0', '1', '2', '3', '4', '5', '6', '7', '8', '9', 'a', 'b', 'c', 'd', 'e', 'f', 'A', 'B', 'C',
   'D', 'E', 'F']

theorem isHexDigit_iff {c : Char} : isHexDigit c = true ↔ c ∈ hexDigits := by
  constructor
  · intro h
    have hsmall : c.toNat < 0x67 := by
      unfold isHexDigit hexDigit? at h
      by_contra hlarge
      rw [if_neg (by omega), if_neg (by omega), if_neg (by omega)] at h
      cases h
    have hall : ∀ n < 0x67, (hexDigit? n).isSome = true → Char.ofNat n ∈ hexDigits := by decide
    have hmem := hall c.toNat hsmall h
    rwa [Char.ofNat_toNat] at hmem
  · intro h
    have hall : (hexDigits.all isHexDigit) = true := by decide
    exact List.all_eq_true.1 hall c h

/-- The byte of two digits is written with these digits in lower case. -/
theorem byteToHex_parseHexPair {a b : Char} (ha : isHexDigit a = true) (hb : isHexDigit b = true) :
    byteToHex (parseHexPair a.toNat b.toNat) = [a.toLower, b.toLower] := by
  have hall : (hexDigits.all fun a => hexDigits.all fun b =>
      byteToHex (parseHexPair a.toNat b.toNat) == [a.toLower, b.toLower]) = true := by
    decide +kernel
  have hrow := List.all_eq_true.1 hall a (isHexDigit_iff.1 ha)
  exact beq_iff_eq.1 (List.all_eq_true.1 hrow b (isHexDigit_iff.1 hb))

theorem codeUnits_ofList {chars : List Char} (h : ∀ c ∈ chars, c.toNat < 0x10000) :
    codeUnits (String.ofList chars) = chars.map Char.toNat := by
  unfold codeUnits
  rw [String.toList_ofList]
  induction chars with
  | nil => rfl
  | cons c chars ih =>
    rw [List.flatMap_cons, List.map_cons, if_pos (h c List.mem_cons_self),
      ih fun c' hmem => h c' (List.mem_cons_of_mem _ hmem)]
    rfl

theorem flatMap_parseHexPairs {digits : List Char} (heven : digits.length % 2 = 0)
    (hhex : ∀ c ∈ digits, isHexDigit c = true) :
    (parseHexPairs (digits.map Char.toNat)).flatMap byteToHex = digits.map Char.toLower := by
  match digits, heven, hhex with
  | [], _, _ => rfl
  | [_], heven, _ => cases heven
  | a :: b :: rest, heven, hhex =>
    have hrest : rest.length % 2 = 0 := by
      rw [List.length_cons, List.length_cons] at heven
      omega
    have hpair := byteToHex_parseHexPair (hhex a (by simp)) (hhex b (by simp))
    have ih := flatMap_parseHexPairs hrest fun c hmem => hhex c (by simp [hmem])
    rw [List.map_cons, List.map_cons, parseHexPairs, List.flatMap_cons, hpair, ih]
    rfl

/-- **Hex digits come back in lower case.** -/
theorem bytesToHex_hexToBytes_digits {digits : List Char} (heven : digits.length % 2 = 0)
    (hhex : ∀ c ∈ digits, isHexDigit c = true) :
    bytesToHex (hexToBytes (String.ofList digits)) = String.ofList (digits.map Char.toLower) := by
  have hunits : codeUnits (String.ofList digits) = digits.map Char.toNat :=
    codeUnits_ofList fun c hmem => by
      have hall : (hexDigits.all fun c => c.toNat < 0x10000) = true := by decide
      exact of_decide_eq_true (List.all_eq_true.1 hall c (isHexDigit_iff.1 (hhex c hmem)))
  have hread : hexToBytes (String.ofList digits) = parseHexPairs (digits.map Char.toNat) := by
    unfold hexToBytes
    rw [hunits]
    split
    · next clean heq =>
      -- `x` is no digit
      have hx : 0x78 ∈ digits.map Char.toNat := by
        rw [heq]
        simp
      obtain ⟨c, hmem, hc⟩ := List.mem_map.1 hx
      have hdigit := hhex c hmem
      rw [isHexDigit, hc] at hdigit
      cases hdigit
    · rfl
  rw [hread, bytesToHex, flatMap_parseHexPairs heven hhex]

/-! ### Ids come back -/

/-- How many bytes of a packed text are read. -/
def unpackedLength (length : Nat) : Nat := if length ≤ 255 then length else length % 0x10000

section Unpack

variable {prims : InvitePrimitives}

theorem uuidMatch_eq_some {conversationId : String} {groups : List (List Char)}
    (h : uuidMatch conversationId = some groups) :
    groups = conversationId.toList.splitOn '-' ∧ groups.map List.length = [8, 4, 4, 4, 12] ∧
      ∀ c ∈ groups.flatten, isHexDigit c = true := by
  unfold uuidMatch at h
  dsimp only at h
  by_cases hmatch : (conversationId.toList.splitOn '-').map List.length = [8, 4, 4, 4, 12] ∧
      (conversationId.toList.splitOn '-').flatten.all isHexDigit
  · rw [if_pos hmatch] at h
    obtain rfl := Option.some.inj h
    exact ⟨rfl, hmatch.1, List.all_eq_true.1 hmatch.2⟩
  · rw [if_neg hmatch] at h
    cases h

/-- The slice between two texts. -/
theorem hexSlice_append (before mid after : List Char) {start stop : Nat}
    (hstart : before.length = start) (hstop : start + mid.length = stop) :
    hexSlice (String.ofList (before ++ (mid ++ after))) start stop = String.ofList mid := by
  unfold hexSlice
  rw [String.toList_ofList, ← hstop, ← hstart, ← List.append_assoc, ← List.length_append,
    List.take_left, List.drop_left]

theorem unpack_uuid_bytes (rest : Bytes) :
    unpackConversationId prims (0x01 :: rest) =
      let hex := bytesToHex (rest.take 16)
      .ok ("-".intercalate [hexSlice hex 0 8, hexSlice hex 8 12, hexSlice hex 12 16,
        hexSlice hex 16 20, hexSlice hex 20 32]) := rfl

/-- The groups of a UUID are the slices of its digits. -/
theorem slices_of_groups {g₁ g₂ g₃ g₄ g₅ : List Char} (h₁ : g₁.length = 8) (h₂ : g₂.length = 4)
    (h₃ : g₃.length = 4) (h₄ : g₄.length = 4) (h₅ : g₅.length = 12) {hex : String}
    (hhex : hex = String.ofList (g₁ ++ (g₂ ++ (g₃ ++ (g₄ ++ (g₅ ++ [])))))) :
    [hexSlice hex 0 8, hexSlice hex 8 12, hexSlice hex 12 16, hexSlice hex 16 20,
      hexSlice hex 20 32] = [g₁, g₂, g₃, g₄, g₅].map String.ofList := by
  have hfirst : hexSlice hex 0 8 = String.ofList g₁ := by
    rw [hhex]
    exact hexSlice_append [] g₁ _ rfl (by rw [h₁])
  have hsecond : hexSlice hex 8 12 = String.ofList g₂ := by
    rw [hhex]
    exact hexSlice_append g₁ g₂ _ h₁ (by rw [h₂])
  have hthird : hexSlice hex 12 16 = String.ofList g₃ := by
    rw [hhex, ← List.append_assoc g₁ g₂]
    exact hexSlice_append _ g₃ _ (by rw [List.length_append, h₁, h₂]) (by rw [h₃])
  have hfourth : hexSlice hex 16 20 = String.ofList g₄ := by
    rw [hhex, ← List.append_assoc g₁ g₂, ← List.append_assoc _ g₃]
    exact hexSlice_append _ g₄ _ (by simp only [List.length_append, h₁, h₂, h₃]) (by rw [h₄])
  have hfifth : hexSlice hex 20 32 = String.ofList g₅ := by
    rw [hhex, ← List.append_assoc g₁ g₂, ← List.append_assoc _ g₃, ← List.append_assoc _ g₄]
    exact hexSlice_append _ g₅ _ (by simp only [List.length_append, h₁, h₂, h₃, h₄]) (by rw [h₅])
  rw [hfirst, hsecond, hthird, hfourth, hfifth]
  rfl

/-- **A UUID comes back in lower case.** -/
theorem unpack_uuid {conversationId : String} {groups : List (List Char)}
    (h : uuidMatch conversationId = some groups) :
    unpackConversationId prims (0x01 :: hexToBytes (String.ofList groups.flatten)) =
      .ok (asciiLowerCase conversationId) := by
  obtain ⟨hsplit, hlengths, hhex⟩ := uuidMatch_eq_some h
  have hjoin : ['-'].intercalate groups = conversationId.toList := by
    rw [hsplit, List.intercalate_splitOn]
  -- five groups
  obtain ⟨g₁, rest, rfl, h₁, hrest⟩ := List.map_eq_cons_iff.1 hlengths
  obtain ⟨g₂, rest, rfl, h₂, hrest⟩ := List.map_eq_cons_iff.1 hrest
  obtain ⟨g₃, rest, rfl, h₃, hrest⟩ := List.map_eq_cons_iff.1 hrest
  obtain ⟨g₄, rest, rfl, h₄, hrest⟩ := List.map_eq_cons_iff.1 hrest
  obtain ⟨g₅, rest, rfl, h₅, hrest⟩ := List.map_eq_cons_iff.1 hrest
  obtain rfl := List.map_eq_nil_iff.1 hrest
  have hcount : [g₁, g₂, g₃, g₄, g₅].flatten.length = 32 := by
    simp only [List.length_flatten, hlengths]
    rfl
  have hback := bytesToHex_hexToBytes_digits (by rw [hcount]) hhex
  have hsixteen : (hexToBytes (String.ofList [g₁, g₂, g₃, g₄, g₅].flatten)).length = 16 := by
    have hlength := length_bytesToHex (hexToBytes (String.ofList [g₁, g₂, g₃, g₄, g₅].flatten))
    rw [hback, String.toList_ofList, List.length_map, hcount] at hlength
    omega
  rw [unpack_uuid_bytes, List.take_of_length_le (by rw [hsixteen]), hback]
  have hhex' : String.ofList ([g₁, g₂, g₃, g₄, g₅].flatten.map Char.toLower) =
      String.ofList (g₁.map Char.toLower ++ (g₂.map Char.toLower ++ (g₃.map Char.toLower ++
        (g₄.map Char.toLower ++ (g₅.map Char.toLower ++ []))))) := by
    simp only [List.flatten_cons, List.flatten_nil, List.map_append, List.map_nil]
  dsimp only
  rw [slices_of_groups (by rw [List.length_map, h₁]) (by rw [List.length_map, h₂])
    (by rw [List.length_map, h₃]) (by rw [List.length_map, h₄]) (by rw [List.length_map, h₅]) hhex']
  -- the groups are joined as they were
  have hlower : ("-".intercalate ([g₁.map Char.toLower, g₂.map Char.toLower, g₃.map Char.toLower,
      g₄.map Char.toLower, g₅.map Char.toLower].map String.ofList)).toList =
        conversationId.toList.map Char.toLower := by
    rw [String.toList_intercalate, ← hjoin]
    have hdash : "-".toList = ['-'] := rfl
    rw [hdash]
    simp [List.intercalate, List.intersperse]
  unfold asciiLowerCase
  rw [← hlower, String.ofList_toList]

theorem unpack_short {length : UInt8} (h : length ≠ 0) (text : Bytes) :
    unpackConversationId prims (0x02 :: length :: text) =
      .ok (prims.decodeText (text.take length.toNat)) := by
  unfold unpackConversationId
  split
  · next heq => cases heq
  · next heq => cases heq
  · next heq =>
    simp only [List.cons.injEq] at heq
    exact absurd heq.2.1 h
  · next heq =>
    simp only [List.cons.injEq] at heq
    exact absurd heq.2.1 h
  · next heq =>
    simp only [List.cons.injEq, true_and] at heq
    rw [heq.1, heq.2]
  · next hlast =>
    exact absurd rfl (hlast length text)

theorem unpack_long (high low : UInt8) (text : Bytes) :
    unpackConversationId prims (0x02 :: 0x00 :: high :: low :: text) =
      .ok (prims.decodeText (text.take (high.toNat * 256 + low.toNat))) := rfl

theorem unpack_empty :
    unpackConversationId prims [0x02, 0x00] = .error "Invalid packed conversation ID length" := rfl

/-- **What is unpacked of a packed id.** -/
theorem unpack_packConversationId {conversationId : String} {format : Option ConversationIdFormat}
    {packed : Bytes} (h : packConversationId conversationId format = .ok packed) :
    unpackConversationId prims packed =
      if shouldUseUuidEncoding conversationId format then .ok (asciiLowerCase conversationId)
      else if (encodeText conversationId).length = 0 then
        .error "Invalid packed conversation ID length"
      else .ok (prims.decodeText ((encodeText conversationId).take
        (unpackedLength (encodeText conversationId).length))) := by
  unfold packConversationId at h
  by_cases huuid : shouldUseUuidEncoding conversationId format = true
  · rw [if_pos huuid] at h ⊢
    cases hmatch : uuidMatch conversationId with
    | none =>
      rw [hmatch] at h
      cases h
    | some groups =>
      rw [hmatch] at h
      obtain rfl := Except.ok.inj h
      exact unpack_uuid hmatch
  rw [if_neg huuid] at h ⊢
  dsimp only at h
  unfold unpackedLength
  by_cases hshort : (encodeText conversationId).length ≤ 255
  · rw [if_pos hshort] at h ⊢
    obtain rfl := Except.ok.inj h
    by_cases hempty : (encodeText conversationId).length = 0
    · rw [if_pos hempty, List.eq_nil_of_length_eq_zero hempty]
      exact unpack_empty
    · have hbyte : (UInt8.ofNat (encodeText conversationId).length).toNat =
          (encodeText conversationId).length := by
        rw [UInt8.toNat_ofNat']
        exact Nat.mod_eq_of_lt (by omega)
      have hne : UInt8.ofNat (encodeText conversationId).length ≠ 0 := by
        intro hzero
        rw [hzero] at hbyte
        exact hempty hbyte.symm
      rw [if_neg hempty, unpack_short hne, hbyte]
  · rw [if_neg hshort] at h ⊢
    obtain rfl := Except.ok.inj h
    rw [if_neg (by omega), unpack_long]
    have hlength : (UInt8.ofNat ((encodeText conversationId).length >>> 8)).toNat * 256 +
        (UInt8.ofNat (encodeText conversationId).length).toNat =
          (encodeText conversationId).length % 0x10000 := by
      rw [UInt8.toNat_ofNat', UInt8.toNat_ofNat', Nat.shiftRight_eq_div_pow]
      omega
    rw [hlength]

end Unpack

/-! ### The slug comes back -/

theorem flatten_slices {every : Nat} (hevery : 0 < every) (fuel : Nat) (str : List Char)
    (hfuel : str.length ≤ fuel) : (slices every fuel str).flatten = str := by
  induction fuel generalizing str with
  | zero =>
    rw [List.eq_nil_of_length_eq_zero (Nat.le_zero.1 hfuel)]
    rfl
  | succ fuel ih =>
    cases str with
    | nil => rfl
    | cons c str =>
      have hdrop : ((c :: str).drop every).length ≤ fuel := by
        rw [List.length_cons] at hfuel
        rw [List.length_drop, List.length_cons]
        omega
      rw [slices, List.flatten_cons, ih _ hdrop, List.take_append_drop]
      exact List.cons_ne_nil c str

theorem filter_intercalate (sep : Char) (pieces : List (List Char)) :
    ([sep].intercalate pieces).filter (· ≠ sep) = pieces.flatten.filter (· ≠ sep) := by
  induction pieces with
  | nil => rfl
  | cons piece pieces ih =>
    cases pieces with
    | nil => rw [List.intercalate_singleton, List.flatten_singleton]
    | cons piece' pieces =>
      rw [List.intercalate_cons_cons, List.flatten_cons, List.filter_append, List.filter_append,
        List.filter_append, ih]
      simp

theorem filter_insertSeparators {str : List Char} {sep : Char} (h : sep ∉ str) {every : Nat}
    (hevery : 0 < every) : (insertSeparators str [sep] every).filter (· ≠ sep) = str := by
  have hkeep : str.filter (· ≠ sep) = str := by
    refine List.filter_eq_self.2 fun c hmem => decide_eq_true fun heq => h ?_
    rwa [← heq]
  unfold insertSeparators
  split
  · exact hkeep
  · rw [filter_intercalate, flatten_slices hevery _ _ le_rfl, hkeep]

theorem mem_insertSeparators {str : List Char} {sep c : Char} {every : Nat} (hevery : 0 < every)
    (h : c ∈ insertSeparators str [sep] every) : c = sep ∨ c ∈ str := by
  by_cases hsep : c = sep
  · exact .inl hsep
  right
  unfold insertSeparators at h
  split at h
  · exact h
  · have hfilter : c ∈ ([sep].intercalate (slices every str.length str)).filter (· ≠ sep) :=
      List.mem_filter.2 ⟨h, decide_eq_true hsep⟩
    rw [filter_intercalate, flatten_slices hevery _ _ le_rfl] at hfilter
    exact (List.mem_filter.1 hfilter).1

theorem mem_inviteSlug {zlib : Zlib} {data : Bytes} {c : Char}
    (h : c ∈ (inviteSlug zlib data).toList) : c = '*' ∨ ∃ n < 64, c = base64UrlChar n := by
  unfold inviteSlug at h
  rw [String.toList_ofList] at h
  rcases mem_insertSeparators (by decide) h with hsep | hmem
  · exact .inl hsep
  · obtain ⟨n, hn, rfl⟩ := List.mem_map.1 hmem
    exact .inr ⟨n, digitsOfBytes_lt _ n hn, rfl⟩

end Signet
