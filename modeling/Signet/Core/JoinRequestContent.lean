import Signet.Core.Client
import Signet.Core.ProcessJoinRequest
import Signet.Lib.JsObject
import Signet.Lib.Utf8

/-!
# The content of join requests

`JoinRequestCodec`: a join request is sent as the UTF-8 bytes of its JSON text, in an envelope that
names the content type. A client with the codec hands the host the object that is decoded, one
without it the envelope; beside the request, its slug is sent as plain text. In each of these the
host finds the slug (`inviteText_of_delivers`).

`JSON.parse` is `Lib.parse`, and `contentOf` makes a `DecodedContent` of what is parsed.
-/

namespace Signet

open Lib

/-! ### Values as contents -/

mutual

/-- A parsed value, as message content. -/
def contentOf : JsValue → DecodedContent
  | .string s => .string (stringOf s)
  -- the properties of an array are its indexes
  | .array items => .object (contentOfItems 0 items)
  | .object properties => .object (contentOfProperties properties)
  | .null | .bool _ | .number _ => .other

def contentOfItems : Nat → List JsValue → List (String × DecodedContent)
  | _, [] => []
  | i, item :: items => (toString i, contentOf item) :: contentOfItems (i + 1) items

def contentOfProperties : List (JsString × Option JsValue) → List (String × DecodedContent)
  | [] => []
  | (_, none) :: properties => contentOfProperties properties
  | (key, some value) :: properties =>
    (stringOf key, contentOf value) :: contentOfProperties properties

end

/-- `JSON.parse` of a message, `none` where it throws. -/
def jsonParseContent (text : String) : Option DecodedContent :=
  (parse text.toList).map contentOf

/-! ### The codec -/

structure JoinRequestProfile where
  name : Option String
  imageURL : Option String
  memberKind : Option String

/-- `JoinRequestContent`, without its metadata, which is never set. -/
structure JoinRequestContent where
  inviteSlug : String
  profile : Option JoinRequestProfile

/-- The object of a profile, as the joiner creates it. -/
def JoinRequestProfile.toJson (profile : JoinRequestProfile) : JsValue :=
  .literal [("memberKind", profile.memberKind.map .text), ("name", profile.name.map .text),
    ("imageURL", profile.imageURL.map .text)]

/-- The object of a request. -/
def JoinRequestContent.toJson (request : JoinRequestContent) : JsValue :=
  .literal [("inviteSlug", some (.text request.inviteSlug)),
    ("profile", request.profile.map JoinRequestProfile.toJson)]

/-- The content of `JoinRequestCodec.encode`. -/
def JoinRequestContent.bytes (request : JoinRequestContent) : Bytes :=
  encodeText (String.ofList request.toJson.stringify)

/-- `JoinRequestCodec.encode`; the versions are numbers. -/
def encodeJoinRequest (request : JoinRequestContent) : DecodedContent :=
  .object [
    ("type", .object [("authorityId", .string "convos.org"), ("typeId", .string "join_request"),
      ("versionMajor", .other), ("versionMinor", .other)]),
    ("parameters", .object []),
    ("content", .bytes request.bytes),
    ("fallback", .string request.inviteSlug)]

/-- `decodeJoinRequest`; an error is the message thrown. -/
def decodeJoinRequest (prims : InvitePrimitives) (content : Bytes) :
    Except String DecodedContent :=
  match jsonParseContent (prims.decodeText content) with
  | none => .error "JSON Parse error"
  | some parsed =>
    if (joinRequestSlug parsed).isSome then .ok parsed
    else .error "Missing inviteSlug in JoinRequest"

/-- The request of `joinConversation`. -/
def joinRequestOf (inviteSlug : String) (name : Option String) (memberKind : String) :
    JoinRequestContent :=
  ⟨inviteSlug, some ⟨name, none, some memberKind⟩⟩

/-- **What a host may get** of a direct message. -/
inductive Delivers (prims : InvitePrimitives) : OutgoingContent → DecodedContent → Prop
  /-- The client of the host has the codec. -/
  | decoded {inviteSlug memberKind : String} {name : Option String} {value : DecodedContent}
      (hdecode : decodeJoinRequest prims (joinRequestOf inviteSlug name memberKind).bytes =
        .ok value) :
      Delivers prims (.joinRequest inviteSlug name memberKind) value
  /-- It has not. -/
  | encoded {inviteSlug memberKind : String} {name : Option String} :
      Delivers prims (.joinRequest inviteSlug name memberKind)
        (encodeJoinRequest (joinRequestOf inviteSlug name memberKind))
  /-- Plain text comes as it is. -/
  | text {text : String} : Delivers prims (.text text) (.string text)

/-! ### The slug is found -/

/-- The members of a content are those of the value. -/
theorem member?_contentOf {read : List (JsString × JsValue)} {name : String}
    (htexts : ∀ p ∈ read, ∃ text, p.1 = ofString text) :
    (contentOf (.object (read.map fun p => (p.1, some p.2)))).member? name =
      ((JsValue.object (read.map fun p => (p.1, some p.2))).get? name).map contentOf := by
  rw [contentOf, DecodedContent.member?, JsValue.get?]
  induction read with
  | nil => rfl
  | cons p read ih =>
    have hrest := ih fun q hmem => htexts q (List.mem_cons_of_mem _ hmem)
    obtain ⟨text, htext⟩ := htexts p List.mem_cons_self
    have hkey : (stringOf p.1 = name) = (p.1 = ofString name) := by
      rw [htext, stringOf_ofString]
      exact propext ofString_injective.eq_iff.symm
    rw [List.map_cons, contentOfProperties]
    simp only [List.find?_cons, hkey]
    by_cases hname : p.1 = ofString name
    · simp [hname]
    · simpa [hname] using hrest

theorem member?_contentOf_literal {entries : List (String × Option JsValue)} {name : String} :
    (contentOf (JsValue.literal entries).asRead).member? name =
      ((JsValue.literal entries).asRead.get? name).map contentOf := by
  rw [JsValue.literal, JsValue.asRead_object]
  have hmap : ((members (entries.map fun entry => (ofString entry.1, entry.2))).map
      fun p => (p.1, some p.2.asRead)) =
      ((members (entries.map fun entry => (ofString entry.1, entry.2))).map
        fun p => (p.1, p.2.asRead)).map fun p => (p.1, some p.2) := by
    rw [List.map_map]
    rfl
  rw [hmap]
  refine member?_contentOf fun p hmem => ?_
  obtain ⟨⟨key, value⟩, hmember, rfl⟩ := List.mem_map.1 hmem
  obtain ⟨entry, -, heq⟩ := List.mem_map.1 (mem_members.1 hmember)
  exact ⟨entry.1, (Prod.mk.inj heq).1.symm⟩

theorem JoinRequestProfile.all_toJson (profile : JoinRequestProfile) :
    profile.toJson.All List.Nodup := by
  have hkeys : List.Nodup ["memberKind", "name", "imageURL"] := by decide
  refine JsValue.all_literal hkeys fun name value hmem => ?_
  simp only [List.mem_cons, Prod.mk.injEq, List.not_mem_nil, or_false] at hmem
  rcases hmem with ⟨-, hvalue⟩ | ⟨-, hvalue⟩ | ⟨-, hvalue⟩ <;>
    exact JsValue.all_of_map_text hvalue.symm

theorem JoinRequestContent.nodup_keys : List.Nodup ["inviteSlug", "profile"] := by decide

theorem JoinRequestContent.all_toJson (request : JoinRequestContent) :
    request.toJson.All List.Nodup := by
  refine JsValue.all_literal nodup_keys fun name value hmem => ?_
  rcases List.mem_pair.1 hmem with heq | heq
  · obtain ⟨-, hvalue⟩ := Prod.mk.inj heq
    rw [Option.some.inj hvalue]
    exact JsValue.all_text _
  · obtain ⟨-, hvalue⟩ := Prod.mk.inj heq
    obtain ⟨profile, -, rfl⟩ := Option.map_eq_some_iff.1 hvalue.symm
    exact profile.all_toJson

/-- **The codec's object carries the slug.** -/
theorem joinRequestSlug_toJson (request : JoinRequestContent) :
    joinRequestSlug (contentOf request.toJson.asRead) = some request.inviteSlug := by
  have hget : request.toJson.asRead.get? "inviteSlug" = some (.text request.inviteSlug) := by
    refine JsValue.get?_asRead_literal ?_ List.mem_cons_self
    exact JoinRequestContent.nodup_keys
  have hmember : (contentOf request.toJson.asRead).member? "inviteSlug" =
      some (contentOf (.text request.inviteSlug)) := by
    unfold JoinRequestContent.toJson at hget ⊢
    rw [member?_contentOf_literal, hget]
    rfl
  rw [joinRequestSlug, DecodedContent.stringMember?, hmember]
  exact congrArg some (stringOf_ofString _)

section Decode

variable {prims : InvitePrimitives}
  (hdecode : ∀ data, prims.decodeText data = String.ofList (textDecode data))

include hdecode

/-- A JSON text begins with a brace, and no byte order mark is dropped. -/
theorem decodeText_bytes (request : JoinRequestContent) :
    prims.decodeText request.bytes = String.ofList request.toJson.stringify := by
  have hhead : request.toJson.stringify.head? = some openBrace := by
    rw [JoinRequestContent.toJson, JsValue.literal, JsValue.stringify_object, List.head?_cons]
  have hback : textDecode (encodeUtf8 request.toJson.stringify) = request.toJson.stringify := by
    refine textDecode_encode_of_head ?_
    rw [hhead]
    decide
  rw [hdecode, JoinRequestContent.bytes, encodeText, String.toList_ofList]
  exact congrArg String.ofList hback

/-- **The codec decodes what it has encoded.** -/
theorem jsonParse_bytes (request : JoinRequestContent) :
    jsonParseContent (prims.decodeText request.bytes) = some (contentOf request.toJson.asRead) := by
  rw [decodeText_bytes hdecode, jsonParseContent, String.toList_ofList,
    parse_stringify request.all_toJson, Option.map_some]

theorem decodeJoinRequest_bytes (request : JoinRequestContent) :
    decodeJoinRequest prims request.bytes = .ok (contentOf request.toJson.asRead) := by
  rw [decodeJoinRequest, jsonParse_bytes hdecode]
  exact if_pos (by rw [joinRequestSlug_toJson, Option.isSome_some])

/-- **The host finds the slug**, however the message is delivered. -/
theorem inviteText_of_delivers {sent : OutgoingContent} {content : DecodedContent}
    (h : Delivers prims sent content) {inviteSlug : String} (hne : inviteSlug ≠ "")
    (hsent : (∃ name memberKind, sent = .joinRequest inviteSlug name memberKind) ∨
      sent = .text inviteSlug) :
    inviteText prims jsonParseContent content = some inviteSlug := by
  have hslug : ∀ {content}, extractJoinRequestContent prims jsonParseContent content =
      some inviteSlug → inviteText prims jsonParseContent content = some inviteSlug := by
    intro content hextract
    unfold inviteText
    rw [hextract]
    exact if_neg hne
  cases h with
  | @decoded slug memberKind name value hvalue =>
    obtain ⟨_, _, heq⟩ := hsent.resolve_right (fun heq => by cases heq)
    cases heq
    apply hslug
    rw [decodeJoinRequest_bytes hdecode] at hvalue
    rw [← Except.ok.inj hvalue, extractJoinRequestContent, joinRequestSlug_toJson]
    rfl
  | @encoded slug memberKind name =>
    obtain ⟨_, _, heq⟩ := hsent.resolve_right (fun heq => by cases heq)
    cases heq
    apply hslug
    -- the envelope itself has no slug
    have hnone : joinRequestSlug (encodeJoinRequest (joinRequestOf inviteSlug name memberKind)) =
        none := rfl
    have hcontent : encodedContent (encodeJoinRequest (joinRequestOf inviteSlug name memberKind)) =
        some (joinRequestOf inviteSlug name memberKind).bytes := rfl
    rw [extractJoinRequestContent, hnone]
    dsimp only
    rw [hcontent, Option.bind_some, jsonParse_bytes hdecode, Option.bind_some,
      joinRequestSlug_toJson]
    rfl
  | text =>
    obtain heq := hsent.resolve_left (fun ⟨_, _, heq⟩ => by cases heq)
    cases heq
    exact inviteText_string hne

end Decode

end Signet
