import Mathlib.Logic.Encodable.Basic
import Mathlib.Logic.Equiv.List
import Mathlib.Tactic.DeriveEncodable
import Mathlib.Algebra.Ring.Nat
import Signet.Core.ConvosInvite
import Signet.Lib.OrdMap

/-!
# Profile messages

The codecs of `profile-messages.ts` for the profile of one member (`ProfileUpdate`) and
for those of a whole conversation (`ProfileSnapshot`). What protobufjs does is the
parameter `ProtobufType`, one for each of the two message types: it reads back what it
wrote, up to fields that were written with their default. Numbers are any type with a zero.

Both directions copy metadata by assigning one property after the other to a plain
object. Assigning `__proto__` sets the prototype of the object and makes no property, so
`metadataToProto` drops exactly that key (`entries_copyProperties`). What comes back of a
canonical value is the value without that key (`decode_encode_update`,
`decode_encode_snapshot`), hence the value itself if and only if no metadata uses it.
-/

namespace Signet

open Lib

/-! ### The messages -/

structure ConvosContentTypeId where
  authorityId : String
  typeId : String
  versionMajor : Nat
  versionMinor : Nat
  deriving DecidableEq

structure EncodedConvosContent where
  type : ConvosContentTypeId
  parameters : OrdMap String String
  content : Bytes
  fallback : Option String := none
  deriving DecidableEq

def contentTypeProfileUpdate : ConvosContentTypeId where
  authorityId := "convos.org"
  typeId := "profile_update"
  versionMajor := 1
  versionMinor := 0

def contentTypeProfileSnapshot : ConvosContentTypeId where
  authorityId := "convos.org"
  typeId := "profile_snapshot"
  versionMajor := 1
  versionMinor := 0

/-- `MemberKind`, a numeric enum: the decoder casts whatever number the wire has. -/
structure MemberKind where
  number : Int
  deriving DecidableEq

namespace MemberKind

/-- `MemberKind.Unspecified`. -/
def unspecified : MemberKind := ⟨0⟩

/-- `MemberKind.Agent`. -/
def agent : MemberKind := ⟨1⟩

end MemberKind

structure EncryptedProfileImageRef where
  url : String
  salt : Bytes
  nonce : Bytes
  deriving DecidableEq

inductive ProfileMetadataValue (ν : Type) where
  | string (value : String)
  | number (value : ν)
  | bool (value : Bool)
  deriving DecidableEq

/-- `ProfileMetadata`: the properties of an object in their order. -/
abbrev ProfileMetadata (ν : Type) := OrdMap String (ProfileMetadataValue ν)

structure ProfileUpdateContent (ν : Type) where
  name : Option String := none
  encryptedImage : Option EncryptedProfileImageRef := none
  memberKind : Option MemberKind := none
  metadata : Option (ProfileMetadata ν) := none
  deriving DecidableEq

structure MemberProfileEntry (ν : Type) extends ProfileUpdateContent ν where
  inboxId : String
  deriving DecidableEq

structure ProfileSnapshotContent (ν : Type) where
  profiles : List (MemberProfileEntry ν)
  deriving DecidableEq

/-! ### What protobufjs takes and gives -/

/-- The fields of the oneof `value`. -/
inductive MetadataField where
  | string_value
  | number_value
  | bool_value
  deriving DecidableEq

structure RawMetadataValue (ν : Type) where
  string_value : Option String := none
  number_value : Option ν := none
  bool_value : Option Bool := none
  value : Option MetadataField := none
  deriving DecidableEq

/-- The raw `EncryptedProfileImageRef`. -/
structure RawImageRef where
  url : Option String
  salt : Option Bytes
  nonce : Option Bytes
  deriving DecidableEq

/-- The raw `ProfileUpdate`. -/
structure RawProfileUpdate (ν : Type) where
  name : Option String
  encrypted_image : Option RawImageRef
  member_kind : Option Int
  metadata : Option (OrdMap String (RawMetadataValue ν))
  deriving DecidableEq

/-- The raw `MemberProfile`. -/
structure RawMemberProfile (ν : Type) extends RawProfileUpdate ν where
  inbox_id : Option Bytes
  deriving DecidableEq

/-- The raw `ProfileSnapshot`. -/
structure RawProfileSnapshot (ν : Type) where
  profiles : Option (List (RawMemberProfile ν))
  deriving DecidableEq

/-- A `protobuf.Type` for raw messages, `decode` being followed by `toObject` with the
options of the source. -/
structure ProtobufType (ρ : Type) (WellTyped : ρ → Prop) (withDefaults : ρ → ρ) where
  verify : ρ → Option String
  encode : ρ → Bytes
  decode : Bytes → Except String ρ
  verify_eq_none : ∀ {raw : ρ}, WellTyped raw → verify raw = none
  /-- What was written is read, up to fields that have their default. -/
  decode_encode : ∀ {raw : ρ}, WellTyped raw →
    ∃ got, decode (encode raw) = .ok got ∧ withDefaults got = withDefaults raw

/-- Exactly one field of the oneof is set. -/
def RawMetadataValue.OneField {ν : Type} (value : RawMetadataValue ν) : Prop :=
  (∃ text, value = { string_value := some text }) ∨
    (∃ number, value = { number_value := some number }) ∨
      ∃ flag, value = { bool_value := some flag }

/-- The fields without presence filled in. -/
def RawImageRef.withDefaults (image : RawImageRef) : RawImageRef where
  url := some (image.url.getD "")
  salt := some (image.salt.getD [])
  nonce := some (image.nonce.getD [])

namespace RawProfileUpdate

variable {ν : Type}

/-- The kind is one of the enum, and metadata are properties that each set one field. -/
def WellTyped (raw : RawProfileUpdate ν) : Prop :=
  (∀ kind, raw.member_kind = some kind → kind = 0 ∨ kind = 1) ∧
    ∀ metadata, raw.metadata = some metadata → metadata.get? "__proto__" = none ∧
      ∀ key value, metadata.get? key = some value → value.OneField

/-- The fields without presence filled in. -/
def withDefaults (raw : RawProfileUpdate ν) : RawProfileUpdate ν :=
  { raw with
    encrypted_image := raw.encrypted_image.map RawImageRef.withDefaults
    metadata := some (raw.metadata.getD OrdMap.empty) }

end RawProfileUpdate

/-- The fields without presence filled in. -/
def RawMemberProfile.withDefaults {ν : Type} (raw : RawMemberProfile ν) : RawMemberProfile ν :=
  { raw.toRawProfileUpdate.withDefaults with inbox_id := some (raw.inbox_id.getD []) }

namespace RawProfileSnapshot

variable {ν : Type}

/-- Every member is well typed. -/
def WellTyped (raw : RawProfileSnapshot ν) : Prop :=
  ∀ profile ∈ raw.profiles.getD [], profile.toRawProfileUpdate.WellTyped

/-- The fields without presence filled in. -/
def withDefaults (raw : RawProfileSnapshot ν) : RawProfileSnapshot ν :=
  ⟨some ((raw.profiles.getD []).map RawMemberProfile.withDefaults)⟩

end RawProfileSnapshot

abbrev ProfileUpdateType (ν : Type) :=
  ProtobufType (RawProfileUpdate ν) RawProfileUpdate.WellTyped RawProfileUpdate.withDefaults

abbrev ProfileSnapshotType (ν : Type) :=
  ProtobufType (RawProfileSnapshot ν) RawProfileSnapshot.WellTyped RawProfileSnapshot.withDefaults

/-! ### Metadata -/

section Metadata

variable {α β γ : Type}

/-- `result[key] = value` for an object literal: `__proto__` sets the prototype. -/
def assignProperty (result : OrdMap String α) (key : String) (value : α) : OrdMap String α :=
  if key = "__proto__" then result else result.set key value

/-- One turn of the loops over `Object.entries`; a value may leave its key out. -/
def copyProperty (convert : α → Option β) (result : OrdMap String β) (entry : String × α) :
    OrdMap String β :=
  match convert entry.2 with
  | some value => assignProperty result entry.1 value
  | none => result

/-- The loops over `Object.entries`. -/
def copyProperties (convert : α → Option β) (source : OrdMap String α) : OrdMap String β :=
  source.entries.foldl (copyProperty convert) OrdMap.empty

/-- What the loop adds for one entry. -/
def copiedEntry (convert : α → Option β) (entry : String × α) : Option (String × β) :=
  if entry.1 = "__proto__" then none else (convert entry.2).map (Prod.mk entry.1)

theorem copiedEntry_key {convert : α → Option β} {entry : String × α} {copied : String × β}
    (h : copiedEntry convert entry = some copied) : copied.1 = entry.1 := by
  unfold copiedEntry at h
  split at h
  · cases h
  · obtain ⟨value, -, rfl⟩ := Option.map_eq_some_iff.1 h
    rfl

/-- An entry with a new key goes to the end, if it goes anywhere. -/
theorem entries_copyProperty {convert : α → Option β} {result : OrdMap String β}
    {entry : String × α} (hnew : result.get? entry.1 = none) :
    (copyProperty convert result entry).entries =
      result.entries ++ (copiedEntry convert entry).toList := by
  unfold copyProperty copiedEntry assignProperty
  cases convert entry.2 with
  | none => rw [Option.map_none, ite_self, Option.toList_none, List.append_nil]
  | some value =>
    by_cases hproto : entry.1 = "__proto__"
    · rw [if_pos hproto, Option.toList_none, List.append_nil]
      exact congrArg _ (if_pos hproto)
    · rw [if_neg hproto, Option.map_some, Option.toList_some]
      show (if entry.1 = "__proto__" then result else result.set entry.1 value).entries = _
      rw [if_neg hproto, OrdMap.entries_set_of_new value hnew]

theorem get?_copyProperty_of_ne {convert : α → Option β} {result : OrdMap String β}
    {entry : String × α} {key : String} (hne : key ≠ entry.1) :
    (copyProperty convert result entry).get? key = result.get? key := by
  unfold copyProperty assignProperty
  cases convert entry.2 with
  | none => rfl
  | some value =>
    show (if entry.1 = "__proto__" then result else result.set entry.1 value).get? key = _
    by_cases hproto : entry.1 = "__proto__"
    · rw [if_pos hproto]
    · rw [if_neg hproto, OrdMap.get?_set_of_ne _ _ hne]

theorem entries_foldl_copyProperty {convert : α → Option β} {entries : List (String × α)}
    (hnodup : (entries.map Prod.fst).Nodup) {result : OrdMap String β}
    (hnew : ∀ key ∈ entries.map Prod.fst, result.get? key = none) :
    (entries.foldl (copyProperty convert) result).entries =
      result.entries ++ entries.filterMap (copiedEntry convert) := by
  induction entries generalizing result with
  | nil => exact (List.append_nil _).symm
  | cons entry rest ih =>
    rw [List.map_cons, List.nodup_cons] at hnodup
    -- the key of this turn is none of the later ones
    have hlater : ∀ key ∈ rest.map Prod.fst,
        (copyProperty convert result entry).get? key = none := by
      intro key hkey
      have hne : key ≠ entry.1 := fun heq => hnodup.1 (heq ▸ hkey)
      rw [get?_copyProperty_of_ne hne]
      exact hnew key (List.mem_cons_of_mem _ hkey)
    rw [List.foldl_cons, ih hnodup.2 hlater, entries_copyProperty (hnew _ List.mem_cons_self),
      List.append_assoc, List.filterMap_cons]
    cases copiedEntry convert entry <;> rfl

/-- **What a loop copies**: every entry it converts, in order, but for the key `__proto__`. -/
theorem entries_copyProperties (convert : α → Option β) (source : OrdMap String α) :
    (copyProperties convert source).entries =
      source.entries.filterMap (copiedEntry convert) :=
  entries_foldl_copyProperty source.nodup fun _ _ => OrdMap.get?_empty _

theorem get?_copyProperties_proto (convert : α → Option β) (source : OrdMap String α) :
    (copyProperties convert source).get? "__proto__" = none := by
  rw [Option.eq_none_iff_forall_not_mem]
  intro value hget
  have hmem := OrdMap.mem_entries_iff.2 hget
  rw [entries_copyProperties] at hmem
  obtain ⟨entry, -, hcopied⟩ := List.mem_filterMap.1 hmem
  have hkey : "__proto__" = entry.1 := copiedEntry_key hcopied
  rw [copiedEntry, if_pos hkey.symm] at hcopied
  cases hcopied

/-- Two loops of which the second undoes what the first did: only `__proto__` is lost. -/
theorem copyProperties_copyProperties {convert : α → Option β} {back : β → Option α}
    (hback : ∀ value, (convert value).bind back = some value) (source : OrdMap String α) :
    copyProperties back (copyProperties convert source) = source.erase "__proto__" := by
  have hentry : ∀ entry : String × α,
      (copiedEntry convert entry).bind (copiedEntry back) =
        if entry.1 ≠ "__proto__" then some entry else none := by
    intro entry
    by_cases hproto : entry.1 = "__proto__"
    · rw [copiedEntry, if_pos hproto, if_neg (not_not_intro hproto)]
      rfl
    · obtain ⟨value, hvalue, hold⟩ := Option.bind_eq_some_iff.1 (hback entry.2)
      rw [copiedEntry, if_neg hproto, if_pos hproto, hvalue, Option.map_some, Option.bind_some,
        copiedEntry, if_neg hproto, hold]
      rfl
  apply OrdMap.ext
  rw [entries_copyProperties, entries_copyProperties, List.filterMap_filterMap]
  show source.entries.filterMap _ = source.entries.filter fun entry => entry.1 ≠ "__proto__"
  rw [← List.filterMap_eq_filter]
  refine List.filterMap_congr fun entry _ => ?_
  rw [hentry entry]
  by_cases hproto : entry.1 = "__proto__" <;> simp [hproto, Option.guard]

end Metadata

/-- The object literal for one value. -/
def ProfileMetadataValue.toProto {ν : Type} : ProfileMetadataValue ν → RawMetadataValue ν
  | .string value => { string_value := some value }
  | .number value => { number_value := some value }
  | .bool value => { bool_value := some value }

/-- The `switch` over the oneof; without its name, the first field that is set. -/
def RawMetadataValue.fromProto {ν : Type} [Zero ν] (value : RawMetadataValue ν) :
    Option (ProfileMetadataValue ν) :=
  match value.value with
  | some .string_value => some (.string (value.string_value.getD ""))
  | some .number_value => some (.number (value.number_value.getD 0))
  | some .bool_value => some (.bool (value.bool_value.getD false))
  | none =>
    match value.string_value, value.number_value, value.bool_value with
    | some text, _, _ => some (.string text)
    | none, some number, _ => some (.number number)
    | none, none, some flag => some (.bool flag)
    | none, none, none => none

def metadataToProto {ν : Type} (metadata : ProfileMetadata ν) :
    OrdMap String (RawMetadataValue ν) :=
  copyProperties (fun value => some value.toProto) metadata

def metadataFromProto {ν : Type} [Zero ν] (raw : Option (OrdMap String (RawMetadataValue ν))) :
    Option (ProfileMetadata ν) :=
  match raw with
  | none => none
  | some raw =>
    if raw.isEmpty then none
    else
      let result := copyProperties RawMetadataValue.fromProto raw
      if result.isEmpty then none else some result

/-! ### Inbox ids -/

namespace ProfileMessages

/-- `Buffer.from(clean, "hex")`: pairs of digits, as far as there are any. -/
def bufferFromHex : List Char → Bytes
  | a :: b :: rest =>
    match hexDigit? a.toNat, hexDigit? b.toNat with
    | some x, some y => UInt8.ofNat (16 * x + y) :: bufferFromHex rest
    | _, _ => []
  | _ => []

def hexToBytes (hex : String) : Bytes :=
  match hex.toList with
  | '0' :: 'x' :: clean => bufferFromHex clean
  | clean => bufferFromHex clean

end ProfileMessages

/-! ### Encoders and decoders -/

section Codecs

variable {ν : Type} [Zero ν]

omit [Zero ν] in
/-- The object that the encoders fill field by field. -/
def ProfileUpdateContent.toRaw (update : ProfileUpdateContent ν) : RawProfileUpdate ν where
  name := update.name
  encrypted_image := update.encryptedImage.map fun image =>
    ⟨some image.url, some image.salt, some image.nonce⟩
  member_kind :=
    match update.memberKind with
    | some kind => if kind = .unspecified then none else some kind.number
    | none => none
  metadata :=
    match update.metadata with
    | some metadata => if metadata.isEmpty then none else some (metadataToProto metadata)
    | none => none

/-- The object that the decoders build from the fields that are there. -/
def RawProfileUpdate.fromRaw (object : RawProfileUpdate ν) : ProfileUpdateContent ν where
  name := object.name
  encryptedImage := object.encrypted_image.map fun image =>
    ⟨image.url.getD "", image.salt.getD [], image.nonce.getD []⟩
  memberKind := object.member_kind.map MemberKind.mk
  metadata := metadataFromProto object.metadata

omit [Zero ν] in
/-- The entry of one member, as the encoder writes it. -/
def MemberProfileEntry.toRaw (profile : MemberProfileEntry ν) : RawMemberProfile ν :=
  { profile.toProfileUpdateContent.toRaw with
    inbox_id := some (ProfileMessages.hexToBytes profile.inboxId) }

/-- The entry of one member, as the decoder reads it. -/
def RawMemberProfile.fromRaw (profile : RawMemberProfile ν) : MemberProfileEntry ν :=
  { profile.toRawProfileUpdate.fromRaw with inboxId := bytesToHex (profile.inbox_id.getD []) }

omit [Zero ν] in
/-- `encodeProfileUpdate`; what it throws is the error. -/
def encodeProfileUpdate (updateType : ProfileUpdateType ν) (update : ProfileUpdateContent ν) :
    Except String EncodedConvosContent :=
  match updateType.verify update.toRaw with
  | some error => .error ("Invalid ProfileUpdate: " ++ error)
  | none => .ok {
      type := contentTypeProfileUpdate
      parameters := OrdMap.empty
      content := updateType.encode update.toRaw }

def decodeProfileUpdate (updateType : ProfileUpdateType ν) (content : Bytes) :
    Except String (ProfileUpdateContent ν) :=
  (updateType.decode content).map RawProfileUpdate.fromRaw

omit [Zero ν] in
def encodeProfileSnapshot (snapshotType : ProfileSnapshotType ν)
    (snapshot : ProfileSnapshotContent ν) : Except String EncodedConvosContent :=
  let raw : RawProfileSnapshot ν := ⟨some (snapshot.profiles.map MemberProfileEntry.toRaw)⟩
  match snapshotType.verify raw with
  | some error => .error ("Invalid ProfileSnapshot: " ++ error)
  | none => .ok {
      type := contentTypeProfileSnapshot
      parameters := OrdMap.empty
      content := snapshotType.encode raw }

def decodeProfileSnapshot (snapshotType : ProfileSnapshotType ν) (content : Bytes) :
    Except String (ProfileSnapshotContent ν) :=
  (snapshotType.decode content).map fun object =>
    ⟨(object.profiles.getD []).map RawMemberProfile.fromRaw⟩

end Codecs

/-! ### Canonical values -/

/-- A digit as `toString("hex")` writes it. -/
def lowerHexDigits : List Char := "0123456789abcdef".toList

/-- Lowercase hex of even length. -/
structure IsCanonicalInboxId (inboxId : String) : Prop where
  even : inboxId.toList.length % 2 = 0
  digits : ∀ c ∈ inboxId.toList, c ∈ lowerHexDigits

/-- Metadata are absent or not empty, and the kind is absent or an agent's. -/
structure ProfileUpdateContent.Canonical {ν : Type} (update : ProfileUpdateContent ν) : Prop where
  metadata : ∀ metadata, update.metadata = some metadata → metadata.isEmpty = false
  memberKind : ∀ kind, update.memberKind = some kind → kind = .agent

/-- Every member has a canonical id and a canonical profile. -/
structure ProfileSnapshotContent.Canonical {ν : Type} (snapshot : ProfileSnapshotContent ν) :
    Prop where
  inboxId : ∀ profile ∈ snapshot.profiles, IsCanonicalInboxId profile.inboxId
  profile : ∀ profile ∈ snapshot.profiles, profile.toProfileUpdateContent.Canonical

/-- No property of the metadata is called `__proto__`. -/
def ProfileUpdateContent.NoProto {ν : Type} (update : ProfileUpdateContent ν) : Prop :=
  ∀ metadata, update.metadata = some metadata → metadata.get? "__proto__" = none

/-- The profile without that property, and without metadata if it was the only one. -/
def ProfileUpdateContent.withoutProto {ν : Type} (update : ProfileUpdateContent ν) :
    ProfileUpdateContent ν :=
  { update with
    metadata := (update.metadata.map (OrdMap.erase · "__proto__")).filter fun metadata =>
      !metadata.isEmpty }

/-- The same of one member. -/
def MemberProfileEntry.withoutProto {ν : Type} (profile : MemberProfileEntry ν) :
    MemberProfileEntry ν :=
  { profile.toProfileUpdateContent.withoutProto with inboxId := profile.inboxId }

section

variable {ν : Type} {update : ProfileUpdateContent ν} {profile : MemberProfileEntry ν}
  {snapshot : ProfileSnapshotContent ν}

/-- A canonical profile is unchanged exactly if it does not have that property. -/
theorem withoutProto_eq_self_iff (h : update.Canonical) :
    update.withoutProto = update ↔ update.NoProto := by
  obtain ⟨name, encryptedImage, memberKind, metadata⟩ := update
  unfold ProfileUpdateContent.withoutProto ProfileUpdateContent.NoProto
  simp only [ProfileUpdateContent.mk.injEq, true_and]
  cases metadata with
  | none => simp
  | some metadata =>
    have hfilled : metadata.isEmpty = false := h.metadata _ rfl
    constructor
    · intro heq _ hsome
      cases hsome
      obtain ⟨herase, -⟩ := Option.filter_eq_some_iff.1 heq
      exact OrdMap.erase_eq_self_iff.1 (Option.some.inj herase)
    · intro hnone
      rw [Option.map_some, OrdMap.erase_eq_self_iff.2 (hnone metadata rfl), Option.filter_some,
        hfilled]
      rfl

theorem member_withoutProto_eq_self_iff (h : profile.toProfileUpdateContent.Canonical) :
    profile.withoutProto = profile ↔ profile.toProfileUpdateContent.NoProto := by
  rw [← withoutProto_eq_self_iff h]
  constructor
  · exact congrArg MemberProfileEntry.toProfileUpdateContent
  · intro heq
    unfold MemberProfileEntry.withoutProto
    rw [heq]

/-! ### Inbox ids come back -/

theorem byteToHex_digits : ∀ a ∈ lowerHexDigits, ∀ b ∈ lowerHexDigits,
    ((hexDigit? a.toNat).bind fun x => (hexDigit? b.toNat).map fun y =>
      byteToHex (UInt8.ofNat (16 * x + y))) = some [a, b] := by
  -- as a test of the list of digits
  have hall : (lowerHexDigits.all fun a => lowerHexDigits.all fun b =>
      ((hexDigit? a.toNat).bind fun x => (hexDigit? b.toNat).map fun y =>
        byteToHex (UInt8.ofNat (16 * x + y))) == some [a, b]) = true := by
    decide +kernel
  intro a ha b hb
  exact beq_iff_eq.1 (List.all_eq_true.1 (List.all_eq_true.1 hall a ha) b hb)

theorem flatMap_bufferFromHex {text : List Char} (heven : text.length % 2 = 0)
    (hdigits : ∀ c ∈ text, c ∈ lowerHexDigits) :
    (ProfileMessages.bufferFromHex text).flatMap byteToHex = text := by
  induction text using ProfileMessages.bufferFromHex.induct with
  | case1 a b rest x y hx hy ih =>
    obtain ⟨ha, hb, hrest⟩ : a ∈ lowerHexDigits ∧ b ∈ lowerHexDigits ∧
        ∀ c ∈ rest, c ∈ lowerHexDigits :=
      ⟨hdigits _ (by simp), hdigits _ (by simp), fun c hc => hdigits c (by simp [hc])⟩
    have hpair := byteToHex_digits a ha b hb
    rw [hx, hy] at hpair
    have hlength : rest.length % 2 = 0 := by
      simp only [List.length_cons] at heven
      omega
    rw [ProfileMessages.bufferFromHex, hx, hy]
    show byteToHex _ ++ (ProfileMessages.bufferFromHex rest).flatMap byteToHex = _
    rw [ih hlength hrest, show byteToHex (UInt8.ofNat (16 * x + y)) = [a, b] from
      Option.some.inj hpair]
    rfl
  | case2 a b rest hbad =>
    -- both are digits
    have hpair := byteToHex_digits a (hdigits _ (by simp)) b (hdigits _ (by simp))
    cases hx : hexDigit? a.toNat with
    | none => simp [hx] at hpair
    | some x =>
      cases hy : hexDigit? b.toNat with
      | none => simp [hy] at hpair
      | some y => exact (hbad x y hx hy).elim
  | case3 text hshort =>
    match text, hshort, heven with
    | [], _, _ => rfl
    | a :: b :: rest, hshort, _ => exact (hshort a b rest rfl).elim

/-- **Inbox ids come back**: a canonical one is what its bytes are written as. -/
theorem bytesToHex_hexToBytes {inboxId : String} (h : IsCanonicalInboxId inboxId) :
    bytesToHex (ProfileMessages.hexToBytes inboxId) = inboxId := by
  have hread : ProfileMessages.hexToBytes inboxId =
      ProfileMessages.bufferFromHex inboxId.toList := by
    unfold ProfileMessages.hexToBytes
    split
    · next clean htext =>
      -- `x` is no digit
      have hx : 'x' ∈ lowerHexDigits := h.digits 'x' (by simp [htext])
      exact absurd hx (by decide)
    · rfl
  rw [hread, bytesToHex, flatMap_bufferFromHex h.even h.digits, String.ofList_toList]

/-! ### The round trip -/

variable [Zero ν]

theorem fromProto_toProto (value : ProfileMetadataValue ν) :
    value.toProto.fromProto = some value := by
  cases value <;> rfl

/-- Metadata come back without `__proto__`. -/
theorem metadataFromProto_metadataToProto (metadata : ProfileMetadata ν) :
    metadataFromProto (some (metadataToProto metadata)) =
      if (metadata.erase "__proto__").isEmpty then none
      else some (metadata.erase "__proto__") := by
  have hback : copyProperties RawMetadataValue.fromProto (metadataToProto metadata) =
      metadata.erase "__proto__" :=
    copyProperties_copyProperties fromProto_toProto metadata
  unfold metadataFromProto
  dsimp only
  rw [hback]
  by_cases hempty : (metadataToProto metadata).isEmpty = true
  · -- nothing was copied, so nothing comes back
    rw [if_pos hempty]
    rw [OrdMap.eq_empty_of_isEmpty hempty] at hback
    rw [← hback]
    rfl
  · rw [if_neg hempty]

theorem fromRaw_withDefaults (raw : RawProfileUpdate ν) :
    raw.withDefaults.fromRaw = raw.fromRaw := by
  obtain ⟨name, image, kind, metadata⟩ := raw
  unfold RawProfileUpdate.withDefaults RawProfileUpdate.fromRaw
  simp only [ProfileUpdateContent.mk.injEq, true_and]
  refine ⟨?_, ?_⟩
  · cases image <;> rfl
  · cases metadata <;> rfl

theorem member_fromRaw_withDefaults (raw : RawMemberProfile ν) :
    raw.withDefaults.fromRaw = raw.fromRaw := by
  unfold RawMemberProfile.withDefaults RawMemberProfile.fromRaw
  rw [fromRaw_withDefaults]
  rfl

theorem fromRaw_toRaw (h : update.Canonical) : update.toRaw.fromRaw = update.withoutProto := by
  obtain ⟨name, image, kind, metadata⟩ := update
  unfold ProfileUpdateContent.toRaw RawProfileUpdate.fromRaw ProfileUpdateContent.withoutProto
  simp only [ProfileUpdateContent.mk.injEq, true_and]
  refine ⟨?_, ?_, ?_⟩
  · cases image <;> rfl
  · cases kind with
    | none => rfl
    | some kind =>
      obtain rfl : kind = .agent := h.memberKind kind rfl
      rfl
  · cases metadata with
    | none => rfl
    | some metadata =>
      have hfilled : metadata.isEmpty = false := h.metadata metadata rfl
      dsimp only
      rw [hfilled, if_neg Bool.false_ne_true, metadataFromProto_metadataToProto,
        Option.map_some, Option.filter_some]
      cases (metadata.erase "__proto__").isEmpty <;> rfl

theorem member_fromRaw_toRaw (h : profile.toProfileUpdateContent.Canonical)
    (hid : IsCanonicalInboxId profile.inboxId) :
    profile.toRaw.fromRaw = profile.withoutProto := by
  unfold MemberProfileEntry.toRaw RawMemberProfile.fromRaw MemberProfileEntry.withoutProto
  rw [fromRaw_toRaw h]
  show MemberProfileEntry.mk _ (bytesToHex (ProfileMessages.hexToBytes profile.inboxId)) = _
  rw [bytesToHex_hexToBytes hid]

omit [Zero ν] in
theorem wellTyped_toRaw (h : update.Canonical) : update.toRaw.WellTyped := by
  constructor
  · intro kind hkind
    cases hupdate : update.memberKind with
    | none =>
      rw [ProfileUpdateContent.toRaw, hupdate] at hkind
      cases hkind
    | some memberKind =>
      obtain rfl := h.memberKind memberKind hupdate
      rw [ProfileUpdateContent.toRaw, hupdate] at hkind
      exact .inr (Option.some.inj hkind).symm
  · intro raw hraw
    cases hupdate : update.metadata with
    | none =>
      rw [ProfileUpdateContent.toRaw, hupdate] at hraw
      cases hraw
    | some metadata =>
      have hfilled : metadata.isEmpty = false := h.metadata metadata hupdate
      obtain rfl : metadataToProto metadata = raw := by
        rw [ProfileUpdateContent.toRaw, hupdate] at hraw
        dsimp only at hraw
        rw [hfilled] at hraw
        exact Option.some.inj hraw
      refine ⟨get?_copyProperties_proto _ _, fun key value hget => ?_⟩
      -- every value is the literal of one that was converted
      have hmem := OrdMap.mem_entries_iff.2 hget
      rw [metadataToProto, entries_copyProperties] at hmem
      obtain ⟨entry, -, hcopied⟩ := List.mem_filterMap.1 hmem
      unfold copiedEntry at hcopied
      split at hcopied
      · cases hcopied
      · cases hcopied
        cases entry.2 with
        | string text => exact .inl ⟨text, rfl⟩
        | number number => exact .inr (.inl ⟨number, rfl⟩)
        | bool flag => exact .inr (.inr ⟨flag, rfl⟩)

/-- **A profile update comes back** without the property `__proto__` of its metadata. -/
theorem decode_encode_update (updateType : ProfileUpdateType ν) (h : update.Canonical) :
    ∃ encoded, encodeProfileUpdate updateType update = .ok encoded ∧
      decodeProfileUpdate updateType encoded.content = .ok update.withoutProto := by
  have htyped : update.toRaw.WellTyped := wellTyped_toRaw h
  obtain ⟨got, hdecode, hgot⟩ := updateType.decode_encode htyped
  refine ⟨_, by rw [encodeProfileUpdate, updateType.verify_eq_none htyped], ?_⟩
  rw [decodeProfileUpdate, hdecode]
  show Except.ok got.fromRaw = _
  rw [← fromRaw_withDefaults, hgot, fromRaw_withDefaults, fromRaw_toRaw h]

/-- **A profile snapshot comes back** with the profile of each member read that way. -/
theorem decode_encode_snapshot (snapshotType : ProfileSnapshotType ν) (h : snapshot.Canonical) :
    ∃ encoded, encodeProfileSnapshot snapshotType snapshot = .ok encoded ∧
      decodeProfileSnapshot snapshotType encoded.content =
        .ok ⟨snapshot.profiles.map MemberProfileEntry.withoutProto⟩ := by
  have htyped : RawProfileSnapshot.WellTyped
      ⟨some (snapshot.profiles.map MemberProfileEntry.toRaw)⟩ := by
    intro raw hraw
    obtain ⟨profile, hprofile, rfl⟩ := List.mem_map.1 hraw
    exact wellTyped_toRaw (h.profile profile hprofile)
  obtain ⟨got, hdecode, hgot⟩ := snapshotType.decode_encode htyped
  refine ⟨_, by rw [encodeProfileSnapshot, snapshotType.verify_eq_none htyped], ?_⟩
  rw [decodeProfileSnapshot, hdecode]
  have hlist : (got.profiles.getD []).map RawMemberProfile.withDefaults =
      (snapshot.profiles.map MemberProfileEntry.toRaw).map RawMemberProfile.withDefaults :=
    Option.some.inj (congrArg RawProfileSnapshot.profiles hgot)
  have hread : ∀ raws : List (RawMemberProfile ν), raws.map RawMemberProfile.fromRaw =
      (raws.map RawMemberProfile.withDefaults).map RawMemberProfile.fromRaw := by
    intro raws
    rw [List.map_map]
    exact List.map_congr_left fun raw _ => (member_fromRaw_withDefaults raw).symm
  show Except.ok (ProfileSnapshotContent.mk _) = _
  rw [hread, hlist, ← hread, List.map_map]
  congr 2
  exact List.map_congr_left fun profile hprofile =>
    member_fromRaw_toRaw (h.profile profile hprofile) (h.inboxId profile hprofile)

omit [Zero ν] in
theorem map_withoutProto_eq_self_iff (h : snapshot.Canonical) :
    snapshot.profiles.map MemberProfileEntry.withoutProto = snapshot.profiles ↔
      ∀ profile ∈ snapshot.profiles, profile.toProfileUpdateContent.NoProto := by
  calc snapshot.profiles.map MemberProfileEntry.withoutProto = snapshot.profiles
      ↔ snapshot.profiles.map MemberProfileEntry.withoutProto = snapshot.profiles.map id := by
        rw [List.map_id]
    _ ↔ ∀ profile ∈ snapshot.profiles, profile.withoutProto = profile := List.map_inj_left
    _ ↔ _ := forall₂_congr fun profile hprofile =>
        member_withoutProto_eq_self_iff (h.profile profile hprofile)

/-- **When profiles come back.** A canonical update and a canonical snapshot are decoded to
themselves exactly if none of their metadata has a property called `__proto__`. -/
theorem decode_encode_profile_iff (updateType : ProfileUpdateType ν)
    (snapshotType : ProfileSnapshotType ν) (hupdate : update.Canonical)
    (hsnapshot : snapshot.Canonical) :
    ((∃ encoded, encodeProfileUpdate updateType update = .ok encoded ∧
        decodeProfileUpdate updateType encoded.content = .ok update) ↔ update.NoProto) ∧
      ((∃ encoded, encodeProfileSnapshot snapshotType snapshot = .ok encoded ∧
        decodeProfileSnapshot snapshotType encoded.content = .ok snapshot) ↔
          ∀ profile ∈ snapshot.profiles, profile.toProfileUpdateContent.NoProto) := by
  constructor
  · obtain ⟨encoded, hencode, hdecode⟩ := decode_encode_update updateType hupdate
    rw [← withoutProto_eq_self_iff hupdate]
    constructor
    · rintro ⟨encoded', hencode', hback⟩
      obtain rfl := Except.ok.inj (hencode.symm.trans hencode')
      exact Except.ok.inj (hdecode.symm.trans hback)
    · intro hself
      exact ⟨encoded, hencode, hself ▸ hdecode⟩
  · obtain ⟨encoded, hencode, hdecode⟩ := decode_encode_snapshot snapshotType hsnapshot
    rw [← map_withoutProto_eq_self_iff hsnapshot]
    constructor
    · rintro ⟨encoded', hencode', hback⟩
      obtain rfl := Except.ok.inj (hencode.symm.trans hencode')
      exact congrArg ProfileSnapshotContent.profiles (Except.ok.inj (hdecode.symm.trans hback))
    · intro hself
      refine ⟨encoded, hencode, ?_⟩
      rw [hdecode, hself]

end

/-! ### A wire that knows one message of each type -/

namespace ProfileExample

instance encodableChar : Encodable Char :=
  Encodable.ofLeftInjection Char.toNat (fun n => some (Char.ofNat n)) fun c => by
    rw [Char.ofNat_toNat]

instance encodableString : Encodable String :=
  Encodable.ofLeftInjection String.toList (fun l => some (String.ofList l)) fun s => by
    rw [String.ofList_toList]

instance encodableByte : Encodable UInt8 :=
  Encodable.ofLeftInjection UInt8.toNat (fun n => some (UInt8.ofNat n)) fun b => by
    rw [UInt8.ofNat_toNat]

instance encodableMap {α : Type} [Encodable α] : Encodable (OrdMap String α) :=
  Encodable.ofLeftInjection OrdMap.entries
    (fun entries => if h : (entries.map Prod.fst).Nodup then some ⟨entries, h⟩ else none)
    fun m => dif_pos m.nodup

deriving instance Encodable for MetadataField, RawMetadataValue, RawImageRef, RawProfileUpdate,
  RawMemberProfile, RawProfileSnapshot

/-- One message is written as protobuf writes it, and every other one as its number, in zeros
after a byte that no message begins with. -/
def wire {ρ : Type} [Encodable ρ] [DecidableEq ρ] {WellTyped : ρ → Prop} {withDefaults : ρ → ρ}
    (hidem : ∀ raw, withDefaults (withDefaults raw) = withDefaults raw) (known : ρ)
    (bytes : Bytes) (hbytes : bytes.head? ≠ some 0xff) : ProtobufType ρ WellTyped withDefaults where
  verify _ := none
  encode raw :=
    if raw = known then bytes else 0xff :: List.replicate (Encodable.encode raw) 0
  decode content :=
    if content = bytes then .ok (withDefaults known)
    else match content with
    | 0xff :: zeros =>
      match Encodable.decode zeros.length with
      | some raw => .ok (withDefaults raw)
      | none => .error "index out of range"
    | _ => .error "invalid wire type"
  verify_eq_none _ := rfl
  decode_encode {raw} _ := by
    refine ⟨withDefaults raw, ?_, hidem raw⟩
    by_cases hknown : raw = known
    · rw [if_pos hknown, if_pos rfl, hknown]
    · have hne : 0xff :: List.replicate (Encodable.encode raw) 0 ≠ bytes := by
        rintro rfl
        exact hbytes rfl
      rw [if_neg hknown, if_neg hne]
      show (match Encodable.decode (List.replicate (Encodable.encode raw) (0 : UInt8)).length with
        | some raw => Except.ok (withDefaults raw)
        | none => .error "index out of range") = _
      rw [List.length_replicate, Encodable.encodek]

/-- The agent Ada with an image and a team. -/
def ada : ProfileUpdateContent Nat where
  name := some "Ada"
  encryptedImage := some ⟨"i", List.replicate 32 1, List.replicate 12 2⟩
  memberKind := some .agent
  metadata := some (OrdMap.empty.set "team" (.string "core"))

/-- One member that published no profile. -/
def silent : ProfileSnapshotContent Nat := ⟨[{ inboxId := "ab" }]⟩

theorem withDefaults_withDefaults {ν : Type} (raw : RawProfileUpdate ν) :
    raw.withDefaults.withDefaults = raw.withDefaults := by
  obtain ⟨name, image, kind, metadata⟩ := raw
  cases image <;> rfl

theorem snapshot_withDefaults_withDefaults {ν : Type} (raw : RawProfileSnapshot ν) :
    raw.withDefaults.withDefaults = raw.withDefaults := by
  have hmember : ∀ profile : RawMemberProfile ν,
      profile.withDefaults.withDefaults = profile.withDefaults := by
    intro profile
    show RawMemberProfile.mk profile.toRawProfileUpdate.withDefaults.withDefaults _ = _
    rw [withDefaults_withDefaults]
    rfl
  show RawProfileSnapshot.mk (some (((raw.profiles.getD []).map _).map _)) = _
  rw [List.map_map]
  exact congrArg (fun profiles => RawProfileSnapshot.mk (some profiles))
    (List.map_congr_left fun profile _ => hmember profile)

/-- The wire that knows Ada's update. -/
def updateWire : ProfileUpdateType Nat :=
  wire withDefaults_withDefaults ada.toRaw ([0x0a, 0x03, 0x41, 0x64, 0x61, 0x12, 0x33, 0x0a, 0x01,
    0x69, 0x12, 0x20] ++ List.replicate 32 1 ++ [0x1a, 0x0c] ++ List.replicate 12 2 ++
    [0x18, 0x01, 0x22, 0x0e, 0x0a, 0x04, 0x74, 0x65, 0x61, 0x6d, 0x12, 0x06, 0x0a, 0x04, 0x63, 0x6f,
    0x72, 0x65]) (by decide)

/-- The wire that knows the snapshot of the silent member. -/
def snapshotWire : ProfileSnapshotType Nat :=
  wire snapshot_withDefaults_withDefaults ⟨some (silent.profiles.map MemberProfileEntry.toRaw)⟩
    [0x0a, 0x03, 0x0a, 0x01, 0xab] (by decide)

theorem silent_canonical : silent.Canonical where
  inboxId profile hprofile := by
    obtain rfl := List.mem_singleton.1 hprofile
    have hdigits : ("ab".toList.all fun c => lowerHexDigits.contains c) = true := by decide
    exact ⟨by decide, fun c hc => List.contains_iff_mem.1 (List.all_eq_true.1 hdigits c hc)⟩
  profile profile hprofile := by
    obtain rfl := List.mem_singleton.1 hprofile
    exact ⟨nofun, nofun⟩

end ProfileExample

/-- Ada's update and the silent member come back. -/
theorem decode_encode_profile_iff_ada :
    (∃ encoded, encodeProfileUpdate ProfileExample.updateWire ProfileExample.ada = .ok encoded ∧
      decodeProfileUpdate ProfileExample.updateWire encoded.content = .ok ProfileExample.ada) ∧
    ∃ encoded, encodeProfileSnapshot ProfileExample.snapshotWire ProfileExample.silent =
        .ok encoded ∧
      decodeProfileSnapshot ProfileExample.snapshotWire encoded.content =
        .ok ProfileExample.silent := by
  have hada : ProfileExample.ada.Canonical :=
    ⟨fun _ h => by cases h; rfl, fun _ h => (Option.some.inj h).symm⟩
  have hboth := decode_encode_profile_iff ProfileExample.updateWire ProfileExample.snapshotWire
    hada ProfileExample.silent_canonical
  refine ⟨hboth.1.2 fun _ h => by cases h; rfl, hboth.2.2 fun profile hprofile => ?_⟩
  obtain rfl := List.mem_singleton.1 hprofile
  nofun

/-- **A property is lost.** Metadata whose only property is called `__proto__` come back as
none at all, whatever the wire is. -/
theorem proto_metadata_lost : ¬ ∀ (updateType : ProfileUpdateType Nat)
    (update : ProfileUpdateContent Nat), update.Canonical →
      ∃ encoded, encodeProfileUpdate updateType update = .ok encoded ∧
        decodeProfileUpdate updateType encoded.content = .ok update := by
  intro h
  have hcanonical : ({ metadata := some (OrdMap.empty.set "__proto__" (.string "x")) } :
      ProfileUpdateContent Nat).Canonical :=
    ⟨fun _ h => by cases h; rfl, nofun⟩
  obtain ⟨encoded, hencode, hback⟩ := h ProfileExample.updateWire _ hcanonical
  obtain ⟨encoded', hencode', hdecode⟩ :=
    decode_encode_update ProfileExample.updateWire hcanonical
  obtain rfl := Except.ok.inj (hencode.symm.trans hencode')
  have hsame := congrArg ProfileUpdateContent.metadata
    (Except.ok.inj (hdecode.symm.trans hback))
  cases hsame

end Signet
