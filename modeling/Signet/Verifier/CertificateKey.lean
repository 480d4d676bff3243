import Signet.Lib.Der
import Signet.Verifier.X509Key

/-!
# The key of a certificate

What `extractP256PublicKey` reads out of a certificate that is well formed. A certificate
is given by its fields (`Certificate`), any bytes standing for the contents that the code
does not look into, and `Certificate.der` writes it in DER.

The scan of `findSpki` looks one element into every SEQUENCE. Of a field without content
it sees the element that comes next instead; what follows an empty issuer is the validity,
and what follows an empty subject is the key info, whose first element is again no object
identifier. So no field before the key info is taken for it (`notKey_before`), and the key
is read exactly (`extractP256PublicKey_certificate`).
-/

namespace Signet.Verifier

open Lib

/-! ### Elements in place -/

/-- Where the content of an element starts. -/
def tlvHeader (tag : UInt8) (length : Nat) : List UInt8 :=
  tag :: derLength length

theorem tlv_eq (tag : UInt8) (content : List UInt8) :
    tlv tag content = tlvHeader tag content.length ++ content := rfl

section Elements

variable {before content rest bytes : List UInt8} {tag : UInt8}

/-- The byte behind `before`. -/
theorem byteAt_append (before : List UInt8) (b : UInt8) (rest : List UInt8) :
    byteAt (before ++ b :: rest) before.length = some b := by
  unfold byteAt
  rw [if_neg (by omega), Int.toNat_natCast, List.getElem?_append_right (Nat.le_refl _),
    Nat.sub_self]
  rfl

theorem accumulateLength_fixedBytes {width n : Nat} (hn : n < 2 ^ 32) (before rest : List UInt8)
    (hwidth : n < 256 ^ width) :
    (accumulateLength (before ++ (fixedBytes width n ++ rest)) before.length width).toNat = n := by
  induction width generalizing n rest with
  | zero =>
    obtain rfl : n = 0 := Nat.lt_one_iff.1 hwidth
    rfl
  | succ width ih =>
    have hquot : n / 256 < 256 ^ width := by
      rw [Nat.div_lt_iff_lt_mul (by decide), ← Nat.pow_succ]
      exact hwidth
    -- the last byte is read behind the others
    have hsplit : before ++ (fixedBytes (width + 1) n ++ rest) =
        before ++ (fixedBytes width (n / 256) ++ (UInt8.ofNat n :: rest)) := by
      rw [fixedBytes, List.append_assoc]
      rfl
    have hbyte : byteAt (before ++ (fixedBytes width (n / 256) ++ (UInt8.ofNat n :: rest)))
        (before.length + width) = some (UInt8.ofNat n) := by
      have h := byteAt_append (before ++ fixedBytes width (n / 256)) (UInt8.ofNat n) rest
      rw [List.append_assoc, List.length_append, length_fixedBytes] at h
      exact_mod_cast h
    have hlow := ih (by omega) (UInt8.ofNat n :: rest) hquot
    rw [hsplit]
    unfold accumulateLength at hlow ⊢
    rw [List.range_succ, List.foldl_append, List.foldl_cons, List.foldl_nil, hbyte,
      Option.getD_some, BitVec.toNat_or, BitVec.toNat_shiftLeft, hlow, Nat.shiftLeft_eq,
      BitVec.toNat_setWidth]
    have hlast : (UInt8.ofNat n).toBitVec.toNat % 2 ^ 32 = n % 256 := by
      show (UInt8.ofNat n).toNat % 2 ^ 32 = n % 256
      rw [UInt8.toNat_ofNat']
      omega
    have hhigh : n / 256 * 2 ^ 8 % 2 ^ 32 = 2 ^ 8 * (n / 256) := by omega
    rw [hlast, hhigh, ← Nat.two_pow_add_eq_or_of_lt (by omega)]
    omega

/-- The length of an element is read, in each form. -/
theorem parseLength_derLength {n : Nat} (hn : n < 2 ^ 31) (before rest : List UInt8) :
    parseLength (before ++ (derLength n ++ rest)) (byteAt (before ++ (derLength n ++ rest))
        before.length) (before.length + 1) =
      .ok (n, before.length + (derLength n).length) := by
  unfold derLength
  by_cases hshort : n < 128
  · rw [if_pos hshort, List.singleton_append, byteAt_append]
    have hto : (UInt8.ofNat n).toNat = n := by
      rw [UInt8.toNat_ofNat']
      omega
    have hlt : UInt8.ofNat n < 0x80 := by
      rw [UInt8.lt_iff_toNat_lt, hto]
      exact hshort
    show (if UInt8.ofNat n < 0x80 then _ else _) = _
    rw [if_pos hlt, hto]
    rfl
  · rw [if_neg hshort, List.cons_append, byteAt_append]
    have hbytes : byteLength n ≤ 4 := byteLength_le (by omega)
    have hpos : 0 < byteLength n := byteLength_pos (by omega)
    have hto : (UInt8.ofNat (128 + byteLength n)).toNat = 128 + byteLength n := by
      rw [UInt8.toNat_ofNat']
      omega
    have hlt : ¬ UInt8.ofNat (128 + byteLength n) < 0x80 := by
      rw [UInt8.lt_iff_toNat_lt, hto]
      exact Nat.not_lt.2 (Nat.le_add_right _ _)
    have hne : ¬ UInt8.ofNat (128 + byteLength n) = 0x80 := by
      intro heq
      have h := congrArg UInt8.toNat heq
      rw [hto] at h
      exact absurd h (by simp; omega)
    have hnum : (UInt8.ofNat (128 + byteLength n) &&& 0x7f).toNat = byteLength n := by
      rw [UInt8.toNat_and, hto]
      show (128 + byteLength n) &&& (2 ^ 7 - 1) = _
      rw [Nat.and_two_pow_sub_one_eq_mod]
      omega
    have hread := accumulateLength_fixedBytes (by omega : n < 2 ^ 32)
      (before ++ [UInt8.ofNat (128 + byteLength n)]) rest (lt_pow_byteLength n)
    rw [List.append_assoc, List.length_append, List.length_singleton] at hread
    have hint : (accumulateLength (before ++ UInt8.ofNat (128 + byteLength n) ::
        (minBytes n ++ rest)) (before.length + 1) (byteLength n)).toInt = n := by
      rw [BitVec.toInt_eq_toNat_of_lt]
      · exact_mod_cast hread
      · rw [show (accumulateLength _ _ _).toNat = n from by exact_mod_cast hread]
        omega
    show (if UInt8.ofNat (128 + byteLength n) < 0x80 then _ else
      if UInt8.ofNat (128 + byteLength n) = 0x80 then _ else _) = _
    rw [if_neg hlt, if_neg hne, hnum]
    unfold parseLongForm
    have hinside : ¬ ((before ++ UInt8.ofNat (128 + byteLength n) ::
        (minBytes n ++ rest)).length : Int) < (before.length + 1 : Int) + byteLength n := by
      simp only [List.length_append, List.length_cons, length_minBytes]
      omega
    rw [if_neg (Nat.not_lt.2 hbytes), if_neg hinside, hint, List.length_cons, length_minBytes]
    congr 2
    omega

/-- **An element is parsed in place.** -/
theorem parseTlv_tlv (hlength : content.length < 2 ^ 31) :
    parseTlv (before ++ (tlv tag content ++ rest)) before.length =
      .ok ⟨some tag, (before ++ tlvHeader tag content.length).length, content.length,
        (tlv tag content).length⟩ := by
  have hder : before ++ (tlv tag content ++ rest) =
      (before ++ [tag]) ++ (derLength content.length ++ (content ++ rest)) := by
    simp [tlv]
  have hpos : 0 < (derLength content.length).length := by
    unfold derLength
    split <;> exact Nat.succ_pos _
  have hlen := parseLength_derLength hlength (before ++ [tag]) (content ++ rest)
  rw [← hder, List.length_append, List.length_singleton] at hlen
  have htag : byteAt (before ++ (tlv tag content ++ rest)) before.length = some tag :=
    byteAt_append before tag _
  have hall : (before ++ (tlv tag content ++ rest)).length =
      before.length + 1 + (derLength content.length).length + content.length + rest.length := by
    simp only [List.length_append, tlv, List.length_cons]
    omega
  have hfirst : ((before.length + 1 : Nat) : Int) = before.length + 1 := Int.natCast_succ _
  have hsecond : (before.length : Int) + 1 + 1 = before.length + 2 := by omega
  rw [hfirst, hsecond] at hlen
  unfold parseTlv
  rw [if_neg (by omega), if_neg (by omega), hlen]
  dsimp only
  rw [if_neg (by omega), htag]
  simp only [tlvHeader, tlv, List.length_append, List.length_cons, Except.ok.injEq, Tlv.mk.injEq,
    true_and]
  omega

theorem byteAt_append_add (before bytes : List UInt8) (i : Nat) :
    byteAt (before ++ bytes) (before.length + i) = bytes[i]? := by
  unfold byteAt
  have hindex : ((before.length : Int) + i).toNat = before.length + i := by omega
  rw [if_neg (by omega), hindex, List.getElem?_append_right (Nat.le_add_right _ _),
    Nat.add_sub_cancel_left]

theorem bytesMatch_append (before bytes pattern : List UInt8) :
    bytesMatch (before ++ bytes) before.length pattern = true ↔ pattern <+: bytes := by
  unfold bytesMatch
  rw [List.length_append]
  by_cases hshort : ((before.length + bytes.length : Nat) : Int) < before.length + pattern.length
  · rw [if_pos hshort]
    exact iff_of_false Bool.false_ne_true fun hprefix => by
      have := hprefix.length_le
      omega
  rw [if_neg hshort, List.all_eq_true, List.prefix_iff_getElem?]
  constructor
  · intro h i hi
    have hbyte := h i (List.mem_range.2 hi)
    rw [byteAt_append_add, beq_iff_eq] at hbyte
    rw [hbyte, List.getElem?_eq_getElem hi]
  · intro h i hi
    have hi := List.mem_range.1 hi
    rw [byteAt_append_add, h i hi, beq_iff_eq, List.getElem?_eq_getElem hi]

/-- An element that begins with a whole short element is that element. -/
theorem tlv_eq_of_begins {content' : List UInt8} {tag' : UInt8} (hshort : content.length < 128)
    (hlength : content'.length < 2 ^ 31) (h : tlv tag content <+: tlv tag' content' ++ rest) :
    tag = tag' ∧ content = content' := by
  have hcons : tlv tag' content' ++ rest =
      tag' :: (derLength content'.length ++ (content' ++ rest)) := by
    simp [tlv]
  rw [hcons, tlv, derLength_short hshort, List.cons_prefix_cons] at h
  obtain ⟨htag, h⟩ := h
  refine ⟨htag, ?_⟩
  unfold derLength at h
  by_cases hshort' : content'.length < 128
  · rw [if_pos hshort', List.singleton_append, List.singleton_append, List.cons_prefix_cons] at h
    obtain ⟨hbyte, hprefix⟩ := h
    have hsame : content.length = content'.length := by
      have hto := congrArg UInt8.toNat hbyte
      rw [UInt8.toNat_ofNat', UInt8.toNat_ofNat'] at hto
      omega
    have hboth := List.prefix_of_prefix_length_le hprefix (List.prefix_append content' rest)
      (Nat.le_of_eq hsame)
    exact hboth.eq_of_length hsame
  · -- the first byte of a long length is greater
    rw [if_neg hshort', List.singleton_append, List.cons_append, List.cons_prefix_cons] at h
    have hbytes : byteLength content'.length ≤ 4 := byteLength_le (by omega)
    have hto := congrArg UInt8.toNat h.1
    rw [UInt8.toNat_ofNat', UInt8.toNat_ofNat'] at hto
    omega

/-! ### The scan -/

/-- A sequence with these bytes behind its header is not taken for the key info: they begin with
an element that is no sequence, or is one that does not begin with the algorithm. -/
def NotAlgorithm (bytes : List UInt8) : Prop :=
  ∃ tag content rest, bytes = tlv tag content ++ rest ∧ content.length < 2 ^ 31 ∧
    (tag = tagSequence → ¬ ecPublicKeyOid <+: content ++ rest)

/-- A field of a certificate. -/
abbrev Field := UInt8 × List UInt8

/-- The bytes of fields. -/
def encodeFields (fields : List Field) : List UInt8 :=
  fields.flatMap fun field => tlv field.1 field.2

/-- None of the fields is taken for the key info, where `rest` comes behind them. -/
def NotKey : List Field → List UInt8 → Prop
  | [], _ => True
  | (tag, content) :: fields, rest =>
    content.length < 2 ^ 31 ∧
      (tag = tagSequence → NotAlgorithm (content ++ (encodeFields fields ++ rest))) ∧
        NotKey fields rest

theorem startsWithEcKey_of_not (h : NotAlgorithm bytes) :
    startsWithEcKey (before ++ bytes) before.length = false := by
  obtain ⟨tag, content, rest, rfl, hlength, hno⟩ := h
  unfold startsWithEcKey
  rw [parseTlv_tlv hlength]
  dsimp only
  by_cases htag : tag = tagSequence
  · have hder : before ++ (tlv tag content ++ rest) =
        (before ++ tlvHeader tag content.length) ++ (content ++ rest) := by
      simp [tlv_eq]
    rw [hder, Bool.and_eq_false_iff]
    right
    rw [← Bool.not_eq_true, bytesMatch_append]
    exact hno htag
  · rw [Bool.and_eq_false_iff]
    left
    rw [beq_eq_false_iff_ne]
    exact fun h => htag (Option.some.inj h)

/-- A turn goes on behind a field that is not taken for the key info. -/
theorem spkiTurn_advance (hlength : content.length < 2 ^ 31)
    (hno : tag = tagSequence → NotAlgorithm (content ++ rest)) :
    spkiTurn (before ++ (tlv tag content ++ rest)) before.length =
      .advance (before ++ tlv tag content).length := by
  unfold spkiTurn
  rw [parseTlv_tlv hlength]
  dsimp only
  rw [if_neg]
  · rw [List.length_append]
    rfl
  · rintro ⟨htag, hstarts⟩
    have hder : before ++ (tlv tag content ++ rest) =
        (before ++ tlvHeader tag content.length) ++ (content ++ rest) := by
      simp [tlv_eq]
    rw [hder, startsWithEcKey_of_not (hno (Option.some.inj htag))] at hstarts
    cases hstarts

/-- **The scan passes over such fields.** -/
theorem findSpki_pass {fields : List Field} {rangeEnd : Int} (hno : NotKey fields rest)
    (hend : ((before ++ encodeFields fields).length : Int) ≤ rangeEnd) (fuel : Nat) :
    findSpki (before ++ (encodeFields fields ++ rest)) rangeEnd (fuel + fields.length)
        before.length =
      findSpki (before ++ (encodeFields fields ++ rest)) rangeEnd fuel
        (before ++ encodeFields fields).length := by
  induction fields generalizing before with
  | nil =>
    rw [List.length_nil, Nat.add_zero]
    simp [encodeFields]
  | cons field fields ih =>
    obtain ⟨tag, content⟩ := field
    obtain ⟨hlength, hfield, hfields⟩ := hno
    have hder : before ++ (encodeFields ((tag, content) :: fields) ++ rest) =
        before ++ (tlv tag content ++ (encodeFields fields ++ rest)) := by
      simp [encodeFields]
    have hder' : before ++ (tlv tag content ++ (encodeFields fields ++ rest)) =
        (before ++ tlv tag content) ++ (encodeFields fields ++ rest) := by
      rw [List.append_assoc]
    have hbefore : before ++ encodeFields ((tag, content) :: fields) =
        before ++ tlv tag content ++ encodeFields fields := by
      simp [encodeFields]
    rw [hbefore] at hend ⊢
    have hlt : (before.length : Int) < rangeEnd := by
      simp only [List.length_append, tlv, List.length_cons] at hend
      omega
    rw [hder, List.length_cons, ← Nat.add_assoc, findSpki, if_pos hlt,
      spkiTurn_advance hlength hfield]
    dsimp only
    rw [hder']
    exact ih hfields hend

end Elements

/-! ### Certificates -/

/-- `AlgorithmIdentifier`: the content of the object identifier, and the parameters as an
element. -/
structure AlgorithmIdentifier where
  algorithm : List UInt8
  parameters : Option Field
  deriving DecidableEq

/-- `Time`. -/
inductive CertificateTime where
  | utcTime (text : List UInt8)
  | generalTime (text : List UInt8)

/-- `SubjectPublicKeyInfo`: the key is a BIT STRING. -/
structure SubjectPublicKeyInfo where
  algorithm : AlgorithmIdentifier
  unusedBits : UInt8
  subjectPublicKey : List UInt8

/-- `Certificate`. A name is given by the contents of its relative names; of the fields that are
not looked into, the content is any bytes. -/
structure Certificate where
  version : Option (List UInt8)
  serialNumber : List UInt8
  signature : AlgorithmIdentifier
  issuer : List (List UInt8)
  notBefore : CertificateTime
  notAfter : CertificateTime
  subject : List (List UInt8)
  subjectPublicKeyInfo : SubjectPublicKeyInfo
  issuerUniqueID : Option (List UInt8)
  subjectUniqueID : Option (List UInt8)
  extensions : Option (List UInt8)
  signatureAlgorithm : AlgorithmIdentifier
  signatureValue : List UInt8

def AlgorithmIdentifier.content (algorithm : AlgorithmIdentifier) : List UInt8 :=
  tlv 0x06 algorithm.algorithm ++ encodeFields algorithm.parameters.toList

/-- The element of a time. -/
def CertificateTime.der : CertificateTime → List UInt8
  | .utcTime text => tlv 0x17 text
  | .generalTime text => tlv 0x18 text

def nameContent (names : List (List UInt8)) : List UInt8 :=
  encodeFields (names.map fun name => (0x31, name))

def SubjectPublicKeyInfo.content (info : SubjectPublicKeyInfo) : List UInt8 :=
  tlv tagSequence info.algorithm.content ++
    tlv tagBitString (info.unusedBits :: info.subjectPublicKey)

namespace Certificate

variable (cert : Certificate)

def validityContent : List UInt8 :=
  cert.notBefore.der ++ cert.notAfter.der

/-- The fields before the key info. -/
def fieldsBefore : List Field :=
  (cert.version.map fun content => (0xa0, content)).toList ++
    [(0x02, cert.serialNumber), (tagSequence, cert.signature.content),
      (tagSequence, nameContent cert.issuer), (tagSequence, cert.validityContent),
      (tagSequence, nameContent cert.subject)]

/-- The fields behind the key info. -/
def fieldsAfter : List Field :=
  (cert.issuerUniqueID.map fun content => (0x81, content)).toList ++
    ((cert.subjectUniqueID.map fun content => (0x82, content)).toList ++
      (cert.extensions.map fun content => (0xa3, content)).toList)

/-- The key info. -/
def keyField : Field :=
  (tagSequence, cert.subjectPublicKeyInfo.content)

def tbsContent : List UInt8 :=
  encodeFields cert.fieldsBefore ++ (encodeFields [cert.keyField] ++ encodeFields cert.fieldsAfter)

/-- What is signed, and the signature. -/
def content : List UInt8 :=
  tlv tagSequence cert.tbsContent ++ (tlv tagSequence cert.signatureAlgorithm.content ++
    tlv tagBitString (0 :: cert.signatureValue))

/-- The certificate in DER. -/
def der : List UInt8 :=
  tlv tagSequence cert.content

end Certificate

/-- The identifier of EC keys on P-256. -/
def p256Algorithm : AlgorithmIdentifier where
  algorithm := [0x2a, 0x86, 0x48, 0xce, 0x3d, 0x02, 0x01]
  parameters := some (0x06, [0x2a, 0x86, 0x48, 0xce, 0x3d, 0x03, 0x01, 0x07])

structure SubjectPublicKeyInfo.IsUncompressedP256 (info : SubjectPublicKeyInfo)
    (key : List UInt8) : Prop where
  algorithm : info.algorithm = p256Algorithm
  unusedBits : info.unusedBits = 0
  subjectPublicKey : info.subjectPublicKey = key
  length : key.length = 65
  head : key.head? = some uncompressedPointPrefix

/-! ### No other field is taken for the key info -/

theorem length_content_le {fields : List Field} {field : Field} (h : field ∈ fields) :
    field.2.length ≤ (encodeFields fields).length := by
  have hfield : (tlv field.1 field.2).length ≤ (encodeFields fields).length := by
    obtain ⟨before, after, rfl⟩ := List.append_of_mem h
    simp only [encodeFields, List.flatMap_append, List.flatMap_cons, List.length_append]
    omega
  rw [tlv_eq, List.length_append] at hfield
  omega

theorem notAlgorithm_of_tag {tag : UInt8} {content rest : List UInt8}
    (hlength : content.length < 2 ^ 31) (htag : tag ≠ tagSequence) :
    NotAlgorithm (tlv tag content ++ rest) :=
  ⟨tag, content, rest, rfl, hlength, fun h => absurd h htag⟩

theorem notAlgorithm_of_head {tag b : UInt8} {content rest : List UInt8}
    (hlength : content.length < 2 ^ 31) (hhead : content.head? = some b) (hb : b ≠ 0x06) :
    NotAlgorithm (tlv tag content ++ rest) := by
  refine ⟨tag, content, rest, rfl, hlength, fun _ hprefix => hb ?_⟩
  cases content with
  | nil => cases hhead
  | cons c content =>
    obtain rfl := Option.some.inj hhead
    exact ((List.cons_prefix_cons.1 hprefix).1).symm

/-- Behind the header of a name comes one of its sets, or what follows the name. -/
theorem notAlgorithm_name {names : List (List UInt8)} {rest : List UInt8}
    (hlength : (nameContent names).length < 2 ^ 31) (hrest : NotAlgorithm rest) :
    NotAlgorithm (nameContent names ++ rest) := by
  cases names with
  | nil => exact hrest
  | cons name names =>
    have hmem : ((0x31, name) : Field) ∈ (name :: names).map fun name => ((0x31, name) : Field) :=
      List.mem_cons_self
    have hname : name.length < 2 ^ 31 := lt_of_le_of_lt (length_content_le hmem) hlength
    have hcons : nameContent (name :: names) ++ rest =
        tlv 0x31 name ++ (nameContent names ++ rest) := by
      simp [nameContent, encodeFields]
    rw [hcons]
    exact notAlgorithm_of_tag hname (by decide)

namespace CertificateTime

variable (time : CertificateTime)

theorem head_der : ∃ b, time.der.head? = some b ∧ b ≠ 0x06 := by
  cases time with
  | utcTime text => exact ⟨0x17, rfl, by decide⟩
  | generalTime text => exact ⟨0x18, rfl, by decide⟩

theorem notAlgorithm_der {rest : List UInt8} (hlength : time.der.length < 2 ^ 31) :
    NotAlgorithm (time.der ++ rest) := by
  have hcontent : ∀ {tag : UInt8} {text : List UInt8}, (tlv tag text).length < 2 ^ 31 →
      text.length < 2 ^ 31 := by
    intro tag text h
    rw [tlv_eq, List.length_append] at h
    omega
  cases time with
  | utcTime text => exact notAlgorithm_of_tag (hcontent hlength) (by decide)
  | generalTime text => exact notAlgorithm_of_tag (hcontent hlength) (by decide)

end CertificateTime

namespace Certificate

variable {cert : Certificate}

theorem length_field_lt (hlength : cert.content.length < 2 ^ 31) {field : Field}
    (h : field ∈ cert.fieldsBefore ++ (cert.keyField :: cert.fieldsAfter)) :
    field.2.length < 2 ^ 31 := by
  have hfields : cert.tbsContent =
      encodeFields (cert.fieldsBefore ++ (cert.keyField :: cert.fieldsAfter)) := by
    simp [tbsContent, encodeFields]
  have htbs : cert.tbsContent.length ≤ cert.content.length := by
    rw [content, List.length_append, tlv_eq, List.length_append]
    omega
  have hle := length_content_le h
  rw [← hfields] at hle
  omega

theorem notKey_before (hlength : cert.content.length < 2 ^ 31) (rest : List UInt8) :
    NotKey cert.fieldsBefore (encodeFields [cert.keyField] ++ rest) := by
  have hlt : ∀ field ∈ cert.fieldsBefore, field.2.length < 2 ^ 31 := fun field hfield =>
    length_field_lt hlength (List.mem_append_left _ hfield)
  have hmem : cert.keyField ∈ cert.fieldsBefore ++ (cert.keyField :: cert.fieldsAfter) :=
    List.mem_append_right _ List.mem_cons_self
  have hkey : cert.subjectPublicKeyInfo.content.length < 2 ^ 31 := length_field_lt hlength hmem
  have hserial := hlt (0x02, cert.serialNumber) (by simp [fieldsBefore])
  have hsignature := hlt (tagSequence, cert.signature.content) (by simp [fieldsBefore])
  have hissuer := hlt (tagSequence, nameContent cert.issuer) (by simp [fieldsBefore])
  have hvalidity := hlt (tagSequence, cert.validityContent) (by simp [fieldsBefore])
  have hsubject := hlt (tagSequence, nameContent cert.subject) (by simp [fieldsBefore])
  have hfive : NotKey [(0x02, cert.serialNumber), (tagSequence, cert.signature.content),
      (tagSequence, nameContent cert.issuer), (tagSequence, cert.validityContent),
      (tagSequence, nameContent cert.subject)] (encodeFields [cert.keyField] ++ rest) := by
    refine ⟨hserial, fun h => absurd h (by decide), hsignature, fun _ => ?_, hissuer, fun _ => ?_,
      hvalidity, fun _ => ?_, hsubject, fun _ => ?_, trivial⟩
    · -- an object identifier
      rw [AlgorithmIdentifier.content, List.append_assoc]
      refine notAlgorithm_of_tag ?_ (by decide)
      simp only [AlgorithmIdentifier.content, tlv_eq, List.length_append] at hsignature
      omega
    · -- behind an empty issuer comes the validity, which begins with a time
      refine notAlgorithm_name hissuer ?_
      obtain ⟨b, hb, hne⟩ := cert.notBefore.head_der
      have hhead : cert.validityContent.head? = some b := by
        rw [validityContent, List.head?_append, hb]
        rfl
      have hcons : encodeFields [(tagSequence, cert.validityContent),
          (tagSequence, nameContent cert.subject)] ++ (encodeFields [cert.keyField] ++ rest) =
            tlv tagSequence cert.validityContent ++ (encodeFields
              [(tagSequence, nameContent cert.subject)] ++
                (encodeFields [cert.keyField] ++ rest)) := by
        simp [encodeFields]
      rw [hcons]
      exact notAlgorithm_of_head hvalidity hhead hne
    · -- a time
      rw [validityContent, List.append_assoc]
      refine cert.notBefore.notAlgorithm_der ?_
      simp only [validityContent, List.length_append] at hvalidity
      omega
    · -- behind an empty subject comes the key info, which begins with a sequence
      refine notAlgorithm_name hsubject ?_
      have hcons : encodeFields [] ++ (encodeFields [cert.keyField] ++ rest) =
          tlv tagSequence cert.subjectPublicKeyInfo.content ++ rest := by
        simp [encodeFields, keyField]
      rw [hcons]
      exact notAlgorithm_of_head (b := tagSequence) hkey rfl (by decide)
  unfold fieldsBefore
  cases hversion : cert.version with
  | none => exact hfive
  | some version =>
    have hversionLength := hlt (0xa0, version) (by simp [fieldsBefore, hversion])
    exact ⟨hversionLength, fun h => absurd h (by decide), hfive⟩

theorem notKey_after (hlength : cert.content.length < 2 ^ 31) (rest : List UInt8) :
    NotKey cert.fieldsAfter rest := by
  have hskip : ∀ (fields : List Field), (∀ field ∈ fields, field.2.length < 2 ^ 31 ∧
      field.1 ≠ tagSequence) → NotKey fields rest := by
    intro fields
    induction fields with
    | nil => exact fun _ => trivial
    | cons field fields ih =>
      intro h
      obtain ⟨hlen, htag⟩ := h field List.mem_cons_self
      exact ⟨hlen, fun heq => absurd heq htag, ih fun f hf => h f (List.mem_cons_of_mem _ hf)⟩
  refine hskip _ fun field hfield => ⟨length_field_lt hlength
    (List.mem_append_right _ (List.mem_cons_of_mem _ hfield)), ?_⟩
  simp only [fieldsAfter, List.mem_append, Option.mem_toList, Option.map_eq_some_iff] at hfield
  rcases hfield with ⟨content, -, rfl⟩ | ⟨content, -, rfl⟩ | ⟨content, -, rfl⟩
  · exact (by decide : (0x81 : UInt8) ≠ tagSequence)
  · exact (by decide : (0x82 : UInt8) ≠ tagSequence)
  · exact (by decide : (0xa3 : UInt8) ≠ tagSequence)

end Certificate

/-! ### The key is found -/

section Key

variable {before rest : List UInt8} {info : SubjectPublicKeyInfo}

theorem ecPublicKeyOid_eq : ecPublicKeyOid = tlv 0x06 p256Algorithm.algorithm := by
  decide

theorem secp256r1Oid_eq :
    secp256r1Oid = tlv 0x06 [0x2a, 0x86, 0x48, 0xce, 0x3d, 0x03, 0x01, 0x07] := by
  decide

theorem SubjectPublicKeyInfo.length_lt (h : info.content.length < 2 ^ 31) :
    info.algorithm.content.length < 2 ^ 31 ∧
      (info.unusedBits :: info.subjectPublicKey).length < 2 ^ 31 ∧
      info.algorithm.algorithm.length < 2 ^ 31 := by
  simp only [SubjectPublicKeyInfo.content, AlgorithmIdentifier.content, tlv_eq,
    List.length_append] at h ⊢
  omega

/-- The content of the identifier begins with the algorithm of EC keys only if it is that
algorithm. -/
theorem ecPublicKeyOid_prefix_iff {algorithm : AlgorithmIdentifier}
    (hlength : algorithm.algorithm.length < 2 ^ 31) :
    ecPublicKeyOid <+: algorithm.content ++ rest ↔
      algorithm.algorithm = p256Algorithm.algorithm := by
  rw [ecPublicKeyOid_eq, AlgorithmIdentifier.content, List.append_assoc]
  constructor
  · intro hprefix
    exact (tlv_eq_of_begins (by decide) hlength hprefix).2.symm
  · intro heq
    rw [heq]
    exact List.prefix_append _ _

/-- Key info of another algorithm is passed over as well. -/
theorem notAlgorithm_of_other (hlength : info.content.length < 2 ^ 31)
    (hother : info.algorithm.algorithm ≠ p256Algorithm.algorithm) :
    NotAlgorithm (info.content ++ rest) := by
  obtain ⟨halgorithm, -, hoid⟩ := SubjectPublicKeyInfo.length_lt hlength
  rw [SubjectPublicKeyInfo.content, List.append_assoc]
  exact ⟨_, _, _, rfl, halgorithm, fun _ hprefix =>
    hother ((ecPublicKeyOid_prefix_iff hoid).1 hprefix)⟩

theorem spkiTurn_found (hlength : info.content.length < 2 ^ 31)
    (hsame : info.algorithm.algorithm = p256Algorithm.algorithm) :
    spkiTurn (before ++ (tlv tagSequence info.content ++ rest)) before.length =
      .found ⟨(before ++ tlvHeader tagSequence info.content.length).length,
        info.content.length⟩ := by
  obtain ⟨halgorithm, -, hoid⟩ := SubjectPublicKeyInfo.length_lt hlength
  have hstarts : startsWithEcKey (before ++ (tlv tagSequence info.content ++ rest))
      (before ++ tlvHeader tagSequence info.content.length).length = true := by
    have hder : before ++ (tlv tagSequence info.content ++ rest) =
        (before ++ tlvHeader tagSequence info.content.length) ++
          (tlv tagSequence info.algorithm.content ++
            (tlv tagBitString (info.unusedBits :: info.subjectPublicKey) ++ rest)) := by
      rw [tlv_eq tagSequence info.content, SubjectPublicKeyInfo.content]
      simp
    have hder' : ∀ before' rest' : List UInt8,
        before' ++ (tlv tagSequence info.algorithm.content ++ rest') =
          (before' ++ tlvHeader tagSequence info.algorithm.content.length) ++
            (info.algorithm.content ++ rest') := by
      intro before' rest'
      simp [tlv_eq]
    unfold startsWithEcKey
    rw [hder, parseTlv_tlv halgorithm]
    dsimp only
    rw [hder', beq_self_eq_true, Bool.true_and, bytesMatch_append]
    exact (ecPublicKeyOid_prefix_iff hoid).2 hsame
  unfold spkiTurn
  rw [parseTlv_tlv hlength]
  dsimp only
  rw [if_pos ⟨rfl, hstarts⟩]

/-! ### The key is read -/

/-- The parameters of another curve do not begin with P-256, and neither does the key that follows
when there are none. -/
theorem not_begins_secp256r1 {algorithm : AlgorithmIdentifier}
    (hlength : algorithm.content.length < 2 ^ 31)
    (hsame : algorithm.algorithm = p256Algorithm.algorithm) (hother : algorithm ≠ p256Algorithm)
    {bits : List UInt8} (hbits : bits.length < 2 ^ 31) :
    ¬ secp256r1Oid <+:
      encodeFields algorithm.parameters.toList ++ (tlv tagBitString bits ++ rest) := by
  rw [secp256r1Oid_eq]
  intro hprefix
  obtain ⟨oid, parameters⟩ := algorithm
  obtain rfl : oid = p256Algorithm.algorithm := hsame
  cases parameters with
  | none =>
    have htag := (tlv_eq_of_begins (by decide) hbits
      (show _ <+: tlv tagBitString bits ++ rest from hprefix)).1
    exact absurd htag (by decide)
  | some parameter =>
    obtain ⟨tag, content⟩ := parameter
    have hcontent : content.length < 2 ^ 31 := by
      simp only [AlgorithmIdentifier.content, Option.toList_some, encodeFields,
        List.flatMap_cons, List.flatMap_nil, tlv_eq, List.length_append] at hlength
      omega
    have hcons : encodeFields (some (tag, content)).toList ++ (tlv tagBitString bits ++ rest) =
        tlv tag content ++ (tlv tagBitString bits ++ rest) := by
      simp [encodeFields]
    rw [hcons] at hprefix
    obtain ⟨rfl, rfl⟩ := tlv_eq_of_begins (by decide) hcontent hprefix
    exact hother rfl

theorem sliceBytes_append (before key rest : List UInt8) :
    sliceBytes (before ++ (key ++ rest)) before.length (before.length + key.length) = key := by
  have hstop : ((before.length : Int) + key.length).toNat = before.length + key.length := by omega
  unfold sliceBytes
  dsimp only
  rw [if_neg (by omega), if_neg (by omega), Int.toNat_natCast, hstop, ← List.append_assoc,
    ← List.length_append, List.take_left, List.drop_left]

theorem readBitString_ok {key : List UInt8} (hkey : key.length = 65)
    (hhead : key.head? = some uncompressedPointPrefix) :
    readBitString (before ++ (tlv tagBitString (0 :: key) ++ rest)) before.length = .ok key := by
  have hlength : (0 :: key).length < 2 ^ 31 := by
    rw [List.length_cons, hkey]
    decide
  have hder : before ++ (tlv tagBitString (0 :: key) ++ rest) =
      (before ++ tlvHeader tagBitString (0 :: key).length) ++ (0 :: (key ++ rest)) := by
    simp [tlv_eq]
  unfold readBitString
  rw [parseTlv_tlv hlength]
  dsimp only
  rw [if_neg (not_not_intro rfl), hder, byteAt_append, if_neg (not_not_intro rfl),
    List.length_cons, hkey]
  generalize before ++ tlvHeader tagBitString (65 + 1) = start
  have hlen : ((65 + 1 : Nat) : Int) - 1 = ((65 : Nat) : Int) := by decide
  have hslice : sliceBytes (start ++ 0 :: (key ++ rest)) (start.length + 1)
      (start.length + 1 + ((65 : Nat) : Int)) = key := by
    have h := sliceBytes_append (start ++ [0]) key rest
    have hsize : (((start ++ [0]).length : Nat) : Int) = start.length + 1 := by simp
    rw [hsize, hkey, List.append_assoc] at h
    exact h
  have hfirst : key[0]? = some uncompressedPointPrefix := by
    rw [← List.head?_eq_getElem?]
    exact hhead
  have hsize : ¬ ((65 : Nat) : Int) ≠ p256UncompressedLength := by decide
  rw [hlen, hslice, hfirst, if_neg hsize, if_neg (not_not_intro rfl)]

/-- **An EC key is read from behind its algorithm identifier** if the parameters begin with the
curve, and refused for its curve otherwise. -/
theorem readPublicKey_eq (hlength : info.content.length < 2 ^ 31) {parameters : List UInt8}
    (hcontent : info.algorithm.content = ecPublicKeyOid ++ parameters) {contentLength : Int} :
    readPublicKey (before ++ (info.content ++ rest)) ⟨before.length, contentLength⟩ =
      if secp256r1Oid <+: parameters ++
          (tlv tagBitString (info.unusedBits :: info.subjectPublicKey) ++ rest) then
        readBitString ((before ++ tlv tagSequence info.algorithm.content) ++
            (tlv tagBitString (info.unusedBits :: info.subjectPublicKey) ++ rest))
          (before ++ tlv tagSequence info.algorithm.content).length
      else .error "Curve is not secp256r1 (P-256)" := by
  have hder : before ++ (info.content ++ rest) =
      before ++ (tlv tagSequence info.algorithm.content ++
        (tlv tagBitString (info.unusedBits :: info.subjectPublicKey) ++ rest)) := by
    rw [SubjectPublicKeyInfo.content, List.append_assoc]
  -- behind the header of the identifier comes the object identifier of EC keys
  have hinner : before ++ (tlv tagSequence info.algorithm.content ++
      (tlv tagBitString (info.unusedBits :: info.subjectPublicKey) ++ rest)) =
        (before ++ tlvHeader tagSequence info.algorithm.content.length) ++
          (ecPublicKeyOid ++ (parameters ++
            (tlv tagBitString (info.unusedBits :: info.subjectPublicKey) ++ rest))) := by
    rw [tlv_eq tagSequence, hcontent]
    simp only [List.append_assoc]
  have halgorithm : bytesMatch (before ++ (info.content ++ rest))
      (before ++ tlvHeader tagSequence info.algorithm.content.length).length ecPublicKeyOid =
        true := by
    rw [hder, hinner, bytesMatch_append]
    exact List.prefix_append _ _
  have hcurve : bytesMatch (before ++ (info.content ++ rest))
      ((before ++ tlvHeader tagSequence info.algorithm.content.length).length +
        ecPublicKeyOid.length) secp256r1Oid = true ↔
      secp256r1Oid <+: parameters ++
        (tlv tagBitString (info.unusedBits :: info.subjectPublicKey) ++ rest) := by
    have h := bytesMatch_append
      (before ++ tlvHeader tagSequence info.algorithm.content.length ++ ecPublicKeyOid)
      (parameters ++ (tlv tagBitString (info.unusedBits :: info.subjectPublicKey) ++ rest))
      secp256r1Oid
    rw [List.append_assoc (before ++ tlvHeader _ _), ← hinner, ← hder, List.length_append] at h
    exact_mod_cast h
  unfold readPublicKey
  dsimp only
  have hparse := @parseTlv_tlv before info.algorithm.content
    (tlv tagBitString (info.unusedBits :: info.subjectPublicKey) ++ rest) tagSequence
    (SubjectPublicKeyInfo.length_lt hlength).1
  rw [← hder] at hparse
  rw [hparse]
  dsimp only
  rw [halgorithm, if_neg Bool.true_eq_false_eq_False]
  by_cases hp256 : secp256r1Oid <+: parameters ++
      (tlv tagBitString (info.unusedBits :: info.subjectPublicKey) ++ rest)
  · rw [hcurve.2 hp256, if_neg Bool.true_eq_false_eq_False, if_pos hp256, hder,
      List.append_assoc, List.length_append, Int.natCast_add]
  · rw [Bool.eq_false_iff.2 (mt hcurve.1 hp256), if_pos rfl, if_neg hp256]

theorem readPublicKey_ok {key : List UInt8} (hlength : info.content.length < 2 ^ 31)
    (hp256 : info.IsUncompressedP256 key) {contentLength : Int} :
    readPublicKey (before ++ (info.content ++ rest)) ⟨before.length, contentLength⟩ =
      .ok key := by
  have hcontent : info.algorithm.content = ecPublicKeyOid ++ secp256r1Oid := by
    rw [hp256.algorithm]
    decide
  rw [readPublicKey_eq hlength hcontent, if_pos (List.prefix_append _ _), hp256.unusedBits,
    hp256.subjectPublicKey]
  exact readBitString_ok hp256.length hp256.head

theorem readPublicKey_other (hlength : info.content.length < 2 ^ 31)
    (hsame : info.algorithm.algorithm = p256Algorithm.algorithm)
    (hother : info.algorithm ≠ p256Algorithm) {contentLength : Int} :
    readPublicKey (before ++ (info.content ++ rest)) ⟨before.length, contentLength⟩ =
      .error "Curve is not secp256r1 (P-256)" := by
  obtain ⟨halgorithm, hbits, -⟩ := SubjectPublicKeyInfo.length_lt hlength
  have hcontent : info.algorithm.content =
      ecPublicKeyOid ++ encodeFields info.algorithm.parameters.toList := by
    rw [AlgorithmIdentifier.content, hsame, ecPublicKeyOid_eq]
  rw [readPublicKey_eq hlength hcontent,
    if_neg (not_begins_secp256r1 halgorithm hsame hother hbits)]

end Key

/-! ### The certificate -/

namespace Certificate

variable {cert : Certificate} {fuel : Nat}

/-- What stands before the fields of tbsCertificate. -/
def headers (cert : Certificate) : List UInt8 :=
  tlvHeader tagSequence cert.content.length ++ tlvHeader tagSequence cert.tbsContent.length

/-- What stands behind tbsCertificate. -/
def trailer (cert : Certificate) : List UInt8 :=
  tlv tagSequence cert.signatureAlgorithm.content ++ tlv tagBitString (0 :: cert.signatureValue)

/-- The fields in their place. -/
theorem der_eq (cert : Certificate) : cert.der =
    cert.headers ++ (encodeFields cert.fieldsBefore ++
      (encodeFields [cert.keyField] ++ (encodeFields cert.fieldsAfter ++ cert.trailer))) := by
  rw [der, tlv_eq, headers, trailer, content, tlv_eq tagSequence cert.tbsContent, tbsContent]
  simp only [List.append_assoc]

theorem length_tbsContent_lt (hlength : cert.content.length < 2 ^ 31) :
    cert.tbsContent.length < 2 ^ 31 := by
  rw [content, List.length_append, tlv_eq, List.length_append] at hlength
  omega

theorem tbsRange_der (hlength : cert.content.length < 2 ^ 31) :
    tbsRange cert.der =
      .ok (cert.headers.length, cert.headers.length + cert.tbsContent.length) := by
  have hcert := @parseTlv_tlv [] cert.content [] tagSequence hlength
  have htbs := @parseTlv_tlv (tlvHeader tagSequence cert.content.length) cert.tbsContent
    cert.trailer tagSequence (length_tbsContent_lt hlength)
  have hder : tlvHeader tagSequence cert.content.length ++
      (tlv tagSequence cert.tbsContent ++ cert.trailer) = cert.der := by
    rw [der, tlv_eq tagSequence cert.content, content, trailer]
  rw [List.nil_append, List.append_nil] at hcert
  rw [hder] at htbs
  have hzero : parseTlv cert.der 0 = _ := hcert
  unfold tbsRange
  rw [hzero]
  dsimp only
  rw [if_neg (not_not_intro rfl), List.nil_append, htbs]
  dsimp only
  rw [if_neg (not_not_intro rfl)]
  rfl

theorem length_fieldsBefore (cert : Certificate) : cert.fieldsBefore.length ≤ 6 := by
  unfold fieldsBefore
  cases cert.version <;> simp

theorem length_fieldsAfter (cert : Certificate) : cert.fieldsAfter.length ≤ 3 := by
  unfold fieldsAfter
  cases cert.issuerUniqueID <;> cases cert.subjectUniqueID <;> cases cert.extensions <;> simp

theorem length_keyInfo_lt (hlength : cert.content.length < 2 ^ 31) :
    cert.subjectPublicKeyInfo.content.length < 2 ^ 31 := by
  have hmem : cert.keyField ∈ cert.fieldsBefore ++ (cert.keyField :: cert.fieldsAfter) :=
    List.mem_append_right _ List.mem_cons_self
  exact length_field_lt hlength hmem

theorem findSpki_before (hlength : cert.content.length < 2 ^ 31) (fuel : Nat) :
    findSpki cert.der (cert.headers.length + cert.tbsContent.length)
        (fuel + cert.fieldsBefore.length) cert.headers.length =
      findSpki cert.der (cert.headers.length + cert.tbsContent.length) fuel
        (cert.headers ++ encodeFields cert.fieldsBefore).length := by
  have hend : ((cert.headers ++ encodeFields cert.fieldsBefore).length : Int) ≤
      cert.headers.length + cert.tbsContent.length := by
    simp only [tbsContent, List.length_append]
    omega
  have hpass := findSpki_pass
    (notKey_before hlength (encodeFields cert.fieldsAfter ++ cert.trailer)) hend fuel
  rw [← der_eq] at hpass
  exact hpass

theorem spkiTurn_key (cert : Certificate) :
    spkiTurn cert.der (cert.headers ++ encodeFields cert.fieldsBefore).length =
      spkiTurn ((cert.headers ++ encodeFields cert.fieldsBefore) ++
        (tlv tagSequence cert.subjectPublicKeyInfo.content ++
          (encodeFields cert.fieldsAfter ++ cert.trailer)))
        (cert.headers ++ encodeFields cert.fieldsBefore).length := by
  have hder : cert.der = (cert.headers ++ encodeFields cert.fieldsBefore) ++
      (tlv tagSequence cert.subjectPublicKeyInfo.content ++
        (encodeFields cert.fieldsAfter ++ cert.trailer)) := by
    rw [der_eq]
    simp [encodeFields, keyField]
  rw [← hder]

theorem key_lt_rangeEnd (cert : Certificate) :
    ((cert.headers ++ encodeFields cert.fieldsBefore).length : Int) <
      cert.headers.length + cert.tbsContent.length := by
  simp only [tbsContent, encodeFields, keyField, List.flatMap_cons, List.flatMap_nil, tlv_eq,
    tlvHeader, List.length_append, List.length_cons]
  omega

/-- **Key info for EC keys is found.** -/
theorem findSpki_found (hlength : cert.content.length < 2 ^ 31) (hfuel : 7 ≤ fuel)
    (hsame : cert.subjectPublicKeyInfo.algorithm.algorithm = p256Algorithm.algorithm) :
    findSpki cert.der (cert.headers.length + cert.tbsContent.length) fuel cert.headers.length =
      some (some ⟨(cert.headers ++ encodeFields cert.fieldsBefore ++
        tlvHeader tagSequence cert.subjectPublicKeyInfo.content.length).length,
        cert.subjectPublicKeyInfo.content.length⟩) := by
  have hbefore := cert.length_fieldsBefore
  obtain ⟨rest, rfl⟩ : ∃ rest, fuel = (rest + 1) + cert.fieldsBefore.length :=
    ⟨fuel - cert.fieldsBefore.length - 1, by omega⟩
  rw [findSpki_before hlength, findSpki, if_pos cert.key_lt_rangeEnd, spkiTurn_key,
    spkiTurn_found (length_keyInfo_lt hlength) hsame]

/-- **Key info of another algorithm is not found**, and nothing else is. -/
theorem findSpki_other (hlength : cert.content.length < 2 ^ 31) (hfuel : 11 ≤ fuel)
    (hother : cert.subjectPublicKeyInfo.algorithm.algorithm ≠ p256Algorithm.algorithm) :
    findSpki cert.der (cert.headers.length + cert.tbsContent.length) fuel cert.headers.length =
      some none := by
  have hbefore := cert.length_fieldsBefore
  have hafter := cert.length_fieldsAfter
  have hkey := length_keyInfo_lt hlength
  obtain ⟨rest, rfl⟩ : ∃ rest, fuel =
      ((rest + 1) + cert.fieldsAfter.length) + 1 + cert.fieldsBefore.length :=
    ⟨fuel - cert.fieldsBefore.length - cert.fieldsAfter.length - 2, by omega⟩
  rw [findSpki_before hlength, findSpki, if_pos cert.key_lt_rangeEnd, spkiTurn_key,
    spkiTurn_advance hkey fun _ => notAlgorithm_of_other hkey hother]
  dsimp only
  -- the rest of the fields, up to the end of the range
  have hend : ((cert.headers ++ encodeFields cert.fieldsBefore ++
      tlv tagSequence cert.subjectPublicKeyInfo.content ++
        encodeFields cert.fieldsAfter).length : Int) =
          cert.headers.length + cert.tbsContent.length := by
    simp only [tbsContent, encodeFields, keyField, List.flatMap_cons, List.flatMap_nil,
      List.length_append, List.append_nil]
    omega
  have hder : cert.der = (cert.headers ++ encodeFields cert.fieldsBefore ++
      tlv tagSequence cert.subjectPublicKeyInfo.content) ++
        (encodeFields cert.fieldsAfter ++ cert.trailer) := by
    rw [der_eq]
    simp [encodeFields, keyField]
  have hpass := findSpki_pass (notKey_after hlength cert.trailer) (Int.le_of_eq hend) (rest + 1)
  rw [← hder, hend, findSpki, if_neg (Int.lt_irrefl _)] at hpass
  exact hpass

end Certificate

/-- What `extractP256PublicKey` makes of the range it found. -/
def readFound (der : List UInt8) : Option Spki → Except String (List UInt8)
  | none => .error "subjectPublicKeyInfo with EC algorithm not found"
  | some spki => readPublicKey der spki

/-- **The key of a certificate.** For every certificate with lengths below 2^31, the extraction from
its base64 gives the key if the key info is for an uncompressed P-256 key, and an error if it is for
another algorithm or curve. Eleven turns are enough for the scan. -/
theorem extractP256PublicKey_certificate (cert : Certificate)
    (hlength : cert.content.length < 2 ^ 31) {fuel : Nat} (hfuel : 11 ≤ fuel) :
    (∀ key, cert.subjectPublicKeyInfo.IsUncompressedP256 key →
      extractP256PublicKey fuel (btoa cert.der) = some (.ok key)) ∧
    (cert.subjectPublicKeyInfo.algorithm ≠ p256Algorithm →
      ∃ error, extractP256PublicKey fuel (btoa cert.der) = some (.error error)) := by
  have hinfo := Certificate.length_keyInfo_lt hlength
  have hextract : extractP256PublicKey fuel (btoa cert.der) =
      (findSpki cert.der (cert.headers.length + cert.tbsContent.length) fuel
        cert.headers.length).map (readFound cert.der) := by
    have htbs := Certificate.tbsRange_der hlength
    unfold extractP256PublicKey
    rw [atob_btoa]
    dsimp only
    generalize tbsRange cert.der = range at htbs ⊢
    subst htbs
    rfl
  have hder : cert.der = (cert.headers ++ encodeFields cert.fieldsBefore ++
      tlvHeader tagSequence cert.subjectPublicKeyInfo.content.length) ++
        (cert.subjectPublicKeyInfo.content ++
          (encodeFields cert.fieldsAfter ++ cert.trailer)) := by
    rw [Certificate.der_eq]
    simp [encodeFields, Certificate.keyField, tlv_eq]
  rw [hextract]
  constructor
  · intro key hkey
    have hsame : cert.subjectPublicKeyInfo.algorithm.algorithm = p256Algorithm.algorithm := by
      rw [hkey.algorithm]
    rw [Certificate.findSpki_found hlength (by omega) hsame, Option.map_some,
      readFound, hder, readPublicKey_ok hinfo hkey]
  · intro hother
    by_cases hsame : cert.subjectPublicKeyInfo.algorithm.algorithm = p256Algorithm.algorithm
    · refine ⟨"Curve is not secp256r1 (P-256)", ?_⟩
      rw [Certificate.findSpki_found hlength (by omega) hsame, Option.map_some,
        readFound, hder, readPublicKey_other hinfo hsame hother]
    · refine ⟨"subjectPublicKeyInfo with EC algorithm not found", ?_⟩
      rw [Certificate.findSpki_other hlength hfuel hsame, Option.map_some,
        readFound]

/-! ### Two certificates -/

/-- A certificate without issuer and subject. -/
def namelessCertificate (info : SubjectPublicKeyInfo) : Certificate where
  version := some [0x02, 0x01, 0x02]
  serialNumber := [0x01]
  signature := ⟨[0x2a, 0x86, 0x48, 0xce, 0x3d, 0x04, 0x03, 0x02], none⟩
  issuer := []
  notBefore := .utcTime (encodeAscii "260101000000Z")
  notAfter := .utcTime (encodeAscii "270101000000Z")
  subject := []
  subjectPublicKeyInfo := info
  issuerUniqueID := none
  subjectUniqueID := none
  extensions := some [0x30, 0x00]
  signatureAlgorithm := ⟨[0x2a, 0x86, 0x48, 0xce, 0x3d, 0x04, 0x03, 0x02], none⟩
  signatureValue := [0x30, 0x00]
where
  /-- The bytes of a text of digits. -/
  encodeAscii (text : String) : List UInt8 := text.toList.map fun c => .ofNat c.toNat

/-- The P-256 key is read, and the RSA key is an error. -/
theorem extractP256PublicKey_certificate_nameless :
    extractP256PublicKey 11 (btoa (namelessCertificate
        ⟨p256Algorithm, 0, 0x04 :: List.replicate 64 0x11⟩).der) =
      some (.ok (0x04 :: List.replicate 64 0x11)) ∧
    ∃ error, extractP256PublicKey 11 (btoa (namelessCertificate
        ⟨⟨[0x2a, 0x86, 0x48, 0x86, 0xf7, 0x0d, 0x01, 0x01, 0x01], some (0x05, [])⟩, 0,
          [0x30, 0x00]⟩).der) = some (.error error) :=
  ⟨(extractP256PublicKey_certificate _ (by decide +kernel) (Nat.le_refl 11)).1 _
      ⟨rfl, rfl, rfl, rfl, rfl⟩,
    (extractP256PublicKey_certificate _ (by decide +kernel) (Nat.le_refl 11)).2 (by decide)⟩

end Signet.Verifier
