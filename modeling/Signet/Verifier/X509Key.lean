import Mathlib.Tactic.IntervalCases
import Mathlib.Tactic.Linarith
import Signet.Lib.Base64

/-!
# Certificates

`extractP256PublicKey` walks the DER elements of a certificate. Lengths are accumulated with
32-bit signed shifts, so a length of four bytes whose first bit is set is negative (`HighLength`):
`parseTlv` accepts it, and the scan of `findSpki` may stand still or go back.

Parsing keeps its bounds and terminates on every certificate without such a length
(`certificate_parsing_iff`), and there is a certificate on which the scan never ends
(`scan_stands_still`).
-/

namespace Signet.Verifier

open Lib

/-! ### Bytes -/

/-- `der[i]`. -/
def byteAt (der : List UInt8) (i : Int) : Option UInt8 :=
  if i < 0 then none else der[i.toNat]?

/-- `slice` of a typed array: a negative bound counts from the end. -/
def sliceBytes (der : List UInt8) (start stop : Int) : List UInt8 :=
  let bound (i : Int) : Nat := if i < 0 then (der.length + i).toNat else i.toNat
  (der.take (bound stop)).drop (bound start)

/-! ### Elements -/

def tagSequence : UInt8 := 0x30

def tagBitString : UInt8 := 0x03

def ecPublicKeyOid : List UInt8 := [0x06, 0x07, 0x2a, 0x86, 0x48, 0xce, 0x3d, 0x02, 0x01]

def secp256r1Oid : List UInt8 := [0x06, 0x08, 0x2a, 0x86, 0x48, 0xce, 0x3d, 0x03, 0x01, 0x07]

def p256UncompressedLength : Int := 65

def uncompressedPointPrefix : UInt8 := 0x04

/-- What `parseTlv` returns; the tag at a negative offset is undefined. -/
structure Tlv where
  tag : Option UInt8
  contentStart : Int
  contentLength : Int
  totalLength : Int
  deriving DecidableEq

/-- The loop over the length bytes: `(contentLength << 8) | der[pos + i]`. -/
def accumulateLength (der : List UInt8) (pos : Int) (numLenBytes : Nat) : BitVec 32 :=
  (List.range numLenBytes).foldl
    (fun contentLength (i : Nat) =>
      contentLength <<< 8 ||| ((byteAt der (pos + i)).getD 0).toBitVec.setWidth 32) 0

/-- A length in long form and the start of the content; `pos` is behind the first length byte. -/
def parseLongForm (der : List UInt8) (pos : Int) (numLenBytes : Nat) : Except String (Int × Int) :=
  if 4 < numLenBytes then .error "DER length exceeds 4 bytes"
  else if (der.length : Int) < pos + numLenBytes then .error "Truncated DER: incomplete length"
  else .ok ((accumulateLength der pos numLenBytes).toInt, pos + numLenBytes)

/-- A length and the start of the content. -/
def parseLength (der : List UInt8) (firstLenByte : Option UInt8) (pos : Int) :
    Except String (Int × Int) :=
  match firstLenByte with
  -- no comparison holds of `undefined`, and `undefined & 0x7f` is 0
  | none => parseLongForm der pos 0
  | some b =>
    if b < 0x80 then .ok (b.toNat, pos)
    else if b = 0x80 then .error "Indefinite length not supported"
    else parseLongForm der pos (b &&& 0x7f).toNat

def parseTlv (der : List UInt8) (offset : Int) : Except String Tlv :=
  if (der.length : Int) ≤ offset then .error "Unexpected end of DER data"
  else if (der.length : Int) ≤ offset + 1 then .error "Truncated DER: missing length"
  else
    match parseLength der (byteAt der (offset + 1)) (offset + 2) with
    | .error e => .error e
    | .ok (contentLength, pos) =>
      if (der.length : Int) < pos + contentLength then
        .error "Truncated DER: content exceeds buffer"
      else .ok ⟨byteAt der offset, pos, contentLength, pos - offset + contentLength⟩

def bytesMatch (data : List UInt8) (offset : Int) (pattern : List UInt8) : Bool :=
  if (data.length : Int) < offset + pattern.length then false
  else (List.range pattern.length).all fun (i : Nat) => byteAt data (offset + i) == pattern[i]?

/-! ### The scan -/

/-- What `findSpki` returns. -/
structure Spki where
  contentStart : Int
  contentLength : Int
  deriving DecidableEq

/-- How a turn of the loop of `findSpki` ends. -/
inductive SpkiTurn where
  | stop
  | found (spki : Spki)
  | advance (pos : Int)
  deriving DecidableEq

/-- The content starts with an algorithm identifier for EC keys. -/
def startsWithEcKey (der : List UInt8) (contentStart : Int) : Bool :=
  match parseTlv der contentStart with
  | .error _ => false
  | .ok inner => inner.tag == some tagSequence && bytesMatch der inner.contentStart ecPublicKeyOid

/-- A turn of the loop of `findSpki`. -/
def spkiTurn (der : List UInt8) (pos : Int) : SpkiTurn :=
  match parseTlv der pos with
  | .error _ => .stop
  | .ok tlv =>
    if tlv.tag = some tagSequence ∧ startsWithEcKey der tlv.contentStart = true then
      .found ⟨tlv.contentStart, tlv.contentLength⟩
    else .advance (pos + tlv.totalLength)

/-- `findSpki`, with as many turns as the fuel allows. -/
def findSpki (der : List UInt8) (rangeEnd : Int) : Nat → Int → Option (Option Spki)
  | 0, _ => none
  | fuel + 1, pos =>
    if pos < rangeEnd then
      match spkiTurn der pos with
      | .stop => some none
      | .found spki => some (some spki)
      | .advance pos' => findSpki der rangeEnd fuel pos'
    else some none

/-! ### The key -/

/-- `extractP256PublicKey` up to the scan: the content of tbsCertificate. -/
def tbsRange (der : List UInt8) : Except String (Int × Int) :=
  match parseTlv der 0 with
  | .error e => .error ("Certificate: " ++ e)
  | .ok cert =>
    if cert.tag ≠ some tagSequence then .error "Certificate is not a SEQUENCE"
    else
      match parseTlv der cert.contentStart with
      | .error e => .error ("tbsCertificate: " ++ e)
      | .ok tbs =>
        if tbs.tag ≠ some tagSequence then .error "tbsCertificate is not a SEQUENCE"
        else .ok (tbs.contentStart, tbs.contentStart + tbs.contentLength)

/-- `extractP256PublicKey` from the end of the algorithm identifier on. -/
def readBitString (der : List UInt8) (offset : Int) : Except String (List UInt8) :=
  match parseTlv der offset with
  | .error e => .error ("BIT STRING: " ++ e)
  | .ok bitString =>
    if bitString.tag ≠ some tagBitString then .error "Expected BIT STRING for public key"
    else
      let unusedBits := byteAt der bitString.contentStart
      if unusedBits ≠ some 0 then
        .error ("Unexpected unused bits in BIT STRING: " ++
          (unusedBits.elim "undefined" fun b => toString b.toNat))
      else
        let keyStart := bitString.contentStart + 1
        let keyLength := bitString.contentLength - 1
        if keyLength ≠ p256UncompressedLength then
          .error ("Expected " ++ toString p256UncompressedLength ++ "-byte key, got " ++
            toString keyLength)
        else
          let publicKey := sliceBytes der keyStart (keyStart + keyLength)
          if publicKey[0]? ≠ some uncompressedPointPrefix then
            .error "Public key is not an uncompressed point"
          else .ok publicKey

/-- `extractP256PublicKey` after the scan. -/
def readPublicKey (der : List UInt8) (spki : Spki) : Except String (List UInt8) :=
  match parseTlv der spki.contentStart with
  | .error e => .error ("AlgorithmIdentifier: " ++ e)
  | .ok algId =>
    if bytesMatch der algId.contentStart ecPublicKeyOid = false then
      .error "Algorithm is not EC public key"
    else if bytesMatch der (algId.contentStart + ecPublicKeyOid.length) secp256r1Oid = false then
      .error "Curve is not secp256r1 (P-256)"
    else readBitString der (spki.contentStart + algId.totalLength)

/-- `extractP256PublicKey`; `none` when the fuel is not enough for the scan. -/
def extractP256PublicKey (fuel : Nat) (certBase64 : String) :
    Option (Except String (List UInt8)) :=
  match atob certBase64 with
  | none => some (.error "Invalid base64 in certificate")
  | some der =>
    match tbsRange der with
    | .error e => some (.error e)
    | .ok (tbsStart, tbsEnd) =>
      (findSpki der tbsEnd fuel tbsStart).map fun
        | none => .error "subjectPublicKeyInfo with EC algorithm not found"
        | some spki => readPublicKey der spki

/-! ### Lengths -/

/-- The element has a length of four bytes, and the first one has its first bit set. -/
def HighLength (der : List UInt8) (offset : Int) : Prop :=
  byteAt der (offset + 1) = some 0x84 ∧
    (∃ b, byteAt der (offset + 2) = some b ∧ 0x80 ≤ b) ∧ offset + 6 ≤ der.length

section Lengths

variable {der : List UInt8} {offset pos : Int} {tlv : Tlv}

/-- A byte has its first bit set from `0x80` on. -/
theorem toBitVec_msb (b : UInt8) : b.toBitVec.msb = decide (0x80 ≤ b) := by
  rw [BitVec.msb_eq_decide]
  rfl

/-- Up to three bytes make no negative length, and four bytes do so by the first bit. -/
theorem accumulateLength_msb {n : Nat} (hn : n ≤ 4) : (accumulateLength der pos n).msb =
    (n == 4 && decide (0x80 ≤ (byteAt der pos).getD 0)) := by
  rw [← toBitVec_msb]
  unfold accumulateLength
  rw [BitVec.msb_eq_getLsbD_last]
  -- a shift by eight for each byte: the sign bit is the first bit of the first of four
  interval_cases n
  all_goals simp [List.range_succ, BitVec.msb_eq_getLsbD_last]

theorem parseLength_ok {b : UInt8} {contentLength start : Int}
    (h : parseLength der (some b) pos = .ok (contentLength, start)) :
    (contentLength = b.toNat ∧ start = pos) ∨
      ∃ n : Nat, n ≤ 4 ∧ b.toNat = 0x80 + n ∧ start = pos + n ∧ pos + n ≤ der.length ∧
        contentLength = (accumulateLength der pos n).toInt := by
  unfold parseLength at h
  dsimp only at h
  -- the short form, or the long one with at most four bytes
  by_cases hshort : b < 0x80
  · rw [if_pos hshort] at h
    cases h
    exact .inl ⟨rfl, rfl⟩
  rw [if_neg hshort] at h
  split at h
  · cases h
  · have hnum : (b &&& 0x7f).toNat = b.toNat % 128 := by
      rw [UInt8.toNat_and]
      exact Nat.and_two_pow_sub_one_eq_mod b.toNat 7
    have hhigh : ¬ b.toNat < 128 := hshort
    have hlt := b.toNat_lt
    have hb : b.toNat = 0x80 + (b &&& 0x7f).toNat := by omega
    unfold parseLongForm at h
    split at h
    · cases h
    · next hfour =>
      split at h
      · cases h
      · next hfits =>
        cases h
        exact .inr ⟨_, Nat.le_of_not_lt hfour, hb, rfl, Int.not_lt.1 hfits, rfl⟩

theorem parseTlv_ok (h : parseTlv der offset = .ok tlv) :
    offset + 1 < der.length ∧ tlv.contentStart + tlv.contentLength ≤ der.length ∧
      tlv.totalLength = tlv.contentStart - offset + tlv.contentLength ∧
      parseLength der (byteAt der (offset + 1)) (offset + 2) =
        .ok (tlv.contentLength, tlv.contentStart) := by
  unfold parseTlv at h
  split at h
  · cases h
  · split at h
    · cases h
    · next hlong =>
      split at h
      · cases h
      · next contentLength start hlength =>
        split at h
        · cases h
        · next hfits =>
          cases h
          exact ⟨Int.not_le.1 hlong, Int.not_lt.1 hfits, rfl, hlength⟩

theorem byteAt_of_inside {i : Int} (hpos : 0 ≤ i) (hlt : i < der.length) :
    ∃ b, byteAt der i = some b := by
  unfold byteAt
  rw [if_neg (Int.not_lt.2 hpos)]
  exact ⟨_, List.getElem?_eq_getElem (by omega)⟩

theorem highLength_of_neg (hoffset : 0 ≤ offset) (h : parseTlv der offset = .ok tlv)
    (hneg : tlv.contentLength < 0) : HighLength der offset := by
  obtain ⟨hlt, hfits, -, hlength⟩ := parseTlv_ok h
  obtain ⟨b, hb⟩ := byteAt_of_inside (by omega) hlt
  rw [hb] at hlength
  -- a short length is positive, so it was a long one
  rcases parseLength_ok hlength with ⟨hshort, -⟩ | ⟨n, hn, hfirst, -, hinside, hlong⟩
  · omega
  · have hmsb : (accumulateLength der (offset + 2) n).msb = true := by
      rw [BitVec.msb_eq_toInt, ← hlong]
      exact decide_eq_true hneg
    rw [accumulateLength_msb hn, Bool.and_eq_true_iff] at hmsb
    obtain ⟨hfour, hhigh⟩ := hmsb
    -- fewer than four bytes leave the sign bit clear
    obtain rfl : n = 4 := eq_of_beq hfour
    refine ⟨?_, ?_, by omega⟩
    · rw [hb, UInt8.toNat_inj.1 (show b.toNat = (0x84 : UInt8).toNat from hfirst)]
    · have hhigh := of_decide_eq_true hhigh
      cases hbyte : byteAt der (offset + 2) with
      | none =>
        rw [hbyte] at hhigh
        exact absurd hhigh (by decide)
      | some b' =>
        rw [hbyte] at hhigh
        exact ⟨b', rfl, hhigh⟩

/-- A high length is accepted, and it is negative. -/
theorem neg_of_highLength (h : HighLength der offset) :
    ∃ tlv, parseTlv der offset = .ok tlv ∧ tlv.contentLength < 0 := by
  obtain ⟨hfirst, ⟨b, hb, hhigh⟩, hinside⟩ := h
  have hneg : (accumulateLength der (offset + 2) 4).toInt < 0 := by
    have hmsb := @accumulateLength_msb der (offset + 2) 4 (Nat.le_refl 4)
    rw [hb, BitVec.msb_eq_toInt] at hmsb
    refine of_decide_eq_true (hmsb.trans ?_)
    exact decide_eq_true hhigh
  have hlength : parseLength der (some 0x84) (offset + 2) =
      .ok ((accumulateLength der (offset + 2) 4).toInt, offset + 2 + 4) := by
    show parseLongForm der (offset + 2) 4 = _
    unfold parseLongForm
    rw [if_neg (Nat.lt_irrefl 4), if_neg (by omega)]
    rfl
  refine ⟨⟨byteAt der offset, offset + 2 + 4, (accumulateLength der (offset + 2) 4).toInt,
    offset + 2 + 4 - offset + (accumulateLength der (offset + 2) 4).toInt⟩, ?_, hneg⟩
  unfold parseTlv
  rw [if_neg (by omega), if_neg (by omega), hfirst, hlength]
  dsimp only
  rw [if_neg (by omega)]

/-! ### Bounds -/

/-- What `parseTlv` accepts lies in the buffer and takes at least two bytes. -/
def TlvBounds (der : List UInt8) (offset : Int) : Prop :=
  ∀ tlv, parseTlv der offset = .ok tlv → 0 ≤ tlv.contentLength ∧ 2 ≤ tlv.totalLength ∧
    tlv.contentStart + tlv.contentLength ≤ der.length

/-- The content starts behind the tag and the length. -/
theorem contentStart_ge (hoffset : 0 ≤ offset) (h : parseTlv der offset = .ok tlv) :
    offset + 2 ≤ tlv.contentStart := by
  obtain ⟨hlt, -, -, hlength⟩ := parseTlv_ok h
  obtain ⟨b, hb⟩ := byteAt_of_inside (by omega) hlt
  rw [hb] at hlength
  rcases parseLength_ok hlength with ⟨-, hstart⟩ | ⟨n, -, -, hstart, -⟩
  · omega
  · omega

/-- **The bounds of an element**: they hold exactly where there is no high length. -/
theorem tlvBounds_iff (hoffset : 0 ≤ offset) : TlvBounds der offset ↔ ¬ HighLength der offset := by
  constructor
  -- a high length would be accepted with a negative value
  · intro hbounds hhigh
    obtain ⟨tlv, hok, hneg⟩ := neg_of_highLength hhigh
    have hpos := (hbounds tlv hok).1
    omega
  · intro hlow tlv hok
    have hpos : 0 ≤ tlv.contentLength :=
      Int.not_lt.1 fun hneg => hlow (highLength_of_neg hoffset hok hneg)
    obtain ⟨-, hfits, htotal, -⟩ := parseTlv_ok hok
    have hstart := contentStart_ge hoffset hok
    exact ⟨hpos, by omega, hfits⟩

/-! ### Termination -/

variable {rangeEnd : Int}

theorem lt_of_advance (hbounds : TlvBounds der pos) {pos' : Int}
    (h : spkiTurn der pos = .advance pos') : pos < pos' := by
  unfold spkiTurn at h
  split at h
  · cases h
  · next tlv hok =>
    split at h
    · cases h
    · cases h
      have htotal := (hbounds tlv hok).2.1
      omega

theorem findSpki_terminates
    (hbounds : ∀ offset : Int, 0 ≤ offset → offset < der.length → TlvBounds der offset)
    (hend : rangeEnd ≤ der.length) {fuel : Nat} (hpos : 0 ≤ pos)
    (hfuel : (rangeEnd - pos).toNat < fuel) :
    ∃ result, findSpki der rangeEnd fuel pos = some result := by
  -- what is left of the range gets smaller in each turn
  induction fuel generalizing pos with
  | zero => exact absurd hfuel (Nat.not_lt_zero _)
  | succ fuel ih =>
    unfold findSpki
    by_cases hlt : pos < rangeEnd
    · rw [if_pos hlt]
      cases hturn : spkiTurn der pos with
      | stop => exact ⟨none, rfl⟩
      | found spki => exact ⟨some spki, rfl⟩
      | advance pos' =>
        have hforward := lt_of_advance (hbounds pos hpos (by omega)) hturn
        exact ih (by omega) (by omega)
    · rw [if_neg hlt]
      exact ⟨none, rfl⟩

theorem tbsRange_ok
    (hbounds : ∀ offset : Int, 0 ≤ offset → offset < der.length → TlvBounds der offset)
    {tbsStart tbsEnd : Int} (h : tbsRange der = .ok (tbsStart, tbsEnd)) :
    0 ≤ tbsStart ∧ tbsEnd ≤ der.length := by
  unfold tbsRange at h
  split at h
  · cases h
  · next cert hcert =>
    split at h
    · cases h
    · split at h
      · cases h
      · next tbs htbs =>
        split at h
        · cases h
        · cases h
          have hcertStart := contentStart_ge (Int.le_refl 0) hcert
          -- the second element begins inside, or it could not have been read
          have hinside : cert.contentStart < der.length := by
            have hlt := (parseTlv_ok htbs).1
            omega
          have hcertPos : 0 ≤ cert.contentStart := by omega
          have htbsStart := contentStart_ge hcertPos htbs
          have hfits := (hbounds cert.contentStart hcertPos hinside tbs htbs).2.2
          exact ⟨by omega, hfits⟩

theorem extractP256PublicKey_terminates
    (hbounds : ∀ offset : Int, 0 ≤ offset → offset < der.length → TlvBounds der offset)
    {certBase64 : String} (hcert : ∀ der', atob certBase64 = some der' → der' = der) :
    ∃ fuel result, extractP256PublicKey fuel certBase64 = some result := by
  unfold extractP256PublicKey
  cases hatob : atob certBase64 with
  | none => exact ⟨0, _, rfl⟩
  | some der' =>
    obtain rfl := hcert der' hatob
    dsimp only
    cases hrange : tbsRange der' with
    | error e => exact ⟨0, _, rfl⟩
    | ok range =>
      obtain ⟨tbsStart, tbsEnd⟩ := range
      obtain ⟨hstart, hend⟩ := tbsRange_ok hbounds hrange
      obtain ⟨result, hscan⟩ :=
        findSpki_terminates hbounds hend hstart (Nat.lt_succ_self (tbsEnd - tbsStart).toNat)
      refine ⟨(tbsEnd - tbsStart).toNat + 1, ?_⟩
      dsimp only
      rw [hscan]
      exact ⟨_, rfl⟩

end Lengths

/-- The certificate is parsed within its bounds: each element that is accepted lies in the buffer,
each turn of the scan goes forward, and the extraction of the key terminates on a text that
decodes to these bytes or to none. -/
structure ParsesWithinBounds (der : List UInt8) : Prop where
  bounds : ∀ offset : Int, 0 ≤ offset → offset < der.length → TlvBounds der offset
  advances : ∀ pos pos' : Int, 0 ≤ pos → pos < der.length →
    spkiTurn der pos = .advance pos' → pos < pos'
  terminates : ∀ certBase64, (∀ der', atob certBase64 = some der' → der' = der) →
    ∃ fuel result, extractP256PublicKey fuel certBase64 = some result

/-- **Parsing keeps its bounds and terminates exactly on the certificates without a high
length.** -/
theorem certificate_parsing_iff (der : List UInt8) : ParsesWithinBounds der ↔
    ∀ offset : Int, 0 ≤ offset → offset < der.length → ¬ HighLength der offset := by
  constructor
  · intro h offset hpos hlt
    exact (tlvBounds_iff hpos).1 (h.bounds offset hpos hlt)
  · intro hlow
    have hbounds : ∀ offset : Int, 0 ≤ offset → offset < der.length → TlvBounds der offset :=
      fun offset hpos hlt => (tlvBounds_iff hpos).2 (hlow offset hpos hlt)
    constructor
    · exact hbounds
    · intro pos pos' hpos hlt hturn
      exact lt_of_advance (hbounds pos hpos hlt) hturn
    · intro certBase64 hcert
      exact extractP256PublicKey_terminates hbounds hcert

/-- The element after the header of tbsCertificate has the length -6, so it takes no byte at all:
the scan stands still, and the extraction never ends. -/
theorem scan_stands_still :
    ¬ ParsesWithinBounds [0x30, 8, 0x30, 6, 2, 0x84, 255, 255, 255, 250] ∧
      parseTlv [0x30, 8, 0x30, 6, 2, 0x84, 255, 255, 255, 250] 4 = .ok ⟨some 2, 10, -6, 0⟩ ∧
      ∀ fuel, extractP256PublicKey fuel "MAgwBgKE////+g==" = none := by
  have hatob : atob "MAgwBgKE////+g==" =
      some [0x30, 8, 0x30, 6, 2, 0x84, 255, 255, 255, 250] := by decide
  -- a total length of zero: the turn advances to where it is
  have hturn : spkiTurn [0x30, 8, 0x30, 6, 2, 0x84, 255, 255, 255, 250] 4 = .advance 4 := by decide
  have hscan : ∀ fuel,
      findSpki [0x30, 8, 0x30, 6, 2, 0x84, 255, 255, 255, 250] 10 fuel 4 = none := by
    intro fuel
    induction fuel with
    | zero => rfl
    | succ fuel ih =>
      unfold findSpki
      rw [if_pos (by decide), hturn]
      exact ih
  have hforever : ∀ fuel, extractP256PublicKey fuel "MAgwBgKE////+g==" = none := by
    intro fuel
    unfold extractP256PublicKey
    rw [hatob]
    show (findSpki _ 10 fuel 4).map _ = none
    rw [hscan fuel]
    rfl
  refine ⟨fun h => ?_, by decide, hforever⟩
  obtain ⟨fuel, result, hresult⟩ := h.terminates "MAgwBgKE////+g==" fun der' hder' =>
    Option.some.inj (hder'.symm.trans hatob)
  rw [hforever fuel] at hresult
  cases hresult

end Signet.Verifier
