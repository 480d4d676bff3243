import Mathlib.Algebra.Group.Nat.Defs
import Signet.Core.ConvosInvite

/-!
# Compressed invites

The two halves of `createInviteCrypto` that shorten what an invite carries: `compress`
and `decompress`, for any scheme's marker byte, threshold and size limit. zlib is the
parameter `Zlib`, which carries the one fact the source rests on: what was deflated
inflates to what it was, as long as that fits the limit.

A stream is told from bytes that were left alone by its first byte only, and `compress`
leaves short bytes alone whatever they begin with. Bytes that were left alone and begin
with the marker do not come back, unless they happen to hold a stream of themselves
(`decompress_compress_iff`).
-/

namespace Signet

open Lib

/-- What `createInviteCrypto` takes of its config for compression, with the defaults of the
source. That the marker is one byte, `requireByteConfig` checks. -/
structure CompressionConfig where
  compressionMarker : UInt8 := Signet.compressionMarker
  compressionThresholdBytes : Nat := 100
  maxDecompressedSize : Nat := Signet.maxDecompressedSize

/-- The two functions of `node:zlib`. -/
structure Zlib where
  deflateSync : Bytes → Bytes
  /-- `inflateSync(data, { maxOutputLength })`. -/
  inflateSync : Nat → Bytes → Except String Bytes
  /-- What was deflated inflates to what it was. -/
  inflate_deflate : ∀ {maxOutputLength : Nat} {data : Bytes}, data.length ≤ maxOutputLength →
    inflateSync maxOutputLength (deflateSync data) = .ok data

/-- The size that four bytes of a header declare. -/
def declaredSize (b1 b2 b3 b4 : UInt8) : Nat :=
  b1.toNat * 0x1000000 + b2.toNat * 0x10000 + b3.toNat * 0x100 + b4.toNat

namespace CompressionConfig

variable (cfg : CompressionConfig) (zlib : Zlib)

def compress (data : Bytes) : Bytes :=
  if data.length ≤ cfg.compressionThresholdBytes then data
  else
    let compressed := zlib.deflateSync data
    if compressed.length + 5 < data.length then
      cfg.compressionMarker :: UInt8.ofNat (data.length >>> 24) ::
        UInt8.ofNat (data.length >>> 16) :: UInt8.ofNat (data.length >>> 8) ::
        UInt8.ofNat data.length :: compressed
    else data

/-- `decompress`, with the error field of its caller. -/
def decompress (errorField : String) (data : Bytes) : Result Bytes :=
  if data.head? ≠ some cfg.compressionMarker then .ok data
  else match data with
  | _ :: b1 :: b2 :: b3 :: b4 :: body =>
    if declaredSize b1 b2 b3 b4 > cfg.maxDecompressedSize then
      .error (.validationError errorField
        ("Decompressed size exceeds maximum: " ++ toString (declaredSize b1 b2 b3 b4)))
    else match zlib.inflateSync cfg.maxDecompressedSize body with
    | .error cause =>
      .error (.validationError errorField ("Failed to decompress invite data: " ++ cause))
    | .ok decompressed =>
      if decompressed.length > cfg.maxDecompressedSize then
        .error (.validationError errorField
          ("Decompressed size exceeds maximum: " ++ toString decompressed.length))
      else .ok decompressed
  | _ => .error (.validationError errorField "Compressed invite data is truncated")

/-- **The parser of invites decompresses with the defaults.** -/
theorem decompress_default {prims : InvitePrimitives}
    (hsame : prims.inflateSync = zlib.inflateSync Signet.maxDecompressedSize) (errorField : String)
    (data : Bytes) :
    Signet.decompress prims errorField data =
      ({} : CompressionConfig).decompress zlib errorField data := by
  unfold Signet.decompress CompressionConfig.decompress
  rw [hsame]
  rfl

/-! ### What comes back -/

/-- `compress` chooses the stream. -/
def Compresses (data : Bytes) : Prop :=
  cfg.compressionThresholdBytes < data.length ∧
    (zlib.deflateSync data).length + 5 < data.length

instance (data : Bytes) : Decidable (cfg.Compresses zlib data) :=
  inferInstanceAs (Decidable (_ ∧ _))

/-- The bytes read as a header and a stream of these bytes themselves. -/
def HoldsItself (data : Bytes) : Prop :=
  ∃ b0 b1 b2 b3 b4 body, data = b0 :: b1 :: b2 :: b3 :: b4 :: body ∧
    declaredSize b1 b2 b3 b4 ≤ cfg.maxDecompressedSize ∧
    zlib.inflateSync cfg.maxDecompressedSize body = .ok data

variable {cfg zlib} {data out : Bytes} {errorField : String}

theorem compress_of_compresses (h : cfg.Compresses zlib data) :
    cfg.compress zlib data =
      cfg.compressionMarker :: UInt8.ofNat (data.length >>> 24) ::
        UInt8.ofNat (data.length >>> 16) :: UInt8.ofNat (data.length >>> 8) ::
        UInt8.ofNat data.length :: zlib.deflateSync data := by
  unfold compress
  rw [if_neg (Nat.not_le.2 h.1)]
  exact if_pos h.2

theorem compress_of_not_compresses (h : ¬ cfg.Compresses zlib data) :
    cfg.compress zlib data = data := by
  unfold compress
  by_cases hshort : data.length ≤ cfg.compressionThresholdBytes
  · exact if_pos hshort
  · rw [if_neg hshort]
    exact if_neg fun hsaves => h ⟨Nat.not_le.1 hshort, hsaves⟩

theorem decompress_of_head (h : data.head? ≠ some cfg.compressionMarker) :
    cfg.decompress zlib errorField data = .ok data :=
  if_pos h

/-- A stream is inflated if neither its declared nor its real size exceeds the limit. -/
theorem decompress_stream_eq_ok {b1 b2 b3 b4 : UInt8} {body : Bytes} :
    cfg.decompress zlib errorField
        (cfg.compressionMarker :: b1 :: b2 :: b3 :: b4 :: body) = .ok out ↔
      declaredSize b1 b2 b3 b4 ≤ cfg.maxDecompressedSize ∧
        out.length ≤ cfg.maxDecompressedSize ∧
        zlib.inflateSync cfg.maxDecompressedSize body = .ok out := by
  have hmarked : (cfg.compressionMarker :: b1 :: b2 :: b3 :: b4 :: body).head? =
      some cfg.compressionMarker := List.head?_cons
  unfold decompress
  rw [if_neg (not_not_intro hmarked)]
  dsimp only
  by_cases hdeclared : declaredSize b1 b2 b3 b4 > cfg.maxDecompressedSize
  · rw [if_pos hdeclared]
    constructor
    · intro h
      cases h
    · exact fun h => absurd h.1 (Nat.not_le.2 hdeclared)
  rw [if_neg hdeclared]
  cases hinflate : zlib.inflateSync cfg.maxDecompressedSize body with
  | error cause =>
    constructor
    · intro h
      cases h
    · rintro ⟨-, -, h⟩
      cases h
  | ok decompressed =>
    dsimp only
    by_cases hlong : decompressed.length > cfg.maxDecompressedSize
    · rw [if_pos hlong]
      constructor
      · intro h
        cases h
      · rintro ⟨-, hshort, h⟩
        obtain rfl := Except.ok.inj h
        exact absurd hshort (Nat.not_le.2 hlong)
    · rw [if_neg hlong]
      constructor
      · intro h
        obtain rfl := Except.ok.inj h
        exact ⟨Nat.not_lt.1 hdeclared, Nat.not_lt.1 hlong, rfl⟩
      · rintro ⟨-, -, h⟩
        rw [Except.ok.inj h]

/-- A header declares the length it was written for, up to 32 bits. -/
theorem declaredSize_header (n : Nat) :
    declaredSize (UInt8.ofNat (n >>> 24)) (UInt8.ofNat (n >>> 16)) (UInt8.ofNat (n >>> 8))
      (UInt8.ofNat n) = n % 2 ^ 32 := by
  unfold declaredSize
  simp only [UInt8.toNat_ofNat', Nat.shiftRight_eq_div_pow]
  omega

theorem decompress_compress_of_compresses (hlen : data.length ≤ cfg.maxDecompressedSize)
    (h : cfg.Compresses zlib data) :
    cfg.decompress zlib errorField (cfg.compress zlib data) = .ok data := by
  rw [compress_of_compresses h]
  refine decompress_stream_eq_ok.2 ⟨?_, hlen, zlib.inflate_deflate hlen⟩
  calc declaredSize _ _ _ _ = data.length % 2 ^ 32 := declaredSize_header data.length
    _ ≤ data.length := Nat.mod_le _ _
    _ ≤ cfg.maxDecompressedSize := hlen

/-- Bytes that begin with the marker come back unchanged only as a stream of themselves. -/
theorem decompress_marked_iff (hlen : data.length ≤ cfg.maxDecompressedSize)
    (hmarked : data.head? = some cfg.compressionMarker) :
    cfg.decompress zlib errorField data = .ok data ↔ cfg.HoldsItself zlib data := by
  constructor
  · intro h
    match data, hmarked with
    | b0 :: b1 :: b2 :: b3 :: b4 :: body, hmarked =>
      obtain rfl := Option.some.inj hmarked
      obtain ⟨hdeclared, -, hinflate⟩ := decompress_stream_eq_ok.1 h
      exact ⟨_, _, _, _, _, _, rfl, hdeclared, hinflate⟩
    | [b0], hmarked | [b0, b1], hmarked | [b0, b1, b2], hmarked | [b0, b1, b2, b3], hmarked =>
      -- shorter than a header
      unfold decompress at h
      rw [if_neg (not_not_intro hmarked)] at h
      cases h
  · rintro ⟨b0, b1, b2, b3, b4, body, rfl, hdeclared, hinflate⟩
    obtain rfl := Option.some.inj hmarked
    exact decompress_stream_eq_ok.2 ⟨hdeclared, hlen, hinflate⟩

/-- **When bytes come back.** For all bytes within the limit: exactly those that were compressed,
those that do not begin with the marker, and those that hold a stream of themselves. -/
theorem decompress_compress_iff (hlen : data.length ≤ cfg.maxDecompressedSize) :
    cfg.decompress zlib errorField (cfg.compress zlib data) = .ok data ↔
      cfg.Compresses zlib data ∨ data.head? ≠ some cfg.compressionMarker ∨
        cfg.HoldsItself zlib data := by
  by_cases hcompresses : cfg.Compresses zlib data
  · exact iff_of_true (decompress_compress_of_compresses hlen hcompresses) (.inl hcompresses)
  rw [compress_of_not_compresses hcompresses, or_iff_right hcompresses]
  by_cases hmarked : data.head? = some cfg.compressionMarker
  · rw [decompress_marked_iff hlen hmarked, or_iff_right (not_not_intro hmarked)]
  · exact iff_of_true (decompress_of_head hmarked) (.inl hmarked)

end CompressionConfig

/-! ### A zlib that knows one stream -/

/-- What `deflateSync` makes of 120 zero bytes. -/
def zerosStream : Bytes :=
  [0x78, 0x9c, 0x63, 0x60, 0x18, 0x18, 0x00, 0x00, 0x00, 0x78, 0x00, 0x01]

/-- Every other stream stores its bytes after a byte that no zlib stream begins with. -/
def zlibExample : Zlib where
  deflateSync data := if data = List.replicate 120 0 then zerosStream else 0xff :: data
  inflateSync maxOutputLength stream :=
    if stream = zerosStream then
      if 120 ≤ maxOutputLength then .ok (List.replicate 120 0)
      else .error "Cannot create a Buffer larger than the limit"
    else match stream with
    | 0xff :: data => .ok data
    | _ => .error "incorrect header check"
  inflate_deflate {maxOutputLength data} hlen := by
    by_cases hzeros : data = List.replicate 120 0
    · subst hzeros
      rw [List.length_replicate] at hlen
      rw [if_pos rfl, if_pos rfl, if_pos hlen]
    · rw [if_neg hzeros, if_neg (by unfold zerosStream; simp)]
      rfl

/-- Compressed zeros come back, and so do three bytes that were left alone. -/
theorem decompress_compress_iff_zeros :
    ({} : CompressionConfig).decompress zlibExample "inviteData"
        (({} : CompressionConfig).compress zlibExample (List.replicate 120 0)) =
      .ok (List.replicate 120 0) ∧
    ({} : CompressionConfig).decompress zlibExample "inviteData"
        (({} : CompressionConfig).compress zlibExample [1, 2, 3]) = .ok [1, 2, 3] :=
  ⟨(CompressionConfig.decompress_compress_iff (by decide)).2 (.inl (by decide)),
    (CompressionConfig.decompress_compress_iff (by decide)).2 (.inr (.inl (by decide)))⟩

/-- **One byte is lost.** The marker byte alone is left as it is, and then taken for a stream. -/
theorem marker_byte_lost : ¬ ∀ (cfg : CompressionConfig) (zlib : Zlib) (errorField : String)
    (data : Bytes), data.length ≤ cfg.maxDecompressedSize →
      cfg.decompress zlib errorField (cfg.compress zlib data) = .ok data := by
  intro h
  have hback := h {} zlibExample "inviteData" [0x1f] (by decide)
  rw [show ({} : CompressionConfig).decompress zlibExample "inviteData"
      (({} : CompressionConfig).compress zlibExample [0x1f]) =
        .error (.validationError "inviteData" "Compressed invite data is truncated") from rfl]
    at hback
  cases hback

end Signet
