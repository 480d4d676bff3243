import Signet.Lib.Der
import Signet.Lib.SelfDelimiting
import Signet.Lib.Utf8
import Signet.Verifier.X509Key

/-!
# DSSE envelopes

The signature of a Sigstore bundle: the pre-authentication encoding of the envelope, and the
signature in DER or in compact form.

* `computePae_injective`: the encoding determines the payload type and the payload.
* `dsse_signature_iff`: a DER signature is converted to its compact form, and verified like it,
  unless it is 64 bytes long: then it is taken for the compact form already.
-/

namespace Signet.Verifier

open Lib

/-! ### The encoding -/

/-- The decimal digits of a number, as ASCII bytes. -/
def decimalBytes (n : Nat) : List UInt8 :=
  encodeUtf8 (Nat.toDigits 10 n)

def computePae (payloadType : String) (payload : List UInt8) : List UInt8 :=
  let typeBytes := encodeUtf8 payloadType.toList
  encodeUtf8 "DSSEv1 ".toList ++ decimalBytes typeBytes.length ++ encodeUtf8 [' '] ++ typeBytes ++
    (encodeUtf8 [' '] ++ decimalBytes payload.length ++ encodeUtf8 [' ']) ++ payload

/-! ### Signatures -/

def compactSigLength : Nat := 64

/-- `target.set(bytes, offset)`. -/
def setBytes (target : List UInt8) (offset : Nat) (bytes : List UInt8) : List UInt8 :=
  target.take offset ++ bytes ++ target.drop (offset + bytes.length)

/-- `copyIntegerToFixed`, with the buffer it leaves; a length that is undefined copies nothing. -/
def copyIntegerToFixed (src : List UInt8) (srcOffset : Nat) (srcLen : Option UInt8)
    (dst : List UInt8) (dstOffset fieldSize : Nat) : Except String (List UInt8) :=
  match srcLen with
  | none => .ok dst
  | some srcLen =>
    let (start, len) :=
      if fieldSize < srcLen.toNat ∧ src[srcOffset]? = some 0 then
        (srcOffset + 1, srcLen.toNat - 1)
      else (srcOffset, srcLen.toNat)
    if fieldSize < len then
      .error ("DER integer too large: " ++ toString len ++ " bytes for " ++ toString fieldSize ++
        "-byte field")
    else
      let padLen := fieldSize - len
      let dst := setBytes dst dstOffset (List.replicate padLen 0)
      .ok (setBytes dst (dstOffset + padLen) ((src.drop start).take len))

def derSigToCompact (der : List UInt8) : Except String (List UInt8) :=
  if der.length = compactSigLength then .ok der
  else if der.length < 8 ∨ der[0]? ≠ some 0x30 then .error "Not a DER-encoded signature"
  else
    let second := (der[1]?).getD 0
    let pos := if 0x80 ≤ second then 2 + (second &&& 0x7f).toNat else 2
    let compact := List.replicate compactSigLength 0
    if der[pos]? ≠ some 0x02 then .error "Expected INTEGER tag for r"
    else
      let rLen := der[pos + 1]?
      match copyIntegerToFixed der (pos + 2) rLen compact 0 32 with
      | .error e => .error e
      | .ok compact =>
        match rLen with
        -- the position is not a number any more
        | none => .error "Expected INTEGER tag for s"
        | some rLen =>
          let pos := pos + 2 + rLen.toNat
          if der[pos]? ≠ some 0x02 then .error "Expected INTEGER tag for s"
          else copyIntegerToFixed der (pos + 2) der[pos + 1]? compact 32 32

/-- The envelope of a bundle. -/
structure DsseEnvelope where
  payload : String
  payloadType : String
  signatures : List String

/-- `verifyDsseSignature`; `verify` is `p256.verify`, none where it throws. -/
def verifyDsseSignature (verify : List UInt8 → List UInt8 → List UInt8 → Option Bool)
    (envelope : DsseEnvelope) (publicKey : List UInt8) : Except String Unit :=
  match envelope.signatures.find? (· ≠ "") with
  | none => .error "No non-empty signature in DSSE envelope"
  | some sig =>
    match atob sig with
    | none => .error "Signature is not valid base64"
    | some sigDerBytes =>
      match derSigToCompact sigDerBytes with
      | .error e => .error ("Signature format error: " ++ e)
      | .ok compact =>
        match atob envelope.payload with
        | none => .error "Payload is not valid base64"
        | some payloadBytes =>
          match verify compact (computePae envelope.payloadType payloadBytes) publicKey with
          | none => .error "Signature verification threw an error"
          | some false => .error "DSSE signature is invalid"
          | some true => .ok ()

/-- A signature in compact form. -/
def compactSignature (r s : Nat) : List UInt8 :=
  fixedBytes 32 r ++ fixedBytes 32 s

def derSignature (r s : Nat) : List UInt8 :=
  tlv 0x30 (derInteger r ++ derInteger s)

/-! ### The encoding is injective -/

/-- A number and the space after it. -/
theorem selfDelimiting_decimal :
    SelfDelimiting fun n => decimalBytes n ++ encodeUtf8 [' '] := by
  have hdigit : ∀ n, ∀ c ∈ Nat.toDigits 10 n, 48 ≤ c.toNat ∧ c.toNat ≤ 57 := by
    intro n c hmem
    have hc := Nat.isDigit_of_mem_toDigits (by decide) (le_refl 10) hmem
    rw [Char.isDigit, Bool.and_eq_true, decide_eq_true_iff, decide_eq_true_iff] at hc
    exact hc
  have hbytes : ∀ n, decimalBytes n = (Nat.toDigits 10 n).map fun c => UInt8.ofNat c.toNat :=
    fun n => encodeUtf8_ascii fun c hmem => (hdigit n c hmem).2.trans (by decide)
  -- no digit is a space
  have hspace : ∀ n, (0x20 : UInt8) ∉ decimalBytes n := by
    intro n hmem
    rw [hbytes, List.mem_map] at hmem
    obtain ⟨c, hc, heq⟩ := hmem
    obtain ⟨hlow, hhigh⟩ := hdigit n c hc
    have hnat := congrArg UInt8.toNat heq
    rw [UInt8.toNat_ofNat', Nat.mod_eq_of_lt (by omega)] at hnat
    change c.toNat = 32 at hnat
    omega
  intro n n' x x' heq
  have hsep : ∀ m (y : List UInt8), decimalBytes m ++ encodeUtf8 [' '] ++ y =
      decimalBytes m ++ 0x20 :: y := by
    intro m y
    rw [List.append_assoc]
    rfl
  rw [hsep, hsep] at heq
  obtain ⟨hnumber, hrest⟩ := SelfDelimiting.append_sep_inj (hspace n) (hspace n') heq
  refine ⟨?_, hrest⟩
  rw [← @Nat.ofDigitChars_ten_toDigits n, ← @Nat.ofDigitChars_ten_toDigits n',
    encodeUtf8_injective hnumber]

/-- **The encoding determines type and payload.** -/
theorem computePae_injective {payloadType payloadType' : String} {payload payload' : List UInt8}
    (h : computePae payloadType payload = computePae payloadType' payload') :
    payloadType = payloadType' ∧ payload = payload' := by
  unfold computePae at h
  simp only [List.append_assoc] at h
  have hprefix := List.append_cancel_left h
  rw [← List.append_assoc,
    ← List.append_assoc (decimalBytes (encodeUtf8 payloadType'.toList).length)]
    at hprefix
  obtain ⟨hlength, hrest⟩ := selfDelimiting_decimal _ _ _ _ hprefix
  -- both types have that many bytes
  obtain ⟨htype, hpayload⟩ := List.append_inj hrest hlength
  have hbody := List.append_cancel_left hpayload
  rw [← List.append_assoc, ← List.append_assoc (decimalBytes payload'.length)] at hbody
  obtain ⟨-, hbytes⟩ := selfDelimiting_decimal _ _ _ _ hbody
  exact ⟨String.toList_injective (encodeUtf8_injective htype), hbytes⟩

/-- What an accepted envelope has passed. -/
theorem verified_of_ok {verify : List UInt8 → List UInt8 → List UInt8 → Option Bool}
    {publicKey : List UInt8} {envelope : DsseEnvelope}
    (h : verifyDsseSignature verify envelope publicKey = .ok ()) :
    ∃ sig der compact payload, envelope.signatures.find? (· ≠ "") = some sig ∧
      atob sig = some der ∧ derSigToCompact der = .ok compact ∧
      atob envelope.payload = some payload ∧
      verify compact (computePae envelope.payloadType payload) publicKey = some true := by
  unfold verifyDsseSignature at h
  split at h
  · cases h
  next sig hsig =>
    split at h
    · cases h
    next der hder =>
      split at h
      · cases h
      next compact hcompact =>
        split at h
        · cases h
        next payload hpayload =>
          split at h
          · cases h
          · cases h
          next hgood => exact ⟨sig, der, compact, payload, hsig, hder, hcompact, hpayload, hgood⟩

/-- **An envelope is signed for itself alone**: where a signature is good for one text only, two
envelopes that it is good for have the same type and payload. -/
theorem pae_injective :
    (∀ payloadType payloadType' payload payload',
      computePae payloadType payload = computePae payloadType' payload' →
        payloadType = payloadType' ∧ payload = payload') ∧
    (∀ (verify : List UInt8 → List UInt8 → List UInt8 → Option Bool) (publicKey signature),
      (∀ text text', verify signature text publicKey = some true →
        verify signature text' publicKey = some true → text = text') →
      ∀ (envelope envelope' : DsseEnvelope) (payload payload' : List UInt8),
        atob envelope.payload = some payload → atob envelope'.payload = some payload' →
        verify signature (computePae envelope.payloadType payload) publicKey = some true →
        verify signature (computePae envelope'.payloadType payload') publicKey = some true →
          envelope.payloadType = envelope'.payloadType ∧ payload = payload') ∧
    ∀ (verify : List UInt8 → List UInt8 → List UInt8 → Option Bool) (publicKey : List UInt8),
      (∀ signature text text', verify signature text publicKey = some true →
        verify signature text' publicKey = some true → text = text') →
      ∀ envelope envelope' : DsseEnvelope,
        envelope.signatures.find? (· ≠ "") = envelope'.signatures.find? (· ≠ "") →
        verifyDsseSignature verify envelope publicKey = .ok () →
        verifyDsseSignature verify envelope' publicKey = .ok () →
          envelope.payloadType = envelope'.payloadType ∧
            atob envelope.payload = atob envelope'.payload := by
  refine ⟨fun _ _ _ _ h => computePae_injective h, ?_, ?_⟩
  · intro verify publicKey signature hsingle envelope envelope' payload payload' _ _ hgood hgood'
    exact computePae_injective (hsingle _ _ hgood hgood')
  · intro verify publicKey hsingle envelope envelope' hsame hok hok'
    obtain ⟨sig, der, compact, payload, hsig, hder, hcompact, hpayload, hgood⟩ := verified_of_ok hok
    obtain ⟨_, _, _, payload', hsig', hder', hcompact', hpayload', hgood'⟩ := verified_of_ok hok'
    -- both were checked against the same signature
    cases hsig.symm.trans (hsame.trans hsig')
    cases hder.symm.trans hder'
    cases hcompact.symm.trans hcompact'
    obtain ⟨htype, rfl⟩ := computePae_injective (hsingle _ _ _ hgood hgood')
    exact ⟨htype, hpayload.trans hpayload'.symm⟩

/-- One payload, with padding and without. -/
theorem pae_injective_padding : atob "AQ==" = atob "AQ" :=
  let signature := String.ofList (List.replicate 86 'A') ++ "=="
  (pae_injective.2.2 (fun _ text _ => some (text = computePae "t" [1])) []
    (fun _ _ _ h h' => (of_decide_eq_true (Option.some.inj h)).trans
      (of_decide_eq_true (Option.some.inj h')).symm)
    ⟨"AQ==", "t", [signature]⟩ ⟨"AQ", "t", [signature]⟩ rfl (by decide +kernel)
    (by decide +kernel)).2

/-! ### DER and compact form -/

theorem derInteger_eq {n : Nat} (h : n < 2 ^ 256) :
    derInteger n = 0x02 :: UInt8.ofNat (integerContent n).length :: integerContent n := by
  have hlt : (integerContent n).length < 128 := by
    have hpow : n < 256 ^ 32 := lt_of_lt_of_eq h (by decide)
    rcases integerContent_cases hpow with ⟨hle, -⟩ | ⟨heq, -⟩
    · omega
    · omega
  unfold derInteger tlv
  rw [derLength_short hlt]
  rfl

theorem integerContent_length {n : Nat} (hpos : 1 ≤ n) (h : n < 2 ^ 256) :
    1 ≤ (integerContent n).length ∧ (integerContent n).length ≤ 33 := by
  have hpow : n < 256 ^ 32 := lt_of_lt_of_eq h (by decide)
  refine ⟨integerContent_length_pos hpos, ?_⟩
  rcases integerContent_cases hpow with ⟨hle, -⟩ | ⟨heq, -⟩
  · omega
  · omega

theorem setBytes_append {before old rest bytes : List UInt8} (h : old.length = bytes.length) :
    setBytes (before ++ (old ++ rest)) before.length bytes = before ++ (bytes ++ rest) := by
  unfold setBytes
  rw [List.take_left, ← List.append_assoc before old rest, ← h, ← List.length_append,
    List.drop_left, List.append_assoc]

theorem setBytes_padded {before old rest bytes : List UInt8} {pad : Nat}
    (h : old.length = pad + bytes.length) :
    setBytes (setBytes (before ++ (old ++ rest)) before.length (List.replicate pad 0))
        (before.length + pad) bytes =
      before ++ (List.replicate pad 0 ++ bytes ++ rest) := by
  have hpad : (old.take pad).length = pad := by
    rw [List.length_take]
    omega
  have hrest : (old.drop pad).length = bytes.length := by
    rw [List.length_drop]
    omega
  have hinner : setBytes (before ++ (old ++ rest)) before.length (List.replicate pad 0) =
      before ++ (List.replicate pad 0 ++ (old.drop pad ++ rest)) := by
    conv_lhs => rw [← List.take_append_drop pad old, List.append_assoc]
    rw [setBytes_append (by rw [hpad, List.length_replicate])]
  have hzeros : before.length + pad = (before ++ List.replicate pad (0 : UInt8)).length := by
    rw [List.length_append, List.length_replicate]
  rw [hinner, ← List.append_assoc before, hzeros, setBytes_append hrest, List.append_assoc,
    List.append_assoc]

/-- **An INTEGER is copied as its 32 bytes.** -/
theorem copyIntegerToFixed_content {before after dst old rest : List UInt8} {n : Nat}
    (h : n < 2 ^ 256) (hold : old.length = 32) :
    copyIntegerToFixed (before ++ (integerContent n ++ after)) before.length
        (some (UInt8.ofNat (integerContent n).length)) (dst ++ (old ++ rest)) dst.length 32 =
      .ok (dst ++ (fixedBytes 32 n ++ rest)) := by
  have hpow : n < 256 ^ 32 := lt_of_lt_of_eq h (by decide)
  unfold copyIntegerToFixed
  dsimp only
  rcases integerContent_cases hpow with ⟨hle, hfixed⟩ | ⟨hlength, hcontent⟩
  · -- the content is short enough, zeros come before it
    have hlen : (UInt8.ofNat (integerContent n).length).toNat = (integerContent n).length := by
      rw [UInt8.toNat_ofNat', Nat.mod_eq_of_lt (by omega)]
    have hstart : (if 32 < (integerContent n).length ∧
        (before ++ (integerContent n ++ after))[before.length]? = some 0 then
          (before.length + 1, (integerContent n).length - 1)
        else (before.length, (integerContent n).length)) =
          (before.length, (integerContent n).length) :=
      if_neg fun hlong => absurd hlong.1 (Nat.not_lt.2 hle)
    rw [hlen, hstart]
    dsimp only
    rw [if_neg (Nat.not_lt.2 hle), List.drop_left, List.take_left,
      setBytes_padded (by omega), ← hfixed]
  · -- the sign byte is left out
    have hlen : (UInt8.ofNat (integerContent n).length).toNat = 33 := by
      rw [hlength]
      rfl
    have hsign : (before ++ (integerContent n ++ after))[before.length]? = some 0 := by
      rw [List.getElem?_append_right (le_refl _), Nat.sub_self, hcontent]
      rfl
    have hdrop : ((before ++ (integerContent n ++ after)).drop (before.length + 1)).take 32 =
        fixedBytes 32 n := by
      rw [← List.drop_drop, List.drop_left, hcontent, List.cons_append, List.drop_succ_cons,
        List.drop_zero]
      exact List.take_left' (length_fixedBytes 32 n)
    have hstart : (if 32 < 33 ∧ (before ++ (integerContent n ++ after))[before.length]? = some 0
        then (before.length + 1, 33 - 1) else (before.length, 33)) = (before.length + 1, 32) :=
      if_pos ⟨by decide, hsign⟩
    rw [hlen, hstart]
    dsimp only
    rw [if_neg (by decide), hdrop, setBytes_padded (by rw [hold, length_fixedBytes]),
      Nat.sub_self, List.replicate_zero, List.nil_append]

theorem derSignature_length {r s : Nat} (hr : r < 2 ^ 256) (hs : s < 2 ^ 256) :
    (derInteger r ++ derInteger s).length =
      4 + (integerContent r).length + (integerContent s).length := by
  rw [derInteger_eq hr, derInteger_eq hs, List.length_append, List.length_cons, List.length_cons,
    List.length_cons, List.length_cons]
  omega

theorem derSignature_eq {r s : Nat} (hr : 1 ≤ r ∧ r < 2 ^ 256) (hs : 1 ≤ s ∧ s < 2 ^ 256) :
    derSignature r s =
      [0x30, UInt8.ofNat (4 + (integerContent r).length + (integerContent s).length), 0x02,
        UInt8.ofNat (integerContent r).length] ++ (integerContent r ++
        ([0x02, UInt8.ofNat (integerContent s).length] ++ (integerContent s ++ []))) := by
  have hlength := derSignature_length hr.2 hs.2
  have hbound := (integerContent_length hr.1 hr.2).2
  have hbound' := (integerContent_length hs.1 hs.2).2
  unfold derSignature tlv
  rw [hlength, derLength_short (by omega), derInteger_eq hr.2, derInteger_eq hs.2, List.append_nil]
  rfl

theorem length_derSignature {r s : Nat} (hr : 1 ≤ r ∧ r < 2 ^ 256) (hs : 1 ≤ s ∧ s < 2 ^ 256) :
    (derSignature r s).length = 6 + (integerContent r).length + (integerContent s).length := by
  rw [derSignature_eq hr hs]
  simp only [List.length_append, List.length_cons, List.length_nil]
  omega

theorem derSigToCompact_parts {total rLen sLen : UInt8} {rContent sContent der : List UInt8}
    (hder : der = 0x30 :: total :: 0x02 :: rLen :: (rContent ++ 0x02 :: sLen :: sContent))
    (hlong : der.length ≠ 64) (hmin : 8 ≤ der.length) (htotal : ¬ (0x80 : UInt8) ≤ total)
    (hrLen : rLen.toNat = rContent.length) {compact : List UInt8}
    (hr : copyIntegerToFixed der 4 (some rLen) (List.replicate 64 0) 0 32 = .ok compact) :
    derSigToCompact der =
      copyIntegerToFixed der (6 + rContent.length) (some sLen) compact 32 32 := by
  have hfirst : der[0]? = some 0x30 := by rw [hder]; rfl
  have hsecond : der[1]? = some total := by rw [hder]; rfl
  have htag : der[2]? = some 0x02 := by rw [hder]; rfl
  have hlen : der[2 + 1]? = some rLen := by rw [hder]; rfl
  have hat : ∀ k, der[4 + rContent.length + k]? = (0x02 :: sLen :: sContent)[k]? := by
    intro k
    have hshape : der = [0x30, total, 0x02, rLen] ++ rContent ++ 0x02 :: sLen :: sContent := by
      rw [hder]
      rfl
    have hprefix : ([0x30, total, 0x02, rLen] ++ rContent).length = 4 + rContent.length := by
      rw [List.length_append]
      rfl
    rw [hshape, List.getElem?_append_right (by omega), hprefix, Nat.add_sub_cancel_left]
  unfold derSigToCompact
  rw [if_neg (show ¬ der.length = compactSigLength from hlong),
    if_neg (not_or.2 ⟨Nat.not_lt.2 hmin, not_not.2 hfirst⟩), hsecond]
  dsimp only [Option.getD_some]
  rw [if_neg htotal, if_neg (not_not.2 htag), hlen]
  change (match copyIntegerToFixed der 4 (some rLen) (List.replicate 64 0) 0 32 with
    | .error e => _ | .ok compact => _) = _
  rw [hr]
  dsimp only
  have htagS : der[2 + 2 + rContent.length]? = some 0x02 := hat 0
  rw [hrLen, if_neg (not_not.2 htagS)]
  have hposition : 2 + 2 + rContent.length + 2 = 6 + rContent.length := by omega
  have hsLen : der[2 + 2 + rContent.length + 1]? = some sLen := hat 1
  rw [hposition, hsLen]

/-- A signature that is not 64 bytes long is converted. -/
theorem derSigToCompact_signature {r s : Nat} (hr : 1 ≤ r ∧ r < 2 ^ 256)
    (hs : 1 ≤ s ∧ s < 2 ^ 256) (hlong : (derSignature r s).length ≠ 64) :
    derSigToCompact (derSignature r s) = .ok (compactSignature r s) := by
  obtain ⟨hpos, hbound⟩ := integerContent_length hr.1 hr.2
  obtain ⟨hpos', hbound'⟩ := integerContent_length hs.1 hs.2
  have hlength := length_derSignature hr hs
  have hrLen : (UInt8.ofNat (integerContent r).length).toNat = (integerContent r).length := by
    rw [UInt8.toNat_ofNat', Nat.mod_eq_of_lt (by omega)]
  have htotal : ¬ (0x80 : UInt8) ≤
      UInt8.ofNat (4 + (integerContent r).length + (integerContent s).length) := by
    rw [UInt8.le_iff_toNat_le, UInt8.toNat_ofNat', Nat.mod_eq_of_lt (by omega)]
    change ¬ 128 ≤ _
    omega
  have hcopyR : copyIntegerToFixed (derSignature r s) 4
      (some (UInt8.ofNat (integerContent r).length)) (List.replicate 64 0) 0 32 =
        .ok (fixedBytes 32 r ++ List.replicate 32 0) := by
    have hzeros : List.replicate 64 (0 : UInt8) =
        [] ++ (List.replicate 32 0 ++ List.replicate 32 0) := by
      rw [List.nil_append, List.replicate_append_replicate]
    have hcopy := @copyIntegerToFixed_content
      [0x30, UInt8.ofNat (4 + (integerContent r).length + (integerContent s).length), 0x02,
        UInt8.ofNat (integerContent r).length]
      ([0x02, UInt8.ofNat (integerContent s).length] ++ (integerContent s ++ []))
      [] (List.replicate 32 0) (List.replicate 32 0) r hr.2 List.length_replicate
    rw [← derSignature_eq hr hs, ← hzeros, List.nil_append] at hcopy
    exact hcopy
  rw [derSigToCompact_parts (derSignature_eq hr hs) hlong (by omega) htotal hrLen hcopyR]
  have hbefore : 6 + (integerContent r).length =
      ([0x30, UInt8.ofNat (4 + (integerContent r).length + (integerContent s).length), 0x02,
        UInt8.ofNat (integerContent r).length] ++ (integerContent r ++
        [0x02, UInt8.ofNat (integerContent s).length])).length := by
    simp only [List.length_append, List.length_cons, List.length_nil]
    omega
  have hbuffer : fixedBytes 32 r ++ List.replicate 32 (0 : UInt8) =
      fixedBytes 32 r ++ (List.replicate 32 0 ++ []) := by
    rw [List.append_nil]
  have hshape : derSignature r s =
      ([0x30, UInt8.ofNat (4 + (integerContent r).length + (integerContent s).length), 0x02,
        UInt8.ofNat (integerContent r).length] ++ (integerContent r ++
        [0x02, UInt8.ofNat (integerContent s).length])) ++ (integerContent s ++ []) := by
    rw [derSignature_eq hr hs, List.append_assoc, List.append_assoc]
  have hcopyS : copyIntegerToFixed (derSignature r s) (6 + (integerContent r).length)
      (some (UInt8.ofNat (integerContent s).length)) (fixedBytes 32 r ++ List.replicate 32 0)
      (fixedBytes 32 r).length 32 = .ok (fixedBytes 32 r ++ (fixedBytes 32 s ++ [])) := by
    rw [hbefore, hbuffer, hshape]
    exact @copyIntegerToFixed_content _ _ (fixedBytes 32 r) _ [] s hs.2 List.length_replicate
  rw [length_fixedBytes, List.append_nil] at hcopyS
  exact hcopyS

/-- Where a text begins with a part of itself, it repeats. -/
theorem getElem?_repeats {text before part after rest : List UInt8}
    (h : text = before ++ (part ++ after)) (h' : text = part ++ rest) {i : Nat}
    (hi : i < part.length) : text[before.length + i]? = text[i]? := by
  have hleft : text[before.length + i]? = part[i]? := by
    rw [h, List.getElem?_append_right (Nat.le_add_right _ _), Nat.add_sub_cancel_left,
      List.getElem?_append_left hi]
  have hright : text[i]? = part[i]? := by
    rw [h', List.getElem?_append_left hi]
  rw [hleft, hright]

/-- The 32 bytes of a number with a content of at most 31 bytes begin with a zero. -/
theorem fixedBytes_head {n : Nat} (h : n < 2 ^ 256) (hshort : (integerContent n).length ≤ 31) :
    (fixedBytes 32 n)[0]? = some 0 := by
  have hpow : n < 256 ^ 32 := lt_of_lt_of_eq h (by decide)
  rcases integerContent_cases hpow with ⟨-, hfixed⟩ | ⟨hlength, -⟩
  · have hzero : 32 - (integerContent n).length = 31 - (integerContent n).length + 1 := by omega
    rw [hfixed, hzero, List.replicate_succ]
    rfl
  · omega

theorem derSignature_ne_compact {r s : Nat} (hr : 1 ≤ r ∧ r < 2 ^ 256)
    (hs : 1 ≤ s ∧ s < 2 ^ 256) (h64 : (derSignature r s).length = 64) :
    derSignature r s ≠ compactSignature r s := by
  intro heq
  have hlength := length_derSignature hr hs
  have hbound := (integerContent_length hr.1 hr.2).2
  have hbound' := (integerContent_length hs.1 hs.2).2
  have hshape := derSignature_eq hr hs
  have hfirst : (derSignature r s)[0]? = some 0x30 := by
    rw [hshape]
    rfl
  have hthird : (derSignature r s)[2]? = some 0x02 := by
    rw [hshape]
    rfl
  -- the second half begins with a zero wherever the first one does not
  have hhalf : (integerContent s).length ≤ 31 → (derSignature r s)[32]? = some 0 := by
    intro hshort
    rw [heq, compactSignature, List.getElem?_append_right (by rw [length_fixedBytes]),
      length_fixedBytes]
    exact fixedBytes_head hs.2 hshort
  have hpow : r < 256 ^ 32 := lt_of_lt_of_eq hr.2 (by decide)
  rcases integerContent_cases hpow with ⟨hle, hfixed⟩ | ⟨hlong, hcontent⟩
  · rcases Nat.lt_or_eq_of_le hle with hlt | hfull
    · have hzero := fixedBytes_head hr.2 (Nat.le_of_lt_succ hlt)
      have hhead : (derSignature r s)[0]? = some 0 := by
        rw [heq, compactSignature, List.getElem?_append_left (by rw [length_fixedBytes]; decide)]
        exact hzero
      rw [hfirst] at hhead
      cases hhead
    · -- the bytes of r are those of the signature, four places on
      have hsame : fixedBytes 32 r = integerContent r := by
        rw [hfixed, hfull]
        rfl
      have hstep : ∀ i, i < 32 → (derSignature r s)[4 + i]? = (derSignature r s)[i]? := by
        intro i hi
        refine @getElem?_repeats _ [_, _, _, _] (integerContent r) _ (fixedBytes 32 s) hshape ?_ i
          (by rw [hfull]; exact hi)
        rw [heq, compactSignature, hsame]
      have hchain := ((hstep 28 (by decide)).trans ((hstep 24 (by decide)).trans
        ((hstep 20 (by decide)).trans ((hstep 16 (by decide)).trans ((hstep 12 (by decide)).trans
          ((hstep 8 (by decide)).trans ((hstep 4 (by decide)).trans (hstep 0 (by decide)))))))))
      have hzero := hhalf (by omega)
      rw [show (32 : Nat) = 4 + 28 from rfl, hchain, hfirst] at hzero
      cases hzero
  · -- five places on, with a sign byte
    have hsigned : derSignature r s =
        [0x30, UInt8.ofNat (4 + (integerContent r).length + (integerContent s).length), 0x02,
          UInt8.ofNat (integerContent r).length, 0] ++ (fixedBytes 32 r ++
          ([0x02, UInt8.ofNat (integerContent s).length] ++ (integerContent s ++ []))) := by
      rw [hshape, hcontent]
      simp only [List.cons_append, List.nil_append]
    have hstep : ∀ i, i < 32 → (derSignature r s)[5 + i]? = (derSignature r s)[i]? := by
      intro i hi
      have hin : i < (fixedBytes 32 r).length := by
        rw [length_fixedBytes]
        exact hi
      have hform : derSignature r s = fixedBytes 32 r ++ fixedBytes 32 s := heq
      have hrepeats := getElem?_repeats hsigned hform hin
      exact hrepeats
    have hchain := ((hstep 27 (by decide)).trans ((hstep 22 (by decide)).trans
      ((hstep 17 (by decide)).trans ((hstep 12 (by decide)).trans ((hstep 7 (by decide)).trans
        (hstep 2 (by decide)))))))
    have hzero := hhalf (by omega)
    rw [show (32 : Nat) = 5 + 27 from rfl, hchain, hthird] at hzero
    cases hzero

/-- A signature in DER is converted, and has the same result as its compact form. -/
def Converts (r s : Nat) : Prop :=
  derSigToCompact (derSignature r s) = .ok (compactSignature r s) ∧
    ∀ (verify : List UInt8 → List UInt8 → List UInt8 → Option Bool) (publicKey : List UInt8)
      (envelope envelope' : DsseEnvelope) (sig sig' : String),
      envelope.payload = envelope'.payload → envelope.payloadType = envelope'.payloadType →
      envelope.signatures.find? (· ≠ "") = some sig → atob sig = some (derSignature r s) →
      envelope'.signatures.find? (· ≠ "") = some sig' → atob sig' = some (compactSignature r s) →
        verifyDsseSignature verify envelope publicKey =
          verifyDsseSignature verify envelope' publicKey

/-- The compact form is taken as it is. -/
theorem derSigToCompact_compact (r s : Nat) :
    derSigToCompact (compactSignature r s) = .ok (compactSignature r s) := by
  unfold derSigToCompact
  refine if_pos ?_
  rw [compactSignature, List.length_append, length_fixedBytes, length_fixedBytes]
  rfl

/-- **DER signatures are converted exactly if they are not 64 bytes long.** -/
theorem dsse_signature_iff {r s : Nat} (hr : 1 ≤ r ∧ r < 2 ^ 256) (hs : 1 ≤ s ∧ s < 2 ^ 256) :
    Converts r s ↔ (derSignature r s).length ≠ 64 := by
  constructor
  · rintro ⟨hconvert, -⟩ h64
    have hkept : derSigToCompact (derSignature r s) = .ok (derSignature r s) := if_pos h64
    rw [hkept] at hconvert
    exact derSignature_ne_compact hr hs h64 (Except.ok.inj hconvert)
  · intro hlong
    have hconvert := derSigToCompact_signature hr hs hlong
    refine ⟨hconvert, ?_⟩
    intro verify publicKey envelope envelope' sig sig' hpayload htype hfirst hder hfirst' hcompact
    unfold verifyDsseSignature
    rw [hfirst, hfirst']
    dsimp only
    rw [hder, hcompact]
    dsimp only
    rw [hconvert, derSigToCompact_compact, hpayload, htype]

/-- One half has 31 bytes in DER, the other one has one. -/
theorem dsse_signature_iff_uneven : Converts (2 ^ 240) 1 := by
  have hr : 1 ≤ 2 ^ 240 ∧ 2 ^ 240 < 2 ^ 256 := by decide
  have hone : 1 ≤ 1 ∧ 1 < 2 ^ 256 := by decide
  have hlengthR : (integerContent (2 ^ 240)).length = 31 :=
    @integerContent_length_eq (2 ^ 240) 30 (by decide) (by decide)
  have hlength : (integerContent 1).length = 1 :=
    @integerContent_length_eq 1 0 (by decide) (by decide)
  refine (dsse_signature_iff hr hone).2 ?_
  rw [length_derSignature hr hone, hlengthR, hlength]
  decide

/-- **A DER signature of 64 bytes is taken for a compact one.** -/
theorem long_signature_not_converted : ¬ Converts (2 ^ 224) (2 ^ 224) := by
  have hrange : 1 ≤ 2 ^ 224 ∧ 2 ^ 224 < 2 ^ 256 := by decide
  have hlength : (integerContent (2 ^ 224)).length = 29 :=
    @integerContent_length_eq (2 ^ 224) 28 (by decide) (by decide)
  have h64 : (derSignature (2 ^ 224) (2 ^ 224)).length = 64 := by
    rw [length_derSignature hrange hrange, hlength]
  rintro ⟨hconvert, -⟩
  have hkept : derSigToCompact (derSignature (2 ^ 224) (2 ^ 224)) =
      .ok (derSignature (2 ^ 224) (2 ^ 224)) := if_pos h64
  rw [hkept] at hconvert
  exact derSignature_ne_compact hrange hrange h64 (Except.ok.inj hconvert)

end Signet.Verifier
