import Mathlib.Data.List.DropRight
import Mathlib.Data.Rat.Defs
import Mathlib.Algebra.Order.Ring.Rat
import Mathlib.Data.Nat.Cast.Order.Ring
import Signet.Lib.Base64
import Signet.Lib.Utf8
import Signet.Schemas.ZodSchema

/-!
# Admin tokens

`jwt.ts`: compact tokens of three base64url parts, signed with Ed25519. The JSON codec,
the conversion of numbers to text and the operations of WebCrypto are parameters.
`verifyJwt` is meant to answer with a result for every token; what it throws is the outer
error. The clock skew is an exact rational: doubles round, and may be NaN or infinite.

* `verifyJwt_eq_ok_iff`: a token is accepted exactly if each of its parts is what it should
  be and the clock is in the window.
* `verifyJwt_throws_iff`: it throws exactly for a header that is `null`, or whose `alg`
  cannot be written into the message about it.
* `verifyJwt_signJwt_iff`: what `signJwt` returned is accepted exactly in the window.
-/

namespace Signet

open Lib

/-! ### Values -/

/-- `AdminJwtPayload`; `sub` is always `"admin"`. -/
structure AdminJwtPayload where
  iss : String
  iat : Nat
  exp : Nat
  jti : String
  deriving DecidableEq

def adminJwtPayloadSchema : JsonValue → Except ZodIssue AdminJwtPayload
  | .object payload => do
    let iss ← Zod.field payload "iss" Zod.string
    let _ ← Zod.member payload "sub" (Zod.literal "admin")
    let iat ← Zod.field payload "iat" Zod.positiveInt
    let exp ← Zod.field payload "exp" Zod.positiveInt
    let jti ← Zod.field payload "jti" Zod.string
    .ok ⟨iss, iat, exp, jti⟩
  | value => .error ⟨[], Zod.expected "object" value⟩

/-- The object that is signed. -/
def AdminJwtPayload.toJson (payload : AdminJwtPayload) : JsonObject :=
  [("iss", .string payload.iss), ("sub", .string "admin"), ("iat", .number payload.iat),
    ("exp", .number payload.exp), ("jti", .string payload.jti)]

/-- The schema accepts the payload. -/
structure AdminJwtPayload.Valid (payload : AdminJwtPayload) : Prop where
  iat : 0 < payload.iat
  exp : 0 < payload.exp

/-- The header that is signed. -/
def jwtHeader : JsonObject :=
  [("alg", .string "EdDSA"), ("typ", .string "JWT")]

/-- What tokens are made and read with. -/
structure JwtDeps (Private Public : Type) where
  /-- `JSON.parse`, none where it throws. -/
  parseJson : String → Option JsonValue
  /-- `JSON.stringify` of an object. -/
  stringify : JsonObject → String
  /-- `String(value)` of a number. -/
  numberText : Rat → String
  /-- `crypto.subtle.importKey`, none where it throws. -/
  importKey : List UInt8 → Option Public
  /-- `crypto.subtle.sign`, with what it throws. -/
  sign : Private → List UInt8 → Except String (List UInt8)
  /-- `crypto.subtle.verify` of a signature and the data, none where it throws. -/
  verify : Public → List UInt8 → List UInt8 → Option Bool

/-! ### Base64url -/

def base64urlEncode (data : List UInt8) : String :=
  if data = [] then ""
  else
    let replaced :=
      (btoa data).toList.map fun c => if c = '+' then '-' else if c = '/' then '_' else c
    String.ofList (replaced.rdropWhile (· = '='))

/-- `base64urlDecode`; `none` where `atob` throws. -/
def base64urlDecode (str : String) : Option (List UInt8) :=
  if str = "" then some []
  else
    let padded := str.toList ++ List.replicate ((4 - str.length % 4) % 4) '='
    atob (String.ofList (padded.map fun c => if c = '-' then '+' else if c = '_' then '/' else c))

/-! ### Encoding and decoding -/

section Jwt

variable {Private Public : Type} (deps : JwtDeps Private Public)

/-- The part of a token for an object. -/
def encodePart (value : JsonObject) : String :=
  base64urlEncode (encodeUtf8 (deps.stringify value).toList)

def encodeJwt (header payload : JsonObject) : String :=
  encodePart deps header ++ "." ++ encodePart deps payload

/-- `JSON.parse(new TextDecoder().decode(base64urlDecode(part)))`, none where it throws. -/
def decodePart (part : String) : Option JsonValue :=
  (base64urlDecode part).bind fun data => deps.parseJson (String.ofList (textDecode data))

/-- `split(".")`. -/
def splitToken (token : String) : List String :=
  (token.toList.splitOn '.').map String.ofList

def decodeJwt (headerPayload : String) : Result (JsonValue × JsonValue) :=
  match splitToken headerPayload with
  | [headerPart, payloadPart] =>
    match decodePart deps headerPart with
    | none => .error (.validationError "jwt" "Invalid base64url encoding")
    | some header =>
      match decodePart deps payloadPart with
      | none => .error (.validationError "jwt" "Invalid base64url encoding")
      | some payload => .ok (header, payload)
  | _ => .error (.validationError "jwt" "Expected 2 parts (header.payload)")

def signJwt (privateKey : Private) (payload : AdminJwtPayload) : Result String :=
  let headerPayload := encodeJwt deps jwtHeader payload.toJson
  match deps.sign privateKey (encodeUtf8 headerPayload.toList) with
  | .error _ => .error (.internalError "Failed to sign JWT")
  | .ok signature => .ok (headerPayload ++ "." ++ base64urlEncode signature)

/-! ### Verifying -/

-- A value in a template literal, none where the conversion throws. An object is not converted by
-- its prototype if it has a member `toString` of its own, and no member of a JSON value is a
-- function. An array joins its elements.
mutual

/-- `String(value)`. -/
def jsText : JsonValue → Option String
  | .null => some "null"
  | .bool value => some (if value then "true" else "false")
  | .number value => some (deps.numberText value)
  | .string value => some value
  | .array values => (jsTexts values).map (",".intercalate ·)
  | .object fields =>
    if (JsonObject.get? fields "toString").isSome then none else some "[object Object]"

/-- The elements of an array; `null` is joined as the empty text. -/
def jsTexts : List JsonValue → Option (List String)
  | [] => some []
  | .null :: values => (jsTexts values).map ("" :: ·)
  | value :: values => (jsText value).bind fun text => (jsTexts values).map (text :: ·)

end

/-- `header.alg`, undefined if no such member is there; reading it throws if the header is
`null`. -/
def headerAlg : JsonValue → Except String (Option JsonValue)
  | .null => .error "null is not an object"
  | .object fields => .ok (JsonObject.get? fields "alg")
  | _ => .ok none

/-- The algorithm is `"EdDSA"`. -/
def isEdDSA : Option JsonValue → Bool
  | some (.string alg) => alg = "EdDSA"
  | _ => false

structure VerifyJwtOptions where
  clockSkewSeconds : Option Rat := none

/-- `options?.clockSkewSeconds ?? 30`. -/
def clockSkew (options : Option VerifyJwtOptions) : Rat :=
  (options.bind VerifyJwtOptions.clockSkewSeconds).getD 30

/-- `verifyJwt` from the signature on, `now` being the time in seconds. -/
def verifySignature (headerPayload sigPart : String) (payload : AdminJwtPayload)
    (publicKeyBytes : List UInt8) (skew : Rat) (now : Int) : Result AdminJwtPayload :=
  match deps.importKey publicKeyBytes with
  | none => .error (.authError "Failed to import admin public key" [])
  | some publicKey =>
    match base64urlDecode sigPart with
    | none => .error (.validationError "jwt.signature" "Invalid base64url signature")
    | some sigBytes =>
      match deps.verify publicKey sigBytes (encodeUtf8 headerPayload.toList) with
      | none | some false => .error (.authError "Invalid admin token signature" [])
      | some true =>
        if (payload.exp : Rat) ≤ now - skew then .error (.authError "Admin token expired" [])
        else if now + skew < (payload.iat : Rat) then
          .error (.validationError "jwt.iat" "Token issued in future")
        else .ok payload

/-- `verifyJwt` from the check of the algorithm on. -/
def verifyDecoded (headerPayload sigPart : String) (header payload : JsonValue)
    (publicKeyBytes : List UInt8) (skew : Rat) (now : Int) :
    Except String (Result AdminJwtPayload) :=
  match headerAlg header with
  | .error thrown => .error thrown
  | .ok alg =>
    if isEdDSA alg then
      match adminJwtPayloadSchema payload with
      | .error _ => .ok (.error (.validationError "jwt.payload" "Invalid JWT payload schema"))
      | .ok payload =>
        .ok (verifySignature deps headerPayload sigPart payload publicKeyBytes skew now)
    else
      match (alg.map (jsText deps)).getD (some "undefined") with
      | none => .error "Cannot convert object to primitive value"
      | some text =>
        .ok (.error (.validationError "jwt.header.alg" ("Expected EdDSA, got " ++ text)))

/-- `verifyJwt`, with what it throws; `nowMs` is `Date.now()`. -/
def verifyJwt (token : String) (publicKeyBytes : List UInt8) (options : Option VerifyJwtOptions)
    (nowMs : Int) : Except String (Result AdminJwtPayload) :=
  match splitToken token with
  | [headerPart, payloadPart, sigPart] =>
    let headerPayload := headerPart ++ "." ++ payloadPart
    match decodeJwt deps headerPayload with
    | .error error => .ok (.error error)
    | .ok (header, payload) =>
      verifyDecoded deps headerPayload sigPart header payload publicKeyBytes (clockSkew options)
        (nowMs / 1000)
  | _ => .ok (.error (.validationError "jwt" "Malformed JWT: expected 3 parts"))

end Jwt
/-! ### Base64url comes back -/

/-- A digit of the alphabet for URLs. -/
def toUrlChar (c : Char) : Char :=
  if c = '+' then '-' else if c = '/' then '_' else c

/-- A digit of the standard alphabet. -/
def ofUrlChar (c : Char) : Char :=
  if c = '-' then '+' else if c = '_' then '/' else c

theorem ofUrlChar_toUrlChar : ∀ n < 64,
    ofUrlChar (toUrlChar (base64Char n)) = base64Char n ∧ toUrlChar (base64Char n) ≠ '=' := by
  decide

/-- What is encoded are the digits, without padding. -/
theorem base64urlEncode_eq (data : List UInt8) : base64urlEncode data =
    String.ofList ((digitsOfBytes data).map fun n => toUrlChar (base64Char n)) := by
  unfold base64urlEncode
  by_cases hempty : data = []
  · subst hempty
    rfl
  rw [if_neg hempty]
  have hmap : (btoa data).toList.map toUrlChar =
      ((digitsOfBytes data).map fun n => toUrlChar (base64Char n)) ++ base64Padding data := by
    rw [btoa, String.toList_ofList, List.map_append, List.map_map, base64Padding,
      List.map_replicate]
    rfl
  show String.ofList (((btoa data).toList.map toUrlChar).rdropWhile (· = '=')) = _
  rw [hmap, List.rdropWhile, List.reverse_append]
  have hpadding : ∀ c ∈ (base64Padding data).reverse, decide (c = '=') = true := fun c hc =>
    decide_eq_true (List.mem_replicate.1 (List.mem_reverse.1 hc)).2
  rw [List.dropWhile_append_of_pos hpadding]
  have hkeep : ∀ l : List Char, '=' ∉ l → l.dropWhile (fun c => decide (c = '=')) = l := by
    intro l hl
    cases l with
    | nil => rfl
    | cons c l =>
      have hc : ¬ c = '=' := fun heq => hl (heq ▸ List.mem_cons_self)
      rw [List.dropWhile_cons_of_neg (by simpa using hc)]
  rw [hkeep, List.reverse_reverse]
  intro hmem
  obtain ⟨n, hn, heq⟩ := List.mem_map.1 (List.mem_reverse.1 hmem)
  exact (ofUrlChar_toUrlChar n (digitsOfBytes_lt data n hn)).2 heq

/-- **What was encoded is decoded again.** -/
theorem base64urlDecode_base64urlEncode (data : List UInt8) :
    base64urlDecode (base64urlEncode data) = some data := by
  have hlength := length_digitsOfBytes data
  rw [base64urlEncode_eq]
  unfold base64urlDecode
  by_cases hempty : String.ofList ((digitsOfBytes data).map fun n => toUrlChar (base64Char n)) = ""
  · rw [if_pos hempty]
    -- no digits, no bytes
    have hchars := congrArg String.toList hempty
    rw [String.toList_ofList] at hchars
    have hdigits : digitsOfBytes data = [] := List.map_eq_nil_iff.1 hchars
    rw [← bytesOfDigits_digitsOfBytes data, hdigits]
    rfl
  rw [if_neg hempty]
  dsimp only
  rw [String.toList_ofList, List.map_append, List.map_map, List.map_replicate]
  have hdigits : (digitsOfBytes data).map
      (ofUrlChar ∘ fun n => toUrlChar (base64Char n)) = (digitsOfBytes data).map base64Char :=
    List.map_congr_left fun n hn => (ofUrlChar_toUrlChar n (digitsOfBytes_lt data n hn)).1
  have hsize : (String.ofList
      ((digitsOfBytes data).map fun n => toUrlChar (base64Char n))).length =
        (digitsOfBytes data).length := by
    rw [String.length_ofList, List.length_map]
  show atob (String.ofList ((digitsOfBytes data).map
    (ofUrlChar ∘ fun n => toUrlChar (base64Char n)) ++ List.replicate _ '=')) = _
  rw [hdigits, hsize, atob_digits (digitsOfBytes_lt data) (by omega) (by omega),
    bytesOfDigits_digitsOfBytes]

theorem dot_not_mem_base64urlEncode (data : List UInt8) :
    '.' ∉ (base64urlEncode data).toList := by
  rw [base64urlEncode_eq, String.toList_ofList]
  intro hmem
  obtain ⟨n, hn, heq⟩ := List.mem_map.1 hmem
  have hno : ∀ n < 64, toUrlChar (base64Char n) ≠ '.' := by decide
  exact hno n (digitsOfBytes_lt data n hn) heq

/-! ### Parts -/

theorem not_mem_of_mem_splitOn {α : Type} [BEq α] [LawfulBEq α] {sep : α} {xs part : List α}
    (h : part ∈ xs.splitOn sep) : sep ∉ part := by
  induction xs generalizing part with
  | nil =>
    obtain rfl := List.mem_singleton.1 h
    exact List.not_mem_nil
  | cons x xs ih =>
    rw [List.splitOn_cons_eq_if_modifyHead] at h
    split at h
    · rcases List.mem_cons.1 h with rfl | h
      · exact List.not_mem_nil
      · exact ih h
    · next hx =>
      cases hparts : xs.splitOn sep with
      | nil => exact absurd hparts (List.splitOn_ne_nil sep xs)
      | cons first rest =>
        rw [hparts] at h ih
        rcases List.mem_cons.1 h with rfl | h
        · intro hmem
          rcases List.mem_cons.1 hmem with rfl | hmem
          · exact hx (beq_self_eq_true sep)
          · exact ih List.mem_cons_self hmem
        · exact ih (List.mem_cons_of_mem _ h)

theorem splitToken_dot {first rest : String} (h : '.' ∉ first.toList) :
    splitToken (first ++ "." ++ rest) = first :: splitToken rest := by
  have hchars : (first ++ "." ++ rest).toList = first.toList ++ '.' :: rest.toList := by
    rw [String.toList_append, String.toList_append, List.append_assoc]
    rfl
  unfold splitToken
  rw [hchars, List.splitOn_append_cons_self_of_not_mem h, List.map_cons, String.ofList_toList]

theorem splitToken_of_not_mem {text : String} (h : '.' ∉ text.toList) :
    splitToken text = [text] := by
  unfold splitToken
  rw [List.splitOn_eq_singleton h, List.map_singleton, String.ofList_toList]

theorem dot_not_mem_of_mem_splitToken {token part : String} (h : part ∈ splitToken token) :
    '.' ∉ part.toList := by
  obtain ⟨chars, hchars, rfl⟩ := List.mem_map.1 h
  rw [String.toList_ofList]
  exact not_mem_of_mem_splitOn hchars

theorem splitToken_two {token first second third : String}
    (h : splitToken token = [first, second, third]) :
    splitToken (first ++ "." ++ second) = [first, second] := by
  have hdot : ∀ part ∈ [first, second, third], '.' ∉ part.toList := fun part hpart =>
    dot_not_mem_of_mem_splitToken (h ▸ hpart)
  rw [splitToken_dot (hdot first (by simp)), splitToken_of_not_mem (hdot second (by simp))]

/-! ### When a token is accepted -/

section Verify

variable {Private Public : Type} {deps : JwtDeps Private Public}

/-- The clock is in the window of the payload. -/
def InWindow (payload : AdminJwtPayload) (skew : Rat) (now : Int) : Prop :=
  (payload.iat : Rat) ≤ now + skew ∧ now - skew < (payload.exp : Rat)

/-- The third part is a signature of the first two, and the clock is in the window. -/
def SignedInWindow (deps : JwtDeps Private Public) (headerPayload sigPart : String)
    (payload : AdminJwtPayload) (publicKeyBytes : List UInt8) (skew : Rat) (now : Int) : Prop :=
  (∃ publicKey signature, deps.importKey publicKeyBytes = some publicKey ∧
    base64urlDecode sigPart = some signature ∧
    deps.verify publicKey signature (encodeUtf8 headerPayload.toList) = some true) ∧
    InWindow payload skew now

/-- The token has three parts: an object with the algorithm `"EdDSA"`, the payload, and a
signature of the two as they were sent, in the window. -/
def AcceptsToken (deps : JwtDeps Private Public) (token : String) (publicKeyBytes : List UInt8)
    (skew : Rat) (now : Int) (payload : AdminJwtPayload) : Prop :=
  ∃ headerPart payloadPart sigPart header value,
    splitToken token = [headerPart, payloadPart, sigPart] ∧
    decodePart deps headerPart = some (.object header) ∧
    JsonObject.get? header "alg" = some (.string "EdDSA") ∧
    decodePart deps payloadPart = some value ∧ adminJwtPayloadSchema value = .ok payload ∧
    SignedInWindow deps (headerPart ++ "." ++ payloadPart) sigPart payload publicKeyBytes skew now

/-- The header is `null`, or an object whose `alg` cannot be converted to text. -/
def HeaderThrows (deps : JwtDeps Private Public) (header : JsonValue) : Prop :=
  header = .null ∨ ∃ fields alg, header = .object fields ∧
    JsonObject.get? fields "alg" = some alg ∧ jsText deps alg = none

/-- The token has such a header, and three parts that are decoded so far. -/
def TokenThrows (deps : JwtDeps Private Public) (token : String) : Prop :=
  ∃ headerPart payloadPart sigPart header value,
    splitToken token = [headerPart, payloadPart, sigPart] ∧
    decodePart deps headerPart = some header ∧ decodePart deps payloadPart = some value ∧
    HeaderThrows deps header

variable {token headerPart payloadPart sigPart : String} {publicKeyBytes : List UInt8}
  {options : Option VerifyJwtOptions} {skew : Rat} {nowMs now : Int}
  {header value : JsonValue} {payload payload' : AdminJwtPayload}

/-- The two parts are decoded one after the other. -/
theorem decodeJwt_of_parts
    (hparts : splitToken (headerPart ++ "." ++ payloadPart) = [headerPart, payloadPart]) :
    decodeJwt deps (headerPart ++ "." ++ payloadPart) = .ok (header, value) ↔
      decodePart deps headerPart = some header ∧ decodePart deps payloadPart = some value := by
  unfold decodeJwt
  rw [hparts]
  dsimp only
  cases decodePart deps headerPart with
  | none => exact iff_of_false nofun nofun
  | some header' =>
    cases decodePart deps payloadPart with
    | none => exact iff_of_false nofun nofun
    | some value' =>
      constructor
      · intro h
        cases h
        exact ⟨rfl, rfl⟩
      · rintro ⟨h, h'⟩
        cases h
        cases h'
        rfl

/-- A signature is checked before the clock. -/
theorem verifySignature_eq_ok_iff {headerPayload : String} :
    verifySignature deps headerPayload sigPart payload publicKeyBytes skew now = .ok payload' ↔
      payload = payload' ∧
        SignedInWindow deps headerPayload sigPart payload publicKeyBytes skew now := by
  unfold verifySignature SignedInWindow InWindow
  cases deps.importKey publicKeyBytes with
  | none => exact iff_of_false nofun fun ⟨_, ⟨_, _, h, _⟩, _⟩ => nomatch h
  | some publicKey =>
    dsimp only
    cases base64urlDecode sigPart with
    | none => exact iff_of_false nofun fun ⟨_, ⟨_, _, _, h, _⟩, _⟩ => nomatch h
    | some signature =>
      dsimp only
      have hvalid : (∃ publicKey' signature', some publicKey = some publicKey' ∧
          some signature = some signature' ∧ deps.verify publicKey' signature'
            (encodeUtf8 headerPayload.toList) = some true) ↔
          deps.verify publicKey signature (encodeUtf8 headerPayload.toList) = some true := by
        constructor
        · rintro ⟨_, _, h, h', hverify⟩
          cases h
          cases h'
          exact hverify
        · exact fun h => ⟨_, _, rfl, rfl, h⟩
      rw [hvalid]
      cases deps.verify publicKey signature (encodeUtf8 headerPayload.toList) with
      | none => exact iff_of_false nofun fun ⟨_, h, _⟩ => nomatch h
      | some valid =>
        cases valid with
        | false => exact iff_of_false nofun fun ⟨_, h, _⟩ => nomatch h
        | true =>
          dsimp only
          by_cases hexp : (payload.exp : Rat) ≤ now - skew
          · rw [if_pos hexp]
            exact iff_of_false nofun fun ⟨_, _, _, h⟩ => absurd hexp (not_le.2 h)
          · rw [if_neg hexp]
            by_cases hiat : now + skew < (payload.iat : Rat)
            · rw [if_pos hiat]
              exact iff_of_false nofun fun ⟨_, _, h, _⟩ => absurd hiat (not_lt.2 h)
            · rw [if_neg hiat]
              constructor
              · intro h
                exact ⟨Except.ok.inj h, rfl, not_lt.1 hiat, not_le.1 hexp⟩
              · exact fun h => congrArg Except.ok h.1

/-- Only an object with the algorithm gets past the check of the header. -/
theorem isEdDSA_headerAlg_iff : (∃ alg, headerAlg header = .ok alg ∧ isEdDSA alg = true) ↔
    ∃ fields, header = .object fields ∧
      JsonObject.get? fields "alg" = some (.string "EdDSA") := by
  constructor
  · rintro ⟨alg, halg, hedDSA⟩
    cases header with
    | object fields =>
      obtain rfl := Except.ok.inj halg
      refine ⟨fields, rfl, ?_⟩
      cases hget : JsonObject.get? fields "alg" with
      | none =>
        rw [hget] at hedDSA
        cases hedDSA
      | some alg =>
        rw [hget] at hedDSA
        cases alg with
        | string text => rw [of_decide_eq_true hedDSA]
        | _ => cases hedDSA
    | null => cases halg
    | bool b => cases halg; cases hedDSA
    | number n => cases halg; cases hedDSA
    | string s => cases halg; cases hedDSA
    | array vs => cases halg; cases hedDSA
  · rintro ⟨fields, rfl, hget⟩
    refine ⟨_, rfl, ?_⟩
    rw [hget]
    rfl

theorem verifyDecoded_eq_ok_iff {headerPayload : String} :
    verifyDecoded deps headerPayload sigPart header value publicKeyBytes skew now =
        .ok (.ok payload) ↔
      (∃ fields, header = .object fields ∧
        JsonObject.get? fields "alg" = some (.string "EdDSA")) ∧
      adminJwtPayloadSchema value = .ok payload ∧
        SignedInWindow deps headerPayload sigPart payload publicKeyBytes skew now := by
  rw [← isEdDSA_headerAlg_iff]
  unfold verifyDecoded
  cases headerAlg header with
  | error thrown => exact iff_of_false nofun fun ⟨⟨_, h, _⟩, _⟩ => nomatch h
  | ok alg =>
    dsimp only
    by_cases hedDSA : isEdDSA alg = true
    · rw [if_pos hedDSA]
      have halg : ∃ alg', (Except.ok alg : Except String _) = .ok alg' ∧ isEdDSA alg' = true :=
        ⟨alg, rfl, hedDSA⟩
      rw [and_iff_right halg]
      cases adminJwtPayloadSchema value with
      | error issue => exact iff_of_false nofun fun ⟨h, _⟩ => nomatch h
      | ok parsed =>
        dsimp only
        rw [Except.ok.injEq, verifySignature_eq_ok_iff, Except.ok.injEq]
        constructor
        · rintro ⟨rfl, h⟩
          exact ⟨rfl, h⟩
        · rintro ⟨rfl, h⟩
          exact ⟨rfl, h⟩
    · rw [if_neg hedDSA]
      refine iff_of_false ?_ ?_
      · cases (alg.map (jsText deps)).getD (some "undefined") <;> nofun
      · rintro ⟨⟨alg', h, halg⟩, -⟩
        cases h
        exact hedDSA halg

/-- **A token is accepted exactly if each of its parts is what it should be.** -/
theorem verifyJwt_eq_ok_iff :
    verifyJwt deps token publicKeyBytes options nowMs = .ok (.ok payload) ↔
      AcceptsToken deps token publicKeyBytes (clockSkew options) (nowMs / 1000) payload := by
  unfold verifyJwt AcceptsToken
  match hsplit : splitToken token with
  | [headerPart, payloadPart, sigPart] =>
    dsimp only
    have hparts := splitToken_two hsplit
    cases hdecode : decodeJwt deps (headerPart ++ "." ++ payloadPart) with
    | error error =>
      refine iff_of_false nofun ?_
      rintro ⟨_, _, _, fields, value, heq, hheader, -, hvalue, -⟩
      cases heq
      rw [(decodeJwt_of_parts hparts).2 ⟨hheader, hvalue⟩] at hdecode
      cases hdecode
    | ok decoded =>
      obtain ⟨header, value⟩ := decoded
      obtain ⟨hheader, hvalue⟩ := (decodeJwt_of_parts hparts).1 hdecode
      dsimp only
      rw [verifyDecoded_eq_ok_iff]
      constructor
      · rintro ⟨⟨fields, rfl, halg⟩, hschema, hsigned⟩
        exact ⟨_, _, _, fields, value, rfl, hheader, halg, hvalue, hschema, hsigned⟩
      · rintro ⟨_, _, _, fields, value', heq, hheader', halg, hvalue', hschema, hsigned⟩
        cases heq
        cases hheader.symm.trans hheader'
        cases hvalue.symm.trans hvalue'
        exact ⟨⟨fields, rfl, halg⟩, hschema, hsigned⟩
  | [] | [_] | [_, _] | _ :: _ :: _ :: _ :: _ =>
    exact iff_of_false nofun fun ⟨_, _, _, _, _, h, _⟩ => nomatch h

/-! ### When it throws -/

theorem verifyDecoded_throws_iff {headerPayload : String} :
    (∃ thrown, verifyDecoded deps headerPayload sigPart header value publicKeyBytes skew now =
        .error thrown) ↔ HeaderThrows deps header := by
  unfold verifyDecoded HeaderThrows
  cases header with
  | null => exact iff_of_true ⟨_, rfl⟩ (.inl rfl)
  | object fields =>
    show (∃ thrown, (if isEdDSA (JsonObject.get? fields "alg") = true then _ else _) = _) ↔ _
    have hobject : (JsonValue.object fields = .null ∨ ∃ fields' alg,
        JsonValue.object fields = .object fields' ∧ JsonObject.get? fields' "alg" = some alg ∧
          jsText deps alg = none) ↔
        ∃ alg, JsonObject.get? fields "alg" = some alg ∧ jsText deps alg = none := by
      constructor
      · rintro (h | ⟨_, alg, h, halg⟩)
        · cases h
        · cases h
          exact ⟨alg, halg⟩
      · rintro ⟨alg, halg⟩
        exact .inr ⟨fields, alg, rfl, halg⟩
    rw [hobject]
    by_cases hedDSA : isEdDSA (JsonObject.get? fields "alg") = true
    · rw [if_pos hedDSA]
      refine iff_of_false ?_ ?_
      · rintro ⟨thrown, h⟩
        cases hschema : adminJwtPayloadSchema value <;> rw [hschema] at h <;> cases h
      · -- a text is converted to itself
        rintro ⟨alg, hget, hnone⟩
        rw [hget] at hedDSA
        cases alg with
        | string text => cases hnone
        | _ => cases hedDSA
    · rw [if_neg hedDSA]
      cases hget : JsonObject.get? fields "alg" with
      | none => exact iff_of_false (fun ⟨_, h⟩ => nomatch h) fun ⟨_, h, _⟩ => nomatch h
      | some alg =>
        rw [Option.map_some, Option.getD_some]
        cases htext : jsText deps alg with
        | none => exact iff_of_true ⟨_, rfl⟩ ⟨alg, rfl, htext⟩
        | some text =>
          refine iff_of_false (fun ⟨_, h⟩ => nomatch h) ?_
          rintro ⟨alg', h, hnone⟩
          cases h
          rw [htext] at hnone
          cases hnone
  | bool b | number n | string s | array vs =>
    refine iff_of_false (fun ⟨_, h⟩ => nomatch h) ?_
    rintro (h | ⟨_, _, h, _⟩) <;> cases h

/-- **It throws exactly for such a header.** -/
theorem verifyJwt_throws_iff :
    (∃ thrown, verifyJwt deps token publicKeyBytes options nowMs = .error thrown) ↔
      TokenThrows deps token := by
  unfold verifyJwt TokenThrows
  match hsplit : splitToken token with
  | [headerPart, payloadPart, sigPart] =>
    dsimp only
    have hparts := splitToken_two hsplit
    cases hdecode : decodeJwt deps (headerPart ++ "." ++ payloadPart) with
    | error error =>
      refine iff_of_false (fun ⟨_, h⟩ => nomatch h) ?_
      rintro ⟨_, _, _, header, value, heq, hheader, hvalue, -⟩
      cases heq
      rw [(decodeJwt_of_parts hparts).2 ⟨hheader, hvalue⟩] at hdecode
      cases hdecode
    | ok decoded =>
      obtain ⟨header, value⟩ := decoded
      obtain ⟨hheader, hvalue⟩ := (decodeJwt_of_parts hparts).1 hdecode
      dsimp only
      rw [verifyDecoded_throws_iff]
      constructor
      · intro hthrows
        exact ⟨_, _, _, header, value, rfl, hheader, hvalue, hthrows⟩
      · rintro ⟨_, _, _, header', value', heq, hheader', hvalue', hthrows⟩
        cases heq
        cases hheader.symm.trans hheader'
        exact hthrows
  | [] | [_] | [_, _] | _ :: _ :: _ :: _ :: _ =>
    exact iff_of_false (fun ⟨_, h⟩ => nomatch h) fun ⟨_, _, _, _, _, h, _⟩ => nomatch h

end Verify

/-! ### Signed tokens -/

section Signed

variable {Private Public : Type} {deps : JwtDeps Private Public}

/-- An object is parsed as it was written, and its text does not begin with a byte order mark. -/
structure JwtDeps.KeepsJson (deps : JwtDeps Private Public) (object : JsonObject) : Prop where
  parse_stringify : deps.parseJson (deps.stringify object) = some (.object object)
  head : (deps.stringify object).toList.head? ≠ some byteOrderMark

/-- What the private key signs, the public key verifies. -/
def JwtDeps.IsPair (deps : JwtDeps Private Public) (privateKey : Private)
    (publicKeyBytes : List UInt8) : Prop :=
  ∀ {data signature : List UInt8}, deps.sign privateKey data = .ok signature →
    ∃ publicKey, deps.importKey publicKeyBytes = some publicKey ∧
      deps.verify publicKey signature data = some true

variable {token : String} {privateKey : Private} {publicKeyBytes : List UInt8}
  {options : Option VerifyJwtOptions} {nowMs : Int} {payload : AdminJwtPayload}

/-- A part comes back. -/
theorem decodePart_encodePart {object : JsonObject} (hjson : deps.KeepsJson object) :
    decodePart deps (encodePart deps object) = some (.object object) := by
  unfold decodePart encodePart
  rw [base64urlDecode_base64urlEncode, Option.bind_some,
    textDecode_encode_of_head hjson.head, String.ofList_toList, hjson.parse_stringify]

theorem adminJwtPayloadSchema_toJson (hvalid : payload.Valid) :
    adminJwtPayloadSchema (.object payload.toJson) = .ok payload := by
  have hint : ∀ {n : Nat}, 0 < n → Zod.positiveInt (.number (n : Rat)) = .ok n := by
    intro n hn
    have hpos : ¬ (n : Rat) ≤ 0 := not_le.2 (Nat.cast_pos.2 hn)
    show (if (n : Rat).den ≠ 1 then Except.error "Expected integer, received float"
      else if (n : Rat) ≤ 0 then .error "Number must be greater than 0"
      else .ok (n : Rat).num.toNat) = _
    rw [Rat.den_natCast, if_neg (not_not_intro rfl), if_neg hpos, Rat.num_natCast,
      Int.toNat_natCast]
  have hiat : Zod.field payload.toJson "iat" Zod.positiveInt = .ok payload.iat := by
    show (Zod.positiveInt (.number (payload.iat : Rat))).mapError _ = _
    rw [hint hvalid.iat]
    rfl
  have hexp : Zod.field payload.toJson "exp" Zod.positiveInt = .ok payload.exp := by
    show (Zod.positiveInt (.number (payload.exp : Rat))).mapError _ = _
    rw [hint hvalid.exp]
    rfl
  unfold adminJwtPayloadSchema
  dsimp only
  rw [hiat, hexp]
  rfl

theorem dot_not_mem_encodePart (object : JsonObject) :
    '.' ∉ (encodePart deps object).toList :=
  dot_not_mem_base64urlEncode _

theorem splitToken_signJwt (h : signJwt deps privateKey payload = .ok token) :
    ∃ signature, deps.sign privateKey
        (encodeUtf8 (encodeJwt deps jwtHeader payload.toJson).toList) = .ok signature ∧
      splitToken token = [encodePart deps jwtHeader, encodePart deps payload.toJson,
        base64urlEncode signature] := by
  unfold signJwt at h
  dsimp only at h
  cases hsign : deps.sign privateKey
      (encodeUtf8 (encodeJwt deps jwtHeader payload.toJson).toList) with
  | error cause =>
    rw [hsign] at h
    cases h
  | ok signature =>
    rw [hsign] at h
    cases h
    refine ⟨signature, rfl, ?_⟩
    have hassoc : encodeJwt deps jwtHeader payload.toJson ++ "." ++ base64urlEncode signature =
        encodePart deps jwtHeader ++ "." ++
          (encodePart deps payload.toJson ++ "." ++ base64urlEncode signature) := by
      rw [encodeJwt, String.append_assoc, String.append_assoc, String.append_assoc,
        String.append_assoc, String.append_assoc]
    rw [hassoc, splitToken_dot (dot_not_mem_encodePart _),
      splitToken_dot (dot_not_mem_encodePart _),
      splitToken_of_not_mem (dot_not_mem_base64urlEncode _)]

/-- **A signed token is accepted exactly in its window**, with the payload that was signed. -/
theorem verifyJwt_signJwt_iff (hheader : deps.KeepsJson jwtHeader)
    (hpayload : deps.KeepsJson payload.toJson) (hpair : deps.IsPair privateKey publicKeyBytes)
    (hvalid : payload.Valid) (h : signJwt deps privateKey payload = .ok token) :
    verifyJwt deps token publicKeyBytes options nowMs = .ok (.ok payload) ↔
      InWindow payload (clockSkew options) (nowMs / 1000) := by
  obtain ⟨signature, hsign, hsplit⟩ := splitToken_signJwt h
  rw [verifyJwt_eq_ok_iff]
  constructor
  · rintro ⟨_, _, _, _, _, -, -, -, -, -, -, hwindow⟩
    exact hwindow
  · intro hwindow
    obtain ⟨publicKey, himport, hverify⟩ := hpair hsign
    exact ⟨_, _, _, jwtHeader, _, hsplit, decodePart_encodePart hheader, rfl,
      decodePart_encodePart hpayload, adminJwtPayloadSchema_toJson hvalid,
      ⟨publicKey, signature, himport, base64urlDecode_base64urlEncode signature, hverify⟩,
      hwindow⟩

/-- **When verification is exact.** For every token it answers with a result, and accepts exactly
the tokens it should, if and only if the header of the token does not make it throw; and a signed
token is accepted exactly in its window. -/
theorem verifyJwt_exact_iff (hheader : deps.KeepsJson jwtHeader)
    (token : String) (publicKeyBytes : List UInt8) (options : Option VerifyJwtOptions)
    (nowMs : Int) :
    (((∃ result, verifyJwt deps token publicKeyBytes options nowMs = .ok result) ∧
        ∀ payload, verifyJwt deps token publicKeyBytes options nowMs = .ok (.ok payload) ↔
          AcceptsToken deps token publicKeyBytes (clockSkew options) (nowMs / 1000) payload) ↔
      ¬ TokenThrows deps token) ∧
    ∀ privateKey payload, deps.KeepsJson payload.toJson →
      deps.IsPair privateKey publicKeyBytes → payload.Valid →
      signJwt deps privateKey payload = .ok token →
        (verifyJwt deps token publicKeyBytes options nowMs = .ok (.ok payload) ↔
          InWindow payload (clockSkew options) (nowMs / 1000)) := by
  refine ⟨?_, fun privateKey payload hpayload hpair hvalid h =>
    verifyJwt_signJwt_iff hheader hpayload hpair hvalid h⟩
  rw [← verifyJwt_throws_iff]
  constructor
  · rintro ⟨⟨result, hresult⟩, -⟩ ⟨thrown, hthrown⟩
    rw [hresult] at hthrown
    cases hthrown
  · intro hno
    refine ⟨?_, fun payload => verifyJwt_eq_ok_iff⟩
    cases hresult : verifyJwt deps token publicKeyBytes options nowMs with
    | error thrown => exact absurd ⟨thrown, hresult⟩ hno
    | ok result => exact ⟨result, rfl⟩

end Signed

/-! ### Recorded tokens -/

namespace JwtExample

/-- The text of the header that is signed. -/
def headerText : String := "\x7b\"alg\":\"EdDSA\",\"typ\":\"JWT\"\x7d"

/-- A payload, and its text. -/
def payload : AdminJwtPayload := ⟨"ab", 1000, 1120, "cd"⟩

def payloadText : String :=
  "\x7b\"iss\":\"ab\",\"sub\":\"admin\",\"iat\":1000,\"exp\":1120,\"jti\":\"cd\"\x7d"

def key : List UInt8 := List.replicate 32 7

def signature : List UInt8 := List.replicate 64 1

/-- JSON of three texts, and a scheme with one key that signs everything with one signature. -/
def deps : JwtDeps Unit Unit where
  parseJson text :=
    if text = headerText then some (.object jwtHeader)
    else if text = payloadText then some (.object payload.toJson)
    else if text = "null" then some .null
    else none
  stringify object :=
    match JsonObject.get? object "alg" with
    | some _ => headerText
    | none => payloadText
  numberText n := toString n.num
  importKey bytes := if bytes = key then some () else none
  sign _ _ := .ok signature
  verify _ candidate _ := some (candidate = signature)

theorem keepsHeader : deps.KeepsJson jwtHeader where
  parse_stringify := rfl
  head := by decide

theorem keepsPayload : deps.KeepsJson payload.toJson where
  parse_stringify := rfl
  head := by decide

end JwtExample

/-- A signed token is accepted a minute later. -/
theorem verifyJwt_exact_iff_minute : ∃ token,
    signJwt JwtExample.deps () JwtExample.payload = .ok token ∧
      verifyJwt JwtExample.deps token JwtExample.key none 1060000 = .ok (.ok JwtExample.payload) :=
  ⟨_, rfl, ((verifyJwt_exact_iff JwtExample.keepsHeader _ JwtExample.key none 1060000).2 ()
    JwtExample.payload JwtExample.keepsPayload
    (fun {data signature} h => ⟨(), rfl, by cases h; rfl⟩) ⟨by decide, by decide⟩ rfl).2
    (by unfold InWindow; decide +kernel)⟩

/-- **A header throws**: for the token `bnVsbA.bnVsbA.`, whose header and payload are `null`, the
answer is no result. -/
theorem null_header_throws : ¬ ∀ (deps : JwtDeps Unit Unit) (token : String)
    (publicKeyBytes : List UInt8) (options : Option VerifyJwtOptions) (nowMs : Int),
    ∃ result, verifyJwt deps token publicKeyBytes options nowMs = .ok result := by
  intro h
  obtain ⟨result, hresult⟩ := h JwtExample.deps "bnVsbA.bnVsbA." JwtExample.key none 0
  have hthrows : verifyJwt JwtExample.deps "bnVsbA.bnVsbA." JwtExample.key none 0 =
      .error "null is not an object" := by decide
  rw [hthrows] at hresult
  cases hresult

end Signet
