import Mathlib.Data.Set.Finite.Basic
import Signet.Seals.Sequential
import Signet.Seals.Stamper
import Signet.Verifier.SealChecks

/-!
# What a seal signature covers

`issue` and `refresh` sign the canonical bytes of the current payload and put the chain
back on the signed envelope; the signature check verifies the same bytes. So a verified
envelope carries a payload that has been signed, and nothing binds the payload it says
it follows: the chain check recomputes the delta from whatever stands there.

`signature_covers_chain_iff` is about the chains a manager has had signed, in any run:
the payload of an accepted envelope is one of theirs, but the accepted envelopes carry
only these chains exactly if there are none. For a signed payload each of the chains
`replacedChain payload n` passes both checks.
-/

namespace Signet

open Lib

section

variable {β : Type} [DecidableEq β] (prims : VerifierPrimitives β)

/-! ### The signer -/

/-- The chains a manager has had signed: it publishes each as soon as it is signed. -/
def signedChains (tr : List SealEvent) : List SealChain :=
  (tr.filterMap SealEvent.published?).map (·.chain)

/-- The stamper answers with a signature, by the key, of the payload it was given. -/
def stampsPayload (key : Bytes) (s : SealState) : SealAction → Prop
  | .signed call (.ok signature) => ∀ pending, s.calls.get? call = some (.signing pending) →
      prims.verify key (prims.canonicalize pending.chain.current.toSealPayloadType)
        (prims.decodeBase64 signature.signature) = .ok true
  | _ => True

/-- **Unforgeable signatures.** What verifies with the key has been signed. -/
def OnlySigned (key : Bytes) (tr : List SealEvent) : Prop :=
  ∀ data signature, prims.verify key data signature = .ok true →
    ∃ chain ∈ signedChains tr, data = prims.canonicalize chain.current.toSealPayloadType

/-- The request is accepted with the envelope and the key: both checks pass. -/
structure Accepted (request : VerificationRequest) (envelope : SealEnvelope)
    (sealPublicKey : String) : Prop where
  envelope_eq : request.sealEnvelope = some envelope
  key_eq : request.sealPublicKey = some sealPublicKey
  signature : Passes (sealSignatureCheck prims request)
  chain : Passes (sealChainCheck prims request)

/-! ### What the checks accept -/

variable {prims} {sealPublicKey : String} {key : Bytes}

/-- **A passed signature check has verified a signature** over the payload of the
envelope. -/
theorem verify_of_passes {request : VerificationRequest} {envelope : SealEnvelope}
    (henvelope : request.sealEnvelope = some envelope)
    (hkey : request.sealPublicKey = some sealPublicKey)
    (himport : importEd25519PublicKey prims sealPublicKey = .ok key)
    (h : Passes (sealSignatureCheck prims request)) :
    prims.verify key (prims.canonicalize envelope.chain.current.toSealPayloadType)
      (prims.decodeBase64 envelope.signed.signature) = .ok true := by
  obtain ⟨outcome, hcheck, hpass⟩ := h
  unfold sealSignatureCheck at hcheck
  rw [henvelope, hkey] at hcheck
  -- every verdict before the signature is a skip or a failure
  split at hcheck
  · cases hcheck
    cases hpass
  dsimp only at hcheck
  split at hcheck
  · cases hcheck
    cases hpass
  split at hcheck
  · cases hcheck
    cases hpass
  split at hcheck
  · cases hcheck
    cases hpass
  obtain ⟨key', himport', hcheck⟩ := bind_eq_ok.1 hcheck
  obtain rfl : key = key' := Except.ok.inj (himport.symm.trans himport')
  obtain ⟨verified, hverified, hcheck⟩ := bind_eq_ok.1 hcheck
  cases verified with
  | false =>
    cases hcheck
    cases hpass
  | true => exact mapError_eq_ok.1 hverified

/-- A request for the payload of an envelope. -/
def requestFor (envelope : SealEnvelope) (sealPublicKey : String) : VerificationRequest :=
  ⟨some envelope.chain.current.toSealPayloadType, some envelope, some sealPublicKey⟩

omit [DecidableEq β] in
/-- The last part of the signature check, on a signature that verifies. -/
theorem checkSignature_of_verify {envelope : SealEnvelope}
    (himport : importEd25519PublicKey prims sealPublicKey = .ok key)
    (hverify : prims.verify key (prims.canonicalize envelope.chain.current.toSealPayloadType)
      (prims.decodeBase64 envelope.signed.signature) = .ok true) :
    Passes (checkSignature prims envelope sealPublicKey) := by
  have hverified : verifyEd25519Signature prims key
      (prims.canonicalize envelope.chain.current.toSealPayloadType)
      (prims.decodeBase64 envelope.signed.signature) = .ok true := mapError_eq_ok.2 hverify
  unfold checkSignature
  rw [himport]
  show Passes (verifyEd25519Signature prims key _ _ >>= _)
  rw [hverified]
  exact ⟨_, rfl, rfl⟩

theorem checkChain_of_valid (payload : SealPayloadType) {chain : SealChain}
    (hchain : validateSealChain chain = .ok ()) (hdelta : verifyChainDelta chain = .ok ()) :
    (checkChain payload chain).verdict = .pass := by
  unfold checkChain
  rw [hchain, hdelta]
  rfl

/-- **An envelope with a good signature and a chain that validates is accepted.** -/
theorem accepted_of_valid {envelope : SealEnvelope}
    (himport : importEd25519PublicKey prims sealPublicKey = .ok key)
    (hverify : prims.verify key (prims.canonicalize envelope.chain.current.toSealPayloadType)
      (prims.decodeBase64 envelope.signed.signature) = .ok true)
    (hchain : validateSealChain envelope.chain = .ok ())
    (hdelta : verifyChainDelta envelope.chain = .ok ()) :
    Accepted prims (requestFor envelope sealPublicKey) envelope sealPublicKey where
  envelope_eq := rfl
  key_eq := rfl
  signature := by
    have hfailures : signatureFailures envelope.chain.current.toSealPayloadType = [] :=
      if_neg (ne_empty_of_isResourceId envelope.chain.current.operatorId_ok)
    have hcheck : sealSignatureCheck prims (requestFor envelope sealPublicKey) =
        checkSignature prims envelope sealPublicKey := by
      simp [sealSignatureCheck, requestFor, hfailures, SealEnvelope.sealId]
    rw [hcheck]
    exact checkSignature_of_verify himport hverify
  chain := by
    have hfailures : chainFailures envelope.chain.current.toSealPayloadType = [] := by
      have hoperator := ne_empty_of_isResourceId envelope.chain.current.operatorId_ok
      have hchat := ne_empty_of_isResourceId envelope.chain.current.chatId_ok
      have hcredential := ne_empty_of_isResourceId envelope.chain.current.credentialId_ok
      simp [chainFailures, envelope.chain.current.sealId_ne_empty, hoperator, hchat, hcredential]
    have hcheck : sealChainCheck prims (requestFor envelope sealPublicKey) =
        .ok (checkChain envelope.chain.current.toSealPayloadType envelope.chain) := by
      simp [sealChainCheck, requestFor, hfailures, SealEnvelope.sealId]
    exact ⟨_, hcheck, checkChain_of_valid _ hchain hdelta⟩

/-! ### Replacing the previous payload -/

def withPermissions (payload : SealPayload) (n : Nat) : SealPayload where
  toSealPayloadType :=
    { payload.toSealPayloadType with permissions := ⟨List.replicate n .send, []⟩ }
  wellFormed := payload.wellFormed

/-- A chain for a payload that follows a payload nobody has signed, with the delta
between the two. -/
def replacedChain (payload : SealPayload) (n : Nat) : SealChain where
  current := payload
  previous := some (withPermissions payload n)
  delta := expectedDelta payload (some (withPermissions payload n))

theorem replacedChain_valid (payload : SealPayload) (n : Nat) :
    validateSealChain (replacedChain payload n) = .ok () ∧
      verifyChainDelta (replacedChain payload n) = .ok () := by
  refine ⟨validateSealChain_eq_ok fun previous hprevious => ?_, verifyChainDelta_eq_ok rfl⟩
  obtain rfl : withPermissions payload n = previous := Option.some.inj hprevious
  exact ⟨rfl, rfl, rfl, Nat.le_refl _⟩

theorem replacedChain_injective (payload : SealPayload) :
    Function.Injective (replacedChain payload) := by
  intro n n' h
  have hprevious : withPermissions payload n = withPermissions payload n' :=
    Option.some.inj (congrArg SealChain.previous h)
  have hallow : List.replicate n PermissionScope.send = List.replicate n' .send :=
    congrArg (fun p : SealPayload => p.permissions.allow) hprevious
  simpa using congrArg List.length hallow

/-- Finitely many chains leave one of these out. -/
theorem exists_replacedChain_not_mem (payload : SealPayload) (chains : List SealChain) :
    ∃ n, replacedChain payload n ∉ chains := by
  by_contra hall
  have hmem : ∀ n, replacedChain payload n ∈ chains := by simpa using hall
  exact Set.infinite_of_injective_forall_mem (s := {c | c ∈ chains})
    (replacedChain_injective payload) hmem chains.finite_toSet

/-! ### The chains that are accepted -/

omit [DecidableEq β] in
/-- A published chain was signed for its payload. -/
theorem verify_of_signed {tr : List SealEvent} {s : SealState}
    (hrun : Run sealMachine (stampsPayload prims key) tr s) {chain : SealChain}
    (h : chain ∈ signedChains tr) :
    ∃ signature : Signature,
      prims.verify key (prims.canonicalize chain.current.toSealPayloadType)
        (prims.decodeBase64 signature.signature) = .ok true := by
  obtain ⟨envelope, henvelope, rfl⟩ := List.mem_map.1 h
  obtain ⟨event, hevent, hpublished⟩ := List.mem_filterMap.1 henvelope
  obtain ⟨tr₀, s₀, a, s₁, es, -, hstamps, hstep, hmem⟩ := hrun.emitted hevent
  -- only the segment after the signature publishes a seal
  cases sealStep_sound hstep with
  | @publish call pending signed hcall =>
    obtain rfl := List.mem_singleton.1 hmem
    obtain rfl : pending.envelope signed = envelope := Option.some.inj hpublished
    exact ⟨signed, hstamps pending hcall⟩
  | failed _ _ _ hes | rejected _ _ hes =>
    rcases hes with rfl | rfl
    all_goals
      obtain rfl := List.mem_singleton.1 hmem
      cases hpublished
  | recorded =>
    rcases List.mem_pair.1 hmem with rfl | rfl
    all_goals cases hpublished
  | unchanged | publishRevocation | revoked =>
    obtain rfl := List.mem_singleton.1 hmem
    cases hpublished
  | issue | issueBuilt | refreshBuilt | revoke => cases hmem

/-- **What a seal signature covers.** The payload of an accepted envelope is one that the
key has signed. But all accepted envelopes carry a chain that was built for the signed
seal only while no seal has been signed. -/
theorem signature_covers_chain_iff {tr : List SealEvent} {s : SealState}
    (hrun : Run sealMachine (stampsPayload prims key) tr s)
    (himport : importEd25519PublicKey prims sealPublicKey = .ok key)
    (hunforgeable : OnlySigned prims key tr)
    (hinjective : Function.Injective prims.canonicalize) :
    (∀ request envelope, Accepted prims request envelope sealPublicKey →
      ∃ chain ∈ signedChains tr, chain.current.toSealPayloadType =
        envelope.chain.current.toSealPayloadType) ∧
    ((∀ request envelope, Accepted prims request envelope sealPublicKey →
        envelope.chain ∈ signedChains tr) ↔
      signedChains tr = []) := by
  have hsigned : ∀ request envelope, Accepted prims request envelope sealPublicKey →
      ∃ chain ∈ signedChains tr, chain.current.toSealPayloadType =
        envelope.chain.current.toSealPayloadType := by
    intro request envelope h
    have hverify := verify_of_passes h.envelope_eq h.key_eq himport h.signature
    obtain ⟨chain, hchain, hdata⟩ := hunforgeable _ _ hverify
    exact ⟨chain, hchain, hinjective hdata.symm⟩
  refine ⟨hsigned, ?_, ?_⟩
  · intro hcovered
    by_contra hne
    obtain ⟨chain, hchain⟩ := List.exists_mem_of_ne_nil _ hne
    obtain ⟨signature, hverify⟩ := verify_of_signed hrun hchain
    -- the signed payload under a previous payload that no built chain has
    obtain ⟨n, hnew⟩ := exists_replacedChain_not_mem chain.current (signedChains tr)
    obtain ⟨hvalid, hdelta⟩ := replacedChain_valid chain.current n
    exact hnew (hcovered _ ⟨replacedChain chain.current n, signature⟩
      (accepted_of_valid himport hverify hvalid hdelta))
  · intro hnone request envelope h
    obtain ⟨chain, hchain, -⟩ := hsigned request envelope h
    rw [hnone] at hchain
    cases hchain

end

/-! ### A recorded seal -/

namespace RecordedSeal

def canonicalText : String :=
  "\x7b\"chatId\":\"conv_0123456789abcdef\"," ++
    "\"credentialId\":\"cred_0123456789abcdef\"," ++
    "\"issuedAt\":\"2023-11-14T22:13:20.000Z\"," ++
    "\"operatorId\":\"op_0123456789abcdef\",\"permissions\":\x7b\"allow\":[\"send\"]," ++
    "\"deny\":[]\x7d,\"scopeMode\":\"per-chat\"," ++
    "\"sealId\":\"seal_0000000000000001\"\x7d"

def publicKeyHex : String :=
  "d04ab232742bb4ab3a1368bd4615e4e6d0224ab71a016baf8520a332c9778737"

/-- The primitives, by their recorded values; another payload stands for its own bytes. -/
def primitives : VerifierPrimitives (Bytes ⊕ SealPayloadType) where
  canonicalize p := if p = payload then .inl (encodeText canonicalText) else .inr p
  toLowerCase text := text
  importKey bytes := if bytes.length = 32 then .ok bytes else .error "Invalid raw key"
  decodeBase64 text := if text = signed.signature then signature else []
  verify key data bytes :=
    .ok (key = publicKey ∧ data = .inl (encodeText canonicalText) ∧ bytes = signature)

theorem canonicalize_injective : Function.Injective primitives.canonicalize := by
  intro p q h
  simp only [primitives] at h
  by_cases hp : p = payload
  · by_cases hq : q = payload
    · rw [hp, hq]
    · rw [if_pos hp, if_neg hq] at h
      cases h
  · by_cases hq : q = payload
    · rw [if_neg hp, if_pos hq] at h
      cases h
    · rw [if_neg hp, if_neg hq] at h
      exact Sum.inr.inj h

theorem importKey_publicKeyHex :
    importEd25519PublicKey primitives publicKeyHex = .ok publicKey := by
  have hbytes : parseHexPairs (codeUnits publicKeyHex) = publicKey := by decide
  show (primitives.importKey (parseHexPairs (codeUnits publicKeyHex))).mapError _ = _
  rw [hbytes]
  rfl

/-- The seal is issued and signed. -/
def actions : List SealAction :=
  [.issue 0 input.credentialId input.chatId,
    .inputResolved 0 (.ok input) "seal_0000000000000001" 1700000000000,
    .signed 0 (.ok signed)]

theorem canonicalize_payload :
    primitives.canonicalize payload = .inl (encodeText canonicalText) := by
  show (if payload = payload then Sum.inl (encodeText canonicalText) else Sum.inr payload) = _
  exact if_pos rfl

theorem verify_signed :
    primitives.verify publicKey (primitives.canonicalize payload)
      (primitives.decodeBase64 signed.signature) = .ok true := by
  have hdecode : primitives.decodeBase64 signed.signature = signature := by
    show (if signed.signature = signed.signature then signature else []) = _
    rw [if_pos rfl]
  rw [canonicalize_payload, hdecode]
  exact congrArg Except.ok (decide_eq_true ⟨rfl, rfl, rfl⟩)

/-- The stamper signs the payload, and signs no other. -/
def signsRecorded (s : SealState) : SealAction → Bool
  | .signed call (.ok answer) =>
    answer = signed && (s.calls.get? call).all fun phase =>
      phase.pending?.all fun pending => pending.chain.current.toSealPayloadType = payload
  | _ => true

theorem stampsPayload_of_signsRecorded {s : SealState} {a : SealAction}
    (h : signsRecorded s a = true) : stampsPayload primitives publicKey s a := by
  unfold signsRecorded at h
  split at h
  · simp only [Bool.and_eq_true, decide_eq_true_eq, Option.all_eq_true] at h
    obtain ⟨rfl, hpending⟩ := h
    intro pending hcall
    rw [hpending _ hcall pending rfl]
    exact verify_signed
  · next hother =>
    unfold stampsPayload
    split
    · next call answer => exact absurd rfl (hother call answer)
    · trivial

/-- The run of the actions: one signed chain, for the payload and without a previous
one. -/
theorem exists_run : ∃ tr s, Run sealMachine (stampsPayload primitives publicKey) tr s ∧
    ∃ chain, signedChains tr = [chain] ∧ chain.current.toSealPayloadType = payload ∧
      chain.previous = none ∧ chain.delta = ⟨[], [], []⟩ := by
  obtain ⟨tr, s, hrun, htest⟩ := exists_run_of_exec sealMachine signsRecorded actions
    (fun tr _ => (signedChains tr).length = 1 && (signedChains tr).all fun chain =>
      chain.current.toSealPayloadType = payload && chain.previous = none &&
        chain.delta = ⟨[], [], []⟩)
    (by decide)
  simp only [Bool.and_eq_true, decide_eq_true_eq] at htest
  obtain ⟨chain, hchain⟩ := List.length_eq_one_iff.1 htest.1
  have hall := htest.2
  rw [hchain, List.all_cons, List.all_nil, Bool.and_true] at hall
  simp only [Bool.and_eq_true, decide_eq_true_eq] at hall
  exact ⟨tr, s, hrun.mono fun _ _ h => stampsPayload_of_signsRecorded h, chain, hchain,
    hall.1.1, hall.1.2, hall.2⟩

theorem onlySigned {tr : List SealEvent} {chain : SealChain} (hchain : signedChains tr = [chain])
    (hpayload : chain.current.toSealPayloadType = payload) :
    OnlySigned primitives publicKey tr := by
  intro data bytes hverify
  refine ⟨chain, by rw [hchain]; exact List.mem_singleton_self _, ?_⟩
  have hdata : data = .inl (encodeText canonicalText) :=
    (of_decide_eq_true (Except.ok.inj hverify)).2.1
  rw [hdata, hpayload, canonicalize_payload]

end RecordedSeal

open RecordedSeal in
/-- One seal has been signed, so there are accepted envelopes with other chains. -/
theorem signature_covers_chain_iff_recorded :
    ∃ tr s, Run sealMachine (stampsPayload primitives publicKey) tr s ∧
      OnlySigned primitives publicKey tr ∧ Function.Injective primitives.canonicalize ∧
      ¬ ∀ request envelope, Accepted primitives request envelope publicKeyHex →
        envelope.chain ∈ signedChains tr := by
  obtain ⟨tr, s, hrun, chain, hchain, hpayload, -⟩ := exists_run
  have honly := onlySigned hchain hpayload
  refine ⟨tr, s, hrun, honly, canonicalize_injective, fun hcovered => ?_⟩
  have hnone := (signature_covers_chain_iff hrun importKey_publicKeyHex honly
    canonicalize_injective).2.1 hcovered
  rw [hchain] at hnone
  cases hnone

open RecordedSeal in
/-- **Another previous payload under the same signature.** The published seal follows no
other; the accepted envelope says that it follows a payload without permissions, and
that `send` has been added since. -/
theorem replaced_previous_accepted :
    ∃ tr s, Run sealMachine (stampsPayload primitives publicKey) tr s ∧
      OnlySigned primitives publicKey tr ∧ Function.Injective primitives.canonicalize ∧
      ∃ request envelope chain, Accepted primitives request envelope publicKeyHex ∧
        signedChains tr = [chain] ∧ envelope.chain.current = chain.current ∧
        chain.previous = none ∧ envelope.chain.previous ≠ none ∧
        chain.delta = ⟨[], [], []⟩ ∧ envelope.chain.delta = ⟨[.send], [], []⟩ := by
  obtain ⟨tr, s, hrun, chain, hchain, hpayload, hprevious, hdelta⟩ := exists_run
  obtain ⟨hvalid, hrecomputed⟩ := replacedChain_valid chain.current 0
  have hverify : primitives.verify publicKey
      (primitives.canonicalize chain.current.toSealPayloadType)
      (primitives.decodeBase64 signed.signature) = .ok true := by
    rw [hpayload]
    exact verify_signed
  refine ⟨tr, s, hrun, onlySigned hchain hpayload, canonicalize_injective,
    requestFor ⟨replacedChain chain.current 0, signed⟩ publicKeyHex,
    ⟨replacedChain chain.current 0, signed⟩, chain,
    accepted_of_valid importKey_publicKeyHex hverify hvalid hrecomputed, hchain, rfl, hprevious,
    Option.some_ne_none _, hdelta, ?_⟩
  -- the delta is the one from no permissions to those of the payload
  have hpermissions : chain.current.permissions = ⟨[.send], []⟩ := by rw [hpayload]; rfl
  show computePayloadDelta (withPermissions chain.current 0).toSealPayloadType
    chain.current.toSealPayloadType = _
  unfold computePayloadDelta withPermissions
  rw [hpermissions]
  rfl

end Signet
