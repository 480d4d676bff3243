import Signet.Keys.OperationalKeys
import Signet.Verifier.ChainCoverage

/-!
# The key an envelope names

The compat stamper looks the key of its identity up twice: to sign, and after the
signature to name the key. `stamped_key_signs`: in every run in which no key is stored
while a signature of its identity is in flight, every envelope names the public half of
the key that signed it, and verifies with it. A rotation between the two lookups gives an
envelope that the named key does not verify (`rotated_key_named`).

The invariant `StampInv` says that a stored entry holds the two halves of one key, and that
a signature in flight is made with the key its identity still has.
-/

namespace Signet

open Lib KeyManagerState

variable {κ : Type}

/-- The envelope is signed by the key it names: its signature was made over the canonical
bytes of its payload by a private key whose public half it names, and verifies with it. -/
def NamesSigningKey (ed25519 : Ed25519 κ) (canonicalize : StampRequest → Bytes)
    (toBase64 : Bytes → String) (envelope : StampedEnvelope) : Prop :=
  ∃ k, envelope.signature = toBase64 (ed25519.sign k (canonicalize envelope.request)) ∧
    envelope.keyRef = bytesToHex (ed25519.publicHalf k) ∧
    ed25519.verify (ed25519.publicHalf k) (canonicalize envelope.request)
      (ed25519.sign k (canonicalize envelope.request)) = true

def KeyManagerCall.signsFor (identityId : String) : KeyManagerCall κ → Bool
  | .signing identityId' _ _ => identityId' = identityId
  | _ => false

/-- **The condition**: the step stores no key of an identity with a signature in flight. -/
def sparesSignatures (s : KeyManagerState κ) : KeyManagerAction κ → Bool
  | .fingerprinted call (.ok ()) =>
    match s.calls.get? call with
    | some (.fingerprinting identityId _ _ _) => !s.calls.values.any (·.signsFor identityId)
    | _ => true
  | _ => true

/-! ### The invariant -/

/-- **Keys and signatures in flight.** -/
structure StampInv (ed25519 : Ed25519 κ) (s : KeyManagerState κ) : Prop where
  /-- The public key of an entry is the public half of its private key. -/
  halves : s.opKeys.Forall fun _ entry =>
    entry.key.rawPublicKey = ed25519.publicHalf entry.privateKey
  /-- A signature in flight is made with the key the identity has. -/
  current : s.calls.Forall fun _ phase => ∀ identityId request privateKey,
    phase = .signing identityId request privateKey →
      ∃ entry, s.opKeys.get? identityId = some entry ∧ entry.privateKey = privateKey

section Invariant

variable {ed25519 : Ed25519 κ} {s : KeyManagerState κ}

theorem StampInv.initial : StampInv ed25519 (⟨.empty, .empty, .empty⟩ : KeyManagerState κ) where
  halves := OrdMap.Forall.empty
  current := OrdMap.Forall.empty

/-- A phase that signs nothing needs nothing. -/
theorem StampInv.await (hK : StampInv ed25519 s) (call : Nat) {phase : KeyManagerCall κ}
    (hphase : ∀ identityId, phase.signsFor identityId = false) :
    StampInv ed25519 (s.await call phase) where
  halves := hK.halves
  current := by
    refine hK.current.set ?_
    rintro identityId request privateKey rfl
    have hsigns := hphase identityId
    rw [KeyManagerCall.signsFor, decide_eq_true rfl] at hsigns
    cases hsigns

theorem StampInv.finish (hK : StampInv ed25519 s) (call : Nat) :
    StampInv ed25519 (s.finish call) where
  halves := hK.halves
  current := hK.current.erase call

/-- Storing a key keeps the invariant if no signature of the identity is in flight. -/
theorem StampInv.storeKey (hK : StampInv ed25519 s) {identityId : String}
    {entry : OperationalKeyEntry κ}
    (hhalves : entry.key.rawPublicKey = ed25519.publicHalf entry.privateKey)
    (hspared : s.calls.values.any (·.signsFor identityId) = false) :
    StampInv ed25519 (s.storeKey identityId entry) where
  halves := hK.halves.set hhalves
  current := by
    intro call phase hcall identityId' request privateKey hphase
    obtain ⟨old, hold, hkey⟩ := hK.current call phase hcall identityId' request privateKey hphase
    -- a signature in flight for the identity would be spared by the condition
    have hne : identityId' ≠ identityId := by
      rintro rfl
      have hnone := List.any_eq_false.1 hspared phase (OrdMap.mem_values_iff.2 ⟨call, hcall⟩)
      rw [hphase, KeyManagerCall.signsFor] at hnone
      exact hnone (decide_eq_true rfl)
    refine ⟨old, ?_, hkey⟩
    change (s.opKeys.set identityId entry).get? identityId' = some old
    rw [OrdMap.get?_set_of_ne _ _ hne]
    exact hold

theorem StampInv.startSigning (hK : StampInv ed25519 s) (call : Nat) {identityId : String}
    {request : StampRequest} {entry : OperationalKeyEntry κ}
    (hget : s.opKeys.get? identityId = some entry) :
    StampInv ed25519 (s.await call (.signing identityId request entry.privateKey)) where
  halves := hK.halves
  current := by
    refine hK.current.set ?_
    intro identityId' request' privateKey hphase
    cases hphase
    -- the key that signs is the stored one
    exact ⟨entry, hget, rfl⟩

end Invariant

/-! ### One step -/

/-- **What a step can do.** -/
inductive KeyManagerStep (ed25519 : Ed25519 κ) (canonicalize : StampRequest → Bytes)
    (toBase64 : Bytes → String) (s : KeyManagerState κ) :
    KeyManagerAction κ → KeyManagerState κ → List KeyManagerEvent → Prop
  /-- A key operation or the rotation loop awaits. -/
  | awaits {a call phase} (hphase : ∀ identityId, phase.signsFor identityId = false) :
      KeyManagerStep ed25519 canonicalize toBase64 s a (s.await call phase) []
  | returns {a call result} :
      KeyManagerStep ed25519 canonicalize toBase64 s a (s.finish call) [.keyReturned call result]
  /-- The rotation loop has gone through all identities. -/
  | ends {a call} : KeyManagerStep ed25519 canonicalize toBase64 s a (s.finish call) []
  /-- The only step that stores a key. -/
  | stores {call identityId groupId privateKey loop}
      (hcall : s.calls.get? call = some (.fingerprinting identityId groupId privateKey loop)) :
      KeyManagerStep ed25519 canonicalize toBase64 s (.fingerprinted call (.ok ()))
        ((s.storeKey identityId ⟨⟨ed25519.publicHalf privateKey⟩, groupId, privateKey⟩).settle call
          loop (.ok ⟨ed25519.publicHalf privateKey⟩)).1
        ((s.storeKey identityId ⟨⟨ed25519.publicHalf privateKey⟩, groupId, privateKey⟩).settle call
          loop (.ok ⟨ed25519.publicHalf privateKey⟩)).2
  | signs {call identityId request entry} (hget : s.opKeys.get? identityId = some entry) :
      KeyManagerStep ed25519 canonicalize toBase64 s (.stamp call identityId request)
        (s.await call (.signing identityId request entry.privateKey)) []
  /-- A stamper without a key. -/
  | refuses {a call e} :
      KeyManagerStep ed25519 canonicalize toBase64 s a s [.stamped call (.error e)]
  /-- The only step that returns an envelope. -/
  | stamps {call answer identityId request privateKey}
      (hcall : s.calls.get? call = some (.signing identityId request privateKey)) :
      KeyManagerStep ed25519 canonicalize toBase64 s (.signed call answer) (s.finish call)
        [.stamped call
          (stampFinish ed25519 canonicalize toBase64 s identityId request privateKey answer)]

section Step

variable {ed25519 : Ed25519 κ} {canonicalize : StampRequest → Bytes} {toBase64 : Bytes → String}
  {s s' : KeyManagerState κ} {a : KeyManagerAction κ} {es : List KeyManagerEvent}

theorem settle_sound (call : Nat) (loop : Option Nat) (result : Result OperationalKey) :
    KeyManagerStep ed25519 canonicalize toBase64 s a (s.settle call loop result).1
      (s.settle call loop result).2 := by
  cases loop with
  | none => exact .returns
  | some index => exact .awaits fun _ => rfl

theorem rotate_sound (call : Nat) (identityId : String) (loop : Option Nat) :
    KeyManagerStep ed25519 canonicalize toBase64 s a (s.rotate call identityId loop).1
      (s.rotate call identityId loop).2 := by
  unfold KeyManagerState.rotate
  split
  · exact settle_sound call loop _
  · exact .awaits fun _ => rfl

theorem keyManagerStep_sound
    (h : keyManagerStep ed25519 canonicalize toBase64 s a = some (s', es)) :
    KeyManagerStep ed25519 canonicalize toBase64 s a s' es := by
  cases a with
  | createOperationalKey call identityId groupId =>
    dsimp only [keyManagerStep] at h
    split at h
    · cases h
    · cases h
      exact .awaits fun _ => rfl
  | rotateOperationalKey call identityId =>
    dsimp only [keyManagerStep] at h
    split at h
    · cases h
    · obtain ⟨rfl, rfl⟩ := Prod.mk.inj (Option.some.inj h)
      exact rotate_sound call identityId none
  | autoRotate call =>
    dsimp only [keyManagerStep] at h
    split at h
    · cases h
    · cases h
      exact .awaits fun _ => rfl
  | loop call =>
    dsimp only [keyManagerStep] at h
    split at h
    · split at h
      · cases h
        exact .ends
      · obtain ⟨rfl, rfl⟩ := Prod.mk.inj (Option.some.inj h)
        exact rotate_sound call _ _
    · cases h
  | gated call answer =>
    dsimp only [keyManagerStep] at h
    split at h
    · obtain ⟨rfl, rfl⟩ := Prod.mk.inj (Option.some.inj h)
      exact settle_sound call _ _
    · cases h
      exact .awaits fun _ => rfl
    · cases h
  | generated call pair =>
    dsimp only [keyManagerStep] at h
    split at h
    · obtain ⟨rfl, rfl⟩ := Prod.mk.inj (Option.some.inj h)
      exact settle_sound call _ _
    · cases h
      exact .awaits fun _ => rfl
    · cases h
  | exported call answer =>
    dsimp only [keyManagerStep] at h
    split at h
    · obtain ⟨rfl, rfl⟩ := Prod.mk.inj (Option.some.inj h)
      exact settle_sound call _ _
    · cases h
      exact .awaits fun _ => rfl
    · cases h
  | fingerprinted call answer =>
    dsimp only [keyManagerStep] at h
    split at h
    · obtain ⟨rfl, rfl⟩ := Prod.mk.inj (Option.some.inj h)
      exact settle_sound call _ _
    · next hcall =>
      obtain ⟨rfl, rfl⟩ := Prod.mk.inj (Option.some.inj h)
      exact .stores hcall
    · cases h
  | stamp call identityId request =>
    dsimp only [keyManagerStep] at h
    split at h
    · cases h
    · split at h
      · cases h
        exact .refuses
      · next hget =>
        cases h
        exact .signs hget
  | signed call answer =>
    dsimp only [keyManagerStep] at h
    split at h
    · next hcall =>
      cases h
      exact .stamps hcall
    · cases h

/-- **Every step under the condition keeps the invariant.** -/
theorem StampInv.step (hK : StampInv ed25519 s) (hguard : sparesSignatures s a = true)
    (h : KeyManagerStep ed25519 canonicalize toBase64 s a s' es) : StampInv ed25519 s' := by
  cases h with
  | awaits hphase => exact hK.await _ hphase
  | returns => exact hK.finish _
  | ends => exact hK.finish _
  | @stores call identityId groupId privateKey loop hcall =>
    rw [sparesSignatures, hcall, Bool.not_eq_true'] at hguard
    -- the only segment that replaces a key: the condition says nobody signs with it
    have hstored : StampInv ed25519 (s.storeKey identityId
        ⟨⟨ed25519.publicHalf privateKey⟩, groupId, privateKey⟩) := hK.storeKey rfl hguard
    cases loop with
    | none => exact hstored.finish call
    | some index => exact hstored.await call fun _ => rfl
  | signs hget => exact hK.startSigning _ hget
  | refuses => exact hK
  | stamps hcall => exact hK.finish _

/-- **What the stamper returns.** An envelope is made of the signature of the key that was
looked up first and of the key that is looked up last. -/
theorem stampFinish_eq_ok {identityId : String} {request : StampRequest} {privateKey : κ}
    {answer : Result Unit} {envelope : StampedEnvelope}
    (h : stampFinish ed25519 canonicalize toBase64 s identityId request privateKey answer =
      .ok envelope) :
    ∃ entry, s.opKeys.get? identityId = some entry ∧
      envelope = request.envelope (toBase64 (ed25519.sign privateKey (canonicalize request)))
        entry.key.publicKey := by
  obtain ⟨-, -, h⟩ := bind_eq_ok.1 h
  obtain ⟨key, hkey, h⟩ := bind_eq_ok.1 h
  unfold KeyManagerState.getOperationalKey at hkey
  split at hkey
  · cases hkey
  · next entry hget =>
    cases hkey
    exact ⟨entry, hget, (Except.ok.inj h).symm⟩

theorem stamped_of_step (h : KeyManagerStep ed25519 canonicalize toBase64 s a s' es) {call : Nat}
    {envelope : StampedEnvelope} (he : .stamped call (.ok envelope) ∈ es) :
    ∃ identityId request privateKey answer,
      s.calls.get? call = some (.signing identityId request privateKey) ∧
      stampFinish ed25519 canonicalize toBase64 s identityId request privateKey answer =
        .ok envelope := by
  cases h with
  | awaits hphase => cases he
  | returns => cases List.mem_singleton.1 he
  | ends => cases he
  | @stores call' identityId groupId privateKey loop hcall =>
    cases loop with
    | none => cases List.mem_singleton.1 he
    | some index => cases he
  | signs hget => cases he
  | refuses => cases List.mem_singleton.1 he
  | stamps hcall =>
    obtain ⟨rfl, hresult⟩ := KeyManagerEvent.stamped.inj (List.mem_singleton.1 he)
    exact ⟨_, _, _, _, hcall, hresult.symm⟩

theorem request_envelope (request : StampRequest) (signature keyRef : String) :
    (request.envelope signature keyRef).request = request ∧
      (request.envelope signature keyRef).signature = signature ∧
      (request.envelope signature keyRef).keyRef = keyRef := by
  rcases request with payload | payload
  · exact ⟨rfl, rfl, rfl⟩
  · exact ⟨rfl, rfl, rfl⟩

end Step

/-- **The stamped key is the signing key.** In every run of key operations, rotations and
stampers that stores no key of an identity while one of its signatures is in flight, every
envelope that is returned names the public half of the key that signed it and verifies with
it. -/
theorem stamped_key_signs {ed25519 : Ed25519 κ} (hcorrect : ed25519.Correct)
    {canonicalize : StampRequest → Bytes} {toBase64 : Bytes → String}
    {tr : List KeyManagerEvent} {s : KeyManagerState κ}
    (h : Run (keyManagerMachine ed25519 canonicalize toBase64)
      (fun s a => sparesSignatures s a = true) tr s) :
    ∀ call envelope, .stamped call (.ok envelope) ∈ tr →
      NamesSigningKey ed25519 canonicalize toBase64 envelope := by
  intro call envelope he
  obtain ⟨tr₀, s₀, a, s₁, es, hrun, -, hstep, hmem⟩ := h.emitted he
  have hK : StampInv ed25519 s₀ :=
    hrun.invariant (I := fun _ s => StampInv ed25519 s) .initial
      fun _ hK hguard hs => hK.step hguard (keyManagerStep_sound hs)
  obtain ⟨identityId, request, privateKey, answer, hcall, hfinish⟩ :=
    stamped_of_step (keyManagerStep_sound hstep) hmem
  obtain ⟨entry, hget, rfl⟩ := stampFinish_eq_ok hfinish
  -- the key that is named is the one the signature was started with
  obtain ⟨entry', hget', hkey⟩ := hK.current call _ hcall identityId request privateKey rfl
  rw [hget] at hget'
  cases hget'
  obtain ⟨hrequest, hsignature, hkeyRef⟩ := request_envelope request
    (toBase64 (ed25519.sign privateKey (canonicalize request))) entry.key.publicKey
  refine ⟨privateKey, ?_, ?_, hcorrect _ _⟩
  · rw [hrequest]
    exact hsignature
  · rw [hkeyRef, OperationalKey.publicKey, hK.halves identityId entry hget, hkey]

/-! ### Two recorded keys -/

/-- The private keys with the seeds of 32 bytes `11` and of 32 bytes `22`. -/
inductive RecordedKey where
  | first
  | second

namespace RecordedKey

def publicHalf : RecordedKey → Bytes
  | first => RecordedSeal.publicKey
  | second =>
    [160, 154, 165, 244, 122, 103, 89, 128, 47, 249, 85, 248, 220, 45, 42, 20, 165, 201, 157, 35,
     190, 151, 248, 100, 18, 127, 249, 56, 52, 85, 164, 240]

/-- The signature of the canonical text of the recorded seal. -/
def signature : RecordedKey → Bytes
  | first => RecordedSeal.signature
  | second =>
    [69, 115, 63, 240, 93, 173, 243, 228, 97, 88, 57, 36, 144, 180, 225, 23, 136, 121, 5, 249, 116,
     252, 19, 58, 159, 182, 165, 2, 188, 6, 115, 216, 242, 116, 65, 214, 243, 171, 213, 228, 43,
     12, 157, 181, 88, 14, 32, 89, 18, 254, 29, 226, 77, 119, 113, 130, 190, 46, 140, 161, 18, 149,
     129, 14]

/-- Ed25519 by its recorded values. -/
def ed25519 : Ed25519 RecordedKey where
  publicHalf := publicHalf
  sign k data := if data = encodeText RecordedSeal.canonicalText then k.signature else []
  verify key data bytes :=
    data ≠ encodeText RecordedSeal.canonicalText ∨
      key = publicHalf first ∧ bytes = signature first ∨
      key = publicHalf second ∧ bytes = signature second

/-- The canonical text of the recorded seal, the only one that is signed. -/
def canonicalize (_ : StampRequest) : Bytes :=
  encodeText RecordedSeal.canonicalText

def toBase64 (bytes : Bytes) : String :=
  if bytes = signature first then RecordedSeal.signed.signature
  else
    "RXM/8F2t8+RhWDkkkLThF4h5Bfl0/BM6n7alArwGc9jydEHW86vV5CsMnbVYDiBZEv4d4k13cYK+LoyhEpWBDg=="

theorem sign_canonicalize (k : RecordedKey) (request : StampRequest) :
    ed25519.sign k (canonicalize request) = k.signature := by
  simp only [ed25519, canonicalize, if_true]

theorem ed25519_correct : ed25519.Correct := by
  intro k data
  refine decide_eq_true ?_
  by_cases hdata : data = encodeText RecordedSeal.canonicalText
  · have hsign : ed25519.sign k data = k.signature := by
      simp only [ed25519, hdata, if_true]
    rw [hsign]
    cases k with
    | first => exact .inr (.inl ⟨rfl, rfl⟩)
    | second => exact .inr (.inr ⟨rfl, rfl⟩)
  · exact .inl hdata

theorem toBase64_first_ne_second : toBase64 (signature first) ≠ toBase64 (signature second) := by
  decide

/-- The payload of the recorded seal, which its schema accepts. -/
def payload : SealPayload :=
  ⟨RecordedSeal.payload, by decide⟩

/-- The envelope of the recorded seal, signed by one key under the name of another. -/
def envelope (signer named : RecordedKey) : StampedEnvelope :=
  (StampRequest.seal payload).envelope
    (toBase64 (ed25519.sign signer (canonicalize (.seal payload))))
    (OperationalKey.publicKey ⟨named.publicHalf⟩)

theorem envelope_signature (signer named : RecordedKey) :
    (envelope signer named).signature = toBase64 signer.signature := by
  rw [← sign_canonicalize signer (.seal payload)]
  exact (request_envelope _ _ _).2.1

/-- The machine of the recorded values. -/
abbrev machine : Machine (KeyManagerState RecordedKey) (KeyManagerAction RecordedKey)
    KeyManagerEvent :=
  keyManagerMachine ed25519 canonicalize toBase64

/-- A key operation goes through, from the gate to the stored key. -/
def keyOperation (call : Nat) (key : RecordedKey) : List (KeyManagerAction RecordedKey) :=
  [.gated call (.ok ()), .generated call (.ok key), .exported call (.ok ()),
    .fingerprinted call (.ok ())]

/-- An identity gets its key and seals while it rotates the key; the seal is signed before
or after the new key is stored. -/
def signedBefore : List (KeyManagerAction RecordedKey) :=
  [.createOperationalKey 0 "id_1" none] ++ keyOperation 0 first ++
    [.stamp 1 "id_1" (.seal payload), .rotateOperationalKey 2 "id_1", .signed 1 (.ok ())] ++
    keyOperation 2 second

def signedAfter : List (KeyManagerAction RecordedKey) :=
  [.createOperationalKey 0 "id_1" none] ++ keyOperation 0 first ++
    [.stamp 1 "id_1" (.seal payload), .rotateOperationalKey 2 "id_1"] ++
    keyOperation 2 second ++ [.signed 1 (.ok ())]

end RecordedKey

open RecordedKey in
/-- The seal is signed before the rotated key is stored. -/
theorem stamped_key_signs_recorded :
    NamesSigningKey ed25519 canonicalize toBase64 (envelope first first) := by
  have hrun : ∃ s, Run machine (fun s a => sparesSignatures s a = true)
      [.keyReturned 0 (.ok ⟨publicHalf first⟩), .stamped 1 (.ok (envelope first first)),
        .keyReturned 2 (.ok ⟨publicHalf second⟩)] s :=
    exists_run_of_execFrom signedBefore rfl
  obtain ⟨s, hrun⟩ := hrun
  exact stamped_key_signs ed25519_correct hrun 1 _ (List.mem_cons_of_mem _ List.mem_cons_self)

open RecordedKey in
/-- The seal is signed after the rotated key is stored, and names the new key. -/
theorem rotated_key_named :
    ¬ ∀ tr s, Run machine (fun _ _ => True) tr s →
      ∀ call envelope, .stamped call (.ok envelope) ∈ tr →
        NamesSigningKey ed25519 canonicalize toBase64 envelope := by
  intro hclaim
  have hrun : ∃ s, Run machine (fun _ _ => true = true)
      [.keyReturned 0 (.ok ⟨publicHalf first⟩), .keyReturned 2 (.ok ⟨publicHalf second⟩),
        .stamped 1 (.ok (envelope first second))] s :=
    exists_run_of_execFrom signedAfter rfl
  obtain ⟨s, hrun⟩ := hrun
  obtain ⟨k, hsignature, hkeyRef, -⟩ :=
    hclaim _ s (hrun.mono fun _ _ _ => trivial) 1 _
      (List.mem_cons_of_mem _ (List.mem_cons_of_mem _ List.mem_cons_self))
  cases k with
  -- the first key has signed, but the second one is named, and the other way round
  | first =>
    have hne : bytesToHex (publicHalf second) ≠ bytesToHex (publicHalf first) := by decide
    exact hne hkeyRef
  | second =>
    rw [envelope_signature, sign_canonicalize] at hsignature
    exact toBase64_first_ne_second hsignature

end Signet
