import Signet.Keys.VaultSecretProvider
import Signet.Seals.Stamper

/-!
# The vault secret

When all calls of `getSecret` on a data directory that return `Ok` return one secret
(`vault_secret_constant`): in every run in which no call is answered from the cache of a
software provider whose secret is in no file. The software provider caches a generated secret
before it is written, so after a failed or interrupted write such a call returns a secret that
the next process does not find.

A secret that has been returned is served from then on (`Serves`): the next process does not
generate one (`SecretDir.taken`), it can read no other one (`SecretDir.secret?`), the provider
caches no other one, and is not generating one. `SoftwareInv` and `EnclaveInv` tie what a
provider caches and is about to do to the directory.
-/

namespace Signet

open Lib

/-! ### The texts of secrets -/

theorem toNat_of_isLowerHex {c : Char} (h : isLowerHex c = true) :
    (48 ≤ c.toNat ∧ c.toNat ≤ 57) ∨ (97 ≤ c.toNat ∧ c.toNat ≤ 102) := by
  simp only [isLowerHex, Bool.or_eq_true, Bool.and_eq_true, decide_eq_true_eq, Char.le_def,
    UInt32.le_iff_toNat_le] at h
  exact h

theorem isJsSpace_of_isLowerHex {c : Char} (h : isLowerHex c = true) :
    isJsSpace c.toNat = false := by
  have hsmall : ∀ n < 103, (48 ≤ n ∧ n ≤ 57) ∨ (97 ≤ n ∧ n ≤ 102) → isJsSpace n = false := by
    decide
  have hn := toNat_of_isLowerHex h
  exact hsmall c.toNat (by omega) hn

theorem toLower_of_isLowerHex {c : Char} (h : isLowerHex c = true) : c.toLower = c := by
  have hn := toNat_of_isLowerHex h
  unfold Char.toLower
  rw [dif_neg]
  intro hc
  simp only [ge_iff_le, UInt32.le_iff_toNat_le] at hc
  have h1 : (65 : Nat) ≤ c.toNat := hc.1
  have h2 : c.toNat ≤ 90 := hc.2
  omega

theorem isSecretHex_iff {text : String} : isSecretHex text = true ↔
    text.toList.length = 64 ∧ ∀ c ∈ text.toList, isLowerHex c = true := by
  simp only [isSecretHex, Bool.and_eq_true, decide_eq_true_eq, List.all_eq_true]

/-- A text of hex digits is left as it is. -/
theorem normalizeVaultSecret_of_hex {text : String}
    (h : ∀ c ∈ text.toList, isLowerHex c = true) :
    normalizeVaultSecret text =
      if isSecretHex text then .ok text
      else .error (.internalError "Vault secret is malformed") := by
  have hdrop : ∀ l : List Char, (∀ c ∈ l, isLowerHex c = true) →
      l.dropWhile (isJsSpace ·.toNat) = l := by
    intro l hl
    cases l with
    | nil => rfl
    | cons c l =>
      have hc := isJsSpace_of_isLowerHex (hl c List.mem_cons_self)
      rw [List.dropWhile_cons, if_neg (by rw [hc]; exact Bool.false_ne_true)]
  have htrim : jsTrim text = text := by
    simp only [jsTrim]
    rw [hdrop _ h, hdrop _ (fun c hc => h c (List.mem_reverse.1 hc)), List.reverse_reverse,
      String.ofList_toList]
  have hlower : asciiLowerCase text = text := by
    have hmap : text.toList.map Char.toLower = text.toList :=
      (List.map_congr_left fun c hc => toLower_of_isLowerHex (h c hc)).trans (List.map_id _)
    unfold asciiLowerCase
    rw [hmap, String.ofList_toList]
  unfold normalizeVaultSecret
  rw [htrim, hlower]

theorem SecretBytes.isSecretHex (secret : SecretBytes) : isSecretHex secret.hex = true := by
  have hdigit : ∀ n < 16,
      isLowerHex (Char.ofNat (if n < 10 then 0x30 + n else 0x61 + (n - 10))) = true := by
    decide
  refine isSecretHex_iff.2 ⟨?_, ?_⟩
  · rw [SecretBytes.hex, length_bytesToHex, secret.2]
  · intro c hc
    rw [SecretBytes.hex, bytesToHex, String.toList_ofList] at hc
    obtain ⟨b, -, hc⟩ := List.mem_flatMap.1 hc
    have hb := b.toNat_lt
    have hcases : c = _ ∨ c ∈ [_] := List.mem_cons.1 hc
    rcases hcases with rfl | hc
    · exact hdigit _ (by omega)
    · rw [List.mem_singleton.1 hc]
      exact hdigit _ (by omega)

theorem normalizeVaultSecret_hex {text : String} (h : isSecretHex text = true) :
    normalizeVaultSecret text = .ok text := by
  rw [normalizeVaultSecret_of_hex (isSecretHex_iff.1 h).2, if_pos h]

/-- A beginning of a secret is read as a secret only if it is all of it. -/
theorem eq_of_normalize_beginning {text full secret : String} (hfull : isSecretHex full = true)
    (hbegin : text.toList <+: full.toList) (h : normalizeVaultSecret text = .ok secret) :
    secret = full := by
  obtain ⟨hlength, hchars⟩ := isSecretHex_iff.1 hfull
  rw [normalizeVaultSecret_of_hex fun c hc => hchars c (hbegin.subset hc)] at h
  by_cases htext : isSecretHex text = true
  · rw [if_pos htext] at h
    obtain rfl := Except.ok.inj h
    have hall : text.toList = full.toList :=
      hbegin.eq_of_length ((isSecretHex_iff.1 htext).1.trans hlength.symm)
    rw [← String.ofList_toList (s := text), hall, String.ofList_toList]
  · rw [if_neg htext] at h
    cases h

/-! ### What the directory holds -/

section

variable (prims : EnclavePrimitives)

/-- The secret that a provider reads from the directory. -/
def SecretDir.secret? (dir : SecretDir) : Option String :=
  match dir.vaultKey, dir.vaultPassphrase with
  | some raw, _ => if raw.length = 32 then some (bytesToHex raw) else none
  | none, some text => (normalizeVaultSecret text).toOption
  | none, none => do
    let keyRef ← dir.keyRef
    let text ← dir.sealedBox
    let box ← prims.parseBox text
    let plaintext ← prims.seDecrypt keyRef box
    (normalizeVaultSecret plaintext).toOption

end

/-- No provider generates a secret in the directory. -/
def SecretDir.taken (dir : SecretDir) : Bool :=
  dir.vaultKey.isSome || dir.vaultPassphrase.isSome ||
    (dir.keyRef.isSome && dir.sealedBox.isSome)

section

variable {prims : EnclavePrimitives} {dir : SecretDir}

theorem validate_eq_fresh : validateSeVaultArtifacts dir = .ok .fresh ↔
    dir.keyRef = none ∧ dir.sealedBox = none ∧ dir.publicKey = none := by
  unfold validateSeVaultArtifacts
  cases dir.keyRef <;> cases dir.sealedBox <;> cases dir.publicKey <;> simp

theorem not_taken_of_no_box (hkey : dir.vaultKey = none) (hpass : dir.vaultPassphrase = none)
    (hbox : dir.sealedBox = none) : dir.taken = false := by
  simp [SecretDir.taken, hkey, hpass, hbox]

/-- What is read makes the directory taken. -/
theorem taken_of_secret {secret : String} (h : dir.secret? prims = some secret) :
    dir.taken = true := by
  unfold SecretDir.secret? at h
  unfold SecretDir.taken
  cases hkey : dir.vaultKey with
  | some raw => rfl
  | none =>
    cases hpass : dir.vaultPassphrase with
    | some text => rfl
    | none =>
      rw [hkey, hpass] at h
      cases href : dir.keyRef with
      | none =>
        rw [href] at h
        cases h
      | some keyRef =>
        cases hbox : dir.sealedBox with
        | none =>
          rw [href, hbox] at h
          cases h
        | some text => rfl

theorem secret_of_vaultKey (prims : EnclavePrimitives) {raw : Bytes}
    (h : dir.vaultKey = some raw) (hlen : raw.length = 32) :
    dir.secret? prims = some (bytesToHex raw) := by
  simp only [SecretDir.secret?, h]
  rw [if_pos hlen]

theorem secret_of_passphrase (prims : EnclavePrimitives) {text : String}
    (hkey : dir.vaultKey = none) (hpass : dir.vaultPassphrase = some text) :
    dir.secret? prims = (normalizeVaultSecret text).toOption := by
  unfold SecretDir.secret?
  rw [hkey, hpass]

theorem secret_of_box {keyRef plaintext secret : String} {box : SealedBox}
    (hkey : dir.vaultKey = none) (hpass : dir.vaultPassphrase = none)
    (href : dir.keyRef = some keyRef) (hbox : dir.sealedBox.bind prims.parseBox = some box)
    (hplain : prims.seDecrypt keyRef box = some plaintext)
    (hsecret : normalizeVaultSecret plaintext = .ok secret) : dir.secret? prims = some secret := by
  obtain ⟨text, htext, hparse⟩ := Option.bind_eq_some_iff.1 hbox
  simp only [SecretDir.secret?, hkey, hpass, href, htext, Option.bind_eq_bind, Option.bind_some,
    hparse, hplain, hsecret, Except.toOption]

theorem secret_of_fresh (hkey : dir.vaultKey = none) (hpass : dir.vaultPassphrase = none)
    (h : validateSeVaultArtifacts dir = .ok .fresh) : dir.secret? prims = none := by
  unfold SecretDir.secret?
  rw [hkey, hpass, (validate_eq_fresh.1 h).1]
  rfl

end

/-! ### The invariant -/

section

variable (prims : EnclavePrimitives)

/-- How a software provider and its directory hang together. -/
structure SoftwareInv (dir : SecretDir) (p : SoftwareProvider) : Prop where
  /-- Software files are missing only where there are no artifacts either. -/
  fresh : dir.vaultKey = none → dir.vaultPassphrase = none →
    validateSeVaultArtifacts dir = .ok .fresh
  /-- The directory holds no other secret than the cached one. -/
  cached : ∀ secret, p.cached = some secret → ∀ stored, dir.secret? prims = some stored →
    stored = secret
  reading : ∀ call, p.calls.get? call = some .vaultPassphrase → dir.vaultKey = none
  write : ∀ w, p.write = some w → p.cached = some w.text ∧ isSecretHex w.text = true ∧
    dir.vaultKey = none ∧ (w.landed = true → dir.vaultPassphrase = some w.text)

/-- What holds while `resolveSecret` awaits. -/
def ResolutionOk (dir : SecretDir) (cached : Option String) : Resolution → Prop
  | .readingKeyRef => cached = none
  | .readingSealedBox keyRef => cached = none ∧ dir.keyRef = some keyRef
  | .decrypting keyRef box =>
    cached = none ∧ dir.keyRef = some keyRef ∧ dir.sealedBox.bind prims.parseBox = some box
  | .creating => cached = none ∧ dir.sealedBox = none
  | .writingKeyRef keyRef landed =>
    cached = none ∧ dir.sealedBox = none ∧ (landed = true → dir.keyRef = some keyRef)
  | .writingPublicKey keyRef _ => cached = none ∧ dir.sealedBox = none ∧ dir.keyRef = some keyRef
  | .writingSealedBox secretHex box landed =>
    cached = none ∧ isSecretHex secretHex = true ∧
      (∃ keyRef, dir.keyRef = some keyRef ∧ prims.seDecrypt keyRef box = some secretHex) ∧
      prims.parseBox (prims.boxText box) = some box ∧
      (landed = true → dir.sealedBox = some (prims.boxText box))
  | .settled result => ∀ secret, result = .ok secret → cached = some secret

/-- How a Secure Enclave provider and its directory hang together. -/
structure EnclaveInv (dir : SecretDir) (p : EnclaveProvider) : Prop where
  noKey : dir.vaultKey = none
  noPassphrase : dir.vaultPassphrase = none
  cached : ∀ secret, p.cached = some secret → dir.secret? prims = some secret
  inflight : ∀ phase, p.inflight = some phase → ResolutionOk prims dir p.cached phase
  answered : ∀ call starter secret, p.calls.get? call = some (.answered starter (.ok secret)) →
    p.cached = some secret

/-- How the provider of the process and its directory hang together. -/
def VaultSecretState.Inv (s : VaultSecretState) : Prop :=
  match s.provider with
  | .software p => SoftwareInv prims s.dir p
  | .enclave p => EnclaveInv prims s.dir p
  | _ => True

end

/-- The secret that the provider has cached. -/
def Provider.cached : Provider → Option String
  | software p => p.cached
  | enclave p => p.cached
  | _ => none

/-- `resolveSecret` is about to store a new secret. -/
def Resolution.Generates : Resolution → Prop
  | creating | writingKeyRef _ _ | writingPublicKey _ _ | writingSealedBox _ _ _ => True
  | _ => False

def Provider.Generates : Provider → Prop
  | enclave p => ∃ phase, p.inflight = some phase ∧ phase.Generates
  | _ => False

section

variable (prims : EnclavePrimitives)

/-- No other secret than this one can be returned from now on. -/
structure Serves (s : VaultSecretState) (secret : String) : Prop where
  taken : s.dir.taken = true
  stored : ∀ stored, s.dir.secret? prims = some stored → stored = secret
  cached : ∀ cached, s.provider.cached = some cached → cached = secret
  idle : ¬ s.provider.Generates

/-- What a step does to a secret. -/
structure ServedStep (s s' : VaultSecretState) (es : List VaultSecretEvent) : Prop where
  inv : s'.Inv prims
  cached : ∀ call secret, .returned call (.ok secret) ∈ es → s'.provider.cached = some secret
  serves : ∀ secret, Serves prims s secret → Serves prims s' secret

end

section

variable {prims : EnclavePrimitives} {s s' : VaultSecretState} {dir dir' : SecretDir}
  {es : List VaultSecretEvent} {secret : String}

/-- A provider with a cached secret is not about to generate one. -/
theorem VaultSecretState.Inv.not_generates (h : s.Inv prims)
    (hcached : s.provider.cached = some secret) : ¬ s.provider.Generates := by
  obtain ⟨dir, provider⟩ := s
  cases provider with
  | enclave p =>
    rintro ⟨phase, hphase, hgen⟩
    have hok := EnclaveInv.inflight h phase hphase
    have hp : p.cached = some secret := hcached
    rw [hp] at hok
    cases phase with
    | creating => cases hok.1
    | writingKeyRef keyRef landed => cases hok.1
    | writingPublicKey keyRef landed => cases hok.1
    | writingSealedBox secretHex box landed => cases hok.1
    | _ => exact hgen
  | _ => exact id

/-- A cached secret is served once the directory is taken. -/
theorem VaultSecretState.Inv.serves (h : s.Inv prims)
    (hcached : s.provider.cached = some secret) (htaken : s.dir.taken = true) :
    Serves prims s secret where
  taken := htaken
  stored := by
    obtain ⟨dir, provider⟩ := s
    cases provider with
    | software p => exact SoftwareInv.cached h secret hcached
    | enclave p =>
      intro stored hstored
      rw [EnclaveInv.cached h secret hcached] at hstored
      exact (Option.some.inj hstored).symm
    | _ => cases hcached
  cached := by
    intro cached hc
    rw [hcached] at hc
    exact (Option.some.inj hc).symm
  idle := h.not_generates hcached

theorem Serves.frame (h : Serves prims s secret) (hdir : s'.dir = s.dir)
    (hcached : s'.provider.cached = s.provider.cached)
    (hidle : ¬ s.provider.Generates → ¬ s'.provider.Generates) : Serves prims s' secret where
  taken := by
    rw [hdir]
    exact h.taken
  stored := by
    rw [hdir]
    exact h.stored
  cached := by
    rw [hcached]
    exact h.cached
  idle := hidle h.idle

end

/-! ### The software provider -/

section

variable {prims : EnclavePrimitives} {dir dir' : SecretDir} {p p' : SoftwareProvider}
  {es : List VaultSecretEvent}

theorem SoftwareInv.finish (h : SoftwareInv prims dir p) (call : Nat) :
    SoftwareInv prims dir (p.finish call) where
  fresh := h.fresh
  cached := h.cached
  reading other hother := h.reading other (OrdMap.get?_erase_eq_some hother).2
  write := h.write

theorem SoftwareInv.await (h : SoftwareInv prims dir p) (call : Nat) {file : SoftwareRead}
    (hfile : file = .vaultPassphrase → dir.vaultKey = none) :
    SoftwareInv prims dir (p.await call file) where
  fresh := h.fresh
  cached := h.cached
  reading other hother := by
    rcases OrdMap.get?_set_eq_some hother with ⟨-, hnew⟩ | ⟨-, hold⟩
    · exact hfile hnew.symm
    · exact h.reading other hold
  write := h.write

theorem SoftwareInv.keeps {s' : VaultSecretState} (h : SoftwareInv prims dir p')
    (hs' : s' = ⟨dir, .software p'⟩) (hcached : p'.cached = p.cached)
    (hes : ∀ call secret, .returned call (.ok secret) ∉ es) :
    ServedStep prims ⟨dir, .software p⟩ s' es := by
  subst hs'
  exact
    { inv := h
      cached := fun call secret hmem => absurd hmem (hes call secret)
      serves := fun secret hserves => hserves.frame rfl hcached fun _ => id }

theorem SoftwareInv.getSecret (h : SoftwareInv prims dir p) (call : Nat) (ensured : Bool)
    (random : SecretBytes) :
    ServedStep prims ⟨dir, .software p⟩
      ⟨dir, .software (p.getSecret dir call ensured random).1⟩
      (p.getSecret dir call ensured random).2 := by
  unfold SoftwareProvider.getSecret
  cases hc : p.cached with
  | some c =>
    refine { inv := h, cached := fun call' secret hmem => ?_, serves := fun _ => id }
    cases List.mem_singleton.1 hmem
    exact hc
  | none =>
    by_cases hensured : ensured = false
    · simp only [if_pos hensured]
      refine h.keeps rfl rfl fun call' secret hmem => ?_
      cases List.mem_singleton.1 hmem
    by_cases hkey : dir.vaultKey.isSome = true
    · simp only [if_neg hensured, if_pos hkey]
      have hawait : SoftwareInv prims dir (p.await call .vaultKey) := h.await call nofun
      exact hawait.keeps rfl rfl fun _ _ => List.not_mem_nil
    have hnokey : dir.vaultKey = none := Option.not_isSome_iff_eq_none.1 hkey
    by_cases hpass : dir.vaultPassphrase.isSome = true
    · simp only [if_neg hensured, if_neg hkey, if_pos hpass]
      have hawait : SoftwareInv prims dir (p.await call .vaultPassphrase) :=
        h.await call fun _ => hnokey
      exact hawait.keeps rfl rfl fun _ _ => List.not_mem_nil
    · -- no software file: the directory holds nothing, and is not taken
      have hnopass : dir.vaultPassphrase = none := Option.not_isSome_iff_eq_none.1 hpass
      have hfresh := h.fresh hnokey hnopass
      simp only [if_neg hensured, if_neg hkey, if_neg hpass]
      refine { inv := ?_, cached := fun _ _ hmem => absurd hmem List.not_mem_nil, serves := ?_ }
      · refine { fresh := h.fresh, cached := ?_, reading := h.reading, write := ?_ }
        · intro secret _ stored hstored
          rw [secret_of_fresh hnokey hnopass hfresh] at hstored
          cases hstored
        · intro w hw
          cases hw
          exact ⟨rfl, random.isSecretHex, hnokey, nofun⟩
      · intro secret hserves
        have htaken := hserves.taken
        rw [not_taken_of_no_box hnokey hnopass (validate_eq_fresh.1 hfresh).2.1] at htaken
        cases htaken

theorem SoftwareInv.found (h : SoftwareInv prims dir p) (call : Nat) {secret : String}
    (hsecret : dir.secret? prims = some secret) :
    ServedStep prims ⟨dir, .software p⟩ ⟨dir, .software (p.found call secret).1⟩
      (p.found call secret).2 where
  inv :=
    { fresh := h.fresh
      cached := by
        intro cached hcached stored hstored
        cases hcached
        rw [hsecret] at hstored
        exact (Option.some.inj hstored).symm
      reading := (h.finish call).reading
      write := by
        intro w hw
        obtain ⟨hcached, hrest⟩ := h.write w hw
        have heq := h.cached _ hcached _ hsecret
        exact ⟨congrArg some heq, hrest⟩ }
  cached := by
    intro call' secret' hmem
    cases List.mem_singleton.1 hmem
    rfl
  serves := by
    intro secret' hserves
    have heq : secret = secret' := hserves.stored _ hsecret
    exact ⟨hserves.taken, hserves.stored, fun cached hc => (Option.some.inj hc).symm.trans heq, id⟩

theorem SoftwareInv.failed (h : SoftwareInv prims dir p) (call : Nat) {e : SignetError} :
    ServedStep prims ⟨dir, .software p⟩ ⟨dir, .software (p.failed call (.error e)).1⟩
      (p.failed call (.error e)).2 := by
  refine (h.finish call).keeps rfl rfl fun call' secret hmem => ?_
  cases List.mem_singleton.1 hmem

theorem SoftwareInv.read (h : SoftwareInv prims dir p) {call : Nat} {file : SoftwareRead}
    (hfile : p.calls.get? call = some file) (ok : Bool) :
    ServedStep prims ⟨dir, .software p⟩ ⟨dir, .software (p.read dir call ok file).1⟩
      (p.read dir call ok file).2 := by
  cases file with
  | vaultKey =>
    unfold SoftwareProvider.read
    cases hkey : dir.vaultKey with
    | none => exact h.failed call
    | some raw =>
      cases ok with
      | false => exact h.failed call
      | true =>
        by_cases hlen : raw.length = 32
        · simp only [if_neg (not_not.2 hlen)]
          exact h.found call (secret_of_vaultKey prims hkey hlen)
        · simp only [if_pos hlen]
          exact h.failed call
  | vaultPassphrase =>
    have hnokey := h.reading call hfile
    unfold SoftwareProvider.read
    cases hpass : dir.vaultPassphrase with
    | none => exact h.failed call
    | some text =>
      cases ok with
      | false => exact h.failed call
      | true =>
        have hstored := secret_of_passphrase prims hnokey hpass
        dsimp only
        cases hnorm : normalizeVaultSecret text with
        | error e => exact h.failed call
        | ok secret =>
          rw [hnorm] at hstored
          exact h.found call hstored

/-- A write reaches the file: with a beginning of the secret, or all of it. -/
theorem SoftwareInv.write_file (h : SoftwareInv prims dir p) {w w' : PassphraseWrite}
    (hw : p.write = some w) {text : String} (hbegin : text.toList <+: w.text.toList)
    (htext : w'.text = w.text) (hlanded : w'.landed = true → text = w.text) :
    ServedStep prims ⟨dir, .software p⟩
      ⟨{ dir with vaultPassphrase := some text }, .software { p with write := some w' }⟩ [] := by
  obtain ⟨hcached, hhex, hnokey, -⟩ := h.write w hw
  -- only the cached secret can be read from the file
  have honly : ∀ stored, { dir with vaultPassphrase := some text }.secret? prims =
      some stored → stored = w.text := by
    intro stored hstored
    have hread : { dir with vaultPassphrase := some text }.secret? prims =
        (normalizeVaultSecret text).toOption := secret_of_passphrase prims hnokey rfl
    rw [hread] at hstored
    cases hnorm : normalizeVaultSecret text with
    | error e =>
      rw [hnorm] at hstored
      cases hstored
    | ok secret =>
      rw [hnorm] at hstored
      obtain rfl := Option.some.inj hstored
      exact eq_of_normalize_beginning hhex hbegin hnorm
  have heq : ∀ secret, p.cached = some secret → w.text = secret := by
    intro secret hsecret
    rw [hcached] at hsecret
    exact Option.some.inj hsecret
  refine { inv := ?_, cached := fun _ _ hmem => absurd hmem List.not_mem_nil, serves := ?_ }
  · refine { fresh := nofun, cached := ?_, reading := ?_, write := ?_ }
    · intro secret hsecret stored hstored
      exact (honly stored hstored).trans (heq secret hsecret)
    · exact h.reading
    · intro w₁ hw₁
      obtain rfl := Option.some.inj hw₁
      rw [htext]
      exact ⟨hcached, hhex, hnokey, fun hl => congrArg some (hlanded hl)⟩
  · intro secret hserves
    have hsecret : w.text = secret := hserves.cached _ hcached
    refine { taken := ?_, stored := ?_, cached := hserves.cached, idle := id }
    · simp [SecretDir.taken]
    · intro stored hstored
      exact (honly stored hstored).trans hsecret

theorem SoftwareInv.step (h : SoftwareInv prims dir p) {a : SoftwareAction}
    (hs : softwareStep dir p a = some (dir', p', es)) :
    ServedStep prims ⟨dir, .software p⟩ ⟨dir', .software p'⟩ es := by
  cases a with
  | read call ok =>
    obtain ⟨file, hfile, hres⟩ := Option.map_eq_some_iff.1 hs
    have hread := h.read hfile ok
    obtain ⟨rfl, hr⟩ := Prod.mk.inj hres
    rw [hr] at hread
    exact hread
  | tear text =>
    simp only [softwareStep] at hs
    split at hs
    · next call full hw =>
      split at hs
      · next hbegin =>
        cases hs
        have hp : p = { p with write := some ⟨call, full, false⟩ } := by rw [← hw]
        have hstep := h.write_file hw hbegin
          (rfl : (⟨call, full, false⟩ : PassphraseWrite).text = _) nofun
        rwa [← hp] at hstep
      · cases hs
    · cases hs
  | land =>
    simp only [softwareStep] at hs
    split at hs
    · next call full hw =>
      cases hs
      exact h.write_file hw (List.prefix_refl _) rfl fun _ => rfl
    · cases hs
  | written ok =>
    have hinv : SoftwareInv prims dir { p with write := none } :=
      { fresh := h.fresh, cached := h.cached, reading := h.reading, write := nofun }
    simp only [softwareStep] at hs
    split at hs
    · -- the write has failed
      cases hs
      refine hinv.keeps rfl rfl fun call' secret' hmem => ?_
      cases List.mem_singleton.1 hmem
    · next call text secret hw hc =>
      cases hs
      refine { inv := hinv, cached := ?_, serves := ?_ }
      · intro call' secret' hmem
        cases List.mem_singleton.1 hmem
        exact hc
      · exact fun secret' hserves => hserves.frame rfl rfl fun _ => id
    · cases hs

end

/-! ### The Secure Enclave provider -/

section

variable {prims : EnclavePrimitives} {dir dir' : SecretDir} {p p' : EnclaveProvider}
  {es : List VaultSecretEvent}

/-- Without software files only sealed artifacts make the directory taken. -/
theorem EnclaveInv.not_taken (h : EnclaveInv prims dir p) (hbox : dir.sealedBox = none) :
    dir.taken = false :=
  not_taken_of_no_box h.noKey h.noPassphrase hbox

/-- `resolveSecret` goes on, or settles with a secret that is cached. -/
theorem EnclaveInv.next (h : EnclaveInv prims dir p) {phase : Resolution}
    (hphase : ResolutionOk prims dir p.cached phase) : EnclaveInv prims dir (p.next phase) where
  noKey := h.noKey
  noPassphrase := h.noPassphrase
  cached := h.cached
  inflight := by
    intro phase' hphase'
    obtain rfl := Option.some.inj hphase'
    exact hphase
  answered := h.answered

theorem EnclaveInv.await (h : EnclaveInv prims dir p) (call : Nat) {phase : EnclaveCall}
    (hphase : ∀ starter secret, phase = .answered starter (.ok secret) → p.cached = some secret) :
    EnclaveInv prims dir (p.await call phase) where
  noKey := h.noKey
  noPassphrase := h.noPassphrase
  cached := h.cached
  inflight := h.inflight
  answered := by
    intro other starter secret hother
    rcases OrdMap.get?_set_eq_some hother with ⟨-, hnew⟩ | ⟨-, hold⟩
    · exact hphase starter secret hnew.symm
    · exact h.answered other starter secret hold

/-- `resolveSecret` returns; a secret that it returns is cached and in the directory. -/
theorem EnclaveInv.settle (h : EnclaveInv prims dir p) {result : Result String}
    {cached : Option String} (hold : ∀ secret, p.cached = some secret → cached = some secret)
    (hdir : ∀ secret, cached = some secret → dir.secret? prims = some secret)
    (hresult : ∀ secret, result = .ok secret → cached = some secret) :
    EnclaveInv prims dir { p.settle result with cached := cached } where
  noKey := h.noKey
  noPassphrase := h.noPassphrase
  cached := hdir
  inflight := by
    intro phase hphase
    obtain rfl := Option.some.inj hphase
    exact hresult
  answered := by
    intro call starter secret hcall
    have hget : ((p.calls.get? call).map (·.answer result)) =
        some (.answered starter (.ok secret)) := by
      rw [← OrdMap.get?_mapValues]
      exact hcall
    obtain ⟨phase, hphase, hanswer⟩ := Option.map_eq_some_iff.1 hget
    cases phase with
    | awaiting starter' =>
      cases hanswer
      exact hresult secret rfl
    | answered starter' result' =>
      cases hanswer
      exact hold secret (h.answered call _ secret hphase)

theorem EnclaveInv.keeps (h : EnclaveInv prims dir p') (hcached : p'.cached = p.cached)
    (hidle : ∀ phase, p'.inflight = some phase → phase.Generates →
      ∃ phase₀, p.inflight = some phase₀ ∧ phase₀.Generates) :
    ServedStep prims ⟨dir, .enclave p⟩ ⟨dir, .enclave p'⟩ [] where
  inv := h
  cached _ _ hmem := absurd hmem List.not_mem_nil
  serves secret hserves := by
    refine hserves.frame rfl hcached fun hidle₀ => ?_
    rintro ⟨phase, hphase, hgen⟩
    exact hidle₀ (hidle phase hphase hgen)

theorem EnclaveInv.fails (h : EnclaveInv prims dir p) (e : SignetError) :
    ServedStep prims ⟨dir, .enclave p⟩ ⟨dir, .enclave (p.settle (.error e))⟩ [] := by
  have hsettle : EnclaveInv prims dir (p.settle (.error e)) :=
    h.settle (fun _ => id) h.cached nofun
  refine hsettle.keeps rfl fun phase hphase hgen => ?_
  obtain rfl := Option.some.inj hphase
  exact hgen.elim

theorem EnclaveInv.goes (h : EnclaveInv prims dir p) {phase : Resolution}
    (hphase : ResolutionOk prims dir p.cached phase) (hgen : ¬ phase.Generates) :
    ServedStep prims ⟨dir, .enclave p⟩ ⟨dir, .enclave (p.next phase)⟩ [] := by
  refine (h.next hphase).keeps rfl fun phase' hphase' hgen' => ?_
  obtain rfl := Option.some.inj hphase'
  exact absurd hgen' hgen

/-- A step of a `resolveSecret` that generates: no secret has been returned before. -/
theorem EnclaveInv.generates (h : EnclaveInv prims dir' p')
    (hgen : ∃ phase, p.inflight = some phase ∧ phase.Generates) :
    ServedStep prims ⟨dir, .enclave p⟩ ⟨dir', .enclave p'⟩ [] where
  inv := h
  cached _ _ hmem := absurd hmem List.not_mem_nil
  serves _ hserves := absurd hgen hserves.idle

theorem EnclaveInv.succeeds (h : EnclaveInv prims dir p) {secret : String}
    (hcached : p.cached = none) (hsecret : dir.secret? prims = some secret) :
    ServedStep prims ⟨dir, .enclave p⟩
      ⟨dir, .enclave { p.settle (.ok secret) with cached := some secret }⟩ [] where
  inv := by
    refine EnclaveInv.settle h ?_ ?_ ?_
    · intro secret' hsecret'
      rw [hcached] at hsecret'
      cases hsecret'
    · intro secret' hsecret'
      obtain rfl := Option.some.inj hsecret'
      exact hsecret
    · intro secret' hresult
      obtain rfl := Except.ok.inj hresult
      rfl
  cached _ _ hmem := absurd hmem List.not_mem_nil
  serves secret' hserves := by
    refine { taken := hserves.taken, stored := hserves.stored, cached := ?_, idle := ?_ }
    · intro cached hc
      obtain rfl := Option.some.inj hc
      exact hserves.stored _ hsecret
    · rintro ⟨phase, hphase, hgen⟩
      obtain rfl := Option.some.inj hphase
      exact hgen

theorem EnclaveInv.resolveSecret (h : EnclaveInv prims dir p) (hcached : p.cached = none)
    (ensured : Bool) :
    ServedStep prims ⟨dir, .enclave p⟩ ⟨dir, .enclave (p.resolveSecret dir ensured)⟩ [] := by
  unfold EnclaveProvider.resolveSecret
  by_cases hensured : ensured = false
  · rw [if_pos hensured]
    exact h.fails _
  · rw [if_neg hensured]
    cases hstate : validateSeVaultArtifacts dir with
    | error e => exact h.fails e
    | ok state =>
      cases state with
      | existing => exact h.goes hcached id
      | fresh =>
        -- nothing is in the directory, and nothing has been returned
        have hbox := (validate_eq_fresh.1 hstate).2.1
        have hnext : EnclaveInv prims dir (p.next .creating) := h.next ⟨hcached, hbox⟩
        refine
          { inv := hnext, cached := fun _ _ hmem => absurd hmem List.not_mem_nil, serves := ?_ }
        intro secret hserves
        have htaken := hserves.taken
        rw [h.not_taken hbox] at htaken
        cases htaken

theorem EnclaveInv.getSecret (h : EnclaveInv prims dir p) (call : Nat) (ensured : Bool) :
    ServedStep prims ⟨dir, .enclave p⟩ ⟨dir, .enclave (p.getSecret dir call ensured).1⟩
      (p.getSecret dir call ensured).2 := by
  have hawait : ∀ phase, (∀ starter secret, phase = .answered starter (.ok secret) →
      p.cached = some secret) →
      ServedStep prims ⟨dir, .enclave p⟩ ⟨dir, .enclave (p.await call phase)⟩ [] :=
    fun phase hphase => (h.await call hphase).keeps rfl fun phase₀ hphase₀ hgen =>
      ⟨phase₀, hphase₀, hgen⟩
  unfold EnclaveProvider.getSecret
  split
  · next c _ hc =>
    refine { inv := h, cached := fun call' secret hmem => ?_, serves := fun _ => id }
    cases List.mem_singleton.1 hmem
    exact hc
  · next result _ hinflight =>
    refine hawait _ fun starter secret hphase => ?_
    cases hphase
    exact h.inflight _ hinflight secret rfl
  · exact hawait _ nofun
  · next hc _ =>
    -- the call waits, and starts the promise
    have hwait := hawait (.awaiting true) nofun
    have hstart := EnclaveInv.resolveSecret hwait.inv hc ensured
    exact
      { inv := hstart.inv
        cached := hstart.cached
        serves := fun secret hserves => hstart.serves secret (hwait.serves secret hserves) }

theorem EnclaveInv.writes (h : EnclaveInv prims dir p) {phase : Resolution}
    (hnokey : dir'.vaultKey = none) (hnopass : dir'.vaultPassphrase = none)
    (hinflight : p'.inflight = some phase) (hcalls : p'.calls = p.calls)
    (hcached : p.cached = none) (hcached' : p'.cached = none)
    (hphase : ResolutionOk prims dir' none phase)
    (hgen : ∃ phase, p.inflight = some phase ∧ phase.Generates) :
    ServedStep prims ⟨dir, .enclave p⟩ ⟨dir', .enclave p'⟩ [] := by
  refine EnclaveInv.generates ?_ hgen
  refine { noKey := hnokey, noPassphrase := hnopass, cached := ?_, inflight := ?_, answered := ?_ }
  · intro secret hsecret
    rw [hcached'] at hsecret
    cases hsecret
  · intro phase' hphase'
    rw [hinflight] at hphase'
    obtain rfl := Option.some.inj hphase'
    rw [hcached']
    exact hphase
  · intro call starter secret hcall
    rw [hcalls] at hcall
    have hsecret := h.answered call starter secret hcall
    rw [hcached] at hsecret
    cases hsecret

theorem EnclaveInv.resume (h : EnclaveInv prims dir p) {call : Nat} {starter : Bool}
    {result : Result String} (hcall : p.calls.get? call = some (.answered starter result)) :
    ServedStep prims ⟨dir, .enclave p⟩
      ⟨dir, .enclave
        { p with
          inflight := if starter then none else p.inflight
          calls := p.calls.erase call }⟩
      [.returned call result] where
  inv :=
    { noKey := h.noKey
      noPassphrase := h.noPassphrase
      cached := h.cached
      inflight := by
        intro phase hphase
        by_cases hstarter : starter = true
        · rw [if_pos hstarter] at hphase
          cases hphase
        · rw [if_neg hstarter] at hphase
          exact h.inflight phase hphase
      answered := fun other starter' secret hother =>
        h.answered other starter' secret (OrdMap.get?_erase_eq_some hother).2 }
  cached := by
    intro call' secret hmem
    cases List.mem_singleton.1 hmem
    exact h.answered call starter secret hcall
  serves := by
    intro secret hserves
    refine hserves.frame rfl rfl fun hidle => ?_
    rintro ⟨phase, hphase, hgen⟩
    by_cases hstarter : starter = true
    · rw [if_pos hstarter] at hphase
      cases hphase
    · rw [if_neg hstarter] at hphase
      exact hidle ⟨phase, hphase, hgen⟩

theorem EnclaveInv.step (h : EnclaveInv prims dir p) {a : EnclaveAction}
    (hs : enclaveStep prims dir p a = some (dir', p', es)) :
    ServedStep prims ⟨dir, .enclave p⟩ ⟨dir', .enclave p'⟩ es := by
  cases a with
  | keyRefRead ok =>
    simp only [enclaveStep] at hs
    split at hs
    · next hp =>
      have hok := h.inflight _ hp
      split at hs
      · next keyRef href =>
        cases hs
        exact h.goes ⟨hok, href⟩ id
      · cases hs
        exact h.fails _
    · cases hs
  | sealedBoxRead ok =>
    simp only [enclaveStep] at hs
    split at hs
    · next keyRef hp =>
      obtain ⟨hcached, href⟩ := h.inflight _ hp
      split at hs
      · next box hbox =>
        cases hs
        exact h.goes ⟨hcached, href, hbox⟩ id
      · cases hs
        exact h.fails _
    · cases hs
  | decrypted ok =>
    simp only [enclaveStep] at hs
    split at hs
    · next keyRef box hp =>
      obtain ⟨hcached, href, hbox⟩ := h.inflight _ hp
      split at hs
      · next plaintext hplain =>
        cases hnorm : normalizeVaultSecret plaintext with
        | error e =>
          rw [hnorm] at hs
          cases hs
          exact h.fails e
        | ok secret =>
          rw [hnorm] at hs
          cases hs
          exact h.succeeds hcached
            (secret_of_box h.noKey h.noPassphrase href hbox hplain hnorm)
      · cases hs
        exact h.fails _
    · cases hs
  | created answer =>
    simp only [enclaveStep] at hs
    split at hs
    · cases hs
      exact h.fails _
    · next keyRef hp =>
      cases hs
      obtain ⟨hcached, hbox⟩ := h.inflight _ hp
      exact h.writes h.noKey h.noPassphrase rfl rfl hcached hcached ⟨rfl, hbox, nofun⟩
        ⟨_, hp, trivial⟩
    · cases hs
  | tear text =>
    simp only [enclaveStep] at hs
    split at hs
    · next keyRef hp =>
      obtain ⟨hcached, hbox, -⟩ := h.inflight _ hp
      split at hs
      · cases hs
        exact h.writes h.noKey h.noPassphrase hp rfl hcached hcached ⟨rfl, hbox, nofun⟩
          ⟨_, hp, trivial⟩
      · cases hs
    · next keyRef hp =>
      obtain ⟨hcached, hbox, href⟩ := h.inflight _ hp
      split at hs
      · cases hs
        exact h.writes h.noKey h.noPassphrase hp rfl hcached hcached ⟨rfl, hbox, href⟩
          ⟨_, hp, trivial⟩
      · cases hs
    · next secretHex box hp =>
      obtain ⟨hcached, hhex, hopens, hparse, -⟩ := h.inflight _ hp
      split at hs
      · cases hs
        exact h.writes h.noKey h.noPassphrase hp rfl hcached hcached
          ⟨rfl, hhex, hopens, hparse, nofun⟩ ⟨_, hp, trivial⟩
      · cases hs
    · cases hs
  | land =>
    simp only [enclaveStep] at hs
    split at hs
    · next keyRef hp =>
      cases hs
      obtain ⟨hcached, hbox, -⟩ := h.inflight _ hp
      exact h.writes h.noKey h.noPassphrase rfl rfl hcached hcached ⟨rfl, hbox, fun _ => rfl⟩
        ⟨_, hp, trivial⟩
    · next keyRef hp =>
      cases hs
      obtain ⟨hcached, hbox, href⟩ := h.inflight _ hp
      exact h.writes h.noKey h.noPassphrase rfl rfl hcached hcached ⟨rfl, hbox, href⟩
        ⟨_, hp, trivial⟩
    · next secretHex box hp =>
      cases hs
      obtain ⟨hcached, hhex, hopens, hparse, -⟩ := h.inflight _ hp
      exact h.writes h.noKey h.noPassphrase rfl rfl hcached hcached
        ⟨rfl, hhex, hopens, hparse, fun _ => rfl⟩ ⟨_, hp, trivial⟩
    · cases hs
  | keyRefWritten ok =>
    simp only [enclaveStep] at hs
    split at hs
    · cases hs
      exact h.fails _
    · next keyRef hp =>
      cases hs
      obtain ⟨hcached, hbox, hlanded⟩ := h.inflight _ hp
      exact h.writes h.noKey h.noPassphrase rfl rfl hcached hcached ⟨rfl, hbox, hlanded rfl⟩
        ⟨_, hp, trivial⟩
    · cases hs
  | publicKeyWritten ok random drawn =>
    simp only [enclaveStep] at hs
    split at hs
    · cases hs
      exact h.fails _
    · next keyRef hp =>
      obtain ⟨hcached, -, href⟩ := h.inflight _ hp
      split at hs
      · cases hs
        exact h.fails _
      · next box hbox =>
        cases hs
        have hopens := prims.decrypt_encrypt keyRef drawn random.1 box hbox
        exact h.writes h.noKey h.noPassphrase rfl rfl hcached hcached
          ⟨rfl, random.isSecretHex, ⟨keyRef, href, hopens⟩, prims.parse_text _ _ _ box hbox, nofun⟩
          ⟨_, hp, trivial⟩
    · cases hs
  | sealedBoxWritten ok =>
    simp only [enclaveStep] at hs
    split at hs
    · cases hs
      exact h.fails _
    · next secretHex box hp =>
      cases hs
      obtain ⟨hcached, hhex, ⟨keyRef, href, hplain⟩, hparse, hlanded⟩ := h.inflight _ hp
      have hbox : dir.sealedBox.bind prims.parseBox = some box := by
        rw [hlanded rfl]
        exact hparse
      exact h.succeeds hcached
        (secret_of_box h.noKey h.noPassphrase href hbox hplain (normalizeVaultSecret_hex hhex))
    · cases hs
  | resume call =>
    simp only [enclaveStep] at hs
    split at hs
    · next starter result hcall =>
      cases hs
      exact h.resume hcall
    · cases hs

end

/-! ### The process -/

/-- The call is not answered from the cache of a software provider whose secret is in no
file. -/
def secretInFile (s : VaultSecretState) : VaultSecretAction → Bool
  | .getSecret _ _ _ =>
    match s.provider with
    | .software p =>
      p.cached.isNone || s.dir.vaultKey.isSome || s.dir.vaultPassphrase.isSome
    | _ => true
  | _ => true

/-- All secrets that are returned are one. -/
def OneSecret (tr : List VaultSecretEvent) : Prop :=
  ∀ call call' secret secret', .returned call (.ok secret) ∈ tr →
    .returned call' (.ok secret') ∈ tr → secret = secret'

section

variable {prims : EnclavePrimitives} {dir : SecretDir} {s s' : VaultSecretState}
  {a : VaultSecretAction} {es tr : List VaultSecretEvent}

/-- A resolved provider has cached nothing, and is not at work. -/
theorem resolve_step (dir : SecretDir) (platform signer : Bool) :
    ServedStep prims ⟨dir, .unresolved⟩ ⟨dir, resolveVaultSecretProvider dir platform signer⟩
      [] := by
  have hinv : VaultSecretState.Inv prims ⟨dir, resolveVaultSecretProvider dir platform signer⟩ ∧
      (resolveVaultSecretProvider dir platform signer).cached = none ∧
      ¬ (resolveVaultSecretProvider dir platform signer).Generates := by
    have hsoftware : (dir.vaultKey = none → dir.vaultPassphrase = none →
        validateSeVaultArtifacts dir = .ok .fresh) →
        SoftwareInv prims dir ⟨none, none, .empty⟩ :=
      fun hfresh => { fresh := hfresh, cached := nofun, reading := nofun, write := nofun }
    unfold resolveVaultSecretProvider
    by_cases hfiles : (dir.vaultKey.isSome || dir.vaultPassphrase.isSome) = true
    · rw [if_pos hfiles]
      refine ⟨hsoftware fun hkey hpass => ?_, rfl, id⟩
      rw [hkey, hpass] at hfiles
      cases hfiles
    · rw [if_neg hfiles]
      have hnone : dir.vaultKey = none ∧ dir.vaultPassphrase = none := by
        simpa only [Bool.or_eq_true, not_or, Option.not_isSome_iff_eq_none] using hfiles
      have henclave : EnclaveInv prims dir ⟨none, none, .empty⟩ :=
        { noKey := hnone.1, noPassphrase := hnone.2, cached := nofun, inflight := nofun,
          answered := nofun }
      have hidle : ¬ (Provider.enclave ⟨none, none, .empty⟩).Generates := by
        rintro ⟨phase, hphase, -⟩
        cases hphase
      cases hstate : validateSeVaultArtifacts dir with
      | error e =>
        -- the provider fails every call
        cases e <;> exact ⟨trivial, rfl, id⟩
      | ok state =>
        cases state with
        | existing =>
          cases signer with
          | true => exact ⟨henclave, rfl, hidle⟩
          | false => exact ⟨trivial, rfl, id⟩
        | fresh =>
          cases platform && signer with
          | true => exact ⟨henclave, rfl, hidle⟩
          | false => exact ⟨hsoftware fun _ _ => hstate, rfl, id⟩
  obtain ⟨hprovider, hcached, hidle⟩ := hinv
  exact
    { inv := hprovider
      cached := fun _ _ hmem => absurd hmem List.not_mem_nil
      serves := fun secret hserves => hserves.frame rfl hcached fun _ => hidle }

/-- **Step lemma**: what is returned is cached, and what is served stays served. -/
theorem vaultSecretStep_served (h : s.Inv prims)
    (hs : vaultSecretStep prims s a = some (s', es)) : ServedStep prims s s' es := by
  obtain ⟨dir, provider⟩ := s
  cases a with
  | restart =>
    cases hs
    exact
      { inv := trivial
        cached := fun _ _ hmem => absurd hmem List.not_mem_nil
        serves := fun secret hserves =>
          { taken := hserves.taken, stored := hserves.stored, cached := nofun, idle := id } }
  | resolve platform signer =>
    cases provider with
    | unresolved =>
      cases hs
      exact resolve_step dir platform signer
    | _ => cases hs
  | getSecret call ensured random =>
    cases provider with
    | unresolved => cases hs
    | failing message =>
      cases hs
      refine { inv := trivial, cached := fun call' secret hmem => ?_, serves := fun _ => id }
      cases List.mem_singleton.1 hmem
    | software p =>
      simp only [vaultSecretStep] at hs
      split at hs
      · cases hs
      · cases hs
        exact SoftwareInv.getSecret h call ensured random
    | enclave p =>
      simp only [vaultSecretStep] at hs
      split at hs
      · cases hs
      · cases hs
        exact EnclaveInv.getSecret h call ensured
  | software a =>
    cases provider with
    | software p =>
      obtain ⟨⟨dir', p', es'⟩, hstep, hres⟩ := Option.map_eq_some_iff.1 hs
      cases hres
      exact SoftwareInv.step h hstep
    | _ => cases hs
  | enclave a =>
    cases provider with
    | enclave p =>
      obtain ⟨⟨dir', p', es'⟩, hstep, hres⟩ := Option.map_eq_some_iff.1 hs
      cases hres
      exact EnclaveInv.step h hstep
    | _ => cases hs

theorem taken_of_file (h : dir.vaultKey ≠ none ∨ dir.vaultPassphrase ≠ none) :
    dir.taken = true := by
  simp only [← Option.isSome_iff_ne_none] at h
  simp only [SecretDir.taken, Bool.or_eq_true]
  exact .inl h

theorem SoftwareProvider.read_returned {p : SoftwareProvider} {call call' : Nat} {ok : Bool}
    {file : SoftwareRead} {secret : String}
    (hmem : .returned call' (.ok secret) ∈ (p.read dir call ok file).2) : dir.taken = true := by
  have hfailed : ∀ e, VaultSecretEvent.returned call' (.ok secret) ∉
      (p.failed call (.error e)).2 := by
    intro e h
    cases List.mem_singleton.1 h
  apply taken_of_file
  cases file with
  | vaultKey =>
    left
    intro hnone
    unfold SoftwareProvider.read at hmem
    rw [hnone] at hmem
    exact hfailed _ hmem
  | vaultPassphrase =>
    right
    intro hnone
    unfold SoftwareProvider.read at hmem
    rw [hnone] at hmem
    exact hfailed _ hmem

theorem SoftwareProvider.getSecret_returned {p : SoftwareProvider} {call call' : Nat}
    {ensured : Bool} {random : SecretBytes} {secret : String}
    (hmem : .returned call' (.ok secret) ∈ (p.getSecret dir call ensured random).2) :
    p.cached = some secret := by
  unfold SoftwareProvider.getSecret at hmem
  cases hc : p.cached with
  | some c =>
    rw [hc] at hmem
    cases List.mem_singleton.1 hmem
    rfl
  | none =>
    rw [hc] at hmem
    dsimp only at hmem
    split_ifs at hmem
    · cases List.mem_singleton.1 hmem
    all_goals cases hmem

theorem software_returned_taken {p p' : SoftwareProvider} {dir dir' : SecretDir}
    {a : SoftwareAction} (h : SoftwareInv prims dir p)
    (hs : softwareStep dir p a = some (dir', p', es)) {call : Nat} {secret : String}
    (hmem : .returned call (.ok secret) ∈ es) : dir'.taken = true := by
  cases a with
  | read call₀ ok =>
    obtain ⟨file, hfile, hres⟩ := Option.map_eq_some_iff.1 hs
    obtain ⟨rfl, hr⟩ := Prod.mk.inj hres
    have hes : (p.read dir call₀ ok file).2 = es := congrArg Prod.snd hr
    rw [← hes] at hmem
    exact SoftwareProvider.read_returned hmem
  | tear text =>
    simp only [softwareStep] at hs
    split at hs
    · split at hs
      · cases hs
        cases hmem
      · cases hs
    · cases hs
  | land =>
    simp only [softwareStep] at hs
    split at hs
    · cases hs
      cases hmem
    · cases hs
  | written ok =>
    simp only [softwareStep] at hs
    split at hs
    · cases hs
      cases List.mem_singleton.1 hmem
    · next call₁ text secret₁ hw hc =>
      cases hs
      have hlanded := (h.write _ hw).2.2.2 rfl
      apply taken_of_file
      right
      rw [hlanded]
      exact Option.some_ne_none _
    · cases hs

/-- Under the guard the directory is taken once a secret is returned. -/
theorem returned_taken (h : s.Inv prims) (hguard : secretInFile s a = true)
    (hs : vaultSecretStep prims s a = some (s', es)) {call : Nat} {secret : String}
    (hmem : .returned call (.ok secret) ∈ es) : s'.dir.taken = true := by
  have hstep := vaultSecretStep_served h hs
  have hcached := hstep.cached call secret hmem
  have hinv := hstep.inv
  obtain ⟨dir', provider'⟩ := s'
  cases provider' with
  | enclave p' => exact taken_of_secret (EnclaveInv.cached hinv secret hcached)
  | software p' =>
    obtain ⟨dir, provider⟩ := s
    cases a with
    | restart => cases hs
    | resolve platform signer =>
      cases provider with
      | unresolved =>
        obtain ⟨-, rfl⟩ := Prod.mk.inj (Option.some.inj hs)
        cases hmem
      | _ => cases hs
    | software a =>
      cases provider with
      | software p =>
        obtain ⟨⟨dir₁, p₁, es₁⟩, hstep₁, hres⟩ := Option.map_eq_some_iff.1 hs
        cases hres
        exact software_returned_taken h hstep₁ hmem
      | _ => cases hs
    | enclave a =>
      cases provider with
      | enclave p =>
        obtain ⟨r, -, hres⟩ := Option.map_eq_some_iff.1 hs
        cases hres
      | _ => cases hs
    | getSecret call₀ ensured random =>
      cases provider with
      | unresolved => cases hs
      | failing message => cases hs
      | enclave p =>
        simp only [vaultSecretStep] at hs
        split at hs <;> cases hs
      | software p =>
        simp only [vaultSecretStep] at hs
        split at hs
        · cases hs
        · cases hs
          have hc := SoftwareProvider.getSecret_returned hmem
          simp only [secretInFile, hc, Option.isNone_some, Bool.false_or] at hguard
          simp only [SecretDir.taken, hguard, Bool.true_or]
  | _ => cases hcached

/-- **Run lemma** for runs without a guard. -/
theorem Inv.of_run {ok : VaultSecretState → VaultSecretAction → Prop}
    (h : Run (vaultSecretMachine prims dir) ok tr s) : s.Inv prims :=
  h.invariant (I := fun _ s => s.Inv prims) trivial fun _ hinv _ hs =>
    (vaultSecretStep_served hinv hs).inv

/-- **Run lemma**: every secret that has been returned is served, and there is one. -/
theorem serves_of_run
    (h : Run (vaultSecretMachine prims dir) (fun s a => secretInFile s a = true) tr s) :
    (∀ call secret, .returned call (.ok secret) ∈ tr → Serves prims s secret) ∧ OneSecret tr := by
  refine h.invariant (I := fun tr s =>
    (∀ call secret, .returned call (.ok secret) ∈ tr → Serves prims s secret) ∧ OneSecret tr)
    ⟨nofun, nofun⟩ ?_
  rintro tr s a s' es hrun ⟨hserves, hone⟩ hguard hs
  have hinv := Inv.of_run hrun
  have hstep := vaultSecretStep_served hinv hs
  have hnew : ∀ call secret, .returned call (.ok secret) ∈ es →
      s'.provider.cached = some secret ∧ Serves prims s' secret := by
    intro call secret hmem
    have hcached := hstep.cached call secret hmem
    exact ⟨hcached, hstep.inv.serves hcached (returned_taken hinv hguard hs hmem)⟩
  have hall : ∀ call secret, .returned call (.ok secret) ∈ tr ++ es → Serves prims s' secret := by
    intro call secret hmem
    rcases List.mem_append.1 hmem with hold | hmem
    · exact hstep.serves secret (hserves call secret hold)
    · exact (hnew call secret hmem).2
  refine ⟨hall, ?_⟩
  intro call call' secret secret' hmem hmem'
  rcases List.mem_append.1 hmem with hold | hmem₁
  · rcases List.mem_append.1 hmem' with hold' | hmem₁'
    · exact hone call call' secret secret' hold hold'
    · exact ((hall call secret hmem).cached secret' (hnew call' secret' hmem₁').1).symm
  · -- the provider has cached what it returns
    exact (hall call' secret' hmem').cached secret (hnew call secret hmem₁).1

/-! ### A lost secret -/

theorem exists_other_secret (secret : String) : ∃ random : SecretBytes, random.hex ≠ secret := by
  have hne : SecretBytes.hex ⟨.replicate 32 0, rfl⟩ ≠ SecretBytes.hex ⟨.replicate 32 1, rfl⟩ := by
    decide
  by_cases h : SecretBytes.hex ⟨.replicate 32 0, rfl⟩ = secret
  · exact ⟨_, fun h' => hne (h.trans h'.symm)⟩
  · exact ⟨_, h⟩

/-- A process on a platform without Secure Enclave generates any secret where there is none. -/
theorem generates_fresh (prims : EnclavePrimitives) (dir : SecretDir) {dir₁ : SecretDir}
    (hnokey : dir₁.vaultKey = none) (hnopass : dir₁.vaultPassphrase = none)
    (hfresh : validateSeVaultArtifacts dir₁ = .ok .fresh)
    (random : SecretBytes) :
    ∃ s', RunFrom (vaultSecretMachine prims dir) (fun _ _ => True) ⟨dir₁, .unresolved⟩
      [.returned 0 (.ok random.hex)] s' := by
  have hresolve : (vaultSecretMachine prims dir).step ⟨dir₁, .unresolved⟩ (.resolve false false) =
      some (⟨dir₁, .software ⟨none, none, .empty⟩⟩, []) := by
    simp only [vaultSecretMachine, vaultSecretStep, resolveVaultSecretProvider, hnokey, hnopass,
      hfresh]
    rfl
  have hget : (vaultSecretMachine prims dir).step ⟨dir₁, .software ⟨none, none, .empty⟩⟩
      (.getSecret 0 true random) =
      some (⟨dir₁, .software ⟨some random.hex, some ⟨0, random.hex, false⟩, .empty⟩⟩, []) := by
    simp only [vaultSecretMachine, vaultSecretStep, SoftwareProvider.getSecret, hnokey, hnopass]
    rfl
  have hland : (vaultSecretMachine prims dir).step
      ⟨dir₁, .software ⟨some random.hex, some ⟨0, random.hex, false⟩, .empty⟩⟩ (.software .land) =
      some (⟨{ dir₁ with vaultPassphrase := some random.hex },
        .software ⟨some random.hex, some ⟨0, random.hex, true⟩, .empty⟩⟩, []) := rfl
  have hwritten : (vaultSecretMachine prims dir).step
      ⟨{ dir₁ with vaultPassphrase := some random.hex },
        .software ⟨some random.hex, some ⟨0, random.hex, true⟩, .empty⟩⟩
      (.software (.written true)) =
      some (⟨{ dir₁ with vaultPassphrase := some random.hex },
        .software ⟨some random.hex, none, .empty⟩⟩, [.returned 0 (.ok random.hex)]) := rfl
  exact ⟨_, (((RunFrom.single trivial hresolve).snoc trivial hget).snoc trivial hland).snoc trivial
    hwritten⟩

/-- Once a call is answered with a secret that is in no file, the process may end, and the next
one generate another secret. -/
theorem lost_secret (h : s.Inv prims) (hguard : ¬ secretInFile s a = true)
    (hs : vaultSecretStep prims s a = some (s', es)) :
    ∃ call call' secret secret' tr' s'', .returned call (.ok secret) ∈ es ∧
      RunFrom (vaultSecretMachine prims dir) (fun _ _ => True) s' tr' s'' ∧
      .returned call' (.ok secret') ∈ tr' ∧ secret ≠ secret' := by
  obtain ⟨dir₁, provider⟩ := s
  cases a with
  | getSecret call ensured random =>
    cases provider with
    | software p =>
      simp only [secretInFile, Bool.or_eq_true, not_or, Option.isNone_iff_eq_none,
        Option.not_isSome_iff_eq_none] at hguard
      obtain ⟨⟨hcached, hnokey⟩, hnopass⟩ := hguard
      obtain ⟨secret, hsecret⟩ := Option.ne_none_iff_exists'.1 hcached
      have hfresh : validateSeVaultArtifacts dir₁ = .ok .fresh :=
        SoftwareInv.fresh h hnokey hnopass
      obtain ⟨other, hother⟩ := exists_other_secret secret
      simp only [vaultSecretStep] at hs
      split at hs
      · cases hs
      · simp only [SoftwareProvider.getSecret, hsecret] at hs
        cases hs
        -- the process ends, and the next one generates `other`
        obtain ⟨s'', hrun⟩ :=
          generates_fresh prims dir hnokey hnopass hfresh other
        have hrestart : (vaultSecretMachine prims dir).step ⟨dir₁, .software p⟩ .restart =
            some (⟨dir₁, .unresolved⟩, []) := rfl
        exact ⟨call, 0, secret, other.hex, _, s'', List.mem_singleton_self _,
          (RunFrom.single trivial hrestart).trans hrun, List.mem_singleton_self _, hother.symm⟩
    | _ => exact absurd rfl hguard
  | _ => exact absurd rfl hguard

end

/-- **The vault secret**: in every run in which no call is answered from the cache of a software
provider whose secret is in no file, all secrets that are returned are one. Every run with such
an answer goes on to return another secret. -/
theorem vault_secret_constant (prims : EnclavePrimitives) (dir : SecretDir) :
    (∀ {tr s}, Run (vaultSecretMachine prims dir) (fun s a => secretInFile s a = true) tr s →
      OneSecret tr) ∧
    (∀ {tr s a s' es}, Run (vaultSecretMachine prims dir) (fun _ _ => True) tr s →
      (vaultSecretMachine prims dir).step s a = some (s', es) → ¬ secretInFile s a = true →
      ∃ tr' s'', RunFrom (vaultSecretMachine prims dir) (fun _ _ => True) s' tr' s'' ∧
        ¬ OneSecret (tr ++ es ++ tr')) := by
  refine ⟨fun hrun => (serves_of_run hrun).2, ?_⟩
  intro tr s a s' es hrun hs hguard
  obtain ⟨call, call', secret, secret', tr', s'', hmem, hrun', hmem', hne⟩ :=
    @lost_secret prims dir s s' a es (Inv.of_run hrun) hguard hs
  refine ⟨tr', s'', hrun', fun hone => hne ?_⟩
  have hfirst : .returned call (.ok secret) ∈ tr ++ es ++ tr' :=
    List.mem_append_left tr' (List.mem_append_right tr hmem)
  have hsecond : .returned call' (.ok secret') ∈ tr ++ es ++ tr' :=
    List.mem_append_right (tr ++ es) hmem'
  exact hone call call' secret secret' hfirst hsecond

/-! ### A recorded enclave -/

namespace RecordedEnclave

/-- A data directory before its first use. -/
def dir : SecretDir := ⟨none, none, none, none, none⟩

def keyRef : String := "dGVzdC12YXVsdC1rZXk="

def publicKey : String :=
  "042ad0824ed4e310e2f0cc9062090931bb95f6f7d3ae3dbe2ecb1bb5b79d4adb50" ++
    "1b90926aa0dd8a2d439034c8d005c663b2731ea7913a96f5cbd09ab055b21ab1"

def secret : SecretBytes := ⟨.replicate 32 0xaa, rfl⟩

/-- The ephemeral private key, and the nonce. -/
def drawn : Bytes :=
  [131, 65, 66, 92, 175, 237, 233, 210, 75, 5, 153, 174, 253, 253, 239, 241, 193, 82, 110, 215,
    91, 7, 33, 126, 185, 155, 248, 192, 183, 73, 139, 129] ++
  [120, 55, 123, 82, 87, 87, 180, 148, 66, 127, 137, 1]

/-- The secret, encrypted under the public key. -/
def box : SealedBox where
  ephemeralPublicKey :=
    "049a781ca6d055a7f30d0c9ff87936c739f6816ef5f5e72b4b946404b0a1a83b2a" ++
      "c19f842945ea2bf65aa1649b2b02ff79854c8d5ecfcd403862e8a97ea66c71c1"
  nonce := "78377b525757b494427f8901"
  ciphertext := "fadb14625d331c9c9504cc280035d17b2f55d4aeaed3a3e76b2340b541c665d5"
  tag := "5917072426d0e441375f825523c3d419"

def boxText : String :=
  "\x7b\n  \"ephemeralPublicKey\": \"" ++ box.ephemeralPublicKey ++ "\",\n  \"nonce\": \"" ++
    box.nonce ++ "\",\n  \"ciphertext\": \"" ++ box.ciphertext ++ "\",\n  \"tag\": \"" ++
    box.tag ++ "\"\n\x7d"

/-- The enclave by its recorded values. -/
def prims : EnclavePrimitives where
  publicKey ref := if ref = keyRef then publicKey else ""
  seEncrypt drawn' publicKey' plaintext :=
    if drawn' = drawn ∧ publicKey' = publicKey ∧ plaintext = secret.1 then some box else none
  seDecrypt ref box' := if ref = keyRef ∧ box' = box then some secret.hex else none
  boxText _ := boxText
  parseBox text := if text = boxText then some box else none
  parse_text := by
    intro drawn' publicKey' plaintext box' hbox
    obtain ⟨-, hsome⟩ := Option.ite_none_right_eq_some.1 hbox
    rw [if_pos rfl]
    exact hsome
  decrypt_encrypt := by
    intro ref drawn' plaintext box' hbox
    obtain ⟨⟨-, hkey, rfl⟩, hsome⟩ := Option.ite_none_right_eq_some.1 hbox
    have hboth : ref = keyRef ∧ box' = box := by
      refine ⟨?_, (Option.some.inj hsome).symm⟩
      -- another reference has another public key
      by_contra href
      rw [if_neg href] at hkey
      exact absurd hkey (by decide)
    rw [if_pos hboth]
    rfl

/-- A process generates the secret for two calls, and the next one decrypts it. -/
def generated : List VaultSecretAction :=
  [.resolve true true, .getSecret 0 true secret, .getSecret 1 true secret,
    .enclave (.created (some keyRef)), .enclave .land, .enclave (.keyRefWritten true),
    .enclave .land, .enclave (.publicKeyWritten true secret drawn), .enclave .land,
    .enclave (.sealedBoxWritten true), .enclave (.resume 1), .enclave (.resume 0), .restart,
    .resolve false true, .getSecret 2 true secret, .enclave (.keyRefRead true),
    .enclave (.sealedBoxRead true), .enclave (.decrypted true), .enclave (.resume 2)]

def first : SecretBytes := ⟨.replicate 32 0, rfl⟩

def second : SecretBytes := ⟨.replicate 32 1, rfl⟩

/-- The write of `vault-passphrase` fails, the next call is answered from the cache, and the next
process generates another secret. -/
def lost : List VaultSecretAction :=
  [.resolve false false, .getSecret 0 true first, .software (.written false),
    .getSecret 1 true first, .restart, .resolve false false, .getSecret 2 true second,
    .software .land, .software (.written true)]

end RecordedEnclave

open RecordedEnclave in
/-- All calls return the secret of the enclave. -/
theorem vault_secret_constant_recorded : ∃ tr s,
    Run (vaultSecretMachine prims dir) (fun s a => secretInFile s a = true) tr s ∧
    tr = [.returned 1 (.ok secret.hex), .returned 0 (.ok secret.hex),
      .returned 2 (.ok secret.hex)] ∧ OneSecret tr := by
  have hrun : ∃ s, Run (vaultSecretMachine prims dir) (fun s a => secretInFile s a = true)
      [.returned 1 (.ok secret.hex), .returned 0 (.ok secret.hex), .returned 2 (.ok secret.hex)]
      s :=
    exists_run_of_execFrom generated (by decide +kernel)
  obtain ⟨s, hrun⟩ := hrun
  exact ⟨_, s, hrun, rfl, (vault_secret_constant prims dir).1 hrun⟩

open RecordedEnclave in
/-- A process returns a secret that it could not write, and the next process another one. -/
theorem unwritten_secret_returned : ¬ ∀ (prims : EnclavePrimitives) (dir : SecretDir)
    (tr : List VaultSecretEvent) (s : VaultSecretState),
    Run (vaultSecretMachine prims dir) (fun _ _ => True) tr s → OneSecret tr := by
  intro hclaim
  have hrun : ∃ s, Run (vaultSecretMachine prims dir) (fun _ _ => true = true)
      [.returned 0 softwareFailed, .returned 1 (.ok first.hex), .returned 2 (.ok second.hex)] s :=
    exists_run_of_execFrom lost (by decide +kernel)
  obtain ⟨s, hrun⟩ := hrun
  have hfirst : VaultSecretEvent.returned 1 (.ok first.hex) ∈
      [.returned 0 softwareFailed, .returned 1 (.ok first.hex), .returned 2 (.ok second.hex)] :=
    List.mem_cons_of_mem _ List.mem_cons_self
  have hsecond : VaultSecretEvent.returned 2 (.ok second.hex) ∈
      [.returned 0 softwareFailed, .returned 1 (.ok first.hex), .returned 2 (.ok second.hex)] :=
    List.mem_cons_of_mem _ (List.mem_cons_of_mem _ List.mem_cons_self)
  have heq := hclaim prims dir _ s (hrun.mono fun _ _ _ => trivial) 1 2 _ _ hfirst hsecond
  exact absurd heq (by decide)

end Signet
