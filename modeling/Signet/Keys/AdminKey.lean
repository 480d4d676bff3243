import Signet.Keys.SecretStore
import Signet.Lib.Except
import Signet.Lib.Utf8

/-!
# The admin key

`admin.create` and `initialize` of `createKeyManager` (`key-manager-compat.ts`): the
admin's key pair in memory and its two entries in the compat secret store. Whatever may
fail is an answer of the environment: the gate, the key generation, the exports, and each
call of the vault. A vault write that fails may leave the entry as it was, may have
reached it all the same, or may leave it unreadable.

The entries are those of `secretMachine` while no other call is under way
(`VaultEntry.set_run`, `VaultEntry.get_run`).

The pair is put in memory before it is written, so a vault write that fails leaves a
process that has an admin key after a `create` that returned an error, and possibly one
entry without the other. `create_atomic_iff` says that nothing else does.
-/

namespace Signet

open Lib

/-! ### One entry of the secret store -/

/-- An entry: what the vault holds, whether it can be read, and what the legacy directory holds. -/
structure VaultEntry where
  vault : Option Bytes
  torn : Bool
  legacy : Option Bytes
  deriving DecidableEq

/-- Where a write of the vault that fails has got to. -/
inductive FailedWrite where
  | untouched
  | torn
  | landed
  deriving DecidableEq

/-- A write of the vault; `removed`: the legacy entry is unlinked after it. -/
inductive SetOutcome where
  | stored (removed : Bool)
  | failed (left : FailedWrite)
  deriving DecidableEq

/-- A read: of the vault's file, of the legacy file, and the write that moves a legacy entry. -/
structure GetOutcome where
  readable : Bool
  legacyReadable : Bool
  migration : SetOutcome

namespace VaultEntry

def set (entry : VaultEntry) (value : Bytes) : SetOutcome → Result Unit × VaultEntry
  | .stored removed => (.ok (), ⟨some value, false, if removed then none else entry.legacy⟩)
  | .failed left =>
    (.error (.internalError "Failed to store vault secret"),
      match left with
      | .untouched => entry
      | .torn => { entry with torn := true }
      | .landed => { entry with vault := some value, torn := false })

def get (entry : VaultEntry) (key : String) (outcome : GetOutcome) : Result Bytes × VaultEntry :=
  if entry.torn || entry.vault.isSome then
    match outcome.readable, entry.torn, entry.vault with
    | true, false, some value => (.ok value, entry)
    | _, _, _ => (.error (.internalError "Failed to read vault secret"), entry)
  else
    match entry.legacy, outcome.legacyReadable with
    | none, _ => (.error (.notFoundError "kv-entry" key), entry)
    | some _, false =>
      (.error (.internalError "Failed to read legacy compat vault entry"), entry)
    | some value, true =>
      let (migrated, entry) := entry.set value outcome.migration
      (migrated.map fun _ => value, entry)

end VaultEntry

/-! ### The key manager -/

/-- Ed25519 by WebCrypto and what else the key manager is given; a private key stands for its
pair. -/
structure AdminKeyDeps (κ : Type) where
  /-- `exportPublicKey` of the pair. -/
  publicKey : κ → Bytes
  /-- `exportPrivateKey`. -/
  pkcs8 : κ → Bytes
  /-- `importEd25519PrivateKey`. -/
  importPkcs8 : Bytes → Option κ
  import_pkcs8 : ∀ key, importPkcs8 (pkcs8 key) = some key
  /-- `fingerprintBytes(hexToBytes(hex))`. -/
  fingerprint : String → String
  rootKeyPolicy : String
  platform : String

structure RootKeyHandle where
  keyRef : String
  publicKey : String
  policy : String
  platform : String
  createdAt : String
  deriving DecidableEq

structure AdminKeyInfo where
  publicKey : String
  fingerprint : String
  deriving DecidableEq

/-- The key manager of a process, with the entries `admin-key` and `admin-key-pub`. -/
structure AdminKeyState (κ : Type) where
  adminPublicKeyHex : Option String
  adminPrivateKey : Option κ
  rootKeyHandle : Option RootKeyHandle
  privateEntry : VaultEntry
  publicEntry : VaultEntry

/-- How the steps of `create` end. -/
structure CreateAnswers (κ : Type) where
  gate : Result Unit
  generated : Result κ
  exportPublic : Result Unit
  exportPrivate : Result Unit
  setPrivate : SetOutcome
  setPublic : SetOutcome

/-- How the steps of `initialize` end. -/
structure InitializeAnswers where
  readPublic : GetOutcome
  readPrivate : GetOutcome
  now : String

variable {κ : Type} (deps : AdminKeyDeps κ)

/-- The pair that is generated and exported before anything is kept of it. -/
def CreateAnswers.prepare (answers : CreateAnswers κ) : Result κ := do
  answers.gate
  let pair ← answers.generated
  answers.exportPublic
  answers.exportPrivate
  .ok pair

/-- `toHex(publicKeyResult.value)`. -/
def AdminKeyDeps.publicKeyHex (pair : κ) : String :=
  bytesToHex (deps.publicKey pair)

namespace AdminKeyState

/-- A process over the entries that it finds. -/
def start (privateEntry publicEntry : VaultEntry) : AdminKeyState κ :=
  ⟨none, none, none, privateEntry, publicEntry⟩

def adminExists (s : AdminKeyState κ) : Bool :=
  s.adminPublicKeyHex.isSome

/-- `readAdminInfo`, which is `admin.get`. -/
def readAdminInfo (s : AdminKeyState κ) : Result AdminKeyInfo :=
  match s.adminPublicKeyHex with
  | none => .error (.notFoundError "admin-key" "admin")
  | some hex => .ok ⟨hex, deps.fingerprint hex⟩

/-- The rest of `create`: the pair is kept, then written. -/
def persist (s : AdminKeyState κ) (pair : κ) (setPrivate setPublic : SetOutcome) :
    Result AdminKeyInfo × AdminKeyState κ :=
  let (privateSet, privateEntry) := s.privateEntry.set (deps.pkcs8 pair) setPrivate
  let s := { s with
    adminPublicKeyHex := some (deps.publicKeyHex pair)
    adminPrivateKey := some pair
    privateEntry := privateEntry }
  match privateSet with
  | .error e => (.error e, s)
  | .ok () =>
    let (publicSet, publicEntry) :=
      s.publicEntry.set (encodeUtf8 (deps.publicKeyHex pair).toList) setPublic
    let s := { s with publicEntry := publicEntry }
    match publicSet with
    | .error e => (.error e, s)
    | .ok () =>
      ((s.readAdminInfo deps).mapError fun _ =>
        .internalError "Failed to read created admin key metadata", s)

/-- `admin.create`. -/
def create (s : AdminKeyState κ) (answers : CreateAnswers κ) :
    Result AdminKeyInfo × AdminKeyState κ :=
  if s.adminPublicKeyHex.isSome then (.error (.internalError "Admin key already exists"), s)
  else match answers.prepare with
  | .error e => (.error e, s)
  | .ok pair => s.persist deps pair answers.setPrivate answers.setPublic

/-- The end of `initialize`. -/
def openRoot (s : AdminKeyState κ) (now : String) : Result RootKeyHandle × AdminKeyState κ :=
  let handle := ⟨"root-compat", s.adminPublicKeyHex.getD "compat-root", deps.rootKeyPolicy,
    deps.platform, now⟩
  (.ok handle, { s with rootKeyHandle := some handle })

/-- `initialize`. -/
def initializeManager (s : AdminKeyState κ) (answers : InitializeAnswers) :
    Result RootKeyHandle × AdminKeyState κ :=
  match s.rootKeyHandle with
  | some handle => (.ok handle, s)
  | none =>
    let (existingPublic, publicEntry) := s.publicEntry.get "admin-key-pub" answers.readPublic
    let (existingPrivate, privateEntry) := s.privateEntry.get "admin-key" answers.readPrivate
    let s := { s with
      -- an entry that cannot be read counts as none
      adminPublicKeyHex := match existingPublic with
        | .ok bytes => some (String.ofList (textDecode bytes))
        | .error _ => s.adminPublicKeyHex
      publicEntry := publicEntry
      privateEntry := privateEntry }
    match existingPrivate with
    | .error _ => s.openRoot deps answers.now
    | .ok bytes =>
      match deps.importPkcs8 bytes with
      | none => (.error (.internalError "Failed to import Ed25519 private key"), s)
      | some key => { s with adminPrivateKey := some key }.openRoot deps answers.now

/-- The process ends and another one starts. -/
def restart (s : AdminKeyState κ) : AdminKeyState κ :=
  start s.privateEntry s.publicEntry

end AdminKeyState

/-- What happens to the key manager. -/
inductive AdminKeyAction (κ : Type) where
  | initializeManager (answers : InitializeAnswers)
  | create (answers : CreateAnswers κ)
  | restart

/-- What its callers get. -/
inductive AdminKeyEvent where
  | initialized (result : Result RootKeyHandle)
  | created (result : Result AdminKeyInfo)

/-- **The key manager**, process after process over the same entries. -/
def adminKeyMachine (privateEntry publicEntry : VaultEntry) :
    Machine (AdminKeyState κ) (AdminKeyAction κ) AdminKeyEvent where
  init := .start privateEntry publicEntry
  step s
    | .initializeManager answers =>
      let (result, s) := s.initializeManager deps answers
      some (s, [.initialized result])
    | .create answers =>
      let (result, s) := s.create deps answers
      some (s, [.created result])
    | .restart => some (s.restart, [])

/-! ### Entries by themselves -/

namespace SetOutcome

/-- The write goes through. -/
def GoesThrough : SetOutcome → Prop
  | .stored _ => True
  | .failed _ => False

end SetOutcome

/-- The read goes through, as far as there is something to read. -/
structure GetOutcome.GoesThrough (outcome : GetOutcome) : Prop where
  readable : outcome.readable = true
  legacyReadable : outcome.legacyReadable = true
  migration : outcome.migration.GoesThrough

namespace VaultEntry

variable {entry : VaultEntry} {value : Bytes} {key : String}

/-- What a reader of the entry finds. -/
def content (entry : VaultEntry) : Option Bytes :=
  entry.vault.or entry.legacy

/-- The entry can be read and holds the value, or nothing. -/
structure Holds (entry : VaultEntry) (value : Option Bytes) : Prop where
  whole : entry.torn = false
  content : entry.content = value

/-- A write that goes through is what is read from then on. -/
theorem holds_set {outcome : SetOutcome} (h : outcome.GoesThrough) :
    (entry.set value outcome).2.Holds (some value) := by
  cases outcome with
  | stored removed => exact ⟨rfl, rfl⟩
  | failed left => exact h.elim

/-- **A read that goes through** finds what the entry holds, and leaves it that way. -/
theorem get_of_holds {outcome : GetOutcome} {held : Option Bytes} (h : entry.Holds held)
    (hthrough : outcome.GoesThrough) :
    (entry.get key outcome).1 = (match held with
      | some value => .ok value
      | none => .error (.notFoundError "kv-entry" key)) ∧
    (entry.get key outcome).2.Holds held := by
  obtain ⟨vault, torn, legacy⟩ := entry
  obtain ⟨readable, legacyReadable, migration⟩ := outcome
  obtain ⟨hreadable, hlegacy, hmigration⟩ := hthrough
  obtain ⟨hwhole, hcontent⟩ := h
  dsimp only at hreadable hlegacy hmigration hwhole
  subst hreadable hlegacy hwhole
  cases vault with
  | some value =>
    obtain rfl : some value = held := hcontent
    exact ⟨rfl, rfl, rfl⟩
  | none =>
    cases legacy with
    | none =>
      obtain rfl : none = held := hcontent
      exact ⟨rfl, rfl, rfl⟩
    | some value =>
      -- the legacy entry is moved to the vault
      obtain rfl : some value = held := hcontent
      cases migration with
      | stored removed => exact ⟨rfl, rfl, rfl⟩
      | failed left => exact hmigration.elim

end VaultEntry

/-! ### Against the machine of the secret store -/

section Machine

variable (key : String) (vault legacy : Option Bytes)

/-- The state of the secret store while no call is under way. -/
def VaultEntry.state (entry : VaultEntry) (now : Nat) : SecretState :=
  ⟨entry.vault, entry.torn, entry.legacy, now, .empty⟩

/-- What the secret store has in its two places. -/
def SecretState.entry (s : SecretState) : VaultEntry :=
  ⟨s.vault, s.torn, s.legacy⟩

/-- The actions of a write. -/
def SetOutcome.actions (now : Nat) (value : Bytes) : SetOutcome → List SecretAction
  | .stored removed => [.set value, .land now, .written now true removed]
  | .failed .untouched => [.set value, .written now false false]
  | .failed .torn => [.set value, .tear now, .written now false false]
  | .failed .landed => [.set value, .land now, .written now false false]

/-- What a write returns. -/
def SecretEvent.written? : SecretEvent → Option (Result Unit)
  | .writeReturned _ _ result => some result
  | _ => none

/-- What a read returns. -/
def SecretEvent.read? : SecretEvent → Option (Result Bytes)
  | .getReturned _ _ result => some result
  | _ => none

attribute [local simp] Machine.execFrom secretMachine secretStep VaultEntry.state SecretState.await
  SecretState.finish SecretState.write SecretState.removeLegacy SecretState.fileExists in
/-- **A write by itself** is a run of the secret store. -/
theorem VaultEntry.set_run (entry : VaultEntry) (value : Bytes) (outcome : SetOutcome) (now : Nat) :
    ((secretMachine key vault legacy).execFrom (fun _ _ => true) [] (entry.state now)
        (outcome.actions now value)).map
          (fun r => (r.1.filterMap SecretEvent.written?, r.2.entry)) =
      some ([(entry.set value outcome).1], (entry.set value outcome).2) := by
  cases outcome with
  | stored removed =>
    simp [SetOutcome.actions]
    exact ⟨rfl, rfl⟩
  | failed left =>
    cases left with
    | untouched =>
      simp [SetOutcome.actions]
      exact ⟨rfl, rfl⟩
    | torn =>
      simp [SetOutcome.actions]
      exact ⟨rfl, rfl⟩
    | landed =>
      simp [SetOutcome.actions]
      exact ⟨rfl, rfl⟩

/-- The actions of a read. -/
def VaultEntry.getActions (entry : VaultEntry) (now : Nat) (outcome : GetOutcome) :
    List SecretAction :=
  if entry.torn || entry.vault.isSome then
    if outcome.readable && !entry.torn then [.get, .read now true, .resume now]
    else [.get, .read now false]
  else match entry.legacy, outcome.legacyReadable with
  | none, _ => [.get, .readLegacy now true]
  | some _, false => [.get, .readLegacy now false]
  | some value, true =>
    [.get, .readLegacy now true] ++ (outcome.migration.actions now value).tail

attribute [local simp] Machine.execFrom secretMachine secretStep VaultEntry.state SecretState.await
  SecretState.finish SecretState.write SecretState.removeLegacy SecretState.fileExists in
/-- **A read by itself** is a run of the secret store. -/
theorem VaultEntry.get_run (entry : VaultEntry) (outcome : GetOutcome) (now : Nat) :
    ((secretMachine key vault legacy).execFrom (fun _ _ => true) [] (entry.state now)
        (entry.getActions now outcome)).map
          (fun r => (r.1.filterMap SecretEvent.read?, r.2.entry)) =
      some ([(entry.get key outcome).1], (entry.get key outcome).2) := by
  obtain ⟨vault', torn, legacy'⟩ := entry
  obtain ⟨readable, legacyReadable, migration⟩ := outcome
  cases torn with
  | true =>
    simp [VaultEntry.getActions]
    cases readable <;> exact ⟨rfl, rfl⟩
  | false =>
    cases vault' with
    | some value =>
      cases readable with
      | true =>
        simp [VaultEntry.getActions]
        exact ⟨rfl, rfl⟩
      | false =>
        simp [VaultEntry.getActions]
        exact ⟨rfl, rfl⟩
    | none =>
      cases legacy' with
      | none =>
        simp [VaultEntry.getActions]
        exact ⟨rfl, rfl⟩
      | some value =>
        cases legacyReadable with
        | false =>
          simp [VaultEntry.getActions]
          exact ⟨rfl, rfl⟩
        | true =>
          -- the legacy value is written to the vault
          cases migration with
          | stored removed =>
            simp [VaultEntry.getActions, SetOutcome.actions]
            exact ⟨rfl, rfl⟩
          | failed left =>
            cases left with
            | untouched =>
              simp [VaultEntry.getActions, SetOutcome.actions]
              exact ⟨rfl, rfl⟩
            | torn =>
              simp [VaultEntry.getActions, SetOutcome.actions]
              exact ⟨rfl, rfl⟩
            | landed =>
              simp [VaultEntry.getActions, SetOutcome.actions]
              exact ⟨rfl, rfl⟩

end Machine

/-! ### What is kept -/

namespace AdminKeyState

variable {deps} {s s' : AdminKeyState κ} {answers : CreateAnswers κ}

/-- The entries hold no key, or the two halves of one. -/
def Paired (deps : AdminKeyDeps κ) (s : AdminKeyState κ) : Prop :=
  (s.privateEntry.Holds none ∧ s.publicEntry.Holds none) ∨
    ∃ pair, s.privateEntry.Holds (some (deps.pkcs8 pair)) ∧
      s.publicEntry.Holds (some (encodeUtf8 (deps.publicKeyHex pair).toList))

/-- No admin key is loaded, or the two halves of one. -/
def Loaded (deps : AdminKeyDeps κ) (s : AdminKeyState κ) : Prop :=
  (s.adminPublicKeyHex = none ∧ s.adminPrivateKey = none) ∨
    ∃ pair, s.adminPublicKeyHex = some (deps.publicKeyHex pair) ∧ s.adminPrivateKey = some pair

/-- The first digit of a key in hex is no byte order mark. -/
theorem head_publicKeyHex (pair : κ) :
    (deps.publicKeyHex pair).toList.head? ≠ some byteOrderMark := by
  unfold AdminKeyDeps.publicKeyHex bytesToHex
  rw [String.toList_ofList]
  cases deps.publicKey pair with
  | nil => exact nofun
  | cons b bytes =>
    have hdigit : b.toNat / 16 < 16 := by
      have := b.toNat_lt
      omega
    have hmark : ∀ n < 16, Char.ofNat (if n < 10 then 0x30 + n else 0x61 + (n - 10)) ≠
        byteOrderMark := by
      decide
    intro hhead
    exact hmark _ hdigit (Option.some.inj hhead)

theorem textDecode_publicKeyHex (pair : κ) :
    String.ofList (textDecode (encodeUtf8 (deps.publicKeyHex pair).toList)) =
      deps.publicKeyHex pair := by
  rw [textDecode_encode_of_head (head_publicKeyHex pair)]
  exact String.ofList_toList

end AdminKeyState

/-- The reads of `initialize` go through. -/
structure InitializeAnswers.GoThrough (answers : InitializeAnswers) : Prop where
  readPublic : answers.readPublic.GoesThrough
  readPrivate : answers.readPrivate.GoesThrough

/-- No vault write of `create` fails: if it gets to them, both go through. -/
def CreateAnswers.WritesGoThrough (answers : CreateAnswers κ) : Prop :=
  ∀ pair, answers.prepare = .ok pair →
    answers.setPrivate.GoesThrough ∧ answers.setPublic.GoesThrough

/-- Every step of `create` goes through. -/
def CreateAnswers.GoThrough (answers : CreateAnswers κ) : Prop :=
  answers.WritesGoThrough ∧ ∃ pair, answers.prepare = .ok pair

/-- No call of the vault fails. -/
def AdminKeyAction.VaultGoesThrough : AdminKeyAction κ → Prop
  | .initializeManager answers => answers.GoThrough
  | .create answers => answers.WritesGoThrough
  | .restart => True

namespace AdminKeyState

variable {deps} {s s' : AdminKeyState κ} {answers : CreateAnswers κ}

/-- **An error of `create` is atomic**: no admin key is there, a later `create` can succeed, and the
next process loads no key or a pair. -/
structure Unchanged (deps : AdminKeyDeps κ) (s : AdminKeyState κ) : Prop where
  absent : s.adminExists = false
  unreadable : ∃ e, s.readAdminInfo deps = .error e
  retry : ∀ later : CreateAnswers κ, later.GoThrough → ∃ info, (s.create deps later).1 = .ok info
  reload : ∀ answers : InitializeAnswers, answers.GoThrough →
    (∃ handle, (s.restart.initializeManager deps answers).1 = .ok handle) ∧
      (s.restart.initializeManager deps answers).2.Loaded deps

/-- If `create` returns an error, it has changed nothing. -/
def CreatesAtomically (deps : AdminKeyDeps κ) (s : AdminKeyState κ) (answers : CreateAnswers κ) :
    Prop :=
  ∀ e, (s.create deps answers).1 = .error e → (s.create deps answers).2.Unchanged deps

theorem create_of_prepare (hnone : s.adminExists = false) {pair : κ}
    (hprepare : answers.prepare = .ok pair) :
    s.create deps answers = s.persist deps pair answers.setPrivate answers.setPublic := by
  unfold create
  rw [if_neg (by rw [adminExists] at hnone; rw [hnone]; exact Bool.false_ne_true), hprepare]

theorem create_of_prepare_error (hnone : s.adminExists = false) {e : SignetError}
    (hprepare : answers.prepare = .error e) : s.create deps answers = (.error e, s) := by
  unfold create
  rw [if_neg (by rw [adminExists] at hnone; rw [hnone]; exact Bool.false_ne_true), hprepare]

/-- Whatever becomes of the writes, the pair is in memory before them. -/
theorem adminExists_persist (pair : κ) (setPrivate setPublic : SetOutcome) :
    (s.persist deps pair setPrivate setPublic).2.adminExists = true := by
  cases setPrivate with
  | failed left => rfl
  | stored removed =>
    cases setPublic with
    | failed left => rfl
    | stored removed => rfl

variable (deps s) in
theorem persist_fst (pair : κ) (setPrivate setPublic : SetOutcome) :
    (∃ info, (s.persist deps pair setPrivate setPublic).1 = .ok info) ↔
      setPrivate.GoesThrough ∧ setPublic.GoesThrough := by
  cases setPrivate with
  | failed left => exact iff_of_false (fun ⟨_, h⟩ => nomatch h) fun h => h.1
  | stored removed =>
    cases setPublic with
    | failed left => exact iff_of_false (fun ⟨_, h⟩ => nomatch h) fun h => h.2
    | stored removed => exact iff_of_true ⟨_, rfl⟩ ⟨trivial, trivial⟩

theorem paired_persist {pair : κ} {setPrivate setPublic : SetOutcome}
    (hprivate : setPrivate.GoesThrough) (hpublic : setPublic.GoesThrough) :
    (s.persist deps pair setPrivate setPublic).2.Paired deps := by
  cases setPrivate with
  | failed left => exact hprivate.elim
  | stored removed =>
    cases setPublic with
    | failed left => exact hpublic.elim
    | stored removed' =>
      exact .inr ⟨pair, @VaultEntry.holds_set _ _ (.stored removed) trivial,
        @VaultEntry.holds_set _ _ (.stored removed') trivial⟩

theorem entries_initializeManager (hroot : s.rootKeyHandle = none) (answers : InitializeAnswers) :
    (s.initializeManager deps answers).2.privateEntry =
        (s.privateEntry.get "admin-key" answers.readPrivate).2 ∧
      (s.initializeManager deps answers).2.publicEntry =
        (s.publicEntry.get "admin-key-pub" answers.readPublic).2 := by
  unfold initializeManager
  rw [hroot]
  dsimp only
  cases (s.privateEntry.get "admin-key" answers.readPrivate).1 with
  | error e => exact ⟨rfl, rfl⟩
  | ok bytes =>
    dsimp only
    cases deps.importPkcs8 bytes with
    | none => exact ⟨rfl, rfl⟩
    | some key => exact ⟨rfl, rfl⟩

theorem paired_initializeManager (h : s.Paired deps) {answers : InitializeAnswers}
    (hthrough : answers.GoThrough) : (s.initializeManager deps answers).2.Paired deps := by
  cases hroot : s.rootKeyHandle with
  | some handle =>
    have hsame : s.initializeManager deps answers = (.ok handle, s) := by
      unfold initializeManager
      rw [hroot]
    rw [hsame]
    exact h
  | none =>
    obtain ⟨hprivate, hpublic⟩ := entries_initializeManager hroot answers
    unfold Paired
    rw [hprivate, hpublic]
    rcases h with ⟨hnone, hnone'⟩ | ⟨pair, hkey, hkey'⟩
    · exact .inl ⟨(VaultEntry.get_of_holds hnone hthrough.readPrivate).2,
        (VaultEntry.get_of_holds hnone' hthrough.readPublic).2⟩
    · exact .inr ⟨pair, (VaultEntry.get_of_holds hkey hthrough.readPrivate).2,
        (VaultEntry.get_of_holds hkey' hthrough.readPublic).2⟩

/-- **Loading.** Over entries that hold no key or a pair, a new process loads just that. -/
theorem loaded_of_paired (h : s.Paired deps) {answers : InitializeAnswers}
    (hthrough : answers.GoThrough) :
    (∃ handle, (s.restart.initializeManager deps answers).1 = .ok handle) ∧
      (s.restart.initializeManager deps answers).2.Loaded deps := by
  rcases h with ⟨hnone, hnone'⟩ | ⟨pair, hkey, hkey'⟩
  · have hprivate := (@VaultEntry.get_of_holds _ "admin-key" _ _ hnone hthrough.readPrivate).1
    have hpublic := (@VaultEntry.get_of_holds _ "admin-key-pub" _ _ hnone' hthrough.readPublic).1
    simp only [initializeManager, restart, start, hprivate, hpublic, openRoot]
    exact ⟨⟨_, rfl⟩, .inl ⟨rfl, rfl⟩⟩
  · have hprivate := (@VaultEntry.get_of_holds _ "admin-key" _ _ hkey hthrough.readPrivate).1
    have hpublic := (@VaultEntry.get_of_holds _ "admin-key-pub" _ _ hkey' hthrough.readPublic).1
    simp only [initializeManager, restart, start, hprivate, hpublic, openRoot, deps.import_pkcs8,
      textDecode_publicKeyHex]
    exact ⟨⟨_, rfl⟩, .inr ⟨pair, rfl, rfl⟩⟩

/-- **A step without a failing vault call** leaves the entries a pair. -/
theorem paired_step {a : AdminKeyAction κ} {es : List AdminKeyEvent}
    {privateEntry publicEntry : VaultEntry} (h : s.Paired deps) (hthrough : a.VaultGoesThrough)
    (hstep : (adminKeyMachine deps privateEntry publicEntry).step s a = some (s', es)) :
    s'.Paired deps := by
  cases a with
  | initializeManager answers =>
    obtain ⟨rfl, -⟩ := Prod.mk.inj (Option.some.inj hstep)
    exact paired_initializeManager h hthrough
  | restart =>
    obtain ⟨rfl, -⟩ := Prod.mk.inj (Option.some.inj hstep)
    exact h
  | create answers =>
    have hcreate : (s.create deps answers).2 = s' := (Prod.mk.inj (Option.some.inj hstep)).1
    rw [← hcreate]
    cases hexists : s.adminExists with
    | true =>
      have hsame : s.create deps answers =
          (.error (.internalError "Admin key already exists"), s) := if_pos hexists
      rw [hsame]
      exact h
    | false =>
      cases hprepare : answers.prepare with
      | error e =>
        rw [create_of_prepare_error hexists hprepare]
        exact h
      | ok pair =>
        rw [create_of_prepare hexists hprepare]
        exact paired_persist (hthrough pair hprepare).1 (hthrough pair hprepare).2

/-- **When `create` is atomic.** In every run whose vault calls go through, over entries that hold
no key or a pair: as long as there is no admin key, a `create` changes nothing when it returns an
error exactly if none of its vault writes fails. -/
theorem create_atomic_iff {privateEntry publicEntry : VaultEntry}
    (hpaired : (start privateEntry publicEntry : AdminKeyState κ).Paired deps)
    {tr : List AdminKeyEvent}
    (hrun : Run (adminKeyMachine deps privateEntry publicEntry)
      (fun _ a => a.VaultGoesThrough) tr s)
    (habsent : s.adminExists = false) (answers : CreateAnswers κ) :
    s.CreatesAtomically deps answers ↔ answers.WritesGoThrough := by
  have hpairs : s.Paired deps :=
    hrun.invariant (I := fun _ s => s.Paired deps) hpaired
      fun _ hpairs hthrough hstep => paired_step hpairs hthrough hstep
  constructor
  · intro hatomic pair hprepare
    rw [CreatesAtomically, create_of_prepare habsent hprepare] at hatomic
    -- an error after the pair was generated finds it in memory
    refine (persist_fst deps s pair answers.setPrivate answers.setPublic).1 ?_
    cases hresult : (s.persist deps pair answers.setPrivate answers.setPublic).1 with
    | ok info => exact ⟨info, rfl⟩
    | error e =>
      have hgone := (hatomic e hresult).absent
      rw [adminExists_persist] at hgone
      cases hgone
  · intro hwrites e herror
    cases hprepare : answers.prepare with
    | ok pair =>
      obtain ⟨info, hinfo⟩ := (persist_fst deps s pair answers.setPrivate answers.setPublic).2
        (hwrites pair hprepare)
      rw [create_of_prepare habsent hprepare, hinfo] at herror
      cases herror
    | error e' =>
      rw [create_of_prepare_error habsent hprepare]
      have hnone : s.adminPublicKeyHex = none := Option.isSome_eq_false_iff.1 habsent |>
        Option.isNone_iff_eq_none.1
      refine ⟨habsent, ⟨_, by rw [readAdminInfo, hnone]⟩, ?_, ?_⟩
      · rintro later ⟨hlater, pair, hpair⟩
        rw [create_of_prepare habsent hpair]
        exact (persist_fst deps s pair later.setPrivate later.setPublic).2 (hlater pair hpair)
      · exact fun answers hthrough => loaded_of_paired hpairs hthrough

end AdminKeyState

/-! ### A key manager on an empty disk -/

/-- A key repeats one byte, as often as Ed25519 and PKCS#8 have bytes. -/
def adminKeyExample : AdminKeyDeps UInt8 where
  publicKey key := List.replicate 32 key
  pkcs8 key := List.replicate 48 key
  importPkcs8 bytes := bytes.head?
  import_pkcs8 _ := rfl
  fingerprint hex := hex
  rootKeyPolicy := "open"
  platform := "software-vault"

/-- A `create` whose vault writes end as given. -/
def createExample (setPrivate setPublic : SetOutcome) : CreateAnswers UInt8 :=
  ⟨.ok (), .ok 7, .ok (), .ok (), setPrivate, setPublic⟩

def emptyEntry : VaultEntry := ⟨none, false, none⟩

/-- A gate that is cancelled changes nothing. -/
theorem create_atomic_iff_cancelled :
    (AdminKeyState.start emptyEntry emptyEntry : AdminKeyState UInt8).CreatesAtomically
      adminKeyExample
      { createExample (.stored false) (.stored false) with
        gate := .error (.cancelledError "cancelled") } :=
  (AdminKeyState.create_atomic_iff (.inl ⟨⟨rfl, rfl⟩, ⟨rfl, rfl⟩⟩) .nil rfl _).2
    fun _ _ => ⟨trivial, trivial⟩

/-- The second vault write fails. -/
def halfWritten : Result AdminKeyInfo × AdminKeyState UInt8 :=
  (AdminKeyState.start emptyEntry emptyEntry).create adminKeyExample
    (createExample (.stored false) (.failed .untouched))

/-- **An error that leaves a key.** The public key is not written: `create` returns an error, but
the admin key is there, every other `create` fails, and the next process loads the private key
alone. -/
theorem create_not_atomic :
    halfWritten.1 = .error (.internalError "Failed to store vault secret") ∧
      halfWritten.2.adminExists = true ∧
      (∀ later, (halfWritten.2.create adminKeyExample later).1 =
        .error (.internalError "Admin key already exists")) ∧
      ¬ (halfWritten.2.restart.initializeManager adminKeyExample
        ⟨⟨true, true, .stored false⟩, ⟨true, true, .stored false⟩, "now"⟩).2.Loaded
          adminKeyExample := by
  refine ⟨rfl, rfl, fun _ => rfl, ?_⟩
  rintro (⟨-, hprivate⟩ | ⟨pair, hpublic, -⟩)
  · cases hprivate
  · cases hpublic

end Signet
