import Signet.Keys.Derivation
import Signet.Lib.FileTree

/-!
# The vault

The wallets and API keys of `vault.ts`, in calls that do not overlap: the in-memory vault and
the file vault over a file tree. Ids of wallets are drawn by `randomUUID`, but every other call
takes any string, and a text with slashes names a path outside the vault's own directory.

The ciphers are ideal (`Cipher`). A vault is always well formed: a wallet's file lies where its
id says (`Placed`).
-/

namespace Signet

open Lib

/-! ### Files -/

/-- An ideal cipher: what is encrypted under a secret is decrypted with this secret only.
`encrypt` takes the salt and the nonce that the source draws. -/
structure Cipher (β π : Type) where
  encrypt : Bytes → π → String → β
  decrypt : β → String → Option π
  decrypt_encrypt : ∀ drawn plaintext secret secret',
    decrypt (encrypt drawn plaintext secret) secret' =
      if secret' = secret then some plaintext else none

structure ApiKeyPayload where
  mnemonic : String
  walletId : String
  deriving DecidableEq

structure WalletFile (β : Type) where
  id : String
  label : String
  crypto : β
  accounts : List AccountEntry

structure ApiKeyFile (γ : Type) where
  id : String
  walletId : String
  crypto : γ
  expiresAt : String

structure WalletFileInfo where
  id : String
  label : String
  accountCount : Nat
  deriving DecidableEq

def WalletFile.info {β : Type} (file : WalletFile β) : WalletFileInfo :=
  ⟨file.id, file.label, file.accounts.length⟩

inductive VaultFile (β γ : Type) where
  | wallet (file : WalletFile β)
  | apiKey (file : ApiKeyFile γ)

namespace VaultFile

variable {β γ : Type}

/-- `isWalletFile`. -/
def wallet? : VaultFile β γ → Option (WalletFile β)
  | wallet file => some file
  | apiKey _ => none

/-- `isApiKeyFile`. -/
def apiKey? : VaultFile β γ → Option (ApiKeyFile γ)
  | wallet _ => none
  | apiKey file => some file

end VaultFile

/-- What a vault is made over. -/
structure VaultEnv (β γ : Type) where
  /-- `encryptWithScrypt` and `decryptWithScrypt`. -/
  walletCipher : Cipher β String
  /-- `encryptWithHkdf` and `decryptWithHkdf` on the JSON of a payload. -/
  apiKeyCipher : Cipher γ ApiKeyPayload
  dataDir : Path
  /-- The paths that the file system can store. -/
  storable : Path → Bool
  /-- What `unlinkSync` of a directory throws. -/
  unlinkDirectory : Path → String

/-- A text of `crypto.randomUUID`: 36 hex digits and dashes. -/
def isUuid (text : String) : Bool :=
  text.toList.length = 36 && text.toList.all fun c => isLowerHex c || c = '-'

abbrev Uuid := { id : String // isUuid id = true }

section

variable {β γ : Type} (env : VaultEnv β γ)

namespace VaultEnv

def walletsDir : Path := env.dataDir ++ ["wallets"]

def keysDir : Path := env.dataDir ++ ["keys"]

def walletPath (id : String) : Path :=
  env.walletsDir.join (id ++ ".json")

def keyPath (id : String) : Path :=
  env.keysDir.join (id ++ ".json")

end VaultEnv

/-- The file of a wallet is where its id says. -/
def Placed (p : Path) : VaultFile β γ → Prop
  | .wallet file => isUuid file.id = true ∧ p = env.walletPath file.id
  | .apiKey _ => True

/-! ### Vaults -/

/-- `createMemoryVault`. -/
structure MemoryVault (β γ : Type) where
  wallets : OrdMap String (WalletFile β)
  apiKeys : OrdMap String (ApiKeyFile γ)
  tokenIndex : OrdMap String String
  keyed : wallets.Forall fun id file => file.id = id ∧ isUuid id = true

/-- `createFileVault`. -/
structure FileVault where
  tree : FileTree env.storable (VaultFile β γ)
  placed : ∀ p file, tree.get? p = some file → Placed env p file

inductive Vault where
  | memory (v : MemoryVault β γ)
  | file (v : FileVault env)

end

section

variable {β γ : Type} {env : VaultEnv β γ}

/-- `createVault(":memory:")`. -/
def Vault.newMemory : Vault env :=
  .memory ⟨.empty, .empty, .empty, .empty⟩

/-- `createVault` on a new data directory. -/
def Vault.newFile : Vault env :=
  .file ⟨.ofDirectories ([env.dataDir ++ ["secrets"], env.walletsDir, env.keysDir] ++
    (env.dataDir ++ ["secrets"]).above), nofun⟩

/-! ### The in-memory vault -/

namespace MemoryVault

variable (env : VaultEnv β γ) (v : MemoryVault β γ)

def createWallet (id : Uuid) (label mnemonic passphrase : String) (drawn : Bytes) :
    MemoryVault β γ × KeyOutcome Unit :=
  let new := ⟨id.1, label, env.walletCipher.encrypt drawn mnemonic passphrase, []⟩
  ({ v with wallets := v.wallets.set id.1 new, keyed := v.keyed.set ⟨rfl, id.2⟩ }, .ok ())

def deleteWallet (id : String) : MemoryVault β γ × KeyOutcome Unit :=
  if v.wallets.has id then
    ({ v with wallets := v.wallets.erase id, keyed := v.keyed.erase id }, .ok ())
  else (v, .error (.err (.notFoundError "Wallet" id)))

def listWallets : List WalletFileInfo :=
  v.wallets.values.map (·.info)

def updateWalletAccounts (id : String) (accounts : List AccountEntry) :
    MemoryVault β γ × KeyOutcome Unit :=
  match hf : v.wallets.get? id with
  | none => (v, .error (.err (.notFoundError "Wallet" id)))
  | some found =>
    ({ v with
        wallets := v.wallets.set id { found with accounts := accounts }
        keyed := v.keyed.set (show found.id = id ∧ isUuid id = true from v.keyed.of_get? hf) },
      .ok ())

def createApiKey (id walletId mnemonic token expiresAt : String) (drawn : Bytes) :
    MemoryVault β γ × KeyOutcome Unit :=
  let new := ⟨id, walletId, env.apiKeyCipher.encrypt drawn ⟨mnemonic, walletId⟩ token, expiresAt⟩
  ({ v with apiKeys := v.apiKeys.set id new, tokenIndex := v.tokenIndex.set token id }, .ok ())

def readApiKey (token : String) : KeyOutcome ApiKeyPayload :=
  match v.tokenIndex.get? token with
  | none => .error (.err (.notFoundError "ApiKey" "by-token"))
  | some keyId =>
    -- `!keyId` holds for the empty id too
    if keyId = "" then .error (.err (.notFoundError "ApiKey" "by-token"))
    else
      match v.apiKeys.get? keyId with
      | none => .error (.err (.notFoundError "ApiKey" keyId))
      | some found =>
        match env.apiKeyCipher.decrypt found.crypto token with
        | none => .error (.err (.internalError "API key decryption failed — invalid token"))
        | some payload => .ok payload

/-- The token index without the first token of the key. -/
def forgetToken (id : String) : OrdMap String String :=
  match v.tokenIndex.entries.find? fun e => e.2 = id with
  | none => v.tokenIndex
  | some (token, _) => v.tokenIndex.erase token

def revokeApiKey (id : String) : MemoryVault β γ × KeyOutcome Unit :=
  if v.apiKeys.has id then
    ({ v with apiKeys := v.apiKeys.erase id, tokenIndex := v.forgetToken id }, .ok ())
  else (v, .error (.err (.notFoundError "ApiKey" id)))

end MemoryVault

/-! ### The file vault -/

namespace FileVault

variable (v : FileVault env)

/-- `writeSecureFile`, of a file that belongs there. -/
def write (p : Path) (file : VaultFile β γ) (h : Placed env p file) : Option (FileVault env) :=
  match ht : v.tree.write p file with
  | none => none
  | some tree => some
    { tree := tree
      placed := by
        intro p' file' hget
        rw [FileTree.get?_write ht] at hget
        split at hget
        · next hp =>
          cases hget
          rw [hp]
          exact h
        · exact v.placed p' file' hget }

def unlink (p : Path) : FileVault env where
  tree := v.tree.unlink p
  placed := by
    intro p' file' hget
    rw [FileTree.get?_unlink] at hget
    split at hget
    · cases hget
    · exact v.placed p' file' hget

/-- `unlinkSync` of what `existsSync` finds; `notFound` otherwise. -/
def remove (p : Path) (notFound : SignetError) : FileVault env × KeyOutcome Unit :=
  if v.tree.contains p then
    if v.tree.isDirectory p then (v, .error (.thrown (env.unlinkDirectory p)))
    else (v.unlink p, .ok ())
  else (v, .error (.err notFound))

variable {v} {p q : Path} {file file' : VaultFile β γ}

theorem write_eq_some {h : Placed env p file} {v' : FileVault env}
    (hwrite : v.write p file h = some v') : v.tree.write p file = some v'.tree := by
  unfold write at hwrite
  split at hwrite
  · cases hwrite
  · next tree ht =>
    cases hwrite
    exact ht

theorem write_eq_none {h : Placed env p file} (hwrite : v.write p file h = none) :
    v.tree.write p file = none := by
  unfold write at hwrite
  split at hwrite
  · next ht => exact ht
  · cases hwrite

/-- What is left was there before, under another path. -/
theorem get?_remove {notFound : SignetError}
    (hget : (v.remove p notFound).1.tree.get? q = some file) :
    q ≠ p ∧ v.tree.get? q = some file := by
  unfold remove at hget
  split at hget
  · split at hget
    · next hdir =>
      -- a directory at the path is not removed, and no file is there
      refine ⟨?_, hget⟩
      rintro rfl
      rw [FileTree.not_isDirectory_of_get? hget] at hdir
      cases hdir
    · change (v.tree.unlink p).get? q = some file at hget
      rw [FileTree.get?_unlink] at hget
      split at hget
      · cases hget
      · next hq => exact ⟨hq, hget⟩
  · next hcontains =>
    refine ⟨?_, hget⟩
    -- a file at the path would have been found by `contains`
    rintro rfl
    exact hcontains (Bool.or_eq_true_iff.2 (.inl (FileTree.isFile_iff.2 ⟨file, hget⟩)))

theorem remove_eq_ok {notFound : SignetError} :
    (v.remove p notFound).2 = .ok () ↔ v.tree.isFile p = true := by
  unfold remove FileTree.contains
  cases hfile : v.tree.isFile p with
  | true =>
    obtain ⟨file, hget⟩ := FileTree.isFile_iff.1 hfile
    rw [FileTree.not_isDirectory_of_get? hget]
    exact ⟨fun _ => rfl, fun _ => rfl⟩
  | false =>
    cases v.tree.isDirectory p with
    | true => exact ⟨nofun, nofun⟩
    | false => exact ⟨nofun, nofun⟩

variable (v)

/-- `readJsonFile` of a wallet, if it is one. -/
def walletFile? (id : String) : Option (WalletFile β) :=
  (v.tree.get? (env.walletPath id)).bind VaultFile.wallet?

def createWallet (id : Uuid) (label mnemonic passphrase : String) (drawn : Bytes) :
    FileVault env × KeyOutcome Unit :=
  let new := ⟨id.1, label, env.walletCipher.encrypt drawn mnemonic passphrase, []⟩
  match v.write (env.walletPath id.1) (.wallet new) ⟨id.2, rfl⟩ with
  | none => (v, .error (.err (.internalError "Failed to create wallet file")))
  | some v' => (v', .ok ())

def deleteWallet (id : String) : FileVault env × KeyOutcome Unit :=
  v.remove (env.walletPath id) (.notFoundError "Wallet" id)

/-- The name ends in `.json`. -/
def isJsonName (p : Path) : Bool :=
  ".json".toList.isSuffixOf (p.getLastD "").toList

def listWallets : List WalletFileInfo :=
  ((v.tree.filesIn env.walletsDir).filter fun e => isJsonName e.1).filterMap fun e =>
    e.2.wallet?.map (·.info)

def updateWalletAccounts (id : String) (accounts : List AccountEntry) :
    FileVault env × KeyOutcome Unit :=
  match hf : v.tree.get? (env.walletPath id) with
  | some (.wallet found) =>
    match v.write (env.walletPath id) (.wallet { found with accounts := accounts })
        (show Placed env _ (.wallet found) from v.placed _ _ hf) with
    | none => (v, .error (.err (.internalError "Failed to update wallet accounts")))
    | some v' => (v', .ok ())
  | _ => (v, .error (.err (.notFoundError "Wallet" id)))

def createApiKey (id walletId mnemonic token expiresAt : String) (drawn : Bytes) :
    FileVault env × KeyOutcome Unit :=
  let new := ⟨id, walletId, env.apiKeyCipher.encrypt drawn ⟨mnemonic, walletId⟩ token, expiresAt⟩
  match v.write (env.keyPath id) (.apiKey new) trivial with
  | none => (v, .error (.err (.internalError "Failed to create API key file")))
  | some v' => (v', .ok ())

/-- Every key file is tried with the token. -/
def readApiKey (token : String) : KeyOutcome ApiKeyPayload :=
  let found := ((v.tree.filesIn env.keysDir).filter fun e => isJsonName e.1).findSome? fun e =>
    e.2.apiKey?.bind fun file => env.apiKeyCipher.decrypt file.crypto token
  match found with
  | none => .error (.err (.notFoundError "ApiKey" "by-token"))
  | some payload => .ok payload

def revokeApiKey (id : String) : FileVault env × KeyOutcome Unit :=
  v.remove (env.keyPath id) (.notFoundError "ApiKey" id)

end FileVault

/-! ### The vault -/

namespace Vault

def createWallet (v : Vault env) (id : Uuid) (label mnemonic passphrase : String)
    (drawn : Bytes) : Vault env × KeyOutcome Unit :=
  match v with
  | memory v => (v.createWallet env id label mnemonic passphrase drawn).map .memory (·)
  | file v => (v.createWallet id label mnemonic passphrase drawn).map .file (·)

/-- The wallet that is found under an id. -/
def walletFile? (v : Vault env) (id : String) : Option (WalletFile β) :=
  match v with
  | memory v => v.wallets.get? id
  | file v => v.walletFile? id

def readWallet (v : Vault env) (id passphrase : String) : KeyOutcome String :=
  match v.walletFile? id with
  | none => .error (.err (.notFoundError "Wallet" id))
  | some found =>
    match env.walletCipher.decrypt found.crypto passphrase with
    | none => .error (.err (.authError "Wrong passphrase or corrupted wallet" []))
    | some mnemonic => .ok mnemonic

def deleteWallet (v : Vault env) (id : String) : Vault env × KeyOutcome Unit :=
  match v with
  | memory v => (v.deleteWallet id).map .memory (·)
  | file v => (v.deleteWallet id).map .file (·)

def listWallets (v : Vault env) : KeyOutcome (List WalletFileInfo) :=
  match v with
  | memory v => .ok v.listWallets
  | file v => .ok v.listWallets

def getWalletAccounts (v : Vault env) (id : String) : KeyOutcome (List AccountEntry) :=
  match v.walletFile? id with
  | none => .error (.err (.notFoundError "Wallet" id))
  | some found => .ok found.accounts

def updateWalletAccounts (v : Vault env) (id : String) (accounts : List AccountEntry) :
    Vault env × KeyOutcome Unit :=
  match v with
  | memory v => (v.updateWalletAccounts id accounts).map .memory (·)
  | file v => (v.updateWalletAccounts id accounts).map .file (·)

def createApiKey (v : Vault env) (id walletId mnemonic token expiresAt : String)
    (drawn : Bytes) : Vault env × KeyOutcome Unit :=
  match v with
  | memory v => (v.createApiKey env id walletId mnemonic token expiresAt drawn).map .memory (·)
  | file v => (v.createApiKey id walletId mnemonic token expiresAt drawn).map .file (·)

def readApiKey (v : Vault env) (token : String) : KeyOutcome ApiKeyPayload :=
  match v with
  | memory v => v.readApiKey env token
  | file v => v.readApiKey token

def revokeApiKey (v : Vault env) (id : String) : Vault env × KeyOutcome Unit :=
  match v with
  | memory v => (v.revokeApiKey id).map .memory (·)
  | file v => (v.revokeApiKey id).map .file (·)

end Vault

end

end Signet
