import Signet.Keys.Vault

/-!
# The key backend

`createInternalKeyBackend` of `key-manager.ts`, in calls that do not overlap: every operation
over the vault and the wallets' states that the backend keeps in memory. `deriveAccount`,
`listAccounts` and `getXmtpIdentityKey` load the state of a wallet from the vault
(`ensureWalletState`); `sign` and `signWithApiKey` only look into `walletStates`.

What an operation draws at random is part of it. Passphrases given to an operation are not used
by the source.
-/

namespace Signet

open Lib

/-! ### Operations and results -/

inductive KeyBackendOp where
  /-- `drawn`: salt and nonce. -/
  | createWallet (label : String) (id : Uuid) (mnemonic : String) (drawn : Bytes)
  | deleteWallet (walletId : String)
  | listWallets
  | getWallet (walletId : String)
  | deriveAccount (walletId : String) (chain : AccountChain)
  | listAccounts (walletId : String)
  | getXmtpIdentityKey (walletId : String) (accountIndex : Nat)
  | sign (walletId : String) (accountIndex : Nat) (data : Bytes)
  | createApiKey (walletId credentialId expiresAt token : String) (drawn : Bytes)
  | revokeApiKey (keyId : String)
  | signWithApiKey (token : String) (accountIndex : Nat) (data : Bytes)

/-- `WalletInfo`; the time of creation is left out. -/
structure WalletInfo extends WalletFileInfo where
  provider : String
  deriving DecidableEq

def WalletFileInfo.internal (info : WalletFileInfo) : WalletInfo :=
  ⟨info, "internal"⟩

structure ApiKeyInfo where
  id : String
  walletId : String
  token : String
  expiresAt : String
  deriving DecidableEq

inductive KeyBackendResult where
  | done
  | wallet (info : WalletInfo)
  | wallets (infos : List WalletInfo)
  | account (info : AccountInfo)
  | accounts (infos : List AccountInfo)
  | identityKey (key : String)
  | signature (result : SigningResult)
  | apiKey (info : ApiKeyInfo)
  deriving DecidableEq

/-! ### The backend -/

/-- The vault and `walletStates`. -/
structure KeyBackend {β γ : Type} (env : VaultEnv β γ) where
  vault : Vault env
  walletStates : OrdMap String WalletState

section

variable {β γ : Type} {env : VaultEnv β γ} (crypto : KeyDerivation) (passphrase : String)

namespace KeyBackend

/-- A backend that is made over the vault. -/
def create (vault : Vault env) : KeyBackend env :=
  ⟨vault, .empty⟩

variable (b : KeyBackend env)

/-- The process ends, and a backend is made over its vault. -/
def restart : KeyBackend env :=
  create b.vault

def getSeed (walletId : String) : KeyOutcome Bytes := do
  let mnemonic ← b.vault.readWallet walletId passphrase
  .ok (crypto.mnemonicToSeed mnemonic)

/-- The state of a wallet from the vault. -/
def loadWalletState (walletId : String) : KeyOutcome WalletState := do
  let wallets ← b.vault.listWallets
  if wallets.any (·.id = walletId) then
    let accounts ← b.vault.getWalletAccounts walletId
    .ok (.load accounts)
  else .error (.err (.notFoundError "Wallet" walletId))

/-- The backend after `ensureWalletState`, with the state and the seed of the wallet. -/
def ensureWalletState (walletId : String) : KeyOutcome (KeyBackend env × WalletState × Bytes) := do
  let seed ← b.getSeed crypto passphrase walletId
  match b.walletStates.get? walletId with
  | some state => .ok (b, state, seed)
  | none =>
    let state ← b.loadWalletState walletId
    .ok ({ b with walletStates := b.walletStates.set walletId state }, state, seed)

def chainAt (walletId : String) (index : Nat) : Option AccountChain :=
  (b.walletStates.get? walletId).bind (·.chainAt index)

def resolveAndSign (walletId : String) (seed : Bytes) (accountIndex : Nat) (data : Bytes) :
    KeyOutcome SigningResult :=
  match b.chainAt walletId accountIndex with
  | none => .error (.err (.notFoundError "Account" (walletId ++ "/" ++ toString accountIndex)))
  | some chain => signWithSeed crypto seed accountIndex chain data

/-! #### Operations -/

def createWallet (label : String) (id : Uuid) (mnemonic : String) (drawn : Bytes) :
    KeyBackend env × KeyOutcome KeyBackendResult :=
  let r := b.vault.createWallet id label mnemonic passphrase drawn
  match r.2 with
  | .error e => (⟨r.1, b.walletStates⟩, .error e)
  | .ok () =>
    (⟨r.1, b.walletStates.set id.1 ⟨0, []⟩⟩,
      .ok (.wallet (WalletFileInfo.internal ⟨id.1, label, 0⟩)))

def deleteWallet (walletId : String) : KeyBackend env × KeyOutcome KeyBackendResult :=
  let r := b.vault.deleteWallet walletId
  match r.2 with
  | .error e => (⟨r.1, b.walletStates⟩, .error e)
  | .ok () => (⟨r.1, b.walletStates.erase walletId⟩, .ok .done)

def listWallets : KeyOutcome KeyBackendResult := do
  let wallets ← b.vault.listWallets
  .ok (.wallets (wallets.map (·.internal)))

def getWallet (walletId : String) : KeyOutcome KeyBackendResult := do
  let wallets ← b.vault.listWallets
  match wallets.find? (·.id = walletId) with
  | none => .error (.err (.notFoundError "Wallet" walletId))
  | some found => .ok (.wallet found.internal)

def deriveAccount (walletId : String) (chain : AccountChain) :
    KeyBackend env × KeyOutcome KeyBackendResult :=
  match b.ensureWalletState crypto passphrase walletId with
  | .error e => (b, .error e)
  | .ok (b, state, seed) =>
    match deriveInfo crypto seed state.nextIndex chain with
    | .error e => (b, .error e)
    | .ok info =>
      let derived := state.derived info.toAccountEntry
      let r := b.vault.updateWalletAccounts walletId derived.accounts
      match r.2 with
      | .error e => (⟨r.1, b.walletStates⟩, .error e)
      | .ok () => (⟨r.1, b.walletStates.set walletId derived⟩, .ok (.account info))

def listAccounts (walletId : String) : KeyBackend env × KeyOutcome KeyBackendResult :=
  match b.ensureWalletState crypto passphrase walletId with
  | .error e => (b, .error e)
  | .ok (b, state, seed) =>
    (b, (state.accounts.mapM (accountInfo crypto seed)).map .accounts)

def getXmtpIdentityKey (walletId : String) (accountIndex : Nat) :
    KeyBackend env × KeyOutcome KeyBackendResult :=
  match b.ensureWalletState crypto passphrase walletId with
  | .error e => (b, .error e)
  | .ok (b, state, seed) =>
    if state.accounts.any fun e => e.index = accountIndex ∧ e.chain = .evm then
      (b, (deriveEvmKey crypto seed accountIndex).map fun derived =>
        .identityKey ("0x" ++ bytesToHex derived.privateKey))
    else
      (b, .error (.err (.notFoundError "EvmAccount"
        (walletId ++ "/" ++ toString accountIndex))))

def sign (walletId : String) (accountIndex : Nat) (data : Bytes) :
    KeyOutcome KeyBackendResult := do
  let seed ← b.getSeed crypto passphrase walletId
  let result ← b.resolveAndSign crypto walletId seed accountIndex data
  .ok (.signature result)

def createApiKey (walletId credentialId expiresAt token : String) (drawn : Bytes) :
    KeyBackend env × KeyOutcome KeyBackendResult :=
  match b.vault.readWallet walletId passphrase with
  | .error e => (b, .error e)
  | .ok mnemonic =>
    let r := b.vault.createApiKey credentialId walletId mnemonic token expiresAt drawn
    (⟨r.1, b.walletStates⟩, r.2.map fun _ => .apiKey ⟨credentialId, walletId, token, expiresAt⟩)

def revokeApiKey (keyId : String) : KeyBackend env × KeyOutcome KeyBackendResult :=
  let r := b.vault.revokeApiKey keyId
  (⟨r.1, b.walletStates⟩, r.2.map fun _ => .done)

def signWithApiKey (token : String) (accountIndex : Nat) (data : Bytes) :
    KeyOutcome KeyBackendResult := do
  let payload ← b.vault.readApiKey token
  let result ← b.resolveAndSign crypto payload.walletId (crypto.mnemonicToSeed payload.mnemonic)
    accountIndex data
  .ok (.signature result)

/-- One operation. -/
def step : KeyBackendOp → KeyBackend env × KeyOutcome KeyBackendResult
  | .createWallet label id mnemonic drawn => b.createWallet passphrase label id mnemonic drawn
  | .deleteWallet walletId => b.deleteWallet walletId
  | .listWallets => (b, b.listWallets)
  | .getWallet walletId => (b, b.getWallet walletId)
  | .deriveAccount walletId chain => b.deriveAccount crypto passphrase walletId chain
  | .listAccounts walletId => b.listAccounts crypto passphrase walletId
  | .getXmtpIdentityKey walletId index => b.getXmtpIdentityKey crypto passphrase walletId index
  | .sign walletId index data => (b, b.sign crypto passphrase walletId index data)
  | .createApiKey walletId credentialId expiresAt token drawn =>
    b.createApiKey passphrase walletId credentialId expiresAt token drawn
  | .revokeApiKey keyId => b.revokeApiKey keyId
  | .signWithApiKey token index data => (b, b.signWithApiKey crypto token index data)

end KeyBackend

end

end Signet
