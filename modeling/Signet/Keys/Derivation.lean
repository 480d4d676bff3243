import Signet.Lib.Except
import Signet.Seals.Stamper

/-!
# Derived accounts

What `key-manager.ts` derives from the seed of a wallet: the accounts of `deriveAccount`
and `listAccounts`, and the signatures of `sign` and `signWithApiKey`. The hash functions and
curves are parameters (`KeyDerivation`). `derivation.ts` parses a path before it derives a
key, and throws for an index above `MAX_DERIVATION_INDEX`.
-/

namespace Signet

open Lib

/-- How a call ends that does not return `Ok`. -/
inductive Failure where
  | err (e : SignetError)
  /-- The promise rejects. -/
  | thrown (message : String)
  deriving DecidableEq

/-- What awaiting a call gives. -/
abbrev KeyOutcome (α : Type) := Except Failure α

inductive AccountChain where
  | evm
  | ed25519
  deriving DecidableEq

/-- `AccountEntry`, as the vault stores it. -/
structure AccountEntry where
  index : Nat
  chain : AccountChain
  address : String
  deriving DecidableEq

/-- `AccountInfo`, as the backend returns it. -/
structure AccountInfo extends AccountEntry where
  publicKey : String
  deriving DecidableEq

structure SigningResult where
  signature : Bytes
  publicKey : Bytes
  algorithm : String
  deriving DecidableEq

structure DerivedEvmKey where
  privateKey : Bytes
  publicKey : Bytes
  address : String

structure DerivedEd25519Key where
  privateKey : Bytes
  publicKey : Bytes

/-- The functions on seeds and keys that rest on hashes and curves. -/
structure KeyDerivation where
  mnemonicToSeed : String → Bytes
  /-- The key at `m/44'/60'/0'/0/index`. -/
  evmKey : Bytes → Nat → DerivedEvmKey
  /-- The key at `m/44'/501'/index'/0'`. -/
  ed25519Key : Bytes → Nat → DerivedEd25519Key
  /-- `secp256k1.sign(sha256(data), privateKey)`. -/
  secp256k1Sign : Bytes → Bytes → Bytes
  /-- `secp256k1.getPublicKey(privateKey, false)`. -/
  secp256k1PublicKey : Bytes → Bytes
  /-- `ed25519.sign(data, privateKey)`. -/
  ed25519Sign : Bytes → Bytes → Bytes
  ed25519PublicKey : Bytes → Bytes

def MAX_DERIVATION_INDEX : Nat := 0x7fffffff

/-- `parsePath`, on the segment of an account. -/
def checkSegment (index : Nat) (segment : String) : KeyOutcome Unit :=
  if MAX_DERIVATION_INDEX < index then
    .error (.thrown ("Invalid derivation path segment: \"" ++ segment ++ "\""))
  else .ok ()

section

variable (crypto : KeyDerivation) (seed : Bytes)

def deriveEvmKey (index : Nat) : KeyOutcome DerivedEvmKey := do
  checkSegment index (toString index)
  .ok (crypto.evmKey seed index)

def deriveEd25519Key (index : Nat) : KeyOutcome DerivedEd25519Key := do
  checkSegment index (toString index ++ "'")
  .ok (crypto.ed25519Key seed index)

/-- What `deriveAccount` returns for an index. -/
def deriveInfo (index : Nat) : AccountChain → KeyOutcome AccountInfo
  | .evm => do
    let d ← deriveEvmKey crypto seed index
    .ok ⟨⟨index, .evm, d.address⟩, bytesToHex d.publicKey⟩
  | .ed25519 => do
    let d ← deriveEd25519Key crypto seed index
    .ok ⟨⟨index, .ed25519, bytesToHex d.publicKey⟩, bytesToHex d.publicKey⟩

/-- What `listAccounts` returns for an entry. -/
def accountInfo (entry : AccountEntry) : KeyOutcome AccountInfo :=
  match entry.chain with
  | .evm => do
    let d ← deriveEvmKey crypto seed entry.index
    .ok ⟨entry, bytesToHex d.publicKey⟩
  | .ed25519 => do
    let d ← deriveEd25519Key crypto seed entry.index
    .ok ⟨entry, bytesToHex d.publicKey⟩

def signWithSeed (accountIndex : Nat) (chain : AccountChain) (data : Bytes) :
    KeyOutcome SigningResult :=
  match chain with
  | .evm => do
    let d ← deriveEvmKey crypto seed accountIndex
    .ok ⟨crypto.secp256k1Sign data d.privateKey, crypto.secp256k1PublicKey d.privateKey,
      "secp256k1"⟩
  | .ed25519 => do
    let d ← deriveEd25519Key crypto seed accountIndex
    .ok ⟨crypto.ed25519Sign data d.privateKey, crypto.ed25519PublicKey d.privateKey, "ed25519"⟩

end

/-- `WalletState`: what the backend keeps of a wallet in memory. -/
structure WalletState where
  nextIndex : Nat
  accounts : List AccountEntry
  deriving DecidableEq

def nextIndexOf (accounts : List AccountEntry) : Nat :=
  accounts.foldl (fun next entry => max next (entry.index + 1)) 0

def WalletState.load (accounts : List AccountEntry) : WalletState :=
  ⟨nextIndexOf accounts, accounts⟩

def WalletState.chainAt (state : WalletState) (index : Nat) : Option AccountChain :=
  (state.accounts.find? (·.index = index)).map (·.chain)

/-- The state after `deriveAccount` has stored the account. -/
def WalletState.derived (state : WalletState) (entry : AccountEntry) : WalletState :=
  ⟨entry.index + 1, state.accounts ++ [entry]⟩

/-! ### Indexes -/

theorem le_foldl_next (accounts : List AccountEntry) (next : Nat) :
    next ≤ accounts.foldl (fun next entry => max next (entry.index + 1)) next := by
  induction accounts generalizing next with
  | nil => exact Nat.le_refl _
  | cons entry accounts ih => exact Nat.le_trans (Nat.le_max_left _ _) (ih _)

/-- The next index is above all stored ones. -/
theorem index_lt_nextIndexOf {accounts : List AccountEntry} {entry : AccountEntry}
    (h : entry ∈ accounts) : entry.index < nextIndexOf accounts := by
  -- from any start, as the fold goes on from the accounts before
  have hlt : ∀ next, entry.index <
      accounts.foldl (fun next entry => max next (entry.index + 1)) next := by
    induction accounts with
    | nil => cases h
    | cons entry₀ accounts ih =>
      intro next
      rcases List.mem_cons.1 h with rfl | hrest
      -- the fold never goes down
      · have hle := le_foldl_next accounts (max next (entry.index + 1))
        have hmax := Nat.le_max_right next (entry.index + 1)
        simp only [List.foldl_cons]
        omega
      · exact ih hrest _
  exact hlt 0

theorem nextIndexOf_snoc {accounts : List AccountEntry} {entry : AccountEntry}
    (h : entry.index = nextIndexOf accounts) :
    nextIndexOf (accounts ++ [entry]) = entry.index + 1 := by
  show (accounts ++ [entry]).foldl _ 0 = _
  rw [List.foldl_append]
  show max (nextIndexOf accounts) (entry.index + 1) = _
  omega

/-! ### What is derived -/

theorem deriveInfo_eq_ok {crypto : KeyDerivation} {seed : Bytes} {index : Nat}
    {chain : AccountChain} {info : AccountInfo}
    (h : deriveInfo crypto seed index chain = .ok info) :
    info.index = index ∧ info.chain = chain ∧
      accountInfo crypto seed info.toAccountEntry = .ok info := by
  cases chain with
  -- the key is dropped, and its public half is what the info is made of
  | evm =>
    obtain ⟨d, hd, hinfo⟩ := bind_eq_ok.1 h
    obtain rfl := Except.ok.inj hinfo
    refine ⟨rfl, rfl, ?_⟩
    show (deriveEvmKey crypto seed index >>= _) = _
    rw [hd]
    rfl
  | ed25519 =>
    obtain ⟨d, hd, hinfo⟩ := bind_eq_ok.1 h
    obtain rfl := Except.ok.inj hinfo
    refine ⟨rfl, rfl, ?_⟩
    show (deriveEd25519Key crypto seed index >>= _) = _
    rw [hd]
    rfl

/-! ### A recorded wallet -/

namespace RecordedWallet

/-- The mnemonic of a well-known test wallet. -/
def mnemonic : String :=
  "test test test test test test test test test test test junk"

def seed : Bytes :=
  [157, 252, 60, 100, 194, 248, 190, 222, 21, 51, 182, 167, 159, 133, 112, 229, 148, 62, 11, 143,
   209, 207, 119, 16, 122, 223, 123, 114, 206, 244, 33, 133, 213, 100, 163, 174, 226, 76, 171, 67,
   248, 14, 60, 69, 56, 8, 125, 112, 252, 130, 78, 171, 186, 213, 150, 162, 60, 151, 182, 238, 131,
   34, 204, 192]

/-- The Ed25519 key with index 0. -/
def key₀ : DerivedEd25519Key where
  privateKey :=
    [160, 28, 103, 239, 181, 203, 143, 98, 241, 89, 7, 169, 252, 241, 36, 199, 61, 38, 149, 200,
     169, 163, 31, 33, 192, 87, 66, 163, 28, 161, 220, 114]
  publicKey :=
    [11, 243, 43, 159, 13, 176, 150, 114, 3, 143, 234, 54, 19, 155, 24, 249, 138, 95, 1, 73, 239,
     76, 224, 51, 46, 68, 185, 167, 126, 131, 194, 45]

/-- The Ed25519 key with index 1. -/
def key₁ : DerivedEd25519Key where
  privateKey :=
    [63, 37, 98, 108, 242, 69, 200, 221, 101, 162, 185, 26, 112, 230, 244, 194, 133, 24, 36, 137,
     253, 162, 48, 226, 85, 60, 55, 82, 170, 150, 43, 97]
  publicKey :=
    [146, 69, 68, 31, 74, 117, 46, 166, 50, 140, 109, 141, 45, 42, 252, 179, 109, 19, 29, 185, 152,
     164, 124, 160, 77, 109, 93, 133, 135, 208, 176, 18]

def data : Bytes := [5, 6, 7, 8]

/-- The signature of the data under the key with index 0. -/
def signature₀ : Bytes :=
  [62, 217, 13, 23, 190, 137, 147, 209, 50, 92, 67, 106, 71, 246, 88, 49, 206, 208, 37, 153, 143,
   119, 93, 175, 119, 129, 182, 119, 181, 232, 94, 87, 208, 6, 145, 179, 108, 74, 3, 7, 17, 20,
   149, 81, 176, 72, 156, 156, 15, 109, 112, 238, 251, 49, 102, 196, 81, 81, 6, 83, 70, 251, 168,
   9]

/-- The signature of the data under the key with index 1. -/
def signature₁ : Bytes :=
  [161, 67, 223, 249, 120, 73, 167, 127, 127, 186, 68, 142, 55, 156, 118, 68, 77, 127, 204, 78,
   106, 193, 190, 136, 120, 194, 243, 166, 167, 42, 175, 191, 70, 199, 171, 183, 1, 153, 72, 8,
   137, 157, 178, 153, 73, 39, 37, 223, 166, 4, 107, 66, 113, 58, 51, 60, 104, 247, 180, 202, 205,
   103, 119, 3]

/-- The derivation by its recorded values; the wallet has no EVM account. -/
def crypto : KeyDerivation where
  mnemonicToSeed _ := seed
  evmKey _ _ := ⟨[], [], ""⟩
  ed25519Key _ index := if index = 0 then key₀ else key₁
  secp256k1Sign _ _ := []
  secp256k1PublicKey _ := []
  ed25519Sign _ privateKey := if privateKey = key₀.privateKey then signature₀ else signature₁
  ed25519PublicKey privateKey :=
    if privateKey = key₀.privateKey then key₀.publicKey else key₁.publicKey

/-- The accounts with index 0 and 1. -/
def info₀ : AccountInfo :=
  ⟨⟨0, .ed25519, bytesToHex key₀.publicKey⟩, bytesToHex key₀.publicKey⟩

def info₁ : AccountInfo :=
  ⟨⟨1, .ed25519, bytesToHex key₁.publicKey⟩, bytesToHex key₁.publicKey⟩

end RecordedWallet

end Signet
