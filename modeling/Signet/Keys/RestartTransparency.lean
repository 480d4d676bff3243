import Signet.Keys.ApiKeys
import Signet.Keys.KeyBackend

/-!
# Restarts of the key backend

When a backend that is made anew over its vault, at any points of a run, does and returns the
same as one that goes on (`restart_transparent_iff`). `sign` and `signWithApiKey` look an
account up in `walletStates` without loading the wallet, so after a restart they do not find it
until another operation has loaded the wallet.

The two runs go in step (`RestartCoupled`): the vault is the same, the restarted backend knows
no more wallets than the other, and what a backend knows of a wallet is what the vault would give
(`Coherent`). Every operation keeps this, whether or not the results agree.
-/

namespace Signet

open Lib

section

variable {β γ : Type} {env : VaultEnv β γ}

/-! ### Wallets of a vault -/

theorem VaultEnv.walletPath_uuid (env : VaultEnv β γ) {id : String} (h : isUuid id = true) :
    env.walletPath id = env.walletsDir ++ [id ++ ".json"] := by
  simp only [isUuid, Bool.and_eq_true, decide_eq_true_eq, List.all_eq_true] at h
  -- a UUID has 36 characters, so the name is none of the special ones and has no slash
  have hlong : ∀ short : String, short.toList.length ≤ 2 → id ++ ".json" ≠ short := by
    rintro short hshort rfl
    rw [String.toList_append, List.length_append, h.1] at hshort
    omega
  refine Path.join_name ?_ ⟨hlong "" (by decide), hlong "." (by decide), hlong ".." (by decide)⟩
  rw [String.toList_append]
  intro hmem
  rcases List.mem_append.1 hmem with hid | hsuffix
  · exact absurd (h.2 '/' hid) (by decide)
  · exact absurd hsuffix (by decide)

theorem VaultEnv.walletPath_inj (env : VaultEnv β γ) {id id' : String} (h : isUuid id = true)
    (h' : isUuid id' = true) (hpath : env.walletPath id = env.walletPath id') : id = id' := by
  rw [env.walletPath_uuid h, env.walletPath_uuid h'] at hpath
  have hname := List.singleton_inj.1 (List.append_inj' hpath rfl).2
  exact (String.append_left_inj ".json").1 hname

theorem Vault.listed (v : Vault env) (id : String) :
    ∃ infos, v.listWallets = .ok infos ∧ ((infos.any fun info => info.id = id) = true ↔
      isUuid id = true ∧ ∃ file, v.walletFile? id = some file) := by
  cases v with
  | memory v =>
    refine ⟨_, rfl, ?_⟩
    rw [List.any_eq_true]
    constructor
    · rintro ⟨info, hinfo, hid⟩
      obtain ⟨file, hfile, rfl⟩ := List.mem_map.1 hinfo
      obtain ⟨key, hget⟩ := OrdMap.mem_values_iff.1 hfile
      -- a record is stored under its own id
      obtain ⟨hkey, huuid⟩ := v.keyed key file hget
      have hid' : key = id := hkey.symm.trans (of_decide_eq_true hid)
      subst hid'
      exact ⟨huuid, file, hget⟩
    · rintro ⟨-, file, hget⟩
      have hid : file.id = id := (v.keyed id file hget).1
      exact ⟨file.info, List.mem_map_of_mem (OrdMap.mem_values_iff.2 ⟨id, hget⟩),
        decide_eq_true hid⟩
  | file v =>
    refine ⟨_, rfl, ?_⟩
    rw [List.any_eq_true]
    constructor
    · rintro ⟨info, hinfo, hid⟩
      obtain ⟨⟨p, vaultFile⟩, he, hsome⟩ := List.mem_filterMap.1 hinfo
      obtain ⟨hget, -⟩ := FileTree.mem_filesIn.1 (List.mem_filter.1 he).1
      obtain ⟨file, hfile, rfl⟩ := Option.map_eq_some_iff.1 hsome
      cases vaultFile with
      | apiKey _ => cases hfile
      | wallet file' =>
        obtain rfl := Option.some.inj hfile
        -- a wallet file lies at the path of its id
        obtain ⟨huuid, hp⟩ := v.placed p _ hget
        have hid' : file'.id = id := of_decide_eq_true hid
        subst hid'
        subst hp
        exact ⟨huuid, file', Option.bind_eq_some_iff.2 ⟨_, hget, rfl⟩⟩
    · rintro ⟨huuid, file, hwallet⟩
      obtain ⟨vaultFile, hget, hfile⟩ := Option.bind_eq_some_iff.1 hwallet
      cases vaultFile with
      | apiKey _ => cases hfile
      | wallet file' =>
        obtain rfl := Option.some.inj hfile
        obtain ⟨huuid', hp⟩ := v.placed _ _ hget
        have hid : id = file'.id := env.walletPath_inj huuid huuid' hp
        have hpath := env.walletPath_uuid huuid
        -- the other way round, the file is in the directory and has the suffix that is listed
        have hjson : FileVault.isJsonName (env.walletPath id) = true := by
          unfold FileVault.isJsonName
          rw [hpath]
          have hlast : (env.walletsDir ++ [id ++ ".json"]).getLastD "" = id ++ ".json" := by simp
          rw [hlast, String.toList_append]
          exact List.isSuffixOf_iff_suffix.2 (List.suffix_append _ _)
        have hmem : (env.walletPath id, VaultFile.wallet file') ∈
            (v.tree.filesIn env.walletsDir).filter fun e => FileVault.isJsonName e.1 :=
          List.mem_filter.2 ⟨FileTree.mem_filesIn.2 ⟨hget, _, hpath⟩, hjson⟩
        exact ⟨file'.info, List.mem_filterMap.2 ⟨_, hmem, rfl⟩, decide_eq_true hid.symm⟩

/-- No wallet is found in `v'` that is not in `v`. -/
def WalletsKept (v v' : Vault env) : Prop :=
  ∀ id file, v'.walletFile? id = some file → v.walletFile? id = some file

theorem Vault.deleteWallet_kept (v : Vault env) (walletId : String) :
    WalletsKept v (v.deleteWallet walletId).1 := by
  intro id file hfile
  cases v with
  | memory v =>
    change (v.deleteWallet walletId).1.wallets.get? id = some file at hfile
    unfold MemoryVault.deleteWallet at hfile
    split at hfile
    · exact (OrdMap.get?_erase_eq_some hfile).2
    · exact hfile
  | file v =>
    obtain ⟨vaultFile, hget, hwallet⟩ := Option.bind_eq_some_iff.1 hfile
    exact Option.bind_eq_some_iff.2 ⟨vaultFile, (FileVault.get?_remove hget).2, hwallet⟩

theorem Vault.revokeApiKey_kept (v : Vault env) (keyId : String) :
    WalletsKept v (v.revokeApiKey keyId).1 := by
  intro id file hfile
  cases v with
  | memory v =>
    change (v.revokeApiKey keyId).1.wallets.get? id = some file at hfile
    unfold MemoryVault.revokeApiKey at hfile
    split at hfile <;> exact hfile
  | file v =>
    obtain ⟨vaultFile, hget, hwallet⟩ := Option.bind_eq_some_iff.1 hfile
    exact Option.bind_eq_some_iff.2 ⟨vaultFile, (FileVault.get?_remove hget).2, hwallet⟩

theorem Vault.createApiKey_kept (v : Vault env)
    (keyId walletId mnemonic token expiresAt : String) (drawn : Bytes) :
    WalletsKept v (v.createApiKey keyId walletId mnemonic token expiresAt drawn).1 := by
  intro id file hfile
  cases v with
  | memory v => exact hfile
  | file v =>
    obtain ⟨vaultFile, hget, hwallet⟩ := Option.bind_eq_some_iff.1 hfile
    refine Option.bind_eq_some_iff.2 ⟨vaultFile, ?_, hwallet⟩
    change (v.createApiKey keyId walletId mnemonic token expiresAt drawn).1.tree.get? _ = _ at hget
    unfold FileVault.createApiKey at hget
    dsimp only at hget
    split at hget
    · exact hget
    · next v' hwrite =>
      rw [FileTree.get?_write (FileVault.write_eq_some hwrite)] at hget
      split at hget
      · -- an API key is no wallet
        cases hget
        cases hwallet
      · exact hget

/-- A write of a wallet is found under its id, and leaves the others. -/
theorem FileVault.walletFile?_write {v v' : FileVault env} {id id' : String}
    {new file : WalletFile β} {h : Placed env (env.walletPath id) (.wallet new)}
    (hwrite : v.write (env.walletPath id) (.wallet new) h = some v')
    (hid : isUuid id = true) (hid' : isUuid id' = true) (hfile : v'.walletFile? id' = some file) :
    (id' = id ∧ file = new) ∨ (id' ≠ id ∧ v.walletFile? id' = some file) := by
  obtain ⟨vaultFile, hget, hwallet⟩ := Option.bind_eq_some_iff.1 hfile
  rw [FileTree.get?_write (write_eq_some hwrite)] at hget
  split at hget
  · next hpath =>
    cases hget
    -- one path belongs to one id, so the file that is read is the one written
    exact .inl ⟨env.walletPath_inj hid' hid hpath, (Option.some.inj hwallet).symm⟩
  · next hpath =>
    refine .inr ⟨?_, Option.bind_eq_some_iff.2 ⟨vaultFile, hget, hwallet⟩⟩
    rintro rfl
    exact hpath rfl

theorem Vault.createWallet_files {v : Vault env} {new : Uuid}
    {label mnemonic passphrase : String} {drawn : Bytes} {id : String} {file : WalletFile β}
    (hok : (v.createWallet new label mnemonic passphrase drawn).2 = .ok ())
    (hid : isUuid id = true)
    (hfile : (v.createWallet new label mnemonic passphrase drawn).1.walletFile? id = some file) :
    (id = new.1 ∧ file.accounts = []) ∨ (id ≠ new.1 ∧ v.walletFile? id = some file) := by
  cases v with
  | memory v =>
    rcases OrdMap.get?_set_eq_some hfile with ⟨hnew, rfl⟩ | hold
    · exact .inl ⟨hnew, rfl⟩
    · exact .inr hold
  | file v =>
    change (v.createWallet new label mnemonic passphrase drawn).2 = _ at hok
    change (v.createWallet new label mnemonic passphrase drawn).1.walletFile? id = _ at hfile
    unfold FileVault.createWallet at hok hfile
    dsimp only at hok hfile
    split at hfile
    · next hwrite =>
      -- a failed write would have been reported
      rw [hwrite] at hok
      cases hok
    · next v' hwrite =>
      rcases FileVault.walletFile?_write hwrite new.2 hid hfile with ⟨hnew, rfl⟩ | hold
      · exact .inl ⟨hnew, rfl⟩
      · exact .inr hold

theorem Vault.createWallet_failed {v : Vault env} {new : Uuid}
    {label mnemonic passphrase : String} {drawn : Bytes} {e : Failure}
    (herror : (v.createWallet new label mnemonic passphrase drawn).2 = .error e) :
    (v.createWallet new label mnemonic passphrase drawn).1 = v := by
  cases v with
  | memory v => cases herror
  | file v =>
    change (v.createWallet new label mnemonic passphrase drawn).2 = _ at herror
    show Vault.file (v.createWallet new label mnemonic passphrase drawn).1 = _
    unfold FileVault.createWallet at herror ⊢
    dsimp only at herror ⊢
    split
    · rfl
    · next v' hwrite =>
      rw [hwrite] at herror
      cases herror

theorem MemoryVault.updateWalletAccounts_cases (v : MemoryVault β γ) (walletId : String)
    (accounts : List AccountEntry) :
    (∃ e, v.updateWalletAccounts walletId accounts = (v, .error e)) ∨
      ∃ (found : WalletFile β) (v' : MemoryVault β γ),
        v.updateWalletAccounts walletId accounts = (v', .ok ()) ∧
        v'.wallets = v.wallets.set walletId { found with accounts := accounts } := by
  unfold MemoryVault.updateWalletAccounts
  split
  · exact .inl ⟨_, rfl⟩
  · next found hfound => exact .inr ⟨found, _, rfl, rfl⟩

theorem FileVault.updateWalletAccounts_cases (v : FileVault env) (walletId : String)
    (accounts : List AccountEntry) :
    (∃ e, v.updateWalletAccounts walletId accounts = (v, .error e)) ∨
      ∃ (found : WalletFile β) (v' : FileVault env) (h : _),
        v.updateWalletAccounts walletId accounts = (v', .ok ()) ∧
        v.write (env.walletPath walletId)
          (.wallet { found with accounts := accounts }) h = some v' := by
  unfold FileVault.updateWalletAccounts
  split
  · next found hfound =>
    split
    · exact .inl ⟨_, rfl⟩
    · next v' hwrite =>
      have hplaced : Placed env _ (.wallet found) := v.placed _ _ hfound
      exact .inr ⟨found, v', hplaced, rfl, hwrite⟩
  · exact .inl ⟨_, rfl⟩

theorem Vault.updateWalletAccounts_cases (v : Vault env) {walletId : String}
    (accounts : List AccountEntry) (hwallet : isUuid walletId = true) :
    (∃ e, v.updateWalletAccounts walletId accounts = (v, .error e)) ∨
      ∃ v', v.updateWalletAccounts walletId accounts = (v', .ok ()) ∧
        ∀ id file, isUuid id = true → v'.walletFile? id = some file →
          (id = walletId ∧ file.accounts = accounts) ∨
            (id ≠ walletId ∧ v.walletFile? id = some file) := by
  cases v with
  | memory v =>
    rcases v.updateWalletAccounts_cases walletId accounts with ⟨e, he⟩ | ⟨found, v', hv', hset⟩
    · refine .inl ⟨e, ?_⟩
      show (v.updateWalletAccounts walletId accounts).map Vault.memory (·) = _
      rw [he]
      rfl
    · refine .inr ⟨.memory v', ?_, ?_⟩
      · show (v.updateWalletAccounts walletId accounts).map Vault.memory (·) = _
        rw [hv']
        rfl
      intro id file _ hfile
      change v'.wallets.get? id = some file at hfile
      rw [hset] at hfile
      rcases OrdMap.get?_set_eq_some hfile with ⟨hnew, rfl⟩ | hold
      · exact .inl ⟨hnew, rfl⟩
      · exact .inr hold
  | file v =>
    rcases v.updateWalletAccounts_cases walletId accounts with
      ⟨e, he⟩ | ⟨found, v', h, hv', hwrite⟩
    · refine .inl ⟨e, ?_⟩
      show (v.updateWalletAccounts walletId accounts).map Vault.file (·) = _
      rw [he]
      rfl
    · refine .inr ⟨.file v', ?_, ?_⟩
      · show (v.updateWalletAccounts walletId accounts).map Vault.file (·) = _
        rw [hv']
        rfl
      intro id file hid hfile
      rcases FileVault.walletFile?_write hwrite hwallet hid hfile with ⟨hnew, rfl⟩ | hold
      · exact .inl ⟨hnew, rfl⟩
      · exact .inr hold

/-! ### The two backends -/

/-- What is kept of a wallet is what the vault would give. -/
def Coherent (v : Vault env) (states : OrdMap String WalletState) : Prop :=
  states.Forall fun id state => isUuid id = true ∧ state.nextIndex = nextIndexOf state.accounts ∧
    ∀ file, v.walletFile? id = some file → file.accounts = state.accounts

theorem Coherent.kept {v v' : Vault env} {states : OrdMap String WalletState}
    (h : Coherent v states) (hkept : WalletsKept v v') : Coherent v' states :=
  h.imp fun ⟨hid, hnext, hfile⟩ => ⟨hid, hnext, fun file hget => hfile file (hkept _ file hget)⟩

/-- A backend that goes on, and one that is made anew now and then. -/
structure RestartCoupled (plain restarted : KeyBackend env) : Prop where
  vault_eq : restarted.vault = plain.vault
  known : ∀ id state, restarted.walletStates.get? id = some state →
    plain.walletStates.get? id = some state
  coherent : Coherent plain.vault plain.walletStates

namespace RestartCoupled

variable {plain restarted : KeyBackend env}

theorem create (v : Vault env) : RestartCoupled (.create v) (.create v) :=
  ⟨rfl, fun _ _ h => h, .empty⟩

theorem restart (h : RestartCoupled plain restarted) : RestartCoupled plain restarted.restart :=
  ⟨h.vault_eq, nofun, h.coherent⟩

variable {v v' : Vault env} {states states' : OrdMap String WalletState} {walletId : String}

/-- The vault loses wallets at most. -/
theorem kept (h : RestartCoupled ⟨v, states⟩ ⟨v, states'⟩) (hkept : WalletsKept v v') :
    RestartCoupled ⟨v', states⟩ ⟨v', states'⟩ :=
  ⟨rfl, h.known, h.coherent.kept hkept⟩

theorem erase (h : RestartCoupled ⟨v, states⟩ ⟨v, states'⟩) (walletId : String) :
    RestartCoupled ⟨v, states.erase walletId⟩ ⟨v, states'.erase walletId⟩ := by
  refine ⟨rfl, ?_, OrdMap.Forall.erase h.coherent walletId⟩
  intro id state hget
  obtain ⟨hne, hold⟩ := OrdMap.get?_erase_eq_some hget
  show (states.erase walletId).get? id = some state
  rw [OrdMap.get?_erase_of_ne states hne]
  exact h.known id state hold

theorem set (h : RestartCoupled ⟨v, states⟩ ⟨v, states'⟩) {new : WalletState}
    (hid : isUuid walletId = true) (hnext : new.nextIndex = nextIndexOf new.accounts)
    (hfiles : ∀ id file, isUuid id = true → v'.walletFile? id = some file →
      (id = walletId ∧ file.accounts = new.accounts) ∨
        (id ≠ walletId ∧ v.walletFile? id = some file)) :
    RestartCoupled ⟨v', states.set walletId new⟩ ⟨v', states'.set walletId new⟩ := by
  refine ⟨rfl, ?_, ?_⟩
  · intro id state hget
    show (states.set walletId new).get? id = some state
    rcases OrdMap.get?_set_eq_some hget with ⟨rfl, rfl⟩ | ⟨hne, hold⟩
    · exact OrdMap.get?_set_self states id state
    · rw [OrdMap.get?_set_of_ne states new hne]
      exact h.known id state hold
  · refine OrdMap.Forall.set_of_ne ?_ ⟨hid, hnext, ?_⟩
    · intro id state hne hold
      obtain ⟨hid', hnext', hfile⟩ := h.coherent id state hold
      refine ⟨hid', hnext', fun file hget => ?_⟩
      rcases hfiles id file hid' hget with ⟨heq, -⟩ | ⟨-, hget⟩
      · exact absurd heq hne
      · exact hfile file hget
    · intro file hget
      rcases hfiles walletId file hid hget with ⟨-, haccounts⟩ | ⟨hne, -⟩
      · exact haccounts
      · exact absurd rfl hne

theorem load (h : RestartCoupled ⟨v, states⟩ ⟨v, states'⟩) {state : WalletState}
    (hget : states.get? walletId = some state) :
    RestartCoupled ⟨v, states⟩ ⟨v, states'.set walletId state⟩ := by
  refine ⟨rfl, ?_, h.coherent⟩
  intro id state' hget'
  rcases OrdMap.get?_set_eq_some hget' with ⟨rfl, rfl⟩ | ⟨-, hold⟩
  · exact hget
  · exact h.known id state' hold

end RestartCoupled

/-! ### Loading -/

variable {crypto : KeyDerivation} {passphrase : String} {walletId : String}

namespace KeyBackend

variable {b : KeyBackend env}

theorem getSeed_found {seed : Bytes} (h : b.getSeed crypto passphrase walletId = .ok seed) :
    ∃ file, b.vault.walletFile? walletId = some file := by
  obtain ⟨mnemonic, hread, -⟩ := bind_eq_ok.1 h
  unfold Vault.readWallet at hread
  split at hread
  · cases hread
  · next file hfile => exact ⟨file, hfile⟩

theorem loadWalletState_eq_ok {state : WalletState} :
    b.loadWalletState walletId = .ok state ↔ isUuid walletId = true ∧
      ∃ file, b.vault.walletFile? walletId = some file ∧ state = .load file.accounts := by
  obtain ⟨infos, hinfos, hlisted⟩ := b.vault.listed walletId
  unfold loadWalletState
  rw [hinfos, ok_bind]
  by_cases hany : (infos.any fun info => info.id = walletId) = true
  · obtain ⟨hid, file, hfile⟩ := hlisted.1 hany
    rw [if_pos hany]
    unfold Vault.getWalletAccounts
    rw [hfile, ok_bind]
    constructor
    · intro h
      exact ⟨hid, file, rfl, (Except.ok.inj h).symm⟩
    · rintro ⟨-, file', hfile', rfl⟩
      cases hfile'
      rfl
  · rw [if_neg hany]
    constructor
    · intro h
      cases h
    · rintro ⟨hid, file, hfile, -⟩
      exact absurd (hlisted.2 ⟨hid, file, hfile⟩) hany

end KeyBackend

theorem Coherent.reload {b : KeyBackend env} {states : OrdMap String WalletState}
    (h : Coherent b.vault states) {state : WalletState} {file : WalletFile β}
    (hstate : states.get? walletId = some state)
    (hfile : b.vault.walletFile? walletId = some file) :
    b.loadWalletState walletId = .ok state := by
  obtain ⟨hid, hnext, hfiles⟩ := h walletId state hstate
  refine KeyBackend.loadWalletState_eq_ok.2 ⟨hid, file, hfile, ?_⟩
  -- the file holds the accounts of the state, and these give its next index
  rw [hfiles file hfile]
  show state = ⟨nextIndexOf state.accounts, state.accounts⟩
  rw [← hnext]

theorem RestartCoupled.ensureWalletState {plain restarted : KeyBackend env}
    (h : RestartCoupled plain restarted) (crypto : KeyDerivation) (passphrase walletId : String) :
    (∃ e, plain.ensureWalletState crypto passphrase walletId = .error e ∧
      restarted.ensureWalletState crypto passphrase walletId = .error e) ∨
    ∃ v states states' state seed,
      plain.ensureWalletState crypto passphrase walletId = .ok (⟨v, states⟩, state, seed) ∧
      restarted.ensureWalletState crypto passphrase walletId = .ok (⟨v, states'⟩, state, seed) ∧
      RestartCoupled ⟨v, states⟩ ⟨v, states'⟩ ∧ states.get? walletId = some state := by
  obtain ⟨v, states⟩ := plain
  obtain ⟨v', states'⟩ := restarted
  obtain rfl : v' = v := h.vault_eq
  unfold KeyBackend.ensureWalletState
  have hsame : (⟨v', states'⟩ : KeyBackend env).getSeed crypto passphrase walletId =
      (⟨v', states⟩ : KeyBackend env).getSeed crypto passphrase walletId := rfl
  rw [hsame]
  cases hseed : (⟨v', states⟩ : KeyBackend env).getSeed crypto passphrase walletId with
  | error e => exact .inl ⟨e, rfl, rfl⟩
  | ok seed =>
    simp only [ok_bind]
    have hload : (⟨v', states'⟩ : KeyBackend env).loadWalletState walletId =
        (⟨v', states⟩ : KeyBackend env).loadWalletState walletId := rfl
    rw [hload]
    cases hstate : states.get? walletId with
    | some state =>
      cases hstate' : states'.get? walletId with
      | some state' =>
        have heq : some state' = some state := (h.known _ _ hstate').symm.trans hstate
        obtain rfl := Option.some.inj heq
        -- both know the wallet
        exact .inr ⟨v', states, states', state', seed, rfl, rfl, h, hstate⟩
      | none =>
        -- only the restarted one loads it, and what it loads is what the other knows
        obtain ⟨file, hfound⟩ := KeyBackend.getSeed_found hseed
        have hloaded : (⟨v', states⟩ : KeyBackend env).loadWalletState walletId = .ok state :=
          h.coherent.reload hstate hfound
        rw [hloaded]
        exact .inr ⟨v', states, states'.set walletId state, state, seed, rfl, rfl,
          h.load hstate, hstate⟩
    | none =>
      -- what the restarted one knew, the other would know
      have hnone : states'.get? walletId = none := by
        cases hstate' : states'.get? walletId with
        | none => rfl
        | some state' =>
          have hknown : states.get? walletId = some state' := h.known _ _ hstate'
          rw [hstate] at hknown
          cases hknown
      rw [hnone]
      cases hloaded : (⟨v', states⟩ : KeyBackend env).loadWalletState walletId with
      | error e => exact .inl ⟨e, rfl, rfl⟩
      | ok state =>
        obtain ⟨hid, file, hfound, rfl⟩ := KeyBackend.loadWalletState_eq_ok.1 hloaded
        refine .inr ⟨v', states.set walletId (.load file.accounts),
          states'.set walletId (.load file.accounts), .load file.accounts, seed, rfl, rfl,
          h.set hid rfl ?_, OrdMap.get?_set_self _ _ _⟩
        intro id file' hid' hfile'
        by_cases hne : id = walletId
        · subst hne
          rw [show v'.walletFile? id = some file from hfound] at hfile'
          obtain rfl := Option.some.inj hfile'
          exact .inl ⟨rfl, rfl⟩
        · exact .inr ⟨hne, hfile'⟩

/-! ### Operations -/

/-- Both backends go on coupled, and return the same. -/
def Alike (plain restarted : KeyBackend env × KeyOutcome KeyBackendResult) : Prop :=
  RestartCoupled plain.1 restarted.1 ∧ plain.2 = restarted.2

namespace RestartCoupled

variable {plain restarted : KeyBackend env}

theorem createWallet (h : RestartCoupled plain restarted) (passphrase label : String) (id : Uuid)
    (mnemonic : String) (drawn : Bytes) :
    Alike (plain.createWallet passphrase label id mnemonic drawn)
      (restarted.createWallet passphrase label id mnemonic drawn) := by
  obtain ⟨v, states⟩ := plain
  obtain ⟨v', states'⟩ := restarted
  obtain rfl : v' = v := h.vault_eq
  unfold KeyBackend.createWallet
  dsimp only
  cases hr : (v'.createWallet id label mnemonic passphrase drawn).2 with
  | error e =>
    refine ⟨?_, rfl⟩
    -- a failed write leaves the vault, and no state is set
    rw [Vault.createWallet_failed hr]
    exact h
  | ok _ =>
    refine ⟨h.set id.2 rfl ?_, rfl⟩
    intro id' file hid' hfile
    exact Vault.createWallet_files hr hid' hfile

theorem deleteWallet (h : RestartCoupled plain restarted) (walletId : String) :
    Alike (plain.deleteWallet walletId) (restarted.deleteWallet walletId) := by
  obtain ⟨v, states⟩ := plain
  obtain ⟨v', states'⟩ := restarted
  obtain rfl : v' = v := h.vault_eq
  have hkept : WalletsKept v' (v'.deleteWallet walletId).1 := v'.deleteWallet_kept walletId
  unfold KeyBackend.deleteWallet
  dsimp only
  cases (v'.deleteWallet walletId).2 with
  | error e => exact ⟨h.kept hkept, rfl⟩
  | ok _ => exact ⟨(h.kept hkept).erase walletId, rfl⟩

theorem deriveAccount (h : RestartCoupled plain restarted) (crypto : KeyDerivation)
    (passphrase walletId : String) (chain : AccountChain) :
    Alike (plain.deriveAccount crypto passphrase walletId chain)
      (restarted.deriveAccount crypto passphrase walletId chain) := by
  unfold KeyBackend.deriveAccount
  rcases h.ensureWalletState crypto passphrase walletId with
    ⟨e, he, he'⟩ | ⟨v, states, states', state, seed, hp, hr, hcoupled, hstate⟩
  · rw [he, he']
    exact ⟨h, rfl⟩
  · rw [hp, hr]
    dsimp only
    cases hinfo : deriveInfo crypto seed state.nextIndex chain with
    | error e => exact ⟨hcoupled, rfl⟩
    | ok info =>
      obtain ⟨hid, hnext, -⟩ := hcoupled.coherent walletId state hstate
      have hindex : info.index = state.nextIndex := (deriveInfo_eq_ok hinfo).1
      dsimp only
      rcases v.updateWalletAccounts_cases (state.derived info.toAccountEntry).accounts hid with
        ⟨e, he⟩ | ⟨v', hv', hfiles⟩
      · rw [he]
        exact ⟨hcoupled, rfl⟩
      · rw [hv']
        have hderived : (state.derived info.toAccountEntry).nextIndex =
            nextIndexOf (state.derived info.toAccountEntry).accounts :=
          (nextIndexOf_snoc (hindex.trans hnext)).symm
        exact ⟨hcoupled.set hid hderived hfiles, rfl⟩

theorem listAccounts (h : RestartCoupled plain restarted) (crypto : KeyDerivation)
    (passphrase walletId : String) :
    Alike (plain.listAccounts crypto passphrase walletId)
      (restarted.listAccounts crypto passphrase walletId) := by
  unfold KeyBackend.listAccounts
  rcases h.ensureWalletState crypto passphrase walletId with
    ⟨e, he, he'⟩ | ⟨v, states, states', state, seed, hp, hr, hcoupled, -⟩
  · rw [he, he']
    exact ⟨h, rfl⟩
  · rw [hp, hr]
    exact ⟨hcoupled, rfl⟩

theorem getXmtpIdentityKey (h : RestartCoupled plain restarted) (crypto : KeyDerivation)
    (passphrase walletId : String) (accountIndex : Nat) :
    Alike (plain.getXmtpIdentityKey crypto passphrase walletId accountIndex)
      (restarted.getXmtpIdentityKey crypto passphrase walletId accountIndex) := by
  unfold KeyBackend.getXmtpIdentityKey
  rcases h.ensureWalletState crypto passphrase walletId with
    ⟨e, he, he'⟩ | ⟨v, states, states', state, seed, hp, hr, hcoupled, -⟩
  · rw [he, he']
    exact ⟨h, rfl⟩
  · rw [hp, hr]
    dsimp only
    split
    · exact ⟨hcoupled, rfl⟩
    · exact ⟨hcoupled, rfl⟩

theorem createApiKey (h : RestartCoupled plain restarted)
    (passphrase walletId credentialId expiresAt token : String) (drawn : Bytes) :
    Alike (plain.createApiKey passphrase walletId credentialId expiresAt token drawn)
      (restarted.createApiKey passphrase walletId credentialId expiresAt token drawn) := by
  obtain ⟨v, states⟩ := plain
  obtain ⟨v', states'⟩ := restarted
  obtain rfl : v' = v := h.vault_eq
  unfold KeyBackend.createApiKey
  dsimp only
  cases v'.readWallet walletId passphrase with
  | error e => exact ⟨h, rfl⟩
  | ok mnemonic => exact ⟨h.kept (v'.createApiKey_kept _ _ _ _ _ _), rfl⟩

theorem revokeApiKey (h : RestartCoupled plain restarted) (keyId : String) :
    Alike (plain.revokeApiKey keyId) (restarted.revokeApiKey keyId) := by
  obtain ⟨v, states⟩ := plain
  obtain ⟨v', states'⟩ := restarted
  obtain rfl : v' = v := h.vault_eq
  exact ⟨h.kept (v'.revokeApiKey_kept keyId), rfl⟩

end RestartCoupled

/-! ### Signing -/

/-- The restarted backend has the account in memory if the other has. -/
def Finds (plain restarted : KeyBackend env) (walletId : String) (accountIndex : Nat) : Prop :=
  restarted.walletStates.has walletId = true ∨ plain.chainAt walletId accountIndex = none

/-- A key is derived, or the call throws. -/
theorem signWithSeed_not_err (crypto : KeyDerivation) (seed : Bytes) (accountIndex : Nat)
    (chain : AccountChain) (data : Bytes) (e : SignetError) :
    signWithSeed crypto seed accountIndex chain data ≠ .error (.err e) := by
  cases chain with
  | evm =>
    unfold signWithSeed deriveEvmKey checkSegment
    by_cases hindex : MAX_DERIVATION_INDEX < accountIndex
    · rw [if_pos hindex]
      exact nofun
    · rw [if_neg hindex]
      exact nofun
  | ed25519 =>
    unfold signWithSeed deriveEd25519Key checkSegment
    by_cases hindex : MAX_DERIVATION_INDEX < accountIndex
    · rw [if_pos hindex]
      exact nofun
    · rw [if_neg hindex]
      exact nofun

/-- The backends sign alike exactly if the restarted one finds what the other does. -/
theorem RestartCoupled.resolveAndSign_iff {plain restarted : KeyBackend env}
    (h : RestartCoupled plain restarted) (crypto : KeyDerivation) (walletId : String) (seed : Bytes)
    (accountIndex : Nat) (data : Bytes) :
    plain.resolveAndSign crypto walletId seed accountIndex data =
        restarted.resolveAndSign crypto walletId seed accountIndex data ↔
      Finds plain restarted walletId accountIndex := by
  unfold KeyBackend.resolveAndSign Finds
  cases hknown : restarted.walletStates.get? walletId with
  | some state =>
    have hstate : plain.walletStates.get? walletId = some state := h.known _ _ hknown
    have hsame : restarted.chainAt walletId accountIndex = plain.chainAt walletId accountIndex := by
      unfold KeyBackend.chainAt
      rw [hknown, hstate]
    rw [hsame]
    exact ⟨fun _ => .inl (OrdMap.has_eq_true_iff.2 ⟨state, hknown⟩), fun _ => rfl⟩
  | none =>
    -- the plain backend knows the wallet and signs; the restarted one finds no account
    have hhas : ¬ restarted.walletStates.has walletId = true := by
      rw [OrdMap.has_eq_true_iff]
      rintro ⟨state, hstate⟩
      rw [hknown] at hstate
      cases hstate
    have hnone : restarted.chainAt walletId accountIndex = none := by
      unfold KeyBackend.chainAt
      rw [hknown, Option.bind_none]
    rw [hnone]
    cases plain.chainAt walletId accountIndex with
    | none => exact ⟨fun _ => .inr rfl, fun _ => rfl⟩
    | some chain =>
      -- one of them answers that there is no account
      constructor
      · intro hsigned
        exact absurd hsigned (signWithSeed_not_err _ _ _ _ _ _)
      · rintro (hfound | hfound)
        · exact absurd hfound hhas
        · cases hfound

/-- When the restarted backend does what the other does. -/
def SignsAlike (passphrase : String) (plain restarted : KeyBackend env) : KeyBackendOp → Prop
  | .sign walletId accountIndex _ =>
    ∀ mnemonic, plain.vault.readWallet walletId passphrase = .ok mnemonic →
      Finds plain restarted walletId accountIndex
  | .signWithApiKey token accountIndex _ =>
    ∀ payload, plain.vault.readApiKey token = .ok payload →
      Finds plain restarted payload.walletId accountIndex
  | _ => True

theorem RestartCoupled.sign_iff {plain restarted : KeyBackend env}
    (h : RestartCoupled plain restarted)
    (crypto : KeyDerivation) (passphrase walletId : String) (accountIndex : Nat) (data : Bytes) :
    plain.sign crypto passphrase walletId accountIndex data =
        restarted.sign crypto passphrase walletId accountIndex data ↔
      SignsAlike passphrase plain restarted (.sign walletId accountIndex data) := by
  show _ ↔ ∀ mnemonic, plain.vault.readWallet walletId passphrase = .ok mnemonic →
    Finds plain restarted walletId accountIndex
  unfold KeyBackend.sign KeyBackend.getSeed
  rw [h.vault_eq]
  cases plain.vault.readWallet walletId passphrase with
  | error e => exact ⟨nofun, fun _ => rfl⟩
  | ok mnemonic =>
    simp only [ok_bind]
    rw [bind_ok_inj fun _ _ => KeyBackendResult.signature.inj, h.resolveAndSign_iff]
    exact ⟨fun hfinds _ _ => hfinds, fun hfinds => hfinds mnemonic rfl⟩

theorem RestartCoupled.signWithApiKey_iff {plain restarted : KeyBackend env}
    (h : RestartCoupled plain restarted) (crypto : KeyDerivation) (passphrase token : String)
    (accountIndex : Nat) (data : Bytes) :
    plain.signWithApiKey crypto token accountIndex data =
        restarted.signWithApiKey crypto token accountIndex data ↔
      SignsAlike passphrase plain restarted (.signWithApiKey token accountIndex data) := by
  show _ ↔ ∀ payload, plain.vault.readApiKey token = .ok payload →
    Finds plain restarted payload.walletId accountIndex
  unfold KeyBackend.signWithApiKey
  rw [h.vault_eq]
  cases plain.vault.readApiKey token with
  | error e => exact ⟨nofun, fun _ => rfl⟩
  | ok payload =>
    simp only [ok_bind]
    rw [bind_ok_inj fun _ _ => KeyBackendResult.signature.inj, h.resolveAndSign_iff]
    constructor
    · intro hfinds payload' heq
      obtain rfl := Except.ok.inj heq
      exact hfinds
    · intro hfinds
      exact hfinds payload rfl

/-- **One operation** keeps the backends coupled, and their results agree exactly if they
sign alike. -/
theorem RestartCoupled.step {plain restarted : KeyBackend env} (h : RestartCoupled plain restarted)
    (crypto : KeyDerivation) (passphrase : String) (op : KeyBackendOp) :
    RestartCoupled (plain.step crypto passphrase op).1 (restarted.step crypto passphrase op).1 ∧
      ((plain.step crypto passphrase op).2 = (restarted.step crypto passphrase op).2 ↔
        SignsAlike passphrase plain restarted op) := by
  have alike : ∀ {x y : KeyBackend env × KeyOutcome KeyBackendResult}, Alike x y →
      RestartCoupled x.1 y.1 ∧ (x.2 = y.2 ↔ True) :=
    fun hxy => ⟨hxy.1, fun _ => trivial, fun _ => hxy.2⟩
  cases op with
  | createWallet label id mnemonic drawn =>
    exact alike (h.createWallet passphrase label id mnemonic drawn)
  | deleteWallet walletId => exact alike (h.deleteWallet walletId)
  | listWallets =>
    refine alike ⟨h, ?_⟩
    show plain.listWallets = restarted.listWallets
    unfold KeyBackend.listWallets
    rw [h.vault_eq]
  | getWallet walletId =>
    refine alike ⟨h, ?_⟩
    show plain.getWallet walletId = restarted.getWallet walletId
    unfold KeyBackend.getWallet
    rw [h.vault_eq]
  | deriveAccount walletId chain =>
    exact alike (h.deriveAccount crypto passphrase walletId chain)
  | listAccounts walletId => exact alike (h.listAccounts crypto passphrase walletId)
  | getXmtpIdentityKey walletId accountIndex =>
    exact alike (h.getXmtpIdentityKey crypto passphrase walletId accountIndex)
  | sign walletId accountIndex data =>
    exact ⟨h, h.sign_iff crypto passphrase walletId accountIndex data⟩
  | createApiKey walletId credentialId expiresAt token drawn =>
    exact alike (h.createApiKey passphrase walletId credentialId expiresAt token drawn)
  | revokeApiKey keyId => exact alike (h.revokeApiKey keyId)
  | signWithApiKey token accountIndex data =>
    exact ⟨h, h.signWithApiKey_iff crypto passphrase token accountIndex data⟩

/-! ### Runs -/

/-- An operation, and whether the backend is made anew before it. -/
structure RestartStep where
  restart : Bool
  op : KeyBackendOp

def KeyBackend.restartAt (b : KeyBackend env) (restart : Bool) : KeyBackend env :=
  if restart then b.restart else b

section Runs

variable (crypto : KeyDerivation) (passphrase : String)

/-- The backend that goes on, after some steps. -/
def KeyBackend.plainAfter (b : KeyBackend env) (steps : List RestartStep) : KeyBackend env :=
  steps.foldl (fun b s => (b.step crypto passphrase s.op).1) b

/-- The backend that is made anew, after some steps. -/
def KeyBackend.restartedAfter (b : KeyBackend env) (steps : List RestartStep) : KeyBackend env :=
  steps.foldl (fun b s => ((b.restartAt s.restart).step crypto passphrase s.op).1) b

/-- Every operation returns what it returns without the restarts. -/
def RestartTransparent (v : Vault env) (steps : List RestartStep) : Prop :=
  ∀ before s after, steps = before ++ s :: after →
    (((KeyBackend.create v).plainAfter crypto passphrase before).step crypto passphrase s.op).2 =
      ((((KeyBackend.create v).restartedAfter crypto passphrase before).restartAt s.restart).step
        crypto passphrase s.op).2

end Runs

theorem RestartCoupled.restartAt {plain restarted : KeyBackend env}
    (h : RestartCoupled plain restarted) (restart : Bool) :
    RestartCoupled plain (restarted.restartAt restart) := by
  cases restart with
  | true => exact h.restart
  | false => exact h

/-- Backends stay coupled. -/
theorem RestartCoupled.after {plain restarted : KeyBackend env} (h : RestartCoupled plain restarted)
    (crypto : KeyDerivation) (passphrase : String) (steps : List RestartStep) :
    RestartCoupled (plain.plainAfter crypto passphrase steps)
      (restarted.restartedAfter crypto passphrase steps) := by
  induction steps generalizing plain restarted with
  | nil => exact h
  | cons s steps ih => exact ih ((h.restartAt s.restart).step crypto passphrase s.op).1

end

/-- **Restarts**: every operation of a run returns what it returns without the restarts, if and
only if at every `sign` and `signWithApiKey` the restarted backend knows the wallet, or the
other does not know the account either. -/
theorem restart_transparent_iff {β γ : Type} {env : VaultEnv β γ} (crypto : KeyDerivation)
    (passphrase : String) (v : Vault env) (steps : List RestartStep) :
    RestartTransparent crypto passphrase v steps ↔
      ∀ before s after, steps = before ++ s :: after →
        SignsAlike passphrase ((KeyBackend.create v).plainAfter crypto passphrase before)
          (((KeyBackend.create v).restartedAfter crypto passphrase before).restartAt s.restart)
          s.op := by
  refine forall_congr' fun before => forall_congr' fun s => forall_congr' fun after =>
    forall_congr' fun _ => ?_
  have hcoupled := ((RestartCoupled.create v).after crypto passphrase before).restartAt s.restart
  exact (hcoupled.step crypto passphrase s.op).2

/-! ### A wallet with one account -/

namespace RecordedWallet

def walletId : Uuid :=
  ⟨"9b1deb4d-3b7d-4bad-9bdd-2b0d7b3dcb6d", by decide +kernel⟩

/-- A wallet with an account is made. -/
def made : List RestartStep :=
  [⟨false, .createWallet "main" walletId mnemonic []⟩,
   ⟨false, .deriveAccount walletId.1 .ed25519⟩]

end RecordedWallet

open RecordedWallet in
/-- **After a restart a stored account does not sign.** -/
theorem account_lost_by_restart : ¬ ∀ (crypto : KeyDerivation) (passphrase : String)
    (v : Vault OneKey.env) (steps : List RestartStep),
      RestartTransparent crypto passphrase v steps := by
  intro hclaim
  have hsame := hclaim crypto "passphrase" .newFile (made ++ [⟨true, .sign walletId.1 0 data⟩])
    made ⟨true, .sign walletId.1 0 data⟩ [] rfl
  -- before the restart the account signs
  have hplain : (((KeyBackend.create (.newFile : Vault OneKey.env)).plainAfter crypto "passphrase"
      made).step crypto "passphrase" (.sign walletId.1 0 data)).2 =
      .ok (.signature ⟨signature₀, key₀.publicKey, "ed25519"⟩) := by
    decide +kernel
  rw [hplain] at hsame
  have hrestarted : ((((KeyBackend.create (.newFile : Vault OneKey.env)).restartedAfter crypto
      "passphrase" made).restartAt true).step crypto "passphrase" (.sign walletId.1 0 data)).2 =
      .error (.err (.notFoundError "Account" (walletId.1 ++ "/" ++ toString 0))) := by
    decide +kernel
  rw [hrestarted] at hsame
  cases hsame

end Signet
