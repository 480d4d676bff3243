import Signet.Keys.Vault

/-!
# API keys of a vault

When API keys work exactly while they are valid, and alike in both vaults
(`api_keys_valid_iff`), for every sequence of `createApiKey`, `revokeApiKey` and `readApiKey`
with distinct tokens. Neither vault looks at `expiresAt`, so a key has to be unexpired whenever
it is read. The in-memory vault takes the empty id for a missing one; the file vault knows a key
by its path, which another id may name too, or which may lie outside its directory.

The keys that are valid but for the time are the ring of the calls so far (`ring`, by history
`Live`). Both vaults hold nothing but the ring: the in-memory one all of it (`MemoryInv`), the
file vault what has not been overwritten or removed through another id (`FileInv`).
-/

namespace Signet

open Lib

/-! ### Calls and what they mean -/

inductive ApiKeyCall where
  /-- `drawn`: salt and nonce. -/
  | createApiKey (id walletId mnemonic token expiresAt : String) (drawn : Bytes)
  | revokeApiKey (id : String)
  | readApiKey (token : String) (now : Time)
  deriving DecidableEq

/-- What a key is created with. -/
structure ApiKey where
  walletId : String
  mnemonic : String
  token : String
  expiresAt : String
  deriving DecidableEq

def ApiKey.payload (key : ApiKey) : ApiKeyPayload :=
  ⟨key.mnemonic, key.walletId⟩

namespace ApiKeyCall

/-- The call creates or revokes a key with the id. -/
def touches (id : String) : ApiKeyCall → Prop
  | createApiKey id' _ _ _ _ _ => id' = id
  | revokeApiKey id' => id' = id
  | readApiKey _ _ => False

def token? : ApiKeyCall → Option String
  | createApiKey _ _ _ token _ _ => some token
  | _ => none

def onRing (keys : OrdMap String ApiKey) : ApiKeyCall → OrdMap String ApiKey
  | createApiKey id walletId mnemonic token expiresAt _ =>
    keys.set id ⟨walletId, mnemonic, token, expiresAt⟩
  | revokeApiKey id => keys.erase id
  | readApiKey _ _ => keys

end ApiKeyCall

/-- The key was created, and not revoked or replaced by a later key of the same id. -/
def Live (calls : List ApiKeyCall) (id : String) (key : ApiKey) : Prop :=
  ∃ before after drawn,
    calls = before ++
      .createApiKey id key.walletId key.mnemonic key.token key.expiresAt drawn :: after ∧
    ∀ call ∈ after, ¬ call.touches id

/-- The keys that are live. -/
def ring (calls : List ApiKeyCall) : OrdMap String ApiKey :=
  calls.foldl ApiKeyCall.onRing .empty

def tokens (calls : List ApiKeyCall) : List String :=
  calls.filterMap ApiKeyCall.token?

section

variable {calls : List ApiKeyCall} {call : ApiKeyCall} {id token : String} {key : ApiKey}

@[simp] theorem ring_nil : ring [] = .empty := rfl

theorem ring_snoc (calls : List ApiKeyCall) (call : ApiKeyCall) :
    ring (calls ++ [call]) = call.onRing (ring calls) := by
  rw [ring, List.foldl_append, List.foldl_cons, List.foldl_nil, ring]

/-- The last call decides, or the calls before it. -/
theorem live_snoc : Live (calls ++ [call]) id key ↔
    (∃ drawn, call = .createApiKey id key.walletId key.mnemonic key.token key.expiresAt drawn) ∨
      (Live calls id key ∧ ¬ call.touches id) := by
  constructor
  · rintro ⟨before, after, drawn, hcalls, hafter⟩
    rcases List.eq_nil_or_concat' after with rfl | ⟨rest, last, rfl⟩
    · obtain ⟨-, hcall⟩ := List.append_inj' hcalls rfl
      exact .inl ⟨drawn, List.singleton_inj.1 hcall⟩
    · rw [← List.cons_append, ← List.append_assoc] at hcalls
      obtain ⟨hold, hlast⟩ := List.append_inj' hcalls rfl
      obtain rfl := List.singleton_inj.1 hlast
      have hrest : ∀ c ∈ rest, ¬ c.touches id :=
        fun c hc => hafter c (List.mem_append_left _ hc)
      exact .inr ⟨⟨before, rest, drawn, hold, hrest⟩,
        hafter _ (List.mem_append_right _ List.mem_cons_self)⟩
  · rintro (⟨drawn, rfl⟩ | ⟨⟨before, after, drawn, rfl, hafter⟩, htouches⟩)
    · exact ⟨calls, [], drawn, rfl, nofun⟩
    · refine ⟨before, after ++ [call], drawn, by simp, fun c hc => ?_⟩
      rcases List.mem_append.1 hc with hold | hlast
      · exact hafter c hold
      · rw [List.mem_singleton.1 hlast]
        exact htouches

/-- **The ring holds the live keys.** -/
theorem ring_get? : (ring calls).get? id = some key ↔ Live calls id key := by
  induction calls using List.reverseRecOn with
  | nil =>
    constructor
    · exact nofun
    · rintro ⟨before, after, drawn, hnil, -⟩
      exact absurd hnil.symm (by simp)
  | append_singleton calls call ih =>
    rw [ring_snoc, live_snoc, ← ih]
    cases call with
    | createApiKey id' walletId mnemonic token expiresAt drawn =>
      show (OrdMap.set _ id' _).get? id = _ ↔ _
      rw [OrdMap.get?_set]
      by_cases hid : id = id'
      · subst hid
        obtain ⟨w, m, t, e⟩ := key
        simp [ApiKeyCall.touches]
      · have hne : id' ≠ id := Ne.symm hid
        simp [hid, hne, ApiKeyCall.touches]
    | revokeApiKey id' =>
      show (OrdMap.erase _ id').get? id = _ ↔ _
      rw [OrdMap.get?_erase]
      by_cases hid : id = id'
      · simp [hid, ApiKeyCall.touches]
      · have hne : id' ≠ id := Ne.symm hid
        simp [hid, hne, ApiKeyCall.touches]
    | readApiKey token now => simp [ApiKeyCall.onRing, ApiKeyCall.touches]

theorem tokens_snoc (calls : List ApiKeyCall) (call : ApiKeyCall) :
    tokens (calls ++ [call]) = tokens calls ++ call.token?.toList := by
  rw [tokens, List.filterMap_append, List.filterMap_cons, List.filterMap_nil, tokens]
  cases call.token? <;> rfl

/-- The token of a live key was given at its creation. -/
theorem token_mem_of_live (h : (ring calls).get? id = some key) : key.token ∈ tokens calls := by
  obtain ⟨before, after, drawn, rfl, -⟩ := ring_get?.1 h
  exact List.mem_filterMap.2 ⟨_, List.mem_append_right _ List.mem_cons_self, rfl⟩

/-- Live keys with one token are one key. -/
theorem live_token_unique (hdistinct : (tokens calls).Nodup) {id' : String} {key' : ApiKey}
    (h : (ring calls).get? id = some key) (h' : (ring calls).get? id' = some key')
    (htoken : key.token = key'.token) : id = id' := by
  induction calls using List.reverseRecOn generalizing key key' with
  | nil => cases h
  | append_singleton calls call ih =>
    rw [tokens_snoc] at hdistinct
    have hold := (List.nodup_append.1 hdistinct).1
    rw [ring_snoc] at h h'
    cases call with
    | createApiKey id₀ walletId mnemonic token expiresAt drawn =>
      -- the new token is no old one
      have hnew : ∀ {id₁ key₁}, (ring calls).get? id₁ = some key₁ → key₁.token ≠ token := by
        intro id₁ key₁ h₁
        exact (List.nodup_append.1 hdistinct).2.2 _ (token_mem_of_live h₁) _
          List.mem_cons_self
      rcases OrdMap.get?_set_eq_some h with ⟨rfl, rfl⟩ | ⟨-, h₁⟩
      · rcases OrdMap.get?_set_eq_some h' with ⟨rfl, -⟩ | ⟨-, h₁'⟩
        · rfl
        · exact absurd htoken.symm (hnew h₁')
      · rcases OrdMap.get?_set_eq_some h' with ⟨rfl, rfl⟩ | ⟨-, h₁'⟩
        · exact absurd htoken (hnew h₁)
        · exact ih hold h₁ h₁' htoken
    | revokeApiKey id₀ =>
      exact ih hold (OrdMap.get?_erase_eq_some h).2 (OrdMap.get?_erase_eq_some h').2 htoken
    | readApiKey token now => exact ih hold h h' htoken

end

/-! ### The calls on a vault -/

section

variable {β γ : Type} {env : VaultEnv β γ}

/-- A call of the vault; a created or revoked key returns nothing. -/
def Vault.apiKeyCall (v : Vault env) :
    ApiKeyCall → Vault env × KeyOutcome (Option ApiKeyPayload)
  | .createApiKey id walletId mnemonic token expiresAt drawn =>
    let r := v.createApiKey id walletId mnemonic token expiresAt drawn
    (r.1, r.2.map fun _ => none)
  | .revokeApiKey id =>
    let r := v.revokeApiKey id
    (r.1, r.2.map fun _ => none)
  | .readApiKey token _ => (v, (v.readApiKey token).map some)

def Vault.after (v : Vault env) (calls : List ApiKeyCall) : Vault env :=
  calls.foldl (fun v call => (v.apiKeyCall call).1) v

theorem Vault.after_snoc (v : Vault env) (calls : List ApiKeyCall) (call : ApiKeyCall) :
    v.after (calls ++ [call]) = ((v.after calls).apiKeyCall call).1 := by
  rw [after, List.foldl_append, List.foldl_cons, List.foldl_nil, after]

def ApiKeyFile.HoldsKey (env : VaultEnv β γ) (file : ApiKeyFile γ) (key : ApiKey) : Prop :=
  ∃ drawn, file.crypto = env.apiKeyCipher.encrypt drawn key.payload key.token

/-- The file is decrypted with the token of its key. -/
theorem ApiKeyFile.HoldsKey.decrypt {file : ApiKeyFile γ} {key : ApiKey} {token : String}
    {payload : ApiKeyPayload} (h : file.HoldsKey env key) :
    env.apiKeyCipher.decrypt file.crypto token = some payload ↔
      key.token = token ∧ payload = key.payload := by
  obtain ⟨drawn, hcrypto⟩ := h
  rw [hcrypto, env.apiKeyCipher.decrypt_encrypt, Option.ite_none_right_eq_some]
  constructor
  · rintro ⟨htoken, hpayload⟩
    exact ⟨htoken.symm, (Option.some.inj hpayload).symm⟩
  · rintro ⟨htoken, hpayload⟩
    exact ⟨htoken.symm, congrArg some hpayload.symm⟩

/-! ### The in-memory vault -/

/-- The in-memory vault holds the ring. -/
structure MemoryInv (env : VaultEnv β γ) (calls : List ApiKeyCall) (v : MemoryVault β γ) :
    Prop where
  keys : ∀ id key, (ring calls).get? id = some key →
    v.tokenIndex.get? key.token = some id ∧ ∃ file, v.apiKeys.get? id = some file
  files : ∀ id file, v.apiKeys.get? id = some file →
    ∃ key, (ring calls).get? id = some key ∧ file.HoldsKey env key
  index : ∀ token id, v.tokenIndex.get? token = some id → token ∈ tokens calls

variable {calls : List ApiKeyCall} {call : ApiKeyCall} {id token : String}

theorem MemoryInv.has {v : MemoryVault β γ} (h : MemoryInv env calls v) :
    v.apiKeys.has id = true ↔ ∃ key, (ring calls).get? id = some key := by
  rw [OrdMap.has_eq_true_iff]
  constructor
  · rintro ⟨file, hfile⟩
    obtain ⟨key, hkey, -⟩ := h.files id file hfile
    exact ⟨key, hkey⟩
  · rintro ⟨key, hkey⟩
    exact (h.keys id key hkey).2

/-- A live key is read unless its id is empty. -/
theorem MemoryInv.read {v : MemoryVault β γ} (h : MemoryInv env calls v)
    {payload : ApiKeyPayload} :
    v.readApiKey env token = .ok payload ↔
      ∃ id key, (ring calls).get? id = some key ∧ key.token = token ∧ id ≠ "" ∧
        payload = key.payload := by
  unfold MemoryVault.readApiKey
  constructor
  · intro hread
    cases hindex : v.tokenIndex.get? token with
    | none =>
      rw [hindex] at hread
      cases hread
    | some id =>
      rw [hindex] at hread
      by_cases hid : id = ""
      · simp only [if_pos hid] at hread
        cases hread
      simp only [if_neg hid] at hread
      cases hfile : v.apiKeys.get? id with
      | none =>
        rw [hfile] at hread
        cases hread
      | some file =>
        obtain ⟨key, hkey, hholds⟩ := h.files id file hfile
        rw [hfile] at hread
        cases hdecrypt : env.apiKeyCipher.decrypt file.crypto token with
        | none =>
          simp only [hdecrypt] at hread
          cases hread
        | some found =>
          simp only [hdecrypt] at hread
          obtain rfl := Except.ok.inj hread
          obtain ⟨htoken, hpayload⟩ := hholds.decrypt.1 hdecrypt
          exact ⟨id, key, hkey, htoken, hid, hpayload⟩
  · rintro ⟨id, key, hkey, rfl, hid, rfl⟩
    obtain ⟨hindex, file, hfile⟩ := h.keys id key hkey
    obtain ⟨key', hkey', hholds⟩ := h.files id file hfile
    rw [hkey] at hkey'
    obtain rfl := Option.some.inj hkey'
    have hdecrypt := hholds.decrypt.2 ⟨rfl, rfl⟩
    simp only [hindex, if_neg hid, hfile, hdecrypt]

/-- The index forgets a token of the revoked key only. -/
theorem MemoryVault.get?_forgetToken {v : MemoryVault β γ} {id' : String} (hne : id' ≠ id)
    (hindex : v.tokenIndex.get? token = some id') :
    (v.forgetToken id).get? token = some id' := by
  unfold forgetToken
  split
  · exact hindex
  · next token' other hfind =>
    have hother : other = id := by simpa using List.find?_some hfind
    have hmem := OrdMap.mem_entries_iff.1 (List.mem_of_find?_eq_some hfind)
    have htoken : token ≠ token' := by
      rintro rfl
      rw [hindex] at hmem
      exact hne ((Option.some.inj hmem).trans hother)
    rw [OrdMap.get?_erase_of_ne _ htoken]
    exact hindex

theorem MemoryVault.of_forgetToken {v : MemoryVault β γ} {id' : String}
    (hindex : (v.forgetToken id).get? token = some id') : v.tokenIndex.get? token = some id' := by
  unfold forgetToken at hindex
  split at hindex
  · exact hindex
  · exact (OrdMap.get?_erase_eq_some hindex).2

theorem MemoryInv.createApiKey {v : MemoryVault β γ} (h : MemoryInv env calls v)
    {walletId mnemonic expiresAt : String} {drawn : Bytes} (hnew : token ∉ tokens calls) :
    MemoryInv env (calls ++ [.createApiKey id walletId mnemonic token expiresAt drawn])
      (v.createApiKey env id walletId mnemonic token expiresAt drawn).1 where
  keys := by
    intro id' key hkey
    rw [ring_snoc] at hkey
    rcases OrdMap.get?_set_eq_some hkey with ⟨rfl, rfl⟩ | ⟨hne, hold⟩
    · exact ⟨OrdMap.get?_set_self _ _ _, _, OrdMap.get?_set_self _ _ _⟩
    · obtain ⟨hindex, file, hfile⟩ := h.keys id' key hold
      have htoken : key.token ≠ token := by
        rintro rfl
        exact hnew (token_mem_of_live hold)
      refine ⟨?_, file, ?_⟩
      · exact (OrdMap.get?_set_of_ne _ _ htoken).trans hindex
      · exact (OrdMap.get?_set_of_ne _ _ hne).trans hfile
  files := by
    intro id' file hfile
    rw [ring_snoc]
    rcases OrdMap.get?_set_eq_some hfile with ⟨rfl, rfl⟩ | ⟨hne, hold⟩
    · exact ⟨_, OrdMap.get?_set_self _ _ _, drawn, rfl⟩
    · obtain ⟨key, hkey, hholds⟩ := h.files id' file hold
      exact ⟨key, (OrdMap.get?_set_of_ne _ _ hne).trans hkey, hholds⟩
  index := by
    intro token' id' hindex
    rw [tokens_snoc]
    rcases OrdMap.get?_set_eq_some hindex with ⟨rfl, -⟩ | ⟨-, hold⟩
    · exact List.mem_append_right _ List.mem_cons_self
    · exact List.mem_append_left _ (h.index token' id' hold)

theorem MemoryInv.revokeApiKey {v : MemoryVault β γ} (h : MemoryInv env calls v) (id : String) :
    MemoryInv env (calls ++ [.revokeApiKey id]) (v.revokeApiKey id).1 := by
  have htokens : tokens (calls ++ [.revokeApiKey id]) = tokens calls := by
    rw [tokens_snoc]
    exact List.append_nil _
  unfold MemoryVault.revokeApiKey
  by_cases hhas : v.apiKeys.has id = true
  · rw [if_pos hhas]
    refine { keys := ?_, files := ?_, index := ?_ }
    · intro id' key hkey
      rw [ring_snoc] at hkey
      obtain ⟨hne, hold⟩ := OrdMap.get?_erase_eq_some hkey
      obtain ⟨hindex, file, hfile⟩ := h.keys id' key hold
      exact ⟨MemoryVault.get?_forgetToken hne hindex, file,
        (OrdMap.get?_erase_of_ne _ hne).trans hfile⟩
    · intro id' file hfile
      obtain ⟨hne, hold⟩ := OrdMap.get?_erase_eq_some hfile
      obtain ⟨key, hkey, hholds⟩ := h.files id' file hold
      rw [ring_snoc]
      exact ⟨key, (OrdMap.get?_erase_of_ne _ hne).trans hkey, hholds⟩
    · intro token id' hindex
      rw [htokens]
      exact h.index token id' (MemoryVault.of_forgetToken hindex)
  · -- no such key: nothing changes
    rw [if_neg hhas]
    have hnone : (ring calls).get? id = none := by
      by_contra hsome
      exact hhas (h.has.2 (Option.ne_none_iff_exists'.1 hsome))
    have hring : ∀ id', (ring (calls ++ [.revokeApiKey id])).get? id' = (ring calls).get? id' := by
      intro id'
      rw [ring_snoc]
      show (OrdMap.erase _ id).get? id' = _
      rw [OrdMap.get?_erase]
      by_cases hid : id' = id
      · rw [if_pos hid, hid, hnone]
      · rw [if_neg hid]
    refine { keys := ?_, files := ?_, index := ?_ }
    · intro id' key hkey
      rw [hring] at hkey
      exact h.keys id' key hkey
    · intro id' file hfile
      rw [hring]
      exact h.files id' file hfile
    · intro token id' hindex
      rw [htokens]
      exact h.index token id' hindex

theorem MemoryInv.readApiKey {v : MemoryVault β γ} (h : MemoryInv env calls v) (token : String)
    (now : Time) : MemoryInv env (calls ++ [.readApiKey token now]) v := by
  have hring : ring (calls ++ [.readApiKey token now]) = ring calls := ring_snoc _ _
  have htokens : tokens (calls ++ [.readApiKey token now]) = tokens calls := by
    rw [tokens_snoc]
    exact List.append_nil _
  refine { keys := ?_, files := ?_, index := ?_ }
  · rw [hring]
    exact h.keys
  · rw [hring]
    exact h.files
  · rw [htokens]
    exact h.index

/-- **Run lemma**: the in-memory vault holds the ring. -/
theorem memoryInv_after (env : VaultEnv β γ) (hdistinct : (tokens calls).Nodup) :
    ∃ v, (Vault.newMemory : Vault env).after calls = .memory v ∧ MemoryInv env calls v := by
  induction calls using List.reverseRecOn with
  | nil => exact ⟨_, rfl, { keys := nofun, files := nofun, index := nofun }⟩
  | append_singleton calls call ih =>
    rw [tokens_snoc] at hdistinct
    obtain ⟨v, hv, hinv⟩ := ih (List.nodup_append.1 hdistinct).1
    rw [Vault.after_snoc, hv]
    cases call with
    | createApiKey id walletId mnemonic token expiresAt drawn =>
      have hnew : token ∉ tokens calls := fun hmem =>
        (List.nodup_append.1 hdistinct).2.2 token hmem token List.mem_cons_self rfl
      exact ⟨_, rfl, hinv.createApiKey hnew⟩
    | revokeApiKey id => exact ⟨_, rfl, hinv.revokeApiKey id⟩
    | readApiKey token now => exact ⟨_, rfl, hinv.readApiKey token now⟩

/-! ### The file vault -/

/-- The key files are of the ring, and lie where their ids say. -/
def FileInv (calls : List ApiKeyCall) (v : FileVault env) : Prop :=
  ∀ p file, v.tree.get? p = some (.apiKey file) →
    p = env.keyPath file.id ∧ ∃ key, (ring calls).get? file.id = some key ∧ file.HoldsKey env key

/-- The file of the key lies in the directory of the keys, and still holds this key. -/
def InPlace (env : VaultEnv β γ) (t : FileTree env.storable (VaultFile β γ)) (id : String) :
    Prop :=
  ∃ file, t.get? (env.keyPath id) = some (.apiKey file) ∧ file.id = id ∧
    ∃ name, env.keyPath id = env.keysDir ++ [name]

theorem isJsonName_keyPath (env : VaultEnv β γ) (id : String) :
    FileVault.isJsonName (env.keyPath id) = true := by
  obtain ⟨dir, name, hsuffix, hjoin⟩ :=
    Path.join_suffix env.keysDir id ".json" (by decide) (by decide)
  have hlast : (env.keyPath id).getLastD "" = name := by
    rw [VaultEnv.keyPath, hjoin]
    simp
  unfold FileVault.isJsonName
  rw [hlast]
  exact List.isSuffixOf_iff_suffix.2 hsuffix

/-- A file of the ring is that of its key. -/
theorem FileInv.holds {v : FileVault env} (h : FileInv calls v) {p : Path} {file : ApiKeyFile γ}
    {key : ApiKey} (hfile : v.tree.get? p = some (.apiKey file))
    (hkey : (ring calls).get? file.id = some key) : file.HoldsKey env key := by
  obtain ⟨-, key', hkey', hholds⟩ := h p file hfile
  rw [hkey] at hkey'
  obtain rfl := Option.some.inj hkey'
  exact hholds

theorem FileInv.read {v : FileVault env} (h : FileInv calls v)
    (hdistinct : (tokens calls).Nodup) {payload : ApiKeyPayload} :
    v.readApiKey token = .ok payload ↔
      ∃ id key, (ring calls).get? id = some key ∧ key.token = token ∧ InPlace env v.tree id ∧
        payload = key.payload := by
  let tryFile (e : Path × VaultFile β γ) : Option ApiKeyPayload :=
    e.2.apiKey?.bind fun file => env.apiKeyCipher.decrypt file.crypto token
  let files := (v.tree.filesIn env.keysDir).filter fun e => FileVault.isJsonName e.1
  -- what a file gives is a live key with the token, whose file is in place
  have htry : ∀ e ∈ files, ∀ found, tryFile e = some found →
      ∃ id key, (ring calls).get? id = some key ∧ key.token = token ∧ InPlace env v.tree id ∧
        found = key.payload := by
    rintro ⟨p, vaultFile⟩ he found hfound
    obtain ⟨hget, name, hname⟩ := FileTree.mem_filesIn.1 (List.mem_filter.1 he).1
    obtain ⟨file, hfile, hdecrypt⟩ := Option.bind_eq_some_iff.1 hfound
    cases vaultFile with
    | wallet _ => cases hfile
    | apiKey file' =>
      obtain rfl := Option.some.inj hfile
      obtain ⟨hp, key, hkey, hholds⟩ := h p file' hget
      obtain ⟨htoken, hpayload⟩ := hholds.decrypt.1 hdecrypt
      subst hp
      exact ⟨file'.id, key, hkey, htoken, ⟨file', hget, rfl, name, hname⟩, hpayload⟩
  have hread : v.readApiKey token = .ok payload ↔ files.findSome? tryFile = some payload := by
    unfold FileVault.readApiKey
    dsimp only
    split
    · next hnone =>
      rw [show files.findSome? tryFile = none from hnone]
      exact ⟨by rintro ⟨⟩, by rintro ⟨⟩⟩
    · next found hfound =>
      rw [show files.findSome? tryFile = some found from hfound]
      exact ⟨fun hok => congrArg some (Except.ok.inj hok),
        fun hsome => congrArg Except.ok (Option.some.inj hsome)⟩
  rw [hread]
  constructor
  · intro hfind
    obtain ⟨e, he, hfound⟩ := List.exists_of_findSome?_eq_some hfind
    exact htry e he payload hfound
  · rintro ⟨id, key, hkey, rfl, ⟨file, hget, rfl, name, hname⟩, rfl⟩
    have he : (env.keyPath file.id, VaultFile.apiKey file) ∈ files :=
      List.mem_filter.2 ⟨FileTree.mem_filesIn.2 ⟨hget, name, hname⟩, isJsonName_keyPath env _⟩
    have hdecrypt : tryFile (env.keyPath file.id, .apiKey file) = some key.payload :=
      (h.holds hget hkey).decrypt.2 ⟨rfl, rfl⟩
    cases hfind : files.findSome? tryFile with
    | none =>
      rw [List.findSome?_eq_none_iff.1 hfind _ he] at hdecrypt
      cases hdecrypt
    | some found =>
      -- the first file that the token decrypts is of the same key
      obtain ⟨e', he', hfound⟩ := List.exists_of_findSome?_eq_some hfind
      obtain ⟨id', key', hkey', htoken', -, rfl⟩ := htry e' he' found hfound
      have hid : id' = file.id := live_token_unique hdistinct hkey' hkey htoken'
      rw [hid, hkey] at hkey'
      rw [Option.some.inj hkey']

theorem FileInv.createApiKey {v : FileVault env} (h : FileInv calls v)
    (id walletId mnemonic token expiresAt : String) (drawn : Bytes) :
    FileInv (calls ++ [.createApiKey id walletId mnemonic token expiresAt drawn])
      (v.createApiKey id walletId mnemonic token expiresAt drawn).1 := by
  -- a file under another path is of another key
  have hother : ∀ p file, v.tree.get? p = some (.apiKey file) → p ≠ env.keyPath id →
      p = env.keyPath file.id ∧
        ∃ key, (ring (calls ++ [.createApiKey id walletId mnemonic token expiresAt drawn])).get?
          file.id = some key ∧ file.HoldsKey env key := by
    intro p file hget hp
    obtain ⟨hplace, key, hkey, hholds⟩ := h p file hget
    have hne : file.id ≠ id := by
      rintro rfl
      exact hp hplace
    rw [ring_snoc]
    exact ⟨hplace, key, (OrdMap.get?_set_of_ne _ _ hne).trans hkey, hholds⟩
  unfold FileVault.createApiKey
  intro p file hget
  dsimp only at hget
  split at hget
  · next hwrite =>
    refine hother p file hget ?_
    rintro rfl
    -- an existing file could have been written
    exact FileTree.write_eq_none.1 (FileVault.write_eq_none hwrite)
      (FileTree.canWrite_of_get? hget)
  · next v' hwrite =>
    rw [FileTree.get?_write (FileVault.write_eq_some hwrite)] at hget
    by_cases hp : p = env.keyPath id
    · rw [if_pos hp] at hget
      cases hget
      rw [ring_snoc]
      exact ⟨hp, _, OrdMap.get?_set_self _ _ _, drawn, rfl⟩
    · rw [if_neg hp] at hget
      exact hother p file hget hp

theorem FileInv.revokeApiKey {v : FileVault env} (h : FileInv calls v) (id : String) :
    FileInv (calls ++ [.revokeApiKey id]) (v.revokeApiKey id).1 := by
  intro p file hget
  obtain ⟨hp, hold⟩ := FileVault.get?_remove hget
  obtain ⟨hplace, key, hkey, hholds⟩ := h p file hold
  have hne : file.id ≠ id := by
    rintro rfl
    exact hp hplace
  rw [ring_snoc]
  exact ⟨hplace, key, (OrdMap.get?_erase_of_ne _ hne).trans hkey, hholds⟩

/-- **Run lemma**: the file vault holds nothing but the ring. -/
theorem fileInv_after (env : VaultEnv β γ) (calls : List ApiKeyCall) :
    ∃ v, (Vault.newFile : Vault env).after calls = .file v ∧ FileInv calls v := by
  induction calls using List.reverseRecOn with
  | nil => exact ⟨_, rfl, nofun⟩
  | append_singleton calls call ih =>
    obtain ⟨v, hv, hinv⟩ := ih
    rw [Vault.after_snoc, hv]
    cases call with
    | createApiKey id walletId mnemonic token expiresAt drawn =>
      exact ⟨_, rfl, hinv.createApiKey id walletId mnemonic token expiresAt drawn⟩
    | revokeApiKey id => exact ⟨_, rfl, hinv.revokeApiKey id⟩
    | readApiKey token now =>
      refine ⟨v, rfl, ?_⟩
      unfold FileInv
      rw [ring_snoc]
      exact hinv

theorem FileVault.createApiKey_eq_ok {v : FileVault env}
    {walletId mnemonic expiresAt : String} {drawn : Bytes} :
    (v.createApiKey id walletId mnemonic token expiresAt drawn).2 = .ok () ↔
      v.tree.canWrite (env.keyPath id) := by
  unfold FileVault.createApiKey
  dsimp only
  split
  · next hwrite =>
    exact ⟨nofun, fun hcan => absurd hcan (FileTree.write_eq_none.1 (write_eq_none hwrite))⟩
  · next v' hwrite =>
    obtain ⟨hcan, -⟩ := FileTree.write_eq_some.1 (write_eq_some hwrite)
    exact ⟨fun _ => hcan, fun _ => rfl⟩

theorem MemoryInv.revoke_eq_ok {v : MemoryVault β γ} (h : MemoryInv env calls v) :
    (v.revokeApiKey id).2 = .ok () ↔ ∃ key, (ring calls).get? id = some key := by
  rw [← h.has]
  unfold MemoryVault.revokeApiKey
  by_cases hhas : v.apiKeys.has id = true
  · rw [if_pos hhas]
    exact ⟨fun _ => hhas, fun _ => rfl⟩
  · rw [if_neg hhas]
    exact ⟨nofun, fun h' => absurd h' hhas⟩

end

/-! ### Keys that work while they are valid -/

/-- Both calls return `Ok` with the same value, or neither does. -/
def SameOk {α : Type} (a b : KeyOutcome α) : Prop :=
  ∀ value, a = .ok value ↔ b = .ok value

/-- `readApiKey` returns `Ok` exactly for a live key that has not expired, with its wallet. -/
def ReadsValid (inFuture : String → Time → Bool) (before : List ApiKeyCall) :
    ApiKeyCall → KeyOutcome (Option ApiKeyPayload) → Prop
  | .readApiKey token now, result => ∀ payload, result = .ok (some payload) ↔
      ∃ id key, Live before id key ∧ key.token = token ∧ inFuture key.expiresAt now = true ∧
        payload = key.payload
  | _, _ => True

section

variable {β γ : Type} (env : VaultEnv β γ) (inFuture : String → Time → Bool)

/-- API keys work exactly while they are valid, and alike in both vaults. -/
def KeysWorkWhileValid (calls : List ApiKeyCall) : Prop :=
  ∀ before call after, calls = before ++ call :: after →
    ReadsValid inFuture before call
      (((Vault.newMemory : Vault env).after before).apiKeyCall call).2 ∧
    ReadsValid inFuture before call
      (((Vault.newFile : Vault env).after before).apiKeyCall call).2 ∧
    SameOk (((Vault.newMemory : Vault env).after before).apiKeyCall call).2
      (((Vault.newFile : Vault env).after before).apiKeyCall call).2

variable {env} in
/-- The files of a vault. -/
def Vault.tree : Vault env → FileTree env.storable (VaultFile β γ)
  | memory _ => .ofDirectories []
  | file v => v.tree

/-- The condition on a call, and on the file tree before it: a file can be created; a path is a
file exactly if the key is live; a key that is read is unexpired exactly if its id is not empty,
and exactly if its file is in place. -/
def WorksAt (before : List ApiKeyCall) : ApiKeyCall → Prop
  | .createApiKey id _ _ _ _ _ =>
    ((Vault.newFile : Vault env).after before).tree.canWrite (env.keyPath id)
  | .revokeApiKey id => (∃ key, Live before id key) ↔
      ((Vault.newFile : Vault env).after before).tree.isFile (env.keyPath id) = true
  | .readApiKey token now => ∀ id key, Live before id key → key.token = token →
      (inFuture key.expiresAt now = true ↔ id ≠ "") ∧
        (inFuture key.expiresAt now = true ↔
          InPlace env ((Vault.newFile : Vault env).after before).tree id)

variable {env inFuture} {before : List ApiKeyCall}

/-- Results of calls that return nothing. -/
theorem sameOk_unit {a b : KeyOutcome Unit} :
    SameOk (a.map fun _ => (none : Option ApiKeyPayload)) (b.map fun _ => none) ↔
      (a = .ok () ↔ b = .ok ()) := by
  have hmap : ∀ (x : KeyOutcome Unit) value,
      (x.map fun _ => (none : Option ApiKeyPayload)) = .ok value ↔ x = .ok () ∧ value = none := by
    intro x value
    cases x with
    | error e => exact ⟨nofun, fun h => nomatch h.1⟩
    | ok _ => exact ⟨fun h => ⟨rfl, (Except.ok.inj h).symm⟩, fun h => congrArg Except.ok h.2.symm⟩
  unfold SameOk
  simp only [hmap]
  constructor
  · intro h
    simpa using h none
  · intro h value
    rw [h]

theorem map_some_eq_ok {a : KeyOutcome ApiKeyPayload} {payload : ApiKeyPayload} :
    a.map some = .ok (some payload) ↔ a = .ok payload := by
  cases a with
  | error e => exact ⟨nofun, nofun⟩
  | ok found =>
    exact ⟨fun h => congrArg Except.ok (Option.some.inj (Except.ok.inj h)),
      fun h => congrArg (Except.ok ∘ some) (Except.ok.inj h)⟩

theorem map_some_ne_none {a : KeyOutcome ApiKeyPayload} : a.map some ≠ .ok none := by
  cases a with
  | error e => exact nofun
  | ok found => exact nofun

/-- Reading by one criterion is reading by another exactly if they agree on the live keys with
the token. -/
theorem reads_iff (hdistinct : (tokens before).Nodup) {token : String}
    {P Q : String → ApiKey → Prop} :
    (∀ payload : ApiKeyPayload,
      (∃ id key, (ring before).get? id = some key ∧ key.token = token ∧ P id key ∧
        payload = key.payload) ↔
      ∃ id key, (ring before).get? id = some key ∧ key.token = token ∧ Q id key ∧
        payload = key.payload) ↔
    ∀ id key, (ring before).get? id = some key → key.token = token → (P id key ↔ Q id key) := by
  constructor
  · intro h id key hkey htoken
    -- the key is the only one with the token
    have honly : ∀ {R : String → ApiKey → Prop}, (∃ id' key', (ring before).get? id' = some key' ∧
        key'.token = token ∧ R id' key' ∧ key.payload = key'.payload) → R id key := by
      rintro R ⟨id', key', hkey', htoken', hR, -⟩
      have hid : id' = id := live_token_unique hdistinct hkey' hkey (htoken'.trans htoken.symm)
      rw [hid, hkey] at hkey'
      rw [hid, ← Option.some.inj hkey'] at hR
      exact hR
    exact ⟨fun hP => honly ((h key.payload).1 ⟨id, key, hkey, htoken, hP, rfl⟩),
      fun hQ => honly ((h key.payload).2 ⟨id, key, hkey, htoken, hQ, rfl⟩)⟩
  · intro h payload
    constructor
    · rintro ⟨id, key, hkey, htoken, hP, hpayload⟩
      exact ⟨id, key, hkey, htoken, (h id key hkey htoken).1 hP, hpayload⟩
    · rintro ⟨id, key, hkey, htoken, hQ, hpayload⟩
      exact ⟨id, key, hkey, htoken, (h id key hkey htoken).2 hQ, hpayload⟩

/-- A vault that reads by a criterion reads as it should exactly if the criterion is the time. -/
theorem readsValid_iff (inFuture : String → Time → Bool) (token : String) (now : Time)
    (hdistinct : (tokens before).Nodup) {result : KeyOutcome ApiKeyPayload} {P : String → Prop}
    (hresult : ∀ {payload}, result = .ok payload ↔
      ∃ id key, (ring before).get? id = some key ∧ key.token = token ∧ P id ∧
        payload = key.payload) :
    ReadsValid inFuture before (.readApiKey token now) (result.map some) ↔
      ∀ id key, (ring before).get? id = some key → key.token = token →
        (P id ↔ inFuture key.expiresAt now = true) := by
  unfold ReadsValid
  simp only [map_some_eq_ok, hresult, ← ring_get?]
  exact reads_iff hdistinct

theorem worksAt_iff (hdistinct : (tokens before).Nodup) (call : ApiKeyCall) :
    (ReadsValid inFuture before call
        (((Vault.newMemory : Vault env).after before).apiKeyCall call).2 ∧
      ReadsValid inFuture before call
        (((Vault.newFile : Vault env).after before).apiKeyCall call).2 ∧
      SameOk (((Vault.newMemory : Vault env).after before).apiKeyCall call).2
        (((Vault.newFile : Vault env).after before).apiKeyCall call).2) ↔
      WorksAt env inFuture before call := by
  obtain ⟨m, hm, hmemory⟩ := memoryInv_after env hdistinct
  obtain ⟨f, hf, hfile⟩ := fileInv_after env before
  rw [hm, hf]
  cases call with
  | createApiKey id walletId mnemonic token expiresAt drawn =>
    show (True ∧ True ∧
      SameOk ((m.createApiKey env id walletId mnemonic token expiresAt drawn).2.map
      fun _ => none) ((f.createApiKey id walletId mnemonic token expiresAt drawn).2.map
      fun _ => none)) ↔ ((Vault.newFile : Vault env).after before).tree.canWrite (env.keyPath id)
    rw [hf, sameOk_unit, FileVault.createApiKey_eq_ok, true_and, true_and]
    exact ⟨fun h => h.1 rfl, fun h => ⟨fun _ => h, fun _ => rfl⟩⟩
  | revokeApiKey id =>
    show (True ∧ True ∧ SameOk ((m.revokeApiKey id).2.map fun _ => none)
      ((f.revokeApiKey id).2.map fun _ => none)) ↔ ((∃ key, Live before id key) ↔
        ((Vault.newFile : Vault env).after before).tree.isFile (env.keyPath id) = true)
    simp only [← ring_get?]
    rw [hf, sameOk_unit, hmemory.revoke_eq_ok, true_and, true_and]
    exact iff_congr Iff.rfl FileVault.remove_eq_ok
  | readApiKey token now =>
    have hmem := readsValid_iff inFuture token now hdistinct hmemory.read
    have hfil := readsValid_iff inFuture token now hdistinct (hfile.read hdistinct)
    -- two vaults that read as they should read alike
    have hsame : ReadsValid inFuture before (.readApiKey token now)
        ((m.readApiKey env token).map some) → ReadsValid inFuture before (.readApiKey token now)
        ((f.readApiKey token).map some) →
        SameOk ((m.readApiKey env token).map some) ((f.readApiKey token).map some) := by
      intro h h' value
      cases value with
      | none => exact ⟨fun hnone => absurd hnone map_some_ne_none,
          fun hnone => absurd hnone map_some_ne_none⟩
      | some payload => exact (h payload).trans (h' payload).symm
    show (ReadsValid _ _ _ ((m.readApiKey env token).map some) ∧
      ReadsValid _ _ _ ((f.readApiKey token).map some) ∧ SameOk _ _) ↔
      ∀ id key, Live before id key → key.token = token →
        (inFuture key.expiresAt now = true ↔ id ≠ "") ∧ (inFuture key.expiresAt now = true ↔
          InPlace env ((Vault.newFile : Vault env).after before).tree id)
    rw [hf]
    simp only [← ring_get?]
    constructor
    · rintro ⟨h, h', -⟩ id key hkey htoken
      exact ⟨(hmem.1 h id key hkey htoken).symm, (hfil.1 h' id key hkey htoken).symm⟩
    · intro h
      have h₁ := hmem.2 fun id key hkey htoken => (h id key hkey htoken).1.symm
      have h₂ := hfil.2 fun id key hkey htoken => (h id key hkey htoken).2.symm
      exact ⟨h₁, h₂, hsame h₁ h₂⟩

end

/-- **API keys**: for every sequence of calls with distinct tokens, the keys work exactly while
they are valid, in both vaults and alike, if and only if every call meets the condition. -/
theorem api_keys_valid_iff {β γ : Type} (env : VaultEnv β γ) (inFuture : String → Time → Bool)
    {calls : List ApiKeyCall} (hdistinct : (tokens calls).Nodup) :
    KeysWorkWhileValid env inFuture calls ↔
      ∀ before call after, calls = before ++ call :: after →
        WorksAt env inFuture before call := by
  refine forall_congr' fun before => forall_congr' fun call => forall_congr' fun after =>
    forall_congr' fun hcalls => worksAt_iff ?_ call
  rw [hcalls, tokens, List.filterMap_append] at hdistinct
  exact (List.nodup_append.1 hdistinct).1

/-! ### A vault with one key -/

namespace OneKey

/-- A cipher that keeps the secret next to what it encrypts. -/
def cipher (π : Type) : Cipher (π × String) π where
  encrypt _ plaintext secret := (plaintext, secret)
  decrypt block secret := if secret = block.2 then some block.1 else none
  decrypt_encrypt _ _ _ _ := rfl

def env : VaultEnv (String × String) (ApiKeyPayload × String) where
  walletCipher := cipher String
  apiKeyCipher := cipher ApiKeyPayload
  dataDir := ["var", "signet"]
  storable p := p.all fun name => name.toList.length ≤ 255
  unlinkDirectory _ := "EISDIR: illegal operation on a directory, unlink"

def expiresAt : String := "1970-01-01T00:00:02.000Z"

def inFuture (text : String) (now : Time) : Bool :=
  text = expiresAt && now < 2000

def create : ApiKeyCall :=
  .createApiKey "key_1" "wallet_1" RecordedWallet.mnemonic "token_1" expiresAt []

/-- The key is created, read, revoked, and not found any more. -/
def unexpired : List ApiKeyCall :=
  [create, .readApiKey "token_1" 1000, .revokeApiKey "key_1", .readApiKey "token_1" 1500]

def key : ApiKey := ⟨"wallet_1", RecordedWallet.mnemonic, "token_1", expiresAt⟩

theorem live_create {id : String} {key' : ApiKey} (h : Live [create] id key') :
    id = "key_1" ∧ key' = key := by
  rcases OrdMap.get?_set_eq_some (ring_get?.2 h) with ⟨hid, hkey⟩ | ⟨-, hnone⟩
  · exact ⟨hid, hkey⟩
  · cases hnone

end OneKey

open OneKey in
/-- A key that is read before it expires and revoked works while it is valid. -/
theorem api_keys_valid_unexpired : KeysWorkWhileValid env inFuture unexpired := by
  refine (api_keys_valid_iff env inFuture (by decide)).2 ?_
  intro before call after hcalls
  rcases before with _ | ⟨c₁, _ | ⟨c₂, _ | ⟨c₃, _ | ⟨c₄, before⟩⟩⟩⟩
  · -- the key is created
    cases hcalls
    show FileTree.canWrite _ _
    decide +kernel
  · -- it is read
    cases hcalls
    intro id key' hlive _
    obtain ⟨rfl, rfl⟩ := live_create hlive
    have hplace : InPlace env ((Vault.newFile : Vault env).after [create]).tree "key_1" :=
      ⟨_, rfl, rfl, "key_1.json", by decide +kernel⟩
    exact ⟨⟨fun _ => by decide, fun _ => by decide⟩, fun _ => hplace, fun _ => by decide⟩
  · -- it is revoked
    cases hcalls
    exact ⟨fun _ => by decide +kernel, fun _ => ⟨key, ring_get?.1 rfl⟩⟩
  · -- it is live no more
    cases hcalls
    intro id key' hlive _
    have hnone := ring_get?.2 hlive
    obtain ⟨hid, hold⟩ := OrdMap.get?_erase_eq_some hnone
    exact absurd (live_create (ring_get?.1 hold)).1 hid
  · simp [unexpired] at hcalls

open OneKey in
/-- **An expired key is still read.** -/
theorem expired_key_read : ¬ ∀ (env : VaultEnv (String × String) (ApiKeyPayload × String))
    (inFuture : String → Time → Bool) (calls : List ApiKeyCall), (tokens calls).Nodup →
      KeysWorkWhileValid env inFuture calls := by
  intro hclaim
  have hworks := hclaim env inFuture [create, .readApiKey "token_1" 3000] (by decide)
  obtain ⟨hmemory, -⟩ := hworks [create] (.readApiKey "token_1" 3000) [] rfl
  obtain ⟨id, key', hlive, -, hfuture, -⟩ := (hmemory key.payload).1 rfl
  obtain ⟨-, rfl⟩ := live_create hlive
  exact absurd hfuture (by decide)

end Signet
