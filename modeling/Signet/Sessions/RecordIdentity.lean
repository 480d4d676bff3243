import Signet.Sessions.ServiceMachine

/-!
# What identifies a record

A record sits under its own id (`Keyed`) and keeps its chats for good
(`KeepsChats`), whatever the credential operations do to its scopes and its
status. The components around the credential service rest on these two facts when
they hold on to a credential across an await.
-/

namespace Signet

open Lib

def isActive (m : CredentialStore) (credentialId : String) : Bool :=
  (m.byId.get? credentialId).any (·.status = .active)

theorem isActive_iff {m : CredentialStore} {credentialId : String} :
    isActive m credentialId = true ↔
      ∃ r, m.byId.get? credentialId = some r ∧ r.status = .active := by
  simp [isActive, Option.any_eq_true]

/-- Every record stays and keeps its chats. -/
def KeepsChats (m m' : CredentialStore) : Prop :=
  ∀ {id r}, m.byId.get? id = some r → ∃ r', m'.byId.get? id = some r' ∧ r'.chatIds = r.chatIds

theorem Keeps.keepsChats {m m' : CredentialStore} (h : Keeps m m') : KeepsChats m m' := by
  intro id r hr
  obtain ⟨r', hr', hsame⟩ := h.forward hr
  exact ⟨r', hr', hsame.chatIds_eq⟩

/-- No credential operation changes the chats of a record, if ids are fresh. -/
theorem ServiceStep.keepsChats {s s' : ServiceState} {a : ServiceAction} {es : List ServiceEvent}
    (hfresh : freshCredentialId s a = true) (hstep : ServiceStep s a s' es) :
    KeepsChats s.store s'.store := by
  cases hstep with
  | framed hkeep _ => exact hkeep.keepsChats
  | @issued m record hkeep hstore _ hdrawn _ _ _ =>
    intro id r hr
    -- the record is new: its id was drawn and is nobody's, so no older record is overwritten
    have hunused : s.store.byId.get? record.credentialId = none := by
      simpa [freshCredentialId, hdrawn, OrdMap.has] using hfresh
    have hne : id ≠ record.credentialId := by
      rintro rfl
      rw [hunused] at hr
      cases hr
    obtain ⟨r', hr', heq⟩ := hkeep.keepsChats hr
    refine ⟨r', ?_, heq⟩
    rw [hstore, CredentialStore.get?_upsertRecord, if_neg hne]
    exact hr'
  | narrowed _ hnarrow _ =>
    cases hnarrow with
    | kept hkeep => exact hkeep.keepsChats
    | @applied r r' hr _ _ hset hsame _ =>
      intro id r₀ hr₀
      -- narrowing replaces the record by one with the same chats
      rw [hset]
      rw [OrdMap.get?_set]
      split
      · next hid =>
        subst hid
        rw [hr] at hr₀
        cases hr₀
        exact ⟨r', rfl, hsame.2.2.1⟩
      · exact ⟨r₀, hr₀, rfl⟩

/-- Every record sits under its own id. -/
def Keyed (m : CredentialStore) : Prop :=
  ∀ {id r}, m.byId.get? id = some r → r.credentialId = id

theorem Keyed.initial : Keyed .new := by
  intro id r hr
  simp [CredentialStore.new] at hr

theorem Keeps.keyed {m m' : CredentialStore} (h : Keeps m m') (hkeyed : Keyed m) : Keyed m' := by
  intro id r' hr'
  obtain ⟨r, hr, hsame⟩ := h.origin hr'
  rw [hsame.credentialId_eq]
  exact hkeyed hr

/-- Every credential operation keeps records under their ids. -/
theorem ServiceStep.keyed {s s' : ServiceState} {a : ServiceAction} {es : List ServiceEvent}
    (hstep : ServiceStep s a s' es) (hkeyed : Keyed s.store) : Keyed s'.store := by
  cases hstep with
  | framed hkeep _ => exact hkeep.keyed hkeyed
  | @issued m record hkeep hstore _ _ _ _ _ =>
    intro id r hr
    rw [hstore, CredentialStore.get?_upsertRecord] at hr
    split at hr
    · next hid =>
      cases hr
      exact hid.symm
    · exact hkeep.keyed hkeyed hr
  | narrowed _ hnarrow _ =>
    cases hnarrow with
    | kept hkeep => exact hkeep.keyed hkeyed
    | applied hr _ _ hset hsame _ =>
      intro id r₀ hr₀
      rw [hset] at hr₀
      rcases OrdMap.get?_set_eq_some hr₀ with ⟨rfl, rfl⟩ | ⟨-, hr₀⟩
      · exact hsame.1.trans (hkeyed hr)
      · exact hkeyed hr₀

/-! ### What lookups return -/

theorem lookup_eq_ok {cfg : CredentialManagerConfig} {m : CredentialStore} {credentialId : String}
    {now : Time} {credential : CredentialRecord}
    (h : (Service.lookup cfg m credentialId now).value = .ok credential) :
    ∃ r, (Service.lookup cfg m credentialId now).store.byId.get? credentialId = some r ∧
      credential = toCredentialRecord r now := by
  dsimp only [Service.lookup, CredentialStore.getCredentialById] at h ⊢
  split at h
  · cases h
  · next r hr =>
    cases h
    exact ⟨r, hr, rfl⟩

theorem lookupByToken_eq_ok {m : CredentialStore} {token : String} {now : Time}
    {credential : CredentialRecord}
    (h : (Service.lookupByToken m token now).value = .ok credential) :
    ∃ id r, (Service.lookupByToken m token now).store.byId.get? id = some r ∧
      credential = toCredentialRecord r now := by
  dsimp only [Service.lookupByToken, CredentialStore.getCredentialByToken] at h ⊢
  split at h
  · cases h
  · next id hid =>
    split at h
    · cases h
    · next r hr =>
      split at h
      · cases h
      · next hfresh =>
        split at h
        · cases h
        · next hactive =>
          cases h
          -- past the three checks the token names a record, which may just have expired
          exact ⟨id, r, by rw [if_neg hfresh, if_neg hactive]; exact hr, rfl⟩

end Signet
