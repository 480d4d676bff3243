import Signet.Lib.OrdMap
import Signet.Schemas.Seal

/-!
# The disclosure store

`createAdminReadDisclosureStore`: for each chat the disclosures of the admin sessions
that may read it, and their aggregate, the one that lasts longest. Every look at the
aggregate drops the disclosures that have expired, unless they are asked for
(`includeExpired`, for a rollback).

`createReadDisclosureRollbackTracker` counts the rollbacks under way for each chat.

`DisclosureStore.disclosed?` is what one session discloses for one chat. `disclosed?_set`,
`disclosed?_delete`, `disclosed?_restore` and `disclosed?_aggregateForChat` say what each operation
does to it, and `le_aggregateForChat` that the aggregate lasts at least as long as each
disclosure that counts.
-/

namespace Signet

open Lib

/-- `AdminReadDisclosure` has the fields of the disclosure on a seal. -/
abbrev AdminReadDisclosure := AdminAccess

/-- `collectUniqueChatIds`: without empty ids, each id once. -/
def collectUniqueChatIds (chatIds : List String) : List String :=
  (chatIds.filter (· ≠ "")).eraseDups

/-- The entries per chat and session key. -/
structure DisclosureStore where
  entries : OrdMap String (OrdMap String AdminReadDisclosure)

namespace DisclosureStore

/-- The store as created. -/
def new : DisclosureStore :=
  ⟨.empty⟩

/-- The disclosure takes part in the aggregate. -/
def counts (now : Time) (includeExpired : Bool) (disclosure : AdminReadDisclosure) : Bool :=
  includeExpired || now < disclosure.expiresAt

/-- The loop of `aggregateForChat` over the disclosures that count: a later one
replaces the latest only if it lasts longer. -/
def latest (found : Option AdminReadDisclosure) :
    List AdminReadDisclosure → Option AdminReadDisclosure
  | [] => found
  | disclosure :: rest =>
    if found.all (·.expiresAt < disclosure.expiresAt) then latest (some disclosure) rest
    else latest found rest

/-- `aggregateForChat`, with the store it leaves behind. -/
def aggregateForChat (store : DisclosureStore) (chatId : String) (now : Time)
    (includeExpired : Bool) : Option AdminReadDisclosure × DisclosureStore :=
  match store.entries.get? chatId with
  | none => (none, store)
  | some perSession =>
    let live := perSession.filterValues (counts now includeExpired)
    if live.isEmpty then (none, ⟨store.entries.erase chatId⟩)
    else (latest none live.values, ⟨store.entries.set chatId live⟩)

/-- The disclosures of a chat, none if there is no entry. -/
def perSession (store : DisclosureStore) (chatId : String) : OrdMap String AdminReadDisclosure :=
  (store.entries.get? chatId).getD .empty

/-- Write back the disclosures of a chat; a chat without any has no entry. -/
def putSessions (store : DisclosureStore) (chatId : String)
    (perSession : OrdMap String AdminReadDisclosure) : DisclosureStore :=
  if perSession.isEmpty then ⟨store.entries.erase chatId⟩
  else ⟨store.entries.set chatId perSession⟩

/-- The body of the loop of `mutate`: did the aggregate of the chat change? -/
def mutateChat (store : DisclosureStore) (chatId : String) (now : Time)
    (fn : OrdMap String AdminReadDisclosure → OrdMap String AdminReadDisclosure) :
    Bool × DisclosureStore :=
  let (before, store) := store.aggregateForChat chatId now false
  let store := store.putSessions chatId (fn (store.perSession chatId))
  let (after, store) := store.aggregateForChat chatId now false
  (before ≠ after, store)

/-- `mutate`: the chats whose aggregate changed. -/
def mutate (store : DisclosureStore) (chatIds : List String) (now : Time)
    (fn : OrdMap String AdminReadDisclosure → OrdMap String AdminReadDisclosure) :
    List String × DisclosureStore :=
  (collectUniqueChatIds chatIds).foldl
    (fun (changed, store) chatId =>
      let (isChanged, store) := store.mutateChat chatId now fn
      (if isChanged then changed ++ [chatId] else changed, store))
    ([], store)

def set (store : DisclosureStore) (chatIds : List String) (sessionKey : String)
    (disclosure : AdminReadDisclosure) (now : Time) : List String × DisclosureStore :=
  store.mutate chatIds now (·.set sessionKey disclosure)

/-- `restore`: a write that looks at no aggregate. -/
def restore (store : DisclosureStore) (chatIds : List String) (sessionKey : String)
    (disclosure : AdminReadDisclosure) : DisclosureStore :=
  (collectUniqueChatIds chatIds).foldl
    (fun store chatId =>
      ⟨store.entries.set chatId ((store.perSession chatId).set sessionKey disclosure)⟩)
    store

def delete (store : DisclosureStore) (chatIds : List String) (sessionKey : String)
    (now : Time) : List String × DisclosureStore :=
  store.mutate chatIds now (·.erase sessionKey)

def get (store : DisclosureStore) (chatId : String) (now : Time) :
    Option AdminReadDisclosure × DisclosureStore :=
  store.aggregateForChat chatId now false

def peek (store : DisclosureStore) (chatId : String) (now : Time) :
    Option AdminReadDisclosure × DisclosureStore :=
  store.aggregateForChat chatId now true

/-! ### What one session discloses -/

def disclosed? (store : DisclosureStore) (chatId sessionKey : String) :
    Option AdminReadDisclosure :=
  (store.perSession chatId).get? sessionKey

variable {store : DisclosureStore} {chatId sessionKey : String} {now : Time}

private theorem perSession_set (m : OrdMap String (OrdMap String AdminReadDisclosure))
    (chatId c : String) (perSession : OrdMap String AdminReadDisclosure) :
    DisclosureStore.perSession ⟨m.set chatId perSession⟩ c =
      if c = chatId then perSession else DisclosureStore.perSession ⟨m⟩ c := by
  unfold DisclosureStore.perSession
  rw [OrdMap.get?_set]
  split <;> rfl

private theorem perSession_erase (m : OrdMap String (OrdMap String AdminReadDisclosure))
    (chatId c : String) :
    DisclosureStore.perSession ⟨m.erase chatId⟩ c =
      if c = chatId then .empty else DisclosureStore.perSession ⟨m⟩ c := by
  unfold DisclosureStore.perSession
  rw [OrdMap.get?_erase]
  split <;> rfl

/-- Writing back the disclosures of a chat changes this chat only. -/
theorem disclosed?_putSessions (store : DisclosureStore) (chatId c s : String)
    (perSession : OrdMap String AdminReadDisclosure) :
    (store.putSessions chatId perSession).disclosed? c s =
      if c = chatId then perSession.get? s else store.disclosed? c s := by
  unfold putSessions disclosed?
  by_cases hempty : perSession.isEmpty = true
  · -- a chat that is dropped holds nothing, and neither do its sessions
    rw [if_pos hempty, perSession_erase, OrdMap.get?_of_isEmpty hempty]
    split <;> rfl
  · rw [if_neg hempty, perSession_set]
    split <;> rfl

theorem disclosed?_aggregateForChat (store : DisclosureStore) (chatId : String) (now : Time)
    (includeExpired : Bool) (c s : String) :
    (store.aggregateForChat chatId now includeExpired).2.disclosed? c s =
      if c = chatId then (store.disclosed? c s).filter (counts now includeExpired)
      else store.disclosed? c s := by
  unfold aggregateForChat
  cases hget : store.entries.get? chatId with
  | none =>
    by_cases hc : c = chatId
    · have hnone : store.disclosed? c s = none := by
        rw [disclosed?, perSession, hc, hget]
        rfl
      rw [if_pos hc, hnone]
      rfl
    · rw [if_neg hc]
  | some sessions =>
    -- what is left of the chat is put back as `mutate` puts it back
    have hput : (if (sessions.filterValues (counts now includeExpired)).isEmpty = true then
          ((none : Option AdminReadDisclosure), (⟨store.entries.erase chatId⟩ : DisclosureStore))
        else (latest none (sessions.filterValues (counts now includeExpired)).values,
          ⟨store.entries.set chatId (sessions.filterValues (counts now includeExpired))⟩)).2 =
        store.putSessions chatId (sessions.filterValues (counts now includeExpired)) := by
      unfold putSessions
      split <;> rfl
    dsimp only
    rw [hput, disclosed?_putSessions, OrdMap.get?_filterValues]
    split
    · next heq =>
      have hsessions : store.disclosed? c s = sessions.get? s := by
        rw [disclosed?, perSession, heq, hget]
        rfl
      rw [hsessions]
    · rfl

/-- The latest disclosure lasts at least as long as the one found and as each one
of the list. -/
private theorem latest_ge {list : List AdminReadDisclosure} :
    ∀ {found : Option AdminReadDisclosure} {disclosure : AdminReadDisclosure},
      found = some disclosure ∨ disclosure ∈ list →
      ∃ last, latest found list = some last ∧ disclosure.expiresAt ≤ last.expiresAt := by
  induction list with
  | nil =>
    intro found disclosure h
    have hfound := h.resolve_right List.not_mem_nil
    exact ⟨disclosure, hfound, Nat.le_refl _⟩
  | cons head rest ih =>
    intro found disclosure h
    unfold latest
    split
    · next hlater =>
      rcases h with hfound | hmem
      · -- the head outlasts what was found
        rw [hfound] at hlater
        obtain ⟨last, hlast, hle⟩ : ∃ last, latest (some head) rest = some last ∧
            head.expiresAt ≤ last.expiresAt := ih (.inl rfl)
        have hlt : disclosure.expiresAt < head.expiresAt := of_decide_eq_true hlater
        exact ⟨last, hlast, Nat.le_trans (Nat.le_of_lt hlt) hle⟩
      · rcases List.mem_cons.1 hmem with heq | hrest
        · exact ih (.inl (by rw [heq]))
        · exact ih (.inr hrest)
    · next hnot =>
      rcases h with hfound | hmem
      · exact ih (.inl hfound)
      · rcases List.mem_cons.1 hmem with heq | hrest
        · -- the head does not outlast what was found, so something was found
          cases hfound : found with
          | none =>
            rw [hfound] at hnot
            exact absurd rfl hnot
          | some first =>
            rw [hfound] at hnot
            obtain ⟨last, hlast, hle⟩ : ∃ last, latest (some first) rest = some last ∧
                first.expiresAt ≤ last.expiresAt := ih (.inl rfl)
            have hge : ¬ first.expiresAt < head.expiresAt :=
              fun hlt => hnot (decide_eq_true hlt)
            refine ⟨last, hlast, ?_⟩
            rw [heq]
            exact Nat.le_trans (Nat.not_lt.1 hge) hle
        · exact ih (.inr hrest)

/-- **The aggregate covers every disclosure that counts.** -/
theorem le_aggregateForChat {includeExpired : Bool} {disclosure : AdminReadDisclosure}
    (hentry : store.disclosed? chatId sessionKey = some disclosure)
    (hcounts : counts now includeExpired disclosure = true) :
    ∃ last, (store.aggregateForChat chatId now includeExpired).1 = some last ∧
      disclosure.expiresAt ≤ last.expiresAt := by
  unfold aggregateForChat
  cases hget : store.entries.get? chatId with
  | none =>
    rw [disclosed?, perSession, hget] at hentry
    cases hentry
  | some sessions =>
    have hsession : sessions.get? sessionKey = some disclosure := by
      rw [disclosed?, perSession, hget] at hentry
      exact hentry
    have hlive : (sessions.filterValues (counts now includeExpired)).get? sessionKey =
        some disclosure := by
      rw [OrdMap.get?_filterValues, hsession]
      exact Option.filter_some_pos hcounts
    dsimp only
    split
    · next hempty =>
      rw [OrdMap.get?_of_isEmpty hempty] at hlive
      cases hlive
    · exact latest_ge (.inr (OrdMap.mem_values_iff.2 ⟨sessionKey, hlive⟩))

/-! ### What the operations do to it -/

private theorem disclosed?_mutateChat (store : DisclosureStore) (chatId : String) (now : Time)
    (fn : OrdMap String AdminReadDisclosure → OrdMap String AdminReadDisclosure) (c s : String) :
    (store.mutateChat chatId now fn).2.disclosed? c s =
      if c = chatId then
        ((fn ((store.aggregateForChat chatId now false).2.perSession chatId)).get? s).filter
          (counts now false)
      else store.disclosed? c s := by
  unfold mutateChat
  dsimp only
  rw [disclosed?_aggregateForChat, disclosed?_putSessions, disclosed?_aggregateForChat]
  split <;> rfl

private theorem mutate_singleton (hchat : chatId ≠ "")
    (fn : OrdMap String AdminReadDisclosure → OrdMap String AdminReadDisclosure) :
    (store.mutate [chatId] now fn).2 = (store.mutateChat chatId now fn).2 := by
  have hids : collectUniqueChatIds [chatId] = [chatId] := by
    simp [collectUniqueChatIds, hchat, List.eraseDups_cons]
  unfold mutate
  rw [hids]
  rfl

private theorem disclosed?_mutate (hchat : chatId ≠ "")
    {fn : OrdMap String AdminReadDisclosure → OrdMap String AdminReadDisclosure}
    {written : Option AdminReadDisclosure}
    (hfn : ∀ m s, (fn m).get? s = if s = sessionKey then written else m.get? s) (c s : String) :
    (store.mutate [chatId] now fn).2.disclosed? c s =
      if c = chatId then
        (if s = sessionKey then written else store.disclosed? c s).filter (counts now false)
      else store.disclosed? c s := by
  rw [mutate_singleton hchat, disclosed?_mutateChat]
  by_cases hc : c = chatId
  · rw [if_pos hc, if_pos hc, hfn]
    by_cases hs : s = sessionKey
    · rw [if_pos hs, if_pos hs]
    · -- the look at the aggregate before the write has dropped the expired ones already
      have haggregate := disclosed?_aggregateForChat store chatId now false chatId s
      rw [disclosed?, if_pos rfl] at haggregate
      rw [if_neg hs, if_neg hs, haggregate, hc, Option.filter_filter]
      simp
  · rw [if_neg hc, if_neg hc]

/-- **`set`** writes the disclosure of the session and drops the expired ones of the chat. -/
theorem disclosed?_set (hchat : chatId ≠ "") (disclosure : AdminReadDisclosure) (c s : String) :
    (store.set [chatId] sessionKey disclosure now).2.disclosed? c s =
      if c = chatId then
        (if s = sessionKey then some disclosure else store.disclosed? c s).filter (counts now false)
      else store.disclosed? c s :=
  disclosed?_mutate hchat (fun m s => OrdMap.get?_set m sessionKey s disclosure) c s

/-- **`delete`** drops the disclosure of the session and the expired ones of the chat. -/
theorem disclosed?_delete (hchat : chatId ≠ "") (c s : String) :
    (store.delete [chatId] sessionKey now).2.disclosed? c s =
      if c = chatId then
        (if s = sessionKey then none else store.disclosed? c s).filter (counts now false)
      else store.disclosed? c s :=
  disclosed?_mutate hchat (fun m s => OrdMap.get?_erase m sessionKey s) c s

/-- **`restore`** writes the disclosure of the session. -/
theorem disclosed?_restore (hchat : chatId ≠ "") (disclosure : AdminReadDisclosure) (c s : String) :
    (store.restore [chatId] sessionKey disclosure).disclosed? c s =
      if c = chatId ∧ s = sessionKey then some disclosure else store.disclosed? c s := by
  have hids : collectUniqueChatIds [chatId] = [chatId] := by
    simp [collectUniqueChatIds, hchat, List.eraseDups_cons]
  unfold restore
  rw [hids, List.foldl_cons, List.foldl_nil, disclosed?, perSession_set]
  by_cases hc : c = chatId
  · rw [if_pos hc, OrdMap.get?_set, hc]
    by_cases hs : s = sessionKey
    · rw [if_pos hs, if_pos ⟨rfl, hs⟩]
    · rw [if_neg hs, if_neg fun h => hs h.2]
      rfl
  · rw [if_neg hc, if_neg fun h => hc h.1]
    rfl

/-! ### What is kept and what is new -/

variable {disclosure kept : AdminReadDisclosure} {c s : String}

private theorem filter_counts (hlive : now < kept.expiresAt) :
    (some kept).filter (counts now false) = some kept :=
  Option.filter_some_pos (by simp [counts, hlive])

theorem disclosed?_set_self (hchat : chatId ≠ "") (hlive : now < disclosure.expiresAt) :
    (store.set [chatId] sessionKey disclosure now).2.disclosed? chatId sessionKey =
      some disclosure := by
  rw [disclosed?_set hchat, if_pos rfl, if_pos rfl]
  exact filter_counts hlive

/-- `set` keeps what other sessions disclose and what is disclosed for other chats. -/
theorem disclosed?_set_of_ne (hchat : chatId ≠ "") (hne : ¬ (c = chatId ∧ s = sessionKey))
    (hentry : store.disclosed? c s = some kept) (hlive : now < kept.expiresAt) :
    (store.set [chatId] sessionKey disclosure now).2.disclosed? c s = some kept := by
  rw [disclosed?_set hchat, hentry]
  split
  · next hc =>
    rw [if_neg fun hs => hne ⟨hc, hs⟩]
    exact filter_counts hlive
  · rfl

theorem disclosed?_delete_of_ne (hchat : chatId ≠ "") (hne : ¬ (c = chatId ∧ s = sessionKey))
    (hentry : store.disclosed? c s = some kept) (hlive : now < kept.expiresAt) :
    (store.delete [chatId] sessionKey now).2.disclosed? c s = some kept := by
  rw [disclosed?_delete hchat, hentry]
  split
  · next hc =>
    rw [if_neg fun hs => hne ⟨hc, hs⟩]
    exact filter_counts hlive
  · rfl

theorem disclosed?_set_eq_some (hchat : chatId ≠ "")
    (h : (store.set [chatId] sessionKey disclosure now).2.disclosed? c s = some kept) :
    (c = chatId ∧ s = sessionKey ∧ kept = disclosure) ∨ store.disclosed? c s = some kept := by
  rw [disclosed?_set hchat] at h
  split at h
  · next hc =>
    have hsome := (Option.filter_eq_some_iff.1 h).1
    split at hsome
    · next hs => exact .inl ⟨hc, hs, (Option.some.inj hsome).symm⟩
    · exact .inr hsome
  · exact .inr h

theorem disclosed?_delete_eq_some (hchat : chatId ≠ "")
    (h : (store.delete [chatId] sessionKey now).2.disclosed? c s = some kept) :
    store.disclosed? c s = some kept := by
  rw [disclosed?_delete hchat] at h
  split at h
  · have hsome := (Option.filter_eq_some_iff.1 h).1
    split at hsome
    · cases hsome
    · exact hsome
  · exact h

theorem disclosed?_restore_eq_some (hchat : chatId ≠ "")
    (h : (store.restore [chatId] sessionKey disclosure).disclosed? c s = some kept) :
    (c = chatId ∧ s = sessionKey ∧ kept = disclosure) ∨ store.disclosed? c s = some kept := by
  rw [disclosed?_restore hchat] at h
  split at h
  · next hcs => exact .inl ⟨hcs.1, hcs.2, (Option.some.inj h).symm⟩
  · exact .inr h

end DisclosureStore

/-! ### Rollbacks under way -/

/-- `createReadDisclosureRollbackTracker`: the count per chat. -/
structure RollbackTracker where
  rollbacks : OrdMap String Nat

namespace RollbackTracker

/-- The tracker as created. -/
def new : RollbackTracker :=
  ⟨.empty⟩

def count (tracker : RollbackTracker) (chatId : String) : Nat :=
  (tracker.rollbacks.get? chatId).getD 0

def enter (tracker : RollbackTracker) (chatIds : List String) : RollbackTracker :=
  (collectUniqueChatIds chatIds).foldl
    (fun tracker chatId => ⟨tracker.rollbacks.set chatId (tracker.count chatId + 1)⟩) tracker

/-- `leave`; a count that reaches zero is dropped. -/
def leave (tracker : RollbackTracker) (chatIds : List String) : RollbackTracker :=
  (collectUniqueChatIds chatIds).foldl
    (fun tracker chatId =>
      let next := tracker.count chatId - 1
      if 0 < next then ⟨tracker.rollbacks.set chatId next⟩
      else ⟨tracker.rollbacks.erase chatId⟩)
    tracker

def has (tracker : RollbackTracker) (chatId : String) : Bool :=
  0 < tracker.count chatId

end RollbackTracker

/-! ### The lookup of the seal input resolver -/

/-- `lookupAdminAccess` of `start.ts`: during a rollback expired disclosures count. -/
def lookupAdminAccess (tracker : RollbackTracker) (store : DisclosureStore) (chatId : String)
    (now : Time) : Option AdminReadDisclosure × DisclosureStore :=
  if tracker.has chatId then store.peek chatId now else store.get chatId now

/-- **A live disclosure is looked up**, and the lookup keeps every live disclosure. -/
theorem le_lookupAdminAccess {tracker : RollbackTracker} {store : DisclosureStore}
    {chatId sessionKey : String} {now : Time} {disclosure : AdminReadDisclosure}
    (hentry : store.disclosed? chatId sessionKey = some disclosure)
    (hlive : now < disclosure.expiresAt) :
    ∃ last, (lookupAdminAccess tracker store chatId now).1 = some last ∧
      disclosure.expiresAt ≤ last.expiresAt := by
  have hcounts : ∀ includeExpired, DisclosureStore.counts now includeExpired disclosure = true :=
    fun includeExpired => by simp [DisclosureStore.counts, hlive]
  unfold lookupAdminAccess
  split
  · exact DisclosureStore.le_aggregateForChat hentry (hcounts true)
  · exact DisclosureStore.le_aggregateForChat hentry (hcounts false)

theorem disclosed?_lookupAdminAccess {tracker : RollbackTracker} {store : DisclosureStore}
    {chatId c s : String} {now : Time} {disclosure : AdminReadDisclosure}
    (hentry : store.disclosed? c s = some disclosure) (hlive : now < disclosure.expiresAt) :
    (lookupAdminAccess tracker store chatId now).2.disclosed? c s = some disclosure := by
  have hkept : ∀ includeExpired,
      (store.aggregateForChat chatId now includeExpired).2.disclosed? c s = some disclosure := by
    intro includeExpired
    rw [DisclosureStore.disclosed?_aggregateForChat, hentry]
    split
    · exact Option.filter_some_pos (by simp [DisclosureStore.counts, hlive])
    · rfl
  unfold lookupAdminAccess
  split
  · exact hkept true
  · exact hkept false

end Signet
