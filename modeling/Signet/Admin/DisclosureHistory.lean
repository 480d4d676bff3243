import Mathlib.Data.List.Induction
import Mathlib.Order.Monotone.Basic
import Signet.Admin.DisclosureStore
import Signet.Lib.Sorting

/-!
# The disclosure store over a history of calls

`createAdminReadDisclosureStore` again, for any sequence of calls and with every reading of the
clock on its own: `mutate` looks at the aggregate of each chat before and after it writes. Instants
are of any linear order. The date of a disclosure is what `Date.parse` makes of it (`expiry`): a
text that is no date makes a disclosure that is never live.
`DisclosureStore` is the case of one reading for each call
(`DisclosureStore.mutate_eq`, `DisclosureStore.aggregateForChat_eq`).

What the calls say is `lastWrite`: what a session wrote for a chat last. Every look
drops the expired disclosures of its chat, and `Tracks` is what that leaves true: the
entries are last writes, and of the last writes only expired ones are missing. So a
`get` finds a live last write that lasts longest (`IsLatest`).

Which one it finds where several last equally long is decided by the order of the
sessions, and there the dropping shows: a session that writes again after it was dropped
comes last, and keeps its place otherwise (`clean_up_changes_get`).
-/

namespace Signet

open Lib

/-- The map `entries`: the disclosures of each chat by session key. -/
abbrev DisclosureEntries (δ : Type) := OrdMap String (OrdMap String δ)

namespace DisclosureEntries

variable {δ ι : Type} [DecidableEq δ] [LinearOrder ι] (expiry : δ → Option ι)

/-- The date of the disclosure is one and lies in the future. -/
def isLive (now : ι) (disclosure : δ) : Bool :=
  (expiry disclosure).any (now < ·)

/-- The comparison of two parsed dates; what is no date is not greater, and nothing is greater. -/
def outlasts (disclosure found : δ) : Bool :=
  match expiry disclosure, expiry found with
  | some expiresAt, some foundExpiresAt => foundExpiresAt < expiresAt
  | _, _ => false

/-- The loop of `aggregateForChat` over the disclosures that it does not drop. -/
def latest (found : Option δ) : List δ → Option δ
  | [] => found
  | disclosure :: rest =>
    if found.all (outlasts expiry disclosure ·) then latest (some disclosure) rest
    else latest found rest

/-- `aggregateForChat`, with the entries it leaves behind. -/
def aggregateForChat (entries : DisclosureEntries δ) (chatId : String) (includeExpired : Bool)
    (now : ι) : Option δ × DisclosureEntries δ :=
  match entries.get? chatId with
  | none => (none, entries)
  | some perSession =>
    let kept := perSession.filterValues fun disclosure =>
      includeExpired || isLive expiry now disclosure
    if kept.isEmpty then (none, entries.erase chatId)
    else (latest expiry none kept.values, entries.set chatId kept)

/-- `entries.get(chatId) ?? new Map()`. -/
def sessions (entries : DisclosureEntries δ) (chatId : String) : OrdMap String δ :=
  (entries.get? chatId).getD .empty

/-- Write back the sessions of a chat; a chat without any has no entry. -/
def putSessions (entries : DisclosureEntries δ) (chatId : String) (perSession : OrdMap String δ) :
    DisclosureEntries δ :=
  if perSession.isEmpty then entries.erase chatId else entries.set chatId perSession

/-- The body of the loop of `mutate`, with the readings of its two looks: did the aggregate of the
chat change? -/
def mutateChat (entries : DisclosureEntries δ) (chatId : String) (first second : ι)
    (fn : OrdMap String δ → OrdMap String δ) : Bool × DisclosureEntries δ :=
  let (before, entries) := aggregateForChat expiry entries chatId false first
  let entries := putSessions entries chatId (fn (sessions entries chatId))
  let (after, entries) := aggregateForChat expiry entries chatId false second
  (before ≠ after, entries)

/-- The loop of `mutate` over the chats, from the given reading on. -/
def mutateFrom (clock : Nat → ι) (fn : OrdMap String δ → OrdMap String δ) :
    Nat → List String → DisclosureEntries δ → List String × DisclosureEntries δ
  | _, [], entries => ([], entries)
  | i, chatId :: rest, entries =>
    let (isChanged, entries) := mutateChat expiry entries chatId (clock i) (clock (i + 1)) fn
    let (changed, entries) := mutateFrom clock fn (i + 2) rest entries
    (if isChanged then chatId :: changed else changed, entries)

/-- `mutate`: the chats whose aggregate changed. -/
def mutate (clock : Nat → ι) (fn : OrdMap String δ → OrdMap String δ) (chatIds : List String)
    (entries : DisclosureEntries δ) : List String × DisclosureEntries δ :=
  mutateFrom expiry clock fn 0 (collectUniqueChatIds chatIds) entries

/-- `restore`: a write that looks at no aggregate. -/
def restore (chatIds : List String) (sessionKey : String) (disclosure : δ)
    (entries : DisclosureEntries δ) : DisclosureEntries δ :=
  (collectUniqueChatIds chatIds).foldl
    (fun entries chatId =>
      OrdMap.set entries chatId ((sessions entries chatId).set sessionKey disclosure))
    entries

end DisclosureEntries

/-- The methods of the store. -/
inductive DisclosureCall (δ : Type) where
  | set (chatIds : List String) (sessionKey : String) (disclosure : δ)
  | restore (chatIds : List String) (sessionKey : String) (disclosure : δ)
  | delete (chatIds : List String) (sessionKey : String)
  | get (chatId : String)
  | peek (chatId : String)

/-- What they return. -/
inductive DisclosureAnswer (δ : Type) where
  | chats (changed : List String)
  | nothing
  | disclosure (found : Option δ)
  deriving DecidableEq

/-- A call with the readings of the clock that it takes, in turn. -/
structure TimedCall (δ ι : Type) where
  call : DisclosureCall δ
  clock : Nat → ι

/-- The clock never goes back, within a call or from one call to a later one. -/
structure NonDecreasing {δ ι : Type} [LinearOrder ι] (calls : List (TimedCall δ ι)) : Prop where
  within : ∀ call ∈ calls, Monotone call.clock
  between : calls.Pairwise fun call later => ∀ i j, call.clock i ≤ later.clock j

namespace DisclosureEntries

variable {δ ι : Type} [DecidableEq δ] [LinearOrder ι] (expiry : δ → Option ι)

/-- One call: what it returns and the entries it leaves behind. -/
def perform (entries : DisclosureEntries δ) (timed : TimedCall δ ι) :
    DisclosureAnswer δ × DisclosureEntries δ :=
  match timed.call with
  | .set chatIds sessionKey disclosure =>
    let (changed, entries) :=
      mutate expiry timed.clock (·.set sessionKey disclosure) chatIds entries
    (.chats changed, entries)
  | .restore chatIds sessionKey disclosure =>
    (.nothing, restore chatIds sessionKey disclosure entries)
  | .delete chatIds sessionKey =>
    let (changed, entries) := mutate expiry timed.clock (·.erase sessionKey) chatIds entries
    (.chats changed, entries)
  | .get chatId =>
    let (found, entries) := aggregateForChat expiry entries chatId false (timed.clock 0)
    (.disclosure found, entries)
  | .peek chatId =>
    let (found, entries) := aggregateForChat expiry entries chatId true (timed.clock 0)
    (.disclosure found, entries)

/-- The entries after the calls, from a new store on. -/
def after (calls : List (TimedCall δ ι)) : DisclosureEntries δ :=
  calls.foldl (fun entries timed => (perform expiry entries timed).2) .empty

end DisclosureEntries

/-! ### What the calls say -/

section History

variable {δ ι : Type} [LinearOrder ι]

/-- What a call writes for a session and a chat, if it does: a disclosure or none. -/
def DisclosureCall.written (chatId sessionKey : String) : DisclosureCall δ → Option (Option δ)
  | .set chatIds key disclosure | .restore chatIds key disclosure =>
    if (chatId ∈ chatIds ∧ chatId ≠ "") ∧ sessionKey = key then some (some disclosure) else none
  | .delete chatIds key =>
    if (chatId ∈ chatIds ∧ chatId ≠ "") ∧ sessionKey = key then some none else none
  | .get _ | .peek _ => none

/-- The last write of a session for a chat, none also if that was a `delete`. -/
def lastWrite (calls : List (TimedCall δ ι)) (chatId sessionKey : String) : Option δ :=
  calls.foldl (fun last timed => (timed.call.written chatId sessionKey).getD last) none

/-- Of the last writes of the sessions, the one found is live and lasts longest. -/
structure IsLatest (expiry : δ → Option ι) (now : ι) (last : String → Option δ)
    (found : Option δ) : Prop where
  live : ∀ disclosure, found = some disclosure →
    (∃ sessionKey, last sessionKey = some disclosure) ∧
      DisclosureEntries.isLive expiry now disclosure = true
  longest : ∀ sessionKey disclosure, last sessionKey = some disclosure →
    DisclosureEntries.isLive expiry now disclosure = true →
    ∃ longest expiresAt longestExpiresAt, found = some longest ∧
      expiry disclosure = some expiresAt ∧ expiry longest = some longestExpiresAt ∧
      expiresAt ≤ longestExpiresAt

end History

/-! ### What one call does to a chat -/

theorem mem_collectUniqueChatIds {chatIds : List String} {chatId : String} :
    chatId ∈ collectUniqueChatIds chatIds ↔ chatId ∈ chatIds ∧ chatId ≠ "" := by
  unfold collectUniqueChatIds
  rw [List.mem_eraseDups, List.mem_filter, decide_eq_true_iff]

theorem nodup_collectUniqueChatIds (chatIds : List String) :
    (collectUniqueChatIds chatIds).Nodup :=
  nodup_eraseDups _

namespace DisclosureEntries

variable {δ ι : Type} [LinearOrder ι] {expiry : δ → Option ι}
variable {entries : DisclosureEntries δ} {chatId c : String} {now : ι}

/-- The sessions that a look leaves to a chat. -/
def swept (expiry : δ → Option ι) (includeExpired : Bool) (now : ι) (perSession : OrdMap String δ) :
    OrdMap String δ :=
  perSession.filterValues fun disclosure => includeExpired || isLive expiry now disclosure

theorem get?_swept (now : ι) (perSession : OrdMap String δ) (sessionKey : String) :
    (swept expiry false now perSession).get? sessionKey =
      (perSession.get? sessionKey).filter (isLive expiry now) :=
  OrdMap.get?_filterValues _ _ _

/-- A second look at the same instant drops nothing more. -/
@[simp] theorem swept_swept (includeExpired : Bool) (now : ι) (perSession : OrdMap String δ) :
    swept expiry includeExpired now (swept expiry includeExpired now perSession) =
      swept expiry includeExpired now perSession :=
  OrdMap.filterValues_filterValues _ _

theorem sessions_set (entries : DisclosureEntries δ) (chatId c : String)
    (perSession : OrdMap String δ) :
    sessions (OrdMap.set entries chatId perSession) c =
      if c = chatId then perSession else sessions entries c := by
  unfold sessions
  rw [OrdMap.get?_set]
  split <;> rfl

theorem sessions_putSessions (entries : DisclosureEntries δ) (chatId c : String)
    (perSession : OrdMap String δ) :
    sessions (putSessions entries chatId perSession) c =
      if c = chatId then perSession else sessions entries c := by
  unfold putSessions
  by_cases hempty : perSession.isEmpty = true
  · -- no entry and an entry without sessions are the same to a reader
    rw [if_pos hempty, OrdMap.eq_empty_of_isEmpty hempty]
    unfold sessions
    rw [OrdMap.get?_erase]
    split <;> rfl
  · rw [if_neg hempty]
    exact sessions_set entries chatId c perSession

/-- **A look at a chat**: the latest of the disclosures it does not drop. -/
theorem aggregateForChat_fst (entries : DisclosureEntries δ) (chatId : String)
    (includeExpired : Bool) (now : ι) :
    (aggregateForChat expiry entries chatId includeExpired now).1 =
      latest expiry none (swept expiry includeExpired now (sessions entries chatId)).values := by
  unfold aggregateForChat sessions
  cases entries.get? chatId with
  | none => rfl
  | some perSession =>
    show (if (swept expiry includeExpired now perSession).isEmpty = true then _ else _ :
      Option δ × DisclosureEntries δ).1 = _
    by_cases hempty : (swept expiry includeExpired now perSession).isEmpty = true
    · rw [if_pos hempty, Option.getD_some, OrdMap.eq_empty_of_isEmpty hempty]
      rfl
    · rw [if_neg hempty]
      rfl

theorem sessions_aggregateForChat (entries : DisclosureEntries δ) (chatId c : String)
    (includeExpired : Bool) (now : ι) :
    sessions (aggregateForChat expiry entries chatId includeExpired now).2 c =
      if c = chatId then swept expiry includeExpired now (sessions entries c)
      else sessions entries c := by
  unfold aggregateForChat
  cases hget : OrdMap.get? entries chatId with
  | none =>
    by_cases hc : c = chatId
    · have hnone : sessions entries c = .empty := by
        rw [sessions, hc, hget]
        rfl
      rw [if_pos hc, hnone]
      rfl
    · rw [if_neg hc]
  | some perSession =>
    have hsessions : c = chatId → sessions entries c = perSession := by
      rintro rfl
      rw [sessions, hget]
      rfl
    -- what is left of the chat is put back as `mutate` puts it back
    have hput : (if (swept expiry includeExpired now perSession).isEmpty = true then
          ((none : Option δ), OrdMap.erase entries chatId)
        else (latest expiry none (swept expiry includeExpired now perSession).values,
          OrdMap.set entries chatId (swept expiry includeExpired now perSession))).2 =
        putSessions entries chatId (swept expiry includeExpired now perSession) := by
      unfold putSessions
      split <;> rfl
    show sessions (if (swept expiry includeExpired now perSession).isEmpty = true then
          ((none : Option δ), OrdMap.erase entries chatId)
        else (latest expiry none (swept expiry includeExpired now perSession).values,
          OrdMap.set entries chatId (swept expiry includeExpired now perSession))).2 c = _
    rw [hput, sessions_putSessions]
    split
    · next hc => rw [hsessions hc]
    · rfl

variable {fn : OrdMap String δ → OrdMap String δ} {first second : ι}

/-- What a turn of `mutate` leaves to its chat. -/
def rewritten (expiry : δ → Option ι) (fn : OrdMap String δ → OrdMap String δ) (first second : ι)
    (perSession : OrdMap String δ) : OrdMap String δ :=
  swept expiry false second (fn (swept expiry false first perSession))

theorem sessions_mutateChat [DecidableEq δ] (entries : DisclosureEntries δ) (chatId c : String) :
    sessions (mutateChat expiry entries chatId first second fn).2 c =
      if c = chatId then rewritten expiry fn first second (sessions entries c)
      else sessions entries c := by
  unfold mutateChat
  dsimp only
  rw [sessions_aggregateForChat, sessions_putSessions, sessions_aggregateForChat,
    sessions_aggregateForChat, if_pos rfl]
  split
  · next hc =>
    rw [hc]
    rfl
  · rfl

/-- The aggregate of a chat, as `get` returns it. -/
def aggregate (expiry : δ → Option ι) (entries : DisclosureEntries δ) (chatId : String) (now : ι) :
    Option δ :=
  (aggregateForChat expiry entries chatId false now).1

/-- The aggregate depends on the sessions of the chat. -/
theorem aggregate_congr {entries' : DisclosureEntries δ}
    (h : swept expiry false now (sessions entries chatId) =
      swept expiry false now (sessions entries' chatId)) :
    aggregate expiry entries chatId now = aggregate expiry entries' chatId now := by
  unfold aggregate
  rw [aggregateForChat_fst, aggregateForChat_fst, h]

/-- A turn of `mutate` compares the aggregate before it with the one after it. -/
theorem mutateChat_fst [DecidableEq δ] (entries : DisclosureEntries δ) (chatId : String) :
    (mutateChat expiry entries chatId first second fn).1 =
      decide (aggregate expiry entries chatId first ≠
        aggregate expiry (mutateChat expiry entries chatId first second fn).2 chatId second) := by
  have hafter :
      aggregate expiry (mutateChat expiry entries chatId first second fn).2 chatId second =
      aggregate expiry (putSessions (aggregateForChat expiry entries chatId false first).2 chatId
        (fn (sessions (aggregateForChat expiry entries chatId false first).2 chatId))) chatId
        second := by
    refine aggregate_congr ?_
    -- the second look is the one whose result is compared
    rw [sessions_mutateChat, if_pos rfl, sessions_putSessions, if_pos rfl,
      sessions_aggregateForChat, if_pos rfl]
    exact swept_swept _ _ _
  rw [hafter]
  rfl

theorem mutateFrom_cons [DecidableEq δ] (clock : Nat → ι) (i : Nat) (rest : List String)
    (entries : DisclosureEntries δ) :
    mutateFrom expiry clock fn i (chatId :: rest) entries =
      (if (mutateChat expiry entries chatId (clock i) (clock (i + 1)) fn).1 then
          chatId :: (mutateFrom expiry clock fn (i + 2) rest
            (mutateChat expiry entries chatId (clock i) (clock (i + 1)) fn).2).1
        else (mutateFrom expiry clock fn (i + 2) rest
          (mutateChat expiry entries chatId (clock i) (clock (i + 1)) fn).2).1,
        (mutateFrom expiry clock fn (i + 2) rest
          (mutateChat expiry entries chatId (clock i) (clock (i + 1)) fn).2).2) :=
  rfl

theorem sessions_mutateFrom_of_not_mem [DecidableEq δ] {clock : Nat → ι} {chatIds : List String}
    (hc : c ∉ chatIds) (i : Nat) (entries : DisclosureEntries δ) :
    sessions (mutateFrom expiry clock fn i chatIds entries).2 c = sessions entries c := by
  induction chatIds generalizing i entries with
  | nil => rfl
  | cons chatId rest ih =>
    rw [mutateFrom_cons]
    dsimp only
    rw [ih (fun h => hc (List.mem_cons_of_mem _ h)), sessions_mutateChat,
      if_neg fun h : c = chatId => hc (h ▸ List.mem_cons_self ..)]

private theorem idxOf_of_mem_rest {rest : List String} (hmem : c ∈ rest) (hnew : chatId ∉ rest) :
    (chatId :: rest).idxOf c = rest.idxOf c + 1 :=
  List.idxOf_cons_ne rest fun h => hnew (h ▸ hmem)

/-- **The turn of each chat** comes once, with two readings of its own. -/
theorem sessions_mutateFrom [DecidableEq δ] {clock : Nat → ι} {chatIds : List String}
    (hnodup : chatIds.Nodup)
    (hc : c ∈ chatIds) (i : Nat) (entries : DisclosureEntries δ) :
    sessions (mutateFrom expiry clock fn i chatIds entries).2 c =
      rewritten expiry fn (clock (i + 2 * chatIds.idxOf c)) (clock (i + 2 * chatIds.idxOf c + 1))
        (sessions entries c) := by
  induction chatIds generalizing i entries with
  | nil => cases hc
  | cons chatId rest ih =>
    obtain ⟨hnew, hrest⟩ := List.nodup_cons.1 hnodup
    rw [mutateFrom_cons]
    dsimp only
    rcases List.mem_cons.1 hc with rfl | hmem
    · -- the first turn, and none after it
      rw [sessions_mutateFrom_of_not_mem hnew, sessions_mutateChat, if_pos rfl,
        List.idxOf_cons_self]
      rfl
    · have hturn : i + 2 + 2 * rest.idxOf c = i + 2 * (rest.idxOf c + 1) := by omega
      rw [ih hrest hmem, sessions_mutateChat, if_neg fun h : c = chatId => hnew (h ▸ hmem),
        idxOf_of_mem_rest hmem hnew, hturn]

/-- **The chats returned** are those whose aggregate the turns changed. -/
theorem mutateFrom_fst [DecidableEq δ] {clock : Nat → ι} {chatIds : List String}
    (hnodup : chatIds.Nodup) (i : Nat)
    (entries : DisclosureEntries δ) :
    (mutateFrom expiry clock fn i chatIds entries).1 =
      chatIds.filter fun c => aggregate expiry entries c (clock (i + 2 * chatIds.idxOf c)) ≠
        aggregate expiry (mutateFrom expiry clock fn i chatIds entries).2 c
          (clock (i + 2 * chatIds.idxOf c + 1)) := by
  induction chatIds generalizing i entries with
  | nil => rfl
  | cons chatId rest ih =>
    obtain ⟨hnew, hrest⟩ := List.nodup_cons.1 hnodup
    -- the later turns leave the first chat alone, and the first turn the later chats
    have hfirst : aggregate expiry (mutateFrom expiry clock fn i (chatId :: rest) entries).2 chatId
        (clock (i + 1)) =
        aggregate expiry (mutateChat expiry entries chatId (clock i) (clock (i + 1)) fn).2 chatId
          (clock (i + 1)) := by
      refine aggregate_congr ?_
      rw [mutateFrom_cons]
      dsimp only
      rw [sessions_mutateFrom_of_not_mem hnew]
    have hlater : ∀ c ∈ rest, ∀ t, aggregate expiry
        (mutateChat expiry entries chatId (clock i) (clock (i + 1)) fn).2 c t =
          aggregate expiry entries c t := by
      intro c hmem t
      refine aggregate_congr ?_
      rw [sessions_mutateChat, if_neg fun h : c = chatId => hnew (h ▸ hmem)]
    have htail : rest.filter (fun c => decide (aggregate expiry entries c
          (clock (i + 2 * (chatId :: rest).idxOf c)) ≠
        aggregate expiry (mutateFrom expiry clock fn i (chatId :: rest) entries).2 c
          (clock (i + 2 * (chatId :: rest).idxOf c + 1)))) =
        (mutateFrom expiry clock fn (i + 2) rest
          (mutateChat expiry entries chatId (clock i) (clock (i + 1)) fn).2).1 := by
      rw [ih hrest]
      refine List.filter_congr fun c hmem => ?_
      have hturn : i + 2 + 2 * rest.idxOf c = i + 2 * (rest.idxOf c + 1) := by omega
      rw [hlater c hmem, idxOf_of_mem_rest hmem hnew, hturn, mutateFrom_cons]
    rw [List.filter_cons, htail, List.idxOf_cons_self, Nat.mul_zero, Nat.add_zero, hfirst,
      ← mutateChat_fst, mutateFrom_cons]

/-! ### The latest disclosure -/

/-- The loop keeps what it found or goes over to a disclosure of the list, and what it ends with
lasts at least as long as everything it saw. -/
theorem latest_spec {list : List δ} :
    ∀ {found : Option δ}, (∀ d, found = some d ∨ d ∈ list → ∃ t, expiry d = some t) →
      (∀ d, latest expiry found list = some d → found = some d ∨ d ∈ list) ∧
        ∀ d, found = some d ∨ d ∈ list → ∃ longest t t', latest expiry found list = some longest ∧
          expiry d = some t ∧ expiry longest = some t' ∧ t ≤ t' := by
  induction list with
  | nil =>
    intro found hdates
    refine ⟨fun d h => .inl h, fun d h => ?_⟩
    obtain ⟨t, ht⟩ := hdates d h
    exact ⟨d, t, t, h.resolve_right List.not_mem_nil, ht, ht, le_refl t⟩
  | cons head rest ih =>
    intro found hdates
    obtain ⟨t, ht⟩ := hdates head (.inr (List.mem_cons_self ..))
    unfold latest
    by_cases hlonger : found.all (outlasts expiry head ·) = true
    · -- the head is what is found from here on
      rw [if_pos hlonger]
      have hmoved : ∀ {d}, some head = some d ∨ d ∈ rest → d ∈ head :: rest := by
        rintro d (hhead | hrest)
        · exact Option.some.inj hhead ▸ List.mem_cons_self ..
        · exact List.mem_cons_of_mem _ hrest
      obtain ⟨hmem, hlongest⟩ := ih fun d h => hdates d (.inr (hmoved h))
      obtain ⟨last, s, s', hlast, hs, hs', hle⟩ := hlongest head (.inl rfl)
      obtain rfl : t = s := Option.some.inj (ht.symm.trans hs)
      refine ⟨fun d h => .inr (hmoved (hmem d h)), fun d h => ?_⟩
      rcases h with hfound | hmem'
      · -- what was found before is outlasted by the head
        obtain ⟨u, hu⟩ := hdates d (.inl hfound)
        rw [hfound, Option.all_some, outlasts, ht, hu] at hlonger
        exact ⟨last, u, s', hlast, hu, hs', (of_decide_eq_true hlonger).le.trans hle⟩
      · rcases List.mem_cons.1 hmem' with rfl | hrest
        · exact ⟨last, t, s', hlast, ht, hs', hle⟩
        · exact hlongest d (.inr hrest)
    · rw [if_neg hlonger]
      obtain ⟨hmem, hlongest⟩ := ih fun d h => hdates d (h.imp_right (List.mem_cons_of_mem _))
      refine ⟨fun d h => (hmem d h).imp_right (List.mem_cons_of_mem _), fun d h => ?_⟩
      rcases h with hfound | hmem'
      · exact hlongest d (.inl hfound)
      · rcases List.mem_cons.1 hmem' with rfl | hrest
        · -- the head does not outlast what was found, so something was found
          cases hfound : found with
          | none => exact absurd (by rw [hfound]; rfl) hlonger
          | some first =>
            obtain ⟨u, hu⟩ := hdates first (.inl hfound)
            rw [hfound, Option.all_some, outlasts, ht, hu] at hlonger
            obtain ⟨last, s, s', hlast, hs, hs', hle⟩ := hlongest first (.inl hfound)
            obtain rfl : u = s := Option.some.inj (hu.symm.trans hs)
            rw [hfound] at hlast
            have hnot : ¬ u < t := fun hlt => hlonger (decide_eq_true hlt)
            exact ⟨last, t, s', hlast, ht, hs', (not_lt.1 hnot).trans hle⟩
        · exact hlongest d (.inr hrest)

theorem exists_expiry_of_isLive {disclosure : δ} (h : isLive expiry now disclosure = true) :
    ∃ t, expiry disclosure = some t ∧ now < t := by
  unfold isLive at h
  cases ht : expiry disclosure with
  | none =>
    rw [ht] at h
    cases h
  | some t =>
    rw [ht] at h
    exact ⟨t, rfl, of_decide_eq_true h⟩

theorem isLive_of_le {disclosure : δ} {later : ι} (hle : now ≤ later)
    (h : isLive expiry later disclosure = true) : isLive expiry now disclosure = true := by
  obtain ⟨t, ht, hlt⟩ := exists_expiry_of_isLive h
  unfold isLive
  rw [ht]
  exact decide_eq_true (hle.trans_lt hlt)

/-- **The aggregate is the latest of the live sessions.** -/
theorem isLatest_aggregate (entries : DisclosureEntries δ) (chatId : String) (now : ι) :
    IsLatest expiry now (sessions entries chatId).get? (aggregate expiry entries chatId now) := by
  have hvalues : ∀ d, d ∈ (swept expiry false now (sessions entries chatId)).values ↔
      ∃ sessionKey, (sessions entries chatId).get? sessionKey = some d ∧
        isLive expiry now d = true := by
    intro d
    rw [OrdMap.mem_values_iff]
    refine exists_congr fun sessionKey => ?_
    rw [get?_swept, Option.filter_eq_some_iff]
  have hdates : ∀ d, none = some d ∨
      d ∈ (swept expiry false now (sessions entries chatId)).values → ∃ t, expiry d = some t := by
    intro d h
    obtain ⟨-, -, hlive⟩ := (hvalues d).1 (h.resolve_left nofun)
    obtain ⟨t, ht, -⟩ := exists_expiry_of_isLive hlive
    exact ⟨t, ht⟩
  obtain ⟨hmem, hlongest⟩ := latest_spec hdates
  unfold aggregate
  rw [aggregateForChat_fst]
  constructor
  · intro d hfound
    obtain ⟨sessionKey, hsession, hlive⟩ := (hvalues d).1 ((hmem d hfound).resolve_left nofun)
    exact ⟨⟨sessionKey, hsession⟩, hlive⟩
  · intro sessionKey d hsession hlive
    exact hlongest d (.inr ((hvalues d).2 ⟨sessionKey, hsession, hlive⟩))

/-! ### What a call leaves to a session -/

theorem sessions_foldl
    {put : DisclosureEntries δ → String → OrdMap String δ → DisclosureEntries δ}
    (hput : ∀ entries chatId c perSession, sessions (put entries chatId perSession) c =
      if c = chatId then perSession else sessions entries c)
    {chatIds : List String} (hnodup : chatIds.Nodup) (entries : DisclosureEntries δ) (c : String) :
    sessions (chatIds.foldl
        (fun entries chatId => put entries chatId (fn (sessions entries chatId))) entries) c =
      if c ∈ chatIds then fn (sessions entries c) else sessions entries c := by
  induction chatIds generalizing entries with
  | nil => rw [List.foldl_nil, if_neg List.not_mem_nil]
  | cons chatId rest ih =>
    obtain ⟨hnew, hrest⟩ := List.nodup_cons.1 hnodup
    rw [List.foldl_cons, ih hrest, hput]
    by_cases hc : c = chatId
    · rw [if_pos hc, if_neg (hc ▸ hnew), if_pos (List.mem_cons.2 (.inl hc)), hc]
    · rw [if_neg hc]
      by_cases hmem : c ∈ rest
      · rw [if_pos hmem, if_pos (List.mem_cons_of_mem _ hmem)]
      · rw [if_neg hmem, if_neg fun h => (List.mem_cons.1 h).elim hc hmem]

/-- The disclosures that a call drops are not live at one of its readings. -/
def DropsExpired (expiry : δ → Option ι) (clock : Nat → ι) (keeps : δ → Bool) : Prop :=
  ∀ disclosure, keeps disclosure = false → ∃ i, isLive expiry (clock i) disclosure = false

theorem dropsExpired_live (clock : Nat → ι) (i : Nat) :
    DropsExpired expiry clock (isLive expiry (clock i)) :=
  fun _ h => ⟨i, h⟩

theorem dropsExpired_and {clock : Nat → ι} {keeps keeps' : δ → Bool}
    (h : DropsExpired expiry clock keeps) (h' : DropsExpired expiry clock keeps') :
    DropsExpired expiry clock fun disclosure => keeps disclosure && keeps' disclosure := by
  intro disclosure hdrop
  rcases Bool.and_eq_false_iff.1 hdrop with hdrop | hdrop
  · exact h disclosure hdrop
  · exact h' disclosure hdrop

private theorem filter_all (o : Option δ) : o.filter (fun _ => true) = o := by
  cases o <;> rfl

theorem dropsExpired_true (clock : Nat → ι) : DropsExpired expiry clock fun _ => true :=
  fun _ h => nomatch h

/-- `mutate`, for an operation that writes to one session. -/
theorem get?_mutate [DecidableEq δ] {sessionKey : String} {write : Option δ}
    (hfn : ∀ (m : OrdMap String δ) s,
      (fn m).get? s = if s = sessionKey then write else m.get? s)
    (clock : Nat → ι) (chatIds : List String) (entries : DisclosureEntries δ) (c s : String) :
    ∃ keeps, DropsExpired expiry clock keeps ∧
      (sessions (mutate expiry clock fn chatIds entries).2 c).get? s =
        ((if (c ∈ chatIds ∧ c ≠ "") ∧ s = sessionKey then some write else none).getD
          ((sessions entries c).get? s)).filter keeps := by
  have hnodup := nodup_collectUniqueChatIds chatIds
  unfold mutate
  by_cases hc : c ∈ collectUniqueChatIds chatIds
  · have hchat := mem_collectUniqueChatIds.1 hc
    rw [sessions_mutateFrom hnodup hc, rewritten, get?_swept, hfn]
    by_cases hs : s = sessionKey
    · rw [if_pos hs, if_pos ⟨hchat, hs⟩]
      exact ⟨_, dropsExpired_live _ _, rfl⟩
    · -- the other sessions pass both looks
      rw [if_neg hs, if_neg fun h => hs h.2, get?_swept, Option.filter_filter]
      exact ⟨_, dropsExpired_and (dropsExpired_live _ _) (dropsExpired_live _ _), rfl⟩
  · rw [sessions_mutateFrom_of_not_mem hc, if_neg fun h => hc (mem_collectUniqueChatIds.2 h.1)]
    exact ⟨_, dropsExpired_true clock, (filter_all _).symm⟩

/-- A write to one session of each chat that drops nothing. -/
theorem get?_foldl
    {put : DisclosureEntries δ → String → OrdMap String δ → DisclosureEntries δ}
    (hput : ∀ entries chatId c perSession, sessions (put entries chatId perSession) c =
      if c = chatId then perSession else sessions entries c)
    {sessionKey : String} {write : Option δ}
    (hfn : ∀ (m : OrdMap String δ) s,
      (fn m).get? s = if s = sessionKey then write else m.get? s)
    (chatIds : List String) (entries : DisclosureEntries δ) (c s : String) :
    (sessions ((collectUniqueChatIds chatIds).foldl
        (fun entries chatId => put entries chatId (fn (sessions entries chatId))) entries)
          c).get? s =
      (if (c ∈ chatIds ∧ c ≠ "") ∧ s = sessionKey then some write else none).getD
        ((sessions entries c).get? s) := by
  rw [sessions_foldl hput (nodup_collectUniqueChatIds chatIds)]
  by_cases hc : c ∈ collectUniqueChatIds chatIds
  · rw [if_pos hc, hfn]
    by_cases hs : s = sessionKey
    · rw [if_pos hs, if_pos ⟨mem_collectUniqueChatIds.1 hc, hs⟩]
      rfl
    · rw [if_neg hs, if_neg fun h => hs h.2]
      rfl
  · rw [if_neg hc, if_neg fun h => hc (mem_collectUniqueChatIds.2 h.1)]
    rfl

theorem get?_restore (chatIds : List String) (sessionKey : String) (disclosure : δ)
    (entries : DisclosureEntries δ) (c s : String) :
    (sessions (restore chatIds sessionKey disclosure entries) c).get? s =
      (if (c ∈ chatIds ∧ c ≠ "") ∧ s = sessionKey then some (some disclosure) else none).getD
        ((sessions entries c).get? s) :=
  get?_foldl sessions_set (fun m s => OrdMap.get?_set m sessionKey s disclosure) chatIds entries c s

/-- A look drops at most what is not live at its reading. -/
theorem get?_aggregateForChat (clock : Nat → ι) (chatId : String) (includeExpired : Bool)
    (entries : DisclosureEntries δ) (c s : String) :
    ∃ keeps, DropsExpired expiry clock keeps ∧
      (sessions (aggregateForChat expiry entries chatId includeExpired (clock 0)).2 c).get? s =
        ((sessions entries c).get? s).filter keeps := by
  rw [sessions_aggregateForChat]
  by_cases hc : c = chatId
  · rw [if_pos hc]
    cases includeExpired with
    | false => exact ⟨_, dropsExpired_live clock 0, get?_swept _ _ _⟩
    | true =>
      refine ⟨_, dropsExpired_true clock, ?_⟩
      exact OrdMap.get?_filterValues _ _ _
  · rw [if_neg hc]
    exact ⟨_, dropsExpired_true clock, (filter_all _).symm⟩

/-- **One call**: a session holds what the call writes for it or what it held before, unless that
has expired by one of the readings of the call. -/
theorem get?_perform [DecidableEq δ] (entries : DisclosureEntries δ) (timed : TimedCall δ ι)
    (c s : String) :
    ∃ keeps, DropsExpired expiry timed.clock keeps ∧
      (sessions (perform expiry entries timed).2 c).get? s =
        ((timed.call.written c s).getD ((sessions entries c).get? s)).filter keeps := by
  obtain ⟨call, clock⟩ := timed
  cases call with
  | set chatIds sessionKey disclosure =>
    exact get?_mutate (fun m s => OrdMap.get?_set m sessionKey s disclosure) clock chatIds entries
      c s
  | restore chatIds sessionKey disclosure =>
    refine ⟨_, dropsExpired_true clock, ?_⟩
    rw [filter_all]
    exact get?_restore chatIds sessionKey disclosure entries c s
  | delete chatIds sessionKey =>
    exact get?_mutate (fun m s => OrdMap.get?_erase m sessionKey s) clock chatIds entries c s
  | get chatId => exact get?_aggregateForChat clock chatId false entries c s
  | peek chatId => exact get?_aggregateForChat clock chatId true entries c s

/-! ### Histories -/

omit [LinearOrder ι] in
theorem lastWrite_snoc (calls : List (TimedCall δ ι)) (timed : TimedCall δ ι) (c s : String) :
    lastWrite (calls ++ [timed]) c s = (timed.call.written c s).getD (lastWrite calls c s) := by
  unfold lastWrite
  rw [List.foldl_append]
  rfl

theorem after_snoc [DecidableEq δ] (calls : List (TimedCall δ ι)) (timed : TimedCall δ ι) :
    after expiry (calls ++ [timed]) = (perform expiry (after expiry calls) timed).2 := by
  unfold after
  rw [List.foldl_append]
  rfl

/-- The sessions hold last writes, and of these only expired ones are missing. -/
structure Tracks (expiry : δ → Option ι) (calls : List (TimedCall δ ι))
    (entries : DisclosureEntries δ) : Prop where
  written : ∀ c s disclosure, (sessions entries c).get? s = some disclosure →
    lastWrite calls c s = some disclosure
  kept : ∀ c s disclosure now, lastWrite calls c s = some disclosure →
    (∀ timed ∈ calls, ∀ i, timed.clock i ≤ now) → isLive expiry now disclosure = true →
    (sessions entries c).get? s = some disclosure

theorem Tracks.perform [DecidableEq δ] {calls : List (TimedCall δ ι)}
    (h : Tracks expiry calls entries)
    (timed : TimedCall δ ι) :
    Tracks expiry (calls ++ [timed]) (perform expiry entries timed).2 := by
  constructor
  · intro c s disclosure hget
    obtain ⟨keeps, -, hperform⟩ := @get?_perform δ ι _ expiry _ entries timed c s
    rw [hperform] at hget
    have hbefore := (Option.filter_eq_some_iff.1 hget).1
    rw [lastWrite_snoc]
    cases hwritten : timed.call.written c s with
    | some write =>
      rw [hwritten] at hbefore
      exact hbefore
    | none =>
      rw [hwritten] at hbefore
      exact h.written c s disclosure hbefore
  · intro c s disclosure now hlast hpast hlive
    obtain ⟨keeps, hdrops, hperform⟩ := @get?_perform δ ι _ expiry _ entries timed c s
    have hbefore : (timed.call.written c s).getD ((sessions entries c).get? s) =
        some disclosure := by
      rw [lastWrite_snoc] at hlast
      cases hwritten : timed.call.written c s with
      | some write =>
        rw [hwritten] at hlast
        exact hlast
      | none =>
        rw [hwritten] at hlast
        exact h.kept c s disclosure now hlast
          (fun earlier hmem => hpast earlier (List.mem_append_left _ hmem)) hlive
    -- it is live now, so it was live at every reading of the call
    have hkeeps : keeps disclosure = true := by
      by_contra hdrop
      obtain ⟨i, hexpired⟩ := hdrops disclosure (Bool.not_eq_true _ ▸ hdrop)
      have hle := hpast timed (List.mem_append_right _ (List.mem_singleton_self _)) i
      rw [isLive_of_le hle hlive] at hexpired
      cases hexpired
    rw [hperform, hbefore]
    exact Option.filter_some_pos hkeeps

/-- **After any calls the store tracks them.** -/
theorem tracks_after [DecidableEq δ] (calls : List (TimedCall δ ι)) :
    Tracks expiry calls (after expiry calls) := by
  induction calls using List.reverseRecOn with
  | nil => exact ⟨fun _ _ _ h => (nomatch h), fun _ _ _ _ h => (nomatch h)⟩
  | append_singleton calls timed ih =>
    rw [after_snoc]
    exact ih.perform timed

/-! ### A store that drops nothing -/

/-- The writes of a call, without any look. -/
def record (entries : DisclosureEntries δ) : DisclosureCall δ → DisclosureEntries δ
  | .set chatIds sessionKey disclosure | .restore chatIds sessionKey disclosure =>
    restore chatIds sessionKey disclosure entries
  | .delete chatIds sessionKey =>
    (collectUniqueChatIds chatIds).foldl
      (fun entries chatId =>
        putSessions entries chatId ((sessions entries chatId).erase sessionKey))
      entries
  | .get _ | .peek _ => entries

/-- The entries after the calls if no look dropped anything. -/
def recorded (calls : List (TimedCall δ ι)) : DisclosureEntries δ :=
  calls.foldl (fun entries timed => record entries timed.call) .empty

theorem get?_record (entries : DisclosureEntries δ) (call : DisclosureCall δ) (c s : String) :
    (sessions (record entries call) c).get? s =
      (call.written c s).getD ((sessions entries c).get? s) := by
  cases call with
  | set chatIds sessionKey disclosure | restore chatIds sessionKey disclosure =>
    exact get?_restore chatIds sessionKey disclosure entries c s
  | delete chatIds sessionKey =>
    exact get?_foldl sessions_putSessions (fun m s => OrdMap.get?_erase m sessionKey s) chatIds
      entries c s
  | get chatId | peek chatId => rfl

omit [LinearOrder ι] in
/-- It holds the last writes. -/
theorem get?_recorded (calls : List (TimedCall δ ι)) (c s : String) :
    (sessions (recorded calls) c).get? s = lastWrite calls c s := by
  induction calls using List.reverseRecOn with
  | nil => rfl
  | append_singleton calls timed ih =>
    have hstep : recorded (calls ++ [timed]) = record (recorded calls) timed.call := by
      unfold recorded
      rw [List.foldl_append]
      rfl
    rw [hstep, get?_record, ih, lastWrite_snoc]

end DisclosureEntries

/-! ### What a `get` finds -/

section Found

variable {δ ι : Type} [LinearOrder ι] {expiry : δ → Option ι} {now : ι}
variable {last last' : String → Option δ} {found found' : Option δ}

/-- What is known of the sessions carries over to what they stand for, as far as they are live. -/
theorem IsLatest.mono (h : IsLatest expiry now last found)
    (hwritten : ∀ s d, last s = some d → last' s = some d)
    (hkept : ∀ s d, last' s = some d → DisclosureEntries.isLive expiry now d = true →
      last s = some d) :
    IsLatest expiry now last' found := by
  constructor
  · intro d hfound
    obtain ⟨⟨s, hs⟩, hlive⟩ := h.live d hfound
    exact ⟨⟨s, hwritten s d hs⟩, hlive⟩
  · intro s d hs hlive
    exact h.longest s d (hkept s d hs hlive) hlive

/-- The live last writes that end at one instant are one disclosure. -/
def NoTies (expiry : δ → Option ι) (now : ι) (last : String → Option δ) : Prop :=
  ∀ s s' d d', last s = some d → last s' = some d' →
    DisclosureEntries.isLive expiry now d = true → DisclosureEntries.isLive expiry now d' = true →
    expiry d = expiry d' → d = d'

/-- What is found and what lasts as long as it. -/
private theorem IsLatest.expiry_le (h : IsLatest expiry now last found)
    (h' : IsLatest expiry now last found') {d : δ} (hfound : found = some d) :
    ∃ d' t t', found' = some d' ∧ expiry d = some t ∧ expiry d' = some t' ∧ t ≤ t' := by
  obtain ⟨⟨s, hs⟩, hlive⟩ := h.live d hfound
  exact h'.longest s d hs hlive

/-- **Two latest disclosures end at one instant.** -/
theorem IsLatest.expiry_eq (h : IsLatest expiry now last found)
    (h' : IsLatest expiry now last found') : found.map expiry = found'.map expiry := by
  cases hfound : found with
  | none =>
    cases hfound' : found' with
    | none => rfl
    | some d' =>
      obtain ⟨d, -, -, hd, -⟩ := h'.expiry_le h hfound'
      rw [hfound] at hd
      cases hd
  | some d =>
    obtain ⟨d', t, t', hfound', ht, ht', hle⟩ := h.expiry_le h' hfound
    obtain ⟨e, u', u, he, hu', hu, hle'⟩ := h'.expiry_le h hfound'
    obtain rfl : d = e := Option.some.inj (hfound.symm.trans he)
    obtain rfl : t = u := Option.some.inj (ht.symm.trans hu)
    obtain rfl : t' = u' := Option.some.inj (ht'.symm.trans hu')
    rw [hfound', Option.map_some, Option.map_some, ht, ht', le_antisymm hle hle']

theorem IsLatest.eq_of_noTies (h : IsLatest expiry now last found)
    (h' : IsLatest expiry now last found') (hties : NoTies expiry now last) : found = found' := by
  have hexpiry := h.expiry_eq h'
  cases hfound : found with
  | none =>
    rw [hfound, Option.map_none] at hexpiry
    exact (Option.map_eq_none_iff.1 hexpiry.symm).symm
  | some d =>
    obtain ⟨d', -, -, hfound', -⟩ := h.expiry_le h' hfound
    rw [hfound, hfound', Option.map_some, Option.map_some] at hexpiry
    obtain ⟨⟨s, hs⟩, hlive⟩ := h.live d hfound
    obtain ⟨⟨s', hs'⟩, hlive'⟩ := h'.live d' hfound'
    rw [hfound', hties s s' d d' hs hs' hlive hlive' (Option.some.inj hexpiry)]

end Found

/-! ### The aggregate of a history -/

namespace DisclosureEntries

variable {δ ι : Type} [DecidableEq δ] [LinearOrder ι] {expiry : δ → Option ι}

/-- The distinct chats with an id whose aggregate is another one after the call, each looked at with
the two readings of its turn. -/
def changedChats (expiry : δ → Option ι) (clock : Nat → ι) (chatIds : List String)
    (before after : DisclosureEntries δ) : List String :=
  (collectUniqueChatIds chatIds).filter fun chatId =>
    aggregate expiry before chatId (clock (2 * (collectUniqueChatIds chatIds).idxOf chatId)) ≠
      aggregate expiry after chatId (clock (2 * (collectUniqueChatIds chatIds).idxOf chatId + 1))

theorem mutate_fst (clock : Nat → ι) (fn : OrdMap String δ → OrdMap String δ)
    (chatIds : List String) (entries : DisclosureEntries δ) :
    (mutate expiry clock fn chatIds entries).1 =
      changedChats expiry clock chatIds entries (mutate expiry clock fn chatIds entries).2 := by
  have hchanged := @mutateFrom_fst δ ι _ expiry fn _ clock _ (nodup_collectUniqueChatIds chatIds) 0
    entries
  simp only [Nat.zero_add] at hchanged
  exact hchanged

omit [DecidableEq δ] in
/-- What a store finds whose entries are last writes up to expired ones. -/
theorem Tracks.isLatest {calls : List (TimedCall δ ι)} {entries : DisclosureEntries δ}
    (h : Tracks expiry calls entries) {now : ι} (hpast : ∀ timed ∈ calls, ∀ i, timed.clock i ≤ now)
    (chatId : String) :
    IsLatest expiry now (lastWrite calls chatId) (aggregate expiry entries chatId now) :=
  (isLatest_aggregate entries chatId now).mono (fun s d => h.written chatId s d)
    fun s d hlast => h.kept chatId s d now hlast hpast

/-- **The aggregate of a history.** After any calls with a clock that does not go back: a `get`
finds a live last write that lasts longest, none if there is none; `set` and `delete` return the
chats whose aggregate they change; and a store that drops nothing would find a disclosure when this
one does, one that ends at the same instant, and the same one unless live last writes that differ
end together. -/
theorem disclosure_aggregation {calls : List (TimedCall δ ι)} {timed : TimedCall δ ι}
    (hclock : NonDecreasing (calls ++ [timed])) :
    (∀ chatId, timed.call = .get chatId →
      ∃ found, (perform expiry (after expiry calls) timed).1 = .disclosure found ∧
        IsLatest expiry (timed.clock 0) (lastWrite calls chatId) found ∧
        found.map expiry =
          (aggregate expiry (recorded calls) chatId (timed.clock 0)).map expiry ∧
        (NoTies expiry (timed.clock 0) (lastWrite calls chatId) →
          found = aggregate expiry (recorded calls) chatId (timed.clock 0))) ∧
    (∀ chatIds sessionKey disclosure, timed.call = .set chatIds sessionKey disclosure →
      (perform expiry (after expiry calls) timed).1 =
        .chats (changedChats expiry timed.clock chatIds (after expiry calls)
          (perform expiry (after expiry calls) timed).2)) ∧
    (∀ chatIds sessionKey, timed.call = .delete chatIds sessionKey →
      (perform expiry (after expiry calls) timed).1 =
        .chats (changedChats expiry timed.clock chatIds (after expiry calls)
          (perform expiry (after expiry calls) timed).2)) := by
  obtain ⟨call, clock⟩ := timed
  refine ⟨?_, ?_, ?_⟩
  · rintro chatId rfl
    have hpast : ∀ earlier ∈ calls, ∀ i, earlier.clock i ≤ clock 0 := fun earlier hmem i =>
      (List.pairwise_append.1 hclock.between).2.2 earlier hmem _ (List.mem_singleton_self _) i 0
    have hfound : IsLatest expiry (clock 0) (lastWrite calls chatId)
        (aggregate expiry (after expiry calls) chatId (clock 0)) :=
      (tracks_after calls).isLatest hpast chatId
    have hrecorded : IsLatest expiry (clock 0) (lastWrite calls chatId)
        (aggregate expiry (recorded calls) chatId (clock 0)) :=
      (isLatest_aggregate (recorded calls) chatId (clock 0)).mono
        (fun s d h => (get?_recorded calls chatId s).symm.trans h)
        (fun s d h _ => (get?_recorded calls chatId s).trans h)
    exact ⟨_, rfl, hfound, hfound.expiry_eq hrecorded, hfound.eq_of_noTies hrecorded⟩
  · rintro chatIds sessionKey disclosure rfl
    exact congrArg DisclosureAnswer.chats (mutate_fst clock _ chatIds _)
  · rintro chatIds sessionKey rfl
    exact congrArg DisclosureAnswer.chats (mutate_fst clock _ chatIds _)

end DisclosureEntries

/-! ### Calls at one instant each -/

/-- A call whose readings are all the same. -/
def timedAt {δ ι : Type} (now : ι) (call : DisclosureCall δ) : TimedCall δ ι :=
  ⟨call, fun _ => now⟩

def atInstants {δ ι : Type} (calls : List (ι × DisclosureCall δ)) : List (TimedCall δ ι) :=
  calls.map fun c => timedAt c.1 c.2

theorem nonDecreasing_atInstants {δ ι : Type} [LinearOrder ι] {calls : List (ι × DisclosureCall δ)}
    (h : (calls.map Prod.fst).Pairwise (· ≤ ·)) : NonDecreasing (atInstants calls) := by
  constructor
  · intro timed hmem
    obtain ⟨c, -, rfl⟩ := List.mem_map.1 hmem
    exact monotone_const
  · unfold atInstants
    rw [List.pairwise_map] at h ⊢
    exact h.imp fun hle _ _ => hle

namespace DisclosureStore

variable {store : DisclosureStore} {chatId : String} {now : Time}

/-- The date of a disclosure whose text is one. -/
def storeExpiry (disclosure : AdminReadDisclosure) : Option Time :=
  some disclosure.expiresAt

theorem latest_eq (found : Option AdminReadDisclosure) (list : List AdminReadDisclosure) :
    latest found list = DisclosureEntries.latest storeExpiry found list := by
  induction list generalizing found with
  | nil => rfl
  | cons head rest ih =>
    unfold latest DisclosureEntries.latest
    rw [ih, ih]
    rfl

/-- **A look of `DisclosureStore`** is one with dates that parse. -/
theorem aggregateForChat_eq (store : DisclosureStore) (chatId : String) (now : Time)
    (includeExpired : Bool) :
    store.aggregateForChat chatId now includeExpired =
      ((DisclosureEntries.aggregateForChat storeExpiry store.entries chatId includeExpired now).1,
        ⟨(DisclosureEntries.aggregateForChat storeExpiry store.entries chatId includeExpired
          now).2⟩) := by
  unfold aggregateForChat DisclosureEntries.aggregateForChat
  cases store.entries.get? chatId with
  | none => rfl
  | some perSession =>
    have hcounts : counts now includeExpired =
        fun disclosure => includeExpired || DisclosureEntries.isLive storeExpiry now disclosure :=
      rfl
    dsimp only
    rw [hcounts, latest_eq]
    split <;> rfl

theorem mutateChat_eq (store : DisclosureStore)
    (fn : OrdMap String AdminReadDisclosure → OrdMap String AdminReadDisclosure) :
    store.mutateChat chatId now fn =
      ((DisclosureEntries.mutateChat storeExpiry store.entries chatId now now fn).1,
        ⟨(DisclosureEntries.mutateChat storeExpiry store.entries chatId now now fn).2⟩) := by
  have hput : ∀ (entries : DisclosureEntries AdminReadDisclosure) perSession,
      putSessions ⟨entries⟩ chatId perSession =
        ⟨DisclosureEntries.putSessions entries chatId perSession⟩ := by
    intro entries perSession
    unfold putSessions DisclosureEntries.putSessions
    split <;> rfl
  unfold mutateChat DisclosureEntries.mutateChat
  simp only [aggregateForChat_eq, hput]
  rfl

/-- **`mutate` of `DisclosureStore`** is the one that reads the same instant at every look. -/
theorem mutate_eq (store : DisclosureStore) (chatIds : List String) (now : Time)
    (fn : OrdMap String AdminReadDisclosure → OrdMap String AdminReadDisclosure) :
    store.mutate chatIds now fn =
      ((DisclosureEntries.mutate storeExpiry (fun _ => now) fn chatIds store.entries).1,
        ⟨(DisclosureEntries.mutate storeExpiry (fun _ => now) fn chatIds store.entries).2⟩) := by
  have hturns : ∀ (ids : List String) (i : Nat) (changed : List String) (store : DisclosureStore),
      ids.foldl (fun turn chatId =>
          (if (turn.2.mutateChat chatId now fn).1 then turn.1 ++ [chatId] else turn.1,
            (turn.2.mutateChat chatId now fn).2)) (changed, store) =
        (changed ++ (DisclosureEntries.mutateFrom storeExpiry (fun _ => now) fn i ids
            store.entries).1,
          ⟨(DisclosureEntries.mutateFrom storeExpiry (fun _ => now) fn i ids
            store.entries).2⟩) := by
    intro ids
    induction ids with
    | nil =>
      intro i changed store
      exact congrArg (·, store) (List.append_nil changed).symm
    | cons chatId rest ih =>
      intro i changed store
      rw [List.foldl_cons]
      dsimp only
      rw [mutateChat_eq, ih (i + 2), DisclosureEntries.mutateFrom_cons]
      dsimp only
      split
      · rw [List.append_assoc]
        rfl
      · rfl
  exact hturns _ 0 [] store

/-- **`restore` of `DisclosureStore`** is the one that looks at no clock. -/
theorem restore_eq (store : DisclosureStore) (chatIds : List String) (sessionKey : String)
    (disclosure : AdminReadDisclosure) :
    store.restore chatIds sessionKey disclosure =
      ⟨DisclosureEntries.restore chatIds sessionKey disclosure store.entries⟩ := by
  unfold restore DisclosureEntries.restore
  generalize collectUniqueChatIds chatIds = ids
  induction ids generalizing store with
  | nil => rfl
  | cons chatId rest ih =>
    rw [List.foldl_cons, List.foldl_cons, ih]
    rfl

end DisclosureStore

/-! ### Two sessions of one chat -/

/-- Two sessions disclose for a chat; the first one ends before the second. -/
def twoSessions : List (Time × DisclosureCall AdminReadDisclosure) :=
  [(1, .set ["chat"] "a" ⟨"op_x", 10⟩), (2, .set ["chat"] "b" ⟨"op_y", 20⟩)]

/-- The first session is restored after its end, for as long as the second. -/
def restoredFirst : Time × DisclosureCall AdminReadDisclosure :=
  (16, .restore ["chat"] "a" ⟨"op_z", 20⟩)

/-- The entries after calls at one instant each. -/
def entriesAfter (calls : List (Time × DisclosureCall AdminReadDisclosure)) :
    DisclosureEntries AdminReadDisclosure :=
  DisclosureEntries.after DisclosureStore.storeExpiry (atInstants calls)

/-- While both sessions are live, the second one is found. -/
theorem disclosure_aggregation_two :
    (DisclosureEntries.perform DisclosureStore.storeExpiry (entriesAfter twoSessions)
        (timedAt 5 (.get "chat"))).1 = .disclosure (some ⟨"op_y", 20⟩) ∧
      IsLatest DisclosureStore.storeExpiry 5
        (lastWrite (atInstants twoSessions) "chat") (some ⟨"op_y", 20⟩) := by
  have hclock : NonDecreasing (atInstants (twoSessions ++ [(5, .get "chat")])) :=
    nonDecreasing_atInstants (by decide)
  rw [atInstants, List.map_append] at hclock
  obtain ⟨found, hfound, hlatest, -⟩ :=
    (@DisclosureEntries.disclosure_aggregation _ _ _ _ DisclosureStore.storeExpiry _ _ hclock).1
      "chat" rfl
  have hanswer : (DisclosureEntries.perform DisclosureStore.storeExpiry (entriesAfter twoSessions)
      (timedAt 5 (.get "chat"))).1 = .disclosure (some ⟨"op_y", 20⟩) := by decide
  obtain rfl : found = some ⟨"op_y", 20⟩ :=
    DisclosureAnswer.disclosure.inj (hfound.symm.trans hanswer)
  exact ⟨hanswer, hlatest⟩

/-- **A look in between changes what a later `get` finds.** With a `get` after the end of the first
session it is dropped and comes last when it is restored; without one it keeps its place. -/
theorem clean_up_changes_get :
    NonDecreasing (atInstants
        (twoSessions ++ [(15, .get "chat"), restoredFirst, (17, .get "chat")])) ∧
      (DisclosureEntries.perform DisclosureStore.storeExpiry
        (entriesAfter (twoSessions ++ [(15, .get "chat"), restoredFirst]))
        (timedAt 17 (.get "chat"))).1 = .disclosure (some ⟨"op_y", 20⟩) ∧
      (DisclosureEntries.perform DisclosureStore.storeExpiry
        (entriesAfter (twoSessions ++ [restoredFirst]))
        (timedAt 17 (.get "chat"))).1 = .disclosure (some ⟨"op_z", 20⟩) ∧
      DisclosureEntries.aggregate DisclosureStore.storeExpiry
        (DisclosureEntries.recorded
          (atInstants (twoSessions ++ [(15, .get "chat"), restoredFirst])))
        "chat" 17 = some ⟨"op_z", 20⟩ :=
  ⟨nonDecreasing_atInstants (by decide), by decide⟩

end Signet
