import Signet.Cli.InviteSteps

/-!
# Duplicate invites

Two calls never hold the same request, and what has been accepted is refused as long as its key is
kept.

* `DedupInv`: the marks of the calls in flight, and those of the acceptances so far.
* `invite_dedup_iff`: no message is accepted twice, two dispatches are never of one request, and
  acceptances of one key are as far apart as the time to live says, exactly if `setTimeout` can wait
  that long.
-/

namespace Signet

open Lib

/-! ### Marks -/

/-- Two messages are one, or ask for one invite. -/
def SameRequest (cfg : InviteListenerConfig) (event event' : RawMessageEvent) : Prop :=
  event.messageId = event'.messageId ∨
    ∃ key, cfg.onboardingScheme.resolveInviteRequestKey event = some key ∧
      cfg.onboardingScheme.resolveInviteRequestKey event' = some key

theorem marks_eq_false {α : Type} {messageIds keys : OrdMap String α} {messageId : String}
    {requestKey : Option String} :
    (messageIds.has messageId || requestKey.any keys.has) = false ↔
      messageIds.has messageId = false ∧ ∀ key, requestKey = some key → keys.has key = false := by
  rw [Bool.or_eq_false_iff]
  cases requestKey with
  | none => exact and_congr_right fun _ => iff_of_true rfl (fun _ h => by cases h)
  | some key =>
    refine and_congr_right fun _ => ⟨fun h key' hkey' => ?_, fun h => h key rfl⟩
    cases hkey'
    exact h

theorem ProcessedInvites.isProcessed_eq_false {processed : ProcessedInvites} {messageId : String}
    {requestKey : Option String} :
    processed.isProcessed messageId requestKey = false ↔
      processed.processedMessageIds.has messageId = false ∧
        ∀ key, requestKey = some key → processed.processedInviteKeys.has key = false :=
  marks_eq_false

namespace InviteListenerState

variable {s : InviteListenerState} {messageId : String} {requestKey : Option String}

theorem isInflight_eq_false :
    s.isInflight messageId requestKey = false ↔
      s.inflightMessageIds.has messageId = false ∧
        ∀ key, requestKey = some key → s.inflightInviteKeys.has key = false :=
  marks_eq_false

theorem markInflight_messageIds {messageId' : String} :
    (s.markInflight messageId requestKey).inflightMessageIds.has messageId' = true ↔
      messageId' = messageId ∨ s.inflightMessageIds.has messageId' = true :=
  OrdMap.has_set_iff

theorem markInflight_inviteKeys {key : String} :
    (s.markInflight messageId requestKey).inflightInviteKeys.has key = true ↔
      requestKey = some key ∨ s.inflightInviteKeys.has key = true := by
  cases requestKey with
  | none => exact (or_iff_right fun h => by cases h).symm
  | some key' =>
    show (s.inflightInviteKeys.set key' ()).has key = true ↔ _
    rw [OrdMap.has_set_iff, Option.some_inj]
    exact or_congr_left eq_comm

theorem releaseInflight_messageIds {messageId' : String} :
    (s.releaseInflight messageId requestKey).inflightMessageIds.has messageId' = true ↔
      messageId' ≠ messageId ∧ s.inflightMessageIds.has messageId' = true :=
  OrdMap.has_erase_iff

theorem releaseInflight_inviteKeys {key : String} :
    (s.releaseInflight messageId requestKey).inflightInviteKeys.has key = true ↔
      requestKey ≠ some key ∧ s.inflightInviteKeys.has key = true := by
  cases requestKey with
  | none => exact (and_iff_right fun h => by cases h).symm
  | some key' =>
    show (s.inflightInviteKeys.erase key').has key = true ↔ _
    rw [OrdMap.has_erase_iff, Ne, Ne, Option.some_inj]
    exact and_congr_left fun _ => not_congr eq_comm

variable {cfg : InviteListenerConfig}

theorem markAccepted_now : (s.markAccepted cfg messageId requestKey).now = s.now := by
  cases requestKey with
  | none => rfl
  | some key => rfl

theorem markAccepted_inflight :
    (s.markAccepted cfg messageId requestKey).inflightMessageIds = s.inflightMessageIds ∧
      (s.markAccepted cfg messageId requestKey).inflightInviteKeys = s.inflightInviteKeys := by
  cases requestKey with
  | none => exact ⟨rfl, rfl⟩
  | some key => exact ⟨rfl, rfl⟩

theorem markAccepted_messageIds {messageId' : String} :
    (s.markAccepted cfg messageId requestKey).processed.processedMessageIds.has messageId' = true ↔
      messageId' = messageId ∨ s.processed.processedMessageIds.has messageId' = true := by
  cases requestKey with
  | none => exact OrdMap.has_set_iff
  | some key => exact OrdMap.has_set_iff

theorem markAccepted_inviteKeys {key : String} :
    (s.markAccepted cfg messageId requestKey).processed.processedInviteKeys.has key = true ↔
      requestKey = some key ∨ s.processed.processedInviteKeys.has key = true := by
  cases requestKey with
  | none => exact (or_iff_right fun h => by cases h).symm
  | some key' =>
    show (s.processed.processedInviteKeys.set key' ()).has key = true ↔ _
    rw [OrdMap.has_set_iff, Option.some_inj]
    exact or_congr_left eq_comm

/-- The handle of the timer of a key. -/
theorem markAccepted_keyTimers {key : String} :
    (s.markAccepted cfg messageId requestKey).processedInviteKeyTimers.get? key =
      if requestKey = some key then some s.timersSet else s.processedInviteKeyTimers.get? key := by
  cases requestKey with
  | none => exact (if_neg fun h => by cases h).symm
  | some key' =>
    show ((s.processedInviteKeyTimers.erase key').set key' s.timersSet).get? key = _
    rw [OrdMap.get?_set, OrdMap.get?_erase]
    by_cases heq : key = key'
    · rw [if_pos heq, if_pos (congrArg some heq.symm)]
    · rw [if_neg heq, if_neg heq, if_neg fun h => heq (Option.some.inj h).symm]

/-- A timer of a key is the new one, or an old one of another key. -/
theorem markAccepted_keyTimer {timer : Nat} {key : String} {due : Time}
    (hold : ∀ timer key due, s.KeyTimer timer key due →
      s.processedInviteKeyTimers.get? key = some timer)
    (h : (s.markAccepted cfg messageId requestKey).KeyTimer timer key due) :
    (requestKey = some key ∧ timer = s.timersSet ∧ due = s.now + setTimeoutDelay cfg.ttlMs) ∨
      (requestKey ≠ some key ∧ s.KeyTimer timer key due) := by
  cases requestKey with
  | none => exact Or.inr ⟨Option.some_ne_none key ∘ Eq.symm, h⟩
  | some key' =>
    replace h : (((s.processedInviteKeyTimers.get? key').elim s.timers s.timers.erase).set
        s.timersSet ⟨s.now + setTimeoutDelay cfg.ttlMs, .releaseInviteKey key'⟩).get? timer =
          some ⟨due, .releaseInviteKey key⟩ := h
    rcases OrdMap.get?_set_eq_some h with ⟨rfl, hnew⟩ | ⟨-, hrest⟩
    · cases hnew
      exact Or.inl ⟨rfl, rfl, rfl⟩
    · have hkept : s.KeyTimer timer key due ∧
          s.processedInviteKeyTimers.get? key' ≠ some timer := by
        cases hget : s.processedInviteKeyTimers.get? key' with
        | none =>
          rw [hget] at hrest
          exact ⟨hrest, fun h => by cases h⟩
        | some cleared =>
          rw [hget] at hrest
          obtain ⟨hne, hrest⟩ := OrdMap.get?_erase_eq_some hrest
          exact ⟨hrest, fun h => hne (Option.some.inj h).symm⟩
      -- the old timer of the key has been cleared
      refine Or.inr ⟨fun heq => hkept.2 ?_, hkept.1⟩
      rw [Option.some.inj heq]
      exact hold timer key due hkept.1

end InviteListenerState

/-- The message, and its request, are marked in flight. -/
def InviteListenerState.Marked (cfg : InviteListenerConfig) (s : InviteListenerState)
    (event : RawMessageEvent) : Prop :=
  s.inflightMessageIds.has event.messageId = true ∧
    ∀ key, cfg.onboardingScheme.resolveInviteRequestKey event = some key →
      s.inflightInviteKeys.has key = true

/-! ### The invariant -/

/-- What the listener still knows of an acceptance: the message, and the key until its time is
over. -/
def InviteListenerState.Keeps (cfg : InviteListenerConfig) (s : InviteListenerState)
    (accepted : InviteAccepted) : Prop :=
  s.processed.processedMessageIds.has accepted.messageId = true ∧
    ∀ key, accepted.requestKey = some key →
      accepted.time + setTimeoutDelay cfg.ttlMs ≤ s.now ∨
        (s.processed.processedInviteKeys.has key = true ∧ ∀ timer due, s.KeyTimer timer key due →
          accepted.time + setTimeoutDelay cfg.ttlMs ≤ due)

/-- Without a new timer for a key nothing is forgotten. -/
theorem InviteListenerState.Keeps.of_same {cfg : InviteListenerConfig}
    {s s' : InviteListenerState} {accepted : InviteAccepted} (h : s.Keeps cfg accepted)
    (hnow : s'.now = s.now) (hprocessed : s'.processed = s.processed)
    (htimers : ∀ timer key due, s'.KeyTimer timer key due → s.KeyTimer timer key due) :
    s'.Keeps cfg accepted := by
  unfold Keeps
  rw [hprocessed, hnow]
  refine ⟨h.1, fun key hkey => (h.2 key hkey).imp_right fun hkept => ⟨hkept.1, ?_⟩⟩
  exact fun timer due htimer => hkept.2 timer due (htimers timer key due htimer)

def KeysApart (cfg : InviteListenerConfig) (accepted accepted' : InviteAccepted) : Prop :=
  ∀ key, accepted.requestKey = some key → accepted'.requestKey = some key →
    accepted.time + setTimeoutDelay cfg.ttlMs ≤ accepted'.time

/-- The marks of what is in flight, and of what has been accepted. -/
structure DedupInv (cfg : InviteListenerConfig) (tr : List InviteAccepted)
    (s : InviteListenerState) : Prop where
  marked : ∀ call event dispatching, s.held call = some (event, dispatching) → s.Marked cfg event
  single : ∀ call call' event event' dispatching dispatching',
    s.held call = some (event, dispatching) → s.held call' = some (event', dispatching') →
      SameRequest cfg event event' → call = call'
  unprocessed : ∀ call event, s.held call = some (event, true) →
    s.processed.isProcessed event.messageId
      (cfg.onboardingScheme.resolveInviteRequestKey event) = false
  keyTimers : ∀ timer key due, s.KeyTimer timer key due →
    s.processedInviteKeyTimers.get? key = some timer
  kept : ∀ accepted ∈ tr, s.Keeps cfg accepted
  once : tr.Pairwise fun accepted accepted' => accepted.messageId ≠ accepted'.messageId
  apart : tr.Pairwise (KeysApart cfg)

namespace DedupInv

variable {cfg : InviteListenerConfig} {tr : List InviteAccepted} {s s' : InviteListenerState}
  {call : Nat} {event : RawMessageEvent}

/-- Time passes. -/
theorem tick (h : DedupInv cfg tr s) {now : Time} (hnow : s.now ≤ now) :
    DedupInv cfg tr { s with now := now } where
  marked := h.marked
  single := h.single
  unprocessed := h.unprocessed
  keyTimers := h.keyTimers
  kept accepted hmem := ⟨(h.kept accepted hmem).1, fun key hkey =>
    ((h.kept accepted hmem).2 key hkey).imp_left fun hover => le_trans hover hnow⟩
  once := h.once
  apart := h.apart

theorem same (h : DedupInv cfg tr s) (hmarks : SameMarks s s')
    (hheld : ∀ call event dispatching, s'.held call = some (event, dispatching) →
      ∃ dispatching', s.held call = some (event, dispatching') ∧
        (dispatching = true → dispatching' = true)) : DedupInv cfg tr s' where
  marked call event dispatching hcall := by
    obtain ⟨dispatching', hold, -⟩ := hheld call event dispatching hcall
    unfold InviteListenerState.Marked
    rw [hmarks.inflightMessageIds, hmarks.inflightInviteKeys]
    exact h.marked call event dispatching' hold
  single call call' event event' _ _ hcall hcall' hsame := by
    obtain ⟨_, hold, -⟩ := hheld call event _ hcall
    obtain ⟨_, hold', -⟩ := hheld call' event' _ hcall'
    exact h.single call call' event event' _ _ hold hold' hsame
  unprocessed call event hcall := by
    obtain ⟨dispatching, hold, hdispatching⟩ := hheld call event true hcall
    rw [hdispatching rfl] at hold
    rw [hmarks.processed]
    exact h.unprocessed call event hold
  keyTimers timer key due htimer := by
    rw [hmarks.keyTimers]
    exact h.keyTimers timer key due ((hmarks.timers timer key due).1 htimer)
  kept accepted hmem := (h.kept accepted hmem).of_same hmarks.now hmarks.processed
    fun timer key due => (hmarks.timers timer key due).1
  once := h.once
  apart := h.apart

theorem began (h : DedupInv cfg tr s)
    (hprocessed : s.processed.isProcessed event.messageId
      (cfg.onboardingScheme.resolveInviteRequestKey event) = false)
    (hinflight : s.isInflight event.messageId
      (cfg.onboardingScheme.resolveInviteRequestKey event) = false)
    (hmarks : SameMarks (s.markInflight event.messageId
      (cfg.onboardingScheme.resolveInviteRequestKey event)) s')
    (hheld : ∀ call', s'.held call' = if call' = call then some (event, true) else s.held call') :
    DedupInv cfg tr s' := by
  obtain ⟨hid, hkey⟩ := InviteListenerState.isInflight_eq_false.1 hinflight
  -- a message in flight is another request
  have hother : ∀ call' event' dispatching, s.held call' = some (event', dispatching) →
      ¬ SameRequest cfg event event' := by
    intro call' event' dispatching hcall' hsame
    obtain ⟨hmarkedId, hmarkedKey⟩ := h.marked call' event' dispatching hcall'
    rcases hsame with hsameId | ⟨key, hthis, hthat⟩
    · rw [← hsameId, hid] at hmarkedId
      exact Bool.false_ne_true hmarkedId
    · have hmarked := hmarkedKey key hthat
      rw [hkey key hthis] at hmarked
      exact Bool.false_ne_true hmarked
  have hsplit : ∀ {call' event' dispatching}, s'.held call' = some (event', dispatching) →
      (call' = call ∧ event' = event) ∨ s.held call' = some (event', dispatching) := by
    intro call' event' dispatching hcall'
    rw [hheld] at hcall'
    split at hcall'
    · next heq =>
      cases hcall'
      exact Or.inl ⟨heq, rfl⟩
    · exact Or.inr hcall'
  refine ⟨fun call' event' _ hcall' => ?_, fun call₁ call₂ event₁ event₂ _ _ h₁ h₂ hsame => ?_,
    fun call' event' hcall' => ?_, fun timer key due htimer => ?_, fun accepted hmem => ?_, h.once,
    h.apart⟩
  · unfold InviteListenerState.Marked
    rw [hmarks.inflightMessageIds, hmarks.inflightInviteKeys,
      InviteListenerState.markInflight_messageIds]
    rcases hsplit hcall' with ⟨-, rfl⟩ | hold
    · exact ⟨Or.inl rfl, fun key hget =>
        InviteListenerState.markInflight_inviteKeys.2 (Or.inl hget)⟩
    · obtain ⟨holdId, holdKey⟩ := h.marked call' event' _ hold
      exact ⟨Or.inr holdId, fun key hget =>
        InviteListenerState.markInflight_inviteKeys.2 (Or.inr (holdKey key hget))⟩
  · rcases hsplit h₁ with ⟨rfl, rfl⟩ | hold₁
    · rcases hsplit h₂ with ⟨rfl, -⟩ | hold₂
      · rfl
      · exact absurd hsame (hother call₂ event₂ _ hold₂)
    · rcases hsplit h₂ with ⟨rfl, rfl⟩ | hold₂
      · refine absurd ?_ (hother call₁ event₁ _ hold₁)
        exact hsame.imp Eq.symm fun ⟨key, hthis, hthat⟩ => ⟨key, hthat, hthis⟩
      · exact h.single call₁ call₂ event₁ event₂ _ _ hold₁ hold₂ hsame
  · rw [hmarks.processed]
    rcases hsplit hcall' with ⟨-, rfl⟩ | hold
    · exact hprocessed
    · exact h.unprocessed call' event' hold
  · rw [hmarks.keyTimers]
    exact h.keyTimers timer key due ((hmarks.timers timer key due).1 htimer)
  · exact (h.kept accepted hmem).of_same hmarks.now hmarks.processed
      fun timer key due => (hmarks.timers timer key due).1

theorem released (h : DedupInv cfg tr s) {dispatching : Bool}
    (hcall : s.held call = some (event, dispatching))
    (hmarks : SameMarks (s.releaseInflight event.messageId
      (cfg.onboardingScheme.resolveInviteRequestKey event)) s')
    (hheld : ∀ call', s'.held call' = if call' = call then none else s.held call') :
    DedupInv cfg tr s' := by
  have hsplit : ∀ {call' event' dispatching}, s'.held call' = some (event', dispatching) →
      call' ≠ call ∧ s.held call' = some (event', dispatching) := by
    intro call' event' dispatching hcall'
    rw [hheld] at hcall'
    split at hcall'
    · cases hcall'
    · next hne => exact ⟨hne, hcall'⟩
  refine ⟨fun call' event' _ hcall' => ?_, fun call₁ call₂ event₁ event₂ _ _ h₁ h₂ hsame => ?_,
    fun call' event' hcall' => ?_, fun timer key due htimer => ?_, fun accepted hmem => ?_, h.once,
    h.apart⟩
  · obtain ⟨hne, hold⟩ := hsplit hcall'
    obtain ⟨holdId, holdKey⟩ := h.marked call' event' _ hold
    have hother : ¬ SameRequest cfg event' event := fun hsame =>
      hne (h.single call' call event' event _ _ hold hcall hsame)
    unfold InviteListenerState.Marked
    rw [hmarks.inflightMessageIds, hmarks.inflightInviteKeys,
      InviteListenerState.releaseInflight_messageIds]
    refine ⟨⟨fun heq => hother (Or.inl heq), holdId⟩, fun key hget =>
      InviteListenerState.releaseInflight_inviteKeys.2 ⟨fun heq => ?_, holdKey key hget⟩⟩
    exact hother (Or.inr ⟨key, hget, heq⟩)
  · exact h.single call₁ call₂ event₁ event₂ _ _ (hsplit h₁).2 (hsplit h₂).2 hsame
  · rw [hmarks.processed]
    exact h.unprocessed call' event' (hsplit hcall').2
  · rw [hmarks.keyTimers]
    exact h.keyTimers timer key due ((hmarks.timers timer key due).1 htimer)
  · exact (h.kept accepted hmem).of_same hmarks.now hmarks.processed
      fun timer key due => (hmarks.timers timer key due).1

/-- A request is accepted: it was not processed, so what has been accepted is another message, and
an earlier acceptance of the key is over. -/
theorem accepted (h : DedupInv cfg tr s) (hcall : s.held call = some (event, true))
    (hmarks : SameMarks (s.markAccepted cfg event.messageId
      (cfg.onboardingScheme.resolveInviteRequestKey event)) s')
    (hheld : ∀ call', s'.held call' = if call' = call then some (event, false) else s.held call') :
    DedupInv cfg
      (tr ++ [⟨event.messageId, cfg.onboardingScheme.resolveInviteRequestKey event, s.now⟩])
      s' := by
  obtain ⟨hid, hkey⟩ := ProcessedInvites.isProcessed_eq_false.1 (h.unprocessed call event hcall)
  have hnow : s'.now = s.now := hmarks.now.trans InviteListenerState.markAccepted_now
  have hsplit : ∀ {call' event' dispatching}, s'.held call' = some (event', dispatching) →
      (call' = call ∧ event' = event ∧ dispatching = false) ∨
        (call' ≠ call ∧ s.held call' = some (event', dispatching)) := by
    intro call' event' dispatching hcall'
    rw [hheld] at hcall'
    split at hcall'
    · next heq =>
      cases hcall'
      exact Or.inl ⟨heq, rfl, rfl⟩
    · next hne => exact Or.inr ⟨hne, hcall'⟩
  have hbefore : ∀ {call' event' dispatching}, s'.held call' = some (event', dispatching) →
      ∃ dispatching', s.held call' = some (event', dispatching') := by
    intro call' event' dispatching hcall'
    rcases hsplit hcall' with ⟨rfl, rfl, -⟩ | ⟨-, hold⟩
    · exact ⟨true, hcall⟩
    · exact ⟨_, hold⟩
  have htimers : ∀ {timer key due}, s'.KeyTimer timer key due →
      (cfg.onboardingScheme.resolveInviteRequestKey event = some key ∧ timer = s.timersSet ∧
          due = s.now + setTimeoutDelay cfg.ttlMs) ∨
        (cfg.onboardingScheme.resolveInviteRequestKey event ≠ some key ∧
          s.KeyTimer timer key due) := fun {timer key due} htimer =>
    InviteListenerState.markAccepted_keyTimer h.keyTimers ((hmarks.timers timer key due).1 htimer)
  refine ⟨fun call' event' _ hcall' => ?_, fun call₁ call₂ event₁ event₂ _ _ h₁ h₂ hsame => ?_,
    fun call' event' hcall' => ?_, fun timer key due htimer => ?_, fun accepted hmem => ?_, ?_, ?_⟩
  · obtain ⟨_, hold⟩ := hbefore hcall'
    unfold InviteListenerState.Marked
    rw [hmarks.inflightMessageIds, hmarks.inflightInviteKeys,
      InviteListenerState.markAccepted_inflight.1, InviteListenerState.markAccepted_inflight.2]
    exact h.marked call' event' _ hold
  · obtain ⟨_, hold₁⟩ := hbefore h₁
    obtain ⟨_, hold₂⟩ := hbefore h₂
    exact h.single call₁ call₂ event₁ event₂ _ _ hold₁ hold₂ hsame
  · -- another dispatch is one of another request, which stays unprocessed
    rcases hsplit hcall' with ⟨-, -, hfalse⟩ | ⟨hne, hold⟩
    · cases hfalse
    · have hother : ¬ SameRequest cfg event' event := fun hsame =>
        hne (h.single call' call event' event _ _ hold hcall hsame)
      obtain ⟨hid', hkey'⟩ := ProcessedInvites.isProcessed_eq_false.1
        (h.unprocessed call' event' hold)
      rw [hmarks.processed, ProcessedInvites.isProcessed_eq_false]
      refine ⟨Bool.eq_false_iff.2 fun hnew => ?_,
        fun key hget => Bool.eq_false_iff.2 fun hnew => ?_⟩
      · rcases InviteListenerState.markAccepted_messageIds.1 hnew with heq | hold'
        · exact hother (Or.inl heq)
        · rw [hid'] at hold'
          exact Bool.false_ne_true hold'
      · rcases InviteListenerState.markAccepted_inviteKeys.1 hnew with heq | hold'
        · exact hother (Or.inr ⟨key, hget, heq⟩)
        · rw [hkey' key hget] at hold'
          exact Bool.false_ne_true hold'
  · rw [hmarks.keyTimers, InviteListenerState.markAccepted_keyTimers]
    rcases htimers htimer with ⟨hthis, rfl, -⟩ | ⟨hother, hold⟩
    · rw [if_pos hthis]
    · rw [if_neg hother]
      exact h.keyTimers timer key due hold
  · unfold InviteListenerState.Keeps
    rw [hmarks.processed, hnow, InviteListenerState.markAccepted_messageIds]
    rcases List.mem_append.1 hmem with hold | hnew
    · obtain ⟨hknown, hover⟩ := h.kept accepted hold
      refine ⟨Or.inr hknown, fun key hget => (hover key hget).imp_right fun hkept =>
        ⟨InviteListenerState.markAccepted_inviteKeys.2 (Or.inr hkept.1),
          fun timer due htimer => ?_⟩⟩
      rcases htimers htimer with ⟨hthis, -, -⟩ | ⟨-, holdTimer⟩
      · -- the key was processed, so this was no request with it
        have hnone := hkey key hthis
        rw [hkept.1] at hnone
        cases hnone
      · exact hkept.2 timer due holdTimer
    · rw [List.mem_singleton.1 hnew]
      refine ⟨Or.inl rfl, fun key hget => Or.inr ⟨?_, fun timer due htimer => ?_⟩⟩
      · exact InviteListenerState.markAccepted_inviteKeys.2 (Or.inl hget)
      · rcases htimers htimer with ⟨-, -, rfl⟩ | ⟨hother, -⟩
        · exact le_refl _
        · exact absurd hget hother
  · refine List.pairwise_append.2
      ⟨h.once, List.pairwise_singleton _ _, fun accepted hold new hnew => ?_⟩
    rw [List.mem_singleton.1 hnew]
    intro heq
    have hknown := (h.kept accepted hold).1
    rw [show accepted.messageId = event.messageId from heq, hid] at hknown
    exact Bool.false_ne_true hknown
  · refine List.pairwise_append.2
      ⟨h.apart, List.pairwise_singleton _ _, fun accepted hold new hnew => ?_⟩
    rw [List.mem_singleton.1 hnew]
    intro key hget hthis
    rcases (h.kept accepted hold).2 key hget with hover | hkept
    · exact hover
    · have hnone := hkey key hthis
      rw [hkept.1] at hnone
      cases hnone

theorem expired (h : DedupInv cfg tr s) {timer : Nat} {key : String} {due : Time}
    (htimer : s.KeyTimer timer key due) (hdue : due ≤ s.now) :
    DedupInv cfg tr
      ({ s with timers := s.timers.erase timer }.runTask (.releaseInviteKey key)) := by
  have htimers : ∀ {timer' key' due'},
      ({ s with timers := s.timers.erase timer }.runTask (.releaseInviteKey key)).KeyTimer
        timer' key' due' → timer' ≠ timer ∧ s.KeyTimer timer' key' due' :=
    OrdMap.get?_erase_eq_some
  refine ⟨h.marked, h.single, fun call event hcall => ?_, fun timer' key' due' htimer' => ?_,
    fun accepted hmem => ⟨(h.kept accepted hmem).1, fun key' hget => ?_⟩, h.once, h.apart⟩
  · obtain ⟨hid, hkey⟩ := ProcessedInvites.isProcessed_eq_false.1 (h.unprocessed call event hcall)
    refine ProcessedInvites.isProcessed_eq_false.2 ⟨hid, fun key' hget => Bool.eq_false_iff.2 ?_⟩
    intro hleft
    have hold := (OrdMap.has_erase_iff.1 hleft).2
    rw [hkey key' hget] at hold
    exact Bool.false_ne_true hold
  · obtain ⟨hne, hold⟩ := htimers htimer'
    have hmap := h.keyTimers timer' key' due' hold
    show (s.processedInviteKeyTimers.erase key).get? key' = some timer'
    rw [OrdMap.get?_erase_of_ne _ fun heq => hne ?_]
    · exact hmap
    · -- the key has one timer
      have hfired := h.keyTimers timer key due htimer
      rw [heq, hfired] at hmap
      exact (Option.some.inj hmap).symm
  · rcases (h.kept accepted hmem).2 key' hget with hover | ⟨hkept, hlater⟩
    · exact Or.inl hover
    · by_cases heq : key' = key
      · -- the timer was set for the end of the delay
        rw [heq] at hlater
        exact Or.inl (le_trans (hlater timer due htimer) hdue)
      · refine Or.inr ⟨OrdMap.has_erase_iff.2 ⟨heq, hkept⟩, fun timer' due' htimer' => ?_⟩
        exact hlater timer' due' (htimers htimer').2

theorem stopped (h : DedupInv cfg tr s) : DedupInv cfg tr s.stop := by
  obtain ⟨hclears, hnone⟩ := OnlyClears.stop h.keyTimers
  have hheld : ∀ call, s.stop.held call = s.held call := by
    intro call
    unfold InviteListenerState.held
    rw [hclears.calls]
  refine ⟨fun call event dispatching hcall => ?_,
    fun call call' event event' _ _ hcall hcall' => ?_, fun call event hcall => ?_,
    fun timer key due htimer => absurd htimer (hnone timer key due), fun accepted hmem => ?_,
    h.once, h.apart⟩
  · rw [hheld] at hcall
    unfold InviteListenerState.Marked
    rw [hclears.inflightMessageIds, hclears.inflightInviteKeys]
    exact h.marked call event dispatching hcall
  · rw [hheld] at hcall hcall'
    exact h.single call call' event event' _ _ hcall hcall'
  · rw [hheld] at hcall
    rw [hclears.processed]
    exact h.unprocessed call event hcall
  · exact (h.kept accepted hmem).of_same hclears.now hclears.processed
      fun timer key due => hclears.timers timer _

theorem step (h : DedupInv cfg tr s) {es : List InviteAccepted} (hstep : DedupStep cfg s s' es) :
    DedupInv cfg (tr ++ es) s' := by
  cases hstep with
  | ticked hnow =>
    rw [List.append_nil]
    exact h.tick hnow
  | quiet hmarks hheld =>
    rw [List.append_nil]
    refine h.same hmarks fun call event dispatching hcall => ⟨dispatching, ?_, id⟩
    rw [← hheld]
    exact hcall
  | began _ hprocessed hinflight hmarks hheld =>
    rw [List.append_nil]
    exact h.began hprocessed hinflight hmarks hheld
  | accepted hcall hmarks hheld => exact h.accepted hcall hmarks hheld
  | @rejected _ call event hcall hmarks hheld =>
    rw [List.append_nil]
    refine h.same hmarks fun call' event' dispatching hcall' => ?_
    rw [hheld] at hcall'
    split at hcall'
    · next heq =>
      cases hcall'
      rw [heq]
      exact ⟨true, hcall, fun _ => rfl⟩
    · exact ⟨dispatching, hcall', id⟩
  | released hcall hmarks hheld =>
    rw [List.append_nil]
    exact h.released hcall hmarks hheld
  | expired htimer hdue =>
    rw [List.append_nil]
    exact h.expired htimer hdue
  | stopped =>
    rw [List.append_nil]
    exact h.stopped

end DedupInv

/-- **Every run keeps the marks.** -/
theorem dedupInv_of_run {cfg : InviteListenerConfig} {tr : List InviteAccepted}
    {s : InviteListenerState} (h : Run (inviteMachine cfg) (fun _ _ => True) tr s) :
    InviteFresh s ∧ DedupInv cfg tr s := by
  refine h.invariant (I := fun tr s => InviteFresh s ∧ DedupInv cfg tr s) ?_ ?_
  · refine ⟨⟨.empty, .empty⟩, ?_, ?_, ?_, ?_, ?_, .nil, .nil⟩
    · exact fun _ _ _ h => by cases h
    · exact fun _ _ _ _ _ _ h => by cases h
    · exact fun _ _ h => by cases h
    · exact fun _ _ _ h => by cases h
    · exact fun _ h => absurd h List.not_mem_nil
  · intro tr s a s' es _ ⟨hfresh, hinv⟩ _ hstep
    exact ⟨hfresh.step hstep, hinv.step (dedupStep_sound hfresh hstep)⟩

/-! ### The time to live -/

/-- `setTimeout` waits as long as it is told exactly for whole milliseconds in 31 bits, and for what
is at most one. -/
theorem le_setTimeoutDelay_iff {ms : Rat} :
    ms ≤ setTimeoutDelay ms ↔ ms ≤ 1 ∨ ∃ n : Nat, ms = n ∧ n ≤ 2147483647 := by
  unfold setTimeoutDelay
  by_cases hrange : 1 ≤ ms ∧ ms ≤ 2147483647
  · rw [if_pos hrange]
    have hfloor : (⌊ms⌋₊ : Rat) ≤ ms := Nat.floor_le (le_trans zero_le_one hrange.1)
    constructor
    · intro hle
      have heq : ms = ⌊ms⌋₊ := le_antisymm hle hfloor
      refine Or.inr ⟨⌊ms⌋₊, heq, ?_⟩
      have hmax : (⌊ms⌋₊ : Rat) ≤ (2147483647 : Nat) := le_trans hfloor hrange.2
      exact Nat.cast_le.1 hmax
    · rintro (hone | ⟨n, rfl, -⟩)
      · rw [le_antisymm hone hrange.1, Nat.floor_one, Nat.cast_one]
      · rw [Nat.floor_natCast]
  · rw [if_neg hrange, Nat.cast_one]
    constructor
    · exact Or.inl
    · rintro (hone | ⟨n, rfl, hmax⟩)
      · exact hone
      · -- a whole number that is not in the range is zero
        refine not_lt.1 fun hlt => hrange ⟨le_of_lt hlt, ?_⟩
        exact_mod_cast hmax

/-! ### A run of two acceptances -/

namespace TwoInvites

/-- A text without blanks. -/
def slug : String :=
  String.ofList (List.replicate 50 'a')

/-- A message with the text. -/
def invite (messageId : String) : RawMessageEvent :=
  ⟨messageId, "dm1", "peer", "text", .string slug, "2026-01-01T00:00:00.000Z", none, false⟩

variable {cfg : InviteListenerConfig}

theorem isInviteMessage (scheme : InviteScheme) (messageId : String) :
    scheme.isInviteMessage (invite messageId) = true := by
  have htext : (decide (50 ≤ (codeUnits (jsTrim slug)).length) &&
      !(jsTrim slug).toList.contains ' ') = true := by
    decide +kernel
  unfold InviteScheme.isInviteMessage
  rw [if_neg (show ¬ (invite messageId).isHistorical = true from Bool.false_ne_true)]
  split
  · rfl
  · exact htext

/-- The key of the request. -/
def key (scheme : InviteScheme) : String :=
  scheme.toLowerCase "peer" ++ ":" ++ slug

theorem resolveInviteRequestKey (scheme : InviteScheme) (messageId : String) :
    scheme.resolveInviteRequestKey (invite messageId) = some (key scheme) := by
  have htrim : orUndefined (jsTrim slug) = some slug := by
    decide +kernel
  show (orUndefined (jsTrim slug)).map _ = _
  rw [htrim]
  rfl

/-- A message is marked, and its dispatch begins. -/
def begun (cfg : InviteListenerConfig) (s : InviteListenerState) (messageId : String) :
    InviteListenerState :=
  { ({ s with started := s.started + 1 } : InviteListenerState).markInflight messageId
      (some (key cfg.onboardingScheme)) with
    calls := s.calls.set s.started (.dispatching (invite messageId) none) }

/-- It is accepted. -/
def joined (cfg : InviteListenerConfig) (s : InviteListenerState) (messageId : String) :
    InviteListenerState :=
  { (begun cfg s messageId).markAccepted cfg messageId (some (key cfg.onboardingScheme)) with
    calls := (begun cfg s messageId).calls.set s.started (.notifying (invite messageId) none) }

/-- Its marks are released. -/
def notified (cfg : InviteListenerConfig) (s : InviteListenerState) (messageId : String) :
    InviteListenerState :=
  ((joined cfg s messageId).releaseInflight messageId (some (key cfg.onboardingScheme))).returnTo
    s.started none

/-- A message that is neither processed nor in flight is accepted. -/
theorem accept {s : InviteListenerState} {messageId : String} (hsubscribed : s.subscribed = true)
    (hprocessed : s.processed.isProcessed messageId (some (key cfg.onboardingScheme)) = false)
    (hinflight : s.isInflight messageId (some (key cfg.onboardingScheme)) = false) :
    RunFrom (inviteMachine cfg) (fun _ _ => True) s
      [⟨messageId, some (key cfg.onboardingScheme), s.now⟩] (notified cfg s messageId) := by
  have hkey := resolveInviteRequestKey cfg.onboardingScheme messageId
  have hbegin : (inviteMachine cfg).step s (.event (.message (invite messageId))) =
      some (begun cfg s messageId, []) := by
    show (if s.subscribed = true then some (s.handleEvent cfg (.message (invite messageId)), [])
      else none) = _
    rw [if_pos hsubscribed]
    unfold InviteListenerState.handleEvent InviteListenerState.processInviteCandidate
    dsimp only
    have hcandidate : cfg.onboardingScheme.isInviteCandidate (.message (invite messageId)) = true :=
      isInviteMessage cfg.onboardingScheme messageId
    rw [if_pos hcandidate, hkey, if_neg, if_neg]
    · rfl
    · exact Bool.eq_false_iff.1 hinflight
    · exact Bool.eq_false_iff.1 hprocessed
  have hjoin : (inviteMachine cfg).step (begun cfg s messageId) (.dispatched s.started .accepted) =
      some (joined cfg s messageId, [⟨messageId, some (key cfg.onboardingScheme), s.now⟩]) := by
    have hcall : (begun cfg s messageId).calls.get? s.started =
        some (.dispatching (invite messageId) none) := OrdMap.get?_set_self _ _ _
    show (begun cfg s messageId).step cfg (.dispatched s.started .accepted) = _
    unfold InviteListenerState.step
    dsimp only
    rw [hcall]
    dsimp only
    unfold InviteListenerState.settleDispatch
    dsimp only
    rw [hkey]
    rfl
  have hnotify : (inviteMachine cfg).step (joined cfg s messageId) (.notified s.started) =
      some (notified cfg s messageId, []) := by
    have hcall : (joined cfg s messageId).calls.get? s.started =
        some (.notifying (invite messageId) none) := OrdMap.get?_set_self _ _ _
    show (joined cfg s messageId).step cfg (.notified s.started) = _
    unfold InviteListenerState.step
    dsimp only
    rw [hcall]
    dsimp only
    rw [hkey]
    rfl
  exact ((RunFrom.single trivial hbegin).snoc trivial hjoin).snoc trivial hnotify

/-- The time of the key is over. -/
def later (cfg : InviteListenerConfig) : InviteListenerState :=
  let s := notified cfg (inviteMachine cfg).init "m1"
  ({ s with
      now := 0 + setTimeoutDelay cfg.ttlMs
      timers := s.timers.erase 0 } : InviteListenerState).runTask
    (.releaseInviteKey (key cfg.onboardingScheme))

/-- **A key may be accepted again as soon as its timer fires.** -/
theorem run (cfg : InviteListenerConfig) :
    ∃ s, Run (inviteMachine cfg) (fun _ _ => True)
      [⟨"m1", some (key cfg.onboardingScheme), 0⟩,
        ⟨"m2", some (key cfg.onboardingScheme), 0 + setTimeoutDelay cfg.ttlMs⟩] s := by
  have hfirst : RunFrom (inviteMachine cfg) (fun _ _ => True) (inviteMachine cfg).init
      [⟨"m1", some (key cfg.onboardingScheme), 0⟩]
      (notified cfg (inviteMachine cfg).init "m1") :=
    accept rfl rfl rfl
  have htick : (inviteMachine cfg).step (notified cfg (inviteMachine cfg).init "m1")
      (.tick (0 + setTimeoutDelay cfg.ttlMs)) =
        some ({ notified cfg (inviteMachine cfg).init "m1" with
          now := 0 + setTimeoutDelay cfg.ttlMs }, []) := by
    have hle : (notified cfg (inviteMachine cfg).init "m1").now ≤ 0 + setTimeoutDelay cfg.ttlMs :=
      Nat.zero_le _
    show (notified cfg (inviteMachine cfg).init "m1").step cfg
      (.tick (0 + setTimeoutDelay cfg.ttlMs)) = _
    unfold InviteListenerState.step
    dsimp only
    rw [if_pos hle]
  have hfire : (inviteMachine cfg).step
      { notified cfg (inviteMachine cfg).init "m1" with now := 0 + setTimeoutDelay cfg.ttlMs }
      (.fire 0) = some (later cfg, []) := by
    have hget : (notified cfg (inviteMachine cfg).init "m1").timers.get? 0 =
        some ⟨0 + setTimeoutDelay cfg.ttlMs, .releaseInviteKey (key cfg.onboardingScheme)⟩ := rfl
    show InviteListenerState.step cfg { notified cfg (inviteMachine cfg).init "m1" with
      now := 0 + setTimeoutDelay cfg.ttlMs } (.fire 0) = _
    unfold InviteListenerState.step
    dsimp only
    rw [hget]
    exact if_pos (le_refl (0 + setTimeoutDelay cfg.ttlMs))
  have hsecond : RunFrom (inviteMachine cfg) (fun _ _ => True) (later cfg)
      [⟨"m2", some (key cfg.onboardingScheme), 0 + setTimeoutDelay cfg.ttlMs⟩]
      (notified cfg (later cfg) "m2") := by
    refine accept rfl ?_ ?_
    · refine ProcessedInvites.isProcessed_eq_false.2 ⟨rfl, fun key' hkey' => ?_⟩
      refine Bool.eq_false_iff.2 fun hleft => ?_
      exact (OrdMap.has_erase_iff.1 hleft).1 (Option.some.inj hkey').symm
    · refine InviteListenerState.isInflight_eq_false.2 ⟨rfl, fun key' hkey' => ?_⟩
      refine Bool.eq_false_iff.2 fun hleft => ?_
      exact (OrdMap.has_erase_iff.1 hleft).1 (Option.some.inj hkey').symm
  exact ⟨_, Run.nil.extend (((hfirst.snoc trivial htick).snoc trivial hfire).trans hsecond)⟩

/-- A listener that keeps keys for thirty days. -/
def monthly : InviteListenerConfig where
  onboardingScheme :=
    { isJoinRequestContentType := fun contentType =>
        contentType = "join_request" || contentType = "convos.org/join_request:1.0"
      prims := RecordedInvite.primitives
      jsonParse := fun _ => none
      toLowerCase := fun text => String.ofList (text.toList.map Char.toLower) }
  processedInviteKeyTtlMs := some 2592000000

end TwoInvites

/-! ### Deduplication -/

/-- No message is accepted twice, acceptances of one key are at least the time to live apart, and no
two dispatches in flight are of one message or one key. -/
structure InviteDeduplicated (cfg : InviteListenerConfig) (tr : List InviteAccepted)
    (s : InviteListenerState) : Prop where
  once : tr.Pairwise fun accepted accepted' => accepted.messageId ≠ accepted'.messageId
  apart : tr.Pairwise fun accepted accepted' => ∀ key, accepted.requestKey = some key →
    accepted'.requestKey = some key → (accepted.time : Rat) + cfg.ttlMs ≤ accepted'.time
  single : ∀ call call' event event' recovery recovery',
    s.calls.get? call = some (.dispatching event recovery) →
    s.calls.get? call' = some (.dispatching event' recovery') →
      SameRequest cfg event event' → call = call'

/-- **Acceptances are deduplicated in every run exactly if `setTimeout` can wait for the time to
live**: a whole number of milliseconds that fits into 31 bits, or at most one. -/
theorem invite_dedup_iff (cfg : InviteListenerConfig) :
    (∀ tr s, Run (inviteMachine cfg) (fun _ _ => True) tr s → InviteDeduplicated cfg tr s) ↔
      cfg.ttlMs ≤ 1 ∨ ∃ n : Nat, cfg.ttlMs = n ∧ n ≤ 2147483647 := by
  rw [← le_setTimeoutDelay_iff]
  constructor
  · intro h
    obtain ⟨s, hrun⟩ := TwoInvites.run cfg
    have hapart :=
      (List.pairwise_cons.1 (h _ s hrun).apart).1 _ (List.mem_singleton.2 rfl) _ rfl rfl
    rw [Nat.cast_add] at hapart
    exact le_of_add_le_add_left hapart
  · intro hdelay tr s hrun
    obtain ⟨-, hinv⟩ := dedupInv_of_run hrun
    refine ⟨hinv.once, hinv.apart.imp fun {accepted accepted'} hkeys key hthis hthat => ?_,
      fun call call' event event' recovery recovery' hcall hcall' hsame => ?_⟩
    · calc (accepted.time : Rat) + cfg.ttlMs
          ≤ accepted.time + (setTimeoutDelay cfg.ttlMs : Nat) := add_le_add_right hdelay _
        _ ≤ accepted'.time := by exact_mod_cast hkeys key hthis hthat
    · exact hinv.single call call' event event' true true
        (InviteListenerState.held_of_get? hcall) (InviteListenerState.held_of_get? hcall') hsame

/-- With a time to live of thirty days a key is accepted again after a millisecond. -/
theorem month_not_deduplicated :
    ¬ ∀ tr s, Run (inviteMachine TwoInvites.monthly) (fun _ _ => True) tr s →
      InviteDeduplicated TwoInvites.monthly tr s := by
  intro h
  obtain ⟨s, hrun⟩ := TwoInvites.run TwoInvites.monthly
  have hapart := (List.pairwise_cons.1 (h _ s hrun).apart).1 _ (List.mem_singleton.2 rfl) _ rfl rfl
  have hdelay : setTimeoutDelay (2592000000 : Rat) = 1 := if_neg (by norm_num)
  have hone : ((0 : Nat) : Rat) + 2592000000 ≤
      ((0 + setTimeoutDelay (2592000000 : Rat) : Nat) : Rat) := hapart
  rw [hdelay] at hone
  norm_num at hone

end Signet
