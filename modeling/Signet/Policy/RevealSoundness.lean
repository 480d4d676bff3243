import Signet.Policy.Projection

/-!
# Reveals are sound and complete

What a credential without `read-messages` gets to see through reveals, stated without
reference to the store: `RevealRequest.Matches` says when a request is about a message,
`recordedReveals` which reveals a history of store operations has recorded, expiries
left aside.

`reveal_sound_complete` is assembled from the answer of the pipeline to one message, and from
`isRevealed_expireStale_later` and `isRevealed_restore_snapshot`: state maintenance changes no
answer, now or later. The invariant is `AgreesAt now`: store and history have the same entries among
those that are live at `now`. An expiry at or before `now` removes no live entry.
-/

namespace Signet

/-! ### Specification -/

/-- The request is about the message, by its scope. A time window names its two ends,
both included. -/
def RevealRequest.Matches (parseDate : String → Option Time) (request : RevealRequest)
    (target : RevealTarget) : Prop :=
  match request.scope with
  | .message => request.targetId = target.messageId
  | .thread => target.threadId = some request.targetId
  | .sender => request.targetId = target.senderInboxId
  | .contentType => request.targetId = target.contentType
  | .timeWindow => ∃ first last start stop, request.targetId = first ++ "|" ++ last ∧
      '|' ∉ first.toList ∧ parseDate first = some start ∧ parseDate last = some stop ∧
      start ≤ target.sentAt ∧ target.sentAt ≤ stop

/-- The access has not expired at `now`. -/
def RevealAccess.LiveAt (access : RevealAccess) (now : Time) : Prop :=
  ∀ expiresAt, access.expiresAt = some expiresAt → now < expiresAt

/-- An operation on a reveal store. -/
inductive RevealOp where
  | record (access : RevealAccess) (request : RevealRequest)
  | expireStale (now : Time)
  | snapshot
  | restore (state : RevealState)

namespace RevealState

/-- `snapshot`: the entries, for serialization. -/
def snapshot (store : RevealState) : RevealState :=
  store

/-- `restore`: the entries are replaced. -/
def restore (_store : RevealState) (state : RevealState) : RevealState :=
  state

/-- The store after an operation. -/
def apply (store : RevealState) : RevealOp → RevealState
  | .record access request => store.record access request
  | .expireStale now => store.expireStale now
  | .snapshot => store
  | .restore state => store.restore state

/-- The store after a history, from a new one. -/
def after (ops : List RevealOp) : RevealState :=
  ops.foldl apply []

end RevealState

/-- The reveals recorded so far; an expiry forgets nothing. -/
def recordedStep (recorded : List RevealEntry) : RevealOp → List RevealEntry
  | .record access request => recorded ++ [⟨access, request⟩]
  | .expireStale _ => recorded
  | .snapshot => recorded
  | .restore state => state

/-- The reveals a history has recorded: since the last restore, and with it. -/
def recordedReveals (ops : List RevealOp) : List RevealEntry :=
  ops.foldl recordedStep []

def RevealOp.expiry? : RevealOp → Option Time
  | .expireStale now => some now
  | _ => none

/-! ### One entry -/

/-- The string on both sides of the first `|`. -/
private theorem split_at_bar {chars : List Char} (h : '|' ∈ chars) :
    chars = chars.takeWhile (· ≠ '|') ++ '|' :: (chars.dropWhile (· ≠ '|')).tail := by
  induction chars with
  | nil => cases h
  | cons c rest ih =>
    by_cases hc : c = '|'
    · subst hc
      simp
    -- the bar is further on
    · have hrest : '|' ∈ rest := by
        rcases List.mem_cons.1 h with heq | hmem
        · exact absurd heq.symm hc
        · exact hmem
      rw [List.takeWhile_cons_of_pos (by simpa using hc),
        List.dropWhile_cons_of_pos (by simpa using hc), List.cons_append, ← ih hrest]

private theorem bar_not_mem_takeWhile (chars : List Char) :
    '|' ∉ chars.takeWhile (· ≠ '|') := by
  induction chars with
  | nil => exact List.not_mem_nil
  | cons c rest ih =>
    by_cases hc : c = '|'
    · rw [List.takeWhile_cons_of_neg (by simpa using hc)]
      exact List.not_mem_nil
    · rw [List.takeWhile_cons_of_pos (by simpa using hc), List.mem_cons, not_or]
      exact ⟨fun heq => hc heq.symm, ih⟩

/-- The first `|` is where a text without one ends. -/
private theorem takeWhile_of_bar {first : List Char} (last : List Char) (h : '|' ∉ first) :
    (first ++ '|' :: last).takeWhile (· ≠ '|') = first ∧
      ((first ++ '|' :: last).dropWhile (· ≠ '|')).tail = last := by
  have hall : ∀ c ∈ first, decide (c ≠ '|') = true := by
    intro c hc
    refine decide_eq_true ?_
    rintro rfl
    exact h hc
  constructor
  · rw [List.takeWhile_append_of_pos hall]
    simp
  · rw [List.dropWhile_append_of_pos hall]
    simp

/-- **The time-window check reads both ends off the target.** -/
theorem inTimeWindow_iff {parseDate : String → Option Time} {targetId : String} {sentAt : Time} :
    inTimeWindow parseDate targetId sentAt = true ↔
      ∃ first last start stop, targetId = first ++ "|" ++ last ∧ '|' ∉ first.toList ∧
        parseDate first = some start ∧ parseDate last = some stop ∧
        start ≤ sentAt ∧ sentAt ≤ stop := by
  unfold inTimeWindow
  dsimp only
  constructor
  · intro h
    split at h
    · next hbar =>
      split at h
      · next start stop hstart hstop =>
        rw [Bool.and_eq_true, decide_eq_true_eq, decide_eq_true_eq] at h
        -- the text in front of the first bar, and the text behind it
        refine ⟨_, _, start, stop, ?_, ?_, hstart, hstop, h.1, h.2⟩
        · apply String.toList_inj.1
          simp only [String.toList_append, String.toList_ofList, List.append_assoc]
          exact split_at_bar hbar
        · rw [String.toList_ofList]
          exact bar_not_mem_takeWhile _
      · cases h
    · cases h
  · rintro ⟨first, last, start, stop, rfl, hbar, hstart, hstop, hle, hge⟩
    have hchars : (first ++ "|" ++ last).toList = first.toList ++ '|' :: last.toList := by
      rw [String.toList_append, String.toList_append]
      show (first.toList ++ ['|']) ++ last.toList = _
      rw [List.append_assoc]
      rfl
    obtain ⟨htake, hdrop⟩ := takeWhile_of_bar last.toList hbar
    have hmem : '|' ∈ (first ++ "|" ++ last).toList := by
      rw [hchars]
      exact List.mem_append_right _ List.mem_cons_self
    rw [if_pos hmem, hchars, htake, hdrop, String.ofList_toList, String.ofList_toList, hstart,
      hstop]
    dsimp only
    rw [Bool.and_eq_true, decide_eq_true_eq, decide_eq_true_eq]
    exact ⟨hle, hge⟩

theorem liveAt_iff {access : RevealAccess} {now : Time} :
    access.LiveAt now ↔ access.expiresAt.any (· ≤ now) = false := by
  unfold RevealAccess.LiveAt
  cases access.expiresAt with
  | none => simp
  | some expiresAt => simp

/-- **What it takes for one entry to cover a message.** -/
theorem RevealEntry.covers_iff {parseDate : String → Option Time} {entry : RevealEntry}
    {target : RevealTarget} {now : Time} :
    entry.covers parseDate target now = true ↔
      entry.access.LiveAt now ∧ entry.request.groupId = target.groupId ∧
        entry.request.Matches parseDate target := by
  unfold RevealEntry.covers RevealRequest.Matches
  rw [Bool.and_eq_true, Bool.and_eq_true, Bool.not_eq_true', ← liveAt_iff, decide_eq_true_eq,
    and_assoc]
  refine and_congr_right fun _ => and_congr_right fun _ => ?_
  -- one comparison for each scope
  cases entry.request.scope with
  | message => exact decide_eq_true_iff
  | thread => exact decide_eq_true_iff.trans eq_comm
  | sender => exact decide_eq_true_iff
  | contentType => exact decide_eq_true_iff
  | timeWindow => exact inTimeWindow_iff

/-! ### Histories -/

/-- Store and history have the same entries among those live at `now`. -/
def AgreesAt (now : Time) (store : RevealState) (recorded : List RevealEntry) : Prop :=
  ∀ entry : RevealEntry, entry.access.LiveAt now → (entry ∈ store ↔ entry ∈ recorded)

/-- A live entry survives every expiry that is not in the future. -/
theorem mem_expireStale_of_live {store : RevealState} {entry : RevealEntry} {now expiry : Time}
    (hlive : entry.access.LiveAt now) (hle : expiry ≤ now) :
    entry ∈ store.expireStale expiry ↔ entry ∈ store := by
  have hlive' : entry.access.LiveAt expiry := fun expiresAt h =>
    Nat.lt_of_le_of_lt hle (hlive expiresAt h)
  rw [RevealState.expireStale, List.mem_filter, liveAt_iff.1 hlive']
  simp

/-- **One operation.** -/
theorem AgreesAt.step {now : Time} {store : RevealState} {recorded : List RevealEntry}
    (h : AgreesAt now store recorded) {op : RevealOp} (hpast : ∀ t ∈ op.expiry?, t ≤ now) :
    AgreesAt now (store.apply op) (recordedStep recorded op) := by
  intro entry hlive
  cases op with
  -- a new entry is appended on both sides
  | record access request =>
    show entry ∈ store ++ _ ↔ entry ∈ recorded ++ _
    rw [List.mem_append, List.mem_append, h entry hlive]
  | expireStale expiry =>
    show entry ∈ store.expireStale expiry ↔ entry ∈ recorded
    -- what is live now was live at the earlier expiry, which dropped it on neither side
    rw [mem_expireStale_of_live hlive (hpast expiry rfl), h entry hlive]
  | snapshot => exact h entry hlive
  | restore state => exact Iff.rfl

/-- **A whole history.** -/
theorem agreesAt_after {now : Time} {ops : List RevealOp}
    (hpast : ∀ op ∈ ops, ∀ t ∈ op.expiry?, t ≤ now) :
    AgreesAt now (RevealState.after ops) (recordedReveals ops) := by
  -- from any store, since the first operation leaves another one
  have hrun : ∀ (ops : List RevealOp) (store : RevealState) (recorded : List RevealEntry),
      (∀ op ∈ ops, ∀ t ∈ op.expiry?, t ≤ now) → AgreesAt now store recorded →
        AgreesAt now (ops.foldl RevealState.apply store) (ops.foldl recordedStep recorded) := by
    intro ops
    induction ops with
    | nil => intro store recorded _ h; exact h
    | cons op ops ih =>
      intro store recorded hpast h
      exact ih _ _ (fun op' hop' => hpast op' (List.mem_cons_of_mem _ hop'))
        (h.step (hpast op List.mem_cons_self))
  exact hrun ops [] [] hpast fun _ _ => Iff.rfl

/-- **The store answers by what was recorded.** -/
theorem isRevealed_after {parseDate : String → Option Time} {target : RevealTarget} {now : Time}
    {ops : List RevealOp} (hpast : ∀ op ∈ ops, ∀ t ∈ op.expiry?, t ≤ now) :
    (RevealState.after ops).isRevealed parseDate target now = true ↔
      ∃ entry ∈ recordedReveals ops, entry.access.LiveAt now ∧
        entry.request.groupId = target.groupId ∧ entry.request.Matches parseDate target := by
  rw [RevealState.isRevealed, List.any_eq_true]
  constructor
  · rintro ⟨entry, hmem, hcovers⟩
    have hspec := RevealEntry.covers_iff.1 hcovers
    exact ⟨entry, (agreesAt_after hpast entry hspec.1).1 hmem, hspec⟩
  · rintro ⟨entry, hmem, hspec⟩
    exact ⟨entry, (agreesAt_after hpast entry hspec.1).2 hmem, RevealEntry.covers_iff.2 hspec⟩

/-! ### State maintenance -/

/-- An expiry changes no answer, at its time or later. -/
theorem RevealState.isRevealed_expireStale_later (parseDate : String → Option Time)
    (store : RevealState) (target : RevealTarget) {expiry now : Time} (hle : expiry ≤ now) :
    (store.expireStale expiry).isRevealed parseDate target now =
      store.isRevealed parseDate target now := by
  rw [Bool.eq_iff_iff, isRevealed, isRevealed, List.any_eq_true, List.any_eq_true]
  constructor
  · rintro ⟨entry, hmem, hcovers⟩
    have hlive := (RevealEntry.covers_iff.1 hcovers).1
    exact ⟨entry, (mem_expireStale_of_live hlive hle).1 hmem, hcovers⟩
  · rintro ⟨entry, hmem, hcovers⟩
    have hlive := (RevealEntry.covers_iff.1 hcovers).1
    exact ⟨entry, (mem_expireStale_of_live hlive hle).2 hmem, hcovers⟩

/-- A restored snapshot answers as the store it was taken of. -/
theorem RevealState.isRevealed_restore_snapshot (parseDate : String → Option Time)
    (store other : RevealState) (target : RevealTarget) (now : Time) :
    (other.restore store.snapshot).isRevealed parseDate target now =
      store.isRevealed parseDate target now := rfl

/-! ### The pipeline -/

/-- **When the pipeline emits.** -/
theorem projectMessage_isSome_iff {message : RawMessage} {scopes : List PermissionScope}
    {chatIds effectiveAllowlist : List String} {isRevealed : Bool} :
    (projectMessage message scopes chatIds effectiveAllowlist isRevealed).isSome = true ↔
      message.groupId ∈ chatIds ∧ message.contentType ∈ effectiveAllowlist ∧
        (.readMessages ∈ scopes ∨ isRevealed = true) ∧
        (message.isHistorical = true → .readHistory ∈ scopes) := by
  have hvisible : resolveVisibility scopes isRevealed = .hidden ↔
      ¬ (.readMessages ∈ scopes ∨ isRevealed = true) := by
    unfold resolveVisibility
    by_cases hread : .readMessages ∈ scopes
    · simp [hread]
    · cases isRevealed <;> simp [hread]
  have hhistory : (message.isHistorical && decide (.readHistory ∉ scopes)) = true ↔
      ¬ (message.isHistorical = true → .readHistory ∈ scopes) := by
    rw [Bool.and_eq_true, decide_eq_true_eq, Classical.not_imp]
  unfold projectMessage
  -- the tests in the order of the code; each one that fails drops the message
  by_cases hscope : message.groupId ∈ chatIds
  · by_cases htype : message.contentType ∈ effectiveAllowlist
    · by_cases hbase : resolveVisibility scopes isRevealed = .hidden
      · have hno := hvisible.1 hbase
        simp [isInScope, isContentTypeAllowed, hscope, htype, hbase, hno]
      · have hyes : .readMessages ∈ scopes ∨ isRevealed = true :=
          not_not.1 fun hno => hbase (hvisible.2 hno)
        by_cases hhist : (message.isHistorical && decide (.readHistory ∉ scopes)) = true
        · have hno := hhistory.1 hhist
          simp only [isInScope, isContentTypeAllowed, hscope, htype, hbase, decide_true,
            Bool.not_true, Bool.false_eq_true, if_false, if_pos hhist, Option.isSome_none,
            hno, and_false]
        · have hok : message.isHistorical = true → .readHistory ∈ scopes :=
            not_not.1 fun hno => hhist (hhistory.2 hno)
          simp only [isInScope, isContentTypeAllowed, hscope, htype, hbase, decide_true,
            Bool.not_true, Bool.false_eq_true, if_false, if_neg hhist, Option.isSome_some,
            true_and, true_iff]
          exact ⟨hyes, hok⟩
    · simp [isInScope, isContentTypeAllowed, hscope, htype]
  · simp [isInScope, hscope]

/-- **Reveals are sound and complete.** After every history of a reveal store whose
expiries are not in the future: the pipeline emits a message to a credential without
`read-messages` exactly when the message is in the chats of the credential, its content
type is allowed, history is covered by `read-history`, and some recorded, unexpired
reveal of the same group matches it. And an expiry or a snapshot that is restored
changes no answer of the store, at that time or later. -/
theorem reveal_sound_complete (parseDate : String → Option Time) (ops : List RevealOp)
    (now : Time) (hpast : ∀ op ∈ ops, ∀ t ∈ op.expiry?, t ≤ now) :
    (∀ (message : RawMessage) (scopes : List PermissionScope)
        (chatIds effectiveAllowlist : List String), .readMessages ∉ scopes →
      ((projectMessage message scopes chatIds effectiveAllowlist
          ((RevealState.after ops).isRevealed parseDate message.target now)).isSome = true ↔
        message.groupId ∈ chatIds ∧ message.contentType ∈ effectiveAllowlist ∧
          (message.isHistorical = true → .readHistory ∈ scopes) ∧
          ∃ entry ∈ recordedReveals ops, entry.access.LiveAt now ∧
            entry.request.groupId = message.groupId ∧
            entry.request.Matches parseDate message.target)) ∧
    (∀ (target : RevealTarget) (later : Time), now ≤ later →
      ((RevealState.after ops).expireStale now).isRevealed parseDate target later =
        (RevealState.after ops).isRevealed parseDate target later) ∧
    (∀ (other : RevealState) (target : RevealTarget) (later : Time),
      (other.restore (RevealState.after ops).snapshot).isRevealed parseDate target later =
        (RevealState.after ops).isRevealed parseDate target later) := by
  refine ⟨?_, ?_, ?_⟩
  · intro message scopes chatIds effectiveAllowlist hread
    rw [projectMessage_isSome_iff, isRevealed_after hpast]
    constructor
    · rintro ⟨hscope, htype, hvisible, hhistory⟩
      -- the scopes do not show it, so a reveal does
      exact ⟨hscope, htype, hhistory, hvisible.resolve_left hread⟩
    · rintro ⟨hscope, htype, hhistory, hrevealed⟩
      exact ⟨hscope, htype, .inr hrevealed, hhistory⟩
  · intro target later hle
    exact RevealState.isRevealed_expireStale_later parseDate _ target hle
  · intro other target later
    exact RevealState.isRevealed_restore_snapshot parseDate _ other target later

/-- A message reveal that an expiry has left alone and that a restore has brought back
is seen at the last instant before it expires. -/
theorem reveal_sound_complete_last_instant :
    (projectMessage ⟨"message", "conv_0123456789abcdef", "sender", "text", none, 3, none, none,
        false⟩ [] ["conv_0123456789abcdef"] ["text"]
      ((RevealState.after [.record ⟨"reveal", 0, "owner", some 10⟩
          ⟨"reveal", "conv_0123456789abcdef", .message, "message", "owner", some 10⟩,
        .expireStale 9]).isRevealed (fun _ => none)
          ⟨"message", "conv_0123456789abcdef", none, "sender", "text", 3⟩ 9)).isSome = true := by
  refine ((reveal_sound_complete (fun _ => none)
    [.record ⟨"reveal", 0, "owner", some 10⟩
        ⟨"reveal", "conv_0123456789abcdef", .message, "message", "owner", some 10⟩,
      .expireStale 9] 9 ?_).1
    ⟨"message", "conv_0123456789abcdef", "sender", "text", none, 3, none, none, false⟩ []
    ["conv_0123456789abcdef"] ["text"] List.not_mem_nil).2 ?_
  · decide
  · refine ⟨by decide, by decide, nofun, _, List.mem_singleton_self _, ?_, rfl, rfl⟩
    intro expiresAt h
    cases h
    decide

end Signet
