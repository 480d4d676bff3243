import Mathlib.Data.List.DropRight
import Mathlib.Data.Nat.ModEq
import Mathlib.Data.PNat.Basic
import Signet.Schemas.Event

/-!
# The replay buffer

`CircularBuffer` of `replay-buffer.ts`, `sequenceEvent` of `event-broadcaster.ts`, and the
decision of `handleAuthFrame` what a client that comes back is sent.

A buffer that has been pushed a history holds its last `cap` items
(`CircularBuffer.toArray_ofHistory`); the frames of a credential are numbered from 1 on
(`CredentialReplayState.after_nextSeq`). So the oldest frame tells whether one is missing.
-/

namespace Signet.Ws

/-! ### The circular buffer -/

/-- `CircularBuffer<T>`. The next item goes to the slot `head`. -/
structure CircularBuffer (α : Type) where
  cap : ℕ+
  buffer : Nat → Option α
  head : Nat
  count : Nat
  head_lt : head < cap
  count_le : count ≤ cap

namespace CircularBuffer

variable {α : Type}

/-- An empty buffer. -/
def new (cap : ℕ+) : CircularBuffer α where
  cap := cap
  buffer _ := none
  head := 0
  count := 0
  head_lt := cap.pos
  count_le := Nat.zero_le _

variable (b : CircularBuffer α)

/-- A full buffer loses its oldest item. -/
def push (item : α) : CircularBuffer α where
  cap := b.cap
  buffer := Function.update b.buffer b.head (some item)
  head := (b.head + 1) % b.cap
  count := if b.count < b.cap then b.count + 1 else b.count
  head_lt := Nat.mod_lt _ b.cap.pos
  count_le := by
    have hle := b.count_le
    split
    · omega
    · exact hle

/-- The slot of the oldest item. -/
def start : Nat :=
  if b.count < b.cap then 0 else b.head

def oldest : Option α :=
  if b.count = 0 then none else b.buffer b.start

def toArray : List α :=
  (List.range b.count).filterMap fun i => b.buffer ((b.start + i) % b.cap)

def itemsSince (predicate : α → Bool) : List α :=
  b.toArray.filter predicate

def ofHistory (cap : ℕ+) (history : List α) : CircularBuffer α :=
  history.foldl push (new cap)

theorem ofHistory_snoc (cap : ℕ+) (history : List α) (item : α) :
    ofHistory cap (history ++ [item]) = (ofHistory cap history).push item := by
  unfold ofHistory
  rw [List.foldl_append, List.foldl_cons, List.foldl_nil]

/-- What the slots hold after a history: item `j` is in slot `j % cap`, unless a later one has
taken it. -/
structure Represents (b : CircularBuffer α) (history : List α) : Prop where
  head_eq : b.head = history.length % b.cap
  count_eq : b.count = min history.length b.cap
  slots : ∀ j, history.length < j + b.cap + 1 → j < history.length →
    b.buffer (j % b.cap) = history[j]?

theorem represents_new (cap : ℕ+) : Represents (new cap : CircularBuffer α) [] where
  head_eq := (Nat.zero_mod _).symm
  count_eq := (Nat.zero_min _).symm
  slots := by
    intro j _ hj
    exact absurd hj (Nat.not_lt_zero j)

/-- A push appends to the history. -/
theorem Represents.push {b : CircularBuffer α} {history : List α} (h : b.Represents history)
    (item : α) : (b.push item).Represents (history ++ [item]) := by
  have hlen : (history ++ [item]).length = history.length + 1 := by simp
  constructor
  · show (b.head + 1) % b.cap = _
    rw [h.head_eq, hlen]
    exact Nat.mod_add_mod _ _ _
  · show (if b.count < b.cap then b.count + 1 else b.count) = min _ (b.cap : Nat)
    rw [hlen, h.count_eq]
    split <;> omega
  · intro j hlow hj
    rw [hlen] at hlow hj
    change history.length + 1 < j + (b.cap : Nat) + 1 at hlow
    show Function.update b.buffer b.head (some item) (j % b.cap) = _
    rw [h.head_eq]
    by_cases hlast : j = history.length
    · -- the new item
      rw [hlast, Function.update_self]
      exact List.getElem?_concat_length.symm
    · have hold : j < history.length := by omega
      -- the slots of two items less than `cap` apart differ
      have hne : j % b.cap ≠ history.length % b.cap := by
        intro heq
        have hdvd : (b.cap : Nat) ∣ history.length - j := (Nat.modEq_iff_dvd' hold.le).1 heq
        have hle : (b.cap : Nat) ≤ history.length - j := Nat.le_of_dvd (by omega) hdvd
        omega
      rw [Function.update_of_ne hne, List.getElem?_append_left hold]
      exact h.slots j (by omega) hold

theorem represents_ofHistory (cap : ℕ+) (history : List α) :
    (ofHistory cap history).cap = cap ∧ (ofHistory cap history).Represents history := by
  induction history using List.reverseRecOn with
  | nil => exact ⟨rfl, represents_new cap⟩
  | append_singleton history item ih =>
    rw [ofHistory_snoc]
    exact ⟨ih.1, ih.2.push item⟩

theorem filterMap_range_getElem? (l : List α) :
    (List.range l.length).filterMap (fun i => l[i]?) = l := by
  induction l with
  | nil => rfl
  | cons a l ih =>
    rw [List.length_cons, List.range_succ_eq_map, List.filterMap_cons]
    show a :: _ = _
    rw [List.filterMap_map]
    exact congrArg (a :: ·) ih

theorem slot_ofHistory (cap : ℕ+) (history : List α) {i : Nat}
    (hi : i < (ofHistory cap history).count) :
    (ofHistory cap history).buffer
        (((ofHistory cap history).start + i) % (ofHistory cap history).cap) =
      (history.rtake cap)[i]? := by
  obtain ⟨hcap, h⟩ := represents_ofHistory cap history
  generalize ofHistory cap history = b at hcap h hi
  subst hcap
  have hmin := h.count_eq
  unfold List.rtake
  rw [List.getElem?_drop, ← h.slots (history.length - b.cap + i) (by omega) (by omega)]
  congr 1
  unfold start
  split
  · next hfew =>
    -- nothing has been overwritten
    have hzero : history.length - (b.cap : Nat) = 0 := by omega
    rw [hzero]
  · next hfull =>
    -- the oldest item is a full turn behind the next slot
    rw [h.head_eq, Nat.mod_add_mod]
    have hturn : history.length + i = history.length - b.cap + i + b.cap := by omega
    rw [hturn, Nat.add_mod_right]

theorem count_ofHistory (cap : ℕ+) (history : List α) :
    (ofHistory cap history).count = (history.rtake cap).length := by
  obtain ⟨hcap, h⟩ := represents_ofHistory cap history
  rw [h.count_eq, hcap]
  unfold List.rtake
  rw [List.length_drop]
  omega

/-- **The buffer holds the last items.** -/
theorem toArray_ofHistory (cap : ℕ+) (history : List α) :
    (ofHistory cap history).toArray = history.rtake cap := by
  unfold toArray
  rw [List.filterMap_congr fun i hi => slot_ofHistory cap history (List.mem_range.1 hi),
    count_ofHistory]
  exact filterMap_range_getElem? _

theorem start_lt (b : CircularBuffer α) : b.start < b.cap := by
  unfold start
  split
  · exact b.cap.pos
  · exact b.head_lt

theorem oldest_ofHistory (cap : ℕ+) (history : List α) :
    (ofHistory cap history).oldest = (history.rtake cap).head? := by
  have hcount := count_ofHistory cap history
  unfold oldest
  by_cases hzero : (ofHistory cap history).count = 0
  · rw [if_pos hzero]
    rw [hzero] at hcount
    rw [List.eq_nil_of_length_eq_zero hcount.symm]
    rfl
  · have hfirst := slot_ofHistory cap history (Nat.pos_of_ne_zero hzero)
    rw [Nat.add_zero, Nat.mod_eq_of_lt (start_lt _)] at hfirst
    rw [if_neg hzero, hfirst, List.head?_eq_getElem?]

end CircularBuffer

/-! ### Frames -/

/-- `SequencedFrame`. `origin` says which broadcast the event comes from, if it is not the
server's own. -/
structure SequencedFrame where
  seq : Nat
  event : SignetEvent
  origin : Option Nat
  deriving DecidableEq

structure CredentialReplayState where
  buffer : CircularBuffer SequencedFrame
  nextSeq : Nat

/-- An event and the broadcast it comes from. -/
abbrev SourcedEvent := SignetEvent × Option Nat

namespace CredentialReplayState

def new (cap : ℕ+) : CredentialReplayState :=
  ⟨.new cap, 1⟩

variable (st : CredentialReplayState)

/-- The frame that `sequenceEvent` makes of an event. -/
def frame (e : SourcedEvent) : SequencedFrame :=
  ⟨st.nextSeq, e.1, e.2⟩

def sequenceEvent (e : SourcedEvent) : CredentialReplayState :=
  ⟨st.buffer.push (st.frame e), st.nextSeq + 1⟩

/-- What `handleAuthFrame` decides to replay. -/
structure Resume where
  needsRecovery : Bool
  replayFrames : List SequencedFrame
  resumedFromSeq : Option Nat
  deriving DecidableEq

/-- Replay everything that is held after `lastSeen`. -/
def replaySince (lastSeen : Nat) : Resume :=
  let replayFrames := st.buffer.itemsSince fun f => lastSeen < f.seq
  ⟨false, replayFrames, if replayFrames.isEmpty then none else some lastSeen⟩

def resume : Option Nat → Resume
  | none => ⟨false, [], none⟩
  | some lastSeen =>
    match st.buffer.oldest with
    | some oldest =>
      if lastSeen + 1 < oldest.seq then ⟨true, [], none⟩ else st.replaySince lastSeen
    | none => st.replaySince lastSeen

/-! ### A history of events -/

def after (cap : ℕ+) (events : List SourcedEvent) : CredentialReplayState :=
  events.foldl sequenceEvent (new cap)

/-- The frames of a history, numbered from 1 on. -/
def frames (events : List SourcedEvent) : List SequencedFrame :=
  events.mapIdx fun i e => ⟨i + 1, e.1, e.2⟩

variable (cap : ℕ+) (events : List SourcedEvent)

theorem after_snoc (e : SourcedEvent) :
    after cap (events ++ [e]) = (after cap events).sequenceEvent e := by
  unfold after
  rw [List.foldl_append, List.foldl_cons, List.foldl_nil]

theorem frames_snoc (e : SourcedEvent) :
    frames (events ++ [e]) = frames events ++ [⟨events.length + 1, e.1, e.2⟩] := by
  unfold frames
  rw [List.mapIdx_concat]

/-- A state is what its history makes of it. -/
theorem after_eq :
    after cap events = ⟨.ofHistory cap (frames events), events.length + 1⟩ := by
  induction events using List.reverseRecOn with
  | nil => rfl
  | append_singleton events e ih =>
    have hframe : (after cap events).frame e = ⟨events.length + 1, e.1, e.2⟩ := by
      rw [ih]
      rfl
    rw [after_snoc, sequenceEvent, hframe, ih, frames_snoc, CircularBuffer.ofHistory_snoc,
      List.length_append, List.length_singleton]

theorem frames_length : (frames events).length = events.length :=
  List.length_mapIdx

theorem seq_getElem {i : Nat} (h : i < (frames events).length) :
    (frames events)[i].seq = i + 1 := by
  exact congrArg SequencedFrame.seq List.getElem_mapIdx

variable {cap events} {lastSeen : Nat}

theorem mem_drop_frames {k : Nat} {f : SequencedFrame} :
    f ∈ (frames events).drop k ↔ f ∈ frames events ∧ k < f.seq := by
  constructor
  · intro hmem
    obtain ⟨i, hi, rfl⟩ := List.mem_drop_iff_getElem.1 hmem
    refine ⟨List.getElem_mem _, ?_⟩
    rw [seq_getElem]
    omega
  · rintro ⟨hmem, hk⟩
    obtain ⟨i, hi, rfl⟩ := List.getElem_of_mem hmem
    rw [seq_getElem] at hk
    have hsum : k + (i - k) = i := by omega
    refine List.mem_drop_iff_getElem.2 ⟨i - k, by omega, ?_⟩
    simp only [hsum]

/-- A frame is missing if it lies before what the buffer holds. -/
theorem evicted_iff (hlast : lastSeen ≤ events.length) :
    (∃ f ∈ frames events, lastSeen < f.seq ∧ f ∉ (after cap events).buffer.toArray) ↔
      lastSeen < events.length - cap := by
  have harray : (after cap events).buffer.toArray =
      (frames events).drop (events.length - cap) := by
    rw [after_eq, CircularBuffer.toArray_ofHistory]
    unfold List.rtake
    rw [frames_length]
  rw [harray]
  constructor
  · rintro ⟨f, hf, hseq, hmissing⟩
    rw [mem_drop_frames] at hmissing
    have hle : ¬ events.length - cap < f.seq := fun h => hmissing ⟨hf, h⟩
    omega
  · intro hlt
    have hi : lastSeen < (frames events).length := by
      rw [frames_length]
      omega
    refine ⟨(frames events)[lastSeen], List.getElem_mem hi, ?_, ?_⟩
    · rw [seq_getElem]
      omega
    · rw [mem_drop_frames, seq_getElem]
      rintro ⟨-, hin⟩
      omega

theorem replaySince_eq (hkept : events.length - cap ≤ lastSeen) :
    ((after cap events).replaySince lastSeen).replayFrames = (frames events).drop lastSeen := by
  have hsplit : (frames events).drop (events.length - cap) =
      ((frames events).drop (events.length - cap)).take (lastSeen - (events.length - cap)) ++
        (frames events).drop lastSeen := by
    have hsum : events.length - (cap : Nat) + (lastSeen - (events.length - cap)) = lastSeen := by
      omega
    conv_lhs => rw [← List.take_append_drop (lastSeen - (events.length - cap))
      ((frames events).drop (events.length - cap))]
    rw [List.drop_drop, hsum]
  show ((after cap events).buffer.toArray).filter (fun f => decide (lastSeen < f.seq)) = _
  rw [after_eq, CircularBuffer.toArray_ofHistory]
  unfold List.rtake
  rw [frames_length, hsplit, List.filter_append]
  have hseen : (((frames events).drop (events.length - cap)).take
      (lastSeen - (events.length - cap))).filter (fun f => decide (lastSeen < f.seq)) = [] := by
    refine List.filter_eq_nil_iff.2 fun f hf => ?_
    obtain ⟨i, hi, rfl⟩ := List.mem_take_iff_getElem.1 hf
    rw [List.getElem_drop, seq_getElem, decide_eq_true_eq]
    omega
  have hnew : ((frames events).drop lastSeen).filter (fun f => decide (lastSeen < f.seq)) =
      (frames events).drop lastSeen :=
    List.filter_eq_self.2 fun f hf => decide_eq_true (mem_drop_frames.1 hf).2
  rw [hseen, hnew, List.nil_append]

theorem filter_frames :
    (frames events).filter (fun f => decide (lastSeen < f.seq)) =
    (frames events).drop lastSeen := by
  have hseen : ((frames events).take lastSeen).filter
      (fun f => decide (lastSeen < f.seq)) = [] := by
    refine List.filter_eq_nil_iff.2 fun f hf => ?_
    obtain ⟨i, hi, rfl⟩ := List.mem_take_iff_getElem.1 hf
    rw [seq_getElem, decide_eq_true_eq]
    omega
  have hnew : ((frames events).drop lastSeen).filter (fun f => decide (lastSeen < f.seq)) =
      (frames events).drop lastSeen :=
    List.filter_eq_self.2 fun f hf => decide_eq_true (mem_drop_frames.1 hf).2
  conv_lhs => rw [← List.take_append_drop lastSeen (frames events)]
  rw [List.filter_append, hseen, hnew, List.nil_append]

theorem map_seq_drop :
    ((frames events).drop lastSeen).map (·.seq) =
      List.range' (lastSeen + 1) (events.length - lastSeen) := by
  refine List.ext_getElem ?_ fun i h h' => ?_
  · rw [List.length_map, List.length_drop, List.length_range', frames_length]
  · rw [List.getElem_map, List.getElem_drop, seq_getElem, List.getElem_range']
    omega

/-- **The decision of `handleAuthFrame`**: recovery if a frame has been evicted, and all frames
after `lastSeen` otherwise. -/
theorem resume_after (hlast : lastSeen < (after cap events).nextSeq) :
    (after cap events).resume (some lastSeen) =
      if lastSeen < events.length - cap then ⟨true, [], none⟩
      else (after cap events).replaySince lastSeen := by
  have hle : lastSeen ≤ events.length := by
    rw [after_eq] at hlast
    exact Nat.lt_succ_iff.1 hlast
  have holdest : (after cap events).buffer.oldest =
      (frames events)[events.length - (cap : Nat)]? := by
    rw [after_eq, CircularBuffer.oldest_ofHistory]
    unfold List.rtake
    rw [frames_length, List.head?_drop]
  unfold resume
  dsimp only
  rw [holdest]
  have hpos := cap.pos
  by_cases hempty : events.length = 0
  · -- nothing has been sent yet
    rw [List.getElem?_eq_none (by rw [frames_length]; omega), if_neg (by omega)]
  · have hi : events.length - (cap : Nat) < (frames events).length := by
      rw [frames_length]
      omega
    rw [List.getElem?_eq_getElem hi]
    dsimp only
    rw [seq_getElem]
    simp only [Nat.add_lt_add_iff_right]

end CredentialReplayState

end Signet.Ws
