import Signet.Lib.Machine

/-!
# The event stream of the SDK

`createEventStream` of `event-stream.ts`: an event goes to the waiting `next` call or else into the
buffer, and a `next` call takes the first event of the buffer or else waits. `push`, `complete` and
`next` run without an interruption, so the interleavings of producers and consumers are the
sequences of these calls, the runs of `EventStream.machine`.

There is one slot for a waiting call. Every run delivers what was pushed in the order of the pushes
(`Inv.queue`), but a `next` call made while another one waits takes the slot over, and the other
one is never resolved. The calls are all served in the runs without such calls, and in no others
(`EventStream.lossless_iff`).
-/

namespace Signet.Sdk

open Lib

variable {ε : Type}

/-- `IteratorResult`: what a `next` call is resolved with. -/
inductive IteratorResult (ε : Type) where
  | event (value : ε)
  | done
  deriving DecidableEq, Repr

/-- The variables of `createEventStream`. The resolver of a promise is the number of the `next` call
that made the promise. -/
structure EventStream (ε : Type) where
  buffer : List ε := []
  done : Bool := false
  waiter : Option Nat := none
  /-- How many `next` calls were made. -/
  nextCalls : Nat := 0

inductive StreamCall (ε : Type) where
  | push (event : ε)
  | complete
  | next
  deriving DecidableEq, Repr

/-- What happens on a stream: its calls, and the `next` calls that are resolved. -/
inductive StreamEvent (ε : Type) where
  | pushed (event : ε)
  | completed
  | called
  | resolved (call : Nat) (result : IteratorResult ε)
  deriving DecidableEq, Repr

namespace EventStream

def push (s : EventStream ε) (event : ε) : EventStream ε × List (StreamEvent ε) :=
  if s.done then (s, [])
  else
    match s.waiter with
    | some call => ({ s with waiter := none }, [.resolved call (.event event)])
    | none => ({ s with buffer := s.buffer ++ [event] }, [])

def complete (s : EventStream ε) : EventStream ε × List (StreamEvent ε) :=
  match s.waiter with
  | some call => ({ s with done := true, waiter := none }, [.resolved call .done])
  | none => ({ s with done := true }, [])

/-- `next` of the iterator. A call that has to wait replaces the waiting one. -/
def next (s : EventStream ε) : EventStream ε × List (StreamEvent ε) :=
  match s.buffer with
  | buffered :: rest =>
    ({ s with buffer := rest, nextCalls := s.nextCalls + 1 },
      [.resolved s.nextCalls (.event buffered)])
  | [] =>
    if s.done then
      ({ s with nextCalls := s.nextCalls + 1 }, [.resolved s.nextCalls .done])
    else ({ s with waiter := some s.nextCalls, nextCalls := s.nextCalls + 1 }, [])

/-- A stream and everyone who calls it, in any order. -/
def machine : Machine (EventStream ε) (StreamCall ε) (StreamEvent ε) where
  init := {}
  step s a :=
    match a with
    | .push event => some ((s.push event).1, .pushed event :: (s.push event).2)
    | .complete => some (s.complete.1, .completed :: s.complete.2)
    | .next => some (s.next.1, .called :: s.next.2)

/-! ### What a trace says -/

/-- The events that were pushed before the stream was completed. -/
def pushed : List (StreamEvent ε) → List ε
  | [] => []
  | .pushed event :: tr => event :: pushed tr
  | .completed :: _ => []
  | .called :: tr => pushed tr
  | .resolved _ _ :: tr => pushed tr

/-- How many `next` calls were made. -/
def calls : List (StreamEvent ε) → Nat
  | [] => 0
  | .called :: tr => calls tr + 1
  | .pushed _ :: tr => calls tr
  | .completed :: tr => calls tr
  | .resolved _ _ :: tr => calls tr

/-- The result of a `next` call that `e` reports. -/
def resolutionIn (call : Nat) : StreamEvent ε → Option (IteratorResult ε)
  | .resolved call' result => if call' = call then some result else none
  | _ => none

/-- What a `next` call was resolved with; a promise keeps its first result. -/
def resolution (tr : List (StreamEvent ε)) (call : Nat) : Option (IteratorResult ε) :=
  tr.findSome? (resolutionIn call)

def IteratorResult.event? : IteratorResult ε → Option ε
  | .event event => some event
  | .done => none

/-- The event that a `next` call was resolved with. -/
def receivedBy (tr : List (StreamEvent ε)) (call : Nat) : Option ε :=
  (resolution tr call).bind IteratorResult.event?

/-- The events that the `next` calls were resolved with, in the order of the calls. -/
def received (tr : List (StreamEvent ε)) : List ε :=
  (List.range (calls tr)).filterMap (receivedBy tr)

/-- A trace of a queue that loses nothing and leaves no call unanswered. -/
structure Lossless (tr : List (StreamEvent ε)) : Prop where
  /-- The `i`-th call that is resolved with an event is resolved with the `i`-th one pushed. -/
  inOrder : ∀ {i : Nat} {event : ε}, (received tr)[i]? = some event →
    (pushed tr)[i]? = some event
  /-- A call is resolved once there are enough events or the stream is completed. -/
  served : ∀ {call : Nat}, call < calls tr →
    call < (pushed tr).length ∨ .completed ∈ tr → ∃ result, resolution tr call = some result
  /-- An event that was pushed before the completion is received once there are enough calls. -/
  kept : ∀ {i : Nat} {event : ε}, (pushed tr)[i]? = some event → i < calls tr →
    (received tr)[i]? = some event

/-! ### How a step extends a trace -/

theorem resolution_append (tr es : List (StreamEvent ε)) (call : Nat) :
    resolution (tr ++ es) call = (resolution tr call).or (resolution es call) :=
  List.findSome?_append

theorem calls_append (tr es : List (StreamEvent ε)) : calls (tr ++ es) = calls tr + calls es := by
  induction tr with
  | nil => exact (Nat.zero_add _).symm
  | cons e tr ih =>
    cases e with
    | called =>
      show calls (tr ++ es) + 1 = calls tr + 1 + calls es
      rw [ih, Nat.add_right_comm]
    | _ => exact ih

/-- Before the completion, a later push is one more. -/
theorem pushed_append {tr : List (StreamEvent ε)} (h : .completed ∉ tr)
    (es : List (StreamEvent ε)) : pushed (tr ++ es) = pushed tr ++ pushed es := by
  induction tr with
  | nil => rfl
  | cons e tr ih =>
    have ih := ih fun hmem => h (List.mem_cons_of_mem _ hmem)
    cases e with
    | completed => exact absurd List.mem_cons_self h
    | pushed event => exact congrArg (event :: ·) ih
    | called => exact ih
    | resolved call result => exact ih

theorem pushed_append_of_completed {tr : List (StreamEvent ε)} (h : .completed ∈ tr)
    (es : List (StreamEvent ε)) : pushed (tr ++ es) = pushed tr := by
  induction tr with
  | nil => cases h
  | cons e tr ih =>
    cases e with
    | completed => rfl
    | pushed event =>
      have htail : .completed ∈ tr := by simpa using h
      exact congrArg (event :: ·) (ih htail)
    | called =>
      have htail : .completed ∈ tr := by simpa using h
      exact ih htail
    | resolved call result =>
      have htail : .completed ∈ tr := by simpa using h
      exact ih htail

/-- Where a step has nothing for a call, its result is what it was. -/
theorem resolution_append_of_none {tr es : List (StreamEvent ε)} {call : Nat}
    (h : resolution es call = none) : resolution (tr ++ es) call = resolution tr call := by
  rw [resolution_append, h, Option.or_none]

theorem receivedBy_append_of_none {tr es : List (StreamEvent ε)} {call : Nat}
    (h : resolution es call = none) : receivedBy (tr ++ es) call = receivedBy tr call := by
  unfold receivedBy
  rw [resolution_append_of_none h]

theorem received_append_of_none {tr es : List (StreamEvent ε)} (hcalls : calls es = 0)
    (h : ∀ call, resolution es call = none) : received (tr ++ es) = received tr := by
  unfold received
  rw [calls_append, hcalls, Nat.add_zero]
  exact List.filterMap_congr fun call _ => receivedBy_append_of_none (h call)

/-- A step that makes or answers the last call `n`, which has no answer so far. -/
theorem received_append_of_last {tr es : List (StreamEvent ε)} {n : Nat}
    (hcalls : calls tr + calls es = n + 1) (hle : n ≤ calls tr) (hnone : resolution tr n = none)
    (h : ∀ call, call ≠ n → resolution es call = none) :
    received (tr ++ es) = received tr ++ (receivedBy es n).toList := by
  have hbefore : receivedBy tr n = none := by
    unfold receivedBy
    rw [hnone]
    rfl
  have hafter : receivedBy (tr ++ es) n = receivedBy es n := by
    unfold receivedBy
    rw [resolution_append, hnone, Option.none_or]
  -- the call is among the earlier ones or not, and adds nothing to what they received
  have hprev : received tr = (List.range n).filterMap (receivedBy tr) := by
    unfold received
    rcases Nat.lt_or_ge n (calls tr) with hlt | hge
    · have heq : calls tr = n + 1 := by omega
      rw [heq, List.range_succ, List.filterMap_append, List.filterMap_cons, hbefore]
      exact List.append_nil _
    · rw [Nat.le_antisymm hge hle]
  have hcongr : (List.range n).filterMap (receivedBy (tr ++ es)) =
      (List.range n).filterMap (receivedBy tr) := by
    refine List.filterMap_congr fun call hmem => ?_
    have hlt : call < n := List.mem_range.1 hmem
    exact receivedBy_append_of_none (h call (Nat.ne_of_lt hlt))
  rw [hprev, ← hcongr]
  unfold received
  rw [calls_append, hcalls, List.range_succ, List.filterMap_append, List.filterMap_cons, hafter]
  cases receivedBy es n with
  | none => rfl
  | some event => rfl

/-! ### Every run -/

/-- What holds of the trace and the stream in every run. -/
structure Inv (tr : List (StreamEvent ε)) (s : EventStream ε) : Prop where
  calls : calls tr = s.nextCalls
  completed : .completed ∈ tr ↔ s.done = true
  /-- Nobody is answered who has not called. -/
  fresh : ∀ {call : Nat}, s.nextCalls ≤ call → resolution tr call = none
  /-- The waiting call is the last one, and there is nothing for it. -/
  waiting : ∀ {call : Nat}, s.waiter = some call →
    call + 1 = s.nextCalls ∧ s.buffer = [] ∧ s.done = false ∧ resolution tr call = none
  /-- A call is told that the stream is done when nothing is left. -/
  drained : ∀ {call : Nat}, resolution tr call = some .done → s.done = true ∧ s.buffer = []
  /-- What was pushed is received or in the buffer, in the order of the pushes. -/
  queue : received tr ++ s.buffer = pushed tr

theorem inv_init : Inv ([] : List (StreamEvent ε)) {} where
  calls := rfl
  completed := by simp
  fresh _ := rfl
  waiting h := by cases h
  drained h := by cases h
  queue := rfl

variable {tr es : List (StreamEvent ε)} {s s' : EventStream ε}

/-- A step without a call and without an answer. -/
theorem Inv.silent (h : Inv tr s) (hcalls : EventStream.calls es = 0)
    (hes : ∀ call, resolution es call = none) (hnext : s'.nextCalls = s.nextCalls)
    (hwaiter : s'.waiter = none) (hcompleted : .completed ∈ tr ++ es ↔ s'.done = true)
    (hdrained : s.done = true ∧ s.buffer = [] → s'.done = true ∧ s'.buffer = [])
    (hqueue : received tr ++ s'.buffer = pushed (tr ++ es)) : Inv (tr ++ es) s' where
  calls := by rw [calls_append, hcalls, hnext, Nat.add_zero, h.calls]
  completed := hcompleted
  fresh hle := by
    rw [resolution_append_of_none (hes _)]
    exact h.fresh (hnext ▸ hle)
  waiting hsome := by
    rw [hwaiter] at hsome
    cases hsome
  drained hdone := by
    rw [resolution_append_of_none (hes _)] at hdone
    exact hdrained (h.drained hdone)
  queue := by rw [received_append_of_none hcalls hes, hqueue]

/-- A step that makes or answers the last call `n`: at most this one has an answer now, and waits
otherwise. -/
theorem Inv.last (h : Inv tr s) (n : Nat) (answer : Option (IteratorResult ε))
    (hcalls : EventStream.calls tr + EventStream.calls es = n + 1) (hle : n ≤ s.nextCalls)
    (hnone : resolution tr n = none)
    (hes : ∀ call, resolution es call = if n = call then answer else none)
    (hnext : s'.nextCalls = n + 1)
    (hwaiter : ∀ {call : Nat}, s'.waiter = some call →
      call = n ∧ answer = none ∧ s'.buffer = [] ∧ s'.done = false)
    (hcompleted : .completed ∈ tr ++ es ↔ s'.done = true)
    (hdrained : answer = some .done ∨ (s.done = true ∧ s.buffer = []) →
      s'.done = true ∧ s'.buffer = [])
    (hqueue : received tr ++ (answer.bind IteratorResult.event?).toList ++ s'.buffer =
      pushed (tr ++ es)) : Inv (tr ++ es) s' := by
  have hother : ∀ call, call ≠ n → resolution es call = none := by
    intro call hne
    rw [hes, if_neg (Ne.symm hne)]
  have hself : resolution (tr ++ es) n = answer := by
    rw [resolution_append, hnone, Option.none_or, hes, if_pos rfl]
  have hby : receivedBy es n = answer.bind IteratorResult.event? := by
    unfold receivedBy
    rw [hes, if_pos rfl]
  refine ⟨?_, hcompleted, ?_, ?_, ?_, ?_⟩
  · rw [calls_append, hcalls, hnext]
  · intro call hge
    have hlt : n < call := by omega
    rw [resolution_append_of_none (hother call (Nat.ne_of_gt hlt))]
    have hold := h.calls
    exact h.fresh (by omega)
  · intro call hsome
    obtain ⟨rfl, hanswer, hbuffer, hdone⟩ := hwaiter hsome
    exact ⟨hnext.symm, hbuffer, hdone, hself.trans hanswer⟩
  · intro call hdone
    by_cases heq : call = n
    · rw [heq, hself] at hdone
      exact hdrained (.inl hdone)
    · rw [resolution_append_of_none (hother call heq)] at hdone
      exact hdrained (.inr (h.drained hdone))
  · rw [received_append_of_last hcalls (h.calls ▸ hle) hnone hother, hby, hqueue]

/-- What a step emits besides its own event answers the one call `call`. -/
theorem resolution_answer {e : StreamEvent ε} (he : ∀ c, resolutionIn c e = none) (call : Nat)
    (result : IteratorResult ε) (c : Nat) :
    resolution [e, .resolved call result] c = if call = c then some result else none := by
  unfold resolution
  rw [List.findSome?_cons, he c, List.findSome?_cons]
  by_cases hc : call = c
  · simp [resolutionIn, hc]
  · simp [resolutionIn, hc]

theorem Inv.waiter_none (h : Inv tr s) (hdone : s.done = true) : s.waiter = none := by
  cases hwaiter : s.waiter with
  | none => rfl
  | some call =>
    have hfalse := (h.waiting hwaiter).2.2.1
    rw [hdone] at hfalse
    cases hfalse

theorem Inv.push (h : Inv tr s) (event : ε) :
    Inv (tr ++ .pushed event :: (s.push event).2) (s.push event).1 := by
  unfold EventStream.push
  by_cases hdone : s.done = true
  · -- after the completion a push is ignored
    have hcompleted : .completed ∈ tr := h.completed.2 hdone
    rw [if_pos hdone]
    refine h.silent rfl (fun _ => rfl) rfl (h.waiter_none hdone) ?_ id ?_
    · simpa using h.completed
    · rw [pushed_append_of_completed hcompleted]
      exact h.queue
  · have hopen : .completed ∉ tr := fun hmem => hdone (h.completed.1 hmem)
    rw [if_neg hdone]
    cases hwaiter : s.waiter with
    | none =>
      -- nobody waits: the event joins the buffer
      refine h.silent rfl (fun _ => rfl) rfl rfl ?_ (fun hold => absurd hold.1 hdone) ?_
      · simpa using h.completed
      · show received tr ++ (s.buffer ++ [event]) = _
        rw [pushed_append hopen, ← List.append_assoc, h.queue]
        rfl
    | some call =>
      -- the waiting call, which is the last one, gets the event
      obtain ⟨hlast, hbuffer, -, hunanswered⟩ := h.waiting hwaiter
      refine h.last call (some (.event event)) ?_ (by omega) hunanswered
        (resolution_answer (fun _ => rfl) call _) hlast.symm (fun hsome => by cases hsome) ?_ ?_ ?_
      · rw [h.calls]
        exact hlast.symm
      · simpa using h.completed
      · rintro (hanswer | hold)
        · cases hanswer
        · exact absurd hold.1 hdone
      · show received tr ++ [event] ++ s.buffer = _
        rw [pushed_append hopen, ← h.queue, hbuffer]
        simp [pushed]

theorem Inv.complete (h : Inv tr s) : Inv (tr ++ .completed :: s.complete.2) s.complete.1 := by
  -- nothing that comes with or after the completion counts as pushed before it
  have hpushed : ∀ es, pushed (tr ++ .completed :: es) = pushed tr := by
    intro es
    by_cases hmem : .completed ∈ tr
    · exact pushed_append_of_completed hmem _
    · rw [pushed_append hmem]
      exact List.append_nil _
  unfold EventStream.complete
  cases hwaiter : s.waiter with
  | none =>
    refine h.silent rfl (fun _ => rfl) rfl rfl (by simp) (fun hold => ⟨rfl, hold.2⟩) ?_
    rw [hpushed]
    exact h.queue
  | some call =>
    obtain ⟨hlast, hbuffer, -, hunanswered⟩ := h.waiting hwaiter
    refine h.last call (some .done) ?_ (by omega) hunanswered
      (resolution_answer (fun _ => rfl) call _) hlast.symm (fun hsome => by cases hsome) (by simp)
      (fun _ => ⟨rfl, hbuffer⟩) ?_
    · rw [h.calls]
      exact hlast.symm
    · rw [hpushed, ← h.queue]
      simp [IteratorResult.event?]

theorem Inv.next (h : Inv tr s) : Inv (tr ++ .called :: s.next.2) s.next.1 := by
  have hpushed : ∀ {es}, pushed es = [] → pushed (tr ++ es) = pushed tr := by
    intro es hes
    by_cases hmem : .completed ∈ tr
    · exact pushed_append_of_completed hmem _
    · rw [pushed_append hmem, hes, List.append_nil]
  have hunanswered : resolution tr s.nextCalls = none := h.fresh (Nat.le_refl _)
  unfold EventStream.next
  cases hbuffer : s.buffer with
  | cons buffered rest =>
    -- the call gets the first event of the buffer; nobody waits while there is one
    refine h.last s.nextCalls (some (.event buffered)) ?_ (Nat.le_refl _)
      hunanswered (resolution_answer (fun _ => rfl) _ _) rfl ?_ ?_ ?_ ?_
    · rw [h.calls]
      rfl
    · intro call hwaiter
      have hempty := (h.waiting hwaiter).2.1
      rw [hbuffer] at hempty
      cases hempty
    · simpa using h.completed
    · rintro (hanswer | hold)
      · cases hanswer
      · rw [hbuffer] at hold
        cases hold.2
    · rw [hpushed rfl, ← h.queue, hbuffer]
      simp [IteratorResult.event?]
  | nil =>
    dsimp only
    by_cases hdone : s.done = true
    · rw [if_pos hdone]
      refine h.last s.nextCalls (some .done) ?_ (Nat.le_refl _)
        hunanswered (resolution_answer (fun _ => rfl) _ _) rfl ?_ ?_ (fun _ => ⟨hdone, rfl⟩) ?_
      · rw [h.calls]
        rfl
      · intro call hwaiter
        exact absurd ((h.waiter_none hdone).symm.trans hwaiter) (by simp)
      · simpa using h.completed
      · rw [hpushed rfl, ← h.queue, hbuffer]
        simp [IteratorResult.event?]
    · -- the call waits, whoever waited before
      rw [if_neg hdone]
      refine h.last s.nextCalls none ?_ (Nat.le_refl _)
        hunanswered (fun c => by simp [resolution, resolutionIn]) rfl ?_ ?_ ?_ ?_
      · rw [h.calls]
        rfl
      · intro call hwaiter
        exact ⟨(Option.some.inj hwaiter).symm, rfl, rfl, Bool.eq_false_iff.2 hdone⟩
      · simpa using h.completed
      · rintro (hanswer | hold)
        · cases hanswer
        · exact absurd hold.1 hdone
      · rw [hpushed rfl, ← h.queue, hbuffer]
        simp

/-- **Every run keeps the queue**, also one with overlapping calls. -/
theorem inv_of_run {ok : EventStream ε → StreamCall ε → Prop} (h : Run machine ok tr s) :
    Inv tr s := by
  refine h.invariant inv_init fun {tr s a s' es} _ hinv _ hstep => ?_
  cases a with
  | push event =>
    obtain ⟨rfl, rfl⟩ := Prod.mk.inj (Option.some.inj hstep)
    exact hinv.push event
  | complete =>
    obtain ⟨rfl, rfl⟩ := Prod.mk.inj (Option.some.inj hstep)
    exact hinv.complete
  | next =>
    obtain ⟨rfl, rfl⟩ := Prod.mk.inj (Option.some.inj hstep)
    exact hinv.next

/-! ### Calls that do not overlap -/

/-- A `next` call is only made when no other one waits. -/
def NotOverlapping (s : EventStream ε) (a : StreamCall ε) : Prop :=
  match a with
  | .next => s.waiter = none
  | _ => True

/-- Whoever called has an answer or waits. -/
def Answered (tr : List (StreamEvent ε)) (s : EventStream ε) : Prop :=
  ∀ call < s.nextCalls, s.waiter ≠ some call → ∃ result, resolution tr call = some result

/-- A call that is not answered and does not wait any more. -/
def Stranded (tr : List (StreamEvent ε)) (s : EventStream ε) (call : Nat) : Prop :=
  call < s.nextCalls ∧ s.waiter ≠ some call ∧ resolution tr call = none

/-- Whom a step answers: nobody, the call that waited, or the one that is made. -/
inductive Answers (s s' : EventStream ε) (es : List (StreamEvent ε)) : StreamCall ε → Prop where
  | nobody {a : StreamCall ε} (hnext : s'.nextCalls = s.nextCalls) (hwaiter : s'.waiter = s.waiter)
      (hes : ∀ c, resolution es c = none) : Answers s s' es a
  | waiting {a : StreamCall ε} (call : Nat) (result : IteratorResult ε)
      (hnext : s'.nextCalls = s.nextCalls) (hwaited : s.waiter = some call)
      (hwaiter : s'.waiter = none)
      (hes : ∀ c, resolution es c = if call = c then some result else none) : Answers s s' es a
  | new (result : IteratorResult ε) (hnext : s'.nextCalls = s.nextCalls + 1)
      (hwaiter : s'.waiter = s.waiter)
      (hes : ∀ c, resolution es c = if s.nextCalls = c then some result else none) :
      Answers s s' es .next
  | waits (hnext : s'.nextCalls = s.nextCalls + 1) (hwaiter : s'.waiter = some s.nextCalls)
      (hes : ∀ c, resolution es c = none) : Answers s s' es .next

theorem answers_of_step {a : StreamCall ε} (hstep : machine.step s a = some (s', es)) :
    Answers s s' es a := by
  cases a with
  | push event =>
    obtain ⟨rfl, rfl⟩ := Prod.mk.inj (Option.some.inj hstep)
    unfold EventStream.push
    by_cases hdone : s.done = true
    · rw [if_pos hdone]
      exact .nobody rfl rfl fun _ => rfl
    · rw [if_neg hdone]
      cases hwaiter : s.waiter with
      | none => exact .nobody rfl hwaiter.symm fun _ => rfl
      | some call => exact .waiting call _ rfl hwaiter rfl (resolution_answer (fun _ => rfl) _ _)
  | complete =>
    obtain ⟨rfl, rfl⟩ := Prod.mk.inj (Option.some.inj hstep)
    unfold EventStream.complete
    cases hwaiter : s.waiter with
    | none => exact .nobody rfl hwaiter.symm fun _ => rfl
    | some call => exact .waiting call _ rfl hwaiter rfl (resolution_answer (fun _ => rfl) _ _)
  | next =>
    obtain ⟨rfl, rfl⟩ := Prod.mk.inj (Option.some.inj hstep)
    unfold EventStream.next
    cases hbuffer : s.buffer with
    | cons buffered rest => exact .new _ rfl rfl (resolution_answer (fun _ => rfl) _ _)
    | nil =>
      dsimp only
      by_cases hdone : s.done = true
      · rw [if_pos hdone]
        exact .new _ rfl rfl (resolution_answer (fun _ => rfl) _ _)
      · rw [if_neg hdone]
        exact .waits rfl rfl fun _ => rfl

/-- What is answered stays so. -/
theorem resolution_append_of_some {call : Nat} {result : IteratorResult ε}
    (h : resolution tr call = some result) (es : List (StreamEvent ε)) :
    resolution (tr ++ es) call = some result := by
  rw [resolution_append, h]
  rfl

theorem exists_resolution_append {call : Nat} {result : IteratorResult ε}
    (h : resolution es call = some result) (tr : List (StreamEvent ε)) :
    ∃ result, resolution (tr ++ es) call = some result := by
  rw [resolution_append, h]
  cases resolution tr call with
  | none => exact ⟨result, rfl⟩
  | some earlier => exact ⟨earlier, rfl⟩

/-- A step that does not overlap answers whoever stops waiting. -/
theorem Answered.step {a : StreamCall ε} (h : Answered tr s) (hok : NotOverlapping s a)
    (hstep : machine.step s a = some (s', es)) : Answered (tr ++ es) s' := by
  have hkept : ∀ call < s.nextCalls, s.waiter ≠ some call →
      ∃ result, resolution (tr ++ es) call = some result := by
    intro call hcall hwaits
    obtain ⟨result, hres⟩ := h call hcall hwaits
    exact ⟨result, resolution_append_of_some hres es⟩
  intro call hcall hwaits
  cases answers_of_step hstep with
  | nobody hnext hwaiter hes => exact hkept call (hnext ▸ hcall) (hwaiter ▸ hwaits)
  | waiting waiting result hnext hwaited hwaiter hes =>
    by_cases heq : waiting = call
    · exact exists_resolution_append ((hes call).trans (if_pos heq)) tr
    · exact hkept call (hnext ▸ hcall) fun hsome =>
        heq (Option.some.inj (hwaited.symm.trans hsome))
  | new result hnext hwaiter hes =>
    by_cases heq : s.nextCalls = call
    · exact exists_resolution_append ((hes call).trans (if_pos heq)) tr
    · exact hkept call (by omega) (hwaiter ▸ hwaits)
  | waits hnext hwaiter hes =>
    -- nobody waited before, and the new call waits now
    have hnobody : s.waiter = none := hok
    have hne : s.nextCalls ≠ call := fun heq => hwaits (heq ▸ hwaiter)
    exact hkept call (by omega) (by simp [hnobody])

theorem answered_of_run (h : Run machine NotOverlapping tr s) : Answered tr s :=
  h.invariant (I := Answered) (fun _ hlt => absurd hlt (Nat.not_lt_zero _))
    fun _ hanswered hok hstep => hanswered.step hok hstep

theorem pushed_length_le_of_waiting (h : Inv tr s) {call : Nat} (hwaiter : s.waiter = some call) :
    (pushed tr).length ≤ call := by
  obtain ⟨hlast, hbuffer, -, hnone⟩ := h.waiting hwaiter
  have hempty : receivedBy tr call = none := by
    unfold receivedBy
    rw [hnone]
    rfl
  have hreceived : received tr = (List.range call).filterMap (receivedBy tr) := by
    unfold received
    rw [h.calls, ← hlast, List.range_succ, List.filterMap_append, List.filterMap_cons, hempty]
    exact List.append_nil _
  rw [← h.queue, hbuffer, List.append_nil, hreceived]
  calc ((List.range call).filterMap (receivedBy tr)).length
      ≤ (List.range call).length := List.length_filterMap_le _ _
    _ = call := List.length_range

/-- As long as something is left in the buffer, everyone who called has received an event. -/
theorem received_length_of_buffer (h : Inv tr s) (hanswered : Answered tr s)
    (hbuffer : s.buffer ≠ []) : (received tr).length = s.nextCalls := by
  unfold received
  rw [h.calls]
  calc ((List.range s.nextCalls).filterMap (receivedBy tr)).length
      = (List.range s.nextCalls).length := by
        refine List.filterMap_length_eq_length.2 fun call hmem => ?_
        have hwaits : s.waiter ≠ some call := fun hsome => hbuffer (h.waiting hsome).2.1
        obtain ⟨result, hres⟩ := hanswered call (List.mem_range.1 hmem) hwaits
        cases result with
        | event event =>
          unfold receivedBy
          rw [hres]
          rfl
        | done => exact absurd (h.drained hres).2 hbuffer
    _ = s.nextCalls := List.length_range

/-- **Without overlapping calls the stream is a lossless queue.** -/
theorem lossless_of_run (h : Run machine NotOverlapping tr s) : Lossless tr := by
  have hinv := inv_of_run h
  have hanswered := answered_of_run h
  refine ⟨?_, ?_, ?_⟩
  · intro i event hreceived
    obtain ⟨hlt, -⟩ := List.getElem?_eq_some_iff.1 hreceived
    rw [← hinv.queue, List.getElem?_append_left hlt]
    exact hreceived
  · intro call hcall henough
    refine hanswered call (hinv.calls ▸ hcall) fun hwaiter => ?_
    rcases henough with hpushed | hcompleted
    · exact absurd hpushed (Nat.not_lt.2 (pushed_length_le_of_waiting hinv hwaiter))
    · have hdone := hinv.completed.1 hcompleted
      rw [(hinv.waiting hwaiter).2.2.1] at hdone
      cases hdone
  · intro i event hpushed hcalls
    rw [← hinv.queue] at hpushed
    -- an event that is still in the buffer has more pushed before it than there were calls
    rcases Nat.lt_or_ge i (received tr).length with hlt | hge
    · rw [List.getElem?_append_left hlt] at hpushed
      exact hpushed
    · have hbuffer : s.buffer ≠ [] := by
        intro hempty
        rw [hempty, List.append_nil, List.getElem?_eq_none hge] at hpushed
        cases hpushed
      have hlength := received_length_of_buffer hinv hanswered hbuffer
      rw [hinv.calls] at hcalls
      omega

/-- Nobody answers a stranded call, and it does not wait again. -/
theorem Stranded.step {a : StreamCall ε} {call : Nat} (h : Stranded tr s call)
    (hstep : machine.step s a = some (s', es)) : Stranded (tr ++ es) s' call := by
  obtain ⟨hcall, hwaits, hnone⟩ := h
  have hnew : s.nextCalls ≠ call := Nat.ne_of_gt hcall
  cases answers_of_step hstep with
  | nobody hnext hwaiter hes =>
    exact ⟨hnext ▸ hcall, hwaiter ▸ hwaits, (resolution_append_of_none (hes call)).trans hnone⟩
  | waiting waiting result hnext hwaited hwaiter hes =>
    have hne : waiting ≠ call := fun heq => hwaits (heq ▸ hwaited)
    have hother := (hes call).trans (if_neg hne)
    exact ⟨hnext ▸ hcall, by simp [hwaiter], (resolution_append_of_none hother).trans hnone⟩
  | new result hnext hwaiter hes =>
    have hother := (hes call).trans (if_neg hnew)
    exact ⟨by omega, hwaiter ▸ hwaits, (resolution_append_of_none hother).trans hnone⟩
  | waits hnext hwaiter hes =>
    refine ⟨by omega, ?_, (resolution_append_of_none (hes call)).trans hnone⟩
    rw [hwaiter]
    exact fun hsome => hnew (Option.some.inj hsome)

/-- A call that waits is stranded by the next one. -/
theorem stranded_of_overlapping (h : Inv tr s) {call : Nat} (hwaiter : s.waiter = some call) :
    Stranded (tr ++ .called :: s.next.2) s.next.1 call := by
  obtain ⟨hlast, hbuffer, hdone, hnone⟩ := h.waiting hwaiter
  have hne : s.nextCalls ≠ call := by omega
  have hnot : ¬ s.done = true := by simp [hdone]
  simp only [EventStream.next, hbuffer, if_neg hnot]
  exact ⟨by show call < s.nextCalls + 1; omega, fun hsome => hne (Option.some.inj hsome),
    (resolution_append_of_none rfl).trans hnone⟩

/-- A run has overlapping calls and a stranded one, or none. -/
theorem notOverlapping_or_stranded {ok : EventStream ε → StreamCall ε → Prop}
    (h : Run machine ok tr s) :
    Run machine NotOverlapping tr s ∨ ∃ call, Stranded tr s call := by
  refine h.invariant (I := fun tr s => Run machine NotOverlapping tr s ∨ ∃ call, Stranded tr s call)
    (.inl .nil) fun {tr s a s' es} hrun hor _ hstep => ?_
  rcases hor with hclean | ⟨call, hstranded⟩
  · by_cases hok : NotOverlapping s a
    · exact .inl (hclean.snoc hok hstep)
    · cases a with
      | next =>
        obtain ⟨call, hwaiter⟩ := Option.ne_none_iff_exists'.1 hok
        obtain ⟨rfl, rfl⟩ := Prod.mk.inj (Option.some.inj hstep)
        exact .inr ⟨call, stranded_of_overlapping (inv_of_run hrun) hwaiter⟩
      | push event => exact absurd trivial hok
      | complete => exact absurd trivial hok
  · exact .inr ⟨call, hstranded.step hstep⟩

/-- **The stream is a lossless queue in the runs without overlapping `next` calls, and in no
others.** A run with such calls leaves one without an answer, whatever is pushed, and even when the
stream is completed. -/
theorem lossless_iff {tr : List (StreamEvent ε)} {s : EventStream ε}
    (h : Run machine (fun _ _ => True) tr s) :
    Run machine NotOverlapping tr s ↔
      ∀ tr' s', RunFrom machine NotOverlapping s tr' s' → Lossless (tr ++ tr') := by
  constructor
  · intro hclean tr' s' hrest
    exact lossless_of_run (hclean.extend hrest)
  · intro hlossless
    rcases notOverlapping_or_stranded h with hclean | ⟨call, hstranded⟩
    · exact hclean
    · -- the completion does not reach the stranded call
      have hstep : machine.step s .complete = some (s.complete.1, .completed :: s.complete.2) := rfl
      have hafter := hstranded.step hstep
      have hinv := inv_of_run (h.snoc trivial hstep)
      have hok : NotOverlapping s .complete := trivial
      have hwhole := hlossless _ _ (RunFrom.single hok hstep)
      have hcalls : call < calls (tr ++ .completed :: s.complete.2) := by
        rw [hinv.calls]
        exact hafter.1
      obtain ⟨result, hres⟩ := hwhole.served hcalls (.inr (by simp))
      rw [hafter.2.2] at hres
      cases hres

/-- One event is taken from the buffer, and the next one answers a call that waits. -/
theorem lossless_iff_twoPushes :
    Run (machine (ε := String)) NotOverlapping [.pushed "first", .called,
        .resolved 0 (.event "first"), .called, .pushed "second", .resolved 1 (.event "second")]
        { nextCalls := 2 } ↔
      ∀ tr' s', RunFrom machine NotOverlapping { nextCalls := 2 } tr' s' →
        Lossless ([.pushed "first", .called, .resolved 0 (.event "first"), .called,
          .pushed "second", .resolved 1 (.event "second")] ++ tr') := by
  refine lossless_iff ?_
  have hpushed : Run (machine (ε := String)) (fun _ _ => True) [.pushed "first"]
      { buffer := ["first"] } := Run.nil.snoc (a := .push "first") trivial rfl
  have hwaiting := (hpushed.snoc (a := .next) trivial rfl).snoc (a := .next) trivial rfl
  exact hwaiting.snoc (a := .push "second") trivial rfl

/-- **Two calls that overlap**: the event and the completion come, and the first call is left
without an answer. -/
theorem overlapping_call_stranded :
    ∃ (tr : List (StreamEvent String)) (s : EventStream String),
      Run machine (fun _ _ => True) tr s ∧ 0 < calls tr ∧ 0 < (pushed tr).length ∧
        .completed ∈ tr ∧ resolution tr 0 = none ∧ ¬ Lossless tr := by
  have hrun : Run (machine (ε := String)) (fun _ _ => True)
      [.called, .called, .pushed "first", .resolved 1 (.event "first"), .completed]
      { done := true, nextCalls := 2 } := by
    have h₁ : Run (machine (ε := String)) (fun _ _ => True) [.called]
        { waiter := some 0, nextCalls := 1 } := Run.nil.snoc (a := .next) trivial rfl
    have h₂ := h₁.snoc (a := .next) trivial rfl
    have h₃ := h₂.snoc (a := .push "first") trivial rfl
    exact h₃.snoc (a := .complete) trivial rfl
  refine ⟨_, _, hrun, by decide, by decide, by decide, by decide, fun hlossless => ?_⟩
  have hcall : 0 < calls [.called, .called, .pushed "first", .resolved 1 (.event "first"),
      .completed] := by decide
  obtain ⟨result, hres⟩ := hlossless.served hcall (.inr (by decide))
  cases hres

end EventStream

end Signet.Sdk
