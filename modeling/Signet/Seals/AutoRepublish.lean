import Mathlib.Data.List.Basic
import Mathlib.Data.Rat.Defs
import Signet.Schemas.Seal

/-!
# Republishing a seal

`republishToChats` of `auto-republish.ts`: for each chat that was asked for, up to `maxRetries + 1`
calls of `publish`, with a doubling delay between them; a chat other than the seal's is reported as
failed without a call. The results of `publish` are an input, the result of the `n`-th call for
every `n`, and the log holds the delays and the calls in order.

A chat id may be asked for more than once, so the accounts are about its occurrences: the log says
for which position of the list a call was made. `republishToChats_accounted` follows from what one
retry loop does (`Retries`), by induction on the chats.
-/

namespace Signet

structure AutoRepublishConfig where
  maxRetries : Option Nat := none
  initialDelayMs : Option Rat := none

structure RepublishFailure where
  chatId : String
  error : SignetError
  deriving DecidableEq

/-- What `republishToChats` does besides returning its result: it waits, and calls `publish` with a
chat id and the seal. `occurrence` is the position of the chat id in the list of chats. -/
inductive RepublishStep where
  | waited (delay : Rat)
  | published (occurrence : Nat) (chatId : String) (result : Result Unit)

/-- The variables of `republishToChats`, with the log. -/
structure RepublishState where
  succeeded : List String := []
  failed : List RepublishFailure := []
  lastError : Option SignetError := none
  log : List RepublishStep := []

/-- The result of a call of `publish`, if the step is one for the given occurrence. -/
def RepublishStep.attemptAt (occurrence : Nat) : RepublishStep → Option (Result Unit)
  | .published at' _ result => if at' = occurrence then some result else none
  | .waited _ => none

/-- The results of the calls for one occurrence, in order. -/
def attemptsAt (log : List RepublishStep) (occurrence : Nat) : List (Result Unit) :=
  log.filterMap (RepublishStep.attemptAt occurrence)

/-- How many calls of `publish` the log holds. -/
def publishCount : List RepublishStep → Nat
  | [] => 0
  | .published _ _ _ :: log => publishCount log + 1
  | .waited _ :: log => publishCount log

/-- The result of a call of `publish`. -/
def RepublishStep.result? : RepublishStep → Option (Result Unit)
  | .published _ _ result => some result
  | .waited _ => none

section Code

-- the result of the `n`-th call of `publish`
variable (publish : Nat → Result Unit)

/-- The inner loop: `remaining` is `maxRetries + 1 - attempt`. -/
def attemptChat (occurrence : Nat) (chatId : String) :
    Nat → Nat → Rat → RepublishState → RepublishState
  | 0, _, _, st => st
  | remaining + 1, attempt, delay, st =>
    let st₁ := if attempt > 0 then { st with log := st.log ++ [.waited delay] } else st
    let delay₁ := if attempt > 0 then delay * 2 else delay
    let result := publish (publishCount st₁.log)
    let st₂ := { st₁ with log := st₁.log ++ [RepublishStep.published occurrence chatId result] }
    match result with
    | .ok () => { st₂ with succeeded := st₂.succeeded ++ [chatId], lastError := none }
    | .error error =>
      attemptChat occurrence chatId remaining (attempt + 1) delay₁
        { st₂ with lastError := some error }

/-- The error for a chat that is not the seal's. -/
def chatMismatchError : SignetError :=
  .validationError "chatId" "Seal chatId does not match target chat"

/-- One turn of the outer loop. -/
def republishChat (maxRetries : Nat) (initialDelay : Rat) (envelope : SealEnvelope)
    (occurrence : Nat) (chatId : String) (st : RepublishState) : RepublishState :=
  if envelope.chain.current.chatId ≠ chatId then
    { st with failed := st.failed ++ [⟨chatId, chatMismatchError⟩] }
  else
    let st₁ := attemptChat publish occurrence chatId (maxRetries + 1) 0 initialDelay
      { st with lastError := none }
    match st₁.lastError with
    | some error => { st₁ with failed := st₁.failed ++ [⟨chatId, error⟩] }
    | none => st₁

/-- The outer loop from the position `occurrence`. -/
def republishFrom (maxRetries : Nat) (initialDelay : Rat) (envelope : SealEnvelope) :
    Nat → List String → RepublishState → RepublishState
  | _, [], st => st
  | occurrence, chatId :: chatIds, st =>
    republishFrom maxRetries initialDelay envelope (occurrence + 1) chatIds
      (republishChat publish maxRetries initialDelay envelope occurrence chatId st)

/-- `config?.maxRetries ?? 3`. -/
def retryLimit (config : Option AutoRepublishConfig) : Nat :=
  (config.bind (·.maxRetries)).getD 3

/-- `republishToChats`, with the log of what it did. -/
def republishToChats (chatIds : List String) (envelope : SealEnvelope)
    (config : Option AutoRepublishConfig) : RepublishState :=
  let initialDelay := (config.bind (·.initialDelayMs)).getD 1000
  republishFrom publish (retryLimit config) initialDelay envelope 0 chatIds {}

end Code

/-! ### What must be accounted for -/

/-- One of the attempts for the occurrence returned `Ok`. -/
def SucceededAt (log : List RepublishStep) (occurrence : Nat) : Prop :=
  .ok () ∈ attemptsAt log occurrence

instance (log : List RepublishStep) (occurrence : Nat) : Decidable (SucceededAt log occurrence) :=
  inferInstanceAs (Decidable (_ ∈ _))

/-- The results in the log are those of the calls `called`, `called + 1`, … of `publish`. -/
def Answered (publish : Nat → Result Unit) (called : Nat) (log : List RepublishStep) : Prop :=
  log.filterMap RepublishStep.result? = (List.range' called (publishCount log)).map publish

/-- The accounts of a list of chats whose first one has the position `start`, when `publish` has
been called `called` times before. -/
structure Accounted (publish : Nat → Result Unit) (called : Nat) (envelope : SealEnvelope)
    (maxRetries start : Nat) (chatIds : List String) (log : List RepublishStep)
    (succeeded : List String) (failed : List RepublishFailure) : Prop where
  /-- The results are what `publish` has returned, one after the other. -/
  answered : Answered publish called log
  /-- `succeeded` holds the occurrences with an attempt that returned `Ok`, in input order, -/
  succeeded_eq : succeeded =
    ((chatIds.zipIdx start).filter fun c => decide (SucceededAt log c.2)).map Prod.fst
  /-- and `failed` the other ones. -/
  failed_eq : failed.map (·.chatId) =
    ((chatIds.zipIdx start).filter fun c => !decide (SucceededAt log c.2)).map Prod.fst
  /-- A failed occurrence of the seal's chat was tried as often as the limit allows. -/
  exhausted : ∀ {occurrence : Nat},
    (envelope.chain.current.chatId, occurrence) ∈ chatIds.zipIdx start →
    ¬ SucceededAt log occurrence → (attemptsAt log occurrence).length = maxRetries + 1
  /-- No attempt follows a success. -/
  stops : ∀ {occurrence : Nat} {before after : List (Result Unit)},
    attemptsAt log occurrence = before ++ .ok () :: after → after = []
  /-- `publish` is only called for occurrences of the seal's chat. -/
  own : ∀ {occurrence : Nat} {chatId : String} {result : Result Unit},
    .published occurrence chatId result ∈ log →
      chatId = envelope.chain.current.chatId ∧ (chatId, occurrence) ∈ chatIds.zipIdx start

/-! ### One retry loop -/

/-- Nothing follows the first `Ok`. -/
def StopsAtSuccess (attempts : List (Result Unit)) : Prop :=
  ∀ before after, attempts = before ++ .ok () :: after → after = []

theorem stopsAtSuccess_of_not_mem {attempts : List (Result Unit)} (h : .ok () ∉ attempts) :
    StopsAtSuccess attempts := by
  intro before after heq
  refine absurd ?_ h
  rw [heq]
  exact List.mem_append_right before List.mem_cons_self

theorem stopsAtSuccess_cons_error {attempts : List (Result Unit)} (h : StopsAtSuccess attempts)
    (error : SignetError) : StopsAtSuccess (.error error :: attempts) := by
  intro before after heq
  cases before with
  | nil => cases (List.cons.inj heq).1
  | cons first before => exact h before after (List.cons.inj heq).2

@[simp] theorem attemptsAt_append (log new : List RepublishStep) (occurrence : Nat) :
    attemptsAt (log ++ new) occurrence = attemptsAt log occurrence ++ attemptsAt new occurrence :=
  List.filterMap_append

theorem attemptsAt_eq_nil {log : List RepublishStep} {occurrence : Nat}
    (h : ∀ {at' : Nat} {chatId : String} {result : Result Unit},
      .published at' chatId result ∈ log → at' ≠ occurrence) :
    attemptsAt log occurrence = [] := by
  refine List.filterMap_eq_nil_iff.2 fun step hmem => ?_
  cases step with
  | waited delay => rfl
  | published at' chatId result => exact if_neg (h hmem)

theorem publishCount_append (log new : List RepublishStep) :
    publishCount (log ++ new) = publishCount log + publishCount new := by
  induction log with
  | nil => exact (Nat.zero_add _).symm
  | cons step log ih =>
    cases step with
    | waited delay => exact ih
    | published at' chatId result =>
      rw [List.cons_append, publishCount, publishCount, ih]
      omega

/-- The later calls are numbered on from the earlier ones. -/
theorem Answered.append {publish : Nat → Result Unit} {called : Nat} {log new : List RepublishStep}
    (h : Answered publish called log) (hnew : Answered publish (called + publishCount log) new) :
    Answered publish called (log ++ new) := by
  unfold Answered at *
  rw [List.filterMap_append, h, hnew, ← List.map_append, publishCount_append,
    List.range'_append_1]

/-- What a loop over the attempts for one occurrence does to the variables, with what it adds to the
log. -/
structure Retries (publish : Nat → Result Unit) (occurrence : Nat) (chatId : String)
    (remaining : Nat) (st st' : RepublishState) (new : List RepublishStep) : Prop where
  log_eq : st'.log = st.log ++ new
  answered : Answered publish (publishCount st.log) new
  failed_eq : st'.failed = st.failed
  /-- All calls are for this occurrence. -/
  own : ∀ {at' : Nat} {chat : String} {result : Result Unit},
    .published at' chat result ∈ new → at' = occurrence ∧ chat = chatId
  stops : StopsAtSuccess (attemptsAt new occurrence)
  succeeded : SucceededAt new occurrence →
    st'.succeeded = st.succeeded ++ [chatId] ∧ st'.lastError = none
  exhausted : ¬ SucceededAt new occurrence → st'.succeeded = st.succeeded ∧
    (attemptsAt new occurrence).length = remaining ∧
    (0 < remaining ∨ st.lastError.isSome → st'.lastError.isSome)

variable (publish : Nat → Result Unit) (occurrence : Nat) (chatId : String)

/-- The steps of one attempt: the delay, if it is not the first one, and the call. -/
def attemptSteps (occurrence : Nat) (chatId : String) (attempt : Nat) (delay : Rat)
    (result : Result Unit) : List RepublishStep :=
  (if attempt > 0 then [.waited delay] else []) ++ [.published occurrence chatId result]

theorem attemptsAt_attemptSteps (attempt : Nat) (delay : Rat) (result : Result Unit) :
    attemptsAt (attemptSteps occurrence chatId attempt delay result) occurrence = [result] := by
  have hcall : attemptsAt [.published occurrence chatId result] occurrence = [result] := by
    simp [attemptsAt, RepublishStep.attemptAt]
  unfold attemptSteps
  rw [attemptsAt_append, hcall]
  split <;> rfl

/-- One attempt makes one call. -/
theorem publishCount_attemptSteps (attempt : Nat) (delay : Rat) (result : Result Unit) :
    publishCount (attemptSteps occurrence chatId attempt delay result) = 1 := by
  unfold attemptSteps
  rw [publishCount_append]
  split <;> rfl

theorem answered_attemptSteps (called attempt : Nat) (delay : Rat) :
    Answered publish called
      (attemptSteps occurrence chatId attempt delay (publish called)) := by
  unfold Answered
  rw [publishCount_attemptSteps]
  unfold attemptSteps
  split <;> rfl

theorem eq_of_mem_attemptSteps {occurrence : Nat} {chatId : String} {attempt : Nat} {delay : Rat}
    {result : Result Unit} {at' : Nat} {chat : String} {result' : Result Unit}
    (h : .published at' chat result' ∈ attemptSteps occurrence chatId attempt delay result) :
    at' = occurrence ∧ chat = chatId := by
  unfold attemptSteps at h
  rcases List.mem_append.1 h with hdelay | hcall
  · split at hdelay
    · cases List.mem_singleton.1 hdelay
    · cases hdelay
  · cases List.mem_singleton.1 hcall
    exact ⟨rfl, rfl⟩

theorem attemptChat_succ (remaining attempt : Nat) (delay : Rat) (st : RepublishState) :
    ∃ delay₁ : Rat,
      attemptChat publish occurrence chatId (remaining + 1) attempt delay st =
        match publish (publishCount st.log) with
        | .ok () =>
          { st with
            log := st.log ++ attemptSteps occurrence chatId attempt delay (.ok ())
            succeeded := st.succeeded ++ [chatId]
            lastError := none }
        | .error error =>
          attemptChat publish occurrence chatId remaining (attempt + 1) delay₁
            { st with
              log := st.log ++ attemptSteps occurrence chatId attempt delay (.error error)
              lastError := some error } := by
  rw [attemptChat]
  unfold attemptSteps
  by_cases hattempt : attempt > 0
  · refine ⟨delay * 2, ?_⟩
    -- the delay is no call, so the attempt has the number it would have without it
    have hcount : publishCount (st.log ++ [.waited delay]) = publishCount st.log := by
      rw [publishCount_append]
      rfl
    simp only [if_pos hattempt, ← List.append_assoc, hcount]
    cases publish (publishCount st.log) <;> rfl
  · refine ⟨delay, ?_⟩
    simp only [if_neg hattempt, List.nil_append]
    cases publish (publishCount st.log) <;> rfl

theorem attemptChat_retries (remaining attempt : Nat) (delay : Rat) (st : RepublishState) :
    ∃ new, Retries publish occurrence chatId remaining st
      (attemptChat publish occurrence chatId remaining attempt delay st) new := by
  induction remaining generalizing attempt delay st with
  | zero =>
    refine ⟨[], (List.append_nil _).symm, rfl, rfl, fun hmem => absurd hmem List.not_mem_nil,
      stopsAtSuccess_of_not_mem List.not_mem_nil, fun hsome => absurd hsome List.not_mem_nil,
      fun _ => ⟨rfl, rfl, fun hor => ?_⟩⟩
    exact hor.resolve_left (Nat.lt_irrefl 0)
  | succ remaining ih =>
    obtain ⟨delay₁, heq⟩ :=
      attemptChat_succ publish occurrence chatId remaining attempt delay st
    have hanswered :=
      answered_attemptSteps publish occurrence chatId (publishCount st.log) attempt delay
    rw [heq]
    cases hresult : publish (publishCount st.log) with
    | ok value =>
      have hsteps := attemptsAt_attemptSteps occurrence chatId attempt delay (.ok value)
      rw [hresult] at hanswered
      -- the last attempt of the loop
      refine ⟨attemptSteps occurrence chatId attempt delay (.ok value), rfl, hanswered, rfl,
        eq_of_mem_attemptSteps, ?_, fun _ => ⟨rfl, rfl⟩, fun hnot => absurd ?_ hnot⟩
      · rw [hsteps]
        intro before after heq
        cases before with
        | nil => exact (List.cons.inj heq).2.symm
        | cons first before =>
          have hnil := (List.cons.inj heq).2
          exact absurd hnil.symm (by simp)
      · show .ok () ∈ attemptsAt _ occurrence
        rw [hsteps]
        exact List.mem_singleton.2 rfl
    | error error =>
      have hsteps := attemptsAt_attemptSteps occurrence chatId attempt delay (.error error)
      rw [hresult] at hanswered
      -- the attempt has left its error, and the rest of the loop goes on
      obtain ⟨new, hrest⟩ := ih (attempt + 1) delay₁
        { st with
          log := st.log ++ attemptSteps occurrence chatId attempt delay (.error error)
          lastError := some error }
      have hattempts : attemptsAt (attemptSteps occurrence chatId attempt delay (.error error) ++
          new) occurrence = .error error :: attemptsAt new occurrence := by
        rw [attemptsAt_append, hsteps]
        rfl
      have hsucceeded : SucceededAt (attemptSteps occurrence chatId attempt delay (.error error) ++
          new) occurrence ↔ SucceededAt new occurrence := by
        unfold SucceededAt
        rw [hattempts, List.mem_cons]
        exact or_iff_right (by simp)
      refine ⟨attemptSteps occurrence chatId attempt delay (.error error) ++ new, ?_,
        hanswered.append ?_, hrest.failed_eq, fun hmem => ?_, ?_, fun hsome => ?_,
        fun hnot => ?_⟩
      · rw [hrest.log_eq, List.append_assoc]
      · rw [← publishCount_append]
        exact hrest.answered
      · rcases List.mem_append.1 hmem with hfirst | hlater
        · exact eq_of_mem_attemptSteps hfirst
        · exact hrest.own hlater
      · rw [hattempts]
        exact stopsAtSuccess_cons_error hrest.stops error
      · exact hrest.succeeded (hsucceeded.1 hsome)
      · obtain ⟨hsame, hlength, herror⟩ := hrest.exhausted fun hsome => hnot (hsucceeded.2 hsome)
        refine ⟨hsame, ?_, fun _ => herror (.inr rfl)⟩
        rw [hattempts, List.length_cons, hlength]

/-! ### One chat -/

/-- What one turn of the outer loop does, with what it adds to the log. -/
structure Turn (publish : Nat → Result Unit) (envelope : SealEnvelope)
    (maxRetries occurrence : Nat) (chatId : String) (st st' : RepublishState)
    (new : List RepublishStep) : Prop where
  log_eq : st'.log = st.log ++ new
  answered : Answered publish (publishCount st.log) new
  own : ∀ {at' : Nat} {chat : String} {result : Result Unit}, .published at' chat result ∈ new →
    at' = occurrence ∧ chat = chatId ∧ chatId = envelope.chain.current.chatId
  stops : StopsAtSuccess (attemptsAt new occurrence)
  succeeded : SucceededAt new occurrence →
    st'.succeeded = st.succeeded ++ [chatId] ∧ st'.failed = st.failed
  failed : ¬ SucceededAt new occurrence → st'.succeeded = st.succeeded ∧
    ∃ error, st'.failed = st.failed ++ [⟨chatId, error⟩]
  exhausted : ¬ SucceededAt new occurrence → chatId = envelope.chain.current.chatId →
    (attemptsAt new occurrence).length = maxRetries + 1

theorem republishChat_turn (maxRetries : Nat) (initialDelay : Rat) (envelope : SealEnvelope)
    (st : RepublishState) :
    ∃ new, Turn publish envelope maxRetries occurrence chatId st
      (republishChat publish maxRetries initialDelay envelope occurrence chatId st) new := by
  unfold republishChat
  by_cases hchat : envelope.chain.current.chatId = chatId
  · rw [if_neg (not_not.2 hchat)]
    obtain ⟨new, hretries⟩ := attemptChat_retries publish occurrence chatId
      (maxRetries + 1) 0 initialDelay { st with lastError := none }
    have hown : ∀ {at' : Nat} {chat : String} {result : Result Unit},
        .published at' chat result ∈ new →
          at' = occurrence ∧ chat = chatId ∧ chatId = envelope.chain.current.chatId :=
      fun hmem => ⟨(hretries.own hmem).1, (hretries.own hmem).2, hchat.symm⟩
    by_cases hsome : SucceededAt new occurrence
    · -- the last attempt has cleared the error
      obtain ⟨hsucceeded, hnone⟩ := hretries.succeeded hsome
      dsimp only
      rw [hnone]
      exact ⟨new, hretries.log_eq, hretries.answered, hown, hretries.stops,
        fun _ => ⟨hsucceeded, hretries.failed_eq⟩, fun hnot => absurd hsome hnot,
        fun hnot => absurd hsome hnot⟩
    · obtain ⟨hsucceeded, hlength, herror⟩ := hretries.exhausted hsome
      obtain ⟨error, herror⟩ := Option.isSome_iff_exists.1 (herror (.inl (Nat.succ_pos _)))
      dsimp only
      rw [herror]
      refine ⟨new, hretries.log_eq, hretries.answered, hown, hretries.stops,
        fun hyes => absurd hyes hsome, fun _ => ⟨hsucceeded, error, ?_⟩, fun _ _ => hlength⟩
      show _ ++ _ = _
      rw [hretries.failed_eq]
  · -- a chat other than the seal's is not tried at all
    rw [if_pos hchat]
    have hnot : ¬ SucceededAt [] occurrence := List.not_mem_nil
    exact ⟨[], (List.append_nil _).symm, rfl, fun hmem => absurd hmem List.not_mem_nil,
      stopsAtSuccess_of_not_mem List.not_mem_nil, fun hyes => absurd hyes hnot,
      fun _ => ⟨rfl, chatMismatchError, rfl⟩, fun _ heq => absurd heq.symm hchat⟩

/-! ### All chats -/

theorem republishFrom_accounted (maxRetries : Nat) (initialDelay : Rat) (envelope : SealEnvelope)
    (chatIds : List String) (start : Nat) (st : RepublishState) :
    ∃ new succeeded failed,
      (republishFrom publish maxRetries initialDelay envelope start chatIds st).log =
        st.log ++ new ∧
      (republishFrom publish maxRetries initialDelay envelope start chatIds st).succeeded =
        st.succeeded ++ succeeded ∧
      (republishFrom publish maxRetries initialDelay envelope start chatIds st).failed =
        st.failed ++ failed ∧
      Accounted publish (publishCount st.log) envelope maxRetries start chatIds new succeeded
        failed := by
  induction chatIds generalizing start st with
  | nil =>
    refine ⟨[], [], [], (List.append_nil _).symm, (List.append_nil _).symm,
      (List.append_nil _).symm, rfl, rfl, rfl, fun hmem => absurd hmem List.not_mem_nil,
      fun {occurrence before after} => stopsAtSuccess_of_not_mem List.not_mem_nil before after,
      fun hmem => absurd hmem List.not_mem_nil⟩
  | cons chatId chatIds ih =>
    obtain ⟨first, hturn⟩ :=
      republishChat_turn publish start chatId maxRetries initialDelay envelope st
    obtain ⟨new, succeeded, failed, hlog, hsucceeded, hfailed, hrest⟩ := ih (start + 1)
      (republishChat publish maxRetries initialDelay envelope start chatId st)
    have hanswered : Answered publish (publishCount st.log) (first ++ new) := by
      have hlater := hrest.answered
      rw [hturn.log_eq, publishCount_append] at hlater
      exact hturn.answered.append hlater
    rw [republishFrom, hlog, hsucceeded, hfailed, hturn.log_eq, List.append_assoc]
    -- the calls of this turn are for its own occurrence, the later ones for later occurrences
    have hnow : attemptsAt (first ++ new) start = attemptsAt first start := by
      have hnone : attemptsAt new start = [] := attemptsAt_eq_nil fun hmem heq => by
        have hle := (List.mem_zipIdx (hrest.own hmem).2).1
        omega
      rw [attemptsAt_append, hnone, List.append_nil]
    have hlater : ∀ {occurrence : Nat}, occurrence ≠ start →
        attemptsAt (first ++ new) occurrence = attemptsAt new occurrence := by
      intro occurrence hne
      have hnone : attemptsAt first occurrence = [] := attemptsAt_eq_nil fun hmem heq =>
        hne (heq ▸ (hturn.own hmem).1)
      rw [attemptsAt_append, hnone, List.nil_append]
    have hne : ∀ {c : String × Nat}, c ∈ chatIds.zipIdx (start + 1) → c.2 ≠ start := by
      intro c hmem
      have hle := (List.mem_zipIdx hmem).1
      omega
    have hfirst : SucceededAt (first ++ new) start ↔ SucceededAt first start := by
      unfold SucceededAt
      rw [hnow]
    have hsame : ∀ {c : String × Nat}, c ∈ chatIds.zipIdx (start + 1) →
        decide (SucceededAt (first ++ new) c.2) = decide (SucceededAt new c.2) := by
      intro c hmem
      refine decide_eq_decide.2 ?_
      unfold SucceededAt
      rw [hlater (hne hmem)]
    have hyes : (chatIds.zipIdx (start + 1)).filter
        (fun c => decide (SucceededAt (first ++ new) c.2)) =
        (chatIds.zipIdx (start + 1)).filter fun c => decide (SucceededAt new c.2) :=
      List.filter_congr fun c hmem => hsame hmem
    have hno : (chatIds.zipIdx (start + 1)).filter
        (fun c => !decide (SucceededAt (first ++ new) c.2)) =
        (chatIds.zipIdx (start + 1)).filter fun c => !decide (SucceededAt new c.2) :=
      List.filter_congr fun c hmem => by rw [hsame hmem]
    have hexhausted : ∀ {occurrence : Nat},
        (envelope.chain.current.chatId, occurrence) ∈ (chatId :: chatIds).zipIdx start →
        ¬ SucceededAt (first ++ new) occurrence →
        (attemptsAt (first ++ new) occurrence).length = maxRetries + 1 := by
      intro occurrence hmem hnot
      rw [List.zipIdx_cons] at hmem
      rcases List.mem_cons.1 hmem with hhead | htail
      · obtain ⟨hchat, rfl⟩ := Prod.mk.inj hhead
        rw [hnow]
        exact hturn.exhausted (fun hyes => hnot (hfirst.2 hyes)) hchat.symm
      · unfold SucceededAt at hnot
        rw [hlater (hne htail)] at hnot ⊢
        exact hrest.exhausted htail hnot
    have hstops : ∀ {occurrence : Nat} {before after : List (Result Unit)},
        attemptsAt (first ++ new) occurrence = before ++ .ok () :: after → after = [] := by
      intro occurrence before after heq
      by_cases hstart : occurrence = start
      · subst hstart
        rw [hnow] at heq
        exact hturn.stops before after heq
      · rw [hlater hstart] at heq
        exact hrest.stops heq
    have hown : ∀ {occurrence : Nat} {chat : String} {result : Result Unit},
        .published occurrence chat result ∈ first ++ new →
          chat = envelope.chain.current.chatId ∧
            (chat, occurrence) ∈ (chatId :: chatIds).zipIdx start := by
      intro occurrence chat result hmem
      rw [List.zipIdx_cons]
      rcases List.mem_append.1 hmem with hhead | htail
      · obtain ⟨rfl, rfl, hchat⟩ := hturn.own hhead
        exact ⟨hchat, List.mem_cons_self⟩
      · exact ⟨(hrest.own htail).1, List.mem_cons_of_mem _ (hrest.own htail).2⟩
    by_cases hsome : SucceededAt first start
    · obtain ⟨hst, hstFailed⟩ := hturn.succeeded hsome
      refine ⟨first ++ new, chatId :: succeeded, failed, rfl, ?_, by rw [hstFailed], hanswered,
        ?_, ?_, hexhausted, hstops, hown⟩
      · rw [hst, List.append_assoc]
        rfl
      · rw [List.zipIdx_cons, List.filter_cons_of_pos (by simp [hfirst.2 hsome]),
          List.map_cons, hyes, ← hrest.succeeded_eq]
      · rw [List.zipIdx_cons, List.filter_cons_of_neg (by simp [hfirst.2 hsome]), hno,
          ← hrest.failed_eq]
    · obtain ⟨hst, error, hstFailed⟩ := hturn.failed hsome
      have hnot : ¬ SucceededAt (first ++ new) start := fun hyes => hsome (hfirst.1 hyes)
      refine ⟨first ++ new, succeeded, ⟨chatId, error⟩ :: failed, rfl, by rw [hst], ?_, hanswered,
        ?_, ?_, hexhausted, hstops, hown⟩
      · rw [hstFailed, List.append_assoc]
        rfl
      · rw [List.zipIdx_cons, List.filter_cons_of_neg (by simp [hnot]), hyes,
          ← hrest.succeeded_eq]
      · rw [List.zipIdx_cons, List.filter_cons_of_pos (by simp [hnot]), List.map_cons,
          List.map_cons, hno, ← hrest.failed_eq]

/-- **Every occurrence of every chat is accounted for**, whatever `publish` returns. -/
theorem republishToChats_accounted (publish : Nat → Result Unit) (chatIds : List String)
    (envelope : SealEnvelope) (config : Option AutoRepublishConfig) :
    Accounted publish 0 envelope (retryLimit config) 0 chatIds
      (republishToChats publish chatIds envelope config).log
      (republishToChats publish chatIds envelope config).succeeded
      (republishToChats publish chatIds envelope config).failed := by
  obtain ⟨new, succeeded, failed, hlog, hsucceeded, hfailed, haccounted⟩ :=
    republishFrom_accounted publish (retryLimit config)
      ((config.bind (·.initialDelayMs)).getD 1000) envelope chatIds 0 {}
  unfold republishToChats
  rw [hlog, hsucceeded, hfailed]
  exact haccounted

end Signet
