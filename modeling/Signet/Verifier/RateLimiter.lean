import Mathlib.Algebra.Order.Ring.Rat
import Mathlib.Data.List.TakeWhile
import Mathlib.Tactic.Linarith
import Signet.Lib.Machine
import Signet.Lib.OrdMap

/-!
# The rate limiter of the verifier

`createRateLimiter` of `rate-limiter.ts`: for each requester, the times of the accepted checks that
were still in the window when the requester asked last. A run is a sequence of checks under a clock
that does not go back.

What is stored is a final part of the times that were accepted, and what is missing was too old at
some earlier check (`Inv.kept`); so the length of what is left after the eviction is the number of
accepted checks in the window, and the limiter decides by the exact count
(`rateLimiter_exact`).
-/

namespace Signet.Verifier

open Lib

structure RateLimiterConfig where
  maxRequests : Nat
  windowMs : Rat

abbrev Timestamps := OrdMap String (List Rat)

def evict (windowStart : Rat) (entries : List Rat) : List Rat :=
  match entries.findIdx? fun t => decide (windowStart ≤ t) with
  | some firstValid => if firstValid > 0 then entries.drop firstValid else entries
  | none => if entries.length > 0 then [] else entries

/-- `check`, at the time `now` of the clock. -/
def check (config : RateLimiterConfig) (timestamps : Timestamps) (requesterId : String)
    (now : Rat) : Timestamps × Bool :=
  let windowStart := now - config.windowMs
  match timestamps.get? requesterId with
  | none => (timestamps.set requesterId [now], true)
  | some stored =>
    let entries := evict windowStart stored
    if entries.length = 0 then ((timestamps.erase requesterId).set requesterId [now], true)
    else if entries.length ≥ config.maxRequests then (timestamps.set requesterId entries, false)
    else (timestamps.set requesterId (entries ++ [now]), true)

/-- A check that was made, with its answer. -/
structure Checked where
  requesterId : String
  now : Rat
  allowed : Bool
  deriving DecidableEq

/-- A rate limiter and its requesters: the actions are checks with the time of the clock. -/
def rateLimiter (config : RateLimiterConfig) : Machine Timestamps (String × Rat) Checked where
  init := OrdMap.empty
  step timestamps a :=
    let result := check config timestamps a.1 a.2
    some (result.1, [⟨a.1, a.2, result.2⟩])

/-- The clock does not go back. -/
def ClockAdvances (p : Timestamps × List Checked) (a : String × Rat) : Prop :=
  ∀ e ∈ p.2, e.now ≤ a.2

/-! ### What a trace says -/

def accepted (tr : List Checked) (requesterId : String) : List Rat :=
  (tr.filter fun e => e.requesterId = requesterId ∧ e.allowed = true).map (·.now)

/-- How many of the times lie in `[first, last]`. -/
def countIn (times : List Rat) (first last : Rat) : Nat :=
  times.countP fun t => decide (first ≤ t ∧ t ≤ last)

theorem accepted_append (tr es : List Checked) (requesterId : String) :
    accepted (tr ++ es) requesterId = accepted tr requesterId ++ accepted es requesterId := by
  unfold accepted
  rw [List.filter_append, List.map_append]

theorem countIn_append (times times' : List Rat) (first last : Rat) :
    countIn (times ++ times') first last = countIn times first last + countIn times' first last :=
  List.countP_append

/-- Times before the window do not count. -/
theorem countIn_eq_zero {times : List Rat} {first last : Rat} (h : ∀ t ∈ times, t < first) :
    countIn times first last = 0 := by
  refine List.countP_eq_zero.2 fun t hmem hin => ?_
  exact absurd (of_decide_eq_true hin).1 (not_le.2 (h t hmem))

theorem countIn_eq_length {times : List Rat} {first last : Rat} (h : ∀ t ∈ times, first ≤ t)
    (h' : ∀ t ∈ times, t ≤ last) : countIn times first last = times.length := by
  refine List.countP_eq_length.2 fun t hmem => ?_
  exact decide_eq_true ⟨h t hmem, h' t hmem⟩

/-- A window with an earlier beginning counts no less, if nothing lies behind it. -/
theorem countIn_mono {times : List Rat} {first first' last last' : Rat} (hfirst : first' ≤ first)
    (hlast : ∀ t ∈ times, t ≤ last') :
    countIn times first last ≤ countIn times first' last' := by
  refine List.countP_mono_left fun t hmem hin => ?_
  exact decide_eq_true ⟨hfirst.trans (of_decide_eq_true hin).1, hlast t hmem⟩

/-! ### Eviction -/

theorem evict_eq (windowStart : Rat) (entries : List Rat) :
    evict windowStart entries = entries.dropWhile fun t => decide (t < windowStart) := by
  have hdrop : ∀ l : List Rat, (match l.findIdx? fun t => decide (windowStart ≤ t) with
      | some firstValid => l.drop firstValid
      | none => []) = l.dropWhile fun t => decide (t < windowStart) := by
    intro l
    induction l with
    | nil => rfl
    | cons t l ih =>
      rw [List.findIdx?_cons]
      by_cases ht : windowStart ≤ t
      · rw [if_pos (decide_eq_true ht), List.dropWhile_cons_of_neg (by simp [ht])]
        rfl
      · rw [if_neg (by simp [ht]), List.dropWhile_cons_of_pos (by simpa using ht), ← ih]
        cases l.findIdx? fun t => decide (windowStart ≤ t) <;> rfl
  rw [← hdrop]
  unfold evict
  cases entries.findIdx? fun t => decide (windowStart ≤ t) with
  | none =>
    cases entries with
    | nil => rfl
    | cons t entries => rfl
  | some firstValid =>
    cases firstValid with
    | zero => rfl
    | succ n => rfl

/-- What is left of entries in the order of time is in the window. -/
theorem le_of_mem_evict {windowStart : Rat} {entries : List Rat}
    (hsorted : entries.Pairwise (· ≤ ·)) {t : Rat} (h : t ∈ evict windowStart entries) :
    windowStart ≤ t := by
  rw [evict_eq] at h
  induction entries with
  | nil => cases h
  | cons first entries ih =>
    obtain ⟨hfirst, hrest⟩ := List.pairwise_cons.1 hsorted
    by_cases hlt : first < windowStart
    · rw [List.dropWhile_cons_of_pos (by simpa using hlt)] at h
      exact ih hrest h
    · rw [List.dropWhile_cons_of_neg (by simpa using hlt)] at h
      have hle : windowStart ≤ first := not_lt.1 hlt
      rcases List.mem_cons.1 h with rfl | hmem
      · exact hle
      · exact hle.trans (hfirst t hmem)

theorem exists_evicted (windowStart : Rat) (entries : List Rat) :
    ∃ evicted, entries = evicted ++ evict windowStart entries ∧ ∀ t ∈ evicted, t < windowStart := by
  refine ⟨entries.takeWhile fun t => decide (t < windowStart), ?_, fun t hmem => ?_⟩
  · rw [evict_eq, List.takeWhile_append_dropWhile]
  · exact of_decide_eq_true (List.mem_takeWhile_imp (p := fun t => decide (t < windowStart)) hmem)

/-! ### One check -/

/-- The times that are stored for a requester. -/
def entriesOf (timestamps : Timestamps) (requesterId : String) : List Rat :=
  (timestamps.get? requesterId).getD []

/-- What is left for a requester after the eviction. -/
def leftOf (config : RateLimiterConfig) (timestamps : Timestamps) (requesterId : String)
    (now : Rat) : List Rat :=
  evict (now - config.windowMs) (entriesOf timestamps requesterId)

variable {config : RateLimiterConfig}

/-- What a check does, by its result. -/
structure CheckSpec (config : RateLimiterConfig) (timestamps : Timestamps) (requesterId : String)
    (now : Rat) (result : Timestamps × Bool) : Prop where
  /-- It decides by the number of entries that are left, -/
  rejected_iff : result.2 = false ↔
    config.maxRequests ≤ (leftOf config timestamps requesterId now).length
  /-- stores its time behind them if it is accepted, -/
  entries_eq : entriesOf result.1 requesterId =
    leftOf config timestamps requesterId now ++ (bif result.2 then [now] else [])
  /-- and leaves the other requesters alone. -/
  others : ∀ {other : String}, other ≠ requesterId →
    result.1.get? other = timestamps.get? other

theorem check_spec (hmax : 1 ≤ config.maxRequests) (timestamps : Timestamps)
    (requesterId : String) (now : Rat) :
    CheckSpec config timestamps requesterId now (check config timestamps requesterId now) := by
  have hleft : leftOf config timestamps requesterId now =
      evict (now - config.windowMs) ((timestamps.get? requesterId).getD []) := rfl
  unfold check
  cases hget : timestamps.get? requesterId with
  | none =>
    have hnil : leftOf config timestamps requesterId now = [] := by
      rw [hleft, hget]
      rfl
    have hnot : ¬ config.maxRequests ≤ ([] : List Rat).length := Nat.not_le.2 hmax
    refine ⟨?_, ?_, fun hne => OrdMap.get?_set_of_ne _ _ hne⟩
    · rw [hnil]
      exact ⟨fun h => absurd h (by simp), fun h => absurd h hnot⟩
    · unfold entriesOf
      rw [OrdMap.get?_set_self, hnil]
      rfl
  | some stored =>
    rw [hget, Option.getD_some] at hleft
    dsimp only
    rw [← hleft]
    by_cases hempty : (leftOf config timestamps requesterId now).length = 0
    · have hnot : ¬ config.maxRequests ≤ (leftOf config timestamps requesterId now).length := by
        omega
      rw [if_pos hempty]
      refine ⟨⟨fun h => absurd h (by simp), fun h => absurd h hnot⟩, ?_, fun hne => ?_⟩
      · unfold entriesOf
        rw [OrdMap.get?_set_self, List.length_eq_zero_iff.1 hempty]
        rfl
      · dsimp only
        rw [OrdMap.get?_set_of_ne _ _ hne, OrdMap.get?_erase_of_ne _ hne]
    · rw [if_neg hempty]
      by_cases hfull : (leftOf config timestamps requesterId now).length ≥ config.maxRequests
      · rw [if_pos hfull]
        refine ⟨⟨fun _ => hfull, fun _ => rfl⟩, ?_, fun hne => OrdMap.get?_set_of_ne _ _ hne⟩
        unfold entriesOf
        rw [OrdMap.get?_set_self]
        exact (List.append_nil _).symm
      · rw [if_neg hfull]
        refine ⟨⟨fun h => absurd h (by simp), fun h => absurd h hfull⟩, ?_,
          fun hne => OrdMap.get?_set_of_ne _ _ hne⟩
        unfold entriesOf
        rw [OrdMap.get?_set_self]
        rfl

/-! ### Every run -/

/-- What holds of the trace and the map in every run. -/
structure Inv (config : RateLimiterConfig) (tr : List Checked) (timestamps : Timestamps) :
    Prop where
  /-- The clock did not go back. -/
  sorted : tr.Pairwise fun e e' => e.now ≤ e'.now
  /-- What is not stored any more was too old at some check. -/
  kept : ∀ requesterId, ∃ evicted,
    accepted tr requesterId = evicted ++ entriesOf timestamps requesterId ∧
      ∀ t ∈ evicted, ∃ e ∈ tr, t < e.now - config.windowMs
  bounded : ∀ requesterId t,
    countIn (accepted tr requesterId) (t - config.windowMs) t ≤ config.maxRequests

theorem inv_init : Inv config [] OrdMap.empty where
  sorted := .nil
  kept _ := ⟨[], rfl, fun _ hmem => absurd hmem List.not_mem_nil⟩
  bounded _ _ := Nat.zero_le _

variable {tr : List Checked} {timestamps : Timestamps}

theorem sorted_accepted (h : tr.Pairwise fun e e' => e.now ≤ e'.now) (requesterId : String) :
    (accepted tr requesterId).Pairwise (· ≤ ·) :=
  List.pairwise_map.2 (h.sublist List.filter_sublist)

theorem le_of_mem_accepted {now : Rat} (h : ∀ e ∈ tr, e.now ≤ now) {requesterId : String} {t : Rat}
    (hmem : t ∈ accepted tr requesterId) : t ≤ now := by
  obtain ⟨e, he, rfl⟩ := List.mem_map.1 hmem
  exact h e (List.mem_of_mem_filter he)

/-- **What is left is what was accepted in the window**, behind times that are too old. -/
theorem Inv.left (h : Inv config tr timestamps) {now : Rat} (hnow : ∀ e ∈ tr, e.now ≤ now)
    (requesterId : String) :
    (∃ evicted, accepted tr requesterId = evicted ++ leftOf config timestamps requesterId now ∧
      ∀ t ∈ evicted, t < now - config.windowMs) ∧
    countIn (accepted tr requesterId) (now - config.windowMs) now =
      (leftOf config timestamps requesterId now).length := by
  obtain ⟨evicted, haccepted, hevicted⟩ := h.kept requesterId
  obtain ⟨evictedNow, hentries, hevictedNow⟩ := exists_evicted (now - config.windowMs)
    (entriesOf timestamps requesterId)
  have hsplit : accepted tr requesterId =
      (evicted ++ evictedNow) ++ leftOf config timestamps requesterId now := by
    rw [List.append_assoc]
    unfold leftOf
    rw [← hentries, haccepted]
  have hold : ∀ t ∈ evicted ++ evictedNow, t < now - config.windowMs := by
    intro t hmem
    rcases List.mem_append.1 hmem with hearlier | hnew
    · -- what was too old at an earlier check is too old now
      obtain ⟨e, he, hlt⟩ := hevicted t hearlier
      have hle := hnow e he
      linarith
    · exact hevictedNow t hnew
  have hsorted : (entriesOf timestamps requesterId).Pairwise (· ≤ ·) := by
    have hall := sorted_accepted h.sorted requesterId
    rw [haccepted] at hall
    exact (List.pairwise_append.1 hall).2.1
  refine ⟨⟨_, hsplit, hold⟩, ?_⟩
  rw [hsplit, countIn_append, countIn_eq_zero hold, Nat.zero_add]
  refine countIn_eq_length (fun t hmem => le_of_mem_evict hsorted hmem) fun t hmem => ?_
  have haccepted : t ∈ accepted tr requesterId := by
    rw [hsplit]
    exact List.mem_append_right _ hmem
  exact le_of_mem_accepted hnow haccepted

/-- The event of a check. -/
def checkedOf (config : RateLimiterConfig) (timestamps : Timestamps) (requesterId : String)
    (now : Rat) : Checked :=
  ⟨requesterId, now, (check config timestamps requesterId now).2⟩

/-- The accepted times after one check. -/
theorem accepted_check (requesterId other : String) (now : Rat) :
    accepted (tr ++ [checkedOf config timestamps requesterId now]) other = accepted tr other ++
      (if requesterId = other ∧ (check config timestamps requesterId now).2 = true then [now]
        else []) := by
  rw [accepted_append]
  congr 1
  unfold accepted checkedOf
  by_cases h : requesterId = other ∧ (check config timestamps requesterId now).2 = true
  · rw [if_pos h, List.filter_cons_of_pos (by simpa using h)]
    rfl
  · rw [if_neg h, List.filter_cons_of_neg (by simpa using h)]
    rfl

/-- **A check is rejected when the window is full**, and only then. -/
theorem Inv.rejected_iff (h : Inv config tr timestamps) (hmax : 1 ≤ config.maxRequests) {now : Rat}
    (hnow : ∀ e ∈ tr, e.now ≤ now) (requesterId : String) :
    (check config timestamps requesterId now).2 = false ↔
      countIn (accepted tr requesterId) (now - config.windowMs) now = config.maxRequests := by
  have hcount := (h.left hnow requesterId).2
  have hbounded := h.bounded requesterId now
  rw [(check_spec hmax timestamps requesterId now).rejected_iff, hcount]
  omega

theorem Inv.step (h : Inv config tr timestamps) (hmax : 1 ≤ config.maxRequests)
    {requesterId : String} {now : Rat} (hnow : ∀ e ∈ tr, e.now ≤ now) :
    Inv config (tr ++ [checkedOf config timestamps requesterId now])
      (check config timestamps requesterId now).1 := by
  have hspec := check_spec hmax timestamps requesterId now
  have hrejected := h.rejected_iff hmax hnow requesterId
  refine ⟨?_, fun other => ?_, fun other t => ?_⟩
  · refine List.pairwise_append.2 ⟨h.sorted, List.pairwise_singleton _ _, fun e he e' he' => ?_⟩
    rw [List.mem_singleton.1 he']
    exact hnow e he
  · rw [accepted_check]
    by_cases hother : requesterId = other
    · -- the evicted entries are older than the window of this check
      subst hother
      obtain ⟨⟨evicted, haccepted, hold⟩, -⟩ := h.left hnow requesterId
      refine ⟨evicted, ?_, fun t hmem =>
        ⟨_, List.mem_append_right _ (List.mem_singleton.2 rfl), hold t hmem⟩⟩
      rw [haccepted, hspec.entries_eq, List.append_assoc]
      congr 2
      cases (check config timestamps requesterId now).2 <;> simp
    · obtain ⟨evicted, haccepted, hold⟩ := h.kept other
      have hsame : entriesOf (check config timestamps requesterId now).1 other =
          entriesOf timestamps other := by
        unfold entriesOf
        rw [hspec.others (Ne.symm hother)]
      refine ⟨evicted, ?_, fun t hmem => ?_⟩
      · rw [if_neg fun hand => hother hand.1, List.append_nil, hsame]
        exact haccepted
      · obtain ⟨e, he, hlt⟩ := hold t hmem
        exact ⟨e, List.mem_append_left _ he, hlt⟩
  · rw [accepted_check, countIn_append]
    have hbounded := h.bounded other t
    by_cases hadded : requesterId = other ∧ (check config timestamps requesterId now).2 = true
    · obtain ⟨rfl, hallowed⟩ := hadded
      rw [if_pos ⟨rfl, hallowed⟩]
      by_cases hin : t - config.windowMs ≤ now ∧ now ≤ t
      · -- the window at `now` holds what the window at `t` holds, and was not full
        have hle : countIn (accepted tr requesterId) (t - config.windowMs) t ≤
            countIn (accepted tr requesterId) (now - config.windowMs) now := by
          refine countIn_mono (by linarith [hin.2]) fun a hmem => ?_
          exact le_of_mem_accepted hnow hmem
        have hnotFull : countIn (accepted tr requesterId) (now - config.windowMs) now ≠
            config.maxRequests := by
          intro hfull
          rw [hrejected.2 hfull] at hallowed
          cases hallowed
        have hroom := h.bounded requesterId now
        have hone : countIn [now] (t - config.windowMs) t ≤ 1 := List.countP_le_length
        omega
      · have hzero : countIn [now] (t - config.windowMs) t = 0 := by
          refine List.countP_eq_zero.2 fun a hmem => ?_
          rw [List.mem_singleton.1 hmem]
          simpa using hin
        omega
    · rw [if_neg hadded]
      exact hbounded

theorem inv_of_run (hmax : 1 ≤ config.maxRequests) {p : Timestamps × List Checked}
    (h : Run (rateLimiter config).withTrace ClockAdvances tr p) : Inv config tr p.1 := by
  refine h.invariant (I := fun tr p => Inv config tr p.1) inv_init
    fun {tr p a p' es} hrun hinv hok hstep => ?_
  obtain ⟨hcheck, -⟩ := Machine.withTrace_step hstep
  obtain ⟨hmap, hes⟩ := Prod.mk.inj (Option.some.inj hcheck)
  have hnow : ∀ e ∈ tr, e.now ≤ a.2 := hrun.kept ▸ hok
  rw [← hmap, ← hes]
  exact hinv.step hmax hnow

/-- What is rejected is decided by the trace before it. -/
theorem rejected_iff_of_run (hmax : 1 ≤ config.maxRequests) {p : Timestamps × List Checked}
    (h : Run (rateLimiter config).withTrace ClockAdvances tr p) :
    EachAfter (fun before e => e.allowed = false ↔
      countIn (accepted before e.requesterId) (e.now - config.windowMs) e.now =
        config.maxRequests) tr := by
  refine h.invariant (I := fun tr _ => EachAfter _ tr) (eachAfter_nil _)
    fun {tr p a p' es} hrun heach hok hstep => ?_
  obtain ⟨hcheck, -⟩ := Machine.withTrace_step hstep
  obtain ⟨-, hes⟩ := Prod.mk.inj (Option.some.inj hcheck)
  have hnow : ∀ e ∈ tr, e.now ≤ a.2 := hrun.kept ▸ hok
  rw [← hes]
  exact heach.snoc ((inv_of_run hmax hrun).rejected_iff hmax hnow a.1)

/-! ### Requesters do not affect each other -/

theorem check_congr (hmax : 1 ≤ config.maxRequests) {timestamps' : Timestamps}
    {requesterId : String}
    (h : entriesOf timestamps requesterId = entriesOf timestamps' requesterId) (now : Rat) :
    checkedOf config timestamps requesterId now = checkedOf config timestamps' requesterId now ∧
    entriesOf (check config timestamps requesterId now).1 requesterId =
      entriesOf (check config timestamps' requesterId now).1 requesterId := by
  have hleft : leftOf config timestamps requesterId now =
      leftOf config timestamps' requesterId now := by
    unfold leftOf
    rw [h]
  have hspec := check_spec hmax timestamps requesterId now
  have hspec' := check_spec hmax timestamps' requesterId now
  have hanswer : (check config timestamps requesterId now).2 =
      (check config timestamps' requesterId now).2 := by
    have hiff := hspec.rejected_iff
    rw [hleft, ← hspec'.rejected_iff] at hiff
    exact Bool.eq_iff_iff.2 (by simpa using not_congr hiff)
  refine ⟨?_, ?_⟩
  · unfold checkedOf
    rw [hanswer]
  · rw [hspec.entries_eq, hspec'.entries_eq, hleft, hanswer]

/-- The checks of one requester, with their answers, are a run of their own. -/
theorem exists_run_of_requester (hmax : 1 ≤ config.maxRequests)
    {p : Timestamps × List Checked}
    (h : Run (rateLimiter config).withTrace ClockAdvances tr p) (requesterId : String) :
    ∃ p', Run (rateLimiter config).withTrace ClockAdvances
        (tr.filter fun e => e.requesterId = requesterId) p' ∧
      entriesOf p.1 requesterId = entriesOf p'.1 requesterId := by
  refine h.invariant (I := fun tr p => ∃ p', Run (rateLimiter config).withTrace ClockAdvances
      (tr.filter fun e => e.requesterId = requesterId) p' ∧
        entriesOf p.1 requesterId = entriesOf p'.1 requesterId)
    ⟨_, .nil, rfl⟩ fun {tr p a p' es} hrun ⟨q, hq, hsame⟩ hok hstep => ?_
  obtain ⟨hcheck, -⟩ := Machine.withTrace_step hstep
  obtain ⟨hmap, hes⟩ := Prod.mk.inj (Option.some.inj hcheck)
  have hnow : ∀ e ∈ tr, e.now ≤ a.2 := hrun.kept ▸ hok
  rw [← hmap, ← hes, List.filter_append]
  by_cases hrequester : a.1 = requesterId
  · -- the same check in the run of the requester has the same answer
    subst hrequester
    obtain ⟨hevent, hentries⟩ := check_congr hmax hsame a.2
    have hown : List.filter (fun e : Checked => e.requesterId = a.1)
        [⟨a.1, a.2, (check config p.1 a.1 a.2).2⟩] = [checkedOf config q.1 a.1 a.2] := by
      rw [← hevent, List.filter_cons_of_pos (by simp)]
      rfl
    have hclock : ClockAdvances q a := by
      intro e hmem
      rw [hq.kept] at hmem
      exact hnow e (List.mem_of_mem_filter hmem)
    rw [hown]
    exact ⟨_, hq.snoc hclock rfl, hentries⟩
  · have hnone : List.filter (fun e : Checked => e.requesterId = requesterId)
        [⟨a.1, a.2, (check config p.1 a.1 a.2).2⟩] = [] := by
      rw [List.filter_cons_of_neg (by simpa using hrequester)]
      rfl
    have hother : entriesOf (check config p.1 a.1 a.2).1 requesterId =
        entriesOf p.1 requesterId := by
      unfold entriesOf
      rw [(check_spec hmax p.1 a.1 a.2).others (Ne.symm hrequester)]
    rw [hnone, List.append_nil]
    exact ⟨q, hq, hother.trans hsame⟩

/-- **The limiter decides by the exact count of the window.** No window of the configured length
holds more than `maxRequests` accepted checks of a requester, a check is rejected exactly when the
window that ends with it is full, and what one requester is answered does not depend on the others:
its checks are a run of their own. -/
theorem rateLimiter_exact (hmax : 1 ≤ config.maxRequests) {p : Timestamps × List Checked}
    (h : Run (rateLimiter config).withTrace ClockAdvances tr p) :
    (∀ requesterId t, countIn (accepted tr requesterId) (t - config.windowMs) t ≤
      config.maxRequests) ∧
    (∀ before e after, tr = before ++ e :: after →
      (e.allowed = false ↔
        countIn (accepted before e.requesterId) (e.now - config.windowMs) e.now =
          config.maxRequests)) ∧
    ∀ requesterId, ∃ p', Run (rateLimiter config).withTrace ClockAdvances
      (tr.filter fun e => e.requesterId = requesterId) p' := by
  refine ⟨(inv_of_run hmax h).bounded, rejected_iff_of_run hmax h, fun requesterId => ?_⟩
  obtain ⟨p', hrun, -⟩ := exists_run_of_requester hmax h requesterId
  exact ⟨p', hrun⟩

/-- Alice is rejected while her first request is in the window, and not any more when it has been
evicted; Bob is not affected. -/
theorem rateLimiter_exact_twoRequesters :
    countIn (accepted [⟨"alice", 0, true⟩, ⟨"bob", 5, true⟩] "alice") (10 - 10) 10 = 1 ∧
      countIn (accepted [⟨"alice", 0, true⟩, ⟨"bob", 5, true⟩, ⟨"alice", 10, false⟩,
        ⟨"alice", 11, true⟩] "alice") (11 - 10) 11 ≤ 1 := by
  have hrun : ∃ p, Run (rateLimiter ⟨1, 10⟩).withTrace
      (fun p a => (p.2.all fun e => decide (e.now ≤ a.2)) = true)
      [⟨"alice", 0, true⟩, ⟨"bob", 5, true⟩, ⟨"alice", 10, false⟩, ⟨"alice", 11, true⟩] p :=
    exists_run_of_execFrom [("alice", 0), ("bob", 5), ("alice", 10), ("alice", 11)]
      (by decide +kernel)
  obtain ⟨p, hrun⟩ := hrun
  have hexact := rateLimiter_exact (Nat.le_refl 1) (hrun.mono fun _ _ hclock e hmem =>
    of_decide_eq_true (List.all_eq_true.1 hclock e hmem))
  exact ⟨(hexact.2.1 [_, _] ⟨"alice", 10, false⟩ [_] rfl).1 rfl, hexact.1 "alice" 11⟩

end Signet.Verifier
