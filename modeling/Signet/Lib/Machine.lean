import Mathlib.Data.List.Basic
import Mathlib.Logic.Basic
import Mathlib.Logic.Function.Basic

/-!
# Machines, guarded runs and their rules

A `Machine` is a deterministic labelled transition system that reports what it
does: `step s a` either refuses the action `a` or yields the next state together
with the events the step emits, in order. Everything a program learns from
outside (a clock, a reply, a random identifier, the order of two concurrent
calls) is part of the action, so a statement about every run is a statement
about every schedule and every environment.

`Run M ok tr s` says that the trace `tr` and the state `s` are reached by steps
that all satisfy the guard `ok`. A run under `fun _ _ => True` is unrestricted.

## Rules

* `Run.invariant` is the induction rule for a predicate on trace and state.
* `RunFrom` is a run from a given state: `Run.extend` appends one, `RunFrom.invariant` and
  `RunFrom.preserves` are its induction rules; `Run.split` takes a run apart at an event.
* `Run.emitted` finds the step that emitted an event, `Run.mono` weakens the guard.
* `Machine.family` puts independent machines side by side; `Run.component` reads a run
  of the family as a run of each of them.
* `NeverAfter.append` and `EachAfter.append` extend "no `Q`-event after a `P`-event" and "each
  event is justified by what came before it"; `exists_split_of_followedBy` refutes the second.
* `Machine.withTrace` keeps the trace in the state, for guards about the past.
* `exists_run_of_execFrom` and `exists_run_of_exec` turn an execution of a list of actions into a
  run, the second one with a test of its outcome.
-/

namespace Lib

variable {σ α ε : Type}

/-- A deterministic machine: a start state and a partial step that reports
events. -/
structure Machine (σ α ε : Type) where
  /-- The start state. -/
  init : σ
  /-- One step: `none` when the action is not possible in the state. -/
  step : σ → α → Option (σ × List ε)

/-- Traces and states reached by steps that satisfy the guard `ok`. -/
inductive Run (M : Machine σ α ε) (ok : σ → α → Prop) : List ε → σ → Prop
  | nil : Run M ok [] M.init
  | snoc {tr : List ε} {s s' : σ} {a : α} {es : List ε} (hrun : Run M ok tr s)
      (hok : ok s a) (hstep : M.step s a = some (s', es)) : Run M ok (tr ++ es) s'

/-- Traces and states reached from `s₀` by steps that satisfy the guard `ok`. -/
inductive RunFrom (M : Machine σ α ε) (ok : σ → α → Prop) (s₀ : σ) : List ε → σ → Prop
  | nil : RunFrom M ok s₀ [] s₀
  | snoc {tr : List ε} {s s' : σ} {a : α} {es : List ε} (hrun : RunFrom M ok s₀ tr s)
      (hok : ok s a) (hstep : M.step s a = some (s', es)) : RunFrom M ok s₀ (tr ++ es) s'

namespace Machine

/-- Execute a list of actions from `s` under a guard, collecting the events. -/
def execFrom (M : Machine σ α ε) (ok : σ → α → Bool) :
    List ε → σ → List α → Option (List ε × σ)
  | tr, s, [] => some (tr, s)
  | tr, s, a :: as =>
    if ok s a then
      match M.step s a with
      | some (s', es) => M.execFrom ok (tr ++ es) s' as
      | none => none
    else none

/-- The execution of `as` from the start state goes through under the guard, and
its trace and end state pass `p`. -/
def execSatisfies (M : Machine σ α ε) (ok : σ → α → Bool) (as : List α)
    (p : List ε → σ → Bool) : Bool :=
  match M.execFrom ok [] M.init as with
  | some (tr, s) => p tr s
  | none => false

end Machine

variable {M : Machine σ α ε} {ok ok' : σ → α → Prop}

/-! ### Rules for runs -/

/-- **Induction along a run.** The step case may use the run so far. -/
theorem Run.invariant {I : List ε → σ → Prop} (hinit : I [] M.init)
    (hstep : ∀ {tr s a s' es}, Run M ok tr s → I tr s → ok s a →
      M.step s a = some (s', es) → I (tr ++ es) s')
    {tr : List ε} {s : σ} (h : Run M ok tr s) : I tr s := by
  induction h with
  | nil => exact hinit
  | snoc hrun hok hs ih => exact hstep hrun ih hok hs

theorem Run.mono (hle : ∀ s a, ok s a → ok' s a) {tr : List ε} {s : σ}
    (h : Run M ok tr s) : Run M ok' tr s := by
  induction h with
  | nil => exact .nil
  | snoc _ hok hs ih => exact .snoc ih (hle _ _ hok) hs

/-- Every event of a trace was emitted by a step of the run. -/
theorem Run.emitted {tr : List ε} {s : σ} (h : Run M ok tr s) {e : ε} (he : e ∈ tr) :
    ∃ tr₀ s₀ a s₁ es, Run M ok tr₀ s₀ ∧ ok s₀ a ∧ M.step s₀ a = some (s₁, es) ∧ e ∈ es := by
  induction h with
  | nil => simp at he
  | @snoc tr s s' a es hrun hok hs ih =>
    rcases List.mem_append.1 he with hold | hnew
    · exact ih hold
    · exact ⟨tr, s, a, s', es, hrun, hok, hs, hnew⟩

/-! ### Machines side by side -/

section Family

variable {κ : Type} [DecidableEq κ]

/-- The machines `N k` side by side: every step is a step of one of them. -/
def Machine.family (N : κ → Machine σ α ε) : Machine (κ → σ) (κ × α) (κ × ε) where
  init k := (N k).init
  step s a :=
    ((N a.1).step (s a.1) a.2).map fun r => (Function.update s a.1 r.1, r.2.map (Prod.mk a.1))

/-- What happened in the component `k`. -/
def componentTrace (k : κ) (tr : List (κ × ε)) : List ε :=
  tr.filterMap fun e => if e.1 = k then some e.2 else none

theorem componentTrace_self (k : κ) (es : List ε) : componentTrace k (es.map (Prod.mk k)) = es := by
  induction es with
  | nil => rfl
  | cons e es ih =>
    simp only [componentTrace, List.map_cons, List.filterMap_cons, if_true] at ih ⊢
    rw [ih]

theorem componentTrace_of_ne {k k' : κ} (h : k' ≠ k) (es : List ε) :
    componentTrace k (es.map (Prod.mk k')) = [] := by
  refine List.filterMap_eq_nil_iff.2 fun e he => ?_
  obtain ⟨e₀, -, rfl⟩ := List.mem_map.1 he
  exact if_neg h

/-- **A run of the family is a run of each component.** -/
theorem Run.component {N : κ → Machine σ α ε} {P : κ → σ → α → Prop} {tr : List (κ × ε)}
    {s : κ → σ} (h : Run (Machine.family N) (fun s a => P a.1 (s a.1) a.2) tr s) (k : κ) :
    Run (N k) (P k) (componentTrace k tr) (s k) := by
  induction h with
  | nil => exact .nil
  | @snoc tr s s' a es hrun hok hs ih =>
    obtain ⟨⟨s₁, es₁⟩, hstep, hres⟩ := Option.map_eq_some_iff.1 hs
    obtain ⟨rfl, rfl⟩ := Prod.mk.inj hres
    have happend : componentTrace k (tr ++ es₁.map (Prod.mk a.1)) =
        componentTrace k tr ++ componentTrace k (es₁.map (Prod.mk a.1)) :=
      List.filterMap_append
    rw [happend]
    -- only the component that acts moves, and only its trace grows
    by_cases hk : a.1 = k
    · subst hk
      rw [componentTrace_self, Function.update_self]
      exact ih.snoc hok hstep
    · rw [componentTrace_of_ne hk, Function.update_of_ne (Ne.symm hk), List.append_nil]
      exact ih

theorem mem_componentTrace {k : κ} {e : ε} {tr : List (κ × ε)} :
    e ∈ componentTrace k tr ↔ (k, e) ∈ tr := by
  constructor
  · intro he
    obtain ⟨⟨k', e'⟩, hmem, hif⟩ := List.mem_filterMap.1 he
    split at hif
    · next hk =>
      cases hif
      cases hk
      exact hmem
    · cases hif
  · intro he
    exact List.mem_filterMap.2 ⟨(k, e), he, if_pos rfl⟩

end Family

/-! ### Rules for runs from a state -/

theorem RunFrom.single {s s' : σ} {a : α} {es : List ε} (hok : ok s a)
    (hstep : M.step s a = some (s', es)) : RunFrom M ok s es s' := by
  have h := RunFrom.snoc RunFrom.nil hok hstep
  rwa [List.nil_append] at h

theorem RunFrom.trans {s₀ s₁ s₂ : σ} {tr tr' : List ε} (h : RunFrom M ok s₀ tr s₁)
    (h' : RunFrom M ok s₁ tr' s₂) : RunFrom M ok s₀ (tr ++ tr') s₂ := by
  induction h' with
  | nil => rwa [List.append_nil]
  | snoc _ hok hs ih =>
    rw [← List.append_assoc]
    exact ih.snoc hok hs

theorem RunFrom.mono (hle : ∀ s a, ok s a → ok' s a) {s₀ s : σ} {tr : List ε}
    (h : RunFrom M ok s₀ tr s) : RunFrom M ok' s₀ tr s := by
  induction h with
  | nil => exact .nil
  | snoc _ hok hs ih => exact ih.snoc (hle _ _ hok) hs

theorem Run.runFrom {s : σ} {tr : List ε} (h : Run M ok tr s) : RunFrom M ok M.init tr s := by
  induction h with
  | nil => exact .nil
  | snoc _ hok hs ih => exact ih.snoc hok hs

theorem Run.extend {s s' : σ} {tr tr' : List ε} (h : Run M ok tr s)
    (h' : RunFrom M ok s tr' s') : Run M ok (tr ++ tr') s' := by
  induction h' with
  | nil => rwa [List.append_nil]
  | snoc _ hok hs ih =>
    rw [← List.append_assoc]
    exact ih.snoc hok hs

theorem RunFrom.emitted {s₀ s : σ} {tr : List ε} (h : RunFrom M ok s₀ tr s) {e : ε}
    (he : e ∈ tr) :
    ∃ tr₁ s₁ a s₂ es, RunFrom M ok s₀ tr₁ s₁ ∧ ok s₁ a ∧ M.step s₁ a = some (s₂, es) ∧ e ∈ es := by
  induction h with
  | nil => cases he
  | snoc hrun hok hs ih =>
    rcases List.mem_append.1 he with hold | hnew
    · exact ih hold
    · exact ⟨_, _, _, _, _, hrun, hok, hs, hnew⟩

/-- **Induction along a run from a state.** -/
theorem RunFrom.preserves {I : σ → Prop} {s₀ s : σ} {tr : List ε} (h : RunFrom M ok s₀ tr s)
    (hstep : ∀ {s a s' es}, I s → ok s a → M.step s a = some (s', es) → I s') (hinit : I s₀) :
    I s := by
  induction h with
  | nil => exact hinit
  | snoc _ hok hs ih => exact hstep ih hok hs

theorem RunFrom.invariant {I : List ε → σ → Prop} {s₀ s : σ} {tr : List ε}
    (h : RunFrom M ok s₀ tr s)
    (hstep : ∀ {tr s a s' es}, RunFrom M ok s₀ tr s → I tr s → ok s a →
      M.step s a = some (s', es) → I (tr ++ es) s') (hinit : I [] s₀) : I tr s := by
  induction h with
  | nil => exact hinit
  | snoc hrun hok hs ih => exact hstep hrun ih hok hs

theorem Run.split {s : σ} {tr before after : List ε} {e : ε} (h : Run M ok tr s)
    (htr : tr = before ++ e :: after) :
    ∃ tr₀ s₀ a s₁ es₁ es₂ tr₁, Run M ok tr₀ s₀ ∧ ok s₀ a ∧
      M.step s₀ a = some (s₁, es₁ ++ e :: es₂) ∧ RunFrom M ok s₁ tr₁ s ∧
      before = tr₀ ++ es₁ ∧ after = es₂ ++ tr₁ := by
  induction h generalizing after with
  | nil => cases before <;> cases htr
  | @snoc tr s s' a es hrun hok hs ih =>
    -- the event belongs to the last step, or the split is one of the run before
    rcases List.append_eq_append_iff.1 htr with ⟨mid, rfl, hmid⟩ | ⟨mid, htr', hmid⟩
    · exact ⟨tr, s, a, s', mid, after, [], hrun, hok, hmid ▸ hs, .nil, rfl,
        (List.append_nil after).symm⟩
    · cases mid with
      | nil =>
        -- the event is the first one of the last step
        refine ⟨tr, s, a, s', [], after, [], hrun, hok, hmid ▸ hs, .nil, ?_,
          (List.append_nil after).symm⟩
        rw [List.append_nil] at htr' ⊢
        exact htr'.symm
      | cons e' mid =>
        obtain ⟨rfl, rfl⟩ := List.cons.inj hmid
        obtain ⟨tr₀, s₀, a', s₁, es₁, es₂, tr₁, hrun₀, hok', hs₁, hrest, hbefore, rfl⟩ := ih htr'
        refine ⟨tr₀, s₀, a', s₁, es₁, es₂, tr₁ ++ es, hrun₀, hok', hs₁, hrest.snoc hok hs, hbefore,
          List.append_assoc _ _ _⟩

/-! ### Executions are runs -/

private theorem run_of_execFrom {okb : σ → α → Bool} {as : List α} :
    ∀ {tr₀ tr : List ε} {s₀ s : σ}, (∀ a ∈ as, ∀ s, okb s a = true → ok s a) →
      Run M ok tr₀ s₀ → M.execFrom okb tr₀ s₀ as = some (tr, s) → Run M ok tr s := by
  induction as with
  | nil =>
    intro tr₀ tr s₀ s _ hrun hex
    simp only [Machine.execFrom, Option.some.injEq, Prod.mk.injEq] at hex
    obtain ⟨rfl, rfl⟩ := hex
    exact hrun
  | cons a as ih =>
    intro tr₀ tr s₀ s hokb hrun hex
    rw [Machine.execFrom] at hex
    split at hex
    · next hok =>
      split at hex
      · next s' es hs =>
        have htail : ∀ a ∈ as, ∀ s, okb s a = true → ok s a :=
          fun a' ha' => hokb a' (List.mem_cons_of_mem _ ha')
        exact ih htail (hrun.snoc (hokb a List.mem_cons_self s₀ hok) hs) hex
      · simp at hex
    · simp at hex

/-- **An execution is a run.** -/
theorem exists_run_of_execFrom {okb : σ → α → Bool} (as : List α) {tr : List ε}
    (h : (M.execFrom okb [] M.init as).map Prod.fst = some tr) :
    ∃ s, Run M (fun s a => okb s a = true) tr s := by
  obtain ⟨⟨tr', s⟩, hex, rfl⟩ := Option.map_eq_some_iff.1 h
  exact ⟨s, run_of_execFrom (fun _ _ _ h => h) .nil hex⟩

/-- **An execution that passes a test exhibits a run that passes it.** Its guard may say more of
the actions of the list than the execution tests. -/
theorem exists_run_of_exec_of_mem (M : Machine σ α ε) (okb : σ → α → Bool) (ok : σ → α → Prop)
    (as : List α) (p : List ε → σ → Bool) (hok : ∀ a ∈ as, ∀ s, okb s a = true → ok s a)
    (h : M.execSatisfies okb as p = true) : ∃ tr s, Run M ok tr s ∧ p tr s = true := by
  rw [Machine.execSatisfies] at h
  split at h
  · next tr s hex => exact ⟨tr, s, run_of_execFrom hok .nil hex, h⟩
  · simp at h

theorem exists_run_of_exec (M : Machine σ α ε) (okb : σ → α → Bool) (as : List α)
    (p : List ε → σ → Bool) (h : M.execSatisfies okb as p = true) :
    ∃ tr s, Run M (fun s a => okb s a = true) tr s ∧ p tr s = true :=
  exists_run_of_exec_of_mem M okb _ as p (fun _ _ _ h => h) h

theorem exists_run_of_exec_of_forall (M : Machine σ α ε) (ok : σ → α → Prop) (as : List α)
    (p : List ε → σ → Bool) (hok : ∀ a ∈ as, ∀ s, ok s a)
    (h : M.execSatisfies (fun _ _ => true) as p = true) :
    ∃ tr s, Run M ok tr s ∧ p tr s = true :=
  exists_run_of_exec_of_mem M _ ok as p (fun a ha s _ => hok a ha s) h

/-! ### Guards about the past -/

/-- The machine that keeps its trace, for guards that speak about what has happened. -/
def Machine.withTrace (M : Machine σ α ε) : Machine (σ × List ε) α ε where
  init := (M.init, [])
  step p a := (M.step p.1 a).map fun r => ((r.1, p.2 ++ r.2), r.2)

theorem Machine.withTrace_step {p p' : σ × List ε} {a : α} {es : List ε}
    (h : M.withTrace.step p a = some (p', es)) :
    M.step p.1 a = some (p'.1, es) ∧ p'.2 = p.2 ++ es := by
  obtain ⟨r, hstep, heq⟩ := Option.map_eq_some_iff.1 h
  obtain ⟨rfl, rfl⟩ := Prod.mk.inj heq
  exact ⟨hstep, rfl⟩

/-- The trace that is kept is the trace. -/
theorem Run.kept {ok : σ × List ε → α → Prop} {tr : List ε} {p : σ × List ε}
    (h : Run M.withTrace ok tr p) : p.2 = tr := by
  induction h with
  | nil => rfl
  | snoc _ _ hs ih => rw [(Machine.withTrace_step hs).2, ih]

theorem Run.forget {ok : σ × List ε → α → Prop} {tr : List ε} {p : σ × List ε}
    (h : Run M.withTrace ok tr p) : Run M (fun _ _ => True) tr p.1 := by
  induction h with
  | nil => exact .nil
  | snoc _ _ hs ih => exact ih.snoc trivial (Machine.withTrace_step hs).1

/-! ### Order of events in a trace -/

/-- In `tr`, no `Q`-event comes after a `P`-event. -/
def NeverAfter (P Q : ε → Prop) (tr : List ε) : Prop :=
  tr.Pairwise fun e e' => P e → ¬ Q e'

@[simp] theorem neverAfter_nil (P Q : ε → Prop) : NeverAfter P Q [] :=
  List.Pairwise.nil

/-- Without `P`-events nothing is forbidden. -/
theorem neverAfter_of_none {P Q : ε → Prop} {tr : List ε} (h : ∀ e ∈ tr, ¬ P e) :
    NeverAfter P Q tr :=
  List.pairwise_of_forall_mem_list fun e he _ _ hP => absurd hP (h e he)

/-- A step extends `NeverAfter` when its own events are in order and it emits no
`Q`-event once the trace holds a `P`-event. -/
theorem NeverAfter.append {P Q : ε → Prop} {tr es : List ε} (htr : NeverAfter P Q tr)
    (hes : NeverAfter P Q es) (hnew : (∃ e ∈ tr, P e) → ∀ e' ∈ es, ¬ Q e') :
    NeverAfter P Q (tr ++ es) := by
  refine List.pairwise_append.2 ⟨htr, hes, ?_⟩
  intro e he e' he' hP
  exact hnew ⟨e, he, hP⟩ e' he'

theorem exists_of_split {xs ys before after : List ε} {e : ε}
    (h : xs ++ ys = before ++ e :: after) (hxs : e ∉ xs) :
    ∃ mid, before = xs ++ mid ∧ ys = mid ++ e :: after := by
  rcases List.append_eq_append_iff.1 h with ⟨mid, hbefore, hys⟩ | ⟨mid, hxs', hmid⟩
  · exact ⟨mid, hbefore, hys⟩
  · cases mid with
    | nil => exact ⟨[], by rw [hxs', List.append_nil, List.append_nil], hmid.symm⟩
    | cons e' mid =>
      -- the event would be in the first part
      refine absurd ?_ hxs
      rw [hxs', (List.cons.inj hmid).1]
      exact List.mem_append_right before List.mem_cons_self

/-- An event that comes neither in a first part nor right after it comes later. -/
theorem mem_before_of_split {xs ys before after : List ε} {z e : ε}
    (h : xs ++ z :: ys = before ++ e :: after) (hxs : e ∉ xs) (hz : e ≠ z) : z ∈ before := by
  obtain ⟨mid, rfl, hys⟩ := exists_of_split h hxs
  cases mid with
  | nil => exact absurd (List.cons.inj hys).1.symm hz
  | cons z' mid =>
    rw [(List.cons.inj hys).1]
    exact List.mem_append_right xs List.mem_cons_self

/-- What comes before an event that is not in the last part is in the first part. -/
theorem mem_first_of_split {xs ys before after : List ε} {e : ε}
    (h : xs ++ ys = before ++ e :: after) (hys : e ∉ ys) {x : ε} (hx : x ∈ before) : x ∈ xs := by
  rcases List.append_eq_append_iff.1 h with ⟨mid, -, hmid⟩ | ⟨mid, hxs, -⟩
  · refine absurd ?_ hys
    rw [hmid]
    exact List.mem_append_right mid List.mem_cons_self
  · rw [hxs]
    exact List.mem_append_left mid hx

/-- Every event of `tr` is justified by the part of `tr` before it. -/
def EachAfter (P : List ε → ε → Prop) (tr : List ε) : Prop :=
  ∀ before e after, tr = before ++ e :: after → P before e

theorem eachAfter_nil (P : List ε → ε → Prop) : EachAfter P [] := by
  intro before e after h
  cases before <;> cases h

/-- A step extends `EachAfter` when each of its events is justified by the trace up to
it. -/
theorem EachAfter.append {P : List ε → ε → Prop} {tr es : List ε} (htr : EachAfter P tr)
    (hes : ∀ before e after, es = before ++ e :: after → P (tr ++ before) e) :
    EachAfter P (tr ++ es) := by
  intro before e after h
  -- the event is one of the new ones, or an earlier one
  rcases List.append_eq_append_iff.1 h with ⟨mid, rfl, hmid⟩ | ⟨mid, htr', hmid⟩
  · exact hes mid e after hmid
  · cases mid with
    | nil =>
      -- the event is the first one of the step
      rw [List.append_nil] at htr'
      rw [← htr', ← List.append_nil tr]
      exact hes [] e after hmid.symm
    | cons e' rest =>
      obtain ⟨rfl, -⟩ := List.cons.inj hmid
      exact htr before e rest htr'

theorem EachAfter.snoc {P : List ε → ε → Prop} {tr : List ε} {e : ε} (htr : EachAfter P tr)
    (he : P tr e) : EachAfter P (tr ++ [e]) := by
  refine htr.append fun before e' after h => ?_
  cases before with
  | nil =>
    cases h
    rw [List.append_nil]
    exact he
  | cons e₀ rest =>
    have hnil : rest ++ e' :: after = [] := (List.cons.inj h).2.symm
    cases rest <;> cases hnil

/-- After the first event that passes `p`, one passes `q`. -/
def followedBy (p q : ε → Bool) (tr : List ε) : Bool :=
  (tr.dropWhile fun e => !p e).tail.any q

/-- What refutes an `EachAfter`. -/
theorem exists_split_of_followedBy {p q : ε → Bool} {tr : List ε} (h : followedBy p q tr = true) :
    ∃ before e after, tr = before ++ e :: after ∧ q e = true ∧ ∃ e' ∈ before, p e' = true := by
  obtain ⟨e, hmem, hq⟩ := List.any_eq_true.1 h
  cases hdrop : tr.dropWhile fun e => !p e with
  | nil =>
    rw [hdrop] at hmem
    cases hmem
  | cons e' rest =>
    rw [hdrop] at hmem
    obtain ⟨mid, after, hrest⟩ := List.append_of_mem hmem
    have hp : p e' = true := by
      have hne : tr.dropWhile (fun e => !p e) ≠ [] := by
        rw [hdrop]
        exact List.cons_ne_nil _ _
      have hhead := List.head_dropWhile_not (fun e => !p e) hne
      simpa [hdrop] using hhead
    -- the trace is cut at the event, with the first `p` before it
    refine ⟨tr.takeWhile (fun e => !p e) ++ e' :: mid, e, after, ?_, hq, e',
      List.mem_append_right _ List.mem_cons_self, hp⟩
    rw [List.append_assoc, List.cons_append, ← show rest = mid ++ e :: after from hrest, ← hdrop,
      List.takeWhile_append_dropWhile]

end Lib
