import Mathlib.Data.List.Basic
import Mathlib.Tactic.Common

/-!
# Computations that log their calls

`Logged χ ε α` is the outcome of a program that calls out to its environment: the
calls of type `χ` it has made, in order, and how it ended, in a value or an error.
An error ends the program but keeps the calls made before it. The answers of the
environment are not part of the type: a program takes them as arguments.

## Rules

* `Logged.calls_bind`: the calls of a sequence, split by how its first part ends.
* `Logged.value_bind_ok`: a sequence succeeds exactly if both parts do.
* `Logged.AllCalls` with `AllCalls.bind`: what holds of every call of the parts
  holds of every call of the sequence.
* `Logged.Undoes` with `Undoes.bind`: a sequence of parts that undo what was done before
  them when they fail.
-/

namespace Lib

/-- The calls a program has made and how it ended. -/
structure Logged (χ ε α : Type) where
  /-- The calls, in order. -/
  calls : List χ
  /-- A value, or the error that ended the program. -/
  value : Except ε α

namespace Logged

variable {χ ε α β : Type}

/-- The program that has a value and makes no calls. -/
def ok (a : α) : Logged χ ε α := ⟨[], .ok a⟩

/-- The program that ends in an error and makes no calls. -/
def fail (e : ε) : Logged χ ε α := ⟨[], .error e⟩

/-- A pure step that may fail. -/
def ofExcept (value : Except ε α) : Logged χ ε α := ⟨[], value⟩

/-- One call with the answer of the environment. -/
def call (c : χ) (answer : Except ε α) : Logged χ ε α := ⟨[c], answer⟩

/-- A call whose answer does not end the program. -/
def attempt (c : χ) (answer : Except ε α) : Logged χ ε (Except ε α) := ⟨[c], .ok answer⟩

/-- Run `f` on the value of `x`, if there is one. -/
def bind (x : Logged χ ε α) (f : α → Logged χ ε β) : Logged χ ε β :=
  match x.value with
  | .error e => ⟨x.calls, .error e⟩
  | .ok a => ⟨x.calls ++ (f a).calls, (f a).value⟩

instance : Monad (Logged χ ε) where
  pure := ok
  bind := bind

/-! ### Equations -/

@[simp] theorem calls_ok (a : α) : (ok a : Logged χ ε α).calls = [] := rfl
@[simp] theorem value_ok (a : α) : (ok a : Logged χ ε α).value = .ok a := rfl
@[simp] theorem calls_pure (a : α) : (pure a : Logged χ ε α).calls = [] := rfl
@[simp] theorem value_pure (a : α) : (pure a : Logged χ ε α).value = .ok a := rfl
@[simp] theorem calls_fail (e : ε) : (fail e : Logged χ ε α).calls = [] := rfl
@[simp] theorem value_fail (e : ε) : (fail e : Logged χ ε α).value = .error e := rfl
@[simp] theorem calls_ofExcept (v : Except ε α) : (ofExcept v : Logged χ ε α).calls = [] := rfl
@[simp] theorem value_ofExcept (v : Except ε α) : (ofExcept v : Logged χ ε α).value = v := rfl
@[simp] theorem calls_call (c : χ) (v : Except ε α) : (call c v).calls = [c] := rfl
@[simp] theorem value_call (c : χ) (v : Except ε α) : (call c v).value = v := rfl
@[simp] theorem calls_attempt (c : χ) (v : Except ε α) : (attempt c v).calls = [c] := rfl
@[simp] theorem value_attempt (c : χ) (v : Except ε α) : (attempt c v).value = .ok v := rfl

/-- The calls of a sequence: those of the first part, and those of the second part
if it is reached. -/
theorem calls_bind (x : Logged χ ε α) (f : α → Logged χ ε β) :
    (x >>= f).calls = x.calls ++ match x.value with
      | .error _ => []
      | .ok a => (f a).calls := by
  show (bind x f).calls = _
  unfold bind
  cases x.value with
  | error e => simp
  | ok a => rfl

theorem calls_bind_of_error {x : Logged χ ε α} {e : ε} (h : x.value = .error e)
    (f : α → Logged χ ε β) : (x >>= f).calls = x.calls := by
  rw [calls_bind, h, List.append_nil]

theorem calls_bind_of_ok {x : Logged χ ε α} {a : α} (h : x.value = .ok a)
    (f : α → Logged χ ε β) : (x >>= f).calls = x.calls ++ (f a).calls := by
  rw [calls_bind, h]

theorem mem_calls_bind_left {x : Logged χ ε α} {f : α → Logged χ ε β} {c : χ} (h : c ∈ x.calls) :
    c ∈ (x >>= f).calls := by
  rw [calls_bind]
  exact List.mem_append_left _ h

theorem mem_calls_bind_right {x : Logged χ ε α} {f : α → Logged χ ε β} {a : α} {c : χ}
    (hx : x.value = .ok a) (h : c ∈ (f a).calls) : c ∈ (x >>= f).calls := by
  rw [calls_bind_of_ok hx]
  exact List.mem_append_right _ h

/-- Behind a check calls are made exactly if the check passes and the rest makes some. -/
theorem calls_ofExcept_bind_ne_nil {v : Except ε α} {f : α → Logged χ ε β} :
    (ofExcept v >>= f).calls ≠ [] ↔ ∃ a, v = .ok a ∧ (f a).calls ≠ [] := by
  rw [calls_bind, calls_ofExcept, value_ofExcept, List.nil_append]
  cases v with
  | error e => simp
  | ok a => simp

theorem value_bind (x : Logged χ ε α) (f : α → Logged χ ε β) :
    (x >>= f).value = x.value >>= fun a => (f a).value := by
  show (bind x f).value = _
  unfold bind
  cases x.value with
  | error e => rfl
  | ok a => rfl

/-- **A sequence succeeds exactly if both parts do.** -/
theorem value_bind_ok {x : Logged χ ε α} {f : α → Logged χ ε β} {b : β} :
    (x >>= f).value = .ok b ↔ ∃ a, x.value = .ok a ∧ (f a).value = .ok b := by
  show (bind x f).value = .ok b ↔ _
  unfold bind
  cases x.value with
  | error e => simp
  | ok a => simp

/-! ### A property of every call -/

/-- Every call the program makes satisfies `P`. -/
def AllCalls (P : χ → Prop) (x : Logged χ ε α) : Prop :=
  ∀ c ∈ x.calls, P c

variable {P : χ → Prop}

theorem AllCalls.ok (a : α) : (Logged.ok a : Logged χ ε α).AllCalls P :=
  fun _ hc => absurd hc List.not_mem_nil

theorem AllCalls.fail (e : ε) : (Logged.fail e : Logged χ ε α).AllCalls P :=
  fun _ hc => absurd hc List.not_mem_nil

theorem AllCalls.ofExcept (v : Except ε α) : (Logged.ofExcept v : Logged χ ε α).AllCalls P :=
  fun _ hc => absurd hc List.not_mem_nil

theorem allCalls_call {c : χ} {v : Except ε α} : (call c v).AllCalls P ↔ P c := by
  simp [AllCalls]

theorem allCalls_attempt {c : χ} {v : Except ε α} : (attempt c v).AllCalls P ↔ P c := by
  simp [AllCalls]

/-- **The rule for sequences.** -/
theorem AllCalls.bind {x : Logged χ ε α} {f : α → Logged χ ε β} (hx : x.AllCalls P)
    (hf : ∀ a, x.value = .ok a → (f a).AllCalls P) : (x >>= f).AllCalls P := by
  intro c hc
  rw [calls_bind, List.mem_append] at hc
  rcases hc with hc | hc
  · exact hx c hc
  · -- the call is one of the second part, so the first part has a value
    cases hv : x.value with
    | error e => rw [hv] at hc; exact absurd hc List.not_mem_nil
    | ok a => rw [hv] at hc; exact hf a hv c hc

/-- A sequence whose first part makes no calls satisfies `P` exactly if the part it
reaches does. -/
theorem allCalls_bind_of_silent {x : Logged χ ε α} {f : α → Logged χ ε β} (hx : x.calls = []) :
    (x >>= f).AllCalls P ↔ ∀ a, x.value = .ok a → (f a).AllCalls P := by
  constructor
  · intro h a ha c hc
    refine h c ?_
    rw [calls_bind_of_ok ha, hx]
    exact hc
  · intro h
    refine AllCalls.bind (fun c hc => ?_) h
    rw [hx] at hc
    exact absurd hc List.not_mem_nil

/-- A last part whose calls satisfy `P` anyway does not matter. -/
theorem allCalls_bind_of_tail {x : Logged χ ε α} {f : α → Logged χ ε β}
    (hf : ∀ a, (f a).AllCalls P) : (x >>= f).AllCalls P ↔ x.AllCalls P := by
  constructor
  · intro h c hc
    refine h c ?_
    rw [calls_bind]
    exact List.mem_append_left _ hc
  · exact fun h => h.bind fun a _ => hf a

theorem AllCalls.mono {Q : χ → Prop} {x : Logged χ ε α} (h : x.AllCalls P)
    (hle : ∀ c, P c → Q c) : x.AllCalls Q :=
  fun c hc => hle c (h c hc)

/-! ### Undoing -/

/-- **Undoing on failure.** The calls satisfy `P`, but for a call of `undo` that ends the
program exactly if it fails. -/
structure Undoes (P : χ → Prop) (undo : χ) (x : Logged χ ε α) : Prop where
  ok : ∀ a, x.value = .ok a → x.AllCalls P
  error : ∀ e, x.value = .error e → ∃ before, x.calls = before ++ [undo] ∧ ∀ c ∈ before, P c

variable {undo : χ}

/-- **The rule for sequences.** -/
theorem Undoes.bind {x : Logged χ ε α} {f : α → Logged χ ε β} (hx : x.Undoes P undo)
    (hf : ∀ a, x.value = .ok a → (f a).Undoes P undo) : (x >>= f).Undoes P undo := by
  constructor
  · intro b hvalue
    obtain ⟨a, ha, hb⟩ := value_bind_ok.1 hvalue
    exact (hx.ok a ha).bind fun a' ha' => by
      obtain rfl := Except.ok.inj (ha.symm.trans ha')
      exact (hf a ha).ok b hb
  · intro e hvalue
    rw [value_bind] at hvalue
    cases ha : x.value with
    | error e' =>
      -- the first part has failed and undone
      rw [calls_bind_of_error ha]
      exact hx.error e' ha
    | ok a =>
      rw [ha] at hvalue
      obtain ⟨before, hcalls, hbefore⟩ := (hf a ha).error e hvalue
      refine ⟨x.calls ++ before, ?_, fun c hc => ?_⟩
      · rw [calls_bind_of_ok ha, hcalls, List.append_assoc]
      · rcases List.mem_append.1 hc with hc | hc
        · exact hx.ok a ha c hc
        · exact hbefore c hc

theorem Undoes.mono {Q : χ → Prop} {x : Logged χ ε α} (h : x.Undoes P undo)
    (hle : ∀ c, P c → Q c) : x.Undoes Q undo where
  ok a ha := (h.ok a ha).mono hle
  error e he := by
    obtain ⟨before, hcalls, hbefore⟩ := h.error e he
    exact ⟨before, hcalls, fun c hc => hle c (hbefore c hc)⟩

end Logged

end Lib
