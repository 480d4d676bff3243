import Mathlib.Data.List.Basic
import Mathlib.Data.Option.Basic

/-!
# Histories of a register

A register holds a value or none, and is written and read by operations that overlap.
An operation is named by the time it was called; `RegisterEvent` says when a write took
effect on the register, when it returned, and what a read returned.

`Regular v₀ history`: every read returns the value of a write (or the first value `v₀`)
that is not superseded, that is, of a write that no other write has come after, from its
call to its successful return, before the read was called. So a read returns the value of
a last write before it, or of a write that overlaps it.

## Rules

* `Source.LiveAt.append`: what is not superseded before a time stays so.
* `Source.LiveAt.mono`: what is not superseded is not superseded before an earlier time.
* `Regular.append` extends a history by the events of a step.
-/

namespace Lib

variable {ν : Type}

/-- What happens at a register. -/
inductive RegisterEvent (ν : Type) where
  /-- The write has taken effect; `none` removes the value. -/
  | applied (write : Nat) (value : Option ν)
  | writeReturned (write ended : Nat) (ok : Bool)
  | readReturned (read ended : Nat) (value : Option ν)
  deriving DecidableEq

/-- Where a value comes from. -/
inductive Source where
  | initial
  | write (called : Nat)

namespace Source

def Holds (v₀ : Option ν) (history : List (RegisterEvent ν)) (value : Option ν) : Source → Prop
  | initial => value = v₀
  | write w => .applied w value ∈ history

def EndedBefore (history : List (RegisterEvent ν)) (time : Nat) : Source → Prop
  | initial => True
  | write w => ∃ ended ok, .writeReturned w ended ok ∈ history ∧ ended < time

/-- No write that has succeeded before the time was called after the source had
returned. -/
def LiveAt (history : List (RegisterEvent ν)) (time : Nat) (source : Source) : Prop :=
  ∀ w ended, .writeReturned w ended true ∈ history → ended < time →
    ¬ source.EndedBefore history w

end Source

/-- The value is that of a source that is not superseded before the time. -/
def Justified (v₀ : Option ν) (history : List (RegisterEvent ν)) (time : Nat)
    (value : Option ν) : Prop :=
  ∃ source : Source, source.Holds v₀ history value ∧ source.LiveAt history time

/-- **Regularity.** Every read returns a value that is not superseded when it is called. -/
def Regular (v₀ : Option ν) (history : List (RegisterEvent ν)) : Prop :=
  ∀ read ended value, .readReturned read ended value ∈ history →
    Justified v₀ history read value

/-! ### Histories in time -/

/-- Writes return after they are called, and before `now`. -/
def Timely (history : List (RegisterEvent ν)) (now : Nat) : Prop :=
  ∀ w ended ok, .writeReturned w ended ok ∈ history → w < ended ∧ ended < now

section

variable {v₀ : Option ν} {history events : List (RegisterEvent ν)} {now time : Nat}
  {source : Source} {value : Option ν}

theorem Source.Holds.append (h : source.Holds v₀ history value) :
    source.Holds v₀ (history ++ events) value := by
  cases source with
  | initial => exact h
  | write w => exact List.mem_append_left events h

/-- What a step adds has not returned before an earlier time. -/
theorem Source.endedBefore_append
    (hnow : ∀ w ended ok, .writeReturned w ended ok ∈ events → now ≤ ended) (htime : time ≤ now) :
    source.EndedBefore (history ++ events) time ↔ source.EndedBefore history time := by
  cases source with
  | initial => exact Iff.rfl
  | write w =>
    constructor
    · rintro ⟨ended, ok, hmem, hlt⟩
      rcases List.mem_append.1 hmem with hold | hnew
      · exact ⟨ended, ok, hold, hlt⟩
      -- a write that returns now has not returned before the time
      · have hle := hnow w ended ok hnew
        omega
    · rintro ⟨ended, ok, hmem, hlt⟩
      exact ⟨ended, ok, List.mem_append_left events hmem, hlt⟩

theorem Source.LiveAt.append (h : source.LiveAt history time) (htimely : Timely history now)
    (hnow : ∀ w ended ok, .writeReturned w ended ok ∈ events → now ≤ ended) (htime : time ≤ now) :
    source.LiveAt (history ++ events) time := by
  intro w ended hmem hlt hended
  rcases List.mem_append.1 hmem with hold | hnew
  · have hw := htimely w ended true hold
    rw [Source.endedBefore_append hnow (by omega)] at hended
    exact h w ended hold hlt hended
  -- a write of the new events returns after the read has begun
  · have hle := hnow w ended true hnew
    omega

theorem Source.LiveAt.mono (h : source.LiveAt history now) (htime : time ≤ now) :
    source.LiveAt history time :=
  fun w ended hmem hlt => h w ended hmem (Nat.lt_of_lt_of_le hlt htime)

theorem Justified.append (h : Justified v₀ history time value) (htimely : Timely history now)
    (hnow : ∀ w ended ok, .writeReturned w ended ok ∈ events → now ≤ ended) (htime : time ≤ now) :
    Justified v₀ (history ++ events) time value := by
  obtain ⟨source, hholds, hlive⟩ := h
  exact ⟨source, hholds.append, hlive.append htimely hnow htime⟩

theorem Timely.append (h : Timely history now)
    (hnew : ∀ w ended ok, .writeReturned w ended ok ∈ events → w < ended ∧ ended = now) :
    Timely (history ++ events) (now + 1) := by
  intro w ended ok hmem
  rcases List.mem_append.1 hmem with hold | hstep
  · have hw := h w ended ok hold
    omega
  · obtain ⟨hlt, rfl⟩ := hnew w ended ok hstep
    omega

/-- A step keeps a history regular if what its reads return is justified. -/
theorem Regular.append (h : Regular v₀ history) (htimely : Timely history now)
    (hnow : ∀ w ended ok, .writeReturned w ended ok ∈ events → now ≤ ended)
    (hread : ∀ read ended value, .readReturned read ended value ∈ history → read ≤ now)
    (hnew : ∀ read ended value, .readReturned read ended value ∈ events →
      Justified v₀ (history ++ events) read value) : Regular v₀ (history ++ events) := by
  intro read ended value hmem
  rcases List.mem_append.1 hmem with hold | hstep
  · exact (h read ended value hold).append htimely hnow (hread read ended value hold)
  · exact hnew read ended value hstep

end

end Lib
