import Mathlib.Tactic.Common

/-!
# Checks in sequence

Inversion rules for programs in `Except`: a sequence of checks succeeds exactly if each
of them does, and renaming errors does not change which programs succeed.
-/

namespace Lib

variable {ε ε' α β : Type}

/-- **A sequence succeeds exactly if both parts do.** -/
theorem bind_eq_ok {x : Except ε α} {f : α → Except ε β} {b : β} :
    (x >>= f) = .ok b ↔ ∃ a, x = .ok a ∧ f a = .ok b := by
  cases x with
  | error e =>
    constructor
    · intro h
      cases h
    · rintro ⟨_, h, _⟩
      cases h
  | ok a =>
    constructor
    · exact fun h => ⟨a, rfl, h⟩
    · rintro ⟨_, h, hf⟩
      obtain rfl := Except.ok.inj h
      exact hf

@[simp] theorem ok_bind {a : α} {f : α → Except ε β} : (Except.ok a >>= f) = f a := rfl

@[simp] theorem error_bind {e : ε} {f : α → Except ε β} :
    (Except.error e >>= f) = .error e := rfl

theorem map_eq_ok {x : Except ε α} {f : α → β} {b : β} :
    x.map f = .ok b ↔ ∃ a, x = .ok a ∧ f a = b := by
  cases x with
  | error e => simp [Except.map]
  | ok a => simp [Except.map]

/-- Programs that end by wrapping their results are the same if those are. -/
theorem bind_ok_inj {f : α → β} (hf : f.Injective) {x y : Except ε α} :
    (x >>= fun a => .ok (f a)) = (y >>= fun a => .ok (f a)) ↔ x = y := by
  constructor
  · intro h
    cases x with
    | error e =>
      cases y with
      | error e' => exact congrArg Except.error (Except.error.inj h)
      | ok b => cases h
    | ok a =>
      cases y with
      | error e' => cases h
      | ok b => exact congrArg Except.ok (hf (Except.ok.inj h))
  · intro h
    rw [h]

@[simp] theorem mapError_ok {f : ε → ε'} {a : α} :
    (Except.ok a : Except ε α).mapError f = .ok a := rfl

theorem mapError_eq_ok {x : Except ε α} {f : ε → ε'} {a : α} :
    x.mapError f = .ok a ↔ x = .ok a := by
  cases x with
  | error e => simp [Except.mapError]
  | ok b => simp [Except.mapError]

theorem guard_eq_ok {p : Prop} [Decidable p] {e : ε} {a b : α} :
    (if p then Except.error e else .ok a) = .ok b ↔ ¬ p ∧ a = b := by
  by_cases hp : p
  · rw [if_pos hp]
    constructor
    · intro h
      cases h
    · exact fun h => absurd hp h.1
  · rw [if_neg hp]
    exact ⟨fun h => ⟨hp, Except.ok.inj h⟩, fun h => congrArg Except.ok h.2⟩

theorem mem_of_mapM_eq_ok {f : α → Except ε β} {l : List α} {l' : List β}
    (h : l.mapM f = .ok l') {a : α} (ha : a ∈ l) {b : β} (hb : f a = .ok b) : b ∈ l' := by
  induction l generalizing l' with
  | nil => cases ha
  | cons a₀ l ih =>
    rw [List.mapM_cons] at h
    -- the first element succeeds, and so do the others
    obtain ⟨b₀, hb₀, h⟩ := bind_eq_ok.1 h
    obtain ⟨bs, hbs, h⟩ := bind_eq_ok.1 h
    obtain rfl := Except.ok.inj h
    rcases List.mem_cons.1 ha with rfl | ha
    · rw [hb] at hb₀
      obtain rfl := Except.ok.inj hb₀
      exact List.mem_cons_self
    · exact List.mem_cons_of_mem _ (ih hbs ha)

end Lib
