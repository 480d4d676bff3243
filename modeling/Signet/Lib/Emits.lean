import Signet.Lib.Machine

/-!
# Programs of state and events

`Emits σ ε` is a piece of a program that changes a state and emits events, in order; it always
goes through. Pieces are put together with `seq` and `forEach`.

Where the pieces come down to the operations of a machine that are always possible
(`Machine.ofOps`), a whole program is a run of these operations (`Emits.Runs`), so that what
every operation preserves, the program preserves (`RunFrom.preserves`).
-/

namespace Lib

/-- A piece of a program: the state after it, and the events. -/
abbrev Emits (σ ε : Type) := σ → σ × List ε

/-- The machine whose steps are operations that are always possible. -/
def Machine.ofOps {σ ο ε : Type} (init : σ) (apply : ο → Emits σ ε) : Machine σ ο ε where
  init := init
  step s o := some (apply o s)

namespace Emits

variable {σ ο ε β : Type}

/-- Nothing happens. -/
def skip : Emits σ ε := fun s => (s, [])

/-- One after the other. -/
def seq (f g : Emits σ ε) : Emits σ ε := fun s =>
  ((g (f s).1).1, (f s).2 ++ (g (f s).1).2)

/-- One turn for each item. -/
def forEach (f : β → Emits σ ε) : List β → Emits σ ε
  | [] => skip
  | b :: bs => (f b).seq (forEach f bs)

/-- The program is a run of operations that meet the guard. -/
def Runs (M : Machine σ ο ε) (ok : σ → ο → Prop) (s : σ) (f : Emits σ ε) : Prop :=
  RunFrom M ok s (f s).2 (f s).1

variable {init : σ} {apply : ο → Emits σ ε} {ok : σ → ο → Prop} {s : σ} {f g : Emits σ ε}

theorem Runs.skip {M : Machine σ ο ε} : Runs M ok s (Emits.skip : Emits σ ε) :=
  .nil

/-- A single operation. -/
theorem Runs.op {o : ο} (h : ok s o) : Runs (.ofOps init apply) ok s (apply o) :=
  .single h rfl

theorem Runs.seq {M : Machine σ ο ε} (hf : Runs M ok s f) (hg : Runs M ok (f s).1 g) :
    Runs M ok s (f.seq g) :=
  hf.trans hg

/-- A loop whose turns are runs and keep a property of the state. -/
theorem Runs.forEach_of {M : Machine σ ο ε} {J : σ → Prop} {f : β → Emits σ ε} {bs : List β}
    (h : ∀ b ∈ bs, ∀ s, J s → Runs M ok s (f b) ∧ J (f b s).1) (hs : J s) :
    Runs M ok s (Emits.forEach f bs) := by
  induction bs generalizing s with
  | nil => exact .skip
  | cons b bs ih =>
    -- the first turn is a run and keeps the property for the turns that follow
    obtain ⟨hfirst, hkept⟩ := h b List.mem_cons_self s hs
    exact hfirst.seq (ih (fun b' hb' => h b' (List.mem_cons_of_mem b hb')) hkept)

theorem Runs.forEach {M : Machine σ ο ε} {f : β → Emits σ ε} {bs : List β}
    (h : ∀ b ∈ bs, ∀ s, Runs M ok s (f b)) : Runs M ok s (Emits.forEach f bs) :=
  .forEach_of (J := fun _ => True) (fun b hb s _ => ⟨h b hb s, trivial⟩) trivial

theorem of_mem_forEach {f : β → Emits σ ε} {P : ε → Prop} {bs : List β}
    (h : ∀ b ∈ bs, ∀ s, ∀ e ∈ (f b s).2, P e) {e : ε} (he : e ∈ (Emits.forEach f bs s).2) :
    P e := by
  induction bs generalizing s with
  | nil => cases he
  | cons b bs ih =>
    have hrest : ∀ b ∈ bs, ∀ s, ∀ e ∈ (f b s).2, P e := fun b hb => h b (List.mem_cons_of_mem _ hb)
    rcases List.mem_append.1 he with hfirst | hlater
    · exact h b List.mem_cons_self s e hfirst
    · exact ih hrest hlater

end Emits

end Lib
