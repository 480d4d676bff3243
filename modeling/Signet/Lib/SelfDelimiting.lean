import Mathlib.Data.List.Basic
import Mathlib.Logic.Function.Basic

/-!
# Self-delimiting texts

An encoding of values as lists of symbols is *self-delimiting* when the encoding of a
value can be split off the front of a longer text in one way only. Texts put together
from self-delimiting parts and fixed pieces can be read back part by part, which is how
a serialization is shown to be injective without writing its parser.

* `SelfDelimiting.of_decoder`: a decoder of the front gives a self-delimiting encoding.
* `SelfDelimiting.terminated`: a sequence closed by a symbol no element begins with.
* `SelfDelimiting.separated`: a sequence with separators, closed by another symbol.
* `SelfDelimiting.comp`: renamed values.
-/

namespace Lib

variable {α β γ : Type}

/-- The encoding of a value is split off a text in one way only. -/
def SelfDelimiting (enc : α → List β) : Prop :=
  ∀ a a' x x', enc a ++ x = enc a' ++ x' → a = a' ∧ x = x'

namespace SelfDelimiting

variable {enc : α → List β}

/-- A text is split at its first separator in one way only. -/
theorem append_sep_inj {sep : β} {xs ys x y : List β} (hxs : sep ∉ xs) (hys : sep ∉ ys)
    (heq : xs ++ sep :: x = ys ++ sep :: y) : xs = ys ∧ x = y := by
  induction xs generalizing ys with
  | nil =>
    cases ys with
    | nil => exact ⟨rfl, (List.cons.inj heq).2⟩
    | cons b ys => exact absurd List.mem_cons_self ((List.cons.inj heq).1 ▸ hys)
  | cons a xs ih =>
    cases ys with
    | nil => exact absurd List.mem_cons_self ((List.cons.inj heq).1 ▸ hxs)
    | cons b ys =>
      obtain ⟨rfl, hrest⟩ := List.cons.inj heq
      obtain ⟨rfl, hx⟩ := ih (fun h => hxs (List.mem_cons_of_mem _ h))
        (fun h => hys (List.mem_cons_of_mem _ h)) hrest
      exact ⟨rfl, hx⟩

/-- An encoding that a decoder reads back off the front of any text. -/
theorem of_decoder (dec : List β → Option (α × List β))
    (hdec : ∀ a x, dec (enc a ++ x) = some (a, x)) : SelfDelimiting enc := by
  intro a a' x x' heq
  have hread := hdec a x
  rw [heq, hdec a' x'] at hread
  obtain ⟨ha, hx⟩ := Prod.mk.inj (Option.some.inj hread)
  exact ⟨ha.symm, hx.symm⟩

theorem comp (h : SelfDelimiting enc) {f : γ → α} (hf : Function.Injective f) :
    SelfDelimiting fun c => enc (f c) := by
  intro c c' x x' heq
  obtain ⟨hval, hx⟩ := h _ _ _ _ heq
  exact ⟨hf hval, hx⟩

/-- No encoding begins with the symbol. -/
def NeverStarts (enc : α → List β) (stop : β) : Prop :=
  ∀ a x y, enc a ++ x ≠ stop :: y

/-- A sequence closed by a symbol that no element begins with. -/
theorem terminated (h : SelfDelimiting enc) {stop : β} (hstop : NeverStarts enc stop) :
    SelfDelimiting fun l : List α => l.flatMap enc ++ [stop] := by
  intro l
  induction l with
  | nil =>
    intro l' x x' heq
    cases l' with
    | nil => exact ⟨rfl, (List.cons.inj heq).2⟩
    | cons a l' =>
      simp only [List.flatMap_nil, List.flatMap_cons, List.append_assoc] at heq
      exact absurd heq.symm (hstop a _ _)
  | cons a l ih =>
    intro l' x x' heq
    cases l' with
    | nil =>
      simp only [List.flatMap_nil, List.flatMap_cons, List.append_assoc] at heq
      exact absurd heq (hstop a _ _)
    | cons a' l' =>
      simp only [List.flatMap_cons, List.append_assoc] at heq
      obtain ⟨rfl, hrest⟩ := h _ _ _ _ heq
      obtain ⟨rfl, hx⟩ := ih l' x x' (by simpa only [List.append_assoc] using hrest)
      exact ⟨rfl, hx⟩

/-- A sequence with separators is its first element and a sequence of the others, each
behind a separator. -/
theorem intercalate_map_cons (enc : α → List β) (sep : β) (a : α) (l : List α) :
    [sep].intercalate ((a :: l).map enc) = enc a ++ l.flatMap fun b => sep :: enc b := by
  induction l generalizing a with
  | nil =>
    rw [List.map_cons, List.map_nil, List.intercalate_singleton, List.flatMap_nil,
      List.append_nil]
  | cons b l ih =>
    rw [List.map_cons, List.map_cons, List.intercalate_cons_cons, ← List.map_cons, ih b,
      List.flatMap_cons, List.append_assoc]
    rfl

/-- A sequence with separators, closed by another symbol that no element begins with. -/
theorem separated (h : SelfDelimiting enc) {sep stop : β} (hne : sep ≠ stop)
    (hstop : NeverStarts enc stop) :
    SelfDelimiting fun l : List α => [sep].intercalate (l.map enc) ++ [stop] := by
  -- the elements after the first, each behind its separator
  have hlater : SelfDelimiting fun l : List α => l.flatMap (fun b => sep :: enc b) ++ [stop] := by
    refine terminated ?_ ?_
    · intro b b' x x' heq
      exact h _ _ _ _ (List.cons.inj heq).2
    · intro b x y heq
      exact hne (List.cons.inj heq).1
  intro l l' x x' heq
  cases l with
  | nil =>
    cases l' with
    | nil => exact ⟨rfl, (List.cons.inj heq).2⟩
    | cons a' l' =>
      simp only [List.map_nil, List.intercalate_nil, intercalate_map_cons, List.append_assoc] at heq
      exact absurd heq.symm (hstop a' _ _)
  | cons a l =>
    cases l' with
    | nil =>
      simp only [List.map_nil, List.intercalate_nil, intercalate_map_cons, List.append_assoc] at heq
      exact absurd heq (hstop a _ _)
    | cons a' l' =>
      simp only [intercalate_map_cons, List.append_assoc] at heq
      obtain ⟨rfl, hrest⟩ := h _ _ _ _ heq
      obtain ⟨rfl, hx⟩ := hlater l l' x x' (by simpa only [List.append_assoc] using hrest)
      exact ⟨rfl, hx⟩

end SelfDelimiting

end Lib
