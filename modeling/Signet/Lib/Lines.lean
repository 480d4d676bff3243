import Mathlib.Data.List.Basic

/-!
# Lines of a stream

A stream is broken into lines at a separator; what comes after the last separator waits for more.

* `breakLines_append`: it makes no difference in how many pieces the stream comes.
* `breakLines_trim`: space at the beginning of what waits makes none for the trimmed lines.
-/

namespace Lib

variable {α : Type}

section Break

variable [DecidableEq α] (sep : α)

/-- The complete lines, and what is left; `line` has been read before. -/
def breakLines (line : List α) : List α → List (List α) × List α
  | [] => ([], line)
  | c :: cs =>
    if c = sep then
      let (lines, rest) := breakLines [] cs
      (line :: lines, rest)
    else breakLines (line ++ [c]) cs

variable {sep}

theorem breakLines_sep (line cs : List α) :
    breakLines sep line (sep :: cs) =
      (line :: (breakLines sep [] cs).1, (breakLines sep [] cs).2) := by
  rw [breakLines, if_pos rfl]

theorem breakLines_of_ne {c : α} (hc : c ≠ sep) (line cs : List α) :
    breakLines sep line (c :: cs) = breakLines sep (line ++ [c]) cs := by
  rw [breakLines, if_neg hc]

/-- **A stream in two pieces.** -/
theorem breakLines_append (line xs ys : List α) :
    breakLines sep line (xs ++ ys) =
      ((breakLines sep line xs).1 ++ (breakLines sep (breakLines sep line xs).2 ys).1,
        (breakLines sep (breakLines sep line xs).2 ys).2) := by
  induction xs generalizing line with
  | nil => rfl
  | cons c cs ih =>
    rw [List.cons_append]
    by_cases hc : c = sep
    -- at a separator both sides begin a new line
    · rw [hc, breakLines_sep, breakLines_sep, ih]
      rfl
    · rw [breakLines_of_ne hc, breakLines_of_ne hc, ih]

theorem breakLines_of_not_mem {xs : List α} (h : sep ∉ xs) (line : List α) :
    breakLines sep line xs = ([], line ++ xs) := by
  induction xs generalizing line with
  | nil => rw [breakLines, List.append_nil]
  | cons c cs ih =>
    have hc : c ≠ sep := fun heq => h (heq ▸ List.mem_cons_self)
    rw [breakLines_of_ne hc, ih fun hmem => h (List.mem_cons_of_mem _ hmem), List.append_assoc,
      List.singleton_append]

theorem not_mem_breakLines {line : List α} (h : sep ∉ line) (xs : List α) :
    sep ∉ (breakLines sep line xs).2 := by
  induction xs generalizing line with
  | nil => exact h
  | cons c cs ih =>
    by_cases hc : c = sep
    · rw [hc, breakLines_sep]
      exact ih List.not_mem_nil
    · rw [breakLines_of_ne hc]
      refine ih fun hmem => ?_
      rcases List.mem_append.1 hmem with hline | hlast
      · exact h hline
      · exact hc (List.mem_singleton.1 hlast).symm

end Break

/-! ### Trimming -/

section Trim

variable (space : α → Bool)

/-- Without the space at the beginning. -/
def trimStart (xs : List α) : List α :=
  xs.dropWhile space

/-- Without the space at both ends. -/
def trimBoth (xs : List α) : List α :=
  ((trimStart space xs).reverse.dropWhile space).reverse

variable {space}

/-- What is read next goes to the end. -/
theorem trimStart_append {xs ys : List α} (h : trimStart space xs = trimStart space ys)
    (zs : List α) : trimStart space (xs ++ zs) = trimStart space (ys ++ zs) := by
  unfold trimStart at h ⊢
  rw [List.dropWhile_append, List.dropWhile_append, h]

theorem trimBoth_congr {xs ys : List α} (h : trimStart space xs = trimStart space ys) :
    trimBoth space xs = trimBoth space ys := by
  unfold trimBoth
  rw [h]

/-- **Space at the beginning of a line makes no difference for the trimmed lines.** -/
theorem breakLines_trim [DecidableEq α] {sep : α} {line line' : List α}
    (h : trimStart space line = trimStart space line') (xs : List α) :
    (breakLines sep line xs).1.map (trimBoth space) =
        (breakLines sep line' xs).1.map (trimBoth space) ∧
      trimStart space (breakLines sep line xs).2 = trimStart space (breakLines sep line' xs).2 := by
  induction xs generalizing line line' with
  | nil => exact ⟨rfl, h⟩
  | cons c cs ih =>
    by_cases hc : c = sep
    -- a line ends: trimmed, the two are one, and the next begins empty in both
    · rw [hc, breakLines_sep, breakLines_sep, List.map_cons, List.map_cons, trimBoth_congr h]
      exact ⟨rfl, rfl⟩
    · rw [breakLines_of_ne hc, breakLines_of_ne hc]
      exact ih (trimStart_append h [c])

end Trim

end Lib
