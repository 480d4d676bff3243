import Mathlib.Order.Lattice
import Mathlib.Data.List.Basic

/-!
# The newest element that says something

`IsNewest key p xs x`: of the elements of `xs` with `p`, the element `x` has the greatest
key and shares it with no other. Which element that is does not depend on the order of
the list (`IsNewest.perm`). In a list sorted by descending keys it is the first one with
`p`, so a scan that stops at the first answer reads the newest one
(`findSome?_of_isNewest`).
-/

namespace Lib

variable {α β κ : Type} [LinearOrder κ] {key : α → κ}

/-- The one with the greatest key among those with `p`. -/
structure IsNewest (key : α → κ) (p : α → Prop) (xs : List α) (x : α) : Prop where
  mem : x ∈ xs
  holds : p x
  newer : ∀ y ∈ xs, p y → y = x ∨ key y < key x

/-- Every element has a smaller key than those before it. -/
abbrev Descending (key : α → κ) (xs : List α) : Prop :=
  xs.Pairwise fun x y => key y < key x

variable {p q : α → Prop} {xs ys : List α} {x y : α}

namespace IsNewest

theorem unique (hx : IsNewest key p xs x) (hy : IsNewest key p xs y) : x = y := by
  rcases hx.newer y hy.mem hy.holds with heq | hlt
  · exact heq.symm
  rcases hy.newer x hx.mem hx.holds with heq | hgt
  · exact heq
  · exact absurd hlt (lt_asymm hgt)

theorem perm (hperm : xs.Perm ys) (h : IsNewest key p xs x) : IsNewest key p ys x where
  mem := hperm.mem_iff.1 h.mem
  holds := h.holds
  newer y hy := h.newer y (hperm.mem_iff.2 hy)

/-- Among fewer candidates the newest stays the newest if it is one of them. -/
theorem imp (h : IsNewest key p xs x) (himp : ∀ y, q y → p y) (hq : q x) :
    IsNewest key q xs x where
  mem := h.mem
  holds := hq
  newer y hy hqy := h.newer y hy (himp y hqy)

/-- The newest of two kinds, seen from the newest of one: nothing of the other kind is newer. -/
theorem or_of_newer (h : IsNewest key p xs x)
    (hother : ∀ y ∈ xs, q y → y = x ∨ key y < key x) :
    IsNewest key (fun y => p y ∨ q y) xs x where
  mem := h.mem
  holds := .inl h.holds
  newer y hy hpq := hpq.elim (h.newer y hy) (hother y hy)

end IsNewest

/-- **Of finitely many there is a newest**, where no two share a key. -/
theorem exists_isNewest (hnodup : (xs.map key).Nodup) (h : ∃ x ∈ xs, p x) :
    ∃ x, IsNewest key p xs x := by
  induction xs with
  | nil =>
    obtain ⟨x, hx, -⟩ := h
    cases hx
  | cons a xs ih =>
    rw [List.map_cons, List.nodup_cons] at hnodup
    by_cases hlater : ∃ x ∈ xs, p x
    · obtain ⟨x, hx⟩ := ih hnodup.2 hlater
      by_cases hgreater : p a ∧ key x < key a
      · refine ⟨a, List.mem_cons_self, hgreater.1, fun y hy hpy => ?_⟩
        rcases List.mem_cons.1 hy with rfl | hy
        · exact .inl rfl
        · rcases hx.newer y hy hpy with rfl | hlt
          · exact .inr hgreater.2
          · exact .inr (hlt.trans hgreater.2)
      · refine ⟨x, List.mem_cons_of_mem _ hx.mem, hx.holds, fun y hy hpy => ?_⟩
        rcases List.mem_cons.1 hy with rfl | hy
        · -- the keys differ
          have hne : key y ≠ key x := fun heq =>
            hnodup.1 (heq ▸ List.mem_map_of_mem hx.mem)
          exact .inr (lt_of_le_of_ne (not_lt.1 fun hlt => hgreater ⟨hpy, hlt⟩) hne)
        · exact hx.newer y hy hpy
    · obtain ⟨x, hx, hpx⟩ := h
      rcases List.mem_cons.1 hx with rfl | hx
      · refine ⟨x, List.mem_cons_self, hpx, fun y hy hpy => ?_⟩
        rcases List.mem_cons.1 hy with rfl | hy
        · exact .inl rfl
        · exact absurd ⟨y, hy, hpy⟩ hlater
      · exact absurd ⟨x, hx, hpx⟩ hlater

/-- **A scan from the newest on finds the newest answer.** -/
theorem findSome?_of_isNewest {f : α → Option β} (hdesc : Descending key xs)
    (h : IsNewest key (fun x => (f x).isSome = true) xs x) : xs.findSome? f = f x := by
  induction xs with
  | nil => cases h.mem
  | cons a xs ih =>
    rw [Descending, List.pairwise_cons] at hdesc
    cases hanswer : f a with
    | some answer =>
      rw [List.findSome?_cons_of_isSome (by rw [hanswer]; rfl)]
      rcases h.newer a List.mem_cons_self (by rw [hanswer]; rfl) with rfl | hlt
      · rfl
      · rcases List.mem_cons.1 h.mem with rfl | hx
        · exact absurd hlt (lt_irrefl _)
        · exact absurd (hdesc.1 x hx) (lt_asymm hlt)
    | none =>
      rw [List.findSome?_cons_of_isNone (by rw [hanswer]; rfl)]
      have hx : x ∈ xs := by
        rcases List.mem_cons.1 h.mem with rfl | hx
        · have hsome := h.holds
          rw [hanswer] at hsome
          cases hsome
        · exact hx
      exact ih hdesc.2 ⟨hx, h.holds, fun y hy => h.newer y (List.mem_cons_of_mem _ hy)⟩

end Lib
