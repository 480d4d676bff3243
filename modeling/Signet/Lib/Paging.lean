import Mathlib.Data.List.Basic
import Mathlib.Order.Lattice

/-!
# Reading a list page by page

A source holds a list, newest first, and answers a bound on the keys with the first elements below
it, at most `limit` of them. A reader starts without a bound and goes on with the *cut* of the last
element it got, a value that is at most its key, until a page is not full. If the cut is the
key itself, elements with equal keys can fall between two pages; if it is a rounded key, so can
elements whose keys round to the same value.

* `readPages_spec`: the reader comes to an end, and gets the whole list exactly if the two elements
  on both sides of each page boundary are kept apart by the cut (`CutsApart`).
-/

namespace Lib

variable {α κ : Type} [LinearOrder κ] (key cut : α → κ) (limit : Nat)

/-- The keys do not increase. -/
def NewestFirst (xs : List α) : Prop :=
  xs.Pairwise fun x y => key y ≤ key x

/-- The elements below a bound. -/
def below (bound : Option κ) (xs : List α) : List α :=
  xs.filter fun x => bound.all (key x < ·)

/-- The answer of the source. -/
def pageBefore (xs : List α) (bound : Option κ) : List α :=
  (below key bound xs).take limit

/-- The pages that the reader gets. -/
def readPages (fetch : Option κ → List α) : Nat → Option κ → Option (List (List α))
  | 0, _ => none
  | fuel + 1, bound =>
    let page := fetch bound
    if page.length < limit then some [page]
    else match page.getLast? with
    | none => some [page]
    | some last => (readPages fetch fuel (some (cut last))).map (page :: ·)

/-- The cut of the last element of a page is above the element that comes next. -/
def CutsApart (xs : List α) : Prop :=
  ∀ i x y, limit ∣ i + 1 → xs[i]? = some x → xs[i + 1]? = some y → key y < cut x

variable {key cut limit} {xs : List α}

theorem NewestFirst.below (h : NewestFirst key xs) (bound : Option κ) :
    NewestFirst key (below key bound xs) :=
  List.Pairwise.filter _ h

theorem NewestFirst.drop (h : NewestFirst key xs) (n : Nat) : NewestFirst key (xs.drop n) :=
  List.Pairwise.drop h

@[simp] theorem below_none : below key none xs = xs :=
  List.filter_eq_self.2 fun _ _ => rfl

theorem mem_below {bound : Option κ} {x : α} :
    x ∈ below key bound xs ↔ x ∈ xs ∧ bound.all (key x < ·) = true :=
  List.mem_filter

/-- Nothing is newer than the elements before. -/
theorem NewestFirst.le_of_getLast? (h : NewestFirst key xs) {last : α}
    (hlast : xs.getLast? = some last) {x : α} (hx : x ∈ xs) : key last ≤ key x := by
  obtain ⟨init, rfl⟩ := List.getLast?_eq_some_iff.1 hlast
  rcases List.mem_append.1 hx with hinit | hself
  · exact (List.pairwise_append.1 h).2.2 x hinit last List.mem_cons_self
  · exact le_of_eq (congrArg key (List.mem_singleton.1 hself).symm)

theorem below_cut (hcut : ∀ x, cut x ≤ key x) (h : NewestFirst key xs) {bound : Option κ}
    {last : α} (hlast : (pageBefore key limit xs bound).getLast? = some last) :
    below key (some (cut last)) xs =
      below key (some (cut last)) ((below key bound xs).drop limit) := by
  have hpage : ∀ x ∈ pageBefore key limit xs bound, ¬ key x < cut last := by
    intro x hx
    have hsorted : NewestFirst key (pageBefore key limit xs bound) :=
      (h.below bound).sublist (List.take_sublist limit _)
    exact not_lt.2 (le_trans (hcut last) (hsorted.le_of_getLast? hlast hx))
  have hbound : bound.all (key last < ·) = true :=
    (mem_below.1 (List.mem_of_mem_take (List.mem_of_getLast? hlast))).2
  -- a bound below the last element is below the old one
  have hsub : below key (some (cut last)) xs =
      below key (some (cut last)) (below key bound xs) := by
    unfold below
    rw [List.filter_filter]
    refine List.filter_congr fun x _ => ?_
    cases bound with
    | none => simp
    | some b =>
      simp only [Option.all_some, decide_eq_true_eq] at hbound ⊢
      by_cases hx : key x < cut last
      · have hlt : key x < b := lt_trans (lt_of_lt_of_le hx (hcut last)) hbound
        simp [hx, hlt]
      · simp [hx]
  have hsplit : below key bound xs =
      pageBefore key limit xs bound ++ (below key bound xs).drop limit :=
    (List.take_append_drop limit _).symm
  have hnone : below key (some (cut last)) (pageBefore key limit xs bound) = [] :=
    List.filter_eq_nil_iff.2 fun x hx hlt => hpage x hx (of_decide_eq_true hlt)
  rw [hsub]
  calc below key (some (cut last)) (below key bound xs)
      = below key (some (cut last))
          (pageBefore key limit xs bound ++ (below key bound xs).drop limit) := by rw [← hsplit]
    _ = below key (some (cut last)) (pageBefore key limit xs bound) ++
          below key (some (cut last)) ((below key bound xs).drop limit) := List.filter_append _ _
    _ = below key (some (cut last)) ((below key bound xs).drop limit) := by
        rw [hnone, List.nil_append]

theorem cutsApart_of_length_le (h : xs.length ≤ limit) : CutsApart key cut limit xs := by
  intro i x y hdvd hx hy
  have hi : i + 1 < xs.length := (List.getElem?_eq_some_iff.1 hy).1
  exact absurd (Nat.le_of_dvd (Nat.succ_pos i) hdvd) (by omega)

/-- The boundaries of a list are that after the first page and those of the rest. -/
theorem cutsApart_iff_drop (hlimit : 0 < limit) {last : α}
    (hlast : (xs.take limit).getLast? = some last) (hfull : limit ≤ xs.length) :
    CutsApart key cut limit xs ↔
      (∀ y, xs[limit]? = some y → key y < cut last) ∧ CutsApart key cut limit (xs.drop limit) := by
  have hget : xs[limit - 1]? = some last := by
    rw [List.getLast?_eq_getElem?, List.length_take, Nat.min_eq_left hfull] at hlast
    rwa [List.getElem?_take_of_lt (by omega)] at hlast
  constructor
  · intro h
    refine ⟨fun y hy => h (limit - 1) last y ?_ hget ?_, fun i x y hdvd hx hy => ?_⟩
    · exact ⟨1, by omega⟩
    · rwa [Nat.sub_add_cancel hlimit]
    · rw [List.getElem?_drop] at hx hy
      refine h (limit + i) x y ?_ hx ?_
      · rw [Nat.add_assoc]
        exact Nat.dvd_add (Nat.dvd_refl limit) hdvd
      · rwa [Nat.add_assoc]
  · rintro ⟨hfirst, hrest⟩ i x y hdvd hx hy
    by_cases hi : i + 1 = limit
    · obtain rfl : i = limit - 1 := by omega
      rw [hget] at hx
      rw [← Option.some.inj hx]
      exact hfirst y (by rwa [Nat.sub_add_cancel hlimit] at hy)
    · obtain ⟨k, hk⟩ := hdvd
      obtain ⟨j, rfl⟩ : ∃ j, i = limit + j := ⟨i - limit, by
        rcases k with _ | _ | k
        · omega
        · omega
        · have : limit * (k + 1 + 1) = limit * (k + 1) + limit := Nat.mul_succ _ _
          have : limit ≤ limit * (k + 1) := Nat.le_mul_of_pos_right limit (Nat.succ_pos k)
          omega⟩
      refine hrest j x y ?_ (by rwa [List.getElem?_drop]) (by
        rw [List.getElem?_drop, ← Nat.add_assoc]
        exact hy)
      have hdvd : limit ∣ limit + (j + 1) := ⟨k, by rw [← hk]; omega⟩
      exact (Nat.dvd_add_right (Nat.dvd_refl limit)).1 hdvd

/-- **Reading comes to an end**, in order, and the whole list is read exactly if the cuts are
apart. -/
theorem readPages_spec (hlimit : 0 < limit) (hcut : ∀ x, cut x ≤ key x)
    (hsorted : NewestFirst key xs) {fuel : Nat} {bound : Option κ}
    (hfuel : (below key bound xs).length < fuel) :
    ∃ pages, readPages cut limit (pageBefore key limit xs) fuel bound = some pages ∧
      pages.flatten.Sublist (below key bound xs) ∧
      (pages.flatten = below key bound xs ↔ CutsApart key cut limit (below key bound xs)) := by
  induction fuel generalizing bound with
  | zero => exact absurd hfuel (Nat.not_lt_zero _)
  | succ fuel ih =>
    unfold readPages
    dsimp only
    by_cases hshort : (pageBefore key limit xs bound).length < limit
    · have hlength : (below key bound xs).length < limit := by
        rw [pageBefore, List.length_take] at hshort
        omega
      have hall : pageBefore key limit xs bound = below key bound xs :=
        List.take_of_length_le (Nat.le_of_lt hlength)
      rw [if_pos hshort, hall]
      refine ⟨_, rfl, ?_, ?_⟩
      · rw [List.flatten_singleton]
      · rw [List.flatten_singleton]
        exact iff_of_true rfl (cutsApart_of_length_le (Nat.le_of_lt hlength))
    · rw [if_neg hshort]
      have hfull : limit ≤ (below key bound xs).length := by
        rw [pageBefore, List.length_take] at hshort
        omega
      cases hlast : (pageBefore key limit xs bound).getLast? with
      | none =>
        rw [List.getLast?_eq_none_iff] at hlast
        rw [hlast] at hshort
        exact absurd hlimit hshort
      | some last =>
        have hrest := below_cut hcut hsorted hlast
        have hle : (below key (some (cut last)) xs).length < fuel := by
          have hfilter : (below key (some (cut last)) ((below key bound xs).drop limit)).length ≤
              ((below key bound xs).drop limit).length := List.length_filter_le _ _
          rw [List.length_drop] at hfilter
          rw [hrest]
          omega
        obtain ⟨pages, hpages, hsub, hiff⟩ := ih hle
        dsimp only
        rw [hpages]
        have hpart : pages.flatten.Sublist ((below key bound xs).drop limit) := by
          rw [hrest] at hsub
          exact hsub.trans List.filter_sublist
        have hsplit : below key bound xs =
            pageBefore key limit xs bound ++ (below key bound xs).drop limit :=
          (List.take_append_drop limit _).symm
        refine ⟨_, rfl, ?_, ?_⟩
        · rw [List.flatten_cons]
          exact (List.Sublist.append_left hpart _).trans (by rw [← hsplit])
        · rw [List.flatten_cons, hsplit, List.append_cancel_left_eq, ← hsplit,
            cutsApart_iff_drop hlimit hlast hfull]
          constructor
          · intro hall
            -- nothing is lost after the page
            have hkept : below key (some (cut last)) xs = (below key bound xs).drop limit := by
              rw [hall] at hsub
              rw [hrest] at hsub ⊢
              exact (hsub.antisymm List.filter_sublist).symm
            refine ⟨fun y hy => ?_, ?_⟩
            · have hmem : y ∈ (below key bound xs).drop limit := by
                rw [← Nat.add_zero limit, ← List.getElem?_drop] at hy
                exact List.mem_of_getElem? hy
              rw [← hkept] at hmem
              exact of_decide_eq_true (mem_below.1 hmem).2
            · rw [← hkept]
              exact hiff.1 (hall.trans hkept.symm)
          · rintro ⟨hfirst, hapart⟩
            -- all that comes after the page is below the cut
            have hkept : below key (some (cut last)) ((below key bound xs).drop limit) =
                (below key bound xs).drop limit := by
              refine List.filter_eq_self.2 fun x hx => decide_eq_true ?_
              cases hhead : (below key bound xs).drop limit with
              | nil =>
                rw [hhead] at hx
                cases hx
              | cons y ys =>
                have hy : (below key bound xs)[limit]? = some y := by
                  rw [← Nat.add_zero limit, ← List.getElem?_drop, hhead]
                  rfl
                have hsorted' := (hsorted.below bound).drop limit
                rw [hhead] at hx hsorted'
                rcases List.mem_cons.1 hx with rfl | htail
                · exact hfirst _ hy
                · exact lt_of_le_of_lt (List.rel_of_pairwise_cons hsorted' htail) (hfirst y hy)
            rw [hrest, hkept] at hiff
            exact hiff.2 hapart

end Lib
