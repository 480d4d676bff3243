import Signet.Lib.Sorting
import Signet.Schemas.SealJson
import Signet.Seals.ChainValidator

/-!
# What a stored delta may differ in

`verifyChainDelta` sorts the lists of two deltas by the strings of their scopes and
compares what comes out. The scopes themselves are told apart by their strings, so the
lists of added and removed scopes are compared as multisets, with any repetitions.

`sortChanges` looks at the scope of a change only, and would leave two changes of one
scope in the order they came in. A recomputed delta changes no scope twice
(`nodup_changed_scopes`), so no stored order can matter: `verifyChainDelta_iff`.
-/

namespace Signet

open Lib

/-- The order of the strings of two scopes, as the sorts use it. -/
def nameOrder (x y : PermissionScope) : Bool :=
  !decide (y.name < x.name)

theorem nameOrder_iff {x y : PermissionScope} : nameOrder x y = true ↔ x.name ≤ y.name := by
  unfold nameOrder
  rw [Bool.not_eq_true', decide_eq_false_iff_not, String.not_lt]

theorem nameOrder_trans (x y z : PermissionScope) (hxy : nameOrder x y = true)
    (hyz : nameOrder y z = true) : nameOrder x z = true := by
  rw [nameOrder_iff] at hxy hyz ⊢
  exact String.le_trans hxy hyz

theorem nameOrder_total (x y : PermissionScope) : (nameOrder x y || nameOrder y x) = true := by
  rw [Bool.or_eq_true, nameOrder_iff, nameOrder_iff]
  exact String.le_total x.name y.name

theorem nameOrder_antisymm {x y : PermissionScope} (hxy : nameOrder x y = true)
    (hyx : nameOrder y x = true) : x = y := by
  rw [nameOrder_iff] at hxy hyx
  exact PermissionScope.name_injective (String.le_antisymm hxy hyx)

/-- **Scopes are compared as multisets.** -/
theorem sortScopes_eq_iff {scopes scopes' : List PermissionScope} :
    sortScopes scopes = sortScopes scopes' ↔ scopes.Perm scopes' :=
  mergeSort_eq_iff_perm nameOrder_trans nameOrder_total
    fun _ _ _ _ hxy hyx => nameOrder_antisymm hxy hyx

/-- **Changes are compared as multisets** if the first list changes no scope twice. -/
theorem sortChanges_eq_iff {changes changes' : List ScopeChange}
    (hnodup : (changes.map (·.scope)).Nodup) :
    sortChanges changes = sortChanges changes' ↔ changes.Perm changes' := by
  have hanti : ∀ x ∈ changes, ∀ y ∈ changes, nameOrder x.scope y.scope = true →
      nameOrder y.scope x.scope = true → x = y := by
    intro x hx y hy hxy hyx
    have hscope : x.scope = y.scope := nameOrder_antisymm hxy hyx
    exact List.inj_on_of_nodup_map hnodup hx hy hscope
  have htrans : ∀ x y z : ScopeChange, nameOrder x.scope y.scope = true →
      nameOrder y.scope z.scope = true → nameOrder x.scope z.scope = true :=
    fun _ _ _ => nameOrder_trans _ _ _
  have htotal : ∀ x y : ScopeChange,
      (nameOrder x.scope y.scope || nameOrder y.scope x.scope) = true :=
    fun _ _ => nameOrder_total _ _
  show changes.mergeSort (fun x y => nameOrder x.scope y.scope) =
    changes'.mergeSort (fun x y => nameOrder x.scope y.scope) ↔ _
  exact @mergeSort_eq_iff_perm ScopeChange
    (fun x y => nameOrder x.scope y.scope) htrans htotal _ _ hanti

/-! ### What is recomputed -/

section Recomputed

variable (previous next : SealPayloadType)

/-- The loops of `computePayloadDelta` that find changes, without the stances. -/
theorem map_scope_changed :
    (computePayloadDelta previous next).changed.map (·.scope) =
      next.permissions.allow.eraseDups.filter (fun scope =>
          scope ∉ previous.permissions.allow.eraseDups ∧
            scope ∈ previous.permissions.deny.eraseDups) ++
        previous.permissions.allow.eraseDups.filter (fun scope =>
          scope ∉ next.permissions.allow.eraseDups ∧
            scope ∈ next.permissions.deny.eraseDups) ++
        next.permissions.deny.eraseDups.filter (fun scope =>
          scope ∉ previous.permissions.deny.eraseDups ∧
            scope ∈ previous.permissions.allow.eraseDups ∧
            scope ∈ next.permissions.allow.eraseDups) ++
        previous.permissions.deny.eraseDups.filter (fun scope =>
          scope ∉ next.permissions.deny.eraseDups ∧
            scope ∈ previous.permissions.allow.eraseDups ∧
            scope ∈ next.permissions.allow.eraseDups) := by
  unfold computePayloadDelta
  simp only [List.map_append, List.map_map]
  congr 1
  congr 1
  congr 1
  all_goals exact List.map_id _

/-- **A recomputed delta changes no scope twice.** The four loops that find changes exclude each
other: by the two allow lists, and where both list the scope, by the two deny lists. -/
theorem nodup_changed_scopes :
    ((computePayloadDelta previous next).changed.map (·.scope)).Nodup := by
  rw [map_scope_changed]
  have hfilter : ∀ (scopes : List PermissionScope) (p : PermissionScope → Bool),
      (scopes.eraseDups.filter p).Nodup := fun scopes p => (nodup_eraseDups scopes).filter p
  refine List.nodup_append'.2 ⟨List.nodup_append'.2 ⟨List.nodup_append'.2
    ⟨hfilter _ _, hfilter _ _, ?_⟩, hfilter _ _, ?_⟩, hfilter _ _, ?_⟩
  all_goals
    intro scope hleft hright
    simp only [List.mem_append, List.mem_filter, decide_eq_true_eq, List.mem_eraseDups]
      at hleft hright
  · -- newly allowed and no longer allowed
    exact hright.2.1 hleft.1
  · -- allowed by one list only, and by both
    rcases hleft with ⟨-, hnew, -⟩ | ⟨-, hgone, -⟩
    · exact hnew hright.2.2.1
    · exact hgone hright.2.2.2
  · rcases hleft with (⟨-, hnew, -⟩ | ⟨-, hgone, -⟩) | ⟨-, hdenied, -⟩
    · exact hnew hright.2.2.1
    · exact hgone hright.2.2.2
    · -- newly denied and no longer denied
      exact hdenied hright.1

end Recomputed

/-- The delta that a chain should carry changes no scope twice, also without a previous payload. -/
theorem nodup_expected_changes (chain : SealChain) :
    ((expectedDelta chain.current chain.previous).changed.map (·.scope)).Nodup := by
  unfold expectedDelta
  cases chain.previous with
  | none => exact List.nodup_nil
  | some previous => exact nodup_changed_scopes _ _

/-- Two deltas with the same added, removed and changed entries, in any order. -/
structure SealDelta.SameEntries (delta delta' : SealDelta) : Prop where
  added : delta.added.Perm delta'.added
  removed : delta.removed.Perm delta'.removed
  changed : delta.changed.Perm delta'.changed

theorem deltaEquals_iff {delta delta' : SealDelta}
    (hnodup : (delta.changed.map (·.scope)).Nodup) :
    deltaEquals delta delta' = true ↔ delta.SameEntries delta' := by
  unfold deltaEquals
  simp only [Bool.and_eq_true, decide_eq_true_eq]
  rw [sortScopes_eq_iff, sortScopes_eq_iff, sortChanges_eq_iff hnodup]
  constructor
  · rintro ⟨⟨⟨-, hadded⟩, hremoved⟩, hchanged⟩
    exact ⟨hadded, hremoved, hchanged⟩
  · intro h
    -- permutations have one length, which is compared first
    exact ⟨⟨⟨⟨⟨h.added.length_eq, h.removed.length_eq⟩, h.changed.length_eq⟩, h.added⟩,
      h.removed⟩, h.changed⟩

/-- **The check of the delta is exact.** For every chain, with whatever stored delta: it is accepted
exactly if its lists are permutations of those recomputed from the two payloads, which are empty for
a first seal. -/
theorem verifyChainDelta_iff (chain : SealChain) :
    verifyChainDelta chain = .ok () ↔
      (expectedDelta chain.current chain.previous).SameEntries chain.delta := by
  rw [← deltaEquals_iff (nodup_expected_changes chain)]
  unfold verifyChainDelta
  by_cases hequal : deltaEquals (expectedDelta chain.current chain.previous) chain.delta = true
  · rw [if_pos hequal]
    exact iff_of_true rfl hequal
  · rw [if_neg hequal]
    refine iff_of_false ?_ hequal
    intro h
    cases h

end Signet
