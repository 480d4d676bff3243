import Mathlib.Data.List.Nodup
import Signet.Lib.Sorting
import Signet.Policy.Materiality

/-!
# Materiality of a credential update

`sessions/src/materiality.ts` compares the effective scopes before and after an
update. `requiresReauthorization_iff` says what the check is for: it asks for
reauthorization exactly when some scope becomes newly allowed.
`checkMateriality_exact` says what each part of the result consists of.
-/

namespace Signet

structure DetailedMaterialityCheck where
  isMaterial : Bool
  reason : Option String
  delta : SealDelta
  requiresReauthorization : Bool
  deriving DecidableEq

/-- `buildReason`: a human-readable reason string from a policy delta. -/
def buildReason (delta : SealDelta) : String :=
  let added :=
    if delta.added = [] then []
    else ["added: " ++ ", ".intercalate (delta.added.map (·.name))]
  let removed :=
    if delta.removed = [] then []
    else ["removed: " ++ ", ".intercalate (delta.removed.map (·.name))]
  let changed :=
    if delta.changed = [] then []
    else
      ["changed: " ++ ", ".intercalate (delta.changed.map fun c =>
        c.scope.name ++ " (" ++ c.fromStance.name ++ " -> " ++ c.toStance.name ++ ")")]
  "Material change: " ++ "; ".intercalate (added ++ removed ++ changed)

section Check

variable (oldScopes newScopes : ScopeSet)

/-- The scopes an update is compared on, each once. -/
def comparedScopes : List PermissionScope :=
  (oldScopes.allow ++ oldScopes.deny ++ newScopes.allow ++ newScopes.deny).eraseDups

/-- A scope that was allowed: listed in allow and not in deny. -/
def effectivelyAllows (scopes : ScopeSet) (scope : PermissionScope) : Bool :=
  scope ∈ scopes.allow && scope ∉ scopes.deny

/-- The loop of `checkMateriality`: each compared scope lands in at most one of
the three lists. -/
def materialityDelta : SealDelta :=
  let gained := (comparedScopes oldScopes newScopes).filter fun scope =>
    !effectivelyAllows oldScopes scope && effectivelyAllows newScopes scope
  let lost := (comparedScopes oldScopes newScopes).filter fun scope =>
    effectivelyAllows oldScopes scope && !effectivelyAllows newScopes scope
  let mentioned := fun scope => scope ∈ oldScopes.allow ∨ scope ∈ oldScopes.deny
  -- `changed` keeps the order of the loop, in which both kinds of flips interleave
  { added := gained.filter fun scope => ¬ mentioned scope
    removed := lost.filter fun scope => scope ∉ newScopes.deny
    changed := (comparedScopes oldScopes newScopes).filterMap fun scope =>
      if scope ∈ gained ∧ mentioned scope then some ⟨scope, .deny, .allow⟩
      else if scope ∈ lost ∧ scope ∈ newScopes.deny then some ⟨scope, .allow, .deny⟩
      else none }

def checkMateriality : DetailedMaterialityCheck :=
  let delta := materialityDelta oldScopes newScopes
  let isMaterial := isSingleDeltaMaterial delta
  { isMaterial := isMaterial
    reason := if isMaterial then some (buildReason delta) else none
    delta := delta
    requiresReauthorization := isSingleDeltaEscalation delta }

end Check

theorem effectivelyAllows_iff {scopes : ScopeSet} {scope : PermissionScope} :
    effectivelyAllows scopes scope = true ↔ scope ∈ resolveScopeSet scopes := by
  simp [effectivelyAllows]

theorem mem_comparedScopes {oldScopes newScopes : ScopeSet} {scope : PermissionScope} :
    scope ∈ comparedScopes oldScopes newScopes ↔
      scope ∈ oldScopes.allow ∨ scope ∈ oldScopes.deny ∨
        scope ∈ newScopes.allow ∨ scope ∈ newScopes.deny := by
  simp [comparedScopes]

/-- **What reauthorization is for.** An update requires reauthorization exactly
when it would make some scope newly allowed. -/
theorem requiresReauthorization_iff {oldScopes newScopes : ScopeSet} :
    (checkMateriality oldScopes newScopes).requiresReauthorization = true ↔
      ∃ scope ∈ resolveScopeSet newScopes, scope ∉ resolveScopeSet oldScopes := by
  simp only [checkMateriality, isSingleDeltaEscalation, materialityDelta, Bool.or_eq_true,
    Bool.not_eq_true', List.isEmpty_eq_false_iff_exists_mem, List.any_eq_true,
    List.mem_filter, List.mem_filterMap, decide_eq_true_eq]
  constructor
  · rintro (⟨scope, ⟨-, hgain⟩, -⟩ | ⟨change, ⟨scope, -, hchange⟩, hto⟩)
    · simp only [Bool.and_eq_true, Bool.not_eq_true', effectivelyAllows_iff,
        Bool.eq_false_iff, ne_eq] at hgain
      exact ⟨scope, hgain.2, hgain.1⟩
    · split at hchange
      · next hflip =>
        have hgain := hflip.1.2
        simp only [Bool.and_eq_true, Bool.not_eq_true', effectivelyAllows_iff,
          Bool.eq_false_iff, ne_eq] at hgain
        exact ⟨scope, hgain.2, hgain.1⟩
      · split at hchange
        · cases hchange
          cases hto
        · cases hchange
  · rintro ⟨scope, hnew, hold⟩
    have hmem : scope ∈ comparedScopes oldScopes newScopes :=
      mem_comparedScopes.2 (.inr (.inr (.inl (mem_resolveScopeSet.1 hnew).1)))
    have hgain :
        (!effectivelyAllows oldScopes scope && effectivelyAllows newScopes scope) = true := by
      simp only [Bool.and_eq_true, Bool.not_eq_true', Bool.eq_false_iff, ne_eq,
        effectivelyAllows_iff]
      exact ⟨hold, hnew⟩
    by_cases hmention : scope ∈ oldScopes.allow ∨ scope ∈ oldScopes.deny
    · -- a denial was lifted
      refine .inr ⟨⟨scope, .deny, .allow⟩, ⟨scope, hmem, ?_⟩, rfl⟩
      rw [if_pos ⟨⟨hmem, hgain⟩, hmention⟩]
    · -- the scope was not mentioned before
      exact .inl ⟨scope, ⟨hmem, hgain⟩, hmention⟩

/-- An update that needs no reauthorization allows nothing new. -/
theorem resolveScopeSet_subset_of_not_requiresReauthorization {oldScopes newScopes : ScopeSet}
    (h : (checkMateriality oldScopes newScopes).requiresReauthorization = false) :
    resolveScopeSet newScopes ⊆ resolveScopeSet oldScopes := by
  intro scope hscope
  by_contra hnot
  have htrue := requiresReauthorization_iff.2 ⟨scope, hscope, hnot⟩
  rw [h] at htrue
  cases htrue

/-! ### The delta is exact -/

def SealDelta.changedTo (delta : SealDelta) (stance : ScopeStance) : List PermissionScope :=
  (delta.changed.filter fun change => change.toStance = stance).map (·.scope)

/-- The check of an update is exact: newly allowed scopes are changed to allow if they were
mentioned before, and added otherwise; scopes that are not allowed any more are changed to deny if
they are denied now, and removed otherwise. No scope is in two of the lists or twice in one. -/
structure MaterialityExact (oldScopes newScopes : ScopeSet) : Prop where
  material : (checkMateriality oldScopes newScopes).isMaterial = true ↔
    ¬ ∀ scope, scope ∈ resolveScopeSet oldScopes ↔ scope ∈ resolveScopeSet newScopes
  escalates : (checkMateriality oldScopes newScopes).requiresReauthorization = true ↔
    ∃ scope ∈ resolveScopeSet newScopes, scope ∉ resolveScopeSet oldScopes
  gained : ∀ scope, scope ∈ (checkMateriality oldScopes newScopes).delta.added ++
      (checkMateriality oldScopes newScopes).delta.changedTo .allow ↔
    scope ∈ resolveScopeSet newScopes ∧ scope ∉ resolveScopeSet oldScopes
  lost : ∀ scope, scope ∈ (checkMateriality oldScopes newScopes).delta.removed ++
      (checkMateriality oldScopes newScopes).delta.changedTo .deny ↔
    scope ∈ resolveScopeSet oldScopes ∧ scope ∉ resolveScopeSet newScopes
  added : ∀ scope, scope ∈ (checkMateriality oldScopes newScopes).delta.added ↔
    (scope ∈ resolveScopeSet newScopes ∧ scope ∉ resolveScopeSet oldScopes) ∧
      scope ∉ oldScopes.allow ∧ scope ∉ oldScopes.deny
  removed : ∀ scope, scope ∈ (checkMateriality oldScopes newScopes).delta.removed ↔
    (scope ∈ resolveScopeSet oldScopes ∧ scope ∉ resolveScopeSet newScopes) ∧
      scope ∉ newScopes.deny
  nodup : ((checkMateriality oldScopes newScopes).delta.added ++
    (checkMateriality oldScopes newScopes).delta.changedTo .allow ++
    (checkMateriality oldScopes newScopes).delta.removed ++
    (checkMateriality oldScopes newScopes).delta.changedTo .deny).Nodup

section Exact

variable {oldScopes newScopes : ScopeSet} {scope : PermissionScope}

/-- An update allows the scope. -/
def gains (oldScopes newScopes : ScopeSet) (scope : PermissionScope) : Bool :=
  !effectivelyAllows oldScopes scope && effectivelyAllows newScopes scope

theorem gains_iff : gains oldScopes newScopes scope = true ↔
    scope ∈ resolveScopeSet newScopes ∧ scope ∉ resolveScopeSet oldScopes := by
  unfold gains
  rw [Bool.and_eq_true_iff, Bool.not_eq_true', Bool.eq_false_iff, Ne, effectivelyAllows_iff,
    effectivelyAllows_iff]
  exact and_comm

/-- What an update changes is compared. -/
theorem mem_comparedScopes_of_gains (h : gains oldScopes newScopes scope = true ∨
    gains newScopes oldScopes scope = true) : scope ∈ comparedScopes oldScopes newScopes := by
  rw [gains_iff, gains_iff] at h
  rw [mem_comparedScopes]
  rcases h with ⟨hnew, -⟩ | ⟨hold, -⟩
  · exact .inr (.inr (.inl (mem_resolveScopeSet.1 hnew).1))
  · exact .inl (mem_resolveScopeSet.1 hold).1

/-- The scope is listed. -/
def mentions (scopes : ScopeSet) (scope : PermissionScope) : Bool :=
  scope ∈ scopes.allow || scope ∈ scopes.deny

theorem added_eq : (materialityDelta oldScopes newScopes).added =
    (comparedScopes oldScopes newScopes).filter fun scope =>
      gains oldScopes newScopes scope && !mentions oldScopes scope := by
  show List.filter _ (List.filter (fun scope => gains oldScopes newScopes scope) _) = _
  rw [List.filter_filter]
  refine List.filter_congr fun scope _ => ?_
  simp [mentions, Bool.and_comm]

theorem removed_eq : (materialityDelta oldScopes newScopes).removed =
    (comparedScopes oldScopes newScopes).filter fun scope =>
      gains newScopes oldScopes scope && !(decide (scope ∈ newScopes.deny)) := by
  show List.filter _ (List.filter _ _) = _
  rw [List.filter_filter]
  refine List.filter_congr fun scope _ => ?_
  simp [gains, Bool.and_comm]

/-- What the loop makes of a scope that flips. -/
def flip? (oldScopes newScopes : ScopeSet) (scope : PermissionScope) : Option ScopeChange :=
  if gains oldScopes newScopes scope && mentions oldScopes scope then
    some ⟨scope, .deny, .allow⟩
  else if gains newScopes oldScopes scope && decide (scope ∈ newScopes.deny) then
    some ⟨scope, .allow, .deny⟩
  else none

theorem changed_eq : (materialityDelta oldScopes newScopes).changed =
    (comparedScopes oldScopes newScopes).filterMap (flip? oldScopes newScopes) := by
  refine List.filterMap_congr fun scope hscope => ?_
  have hgained : scope ∈ (comparedScopes oldScopes newScopes).filter (fun scope =>
      !effectivelyAllows oldScopes scope && effectivelyAllows newScopes scope) ↔
        gains oldScopes newScopes scope = true := by
    rw [List.mem_filter]
    exact and_iff_right hscope
  have hlost : scope ∈ (comparedScopes oldScopes newScopes).filter (fun scope =>
      effectivelyAllows oldScopes scope && !effectivelyAllows newScopes scope) ↔
        gains newScopes oldScopes scope = true := by
    rw [List.mem_filter, Bool.and_comm]
    exact and_iff_right hscope
  unfold flip? mentions
  simp only [hgained, hlost, Bool.and_eq_true, Bool.or_eq_true, decide_eq_true_eq]

/-- No scope is gained and lost. -/
theorem not_gains_of_gains (h : gains oldScopes newScopes scope = true) :
    gains newScopes oldScopes scope = false := by
  rw [Bool.eq_false_iff]
  intro hback
  exact (gains_iff.1 h).2 (gains_iff.1 hback).1

theorem changedTo_allow : (materialityDelta oldScopes newScopes).changedTo .allow =
    (comparedScopes oldScopes newScopes).filter fun scope =>
      gains oldScopes newScopes scope && mentions oldScopes scope := by
  unfold SealDelta.changedTo
  rw [changed_eq, List.filter_filterMap, List.map_filterMap, ← List.filterMap_eq_filter]
  refine List.filterMap_congr fun scope _ => ?_
  show _ = if (gains oldScopes newScopes scope && mentions oldScopes scope) = true then
    some scope else none
  unfold flip?
  split
  · rfl
  · split <;> rfl

theorem changedTo_deny : (materialityDelta oldScopes newScopes).changedTo .deny =
    (comparedScopes oldScopes newScopes).filter fun scope =>
      gains newScopes oldScopes scope && decide (scope ∈ newScopes.deny) := by
  unfold SealDelta.changedTo
  rw [changed_eq, List.filter_filterMap, List.map_filterMap, ← List.filterMap_eq_filter]
  refine List.filterMap_congr fun scope _ => ?_
  show _ = if (gains newScopes oldScopes scope && decide (scope ∈ newScopes.deny)) = true then
    some scope else none
  unfold flip?
  split
  · next hgains =>
    rw [not_gains_of_gains (Bool.and_eq_true_iff.1 hgains).1]
    rfl
  · split <;> rfl

theorem disjoint_filter {p q : PermissionScope → Bool} {l : List PermissionScope}
    (h : ∀ scope, p scope = true → q scope = false) :
    List.Disjoint (l.filter p) (l.filter q) := by
  intro scope hp hq
  have hfalse := h scope (List.mem_filter.1 hp).2
  rw [(List.mem_filter.1 hq).2] at hfalse
  cases hfalse

/-- The four parts are disjoint and have no duplicates. -/
theorem delta_nodup : ((materialityDelta oldScopes newScopes).added ++
    (materialityDelta oldScopes newScopes).changedTo .allow ++
    (materialityDelta oldScopes newScopes).removed ++
    (materialityDelta oldScopes newScopes).changedTo .deny).Nodup := by
  have hcompared : (comparedScopes oldScopes newScopes).Nodup := Lib.nodup_eraseDups _
  rw [added_eq, removed_eq, changedTo_allow, changedTo_deny, List.append_assoc]
  have hlost : ∀ {p q : Bool} {scope : PermissionScope},
      (gains oldScopes newScopes scope && p) = true →
        (gains newScopes oldScopes scope && q) = false := by
    intro p q scope h
    rw [not_gains_of_gains (Bool.and_eq_true_iff.1 h).1]
    rfl
  have hparts : ∀ {g p : Bool}, (g && !p) = true → (g && p) = false := by
    intro g p h
    have hp := (Bool.and_eq_true_iff.1 h).2
    rw [Bool.not_eq_true'] at hp
    rw [hp, Bool.and_false]
  refine List.nodup_append'.2 ⟨?_, ?_, ?_⟩
  · refine List.nodup_append'.2 ⟨hcompared.filter _, hcompared.filter _, ?_⟩
    exact disjoint_filter fun scope h => hparts h
  · refine List.nodup_append'.2 ⟨hcompared.filter _, hcompared.filter _, ?_⟩
    exact disjoint_filter fun scope h => hparts h
  · rw [List.disjoint_append_left, List.disjoint_append_right, List.disjoint_append_right]
    refine ⟨⟨?_, ?_⟩, ?_, ?_⟩
    all_goals exact disjoint_filter fun scope h => hlost h

/-- What is newly allowed is added or changed to allow. -/
theorem mem_gained : scope ∈ (materialityDelta oldScopes newScopes).added ++
      (materialityDelta oldScopes newScopes).changedTo .allow ↔
    gains oldScopes newScopes scope = true := by
  rw [added_eq, changedTo_allow, List.mem_append, List.mem_filter, List.mem_filter]
  constructor
  · rintro (⟨-, h⟩ | ⟨-, h⟩)
    · exact (Bool.and_eq_true_iff.1 h).1
    · exact (Bool.and_eq_true_iff.1 h).1
  · intro h
    have hmem := mem_comparedScopes_of_gains (.inl h)
    cases hmentions : mentions oldScopes scope with
    | true => exact .inr ⟨hmem, by rw [h]; rfl⟩
    | false => exact .inl ⟨hmem, by rw [h]; rfl⟩

/-- What is not allowed any more is removed or changed to deny. -/
theorem mem_lost : scope ∈ (materialityDelta oldScopes newScopes).removed ++
      (materialityDelta oldScopes newScopes).changedTo .deny ↔
    gains newScopes oldScopes scope = true := by
  rw [removed_eq, changedTo_deny, List.mem_append, List.mem_filter, List.mem_filter]
  constructor
  · rintro (⟨-, h⟩ | ⟨-, h⟩)
    · exact (Bool.and_eq_true_iff.1 h).1
    · exact (Bool.and_eq_true_iff.1 h).1
  · intro h
    have hmem := mem_comparedScopes_of_gains (.inr h)
    cases hdenied : decide (scope ∈ newScopes.deny) with
    | true => exact .inr ⟨hmem, by rw [h]; rfl⟩
    | false => exact .inl ⟨hmem, by rw [h]; rfl⟩

/-- Added is what is newly allowed and was not mentioned at all. -/
theorem mem_added : scope ∈ (materialityDelta oldScopes newScopes).added ↔
    (scope ∈ resolveScopeSet newScopes ∧ scope ∉ resolveScopeSet oldScopes) ∧
      scope ∉ oldScopes.allow ∧ scope ∉ oldScopes.deny := by
  have hmentions : (!mentions oldScopes scope) = true ↔
      scope ∉ oldScopes.allow ∧ scope ∉ oldScopes.deny := by
    simp only [mentions, Bool.not_eq_true', Bool.or_eq_false_iff, decide_eq_false_iff_not]
  rw [added_eq, List.mem_filter, Bool.and_eq_true_iff, hmentions, ← gains_iff]
  -- what flips is compared
  exact and_iff_right_of_imp fun h => mem_comparedScopes_of_gains (.inl h.1)

/-- Removed is what is not allowed any more and is not denied. -/
theorem mem_removed : scope ∈ (materialityDelta oldScopes newScopes).removed ↔
    (scope ∈ resolveScopeSet oldScopes ∧ scope ∉ resolveScopeSet newScopes) ∧
      scope ∉ newScopes.deny := by
  have hdenied : (!decide (scope ∈ newScopes.deny)) = true ↔ scope ∉ newScopes.deny := by
    simp only [Bool.not_eq_true', decide_eq_false_iff_not]
  rw [removed_eq, List.mem_filter, Bool.and_eq_true_iff, hdenied, ← gains_iff]
  exact and_iff_right_of_imp fun h => mem_comparedScopes_of_gains (.inr h.1)

/-- A change is material if a scope is gained or lost. -/
theorem isMaterial_iff : (checkMateriality oldScopes newScopes).isMaterial = true ↔
    ∃ scope, gains oldScopes newScopes scope = true ∨ gains newScopes oldScopes scope = true := by
  show isSingleDeltaMaterial (materialityDelta oldScopes newScopes) = true ↔ _
  unfold isSingleDeltaMaterial
  simp only [Bool.or_eq_true, Bool.not_eq_true', List.isEmpty_eq_false_iff_exists_mem]
  constructor
  · rintro ((⟨scope, h⟩ | ⟨scope, h⟩) | ⟨change, h⟩)
    · exact ⟨scope, .inl (mem_gained.1 (List.mem_append_left _ h))⟩
    · exact ⟨scope, .inr (mem_lost.1 (List.mem_append_left _ h))⟩
    · have hmem : change.scope ∈
          (materialityDelta oldScopes newScopes).changedTo change.toStance :=
        List.mem_map_of_mem (List.mem_filter.2 ⟨h, decide_eq_true rfl⟩)
      cases hstance : change.toStance with
      | allow =>
        rw [hstance] at hmem
        exact ⟨change.scope, .inl (mem_gained.1 (List.mem_append_right _ hmem))⟩
      | deny =>
        rw [hstance] at hmem
        exact ⟨change.scope, .inr (mem_lost.1 (List.mem_append_right _ hmem))⟩
  · have hchanged : ∀ {scope stance}, scope ∈
        (materialityDelta oldScopes newScopes).changedTo stance →
          ∃ change, change ∈ (materialityDelta oldScopes newScopes).changed := by
      intro scope stance h
      obtain ⟨change, hmem, -⟩ := List.mem_map.1 h
      exact ⟨change, (List.mem_filter.1 hmem).1⟩
    rintro ⟨scope, h | h⟩
    · rcases List.mem_append.1 (mem_gained.2 h) with hadded | hflip
      · exact .inl (.inl ⟨scope, hadded⟩)
      · exact .inr (hchanged hflip)
    · rcases List.mem_append.1 (mem_lost.2 h) with hremoved | hflip
      · exact .inl (.inr ⟨scope, hremoved⟩)
      · exact .inr (hchanged hflip)

end Exact

/-- **The check of an update is exact.** -/
theorem checkMateriality_exact (oldScopes newScopes : ScopeSet) :
    MaterialityExact oldScopes newScopes where
  material := by
    rw [isMaterial_iff]
    constructor
    · rintro ⟨scope, h | h⟩ hsame
      · exact (gains_iff.1 h).2 ((hsame scope).2 (gains_iff.1 h).1)
      · exact (gains_iff.1 h).2 ((hsame scope).1 (gains_iff.1 h).1)
    · intro hdiffer
      obtain ⟨scope, hscope⟩ := not_forall.1 hdiffer
      by_cases hold : scope ∈ resolveScopeSet oldScopes
      · have hnew : scope ∉ resolveScopeSet newScopes :=
          fun hnew => hscope ⟨fun _ => hnew, fun _ => hold⟩
        exact ⟨scope, .inr (gains_iff.2 ⟨hold, hnew⟩)⟩
      · have hnew : scope ∈ resolveScopeSet newScopes := by
          by_contra hnot
          exact hscope ⟨fun h => absurd h hold, fun h => absurd h hnot⟩
        exact ⟨scope, .inl (gains_iff.2 ⟨hnew, hold⟩)⟩
  escalates := requiresReauthorization_iff
  gained _ := mem_gained.trans gains_iff
  lost _ := mem_lost.trans gains_iff
  added _ := mem_added
  removed _ := mem_removed
  nodup := delta_nodup

/-- A scope whose denial is lifted is not added but changed. -/
theorem lifted_denial_not_added :
    ¬ ∀ oldScopes newScopes scope, scope ∈ (checkMateriality oldScopes newScopes).delta.added ↔
      scope ∈ resolveScopeSet newScopes ∧ scope ∉ resolveScopeSet oldScopes := by
  intro h
  have hadded := (h ⟨[.send], [.send]⟩ ⟨[.send], []⟩ .send).2 (by decide)
  exact absurd hadded (by decide)

end Signet
