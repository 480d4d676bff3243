import Signet.Seals.Build
import Signet.Sessions.Materiality

/-!
# The seal delta and the effective scopes

Two packages classify the same change of scopes. `computePayloadDelta` loops over
the raw allow and deny lists of two payloads; `checkMateriality` compares the
effective scopes, allowed and not denied.

`scope_delta_agreement` is about scopes outside the overlaps below. Dropped and new denials are
listed although nothing becomes or stops being effectively allowed (`denial_dropped_is_added`).

A set may list one scope in both lists. The deny entry masks the grant, but the
first two loops of `computePayloadDelta` look at the allow lists alone, so a masked
grant opposite a set that does not allow the scope is listed as a grant or a
withdrawal of its own (`MaskedAlone`). Where the other set allows the scope too, the
two toggle loops read the masking right.

`grants_iff` reads the four memberships of a scope off the loops; `withdraws_iff_grants` says that
the delta is symmetric in its two payloads.
-/

namespace Signet

/-! ### What a delta lists -/

/-- The delta lists the scope as granted: added, or changed to allow. -/
def SealDelta.Grants (delta : SealDelta) (scope : PermissionScope) : Prop :=
  scope ∈ delta.added ∨
    ∃ change ∈ delta.changed, change.scope = scope ∧ change.toStance = .allow

/-- The delta lists the scope as withdrawn: removed, or changed to deny. -/
def SealDelta.Withdraws (delta : SealDelta) (scope : PermissionScope) : Prop :=
  scope ∈ delta.removed ∨
    ∃ change ∈ delta.changed, change.scope = scope ∧ change.toStance = .deny

/-- One delta requires reauthorization exactly when it lists a grant. -/
theorem requiresReauthorization_iff_grants {delta : SealDelta} :
    requiresReauthorization [delta] = true ↔ ∃ scope, delta.Grants scope := by
  have hescalation : requiresReauthorization [delta] = true ↔
      (∃ scope, scope ∈ delta.added) ∨ ∃ change ∈ delta.changed, change.toStance = .allow := by
    simp only [requiresReauthorization, isSingleDeltaEscalation, List.any_cons, List.any_nil,
      Bool.or_false, Bool.or_eq_true, Bool.not_eq_true', List.isEmpty_eq_false_iff_exists_mem,
      List.any_eq_true, decide_eq_true_eq]
  rw [hescalation]
  constructor
  · rintro (⟨scope, hadd⟩ | ⟨change, hmem, hto⟩)
    · exact ⟨scope, .inl hadd⟩
    · exact ⟨change.scope, .inr ⟨change, hmem, rfl, hto⟩⟩
  · rintro ⟨scope, hadd | ⟨change, hmem, -, hto⟩⟩
    · exact .inl ⟨scope, hadd⟩
    · exact .inr ⟨change, hmem, hto⟩

section Loops

variable {previous next : SealPayloadType} {scope : PermissionScope}

/-- **The loops, read for one scope.** A grant is listed for a scope that enters
the allow list, or whose deny entry disappears while it does not enter it. -/
theorem grants_iff :
    (computePayloadDelta previous next).Grants scope ↔
      scope ∈ next.permissions.allow ∧ scope ∉ previous.permissions.allow ∨
        scope ∈ previous.permissions.deny ∧ scope ∉ next.permissions.deny ∧
          (scope ∈ next.permissions.allow → scope ∈ previous.permissions.allow) := by
  simp only [SealDelta.Grants, computePayloadDelta, List.mem_append, List.mem_filter,
    List.mem_map, List.mem_eraseDups, decide_eq_true_eq]
  constructor
  · rintro ((⟨hnew, hold, -⟩ | ⟨hdeny, hdrop, hnot⟩) | ⟨change, hmem, rfl, hto⟩)
    · exact .inl ⟨hnew, hold⟩
    · exact .inr ⟨hdeny, hdrop, fun h => absurd h hnot⟩
    · rcases hmem with ((⟨s, ⟨hnew, hold, -⟩, rfl⟩ | ⟨s, -, rfl⟩) | ⟨s, -, rfl⟩) |
        ⟨s, ⟨hdeny, hdrop, hboth, -⟩, rfl⟩
      · exact .inl ⟨hnew, hold⟩
      · cases hto
      · cases hto
      · exact .inr ⟨hdeny, hdrop, fun _ => hboth⟩
  · rintro (⟨hnew, hold⟩ | ⟨hdeny, hdrop, hkept⟩)
    · by_cases hdeny : scope ∈ previous.permissions.deny
      · -- the first loop: was explicitly denied, now allowed
        exact .inr ⟨⟨scope, .deny, .allow⟩,
          .inl (.inl (.inl ⟨scope, ⟨hnew, hold, hdeny⟩, rfl⟩)), rfl, rfl⟩
      · exact .inl (.inl ⟨hnew, hold, hdeny⟩)
    · by_cases hnew : scope ∈ next.permissions.allow
      · -- the second toggle loop
        exact .inr ⟨⟨scope, .deny, .allow⟩,
          .inr ⟨scope, ⟨hdeny, hdrop, hkept hnew, hnew⟩, rfl⟩, rfl, rfl⟩
      · exact .inl (.inr ⟨hdeny, hdrop, hnew⟩)

/-- **The delta is symmetric.** What it lists as withdrawn is what the delta of the
opposite change lists as granted. -/
theorem withdraws_iff_grants :
    (computePayloadDelta previous next).Withdraws scope ↔
      (computePayloadDelta next previous).Grants scope := by
  rw [grants_iff]
  simp only [SealDelta.Withdraws, computePayloadDelta, List.mem_append, List.mem_filter,
    List.mem_map, List.mem_eraseDups, decide_eq_true_eq]
  constructor
  · rintro ((⟨hold, hnew, -⟩ | ⟨hdeny, hundenied, hnot⟩) | ⟨change, hmem, rfl, hto⟩)
    · exact .inl ⟨hold, hnew⟩
    · exact .inr ⟨hdeny, hundenied, fun h => absurd h hnot⟩
    · rcases hmem with ((⟨s, -, rfl⟩ | ⟨s, ⟨hold, hnew, -⟩, rfl⟩) |
        ⟨s, ⟨hdeny, hundenied, -, hboth⟩, rfl⟩) | ⟨s, -, rfl⟩
      · cases hto
      · exact .inl ⟨hold, hnew⟩
      · exact .inr ⟨hdeny, hundenied, fun _ => hboth⟩
      · cases hto
  · rintro (⟨hold, hnew⟩ | ⟨hdeny, hundenied, hkept⟩)
    · by_cases hdeny : scope ∈ next.permissions.deny
      · -- the second loop: now explicitly denied
        exact .inr ⟨⟨scope, .allow, .deny⟩,
          .inl (.inl (.inr ⟨scope, ⟨hold, hnew, hdeny⟩, rfl⟩)), rfl, rfl⟩
      · exact .inl (.inl ⟨hold, hnew, hdeny⟩)
    · by_cases hold : scope ∈ previous.permissions.allow
      · -- the first toggle loop
        exact .inr ⟨⟨scope, .allow, .deny⟩,
          .inl (.inr ⟨scope, ⟨hdeny, hundenied, hold, hkept hold⟩, rfl⟩), rfl, rfl⟩
      · exact .inl (.inr ⟨hdeny, hundenied, hold⟩)

end Loops

/-! ### Against the effective scopes -/

section Effective

variable (before after : ScopeSet) (scope : PermissionScope)

/-- The scope goes from not effectively allowed to effectively allowed. -/
def Gained : Prop :=
  scope ∈ resolveScopeSet after ∧ scope ∉ resolveScopeSet before

/-- The scope was denied only and is not mentioned any more. -/
def DenialDropped : Prop :=
  (scope ∈ before.deny ∧ scope ∉ before.allow) ∧ scope ∉ after.allow ∧ scope ∉ after.deny

/-- A deny entry masks a grant of the scope, and the other set does not allow it. -/
def MaskedAlone : Prop :=
  (scope ∈ before.allow ∧ scope ∈ before.deny) ∧ scope ∉ after.allow

end Effective

section Agreement

variable {previous next : SealPayloadType} {scope : PermissionScope}

/-- A scope that becomes effectively allowed is listed as granted, however the two
sets overlap. -/
theorem grants_of_gained (h : Gained previous.permissions next.permissions scope) :
    (computePayloadDelta previous next).Grants scope := by
  obtain ⟨hnew, hold⟩ := h
  rw [mem_resolveScopeSet] at hnew hold
  rw [grants_iff]
  by_cases hallow : scope ∈ previous.permissions.allow
  · -- it was masked, and the mask is gone
    have hdeny : scope ∈ previous.permissions.deny := by
      by_contra hnot
      exact hold ⟨hallow, hnot⟩
    exact .inr ⟨hdeny, hnew.2, fun _ => hallow⟩
  · exact .inl ⟨hnew.1, hallow⟩

/-- Outside the masked grants, a listed grant is a gained scope or a dropped denial. -/
theorem grants_iff_gained
    (hbefore : ¬ MaskedAlone previous.permissions next.permissions scope)
    (hafter : ¬ MaskedAlone next.permissions previous.permissions scope) :
    (computePayloadDelta previous next).Grants scope ↔
      Gained previous.permissions next.permissions scope ∨
        DenialDropped previous.permissions next.permissions scope := by
  constructor
  · intro h
    rw [grants_iff] at h
    rcases h with ⟨hnew, hold⟩ | ⟨hdeny, hdrop, hkept⟩
    · -- a new entry of the allow list is not masked, the old set having none
      have hunmasked : scope ∉ next.permissions.deny := fun h => hafter ⟨⟨hnew, h⟩, hold⟩
      refine .inl ⟨mem_resolveScopeSet.2 ⟨hnew, hunmasked⟩, ?_⟩
      rw [mem_resolveScopeSet]
      exact fun h => hold h.1
    · by_cases hnew : scope ∈ next.permissions.allow
      · refine .inl ⟨mem_resolveScopeSet.2 ⟨hnew, hdrop⟩, ?_⟩
        rw [mem_resolveScopeSet]
        exact fun h => h.2 hdeny
      · have hold : scope ∉ previous.permissions.allow := fun h => hbefore ⟨⟨h, hdeny⟩, hnew⟩
        exact .inr ⟨⟨hdeny, hold⟩, hnew, hdrop⟩
  · rintro (hgain | ⟨⟨hdeny, -⟩, hnew, hdrop⟩)
    · exact grants_of_gained hgain
    · rw [grants_iff]
      exact .inr ⟨hdeny, hdrop, fun h => absurd h hnew⟩

end Agreement

/-- **Scope-delta agreement.** For a scope that neither set masks alone, the delta
lists a grant exactly when the scope is gained or its denial is dropped, and a
withdrawal exactly when it is lost or newly denied. Whatever the sessions package
sends to reauthorization the delta sends there too, and where no scope is masked
alone the two differ by dropped denials only. -/
theorem scope_delta_agreement (previous next : SealPayloadType) :
    (∀ scope, ¬ MaskedAlone previous.permissions next.permissions scope →
      ¬ MaskedAlone next.permissions previous.permissions scope →
      ((computePayloadDelta previous next).Grants scope ↔
        Gained previous.permissions next.permissions scope ∨
          DenialDropped previous.permissions next.permissions scope) ∧
      ((computePayloadDelta previous next).Withdraws scope ↔
        Gained next.permissions previous.permissions scope ∨
          DenialDropped next.permissions previous.permissions scope)) ∧
    ((checkMateriality previous.permissions next.permissions).requiresReauthorization = true →
      requiresReauthorization [computePayloadDelta previous next] = true) ∧
    ((∀ scope, ¬ MaskedAlone previous.permissions next.permissions scope ∧
        ¬ MaskedAlone next.permissions previous.permissions scope) →
      (requiresReauthorization [computePayloadDelta previous next] = true ↔
        (checkMateriality previous.permissions next.permissions).requiresReauthorization = true ∨
          ∃ scope, DenialDropped previous.permissions next.permissions scope)) := by
  refine ⟨?_, ?_, ?_⟩
  · intro scope hbefore hafter
    refine ⟨grants_iff_gained hbefore hafter, ?_⟩
    rw [withdraws_iff_grants]
    exact grants_iff_gained hafter hbefore
  · intro h
    obtain ⟨scope, hnew, hold⟩ := requiresReauthorization_iff.1 h
    rw [requiresReauthorization_iff_grants]
    exact ⟨scope, grants_of_gained ⟨hnew, hold⟩⟩
  · intro hmasked
    rw [requiresReauthorization_iff_grants, requiresReauthorization_iff]
    constructor
    · rintro ⟨scope, hgrants⟩
      obtain ⟨hbefore, hafter⟩ := hmasked scope
      rcases (grants_iff_gained hbefore hafter).1 hgrants with hgain | hdrop
      · exact .inl ⟨scope, hgain.1, hgain.2⟩
      · exact .inr ⟨scope, hdrop⟩
    · rintro (⟨scope, hnew, hold⟩ | ⟨scope, hdrop⟩)
      · exact ⟨scope, grants_of_gained ⟨hnew, hold⟩⟩
      · obtain ⟨hbefore, hafter⟩ := hmasked scope
        exact ⟨scope, (grants_iff_gained hbefore hafter).2 (.inr hdrop)⟩

def scopedPayload (permissions : ScopeSet) : SealPayloadType :=
  (SealInput.plain "cred_a1b2c3d4feedbabe" "op_a1b2c3d4feedbabe" "conv_a1b2c3d4feedbabe"
    permissions).toPayload "seal_a1b2c3d4feedbabe" 0

/-- A grant that becomes masked while it stays listed: the delta reports the loss. -/
theorem scope_delta_agreement_masked :
    (computePayloadDelta (scopedPayload ⟨[.send], []⟩)
      (scopedPayload ⟨[.send], [.send]⟩)).Withdraws .send ∧
    requiresReauthorization [computePayloadDelta (scopedPayload ⟨[.send], []⟩)
      (scopedPayload ⟨[.send], [.send]⟩)] = false := by
  obtain ⟨hscopes, -, hauth⟩ :=
    scope_delta_agreement (scopedPayload ⟨[.send], []⟩) (scopedPayload ⟨[.send], [.send]⟩)
  have hmasked : ∀ scope,
      ¬ MaskedAlone (⟨[.send], []⟩ : ScopeSet) ⟨[.send], [.send]⟩ scope ∧
      ¬ MaskedAlone (⟨[.send], [.send]⟩ : ScopeSet) ⟨[.send], []⟩ scope := by
    intro scope
    constructor
    · rintro ⟨⟨-, hdeny⟩, -⟩
      cases hdeny
    · rintro ⟨⟨hallow, -⟩, hnot⟩
      exact hnot hallow
  constructor
  · refine ((hscopes .send (hmasked .send).1 (hmasked .send).2).2).2 (.inl ⟨?_, ?_⟩)
    · exact mem_resolveScopeSet.2 (by decide)
    · exact fun h => absurd (mem_resolveScopeSet.1 h) (by decide)
  · rw [Bool.eq_false_iff, ne_eq, hauth hmasked]
    rintro (hcheck | ⟨scope, ⟨hdeny, -⟩, -⟩)
    · exact absurd hcheck (by decide)
    · cases hdeny

/-- Dropping a denial is listed as an added scope and sent to reauthorization,
although the effective scopes stay empty. -/
theorem denial_dropped_is_added :
    ¬ ∀ previous next : SealPayloadType,
      (∀ scope,
        ((computePayloadDelta previous next).Grants scope ↔
          Gained previous.permissions next.permissions scope) ∧
        ((computePayloadDelta previous next).Withdraws scope ↔
          Gained next.permissions previous.permissions scope)) ∧
      requiresReauthorization [computePayloadDelta previous next] =
        (checkMateriality previous.permissions next.permissions).requiresReauthorization := by
  intro h
  have hdiffer := (h (scopedPayload ⟨[], [.send]⟩) (scopedPayload ⟨[], []⟩)).2
  exact absurd hdiffer (by decide)

end Signet
