import Signet.Core.ProfileState

/-!
# Snapshots of the profiles of a conversation

`buildProfileSnapshotFromMessages` of `profile-state.ts` resolves the profiles with its members as
those that were asked for, so that its walk may end before the last message. What the walk leaves
unread cannot change a member that has an update, and no other one lets it end early: the result for
a member is the one of the walk over all messages (`resolve_asked_eq`).
-/

namespace Signet

open Lib

variable {ν : Type}

/-- The entries of a snapshot from the resolved profiles; a member without one has an entry of its
own if `includeFallbackEntries` is set. -/
def snapshotOfResolved (toLowerCase : String → String)
    (resolved : OrdMap String (MemberProfileEntry ν)) (memberInboxIds : List String)
    (includeFallbackEntries : Option Bool) : ProfileSnapshotContent ν where
  profiles := memberInboxIds.flatMap fun inboxId =>
    match resolved.get? (toLowerCase inboxId) with
    | some profile => [profile]
    | none => if includeFallbackEntries.getD false then [{ inboxId := inboxId }] else []

/-- A snapshot only reads the profiles of its members. -/
theorem snapshotOfResolved_congr {toLowerCase : String → String}
    {resolved resolved' : OrdMap String (MemberProfileEntry ν)} {memberInboxIds : List String}
    (h : ∀ inboxId ∈ memberInboxIds,
      resolved.get? (toLowerCase inboxId) = resolved'.get? (toLowerCase inboxId))
    (includeFallbackEntries : Option Bool) :
    snapshotOfResolved toLowerCase resolved memberInboxIds includeFallbackEntries =
      snapshotOfResolved toLowerCase resolved' memberInboxIds includeFallbackEntries := by
  unfold snapshotOfResolved
  congr 1
  refine List.flatMap_congr fun inboxId hmem => ?_
  rw [h inboxId hmem]

variable [Zero ν] (deps : ProfileDeps ν)

def buildProfileSnapshotFromMessages (messages : List (ProfileMessage ν))
    (memberInboxIds : List String) (includeFallbackEntries : Option Bool) :
    ProfileSnapshotContent ν :=
  let resolved := resolveProfilesFromMessages deps messages (some memberInboxIds)
  snapshotOfResolved deps.toLowerCase resolved memberInboxIds includeFallbackEntries

omit [Zero ν] in
/-- A member that was asked for, in its own letter case. -/
theorem isAsked_of_mem {memberInboxIds : List String} {inboxId : String}
    (hmem : inboxId ∈ memberInboxIds) :
    IsAsked deps (some memberInboxIds) (deps.toLowerCase inboxId) := by
  intro ids hids
  obtain rfl := Option.some.inj hids
  exact ⟨inboxId, hmem, rfl⟩

omit [Zero ν] in
/-- Where nobody was asked for, the walk does not end early. -/
theorem isAsked_none (member : String) : IsAsked deps none member := by
  intro ids hids
  cases hids

/-- **A walk that may end early resolves the same profiles** for those that were asked for, and
builds the same snapshot. -/
theorem resolve_asked_eq (messages : List (ProfileMessage ν)) (memberInboxIds : List String)
    (includeFallbackEntries : Option Bool) :
    (∀ inboxId ∈ memberInboxIds,
      (resolveProfilesFromMessages deps messages (some memberInboxIds)).get?
          (deps.toLowerCase inboxId) =
        (resolveProfilesFromMessages deps messages none).get? (deps.toLowerCase inboxId)) ∧
    buildProfileSnapshotFromMessages deps messages memberInboxIds includeFallbackEntries =
      snapshotOfResolved deps.toLowerCase (resolveProfilesFromMessages deps messages none)
        memberInboxIds includeFallbackEntries := by
  have hsame : ∀ inboxId ∈ memberInboxIds,
      (resolveProfilesFromMessages deps messages (some memberInboxIds)).get?
          (deps.toLowerCase inboxId) =
        (resolveProfilesFromMessages deps messages none).get? (deps.toLowerCase inboxId) := by
    intro inboxId hmem
    -- both are the first update of the member, or else what the first snapshot says
    rw [get?_resolveProfilesFromMessages (isAsked_of_mem deps hmem),
      get?_resolveProfilesFromMessages (isAsked_none deps _)]
  refine ⟨hsame, ?_⟩
  show snapshotOfResolved deps.toLowerCase _ _ _ = _
  exact snapshotOfResolved_congr hsame includeFallbackEntries

end Signet
