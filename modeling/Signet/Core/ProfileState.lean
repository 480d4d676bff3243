import Mathlib.Data.String.Basic
import Signet.Core.ProfileMessages
import Signet.Lib.Newest

/-!
# Resolving the profiles of a conversation

`resolveProfilesFromMessages` of `profile-state.ts`: the messages are walked from the
newest to the oldest, the first update of a member is its profile, and the first snapshot
that can be decoded fills in the members that have none when the walk ends. The walk ends
early once every member that was asked for has an update. `localeCompare` and
`toLowerCase` are parameters.

What a message says about a member (`statedProfile`) is the profile of its own update, or the entry
of a snapshot. `NewestWins` asks for what the newest message that says anything says. The
walk does not compare the update of a member with the snapshot, and it keeps one snapshot
only, hence the condition of `resolve_newest_wins_iff`.
-/

namespace Signet

open Lib

/-- `localeCompare` in the locale of the process. -/
structure Locale where
  localeCompare : String → String → Int
  total : ∀ a b, localeCompare a b ≤ 0 ∨ localeCompare b a ≤ 0
  trans : ∀ {a b c}, localeCompare a b ≤ 0 → localeCompare b c ≤ 0 → localeCompare a c ≤ 0

/-- Two digits, or the same separator of an ISO time. -/
def IsoAlike (c d : Char) : Prop :=
  (c.isDigit = true ∧ d.isDigit = true) ∨ (c = d ∧ c ∈ "-:.TZ+".toList)

/-- Two times in the same fixed-width ISO format. -/
def SameIsoFormat (a b : String) : Prop :=
  List.Forall₂ IsoAlike a.toList b.toList

/-- In one format, the locale orders digits as numbers. -/
def Locale.OrdersTimes (locale : Locale) : Prop :=
  ∀ {a b : String}, SameIsoFormat a b → (locale.localeCompare a b ≤ 0 ↔ a ≤ b)

/-! ### Messages about profiles -/

section

variable {ν : Type}

/-- The content of a message, as the two extractors look at it: an encoded envelope, an
object with the fields of an update and perhaps an array `profiles`, or neither. Elements
of the array that are no objects with an `inboxId` are `none`. -/
inductive ProfileContent (ν : Type) where
  | envelope (content : Bytes)
  | object (update : ProfileUpdateContent ν)
    (profiles : Option (List (Option (MemberProfileEntry ν))))
  | primitive

/-- The fields of `XmtpDecodedMessage` that are read here. -/
structure ProfileMessage (ν : Type) where
  senderInboxId : String
  contentType : String
  content : ProfileContent ν
  sentAt : String

def isContentTypeMatch (contentType : String) (target : ConvosContentTypeId) : Bool :=
  contentType = target.typeId || contentType = target.authorityId ++ "/" ++ target.typeId ++ ":1.0"

def isProfileUpdateContentType (contentType : String) : Bool :=
  isContentTypeMatch contentType contentTypeProfileUpdate

def isProfileSnapshotContentType (contentType : String) : Bool :=
  isContentTypeMatch contentType contentTypeProfileSnapshot

/-- `isSnapshotProfileEntry`, giving the entry. -/
def snapshotProfileEntry? : Option (MemberProfileEntry ν) → Option (MemberProfileEntry ν)
  | some profile => if 0 < profile.inboxId.length then some profile else none
  | none => none

/-- What the walk is given: the two message types, the locale and `toLowerCase`. -/
structure ProfileDeps (ν : Type) where
  updateType : ProfileUpdateType ν
  snapshotType : ProfileSnapshotType ν
  locale : Locale
  toLowerCase : String → String

variable [Zero ν] (deps : ProfileDeps ν)

def extractProfileUpdateContent : ProfileContent ν → Option (ProfileUpdateContent ν)
  | .envelope content => (decodeProfileUpdate deps.updateType content).toOption
  | .object update _ => some update
  | .primitive => none

def extractProfileSnapshotContent :
    ProfileContent ν → Option (List (Option (MemberProfileEntry ν)))
  | .envelope content =>
    (decodeProfileSnapshot deps.snapshotType content).toOption.map fun snapshot =>
      snapshot.profiles.map some
  | .object _ profiles => profiles
  | .primitive => none

/-! ### The walk -/

/-- The two variables of the walk. -/
structure ProfileWalk (ν : Type) where
  profilesByInboxId : OrdMap String (MemberProfileEntry ν) := OrdMap.empty
  latestSnapshotProfiles : Option (OrdMap String (MemberProfileEntry ν)) := none

omit [Zero ν] in
/-- The map of a snapshot. -/
def profilesOfSnapshot (profiles : List (Option (MemberProfileEntry ν))) :
    OrdMap String (MemberProfileEntry ν) :=
  (profiles.filterMap snapshotProfileEntry?).foldl
    (fun map profile => map.set (deps.toLowerCase profile.inboxId) profile) OrdMap.empty

/-- One turn up to the test of the end; `none` stands for `continue`. -/
def visitMessage (state : ProfileWalk ν) (message : ProfileMessage ν) : Option (ProfileWalk ν) :=
  if isProfileUpdateContentType message.contentType then
    let senderInboxId := deps.toLowerCase message.senderInboxId
    if state.profilesByInboxId.has senderInboxId then some state
    else match extractProfileUpdateContent deps message.content with
    | none => none
    | some update => some { state with
        profilesByInboxId := state.profilesByInboxId.set senderInboxId
          { update with inboxId := message.senderInboxId } }
  else if isProfileSnapshotContentType message.contentType ∧
      state.latestSnapshotProfiles.isNone then
    match extractProfileSnapshotContent deps message.content with
    | none => none
    | some profiles => some { state with
        latestSnapshotProfiles := some (profilesOfSnapshot deps profiles) }
  else some state

omit [Zero ν] in
/-- Every member that was asked for has an update. -/
def allResolved (memberInboxIds : Option (List String)) (state : ProfileWalk ν) : Bool :=
  match memberInboxIds with
  | some ids => ids.all fun inboxId => state.profilesByInboxId.has (deps.toLowerCase inboxId)
  | none => false

/-- The loop over the ordered messages. -/
def walkMessages (memberInboxIds : Option (List String)) :
    ProfileWalk ν → List (ProfileMessage ν) → ProfileWalk ν
  | state, [] => state
  | state, message :: rest =>
    match visitMessage deps state message with
    | none => walkMessages memberInboxIds state rest
    | some state =>
      if allResolved deps memberInboxIds state then state
      else walkMessages memberInboxIds state rest

omit [Zero ν] in
/-- The messages in the order of the walk. -/
def orderMessages (messages : List (ProfileMessage ν)) : List (ProfileMessage ν) :=
  messages.mergeSort fun left right =>
    decide (deps.locale.localeCompare right.sentAt left.sentAt ≤ 0)

def resolveProfilesFromMessages (messages : List (ProfileMessage ν))
    (memberInboxIds : Option (List String)) : OrdMap String (MemberProfileEntry ν) :=
  let state := walkMessages deps memberInboxIds {} (orderMessages deps messages)
  match state.latestSnapshotProfiles with
  | some profiles => state.profilesByInboxId.fillFrom profiles
  | none => state.profilesByInboxId

/-! ### What a message says about a member -/

def ownUpdate (member : String) (message : ProfileMessage ν) : Option (MemberProfileEntry ν) :=
  if isProfileUpdateContentType message.contentType ∧
      deps.toLowerCase message.senderInboxId = member then
    (extractProfileUpdateContent deps message.content).map fun update =>
      { update with inboxId := message.senderInboxId }
  else none

def snapshotEntries (message : ProfileMessage ν) : Option (List (MemberProfileEntry ν)) :=
  if isProfileSnapshotContentType message.contentType then
    (extractProfileSnapshotContent deps message.content).map fun profiles =>
      profiles.filterMap snapshotProfileEntry?
  else none

/-- The last entry of a snapshot for the member. -/
def listedProfile (member : String) (message : ProfileMessage ν) :
    Option (MemberProfileEntry ν) :=
  (snapshotEntries deps message).bind fun profiles =>
    profiles.reverse.find? fun profile => decide (deps.toLowerCase profile.inboxId = member)

/-- What the message says about the member. -/
def statedProfile (member : String) (message : ProfileMessage ν) : Option (MemberProfileEntry ν) :=
  (ownUpdate deps member message).or (listedProfile deps member message)

/-! ### What the walk keeps -/

variable {deps} {memberInboxIds : Option (List String)} {member : String}
  {state : ProfileWalk ν} {message : ProfileMessage ν} {messages : List (ProfileMessage ν)}

/-- The member is one of those that were asked for, if any were. -/
def IsAsked (deps : ProfileDeps ν) (memberInboxIds : Option (List String)) (member : String) :
    Prop :=
  ∀ ids, memberInboxIds = some ids → ∃ inboxId ∈ ids, deps.toLowerCase inboxId = member

/-- The map that a snapshot would be kept as. -/
def snapshotMap (deps : ProfileDeps ν) (message : ProfileMessage ν) :
    Option (OrdMap String (MemberProfileEntry ν)) :=
  if isProfileSnapshotContentType message.contentType then
    (extractProfileSnapshotContent deps message.content).map (profilesOfSnapshot deps)
  else none

/-- The state after one turn: `continue` leaves it as it is. -/
abbrev visited (deps : ProfileDeps ν) (state : ProfileWalk ν) (message : ProfileMessage ν) :
    ProfileWalk ν :=
  (visitMessage deps state message).getD state

/-- The map of a snapshot has its last entry for each member. -/
theorem get?_snapshotMap (member : String) (message : ProfileMessage ν) :
    ((snapshotMap deps message).bind fun profiles => profiles.get? member) =
      listedProfile deps member message := by
  unfold snapshotMap listedProfile snapshotEntries
  by_cases htype : isProfileSnapshotContentType message.contentType = true
  · rw [if_pos htype, if_pos htype]
    cases extractProfileSnapshotContent deps message.content with
    | none => rfl
    | some profiles =>
      show (profilesOfSnapshot deps profiles).get? member = _
      rw [profilesOfSnapshot, OrdMap.get?_foldl_set, OrdMap.get?_empty, Option.or_none]
      rfl
  · rw [if_neg htype, if_neg htype]
    rfl

theorem not_update_of_snapshot {contentType : String}
    (h : isProfileSnapshotContentType contentType = true) :
    isProfileUpdateContentType contentType = false := by
  unfold isProfileSnapshotContentType isContentTypeMatch at h
  rcases Bool.or_eq_true_iff.1 h with htype | htype <;>
    · rw [of_decide_eq_true htype]
      decide

theorem get?_visited (state : ProfileWalk ν) (message : ProfileMessage ν) (member : String) :
    (visited deps state message).profilesByInboxId.get? member =
      (state.profilesByInboxId.get? member).or (ownUpdate deps member message) := by
  unfold visited visitMessage ownUpdate
  by_cases hupdate : isProfileUpdateContentType message.contentType = true
  · rw [if_pos hupdate]
    dsimp only
    by_cases hthere : state.profilesByInboxId.has (deps.toLowerCase message.senderInboxId) = true
    · rw [if_pos hthere]
      by_cases hsender : deps.toLowerCase message.senderInboxId = member
      · obtain ⟨profile, hget⟩ := OrdMap.has_eq_true_iff.1 hthere
        rw [hsender] at hget
        rw [Option.getD_some, hget, Option.some_or]
      · rw [if_neg fun h => hsender h.2, Option.or_none, Option.getD_some]
    · rw [if_neg hthere]
      cases hcontent : extractProfileUpdateContent deps message.content with
      | none =>
        rw [Option.map_none, ite_self, Option.or_none]
        rfl
      | some update =>
        dsimp only
        rw [Option.getD_some, OrdMap.get?_set]
        by_cases hsender : deps.toLowerCase message.senderInboxId = member
        · rw [if_pos hsender.symm, if_pos ⟨hupdate, hsender⟩, ← hsender,
            OrdMap.get?_eq_none_of_not_has hthere]
          rfl
        · rw [if_neg (Ne.symm hsender), if_neg fun h => hsender h.2, Option.or_none]
  · have hother : ¬ (isProfileUpdateContentType message.contentType = true ∧
        deps.toLowerCase message.senderInboxId = member) := fun h => hupdate h.1
    rw [if_neg hupdate, if_neg hother, Option.or_none]
    split
    · cases extractProfileSnapshotContent deps message.content <;> rfl
    · rfl

theorem latest_visited (state : ProfileWalk ν) (message : ProfileMessage ν) :
    (visited deps state message).latestSnapshotProfiles =
      state.latestSnapshotProfiles.or (snapshotMap deps message) := by
  unfold visited visitMessage snapshotMap
  by_cases hsnapshot : isProfileSnapshotContentType message.contentType = true
  · rw [not_update_of_snapshot hsnapshot, if_neg Bool.false_ne_true, if_pos hsnapshot]
    cases hlatest : state.latestSnapshotProfiles with
    | some profiles =>
      rw [if_neg (by simp), Option.getD_some, hlatest, Option.some_or]
    | none =>
      rw [if_pos ⟨hsnapshot, rfl⟩, Option.none_or]
      cases extractProfileSnapshotContent deps message.content with
      | none => exact hlatest
      | some profiles => rfl
  · rw [if_neg hsnapshot, Option.or_none]
    split
    · dsimp only
      split
      · rfl
      · cases extractProfileUpdateContent deps message.content <;> rfl
    · rw [if_neg fun h => hsnapshot h.1, Option.getD_some]

omit [Zero ν] in
theorem get?_isSome_of_allResolved (hasked : IsAsked deps memberInboxIds member)
    (h : allResolved deps memberInboxIds state = true) :
    (state.profilesByInboxId.get? member).isSome = true := by
  cases hids : memberInboxIds with
  | none =>
    rw [hids] at h
    cases h
  | some ids =>
    obtain ⟨inboxId, hmem, rfl⟩ := hasked ids hids
    rw [hids] at h
    exact List.all_eq_true.1 h inboxId hmem

/-- **The walk keeps the first update of the member, and the first snapshot** unless it ended
before that, with an update of the member. -/
theorem walkMessages_spec (hasked : IsAsked deps memberInboxIds member)
    (messages : List (ProfileMessage ν)) (state : ProfileWalk ν) :
    (walkMessages deps memberInboxIds state messages).profilesByInboxId.get? member =
        (state.profilesByInboxId.get? member).or
          (messages.findSome? (ownUpdate deps member)) ∧
      ((walkMessages deps memberInboxIds state messages).profilesByInboxId.get? member = none →
        (walkMessages deps memberInboxIds state messages).latestSnapshotProfiles =
          state.latestSnapshotProfiles.or (messages.findSome? (snapshotMap deps))) := by
  induction messages generalizing state with
  | nil => exact ⟨Option.or_none.symm, fun _ => Option.or_none.symm⟩
  | cons message rest ih =>
    have hupdates : (state.profilesByInboxId.get? member).or
        ((message :: rest).findSome? (ownUpdate deps member)) =
          ((visited deps state message).profilesByInboxId.get? member).or
            (rest.findSome? (ownUpdate deps member)) := by
      rw [get?_visited, Option.or_assoc, List.findSome?_cons]
      cases ownUpdate deps member message <;> rfl
    have hsnapshots : state.latestSnapshotProfiles.or
        ((message :: rest).findSome? (snapshotMap deps)) =
          (visited deps state message).latestSnapshotProfiles.or
            (rest.findSome? (snapshotMap deps)) := by
      rw [latest_visited, Option.or_assoc, List.findSome?_cons]
      cases snapshotMap deps message <;> rfl
    rw [hupdates, hsnapshots, walkMessages]
    unfold visited
    cases hvisit : visitMessage deps state message with
    | none => exact ih state
    | some next =>
      rw [Option.getD_some]
      dsimp only
      by_cases hend : allResolved deps memberInboxIds next = true
      · -- the end: the member has a profile, and later messages do not count
        obtain ⟨profile, hprofile⟩ :=
          Option.isSome_iff_exists.1 (get?_isSome_of_allResolved hasked hend)
        rw [if_pos hend, hprofile, Option.some_or]
        exact ⟨rfl, nofun⟩
      · rw [if_neg hend]
        exact ih next

/-- **What is resolved**: the first update of the member, or else what the first snapshot says. -/
theorem get?_resolveProfilesFromMessages (hasked : IsAsked deps memberInboxIds member)
    (messages : List (ProfileMessage ν)) :
    (resolveProfilesFromMessages deps messages memberInboxIds).get? member =
      ((orderMessages deps messages).findSome? (ownUpdate deps member)).or
        (((orderMessages deps messages).findSome? (snapshotMap deps)).bind fun profiles =>
          profiles.get? member) := by
  obtain ⟨hprofile, hlatest⟩ :=
    walkMessages_spec hasked (orderMessages deps messages) {}
  unfold resolveProfilesFromMessages
  dsimp only
  generalize walkMessages deps memberInboxIds {} (orderMessages deps messages) = state
    at hprofile hlatest
  rw [OrdMap.get?_empty, Option.none_or] at hprofile
  rw [Option.none_or] at hlatest
  cases hupdate : (orderMessages deps messages).findSome? (ownUpdate deps member) with
  | some profile =>
    rw [hupdate] at hprofile
    rw [Option.some_or]
    cases state.latestSnapshotProfiles with
    | none => exact hprofile
    | some profiles =>
      dsimp only
      rw [OrdMap.get?_fillFrom, hprofile, Option.some_or]
  | none =>
    rw [hupdate] at hprofile
    rw [Option.none_or, ← hlatest hprofile]
    cases state.latestSnapshotProfiles with
    | none => exact hprofile
    | some profiles =>
      dsimp only
      rw [OrdMap.get?_fillFrom, hprofile, Option.none_or]
      rfl

/-! ### The order of the walk -/

omit [Zero ν] in
theorem orderMessages_perm (deps : ProfileDeps ν) (messages : List (ProfileMessage ν)) :
    (orderMessages deps messages).Perm messages :=
  List.mergeSort_perm messages _

omit [Zero ν] in
/-- **The walk goes from the newest message to the oldest**, where all times are different and
written in one format. -/
theorem descending_orderMessages (hlocale : deps.locale.OrdersTimes)
    (hdistinct : (messages.map ProfileMessage.sentAt).Nodup)
    (hformat : ∀ m ∈ messages, ∀ m' ∈ messages, SameIsoFormat m.sentAt m'.sentAt) :
    Descending ProfileMessage.sentAt (orderMessages deps messages) := by
  have hperm := orderMessages_perm deps messages
  have hsorted : (orderMessages deps messages).Pairwise fun left right =>
      decide (deps.locale.localeCompare right.sentAt left.sentAt ≤ 0) = true := by
    refine List.pairwise_mergeSort (fun a b c hab hbc => ?_) (fun a b => ?_) messages
    · exact decide_eq_true (deps.locale.trans (of_decide_eq_true hbc) (of_decide_eq_true hab))
    · rcases deps.locale.total b.sentAt a.sentAt with h | h
      · rw [decide_eq_true h, Bool.true_or]
      · rw [decide_eq_true h, Bool.or_true]
  have hne : (orderMessages deps messages).Pairwise fun left right =>
      left.sentAt ≠ right.sentAt :=
    List.pairwise_map.1 ((hperm.map _).nodup_iff.2 hdistinct)
  refine (hsorted.and hne).imp_of_mem fun {left right} hleft hright h => ?_
  have hle := (hlocale (hformat _ (hperm.mem_iff.1 hright) _ (hperm.mem_iff.1 hleft))).1
    (of_decide_eq_true h.1)
  exact lt_of_le_of_ne hle (Ne.symm h.2)

/-! ### Newest wins -/

/-- The profile is what the newest message says that says anything about the member. -/
structure NewestWins (deps : ProfileDeps ν) (member : String) (messages : List (ProfileMessage ν))
    (resolved : Option (MemberProfileEntry ν)) : Prop where
  newest : ∀ message, IsNewest ProfileMessage.sentAt
    (fun m => (statedProfile deps member m).isSome = true) messages message →
      resolved = statedProfile deps member message
  silent : (∀ message ∈ messages, statedProfile deps member message = none) → resolved = none

/-- The walk has no reason to look at a snapshot for an update, or at an older snapshot. -/
structure SnapshotsSettled (deps : ProfileDeps ν) (member : String)
    (messages : List (ProfileMessage ν)) : Prop where
  /-- The newest snapshot that lists the member is older than its newest update, or says the
  same. -/
  update : ∀ {update snapshot},
    IsNewest ProfileMessage.sentAt (fun m => (ownUpdate deps member m).isSome = true) messages
      update →
    IsNewest ProfileMessage.sentAt (fun m => (listedProfile deps member m).isSome = true) messages
      snapshot →
    snapshot.sentAt < update.sentAt ∨
      listedProfile deps member snapshot = ownUpdate deps member update
  /-- Without an update, the newest snapshot lists the member if any does. -/
  snapshot : (∀ message ∈ messages, ownUpdate deps member message = none) →
    ∀ {newest}, IsNewest ProfileMessage.sentAt
        (fun m => (snapshotEntries deps m).isSome = true) messages newest →
      (∃ message ∈ messages, (listedProfile deps member message).isSome = true) →
        (listedProfile deps member newest).isSome = true

/-! ### One message -/

variable {update snapshot newest : ProfileMessage ν}

theorem isSome_statedProfile_iff : (statedProfile deps member message).isSome = true ↔
    (ownUpdate deps member message).isSome = true ∨
      (listedProfile deps member message).isSome = true := by
  rw [statedProfile, Option.isSome_or, Bool.or_eq_true]

theorem isSome_snapshotEntries (h : (listedProfile deps member message).isSome = true) :
    (snapshotEntries deps message).isSome = true := by
  obtain ⟨profile, hprofile⟩ := Option.isSome_iff_exists.1 h
  obtain ⟨profiles, hentries, -⟩ := Option.bind_eq_some_iff.1 hprofile
  rw [hentries]
  rfl

theorem isSome_snapshotMap_iff : (snapshotMap deps message).isSome = true ↔
    (snapshotEntries deps message).isSome = true := by
  unfold snapshotMap snapshotEntries
  split
  · rw [Option.isSome_map, Option.isSome_map]
  · rfl

/-- A snapshot is nobody's update. -/
theorem ownUpdate_of_listed (h : (listedProfile deps member message).isSome = true) :
    ownUpdate deps member message = none := by
  have htype : isProfileSnapshotContentType message.contentType = true := by
    by_contra htype
    have hentries := isSome_snapshotEntries h
    rw [snapshotEntries, if_neg htype] at hentries
    cases hentries
  rw [ownUpdate, not_update_of_snapshot htype]
  exact if_neg fun h => Bool.false_ne_true h.1

theorem statedProfile_of_listed (h : (listedProfile deps member message).isSome = true) :
    statedProfile deps member message = listedProfile deps member message := by
  rw [statedProfile, ownUpdate_of_listed h, Option.none_or]

theorem statedProfile_of_update (h : (ownUpdate deps member message).isSome = true) :
    statedProfile deps member message = ownUpdate deps member message := by
  obtain ⟨profile, hprofile⟩ := Option.isSome_iff_exists.1 h
  rw [statedProfile, hprofile, Option.some_or]

/-! ### The newest message -/

/-- The newest message decides. -/
theorem newestWins_iff {resolved : Option (MemberProfileEntry ν)}
    (h : IsNewest ProfileMessage.sentAt
      (fun m => (statedProfile deps member m).isSome = true) messages message) :
    NewestWins deps member messages resolved ↔ resolved = statedProfile deps member message := by
  constructor
  · intro hwins
    exact hwins.newest message h
  · intro heq
    refine ⟨fun other hother => ?_, fun hsilent => ?_⟩
    · rw [hother.unique h]
      exact heq
    · rw [heq, hsilent message h.mem]

/-- An update is the newest message about its sender if no snapshot that lists the sender is
newer. -/
theorem isNewest_stated_of_update
    (hupdate : IsNewest ProfileMessage.sentAt
      (fun m => (ownUpdate deps member m).isSome = true) messages update)
    (hnewer : ∀ m ∈ messages, (listedProfile deps member m).isSome = true →
      m.sentAt < update.sentAt) :
    IsNewest ProfileMessage.sentAt
      (fun m => (statedProfile deps member m).isSome = true) messages update :=
  (hupdate.or_of_newer fun m hm hlisted => .inr (hnewer m hm hlisted)).imp
    (fun _ => isSome_statedProfile_iff.1) (isSome_statedProfile_iff.2 (.inl hupdate.holds))

theorem isNewest_stated_of_snapshot
    (hsnapshot : IsNewest ProfileMessage.sentAt
      (fun m => (listedProfile deps member m).isSome = true) messages snapshot)
    (hnewer : ∀ m ∈ messages, (ownUpdate deps member m).isSome = true →
      m.sentAt < snapshot.sentAt) :
    IsNewest ProfileMessage.sentAt
      (fun m => (statedProfile deps member m).isSome = true) messages snapshot :=
  (hsnapshot.or_of_newer fun m hm hown => .inr (hnewer m hm hown)).imp
    (fun _ h => (isSome_statedProfile_iff.1 h).symm)
    (isSome_statedProfile_iff.2 (.inr hsnapshot.holds))

/-! ### What is resolved -/

/-- An update of the member is resolved, the newest one. -/
theorem resolved_of_update (hasked : IsAsked deps memberInboxIds member)
    (hdesc : Descending ProfileMessage.sentAt (orderMessages deps messages))
    (hupdate : IsNewest ProfileMessage.sentAt
      (fun m => (ownUpdate deps member m).isSome = true) messages update) :
    (resolveProfilesFromMessages deps messages memberInboxIds).get? member =
      ownUpdate deps member update := by
  have hfirst := findSome?_of_isNewest hdesc (hupdate.perm (orderMessages_perm deps messages).symm)
  obtain ⟨profile, hprofile⟩ := Option.isSome_iff_exists.1 hupdate.holds
  rw [get?_resolveProfilesFromMessages hasked, hfirst, hprofile, Option.some_or]

theorem resolved_of_snapshot (hasked : IsAsked deps memberInboxIds member)
    (hdesc : Descending ProfileMessage.sentAt (orderMessages deps messages))
    (hnone : ∀ m ∈ messages, ownUpdate deps member m = none)
    (hnewest : IsNewest ProfileMessage.sentAt
      (fun m => (snapshotEntries deps m).isSome = true) messages newest) :
    (resolveProfilesFromMessages deps messages memberInboxIds).get? member =
      listedProfile deps member newest := by
  have hperm := orderMessages_perm deps messages
  have hmap : IsNewest ProfileMessage.sentAt
      (fun m => (snapshotMap deps m).isSome = true) messages newest :=
    hnewest.imp (fun _ => isSome_snapshotMap_iff.1) (isSome_snapshotMap_iff.2 hnewest.holds)
  have hupdates : (orderMessages deps messages).findSome? (ownUpdate deps member) = none :=
    List.findSome?_eq_none_iff.2 fun m hm => hnone m (hperm.mem_iff.1 hm)
  rw [get?_resolveProfilesFromMessages hasked, hupdates, Option.none_or,
    findSome?_of_isNewest hdesc (hmap.perm hperm.symm), get?_snapshotMap]

theorem resolved_of_none (hasked : IsAsked deps memberInboxIds member)
    (hnone : ∀ m ∈ messages, ownUpdate deps member m = none)
    (hsnapshots : ∀ m ∈ messages, ¬ (snapshotEntries deps m).isSome = true) :
    (resolveProfilesFromMessages deps messages memberInboxIds).get? member = none := by
  have hperm := orderMessages_perm deps messages
  have hupdates : (orderMessages deps messages).findSome? (ownUpdate deps member) = none :=
    List.findSome?_eq_none_iff.2 fun m hm => hnone m (hperm.mem_iff.1 hm)
  have hmaps : (orderMessages deps messages).findSome? (snapshotMap deps) = none :=
    List.findSome?_eq_none_iff.2 fun m hm => Option.not_isSome_iff_eq_none.1 fun h =>
      hsnapshots m (hperm.mem_iff.1 hm) (isSome_snapshotMap_iff.1 h)
  rw [get?_resolveProfilesFromMessages hasked, hupdates, hmaps]
  rfl

/-- With an update: exactly if no newer snapshot says something else. -/
theorem newestWins_update_iff (hdistinct : (messages.map ProfileMessage.sentAt).Nodup)
    (hupdate : IsNewest ProfileMessage.sentAt
      (fun m => (ownUpdate deps member m).isSome = true) messages update) :
    NewestWins deps member messages (ownUpdate deps member update) ↔
      SnapshotsSettled deps member messages := by
  have hsettled : SnapshotsSettled deps member messages ↔ ∀ {snapshot},
      IsNewest ProfileMessage.sentAt
        (fun m => (listedProfile deps member m).isSome = true) messages snapshot →
      snapshot.sentAt < update.sentAt ∨
        listedProfile deps member snapshot = ownUpdate deps member update := by
    constructor
    · exact fun h => h.update hupdate
    · intro h
      refine ⟨fun hother hsnapshot => hother.unique hupdate ▸ h hsnapshot, fun hnone => ?_⟩
      have hholds := hupdate.holds
      rw [hnone update hupdate.mem] at hholds
      cases hholds
  rw [hsettled]
  by_cases hlisted : ∃ m ∈ messages, (listedProfile deps member m).isSome = true
  · obtain ⟨snapshot, hsnapshot⟩ := exists_isNewest hdistinct hlisted
    rcases lt_or_ge snapshot.sentAt update.sentAt with hlt | hge
    · -- every snapshot that lists the member is older
      have hnewest := isNewest_stated_of_update hupdate fun m hm h =>
        (hsnapshot.newer m hm h).elim (fun heq => heq ▸ hlt) fun hm => hm.trans hlt
      rw [newestWins_iff hnewest, statedProfile_of_update hupdate.holds]
      refine iff_of_true rfl fun hother => .inl ?_
      rw [hother.unique hsnapshot]
      exact hlt
    · -- the snapshot is the newest message, so it has to say what the update says
      have hne : update.sentAt ≠ snapshot.sentAt := by
        intro heq
        have hsame := List.inj_on_of_nodup_map hdistinct hupdate.mem hsnapshot.mem heq
        have hholds := hupdate.holds
        rw [hsame, ownUpdate_of_listed hsnapshot.holds] at hholds
        cases hholds
      have hlt : update.sentAt < snapshot.sentAt := lt_of_le_of_ne hge hne
      have hnewest := isNewest_stated_of_snapshot hsnapshot fun m hm h =>
        (hupdate.newer m hm h).elim (fun heq => heq ▸ hlt) fun hm => hm.trans hlt
      rw [newestWins_iff hnewest, statedProfile_of_listed hsnapshot.holds]
      constructor
      · intro heq other hother
        rw [hother.unique hsnapshot]
        exact .inr heq.symm
      · intro h
        exact ((h hsnapshot).resolve_left (lt_asymm hlt)).symm
  · -- no snapshot lists the member
    have hnewest := isNewest_stated_of_update hupdate fun m hm h => absurd ⟨m, hm, h⟩ hlisted
    rw [newestWins_iff hnewest, statedProfile_of_update hupdate.holds]
    exact iff_of_true rfl fun hother => absurd ⟨_, hother.mem, hother.holds⟩ hlisted

/-- Where no message says anything about the member, resolving nothing is right. -/
theorem newestWins_none_of_silent
    (h : ∀ m ∈ messages, statedProfile deps member m = none) :
    NewestWins deps member messages none := by
  refine ⟨fun message hnewest => ?_, fun _ => rfl⟩
  have hholds := hnewest.holds
  rw [h message hnewest.mem] at hholds
  cases hholds

/-- Without an update, and without a snapshot that lists the member, there is nothing to settle. -/
theorem snapshotsSettled_of_silent (hnone : ∀ m ∈ messages, ownUpdate deps member m = none)
    (hlisted : ¬ ∃ m ∈ messages, (listedProfile deps member m).isSome = true) :
    SnapshotsSettled deps member messages where
  update hupdate := by
    have hholds := hupdate.holds
    rw [hnone _ hupdate.mem] at hholds
    cases hholds
  snapshot _ _ _ h := absurd h hlisted

/-- Without an update: exactly if the newest snapshot lists the member, should any. -/
theorem newestWins_snapshot_iff (hdistinct : (messages.map ProfileMessage.sentAt).Nodup)
    (hnone : ∀ m ∈ messages, ownUpdate deps member m = none)
    (hnewest : IsNewest ProfileMessage.sentAt
      (fun m => (snapshotEntries deps m).isSome = true) messages newest) :
    NewestWins deps member messages (listedProfile deps member newest) ↔
      SnapshotsSettled deps member messages := by
  by_cases hlisted : ∃ m ∈ messages, (listedProfile deps member m).isSome = true
  · obtain ⟨snapshot, hsnapshot⟩ := exists_isNewest hdistinct hlisted
    have hstated := isNewest_stated_of_snapshot hsnapshot fun m hm h => by
      rw [hnone m hm] at h
      cases h
    rw [newestWins_iff hstated, statedProfile_of_listed hsnapshot.holds]
    constructor
    · intro heq
      refine ⟨fun hupdate => ?_, fun _ other hother _ => ?_⟩
      · have hholds := hupdate.holds
        rw [hnone _ hupdate.mem] at hholds
        cases hholds
      · rw [hother.unique hnewest, heq]
        exact hsnapshot.holds
    · intro hsettled
      -- the newest snapshot lists the member, so it is the newest that does
      have hlists := hsettled.snapshot hnone hnewest hlisted
      have hsame := hnewest.imp (fun _ => isSome_snapshotEntries) hlists
      rw [hsame.unique hsnapshot]
  · have hsilent : ∀ m ∈ messages, listedProfile deps member m = none := fun m hm =>
      Option.not_isSome_iff_eq_none.1 fun h => hlisted ⟨m, hm, h⟩
    refine iff_of_true ?_ (snapshotsSettled_of_silent hnone hlisted)
    rw [hsilent newest hnewest.mem]
    refine newestWins_none_of_silent fun m hm => ?_
    rw [statedProfile, hnone m hm, hsilent m hm]
    rfl

/-- **When the newest wins.** For a member that was asked for, and messages with different times in
one format: exactly if no newer snapshot contradicts the newest update of the member, and the
newest snapshot lists a member that has no update, if any does. -/
theorem resolve_newest_wins_iff (hlocale : deps.locale.OrdersTimes)
    (hdistinct : (messages.map ProfileMessage.sentAt).Nodup)
    (hformat : ∀ m ∈ messages, ∀ m' ∈ messages, SameIsoFormat m.sentAt m'.sentAt)
    (hasked : IsAsked deps memberInboxIds member) :
    NewestWins deps member messages
        ((resolveProfilesFromMessages deps messages memberInboxIds).get? member) ↔
      SnapshotsSettled deps member messages := by
  have hdesc := descending_orderMessages hlocale hdistinct hformat
  by_cases hupdates : ∃ m ∈ messages, (ownUpdate deps member m).isSome = true
  · obtain ⟨update, hupdate⟩ := exists_isNewest hdistinct hupdates
    rw [resolved_of_update hasked hdesc hupdate]
    exact newestWins_update_iff hdistinct hupdate
  have hnone : ∀ m ∈ messages, ownUpdate deps member m = none := fun m hm =>
    Option.not_isSome_iff_eq_none.1 fun h => hupdates ⟨m, hm, h⟩
  by_cases hsnapshots : ∃ m ∈ messages, (snapshotEntries deps m).isSome = true
  · obtain ⟨newest, hnewest⟩ := exists_isNewest hdistinct hsnapshots
    rw [resolved_of_snapshot hasked hdesc hnone hnewest]
    exact newestWins_snapshot_iff hdistinct hnone hnewest
  · have hlisted : ¬ ∃ m ∈ messages, (listedProfile deps member m).isSome = true :=
      fun ⟨m, hm, h⟩ => hsnapshots ⟨m, hm, isSome_snapshotEntries h⟩
    rw [resolved_of_none hasked hnone fun m hm h => hsnapshots ⟨m, hm, h⟩]
    refine iff_of_true (newestWins_none_of_silent fun m hm => ?_)
      (snapshotsSettled_of_silent hnone hlisted)
    rw [statedProfile, hnone m hm, Option.none_or]
    exact Option.not_isSome_iff_eq_none.1 fun h => hlisted ⟨m, hm, h⟩

end

/-! ### An update and a snapshot -/

namespace ProfileExample

/-- Texts by code points, with the answers of `localeCompare`. -/
def compareCodePoints (a b : String) : Int :=
  if a < b then -1 else if a = b then 0 else 1

theorem compareCodePoints_le_iff {a b : String} : compareCodePoints a b ≤ 0 ↔ a ≤ b := by
  unfold compareCodePoints
  rcases lt_trichotomy a b with h | rfl | h
  · rw [if_pos h]
    exact iff_of_true (by decide) h.le
  · rw [if_neg (lt_irrefl a), if_pos rfl]
    exact iff_of_true (by decide) le_rfl
  · rw [if_neg (lt_asymm h), if_neg h.ne']
    exact iff_of_false (by decide) (not_le.2 h)

/-- Texts are compared by code points, and ids are in lower case. -/
def deps : ProfileDeps Nat where
  updateType := updateWire
  snapshotType := snapshotWire
  locale :=
    { localeCompare := compareCodePoints
      total := fun a b => by
        rw [compareCodePoints_le_iff, compareCodePoints_le_iff]
        exact le_total a b
      trans := fun hab hbc => by
        rw [compareCodePoints_le_iff] at hab hbc ⊢
        exact hab.trans hbc }
  toLowerCase := id

theorem ordersTimes : deps.locale.OrdersTimes := fun _ => compareCodePoints_le_iff

/-- The member's own update. -/
def update (sentAt : String) : ProfileMessage Nat where
  senderInboxId := "inbox-a"
  contentType := "profile_update"
  content := .object { name := some "Codex", memberKind := some .agent } none
  sentAt := sentAt

/-- A snapshot of the host that lists the member. -/
def snapshot (sentAt : String) : ProfileMessage Nat where
  senderInboxId := "host"
  contentType := "profile_snapshot"
  content := .object {} (some [some { inboxId := "inbox-a", name := some "Other Name" }])
  sentAt := sentAt

instance (c d : Char) : Decidable (IsoAlike c d) :=
  inferInstanceAs (Decidable (_ ∨ _))

instance (a b : String) : Decidable (SameIsoFormat a b) :=
  inferInstanceAs (Decidable (List.Forall₂ _ _ _))

end ProfileExample

section Examples

open ProfileExample

/-- An update is resolved that is newer than a snapshot. -/
theorem resolve_newest_wins_iff_update :
    NewestWins ProfileExample.deps "inbox-a"
      [update "2026-04-15T14:05:00.000Z", snapshot "2026-04-15T14:00:00.000Z"]
      ((resolveProfilesFromMessages ProfileExample.deps
        [update "2026-04-15T14:05:00.000Z", snapshot "2026-04-15T14:00:00.000Z"]
        (some ["inbox-a"])).get? "inbox-a") := by
  refine (resolve_newest_wins_iff ordersTimes (by decide +kernel) (by decide +kernel)
    (fun ids hids => ⟨"inbox-a", by cases hids; simp, rfl⟩)).2 ⟨fun hupdate hsnapshot => ?_, ?_⟩
  · rcases List.mem_pair.1 hupdate.mem with rfl | rfl
    · rcases List.mem_pair.1 hsnapshot.mem with rfl | rfl
      · exact absurd hsnapshot.holds (by decide +kernel)
      · exact .inl (by decide +kernel)
    · exact absurd hupdate.holds (by decide +kernel)
  · intro hnone
    exact absurd (hnone _ List.mem_cons_self) (by decide +kernel)

/-- **An old update wins over a newer snapshot**: the member is resolved as it called itself
before. -/
theorem old_update_wins : ¬ ∀ (deps : ProfileDeps Nat) (messages : List (ProfileMessage Nat))
    (memberInboxIds : Option (List String)) (member : String), deps.locale.OrdersTimes →
    (messages.map ProfileMessage.sentAt).Nodup →
    (∀ m ∈ messages, ∀ m' ∈ messages, SameIsoFormat m.sentAt m'.sentAt) →
    (∀ m ∈ messages, (∃ sender, (ownUpdate deps sender m).isSome = true) ∨
      (snapshotEntries deps m).isSome = true) →
    IsAsked deps memberInboxIds member →
      NewestWins deps member messages
        ((resolveProfilesFromMessages deps messages memberInboxIds).get? member) := by
  intro h
  have hdistinct : ([update "2026-04-15T14:00:00.000Z", snapshot "2026-04-15T14:05:00.000Z"].map
      ProfileMessage.sentAt).Nodup := by decide +kernel
  have hformat : ∀ m ∈ [update "2026-04-15T14:00:00.000Z", snapshot "2026-04-15T14:05:00.000Z"],
      ∀ m' ∈ [update "2026-04-15T14:00:00.000Z", snapshot "2026-04-15T14:05:00.000Z"],
        SameIsoFormat m.sentAt m'.sentAt := by decide +kernel
  have hasked : IsAsked ProfileExample.deps (some ["inbox-a"]) "inbox-a" :=
    fun ids hids => ⟨"inbox-a", by cases hids; simp, rfl⟩
  have hwins := h ProfileExample.deps _ (some ["inbox-a"]) "inbox-a" ordersTimes hdistinct hformat
    (fun m hm => by
      rcases List.mem_pair.1 hm with rfl | rfl
      · exact .inl ⟨"inbox-a", by decide +kernel⟩
      · exact .inr (by decide +kernel)) hasked
  have hupdate : IsNewest ProfileMessage.sentAt
      (fun m => (ownUpdate ProfileExample.deps "inbox-a" m).isSome = true)
      [update "2026-04-15T14:00:00.000Z", snapshot "2026-04-15T14:05:00.000Z"]
      (update "2026-04-15T14:00:00.000Z") := by
    refine ⟨List.mem_cons_self, by decide +kernel, fun m hm hown => ?_⟩
    rcases List.mem_pair.1 hm with rfl | rfl
    · exact .inl rfl
    · exact absurd hown (by decide +kernel)
  rw [resolved_of_update hasked (descending_orderMessages ordersTimes hdistinct hformat) hupdate]
    at hwins
  have hsame := hwins.newest (snapshot "2026-04-15T14:05:00.000Z")
    ⟨by simp, by decide +kernel, fun m hm _ => by
      rcases List.mem_pair.1 hm with rfl | rfl
      · exact .inr (by decide +kernel)
      · exact .inl rfl⟩
  exact absurd hsame (by decide +kernel)

end Examples

end Signet
