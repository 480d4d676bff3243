import Signet.Cli.InviteListener

/-!
# The recovery scan of a DM

`listRecentInviteCandidatesAcrossManagedIdentities` reads a DM page by page, newest first, for each
managed identity, and goes on before the oldest message of a page. The time of that message has been
cut to milliseconds on the way, and the bound is strict: what was sent earlier in that millisecond
is skipped.

* `scanMessages_eq_readPages`: on a conversation that answers from its history, the scan is a
  reading of pages in the sense of `Lib.Paging`.
* `recovery_scan_complete_iff`: the scan ends, and it considers every message exactly if no page
  ends within a millisecond.
-/

namespace Signet

open Lib

/-- `ManagedInviteHostClient`, as the scan uses it. -/
structure ManagedInviteHostClient where
  listMessages : String → ListMessagesOptions → Result (List DecodedMessage)

structure ManagedInviteHostIdentity where
  id : String
  inboxId : Option String

/-- `ManagedInviteHostListenerDeps`, as the scan uses it. -/
structure ManagedInviteHostListenerDeps where
  listIdentities : List ManagedInviteHostIdentity
  getManagedClient : String → Option ManagedInviteHostClient
  onboardingScheme : InviteScheme

/-- `RECENT_JOIN_SCAN_OPTIONS.limit`. -/
def recentJoinScanLimit : Nat := 10

/-- The state of a scan. -/
structure InviteScan where
  messages : OrdMap String RawMessageEvent
  shouldRetry : Bool
  /-- How often `listMessages` has been called. -/
  calls : Nat
  /-- The messages that the loop has gone through. -/
  considered : List RawMessageEvent

/-- Nothing has been read. -/
def InviteScan.start : InviteScan :=
  ⟨.empty, false, 0, []⟩

section Scan

variable (scheme : InviteScheme)

/-- The body of the inner loop. -/
def considerMessage (processed : ProcessedInvites) (scan : InviteScan) (event : RawMessageEvent) :
    InviteScan :=
  let scan := { scan with considered := scan.considered ++ [event] }
  if !scheme.isInviteMessage event then scan
  else if processed.isProcessed event.messageId (scheme.resolveInviteRequestKey event) then scan
  else
    let key := scheme.candidateKey event
    { scan with
      messages :=
        scan.messages.set key (scheme.preferInviteCandidate (scan.messages.get? key) event) }

/-- The inner loop over a page, oldest first. -/
def considerPage (processed : ProcessedInvites) (scan : InviteScan) (page : List DecodedMessage) :
    InviteScan :=
  (page.reverse.map toRawMessageEvent).foldl (considerMessage scheme processed) scan

/-- The sets may change while a page is read: `processed n` is what they are after the `n`-th
answer. -/
def scanMessages (processed : Nat → ProcessedInvites)
    (listMessages : ListMessagesOptions → Result (List DecodedMessage)) :
    Nat → Option String → InviteScan → Option InviteScan
  | 0, _, _ => none
  | fuel + 1, before, scan =>
    let scan := { scan with calls := scan.calls + 1 }
    match listMessages (descendingBefore recentJoinScanLimit before) with
    | .error e =>
      if e.category = .notFound then some scan else some { scan with shouldRetry := true }
    | .ok page =>
      if page.isEmpty then some scan
      else
        let scan := considerPage scheme (processed scan.calls) scan page
        if page.length < recentJoinScanLimit then some scan
        else match page.getLast?.bind fun oldest => orUndefined oldest.sentAt with
        | none => some scan
        | some before => scanMessages processed listMessages fuel (some before) scan

end Scan

/-- The body of the loop over the identities. -/
def scanIdentity (deps : ManagedInviteHostListenerDeps) (conversationId : String)
    (processed : Nat → ProcessedInvites) (fuel : Nat) (scan : InviteScan)
    (identity : ManagedInviteHostIdentity) : Option InviteScan :=
  match deps.getManagedClient identity.id with
  | none => some scan
  | some managed =>
    scanMessages deps.onboardingScheme processed (managed.listMessages conversationId) fuel none
      scan

def listRecentInviteCandidatesAcrossManagedIdentities (deps : ManagedInviteHostListenerDeps)
    (conversationId : String) (processed : Nat → ProcessedInvites) (fuel : Nat) :
    Option InviteScan :=
  deps.listIdentities.foldlM (scanIdentity deps conversationId processed fuel) .start

/-! ### What a scan goes through -/

/-- From `scan` to `scan'`, the events have been considered in this order. -/
structure WentThrough (scheme : InviteScheme) (processed : Nat → ProcessedInvites)
    (scan scan' : InviteScan) (events : List RawMessageEvent) : Prop where
  considered : scan'.considered = scan.considered ++ events
  kept : ∀ key, scan.messages.has key → scan'.messages.has key
  offered : ∀ event ∈ events, scheme.isInviteMessage event = true →
    (∀ n, (processed n).isProcessed event.messageId
      (scheme.resolveInviteRequestKey event) = false) →
      scan'.messages.has (scheme.candidateKey event)

section Went

variable {scheme : InviteScheme} {processed : Nat → ProcessedInvites}

theorem WentThrough.refl {scan scan' : InviteScan} (hmessages : scan'.messages = scan.messages)
    (hconsidered : scan'.considered = scan.considered) :
    WentThrough scheme processed scan scan' [] where
  considered := by rw [hconsidered, List.append_nil]
  kept key h := by rwa [hmessages]
  offered _ h := absurd h List.not_mem_nil

theorem WentThrough.trans {scan scan' scan'' : InviteScan} {events events' : List RawMessageEvent}
    (h : WentThrough scheme processed scan scan' events)
    (h' : WentThrough scheme processed scan' scan'' events') :
    WentThrough scheme processed scan scan'' (events ++ events') where
  considered := by rw [h'.considered, h.considered, List.append_assoc]
  kept key hkey := h'.kept key (h.kept key hkey)
  offered event hmem hcandidate hnever := by
    rcases List.mem_append.1 hmem with hleft | hright
    · exact h'.kept _ (h.offered event hleft hcandidate hnever)
    · exact h'.offered event hright hcandidate hnever

/-- One message. -/
theorem considerMessage_went (n : Nat) (scan : InviteScan) (event : RawMessageEvent) :
    WentThrough scheme processed scan (considerMessage scheme (processed n) scan event)
      [event] := by
  unfold considerMessage
  dsimp only
  split
  · next hcandidate =>
    -- it is no candidate, so it need not be offered
    refine ⟨rfl, fun _ h => h, fun event' hmem hcandidate' _ => ?_⟩
    rw [List.mem_singleton.1 hmem] at hcandidate'
    rw [hcandidate'] at hcandidate
    exact absurd hcandidate Bool.false_ne_true
  · split
    · next hprocessed =>
      refine ⟨rfl, fun _ h => h, fun event' hmem _ hnever => ?_⟩
      have hnow := hnever n
      rw [List.mem_singleton.1 hmem, hprocessed] at hnow
      exact absurd hnow.symm Bool.false_ne_true
    · refine ⟨rfl, fun key h => ?_, fun event' hmem _ _ => ?_⟩
      · rw [OrdMap.has_eq_true_iff] at h ⊢
        rw [OrdMap.get?_set]
        split
        · exact ⟨_, rfl⟩
        · exact h
      · rw [List.mem_singleton.1 hmem, OrdMap.has_eq_true_iff]
        exact ⟨_, OrdMap.get?_set_self _ _ _⟩

theorem considerPage_went (n : Nat) (scan : InviteScan) (page : List DecodedMessage) :
    WentThrough scheme processed scan (considerPage scheme (processed n) scan page)
      (page.reverse.map toRawMessageEvent) := by
  unfold considerPage
  generalize page.reverse.map toRawMessageEvent = events
  induction events generalizing scan with
  | nil => exact .refl rfl rfl
  | cons event events ih => exact (considerMessage_went n scan event).trans (ih _)

end Went

/-! ### A scan as a reading of pages -/

section Reading

variable (scheme : InviteScheme) (processed : Nat → ProcessedInvites)

/-- What the scan does with an answer. -/
def scanPage (scan : InviteScan) (page : List DecodedMessage) : InviteScan :=
  let scan := { scan with calls := scan.calls + 1 }
  considerPage scheme (processed scan.calls) scan page

/-- The events of some pages, in the order in which the scan considers them. -/
def pageEvents (pages : List (List DecodedMessage)) : List RawMessageEvent :=
  pages.flatMap fun page => page.reverse.map toRawMessageEvent

variable {scheme processed}

theorem scanPages_went (pages : List (List DecodedMessage)) (scan : InviteScan) :
    WentThrough scheme processed scan (pages.foldl (scanPage scheme processed) scan)
      (pageEvents pages) := by
  induction pages generalizing scan with
  | nil => exact .refl rfl rfl
  | cons page pages ih =>
    have hcall : WentThrough scheme processed scan { scan with calls := scan.calls + 1 } [] :=
      .refl rfl rfl
    exact (hcall.trans (considerPage_went _ _ page)).trans (ih _)

theorem pageEvents_perm (pages : List (List DecodedMessage)) :
    (pageEvents pages).Perm (pages.flatten.map toRawMessageEvent) := by
  induction pages with
  | nil => exact .nil
  | cons page pages ih =>
    have hpage : (page.reverse.map toRawMessageEvent).Perm (page.map toRawMessageEvent) :=
      (List.reverse_perm page).map _
    unfold pageEvents at ih ⊢
    rw [List.flatMap_cons, List.flatten_cons, List.map_append]
    exact hpage.append ih

variable {texts : RuntimeTexts} {history : List SdkDecodedMessage}
  {listMessages : ListMessagesOptions → Result (List DecodedMessage)}

/-- The page of a history, as the client hands it out. -/
def historyPage (texts : RuntimeTexts) (history : List SdkDecodedMessage) (bound : Option Nat) :
    List DecodedMessage :=
  (pageBefore SdkDecodedMessage.sentAtNs recentJoinScanLimit history bound).map
    (toDecodedMessage texts)

variable (scheme processed) in
/-- **The scan reads pages**: `before` and `bound` are the same bound, as a text and as a time. -/
theorem scanMessages_eq_readPages (hdates : texts.DatesRoundTrip)
    (hnext : ∀ msg ∈ history,
      listMessages
          (descendingBefore recentJoinScanLimit (some (toDecodedMessage texts msg).sentAt)) =
        .ok (historyPage texts history (some msg.sentAtCut)))
    {before : Option String} {bound : Option Nat}
    (hpage : listMessages (descendingBefore recentJoinScanLimit before) =
      .ok (historyPage texts history bound)) (fuel : Nat) (scan : InviteScan) :
    scanMessages scheme processed listMessages fuel before scan =
      (readPages SdkDecodedMessage.sentAtCut recentJoinScanLimit
        (pageBefore SdkDecodedMessage.sentAtNs recentJoinScanLimit history) fuel bound).map
          fun pages => (pages.map (·.map (toDecodedMessage texts))).foldl
            (scanPage scheme processed) scan := by
  induction fuel generalizing before bound scan with
  | zero => rfl
  | succ fuel ih =>
    unfold scanMessages readPages
    dsimp only
    rw [hpage]
    unfold historyPage
    dsimp only
    cases hread : pageBefore SdkDecodedMessage.sentAtNs recentJoinScanLimit history bound with
    | nil => rfl
    | cons msg rest =>
      rw [List.length_map]
      by_cases hshort : (msg :: rest).length < recentJoinScanLimit
      · rw [if_pos hshort, if_pos hshort]
        rfl
      · rw [if_neg hshort, if_neg hshort]
        -- the page is full, so there is an oldest message on it
        obtain ⟨oldest, holdest⟩ : ∃ oldest, (msg :: rest).getLast? = some oldest :=
          ⟨_, List.getLast?_eq_some_getLast (List.cons_ne_nil msg rest)⟩
        have hmem : oldest ∈ history := by
          have hon : oldest ∈
              pageBefore SdkDecodedMessage.sentAtNs recentJoinScanLimit history bound := by
            rw [hread]
            exact List.mem_of_getLast? holdest
          exact (mem_below.1 (List.mem_of_mem_take hon)).1
        have htext : orUndefined (toDecodedMessage texts oldest).sentAt =
            some (toDecodedMessage texts oldest).sentAt :=
          if_neg (hdates.nonempty oldest.sentAt)
        rw [List.getLast?_map, holdest]
        dsimp only [Option.map_some, Option.bind_some, List.map_cons, List.isEmpty_cons]
        rw [htext]
        have hsome : ¬ (List.map (toDecodedMessage texts) (msg :: rest)).isEmpty = true :=
          Bool.false_ne_true
        rw [if_neg hsome]
        dsimp only
        rw [ih (hnext oldest hmem), Option.map_map]
        rfl

end Reading

/-! ### A scan over the identities -/

section Identities

variable {texts : RuntimeTexts} {deps : ManagedInviteHostListenerDeps} {conversationId : String}
  {histories : String → Option (List SdkDecodedMessage)} {processed : Nat → ProcessedInvites}

/-- The managed clients are clients of the SDK. A client whose identity has a history of the DM
answers from it; the others do not know the DM. -/
structure ServesHistories (texts : RuntimeTexts) (deps : ManagedInviteHostListenerDeps)
    (conversationId : String) (histories : String → Option (List SdkDecodedMessage)) : Prop where
  known : ∀ id history, histories id = some history →
    ∃ getConversationById group,
      deps.getManagedClient id = some ⟨listMessages texts getConversationById⟩ ∧
      getConversationById conversationId = .ok (some group) ∧ group.Returns history
  unknown : ∀ id managed, histories id = none → deps.getManagedClient id = some managed →
    ∃ getConversationById, managed = ⟨listMessages texts getConversationById⟩ ∧
      getConversationById conversationId = .ok none

/-- The messages of the DM, identity by identity. -/
def dmMessages (histories : String → Option (List SdkDecodedMessage))
    (identities : List ManagedInviteHostIdentity) : List SdkDecodedMessage :=
  identities.flatMap fun identity => (histories identity.id).getD []

def scanEvent (texts : RuntimeTexts) (msg : SdkDecodedMessage) : RawMessageEvent :=
  toRawMessageEvent (toDecodedMessage texts msg)

/-- No page of the history ends within a millisecond. -/
def PagesEndApart (history : List SdkDecodedMessage) : Prop :=
  CutsApart SdkDecodedMessage.sentAtNs SdkDecodedMessage.sentAtCut recentJoinScanLimit history

variable (processed)

/-- An identity that has no history of the DM. -/
theorem scanIdentity_unknown (hserves : ServesHistories texts deps conversationId histories)
    {identity : ManagedInviteHostIdentity} (hnone : histories identity.id = none) (fuel : Nat)
    (scan : InviteScan) :
    ∃ scan', scanIdentity deps conversationId processed (fuel + 1) scan identity = some scan' ∧
      WentThrough deps.onboardingScheme processed scan scan' [] := by
  unfold scanIdentity
  cases hmanaged : deps.getManagedClient identity.id with
  | none => exact ⟨scan, rfl, .refl rfl rfl⟩
  | some managed =>
    obtain ⟨getConversationById, rfl, hmissing⟩ := hserves.unknown _ managed hnone hmanaged
    have hanswer : listMessages texts getConversationById conversationId
        (descendingBefore recentJoinScanLimit none) =
          .error (.notFoundError "group" conversationId) := by
      unfold listMessages getGroup wrapSdkCall
      rw [hmissing]
    refine ⟨{ scan with calls := scan.calls + 1 }, ?_, .refl rfl rfl⟩
    unfold scanMessages
    dsimp only
    rw [hanswer]
    rfl

/-- One identity: what is considered is a part of its history, all of it exactly if no page ends
within a millisecond. -/
theorem scanIdentity_went (hdates : texts.DatesRoundTrip)
    (hserves : ServesHistories texts deps conversationId histories)
    (identity : ManagedInviteHostIdentity) {fuel : Nat}
    (hfuel : ((histories identity.id).getD []).length < fuel) (scan : InviteScan) :
    ∃ scan' events seen,
      scanIdentity deps conversationId processed fuel scan identity = some scan' ∧
      WentThrough deps.onboardingScheme processed scan scan' events ∧
      events.Perm (seen.map (scanEvent texts)) ∧
      seen.Sublist ((histories identity.id).getD []) ∧
      (seen = (histories identity.id).getD [] ↔
        ∀ history, histories identity.id = some history → PagesEndApart history) := by
  cases hhistory : histories identity.id with
  | none =>
    rw [hhistory] at hfuel
    obtain ⟨fuel, rfl⟩ := Nat.exists_eq_succ_of_ne_zero (Nat.ne_of_gt hfuel)
    obtain ⟨scan', hscan, hwent⟩ := scanIdentity_unknown processed hserves hhistory fuel scan
    exact ⟨scan', [], [], hscan, hwent, .nil, List.Sublist.refl _,
      iff_of_true rfl fun _ h => by cases h⟩
  | some history =>
    rw [hhistory] at hfuel
    obtain ⟨getConversationById, group, hmanaged, hfound, hreturns⟩ :=
      hserves.known _ history hhistory
    have hreads := scanMessages_eq_readPages deps.onboardingScheme processed hdates
      (fun msg hmem => listMessages_before hdates hfound hreturns hmem)
      (listMessages_first hfound hreturns) fuel scan
    have hunread : (below SdkDecodedMessage.sentAtNs none history).length < fuel := by
      rwa [below_none]
    obtain ⟨pages, hpages, hsub, hall⟩ :=
      readPages_spec (by decide : 0 < recentJoinScanLimit) SdkDecodedMessage.sentAtCut_le
        hreturns.sorted hunread
    rw [below_none] at hsub hall
    rw [hpages] at hreads
    have hwent := @scanPages_went deps.onboardingScheme processed
      (pages.map (·.map (toDecodedMessage texts))) scan
    refine ⟨_, _, pages.flatten, ?_, hwent, ?_, hsub, ?_⟩
    · unfold scanIdentity
      rw [hmanaged]
      exact hreads
    · have hperm := pageEvents_perm (pages.map (·.map (toDecodedMessage texts)))
      rwa [← List.map_flatten, List.map_map] at hperm
    · constructor
      · intro h history' hhistory'
        cases hhistory'
        exact hall.1 h
      · exact fun h => hall.2 (h history rfl)

theorem scanIdentities_went (hdates : texts.DatesRoundTrip)
    (hserves : ServesHistories texts deps conversationId histories)
    (identities : List ManagedInviteHostIdentity) {fuel : Nat}
    (hfuel : (dmMessages histories identities).length < fuel) (scan : InviteScan) :
    ∃ scan' events seen,
      identities.foldlM (scanIdentity deps conversationId processed fuel) scan = some scan' ∧
      WentThrough deps.onboardingScheme processed scan scan' events ∧
      events.Perm (seen.map (scanEvent texts)) ∧
      seen.Sublist (dmMessages histories identities) ∧
      (seen = dmMessages histories identities ↔ ∀ identity ∈ identities,
        ∀ history, histories identity.id = some history → PagesEndApart history) := by
  induction identities generalizing scan with
  | nil =>
    exact ⟨scan, [], [], rfl, .refl rfl rfl, .nil, List.Sublist.refl _,
      iff_of_true rfl fun _ h => absurd h List.not_mem_nil⟩
  | cons identity identities ih =>
    have hsplit : dmMessages histories (identity :: identities) =
        (histories identity.id).getD [] ++ dmMessages histories identities :=
      List.flatMap_cons
    rw [hsplit, List.length_append] at hfuel
    obtain ⟨scan₁, events₁, seen₁, hscan₁, hwent₁, hperm₁, hsub₁, hall₁⟩ :=
      scanIdentity_went processed hdates hserves identity
        (lt_of_le_of_lt (Nat.le_add_right _ _) hfuel) scan
    obtain ⟨scan₂, events₂, seen₂, hscan₂, hwent₂, hperm₂, hsub₂, hall₂⟩ :=
      ih (lt_of_le_of_lt (Nat.le_add_left _ _) hfuel) scan₁
    refine ⟨scan₂, events₁ ++ events₂, seen₁ ++ seen₂, ?_, hwent₁.trans hwent₂, ?_, ?_, ?_⟩
    · rw [List.foldlM_cons, hscan₁]
      exact hscan₂
    · rw [List.map_append]
      exact hperm₁.append hperm₂
    · rw [hsplit]
      exact hsub₁.append hsub₂
    · rw [hsplit, List.forall_mem_cons, ← hall₁, ← hall₂]
      constructor
      · intro heq
        -- both parts are as long as they can be
        have hlength := congrArg List.length heq
        rw [List.length_append, List.length_append] at hlength
        have hle₁ := hsub₁.length_le
        have hle₂ := hsub₂.length_le
        exact ⟨hsub₁.eq_of_length (by omega), hsub₂.eq_of_length (by omega)⟩
      · rintro ⟨rfl, rfl⟩
        rfl

/-- The scan has gone through every message of the DM, as often as the histories have it, and offers
every request that was not processed while it ran. -/
structure ConsidersAll (texts : RuntimeTexts) (deps : ManagedInviteHostListenerDeps)
    (histories : String → Option (List SdkDecodedMessage)) (processed : Nat → ProcessedInvites)
    (scan : InviteScan) : Prop where
  considered : scan.considered.Perm
    ((dmMessages histories deps.listIdentities).map (scanEvent texts))
  offered : ∀ msg ∈ dmMessages histories deps.listIdentities,
    deps.onboardingScheme.isInviteMessage (scanEvent texts msg) = true →
    (∀ n, (processed n).isProcessed (scanEvent texts msg).messageId
      (deps.onboardingScheme.resolveInviteRequestKey (scanEvent texts msg)) = false) →
    scan.messages.has (deps.onboardingScheme.candidateKey (scanEvent texts msg))

/-- **The recovery scan ends, and it considers every message of the DM exactly if no page ends
within a millisecond**: among the messages of each history, newest first, each one that comes after
a multiple of ten is of an earlier millisecond than the one before it. -/
theorem recovery_scan_complete_iff (hdates : texts.DatesRoundTrip)
    (hserves : ServesHistories texts deps conversationId histories) :
    ∃ fuel scan,
      listRecentInviteCandidatesAcrossManagedIdentities deps conversationId processed fuel =
        some scan ∧
      (ConsidersAll texts deps histories processed scan ↔
        ∀ identity ∈ deps.listIdentities, ∀ history, histories identity.id = some history →
          PagesEndApart history) := by
  obtain ⟨scan, events, seen, hscan, hwent, hperm, hsub, hall⟩ :=
    scanIdentities_went processed hdates hserves deps.listIdentities
      (Nat.lt_succ_self _) .start
  refine ⟨_, scan, hscan, ?_⟩
  rw [← hall]
  have hconsidered : scan.considered = events := hwent.considered
  constructor
  · intro h
    refine hsub.eq_of_length ?_
    calc seen.length = events.length := by rw [hperm.length_eq, List.length_map]
      _ = (dmMessages histories deps.listIdentities).length := by
        rw [← hconsidered, h.considered.length_eq, List.length_map]
  · rintro rfl
    refine ⟨by rwa [hconsidered], fun msg hmem hcandidate hnever => ?_⟩
    have hevent : scanEvent texts msg ∈ events := hperm.mem_iff.2 (List.mem_map_of_mem hmem)
    exact hwent.offered _ hevent hcandidate hnever

end Identities

/-! ### A DM of one identity -/

namespace RecordedDm

/-- Two dates as the runtime writes them; the others do not occur. -/
def toISOString : Time → String
  | 0 => "1970-01-01T00:00:00.000Z"
  | 1 => "1970-01-01T00:00:00.001Z"
  | t + 2 => String.ofList (List.replicate (t + 1) 'x')

/-- Its inverse. -/
def parseDate (text : String) : Option Time :=
  if text = toISOString 0 then some 0
  else if text = toISOString 1 then some 1
  else some (text.toList.length + 1)

def texts : RuntimeTexts where
  toLowerCase text := String.ofList (text.toList.map Char.toLower)
  toISOString := toISOString
  parseDate := parseDate
  bigIntError := "The number NaN cannot be converted to a BigInt because it is not an integer"

/-- The onboarding scheme. -/
def scheme : InviteScheme where
  isJoinRequestContentType contentType :=
    contentType = "join_request" || contentType = "convos.org/join_request:1.0"
  prims := RecordedInvite.primitives
  jsonParse _ := none
  toLowerCase := texts.toLowerCase

/-- A join request that was sent at a time. -/
def request (id : String) (sentAtNs : Nat) : SdkDecodedMessage :=
  ⟨id, "dm1", "peer", some "join_request", .object [("inviteSlug", .string ("slug-" ++ id))],
    sentAtNs / 1000000, sentAtNs⟩

/-- A conversation with a history, newest first. -/
def conversation (history : List SdkDecodedMessage) : SdkConversation where
  messages options := .ok (pageBefore SdkDecodedMessage.sentAtNs
    (options.limit.elim history.length fun limit => limit.num.toNat) history options.sentBeforeNs)

/-- The conversations of a client that knows one DM. -/
def conversations (history : List SdkDecodedMessage) (groupId : String) :
    Except String (Option SdkConversation) :=
  .ok (if groupId = "dm1" then some (conversation history) else none)

/-- The listener of an identity with the DM. -/
def deps (history : List SdkDecodedMessage) : ManagedInviteHostListenerDeps where
  listIdentities := [⟨"creator", some "ab"⟩]
  getManagedClient id :=
    if id = "creator" then some ⟨listMessages texts (conversations history)⟩ else none
  onboardingScheme := scheme

/-- The histories of the identities. -/
def histories (history : List SdkDecodedMessage) (id : String) :
    Option (List SdkDecodedMessage) :=
  if id = "creator" then some history else none

/-- Nothing has been processed. -/
def unprocessed (_ : Nat) : ProcessedInvites :=
  ⟨.empty, .empty⟩

/-- Ten requests in the second millisecond after the epoch and an older one, newest first. -/
def elevenRequests (oldest : Nat) : List SdkDecodedMessage :=
  (List.range 10).map (fun i => request ("m" ++ toString i) (1000010 - i)) ++
    [request "m10" oldest]

/-- The text of a date that does not occur begins with no digit. -/
theorem head_toISOString (t : Nat) : (toISOString (t + 2)).toList.head? = some 'x' := by
  show (String.ofList (List.replicate (t + 1) 'x')).toList.head? = some 'x'
  rw [String.toList_ofList]
  rfl

theorem datesRoundTrip : texts.DatesRoundTrip where
  parse
    | 0 => by decide
    | 1 => by decide
    | t + 2 => by
      have hhead := head_toISOString t
      have hzero : toISOString (t + 2) ≠ toISOString 0 := by
        intro heq
        rw [heq] at hhead
        exact absurd hhead (by decide)
      have hone : toISOString (t + 2) ≠ toISOString 1 := by
        intro heq
        rw [heq] at hhead
        exact absurd hhead (by decide)
      show parseDate (toISOString (t + 2)) = some (t + 2)
      unfold parseDate
      rw [if_neg hzero, if_neg hone]
      show some ((String.ofList (List.replicate (t + 1) 'x')).toList.length + 1) = some (t + 2)
      rw [String.toList_ofList, List.length_replicate]
  nonempty
    | 0 => by decide
    | 1 => by decide
    | t + 2 => by
      intro heq
      have hhead := head_toISOString t
      replace heq : toISOString (t + 2) = "" := heq
      rw [heq] at hhead
      exact absurd hhead (by decide)

theorem conversation_returns {history : List SdkDecodedMessage}
    (hsorted : NewestFirst SdkDecodedMessage.sentAtNs history)
    (hdates : ∀ msg ∈ history, msg.sentAt = msg.sentAtNs / 1000000) :
    (conversation history).Returns history where
  sorted := hsorted
  dates := hdates
  page limit bound := by
    show Except.ok (pageBefore _ (limit : Rat).num.toNat _ _) = _
    rw [Rat.num_natCast, Int.toNat_natCast]

theorem serves {history : List SdkDecodedMessage}
    (hreturns : (conversation history).Returns history) :
    ServesHistories texts (deps history) "dm1" (histories history) where
  known id found h := by
    unfold histories at h
    split at h
    · next hid =>
      cases h
      exact ⟨_, _, if_pos hid, rfl, hreturns⟩
    · cases h
  unknown id managed hnone hmanaged := by
    unfold histories at hnone
    split at hnone
    · cases hnone
    · next hid =>
      rw [show (deps history).getManagedClient id = none from if_neg hid] at hmanaged
      cases hmanaged

/-- The older one is from the same millisecond. -/
theorem burst_returns : (conversation (elevenRequests 1000000)).Returns (elevenRequests 1000000) :=
  conversation_returns (by unfold NewestFirst; decide +kernel) (by decide +kernel)

/-- The older one is from the millisecond before. -/
theorem spread_returns : (conversation (elevenRequests 999999)).Returns (elevenRequests 999999) :=
  conversation_returns (by unfold NewestFirst; decide +kernel) (by decide +kernel)

theorem spread_pagesEndApart : PagesEndApart (elevenRequests 999999) := by
  intro i newer older hdvd hnewer holder
  have hi : i + 1 < 11 := (List.getElem?_eq_some_iff.1 holder).1
  -- the only boundary is after the tenth
  obtain rfl : i = 9 := by
    obtain ⟨k, hk⟩ := hdvd
    unfold recentJoinScanLimit at hk
    omega
  cases hnewer
  cases holder
  decide

end RecordedDm

/-- Of eleven requests in one millisecond the oldest is skipped: the scan ends without it. -/
theorem recovery_scan_loses_request :
    ServesHistories RecordedDm.texts (RecordedDm.deps (RecordedDm.elevenRequests 1000000)) "dm1"
        (RecordedDm.histories (RecordedDm.elevenRequests 1000000)) ∧
      ∃ fuel scan, listRecentInviteCandidatesAcrossManagedIdentities
          (RecordedDm.deps (RecordedDm.elevenRequests 1000000)) "dm1" RecordedDm.unprocessed fuel =
            some scan ∧
        ¬ ConsidersAll RecordedDm.texts (RecordedDm.deps (RecordedDm.elevenRequests 1000000))
            (RecordedDm.histories (RecordedDm.elevenRequests 1000000)) RecordedDm.unprocessed scan ∧
        scan.messages.has "peer:slug-m9" ∧ ¬ scan.messages.has "peer:slug-m10" := by
  refine ⟨RecordedDm.serves RecordedDm.burst_returns, 3, _, rfl, ?_, ?_, ?_⟩
  · intro h
    have hlength := h.considered.length_eq
    exact absurd hlength (by decide +kernel)
  · decide +kernel
  · decide +kernel

/-- A history of two pages that is read to its end. -/
theorem recovery_scan_complete_iff_spread :
    ∃ fuel scan, listRecentInviteCandidatesAcrossManagedIdentities
        (RecordedDm.deps (RecordedDm.elevenRequests 999999)) "dm1" RecordedDm.unprocessed fuel =
          some scan ∧
      ConsidersAll RecordedDm.texts (RecordedDm.deps (RecordedDm.elevenRequests 999999))
        (RecordedDm.histories (RecordedDm.elevenRequests 999999)) RecordedDm.unprocessed scan := by
  obtain ⟨fuel, scan, hscan, hall⟩ := recovery_scan_complete_iff RecordedDm.unprocessed
    RecordedDm.datesRoundTrip (RecordedDm.serves RecordedDm.spread_returns)
  refine ⟨fuel, scan, hscan, hall.2 fun identity hmem history hhistory => ?_⟩
  rw [List.mem_singleton.1 hmem] at hhistory
  cases hhistory
  exact RecordedDm.spread_pagesEndApart

end Signet
