import Signet.Core.InviteRoundTrip
import Signet.Core.JoinConversation
import Signet.Core.JoinRequestContent

/-!
# Joining by an invite, from end to end

The three parties of a join are modelled in modules of their own: the generator makes a slug, the
joiner sends it over a direct message, the host reads it there. This module puts them together.

* `request_of_generated`: what the host does with a message that carries a generated slug.
* `join_served`: every message of a join by a readable invite reaches the host's inbox and, until
  the invite has expired, is answered by the admission of its sender.

The step between the two is the slug: `extractSlugForDm` of the joiner and `extractSlug` of the host
are different functions, and both find it in the slug and in its URL.
-/

namespace Signet

open Lib

/-! ### The joiner -/

def extractSlugForDm (prims : InvitePrimitives) (input : String) : String :=
  let trimmed := jsTrim input
  match prims.parseUrl trimmed with
  | none => trimmed
  | some url => ((url.i.bind orUndefined).or (url.code.bind orUndefined)).getD trimmed

/-- `toParsedInvite`, as far as a join uses it. -/
def ParsedConvosInvite.toParsedInvite (invite : ParsedConvosInvite) : ParsedInvite where
  creatorInboxId := invite.creatorInboxId
  tag := invite.tag
  name := invite.name
  isExpired := invite.isExpired
  isConversationExpired := invite.isConversationExpired

/-- **The Convos side of a join**: how its invites are parsed at a time, and which slug is sent. -/
structure JoinsConvos (prims : InvitePrimitives) (nowMs : Nat) (scheme : OnboardingScheme)
    (deps : JoinDeps) : Prop where
  parse : ∀ text, scheme.parse text =
    (parseConvosInviteUrl prims nowMs text).map ParsedConvosInvite.toParsedInvite
  extractSlugForDm : deps.extractSlugForDm = extractSlugForDm prims

/-- The direct messages of a join: to the creator, with the slug. -/
def ClientCall.AboutInvite (creatorInboxId slug : String) : ClientCall → Prop
  | .createDm peer => peer = creatorInboxId
  | .sendDm _ sent =>
    (∃ name memberKind, sent = .joinRequest slug name memberKind) ∨ sent = .text slug
  | _ => True

section Joiner

variable {creatorInboxId slug identityId : String} {α : Type}

theorem callOrRemove_aboutInvite {c : ClientCall} {answer : Result α}
    (hc : c.AboutInvite creatorInboxId slug) :
    (callOrRemove identityId c answer).AllCalls (·.AboutInvite creatorInboxId slug) := by
  unfold callOrRemove
  cases answer with
  | ok a => exact List.forall_mem_singleton.2 hc
  | error e => exact List.forall_mem_cons.2 ⟨hc, List.forall_mem_singleton.2 trivial⟩

theorem orRemove_aboutInvite {answer : Result α} :
    (orRemove identityId answer).AllCalls (·.AboutInvite creatorInboxId slug) := by
  unfold orRemove
  cases answer with
  | ok a => exact Logged.AllCalls.ok a
  | error e => exact List.forall_mem_singleton.2 trivial

theorem registerIdentity_aboutInvite {deps : JoinDeps} {label : Option String} :
    (registerIdentity deps label).AllCalls (·.AboutInvite creatorInboxId slug) := by
  refine Logged.AllCalls.bind (Logged.allCalls_call.2 trivial) fun identityId _ => ?_
  refine Logged.AllCalls.bind orRemove_aboutInvite fun _ _ => ?_
  refine Logged.AllCalls.bind orRemove_aboutInvite fun _ _ => ?_
  refine Logged.AllCalls.bind (Logged.AllCalls.ofExcept _) fun _ _ => ?_
  refine Logged.AllCalls.bind (Logged.AllCalls.ofExcept _) fun _ _ => ?_
  refine Logged.AllCalls.bind orRemove_aboutInvite fun client _ => ?_
  exact Logged.AllCalls.bind (callOrRemove_aboutInvite trivial) fun _ _ => Logged.AllCalls.ok _

theorem pollForGroup_aboutInvite {deps : JoinDeps} {client : JoinClient} {invite : ParsedInvite}
    {dmId : String} {totalMs : Nat} (remaining : Nat) : ∀ attempt,
      (pollForGroup deps client invite identityId dmId totalMs attempt remaining).AllCalls
        (·.AboutInvite creatorInboxId slug) := by
  -- a poll sends nothing
  induction remaining with
  | zero => exact fun _ => orRemove_aboutInvite
  | succ remaining ih =>
    intro attempt
    refine Logged.AllCalls.bind (callOrRemove_aboutInvite trivial) fun _ _ => ?_
    refine Logged.AllCalls.bind (callOrRemove_aboutInvite trivial) fun groups _ => ?_
    split
    · exact Logged.AllCalls.ok _
    · refine Logged.AllCalls.bind (Logged.allCalls_attempt.2 trivial) fun replies _ => ?_
      split
      · exact ih _
      · split
        · exact orRemove_aboutInvite
        · exact ih _

/-- **What a join sends**: to the creator of the parsed invite, the slug of the input. -/
theorem discoverGroup_aboutInvite {scheme : OnboardingScheme} {deps : JoinDeps} {inviteUrl : String}
    {options : JoinConversationOptions}
    (hcreator : ∀ invite, scheme.parse inviteUrl = .ok invite →
      invite.creatorInboxId = creatorInboxId)
    (hslug : deps.extractSlugForDm inviteUrl = slug) :
    (discoverGroup scheme deps inviteUrl options).AllCalls (·.AboutInvite creatorInboxId slug) := by
  refine Logged.AllCalls.bind (Logged.AllCalls.ofExcept _) fun invite hparse => ?_
  refine Logged.AllCalls.bind (Logged.AllCalls.ofExcept _) fun _ _ => ?_
  split
  · exact Logged.AllCalls.fail _
  split
  · exact Logged.AllCalls.fail _
  refine Logged.AllCalls.bind registerIdentity_aboutInvite fun registered _ => ?_
  refine Logged.AllCalls.bind orRemove_aboutInvite fun _ _ => ?_
  refine Logged.AllCalls.bind orRemove_aboutInvite fun _ _ => ?_
  refine Logged.AllCalls.bind orRemove_aboutInvite fun client _ => ?_
  have hpeer : (ClientCall.createDm invite.creatorInboxId).AboutInvite creatorInboxId slug :=
    hcreator invite hparse
  refine Logged.AllCalls.bind (callOrRemove_aboutInvite hpeer) fun dmId _ => ?_
  have hrequest : (ClientCall.sendDm dmId (.joinRequest (deps.extractSlugForDm inviteUrl)
      options.profileName "agent")).AboutInvite creatorInboxId slug := by
    rw [hslug]
    exact .inl ⟨_, _, rfl⟩
  refine Logged.AllCalls.bind (callOrRemove_aboutInvite hrequest) fun _ _ => ?_
  have htext : (ClientCall.sendDm dmId (.text (deps.extractSlugForDm inviteUrl))).AboutInvite
      creatorInboxId slug := by
    rw [hslug]
    exact .inr rfl
  refine Logged.AllCalls.bind (Logged.allCalls_attempt.2 htext) fun _ _ => ?_
  exact Logged.AllCalls.bind (pollForGroup_aboutInvite _ _) fun _ _ => Logged.AllCalls.ok _

theorem joinConversation_aboutInvite {scheme : OnboardingScheme} {deps : JoinDeps}
    {inviteUrl : String} {options : JoinConversationOptions}
    (hcreator : ∀ invite, scheme.parse inviteUrl = .ok invite →
      invite.creatorInboxId = creatorInboxId)
    (hslug : deps.extractSlugForDm inviteUrl = slug) :
    (joinConversation scheme deps inviteUrl options).AllCalls
      (·.AboutInvite creatorInboxId slug) := by
  refine Logged.AllCalls.bind (discoverGroup_aboutInvite hcreator hslug) fun found _ => ?_
  -- the profile goes to the group
  exact Logged.AllCalls.bind (Logged.allCalls_attempt.2 trivial) fun _ _ => Logged.AllCalls.ok _

theorem joinConversation_of_expired {scheme : OnboardingScheme} {deps : JoinDeps}
    {inviteUrl : String} {options : JoinConversationOptions}
    (h : ∀ invite, scheme.parse inviteUrl = .ok invite → invite.isExpired = true) :
    (joinConversation scheme deps inviteUrl options).calls = [] := by
  have hsilent : (discoverGroup scheme deps inviteUrl options).calls = [] ∧
      ∃ e, (discoverGroup scheme deps inviteUrl options).value = .error e := by
    unfold discoverGroup
    cases hparse : scheme.parse inviteUrl with
    | error e => exact ⟨rfl, e, rfl⟩
    | ok invite =>
      cases hverify : scheme.verify invite with
      | error e =>
        refine ⟨?_, e, ?_⟩
        · simp [Logged.calls_bind, hverify]
        · simp [Logged.value_bind, hverify]
      | ok _ =>
        refine ⟨?_, .validationError "inviteUrl" "Invite has expired", ?_⟩
        · simp [Logged.calls_bind, hverify, h invite hparse]
        · simp [Logged.value_bind, hverify, h invite hparse]
  obtain ⟨hcalls, e, hvalue⟩ := hsilent
  unfold joinConversation
  rw [Logged.calls_bind_of_error hvalue, hcalls]

/-- The answers a join gets up to its direct message. -/
structure ReachesHost (scheme : OnboardingScheme) (deps : JoinDeps) (inviteUrl : String)
    (options : JoinConversationOptions) (invite : ParsedInvite) (client : JoinClient)
    (identityId dmId : String) : Prop where
  parse : scheme.parse inviteUrl = .ok invite
  verify : scheme.verify invite = .ok ()
  current : invite.isExpired = false ∧ invite.isConversationExpired = false
  createIdentity : deps.createIdentity options.label = .ok identityId
  keys : ∀ n, (∃ key, deps.getDbEncryptionKey n identityId = .ok key) ∧
    ∃ key address, deps.getXmtpIdentityKey n identityId = .ok key ∧
      deps.privateKeyToAccount key = .ok address
  makeDbDirectory : deps.makeDbDirectory identityId = .ok ()
  createClient : ∀ n, deps.createClient n identityId = .ok client
  setInboxId : deps.setInboxId identityId client.inboxId = .ok ()
  createDm : client.createDm invite.creatorInboxId = .ok dmId
  sendToDm : ∃ messageId, client.sendToDm dmId
    (.joinRequest (deps.extractSlugForDm inviteUrl) options.profileName "agent") = .ok messageId

/-- What a join calls on its client for the admission: the direct message to the host, and in it the
slug twice, as a request and as text. -/
def admissionCalls (creatorInboxId dmId slug : String) (profileName : Option String) :
    List ClientCall :=
  [.createDm creatorInboxId, .sendDm dmId (.joinRequest slug profileName "agent"),
    .sendDm dmId (.text slug)]

/-- **The host is asked**, once the answers up to the direct message are there. -/
theorem mem_calls_of_reachesHost {scheme : OnboardingScheme} {deps : JoinDeps} {inviteUrl : String}
    {options : JoinConversationOptions} {invite : ParsedInvite} {client : JoinClient}
    {identityId dmId : String}
    (h : ReachesHost scheme deps inviteUrl options invite client identityId dmId) :
    ∀ c ∈ admissionCalls invite.creatorInboxId dmId (deps.extractSlugForDm inviteUrl)
        options.profileName,
      c ∈ (joinConversation scheme deps inviteUrl options).calls := by
  obtain ⟨⟨db₀, hdb₀⟩, key₀, address, hkey₀, haddress⟩ := h.keys 0
  obtain ⟨⟨db₁, hdb₁⟩, key₁, _, hkey₁, -⟩ := h.keys 1
  obtain ⟨messageId, hsend⟩ := h.sendToDm
  have hready : ∀ {α : Type} (answer : Result α) (a : α), answer = .ok a →
      (orRemove identityId answer).value = .ok a := by
    rintro α _ a rfl
    rfl
  have hcalled : ∀ {α : Type} (c : ClientCall) (answer : Result α) (a : α), answer = .ok a →
      (callOrRemove identityId c answer).value = .ok a := by
    rintro α c _ a rfl
    rfl
  have hregister : (registerIdentity deps options.label).value =
      .ok (identityId, client.inboxId) := by
    refine Logged.value_bind_ok.2 ⟨_, h.createIdentity, ?_⟩
    refine Logged.value_bind_ok.2 ⟨_, hready _ _ hdb₀, ?_⟩
    refine Logged.value_bind_ok.2 ⟨_, hready _ _ hkey₀, ?_⟩
    refine Logged.value_bind_ok.2 ⟨_, haddress, ?_⟩
    refine Logged.value_bind_ok.2 ⟨_, h.makeDbDirectory, ?_⟩
    refine Logged.value_bind_ok.2 ⟨_, hready _ _ (h.createClient 0), ?_⟩
    refine Logged.value_bind_ok.2 ⟨(), hcalled _ _ _ ?_, rfl⟩
    rw [h.setInboxId]
    rfl
  intro c hmem
  refine Logged.mem_calls_bind_left ?_
  unfold discoverGroup
  refine Logged.mem_calls_bind_right h.parse (Logged.mem_calls_bind_right h.verify ?_)
  rw [h.current.1, h.current.2, if_neg Bool.false_ne_true, if_neg Bool.false_ne_true]
  refine Logged.mem_calls_bind_right hregister ?_
  refine Logged.mem_calls_bind_right (hready _ _ hdb₁) ?_
  refine Logged.mem_calls_bind_right (hready _ _ hkey₁) ?_
  refine Logged.mem_calls_bind_right (hready _ _ (h.createClient 1)) ?_
  -- the direct message is opened, and the two messages follow in it
  rcases List.mem_cons.1 hmem with rfl | hmem
  · refine Logged.mem_calls_bind_left ?_
    rw [h.createDm]
    exact List.mem_cons_self
  refine Logged.mem_calls_bind_right (hcalled _ _ _ h.createDm) ?_
  rcases List.mem_pair.1 hmem with rfl | rfl
  · refine Logged.mem_calls_bind_left ?_
    rw [hsend]
    exact List.mem_cons_self
  · refine Logged.mem_calls_bind_right (hcalled _ _ _ hsend) (Logged.mem_calls_bind_left ?_)
    exact List.mem_cons_self

end Joiner

/-! ### The host -/

/-- **Signatures are recovered**: from what is signed with a key and the signature of it, the public
key of this key. -/
def RecoverableSignatures (prims : InvitePrimitives) (enc : InviteEncoders) : Prop :=
  ∀ hash key compact recovery, enc.sign hash key = .ok (compact, recovery) →
    compact.length = 64 ∧ recovery ≤ 3 ∧ ∃ publicKey, prims.getPublicKey key = some publicKey ∧
      prims.recoverPublicKey compact recovery hash = some (bytesToHex publicKey)

/-- The sender, and nobody else, is added to the group; the answer is that of the addition. -/
structure Admits (host : ProcessJoinRequestDeps) (senderInboxId tag groupId : String)
    (run : Logged HostCall SignetError JoinRequestResult) : Prop where
  additions : additions run = [(groupId, [senderInboxId])]
  value : run.value = (host.addMembersToGroup groupId [senderInboxId]).map fun _ =>
    ⟨groupId, senderInboxId, tag⟩

/-- Where no other tag is stored, the sender is admitted. -/
theorem admitRequester_admits {host : ProcessJoinRequestDeps} {senderInboxId tag groupId : String}
    {stored : Option String} (hstored : host.getGroupInviteTag groupId = .ok stored)
    (htag : stored = none ∨ stored = some tag) :
    Admits host senderInboxId tag groupId (admitRequester host senderInboxId tag groupId) := by
  have hcheck : checkInviteTag stored tag = .ok () := if_pos htag
  unfold admitRequester
  rw [hstored]
  constructor
  · unfold Signet.additions
    cases host.addMembersToGroup groupId [senderInboxId] <;>
      simp [Logged.calls_bind, hcheck] <;> rfl
  · cases hadd : host.addMembersToGroup groupId [senderInboxId] <;>
      simp [Logged.value_bind, hcheck, Except.map]

section Host

variable {prims : InvitePrimitives} {enc : InviteEncoders} {zlib : Zlib} {nonce : Bytes}

theorem verifySignature_of_sign (hsig : RecoverableSignatures prims enc)
    {payload key compact : Bytes} {recovery : UInt8}
    (hsign : enc.sign (prims.sha256 payload) key = .ok (compact, recovery)) :
    verifySignatureMatchesKey prims payload (compact ++ [recovery]) key = true := by
  obtain ⟨hlength, hrecovery, publicKey, hpublic, hrecovered⟩ := hsig _ _ _ _ hsign
  have hbit : (compact ++ [recovery])[64]? = some recovery := by
    rw [List.getElem?_append_right (by omega), hlength]
    rfl
  have hcompact : (compact ++ [recovery]).take 64 = compact := by
    rw [← hlength, List.take_left]
  unfold verifySignatureMatchesKey
  rw [if_neg (by simp [hlength]), hbit]
  dsimp only
  rw [if_neg (by simpa using hrecovery), hcompact, hrecovered, hpublic]
  exact decide_eq_true rfl

/-- The host's checks of its own invite: only the expiry may fail. -/
theorem checkInvite_generated (hsig : RecoverableSignatures prims enc)
    {opts : GenerateInviteSlugOptions} {host : ProcessJoinRequestDeps} {packed compact : Bytes}
    {recovery : UInt8} (nowMs : Nat) (hcanonical : IsCanonicalInboxId opts.creatorInboxId)
    (hkey : host.walletPrivateKeyHex = opts.walletPrivateKeyHex)
    (hinbox : host.creatorInboxId = opts.creatorInboxId)
    (hsign : enc.sign
      (prims.sha256 (enc.encodeInvitePayload (invitePayloadObject prims nonce opts packed)))
      (hexToBytes opts.walletPrivateKeyHex) = .ok (compact, recovery)) :
    checkInvite prims host
        (generatedInvite prims enc nonce opts packed (compact ++ [recovery]) nowMs) =
      if isPastUnix nowMs (some opts.expiresAtUnix) = true then
        .error (inviteError "Invite has expired")
      else .ok () := by
  have hverified := verifySignature_of_sign hsig hsign
  have hcreator : bytesToHex (hexToBytes opts.creatorInboxId) = host.creatorInboxId := by
    rw [bytesToHex_hexToBytes_canonical hcanonical, hinbox]
  unfold checkInvite generatedInvite
  dsimp only
  rw [hkey, hverified, hcreator]
  simp

/-- **What the host does with a generated slug**, in whatever text it is found. -/
theorem request_of_generated (hlib : InviteLibraries prims enc zlib)
    (hsig : RecoverableSignatures prims enc) {opts : GenerateInviteSlugOptions} {slug : String}
    (hslug : generateConvosInviteSlug prims enc zlib nonce opts = .ok slug)
    (hreadable : opts.Readable prims enc zlib nonce) {host : ProcessJoinRequestDeps}
    (hkey : host.walletPrivateKeyHex = opts.walletPrivateKeyHex)
    (hinbox : host.creatorInboxId = opts.creatorInboxId) {content : DecodedContent}
    (htext : inviteText prims jsonParseContent content = some slug) (senderInboxId : String)
    (nowMs : Nat) :
    processJoinRequest prims jsonParseContent host nowMs ⟨senderInboxId, content⟩ =
      if isPastUnix nowMs (some opts.expiresAtUnix) = true then
        .fail (inviteError "Invite has expired")
      else admitRequester host senderInboxId opts.inviteTag opts.conversationIdBack := by
  obtain ⟨data, hdata, rfl⟩ := map_eq_ok.1 hslug
  obtain ⟨packed, compact, recovery, hpacked, hsign, hparse⟩ :=
    parse_generated hlib hdata hreadable.creator_bytes hreadable.tag (hreadable.size data hdata)
  have hparsed := hparse _ (extractSlug_slug hlib) nowMs
  have hcheck : checkInvite prims host _ = _ :=
    checkInvite_generated hsig nowMs hreadable.canonical hkey hinbox hsign
  have hgroup : decryptConversationToken prims
      (invitePayloadObject prims nonce opts packed).conversationToken
      (bytesToHex (hexToBytes opts.creatorInboxId)) (hexToBytes host.walletPrivateKeyHex) =
        .ok opts.conversationIdBack := by
    rw [bytesToHex_hexToBytes_canonical hreadable.canonical, hkey,
      decrypt_generated hlib hreadable.nonce_length]
    exact unpack_packed hlib hpacked hreadable.packs
  unfold processJoinRequest
  by_cases hexpired : isPastUnix nowMs (some opts.expiresAtUnix) = true
  · rw [if_pos hexpired] at hcheck ⊢
    have hauthorize : authorizeInvite prims jsonParseContent host nowMs content =
        .error (inviteError "Invite has expired") := by
      unfold authorizeInvite
      rw [htext]
      dsimp only
      rw [hparsed]
      show (checkInvite prims host _ >>= _) = _
      rw [hcheck]
      rfl
    rw [hauthorize]
    rfl
  · rw [if_neg hexpired] at hcheck ⊢
    rw [authorizeInvite_of_checks htext hparsed hcheck hgroup]
    rfl

/-! ### The join -/

theorem extractSlugForDm_of_mem (hlib : InviteLibraries prims enc zlib)
    {opts : GenerateInviteSlugOptions} {data : Bytes}
    (hdata : signedInviteBytes prims enc nonce opts = .ok data) {env : Option InviteEnv}
    {text : String} (hmem : text ∈ [inviteSlug zlib data, inviteUrl env (inviteSlug zlib data)]) :
    extractSlugForDm prims text = inviteSlug zlib data := by
  unfold extractSlugForDm
  rcases List.mem_pair.1 hmem with rfl | rfl
  · obtain ⟨htrim, hparse⟩ := parseUrl_slug hlib data
    dsimp only
    rw [htrim, hparse]
  · obtain ⟨htrim, url, hurl, hi⟩ := parseUrl_inviteUrl hlib env data
    have hne : inviteSlug zlib data ≠ "" := by
      refine inviteSlug_ne_empty ?_
      rintro rfl
      cases signedInviteBytes_head hlib hdata
    dsimp only
    rw [htrim, hurl]
    dsimp only
    rw [hi, Option.bind_some, orUndefined, if_neg hne]
    rfl

theorem JoinsConvos.parse_generated {joinMs : Nat} {scheme : OnboardingScheme} {deps : JoinDeps}
    (hjoins : JoinsConvos prims joinMs scheme deps) (hlib : InviteLibraries prims enc zlib)
    {opts : GenerateInviteSlugOptions} {data : Bytes}
    (hdata : signedInviteBytes prims enc nonce opts = .ok data)
    (hreadable : opts.Readable prims enc zlib nonce) {env : Option InviteEnv} {text : String}
    (hmem : text ∈ [inviteSlug zlib data, inviteUrl env (inviteSlug zlib data)]) :
    ∃ invite, scheme.parse text = .ok invite ∧ invite.creatorInboxId = opts.creatorInboxId ∧
      invite.isExpired = isPastUnix joinMs (some opts.expiresAtUnix) ∧
      invite.isConversationExpired = false := by
  obtain ⟨packed, compact, recovery, -, -, hparse⟩ :=
    Signet.parse_generated hlib hdata hreadable.creator_bytes hreadable.tag
      (hreadable.size data hdata)
  refine ⟨(generatedInvite prims enc nonce _ packed (compact ++ [recovery])
    joinMs).toParsedInvite, ?_, bytesToHex_hexToBytes_canonical hreadable.canonical, rfl, rfl⟩
  rw [hjoins.parse, hparse text (extractSlug_of_mem hlib hdata hmem) joinMs]
  rfl

/-- **A join by a readable invite is served.** When the answers that it needs are there, it opens a
direct message to the host and sends the slug in it, and it opens none to anybody else. Whatever it
sends there, in whatever form it is delivered, is refused once the invite has expired and until then
admits its sender to the conversation of the invite, unless another tag is stored. By the joiner's
clock, an expired invite is not joined at all. -/
theorem join_served (hlib : InviteLibraries prims enc zlib) (hsig : RecoverableSignatures prims enc)
    {opts : GenerateInviteUrlOptions} {slug : String}
    (hslug : generateConvosInviteSlug prims enc zlib nonce opts.toGenerateInviteSlugOptions =
      .ok slug)
    (hreadable : opts.Readable prims enc zlib nonce) {host : ProcessJoinRequestDeps}
    (hkey : host.walletPrivateKeyHex = opts.walletPrivateKeyHex)
    (hinbox : host.creatorInboxId = opts.creatorInboxId) {joinMs : Nat} {scheme : OnboardingScheme}
    {deps : JoinDeps} (hjoins : JoinsConvos prims joinMs scheme deps) {text : String}
    (hmem : text ∈ [slug, inviteUrl opts.env slug]) (options : JoinConversationOptions) :
    (opts.Expired joinMs ∧ opts.expiresAtUnix ≠ 0 →
      (joinConversation scheme deps text options).calls = []) ∧
    (∀ invite client identityId dmId,
      ReachesHost scheme deps text options invite client identityId dmId →
        ∀ c ∈ admissionCalls host.creatorInboxId dmId slug options.profileName,
          c ∈ (joinConversation scheme deps text options).calls) ∧
    (∀ peer, .createDm peer ∈ (joinConversation scheme deps text options).calls →
      peer = host.creatorInboxId) ∧
    ∀ dmId sent, .sendDm dmId sent ∈ (joinConversation scheme deps text options).calls →
      ∀ content, Delivers prims sent content → ∀ senderInboxId nowMs,
        (opts.Expired nowMs ∧ opts.expiresAtUnix ≠ 0 →
          processJoinRequest prims jsonParseContent host nowMs ⟨senderInboxId, content⟩ =
            .fail (inviteError "Invite has expired")) ∧
        (¬ (opts.Expired nowMs ∧ opts.expiresAtUnix ≠ 0) →
          ∀ stored, host.getGroupInviteTag opts.conversationIdBack = .ok stored →
            (stored = none ∨ stored = some opts.inviteTag) →
            Admits host senderInboxId opts.inviteTag opts.conversationIdBack
              (processJoinRequest prims jsonParseContent host nowMs ⟨senderInboxId, content⟩)) := by
  obtain ⟨data, hdata, rfl⟩ := map_eq_ok.1 hslug
  obtain ⟨invite, hinvite, hcreator, hexpiry, -⟩ :=
    hjoins.parse_generated hlib hdata hreadable hmem
  have hsent : deps.extractSlugForDm text = inviteSlug zlib data := by
    rw [hjoins.extractSlugForDm]
    exact extractSlugForDm_of_mem hlib hdata hmem
  have hsends : (joinConversation scheme deps text options).AllCalls
      (·.AboutInvite host.creatorInboxId (inviteSlug zlib data)) := by
    apply joinConversation_aboutInvite
    · intro parsed hparse
      rw [hinvite] at hparse
      rw [← Except.ok.inj hparse, hcreator, hinbox]
    · exact hsent
  refine ⟨fun hexpired => ?_, fun parsed client identityId dmId hreaches c hc => ?_,
    fun peer hcall => hsends _ hcall, ?_⟩
  · apply joinConversation_of_expired
    intro parsed hparse
    rw [hinvite] at hparse
    rw [← Except.ok.inj hparse, hexpiry]
    exact isPastUnix_expiresAtUnix.2 hexpired
  · refine mem_calls_of_reachesHost hreaches c ?_
    obtain rfl := Except.ok.inj (hinvite.symm.trans hreaches.parse)
    rwa [hcreator, hsent, ← hinbox]
  intro dmId sent hcall content hdelivers senderInboxId nowMs
  have hne : inviteSlug zlib data ≠ "" := by
    refine inviteSlug_ne_empty ?_
    rintro rfl
    cases signedInviteBytes_head hlib hdata
  have htext := inviteText_of_delivers hlib.decodeText_eq hdelivers hne (hsends _ hcall)
  have hrun := request_of_generated hlib hsig hslug hreadable hkey hinbox htext senderInboxId nowMs
  rw [hrun]
  constructor
  · exact fun hexpired => if_pos (isPastUnix_expiresAtUnix.2 hexpired)
  · intro hcurrent stored hstored htag
    rw [if_neg fun h => hcurrent (isPastUnix_expiresAtUnix.1 h)]
    exact admitRequester_admits hstored htag

end Host

/-! ### The recorded join -/

namespace RecordedInvite

theorem recoverable : RecoverableSignatures codecs encoders := by
  intro hash key compact recovery hsign
  have hrecorded : hash = payloadHash ∧ key = privateKey := by
    by_contra hother
    cases (if_neg hother).symm.trans hsign
  obtain ⟨rfl, rfl⟩ := hrecorded
  obtain ⟨rfl, rfl⟩ := Prod.mk.inj (Except.ok.inj hsign)
  have hlength : (signature.take 64).length = 64 := by decide
  refine ⟨hlength, by decide, publicKey, ?_, ?_⟩
  · show (if privateKey = privateKey then some publicKey else none) = some publicKey
    exact if_pos rfl
  · show (if signature.take 64 = signature.take 64 ∧ (0 : UInt8) = 0 ∧
        payloadHash = payloadHash then some (bytesToHex publicKey) else none) = _
    exact if_pos ⟨rfl, rfl, rfl⟩

/-- The slug of the invite. -/
def sentSlug : String :=
  inviteSlug storedZlib data

/-- The scheme of the joiner. -/
def scheme : OnboardingScheme where
  parse text := (parseConvosInviteUrl codecs 0 text).map ParsedConvosInvite.toParsedInvite
  verify _ := .ok ()
  generate _ _ _ _ _ _ := .error (.internalError "the joiner generates nothing")
  profileUpdateContentType := "convos.org/profile_update:1.0"

/-- A client that is in the group when it first looks. -/
def joinClient : JoinClient where
  inboxId := "cd"
  createDm _ := .ok "dm"
  sendToDm _ _ := .ok "m1"
  poll _ := ⟨.ok (), .ok [⟨"g1", "", "", none, ["ab", "cd"], ""⟩], .ok []⟩
  sendToGroup _ _ := .ok "m2"

/-- Its identity. -/
def joinDeps : JoinDeps where
  createIdentity _ := .ok "agent"
  setInboxId _ _ := .ok ()
  getDbEncryptionKey _ _ := .ok "db"
  getXmtpIdentityKey _ _ := .ok "key"
  privateKeyToAccount _ := .ok "0x"
  makeDbDirectory _ := .ok ()
  createClient _ _ := .ok joinClient
  extractSlugForDm := Signet.extractSlugForDm codecs
  extractInviteJoinError _ := none
  toLowerCase := id

theorem joinsConvos : JoinsConvos codecs 0 scheme joinDeps where
  parse text := by dsimp only [scheme]
  extractSlugForDm := by dsimp only [joinDeps]

end RecordedInvite

open RecordedInvite in
/-- The recorded invite is sent to the host, and as text it admits who has sent it to the group. -/
theorem join_served_recorded :
    (∀ c ∈ admissionCalls host.creatorInboxId "dm" sentSlug none,
      c ∈ (joinConversation scheme joinDeps sentSlug ⟨none, none, none⟩).calls) ∧
    Admits host "cd" "t" "g1" (processJoinRequest codecs jsonParseContent host 0
      ⟨"cd", .string sentSlug⟩) := by
  have hslug : generateConvosInviteSlug codecs encoders storedZlib RecordedInvite.nonce
      options.toGenerateInviteSlugOptions = .ok sentSlug := congrArg _ signedInviteBytes_options
  have hmem : sentSlug ∈ [sentSlug, inviteUrl none sentSlug] := List.mem_cons_self
  obtain ⟨-, hasked, -, hserved⟩ := join_served libraries recoverable hslug readable rfl rfl
    joinsConvos hmem ⟨none, none, none⟩
  have hcurrent : ¬ (options.Expired 0 ∧ options.expiresAtUnix ≠ 0) := fun h => h.2 rfl
  obtain ⟨invite, hinvite, -, hexpiry, hconversation⟩ :=
    joinsConvos.parse_generated libraries signedInviteBytes_options readable hmem
  have hexpired : invite.isExpired = false := by
    rw [hexpiry]
    exact eq_false_of_ne_true fun h => hcurrent (isPastUnix_expiresAtUnix.1 h)
  have hreaches : ReachesHost scheme joinDeps sentSlug ⟨none, none, none⟩ invite joinClient
      "agent" "dm" :=
    { parse := hinvite
      verify := rfl
      current := ⟨hexpired, hconversation⟩
      createIdentity := rfl
      keys := fun _ => ⟨⟨"db", rfl⟩, "key", "0x", rfl, rfl⟩
      makeDbDirectory := rfl
      createClient := fun _ => rfl
      setInboxId := rfl
      createDm := rfl
      sendToDm := ⟨"m1", rfl⟩ }
  have hcalls := hasked invite joinClient "agent" "dm" hreaches
  have htext : .sendDm "dm" (.text sentSlug) ∈
      (joinConversation scheme joinDeps sentSlug ⟨none, none, none⟩).calls :=
    hcalls _ (List.mem_cons_of_mem _ (List.mem_cons_of_mem _ List.mem_cons_self))
  exact ⟨hcalls, (hserved _ _ htext _ .text "cd" 0).2 hcurrent (some "t") rfl (.inr rfl)⟩

end Signet
