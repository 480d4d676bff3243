import Signet.Ws.RequestFrames

/-!
# Replies to requests

* `RepliesInv`: an entry belongs to the frame whose call is in flight with its request id. This
  needs the condition that an id is not used again while such a call is in flight.
* `request_answered_once`: under the condition a frame on an open connection has been answered
  once, or waits with its timer running. Where the condition fails, the handler that returns
  first takes away the entry and the timer of the later frame.
-/

namespace Signet.Ws

open Lib

/-! ### Calls and frames after a step -/

namespace RequestState

variable {s s' : RequestState}

theorem requestOf_of_get? {call : Nat} {phase : TransportCall}
    (h : s.transport.calls.get? call = some phase) : s.requestOf call = phase.request? := by
  unfold requestOf
  rw [h, Option.bind_some]

theorem requestOf_eq_some {call : Nat} {request : Nat × String}
    (h : s.requestOf call = some request) :
    ∃ phase, s.transport.calls.get? call = some phase ∧ phase.request? = some request :=
  Option.bind_eq_some_iff.1 h

theorem requestOf_started (hfresh : s.transport.Fresh) :
    s.requestOf s.transport.started = none := by
  cases h : s.requestOf s.transport.started with
  | none => rfl
  | some request =>
    obtain ⟨phase, hcall, -⟩ := requestOf_eq_some h
    exact absurd (hfresh _ _ hcall) (Nat.lt_irrefl _)

theorem frameOf_routing {call connectionId : Nat} {requestId : String} {mutating : Bool}
    (h : s.transport.calls.get? call = some (.routing connectionId requestId mutating)) :
    s.frameOf call = some call := by
  unfold frameOf
  rw [h]

theorem frameOf_resyncing {call connectionId : Nat} {requestId : String}
    (h : s.transport.calls.get? call = some (.resyncing connectionId requestId)) :
    s.frameOf call = s.frames.get? call := by
  unfold frameOf
  rw [h]

theorem frameOf_of_requestOf_none {call : Nat} (h : s.requestOf call = none) :
    s.frameOf call = none := by
  unfold frameOf
  unfold requestOf at h
  cases hcall : s.transport.calls.get? call with
  | none => rfl
  | some phase =>
    rw [hcall] at h
    cases phase with
    | routing => cases h
    | resyncing => cases h
    | _ => rfl

theorem same_of_get? {call : Nat}
    (hcalls : s'.transport.calls.get? call = s.transport.calls.get? call)
    (hframes : s'.frames.get? call = s.frames.get? call) :
    s'.requestOf call = s.requestOf call ∧ s'.frameOf call = s.frameOf call := by
  unfold requestOf frameOf
  rw [hcalls, hframes]
  exact ⟨rfl, rfl⟩

theorem same_of_iff {call : Nat} (hframes : s'.frames = s.frames)
    (hcalls : ∀ phase, phase.request?.isSome = true →
      (s'.transport.calls.get? call = some phase ↔ s.transport.calls.get? call = some phase)) :
    s'.requestOf call = s.requestOf call ∧ s'.frameOf call = s.frameOf call := by
  cases hrequest : s.requestOf call with
  | some request =>
    obtain ⟨phase, hcall, hphase⟩ := requestOf_eq_some hrequest
    have hcall' := (hcalls phase (by rw [hphase]; rfl)).2 hcall
    rw [← hrequest]
    exact same_of_get? (hcall'.trans hcall.symm) (by rw [hframes])
  | none =>
    have hrequest' : s'.requestOf call = none := by
      cases h : s'.requestOf call with
      | none => rfl
      | some request =>
        obtain ⟨phase, hcall', hphase⟩ := requestOf_eq_some h
        have hcall := (hcalls phase (by rw [hphase]; rfl)).1 hcall'
        rw [requestOf_of_get? hcall, hphase] at hrequest
        cases hrequest
    exact ⟨hrequest', by
      rw [frameOf_of_requestOf_none hrequest, frameOf_of_requestOf_none hrequest']⟩

theorem of_erase {call₀ : Nat} (hcalls : s'.transport.calls = s.transport.calls.erase call₀)
    (hframes : s'.frames = s.frames) (call : Nat) :
    (call = call₀ ∧ s'.requestOf call = none ∧ s'.frameOf call = none) ∨
      (call ≠ call₀ ∧ s'.requestOf call = s.requestOf call ∧ s'.frameOf call = s.frameOf call) := by
  by_cases hcall : call = call₀
  · have hnone : s'.requestOf call = none := by
      unfold requestOf
      rw [hcalls, hcall, OrdMap.get?_erase_self]
      rfl
    exact .inl ⟨hcall, hnone, frameOf_of_requestOf_none hnone⟩
  · refine .inr ⟨hcall, same_of_get? ?_ (by rw [hframes])⟩
    rw [hcalls, OrdMap.get?_erase_of_ne _ hcall]

theorem of_erase_set {call₀ new : Nat} {phase : TransportCall}
    (hcalls : s'.transport.calls = (s.transport.calls.erase call₀).set new phase)
    (hframes : ∀ call, call ≠ new → s'.frames.get? call = s.frames.get? call) (call : Nat)
    (hcall : call ≠ new) :
    (call = call₀ ∧ s'.requestOf call = none ∧ s'.frameOf call = none) ∨
      (call ≠ call₀ ∧ s'.requestOf call = s.requestOf call ∧ s'.frameOf call = s.frameOf call) := by
  by_cases hcall₀ : call = call₀
  · have hnone : s'.requestOf call = none := by
      unfold requestOf
      rw [hcalls, OrdMap.get?_set_of_ne _ _ hcall, hcall₀, OrdMap.get?_erase_self]
      rfl
    exact .inl ⟨hcall₀, hnone, frameOf_of_requestOf_none hnone⟩
  · refine .inr ⟨hcall₀, same_of_get? ?_ (hframes call hcall)⟩
    rw [hcalls, OrdMap.get?_set_of_ne _ _ hcall, OrdMap.get?_erase_of_ne _ hcall₀]

end RequestState

/-! ### Answers to a frame -/

/-- The frame waits, or has been answered once; if not, its connection is closed. -/
def Net.Answered (net : Net) (replies : List (Nat × String × RequestReply))
    (frame connectionId : Nat) (requestId : String) : Prop :=
  (net.entry connectionId requestId = some frame ∧ replies = []) ∨
    (net.entry connectionId requestId ≠ some frame ∧
      ((∃ reply, replies = [(connectionId, requestId, reply)]) ∨
        (replies = [] ∧ net.isOpen connectionId = false)))

section Answered

variable {net net' : Net} {replies : List (Nat × String × RequestReply)}
  {frame connectionId id timer : Nat} {requestId r : String}

/-- Operations that are not about requests answer no frame. -/
theorem Net.Answered.kept {d : ConnectionData}
    (h : net.Answered replies frame connectionId requestId)
    (hd : net.connections.get? connectionId = some d) (hkept : net.RequestsKept net') :
    net'.Answered replies frame connectionId requestId := by
  have hclosed : net.isOpen connectionId = false → net'.isOpen connectionId = false := by
    intro hclosed
    cases hopen : net'.isOpen connectionId with
    | false => rfl
    | true => rw [(hkept.opened hd hopen).1] at hclosed; cases hclosed
  rcases h with ⟨hentry, hreplies⟩ | ⟨hentry, hanswered⟩
  · by_cases hentry' : net'.entry connectionId requestId = some frame
    · exact .inl ⟨hentry', hreplies⟩
    · -- the entry is gone because the connection is closed
      refine .inr ⟨hentry', .inr ⟨hreplies, ?_⟩⟩
      cases hopen : net'.isOpen connectionId with
      | false => rfl
      | true => exact absurd (((hkept.opened hd hopen).2 requestId).trans hentry) hentry'
  · exact .inr ⟨fun hentry' => hentry (hkept.entries hentry'),
      hanswered.imp_right fun ⟨hreplies, hold⟩ => ⟨hreplies, hclosed hold⟩⟩

theorem Net.Answered.cleared (h : net.Answered replies frame id r)
    (hcleared : Cleared net net' connectionId timer requestId)
    (htimer : net.entry connectionId requestId = some timer) (hne : frame ≠ timer) :
    net'.Answered replies frame id r := by
  unfold Answered
  rw [hcleared.entry, hcleared.isOpen]
  by_cases hsame : id = connectionId ∧ r = requestId
  · obtain ⟨rfl, rfl⟩ := hsame
    rw [if_pos ⟨rfl, rfl⟩]
    rcases h with ⟨hentry, -⟩ | ⟨-, hanswered⟩
    · rw [htimer] at hentry
      exact absurd (Option.some.inj hentry).symm hne
    · exact .inr ⟨nofun, hanswered⟩
  · rw [if_neg hsame]
    exact h

theorem Net.Answered.answered {reply : RequestReply}
    (h : net.Answered replies timer connectionId requestId)
    (hcleared : Cleared net net' connectionId timer requestId)
    (htimer : net.entry connectionId requestId = some timer) :
    net'.Answered (replies ++ if net.isOpen connectionId then [(connectionId, requestId, reply)]
      else []) timer connectionId requestId := by
  have hreplies : replies = [] := by
    rcases h with ⟨-, hreplies⟩ | ⟨hentry, -⟩
    · exact hreplies
    · exact absurd htimer hentry
  refine .inr ⟨?_, ?_⟩
  · rw [hcleared.entry, if_pos ⟨rfl, rfl⟩]
    nofun
  · rw [hcleared.isOpen, hreplies]
    cases hopen : net.isOpen connectionId with
    | true => exact .inl ⟨reply, rfl⟩
    | false => exact .inr ⟨rfl, rfl⟩

theorem Net.Answered.begun {d : ConnectionData} (h : net.Answered replies frame id r)
    (hd : net.connections.get? connectionId = some d)
    (hunused : net.entry connectionId requestId = none) (hne : frame ≠ timer) :
    (Net.beginRequest connectionId timer requestId net).1.Answered replies frame id r := by
  have hopen : (Net.beginRequest connectionId timer requestId net).1.isOpen id = net.isOpen id :=
    isOpen_requests (·.set requestId timer)
  unfold Answered
  rw [entry_beginRequest hd, hopen]
  by_cases hsame : id = connectionId ∧ r = requestId
  · obtain ⟨rfl, rfl⟩ := hsame
    rw [if_pos ⟨rfl, rfl⟩]
    rcases h with ⟨hentry, -⟩ | ⟨-, hanswered⟩
    · rw [hunused] at hentry
      cases hentry
    · exact .inr ⟨fun heq => hne (Option.some.inj heq).symm, hanswered⟩
  · rw [if_neg hsame]
    exact h

end Answered

/-! ### The invariant -/

/-- Frames are answered from their own entries. -/
structure RepliesInv (tr : List RequestEvent) (s : RequestState) : Prop where
  linked : s.transport.net.Linked
  /-- A frame that is looked up has a connection. -/
  known : ∀ {call connectionId frame},
    s.transport.calls.get? call = some (.requesting connectionId frame) →
      ∃ d, s.transport.net.connections.get? connectionId = some d
  /-- One call at a time is in flight for a request. -/
  single : ∀ {call call' request}, s.requestOf call = some request →
    s.requestOf call' = some request → call = call'
  framed : ∀ {call connectionId requestId}, s.requestOf call = some (connectionId, requestId) →
    ∃ frame, s.frameOf call = some frame ∧ .began frame connectionId requestId ∈ tr
  /-- An entry belongs to the frame whose call is in flight. -/
  entry_call : ∀ {connectionId requestId frame},
    s.transport.net.entry connectionId requestId = some frame →
      ∃ call, s.requestOf call = some (connectionId, requestId) ∧ s.frameOf call = some frame
  began : ∀ {frame connectionId requestId}, .began frame connectionId requestId ∈ tr →
    frame < s.transport.started ∧ ∃ d, s.transport.net.connections.get? connectionId = some d
  unique : ∀ {frame connectionId requestId connectionId' requestId'},
    .began frame connectionId requestId ∈ tr → .began frame connectionId' requestId' ∈ tr →
      connectionId = connectionId' ∧ requestId = requestId'
  replied : ∀ {frame connectionId requestId reply},
    .replied frame connectionId requestId reply ∈ tr → .began frame connectionId requestId ∈ tr
  answered : ∀ {frame connectionId requestId}, .began frame connectionId requestId ∈ tr →
    s.transport.net.Answered (repliesTo frame tr) frame connectionId requestId

namespace RepliesInv

variable {cfg : TransportConfig} {tr es : List RequestEvent} {s s' : RequestState}
  {frame connectionId : Nat} {requestId : String}

theorem init : RepliesInv [] (requestMachine cfg).init where
  linked _ _ _ := ⟨nofun, nofun⟩
  known := nofun
  single := nofun
  framed := nofun
  entry_call := nofun
  began := nofun
  unique := nofun
  replied := nofun
  answered := nofun

/-- The frame of an entry has begun. -/
theorem began_of_entry (hinv : RepliesInv tr s)
    (hentry : s.transport.net.entry connectionId requestId = some frame) :
    .began frame connectionId requestId ∈ tr := by
  obtain ⟨call, hrequest, hframe⟩ := hinv.entry_call hentry
  obtain ⟨frame', hframe', hbegan⟩ := hinv.framed hrequest
  rw [hframe] at hframe'
  rw [Option.some.inj hframe']
  exact hbegan

theorem repliesTo_eq_nil (hinv : RepliesInv tr s)
    (hbegan : ∀ connectionId requestId, .began frame connectionId requestId ∉ tr) :
    repliesTo frame tr = [] := by
  refine List.filterMap_eq_nil_iff.2 fun e he => ?_
  cases e with
  | began => rfl
  | replied frame' connectionId requestId reply =>
    refine if_neg ?_
    rintro rfl
    exact hbegan _ _ (hinv.replied he)

/-- Only a frame that begins has no entry before; the other steps are put together here. -/
theorem of_calls (hinv : RepliesInv tr s) (hstarted : s.transport.started ≤ s'.transport.started)
    (hbegan : ∀ frame connectionId requestId, .began frame connectionId requestId ∉ es)
    (hkept : ∀ {id d}, s.transport.net.connections.get? id = some d →
      ∃ d', s'.transport.net.connections.get? id = some d')
    (hlinked : s'.transport.net.Linked)
    (hknown : ∀ {call connectionId frame},
      s'.transport.calls.get? call = some (.requesting connectionId frame) →
        s.transport.calls.get? call = some (.requesting connectionId frame) ∨
          ∃ d, s.transport.net.connections.get? connectionId = some d)
    (hsingle : ∀ {call call' request}, s'.requestOf call = some request →
      s'.requestOf call' = some request → call = call')
    (hback : ∀ {call request}, s'.requestOf call = some request →
      ∃ call₀, s.requestOf call₀ = some request ∧ s'.frameOf call = s.frameOf call₀)
    (hentry : ∀ {connectionId requestId frame},
      s'.transport.net.entry connectionId requestId = some frame →
        s.transport.net.entry connectionId requestId = some frame ∧
          ∀ call, s.requestOf call = some (connectionId, requestId) →
            ∃ call', s'.requestOf call' = some (connectionId, requestId) ∧
              s'.frameOf call' = s.frameOf call)
    (hreplied : ∀ {frame connectionId requestId reply},
      .replied frame connectionId requestId reply ∈ es → .began frame connectionId requestId ∈ tr)
    (hanswered : ∀ {frame connectionId requestId}, .began frame connectionId requestId ∈ tr →
      s'.transport.net.Answered (repliesTo frame (tr ++ es)) frame connectionId requestId) :
    RepliesInv (tr ++ es) s' := by
  have hold : ∀ {frame connectionId requestId}, .began frame connectionId requestId ∈ tr ++ es →
      .began frame connectionId requestId ∈ tr := fun h =>
    (List.mem_append.1 h).resolve_right (hbegan _ _ _)
  refine ⟨hlinked, fun hcall => ?_, hsingle, fun hrequest => ?_, fun h => ?_, fun h => ?_,
    fun h h' => hinv.unique (hold h) (hold h'), fun h => ?_, fun h => hanswered (hold h)⟩
  · rcases hknown hcall with hcall₀ | ⟨d, hd⟩
    · obtain ⟨d, hd⟩ := hinv.known hcall₀
      exact hkept hd
    · exact hkept hd
  · obtain ⟨call₀, hrequest₀, hframe⟩ := hback hrequest
    obtain ⟨frame, hframe₀, hmem⟩ := hinv.framed hrequest₀
    exact ⟨frame, hframe.trans hframe₀, List.mem_append_left es hmem⟩
  · obtain ⟨h₀, hforward⟩ := hentry h
    obtain ⟨call, hrequest, hframe⟩ := hinv.entry_call h₀
    obtain ⟨call', hrequest', hframe'⟩ := hforward call hrequest
    exact ⟨call', hrequest', hframe'.trans hframe⟩
  · obtain ⟨hlt, d, hd⟩ := hinv.began (hold h)
    exact ⟨Nat.lt_of_lt_of_le hlt hstarted, hkept hd⟩
  · rcases List.mem_append.1 h with hmem | hmem
    · exact List.mem_append_left es (hinv.replied hmem)
    · exact List.mem_append_left es (hreplied hmem)

/-- The answers after an entry has been erased with a reply to its frame. -/
theorem answered_cleared {net net' : Net} {timer : Nat} {reply : RequestReply}
    (hinv : RepliesInv tr s) (hkept : s.transport.net.RequestsKept net)
    (hcleared : Net.Cleared net net' connectionId timer requestId)
    (hentry : net.entry connectionId requestId = some timer) {frame id : Nat} {r : String}
    (hbegan : .began frame id r ∈ tr) :
    net'.Answered (repliesTo frame (tr ++ if net.isOpen connectionId then
      [.replied timer connectionId requestId reply] else [])) frame id r := by
  obtain ⟨-, d, hd⟩ := hinv.began hbegan
  have hbase := (hinv.answered hbegan).kept hd hkept
  rw [repliesTo_append]
  by_cases hframe : frame = timer
  · obtain ⟨rfl, rfl⟩ := hinv.unique hbegan
      (hframe ▸ hinv.began_of_entry (hkept.entries hentry))
    have hreply : repliesTo frame (if net.isOpen id then [.replied timer id r reply] else []) =
        if net.isOpen id then [(id, r, reply)] else [] := by
      split
      · exact List.filterMap_cons_some (if_pos hframe.symm)
      · rfl
    rw [hreply, hframe]
    rw [hframe] at hbase
    exact hbase.answered hcleared hentry
  · have hnone : repliesTo frame (if net.isOpen connectionId then
        [.replied timer connectionId requestId reply] else []) = [] := by
      split
      · exact List.filterMap_cons_none (if_neg (Ne.symm hframe))
      · rfl
    rw [hnone, List.append_nil]
    exact hbase.cleared hcleared hentry hframe

theorem filterMap_replied_sent {isOpen : Bool} {reply : RequestReply} :
    ((if isOpen = true then [NetEvent.sent connectionId (.response requestId reply)]
        else []).map TransportEvent.net).filterMap (replied? (some frame)) =
      if isOpen = true then [.replied frame connectionId requestId reply] else [] := by
  cases isOpen <;> rfl

theorem begun {call : Nat} {mutating : Bool} {net : Net} (hinv : RepliesInv tr s)
    (hfresh : s.transport.Fresh)
    (hcall : s.transport.calls.get? call =
      some (.requesting connectionId (.request requestId mutating)))
    (hkept : s.transport.net.RequestsKept net)
    (hnet : s'.transport.net =
      (Net.beginRequest connectionId s.transport.started requestId net).1)
    (hcalls : s'.transport.calls = (s.transport.calls.erase call).set s.transport.started
      (.routing connectionId requestId mutating))
    (hstarted : s'.transport.started = s.transport.started + 1) (hframes : s'.frames = s.frames)
    (hfree : ∀ call, s.requestOf call ≠ some (connectionId, requestId)) :
    RepliesInv (tr ++ [.began s.transport.started connectionId requestId]) s' := by
  obtain ⟨d₀, hd₀⟩ := hinv.known hcall
  obtain ⟨d, hd⟩ := hkept.kept hd₀
  have hunused : net.entry connectionId requestId = none := by
    cases hentry : net.entry connectionId requestId with
    | none => rfl
    | some timer =>
      obtain ⟨call, hrequest, -⟩ := hinv.entry_call (hkept.entries hentry)
      exact absurd hrequest (hfree call)
  have hnew : net.requestTimers.get? s.transport.started = none := by
    cases htimer : net.requestTimers.get? s.transport.started with
    | none => rfl
    | some request =>
      have hentry := (hkept.linked hinv.linked _ request.1 request.2).1 htimer
      exact absurd (hinv.began (hinv.began_of_entry (hkept.entries hentry))).1 (Nat.lt_irrefl _)
  have hconns : ∀ {id d}, s.transport.net.connections.get? id = some d →
      ∃ d', s'.transport.net.connections.get? id = some d' := by
    intro id d hd
    obtain ⟨d', hd'⟩ := hkept.kept hd
    rw [hnet]
    exact Net.exists_get?_modify hd'
  have hget_new : s'.transport.calls.get? s.transport.started =
      some (.routing connectionId requestId mutating) := by
    rw [hcalls, OrdMap.get?_set_self]
  have hrequest_new : s'.requestOf s.transport.started = some (connectionId, requestId) :=
    RequestState.requestOf_of_get? hget_new
  have hframe_new : s'.frameOf s.transport.started = some s.transport.started :=
    RequestState.frameOf_routing hget_new
  -- the call that is answered is in flight for no request
  have hsame : ∀ call', call' ≠ s.transport.started →
      s'.requestOf call' = s.requestOf call' ∧ s'.frameOf call' = s.frameOf call' := by
    intro call' hne
    rcases RequestState.of_erase_set hcalls (fun _ _ => by rw [hframes]) call' hne with
      ⟨rfl, hnone, hframe⟩ | ⟨-, hrest⟩
    · have hnone₀ : s.requestOf call' = none := RequestState.requestOf_of_get? hcall
      exact ⟨hnone.trans hnone₀.symm,
        hframe.trans (RequestState.frameOf_of_requestOf_none hnone₀).symm⟩
    · exact hrest
  have hmem : ∀ {frame id r},
      .began frame id r ∈ tr ++ [.began s.transport.started connectionId requestId] →
        .began frame id r ∈ tr ∨ frame = s.transport.started ∧ id = connectionId ∧
          r = requestId := by
    intro frame id r h
    rcases List.mem_append.1 h with hold | hnew
    · exact .inl hold
    · cases List.mem_singleton.1 hnew
      exact .inr ⟨rfl, rfl, rfl⟩
  have hentry' : ∀ id r, s'.transport.net.entry id r = if id = connectionId ∧ r = requestId then
      some s.transport.started else net.entry id r := by
    intro id r
    rw [hnet, Net.entry_beginRequest hd]
  refine ⟨?_, fun {call' id frame} hcall' => ?_, fun {call₁ call₂ request} h₁ h₂ => ?_,
    fun {call' id r} h => ?_, fun {id r frame} h => ?_, fun h => ?_, fun h h' => ?_, fun h => ?_,
    fun {frame id r} h => ?_⟩
  · rw [hnet]
    exact Net.linked_beginRequest hd (hkept.linked hinv.linked) hnew hunused
  · rw [hcalls] at hcall'
    rcases OrdMap.get?_set_eq_some hcall' with ⟨-, heq⟩ | ⟨-, hold⟩
    · cases heq
    · obtain ⟨d, hd⟩ := hinv.known (OrdMap.get?_erase_eq_some hold).2
      exact hconns hd
  · by_cases hcall₁ : call₁ = s.transport.started
    · by_cases hcall₂ : call₂ = s.transport.started
      · exact hcall₁.trans hcall₂.symm
      · rw [hcall₁, hrequest_new] at h₁
        rw [(hsame call₂ hcall₂).1, ← Option.some.inj h₁] at h₂
        exact absurd h₂ (hfree call₂)
    · by_cases hcall₂ : call₂ = s.transport.started
      · rw [hcall₂, hrequest_new] at h₂
        rw [(hsame call₁ hcall₁).1, ← Option.some.inj h₂] at h₁
        exact absurd h₁ (hfree call₁)
      · rw [(hsame call₁ hcall₁).1] at h₁
        rw [(hsame call₂ hcall₂).1] at h₂
        exact hinv.single h₁ h₂
  · by_cases hcall' : call' = s.transport.started
    · rw [hcall', hrequest_new] at h
      obtain ⟨rfl, rfl⟩ := Prod.mk.inj (Option.some.inj h)
      rw [hcall', hframe_new]
      exact ⟨_, rfl, List.mem_append_right tr List.mem_cons_self⟩
    · rw [(hsame call' hcall').1] at h
      obtain ⟨frame, hframe, hbegan⟩ := hinv.framed h
      exact ⟨frame, (hsame call' hcall').2.trans hframe, List.mem_append_left _ hbegan⟩
  · rw [hentry'] at h
    split at h
    · next heq =>
      rw [heq.1, heq.2]
      exact ⟨_, hrequest_new, hframe_new.trans h⟩
    · obtain ⟨call', hrequest, hframe⟩ := hinv.entry_call (hkept.entries h)
      have hne : call' ≠ s.transport.started := by
        rintro rfl
        rw [RequestState.requestOf_started hfresh] at hrequest
        cases hrequest
      exact ⟨call', (hsame call' hne).1.trans hrequest, (hsame call' hne).2.trans hframe⟩
  · rw [hstarted]
    rcases hmem h with hold | ⟨rfl, rfl, -⟩
    · obtain ⟨hlt, d, hd⟩ := hinv.began hold
      exact ⟨Nat.lt_succ_of_lt hlt, hconns hd⟩
    · exact ⟨Nat.lt_succ_self _, hconns hd₀⟩
  · rcases hmem h with hold | ⟨rfl, rfl, rfl⟩
    · rcases hmem h' with hold' | ⟨rfl, -, -⟩
      · exact hinv.unique hold hold'
      · exact absurd (hinv.began hold).1 (Nat.lt_irrefl _)
    · rcases hmem h' with hold' | ⟨-, rfl, rfl⟩
      · exact absurd (hinv.began hold').1 (Nat.lt_irrefl _)
      · exact ⟨rfl, rfl⟩
  · rcases List.mem_append.1 h with hold | hnew
    · exact List.mem_append_left _ (hinv.replied hold)
    · cases List.mem_singleton.1 hnew
  · rw [repliesTo_append, show repliesTo frame [.began s.transport.started connectionId requestId] =
      [] from rfl, List.append_nil]
    rcases hmem h with hold | ⟨rfl, rfl, rfl⟩
    · obtain ⟨hlt, d₁, hd₁⟩ := hinv.began hold
      rw [hnet]
      exact ((hinv.answered hold).kept hd₁ hkept).begun hd hunused (Nat.ne_of_lt hlt)
    · refine .inl ⟨?_, hinv.repliesTo_eq_nil fun id r hmem => ?_⟩
      · rw [hentry', if_pos ⟨rfl, rfl⟩]
      · exact absurd (hinv.began hmem).1 (Nat.lt_irrefl _)

theorem resynced {call : Nat} (hinv : RepliesInv tr s) (hfresh : s.transport.Fresh)
    (hcall : s.transport.calls.get? call = some (.routing connectionId requestId true))
    (hnet : s'.transport.net = s.transport.net)
    (hcalls : s'.transport.calls = (s.transport.calls.erase call).set s.transport.started
      (.resyncing connectionId requestId))
    (hstarted : s'.transport.started = s.transport.started + 1)
    (hframes : s'.frames = s.frames.set s.transport.started call) : RepliesInv (tr ++ []) s' := by
  have hget_new : s'.transport.calls.get? s.transport.started =
      some (.resyncing connectionId requestId) := by
    rw [hcalls, OrdMap.get?_set_self]
  have hrequest : s.requestOf call = some (connectionId, requestId) :=
    RequestState.requestOf_of_get? hcall
  have hrequest_new : s'.requestOf s.transport.started = some (connectionId, requestId) :=
    RequestState.requestOf_of_get? hget_new
  have hframe_new : s'.frameOf s.transport.started = s.frameOf call := by
    rw [RequestState.frameOf_resyncing hget_new, hframes, OrdMap.get?_set_self,
      RequestState.frameOf_routing hcall]
  have hrest := @RequestState.of_erase_set s s' call _ _ hcalls fun call' hne => by
    rw [hframes, OrdMap.get?_set_of_ne _ _ hne]
  -- where a call comes from
  have horigin : ∀ {call' request}, s'.requestOf call' = some request →
      (call' = s.transport.started ∧ request = (connectionId, requestId)) ∨
        (call' ≠ call ∧ s.requestOf call' = some request ∧
          s'.frameOf call' = s.frameOf call') := by
    intro call' request h
    by_cases hnew : call' = s.transport.started
    · rw [hnew, hrequest_new] at h
      exact .inl ⟨hnew, (Option.some.inj h).symm⟩
    · rcases hrest call' hnew with ⟨-, hnone, -⟩ | ⟨hne, hsame, hframe⟩
      · rw [hnone] at h
        cases h
      · exact .inr ⟨hne, hsame.symm.trans h, hframe⟩
  refine hinv.of_calls (by rw [hstarted]; exact Nat.le_succ _) nofun
    (fun hd => by rw [hnet]; exact ⟨_, hd⟩) (by rw [hnet]; exact hinv.linked)
    (fun {call' id frame} h => ?_) (fun {call₁ call₂ request} h₁ h₂ => ?_)
    (fun {call' request} h => ?_) (fun {id r frame} h => ?_) nofun fun {frame id r} h => ?_
  · rw [hcalls] at h
    rcases OrdMap.get?_set_eq_some h with ⟨-, heq⟩ | ⟨-, hold⟩
    · cases heq
    · exact .inl (OrdMap.get?_erase_eq_some hold).2
  · rcases horigin h₁ with ⟨rfl, rfl⟩ | ⟨hne₁, hold₁, -⟩
    · rcases horigin h₂ with ⟨rfl, -⟩ | ⟨hne₂, hold₂, -⟩
      · rfl
      · exact absurd (hinv.single hold₂ hrequest) hne₂
    · rcases horigin h₂ with ⟨rfl, rfl⟩ | ⟨-, hold₂, -⟩
      · exact absurd (hinv.single hold₁ hrequest) hne₁
      · exact hinv.single hold₁ hold₂
  · rcases horigin h with ⟨rfl, rfl⟩ | ⟨-, hold, hframe⟩
    · exact ⟨call, hrequest, hframe_new⟩
    · exact ⟨call', hold, hframe⟩
  · rw [hnet] at h
    refine ⟨h, fun call' hcall' => ?_⟩
    by_cases heq : call' = call
    · rw [heq] at hcall' ⊢
      rw [hrequest] at hcall'
      exact ⟨_, hrequest_new.trans hcall', hframe_new⟩
    · have hnew : call' ≠ s.transport.started := by
        rintro rfl
        rw [RequestState.requestOf_started hfresh] at hcall'
        cases hcall'
      rcases hrest call' hnew with ⟨heq', -⟩ | ⟨-, hsame, hframe⟩
      · exact absurd heq' heq
      · exact ⟨call', hsame.trans hcall', hframe⟩
  · rw [List.append_nil, hnet]
    exact hinv.answered h

theorem settled {call : Nat} {reply : RequestReply} {net : Net} (hinv : RepliesInv tr s)
    (hcall : s.requestOf call = some (connectionId, requestId))
    (hkept : s.transport.net.RequestsKept net)
    (hnet : s'.transport.net = (Net.endRequest connectionId requestId reply net).1)
    (hcalls : s'.transport.calls = s.transport.calls.erase call)
    (hstarted : s'.transport.started = s.transport.started) (hframes : s'.frames = s.frames) :
    RepliesInv (tr ++ ((Net.endRequest connectionId requestId reply net).2.map
      TransportEvent.net).filterMap (replied? (s.frameOf call))) s' := by
  have hrest := RequestState.of_erase hcalls hframes
  have horigin : ∀ {call' request}, s'.requestOf call' = some request →
      s.requestOf call' = some request ∧ s'.frameOf call' = s.frameOf call' := by
    intro call' request h
    rcases hrest call' with ⟨-, hnone, -⟩ | ⟨-, hsame, hframe⟩
    · rw [hnone] at h
      cases h
    · exact ⟨hsame.symm.trans h, hframe⟩
  have hknown : ∀ {call id frame},
      s'.transport.calls.get? call = some (.requesting id frame) →
        s.transport.calls.get? call = some (.requesting id frame) := by
    intro call id frame h
    rw [hcalls] at h
    exact (OrdMap.get?_erase_eq_some h).2
  -- an entry of another request is that of another call
  have hforward : ∀ {id r}, (id, r) ≠ (connectionId, requestId) → ∀ call',
      s.requestOf call' = some (id, r) →
        ∃ call'', s'.requestOf call'' = some (id, r) ∧ s'.frameOf call'' = s.frameOf call' := by
    intro id r hne call' hcall'
    rcases hrest call' with ⟨rfl, -⟩ | ⟨-, hsame, hframe⟩
    · rw [hcall] at hcall'
      exact absurd (Option.some.inj hcall').symm hne
    · exact ⟨call', hsame.trans hcall', hframe⟩
  cases hentry : net.entry connectionId requestId with
  | none =>
    rw [Net.endRequest_of_none hentry] at hnet ⊢
    refine hinv.of_calls (Nat.le_of_eq hstarted.symm) nofun
      (fun hd => by rw [hnet]; exact hkept.kept hd)
      (by rw [hnet]; exact hkept.linked hinv.linked) (fun h => .inl (hknown h))
      (fun h h' => hinv.single (horigin h).1 (horigin h').1)
      (fun h => ⟨_, (horigin h).1, (horigin h).2⟩) (fun {id r frame} h => ?_) nofun
      fun {frame id r} h => ?_
    · rw [hnet] at h
      refine ⟨hkept.entries h, hforward ?_⟩
      intro heq
      obtain ⟨rfl, rfl⟩ := Prod.mk.inj heq
      rw [hentry] at h
      cases h
    · obtain ⟨-, d, hd⟩ := hinv.began h
      rw [List.map_nil, List.filterMap_nil, List.append_nil, hnet]
      exact (hinv.answered h).kept hd hkept
  | some timer =>
    obtain ⟨hcleared, hsent⟩ :=
      @Net.endRequest_of_some net connectionId timer requestId reply hentry
    rw [← hnet] at hcleared
    -- the entry is that of the frame of the call
    have hframe : s.frameOf call = some timer := by
      obtain ⟨call', hcall', hframe'⟩ := hinv.entry_call (hkept.entries hentry)
      rw [← hinv.single hcall' hcall]
      exact hframe'
    rw [hsent, hframe, filterMap_replied_sent]
    refine hinv.of_calls (Nat.le_of_eq hstarted.symm) (fun _ _ _ h => ?_) (fun hd => ?_)
      (hcleared.linked (hkept.linked hinv.linked) hentry) (fun h => .inl (hknown h))
      (fun h h' => hinv.single (horigin h).1 (horigin h').1)
      (fun h => ⟨_, (horigin h).1, (horigin h).2⟩) (fun {id r frame} h => ?_) (fun h => ?_)
      fun h => hinv.answered_cleared hkept hcleared hentry h
    · split at h
      · cases List.mem_singleton.1 h
      · cases h
    · obtain ⟨d', hd'⟩ := hkept.kept hd
      exact hcleared.kept hd'
    · rw [hcleared.entry] at h
      split at h
      · cases h
      · next hne =>
        refine ⟨hkept.entries h, hforward fun heq => hne (Prod.mk.inj heq)⟩
    · split at h
      · cases List.mem_singleton.1 h
        exact hinv.began_of_entry (hkept.entries hentry)
      · cases h

theorem timedOut {timer : Nat} (hinv : RepliesInv tr s)
    (htimer : s.transport.net.requestTimers.get? timer = some (connectionId, requestId))
    (hnet : s'.transport.net =
      (Net.timeoutRequest connectionId timer requestId s.transport.net).1)
    (hcalls : s'.transport.calls = s.transport.calls)
    (hstarted : s'.transport.started = s.transport.started) (hframes : s'.frames = s.frames) :
    RepliesInv (tr ++ ((Net.timeoutRequest connectionId timer requestId s.transport.net).2.map
      TransportEvent.net).filterMap (replied? (some timer))) s' := by
  have hentry := (hinv.linked timer connectionId requestId).1 htimer
  obtain ⟨hcleared, hsent⟩ := Net.timeoutRequest_spec s.transport.net connectionId timer requestId
  rw [← hnet] at hcleared
  rw [hsent, filterMap_replied_sent]
  have hsame : ∀ call, s'.requestOf call = s.requestOf call ∧ s'.frameOf call = s.frameOf call :=
    fun call => RequestState.same_of_get? (by rw [hcalls]) (by rw [hframes])
  refine hinv.of_calls (Nat.le_of_eq hstarted.symm) (fun _ _ _ h => ?_) hcleared.kept
    (hcleared.linked hinv.linked hentry) (fun h => .inl (by rwa [hcalls] at h))
    (fun {call call' request} h h' => ?_) (fun {call request} h => ?_)
    (fun {id r frame} h => ?_) (fun h => ?_)
    fun h => hinv.answered_cleared (.refl _) hcleared hentry h
  · split at h
    · cases List.mem_singleton.1 h
    · cases h
  · rw [(hsame _).1] at h h'
    exact hinv.single h h'
  · rw [(hsame _).1] at h
    exact ⟨call, h, (hsame call).2⟩
  · rw [hcleared.entry] at h
    split at h
    · cases h
    · exact ⟨h, fun call hcall => ⟨call, (hsame call).1.trans hcall, (hsame call).2⟩⟩
  · split at h
    · cases List.mem_singleton.1 h
      exact hinv.began_of_entry hentry
    · cases h

/-- **Every step keeps the invariant**, if no id is used again too early. -/
theorem step (hinv : RepliesInv tr s) (hfresh : s.transport.Fresh) (hstep : RequestStep s s' es)
    (hfree : ∀ {frame connectionId requestId}, .began frame connectionId requestId ∈ es →
      ∀ call, s.requestOf call ≠ some (connectionId, requestId)) : RepliesInv (tr ++ es) s' := by
  cases hstep with
  | began hcall hkept hnet hcalls hstarted hframes =>
    exact hinv.begun hfresh hcall hkept hnet hcalls hstarted hframes (hfree List.mem_cons_self)
  | resyncs hcall hnet hcalls hstarted hframes =>
    exact hinv.resynced hfresh hcall hnet hcalls hstarted hframes
  | settled hcall hkept hnet hcalls hstarted hframes =>
    exact hinv.settled hcall hkept hnet hcalls hstarted hframes
  | timedOut htimer hnet hcalls hstarted hframes =>
    exact hinv.timedOut htimer hnet hcalls hstarted hframes
  | other hkept hcalls hrequesting hstarted hframes =>
    have hsame : ∀ call, s'.requestOf call = s.requestOf call ∧ s'.frameOf call = s.frameOf call :=
      fun call => RequestState.same_of_iff hframes (hcalls call)
    refine hinv.of_calls hstarted nofun hkept.kept (hkept.linked hinv.linked) (hrequesting _ _ _)
      (fun {call call' request} h h' => ?_) (fun {call request} h => ?_)
      (fun {id r frame} h => ?_) nofun fun {frame id r} h => ?_
    · rw [(hsame _).1] at h h'
      exact hinv.single h h'
    · rw [(hsame _).1] at h
      exact ⟨call, h, (hsame call).2⟩
    · exact ⟨hkept.entries h, fun call hcall =>
        ⟨call, (hsame call).1.trans hcall, (hsame call).2⟩⟩
    · obtain ⟨-, d, hd⟩ := hinv.began h
      rw [List.append_nil]
      exact (hinv.answered h).kept hd hkept

end RepliesInv

/-! ### Every frame is answered once -/

/-- A frame begins with an id that a call on its connection is still in flight for. -/
def RequestState.reusesPendingId (s : RequestState) (a : TransportAction) : Bool :=
  (s.begins a).any fun request =>
    s.transport.calls.keys.any fun call => s.requestOf call = some request

theorem RequestState.reusesPendingId_iff {s : RequestState} {a : TransportAction} :
    s.reusesPendingId a = true ↔
      ∃ request call, s.begins a = some request ∧ s.requestOf call = some request := by
  unfold reusesPendingId
  rw [Option.any_eq_true]
  refine exists_congr fun request => ?_
  rw [List.any_eq_true]
  constructor
  · rintro ⟨hbegins, call, -, hcall⟩
    exact ⟨call, hbegins, of_decide_eq_true hcall⟩
  · rintro ⟨call, hbegins, hcall⟩
    obtain ⟨phase, hget, -⟩ := requestOf_eq_some hcall
    refine ⟨hbegins, call, ?_, decide_eq_true hcall⟩
    exact OrdMap.mem_keys_iff.2 (OrdMap.has_eq_true_iff.2 ⟨phase, hget⟩)

/-- The frame has got its one reply, or has none yet and its timer can fire. -/
def RequestState.AnsweredOnce (cfg : TransportConfig) (s : RequestState) (tr : List RequestEvent)
    (frame connectionId : Nat) (requestId : String) : Prop :=
  (s.transport.net.requestTimers.get? frame = none ∧
      ∃ reply, repliesTo frame tr = [(connectionId, requestId, reply)]) ∨
    (repliesTo frame tr = [] ∧ (∃ call, s.frameOf call = some frame) ∧
      ∃ s', (requestMachine cfg).step s (.requestTimeout frame) =
        some (s', [.replied frame connectionId requestId .timedOut]))

/-- The frame has no reply on its open connection, and neither its handler nor its timer is left
to send one. -/
def RequestState.NeverAnswered (s : RequestState) (tr : List RequestEvent)
    (frame connectionId : Nat) : Prop :=
  s.transport.net.isOpen connectionId = true ∧ repliesTo frame tr = [] ∧
    (∀ call, s.frameOf call ≠ some frame) ∧ s.transport.net.requestTimers.get? frame = none

section AnsweredOnce

variable {cfg : TransportConfig} {tr es : List RequestEvent} {s s' : RequestState}
  {a : TransportAction}

/-- Every step of a run is one of `RequestStep`. -/
theorem requestStep_of_run {ok : RequestState → TransportAction → Prop}
    (h : Run (requestMachine cfg) ok tr s)
    (hstep : (requestMachine cfg).step s a = some (s', es)) :
    s.transport.Fresh ∧ RequestStep s s' es := by
  obtain ⟨tr', hrun⟩ := transport_of_run h
  exact ⟨fresh_of_run hrun,
    requestStep_sound (fresh_of_run hrun) (historyInv_of_run hrun).counted hstep⟩

theorem began_mem_iff (hstep : (requestMachine cfg).step s a = some (s', es))
    {frame connectionId : Nat} {requestId : String} :
    .began frame connectionId requestId ∈ es ↔
      frame = s.transport.started ∧ s.begins a = some (connectionId, requestId) := by
  obtain ⟨events, -, -, rfl⟩ := requestMachine_step hstep
  constructor
  · intro h
    rcases List.mem_append.1 h with hbegan | hreplied
    · obtain ⟨request, hrequest, heq⟩ := List.mem_map.1 hbegan
      cases heq
      exact ⟨rfl, Option.mem_toList.1 hrequest⟩
    · obtain ⟨e, -, heq⟩ := List.mem_filterMap.1 hreplied
      unfold replied? at heq
      split at heq
      · obtain ⟨frame', -, heq⟩ := Option.map_eq_some_iff.1 heq
        cases heq
      · cases heq
  · rintro ⟨rfl, hbegins⟩
    refine List.mem_append_left _ ?_
    rw [hbegins]
    exact List.mem_cons_self

theorem repliesInv_of_run
    (h : Run (requestMachine cfg) (fun s a => s.reusesPendingId a = false) tr s) :
    RepliesInv tr s := by
  refine h.invariant (I := RepliesInv) RepliesInv.init fun hrun hinv hok hstep => ?_
  obtain ⟨hfresh, hsound⟩ := requestStep_of_run hrun hstep
  refine hinv.step hfresh hsound fun hbegan call hrequest => ?_
  have hreuse := RequestState.reusesPendingId_iff.2
    ⟨_, call, ((began_mem_iff hstep).1 hbegan).2, hrequest⟩
  rw [hok] at hreuse
  cases hreuse

theorem requestTimeout_step {frame connectionId : Nat} {requestId : String}
    (htimer : s.transport.net.requestTimers.get? frame = some (connectionId, requestId))
    (hopen : s.transport.net.isOpen connectionId = true) :
    ∃ s', (requestMachine cfg).step s (.requestTimeout frame) =
      some (s', [.replied frame connectionId requestId .timedOut]) := by
  obtain ⟨-, hsent⟩ := Net.timeoutRequest_spec s.transport.net connectionId frame requestId
  have hevents : (s.transport.onNet (Net.timeoutRequest connectionId frame requestId)).2 =
      [.net (.sent connectionId (.response requestId .timedOut))] := by
    show List.map _ _ = _
    rw [hsent, if_pos hopen]
    rfl
  refine ⟨⟨(s.transport.onNet (Net.timeoutRequest connectionId frame requestId)).1, s.frames⟩, ?_⟩
  simp only [requestMachine, transportStep, htimer]
  rw [hevents]
  rfl

theorem throws_step {call connectionId : Nat} {requestId : String}
    (hcall : s.requestOf call = some (connectionId, requestId)) :
    ∃ a s', (requestMachine cfg).step s a = some (s',
        ((Net.endRequest connectionId requestId .internalError s.transport.net).2.map
          TransportEvent.net).filterMap (replied? (s.frameOf call))) ∧
      s'.transport.net =
        (Net.endRequest connectionId requestId .internalError s.transport.net).1 ∧
      s'.transport.calls = s.transport.calls.erase call ∧ s'.frames = s.frames := by
  obtain ⟨phase, hget, hphase⟩ := RequestState.requestOf_eq_some hcall
  cases phase with
  | routing id r mutating =>
    obtain ⟨rfl, rfl⟩ := Prod.mk.inj (Option.some.inj hphase)
    refine ⟨.routed call true, ⟨((s.transport.finish call).onNet
      (Net.endRequest id r .internalError)).1, s.frames⟩, ?_, rfl, rfl, rfl⟩
    simp only [requestMachine, transportStep, hget]
    rfl
  | resyncing id r =>
    obtain ⟨rfl, rfl⟩ := Prod.mk.inj (Option.some.inj hphase)
    refine ⟨.looked call .rejected passAll, ⟨((s.transport.finish call).onNet
      (Net.endRequest id r .internalError)).1, s.frames⟩, ?_, rfl, rfl, rfl⟩
    simp only [requestMachine, transportStep, lookupStep, hget]
    rfl
  | _ => cases hphase

theorem RepliesInv.answeredOnce (hinv : RepliesInv tr s) {frame connectionId : Nat}
    {requestId : String} (hbegan : .began frame connectionId requestId ∈ tr)
    (hopen : s.transport.net.isOpen connectionId = true) :
    s.AnsweredOnce cfg tr frame connectionId requestId := by
  rcases hinv.answered hbegan with ⟨hentry, hreplies⟩ | ⟨hentry, hanswered⟩
  · obtain ⟨call, -, hframe⟩ := hinv.entry_call hentry
    exact .inr ⟨hreplies, ⟨call, hframe⟩,
      requestTimeout_step ((hinv.linked _ _ _).2 hentry) hopen⟩
  · refine .inl ⟨?_, ?_⟩
    · cases htimer : s.transport.net.requestTimers.get? frame with
      | none => rfl
      | some request =>
        -- a live timer is that of the request that the frame began
        have hlive := (hinv.linked _ request.1 request.2).1 htimer
        obtain ⟨heq, heq'⟩ := hinv.unique (hinv.began_of_entry hlive) hbegan
        rw [heq, heq'] at hlive
        exact absurd hlive hentry
    · rcases hanswered with hreply | ⟨-, hclosed⟩
      · exact hreply
      · rw [hopen] at hclosed
        cases hclosed

/-- The handler that returns first takes the entry of the later frame with it. -/
theorem RepliesInv.reuse_loses_reply (hinv : RepliesInv tr s) (hfresh : s.transport.Fresh)
    (hsound : RequestStep s s' es) {call connectionId : Nat} {requestId : String}
    (hbegan : .began s.transport.started connectionId requestId ∈ es)
    (hcall : s.requestOf call = some (connectionId, requestId))
    (hopen : s'.transport.net.isOpen connectionId = true) :
    ∃ tr' s'', RunFrom (requestMachine cfg) (fun _ _ => True) s' tr' s'' ∧
      s''.NeverAnswered (tr ++ es ++ tr') s.transport.started connectionId := by
  have hnone : ∀ {frame : Option Nat} {events : List TransportEvent},
      .began s.transport.started connectionId requestId ∉ events.filterMap (replied? frame) := by
    intro frame events h
    obtain ⟨e, -, heq⟩ := List.mem_filterMap.1 h
    unfold replied? at heq
    split at heq
    · obtain ⟨frame', -, heq⟩ := Option.map_eq_some_iff.1 heq
      cases heq
    · cases heq
  cases hsound with
  | resyncs => cases hbegan
  | settled => exact absurd hbegan hnone
  | timedOut => exact absurd hbegan hnone
  | other => cases hbegan
  | @began call₀ id r mutating net hcall₀ hkept hnet hcalls hstarted hframes =>
    obtain ⟨-, rfl, rfl⟩ := RequestEvent.began.inj (List.mem_singleton.1 hbegan)
    obtain ⟨d₀, hd₀⟩ := hinv.known hcall₀
    obtain ⟨d, hd⟩ := hkept.kept hd₀
    obtain ⟨frame₀, hframe₀, hbegan₀⟩ := hinv.framed hcall
    have hold : ∀ call', call' ≠ s.transport.started → s'.requestOf call' = none ∨
        (s'.requestOf call' = s.requestOf call' ∧ s'.frameOf call' = s.frameOf call') := by
      intro call' hne
      rcases RequestState.of_erase_set hcalls (fun _ _ => by rw [hframes]) call' hne with
        ⟨-, hnone, -⟩ | ⟨-, hsame⟩
      · exact .inl hnone
      · exact .inr hsame
    have hne : call ≠ s.transport.started := by
      rintro rfl
      rw [RequestState.requestOf_started hfresh] at hcall
      cases hcall
    have hsame : s'.requestOf call = s.requestOf call ∧ s'.frameOf call = s.frameOf call := by
      rcases RequestState.of_erase_set hcalls (fun _ _ => by rw [hframes]) call hne with
        ⟨rfl, -⟩ | ⟨-, hsame⟩
      · have hrequest : s.requestOf call = none := RequestState.requestOf_of_get? hcall₀
        rw [hrequest] at hcall
        cases hcall
      · exact hsame
    have hentry : s'.transport.net.entry connectionId requestId = some s.transport.started := by
      rw [hnet, Net.entry_beginRequest hd, if_pos ⟨rfl, rfl⟩]
    -- the earlier handler throws
    obtain ⟨a₁, s₁, hstep₁, hnet₁, hcalls₁, hframes₁⟩ := @throws_step cfg s' call connectionId
      requestId (hsame.1.trans hcall)
    obtain ⟨hcleared, hsent⟩ := @Net.endRequest_of_some s'.transport.net connectionId
      s.transport.started requestId .internalError hentry
    rw [← hnet₁] at hcleared
    rw [hsent, hopen, hsame.2, hframe₀, RepliesInv.filterMap_replied_sent, if_pos rfl] at hstep₁
    have hget₁ : s₁.transport.calls.get? s.transport.started =
        some (.routing connectionId requestId mutating) := by
      rw [hcalls₁, OrdMap.get?_erase_of_ne _ (Ne.symm hne), hcalls, OrdMap.get?_set_self]
    have hgone : s₁.transport.net.entry connectionId requestId = none := by
      rw [hcleared.entry, if_pos ⟨rfl, rfl⟩]
    -- then the later one, which finds no entry
    obtain ⟨a₂, s₂, hstep₂, hnet₂, hcalls₂, hframes₂⟩ := @throws_step cfg s₁ s.transport.started
      connectionId requestId (RequestState.requestOf_of_get? hget₁)
    rw [Net.endRequest_of_none hgone] at hstep₂ hnet₂
    have hrun : RunFrom (requestMachine cfg) (fun _ _ => True) s' _ s₂ :=
      (RunFrom.single trivial hstep₁).trans (.single trivial hstep₂)
    refine ⟨_, s₂, hrun, ?_, ?_, fun call' hframe => ?_, ?_⟩
    · rw [hnet₂, hcleared.isOpen, hopen]
    · have hlt : frame₀ ≠ s.transport.started := Nat.ne_of_lt (hinv.began hbegan₀).1
      have hnil : repliesTo s.transport.started tr = [] :=
        hinv.repliesTo_eq_nil fun id r hmem => absurd (hinv.began hmem).1 (Nat.lt_irrefl _)
      rw [repliesTo_append, repliesTo_append, hnil]
      show repliesTo _ [.replied frame₀ connectionId requestId .internalError] = []
      exact List.filterMap_cons_none (if_neg hlt)
    · -- a call for the frame would be its own, and that one is done
      rcases RequestState.of_erase hcalls₂ hframes₂ call' with ⟨-, -, hnone'⟩ | ⟨hne', -, heq₂⟩
      · rw [hnone'] at hframe
        cases hframe
      rw [heq₂] at hframe
      rcases RequestState.of_erase hcalls₁ hframes₁ call' with ⟨-, -, hnone'⟩ | ⟨-, -, heq₁⟩
      · rw [hnone'] at hframe
        cases hframe
      rw [heq₁] at hframe
      rcases hold call' hne' with hnone' | ⟨-, heq⟩
      · rw [RequestState.frameOf_of_requestOf_none hnone'] at hframe
        cases hframe
      · rw [heq] at hframe
        cases hrequest : s.requestOf call' with
        | none =>
          rw [RequestState.frameOf_of_requestOf_none hrequest] at hframe
          cases hframe
        | some request =>
          obtain ⟨frame', hframe', hbegan'⟩ :=
            @RepliesInv.framed tr s hinv call' request.1 request.2 hrequest
          rw [hframe] at hframe'
          rw [← Option.some.inj hframe'] at hbegan'
          exact absurd (hinv.began hbegan').1 (Nat.lt_irrefl _)
    · rw [hnet₂, hcleared.timers, OrdMap.get?_erase_self]

end AnsweredOnce

/-- **Every request is answered once**, unless its id is used again while its handler runs: in
a run without that a frame on an open connection has its one reply or its timer is running, and a
step that uses an id again can leave the later frame without a reply for ever. -/
theorem request_answered_once {cfg : TransportConfig} {tr : List RequestEvent} {s : RequestState}
    (h : Run (requestMachine cfg) (fun s a => s.reusesPendingId a = false) tr s) :
    (∀ frame connectionId requestId, .began frame connectionId requestId ∈ tr →
      s.transport.net.isOpen connectionId = true →
        s.AnsweredOnce cfg tr frame connectionId requestId) ∧
      ∀ a s' es, (requestMachine cfg).step s a = some (s', es) → s.reusesPendingId a = true →
        ∃ frame connectionId requestId, .began frame connectionId requestId ∈ es ∧
          (s'.transport.net.isOpen connectionId = true →
            ∃ tr' s'', RunFrom (requestMachine cfg) (fun _ _ => True) s' tr' s'' ∧
              s''.NeverAnswered (tr ++ es ++ tr') frame connectionId) := by
  have hinv := repliesInv_of_run h
  refine ⟨fun frame connectionId requestId hbegan hopen => hinv.answeredOnce hbegan hopen, ?_⟩
  intro a s' es hstep hreuse
  obtain ⟨⟨connectionId, requestId⟩, call, hbegins, hcall⟩ :=
    RequestState.reusesPendingId_iff.1 hreuse
  obtain ⟨hfresh, hsound⟩ := requestStep_of_run h hstep
  have hbegan := (began_mem_iff hstep).2 ⟨rfl, hbegins⟩
  exact ⟨_, connectionId, requestId, hbegan, fun hopen =>
    hinv.reuse_loses_reply hfresh hsound hbegan hcall hopen⟩

/-- Two requests with one id, the second one after the first has been answered; they are frames
`3` and `5`. -/
private def idUsedAgain : List TransportAction :=
  openAuthenticated 0 0 none ++
    [.requestFrame 0 (.request "req_1" false), .looked 2 (.ok oneChatRecord) passAll,
      .routed 3 false, .requestFrame 0 (.request "req_1" false),
      .looked 4 (.ok oneChatRecord) passAll]

/-- The first request has its reply, and the second one waits. -/
theorem request_answered_once_again : ∃ tr s,
    Run (requestMachine ⟨3, true⟩) (fun s a => s.reusesPendingId a = false) tr s ∧
      repliesTo 3 tr = [(0, "req_1", .routed)] ∧ repliesTo 5 tr = [] ∧
      RequestState.AnsweredOnce ⟨3, true⟩ s tr 3 0 "req_1" ∧
      RequestState.AnsweredOnce ⟨3, true⟩ s tr 5 0 "req_1" := by
  obtain ⟨tr, s, hrun, h⟩ := exists_run_of_exec (requestMachine ⟨3, true⟩)
    (fun s a => !s.reusesPendingId a) idUsedAgain
    (fun tr s => tr.contains (.began 3 0 "req_1") && tr.contains (.began 5 0 "req_1") &&
      s.transport.net.isOpen 0 && repliesTo 3 tr == [(0, "req_1", .routed)] &&
      repliesTo 5 tr == [])
    (by decide +kernel)
  simp only [Bool.and_eq_true, beq_iff_eq, List.contains_iff_mem] at h
  obtain ⟨⟨⟨⟨hfirst, hsecond⟩, hopen⟩, hreply⟩, hwaits⟩ := h
  have hrun' : Run (requestMachine ⟨3, true⟩) (fun s a => s.reusesPendingId a = false) tr s :=
    hrun.mono fun s a hok => by rwa [Bool.not_eq_true'] at hok
  have hanswered := (request_answered_once hrun').1
  exact ⟨tr, s, hrun', hreply, hwaits, hanswered _ _ _ hfirst hopen, hanswered _ _ _ hsecond hopen⟩

/-- Two requests with one id, the second one while the handler of the first runs; they are frames
`4` and `5`. Both handlers return, and the timer of the first request fires. -/
private def idUsedTwice : List TransportAction :=
  openAuthenticated 0 0 none ++
    [.requestFrame 0 (.request "req_1" false), .requestFrame 0 (.request "req_1" false),
      .looked 2 (.ok oneChatRecord) passAll, .looked 3 (.ok oneChatRecord) passAll,
      .routed 4 false, .routed 5 false, .requestTimeout 4]

/-- The first request is answered twice, and the second one never. -/
theorem second_request_not_answered : ∃ tr s,
    Run (requestMachine ⟨3, true⟩) (fun _ _ => True) tr s ∧
      .began 4 0 "req_1" ∈ tr ∧ .began 5 0 "req_1" ∈ tr ∧
      repliesTo 4 tr = [(0, "req_1", .routed), (0, "req_1", .timedOut)] ∧
      s.NeverAnswered tr 5 0 := by
  obtain ⟨tr, s, hrun, h⟩ := exists_run_of_exec_of_forall (requestMachine ⟨3, true⟩)
    (fun _ _ => True) idUsedTwice
    (fun tr s => tr.contains (.began 4 0 "req_1") && tr.contains (.began 5 0 "req_1") &&
      repliesTo 4 tr == [(0, "req_1", .routed), (0, "req_1", .timedOut)] &&
      s.transport.net.isOpen 0 && repliesTo 5 tr == [] && s.transport.calls.keys == [] &&
      s.transport.net.requestTimers.get? 5 == none)
    (fun _ _ _ => trivial) (by decide +kernel)
  simp only [Bool.and_eq_true, beq_iff_eq, List.contains_iff_mem] at h
  obtain ⟨⟨⟨⟨⟨⟨hfirst, hsecond⟩, htwice⟩, hopen⟩, hnone⟩, hcalls⟩, htimer⟩ := h
  refine ⟨tr, s, hrun, hfirst, hsecond, htwice, hopen, hnone, fun call hframe => ?_, htimer⟩
  -- no call is left
  cases hrequest : s.requestOf call with
  | none =>
    rw [RequestState.frameOf_of_requestOf_none hrequest] at hframe
    cases hframe
  | some request =>
    obtain ⟨phase, hget, -⟩ := RequestState.requestOf_eq_some hrequest
    have hmem := OrdMap.mem_keys_iff.2 (OrdMap.has_eq_true_iff.2 ⟨phase, hget⟩)
    rw [hcalls] at hmem
    cases hmem

end Signet.Ws
