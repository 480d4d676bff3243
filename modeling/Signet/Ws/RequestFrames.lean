import Signet.Ws.ReplayHistory

/-!
# The frames of requests

A request frame is known by the number of its `routeRequest` call, which is also the number of
its timer. `requestMachine` is the transport with the frame of every call that resynchronises
noted beside it; it reports when a frame begins and which frame sends a reply.

* `Net.Linked`: the entries of `inFlightRequests` and the live timers agree. Operations that are
  not about requests keep this (`RequestsKept`).
* `RequestStep` says what a step does to the frames, and `requestStep_sound` that there is nothing
  else.
-/

namespace Signet.Ws

open Lib

/-! ### Entries and timers -/

namespace Net

/-- The timer of the request in flight with this id. -/
def entry (net : Net) (connectionId : Nat) (requestId : String) : Option Nat :=
  (net.connections.get? connectionId).bind (·.inFlightRequests.get? requestId)

/-- The live request timers are those of the requests in flight. -/
def Linked (net : Net) : Prop :=
  ∀ timer connectionId requestId, net.requestTimers.get? timer = some (connectionId, requestId) ↔
    net.entry connectionId requestId = some timer

/-- Nothing happens to requests, unless their connection is closed. -/
structure RequestsKept (net net' : Net) : Prop where
  linked : net.Linked → net'.Linked
  /-- No entry is new. -/
  entries : ∀ {id requestId timer}, net'.entry id requestId = some timer →
    net.entry id requestId = some timer
  /-- The entries of open connections stay. -/
  opened : ∀ {id d}, net.connections.get? id = some d → net'.isOpen id = true →
    net.isOpen id = true ∧ ∀ requestId, net'.entry id requestId = net.entry id requestId
  kept : ∀ {id d}, net.connections.get? id = some d → ∃ d', net'.connections.get? id = some d'

section Kept

variable {net net' net'' : Net}

theorem RequestsKept.refl (net : Net) : net.RequestsKept net :=
  ⟨fun h => h, fun h => h, fun _ hopen => ⟨hopen, fun _ => rfl⟩, fun hd => ⟨_, hd⟩⟩

theorem RequestsKept.trans (h : net.RequestsKept net') (h' : net'.RequestsKept net'') :
    net.RequestsKept net'' where
  linked hlinked := h'.linked (h.linked hlinked)
  entries hentry := h.entries (h'.entries hentry)
  opened hd hopen := by
    obtain ⟨d', hd'⟩ := h.kept hd
    obtain ⟨hopen', hsame'⟩ := h'.opened hd' hopen
    obtain ⟨hopen'', hsame⟩ := h.opened hd hopen'
    exact ⟨hopen'', fun requestId => (hsame' requestId).trans (hsame requestId)⟩
  kept hd := by
    obtain ⟨d', hd'⟩ := h.kept hd
    exact h'.kept hd'

/-- The same entries and timers, and no socket is opened. -/
theorem RequestsKept.of_same (htimers : net'.requestTimers = net.requestTimers)
    (hentry : ∀ id requestId, net'.entry id requestId = net.entry id requestId)
    (hopen : ∀ {id d}, net.connections.get? id = some d → net'.isOpen id = true →
      net.isOpen id = true)
    (hkept : ∀ {id d}, net.connections.get? id = some d →
      ∃ d', net'.connections.get? id = some d') : net.RequestsKept net' where
  linked hlinked := by
    intro timer id requestId
    rw [htimers, hentry]
    exact hlinked timer id requestId
  entries h := (hentry _ _).symm.trans h
  opened hd h := ⟨hopen hd h, hentry _⟩
  kept := hkept

theorem entry_modify {id : Nat} {f : ConnectionData → ConnectionData} (id' : Nat)
    (requestId : String) :
    (net.modify id f).entry id' requestId =
      if id' = id then (net.connections.get? id).bind fun d => (f d).inFlightRequests.get? requestId
      else net.entry id' requestId := by
  unfold entry
  rw [get?_modify]
  by_cases hid : id' = id
  · rw [if_pos hid, if_pos hid]
    cases net.connections.get? id <;> rfl
  · rw [if_neg hid, if_neg hid]

theorem isOpen_modify {id : Nat} {f : ConnectionData → ConnectionData}
    (hf : ∀ d, (f d).socketOpen = true → d.socketOpen = true) {id' : Nat}
    (h : (net.modify id f).isOpen id' = true) : net.isOpen id' = true := by
  obtain ⟨d', hd', hopen⟩ := (Option.any_eq_true _ _).1 h
  obtain ⟨d, hd, ⟨-, rfl⟩ | ⟨-, rfl⟩⟩ := get?_modify_eq_some hd'
  · exact (Option.any_eq_true _ _).2 ⟨d, hd, hf d hopen⟩
  · exact (Option.any_eq_true _ _).2 ⟨_, hd, hopen⟩

theorem exists_get?_modify {id id' : Nat} {f : ConnectionData → ConnectionData}
    {d : ConnectionData} (hd : net.connections.get? id' = some d) :
    ∃ d', (net.modify id f).connections.get? id' = some d' := by
  rw [get?_modify]
  by_cases hid : id' = id
  · rw [if_pos hid, ← hid, hd]
    exact ⟨_, rfl⟩
  · rw [if_neg hid]
    exact ⟨d, hd⟩

@[simp] theorem modify_requestTimers {id : Nat} {f : ConnectionData → ConnectionData} :
    (net.modify id f).requestTimers = net.requestTimers := by
  unfold modify
  split <;> rfl

theorem requestsKept_modify {id : Nat} {f : ConnectionData → ConnectionData}
    (hrequests : ∀ d, (f d).inFlightRequests = d.inFlightRequests)
    (hopen : ∀ d, (f d).socketOpen = true → d.socketOpen = true) :
    net.RequestsKept (net.modify id f) := by
  refine .of_same modify_requestTimers (fun id' requestId => ?_) (fun _ h => isOpen_modify hopen h)
    exists_get?_modify
  rw [entry_modify]
  split
  · next hid =>
    rw [hid, entry]
    simp only [hrequests]
  · rfl

theorem requestsKept_set {id : Nat} {d d' : ConnectionData}
    (hd : net.connections.get? id = some d) (hconn : net'.connections = net.connections.set id d')
    (htimers : net'.requestTimers = net.requestTimers)
    (hrequests : d'.inFlightRequests = d.inFlightRequests) (hopen : d'.socketOpen = d.socketOpen) :
    net.RequestsKept net' := by
  have hmodify : net.RequestsKept (net.modify id fun _ => d') := by
    refine .of_same modify_requestTimers (fun id' requestId => ?_) (fun {id' d₀} hd₀ h => ?_)
      exists_get?_modify
    · rw [entry_modify]
      split
      · next hid =>
        rw [hid, entry, hd, Option.bind_some, Option.bind_some, hrequests]
      · rfl
    · obtain ⟨d₁, hd₁, hopen₁⟩ := (Option.any_eq_true _ _).1 h
      obtain ⟨d₂, hd₂, ⟨rfl, rfl⟩ | ⟨-, rfl⟩⟩ := get?_modify_eq_some hd₁
      · rw [hopen] at hopen₁
        exact (Option.any_eq_true _ _).2 ⟨d, hd, hopen₁⟩
      · exact (Option.any_eq_true _ _).2 ⟨_, hd₂, hopen₁⟩
  have hsame : (net.modify id fun _ => d').connections = net'.connections := by
    unfold modify
    rw [hd, hconn]
  refine hmodify.trans (.of_same ?_ (fun id' requestId => ?_) (fun _ h => ?_) fun hd₀ => ?_)
  · rw [htimers, modify_requestTimers]
  · rw [entry, entry, hsame]
  · rwa [isOpen, hsame]
  · rw [← hsame]
    exact ⟨_, hd₀⟩

theorem get?_foldl_erase {ν : Type} (timers : List Nat) (m : OrdMap Nat ν) (timer : Nat) :
    (timers.foldl OrdMap.erase m).get? timer = if timer ∈ timers then none else m.get? timer := by
  induction timers generalizing m with
  | nil => rfl
  | cons first rest ih =>
    rw [List.foldl_cons, ih, OrdMap.get?_erase]
    by_cases hrest : timer ∈ rest
    · rw [if_pos hrest, if_pos (List.mem_cons_of_mem _ hrest)]
    · rw [if_neg hrest]
      by_cases hfirst : timer = first
      · rw [if_pos hfirst, if_pos (hfirst ▸ List.mem_cons_self)]
      · rw [if_neg hfirst, if_neg fun h => (List.mem_cons.1 h).elim hfirst hrest]

theorem requestsKept_closed {id : Nat} {d d' : ConnectionData}
    (hd : net.connections.get? id = some d) (hconn : net'.connections = net.connections.set id d')
    (hopen : d'.socketOpen = false) (hrequests : d'.inFlightRequests = .empty)
    (htimers : net'.requestTimers =
      d.inFlightRequests.values.foldl OrdMap.erase net.requestTimers) : net.RequestsKept net' := by
  have hentry : ∀ id' requestId, net'.entry id' requestId =
      if id' = id then none else net.entry id' requestId := by
    intro id' requestId
    unfold entry
    rw [hconn, OrdMap.get?_set]
    by_cases hid : id' = id
    · rw [if_pos hid, if_pos hid, Option.bind_some, hrequests]
      rfl
    · rw [if_neg hid, if_neg hid]
  refine ⟨fun hlinked => ?_, fun {id' requestId timer} h => ?_, fun {id' d'} _ h => ?_,
    fun hd' => ?_⟩
  · intro timer id' requestId
    rw [htimers, get?_foldl_erase, hentry]
    -- the timers that are cleared are those of this connection
    have hvalues : timer ∈ d.inFlightRequests.values ↔
        ∃ requestId, net.requestTimers.get? timer = some (id, requestId) := by
      rw [OrdMap.mem_values_iff]
      refine exists_congr fun requestId => ?_
      rw [hlinked timer id requestId, entry, hd, Option.bind_some]
    by_cases hid : id' = id
    · rw [if_pos hid]
      refine iff_of_false ?_ nofun
      intro hlive
      split at hlive
      · cases hlive
      · next hnot => exact hnot (hvalues.2 ⟨requestId, hid ▸ hlive⟩)
    · rw [if_neg hid, ← hlinked]
      by_cases hmem : timer ∈ d.inFlightRequests.values
      · rw [if_pos hmem]
        refine iff_of_false nofun ?_
        intro hlive
        obtain ⟨requestId', hlive'⟩ := hvalues.1 hmem
        rw [hlive] at hlive'
        exact hid (Prod.mk.inj (Option.some.inj hlive')).1
      · rw [if_neg hmem]
  · rw [hentry] at h
    split at h
    · cases h
    · exact h
  · obtain ⟨d₁, hd₁, hopen₁⟩ := (Option.any_eq_true _ _).1 h
    rw [hconn] at hd₁
    rcases OrdMap.get?_set_eq_some hd₁ with ⟨-, rfl⟩ | ⟨hne, hold⟩
    · rw [hopen] at hopen₁
      cases hopen₁
    · refine ⟨(Option.any_eq_true _ _).2 ⟨d₁, hold, hopen₁⟩, fun requestId => ?_⟩
      exact (hentry id' requestId).trans (if_neg hne)
  · rw [hconn]
    exact exists_get?_set hd'

/-- Cleaning a connection up clears the timers of its requests, and closes it. -/
theorem requestsKept_cleanupConnection (net : Net) (id : Nat) :
    net.RequestsKept (cleanupConnection id net).1 := by
  unfold cleanupConnection
  split
  · exact .refl net
  · next d hd =>
    rw [ConnectionData.transition_closed]
    exact requestsKept_closed hd rfl rfl rfl rfl

theorem requestsKept_closeSocket (cfg : TransportConfig) (net : Net) (id : Nat)
    (code : CloseCode) : net.RequestsKept (closeSocket cfg id code net).1 := by
  unfold closeSocket
  split
  · have hmodify : net.RequestsKept (net.modify id fun d => { d with socketOpen := false }) :=
      requestsKept_modify (fun _ => rfl) fun _ h => absurd h Bool.false_ne_true
    dsimp only
    split
    · exact hmodify.trans (requestsKept_cleanupConnection _ _)
    · exact hmodify
  · exact .refl net

theorem requestsKept_opened (hcounted : ∀ id d, net.connections.get? id = some d →
    id < net.connectionCounter) : net.RequestsKept (Net.opened net).1 := by
  have hconn : (Net.opened net).1.connections =
      net.connections.set net.connectionCounter .create := rfl
  refine .of_same rfl (fun id requestId => ?_) (fun {id d} hd h => ?_) fun hd => ?_
  · unfold entry
    rw [hconn, OrdMap.get?_set]
    split
    · next hid =>
      -- the number of the new connection is not in use
      cases hd : net.connections.get? id with
      | none => rfl
      | some d => exact absurd (hcounted id d hd) (by rw [hid]; exact Nat.lt_irrefl _)
    · rfl
  · obtain ⟨d', hd', hopen⟩ := (Option.any_eq_true _ _).1 h
    rw [hconn] at hd'
    rcases OrdMap.get?_set_eq_some hd' with ⟨rfl, -⟩ | ⟨-, hold⟩
    · exact absurd (hcounted _ d hd) (Nat.lt_irrefl _)
    · exact (Option.any_eq_true _ _).2 ⟨d', hold, hopen⟩
  · rw [hconn]
    exact exists_get?_set hd

end Kept

end Net

/-- The operation is about a request. -/
def NetOp.isRequest : NetOp → Bool
  | beginRequest _ _ _ => true
  | endRequest _ _ _ => true
  | timeoutRequest _ _ _ => true
  | _ => false

/-- The other operations leave requests alone. -/
theorem NetOp.requestsKept {cfg : TransportConfig} {net : Net} {op : NetOp}
    (hrequest : op.isRequest = false) (hopened : op ≠ .opened) :
    net.RequestsKept (op.apply cfg net).1 := by
  cases op with
  | opened => exact absurd rfl hopened
  | clearAuthTimer id => exact Net.requestsKept_modify (fun _ => rfl) fun _ h => h
  | sendJson => exact .refl net
  | noteProjected => exact .refl net
  | sendSequenced id e =>
    obtain ⟨states, heq⟩ := sendSequenced_frame id e net
    show net.RequestsKept (Net.sendSequenced id e net).1
    rw [heq]
    exact .of_same rfl (fun _ _ => rfl) (fun _ h => h) fun hd => ⟨_, hd⟩
  | cleanupConnection id => exact Net.requestsKept_cleanupConnection net id
  | closeSocket id code => exact Net.requestsKept_closeSocket cfg net id code
  | setRecord id credential => exact Net.requestsKept_modify (fun _ => rfl) fun _ h => h
  | stopHeartbeat id =>
    show net.RequestsKept (Net.stopHeartbeat id net).1
    unfold Net.stopHeartbeat
    split
    · exact .refl net
    · next d hd =>
      split
      · exact .refl net
      · exact Net.requestsKept_set hd rfl rfl rfl rfl
  | startHeartbeat id timer =>
    show net.RequestsKept (Net.startHeartbeat id timer net).1
    unfold Net.startHeartbeat
    split
    · exact .refl net
    · next d hd =>
      split
      · exact .refl net
      · exact Net.requestsKept_set hd rfl rfl rfl rfl
  | accept id credential last =>
    show net.RequestsKept (Net.accept cfg id credential last net).1
    cases hd : net.connections.get? id with
    | none =>
      rw [Net.accept_of_none hd]
      exact .refl net
    | some d =>
      rw [Net.accept_of_some hd]
      exact Net.requestsKept_set hd rfl rfl rfl rfl
  | beginRequest => cases hrequest
  | endRequest => cases hrequest
  | timeoutRequest => cases hrequest

/-! ### Beginning and answering -/

namespace Net

variable {net net' : Net} {connectionId timer : Nat} {requestId : String}

/-- The entry of one request is gone, with its timer. -/
structure Cleared (net net' : Net) (connectionId timer : Nat) (requestId : String) : Prop where
  entry : ∀ id r, net'.entry id r =
    if id = connectionId ∧ r = requestId then none else net.entry id r
  timers : net'.requestTimers = net.requestTimers.erase timer
  isOpen : ∀ id, net'.isOpen id = net.isOpen id
  kept : ∀ {id d}, net.connections.get? id = some d → ∃ d', net'.connections.get? id = some d'

theorem Cleared.linked (h : Cleared net net' connectionId timer requestId) (hlinked : net.Linked)
    (hentry : net.entry connectionId requestId = some timer) : net'.Linked := by
  intro timer' id r
  have hlive := (hlinked timer connectionId requestId).2 hentry
  rw [h.timers, h.entry, OrdMap.get?_erase]
  by_cases htimer : timer' = timer
  · rw [if_pos htimer]
    refine iff_of_false nofun ?_
    intro hsome
    split at hsome
    · cases hsome
    · next hne =>
      -- a timer has one entry
      rw [htimer, ← hlinked timer id r, hlive] at hsome
      obtain ⟨rfl, rfl⟩ := Prod.mk.inj (Option.some.inj hsome)
      exact hne ⟨rfl, rfl⟩
  · rw [if_neg htimer]
    by_cases hsame : id = connectionId ∧ r = requestId
    · rw [if_pos hsame, hsame.1, hsame.2, hlinked, hentry]
      refine iff_of_false ?_ nofun
      intro heq
      exact htimer (Option.some.inj heq).symm
    · rw [if_neg hsame]
      exact hlinked timer' id r

/-- The connections after the entry of a request is erased. -/
theorem cleared (net : Net) (connectionId timer : Nat) (requestId : String) :
    Cleared net
      { net.modify connectionId fun d =>
          { d with inFlightRequests := d.inFlightRequests.erase requestId } with
        requestTimers := net.requestTimers.erase timer } connectionId timer requestId where
  entry id r := by
    show (net.modify connectionId _).entry id r = _
    rw [entry_modify]
    by_cases hid : id = connectionId
    · subst hid
      rw [if_pos rfl]
      unfold Net.entry
      cases hd : net.connections.get? id with
      | none => simp
      | some d =>
        show (d.inFlightRequests.erase requestId).get? r = _
        rw [OrdMap.get?_erase]
        by_cases hr : r = requestId
        · rw [if_pos hr, if_pos ⟨rfl, hr⟩]
        · rw [if_neg hr, if_neg fun h => hr h.2]
          rfl
    · rw [if_neg hid, if_neg fun h => hid h.1]
  timers := rfl
  isOpen id := isOpen_requests (·.erase requestId)
  kept hd := exists_get?_modify hd

theorem endRequest_of_none {reply : RequestReply} (h : net.entry connectionId requestId = none) :
    endRequest connectionId requestId reply net = (net, []) := by
  unfold entry at h
  unfold endRequest
  rw [h]

theorem endRequest_of_some {reply : RequestReply}
    (h : net.entry connectionId requestId = some timer) :
    Cleared net (endRequest connectionId requestId reply net).1 connectionId timer requestId ∧
      (endRequest connectionId requestId reply net).2 =
        if net.isOpen connectionId then
          [.sent connectionId (.response requestId reply)] else [] := by
  unfold entry at h
  unfold endRequest
  rw [h]
  refine ⟨cleared net connectionId timer requestId, ?_⟩
  dsimp only [sendJson]
  rw [isOpen_requests (·.erase requestId)]

theorem timeoutRequest_spec (net : Net) (connectionId timer : Nat) (requestId : String) :
    Cleared net (timeoutRequest connectionId timer requestId net).1 connectionId timer requestId ∧
      (timeoutRequest connectionId timer requestId net).2 =
        if net.isOpen connectionId then [.sent connectionId (.response requestId .timedOut)]
        else [] := by
  refine ⟨cleared net connectionId timer requestId, ?_⟩
  dsimp only [timeoutRequest, sendJson]
  rw [isOpen_requests (·.erase requestId)]

theorem entry_beginRequest {d : ConnectionData} (hd : net.connections.get? connectionId = some d)
    (id : Nat) (r : String) :
    (beginRequest connectionId timer requestId net).1.entry id r =
      if id = connectionId ∧ r = requestId then some timer else net.entry id r := by
  show (net.modify connectionId _).entry id r = _
  rw [entry_modify]
  by_cases hid : id = connectionId
  · subst hid
    rw [if_pos rfl, hd, Option.bind_some, OrdMap.get?_set]
    by_cases hr : r = requestId
    · rw [if_pos hr, if_pos ⟨rfl, hr⟩]
    · rw [if_neg hr, if_neg fun h => hr h.2, entry, hd]
      rfl
  · rw [if_neg hid, if_neg fun h => hid h.1]

/-- A request that begins with an unused id and a new timer. -/
theorem linked_beginRequest {d : ConnectionData} (hd : net.connections.get? connectionId = some d)
    (hlinked : net.Linked) (hnew : net.requestTimers.get? timer = none)
    (hunused : net.entry connectionId requestId = none) :
    (beginRequest connectionId timer requestId net).1.Linked := by
  intro timer' id r
  rw [entry_beginRequest hd]
  show (net.requestTimers.set timer (connectionId, requestId)).get? timer' = _ ↔ _
  rw [OrdMap.get?_set]
  by_cases htimer : timer' = timer
  · rw [if_pos htimer, htimer]
    by_cases hsame : id = connectionId ∧ r = requestId
    · rw [if_pos hsame, hsame.1, hsame.2]
      exact iff_of_true rfl rfl
    · rw [if_neg hsame]
      refine iff_of_false ?_ ?_
      · intro heq
        obtain ⟨rfl, rfl⟩ := Prod.mk.inj (Option.some.inj heq)
        exact hsame ⟨rfl, rfl⟩
      · intro hentry
        rw [← hlinked, hnew] at hentry
        cases hentry
  · rw [if_neg htimer]
    by_cases hsame : id = connectionId ∧ r = requestId
    · rw [if_pos hsame, hsame.1, hsame.2, hlinked, hunused]
      refine iff_of_false nofun ?_
      intro heq
      exact htimer (Option.some.inj heq).symm
    · rw [if_neg hsame]
      exact hlinked timer' id r

end Net

/-! ### Frames and replies -/

/-- The request that a call from `routeRequest` on is in flight for. -/
def TransportCall.request? : TransportCall → Option (Nat × String)
  | routing connectionId requestId _ => some (connectionId, requestId)
  | resyncing connectionId requestId => some (connectionId, requestId)
  | _ => none

/-- The transport with the frame of every call that resynchronises. -/
structure RequestState where
  transport : TransportState
  frames : OrdMap Nat Nat

/-- A request frame begins, or a reply is sent for it. -/
inductive RequestEvent where
  /-- The frame starts its timer and calls the handler. -/
  | began (frame connectionId : Nat) (requestId : String)
  /-- The handler of the frame returns or throws, or its timer fires, and a reply is sent. -/
  | replied (frame connectionId : Nat) (requestId : String) (reply : RequestReply)
  deriving DecidableEq

namespace RequestState

variable (s : RequestState)

def requestOf (call : Nat) : Option (Nat × String) :=
  (s.transport.calls.get? call).bind (·.request?)

def frameOf (call : Nat) : Option Nat :=
  match s.transport.calls.get? call with
  | some (.routing _ _ _) => some call
  | some (.resyncing _ _) => s.frames.get? call
  | _ => none

/-- The frame whose reply an action can be. -/
def replies : TransportAction → Option Nat
  | .routed call _ => s.frameOf call
  | .looked call _ _ => s.frameOf call
  | .requestTimeout timer => some timer
  | _ => none

def begins : TransportAction → Option (Nat × String)
  | .looked call (.ok record) _ =>
    match s.transport.calls.get? call with
    | some (.requesting connectionId (.request requestId _)) =>
      if record.status = .active then some (connectionId, requestId) else none
    | _ => none
  | _ => none

/-- The frame goes with its request when that is resynchronised. -/
def noteFrame : TransportAction → OrdMap Nat Nat
  | .routed call false =>
    match s.transport.calls.get? call with
    | some (.routing _ _ true) => s.frames.set s.transport.started call
    | _ => s.frames
  | _ => s.frames

end RequestState

def replied? (frame : Option Nat) : TransportEvent → Option RequestEvent
  | .net (.sent connectionId (.response requestId reply)) =>
    frame.map fun frame => .replied frame connectionId requestId reply
  | _ => none

/-- What a step of the transport means for the frames. -/
def RequestState.report (s : RequestState) (a : TransportAction) (es : List TransportEvent) :
    List RequestEvent :=
  (s.begins a).toList.map (fun request => .began s.transport.started request.1 request.2) ++
    es.filterMap (replied? (s.replies a))

/-- **The transport, reporting the request frames and the replies sent for them.** -/
def requestMachine (cfg : TransportConfig) : Machine RequestState TransportAction RequestEvent where
  init := ⟨(transportMachine cfg).init, .empty⟩
  step s a :=
    match transportStep cfg s.transport a with
    | none => none
    | some (transport, es) => some (⟨transport, s.noteFrame a⟩, s.report a es)

def repliesTo (frame : Nat) (tr : List RequestEvent) : List (Nat × String × RequestReply) :=
  tr.filterMap fun
    | .replied frame' connectionId requestId reply =>
      if frame' = frame then some (connectionId, requestId, reply) else none
    | _ => none

theorem repliesTo_append (frame : Nat) (tr tr' : List RequestEvent) :
    repliesTo frame (tr ++ tr') = repliesTo frame tr ++ repliesTo frame tr' :=
  List.filterMap_append

/-- A step is a step of the transport. -/
theorem requestMachine_step {cfg : TransportConfig} {s s' : RequestState} {a : TransportAction}
    {es : List RequestEvent} (h : (requestMachine cfg).step s a = some (s', es)) :
    ∃ events, transportStep cfg s.transport a = some (s'.transport, events) ∧
      s'.frames = s.noteFrame a ∧ es = s.report a events := by
  simp only [requestMachine] at h
  split at h
  · cases h
  · next transport events hstep =>
    cases h
    exact ⟨events, hstep, rfl, rfl⟩

theorem transport_of_run {cfg : TransportConfig} {ok : RequestState → TransportAction → Prop}
    {tr : List RequestEvent} {s : RequestState} (h : Run (requestMachine cfg) ok tr s) :
    ∃ tr', Run (transportMachine cfg) (fun _ _ => True) tr' s.transport := by
  induction h with
  | nil => exact ⟨[], .nil⟩
  | snoc _ _ hstep ih =>
    obtain ⟨tr', hrun⟩ := ih
    obtain ⟨events, hstep', -, -⟩ := requestMachine_step hstep
    exact ⟨tr' ++ events, hrun.snoc trivial hstep'⟩

/-! ### What a step does to the frames -/

/-- What a step does to the frames. -/
inductive RequestStep (s : RequestState) : RequestState → List RequestEvent → Prop
  /-- A frame begins; its number is that of the call that is started. -/
  | began {s' : RequestState} {call connectionId : Nat} {requestId : String} {mutating : Bool}
      {net : Net}
      (hcall : s.transport.calls.get? call =
        some (.requesting connectionId (.request requestId mutating)))
      (hkept : s.transport.net.RequestsKept net)
      (hnet : s'.transport.net =
        (Net.beginRequest connectionId s.transport.started requestId net).1)
      (hcalls : s'.transport.calls = (s.transport.calls.erase call).set s.transport.started
        (.routing connectionId requestId mutating))
      (hstarted : s'.transport.started = s.transport.started + 1) (hframes : s'.frames = s.frames) :
      RequestStep s s' [.began s.transport.started connectionId requestId]
  /-- The handler of a mutating request has returned. -/
  | resyncs {s' : RequestState} {call connectionId : Nat} {requestId : String}
      (hcall : s.transport.calls.get? call = some (.routing connectionId requestId true))
      (hnet : s'.transport.net = s.transport.net)
      (hcalls : s'.transport.calls = (s.transport.calls.erase call).set s.transport.started
        (.resyncing connectionId requestId))
      (hstarted : s'.transport.started = s.transport.started + 1)
      (hframes : s'.frames = s.frames.set s.transport.started call) : RequestStep s s' []
  /-- The frame of a call is done; it gets a reply if it still has an entry. -/
  | settled {s' : RequestState} {call connectionId : Nat} {requestId : String}
      {reply : RequestReply} {net : Net}
      (hcall : s.requestOf call = some (connectionId, requestId))
      (hkept : s.transport.net.RequestsKept net)
      (hnet : s'.transport.net = (Net.endRequest connectionId requestId reply net).1)
      (hcalls : s'.transport.calls = s.transport.calls.erase call)
      (hstarted : s'.transport.started = s.transport.started) (hframes : s'.frames = s.frames) :
      RequestStep s s' (((Net.endRequest connectionId requestId reply net).2.map
        TransportEvent.net).filterMap (replied? (s.frameOf call)))
  | timedOut {s' : RequestState} {timer connectionId : Nat} {requestId : String}
      (htimer : s.transport.net.requestTimers.get? timer = some (connectionId, requestId))
      (hnet : s'.transport.net =
        (Net.timeoutRequest connectionId timer requestId s.transport.net).1)
      (hcalls : s'.transport.calls = s.transport.calls)
      (hstarted : s'.transport.started = s.transport.started) (hframes : s'.frames = s.frames) :
      RequestStep s s' (((Net.timeoutRequest connectionId timer requestId s.transport.net).2.map
        TransportEvent.net).filterMap (replied? (some timer)))
  /-- Other steps leave the frames alone, unless they close the connection. -/
  | other {s' : RequestState} (hkept : s.transport.net.RequestsKept s'.transport.net)
      (hcalls : ∀ call phase, phase.request?.isSome = true →
        (s'.transport.calls.get? call = some phase ↔ s.transport.calls.get? call = some phase))
      (hrequesting : ∀ call connectionId frame,
        s'.transport.calls.get? call = some (.requesting connectionId frame) →
          s.transport.calls.get? call = some (.requesting connectionId frame) ∨
            ∃ d, s.transport.net.connections.get? connectionId = some d)
      (hstarted : s.transport.started ≤ s'.transport.started) (hframes : s'.frames = s.frames) :
      RequestStep s s' []

section Sound

variable {cfg : TransportConfig} {s s' : RequestState} {a : TransportAction}
  {events : List TransportEvent}

/-- An action that can be the reply of no frame reports none. -/
theorem filterMap_replied_none (events : List TransportEvent) :
    events.filterMap (replied? none) = [] := by
  refine List.filterMap_eq_nil_iff.2 fun e _ => ?_
  unfold replied?
  split <;> rfl

/-- The calls for requests stay, if the step neither answers nor starts one. -/
theorem requestCalls_of_core {t t' : TransportState} (hfresh : t.Fresh)
    (hcore : CoreStep cfg t a (t', events))
    (hanswered : ∀ call phase, a.answered = some call → t.calls.get? call = some phase →
      phase.request? = none)
    (hstarts : ∀ phase, Starts cfg t a phase → t'.started = t.started + 1 →
      phase.request? = none)
    (call : Nat) (phase : TransportCall) (hphase : phase.request?.isSome = true) :
    t'.calls.get? call = some phase ↔ t.calls.get? call = some phase := by
  constructor
  · intro hcall
    rcases hcore.get?_calls hcall with ⟨hold, -⟩ | ⟨-, hstarted, hstart⟩
    · exact hold
    · rw [hstarts phase hstart hstarted] at hphase
      cases hphase
  · intro hcall
    refine hcore.kept hfresh hcall fun hanswer => ?_
    rw [hanswered call phase hanswer hcall] at hphase
    cases hphase

/-- A call that awaits its lookup was there, or its connection is. -/
theorem requesting_of_core {t t' : TransportState}
    (hstep : transportStep cfg t a = some (t', events)) {call connectionId : Nat}
    {frame : RequestFrame} (hcall : t'.calls.get? call = some (.requesting connectionId frame)) :
    t.calls.get? call = some (.requesting connectionId frame) ∨
      ∃ d, t.net.connections.get? connectionId = some d := by
  rcases (transportStep_core hstep).get?_calls hcall with ⟨hold, -⟩ | ⟨-, -, hstart⟩
  · exact .inl hold
  · cases hstart
    simp only [transportStep] at hstep
    split at hstep
    · cases hstep
    · next d hd => exact .inr ⟨d, hd⟩

theorem requestsKept_of_step {t t' : TransportState}
    (hstep : transportStep cfg t a = some (t', events)) (hconnect : a ≠ .connect)
    (hreply : replyTarget t a = none)
    (hrequesting : ∀ call answer project connectionId frame, a = .looked call answer project →
      t.calls.get? call ≠ some (.requesting connectionId frame)) :
    t.net.RequestsKept t'.net := by
  have hrun := transportStep_net hstep
  refine hrun.preserves (I := fun net => t.net.RequestsKept net) ?_ (.refl _)
  intro net op net' es hnet hop happly
  obtain ⟨rfl, -⟩ := Prod.mk.inj (Option.some.inj happly)
  refine hnet.trans (NetOp.requestsKept ?_ ?_)
  · cases hop with
    | beginRequest hcall => exact absurd hcall (hrequesting _ _ _ _ _ rfl)
    | endRequest htarget => rw [hreply] at htarget; cases htarget
    | timeoutRequest htarget => rw [hreply] at htarget; cases htarget
    | _ => rfl
  · rintro rfl
    cases hop
    exact hconnect rfl

theorem RequestStep.of_other (hfresh : s.transport.Fresh)
    (hstep : transportStep cfg s.transport a = some (s'.transport, events))
    (hkept : s.transport.net.RequestsKept s'.transport.net)
    (hanswered : ∀ call phase, a.answered = some call → s.transport.calls.get? call = some phase →
      phase.request? = none)
    (hstarts : ∀ phase, Starts cfg s.transport a phase →
      s'.transport.started = s.transport.started + 1 → phase.request? = none)
    (hframes : s'.frames = s.frames) (hbegins : s.begins a = none) (hreplies : s.replies a = none) :
    RequestStep s s' (s.report a events) := by
  have hcore := transportStep_core hstep
  unfold RequestState.report
  rw [hbegins, hreplies, filterMap_replied_none]
  exact .other hkept (requestCalls_of_core hfresh hcore hanswered hstarts)
    (fun _ _ _ hcall => requesting_of_core hstep hcall) hcore.started_le hframes

theorem requestsKept_rejectAuth (net : Net) (connectionId : Nat) (code : CloseCode)
    (message : String) : net.RequestsKept (rejectAuth cfg connectionId code message net).1 :=
  Net.requestsKept_closeSocket cfg net connectionId code

theorem requestsKept_closeRevoked (net : Net) (connectionId : Nat) :
    net.RequestsKept (closeRevoked cfg connectionId net).1 :=
  (Net.requestsKept_closeSocket cfg net connectionId .credentialRevoked).trans
    (@NetOp.requestsKept cfg _ (.stopHeartbeat connectionId) rfl nofun)

theorem requestsKept_closeInactive (net : Net) (connectionId : Nat) (status : CredentialStatus) :
    net.RequestsKept (closeInactive cfg connectionId status net).1 := by
  unfold closeInactive
  split
  · exact .refl net
  · exact (Net.requestsKept_closeSocket cfg net connectionId (closeCodeOf status)).trans
      (@NetOp.requestsKept cfg _ (.stopHeartbeat connectionId) rfl nofun)

theorem requestsKept_setRecord (net : Net) (connectionId : Nat) (credential : Snapshot) :
    net.RequestsKept (Net.setRecord connectionId credential net).1 :=
  Net.requestsKept_modify (fun _ => rfl) fun _ h => h

theorem requestsKept_clearAuthTimer (net : Net) (connectionId : Nat) :
    net.RequestsKept (Net.clearAuthTimer connectionId net).1 :=
  Net.requestsKept_modify (fun _ => rfl) fun _ h => h

theorem RequestStep.of_looked {call : Nat} {phase : TransportCall} {answer : LookupAnswer}
    {project : Projector} (hfresh : s.transport.Fresh)
    (hstep : transportStep cfg s.transport (.looked call answer project) =
      some (s'.transport, events)) (hframes : s'.frames = s.frames)
    (hcall : s.transport.calls.get? call = some phase) (hphase : phase.request? = none)
    (hbegins : s.begins (.looked call answer project) = none)
    (hstarted : ∀ connectionId frame, phase = .requesting connectionId frame →
      s'.transport.started = s.transport.started)
    (hkept : s.transport.net.RequestsKept s'.transport.net) :
    RequestStep s s' (s.report (.looked call answer project) events) := by
  refine .of_other hfresh hstep hkept (fun call' phase' hanswer hcall' => ?_)
    (fun phase' hstart hnew => ?_) hframes hbegins ?_
  · obtain rfl : call = call' := Option.some.inj hanswer
    rw [hcall] at hcall'
    exact Option.some.inj hcall' ▸ hphase
  · cases hstart with
    | fingerprinting => rfl
    | routing hcall' =>
      -- a frame that begins starts a call
      rw [hcall] at hcall'
      rw [hstarted _ _ (Option.some.inj hcall')] at hnew
      exact absurd hnew (Nat.ne_of_lt (Nat.lt_succ_self _))
  · show s.frameOf call = none
    unfold RequestState.frameOf
    rw [hcall]
    cases phase with
    | routing => cases hphase
    | resyncing => cases hphase
    | _ => rfl

theorem RequestStep.of_requesting {call connectionId : Nat} {frame : RequestFrame}
    {answer : LookupAnswer} {project : Projector} (hfresh : s.transport.Fresh)
    (hstep : transportStep cfg s.transport (.looked call answer project) =
      some (s'.transport, events)) (hframes : s'.frames = s.frames)
    (hcall : s.transport.calls.get? call = some (.requesting connectionId frame)) :
    RequestStep s s' (s.report (.looked call answer project) events) := by
  have hlooked : requestLooked cfg (s.transport.finish call) call connectionId frame answer =
      (s'.transport, events) := by
    simp only [transportStep, lookupStep, hcall] at hstep
    exact Option.some.inj hstep
  have hquiet := @RequestStep.of_looked cfg s s' events call _ answer project hfresh hstep hframes
    hcall rfl
  unfold requestLooked at hlooked
  cases answer with
  | rejected =>
    obtain ⟨htransport, -⟩ := Prod.mk.inj hlooked
    exact hquiet rfl (fun _ _ _ => by rw [← htransport]; rfl) (by rw [← htransport]; exact .refl _)
  | err message =>
    obtain ⟨htransport, -⟩ := Prod.mk.inj hlooked
    refine hquiet rfl (fun _ _ _ => by rw [← htransport]; rfl) ?_
    rw [← htransport]
    exact requestsKept_closeRevoked _ _
  | ok record =>
    have hset := requestsKept_setRecord s.transport.net connectionId ⟨record, call⟩
    dsimp only at hlooked
    by_cases hactive : record.status = .active
    · rw [if_pos hactive] at hlooked
      cases frame with
      | invalid requestId =>
        have hbegins : s.begins (.looked call (.ok record) project) = none := by
          simp only [RequestState.begins, hcall]
        cases requestId with
        | none =>
          obtain ⟨htransport, -⟩ := Prod.mk.inj hlooked
          refine hquiet hbegins (fun _ _ _ => by rw [← htransport]; rfl) ?_
          rw [← htransport]
          exact hset.trans (Net.requestsKept_closeSocket cfg _ connectionId .protocolError)
        | some requestId =>
          obtain ⟨htransport, -⟩ := Prod.mk.inj hlooked
          refine hquiet hbegins (fun _ _ _ => by rw [← htransport]; rfl) ?_
          rw [← htransport]
          exact hset
      | request requestId mutating =>
        obtain ⟨htransport, hevents⟩ := Prod.mk.inj hlooked
        have hbegins : s.begins (.looked call (.ok record) project) =
            some (connectionId, requestId) := by
          simp only [RequestState.begins, hcall]
          exact if_pos hactive
        have hreplies : s.replies (.looked call (.ok record) project) = none := by
          simp only [RequestState.replies, RequestState.frameOf, hcall]
        unfold RequestState.report
        rw [hbegins, hreplies, filterMap_replied_none]
        exact .began hcall hset (by rw [← htransport]; rfl) (by rw [← htransport]; rfl)
          (by rw [← htransport]; rfl) hframes
    · rw [if_neg hactive] at hlooked
      obtain ⟨htransport, -⟩ := Prod.mk.inj hlooked
      have hbegins : s.begins (.looked call (.ok record) project) = none := by
        simp only [RequestState.begins, hcall]
        cases frame with
        | invalid => rfl
        | request => exact if_neg hactive
      refine hquiet hbegins (fun _ _ _ => by rw [← htransport]; rfl) ?_
      rw [← htransport]
      exact hset.trans (requestsKept_closeInactive _ connectionId record.status)

theorem RequestStep.of_resyncing {call connectionId : Nat} {requestId : String}
    {answer : LookupAnswer} {project : Projector}
    (hstep : transportStep cfg s.transport (.looked call answer project) =
      some (s'.transport, events)) (hframes : s'.frames = s.frames)
    (hcall : s.transport.calls.get? call = some (.resyncing connectionId requestId)) :
    RequestStep s s' (s.report (.looked call answer project) events) := by
  have hlooked : resyncLooked (s.transport.finish call) call connectionId requestId answer =
      (s'.transport, events) := by
    simp only [transportStep, lookupStep, hcall] at hstep
    exact Option.some.inj hstep
  have hbegins : s.begins (.looked call answer project) = none := by
    cases answer with
    | ok record => simp only [RequestState.begins, hcall]
    | _ => rfl
  have hrequest : s.requestOf call = some (connectionId, requestId) := by
    unfold RequestState.requestOf
    rw [hcall]
    rfl
  unfold RequestState.report
  rw [hbegins]
  cases answer with
  | rejected =>
    obtain ⟨htransport, rfl⟩ := Prod.mk.inj hlooked
    exact .settled hrequest (.refl _) (by rw [← htransport]) (by rw [← htransport]; rfl)
      (by rw [← htransport]; rfl) hframes
  | err message =>
    obtain ⟨htransport, rfl⟩ := Prod.mk.inj hlooked
    exact .settled hrequest (.refl _) (by rw [← htransport]) (by rw [← htransport]; rfl)
      (by rw [← htransport]; rfl) hframes
  | ok record =>
    obtain ⟨htransport, rfl⟩ := Prod.mk.inj hlooked
    exact .settled hrequest (requestsKept_setRecord _ connectionId ⟨record, call⟩)
      (by rw [← htransport]; rfl) (by rw [← htransport]; rfl) (by rw [← htransport]; rfl) hframes

theorem requestsKept_authLooked {t : TransportState} {call connectionId : Nat}
    {lastSeenSeq : Option Nat} {answer : LookupAnswer} :
    t.net.RequestsKept (authLooked cfg t call connectionId lastSeenSeq answer).1.net := by
  unfold authLooked
  cases answer with
  | rejected => exact .refl _
  | err message => exact requestsKept_rejectAuth _ _ _ _
  | ok record =>
    dsimp only
    split
    · exact @NetOp.requestsKept cfg _ (.accept connectionId ⟨record, call⟩ lastSeenSeq) rfl nofun
    · exact requestsKept_rejectAuth _ _ _ _

theorem RequestStep.of_routed {call : Nat} {threw : Bool}
    (hstep : transportStep cfg s.transport (.routed call threw) = some (s'.transport, events))
    (hframes : s'.frames = s.noteFrame (.routed call threw)) :
    RequestStep s s' (s.report (.routed call threw) events) := by
  cases hcall : s.transport.calls.get? call with
  | none => simp only [transportStep, hcall, reduceCtorEq] at hstep
  | some phase =>
    cases phase with
    | routing connectionId requestId mutating =>
      have hrequest : s.requestOf call = some (connectionId, requestId) := by
        unfold RequestState.requestOf
        rw [hcall]
        rfl
      simp only [transportStep, hcall] at hstep
      unfold RequestState.noteFrame at hframes
      cases threw with
      | true =>
        obtain ⟨htransport, rfl⟩ := Prod.mk.inj (Option.some.inj hstep)
        exact .settled hrequest (.refl _) (by rw [← htransport]) (by rw [← htransport]; rfl)
          (by rw [← htransport]; rfl) hframes
      | false =>
        dsimp only at hframes
        rw [hcall] at hframes
        cases mutating with
        | true =>
          obtain ⟨htransport, rfl⟩ := Prod.mk.inj (Option.some.inj hstep)
          exact .resyncs hcall (by rw [← htransport]; rfl) (by rw [← htransport]; rfl)
            (by rw [← htransport]; rfl) hframes
        | false =>
          obtain ⟨htransport, rfl⟩ := Prod.mk.inj (Option.some.inj hstep)
          exact .settled hrequest (.refl _) (by rw [← htransport]) (by rw [← htransport]; rfl)
            (by rw [← htransport]; rfl) hframes
    | _ => simp only [transportStep, hcall, reduceCtorEq] at hstep

theorem RequestStep.of_lookup {call : Nat} {answer : LookupAnswer} {project : Projector}
    (hfresh : s.transport.Fresh)
    (hstep : transportStep cfg s.transport (.looked call answer project) =
      some (s'.transport, events)) (hframes : s'.frames = s.frames) :
    RequestStep s s' (s.report (.looked call answer project) events) := by
  cases hcall : s.transport.calls.get? call with
  | none => simp only [transportStep, lookupStep, hcall, reduceCtorEq] at hstep
  | some phase =>
    have hquiet := @RequestStep.of_looked cfg s s' events call phase answer project hfresh hstep
      hframes hcall
    have hbegins : (∀ connectionId frame, phase ≠ .requesting connectionId frame) →
        s.begins (.looked call answer project) = none := by
      intro hne
      cases answer with
      | ok record =>
        simp only [RequestState.begins, hcall]
        cases phase with
        | requesting => exact absurd rfl (hne _ _)
        | _ => rfl
      | _ => rfl
    cases phase with
    | requesting => exact .of_requesting hfresh hstep hframes hcall
    | resyncing => exact .of_resyncing hstep hframes hcall
    | authenticating connectionId lastSeenSeq =>
      refine hquiet rfl (hbegins (by rintro _ _ ⟨⟩)) (by rintro _ _ ⟨⟩) ?_
      simp only [transportStep, lookupStep, hcall, Option.some.injEq] at hstep
      rw [← show _ = s'.transport from (Prod.mk.inj hstep).1]
      exact @requestsKept_authLooked cfg (s.transport.finish call) _ _ _ _
    | fingerprinting => simp only [transportStep, lookupStep, hcall, reduceCtorEq] at hstep
    | routing => simp only [transportStep, lookupStep, hcall, reduceCtorEq] at hstep
    | heartbeat =>
      refine hquiet rfl (hbegins (by rintro _ _ ⟨⟩)) (by rintro _ _ ⟨⟩) ?_
      refine requestsKept_of_step hstep (by rintro ⟨⟩) ?_ fun _ _ _ _ _ heq hget => ?_
      · simp only [replyTarget, hcall, Option.bind_some, TransportCall.replyTarget]
      · cases heq
        rw [hcall] at hget
        cases hget
    | invalidating =>
      refine hquiet rfl (hbegins (by rintro _ _ ⟨⟩)) (by rintro _ _ ⟨⟩) ?_
      refine requestsKept_of_step hstep (by rintro ⟨⟩) ?_ fun _ _ _ _ _ heq hget => ?_
      · simp only [replyTarget, hcall, Option.bind_some, TransportCall.replyTarget]
      · cases heq
        rw [hcall] at hget
        cases hget

/-- **What a step does to the frames.** -/
theorem requestStep_sound {es : List RequestEvent} (hfresh : s.transport.Fresh)
    (hcounted : ∀ id d, s.transport.net.connections.get? id = some d →
      id < s.transport.net.connectionCounter)
    (h : (requestMachine cfg).step s a = some (s', es)) : RequestStep s s' es := by
  obtain ⟨events, hstep, hframes, rfl⟩ := requestMachine_step h
  cases a with
  | connect =>
    refine .of_other hfresh hstep ?_ (by rintro _ _ ⟨⟩) (by rintro _ ⟨⟩) hframes rfl rfl
    rw [← show _ = s'.transport from (Prod.mk.inj (Option.some.inj hstep)).1]
    exact Net.requestsKept_opened hcounted
  | authTimeout connectionId =>
    refine .of_other hfresh hstep ?_ (by rintro _ _ ⟨⟩) (by rintro _ ⟨⟩) hframes rfl rfl
    have hcleared := requestsKept_clearAuthTimer s.transport.net connectionId
    simp only [transportStep] at hstep
    split at hstep
    · cases hstep
    · split at hstep
      · split at hstep
        · rw [← show _ = s'.transport from (Prod.mk.inj (Option.some.inj hstep)).1]
          exact hcleared.trans (requestsKept_rejectAuth _ _ _ _)
        · rw [← show _ = s'.transport from (Prod.mk.inj (Option.some.inj hstep)).1]
          exact hcleared
      · cases hstep
  | authFrame connectionId frame =>
    refine .of_other hfresh hstep ?_ (by rintro _ _ ⟨⟩)
      (fun phase hstart _ => by cases hstart; rfl) hframes rfl rfl
    have hcleared := requestsKept_clearAuthTimer s.transport.net connectionId
    simp only [transportStep] at hstep
    split at hstep
    · cases hstep
    · split at hstep
      · cases frame with
        | none =>
          rw [← show _ = s'.transport from (Prod.mk.inj (Option.some.inj hstep)).1]
          exact hcleared.trans (requestsKept_rejectAuth _ _ _ _)
        | some frame =>
          rw [← show _ = s'.transport from (Prod.mk.inj (Option.some.inj hstep)).1]
          exact hcleared
      · cases hstep
  | requestFrame =>
    have hkept := requestsKept_of_step hstep (by rintro ⟨⟩) rfl (by rintro _ _ _ _ _ ⟨⟩)
    exact .of_other hfresh hstep hkept (by rintro _ _ ⟨⟩)
      (fun phase hstart _ => by cases hstart; rfl) hframes rfl rfl
  | refuse =>
    have hkept := requestsKept_of_step hstep (by rintro ⟨⟩) rfl (by rintro _ _ _ _ _ ⟨⟩)
    exact .of_other hfresh hstep hkept (by rintro _ _ ⟨⟩) (by rintro _ ⟨⟩) hframes rfl rfl
  | looked => exact .of_lookup hfresh hstep hframes
  | fingerprinted call fingerprint =>
    have hkept := requestsKept_of_step hstep (by rintro ⟨⟩) rfl (by rintro _ _ _ _ _ ⟨⟩)
    refine .of_other hfresh hstep hkept (fun call' phase hanswer hcall => ?_) (by rintro _ ⟨⟩)
      hframes rfl rfl
    obtain rfl : call = call' := Option.some.inj hanswer
    simp only [transportStep, hcall] at hstep
    cases phase with
    | fingerprinting => rfl
    | _ => cases hstep
  | routed => exact .of_routed hstep hframes
  | requestTimeout timer =>
    simp only [transportStep] at hstep
    split at hstep
    · cases hstep
    · next connectionId requestId htimer =>
      obtain ⟨htransport, rfl⟩ := Prod.mk.inj (Option.some.inj hstep)
      exact .timedOut htimer (by rw [← htransport]) (by rw [← htransport])
        (by rw [← htransport]) hframes
  | heartbeat =>
    have hkept := requestsKept_of_step hstep (by rintro ⟨⟩) rfl (by rintro _ _ _ _ _ ⟨⟩)
    exact .of_other hfresh hstep hkept (by rintro _ _ ⟨⟩)
      (fun phase hstart _ => by cases hstart; rfl) hframes rfl rfl
  | broadcast =>
    have hkept := requestsKept_of_step hstep (by rintro ⟨⟩) rfl (by rintro _ _ _ _ _ ⟨⟩)
    exact .of_other hfresh hstep hkept (by rintro _ _ ⟨⟩) (by rintro _ ⟨⟩) hframes rfl rfl
  | invalidate =>
    have hkept := requestsKept_of_step hstep (by rintro ⟨⟩) rfl (by rintro _ _ _ _ _ ⟨⟩)
    exact .of_other hfresh hstep hkept (by rintro _ _ ⟨⟩)
      (fun phase hstart _ => by cases hstart; rfl) hframes rfl rfl
  | close =>
    have hkept := requestsKept_of_step hstep (by rintro ⟨⟩) rfl (by rintro _ _ _ _ _ ⟨⟩)
    exact .of_other hfresh hstep hkept (by rintro _ _ ⟨⟩) (by rintro _ ⟨⟩) hframes rfl rfl

end Sound

end Signet.Ws
