import Signet.Admin.AdminSocket

/-!
# Framing of the admin socket

A connection is compared with one that gets each line alone, after the line before has been
answered. The text of a line is the same if every chunk is whole characters and does not begin with
a byte order mark in the middle of a line, since each chunk is decoded on its own. A line is taken
for the same if it is not handled while the auth frame is still being verified.

* `handledAlone`: how the lines are handled one by one.
* `SocketInv`: the lines so far were handled like that, and their replies are those of the answers.
* `FrameInv`: the lines so far are those of the bytes.
* `adminSocket_framing`: two connections with the same bytes handle the same lines with the same
  replies.
-/

namespace Signet

open Lib

/-! ### Traces -/

/-- The bytes of a chunk. -/
def SocketEvent.bytes : SocketEvent → Bytes
  | received data => data
  | _ => []

def SocketEvent.handled? : SocketEvent → Option (String × LineStart)
  | handled text start => some (text, start)
  | _ => none

def SocketEvent.replyTo? (line : Nat) : SocketEvent → Option AdminReply
  | replied line' reply => if line' = line then some reply else none
  | _ => none

def receivedBytes (tr : List SocketEvent) : Bytes :=
  tr.flatMap (·.bytes)

/-- The lines that have been handled, and what each was taken for. -/
def handledLines (tr : List SocketEvent) : List (String × LineStart) :=
  tr.filterMap (·.handled?)

def repliesTo (line : Nat) (tr : List SocketEvent) : List AdminReply :=
  tr.filterMap (·.replyTo? line)

/-! ### Line by line -/

section Alone

variable (deps : AdminSocketDeps)

def sessionAfter (line : Nat) (session : Option AdminSession) : LineStart → Option AdminSession
  | .await (.verifying token) =>
    match deps.verifyJwt line token with
    | .ok session => some session
    | .error _ => session
  | _ => session

/-- The session after all the lines. -/
def sessionAlone : Nat → Option AdminSession → List String → Option AdminSession
  | _, session, [] => session
  | n, session, line :: lines =>
    sessionAlone (n + 1) (sessionAfter deps n session (startLine deps session line)) lines

/-- The lines with what they are taken for, each after the one before has been answered. -/
def handledAlone : Nat → Option AdminSession → List String → List (String × LineStart)
  | _, _, [] => []
  | n, session, line :: lines =>
    (line, startLine deps session line) ::
      handledAlone (n + 1) (sessionAfter deps n session (startLine deps session line)) lines

def replyAlone (line : Nat) : LineStart → AdminReply
  | .reply reply => reply
  | .await (.verifying token) => verifyReply (deps.verifyJwt line token)
  | .await (.resolving request params session) =>
    match deps.resolveForRequest line (resolveInput request params session) with
    | .error e => .failed request e
    | .ok elevation =>
      dispatchReply request (deps.dispatchValidated line request.method params
        (socketContext (some session) elevation))
  | .await (.dispatching request params context) =>
    dispatchReply request (deps.dispatchValidated line request.method params context)

variable {deps}

theorem sessionAlone_snoc (n : Nat) (session : Option AdminSession) (lines : List String)
    (line : String) :
    sessionAlone deps n session (lines ++ [line]) =
      sessionAfter deps (n + lines.length) (sessionAlone deps n session lines)
        (startLine deps (sessionAlone deps n session lines) line) := by
  induction lines generalizing n session with
  | nil => rfl
  | cons first lines ih =>
    rw [List.cons_append, sessionAlone, sessionAlone, ih, List.length_cons,
      Nat.add_assoc, Nat.add_comm 1]

theorem handledAlone_snoc (n : Nat) (session : Option AdminSession) (lines : List String)
    (line : String) :
    handledAlone deps n session (lines ++ [line]) =
      handledAlone deps n session lines ++
        [(line, startLine deps (sessionAlone deps n session lines) line)] := by
  induction lines generalizing n session with
  | nil => rfl
  | cons first lines ih =>
    rw [List.cons_append, handledAlone, handledAlone, ih, sessionAlone, List.cons_append]

/-- What a line waits for depends on the session. -/
theorem startLine_cases (session : Option AdminSession) (line : String) :
    (∃ reply, startLine deps session line = .reply reply) ∨
      (session = none ∧ ∃ token, startLine deps session line = .await (.verifying token)) ∨
      ∃ current request params, session = some current ∧
        startLine deps session line = .await (.resolving request params current) := by
  unfold startLine
  cases deps.parseJson line with
  | none => exact Or.inl ⟨_, rfl⟩
  | some value =>
    cases session with
    | none =>
      dsimp only
      unfold startAuth
      split
      · exact Or.inl ⟨_, rfl⟩
      · exact Or.inr (Or.inl ⟨rfl, _, rfl⟩)
    | some current =>
      dsimp only
      unfold startRequest
      split
      · exact Or.inl ⟨_, rfl⟩
      · split
        · split
          · exact Or.inl ⟨_, rfl⟩
          · exact Or.inr (Or.inr ⟨current, _, _, rfl, rfl⟩)
        · exact Or.inl ⟨_, rfl⟩

theorem startLine_of_not_json {line : String} (h : deps.parseJson line = none)
    (session session' : Option AdminSession) :
    startLine deps session line = startLine deps session' line := by
  unfold startLine
  rw [h]

end Alone

/-! ### The condition -/

section Guards

variable (deps : AdminSocketDeps)

/-- The verification of a token that is good is in flight. -/
def PendingAuth (s : AdminSocketState) : Prop :=
  ∃ line token session, s.calls.get? line = some (.verifying token) ∧
    deps.verifyJwt line token = .ok session

/-- No line that is JSON is handled while a good token is being verified. -/
def AuthSettled : AdminSocketState → List String → Prop
  | _, [] => True
  | s, line :: lines =>
    ((deps.parseJson line).isSome = true → ¬ PendingAuth deps s) ∧
      AuthSettled (s.handleLine deps line).1 lines

/-- A chunk is whole characters, it begins with a byte order mark only where nothing but space has
come of the line, and it completes no JSON while a good token is being verified. -/
def Undisturbed (s : AdminSocketState) : SocketAction → Prop
  | .data data =>
    (∃ chars, data = encodeUtf8 chars ∧
      (chars.head? = some byteOrderMark → trimStart isSpaceChar s.buffer = [])) ∧
    AuthSettled deps { s with buffer := (s.breakBuffer data).2 }
      (trimmedLines (s.breakBuffer data).1)
  | _ => True

/-- A chunk is one line, and it comes when the lines before have been answered. -/
def OneByOne (s : AdminSocketState) : SocketAction → Prop
  | .data data =>
    s.buffer = [] ∧ (∀ line, s.calls.get? line = none) ∧
      ∃ chars, '\n' ∉ chars ∧ data = encodeUtf8 (chars ++ ['\n'])
  | _ => True

end Guards

/-! ### Decoding a chunk -/

/-- A line that comes alone is one line. -/
theorem breakLines_line {chars : List Char} (h : '\n' ∉ chars) :
    breakLines '\n' [] (chars ++ ['\n']) = ([chars], []) := by
  rw [breakLines_append, breakLines_of_not_mem h, breakLines_sep]
  rfl

theorem OneByOne.undisturbed {deps : AdminSocketDeps} {s : AdminSocketState} {a : SocketAction}
    (h : OneByOne s a) : Undisturbed deps s a := by
  cases a with
  | data data =>
    obtain ⟨hbuffer, hidle, chars, hchars, rfl⟩ := h
    refine ⟨⟨_, rfl, fun _ => by rw [hbuffer]; rfl⟩, ?_⟩
    have hone : ∃ line, (s.breakBuffer (encodeUtf8 (chars ++ ['\n']))).1 = [line] := by
      unfold AdminSocketState.breakBuffer
      rw [hbuffer, List.nil_append]
      rcases textDecode_encode (chars ++ ['\n']) with hall | ⟨rest, hbom, hrest⟩
      · rw [hall, breakLines_line hchars]
        exact ⟨_, rfl⟩
      · rw [hrest]
        cases chars with
        | nil => exact absurd (List.cons.inj hbom).1 (by decide)
        | cons c chars =>
          rw [List.cons_append] at hbom
          obtain ⟨-, rfl⟩ := List.cons.inj hbom
          rw [breakLines_line fun hmem => hchars (List.mem_cons_of_mem _ hmem)]
          exact ⟨_, rfl⟩
    obtain ⟨line, hline⟩ := hone
    rw [hline]
    have hshort : ∀ text : String, AuthSettled deps
        { s with buffer := (s.breakBuffer (encodeUtf8 (chars ++ ['\n']))).2 } [text] := by
      refine fun text => ⟨fun _ => ?_, trivial⟩
      rintro ⟨number, token, session, hcall, -⟩
      replace hcall : s.calls.get? number = some (.verifying token) := hcall
      rw [hidle number] at hcall
      cases hcall
    unfold trimmedLines
    rw [List.map_singleton, List.filter_singleton]
    cases decide (String.ofList (trimBoth isSpaceChar line) ≠ "") with
    | true => exact hshort _
    | false => exact trivial
  | _ => exact trivial

/-! ### Lines and replies -/

section Traces

theorem handledLines_append (tr es : List SocketEvent) :
    handledLines (tr ++ es) = handledLines tr ++ handledLines es :=
  List.filterMap_append

theorem repliesTo_append (line : Nat) (tr es : List SocketEvent) :
    repliesTo line (tr ++ es) = repliesTo line tr ++ repliesTo line es :=
  List.filterMap_append

theorem repliesTo_replied (line line' : Nat) (reply : AdminReply) :
    repliesTo line [.replied line' reply] = if line' = line then [reply] else [] := by
  unfold repliesTo SocketEvent.replyTo?
  by_cases heq : line' = line
  · simp [heq]
  · simp [heq]

end Traces

/-- A call waits for what its line was taken for. -/
inductive Follows (deps : AdminSocketDeps) (session : Option AdminSession) (line : Nat)
    (start : LineStart) : SocketCall → Prop
  | verifying {token : String} (hstart : start = .await (.verifying token)) :
      Follows deps session line start (.verifying token)
  | resolving {request : JsonRpcRequest} {params : JsonObject} {current : AdminSession}
      (hstart : start = .await (.resolving request params current))
      (hsession : session = some current) :
      Follows deps session line start (.resolving request params current)
  | dispatching {request : JsonRpcRequest} {params : JsonObject} {current : AdminSession}
      {elevation : Option AdminReadElevation}
      (hstart : start = .await (.resolving request params current))
      (hsession : session = some current)
      (hresolved : deps.resolveForRequest line (resolveInput request params current) =
        .ok elevation) :
      Follows deps session line start
        (.dispatching request params (socketContext (some current) elevation))

/-- The session of the lines one by one. -/
def currentSession (deps : AdminSocketDeps) (tr : List SocketEvent) : Option AdminSession :=
  sessionAlone deps 0 none ((handledLines tr).map Prod.fst)

/-- The session is that of the lines one by one, but for the one good token that is being
verified. -/
inductive SessionSettled (deps : AdminSocketDeps) (s : AdminSocketState)
    (current : Option AdminSession) : Prop
  | settled (hquiet : ¬ PendingAuth deps s) (hsession : s.session = current)
  | pending {line : Nat} {token : String} {session : AdminSession}
      (hcall : s.calls.get? line = some (.verifying token))
      (hverified : deps.verifyJwt line token = .ok session) (hnone : s.session = none)
      (hcurrent : current = some session)
      (hsingle : ∀ line' token' session', s.calls.get? line' = some (.verifying token') →
        deps.verifyJwt line' token' = .ok session' → line' = line)

/-- The lines were handled as if each had come alone. -/
structure SocketInv (deps : AdminSocketDeps) (tr : List SocketEvent) (s : AdminSocketState) :
    Prop where
  count : (handledLines tr).length = s.lines
  alone : handledLines tr = handledAlone deps 0 none ((handledLines tr).map Prod.fst)
  session : SessionSettled deps s (currentSession deps tr)
  calls : ∀ line call, s.calls.get? line = some call → ∃ text start,
    (handledLines tr)[line]? = some (text, start) ∧ Follows deps s.session line start call
  replies : ∀ line text start, (handledLines tr)[line]? = some (text, start) →
    repliesTo line tr = if s.calls.has line then [] else [replyAlone deps line start]
  unhandled : ∀ line, s.lines ≤ line → repliesTo line tr = []

namespace SocketInv

variable {deps : AdminSocketDeps} {tr : List SocketEvent} {s : AdminSocketState}

/-- A line in flight has been handled. -/
theorem lt_lines (h : SocketInv deps tr s) {line : Nat} {call : SocketCall}
    (hcall : s.calls.get? line = some call) : line < s.lines := by
  obtain ⟨text, start, hget, -⟩ := h.calls line call hcall
  rw [← h.count]
  exact (List.getElem?_eq_some_iff.1 hget).1

theorem start_eq (h : SocketInv deps tr s) {text : String}
    (hsettled : (deps.parseJson text).isSome = true → ¬ PendingAuth deps s) :
    startLine deps s.session text = startLine deps (currentSession deps tr) text := by
  cases hjson : deps.parseJson text with
  | none => exact startLine_of_not_json hjson _ _
  | some value =>
    cases h.session with
    | settled _ hsession => rw [hsession]
    | pending hcall hverified _ _ _ =>
      rw [hjson] at hsettled
      exact absurd ⟨_, _, _, hcall, hverified⟩ (hsettled rfl)

theorem currentSession_snoc (h : SocketInv deps tr s) {es : List SocketEvent} {text : String}
    (hes : handledLines es = [(text, startLine deps s.session text)])
    (hsettled : (deps.parseJson text).isSome = true → ¬ PendingAuth deps s) :
    handledLines (tr ++ es) =
        handledAlone deps 0 none ((handledLines (tr ++ es)).map Prod.fst) ∧
      currentSession deps (tr ++ es) = sessionAfter deps s.lines (currentSession deps tr)
        (startLine deps (currentSession deps tr) text) := by
  have htexts : (handledLines (tr ++ es)).map Prod.fst =
      (handledLines tr).map Prod.fst ++ [text] := by
    rw [handledLines_append, hes, List.map_append]
    rfl
  constructor
  · rw [htexts, handledAlone_snoc, ← h.alone, handledLines_append, hes, h.start_eq hsettled]
    rfl
  · unfold currentSession
    rw [htexts, sessionAlone_snoc, List.length_map, h.count, Nat.zero_add]

theorem getElem?_handled {es : List SocketEvent} {line : Nat} {text : String} {start : LineStart}
    (hget : (handledLines tr)[line]? = some (text, start)) :
    (handledLines (tr ++ es))[line]? = some (text, start) := by
  rw [handledLines_append, List.getElem?_append_left (List.getElem?_eq_some_iff.1 hget).1]
  exact hget

theorem getElem?_snoc (h : SocketInv deps tr s) {es : List SocketEvent} {new : String × LineStart}
    (hes : handledLines es = [new]) {line : Nat} {old : String × LineStart}
    (hget : (handledLines (tr ++ es))[line]? = some old) :
    (line < s.lines ∧ (handledLines tr)[line]? = some old) ∨ (line = s.lines ∧ old = new) := by
  rw [handledLines_append, hes] at hget
  by_cases hlt : line < (handledLines tr).length
  · rw [List.getElem?_append_left hlt] at hget
    exact Or.inl ⟨h.count ▸ hlt, hget⟩
  · rw [List.getElem?_append_right (not_lt.1 hlt)] at hget
    have hzero : line - (handledLines tr).length = 0 := by
      have hbound := (List.getElem?_eq_some_iff.1 hget).1
      rw [List.length_singleton] at hbound
      omega
    rw [hzero] at hget
    refine Or.inr ⟨?_, (Option.some.inj hget).symm⟩
    rw [← h.count]
    omega

theorem handle_reply (h : SocketInv deps tr s) {text : String} {reply : AdminReply}
    (hsettled : (deps.parseJson text).isSome = true → ¬ PendingAuth deps s)
    (hstart : startLine deps s.session text = .reply reply) :
    SocketInv deps (tr ++ [.handled text (.reply reply), .replied s.lines reply])
      { s with lines := s.lines + 1 } := by
  have hes : handledLines [.handled text (.reply reply), .replied s.lines reply] =
      [(text, startLine deps s.session text)] := by
    rw [hstart]
    rfl
  obtain ⟨halone, hcurrent⟩ := h.currentSession_snoc hes hsettled
  rw [← h.start_eq hsettled, hstart] at hcurrent
  replace hcurrent : currentSession deps (tr ++ [.handled text (.reply reply),
      .replied s.lines reply]) = currentSession deps tr := hcurrent
  have hreply : ∀ line, repliesTo line [.handled text (.reply reply), .replied s.lines reply] =
      if s.lines = line then [reply] else [] := fun line => repliesTo_replied line s.lines reply
  refine ⟨?_, halone, ?_, fun line call hcall => ?_, fun line text' start' hget => ?_,
    fun line hline => ?_⟩
  · rw [handledLines_append, hes, List.length_append, h.count]
    rfl
  · rw [hcurrent]
    cases h.session with
    | settled hquiet hsession => exact .settled hquiet hsession
    | pending hcall hverified hnone hcur hsingle =>
      exact .pending hcall hverified hnone hcur hsingle
  · obtain ⟨text', start', hget, hfollows⟩ := h.calls line call hcall
    exact ⟨text', start', getElem?_handled hget, hfollows⟩
  · rw [repliesTo_append, hreply]
    rcases h.getElem?_snoc hes hget with ⟨hlt, hold⟩ | ⟨rfl, hnew⟩
    · rw [if_neg (Nat.ne_of_gt hlt), List.append_nil]
      exact h.replies line text' start' hold
    · -- the new line is not in flight
      have hfree : s.calls.has s.lines = false := by
        refine Bool.eq_false_iff.2 fun hhas => ?_
        obtain ⟨call, hcall⟩ := OrdMap.has_eq_true_iff.1 hhas
        exact absurd (h.lt_lines hcall) (lt_irrefl _)
      rw [h.unhandled _ (le_refl _), if_pos rfl, List.nil_append]
      rw [(Prod.mk.inj hnew).2, hstart]
      rw [show ({ s with lines := s.lines + 1 } : AdminSocketState).calls.has s.lines = false
        from hfree, if_neg Bool.false_ne_true]
      rfl
  · have hle : s.lines ≤ line := Nat.le_of_succ_le hline
    rw [repliesTo_append, hreply, h.unhandled line hle, if_neg (Nat.ne_of_lt hline)]
    rfl

theorem sessionSettled_await {call : SocketCall} {current : Option AdminSession}
    (hquiet : ¬ PendingAuth deps s) (hsession : s.session = current)
    (hnone : ∀ token, call = .verifying token → s.session = none) :
    SessionSettled deps { s with lines := s.lines + 1, calls := s.calls.set s.lines call }
      (sessionAfter deps s.lines current (.await call)) := by
  -- what is being verified is the new line
  have hnew : ∀ {line token session}, (s.calls.set s.lines call).get? line =
      some (.verifying token) → deps.verifyJwt line token = .ok session →
        line = s.lines ∧ call = .verifying token := by
    intro line token session hget hverified
    rcases OrdMap.get?_set_eq_some hget with ⟨rfl, rfl⟩ | ⟨-, hold⟩
    · exact ⟨rfl, rfl⟩
    · exact absurd ⟨line, token, session, hold, hverified⟩ hquiet
  have hother : (∀ token session, call = .verifying token →
      deps.verifyJwt s.lines token ≠ .ok session) →
      sessionAfter deps s.lines current (.await call) = current →
      SessionSettled deps { s with lines := s.lines + 1, calls := s.calls.set s.lines call }
        (sessionAfter deps s.lines current (.await call)) := by
    intro hbad hsame
    rw [hsame]
    refine .settled ?_ hsession
    rintro ⟨line, token, session, hget, hverified⟩
    obtain ⟨rfl, heq⟩ := hnew hget hverified
    exact hbad token session heq hverified
  cases call with
  | verifying token =>
    cases hverified : deps.verifyJwt s.lines token with
    | ok session =>
      refine .pending (OrdMap.get?_set_self _ _ _) hverified (hnone token rfl) ?_
        fun line' token' session' hget hok => (hnew hget hok).1
      unfold sessionAfter
      dsimp only
      rw [hverified]
    | error e =>
      refine hother (fun token' session heq hok => ?_) ?_
      · cases heq
        rw [hverified] at hok
        cases hok
      · unfold sessionAfter
        dsimp only
        rw [hverified]
  | resolving request params session => exact hother (fun _ _ heq => by cases heq) rfl
  | dispatching request params context => exact hother (fun _ _ heq => by cases heq) rfl

theorem handle_await (h : SocketInv deps tr s) {text : String} {call : SocketCall}
    (hsettled : (deps.parseJson text).isSome = true → ¬ PendingAuth deps s)
    (hstart : startLine deps s.session text = .await call) :
    SocketInv deps (tr ++ [.handled text (.await call)])
      { s with lines := s.lines + 1, calls := s.calls.set s.lines call } := by
  have hes : handledLines [.handled text (.await call)] =
      [(text, startLine deps s.session text)] := by
    rw [hstart]
    rfl
  obtain ⟨halone, hcurrent⟩ := h.currentSession_snoc hes hsettled
  rw [← h.start_eq hsettled, hstart] at hcurrent
  -- only JSON waits for something
  have hquiet : ¬ PendingAuth deps s := by
    refine hsettled (Option.isSome_iff_ne_none.2 fun hnone => ?_)
    unfold startLine at hstart
    rw [hnone] at hstart
    cases hstart
  have hsession : s.session = currentSession deps tr := by
    cases h.session with
    | settled _ hsession => exact hsession
    | pending hcall hverified _ _ _ => exact absurd ⟨_, _, _, hcall, hverified⟩ hquiet
  have hnone : ∀ token, call = .verifying token → s.session = none := by
    rintro token rfl
    rcases @startLine_cases deps s.session text with
      ⟨reply, hreply⟩ | ⟨hnone, -⟩ | ⟨current, request, params, -, hrequest⟩
    · rw [hstart] at hreply
      cases hreply
    · exact hnone
    · rw [hstart] at hrequest
      cases hrequest
  have hfollows : Follows deps s.session s.lines (.await call) call := by
    rcases @startLine_cases deps s.session text with
      ⟨reply, hreply⟩ | ⟨-, token, htoken⟩ | ⟨current, request, params, hcur, hrequest⟩
    · rw [hstart] at hreply
      cases hreply
    · rw [hstart] at htoken
      cases htoken
      exact .verifying rfl
    · rw [hstart] at hrequest
      cases hrequest
      exact .resolving rfl hcur
  refine ⟨?_, halone, ?_, fun line call' hcall => ?_, fun line text' start' hget => ?_,
    fun line hline => ?_⟩
  · rw [handledLines_append, hes, List.length_append, h.count]
    rfl
  · rw [hcurrent]
    exact sessionSettled_await hquiet hsession hnone
  · rcases OrdMap.get?_set_eq_some hcall with ⟨rfl, rfl⟩ | ⟨-, hold⟩
    · refine ⟨text, _, ?_, hfollows⟩
      rw [handledLines_append, ← h.count, List.getElem?_append_right (le_refl _), Nat.sub_self]
      rfl
    · obtain ⟨text', start', hget, hfollows'⟩ := h.calls line call' hold
      exact ⟨text', start', getElem?_handled hget, hfollows'⟩
  · have hempty : repliesTo line [.handled text (.await call)] = [] := rfl
    rw [repliesTo_append, hempty, List.append_nil]
    rcases h.getElem?_snoc hes hget with ⟨hlt, hold⟩ | ⟨rfl, hnew⟩
    · have hsame : (s.calls.set s.lines call).has line = s.calls.has line := by
        rw [Bool.eq_iff_iff, OrdMap.has_set_iff]
        exact or_iff_right (Nat.ne_of_lt hlt)
      rw [h.replies line text' start' hold]
      rw [show ({ s with lines := s.lines + 1, calls := s.calls.set s.lines call } :
        AdminSocketState).calls.has line = s.calls.has line from hsame]
    · rw [h.unhandled _ (le_refl _), if_pos]
      exact OrdMap.has_set_iff.2 (Or.inl rfl)
  · have hempty : repliesTo line [.handled text (.await call)] = [] := rfl
    rw [repliesTo_append, hempty, h.unhandled line (Nat.le_of_succ_le hline)]
    rfl

theorem handleLine (h : SocketInv deps tr s) {text : String}
    (hsettled : (deps.parseJson text).isSome = true → ¬ PendingAuth deps s) :
    SocketInv deps (tr ++ (s.handleLine deps text).2) (s.handleLine deps text).1 := by
  unfold AdminSocketState.handleLine
  cases hstart : startLine deps s.session text with
  | reply reply => exact h.handle_reply hsettled hstart
  | await call => exact h.handle_await hsettled hstart

theorem handleLines {lines : List String} (h : SocketInv deps tr s)
    (hsettled : AuthSettled deps s lines) :
    SocketInv deps (tr ++ (s.handleLines deps lines).2) (s.handleLines deps lines).1 := by
  induction lines generalizing tr s with
  | nil =>
    show SocketInv deps (tr ++ []) s
    rw [List.append_nil]
    exact h
  | cons line lines ih =>
    have hrest := ih (h.handleLine hsettled.1) hsettled.2
    rw [List.append_assoc] at hrest
    exact hrest

theorem received (h : SocketInv deps tr s) (data : Bytes) (buffer : List Char) :
    SocketInv deps (tr ++ [.received data]) { s with buffer := buffer } := by
  have hlines : handledLines (tr ++ [.received data]) = handledLines tr := by
    rw [handledLines_append]
    exact List.append_nil _
  have hreplies : ∀ line, repliesTo line (tr ++ [.received data]) = repliesTo line tr := by
    intro line
    rw [repliesTo_append]
    exact List.append_nil _
  refine ⟨?_, ?_, ?_, ?_, ?_, ?_⟩
  · rw [hlines]
    exact h.count
  · rw [hlines]
    exact h.alone
  · unfold currentSession
    rw [hlines]
    cases h.session with
    | settled hquiet hsession => exact .settled hquiet hsession
    | pending hcall hverified hnone hcur hsingle =>
      exact .pending hcall hverified hnone hcur hsingle
  · rw [hlines]
    exact h.calls
  · rw [hlines]
    intro line text start hget
    rw [hreplies]
    exact h.replies line text start hget
  · intro line hline
    rw [hreplies]
    exact h.unhandled line hline

theorem finish (h : SocketInv deps tr s) {line : Nat} {text : String} {start : LineStart}
    (hget : (handledLines tr)[line]? = some (text, start)) (hflight : s.calls.has line = true)
    {session : Option AdminSession}
    (hsession : SessionSettled deps { s with session := session, calls := s.calls.erase line }
      (currentSession deps tr))
    (hfollows : ∀ line' start' call', s.calls.get? line' = some call' →
      Follows deps s.session line' start' call' → Follows deps session line' start' call')
    {reply : AdminReply} (hreply : reply = replyAlone deps line start) :
    SocketInv deps (tr ++ [.replied line reply])
      { s with session := session, calls := s.calls.erase line } := by
  have hlines : handledLines (tr ++ [.replied line reply]) = handledLines tr := by
    rw [handledLines_append]
    exact List.append_nil _
  refine ⟨?_, ?_, ?_, fun line' call' hcall' => ?_, fun line' text' start' hget' => ?_,
    fun line' hline' => ?_⟩
  · rw [hlines]
    exact h.count
  · rw [hlines]
    exact h.alone
  · unfold currentSession
    rw [hlines]
    exact hsession
  · obtain ⟨-, hold⟩ := OrdMap.get?_erase_eq_some hcall'
    obtain ⟨text', start', hget', hfollow⟩ := h.calls line' call' hold
    rw [hlines]
    exact ⟨text', start', hget', hfollows line' start' call' hold hfollow⟩
  · rw [hlines] at hget'
    rw [repliesTo_append, repliesTo_replied, h.replies line' text' start' hget']
    by_cases heq : line = line'
    · subst heq
      rw [hget] at hget'
      obtain ⟨-, rfl⟩ := Prod.mk.inj (Option.some.inj hget')
      have herased : ¬ (s.calls.erase line).has line = true := fun hhas =>
        (OrdMap.has_erase_iff.1 hhas).1 rfl
      rw [if_pos hflight, if_pos rfl, hreply]
      exact (if_neg herased).symm
    · have hsame : (s.calls.erase line).has line' = s.calls.has line' := by
        rw [Bool.eq_iff_iff, OrdMap.has_erase_iff]
        exact and_iff_right fun heq' => heq heq'.symm
      rw [if_neg heq, List.append_nil]
      rw [show ({ s with session := session, calls := s.calls.erase line } :
        AdminSocketState).calls.has line' = s.calls.has line' from hsame]
  · have hne : line ≠ line' := by
      rintro rfl
      obtain ⟨call, hcall⟩ := OrdMap.has_eq_true_iff.1 hflight
      exact absurd (h.lt_lines hcall) (not_lt.2 hline')
    rw [repliesTo_append, repliesTo_replied, if_neg hne, List.append_nil]
    exact h.unhandled line' hline'

theorem sessionSettled_erase (h : SocketInv deps tr s) {line : Nat}
    (hbad : ∀ token session, s.calls.get? line = some (.verifying token) →
      deps.verifyJwt line token ≠ .ok session) :
    SessionSettled deps { s with calls := s.calls.erase line } (currentSession deps tr) := by
  cases h.session with
  | settled hquiet hsession =>
    refine .settled ?_ hsession
    rintro ⟨line', token, session, hget, hverified⟩
    exact hquiet ⟨line', token, session, (OrdMap.get?_erase_eq_some hget).2, hverified⟩
  | @pending pending token session hcall hverified hnone hcur hsingle =>
    have hne : pending ≠ line := by
      rintro rfl
      exact hbad token session hcall hverified
    have hkept : (s.calls.erase line).get? pending = some (.verifying token) := by
      rw [OrdMap.get?_erase_of_ne _ hne]
      exact hcall
    exact .pending hkept hverified hnone hcur fun line' token' session' hget hok =>
      hsingle line' token' session' (OrdMap.get?_erase_eq_some hget).2 hok

theorem dispatch (h : SocketInv deps tr s) {line : Nat} {request : JsonRpcRequest}
    {params : JsonObject} {session : AdminSession} {elevation : Option AdminReadElevation}
    {text : String}
    (hget : (handledLines tr)[line]? = some (text, .await (.resolving request params session)))
    (hcall : s.calls.get? line = some (.resolving request params session))
    (hsession : s.session = some session)
    (hresolved : deps.resolveForRequest line (resolveInput request params session) =
      .ok elevation) :
    SocketInv deps tr { s with
      calls := s.calls.set line
        (.dispatching request params (socketContext s.session elevation)) } := by
  -- what is being verified is another line
  have hother : ∀ {line' token}, (s.calls.set line (.dispatching request params
      (socketContext s.session elevation))).get? line' = some (.verifying token) →
        s.calls.get? line' = some (.verifying token) := by
    intro line' token hnew
    rcases OrdMap.get?_set_eq_some hnew with ⟨-, heq⟩ | ⟨-, hold⟩
    · cases heq
    · exact hold
  refine ⟨h.count, h.alone, ?_, fun line' call hcall' => ?_, fun line' text' start' hget' => ?_,
    h.unhandled⟩
  · cases h.session with
    | settled hquiet hcurrent =>
      refine .settled ?_ hcurrent
      rintro ⟨line', token, session', hnew, hverified⟩
      exact hquiet ⟨line', token, session', hother hnew, hverified⟩
    | pending _ _ hnone _ _ =>
      -- there is no request before the session
      rw [hnone] at hsession
      cases hsession
  · rcases OrdMap.get?_set_eq_some hcall' with ⟨rfl, rfl⟩ | ⟨-, hold⟩
    · refine ⟨text, _, hget, ?_⟩
      rw [hsession]
      exact .dispatching rfl rfl hresolved
    · exact h.calls line' call hold
  · have hsame : (s.calls.set line (.dispatching request params
        (socketContext s.session elevation))).has line' = s.calls.has line' := by
      rw [Bool.eq_iff_iff, OrdMap.has_set_iff]
      refine or_iff_right_of_imp ?_
      rintro rfl
      exact OrdMap.has_eq_true_iff.2 ⟨_, hcall⟩
    rw [h.replies line' text' start' hget', ← hsame]

/-- **Every step that nothing disturbs.** -/
theorem step (h : SocketInv deps tr s) {a : SocketAction} {s' : AdminSocketState}
    {es : List SocketEvent} (hok : Undisturbed deps s a) (hstep : s.step deps a = some (s', es)) :
    SocketInv deps (tr ++ es) s' := by
  unfold AdminSocketState.step at hstep
  cases a with
  | data data =>
    cases hstep
    have hlines := (h.received data (s.breakBuffer data).2).handleLines hok.2
    rw [List.append_assoc] at hlines
    exact hlines
  | verified line =>
    dsimp only at hstep
    split at hstep
    · next token hcall =>
      obtain ⟨text, start, hget, hfollow⟩ := h.calls line _ hcall
      have hflight : s.calls.has line = true := OrdMap.has_eq_true_iff.2 ⟨_, hcall⟩
      cases hfollow with
      | verifying hstart =>
      split at hstep
      · next e hverified =>
        cases hstep
        refine h.finish hget hflight (h.sessionSettled_erase fun token' session hget' => ?_)
          (fun _ _ _ _ hfollow => hfollow) ?_
        · rw [hcall] at hget'
          cases hget'
          rw [hverified]
          exact fun hok => by cases hok
        · rw [hstart]
          show _ = verifyReply (deps.verifyJwt line token)
          rw [hverified]
      · next session hverified =>
        cases hstep
        cases h.session with
        | settled hquiet _ => exact absurd ⟨line, token, session, hcall, hverified⟩ hquiet
        | @pending pending _ session' hpending hok hnone hcur hsingle =>
        obtain rfl := hsingle line token session hcall hverified
        rw [hcall] at hpending
        cases hpending
        rw [hverified] at hok
        cases hok
        refine h.finish hget hflight (.settled ?_ hcur.symm)
          (fun line' start' call' _ hfollow => ?_)
          ?_
        · rintro ⟨line', token', session', hget', hverified'⟩
          obtain ⟨hne, hold⟩ := OrdMap.get?_erase_eq_some hget'
          exact hne (hsingle line' token' session' hold hverified')
        · -- nothing that needs a session was in flight
          cases hfollow with
          | verifying hstart => exact .verifying hstart
          | resolving _ hsession =>
            rw [hnone] at hsession
            cases hsession
          | dispatching _ hsession _ =>
            rw [hnone] at hsession
            cases hsession
        · rw [hstart]
          show _ = verifyReply (deps.verifyJwt line token)
          rw [hverified]
    · cases hstep
  | resolved line =>
    dsimp only at hstep
    split at hstep
    · next request params session hcall =>
      obtain ⟨text, start, hget, hfollow⟩ := h.calls line _ hcall
      have hflight : s.calls.has line = true := OrdMap.has_eq_true_iff.2 ⟨_, hcall⟩
      cases hfollow with
      | resolving hstart hsession =>
      split at hstep
      · next e hresolved =>
        cases hstep
        refine h.finish hget hflight (h.sessionSettled_erase fun token' session' hget' => ?_)
          (fun _ _ _ _ hfollow => hfollow) ?_
        · rw [hcall] at hget'
          cases hget'
        · rw [hstart]
          show _ = match deps.resolveForRequest line (resolveInput request params session) with
            | .error e => AdminReply.failed request e
            | .ok elevation => _
          rw [hresolved]
      · next elevation hresolved =>
        cases hstep
        rw [List.append_nil]
        rw [hstart] at hget
        exact h.dispatch hget hcall hsession hresolved
    · cases hstep
  | dispatched line =>
    dsimp only at hstep
    split at hstep
    · next request params context hcall =>
      obtain ⟨text, start, hget, hfollow⟩ := h.calls line _ hcall
      have hflight : s.calls.has line = true := OrdMap.has_eq_true_iff.2 ⟨_, hcall⟩
      cases hfollow with
      | @dispatching _ _ session elevation hstart hsession hresolved =>
      cases hstep
      refine h.finish hget hflight (h.sessionSettled_erase fun token' session' hget' => ?_)
        (fun _ _ _ _ hfollow => hfollow) ?_
      · rw [hcall] at hget'
        cases hget'
      · rw [hstart]
        show _ = match deps.resolveForRequest line (resolveInput request params session) with
          | .error e => AdminReply.failed request e
          | .ok elevation => _
        rw [hresolved]
    · cases hstep

end SocketInv

/-! ### The lines of the bytes -/

/-- A chunk of whole characters goes on where what has come of the line leaves off. -/
theorem breakBuffer_spec {s : AdminSocketState} {waiting chars : List Char}
    (hsep : '\n' ∉ s.buffer)
    (hwaiting : trimStart isSpaceChar s.buffer = trimStart isSpaceChar waiting)
    (hbom : chars.head? = some byteOrderMark → trimStart isSpaceChar s.buffer = []) :
    trimmedLines (s.breakBuffer (encodeUtf8 chars)).1 =
        trimmedLines (breakLines '\n' waiting chars).1 ∧
      trimStart isSpaceChar (s.breakBuffer (encodeUtf8 chars)).2 =
        trimStart isSpaceChar (breakLines '\n' waiting chars).2 := by
  -- the buffer before the chunk is no line
  have hbreak : s.breakBuffer (encodeUtf8 chars) =
      breakLines '\n' s.buffer (textDecode (encodeUtf8 chars)) := by
    unfold AdminSocketState.breakBuffer
    rw [breakLines_append, breakLines_of_not_mem hsep]
    rfl
  have htrim : ∀ {waiting' text : List Char},
      trimStart isSpaceChar s.buffer = trimStart isSpaceChar waiting' →
      trimmedLines (breakLines '\n' s.buffer text).1 =
          trimmedLines (breakLines '\n' waiting' text).1 ∧
        trimStart isSpaceChar (breakLines '\n' s.buffer text).2 =
          trimStart isSpaceChar (breakLines '\n' waiting' text).2 := by
    intro waiting' text hsame
    obtain ⟨hlines, hrest⟩ := @breakLines_trim _ _ _ '\n' _ _ hsame text
    refine ⟨?_, hrest⟩
    have hmap : ∀ lines : List (List Char), trimmedLines lines =
        ((lines.map (trimBoth isSpaceChar)).map String.ofList).filter (· ≠ "") := by
      intro lines
      rw [List.map_map]
      rfl
    rw [hmap, hmap, hlines]
  rw [hbreak]
  rcases textDecode_encode chars with hall | ⟨rest, rfl, hrest⟩
  · rw [hall]
    exact htrim hwaiting
  · -- a byte order mark is white space, and nothing but that has come of the line
    have hblank := hbom rfl
    rw [hrest, breakLines_of_ne (by decide : byteOrderMark ≠ '\n')]
    refine htrim ?_
    rw [hblank]
    unfold trimStart at hwaiting hblank ⊢
    rw [List.dropWhile_append, ← hwaiting, hblank]
    rfl

theorem handleLines_frames {deps : AdminSocketDeps} (s : AdminSocketState) (lines : List String) :
    (handledLines (s.handleLines deps lines).2).map Prod.fst = lines ∧
      receivedBytes (s.handleLines deps lines).2 = [] ∧
      (s.handleLines deps lines).1.buffer = s.buffer := by
  induction lines generalizing s with
  | nil => exact ⟨rfl, rfl, rfl⟩
  | cons line lines ih =>
    obtain ⟨hlines, hbytes, hbuffer⟩ := ih (s.handleLine deps line).1
    have hfirst : (handledLines (s.handleLine deps line).2).map Prod.fst = [line] ∧
        receivedBytes (s.handleLine deps line).2 = [] ∧
        (s.handleLine deps line).1.buffer = s.buffer := by
      unfold AdminSocketState.handleLine
      cases startLine deps s.session line with
      | reply reply => exact ⟨rfl, rfl, rfl⟩
      | await call => exact ⟨rfl, rfl, rfl⟩
    obtain ⟨hline, hbytes', hbuffer'⟩ := hfirst
    have hstep : s.handleLines deps (line :: lines) =
        (((s.handleLine deps line).1.handleLines deps lines).1,
          (s.handleLine deps line).2 ++
            ((s.handleLine deps line).1.handleLines deps lines).2) := rfl
    rw [hstep]
    refine ⟨?_, ?_, hbuffer.trans hbuffer'⟩
    · rw [handledLines_append, List.map_append, hline, hlines]
      rfl
    · unfold receivedBytes at hbytes hbytes' ⊢
      rw [List.flatMap_append, hbytes, hbytes']
      rfl

/-- The lines so far are those of the bytes so far. -/
structure FrameInv (tr : List SocketEvent) (s : AdminSocketState) (chars : List Char) : Prop where
  bytes : receivedBytes tr = encodeUtf8 chars
  lines : (handledLines tr).map Prod.fst = trimmedLines (breakLines '\n' [] chars).1
  waiting : trimStart isSpaceChar s.buffer = trimStart isSpaceChar (breakLines '\n' [] chars).2
  no_sep : '\n' ∉ s.buffer

namespace FrameInv

variable {deps : AdminSocketDeps} {tr : List SocketEvent} {s : AdminSocketState} {chars : List Char}

/-- An answer changes neither the bytes nor the lines. -/
theorem quiet (h : FrameInv tr s chars) {s' : AdminSocketState} {es : List SocketEvent}
    (hbuffer : s'.buffer = s.buffer) (hlines : handledLines es = [])
    (hbytes : receivedBytes es = []) : FrameInv (tr ++ es) s' chars := by
  unfold receivedBytes at hbytes
  refine ⟨?_, ?_, by rw [hbuffer]; exact h.waiting, by rw [hbuffer]; exact h.no_sep⟩
  · have hold := h.bytes
    unfold receivedBytes at hold ⊢
    rw [List.flatMap_append, hbytes, List.append_nil, hold]
  · rw [handledLines_append, hlines, List.append_nil]
    exact h.lines

theorem receive (h : FrameInv tr s chars) {new : List Char}
    (hbom : new.head? = some byteOrderMark → trimStart isSpaceChar s.buffer = []) :
    FrameInv (tr ++ (s.receive deps (encodeUtf8 new)).2) (s.receive deps (encodeUtf8 new)).1
      (chars ++ new) := by
  obtain ⟨hlines, hwaiting⟩ := breakBuffer_spec h.no_sep h.waiting hbom
  obtain ⟨hhandled, hbytes, hbuffer⟩ := @handleLines_frames deps
    { s with buffer := (s.breakBuffer (encodeUtf8 new)).2 }
    (trimmedLines (s.breakBuffer (encodeUtf8 new)).1)
  have hreceive : s.receive deps (encodeUtf8 new) =
      ((AdminSocketState.handleLines deps { s with buffer := (s.breakBuffer (encodeUtf8 new)).2 }
          (trimmedLines (s.breakBuffer (encodeUtf8 new)).1)).1,
        .received (encodeUtf8 new) ::
          (AdminSocketState.handleLines deps
            { s with buffer := (s.breakBuffer (encodeUtf8 new)).2 }
            (trimmedLines (s.breakBuffer (encodeUtf8 new)).1)).2) := rfl
  rw [hreceive]
  refine ⟨?_, ?_, ?_, ?_⟩
  · have hold := h.bytes
    unfold receivedBytes at hold hbytes ⊢
    rw [List.flatMap_append, List.flatMap_cons, hold, hbytes, encodeUtf8_append, List.append_nil]
    rfl
  · rw [handledLines_append, List.map_append, h.lines]
    show _ ++ (handledLines (AdminSocketState.handleLines deps _ _).2).map Prod.fst = _
    rw [hhandled, hlines, breakLines_append]
    unfold trimmedLines
    rw [List.map_append, List.filter_append]
  · rw [hbuffer, breakLines_append]
    exact hwaiting
  · rw [hbuffer]
    exact not_mem_breakLines List.not_mem_nil _

/-- **Every step.** -/
theorem step (h : FrameInv tr s chars) {a : SocketAction} {s' : AdminSocketState}
    {es : List SocketEvent} (hok : Undisturbed deps s a)
    (hstep : s.step deps a = some (s', es)) : ∃ chars', FrameInv (tr ++ es) s' chars' := by
  unfold AdminSocketState.step at hstep
  cases a with
  | data data =>
    obtain ⟨⟨new, rfl, hbom⟩, -⟩ := hok
    cases hstep
    exact ⟨_, h.receive hbom⟩
  | verified line =>
    dsimp only at hstep
    split at hstep
    · split at hstep
      · cases hstep
        exact ⟨chars, h.quiet rfl rfl rfl⟩
      · cases hstep
        exact ⟨chars, h.quiet rfl rfl rfl⟩
    · cases hstep
  | resolved line =>
    dsimp only at hstep
    split at hstep
    · split at hstep
      · cases hstep
        exact ⟨chars, h.quiet rfl rfl rfl⟩
      · cases hstep
        exact ⟨chars, h.quiet rfl rfl rfl⟩
    · cases hstep
  | dispatched line =>
    dsimp only at hstep
    split at hstep
    · cases hstep
      exact ⟨chars, h.quiet rfl rfl rfl⟩
    · cases hstep

end FrameInv

/-! ### Two connections -/

variable {deps : AdminSocketDeps}

/-- **A connection that nothing disturbs.** -/
theorem socketInv_run {tr : List SocketEvent} {s : AdminSocketState}
    (h : Run (adminSocket deps) (Undisturbed deps) tr s) :
    SocketInv deps tr s ∧ ∃ chars, FrameInv tr s chars := by
  refine h.invariant (I := fun tr s => SocketInv deps tr s ∧ ∃ chars, FrameInv tr s chars) ?_ ?_
  · refine ⟨⟨rfl, rfl, .settled ?_ rfl, fun _ _ hcall => ?_, fun line _ _ hget => ?_,
      fun _ _ => rfl⟩, [], rfl, rfl, rfl, List.not_mem_nil⟩
    · rintro ⟨line, token, session, hcall, -⟩
      cases hcall
    · cases hcall
    · cases hget
  · rintro tr s a s' es - ⟨hsocket, chars, hframe⟩ hok hstep
    exact ⟨hsocket.step hok hstep, hframe.step hok hstep⟩

theorem SocketInv.repliesTo_eq {tr : List SocketEvent} {s : AdminSocketState}
    (h : SocketInv deps tr s) {line : Nat} (hidle : s.calls.get? line = none) :
    repliesTo line tr =
      ((handledLines tr)[line]?.map fun l => replyAlone deps line l.2).toList := by
  have hhas : ¬ s.calls.has line = true := by
    rw [OrdMap.has_eq_true_iff, hidle]
    rintro ⟨call, hcall⟩
    cases hcall
  cases hget : (handledLines tr)[line]? with
  | none =>
    refine h.unhandled line ?_
    rw [← h.count]
    exact List.getElem?_eq_none_iff.1 hget
  | some l =>
    rw [h.replies line l.1 l.2 hget, if_neg hhas]
    rfl

/-- **Chunks do not matter while nothing disturbs.** A connection handles the lines that one with
the same bytes, line by line, handles, for the same as there, and answers them with the same
replies; what comes after the last line break is no line yet. -/
theorem adminSocket_framing {tr tr₀ : List SocketEvent} {s s₀ : AdminSocketState}
    {rest : List Char} (hrun : Run (adminSocket deps) (Undisturbed deps) tr s)
    (hrun₀ : Run (adminSocket deps) OneByOne tr₀ s₀)
    (hbytes : receivedBytes tr = receivedBytes tr₀ ++ encodeUtf8 rest) (hrest : '\n' ∉ rest) :
    handledLines tr = handledLines tr₀ ∧
      ∀ line, s.calls.get? line = none → s₀.calls.get? line = none →
        repliesTo line tr = repliesTo line tr₀ := by
  obtain ⟨hsocket, chars, hframe⟩ := socketInv_run hrun
  obtain ⟨hsocket₀, chars₀, hframe₀⟩ :=
    socketInv_run (hrun₀.mono fun _ _ hone => hone.undisturbed)
  have hchars : chars = chars₀ ++ rest := by
    refine encodeUtf8_injective ?_
    rw [encodeUtf8_append, ← hframe.bytes, ← hframe₀.bytes]
    exact hbytes
  have htexts : (handledLines tr).map Prod.fst = (handledLines tr₀).map Prod.fst := by
    rw [hframe.lines, hframe₀.lines, hchars, breakLines_append, breakLines_of_not_mem hrest,
      List.append_nil]
  have hlines : handledLines tr = handledLines tr₀ := by
    rw [hsocket.alone, htexts]
    exact hsocket₀.alone.symm
  refine ⟨hlines, fun line hidle hidle₀ => ?_⟩
  rw [hsocket.repliesTo_eq hidle, hsocket₀.repliesTo_eq hidle₀, hlines]

/-! ### Concrete connections -/

/-- A server that knows two lines: the auth frame and one request, in which a letter is not
ASCII. -/
def socketExample : AdminSocketDeps where
  parseJson line :=
    if line = "auth" then
      some (.object [("type", .string "admin_auth"), ("token", .string "token")])
    else if line = "né" then
      some (.object [("jsonrpc", .string "2.0"), ("id", .number 1), ("method", .string "né")])
    else none
  hasMethod method := method = "né"
  validate _ params := .ok params
  verifyJwt _ _ := .ok
    ⟨String.ofList (List.replicate 64 'a'), String.ofList (List.replicate 32 'b')⟩
  resolveForRequest _ _ := .ok none
  dispatchValidated _ _ _ _ := .ok .null

def utf8 (text : String) : Bytes :=
  encodeUtf8 text.toList

/-- The auth frame, and after it the request. -/
def socketLines : List SocketAction :=
  [.data (utf8 "auth\n"), .verified 0, .data (utf8 "né\n"), .resolved 1, .dispatched 1]

/-- The request has succeeded. -/
def requestAnswered (tr : List SocketEvent) (s : AdminSocketState) : Bool :=
  s.calls.isEmpty && decide (receivedBytes tr = utf8 "auth\nné\n") &&
    decide ((handledLines tr).map Prod.fst = ["auth", "né"]) &&
    match repliesTo 1 tr with
    | [.success _ _] => true
    | _ => false

/-- Nothing is in flight, and the chunk is one of these. -/
def quietChunk (chunks : List String) (s : AdminSocketState) : SocketAction → Bool
  | .data data => s.calls.isEmpty && chunks.any fun chunk => decide (data = utf8 chunk)
  | _ => true

theorem exists_oneByOne : ∃ tr s, Run (adminSocket socketExample) OneByOne tr s ∧
    requestAnswered tr s = true := by
  obtain ⟨tr, s, hrun, h⟩ := exists_run_of_exec (adminSocket socketExample)
    (fun s a => s.buffer.isEmpty && quietChunk ["auth\n", "né\n"] s a) socketLines
    requestAnswered (by decide +kernel)
  refine ⟨tr, s, hrun.mono fun s a hok => ?_, h⟩
  obtain ⟨hbuffer, hquiet⟩ := Bool.and_eq_true_iff.1 hok
  cases a with
  | data data =>
    obtain ⟨hcalls, hchunk⟩ := Bool.and_eq_true_iff.1 hquiet
    refine ⟨List.isEmpty_iff.1 hbuffer, OrdMap.get?_of_isEmpty hcalls, ?_⟩
    obtain ⟨chunk, hmem, hdata⟩ := List.any_eq_true.1 hchunk
    rw [of_decide_eq_true hdata]
    have hlines : chunk = "auth\n" ∨ chunk = "né\n" := by simpa using hmem
    rcases hlines with rfl | rfl
    · exact ⟨"auth".toList, by decide, rfl⟩
    · exact ⟨"né".toList, by decide, rfl⟩
  | _ => exact trivial

/-- A chunk that ends in the middle of a line does nothing wrong. -/
theorem adminSocket_framing_pieces : ∃ tr s tr₀ s₀,
    Run (adminSocket socketExample) (Undisturbed socketExample) tr s ∧
      Run (adminSocket socketExample) OneByOne tr₀ s₀ ∧ handledLines tr = handledLines tr₀ ∧
      repliesTo 1 tr = repliesTo 1 tr₀ := by
  obtain ⟨tr, s, hrun, h⟩ := exists_run_of_exec (adminSocket socketExample)
    (fun s a => quietChunk ["au", "th\nn", "é", "\n"] s a &&
      match a with
      | .data data => decide ((trimmedLines (s.breakBuffer data).1).length ≤ 1)
      | _ => true)
    [.data (utf8 "au"), .data (utf8 "th\nn"), .verified 0, .data (utf8 "é"), .data (utf8 "\n"),
      .resolved 1, .dispatched 1]
    requestAnswered (by decide +kernel)
  obtain ⟨tr₀, s₀, hrun₀, h₀⟩ := exists_oneByOne
  have hundisturbed : Run (adminSocket socketExample) (Undisturbed socketExample) tr s := by
    refine hrun.mono fun s a hok => ?_
    obtain ⟨hquiet, hlength⟩ := Bool.and_eq_true_iff.1 hok
    cases a with
    | data data =>
      obtain ⟨hcalls, hchunk⟩ := Bool.and_eq_true_iff.1 hquiet
      obtain ⟨chunk, hmem, hdata⟩ := List.any_eq_true.1 hchunk
      have hpieces : chunk = "au" ∨ chunk = "th\nn" ∨ chunk = "é" ∨ chunk = "\n" := by
        simpa using hmem
      have hhead : chunk.toList.head? ≠ some byteOrderMark := by
        rcases hpieces with rfl | rfl | rfl | rfl
        · decide
        · decide
        · decide
        · decide
      refine ⟨⟨chunk.toList, of_decide_eq_true hdata, fun hbom => absurd hbom hhead⟩, ?_⟩
      -- nothing is in flight when the only line of the chunk is handled
      have hlines := of_decide_eq_true hlength
      revert hlines
      cases trimmedLines (s.breakBuffer data).1 with
      | nil => exact fun _ => trivial
      | cons line lines =>
        intro hlines
        have hnil : lines = [] := List.length_eq_zero_iff.1 (Nat.le_zero.1 (Nat.le_of_succ_le_succ
          hlines))
        subst hnil
        refine ⟨fun _ => ?_, trivial⟩
        rintro ⟨number, token, session, hcall, -⟩
        have hnone := OrdMap.get?_of_isEmpty hcalls number
        rw [show s.calls.get? number = some (.verifying token) from hcall] at hnone
        cases hnone
    | _ => exact trivial
  unfold requestAnswered at h h₀
  simp only [Bool.and_eq_true, decide_eq_true_eq] at h h₀
  obtain ⟨hlines, hreplies⟩ := @adminSocket_framing _ _ _ _ _ [] hundisturbed hrun₀
    (by rw [h.1.1.2, h₀.1.1.2]; rfl) List.not_mem_nil
  exact ⟨tr, s, tr₀, s₀, hundisturbed, hrun₀, hlines,
    hreplies 1 (OrdMap.get?_of_isEmpty h.1.1.1 1) (OrdMap.get?_of_isEmpty h₀.1.1.1 1)⟩

/-- The only reply is an error. -/
def answeredInvalid : List AdminReply → Bool
  | [.error none (-32000) (.text _)] => true
  | _ => false

/-- **Chunks matter.** A request that comes with the auth frame is taken for the first frame, and a
letter whose bytes come in two chunks is lost; line by line the request is answered. -/
theorem chunked_request_lost : ∃ tr₀ s₀ tr s tr' s',
    Run (adminSocket socketExample) OneByOne tr₀ s₀ ∧
      Run (adminSocket socketExample) (fun _ _ => True) tr s ∧
      Run (adminSocket socketExample) (fun _ _ => True) tr' s' ∧
      receivedBytes tr = receivedBytes tr₀ ∧ receivedBytes tr' = receivedBytes tr₀ ∧
      repliesTo 1 tr ≠ repliesTo 1 tr₀ ∧
      (handledLines tr').map Prod.fst ≠ (handledLines tr₀).map Prod.fst := by
  obtain ⟨tr₀, s₀, hrun₀, h₀⟩ := exists_oneByOne
  obtain ⟨tr, s, hrun, h⟩ := exists_run_of_exec_of_forall (adminSocket socketExample)
    (fun _ _ => True) [.data (utf8 "auth\nné\n"), .verified 0]
    (fun tr s => s.calls.isEmpty && decide (receivedBytes tr = utf8 "auth\nné\n") &&
      answeredInvalid (repliesTo 1 tr))
    (fun _ _ _ => trivial) (by decide +kernel)
  obtain ⟨tr', s', hrun', h'⟩ := exists_run_of_exec_of_forall (adminSocket socketExample)
    (fun _ _ => True)
    [.data (utf8 "auth\n"), .verified 0, .data [0x6e, 0xc3], .data [0xa9, 0x0a]]
    (fun tr s => s.calls.isEmpty && decide (receivedBytes tr = utf8 "auth\nné\n") &&
      decide ((handledLines tr).map Prod.fst = ["auth", "n\uFFFD\uFFFD"]))
    (fun _ _ _ => trivial) (by decide +kernel)
  unfold requestAnswered at h₀
  simp only [Bool.and_eq_true, decide_eq_true_eq] at h₀ h h'
  obtain ⟨⟨⟨-, hbytes₀⟩, htexts₀⟩, hreply₀⟩ := h₀
  obtain ⟨⟨-, hbytes⟩, hreply⟩ := h
  obtain ⟨⟨-, hbytes'⟩, htexts'⟩ := h'
  refine ⟨tr₀, s₀, tr, s, tr', s', hrun₀, hrun, hrun', hbytes.trans hbytes₀.symm,
    hbytes'.trans hbytes₀.symm, fun heq => ?_, ?_⟩
  · -- an error is no success
    rw [heq] at hreply
    unfold answeredInvalid at hreply
    split at hreply
    · next herror =>
      rw [herror] at hreply₀
      cases hreply₀
    · cases hreply
  · rw [htexts', htexts₀]
    decide

end Signet
