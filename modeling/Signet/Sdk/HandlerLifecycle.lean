import Signet.Sdk.Handler

/-!
# The lifecycle of the handler

`Transition.Sound` is what every step should keep: a closed handler stays closed, and a handler that
has ended has completed its stream and rejected its requests. Four branches before the auth response
do not: an invalid frame, an `auth_error` and an auth timeout close the handler and leave the stream
open, and the close listener neither completes the stream for a code that is not retryable nor asks
whether the handler is closed already before it reconnects. `Handler.Meets` excludes exactly them.

The proof rests on `Handler.Inv`: a socket that has not closed is the current one, in the phase that
the state says, or the handler is closed and the socket about to close.

* `Inv.perform`: every step that meets the condition keeps the invariant.
* `sound_iff_meets`: a step from it is sound exactly when it meets the condition.
* `lifecycle_iff`: the same for whole runs.
-/

namespace Signet.Sdk

open Lib

/-! ### What should hold -/

namespace Handler

/-- The handler is closed, or disconnected after a connection attempt. -/
def Ended (h : Handler) : Prop :=
  h.state = .closed ∨ h.state = .disconnected ∧ h.attempted = true

/-- Once it has ended, its stream is complete and nothing is pending. -/
def Settled (h : Handler) : Prop :=
  h.Ended → h.streamComplete = true ∧ h.pending = []

end Handler

/-- The step ends in a settled handler and does not leave the closed state. -/
def Transition.Sound (r : Transition) : Prop :=
  r.after.Settled ∧ (r.before.state = .closed → r.after.state = .closed)

/-- In place of an auth response, the frame closes the handler. -/
def Frame.refusesAuth : Frame → Bool
  | .invalid => true
  | .json type _ _ => type == some "auth_error"

/-- The condition of an event: authentication is neither refused nor too late, and a socket that
closes before its auth response does so with a retryable code as long as the handler is not closed,
with another one afterwards. -/
def Handler.Meets (h : Handler) : Event → Prop
  | .socketMessage i frame => (h.sockets i).authHandled = true ∨ frame.refusesAuth = false
  | .authTimeout i => (h.sockets i).authHandled = true ∨ h.state = .closed
  | .socketClose i code =>
    (h.sockets i).authHandled = true ∨ (isRetryable code = true ↔ h.state ≠ .closed)
  | _ => True

/-! ### The invariant -/

/-- What the state says about the current socket. -/
def Attached : HandlerState → Socket → Prop
  | .connecting, socket => socket.readyState = .connecting
  | .authenticating, socket => socket.readyState = .opened
  | .connected, socket => socket.authHandled = true ∧ socket.readyState ≠ .connecting
  | _, _ => False

namespace Handler

/-- The invariant of runs whose steps meet the condition. -/
structure Inv (h : Handler) : Prop where
  socket : ∀ i, (h.sockets i).readyState ≠ .closed →
    h.state = .closed ∧ (h.sockets i).readyState = .closing ∨
      h.ws = some i ∧ Attached h.state (h.sockets i)
  unhandled : ∀ i, (h.sockets i).authHandled = false → (h.sockets i).readyState ≠ .closed
  current : h.state = .connected → h.ws ≠ none
  monitor : ∀ m, h.running m = true → h.state = .connected ∧ h.heartbeatMonitor = some m
  pending : h.state ≠ .connected → h.pending = []
  complete : h.Ended → h.streamComplete = true
  incomplete : h.state ≠ .closed → h.state ≠ .disconnected → h.streamComplete = false

variable {config : HandlerConfig} {h : Handler}

theorem not_ended (hclosed : h.state ≠ .closed) (hdisconnected : h.state ≠ .disconnected) :
    ¬ h.Ended :=
  fun hended => hended.elim hclosed fun hended => hdisconnected hended.1

theorem inv_initial : initial.Inv where
  socket i hi := absurd rfl hi
  unhandled i hi := by cases hi
  current hstate := by cases hstate
  monitor m hm := by cases hm
  pending _ := rfl
  complete hended := by
    rcases hended with hclosed | ⟨-, hattempted⟩
    · cases hclosed
    · cases hattempted
  incomplete _ _ := rfl

theorem Inv.settled (hinv : h.Inv) : h.Settled := by
  intro hended
  refine ⟨hinv.complete hended, hinv.pending ?_⟩
  rcases hended with hclosed | ⟨hdisconnected, -⟩
  · rw [hclosed]
    nofun
  · rw [hdisconnected]
    nofun

/-- Outside the closed state, a socket that has not closed is the current one. -/
theorem Inv.attached (hinv : h.Inv) (hstate : h.state ≠ .closed) {i : Nat}
    (hi : (h.sockets i).readyState ≠ .closed) : h.ws = some i ∧ Attached h.state (h.sockets i) :=
  (hinv.socket i hi).resolve_left fun hclosed => hstate hclosed.1

theorem Inv.closing (hinv : h.Inv) (hstate : h.state = .closed) {i : Nat}
    (hi : (h.sockets i).readyState ≠ .closed) : (h.sockets i).readyState = .closing := by
  rcases hinv.socket i hi with ⟨-, hclosing⟩ | ⟨-, hattached⟩
  · exact hclosing
  · rw [hstate] at hattached
    exact hattached.elim

/-- There is only one such socket outside the closed state. -/
theorem Inv.closed_of_ne (hinv : h.Inv) (hstate : h.state ≠ .closed) {i j : Nat}
    (hi : (h.sockets i).readyState ≠ .closed) (hne : j ≠ i) :
    (h.sockets j).readyState = .closed := by
  by_contra hj
  have hws := (hinv.attached hstate hi).1
  rw [(hinv.attached hstate hj).1] at hws
  exact hne (Option.some.inj hws)

/-- A monitor only runs while the handler is connected, and then it is the current one. -/
theorem Inv.not_running (hinv : h.Inv) (hstate : h.state ≠ .connected) (m : Nat) :
    h.running m = false := by
  cases hm : h.running m with
  | false => rfl
  | true => exact absurd (hinv.monitor m hm).1 hstate

theorem Inv.stopMonitor_running (hinv : h.Inv) (m : Nat) : h.stopMonitor.running m = false := by
  show (h.running m && h.heartbeatMonitor != some m) = false
  cases hm : h.running m with
  | false => rfl
  | true => rw [(hinv.monitor m hm).2, Bool.true_and, bne_self_eq_false]

/-- With a socket that has not closed, a handler that is not closed has an open stream. -/
theorem Inv.stream_open (hinv : h.Inv) (hstate : h.state ≠ .closed) {i : Nat}
    (hi : (h.sockets i).readyState ≠ .closed) : h.streamComplete = false := by
  refine hinv.incomplete hstate fun hdisconnected => ?_
  have hattached := (hinv.attached hstate hi).2
  rw [hdisconnected] at hattached
  exact hattached

/-! ### Where a step may leave the handler -/

/-- No socket is left, no monitor runs and nothing is pending. -/
structure Idle (h : Handler) : Prop where
  closed : ∀ i, (h.sockets i).readyState = .closed
  handled : ∀ i, (h.sockets i).authHandled = true
  stopped : ∀ m, h.running m = false
  pending : h.pending = []

/-- An idle handler that is not connected keeps the invariant if its stream is complete exactly
where it must be: of the sockets and monitors nothing is left to say. -/
theorem Idle.inv (hidle : h.Idle) (hstate : h.state ≠ .connected)
    (hcomplete : h.Ended → h.streamComplete = true)
    (hincomplete : h.state ≠ .closed → h.state ≠ .disconnected → h.streamComplete = false) :
    h.Inv where
  socket i hi := absurd (hidle.closed i) hi
  unhandled i hi := absurd (hidle.handled i) (by rw [hi]; nofun)
  current hconnected := absurd hconnected hstate
  monitor m hm := absurd (hidle.stopped m) (by rw [hm]; nofun)
  pending _ := hidle.pending
  complete := hcomplete
  incomplete := hincomplete

/-- **An attempt to reconnect** from an idle handler ends with a complete stream or waits for its
timer. -/
theorem Idle.attemptReconnect (hidle : h.Idle) (hstream : h.streamComplete = false) :
    (h.attemptReconnect config).Inv := by
  unfold Handler.attemptReconnect
  split
  · -- no further attempt: the handler is disconnected, and its stream has ended
    exact Idle.inv ⟨hidle.closed, hidle.handled, hidle.stopped, hidle.pending⟩ nofun
      (fun _ => rfl) fun _ hstate => absurd rfl hstate
  · exact Idle.inv ⟨hidle.closed, hidle.handled, hidle.stopped, hidle.pending⟩ nofun
      (fun hended => absurd hended (not_ended nofun nofun)) fun _ _ => hstream

/-- **A new connection** from an idle handler whose stream is open. -/
theorem Idle.connectInternal (hidle : h.Idle) (hstream : h.streamComplete = false) :
    (h.connectInternal config).Inv := by
  unfold Handler.connectInternal
  dsimp only
  split
  · exact {
      socket := fun i hi => by
        dsimp only at hi ⊢
        by_cases hne : i = h.nextSocket
        · -- the new socket
          subst hne
          rw [Function.update_self]
          exact .inr ⟨rfl, rfl⟩
        · rw [Function.update_of_ne hne] at hi
          exact absurd (hidle.closed i) hi
      unhandled := fun i hi => by
        dsimp only at hi ⊢
        by_cases hne : i = h.nextSocket
        · subst hne
          rw [Function.update_self]
          nofun
        · rw [Function.update_of_ne hne, hidle.handled i] at hi
          cases hi
      current := fun hstate => by cases hstate
      monitor := fun m hm => absurd (hidle.stopped m) (by rw [hm]; nofun)
      pending := fun _ => hidle.pending
      complete := fun hended => absurd hended (not_ended nofun nofun)
      incomplete := fun _ _ => hstream }
  · -- the constructor of the socket has thrown
    exact Idle.inv ⟨hidle.closed, hidle.handled, hidle.stopped, hidle.pending⟩ nofun
      (fun hended => absurd hended (not_ended nofun nofun)) fun _ _ => hstream

/-- A disconnected handler is idle, and so is one that waits to reconnect. -/
theorem Inv.idle (hinv : h.Inv) (hstate : h.state = .disconnected ∨ h.state = .reconnecting) :
    h.Idle := by
  have hclosed : h.state ≠ .closed := by rcases hstate with heq | heq <;> rw [heq] <;> nofun
  have hconnected : h.state ≠ .connected := by rcases hstate with heq | heq <;> rw [heq] <;> nofun
  have hsockets : ∀ i, (h.sockets i).readyState = .closed := by
    intro i
    by_contra hi
    have hattached := (hinv.attached hclosed hi).2
    rcases hstate with heq | heq <;> rw [heq] at hattached <;> exact hattached
  exact {
    closed := hsockets
    handled := fun i => Bool.of_not_eq_false fun hi => hinv.unhandled i hi (hsockets i)
    stopped := hinv.not_running hconnected
    pending := hinv.pending hconnected }

theorem inv_of_closed (hstate : h.state = .closed)
    (hsocket : ∀ i, (h.sockets i).readyState ≠ .closed → (h.sockets i).readyState = .closing)
    (hunhandled : ∀ i, (h.sockets i).authHandled = false → (h.sockets i).readyState ≠ .closed)
    (hstopped : ∀ m, h.running m = false) (hpending : h.pending = [])
    (hstream : h.streamComplete = true) : h.Inv where
  socket i hi := .inl ⟨hstate, hsocket i hi⟩
  unhandled := hunhandled
  current hconnected := by
    rw [hstate] at hconnected
    cases hconnected
  monitor m hm := absurd (hstopped m) (by rw [hm]; nofun)
  pending _ := hpending
  complete _ := hstream
  incomplete hne := absurd hstate hne

theorem Idle.inv_of_closed (hidle : h.Idle) (hstate : h.state = .closed)
    (hstream : h.streamComplete = true) : h.Inv :=
  Handler.inv_of_closed hstate (fun i hi => absurd (hidle.closed i) hi)
    (fun i hi => absurd (hidle.handled i) (by rw [hi]; nofun)) hidle.stopped hidle.pending hstream

/-- From `h` to `g`, the socket `i` has closed, nobody waits for its auth response and the monitor
is stopped. -/
structure ClosedAt (h g : Handler) (i : Nat) : Prop where
  closed : (g.sockets i).readyState = .closed
  handled : (g.sockets i).authHandled = true
  others : ∀ j, j ≠ i → g.sockets j = h.sockets j
  running : g.running = h.stopMonitor.running

/-- Outside the closed state this leaves an idle handler. -/
theorem Inv.idle_of_close {g : Handler} {i : Nat} (hinv : h.Inv) (hstate : h.state ≠ .closed)
    (hi : (h.sockets i).readyState ≠ .closed) (hclose : ClosedAt h g i)
    (hpending : g.pending = []) : g.Idle where
  closed j := by
    by_cases hne : j = i
    · rw [hne, hclose.closed]
    · rw [hclose.others j hne]
      exact hinv.closed_of_ne hstate hi hne
  handled j := by
    by_cases hne : j = i
    · rw [hne, hclose.handled]
    · rw [hclose.others j hne]
      exact Bool.of_not_eq_false fun hj =>
        hinv.unhandled j hj (hinv.closed_of_ne hstate hi hne)
  stopped m := by
    rw [hclose.running]
    exact hinv.stopMonitor_running m
  pending := hpending

theorem Inv.closed_of_close {g : Handler} {i : Nat} (hinv : h.Inv) (hstate : h.state = .closed)
    (hclose : ClosedAt h g i) (hg : g.state = .closed) (hpending : g.pending = [])
    (hstream : g.streamComplete = true) : g.Inv := by
  refine Handler.inv_of_closed hg (fun j hj => ?_) (fun j hj => ?_) (fun m => ?_) hpending hstream
  · have hne : j ≠ i := fun heq => hj (by rw [heq, hclose.closed])
    rw [hclose.others j hne] at hj ⊢
    exact hinv.closing hstate hj
  · have hne : j ≠ i := by
      rintro rfl
      rw [hclose.handled] at hj
      cases hj
    rw [hclose.others j hne] at hj ⊢
    exact hinv.unhandled j hj
  · rw [hclose.running]
    exact hinv.stopMonitor_running m

/-! ### The steps -/

/-- A socket may lose its timer, and its auth response may become handled. -/
theorem Inv.setSocket (hinv : h.Inv) {i : Nat} {socket : Socket}
    (hready : socket.readyState = (h.sockets i).readyState)
    (hhandled : (h.sockets i).authHandled = true → socket.authHandled = true) :
    (h.setSocket i socket).Inv where
  socket j hj := by
    show h.state = .closed ∧ _ ∨ h.ws = some j ∧ Attached h.state _
    by_cases hne : j = i
    · subst hne
      rw [setSocket_self] at hj ⊢
      rw [hready] at hj ⊢
      refine (hinv.socket j hj).imp_right fun hcurrent => ⟨hcurrent.1, ?_⟩
      have hattached := hcurrent.2
      cases hstate : h.state with
      | connecting =>
        rw [hstate] at hattached
        exact hready.trans hattached
      | authenticating =>
        rw [hstate] at hattached
        exact hready.trans hattached
      | connected =>
        rw [hstate] at hattached
        exact ⟨hhandled hattached.1, hready ▸ hattached.2⟩
      | disconnected | reconnecting | closed =>
        rw [hstate] at hattached
        exact hattached
    · rw [setSocket_of_ne h hne] at hj ⊢
      exact hinv.socket j hj
  unhandled j hj := by
    by_cases hne : j = i
    · subst hne
      rw [setSocket_self] at hj ⊢
      rw [hready]
      refine hinv.unhandled j (Bool.of_not_eq_true fun htrue => ?_)
      rw [hhandled htrue] at hj
      cases hj
    · rw [setSocket_of_ne h hne] at hj ⊢
      exact hinv.unhandled j hj
  current := hinv.current
  monitor := hinv.monitor
  pending := hinv.pending
  complete := hinv.complete
  incomplete := hinv.incomplete

theorem Inv.connect (hinv : h.Inv) : (h.connect config).Inv := by
  unfold Handler.connect
  split
  · next hstate =>
    have hidle := hinv.idle (.inl hstate)
    exact Idle.connectInternal ⟨hidle.closed, hidle.handled, hidle.stopped, hidle.pending⟩ rfl
  · exact hinv

theorem Inv.disconnect (hinv : h.Inv) : h.disconnect.Inv := by
  have hready : ∀ i, (h.disconnect.sockets i).readyState =
      if h.ws = some i then (h.sockets i).readyState.close else (h.sockets i).readyState :=
    readyState_closeSocket h.stopMonitor.rejectAll
  have hhandled : ∀ i, (h.disconnect.sockets i).authHandled = (h.sockets i).authHandled :=
    authHandled_closeSocket h.stopMonitor.rejectAll
  refine inv_of_closed rfl (fun i hi => ?_) (fun i hi => ?_) hinv.stopMonitor_running rfl rfl
  · rw [hready] at hi ⊢
    by_cases hws : h.ws = some i
    · rw [if_pos hws] at hi ⊢
      exact ReadyState.close_eq_closing hi
    · -- it is not the current one, so the handler was closed before
      rw [if_neg hws] at hi ⊢
      exact (hinv.socket i hi).elim And.right fun hcurrent => absurd hcurrent.1 hws
  · rw [hhandled] at hi
    rw [hready]
    have hopen := hinv.unhandled i hi
    split
    · rwa [Ne, ReadyState.close_eq_closed_iff]
    · exact hopen

theorem Inv.sendRequest (hinv : h.Inv) (requestId : String) : (h.sendRequest requestId).Inv := by
  unfold Handler.sendRequest
  split
  · next hconnected =>
    exact {
      socket := hinv.socket
      unhandled := hinv.unhandled
      current := hinv.current
      monitor := hinv.monitor
      pending := fun hne => absurd hconnected.1 hne
      complete := hinv.complete
      incomplete := hinv.incomplete }
  · exact hinv

theorem Inv.resolve (hinv : h.Inv) (requestId : String) : (h.resolve requestId).Inv where
  socket := hinv.socket
  unhandled := hinv.unhandled
  current := hinv.current
  monitor := hinv.monitor
  pending hstate := by
    show h.pending.filter _ = []
    rw [hinv.pending hstate, List.filter_nil]
  complete := hinv.complete
  incomplete := hinv.incomplete

theorem Inv.connecting (hinv : h.Inv) {i : Nat} (hi : (h.sockets i).readyState = .connecting) :
    h.state = .connecting ∧ h.ws = some i := by
  have hopen : (h.sockets i).readyState ≠ .closed := by
    rw [hi]
    nofun
  rcases hinv.socket i hopen with ⟨-, hclosing⟩ | ⟨hws, hattached⟩
  · rw [hi] at hclosing
    cases hclosing
  · refine ⟨?_, hws⟩
    cases hstate : h.state with
    | connecting => rfl
    | authenticating =>
      rw [hstate, Attached, hi] at hattached
      cases hattached
    | connected =>
      rw [hstate] at hattached
      exact absurd hi hattached.2
    | disconnected | reconnecting | closed =>
      rw [hstate] at hattached
      exact hattached.elim

theorem Inv.onOpen (hinv : h.Inv) {i : Nat} (hi : (h.sockets i).readyState = .connecting) :
    (h.onOpen i).Inv := by
  obtain ⟨hstate, hws⟩ := hinv.connecting hi
  have hopen : (h.sockets i).readyState ≠ .closed := by
    rw [hi]
    nofun
  have hne : h.state ≠ .connected := by
    rw [hstate]
    nofun
  have hlive : h.state ≠ .closed := by
    rw [hstate]
    nofun
  exact {
    socket := fun j hj => by
      by_cases hji : j = i
      · subst hji
        refine .inr ⟨hws, ?_⟩
        show ((h.setSocket j _).sockets j).readyState = .opened
        rw [setSocket_self]
      · replace hj : ((h.setSocket i _).sockets j).readyState ≠ .closed := hj
        rw [setSocket_of_ne h hji] at hj
        exact absurd (hinv.closed_of_ne hlive hopen hji) hj
    unhandled := fun j hj => by
      show ((h.setSocket i _).sockets j).readyState ≠ .closed
      replace hj : ((h.setSocket i _).sockets j).authHandled = false := hj
      by_cases hji : j = i
      · subst hji
        rw [setSocket_self]
        nofun
      · rw [setSocket_of_ne h hji] at hj ⊢
        exact hinv.unhandled j hj
    current := fun hconnected => by cases hconnected
    monitor := fun m hm => by
      replace hm : h.running m = true := hm
      rw [hinv.not_running hne m] at hm
      cases hm
    pending := fun _ => hinv.pending hne
    complete := fun hended => absurd hended (not_ended nofun nofun)
    incomplete := fun _ _ => hinv.stream_open hlive hopen }

theorem Inv.authenticating (hinv : h.Inv) {i : Nat} (hi : (h.sockets i).readyState = .opened)
    (hunhandled : (h.sockets i).authHandled = false) :
    h.state = .authenticating ∧ h.ws = some i := by
  rcases hinv.socket i (hinv.unhandled i hunhandled) with ⟨-, hclosing⟩ | ⟨hws, hattached⟩
  · rw [hi] at hclosing
    cases hclosing
  · refine ⟨?_, hws⟩
    cases hstate : h.state with
    | authenticating => rfl
    | connecting =>
      rw [hstate, Attached, hi] at hattached
      cases hattached
    | connected =>
      rw [hstate, Attached, hunhandled] at hattached
      cases hattached.1
    | disconnected | reconnecting | closed =>
      rw [hstate] at hattached
      exact hattached.elim

theorem Inv.handleAuth (hinv : h.Inv) (i : Nat) : (h.handleAuth i).Inv :=
  hinv.setSocket rfl fun _ => rfl

theorem Inv.onAuthMessage (hinv : h.Inv) {i : Nat} {frame : Frame}
    (hi : (h.sockets i).readyState = .opened) (hunhandled : (h.sockets i).authHandled = false)
    (hframe : frame.refusesAuth = false) : (h.onAuthMessage i frame).Inv := by
  obtain ⟨hstate, hws⟩ := hinv.authenticating hi hunhandled
  have hopen := hinv.unhandled i hunhandled
  have hlive : h.state ≠ .closed := by
    rw [hstate]
    nofun
  have hne : h.state ≠ .connected := by
    rw [hstate]
    nofun
  cases frame with
  | invalid => cases hframe
  | json type credential requestId =>
    rw [Handler.onAuthMessage]
    split
    · have hauth := hinv.handleAuth i
      dsimp only
      split
      · -- the new monitor is the only one
        exact {
          socket := fun j hj => by
            by_cases hji : j = i
            · subst hji
              refine .inr ⟨hws, ?_⟩
              show ((h.setSocket j _).sockets j).authHandled = true ∧
                ((h.setSocket j _).sockets j).readyState ≠ .connecting
              rw [setSocket_self]
              refine ⟨rfl, ?_⟩
              show (h.sockets j).readyState ≠ .connecting
              rw [hi]
              nofun
            · replace hj : ((h.setSocket i _).sockets j).readyState ≠ .closed := hj
              rw [setSocket_of_ne h hji] at hj
              exact absurd (hinv.closed_of_ne hlive hopen hji) hj
          unhandled := hauth.unhandled
          current := fun _ hnone => by
            rw [show h.ws = none from hnone] at hws
            cases hws
          monitor := fun m hm => by
            replace hm : Function.update h.running h.nextMonitor true m = true := hm
            by_cases hnew : m = h.nextMonitor
            · exact ⟨rfl, congrArg some hnew.symm⟩
            · rw [Function.update_of_ne hnew, hinv.not_running hne m] at hm
              cases hm
          pending := fun hconnected => absurd rfl hconnected
          complete := fun hended => absurd hended (not_ended nofun nofun)
          incomplete := fun _ _ => hinv.stream_open hlive hopen }
      · exact hauth
    · split
      · next herror =>
        rw [herror] at hframe
        cases hframe
      · exact hinv

theorem Inv.handleFrame (hinv : h.Inv) (frame : Frame) : (h.handleFrame frame).Inv := by
  cases frame with
  | invalid => exact hinv
  | json type credential requestId =>
    unfold Handler.handleFrame
    dsimp only
    split
    · exact hinv
    · cases requestId with
      | none => exact hinv
      | some id => exact hinv.resolve id

theorem Inv.onMessage (hinv : h.Inv) {i : Nat} {frame : Frame}
    (hi : (h.sockets i).readyState = .opened)
    (hmeets : (h.sockets i).authHandled = true ∨ frame.refusesAuth = false) :
    (h.onMessage i frame).Inv := by
  unfold Handler.onMessage
  split
  · exact hinv.handleFrame frame
  · next hunhandled =>
    exact hinv.onAuthMessage hi (Bool.of_not_eq_true hunhandled)
      (hmeets.resolve_left hunhandled)

theorem closedAt_of_unhandled (h : Handler) (i : Nat) :
    ClosedAt h
      ((h.setSocket i { h.sockets i with readyState := .closed }).stopMonitor.handleAuth i) i where
  closed := by
    show ((setSocket _ i _).sockets i).readyState = .closed
    rw [setSocket_self]
    show ((h.setSocket i _).sockets i).readyState = .closed
    rw [setSocket_self]
  handled := by
    show ((setSocket _ i _).sockets i).authHandled = true
    rw [setSocket_self]
  others j hne := by
    show (setSocket _ i _).sockets j = h.sockets j
    rw [setSocket_of_ne _ hne]
    exact setSocket_of_ne h hne _
  running := rfl

theorem closedAt_of_handled {i : Nat} (hhandled : (h.sockets i).authHandled = true) :
    ClosedAt h (h.setSocket i { h.sockets i with readyState := .closed }).stopMonitor i where
  closed := by
    show ((h.setSocket i _).sockets i).readyState = .closed
    rw [setSocket_self]
  handled := by
    show ((h.setSocket i _).sockets i).authHandled = true
    rw [setSocket_self]
    exact hhandled
  others j hne := setSocket_of_ne h hne _
  running := rfl

/-- **The close listener.** Outside the closed state it leaves an idle handler, which reconnects or
ends with a complete stream; in the closed state it only takes the socket away. -/
theorem Inv.onClose (hinv : h.Inv) {i : Nat} {code : Nat}
    (hi : (h.sockets i).readyState ≠ .closed)
    (hmeets : (h.sockets i).authHandled = true ∨ (isRetryable code = true ↔ h.state ≠ .closed)) :
    (h.onClose config i code).Inv := by
  unfold Handler.onClose
  dsimp only
  split
  · next hunhandled =>
    -- before the auth response
    have hclose := closedAt_of_unhandled h i
    have hiff : isRetryable code = true ↔ h.state ≠ .closed :=
      hmeets.resolve_left (Bool.eq_false_iff.1 hunhandled)
    split
    · next hcode =>
      have hstate : h.state = .closed := by
        by_contra hlive
        rw [hiff.2 hlive] at hcode
        cases hcode
      exact hinv.closed_of_close hstate
        ⟨hclose.closed, hclose.handled, hclose.others, hclose.running⟩ rfl
        (hinv.pending (by rw [hstate]; nofun)) (hinv.complete (.inl hstate))
    · next hcode =>
      have hlive : h.state ≠ .closed := hiff.1 (Bool.of_not_eq_false hcode)
      refine Idle.attemptReconnect ?_ (hinv.stream_open hlive hi)
      exact hinv.idle_of_close hlive hi
        ⟨hclose.closed, hclose.handled, hclose.others, hclose.running⟩ rfl
  · next hhandled =>
    -- after it
    have hclose := closedAt_of_handled (Bool.of_not_eq_false hhandled)
    by_cases hstate : h.state = .closed
    · rw [if_neg (not_not.2 hstate)]
      split
      · exact hinv.closed_of_close hstate
          ⟨hclose.closed, hclose.handled, hclose.others, hclose.running⟩ rfl rfl rfl
      · exact hinv.closed_of_close hstate
          ⟨hclose.closed, hclose.handled, hclose.others, hclose.running⟩ hstate rfl
          (hinv.complete (.inl hstate))
    · rw [if_pos hstate]
      split
      · refine Idle.inv_of_closed ?_ rfl rfl
        exact hinv.idle_of_close hstate hi
          ⟨hclose.closed, hclose.handled, hclose.others, hclose.running⟩ rfl
      · refine Idle.attemptReconnect ?_ (hinv.stream_open hstate hi)
        exact hinv.idle_of_close hstate hi
          ⟨hclose.closed, hclose.handled, hclose.others, hclose.running⟩ rfl

/-- The auth timeout, when it finds the handler closed. -/
theorem Inv.onAuthTimeout (hinv : h.Inv) {i : Nat}
    (hmeets : (h.sockets i).authHandled = true ∨ h.state = .closed) : (h.onAuthTimeout i).Inv := by
  unfold Handler.onAuthTimeout
  split
  · next hunhandled =>
    have hstate : h.state = .closed := hmeets.resolve_left (Bool.eq_false_iff.1 hunhandled)
    refine inv_of_closed rfl (fun j hj => ?_) (fun j hj => ?_)
      (hinv.not_running (by rw [hstate]; nofun)) (hinv.pending (by rw [hstate]; nofun))
      (hinv.complete (.inl hstate))
    · show ((h.setSocket i _).sockets j).readyState = .closing
      replace hj : ((h.setSocket i _).sockets j).readyState ≠ .closed := hj
      by_cases hne : j = i
      · subst hne
        rw [setSocket_self] at hj ⊢
        exact ReadyState.close_eq_closing hj
      · rw [setSocket_of_ne h hne] at hj ⊢
        exact hinv.closing hstate hj
    · show ((h.setSocket i _).sockets j).readyState ≠ .closed
      replace hj : ((h.setSocket i _).sockets j).authHandled = false := hj
      have hne : j ≠ i := by
        rintro rfl
        rw [setSocket_self] at hj
        cases hj
      rw [setSocket_of_ne h hne] at hj ⊢
      exact hinv.unhandled j hj
  · exact hinv.setSocket rfl id

theorem Inv.onReconnectTimer (hinv : h.Inv) : (h.onReconnectTimer config).Inv := by
  have hcounted : { h with reconnectTimers := h.reconnectTimers - 1 }.Inv :=
    ⟨hinv.socket, hinv.unhandled, hinv.current, hinv.monitor, hinv.pending, hinv.complete,
      hinv.incomplete⟩
  unfold Handler.onReconnectTimer
  dsimp only
  split
  · exact hcounted
  · next hreconnecting =>
    have hstate : h.state = .reconnecting := not_not.1 hreconnecting
    have hidle := hcounted.idle (.inr hstate)
    have hstream : h.streamComplete = false :=
      hinv.incomplete (by rw [hstate]; nofun) (by rw [hstate]; nofun)
    split
    · exact hidle.connectInternal hstream
    · next hinvalid =>
      -- the constructor throws, and there is no new socket
      unfold Handler.connectInternal
      rw [if_neg hinvalid]
      exact Idle.attemptReconnect
        ⟨hidle.closed, hidle.handled, hidle.stopped, hidle.pending⟩ hstream

/-- A connected handler has a current socket, which `handleConnectionDead` closes. -/
theorem Inv.handleConnectionDead (hinv : h.Inv) (hstate : h.state = .connected) :
    (h.handleConnectionDead config).Inv := by
  obtain ⟨i, hws⟩ := Option.ne_none_iff_exists'.1 (hinv.current hstate)
  have hlive : h.state ≠ .closed := by
    rw [hstate]
    nofun
  have hready : ∀ j, (h.stopMonitor.closeSocket.sockets j).readyState =
      if h.ws = some j then (h.sockets j).readyState.close else (h.sockets j).readyState :=
    readyState_closeSocket h.stopMonitor
  have hhandled : ∀ j, (h.stopMonitor.closeSocket.sockets j).authHandled =
      (h.sockets j).authHandled :=
    authHandled_closeSocket h.stopMonitor
  have hopen : ∀ j, (h.stopMonitor.closeSocket.sockets j).readyState ≠ .closed ↔
      (h.sockets j).readyState ≠ .closed := by
    intro j
    rw [hready]
    split
    · rw [Ne, ReadyState.close_eq_closed_iff]
    · exact Iff.rfl
  unfold Handler.handleConnectionDead
  dsimp only
  rw [show h.stopMonitor.ws = some i from hws]
  exact {
    socket := fun j hj => by
      obtain ⟨hcurrent, hattached⟩ := hinv.attached hlive ((hopen j).1 hj)
      rw [hstate] at hattached
      refine .inr ⟨hcurrent, ?_⟩
      show Attached h.state _
      rw [hstate]
      refine ⟨?_, ?_⟩
      · rw [hhandled]
        exact hattached.1
      · rw [hready, if_pos hcurrent]
        exact ReadyState.close_ne_connecting
    unhandled := fun j hj => by
      rw [hhandled] at hj
      exact (hopen j).2 (hinv.unhandled j hj)
    current := fun _ hnone => by
      rw [show h.ws = none from hnone] at hws
      cases hws
    monitor := fun m hm => by
      replace hm : h.stopMonitor.running m = true := hm
      rw [hinv.stopMonitor_running] at hm
      cases hm
    pending := fun hne => absurd hstate hne
    complete := hinv.complete
    incomplete := hinv.incomplete }

theorem Inv.onHeartbeatDead (hinv : h.Inv) {m : Nat} (hm : h.running m = true) :
    (h.onHeartbeatDead config m).Inv := by
  have hfired : { h with running := Function.update h.running m false }.Inv := {
    socket := hinv.socket
    unhandled := hinv.unhandled
    current := hinv.current
    monitor := fun k hk => by
      replace hk : Function.update h.running m false k = true := hk
      by_cases hne : k = m
      · rw [hne, Function.update_self] at hk
        cases hk
      · rw [Function.update_of_ne hne] at hk
        exact hinv.monitor k hk
    pending := hinv.pending
    complete := hinv.complete
    incomplete := hinv.incomplete }
  exact hfired.handleConnectionDead (hinv.monitor m hm).1

/-- **One step.** -/
theorem Inv.perform (hinv : h.Inv) {event : Event} (henabled : h.Enabled event)
    (hmeets : h.Meets event) : (h.perform config event).Inv := by
  cases event with
  | connect => exact hinv.connect
  | disconnect => exact hinv.disconnect
  | sendRequest requestId => exact hinv.sendRequest requestId
  | socketOpen i => exact hinv.onOpen henabled
  | socketMessage i frame => exact hinv.onMessage henabled hmeets
  | socketClose i code => exact hinv.onClose henabled hmeets
  | authTimeout i => exact hinv.onAuthTimeout hmeets
  | reconnectTimer => exact hinv.onReconnectTimer
  | requestTimeout requestId => exact hinv.resolve requestId
  | heartbeatDead m => exact hinv.onHeartbeatDead henabled

/-! ### The closed state -/

/-- A step that meets the condition stays in the closed state. -/
theorem Inv.stays_closed (hinv : h.Inv) {event : Event} (henabled : h.Enabled event)
    (hmeets : h.Meets event) (hstate : h.state = .closed) :
    (h.perform config event).state = .closed := by
  cases event with
  | connect =>
    show (h.connect config).state = .closed
    unfold Handler.connect
    rw [hstate]
    exact hstate
  | disconnect => rfl
  | sendRequest requestId =>
    show (h.sendRequest requestId).state = .closed
    unfold Handler.sendRequest
    split <;> exact hstate
  | socketOpen i =>
    rw [(hinv.connecting henabled).1] at hstate
    cases hstate
  | socketMessage i frame =>
    -- no socket is open any more
    have hclosing := hinv.closing hstate (i := i) (by rw [show _ = _ from henabled]; nofun)
    rw [show _ = _ from henabled] at hclosing
    cases hclosing
  | socketClose i code =>
    show (h.onClose config i code).state = .closed
    unfold Handler.onClose
    dsimp only
    split
    · next hunhandled =>
      have hiff : isRetryable code = true ↔ h.state ≠ .closed :=
        Or.resolve_left hmeets (Bool.eq_false_iff.1 hunhandled)
      split
      · rfl
      · next hcode => exact absurd hstate (hiff.1 (Bool.of_not_eq_false hcode))
    · split
      · rfl
      · split
        · next hlive => exact absurd hstate hlive
        · exact hstate
  | authTimeout i =>
    show (h.onAuthTimeout i).state = .closed
    unfold Handler.onAuthTimeout
    split
    · rfl
    · exact hstate
  | reconnectTimer =>
    show (h.onReconnectTimer config).state = .closed
    unfold Handler.onReconnectTimer
    dsimp only
    rw [if_pos (by rw [hstate]; nofun)]
    exact hstate
  | requestTimeout requestId => exact hstate
  | heartbeatDead m =>
    have hconnected := (hinv.monitor m henabled).1
    rw [hstate] at hconnected
    cases hconnected

/-! ### Where the condition fails -/

theorem not_settled (hstate : h.state = .closed) (hstream : h.streamComplete = false) :
    ¬ h.Settled := by
  intro hsettled
  have hcomplete := (hsettled (.inl hstate)).1
  rw [hstream] at hcomplete
  cases hcomplete

/-- Before the auth response, a close with a retryable code leaves the closed state, too. -/
theorem onClose_lost {i : Nat} {code : Nat} (hunhandled : (h.sockets i).authHandled = false)
    (hcode : isRetryable code = true) : (h.onClose config i code).state ≠ .closed := by
  unfold Handler.onClose
  dsimp only
  rw [if_pos hunhandled, if_neg (by rw [hcode]; nofun)]
  unfold Handler.attemptReconnect
  split <;> nofun

/-- With another code it closes the handler and leaves the stream as it is. -/
theorem onClose_refused (config : HandlerConfig) {i : Nat} {code : Nat}
    (hunhandled : (h.sockets i).authHandled = false) (hcode : isRetryable code = false) :
    (h.onClose config i code).state = .closed ∧
      (h.onClose config i code).streamComplete = h.streamComplete := by
  unfold Handler.onClose
  dsimp only
  rw [if_pos hunhandled, if_pos hcode]
  exact ⟨rfl, rfl⟩

theorem onAuthTimeout_late {i : Nat} (hunhandled : (h.sockets i).authHandled = false) :
    (h.onAuthTimeout i).state = .closed ∧
      (h.onAuthTimeout i).streamComplete = h.streamComplete := by
  unfold Handler.onAuthTimeout
  rw [if_pos hunhandled]
  exact ⟨rfl, rfl⟩

end Handler

open Handler in
/-- **A step is sound exactly when it meets the condition.** -/
theorem sound_iff_meets {config : HandlerConfig} {h : Handler} (hinv : h.Inv) {event : Event}
    (henabled : h.Enabled event) :
    Transition.Sound ⟨h, event, h.perform config event⟩ ↔ h.Meets event := by
  constructor
  · intro hsound
    by_contra hfails
    cases event with
    | connect | disconnect | sendRequest | socketOpen | reconnectTimer | requestTimeout
    | heartbeatDead => exact hfails trivial
    | socketMessage i frame =>
      obtain ⟨hunhandled, hframe⟩ := not_or.1 hfails
      have hfalse := Bool.of_not_eq_true hunhandled
      have hstate := (hinv.authenticating henabled hfalse).1
      have hstream := hinv.incomplete (by rw [hstate]; nofun) (by rw [hstate]; nofun)
      have hsettled : (h.onMessage i frame).Settled := hsound.1
      unfold Handler.onMessage at hsettled
      rw [if_neg hunhandled] at hsettled
      cases frame with
      | invalid => exact not_settled (h := h.onAuthMessage i .invalid) rfl hstream hsettled
      | json type credential requestId =>
        have htype : type = some "auth_error" := beq_iff_eq.1 (Bool.of_not_eq_false hframe)
        rw [htype] at hsettled
        exact not_settled (h := h.onAuthMessage i (.json (some "auth_error") credential requestId))
          rfl hstream hsettled
    | socketClose i code =>
      obtain ⟨hunhandled, hcode⟩ := not_or.1 hfails
      have hfalse := Bool.of_not_eq_true hunhandled
      cases hretry : isRetryable code with
      | true =>
        -- the handler is closed, and the listener makes it reconnect
        have hstate : h.state = .closed := by
          by_contra hlive
          exact hcode (iff_of_true hretry hlive)
        exact onClose_lost hfalse hretry (hsound.2 hstate)
      | false =>
        -- the handler is not closed, and the listener closes it
        have hlive : h.state ≠ .closed := fun hstate =>
          hcode (iff_of_false (by rw [hretry]; nofun) (not_not.2 hstate))
        obtain ⟨hstate, hstream⟩ := onClose_refused config hfalse hretry
        rw [hinv.stream_open hlive henabled] at hstream
        exact not_settled hstate hstream hsound.1
    | authTimeout i =>
      obtain ⟨hunhandled, hlive⟩ := not_or.1 hfails
      have hfalse := Bool.of_not_eq_true hunhandled
      obtain ⟨hstate, hstream⟩ := onAuthTimeout_late hfalse
      rw [hinv.stream_open hlive (hinv.unhandled i hfalse)] at hstream
      exact not_settled hstate hstream hsound.1
  · intro hmeets
    exact ⟨(hinv.perform henabled hmeets).settled, hinv.stays_closed henabled hmeets⟩

/-! ### Runs -/

theorem handlerMachine_step {config : HandlerConfig} {h h' : Handler} {event : Event}
    {es : List Transition} (hstep : (handlerMachine config).step h event = some (h', es)) :
    h.Enabled event ∧ h' = h.perform config event ∧ es = [⟨h, event, h.perform config event⟩] := by
  obtain ⟨henabled, heq⟩ := Option.ite_none_right_eq_some.1 hstep
  obtain ⟨rfl, rfl⟩ := Prod.mk.inj (Option.some.inj heq)
  exact ⟨henabled, rfl, rfl⟩

/-- **The lifecycle of a handler.** In every run, all steps end settled and none leaves the closed
state, exactly when they all meet the condition. -/
theorem lifecycle_iff {config : HandlerConfig} {tr : List Transition} {h : Handler}
    (hrun : Run (handlerMachine config) (fun _ _ => True) tr h) :
    (∀ r ∈ tr, r.Sound) ↔ ∀ r ∈ tr, r.before.Meets r.event := by
  -- as long as the condition is met, the invariant says which of the two sides a step is on
  suffices hall : ((∀ r ∈ tr, r.Sound) ↔ ∀ r ∈ tr, r.before.Meets r.event) ∧
      ((∀ r ∈ tr, r.before.Meets r.event) → h.Inv) from hall.1
  induction hrun with
  | nil => exact ⟨by simp, fun _ => Handler.inv_initial⟩
  | @snoc tr h h' event es hrun _ hstep ih =>
    obtain ⟨henabled, rfl, rfl⟩ := handlerMachine_step hstep
    obtain ⟨hiff, hinv⟩ := ih
    have hsplit : ∀ P : Transition → Prop,
        (∀ r ∈ tr ++ [⟨h, event, h.perform config event⟩], P r) ↔
          (∀ r ∈ tr, P r) ∧ P ⟨h, event, h.perform config event⟩ := by
      intro P
      rw [List.forall_mem_append, List.forall_mem_singleton]
    rw [hsplit, hsplit, hiff]
    refine ⟨and_congr_right fun hmeets => sound_iff_meets (hinv hmeets) henabled, fun hmeets => ?_⟩
    exact (hinv hmeets.1).perform henabled hmeets.2

def reconnectingConfig : HandlerConfig := ⟨true, true, 10⟩

/-- Connect, authenticate and disconnect; the socket closes at last. -/
def plainSession : List Event :=
  [.connect, .socketOpen 0, .socketMessage 0 (.json (some "authenticated") true none),
    .sendRequest "req-1", .disconnect, .socketClose 0 1000]

theorem lifecycle_iff_plainSession :
    ∃ tr h, Run (handlerMachine reconnectingConfig) (fun _ _ => True) tr h ∧
      ((∀ r ∈ tr, r.Sound) ↔ ∀ r ∈ tr, r.before.Meets r.event) ∧
      tr.length = plainSession.length ∧ h.state = .closed := by
  obtain ⟨tr, h, hrun, hend⟩ := exists_run_of_exec_of_forall (handlerMachine reconnectingConfig)
    (fun _ _ => True) plainSession
    (fun tr h => tr.length == plainSession.length && h.state == .closed)
    (fun _ _ _ => trivial) (by decide +kernel)
  obtain ⟨hlength, hstate⟩ := Bool.and_eq_true_iff.1 hend
  exact ⟨tr, h, hrun, lifecycle_iff hrun, beq_iff_eq.1 hlength, beq_iff_eq.1 hstate⟩

/-- A handler that is disconnected while it connects comes back: the close event of its socket finds
no auth response and a retryable code. -/
theorem disconnected_reconnects :
    ∃ tr h, Run (handlerMachine reconnectingConfig) (fun _ _ => True) tr h ∧
      ∃ r ∈ tr, r.before.state = .closed ∧ r.after.state = .reconnecting := by
  obtain ⟨tr, h, hrun, hany⟩ := exists_run_of_exec_of_forall (handlerMachine reconnectingConfig)
    (fun _ _ => True) [.connect, .disconnect, .socketClose 0 1006]
    (fun tr _ => tr.any fun r => r.before.state == .closed && r.after.state == .reconnecting)
    (fun _ _ _ => trivial) (by decide +kernel)
  obtain ⟨r, hr, hstates⟩ := List.any_eq_true.1 hany
  obtain ⟨hbefore, hafter⟩ := Bool.and_eq_true_iff.1 hstates
  exact ⟨tr, h, hrun, r, hr, beq_iff_eq.1 hbefore, beq_iff_eq.1 hafter⟩

end Signet.Sdk
