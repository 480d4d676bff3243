import Signet.Keys.SecretStore
import Signet.Lib.Register

/-!
# The compat secret store as one map

Every key of the store is a register whose value is the vault's, or the legacy one until a
set or delete has returned. `compat_store_regular`: under the condition `sparesLegacy`,
every get returns the value of a last set or delete before it or of an overlapping one, and
no migration writes a legacy value once a set or delete has returned. Without it a get that
migrates puts the legacy value over a set that has returned (`legacy_overwrites_set`).

The proof keeps a source for what the vault holds (`Current`): a source that no write in
flight has overtaken. The legacy entry is there only as long as no set or delete has
returned successfully.
-/

namespace Signet

open Lib

/-! ### The histories of a key -/

/-- What a get says about the key: its value, that it has none, or nothing. -/
def readValue? : Result Bytes → Option (Option Bytes)
  | .ok value => some (some value)
  | .error (.notFoundError _ _) => some none
  | .error _ => none

/-- The store's events as events of a register. -/
def SecretEvent.register : SecretEvent → Option (RegisterEvent Bytes)
  | .getReturned call ended result => (readValue? result).map (.readReturned call ended)
  | .writeReturned call ended result => some (.writeReturned call ended result.isOk)
  | .applied call value => some (.applied call value)
  | .migrated _ _ _ => none

/-- What happened to the key. -/
def secretHistory (tr : List SecretEvent) : List (RegisterEvent Bytes) :=
  tr.filterMap SecretEvent.register

/-- The legacy value is not written over a set or delete: a migration finds its own value in
the vault, or comes before any set or delete has returned. -/
def MigratesFirst (tr : List SecretEvent) : Prop :=
  ∀ time found value, .migrated time found value ∈ tr →
    found = some value ∨
      ∀ call ended, .writeReturned call ended (.ok ()) ∈ tr → time ≤ ended

namespace SecretCall

/-- The write of the call is done but for its return, or takes away a legacy entry that the
store would put in the place of `value`. -/
def overtakes (value : Option Bytes) : SecretCall → Bool
  | setting _ landed => landed
  | deleting deleted => deleted || value.isSome
  | _ => false

/-- The call has changed the vault's file. -/
def reached : SecretCall → Bool
  | setting _ landed | migrating _ landed => landed
  | deleting deleted => deleted
  | _ => false

/-- The call has found no file in the vault and has not looked for a legacy entry yet. -/
def isMissed : SecretCall → Bool
  | missed => true
  | _ => false

def isGet : SecretCall → Bool
  | reading | found _ | missed | migrating _ _ => true
  | _ => false

/-- The call is a get that found no file in the vault. -/
def isMigrating : SecretCall → Bool
  | missed | migrating _ _ => true
  | _ => false

end SecretCall

/-- **The condition.** A get writes a legacy value only while the legacy entry is still there
and no set that has reached the file and no delete is in flight, or over the same value; a set
or a migration takes the legacy entry away only while no get that missed the vault is about to
look for it; and legacy entries can be taken away. -/
def sparesLegacy (s : SecretState) : SecretAction → Bool
  | .land call =>
    match s.calls.get? call with
    | some (.migrating value _) =>
      s.vault = some value ||
        (s.legacy.isSome && !s.calls.values.any (·.overtakes (some value)))
    | _ => true
  | .written _ true removed =>
    s.legacy.isNone || (removed && !s.calls.values.any (·.isMissed))
  | .deleted _ removed => s.legacy.isNone || removed
  | _ => true

/-! ### One step -/

/-- The call whose segment the step is. -/
def SecretAction.caller (s : SecretState) : SecretAction → Nat
  | .get | .set _ | .delete _ => s.now
  | .read call _ | .resume call | .readLegacy call _ | .tear call | .land call
  | .written call _ _ | .deleted call _ => call

/-- **What a step can do.** -/
inductive SecretStep (key : String) (s : SecretState) :
    SecretAction → SecretState → List SecretEvent → Prop
  | getFound (hfile : s.fileExists = true) :
      SecretStep key s .get (s.await s.now .reading) []
  | getMissed (hfile : s.fileExists = false) :
      SecretStep key s .get (s.await s.now .missed) []
  | set {value} : SecretStep key s (.set value) (s.await s.now (.setting value false)) []
  | unlinks (hfile : s.fileExists = true) :
      SecretStep key s (.delete none) (s.unlink.await s.now (.deleting true))
        [.applied s.now none]
  | throws {message} :
      SecretStep key s (.delete (some message)) (s.await s.now (.rejecting message)) []
  | notThere {thrown} (hfile : s.fileExists = false) :
      SecretStep key s (.delete thrown) (s.await s.now (.deleting false)) []
  | reads {call value} (hcall : s.calls.get? call = some .reading)
      (hvault : s.vault = some value) :
      SecretStep key s (.read call true) (s.await call (.found value)) []
  | fails {a phase message} (hcall : s.calls.get? (a.caller s) = some phase)
      (hphase : phase.isGet = true) :
      SecretStep key s a (s.finish (a.caller s))
        [.getReturned (a.caller s) s.now (.error (.internalError message))]
  | returns {call value} (hcall : s.calls.get? call = some (.found value)) :
      SecretStep key s (.resume call) (s.finish call) [.getReturned call s.now (.ok value)]
  | notFound {call ok} (hcall : s.calls.get? call = some .missed) (hlegacy : s.legacy = none) :
      SecretStep key s (.readLegacy call ok) (s.finish call)
        [.getReturned call s.now (.error (.notFoundError "kv-entry" key))]
  | migrates {call value} (hcall : s.calls.get? call = some .missed)
      (hlegacy : s.legacy = some value) :
      SecretStep key s (.readLegacy call true) (s.await call (.migrating value false)) []
  | tears {call phase} (hcall : s.calls.get? call = some phase)
      (hphase : ∃ value, phase = .migrating value false ∨ phase = .setting value false) :
      SecretStep key s (.tear call) { s with torn := true, now := s.now + 1 } []
  | landsLegacy {call value} (hcall : s.calls.get? call = some (.migrating value false)) :
      SecretStep key s (.land call) ((s.write value).await call (.migrating value true))
        [.migrated s.now s.vault value]
  | landsSet {call value} (hcall : s.calls.get? call = some (.setting value false)) :
      SecretStep key s (.land call) ((s.write value).await call (.setting value true))
        [.applied call (some value)]
  | migrated {call value removed} (hcall : s.calls.get? call = some (.migrating value true)) :
      SecretStep key s (.written call true removed) ((s.removeLegacy removed).finish call)
        [.getReturned call s.now (.ok value)]
  /-- A set or delete fails. -/
  | refused {a phase e} (hcall : s.calls.get? (a.caller s) = some phase)
      (hphase : phase ≠ .deleting true) :
      SecretStep key s a (s.finish (a.caller s)) [.writeReturned (a.caller s) s.now (.error e)]
  | wrote {call value removed} (hcall : s.calls.get? call = some (.setting value true)) :
      SecretStep key s (.written call true removed) ((s.removeLegacy removed).finish call)
        [.writeReturned call s.now (.ok ())]
  | deleted {call removed} (hcall : s.calls.get? call = some (.deleting true)) :
      SecretStep key s (.deleted call removed) ((s.removeLegacy removed).finish call)
        [.writeReturned call s.now (.ok ())]
  | deletedLegacy {call removed} (hcall : s.calls.get? call = some (.deleting false))
      (hlegacy : s.legacy.isSome = true) :
      SecretStep key s (.deleted call removed) ((s.removeLegacy removed).finish call)
        [.applied call none, .writeReturned call s.now (.ok ())]

section Step

variable {key : String} {s s' : SecretState} {a : SecretAction} {es : List SecretEvent}

theorem secretStep_sound (h : secretStep key s a = some (s', es)) : SecretStep key s a s' es := by
  cases a with
  | get =>
    cases h
    cases hfile : s.fileExists with
    | true => exact .getFound hfile
    | false => exact .getMissed hfile
  | set value =>
    cases h
    exact .set
  | delete thrown =>
    dsimp only [secretStep] at h
    split at h
    · next hfile =>
      split at h
      · cases h
        exact .unlinks hfile
      · cases h
        exact .throws
    · next hfile =>
      cases h
      exact .notThere (Bool.eq_false_iff.2 hfile)
  | read call ok =>
    dsimp only [secretStep] at h
    split at h
    · next hcall =>
      split at h
      · next hvault =>
        cases h
        exact .reads hcall hvault
      · cases h
        exact .fails (a := .read call _) hcall rfl
    · cases h
  | resume call =>
    dsimp only [secretStep] at h
    split at h
    · next hcall =>
      cases h
      exact .returns hcall
    · next hcall =>
      cases h
      exact .refused (a := .resume call) hcall (by rintro ⟨⟩)
    · cases h
  | readLegacy call ok =>
    dsimp only [secretStep] at h
    split at h
    · next hcall =>
      split at h
      · next hlegacy =>
        cases h
        exact .notFound hcall hlegacy
      · cases h
        exact .fails (a := .readLegacy call false) hcall rfl
      · next hlegacy =>
        cases h
        exact .migrates hcall hlegacy
    · cases h
  | tear call =>
    dsimp only [secretStep] at h
    split at h
    · next value hcall =>
      cases h
      exact .tears hcall ⟨value, .inl rfl⟩
    · next value hcall =>
      cases h
      exact .tears hcall ⟨value, .inr rfl⟩
    · cases h
  | land call =>
    dsimp only [secretStep] at h
    split at h
    · next hcall =>
      cases h
      exact .landsLegacy hcall
    · next hcall =>
      cases h
      exact .landsSet hcall
    · cases h
  | written call ok removed =>
    dsimp only [secretStep] at h
    split at h
    · next hcall =>
      cases h
      exact .migrated hcall
    · next hcall =>
      cases h
      exact .wrote hcall
    · next hcall =>
      cases h
      exact .fails (a := .written call false removed) hcall rfl
    · next hcall =>
      cases h
      exact .refused (a := .written call false removed) hcall (by rintro ⟨⟩)
    · cases h
  | deleted call removed =>
    dsimp only [secretStep] at h
    split at h
    · next hcall =>
      cases h
      exact .deleted hcall
    · next hcall =>
      split at h
      · next hlegacy =>
        cases h
        exact .deletedLegacy hcall hlegacy
      · cases h
        exact .refused (a := .deleted call removed) hcall (by rintro ⟨⟩)
    · cases h

/-- What all steps have in common: the step is one of `call`. -/
structure SecretShape (s : SecretState) (call : Nat) (s' : SecretState) (es : List SecretEvent) :
    Prop where
  known : call = s.now ∨ ∃ phase, s.calls.get? call = some phase
  now : s'.now = s.now + 1
  others : ∀ w, w ≠ call → s'.calls.get? w = s.calls.get? w
  writes : ∀ w ended result, .writeReturned w ended result ∈ es →
    w = call ∧ ended = s.now ∧ s'.calls.get? w = none ∧ ∃ phase, s.calls.get? w = some phase
  reads : ∀ r ended result, .getReturned r ended result ∈ es →
    r = call ∧ ∃ phase, s.calls.get? r = some phase

theorem SecretShape.await {s₀ : SecretState} {call : Nat} {phase : SecretCall}
    (hnow : s₀.now = s.now) (hcalls : s₀.calls = s.calls)
    (hknown : call = s.now ∨ ∃ phase, s.calls.get? call = some phase)
    (hwrites : ∀ w ended result, .writeReturned w ended result ∉ es)
    (hreads : ∀ r ended result, .getReturned r ended result ∉ es) :
    SecretShape s call (s₀.await call phase) es where
  known := hknown
  now := congrArg (· + 1) hnow
  others := by
    intro w hw
    rw [← hcalls]
    exact OrdMap.get?_set_of_ne _ _ hw
  writes := fun w ended result he => absurd he (hwrites w ended result)
  reads := fun r ended result he => absurd he (hreads r ended result)

theorem SecretShape.finish {s₀ : SecretState} {call : Nat} {phase : SecretCall}
    (hnow : s₀.now = s.now) (hcalls : s₀.calls = s.calls)
    (hcall : s.calls.get? call = some phase)
    (hwrites : ∀ w ended result, .writeReturned w ended result ∈ es → w = call ∧ ended = s.now)
    (hreads : ∀ r ended result, .getReturned r ended result ∈ es → r = call) :
    SecretShape s call (s₀.finish call) es where
  known := .inr ⟨phase, hcall⟩
  now := congrArg (· + 1) hnow
  others := by
    intro w hw
    rw [← hcalls]
    exact OrdMap.get?_erase_of_ne _ hw
  writes := by
    intro w ended result he
    obtain ⟨rfl, hended⟩ := hwrites w ended result he
    exact ⟨rfl, hended, OrdMap.get?_erase_self _ _, phase, hcall⟩
  reads := by
    intro r ended result he
    obtain rfl := hreads r ended result he
    exact ⟨rfl, phase, hcall⟩

theorem SecretStep.shape (h : SecretStep key s a s' es) :
    SecretShape s (a.caller s) s' es := by
  cases h with
  | getFound | getMissed | set | unlinks | throws | notThere =>
    exact .await rfl rfl (.inl rfl) (by simp) (by simp)
  | reads hcall | migrates hcall | landsLegacy hcall | landsSet hcall =>
    exact .await rfl rfl (.inr ⟨_, hcall⟩) (by simp) (by simp)
  | tears hcall => exact ⟨.inr ⟨_, hcall⟩, rfl, fun _ _ => rfl, by simp, by simp⟩
  | fails hcall | returns hcall | notFound hcall | migrated hcall | refused hcall | wrote hcall
  | deleted hcall | deletedLegacy hcall =>
    exact .finish rfl rfl hcall (by simp +contextual [SecretAction.caller])
      (by simp +contextual [SecretAction.caller])

end Step

/-! ### The events of a history -/

section History

variable {tr : List SecretEvent} {w ended r : Nat}

theorem writeReturned_of_history {ok : Bool} (h : .writeReturned w ended ok ∈ secretHistory tr) :
    ∃ result, .writeReturned w ended result ∈ tr ∧ ok = result.isOk := by
  obtain ⟨e, he, heq⟩ := List.mem_filterMap.1 h
  cases e with
  | writeReturned w' ended' result =>
    cases heq
    exact ⟨result, he, rfl⟩
  | getReturned call ended' result =>
    obtain ⟨value, -, hread⟩ := Option.map_eq_some_iff.1 heq
    cases hread
  | applied call value => cases heq
  | migrated time found value => cases heq

theorem history_of_writeReturned (h : .writeReturned w ended (.ok ()) ∈ tr) :
    .writeReturned w ended true ∈ secretHistory tr :=
  List.mem_filterMap.2 ⟨_, h, rfl⟩

theorem readReturned_of_history {value : Option Bytes}
    (h : .readReturned r ended value ∈ secretHistory tr) :
    ∃ result, .getReturned r ended result ∈ tr ∧ readValue? result = some value := by
  obtain ⟨e, he, heq⟩ := List.mem_filterMap.1 h
  cases e with
  | getReturned call ended' result =>
    obtain ⟨value', hvalue, hread⟩ := Option.map_eq_some_iff.1 heq
    cases hread
    exact ⟨result, he, hvalue⟩
  | writeReturned w' ended' result => cases heq
  | applied call value => cases heq
  | migrated time found value => cases heq

theorem secretHistory_append (tr es : List SecretEvent) :
    secretHistory (tr ++ es) = secretHistory tr ++ secretHistory es :=
  List.filterMap_append

end History

/-! ### Calls and times -/

/-- What the history and the calls in flight agree on. -/
structure SecretBook (tr : List SecretEvent) (s : SecretState) : Prop where
  timely : Timely (secretHistory tr) s.now
  called : s.calls.Forall fun call _ => call < s.now
  /-- A call that has returned is not in flight. -/
  returned : ∀ w ended ok, .writeReturned w ended ok ∈ secretHistory tr →
    s.calls.get? w = none
  reads : ∀ r ended value, .readReturned r ended value ∈ secretHistory tr → r ≤ s.now

section Book

variable {s s' : SecretState} {tr es : List SecretEvent} {call : Nat}

theorem SecretBook.initial (vault legacy : Option Bytes) :
    SecretBook [] ⟨vault, false, legacy, 0, .empty⟩ where
  timely := nofun
  called := OrdMap.Forall.empty
  returned := nofun
  reads := nofun

/-- A call is made before the step's time is over. -/
theorem SecretBook.known_le (hB : SecretBook tr s) (hshape : SecretShape s call s' es) :
    call ≤ s.now := by
  rcases hshape.known with rfl | ⟨phase, hcall⟩
  · exact Nat.le_refl _
  · exact Nat.le_of_lt (hB.called call phase hcall)

theorem SecretBook.writes_now (hB : SecretBook tr s) (hshape : SecretShape s call s' es) :
    ∀ w ended ok, .writeReturned w ended ok ∈ secretHistory es → w < ended ∧ ended = s.now := by
  intro w ended ok hw
  obtain ⟨result, hmem, -⟩ := writeReturned_of_history hw
  obtain ⟨-, rfl, -, phase, hcall⟩ := hshape.writes w ended result hmem
  exact ⟨hB.called w phase hcall, rfl⟩

theorem SecretBook.now_le (hB : SecretBook tr s) (hshape : SecretShape s call s' es) :
    ∀ w ended ok, .writeReturned w ended ok ∈ secretHistory es → s.now ≤ ended := by
  intro w ended ok hw
  obtain ⟨-, rfl⟩ := hB.writes_now hshape w ended ok hw
  exact Nat.le_refl _

theorem SecretBook.recent (hB : SecretBook tr s) (hshape : SecretShape s call s' es) :
    ∀ ended ok, .writeReturned call ended ok ∈ secretHistory (tr ++ es) → s.now ≤ ended := by
  intro ended ok hmem
  rw [secretHistory_append] at hmem
  rcases List.mem_append.1 hmem with hold | hnew
  · have hnone := hB.returned call ended ok hold
    rcases hshape.known with rfl | ⟨phase, hphase⟩
    · have hlt := hB.timely _ ended ok hold
      omega
    · rw [hphase] at hnone
      cases hnone
  · exact hB.now_le hshape call ended ok hnew

theorem SecretBook.step (hB : SecretBook tr s) (hshape : SecretShape s call s' es) :
    SecretBook (tr ++ es) s' where
  timely := by
    rw [secretHistory_append, hshape.now]
    exact hB.timely.append (hB.writes_now hshape)
  called := by
    intro w phase hcall
    rw [hshape.now]
    by_cases hw : w = call
    · subst hw
      exact Nat.lt_succ_of_le (hB.known_le hshape)
    · rw [hshape.others w hw] at hcall
      exact Nat.lt_succ_of_lt (hB.called w phase hcall)
  returned := by
    intro w ended ok hw
    rw [secretHistory_append] at hw
    rcases List.mem_append.1 hw with hold | hnew
    · have hnone := hB.returned w ended ok hold
      by_cases hcall : w = call
      · subst hcall
        rcases hshape.known with rfl | ⟨phase, hphase⟩
        · have hlt := hB.timely _ ended ok hold
          omega
        · rw [hphase] at hnone
          cases hnone
      · rw [hshape.others w hcall]
        exact hnone
    · obtain ⟨result, hmem, -⟩ := writeReturned_of_history hnew
      exact (hshape.writes w ended result hmem).2.2.1
  reads := by
    intro r ended value hr
    rw [hshape.now]
    rw [secretHistory_append] at hr
    rcases List.mem_append.1 hr with hold | hnew
    · exact Nat.le_succ_of_le (hB.reads r ended value hold)
    · obtain ⟨result, hmem, -⟩ := readReturned_of_history hnew
      obtain ⟨-, phase, hcall⟩ := hshape.reads r ended result hmem
      exact Nat.le_succ_of_le (Nat.le_of_lt (hB.called r phase hcall))

end Book

/-! ### The value of the key -/

/-- The value has a source that is not superseded, and that no write in flight supersedes
when it returns. -/
def Current (v₀ : Option Bytes) (tr : List SecretEvent) (s : SecretState)
    (value : Option Bytes) : Prop :=
  ∃ source : Source, source.Holds v₀ (secretHistory tr) value ∧
    source.LiveAt (secretHistory tr) s.now ∧
    s.calls.Forall fun w phase =>
      phase.overtakes value = true → ¬ source.EndedBefore (secretHistory tr) w

section Current

variable {v₀ value : Option Bytes} {s s' : SecretState} {tr es : List SecretEvent} {call : Nat}

theorem Current.justified (h : Current v₀ tr s value) {r : Nat} (hr : r ≤ s.now) :
    Justified v₀ (secretHistory tr) r value := by
  obtain ⟨source, hholds, hlive, -⟩ := h
  exact ⟨source, hholds, hlive.mono hr⟩

/-- A step leaves the source of a value as it is, if only writes that the source has
overtaken return. -/
theorem Current.step (h : Current v₀ tr s value) (hB : SecretBook tr s)
    (hshape : SecretShape s call s' es)
    (hphase : ∀ phase', s'.calls.get? call = some phase' → phase'.overtakes value = true →
      ∃ phase, s.calls.get? call = some phase ∧ phase.overtakes value = true)
    (hreturn : ∀ w ended, .writeReturned w ended (.ok ()) ∈ es → ∀ phase,
      s.calls.get? w = some phase → phase.overtakes value = true) :
    Current v₀ (tr ++ es) s' value := by
  obtain ⟨source, hholds, hlive, hovertaken⟩ := h
  have hended : ∀ w, w ≤ s.now → source.EndedBefore (secretHistory (tr ++ es)) w →
      source.EndedBefore (secretHistory tr) w := by
    intro w hw hend
    rw [secretHistory_append] at hend
    exact (Source.endedBefore_append (hB.now_le hshape) hw).1 hend
  refine ⟨source, ?_, ?_, ?_⟩
  · rw [secretHistory_append]
    exact hholds.append
  · intro w ended hmem _ hend
    rw [secretHistory_append] at hmem
    rcases List.mem_append.1 hmem with hold | hnew
    · have hw := hB.timely w ended true hold
      exact hlive w ended hold hw.2 (hended w (by omega) hend)
    · obtain ⟨result, hmem, hok⟩ := writeReturned_of_history hnew
      obtain ⟨-, -, -, phase, hcall⟩ := hshape.writes w ended result hmem
      cases result with
      | error e => cases hok
      | ok u =>
        have hw := hB.called w phase hcall
        exact hovertaken w phase hcall (hreturn w ended hmem phase hcall)
          (hended w (Nat.le_of_lt hw) hend)
  · intro w phase hcall hover hend
    by_cases hw : w = call
    · subst hw
      obtain ⟨phase₀, hcall₀, hover₀⟩ := hphase phase hcall hover
      exact hovertaken w phase₀ hcall₀ hover₀ (hended w (hB.known_le hshape) hend)
    · rw [hshape.others w hw] at hcall
      exact hovertaken w phase hcall hover
        (hended w (Nat.le_of_lt (hB.called w phase hcall)) hend)

theorem Current.of_call (hB : SecretBook tr s) (hshape : SecretShape s call s' es)
    (happlied : .applied call value ∈ secretHistory (tr ++ es)) :
    Current v₀ (tr ++ es) s' value := by
  have hended : ∀ w, w ≤ s.now →
      ¬ (Source.write call).EndedBefore (secretHistory (tr ++ es)) w := by
    rintro w hw ⟨ended, ok, hmem, hlt⟩
    have hle := hB.recent hshape ended ok hmem
    omega
  have hB' := hB.step hshape
  refine ⟨.write call, happlied, ?_, ?_⟩
  · intro w ended hmem hlt
    have hw := hB'.timely w ended true hmem
    rw [hshape.now] at hlt
    exact hended w (by omega)
  · intro w phase hcall _
    have hw := hB'.called w phase hcall
    rw [hshape.now] at hw
    exact hended w (by omega)

/-- A get that is in flight when the call takes effect may return its value. -/
theorem justified_of_call (hB : SecretBook tr s) (hshape : SecretShape s call s' es)
    (happlied : .applied call value ∈ secretHistory (tr ++ es)) {r : Nat} (hr : r ≤ s.now) :
    Justified v₀ (secretHistory (tr ++ es)) r value := by
  refine (Current.of_call hB hshape happlied).justified ?_
  rw [hshape.now]
  omega

theorem justified_step {r : Nat} (h : Justified v₀ (secretHistory tr) r value)
    (hB : SecretBook tr s) (hshape : SecretShape s call s' es) (hr : r ≤ s.now) :
    Justified v₀ (secretHistory (tr ++ es)) r value := by
  rw [secretHistory_append]
  exact h.append hB.timely (hB.now_le hshape) hr

theorem SecretState.phase_of_await {call : Nat} {phase phase' : SecretCall}
    (h : (s.await call phase).calls.get? call = some phase') : phase = phase' := by
  rw [SecretState.await, OrdMap.get?_set_self] at h
  exact Option.some.inj h

theorem SecretState.phase_of_finish {call : Nat} {phase : SecretCall}
    (h : (s.finish call).calls.get? call = some phase) : False := by
  rw [SecretState.finish, OrdMap.get?_erase_self] at h
  cases h

end Current

/-! ### The invariant -/

/-- What a call in flight is entitled to return. -/
def PhaseOk (v₀ legacy₀ : Option Bytes) (tr : List SecretEvent) (s : SecretState) (call : Nat) :
    SecretCall → Prop
  | .found value => Justified v₀ (secretHistory tr) call (some value)
  | .missed => s.legacy = none → Justified v₀ (secretHistory tr) call none
  | .migrating value landed =>
    legacy₀ = some value ∧ (landed = true → Justified v₀ (secretHistory tr) call (some value))
  | .deleting deleted => deleted = true → .applied call none ∈ secretHistory tr
  | _ => True

/-- **One key as a register**, over what its two files hold at first. -/
structure SecretInv (vault₀ legacy₀ : Option Bytes) (tr : List SecretEvent) (s : SecretState) :
    Prop where
  book : SecretBook tr s
  present : ∀ value, s.vault = some value → Current (vault₀ <|> legacy₀) tr s (some value)
  absent : s.fileExists = false → Current (vault₀ <|> legacy₀) tr s none ∨
    s.legacy.isSome = true ∧ s.calls.Forall fun _ phase => phase.reached = false
  /-- The legacy entry is the first one, and goes before any write has returned. -/
  legacy : ∀ value, s.legacy = some value → legacy₀ = some value ∧
    ∀ w ended, .writeReturned w ended true ∉ secretHistory tr
  /-- A legacy entry beside a first value of the vault is never migrated. -/
  first : vault₀ ≠ none → s.legacy = none ∨ (∃ d, s.calls.get? d = some (.deleting true)) ∨
    s.fileExists = true ∧ s.calls.Forall fun _ phase => phase.isMigrating = false
  phases : s.calls.Forall (PhaseOk (vault₀ <|> legacy₀) legacy₀ tr s)
  regular : Regular (vault₀ <|> legacy₀) (secretHistory tr)
  migrations : ∀ time found value, .migrated time found value ∈ tr → time ≤ s.now ∧
    (found = some value ∨ ∀ w ended, .writeReturned w ended true ∈ secretHistory tr → time ≤ ended)

section Invariant

variable {key : String} {vault₀ legacy₀ : Option Bytes} {s s' : SecretState} {a : SecretAction}
  {tr es : List SecretEvent}

theorem SecretInv.initial (vault legacy : Option Bytes) :
    SecretInv vault legacy [] ⟨vault, false, legacy, 0, .empty⟩ where
  book := .initial vault legacy
  present := by
    rintro value rfl
    exact ⟨.initial, rfl, nofun, OrdMap.Forall.empty⟩
  absent := by
    intro hfile
    cases legacy with
    | some value => exact .inr ⟨rfl, OrdMap.Forall.empty⟩
    | none =>
      cases vault with
      | some value => cases hfile
      | none => exact .inl ⟨.initial, rfl, nofun, OrdMap.Forall.empty⟩
  legacy := fun value h => ⟨h, nofun⟩
  first := by
    intro hvault
    cases vault with
    | none => exact absurd rfl hvault
    | some value => exact .inr (.inr ⟨rfl, OrdMap.Forall.empty⟩)
  phases := OrdMap.Forall.empty
  regular := nofun
  migrations := nofun

/-- Without a file the vault has no value. -/
theorem SecretState.vault_of_not_fileExists (h : s.fileExists = false) : s.vault = none := by
  rw [SecretState.fileExists, Bool.or_eq_false_iff] at h
  exact Option.isSome_eq_false_iff.1 h.2 |> Option.isNone_iff_eq_none.1

theorem SecretState.legacy_of_removeLegacy {removed : Bool} {value : Bytes}
    (h : (s.removeLegacy removed).legacy = some value) :
    removed = false ∧ s.legacy = some value := by
  cases removed with
  | true => cases h
  | false => exact ⟨rfl, h⟩

/-- Under the condition a write that returns leaves no legacy entry. -/
theorem legacy_eq_none_of_removed {removed : Bool}
    (h : (s.legacy.isNone || removed) = true) : (s.removeLegacy removed).legacy = none := by
  cases removed with
  | true => rfl
  | false =>
    rw [Bool.or_false] at h
    exact Option.isNone_iff_eq_none.1 h

theorem removed_of_written {call : Nat} {removed : Bool}
    (hguard : sparesLegacy s (.written call true removed) = true) :
    (s.legacy.isNone || removed) = true := by
  simp only [sparesLegacy, Bool.or_eq_true, Bool.and_eq_true] at hguard ⊢
  exact hguard.imp_right And.left

/-- Under the condition a migration changes nothing, or comes before all writes. -/
theorem migration_spares {call : Nat} {value : Bytes} {landed : Bool}
    (hguard : sparesLegacy s (.land call) = true)
    (hcall : s.calls.get? call = some (.migrating value landed)) :
    s.vault = some value ∨ s.legacy.isSome = true ∧
      s.calls.Forall fun _ phase => phase.overtakes (some value) = false := by
  simp only [sparesLegacy, hcall, Bool.or_eq_true, decide_eq_true_eq, Bool.and_eq_true,
    Bool.not_eq_true'] at hguard
  refine hguard.imp_right fun ⟨hlegacy, hnone⟩ => ⟨hlegacy, fun w phase hw => ?_⟩
  exact Bool.eq_false_iff.2 (List.any_eq_false.1 hnone phase (OrdMap.mem_values_iff.2 ⟨w, hw⟩))

/-! ### What the vault holds -/

/-- A migration that spares all writes has its value from the legacy entry. -/
theorem SecretInv.current_of_migration (hI : SecretInv vault₀ legacy₀ tr s) {call : Nat}
    {value : Bytes} (hguard : sparesLegacy s (.land call) = true)
    (hcall : s.calls.get? call = some (.migrating value false)) :
    Current (vault₀ <|> legacy₀) tr s (some value) := by
  rcases migration_spares hguard hcall with hvault | ⟨hlegacy, hovertakes⟩
  · exact hI.present value hvault
  · obtain ⟨value', hvalue'⟩ := Option.isSome_iff_exists.1 hlegacy
    have hok : PhaseOk (vault₀ <|> legacy₀) legacy₀ tr s call (.migrating value false) :=
      hI.phases call _ hcall
    obtain ⟨hfirst, hnone⟩ := hI.legacy value' hvalue'
    -- the vault held nothing at first: its file would still be there, or be deleted just now
    have hvault₀ : vault₀ = none := by
      by_contra hne
      rcases hI.first hne with hl | ⟨d, hd⟩ | ⟨-, hmigrating⟩
      · rw [hl] at hlegacy
        cases hlegacy
      · cases hovertakes d _ hd
      · cases hmigrating call _ hcall
    refine ⟨.initial, ?_, fun w ended hmem => absurd hmem (hnone w ended), ?_⟩
    · show some value = (vault₀ <|> legacy₀)
      rw [hvault₀, hok.1]
      rfl
    · intro w phase hw hover
      rw [hovertakes w phase hw] at hover
      cases hover

theorem SecretInv.present_step (hI : SecretInv vault₀ legacy₀ tr s)
    (hguard : sparesLegacy s a = true) (h : SecretStep key s a s' es) :
    ∀ value, s'.vault = some value →
      Current (vault₀ <|> legacy₀) (tr ++ es) s' (some value) := by
  intro value hvalue
  have hB := hI.book
  have hshape := h.shape
  cases h with
  | getFound | getMissed | set | throws =>
    refine (hI.present value hvalue).step hB hshape ?_ (by simp)
    intro phase hphase hover
    cases SecretState.phase_of_await hphase
    cases hover
  | unlinks => cases hvalue
  | notThere hfile =>
    have hnone : s.vault = none := SecretState.vault_of_not_fileExists hfile
    rw [show s.vault = some value from hvalue] at hnone
    cases hnone
  | reads | migrates =>
    refine (hI.present value hvalue).step hB hshape ?_ (by simp)
    intro phase hphase hover
    cases SecretState.phase_of_await hphase
    cases hover
  | tears hcall =>
    exact (hI.present value hvalue).step hB hshape
      (fun phase hphase hover => ⟨phase, hphase, hover⟩) (by simp)
  | landsLegacy hcall =>
    cases hvalue
    refine (hI.current_of_migration hguard hcall).step hB hshape ?_ (by simp)
    intro phase hphase hover
    cases SecretState.phase_of_await hphase
    cases hover
  | landsSet hcall =>
    cases hvalue
    refine Current.of_call hB hshape ?_
    rw [secretHistory_append]
    exact List.mem_append_right _ List.mem_cons_self
  | fails | returns | notFound | refused | migrated =>
    refine (hI.present value hvalue).step hB hshape ?_ (by simp)
    intro phase hphase
    cases SecretState.phase_of_finish hphase
  | wrote hcall | deleted hcall | deletedLegacy hcall =>
    refine (hI.present value hvalue).step hB hshape ?_ ?_
    · intro phase hphase
      cases SecretState.phase_of_finish hphase
    · intro w ended hmem phase hphase
      obtain rfl := (hshape.writes w ended _ hmem).1
      cases hcall.symm.trans hphase
      rfl

/-- A step that writes nothing and leaves the vault without a file. -/
theorem SecretInv.absent_of_quiet (hI : SecretInv vault₀ legacy₀ tr s)
    (hshape : SecretShape s (a.caller s) s' es) (hfile : s.fileExists = false)
    (hlegacy : s'.legacy = s.legacy)
    (hphase : ∀ phase, s'.calls.get? (a.caller s) = some phase →
      phase.overtakes none = false ∧ phase.reached = false)
    (hreturn : ∀ w ended, .writeReturned w ended (.ok ()) ∉ es) :
    Current (vault₀ <|> legacy₀) (tr ++ es) s' none ∨
      s'.legacy.isSome = true ∧ s'.calls.Forall fun _ phase => phase.reached = false := by
  rcases hI.absent hfile with hcurrent | ⟨hsome, hreached⟩
  · refine .inl (hcurrent.step hI.book hshape ?_ fun w ended hmem => absurd hmem (hreturn w ended))
    intro phase hcall hover
    rw [(hphase phase hcall).1] at hover
    cases hover
  · refine .inr ⟨by rwa [hlegacy], fun w phase hw => ?_⟩
    by_cases hcall : w = a.caller s
    · subst hcall
      exact (hphase phase hw).2
    · rw [hshape.others w hcall] at hw
      exact hreached w phase hw

/-- When a write that has reached the file returns, the key has a source of its own. -/
theorem SecretInv.current_of_reached (hI : SecretInv vault₀ legacy₀ tr s)
    (hfile : s.fileExists = false) {call : Nat} {phase : SecretCall}
    (hcall : s.calls.get? call = some phase) (hreached : phase.reached = true) :
    Current (vault₀ <|> legacy₀) tr s none := by
  rcases hI.absent hfile with hcurrent | ⟨-, hnone⟩
  · exact hcurrent
  · rw [hnone call phase hcall] at hreached
    cases hreached

theorem SecretInv.absent_step (hI : SecretInv vault₀ legacy₀ tr s)
    (h : SecretStep key s a s' es) (hfile' : s'.fileExists = false) :
    Current (vault₀ <|> legacy₀) (tr ++ es) s' none ∨
      s'.legacy.isSome = true ∧ s'.calls.Forall fun _ phase => phase.reached = false := by
  have hB := hI.book
  have hshape := h.shape
  cases h with
  | getFound | getMissed | set | throws | notThere | reads | migrates =>
    refine hI.absent_of_quiet hshape hfile' rfl ?_ (by simp)
    intro phase hphase
    cases SecretState.phase_of_await hphase
    exact ⟨rfl, rfl⟩
  | unlinks =>
    refine .inl (Current.of_call hB hshape ?_)
    rw [secretHistory_append]
    exact List.mem_append_right _ List.mem_cons_self
  | tears => cases hfile'
  | landsLegacy | landsSet => cases hfile'
  | fails | returns | notFound | refused =>
    refine hI.absent_of_quiet hshape hfile' rfl ?_ (by simp)
    intro phase hphase
    cases SecretState.phase_of_finish hphase
  | migrated hcall =>
    refine .inl ((hI.current_of_reached hfile' hcall rfl).step hB hshape ?_ (by simp))
    intro phase hphase
    cases SecretState.phase_of_finish hphase
  | wrote hcall | deleted hcall =>
    refine .inl ((hI.current_of_reached hfile' hcall rfl).step hB hshape ?_ ?_)
    · intro phase hphase
      cases SecretState.phase_of_finish hphase
    · intro w ended hmem phase hphase
      obtain rfl := (hshape.writes w ended _ hmem).1
      cases hcall.symm.trans hphase
      rfl
  | deletedLegacy =>
    refine .inl (Current.of_call hB hshape ?_)
    rw [secretHistory_append]
    exact List.mem_append_right _ List.mem_cons_self

/-! ### The legacy entry -/

theorem SecretInv.legacy_step (hI : SecretInv vault₀ legacy₀ tr s)
    (hguard : sparesLegacy s a = true) (h : SecretStep key s a s' es) :
    ∀ value, s'.legacy = some value → legacy₀ = some value ∧
      ∀ w ended, .writeReturned w ended true ∉ secretHistory (tr ++ es) := by
  intro value hvalue
  -- a step after which the entry is there returns no write
  have hquiet : s.legacy = some value → (∀ w ended, .writeReturned w ended (.ok ()) ∉ es) →
      legacy₀ = some value ∧
        ∀ w ended, .writeReturned w ended true ∉ secretHistory (tr ++ es) := by
    intro hlegacy hreturn
    obtain ⟨hfirst, hnone⟩ := hI.legacy value hlegacy
    refine ⟨hfirst, fun w ended hmem => ?_⟩
    rw [secretHistory_append] at hmem
    rcases List.mem_append.1 hmem with hold | hnew
    · exact hnone w ended hold
    · obtain ⟨result, hres, hok⟩ := writeReturned_of_history hnew
      cases result with
      | error e => cases hok
      | ok u => exact hreturn w ended hres
  cases h with
  | getFound | getMissed | set | unlinks | throws | notThere | reads | migrates | tears
  | landsLegacy | landsSet | fails | returns | notFound | refused =>
    exact hquiet hvalue (by simp)
  | migrated => exact hquiet (SecretState.legacy_of_removeLegacy hvalue).2 (by simp)
  | wrote =>
    rw [SecretState.finish, legacy_eq_none_of_removed (removed_of_written hguard)] at hvalue
    cases hvalue
  | deleted | deletedLegacy =>
    rw [SecretState.finish, legacy_eq_none_of_removed hguard] at hvalue
    cases hvalue

theorem SecretInv.first_step (hI : SecretInv vault₀ legacy₀ tr s)
    (hguard : sparesLegacy s a = true) (h : SecretStep key s a s' es) (hvault₀ : vault₀ ≠ none) :
    s'.legacy = none ∨ (∃ d, s'.calls.get? d = some (.deleting true)) ∨
      s'.fileExists = true ∧ s'.calls.Forall fun _ phase => phase.isMigrating = false := by
  have hshape := h.shape
  -- a deleting call other than the step's stays in flight
  have hdeleting : ∀ d, s.calls.get? d = some (.deleting true) →
      s.calls.get? (a.caller s) ≠ some (.deleting true) →
      s'.calls.get? d = some (.deleting true) := by
    intro d hd hne
    rw [hshape.others d (by rintro rfl; exact hne hd)]
    exact hd
  have hstep : (s.legacy = none → s'.legacy = none) → (s.fileExists = true → s'.fileExists = true) →
      s.calls.get? (a.caller s) ≠ some (.deleting true) →
      (s.fileExists = true → (s.calls.Forall fun _ phase => phase.isMigrating = false) →
        ∀ phase, s'.calls.get? (a.caller s) = some phase → phase.isMigrating = false) →
      s'.legacy = none ∨ (∃ d, s'.calls.get? d = some (.deleting true)) ∨
        s'.fileExists = true ∧ s'.calls.Forall fun _ phase => phase.isMigrating = false := by
    intro hlegacy hfile hne hphase
    rcases hI.first hvault₀ with hnone | ⟨d, hd⟩ | ⟨hexists, hmigrating⟩
    · exact .inl (hlegacy hnone)
    · exact .inr (.inl ⟨d, hdeleting d hd hne⟩)
    · refine .inr (.inr ⟨hfile hexists, fun w phase hw => ?_⟩)
      by_cases hcall : w = a.caller s
      · subst hcall
        exact hphase hexists hmigrating phase hw
      · rw [hshape.others w hcall] at hw
        exact hmigrating w phase hw
  have hnew : s.calls.get? s.now ≠ some (.deleting true) := by
    intro hcall
    exact Nat.lt_irrefl _ (hI.book.called s.now _ hcall)
  cases h with
  | getFound | set | throws | notThere =>
    refine hstep id id hnew ?_
    intro _ _ phase hphase
    cases SecretState.phase_of_await hphase
    rfl
  | getMissed hfile =>
    refine hstep id id hnew ?_
    intro hexists
    rw [hfile] at hexists
    cases hexists
  | unlinks => exact .inr (.inl ⟨s.now, OrdMap.get?_set_self _ _ _⟩)
  | reads hcall =>
    refine hstep id id (hcall.symm ▸ nofun) ?_
    intro _ _ phase hphase
    cases SecretState.phase_of_await hphase
    rfl
  | migrates hcall =>
    refine hstep id id (hcall.symm ▸ nofun) ?_
    intro _ hmigrating
    cases hmigrating _ _ hcall
  | @tears call phase hcall =>
    by_cases hd : phase = .deleting true
    · subst hd
      exact .inr (.inl ⟨call, hcall⟩)
    · refine hstep id (fun _ => rfl) (fun hc => hd (Option.some.inj (hcall.symm.trans hc))) ?_
      intro _ hmigrating phase' hphase
      exact hmigrating _ phase' hphase
  | landsLegacy hcall =>
    refine hstep id (fun _ => rfl) (hcall.symm ▸ nofun) ?_
    intro _ hmigrating
    cases hmigrating _ _ hcall
  | landsSet hcall =>
    refine hstep id (fun _ => rfl) (hcall.symm ▸ nofun) ?_
    intro _ _ phase hphase
    cases SecretState.phase_of_await hphase
    rfl
  | fails hcall hget =>
    refine hstep id id (fun hc => ?_) ?_
    · cases hcall.symm.trans hc
      cases hget
    · intro _ _ phase hphase
      cases SecretState.phase_of_finish hphase
  | refused hcall hne =>
    refine hstep id id (fun hc => hne (Option.some.inj (hcall.symm.trans hc))) ?_
    intro _ _ phase hphase
    cases SecretState.phase_of_finish hphase
  | returns hcall | notFound hcall =>
    refine hstep id id (hcall.symm ▸ nofun) ?_
    intro _ _ phase hphase
    cases SecretState.phase_of_finish hphase
  | @migrated call value removed hcall =>
    refine hstep ?_ id (hcall.symm ▸ nofun) ?_
    · intro hnone
      cases removed with
      | true => rfl
      | false => exact hnone
    · intro _ _ phase hphase
      cases SecretState.phase_of_finish hphase
  | wrote => exact .inl (legacy_eq_none_of_removed (removed_of_written hguard))
  | deleted | deletedLegacy => exact .inl (legacy_eq_none_of_removed hguard)

/-! ### Calls in flight -/

/-- A call that the step is not about keeps what it is entitled to. -/
theorem PhaseOk.step {v₀ : Option Bytes} {call g : Nat} {phase : SecretCall}
    (hB : SecretBook tr s) (hshape : SecretShape s call s' es) (hg : g ≤ s.now)
    (hmissed : phase = .missed → s'.legacy = none → s.legacy = none ∨
      Justified v₀ (secretHistory (tr ++ es)) g none)
    (h : PhaseOk v₀ legacy₀ tr s g phase) : PhaseOk v₀ legacy₀ (tr ++ es) s' g phase := by
  cases phase with
  | found value => exact justified_step h hB hshape hg
  | missed =>
    intro hlegacy
    rcases hmissed rfl hlegacy with hnone | hjustified
    · exact justified_step (h hnone) hB hshape hg
    · exact hjustified
  | migrating value landed =>
    exact ⟨h.1, fun hlanded => justified_step (h.2 hlanded) hB hshape hg⟩
  | deleting deleted =>
    intro hdeleted
    rw [secretHistory_append]
    exact List.mem_append_left _ (h hdeleted)
  | reading | setting | rejecting => trivial

/-- The calls in flight after a step: the step's own, and the others. -/
theorem SecretInv.phases_of (hI : SecretInv vault₀ legacy₀ tr s)
    (hshape : SecretShape s (a.caller s) s' es)
    (hmissed : ∀ g, s.calls.get? g = some .missed → s'.legacy = none → s.legacy = none ∨
      Justified (vault₀ <|> legacy₀) (secretHistory (tr ++ es)) g none)
    (hcaller : ∀ phase, s'.calls.get? (a.caller s) = some phase →
      PhaseOk (vault₀ <|> legacy₀) legacy₀ (tr ++ es) s' (a.caller s) phase) :
    s'.calls.Forall (PhaseOk (vault₀ <|> legacy₀) legacy₀ (tr ++ es) s') := by
  intro g phase hg
  by_cases hcall : g = a.caller s
  · subst hcall
    exact hcaller phase hg
  · rw [hshape.others g hcall] at hg
    refine PhaseOk.step hI.book hshape (Nat.le_of_lt (hI.book.called g phase hg)) ?_
      (hI.phases g phase hg)
    rintro rfl
    exact hmissed g hg

theorem no_missed_of_written {call : Nat} {removed : Bool}
    (hguard : sparesLegacy s (.written call true removed) = true) :
    s.legacy = none ∨ ∀ g, s.calls.get? g ≠ some .missed := by
  simp only [sparesLegacy, Bool.or_eq_true, Bool.and_eq_true, Bool.not_eq_true'] at hguard
  rcases hguard with hnone | ⟨-, hany⟩
  · exact .inl (Option.isNone_iff_eq_none.1 hnone)
  · exact .inr fun g hg => List.any_eq_false.1 hany _ (OrdMap.mem_values_iff.2 ⟨g, hg⟩) rfl

theorem SecretInv.phases_step (hI : SecretInv vault₀ legacy₀ tr s)
    (hguard : sparesLegacy s a = true) (h : SecretStep key s a s' es) :
    s'.calls.Forall (PhaseOk (vault₀ <|> legacy₀) legacy₀ (tr ++ es) s') := by
  have hB := hI.book
  have hshape := h.shape
  cases h with
  | getFound | set | throws =>
    refine hI.phases_of hshape (fun _ _ => .inl) ?_
    intro phase hphase
    cases SecretState.phase_of_await hphase
    trivial
  | getMissed hfile =>
    refine hI.phases_of hshape (fun _ _ => .inl) ?_
    intro phase hphase
    cases SecretState.phase_of_await hphase
    intro hlegacy
    rcases hI.absent hfile with hcurrent | ⟨hsome, -⟩
    · exact justified_step (hcurrent.justified (Nat.le_refl _)) hB hshape (Nat.le_refl _)
    · rw [show s.legacy = none from hlegacy] at hsome
      cases hsome
  | unlinks =>
    refine hI.phases_of hshape (fun _ _ => .inl) ?_
    intro phase hphase
    cases SecretState.phase_of_await hphase
    intro _
    rw [secretHistory_append]
    exact List.mem_append_right _ List.mem_cons_self
  | notThere =>
    refine hI.phases_of hshape (fun _ _ => .inl) ?_
    intro phase hphase
    cases SecretState.phase_of_await hphase
    exact nofun
  | @reads call value hcall hvault =>
    refine hI.phases_of hshape (fun _ _ => .inl) ?_
    intro phase hphase
    cases SecretState.phase_of_await hphase
    have hle : call ≤ s.now := Nat.le_of_lt (hB.called call _ hcall)
    exact justified_step ((hI.present value hvault).justified hle) hB hshape hle
  | @migrates call value hcall hlegacy =>
    refine hI.phases_of hshape (fun _ _ => .inl) ?_
    intro phase hphase
    cases SecretState.phase_of_await hphase
    exact ⟨(hI.legacy value hlegacy).1, nofun⟩
  | @tears call phase hcall =>
    refine hI.phases_of hshape (fun _ _ => .inl) ?_
    intro phase' hphase
    refine PhaseOk.step hB hshape (hB.known_le hshape) (fun _ => .inl) (hI.phases _ phase' hphase)
  | @landsLegacy call value hcall =>
    refine hI.phases_of hshape (fun _ _ => .inl) ?_
    intro phase hphase
    cases SecretState.phase_of_await hphase
    have hok : PhaseOk (vault₀ <|> legacy₀) legacy₀ tr s call (.migrating value false) :=
      hI.phases call _ hcall
    have hle : call ≤ s.now := Nat.le_of_lt (hB.called call _ hcall)
    exact ⟨hok.1, fun _ => justified_step
      ((hI.current_of_migration hguard hcall).justified hle) hB hshape hle⟩
  | landsSet =>
    refine hI.phases_of hshape (fun _ _ => .inl) ?_
    intro phase hphase
    cases SecretState.phase_of_await hphase
    trivial
  | fails | returns | notFound | refused =>
    refine hI.phases_of hshape (fun _ _ => .inl) ?_
    intro phase hphase
    cases SecretState.phase_of_finish hphase
  | migrated | wrote =>
    refine hI.phases_of hshape (fun g hg _ => ?_) ?_
    · exact (no_missed_of_written hguard).imp_right fun hnone => absurd hg (hnone g)
    · intro phase hphase
      cases SecretState.phase_of_finish hphase
  | @deleted call removed hcall =>
    refine hI.phases_of hshape (fun g hg _ => .inr ?_) ?_
    · have happlied : .applied call none ∈ secretHistory tr := hI.phases call _ hcall rfl
      refine justified_of_call hB hshape ?_ (Nat.le_of_lt (hB.called g _ hg))
      rw [secretHistory_append]
      exact List.mem_append_left _ happlied
    · intro phase hphase
      cases SecretState.phase_of_finish hphase
  | @deletedLegacy call removed hcall =>
    refine hI.phases_of hshape (fun g hg _ => .inr ?_) ?_
    · refine justified_of_call hB hshape ?_ (Nat.le_of_lt (hB.called g _ hg))
      rw [secretHistory_append]
      exact List.mem_append_right _ List.mem_cons_self
    · intro phase hphase
      cases SecretState.phase_of_finish hphase

/-! ### Runs -/

theorem SecretInv.justified_of_return (hI : SecretInv vault₀ legacy₀ tr s)
    (h : SecretStep key s a s' es) {r ended : Nat} {result : Result Bytes} {value : Option Bytes}
    (hmem : .getReturned r ended result ∈ es) (hvalue : readValue? result = some value) :
    Justified (vault₀ <|> legacy₀) (secretHistory tr) r value := by
  cases h with
  | getFound | getMissed | set | unlinks | throws | notThere | reads | migrates | tears
  | landsLegacy | landsSet | refused | wrote | deleted | deletedLegacy => simp at hmem
  | fails =>
    cases List.mem_singleton.1 hmem
    cases hvalue
  | returns hcall =>
    cases List.mem_singleton.1 hmem
    cases hvalue
    exact hI.phases _ _ hcall
  | notFound hcall hlegacy =>
    cases List.mem_singleton.1 hmem
    cases hvalue
    exact hI.phases _ _ hcall hlegacy
  | migrated hcall =>
    cases List.mem_singleton.1 hmem
    cases hvalue
    exact (hI.phases _ _ hcall).2 rfl

theorem SecretInv.regular_step (hI : SecretInv vault₀ legacy₀ tr s)
    (h : SecretStep key s a s' es) :
    Regular (vault₀ <|> legacy₀) (secretHistory (tr ++ es)) := by
  have hB := hI.book
  rw [secretHistory_append]
  refine hI.regular.append hB.timely (hB.now_le h.shape) hB.reads ?_
  intro r ended value hmem
  obtain ⟨result, hres, hvalue⟩ := readReturned_of_history hmem
  obtain ⟨-, phase, hcall⟩ := h.shape.reads r ended result hres
  rw [← secretHistory_append]
  exact justified_step (hI.justified_of_return h hres hvalue) hB h.shape
    (Nat.le_of_lt (hB.called r phase hcall))

theorem SecretInv.migrations_step (hI : SecretInv vault₀ legacy₀ tr s)
    (hguard : sparesLegacy s a = true) (h : SecretStep key s a s' es) :
    ∀ time found value, .migrated time found value ∈ tr ++ es → time ≤ s'.now ∧
      (found = some value ∨
        ∀ w ended, .writeReturned w ended true ∈ secretHistory (tr ++ es) → time ≤ ended) := by
  have hB := hI.book
  have hshape := h.shape
  intro time found value hmem
  rw [secretHistory_append]
  rcases List.mem_append.1 hmem with hold | hnew
  · obtain ⟨htime, hfirst⟩ := hI.migrations time found value hold
    refine ⟨by rw [hshape.now]; omega, hfirst.imp_right fun hle w ended hw => ?_⟩
    rcases List.mem_append.1 hw with hw | hw
    · exact hle w ended hw
    · exact Nat.le_trans htime (hB.now_le hshape w ended true hw)
  · cases h with
    | getFound | getMissed | set | unlinks | throws | notThere | reads | migrates | tears
    | landsSet | fails | returns | notFound | migrated | refused | wrote | deleted
    | deletedLegacy => simp at hnew
    | landsLegacy hcall =>
      cases List.mem_singleton.1 hnew
      refine ⟨Nat.le_succ _, (migration_spares hguard hcall).imp_right fun hlegacy w ended hw => ?_⟩
      obtain ⟨value', hvalue'⟩ := Option.isSome_iff_exists.1 hlegacy.1
      rcases List.mem_append.1 hw with hw | hw
      · exact absurd hw ((hI.legacy value' hvalue').2 w ended)
      · exact hB.now_le hshape w ended true hw

/-- **Every step under the condition keeps the invariant.** -/
theorem SecretInv.step (hI : SecretInv vault₀ legacy₀ tr s) (hguard : sparesLegacy s a = true)
    (h : SecretStep key s a s' es) : SecretInv vault₀ legacy₀ (tr ++ es) s' where
  book := hI.book.step h.shape
  present := hI.present_step hguard h
  absent := hI.absent_step h
  legacy := hI.legacy_step hguard h
  first := hI.first_step hguard h
  phases := hI.phases_step hguard h
  regular := hI.regular_step h
  migrations := hI.migrations_step hguard h

end Invariant

theorem secret_regular {key : String} {vault₀ legacy₀ : Option Bytes} {tr : List SecretEvent}
    {s : SecretState}
    (h : Run (secretMachine key vault₀ legacy₀) (fun s a => sparesLegacy s a = true) tr s) :
    Regular (vault₀ <|> legacy₀) (secretHistory tr) ∧ MigratesFirst tr := by
  have hI : SecretInv vault₀ legacy₀ tr s :=
    h.invariant (I := SecretInv vault₀ legacy₀) (.initial vault₀ legacy₀)
      fun _ hI hguard hs => hI.step hguard (secretStep_sound hs)
  refine ⟨hI.regular, fun time found value hmem => ?_⟩
  exact (hI.migrations time found value hmem).2.imp_right fun hle call ended hw =>
    hle call ended (history_of_writeReturned hw)

/-- **The store refines one map.** In every run of the store in which every step spares the
legacy entry of its key, every get of a key returns the value of a last set or delete before
it, or of an overlapping one, and no legacy value is written over a set or delete that has
returned. -/
theorem compat_store_regular {vault legacy : String → Option Bytes}
    {tr : List (String × SecretEvent)} {s : String → SecretState}
    (h : Run (compatSecretStore vault legacy)
      (fun s a => sparesLegacy (s a.1) a.2 = true) tr s) (key : String) :
    Regular (vault key <|> legacy key) (secretHistory (componentTrace key tr)) ∧
      MigratesFirst (componentTrace key tr) :=
  secret_regular (Run.component (P := fun _ s a => sparesLegacy s a = true) h key)

/-! ### A legacy key -/

namespace LegacyKey

/-- The legacy directory holds one entry. -/
def legacy (key : String) : Option Bytes :=
  if key = "db-key:id_1" then some [1, 2] else none

/-- A get migrates the entry, a set replaces it, and another get reads the new value. -/
def inTurn : List SecretAction :=
  [.get, .readLegacy 0 true, .land 0, .written 0 true true, .set [3, 4], .land 4,
    .written 4 true true, .get, .read 7 true, .resume 7]

/-- The set is called and returns while the get awaits its write. -/
def overlapping : List SecretAction :=
  [.get, .readLegacy 0 true, .set [3, 4], .land 2, .written 2 true true, .land 0,
    .written 0 true true, .get, .read 7 true, .resume 7]

def overlappingEvents : List SecretEvent :=
  [.applied 2 (some [3, 4]), .writeReturned 2 4 (.ok ()), .migrated 5 (some [3, 4]) [1, 2],
    .getReturned 0 6 (.ok [1, 2]), .getReturned 7 9 (.ok [1, 2])]

end LegacyKey

open LegacyKey in
/-- The get and the set in turn. -/
theorem compat_store_regular_inTurn :
    Regular (some [1, 2]) (secretHistory
        [.migrated 2 none [1, 2], .getReturned 0 3 (.ok [1, 2]), .applied 4 (some [3, 4]),
          .writeReturned 4 6 (.ok ()), .getReturned 7 9 (.ok [3, 4])]) ∧
      MigratesFirst
        [.migrated 2 none [1, 2], .getReturned 0 3 (.ok [1, 2]), .applied 4 (some [3, 4]),
          .writeReturned 4 6 (.ok ()), .getReturned 7 9 (.ok [3, 4])] := by
  have hrun : ∃ s, Run (compatSecretStore (fun _ => none) legacy)
      (fun s a => sparesLegacy (s a.1) a.2 = true)
      ([.migrated 2 none [1, 2], .getReturned 0 3 (.ok [1, 2]), .applied 4 (some [3, 4]),
        .writeReturned 4 6 (.ok ()), .getReturned 7 9 (.ok [3, 4])].map
          (Prod.mk "db-key:id_1")) s :=
    exists_run_of_execFrom (inTurn.map (Prod.mk "db-key:id_1")) rfl
  obtain ⟨s, hrun⟩ := hrun
  exact compat_store_regular hrun "db-key:id_1"

open LegacyKey in
/-- A set that has returned is overwritten with the legacy value. -/
theorem legacy_overwrites_set :
    ¬ ∀ tr s, Run (compatSecretStore (fun _ => none) legacy) (fun _ _ => True) tr s →
      ∀ key, Regular (legacy key) (secretHistory (componentTrace key tr)) ∧
        MigratesFirst (componentTrace key tr) := by
  intro hclaim
  have hrun : ∃ s, Run (compatSecretStore (fun _ => none) legacy) (fun _ _ => true = true)
      (overlappingEvents.map (Prod.mk "db-key:id_1")) s :=
    exists_run_of_execFrom (overlapping.map (Prod.mk "db-key:id_1")) rfl
  obtain ⟨s, hrun⟩ := hrun
  have hregular := (hclaim _ s (hrun.mono fun _ _ _ => trivial) "db-key:id_1").1
  rw [componentTrace_self] at hregular
  have hread : .readReturned 7 9 (some [1, 2]) ∈ secretHistory overlappingEvents := by decide
  obtain ⟨source, hholds, hlive⟩ := hregular 7 9 (some [1, 2]) hread
  cases source with
  | initial =>
    -- the set has returned before the get was called
    have hreturned : .writeReturned 2 4 true ∈ secretHistory overlappingEvents := by decide
    exact hlive 2 4 hreturned (by decide) trivial
  | write w =>
    -- no set has written the value
    have happlied : .applied w (some [1, 2]) ∈ secretHistory overlappingEvents := hholds
    simp [overlappingEvents, secretHistory, SecretEvent.register, readValue?] at happlied

end Signet
