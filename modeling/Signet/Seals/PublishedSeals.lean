import Signet.Seals.ContentType
import Signet.Seals.Machine
import Signet.Seals.Stamper

/-!
# Reading published seals

A seal that is built, signed and published, and then read back from its message by the
schemas. The schema of the payload has checked the payload when it was built, timestamps
included (`buildsAccepted`), so the chain of a seal in flight is always read back
(`TimestampsInv.of_run`). What is left is the key id: `published_seal_decodes_iff`.
-/

namespace Signet

open Lib

variable {format : DatetimeFormat}

/-! ### What is built -/

/-- The seal that a step builds and goes on to sign. -/
def SealState.builds? (s : SealState) : SealAction → Option PendingSeal
  | .inputResolved call (.ok input) newSealId now =>
    match s.calls.get? call with
    | some (.resolving _ chatId) =>
      match s.manager.issueResolved chatId input newSealId now with
      | .ok (.inr pending) => some pending
      | _ => none
    | _ => none
  | .refresh _ sealId newSealId now =>
    match s.manager.refreshStart sealId newSealId now with
    | .ok pending => some pending
    | .error _ => none
  | _ => none

/-- What is built has timestamps that `datetime()` accepts; `buildSeal` would have returned
an error for others. -/
def buildsAccepted (format : DatetimeFormat) (s : SealState) (a : SealAction) : Prop :=
  ∀ pending ∈ s.builds? a, format.Accepts pending.chain.current.timestamps

/-- The timestamps of the payload an envelope carries are accepted. -/
def AcceptedSeal (format : DatetimeFormat) (envelope : SealEnvelope) : Prop :=
  format.Accepts envelope.chain.current.timestamps

/-- The timestamps of the chain a call has built are accepted. -/
def AcceptedCall (format : DatetimeFormat) (phase : SealCall) : Prop :=
  ∀ pending, phase.pending? = some pending → format.Accepts pending.chain.timestamps

/-- **The timestamps of all payloads in the manager are accepted.** -/
structure TimestampsInv (format : DatetimeFormat) (s : SealState) : Prop where
  current : s.manager.currentSeals.Forall fun _ envelope => AcceptedSeal format envelope
  byId : s.manager.sealsById.Forall fun _ envelope => AcceptedSeal format envelope
  inFlight : s.calls.Forall fun _ phase => AcceptedCall format phase

theorem TimestampsInv.initial : TimestampsInv format .init :=
  ⟨.empty, .empty, .empty⟩

/-- A chain is accepted if its payloads are. -/
theorem accepts_chain {chain : SealChain} (hcurrent : format.Accepts chain.current.timestamps)
    (hprevious : ∀ previous ∈ chain.previous, format.Accepts previous.timestamps) :
    format.Accepts chain.timestamps := by
  intro time htime
  rcases List.mem_append.1 htime with htime | htime
  · exact hcurrent time htime
  · obtain ⟨previous, hmem, htime⟩ := List.mem_flatMap.1 htime
    exact hprevious previous (Option.mem_toList.1 hmem) time htime

theorem accepts_current {chain : SealChain} (h : format.Accepts chain.timestamps) :
    format.Accepts chain.current.timestamps := fun time htime =>
  h time (List.mem_append_left _ htime)

theorem acceptedCall_of_accepts {phase : SealCall} {pending : PendingSeal}
    (hphase : phase.pending? = some pending) (h : format.Accepts pending.chain.timestamps) :
    AcceptedCall format phase := by
  intro other hother
  obtain rfl := Option.some.inj (hphase.symm.trans hother)
  exact h

theorem TimestampsInv.step {s s' : SealState} {a : SealAction} {es : List SealEvent}
    (hI : TimestampsInv format s) (hbuilds : buildsAccepted format s a)
    (hstep : SealStep s a s' es) : TimestampsInv format s' := by
  -- phases that carry no seal have nothing to show
  have hnone : ∀ {phase : SealCall}, phase.pending? = none → AcceptedCall format phase := by
    intro phase hphase pending hpending
    rw [hphase] at hpending
    cases hpending
  cases hstep with
  | issue => exact ⟨hI.current, hI.byId, hI.inFlight.set (hnone rfl)⟩
  | failed | unchanged => exact ⟨hI.current, hI.byId, hI.inFlight.erase _⟩
  | rejected => exact hI
  | @issueBuilt call credentialId chatId input newSealId now pending hcall hres =>
    -- the seal follows the head of its pair, if there is one
    obtain ⟨-, -, -, -, hprevious⟩ := SealManager.issueResolved_eq_pending hres
    have hcurrent : format.Accepts pending.chain.current.timestamps :=
      hbuilds pending (by simp [SealState.builds?, hcall, hres])
    have hchain : format.Accepts pending.chain.timestamps := by
      refine accepts_chain hcurrent fun previous hmem => ?_
      rw [hprevious] at hmem
      obtain ⟨envelope, henvelope, rfl⟩ := Option.map_eq_some_iff.1 hmem
      exact hI.current.of_get? henvelope
    exact ⟨hI.current, hI.byId, hI.inFlight.set (acceptedCall_of_accepts rfl hchain)⟩
  | @refreshBuilt call sealId newSealId now pending hnew hres =>
    obtain ⟨-, -, -, existing, hexisting, -, -, hprevious⟩ := SealManager.refreshStart_eq_ok hres
    have hcurrent : format.Accepts pending.chain.current.timestamps :=
      hbuilds pending (by simp [SealState.builds?, hres])
    have hchain : format.Accepts pending.chain.timestamps := by
      refine accepts_chain hcurrent fun previous hmem => ?_
      rw [hprevious] at hmem
      obtain rfl := Option.some.inj hmem
      exact hI.byId.of_get? hexisting
    exact ⟨hI.current, hI.byId, hI.inFlight.set (acceptedCall_of_accepts rfl hchain)⟩
  | @publish call pending signed hcall =>
    have hchain := hI.inFlight.of_get? hcall pending rfl
    exact ⟨hI.current, hI.byId, hI.inFlight.set (acceptedCall_of_accepts rfl hchain)⟩
  | @recorded call pending signed hcall =>
    have hcurrent : AcceptedSeal format (pending.envelope signed) :=
      accepts_current (hI.inFlight.of_get? hcall pending rfl)
    exact ⟨hI.current.set hcurrent, hI.byId.set hcurrent, hI.inFlight.erase _⟩
  | revoke | publishRevocation =>
    exact ⟨hI.current, hI.byId, hI.inFlight.set (hnone rfl)⟩
  | revoked => exact ⟨hI.current.erase _, hI.byId, hI.inFlight.erase _⟩

theorem TimestampsInv.of_run {tr : List SealEvent} {s : SealState}
    (hrun : Run sealMachine (buildsAccepted format) tr s) : TimestampsInv format s :=
  Run.invariant (I := fun _ s => TimestampsInv format s) .initial
    (fun _ hI hok hstep => hI.step hok (sealStep_sound hstep)) hrun

/-! ### Reading the message -/

/-- Both schemas read the message of an envelope, and return what was encoded. -/
structure DecodesBack (format : DatetimeFormat) (envelope : SealEnvelope) : Prop where
  message : SealMessage.schema format ((encodeSealMessage envelope).toJson format) =
    .ok (encodeSealMessage envelope)
  envelope : SealEnvelope.schema format ((encodeSealMessage envelope).toJson format) =
    .ok envelope

theorem decodesBack_iff {envelope : SealEnvelope} (h : format.Accepts envelope.chain.timestamps) :
    DecodesBack format envelope ↔ isResourceId .key envelope.signed.keyId = true := by
  constructor
  · intro hdecodes
    by_contra hkey
    have hread := hdecodes.envelope
    rw [SealEnvelope.schema_message h, if_neg hkey] at hread
    cases hread
  · intro hkey
    constructor
    · rw [SealMessage.schema_toJson h, if_pos hkey]
    · rw [SealEnvelope.schema_message h, if_pos hkey]

/-- A signed seal is published under the built chain. -/
theorem sealStep_signed {s : SealState} {call : Nat} {pending : PendingSeal}
    (hcall : s.calls.get? call = some (.signing pending)) (signed : Signature) :
    sealStep s (.signed call (.ok signed)) =
      some (s.await call (.publishing pending signed),
        [.publish pending.publishTo (pending.envelope signed)]) := by
  simp only [sealStep, hcall]

/-- **Which published seals can be read.** When a stamper has signed a seal in flight, the
manager publishes its envelope under the built chain. The schemas read that envelope back
from its message exactly if the stamper is the one of a signing key whose fingerprint is a
`KeyId`. -/
theorem published_seal_decodes_iff {prims : StamperPrimitives} {tr : List SealEvent}
    {s : SealState} (hrun : Run sealMachine (buildsAccepted format) tr s) {call : Nat}
    {pending : PendingSeal} (hcall : s.calls.get? call = some (.signing pending))
    {stamper : SealStamper} {stamped : SealEnvelope}
    (hsign : stamper.sign prims pending.chain.current = .ok stamped) :
    ∃ s', sealStep s (.signed call (.ok stamped.signed)) =
        some (s', [.publish pending.publishTo (pending.envelope stamped.signed)]) ∧
      (DecodesBack format (pending.envelope stamped.signed) ↔
        ∃ signature fingerprint, stamper = .signingKey signature fingerprint ∧
          isResourceId .key fingerprint = true) := by
  have hstep := sealStep_signed hcall stamped.signed
  have hchain : format.Accepts (pending.envelope stamped.signed).chain.timestamps :=
    (TimestampsInv.of_run hrun).inFlight.of_get? hcall pending rfl
  have hkeyId := keyId_isResourceId_iff hsign
  exact ⟨_, hstep, (decodesBack_iff hchain).trans hkeyId⟩

namespace RecordedSeal

/-- The texts of timestamps, by the recorded one. -/
def datetimeFormat : DatetimeFormat where
  write time := if time = 1700000000000 then "2023-11-14T22:13:20.000Z" else ""
  read? text := if text = "2023-11-14T22:13:20.000Z" then some 1700000000000 else none

/-- The format accepts what is built, as a test. -/
def buildsAcceptedTest (s : SealState) (a : SealAction) : Bool :=
  (s.builds? a).all fun pending =>
    pending.chain.current.timestamps.all fun time =>
      datetimeFormat.read? (datetimeFormat.write time) = some time

theorem buildsAccepted_of_test {s : SealState} {a : SealAction}
    (h : buildsAcceptedTest s a = true) : buildsAccepted datetimeFormat s a := by
  intro pending hpending time htime
  have hall := (Option.all_eq_true _ _).1 h pending hpending
  simpa using List.all_eq_true.1 hall time htime

/-- The first call waits for the signer. -/
def isSigning (s : SealState) : Bool :=
  match s.calls.get? 0 with
  | some (.signing _) => true
  | _ => false

/-- The payload is built and waits for the signer. -/
theorem exists_signing : ∃ tr s, Run sealMachine (buildsAccepted datetimeFormat) tr s ∧
    ∃ pending, s.calls.get? 0 = some (.signing pending) := by
  obtain ⟨tr, s, hrun, htest⟩ := exists_run_of_exec sealMachine buildsAcceptedTest
    [.issue 0 input.credentialId input.chatId,
      .inputResolved 0 (.ok input) payload.sealId payload.issuedAt]
    (fun _ s => isSigning s) (by decide)
  refine ⟨tr, s, hrun.mono fun _ _ h => buildsAccepted_of_test h, ?_⟩
  unfold isSigning at htest
  split at htest
  · next pending hcall => exact ⟨pending, hcall⟩
  · cases htest

end RecordedSeal

open RecordedSeal in
/-- The recorded seal, signed by a key backend and by a signing key with a `KeyId`. -/
theorem published_seal_decodes_iff_recorded :
    ∃ tr s call pending, Run sealMachine (buildsAccepted datetimeFormat) tr s ∧
      s.calls.get? call = some (.signing pending) ∧
      ¬ DecodesBack datetimeFormat (pending.envelope signed) ∧
      DecodesBack datetimeFormat
        (pending.envelope ⟨signed.signature, "key_feedc0defeedbabe"⟩) := by
  obtain ⟨tr, s, hrun, pending, hcall⟩ := exists_signing
  obtain ⟨-, -, hbackend⟩ :=
    published_seal_decodes_iff hrun hcall (keyBackend_sign pending.chain.current)
  obtain ⟨-, -, hkey⟩ :=
    published_seal_decodes_iff hrun hcall (signingKey_sign pending.chain.current)
  refine ⟨tr, s, 0, pending, hrun, hcall, fun hdecodes => ?_, hkey.2 ⟨_, _, rfl, by decide⟩⟩
  obtain ⟨_, _, hstamper, -⟩ := hbackend.1 hdecodes
  cases hstamper

open RecordedSeal in
/-- **A published seal that nobody can read.** The key backend puts `key_10ba682c` on the
envelope; the schemas ask for sixteen hex characters. -/
theorem key_backend_seal_not_decoded :
    ∃ tr s pending stamped, Run sealMachine (buildsAccepted datetimeFormat) tr s ∧
      s.calls.get? 0 = some (.signing pending) ∧
      keyBackend.sign stamperPrimitives pending.chain.current = .ok stamped ∧
      (∃ s', sealStep s (.signed 0 (.ok stamped.signed)) =
        some (s', [.publish pending.publishTo (pending.envelope stamped.signed)])) ∧
      SealMessage.schema datetimeFormat
          ((encodeSealMessage (pending.envelope stamped.signed)).toJson datetimeFormat) =
        .error keyIdIssue ∧
      ¬ DecodesBack datetimeFormat (pending.envelope stamped.signed) := by
  obtain ⟨tr, s, hrun, pending, hcall⟩ := exists_signing
  have hchain : datetimeFormat.Accepts pending.chain.timestamps :=
    (TimestampsInv.of_run hrun).inFlight.of_get? hcall pending rfl
  have hread := @SealMessage.schema_toJson _ (pending.envelope signed) hchain
  have hkey : ¬ isResourceId .key signed.keyId = true := by decide
  refine ⟨tr, s, pending, _, hrun, hcall, keyBackend_sign pending.chain.current,
    ⟨_, sealStep_signed hcall signed⟩, hread.trans (if_neg hkey), ?_⟩
  exact fun hdecodes => hkey ((decodesBack_iff hchain).1 hdecodes)

end Signet
