import Signet.Policy.Projection
import Signet.Schemas.Credential

/-!
# The event projector

`createEventProjector` sends `message.visible` events through the projection
pipeline of the credential and lets every other event pass
(`projectEvent_of_not_visible`), `message.revealed` included. The chats are those
of the credential: the runtime passes no `getChatIds`.
-/

namespace Signet

/-- The message of a `message.visible` event as the pipeline takes it. -/
def MessageEvent.toRaw (event : MessageEvent) : RawMessage :=
  ⟨event.messageId, event.groupId, event.senderInboxId, event.contentType, event.content,
    event.sentAt, event.threadId, event.sealId, event.visibility = .historical⟩

/-- `createEventProjector`; `store` is what `getRevealState` returns for the
credential, `none` for null. -/
def projectEvent (parseDate : String → Option Time) (store : Option RevealState)
    (credential : CredentialRecord) (now : Time) : SignetEvent → Option SignetEvent
  | .messageVisible event =>
    let isRevealed := store.any (·.isRevealed parseDate event.toRaw.target now)
    (projectMessage event.toRaw (resolveScopeSet credential.effectiveScopes) credential.chatIds
      [event.contentType] isRevealed).map .messageVisible
  | event => some event

/-- Events of other types pass as they are. -/
theorem projectEvent_of_not_visible {parseDate : String → Option Time}
    {store : Option RevealState} {credential : CredentialRecord} {now : Time}
    {event : SignetEvent} (h : ∀ e, event ≠ .messageVisible e) :
    projectEvent parseDate store credential now event = some event := by
  cases event with
  | messageVisible e => exact absurd rfl (h e)
  | messageRevealed e => rfl
  | other type => rfl

/-- **What a projected message guarantees.** -/
theorem projectEvent_visible {parseDate : String → Option Time} {store : Option RevealState}
    {credential : CredentialRecord} {now : Time} {event : MessageEvent} {projected : SignetEvent}
    (h : projectEvent parseDate store credential now (.messageVisible event) = some projected) :
    event.groupId ∈ credential.chatIds ∧
      (.readMessages ∈ resolveScopeSet credential.effectiveScopes ∨
        ∃ reveals, store = some reveals ∧
          reveals.isRevealed parseDate event.toRaw.target now = true) ∧
      (event.visibility = .historical →
        .readHistory ∈ resolveScopeSet credential.effectiveScopes) ∧
      projected.message? = some (event.messageId, event.groupId) := by
  obtain ⟨out, hproject, rfl⟩ := Option.map_eq_some_iff.1 h
  obtain ⟨hin, hread, hhistory, hid, hgroup⟩ := projectMessage_emit hproject
  -- what `projectMessage` has checked, in the words of the event
  refine ⟨hin, ?_, fun hist => hhistory (by simp [MessageEvent.toRaw, hist]), ?_⟩
  · rcases hread with hread | hrevealed
    · exact .inl hread
    · exact .inr ((Option.any_eq_true _ _).1 hrevealed)
  · show some (out.messageId, out.groupId) = _
    rw [hid, hgroup]
    rfl

end Signet
