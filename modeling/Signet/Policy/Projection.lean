import Signet.Policy.RevealState
import Signet.Schemas.Event
import Signet.Schemas.PermissionScope

/-!
# The projection pipeline

`policy/src/pipeline`: scope filter, content type filter, visibility and content
projection, composed by `projectMessage`. `projectMessage_emit` is its contract:
what an emitted event says about the message and the credential.
-/

namespace Signet

/-- `RawMessage`: a decoded message. -/
structure RawMessage where
  messageId : String
  groupId : String
  senderInboxId : String
  contentType : String
  content : Option MessageContent
  sentAt : Time
  threadId : Option String
  sealId : Option String
  isHistorical : Bool
  deriving DecidableEq

/-- The fields a reveal is matched against. -/
def RawMessage.target (message : RawMessage) : RevealTarget :=
  ⟨message.messageId, message.groupId, message.threadId, message.senderInboxId,
    message.contentType, message.sentAt⟩

def isInScope (groupId : String) (chatIds : List String) : Bool :=
  groupId ∈ chatIds

def isContentTypeAllowed (contentType : String) (allowlist : List String) : Bool :=
  contentType ∈ allowlist

def resolveVisibility (scopes : List PermissionScope) (isRevealed : Bool) : MessageVisibility :=
  if .readMessages ∈ scopes then .visible
  else if isRevealed then .revealed else .hidden

def projectContent (content : Option MessageContent) :
    MessageVisibility → Option MessageContent
  | .visible | .historical | .revealed => content
  | .redacted | .hidden => none

/-- `projectMessage`; `none` drops the message. -/
def projectMessage (message : RawMessage) (scopes : List PermissionScope) (chatIds : List String)
    (effectiveAllowlist : List String) (isRevealed : Bool) : Option MessageEvent :=
  if !isInScope message.groupId chatIds then none
  else if !isContentTypeAllowed message.contentType effectiveAllowlist then none
  else
    let baseVisibility := resolveVisibility scopes isRevealed
    if baseVisibility = .hidden then none
    else if message.isHistorical && .readHistory ∉ scopes then none
    else
      let visibility :=
        if message.isHistorical ∧ baseVisibility = .visible then .historical else baseVisibility
      some
        { messageId := message.messageId
          groupId := message.groupId
          senderInboxId := message.senderInboxId
          contentType := message.contentType
          content := projectContent message.content visibility
          visibility := visibility
          sentAt := message.sentAt
          sealId := message.sealId
          threadId := message.threadId }

/-- **What an emitted event guarantees**: the message is in scope, it may be read or
has been revealed, and a historical one is for a credential with `read-history`. -/
theorem projectMessage_emit {message : RawMessage} {scopes : List PermissionScope}
    {chatIds effectiveAllowlist : List String} {isRevealed : Bool} {event : MessageEvent}
    (h : projectMessage message scopes chatIds effectiveAllowlist isRevealed = some event) :
    message.groupId ∈ chatIds ∧ (.readMessages ∈ scopes ∨ isRevealed = true) ∧
      (message.isHistorical = true → .readHistory ∈ scopes) ∧
      event.messageId = message.messageId ∧ event.groupId = message.groupId := by
  unfold projectMessage at h
  split at h
  · cases h
  · next hscope =>
    split at h
    · cases h
    · dsimp only at h
      split at h
      · cases h
      · next hvisible =>
        split at h
        · cases h
        · next hhistory =>
          cases h
          refine ⟨by simpa [isInScope] using hscope, ?_, ?_, rfl, rfl⟩
          · -- a message that is neither readable nor revealed is hidden
            by_contra hno
            rw [not_or] at hno
            exact hvisible (by simp [resolveVisibility, hno.1, hno.2])
          · intro hist
            simpa [hist] using hhistory

/-- A message in scope that may be read is emitted unless it is historical and
history may not be read. -/
theorem projectMessage_isSome {message : RawMessage} {scopes : List PermissionScope}
    (chatIds : List String) (isRevealed : Bool) (hread : .readMessages ∈ scopes)
    (hhistory : message.isHistorical = true → .readHistory ∈ scopes) :
    (projectMessage message scopes chatIds [message.contentType] isRevealed).isSome =
      isInScope message.groupId chatIds := by
  have hgate : ¬ (message.isHistorical && decide (.readHistory ∉ scopes)) = true := by
    rw [Bool.and_eq_true]
    rintro ⟨hist, hno⟩
    exact of_decide_eq_true hno (hhistory hist)
  unfold projectMessage
  cases hscope : isInScope message.groupId chatIds with
  | false => rfl
  | true =>
    have hbase : resolveVisibility scopes isRevealed = .visible := if_pos hread
    simp only [isContentTypeAllowed, hbase, if_neg hgate]
    simp

end Signet
