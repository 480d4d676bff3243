import Signet.Schemas.ResourceId
import Signet.Schemas.PermissionScope

/-!
# Permission checks

`checkChatInScope` and the checks of `validate-send.ts` over a credential's
resolved scopes and its chats.
-/

namespace Signet

def checkChatInScope (chatId : String) (chatIds : List String) : Result Unit :=
  if chatId ∈ chatIds then .ok ()
  else
    .error (.permissionError
      ("Chat '" ++ chatId ++ "' is not in the credential's scoped conversations")
      [("chatId", chatId)])

/-- The common body of the send checks: the chat, then the scope. -/
def validateScoped (scope : PermissionScope) (groupId : String) (scopes : List PermissionScope)
    (chatIds : List String) : Result Unit :=
  match checkChatInScope groupId chatIds with
  | .error e => .error e
  | .ok () =>
    if scope ∈ scopes then .ok ()
    else .error (.permissionError ("Permission denied: " ++ scope.name) [("scope", scope.name)])

structure SendValidation where
  draftOnly : Bool
  deriving DecidableEq

def validateSendMessage (groupId : String) (scopes : List PermissionScope)
    (chatIds : List String) : Result SendValidation :=
  (validateScoped .send groupId scopes chatIds).map fun _ => ⟨false⟩

theorem checkChatInScope_eq_ok {chatId : String} {chatIds : List String} :
    checkChatInScope chatId chatIds = .ok () ↔ chatId ∈ chatIds := by
  unfold checkChatInScope
  split <;> simp_all

/-- The check passes exactly for a chat in scope and an allowed scope. -/
theorem validateScoped_eq_ok {scope : PermissionScope} {groupId : String}
    {scopes : List PermissionScope} {chatIds : List String} :
    validateScoped scope groupId scopes chatIds = .ok () ↔ groupId ∈ chatIds ∧ scope ∈ scopes := by
  unfold validateScoped
  split
  · next e he =>
    -- refused for the chat, whatever the scopes are
    have hout : groupId ∉ chatIds := fun hin => by
      rw [checkChatInScope_eq_ok.2 hin] at he
      cases he
    simp [hout]
  · next hin =>
    have hin := checkChatInScope_eq_ok.1 hin
    split <;> simp_all

theorem validateSendMessage_eq_ok {groupId : String} {scopes : List PermissionScope}
    {chatIds : List String} {validation : SendValidation} :
    validateSendMessage groupId scopes chatIds = .ok validation ↔
      groupId ∈ chatIds ∧ .send ∈ scopes ∧ validation = ⟨false⟩ := by
  unfold validateSendMessage
  cases h : validateScoped .send groupId scopes chatIds with
  | error e =>
    -- an error of the shared check is returned as it is
    have hnot : ¬ (groupId ∈ chatIds ∧ PermissionScope.send ∈ scopes) := fun hok => by
      rw [validateScoped_eq_ok.2 hok] at h
      cases h
    constructor
    · intro hok; cases hok
    · rintro ⟨hin, hsend, -⟩; exact absurd ⟨hin, hsend⟩ hnot
  | ok u =>
    obtain ⟨hin, hsend⟩ := validateScoped_eq_ok.1 h
    constructor
    · intro hok; cases hok; exact ⟨hin, hsend, rfl⟩
    · rintro ⟨-, -, rfl⟩; rfl

end Signet
