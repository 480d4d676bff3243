import Mathlib.Data.List.Basic
import Mathlib.Tactic.Common

/-!
# Permission scopes

The thirty scopes of `permission-scopes.ts`, scope sets with an allow and a deny
list, and `resolveScopeSet`, the effective scopes: allowed and not denied.
-/

namespace Signet

/-- `PERMISSION_SCOPE_VALUES`. -/
inductive PermissionScope where
  | send
  | reply
  | react
  | readReceipt
  | attachment
  | addMember
  | removeMember
  | promoteAdmin
  | demoteAdmin
  | updatePermission
  | updateName
  | updateDescription
  | updateImage
  | invite
  | join
  | leave
  | createGroup
  | createDm
  | readMessages
  | readHistory
  | listMembers
  | listConversations
  | readPermissions
  | streamMessages
  | streamConversations
  | forwardToProvider
  | storeExcerpts
  | useForMemory
  | quoteRevealed
  | summarize
  deriving DecidableEq

def PermissionScope.name : PermissionScope → String
  | .send => "send"
  | .reply => "reply"
  | .react => "react"
  | .readReceipt => "read-receipt"
  | .attachment => "attachment"
  | .addMember => "add-member"
  | .removeMember => "remove-member"
  | .promoteAdmin => "promote-admin"
  | .demoteAdmin => "demote-admin"
  | .updatePermission => "update-permission"
  | .updateName => "update-name"
  | .updateDescription => "update-description"
  | .updateImage => "update-image"
  | .invite => "invite"
  | .join => "join"
  | .leave => "leave"
  | .createGroup => "create-group"
  | .createDm => "create-dm"
  | .readMessages => "read-messages"
  | .readHistory => "read-history"
  | .listMembers => "list-members"
  | .listConversations => "list-conversations"
  | .readPermissions => "read-permissions"
  | .streamMessages => "stream-messages"
  | .streamConversations => "stream-conversations"
  | .forwardToProvider => "forward-to-provider"
  | .storeExcerpts => "store-excerpts"
  | .useForMemory => "use-for-memory"
  | .quoteRevealed => "quote-revealed"
  | .summarize => "summarize"

/-- `ScopeSetType`: explicit grants and denials. -/
structure ScopeSet where
  /-- Scopes explicitly granted. -/
  allow : List PermissionScope
  /-- Scopes explicitly denied (overrides allow). -/
  deny : List PermissionScope
  deriving DecidableEq

/-- `resolveScopeSet`: the scopes in `allow` that are not in `deny`, each once,
in the order of their first grant. -/
def resolveScopeSet (scopeSet : ScopeSet) : List PermissionScope :=
  (scopeSet.allow.filter fun scope => scope ∉ scopeSet.deny).eraseDups

@[simp] theorem mem_resolveScopeSet {scopeSet : ScopeSet} {scope : PermissionScope} :
    scope ∈ resolveScopeSet scopeSet ↔ scope ∈ scopeSet.allow ∧ scope ∉ scopeSet.deny := by
  simp [resolveScopeSet]

end Signet
