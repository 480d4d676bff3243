import Mathlib.Data.List.Basic
import Mathlib.Tactic.Common

/-!
# Resource ids and errors

Local resources are named by a fixed word and sixteen lowercase hex characters
(`cred_0123456789abcdef`). `isResourceId` is the check the zod schemas of
`resource-id.ts` run; ids themselves stay strings, because several call sites
carry strings that never pass the check.

A composite key `${a}:${b}` of a checked id and an arbitrary string determines
both parts (`joinKey_inj`), since a checked id has a fixed length.

`SignetError` is the error union of `schemas/src/errors`, one constructor per
class with the arguments of its `create`.
-/

namespace Signet

/-- A point in time in milliseconds. ISO-8601 strings in UTC with millisecond
precision are identified with the instants they denote. -/
abbrev Time := Nat

/-- The resource types of `RESOURCE_PREFIXES`. -/
inductive ResourceType where
  | operator
  | inbox
  | conversation
  | policy
  | credential
  | seal
  | key
  | message
  | network
  deriving DecidableEq

/-- `RESOURCE_PREFIXES`: the word every id of the type starts with. -/
def resourcePrefix : ResourceType → String
  | .operator => "op_"
  | .inbox => "inbox_"
  | .conversation => "conv_"
  | .policy => "policy_"
  | .credential => "cred_"
  | .seal => "seal_"
  | .key => "key_"
  | .message => "msg_"
  | .network => "xmtp_"

def resourceIdHexLength : Nat := 16

/-- A character of the class `[0-9a-f]`. -/
def isLowerHex (c : Char) : Bool :=
  ('0' ≤ c && c ≤ '9') || ('a' ≤ c && c ≤ 'f')

/-- `createResourceIdSchema(...)`: the word of the type, then exactly sixteen
lowercase hex characters. -/
def isResourceId (type : ResourceType) (value : String) : Bool :=
  let word := (resourcePrefix type).toList
  let suffix := value.toList.drop word.length
  word.isPrefixOf value.toList && suffix.length == resourceIdHexLength && suffix.all isLowerHex

/-- The message of the refinement in `createResourceIdSchema`. -/
def resourceIdMessage (type : ResourceType) : String :=
  "Must start with \"" ++ resourcePrefix type ++ "\" followed by 16 lowercase hex characters"

/-- All ids of one type have the same length. -/
theorem length_of_isResourceId {type : ResourceType} {value : String}
    (h : isResourceId type value = true) :
    value.toList.length = (resourcePrefix type).toList.length + resourceIdHexLength := by
  simp only [isResourceId, Bool.and_eq_true, beq_iff_eq] at h
  obtain ⟨⟨hword, hlen⟩, -⟩ := h
  have hle : (resourcePrefix type).toList.length ≤ value.toList.length :=
    (List.isPrefixOf_iff_prefix.1 hword).length_le
  rw [List.length_drop] at hlen
  omega

theorem ne_empty_of_isResourceId {type : ResourceType} {value : String}
    (h : isResourceId type value = true) : value ≠ "" := by
  rintro rfl
  cases type <;> exact absurd h (by decide)

/-! ### Composite keys -/

/-- The template `${left}:${right}` used for map keys. -/
def joinKey (left right : String) : String :=
  left ++ ":" ++ right

/-- A composite key determines both parts if the first parts have one length. -/
theorem joinKey_inj_of_length {left left' right right' : String}
    (hlen : left.toList.length = left'.toList.length)
    (h : joinKey left right = joinKey left' right') : left = left' ∧ right = right' := by
  have hlist : left.toList ++ (':' :: right.toList) = left'.toList ++ (':' :: right'.toList) := by
    have := congrArg String.toList h
    simpa [joinKey, String.toList_append] using this
  -- parts of one length end at the same place, so the colons are at one place too
  obtain ⟨hleft, hright⟩ := List.append_inj hlist hlen
  exact ⟨String.toList_inj.1 hleft, String.toList_inj.1 (List.cons.inj hright).2⟩

/-- A composite key whose first parts are checked ids of one type determines
both parts. -/
theorem joinKey_inj {type : ResourceType} {left left' right right' : String}
    (hl : isResourceId type left = true) (hl' : isResourceId type left' = true)
    (h : joinKey left right = joinKey left' right') : left = left' ∧ right = right' := by
  refine joinKey_inj_of_length ?_ h
  rw [length_of_isResourceId hl, length_of_isResourceId hl']

theorem joinKey_inj_of_not_mem {left left' right right' : String} (hl : ':' ∉ left.toList)
    (hl' : ':' ∉ left'.toList) (h : joinKey left right = joinKey left' right') :
    left = left' ∧ right = right' := by
  -- without a colon in it, the left part is what stands before the first colon of the key
  have htake : ∀ {l r : String}, ':' ∉ l.toList → (joinKey l r).toList.takeWhile (· ≠ ':') =
      l.toList := by
    intro l r hl
    have hno : ∀ c ∈ l.toList, decide (c ≠ ':') = true :=
      fun c hc => decide_eq_true (ne_of_mem_of_not_mem hc hl)
    rw [joinKey, String.toList_append, String.toList_append, List.append_assoc,
      List.takeWhile_append_of_pos hno]
    exact List.append_nil _
  refine joinKey_inj_of_length ?_ h
  rw [← htake hl, ← htake hl', h]

/-! ### Errors -/

/-- One zod issue: the path of the rejected field and the message. -/
structure ZodIssue where
  /-- The field path. -/
  path : List String
  /-- The text of the issue. -/
  message : String
  deriving DecidableEq

/-- `AnySignetError`: the error classes with the arguments of their `create`. -/
inductive SignetError where
  /-- `ValidationError.create(field, reason)`. -/
  | validationError (field reason : String)
  /-- `ValidationError.create(field, parsed.error.message)`, keeping the issues
  that zod renders into the message. -/
  | schemaError (field : String) (issues : List ZodIssue)
  /-- `SealError.create(sealId, reason)`. -/
  | sealError (sealId reason : String)
  /-- `NotFoundError.create(resourceType, resourceId)`. -/
  | notFoundError (resourceType resourceId : String)
  /-- `PermissionError.create(message, context)`. -/
  | permissionError (message : String) (context : List (String × String))
  /-- `AuthError.create(message, context)`. -/
  | authError (message : String) (context : List (String × String))
  /-- `CredentialExpiredError.create(credentialId)`. -/
  | credentialExpiredError (credentialId : String)
  /-- `InternalError.create(message)`. -/
  | internalError (message : String)
  /-- `TimeoutError.create(operation, timeoutMs)`. -/
  | timeoutError (operation : String) (timeoutMs : Nat)
  /-- `CancelledError.create(message)`. -/
  | cancelledError (message : String)
  /-- `NetworkError.create(endpoint, reason)`. -/
  | networkError (endpoint reason : String)
  deriving DecidableEq

inductive ErrorCategory where
  | validation
  | notFound
  | permission
  | auth
  | internal
  | timeout
  | cancelled
  | network
  deriving DecidableEq

def SignetError.category : SignetError → ErrorCategory
  | validationError _ _ | schemaError _ _ | sealError _ _ => .validation
  | notFoundError _ _ => .notFound
  | permissionError _ _ => .permission
  | authError _ _ | credentialExpiredError _ => .auth
  | internalError _ => .internal
  | timeoutError _ _ => .timeout
  | cancelledError _ => .cancelled
  | networkError _ _ => .network

/-- What a fallible operation of the repository returns: `Result.ok` or
`Result.err`. -/
abbrev Result (α : Type) := Except SignetError α

end Signet
