import Signet.Schemas.ResourceId

/-!
# Reveal state

`policy/src/reveal-state.ts`: the reveal grants recorded for one credential and
the check whether a message is covered by an unexpired one.
-/

namespace Signet

inductive RevealScope where
  | message
  | thread
  | timeWindow
  | contentType
  | sender
  deriving DecidableEq

structure RevealRequest where
  revealId : String
  groupId : String
  scope : RevealScope
  targetId : String
  requestedBy : String
  expiresAt : Option Time
  deriving DecidableEq

structure RevealAccess where
  revealId : String
  grantedAt : Time
  grantedBy : String
  expiresAt : Option Time
  deriving DecidableEq

/-- `RevealEntry`: an access with the request it was granted for. -/
structure RevealEntry where
  access : RevealAccess
  request : RevealRequest
  deriving DecidableEq

/-- The store of one credential, oldest entry first. -/
abbrev RevealState := List RevealEntry

/-- The fields of a message a reveal is matched against. -/
structure RevealTarget where
  messageId : String
  groupId : String
  threadId : Option String
  senderInboxId : String
  contentType : String
  sentAt : Time
  deriving DecidableEq

def RevealState.record (store : RevealState) (access : RevealAccess) (request : RevealRequest) :
    RevealState :=
  store ++ [⟨access, request⟩]

/-- The time-window case: `targetId` is `start|end` and `sentAt` lies between.
`parseDate` is `new Date(...).getTime()`, `none` for `NaN`. -/
def inTimeWindow (parseDate : String → Option Time) (targetId : String) (sentAt : Time) : Bool :=
  let chars := targetId.toList
  if '|' ∈ chars then
    let windowStart := parseDate (String.ofList (chars.takeWhile (· ≠ '|')))
    let windowEnd := parseDate (String.ofList (chars.dropWhile (· ≠ '|')).tail)
    match windowStart, windowEnd with
    | some start, some stop => start ≤ sentAt && sentAt ≤ stop
    | _, _ => false
  else false

/-- One entry covers the message: it has not expired, is for the group and its
scope matches. -/
def RevealEntry.covers (parseDate : String → Option Time) (entry : RevealEntry)
    (target : RevealTarget) (now : Time) : Bool :=
  !(entry.access.expiresAt.any (· ≤ now)) &&
    entry.request.groupId = target.groupId &&
    match entry.request.scope with
    | .message => entry.request.targetId = target.messageId
    | .thread => some entry.request.targetId = target.threadId
    | .sender => entry.request.targetId = target.senderInboxId
    | .contentType => entry.request.targetId = target.contentType
    | .timeWindow => inTimeWindow parseDate entry.request.targetId target.sentAt

def RevealState.isRevealed (parseDate : String → Option Time) (store : RevealState)
    (target : RevealTarget) (now : Time) : Bool :=
  store.any (·.covers parseDate target now)

/-- `expireStale`: drop the expired entries. -/
def RevealState.expireStale (store : RevealState) (now : Time) : RevealState :=
  store.filter fun entry => !(entry.access.expiresAt.any (· ≤ now))

end Signet
