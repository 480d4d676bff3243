import Signet.Lib.OrdMap
import Signet.Schemas.Seal

/-!
# The operator manager

`createOperatorManager`, an in-memory store of operator records, and the part of the
operator actions that finds an operator by id or label. Every operation but `remove`
is one synchronous segment; `remove` awaits its hook between reading the record
(`removeStart`) and writing it back (`removeFinish`).
-/

namespace Signet

open Lib

inductive OperatorRole where
  | operator
  | admin
  | superadmin
  deriving DecidableEq

def OperatorRole.name : OperatorRole → String
  | .operator => "operator"
  | .admin => "admin"
  | .superadmin => "superadmin"

inductive OperatorStatus where
  | active
  | suspended
  | removed
  deriving DecidableEq

inductive WalletProvider where
  | internal
  | ows
  deriving DecidableEq

structure OperatorConfigType where
  label : String
  role : OperatorRole
  scopeMode : ScopeMode
  provider : WalletProvider
  walletId : Option String
  inboxIds : Option (List String)
  operatorDisclosures : Option OperatorDisclosures
  deriving DecidableEq

/-- `Partial<OperatorConfigType>`. -/
structure OperatorConfigChanges where
  label : Option String := none
  role : Option OperatorRole := none
  scopeMode : Option ScopeMode := none
  provider : Option WalletProvider := none
  walletId : Option String := none
  inboxIds : Option (List String) := none
  operatorDisclosures : Option OperatorDisclosures := none
  deriving DecidableEq

/-- `{ ...existing.config, ...changes }`. -/
def OperatorConfigType.mergedWith (config : OperatorConfigType) (changes : OperatorConfigChanges) :
    OperatorConfigType where
  label := changes.label.getD config.label
  role := changes.role.getD config.role
  scopeMode := changes.scopeMode.getD config.scopeMode
  provider := changes.provider.getD config.provider
  walletId := changes.walletId.or config.walletId
  inboxIds := changes.inboxIds.or config.inboxIds
  operatorDisclosures := changes.operatorDisclosures.or config.operatorDisclosures

/-- `OperatorRecordType`; `createdBy` is always `owner`. -/
structure OperatorRecord where
  id : String
  config : OperatorConfigType
  createdAt : Time
  createdBy : String
  status : OperatorStatus
  deriving DecidableEq

/-- `validateConfig`: the first issue of the schema, in the order of its fields. The
other fields are right by their types. -/
def validateConfig (config : OperatorConfigType) : Option SignetError :=
  if config.label = "" then
    some (.validationError "label" "String must contain at least 1 character(s)")
  else
    let inboxIds := config.inboxIds.getD []
    match inboxIds.findIdx? fun id => !isResourceId .inbox id with
    | some i => some (.validationError ("inboxIds." ++ toString i) (resourceIdMessage .inbox))
    | none => none

/-- The store of `createOperatorManager`. -/
abbrev OperatorStore := OrdMap String OperatorRecord

namespace OperatorStore

variable (store : OperatorStore)

/-- `create`; `id` is a new resource id. -/
def create (config : OperatorConfigType) (id : String) (now : Time) :
    OperatorStore × Result OperatorRecord :=
  match validateConfig config with
  | some e => (store, .error e)
  | none =>
    if config.role = .superadmin then
      (store, .error (.permissionError
        "Cannot create operator with superadmin role without owner authorization"
        [("role", config.role.name)]))
    else
      let record : OperatorRecord := ⟨id, config, now, "owner", .active⟩
      (store.set id record, .ok record)

/-- `list`: the operators that are not removed. -/
def list : List OperatorRecord :=
  store.values.filter (·.status ≠ .removed)

def lookup (operatorId : String) : Result OperatorRecord :=
  match store.get? operatorId with
  | none => .error (.notFoundError "operator" operatorId)
  | some record => .ok record

/-- `update`: the status is not part of the configuration. -/
def update (operatorId : String) (changes : OperatorConfigChanges) :
    OperatorStore × Result OperatorRecord :=
  match store.get? operatorId with
  | none => (store, .error (.notFoundError "operator" operatorId))
  | some existing =>
    if changes.role = some .superadmin then
      (store, .error (.permissionError "Cannot escalate operator role to superadmin"
        [("operatorId", operatorId), ("requestedRole", "superadmin")]))
    else
      let merged := existing.config.mergedWith changes
      match validateConfig merged with
      | some e => (store, .error e)
      | none =>
        let updated := { existing with config := merged }
        (store.set operatorId updated, .ok updated)

/-- `remove` up to its hook. -/
def removeStart (operatorId : String) : Result OperatorRecord :=
  store.lookup operatorId

/-- `remove` after its hook: the record read before, with the status removed. -/
def removeFinish (operatorId : String) (existing : OperatorRecord) : OperatorStore :=
  store.set operatorId { existing with status := .removed }

/-- `resolveOperatorId`: an id is checked and used as it is, a label is looked for
among the operators that are not removed. -/
def resolveOperatorId (idOrLabel : String) : Result String :=
  if "op_".toList.isPrefixOf idOrLabel.toList then
    if isResourceId .operator idOrLabel then .ok idOrLabel
    else .error (.validationError "operatorId" ("Invalid operator ID format: " ++ idOrLabel))
  else
    match store.list.filter (·.config.label = idOrLabel) with
    | [] => .error (.notFoundError "operator" idOrLabel)
    | [record] => .ok record.id
    | _ => .error (.validationError "operatorId" "Ambiguous operator label")

/-! ### What an update leaves alone -/

def isRemoved (operatorId : String) : Bool :=
  (store.get? operatorId).any (·.status = .removed)

variable {store}

/-- An update changes no status. -/
theorem isRemoved_update (operatorId : String) (changes : OperatorConfigChanges) (id : String) :
    (store.update operatorId changes).1.isRemoved id = store.isRemoved id := by
  unfold update
  split
  · rfl
  · next existing hexisting =>
    split
    · rfl
    · dsimp only
      split
      · rfl
      · unfold isRemoved
        -- an update changes the config and leaves the status
        by_cases hid : id = operatorId
        · rw [hid, OrdMap.get?_set_self, hexisting]
          rfl
        · rw [OrdMap.get?_set_of_ne _ _ hid]

/-- A new operator under an unused id changes no other status and is not removed. -/
theorem isRemoved_create (config : OperatorConfigType) {newId : String} (now : Time)
    (hfresh : store.get? newId = none) (id : String) :
    (store.create config newId now).1.isRemoved id = store.isRemoved id := by
  unfold create
  split
  · rfl
  · split
    · rfl
    · unfold isRemoved
      dsimp only
      -- a new operator is active, and its id was free
      by_cases hid : id = newId
      · rw [hid, OrdMap.get?_set_self, hfresh]
        rfl
      · rw [OrdMap.get?_set_of_ne _ _ hid]

theorem isRemoved_removeFinish (operatorId : String) (existing : OperatorRecord) (id : String) :
    (store.removeFinish operatorId existing).isRemoved id =
      (decide (id = operatorId) || store.isRemoved id) := by
  unfold removeFinish isRemoved
  by_cases hid : id = operatorId
  · rw [hid, OrdMap.get?_set_self, decide_eq_true rfl, Bool.true_or]
    rfl
  · rw [OrdMap.get?_set_of_ne _ _ hid, decide_eq_false hid, Bool.false_or]

end OperatorStore

end Signet
