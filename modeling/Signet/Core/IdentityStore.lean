import Mathlib.Data.List.Nodup
import Mathlib.Data.List.Pairwise

/-!
# The identity store

`SqliteIdentityStore`: one row for each managed identity. The constraints of the table are fields
of the structure: the primary key, and the unique columns `group_id` and `label`, where SQLite
takes any number of nulls for different.

Rows are kept in the order of `created_at`, in which `list` returns them. On a closed database every
statement throws; `create` alone turns that into an error.
-/

namespace Signet.Core

/-- `AgentIdentity`, without the time of its creation. -/
structure IdentityRow where
  id : String
  inboxId : Option String
  groupId : Option String
  label : Option String
  deriving DecidableEq

def IdentityRow.updateInboxId (id inboxId : String) (row : IdentityRow) : IdentityRow :=
  if row.id = id then { row with inboxId := some inboxId } else row

/-- The other columns stay. -/
theorem IdentityRow.updateInboxId_columns (id inboxId : String) (row : IdentityRow) :
    (row.updateInboxId id inboxId).id = row.id ∧
      (row.updateInboxId id inboxId).groupId = row.groupId ∧
      (row.updateInboxId id inboxId).label = row.label := by
  unfold updateInboxId
  split <;> exact ⟨rfl, rfl, rfl⟩

/-- The values of a unique column differ, nulls apart. -/
def UniqueColumn (column : IdentityRow → Option String) (rows : List IdentityRow) : Prop :=
  rows.Pairwise fun r r' => column r = none ∨ column r ≠ column r'

/-- A column whose values stay the same stays unique. -/
theorem UniqueColumn.map {column : IdentityRow → Option String} {rows : List IdentityRow}
    {f : IdentityRow → IdentityRow} (h : UniqueColumn column rows)
    (hf : ∀ row, column (f row) = column row) : UniqueColumn column (rows.map f) := by
  refine List.pairwise_map.2 (h.imp fun {r r'} hdiffer => ?_)
  rwa [hf r, hf r']

theorem UniqueColumn.append {column : IdentityRow → Option String} {rows : List IdentityRow}
    {row : IdentityRow} (h : UniqueColumn column rows)
    (hnew : ∀ r ∈ rows, column r = none ∨ column r ≠ column row) :
    UniqueColumn column (rows ++ [row]) := by
  refine List.pairwise_append.2 ⟨h, List.pairwise_singleton _ _, fun r hmem r' hmem' => ?_⟩
  obtain rfl := List.mem_singleton.1 hmem'
  exact hnew r hmem

structure SqliteIdentityStore where
  rows : List IdentityRow
  /-- The database has been closed. -/
  closed : Bool
  nodup_id : (rows.map (·.id)).Nodup
  unique_groupId : UniqueColumn (·.groupId) rows
  unique_label : UniqueColumn (·.label) rows

namespace SqliteIdentityStore

def empty : SqliteIdentityStore := ⟨[], false, List.nodup_nil, .nil, .nil⟩

/-- The row meets the constraints of the table. -/
def Accepts (store : SqliteIdentityStore) (row : IdentityRow) : Prop :=
  (∀ r ∈ store.rows, r.id ≠ row.id) ∧
  (∀ r ∈ store.rows, r.groupId = none ∨ r.groupId ≠ row.groupId) ∧
  ∀ r ∈ store.rows, r.label = none ∨ r.label ≠ row.label

instance (store : SqliteIdentityStore) (row : IdentityRow) : Decidable (store.Accepts row) :=
  inferInstanceAs (Decidable (_ ∧ _ ∧ _))

/-- `create`, with the id that is generated; `none` is the error. -/
def create (store : SqliteIdentityStore) (id : String) (groupId label : Option String) :
    Option (IdentityRow × SqliteIdentityStore) :=
  let row : IdentityRow := ⟨id, none, groupId, label⟩
  if h : store.closed = false ∧ store.Accepts row then
    some (row,
      { rows := store.rows ++ [row]
        closed := false
        nodup_id := by
          rw [List.map_append]
          refine List.nodup_append.2 ⟨store.nodup_id, List.nodup_singleton _, ?_⟩
          intro other hmem id' hid
          obtain ⟨r, hr, rfl⟩ := List.mem_map.1 hmem
          obtain rfl := List.mem_singleton.1 hid
          exact h.2.1 r hr
        unique_groupId := store.unique_groupId.append h.2.2.1
        unique_label := store.unique_label.append h.2.2.2 })
  else none

/-- `getById`; the outer `none` is an exception. -/
def getById (store : SqliteIdentityStore) (id : String) : Option (Option IdentityRow) :=
  if store.closed then none else some (store.rows.find? (·.id = id))

/-- The statement of `setInboxId`. -/
def updateInboxId (store : SqliteIdentityStore) (id inboxId : String) :
    Option SqliteIdentityStore :=
  if store.closed then none
  else
    some
      { rows := store.rows.map (·.updateInboxId id inboxId)
        closed := store.closed
        nodup_id := by
          rw [List.map_map]
          have hids : ((·.id) ∘ (·.updateInboxId id inboxId) : IdentityRow → String) = (·.id) :=
            funext fun row => (row.updateInboxId_columns id inboxId).1
          rw [hids]
          exact store.nodup_id
        unique_groupId :=
          store.unique_groupId.map fun row => (row.updateInboxId_columns id inboxId).2.1
        unique_label :=
          store.unique_label.map fun row => (row.updateInboxId_columns id inboxId).2.2 }

/-- The statement of `remove`. -/
def delete (store : SqliteIdentityStore) (id : String) : Option SqliteIdentityStore :=
  if store.closed then none
  else
    some
      { rows := store.rows.filter (·.id ≠ id)
        closed := store.closed
        nodup_id := (List.filter_sublist.map _).nodup store.nodup_id
        unique_groupId := store.unique_groupId.sublist List.filter_sublist
        unique_label := store.unique_label.sublist List.filter_sublist }

def close (store : SqliteIdentityStore) : SqliteIdentityStore := { store with closed := true }

def ids (store : SqliteIdentityStore) : List String := store.rows.map (·.id)

/-! ### What the statements change -/

section Statements

variable {store store' : SqliteIdentityStore} {id inboxId : String}

@[simp] theorem ids_close : store.close.ids = store.ids := rfl

theorem create_eq_some {groupId label : Option String} {row : IdentityRow}
    (h : store.create id groupId label = some (row, store')) :
    row = ⟨id, none, groupId, label⟩ ∧ id ∉ store.ids ∧ store'.ids = store.ids ++ [id] ∧
      store'.closed = store.closed := by
  unfold create at h
  dsimp only at h
  split at h
  · next haccepts =>
    obtain ⟨rfl, rfl⟩ := Prod.mk.inj (Option.some.inj h)
    refine ⟨rfl, ?_, List.map_append, haccepts.1.symm⟩
    -- an id that is taken violates the primary key
    rintro hmem
    obtain ⟨r, hr, hid⟩ := List.mem_map.1 hmem
    exact haccepts.2.1 r hr hid
  · cases h

theorem getById_eq_some {row : IdentityRow} (h : store.getById id = some (some row)) :
    row ∈ store.rows ∧ row.id = id := by
  unfold getById at h
  split at h
  · cases h
  · have hfind : store.rows.find? (·.id = id) = some row := Option.some.inj h
    have hid := List.find?_some hfind
    exact ⟨List.mem_of_find?_eq_some hfind, of_decide_eq_true hid⟩

theorem ids_updateInboxId (h : store.updateInboxId id inboxId = some store') :
    store'.ids = store.ids ∧ store'.closed = store.closed := by
  unfold updateInboxId at h
  split at h
  · cases h
  · obtain rfl := Option.some.inj h
    refine ⟨?_, rfl⟩
    unfold ids
    rw [List.map_map]
    -- the statement writes one column, and it is not the id
    exact List.map_congr_left fun row _ => (row.updateInboxId_columns id inboxId).1

theorem mem_ids_delete (h : store.delete id = some store') {other : String} :
    (other ∈ store'.ids ↔ other ∈ store.ids ∧ other ≠ id) ∧ store'.closed = store.closed := by
  unfold delete at h
  split at h
  · cases h
  · obtain rfl := Option.some.inj h
    refine ⟨?_, rfl⟩
    unfold ids
    rw [List.mem_map, List.mem_map]
    constructor
    · rintro ⟨row, hmem, rfl⟩
      obtain ⟨hrow, hne⟩ := List.mem_filter.1 hmem
      exact ⟨⟨row, hrow, rfl⟩, of_decide_eq_true hne⟩
    · rintro ⟨⟨row, hmem, rfl⟩, hne⟩
      exact ⟨row, List.mem_filter.2 ⟨hmem, decide_eq_true hne⟩, rfl⟩

end Statements

end SqliteIdentityStore

end Signet.Core
