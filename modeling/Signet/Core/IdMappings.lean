import Mathlib.Data.List.Nodup
import Signet.Schemas.ResourceId

/-!
# The id mapping

`createSqliteIdMappingStore`: a table of network ids and local ids, both unique.
The actions turn an id they are given into a network id by `resolveGroupId`, which
leaves an id that is not a local id of the table as it is.

`ConversationMappings` is a table in which the two kinds of ids can be told apart:
the local ids are `conv_` ids and the network ids are not. There both ids of a
conversation resolve to its network id (`resolveGroupId_localId`,
`resolveGroupId_networkId`), and two conversation ids resolve to the same group
only if they are one id (`resolveGroupId_inj`).
-/

namespace Signet

/-- A row of `id_mappings`. -/
structure IdMapping where
  networkId : String
  localId : String
  deriving DecidableEq

/-- The table `id_mappings`: `network_id` is its primary key, `local_id` is unique. -/
structure IdMappings where
  rows : List IdMapping
  networkId_unique : (rows.map (·.networkId)).Nodup
  localId_unique : (rows.map (·.localId)).Nodup

namespace IdMappings

def getLocal (m : IdMappings) (networkId : String) : Option String :=
  (m.rows.find? (·.networkId = networkId)).map (·.localId)

def getNetwork (m : IdMappings) (localId : String) : Option String :=
  (m.rows.find? (·.localId = localId)).map (·.networkId)

/-- `resolve`: the row of a network id, or else the row of a local id. -/
def resolve (m : IdMappings) (id : String) : Option IdMapping :=
  (m.rows.find? (·.networkId = id)).or (m.rows.find? (·.localId = id))

/-- A row that an id resolves to is one of the table. -/
theorem mem_of_resolve {m : IdMappings} {id : String} {row : IdMapping}
    (h : m.resolve id = some row) : row ∈ m.rows := by
  rcases Option.or_eq_some_iff.1 h with hfind | ⟨-, hfind⟩
  · exact List.mem_of_find?_eq_some hfind
  · exact List.mem_of_find?_eq_some hfind

/-- The local id of a row stands for its network id and no other. -/
theorem getNetwork_eq_some {m : IdMappings} {networkId localId : String} :
    m.getNetwork localId = some networkId ↔ ⟨networkId, localId⟩ ∈ m.rows := by
  constructor
  · intro h
    obtain ⟨row, hfind, rfl⟩ := Option.map_eq_some_iff.1 h
    have hlocal : row.localId = localId := by simpa using List.find?_some hfind
    have hmem := List.mem_of_find?_eq_some hfind
    rw [← hlocal]
    exact hmem
  · intro hmem
    have hsome : (m.rows.find? (·.localId = localId)).isSome := by
      rw [List.find?_isSome]
      exact ⟨_, hmem, decide_eq_true rfl⟩
    obtain ⟨row, hfind⟩ := Option.isSome_iff_exists.1 hsome
    have hlocal : row.localId = localId := by simpa using List.find?_some hfind
    -- both rows have the local id, which is unique in the table
    have hrow : row = ⟨networkId, localId⟩ :=
      List.inj_on_of_nodup_map m.localId_unique (List.mem_of_find?_eq_some hfind) hmem hlocal
    rw [getNetwork, hfind, hrow]
    rfl

theorem getNetwork_eq_none {m : IdMappings} {localId : String} :
    m.getNetwork localId = none ↔ ∀ row ∈ m.rows, row.localId ≠ localId := by
  simp [getNetwork, List.find?_eq_none]

end IdMappings

/-- `resolveGroupId`: a `conv_` local id or a raw group id, as a group id. -/
def resolveGroupId (idMappings : Option IdMappings) (chatId : String) : String :=
  match idMappings with
  | none => chatId
  | some m => (m.getNetwork chatId).getD chatId

/-- `resolveMessageId`, the same for message ids. -/
def resolveMessageId (idMappings : Option IdMappings) (messageId : String) : String :=
  resolveGroupId idMappings messageId

/-- `config.chatIds.map(resolveGroupId)`: the groups a list of chats names. -/
def scopedGroupIds (idMappings : Option IdMappings) (chatIds : List String) : List String :=
  chatIds.map (resolveGroupId idMappings)

theorem mem_scopedGroupIds {idMappings : Option IdMappings} {chatIds : List String}
    {groupId : String} :
    groupId ∈ scopedGroupIds idMappings chatIds ↔
      ∃ chatId ∈ chatIds, resolveGroupId idMappings chatId = groupId := by
  simp [scopedGroupIds]

/-! ### Mappings of conversations -/

/-- A mapping of `conv_` local ids to network group ids. -/
structure ConversationMappings extends IdMappings where
  localId_form : ∀ row ∈ rows, isResourceId .conversation row.localId = true
  networkId_form : ∀ row ∈ rows,
    isResourceId .conversation row.networkId = false ∧ row.networkId ≠ ""

namespace ConversationMappings

variable {m : ConversationMappings} {row : IdMapping}

theorem resolveGroupId_localId (hrow : row ∈ m.rows) :
    resolveGroupId (some m.toIdMappings) row.localId = row.networkId := by
  have hnet : m.toIdMappings.getNetwork row.localId = some row.networkId :=
    IdMappings.getNetwork_eq_some.2 hrow
  rw [resolveGroupId, hnet]
  rfl

/-- A network id is not a local id of the table, so it resolves to itself. -/
theorem resolveGroupId_networkId (hrow : row ∈ m.rows) :
    resolveGroupId (some m.toIdMappings) row.networkId = row.networkId := by
  have hnone : m.toIdMappings.getNetwork row.networkId = none := by
    rw [IdMappings.getNetwork_eq_none]
    intro row' hrow' heq
    have hform := m.localId_form row' hrow'
    rw [heq, (m.networkId_form row hrow).1] at hform
    exact absurd hform Bool.false_ne_true
  rw [resolveGroupId, hnone]
  rfl

/-- Of the conversation ids only the local id of a conversation resolves to its group. -/
theorem resolveGroupId_inj (hrow : row ∈ m.rows) {chatId : String}
    (hform : isResourceId .conversation chatId = true)
    (h : resolveGroupId (some m.toIdMappings) chatId = row.networkId) : chatId = row.localId := by
  rw [resolveGroupId] at h
  cases hnet : m.toIdMappings.getNetwork chatId with
  | none =>
    -- an unmapped conversation id resolves to itself, and that is no network id
    rw [hnet, Option.getD_none] at h
    rw [h, (m.networkId_form row hrow).1] at hform
    exact absurd hform Bool.false_ne_true
  | some networkId =>
    rw [hnet, Option.getD_some] at h
    have hmem := IdMappings.getNetwork_eq_some.1 hnet
    have hsame : (⟨networkId, chatId⟩ : IdMapping) = row :=
      List.inj_on_of_nodup_map m.networkId_unique hmem hrow h
    rw [← hsame]

/-- **Membership up to the mapping.** A list of conversation ids names the group of
a conversation exactly if it has the local id. -/
theorem networkId_mem_scopedGroupIds (hrow : row ∈ m.rows) {chatIds : List String}
    (hform : ∀ chatId ∈ chatIds, isResourceId .conversation chatId = true) :
    row.networkId ∈ scopedGroupIds (some m.toIdMappings) chatIds ↔ row.localId ∈ chatIds := by
  rw [mem_scopedGroupIds]
  constructor
  · rintro ⟨chatId, hmem, hres⟩
    rwa [← resolveGroupId_inj hrow (hform chatId hmem) hres]
  · intro hmem
    exact ⟨row.localId, hmem, resolveGroupId_localId hrow⟩

end ConversationMappings

end Signet
