import Signet.Seals.Manager

/-!
# The history of a pair

`history` walks from the head of a pair along `previous`; when the pair has no current
seal, the head is the tracked seal of the pair that no other one follows
(`findHistoryHead`).

`Linked` says that a list of seals, newest first, is a chain: each follows the next one
and the last follows none. On a manager that tracks the seals of a pair as a chain the
history of the pair is this chain (`history_eq_of_linked`), with or without a current
seal.
-/

namespace Signet

open Lib

/-- `findHistoryHead`: the first envelope that no envelope refers to. -/
def findHistoryHead (envelopes : List SealEnvelope) : Option SealEnvelope :=
  let referenced := envelopes.filterMap SealEnvelope.previousId
  envelopes.find? fun envelope => envelope.sealId ∉ referenced

namespace SealManager

variable (m : SealManager)

/-- The loop of `history`. Every round but the first is about a tracked seal and none
comes twice, so the loop ends before it runs out of rounds. -/
def walkHistory : (rounds : Nat) → (seen : List String) → Option SealEnvelope →
    List SealEnvelope
  | 0, _, _ => []
  | _, _, none => []
  | rounds + 1, seen, some cursor =>
    if cursor.sealId ∈ seen then []
    else
      -- an empty id counts as absent
      let previousId := cursor.previousId.filter (· ≠ "")
      cursor :: walkHistory rounds (cursor.sealId :: seen) (previousId.bind m.sealsById.get?)

/-- The tracked seals of a pair, oldest first. -/
def trackedSeals (credentialId chatId : String) : List SealEnvelope :=
  m.sealsById.values.filter fun envelope =>
    envelope.chain.current.credentialId = credentialId ∧ envelope.chain.current.chatId = chatId

def history (credentialId chatId : String) : List SealEnvelope :=
  let envelopes := m.trackedSeals credentialId chatId
  if envelopes.isEmpty then []
  else
    let activeHead := m.currentSeals.get? (chainKey credentialId chatId)
    let head := activeHead.or ((findHistoryHead envelopes).or (newestFirst envelopes).head?)
    m.walkHistory (m.sealsById.values.length + 1) [] head

end SealManager

/-! ### Chains of seals -/

/-- A chain of seals, newest first. -/
def Linked : List SealEnvelope → Prop
  | [] => True
  | envelope :: rest =>
    envelope.chain.previous = rest.head?.map (·.chain.current) ∧ Linked rest

/-- Every seal of the list is tracked under its id. -/
def SealManager.Tracks (m : SealManager) (chain : List SealEnvelope) : Prop :=
  ∀ envelope ∈ chain, m.sealsById.get? envelope.sealId = some envelope

/-- The seal before the first one of a chain. -/
theorem Linked.previousId_eq {envelope : SealEnvelope} {rest : List SealEnvelope}
    (h : Linked (envelope :: rest)) : envelope.previousId = rest.head?.map (·.sealId) := by
  unfold SealEnvelope.previousId
  rw [h.1, Option.map_map]
  rfl

section

variable {m : SealManager}

/-- **The walk along a chain is the chain**, with any number of rounds that suffices. -/
theorem walkHistory_eq_of_linked {chain : List SealEnvelope} (hlinked : Linked chain)
    (htracks : m.Tracks chain) (hnodup : (chain.map SealEnvelope.sealId).Nodup)
    {seen : List String} (hseen : ∀ envelope ∈ chain, envelope.sealId ∉ seen) {rounds : Nat}
    (hrounds : chain.length ≤ rounds) : m.walkHistory rounds seen chain.head? = chain := by
  induction chain generalizing seen rounds with
  | nil => cases rounds <;> rfl
  | cons envelope rest ih =>
    obtain ⟨rounds, rfl⟩ : ∃ n, rounds = n + 1 := ⟨rounds - 1, by simp at hrounds; omega⟩
    have hrest : m.walkHistory rounds (envelope.sealId :: seen) rest.head? = rest := by
      refine ih hlinked.2 (fun e he => htracks e (List.mem_cons_of_mem _ he))
        (List.nodup_cons.1 hnodup).2 (fun e he hmem => ?_) (by simpa using hrounds)
      rcases List.mem_cons.1 hmem with heq | hmem
      · exact (List.nodup_cons.1 hnodup).1 (heq ▸ List.mem_map_of_mem he)
      · exact hseen e (List.mem_cons_of_mem _ he) hmem
    -- the cursor moves to the next seal of the chain
    have hcursor : (envelope.previousId.filter (· ≠ "")).bind m.sealsById.get? = rest.head? := by
      rw [hlinked.previousId_eq]
      cases rest with
      | nil => rfl
      | cons next tail =>
        have hne : next.sealId ≠ "" := next.chain.current.sealId_ne_empty
        simp only [List.head?_cons, Option.map_some, Option.filter_some, hne, ne_eq,
          not_false_eq_true, decide_true, if_true, Option.bind_some]
        exact htracks next (List.mem_cons_of_mem _ List.mem_cons_self)
    show (if envelope.sealId ∈ seen then [] else _) = _
    rw [if_neg (hseen envelope List.mem_cons_self)]
    show envelope :: m.walkHistory rounds (envelope.sealId :: seen) _ = _
    rw [hcursor, hrest]

theorem filterMap_previousId_of_linked {chain : List SealEnvelope} (h : Linked chain) :
    chain.filterMap SealEnvelope.previousId = chain.tail.map (·.sealId) := by
  induction chain with
  | nil => rfl
  | cons envelope rest ih =>
    rw [List.tail_cons]
    cases rest with
    | nil => rw [List.filterMap_cons_none h.previousId_eq]; rfl
    | cons next tail => rw [List.filterMap_cons_some h.previousId_eq, ih h.2]; rfl

/-- **The head of a chain is the one that no other follows.** -/
theorem findHistoryHead_of_linked {chain : List SealEnvelope} (hlinked : Linked chain)
    (hnodup : (chain.map SealEnvelope.sealId).Nodup) :
    findHistoryHead chain.reverse = chain.head? := by
  have hreferenced : ∀ id, id ∈ chain.reverse.filterMap SealEnvelope.previousId ↔
      id ∈ chain.tail.map (·.sealId) := by
    intro id
    rw [← filterMap_previousId_of_linked hlinked, List.filterMap_reverse, List.mem_reverse]
  unfold findHistoryHead
  simp only [hreferenced]
  cases chain with
  | nil => rfl
  | cons envelope rest =>
    have hrest : rest.reverse.find? (fun e => decide (e.sealId ∉ rest.map (·.sealId))) = none := by
      rw [List.find?_eq_none]
      intro e he
      simpa using ⟨e, List.mem_reverse.1 he, rfl⟩
    have hhead : envelope.sealId ∉ rest.map (·.sealId) := (List.nodup_cons.1 hnodup).1
    rw [List.reverse_cons, List.find?_append, List.tail_cons, hrest, Option.none_or,
      List.find?_singleton, List.head?_cons]
    exact if_pos (decide_eq_true hhead)

/-- **The history of a pair that is tracked as a chain is the chain**, whether the pair
still has its current seal or not. -/
theorem history_eq_of_linked {credentialId chatId : String} {chain : List SealEnvelope}
    (htracked : m.trackedSeals credentialId chatId = chain.reverse) (hlinked : Linked chain)
    (htracks : m.Tracks chain) (hnodup : (chain.map SealEnvelope.sealId).Nodup)
    (hcurrent : ∀ head, chain ≠ [] →
      m.currentSeals.get? (chainKey credentialId chatId) = some head →
      chain.head? = some head) :
    m.history credentialId chatId = chain := by
  unfold SealManager.history
  rw [htracked]
  by_cases hempty : chain = []
  · subst hempty
    rfl
  have hne : chain.reverse.isEmpty = false := by simpa using hempty
  have hhead : (m.currentSeals.get? (chainKey credentialId chatId)).or
      ((findHistoryHead chain.reverse).or (SealManager.newestFirst chain.reverse).head?) =
        chain.head? := by
    cases hcur : m.currentSeals.get? (chainKey credentialId chatId) with
    | some head => exact (hcurrent head hempty hcur).symm
    | none =>
      rw [Option.none_or, findHistoryHead_of_linked hlinked hnodup]
      obtain ⟨envelope, rest, rfl⟩ := List.exists_cons_of_ne_nil hempty
      rfl
  -- the chain is part of what is tracked, so the rounds suffice
  have hlength : chain.length ≤ m.sealsById.values.length := by
    rw [← List.length_reverse, ← htracked]
    exact List.length_filter_le _ _
  simp only [hne, Bool.false_eq_true, if_false, hhead]
  exact walkHistory_eq_of_linked hlinked htracks hnodup (fun _ _ => List.not_mem_nil)
    (Nat.le_succ_of_le hlength)

end

end Signet
