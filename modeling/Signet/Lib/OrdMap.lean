import Mathlib.Data.List.Nodup
import Mathlib.Data.List.Basic

/-!
# Insertion-ordered maps

`OrdMap κ ν` is a finite map that remembers the order in which its keys were
first inserted: writing an existing key keeps its place, and a removed key that
comes back goes to the end. The entries carry the proof that no key occurs
twice, so `get?` is the whole content of the map and `entries` its enumeration.

The simp set relates the three operations pointwise:

* `get?_set_self`, `get?_set_of_ne` and the case form `get?_set`;
* `get?_erase_self`, `get?_erase_of_ne` and the case form `get?_erase`;
* `get?_mapValues`, `get?_filterValues`;
* `mem_values_iff`, `mem_entries_iff` between enumeration and lookup.

`Forall` is a property of all entries, kept by a write of an entry that has it
(`Forall.set`) and by every removal (`Forall.erase`).
-/

namespace Lib

variable {κ ν : Type} [DecidableEq κ]

/-- The value of the first entry with the key `k`. -/
def lookupEntry (k : κ) : List (κ × ν) → Option ν
  | [] => none
  | (k', v) :: rest => if k' = k then some v else lookupEntry k rest

/-- Write `k` in place if it is there, at the end otherwise. -/
def setEntry (k : κ) (v : ν) : List (κ × ν) → List (κ × ν)
  | [] => [(k, v)]
  | (k', v') :: rest => if k' = k then (k, v) :: rest else (k', v') :: setEntry k v rest

/-- Drop the entry with the key `k`. -/
def eraseEntry (k : κ) (l : List (κ × ν)) : List (κ × ν) :=
  l.filter fun e => e.1 ≠ k

/-! ### Entry lists -/

omit [DecidableEq κ] in
private theorem mem_keys_of_mem {k : κ} {v : ν} {l : List (κ × ν)} (h : (k, v) ∈ l) :
    k ∈ l.map Prod.fst :=
  List.mem_map_of_mem (f := Prod.fst) h

private theorem mem_keys_setEntry {k k' : κ} {v : ν} {l : List (κ × ν)} :
    k' ∈ (setEntry k v l).map Prod.fst ↔ k' = k ∨ k' ∈ l.map Prod.fst := by
  induction l with
  | nil => simp [setEntry]
  | cons e rest ih =>
    obtain ⟨k₀, v₀⟩ := e
    by_cases hk : k₀ = k
    · simp [setEntry, hk]
    · simp only [setEntry, hk, if_false, List.map_cons, List.mem_cons, ih]
      tauto

private theorem nodup_keys_setEntry {k : κ} {v : ν} {l : List (κ × ν)}
    (h : (l.map Prod.fst).Nodup) : ((setEntry k v l).map Prod.fst).Nodup := by
  induction l with
  | nil => simp [setEntry]
  | cons e rest ih =>
    obtain ⟨k₀, v₀⟩ := e
    simp only [List.map_cons, List.nodup_cons] at h
    by_cases hk : k₀ = k
    · subst hk
      -- the entry is replaced in its place
      simpa [setEntry] using h
    · simp only [setEntry, hk, if_false, List.map_cons, List.nodup_cons, mem_keys_setEntry]
      exact ⟨by simpa using h.1, ih h.2⟩

private theorem nodup_keys_eraseEntry {k : κ} {l : List (κ × ν)} (h : (l.map Prod.fst).Nodup) :
    ((eraseEntry k l).map Prod.fst).Nodup :=
  (List.filter_sublist.map Prod.fst).nodup h

theorem lookupEntry_eq_some_iff {k : κ} {v : ν} {l : List (κ × ν)}
    (h : (l.map Prod.fst).Nodup) : lookupEntry k l = some v ↔ (k, v) ∈ l := by
  induction l with
  | nil => simp [lookupEntry]
  | cons e rest ih =>
    obtain ⟨k₀, v₀⟩ := e
    simp only [List.map_cons, List.nodup_cons] at h
    by_cases hk : k₀ = k
    · subst hk
      -- the keys differ, so the rest has no second entry with this one
      have hnot : (k₀, v) ∉ rest := fun hmem => h.1 (mem_keys_of_mem hmem)
      simp [lookupEntry, hnot, eq_comm]
    · have hne : ¬ (k = k₀ ∧ v = v₀) := fun hkv => hk hkv.1.symm
      simp [lookupEntry, hk, hne, ih h.2]

private theorem lookupEntry_setEntry (k k' : κ) (v : ν) (l : List (κ × ν)) :
    lookupEntry k' (setEntry k v l) = if k' = k then some v else lookupEntry k' l := by
  induction l with
  | nil => simp [setEntry, lookupEntry, eq_comm]
  | cons e rest ih =>
    obtain ⟨k₀, v₀⟩ := e
    by_cases hk : k₀ = k
    · subst hk
      by_cases hk' : k' = k₀
      · simp [setEntry, lookupEntry, hk']
      · simp [setEntry, lookupEntry, hk', Ne.symm hk']
    · by_cases hk' : k₀ = k'
      · subst hk'
        simp [setEntry, lookupEntry, hk]
      · simp [setEntry, lookupEntry, hk, hk', ih]

private theorem lookupEntry_eraseEntry (k k' : κ) (l : List (κ × ν)) :
    lookupEntry k' (eraseEntry k l) = if k' = k then none else lookupEntry k' l := by
  induction l with
  | nil => simp [eraseEntry, lookupEntry]
  | cons e rest ih =>
    obtain ⟨k₀, v₀⟩ := e
    simp only [eraseEntry] at ih
    by_cases hk : k₀ = k
    · subst hk
      by_cases hk' : k' = k₀
      · subst hk'
        simpa [eraseEntry, lookupEntry] using ih
      · simpa [eraseEntry, lookupEntry, hk', Ne.symm hk'] using ih
    · by_cases hk' : k₀ = k'
      · subst hk'
        simp [eraseEntry, lookupEntry, hk]
      · simpa [eraseEntry, lookupEntry, hk, hk'] using ih

private theorem lookupEntry_map (f : ν → ν) (k : κ) (l : List (κ × ν)) :
    lookupEntry k (l.map fun e => (e.1, f e.2)) = (lookupEntry k l).map f := by
  induction l with
  | nil => rfl
  | cons e rest ih =>
    simp only [List.map_cons, lookupEntry]
    split
    · rfl
    · exact ih

/-! ### The map -/

/-- An insertion-ordered map: entries in order, no key twice. -/
structure OrdMap (κ ν : Type) where
  /-- The entries, oldest key first. -/
  entries : List (κ × ν)
  /-- No key occurs twice. -/
  nodup : (entries.map Prod.fst).Nodup
  deriving DecidableEq

namespace OrdMap

omit [DecidableEq κ] in
@[ext] theorem ext {m m' : OrdMap κ ν} (h : m.entries = m'.entries) : m = m' := by
  cases m
  cases m'
  congr

/-- The map without entries. -/
def empty : OrdMap κ ν :=
  ⟨[], List.nodup_nil⟩

/-- The value under `k`. -/
def get? (m : OrdMap κ ν) (k : κ) : Option ν :=
  lookupEntry k m.entries

/-- Is `k` a key? -/
def has (m : OrdMap κ ν) (k : κ) : Bool :=
  (m.get? k).isSome

/-- Write `v` under `k`. -/
def set (m : OrdMap κ ν) (k : κ) (v : ν) : OrdMap κ ν :=
  ⟨setEntry k v m.entries, nodup_keys_setEntry m.nodup⟩

/-- Remove `k`. -/
def erase (m : OrdMap κ ν) (k : κ) : OrdMap κ ν :=
  ⟨eraseEntry k m.entries, nodup_keys_eraseEntry m.nodup⟩

/-- Rewrite every value. -/
def mapValues (m : OrdMap κ ν) (f : ν → ν) : OrdMap κ ν :=
  ⟨m.entries.map fun e => (e.1, f e.2), by
    rw [List.map_map]
    exact m.nodup⟩

/-- Keep the entries whose value passes. -/
def filterValues (m : OrdMap κ ν) (p : ν → Bool) : OrdMap κ ν :=
  ⟨m.entries.filter fun e => p e.2, (List.filter_sublist.map Prod.fst).nodup m.nodup⟩

/-- The map has no entry. -/
def isEmpty (m : OrdMap κ ν) : Bool :=
  m.entries.isEmpty

/-- The values, oldest key first. -/
def values (m : OrdMap κ ν) : List ν :=
  m.entries.map Prod.snd

/-- The keys, oldest first. -/
def keys (m : OrdMap κ ν) : List κ :=
  m.entries.map Prod.fst

@[simp] theorem get?_empty (k : κ) : (empty : OrdMap κ ν).get? k = none := rfl

omit [DecidableEq κ] in
@[simp] theorem values_empty : (empty : OrdMap κ ν).values = [] := rfl

/-- Lookup after a write. -/
theorem get?_set (m : OrdMap κ ν) (k k' : κ) (v : ν) :
    (m.set k v).get? k' = if k' = k then some v else m.get? k' :=
  lookupEntry_setEntry k k' v m.entries

@[simp] theorem get?_set_self (m : OrdMap κ ν) (k : κ) (v : ν) : (m.set k v).get? k = some v := by
  rw [get?_set, if_pos rfl]

theorem get?_set_of_ne (m : OrdMap κ ν) {k k' : κ} (v : ν) (h : k' ≠ k) :
    (m.set k v).get? k' = m.get? k' := by
  rw [get?_set, if_neg h]

theorem get?_erase (m : OrdMap κ ν) (k k' : κ) :
    (m.erase k).get? k' = if k' = k then none else m.get? k' :=
  lookupEntry_eraseEntry k k' m.entries

@[simp] theorem get?_erase_self (m : OrdMap κ ν) (k : κ) : (m.erase k).get? k = none := by
  rw [get?_erase, if_pos rfl]

theorem get?_erase_of_ne (m : OrdMap κ ν) {k k' : κ} (h : k' ≠ k) :
    (m.erase k).get? k' = m.get? k' := by
  rw [get?_erase, if_neg h]

theorem erase_eq_self_iff {m : OrdMap κ ν} {k : κ} : m.erase k = m ↔ m.get? k = none := by
  constructor
  · intro h
    rw [← h]
    exact get?_erase_self m k
  · intro h
    apply OrdMap.ext
    -- an entry with the key would be found under it
    refine List.filter_eq_self.2 fun entry hentry => decide_eq_true ?_
    rintro rfl
    rw [get?, (lookupEntry_eq_some_iff m.nodup).2 hentry] at h
    cases h

theorem get?_set_eq_some {m : OrdMap κ ν} {k k' : κ} {v v' : ν}
    (h : (m.set k v).get? k' = some v') : (k' = k ∧ v' = v) ∨ (k' ≠ k ∧ m.get? k' = some v') := by
  rw [get?_set] at h
  split at h
  · next hk => exact .inl ⟨hk, (Option.some.inj h).symm⟩
  · next hk => exact .inr ⟨hk, h⟩

theorem get?_erase_eq_some {m : OrdMap κ ν} {k k' : κ} {v : ν}
    (h : (m.erase k).get? k' = some v) : k' ≠ k ∧ m.get? k' = some v := by
  rw [get?_erase] at h
  split at h
  · simp at h
  · next hk => exact ⟨hk, h⟩

theorem get?_mapValues (m : OrdMap κ ν) (f : ν → ν) (k : κ) :
    (m.mapValues f).get? k = (m.get? k).map f :=
  lookupEntry_map f k m.entries

theorem mem_entries_iff {m : OrdMap κ ν} {k : κ} {v : ν} :
    (k, v) ∈ m.entries ↔ m.get? k = some v :=
  (lookupEntry_eq_some_iff m.nodup).symm

theorem mem_values_iff {m : OrdMap κ ν} {v : ν} : v ∈ m.values ↔ ∃ k, m.get? k = some v := by
  constructor
  · intro h
    obtain ⟨⟨k, v'⟩, hmem, rfl⟩ := List.mem_map.1 h
    exact ⟨k, mem_entries_iff.1 hmem⟩
  · rintro ⟨k, hk⟩
    exact List.mem_map.2 ⟨(k, v), mem_entries_iff.2 hk, rfl⟩

theorem get?_filterValues (m : OrdMap κ ν) (p : ν → Bool) (k : κ) :
    (m.filterValues p).get? k = (m.get? k).filter p := by
  ext v
  have hmem : (k, v) ∈ (m.filterValues p).entries ↔ (k, v) ∈ m.entries ∧ p v = true :=
    List.mem_filter
  rw [Option.filter_eq_some_iff, ← mem_entries_iff, ← mem_entries_iff]
  exact hmem

theorem get?_of_isEmpty {m : OrdMap κ ν} (h : m.isEmpty = true) (k : κ) : m.get? k = none := by
  have hnil : m.entries = [] := List.isEmpty_iff.1 h
  rw [get?, hnil]
  rfl

omit [DecidableEq κ] in
theorem eq_empty_of_isEmpty {m : OrdMap κ ν} (h : m.isEmpty = true) : m = empty := by
  obtain ⟨entries, hnodup⟩ := m
  obtain rfl : entries = [] := List.isEmpty_iff.1 h
  rfl

omit [DecidableEq κ] in
@[simp] theorem filterValues_filterValues (m : OrdMap κ ν) (p : ν → Bool) :
    (m.filterValues p).filterValues p = m.filterValues p := by
  have hentries : ((m.filterValues p).filterValues p).entries = (m.filterValues p).entries := by
    show List.filter _ (List.filter _ m.entries) = List.filter _ m.entries
    rw [List.filter_filter]
    simp only [Bool.and_self]
  calc (m.filterValues p).filterValues p
      = ⟨((m.filterValues p).filterValues p).entries, _⟩ := rfl
    _ = ⟨(m.filterValues p).entries, (m.filterValues p).nodup⟩ := by simp only [hentries]
    _ = m.filterValues p := rfl

@[simp] theorem has_eq_true_iff {m : OrdMap κ ν} {k : κ} :
    m.has k = true ↔ ∃ v, m.get? k = some v := by
  rw [has, Option.isSome_iff_exists]

theorem has_set_iff {m : OrdMap κ ν} {k k' : κ} {v : ν} :
    (m.set k v).has k' = true ↔ k' = k ∨ m.has k' = true := by
  rw [has_eq_true_iff, has_eq_true_iff, get?_set]
  split
  · next heq => exact iff_of_true ⟨v, rfl⟩ (Or.inl heq)
  · next hne => exact (or_iff_right hne).symm

theorem has_erase_iff {m : OrdMap κ ν} {k k' : κ} :
    (m.erase k).has k' = true ↔ k' ≠ k ∧ m.has k' = true := by
  rw [has_eq_true_iff, has_eq_true_iff, get?_erase]
  split
  · next heq => exact iff_of_false (fun h => by cases h.choose_spec) (fun h => h.1 heq)
  · next hne => exact (and_iff_right hne).symm

theorem get?_eq_none_of_not_has {m : OrdMap κ ν} {k : κ} (h : ¬ m.has k = true) :
    m.get? k = none :=
  Option.not_isSome_iff_eq_none.1 h

theorem mem_keys_iff {m : OrdMap κ ν} {k : κ} : k ∈ m.keys ↔ m.has k = true := by
  rw [has_eq_true_iff]
  constructor
  · intro hmem
    obtain ⟨⟨k', v⟩, hentry, rfl⟩ := List.mem_map.1 hmem
    exact ⟨v, mem_entries_iff.1 hentry⟩
  · rintro ⟨v, hget⟩
    exact List.mem_map.2 ⟨(k, v), mem_entries_iff.2 hget, rfl⟩

theorem setEntry_of_not_mem {k : κ} {v : ν} {l : List (κ × ν)}
    (h : k ∉ l.map Prod.fst) : setEntry k v l = l ++ [(k, v)] := by
  induction l with
  | nil => rfl
  | cons e rest ih =>
    obtain ⟨k₀, v₀⟩ := e
    simp only [List.map_cons, List.mem_cons, not_or] at h
    simp only [setEntry, if_neg (Ne.symm h.1), List.cons_append, ih h.2]

theorem entries_set_of_new {m : OrdMap κ ν} {k : κ} (v : ν) (h : m.get? k = none) :
    (m.set k v).entries = m.entries ++ [(k, v)] := by
  have hnot : k ∉ m.entries.map Prod.fst := by
    intro hmem
    obtain ⟨⟨k', v'⟩, hentry, rfl⟩ := List.mem_map.1 hmem
    rw [mem_entries_iff.1 hentry] at h
    cases h
  exact setEntry_of_not_mem hnot

theorem values_set_of_new {m : OrdMap κ ν} {k : κ} (v : ν) (h : m.get? k = none) :
    (m.set k v).values = m.values ++ [v] := by
  show (m.set k v).entries.map Prod.snd = m.entries.map Prod.snd ++ [v]
  rw [entries_set_of_new v h, List.map_append]
  rfl

/-- Values written under their keys one after the other: the last one of a key stays. -/
theorem get?_foldl_set (key : ν → κ) (xs : List ν) (m : OrdMap κ ν) (k : κ) :
    (xs.foldl (fun m x => m.set (key x) x) m).get? k =
      (xs.reverse.find? fun x => decide (key x = k)).or (m.get? k) := by
  induction xs generalizing m with
  | nil => rfl
  | cons x xs ih =>
    rw [List.foldl_cons, ih, List.reverse_cons, List.find?_append, Option.or_assoc, get?_set]
    congr 1
    -- the head is written first, so it is looked up last
    by_cases hk : key x = k
    · have hfind : [x].find? (fun x => decide (key x = k)) = some x := by simp [hk]
      rw [if_pos hk.symm, hfind, Option.some_or]
    · have hfind : [x].find? (fun x => decide (key x = k)) = none := by simp [hk]
      rw [if_neg (Ne.symm hk), hfind, Option.none_or]

/-- Add the entries of another map under the keys that are not there. -/
def fillFrom (m other : OrdMap κ ν) : OrdMap κ ν :=
  other.entries.foldl (fun m e => if m.has e.1 then m else m.set e.1 e.2) m

theorem get?_fillFrom (m other : OrdMap κ ν) (k : κ) :
    (m.fillFrom other).get? k = (m.get? k).or (other.get? k) := by
  show (other.entries.foldl _ m).get? k = (m.get? k).or (lookupEntry k other.entries)
  generalize other.entries = entries
  induction entries generalizing m with
  | nil => exact (Option.or_none).symm
  | cons e rest ih =>
    obtain ⟨k₀, v₀⟩ := e
    rw [List.foldl_cons, ih]
    simp only [lookupEntry]
    by_cases hthere : m.has k₀ = true
    · rw [if_pos hthere]
      by_cases hk : k₀ = k
      · -- the key is there, so neither side looks further
        obtain ⟨v, hget⟩ := has_eq_true_iff.1 hthere
        rw [← hk, hget, Option.some_or, Option.some_or]
      · rw [if_neg hk]
    · rw [if_neg hthere, get?_set]
      by_cases hk : k₀ = k
      · rw [if_pos hk.symm, if_pos hk, ← hk, get?_eq_none_of_not_has hthere, Option.some_or,
          Option.none_or]
      · rw [if_neg (Ne.symm hk), if_neg hk]

/-- If the key of a value can be read off the value, no two values have one key. -/
theorem nodup_values_of_key {m : OrdMap κ ν} (key : ν → κ)
    (h : ∀ {k v}, m.get? k = some v → key v = k) : (m.values.map key).Nodup := by
  have hkeys : m.values.map key = m.keys := by
    unfold values keys
    rw [List.map_map]
    exact List.map_congr_left fun e he => h (mem_entries_iff.1 he)
  rw [hkeys]
  exact m.nodup

private theorem countP_setEntry {k : κ} {v : ν} {p : ν → Bool} {l : List (κ × ν)} :
    ((setEntry k v l).map Prod.snd).countP p + (if (lookupEntry k l).any p then 1 else 0) =
      (l.map Prod.snd).countP p + (if p v then 1 else 0) := by
  induction l with
  | nil => simp [setEntry, lookupEntry, List.countP_cons]
  | cons e rest ih =>
    obtain ⟨k₀, v₀⟩ := e
    by_cases hk : k₀ = k
    -- the head has the key: the new value counts instead of the old one
    · simp only [setEntry, lookupEntry, if_pos hk, List.map_cons, List.countP_cons,
        Option.any_some]
      omega
    · simp only [setEntry, lookupEntry, if_neg hk, List.map_cons, List.countP_cons]
      omega

/-- How a write changes the number of values that pass: the old value of the key
goes, the new one comes. -/
theorem countP_values_set (m : OrdMap κ ν) (k : κ) (v : ν) (p : ν → Bool) :
    (m.set k v).values.countP p + (if (m.get? k).any p then 1 else 0) =
      m.values.countP p + (if p v then 1 else 0) :=
  countP_setEntry

private theorem eraseEntry_of_not_mem {k : κ} {l : List (κ × ν)} (h : k ∉ l.map Prod.fst) :
    eraseEntry k l = l := by
  refine List.filter_eq_self.2 fun e he => decide_eq_true fun heq => h ?_
  exact List.mem_map.2 ⟨e, he, heq⟩

private theorem countP_eraseEntry {k : κ} {p : ν → Bool} {l : List (κ × ν)}
    (hnodup : (l.map Prod.fst).Nodup) :
    ((eraseEntry k l).map Prod.snd).countP p + (if (lookupEntry k l).any p then 1 else 0) =
      (l.map Prod.snd).countP p := by
  induction l with
  | nil => rfl
  | cons e rest ih =>
    obtain ⟨k₀, v₀⟩ := e
    rw [List.map_cons, List.nodup_cons] at hnodup
    by_cases hk : k₀ = k
    -- the head goes, and no second entry has its key
    · have hrest : eraseEntry k ((k₀, v₀) :: rest) = eraseEntry k rest :=
        List.filter_cons_of_neg (by simpa using hk)
      rw [hrest, eraseEntry_of_not_mem (hk ▸ hnodup.1)]
      simp only [lookupEntry, if_pos hk, List.map_cons, List.countP_cons, Option.any_some]
    · have hrest : eraseEntry k ((k₀, v₀) :: rest) = (k₀, v₀) :: eraseEntry k rest :=
        List.filter_cons_of_pos (by simpa using hk)
      have hcount := ih hnodup.2
      rw [hrest]
      simp only [lookupEntry, if_neg hk, List.map_cons, List.countP_cons]
      omega

theorem countP_values_erase (m : OrdMap κ ν) (k : κ) (p : ν → Bool) :
    (m.erase k).values.countP p + (if (m.get? k).any p then 1 else 0) = m.values.countP p :=
  countP_eraseEntry m.nodup

/-! ### Properties of all entries -/

/-- Every entry has the property. -/
def Forall (m : OrdMap κ ν) (P : κ → ν → Prop) : Prop :=
  ∀ k v, m.get? k = some v → P k v

namespace Forall

variable {m : OrdMap κ ν} {P Q : κ → ν → Prop} {k : κ} {v : ν}

theorem empty : (OrdMap.empty : OrdMap κ ν).Forall P :=
  fun _ _ h => absurd h nofun

/-- The property of an entry that is found. -/
theorem of_get? (h : m.Forall P) (hget : m.get? k = some v) : P k v :=
  h k v hget

theorem imp (h : m.Forall P) (himp : ∀ {k v}, P k v → Q k v) : m.Forall Q :=
  fun k v hget => himp (h k v hget)

/-- After a write an entry has a property that the written entry has and the others
have kept. -/
theorem set_of_ne (h : ∀ k' v', k' ≠ k → m.get? k' = some v' → P k' v') (hnew : P k v) :
    (m.set k v).Forall P := by
  intro k' v' hget
  rcases get?_set_eq_some hget with ⟨rfl, rfl⟩ | ⟨hne, hold⟩
  · exact hnew
  · exact h k' v' hne hold

theorem set (h : m.Forall P) (hnew : P k v) : (m.set k v).Forall P :=
  set_of_ne (fun k' v' _ hold => h k' v' hold) hnew

/-- A removal keeps every property, and needs it of no entry under the removed key. -/
theorem erase_of_ne (h : ∀ k' v', k' ≠ k → m.get? k' = some v' → P k' v') :
    (m.erase k).Forall P := by
  intro k' v' hget
  obtain ⟨hne, hold⟩ := get?_erase_eq_some hget
  exact h k' v' hne hold

theorem erase (h : m.Forall P) (k : κ) : (m.erase k).Forall P :=
  erase_of_ne fun k' v' _ hold => h k' v' hold

end Forall

end OrdMap

end Lib
