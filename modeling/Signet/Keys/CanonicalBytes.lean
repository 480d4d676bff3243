import Signet.Keys.OperationalKeys
import Signet.Lib.JsonText
import Signet.Lib.Utf8
import Mathlib.Data.List.Lex

/-!
# Canonical bytes

`canonicalize` of the seals and of the verifier package, of the seal stamper, and what the compat
key manager signs. Each of them has a recursion of its own that sorts the keys of every object
(`sortKeys`, `sortKeysCompat`), word for word the same, and encodes the JSON text of the result.

`SameJson` is equality up to the order of keys and undefined properties.

What is sorted is not what the text says: `JSON.stringify` enumerates array indexes first whatever
the order in which keys were created. So the text is described by the members in their final order
(`canonicalMembers`). That order is strict (`pairwise_canonicalMembers`), so the members of two
equal objects are the same list. The other direction reads the text back.
-/

namespace Signet

open Lib

/-! ### Sorting keys -/

/-- `__proto__`, which is no property to assign to. -/
def protoProperty : JsString := [0x5f, 0x5f, 0x70, 0x72, 0x6f, 0x74, 0x6f, 0x5f, 0x5f]

/-- The code units of a key, as numbers to be compared. -/
def unitValues (key : JsString) : List Nat := key.map UInt16.toNat

/-- `.sort()` of the keys, by code units; every key carries its value. -/
def sortByKey {α : Type} (properties : List (JsString × α)) : List (JsString × α) :=
  properties.insertionSort fun p q => unitValues p.1 ≤ unitValues q.1

/-- `sorted[key] = …` for each key, on an object without properties. -/
def assignAll {α : Type} (properties : List (JsString × α)) : List (JsString × α) :=
  properties.foldl (fun sorted p =>
    if p.1 = protoProperty then sorted else setEntry p.1 p.2 sorted) []

mutual

def sortKeys : JsValue → JsValue
  | .null => .null
  | .bool b => .bool b
  | .number x => .number x
  | .string s => .string s
  | .array items => .array (sortKeysItems items)
  | .object properties =>
    .object (assignAll (sortByKey (ownOrder (sortKeysProperties properties))))

def sortKeysItems : List JsValue → List JsValue
  | [] => []
  | item :: items => sortKeys item :: sortKeysItems items

def sortKeysProperties : List (JsString × Option JsValue) → List (JsString × Option JsValue)
  | [] => []
  | (key, none) :: properties => (key, none) :: sortKeysProperties properties
  | (key, some value) :: properties =>
    (key, some (sortKeys value)) :: sortKeysProperties properties

end

/-- The UTF-8 of the JSON text with sorted keys. -/
def canonicalBytes (value : JsValue) : Bytes := encodeUtf8 (sortKeys value).stringify

/-- `canonicalize` of the seals package. -/
def Seals.canonicalize (value : JsValue) : Bytes := canonicalBytes value

/-- `canonicalize` of the verifier package. -/
def Verifier.canonicalize (value : JsValue) : Bytes := canonicalBytes value

/-- `canonicalize` of the seal stamper. -/
def Keys.canonicalize (value : JsValue) : Bytes := canonicalBytes value

/-- What the stamper of the compat key manager signs, with `sortKeysCompat`. -/
def Keys.canonicalizeCompat (value : JsValue) : Bytes := canonicalBytes value

theorem sortKeysItems_eq (items : List JsValue) : sortKeysItems items = items.map sortKeys := by
  induction items with
  | nil => rfl
  | cons item items ih => rw [sortKeysItems, ih, List.map_cons]

theorem sortKeysProperties_eq (properties : List (JsString × Option JsValue)) :
    sortKeysProperties properties = mapProperties sortKeys properties := by
  induction properties with
  | nil => rfl
  | cons p properties ih =>
    obtain ⟨key, value?⟩ := p
    cases value? with
    -- an undefined property stays in its place
    | none => rw [sortKeysProperties, ih]; rfl
    | some value => rw [sortKeysProperties, ih]; rfl

/-! ### The values -/

/-- The keys of an object: each once, and none of them `__proto__`. -/
structure SafeKeys (keys : List JsString) : Prop where
  nodup : keys.Nodup
  noProto : protoProperty ∉ keys

theorem SafeKeys.perm {keys keys' : List JsString} (h : SafeKeys keys) (hperm : keys'.Perm keys) :
    SafeKeys keys' where
  nodup := hperm.nodup_iff.2 h.nodup
  noProto hmem := h.noProto (hperm.mem_iff.1 hmem)

/-- A JSON-like value without `__proto__` keys. -/
structure JsonLike where
  value : JsValue
  safe : value.All SafeKeys

/-- The value of a property; there is none if the property is undefined or not there. -/
def valueAt (properties : List (JsString × Option JsValue)) (key : JsString) : Option JsValue :=
  (lookupEntry key properties).join

/-- **Equal up to the order of keys and undefined properties.** Numbers are compared by `===`. -/
inductive SameJson : JsValue → JsValue → Prop
  | null : SameJson .null .null
  | bool (b : Bool) : SameJson (.bool b) (.bool b)
  | number {x y : JsNumber} (h : x.StrictEq y) : SameJson (.number x) (.number y)
  | string (s : JsString) : SameJson (.string s) (.string s)
  | array {items items' : List JsValue} (h : List.Forall₂ SameJson items items') :
      SameJson (.array items) (.array items')
  | object {properties properties' : List (JsString × Option JsValue)}
      (h : ∀ key, Option.Rel SameJson (valueAt properties key) (valueAt properties' key)) :
      SameJson (.object properties) (.object properties')

theorem valueAt_eq_some {properties : List (JsString × Option JsValue)}
    (hnodup : (properties.map (·.1)).Nodup) {key : JsString} {value : JsValue} :
    valueAt properties key = some value ↔ (key, some value) ∈ properties := by
  unfold valueAt
  rw [Option.join_eq_some_iff, lookupEntry_eq_some_iff hnodup]

/-- Objects are the same if every member of one has its like in the other. -/
theorem sameJson_object_iff {properties properties' : List (JsString × Option JsValue)}
    (hnodup : (properties.map (·.1)).Nodup) (hnodup' : (properties'.map (·.1)).Nodup) :
    SameJson (.object properties) (.object properties') ↔
      (∀ key value, (key, some value) ∈ properties →
        ∃ value', (key, some value') ∈ properties' ∧ SameJson value value') ∧
      ∀ key value', (key, some value') ∈ properties' →
        ∃ value, (key, some value) ∈ properties ∧ SameJson value value' := by
  constructor
  · intro hsame
    cases hsame with
    | object h =>
      constructor
      · intro key value hmem
        have hkey := h key
        rw [(valueAt_eq_some hnodup).2 hmem] at hkey
        generalize hright : valueAt properties' key = right at hkey
        cases hkey with
        | some hvalue => exact ⟨_, (valueAt_eq_some hnodup').1 hright, hvalue⟩
      · intro key value' hmem
        have hkey := h key
        rw [(valueAt_eq_some hnodup').2 hmem] at hkey
        generalize hleft : valueAt properties key = left at hkey
        cases hkey with
        | some hvalue => exact ⟨_, (valueAt_eq_some hnodup).1 hleft, hvalue⟩
  · rintro ⟨hleft, hright⟩
    -- key by key; a key that only one side has would have its like in the other
    refine .object fun key => ?_
    cases hvalue : valueAt properties key with
    | some value =>
      obtain ⟨value', hmem, hsame⟩ := hleft key value ((valueAt_eq_some hnodup).1 hvalue)
      rw [(valueAt_eq_some hnodup').2 hmem]
      exact .some hsame
    | none =>
      cases hvalue' : valueAt properties' key with
      | none => exact .none
      | some value' =>
        obtain ⟨value, hmem, -⟩ := hright key value' ((valueAt_eq_some hnodup').1 hvalue')
        rw [(valueAt_eq_some hnodup).2 hmem] at hvalue
        cases hvalue

/-! ### The text of a sorted value -/

section Members

variable {properties : List (JsString × Option JsValue)}

theorem perm_sortByKey {α : Type} (properties : List (JsString × α)) :
    (sortByKey properties).Perm properties :=
  List.perm_insertionSort _ properties

theorem sortByKey_map {α β : Type} (f : α → β) (properties : List (JsString × α)) :
    sortByKey (properties.map fun p => (p.1, f p.2)) =
      (sortByKey properties).map fun p => (p.1, f p.2) := by
  unfold sortByKey
  symm
  apply List.map_insertionSort
  intro p _ q _
  exact Iff.rfl

/-- Properties that are assigned to different keys are created in their order. -/
theorem assignAll_eq {α : Type} {properties : List (JsString × α)}
    (h : SafeKeys (properties.map (·.1))) : assignAll properties = properties := by
  -- the only key whose assignment creates no property is not there
  have hassign : assignAll properties =
      properties.foldl (fun created p => setEntry p.1 p.2 created) [] := by
    refine List.foldl_ext _ _ _ fun sorted p hmem => if_neg fun hproto => h.noProto ?_
    rw [← hproto]
    exact List.mem_map_of_mem hmem
  rw [hassign, foldl_setEntry h.nodup]

/-- The members of an object in the order of its canonical text. -/
def canonicalMembers (properties : List (JsString × Option JsValue)) :
    List (JsString × JsValue) :=
  members (sortByKey (ownOrder properties))

theorem perm_sorted (properties : List (JsString × Option JsValue)) :
    (sortByKey (ownOrder properties)).Perm properties :=
  (perm_sortByKey _).trans (perm_ownOrder properties)

theorem mem_canonicalMembers {key : JsString} {value : JsValue} :
    (key, value) ∈ canonicalMembers properties ↔ (key, some value) ∈ properties := by
  unfold canonicalMembers
  rw [mem_members, (perm_sorted properties).mem_iff]

/-- Sorting the keys of an object and then its values. -/
theorem sortKeys_object (h : SafeKeys (properties.map (·.1))) :
    sortKeys (.object properties) =
      .object (mapProperties sortKeys (sortByKey (ownOrder properties))) := by
  have hsorted : sortByKey (ownOrder (mapProperties sortKeys properties)) =
      mapProperties sortKeys (sortByKey (ownOrder properties)) := by
    unfold mapProperties
    rw [ownOrder_map (Option.map sortKeys), sortByKey_map]
  have hkeys : ((mapProperties sortKeys (sortByKey (ownOrder properties))).map (·.1)).Perm
      (properties.map (·.1)) := by
    unfold mapProperties
    rw [List.map_map]
    exact (perm_sorted properties).map _
  rw [sortKeys, sortKeysProperties_eq, hsorted, assignAll_eq (h.perm hkeys)]

theorem stringify_sortKeys_array (items : List JsValue) :
    (sortKeys (.array items)).stringify =
      '[' :: ([','].intercalate (items.map fun item => (sortKeys item).stringify) ++ [']']) := by
  rw [sortKeys, sortKeysItems_eq, JsValue.stringify_array, List.map_map]
  rfl

/-- **The canonical text of an object** is that of its members in the canonical order. -/
theorem stringify_sortKeys_object (h : SafeKeys (properties.map (·.1))) :
    (sortKeys (.object properties)).stringify =
      openBrace :: ([','].intercalate ((canonicalMembers properties).map fun p =>
        memberText (p.1, (sortKeys p.2).stringify)) ++ [closeBrace]) := by
  rw [sortKeys_object h, JsValue.stringify_object, members_mapProperties, List.map_map]
  rfl

/-! ### The canonical order -/

/-- One key comes before another in a canonical text. -/
def KeyBefore (key key' : JsString) : Prop :=
  match arrayIndex? key, arrayIndex? key' with
  | some i, some j => i < j
  | some _, none => True
  | none, some _ => False
  | none, none => unitValues key < unitValues key'

theorem KeyBefore.asymm {key key' : JsString} (h : KeyBefore key key') : ¬ KeyBefore key' key := by
  unfold KeyBefore at h ⊢
  cases hi : arrayIndex? key with
  | some i =>
    cases hj : arrayIndex? key' with
    | some j =>
      rw [hi, hj] at h
      exact lt_asymm h
    | none => exact id
  | none =>
    cases hj : arrayIndex? key' with
    | some j =>
      rw [hi, hj] at h
      exact h.elim
    | none =>
      rw [hi, hj] at h
      exact lt_asymm h

/-- Sorting by a value of a linear order. -/
theorem pairwise_insertionSort_by {α κ : Type} [LinearOrder κ] (f : α → κ) (l : List α) :
    (l.insertionSort fun a b => f a ≤ f b).Pairwise fun a b => f a ≤ f b := by
  have : Std.Total fun a b : α => f a ≤ f b := ⟨fun a b => le_total (f a) (f b)⟩
  have : IsTrans α fun a b => f a ≤ f b := ⟨fun a b c => le_trans⟩
  exact List.pairwise_insertionSort _ l

theorem unitValues_injective : Function.Injective unitValues :=
  List.map_injective_iff.2 fun _ _ h => UInt16.toNat_inj.1 h

theorem pairwise_sortByKey {α : Type} {properties : List (JsString × α)}
    (hnodup : (properties.map (·.1)).Nodup) :
    (sortByKey properties).Pairwise fun p q => unitValues p.1 < unitValues q.1 := by
  have hle := pairwise_insertionSort_by (fun p : JsString × α => unitValues p.1) properties
  have hne : ((sortByKey properties).map (·.1)).Nodup :=
    ((perm_sortByKey properties).map _).nodup_iff.2 hnodup
  refine hle.imp₂ (fun p q hpq hkeys => lt_of_le_of_ne hpq ?_) (List.pairwise_map.1 hne)
  exact fun heq => hkeys (unitValues_injective heq)

/-- **Sorted keys are enumerated in the canonical order**, which depends on nothing but the keys. -/
theorem pairwise_ownOrder {α : Type} {sorted : List (JsString × α)}
    (h : sorted.Pairwise fun p q => unitValues p.1 < unitValues q.1) :
    (ownOrder sorted).Pairwise fun p q => KeyBefore p.1 q.1 := by
  unfold ownOrder
  refine List.pairwise_append.2 ⟨?_, ?_, ?_⟩
  · -- the array indexes: two keys have different ones
    have hle := pairwise_insertionSort_by
      (fun p : JsString × α => (arrayIndex? p.1).getD 0)
      (sorted.filter fun p => (arrayIndex? p.1).isSome)
    have hne : (sorted.filter fun p => (arrayIndex? p.1).isSome).Pairwise
        fun p q => p.1 ≠ q.1 := by
      refine (h.filter _).imp fun hpq heq => ?_
      rw [heq] at hpq
      exact lt_irrefl _ hpq
    have hne' := (List.perm_insertionSort (fun p q : JsString × α =>
      (arrayIndex? p.1).getD 0 ≤ (arrayIndex? q.1).getD 0) _).symm.pairwise hne
        fun hpq => Ne.symm hpq
    refine (hle.and hne').imp_of_mem fun {p q} hp hq hpq => ?_
    have hp' := (List.mem_filter.1 ((List.mem_insertionSort _).1 hp)).2
    have hq' := (List.mem_filter.1 ((List.mem_insertionSort _).1 hq)).2
    obtain ⟨i, hi⟩ := Option.isSome_iff_exists.1 hp'
    obtain ⟨j, hj⟩ := Option.isSome_iff_exists.1 hq'
    obtain ⟨hij, hkeys⟩ := hpq
    rw [hi, hj, Option.getD_some, Option.getD_some] at hij
    unfold KeyBefore
    rw [hi, hj]
    refine lt_of_le_of_ne hij fun heq => hkeys (eq_of_arrayIndex? hi ?_)
    rw [heq]
    exact hj
  · -- the other keys
    refine (h.filter _).imp_of_mem fun {p q} hp hq hpq => ?_
    have hp' := Option.isNone_iff_eq_none.1 (List.mem_filter.1 hp).2
    have hq' := Option.isNone_iff_eq_none.1 (List.mem_filter.1 hq).2
    unfold KeyBefore
    rw [hp', hq']
    exact hpq
  · intro p hp q hq
    have hp' := (List.mem_filter.1 ((List.mem_insertionSort _).1 hp)).2
    have hq' := Option.isNone_iff_eq_none.1 (List.mem_filter.1 hq).2
    obtain ⟨i, hi⟩ := Option.isSome_iff_exists.1 hp'
    unfold KeyBefore
    rw [hi, hq']
    trivial

theorem pairwise_canonicalMembers (hnodup : (properties.map (·.1)).Nodup) :
    (canonicalMembers properties).Pairwise fun p q => KeyBefore p.1 q.1 := by
  have hkeys : ((ownOrder properties).map (·.1)).Nodup :=
    ((perm_ownOrder properties).map _).nodup_iff.2 hnodup
  have hsorted := pairwise_ownOrder (pairwise_sortByKey hkeys)
  unfold canonicalMembers members definedProperties
  rw [List.pairwise_filterMap]
  refine hsorted.imp ?_
  rintro ⟨key, value?⟩ ⟨key', value'?⟩ hbefore p hp q hq
  obtain ⟨value, -, rfl⟩ := Option.map_eq_some_iff.1 hp
  obtain ⟨value', -, rfl⟩ := Option.map_eq_some_iff.1 hq
  exact hbefore

/-- Lists in the canonical order with the same members are the same list. -/
theorem eq_of_pairwise_keyBefore {α : Type} {l l' : List (JsString × α)}
    (h : l.Pairwise fun p q => KeyBefore p.1 q.1) (h' : l'.Pairwise fun p q => KeyBefore p.1 q.1)
    (hmem : ∀ p, p ∈ l ↔ p ∈ l') : l = l' := by
  have hnodup : ∀ {l : List (JsString × α)}, l.Pairwise (fun p q => KeyBefore p.1 q.1) →
      l.Nodup := fun h => h.imp fun hpq heq => by
    rw [heq] at hpq
    exact hpq.asymm hpq
  refine List.Perm.eq_of_pairwise (fun p q _ _ hpq hqp => absurd hqp hpq.asymm) h h' ?_
  exact (List.perm_ext_iff_of_nodup (hnodup h) (hnodup h')).2 hmem

/-! ### Equal values have equal bytes -/

theorem map_eq_of_forall₂ {α β γ : Type} {R : α → β → Prop} {f : α → γ} {g : β → γ} {l : List α}
    {l' : List β} (h : List.Forall₂ R l l') (hfg : ∀ a ∈ l, ∀ b ∈ l', R a b → f a = g b) :
    l.map f = l'.map g := by
  induction h with
  | nil => rfl
  | cons hab hrest ih =>
    rw [List.map_cons, List.map_cons, hfg _ List.mem_cons_self _ List.mem_cons_self hab,
      ih fun a ha b hb => hfg a (List.mem_cons_of_mem _ ha) b (List.mem_cons_of_mem _ hb)]

theorem safe_of_mem (h : (JsValue.object properties).All SafeKeys) {key : JsString}
    {value : JsValue} (hmem : (key, some value) ∈ properties) : value.All SafeKeys :=
  (JsValue.all_object.1 h).2 key value hmem

/-- **The canonical text is that of every equal value.** -/
theorem stringify_sortKeys_of_same {v w : JsValue} (hv : v.All SafeKeys) (hw : w.All SafeKeys)
    (hsame : SameJson v w) : (sortKeys v).stringify = (sortKeys w).stringify := by
  -- on the value; the two differ in the sign of zeros, the order of keys and undefined properties
  induction v generalizing w with
  | null =>
    cases hsame
    rfl
  | bool b =>
    cases hsame
    rfl
  | number x =>
    cases hsame with
    | @number _ y h =>
      calc x.text = x.asRead.text := (text_asRead x).symm
        _ = y.asRead.text := by rw [strictEq_iff.1 h]
        _ = y.text := text_asRead y
  | string s =>
    cases hsame
    rfl
  | array items ih =>
    cases hsame with
    | @array _ items' h =>
      rw [JsValue.all_array] at hv hw
      have htexts : items.map (fun item => (sortKeys item).stringify) =
          items'.map fun item => (sortKeys item).stringify :=
        map_eq_of_forall₂ h fun item hmem item' hmem' hitem =>
          ih item hmem (hv item hmem) (hw item' hmem') hitem
      rw [stringify_sortKeys_array, stringify_sortKeys_array, htexts]
  | object properties ih =>
    cases w with
    | object properties' =>
      have hkeys := (JsValue.all_object.1 hv).1
      have hkeys' := (JsValue.all_object.1 hw).1
      obtain ⟨hleft, hright⟩ := (sameJson_object_iff hkeys.nodup hkeys'.nodup).1 hsame
      have hmembers : (canonicalMembers properties).map
            (fun p => (p.1, (sortKeys p.2).stringify)) =
          (canonicalMembers properties').map fun p => (p.1, (sortKeys p.2).stringify) := by
        -- both lists are in the canonical order and have the same members
        refine eq_of_pairwise_keyBefore
          (List.pairwise_map.2 (pairwise_canonicalMembers hkeys.nodup))
          (List.pairwise_map.2 (pairwise_canonicalMembers hkeys'.nodup)) ?_
        rintro ⟨key, text⟩
        simp only [List.mem_map, Prod.mk.injEq, Prod.exists, mem_canonicalMembers]
        constructor
        · rintro ⟨_, value, hmem, rfl, rfl⟩
          obtain ⟨value', hmem', hvalue⟩ := hleft _ value hmem
          exact ⟨_, value', hmem', rfl,
            (ih _ value hmem (safe_of_mem hv hmem) (safe_of_mem hw hmem') hvalue).symm⟩
        · rintro ⟨_, value', hmem', rfl, rfl⟩
          obtain ⟨value, hmem, hvalue⟩ := hright _ value' hmem'
          exact ⟨_, value, hmem, rfl,
            ih _ value hmem (safe_of_mem hv hmem) (safe_of_mem hw hmem') hvalue⟩
      rw [stringify_sortKeys_object hkeys, stringify_sortKeys_object hkeys']
      have htexts := congrArg (List.map memberText) hmembers
      rw [List.map_map, List.map_map] at htexts
      exact congrArg (fun texts => openBrace :: ([','].intercalate texts ++ [closeBrace])) htexts
    | _ => cases hsame

/-! ### Equal bytes are of equal values -/

theorem asRead_sortKeys_array (items : List JsValue) :
    (sortKeys (.array items)).asRead =
      .array (items.map fun item => (sortKeys item).asRead) := by
  rw [sortKeys, sortKeysItems_eq, JsValue.asRead_array, List.map_map]
  rfl

theorem asRead_sortKeys_object (h : SafeKeys (properties.map (·.1))) :
    (sortKeys (.object properties)).asRead =
      .object ((canonicalMembers properties).map fun p => (p.1, some (sortKeys p.2).asRead)) := by
  rw [sortKeys_object h, JsValue.asRead_object, members_mapProperties, List.map_map]
  rfl

theorem forall₂_of_map_eq {α β γ : Type} {R : α → β → Prop} {f : α → γ} {g : β → γ} {l : List α}
    {l' : List β} (h : l.map f = l'.map g) (hfg : ∀ a ∈ l, ∀ b ∈ l', f a = g b → R a b) :
    List.Forall₂ R l l' := by
  induction l generalizing l' with
  | nil =>
    rw [List.map_nil, eq_comm, List.map_eq_nil_iff] at h
    rw [h]
    exact .nil
  | cons a l ih =>
    cases l' with
    | nil => cases h
    | cons b l' =>
      obtain ⟨hab, hrest⟩ := List.cons.inj h
      refine .cons (hfg a List.mem_cons_self b List.mem_cons_self hab) (ih hrest ?_)
      exact fun a ha b hb => hfg a (List.mem_cons_of_mem _ ha) b (List.mem_cons_of_mem _ hb)

/-- **What is read back from the canonical text tells the value**, up to the order of keys and
undefined properties. -/
theorem same_of_asRead_sortKeys {v w : JsValue} (hv : v.All SafeKeys) (hw : w.All SafeKeys)
    (h : (sortKeys v).asRead = (sortKeys w).asRead) : SameJson v w := by
  -- on the value: what is read back has the same constructor on both sides
  induction v generalizing w with
  | null =>
    cases w with
    | null => exact .null
    | _ => simp [sortKeys, JsValue.asRead] at h
  | bool b =>
    cases w with
    | bool b' =>
      rw [JsValue.bool.inj h]
      exact .bool b'
    | _ => simp [sortKeys, JsValue.asRead] at h
  | number x =>
    cases w with
    | number y => exact .number (strictEq_iff.2 (JsValue.number.inj h))
    | _ => simp [sortKeys, JsValue.asRead] at h
  | string s =>
    cases w with
    | string s' =>
      rw [JsValue.string.inj h]
      exact .string s'
    | _ => simp [sortKeys, JsValue.asRead] at h
  | array items ih =>
    cases w with
    | array items' =>
      rw [JsValue.all_array] at hv hw
      rw [asRead_sortKeys_array, asRead_sortKeys_array] at h
      refine .array (forall₂_of_map_eq (JsValue.array.inj h) fun item hmem item' hmem' hitem => ?_)
      exact ih item hmem (hv item hmem) (hw item' hmem') hitem
    | _ => simp [sortKeys, JsValue.asRead] at h
  | object properties ih =>
    cases w with
    | object properties' =>
      have hkeys := (JsValue.all_object.1 hv).1
      have hkeys' := (JsValue.all_object.1 hw).1
      rw [asRead_sortKeys_object hkeys, asRead_sortKeys_object hkeys'] at h
      have hmembers := JsValue.object.inj h
      refine (sameJson_object_iff hkeys.nodup hkeys'.nodup).2 ⟨fun key value hmem => ?_,
        fun key value' hmem' => ?_⟩
      · have hin : (key, some (sortKeys value).asRead) ∈
            (canonicalMembers properties).map fun p => (p.1, some (sortKeys p.2).asRead) :=
          List.mem_map.2 ⟨(key, value), mem_canonicalMembers.2 hmem, rfl⟩
        rw [hmembers] at hin
        obtain ⟨⟨_, value'⟩, hmem', heq⟩ := List.mem_map.1 hin
        obtain ⟨rfl, hvalue⟩ := Prod.mk.inj heq
        have hmem' := mem_canonicalMembers.1 hmem'
        exact ⟨value', hmem', ih _ value hmem (safe_of_mem hv hmem) (safe_of_mem hw hmem')
          (Option.some.inj hvalue).symm⟩
      · have hin : (key, some (sortKeys value').asRead) ∈
            (canonicalMembers properties').map fun p => (p.1, some (sortKeys p.2).asRead) :=
          List.mem_map.2 ⟨(key, value'), mem_canonicalMembers.2 hmem', rfl⟩
        rw [← hmembers] at hin
        obtain ⟨⟨_, value⟩, hmem, heq⟩ := List.mem_map.1 hin
        obtain ⟨rfl, hvalue⟩ := Prod.mk.inj heq
        have hmem := mem_canonicalMembers.1 hmem
        exact ⟨value, hmem, ih _ value hmem (safe_of_mem hv hmem) (safe_of_mem hw hmem')
          (Option.some.inj hvalue)⟩
    | _ => simp [sortKeys, JsValue.asRead] at h

theorem all_sortKeys {value : JsValue} (h : value.All SafeKeys) :
    (sortKeys value).All List.Nodup := by
  induction value with
  | null => trivial
  | bool _ => trivial
  | number _ => trivial
  | string _ => trivial
  | array items ih =>
    rw [sortKeys, sortKeysItems_eq, JsValue.all_array, List.forall_mem_map]
    intro item hmem
    exact ih item hmem (JsValue.all_array.1 h item hmem)
  | object properties ih =>
    have hkeys := (JsValue.all_object.1 h).1
    have hperm := perm_sorted properties
    rw [sortKeys_object hkeys, JsValue.all_object]
    unfold mapProperties
    rw [List.map_map]
    refine ⟨(hperm.map _).nodup_iff.2 hkeys.nodup, fun key value' hmem' => ?_⟩
    obtain ⟨⟨_, value?⟩, hin, heq⟩ := List.mem_map.1 hmem'
    obtain ⟨rfl, hvalue⟩ := Prod.mk.inj heq
    obtain ⟨value, rfl, rfl⟩ := Option.map_eq_some_iff.1 hvalue
    have hmem := hperm.mem_iff.1 hin
    exact ih _ value hmem (safe_of_mem h hmem)

/-- **The canonical text determines the value**, and nothing more than it. -/
theorem stringify_sortKeys_eq_iff {v w : JsValue} (hv : v.All SafeKeys) (hw : w.All SafeKeys) :
    (sortKeys v).stringify = (sortKeys w).stringify ↔ SameJson v w := by
  constructor
  · intro htext
    -- the text is parsed back on both sides
    have hread : some (sortKeys v).asRead = some (sortKeys w).asRead := by
      calc some (sortKeys v).asRead = parse (sortKeys v).stringify :=
            (parse_stringify (all_sortKeys hv)).symm
        _ = parse (sortKeys w).stringify := by rw [htext]
        _ = some (sortKeys w).asRead := parse_stringify (all_sortKeys hw)
    exact same_of_asRead_sortKeys hv hw (Option.some.inj hread)
  · exact stringify_sortKeys_of_same hv hw

/-! ### Through a text and back -/

theorem same_asRead {value : JsValue} (h : value.All SafeKeys) : SameJson value value.asRead := by
  induction value with
  | null => exact .null
  | bool b => exact .bool b
  | number x => exact .number (strictEq_iff.2 (asRead_asRead x).symm)
  | string s => exact .string s
  | array items ih =>
    rw [JsValue.asRead_array]
    refine .array (List.forall₂_map_right_iff.2 (List.forall₂_same.2 fun item hmem => ?_))
    exact ih item hmem (JsValue.all_array.1 h item hmem)
  | object properties ih =>
    have hkeys := (JsValue.all_object.1 h).1
    have hkeys' := nodup_keys_members hkeys.nodup
    rw [JsValue.asRead_object]
    -- undefined properties have no text, and are no members
    refine (sameJson_object_iff hkeys.nodup (by rw [List.map_map]; exact hkeys')).2
      ⟨fun key value hmem => ?_, fun key value' hmem' => ?_⟩
    · exact ⟨value.asRead, List.mem_map.2 ⟨(key, value), mem_members.2 hmem, rfl⟩,
        ih key value hmem (safe_of_mem h hmem)⟩
    · obtain ⟨⟨_, value⟩, hmem, heq⟩ := List.mem_map.1 hmem'
      obtain ⟨rfl, hvalue⟩ := Prod.mk.inj heq
      have hmem := mem_members.1 hmem
      rw [← Option.some.inj hvalue]
      exact ⟨value, hmem, ih _ value hmem (safe_of_mem h hmem)⟩

theorem all_asRead {value : JsValue} (h : value.All SafeKeys) : value.asRead.All SafeKeys := by
  induction value with
  | null => trivial
  | bool _ => trivial
  | number _ => trivial
  | string _ => trivial
  | array items ih =>
    rw [JsValue.asRead_array, JsValue.all_array, List.forall_mem_map]
    intro item hmem
    exact ih item hmem (JsValue.all_array.1 h item hmem)
  | object properties ih =>
    have hkeys := (JsValue.all_object.1 h).1
    rw [JsValue.asRead_object, JsValue.all_object, List.map_map]
    refine ⟨⟨nodup_keys_members hkeys.nodup, fun hproto => hkeys.noProto ?_⟩,
      fun key value' hmem' => ?_⟩
    · obtain ⟨⟨key, value⟩, hin, hkey⟩ := List.mem_map.1 hproto
      exact List.mem_map.2 ⟨(key, some value), mem_members.1 hin, hkey⟩
    · obtain ⟨⟨_, value⟩, hin, heq⟩ := List.mem_map.1 hmem'
      obtain ⟨rfl, hvalue⟩ := Prod.mk.inj heq
      have hmem := mem_members.1 hin
      rw [← Option.some.inj hvalue]
      exact ih _ value hmem (safe_of_mem h hmem)

/-- **Canonical bytes agree.** The canonicalizers give the same bytes for every JSON-like value;
these are the bytes of another value exactly if the two are equal up to the order of keys and
undefined properties; and the value that is parsed from the JSON text has them too. So what a
stamper signs is verified after transport. -/
theorem canonical_bytes_agree {κ : Type} (ed25519 : Ed25519 κ) (hcorrect : ed25519.Correct)
    (v w : JsonLike) :
    (Verifier.canonicalize v.value = Seals.canonicalize v.value ∧
      Keys.canonicalize v.value = Seals.canonicalize v.value ∧
      Keys.canonicalizeCompat v.value = Seals.canonicalize v.value) ∧
    (Seals.canonicalize v.value = Seals.canonicalize w.value ↔ SameJson v.value w.value) ∧
    ∃ received, parse v.value.stringify = some received ∧
      Seals.canonicalize received = Seals.canonicalize v.value ∧
      ∀ key, ed25519.verify (ed25519.publicHalf key) (Verifier.canonicalize received)
          (ed25519.sign key (Keys.canonicalize v.value)) = true ∧
        ed25519.verify (ed25519.publicHalf key) (Verifier.canonicalize received)
          (ed25519.sign key (Keys.canonicalizeCompat v.value)) = true := by
  have hparsed : parse v.value.stringify = some v.value.asRead :=
    parse_stringify (v.safe.mono fun keys h => h.nodup)
  -- the parsed value differs from the sent one only in what has no text
  have hbytes : canonicalBytes v.value.asRead = canonicalBytes v.value := by
    unfold canonicalBytes
    rw [stringify_sortKeys_of_same v.safe (all_asRead v.safe) (same_asRead v.safe)]
  have hverify : ∀ key, ed25519.verify (ed25519.publicHalf key) (canonicalBytes v.value.asRead)
      (ed25519.sign key (canonicalBytes v.value)) = true := by
    intro key
    rw [hbytes]
    exact hcorrect key _
  refine ⟨⟨rfl, rfl, rfl⟩, ?_, v.value.asRead, hparsed, hbytes,
    fun key => ⟨hverify key, hverify key⟩⟩
  unfold Seals.canonicalize canonicalBytes
  rw [encodeUtf8_injective.eq_iff]
  exact stringify_sortKeys_eq_iff v.safe w.safe

end Members

/-! ### A recorded signature -/

namespace RecordedText

/-- The keys `a` and `b`, and two array indexes. -/
def a : JsString := [0x61]
def b : JsString := [0x62]
def nine : JsString := [0x39]
def ten : JsString := [0x31, 0x30]

/-- The object with a member `a`, an array that holds `properties`, and the zero `b`. -/
def nested (properties : List (JsString × Option JsValue)) : JsValue :=
  .array [.null, .object properties]

theorem safeKeys : SafeKeys [a, b] := ⟨by decide, by decide⟩

/-- A value with `b`, a negative zero, before `a` and with an undefined property. -/
def sent : JsonLike where
  value := .object [(b, some (.number (.zero true))),
    (a, some (nested [(ten, some (.bool true)), (nine, none)]))]
  safe := by
    simp only [nested, JsValue.All, JsValue.AllItems, JsValue.AllProperties]
    have hinner : SafeKeys [ten, nine] := ⟨by decide, by decide⟩
    have houter : SafeKeys [b, a] := safeKeys.perm (.swap a b [])
    exact ⟨houter, trivial, ⟨trivial, ⟨hinner, trivial, trivial⟩, trivial⟩, trivial⟩

/-- The same value with `a` before `b`, and without what has no text. -/
def reordered : JsonLike where
  value := .object [(a, some (nested [(ten, some (.bool true))])),
    (b, some (.number (.zero false)))]
  safe := by
    simp only [nested, JsValue.All, JsValue.AllItems, JsValue.AllProperties]
    have hinner : SafeKeys [ten] := ⟨by decide, by decide⟩
    exact ⟨safeKeys, ⟨trivial, ⟨hinner, trivial, trivial⟩, trivial⟩, trivial, trivial⟩

/-- The canonical text of both. -/
def text : Bytes :=
  [123, 34, 97, 34, 58, 91, 110, 117, 108, 108, 44, 123, 34, 49, 48, 34, 58, 116, 114, 117, 101,
   125, 93, 44, 34, 98, 34, 58, 48, 125]

/-- The public key with the seed of 32 bytes `11`. -/
def publicKey : Bytes :=
  [208, 74, 178, 50, 116, 43, 180, 171, 58, 19, 104, 189, 70, 21, 228, 230, 208, 34, 74, 183, 26,
   1, 107, 175, 133, 32, 163, 50, 201, 119, 135, 55]

/-- Its signature of the text. -/
def signature : Bytes :=
  [199, 75, 254, 232, 149, 93, 241, 206, 16, 64, 226, 255, 219, 234, 69, 109, 22, 70, 127, 221,
   115, 65, 106, 119, 81, 60, 108, 248, 9, 64, 253, 82, 170, 138, 9, 179, 119, 112, 14, 53, 191,
   249, 23, 211, 59, 90, 144, 87, 119, 64, 160, 208, 28, 58, 203, 248, 121, 60, 43, 153, 202, 239,
   140, 11]

/-- Ed25519 by its recorded values. -/
def ed25519 : Ed25519 Unit where
  publicHalf _ := publicKey
  sign _ data := if data = text then signature else []
  verify key data bytes := data ≠ text ∨ key = publicKey ∧ bytes = signature

theorem ed25519_correct : ed25519.Correct := by
  intro key data
  refine decide_eq_true ?_
  by_cases hdata : data = text
  · refine .inr ⟨rfl, ?_⟩
    exact if_pos hdata
  · exact .inl hdata

theorem sign_text : ed25519.sign () text = signature := by
  simp only [ed25519, if_true]

theorem canonicalize_sent : Seals.canonicalize sent.value = text := by
  decide +kernel

theorem canonicalize_reordered : Seals.canonicalize reordered.value = text := by
  decide +kernel

end RecordedText

open RecordedText in
/-- Two such objects are equal, and the signature of the one verifies with what was read of the
other. -/
theorem canonical_bytes_agree_nested :
    SameJson sent.value reordered.value ∧
    ∃ received, parse sent.value.stringify = some received ∧
      RecordedText.ed25519.verify publicKey (Verifier.canonicalize received) signature = true := by
  have hagree := canonical_bytes_agree RecordedText.ed25519 RecordedText.ed25519_correct sent
    reordered
  obtain ⟨hsame, hiff, received, hparsed, -, hverify⟩ := hagree
  refine ⟨hiff.1 (canonicalize_sent.trans canonicalize_reordered.symm), received, hparsed, ?_⟩
  have hsign : RecordedText.ed25519.sign () (Keys.canonicalize sent.value) = signature := by
    rw [hsame.2.1, canonicalize_sent]
    exact sign_text
  rw [← hsign]
  exact (hverify ()).1

end Signet
