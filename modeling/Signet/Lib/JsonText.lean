import Signet.Lib.JsNumber
import Signet.Lib.JsString
import Signet.Lib.OrdMap
import Signet.Lib.SelfDelimiting
import Mathlib.Data.List.Sort

/-!
# JSON values and their texts

`JSON.stringify` and `JSON.parse` on the values that JSON has a text for. The properties of an
object are kept in the order in which they were created; they are enumerated with the array indexes
first (`ownOrder`), and those that are undefined are left out of the text.

* `parse_stringify`: a text is parsed to the value it was made of, but for what it does not say: the
  order of creation, the properties that are undefined and the sign of a zero (`asRead`).

The parser descends with a fuel. Every call reads a character of its own, so the length of the text
is enough; the proof is by induction on the value, and its statement is about any text behind it.
-/

namespace Lib

variable {α β : Type}

/-- A value without functions and symbols. `none` is the value of an undefined property. -/
inductive JsValue where
  | null
  | bool (value : Bool)
  | number (value : JsNumber)
  | string (value : JsString)
  | array (items : List JsValue)
  | object (properties : List (JsString × Option JsValue))

/-- Values are made of their items and of their defined properties. -/
@[induction_eliminator]
theorem JsValue.induction {motive : JsValue → Prop} (null : motive .null)
    (bool : ∀ b, motive (.bool b)) (number : ∀ x, motive (.number x))
    (string : ∀ s, motive (.string s))
    (array : ∀ items, (∀ item ∈ items, motive item) → motive (.array items))
    (object : ∀ properties, (∀ key value, (key, some value) ∈ properties → motive value) →
      motive (.object properties))
    (value : JsValue) : motive value := by
  -- the three auxiliary motives: all items, all defined members, and the value of a member
  refine @JsValue.rec motive (fun items => ∀ item ∈ items, motive item)
    (fun properties => ∀ key value, (key, some value) ∈ properties → motive value)
    (fun property => ∀ value, property.2 = some value → motive value)
    (fun value? => ∀ value, value? = some value → motive value)
    null bool number string array object ?_ ?_ ?_ ?_ ?_ ?_ ?_ value
  · intro item hmem
    cases hmem
  · intro item items hitem hitems other hmem
    rcases List.mem_cons.1 hmem with rfl | hmem
    · exact hitem
    · exact hitems other hmem
  · intro key value hmem
    cases hmem
  · intro property properties hproperty hproperties key value hmem
    rcases List.mem_cons.1 hmem with rfl | hmem
    · exact hproperty value rfl
    · exact hproperties key value hmem
  · intro key value? hvalue value heq
    exact hvalue value heq
  · intro value heq
    cases heq
  · intro value hvalue other heq
    cases heq
    exact hvalue

/-! ### Properties -/

/-- The array index that a key is the decimal text of. -/
def arrayIndex? (key : JsString) : Option Nat :=
  let index := key.foldl (fun n u => 10 * n + (u.toNat - 0x30)) 0
  if index < 2 ^ 32 - 1 ∧ key = (Nat.toDigits 10 index).map fun c => UInt16.ofNat c.toNat then
    some index
  else none

/-- `OrdinaryOwnPropertyKeys`: the array indexes in ascending order, then the other keys in the
order in which they were created. -/
def ownOrder (properties : List (JsString × α)) : List (JsString × α) :=
  ((properties.filter fun p => (arrayIndex? p.1).isSome).insertionSort fun p q =>
    (arrayIndex? p.1).getD 0 ≤ (arrayIndex? q.1).getD 0) ++
  properties.filter fun p => (arrayIndex? p.1).isNone

/-- The properties that are not undefined. -/
def definedProperties (properties : List (JsString × Option α)) : List (JsString × α) :=
  properties.filterMap fun p => p.2.map fun value => (p.1, value)

/-- Every value is replaced. -/
def mapProperties (f : α → β) (properties : List (JsString × Option α)) :
    List (JsString × Option β) :=
  properties.map fun p => (p.1, p.2.map f)

/-- The properties that have a text, in the order of the text. -/
def members (properties : List (JsString × Option α)) : List (JsString × α) :=
  definedProperties (ownOrder properties)

theorem eq_of_arrayIndex? {key key' : JsString} {n : Nat} (h : arrayIndex? key = some n)
    (h' : arrayIndex? key' = some n) : key = key' := by
  unfold arrayIndex? at h h'
  dsimp only at h h'
  split at h
  · next hkey =>
    split at h'
    · next hkey' =>
      -- both keys are the decimal text of the index
      rw [Option.some.inj h] at hkey
      rw [Option.some.inj h'] at hkey'
      exact hkey.2.trans hkey'.2.symm
    · cases h'
  · cases h

theorem perm_ownOrder (properties : List (JsString × α)) :
    (ownOrder properties).Perm properties := by
  unfold ownOrder
  have hsort := List.perm_insertionSort (fun p q : JsString × α =>
    (arrayIndex? p.1).getD 0 ≤ (arrayIndex? q.1).getD 0)
    (properties.filter fun p => (arrayIndex? p.1).isSome)
  have hsplit := List.filter_append_perm (fun p : JsString × α => (arrayIndex? p.1).isSome)
    properties
  -- the two filters are complementary
  have hnone : (properties.filter fun p => (arrayIndex? p.1).isNone) =
      properties.filter fun p => !(arrayIndex? p.1).isSome := by
    congr 1
    funext p
    cases arrayIndex? p.1 <;> rfl
  rw [hnone]
  exact (hsort.append_right _).trans hsplit

/-- The order depends on the keys only. -/
theorem ownOrder_map (f : α → β) (properties : List (JsString × α)) :
    ownOrder (properties.map fun p => (p.1, f p.2)) =
      (ownOrder properties).map fun p => (p.1, f p.2) := by
  unfold ownOrder
  rw [List.map_append, List.filter_map, List.filter_map]
  congr 1
  symm
  apply List.map_insertionSort
  intro p _ q _
  exact Iff.rfl

theorem mem_definedProperties {properties : List (JsString × Option α)} {key : JsString}
    {value : α} : (key, value) ∈ definedProperties properties ↔ (key, some value) ∈ properties := by
  unfold definedProperties
  rw [List.mem_filterMap]
  constructor
  · rintro ⟨⟨key', value?⟩, hmem, heq⟩
    cases value? with
    | none => cases heq
    | some value' =>
      cases heq
      exact hmem
  · intro hmem
    exact ⟨(key, some value), hmem, rfl⟩

theorem definedProperties_mapProperties (f : α → β) (properties : List (JsString × Option α)) :
    definedProperties (mapProperties f properties) =
      (definedProperties properties).map fun p => (p.1, f p.2) := by
  unfold definedProperties mapProperties
  rw [List.filterMap_map, List.map_filterMap]
  congr 1
  funext p
  obtain ⟨key, value?⟩ := p
  cases value? <;> rfl

theorem mem_members {properties : List (JsString × Option α)} {key : JsString} {value : α} :
    (key, value) ∈ members properties ↔ (key, some value) ∈ properties := by
  unfold members
  rw [mem_definedProperties, (perm_ownOrder properties).mem_iff]

theorem members_mapProperties (f : α → β) (properties : List (JsString × Option α)) :
    members (mapProperties f properties) = (members properties).map fun p => (p.1, f p.2) := by
  unfold members
  rw [← definedProperties_mapProperties]
  unfold mapProperties
  rw [ownOrder_map (Option.map f) properties]

theorem keys_definedProperties_sublist (properties : List (JsString × Option α)) :
    ((definedProperties properties).map (·.1)).Sublist (properties.map (·.1)) := by
  induction properties with
  | nil => exact List.Sublist.slnil
  | cons p properties ih =>
    obtain ⟨key, value?⟩ := p
    unfold definedProperties at ih ⊢
    cases value? with
    | none => exact ih.cons key
    | some value => exact ih.cons_cons key

theorem nodup_keys_members {properties : List (JsString × Option α)}
    (h : (properties.map (·.1)).Nodup) : ((members properties).map (·.1)).Nodup := by
  refine (keys_definedProperties_sublist (ownOrder properties)).nodup ?_
  exact ((perm_ownOrder properties).map (·.1)).nodup_iff.2 h

/-! ### `JSON.stringify` -/

def openBrace : Char := Char.ofNat 0x7b

def closeBrace : Char := Char.ofNat 0x7d

def memberText (member : JsString × List Char) : List Char :=
  quoteString member.1 ++ ':' :: member.2

namespace JsValue

mutual

/-- `JSON.stringify`. -/
def stringify : JsValue → List Char
  | .null => ['n', 'u', 'l', 'l']
  | .bool true => ['t', 'r', 'u', 'e']
  | .bool false => ['f', 'a', 'l', 's', 'e']
  | .number x => x.text
  | .string s => quoteString s
  | .array items => '[' :: ([','].intercalate (stringifyItems items) ++ [']'])
  | .object properties =>
    openBrace :: ([','].intercalate
      ((members (stringifyProperties properties)).map memberText) ++ [closeBrace])

def stringifyItems : List JsValue → List (List Char)
  | [] => []
  | item :: items => item.stringify :: stringifyItems items

def stringifyProperties :
    List (JsString × Option JsValue) → List (JsString × Option (List Char))
  | [] => []
  | (key, none) :: properties => (key, none) :: stringifyProperties properties
  | (key, some value) :: properties =>
    (key, some value.stringify) :: stringifyProperties properties

end

mutual

/-- What is read back from the text of a value. -/
def asRead : JsValue → JsValue
  | .null => .null
  | .bool b => .bool b
  | .number x => .number x.asRead
  | .string s => .string s
  | .array items => .array (asReadItems items)
  | .object properties =>
    .object ((members (asReadProperties properties)).map fun p => (p.1, some p.2))

def asReadItems : List JsValue → List JsValue
  | [] => []
  | item :: items => item.asRead :: asReadItems items

def asReadProperties :
    List (JsString × Option JsValue) → List (JsString × Option JsValue)
  | [] => []
  | (key, none) :: properties => (key, none) :: asReadProperties properties
  | (key, some value) :: properties => (key, some value.asRead) :: asReadProperties properties

end

mutual

/-- The keys of every object in the value are such keys. -/
def All (keysOk : List JsString → Prop) : JsValue → Prop
  | .null => True
  | .bool _ => True
  | .number _ => True
  | .string _ => True
  | .array items => AllItems keysOk items
  | .object properties => keysOk (properties.map (·.1)) ∧ AllProperties keysOk properties

def AllItems (keysOk : List JsString → Prop) : List JsValue → Prop
  | [] => True
  | item :: items => item.All keysOk ∧ AllItems keysOk items

def AllProperties (keysOk : List JsString → Prop) :
    List (JsString × Option JsValue) → Prop
  | [] => True
  | (_, none) :: properties => AllProperties keysOk properties
  | (_, some value) :: properties => value.All keysOk ∧ AllProperties keysOk properties

end

theorem stringifyItems_eq (items : List JsValue) : stringifyItems items = items.map stringify := by
  induction items with
  | nil => rfl
  | cons item items ih => rw [stringifyItems, ih, List.map_cons]

theorem stringifyProperties_eq (properties : List (JsString × Option JsValue)) :
    stringifyProperties properties = mapProperties stringify properties := by
  induction properties with
  | nil => rfl
  | cons p properties ih =>
    obtain ⟨key, value?⟩ := p
    cases value? with
    | none => rw [stringifyProperties, ih]; rfl
    | some value => rw [stringifyProperties, ih]; rfl

theorem stringify_array (items : List JsValue) :
    (JsValue.array items).stringify =
      '[' :: ([','].intercalate (items.map stringify) ++ [']']) := by
  rw [stringify, stringifyItems_eq]

theorem stringify_object (properties : List (JsString × Option JsValue)) :
    (JsValue.object properties).stringify =
      openBrace :: ([','].intercalate
        ((members properties).map fun p => memberText (p.1, p.2.stringify)) ++ [closeBrace]) := by
  rw [stringify, stringifyProperties_eq, members_mapProperties, List.map_map]
  rfl

theorem asReadItems_eq (items : List JsValue) : asReadItems items = items.map asRead := by
  induction items with
  | nil => rfl
  | cons item items ih => rw [asReadItems, ih, List.map_cons]

theorem asReadProperties_eq (properties : List (JsString × Option JsValue)) :
    asReadProperties properties = mapProperties asRead properties := by
  induction properties with
  | nil => rfl
  | cons p properties ih =>
    obtain ⟨key, value?⟩ := p
    cases value? with
    | none => rw [asReadProperties, ih]; rfl
    | some value => rw [asReadProperties, ih]; rfl

theorem asRead_array (items : List JsValue) :
    (JsValue.array items).asRead = .array (items.map asRead) := by
  rw [asRead, asReadItems_eq]

theorem asRead_object (properties : List (JsString × Option JsValue)) :
    (JsValue.object properties).asRead =
      .object ((members properties).map fun p => (p.1, some p.2.asRead)) := by
  rw [asRead, asReadProperties_eq, members_mapProperties, List.map_map]
  rfl

theorem all_array {keysOk : List JsString → Prop} {items : List JsValue} :
    (JsValue.array items).All keysOk ↔ ∀ item ∈ items, item.All keysOk := by
  rw [All]
  induction items with
  | nil => simp [AllItems]
  | cons item items ih => rw [AllItems, ih, List.forall_mem_cons]

theorem all_object {keysOk : List JsString → Prop}
    {properties : List (JsString × Option JsValue)} :
    (JsValue.object properties).All keysOk ↔ keysOk (properties.map (·.1)) ∧
      ∀ key value, (key, some value) ∈ properties → value.All keysOk := by
  -- on the members; an undefined one says nothing
  have hproperties : AllProperties keysOk properties ↔
      ∀ key value, (key, some value) ∈ properties → value.All keysOk := by
    induction properties with
    | nil => simp [AllProperties]
    | cons p properties ih =>
      obtain ⟨key, value?⟩ := p
      cases value? with
      | none =>
        rw [AllProperties, ih]
        constructor
        · intro h key' value hmem
          rcases List.mem_cons.1 hmem with heq | hmem
          · cases heq
          · exact h key' value hmem
        · exact fun h key' value hmem => h key' value (List.mem_cons_of_mem _ hmem)
      | some value =>
        rw [AllProperties, ih]
        constructor
        · rintro ⟨hvalue, h⟩ key' value' hmem
          rcases List.mem_cons.1 hmem with heq | hmem
          · cases heq
            exact hvalue
          · exact h key' value' hmem
        · intro h
          exact ⟨h key value List.mem_cons_self,
            fun key' value' hmem => h key' value' (List.mem_cons_of_mem _ hmem)⟩
  rw [All, hproperties]

theorem All.mono {keysOk keysOk' : List JsString → Prop}
    (hkeys : ∀ keys, keysOk keys → keysOk' keys) {value : JsValue} (h : value.All keysOk) :
    value.All keysOk' := by
  induction value with
  | null => trivial
  | bool _ => trivial
  | number _ => trivial
  | string _ => trivial
  | array items ih =>
    rw [all_array] at h ⊢
    exact fun item hmem => ih item hmem (h item hmem)
  | object properties ih =>
    rw [all_object] at h ⊢
    exact ⟨hkeys _ h.1, fun key value hmem => ih key value hmem (h.2 key value hmem)⟩

end JsValue

/-! ### `JSON.parse` -/

/-- White space between tokens. -/
def isSpace (c : Char) : Bool :=
  c == ' ' || c == '\t' || c == '\n' || c == '\r'

/-- The text behind the white space. -/
def skipSpace (text : List Char) : List Char := text.dropWhile isSpace

/-- A literal. -/
def readWord (word : List Char) (value : JsValue) (text : List Char) :
    Option (JsValue × List Char) :=
  if word.isPrefixOf text then some (value, text.drop word.length) else none

/-- A key with its colon. -/
def readKey (text : List Char) : Option (JsString × List Char) :=
  match skipSpace text with
  | [] => none
  | c :: rest =>
    if c = quotation then
      match readString rest with
      | none => none
      | some (key, rest) =>
        match skipSpace rest with
        | ':' :: rest => some (key, rest)
        | _ => none
    else none

/-- The object of the members: a key that comes again replaces the value. -/
def createObject (members : List (JsString × JsValue)) : JsValue :=
  .object ((members.map fun p => (p.1, some p.2)).foldl
    (fun created p => setEntry p.1 p.2 created) [])

mutual

/-- The value at the beginning of a text. -/
def readValue : Nat → List Char → Option (JsValue × List Char)
  | 0, _ => none
  | fuel + 1, text =>
    match skipSpace text with
    | [] => none
    | c :: rest =>
      if c = quotation then (readString rest).map fun (s, rest) => (.string s, rest)
      else if c = '[' then
        if (skipSpace rest).head? = some ']' then some (.array [], (skipSpace rest).tail)
        else (readItems fuel rest).map fun (items, rest) => (.array items, rest)
      else if c = openBrace then
        if (skipSpace rest).head? = some closeBrace then some (.object [], (skipSpace rest).tail)
        else (readMembers fuel rest).map fun (members, rest) => (createObject members, rest)
      else if c = 'n' then readWord ['n', 'u', 'l', 'l'] .null (c :: rest)
      else if c = 't' then readWord ['t', 'r', 'u', 'e'] (.bool true) (c :: rest)
      else if c = 'f' then readWord ['f', 'a', 'l', 's', 'e'] (.bool false) (c :: rest)
      else (readNumber (c :: rest)).map fun (x, rest) => (.number x, rest)

/-- Items up to the closing bracket. -/
def readItems : Nat → List Char → Option (List JsValue × List Char)
  | 0, _ => none
  | fuel + 1, text =>
    match readValue fuel text with
    | none => none
    | some (item, rest) =>
      match skipSpace rest with
      | ',' :: rest => (readItems fuel rest).map fun (items, rest) => (item :: items, rest)
      | ']' :: rest => some ([item], rest)
      | _ => none

/-- Members up to the closing brace. -/
def readMembers : Nat → List Char → Option (List (JsString × JsValue) × List Char)
  | 0, _ => none
  | fuel + 1, text =>
    match readKey text with
    | none => none
    | some (key, rest) =>
      match readValue fuel rest with
      | none => none
      | some (value, rest) =>
        match skipSpace rest with
        | [] => none
        | c :: rest =>
          if c = ',' then
            (readMembers fuel rest).map fun (members, rest) => ((key, value) :: members, rest)
          else if c = closeBrace then some ([(key, value)], rest)
          else none

end

/-- `JSON.parse`, `none` for an exception. -/
def parse (text : List Char) : Option JsValue :=
  match readValue text.length text with
  | none => none
  | some (value, rest) => if skipSpace rest = [] then some value else none

/-! ### What was written is parsed -/

/-- The text of a value is read back, whatever is behind it. -/
def JsValue.ReadsBack (value : JsValue) : Prop :=
  ∀ fuel rest, value.stringify.length ≤ fuel → EndsNumber rest →
    readValue fuel (value.stringify ++ rest) = some (value.asRead, rest)

/-- The characters that values begin with. -/
def StartsValue (c : Char) : Prop := isSpace c = false ∧ c ≠ ']'

theorem skipSpace_of_head {c : Char} {text : List Char} (h : isSpace c = false) :
    skipSpace (c :: text) = c :: text := by
  have hc : ¬ isSpace c = true := by
    rw [h]
    exact Bool.false_ne_true
  exact List.dropWhile_cons_of_neg hc

/-- What a number begins with, begins no other value. -/
theorem startsNumber {c : Char} (h : c = '-' ∨ c.isDigit = true) :
    StartsValue c ∧ c ∉ [quotation, '[', openBrace, 'n', 't', 'f'] := by
  rcases h with rfl | hdigit
  · exact ⟨by simp only [StartsValue]; decide, by decide⟩
  -- a digit is none of the characters that the reader asks for first
  · have hnot : ∀ c' : Char, c'.isDigit = false → c ≠ c' := by
      rintro c' hc' rfl
      rw [hdigit] at hc'
      cases hc'
    refine ⟨⟨?_, hnot _ rfl⟩, ?_⟩
    · simp only [isSpace, Bool.or_eq_false_iff, beq_eq_false_iff_ne]
      exact ⟨⟨⟨hnot _ rfl, hnot _ rfl⟩, hnot _ rfl⟩, hnot _ rfl⟩
    · intro hmem
      have hall : ∀ c' ∈ [quotation, '[', openBrace, 'n', 't', 'f'], c'.isDigit = false := by
        simp only [List.forall_mem_cons]
        exact ⟨rfl, rfl, rfl, rfl, rfl, rfl, List.forall_mem_nil _⟩
      exact hnot c (hall c hmem) rfl

theorem JsValue.stringify_eq_cons (value : JsValue) :
    ∃ c text, value.stringify = c :: text ∧ StartsValue c := by
  have hstart : ∀ c ∈ ['n', 't', 'f', '[', quotation, openBrace], StartsValue c := by
    simp only [StartsValue, List.forall_mem_cons]
    refine ⟨?_, ?_, ?_, ?_, ?_, ?_, List.forall_mem_nil _⟩ <;> decide
  cases value with
  | null => exact ⟨'n', _, rfl, hstart _ (by decide)⟩
  | bool b => cases b with
    | true => exact ⟨'t', _, rfl, hstart _ (by decide)⟩
    | false => exact ⟨'f', _, rfl, hstart _ (by decide)⟩
  | number x =>
    obtain ⟨c, text, htext, hc⟩ := x.text_eq_cons
    exact ⟨c, text, htext, (startsNumber hc).1⟩
  | string s => exact ⟨quotation, _, rfl, hstart _ (by decide)⟩
  | array items => exact ⟨'[', _, stringify_array items, hstart _ (by decide)⟩
  | object properties => exact ⟨openBrace, _, stringify_object properties, hstart _ (by decide)⟩

theorem endsNumber_of_head {c : Char} {rest : List Char}
    (h : c = ',' ∨ c = ']' ∨ c = closeBrace) : EndsNumber (c :: rest) := by
  intro c' hc'
  obtain rfl := Option.some.inj hc'
  rcases h with rfl | rfl | rfl <;> decide

theorem readItems_join {items : List JsValue} (hne : items ≠ [])
    (h : ∀ item ∈ items, item.ReadsBack) (fuel : Nat) (rest : List Char)
    (hfuel : ([','].intercalate (items.map JsValue.stringify)).length < fuel) :
    readItems fuel ([','].intercalate (items.map JsValue.stringify) ++ ']' :: rest) =
      some (items.map JsValue.asRead, rest) := by
  induction items generalizing fuel with
  | nil => exact absurd rfl hne
  | cons item items ih =>
    -- the text is not empty, so there is fuel for a turn
    obtain ⟨fuel, rfl⟩ : ∃ k, fuel = k + 1 := ⟨fuel - 1, by omega⟩
    have hitem := h item List.mem_cons_self
    cases items with
    -- the last item, behind which the list ends
    | nil =>
      simp only [List.map_cons, List.map_nil, List.intercalate_singleton] at hfuel ⊢
      have hread := hitem fuel (']' :: rest) (by omega) (endsNumber_of_head (by decide))
      rw [readItems, hread]
      dsimp only
      rw [skipSpace_of_head rfl]
      rfl
    -- another item behind a comma
    | cons next items =>
      have htail := ih (List.cons_ne_nil _ _) fun other hmem =>
          h other (List.mem_cons_of_mem _ hmem)
      simp only [List.map_cons, List.intercalate_cons_cons, List.append_assoc, List.length_append,
        List.nil_append, List.length_cons, List.cons_append] at hfuel htail ⊢
      have hread := hitem fuel
        (',' :: ([','].intercalate (next.stringify :: items.map JsValue.stringify) ++ ']' :: rest))
        (by omega) (endsNumber_of_head (by decide))
      rw [readItems, hread]
      dsimp only
      rw [skipSpace_of_head rfl]
      show (readItems fuel _).map _ = _
      rw [htail fuel (by omega), Option.map_some]

theorem readKey_memberText (key : JsString) (text : List Char) :
    readKey (memberText (key, text)) = some (key, text) := by
  unfold readKey memberText quoteString
  rw [List.cons_append, List.append_assoc, List.singleton_append, skipSpace_of_head (by decide)]
  dsimp only
  rw [if_pos rfl, readString_quote]
  dsimp only
  rw [skipSpace_of_head rfl]
  rfl

theorem memberText_append (key : JsString) (text rest : List Char) :
    memberText (key, text) ++ rest = memberText (key, text ++ rest) := by
  unfold memberText
  rw [List.append_assoc, List.cons_append]

theorem readMembers_join {members : List (JsString × JsValue)} (hne : members ≠ [])
    (h : ∀ p ∈ members, p.2.ReadsBack) (fuel : Nat) (rest : List Char)
    (hfuel : ([','].intercalate
      (members.map fun p => memberText (p.1, p.2.stringify))).length < fuel) :
    readMembers fuel ([','].intercalate
        (members.map fun p => memberText (p.1, p.2.stringify)) ++ closeBrace :: rest) =
      some (members.map fun p => (p.1, p.2.asRead), rest) := by
  induction members generalizing fuel with
  | nil => exact absurd rfl hne
  | cons member members ih =>
    obtain ⟨key, value⟩ := member
    obtain ⟨fuel, rfl⟩ : ∃ k, fuel = k + 1 := ⟨fuel - 1, by omega⟩
    have hvalue : value.ReadsBack := h (key, value) List.mem_cons_self
    -- the fuel that is enough for a member is enough for its value
    have hlength : value.stringify.length ≤ (memberText (key, value.stringify)).length := by
      simp only [memberText, List.length_append, List.length_cons]
      omega
    cases members with
    -- the last member, behind which the object ends
    | nil =>
      simp only [List.map_cons, List.map_nil, List.intercalate_singleton] at hfuel ⊢
      have hread := hvalue fuel (closeBrace :: rest) (by omega) (endsNumber_of_head (by decide))
      rw [memberText_append, readMembers, readKey_memberText]
      dsimp only
      rw [hread]
      dsimp only
      rw [skipSpace_of_head (by decide)]
      dsimp only
      rw [if_neg (by decide), if_pos rfl]
    -- another member behind a comma
    | cons next members =>
      have htail := ih (List.cons_ne_nil _ _) fun other hmem =>
          h other (List.mem_cons_of_mem _ hmem)
      simp only [List.map_cons, List.intercalate_cons_cons, List.append_assoc, List.length_append,
        List.nil_append, List.length_cons, List.cons_append] at hfuel htail ⊢
      have hread := hvalue fuel (',' :: ([','].intercalate
        (memberText (next.1, next.2.stringify) ::
          members.map fun p => memberText (p.1, p.2.stringify)) ++ closeBrace :: rest))
        (by omega) (endsNumber_of_head (by decide))
      rw [memberText_append, readMembers, readKey_memberText]
      dsimp only
      rw [hread]
      dsimp only
      rw [skipSpace_of_head rfl]
      dsimp only
      rw [if_pos rfl, htail fuel (by omega), Option.map_some]
/-- No text is empty, so a turn can be taken. -/
theorem JsValue.ReadsBack.of_turn {value : JsValue}
    (h : ∀ fuel rest, value.stringify.length ≤ fuel + 1 → EndsNumber rest →
      readValue (fuel + 1) (value.stringify ++ rest) = some (value.asRead, rest)) :
    value.ReadsBack := by
  intro fuel rest hfuel hends
  obtain ⟨c, text, htext, -⟩ := value.stringify_eq_cons
  obtain ⟨fuel, rfl⟩ : ∃ k, fuel = k + 1 := by
    rw [htext, List.length_cons] at hfuel
    exact ⟨fuel - 1, by omega⟩
  exact h fuel rest hfuel hends

/-- A list of parts begins with its first part, behind no white space. -/
theorem skipSpace_intercalate {c : Char} {first text : List Char} (parts : List (List Char))
    (hfirst : first = c :: text) (hspace : isSpace c = false) (after : List Char) :
    skipSpace ([','].intercalate (first :: parts) ++ after) =
        [','].intercalate (first :: parts) ++ after ∧
      ([','].intercalate (first :: parts) ++ after).head? = some c := by
  have hjoin := SelfDelimiting.intercalate_map_cons id ',' first parts
  rw [List.map_id, id_eq, hfirst, List.cons_append] at hjoin
  rw [hfirst, hjoin, List.cons_append]
  exact ⟨skipSpace_of_head hspace, rfl⟩

theorem foldl_setEntry {properties : List (JsString × α)} (h : (properties.map (·.1)).Nodup) :
    properties.foldl (fun created p => setEntry p.1 p.2 created) [] = properties := by
  -- with the properties that are there already, which have other keys
  have hcreate : ∀ properties created : List (JsString × α),
      (created.map (·.1) ++ properties.map (·.1)).Nodup →
        properties.foldl (fun created p => setEntry p.1 p.2 created) created =
          created ++ properties := by
    intro properties
    induction properties with
    | nil =>
      intro created _
      exact (List.append_nil created).symm
    | cons p properties ih =>
      intro created hnodup
      have hnew : p.1 ∉ created.map (·.1) := by
        intro hmem
        exact (List.nodup_append.1 hnodup).2.2 _ hmem _ List.mem_cons_self rfl
      rw [List.foldl_cons, OrdMap.setEntry_of_not_mem hnew, ih]
      · rw [List.append_assoc]
        rfl
      · rw [List.map_append, List.append_assoc]
        exact hnodup
  exact hcreate properties [] h

theorem createObject_eq {members : List (JsString × JsValue)}
    (h : (members.map (·.1)).Nodup) :
    createObject members = .object (members.map fun p => (p.1, some p.2)) := by
  unfold createObject
  rw [foldl_setEntry (by rw [List.map_map]; exact h)]

/-- **The text of every value is read back.** -/
theorem JsValue.readsBack {value : JsValue} (h : value.All List.Nodup) : value.ReadsBack := by
  -- on the value; its text is read in a turn, and its parts with the fuel that remains
  induction value with
  | null => exact .of_turn fun fuel rest _ _ => rfl
  | bool b =>
    refine .of_turn fun fuel rest _ _ => ?_
    cases b <;> rfl
  | number x =>
    refine .of_turn fun fuel rest hfuel hends => ?_
    obtain ⟨c, text, htext, hc⟩ := x.text_eq_cons
    -- the reader takes for a number what begins like nothing else
    obtain ⟨hstart, hnot⟩ := startsNumber hc
    simp only [List.mem_cons, List.not_mem_nil, or_false, not_or] at hnot
    have hread := readNumber_text x hends
    rw [stringify, asRead]
    rw [htext, List.cons_append] at hread ⊢
    rw [readValue, skipSpace_of_head hstart.1]
    dsimp only
    rw [if_neg hnot.1, if_neg hnot.2.1, if_neg hnot.2.2.1, if_neg hnot.2.2.2.1,
      if_neg hnot.2.2.2.2.1, if_neg hnot.2.2.2.2.2, hread, Option.map_some]
  | string s =>
    refine .of_turn fun fuel rest _ _ => ?_
    rw [stringify, asRead, quoteString, List.cons_append, List.append_assoc, List.singleton_append,
      readValue, skipSpace_of_head (by decide)]
    dsimp only
    rw [if_pos rfl, readString_quote, Option.map_some]
  | array items ih =>
    have hitems : ∀ item ∈ items, item.ReadsBack := by
      intro item hmem
      exact ih item hmem (all_array.1 h item hmem)
    refine .of_turn fun fuel rest hfuel _ => ?_
    rw [asRead_array]
    rw [stringify_array] at hfuel ⊢
    cases items with
    | nil => rfl
    | cons item items =>
      obtain ⟨c, text, htext, hstart⟩ := item.stringify_eq_cons
      obtain ⟨hskip, hhead⟩ := skipSpace_intercalate (items.map stringify) htext hstart.1
        (']' :: rest)
      have hread := readItems_join (List.cons_ne_nil item items) hitems fuel rest (by
        simp only [List.length_cons, List.length_append, List.length_nil] at hfuel
        omega)
      rw [List.map_cons] at hread ⊢
      rw [List.cons_append, List.append_assoc, List.singleton_append, readValue,
        skipSpace_of_head rfl]
      dsimp only
      rw [if_neg (by decide), if_pos rfl, hskip, hhead,
        if_neg fun heq => hstart.2 (Option.some.inj heq), hread, Option.map_some]
  | object properties ih =>
    obtain ⟨hnodup, hvalues⟩ := all_object.1 h
    have hmembers : ∀ p ∈ members properties, p.2.ReadsBack := by
      rintro ⟨key, value⟩ hmem
      have hvalue := mem_members.1 hmem
      exact ih key value hvalue (hvalues key value hvalue)
    have hkeys := nodup_keys_members hnodup
    refine .of_turn fun fuel rest hfuel _ => ?_
    rw [asRead_object]
    rw [stringify_object] at hfuel ⊢
    cases hlist : members properties with
    | nil => rfl
    | cons member others =>
      rw [hlist] at hmembers hkeys hfuel
      have hfirst : memberText (member.1, member.2.stringify) =
          quotation :: (escapeUnits member.1 ++ [quotation] ++ ':' :: member.2.stringify) := rfl
      obtain ⟨hskip, hhead⟩ := skipSpace_intercalate
        (others.map fun p => memberText (p.1, p.2.stringify)) hfirst (by decide)
        (closeBrace :: rest)
      have hread := readMembers_join (List.cons_ne_nil member others) hmembers fuel rest (by
        simp only [List.length_cons, List.length_append, List.length_nil] at hfuel
        omega)
      -- no key comes twice, so that the members are created as they were written
      have hcreate : createObject ((member :: others).map fun p => (p.1, p.2.asRead)) =
          .object ((member :: others).map fun p => (p.1, some p.2.asRead)) := by
        rw [createObject_eq (by rw [List.map_map]; exact hkeys), List.map_map]
        rfl
      rw [List.map_cons] at hread
      rw [List.map_cons, List.cons_append, List.append_assoc, List.singleton_append, readValue,
        skipSpace_of_head (by decide)]
      dsimp only
      rw [if_neg (by decide), if_neg (by decide), if_pos rfl, hskip, hhead,
        if_neg fun heq => absurd (Option.some.inj heq) (by decide), hread, Option.map_some]
      exact congrArg (fun value => some (value, rest)) hcreate

/-- **What was written is parsed**: to the value, but for what its text does not say. -/
theorem parse_stringify {value : JsValue} (h : value.All List.Nodup) :
    parse value.stringify = some value.asRead := by
  have hread := JsValue.readsBack h value.stringify.length [] (Nat.le_refl _) endsNumber_nil
  rw [List.append_nil] at hread
  unfold parse
  rw [hread]
  rfl

end Lib
