import Signet.Lib.Except
import Signet.Schemas.Json

/-!
# Schemas of nested objects

The zod schemas that are made of other schemas, where an issue carries the path to the
place it is about, and the objects that `JSON.stringify` writes: a member that is
undefined is left out.

A schema and a way to write its values agree on a value if the schema reads back what
was written, `schema (write a) = .ok a`. Each combinator has a lemma that says so if its
parts do (`Zod.elements_map`, `Zod.enumeration_string`, `Zod.member_jsonMembers`,
`Zod.optionalMember_jsonMembers`).
-/

namespace Signet

open Lib

/-- The issue, seen from the object or array around it. -/
def ZodIssue.under (name : String) (issue : ZodIssue) : ZodIssue :=
  ⟨name :: issue.path, issue.message⟩

/-- A schema: parse a value or report the first issue. -/
abbrev ZodSchema (α : Type) := JsonValue → Except ZodIssue α

/-- The members of an object literal that are not undefined. -/
def jsonMembers {β : Type} (members : List (String × Option β)) : List (String × β) :=
  members.filterMap fun member => member.2.map (member.1, ·)

/-- An object literal, as `JSON.stringify` writes it. -/
def jsonObject (members : List (String × Option JsonValue)) : JsonValue :=
  .object (jsonMembers members)

namespace Zod

variable {α : Type}

/-- An issue of the value itself. -/
def issue (message : String) : ZodIssue := ⟨[], message⟩

/-- `z.object(...)`, before its members are looked at. -/
def object : ZodSchema JsonObject
  | .object fields => .ok fields
  | value => .error (issue (expected "object" value))

/-- `z.string()`. -/
def text : ZodSchema String := fun value => (string value).mapError issue

/-- `z.literal(...)` of a string. -/
def literal (expectedText : String) : ZodSchema String
  | .string value =>
    if value = expectedText then .ok value
    else .error (issue ("Invalid literal value, expected \"" ++ expectedText ++ "\""))
  | _ => .error (issue ("Invalid literal value, expected \"" ++ expectedText ++ "\""))

/-- `z.literal(true)`. -/
def literalTrue : ZodSchema Bool
  | .bool true => .ok true
  | _ => .error (issue "Invalid literal value, expected true")

/-- The values of an enumeration in its messages. -/
def enumerationText (values : List α) (name : α → String) : String :=
  " | ".intercalate (values.map fun value => "'" ++ name value ++ "'")

/-- `z.enum(...)`: the values by their strings. -/
def enumeration (values : List α) (name : α → String) : ZodSchema α
  | .string received =>
    match values.find? (name · = received) with
    | some value => .ok value
    | none =>
      .error (issue ("Invalid enum value. Expected " ++ enumerationText values name ++
        ", received '" ++ received ++ "'"))
  | value => .error (issue (expected (enumerationText values name) value))

/-- The elements of an array from an index on. -/
def elements (schema : ZodSchema α) : Nat → List JsonValue → Except ZodIssue (List α)
  | _, [] => .ok []
  | index, value :: values => do
    let parsed ← (schema value).mapError (·.under (toString index))
    let rest ← elements schema (index + 1) values
    .ok (parsed :: rest)

/-- `z.array(...)`. -/
def array (schema : ZodSchema α) : ZodSchema (List α)
  | .array values => elements schema 0 values
  | value => .error (issue (expected "array" value))

/-- A required member of an object. -/
def member (fields : JsonObject) (name : String) (schema : ZodSchema α) : Except ZodIssue α :=
  match fields.get? name with
  | none => .error ⟨[name], "Required"⟩
  | some value => (schema value).mapError (·.under name)

/-- `.optional()`: a member that may be undefined. -/
def optionalMember (fields : JsonObject) (name : String) (schema : ZodSchema α) :
    Except ZodIssue (Option α) :=
  match fields.get? name with
  | none => .ok none
  | some value => ((schema value).mapError (·.under name)).map some

/-! ### Reading back -/

@[simp] theorem object_object (fields : JsonObject) : object (.object fields) = .ok fields := rfl

@[simp] theorem text_string (value : String) : text (.string value) = .ok value := rfl

@[simp] theorem literal_string (value : String) : literal value (.string value) = .ok value :=
  if_pos rfl

@[simp] theorem literalTrue_true : literalTrue (.bool true) = .ok true := rfl

/-- An enumeration reads the string of a value that is listed under it. -/
theorem enumeration_string {values : List α} {name : α → String} {a : α}
    (h : values.find? (name · = name a) = some a) :
    enumeration values name (.string (name a)) = .ok a := by
  simp only [enumeration, h]

theorem elements_map {schema : ZodSchema α} {write : α → JsonValue} {as : List α}
    (h : ∀ a ∈ as, schema (write a) = .ok a) (index : Nat) :
    elements schema index (as.map write) = .ok as := by
  -- on the elements, with the index that the errors would carry
  induction as generalizing index with
  | nil => rfl
  | cons a as ih =>
    have hhead : schema (write a) = .ok a := h a List.mem_cons_self
    have htail := ih (fun b hb => h b (List.mem_cons_of_mem _ hb)) (index + 1)
    rw [List.map_cons, elements, hhead, mapError_ok, ok_bind, htail, ok_bind]

theorem array_map {schema : ZodSchema α} {write : α → JsonValue} {as : List α}
    (h : ∀ a ∈ as, schema (write a) = .ok a) :
    array schema (.array (as.map write)) = .ok as :=
  elements_map h 0

end Zod

/-! ### Members of written objects -/

section Members

variable {α β : Type}

/-- The value under a name. -/
def memberValue (fields : List (String × β)) (name : String) : Option β :=
  (fields.find? (·.1 = name)).map (·.2)

theorem jsonMembers_cons_some (key : String) (value : β) (members : List (String × Option β)) :
    jsonMembers ((key, some value) :: members) = (key, value) :: jsonMembers members := rfl

/-- A member that is written stands in the literal. -/
theorem name_mem_of_mem_jsonMembers {members : List (String × Option β)} {member : String × β}
    (h : member ∈ jsonMembers members) : member.1 ∈ members.map (·.1) := by
  obtain ⟨source, hsource, hwritten⟩ := List.mem_filterMap.1 h
  obtain ⟨value, -, rfl⟩ := Option.map_eq_some_iff.1 hwritten
  exact List.mem_map_of_mem hsource

@[simp] theorem memberValue_nil (name : String) :
    memberValue (jsonMembers ([] : List (String × Option β))) name = none := rfl

/-- **A written object has the members of the literal**: the first under a name that is
not undefined. -/
@[simp] theorem memberValue_cons (key : String) (value : Option β)
    (members : List (String × Option β)) (name : String) :
    memberValue (jsonMembers ((key, value) :: members)) name =
      if key = name then value.or (memberValue (jsonMembers members) name)
      else memberValue (jsonMembers members) name := by
  cases value with
  -- an undefined member is not written
  | none => exact (ite_self _).symm
  | some value =>
    by_cases hkey : key = name
    · simp [memberValue, jsonMembers, hkey]
    · simp [memberValue, jsonMembers, hkey]

theorem get?_jsonMembers (members : List (String × Option JsonValue)) (name : String) :
    JsonObject.get? (jsonMembers members) name = memberValue (jsonMembers members) name := rfl

theorem Zod.member_jsonMembers {schema : ZodSchema α} {members : List (String × Option JsonValue)}
    {name : String} {value : JsonValue} {a : α}
    (hmember : memberValue (jsonMembers members) name = some value)
    (hread : schema value = .ok a) : member (jsonMembers members) name schema = .ok a := by
  unfold member
  rw [get?_jsonMembers, hmember]
  show (schema value).mapError _ = _
  rw [hread]
  rfl

theorem Zod.member_jsonMembers_error {schema : ZodSchema α}
    {members : List (String × Option JsonValue)} {name : String} {value : JsonValue}
    {e : ZodIssue} (hmember : memberValue (jsonMembers members) name = some value)
    (hread : schema value = .error e) :
    member (jsonMembers members) name schema = .error (e.under name) := by
  unfold member
  rw [get?_jsonMembers, hmember]
  show (schema value).mapError _ = _
  rw [hread]
  rfl

theorem Zod.optionalMember_jsonMembers {schema : ZodSchema α}
    {members : List (String × Option JsonValue)} {name : String} (a : Option α)
    (write : α → JsonValue)
    (hmember : memberValue (jsonMembers members) name = a.map write)
    (hread : ∀ b ∈ a, schema (write b) = .ok b) :
    optionalMember (jsonMembers members) name schema = .ok a := by
  unfold optionalMember
  rw [get?_jsonMembers, hmember]
  cases a with
  | none => rfl
  | some b =>
    show ((schema (write b)).mapError _).map some = _
    rw [hread b rfl]
    rfl

end Members

end Signet
