import Signet.Schemas.ResourceId

/-!
# JSON values and their checks

What the transports receive before a schema has looked at it, and the zod checks the
action inputs are built from. A parse stops at its first issue, which is the one the
transports report.
-/

namespace Signet

/-- A JSON value; numbers are the finite ones. -/
inductive JsonValue where
  | null
  | bool (value : Bool)
  | number (value : Rat)
  | string (value : String)
  | array (values : List JsonValue)
  | object (fields : List (String × JsonValue))

/-- The name of the type in zod's messages. -/
def JsonValue.typeName : JsonValue → String
  | .null => "null"
  | .bool _ => "boolean"
  | .number _ => "number"
  | .string _ => "string"
  | .array _ => "array"
  | .object _ => "object"

/-- `Record<string, unknown>`: the members of a JSON object, each name once. -/
abbrev JsonObject := List (String × JsonValue)

/-- The member of the name; `none` for undefined. -/
def JsonObject.get? (object : JsonObject) (name : String) : Option JsonValue :=
  (object.find? (·.1 = name)).map (·.2)

/-- Parse a value or report what is wrong with it. -/
abbrev ZodParser (α : Type) := JsonValue → Except String α

namespace Zod

/-- The message for a value of another type. -/
def expected (type : String) (value : JsonValue) : String :=
  "Expected " ++ type ++ ", received " ++ value.typeName

/-- `z.string()`. -/
def string : ZodParser String
  | .string value => .ok value
  | value => .error (expected "string" value)

/-- `z.string().min(1)`. -/
def nonemptyString : ZodParser String
  | .string value =>
    if value = "" then .error "String must contain at least 1 character(s)" else .ok value
  | value => .error (expected "string" value)

/-- `z.boolean()`. -/
def boolean : ZodParser Bool
  | .bool value => .ok value
  | value => .error (expected "boolean" value)

/-- `z.array(z.string())`. -/
def stringArray : ZodParser (List String)
  | .array values => values.mapM string
  | value => .error (expected "array" value)

/-- `z.number().positive()`. -/
def positiveNumber : ZodParser Rat
  | .number value =>
    if 0 < value then .ok value else .error "Number must be greater than 0"
  | value => .error (expected "number" value)

/-- `z.number().int().positive()`. -/
def positiveInt : ZodParser Nat
  | .number value =>
    if value.den ≠ 1 then .error "Expected integer, received float"
    else if value ≤ 0 then .error "Number must be greater than 0"
    else .ok value.num.toNat
  | value => .error (expected "number" value)

/-- A required member of an object. -/
def field {α : Type} (object : JsonObject) (name : String) (parser : ZodParser α) :
    Except ZodIssue α :=
  match object.get? name with
  | none => .error ⟨[name], "Required"⟩
  | some value => (parser value).mapError (⟨[name], ·⟩)

def optionalField {α : Type} (object : JsonObject) (name : String) (parser : ZodParser α) :
    Except ZodIssue (Option α) :=
  match object.get? name with
  | none => .ok none
  | some value => ((parser value).mapError (⟨[name], ·⟩)).map some

end Zod

end Signet
