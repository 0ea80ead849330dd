import Px4Ros2.Mission.Json

/-! JSON Schema, as far as schemas of this repository use it. A keyword says nothing about a value
of a type that it is not about. -/

set_option autoImplicit false

namespace Px4Ros2

inductive JsonType where
  | object
  | array
  | string
  | number
  | integer
  | boolean
deriving DecidableEq, Repr

/-- A schema of several keywords is `allOf` of them. -/
inductive JsonSchema where
  | type (kind : JsonType)
  | minimum (bound : Rat)
  | maximum (bound : Rat)
  /-- The values are strings. -/
  | enum (values : List String)
  /-- The pattern is an anchored text. -/
  | pattern (start : String)
  /-- One entry of `properties`. -/
  | property (key : String) (schema : JsonSchema)
  /-- `additionalProperties: false`, beside `properties` with these keys. -/
  | noAdditionalProperties (keys : List String)
  | required (keys : List String)
  | items (schema : JsonSchema)
  | allOf (schemas : List JsonSchema)
  | not (schema : JsonSchema)
  /-- `if` and `then`. -/
  | ifThen (condition consequence : JsonSchema)

namespace JsonSchema

/-- `const`, an enumeration with one value. -/
def const (value : String) : JsonSchema :=
  .enum [value]

def properties (schemas : List (String × JsonSchema)) : JsonSchema :=
  .allOf (schemas.map fun entry => .property entry.1 entry.2)

end JsonSchema

namespace Json

/-- The value of a number. -/
def number? : Json → Option Rat
  | .integer value => some value
  | .float value => some value
  | _ => none

def hasType : Json → JsonType → Bool
  | .object _, .object => true
  | .array _, .array => true
  | .string _, .string => true
  | .integer _, .number => true
  | .float _, .number => true
  | .integer _, .integer => true
  -- A number without a fractional part is an integer, however it is written.
  | .float value, .integer => value.den == 1
  | .bool _, .boolean => true
  | _, _ => false

def keys : Json → List String
  | .object fields => fields.map Prod.fst
  | _ => []

/-- The text starts with another one. -/
def startsWith (json : Json) (start : String) : Bool :=
  match json with
  | .string text => start.toList.isPrefixOf text.toList
  | _ => true

/-- The value is one of the strings. -/
def isOneOf (json : Json) (values : List String) : Bool :=
  match json with
  | .string text => values.contains text
  | _ => false

end Json

namespace JsonSchema

mutual

/-- Whether a value is valid. -/
def accepts : JsonSchema → Json → Bool
  | .type kind, json => json.hasType kind
  | .minimum bound, json => json.number?.all fun value => decide (bound ≤ value)
  | .maximum bound, json => json.number?.all fun value => decide (value ≤ bound)
  | .enum values, json => json.isOneOf values
  | .pattern start, json => json.startsWith start
  | .property key schema, json =>
      match json.at? key with
      | some value => schema.accepts value
      | none => true
  | .noAdditionalProperties keys, json => json.keys.all fun key => keys.contains key
  | .required keys, json => !json.hasType .object || keys.all fun key => json.contains key
  | .items schema, json =>
      match json with
      | .array elements => elements.all fun element => schema.accepts element
      | _ => true
  | .allOf schemas, json => allAccept schemas json
  | .not schema, json => !schema.accepts json
  | .ifThen condition consequence, json => !condition.accepts json || consequence.accepts json

def allAccept : List JsonSchema → Json → Bool
  | [], _ => true
  | schema :: rest, json => schema.accepts json && allAccept rest json

end

variable {json : Json} {key : String} {schema condition consequence : JsonSchema}
  {schemas : List JsonSchema}

@[simp] theorem accepts_type {kind : JsonType} :
    (JsonSchema.type kind).accepts json = json.hasType kind := rfl

@[simp] theorem accepts_minimum {bound : Rat} :
    (JsonSchema.minimum bound).accepts json = true ↔
      ∀ value, json.number? = some value → bound ≤ value := by
  change json.number?.all (fun value => decide (bound ≤ value)) = true ↔ _
  simp [Option.all_eq_true]

@[simp] theorem accepts_maximum {bound : Rat} :
    (JsonSchema.maximum bound).accepts json = true ↔
      ∀ value, json.number? = some value → value ≤ bound := by
  change json.number?.all (fun value => decide (value ≤ bound)) = true ↔ _
  simp [Option.all_eq_true]

@[simp] theorem accepts_enum {values : List String} :
    (JsonSchema.enum values).accepts json = json.isOneOf values := rfl

@[simp] theorem accepts_const {value : String} :
    (JsonSchema.const value).accepts json = true ↔ json = .string value := by
  cases json <;> simp [const, Json.isOneOf]

@[simp] theorem accepts_pattern {start : String} :
    (JsonSchema.pattern start).accepts json = json.startsWith start := rfl

@[simp] theorem accepts_property :
    (JsonSchema.property key schema).accepts json = true ↔
      ∀ value, json.at? key = some value → schema.accepts value = true := by
  change (match json.at? key with
    | some value => schema.accepts value
    | none => true) = true ↔ _
  cases json.at? key with
  | none => simp
  | some value => simp

@[simp] theorem accepts_noAdditionalProperties {keys : List String} :
    (JsonSchema.noAdditionalProperties keys).accepts json = true ↔
      ∀ key ∈ json.keys, key ∈ keys := by
  change json.keys.all (fun key => keys.contains key) = true ↔ _
  simp

@[simp] theorem accepts_required {keys : List String} :
    (JsonSchema.required keys).accepts json = true ↔
      (json.hasType .object = true → ∀ key ∈ keys, json.contains key = true) := by
  change (!json.hasType .object || keys.all fun key => json.contains key) = true ↔ _
  cases json.hasType .object <;> simp

@[simp] theorem accepts_items :
    (JsonSchema.items schema).accepts json = true ↔
      ∀ elements, json = .array elements → ∀ element ∈ elements, schema.accepts element = true := by
  cases json with
  | array elements =>
      change elements.all (fun element => schema.accepts element) = true ↔ _
      simp
  | null | bool | integer | float | string | object => exact iff_of_true rfl nofun

theorem allAccept_eq : allAccept schemas json = schemas.all fun schema => schema.accepts json := by
  induction schemas with
  | nil => rfl
  | cons schema rest ih =>
      rw [List.all_cons, ← ih]
      rfl

@[simp] theorem accepts_allOf :
    (JsonSchema.allOf schemas).accepts json = true ↔
      ∀ schema ∈ schemas, schema.accepts json = true := by
  change allAccept schemas json = true ↔ _
  rw [allAccept_eq, List.all_eq_true]

@[simp] theorem accepts_not :
    (JsonSchema.not schema).accepts json = true ↔ schema.accepts json = false := by
  change (!schema.accepts json) = true ↔ _
  simp

@[simp] theorem accepts_ifThen :
    (JsonSchema.ifThen condition consequence).accepts json = true ↔
      (condition.accepts json = true → consequence.accepts json = true) := by
  change (!condition.accepts json || consequence.accepts json) = true ↔ _
  cases condition.accepts json <;> simp

@[simp] theorem accepts_properties {entries : List (String × JsonSchema)} :
    (JsonSchema.properties entries).accepts json = true ↔
      ∀ entry ∈ entries, ∀ value, json.at? entry.1 = some value →
        entry.2.accepts value = true := by
  simp only [properties, accepts_allOf, List.forall_mem_map, accepts_property]

end JsonSchema

end Px4Ros2
