import Px4Ros2.Lib.OrderedMap
import Mathlib.Data.Rat.Defs
import Mathlib.Data.String.Basic

/-! JSON values as the mission code uses them. An object is a `std::map`, its fields are in the
order of their keys. Functions that throw answer `none`. -/

set_option autoImplicit false

namespace Px4Ros2

inductive Json where
  | null
  | bool (value : Bool)
  | integer (value : Int)
  | float (value : Rat)
  | string (value : String)
  | array (elements : List Json)
  | object (fields : List (String × Json))
deriving Repr, Inhabited

namespace Json

def isNull : Json → Bool
  | .null => true
  | _ => false

def contains (json : Json) (key : String) : Bool :=
  match json with
  | .object fields => (Lib.Entries.find? key fields).isSome
  | _ => false

/-- `at(key)`. -/
def at? (json : Json) (key : String) : Option Json :=
  match json with
  | .object fields => Lib.Entries.find? key fields
  | _ => none

/-- `json[key] = value`: null turns into an object, other values than objects throw. -/
def set (json : Json) (key : String) (value : Json) : Option Json :=
  match json with
  | .null => some (.object [(key, value)])
  | .object fields => some (.object (Lib.Entries.insert key value fields))
  | _ => none

/-- The fields that `update` writes, one after the other. -/
def updateFields (fields : List (String × Json)) (written : List (String × Json)) :
    List (String × Json) :=
  written.foldl (fun fields entry => Lib.Entries.insert entry.1 entry.2 fields) fields

/-- `update(other)`, which does not merge nested objects. -/
def update (json other : Json) : Option Json :=
  match json, other with
  | .null, .object written => some (.object (updateFields [] written))
  | .object fields, .object written => some (.object (updateFields fields written))
  | _, _ => none

/-- `static_cast<int>` of a 64 bit integer. -/
def toInt32 (value : Int) : Int :=
  value.bmod (2 ^ 32)

def getInt : Json → Option Int
  | .integer value => some (toInt32 value)
  | .float value => some (toInt32 (value.num.tdiv value.den))
  | .bool value => some (if value then 1 else 0)
  | _ => none

def getFloat : Json → Option Rat
  | .integer value => some value
  | .float value => some value
  | .bool value => some (if value then 1 else 0)
  | _ => none

/-- `get<double>()`, which has no conversion from booleans. -/
def getDouble : Json → Option Rat
  | .integer value => some value
  | .float value => some value
  | _ => none

def getBool : Json → Option Bool
  | .bool value => some value
  | _ => none

def getString : Json → Option String
  | .string value => some value
  | _ => none

/-- A value that the parser or the class can hold: every object in it is a map. -/
inductive IsValue : Json → Prop where
  | null : IsValue .null
  | bool (value : Bool) : IsValue (.bool value)
  | integer (value : Int) : IsValue (.integer value)
  | float (value : Rat) : IsValue (.float value)
  | string (value : String) : IsValue (.string value)
  | array {elements : List Json} :
      (∀ element ∈ elements, IsValue element) → IsValue (.array elements)
  | object {fields : List (String × Json)} :
      Lib.Entries.Sorted fields → (∀ field ∈ fields, IsValue field.2) → IsValue (.object fields)

/-- The elements of a loop over the value: none for null, the value itself for other scalars. -/
def elements : Json → List Json
  | .array elements => elements
  | .object fields => fields.map Prod.snd
  | .null => []
  | json => [json]

end Json

end Px4Ros2
