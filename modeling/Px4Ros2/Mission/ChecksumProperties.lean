import Mathlib
import Px4Ros2.Mission.PersistenceProperties

/-! The checksum of a mission: which missions it takes for the same one. -/

set_option autoImplicit false

namespace Px4Ros2

namespace Json

/-- Null, or an object whose fields are a map. -/
def IsMap : Json → Prop
  | .null => True
  | .object fields => Lib.Entries.Sorted fields
  | _ => False

variable {json : Json}

theorem set_spec (map : json.IsMap) (key : String) (value : Json) :
    ∃ fields, json.set key value = some (.object fields) ∧ Lib.Entries.Sorted fields ∧
      ∀ other, Lib.Entries.find? other fields =
        if other = key then some value else json.at? other := by
  cases json with
  | null =>
      refine ⟨_, rfl, by simp [Lib.Entries.Sorted], fun other => ?_⟩
      simp [Lib.Entries.find?, at?]
  | object fields =>
      exact ⟨_, rfl, Lib.Entries.sorted_insert map, fun other => Lib.Entries.find?_insert⟩
  | _ => cases map

theorem setSome_spec (map : json.IsMap) (key : String) (value : Option Json) :
    ∃ after, json.setSome key value = some after ∧ after.IsMap ∧
      ∀ other, after.at? other =
        if other = key ∧ value.isSome = true then value else json.at? other := by
  cases value with
  | none => exact ⟨json, rfl, map, fun other => by simp⟩
  | some value =>
      obtain ⟨fields, set, sorted, found⟩ := set_spec map key value
      exact ⟨.object fields, set, sorted, fun other => by simpa [at?] using found other⟩

theorem sorted_updateFields {fields : List (String × Json)} (sorted : Lib.Entries.Sorted fields)
    (written : List (String × Json)) : Lib.Entries.Sorted (updateFields fields written) := by
  induction written generalizing fields with
  | nil => exact sorted
  | cons entry rest ih => exact ih (Lib.Entries.sorted_insert sorted)

theorem find?_updateFields {written : List (String × Json)} (map : Lib.Entries.Sorted written)
    (fields : List (String × Json)) (key : String) :
    Lib.Entries.find? key (updateFields fields written) =
      (Lib.Entries.find? key written).or (Lib.Entries.find? key fields) := by
  induction written generalizing fields with
  | nil => rfl
  | cons entry rest ih =>
      obtain ⟨head, value⟩ := entry
      obtain ⟨above, mapRest⟩ := List.pairwise_cons.mp map
      have step := ih mapRest (Lib.Entries.insert head value fields)
      simp only [updateFields, List.foldl_cons] at step ⊢
      rw [step, Lib.Entries.find?_insert]
      by_cases same : key = head
      · subst same
        have later : Lib.Entries.find? key rest = none := by
          refine Lib.Entries.find?_eq_none_iff.mpr fun entry member => ?_
          exact ne_of_gt (above entry member)
        simp [later, Lib.Entries.find?]
      · simp [same, Lib.Entries.find?]

theorem update_spec {other : Json} (map : json.IsMap) (otherMap : other.IsMap)
    (written : other ≠ .null) :
    ∃ fields, json.update other = some (.object fields) ∧ Lib.Entries.Sorted fields ∧
      ∀ key, Lib.Entries.find? key fields = (other.at? key).or (json.at? key) := by
  cases other with
  | null => exact absurd rfl written
  | object otherFields =>
      cases json with
      | null =>
          refine ⟨_, rfl, sorted_updateFields (by simp [Lib.Entries.Sorted]) _, fun key => ?_⟩
          exact find?_updateFields otherMap [] key
      | object fields =>
          exact ⟨_, rfl, sorted_updateFields map _, find?_updateFields otherMap fields⟩
      | _ => cases map
  | _ => cases otherMap

end Json

/-! What an item looks like in its JSON form. -/

/-- Arguments that `update` takes. -/
def ActionArguments.writable (arguments : ActionArguments) : Bool :=
  match arguments.json with
  | .null | .object _ => true
  | _ => false

/-- The arguments, if they are an object, are a map. -/
def ActionArguments.WellFormed (arguments : ActionArguments) : Prop :=
  match arguments.json with
  | .object fields => Lib.Entries.Sorted fields
  | _ => True

theorem ActionArguments.isMap {arguments : ActionArguments}
    (writable : arguments.writable = true) (wellFormed : arguments.WellFormed) :
    arguments.json.IsMap := by
  obtain ⟨json⟩ := arguments
  cases json with
  | null => trivial
  | object => exact wellFormed
  | _ => cases writable

/-- The identifier as a field, which is left out when it is empty. -/
def idField (id : String) : Option Json :=
  if id ≠ "" then some (.string id) else none

def NavigationItem.field (item : NavigationItem) (key : String) : Option Json :=
  if key = "z" then some (.float item.data.z)
  else if key = "y" then some (.float item.data.y)
  else if key = "x" then some (.float item.data.x)
  else if key = "frame" then some item.data.frame.toJson
  else if key = "navigationType" then some (.string "waypoint")
  else if key = "type" then some (.string "navigation")
  else if key = "id" then idField item.id
  else none

def TrajectoryOptions.field (options : TrajectoryOptions) (key : String) : Option Json :=
  if key = "maxHeadingRate" then (options.maxHeadingRate.map radToDeg).map .float
  else if key = "verticalVelocity" then options.verticalVelocity.map .float
  else if key = "horizontalVelocity" then options.horizontalVelocity.map .float
  else none

/-- The arguments of an action hide its name and its identifier. -/
def ActionItem.field (item : ActionItem) (key : String) : Option Json :=
  (item.arguments.json.at? key).or
    (if key = "id" then idField item.id
    else if key = "type" then some (.string item.name)
    else none)

namespace MissionItem

def field : MissionItem → String → Option Json
  | .navigation item => item.field
  | .action item => item.field

def writable : MissionItem → Bool
  | .navigation _ => true
  | .action item => item.arguments.writable

def WellFormed : MissionItem → Prop
  | .navigation _ => True
  | .action item => item.arguments.WellFormed

end MissionItem

theorem NavigationItem.toJson_spec (item : NavigationItem) :
    ∃ fields, item.toJson = some (.object fields) ∧ Lib.Entries.Sorted fields ∧
      ∀ key, Lib.Entries.find? key fields = item.field key := by
  obtain ⟨json, withId, map, foundId⟩ :=
    @Json.setSome_spec .null trivial "id" (if item.id ≠ "" then some (.string item.id) else none)
  obtain ⟨typed, withType, sorted, foundType⟩ := Json.set_spec map "type" (.string "navigation")
  obtain ⟨kind, withKind, sorted, foundKind⟩ :=
    @Json.set_spec (.object typed) sorted "navigationType" (.string "waypoint")
  obtain ⟨framed, withFrame, sorted, foundFrame⟩ :=
    @Json.set_spec (.object kind) sorted "frame" item.data.frame.toJson
  obtain ⟨atX, withX, sorted, foundX⟩ :=
    @Json.set_spec (.object framed) sorted "x" (.float item.data.x)
  obtain ⟨atY, withY, sorted, foundY⟩ :=
    @Json.set_spec (.object atX) sorted "y" (.float item.data.y)
  obtain ⟨fields, withZ, sorted, foundZ⟩ :=
    @Json.set_spec (.object atY) sorted "z" (.float item.data.z)
  refine ⟨fields, ?_, sorted, fun key => ?_⟩
  · simp only [toJson, Waypoint.toJson, Option.bind_eq_bind, Option.bind_some, withId, withType,
      withKind, withFrame, withX, withY, withZ]
  · simp only [Json.at?] at foundKind foundFrame foundX foundY foundZ
    rw [foundZ, foundY, foundX, foundFrame, foundKind, foundType, foundId]
    by_cases named : item.id = "" <;> simp [field, idField, named, Json.at?]

theorem ActionItem.toJson_spec (item : ActionItem) (writable : item.arguments.writable = true)
    (wellFormed : item.arguments.WellFormed) :
    ∃ fields, item.toJson = some (.object fields) ∧ Lib.Entries.Sorted fields ∧
      ∀ key, Lib.Entries.find? key fields = item.field key := by
  obtain ⟨typed, withType, sorted, foundType⟩ :=
    @Json.set_spec .null trivial "type" (.string item.name)
  obtain ⟨json, withId, map, foundId⟩ := @Json.setSome_spec (.object typed) sorted "id"
    (if item.id ≠ "" then some (.string item.id) else none)
  have own : ∀ key, json.at? key = if key = "id" then idField item.id
      else if key = "type" then some (.string item.name) else none := by
    intro key
    rw [foundId]
    simp only [Json.at?, foundType]
    by_cases named : item.id = "" <;> by_cases atId : key = "id" <;>
      simp [idField, named, atId]
  have start : item.toJson =
      if item.arguments.json.isNull then some json else json.update item.arguments.json := by
    simp only [toJson, Option.bind_eq_bind, Option.bind_some, withType, withId]
  by_cases null : item.arguments.json = .null
  · cases json with
    | object fields =>
        refine ⟨fields, ?_, map, fun key => ?_⟩
        · simp [start, null, Json.isNull]
        · simpa [field, null, Json.at?] using own key
    | null =>
        have typeField := own "type"
        simp [Json.at?] at typeField
    | _ => cases map
  · obtain ⟨fields, updated, sorted, found⟩ :=
      Json.update_spec map (ActionArguments.isMap writable wellFormed) null
    refine ⟨fields, ?_, sorted, fun key => ?_⟩
    · have notNull : item.arguments.json.isNull = false := by
        cases written : item.arguments.json with
        | null => exact absurd written null
        | _ => rfl
      simp [start, notNull, updated]
    · rw [found, own, field]

theorem ActionItem.toJson_eq_none (item : ActionItem)
    (unwritable : item.arguments.writable = false) : item.toJson = none := by
  obtain ⟨name, id, ⟨json⟩⟩ := item
  have refuses : ∀ own : Json, own.update json = none := by
    intro own
    cases json with
    | null | object => cases unwritable
    | _ => cases own <;> rfl
  have notNull : json.isNull = false := by
    cases json with
    | null => cases unwritable
    | _ => rfl
  simp [toJson, notNull, refuses]

theorem MissionItem.toJson_spec (item : MissionItem) (writable : item.writable = true)
    (wellFormed : item.WellFormed) :
    ∃ fields, item.toJson = some (.object fields) ∧ Lib.Entries.Sorted fields ∧
      ∀ key, Lib.Entries.find? key fields = item.field key := by
  cases item with
  | navigation item => exact item.toJson_spec
  | action item => exact item.toJson_spec writable wellFormed

theorem MissionItem.toJson_eq_none (item : MissionItem) (unwritable : item.writable = false) :
    item.toJson = none := by
  cases item with
  | navigation => cases unwritable
  | action item => exact item.toJson_eq_none unwritable

theorem TrajectoryOptions.toJson_spec (options : TrajectoryOptions) :
    ∃ json, options.toJson = some json ∧ json.IsMap ∧ ∀ key, json.at? key = options.field key := by
  obtain ⟨horizontal, withHorizontal, map, foundHorizontal⟩ := @Json.setSome_spec .null trivial
    "horizontalVelocity" (options.horizontalVelocity.map .float)
  obtain ⟨vertical, withVertical, map, foundVertical⟩ := Json.setSome_spec map
    "verticalVelocity" (options.verticalVelocity.map .float)
  obtain ⟨json, withHeading, map, found⟩ := Json.setSome_spec map
    "maxHeadingRate" ((options.maxHeadingRate.map radToDeg).map .float)
  refine ⟨json, ?_, map, fun key => ?_⟩
  · simp only [toJson, Option.bind_eq_bind, Option.bind_some, withHorizontal, withVertical,
      withHeading]
  · rw [found, foundVertical, foundHorizontal]
    simp only [field, Option.isSome_map]
    obtain rfl | notHeading := eq_or_ne key "maxHeadingRate"
    · cases options.maxHeadingRate <;> simp [Json.at?]
    · obtain rfl | notVertical := eq_or_ne key "verticalVelocity"
      · cases options.verticalVelocity <;> simp [Json.at?]
      · cases options.horizontalVelocity <;> simp [notHeading, notVertical, Json.at?]

theorem MissionDefaults.toJson_spec (defaults : MissionDefaults) :
    ∃ json trajectory, defaults.toJson = some json ∧
      defaults.trajectoryOptions.toJson = some trajectory ∧
      ∀ key, json.at? key = trajectory.at? key := by
  obtain ⟨trajectory, form, map, _⟩ := defaults.trajectoryOptions.toJson_spec
  by_cases null : trajectory = .null
  · subst null
    exact ⟨.null, .null, by simp [toJson, form, Json.isNull], form, fun _ => rfl⟩
  · obtain ⟨fields, updated, _, found⟩ := @Json.update_spec .null trajectory trivial map null
    have notNull : trajectory.isNull = false := by
      cases trajectory with
      | null => exact absurd rfl null
      | _ => rfl
    refine ⟨.object fields, trajectory, ?_, form, fun key => ?_⟩
    · simp [toJson, form, notNull, updated]
    · simpa [Json.at?] using found key

namespace Mission

/-- The mission has a JSON form. -/
def writable (mission : Mission) : Bool :=
  mission.items.all MissionItem.writable

def WellFormed (mission : Mission) : Prop :=
  ∀ item ∈ mission.items, item.WellFormed

variable {mission : Mission}

theorem itemsToJson_eq_none {items : List MissionItem}
    (unwritable : items.all MissionItem.writable = false) :
    items.mapM MissionItem.toJson = none := by
  induction items with
  | nil => cases unwritable
  | cons item rest ih =>
      rw [List.mapM_cons]
      rcases (Bool.and_eq_false_iff.mp unwritable) with first | later
      · simp [item.toJson_eq_none first]
      · cases item.toJson <;> simp [ih later]

theorem toJson_eq_none (unwritable : mission.writable = false) : mission.toJson = none := by
  simp [toJson, itemsToJson_eq_none unwritable]

end Mission

namespace MissionExecutor

variable {config : Configuration} {registered : Bool} {id : UInt8} {ownedMode : ModeBase}
  {file : PersistenceFile}

end MissionExecutor

end Px4Ros2
