import Px4Ros2.Mission.MissionSchema

/-! How far the schema of mission files and `from_json` agree. Each of the two makes checks that the
other does not make. -/

set_option autoImplicit false

namespace Px4Ros2

open JsonSchema (properties const)

variable {T : Type} {json : Json} {key : String}

namespace Json

/-- A field meets what is expected of it, if it is there. -/
def FieldIs (json : Json) (key : String) (expected : Json → Prop) : Prop :=
  ∀ value, json.at? key = some value → expected value

def IsNonNegative (json : Json) : Prop :=
  ∃ value, json.number? = some value ∧ 0 ≤ value

theorem contains_eq_isSome : json.contains key = (json.at? key).isSome := by
  cases json <;> rfl

theorem isSome_getSome {get : Json → Option T} :
    (json.getSome key get).isSome = true ↔
      json.FieldIs key fun value => (get value).isSome = true := by
  unfold getSome FieldIs
  rw [contains_eq_isSome]
  cases json.at? key with
  | none => simp
  | some value => simp

theorem isSome_bind_at? {get : Json → Option T} :
    ((json.at? key).bind get).isSome = true ↔
      ∃ value, json.at? key = some value ∧ (get value).isSome = true := by
  cases json.at? key with
  | none => simp
  | some value => simp

theorem hasType_object_of_at? {value : Json} (found : json.at? key = some value) :
    json.hasType .object = true := by
  cases json with
  | object => rfl
  | null | bool | integer | float | string | array => cases found

theorem hasType_number : json.hasType .number = json.number?.isSome := by
  cases json <;> rfl

theorem isSome_getDouble : json.getDouble.isSome = json.hasType .number := by
  cases json <;> rfl

theorem isSome_getString : json.getString.isSome = json.hasType .string := by
  cases json <;> rfl

theorem getString_eq_some {text : String} : json.getString = some text ↔ json = .string text := by
  cases json <;> simp [getString]

theorem isOneOf_singleton {text : String} : json.isOneOf [text] = true ↔ json = .string text := by
  cases json <;> simp [isOneOf]

/-- Only a string is one of some strings. -/
theorem isOneOf_text {values : List String} :
    json.hasType .string = true ∧ json.isOneOf values = true ↔ json.isOneOf values = true := by
  cases json <;> simp [isOneOf, hasType]

theorem getInt_of_one (one : json.number? = some 1) : json.getInt = some 1 := by
  cases json with
  | integer value =>
      obtain rfl : value = 1 := by simpa [number?] using one
      rfl
  | float value =>
      obtain rfl : value = 1 := Option.some.inj one
      rfl
  | null | bool | string | array | object => cases one

theorem isNonNegative_number (inRange : json.IsNonNegative) : json.getFloat.isSome = true := by
  obtain ⟨value, number, -⟩ := inRange
  cases json with
  | integer | float => rfl
  | null | bool | string | array | object => cases number

end Json

/-! ### What `from_json` needs -/

theorem TrajectoryOptions.isSome_fromJson :
    (TrajectoryOptions.fromJson json).isSome = true ↔
      ∀ key ∈ ["horizontalVelocity", "verticalVelocity", "maxHeadingRate"],
        json.FieldIs key fun value => value.getFloat.isSome = true := by
  simp only [List.forall_mem_cons, List.not_mem_nil, false_implies, implies_true, and_true,
    ← Json.isSome_getSome]
  unfold TrajectoryOptions.fromJson
  cases json.getSome "horizontalVelocity" Json.getFloat with
  | none => simp
  | some horizontalVelocity =>
      cases json.getSome "verticalVelocity" Json.getFloat with
      | none => simp
      | some verticalVelocity =>
          cases json.getSome "maxHeadingRate" Json.getFloat with
          | none => simp
          | some maxHeadingRate => simp

theorem MissionDefaults.isSome_fromJson :
    (MissionDefaults.fromJson json).isSome = (TrajectoryOptions.fromJson json).isSome := by
  unfold MissionDefaults.fromJson
  cases TrajectoryOptions.fromJson json <;> rfl

theorem MissionFrame.isSome_fromJson :
    (MissionFrame.fromJson json).isSome = true ↔ json = .string "global" := by
  rw [← Json.getString_eq_some]
  unfold MissionFrame.fromJson
  cases json.getString with
  | none => simp
  | some frame =>
      by_cases global : frame = "global"
      · simp [global]
      · simp [global]

/-- The fields of a waypoint. -/
structure IsWaypoint (json : Json) : Prop where
  frame : json.at? "frame" = some (.string "global")
  position : ∀ key ∈ ["x", "y", "z"], ∃ value, json.at? key = some value ∧
    value.hasType .number = true

theorem Waypoint.isSome_fromJson :
    (Waypoint.fromJson json).isSome = true ↔ IsWaypoint json := by
  have number : ∀ key, ((json.at? key).bind Json.getDouble).isSome = true ↔
      ∃ value, json.at? key = some value ∧ value.hasType .number = true := by
    intro key
    simp only [Json.isSome_bind_at?, Json.isSome_getDouble]
  have frame : ((json.at? "frame").bind MissionFrame.fromJson).isSome = true ↔
      json.at? "frame" = some (.string "global") := by
    simp only [Json.isSome_bind_at?, MissionFrame.isSome_fromJson, exists_eq_right]
  have fields : IsWaypoint json ↔
      ((json.at? "frame").bind MissionFrame.fromJson).isSome = true ∧
        ∀ key ∈ ["x", "y", "z"], ((json.at? key).bind Json.getDouble).isSome = true := by
    simp only [frame, number]
    exact ⟨fun ⟨frame, position⟩ => ⟨frame, position⟩, fun ⟨frame, position⟩ => ⟨frame, position⟩⟩
  rw [fields]
  simp only [List.forall_mem_cons, List.not_mem_nil, false_implies, implies_true, and_true]
  unfold Waypoint.fromJson
  cases (json.at? "frame").bind MissionFrame.fromJson with
  | none => simp
  | some frame =>
      cases (json.at? "x").bind Json.getDouble with
      | none => simp
      | some x =>
          cases (json.at? "y").bind Json.getDouble with
          | none => simp
          | some y =>
              cases (json.at? "z").bind Json.getDouble with
              | none => simp
              | some z => simp

theorem NavigationItem.isSome_fromJson :
    (NavigationItem.fromJson json).isSome = true ↔
      json.FieldIs "id" (fun id => id.hasType .string = true) ∧
        json.at? "navigationType" = some (.string "waypoint") ∧ IsWaypoint json := by
  simp only [← Json.isSome_getString, ← Json.isSome_getSome, ← Waypoint.isSome_fromJson]
  unfold NavigationItem.fromJson
  cases json.getSome "id" Json.getString with
  | none => simp
  | some id =>
      cases found : json.at? "navigationType" with
      | none => simp
      | some navigationType =>
          cases text : navigationType.getString with
          | none =>
              have other : navigationType ≠ .string "waypoint" := by
                rintro rfl
                cases text
              simp [text, other]
          | some text' =>
              obtain rfl := Json.getString_eq_some.mp text
              by_cases waypoint : text' = "waypoint"
              · subst waypoint
                cases Waypoint.fromJson json <;> simp [Json.getString]
              · simp [text, waypoint]

theorem ActionItem.isSome_fromJson :
    (ActionItem.fromJson json).isSome = true ↔
      (∃ type, json.at? "type" = some (.string type)) ∧
        json.FieldIs "id" fun id => id.hasType .string = true := by
  simp only [← Json.isSome_getString, ← Json.isSome_getSome]
  unfold ActionItem.fromJson
  cases found : json.at? "type" with
  | none => simp
  | some type =>
      cases type with
      | string text => cases json.getSome "id" Json.getString <;> simp [Json.getString]
      | null | bool | integer | float | array | object => simp [Json.getString]

theorem MissionItem.isSome_fromJson :
    (MissionItem.fromJson json).isSome = true ↔
      ∃ type, json.at? "type" = some (.string type) ∧
        json.FieldIs "id" (fun id => id.hasType .string = true) ∧
        (type = "navigation" →
          json.at? "navigationType" = some (.string "waypoint") ∧ IsWaypoint json) := by
  unfold MissionItem.fromJson
  cases found : json.at? "type" with
  | none => simp
  | some type =>
      cases type with
      | null | bool | integer | float | array | object => simp [Json.getString]
      | string text =>
          by_cases navigation : text = "navigation"
          · have read := @NavigationItem.isSome_fromJson json
            cases item : NavigationItem.fromJson json with
            | none => simp_all [Json.getString]
            | some item' => simp_all [Json.getString]
          · have read := @ActionItem.isSome_fromJson json
            cases item : ActionItem.fromJson json with
            | none => simp_all [Json.getString]
            | some item' => simp_all [Json.getString]

theorem isSome_mapM {Source Target : Type} {decode : Source → Option Target}
    {sources : List Source} :
    (sources.mapM decode).isSome = true ↔ ∀ source ∈ sources, (decode source).isSome = true := by
  induction sources with
  | nil => simp
  | cons source sources ih =>
      rw [List.mapM_cons, List.forall_mem_cons, ← ih]
      cases decode source with
      | none => simp
      | some target => cases sources.mapM decode <;> simp

theorem Mission.isSome_fromJson :
    (Mission.fromJson json).isSome = true ↔
      (∃ version, json.at? "version" = some version ∧ version.getInt = some 1) ∧
        ∃ mission, json.at? "mission" = some mission ∧
          mission.FieldIs "defaults" (fun defaults =>
            (MissionDefaults.fromJson defaults).isSome = true) ∧
          ∃ items, mission.at? "items" = some items ∧
            ∀ item ∈ items.elements, (MissionItem.fromJson item).isSome = true := by
  simp only [← Json.isSome_getSome, ← isSome_mapM]
  unfold Mission.fromJson
  cases found : json.at? "version" with
  | none => simp
  | some version =>
      cases number : version.getInt with
      | none => simp [number]
      | some value =>
          by_cases one : value = 1
          · subst one
            cases reached : json.at? "mission" with
            | none => simp [number]
            | some mission =>
                cases defaults : mission.getSome "defaults" MissionDefaults.fromJson with
                | none => simp [number, defaults]
                | some defaults' =>
                    cases items : mission.at? "items" with
                    | none => simp [number, defaults, items]
                    | some items' =>
                        cases read : items'.elements.mapM MissionItem.fromJson <;>
                          simp [number, defaults, items, read]
          · simp [number, one]

/-! ### What the schema leaves optional -/

structure ItemComplete (item : Json) : Prop where
  type : item.contains "type" = true
  navigationType : item.at? "type" = some (.string "navigation") →
    item.at? "navigationType" = some (.string "waypoint")

/-- The fields that `from_json` needs although a document is valid without them. -/
structure DocumentComplete (document : Json) : Prop where
  version : document.contains "version" = true
  mission : document.contains "mission" = true
  items : document.FieldIs "mission" fun mission => mission.FieldIs "items" fun items =>
    ∀ item ∈ items.elements, ItemComplete item

/-! ### What `from_json` does not check -/

/-- Velocities and rates are numbers and not negative. -/
def SettingsInRange (settings : Json) : Prop :=
  ∀ key ∈ ["horizontalVelocity", "verticalVelocity", "maxHeadingRate"],
    settings.FieldIs key Json.IsNonNegative

structure ItemAllowed (item : Json) : Prop where
  /-- The type does not start with the reserved prefix. -/
  type : ∀ type, item.at? "type" = some (.string type) →
    "internal:".toList.isPrefixOf type.toList = false
  /-- A waypoint has no other fields. -/
  navigation : item.at? "type" = some (.string "navigation") →
    ∀ key ∈ item.keys, key ∈ ["frame", "x", "y", "z", "id", "type", "navigationType"]
  onResume : item.at? "type" = some (.string "onResume") →
    item.FieldIs "action" fun action => action.isOneOf ["storeState", "resume"] = true
  onFailure : item.at? "type" = some (.string "onFailure") →
    item.FieldIs "reason" (fun reason => reason.isOneOf
      ["actionDoesNotExist", "noValidMission", "trajectoryFailure", "modeFailure", "other"] =
        true) ∧
    item.FieldIs "recursionLevel" (fun level => level.hasType .integer = true) ∧
    item.FieldIs "currentIndex" (fun index => index.hasType .integer = true)
  takeoff : item.at? "type" = some (.string "takeoff") →
    item.FieldIs "altitude" fun altitude => altitude.hasType .number = true
  changeSettings : item.at? "type" = some (.string "changeSettings") →
    SettingsInRange item ∧ item.FieldIs "resetAll" (fun reset => reset.hasType .boolean = true)
  hold : item.at? "type" = some (.string "hold") → item.FieldIs "duration" Json.IsNonNegative

structure MissionAllowed (mission : Json) : Prop where
  keys : ∀ key ∈ mission.keys, key ∈ ["defaults", "items"]
  defaults : mission.FieldIs "defaults" fun defaults =>
    defaults.hasType .object = true ∧ SettingsInRange defaults
  items : mission.FieldIs "items" fun items =>
    items.hasType .array = true ∧ ∀ item ∈ items.elements, ItemAllowed item

/-- What the schema asks of a document that `from_json` accepts. -/
structure DocumentAllowed (document : Json) : Prop where
  keys : ∀ key ∈ document.keys, key ∈ ["version", "mission"]
  /-- The version is the number 1, not a value that is converted to it. -/
  version : document.FieldIs "version" fun version => version.number? = some 1
  mission : document.FieldIs "mission" MissionAllowed

/-! ### What the schema says -/

namespace MissionSchema

variable {settings : Json}

theorem accepts_nonNegative : nonNegative.accepts json = true ↔ json.IsNonNegative := by
  simp only [nonNegative, JsonSchema.accepts_allOf, List.forall_mem_cons,
    JsonSchema.accepts_type, JsonSchema.accepts_minimum, Json.hasType_number]
  unfold Json.IsNonNegative
  cases json.number? with
  | none => simp
  | some value => simp

theorem accepts_version : version.accepts json = true ↔ json.number? = some 1 := by
  simp only [version, JsonSchema.accepts_allOf, List.forall_mem_cons,
    JsonSchema.accepts_type, JsonSchema.accepts_minimum, JsonSchema.accepts_maximum]
  constructor
  · rintro ⟨integer, least, most, _⟩
    cases number : json.number? with
    | none => cases json <;> cases number <;> cases integer
    | some value => rw [Rat.le_antisymm (most value number) (least value number)]
  · intro one
    refine ⟨?_, ?_, ?_, by simp⟩
    · cases json with
      | integer => rfl
      | float value =>
          obtain rfl : value = 1 := Option.some.inj one
          rfl
      | null | bool | string | array | object => cases one
    · simp [one]
    · simp [one]

theorem accepts_defaults :
    defaults.accepts json = true ↔ json.hasType .object = true ∧ SettingsInRange json := by
  simp [defaults, accepts_nonNegative, SettingsInRange, Json.FieldIs]

/-- A branch for a predefined action, when the item has a type. -/
theorem accepts_action {type name : String} {fields : List (String × JsonSchema)}
    (typed : json.at? "type" = some (.string type)) :
    (action name fields).accepts json = true ↔
      (json.at? "type" = some (.string name) → ∀ field ∈ fields,
        json.FieldIs field.1 fun value => field.2.accepts value = true) := by
  simp [action, typed, Json.FieldIs]

/-- The branch for waypoints, for an item that has what `from_json` needs. -/
theorem accepts_waypoint {type : String} (typed : json.at? "type" = some (.string type))
    (id : json.FieldIs "id" fun id => id.hasType .string = true)
    (read : type = "navigation" →
      json.at? "navigationType" = some (.string "waypoint") ∧ IsWaypoint json) :
    waypoint.accepts json = true ↔ (json.at? "type" = some (.string "navigation") →
      ∀ key ∈ json.keys, key ∈ waypointKeys) := by
  by_cases navigation : type = "navigation"
  · subst navigation
    obtain ⟨kind, frame, position⟩ := read rfl
    obtain ⟨x, foundX, numberX⟩ := position "x" (by simp)
    obtain ⟨y, foundY, numberY⟩ := position "y" (by simp)
    obtain ⟨z, foundZ, numberZ⟩ := position "z" (by simp)
    have texts : (Json.string "navigation").hasType .string = true ∧
        (Json.string "waypoint").hasType .string = true ∧
        (Json.string "global").isOneOf ["global"] = true := by decide
    have id : ∀ value, json.at? "id" = some value → value.hasType .string = true := id
    simp only [waypoint, JsonSchema.accepts_ifThen, JsonSchema.accepts_properties,
      JsonSchema.accepts_allOf, List.forall_mem_cons, List.not_mem_nil, false_implies,
      implies_true, and_true, JsonSchema.accepts_const, JsonSchema.accepts_enum,
      JsonSchema.accepts_type, JsonSchema.accepts_required,
      JsonSchema.accepts_noAdditionalProperties, Json.contains_eq_isSome, typed, kind, frame,
      foundX, foundY, foundZ, numberX, numberY, numberZ, texts, Option.some.injEq, forall_eq',
      Option.isSome_some, true_and, true_implies, and_self, iff_true_intro id]
  · simp [waypoint, typed, navigation]

/-- What a valid waypoint has. -/
theorem isWaypoint_of_accepts (object : json.hasType .object = true)
    (typed : json.at? "type" = some (.string "navigation"))
    (kind : json.at? "navigationType" = some (.string "waypoint"))
    (valid : waypoint.accepts json = true) : IsWaypoint json := by
  simp only [waypoint, JsonSchema.accepts_ifThen, JsonSchema.accepts_properties,
    JsonSchema.accepts_allOf, List.forall_mem_cons, List.not_mem_nil, false_implies,
    implies_true, and_true, JsonSchema.accepts_const, JsonSchema.accepts_enum,
    JsonSchema.accepts_type, JsonSchema.accepts_required, Json.contains_eq_isSome, typed, kind,
    Option.some.injEq, forall_eq', and_self, true_implies, object,
    Option.isSome_iff_exists] at valid
  obtain ⟨⟨global, x, y, z, -⟩, ⟨hasX, hasY, hasZ, frame, found⟩, -⟩ := valid
  constructor
  · rw [found, Json.isOneOf_singleton.mp (global frame found)]
  · have required : ∀ key, (∃ value, json.at? key = some value) →
        (∀ value, json.at? key = some value → value.hasType .number = true) →
        ∃ value, json.at? key = some value ∧ value.hasType .number = true := by
      rintro key ⟨value, found⟩ number
      exact ⟨value, found, number value found⟩
    simp only [List.forall_mem_cons, List.not_mem_nil, false_implies, implies_true, and_true]
    exact ⟨required _ hasX x, required _ hasY y, required _ hasZ z⟩

theorem accepts_item : item.accepts json = true ↔
    json.hasType .object = true ∧
    json.FieldIs "id" (fun id => id.hasType .string = true) ∧
    json.FieldIs "type" (fun type =>
      type.hasType .string = true ∧ type.startsWith "internal:" = false) ∧
    ∀ branch ∈ [waypoint, onResume, onFailure, takeoff, rtl, land, changeSettings, hold],
      branch.accepts json = true := by
  simp [item, Json.FieldIs, and_assoc]

/-- An item that is read is valid if it is as the schema asks beyond that. -/
theorem accepts_item_of_read (read : (MissionItem.fromJson json).isSome = true) :
    item.accepts json = true ↔ ItemAllowed json := by
  obtain ⟨type, typed, id, navigation⟩ := MissionItem.isSome_fromJson.mp read
  have object := Json.hasType_object_of_at? typed
  have text : json.FieldIs "type" (fun type =>
      type.hasType .string = true ∧ type.startsWith "internal:" = false) ↔
      ∀ type, json.at? "type" = some (.string type) →
        "internal:".toList.isPrefixOf type.toList = false := by
    simp [Json.FieldIs, typed, Json.hasType, Json.startsWith]
  rw [accepts_item]
  simp only [object, id, text, List.forall_mem_cons, List.not_mem_nil, false_implies,
    implies_true, and_true, true_and, accepts_waypoint typed id navigation, onResume, onFailure,
    takeoff, rtl, land, changeSettings, hold, accepts_action typed, accepts_nonNegative,
    JsonSchema.accepts_allOf, JsonSchema.accepts_type, JsonSchema.accepts_enum,
    Json.isOneOf_text]
  constructor
  · rintro ⟨type, navigation, onResume, onFailure, takeoff, changeSettings, hold⟩
    refine ⟨type, navigation, onResume, onFailure, takeoff, fun settings => ?_, hold⟩
    obtain ⟨horizontal, vertical, rate, reset⟩ := changeSettings settings
    exact ⟨by simp [SettingsInRange, horizontal, vertical, rate], reset⟩
  · rintro ⟨type, navigation, onResume, onFailure, takeoff, changeSettings, hold⟩
    refine ⟨type, navigation, onResume, onFailure, takeoff, fun settings => ?_, hold⟩
    obtain ⟨inRange, reset⟩ := changeSettings settings
    exact ⟨inRange _ (by simp), inRange _ (by simp), inRange _ (by simp), reset⟩

/-- A valid item is read if it has the fields that the schema leaves optional. -/
theorem read_item_of_accepts (valid : item.accepts json = true) :
    (MissionItem.fromJson json).isSome = true ↔ ItemComplete json := by
  rw [accepts_item] at valid
  obtain ⟨object, id, type, branches⟩ := valid
  rw [MissionItem.isSome_fromJson]
  constructor
  · intro ⟨type, typed, _, navigation⟩
    refine ⟨by simp [Json.contains_eq_isSome, typed], fun isNavigation => ?_⟩
    rw [typed] at isNavigation
    cases isNavigation
    exact (navigation rfl).1
  · intro ⟨typed, kind⟩
    rw [Json.contains_eq_isSome, Option.isSome_iff_exists] at typed
    obtain ⟨value, found⟩ := typed
    obtain ⟨isText, -⟩ := type value found
    cases value with
    | string text =>
        refine ⟨text, found, id, ?_⟩
        rintro rfl
        have kind := kind found
        refine ⟨kind, ?_⟩
        exact isWaypoint_of_accepts object found kind (branches waypoint (by simp))
    | null | bool | integer | float | array | object => cases isText

theorem accepts_items : (JsonSchema.items item).accepts json = true ∧ json.hasType .array = true ↔
    json.hasType .array = true ∧ ∀ element ∈ json.elements, item.accepts element = true := by
  cases json with
  | array elements => simp [Json.hasType, Json.elements]
  | null | bool | integer | float | string | object => simp [Json.hasType]

theorem accepts_mission : mission.accepts json = true ↔
    json.hasType .object = true ∧ json.contains "items" = true ∧
    json.FieldIs "defaults" (fun defaults =>
      defaults.hasType .object = true ∧ SettingsInRange defaults) ∧
    json.FieldIs "items" (fun items =>
      items.hasType .array = true ∧ ∀ element ∈ items.elements, item.accepts element = true) ∧
    ∀ key ∈ json.keys, key ∈ ["defaults", "items"] := by
  simp only [mission, JsonSchema.accepts_allOf, List.forall_mem_cons, List.not_mem_nil,
    false_implies, implies_true, and_true, JsonSchema.accepts_type,
    JsonSchema.accepts_properties, accepts_defaults, JsonSchema.accepts_required,
    JsonSchema.accepts_noAdditionalProperties, ← accepts_items]
  constructor
  · rintro ⟨object, ⟨defaults, items⟩, required, keys⟩
    exact ⟨object, required object, defaults, fun value found => (items value found).symm, keys⟩
  · rintro ⟨object, required, defaults, items, keys⟩
    exact ⟨object, ⟨defaults, fun value found => (items value found).symm⟩, fun _ => required,
      keys⟩

theorem accepts_document : document.accepts json = true ↔
    json.hasType .object = true ∧
    json.FieldIs "version" (fun version => version.number? = some 1) ∧
    json.FieldIs "mission" (fun value => mission.accepts value = true) ∧
    ∀ key ∈ json.keys, key ∈ ["version", "mission"] := by
  simp only [document, JsonSchema.accepts_allOf, List.forall_mem_cons, List.not_mem_nil,
    false_implies, implies_true, and_true, JsonSchema.accepts_type,
    JsonSchema.accepts_properties, accepts_version, JsonSchema.accepts_noAdditionalProperties,
    Json.FieldIs, and_assoc]

/-- A valid document is read if it has the fields that the schema leaves optional. -/
theorem read_of_accepts (valid : document.accepts json = true) :
    (Mission.fromJson json).isSome = true ↔ DocumentComplete json := by
  obtain ⟨_, version, valid, _⟩ := accepts_document.mp valid
  rw [Mission.isSome_fromJson]
  constructor
  · intro ⟨⟨number, hasVersion, _⟩, value, hasMission, _, items, hasItems, read⟩
    refine ⟨by simp [Json.contains_eq_isSome, hasVersion],
      by simp [Json.contains_eq_isSome, hasMission], ?_⟩
    intro value' found items' found' element member
    rw [hasMission] at found
    cases found
    rw [hasItems] at found'
    cases found'
    obtain ⟨_, _, _, elements, _⟩ := accepts_mission.mp (valid value hasMission)
    exact (read_item_of_accepts ((elements items hasItems).2 element member)).mp
      (read element member)
  · intro ⟨hasVersion, hasMission, complete⟩
    rw [Json.contains_eq_isSome, Option.isSome_iff_exists] at hasVersion hasMission
    obtain ⟨number, hasVersion⟩ := hasVersion
    obtain ⟨value, hasMission⟩ := hasMission
    obtain ⟨_, hasItems, defaults, elements, _⟩ := accepts_mission.mp (valid value hasMission)
    rw [Json.contains_eq_isSome, Option.isSome_iff_exists] at hasItems
    obtain ⟨items, hasItems⟩ := hasItems
    refine ⟨⟨number, hasVersion, Json.getInt_of_one (version number hasVersion)⟩, value,
      hasMission, ?_, items, hasItems, ?_⟩
    · intro settings found
      rw [MissionDefaults.isSome_fromJson, TrajectoryOptions.isSome_fromJson]
      intro key member setting found'
      exact Json.isNonNegative_number ((defaults settings found).2 key member setting found')
    · intro element member
      exact (read_item_of_accepts ((elements items hasItems).2 element member)).mpr
        (complete value hasMission items hasItems element member)

/-- A document that is read is valid if it is as the schema asks beyond that. -/
theorem accepts_of_read (read : (Mission.fromJson json).isSome = true) :
    document.accepts json = true ↔ DocumentAllowed json := by
  obtain ⟨⟨number, hasVersion, _⟩, value, hasMission, _, items, hasItems, elements⟩ :=
    Mission.isSome_fromJson.mp read
  have allowed : mission.accepts value = true ↔ MissionAllowed value := by
    have object := Json.hasType_object_of_at? hasItems
    have contained : value.contains "items" = true := by
      simp [Json.contains_eq_isSome, hasItems]
    rw [accepts_mission]
    constructor
    · intro ⟨_, _, defaults, valid, keys⟩
      refine ⟨keys, defaults, fun items' found => ?_⟩
      obtain ⟨array, valid⟩ := valid items' found
      rw [hasItems] at found
      cases found
      exact ⟨array, fun element member =>
        (accepts_item_of_read (elements element member)).mp (valid element member)⟩
    · intro ⟨keys, defaults, allowed⟩
      refine ⟨object, contained, defaults, fun items' found => ?_, keys⟩
      obtain ⟨array, allowed⟩ := allowed items' found
      rw [hasItems] at found
      cases found
      exact ⟨array, fun element member =>
        (accepts_item_of_read (elements element member)).mpr (allowed element member)⟩
  have reached : json.FieldIs "mission" (fun value => mission.accepts value = true) ↔
      json.FieldIs "mission" MissionAllowed := by
    simp only [Json.FieldIs, hasMission, Option.some.injEq, forall_eq', allowed]
  rw [accepts_document, reached]
  constructor
  · intro ⟨_, version, allowed, keys⟩
    exact ⟨keys, version, allowed⟩
  · intro ⟨keys, version, allowed⟩
    exact ⟨Json.hasType_object_of_at? hasVersion, version, allowed, keys⟩

/-- The schema and `from_json` agree up to what only one of them checks. -/
theorem decoder_agrees (json : Json) :
    (document.accepts json = true →
      ((Mission.fromJson json).isSome = true ↔ DocumentComplete json)) ∧
    ((Mission.fromJson json).isSome = true →
      (document.accepts json = true ↔ DocumentAllowed json)) :=
  ⟨read_of_accepts, accepts_of_read⟩

/-- A mission to one waypoint and a landing. -/
def waypointDocument : Json :=
  .object
    [("mission", .object
      [("defaults", .object [("horizontalVelocity", .integer 5)]),
        ("items", .array
          [.object [("frame", .string "global"), ("navigationType", .string "waypoint"),
            ("type", .string "navigation"), ("x", .integer 47), ("y", .integer 8),
            ("z", .integer 500)],
          .object [("type", .string "land")]])]),
      ("version", .integer 1)]

theorem decoder_agrees_on_waypoint :
    document.accepts waypointDocument = true ∧ (Mission.fromJson waypointDocument).isSome = true ∧
      DocumentComplete waypointDocument ∧ DocumentAllowed waypointDocument := by
  have valid : document.accepts waypointDocument = true := by decide
  have read : (Mission.fromJson waypointDocument).isSome = true := by decide
  obtain ⟨reads, accepts⟩ := decoder_agrees waypointDocument
  exact ⟨valid, read, (reads valid).mp read, (accepts read).mp valid⟩

/-- It flies backwards by default. -/
def backwardDocument : Json :=
  .object
    [("mission", .object
      [("defaults", .object [("horizontalVelocity", .integer (-1))]), ("items", .array [])]),
      ("version", .integer 1)]

/-- A valid document that is not read, and one that is read and not valid. -/
theorem decoder_disagrees :
    (document.accepts (.object []) = true ∧ (Mission.fromJson (.object [])).isSome = false) ∧
    document.accepts backwardDocument = false ∧
      (Mission.fromJson backwardDocument).isSome = true := by
  decide

end MissionSchema

end Px4Ros2
