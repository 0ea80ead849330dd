import Px4Ros2.Mission.ChecksumProperties

/-! Missions that are written and read again. -/

set_option autoImplicit false

namespace Px4Ros2

namespace Json

variable {json value : Json} {key : String}

theorem getSome_eq {T : Type} (json : Json) (key : String) (get : Json → Option T) :
    json.getSome key get =
      match json.at? key with
      | some value => (get value).map some
      | none => some none := by
  have same : json.contains key = (json.at? key).isSome := by cases json <;> rfl
  rw [getSome, same]
  cases json.at? key <;> rfl

theorem IsValue.at? (valid : json.IsValue) (found : json.at? key = some value) :
    value.IsValue := by
  cases valid with
  | object sorted fields => exact fields _ (Lib.Entries.mem_of_find? found)
  | _ => cases found

theorem IsValue.elements (valid : json.IsValue) :
    ∀ element ∈ json.elements, element.IsValue := by
  intro element member
  cases valid with
  | null => cases member
  | array elements => exact elements element member
  | object sorted fields =>
      obtain ⟨field, found, rfl⟩ := List.mem_map.mp member
      exact fields field found
  | _ =>
      cases List.mem_singleton.mp member
      constructor

end Json

/-! ### The parts -/

theorem degToRad_radToDeg (rad : Rat) : degToRad (radToDeg rad) = rad := by
  have whole : (mPi : Rat) ≠ 0 := by norm_num [mPi]
  unfold degToRad radToDeg
  field_simp

/-- What is written of the options is read again, whatever else is in the object. -/
theorem TrajectoryOptions.fromJson_of_fields {options : TrajectoryOptions} {json : Json}
    (fields : ∀ key, json.at? key = options.field key) :
    TrajectoryOptions.fromJson json = some options := by
  obtain ⟨horizontalVelocity, verticalVelocity, maxHeadingRate⟩ := options
  simp only [TrajectoryOptions.fromJson, Json.getSome_eq, fields, field]
  cases horizontalVelocity <;> cases verticalVelocity <;> cases maxHeadingRate <;>
    simp [Json.getFloat, degToRad_radToDeg]

theorem MissionDefaults.fromJson_toJson (defaults : MissionDefaults) :
    ∃ json, defaults.toJson = some json ∧ MissionDefaults.fromJson json = some defaults := by
  obtain ⟨json, trajectory, form, read, found⟩ := defaults.toJson_spec
  obtain ⟨options, read', _, fields⟩ := defaults.trajectoryOptions.toJson_spec
  rw [read, Option.some.injEq] at read'
  subst read'
  refine ⟨json, form, ?_⟩
  have whole := TrajectoryOptions.fromJson_of_fields fun key => (found key).trans (fields key)
  simp [MissionDefaults.fromJson, whole]

theorem NavigationItem.fromJson_toJson (item : NavigationItem) :
    ∃ json, item.toJson = some json ∧ MissionItem.fromJson json = some (.navigation item) := by
  obtain ⟨fields, form, _, found⟩ := item.toJson_spec
  have field (key : String) : (Json.object fields).at? key = item.field key := found key
  have id : (Json.object fields).getSome "id" Json.getString =
      some (if item.id ≠ "" then some item.id else none) := by
    rw [Json.getSome_eq, field]
    by_cases named : item.id = "" <;> simp [NavigationItem.field, idField, named, Json.getString]
  have data : Waypoint.fromJson (.object fields) = some item.data := by
    simp [Waypoint.fromJson, field, NavigationItem.field, MissionFrame.toJson,
      MissionFrame.fromJson, Json.getString, Json.getDouble]
  have named : (if item.id = "" then none else some item.id).getD "" = item.id := by
    by_cases named : item.id = "" <;> simp [named]
  refine ⟨.object fields, form, ?_⟩
  simp only [MissionItem.fromJson, NavigationItem.fromJson, id, data, field]
  simp [NavigationItem.field, Json.getString, named]

/-- An action is written as the object it was read from. -/
theorem ActionItem.toJson_fromJson {json : Json} {item : ActionItem} (valid : json.IsValue)
    (read : ActionItem.fromJson json = some item) : item.toJson = some json := by
  simp only [ActionItem.fromJson, Option.bind_eq_bind, Option.bind_eq_some_iff, Option.pure_def,
    Option.some.injEq] at read
  obtain ⟨name, ⟨type, foundType, asName⟩, id, readId, rfl⟩ := read
  cases valid with
  | @object own sorted fields =>
      obtain ⟨written, form, sortedWritten, found⟩ := ActionItem.toJson_spec
        { name, id := id.getD "", arguments := ⟨.object own⟩ } rfl sorted
      rw [form, Option.some.injEq, Json.object.injEq]
      refine Lib.Entries.ext sortedWritten sorted fun key => ?_
      rw [found]
      cases present : Lib.Entries.find? key own with
      | some value => simp [ActionItem.field, Json.at?, present]
      | none =>
          -- The identifier of the item was read from the object, and so was its name.
          have notType : key ≠ "type" := by
            intro same
            rw [← same] at foundType
            exact Option.some_ne_none _ (foundType.symm.trans present)
          have noId : key = "id" → idField (id.getD "") = none := by
            intro same
            rw [same] at present
            rw [Json.getSome_eq] at readId
            simp only [Json.at?, present, Option.some.injEq] at readId
            rw [← readId]
            rfl
          simp only [ActionItem.field, Json.at?, present, notType]
          by_cases same : key = "id" <;> simp [same, noId]
  | _ => cases foundType

/-! ### The whole -/

theorem MissionItem.fromJson_toJson {json : Json} {item : MissionItem} (valid : json.IsValue)
    (read : MissionItem.fromJson json = some item) :
    ∃ form, item.toJson = some form ∧ MissionItem.fromJson form = some item := by
  have again := read
  simp only [MissionItem.fromJson, Option.bind_eq_bind, Option.bind_eq_some_iff] at read
  obtain ⟨type, _, read⟩ := read
  split at read
  · simp only [Option.bind_eq_some_iff, Option.pure_def, Option.some.injEq] at read
    obtain ⟨navigation, _, rfl⟩ := read
    exact navigation.fromJson_toJson
  · simp only [Option.bind_eq_some_iff, Option.pure_def, Option.some.injEq] at read
    obtain ⟨action, readAction, rfl⟩ := read
    exact ⟨json, ActionItem.toJson_fromJson valid readAction, again⟩

namespace Mission

theorem itemsFromJson_toJson {documents : List Json} {items : List MissionItem}
    (valid : ∀ document ∈ documents, document.IsValue)
    (read : documents.mapM MissionItem.fromJson = some items) :
    ∃ forms, items.mapM MissionItem.toJson = some forms ∧
      forms.mapM MissionItem.fromJson = some items := by
  induction documents generalizing items with
  | nil =>
      rw [List.mapM_nil, Option.pure_def, Option.some.injEq] at read
      subst read
      exact ⟨[], rfl, rfl⟩
  | cons document rest ih =>
      rw [List.mapM_cons] at read
      simp only [Option.bind_eq_bind, Option.bind_eq_some_iff, Option.pure_def,
        Option.some.injEq] at read
      obtain ⟨item, readItem, others, readOthers, rfl⟩ := read
      obtain ⟨form, encoded, decoded⟩ :=
        MissionItem.fromJson_toJson (valid document List.mem_cons_self) readItem
      obtain ⟨forms, encodedOthers, decodedOthers⟩ :=
        ih (fun other member => valid other (List.mem_cons_of_mem _ member)) readOthers
      refine ⟨form :: forms, ?_, ?_⟩
      · simp [List.mapM_cons, encoded, encodedOthers]
      · simp [List.mapM_cons, decoded, decodedOthers]

/-- A mission that was read is written as a document that is read as the same mission. -/
theorem toJson_of_fromJson {json : Json} {mission : Mission} (valid : json.IsValue)
    (read : Mission.fromJson json = some mission) :
    ∃ document, mission.toJson = some document ∧ Mission.fromJson document = some mission := by
  simp only [Mission.fromJson, Option.bind_eq_bind, Option.bind_eq_some_iff] at read
  obtain ⟨version, _, read⟩ := read
  split at read
  · cases read
  simp only [Option.bind_eq_some_iff, Option.pure_def, Option.some.injEq] at read
  obtain ⟨body, foundBody, defaults, _, documents, foundItems, items, readItems, rfl⟩ := read
  obtain ⟨forms, encodedItems, decodedItems⟩ := itemsFromJson_toJson
    ((valid.at? foundBody).at? foundItems).elements readItems
  obtain ⟨written, encodedDefaults, decodedDefaults⟩ :=
    (defaults.getD {}).fromJson_toJson
  have before : "mission" < "version" := by decide
  refine ⟨.object [("mission", .object [("defaults", written), ("items", .array forms)]),
    ("version", .integer 1)], ?_, ?_⟩
  · simp [Mission.toJson, encodedItems, encodedDefaults, Json.set, Lib.Entries.insert, before]
  · have version : Json.toInt32 1 = 1 := by decide
    simp [Mission.fromJson, Json.at?, Lib.Entries.find?, Json.getInt, version, Json.getSome_eq,
      decodedDefaults, Json.elements, decodedItems]

/-- Writing and reading again. The document that is written for a mission that was read is accepted,
the mission that is read from it is the same one, it is written as the same document, and it has
the same checksum. -/
theorem reloaded_is_same {json : Json} {mission : Mission} (valid : json.IsValue)
    (read : Mission.fromJson json = some mission) (hash : Json → Nat) :
    ∃ document, mission.toJson = some document ∧ (Mission.fromJson document).isSome = true ∧
      ∀ reloaded, Mission.fromJson document = some reloaded →
        reloaded = mission ∧ reloaded.toJson = some document ∧
          reloaded.checksum hash = mission.checksum hash := by
  obtain ⟨document, encoded, decoded⟩ := toJson_of_fromJson valid read
  refine ⟨document, encoded, by rw [decoded]; rfl, fun reloaded again => ?_⟩
  obtain rfl := Option.some.inj (decoded.symm.trans again)
  exact ⟨rfl, encoded, rfl⟩

/-- An action with nested arguments, and a waypoint with a field that nothing reads. -/
def surveyDocument : Json :=
  .object [
    ("mission", .object [
      ("defaults", .object [("horizontalVelocity", .integer 5)]),
      ("items", .array [
        .object [("area", .object [("corners", .array [.integer 3, .null])]),
          ("type", .string "survey")],
        .object [("comment", .bool true), ("frame", .string "global"), ("id", .string "home"),
          ("navigationType", .string "waypoint"), ("type", .string "navigation"),
          ("x", .float (95 / 2)), ("y", .integer 8), ("z", .integer 500)]])]),
    ("version", .integer 1)]

theorem surveyDocument_isValue : surveyDocument.IsValue := by
  have action : Json.IsValue (.object [("area", .object [("corners", .array [.integer 3, .null])]),
      ("type", .string "survey")]) := by
    refine .object (by decide) ?_
    simp only [List.forall_mem_cons, List.not_mem_nil, false_imp_iff, implies_true, and_true]
    refine ⟨.object (by decide) ?_, .string _⟩
    simp only [List.forall_mem_cons, List.not_mem_nil, false_imp_iff, implies_true, and_true]
    refine .array ?_
    simp [Json.IsValue.integer, Json.IsValue.null]
  refine .object (by decide) ?_
  simp only [List.forall_mem_cons, List.not_mem_nil, false_imp_iff, implies_true, and_true]
  refine ⟨.object (by decide) ?_, .integer _⟩
  simp only [List.forall_mem_cons, List.not_mem_nil, false_imp_iff, implies_true, and_true]
  refine ⟨.object (by decide) (by simp [Json.IsValue.integer]), .array ?_⟩
  simp only [List.forall_mem_cons, List.not_mem_nil, false_imp_iff, implies_true, and_true]
  refine ⟨action, .object (by decide) ?_⟩
  simp [Json.IsValue.bool, Json.IsValue.string, Json.IsValue.float, Json.IsValue.integer]

theorem reloaded_is_same_survey :
    ∃ mission, Mission.fromJson surveyDocument = some mission ∧
      ∃ document, mission.toJson = some document ∧ (Mission.fromJson document).isSome = true ∧
        ∀ reloaded, Mission.fromJson document = some reloaded →
          reloaded = mission ∧ reloaded.toJson = some document ∧
            reloaded.checksum (fun _ => 7) = mission.checksum (fun _ => 7) := by
  have accepted : (Mission.fromJson surveyDocument).isSome = true := by decide
  obtain ⟨mission, read⟩ := Option.isSome_iff_exists.mp accepted
  exact ⟨mission, read, reloaded_is_same surveyDocument_isValue read _⟩

end Mission

end Px4Ros2
