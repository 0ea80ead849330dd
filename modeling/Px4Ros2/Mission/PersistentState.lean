import Px4Ros2.Mission.Mission

/-! The mission state that survives a restart, and its file. -/

set_option autoImplicit false

namespace Px4Ros2

abbrev ActionID := Nat

structure ActionState where
  name : String
  arguments : ActionArguments
  /-- The keeper that was made with the entry. There is none for an entry read from a file. -/
  keeper : Option ActionID := none
deriving Repr, Inhabited

structure PersistentState where
  currentIndex : Option Int := none
  missionChecksum : String := ""
  continuousActions : Lib.OrderedMap ActionID ActionState := .empty

/-- The content of the persistence file. -/
inductive PersistenceFile where
  | missing
  /-- The text is no JSON. -/
  | unparsable
  | json (content : Json)
deriving Repr, Inhabited

namespace PersistentState

def actionToJson (action : ActionState) : Json :=
  .object [("arguments", action.arguments.json), ("name", .string action.name)]

def toJson (state : PersistentState) : Json :=
  let fields := Lib.Entries.insert "version" (Json.integer 1) []
  let fields :=
    match state.currentIndex with
    | some index => Lib.Entries.insert "currentIndex" (Json.integer index) fields
    | none => fields
  let fields := Lib.Entries.insert "actions"
    (Json.array (state.continuousActions.values.map actionToJson)) fields
  .object (Lib.Entries.insert "checksum" (Json.string state.missionChecksum) fields)

def actionFromJson (json : Json) : Option ActionState := do
  let name ← (← json.at? "name").getString
  let arguments ← json.at? "arguments"
  some { name, arguments := ⟨arguments⟩ }

/-- The loop over the stored actions, which numbers them from `id` on. -/
def actionsFromJson (id : ActionID) (actions : Lib.OrderedMap ActionID ActionState) :
    List Json → Option (Lib.OrderedMap ActionID ActionState)
  | [] => some actions
  | json :: rest => do
      let action ← actionFromJson json
      actionsFromJson (id + 1) (actions.insert id action) rest

def indexFromJson (json : Json) : Option (Option Int) :=
  if json.contains "currentIndex" then ((json.at? "currentIndex").bind Json.getInt).map some
  else some none

def continuousActionsFromJson (json : Json) : Option (Lib.OrderedMap ActionID ActionState) :=
  if json.contains "actions" then
    (json.at? "actions").bind fun actions => actionsFromJson 0 .empty actions.elements
  else some .empty

def fromJson (json : Json) : Option PersistentState := do
  let version ← (← json.at? "version").getInt
  if version ≠ 1 then none
  else
    let currentIndex ← indexFromJson json
    let continuousActions ← continuousActionsFromJson json
    let missionChecksum ← (← json.at? "checksum").getString
    some { currentIndex, missionChecksum, continuousActions }

/-- `tryLoadPersistentState`, for the file of the configuration. -/
def tryLoad (hash : Json → Nat) (mission : Mission) (file : PersistenceFile) :
    Option PersistentState :=
  match file with
  | .missing | .unparsable => none
  | .json content =>
      match fromJson content with
      | none => none
      | some state =>
          match state.currentIndex with
          | some index =>
              if state.missionChecksum = mission.checksum hash ∧ mission.indexValid index then
                some state
              else none
          | none => none

end PersistentState

end Px4Ros2
