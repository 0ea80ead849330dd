import Px4Ros2.Mission.Json
import Px4Ros2.Utils.Geometry

/-! Missions, their JSON form and their checksum. -/

set_option autoImplicit false

namespace Px4Ros2

/-- `ActionArguments`. -/
structure ActionArguments where
  json : Json := .null
deriving Repr, Inhabited

namespace ActionArguments

def contains (arguments : ActionArguments) (key : String) : Bool :=
  arguments.json.contains key

/-- `at<T>(key)`, with the conversion to `T`. -/
def at? {T : Type} (arguments : ActionArguments) (get : Json → Option T) (key : String) :
    Option T :=
  (arguments.json.at? key).bind get

/-- `resuming()`, which throws when the flag is not a boolean. -/
def resuming (arguments : ActionArguments) : Option Bool :=
  if arguments.contains "internal:resuming" then
    arguments.at? Json.getBool "internal:resuming"
  else some false

end ActionArguments

inductive MissionFrame where
  | global
deriving DecidableEq, Repr, Inhabited

structure Waypoint where
  x : Rat
  y : Rat
  z : Rat
  frame : MissionFrame := .global
deriving DecidableEq, Repr, Inhabited

inductive NavigationItemType where
  | waypoint
deriving DecidableEq, Repr

structure NavigationItem where
  id : String := ""
  data : Waypoint
deriving DecidableEq, Repr, Inhabited

structure ActionItem where
  name : String
  id : String := ""
  arguments : ActionArguments := {}
deriving Repr, Inhabited

inductive MissionItem where
  | navigation (item : NavigationItem)
  | action (item : ActionItem)
deriving Repr, Inhabited

structure TrajectoryOptions where
  horizontalVelocity : Option Rat := none
  verticalVelocity : Option Rat := none
  maxHeadingRate : Option Rat := none
deriving DecidableEq, Repr, Inhabited

def TrajectoryOptions.combineWith (old options : TrajectoryOptions) : TrajectoryOptions :=
  { horizontalVelocity := options.horizontalVelocity.or old.horizontalVelocity
    verticalVelocity := options.verticalVelocity.or old.verticalVelocity
    maxHeadingRate := options.maxHeadingRate.or old.maxHeadingRate }

structure MissionDefaults where
  trajectoryOptions : TrajectoryOptions := {}
deriving DecidableEq, Repr, Inhabited

structure Mission where
  defaults : MissionDefaults := {}
  items : List MissionItem := []
deriving Repr, Inhabited

def Mission.indexValid (mission : Mission) (index : Int) : Bool :=
  decide (0 ≤ index ∧ index < mission.items.length)

/-- `items()[index]`. -/
def Mission.item? (mission : Mission) (index : Int) : Option MissionItem :=
  if 0 ≤ index then mission.items[index.toNat]? else none

/-- Sets a field when there is a value for it. -/
def Json.setSome (json : Json) (key : String) (value : Option Json) : Option Json :=
  match value with
  | some value => json.set key value
  | none => some json

def TrajectoryOptions.toJson (options : TrajectoryOptions) : Option Json := do
  let json ← Json.setSome .null "horizontalVelocity" (options.horizontalVelocity.map .float)
  let json ← json.setSome "verticalVelocity" (options.verticalVelocity.map .float)
  json.setSome "maxHeadingRate" ((options.maxHeadingRate.map radToDeg).map .float)

def MissionDefaults.toJson (defaults : MissionDefaults) : Option Json := do
  let trajectoryJson ← defaults.trajectoryOptions.toJson
  if trajectoryJson.isNull then some .null else Json.update .null trajectoryJson

def MissionFrame.toJson : MissionFrame → Json
  | .global => .string "global"

def Waypoint.toJson (waypoint : Waypoint) (json : Json) : Option Json := do
  let json ← json.set "frame" waypoint.frame.toJson
  let json ← json.set "x" (.float waypoint.x)
  let json ← json.set "y" (.float waypoint.y)
  json.set "z" (.float waypoint.z)

def NavigationItem.toJson (item : NavigationItem) : Option Json := do
  let json ← Json.setSome .null "id" (if item.id ≠ "" then some (.string item.id) else none)
  let json ← json.set "type" (.string "navigation")
  let json ← json.set "navigationType" (.string "waypoint")
  item.data.toJson json

/-- The arguments are written over the fields of the item itself. -/
def ActionItem.toJson (item : ActionItem) : Option Json := do
  let json ← Json.null.set "type" (.string item.name)
  let json ← json.setSome "id" (if item.id ≠ "" then some (.string item.id) else none)
  if item.arguments.json.isNull then some json else json.update item.arguments.json

def MissionItem.toJson : MissionItem → Option Json
  | .navigation item => item.toJson
  | .action item => item.toJson

def Mission.toJson (mission : Mission) : Option Json := do
  let items ← mission.items.mapM MissionItem.toJson
  let defaults ← mission.defaults.toJson
  let json ← Json.null.set "version" (.integer 1)
  json.set "mission" (.object [("defaults", defaults), ("items", .array items)])

/-- A field that is read if it is there. -/
def Json.getSome {T : Type} (json : Json) (key : String) (get : Json → Option T) :
    Option (Option T) :=
  if json.contains key then ((json.at? key).bind get).map some else some none

def TrajectoryOptions.fromJson (json : Json) : Option TrajectoryOptions := do
  let horizontalVelocity ← json.getSome "horizontalVelocity" Json.getFloat
  let verticalVelocity ← json.getSome "verticalVelocity" Json.getFloat
  let maxHeadingRate ← json.getSome "maxHeadingRate" Json.getFloat
  return { horizontalVelocity, verticalVelocity
           maxHeadingRate := maxHeadingRate.map degToRad }

def MissionDefaults.fromJson (json : Json) : Option MissionDefaults := do
  let trajectoryOptions ← TrajectoryOptions.fromJson json
  return { trajectoryOptions }

def MissionFrame.fromJson (json : Json) : Option MissionFrame := do
  let frame ← json.getString
  if frame = "global" then return .global else none

def Waypoint.fromJson (json : Json) : Option Waypoint := do
  let frame ← (json.at? "frame").bind MissionFrame.fromJson
  let x ← (json.at? "x").bind Json.getDouble
  let y ← (json.at? "y").bind Json.getDouble
  let z ← (json.at? "z").bind Json.getDouble
  return { x, y, z, frame }

def NavigationItem.fromJson (json : Json) : Option NavigationItem := do
  let id ← json.getSome "id" Json.getString
  let navigationType ← (json.at? "navigationType").bind Json.getString
  if navigationType = "waypoint" then
    let data ← Waypoint.fromJson json
    return { id := id.getD "", data }
  else none

/-- The whole document is kept as the arguments. -/
def ActionItem.fromJson (json : Json) : Option ActionItem := do
  let name ← (json.at? "type").bind Json.getString
  let id ← json.getSome "id" Json.getString
  return { name, id := id.getD "", arguments := ⟨json⟩ }

def MissionItem.fromJson (json : Json) : Option MissionItem := do
  let type ← (json.at? "type").bind Json.getString
  if type = "navigation" then
    let item ← NavigationItem.fromJson json
    return .navigation item
  else
    let item ← ActionItem.fromJson json
    return .action item

/-- `from_json`, into a mission that is empty. -/
def Mission.fromJson (json : Json) : Option Mission := do
  let version ← (json.at? "version").bind Json.getInt
  if version ≠ 1 then none
  else
    let mission ← json.at? "mission"
    let defaults ← mission.getSome "defaults" MissionDefaults.fromJson
    let documents ← mission.at? "items"
    let items ← documents.elements.mapM MissionItem.fromJson
    return { defaults := defaults.getD {}, items }

/-- `checksum()`: the hash in decimal, or nothing when the mission has no JSON form. -/
def Mission.checksum (hash : Json → Nat) (mission : Mission) : String :=
  match mission.toJson with
  | some json => toString (hash json)
  | none => ""

end Px4Ros2
