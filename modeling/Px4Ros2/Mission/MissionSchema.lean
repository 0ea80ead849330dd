import Px4Ros2.Mission.JsonSchema
import Px4Ros2.Mission.Mission

/-! The schema of mission files, and how far it agrees with `from_json`. -/

set_option autoImplicit false

namespace Px4Ros2

open JsonSchema (properties const)

namespace MissionSchema

/-- A number from 0 on. -/
def nonNegative : JsonSchema :=
  .allOf [.type .number, .minimum 0]

def version : JsonSchema :=
  .allOf [.type .integer, .minimum 1, .maximum 1]

def defaults : JsonSchema :=
  .allOf
    [.type .object,
      properties
        [("horizontalVelocity", nonNegative), ("verticalVelocity", nonNegative),
          ("maxHeadingRate", nonNegative)]]

def waypointKeys : List String :=
  ["frame", "x", "y", "z", "id", "type", "navigationType"]

def waypoint : JsonSchema :=
  .ifThen (properties [("type", const "navigation"), ("navigationType", const "waypoint")])
    (.allOf
      [properties
        [("frame", .enum ["global"]), ("x", .type .number), ("y", .type .number),
          ("z", .type .number), ("id", .type .string), ("type", .type .string),
          ("navigationType", .type .string)],
        .required ["x", "y", "z", "frame"],
        .noAdditionalProperties waypointKeys])

/-- The fields of a predefined action. -/
def action (type : String) (fields : List (String × JsonSchema)) : JsonSchema :=
  .ifThen (properties [("type", const type)]) (properties fields)

def onResume : JsonSchema :=
  action "onResume"
    [("action", .allOf [.type .string, .enum ["storeState", "resume"]])]

def onFailure : JsonSchema :=
  action "onFailure"
    [("reason", .allOf
        [.type .string,
          .enum ["actionDoesNotExist", "noValidMission", "trajectoryFailure", "modeFailure",
            "other"]]),
      ("recursionLevel", .type .integer), ("currentIndex", .type .integer)]

def takeoff : JsonSchema :=
  action "takeoff" [("altitude", .type .number)]

def rtl : JsonSchema :=
  action "rtl" []

def land : JsonSchema :=
  action "land" []

def changeSettings : JsonSchema :=
  action "changeSettings"
    [("horizontalVelocity", nonNegative), ("verticalVelocity", nonNegative),
      ("maxHeadingRate", nonNegative), ("resetAll", .type .boolean)]

def hold : JsonSchema :=
  action "hold" [("duration", nonNegative)]

def item : JsonSchema :=
  .allOf
    [.type .object,
      properties
        [("id", .type .string),
          ("type", .allOf [.type .string, .not (.pattern "internal:")])],
      .allOf [waypoint, onResume, onFailure, takeoff, rtl, land, changeSettings, hold]]

def mission : JsonSchema :=
  .allOf
    [.type .object,
      properties
        [("defaults", defaults), ("items", .allOf [.type .array, .items item])],
      .required ["items"],
      .noAdditionalProperties ["defaults", "items"]]

def document : JsonSchema :=
  .allOf
    [.type .object,
      properties [("version", version), ("mission", mission)],
      .noAdditionalProperties ["version", "mission"]]

end MissionSchema

end Px4Ros2
