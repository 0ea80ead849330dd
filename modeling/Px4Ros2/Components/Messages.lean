import Mathlib.Data.UInt
import Mathlib.Data.Rat.Defs

/-! Results and messages exchanged with the flight controller, with the fields the library reads.
Constants of the generated message package carry their documented values. -/

set_option autoImplicit false

namespace Px4Ros2

/-- `ModeBase::ModeID`, the numbering of `nav_state`. -/
abbrev ModeID := UInt8

def kModeIDInvalid : ModeID := 0xff
def kModeIDLoiter : ModeID := 4
def kModeIDRtl : ModeID := 5
def kModeIDDescend : ModeID := 12
def kModeIDTakeoff : ModeID := 17
def kModeIDLand : ModeID := 18

/-- `Result`. A mode completion casts the byte of its message, so unnamed codes occur as well. -/
structure Result where
  code : UInt8
deriving DecidableEq, Repr

namespace Result

def success : Result := ⟨0⟩
def rejected : Result := ⟨1⟩
def timeout : Result := ⟨3⟩
def deactivated : Result := ⟨4⟩

end Result

namespace VehicleStatus

def armingStateArmed : UInt8 := 2
def failsafeDeferStateDisabled : UInt8 := 0
def failsafeDeferStateWouldFailsafe : UInt8 := 2

end VehicleStatus

structure VehicleStatus where
  armingState : UInt8
  navState : ModeID
  executorInCharge : UInt8
  failsafe : Bool
  failsafeDeferState : UInt8
  preFlightChecksPass : Bool
deriving DecidableEq, Repr

structure ModeCompleted where
  navState : ModeID
  result : UInt8
deriving DecidableEq, Repr

/-- A parameter of a command; `none` is NAN. -/
abbrev Param := Option Rat

structure VehicleCommand where
  command : UInt32
  params : List Param
  sourceComponent : UInt16
deriving DecidableEq, Repr

namespace VehicleCommand

def navTakeoff : UInt32 := 22
def componentArmDisarm : UInt32 := 400
def setNavState : UInt32 := 100001
def componentModeExecutorStart : UInt16 := 1000

end VehicleCommand

structure VehicleCommandAck where
  command : UInt32
  result : UInt8
  targetComponent : UInt16
deriving DecidableEq, Repr

def VehicleCommandAck.resultAccepted : UInt8 := 0

end Px4Ros2
