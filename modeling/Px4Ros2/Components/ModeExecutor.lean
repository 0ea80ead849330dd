import Px4Ros2.Components.Mode

/-! `ModeExecutorBase`: scheduling of modes, waiting for vehicle states, and the vehicle status
update. Every place where the class calls user code is a hook; what a function still has to do
after the hook is a task of its own. The type `Callback` stands for the function objects that
callers pass in. -/

set_option autoImplicit false

namespace Px4Ros2

/-- `ModeExecutorBase::ScheduledMode`. -/
structure ScheduledMode (Callback : Type) where
  modeId : ModeID := kModeIDInvalid
  onCompletedCallback : Option Callback := none
  /-- `assert(!active())` of `activate` has failed; a release build carries on. -/
  assertionFailed : Bool := false
deriving DecidableEq, Repr

namespace ScheduledMode

variable {Callback : Type}

def active (scheduled : ScheduledMode Callback) : Bool :=
  scheduled.modeId != kModeIDInvalid

def activate (scheduled : ScheduledMode Callback) (modeId : ModeID) (onCompleted : Callback) :
    ScheduledMode Callback :=
  { modeId := modeId
    onCompletedCallback := some onCompleted
    assertionFailed := scheduled.assertionFailed || scheduled.active }

/-- Moving the callback out and `reset()`. -/
def release (scheduled : ScheduledMode Callback) : ScheduledMode Callback :=
  { scheduled with modeId := kModeIDInvalid, onCompletedCallback := none }

end ScheduledMode

/-- The conditions that `arm`, `disarm` and the wait functions install. -/
inductive RunCheck where
  | armed
  | disarmed
  | preFlightChecksPass
deriving DecidableEq, Repr

/-- `ModeExecutorBase::WaitForVehicleStatusCondition`. -/
structure WaitForVehicleStatusCondition (Callback : Type) where
  onCompletedCallback : Option Callback := none
  runCheckCallback : Option RunCheck := none
  /-- `assert(!_on_completed_callback)` of `activate` has failed. -/
  assertionFailed : Bool := false
deriving DecidableEq, Repr

namespace WaitForVehicleStatusCondition

variable {Callback : Type}

def active (wait : WaitForVehicleStatusCondition Callback) : Bool :=
  wait.onCompletedCallback.isSome

def activate (wait : WaitForVehicleStatusCondition Callback) (runCheck : RunCheck)
    (onCompleted : Callback) : WaitForVehicleStatusCondition Callback :=
  { onCompletedCallback := some onCompleted
    runCheckCallback := some runCheck
    assertionFailed := wait.assertionFailed || wait.active }

def release (wait : WaitForVehicleStatusCondition Callback) :
    WaitForVehicleStatusCondition Callback :=
  { wait with onCompletedCallback := none, runCheckCallback := none }

end WaitForVehicleStatusCondition

/-- `ConfigOverrides`, the fields the executor sets. -/
structure ConfigOverrides where
  disableAutoSetHome : Bool := false
  deferFailsafes : Bool := false
  deferFailsafesTimeoutS : Int16 := 0
deriving DecidableEq, Repr

inductive Activation where
  | activateOnlyWhenArmed
  | activateAlways
  | activateImmediately
deriving DecidableEq, Repr

inductive DeactivateReason where
  | failsafeActivated
  | other
deriving DecidableEq, Repr

structure ModeExecutorBase (Callback : Type) where
  /-- `_registration->registered()` and the executor id it holds. -/
  registered : Bool := true
  id : UInt8
  activation : Activation := .activateOnlyWhenArmed
  ownedMode : ModeBase
  currentScheduledMode : ScheduledMode Callback := {}
  currentWaitVehicleStatus : WaitForVehicleStatusCondition Callback := {}
  isInCharge : Bool := false
  isArmed : Bool := false
  wasNeverActivated : Bool := true
  prevNavState : ModeID := kModeIDInvalid
  prevFailsafeDeferState : UInt8 := VehicleStatus.failsafeDeferStateDisabled
  configOverrides : ConfigOverrides := {}
deriving DecidableEq, Repr

namespace ModeExecutorBase

/-- Calls that leave the class: completion callbacks and virtual methods. -/
inductive Hook (Callback : Type) where
  | completed (onCompleted : Callback) (result : Result)
  | onActivate
  | onDeactivate (reason : DeactivateReason)
  | onFailsafeDeferred
  | mode (hook : ModeBase.Hook)
deriving DecidableEq, Repr

inductive Task (Callback : Type) where
  | hook (hook : Hook Callback)
  | mode (task : ModeBase.Task)
  | callOnActivate
  | callOnDeactivate (reason : DeactivateReason)
  | cancelScheduledMode
  | cancelWaitVehicleStatus
  /-- `callOnDeactivate` after both slots are cancelled. -/
  | leaveCharge (reason : DeactivateReason)
  /-- `scheduleMode` after the previous mode is cancelled: send the command. -/
  | sendScheduleMode (modeId : ModeID) (cmd : VehicleCommand) (onCompleted : Callback)
  /-- `arm` and `disarm` up to their command. -/
  | sendArmDisarm (runCheck : RunCheck) (cmd : VehicleCommand) (onCompleted : Callback)
  /-- `vehicleStatusUpdated` after the change of charge. -/
  | reactivateOnModeSwitch (msg : VehicleStatus) (changedToArmed gotActivated : Bool)
  | notifyFailsafeDeferred (msg : VehicleStatus) (changedToArmed : Bool)
  | updateOwnedMode (msg : VehicleStatus) (changedToArmed : Bool)
  | finishStatusUpdate (msg : VehicleStatus)
deriving DecidableEq, Repr

variable {Callback : Type}

/-- `ScheduledMode::cancel`. -/
def cancelScheduledMode (executor : ModeExecutorBase Callback) :
    ModeExecutorBase Callback × List (Task Callback) :=
  if executor.currentScheduledMode.active then
    ({ executor with currentScheduledMode := executor.currentScheduledMode.release },
      match executor.currentScheduledMode.onCompletedCallback with
      | some onCompleted => [.hook (.completed onCompleted .deactivated)]
      | none => [])
  else (executor, [])

/-- The `ModeCompleted` subscription of `ScheduledMode`. -/
def modeCompletedReceived (executor : ModeExecutorBase Callback) (msg : ModeCompleted) :
    ModeExecutorBase Callback × List (Task Callback) :=
  if executor.currentScheduledMode.active &&
      msg.navState == executor.currentScheduledMode.modeId then
    ({ executor with currentScheduledMode := executor.currentScheduledMode.release },
      match executor.currentScheduledMode.onCompletedCallback with
      | some onCompleted => [.hook (.completed onCompleted ⟨msg.result⟩)]
      | none => [])
  else (executor, [])

/-- `WaitForVehicleStatusCondition::cancel`. -/
def cancelWaitVehicleStatus (executor : ModeExecutorBase Callback) :
    ModeExecutorBase Callback × List (Task Callback) :=
  match executor.currentWaitVehicleStatus.onCompletedCallback with
  | some onCompleted =>
      ({ executor with currentWaitVehicleStatus := executor.currentWaitVehicleStatus.release },
        [.hook (.completed onCompleted .deactivated)])
  | none => (executor, [])

def runCheck (executor : ModeExecutorBase Callback) (msg : VehicleStatus) : RunCheck → Bool
  | .armed => executor.isArmed
  | .disarmed => !executor.isArmed
  | .preFlightChecksPass => msg.preFlightChecksPass

/-- `WaitForVehicleStatusCondition::update`. -/
def updateWaitVehicleStatus (executor : ModeExecutorBase Callback) (msg : VehicleStatus) :
    ModeExecutorBase Callback × List (Task Callback) :=
  match executor.currentWaitVehicleStatus.onCompletedCallback,
      executor.currentWaitVehicleStatus.runCheckCallback with
  | some onCompleted, some check =>
      if executor.runCheck msg check then
        ({ executor with currentWaitVehicleStatus := executor.currentWaitVehicleStatus.release },
          [.hook (.completed onCompleted .success)])
      else (executor, [])
  | _, _ => (executor, [])

/-- The source component that `sendCommandSync` fills in. -/
def sourceComponent (executor : ModeExecutorBase Callback) : UInt16 :=
  VehicleCommand.componentModeExecutorStart + executor.id.toUInt16

def scheduleModeCommand (executor : ModeExecutorBase Callback) (modeId : ModeID)
    (cmd : VehicleCommand) (onCompleted : Callback) (forced : Bool) :
    ModeExecutorBase Callback × List (Task Callback) :=
  if !executor.isArmed && !forced then (executor, [.hook (.completed onCompleted .rejected)])
  else
    -- an active mode is cancelled first, its callback runs before the command is sent
    (executor, [.cancelScheduledMode, .sendScheduleMode modeId cmd onCompleted])

def scheduleMode (executor : ModeExecutorBase Callback) (modeId : ModeID)
    (onCompleted : Callback) (forced : Bool) :
    ModeExecutorBase Callback × List (Task Callback) :=
  executor.scheduleModeCommand modeId
    ⟨VehicleCommand.setNavState, [some modeId.toNat], executor.sourceComponent⟩ onCompleted forced

def takeoff (executor : ModeExecutorBase Callback) (onCompleted : Callback)
    (altitude heading : Param) : ModeExecutorBase Callback × List (Task Callback) :=
  executor.scheduleModeCommand kModeIDTakeoff
    ⟨VehicleCommand.navTakeoff, [none, none, none, heading, none, none, altitude],
      executor.sourceComponent⟩ onCompleted false

def land (executor : ModeExecutorBase Callback) (onCompleted : Callback) :
    ModeExecutorBase Callback × List (Task Callback) :=
  executor.scheduleMode kModeIDLand onCompleted false

def rtl (executor : ModeExecutorBase Callback) (onCompleted : Callback) :
    ModeExecutorBase Callback × List (Task Callback) :=
  executor.scheduleMode kModeIDRtl onCompleted false

def arm (executor : ModeExecutorBase Callback) (onCompleted : Callback)
    (runPreflightChecks : Bool) : ModeExecutorBase Callback × List (Task Callback) :=
  if executor.isArmed then (executor, [.hook (.completed onCompleted .success)])
  else
    (executor, [.sendArmDisarm .armed
      ⟨VehicleCommand.componentArmDisarm,
        [some 1, if runPreflightChecks then none else some 21196],
        executor.sourceComponent⟩ onCompleted])

def disarm (executor : ModeExecutorBase Callback) (onCompleted : Callback) (forced : Bool) :
    ModeExecutorBase Callback × List (Task Callback) :=
  if !executor.isArmed then (executor, [.hook (.completed onCompleted .success)])
  else
    (executor, [.sendArmDisarm .disarmed
      ⟨VehicleCommand.componentArmDisarm,
        [some 0, if forced then some 21196 else none], executor.sourceComponent⟩ onCompleted])

def waitReadyToArm (executor : ModeExecutorBase Callback) (onCompleted : Callback) :
    ModeExecutorBase Callback × List (Task Callback) :=
  if executor.isArmed then (executor, [.hook (.completed onCompleted .success)])
  else
    ({ executor with
        currentWaitVehicleStatus :=
          executor.currentWaitVehicleStatus.activate .preFlightChecksPass onCompleted }, [])

def waitUntilDisarmed (executor : ModeExecutorBase Callback) (onCompleted : Callback) :
    ModeExecutorBase Callback × List (Task Callback) :=
  if !executor.isArmed then (executor, [.hook (.completed onCompleted .success)])
  else
    ({ executor with
        currentWaitVehicleStatus :=
          executor.currentWaitVehicleStatus.activate .disarmed onCompleted }, [])

def wantsToActivateImmediately (executor : ModeExecutorBase Callback) : Bool :=
  executor.activation == .activateImmediately && executor.wasNeverActivated

def vehicleStatusUpdated (executor : ModeExecutorBase Callback) (msg : VehicleStatus) :
    ModeExecutorBase Callback × List (Task Callback) :=
  let wasArmed := executor.isArmed
  let executor := { executor with isArmed := msg.armingState == VehicleStatus.armingStateArmed }
  let isInCharge := executor.id == msg.executorInCharge &&
    (executor.isArmed || executor.wantsToActivateImmediately ||
      executor.activation == .activateAlways)
  let changedToArmed := !wasArmed && executor.isArmed
  if executor.isInCharge != isInCharge then
    if isInCharge then
      (executor, [.callOnActivate, .reactivateOnModeSwitch msg changedToArmed true])
    else
      (executor, [.callOnDeactivate (if msg.failsafe then .failsafeActivated else .other),
        .reactivateOnModeSwitch msg changedToArmed false])
  else (executor, [.reactivateOnModeSwitch msg changedToArmed false])

/-- The callback registered on the shared vehicle status subscription. -/
def vehicleStatusReceived (executor : ModeExecutorBase Callback) (msg : VehicleStatus) :
    ModeExecutorBase Callback × List (Task Callback) :=
  if executor.registered then executor.vehicleStatusUpdated msg else (executor, [])

/-- The user switched from the currently scheduled mode to the owned mode. -/
def switchedToOwnedMode (executor : ModeExecutorBase Callback) (msg : VehicleStatus) : Bool :=
  executor.isInCharge && executor.currentScheduledMode.active &&
    executor.currentScheduledMode.modeId == executor.prevNavState &&
    msg.navState == executor.ownedMode.id && executor.prevNavState != msg.navState &&
    executor.isArmed

def doNotActivateMode (executor : ModeExecutorBase Callback) (changedToArmed : Bool) : Bool :=
  (executor.currentScheduledMode.active &&
      executor.ownedMode.id != executor.currentScheduledMode.modeId) ||
    (changedToArmed && executor.currentWaitVehicleStatus.active)

/-- A task of the owned mode. -/
def resumeMode (executor : ModeExecutorBase Callback) :
    ModeBase.Task → ModeExecutorBase Callback × List (Task Callback)
  | .hook hook => (executor, [.hook (.mode hook)])
  | task =>
      let resumed := executor.ownedMode.resume task
      ({ executor with ownedMode := resumed.1 }, resumed.2.map .mode)

/-- Runs the task on top of the agenda; `commandResult` answers a command it sends. A hook does
nothing by itself here: what it runs is up to whoever embeds the executor. -/
def resume (executor : ModeExecutorBase Callback) (commandResult : Result) :
    Task Callback → ModeExecutorBase Callback × List (Task Callback)
  | .hook _ => (executor, [])
  | .mode task => executor.resumeMode task
  | .callOnActivate => ({ executor with isInCharge := true }, [.hook .onActivate])
  | .callOnDeactivate reason =>
      (executor, [.cancelScheduledMode, .cancelWaitVehicleStatus, .leaveCharge reason])
  | .cancelScheduledMode => executor.cancelScheduledMode
  | .cancelWaitVehicleStatus => executor.cancelWaitVehicleStatus
  | .leaveCharge reason =>
      ({ executor with isInCharge := false, wasNeverActivated := false },
        [.hook (.onDeactivate reason)])
  | .sendScheduleMode modeId _ onCompleted =>
      if commandResult != .success then
        (executor, [.hook (.completed onCompleted commandResult)])
      else
        ({ executor with
            currentScheduledMode := executor.currentScheduledMode.activate modeId onCompleted }, [])
  | .sendArmDisarm check _ onCompleted =>
      if commandResult != .success then
        (executor, [.hook (.completed onCompleted commandResult)])
      else
        ({ executor with
            currentWaitVehicleStatus :=
              executor.currentWaitVehicleStatus.activate check onCompleted }, [])
  | .reactivateOnModeSwitch msg changedToArmed gotActivated =>
      if !gotActivated && executor.switchedToOwnedMode msg then
        (executor, [.callOnDeactivate .other, .callOnActivate,
          .notifyFailsafeDeferred msg changedToArmed])
      else (executor, [.notifyFailsafeDeferred msg changedToArmed])
  | .notifyFailsafeDeferred msg changedToArmed =>
      if executor.isInCharge && executor.prevFailsafeDeferState != msg.failsafeDeferState &&
          msg.failsafeDeferState == VehicleStatus.failsafeDeferStateWouldFailsafe then
        (executor, [.hook .onFailsafeDeferred, .updateOwnedMode msg changedToArmed])
      else (executor, [.updateOwnedMode msg changedToArmed])
  | .updateOwnedMode msg changedToArmed =>
      let updated := executor.ownedMode.vehicleStatusUpdated msg
        (executor.doNotActivateMode changedToArmed && executor.isInCharge)
      ({ executor with
          prevFailsafeDeferState := msg.failsafeDeferState
          ownedMode := updated.1 },
        updated.2.map .mode ++ [.finishStatusUpdate msg])
  | .finishStatusUpdate msg =>
      ({ executor with prevNavState := msg.navState }).updateWaitVehicleStatus msg

/-- `deferFailsafesSync` up to its wait, with whether it waits for the vehicle status. -/
def deferFailsafes (executor : ModeExecutorBase Callback) (enabled : Bool) (timeoutS : Int32) :
    ModeExecutorBase Callback × Bool :=
  ({ executor with
      configOverrides :=
        { executor.configOverrides with
          deferFailsafes := enabled, deferFailsafesTimeoutS := timeoutS.toInt16 } },
    enabled && executor.isInCharge && executor.registered &&
      executor.prevFailsafeDeferState == VehicleStatus.failsafeDeferStateDisabled)

def controlAutoSetHome (executor : ModeExecutorBase Callback) (enabled : Bool) :
    ModeExecutorBase Callback :=
  { executor with
    configOverrides := { executor.configOverrides with disableAutoSetHome := !enabled } }

end ModeExecutorBase

end Px4Ros2
