import Px4Ros2.Lib.Restart
import Px4Ros2.Mission.SegmentProperties

/-! What becomes of the items in a pass through the mission: which one was interrupted, and what the
starts of action items see of it. A pass goes on in a new process when the file says so. -/

set_option autoImplicit false

namespace Px4Ros2.MissionExecutor

/-- A `run` of an action item: whether it restarts the item that was interrupted, and what it sees. -/
structure ItemStart where
  index : Int
  resuming : Option Bool
  restarts : Bool
deriving DecidableEq, Repr

structure ItemHistory where
  /-- The action item that was started last, until it is completed. -/
  running : Option Int := none
  /-- The item at which the mission was interrupted, until an item is started. -/
  interrupted : Option Int := none
  /-- The index at which the mission was left: when it was deactivated, or when it was set. -/
  leftAt : Option Int := none
  /-- An item was started since the last activation. -/
  launched : Bool := false
  /-- What was interrupted according to the file, and whether the mission went on since then. -/
  filed : Option Int := none
  outdated : Bool := false
  starts : List ItemStart := []

variable (config : Configuration) (executor : MissionExecutor)

/-- The current item is an action. -/
def atAction : Bool :=
  match executor.state.currentIndex.bind executor.mission.item? with
  | some (.action _) => true
  | _ => false

/-- The arguments of the action that is about to run. -/
def runArguments (after : MissionExecutor × List Task) : Option ActionArguments :=
  match after.2 with
  | .run _ _ arguments _ :: _ => some arguments
  | _ => none

/-- The file is about the current mission. -/
def isFiled : Bool := (executor.tryLoadPersistentState config).isSome

namespace ItemHistory

def start (resuming : Bool) (history : ItemHistory) : ItemHistory :=
  let arguments := runArguments (executor.runCurrentMissionItem config resuming)
  let current := executor.state.currentIndex
  { history with
    running := arguments.bind fun _ => current
    interrupted := none
    launched := true
    outdated := history.outdated || executor.isFiled config && history.filed != current
    starts := history.starts ++ (arguments.bind fun arguments => current.map fun index =>
      ⟨index, arguments.resuming, history.interrupted == some index⟩).toList }

def complete (history : ItemHistory) : ItemHistory :=
  { history with running := none, outdated := history.outdated || executor.isFiled config }

/-- A deactivation, which keeps the mission unless it is done. -/
def interrupt (history : ItemHistory) : ItemHistory :=
  let current := executor.state.currentIndex
  { history with
    running := none
    launched := false
    leftAt := if executor.missionDone then none else current
    interrupted :=
      if executor.missionDone then none
      else if executor.atAction then history.running.or history.interrupted
      else current }

def save (history : ItemHistory) : ItemHistory :=
  if config.persistence then
    { history with
      filed := if executor.atAction then history.interrupted else executor.state.currentIndex
      outdated := false }
  else history

/-- A mission is set; with the index of the file when that fits. -/
def load (after : MissionExecutor) (history : ItemHistory) : ItemHistory :=
  let current := after.state.currentIndex
  { history with
    leftAt := current
    interrupted :=
      if after.atAction then if history.outdated then none else history.filed
      else current }

/-- What a new process still knows. -/
def restarted (history : ItemHistory) : ItemHistory :=
  { filed := history.filed, outdated := history.outdated, starts := history.starts }

end ItemHistory

def itemRecorder : Lib.Recorder MissionExecutor Task Input ItemHistory where
  event history _ _ := history
  task history executor task input :=
    match task, input with
    | .runCurrentMissionItem resuming, .proceed => history.start config executor resuming
    | .call (.nextItem handler _), .proceed =>
        if executor.isValid handler then history.complete config executor else history
    | .modeExecutor (.hook (.onDeactivate _)), .proceed => history.interrupt executor
    | .savePersistentState, .proceed => history.save config executor
    | .user _, .op (.setMission mission canRun) =>
        if executor.isActive then history
        else history.load (executor.setMission config canRun mission)
    | .user _, .op .resetMission =>
        if executor.isActive then history
        else { history with leftAt := none, interrupted := none }
    | _, _ => history

/-- The process ends and the next one is constructed. -/
structure Startup where
  registered : Bool
  id : UInt8
  ownedMode : ModeBase

def restartProcess (startup : Startup) : MissionExecutor :=
  (initial startup.registered startup.id startup.ownedMode executor.persistenceFile).state

/-- An action item whose arguments do not say themselves that it is resumed. -/
def unflagged : MissionItem → Bool
  | .action item => item.arguments.resuming != some true
  | .navigation _ => true

/-- The task is about to resume a mission. -/
def resumesNow : Task → Bool
  | .onActivateRun startFromBeginning =>
      !startFromBeginning && !executor.callbacks.onActivated
  | .onActivatedReturned previousHandler startFromBeginning =>
      !startFromBeginning && executor.isValid previousHandler
  | _ => false

/-- A deactivation finds the current action item started and not completed. The index is left alone
until the mission goes on, which it does once. The arguments and the file are right. -/
def KeepsAccount (history : ItemHistory) (reached : Config) (input : Input) : Prop :=
  reached.state.InRange ∧
    match reached.agenda, input with
    | .modeExecutor (.hook (.onDeactivate _)) :: _, .proceed =>
        reached.state.missionDone = false → reached.state.atAction = true →
          history.running.or history.interrupted = reached.state.state.currentIndex
    | .savePersistentState :: _, .proceed =>
        config.persistence = true → reached.state.atAction = true →
          reached.state.state.currentIndex = history.leftAt
    | .runCurrentMissionItem true :: _, .proceed =>
        reached.state.atAction = true →
          reached.state.state.currentIndex = history.leftAt ∧ history.launched = false
    | .user _ :: _, .op (.setMission mission canRun) =>
        reached.state.isActive = false → (mission.items.all unflagged) = true ∧
          ((reached.state.setMission config canRun mission).atAction = true →
            history.outdated = false)
    | task :: _, .proceed =>
        reached.state.resumesNow task = true →
          reached.state.state.currentIndex = history.leftAt
    | _, _ => True

end Px4Ros2.MissionExecutor
