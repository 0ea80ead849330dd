import Px4Ros2.Mission.Resuming
import Px4Ros2.Mission.StoredActions

/-! The state that the onResume action stores when the mission is interrupted, and the one that it
is handed when the mission goes on, in the same process or in a later one. -/

set_option autoImplicit false

namespace Px4Ros2

/-- The stored states of onResume, the oldest first. -/
abbrev PersistentState.resumeStates (state : PersistentState) : List Json :=
  state.storedBy "onResume"

namespace MissionExecutor

/-- A `run` of onResume that is asked to resume, with the state stored last before. -/
structure ResumeRun where
  stored : Option Json
  arguments : ActionArguments

structure ResumeHistory where
  /-- What onResume stored at the last deactivation, as far as this process knows. -/
  stored : Option Json := none
  /-- The mission went on since then. -/
  wentOn : Bool := false
  /-- What was stored when the file was written. -/
  filed : Option Json := none
  runs : List ResumeRun := []

variable (config : Configuration) (executor : MissionExecutor)

def asksToResume (name : String) (arguments : ActionArguments) : Bool :=
  name == "onResume" && arguments.at? Json.getString "action" == some "resume"

/-- A reference to a handler that may still be used. -/
def refersToValid (reference : HandlerRef) : Bool :=
  (executor.resolve reference).any executor.isValid

namespace ResumeHistory

def forget (history : ResumeHistory) : ResumeHistory :=
  { history with stored := none, wentOn := false }

/-- A mission is set, with the state of the file when that fits. -/
def load (after : MissionExecutor) (history : ResumeHistory) : ResumeHistory :=
  { history with
    stored := if after.state.currentIndex.isSome then history.filed else none
    wentOn := false }

end ResumeHistory

def resumeRecorder : Lib.Recorder MissionExecutor Task Input ResumeHistory where
  event history _ _ := history
  task history executor task input :=
    match task, input with
    | .modeExecutor (.hook (.onDeactivate _)), .proceed => history.forget
    | .savePersistentState, .proceed =>
        if config.persistence then { history with filed := history.stored } else history
    | .onActivateRun _, .proceed =>
        if executor.callbacks.onActivated then history else { history with wentOn := true }
    | .onActivatedReturned previousHandler _, .proceed =>
        if executor.isValid previousHandler then { history with wentOn := true } else history
    | .run name _ arguments _, .proceed =>
        if asksToResume name arguments then
          { history with runs := history.runs ++ [⟨history.stored, arguments⟩] }
        else history
    | .user _, .op (.handler reference (.storeState name arguments)) =>
        if name = "onResume" && executor.refersToValid reference then
          { history with stored := some arguments.json }
        else history
    | .user _, .op (.setMission mission canRun) =>
        if executor.isActive then history
        else history.load (executor.setMission config canRun mission)
    | .user _, .op .resetMission => if executor.isActive then history else history.forget
    | _, _ => history

/-- Processes one after the other. -/
abbrev processes : Lib.Machine Config Empty (Lib.ProcessInput Input Startup) :=
  (machine config).restartable fun startup executor => executor.restartProcess startup

/-- The ChangeSettings action is about to store. -/
def storesSettings (name : String) (handler : HandlerId) (arguments : ActionArguments) : Bool :=
  match config.findAction name with
  | some .changeSettings => executor.isValid handler && resetsAll arguments == some false
  | _ => false

/-- Control is in the `run` of onResume that a deactivation calls. -/
def inStoreState : List Task → Bool
  | .user true :: .savePersistentState :: _ => true
  | _ => false

def currentItemAsks : Bool :=
  match executor.state.currentIndex.bind executor.mission.item? with
  | some (.action item) => asksToResume item.name item.arguments
  | _ => false

/-- onResume stores at most once in a deactivation, nobody else stores in its name or asks it to
resume, and its keeper outlives the activation. -/
def StoresOnce (history : ResumeHistory) (reached : Config) (input : Input) : Prop :=
  reached.state.InRange ∧
    match reached.agenda, input with
    | .runCurrentMissionItem _ :: _, .proceed => reached.state.currentItemAsks = false
    | .user _ :: _, .op (.handler _ (.runAction name arguments _)) =>
        asksToResume name arguments = false
    | .user _ :: _, .op (.handler reference (.storeState name _)) =>
        name = "onResume" → reached.state.refersToValid reference = true →
          inStoreState reached.agenda = true ∧ history.stored = none
    | _, _ => True

/-- The mission went on before it is interrupted again, and the number of a stored state is neither
given to another one nor released. -/
def KeepsResumeState (history : ResumeHistory) (reached : Config) (input : Input) : Prop :=
  match reached.agenda, input with
  | .modeExecutor (.hook (.onDeactivate _)) :: _, .proceed =>
      reached.state.missionDone = false → history.stored = none ∨ history.wentOn = true
  | .run name handler arguments _ :: _, .proceed =>
      reached.state.storesSettings config name handler arguments = true →
        reached.state.holds "onResume" reached.state.nextContinuousActionId = false
  | .user _ :: _, .op (.handler reference (.storeState _ _)) =>
      reached.state.refersToValid reference = true →
        reached.state.holds "onResume" reached.state.nextContinuousActionId = false
  | .releaseKeeper id :: _, .proceed | .user _ :: _, .op (.releaseKeeper id) =>
      reached.state.isActive = true → reached.state.holds "onResume" id = false
  | _, _ => True

instance (history : ItemHistory) (reached : Config) (input : Input) :
    Decidable (KeepsAccount config history reached input) := by
  unfold KeepsAccount
  refine @instDecidableAnd _ _ inferInstance ?_
  split <;> infer_instance

instance (history : ResumeHistory) (reached : Config) (input : Input) :
    Decidable (StoresOnce history reached input) := by
  unfold StoresOnce
  refine @instDecidableAnd _ _ inferInstance ?_
  split <;> infer_instance

instance (history : ResumeHistory) (reached : Config) (input : Input) :
    Decidable (KeepsResumeState config history reached input) := by
  unfold KeepsResumeState
  split <;> infer_instance

end MissionExecutor

end Px4Ros2
