import Px4Ros2.Lib.History
import Px4Ros2.Components.CallbackAccounting

/-! Executors that run states one after the other, as those of the examples do. Activation runs the
first state; the callback of what a state requests runs the next one with the result. -/

set_option autoImplicit false

namespace Px4Ros2

open Lib

/-- `runState`, without the check of the previous result. -/
structure RunState (State : Type) where
  /-- What `onActivate` runs. -/
  first : State
  request : State → Option ExecutorProcess.Request
  /-- What the callback of the request runs. -/
  next : State → Option State
  validMode : ∀ state modeId forced,
    request state = some (.scheduleMode modeId forced) → modeId ≠ kModeIDInvalid

namespace RunState

variable {State : Type}

inductive Event (State : Type) where
  | activated
  | requested (state : State)
  | completed (result : Result)
deriving DecidableEq, Repr

/-! ### The states, run one after the other -/

/-- Where such an executor is: no state is run, a state is run next, or its request goes on. -/
inductive Phase (State : Type) where
  | resting
  | due (state : State)
  | running (state : State)
deriving DecidableEq, Repr

variable (program : RunState State)

/-- Running a state: those that request nothing end the run. -/
def Phase.run (state : State) : Phase State :=
  if (program.request state).isSome then .due state else .resting

/-- After a request has completed. -/
def Phase.goOn (state : State) (result : Result) : Phase State :=
  if result = .success then
    match program.next state with
    | some next => .run program next
    | none => .resting
  else .resting

inductive Phase.Step : Phase State → Event State → Phase State → Prop where
  | activated : Step .resting .activated (.run program program.first)
  | requested (state : State) : Step (.due state) (.requested state) (.running state)
  | completed (state : State) (result : Result) :
      Step (.running state) (.completed result) (.goOn program state result)

/-- One state after the other, never two at once. -/
inductive Follows : List (Event State) → Phase State → Prop where
  | start : Follows [] .resting
  | step {events : List (Event State)} {before after : Phase State} {event : Event State} :
      Follows events before → Phase.Step program before event after →
      Follows (events ++ [event]) after

/-! ### The executor process under such user code -/

structure History (State : Type) where
  /-- The state that a callback has captured. -/
  captured : CompletedCallback → Option State := fun _ => none
  /-- The state that the user code on top of the agenda runs. -/
  state : Option State := none
  events : List (Event State) := []

/-- What the user code on top of the agenda requests. -/
def History.due (history : History State) : Option ExecutorProcess.Request :=
  history.state.bind program.request

def History.task (history : History State) (process : ExecutorProcess) :
    ExecutorProcess.Task → ExecutorProcess.Input → History State
  | .executor (.hook .onActivate), _ =>
      { history with state := some program.first, events := history.events ++ [.activated] }
  | .executor (.hook (.completed callback result)), _ =>
      { history with
        state := if result = .success then history.captured callback else none
        events := history.events ++ [.completed result] }
  | .user, .request request =>
      match history.state with
      | some state =>
          { captured := fun callback =>
              if callback = process.passed request then program.next state
              else history.captured callback
            state := none
            events := history.events ++ [.requested state] }
      | none => history
  | .user, .ret => { history with state := none }
  | _, _ => history

def recorder : Recorder ExecutorProcess ExecutorProcess.Task ExecutorProcess.Input
    (History State) where
  event history _ _ := history
  task := History.task program

/-- The user code requests what `runState` does, and nothing else. -/
def obeys (config : Config (Recorded ExecutorProcess (History State)) ExecutorProcess.Task)
    (input : ExecutorProcess.Input) : Bool :=
  match config.agenda, input with
  | .user :: _, .request request => config.state.history.due program == some request
  | .user :: _, .ret => (config.state.history.due program).isNone
  | _, _ => true

end RunState

/-! ### The executors of the examples -/

namespace ModeWithExecutor

inductive State where
  | reset
  | takingOff
  | myMode
  | rtl
  | waitUntilDisarmed
deriving DecidableEq, Repr

/-- `ModeExecutorTest::runState` of `mode_with_executor`, over a mode that is registered. -/
def runState (ownedMode : { id : ModeID // id ≠ kModeIDInvalid }) : RunState State where
  first := .takingOff
  request
    | .reset => none
    | .takingOff => some (.takeoff none none)
    | .myMode => some (.scheduleMode ownedMode false)
    | .rtl => some .rtl
    | .waitUntilDisarmed => some .waitUntilDisarmed
  next
    | .reset => none
    | .takingOff => some .myMode
    | .myMode => some .rtl
    | .rtl => some .waitUntilDisarmed
    | .waitUntilDisarmed => none
  validMode := by
    rintro (_ | _ | _ | _ | _) modeId forced requested <;> cases requested
    exact ownedMode.2

end ModeWithExecutor

namespace ExecutorWithMultipleModes

inductive State where
  | reset
  | takingOff
  | myFirstMode
  | mySecondMode
  | myThirdMode
  | rtl
  | waitUntilDisarmed
deriving DecidableEq, Repr

/-- `ModeExecutorTest::runState` of `executor_with_multiple_modes`, over modes that are registered. -/
def runState (ownedMode secondMode thirdMode : { id : ModeID // id ≠ kModeIDInvalid }) :
    RunState State where
  first := .takingOff
  request
    | .reset => none
    | .takingOff => some (.takeoff none none)
    | .myFirstMode => some (.scheduleMode ownedMode false)
    | .mySecondMode => some (.scheduleMode secondMode false)
    | .myThirdMode => some (.scheduleMode thirdMode false)
    | .rtl => some .rtl
    | .waitUntilDisarmed => some .waitUntilDisarmed
  next
    | .reset => none
    | .takingOff => some .myFirstMode
    | .myFirstMode => some .mySecondMode
    | .mySecondMode => some .myThirdMode
    | .myThirdMode => some .rtl
    | .rtl => some .waitUntilDisarmed
    | .waitUntilDisarmed => none
  validMode := by
    rintro (_ | _ | _ | _ | _ | _ | _) modeId forced requested <;> cases requested
    · exact ownedMode.2
    · exact secondMode.2
    · exact thirdMode.2

end ExecutorWithMultipleModes

end Px4Ros2
