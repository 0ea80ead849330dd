import Px4Ros2.Lib.Machine
import Px4Ros2.Components.CallbackConservation

/-! A mode executor in its process: the middleware hands in messages at quiescent points, and
user code that a hook enters may issue any request before it returns. -/

set_option autoImplicit false

namespace Px4Ros2

/-- The callbacks passed in, numbered by request. -/
inductive CompletedCallback where
  | scheduled (id : Nat)
  | waiting (id : Nat)
deriving DecidableEq, Repr

def CompletedCallback.scheduledId? : CompletedCallback → Option Nat
  | .scheduled id => some id
  | .waiting _ => none

structure ExecutorProcess where
  executor : ModeExecutorBase CompletedCallback
  /-- How many callbacks were passed to the scheduling functions so far. -/
  scheduledRequests : Nat := 0
  /-- How many callbacks were passed to `arm`, `disarm` and the wait functions so far. -/
  waitingRequests : Nat := 0
  /-- The callbacks called so far, in order. -/
  invoked : List (CompletedCallback × Result) := []
deriving DecidableEq, Repr

namespace ExecutorProcess

inductive Task where
  | executor (task : ModeExecutorBase.Task CompletedCallback)
  /-- Control is in user code. -/
  | user
deriving DecidableEq, Repr

inductive Request where
  | scheduleMode (modeId : ModeID) (forced : Bool)
  | takeoff (altitude heading : Param)
  | land
  | rtl
  | arm (runPreflightChecks : Bool)
  | disarm (forced : Bool)
  | waitReadyToArm
  | waitUntilDisarmed
deriving DecidableEq, Repr

inductive Input where
  /-- Internal code goes on. -/
  | proceed
  /-- The blocking command on top of the agenda returns. -/
  | command (result : Result)
  | request (request : Request)
  /-- User code returns. -/
  | ret
  | vehicleStatus (msg : VehicleStatus)
  | modeCompleted (msg : ModeCompleted)
  /-- A timer or subscription of the user fires. -/
  | userEvent
deriving DecidableEq, Repr

abbrev Config := Lib.Config ExecutorProcess Task

/-- Replaces the executor by the outcome of one of its functions. -/
def apply (process : ExecutorProcess)
    (after : ModeExecutorBase CompletedCallback ×
      List (ModeExecutorBase.Task CompletedCallback)) : ExecutorProcess × List Task :=
  ({ process with executor := after.1 }, after.2.map .executor)

def request (process : ExecutorProcess) (request : Request) : ExecutorProcess × List Task :=
  let scheduled := CompletedCallback.scheduled process.scheduledRequests
  let waiting := CompletedCallback.waiting process.waitingRequests
  let scheduling := { process with scheduledRequests := process.scheduledRequests + 1 }
  let awaiting := { process with waitingRequests := process.waitingRequests + 1 }
  match request with
  | .scheduleMode modeId forced =>
      scheduling.apply (process.executor.scheduleMode modeId scheduled forced)
  | .takeoff altitude heading =>
      scheduling.apply (process.executor.takeoff scheduled altitude heading)
  | .land => scheduling.apply (process.executor.land scheduled)
  | .rtl => scheduling.apply (process.executor.rtl scheduled)
  | .arm runPreflightChecks => awaiting.apply (process.executor.arm waiting runPreflightChecks)
  | .disarm forced => awaiting.apply (process.executor.disarm waiting forced)
  | .waitReadyToArm => awaiting.apply (process.executor.waitReadyToArm waiting)
  | .waitUntilDisarmed => awaiting.apply (process.executor.waitUntilDisarmed waiting)

/-- Entering user code through a hook. -/
def enter (process : ExecutorProcess) (hook : ModeExecutorBase.Hook CompletedCallback) :
    ExecutorProcess × List Task :=
  match hook with
  | .completed onCompleted result =>
      ({ process with invoked := process.invoked ++ [(onCompleted, result)] }, [.user])
  | _ => (process, [.user])

def exec (process : ExecutorProcess) : Task → Input → Option (ExecutorProcess × List Task)
  | .user, .request request =>
      let after := process.request request
      some (after.1, after.2 ++ [.user])
  | .user, .ret => some (process, [])
  | .executor (.hook hook), .proceed => some (process.enter hook)
  | .executor (.sendScheduleMode modeId cmd onCompleted), .command result =>
      some (process.apply
        (process.executor.resume result (.sendScheduleMode modeId cmd onCompleted)))
  | .executor (.sendArmDisarm check cmd onCompleted), .command result =>
      some (process.apply
        (process.executor.resume result (.sendArmDisarm check cmd onCompleted)))
  | .executor (.sendScheduleMode _ _ _), _ => none
  | .executor (.sendArmDisarm _ _ _), _ => none
  | .executor (.hook _), _ => none
  | .executor task, .proceed => some (process.apply (process.executor.resume .success task))
  | _, _ => none

def idle (process : ExecutorProcess) : Input → Option (ExecutorProcess × List Task)
  | .vehicleStatus msg => some (process.apply (process.executor.vehicleStatusReceived msg))
  | .modeCompleted msg => some (process.apply (process.executor.modeCompletedReceived msg))
  | .userEvent => some (process, [.user])
  | _ => none

def machine : Lib.Machine ExecutorProcess Task Input := ⟨exec, idle⟩

/-- An executor after construction (and registration), before its first message. -/
def initial (registered : Bool) (id : UInt8) (activation : Activation) (ownedMode : ModeBase) :
    Config :=
  ⟨{ executor := { registered, id, activation, ownedMode } }, []⟩

/-- A task of the executor enters user code, or runs on with the answer to its command. -/
theorem exec_executor {process : ExecutorProcess}
    {task : ModeExecutorBase.Task CompletedCallback} {input : Input}
    {after : ExecutorProcess × List Task}
    (executed : exec process (.executor task) input = some after) :
    (∃ hook, task = .hook hook ∧ after = process.enter hook) ∨
    (∃ result, (∀ hook, task ≠ .hook hook) ∧
      (input = .command result ∨ (∀ modeId cmd onCompleted,
        task ≠ .sendScheduleMode modeId cmd onCompleted) ∧
        ∀ check cmd onCompleted, task ≠ .sendArmDisarm check cmd onCompleted) ∧
      after = process.apply (process.executor.resume result task)) := by
  cases task <;> cases input <;> simp [exec] at executed <;> subst executed <;> simp
  all_goals exact ⟨_, rfl⟩

theorem exec_user {process : ExecutorProcess} {input : Input}
    {after : ExecutorProcess × List Task} (executed : exec process .user input = some after) :
    (∃ request, input = .request request ∧
      after = ((process.request request).1, (process.request request).2 ++ [.user])) ∨
    (input = .ret ∧ after = (process, [])) := by
  cases input <;> simp [exec] at executed <;> subst executed <;> simp

/-- The configuration after a function of the executor. -/
def applied (process : ExecutorProcess)
    (after : ModeExecutorBase CompletedCallback ×
      List (ModeExecutorBase.Task CompletedCallback)) (rest : List Task) : Config :=
  ⟨{ process with executor := after.1 }, after.2.map .executor ++ rest⟩

/-- The task needs an answer to its command. -/
def awaitsCommand : ModeExecutorBase.Task CompletedCallback → Bool
  | .sendScheduleMode _ _ _ | .sendArmDisarm _ _ _ => true
  | _ => false

/-- What one step can do. -/
inductive Does : Config → Input → Config → Prop where
  | vehicleStatus (process : ExecutorProcess) (msg : VehicleStatus) :
      Does ⟨process, []⟩ (.vehicleStatus msg)
        (process.applied (process.executor.vehicleStatusReceived msg) [])
  | modeCompleted (process : ExecutorProcess) (msg : ModeCompleted) :
      Does ⟨process, []⟩ (.modeCompleted msg)
        (process.applied (process.executor.modeCompletedReceived msg) [])
  | userEvent (process : ExecutorProcess) : Does ⟨process, []⟩ .userEvent ⟨process, [.user]⟩
  | enter (process : ExecutorProcess) (rest : List Task)
      (hook : ModeExecutorBase.Hook CompletedCallback) :
      Does ⟨process, .executor (.hook hook) :: rest⟩ .proceed
        ⟨(process.enter hook).1, .user :: rest⟩
  | command (process : ExecutorProcess) (rest : List Task)
      (task : ModeExecutorBase.Task CompletedCallback) (result : Result) :
      awaitsCommand task = true →
      Does ⟨process, .executor task :: rest⟩ (.command result)
        (process.applied (process.executor.resume result task) rest)
  | resume (process : ExecutorProcess) (rest : List Task)
      (task : ModeExecutorBase.Task CompletedCallback) :
      awaitsCommand task = false → (∀ hook, task ≠ .hook hook) →
      Does ⟨process, .executor task :: rest⟩ .proceed
        (process.applied (process.executor.resume .success task) rest)
  | request (process : ExecutorProcess) (rest : List Task) (request : Request) :
      Does ⟨process, .user :: rest⟩ (.request request)
        ⟨(process.request request).1, (process.request request).2 ++ .user :: rest⟩
  | ret (process : ExecutorProcess) (rest : List Task) :
      Does ⟨process, .user :: rest⟩ .ret ⟨process, rest⟩

theorem step_does {config next : Config} {input : Input}
    (stepped : machine.step config input = some next) : Does config input next := by
  rcases config with ⟨process, agenda⟩
  rcases Lib.Machine.step_cases stepped with
    ⟨quiescent, after, tasks, taken, rfl⟩ | ⟨task, rest, after, tasks, shape, executed, rfl⟩
  · obtain rfl : agenda = [] := quiescent
    cases input with
    | vehicleStatus msg =>
        cases taken
        simpa [applied] using Does.vehicleStatus process msg
    | modeCompleted msg =>
        cases taken
        simpa [applied] using Does.modeCompleted process msg
    | userEvent =>
        cases taken
        exact .userEvent process
    | proceed | command | request | ret => cases taken
  · obtain rfl : agenda = task :: rest := shape
    cases task with
    | user =>
        cases input with
        | request request =>
            cases executed
            simpa using Does.request process rest request
        | ret =>
            cases executed
            exact .ret process rest
        | proceed | command | vehicleStatus | modeCompleted | userEvent => cases executed
    | executor task =>
        cases task with
        | hook hook =>
            cases input with
            | proceed =>
                cases hook <;> cases executed <;> exact .enter process rest _
            | command | request | ret | vehicleStatus | modeCompleted | userEvent => cases executed
        | sendScheduleMode modeId cmd onCompleted =>
            cases input with
            | command result =>
                cases executed
                exact .command process rest _ result rfl
            | proceed | request | ret | vehicleStatus | modeCompleted | userEvent => cases executed
        | sendArmDisarm check cmd onCompleted =>
            cases input with
            | command result =>
                cases executed
                exact .command process rest _ result rfl
            | proceed | request | ret | vehicleStatus | modeCompleted | userEvent => cases executed
        | _ =>
            cases input with
            | proceed =>
                cases executed
                exact .resume process rest _ rfl nofun
            | command | request | ret | vehicleStatus | modeCompleted | userEvent => cases executed

end ExecutorProcess

end Px4Ros2
