import Px4Ros2.Components.ExecutorProcess
import Mathlib.Logic.Function.Basic

/-! A mode executor, the modes it schedules and the flight controller between them. Vehicle status
and mode completions travel in order, with any delay; the modes run concurrently with the
executor, also while it is blocked in a command. -/

set_option autoImplicit false

namespace Px4Ros2

/-- What happens to schedules and completions, as it happens. -/
inductive CompletionEvent where
  /-- The command of a scheduling request was accepted. -/
  | scheduled (request : Nat) (modeId : ModeID)
  /-- An inactive mode became active. -/
  | activated (modeId : ModeID)
  /-- A mode called `completed(result)`. -/
  | completed (modeId : ModeID) (result : Result) (published : Bool)
  /-- The message of the `completed` call at this position of the log reached the executor, with
  the request whose callback gets the result. -/
  | delivered (call : Nat) (resolves : Option (Nat × Result))
deriving DecidableEq, Repr

structure CompletionSystem where
  process : ExecutorProcess
  /-- The modes other than the owned one. -/
  modes : ModeID → ModeBase
  /-- The status of the flight controller, and what it sent but nobody has processed yet. -/
  vehicleStatus : VehicleStatus
  executorInbox : List VehicleStatus := []
  modeInbox : ModeID → List VehicleStatus := fun _ => []
  /-- Mode completions on their way, each with the position of its call in the log. -/
  completions : List (ModeCompleted × Nat) := []
  log : List CompletionEvent := []

namespace CompletionSystem

inductive Input where
  | executor (input : ExecutorProcess.Input)
  | statusToExecutor
  | completionToExecutor
  /-- The flight controller changes its status for its own reasons. -/
  | statusChanged (status : VehicleStatus)
  | statusToMode (modeId : ModeID)
  | completed (modeId : ModeID) (result : Result)
deriving DecidableEq, Repr

abbrev Config := Lib.Config CompletionSystem ExecutorProcess.Task

def modeOf (system : CompletionSystem) (modeId : ModeID) : ModeBase :=
  if modeId = system.process.executor.ownedMode.id then system.process.executor.ownedMode
  else system.modes modeId

def setMode (system : CompletionSystem) (modeId : ModeID) (mode : ModeBase) :
    CompletionSystem :=
  if modeId = system.process.executor.ownedMode.id then
    { system with
      process :=
        { system.process with
          executor := { system.process.executor with ownedMode := mode } } }
  else { system with modes := Function.update system.modes modeId mode }

def publishStatus (system : CompletionSystem) (status : VehicleStatus) : CompletionSystem :=
  { system with
    vehicleStatus := status
    executorInbox := system.executorInbox ++ [status]
    modeInbox := fun modeId => system.modeInbox modeId ++ [status] }

def activationEvents (before after : ModeBase) : List CompletionEvent :=
  if !before.isActive && after.isActive then [.activated after.id] else []

/-- The schedule that the answer to a command accepts. -/
def acceptedSchedule : ExecutorProcess.Task → ExecutorProcess.Input → Option (Nat × ModeID)
  | .executor (.sendScheduleMode modeId _ (.scheduled request)), .command result =>
      if result = .success then some (request, modeId) else none
  | _, _ => none

/-- The flight controller switches to the mode of an accepted schedule. -/
def acceptSchedule (system : CompletionSystem) :
    Option (Nat × ModeID) → CompletionSystem
  | none => system
  | some (request, modeId) =>
      { system with log := system.log ++ [CompletionEvent.scheduled request modeId] }.publishStatus
        { system.vehicleStatus with navState := modeId }

def runExecutor (system : CompletionSystem) (task : ExecutorProcess.Task)
    (input : ExecutorProcess.Input) : Option (CompletionSystem × List ExecutorProcess.Task) :=
  (ExecutorProcess.exec system.process task input).map fun after =>
    let accepted := system.acceptSchedule (acceptedSchedule task input)
    ({ accepted with
        process := after.1
        log := accepted.log ++
          activationEvents system.process.executor.ownedMode after.1.executor.ownedMode },
      after.2)

/-- The request whose callback the executor is about to call with the result of a message. -/
def resolvedRequest : List (ModeExecutorBase.Task CompletedCallback) → Option (Nat × Result)
  | [.hook (.completed (.scheduled request) result)] => some (request, result)
  | _ => none

def deliverCompletion (system : CompletionSystem) :
    Option (CompletionSystem × List ExecutorProcess.Task) :=
  match system.completions with
  | [] => none
  | (msg, call) :: rest =>
      let received := system.process.executor.modeCompletedReceived msg
      let after := system.process.apply received
      some ({ system with
          process := after.1
          completions := rest
          log := system.log ++ [.delivered call (resolvedRequest received.2)] }, after.2)

def deliverStatus (system : CompletionSystem) :
    Option (CompletionSystem × List ExecutorProcess.Task) :=
  match system.executorInbox with
  | [] => none
  | msg :: rest =>
      let after := system.process.apply (system.process.executor.vehicleStatusReceived msg)
      some ({ system with process := after.1, executorInbox := rest }, after.2)

/-- `completed(result)` of a mode; a published message goes to the flight controller, which
relays it. -/
def completeMode (system : CompletionSystem) (modeId : ModeID) (result : Result) :
    CompletionSystem :=
  let after := (system.modeOf modeId).completed result
  let system' := system.setMode modeId after.1
  match after.2 with
  | none => { system' with log := system.log ++ [.completed modeId result false] }
  | some msg =>
      { system' with
        completions := system.completions ++ [(msg, system.log.length)]
        log := system.log ++ [.completed modeId result true] }

/-- A mode other than the owned one processes its next vehicle status. -/
def updateMode (system : CompletionSystem) (modeId : ModeID) : Option CompletionSystem :=
  if modeId = system.process.executor.ownedMode.id then none
  else
    match system.modeInbox modeId with
    | [] => none
    | msg :: rest =>
        let before := system.modes modeId
        let after := (before.vehicleStatusUpdated msg false).1
        some { system with
          modes := Function.update system.modes modeId after
          modeInbox := Function.update system.modeInbox modeId rest
          log := system.log ++ activationEvents before after }

/-- What happens concurrently with the executor. -/
def environment (system : CompletionSystem) : Input → Option CompletionSystem
  | .statusChanged status => some (system.publishStatus status)
  | .statusToMode modeId => system.updateMode modeId
  | .completed modeId result => some (system.completeMode modeId result)
  | _ => none

def exec (system : CompletionSystem) (task : ExecutorProcess.Task) (input : Input) :
    Option (CompletionSystem × List ExecutorProcess.Task) :=
  match input with
  | .executor input => system.runExecutor task input
  | input => (system.environment input).map fun after => (after, [task])

def idle (system : CompletionSystem) (input : Input) :
    Option (CompletionSystem × List ExecutorProcess.Task) :=
  match input with
  | .executor .userEvent => some (system, [.user])
  | .executor _ => none
  | .statusToExecutor => system.deliverStatus
  | .completionToExecutor => system.deliverCompletion
  | input => (system.environment input).map fun after => (after, [])

def machine : Lib.Machine CompletionSystem ExecutorProcess.Task Input := ⟨exec, idle⟩

/-- Nothing was scheduled or sent yet. The modes are inactive. -/
def initial (id : UInt8) (activation : Activation) (ownedMode : ModeID)
    (activateEvenWhileDisarmed : ModeID → Bool) (status : VehicleStatus) : Config :=
  let mode := fun modeId =>
    { id := modeId, activateEvenWhileDisarmed := activateEvenWhileDisarmed modeId : ModeBase }
  ⟨{ process := { executor := { id, activation, ownedMode := mode ownedMode } }
     modes := mode
     vehicleStatus := status }, []⟩

/-- The event at this position of the log. -/
abbrev OccursAt (log : List CompletionEvent) (position : Nat) (event : CompletionEvent) : Prop :=
  log[position]? = some event

/-- The mode calls `completed` at this position. -/
def CompletesAt (log : List CompletionEvent) (position : Nat) (modeId : ModeID) : Prop :=
  ∃ result published, OccursAt log position (.completed modeId result published)

/-- A schedule gets the result of a `completed` call that its mode made after it was accepted. -/
def ResultsFollowSchedules (log : List CompletionEvent) : Prop :=
  ∀ position call request result,
    OccursAt log position (.delivered call (some (request, result))) →
    ∃ accepted modeId, OccursAt log accepted (.scheduled request modeId) ∧
      OccursAt log call (.completed modeId result true) ∧ accepted < call

/-- The first `completed` call that a mode makes after it was scheduled is published. -/
def FirstCompletionsPublished (log : List CompletionEvent) : Prop :=
  ∀ accepted request modeId call result published,
    OccursAt log accepted (.scheduled request modeId) → accepted < call →
    OccursAt log call (.completed modeId result published) →
    (∀ between, accepted < between → between < call → ¬ CompletesAt log between modeId) →
    published = true

/-- No completion of the mode that was published before this position is still on its way. -/
def NoCompletionInFlight (log : List CompletionEvent) (modeId : ModeID) (position : Nat) : Prop :=
  ∀ call < position, ∀ result, OccursAt log call (.completed modeId result true) →
    ∃ delivery < position, ∃ resolves, OccursAt log delivery (.delivered call resolves)

/-- A schedule gets the result of a `completed` call of its mode, and of one made after it was
accepted unless a completion of the mode was in flight then. -/
def ResultsFollowQuietSchedules (log : List CompletionEvent) : Prop :=
  ∀ position call request result,
    OccursAt log position (.delivered call (some (request, result))) →
    ∃ accepted modeId, OccursAt log accepted (.scheduled request modeId) ∧
      OccursAt log call (.completed modeId result true) ∧
      (NoCompletionInFlight log modeId accepted → accepted < call)

/-- A `completed` call, also the first one after a schedule, is published exactly when the mode was
activated since each of its earlier calls. -/
def PublishedOncePerActivation (log : List CompletionEvent) : Prop :=
  ∀ call modeId result published, OccursAt log call (.completed modeId result published) →
    (published = true ↔ ∀ earlier < call, CompletesAt log earlier modeId →
      ∃ activation, earlier < activation ∧ activation < call ∧
        OccursAt log activation (.activated modeId))

end CompletionSystem

end Px4Ros2
