import Px4Ros2.Components.ExecutorProcess

/-! The shared vehicle status subscription of a node: the dispatch loop `onUpdate` and the wait of
`deferFailsafesSync`, which take messages from the same queue. -/

set_option autoImplicit false

namespace Px4Ros2

/-- Who registered a callback. -/
inductive StatusListener where
  | executor (process : ExecutorProcess)
  | mode (registered : Bool) (mode : ModeBase)
deriving DecidableEq, Repr

/-- An entry of `_callbacks`, with the messages its callback was called with. -/
structure StatusCallback where
  listener : StatusListener
  received : List VehicleStatus := []
deriving DecidableEq, Repr

/-- A message taken from the subscription, by the dispatch or by a blocked wait. -/
structure TakenStatus where
  msg : VehicleStatus
  byWait : Bool
deriving DecidableEq, Repr

structure StatusNode where
  /-- `_callbacks`, in the order of their tokens. -/
  callbacks : List StatusCallback
  /-- The queue of the subscription, which keeps the newest message. -/
  queue : Option VehicleStatus := none
  taken : List TakenStatus := []
  /-- What `deferFailsafesSync` returned so far. -/
  deferResults : List Bool := []
deriving DecidableEq, Repr

namespace StatusNode

inductive Task where
  /-- The loop of `onUpdate`, at the callback it calls next. -/
  | onUpdate (msg : VehicleStatus) (position : Nat)
  | executor (index : Nat) (task : ModeExecutorBase.Task CompletedCallback)
  | mode (index : Nat) (task : ModeBase.Task)
  /-- `deferFailsafesSync` waits for a vehicle status. -/
  | deferWait
  | user
deriving DecidableEq, Repr

inductive Input where
  | executor (input : ExecutorProcess.Input)
  | request (index : Nat) (request : ExecutorProcess.Request)
  | deferFailsafesSync (index : Nat) (enabled : Bool) (timeoutS : Int32)
  /-- A message reaches the queue. -/
  | arrives (msg : VehicleStatus)
  /-- The middleware takes the message and calls `onUpdate`. -/
  | dispatch
  /-- The wait set of `deferFailsafesSync` is ready and `take` is called. -/
  | take
  | timeout
  | modeCompleted (index : Nat) (msg : ModeCompleted)
  | userEvent
deriving DecidableEq, Repr

abbrev Config := Lib.Config StatusNode Task

def setListener (node : StatusNode) (index : Nat) (listener : StatusListener) : StatusNode :=
  { node with
    callbacks := node.callbacks.modify index fun callback =>
      { callback with listener := listener } }

def processTask (index : Nat) : ExecutorProcess.Task → Task
  | .executor task => .executor index task
  | .user => .user

/-- Puts the outcome of an executor's function back into the node. -/
def applyExecutor (node : StatusNode) (index : Nat)
    (after : ExecutorProcess × List ExecutorProcess.Task) : StatusNode × List Task :=
  (node.setListener index (.executor after.1), after.2.map (processTask index))

def applyMode (node : StatusNode) (index : Nat) (registered : Bool)
    (after : ModeBase × List ModeBase.Task) : StatusNode × List Task :=
  (node.setListener index (.mode registered after.1), after.2.map (.mode index))

def executorAt (node : StatusNode) (index : Nat) : Option ExecutorProcess :=
  match node.callbacks[index]? with
  | some ⟨.executor process, _⟩ => some process
  | _ => none

/-- The callback itself, for a registered executor or mode. -/
def call (node : StatusNode) (index : Nat) (listener : StatusListener) (msg : VehicleStatus) :
    StatusNode × List Task :=
  match listener with
  | .executor process =>
      node.applyExecutor index (process.apply (process.executor.vehicleStatusReceived msg))
  | .mode true mode => node.applyMode index true (mode.vehicleStatusUpdated msg false)
  | .mode false _ => (node, [])

def logReceived (node : StatusNode) (index : Nat) (msg : VehicleStatus) : StatusNode :=
  { node with
    callbacks := node.callbacks.modify index fun callback =>
      { callback with received := callback.received ++ [msg] } }

/-- One round of the loop of `onUpdate`. -/
def onUpdate (node : StatusNode) (msg : VehicleStatus) (position : Nat) :
    StatusNode × List Task :=
  match node.callbacks[position]? with
  | none => (node, [])
  | some callback =>
      let called := (node.logReceived position msg).call position callback.listener msg
      (called.1, called.2 ++ [.onUpdate msg (position + 1)])

/-- The user calls `deferFailsafesSync` of an executor, which may have to wait. -/
def deferFailsafesSync (node : StatusNode) (index : Nat) (process : ExecutorProcess)
    (enabled : Bool) (timeoutS : Int32) : StatusNode × List Task :=
  let after := process.executor.deferFailsafes enabled timeoutS
  let node := node.setListener index (.executor { process with executor := after.1 })
  if after.2 then (node, [.deferWait])
  else ({ node with deferResults := node.deferResults ++ [true] }, [])

/-- The body of the wait loop: the message that is taken goes nowhere else. -/
def waitTake (node : StatusNode) : StatusNode × List Task :=
  match node.queue with
  | none => (node, [.deferWait])
  | some msg =>
      let node := { node with queue := none, taken := node.taken ++ [⟨msg, true⟩] }
      if msg.failsafeDeferState != VehicleStatus.failsafeDeferStateDisabled then
        ({ node with deferResults := node.deferResults ++ [true] }, [])
      else (node, [.deferWait])

def waitTimeout (node : StatusNode) : StatusNode × List Task :=
  ({ node with deferResults := node.deferResults ++ [false] }, [])

def exec (node : StatusNode) (task : Task) (input : Input) : Option (StatusNode × List Task) :=
  match task, input with
  | task, .arrives msg => some ({ node with queue := some msg }, [task])
  | .onUpdate msg position, .executor .proceed => some (node.onUpdate msg position)
  | .executor index task, .executor input =>
      (node.executorAt index).bind fun process =>
        (process.exec (.executor task) input).map (node.applyExecutor index)
  | .mode _ (.hook _), .executor .proceed => some (node, [.user])
  | .mode index task, .executor .proceed =>
      match node.callbacks[index]? with
      | some ⟨.mode registered mode, _⟩ => some (node.applyMode index registered (mode.resume task))
      | _ => none
  | .deferWait, .take => some node.waitTake
  | .deferWait, .timeout => some node.waitTimeout
  | .user, .request index request =>
      (node.executorAt index).map fun process =>
        let after := node.applyExecutor index (process.request request)
        (after.1, after.2 ++ [.user])
  | .user, .deferFailsafesSync index enabled timeoutS =>
      (node.executorAt index).map fun process =>
        let after := node.deferFailsafesSync index process enabled timeoutS
        (after.1, after.2 ++ [.user])
  | .user, .executor .ret => some (node, [])
  | _, _ => none

def idle (node : StatusNode) : Input → Option (StatusNode × List Task)
  | .arrives msg => some ({ node with queue := some msg }, [])
  | .dispatch =>
      node.queue.map fun msg =>
        ({ node with queue := none, taken := node.taken ++ [⟨msg, false⟩] }, [.onUpdate msg 0])
  | .modeCompleted index msg =>
      (node.executorAt index).map fun process =>
        node.applyExecutor index (process.apply (process.executor.modeCompletedReceived msg))
  | .userEvent => some (node, [.user])
  | _ => none

def machine : Lib.Machine StatusNode Task Input := ⟨exec, idle⟩

/-- A node whose modes and executors registered their callbacks and wait for the first message. -/
def initial (listeners : List StatusListener) : Config :=
  ⟨{ callbacks := listeners.map fun listener => { listener := listener } }, []⟩

def takenMessages (node : StatusNode) : List VehicleStatus :=
  node.taken.map TakenStatus.msg

/-- Every message taken from the subscription reached every callback once, in order, when nothing
is pending; and callbacks never get anything else. -/
def EveryStatusDelivered (config : Config) : Prop :=
  (∀ callback ∈ config.state.callbacks, callback.received <+: config.state.takenMessages) ∧
  (config.agenda = [] →
    ∀ callback ∈ config.state.callbacks, callback.received = config.state.takenMessages)

instance (config : Config) : Decidable (EveryStatusDelivered config) :=
  inferInstanceAs (Decidable (_ ∧ _))

/-- A wait in `deferFailsafesSync` never finds a message. -/
def WaitFindsNoStatus (config : Config) (input : Input) : Prop :=
  config.agenda.head? = some .deferWait → input = .take → config.state.queue = none

instance (config : Config) (input : Input) : Decidable (WaitFindsNoStatus config input) :=
  inferInstanceAs (Decidable (_ → _ → _))

/-- The messages that the dispatch took. -/
private def dispatched (node : StatusNode) : List VehicleStatus :=
  (node.taken.filter fun entry => !entry.byWait).map TakenStatus.msg

/-- The messages that the callback at this index gets from loops that are still running. -/
private def awaiting (index : Nat) : List Task → List VehicleStatus
  | [] => []
  | .onUpdate msg position :: rest =>
      if position ≤ index then msg :: awaiting index rest else awaiting index rest
  | _ :: rest => awaiting index rest

private theorem awaiting_append (index : Nat) (tasks rest : List Task) :
    awaiting index (tasks ++ rest) = awaiting index tasks ++ awaiting index rest := by
  induction tasks with
  | nil => rfl
  | cons task tasks ih =>
      cases task with
      | onUpdate msg position =>
          simp only [List.cons_append, awaiting]
          split <;> simp [ih]
      | executor | mode | deferWait | user => simpa [awaiting] using ih

/-- The task is no round of `onUpdate`, and does not wait. -/
private def Task.Plain : Task → Prop
  | .onUpdate _ _ | .deferWait => False
  | _ => True

private theorem awaiting_plain (index : Nat) {tasks : List Task}
    (plain : ∀ task ∈ tasks, task.Plain) : awaiting index tasks = [] := by
  induction tasks with
  | nil => rfl
  | cons task tasks ih =>
      have rest := ih fun other member => plain other (List.mem_cons_of_mem _ member)
      have head := plain task List.mem_cons_self
      cases task with
      | onUpdate | deferWait => exact head.elim
      | executor | mode | user => exact rest

/-- What every callback was called with, by index. -/
private def receivedBy (node : StatusNode) : List (List VehicleStatus) :=
  node.callbacks.map StatusCallback.received

variable {node : StatusNode}

private theorem setListener_receivedBy (index : Nat) (listener : StatusListener) :
    (node.setListener index listener).receivedBy = node.receivedBy := by
  apply List.ext_getElem? fun position => ?_
  simp only [receivedBy, setListener, List.getElem?_map, List.getElem?_modify]
  cases node.callbacks[position]? with
  | none => simp
  | some callback => by_cases same : index = position <;> simp [same]

private theorem logReceived_receivedBy (index : Nat) (msg : VehicleStatus) :
    (node.logReceived index msg).receivedBy =
      node.receivedBy.modify index fun received => received ++ [msg] := by
  apply List.ext_getElem? fun position => ?_
  simp only [receivedBy, logReceived, List.getElem?_map, List.getElem?_modify]
  cases node.callbacks[position]? with
  | none => simp
  | some callback => by_cases same : index = position <;> simp [same]

private theorem applyExecutor_plain (index : Nat)
    (after : ExecutorProcess × List ExecutorProcess.Task) :
    ∀ task ∈ (node.applyExecutor index after).2, task.Plain := by
  intro task member
  obtain ⟨inner, _, rfl⟩ := List.mem_map.mp member
  cases inner <;> trivial

private theorem call_plain (index : Nat) (listener : StatusListener) (msg : VehicleStatus) :
    (∀ task ∈ (node.call index listener msg).2, task.Plain) ∧
      (node.call index listener msg).1.receivedBy = node.receivedBy ∧
      (node.call index listener msg).1.taken = node.taken := by
  cases listener with
  | executor process =>
      exact ⟨applyExecutor_plain index _, setListener_receivedBy index _, rfl⟩
  | mode registered mode =>
      cases registered with
      | true =>
          refine ⟨?_, setListener_receivedBy index _, rfl⟩
          intro task member
          obtain ⟨inner, _, rfl⟩ := List.mem_map.mp member
          trivial
      | false => exact ⟨by simp [call], rfl, rfl⟩

/-- Callbacks get nothing, and messages are taken by a wait only; the tasks are plain, unless it
is the wait that goes on or starts. -/
private structure Frame (node : StatusNode) (task : Task) (input : Input)
    (after : StatusNode × List Task) : Prop where
  receivedBy : after.1.receivedBy = node.receivedBy
  taken : after.1.taken = node.taken ∨ ∃ msg, task = .deferWait ∧ input = .take ∧
    node.queue = some msg ∧ after.1.taken = node.taken ++ [⟨msg, true⟩]
  awaiting : ∀ index, awaiting index after.2 = awaiting index [task]
  waits : Task.deferWait ∈ after.2 → task = .deferWait ∨ node.callbacks ≠ []

private theorem frame_of_plain {task : Task} {input : Input} {after : StatusNode × List Task}
    (plainTask : task.Plain) (plain : ∀ next ∈ after.2, next.Plain)
    (receivedBy : after.1.receivedBy = node.receivedBy) (taken : after.1.taken = node.taken) :
    Frame node task input after where
  receivedBy := receivedBy
  taken := .inl taken
  awaiting index := by
    rw [awaiting_plain index plain, awaiting_plain index (by simpa using plainTask)]
  waits member := (plain _ member).elim

private theorem waitTake_frame : Frame node .deferWait .take node.waitTake := by
  unfold waitTake
  split
  · exact ⟨rfl, .inl rfl, fun _ => rfl, fun _ => .inl rfl⟩
  · rename_i msg queued
    dsimp only
    split <;>
      exact ⟨rfl, .inr ⟨msg, rfl, rfl, queued, rfl⟩, fun _ => rfl, fun _ => .inl rfl⟩

private theorem executorAt_nonempty {index : Nat} {process : ExecutorProcess}
    (found : node.executorAt index = some process) : node.callbacks ≠ [] := by
  intro empty
  simp [executorAt, empty] at found

private theorem exec_frame {task : Task} {input : Input} {after : StatusNode × List Task}
    (executed : exec node task input = some after) :
    (∃ msg position, task = .onUpdate msg position ∧ after = node.onUpdate msg position) ∨
      Frame node task input after := by
  cases input with
  | arrives msg =>
      cases task <;> cases executed <;>
        exact .inr ⟨rfl, .inl rfl, fun _ => rfl,
          fun member => .inl (List.mem_singleton.mp member).symm⟩
  | executor input =>
      cases task with
      | onUpdate msg position =>
          cases input <;> cases executed
          exact .inl ⟨msg, position, rfl, rfl⟩
      | executor index task =>
          simp only [exec, Option.bind_eq_some_iff, Option.map_eq_some_iff] at executed
          obtain ⟨process, _, moved, _, rfl⟩ := executed
          exact .inr (frame_of_plain trivial (applyExecutor_plain index moved)
            (setListener_receivedBy index _) rfl)
      | mode index task =>
          cases input with
          | proceed =>
              cases task with
              | hook =>
                  cases executed
                  exact .inr (frame_of_plain trivial (by simp [Task.Plain]) rfl rfl)
              | activated | updateSetpointUpdateTimer =>
                  simp only [exec] at executed
                  split at executed
                  · cases executed
                    refine .inr (frame_of_plain trivial ?_ (setListener_receivedBy index _) rfl)
                    intro next member
                    obtain ⟨inner, _, rfl⟩ := List.mem_map.mp member
                    trivial
                  · cases executed
          | command | request | ret | vehicleStatus | modeCompleted | userEvent =>
              cases task <;> cases executed
      | user =>
          cases input <;> cases executed
          exact .inr (frame_of_plain trivial (by simp) rfl rfl)
      | deferWait => cases input <;> cases executed
  | request index request =>
      cases task with
      | user =>
          simp only [exec, Option.map_eq_some_iff] at executed
          obtain ⟨process, _, rfl⟩ := executed
          refine .inr (frame_of_plain trivial ?_ (setListener_receivedBy index _) rfl)
          intro next member
          rcases List.mem_append.mp member with pushed | back
          · exact applyExecutor_plain index _ next pushed
          · cases List.mem_singleton.mp back
            trivial
      | onUpdate | executor | mode | deferWait => cases executed
  | deferFailsafesSync index enabled timeoutS =>
      cases task with
      | user =>
          simp only [exec, Option.map_eq_some_iff] at executed
          obtain ⟨process, found, rfl⟩ := executed
          have present := executorAt_nonempty found
          simp only [deferFailsafesSync]
          split
          · exact .inr ⟨setListener_receivedBy index _, .inl rfl, fun _ => rfl,
              fun _ => .inr present⟩
          · exact .inr ⟨setListener_receivedBy index _, .inl rfl, fun _ => rfl,
              fun _ => .inr present⟩
      | onUpdate | executor | mode | deferWait => cases executed
  | take =>
      cases task with
      | deferWait =>
          cases executed
          exact .inr waitTake_frame
      | onUpdate | executor | mode | user => cases executed
  | timeout =>
      cases task with
      | deferWait =>
          cases executed
          exact .inr ⟨rfl, .inl rfl, fun _ => rfl, fun _ => .inl rfl⟩
      | onUpdate | executor | mode | user => cases executed
  | dispatch | modeCompleted | userEvent => cases task <;> cases executed

/-- Every callback got what the dispatch took, up to the rounds that are still to come. -/
private structure Tracked (config : Config) : Prop where
  received : ∀ (index : Nat) received, config.state.receivedBy[index]? = some received →
    received ++ awaiting index config.agenda = config.state.dispatched
  waits : Task.deferWait ∈ config.agenda → config.state.callbacks ≠ []

private theorem callbacks_ne_nil_iff : node.callbacks ≠ [] ↔ node.receivedBy ≠ [] := by
  simp [receivedBy]

private theorem Frame.dispatched {task : Task} {input : Input} {after : StatusNode × List Task}
    (frame : Frame node task input after) : after.1.dispatched = node.dispatched := by
  rcases frame.taken with same | ⟨msg, _, _, _, wait⟩
  · rw [StatusNode.dispatched, StatusNode.dispatched, same]
  · simp [StatusNode.dispatched, wait]

private theorem Frame.tracked {task : Task} {input : Input} {rest : List Task}
    {after : StatusNode × List Task} (frame : Frame node task input after)
    (before : Tracked ⟨node, task :: rest⟩) :
    Tracked ⟨after.1, after.2 ++ rest⟩ := by
  constructor
  · intro index received found
    have kept := before.received index received (frame.receivedBy ▸ found)
    rw [show task :: rest = [task] ++ rest from rfl, awaiting_append] at kept
    rw [awaiting_append, frame.awaiting, frame.dispatched]
    exact kept
  · intro member
    rw [callbacks_ne_nil_iff, frame.receivedBy, ← callbacks_ne_nil_iff]
    rcases List.mem_append.mp member with pushed | older
    · rcases frame.waits pushed with rfl | present
      · exact before.waits List.mem_cons_self
      · exact present
    · exact before.waits (List.mem_cons_of_mem _ older)

private theorem onUpdate_tracked {msg : VehicleStatus} {position : Nat} {rest : List Task}
    (before : Tracked ⟨node, .onUpdate msg position :: rest⟩) :
    Tracked ⟨(node.onUpdate msg position).1, (node.onUpdate msg position).2 ++ rest⟩ := by
  have older : Task.deferWait ∈ rest → node.callbacks ≠ [] := fun member =>
    before.waits (List.mem_cons_of_mem _ member)
  unfold onUpdate
  split
  · rename_i beyond
    refine ⟨?_, older⟩
    intro index received found
    have kept := before.received index received found
    have inside : index < node.callbacks.length := by
      simpa [receivedBy] using (List.getElem?_eq_some_iff.mp found).1
    have past : ¬ position ≤ index := by
      have := List.getElem?_eq_none_iff.mp beyond
      omega
    simpa [awaiting, past] using kept
  · rename_i callback present
    obtain ⟨plain, receivedBy, taken⟩ :=
      @call_plain (node.logReceived position msg) position callback.listener msg
    constructor
    · intro index received found
      rw [receivedBy, logReceived_receivedBy, List.getElem?_modify] at found
      obtain ⟨old, oldFound, rfl⟩ := Option.map_eq_some_iff.mp found
      have kept := before.received index old oldFound
      have sameDispatched :
          ((node.logReceived position msg).call position callback.listener msg).1.dispatched =
            node.dispatched := by
        rw [dispatched, dispatched, taken]
        rfl
      rw [sameDispatched, ← kept]
      simp only [awaiting_append, awaiting_plain index plain, awaiting, List.nil_append]
      rcases Nat.lt_trichotomy index position with done | rfl | later
      · have apart : position ≠ index := by omega
        simp [apart, Nat.not_le.mpr done, Nat.not_le.mpr (Nat.lt_succ_of_lt done)]
      · simp
      · have apart : position ≠ index := by omega
        simp [apart, Nat.le_of_lt later, Nat.succ_le_of_lt later]
    · intro member
      have present : ((node.logReceived position msg).call position callback.listener
          msg).1.receivedBy ≠ [] ↔ node.receivedBy ≠ [] := by
        rw [receivedBy, logReceived_receivedBy]
        simp
      simp only [List.mem_append, List.mem_singleton, reduceCtorEq, or_false] at member
      rcases member with pushed | old
      · exact (plain _ pushed).elim
      · exact callbacks_ne_nil_iff.mpr (present.mpr (callbacks_ne_nil_iff.mp (older old)))

private theorem idle_tracked {input : Input} {after : StatusNode × List Task}
    (before : Tracked ⟨node, []⟩) (taken : idle node input = some after) :
    Tracked ⟨after.1, after.2⟩ := by
  have received : ∀ (index : Nat) received, node.receivedBy[index]? = some received →
      received = node.dispatched := by
    simpa [awaiting] using before.received
  cases input with
  | arrives msg =>
      cases taken
      exact ⟨before.received, by simp⟩
  | dispatch =>
      obtain ⟨msg, _, rfl⟩ := Option.map_eq_some_iff.mp taken
      refine ⟨?_, by simp⟩
      intro index old found
      have same := received index old found
      subst same
      simp [awaiting, dispatched]
  | modeCompleted index msg =>
      obtain ⟨process, _, rfl⟩ := Option.map_eq_some_iff.mp taken
      have plain := @applyExecutor_plain node index
        (process.apply (process.executor.modeCompletedReceived msg))
      refine ⟨?_, fun member => (plain _ member).elim⟩
      intro position old found
      have same := received position old (setListener_receivedBy index _ ▸ found)
      rw [awaiting_plain position plain, List.append_nil, same]
      rfl
  | userEvent =>
      cases taken
      exact ⟨before.received, by simp⟩
  | executor | request | deferFailsafesSync | take | timeout => cases taken

private theorem step_tracked {config next : Config} {input : Input} (before : Tracked config)
    (stepped : machine.step config input = some next) : Tracked next := by
  rcases config with ⟨node, agenda⟩
  rcases Lib.Machine.step_cases stepped with
    ⟨quiescent, after, tasks, taken, rfl⟩ | ⟨task, rest, after, tasks, shape, executed, rfl⟩
  · simp only at quiescent
    subst quiescent
    exact idle_tracked before taken
  · simp only at shape
    subst shape
    rcases exec_frame executed with ⟨msg, position, rfl, same⟩ | frame
    · have tracked := onUpdate_tracked before
      rw [← same] at tracked
      exact tracked
    · exact frame.tracked before

/-- Only a wait that finds a message takes one for itself. -/
private theorem step_taken {config next : Config} {input : Input}
    (stepped : machine.step config input = some next) :
    next.state.taken = config.state.taken ∨
    (∃ msg, next.state.taken = config.state.taken ++ [⟨msg, false⟩]) ∨
    ∃ msg, ¬ WaitFindsNoStatus config input ∧
      next.state.taken = config.state.taken ++ [⟨msg, true⟩] := by
  rcases config with ⟨node, agenda⟩
  rcases Lib.Machine.step_cases stepped with
    ⟨_, after, tasks, taken, rfl⟩ | ⟨task, rest, after, tasks, shape, executed, rfl⟩
  · cases input with
    | arrives | userEvent =>
        cases taken
        exact .inl rfl
    | dispatch =>
        obtain ⟨msg, _, same⟩ := Option.map_eq_some_iff.mp taken
        cases same
        exact .inr (.inl ⟨msg, rfl⟩)
    | modeCompleted index msg =>
        obtain ⟨process, _, same⟩ := Option.map_eq_some_iff.mp taken
        cases same
        exact .inl rfl
    | executor | request | deferFailsafesSync | take | timeout => cases taken
  · simp only at shape
    subst shape
    rcases exec_frame executed with ⟨msg, position, rfl, same⟩ | frame
    · refine .inl ?_
      have sameTaken : (node.onUpdate msg position).1.taken = node.taken := by
        unfold onUpdate
        split
        · rfl
        · exact (call_plain _ _ _).2.2
      rw [← same] at sameTaken
      exact sameTaken
    · rcases frame.taken with same | ⟨msg, rfl, rfl, queued, wait⟩
      · exact .inl same
      · refine .inr (.inr ⟨msg, fun free => ?_, wait⟩)
        have empty := free rfl rfl
        rw [queued] at empty
        cases empty

private theorem initial_tracked (listeners : List StatusListener) :
    Tracked (initial listeners) := by
  refine ⟨?_, by simp [initial]⟩
  intro index received found
  simp only [initial, receivedBy, List.map_map, List.getElem?_map, Option.map_eq_some_iff]
    at found
  obtain ⟨listener, _, rfl⟩ := found
  rfl

private theorem delivered_of_dispatched {config : Config} (tracked : Tracked config)
    (same : config.state.dispatched = config.state.takenMessages) :
    EveryStatusDelivered config := by
  have received : ∀ callback ∈ config.state.callbacks, ∃ index,
      callback.received ++ awaiting index config.agenda = config.state.takenMessages := by
    intro callback member
    obtain ⟨index, bound, rfl⟩ := List.mem_iff_getElem.mp member
    refine ⟨index, same ▸ tracked.received index _ ?_⟩
    simp [receivedBy, List.getElem?_eq_getElem bound]
  constructor
  · intro callback member
    obtain ⟨index, split⟩ := received callback member
    exact ⟨_, split⟩
  · intro quiescent callback member
    obtain ⟨index, split⟩ := received callback member
    simpa [quiescent, awaiting] using split

/-- No wait took a message so far. -/
private def NoneByWait (config : Config) : Prop :=
  ∀ entry ∈ config.state.taken, entry.byWait = false

/-- A wait took this message, which some callback should have got. -/
private structure Lost (lost : TakenStatus) (config : Config) : Prop where
  tracked : Tracked config
  present : config.state.receivedBy ≠ []
  taken : lost ∈ config.state.taken

/-- A message that a wait took is missing from then on. -/
private theorem not_delivered_of_wait {config : Config} {lost : TakenStatus}
    (kept : Lost lost config) (quiescent : config.agenda = []) (byWait : lost.byWait = true) :
    ¬ EveryStatusDelivered config := by
  intro delivered
  obtain ⟨callback, registered⟩ :=
    List.exists_mem_of_ne_nil _ (callbacks_ne_nil_iff.mpr kept.present)
  obtain ⟨index, bound, rfl⟩ := List.mem_iff_getElem.mp registered
  have all := delivered.2 quiescent _ registered
  have some := kept.tracked.received index (config.state.callbacks[index]).received (by
    simp [receivedBy, List.getElem?_eq_getElem bound])
  rw [quiescent, awaiting, List.append_nil, all] at some
  have fewer : (config.state.taken.filter fun entry => !entry.byWait).length <
      config.state.taken.length :=
    List.length_filter_lt_length_iff_exists.mpr ⟨lost, kept.taken, by simp [byWait]⟩
  have lengths := congrArg List.length some
  simp only [takenMessages, dispatched, List.length_map] at lengths
  omega

/-- Callbacks are never removed. -/
private theorem step_callbacks_length {config next : Config} {input : Input}
    (stepped : machine.step config input = some next) :
    next.state.receivedBy.length = config.state.receivedBy.length := by
  rcases config with ⟨node, agenda⟩
  rcases Lib.Machine.step_cases stepped with
    ⟨_, after, tasks, taken, rfl⟩ | ⟨task, rest, after, tasks, shape, executed, rfl⟩
  · cases input with
    | arrives | userEvent =>
        cases taken
        rfl
    | dispatch =>
        obtain ⟨msg, _, same⟩ := Option.map_eq_some_iff.mp taken
        cases same
        rfl
    | modeCompleted index msg =>
        obtain ⟨process, _, same⟩ := Option.map_eq_some_iff.mp taken
        cases same
        exact congrArg List.length (setListener_receivedBy index _)
    | executor | request | deferFailsafesSync | take | timeout => cases taken
  · simp only at shape
    subst shape
    rcases exec_frame executed with ⟨msg, position, rfl, same⟩ | frame
    · have kept : (node.onUpdate msg position).1.receivedBy.length = node.receivedBy.length := by
        unfold onUpdate
        split
        · rfl
        · dsimp only
          rw [(call_plain _ _ _).2.1, logReceived_receivedBy, List.length_modify]
      rw [← same] at kept
      exact kept
    · exact congrArg List.length frame.receivedBy

private theorem wait_takes {config next : Config} {input : Input}
    (unmet : ¬ WaitFindsNoStatus config input)
    (stepped : machine.step config input = some next) :
    ∃ lost ∈ next.state.taken, lost.byWait = true := by
  rcases config with ⟨node, agenda⟩
  obtain ⟨waits, unmet⟩ := Classical.not_imp.mp unmet
  obtain ⟨rfl, queued⟩ := Classical.not_imp.mp unmet
  obtain ⟨msg, found⟩ := Option.ne_none_iff_exists'.mp queued
  simp only at waits found
  rcases Lib.Machine.step_cases stepped with
    ⟨quiescent, _⟩ | ⟨task, rest, after, tasks, shape, executed, rfl⟩
  · simp [show agenda = [] from quiescent] at waits
  · simp only at shape
    subst shape
    cases waits
    have same : node.waitTake = (after, tasks) := Option.some.inj executed
    refine ⟨⟨msg, true⟩, ?_, rfl⟩
    rw [show after = node.waitTake.1 by rw [same]]
    simp only [waitTake, found]
    split <;> simp

/-- In every run in which no wait of `deferFailsafesSync` finds a message, every message taken
reaches every callback. A wait that does find one breaks this for good. -/
theorem every_status_delivered (listeners : List StatusListener) (config : Config)
    (reached : machine.Reaches WaitFindsNoStatus (initial listeners) config) :
    EveryStatusDelivered config ∧
    ∀ input next later, ¬ WaitFindsNoStatus config input →
      machine.step config input = some next →
      machine.Reaches Lib.Machine.unrestricted next later → later.agenda = [] →
      ¬ EveryStatusDelivered later := by
  have tracked : Tracked config :=
    reached.invariant (initial_tracked listeners) fun _ _ _ before _ stepped =>
      step_tracked before stepped
  have noneByWait : NoneByWait config := by
    refine reached.invariant (by simp [NoneByWait, initial])
      fun before input next kept met stepped => ?_
    rcases step_taken stepped with same | ⟨msg, same⟩ | ⟨msg, unmet, _⟩
    · rw [NoneByWait, same]
      exact kept
    · rw [NoneByWait, same]
      intro entry member
      rcases List.mem_append.mp member with old | new
      · exact kept entry old
      · cases List.mem_singleton.mp new
        rfl
    · exact absurd met unmet
  refine ⟨delivered_of_dispatched tracked ?_, ?_⟩
  · rw [dispatched, takenMessages, List.filter_eq_self.mpr]
    intro entry member
    simp [noneByWait entry member]
  · intro input next later unmet stepped onward quiescent
    obtain ⟨lost, member, byWait⟩ := wait_takes unmet stepped
    have present : config.state.callbacks ≠ [] := by
      refine tracked.waits (List.mem_of_head? ?_)
      exact (Classical.not_imp.mp unmet).1
    have kept : Lost lost later := by
      refine onward.invariant ⟨step_tracked tracked stepped, ?_, member⟩ ?_
      · rw [← List.length_pos_iff, step_callbacks_length stepped, List.length_pos_iff]
        exact callbacks_ne_nil_iff.mp present
      · intro before input after kept _ stepped
        refine ⟨step_tracked kept.tracked stepped, ?_, ?_⟩
        · rw [← List.length_pos_iff, step_callbacks_length stepped, List.length_pos_iff]
          exact kept.present
        · rcases step_taken stepped with same | ⟨msg, same⟩ | ⟨msg, _, same⟩ <;>
            simp [same, kept.taken]
    exact not_delivered_of_wait kept quiescent byWait

/-- A mode, and an executor that is about to get in charge. -/
private def listeners : List StatusListener :=
  [.mode true { id := 23, activateEvenWhileDisarmed := false },
    .executor { executor :=
      { id := 1, ownedMode := { id := 100, activateEvenWhileDisarmed := false } } }]

/-- Up to the wait in the executor's `onActivate`. -/
private def activateAndDefer : List Input :=
  [.arrives ⟨VehicleStatus.armingStateArmed, kModeIDLoiter, 1, false, 0, true⟩, .dispatch,
    .executor .proceed, .executor .proceed, .executor .proceed, .executor .proceed,
    .deferFailsafesSync 1 true 30]

/-- From the return of `onActivate` to the end of the status update. -/
private def finishUpdate : List Input :=
  [.executor .ret, .executor .proceed, .executor .proceed, .executor .proceed,
    .executor .proceed, .executor .proceed]

/-- The wait times out, and the next message is dispatched. -/
theorem every_status_delivered_after_timeout :
    ∃ config, machine.Reaches WaitFindsNoStatus (initial listeners) config ∧
      config.state.deferResults = [false] ∧ EveryStatusDelivered config := by
  obtain ⟨config, reached, results⟩ := Lib.Machine.reaches_of_run_any machine
    WaitFindsNoStatus (initial listeners) (fun config => config.state.deferResults = [false])
    (activateAndDefer ++ [.timeout] ++ finishUpdate) (by decide)
  exact ⟨config, reached, results, (every_status_delivered listeners config reached).1⟩

/-- The status that ends the wait also switches to mode 23, which never sees it. -/
theorem defer_failsafes_drops_status :
    ∃ config, machine.Reaches Lib.Machine.unrestricted (initial listeners) config ∧
      ¬ EveryStatusDelivered config :=
  Lib.Machine.reaches_of_run_any machine Lib.Machine.unrestricted (initial listeners)
    (fun config => ¬ EveryStatusDelivered config)
    (activateAndDefer ++
      [.arrives ⟨VehicleStatus.armingStateArmed, 23, 1, false, 1, true⟩, .take] ++ finishUpdate)
    (by decide)

end StatusNode

end Px4Ros2
