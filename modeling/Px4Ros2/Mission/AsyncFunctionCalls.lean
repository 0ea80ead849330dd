import Px4Ros2.Lib.History

/-! `AsyncFunctionCalls`: functions are queued and called later, from a timer that cancels itself
before it empties the queue. -/

set_option autoImplicit false

namespace Px4Ros2

open Lib

/-- Functions are data, of any type. -/
structure AsyncFunctionCalls (Function : Type) where
  pending : List Function := []
  /-- Whether `_update_timer` is armed. -/
  updateTimer : Bool := false

namespace AsyncFunctionCalls

variable {Function : Type}

def callAsync (calls : AsyncFunctionCalls Function) (callback : Function) :
    AsyncFunctionCalls Function :=
  { pending := calls.pending ++ [callback], updateTimer := true }

inductive Task where
  /-- The condition of the loop. -/
  | loop
  /-- Control is in the function at the front. -/
  | callback
  /-- The loop after the function returned. -/
  | pop
deriving DecidableEq, Repr

inductive Input (Function : Type) where
  | callAsync (callback : Function)
  | updateTimer
  /-- Internal code goes on. -/
  | proceed
  /-- The function returns. -/
  | ret

abbrev Config (Function : Type) := Lib.Config (AsyncFunctionCalls Function) Task

def exec (calls : AsyncFunctionCalls Function) :
    Task → Input Function → Option (AsyncFunctionCalls Function × List Task)
  | .loop, .proceed =>
      match calls.pending with
      | [] => some (calls, [])
      | _ :: _ => some (calls, [.callback, .pop])
  | .callback, .callAsync callback => some (calls.callAsync callback, [.callback])
  | .callback, .ret => some (calls, [])
  | .pop, .proceed => some ({ calls with pending := calls.pending.tail }, [.loop])
  | _, _ => none

def idle (calls : AsyncFunctionCalls Function) :
    Input Function → Option (AsyncFunctionCalls Function × List Task)
  | .callAsync callback => some (calls.callAsync callback, [])
  | .updateTimer =>
      if calls.updateTimer then some ({ calls with updateTimer := false }, [.loop]) else none
  | _ => none

def machine (Function : Type) : Machine (AsyncFunctionCalls Function) Task (Input Function) :=
  ⟨exec, idle⟩

/-- What was passed to `callAsync`, and what was called. -/
structure CallHistory (Function : Type) where
  queued : List Function := []
  called : List Function := []

def callRecorder : Recorder (AsyncFunctionCalls Function) Task (Input Function)
    (CallHistory Function) where
  event history _ input :=
    match input with
    | .callAsync callback => { history with queued := history.queued ++ [callback] }
    | _ => history
  task history calls task input :=
    match task, input with
    | .callback, .callAsync callback => { history with queued := history.queued ++ [callback] }
    | .loop, .proceed =>
        { history with called := history.called ++ calls.pending.head?.toList }
    | _, _ => history

/-- The calls after a run, with their past. -/
def Runs (config : Lib.Config (Recorded (AsyncFunctionCalls Function) (CallHistory Function)) Task) :
    Prop :=
  ((machine Function).recorded callRecorder).Reaches
    (fun config => Machine.unrestricted config.forget) ⟨⟨{}, {}⟩, []⟩ config

/-! ### Queueing -/

def callAsyncAll (calls : AsyncFunctionCalls Function) (callbacks : List Function) :
    AsyncFunctionCalls Function :=
  { pending := calls.pending ++ callbacks
    updateTimer := calls.updateTimer || !callbacks.isEmpty }

/-- Code that may call `callAsync` runs: outside of a firing, or a function that is called. -/
inductive Accepts : List Task → Prop where
  | outside : Accepts []
  | inside {rest : List Task} : Accepts (.callback :: rest)

theorem Runs.step
    {config next : Lib.Config (Recorded (AsyncFunctionCalls Function) (CallHistory Function)) Task}
    (runs : Runs config) (input : Input Function)
    (stepped : ((machine Function).recorded callRecorder).step config input = some next) :
    Runs next :=
  Machine.Reaches.step runs trivial stepped

theorem Runs.callAsync {calls : AsyncFunctionCalls Function} {history : CallHistory Function}
    {agenda : List Task} (runs : Runs ⟨⟨calls, history⟩, agenda⟩) (accepts : Accepts agenda)
    (callback : Function) :
    Runs ⟨⟨calls.callAsync callback, { history with queued := history.queued ++ [callback] }⟩,
      agenda⟩ := by
  cases accepts with
  | outside => exact runs.step (.callAsync callback) rfl
  | inside => exact runs.step (.callAsync callback) rfl

theorem Runs.callAsyncAll {calls : AsyncFunctionCalls Function} {history : CallHistory Function}
    {agenda : List Task} (runs : Runs ⟨⟨calls, history⟩, agenda⟩) (accepts : Accepts agenda)
    (callbacks : List Function) :
    Runs ⟨⟨calls.callAsyncAll callbacks, { history with queued := history.queued ++ callbacks }⟩,
      agenda⟩ := by
  induction callbacks generalizing calls history with
  | nil => simpa [AsyncFunctionCalls.callAsyncAll] using runs
  | cons callback callbacks ih =>
      have rest := ih (runs.callAsync accepts callback)
      simpa [AsyncFunctionCalls.callAsyncAll, AsyncFunctionCalls.callAsync] using rest

/-! ### A firing of the timer -/

theorem Runs.fire {state : Recorded (AsyncFunctionCalls Function) (CallHistory Function)}
    (runs : Runs ⟨state, []⟩) (armed : state.state.updateTimer = true) :
    Runs ⟨⟨{ state.state with updateTimer := false }, state.history⟩, [.loop]⟩ := by
  have taken : idle state.state .updateTimer =
      some ({ state.state with updateTimer := false }, [Task.loop]) := by
    simp [idle, armed]
  refine runs.step .updateTimer ?_
  simp [Machine.step, Machine.recorded, machine, taken, callRecorder]

theorem Runs.empty {state : Recorded (AsyncFunctionCalls Function) (CallHistory Function)}
    (runs : Runs ⟨state, [.loop]⟩) (empty : state.state.pending = []) : Runs ⟨state, []⟩ := by
  refine runs.step .proceed ?_
  simp [Machine.step, Machine.recorded, machine, exec, callRecorder, empty]

theorem Runs.front {state : Recorded (AsyncFunctionCalls Function) (CallHistory Function)}
    {callback : Function} (runs : Runs ⟨state, [.loop]⟩)
    (front : state.state.pending.head? = some callback) :
    Runs ⟨⟨state.state, { state.history with called := state.history.called ++ [callback] }⟩,
      [.callback, .pop]⟩ := by
  obtain ⟨others, shape⟩ := List.head?_eq_some_iff.mp front
  refine runs.step .proceed ?_
  simp [Machine.step, Machine.recorded, machine, exec, callRecorder, shape]

theorem Runs.returned {state : Recorded (AsyncFunctionCalls Function) (CallHistory Function)}
    (runs : Runs ⟨state, [.callback, .pop]⟩) :
    Runs ⟨⟨{ state.state with pending := state.state.pending.tail }, state.history⟩, [.loop]⟩ := by
  have popping : Runs ⟨state, [.pop]⟩ := runs.step .ret rfl
  exact popping.step .proceed rfl

/-! ### Exactly once and in order -/

/-- The functions that are still to be called. The one that is being called is at the front until
it has returned. -/
def waiting (calls : AsyncFunctionCalls Function) : List Task → List Function
  | [] | .loop :: _ => calls.pending
  | .callback :: _ | .pop :: _ => calls.pending.tail

/-- How far a firing of the timer is. -/
inductive Firing (calls : AsyncFunctionCalls Function) : List Task → Prop where
  | none : (calls.pending ≠ [] → calls.updateTimer = true) → Firing calls []
  | loop : Firing calls [.loop]
  | callback : calls.pending ≠ [] → Firing calls [.callback, .pop]
  | pop : calls.pending ≠ [] → Firing calls [.pop]

structure Delivering (history : CallHistory Function) (config : Config Function) : Prop where
  account : history.queued = history.called ++ waiting config.state config.agenda
  firing : Firing config.state config.agenda

variable {history : CallHistory Function} {calls : AsyncFunctionCalls Function}
  {config next : Config Function} {input : Input Function}

theorem delivering_initial : Delivering ({} : CallHistory Function) ⟨{}, []⟩ :=
  ⟨rfl, .none nofun⟩

theorem delivering_step (delivering : Delivering history config)
    (stepped : (machine Function).step config input = some next) :
    Delivering (callRecorder.record history config input) next := by
  rcases config with ⟨calls, agenda⟩
  obtain ⟨account, firing⟩ := delivering
  rcases Machine.step_cases stepped with
    ⟨quiescent, after, tasks, taken, rfl⟩ | ⟨task, rest, after, tasks, shape, executed, rfl⟩
  · obtain rfl : agenda = [] := quiescent
    cases input with
    | callAsync callback =>
        cases taken
        refine ⟨?_, .none fun _ => rfl⟩
        simp only [waiting] at account
        simp [Recorder.record, callRecorder, waiting, callAsync, account]
    | updateTimer =>
        simp only [machine, idle] at taken
        split at taken
        · cases taken
          exact ⟨account, .loop⟩
        · cases taken
    | proceed | ret => cases taken
  · obtain rfl : agenda = task :: rest := shape
    cases firing with
    | loop =>
        cases input with
        | proceed =>
            simp only [machine, exec] at executed
            split at executed
            · rename_i empty
              cases executed
              refine ⟨?_, .none fun some => absurd empty some⟩
              simpa [Recorder.record, callRecorder, waiting, empty] using account
            · rename_i callback others shape
              cases executed
              refine ⟨?_, .callback (by simp [shape])⟩
              simpa [Recorder.record, callRecorder, waiting, shape] using account
        | callAsync | updateTimer | ret => cases executed
    | callback some =>
        cases input with
        | callAsync callback =>
            cases executed
            refine ⟨?_, .callback (by simp [callAsync])⟩
            simp only [waiting] at account
            simp [Recorder.record, callRecorder, waiting, callAsync, account,
              List.tail_append_of_ne_nil some]
        | ret =>
            cases executed
            exact ⟨account, .pop some⟩
        | updateTimer | proceed => cases executed
    | pop some =>
        cases input with
        | proceed =>
            cases executed
            exact ⟨account, .loop⟩
        | callAsync | updateTimer | ret => cases executed

theorem Runs.delivering
    {config : Lib.Config (Recorded (AsyncFunctionCalls Function) (CallHistory Function)) Task}
    (runs : Runs config) : Delivering config.state.history config.forget :=
  Machine.Reaches.recorded_invariant delivering_initial
    (fun _ _ _ _ delivering _ stepped => delivering_step delivering stepped) runs

/-- What is expected of the functions that were queued. -/
structure DeliversAll
    (config : Lib.Config (Recorded (AsyncFunctionCalls Function) (CallHistory Function)) Task) :
    Prop where
  /-- In the order of the calls, none twice and none left out. -/
  inOrder : config.state.history.called <+: config.state.history.queued
  /-- No wake-up is lost. -/
  armed : config.agenda = [] → config.state.state.pending ≠ [] →
    config.state.state.updateTimer = true
  /-- What is not called yet is still in the queue. -/
  pending : config.agenda = [] →
    config.state.history.queued = config.state.history.called ++ config.state.state.pending
  /-- When a firing of the timer is over, everything was called. -/
  drained : ∀ input next, config.agenda ≠ [] →
    (machine Function).step config.forget input = some next → next.agenda = [] →
    config.state.history.called = config.state.history.queued

theorem deliversAll
    {config : Lib.Config (Recorded (AsyncFunctionCalls Function) (CallHistory Function)) Task}
    (runs : Runs config) : DeliversAll config := by
  obtain ⟨account, firing⟩ := runs.delivering
  rcases config with ⟨⟨calls, history⟩, agenda⟩
  simp only [Config.forget_mk] at account firing
  constructor
  · exact ⟨_, account.symm⟩
  · intro quiescent some
    obtain rfl : agenda = [] := quiescent
    cases firing with
    | none armed => exact armed some
  · intro quiescent
    obtain rfl : agenda = [] := quiescent
    exact account
  · intro input next firingNow stepped done
    rcases Machine.step_cases stepped with
      ⟨quiescent, -⟩ | ⟨task, rest, after, tasks, shape, executed, rfl⟩
    · exact absurd quiescent firingNow
    · obtain rfl : agenda = task :: rest := shape
      cases firing with
      | loop =>
          cases input with
          | proceed =>
              simp only [machine, exec] at executed
              split at executed
              · rename_i empty
                have empty : calls.pending = [] := empty
                simp [waiting, empty] at account
                exact account.symm
              · cases executed
                simp at done
          | callAsync | updateTimer | ret => cases executed
      | callback some => simp at done
      | pop some =>
          cases input with
          | proceed =>
              cases executed
              simp at done
          | callAsync | updateTimer | ret => cases executed

end AsyncFunctionCalls

end Px4Ros2
