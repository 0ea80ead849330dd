import Px4Ros2.Lib.History

/-! Processes that may end at any moment, also in the middle of their work. The next process starts
with what the last one left behind. The history goes on across processes. -/

set_option autoImplicit false

namespace Lib

inductive ProcessInput (Input Restart : Type) where
  | own (input : Input)
  | restart (how : Restart)

/-- A process with its history. -/
abbrev Process (State Task History : Type) := Config (Recorded (Config State Task) History) Empty

def Recorder.restartable {State Task Input History Restart : Type}
    (recorder : Recorder State Task Input History) (onRestart : History → History) :
    Recorder (Config State Task) Empty (ProcessInput Input Restart) History where
  event history config input :=
    match input with
    | .own input => recorder.record history config input
    | .restart _ => onRestart history
  task history _ _ _ := history

namespace Machine

variable {State Task Input History Restart : Type}

def restartable (machine : Machine State Task Input) (restarted : Restart → State → State) :
    Machine (Config State Task) Empty (ProcessInput Input Restart) where
  exec _ task _ := nomatch task
  idle config input :=
    match input with
    | .own input => (machine.step config input).map (·, [])
    | .restart how => some (⟨restarted how config.state, []⟩, [])

/-- The guard of a run that restarts when it likes. -/
def processGuard (guard : History → Config State Task → Input → Prop)
    (process : Process State Task History) (input : ProcessInput Input Restart) : Prop :=
  match input with
  | .own input => guard process.state.history process.state.state input
  | .restart _ => True

instance (guard : History → Config State Task → Input → Prop)
    [∀ history config input, Decidable (guard history config input)]
    (process : Process State Task History) (input : ProcessInput Input Restart) :
    Decidable (processGuard guard process input) := by
  cases input <;> unfold processGuard <;> infer_instance

variable {machine : Machine State Task Input} {recorder : Recorder State Task Input History}
  {restarted : Restart → State → State} {onRestart : History → History}
  {guard : History → Config State Task → Input → Prop} {start : Config State Task}
  {history : History} {process : Process State Task History}

/-- What the steps of a process and its restarts preserve holds along every run. -/
theorem Reaches.process_invariant (invariant : History → Config State Task → Prop)
    (initial : invariant history start)
    (own : ∀ history config input next, invariant history config → guard history config input →
      machine.step config input = some next → invariant (recorder.record history config input) next)
    (restart : ∀ history config how, invariant history config →
      invariant (onRestart history) ⟨restarted how config.state, []⟩)
    (reached : ((machine.restartable restarted).recorded (recorder.restartable onRestart)).Reaches
      (processGuard guard) ⟨⟨start, history⟩, []⟩ process) :
    invariant process.state.history process.state.state := by
  induction reached with
  | refl => exact initial
  | @step before next input _ met stepped ih =>
      obtain ⟨_, state, tasks, taken, rfl⟩ | ⟨task, _⟩ := recorded_step_cases stepped
      · cases input with
        | own input =>
            obtain ⟨after, stepped', same⟩ := Option.map_eq_some_iff.mp taken
            cases same
            exact own _ _ _ _ ih met stepped'
        | restart how =>
            cases taken
            exact restart _ _ how ih
      · exact nomatch task

end Machine

end Lib
