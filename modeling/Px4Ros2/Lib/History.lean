import Px4Ros2.Lib.Machine

/-! A machine with a history: facts about the past that its states do not keep. No step reads the
history, so the runs of the two machines are the same. -/

set_option autoImplicit false

namespace Lib

structure Recorded (State History : Type) where
  state : State
  history : History

/-- What an event at a quiescent point, or running a task, adds to the history. Both get the state
before the step. -/
structure Recorder (State Task Input History : Type) where
  event : History → State → Input → History
  task : History → State → Task → Input → History

def Recorder.record {State Task Input History : Type}
    (recorder : Recorder State Task Input History) (history : History)
    (config : Config State Task) (input : Input) : History :=
  match config.agenda with
  | [] => recorder.event history config.state input
  | task :: _ => recorder.task history config.state task input

namespace Config

variable {State Task History : Type}

def forget (config : Config (Recorded State History) Task) : Config State Task :=
  ⟨config.state.state, config.agenda⟩

@[simp] theorem forget_mk {state : State} {history : History} {agenda : List Task} :
    forget ⟨⟨state, history⟩, agenda⟩ = ⟨state, agenda⟩ := rfl

end Config

namespace Machine

variable {State Task Input History : Type}

def recorded (machine : Machine State Task Input) (recorder : Recorder State Task Input History) :
    Machine (Recorded State History) Task Input where
  exec recorded task input :=
    (machine.exec recorded.state task input).map fun after =>
      (⟨after.1, recorder.task recorded.history recorded.state task input⟩, after.2)
  idle recorded input :=
    (machine.idle recorded.state input).map fun after =>
      (⟨after.1, recorder.event recorded.history recorded.state input⟩, after.2)

variable {machine : Machine State Task Input} {recorder : Recorder State Task Input History}
  {guard : Config State Task → Input → Prop} {input : Input}
  {start config next : Config (Recorded State History) Task}

/-- The cases of a step, with what they record. -/
theorem recorded_step_cases (stepped : (machine.recorded recorder).step config input = some next) :
    (config.agenda = [] ∧ ∃ state tasks,
      machine.idle config.state.state input = some (state, tasks) ∧
      next = ⟨⟨state, recorder.event config.state.history config.state.state input⟩, tasks⟩) ∨
    (∃ task rest state tasks, config.agenda = task :: rest ∧
      machine.exec config.state.state task input = some (state, tasks) ∧
      next = ⟨⟨state, recorder.task config.state.history config.state.state task input⟩,
        tasks ++ rest⟩) := by
  rcases step_cases stepped with
    ⟨quiescent, after, tasks, taken, rfl⟩ | ⟨task, rest, after, tasks, shape, executed, rfl⟩
  · obtain ⟨⟨state, pushed⟩, inner, same⟩ := Option.map_eq_some_iff.mp taken
    cases same
    exact .inl ⟨quiescent, state, pushed, inner, rfl⟩
  · obtain ⟨⟨state, pushed⟩, inner, same⟩ := Option.map_eq_some_iff.mp executed
    cases same
    exact .inr ⟨task, rest, state, pushed, shape, inner, rfl⟩

theorem step_forget (stepped : (machine.recorded recorder).step config input = some next) :
    machine.step config.forget input = some next.forget := by
  rcases config with ⟨⟨state, history⟩, agenda⟩
  rcases recorded_step_cases stepped with
    ⟨quiescent, after, tasks, taken, rfl⟩ | ⟨task, rest, after, tasks, shape, executed, rfl⟩
  · obtain rfl : agenda = [] := quiescent
    simp_all [step]
  · obtain rfl : agenda = task :: rest := shape
    simp_all [step]

theorem step_history (stepped : (machine.recorded recorder).step config input = some next) :
    next.state.history = recorder.record config.state.history config.forget input := by
  rcases config with ⟨⟨state, history⟩, agenda⟩
  rcases recorded_step_cases stepped with
    ⟨quiescent, after, tasks, taken, rfl⟩ | ⟨task, rest, after, tasks, shape, executed, rfl⟩
  · obtain rfl : agenda = [] := quiescent
    rfl
  · obtain rfl : agenda = task :: rest := shape
    rfl

/-- What one step preserves of the history and the configuration holds along every run. -/
theorem Reaches.recorded_invariant {invariant : History → Config State Task → Prop}
    (initial : invariant start.state.history start.forget)
    (preserved : ∀ history config input next, invariant history config → guard config input →
      machine.step config input = some next →
      invariant (recorder.record history config input) next)
    (reached : (machine.recorded recorder).Reaches (fun config => guard config.forget) start
      config) : invariant config.state.history config.forget := by
  induction reached with
  | refl => exact initial
  | step _ met stepped ih =>
      rw [step_history stepped]
      exact preserved _ _ _ _ ih met (step_forget stepped)

/-- A run with a history is a run. -/
theorem Reaches.forget
    (reached : (machine.recorded recorder).Reaches (fun config => guard config.forget) start
      config) : machine.Reaches guard start.forget config.forget := by
  induction reached with
  | refl => exact .refl
  | step _ met stepped ih => exact .step ih met (step_forget stepped)

/-- Every run has a history. -/
theorem Reaches.record {after : Config State Task}
    (reached : machine.Reaches guard start.forget after) :
    ∃ config, (machine.recorded recorder).Reaches (fun config => guard config.forget) start
      config ∧ config.forget = after := by
  induction reached with
  | refl => exact ⟨start, .refl, rfl⟩
  | @step before after input _ met stepped ih =>
      obtain ⟨⟨⟨state, history⟩, agenda⟩, reached, rfl⟩ := ih
      rcases step_cases stepped with
        ⟨quiescent, state', tasks, taken, rfl⟩ | ⟨task, rest, state', tasks, shape, executed, rfl⟩
      · obtain rfl : agenda = [] := quiescent
        have inner : machine.idle state input = some (state', tasks) := taken
        have recordedStep : (machine.recorded recorder).step ⟨⟨state, history⟩, []⟩ input =
            some ⟨⟨state', recorder.event history state input⟩, tasks⟩ := by
          simp only [Machine.step, recorded, inner, Option.map_some]
        exact ⟨_, reached.step met recordedStep, rfl⟩
      · obtain rfl : agenda = task :: rest := shape
        have inner : machine.exec state task input = some (state', tasks) := executed
        have recordedStep : (machine.recorded recorder).step ⟨⟨state, history⟩, task :: rest⟩ input =
            some ⟨⟨state', recorder.task history state task input⟩, tasks ++ rest⟩ := by
          simp only [Machine.step, recorded, inner, Option.map_some]
        exact ⟨_, reached.step met recordedStep, rfl⟩

end Machine

end Lib
