import Mathlib.Data.List.Basic

/-! Single-threaded code that calls back into code it does not know. Pending work is an agenda
of tasks, the newest first; running a task pushes the tasks it leaves behind. An empty agenda
is a quiescent point, where the environment may hand in the next event. -/

set_option autoImplicit false

namespace Lib

structure Config (State Task : Type) where
  state : State
  agenda : List Task

/-- `exec` runs the newest task, `idle` takes an event at a quiescent point. Both answer `none`
for an input that is not possible there. -/
structure Machine (State Task Input : Type) where
  exec : State → Task → Input → Option (State × List Task)
  idle : State → Input → Option (State × List Task)

namespace Machine

variable {State Task Input : Type}

def step (machine : Machine State Task Input) (config : Config State Task) (input : Input) :
    Option (Config State Task) :=
  match config.agenda with
  | [] => (machine.idle config.state input).map fun after => ⟨after.1, after.2⟩
  | task :: rest =>
      (machine.exec config.state task input).map fun after => ⟨after.1, after.2 ++ rest⟩

/-- Runs the machine on a list of inputs, as long as every step is possible and meets `guard`. -/
def run (machine : Machine State Task Input) (guard : Config State Task → Input → Prop)
    [∀ config input, Decidable (guard config input)] (config : Config State Task) :
    List Input → Option (Config State Task)
  | [] => some config
  | input :: inputs =>
      if guard config input then
        (machine.step config input).bind fun next => machine.run guard next inputs
      else none

/-- Configurations reached from `start` by steps that all meet `guard`. -/
inductive Reaches (machine : Machine State Task Input)
    (guard : Config State Task → Input → Prop) (start : Config State Task) :
    Config State Task → Prop where
  | refl : Reaches machine guard start start
  | step {config next : Config State Task} {input : Input} :
      Reaches machine guard start config → guard config input →
      machine.step config input = some next → Reaches machine guard start next

/-- The guard of runs without any restriction. -/
abbrev unrestricted (_ : Config State Task) (_ : Input) : Prop := True

variable {machine : Machine State Task Input} {guard : Config State Task → Input → Prop}
  {start config next : Config State Task} {input : Input}

/-- A step either takes an event at a quiescent point or runs the newest task. -/
theorem step_cases (stepped : machine.step config input = some next) :
    (config.agenda = [] ∧ ∃ state tasks,
      machine.idle config.state input = some (state, tasks) ∧ next = ⟨state, tasks⟩) ∨
    (∃ task rest state tasks, config.agenda = task :: rest ∧
      machine.exec config.state task input = some (state, tasks) ∧
      next = ⟨state, tasks ++ rest⟩) := by
  rcases config with ⟨state, agenda⟩
  cases agenda with
  | nil =>
      simp only [step, Option.map_eq_some_iff, Prod.exists] at stepped
      obtain ⟨after, tasks, taken, rfl⟩ := stepped
      exact .inl ⟨rfl, after, tasks, taken, rfl⟩
  | cons task rest =>
      simp only [step, Option.map_eq_some_iff, Prod.exists] at stepped
      obtain ⟨after, tasks, executed, rfl⟩ := stepped
      exact .inr ⟨task, rest, after, tasks, rfl, executed, rfl⟩

/-- What one step preserves holds along every run. -/
theorem Reaches.invariant {invariant : Config State Task → Prop}
    (initial : invariant start)
    (preserved : ∀ config input next, invariant config → guard config input →
      machine.step config input = some next → invariant next)
    (reached : machine.Reaches guard start config) : invariant config := by
  induction reached with
  | refl => exact initial
  | step _ met stepped ih => exact preserved _ _ _ ih met stepped

theorem Reaches.trans {middle : Config State Task}
    (first : machine.Reaches guard start middle)
    (second : machine.Reaches guard middle config) : machine.Reaches guard start config := by
  induction second with
  | refl => exact first
  | step _ met stepped ih => exact .step ih met stepped

/-- Runs under a stronger guard are runs under a weaker one. -/
theorem Reaches.mono {weaker : Config State Task → Input → Prop}
    (weakens : ∀ config input, guard config input → weaker config input)
    (reached : machine.Reaches guard start config) : machine.Reaches weaker start config := by
  induction reached with
  | refl => exact .refl
  | step _ met stepped ih => exact .step ih (weakens _ _ met) stepped

/-- A run of the executable machine reaches its final configuration. -/
theorem reaches_of_run [∀ config input, Decidable (guard config input)] (inputs : List Input)
    (ran : machine.run guard start inputs = some config) :
    machine.Reaches guard start config := by
  induction inputs generalizing start with
  | nil =>
      simp only [run, Option.some.injEq] at ran
      subst ran
      exact .refl
  | cons input inputs ih =>
      simp only [run] at ran
      split at ran
      · rename_i met
        obtain ⟨middle, stepped, ran⟩ := Option.bind_eq_some_iff.mp ran
        exact (Reaches.step .refl met stepped).trans (ih ran)
      · cases ran

/-- A run whose final configuration is checked by evaluation. -/
theorem reaches_of_run_any (machine : Machine State Task Input)
    (guard : Config State Task → Input → Prop) [∀ config input, Decidable (guard config input)]
    (start : Config State Task) (property : Config State Task → Prop) [DecidablePred property]
    (inputs : List Input)
    (found : (machine.run guard start inputs).any (fun config => decide (property config)) = true) :
    ∃ config, machine.Reaches guard start config ∧ property config := by
  cases ran : machine.run guard start inputs with
  | none => simp [ran] at found
  | some config =>
      simp only [ran, Option.any_some, decide_eq_true_eq] at found
      exact ⟨config, reaches_of_run inputs ran, found⟩

end Machine

end Lib
