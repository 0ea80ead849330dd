import Mathlib.Data.List.Basic

/-! Parties that act in any order. An action that a party cannot take in a state has no next
state, so that a run is a list of actions in the order in which they happened. -/

set_option autoImplicit false

namespace Lib

structure System (State Action : Type) where
  step : State → Action → Option State

namespace System

variable {State Action : Type}

def run (system : System State Action) (state : State) : List Action → Option State
  | [] => some state
  | action :: actions => (system.step state action).bind fun next => system.run next actions

variable {system : System State Action} {start state next : State} {action : Action}
  {actions more : List Action} {invariant : State → Prop}

@[simp] theorem run_nil : system.run state [] = some state := rfl

variable {internal : Action → Prop} {measure : State → Nat}

end System

end Lib
