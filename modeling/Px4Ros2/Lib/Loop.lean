import Mathlib.Order.Basic

/-! `while` loops that may run forever. -/

set_option autoImplicit false

namespace Lib

variable {State : Type}

/-- A loop that may go on for a number of rounds; `none` when it did not end by then. -/
def whileLoop (goesOn : State → Bool) (body : State → State) : Nat → State → Option State
  | 0, _ => none
  | rounds + 1, state =>
      if goesOn state then whileLoop goesOn body rounds (body state) else some state

variable {goesOn : State → Bool} {body : State → State} {rounds more : Nat}
  {start final : State}

/-- More rounds do not change the outcome. -/
theorem whileLoop_mono (ended : whileLoop goesOn body rounds start = some final)
    (le : rounds ≤ more) : whileLoop goesOn body more start = some final := by
  induction rounds generalizing start more with
  | zero => cases ended
  | succ rounds ih =>
      cases more with
      | zero => omega
      | succ more =>
          cases again : goesOn start with
          | true =>
              simp only [whileLoop, again, if_true] at ended ⊢
              exact ih ended (Nat.le_of_succ_le_succ le)
          | false =>
              simp only [whileLoop, again] at ended ⊢
              exact ended

/-- A loop over states that stand for others. -/
theorem whileLoop_map {Other : Type} {goesOn' : Other → Bool} {body' : Other → Other}
    (stands : State → Other) (goes : ∀ state, goesOn' (stands state) = goesOn state)
    (steps : ∀ state, body' (stands state) = stands (body state)) :
    whileLoop goesOn' body' rounds (stands start) =
      (whileLoop goesOn body rounds start).map stands := by
  induction rounds generalizing start with
  | zero => rfl
  | succ rounds ih =>
      cases again : goesOn start with
      | true => simpa [whileLoop, goes, steps, again] using ih
      | false => simp [whileLoop, goes, again]

/-- A loop with a measure ends. What its body keeps holds at the end. -/
theorem whileLoop_ends {invariant : State → Prop} (measure : State → Nat)
    (decreases : ∀ state, invariant state → goesOn state = true →
      measure (body state) < measure state)
    (keeps : ∀ state, invariant state → goesOn state = true → invariant (body state))
    (initial : invariant start) :
    ∃ rounds final, whileLoop goesOn body rounds start = some final ∧ invariant final ∧
      goesOn final = false := by
  induction bound : measure start using Nat.strongRecOn generalizing start with
  | ind bound ih =>
      cases again : goesOn start with
      | false => exact ⟨1, start, by simp [whileLoop, again], initial, again⟩
      | true =>
          have smaller := bound ▸ decreases start initial again
          obtain ⟨rounds, final, ended, kept, stops⟩ :=
            ih _ smaller (keeps start initial again) rfl
          exact ⟨rounds + 1, final, by simpa [whileLoop, again] using ended, kept, stops⟩

/-- A loop whose condition its own body keeps never ends. -/
theorem whileLoop_never {invariant : State → Prop}
    (goes : ∀ state, invariant state → goesOn state = true)
    (keeps : ∀ state, invariant state → invariant (body state)) (initial : invariant start) :
    whileLoop goesOn body rounds start = none := by
  induction rounds generalizing start with
  | zero => rfl
  | succ rounds ih =>
      simp only [whileLoop, goes start initial, if_true]
      exact ih (keeps start initial)

end Lib
