import Mathlib.Data.List.Basic
import Mathlib.Data.Option.Basic

/-! A request that is repeated until a message answers it. Messages come from a broadcast, so that
most of them answer nothing. -/

set_option autoImplicit false

namespace Lib

/-- How one wait for a message ends. -/
inductive Wait (Message : Type) where
  | taken (message : Message)
  /-- The subscription is ready, and nothing can be taken from it. -/
  | notTaken
  | notReady
deriving DecidableEq, Repr

def Wait.message? {Message : Type} : Wait Message → Option Message
  | .taken message => some message
  | .notTaken => none
  | .notReady => none

namespace Retry

variable {Message Answer : Type}

/-- The messages that can be taken during some waits. -/
def messages (waits : List (Wait Message)) : List Message := waits.filterMap Wait.message?

structure Exchange (Message Answer : Type) where
  answer : Option Answer := none
  /-- How often the request was published. -/
  requests : Nat := 0
  taken : List Message := []
deriving DecidableEq, Repr

/-- One attempt, over the waits that end before its timeout. -/
def await (accepts : Message → Option Answer) : List (Wait Message) → Exchange Message Answer
  | [] => {}
  | .taken message :: waits =>
      match accepts message with
      | some answer => { answer := some answer, taken := [message] }
      | none =>
          let exchange := await accepts waits
          { exchange with taken := message :: exchange.taken }
  | .notTaken :: waits => await accepts waits
  | .notReady :: waits => await accepts waits

/-- The attempts, with the number of them that is left. Each publishes the request once. -/
def run (accepts : Message → Option Answer) :
    Nat → List (List (Wait Message)) → Exchange Message Answer
  | 0, _ => {}
  | retries + 1, attempts =>
      let first := await accepts (attempts.headD [])
      if first.answer.isSome then { first with requests := 1 }
      else
        let rest := run accepts retries attempts.tail
        { rest with requests := rest.requests + 1, taken := first.taken ++ rest.taken }

section StopsAtFirst

variable {accepts : Message → Option Answer} {offered later : List Message}
  {exchange next : Exchange Message Answer}

/-- The answer is that of the first message that gives one, and nothing is taken after it. -/
structure StopsAtFirst (accepts : Message → Option Answer) (offered : List Message)
    (exchange : Exchange Message Answer) : Prop where
  taken : exchange.taken <+: offered
  answer : exchange.answer = exchange.taken.findSome? accepts
  first : exchange.answer = offered.findSome? accepts
  all : exchange.answer = none → exchange.taken = offered
  only : ∀ message ∈ exchange.taken, accepts message = none ∨ accepts message = exchange.answer

theorem StopsAtFirst.nothing : StopsAtFirst accepts [] {} :=
  ⟨List.prefix_rfl, rfl, rfl, fun _ => rfl, by simp⟩

/-- What is offered after the answer has no effect. -/
theorem StopsAtFirst.stop (here : StopsAtFirst accepts offered exchange)
    (answered : exchange.answer.isSome = true) (later : List Message) (requests : Nat) :
    StopsAtFirst accepts (offered ++ later) { exchange with requests } := by
  obtain ⟨answer, given⟩ := Option.isSome_iff_exists.mp answered
  refine ⟨here.taken.trans (List.prefix_append _ _), here.answer, ?_, ?_, here.only⟩
  · rw [List.findSome?_append, ← here.first]
    simp only [given, Option.some_or]
  · intro unanswered
    simp only [given] at unanswered
    cases unanswered

/-- An attempt without an answer is followed by the next one. -/
theorem StopsAtFirst.again (here : StopsAtFirst accepts offered exchange)
    (unanswered : exchange.answer = none) (there : StopsAtFirst accepts later next)
    (requests : Nat) :
    StopsAtFirst accepts (offered ++ later)
      { next with requests, taken := exchange.taken ++ next.taken } := by
  have nothing : exchange.taken.findSome? accepts = none := by rw [← here.answer, unanswered]
  constructor
  · rw [here.all unanswered]
    exact (List.prefix_append_right_inj offered).mpr there.taken
  · rw [List.findSome?_append, nothing, Option.none_or, there.answer]
  · rw [List.findSome?_append, ← here.first, unanswered, Option.none_or, there.first]
  · intro unansweredThere
    rw [here.all unanswered, there.all unansweredThere]
  · intro message member
    rcases List.mem_append.mp member with early | late
    · exact .inl (List.findSome?_eq_none_iff.mp nothing message early)
    · exact there.only message late

theorem await_stopsAtFirst (waits : List (Wait Message)) :
    StopsAtFirst accepts (messages waits) (await accepts waits) := by
  induction waits with
  | nil => exact .nothing
  | cons wait waits ih =>
      cases wait with
      | notTaken => exact ih
      | notReady => exact ih
      | taken message =>
          have offered : messages (.taken message :: waits) = message :: messages waits := rfl
          rw [offered, await]
          cases result : accepts message with
          | some answer =>
              exact ⟨by simp, by simp [result], by simp [result], by simp, by simp [result]⟩
          | none =>
              exact ⟨List.cons_prefix_cons.mpr ⟨rfl, ih.taken⟩,
                by simpa [result] using ih.answer, by simpa [result] using ih.first,
                by simpa using ih.all, by simpa [result] using ih.only⟩

theorem run_stopsAtFirst (accepts : Message → Option Answer) (retries : Nat)
    (attempts : List (List (Wait Message))) :
    StopsAtFirst accepts (messages (attempts.take retries).flatten)
      (run accepts retries attempts) := by
  induction retries generalizing attempts with
  | zero => exact .nothing
  | succ retries ih =>
      have offered : messages (attempts.take (retries + 1)).flatten =
          messages (attempts.headD []) ++ messages (attempts.tail.take retries).flatten := by
        cases attempts <;> simp [messages]
      have here : StopsAtFirst accepts _ _ := await_stopsAtFirst (attempts.headD [])
      rw [offered, run]
      simp only
      split
      · rename_i answered
        exact here.stop answered _ _
      · rename_i unanswered
        exact here.again (Option.not_isSome_iff_eq_none.mp unanswered) (ih attempts.tail) _

theorem run_requests_le (accepts : Message → Option Answer) (retries : Nat)
    (attempts : List (List (Wait Message))) : (run accepts retries attempts).requests ≤ retries := by
  induction retries generalizing attempts with
  | zero => exact Nat.le_refl 0
  | succ retries ih =>
      rw [run]
      simp only
      split
      · exact Nat.le_add_left 1 retries
      · exact Nat.succ_le_succ (ih attempts.tail)

/-- The first attempt is always made. -/
theorem run_requests_pos (accepts : Message → Option Answer) (retries : Nat)
    (attempts : List (List (Wait Message))) :
    0 < (run accepts (retries + 1) attempts).requests := by
  rw [run]
  simp only
  split <;> simp

end StopsAtFirst

end Retry

end Lib
