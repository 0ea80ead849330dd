import Px4Ros2.Lib.Loop
import Mathlib.Algebra.Order.ToIntervalMod
import Mathlib.Algebra.Order.Floor.Ring
import Mathlib.Tactic.FieldSimp
import Mathlib.Tactic.Linarith

/-! Loops that take a number into an interval, one period after the other. -/

set_option autoImplicit false

namespace Lib

variable {Number : Type} [Field Number] [LinearOrder Number]

/-- Down to below the end of the interval, and then up to its start. -/
def wrapLoops (low period : Number) (rounds : Nat) (value : Number) : Option Number := do
  let value ← whileLoop (fun value => decide (low + period ≤ value)) (· - period) rounds value
  whileLoop (fun value => decide (value < low)) (· + period) rounds value

variable [IsStrictOrderedRing Number] [FloorRing Number] {low period : Number}
  (positive : 0 < period)

theorem toNat_floor_sub_one {quotient : Number} (one : 1 ≤ quotient) :
    ⌊quotient - 1⌋.toNat < ⌊quotient⌋.toNat := by
  have floor : (1 : ℤ) ≤ ⌊quotient⌋ := Int.le_floor.mpr (by exact_mod_cast one)
  rw [Int.floor_sub_one]
  omega

include positive

/-- The first loop ends below the end of the interval. -/
theorem downLoop_ends (low start : Number) :
    ∃ rounds value, whileLoop (fun value => decide (low + period ≤ value)) (· - period) rounds
        start = some value ∧
      toIcoMod positive low value = toIcoMod positive low start ∧ value < low + period := by
  have decreases : ∀ value, toIcoMod positive low value = toIcoMod positive low start →
      decide (low + period ≤ value) = true →
      ⌊(value - period - low) / period⌋.toNat < ⌊(value - low) / period⌋.toNat := by
    intro value _ goes
    have above : low + period ≤ value := of_decide_eq_true goes
    have one : 1 ≤ (value - low) / period := by
      rw [le_div_iff₀ positive]
      linarith
    have less : (value - period - low) / period = (value - low) / period - 1 := by
      field_simp
      ring
    rw [less]
    exact toNat_floor_sub_one one
  obtain ⟨rounds, final, ended, same, stops⟩ :=
    whileLoop_ends (fun value => ⌊(value - low) / period⌋.toNat) decreases
      (fun value same _ => (toIcoMod_sub positive low value).trans same) rfl
  exact ⟨rounds, final, ended, same, not_le.mp (of_decide_eq_false stops)⟩

/-- The second loop stays below the end of the interval. -/
theorem upLoop_ends {start : Number} (below : start < low + period) :
    ∃ rounds, whileLoop (fun value => decide (value < low)) (· + period) rounds start =
      some (toIcoMod positive low start) := by
  have decreases : ∀ value,
      toIcoMod positive low value = toIcoMod positive low start ∧ value < low + period →
      decide (value < low) = true →
      ⌊(low + period - (value + period)) / period⌋.toNat <
        ⌊(low + period - value) / period⌋.toNat := by
    intro value _ goes
    have under : value < low := of_decide_eq_true goes
    have one : 1 ≤ (low + period - value) / period := by
      rw [le_div_iff₀ positive]
      linarith
    have less : (low + period - (value + period)) / period =
        (low + period - value) / period - 1 := by
      field_simp
      ring
    rw [less]
    exact toNat_floor_sub_one one
  have keeps : ∀ value,
      toIcoMod positive low value = toIcoMod positive low start ∧ value < low + period →
      decide (value < low) = true →
      toIcoMod positive low (value + period) = toIcoMod positive low start ∧
        value + period < low + period := by
    intro value kept goes
    have under : value < low := of_decide_eq_true goes
    exact ⟨(toIcoMod_add_right positive low value).trans kept.1, by linarith⟩
  obtain ⟨rounds, final, ended, ⟨same, under⟩, stops⟩ :=
    whileLoop_ends (fun value => ⌊(low + period - value) / period⌋.toNat) decreases keeps
      ⟨rfl, below⟩
  have self : toIcoMod positive low final = final :=
    (toIcoMod_eq_self positive).mpr ⟨not_lt.mp (of_decide_eq_false stops), under⟩
  exact ⟨rounds, by rw [ended, ← same, self]⟩

/-- Both loops end, with the number of the interval that differs by whole periods. -/
theorem wrapLoops_ends (value : Number) :
    ∃ rounds, wrapLoops low period rounds value = some (toIcoMod positive low value) := by
  obtain ⟨first, middle, ended, same, below⟩ := downLoop_ends positive low value
  obtain ⟨second, ended'⟩ := upLoop_ends positive below
  refine ⟨max first second, ?_⟩
  unfold wrapLoops
  rw [whileLoop_mono ended (le_max_left _ _), ← same]
  exact whileLoop_mono ended' (le_max_right _ _)

end Lib
