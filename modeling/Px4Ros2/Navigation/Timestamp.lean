import Px4Ros2.Lib.Binary64

/-! The time of a sample, from nanoseconds to the microseconds of a message. -/

set_option autoImplicit false

namespace Px4Ros2

open Lib

/-- The double `1e-3`, in units of `2 ^ (-60)`. -/
def milli : Nat := 1152921504606847

/-- The integral part of `nanoseconds() * 1e-3`, without the sign. -/
def truncatedMicroseconds (nanoseconds : Nat) : Nat :=
  Binary64.round (Binary64.round nanoseconds * milli) / 2 ^ 60

/-- `nanoseconds() * 1e-3` as an unsigned number, which is undefined where it would be negative. -/
def microseconds (nanoseconds : Int64) : Option UInt64 :=
  let truncated := truncatedMicroseconds nanoseconds.toInt.natAbs
  if 0 ≤ nanoseconds.toInt then some (.ofNat truncated)
  else if truncated = 0 then some 0 else none

variable {nanoseconds : Nat}

theorem truncatedMicroseconds_eq_zero_iff :
    truncatedMicroseconds nanoseconds = 0 ↔ nanoseconds < 1000 := by
  have positive : 0 < 2 ^ 60 := Nat.two_pow_pos 60
  rw [truncatedMicroseconds, Nat.div_eq_zero_iff_lt positive]
  constructor
  · intro zero
    by_contra late
    have least : 1000 ≤ Binary64.round nanoseconds := by
      by_cases small : nanoseconds < 2 ^ 53
      · rw [Binary64.round_of_lt small]
        omega
      · have large := Binary64.two_pow_le_round (n := nanoseconds) (k := 53) (by omega)
        omega
    have one : 2 ^ 60 ≤ Binary64.round nanoseconds * milli := by
      unfold milli
      omega
    have atLeast := Binary64.two_pow_le_round one
    omega
  · intro early
    have near := (Binary64.round_near (nanoseconds * milli)).2
    have exact : Binary64.round nanoseconds = nanoseconds := Binary64.round_of_lt (by omega)
    rw [exact]
    unfold milli at near ⊢
    omega

/-- The conversion cuts off less than a microsecond and rounds in the 51st bit. -/
theorem truncatedMicroseconds_near (nanoseconds : Nat) :
    2 ^ 51 * (1000 * truncatedMicroseconds nanoseconds) ≤ (2 ^ 51 + 1) * nanoseconds ∧
      (2 ^ 51 - 1) * nanoseconds <
        2 ^ 51 * (1000 * (truncatedMicroseconds nanoseconds + 1)) := by
  obtain ⟨low, high⟩ := Binary64.round_near nanoseconds
  obtain ⟨low', high'⟩ := Binary64.round_near (Binary64.round nanoseconds * milli)
  have whole := Nat.div_add_mod (Binary64.round (Binary64.round nanoseconds * milli)) (2 ^ 60)
  have below := Nat.mod_lt (Binary64.round (Binary64.round nanoseconds * milli))
    (Nat.two_pow_pos 60)
  change 2 ^ 60 * truncatedMicroseconds nanoseconds + _ = _ at whole
  unfold milli at *
  omega

theorem truncatedMicroseconds_lt (inRange : nanoseconds ≤ 2 ^ 63) :
    truncatedMicroseconds nanoseconds < 2 ^ 64 := by
  have near := (truncatedMicroseconds_near nanoseconds).1
  omega

theorem natAbs_toInt_le (nanoseconds : Int64) : nanoseconds.toInt.natAbs ≤ 2 ^ 63 := by
  have least := nanoseconds.le_toInt
  have most := nanoseconds.toInt_lt
  omega

/-- A time in microseconds stands for one in nanoseconds, up to the one that is cut off and to the
rounding of the conversion. -/
structure SameTime (nanoseconds : Int64) (timestampSample : UInt64) : Prop where
  most : 2 ^ 51 * (1000 * timestampSample.toNat) ≤ (2 ^ 51 + 1) * nanoseconds.toInt.natAbs
  least : (2 ^ 51 - 1) * nanoseconds.toInt.natAbs <
    2 ^ 51 * (1000 * (timestampSample.toNat + 1))

theorem sameTime_of_microseconds {nanoseconds : Int64} {timestampSample : UInt64}
    (converted : microseconds nanoseconds = some timestampSample) :
    SameTime nanoseconds timestampSample := by
  obtain ⟨most, least⟩ := truncatedMicroseconds_near nanoseconds.toInt.natAbs
  have small := truncatedMicroseconds_lt (natAbs_toInt_le nanoseconds)
  have same : timestampSample.toNat = truncatedMicroseconds nanoseconds.toInt.natAbs := by
    simp only [microseconds] at converted
    split at converted
    · obtain rfl := Option.some.inj converted
      exact UInt64.toNat_ofNat_of_lt' small
    · split at converted
      · rename_i zero
        obtain rfl := Option.some.inj converted
        exact zero.symm
      · cases converted
  exact ⟨same ▸ most, same ▸ least⟩

/-- A sample from a microsecond on has a time other than zero. -/
theorem microseconds_iff {nanoseconds : Int64} :
    (∃ timestampSample, microseconds nanoseconds = some timestampSample ∧ timestampSample ≠ 0) ↔
      1000 ≤ nanoseconds.toInt := by
  have small := truncatedMicroseconds_lt (natAbs_toInt_le nanoseconds)
  have zero := @truncatedMicroseconds_eq_zero_iff nanoseconds.toInt.natAbs
  unfold microseconds
  by_cases early : nanoseconds.toInt < 0
  · rw [if_neg (by omega)]
    refine ⟨?_, fun late => by omega⟩
    rintro ⟨timestampSample, converted, nonzero⟩
    split at converted
    · exact absurd (Option.some.inj converted).symm nonzero
    · cases converted
  · simp only [not_lt.mp early, if_true, Option.some.injEq, exists_eq_left']
    rw [ne_eq, ← UInt64.toNat_inj, UInt64.toNat_ofNat_of_lt' small, UInt64.toNat_zero, zero]
    omega

/-- The conversion is defined from less than a microsecond before the epoch on. -/
theorem isSome_microseconds {nanoseconds : Int64} :
    (microseconds nanoseconds).isSome = true ↔ -1000 < nanoseconds.toInt := by
  have zero := @truncatedMicroseconds_eq_zero_iff nanoseconds.toInt.natAbs
  by_cases early : nanoseconds.toInt < 0
  · by_cases small : nanoseconds.toInt.natAbs < 1000
    · simp only [microseconds, if_neg (not_le.mpr early), if_pos (zero.mpr small),
        Option.isSome_some, true_iff]
      omega
    · simp only [microseconds, if_neg (not_le.mpr early), if_neg (mt zero.mp small),
        Option.isSome_none, Bool.false_eq_true, false_iff]
      omega
  · simp only [microseconds, if_pos (not_lt.mp early), Option.isSome_some, true_iff]
    omega

end Px4Ros2
