import Mathlib.Data.Nat.Digits.Lemmas

/-! Numbers as bytes, the least significant byte first. -/

set_option autoImplicit false

namespace Lib

/-- The bytes of a number in a field of `width` bytes. -/
def littleEndian : Nat → Nat → List UInt8
  | 0, _ => []
  | width + 1, value => UInt8.ofNat value :: littleEndian width (value / 256)

def ofLittleEndian (bytes : List UInt8) : Nat := Nat.ofDigits 256 (bytes.map UInt8.toNat)

variable {width value other : Nat} {rest : List UInt8}

@[simp] theorem length_littleEndian : (littleEndian width value).length = width := by
  induction width generalizing value with
  | zero => rfl
  | succ width ih => simp [littleEndian, ih]

theorem ofLittleEndian_littleEndian (fits : value < 256 ^ width) :
    ofLittleEndian (littleEndian width value) = value := by
  induction width generalizing value with
  | zero =>
      obtain rfl : value = 0 := by simpa using fits
      rfl
  | succ width ih =>
      have quotient : value / 256 < 256 ^ width := by
        rw [Nat.div_lt_iff_lt_mul (by decide), ← Nat.pow_succ]
        exact fits
      have digits := ih quotient
      simp only [ofLittleEndian] at digits
      simp only [ofLittleEndian, littleEndian, List.map_cons, Nat.ofDigits_cons, digits,
        UInt8.toNat_ofNat']
      omega

/-- What is read from a field fits the field. -/
theorem ofLittleEndian_lt (bytes : List UInt8) (width : Nat) :
    ofLittleEndian (bytes.take width) < 256 ^ width := by
  have digits : ∀ digit ∈ (bytes.take width).map UInt8.toNat, digit < 256 := by
    intro digit member
    obtain ⟨byte, -, rfl⟩ := List.mem_map.mp member
    exact byte.toNat_lt
  have bound := Nat.ofDigits_lt_base_pow_length (by decide) digits
  refine Nat.lt_of_lt_of_le bound (Nat.pow_le_pow_right (by decide) ?_)
  simp

/-- A field at the front of a buffer is read back. -/
theorem ofLittleEndian_take (fits : value < 256 ^ width) :
    ofLittleEndian ((littleEndian width value ++ rest).take width) = value := by
  rw [List.take_append_of_le_length (by simp), List.take_of_length_le (by simp)]
  exact ofLittleEndian_littleEndian fits

theorem littleEndian_drop : (littleEndian width value ++ rest).drop width = rest := by
  rw [List.drop_append_of_le_length (by simp), List.drop_of_length_le (by simp), List.nil_append]

end Lib
