import Mathlib.Data.List.TakeWhile
import Mathlib.Data.UInt

/-! Zero-terminated strings, and character arrays of a fixed size that hold them. -/

set_option autoImplicit false

namespace Lib

/-- The characters before the first zero. -/
def cString (text : List UInt8) : List UInt8 := text.takeWhile (· != 0)

theorem length_cString_le (text : List UInt8) : (cString text).length ≤ text.length :=
  (List.takeWhile_prefix _).length_le

theorem cString_no_zero {text : List UInt8} {character : UInt8} (member : character ∈ cString text) :
    character ≠ 0 := by
  simpa using List.mem_takeWhile_imp member

theorem cString_of_no_zero {text : List UInt8} (noZero : ∀ character ∈ text, character ≠ 0) :
    cString text = text :=
  List.takeWhile_eq_self_iff.mpr (by simpa using noZero)

/-- What follows the terminator is not read. -/
theorem cString_append_zero (text rest : List UInt8) :
    cString (cString text ++ 0 :: rest) = cString text := by
  have whole : ∀ character ∈ cString text, (character != 0) = true := by
    intro character member
    simpa using cString_no_zero member
  rw [cString, List.takeWhile_append_of_pos whole]
  simp

/-- A zero that is written behind the text does not change it. -/
theorem cString_set_zero {bytes : List UInt8} {index : Nat}
    (behind : (cString bytes).length ≤ index) : cString (bytes.set index 0) = cString bytes := by
  induction bytes generalizing index with
  | nil => rfl
  | cons first rest ih =>
      by_cases zero : first = 0
      · cases index <;> simp [cString, zero]
      · cases index with
        | zero => simp [cString, zero] at behind
        | succ index =>
            have tail : (cString rest).length ≤ index := by
              simpa [cString, zero] using behind
            simpa [cString, zero] using ih tail

structure CharArray (size : Nat) where
  bytes : List UInt8
  length_bytes : bytes.length = size
deriving DecidableEq, Repr

namespace CharArray

variable {size : Nat}

def zeros (size : Nat) : CharArray size := ⟨List.replicate size 0, List.length_replicate⟩

def text (array : CharArray size) : List UInt8 := cString array.bytes

/-- `strcpy` of a string that fits: the characters after its terminator stay. -/
def strcpy (array : CharArray size) (source : List UInt8) (fits : (cString source).length < size) :
    CharArray size :=
  ⟨cString source ++ 0 :: array.bytes.drop ((cString source).length + 1), by
    simp only [List.length_append, List.length_cons, List.length_drop, array.length_bytes]
    omega⟩

/-- `strncpy`: at most so many characters, and zeros up to that number. -/
def strncpy (array : CharArray size) (source : List UInt8) (count : Nat) (fits : count ≤ size) :
    CharArray size :=
  ⟨(cString source).take count ++ List.replicate (count - (cString source).length) 0 ++
      array.bytes.drop count, by
    simp only [List.length_append, List.length_take, List.length_replicate, List.length_drop,
      array.length_bytes]
    omega⟩

/-- `array.back() = 0`. -/
def terminate (array : CharArray size) : CharArray size :=
  ⟨array.bytes.set (size - 1) 0, by rw [List.length_set, array.length_bytes]⟩

theorem bytes_strncpy (array : CharArray size) (source : List UInt8) (count : Nat)
    (fits : count ≤ size) :
    (array.strncpy source count fits).bytes = (cString source).take count ++
      List.replicate (count - (cString source).length) 0 ++ array.bytes.drop count := rfl

theorem bytes_terminate (array : CharArray size) :
    array.terminate.bytes = array.bytes.set (size - 1) 0 := rfl

@[simp] theorem text_strcpy (array : CharArray size) (source : List UInt8)
    (fits : (cString source).length < size) :
    (array.strcpy source fits).text = cString source :=
  cString_append_zero source _

theorem length_text_terminate_lt (array : CharArray size) (nonempty : 0 < size) :
    array.terminate.text.length < size := by
  have index : size - 1 < array.terminate.bytes.length := by
    rw [array.terminate.length_bytes]; omega
  have last : array.terminate.bytes[size - 1] = 0 := by
    simp [terminate]
  have short := length_cString_le array.terminate.bytes
  rw [array.terminate.length_bytes] at short
  rcases Nat.lt_or_eq_of_le short with less | whole
  · exact less
  · have all : cString array.terminate.bytes = array.terminate.bytes :=
      (List.takeWhile_prefix _).eq_of_length (by rw [array.terminate.length_bytes]; exact whole)
    have member : (0 : UInt8) ∈ cString array.terminate.bytes := by
      rw [all, ← last]
      exact List.getElem_mem index
    exact absurd rfl (cString_no_zero member)

/-- Nothing changes for an array that holds a terminator. -/
theorem text_terminate {array : CharArray size} (terminated : array.text.length < size) :
    array.terminate.text = array.text :=
  cString_set_zero (by unfold text at terminated; omega)

/-- A string that is too long loses its end. -/
theorem text_terminate_strncpy (array : CharArray size) (source : List UInt8) (nonempty : 0 < size) :
    (array.strncpy source (size - 1) (Nat.sub_le size 1)).terminate.text =
      (cString source).take (size - 1) := by
  have noZero : ∀ character ∈ (cString source).take (size - 1), character ≠ 0 :=
    fun _ member => cString_no_zero (List.mem_of_mem_take member)
  by_cases short : (cString source).length < size - 1
  · have zeros : size - 1 - (cString source).length =
        size - 1 - (cString source).length - 1 + 1 := by omega
    have text : (array.strncpy source (size - 1) (Nat.sub_le size 1)).text = cString source := by
      rw [CharArray.text, bytes_strncpy, List.take_of_length_le (Nat.le_of_lt short), zeros,
        List.replicate_succ, List.append_assoc, List.cons_append]
      exact cString_append_zero source _
    rw [text_terminate (by rw [text]; omega), text, List.take_of_length_le (Nat.le_of_lt short)]
  · have length : ((cString source).take (size - 1)).length = size - 1 := by
      rw [List.length_take]; omega
    have last : (array.bytes.drop (size - 1)).length = 1 := by
      rw [List.length_drop, array.length_bytes]; omega
    obtain ⟨character, one⟩ := List.length_eq_one_iff.mp last
    have none_left : size - 1 - (cString source).length = 0 := by omega
    rw [CharArray.text, bytes_terminate, bytes_strncpy, none_left, List.replicate_zero,
      List.append_nil, one]
    rw [List.set_append_right _ _ (by omega), length, Nat.sub_self, List.set_cons_zero]
    have ended := cString_append_zero ((cString source).take (size - 1)) []
    rwa [cString_of_no_zero noZero] at ended

end CharArray

end Lib
