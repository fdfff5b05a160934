import Mathlib.Algebra.Ring.Int.Defs

/-!
# Sums of signed words

A sum or a difference of signed words is that of their values, as long as it stays in the
range of a word.
-/

namespace Turnstile

set_option autoImplicit false

theorem toInt_add_of_fits (first second : Int64) (lower : -2 ^ 63 ≤ first.toInt + second.toInt)
    (upper : first.toInt + second.toInt < 2 ^ 63) :
    (first + second).toInt = first.toInt + second.toInt := by
  rw [Int64.toInt_add]
  apply Int.bmod_eq_of_le <;> omega

theorem toInt_sub_of_fits (first second : Int64) (lower : -2 ^ 63 ≤ first.toInt - second.toInt)
    (upper : first.toInt - second.toInt < 2 ^ 63) :
    (first - second).toInt = first.toInt - second.toInt := by
  rw [Int64.toInt_sub]
  apply Int.bmod_eq_of_le <;> omega

theorem toInt_add_one (word : Int64) (below : word.toInt < 2 ^ 63 - 1) :
    (word + 1).toInt = word.toInt + 1 := by
  have lower := word.le_toInt
  exact toInt_add_of_fits word 1 (by rw [Int64.toInt_one]; omega) (by rw [Int64.toInt_one]; omega)

theorem toInt_sub_one (word : Int64) (above : -2 ^ 63 < word.toInt) :
    (word - 1).toInt = word.toInt - 1 := by
  have upper := word.toInt_lt
  exact toInt_sub_of_fits word 1 (by rw [Int64.toInt_one]; omega) (by rw [Int64.toInt_one]; omega)

end Turnstile
