import Mathlib.Data.Nat.Bitwise
import Mathlib.Tactic.IntervalCases

/-!
# The sign matrix

The signs with which `factorial2kr.py` weighs the rows of its input.
-/

namespace AirTrafficControl.Results

/-- `Observations.parallel_swar`, the parity of a 32-bit integer. -/
def parallelSwar (number : Nat) : Nat :=
  let number := number - ((number >>> 1) &&& 0x55555555)
  let number := (number &&& 0x33333333) + ((number >>> 2) &&& 0x33333333)
  let number := (((number + (number >>> 4)) &&& 0x0F0F0F0F) * 0x01010101) >>> 24
  number % 2

/-- `Observations.sign_matrix`. -/
def signMatrix (k : Nat) : List (List Int) :=
  (List.range (2 ^ k)).map fun row =>
    (List.range (2 ^ k)).map fun col =>
      if parallelSwar (row &&& col) = 0 then 1 else -1

/-- A single bit has odd parity. -/
theorem parallelSwar_two_pow {bit : Nat} (bound : bit < 32) : parallelSwar (2 ^ bit) = 1 := by
  interval_cases bit <;> rfl

/-- The column of a single factor has the sign of its bit in the number of the row. -/
theorem signMatrix_two_pow {k row bit : Nat} (bound : k ≤ 32) (isRow : row < 2 ^ k)
    (isFactor : bit < k) :
    (signMatrix k)[row]?.bind (fun signs => signs[2 ^ bit]?) =
      some (if row.testBit bit then -1 else 1) := by
  have column : 2 ^ bit < 2 ^ k := Nat.pow_lt_pow_right one_lt_two isFactor
  rw [signMatrix, List.getElem?_map, List.getElem?_range isRow, Option.map_some,
    Option.bind_some, List.getElem?_map, List.getElem?_range column, Option.map_some,
    Nat.and_two_pow]
  cases row.testBit bit with
  | true =>
      have odd : parallelSwar (true.toNat * 2 ^ bit) = 1 := by
        rw [Bool.toNat_true, one_mul]
        exact parallelSwar_two_pow (isFactor.trans_le bound)
      rw [odd]
      rfl
  | false =>
      rw [Bool.toNat_false, zero_mul]
      rfl

end AirTrafficControl.Results
