import Mathlib.Algebra.BigOperators.Ring.Finset
import Mathlib.Data.Nat.BitIndices
import Mathlib.Data.Nat.Bitwise
import Mathlib.LinearAlgebra.Matrix.HadamardMatrix
import Mathlib.Tactic.Linarith
import Mathlib.Tactic.Ring

/-!
# Walsh functions

Two numbers meet with the sign that the parity of their common bits gives.  The signs are a
Hadamard matrix, and so a function of the rows is recovered from its sums with the signs.
-/

namespace Walsh

open Finset

/-- How many bits of a number are set. -/
def ones (number : Nat) : Nat := number.bitIndices.length

/-- The parity of the common bits, as a sign. -/
def sign (row col : Nat) : Int := (-1) ^ ones (row &&& col)

@[simp] theorem ones_zero : ones 0 = 0 := rfl

theorem ones_bit (bit : Bool) (number : Nat) :
    ones (Nat.bit bit number) = bit.toNat + ones number := by
  unfold ones
  cases bit with
  | false => rw [Nat.bitIndices_bit_false, List.length_map, Bool.toNat_false, zero_add]
  | true =>
      rw [Nat.bitIndices_bit_true, List.length_cons, List.length_map, Bool.toNat_true,
        add_comm]

theorem bit_testBit_zero (number : Nat) :
    Nat.bit (number.testBit 0) (number / 2) = number :=
  Nat.bit_testBit_zero_shiftRight_one number

theorem ones_eq (number : Nat) : ones number = number % 2 + ones (number / 2) := by
  conv_lhs => rw [← bit_testBit_zero number, ones_bit]
  rw [Nat.testBit_zero]
  rcases Nat.mod_two_eq_zero_or_one number with even | odd
  · simp [even]
  · simp [odd]

/-- The bits of a byte and of what is above it. -/
theorem ones_byte {byte : Nat} (bound : byte < 256) (rest : Nat) :
    ones (byte + 256 * rest) = byte % 2 + byte / 2 % 2 + byte / 4 % 2 + byte / 8 % 2 +
      byte / 16 % 2 + byte / 32 % 2 + byte / 64 % 2 + byte / 128 % 2 + ones rest := by
  have shift : (byte + 256 * rest) / 2 / 2 / 2 / 2 / 2 / 2 / 2 / 2 = rest := by omega
  rw [ones_eq, ones_eq (_ / 2), ones_eq (_ / 2 / 2), ones_eq (_ / 2 / 2 / 2),
    ones_eq (_ / 2 / 2 / 2 / 2), ones_eq (_ / 2 / 2 / 2 / 2 / 2),
    ones_eq (_ / 2 / 2 / 2 / 2 / 2 / 2), ones_eq (_ / 2 / 2 / 2 / 2 / 2 / 2 / 2), shift]
  omega

theorem sign_comm (row col : Nat) : sign row col = sign col row := by
  rw [sign, sign, Nat.and_comm]

@[simp] theorem sign_zero (row : Nat) : sign row 0 = 1 := by
  rw [sign, Nat.and_zero, ones_zero, pow_zero]

theorem sign_cases (row col : Nat) : sign row col = 1 ∨ sign row col = -1 :=
  neg_one_pow_eq_or Int (ones (row &&& col))

/-- The lowest bits count apart from the others. -/
theorem sign_bit (low : Bool) (row col : Nat) :
    sign (Nat.bit low row) col =
      (if low && col.testBit 0 then -1 else 1) * sign row (col / 2) := by
  conv_lhs => rw [← bit_testBit_zero col]
  rw [sign, Nat.land_bit, ones_bit, pow_add, sign]
  cases low <;> cases col.testBit 0 <;> simp

/-- Even and odd numbers in turn. -/
theorem sum_range_two_mul {M : Type*} [AddCommMonoid M] (term : Nat → M) (n : Nat) :
    ∑ x ∈ range (2 * n), term x =
      ∑ x ∈ range n, (term (Nat.bit false x) + term (Nat.bit true x)) := by
  induction n with
  | zero => rfl
  | succ n ih =>
      have even : Nat.bit false n = 2 * n := rfl
      have odd : Nat.bit true n = 2 * n + 1 := rfl
      rw [Nat.mul_succ, sum_range_succ, sum_range_succ, ih, sum_range_succ, even, odd,
        add_assoc]

/-- Different columns are orthogonal. -/
theorem sum_sign_mul_sign {k first second : Nat} (firstBound : first < 2 ^ k)
    (secondBound : second < 2 ^ k) :
    ∑ row ∈ range (2 ^ k), sign row first * sign row second =
      if first = second then 2 ^ k else 0 := by
  induction k generalizing first second with
  | zero =>
      obtain rfl := Nat.lt_one_iff.mp firstBound
      obtain rfl := Nat.lt_one_iff.mp secondBound
      rfl
  | succ k ih =>
      rw [Nat.pow_succ] at firstBound secondBound
      have firstHalf : first / 2 < 2 ^ k := by omega
      have secondHalf : second / 2 < 2 ^ k := by omega
      have pairs : ∀ row, sign (Nat.bit false row) first * sign (Nat.bit false row) second +
          sign (Nat.bit true row) first * sign (Nat.bit true row) second =
          (1 + (if first.testBit 0 then -1 else 1) * (if second.testBit 0 then -1 else 1)) *
            (sign row (first / 2) * sign row (second / 2)) := by
        intro row
        simp only [sign_bit, Bool.false_and, Bool.true_and, Bool.false_eq_true, if_false]
        ring
      rw [Nat.pow_succ', sum_range_two_mul, sum_congr rfl fun row _ => pairs row, ← mul_sum,
        ih firstHalf secondHalf]
      simp only [Nat.testBit_zero, decide_eq_true_eq]
      split_ifs <;> omega

/-- The signs as a matrix. -/
def matrix (k : Nat) : Matrix (Fin (2 ^ k)) (Fin (2 ^ k)) Int :=
  fun row col => sign row col

theorem isHadamard_matrix (k : Nat) : (matrix k).IsHadamard := by
  have product : matrix k * (matrix k).conjTranspose =
      (Fintype.card (Fin (2 ^ k)) : Int) • (1 : Matrix (Fin (2 ^ k)) (Fin (2 ^ k)) Int) := by
    ext first second
    have entries : ∑ row : Fin (2 ^ k), sign first row * sign second row =
        ∑ row ∈ range (2 ^ k), sign row first * sign row second := by
      rw [Finset.sum_range]
      exact sum_congr rfl fun row _ => by rw [sign_comm first, sign_comm second]
    rw [Matrix.mul_apply]
    simp only [Matrix.conjTranspose_apply, matrix, star_trivial]
    rw [entries, sum_sign_mul_sign first.isLt second.isLt, Matrix.smul_apply,
      Matrix.one_apply, Fintype.card_fin]
    by_cases same : first = second
    · simp [same]
    · simp [same, Fin.val_ne_of_ne same]
  apply Matrix.IsHadamard.of_mul_conjTranspose
  · intro row col
    exact Unitary.mem_iff_eq_one_or_eq_neg_one.mpr (sign_cases row col)
  · exact product
  · apply IsRegular.of_ne_zero
    simp

/-! ## The transform -/

section Transform

universe u

variable {R : Type u} [CommRing R] {k : Nat}

/-- The sum of a function of the rows with the signs of a column. -/
def transform (k : Nat) (term : Nat → R) (col : Nat) : R :=
  ∑ row ∈ range (2 ^ k), term row * (sign row col : R)

theorem transform_zero (k : Nat) (term : Nat → R) :
    transform k term 0 = ∑ row ∈ range (2 ^ k), term row :=
  sum_congr rfl fun row _ => by rw [sign_zero, Int.cast_one, mul_one]

/-- The signs of a row are orthogonal to those of another. -/
theorem sum_sign_mul_sign_cast {first second : Nat} (firstBound : first < 2 ^ k)
    (secondBound : second < 2 ^ k) :
    ∑ col ∈ range (2 ^ k), (sign first col : R) * sign second col =
      if first = second then ((2 ^ k : Nat) : R) else 0 := by
  have signs := sum_sign_mul_sign firstBound secondBound
  have cast : ((∑ col ∈ range (2 ^ k), sign col first * sign col second : Int) : R) =
      if first = second then ((2 ^ k : Nat) : R) else 0 := by
    rw [signs]
    split <;> simp
  rw [← cast, Int.cast_sum]
  exact sum_congr rfl fun col _ => by
    rw [Int.cast_mul, sign_comm first, sign_comm second]

/-- The function is recovered from its transform. -/
theorem sum_transform_mul_sign (term : Nat → R) {row : Nat} (bound : row < 2 ^ k) :
    ∑ col ∈ range (2 ^ k), transform k term col * (sign row col : R) =
      (2 ^ k : Nat) * term row := by
  calc
    ∑ col ∈ range (2 ^ k), transform k term col * (sign row col : R) =
        ∑ col ∈ range (2 ^ k), ∑ other ∈ range (2 ^ k),
          term other * ((sign other col : R) * sign row col) := by
      refine sum_congr rfl fun col _ => ?_
      rw [transform, sum_mul]
      exact sum_congr rfl fun other _ => mul_assoc _ _ _
    _ = ∑ other ∈ range (2 ^ k), term other *
          ∑ col ∈ range (2 ^ k), (sign other col : R) * sign row col := by
      rw [sum_comm]
      exact sum_congr rfl fun other _ => (mul_sum _ _ _).symm
    _ = ∑ other ∈ range (2 ^ k),
          term other * if other = row then ((2 ^ k : Nat) : R) else 0 :=
      sum_congr rfl fun other member => by
        rw [sum_sign_mul_sign_cast (mem_range.mp member) bound]
    _ = (2 ^ k : Nat) * term row := by
      simp [bound, mul_comm]

/-- The squares of the transform. -/
theorem sum_transform_sq (term : Nat → R) :
    ∑ col ∈ range (2 ^ k), transform k term col ^ 2 =
      (2 ^ k : Nat) * ∑ row ∈ range (2 ^ k), term row ^ 2 := by
  calc
    ∑ col ∈ range (2 ^ k), transform k term col ^ 2 =
        ∑ col ∈ range (2 ^ k), ∑ row ∈ range (2 ^ k),
          term row * (transform k term col * sign row col) := by
      refine sum_congr rfl fun col _ => ?_
      rw [sq]
      nth_rewrite 1 [transform]
      rw [sum_mul]
      exact sum_congr rfl fun row _ => by ring
    _ = ∑ row ∈ range (2 ^ k), term row *
          ∑ col ∈ range (2 ^ k), transform k term col * sign row col := by
      rw [sum_comm]
      exact sum_congr rfl fun row _ => (mul_sum _ _ _).symm
    _ = ∑ row ∈ range (2 ^ k), term row * ((2 ^ k : Nat) * term row) :=
      sum_congr rfl fun row member => by
        rw [sum_transform_mul_sign term (mem_range.mp member)]
    _ = (2 ^ k : Nat) * ∑ row ∈ range (2 ^ k), term row ^ 2 := by
      rw [mul_sum]
      exact sum_congr rfl fun row _ => by ring

theorem transform_add (term more : Nat → R) (col : Nat) :
    transform k (fun row => term row + more row) col =
      transform k term col + transform k more col := by
  unfold transform
  rw [← sum_add_distrib]
  exact sum_congr rfl fun row _ => add_mul _ _ _

theorem transform_sum {Item : Type*} (items : Finset Item) (term : Item → Nat → R)
    (col : Nat) :
    transform k (fun row => ∑ item ∈ items, term item row) col =
      ∑ item ∈ items, transform k (term item) col := by
  unfold transform
  rw [sum_comm]
  exact sum_congr rfl fun row _ => sum_mul _ _ _

theorem transform_mul_left (factor : R) (term : Nat → R) (col : Nat) :
    transform k (fun row => factor * term row) col = factor * transform k term col := by
  unfold transform
  rw [mul_sum]
  exact sum_congr rfl fun row _ => mul_assoc _ _ _

/-- The transform of a column. -/
theorem transform_sign {one col : Nat} (oneBound : one < 2 ^ k) (bound : col < 2 ^ k) :
    transform k (fun row => (sign row one : R)) col =
      if one = col then ((2 ^ k : Nat) : R) else 0 := by
  rw [← sum_sign_mul_sign_cast oneBound bound]
  refine sum_congr rfl fun row _ => ?_
  rw [sign_comm one, sign_comm col]

/-- A constant has no effects. -/
theorem transform_const (value : R) {col : Nat} (nonzero : 0 < col) (bound : col < 2 ^ k) :
    transform k (fun _ => value) col = 0 := by
  have constant : (fun _ : Nat => value) = fun row => value * (sign row 0 : R) := by
    funext row
    rw [sign_zero, Int.cast_one, mul_one]
  rw [constant, transform_mul_left, transform_sign (by positivity) bound, if_neg nonzero.ne,
    mul_zero]

/-- Small values have small effects: half of the rows count against the others. -/
theorem abs_transform_le [LinearOrder R] [IsStrictOrderedRing R] {term : Nat → R} {width : R}
    (nonneg : ∀ row, 0 ≤ term row) (bounded : ∀ row, term row ≤ width) {col : Nat}
    (nonzero : 0 < col) (bound : col < 2 ^ k) :
    2 * |transform k term col| ≤ (2 ^ k : Nat) * width := by
  have centred : 2 * transform k term col =
      transform k (fun row => 2 * term row + -width) col := by
    rw [transform_add, transform_mul_left, transform_const _ nonzero bound, add_zero]
  have term_le : ∀ row, |(2 * term row + -width) * (sign row col : R)| ≤ width := by
    intro row
    have size : |(sign row col : R)| = 1 := by
      obtain plus | minus := sign_cases row col
      · rw [plus, Int.cast_one, abs_one]
      · rw [minus, Int.cast_neg, Int.cast_one, abs_neg, abs_one]
    rw [abs_mul, size, mul_one, abs_le]
    have low := nonneg row
    have high := bounded row
    constructor <;> linarith
  calc
    2 * |transform k term col| = |2 * transform k term col| := by rw [abs_mul, abs_two]
    _ ≤ ∑ row ∈ range (2 ^ k), |(2 * term row + -width) * (sign row col : R)| := by
      rw [centred]
      exact abs_sum_le_sum_abs _ _
    _ ≤ ∑ row ∈ range (2 ^ k), width := sum_le_sum fun row _ => term_le row
    _ = (2 ^ k : Nat) * width := by rw [sum_const, card_range, nsmul_eq_mul]

end Transform

end Walsh
