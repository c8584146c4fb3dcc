import Mathlib.Algebra.Order.BigOperators.Group.List
import Mathlib.Algebra.Order.Field.Basic
import Mathlib.Data.Nat.Cast.Order.Ring
import Mathlib.Tactic.FieldSimp
import Mathlib.Tactic.Linarith

/-!
# Effective sample size

How many independent samples are worth as much as a sample with a given autocorrelation.
-/

namespace EffectiveSize

universe u

variable {K : Type u} [Field K] [LinearOrder K]

/-- A lag counts by the part of the sample that it leaves. -/
def weighted (n : Nat) (rho : Nat → K) (k : Nat) : K := ((n : K) - k) / n * |rho k|

/-- The lags of a sample from the first one on that is to count. -/
def lagSum (n : Nat) (rho : Nat → K) (first : Nat) : K :=
  ((List.range' first (n - first)).map (weighted n rho)).sum

/-- The effective size counts the positive lags.  A sample is worth at most its size, and
that only if it is not correlated. -/
structure Estimates (n : Nat) (rho : Nat → K) (size : K) : Prop where
  estimator : size = n / (1 + 2 * lagSum n rho 1)
  positive : 0 < size
  le : size ≤ n
  full : size = n ↔ ∀ k, 1 ≤ k → k < n → rho k = 0

variable [IsStrictOrderedRing K] {n : Nat} {rho : Nat → K}

theorem weighted_nonneg {k : Nat} (bound : k ≤ n) (rho : Nat → K) : 0 ≤ weighted n rho k := by
  have left : (0 : K) ≤ (n : K) - k := sub_nonneg.mpr (Nat.cast_le.mpr bound)
  exact mul_nonneg (div_nonneg left n.cast_nonneg) (abs_nonneg _)

theorem weighted_eq_zero_iff {k : Nat} (bound : k < n) : weighted n rho k = 0 ↔ rho k = 0 := by
  have left : (n : K) - k ≠ 0 := (sub_pos.mpr (Nat.cast_lt.mpr bound)).ne'
  have whole : (n : K) ≠ 0 := Nat.cast_ne_zero.mpr (Nat.zero_lt_of_lt bound).ne'
  rw [weighted, mul_eq_zero, abs_eq_zero, or_iff_right (div_ne_zero left whole)]

theorem lagSum_nonneg (first : Nat) : 0 ≤ lagSum n rho first := by
  apply List.sum_nonneg
  intro term member
  obtain ⟨k, isLag, rfl⟩ := List.mem_map.mp member
  have bounds := List.mem_range'_1.mp isLag
  exact weighted_nonneg (by omega) rho

theorem lagSum_eq_zero_iff (first : Nat) :
    lagSum n rho first = 0 ↔ ∀ k, first ≤ k → k < n → rho k = 0 := by
  have isLag : ∀ {k}, k ∈ List.range' first (n - first) ↔ first ≤ k ∧ k < n := by
    intro k
    rw [List.mem_range'_1]
    omega
  constructor
  · intro none k late early
    apply (weighted_eq_zero_iff early).mp
    refine List.all_zero_of_le_zero_le_of_sum_eq_zero ?_ none
      (List.mem_map_of_mem (isLag.mpr ⟨late, early⟩))
    intro term member
    obtain ⟨other, isOther, rfl⟩ := List.mem_map.mp member
    exact weighted_nonneg (isLag.mp isOther).2.le rho
  · intro uncorrelated
    apply List.sum_eq_zero
    intro term member
    obtain ⟨k, isOther, rfl⟩ := List.mem_map.mp member
    obtain ⟨late, early⟩ := isLag.mp isOther
    exact (weighted_eq_zero_iff early).mpr (uncorrelated k late early)

/-- The lag zero counts in full. -/
theorem lagSum_zero (some : 0 < n) : lagSum n rho 0 = |rho 0| + lagSum n rho 1 := by
  have whole : (n : K) ≠ 0 := Nat.cast_ne_zero.mpr some.ne'
  have first : weighted n rho 0 = |rho 0| := by
    rw [weighted, Nat.cast_zero, sub_zero, div_self whole, one_mul]
  obtain ⟨m, rfl⟩ := Nat.exists_eq_succ_of_ne_zero some.ne'
  rw [lagSum, Nat.sub_zero, List.range'_succ, List.map_cons, List.sum_cons, first]
  rfl

/-- The other properties follow from the formula. -/
theorem estimates_iff (some : 0 < n) {size : K} :
    Estimates n rho size ↔ size = n / (1 + 2 * lagSum n rho 1) := by
  refine ⟨Estimates.estimator, ?_⟩
  rintro rfl
  have whole : (0 : K) < n := Nat.cast_pos.mpr some
  have lags : 0 ≤ lagSum n rho 1 := lagSum_nonneg 1
  have divisor : 0 < 1 + 2 * lagSum n rho 1 := by linarith
  refine ⟨rfl, div_pos whole divisor, div_le_self whole.le (by linarith), ?_⟩
  rw [← lagSum_eq_zero_iff 1, div_eq_iff divisor.ne', left_eq_mul₀ whole.ne']
  constructor
  · intro full
    linarith
  · intro none
    rw [none, mul_zero, add_zero]

/-- Counting lags in excess, which cannot be negative, makes the size smaller. -/
theorem not_estimates (some : 0 < n) {excess : K} (positive : 0 < excess) :
    ¬Estimates n rho (n / (1 + 2 * (excess + lagSum n rho 1))) := by
  rw [estimates_iff some]
  have whole : (0 : K) < n := Nat.cast_pos.mpr some
  have lags : 0 ≤ lagSum n rho 1 := lagSum_nonneg 1
  exact (div_lt_div_of_pos_left whole (by linarith) (by linarith)).ne

end EffectiveSize
