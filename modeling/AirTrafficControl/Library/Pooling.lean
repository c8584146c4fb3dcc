import Mathlib.Algebra.BigOperators.Group.List.Basic
import Mathlib.Algebra.BigOperators.Ring.List
import Mathlib.Algebra.Field.Basic
import Mathlib.Algebra.Order.BigOperators.Group.List
import Mathlib.Algebra.Order.Field.Basic
import Mathlib.Data.Nat.Cast.Basic
import Mathlib.Tactic.Ring

/-!
# Pooled samples

The mean and the variance of samples taken together, from the mean, the variance and the
size of each of them.
-/

namespace Pooling

universe u

variable {K : Type u} [Field K]

/-- The sum of the squared distances of a sample from a point. -/
def spread (sample : List K) (center : K) : K :=
  (sample.map fun value => (value - center) ^ 2).sum

def mean (sample : List K) : K := sample.sum / sample.length

/-- The variance of a sample as a population of its own. -/
def variance (sample : List K) : K := spread sample (mean sample) / sample.length

/-- The spread about a point from that about another point. -/
theorem spread_shift (sample : List K) (center middle : K) :
    spread sample center = spread sample middle +
      2 * (middle - center) * (sample.sum - sample.length * middle) +
        sample.length * (middle - center) ^ 2 := by
  unfold spread
  induction sample with
  | nil => simp
  | cons value rest ih =>
      rw [List.map_cons, List.sum_cons, List.map_cons, List.sum_cons, List.sum_cons, ih,
        List.length_cons, Nat.cast_add, Nat.cast_one]
      ring

/-- Within and between: a sample is spread about its mean, and its mean lies away from the
point. -/
theorem spread_eq {sample : List K} (some : (sample.length : K) ≠ 0) (center : K) :
    spread sample center =
      sample.length * (variance sample + (mean sample - center) ^ 2) := by
  have balanced : sample.sum - sample.length * mean sample = 0 := by
    rw [mean, mul_div_cancel₀ _ some, sub_self]
  rw [spread_shift sample center (mean sample), balanced, mul_zero, add_zero, mul_add,
    variance, mul_div_cancel₀ _ some]

theorem mean_perm {first second : List K} (same : first.Perm second) :
    mean first = mean second := by
  rw [mean, mean, same.sum_eq, same.length_eq]

/-- A constant that is added to a sample is added to its mean. -/
theorem mean_map_add {Item : Type*} {items : List Item} (some : (items.length : K) ≠ 0)
    (constant : K) (value : Item → K) :
    mean (items.map fun item => constant + value item) =
      constant + mean (items.map value) := by
  rw [mean, mean, List.sum_map_add, List.map_const', List.sum_replicate, List.length_map,
    List.length_map, nsmul_eq_mul, add_div, mul_div_cancel_left₀ _ some]

/-- A sum in which some items count against the others. -/
theorem sum_signed {Item : Type*} (items : List Item) (plus : Item → Bool) (value : Item → K) :
    (items.map fun item => (if plus item then 1 else -1) * value item).sum =
      ((items.filter plus).map value).sum -
        ((items.filter fun item => !plus item).map value).sum := by
  induction items with
  | nil => simp
  | cons item rest ih =>
      rw [List.map_cons, List.sum_cons, ih, List.filter_cons, List.filter_cons]
      cases plus item with
      | true =>
          rw [if_pos rfl, if_pos rfl, if_neg (by decide), List.map_cons, List.sum_cons]
          ring
      | false =>
          rw [if_neg (by decide), if_neg (by decide), if_pos (by rfl), List.map_cons,
            List.sum_cons]
          ring

/-- With as many items on both sides the mean is half of the difference of the means. -/
theorem mean_signed {Item : Type*} {items : List Item} {plus : Item → Bool}
    (halves : (items.filter plus).length = (items.filter fun item => !plus item).length)
    (value : Item → K) :
    mean (items.map fun item => (if plus item then 1 else -1) * value item) =
      (mean ((items.filter plus).map value) -
        mean ((items.filter fun item => !plus item).map value)) / ((2 : Nat) : K) := by
  have total : items.length = (items.filter plus).length * 2 := by
    rw [List.length_eq_length_filter_add plus, ← halves, mul_two]
  rw [mean, sum_signed, List.length_map, total, mean, mean, List.length_map, List.length_map,
    ← halves, ← sub_div, div_div, Nat.cast_mul]

theorem spread_append (first second : List K) (center : K) :
    spread (first ++ second) center = spread first center + spread second center := by
  rw [spread, List.map_append, List.sum_append]
  rfl

theorem spread_flatten (samples : List (List K)) (center : K) :
    spread samples.flatten center = (samples.map (spread · center)).sum := by
  induction samples with
  | nil => rfl
  | cons sample rest ih =>
      rw [List.flatten_cons, spread_append, ih, List.map_cons, List.sum_cons]

theorem length_flatten (samples : List (List K)) :
    (samples.flatten.length : K) = (samples.map fun sample => (sample.length : K)).sum := by
  induction samples with
  | nil => exact Nat.cast_zero
  | cons sample rest ih =>
      rw [List.flatten_cons, List.length_append, Nat.cast_add, ih, List.map_cons,
        List.sum_cons]

/-- Samples of one size count as much as their means. -/
theorem mean_means {samples : List (List K)} {size : Nat} (some : (size : K) ≠ 0)
    (same : ∀ sample ∈ samples, sample.length = size) :
    mean (samples.map mean) = mean samples.flatten := by
  have total : samples.flatten.sum = size * (samples.map mean).sum := by
    rw [List.sum_flatten, ← List.sum_map_mul_left]
    congr 1
    apply List.map_congr_left
    intro sample member
    rw [mean, same sample member, mul_div_cancel₀ _ some]
  have length : (samples.flatten.length : K) = size * samples.length := by
    have sizes : samples.map (fun sample => (sample.length : K)) =
        List.replicate samples.length (size : K) := by
      apply List.map_eq_replicate_iff.mpr
      intro sample member
      rw [same sample member]
    rw [length_flatten, sizes, List.sum_replicate, nsmul_eq_mul, mul_comm]
  rw [mean, mean, total, length, List.length_map, mul_div_mul_left _ _ some]

section Samples

variable {samples : List (List K)} (each : ∀ sample ∈ samples, (sample.length : K) ≠ 0)

include each

theorem mean_flatten :
    mean samples.flatten =
      (samples.map fun sample : List K => mean sample * sample.length).sum /
        (samples.map fun sample => (sample.length : K)).sum := by
  have total : samples.flatten.sum =
      (samples.map fun sample : List K => mean sample * sample.length).sum := by
    rw [List.sum_flatten]
    congr 1
    apply List.map_congr_left
    intro sample member
    rw [mean, div_mul_cancel₀ _ (each sample member)]
  rw [mean, total, length_flatten]

/-- The variance of samples taken together. -/
theorem variance_flatten :
    variance samples.flatten =
      (samples.map fun sample => sample.length *
          (variance sample + (mean sample - mean samples.flatten) ^ 2)).sum /
        (samples.map fun sample => (sample.length : K)).sum := by
  rw [variance, spread_flatten, length_flatten]
  congr 2
  apply List.map_congr_left
  intro sample member
  exact spread_eq (each sample member) _

end Samples

/-! ## No spread -/

section Order

variable [LinearOrder K] [IsStrictOrderedRing K]

theorem spread_nonneg (sample : List K) (center : K) : 0 ≤ spread sample center := by
  apply List.sum_nonneg
  intro square member
  obtain ⟨value, -, rfl⟩ := List.mem_map.mp member
  exact sq_nonneg _

/-- A sample without spread has one value. -/
theorem spread_mean_eq_zero_iff {sample : List K} :
    spread sample (mean sample) = 0 ↔ ∀ one ∈ sample, ∀ other ∈ sample, one = other := by
  constructor
  · intro none one isOne other isOther
    have center : ∀ value ∈ sample, value = mean sample := by
      intro value member
      have square : (value - mean sample) ^ 2 = 0 := by
        apply List.all_zero_of_le_zero_le_of_sum_eq_zero _ none (List.mem_map_of_mem member)
        intro square isSquare
        obtain ⟨value, -, rfl⟩ := List.mem_map.mp isSquare
        exact sq_nonneg _
      exact sub_eq_zero.mp (pow_eq_zero_iff two_ne_zero |>.mp square)
    rw [center one isOne, center other isOther]
  · intro same
    cases sample with
    | nil => rfl
    | cons first rest =>
        have copies : first :: rest = List.replicate (rest.length + 1) first :=
          List.eq_replicate_iff.mpr ⟨rfl, fun value member =>
            same value member first List.mem_cons_self⟩
        have some : ((rest.length + 1 : Nat) : K) ≠ 0 := Nat.cast_ne_zero.mpr (Nat.succ_ne_zero _)
        have middle : mean (first :: rest) = first := by
          rw [copies, mean, List.sum_replicate, List.length_replicate, nsmul_eq_mul,
            mul_div_cancel_left₀ _ some]
        rw [middle, spread]
        apply List.sum_eq_zero
        intro square isSquare
        obtain ⟨value, member, rfl⟩ := List.mem_map.mp isSquare
        rw [same value member first List.mem_cons_self, sub_self, zero_pow two_ne_zero]

end Order

end Pooling
