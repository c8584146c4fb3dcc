import AirTrafficControl.Library.Pooling
import Mathlib.Algebra.Order.BigOperators.Group.List
import Mathlib.Algebra.Order.Field.Basic
import Mathlib.Data.Nat.Cast.Order.Ring
import Mathlib.Tactic.FieldSimp
import Mathlib.Tactic.Linarith

/-!
# Deviation from a center

How far the values of a sample lie below a center.  In a sorted sample they all come first: the
prefix that ends where the values reach the center falls short of it by as much as any part of
the sample can.  So the Lorenz curve of the sample is there farthest from the diagonal.
-/

namespace Deviation

universe u

section Group

variable {K : Type u} [AddCommGroup K]

/-- By how much a sample as a whole lies below a center. -/
def shortfall (center : K) (sample : List K) : K :=
  (sample.map fun value => center - value).sum

theorem shortfall_append (center : K) (first second : List K) :
    shortfall center (first ++ second) = shortfall center first + shortfall center second := by
  rw [shortfall, List.map_append, List.sum_append]
  rfl

theorem shortfall_cons (center value : K) (rest : List K) :
    shortfall center (value :: rest) = center - value + shortfall center rest := by
  rw [shortfall, List.map_cons, List.sum_cons]
  rfl

variable [LinearOrder K]

/-- By how much those values lie below a center that do. -/
def deficit (center : K) (sample : List K) : K :=
  (sample.map fun value => max (center - value) 0).sum

/-- By how much the values lie away from a center. -/
def deviation (center : K) (sample : List K) : K :=
  (sample.map fun value => |value - center|).sum

theorem deficit_cons (center value : K) (rest : List K) :
    deficit center (value :: rest) = max (center - value) 0 + deficit center rest := by
  rw [deficit, List.map_cons, List.sum_cons]
  rfl

theorem deviation_perm {first second : List K} (same : first.Perm second) (center : K) :
    deviation center first = deviation center second :=
  (same.map _).sum_eq

variable [IsOrderedAddMonoid K] {center : K} {sample : List K}

/-- A value above the center counts once, one below it once more than the shortfall does. -/
theorem deviation_add_shortfall (center : K) (sample : List K) :
    deviation center sample + shortfall center sample =
      deficit center sample + deficit center sample := by
  have each : ∀ value : K, |value - center| + (center - value) =
      max (center - value) 0 + max (center - value) 0 := by
    intro value
    rcases le_total value center with below | above
    · rw [abs_sub_comm, abs_of_nonneg (sub_nonneg.mpr below),
        max_eq_left (sub_nonneg.mpr below)]
    · rw [abs_of_nonneg (sub_nonneg.mpr above), max_eq_right (sub_nonpos.mpr above),
        sub_add_sub_cancel, sub_self, add_zero]
  rw [deviation, shortfall, deficit, ← List.sum_map_add, ← List.sum_map_add]
  simp only [each]

theorem shortfall_le_deficit (center : K) (sample : List K) :
    shortfall center sample ≤ deficit center sample :=
  List.sum_le_sum fun _ _ => le_max_left _ _

/-- No part of a sample falls short by more than its deficit. -/
theorem shortfall_sublist_le {part : List K} (sub : part.Sublist sample) (center : K) :
    shortfall center part ≤ deficit center sample := by
  have nonneg : ∀ gap ∈ sample.map fun value => max (center - value) 0, 0 ≤ gap := by
    intro gap member
    obtain ⟨value, -, rfl⟩ := List.mem_map.mp member
    exact le_max_right _ _
  exact (shortfall_le_deficit center part).trans ((sub.map _).sum_le_sum nonneg)

theorem shortfall_nonneg (below : ∀ value ∈ sample, value ≤ center) :
    0 ≤ shortfall center sample := by
  apply List.sum_nonneg
  intro gap member
  obtain ⟨value, isValue, rfl⟩ := List.mem_map.mp member
  exact sub_nonneg.mpr (below value isValue)

theorem shortfall_nonpos (above : ∀ value ∈ sample, center ≤ value) :
    shortfall center sample ≤ 0 := by
  have each : shortfall center sample ≤ (sample.map fun _ => (0 : K)).sum :=
    List.sum_le_sum fun value member => sub_nonpos.mpr (above value member)
  rwa [List.sum_map_zero] at each

theorem deficit_of_above (above : ∀ value ∈ sample, center ≤ value) :
    deficit center sample = 0 := by
  have each : ∀ value ∈ sample, max (center - value) 0 = (fun _ => (0 : K)) value :=
    fun value member => max_eq_right (sub_nonpos.mpr (above value member))
  rw [deficit, List.map_congr_left each, List.sum_map_zero]

/-- In a sorted sample the values below the center come first. -/
theorem exists_shortfall_take (sorted : sample.Pairwise (· ≤ ·)) (center : K) :
    ∃ i ≤ sample.length, shortfall center (sample.take i) = deficit center sample := by
  induction sample with
  | nil => exact ⟨0, le_rfl, rfl⟩
  | cons value rest ih =>
      obtain ⟨least, later⟩ := List.pairwise_cons.mp sorted
      rcases le_total value center with below | above
      · obtain ⟨i, bound, attained⟩ := ih later
        refine ⟨i + 1, Nat.succ_le_succ bound, ?_⟩
        rw [List.take_succ_cons, shortfall_cons, attained, deficit_cons,
          max_eq_left (sub_nonneg.mpr below)]
      · refine ⟨0, Nat.zero_le _, ?_⟩
        have all : ∀ other ∈ value :: rest, center ≤ other :=
          List.forall_mem_cons.mpr ⟨above, fun other member => above.trans (least other member)⟩
        rw [deficit_of_above all]
        rfl

/-- Where a sorted sample as a whole does not lie above the center, no prefix of it does. -/
theorem shortfall_take_nonneg (sorted : sample.Pairwise (· ≤ ·))
    (whole : 0 ≤ shortfall center sample) (i : Nat) :
    0 ≤ shortfall center (sample.take i) := by
  by_cases below : ∀ value ∈ sample.take i, value ≤ center
  · exact shortfall_nonneg below
  · -- The rest of the sample is then above the center, and the prefix makes up for it.
    obtain ⟨value, member, above⟩ : ∃ value ∈ sample.take i, center < value := by
      simpa only [not_forall, not_le, exists_prop] using below
    have ordered := sorted
    rw [← List.take_append_drop i sample] at ordered whole
    have greater := (List.pairwise_append.mp ordered).2.2 value member
    have later : shortfall center (sample.drop i) ≤ 0 :=
      shortfall_nonpos fun other isLater => above.le.trans (greater other isLater)
    rw [shortfall_append] at whole
    exact whole.trans (add_le_of_nonpos_right later)

end Group

/-! ## The Lorenz curve -/

section Curve

variable {K : Type u} [Field K]

/-- The share that the first values of a sample have in its sum. -/
def height (sample : List K) (i : Nat) : K := (sample.take i).sum / sample.sum

/-- The distance of the curve from the diagonal. -/
def gap (sample : List K) (i : Nat) : K := i / sample.length - height sample i

theorem shortfall_eq (center : K) (sample : List K) :
    shortfall center sample = sample.length * center - sample.sum := by
  induction sample with
  | nil => simp [shortfall]
  | cons value rest ih =>
      rw [shortfall_cons, ih, List.length_cons, List.sum_cons, Nat.cast_add, Nat.cast_one]
      ring

variable [LinearOrder K]

/-- The deviation from the mean, as a part of twice the sum. -/
def index (sample : List K) : K :=
  deviation (Pooling.mean sample) sample / (sample.sum + sample.sum)

theorem index_perm {first second : List K} (same : first.Perm second) :
    index first = index second := by
  have mean : Pooling.mean first = Pooling.mean second := by
    rw [Pooling.mean, Pooling.mean, same.sum_eq, same.length_eq]
  rw [index, index, mean, deviation_perm same, same.sum_eq]

variable [IsStrictOrderedRing K] {sample : List K} (positive : 0 < sample.sum)

include positive

theorem length_pos : (0 : K) < sample.length := by
  cases sample with
  | nil => exact absurd positive (lt_irrefl 0)
  | cons value rest => exact Nat.cast_pos.mpr (Nat.succ_pos _)

theorem length_mul_mean : (sample.length : K) * Pooling.mean sample = sample.sum :=
  mul_div_cancel₀ _ (length_pos positive).ne'

theorem index_mean :
    index sample = deviation (Pooling.mean sample) sample /
      (2 * sample.length * Pooling.mean sample) := by
  rw [index, mul_assoc, length_mul_mean positive, two_mul]

/-- The mean lies in the middle. -/
theorem shortfall_mean : shortfall (Pooling.mean sample) sample = 0 := by
  rw [shortfall_eq, length_mul_mean positive, sub_self]

theorem gap_eq {i : Nat} (bound : i ≤ sample.length) :
    gap sample i = shortfall (Pooling.mean sample) (sample.take i) / sample.sum := by
  have nonempty := (length_pos positive).ne'
  have nonzero := positive.ne'
  rw [shortfall_eq, List.length_take_of_le bound, gap, height, Pooling.mean]
  field_simp

theorem index_eq : index sample = deficit (Pooling.mean sample) sample / sample.sum := by
  have twice := deviation_add_shortfall (Pooling.mean sample) sample
  rw [shortfall_mean positive, add_zero] at twice
  rw [index, twice, ← two_mul, ← two_mul, mul_div_mul_left _ _ two_ne_zero]

theorem gap_le_index {i : Nat} (bound : i ≤ sample.length) : gap sample i ≤ index sample := by
  rw [gap_eq positive bound, index_eq positive]
  exact div_le_div_of_nonneg_right
    (shortfall_sublist_le (List.take_sublist i sample) _) positive.le

variable (sorted : sample.Pairwise (· ≤ ·))

include sorted

/-- The curve of a sorted sample lies below the diagonal. -/
theorem gap_nonneg {i : Nat} (bound : i ≤ sample.length) : 0 ≤ gap sample i := by
  rw [gap_eq positive bound]
  exact div_nonneg (shortfall_take_nonneg sorted (shortfall_mean positive).ge i) positive.le

/-- It is farthest from the diagonal where the values reach the mean. -/
theorem exists_gap_eq_index : ∃ i ≤ sample.length, gap sample i = index sample := by
  obtain ⟨i, bound, attained⟩ := exists_shortfall_take sorted (Pooling.mean sample)
  exact ⟨i, bound, by rw [gap_eq positive bound, attained, index_eq positive]⟩

end Curve

end Deviation
