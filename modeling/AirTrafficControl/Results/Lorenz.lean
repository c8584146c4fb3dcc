import AirTrafficControl.Library.Deviation
import AirTrafficControl.Results.MakeInput
import AirTrafficControl.Results.Variance
import Mathlib.Data.List.Sort

/-!
# The Lorenz curve gap

`lorenz` of `util.py` plots a curve for each recorded vector and prints a number with it, in
exact arithmetic.
-/

namespace AirTrafficControl.Results

open Deviation

/-- A row of the table of vectors: the columns that `lorenz` reads. -/
structure VectorRow where
  iterationvars : String
  name : String
  vecvalue : List ℚ

/-- What is plotted for a vector, and the number of the legend. -/
structure Curve where
  lcg : ℚ
  x : List ℚ
  lc : List ℚ

/-- A figure that is saved, under its title. -/
structure Figure where
  title : String
  curves : List (Option Curve)

/-- `np.linspace(0.0, 1.0, num)`. -/
def linspace (num : Nat) : List ℚ :=
  (List.range num).map fun i : Nat => (i : ℚ) / (num - 1 : Nat)

def cumsumFrom (total : ℚ) : List ℚ → List ℚ
  | [] => []
  | value :: rest => (total + value) :: cumsumFrom (total + value) rest

/-- `arr.cumsum()`. -/
def cumsum (arr : List ℚ) : List ℚ := cumsumFrom 0 arr

/-- The body of the innermost loop of `lorenz`. -/
def lorenzCurve (vecvalue : List ℚ) : Option Curve := do
  let arr := vecvalue.insertionSort (· ≤ ·)
  let m ← mean arr
  let lcg ← div (sum (arr.map fun value => |value - m|)) (2 * arr.length * m)
  let scaledPrefixSum ← (cumsum arr).mapM fun total => div total (sum arr)
  let lc := 0 :: scaledPrefixSum
  return ⟨lcg, linspace lc.length, lc⟩

/-- The vectors that `lorenz` passes over. -/
def sizeVectors : List String :=
  ["DepartQueueSize:vector", "HoldingQueueSize:vector", "ParkedPlanes:vector"]

def lorenz (df : List VectorRow) : List Figure :=
  (df.map VectorRow.iterationvars).eraseDups.flatMap fun itervars =>
    let vectors := df.filter fun row => row.iterationvars = itervars
    ((vectors.map VectorRow.name).eraseDups.filter fun name => name ∉ sizeVectors).map
      fun name =>
        let tmp := vectors.filter fun row => row.name = name
        ⟨(split name).headD "" ++ " " ++ itervars,
          tmp.map fun row => lorenzCurve row.vecvalue⟩

/-- The curves of a table are those of its rows, except for the sizes. -/
theorem exists_curves_iff {df : List VectorRow} {curve : Option Curve} :
    (∃ figure ∈ lorenz df, curve ∈ figure.curves) ↔
      ∃ row ∈ df, row.name ∉ sizeVectors ∧ lorenzCurve row.vecvalue = curve := by
  constructor
  · rintro ⟨figure, isFigure, isCurve⟩
    obtain ⟨itervars, -, ofVectors⟩ := List.mem_flatMap.mp isFigure
    obtain ⟨name, isName, rfl⟩ := List.mem_map.mp ofVectors
    obtain ⟨row, isRow, plotted⟩ := List.mem_map.mp isCurve
    obtain ⟨isVector, sameName⟩ := List.mem_filter.mp isRow
    have kept := of_decide_eq_true (List.mem_filter.mp isName).2
    refine ⟨row, (List.mem_filter.mp isVector).1, ?_, plotted⟩
    rwa [of_decide_eq_true sameName]
  · rintro ⟨row, member, kept, plotted⟩
    let vectors := df.filter fun other => other.iterationvars = row.iterationvars
    have isVector : row ∈ vectors := List.mem_filter.mpr ⟨member, decide_eq_true rfl⟩
    have isItervars : row.iterationvars ∈ (df.map VectorRow.iterationvars).eraseDups :=
      List.mem_eraseDups.mpr (List.mem_map_of_mem member)
    have isName : row.name ∈ (vectors.map VectorRow.name).eraseDups.filter fun name =>
        name ∉ sizeVectors :=
      List.mem_filter.mpr
        ⟨List.mem_eraseDups.mpr (List.mem_map_of_mem isVector), decide_eq_true kept⟩
    have isRow : row ∈ vectors.filter fun other => other.name = row.name :=
      List.mem_filter.mpr ⟨isVector, decide_eq_true rfl⟩
    refine ⟨_, List.mem_flatMap.mpr
      ⟨row.iterationvars, isItervars, List.mem_map.mpr ⟨row.name, isName, rfl⟩⟩, ?_⟩
    exact List.mem_map.mpr ⟨row, isRow, plotted⟩

/-! ## The curve of a sample -/

theorem cumsumFrom_eq (total : ℚ) (arr : List ℚ) :
    cumsumFrom total arr =
      (List.range arr.length).map fun i => total + (arr.take (i + 1)).sum := by
  induction arr generalizing total with
  | nil => rfl
  | cons value rest ih =>
      rw [cumsumFrom, ih, List.length_cons, List.range_succ_eq_map, List.map_cons, List.map_map,
        List.take_succ_cons, List.take_zero, List.sum_singleton]
      congr 1
      apply List.map_congr_left
      intro i _
      rw [Function.comp_apply, List.take_succ_cons, List.sum_cons, add_assoc]

/-- The points of the curve: what each prefix has of the sum. -/
theorem cons_cumsum (arr : List ℚ) (whole : ℚ) :
    0 :: (cumsum arr).map (fun total => total / whole) =
      (List.range (arr.length + 1)).map fun i => (arr.take i).sum / whole := by
  rw [List.range_succ_eq_map, List.map_cons, List.take_zero, List.sum_nil, zero_div, cumsum,
    cumsumFrom_eq, List.map_map, List.map_map]
  congr 1
  apply List.map_congr_left
  intro i _
  rw [Function.comp_apply, zero_add]
  rfl

theorem getElem?_map_range (value : Nat → ℚ) {n i : Nat} (bound : i ≤ n) :
    ((List.range (n + 1)).map value)[i]? = some (value i) := by
  rw [List.getElem?_map, List.getElem?_range (Nat.lt_succ_of_le bound)]
  rfl

section Curve

variable {values : List ℚ} (positive : 0 < values.sum)

include positive

/-- The points of the curve are the heights of the sorted sample. -/
theorem lorenzCurve_eq :
    lorenzCurve values = some ⟨index values, linspace (values.length + 1),
      (List.range (values.length + 1)).map (height (values.insertionSort (· ≤ ·)))⟩ := by
  have same : (values.insertionSort (· ≤ ·)).Perm values := List.perm_insertionSort _ _
  unfold lorenzCurve
  dsimp only
  rw [← index_perm same, ← same.length_eq]
  rw [← same.sum_eq] at positive
  generalize values.insertionSort (· ≤ ·) = arr at positive
  have nonempty : arr ≠ [] := by
    rintro rfl
    exact lt_irrefl 0 positive
  have whole : 2 * (arr.length : ℚ) * Pooling.mean arr ≠ 0 := by
    rw [mul_assoc, length_mul_mean positive]
    exact mul_ne_zero two_ne_zero positive.ne'
  have scaled : (cumsum arr).mapM (fun total => div total (sum arr)) =
      some ((cumsum arr).map fun total => total / arr.sum) := by
    apply mapM_eq
    intro total _
    rw [sum_eq, div_of_ne positive.ne']
  have points : 0 :: (cumsum arr).map (fun total => total / arr.sum) =
      (List.range (arr.length + 1)).map (height arr) :=
    cons_cumsum arr arr.sum
  have printed : div (sum (arr.map fun value => |value - Pooling.mean arr|))
      (2 * arr.length * Pooling.mean arr) = some (index arr) := by
    rw [div_of_ne whole, sum_eq, index_mean positive]
    rfl
  rw [mean_eq nonempty, scaled]
  show (div _ _).bind _ = _
  rw [printed]
  show some (Curve.mk _ _ _) = _
  rw [points, List.length_map, List.length_range]

/-- The points of the curve, and their distances from the diagonal. -/
theorem exists_height {curve : Curve} (defined : lorenzCurve values = some curve) {i : Nat}
    (bound : i ≤ values.length) :
    ∃ height, curve.lc[i]? = some height ∧
      curve.x[i]? = some ((i : ℚ) / values.length) ∧
      0 ≤ (i : ℚ) / values.length - height ∧
      (i : ℚ) / values.length - height ≤ curve.lcg := by
  have same : (values.insertionSort (· ≤ ·)).Perm values := List.perm_insertionSort _ _
  have sorted : (values.insertionSort (· ≤ ·)).Pairwise (· ≤ ·) :=
    List.pairwise_insertionSort _ _
  obtain rfl := Option.some.inj ((lorenzCurve_eq positive).symm.trans defined)
  rw [← same.sum_eq] at positive
  rw [← same.length_eq] at bound
  rw [← index_perm same, ← same.length_eq]
  exact ⟨_, getElem?_map_range _ bound, getElem?_map_range _ bound,
    gap_nonneg positive sorted bound, gap_le_index positive bound⟩

/-- Between two of its points the plotted curve is no farther from the diagonal either. -/
theorem distance_between {curve : Curve} (defined : lorenzCurve values = some curve) {i : Nat}
    (bound : i < values.length) {share : ℚ} (low : 0 ≤ share) (high : share ≤ 1) :
    ∃ first second, curve.lc[i]? = some first ∧ curve.lc[i + 1]? = some second ∧
      let x := (1 - share) * ((i : ℚ) / values.length) +
        share * (((i + 1 : Nat) : ℚ) / values.length)
      let y := (1 - share) * first + share * second
      0 ≤ x - y ∧ x - y ≤ curve.lcg := by
  obtain ⟨first, isFirst, -, above, near⟩ := exists_height positive defined bound.le
  obtain ⟨second, isSecond, -, nextAbove, nextNear⟩ :=
    exists_height positive defined (Nat.succ_le_of_lt bound)
  refine ⟨first, second, isFirst, isSecond, ?_⟩
  have rest : 0 ≤ 1 - share := sub_nonneg.mpr high
  constructor
  · have part := mul_nonneg rest above
    have nextPart := mul_nonneg low nextAbove
    linarith
  · have part := mul_le_mul_of_nonneg_left near rest
    have nextPart := mul_le_mul_of_nonneg_left nextNear low
    linarith

end Curve

/-- The Lorenz curve gap.  For values in any order, with a positive sum, `lorenz` plots the
shares of the prefixes of the sorted sample, after a zero.  The number that it prints is the
deviation from the mean, as a part of twice the sum, and the largest distance from the diagonal
of the curve; and none of these distances is negative. -/
theorem lorenz_gap (values : List ℚ) (positive : 0 < values.sum) :
    ∃ curve, lorenzCurve values = some curve ∧
      curve.lc = 0 :: ((List.range values.length).map fun i =>
        ((values.insertionSort (· ≤ ·)).take (i + 1)).sum / values.sum) ∧
      curve.lcg = (values.map fun value => |value - values.sum / values.length|).sum /
        (2 * values.length * (values.sum / values.length)) ∧
      curve.lc.length = values.length + 1 ∧
      (∀ i ≤ values.length, ∃ height, curve.lc[i]? = some height ∧
        curve.x[i]? = some ((i : ℚ) / values.length) ∧
        0 ≤ (i : ℚ) / values.length - height ∧
        (i : ℚ) / values.length - height ≤ curve.lcg) ∧
      ∃ i ≤ values.length, ∃ height, curve.lc[i]? = some height ∧
        (i : ℚ) / values.length - height = curve.lcg := by
  have same : (values.insertionSort (· ≤ ·)).Perm values := List.perm_insertionSort _ _
  have sorted : (values.insertionSort (· ≤ ·)).Pairwise (· ≤ ·) :=
    List.pairwise_insertionSort _ _
  refine ⟨_, lorenzCurve_eq positive, ?_, index_mean positive, ?_, fun i => ?_, ?_⟩
  · dsimp only
    rw [List.range_succ_eq_map, List.map_cons, height, List.take_zero, List.sum_nil, zero_div,
      List.map_map]
    congr 1
    apply List.map_congr_left
    intro i _
    rw [Function.comp_apply, height, same.sum_eq]
  · rw [List.length_map, List.length_range]
  · exact exists_height positive (lorenzCurve_eq positive)
  · obtain ⟨i, bound, attained⟩ :=
      exists_gap_eq_index (same.sum_eq.symm ▸ positive) sorted
    rw [gap, index_perm same, same.length_eq] at attained
    rw [same.length_eq] at bound
    exact ⟨i, bound, _, getElem?_map_range _ bound, attained⟩

/-- Three values that are not in order. -/
theorem lorenz_gap_three :
    let values : List ℚ := [3, 1, 2]
    ∃ curve, lorenzCurve values = some curve ∧
      curve.lc = [0, 1 / 6, 1 / 2, 1] ∧
      curve.lcg = 1 / 6 ∧
      curve.lc.length = values.length + 1 ∧
      (∀ i ≤ values.length, ∃ height, curve.lc[i]? = some height ∧
        curve.x[i]? = some ((i : ℚ) / values.length) ∧
        0 ≤ (i : ℚ) / values.length - height ∧
        (i : ℚ) / values.length - height ≤ curve.lcg) ∧
      ∃ i ≤ values.length, ∃ height, curve.lc[i]? = some height ∧
        (i : ℚ) / values.length - height = curve.lcg := by
  obtain ⟨curve, defined, points, printed, length, bounds, attained⟩ :=
    lorenz_gap [3, 1, 2] (by norm_num)
  refine ⟨curve, defined, points.trans (by decide +kernel), ?_, length, bounds, attained⟩
  rw [printed]
  norm_num

end AirTrafficControl.Results
