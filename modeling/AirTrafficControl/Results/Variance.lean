import AirTrafficControl.Library.Pooling
import Mathlib.Algebra.Field.Rat
import Mathlib.Data.Rat.Cast.CharZero

/-!
# The variance of several runs

`mean`, `sd` and `combinedVariance` of `util.py`, and what `scatterDF` computes for a group of
runs, in exact arithmetic.
-/

namespace AirTrafficControl.Results

/-- The quotient, where there is one.  Otherwise Python raises `ZeroDivisionError`, and pandas
has no number. -/
def div (x y : ℚ) : Option ℚ := if y = 0 then none else some (x / y)

/-- The built-in `sum`. -/
def sum (values : List ℚ) : ℚ := values.foldl (· + ·) 0

def mean (arr : List ℚ) : Option ℚ :=
  div (arr.foldl (fun sum value => sum + value) 0) arr.length

/-- Despite its name, the variance. -/
def sd (arr : List ℚ) : Option ℚ := do
  let m ← mean arr
  div (arr.foldl (fun sum value => sum + (value - m) ^ 2) 0) arr.length

/-- The local variable of `combinedVariance`. -/
def combinedMean (means counts : List ℚ) : Option ℚ :=
  div (sum ((means.zip counts).map fun (x, y) => x * y)) (sum counts)

def combinedVariance (means sds counts : List ℚ) : Option ℚ := do
  let combinedMean ← combinedMean means counts
  div (sum ((means.zip (sds.zip counts)).map fun (x, y, z) =>
    z * (y + (x - combinedMean) ^ 2))) (sum counts)

/-- What `scatterDF` reads of a run: the columns `Mean`, `StDev` and `neff`. -/
structure Run where
  mean : ℚ
  stDev : ℚ
  neff : ℚ

/-- The column `cmean` of `scatterDF`, for one group. -/
def cmean (group : List Run) : Option ℚ :=
  div (sum (group.map fun run => run.mean * run.neff)) (sum (group.map Run.neff))

/-- The column `cvar` of `scatterDF`, for one group. -/
def cvar (group : List Run) : Option ℚ := do
  let center ← cmean group
  div (sum (group.map fun run => run.neff * (run.stDev ^ 2 + (run.mean - center) ^ 2)))
    (sum (group.map Run.neff))

/-! ## Loops as sums -/

theorem foldl_add (term : ℚ → ℚ) (arr : List ℚ) (start : ℚ) :
    arr.foldl (fun sum value => sum + term value) start = start + (arr.map term).sum := by
  induction arr generalizing start with
  | nil => exact (add_zero start).symm
  | cons value rest ih =>
      rw [List.foldl_cons, ih, List.map_cons, List.sum_cons, add_assoc]

theorem sum_eq (values : List ℚ) : sum values = values.sum := by
  have loop := foldl_add id values 0
  rwa [zero_add, List.map_id] at loop

theorem div_of_ne {x y : ℚ} (nonzero : y ≠ 0) : div x y = some (x / y) :=
  if_neg nonzero

/-- The combined mean and variance of the columns of a table. -/
theorem combinedVariance_map {Sample : Type} (samples : List Sample)
    (average spread count : Sample → ℚ) :
    combinedMean (samples.map average) (samples.map count) =
        div (samples.map fun sample => average sample * count sample).sum
          (samples.map count).sum ∧
      combinedVariance (samples.map average) (samples.map spread) (samples.map count) =
        (combinedMean (samples.map average) (samples.map count)).bind fun center =>
          div (samples.map fun sample =>
            count sample * (spread sample + (average sample - center) ^ 2)).sum
            (samples.map count).sum := by
  constructor
  · rw [combinedMean, List.zip_map', List.map_map, sum_eq, sum_eq]
    rfl
  · unfold combinedVariance
    simp only [List.zip_map', List.map_map, sum_eq]
    rfl

section Sample

variable {arr : List ℚ} (some : arr ≠ [])

include some

theorem length_ne_zero : (arr.length : ℚ) ≠ 0 :=
  Nat.cast_ne_zero.mpr fun none => some (List.eq_nil_of_length_eq_zero none)

theorem mean_eq : mean arr = .some (Pooling.mean arr) := by
  have loop := foldl_add id arr 0
  rw [zero_add, List.map_id] at loop
  rw [mean, div_of_ne (length_ne_zero some)]
  exact congrArg (fun total => Option.some (total / _)) loop

theorem sd_eq : sd arr = .some (Pooling.variance arr) := by
  rw [sd, mean_eq some]
  show div _ _ = _
  rw [div_of_ne (length_ne_zero some), foldl_add, zero_add]
  rfl

end Sample

theorem mapM_eq {Input Output : Type} {function : Input → Option Output}
    {value : Input → Output} {inputs : List Input}
    (defined : ∀ input ∈ inputs, function input = some (value input)) :
    inputs.mapM function = some (inputs.map value) := by
  induction inputs with
  | nil => rfl
  | cons input rest ih =>
      obtain ⟨first, others⟩ := List.forall_mem_cons.mp defined
      rw [List.mapM_cons, first, ih others]
      rfl

/-- Pooling of variances.  `mean` and `sd` compute the mean and the variance of a sample that is
not empty, and the combined variance of samples, computed from their means, their variances and
their lengths, is the variance of all samples taken together.  The mean and the variance that
`scatterDF` computes for a group are combined in the same way, with the effective numbers of
samples as weights. -/
theorem pooled_variance :
    (∀ samples : List (List ℚ), samples ≠ [] → (∀ sample ∈ samples, sample ≠ []) →
      samples.mapM mean = some (samples.map Pooling.mean) ∧
        samples.mapM sd = some (samples.map Pooling.variance) ∧
        sd samples.flatten = some (Pooling.variance samples.flatten) ∧
        combinedVariance (samples.map Pooling.mean) (samples.map Pooling.variance)
            (samples.map fun sample => (sample.length : ℚ)) =
          some (Pooling.variance samples.flatten)) ∧
      ∀ group : List Run,
        cmean group = combinedMean (group.map Run.mean) (group.map Run.neff) ∧
        cvar group = combinedVariance (group.map Run.mean)
          (group.map fun run => run.stDev ^ 2) (group.map Run.neff) := by
  constructor
  · intro samples some each
    have lengths : ∀ sample ∈ samples, (sample.length : ℚ) ≠ 0 :=
      fun sample member => length_ne_zero (each sample member)
    have together : samples.flatten ≠ [] := by
      obtain ⟨sample, member⟩ := List.exists_mem_of_ne_nil samples some
      exact fun none => each sample member (List.flatten_eq_nil_iff.mp none sample member)
    have total : (samples.map fun sample => (sample.length : ℚ)).sum ≠ 0 := by
      rw [← Pooling.length_flatten]
      exact length_ne_zero together
    obtain ⟨combined, variance⟩ := combinedVariance_map samples Pooling.mean
      Pooling.variance fun sample => sample.length
    rw [div_of_ne total, ← Pooling.mean_flatten lengths] at combined
    refine ⟨mapM_eq fun sample member => mean_eq (each sample member),
      mapM_eq fun sample member => sd_eq (each sample member), sd_eq together, ?_⟩
    rw [variance, combined]
    show div _ _ = _
    rw [div_of_ne total, ← Pooling.variance_flatten lengths]
  · intro group
    obtain ⟨combined, variance⟩ := combinedVariance_map group Run.mean
      (fun run => run.stDev ^ 2) Run.neff
    have center : cmean group = combinedMean (group.map Run.mean) (group.map Run.neff) := by
      rw [combined, cmean, sum_eq, sum_eq]
    refine ⟨center, ?_⟩
    rw [variance, ← center, cvar]
    simp only [sum_eq]
    rfl

/-- Two samples of different sizes. -/
theorem pooled_variance_pair :
    [[1, 2], [6]].mapM mean = some [3 / 2, 6] ∧ [[1, 2], [6]].mapM sd = some [1 / 4, 0] ∧
      sd [1, 2, 6] = some (14 / 3) ∧
      combinedVariance [3 / 2, 6] [1 / 4, 0] [2, 1] = some (14 / 3) := by
  have means : [[1, 2], [6]].map Pooling.mean = [3 / 2, (6 : ℚ)] := by decide +kernel
  have variances : [[1, 2], [6]].map Pooling.variance = [1 / 4, (0 : ℚ)] := by decide +kernel
  have variance : Pooling.variance [1, 2, 6] = (14 / 3 : ℚ) := by decide +kernel
  rw [← means, ← variances, ← variance]
  exact pooled_variance.1 [[1, 2], [6]] (by decide) (by decide)

end AirTrafficControl.Results
