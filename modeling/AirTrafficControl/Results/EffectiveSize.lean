import AirTrafficControl.Library.EffectiveSize
import Mathlib.Algebra.Order.Field.Rat
import Mathlib.Tactic.NormNum
import Mathlib.Tactic.Ring

/-!
# The effective sample size

`neff` of `util.py`, in exact arithmetic.  Its loop starts at the lag zero, which every sample
has and which the estimator does not count.
-/

namespace AirTrafficControl.Results

open EffectiveSize

universe u

variable {K : Type u} [Field K] [LinearOrder K]

/-- The function `acf` of the library `statsmodels` takes the sample and the argument `nlags`.
An index out of its result raises `IndexError`. -/
def neff (acf : List K → Nat → List K) (arr : List K) : Option K := do
  let n := arr.length
  let acf := acf arr n
  let sums ← (List.range n).foldlM (fun sums (k : Nat) => do
    let rho ← acf[k]?
    return sums + ((n : K) - k) * |rho| / n) 0
  return n / (1 + 2 * sums)

/-- What `acf` is expected to return for a sample. -/
structure Autocorrelation (acf : List K → Nat → List K) (arr : List K) (rho : Nat → K) :
    Prop where
  returns : acf arr arr.length = (List.range arr.length).map rho
  zero : rho 0 = 1
  bounded : ∀ k < arr.length, |rho k| ≤ 1

section Sample

variable {acf : List K → Nat → List K} {arr : List K} {rho : Nat → K}

/-- The loop sums the weighted lags. -/
theorem foldlM_lags (n : Nat) {lags : List Nat} {acf : List K}
    (present : ∀ k ∈ lags, acf[k]? = some (rho k)) (start : K) :
    lags.foldlM (fun sums (k : Nat) => do
      let rho ← acf[k]?
      return sums + ((n : K) - k) * |rho| / n) start =
        some (start + (lags.map (weighted n rho)).sum) := by
  induction lags generalizing start with
  | nil => exact congrArg some (add_zero start).symm
  | cons k later ih =>
      obtain ⟨first, others⟩ := List.forall_mem_cons.mp present
      have term : ((n : K) - k) * |rho k| / n = weighted n rho k :=
        mul_div_right_comm _ _ _
      rw [List.foldlM_cons, first]
      show List.foldlM _ (start + ((n : K) - k) * |rho k| / n) later = _
      rw [ih others, term, List.map_cons, List.sum_cons, add_assoc]

variable (correlated : Autocorrelation acf arr rho)

include correlated

theorem neff_eq :
    neff acf arr = some (arr.length / (1 + 2 * lagSum arr.length rho 0)) := by
  have present : ∀ k ∈ List.range arr.length,
      (acf arr arr.length)[k]? = some (rho k) := by
    intro k member
    rw [correlated.returns, List.getElem?_map,
      List.getElem?_range (List.mem_range.mp member)]
    rfl
  unfold neff
  dsimp only
  rw [foldlM_lags arr.length present, zero_add, List.range_eq_range']
  rfl

variable [IsStrictOrderedRing K]

/-- The effective sample size is never the one of the reference.  The loop of `neff` counts
the lag zero too, and so the size is smaller, and at most a third of the sample. -/
theorem neff_counts_lag_zero (some : arr ≠ []) :
    ∃ size, neff acf arr = .some size ∧ ¬Estimates arr.length rho size ∧
      size = arr.length / (3 + 2 * lagSum arr.length rho 1) ∧ 0 < size ∧
      3 * size ≤ arr.length ∧ size < arr.length / (1 + 2 * lagSum arr.length rho 1) := by
  have nonempty : 0 < arr.length := List.length_pos_of_ne_nil some
  have whole : (0 : K) < arr.length := Nat.cast_pos.mpr nonempty
  have lags : 0 ≤ lagSum arr.length rho 1 := lagSum_nonneg 1
  have all : lagSum arr.length rho 0 = 1 + lagSum arr.length rho 1 := by
    rw [lagSum_zero nonempty, correlated.zero, abs_one]
  refine ⟨_, neff_eq correlated, ?_, ?_, ?_, ?_, ?_⟩
  all_goals rw [all]
  · exact not_estimates nonempty one_pos
  · congr 1
    ring
  · exact div_pos whole (by linarith)
  · rw [mul_div_assoc', div_le_iff₀ (by linarith), mul_comm]
    exact mul_le_mul_of_nonneg_left (by linarith) whole.le
  · exact div_lt_div_of_pos_left whole (by linarith) (by linarith)

end Sample

/-! ## Two samples -/

/-- The function `acf` with `unbiased = False`. -/
def biasedAcf (arr : List ℚ) (nlags : Nat) : List ℚ :=
  let centered := arr.map fun value => value - arr.sum / arr.length
  let acovf : List ℚ := (List.range arr.length).map fun k =>
    ((centered.zip (centered.drop k)).map fun (x, y) => x * y).sum / arr.length
  (acovf.take (nlags + 1)).map fun covariance => covariance / acovf.headD 0

/-- The autocorrelation of two different samples. -/
def pairRho : Nat → ℚ
  | 0 => 1
  | _ => -1 / 2

theorem correlated_pair : Autocorrelation biasedAcf [0, 1] pairRho where
  returns := by decide +kernel
  zero := rfl
  bounded := by decide +kernel

/-- Two samples count as four sevenths, where they should as four thirds. -/
theorem neff_pair :
    Autocorrelation biasedAcf [0, 1] pairRho ∧ neff biasedAcf [0, 1] = some (4 / 7) ∧
      ¬Estimates 2 pairRho (4 / 7) := by
  refine ⟨correlated_pair, by decide +kernel, ?_⟩
  rw [estimates_iff Nat.two_pos]
  decide +kernel

theorem neff_counts_lag_zero_pair :
    ∃ size, neff biasedAcf [0, 1] = some size ∧ ¬Estimates 2 pairRho size ∧
      size = 2 / (3 + 2 * lagSum 2 pairRho 1) ∧ 0 < size ∧ 3 * size ≤ 2 ∧
      size < 2 / (1 + 2 * lagSum 2 pairRho 1) :=
  neff_counts_lag_zero correlated_pair (by decide)

end AirTrafficControl.Results
