import AirTrafficControl.Library.Pooling
import AirTrafficControl.Results.Factorial
import Mathlib.Algebra.BigOperators.Field
import Mathlib.Algebra.Order.Field.Rat
import Mathlib.Tactic.FieldSimp

/-!
# The variation of the observations

What `analyze` computes, in exact arithmetic, from a table with as many observations in each of
its rows: the effects explain the mean of every row, and the variation of the observations is
that of the effects and that of the errors.
-/

namespace AirTrafficControl.Results

open Walsh Finset

universe u

variable {K : Type u}

/-- A table for `k` factors with `r` observations in each row. -/
structure Balanced (data : List (List K)) (k r : Nat) : Prop where
  length : data.length = 2 ^ k
  row : ∀ values ∈ data, values.length = r

theorem Balanced.length_flatten {data : List (List K)} {k r : Nat}
    (balanced : Balanced data k r) : data.flatten.length = 2 ^ k * r := by
  have lengths : data.map List.length = List.replicate data.length r :=
    List.map_eq_replicate_iff.mpr balanced.row
  rw [List.length_flatten, lengths, List.sum_replicate, balanced.length, smul_eq_mul]

variable [Field K]

/-- The mean of a row. -/
def response (data : List (List K)) (row : Nat) : K := (data.map Pooling.mean).getD row 0

/-- The sums of the code. -/
theorem foldl_add_map {Item : Type*} (term : Item → K) (items : List Item) (start : K) :
    items.foldl (fun total item => total + term item) start =
      start + (items.map term).sum := by
  induction items generalizing start with
  | nil => exact (add_zero start).symm
  | cons item rest ih =>
      rw [List.foldl_cons, ih, List.map_cons, List.sum_cons, add_assoc]

/-- A sum of the rows by their numbers. -/
theorem sum_range_getD {M : Type*} [AddCommMonoid M] (term : K → M) (values : List K) {n : Nat}
    (length : values.length = n) :
    ∑ row ∈ range n, term (values.getD row 0) = (values.map term).sum := by
  subst length
  induction values with
  | nil => rfl
  | cons value rest ih =>
      rw [List.length_cons, sum_range_succ', List.map_cons, List.sum_cons, ← ih, add_comm]
      rfl

theorem mapM_ok {Input Output : Type*} {function : Input → Outcome Output}
    {value : Input → Output} {inputs : List Input}
    (defined : ∀ input ∈ inputs, function input = .ok (value input)) :
    inputs.mapM function = .ok (inputs.map value) := by
  induction inputs with
  | nil => rfl
  | cons input rest ih =>
      obtain ⟨first, others⟩ := List.forall_mem_cons.mp defined
      rw [List.mapM_cons, first, ih others]
      rfl

namespace Observations

section Analyze

variable {data : List (List K)} {k r : Nat}

theorem effect_eq (bound : k ≤ 32) {col : Nat} (isCol : col < 2 ^ k) :
    effect (signMatrix k) (data.map Pooling.mean) k col =
      transform k (response data) col / (2 ^ k : Nat) := by
  have sums : ((List.range (2 ^ k)).map fun row => (data.map Pooling.mean).getD row 0 *
      (entry (signMatrix k) row col : K)) =
        (List.range (2 ^ k)).map fun row => response data row * (sign row col : K) := by
    apply List.map_congr_left
    intro row member
    rw [entry_signMatrix bound (List.mem_range.mp member) isCol]
    rfl
  rw [effect, foldl_add_map, zero_add, sums]
  rfl

/-- The residuals of the rows, one after another. -/
def errors (data : List (List K)) : List (K × K) :=
  data.flatMap fun values => values.map fun v => (Pooling.mean values, v - Pooling.mean values)

variable [DecidableEq K]

theorem addErrors_eq (self : Observations K) (y : K) (values : List K) :
    self.addErrors y values = { self with
      sse := self.sse + Pooling.spread values y
      residuals := (values.map fun v => (y, v - y)).foldl
        (fun residuals entry => appendResidual entry.1 entry.2 residuals) self.residuals } := by
  unfold addErrors Pooling.spread
  induction values generalizing self with
  | nil => simp
  | cons v rest ih =>
      rw [List.foldl_cons, ih, List.map_cons, List.map_cons, List.foldl_cons, List.sum_cons,
        ← add_assoc]

/-- The loops over all rows. -/
theorem foldl_addErrors (self : Observations K) (data : List (List K)) :
    (((data.map Pooling.mean).zip data).foldl
        (fun self (y, values) => self.addErrors y values) self) = { self with
      sse := self.sse + (data.map fun values =>
        Pooling.spread values (Pooling.mean values)).sum
      residuals := (errors data).foldl
        (fun residuals entry => appendResidual entry.1 entry.2 residuals) self.residuals } := by
  induction data generalizing self with
  | nil => simp [errors]
  | cons values rest ih =>
      rw [List.map_cons, List.zip_cons_cons, List.foldl_cons, ih]
      dsimp only
      rw [addErrors_eq, List.map_cons, List.sum_cons, ← add_assoc, errors, errors,
        List.flatMap_cons, List.foldl_append]

/-- The members when all but the standard deviation is computed. -/
def prepared (data : List (List K)) (k r : Nat) : Observations K :=
  ((fresh data k r).addRows (data.map Pooling.mean)).addEffects (data.map Pooling.mean)

theorem prepared_sse : (prepared data k r).sse =
    (data.map fun values => Pooling.spread values (Pooling.mean values)).sum := by
  have rows := foldl_addErrors (fresh data k r) data
  exact (congrArg sse rows).trans (zero_add _)

theorem prepared_residuals :
    (prepared data k r).residuals = Dictionary.collect (errors data) :=
  congrArg residuals (foldl_addErrors (fresh data k r) data)

theorem prepared_k : (prepared data k r).k = k :=
  congrArg Observations.k (foldl_addErrors (fresh data k r) data)

theorem prepared_r : (prepared data k r).r = r :=
  congrArg Observations.r (foldl_addErrors (fresh data k r) data)

theorem prepared_effects (bound : k ≤ 32) : (prepared data k r).effects =
    (List.range (2 ^ k)).map fun col => transform k (response data) col / (2 ^ k : Nat) := by
  change (List.range (2 ^ (prepared data k r).k)).map
    (effect (signMatrix (prepared data k r).k) (data.map Pooling.mean)
      (prepared data k r).k) = _
  rw [prepared_k]
  exact List.map_congr_left fun col member => effect_eq bound (List.mem_range.mp member)

theorem prepared_ssEffects : (prepared data k r).ssEffects =
    (prepared data k r).effects.map fun effect => ((2 ^ k * r : Nat) : K) * effect ^ 2 := by
  change (prepared data k r).effects.map (fun effect =>
    ((2 ^ (prepared data k r).k * (prepared data k r).r : Nat) : K) * effect ^ 2) = _
  rw [prepared_k, prepared_r]

theorem length_ssEffects (bound : k ≤ 32) : (prepared data k r).ssEffects.length = 2 ^ k := by
  rw [prepared_ssEffects, prepared_effects bound, List.length_map, List.length_map,
    List.length_range]

theorem prepared_ssy : (prepared data k r).ssy =
    (prepared data k r).ssEffects.sum + (prepared data k r).sse := by
  have sum := foldl_add_map id (prepared data k r).ssEffects 0
  have start : ((fresh data k r).addRows (data.map Pooling.mean)).ssy = 0 :=
    congrArg Observations.ssy (foldl_addErrors (fresh data k r) data)
  change (prepared data k r).ssEffects.foldl (fun ssy ss => ssy + id ss)
    ((fresh data k r).addRows (data.map Pooling.mean)).ssy + (prepared data k r).sse = _
  rw [start, sum, zero_add, List.map_id]

theorem prepared_sst : (prepared data k r).sst =
    (prepared data k r).ssEffects.tail.sum + (prepared data k r).sse := by
  change (prepared data k r).ssy - (prepared data k r).ssEffects.headD 0 = _
  rw [prepared_ssy]
  cases (prepared data k r).ssEffects with
  | nil => simp
  | cons first rest =>
      rw [List.sum_cons, List.headD_cons, List.tail_cons]
      ring

variable [CharZero K] (sqrt : K → K) (bound : k ≤ 32) (balanced : Balanced data k r)

include balanced in
theorem mapM_divide (positive : 1 ≤ r) :
    data.mapM (fun values => divide (values.foldl (fun total v => total + v) 0) (r : K)) =
      .ok (data.map Pooling.mean) := by
  have nonzero : (r : K) ≠ 0 := Nat.cast_ne_zero.mpr (Nat.pos_iff_ne_zero.mp positive)
  apply mapM_ok
  intro values member
  have total := foldl_add_map id values 0
  rw [zero_add, List.map_id] at total
  rw [divide, if_neg nonzero, Pooling.mean, balanced.row values member]
  exact congrArg (fun total => Except.ok (total / (r : K))) total

include balanced in
/-- The analysis fails for single observations only. -/
theorem analyze_eq (positive : 1 ≤ r) :
    (fresh data k r).analyze sqrt =
      (divide (prepared data k r).sse ((r * (r - 1) : Nat) : K)).map fun variance =>
        { prepared data k r with stdDev := sqrt variance / (2 ^ k : Nat) } := by
  change (data.mapM fun values =>
    divide (values.foldl (fun total v => total + v) 0) (r : K)) >>= _ = _
  rw [mapM_divide balanced positive]
  change divide (prepared data k r).sse (((prepared data k r).r *
    ((prepared data k r).r - 1) : Nat) : K) >>= _ = _
  rw [prepared_r]
  cases divide (prepared data k r).sse ((r * (r - 1) : Nat) : K) with
  | error failure => rfl
  | ok variance =>
      change Except.ok { prepared data k r with
        stdDev := sqrt variance / (2 ^ (prepared data k r).k : Nat) } = _
      rw [prepared_k]
      rfl

include balanced in
/-- The errors of single observations have no variance. -/
theorem analyze_single (single : r = 1) :
    (fresh data k r).analyze sqrt = .error .zeroDivisionError := by
  rw [analyze_eq sqrt balanced (by omega), divide, single, if_pos (by simp)]
  rfl

/-- The members when the standard deviation is computed too. -/
def analysed (sqrt : K → K) (data : List (List K)) (k r : Nat) : Observations K :=
  { prepared data k r with
    stdDev := sqrt ((prepared data k r).sse / (r * (r - 1) : Nat)) / (2 ^ k : Nat) }

include balanced in
theorem analyze_several (several : 2 ≤ r) :
    (fresh data k r).analyze sqrt = .ok (analysed sqrt data k r) := by
  have nonzero : ((r * (r - 1) : Nat) : K) ≠ 0 :=
    Nat.cast_ne_zero.mpr (Nat.mul_ne_zero (by omega) (by omega))
  rw [analyze_eq sqrt balanced (by omega), divide, if_neg nonzero]
  rfl

end Analyze

/-! ## Means and squares -/

section Variation

variable {data : List (List K)} {k r : Nat}

theorem effects_getD [DecidableEq K] (bound : k ≤ 32) {col : Nat} (isCol : col < 2 ^ k) :
    (prepared data k r).effects.getD col 0 =
      transform k (response data) col / (2 ^ k : Nat) := by
  rw [prepared_effects bound, List.getD_eq_getElem?_getD, List.getElem?_map,
    List.getElem?_range isCol]
  rfl

/-- The squares of the effects are those of the means. -/
theorem sum_ssEffects [CharZero K] [DecidableEq K] (bound : k ≤ 32) :
    (prepared data k r).ssEffects.sum =
      (r : K) * ∑ row ∈ range (2 ^ k), response data row ^ 2 := by
  have rows : ((2 ^ k : Nat) : K) ≠ 0 := Nat.cast_ne_zero.mpr (by positivity)
  have squares : (prepared data k r).ssEffects.sum =
      ∑ col ∈ range (2 ^ k), ((2 ^ k * r : Nat) : K) *
        (transform k (response data) col / (2 ^ k : Nat)) ^ 2 := by
    rw [prepared_ssEffects, prepared_effects bound, List.map_map]
    rfl
  have parseval := sum_transform_sq (k := k) (response data)
  rw [squares, ← mul_sum]
  simp only [div_pow]
  rw [← sum_div, parseval, Nat.cast_mul]
  field_simp

variable (balanced : Balanced data k r)

include balanced

/-- A sum over the rows. -/
theorem sum_response (term : K → K) :
    ∑ row ∈ range (2 ^ k), term (response data row) =
      (data.map fun values => term (Pooling.mean values)).sum := by
  have length : (data.map Pooling.mean).length = 2 ^ k := by
    rw [List.length_map, balanced.length]
  exact (sum_range_getD term _ length).trans (congrArg List.sum List.map_map)

variable [CharZero K] (positive : 1 ≤ r)

include positive

theorem length_ne_zero_of_mem {values : List K} (member : values ∈ data) :
    (values.length : K) ≠ 0 := by
  rw [balanced.row values member]
  exact Nat.cast_ne_zero.mpr (Nat.pos_iff_ne_zero.mp positive)

/-- The means of the rows average to the mean of all observations. -/
theorem sum_means : (data.map Pooling.mean).sum =
    (2 ^ k : Nat) * Pooling.mean data.flatten := by
  have replicas : (r : K) ≠ 0 := Nat.cast_ne_zero.mpr (Nat.pos_iff_ne_zero.mp positive)
  have rows : ((2 ^ k : Nat) : K) ≠ 0 := Nat.cast_ne_zero.mpr (by positivity)
  rw [← Pooling.mean_means replicas balanced.row, Pooling.mean, List.length_map, balanced.length,
    mul_div_cancel₀ _ rows]

/-- The squares of the observations are those of the means and of the errors. -/
theorem spread_zero : Pooling.spread data.flatten 0 =
    (r : K) * ∑ row ∈ range (2 ^ k), response data row ^ 2 +
      (data.map fun values => Pooling.spread values (Pooling.mean values)).sum := by
  have within : ∀ values ∈ data, Pooling.spread values 0 =
      (r : K) * Pooling.mean values ^ 2 + Pooling.spread values (Pooling.mean values) := by
    intro values member
    have nonzero := length_ne_zero_of_mem balanced positive member
    rw [Pooling.spread_eq nonzero 0, Pooling.spread_eq nonzero (Pooling.mean values),
      balanced.row values member]
    ring
  rw [Pooling.spread_flatten, List.map_congr_left within, List.sum_map_add,
    List.sum_map_mul_left, sum_response balanced fun mean => mean ^ 2]

variable [DecidableEq K] (bound : k ≤ 32)

include bound

theorem headD_effects : (prepared data k r).effects.headD 0 = Pooling.mean data.flatten := by
  have rows : ((2 ^ k : Nat) : K) ≠ 0 := Nat.cast_ne_zero.mpr (by positivity)
  have means := sum_response balanced id
  rw [List.headD_eq_head?_getD, List.head?_eq_getElem?, ← List.getD_eq_getElem?_getD,
    effects_getD bound (by positivity), transform_zero]
  simp only [id] at means
  rw [means, sum_means balanced positive, mul_div_cancel_left₀ _ rows]

/-- The effects and the errors explain the variation about the mean of all observations. -/
theorem prepared_ssy_eq : (prepared data k r).ssy = Pooling.spread data.flatten 0 := by
  rw [prepared_ssy, sum_ssEffects bound, prepared_sse,
    spread_zero balanced positive]

theorem prepared_sst_eq : (prepared data k r).sst =
    Pooling.spread data.flatten (Pooling.mean data.flatten) := by
  have all : ((2 ^ k * r : Nat) : K) ≠ 0 :=
    Nat.cast_ne_zero.mpr (Nat.mul_ne_zero (by positivity) (by omega))
  have some : (data.flatten.length : K) ≠ 0 := by rwa [balanced.length_flatten]
  have first : (prepared data k r).ssEffects.headD 0 =
      ((2 ^ k * r : Nat) : K) * Pooling.mean data.flatten ^ 2 := by
    rw [prepared_ssEffects, ← headD_effects balanced positive bound]
    cases (prepared data k r).effects with
    | nil => simp
    | cons effect rest => rfl
  have total : (prepared data k r).sst =
      (prepared data k r).ssy - (prepared data k r).ssEffects.headD 0 := rfl
  rw [total, prepared_ssy_eq balanced positive bound, first, Pooling.spread_eq some 0,
    Pooling.spread_eq some (Pooling.mean data.flatten), balanced.length_flatten]
  ring

end Variation

/-! ## Shares of the variation -/

section Shares

variable [LinearOrder K] [IsStrictOrderedRing K] {data : List (List K)} {k r : Nat}

theorem prepared_sse_nonneg : 0 ≤ (prepared data k r).sse := by
  rw [prepared_sse]
  apply List.sum_nonneg
  intro part member
  obtain ⟨values, -, rfl⟩ := List.mem_map.mp member
  exact Pooling.spread_nonneg values _

theorem nonneg_of_mem_ssEffects {ss : K} (member : ss ∈ (prepared data k r).ssEffects) :
    0 ≤ ss := by
  rw [prepared_ssEffects] at member
  obtain ⟨effect, -, rfl⟩ := List.mem_map.mp member
  exact mul_nonneg (Nat.cast_nonneg _) (sq_nonneg effect)

end Shares

/-! ## The results of the analysis -/

/-- The square root of a square. -/
def squareRoot (square : ℚ) : ℚ := (Nat.sqrt square.num.toNat : ℚ) / Nat.sqrt square.den

/-- Two rows, with errors of three and of four. -/
def small : List (List ℚ) := [[0, 6], [2, 10]]

theorem balanced_small : Balanced small 1 2 where
  length := rfl
  row := by decide

section Results

variable [LinearOrder K] [IsStrictOrderedRing K] {data : List (List K)} {k r : Nat}
  (sqrt : K → K) (bound : k ≤ 32) (balanced : Balanced data k r) (several : 2 ≤ r)

include bound balanced several in
/-- The effects determine the predicted responses: weighed with the signs of a row of the sign
matrix, they add up to the mean of the observations of that row. -/
theorem analyze_interpolates :
    ∃ self, (fresh data k r).analyze sqrt = .ok self ∧ self.effects.length = 2 ^ k ∧
      ∀ row (isRow : row < data.length),
        ((List.range (2 ^ k)).map fun col =>
          self.effects.getD col 0 * (entry (signMatrix k) row col : K)).sum =
            Pooling.mean data[row] := by
  have rows : ((2 ^ k : Nat) : K) ≠ 0 := Nat.cast_ne_zero.mpr (by positivity)
  refine ⟨_, analyze_several sqrt balanced several, ?_, ?_⟩
  · change (prepared data k r).effects.length = 2 ^ k
    rw [prepared_effects bound, List.length_map, List.length_range]
  · intro row isRow
    have inTable : row < 2 ^ k := balanced.length ▸ isRow
    have mean : response data row = Pooling.mean data[row] := by
      rw [response, List.getD_eq_getElem?_getD, List.getElem?_map,
        List.getElem?_eq_getElem isRow]
      rfl
    have terms : (List.range (2 ^ k)).map (fun col =>
        (prepared data k r).effects.getD col 0 * (entry (signMatrix k) row col : K)) =
        (List.range (2 ^ k)).map fun col =>
          transform k (response data) col * (sign row col : K) / (2 ^ k : Nat) := by
      apply List.map_congr_left
      intro col member
      have isCol := List.mem_range.mp member
      rw [effects_getD bound isCol, entry_signMatrix bound inTable isCol]
      ring
    have sums : ∑ col ∈ range (2 ^ k),
        transform k (response data) col * (sign row col : K) / (2 ^ k : Nat) =
          response data row := by
      rw [← sum_div, sum_transform_mul_sign _ inTable, mul_div_cancel_left₀ _ rows]
    exact (congrArg List.sum terms).trans (sums.trans mean)

theorem analyze_interpolates_small :
    ∃ self, (fresh small 1 2).analyze squareRoot = .ok self ∧ self.effects.length = 2 ∧
      ∀ row (isRow : row < small.length),
        ((List.range 2).map fun col =>
          self.effects.getD col 0 * (entry (signMatrix 1) row col : ℚ)).sum =
            Pooling.mean small[row] :=
  analyze_interpolates squareRoot (by decide) balanced_small le_rfl

include bound balanced several in
/-- The decomposition of the variation.  The reported SSY is the sum of the squares of all
observations, SST is the sum of their squared distances from the mean of all, which is the
effect without letters, and SST is made up of the squared sums of the other effects and of
SSE. -/
theorem analyze_decomposes :
    ∃ self, (fresh data k r).analyze sqrt = .ok self ∧
      self.effects.headD 0 = Pooling.mean data.flatten ∧
      self.ssy = (data.flatten.map fun v => v ^ 2).sum ∧
      self.sst = Pooling.spread data.flatten (Pooling.mean data.flatten) ∧
      self.sst = self.ssEffects.tail.sum + self.sse ∧
      0 ≤ self.sse ∧ ∀ ss ∈ self.ssEffects, 0 ≤ ss := by
  have positive : 1 ≤ r := by omega
  refine ⟨_, analyze_several sqrt balanced several, ?_, ?_, ?_, ?_, ?_, ?_⟩
  · exact headD_effects balanced positive bound
  · have squares := prepared_ssy_eq balanced positive bound
    simp only [Pooling.spread, sub_zero] at squares
    exact squares
  · exact prepared_sst_eq balanced positive bound
  · exact prepared_sst
  · exact prepared_sse_nonneg
  · exact fun _ => nonneg_of_mem_ssEffects

theorem analyze_decomposes_small :
    ∃ self, (fresh small 1 2).analyze squareRoot = .ok self ∧
      self.effects.headD 0 = Pooling.mean small.flatten ∧
      self.ssy = (small.flatten.map fun v => v ^ 2).sum ∧
      self.sst = Pooling.spread small.flatten (Pooling.mean small.flatten) ∧
      self.sst = self.ssEffects.tail.sum + self.sse ∧
      0 ≤ self.sse ∧ ∀ ss ∈ self.ssEffects, 0 ≤ ss :=
  analyze_decomposes squareRoot (by decide) balanced_small le_rfl

end Results

end Observations

end AirTrafficControl.Results
