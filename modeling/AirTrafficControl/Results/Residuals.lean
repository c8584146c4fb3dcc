import AirTrafficControl.Results.Summary

/-!
# The residual files

The file of the residuals groups the errors by predicted response, and no observation is lost in
it.  The file of the normal plot pairs the sorted errors with quantiles, in exact arithmetic.
-/

namespace AirTrafficControl.Results

universe u

variable {K : Type u} [Field K] [LinearOrder K]

namespace Observations

/-! ## Residuals -/

section Errors

variable {data : List (List K)}

omit [LinearOrder K] in
/-- The errors of a row with the response added are the row. -/
theorem map_errors (data : List (List K)) :
    (errors data).map (fun entry => entry.1 + entry.2) = data.flatten := by
  have row : ∀ values : List K, (values.map fun v =>
      (Pooling.mean values, v - Pooling.mean values)).map (fun entry => entry.1 + entry.2) =
        values := by
    intro values
    rw [List.map_map]
    exact (List.map_congr_left fun v _ => add_sub_cancel _ v).trans (List.map_id _)
  unfold errors
  induction data with
  | nil => rfl
  | cons values rest ih => rw [List.flatMap_cons, List.map_append, row, ih, List.flatten_cons]

/-- The errors of the rows with a response. -/
theorem valuesOf_errors (data : List (List K)) (y : K) :
    Dictionary.valuesOf (errors data) y =
      (data.filter fun values => Pooling.mean values = y).flatMap fun values =>
        values.map fun v => v - y := by
  induction data with
  | nil => rfl
  | cons values rest ih =>
      have split : errors (values :: rest) =
          values.map (fun v => (Pooling.mean values, v - Pooling.mean values)) ++
            errors rest := rfl
      rw [split, Dictionary.valuesOf_append, ih, List.filter_cons]
      by_cases same : Pooling.mean values = y
      · rw [if_pos (decide_eq_true same), List.flatMap_cons]
        congr 1
        simp [Dictionary.valuesOf, List.filter_map, same, Function.comp_def]
      · rw [if_neg (by simpa using same)]
        simp [Dictionary.valuesOf, same]

omit [LinearOrder K] in
/-- The predicted responses in the order of the file. -/
theorem map_fst_errors {r : Nat} (row : ∀ values ∈ data, values.length = r) :
    (errors data).map Prod.fst = (data.map Pooling.mean).flatMap (List.replicate r) := by
  unfold errors
  induction data with
  | nil => rfl
  | cons values rest ih =>
      obtain ⟨length, others⟩ := List.forall_mem_cons.mp row
      rw [List.flatMap_cons, List.map_append, ih others, List.map_cons, List.flatMap_cons,
        List.map_map, ← length]
      congr 1
      exact List.map_const' ..

/-- The residuals of a file, response by response. -/
def groupedErrors (data : List (List K)) : List (K × K) :=
  (data.map Pooling.mean).eraseDups.flatMap fun y =>
    ((data.filter fun values => Pooling.mean values = y).flatMap fun values =>
      values.map fun v => (y, v - y))

theorem saveResiduals_prepared {k r : Nat} (balanced : Balanced data k r) (positive : 1 ≤ r) :
    (prepared data k r).saveResiduals = groupedErrors data := by
  have keys : ((errors data).map Prod.fst).eraseDups = (data.map Pooling.mean).eraseDups := by
    rw [map_fst_errors balanced.row, Dictionary.eraseDups_flatMap_replicate _ positive]
  unfold saveResiduals
  rw [prepared_residuals, Dictionary.collect_eq, keys, List.flatMap_map]
  unfold groupedErrors
  congr 1
  funext y
  dsimp only
  rw [valuesOf_errors, List.map_flatMap]
  simp only [List.map_map, Function.comp_def]

theorem saveResiduals_perm {k r : Nat} :
    (prepared data k r).saveResiduals.Perm (errors data) := by
  unfold saveResiduals
  rw [prepared_residuals]
  exact Dictionary.items_collect (errors data)

omit [LinearOrder K] in
theorem sum_map_sub_mean (values : List K) (some : (values.length : K) ≠ 0) :
    (values.map fun v => v - Pooling.mean values).sum = 0 := by
  simp only [sub_eq_add_neg]
  rw [List.sum_map_add, List.map_id', List.map_const', List.sum_replicate, nsmul_eq_mul,
    Pooling.mean, mul_neg, mul_div_cancel₀ _ some, add_neg_cancel]

/-- The errors of a response cancel out. -/
theorem sum_valuesOf_errors [CharZero K] {k r : Nat} (balanced : Balanced data k r)
    (positive : 1 ≤ r) (y : K) : (Dictionary.valuesOf (errors data) y).sum = 0 := by
  have row : ∀ values ∈ data.filter (fun values => Pooling.mean values = y),
      (values.map fun v => v - y).sum = 0 := by
    intro values member
    obtain ⟨inTable, mean⟩ := List.mem_filter.mp member
    obtain rfl := of_decide_eq_true mean
    exact sum_map_sub_mean values (length_ne_zero_of_mem balanced positive inTable)
  rw [valuesOf_errors, List.flatMap_def, List.sum_flatten, List.map_map]
  apply List.sum_eq_zero
  intro total isTotal
  obtain ⟨values, member, rfl⟩ := List.mem_map.mp isTotal
  exact row values member

end Errors

/-! ## Quantiles -/

section Quantiles

variable [IsStrictOrderedRing K] {n i j : Nat}

theorem plottingPosition_bounds : 0 < (plottingPosition n : K) ∧
    plottingPosition n + plottingPosition n ≤ (1 : K) := by
  have half : ((1 : Nat) : K) / ((2 : Nat) : K) + ((1 : Nat) : K) / ((2 : Nat) : K) = 1 := by
    push_cast
    ring
  have eighths : ((3 : Nat) : K) / ((8 : Nat) : K) + ((3 : Nat) : K) / ((8 : Nat) : K) ≤ 1 := by
    push_cast
    linarith
  unfold plottingPosition
  split
  · exact ⟨by positivity, eighths⟩
  · exact ⟨by positivity, half.le⟩

theorem probability_denominator_pos (some : 1 ≤ n) :
    (0 : K) < n + 1 - (plottingPosition n + plottingPosition n) := by
  have count : (1 : K) ≤ n := Nat.one_le_cast.mpr some
  have bounds := plottingPosition_bounds (K := K) (n := n)
  linarith

theorem probability_lt (some : 1 ≤ n) (less : i < j) :
    (probability n i : K) < probability n j := by
  have cast : (i : K) < j := Nat.cast_lt.mpr less
  exact div_lt_div_of_pos_right (sub_lt_sub_right cast _) (probability_denominator_pos some)

theorem probability_mem (first : 1 ≤ i) (last : i ≤ n) :
    (probability n i : K) ∈ Set.Ioo (0 : K) 1 := by
  have positive := probability_denominator_pos (K := K) (first.trans last)
  have bounds := plottingPosition_bounds (K := K) (n := n)
  have low : (1 : K) ≤ i := Nat.one_le_cast.mpr first
  have high : (i : K) ≤ n := Nat.cast_le.mpr last
  constructor
  · exact div_pos (by linarith) positive
  · rw [probability, div_lt_one positive]
    linarith

/-- The probabilities lie symmetrically about one half. -/
theorem probability_mirror (some : 1 ≤ n) (last : i ≤ n) :
    (probability n (n + 1 - i) : K) = 1 - probability n i := by
  have nonzero := (probability_denominator_pos (K := K) some).ne'
  have cast : ((n + 1 - i : Nat) : K) = n + 1 - i := by
    rw [Nat.cast_sub (last.trans n.le_succ), Nat.cast_succ]
  rw [probability, probability, cast, eq_sub_iff_add_eq, ← add_div, div_eq_one_iff_eq nonzero]
  ring

/-- The quantiles of a distribution that is symmetric about zero. -/
structure Symmetric (ppf : K → K) : Prop where
  increasing : StrictMonoOn ppf (Set.Ioo 0 1)
  odd : ∀ p ∈ Set.Ioo (0 : K) 1, ppf (1 - p) = -ppf p

/-- The quantiles of the normal plot. -/
def quantiles (ppf : K → K) (n : Nat) : List K :=
  (List.range' 1 n).map fun i => ppf (probability n i)

variable {ppf : K → K} (symmetric : Symmetric ppf)

include symmetric

theorem Symmetric.quantiles_increasing (n : Nat) : (quantiles ppf n).Pairwise (· < ·) := by
  apply List.pairwise_map.mpr
  apply List.Pairwise.imp_of_mem _ List.pairwise_lt_range'
  intro i j isQuantile isLater less
  obtain ⟨first, last⟩ := List.mem_range'_1.mp isQuantile
  obtain ⟨-, later⟩ := List.mem_range'_1.mp isLater
  exact symmetric.increasing (probability_mem first (by omega))
    (probability_mem (first.trans less.le) (by omega)) (probability_lt (by omega) less)

theorem Symmetric.quantiles_reverse (n : Nat) :
    (quantiles ppf n).reverse = (quantiles ppf n).map Neg.neg := by
  unfold quantiles
  apply List.ext_getElem
  · simp
  · intro i bound _
    have inside : i < n := by simpa using bound
    have mirror : 1 + (n - 1 - i) = n + 1 - (1 + i) := by omega
    rw [List.getElem_reverse]
    simp only [List.getElem_map, List.getElem_range', List.length_map, List.length_range',
      one_mul]
    rw [mirror, probability_mirror (by omega) (by omega),
      symmetric.odd _ (probability_mem (by omega) (by omega))]

end Quantiles

/-! ## The files of the script -/

theorem symmetric_small : Symmetric smallLibraries.ppf where
  increasing := by
    intro p _ q _ less
    have centred : p - 1 / 2 < q - 1 / 2 := sub_lt_sub_right less _
    have cubes : (p - 1 / 2) ^ 3 < (q - 1 / 2) ^ 3 :=
      (Odd.strictMono_pow (by decide : Odd 3)) centred
    change 5 / 2 * (p - 1 / 2) + 21 / 8 * (p - 1 / 2) ^ 3 <
      5 / 2 * (q - 1 / 2) + 21 / 8 * (q - 1 / 2) ^ 3
    linarith
  odd p _ := by
    change 5 / 2 * (1 - p - 1 / 2) + 21 / 8 * (1 - p - 1 / 2) ^ 3 =
      -(5 / 2 * (p - 1 / 2) + 21 / 8 * (p - 1 / 2) ^ 3)
    ring

section Script

variable (libraries : Libraries K) (brief : Bool) {inputFile : String}
  {format : K → List Char} {data : List (List K)} {k r : Nat} [IsStrictOrderedRing K]
  (readsBack : ∀ values ∈ data, ∀ value ∈ values, ReadsBack libraries.float format value)
  (balanced : Balanced data k r) (factors : 0 < k) (bound : k ≤ 32) (several : 2 ≤ r)
  (varied : Varied data)

/-- The normal plot of a table. -/
def normalPlot (ppf : K → K) (data : List (List K)) : List (K × K) :=
  (((errors data).map Prod.snd).insertionSort (· ≤ ·)).zip
    (quantiles ppf (errors data).length)

omit [IsStrictOrderedRing K] in
theorem length_quantiles (ppf : K → K) (data : List (List K)) :
    (quantiles ppf (errors data).length).length =
      (((errors data).map Prod.snd).insertionSort (· ≤ ·)).length := by
  rw [List.length_insertionSort, quantiles, List.length_map, List.length_map,
    List.length_range']

omit [IsStrictOrderedRing K] in
theorem normalPlot_fst (ppf : K → K) (data : List (List K)) :
    (normalPlot ppf data).map Prod.fst = ((errors data).map Prod.snd).insertionSort (· ≤ ·) :=
  List.map_fst_zip (length_quantiles ppf data).ge

omit [IsStrictOrderedRing K] in
theorem normalPlot_snd (ppf : K → K) (data : List (List K)) :
    (normalPlot ppf data).map Prod.snd = quantiles ppf (errors data).length :=
  List.map_snd_zip (length_quantiles ppf data).le

omit [IsStrictOrderedRing K] in
/-- A row with different values has errors. -/
theorem exists_error_ne_zero (ppf : K → K) {values : List K} (member : values ∈ data) {v w : K}
    (isValue : v ∈ values) (isOther : w ∈ values) (different : v ≠ w) :
    ∃ entry ∈ normalPlot ppf data, entry.1 ≠ 0 := by
  obtain ⟨value, inRow, away⟩ : ∃ value ∈ values, value - Pooling.mean values ≠ 0 := by
    by_contra none
    push Not at none
    exact different ((sub_eq_zero.mp (none v isValue)).trans
      (sub_eq_zero.mp (none w isOther)).symm)
  have isError : (Pooling.mean values, value - Pooling.mean values) ∈ errors data :=
    List.mem_flatMap.mpr ⟨values, member, List.mem_map_of_mem inRow⟩
  have inPlot : value - Pooling.mean values ∈ (normalPlot ppf data).map Prod.fst := by
    rw [normalPlot_fst]
    exact (List.perm_insertionSort _ _).mem_iff.mpr (List.mem_map_of_mem isError)
  obtain ⟨entry, isEntry, same⟩ := List.mem_map.mp inPlot
  exact ⟨entry, isEntry, same ▸ away⟩

omit [IsStrictOrderedRing K] in
theorem saveQqnorm_prepared (ppf : K → K) :
    (prepared data k r).saveQqnorm ppf = normalPlot ppf data := by
  have perm : ((prepared data k r).residuals.flatMap Prod.snd).Perm
      ((errors data).map Prod.snd) := by
    have column : (prepared data k r).residuals.flatMap Prod.snd =
        (prepared data k r).saveResiduals.map Prod.snd := by
      unfold saveResiduals
      rw [List.map_flatMap]
      simp only [List.map_map, Function.comp_def, List.map_id']
    rw [column]
    exact saveResiduals_perm.map Prod.snd
  have sorted : ((prepared data k r).residuals.flatMap Prod.snd).insertionSort (· ≤ ·) =
      ((errors data).map Prod.snd).insertionSort (· ≤ ·) :=
    List.Perm.eq_of_pairwise (fun _ _ _ _ => le_antisymm)
      (List.pairwise_insertionSort _ _) (List.pairwise_insertionSort _ _)
      ((List.perm_insertionSort _ _).trans (perm.trans (List.perm_insertionSort _ _).symm))
  unfold saveQqnorm normalPlot
  dsimp only
  rw [sorted, List.length_insertionSort, List.length_map]
  rfl

include readsBack balanced factors bound several varied

/-- The file of the residuals.  It groups the observations by the responses that are predicted
for them, in the order in which these first occur.  A line adds up to an observation, none is
lost, and the errors of each response cancel out. -/
theorem script_residuals :
    ∃ report, script libraries brief inputFile (data.map (savetxtLine format)) = .ok report ∧
      report.residuals = groupedErrors data ∧
      (report.residuals.map fun entry => entry.1 + entry.2).Perm data.flatten ∧
      ∀ y, ((report.residuals.filter fun entry => entry.1 = y).map Prod.snd).sum = 0 := by
  have positive : 1 ≤ r := by omega
  have perm : (prepared data k r).saveResiduals.Perm (errors data) := saveResiduals_perm
  refine ⟨_, script_of_varied libraries brief readsBack balanced factors bound several varied,
    saveResiduals_prepared balanced positive, ?_, ?_⟩
  · rw [← map_errors]
    exact perm.map _
  · intro y
    rw [← sum_valuesOf_errors balanced positive y]
    exact ((perm.filter _).map _).sum_eq

omit readsBack balanced factors bound several varied in
theorem script_residuals_small :
    ∃ report, script smallLibraries false "small" (small.map (savetxtLine decimal)) =
        .ok report ∧
      report.residuals = groupedErrors small ∧
      (report.residuals.map fun entry => entry.1 + entry.2).Perm small.flatten ∧
      ∀ y, ((report.residuals.filter fun entry => entry.1 = y).map Prod.snd).sum = 0 :=
  script_residuals smallLibraries false readsBack_small balanced_small (by decide) (by decide)
    le_rfl varied_small

/-- The file of the normal plot, for a distribution that is symmetric about zero.  The errors of
the residual file are sorted and paired with as many quantiles, which increase strictly and are
symmetric about zero themselves. -/
theorem script_qqnorm (symmetric : Symmetric libraries.ppf) :
    ∃ report, script libraries brief inputFile (data.map (savetxtLine format)) = .ok report ∧
      report.qqnorm.length = 2 ^ k * r ∧
      (report.qqnorm.map Prod.fst).Perm (report.residuals.map Prod.snd) ∧
      (report.qqnorm.map Prod.fst).Pairwise (· ≤ ·) ∧
      (report.qqnorm.map Prod.snd).Pairwise (· < ·) ∧
      (report.qqnorm.map Prod.snd).reverse = (report.qqnorm.map Prod.snd).map Neg.neg := by
  have count : (errors data).length = 2 ^ k * r := by
    rw [← balanced.length_flatten, ← map_errors data, List.length_map]
  refine ⟨_, script_of_varied libraries brief readsBack balanced factors bound several varied,
    ?_⟩
  change ((prepared data k r).saveQqnorm libraries.ppf).length = _ ∧
    (((prepared data k r).saveQqnorm libraries.ppf).map Prod.fst).Perm
      ((prepared data k r).saveResiduals.map Prod.snd) ∧
    (((prepared data k r).saveQqnorm libraries.ppf).map Prod.fst).Pairwise _ ∧
    (((prepared data k r).saveQqnorm libraries.ppf).map Prod.snd).Pairwise _ ∧
    (((prepared data k r).saveQqnorm libraries.ppf).map Prod.snd).reverse =
      (((prepared data k r).saveQqnorm libraries.ppf).map Prod.snd).map Neg.neg
  rw [saveQqnorm_prepared, normalPlot_fst, normalPlot_snd]
  refine ⟨?_, ?_, List.pairwise_insertionSort _ _, symmetric.quantiles_increasing _,
    symmetric.quantiles_reverse _⟩
  · rw [← List.length_map Prod.fst, normalPlot_fst, List.length_insertionSort, List.length_map,
      count]
  · exact (List.perm_insertionSort _ _).trans (saveResiduals_perm.map Prod.snd).symm

omit readsBack balanced factors bound several varied in
theorem script_qqnorm_small :
    ∃ report, script smallLibraries false "small" (small.map (savetxtLine decimal)) =
        .ok report ∧
      report.qqnorm.length = 4 ∧
      (report.qqnorm.map Prod.fst).Perm (report.residuals.map Prod.snd) ∧
      (report.qqnorm.map Prod.fst).Pairwise (· ≤ ·) ∧
      (report.qqnorm.map Prod.snd).Pairwise (· < ·) ∧
      (report.qqnorm.map Prod.snd).reverse = (report.qqnorm.map Prod.snd).map Neg.neg :=
  script_qqnorm smallLibraries false readsBack_small balanced_small (by decide) (by decide)
    le_rfl varied_small symmetric_small

end Script

end Observations

end AirTrafficControl.Results
