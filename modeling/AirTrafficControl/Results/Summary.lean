import AirTrafficControl.Results.Script
import Mathlib.Tactic.Linarith

/-!
# The summary of the factorial analysis

What `print_summary` prints for a balanced table, in exact arithmetic, and when the script comes
to print it.
-/

namespace AirTrafficControl.Results

universe u

variable {K : Type u} [Field K]

theorem range_getD_succ {values : List K} {n : Nat} (length : values.length = n) :
    (List.range (n - 1)).map (fun ndx => values.getD (ndx + 1) 0) = values.tail := by
  subst length
  cases values with
  | nil => rfl
  | cons first rest =>
      apply List.ext_getElem
      · simp
      · intro ndx _ inRest
        have bound : ndx < rest.length := inRest
        simp [bound]

variable [LinearOrder K]

namespace Observations

/-! ## Letters -/

section Letters

variable {number k : Nat}

/-- The letter of a factor. -/
def letter (pos : Nat) : Char := Char.ofNat ('A'.toNat + pos)

/-- The letters are those of the factors whose bits are set. -/
theorem numberToLetter_eq (number k : Nat) :
    numberToLetter number k = ((List.range k).filter number.testBit).map letter := by
  rw [← List.filterMap_eq_map, List.filterMap_filter, numberToLetter]
  congr 1
  funext pos
  rw [Nat.one_shiftLeft, Nat.and_two_pow]
  cases number.testBit pos with
  | true => simp [letter]
  | false => simp

theorem letter_injective : ∀ pos < 26, ∀ other < 26, letter pos = letter other → pos = other := by
  decide

/-- The letter of a factor is in the label of an effect when the effect involves the factor. -/
theorem mem_numberToLetter (few : k ≤ 26) {pos : Nat} (isFactor : pos < k) :
    letter pos ∈ numberToLetter number k ↔ number.testBit pos = true := by
  rw [numberToLetter_eq, List.mem_map]
  constructor
  · rintro ⟨other, member, same⟩
    obtain ⟨isOther, bit⟩ := List.mem_filter.mp member
    obtain rfl := letter_injective other ((List.mem_range.mp isOther).trans_le few) pos
      (isFactor.trans_le few) same
    exact bit
  · intro bit
    exact ⟨pos, List.mem_filter.mpr ⟨List.mem_range.mpr isFactor, bit⟩, rfl⟩

/-- A label names the factors of its effect, so that no two effects share a label. -/
theorem numberToLetter_injective (few : k ≤ 26) {other : Nat} (bound : number < 2 ^ k)
    (otherBound : other < 2 ^ k) (same : numberToLetter number k = numberToLetter other k) :
    number = other := by
  apply Nat.eq_of_testBit_eq
  intro pos
  by_cases isFactor : pos < k
  · apply Bool.eq_iff_iff.mpr
    rw [← mem_numberToLetter few isFactor, same, mem_numberToLetter few isFactor]
  · have high : 2 ^ k ≤ 2 ^ pos := Nat.pow_le_pow_right Nat.two_pos (Nat.le_of_not_lt isFactor)
    rw [Nat.testBit_lt_two_pow (bound.trans_le high),
      Nat.testBit_lt_two_pow (otherBound.trans_le high)]

/-- The mean is labelled with a digit, which is no letter. -/
theorem numberToLetter_ne_zero (few : k ≤ 26) : numberToLetter number k ≠ ['0'] := by
  have letters : ∀ pos < 26, letter pos ≠ '0' := by decide
  intro digit
  have member : '0' ∈ numberToLetter number k := digit ▸ List.mem_singleton_self '0'
  rw [numberToLetter_eq] at member
  obtain ⟨pos, isFactor, same⟩ := List.mem_map.mp member
  exact letters pos ((List.mem_range.mp (List.mem_of_mem_filter isFactor)).trans_le few) same

/-- The label of an effect in the summary. -/
def label (k ndx : Nat) : List Char :=
  if numberToLetter ndx k = [] then ['0'] else numberToLetter ndx k

theorem label_injective (few : k ≤ 26) {one other : Nat} (bound : one < 2 ^ k)
    (otherBound : other < 2 ^ k) (same : label k one = label k other) : one = other := by
  apply numberToLetter_injective few bound otherBound
  unfold label at same
  split at same <;> split at same
  · next first second => rw [first, second]
  · exact absurd same.symm (numberToLetter_ne_zero few)
  · exact absurd same (numberToLetter_ne_zero few)
  · exact same

end Letters

/-! ## The lines of the summary -/

section Lines

variable (interval : Nat → K → K → Option (K × K)) (self : Observations K)

/-- The line of an effect, when there is variation. -/
def lineOf (ndx : Nat) : EffectLine K where
  letters := label self.k ndx
  effect := self.effects.getD ndx 0
  ssEffect := self.ssEffects.getD ndx 0
  relativeImportance := if 0 < ndx then some (self.ssEffects.getD ndx 0 / self.sst) else none
  interval := interval (2 ^ self.k * (self.r - 1)) (self.effects.getD ndx 0) self.stdDev
  zeroCross := (interval (2 ^ self.k * (self.r - 1)) (self.effects.getD ndx 0)
    self.stdDev).any fun (low, high) => low < 0 ∧ 0 < high

theorem printSummary_of_zero (brief : Bool) (constant : self.sst = 0) :
    self.printSummary interval brief = .error .zeroDivisionError := by
  unfold printSummary divide
  rw [if_pos constant]
  rfl

theorem effectLine_eq (varied : self.sst ≠ 0) (ndx : Nat) :
    effectLine interval self ndx = .ok (lineOf interval self ndx) := by
  have share : divide (self.ssEffects.getD ndx 0) self.sst =
      .ok (self.ssEffects.getD ndx 0 / self.sst) := if_neg varied
  unfold effectLine lineOf
  dsimp only
  by_cases effect : 0 < ndx
  · rw [if_pos effect, if_pos effect, share]
    rfl
  · rw [if_neg effect, if_neg effect]
    rfl

/-- The summary, when there is variation. -/
def summaryOf (brief : Bool) : Summary K where
  ssy := self.ssy
  sst := self.sst
  sse := self.sse
  sseShare := self.sse / self.sst
  stdDev := self.stdDev
  effects := ((List.range (2 ^ self.k)).map (lineOf interval self)).filter fun line =>
    !brief || line.important

theorem printSummary_eq (brief : Bool) (varied : self.sst ≠ 0) :
    self.printSummary interval brief = .ok (summaryOf interval self brief) := by
  have lines : (List.range (2 ^ self.k)).mapM (effectLine interval self) =
      .ok ((List.range (2 ^ self.k)).map (lineOf interval self)) :=
    mapM_ok fun ndx _ => effectLine_eq interval self varied ndx
  have share : divide self.sse self.sst = .ok (self.sse / self.sst) := if_neg varied
  unfold printSummary
  rw [share, lines]
  rfl

/-- The line of the mean comes first. -/
theorem lines_eq : (List.range (2 ^ self.k)).map (lineOf interval self) =
    lineOf interval self 0 ::
      (List.range (2 ^ self.k - 1)).map fun ndx => lineOf interval self (ndx + 1) := by
  have size : 2 ^ self.k = 2 ^ self.k - 1 + 1 := by
    have positive := Nat.two_pow_pos self.k
    omega
  conv_lhs => rw [size, List.range_succ_eq_map, List.map_cons, List.map_map]
  rfl

/-- The shares of the effects are those of their squared sums. -/
theorem shares_eq (length : self.ssEffects.length = 2 ^ self.k) :
    ((List.range (2 ^ self.k)).map (lineOf interval self)).filterMap
        EffectLine.relativeImportance =
      self.ssEffects.tail.map fun ss => ss / self.sst := by
  have mean : (lineOf interval self 0).relativeImportance = none := rfl
  have effects : ∀ ndx, (lineOf interval self (ndx + 1)).relativeImportance =
      some (self.ssEffects.getD (ndx + 1) 0 / self.sst) := fun ndx => rfl
  rw [lines_eq, List.filterMap_cons_none mean, List.filterMap_map,
    ← range_getD_succ length, List.map_map, ← List.filterMap_eq_map]
  rfl

end Lines

section Shares

/-- What an analysis knows of its sums of squares. -/
structure Explained (result : Observations K) : Prop where
  length : result.ssEffects.length = 2 ^ result.k
  parts : result.sst = result.ssEffects.tail.sum + result.sse
  errors : 0 ≤ result.sse
  squares : ∀ ss ∈ result.ssEffects, 0 ≤ ss

variable (interval : Nat → K → K → Option (K × K)) {self : Observations K}

theorem labels_nodup (few : self.k ≤ 26) :
    (((List.range (2 ^ self.k)).map (lineOf interval self)).map EffectLine.letters).Nodup := by
  rw [List.map_map]
  refine List.Nodup.map_on ?_ List.nodup_range
  intro one isOne other isOther same
  exact label_injective few (List.mem_range.mp isOne) (List.mem_range.mp isOther) same

/-- The important effects are those with a large share. -/
theorem length_filter_important {lines : List (EffectLine K)}
    (effects : ∀ line ∈ lines, line.relativeImportance ≠ none) :
    (lines.filter EffectLine.important).length =
      ((lines.filterMap EffectLine.relativeImportance).filter fun share =>
        ((1 : Nat) : K) / ((10 : Nat) : K) ≤ share).length := by
  induction lines with
  | nil => rfl
  | cons line rest ih =>
      obtain ⟨first, others⟩ := List.forall_mem_cons.mp effects
      obtain ⟨share, isShare⟩ := Option.ne_none_iff_exists'.mp first
      have important : line.important =
          decide (((1 : Nat) : K) / ((10 : Nat) : K) ≤ share) := by
        rw [EffectLine.important, isShare]
        rfl
      rw [List.filterMap_cons_some isShare, List.filter_cons, List.filter_cons, important]
      split
      · rw [List.length_cons, List.length_cons, ih others]
      · exact ih others

/-- The shares of the effects, and that of the errors. -/
theorem Explained.sum_shares (explained : Explained self) (varied : self.sst ≠ 0) :
    (((List.range (2 ^ self.k)).map (lineOf interval self)).filterMap
      EffectLine.relativeImportance).sum + self.sse / self.sst = 1 := by
  have sums : (self.ssEffects.tail.map fun ss => ss / self.sst).sum =
      self.ssEffects.tail.sum / self.sst := by
    simp only [div_eq_mul_inv]
    rw [List.sum_map_mul_right, List.map_id']
  rw [shares_eq interval self explained.length, sums, ← add_div, ← explained.parts,
    div_self varied]

variable [IsStrictOrderedRing K]

theorem length_filter_mul_le {shares : List K} (nonneg : ∀ share ∈ shares, 0 ≤ share)
    (part : K) :
    ((shares.filter fun share => part ≤ share).length : K) * part ≤ shares.sum := by
  induction shares with
  | nil => simp
  | cons share rest ih =>
      obtain ⟨first, others⟩ := List.forall_mem_cons.mp nonneg
      rw [List.sum_cons, List.filter_cons]
      split
      · next large =>
          rw [List.length_cons, Nat.cast_add, Nat.cast_one, add_mul, one_mul, add_comm]
          exact add_le_add (of_decide_eq_true large) (ih others)
      · exact (ih others).trans (le_add_of_nonneg_left first)

/-- Ten shares at most are a tenth of the whole. -/
theorem length_filter_tenth {shares : List K} (nonneg : ∀ share ∈ shares, 0 ≤ share)
    (whole : shares.sum ≤ 1) :
    (shares.filter fun share => ((1 : Nat) : K) / ((10 : Nat) : K) ≤ share).length ≤ 10 := by
  have ten : (0 : K) < ((10 : Nat) : K) := Nat.cast_pos.mpr (by decide)
  have large := (length_filter_mul_le nonneg (((1 : Nat) : K) / ((10 : Nat) : K))).trans whole
  rw [mul_div_assoc', div_le_one ten, ← Nat.cast_mul, mul_one] at large
  exact Nat.cast_le.mp large

variable (explained : Explained self)

include explained

theorem Explained.sst_nonneg : 0 ≤ self.sst := by
  rw [explained.parts]
  exact add_nonneg (List.sum_nonneg fun ss member =>
    explained.squares ss (List.mem_of_mem_tail member)) explained.errors

theorem Explained.share_nonneg (share : K) (member : share ∈
    ((List.range (2 ^ self.k)).map (lineOf interval self)).filterMap
      EffectLine.relativeImportance) : 0 ≤ share := by
  rw [shares_eq interval self explained.length] at member
  obtain ⟨ss, isEffect, rfl⟩ := List.mem_map.mp member
  exact div_nonneg (explained.squares ss (List.mem_of_mem_tail isEffect)) explained.sst_nonneg

omit [IsStrictOrderedRing K] in
theorem Explained.ssEffect_nonneg (ndx : Nat) : 0 ≤ (lineOf interval self ndx).ssEffect := by
  change 0 ≤ self.ssEffects.getD ndx 0
  by_cases isEffect : ndx < self.ssEffects.length
  · rw [List.getD_eq_getElem _ _ isEffect]
    exact explained.squares _ (List.getElem_mem isEffect)
  · rw [List.getD_eq_default _ _ (not_lt.mp isEffect)]

theorem Explained.length_brief (varied : self.sst ≠ 0) :
    (((List.range (2 ^ self.k)).map (lineOf interval self)).filter
      EffectLine.important).length ≤ 11 := by
  have whole := explained.sum_shares interval varied
  have nonneg := fun share => explained.share_nonneg interval share
  have mean : (lineOf interval self 0).relativeImportance = none := rfl
  have first : (lineOf interval self 0).important = true := rfl
  rw [lines_eq, List.filterMap_cons_none mean] at whole nonneg
  rw [lines_eq, List.filter_cons_of_pos first, List.length_cons, length_filter_important]
  · apply Nat.succ_le_succ
    apply length_filter_tenth nonneg
    have errors := div_nonneg explained.errors explained.sst_nonneg
    linarith
  · intro line member
    obtain ⟨ndx, -, rfl⟩ := List.mem_map.mp member
    exact Option.some_ne_none _

end Shares

section Warning

variable [IsStrictOrderedRing K]

/-- An interval about an effect contains zero when the effect is small. -/
theorem contains_zero_iff {effect quantile scale : K} (nonneg : 0 ≤ quantile)
    (positive : 0 < scale) :
    effect - quantile * scale < 0 ∧ 0 < effect + quantile * scale ↔
      effect ^ 2 < quantile ^ 2 * scale ^ 2 := by
  have reach : |quantile * scale| = quantile * scale :=
    abs_of_nonneg (mul_nonneg nonneg positive.le)
  rw [← mul_pow, sq_lt_sq, reach, abs_lt, sub_neg, ← neg_lt_iff_pos_add]
  exact and_comm

/-- The variance of the effects, against that of the errors. -/
theorem small_effect_iff {effect quantile root sse : K} {rows r : Nat} (someRows : 0 < rows)
    (several : 2 ≤ r) (square : root ^ 2 = sse / (r * (r - 1) : Nat)) :
    effect ^ 2 < quantile ^ 2 * (root / rows) ^ 2 ↔
      ((rows * r : Nat) : K) * effect ^ 2 * (rows * (r - 1) : Nat) < quantile ^ 2 * sse := by
  have table : (0 : K) < ((rows ^ 2 * (r * (r - 1)) : Nat) : K) :=
    Nat.cast_pos.mpr (Nat.mul_pos (Nat.pow_pos someRows) (Nat.mul_pos (by omega) (by omega)))
  have rowsNonzero : (rows : K) ≠ 0 := Nat.cast_ne_zero.mpr (by omega)
  have replicas : ((r * (r - 1) : Nat) : K) ≠ 0 :=
    Nat.cast_ne_zero.mpr (Nat.mul_ne_zero (by omega) (by omega))
  have left : effect ^ 2 * ((rows ^ 2 * (r * (r - 1)) : Nat) : K) =
      ((rows * r : Nat) : K) * effect ^ 2 * (rows * (r - 1) : Nat) := by
    push_cast
    ring
  have right : quantile ^ 2 * (root / rows) ^ 2 * ((rows ^ 2 * (r * (r - 1)) : Nat) : K) =
      quantile ^ 2 * sse := by
    rw [div_pow, square, Nat.cast_mul (rows ^ 2), Nat.cast_pow]
    field_simp
  rw [← left, ← right]
  exact (mul_lt_mul_iff_left₀ table).symm

/-- The interval reaches a multiple of the scale to each side; without a scale its bounds are no
numbers. -/
structure Centred (interval : Nat → K → K → Option (K × K)) (quantile : Nat → K) : Prop where
  nonneg : ∀ freedom, 0 ≤ quantile freedom
  bounds : ∀ freedom loc scale, 0 < scale → interval freedom loc scale =
    some (loc - quantile freedom * scale, loc + quantile freedom * scale)
  noBounds : ∀ freedom loc, interval freedom loc 0 = none

/-- A square root without an error. -/
structure ExactRoot (sqrt : K → K) (square : K) : Prop where
  nonneg : 0 ≤ sqrt square
  square : sqrt square ^ 2 = square

/-- The variance of the errors. -/
def variance (data : List (List K)) (r : Nat) : K :=
  (data.map fun values => Pooling.spread values (Pooling.mean values)).sum / (r * (r - 1) : Nat)

theorem zeroCross_lineOf {interval : Nat → K → K → Option (K × K)} {quantile : Nat → K}
    {sqrt : K → K} {data : List (List K)} {k r ndx : Nat} (centred : Centred interval quantile)
    (root : ExactRoot sqrt (variance data r)) (bound : k ≤ 32) (several : 2 ≤ r)
    (isEffect : ndx < 2 ^ k) :
    (lineOf interval (analysed sqrt data k r) ndx).zeroCross = true ↔
      (lineOf interval (analysed sqrt data k r) ndx).ssEffect * (2 ^ k * (r - 1) : Nat) <
        quantile (2 ^ k * (r - 1)) ^ 2 * (prepared data k r).sse := by
  have freedom : 2 ^ (analysed sqrt data k r).k * ((analysed sqrt data k r).r - 1) =
      2 ^ k * (r - 1) := by
    change 2 ^ (prepared data k r).k * ((prepared data k r).r - 1) = _
    rw [prepared_k, prepared_r]
  have stdDev : (analysed sqrt data k r).stdDev =
      sqrt (variance data r) / (2 ^ k : Nat) := by
    rw [variance, ← prepared_sse (k := k) (r := r)]
    rfl
  have rows : (0 : K) < ((2 ^ k : Nat) : K) := Nat.cast_pos.mpr (Nat.two_pow_pos k)
  have square : sqrt (variance data r) ^ 2 = (prepared data k r).sse / (r * (r - 1) : Nat) := by
    rw [root.square, variance, ← prepared_sse (k := k) (r := r)]
  have squares : (prepared data k r).ssEffects.getD ndx 0 =
      ((2 ^ k * r : Nat) : K) * (prepared data k r).effects.getD ndx 0 ^ 2 := by
    rw [prepared_ssEffects, prepared_effects bound, List.getD_eq_getElem?_getD,
      List.getD_eq_getElem?_getD, List.getElem?_map, List.getElem?_map,
      List.getElem?_range isEffect]
    rfl
  change (interval (2 ^ (analysed sqrt data k r).k * ((analysed sqrt data k r).r - 1))
    ((prepared data k r).effects.getD ndx 0) (analysed sqrt data k r).stdDev).any _ = true ↔
      (prepared data k r).ssEffects.getD ndx 0 * (2 ^ k * (r - 1) : Nat) < _
  rw [freedom, stdDev, squares, ← small_effect_iff (Nat.two_pow_pos k) several square]
  rcases root.nonneg.eq_or_lt with zero | positive
  · rw [← zero, zero_div, centred.noBounds, zero_pow two_ne_zero, mul_zero]
    exact iff_of_false Bool.false_ne_true (sq_nonneg _).not_gt
  · rw [centred.bounds _ _ _ (div_pos positive rows)]
    exact decide_eq_true_iff.trans
      (contains_zero_iff (centred.nonneg _) (div_pos positive rows))

end Warning

/-! ## The script on a balanced table -/

/-- The observations are not all the same. -/
def Varied (data : List (List K)) : Prop :=
  ∃ one ∈ data.flatten, ∃ other ∈ data.flatten, one ≠ other

theorem varied_small : Varied small := ⟨0, by decide +kernel, 6, by decide +kernel, by decide⟩

theorem readsBack_naturals (rows : List (List Nat)) :
    ∀ values ∈ rows.map fun values => values.map fun value : Nat => (value : ℚ),
      ∀ value ∈ values, ReadsBack digits decimal value := by
  intro values member value isValue
  obtain ⟨row, -, rfl⟩ := List.mem_map.mp member
  obtain ⟨value, -, rfl⟩ := List.mem_map.mp isValue
  exact readsBack_decimal value

theorem readsBack_small : ∀ values ∈ small, ∀ value ∈ values, ReadsBack digits decimal value :=
  readsBack_naturals [[0, 6], [2, 10]]

/-- Two rows without errors. -/
def errorFree : List (List ℚ) := [[1, 1], [3, 3]]

theorem readsBack_errorFree :
    ∀ values ∈ errorFree, ∀ value ∈ values, ReadsBack digits decimal value :=
  readsBack_naturals [[1, 1], [3, 3]]

theorem balanced_errorFree : Balanced errorFree 1 2 where
  length := rfl
  row := by decide

theorem varied_errorFree : Varied errorFree :=
  ⟨1, by decide +kernel, 3, by decide +kernel, by decide⟩

/-- The interval of the t distribution for two degrees of freedom, and the first terms of the
quantiles of the normal distribution. -/
def smallLibraries : Libraries ℚ where
  float := digits
  sqrt := squareRoot
  interval _ loc scale :=
    if 0 < scale then some (loc - 73 / 25 * scale, loc + 73 / 25 * scale) else none
  ppf p := 5 / 2 * (p - 1 / 2) + 21 / 8 * (p - 1 / 2) ^ 3

theorem centred_small : Centred smallLibraries.interval fun _ => 73 / 25 where
  nonneg _ := by decide +kernel
  bounds _ _ _ positive := if_pos positive
  noBounds _ loc := by simp [smallLibraries]

section Script

variable (libraries : Libraries K) (brief : Bool) {inputFile : String}
  {format : K → List Char} {data : List (List K)} {k r : Nat}
  (readsBack : ∀ values ∈ data, ∀ value ∈ values, ReadsBack libraries.float format value)
  (balanced : Balanced data k r) (factors : 0 < k)

include readsBack balanced factors in
/-- A file of `np.savetxt` is read and analysed. -/
theorem script_savetxt (replicas : 0 < r) :
    script libraries brief inputFile (data.map (savetxtLine format)) =
      ((fresh data k r).analyze libraries.sqrt).bind fun self =>
        (self.printSummary libraries.interval brief).map fun summary =>
          { summary
            residuals := self.saveResiduals
            qqnorm := self.saveQqnorm libraries.ppf } := by
  unfold script
  rw [init_savetxt readsBack balanced factors replicas]
  rfl

variable [IsStrictOrderedRing K] (bound : k ≤ 32)

include balanced bound in
theorem sst_ne_zero_iff (positive : 1 ≤ r) : (prepared data k r).sst ≠ 0 ↔ Varied data := by
  rw [prepared_sst_eq balanced positive bound, Ne, Pooling.spread_mean_eq_zero_iff, Varied]
  push Not
  rfl

variable (sqrt : K → K)

include bound in
theorem explained_analysed : Explained (analysed sqrt data k r) where
  length := by
    change (prepared data k r).ssEffects.length = 2 ^ (prepared data k r).k
    rw [prepared_k]
    exact length_ssEffects bound
  parts := prepared_sst
  errors := prepared_sse_nonneg
  squares _ := nonneg_of_mem_ssEffects

include balanced bound in
theorem analysed_sst_ne_zero_iff (positive : 1 ≤ r) :
    (analysed sqrt data k r).sst ≠ 0 ↔ Varied data :=
  sst_ne_zero_iff balanced bound positive

/-- What the script leaves. -/
def reportOf (self : Observations K) : Report K where
  summary := summaryOf libraries.interval self brief
  residuals := self.saveResiduals
  qqnorm := self.saveQqnorm libraries.ppf

include readsBack balanced factors bound in
theorem script_of_varied (several : 2 ≤ r) (varied : Varied data) :
    script libraries brief inputFile (data.map (savetxtLine format)) =
      .ok (reportOf libraries brief (analysed libraries.sqrt data k r)) := by
  have positive : 1 ≤ r := by omega
  have variation := (analysed_sst_ne_zero_iff balanced bound libraries.sqrt positive).mpr varied
  rw [script_savetxt libraries brief readsBack balanced factors positive,
    analyze_several libraries.sqrt balanced several]
  change (printSummary libraries.interval brief (analysed libraries.sqrt data k r)).map _ = _
  rw [printSummary_eq _ _ brief variation]
  rfl

include readsBack balanced factors bound in
theorem script_of_not_varied (replicas : 0 < r) (short : ¬(2 ≤ r ∧ Varied data)) :
    script libraries brief inputFile (data.map (savetxtLine format)) =
      .error .zeroDivisionError := by
  rw [script_savetxt libraries brief readsBack balanced factors replicas]
  by_cases several : 2 ≤ r
  · have constant : (analysed libraries.sqrt data k r).sst = 0 := by
      by_contra variation
      exact short ⟨several,
        (analysed_sst_ne_zero_iff balanced bound libraries.sqrt replicas).mp variation⟩
    rw [analyze_several libraries.sqrt balanced several]
    change (printSummary libraries.interval brief (analysed libraries.sqrt data k r)).map _ = _
    rw [printSummary_of_zero _ _ brief constant]
    rfl
  · rw [analyze_single libraries.sqrt balanced (by omega)]
    rfl

include readsBack balanced factors bound in
/-- The script divides by `r * (r - 1)` and by the total variation, and by nothing else that can
be zero: on a file of `np.savetxt` it completes when there are two observations for each
combination and not all of the observations are the same, and otherwise it stops. -/
theorem script_completes_iff (replicas : 0 < r) :
    (2 ≤ r ∧ Varied data → ∃ report,
      script libraries brief inputFile (data.map (savetxtLine format)) = .ok report) ∧
    (¬(2 ≤ r ∧ Varied data) →
      script libraries brief inputFile (data.map (savetxtLine format)) =
        .error .zeroDivisionError) := by
  constructor
  · rintro ⟨several, varied⟩
    exact ⟨_, script_of_varied libraries brief readsBack balanced factors bound several varied⟩
  · exact script_of_not_varied libraries brief readsBack balanced factors bound replicas

theorem script_completes_small : ∃ report,
    script smallLibraries false "small" (small.map (savetxtLine decimal)) = .ok report :=
  (script_completes_iff smallLibraries false readsBack_small balanced_small (by decide)
    (by decide) (by decide)).1 ⟨le_rfl, varied_small⟩

include readsBack balanced factors in
/-- The shares of the summary.  Every effect has a line with a label of its own; the shares of
the effects are not negative, and add up to the whole with that of the errors.  The brief summary
keeps the lines of the mean and of the effects with a tenth of the variation, which are ten at
most, however many factors there are. -/
theorem script_shares (few : k ≤ 26) (several : 2 ≤ r) (varied : Varied data) :
    ∃ report short, script libraries false inputFile (data.map (savetxtLine format)) =
        .ok report ∧
      script libraries true inputFile (data.map (savetxtLine format)) = .ok short ∧
      report.summary.effects.length = 2 ^ k ∧
      (report.summary.effects.map EffectLine.letters).Nodup ∧
      (∀ line ∈ report.summary.effects, ∀ share ∈ line.relativeImportance, 0 ≤ share) ∧
      (report.summary.effects.filterMap EffectLine.relativeImportance).sum +
        report.summary.sseShare = 1 ∧
      short.summary.effects = report.summary.effects.filter EffectLine.important ∧
      short.summary.effects.length ≤ 11 := by
  have bound : k ≤ 32 := few.trans (by decide)
  have positive : 1 ≤ r := by omega
  have variation := (analysed_sst_ne_zero_iff balanced bound libraries.sqrt positive).mpr varied
  have explained : Explained (analysed libraries.sqrt data k r) :=
    explained_analysed bound libraries.sqrt
  have all : (reportOf libraries false (analysed libraries.sqrt data k r)).summary.effects =
      (List.range (2 ^ k)).map
        (lineOf libraries.interval (analysed libraries.sqrt data k r)) := by
    change ((List.range (2 ^ (prepared data k r).k)).map _).filter (fun _ => true) = _
    rw [prepared_k, List.filter_true]
  refine ⟨_, _, script_of_varied libraries false readsBack balanced factors bound several varied,
    script_of_varied libraries true readsBack balanced factors bound several varied, ?_⟩
  have factors : (analysed libraries.sqrt data k r).k = k := prepared_k
  have nodup := @labels_nodup K _ _ libraries.interval (analysed libraries.sqrt data k r)
    (factors.symm ▸ few)
  have nonneg := explained.share_nonneg libraries.interval
  have whole := explained.sum_shares libraries.interval variation
  have brief := explained.length_brief libraries.interval variation
  rw [factors] at nodup nonneg whole brief
  rw [all]
  refine ⟨by rw [List.length_map, List.length_range], nodup, ?_, whole, ?_, ?_⟩
  · intro line member share isShare
    exact nonneg share (List.mem_filterMap.mpr ⟨line, member, isShare⟩)
  · change ((List.range (2 ^ (prepared data k r).k)).map _).filter _ = _
    rw [prepared_k]
    rfl
  · change (((List.range (2 ^ (prepared data k r).k)).map _).filter _).length ≤ 11
    rw [prepared_k]
    exact brief

theorem script_shares_small :
    ∃ report short, script smallLibraries false "small" (small.map (savetxtLine decimal)) =
        .ok report ∧
      script smallLibraries true "small" (small.map (savetxtLine decimal)) = .ok short ∧
      report.summary.effects.length = 2 ∧
      (report.summary.effects.map EffectLine.letters).Nodup ∧
      (∀ line ∈ report.summary.effects, ∀ share ∈ line.relativeImportance, 0 ≤ share) ∧
      (report.summary.effects.filterMap EffectLine.relativeImportance).sum +
        report.summary.sseShare = 1 ∧
      short.summary.effects = report.summary.effects.filter EffectLine.important ∧
      short.summary.effects.length ≤ 11 :=
  script_shares smallLibraries readsBack_small balanced_small (by decide) (by decide) le_rfl
    varied_small

variable (inputFile) in
include readsBack balanced factors bound in
/-- The warning of the summary is the result of a variance test.  The interval of an effect
contains zero exactly when the squared sum of the effect, times the degrees of freedom of the
errors, is less than the squared sum of the errors times the square of the quantile; the effect
of the mean is no exception, and when there are no errors there are no warnings. -/
theorem script_warning_iff (several : 2 ≤ r) (varied : Varied data) {quantile : Nat → K}
    (centred : Centred libraries.interval quantile)
    (root : ExactRoot libraries.sqrt (variance data r)) :
    ∃ report, script libraries brief inputFile (data.map (savetxtLine format)) = .ok report ∧
      (∀ line ∈ report.summary.effects, line.zeroCross = true ↔
        line.ssEffect * (2 ^ k * (r - 1) : Nat) <
          quantile (2 ^ k * (r - 1)) ^ 2 * report.summary.sse) ∧
      (report.summary.sse = 0 → ∀ line ∈ report.summary.effects, line.zeroCross = false) := by
  have warning : ∀ line ∈
      (reportOf libraries brief (analysed libraries.sqrt data k r)).summary.effects,
      0 ≤ line.ssEffect ∧ (line.zeroCross = true ↔ line.ssEffect * (2 ^ k * (r - 1) : Nat) <
        quantile (2 ^ k * (r - 1)) ^ 2 * (prepared data k r).sse) := by
    intro line member
    obtain ⟨ndx, isEffect, rfl⟩ := List.mem_map.mp (List.mem_of_mem_filter member)
    have isCol : ndx < 2 ^ (prepared data k r).k := List.mem_range.mp isEffect
    rw [prepared_k] at isCol
    exact ⟨(explained_analysed bound libraries.sqrt).ssEffect_nonneg libraries.interval ndx,
      zeroCross_lineOf centred root bound several isCol⟩
  refine ⟨_, script_of_varied libraries brief readsBack balanced factors bound several varied,
    fun line member => (warning line member).2, ?_⟩
  intro errorFree line member
  obtain ⟨nonneg, crosses⟩ := warning line member
  have noErrors : (prepared data k r).sse = 0 := errorFree
  rw [noErrors, mul_zero] at crosses
  rw [← Bool.not_eq_true, crosses]
  exact not_lt.mpr (mul_nonneg nonneg (Nat.cast_nonneg _))

/-- A table with errors, and one without. -/
theorem script_warning_small :
    (∃ report, script smallLibraries false "small" (small.map (savetxtLine decimal)) =
        .ok report ∧
      ∀ line ∈ report.summary.effects, line.zeroCross = true ↔
        line.ssEffect * (2 : Nat) < (73 / 25) ^ 2 * report.summary.sse) ∧
    ∃ report, script smallLibraries false "exact" (errorFree.map (savetxtLine decimal)) =
        .ok report ∧
      ∀ line ∈ report.summary.effects, line.zeroCross = false := by
  constructor
  · refine (script_warning_iff smallLibraries false "small" readsBack_small balanced_small
      (by decide) (by decide) le_rfl varied_small centred_small
      { nonneg := by decide +kernel
        square := by decide +kernel }).imp ?_
    rintro report ⟨run, warning, -⟩
    exact ⟨run, warning⟩
  · refine (script_warning_iff smallLibraries false "exact" readsBack_errorFree
      balanced_errorFree (by decide) (by decide) le_rfl varied_errorFree centred_small
      { nonneg := by decide +kernel
        square := by decide +kernel }).imp ?_
    rintro report ⟨run, -, noWarning⟩
    refine ⟨run, noWarning ?_⟩
    rw [script_of_varied smallLibraries false readsBack_errorFree balanced_errorFree (by decide)
      (by decide) le_rfl varied_errorFree] at run
    obtain rfl := Except.ok.inj run
    change (prepared errorFree 1 2).sse = 0
    decide +kernel

end Script

end Observations

end AirTrafficControl.Results
