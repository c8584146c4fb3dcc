import AirTrafficControl.Results.Summary
import Mathlib.Data.List.Infix

/-!
# The sign table and the random input

What `factorial2kr.py` prints with `--sign_matrix` and with `--random`, and what it makes of a
random input when it reads it.
-/

namespace AirTrafficControl.Results

open Walsh Finset

universe u

/-! ## The sign table -/

section Table

variable {k row pos : Nat}

open Observations

/-- A single factor has a single letter. -/
theorem numberToLetter_two_pow (isFactor : pos < k) :
    numberToLetter (2 ^ pos) k = [letter pos] := by
  have bits : (2 ^ pos).testBit = (· == pos) := by
    funext other
    rw [Nat.testBit_two_pow, Bool.beq_eq_decide_eq, decide_eq_decide]
    exact eq_comm
  have once : (List.range k).count pos = 1 :=
    List.count_eq_one_of_mem List.nodup_range (List.mem_range.mpr isFactor)
  rw [numberToLetter_eq, bits, List.filter_beq, once]
  rfl

/-- The sign of a factor is that of its bit. -/
theorem sign_two_pow (row pos : Nat) :
    sign row (2 ^ pos) = if row.testBit pos then -1 else 1 := by
  rw [sign, Nat.and_two_pow]
  cases row.testBit pos with
  | false =>
      rw [Bool.toNat_false, zero_mul, ones_zero, pow_zero]
      rfl
  | true =>
      rw [Bool.toNat_true, one_mul, ones, Nat.bitIndices_two_pow]
      rfl

/-- The rows of the matrix, with their numbers. -/
theorem zipIdx_map_range {Item : Type*} (item : Nat → Item) (n : Nat) :
    ((List.range n).map item).zipIdx = (List.range n).map fun i => (item i, i) := by
  apply List.ext_getElem
  · simp
  · intro i _ _
    simp

theorem getD_map_range {Item : Type*} {item : Nat → Item} {n i : Nat} (bound : i < n)
    (default : Item) : ((List.range n).map item).getD i default = item i := by
  simp [bound]

theorem signMatrix_eq_map (k : Nat) :
    signMatrix k = (List.range (2 ^ k)).map fun row => (signMatrix k).getD row [] := by
  apply List.ext_getElem
  · simp [length_signMatrix]
  · intro row inMatrix _
    simp [inMatrix]

/-- The sign of a factor in a row of the matrix. -/
theorem signMatrix_row (bound : k ≤ 32) (isRow : row < 2 ^ k) (isFactor : pos < k) :
    ((signMatrix k).getD row []).getD (2 ^ pos) 0 = if row.testBit pos then -1 else 1 := by
  rw [← sign_two_pow]
  exact entry_signMatrix bound isRow (Nat.pow_lt_pow_right one_lt_two isFactor)

/-- The signs of a row of the table. -/
def signs (k row : Nat) : List Char :=
  (List.range k).map fun col => if row.testBit col then '-' else '+'

theorem signTable_eq (bound : k ≤ 32) :
    signTable k = (List.range k).map letter :: (List.range (2 ^ k)).map (signs k) := by
  have header : (List.range k).flatMap (fun pos => numberToLetter (1 <<< pos) k) =
      (List.range k).map letter := by
    rw [← List.flatMap_pure_eq_map]
    apply List.flatMap_congr
    intro pos member
    rw [Nat.one_shiftLeft, numberToLetter_two_pow (List.mem_range.mp member)]
    rfl
  rw [signTable, header, signMatrix_eq_map, List.map_map]
  congr 1
  apply List.map_congr_left
  intro row isRow
  apply List.map_congr_left
  intro pos isFactor
  rw [signMatrix_row bound (List.mem_range.mp isRow) (List.mem_range.mp isFactor)]
  cases row.testBit pos <;> rfl

theorem signs_injective {other : Nat} (isRow : row < 2 ^ k) (isOther : other < 2 ^ k)
    (same : signs k row = signs k other) : row = other := by
  apply Nat.eq_of_testBit_eq
  intro pos
  by_cases isFactor : pos < k
  · have equal := List.map_inj_left.mp same pos (List.mem_range.mpr isFactor)
    revert equal
    cases row.testBit pos <;> cases other.testBit pos <;> decide
  · have high : 2 ^ k ≤ 2 ^ pos := Nat.pow_le_pow_right Nat.two_pos (Nat.le_of_not_lt isFactor)
    rw [Nat.testBit_lt_two_pow (isRow.trans_le high),
      Nat.testBit_lt_two_pow (isOther.trans_le high)]

theorem exists_signs {word : List Char} (length : word.length = k)
    (isSign : ∀ sign ∈ word, sign = '+' ∨ sign = '-') : ∃ row < 2 ^ k, signs k row = word := by
  subst length
  refine ⟨Nat.ofBits fun pos : Fin word.length => word[pos] == '-', Nat.ofBits_lt_two_pow _, ?_⟩
  apply List.ext_getElem
  · rw [signs, List.length_map, List.length_range]
  · intro pos _ inWord
    simp only [signs, List.getElem_map, List.getElem_range]
    rw [Nat.testBit_ofBits_lt _ pos inWord]
    obtain plus | minus := isSign _ (List.getElem_mem inWord)
    · simp [plus]
    · simp [minus]

/-- The sign table has the letters of the factors above all words of as many signs, each of them
once, and a sign is a minus when the bit of the factor is set in the number of the line. -/
theorem signTable_lists (bound : k ≤ 32) :
    ∃ rows, signTable k = (List.range k).map letter :: rows ∧ rows.length = 2 ^ k ∧
      rows.Nodup ∧
      (∀ word, word ∈ rows ↔ word.length = k ∧ ∀ sign ∈ word, sign = '+' ∨ sign = '-') ∧
      ∀ row pos, row < 2 ^ k → pos < k →
        (rows.getD row []).getD pos '?' = if row.testBit pos then '-' else '+' := by
  refine ⟨_, signTable_eq bound, by simp, ?_, ?_, ?_⟩
  · refine List.Nodup.map_on ?_ List.nodup_range
    intro row isRow other isOther same
    exact signs_injective (List.mem_range.mp isRow) (List.mem_range.mp isOther) same
  · intro word
    constructor
    · intro member
      obtain ⟨row, -, rfl⟩ := List.mem_map.mp member
      refine ⟨by simp [signs], ?_⟩
      intro sign isSign
      obtain ⟨pos, -, rfl⟩ := List.mem_map.mp isSign
      cases row.testBit pos <;> simp
    · rintro ⟨length, isSign⟩
      obtain ⟨row, isRow, rfl⟩ := exists_signs length isSign
      exact List.mem_map_of_mem (List.mem_range.mpr isRow)
  · intro row pos isRow isFactor
    rw [getD_map_range isRow, signs, getD_map_range isFactor]

theorem signTable_lists_four :
    ∃ rows, signTable 4 = ['A', 'B', 'C', 'D'] :: rows ∧ rows.length = 16 ∧ rows.Nodup ∧
      (∀ word, word ∈ rows ↔ word.length = 4 ∧ ∀ sign ∈ word, sign = '+' ∨ sign = '-') ∧
      ∀ row pos, row < 16 → pos < 4 →
        (rows.getD row []).getD pos '?' = if row.testBit pos then '-' else '+' :=
  signTable_lists (by decide)

end Table

/-! ## The random input -/

namespace Observations

section Random

variable {K : Type u} [Field K] {random : Nat → K} {k r : Nat} {realEffects : List Char}

/-- The effect that a factor has on the observations. -/
def realEffect (K : Type u) [Field K] (realEffects : List Char) (pos : Nat) : K :=
  if letter pos ∈ realEffects then ((5 : Nat) : K) else 0

/-- The numbers that are drawn for an observation. -/
def draws (random : Nat → K) (k r row replica : Nat) : K :=
  ((List.range k).map fun col => random ((row * r + replica) * k + col)).sum

/-- The mean of a row without what is drawn. -/
def signal (K : Type u) [Field K] (k : Nat) (realEffects : List Char) (row : Nat) : K :=
  ∑ pos ∈ range k, realEffect K realEffects pos * (1 + (sign row (2 ^ pos) : K))

/-- The mean of what is drawn for a row. -/
def noise (random : Nat → K) (k r row : Nat) : K :=
  Pooling.mean ((List.range r).map (draws random k r row))

/-- What is added for a factor. -/
theorem coeff_mul_ten {row pos : Nat} (bound : k ≤ 32) (isRow : row < 2 ^ k)
    (isFactor : pos < k) :
    (if numberToLetter (2 ^ pos) k <:+: realEffects ∧
        0 < ((signMatrix k).getD row []).getD (2 ^ pos) 0 then (1 : K) else 0) *
          ((10 : Nat) : K) =
      realEffect K realEffects pos * (1 + (sign row (2 ^ pos) : K)) := by
  have real : numberToLetter (2 ^ pos) k <:+: realEffects ↔ letter pos ∈ realEffects := by
    rw [numberToLetter_two_pow isFactor, List.singleton_infix_iff]
  have high : 0 < ((signMatrix k).getD row []).getD (2 ^ pos) 0 ↔ row.testBit pos = false := by
    rw [signMatrix_row bound isRow isFactor]
    cases row.testBit pos <;> decide
  simp only [real, high, sign_two_pow, realEffect]
  by_cases chosen : letter pos ∈ realEffects
  · cases row.testBit pos with
    | true => simp [chosen]
    | false =>
        rw [if_pos ⟨chosen, rfl⟩, if_pos chosen, if_neg Bool.false_ne_true]
        push_cast
        ring
  · simp [chosen]

/-- The lines of the file: in each row the observations are the signal and what is drawn. -/
theorem printRandom_eq (bound : k ≤ 32) :
    printRandom random k r realEffects = (List.range (2 ^ k)).map fun row =>
      (List.range r).map fun replica =>
        signal K k realEffects row + draws random k r row replica := by
  rw [printRandom, signMatrix_eq_map, zipIdx_map_range, List.map_map]
  apply List.map_congr_left
  intro row isRow
  apply List.map_congr_left
  intro replica _
  have terms : ∀ pos ∈ List.range k,
      (if numberToLetter (2 ^ pos) k <:+: realEffects ∧
        0 < ((signMatrix k).getD row []).getD (2 ^ pos) 0 then (1 : K) else 0) *
          ((10 : Nat) : K) =
      realEffect K realEffects pos * (1 + (sign row (2 ^ pos) : K)) := fun pos isFactor =>
    coeff_mul_ten bound (List.mem_range.mp isRow) (List.mem_range.mp isFactor)
  dsimp only [Function.comp_apply]
  rw [zipIdx_map_range, List.foldl_map, foldl_add_map, zero_add, List.sum_map_add,
    List.map_congr_left terms]
  rfl

theorem balanced_printRandom : Balanced (printRandom random k r realEffects) k r where
  length := by
    rw [printRandom, List.length_map, List.length_zipIdx, length_signMatrix]
  row values member := by
    obtain ⟨row, -, rfl⟩ := List.mem_map.mp member
    rw [List.length_map, List.length_range]

/-- What a factor adds to the rows is its effect, and nothing else of it is left. -/
theorem transform_signal {col : Nat} (nonzero : 0 < col) (bound : col < 2 ^ k) :
    transform k (signal K k realEffects) col = (2 ^ k : Nat) *
      ∑ pos ∈ range k, if 2 ^ pos = col then realEffect K realEffects pos else 0 := by
  unfold signal
  rw [transform_sum, mul_sum]
  refine sum_congr rfl fun pos isFactor => ?_
  have isCol : 2 ^ pos < 2 ^ k :=
    Nat.pow_lt_pow_right one_lt_two (mem_range.mp isFactor)
  rw [transform_mul_left, transform_add, transform_const _ nonzero bound,
    transform_sign isCol bound, zero_add]
  split
  · exact mul_comm _ _
  · rw [mul_zero, mul_zero]

section Ordered

variable [CharZero K] (bound : k ≤ 32) (replicas : 0 < r)

include bound replicas

theorem response_printRandom {row : Nat} (isRow : row < 2 ^ k) :
    response (printRandom random k r realEffects) row =
      signal K k realEffects row + noise random k r row := by
  have some : ((List.range r).length : K) ≠ 0 := by
    rw [List.length_range]
    exact Nat.cast_ne_zero.mpr replicas.ne'
  rw [response, printRandom_eq bound, List.map_map, getD_map_range isRow, Function.comp_apply,
    Pooling.mean_map_add some]
  rfl

end Ordered

variable [LinearOrder K] [IsStrictOrderedRing K] (unit : ∀ n, 0 ≤ random n ∧ random n < 1)

include unit

theorem draws_bounds (row replica : Nat) :
    0 ≤ draws random k r row replica ∧ draws random k r row replica ≤ k := by
  constructor
  · apply List.sum_nonneg
    intro number isDraw
    obtain ⟨col, -, rfl⟩ := List.mem_map.mp isDraw
    exact (unit _).1
  · have each : ∀ number ∈ (List.range k).map fun col =>
        random ((row * r + replica) * k + col), number ≤ 1 := by
      intro number isDraw
      obtain ⟨col, -, rfl⟩ := List.mem_map.mp isDraw
      exact (unit _).2.le
    have total := List.sum_le_card_nsmul _ 1 each
    rwa [List.length_map, List.length_range, nsmul_one] at total

theorem noise_bounds (replicas : 0 < r) (row : Nat) :
    0 ≤ noise random k r row ∧ noise random k r row ≤ k := by
  have positive : (0 : K) < r := Nat.cast_pos.mpr replicas
  have length : (((List.range r).map (draws random k r row)).length : K) = r := by
    rw [List.length_map, List.length_range]
  unfold noise Pooling.mean
  rw [length]
  constructor
  · apply div_nonneg _ positive.le
    apply List.sum_nonneg
    intro total isTotal
    obtain ⟨replica, -, rfl⟩ := List.mem_map.mp isTotal
    exact (draws_bounds unit row replica).1
  · rw [div_le_iff₀ positive]
    have each : ∀ total ∈ (List.range r).map (draws random k r row), total ≤ (k : K) := by
      intro total isTotal
      obtain ⟨replica, -, rfl⟩ := List.mem_map.mp isTotal
      exact (draws_bounds unit row replica).2
    have sums := List.sum_le_card_nsmul _ _ each
    rwa [nsmul_eq_mul, length, mul_comm] at sums

variable (realEffects) in
theorem effect_near (bound : k ≤ 32) (replicas : 0 < r) {col : Nat} (nonzero : 0 < col)
    (isCol : col < 2 ^ k) :
    |(prepared (printRandom random k r realEffects) k r).effects.getD col 0 -
      ∑ pos ∈ range k, if 2 ^ pos = col then realEffect K realEffects pos else 0| ≤
        (k : K) / ((2 : Nat) : K) := by
  have rows : (0 : K) < ((2 ^ k : Nat) : K) := Nat.cast_pos.mpr (by positivity)
  have parts : transform k (response (printRandom random k r realEffects)) col =
      transform k (signal K k realEffects) col + transform k (noise random k r) col := by
    rw [← transform_add]
    refine sum_congr rfl fun row isRow => ?_
    rw [response_printRandom bound replicas (mem_range.mp isRow)]
  have small := abs_transform_le (fun row => (noise_bounds unit replicas row).1)
    (fun row => (noise_bounds (k := k) unit replicas row).2) nonzero isCol
  rw [effects_getD bound isCol, parts, transform_signal nonzero isCol, add_div,
    mul_div_cancel_left₀ _ rows.ne', add_sub_cancel_left, abs_div, abs_of_pos rows,
    div_le_div_iff₀ rows (Nat.cast_pos.mpr Nat.two_pos), Nat.cast_ofNat]
  linarith

variable {float : List Char → Option K} {format : K → List Char} (sqrt : K → K)
  {inputFile : String}
  (readsBack : ∀ values ∈ printRandom random k r realEffects, ∀ value ∈ values,
    ReadsBack float format value)

include readsBack in
/-- The help text of `--random`.  When the random input is analysed, each of the given factors
has an effect of five, and every other effect and interaction is zero, but for half of the
number of factors that the numbers between zero and one can make up. -/
theorem random_effects (factors : 0 < k) (bound : k ≤ 32) (several : 2 ≤ r) :
    ∃ self, (init float inputFile ((printRandom random k r realEffects).map
        (randomLine format)) >>= analyze sqrt) = .ok self ∧
      (∀ pos < k, letter pos ∈ realEffects →
        |self.effects.getD (2 ^ pos) 0 - ((5 : Nat) : K)| ≤ (k : K) / ((2 : Nat) : K)) ∧
      ∀ col, 0 < col → col < 2 ^ k →
        (∀ pos < k, letter pos ∈ realEffects → col ≠ 2 ^ pos) →
        |self.effects.getD col 0| ≤ (k : K) / ((2 : Nat) : K) := by
  have replicas : 0 < r := by omega
  have balanced : Balanced (printRandom random k r realEffects) k r := balanced_printRandom
  refine ⟨analysed sqrt (printRandom random k r realEffects) k r, ?_, ?_, ?_⟩
  · rw [init_random readsBack balanced factors replicas]
    exact analyze_several sqrt balanced several
  · intro pos isFactor chosen
    have near := effect_near realEffects unit bound replicas
      (Nat.two_pow_pos pos) (Nat.pow_lt_pow_right one_lt_two isFactor)
    have single : (∑ other ∈ range k,
        if 2 ^ other = 2 ^ pos then realEffect K realEffects other else 0) =
          ((5 : Nat) : K) := by
      rw [sum_eq_single pos]
      · rw [if_pos rfl, realEffect, if_pos chosen]
      · intro other _ different
        exact if_neg fun same => different (Nat.pow_right_injective le_rfl same)
      · exact fun none => absurd (mem_range.mpr isFactor) none
    rwa [single] at near
  · intro col nonzero isCol other
    have near := effect_near realEffects unit bound replicas nonzero isCol
    have none : (∑ pos ∈ range k,
        if 2 ^ pos = col then realEffect K realEffects pos else 0) = 0 := by
      apply sum_eq_zero
      intro pos isFactor
      by_cases chosen : letter pos ∈ realEffects
      · exact if_neg fun same => other pos (mem_range.mp isFactor) chosen same.symm
      · rw [realEffect, if_neg chosen, ite_self]
    rwa [none, sub_zero] at near

end Random

/-- A number of tenths, as Python prints it. -/
def tenths (value : ℚ) : List Char :=
  decimal (((value * 10).num.toNat / 10 : Nat) : ℚ) ++
    '.' :: decimal (((value * 10).num.toNat % 10 : Nat) : ℚ)

/-- A word with a point as a number. -/
def pointed (word : List Char) : Option ℚ :=
  match word.splitOn '.' with
  | [whole, fraction] => do
      let whole ← digits whole
      let numerator ← digits fraction
      return whole + numerator / (10 ^ fraction.length : Nat)
  | _ => none

theorem readsBack_tenths (count : Nat) : ReadsBack pointed tenths ((count : ℚ) / 10) := by
  have whole := readsBack_decimal (count / 10)
  have fraction := readsBack_decimal (count % 10)
  have format : tenths ((count : ℚ) / 10) =
      decimal (count / 10 : Nat) ++ '.' :: decimal (count % 10 : Nat) := by
    rw [tenths, div_mul_cancel₀ _ (by norm_num), Rat.num_natCast, Int.toNat_natCast]
  have noPoint : ∀ number : Nat, '.' ∉ decimal (number : ℚ) := fun number point =>
    absurd (isDigit_of_mem_decimal point) (by decide)
  have single : (decimal ((count % 10 : Nat) : ℚ)).length = 1 := by
    rw [decimal_natCast, Nat.toDigits_of_lt_base (Nat.mod_lt count (by decide)),
      List.length_singleton]
  have parts : (tenths ((count : ℚ) / 10)).splitOn '.' =
      [decimal (count / 10 : Nat), decimal (count % 10 : Nat)] := by
    rw [format, List.splitOn_append_cons_of_beq _ _ (by rfl),
      List.splitOn_eq_singleton (noPoint _), List.splitOn_eq_singleton (noPoint _)]
    rfl
  have sum : ((count / 10 : Nat) : ℚ) + (count % 10 : Nat) / (10 ^ 1 : Nat) = count / 10 := by
    have digit : ((10 * (count / 10) + count % 10 : Nat) : ℚ) = count := by
      rw [Nat.div_add_mod]
    push_cast at digit ⊢
    linarith
  refine ⟨?_, ?_, ?_⟩
  · simp [format]
  · intro letter member
    rw [format, List.mem_append, List.mem_cons] at member
    obtain inWhole | rfl | inFraction := member
    · exact whole.solid letter inWhole
    · decide
    · exact fraction.solid letter inFraction
  · rw [pointed, parts]
    change ((digits _).bind fun whole => (digits _).bind fun numerator => _) = _
    rw [whole.float, fraction.float]
    rw [← single] at sum
    exact congrArg some sum

/-- The first of two factors has an effect, and the numbers that are drawn go from zero to nine
tenths in turn. -/
theorem random_effects_two :
    ∃ self, (init pointed "random" ((printRandom (fun n => ((n % 10 : Nat) : ℚ) / 10) 2 10
        ['A']).map (randomLine tenths)) >>= analyze squareRoot) = .ok self ∧
      (∀ pos < 2, letter pos ∈ ['A'] →
        |self.effects.getD (2 ^ pos) 0 - ((5 : Nat) : ℚ)| ≤ ((2 : Nat) : ℚ) / ((2 : Nat) : ℚ)) ∧
      ∀ col, 0 < col → col < 4 → (∀ pos < 2, letter pos ∈ ['A'] → col ≠ 2 ^ pos) →
        |self.effects.getD col 0| ≤ ((2 : Nat) : ℚ) / ((2 : Nat) : ℚ) := by
  refine random_effects (fun n => ⟨by positivity, ?_⟩) squareRoot ?_ (by decide) (by decide)
    (by decide)
  · have digit : ((n % 10 : Nat) : ℚ) < (10 : Nat) :=
      Nat.cast_lt.mpr (Nat.mod_lt n (by decide))
    rw [div_lt_one (by norm_num)]
    exact digit
  · have counts : ∀ values ∈ printRandom (fun n => ((n % 10 : Nat) : ℚ) / 10) 2 10 ['A'],
        ∀ value ∈ values, ((value * 10).num.toNat : ℚ) / 10 = value := by
      decide +kernel
    intro values isRow value isValue
    rw [← counts values isRow value isValue]
    exact readsBack_tenths _

end Observations

end AirTrafficControl.Results
