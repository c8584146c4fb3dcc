import AirTrafficControl.Results.Options
import AirTrafficControl.Results.Residuals
import AirTrafficControl.Results.RowOrder

/-!
# The effects of a campaign

`makeInput` has `factorial2kr.py` analyse the files that it writes.  The effects in the summaries
compare the runs of the simulator by the levels of its parameters, in exact arithmetic.
-/

namespace AirTrafficControl.Results

open Observations Table Walsh Finset

/-! ## The rows of a statistic -/

section Rows

variable {Level Value : Type} [LinearOrder Level] {design : Design Level}
  {df table : List (Row Level Value)} {name : String}
  (crossed : ∀ row ∈ table, ∃ combination, design.At combination row)

theorem nodup_combinations (design : Design Level) :
    ((List.range 16).map fun x => design.iterationvars (combinationOf x)).Nodup := by
  refine List.Nodup.map_on ?_ List.nodup_range
  intro one isOne other isOther same
  rw [← rowOf_combinationOf (List.mem_range.mp isOne), design.unique same,
    rowOf_combinationOf (List.mem_range.mp isOther)]

variable (name)

include crossed

/-- The rows of a statistic, combination by combination. -/
theorem rows_perm {Item : Type*} (item : Row Level Value → Item) :
    ((List.range 16).flatMap fun x => (table.filter fun row => row.name = name ∧
      row.iterationvars = design.iterationvars (combinationOf x)).map item).Perm
      ((table.filter fun row => row.name = name).map item) := by
  let entries := (table.filter fun row => row.name = name).map fun row =>
    (row.iterationvars, item row)
  have known : ∀ entry ∈ entries, entry.1 ∈
      (List.range 16).map fun x => design.iterationvars (combinationOf x) := by
    intro entry member
    obtain ⟨row, isRow, rfl⟩ := List.mem_map.mp member
    obtain ⟨combination, isAt⟩ := crossed row (List.mem_of_mem_filter isRow)
    refine List.mem_map.mpr ⟨rowOf combination, List.mem_range.mpr (rowOf_lt combination), ?_⟩
    rw [combinationOf_rowOf, ← isAt.iterationvars]
  have perm := Dictionary.flatMap_valuesOf (nodup_combinations design) known
  have values : ∀ x, Dictionary.valuesOf entries (design.iterationvars (combinationOf x)) =
      (table.filter fun row => row.name = name ∧
        row.iterationvars = design.iterationvars (combinationOf x)).map item := by
    intro x
    rw [Dictionary.valuesOf, List.filter_map, List.map_map, List.filter_filter]
    congr 1
    apply List.filter_congr
    intro row _
    rw [Function.comp_apply, Bool.and_comm, ← Bool.decide_and]
  rw [List.flatMap_map] at perm
  simp only [values] at perm
  rwa [List.map_map] at perm

end Rows

/-! ## Signs and labels -/

/-- The letter that `factorial2kr.py` gives to a factor. -/
def Factor.letter : Factor → Char
  | .iat => 'A'
  | .lt => 'B'
  | .tot => 'C'
  | .pt => 'D'

/-- The label of the effect that some factors have together. -/
def effectLabel (factors : Combination) : List Char :=
  let letters := ([.iat, .lt, .tot, .pt].filter factors).map Factor.letter
  if letters = [] then ['0'] else letters

/-- The number of the effect. -/
def effectNumber (factors : Combination) : Nat := rowOf fun factor => !factors factor

/-- The sign of a combination in the effect. -/
def effectSign (factors combination : Combination) : Int :=
  ([.iat, .lt, .tot, .pt].map fun factor : Factor =>
    if factors factor && !combination factor then -1 else 1).prod

theorem effectNumber_lt (factors : Combination) : effectNumber factors < 16 := rowOf_lt _

theorem exists_combinationOf (factors : Combination) : ∃ x < 16, combinationOf x = factors :=
  ⟨rowOf factors, rowOf_lt factors, combinationOf_rowOf factors⟩

theorem label_effectNumber (factors : Combination) :
    label 4 (effectNumber factors) = effectLabel factors := by
  have labels : ∀ x < 16, label 4 (effectNumber (combinationOf x)) =
      effectLabel (combinationOf x) := by
    decide
  obtain ⟨x, bound, rfl⟩ := exists_combinationOf factors
  exact labels x bound

/-- The sign of a row of the file. -/
theorem sign_effectNumber (factors : Combination) {x : Nat} (isRow : x < 16) :
    Walsh.sign x (effectNumber factors) = effectSign factors (combinationOf x) := by
  have signs : ∀ y < 16, ∀ x < 16, entry (signMatrix 4) x (effectNumber (combinationOf y)) =
      effectSign (combinationOf y) (combinationOf x) := by
    decide +kernel
  obtain ⟨y, bound, rfl⟩ := exists_combinationOf factors
  rw [← signs y bound x isRow]
  exact (entry_signMatrix (by decide) isRow (effectNumber_lt _)).symm

/-! ## Contrasts -/

section Runs

variable {Level Value : Type} [LinearOrder Level] {design : Design Level}
  {table : List (Row Level Value)} {name : String} {r : Nat}

/-- The factors that are at their high level in a run. -/
def Design.highs (design : Design Level) (row : Row Level Value) : Combination := fun factor =>
  row.level factor = design.high factor

theorem Design.At.highs_eq {combination : Combination} {row : Row Level Value}
    (isAt : design.At combination row) : design.highs row = combination := by
  funext factor
  rw [Design.highs, isAt.level, Design.level]
  cases combination factor with
  | true => simp
  | false => simpa using (design.apart factor).ne

/-- The rows of the table for a row of the file. -/
def Design.runs (design : Design Level) (table : List (Row Level Value)) (name : String)
    (x : Nat) : List (Row Level Value) :=
  table.filter fun row => row.name = name ∧
    row.iterationvars = design.iterationvars (combinationOf x)

variable (crossed : ∀ row ∈ table, ∃ combination, design.At combination row)

include crossed

theorem highs_of_mem_runs {x : Nat} {row : Row Level Value}
    (member : row ∈ design.runs table name x) : design.highs row = combinationOf x := by
  obtain ⟨inTable, holds⟩ := List.mem_filter.mp member
  obtain ⟨combination, isAt⟩ := crossed row inTable
  rw [isAt.highs_eq]
  exact design.unique (isAt.iterationvars.symm.trans (of_decide_eq_true holds).2)

variable (replicas : ∀ combination, (design.values table name combination).length = r)

include replicas

theorem length_runs (x : Nat) : (design.runs table name x).length = r := by
  rw [← replicas (combinationOf x), ← (selected_perm (.refl table) crossed _).length_eq,
    List.length_map]
  rfl

theorem length_statistic : (table.filter fun row => row.name = name).length = 16 * r := by
  have lengths : (List.range 16).map (fun x => ((design.runs table name x).map id).length) =
      List.replicate 16 r := by
    apply List.map_eq_replicate_iff.mpr
    intro x _
    rw [List.length_map, length_runs crossed replicas]
  have total := (rows_perm name crossed id).length_eq
  rw [List.length_flatMap, List.length_map] at total
  rw [← total]
  exact (congrArg List.sum lengths).trans (by rw [List.sum_replicate, smul_eq_mul])

end Runs

section Contrast

variable {Level K : Type} [LinearOrder Level] [Field K] {design : Design Level}
  {df table : List (Row Level K)} {name : String} {r : Nat}
  (crossed : ∀ row ∈ table, ∃ combination, design.At combination row)

/-- The values of a statistic, each with the sign that its run has in an effect. -/
def Design.contrast (design : Design Level) (table : List (Row Level K)) (name : String)
    (factors : Combination) : List K :=
  (table.filter fun row => row.name = name).map fun row =>
    (effectSign factors (design.highs row) : K) * row.value

include crossed

variable (name) in
/-- A sum with the signs of an effect is a transform of the sums of the rows of the file. -/
theorem sum_signs (factors : Combination) (weight : Row Level K → K) :
    ((table.filter fun row => row.name = name).map fun row =>
      (effectSign factors (design.highs row) : K) * weight row).sum =
        transform 4 (fun x => ((design.runs table name x).map weight).sum)
          (effectNumber factors) := by
  have parts : ∀ x ∈ List.range 16, ((design.runs table name x).map fun row =>
      (effectSign factors (design.highs row) : K) * weight row).sum =
        ((design.runs table name x).map weight).sum *
          (Walsh.sign x (effectNumber factors) : K) := by
    intro x isRow
    have signs : ∀ row ∈ design.runs table name x,
        (effectSign factors (design.highs row) : K) * weight row =
          (Walsh.sign x (effectNumber factors) : K) * weight row := by
      intro row member
      rw [highs_of_mem_runs crossed member, sign_effectNumber factors (List.mem_range.mp isRow)]
    rw [List.map_congr_left signs, List.sum_map_mul_left, mul_comm]
  rw [← (rows_perm name crossed _).sum_eq, List.flatMap_def, List.sum_flatten, List.map_map]
  exact congrArg List.sum (List.map_congr_left parts)

variable (same : df.Perm table)
  (ordered : (df.map Row.iterationvars).eraseDups =
    (List.range 16).map fun x => design.iterationvars (combinationOf x))
  (replicas : ∀ combination, (design.values table name combination).length = r)

include same ordered

include replicas in
omit [Field K] in
theorem balanced_observations : Balanced (observations df name) 4 r where
  length := by
    rw [observations_eq ordered, List.length_map, List.length_range]
    rfl
  row _ := length_of_mem_observations same crossed ordered replicas

omit crossed in
theorem response_observations {x : Nat} (isRow : x < 16) :
    response (observations df name) x =
      Pooling.mean ((design.runs table name x).map Row.value) := by
  have perm : ((df.filter fun row => row.name = name ∧
      row.iterationvars = design.iterationvars (combinationOf x)).map Row.value).Perm
        ((design.runs table name x).map Row.value) := (same.filter _).map _
  rw [response, observations_eq ordered, List.map_map, getD_map_range isRow, Function.comp_apply,
    Pooling.mean_perm perm]

include replicas in
/-- The effect of some factors is the mean of the observations with their signs. -/
theorem transform_response [CharZero K] (positive : 1 ≤ r) (factors : Combination) :
    transform 4 (response (observations df name)) (effectNumber factors) / ((16 : Nat) : K) =
      Pooling.mean (design.contrast table name factors) := by
  have some : (r : K) ≠ 0 := Nat.cast_ne_zero.mpr (by omega)
  have means : transform 4 (response (observations df name)) (effectNumber factors) =
      (r : K)⁻¹ * transform 4
        (fun x => ((design.runs table name x).map Row.value).sum) (effectNumber factors) := by
    rw [← transform_mul_left]
    refine sum_congr rfl fun x isRow => ?_
    rw [response_observations same ordered (mem_range.mp isRow), Pooling.mean,
      List.length_map, length_runs crossed replicas, div_eq_inv_mul]
  have length : (design.contrast table name factors).length = 16 * r := by
    rw [Design.contrast, List.length_map, length_statistic crossed replicas]
  rw [means, ← sum_signs name crossed, Pooling.mean, length, Nat.cast_mul, Design.contrast]
  field_simp

end Contrast

/-! ## Main effects -/

section Main

variable {Level K : Type} [LinearOrder Level] [Field K] {design : Design Level}
  {table : List (Row Level K)} {name : String} {r : Nat}

/-- A factor on its own. -/
def single (factor : Factor) : Combination := fun other => other = factor

theorem effectLabel_single (factor : Factor) : effectLabel (single factor) = [factor.letter] := by
  cases factor <;> decide

theorem effectNumber_single_pos (factor : Factor) : 0 < effectNumber (single factor) := by
  cases factor <;> decide

theorem effectSign_single (factor : Factor) (combination : Combination) :
    effectSign (single factor) combination = if combination factor then 1 else -1 := by
  cases factor <;> cases high : combination _ <;> simp [effectSign, single, high]

/-- The values of a statistic at one level of a factor. -/
def valuesAt (table : List (Row Level K)) (name : String) (factor : Factor) (level : Level) :
    List K :=
  (table.filter fun row => row.name = name ∧ row.level factor = level).map Row.value

variable (crossed : ∀ row ∈ table, ∃ combination, design.At combination row)

include crossed

omit [Field K] in
theorem filter_low (factor : Factor) :
    ((table.filter fun row => row.name = name).filter fun row => !design.highs row factor) =
      table.filter fun row => row.name = name ∧ row.level factor = design.low factor := by
  rw [List.filter_filter]
  apply List.filter_congr
  intro row member
  obtain ⟨combination, isAt⟩ := crossed row member
  have low : (!design.highs row factor) = decide (row.level factor = design.low factor) := by
    have apart := design.apart factor
    rw [isAt.highs_eq, isAt.level, Design.level]
    cases combination factor with
    | true => simpa using apart.ne'
    | false => simp
  rw [low, Bool.and_comm, ← Bool.decide_and]

omit [Field K] crossed in
theorem filter_high (factor : Factor) :
    ((table.filter fun row => row.name = name).filter fun row => design.highs row factor) =
      table.filter fun row => row.name = name ∧ row.level factor = design.high factor := by
  rw [List.filter_filter]
  apply List.filter_congr
  intro row _
  rw [Design.highs, Bool.and_comm, ← Bool.decide_and]

variable [CharZero K]
  (replicas : ∀ combination, (design.values table name combination).length = r)

include replicas

/-- Half of the runs have the factor at its high level. -/
theorem halves (factor : Factor) :
    ((table.filter fun row => row.name = name).filter fun row => design.highs row factor).length =
      ((table.filter fun row => row.name = name).filter fun row =>
        !design.highs row factor).length := by
  have weights : (fun x => ((design.runs table name x).map fun _ => (1 : K)).sum) =
      fun _ => (r : K) := by
    funext x
    rw [List.map_const', List.sum_replicate, length_runs crossed replicas, nsmul_one]
  have balance := sum_signs name crossed (single factor) fun _ => (1 : K)
  rw [weights, transform_const _ (effectNumber_single_pos factor) (effectNumber_lt _)] at balance
  simp only [effectSign_single, Int.cast_ite, Int.cast_one, Int.cast_neg] at balance
  rw [Pooling.sum_signed, sub_eq_zero, List.map_const', List.map_const', List.sum_replicate,
    List.sum_replicate, nsmul_one, nsmul_one] at balance
  exact Nat.cast_injective balance

/-- The effect of a factor is half of the difference that its levels make. -/
theorem mean_contrast_single (factor : Factor) :
    Pooling.mean (design.contrast table name (single factor)) =
      (Pooling.mean (valuesAt table name factor (design.high factor)) -
        Pooling.mean (valuesAt table name factor (design.low factor))) / ((2 : Nat) : K) := by
  have signs : design.contrast table name (single factor) =
      (table.filter fun row => row.name = name).map fun row =>
        (if design.highs row factor then 1 else -1) * row.value := by
    apply List.map_congr_left
    intro row _
    rw [effectSign_single]
    split <;> simp
  rw [signs, Pooling.mean_signed (halves crossed replicas factor), filter_high,
    filter_low crossed]
  rfl

end Main

/-! ## The scripts together -/

section Table

variable {Level Value : Type}

/-- A table of the runs at two levels of each factor.  The statistics that are analysed have
different files, and as many values for each combination. -/
structure Campaign [LinearOrder Level] (design : Design Level)
    (table : List (Row Level Value)) (r : String → Nat) : Prop where
  crossed : ∀ row ∈ table, ∃ combination, design.At combination row
  colon : ∀ row ∈ table, 2 ≤ (split row.name).length
  alone : ∀ row ∈ table, ∀ other ∈ table, ∀ filename, Averaged row.name filename →
    Averaged other.name filename → row.name = other.name
  positive : ∀ row ∈ table, ∀ filename, Averaged row.name filename → 1 ≤ r row.name
  replicas : ∀ row ∈ table, ∀ filename, Averaged row.name filename →
    ∀ combination, (design.values table row.name combination).length = r row.name

/-- Two runs differ in a statistic. -/
def Differs (table : List (Row Level Value)) (name : String) : Prop :=
  ∃ one ∈ table, ∃ other ∈ table, one.name = name ∧ other.name = name ∧
    one.value ≠ other.value

/-- Two runs with the same combination differ in a statistic. -/
def Scatters (table : List (Row Level Value)) (name : String) : Prop :=
  ∃ one ∈ table, ∃ other ∈ table, one.name = name ∧ other.name = name ∧
    one.iterationvars = other.iterationvars ∧ one.value ≠ other.value

theorem Scatters.differs {table : List (Row Level Value)} {name : String}
    (scatters : Scatters table name) : Differs table name := by
  obtain ⟨one, isOne, other, isOther, own, shares, -, different⟩ := scatters
  exact ⟨one, isOne, other, isOther, own, shares, different⟩

end Table

section Scripts

variable {Level K : Type} [LinearOrder Level] [Field K] [LinearOrder K]

/-- `factorial2kr.py` as `makeInput` calls it: the file is analysed, and the shell and the
libraries that plot what it leaves do their part.  A script that fails leaves the output of an
earlier call of `makeInput`, if there is one, and then this is plotted. -/
def Environment.factorial (libraries : Libraries K) (format : K → List Char)
    (earlier : String → Option (Report K)) (opens : String → Bool)
    (plots : String → Report K → Bool) : Environment K where
  opens
  analysed filename txt :=
    match script libraries false filename (txt.map (savetxtLine format)) with
    | .ok report => plots filename report
    | .error _ => (earlier filename).any (plots filename)

/-- What the scripts rely on.  The plots need a scale, so that there have to be errors. -/
structure Reliable (libraries : Libraries K) (format : K → List Char) (opens : String → Bool)
    (plots : String → Report K → Bool) (table : List (Row Level K)) : Prop where
  readsBack : ∀ row ∈ table, ReadsBack libraries.float format row.value
  opens : ∀ row ∈ table, ∀ filename, Averaged row.name filename → opens filename = true
  plots : ∀ row ∈ table, ∀ filename, Averaged row.name filename →
    ∀ report, (∃ entry ∈ report.qqnorm, entry.1 ≠ 0) → plots filename report = true

/-! ### A round -/

section Round

variable {environment : Environment K} {df : List (Row Level K)} {inputs files : Inputs K}
  {name filename : String} {names : List String}

omit [LinearOrder Level] [Field K] [LinearOrder K] in
/-- A loop that completes has found every analysis. -/
theorem analysed_of_forM
    (run : (forM names (writeInput environment df)).run inputs = .ok () files)
    (member : name ∈ names) (averaged : Averaged name filename) :
    environment.analysed filename (observations df name) = true := by
  induction names generalizing inputs with
  | nil => cases member
  | cons first rest ih =>
      rw [List.forM_cons, EStateM.run_bind] at run
      cases step : (writeInput environment df first).run inputs with
      | error raised next =>
          rw [step] at run
          cases run
      | ok _ next =>
          rw [step] at run
          obtain rfl | inRest := List.mem_cons.mp member
          · obtain ⟨-, -, analysed, -⟩ | ⟨-, result⟩ | ⟨-, raised, result⟩ :=
              run_writeInput environment df averaged inputs
            · exact analysed
            · cases step.symm.trans result
            · cases step.symm.trans result
          · exact ih run inRest

end Round

section Table

variable {design : Design Level} {df table : List (Row Level K)} {name filename : String}
  {libraries : Libraries K} {format : K → List Char} {earlier : String → Option (Report K)}
  {opens : String → Bool} {plots : String → Report K → Bool} {r : Nat}
  (crossed : ∀ row ∈ table, ∃ combination, design.At combination row) (same : df.Perm table)
  (ordered : (df.map Row.iterationvars).eraseDups =
    (List.range 16).map fun x => design.iterationvars (combinationOf x))
  (replicas : ∀ combination, (design.values table name combination).length = r)
  (readsBack : ∀ row ∈ table, ReadsBack libraries.float format row.value)

include crossed same ordered in
omit [Field K] [LinearOrder K] in
theorem flatten_observations : (observations df name).flatten.Perm
    ((table.filter fun row => row.name = name).map Row.value) := by
  have inTable : ∀ row ∈ df, ∃ combination, design.At combination row := fun row member =>
    crossed row (same.mem_iff.mp member)
  rw [observations_eq ordered, ← List.flatMap_def]
  exact (rows_perm name inTable Row.value).trans ((same.filter _).map _)

include crossed same ordered in
omit [Field K] [LinearOrder K] in
theorem varied_observations : Varied (observations df name) ↔ Differs table name := by
  have member : ∀ value, value ∈ (observations df name).flatten ↔
      ∃ row ∈ table, row.name = name ∧ row.value = value := by
    intro value
    rw [(flatten_observations crossed same ordered).mem_iff, List.mem_map]
    simp only [List.mem_filter, decide_eq_true_eq, and_assoc]
  constructor
  · rintro ⟨_, isOne, _, isOther, different⟩
    obtain ⟨one, inTable, own, rfl⟩ := (member _).mp isOne
    obtain ⟨other, isRow, shares, rfl⟩ := (member _).mp isOther
    exact ⟨one, inTable, other, isRow, own, shares, different⟩
  · rintro ⟨one, inTable, other, isRow, own, shares, different⟩
    exact ⟨_, (member _).mpr ⟨one, inTable, own, rfl⟩, _,
      (member _).mpr ⟨other, isRow, shares, rfl⟩, different⟩

variable (name) in
include same readsBack in
omit [LinearOrder Level] [Field K] [LinearOrder K] in
theorem readsBack_observations :
    ∀ values ∈ observations df name, ∀ value ∈ values,
      ReadsBack libraries.float format value := by
  intro values isRow value isValue
  obtain ⟨iters, -, rfl⟩ := List.mem_map.mp isRow
  obtain ⟨row, selected, rfl⟩ := List.mem_map.mp isValue
  exact readsBack row (same.mem_iff.mp (List.mem_of_mem_filter selected))

include crossed same ordered in
omit [Field K] [LinearOrder K] in
/-- The two values are in one row of the file. -/
theorem scatters_observations (scatters : Scatters table name) :
    ∃ values ∈ observations df name, ∃ v ∈ values, ∃ w ∈ values, v ≠ w := by
  obtain ⟨one, isOne, other, isOther, own, shares, together, different⟩ := scatters
  obtain ⟨combination, isAt⟩ := crossed one isOne
  have place : design.iterationvars (combinationOf (rowOf combination)) = one.iterationvars := by
    rw [combinationOf_rowOf, isAt.iterationvars]
  have inRow : ∀ row ∈ table, row.name = name → one.iterationvars = row.iterationvars →
      row.value ∈ (df.filter fun row => row.name = name ∧
        row.iterationvars = design.iterationvars (combinationOf (rowOf combination))).map
          Row.value := by
    intro row member statistic same'
    refine List.mem_map_of_mem (List.mem_filter.mpr ⟨same.mem_iff.mpr member, ?_⟩)
    exact decide_eq_true ⟨statistic, same'.symm.trans place.symm⟩
  refine ⟨_, ?_, _, inRow one isOne own rfl, _, inRow other isOther shares together, different⟩
  rw [observations_eq ordered]
  exact List.mem_map_of_mem (List.mem_range.mpr (rowOf_lt combination))

include crossed same ordered replicas in
omit [Field K] [LinearOrder K] in
/-- Different values of one combination are two. -/
theorem two_le_of_scatters (scatters : Scatters table name) : 2 ≤ r := by
  obtain ⟨values, member, v, isValue, w, isOther, different⟩ :=
    scatters_observations crossed same ordered scatters
  rw [← length_of_mem_observations same crossed ordered replicas member]
  by_contra few
  obtain ⟨_, rfl⟩ := List.length_eq_one_iff.mp (Nat.le_antisymm (by omega)
    (List.length_pos_of_mem isValue))
  exact different ((List.mem_singleton.mp isValue).trans (List.mem_singleton.mp isOther).symm)

variable [IsStrictOrderedRing K] (positive : 1 ≤ r)

include crossed same ordered replicas readsBack positive

/-- `factorial2kr.py` leaves its output only when there is a variance. -/
theorem several_of_analysed (noFile : earlier filename = none)
    (analysed : (Environment.factorial libraries format earlier opens plots).analysed filename
      (observations df name) = true) : 2 ≤ r ∧ Differs table name := by
  have balanced := balanced_observations crossed same ordered replicas
  have numbers := readsBack_observations name same readsBack
  rw [← varied_observations crossed same ordered]
  by_contra short
  have fails : script libraries false filename
      ((observations df name).map (savetxtLine format)) = .error .zeroDivisionError :=
    script_of_not_varied libraries false numbers balanced (by decide) (by decide) positive short
  unfold Environment.factorial at analysed
  dsimp only at analysed
  rw [fails, noFile] at analysed
  cases analysed

omit positive in
/-- With errors it leaves its output, and the plots succeed. -/
theorem analysed_of_scatters
    (works : ∀ report, (∃ entry ∈ report.qqnorm, entry.1 ≠ 0) → plots filename report = true)
    (scatters : Scatters table name) :
    (Environment.factorial libraries format earlier opens plots).analysed filename
      (observations df name) = true := by
  have balanced := balanced_observations crossed same ordered replicas
  have numbers := readsBack_observations name same readsBack
  have several := two_le_of_scatters crossed same ordered replicas scatters
  have varied := (varied_observations crossed same ordered).mpr scatters.differs
  obtain ⟨values, member, v, isValue, w, isOther, different⟩ :=
    scatters_observations crossed same ordered scatters
  have run : script libraries false filename
      ((observations df name).map (savetxtLine format)) =
        .ok (reportOf libraries false (analysed libraries.sqrt (observations df name) 4 r)) :=
    script_of_varied libraries false numbers balanced (by decide) (by decide) several varied
  unfold Environment.factorial
  dsimp only
  rw [run]
  apply works
  have plot : (reportOf libraries false
      (analysed libraries.sqrt (observations df name) 4 r)).qqnorm =
        normalPlot libraries.ppf (observations df name) :=
    @saveQqnorm_prepared K _ _ (observations df name) 4 r libraries.ppf
  rw [plot]
  exact exists_error_ne_zero libraries.ppf member isValue isOther different

/-- The line of an effect, in the summary of the file of a statistic. -/
theorem exists_effectLine (several : 2 ≤ r) (differs : Differs table name) :
    ∃ report, script libraries false filename
        ((observations df name).map (savetxtLine format)) = .ok report ∧
      ∀ factors, ∃ line ∈ report.summary.effects, line.letters = effectLabel factors ∧
        line.effect = Pooling.mean (design.contrast table name factors) := by
  have balanced := balanced_observations crossed same ordered replicas
  have numbers := readsBack_observations name same readsBack
  have varied := (varied_observations crossed same ordered).mpr differs
  refine ⟨_, script_of_varied libraries false numbers balanced (by decide) (by decide) several
    varied, ?_⟩
  intro factors
  have isCol := effectNumber_lt factors
  refine ⟨lineOf libraries.interval (analysed libraries.sqrt (observations df name) 4 r)
    (effectNumber factors), ?_, ?_, ?_⟩
  · apply List.mem_filter.mpr
    refine ⟨List.mem_map_of_mem (List.mem_range.mpr ?_), rfl⟩
    change effectNumber factors < 2 ^ (prepared (observations df name) 4 r).k
    rwa [prepared_k]
  · change label (prepared (observations df name) 4 r).k _ = _
    rw [prepared_k, label_effectNumber]
  · change (prepared (observations df name) 4 r).effects.getD (effectNumber factors) 0 = _
    rw [effects_getD (by decide) isCol]
    exact transform_response crossed same ordered replicas positive factors

end Table

/-! ### A small campaign -/

section Small

/-- A scalar with a rational value. -/
def rational (row : Row Nat Nat) : Row Nat ℚ := { row with value := (row.value : ℚ) }

/-- The numbers of two runs for each combination. -/
def smallTable : List (Row Nat ℚ) := (scalars "HoldingQueueSize:mean" 2).map rational

theorem name_of_mem_smallTable {row : Row Nat ℚ} (member : row ∈ smallTable) :
    row.name = "HoldingQueueSize:mean" := by
  obtain ⟨scalar, isScalar, rfl⟩ := List.mem_map.mp member
  exact name_of_mem_scalars isScalar

theorem campaign_small : Campaign Design.binary smallTable fun _ => 2 where
  crossed row member := by
    obtain ⟨scalar, isScalar, rfl⟩ := List.mem_map.mp member
    obtain ⟨combination, isAt⟩ := crossed_of_mem_scalars isScalar
    refine ⟨combination, fun factor => ?_, isAt.iterationvars⟩
    rw [← isAt.level]
    cases factor <;> rfl
  colon row member := by
    rw [name_of_mem_smallTable member]
    decide
  alone row member other isOther _ _ _ :=
    (name_of_mem_smallTable member).trans (name_of_mem_smallTable isOther).symm
  positive _ _ _ _ := Nat.le_succ 1
  replicas row member _ _ combination := by
    have levels : ∀ (row : Row Nat Nat) factor, (rational row).level factor = row.level factor :=
      fun row factor => by cases factor <;> rfl
    have lengths := length_values_scalars "HoldingQueueSize:mean" 2 combination
    rw [Design.values, List.length_map] at lengths
    rw [name_of_mem_smallTable member, Design.values, List.length_map, smallTable,
      List.filter_map, List.length_map]
    refine Eq.trans (congrArg List.length (List.filter_congr ?_)) lengths
    intro scalar _
    simp only [Function.comp_apply, levels]
    rfl

/-- The plots succeed when there are errors. -/
def scaled (_filename : String) (report : Report ℚ) : Bool :=
  report.qqnorm.any fun entry => entry.1 ≠ 0

theorem scaled_of_exists (filename : String) (report : Report ℚ)
    (errors : ∃ entry ∈ report.qqnorm, entry.1 ≠ 0) : scaled filename report = true := by
  obtain ⟨entry, member, away⟩ := errors
  exact List.any_eq_true.mpr ⟨entry, member, decide_eq_true away⟩

theorem reliable_small : Reliable smallLibraries decimal (fun _ => true) scaled smallTable where
  readsBack row member := by
    obtain ⟨scalar, -, rfl⟩ := List.mem_map.mp member
    exact readsBack_decimal scalar.value
  opens _ _ _ _ := rfl
  plots _ _ filename _ := scaled_of_exists filename

theorem complete_small : ∀ row ∈ smallTable, ∀ filename, Averaged row.name filename →
    Scatters smallTable row.name := by
  intro row member _ _
  have isRow : ∀ x < 32, rational (scalar "HoldingQueueSize:mean" x) ∈ smallTable :=
    fun x bound => List.mem_map_of_mem (List.mem_map_of_mem (List.mem_range.mpr bound))
  rw [name_of_mem_smallTable member]
  refine ⟨_, isRow 0 (by decide), _, isRow 16 (by decide), rfl, rfl, rfl, ?_⟩
  decide

end Small

/-! ### The whole campaign -/

section Campaign

variable [IsStrictOrderedRing K] {design : Design Level} {table : List (Row Level K)}
  {r : String → Nat} (campaign : Campaign design table r) {libraries : Libraries K}
  {format : K → List Char} {opens : String → Bool} {plots : String → Report K → Bool}
  (reliable : Reliable libraries format opens plots table)
  (earlier : String → Option (Report K)) (pandas : SortValues Level K) (inputs : Inputs K)

include campaign reliable

theorem exists_makeInput (complete : ∀ row ∈ table, ∀ filename, Averaged row.name filename →
    Scatters table row.name) :
    ∃ files, (makeInput (.factorial libraries format earlier opens plots) pandas table).run
      inputs = .ok () files := by
  have same := pandas.perm sortKeys table
  refine exists_run_forM ?_ inputs
  intro name member
  obtain ⟨row, isRow, rfl⟩ := (mem_names same).mp member
  have ordered := fun filename (averaged : Averaged row.name filename) =>
    Design.ordered same (pandas.sorted sortKeys table) campaign.crossed
      (campaign.positive row isRow filename averaged)
      (campaign.replicas row isRow filename averaged)
  exact {
    colon := campaign.colon row isRow
    array := fun filename averaged => observations_isArray same campaign.crossed
      (ordered filename averaged) (campaign.replicas row isRow filename averaged)
    opens := reliable.opens row isRow
    analysed := fun filename averaged =>
      analysed_of_scatters campaign.crossed same (ordered filename averaged)
        (campaign.replicas row isRow filename averaged) reliable.readsBack
        (reliable.plots row isRow filename averaged) (complete row isRow filename averaged) }

/-- `makeInput` and `factorial2kr.py` together.  The analysis of a campaign completes only when
each statistic that is analysed, unless an earlier call has left the output for it, has two
values for each combination and is not the same in all runs, whatever the plots do; and it
completes when in each of them two runs of one combination differ. -/
theorem campaign_completes :
    (¬Stopped ((makeInput (.factorial libraries format earlier opens plots) pandas table).run
        inputs) →
      ∀ row ∈ table, ∀ filename, Averaged row.name filename → earlier filename = none →
        2 ≤ r row.name ∧ Differs table row.name) ∧
      ((∀ row ∈ table, ∀ filename, Averaged row.name filename → Scatters table row.name) →
        ¬Stopped ((makeInput (.factorial libraries format earlier opens plots) pandas table).run
          inputs)) := by
  have same := pandas.perm sortKeys table
  constructor
  · intro completes row isRow filename averaged noFile
    cases run : (makeInput (.factorial libraries format earlier opens plots) pandas table).run
        inputs with
    | error raised files => exact absurd ⟨raised, files, run⟩ completes
    | ok _ files =>
        have ordered := Design.ordered same (pandas.sorted sortKeys table) campaign.crossed
          (campaign.positive row isRow filename averaged)
          (campaign.replicas row isRow filename averaged)
        exact several_of_analysed campaign.crossed same ordered
          (campaign.replicas row isRow filename averaged) reliable.readsBack
          (campaign.positive row isRow filename averaged) noFile
          (analysed_of_forM run ((mem_names same).mpr ⟨row, isRow, rfl⟩) averaged)
  · rintro complete ⟨raised, files, stopped⟩
    obtain ⟨written, run⟩ := exists_makeInput campaign reliable earlier pandas inputs complete
    cases run.symm.trans stopped

omit campaign reliable in
theorem campaign_completes_small :
    ¬Stopped ((makeInput (.factorial smallLibraries decimal (fun _ => none) (fun _ => true)
      scaled) .insertionSort smallTable).run fun _ => none) :=
  (campaign_completes campaign_small reliable_small (fun _ => none) .insertionSort
    fun _ => none).2 complete_small

/-- Every statistic that is analysed has its file and its report. -/
theorem exists_reports (complete : ∀ row ∈ table, ∀ filename, Averaged row.name filename →
    Scatters table row.name) :
    ∃ files, (makeInput (.factorial libraries format earlier opens plots) pandas table).run
        inputs = .ok () files ∧
      ∀ row ∈ table, ∀ filename, Averaged row.name filename → ∃ rows report,
        files filename = some rows ∧
        script libraries false filename (rows.map (savetxtLine format)) = .ok report ∧
        ∀ factors, ∃ line ∈ report.summary.effects, line.letters = effectLabel factors ∧
          line.effect = Pooling.mean (design.contrast table row.name factors) := by
  have same := pandas.perm sortKeys table
  obtain ⟨files, run⟩ := exists_makeInput campaign reliable earlier pandas inputs complete
  refine ⟨files, run, ?_⟩
  intro row isRow filename averaged
  obtain ⟨name, listed, shares, written⟩ :=
    written_of_forM run ((mem_names same).mpr ⟨row, isRow, rfl⟩) averaged
  obtain ⟨other, isOther, rfl⟩ := (mem_names same).mp listed
  rw [campaign.alone other isOther row isRow filename shares averaged] at written
  have replicas := campaign.replicas row isRow filename averaged
  have positive := campaign.positive row isRow filename averaged
  have ordered := Design.ordered same (pandas.sorted sortKeys table) campaign.crossed positive
    replicas
  have scatters := complete row isRow filename averaged
  have several := two_le_of_scatters campaign.crossed same ordered replicas scatters
  obtain ⟨report, result, effects⟩ := exists_effectLine campaign.crossed same ordered replicas
    reliable.readsBack positive several scatters.differs
  exact ⟨_, report, written, result, effects⟩

omit reliable in
theorem Campaign.mean_contrast_single {row : Row Level K} (isRow : row ∈ table)
    {filename : String} (averaged : Averaged row.name filename) (factor : Factor) :
    Pooling.mean (design.contrast table row.name (single factor)) =
      (Pooling.mean (valuesAt table row.name factor (design.high factor)) -
        Pooling.mean (valuesAt table row.name factor (design.low factor))) / ((2 : Nat) : K) :=
  Results.mean_contrast_single campaign.crossed (campaign.replicas row isRow filename averaged)
    factor

/-- What the summaries of a campaign say.  Every statistic that is analysed has its file, and in
the summary of that file the effect with the letters of some factors is the mean of the values,
each with the sign that the levels of these factors have in its run.  For a single factor this is
half of the difference between the mean at the high level and the mean at the low level. -/
theorem campaign_effects (complete : ∀ row ∈ table, ∀ filename, Averaged row.name filename →
    Scatters table row.name) :
    ∃ files, (makeInput (.factorial libraries format earlier opens plots) pandas table).run
        inputs = .ok () files ∧
      ∀ row ∈ table, ∀ filename, Averaged row.name filename → ∃ rows report,
        files filename = some rows ∧
        script libraries false filename (rows.map (savetxtLine format)) = .ok report ∧
        (∀ factors, ∃ line ∈ report.summary.effects, line.letters = effectLabel factors ∧
          line.effect = Pooling.mean (design.contrast table row.name factors)) ∧
        ∀ factor, ∃ line ∈ report.summary.effects, line.letters = [factor.letter] ∧
          line.effect = (Pooling.mean (valuesAt table row.name factor (design.high factor)) -
            Pooling.mean (valuesAt table row.name factor (design.low factor))) /
              ((2 : Nat) : K) := by
  obtain ⟨files, run, reports⟩ := exists_reports campaign reliable earlier pandas inputs complete
  refine ⟨files, run, ?_⟩
  intro row isRow filename averaged
  obtain ⟨rows, report, written, result, effects⟩ := reports row isRow filename averaged
  refine ⟨rows, report, written, result, effects, ?_⟩
  intro factor
  obtain ⟨line, member, letters, effect⟩ := effects (single factor)
  refine ⟨line, member, ?_, ?_⟩
  · rw [letters, effectLabel_single]
  · rw [effect, campaign.mean_contrast_single isRow averaged]

omit campaign reliable in
theorem campaign_effects_small :
    ∃ files, (makeInput (.factorial smallLibraries decimal (fun _ => none) (fun _ => true)
        scaled) .insertionSort smallTable).run (fun _ => none) = .ok () files ∧
      ∀ row ∈ smallTable, ∀ filename, Averaged row.name filename → ∃ rows report,
        files filename = some rows ∧
        script smallLibraries false filename (rows.map (savetxtLine decimal)) = .ok report ∧
        (∀ factors, ∃ line ∈ report.summary.effects, line.letters = effectLabel factors ∧
          line.effect = Pooling.mean (Design.binary.contrast smallTable row.name factors)) ∧
        ∀ factor, ∃ line ∈ report.summary.effects, line.letters = [factor.letter] ∧
          line.effect = (Pooling.mean (valuesAt smallTable row.name factor 1) -
            Pooling.mean (valuesAt smallTable row.name factor 0)) / ((2 : Nat) : ℚ) :=
  campaign_effects campaign_small reliable_small (fun _ => none) .insertionSort (fun _ => none)
    complete_small

end Campaign

end Scripts

end AirTrafficControl.Results
