import AirTrafficControl.Results.MakeInput
import AirTrafficControl.Results.SignMatrix
import Mathlib.Data.Fintype.Basic
import Mathlib.Tactic.Choose

/-!
# The design of the factorial analysis

`factorial2kr.py` takes the number of a row for a combination of the factors.  No header says
which: the order of the rows is that in which the sorted table first names each combination.
-/

namespace AirTrafficControl.Results

open Table

variable {Level Value : Type}

/-- The factors, in the order in which `factorial2kr.py` numbers them. -/
inductive Factor where
  | iat
  | lt
  | tot
  | pt
  deriving DecidableEq

instance : Fintype Factor where
  elems := {.iat, .lt, .tot, .pt}
  complete factor := by cases factor <;> decide

def Factor.number : Factor → Nat
  | .iat => 0
  | .lt => 1
  | .tot => 2
  | .pt => 3

def Row.level (row : Row Level Value) : Factor → Level
  | .iat => row.iat
  | .lt => row.lt
  | .tot => row.tot
  | .pt => row.pt

/-- Which of the factors are at their high level. -/
abbrev Combination := Factor → Bool

/-- Two levels for each factor, and a name for each combination. -/
structure Design (Level : Type) [LinearOrder Level] where
  low : Factor → Level
  high : Factor → Level
  apart : ∀ factor, low factor < high factor
  iterationvars : Combination → String
  unique : Function.Injective iterationvars

section Design

variable [LinearOrder Level]

/-- The level of a factor in a combination. -/
def Design.level (design : Design Level) (combination : Combination) (factor : Factor) :
    Level :=
  if combination factor then design.high factor else design.low factor

/-- The row comes from a run with a combination. -/
structure Design.At (design : Design Level) (combination : Combination)
    (row : Row Level Value) : Prop where
  level : ∀ factor, row.level factor = design.level combination factor
  iterationvars : row.iterationvars = design.iterationvars combination

/-- The values of a statistic for a combination. -/
def Design.values (design : Design Level) (df : List (Row Level Value)) (name : String)
    (combination : Combination) : List Value :=
  (df.filter fun row => row.name = name ∧
    ∀ factor, row.level factor = design.level combination factor).map Row.value

/-- The rows of a file are those that `factorial2kr.py` expects for a statistic. -/
structure Design.Matches (design : Design Level) (df : List (Row Level Value))
    (name : String) (rows : List (List Value)) : Prop where
  length : rows.length = 16
  row : ∀ x < 16, ∃ (values : List Value) (combination : Combination),
    rows[x]? = some values ∧ values.Perm (design.values df name combination) ∧
    ∀ factor, combination factor = true ↔
      (signMatrix 4)[x]?.bind (fun signs => signs[2 ^ factor.number]?) = some 1

/-! ## The order of the combinations -/

/-- The combination of a row of the file. -/
def combinationOf (x : Nat) : Combination := fun factor => !x.testBit factor.number

/-- A low level counts in the number of the row. -/
def digit (high : Bool) : Nat := if high then 0 else 1

/-- The row of a combination. -/
def rowOf (combination : Combination) : Nat :=
  digit (combination .iat) + 2 * digit (combination .lt) + 4 * digit (combination .tot) +
    8 * digit (combination .pt)

theorem digit_le (high : Bool) : digit high ≤ 1 := by
  cases high <;> decide

theorem rowOf_lt (combination : Combination) : rowOf combination < 16 := by
  have iat := digit_le (combination .iat)
  have lt := digit_le (combination .lt)
  have tot := digit_le (combination .tot)
  have pt := digit_le (combination .pt)
  unfold rowOf
  omega

theorem rowOf_combinationOf {x : Nat} (bound : x < 16) : rowOf (combinationOf x) = x := by
  interval_cases x <;> rfl

theorem combinationOf_rowOf (combination : Combination) :
    combinationOf (rowOf combination) = combination := by
  have bits : ∀ iat lt tot pt : Bool,
      let x := digit iat + 2 * digit lt + 4 * digit tot + 8 * digit pt
      (!x.testBit 0) = iat ∧ (!x.testBit 1) = lt ∧ (!x.testBit 2) = tot ∧
        (!x.testBit 3) = pt := by
    decide
  obtain ⟨iat, lt, tot, pt⟩ := bits (combination .iat) (combination .lt)
    (combination .tot) (combination .pt)
  funext factor
  cases factor with
  | iat => exact iat
  | lt => exact lt
  | tot => exact tot
  | pt => exact pt

namespace Design

variable (design : Design Level) {first second : Combination}

theorem level_lt_iff (factor : Factor) :
    design.level first factor < design.level second factor ↔
      digit (second factor) < digit (first factor) := by
  have apart := design.apart factor
  unfold level digit
  cases first factor <;> cases second factor <;> simp [apart, apart.le]

theorem level_eq_iff (factor : Factor) :
    design.level first factor = design.level second factor ↔
      digit (first factor) = digit (second factor) := by
  have apart := design.apart factor
  unfold level digit
  cases first factor <;> cases second factor <;> simp [apart.ne, apart.ne']

/-- The sorted table has the combinations in the order of their rows. -/
theorem rowOf_le {row later : Row Level Value} (isFirst : design.At first row)
    (isSecond : design.At second later)
    (ordered : InOrder sortKeys row later) : rowOf first ≤ rowOf second := by
  have descends : ∀ factor, later.level factor < row.level factor →
      digit (first factor) < digit (second factor) := by
    intro factor less
    rw [isFirst.level, isSecond.level] at less
    exact (design.level_lt_iff factor).mp less
  have agrees : ∀ factor, row.level factor = later.level factor →
      digit (first factor) = digit (second factor) := by
    intro factor same
    rw [isFirst.level, isSecond.level] at same
    exact (design.level_eq_iff factor).mp same
  have firstIat := digit_le (first .iat)
  have firstLt := digit_le (first .lt)
  have firstTot := digit_le (first .tot)
  unfold rowOf
  rcases ordered with pt | ⟨pt, tot | ⟨tot, lt | ⟨lt, iat | ⟨iat, -⟩⟩⟩⟩
  · have greater := descends .pt pt
    omega
  · have same := agrees .pt pt
    have greater := descends .tot tot
    omega
  · have same := agrees .pt pt
    have sameTot := agrees .tot tot
    have greater := descends .lt lt
    omega
  · have same := agrees .pt pt
    have sameTot := agrees .tot tot
    have sameLt := agrees .lt lt
    have greater := descends .iat iat
    omega
  · have same := agrees .pt pt
    have sameTot := agrees .tot tot
    have sameLt := agrees .lt lt
    have sameIat := agrees .iat iat
    omega

theorem at_unique {row : Row Level Value} (isFirst : design.At first row)
    (isSecond : design.At second row) : first = second :=
  design.unique (isFirst.iterationvars.symm.trans isSecond.iterationvars)

/-- The name of the combination stands for its levels. -/
theorem iterationvars_iff {row : Row Level Value} (isFirst : design.At first row) :
    row.iterationvars = design.iterationvars second ↔
      ∀ factor, row.level factor = design.level second factor := by
  constructor
  · intro same
    have combination := design.unique (isFirst.iterationvars.symm.trans same)
    exact combination ▸ isFirst.level
  · intro levels
    have combination : first = second := by
      funext factor
      have same := (design.level_eq_iff factor).mp
        ((isFirst.level factor).symm.trans (levels factor))
      revert same
      cases first factor <;> cases second factor <;> decide
    exact combination ▸ isFirst.iterationvars

/-- The sorted table names the combinations in the order of their rows. -/
theorem iterationvars_eraseDups {df : List (Row Level Value)}
    (sorted : df.Pairwise (InOrder sortKeys))
    (crossed : ∀ row ∈ df, ∃ combination, design.At combination row)
    (full : ∀ combination, ∃ row ∈ df, design.At combination row) :
    (df.map Row.iterationvars).eraseDups =
      (List.range 16).map fun x => design.iterationvars (combinationOf x) := by
  choose! combination isAt using crossed
  let places := df.map fun row => rowOf (combination row)
  have labels : df.map Row.iterationvars =
      places.map fun x => design.iterationvars (combinationOf x) := by
    rw [List.map_map]
    apply List.map_congr_left
    intro row member
    rw [(isAt row member).iterationvars, Function.comp_apply, combinationOf_rowOf]
  have bounded : ∀ x ∈ places, x < 16 := by
    intro x member
    obtain ⟨row, -, rfl⟩ := List.mem_map.mp member
    exact rowOf_lt _
  have distinct : ∀ x ∈ places, ∀ y ∈ places, design.iterationvars (combinationOf x) =
      design.iterationvars (combinationOf y) → x = y := by
    intro x isX y isY same
    rw [← rowOf_combinationOf (bounded x isX), design.unique same,
      rowOf_combinationOf (bounded y isY)]
  have increasing : places.Pairwise (· ≤ ·) := by
    refine List.pairwise_map.mpr (sorted.imp_of_mem ?_)
    intro row later isRow isLater ordered
    exact design.rowOf_le (isAt row isRow) (isAt later isLater) ordered
  have every : ∀ x, x ∈ places ↔ x ∈ List.range 16 := by
    intro x
    rw [List.mem_range]
    refine ⟨bounded x, fun bound => ?_⟩
    obtain ⟨row, member, known⟩ := full (combinationOf x)
    refine List.mem_map.mpr ⟨row, member, ?_⟩
    rw [design.at_unique (isAt row member) known, rowOf_combinationOf bound]
  rw [labels, eraseDups_map distinct,
    eraseDups_eq increasing List.pairwise_lt_range every]

end Design

/-! ## The file of a statistic -/

section File

variable {design : Design Level} {df table : List (Row Level Value)} {name : String}
  (same : df.Perm table)
  (crossed : ∀ row ∈ table, ∃ combination, design.At combination row)
  (ordered : (df.map Row.iterationvars).eraseDups =
    (List.range 16).map fun x => design.iterationvars (combinationOf x))

include same crossed in
/-- The rows that are selected by the name of a combination. -/
theorem selected_perm (combination : Combination) :
    ((df.filter fun row => row.name = name ∧
      row.iterationvars = design.iterationvars combination).map Row.value).Perm
      (design.values table name combination) := by
  have chosen : (table.filter fun row => row.name = name ∧
        row.iterationvars = design.iterationvars combination) =
      table.filter fun row => row.name = name ∧
        ∀ factor, row.level factor = design.level combination factor := by
    apply List.filter_congr
    intro row member
    obtain ⟨other, isAt⟩ := crossed row member
    exact decide_eq_decide.mpr (and_congr_right fun _ => design.iterationvars_iff isAt)
  rw [Design.values, ← chosen]
  exact (same.filter _).map _

include ordered in
theorem observations_eq :
    observations df name = (List.range 16).map fun x =>
      (df.filter fun row => row.name = name ∧
        row.iterationvars = design.iterationvars (combinationOf x)).map Row.value := by
  rw [observations, ordered, List.map_map]
  rfl

include same crossed ordered

/-- The rows of the file belong to the combinations in turn. -/
theorem observations_matches : design.Matches table name (observations df name) where
  length := by
    rw [observations_eq ordered, List.length_map, List.length_range]
  row x bound := by
    refine ⟨_, combinationOf x, ?_, selected_perm same crossed (combinationOf x), ?_⟩
    · rw [observations_eq ordered, List.getElem?_map, List.getElem?_range bound]
      rfl
    · intro factor
      have isFactor : factor.number < 4 := by cases factor <;> decide
      rw [signMatrix_two_pow (by decide) bound isFactor, combinationOf]
      cases x.testBit factor.number <;> decide

theorem length_of_mem_observations {r : Nat}
    (replicas : ∀ combination, (design.values table name combination).length = r)
    {values : List Value} (member : values ∈ observations df name) : values.length = r := by
  rw [observations_eq ordered] at member
  obtain ⟨x, -, rfl⟩ := List.mem_map.mp member
  exact (selected_perm same crossed _).length_eq.trans (replicas _)

/-- With as many values for each combination the file is an array. -/
theorem observations_isArray {r : Nat}
    (replicas : ∀ combination, (design.values table name combination).length = r) :
    IsArray (observations df name) := by
  have lengths : ∀ values ∈ observations df name, values.length = r := fun _ =>
    length_of_mem_observations same crossed ordered replicas
  intro values member
  rw [lengths values member]
  cases rows : observations df name with
  | nil => simp [rows] at member
  | cons first rest => exact (lengths first (rows ▸ List.mem_cons_self)).symm

end File

/-- A statistic with a value for each combination shows that the table is full. -/
theorem Design.ordered {design : Design Level} {df table : List (Row Level Value)}
    {name : String} {r : Nat} (same : df.Perm table) (sorted : df.Pairwise (InOrder sortKeys))
    (crossed : ∀ row ∈ table, ∃ combination, design.At combination row) (positive : 1 ≤ r)
    (replicas : ∀ combination, (design.values table name combination).length = r) :
    (df.map Row.iterationvars).eraseDups =
      (List.range 16).map fun x => design.iterationvars (combinationOf x) := by
  apply design.iterationvars_eraseDups sorted
  · intro row member
    exact crossed row (same.mem_iff.mp member)
  · intro combination
    have some : 0 < (design.values table name combination).length :=
      (replicas combination).symm ▸ positive
    obtain ⟨value, isValue⟩ := List.exists_mem_of_length_pos some
    obtain ⟨run, selected, -⟩ := List.mem_map.mp isValue
    obtain ⟨isRun, holds⟩ := List.mem_filter.mp selected
    obtain ⟨other, isAt⟩ := crossed run isRun
    refine ⟨run, same.mem_iff.mpr isRun, (of_decide_eq_true holds).2, ?_⟩
    exact (design.iterationvars_iff isAt).mpr (of_decide_eq_true holds).2

end Design

end AirTrafficControl.Results
