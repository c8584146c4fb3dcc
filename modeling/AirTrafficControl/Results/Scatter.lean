import AirTrafficControl.Library.Grouping
import AirTrafficControl.Library.Pooling
import AirTrafficControl.Results.MakeInput
import AirTrafficControl.Results.Variance
import Mathlib.Data.Prod.Lex
import Mathlib.Data.String.Basic

/-!
# Means against the utilization factor

With `deterministic == True`, `scatterDF` of `util.py` groups the scalars by the parameters of
their runs, and the means of these groups by the utilization factor.  The figures show the means
of the second grouping, in exact arithmetic.
-/

namespace AirTrafficControl.Results

open Grouping

/-! ## The figures -/

section Model

variable {K : Type}

/-- A row of the table after the first `groupby`. -/
structure ParameterMean (K : Type) where
  iat : K
  lt : K
  tot : K
  pt : K
  name : String
  mean : K

/-- A row of the table after the second `groupby`. -/
structure LoadMean (K : Type) where
  uf : K
  pt : K
  iat : K
  name : String
  mean : K

/-- A line of a figure, from point to point. -/
structure LoadCurve (K : Type) where
  pt : K
  iat : K
  points : List (K × K)

/-- The figure of a statistic. -/
structure LoadFigure (K : Type) where
  name : String
  title : String
  curves : List (LoadCurve K)

/-- The columns `['iat', 'lt', 'tot', 'pt', 'name']`. -/
def parameters (row : Row K K) : K ×ₗ K ×ₗ K ×ₗ K ×ₗ String :=
  toLex (row.iat, toLex (row.lt, toLex (row.tot, toLex (row.pt, row.name))))

variable [Field K] [LinearOrder K]

/-- The first `groupby`, with a row for each key. -/
def parameterMeans (df : List (Row K K)) : List (ParameterMean K) :=
  (groupBy parameters df).map fun ((iat, lt, tot, pt, name), x) =>
    { iat, lt, tot, pt, name, mean := Pooling.mean (x.map Row.value) }

/-- The column `uf`, where there is a number. -/
def ParameterMean.uf (row : ParameterMean K) : Option K :=
  if row.iat = 0 then none else some ((row.lt + row.tot) / row.iat)

/-- The columns `['uf', 'pt', 'iat', 'name']`. -/
def loadKey (row : K × ParameterMean K) : K ×ₗ K ×ₗ K ×ₗ String :=
  toLex (row.1, toLex (row.2.pt, toLex (row.2.iat, row.2.name)))

/-- The second `groupby`. -/
def loadMeans (vectors : List (K × ParameterMean K)) : List (LoadMean K) :=
  (groupBy loadKey vectors).map fun ((uf, pt, iat, name), x) =>
    { uf, pt, iat, name, mean := Pooling.mean (x.map fun row => row.2.mean) }

/-- The points that are plotted for a statistic. -/
def pointsOf (vectors : List (LoadMean K)) (name : String) (pt iat : K) : List (K × K) :=
  (vectors.filter fun row => row.name = name ∧ row.pt = pt ∧ row.iat = iat).map fun row =>
    (row.uf, row.mean)

/-- The loops that plot. -/
def figureOf (vectors : List (LoadMean K)) (name : String) : LoadFigure K where
  name
  title := (split name).headD ""
  curves := (vectors.map LoadMean.pt).eraseDups.flatMap fun pt =>
    (vectors.map LoadMean.iat).eraseDups.map fun iat =>
      { pt, iat, points := pointsOf vectors name pt iat }

/-- `scatterDF` with `deterministic == True`. -/
def scatterDF (df : List (Row K K)) : Option (List (LoadFigure K)) := do
  let vectors ← (parameterMeans df).mapM fun row => row.uf.map fun uf => (uf, row)
  let vectors := loadMeans vectors
  return (vectors.map LoadMean.name).eraseDups.map (figureOf vectors)

end Model

/-! ## Groups of groups -/

section Groups

variable {K : Type} [Field K] [LinearOrder K] {df : List (Row K K)}

/-- The key of the second `groupby` from that of the first. -/
def loadOf : K ×ₗ K ×ₗ K ×ₗ K ×ₗ String → K ×ₗ K ×ₗ K ×ₗ String
  | (iat, lt, tot, pt, name) => toLex ((lt + tot) / iat, toLex (pt, toLex (iat, name)))

/-- The table with the column `uf`. -/
def loaded (df : List (Row K K)) : List (K × ParameterMean K) :=
  (parameterMeans df).map fun row => ((row.lt + row.tot) / row.iat, row)

theorem mapM_uf (running : ∀ row ∈ df, row.iat ≠ 0) :
    ((parameterMeans df).mapM fun row => row.uf.map fun uf => (uf, row)) = some (loaded df) := by
  apply mapM_eq
  intro row member
  obtain ⟨⟨own, members⟩, isGroup, rfl⟩ := List.mem_map.mp member
  obtain ⟨⟨run, isRun, rfl⟩, -⟩ := mem_groupBy.mp isGroup
  exact congrArg (Option.map _) (if_neg (running run isRun))

theorem exists_loaded {own : K ×ₗ K ×ₗ K ×ₗ String} :
    (∃ row ∈ loaded df, loadKey row = own) ↔ ∃ run ∈ df, loadOf (parameters run) = own := by
  constructor
  · rintro ⟨row, member, rfl⟩
    obtain ⟨mean, isMean, rfl⟩ := List.mem_map.mp member
    obtain ⟨⟨key, members⟩, isGroup, rfl⟩ := List.mem_map.mp isMean
    obtain ⟨⟨run, isRun, rfl⟩, -⟩ := mem_groupBy.mp isGroup
    exact ⟨run, isRun, rfl⟩
  · rintro ⟨run, isRun, rfl⟩
    have isGroup : (parameters run, df.filter fun other => parameters other = parameters run) ∈
        groupBy parameters df := mem_groupBy.mpr ⟨⟨run, isRun, rfl⟩, rfl⟩
    exact ⟨_, List.mem_map_of_mem (List.mem_map_of_mem isGroup), rfl⟩

variable [CharZero K] {r : Nat}
  (replicas : ∀ row ∈ df, (df.filter fun other => parameters other = parameters row).length = r)

include replicas

/-- The mean of the means of some groups is the mean of their values. -/
theorem mean_loaded {own : K ×ₗ K ×ₗ K ×ₗ String} (positive : 1 ≤ r) :
    Pooling.mean (((loaded df).filter fun row => loadKey row = own).map fun row => row.2.mean) =
      Pooling.mean ((df.filter fun run => loadOf (parameters run) = own).map Row.value) := by
  let groups := (groupBy parameters df).filter fun group => loadOf group.1 = own
  have means : ((loaded df).filter fun row => loadKey row = own).map (fun row => row.2.mean) =
      (groups.map fun group => group.2.map Row.value).map Pooling.mean := by
    rw [loaded, parameterMeans, List.map_map, List.filter_map, List.map_map, List.map_map]
    rfl
  have sizes : ∀ sample ∈ groups.map fun group => group.2.map Row.value, sample.length = r := by
    intro sample member
    obtain ⟨⟨key, members⟩, isGroup, rfl⟩ := List.mem_map.mp member
    obtain ⟨⟨run, isRun, rfl⟩, rfl⟩ := mem_groupBy.mp (List.mem_of_mem_filter isGroup)
    rw [List.length_map]
    exact replicas run isRun
  have some : (r : K) ≠ 0 := Nat.cast_ne_zero.mpr (by omega)
  have values : (groups.map fun group => group.2.map Row.value).flatten =
      (groups.flatMap Prod.snd).map Row.value := by
    rw [← List.flatMap_def, List.map_flatMap]
  rw [means, Pooling.mean_means some sizes, values]
  exact Pooling.mean_perm ((flatMap_groupBy fun key => loadOf key = own).map Row.value)

end Groups

/-! ## The points of a curve -/

section Points

variable {K : Type} [Field K] [LinearOrder K] {df : List (Row K K)} {name : String} {pt iat : K}

/-- The runs of a statistic with some parameters. -/
def runsAt (df : List (Row K K)) (name : String) (pt iat uf : K) : List (Row K K) :=
  df.filter fun row =>
    row.name = name ∧ row.pt = pt ∧ row.iat = iat ∧ (row.lt + row.tot) / row.iat = uf

omit [LinearOrder K] in
theorem loadOf_eq_iff {row : Row K K} {uf : K} :
    loadOf (parameters row) = toLex (uf, toLex (pt, toLex (iat, name))) ↔
      row.name = name ∧ row.pt = pt ∧ row.iat = iat ∧ (row.lt + row.tot) / row.iat = uf := by
  change ((row.lt + row.tot) / row.iat, row.pt, row.iat, row.name) = (uf, pt, iat, name) ↔ _
  rw [Prod.mk.injEq, Prod.mk.injEq, Prod.mk.injEq]
  tauto

theorem filter_loadOf (uf : K) :
    (df.filter fun row => loadOf (parameters row) = toLex (uf, toLex (pt, toLex (iat, name)))) =
      runsAt df name pt iat uf := by
  apply List.filter_congr
  intro row _
  exact decide_eq_decide.mpr loadOf_eq_iff

theorem mem_pointsOf {vectors : List (K × ParameterMean K)} {uf mean : K} :
    (uf, mean) ∈ pointsOf (loadMeans vectors) name pt iat ↔
      (∃ row ∈ vectors, loadKey row = toLex (uf, toLex (pt, toLex (iat, name)))) ∧
        mean = Pooling.mean ((vectors.filter fun row =>
          loadKey row = toLex (uf, toLex (pt, toLex (iat, name)))).map fun row => row.2.mean) := by
  rw [pointsOf, List.mem_map]
  constructor
  · rintro ⟨row, member, same⟩
    obtain ⟨isRow, holds⟩ := List.mem_filter.mp member
    obtain ⟨rfl, rfl, rfl⟩ := of_decide_eq_true holds
    cases same
    obtain ⟨⟨key, members⟩, isGroup, rfl⟩ := List.mem_map.mp isRow
    obtain ⟨known, rfl⟩ := mem_groupBy.mp isGroup
    exact ⟨known, rfl⟩
  · rintro ⟨known, rfl⟩
    refine ⟨{ uf, pt, iat, name, mean := _ }, List.mem_filter.mpr ⟨?_, ?_⟩, rfl⟩
    · exact List.mem_map.mpr ⟨_, mem_groupBy.mpr ⟨known, rfl⟩, rfl⟩
    · exact decide_eq_true ⟨rfl, rfl, rfl⟩

/-- A curve goes from the left to the right. -/
theorem pointsOf_pairwise (vectors : List (K × ParameterMean K)) :
    (pointsOf (loadMeans vectors) name pt iat).Pairwise fun one other => one.1 < other.1 := by
  rw [pointsOf, List.pairwise_map, List.pairwise_filter, loadMeans, List.pairwise_map, groupBy,
    List.pairwise_map]
  refine (keysOf_pairwise loadKey vectors).imp ?_
  rintro ⟨uf, rest⟩ ⟨later, others⟩ before isOne isOther
  have rests : rest = others := by
    obtain ⟨isName, isPt, isIat⟩ := of_decide_eq_true isOne
    obtain ⟨sameName, samePt, sameIat⟩ := of_decide_eq_true isOther
    exact Prod.ext (isPt.trans samePt.symm)
      (Prod.ext (isIat.trans sameIat.symm) (isName.trans sameName.symm))
  obtain less | ⟨-, less⟩ := Prod.Lex.lt_iff.mp before
  · exact less
  · exact absurd less (rests ▸ lt_irrefl rest)

end Points

/-! ## What a figure shows -/

section Shows

variable {K : Type} [Field K] [LinearOrder K]

/-- A figure has one curve for each parking time and interarrival time of the runs.  It goes from
the left to the right, through a point for each utilization factor that some runs of the
statistic have, at the mean of the values of these runs. -/
structure LoadFigure.Shows (figure : LoadFigure K) (df : List (Row K K)) : Prop where
  title : figure.title = (split figure.name).headD ""
  distinct : (figure.curves.map fun curve => (curve.pt, curve.iat)).Nodup
  covers : ∀ row ∈ df, ∃ curve ∈ figure.curves, curve.pt = row.pt ∧ curve.iat = row.iat
  ascending : ∀ curve ∈ figure.curves, curve.points.Pairwise fun one other => one.1 < other.1
  points : ∀ curve ∈ figure.curves, ∀ uf mean, (uf, mean) ∈ curve.points ↔
    runsAt df figure.name curve.pt curve.iat uf ≠ [] ∧
      mean = Pooling.mean ((runsAt df figure.name curve.pt curve.iat uf).map Row.value)

variable {df : List (Row K K)}

/-- The table after the second grouping has rows for the runs, and no others. -/
theorem mem_loadMeans {row : LoadMean K} (member : row ∈ loadMeans (loaded df)) :
    ∃ run ∈ df, run.name = row.name := by
  obtain ⟨⟨key, members⟩, isGroup, rfl⟩ := List.mem_map.mp member
  obtain ⟨run, isRun, rfl⟩ := exists_loaded.mp (mem_groupBy.mp isGroup).1
  exact ⟨run, isRun, rfl⟩

theorem exists_loadMean {run : Row K K} (isRun : run ∈ df) : ∃ row ∈ loadMeans (loaded df),
    row.name = run.name ∧ row.pt = run.pt ∧ row.iat = run.iat := by
  have known := exists_loaded.mpr ⟨run, isRun, rfl⟩
  exact ⟨_, List.mem_map_of_mem (mem_groupBy.mpr ⟨known, rfl⟩), rfl, rfl, rfl⟩

variable [CharZero K] {r : Nat} (running : ∀ row ∈ df, row.iat ≠ 0)
  (replicas : ∀ row ∈ df, (df.filter fun other => parameters other = parameters row).length = r)

include replicas in
theorem mem_pointsOf_loaded {name : String} {pt iat uf mean : K} :
    (uf, mean) ∈ pointsOf (loadMeans (loaded df)) name pt iat ↔
      runsAt df name pt iat uf ≠ [] ∧
        mean = Pooling.mean ((runsAt df name pt iat uf).map Row.value) := by
  have known : (∃ row ∈ loaded df, loadKey row = toLex (uf, toLex (pt, toLex (iat, name)))) ↔
      runsAt df name pt iat uf ≠ [] := by
    rw [exists_loaded, ← filter_loadOf, Ne, List.filter_eq_nil_iff]
    simp
  rw [mem_pointsOf, known]
  apply and_congr_right
  intro some
  obtain ⟨run, isRun⟩ := List.exists_mem_of_ne_nil _ some
  have inTable := List.mem_of_mem_filter isRun
  have positive : 1 ≤ r := by
    rw [← replicas run inTable]
    exact List.length_pos_of_mem (List.mem_filter.mpr ⟨inTable, decide_eq_true rfl⟩)
  rw [mean_loaded replicas positive, filter_loadOf]

include replicas in
theorem shows_figureOf (name : String) : (figureOf (loadMeans (loaded df)) name).Shows df := by
  have curves : ∀ curve ∈ (figureOf (loadMeans (loaded df)) name).curves,
      curve.points = pointsOf (loadMeans (loaded df)) name curve.pt curve.iat := by
    intro curve isCurve
    obtain ⟨pt, -, ofPt⟩ := List.mem_flatMap.mp isCurve
    obtain ⟨iat, -, rfl⟩ := List.mem_map.mp ofPt
    rfl
  exact {
    title := rfl
    distinct := by
      rw [figureOf, List.map_flatMap]
      simp only [List.map_map]
      exact (Dictionary.nodup_eraseDups _).product (Dictionary.nodup_eraseDups _)
    covers := by
      intro run isRun
      obtain ⟨row, member, -, pt, iat⟩ := exists_loadMean isRun
      refine ⟨_, List.mem_flatMap.mpr ⟨row.pt, ?_, List.mem_map.mpr ⟨row.iat, ?_, rfl⟩⟩, pt, iat⟩
      · exact List.mem_eraseDups.mpr (List.mem_map_of_mem member)
      · exact List.mem_eraseDups.mpr (List.mem_map_of_mem member)
    ascending := by
      intro curve isCurve
      rw [curves curve isCurve]
      exact pointsOf_pairwise _
    points := by
      intro curve isCurve uf mean
      rw [curves curve isCurve]
      exact mem_pointsOf_loaded replicas }

include running replicas in
/-- The figures of the deterministic regime.  When every combination of the parameters has been
run as often, each statistic has one figure, and its points are the means over all runs of a
utilization factor, whatever the landing and takeoff times that make it up. -/
theorem scatterDF_points : ∃ figures, scatterDF df = some figures ∧
    (figures.map LoadFigure.name).Nodup ∧
    (∀ name, name ∈ figures.map LoadFigure.name ↔ ∃ row ∈ df, row.name = name) ∧
    ∀ figure ∈ figures, figure.Shows df := by
  let names := ((loadMeans (loaded df)).map LoadMean.name).eraseDups
  have labels : (names.map (figureOf (loadMeans (loaded df)))).map LoadFigure.name = names := by
    rw [List.map_map]
    exact List.map_id _
  refine ⟨names.map (figureOf (loadMeans (loaded df))), ?_, ?_, ?_, ?_⟩
  · rw [scatterDF, mapM_uf running]
    rfl
  · rw [labels]
    exact Dictionary.nodup_eraseDups _
  · intro name
    rw [labels, List.mem_eraseDups, List.mem_map]
    constructor
    · rintro ⟨row, member, rfl⟩
      exact mem_loadMeans member
    · rintro ⟨run, isRun, rfl⟩
      obtain ⟨row, member, own, -, -⟩ := exists_loadMean isRun
      exact ⟨row, member, own⟩
  · intro figure isFigure
    obtain ⟨name, -, rfl⟩ := List.mem_map.mp isFigure
    exact shows_figureOf replicas name

/-- Two runs with a long landing and two with a long takeoff, at one utilization factor. -/
def halfLoaded : List (Row ℚ ℚ) :=
  [{ name := "HoldingQueueSize:mean", value := 1, iat := 10, lt := 2, tot := 3, pt := 60,
     iterationvars := "$lt=2, $tot=3" },
   { name := "HoldingQueueSize:mean", value := 3, iat := 10, lt := 2, tot := 3, pt := 60,
     iterationvars := "$lt=2, $tot=3" },
   { name := "HoldingQueueSize:mean", value := 5, iat := 10, lt := 3, tot := 2, pt := 60,
     iterationvars := "$lt=3, $tot=2" },
   { name := "HoldingQueueSize:mean", value := 7, iat := 10, lt := 3, tot := 2, pt := 60,
     iterationvars := "$lt=3, $tot=2" }]

theorem scatterDF_points_half : ∃ figures, scatterDF halfLoaded = some figures ∧
    (figures.map LoadFigure.name).Nodup ∧
    (∀ name, name ∈ figures.map LoadFigure.name ↔ ∃ row ∈ halfLoaded, row.name = name) ∧
    ∀ figure ∈ figures, figure.Shows halfLoaded :=
  scatterDF_points (r := 2) (by decide +kernel) (by decide +kernel)

end Shows

end AirTrafficControl.Results
