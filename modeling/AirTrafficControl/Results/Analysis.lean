import AirTrafficControl.Results.Effects
import AirTrafficControl.Results.Extraction

/-!
# The analysis of a campaign

`analysis2kr` of `util.py`, from the lines that `scavetool` exports to the effects that
`factorial2kr.py` reports, in exact arithmetic.
-/

namespace AirTrafficControl.Results

open Observations

/-! ## The runs of a campaign -/

/-- The iteration variable of a factor. -/
def Factor.column : Factor → String
  | .iat => "iat"
  | .lt => "lt"
  | .tot => "tot"
  | .pt => "pt"

/-- The columns that `makeInput` selects, when they are numbers and a text. -/
def Extracted.toRow {K Value : Type} (row : Extracted K Value) : Option (Row K Value) :=
  match row.itervar "iat", row.itervar "lt", row.itervar "tot", row.itervar "pt",
      row.iterationvars with
  | some (.number iat), some (.number lt), some (.number tot), some (.number pt),
      some (.text iterationvars) =>
      some { name := row.name, value := row.value, iat, lt, tot, pt, iterationvars }
  | _, _, _, _, _ => none

section Recorded

variable {Run Value K : Type} [DecidableEq Run] [LinearOrder K]

/-- The export of a campaign.  Every run has one line for each of its iteration variables, one
for their text and one for each statistic that is analysed, and there are as many runs for each
combination of the levels. -/
structure Recorded (float : List Char → Option K) (vectors : List (Line Run Value))
    (design : Design K) (runs : List Run) (combination : Run → Combination) (r : Nat) :
    Prop where
  distinct : runs.Nodup
  known : ∀ line ∈ vectors, line.run ∈ runs
  once : ((itervarsOf vectors).map fun line => (line.run, line.attrname)).Nodup
  level : ∀ run ∈ runs, ∀ factor : Factor, ∃ line ∈ itervarsOf vectors, line.run = run ∧
    line.attrname = factor.column ∧
    float line.attrvalue.toList = some (design.level (combination run) factor)
  iterationvars : ∀ run ∈ runs, Dictionary.valuesOf (itervarscol float vectors) run =
    [.text (design.iterationvars (combination run))]
  positive : 1 ≤ r
  replicas : ∀ levels, (runs.filter fun run => combination run = levels).length = r
  colon : ∀ line ∈ vectors, line.type = "scalar" → 2 ≤ (split line.name).length
  alone : ∀ line ∈ vectors, line.type = "scalar" → ∀ other ∈ vectors, other.type = "scalar" →
    ∀ filename, Averaged line.name filename → Averaged other.name filename →
      line.name = other.name
  scalar : ∀ line ∈ vectors, line.type = "scalar" → ∀ filename, Averaged line.name filename →
    ∀ run ∈ runs, (vectors.filter fun other =>
      other.type = "scalar" ∧ other.name = line.name ∧ other.run = run).length = 1

/-- The row of a scalar. -/
def recordedRow (design : Design K) (combination : Run → Combination) (line : Line Run Value) :
    Row K Value where
  name := line.name
  value := line.value
  iat := design.level (combination line.run) .iat
  lt := design.level (combination line.run) .lt
  tot := design.level (combination line.run) .tot
  pt := design.level (combination line.run) .pt
  iterationvars := design.iterationvars (combination line.run)

/-- The rows of all scalars. -/
def recordedTable (vectors : List (Line Run Value)) (design : Design K)
    (combination : Run → Combination) : List (Row K Value) :=
  (vectors.filter fun line => line.type = "scalar").map (recordedRow design combination)

omit [DecidableEq Run] in
theorem at_recordedRow (design : Design K) (combination : Run → Combination)
    (line : Line Run Value) :
    design.At (combination line.run) (recordedRow design combination line) where
  level factor := by cases factor <;> rfl
  iterationvars := rfl

theorem mapM_filterMap {Input Output : Type} {function : Input → Option Output}
    {inputs : List Input} (defined : ∀ input ∈ inputs, function input ≠ none) :
    inputs.mapM function = some (inputs.filterMap function) := by
  induction inputs with
  | nil => rfl
  | cons input rest ih =>
      obtain ⟨first, others⟩ := List.forall_mem_cons.mp defined
      obtain ⟨output, isOutput⟩ := Option.ne_none_iff_exists'.mp first
      rw [List.mapM_cons, isOutput, ih others, List.filterMap_cons_some isOutput]
      rfl

variable {float : List Char → Option K} {vectors : List (Line Run Value)} {design : Design K}
  {runs : List Run} {combination : Run → Combination} {r : Nat}
  (recorded : Recorded float vectors design runs combination r)

include recorded

theorem Recorded.attributesOf_eq {run : Run} (isRun : run ∈ runs) (factor : Factor) :
    attributesOf float vectors run factor.column =
      some (.number (design.level (combination run) factor)) := by
  obtain ⟨line, isLine, own, attrname, level⟩ := recorded.level run isRun factor
  cases found : (itervarsOf vectors).find? (fun line =>
      line.run = run ∧ line.attrname = factor.column) with
  | none =>
      refine absurd ?_ (List.find?_eq_none.mp found line isLine)
      exact decide_eq_true ⟨own, attrname⟩
  | some other =>
      have fits := List.find?_some found
      have holds := of_decide_eq_true fits
      obtain rfl : other = line := List.inj_on_of_nodup_map recorded.once
        (List.mem_of_find?_eq_some found) isLine (by rw [holds.1, holds.2, own, attrname])
      rw [attributesOf, found, Option.map_some, parseIfNumber, level]

theorem Recorded.toRow_eq {line : Line Run Value} (member : line ∈ vectors) :
    (rowOfLine float vectors (fun run => .text (design.iterationvars (combination run)))
      line).toRow = some (recordedRow design combination line) := by
  have isRun := recorded.known line member
  have iat := recorded.attributesOf_eq isRun .iat
  have lt := recorded.attributesOf_eq isRun .lt
  have tot := recorded.attributesOf_eq isRun .tot
  have pt := recorded.attributesOf_eq isRun .pt
  unfold Factor.column at iat lt tot pt
  unfold Extracted.toRow rowOfLine
  dsimp only
  rw [iat, lt, tot, pt]
  rfl

/-- Each combination has as many values of a statistic as there are runs. -/
theorem Recorded.length_scalars {line : Line Run Value} (member : line ∈ vectors)
    (isScalar : line.type = "scalar") {filename : String} (averaged : Averaged line.name filename)
    (levels : Combination) :
    (vectors.filter fun other => (other.type = "scalar" ∧ other.name = line.name) ∧
      combination other.run = levels).length = r := by
  let keys := runs.filter fun run => combination run = levels
  let entries := (vectors.filter fun other => (other.type = "scalar" ∧ other.name = line.name) ∧
    combination other.run = levels).map fun other => (other.run, other)
  have known : ∀ entry ∈ entries, entry.1 ∈ keys := by
    intro entry isEntry
    obtain ⟨other, selected, rfl⟩ := List.mem_map.mp isEntry
    obtain ⟨isLine, holds⟩ := List.mem_filter.mp selected
    exact List.mem_filter.mpr ⟨recorded.known other isLine,
      decide_eq_true (of_decide_eq_true holds).2⟩
  have each : ∀ run ∈ keys, (Dictionary.valuesOf entries run).length = 1 := by
    intro run isKey
    obtain ⟨isRun, own⟩ := List.mem_filter.mp isKey
    rw [Dictionary.valuesOf, List.length_map, List.filter_map, List.length_map,
      List.filter_filter, ← recorded.scalar line member isScalar filename averaged run isRun]
    congr 1
    apply List.filter_congr
    intro other _
    rw [Function.comp_apply, ← Bool.decide_and, decide_eq_decide]
    constructor
    · rintro ⟨shares, statistic, -⟩
      exact ⟨statistic.1, statistic.2, shares⟩
    · rintro ⟨scalar, name, shares⟩
      exact ⟨shares, ⟨scalar, name⟩, by rw [shares]; exact of_decide_eq_true own⟩
  have total := (Dictionary.flatMap_valuesOf (recorded.distinct.filter _) known).length_eq
  have ones : keys.map (fun run => (Dictionary.valuesOf entries run).length) =
      List.replicate r 1 := by
    rw [← recorded.replicas levels]
    exact List.map_eq_replicate_iff.mpr each
  rw [List.length_flatMap, ones, List.sum_replicate, smul_eq_mul, mul_one, List.length_map,
    List.length_map] at total
  exact total.symm

theorem Recorded.exists_table (pandas : Merge) : ∃ rows table,
    extractSca float pandas vectors = some rows ∧ rows.mapM Extracted.toRow = some table ∧
      table.Perm (recordedTable vectors design combination) := by
  have named : ∀ line ∈ vectors, line.type = "scalar" →
      Dictionary.valuesOf (itervarscol float vectors) line.run =
        [.text (design.iterationvars (combination line.run))] := fun line member _ =>
    recorded.iterationvars line.run (recorded.known line member)
  obtain ⟨rows, extracted⟩ : ∃ rows, extractSca float pandas vectors = some rows := by
    unfold extractSca pivot
    rw [if_pos recorded.once]
    exact ⟨_, rfl⟩
  have perm : rows.Perm ((vectors.filter fun line => line.type = "scalar").map
      (rowOfLine float vectors fun run => .text (design.iterationvars (combination run)))) :=
    extractSca_perm pandas named extracted
  have image : ∀ line ∈ vectors.filter (fun line => line.type = "scalar"),
      (rowOfLine float vectors (fun run => .text (design.iterationvars (combination run)))
        line).toRow = some (recordedRow design combination line) := fun line member =>
    recorded.toRow_eq (List.mem_of_mem_filter member)
  have defined : ∀ row ∈ rows, row.toRow ≠ none := by
    intro row member
    obtain ⟨line, isLine, rfl⟩ := List.mem_map.mp (perm.mem_iff.mp member)
    rw [image line isLine]
    exact Option.some_ne_none _
  refine ⟨rows, _, extracted, mapM_filterMap defined, ?_⟩
  have table := perm.filterMap Extracted.toRow
  have images := List.filterMap_congr image
  rw [List.filterMap_map] at table
  rw [recordedTable, ← List.filterMap_eq_map]
  exact table.trans (.of_eq images)

variable {table : List (Row K Value)}
  (same : table.Perm (recordedTable vectors design combination))

include same

omit [DecidableEq Run] recorded in
theorem mem_table {row : Row K Value} : row ∈ table ↔
    ∃ line ∈ vectors, line.type = "scalar" ∧ recordedRow design combination line = row := by
  rw [same.mem_iff, recordedTable, List.mem_map]
  simp only [List.mem_filter, decide_eq_true_eq, and_assoc]

omit [DecidableEq Run] recorded in
theorem filter_table (kept : Row K Value → Prop) [DecidablePred kept] :
    (table.filter kept).Perm ((vectors.filter fun line => line.type = "scalar" ∧
      kept (recordedRow design combination line)).map (recordedRow design combination)) := by
  refine (same.filter _).trans ?_
  rw [recordedTable, List.filter_map, List.filter_filter]
  simp only [Function.comp_apply, Bool.decide_and, Bool.and_comm]
  exact .refl _

theorem Recorded.campaign : Campaign design table fun _ => r where
  crossed row member := by
    obtain ⟨line, -, -, rfl⟩ := (mem_table same).mp member
    exact ⟨_, at_recordedRow design combination line⟩
  colon row member := by
    obtain ⟨line, isLine, isScalar, rfl⟩ := (mem_table same).mp member
    exact recorded.colon line isLine isScalar
  alone row member other isOther filename averaged shares := by
    obtain ⟨line, isLine, isScalar, rfl⟩ := (mem_table same).mp member
    obtain ⟨another, isAnother, scalar, rfl⟩ := (mem_table same).mp isOther
    exact recorded.alone line isLine isScalar another isAnother scalar filename averaged shares
  positive _ _ _ _ := recorded.positive
  replicas row member filename averaged levels := by
    obtain ⟨line, isLine, isScalar, rfl⟩ := (mem_table same).mp member
    rw [Design.values, List.length_map, (filter_table same _).length_eq, List.length_map,
      ← recorded.length_scalars isLine isScalar averaged levels]
    congr 1
    apply List.filter_congr
    intro other _
    have isAt := at_recordedRow design combination other
    rw [decide_eq_decide, and_assoc, ← design.iterationvars_iff isAt]
    exact and_congr_right fun _ => and_congr_right fun _ =>
      ⟨fun known => design.unique known, fun known => congrArg design.iterationvars known⟩

end Recorded

/-! ## A small export -/

section Small

/-- The levels zero and one, and names that are no numbers. -/
def Design.named : Design ℚ where
  low _ := 0
  high _ := 1
  apart _ := one_pos
  iterationvars combination := "$" ++ Design.binary.iterationvars combination
  unique _ _ same := Design.binary.unique (String.append_right_inj _ |>.mp same)

/-- The word of a level. -/
def levelWord (high : Bool) : String := if high then "1" else "0"

/-- The levels of a run. -/
def levelsOf (x : Nat) : Combination := combinationOf (x % 16)

/-- The line of an iteration variable. -/
def itervarLine (x : Nat) (factor : Factor) : Line Nat ℚ where
  run := x
  type := "itervar"
  name := ""
  attrname := factor.column
  attrvalue := levelWord (levelsOf x factor)
  value := 0

def runattrLine (x : Nat) : Line Nat ℚ where
  run := x
  type := "runattr"
  name := ""
  attrname := "iterationvars"
  attrvalue := Design.named.iterationvars (levelsOf x)
  value := 0

def scalarLine (x : Nat) : Line Nat ℚ where
  run := x
  type := "scalar"
  name := "HoldingQueueSize:mean"
  attrname := ""
  attrvalue := ""
  value := (x : ℚ)

/-- The lines of a run. -/
def runLines (x : Nat) : List (Line Nat ℚ) :=
  runattrLine x :: scalarLine x :: [.iat, .lt, .tot, .pt].map (itervarLine x)

/-- Two runs for each combination. -/
def smallExport : List (Line Nat ℚ) := (List.range 32).flatMap runLines

theorem mem_smallExport {line : Line Nat ℚ} :
    line ∈ smallExport ↔ ∃ x < 32, line ∈ runLines x := by
  rw [smallExport, List.mem_flatMap]
  simp only [List.mem_range]

theorem filter_scalar (x : Nat) :
    (runLines x).filter (fun line => line.type = "scalar") = [scalarLine x] := by
  simp [runLines, runattrLine, scalarLine, itervarLine]

theorem filter_runattr (x : Nat) : (runLines x).filter (fun line =>
    line.type = "runattr" ∧ line.attrname = "iterationvars") = [runattrLine x] := by
  simp [runLines, runattrLine, scalarLine, itervarLine]

theorem filter_itervar (x : Nat) : (runLines x).filter (fun line => line.type = "itervar") =
    [.iat, .lt, .tot, .pt].map (itervarLine x) := by
  simp [runLines, runattrLine, scalarLine, itervarLine]

theorem itervarsOf_smallExport : itervarsOf smallExport =
    (List.range 32).flatMap fun x => [.iat, .lt, .tot, .pt].map (itervarLine x) := by
  rw [itervarsOf, smallExport, List.filter_flatMap]
  simp only [filter_itervar]

/-- A name is no number, and none of the other words that are converted. -/
theorem parseIfNumber_named (levels : Combination) :
    parseIfNumber digits (Design.named.iterationvars levels) =
      .text (Design.named.iterationvars levels) := by
  have letters : (Design.named.iterationvars levels).toList =
      '$' :: (Design.binary.iterationvars levels).toList := String.toList_append
  have number : digits (Design.named.iterationvars levels).toList = none := by
    rw [letters, digits, if_neg]
    simp
  have other : ∀ word : String, word.toList.head? ≠ some '$' →
      Design.named.iterationvars levels ≠ word := by
    rintro word first rfl
    rw [letters] at first
    exact first rfl
  unfold parseIfNumber
  rw [number]
  dsimp only
  rw [if_neg (other _ (by decide)), if_neg (other _ (by decide)), if_pos (other _ (by decide))]

theorem itervarscol_smallExport : itervarscol digits smallExport =
    (List.range 32).map fun x => (x, .text (Design.named.iterationvars (levelsOf x))) := by
  rw [itervarscol, smallExport, List.filter_flatMap]
  simp only [filter_runattr]
  rw [← List.map_eq_flatMap, List.map_map]
  apply List.map_congr_left
  intro x _
  exact congrArg (Prod.mk x) (parseIfNumber_named (levelsOf x))

theorem scalars_smallExport :
    smallExport.filter (fun line => line.type = "scalar") = (List.range 32).map scalarLine := by
  rw [smallExport, List.filter_flatMap]
  simp only [filter_scalar]
  rw [← List.map_eq_flatMap]

theorem exists_scalarLine {line : Line Nat ℚ} (member : line ∈ smallExport)
    (isScalar : line.type = "scalar") : ∃ x < 32, line = scalarLine x := by
  have isRow : line ∈ smallExport.filter fun line => line.type = "scalar" :=
    List.mem_filter.mpr ⟨member, decide_eq_true isScalar⟩
  rw [scalars_smallExport] at isRow
  obtain ⟨x, bound, rfl⟩ := List.mem_map.mp isRow
  exact ⟨x, List.mem_range.mp bound, rfl⟩

theorem recorded_small :
    Recorded digits smallExport Design.named (List.range 32) levelsOf 2 where
  distinct := List.nodup_range
  known line member := by
    obtain ⟨x, bound, isLine⟩ := mem_smallExport.mp member
    have own : ∀ line ∈ runLines x, line.run = x := by
      simp [runLines, runattrLine, scalarLine, itervarLine]
    rw [own line isLine]
    exact List.mem_range.mpr bound
  once := by
    rw [itervarsOf_smallExport]
    decide +kernel
  level x isRun factor := by
    refine ⟨itervarLine x factor, ?_, rfl, rfl, ?_⟩
    · rw [itervarsOf_smallExport]
      refine List.mem_flatMap.mpr ⟨x, isRun, List.mem_map_of_mem ?_⟩
      cases factor <;> simp
    · have words : ∀ high, digits (levelWord high).toList = some (if high then 1 else 0) := by
        decide +kernel
      exact words _
  iterationvars x isRun := by
    rw [itervarscol_smallExport, Dictionary.valuesOf_map List.nodup_range, if_pos isRun]
  positive := Nat.le_succ 1
  replicas levels := by
    rw [← List.countP_eq_length_filter, ← countP_range (rowOf_lt levels) 2]
    apply List.countP_congr
    intro x _
    have bound := Nat.mod_lt x (show 0 < 16 by decide)
    rw [decide_eq_true_iff, decide_eq_true_iff, levelsOf]
    constructor
    · rintro rfl
      exact (rowOf_combinationOf bound).symm
    · intro place
      rw [place, combinationOf_rowOf]
  colon line member isScalar := by
    obtain ⟨x, -, rfl⟩ := exists_scalarLine member isScalar
    change 2 ≤ (split "HoldingQueueSize:mean").length
    decide
  alone line member isScalar other isOther scalar _ _ _ := by
    obtain ⟨x, -, rfl⟩ := exists_scalarLine member isScalar
    obtain ⟨y, -, rfl⟩ := exists_scalarLine isOther scalar
    rfl
  scalar line member isScalar filename _ run isRun := by
    obtain ⟨x, -, rfl⟩ := exists_scalarLine member isScalar
    have once := List.count_eq_one_of_mem List.nodup_range isRun
    have own : (smallExport.filter fun other => other.type = "scalar" ∧
        other.name = (scalarLine x).name ∧ other.run = run) =
          (smallExport.filter fun other => other.type = "scalar").filter fun other =>
            other.name = (scalarLine x).name ∧ other.run = run := by
      rw [List.filter_filter]
      apply List.filter_congr
      intro other _
      rw [Bool.and_comm, ← Bool.decide_and]
    rw [own, scalars_smallExport, List.filter_map, List.length_map, ← once,
      List.count_eq_length_filter]
    congr 1
    apply List.filter_congr
    intro y _
    simp [scalarLine, Bool.beq_eq_decide_eq]

/-- A join that keeps the order of the rows. -/
def Merge.ordered : Merge where
  merge := Join.outer
  perm _ _ := .refl _

theorem mem_smallRows {row : Row ℚ ℚ}
    (member : row ∈ recordedTable smallExport Design.named levelsOf) :
    ∃ x < 32, row = recordedRow Design.named levelsOf (scalarLine x) := by
  rw [recordedTable, scalars_smallExport, List.map_map] at member
  obtain ⟨x, bound, rfl⟩ := List.mem_map.mp member
  exact ⟨x, List.mem_range.mp bound, rfl⟩

theorem reliable_smallExport : Reliable smallLibraries decimal (fun _ => true) scaled
    (recordedTable smallExport Design.named levelsOf) where
  readsBack row member := by
    obtain ⟨x, -, rfl⟩ := mem_smallRows member
    exact readsBack_decimal x
  opens _ _ _ _ := rfl
  plots _ _ filename _ := scaled_of_exists filename

theorem scatters_smallExport : ∀ line ∈ smallExport, line.type = "scalar" → ∀ filename,
    Averaged line.name filename →
      Scatters (recordedTable smallExport Design.named levelsOf) line.name := by
  intro line member isScalar _ _
  obtain ⟨x, -, rfl⟩ := exists_scalarLine member isScalar
  have isRow : ∀ y < 32, recordedRow Design.named levelsOf (scalarLine y) ∈
      recordedTable smallExport Design.named levelsOf := by
    intro y bound
    rw [recordedTable, scalars_smallExport, List.map_map]
    exact List.mem_map_of_mem (List.mem_range.mpr bound)
  refine ⟨_, isRow 0 (by decide), _, isRow 16 (by decide), rfl, rfl, rfl, ?_⟩
  decide

end Small

/-! ## The whole analysis -/

section Analysis

variable {Run K : Type} [DecidableEq Run] [Field K] [LinearOrder K]

/-- `analysis2kr`, which empties its directory first, for tables of numbers.  No earlier call has
then left any file. -/
def analysis2kr (float : List Char → Option K) (merge : Merge) (pandas : SortValues K K)
    (environment : Environment K) (s : List (Line Run K)) :
    Option (EStateM.Result Raised (Inputs K) Unit) := do
  let df ← extractSca float merge s
  let table ← df.mapM Extracted.toRow
  return (makeInput environment pandas table).run fun _ => none

/-- The values of a statistic in the runs at one level of a factor. -/
def valuesIn (vectors : List (Line Run K)) (combination : Run → Combination) (name : String)
    (factor : Factor) (high : Bool) : List K :=
  (vectors.filter fun line => line.type = "scalar" ∧ line.name = name ∧
    combination line.run factor = high).map Line.value

variable {vectors : List (Line Run K)} {design : Design K} {runs : List Run}
  {combination : Run → Combination} {r : Nat} {table : List (Row K K)}

omit [DecidableEq Run] [Field K] in
theorem valuesAt_perm (same : table.Perm (recordedTable vectors design combination))
    (name : String) (factor : Factor) (high : Bool) :
    (valuesAt table name factor (if high then design.high factor else design.low factor)).Perm
      (valuesIn vectors combination name factor high) := by
  have levels : ∀ line : Line Run K,
      (recordedRow design combination line).level factor =
          (if high then design.high factor else design.low factor) ↔
        combination line.run factor = high := by
    intro line
    have apart := design.apart factor
    rw [(at_recordedRow design combination line).level, Design.level]
    cases combination line.run factor <;> cases high <;> simp [apart.ne, apart.ne']
  have perm := (filter_table same fun row => row.name = name ∧
    row.level factor = if high then design.high factor else design.low factor).map Row.value
  simp only [levels] at perm
  rw [List.map_map] at perm
  exact perm

variable {libraries : Libraries K} {format : K → List Char} {opens : String → Bool}
  {plots : String → Report K → Bool} (merge : Merge) (pandas : SortValues K K)
  (recorded : Recorded libraries.float vectors design runs combination r)

include recorded

omit [Field K] in
/-- The table that `extractSca` makes of the export of a campaign.  Whatever the order in which
the pandas methods leave the rows, each scalar is in the table once, with the levels of its own
run, and the table is one from which `makeInput` can write the design. -/
theorem extractSca_campaign : ∃ rows table,
    extractSca libraries.float merge vectors = some rows ∧
      rows.mapM Extracted.toRow = some table ∧
      table.Perm (recordedTable vectors design combination) ∧
      Campaign design table fun _ => r := by
  obtain ⟨rows, table, extracted, selected, same⟩ := recorded.exists_table merge
  exact ⟨rows, table, extracted, selected, same, recorded.campaign same⟩

omit recorded in
theorem extractSca_campaign_small : ∃ rows table,
    extractSca smallLibraries.float .ordered smallExport = some rows ∧
      rows.mapM Extracted.toRow = some table ∧
      table.Perm (recordedTable smallExport Design.named levelsOf) ∧
      Campaign Design.named table fun _ => 2 :=
  extractSca_campaign .ordered recorded_small

variable [IsStrictOrderedRing K]

/-- The whole analysis, from the lines that `scavetool` exports to the effects.  When in each
statistic that is analysed two runs of one combination differ, `analysis2kr` completes, and in
the summary of the statistic the effect of a factor is half of the difference between the mean of
the runs at its high level and of those at its low level. -/
theorem analysis2kr_effects
    (reliable : Reliable libraries format opens plots (recordedTable vectors design combination))
    (scatters : ∀ line ∈ vectors, line.type = "scalar" → ∀ filename,
      Averaged line.name filename →
        Scatters (recordedTable vectors design combination) line.name) :
    ∃ files, analysis2kr libraries.float merge pandas
        (.factorial libraries format (fun _ => none) opens plots) vectors =
          some (.ok () files) ∧
      ∀ line ∈ vectors, line.type = "scalar" → ∀ filename, Averaged line.name filename →
        ∃ rows report, files filename = some rows ∧
          script libraries false filename (rows.map (savetxtLine format)) = .ok report ∧
          ∀ factor, ∃ effect ∈ report.summary.effects, effect.letters = [factor.letter] ∧
            effect.effect = (Pooling.mean (valuesIn vectors combination line.name factor true) -
              Pooling.mean (valuesIn vectors combination line.name factor false)) /
                ((2 : Nat) : K) := by
  obtain ⟨rows, table, extracted, selected, same⟩ := recorded.exists_table merge
  have campaign := recorded.campaign same
  have trusted : Reliable libraries format opens plots table := {
    readsBack := fun row member => reliable.readsBack row (same.mem_iff.mp member)
    opens := fun row member => reliable.opens row (same.mem_iff.mp member)
    plots := fun row member => reliable.plots row (same.mem_iff.mp member) }
  have complete : ∀ row ∈ table, ∀ filename, Averaged row.name filename →
      Scatters table row.name := by
    intro row member filename averaged
    obtain ⟨line, isLine, isScalar, rfl⟩ := (mem_table same).mp member
    obtain ⟨one, isOne, other, isOther, differ⟩ :=
      scatters line isLine isScalar filename averaged
    exact ⟨one, same.mem_iff.mpr isOne, other, same.mem_iff.mpr isOther, differ⟩
  obtain ⟨files, run, reports⟩ :=
    exists_reports campaign trusted (fun _ => none) pandas (fun _ => none) complete
  refine ⟨files, ?_, ?_⟩
  · rw [analysis2kr, extracted]
    change (rows.mapM Extracted.toRow).bind _ = _
    rw [selected]
    exact congrArg some run
  · intro line isLine isScalar filename averaged
    have isRow := (mem_table same).mpr ⟨line, isLine, isScalar, rfl⟩
    obtain ⟨rows, report, written, result, effects⟩ := reports _ isRow filename averaged
    refine ⟨rows, report, written, result, ?_⟩
    intro factor
    obtain ⟨effect, member, letters, value⟩ := effects (single factor)
    refine ⟨effect, member, ?_, ?_⟩
    · rw [letters, effectLabel_single]
    · have high := valuesAt_perm same line.name factor true
      have low := valuesAt_perm same line.name factor false
      rw [value, campaign.mean_contrast_single isRow averaged factor,
        ← Pooling.mean_perm high, ← Pooling.mean_perm low]
      rfl

omit recorded in
theorem analysis2kr_effects_small :
    ∃ files, analysis2kr smallLibraries.float .ordered .insertionSort
        (.factorial smallLibraries decimal (fun _ => none) (fun _ => true) scaled)
          smallExport = some (.ok () files) ∧
      ∀ line ∈ smallExport, line.type = "scalar" → ∀ filename, Averaged line.name filename →
        ∃ rows report, files filename = some rows ∧
          script smallLibraries false filename (rows.map (savetxtLine decimal)) = .ok report ∧
          ∀ factor, ∃ effect ∈ report.summary.effects, effect.letters = [factor.letter] ∧
            effect.effect = (Pooling.mean (valuesIn smallExport levelsOf line.name factor true) -
              Pooling.mean (valuesIn smallExport levelsOf line.name factor false)) /
                ((2 : Nat) : ℚ) :=
  analysis2kr_effects .ordered .insertionSort recorded_small reliable_smallExport
    scatters_smallExport

end Analysis

end AirTrafficControl.Results
