import AirTrafficControl.Results.Analysis

/-!
# The results of a directory

`mergeDF` of `util.py` extracts the scalars of each result file of a directory and appends the
tables to each other.
-/

namespace AirTrafficControl.Results

open Observations

section Merge

variable {Run Value K : Type} [DecidableEq Run] (float : List Char → Option K) (pandas : Merge)
  (scavetool : String → Option (List (Line Run Value)))

/-- The lines in `tmp.csv` and the table, when there are any.  The variable `first` is true as
long as there is no table. -/
structure Merging (Run Value K : Type) where
  tmp : Option (List (Line Run Value))
  df : Option (List (Extracted K Value))

/-- The file name ends in `.sca`. -/
def isSca (file : String) : Bool := ".sca".toList.isSuffixOf file.toList

/-- A round of the loop.  Where `scavetool` fails it leaves `tmp.csv` as it is. -/
def mergeFile (state : Merging Run Value K) (file : String) : Option (Merging Run Value K) :=
  if isSca file then do
    let tmp ← (scavetool file).or state.tmp
    match state.df with
    | none =>
        let df ← extractSca float pandas tmp
        return { tmp := some tmp, df := some df }
    | some df =>
        let toAppend ← extractSca float pandas tmp
        return { tmp := some tmp, df := some (df ++ toAppend) }
  else some state

/-- The table that `mergeDF` writes to `recap.csv`. -/
def mergeDF (tmp : Option (List (Line Run Value))) (files : List String) :
    Option (List (Extracted K Value)) := do
  let merged ← files.foldlM (mergeFile float pandas scavetool) { tmp, df := none }
  merged.df

end Merge

/-! ## The loop -/

section Loop

variable {Run Value K : Type} [DecidableEq Run] {float : List Char → Option K} {pandas : Merge}
  {scavetool : String → Option (List (Line Run Value))} {lines : String → List (Line Run Value)}

/-- The table when others are appended to it. -/
def appended (df : Option (List (Extracted K Value))) (tables : List (List (Extracted K Value))) :
    Option (List (Extracted K Value)) :=
  if tables = [] then df else some (df.getD [] ++ tables.flatten)

theorem appended_cons (df : Option (List (Extracted K Value))) (first : List (Extracted K Value))
    (rest : List (List (Extracted K Value))) :
    appended (some (df.getD [] ++ first)) rest = appended df (first :: rest) := by
  cases rest with
  | nil => simp [appended]
  | cons second others => simp [appended]

theorem mergeFile_sca {file : String} (sca : isSca file) (exported : scavetool file =
    some (lines file)) (state : Merging Run Value K) :
    mergeFile float pandas scavetool state file =
      (extractSca float pandas (lines file)).map fun rows =>
        { tmp := some (lines file), df := some (state.df.getD [] ++ rows) } := by
  rw [mergeFile, if_pos sca, exported]
  obtain ⟨tmp, df⟩ := state
  cases df with
  | none => cases extracted : extractSca float pandas (lines file) <;> simp [extracted]
  | some df => cases extracted : extractSca float pandas (lines file) <;> simp [extracted]

/-- The loop appends the tables of the files, and fails where one of them has none. -/
theorem foldlM_mergeFile {files : List String}
    (exported : ∀ file ∈ files, isSca file → scavetool file = some (lines file))
    (state : Merging Run Value K) :
    (files.foldlM (mergeFile float pandas scavetool) state).bind Merging.df =
      ((files.filter isSca).mapM fun file => extractSca float pandas (lines file)).bind
        (appended state.df) := by
  induction files generalizing state with
  | nil => rfl
  | cons file rest ih =>
      obtain ⟨first, others⟩ := List.forall_mem_cons.mp exported
      rw [List.foldlM_cons]
      by_cases sca : isSca file
      · rw [mergeFile_sca sca (first sca), List.filter_cons_of_pos sca, List.mapM_cons]
        cases extracted : extractSca float pandas (lines file) with
        | none => rfl
        | some rows =>
            change Option.bind (rest.foldlM _ _) _ = _
            rw [ih others]
            cases (rest.filter isSca).mapM fun file => extractSca float pandas (lines file) with
            | none => rfl
            | some tables => exact appended_cons state.df rows tables
      · rw [mergeFile, if_neg sca, List.filter_cons_of_neg sca]
        exact ih others state

end Loop

/-! ## One table -/

section Together

variable {Run Value K : Type} [DecidableEq Run] {float : List Char → Option K} (pandas : Merge)
  {lines : String → List (Line Run Value)} {files : List String}

omit [DecidableEq Run] in
theorem apart_flatMap {file : String} {rest : List String}
    (apart : (file :: rest).Pairwise fun one other =>
      ∀ line ∈ lines one, ∀ another ∈ lines other, line.run ≠ another.run) :
    ∀ line ∈ lines file, ∀ other ∈ rest.flatMap lines, line.run ≠ other.run := by
  intro line member other isOther
  obtain ⟨another, inRest, isLine⟩ := List.mem_flatMap.mp isOther
  exact (List.pairwise_cons.mp apart).1 another inRest line member other isLine

variable (apart : files.Pairwise fun one other =>
  ∀ line ∈ lines one, ∀ another ∈ lines other, line.run ≠ another.run)

include apart

theorem mapM_extractSca_eq_none_iff :
    files.mapM (fun file => extractSca float pandas (lines file)) = none ↔
      extractSca float pandas (files.flatMap lines) = none := by
  induction files with
  | nil =>
      rw [extractSca_eq_none_iff]
      exact ⟨nofun, fun repeated => absurd .nil repeated⟩
  | cons file rest ih =>
      have others := ih (List.pairwise_cons.mp apart).2
      rw [List.flatMap_cons, extractSca_append_eq_none_iff (apart_flatMap apart), ← others,
        List.mapM_cons]
      cases extractSca float pandas (lines file) with
      | none => exact ⟨fun _ => .inl rfl, fun _ => rfl⟩
      | some rows =>
          cases rest.mapM fun file => extractSca float pandas (lines file) with
          | none => exact ⟨fun _ => .inr rfl, fun _ => rfl⟩
          | some tables => exact ⟨nofun, fun failed => failed.elim nofun nofun⟩

theorem flatten_mapM_extractSca {tables : List (List (Extracted K Value))}
    (extracted : files.mapM (fun file => extractSca float pandas (lines file)) = some tables) :
    tables.flatten.Perm ((files.flatMap lines).flatMap (rowsOf float (files.flatMap lines))) := by
  induction files generalizing tables with
  | nil =>
      obtain rfl := Option.some.inj extracted
      exact .refl _
  | cons file rest ih =>
      obtain ⟨rows, more, first, others, rfl⟩ := mapM_cons_eq_some.mp extracted
      rw [List.flatMap_cons, flatMap_rowsOf_append (apart_flatMap apart), List.flatten_cons]
      exact (extractSca_rows pandas first).append (ih (List.pairwise_cons.mp apart).2 others)

end Together

/-! ## The whole directory -/

section Directory

variable {Run Value K : Type} [DecidableEq Run] (float : List Char → Option K) (pandas : Merge)
  {scavetool : String → Option (List (Line Run Value))} {lines : String → List (Line Run Value)}
  (tmp : Option (List (Line Run Value))) {files : List String}

/-- The table of a directory.  When `scavetool` exports the result files of a directory and no
run is in two of them, `mergeDF` makes the table that `extractSca` makes of all lines together,
but for the order of its rows.  It fails where that fails, and where there is no result file. -/
theorem mergeDF_extracts
    (exported : ∀ file ∈ files, isSca file → scavetool file = some (lines file))
    (apart : (files.filter isSca).Pairwise fun one other =>
      ∀ line ∈ lines one, ∀ another ∈ lines other, line.run ≠ another.run) :
    (mergeDF float pandas scavetool tmp files = none ↔ files.filter isSca = [] ∨
        extractSca float pandas ((files.filter isSca).flatMap lines) = none) ∧
      ∀ merged table, mergeDF float pandas scavetool tmp files = some merged →
        extractSca float pandas ((files.filter isSca).flatMap lines) = some table →
          merged.Perm table := by
  have loop : mergeDF float pandas scavetool tmp files =
      ((files.filter isSca).mapM fun file => extractSca float pandas (lines file)).bind
        (appended none) := foldlM_mergeFile exported { tmp, df := none }
  have failure : (files.filter isSca).mapM (fun file => extractSca float pandas (lines file)) =
      none ↔ extractSca float pandas ((files.filter isSca).flatMap lines) = none :=
    mapM_extractSca_eq_none_iff pandas apart
  rw [loop, ← failure]
  cases extracted : (files.filter isSca).mapM fun file => extractSca float pandas (lines file) with
  | none => exact ⟨⟨fun _ => .inr rfl, fun _ => rfl⟩, nofun⟩
  | some tables =>
      have empty : tables = [] ↔ files.filter isSca = [] := by
        cases results : files.filter isSca with
        | nil =>
            rw [results] at extracted
            exact ⟨fun _ => rfl, fun _ => (Option.some.inj extracted).symm⟩
        | cons file rest =>
            rw [results] at extracted
            obtain ⟨rows, more, -, -, rfl⟩ := mapM_cons_eq_some.mp extracted
            exact ⟨nofun, nofun⟩
      rw [Option.bind_some, appended, ← empty]
      constructor
      · split
        · next none => exact ⟨fun _ => .inl none, fun _ => rfl⟩
        · next some => exact ⟨nofun, fun failed => absurd (failed.resolve_right nofun) some⟩
      · intro merged table result together
        obtain rfl : tables.flatten = merged := by
          split at result
          · cases result
          · exact Option.some.inj result
        exact (flatten_mapM_extractSca pandas apart extracted).trans
          (extractSca_rows pandas together).symm

/-- The lines of two runs, a file for each of them. -/
def smallLines (file : String) : List (Line Nat ℚ) :=
  if file = "a.sca" then runLines 0 else runLines 1

/-- The merged table has the scalars of both runs, each with the levels of its own run. -/
theorem mergeDF_extracts_small :
    ∃ merged table, mergeDF digits .ordered (fun file => some (smallLines file)) none
        ["a.sca", "notes.txt", "b.sca"] = some merged ∧
      extractSca digits .ordered (["a.sca", "b.sca"].flatMap smallLines) = some table ∧
      merged.Perm table ∧
      (merged.mapM Extracted.toRow).map (List.map fun row =>
          (row.name, row.value, [row.iat, row.lt, row.tot, row.pt])) =
        some [("HoldingQueueSize:mean", 0, [1, 1, 1, 1]),
          ("HoldingQueueSize:mean", 1, [0, 1, 1, 1])] := by
  have contract : (mergeDF digits .ordered (fun file => some (smallLines file)) none
          ["a.sca", "notes.txt", "b.sca"] = none ↔ ["a.sca", "b.sca"] = [] ∨
        extractSca digits .ordered (["a.sca", "b.sca"].flatMap smallLines) = none) ∧
      ∀ merged table, mergeDF digits .ordered (fun file => some (smallLines file)) none
          ["a.sca", "notes.txt", "b.sca"] = some merged →
        extractSca digits .ordered (["a.sca", "b.sca"].flatMap smallLines) = some table →
          merged.Perm table :=
    mergeDF_extracts digits .ordered none (fun _ _ _ => rfl) (by decide)
  have found : (extractSca digits .ordered (["a.sca", "b.sca"].flatMap smallLines)).isSome := by
    decide +kernel
  have rows : (mergeDF digits .ordered (fun file => some (smallLines file)) none
        ["a.sca", "notes.txt", "b.sca"]).bind (fun merged =>
          (merged.mapM Extracted.toRow).map (List.map fun row =>
            (row.name, row.value, [row.iat, row.lt, row.tot, row.pt]))) =
      some [("HoldingQueueSize:mean", 0, [1, 1, 1, 1]),
        ("HoldingQueueSize:mean", 1, [0, 1, 1, 1])] := by
    decide +kernel
  obtain ⟨table, together⟩ := Option.isSome_iff_exists.mp found
  cases result : mergeDF digits .ordered (fun file => some (smallLines file)) none
      ["a.sca", "notes.txt", "b.sca"] with
  | none =>
      obtain noFiles | failed := contract.1.mp result
      · cases noFiles
      · rw [failed] at together
        cases together
  | some merged =>
      rw [result] at rows
      exact ⟨merged, table, rfl, together, contract.2 merged table result together, rows⟩

end Directory

end AirTrafficControl.Results
