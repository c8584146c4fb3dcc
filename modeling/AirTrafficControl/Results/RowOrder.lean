import AirTrafficControl.Results.Design

/-!
# The order of the rows

The rows that `makeInput` writes are those that `factorial2kr.py` expects, for every statistic
that is reached.
-/

namespace AirTrafficControl.Results

open Table

variable {Level Value : Type}

section Design

variable [LinearOrder Level]

/-- Nothing stops the script: every name has a colon, and for each statistic that is analysed
the file can be opened and `factorial2kr.py` leaves its output. -/
structure Environment.Ready (environment : Environment Value) (design : Design Level)
    (table : List (Row Level Value)) : Prop where
  colon : ∀ row ∈ table, 2 ≤ (split row.name).length
  opens : ∀ row ∈ table, ∀ filename, Averaged row.name filename →
    environment.opens filename = true
  analysed : ∀ row ∈ table, ∀ filename, Averaged row.name filename →
    ∀ rows, design.Matches table row.name rows → environment.analysed filename rows = true

/-- The order of the design.  In a table of runs at two levels of each factor, let the
statistics that are analysed have different files, and let each of them have the same positive
number of values for each combination.  Then `makeInput` writes their files, with the rows that
`factorial2kr.py` takes for the combinations; only an exception leaves a file unwritten. -/
theorem makeInput_matches (design : Design Level) (environment : Environment Value)
    (pandas : SortValues Level Value) (inputs : Inputs Value) (table : List (Row Level Value))
    (alone : ∀ row ∈ table, ∀ other ∈ table, ∀ filename, Averaged row.name filename →
      Averaged other.name filename → row.name = other.name)
    (crossed : ∀ row ∈ table, ∃ combination, design.At combination row)
    (replicated : ∀ row ∈ table, ∀ filename, Averaged row.name filename → ∃ r : Nat, 1 ≤ r ∧
      ∀ combination, (design.values table row.name combination).length = r) :
    let result := (makeInput environment pandas table).run inputs
    (∀ row ∈ table, ∀ filename, Averaged row.name filename →
      (∃ rows, filesOf result filename = some rows ∧
        design.Matches table row.name rows) ∨
      (Stopped result ∧ filesOf result filename = inputs filename)) ∧
    (environment.Ready design table → ¬Stopped result) := by
  intro result
  let df := pandas.sortValues sortKeys table
  have same : df.Perm table := pandas.perm sortKeys table
  have sorted : df.Pairwise (InOrder sortKeys) := pandas.sorted sortKeys table
  have matching : ∀ row ∈ table, ∀ filename, Averaged row.name filename →
      design.Matches table row.name (observations df row.name) ∧
        IsArray (observations df row.name) := by
    intro row member filename averaged
    obtain ⟨r, positive, replicas⟩ := replicated row member filename averaged
    have ordered := Design.ordered same sorted crossed positive replicas
    exact ⟨observations_matches same crossed ordered,
      observations_isArray same crossed ordered replicas⟩
  constructor
  · intro row member filename averaged
    have own : ∀ {name}, name ∈ (df.map Row.name).eraseDups → Averaged name filename →
        name = row.name := by
      intro name listed shares
      obtain ⟨other, isOther, rfl⟩ := (mem_names same).mp listed
      exact alone other isOther row member filename shares averaged
    obtain unchanged | ⟨name, listed, shares, written⟩ :=
      filesOf_forM environment df (df.map Row.name).eraseDups inputs filename
    · cases run : result with
      | ok _ files =>
          obtain ⟨name, listed, shares, written⟩ :=
            written_of_forM run ((mem_names same).mpr ⟨row, member, rfl⟩) averaged
          rw [own listed shares] at written
          exact .inl ⟨_, written, (matching row member filename averaged).1⟩
      | error raised files => exact .inr ⟨⟨raised, files, rfl⟩, run ▸ unchanged⟩
    · rw [own listed shares] at written
      exact .inl ⟨_, written, (matching row member filename averaged).1⟩
  · rintro ready ⟨raised, stopped, failed⟩
    have serves : ∀ name ∈ (df.map Row.name).eraseDups, environment.Serves df name := by
      intro name member
      obtain ⟨row, isRow, rfl⟩ := (mem_names same).mp member
      exact {
        colon := ready.colon row isRow
        array := fun filename averaged => (matching row isRow filename averaged).2
        opens := ready.opens row isRow
        analysed := fun filename averaged =>
          ready.analysed row isRow filename averaged _
            (matching row isRow filename averaged).1 }
    obtain ⟨files, run⟩ := exists_run_forM serves inputs
    cases run.symm.trans failed

/-- With a single value for each combination `factorial2kr.py` divides by zero.  Where it then
leaves no output, one statistic gets a file and no other one. -/
theorem makeInput_single (design : Design Level) (environment : Environment Value)
    (pandas : SortValues Level Value) (inputs : Inputs Value) (table : List (Row Level Value))
    (divides : ∀ filename txt, (∀ values ∈ txt, values.length = 1) →
      environment.analysed filename txt = false)
    (crossed : ∀ row ∈ table, ∃ combination, design.At combination row)
    (single : ∀ row ∈ table, ∀ filename, Averaged row.name filename →
      ∀ combination, (design.values table row.name combination).length = 1) {one two : String}
    (first : filesOf ((makeInput environment pandas table).run inputs) one ≠ inputs one)
    (second : filesOf ((makeInput environment pandas table).run inputs) two ≠ inputs two) :
    one = two := by
  have same := pandas.perm sortKeys table
  refine eq_of_written_forM inputs ?_ first second
  intro name member filename averaged
  obtain ⟨row, isRow, rfl⟩ := (mem_names same).mp member
  have replicas := single row isRow filename averaged
  have ordered := Design.ordered same (pandas.sorted sortKeys table) crossed le_rfl replicas
  exact divides _ _ fun _ => length_of_mem_observations same crossed ordered replicas

end Design

/-! ## A small table -/

/-- A stable sort. -/
def SortValues.insertionSort [LinearOrder Level] : SortValues Level Value where
  sortValues keys df := df.insertionSort (InOrder keys)
  perm keys df := List.perm_insertionSort (InOrder keys) df
  sorted keys df := List.pairwise_insertionSort (InOrder keys) df

/-- The levels zero and one, with names of four digits. -/
def Design.binary : Design Nat where
  low _ := 0
  high _ := 1
  apart _ := Nat.one_pos
  iterationvars combination :=
    String.ofList ([.iat, .lt, .tot, .pt].map fun factor =>
      if combination factor then '1' else '0')
  unique first second same := by
    have digits : ∀ one two : Bool, (if one then '1' else '0') = (if two then '1' else '0') →
        one = two := by
      decide
    have lists := String.ofList_injective same
    simp only [List.map_cons, List.map_nil, List.cons.injEq, and_true] at lists
    obtain ⟨iat, lt, tot, pt⟩ := lists
    funext factor
    cases factor with
    | iat => exact digits _ _ iat
    | lt => exact digits _ _ lt
    | tot => exact digits _ _ tot
    | pt => exact digits _ _ pt

/-- A scalar of a run. -/
def scalar (name : String) (x : Nat) : Row Nat Nat where
  name
  value := x
  iat := Design.binary.level (combinationOf (x % 16)) .iat
  lt := Design.binary.level (combinationOf (x % 16)) .lt
  tot := Design.binary.level (combinationOf (x % 16)) .tot
  pt := Design.binary.level (combinationOf (x % 16)) .pt
  iterationvars := Design.binary.iterationvars (combinationOf (x % 16))

/-- Scalars for each combination, all of them different. -/
def scalars (name : String) (r : Nat) : List (Row Nat Nat) :=
  (List.range (16 * r)).map (scalar name)

/-- Every file can be opened, and `factorial2kr.py` divides by `r * (r - 1)` and by the total
variation. -/
def Environment.dividing : Environment Nat where
  opens _ := true
  analysed _ txt := decide (2 ≤ (txt.headD []).length ∧
    ∃ values ∈ txt, ∃ value ∈ values, value ≠ (txt.headD []).headD 0)

theorem at_scalar (name : String) (x : Nat) :
    Design.binary.At (combinationOf (x % 16)) (scalar name x) where
  level factor := by cases factor <;> rfl
  iterationvars := rfl

section Scalars

variable {name : String} {r : Nat} {row : Row Nat Nat}

theorem name_of_mem_scalars (member : row ∈ scalars name r) : row.name = name := by
  obtain ⟨x, -, rfl⟩ := List.mem_map.mp member
  rfl

theorem crossed_of_mem_scalars (member : row ∈ scalars name r) :
    ∃ combination, Design.binary.At combination row := by
  obtain ⟨x, -, rfl⟩ := List.mem_map.mp member
  exact ⟨combinationOf (x % 16), at_scalar name x⟩

/-- Every remainder comes once in sixteen numbers. -/
theorem countP_range {y : Nat} (bound : y < 16) (r : Nat) :
    (List.range (16 * r)).countP (fun x => x % 16 = y) = r := by
  induction r with
  | zero => rfl
  | succ r ih =>
      have shifted : ∀ x, (16 * r + x) % 16 = x % 16 := fun x => Nat.mul_add_mod 16 r x
      have once : ∀ y < 16, (List.range 16).countP (fun x => x % 16 = y) = 1 := by decide
      rw [Nat.mul_succ, List.range_add, List.countP_append, ih, List.countP_map,
        ← once y bound]
      simp only [Function.comp_def, shifted]

theorem length_values_scalars (name : String) (r : Nat) (combination : Combination) :
    (Design.binary.values (scalars name r) name combination).length = r := by
  rw [Design.values, List.length_map, scalars, List.filter_map, List.length_map,
    ← List.countP_eq_length_filter]
  refine Eq.trans (List.countP_congr ?_) (countP_range (rowOf_lt combination) r)
  intro x _
  have bound := Nat.mod_lt x (show 0 < 16 by decide)
  rw [Function.comp_apply, decide_eq_true_iff, decide_eq_true_iff,
    ← Design.binary.iterationvars_iff (at_scalar name x)]
  constructor
  · rintro ⟨-, known⟩
    rw [← Design.binary.unique known, rowOf_combinationOf bound]
  · intro place
    rw [scalar, place, combinationOf_rowOf]
    exact ⟨rfl, rfl⟩

theorem nodup_values_scalars (name : String) (r : Nat) (combination : Combination) :
    (Design.binary.values (scalars name r) name combination).Nodup := by
  have values : (scalars name r).map Row.value = List.range (16 * r) := by
    rw [scalars, List.map_map]
    exact List.map_id _
  have distinct : ((scalars name r).map Row.value).Nodup := values ▸ List.nodup_range
  exact distinct.sublist (List.filter_sublist.map Row.value)

theorem ready_scalars :
    Environment.dividing.Ready Design.binary (scalars "HoldingQueueSize:mean" 2) where
  colon row member := by
    rw [name_of_mem_scalars member]
    decide
  opens _ _ _ _ := rfl
  analysed row member filename _ rows rowsMatch := by
    rw [name_of_mem_scalars member] at rowsMatch
    obtain ⟨values, combination, isFirst, same, -⟩ := rowsMatch.row 0 (by decide)
    obtain ⟨one, two, rfl⟩ := List.length_eq_two.mp
      (same.length_eq.trans (length_values_scalars _ 2 combination))
    have distinct : one ≠ two := by
      have nodup := same.nodup_iff.mpr (nodup_values_scalars _ 2 combination)
      simpa using nodup
    have first : rows.headD [] = [one, two] := by
      rw [List.headD_eq_head?_getD, List.head?_eq_getElem?, isFirst, Option.getD_some]
    apply decide_eq_true
    rw [first]
    exact ⟨le_rfl, [one, two], List.mem_of_getElem? isFirst, two, by simp, distinct.symm⟩

end Scalars

/-- The means of a queue length. -/
theorem makeInput_matches_scalars :
    let table := scalars "HoldingQueueSize:mean" 2
    let result := (makeInput .dividing .insertionSort table).run fun _ => none
    ¬Stopped result ∧ ∃ rows, filesOf result "HoldingQueueSize" = some rows ∧
      Design.binary.Matches table "HoldingQueueSize:mean" rows := by
  obtain ⟨files, reaches⟩ := makeInput_matches Design.binary .dividing .insertionSort
    (fun _ => none) (scalars "HoldingQueueSize:mean" 2)
    (fun row member other isOther _ _ _ =>
      (name_of_mem_scalars member).trans (name_of_mem_scalars isOther).symm)
    (fun _ => crossed_of_mem_scalars)
    (fun row member _ _ => ⟨2, Nat.le_succ 1, fun combination => by
      rw [name_of_mem_scalars member]
      exact length_values_scalars _ 2 combination⟩)
  have member : scalar "HoldingQueueSize:mean" 0 ∈ scalars "HoldingQueueSize:mean" 2 :=
    List.mem_map_of_mem (List.mem_range.mpr (by decide))
  have averaged : Averaged "HoldingQueueSize:mean" "HoldingQueueSize" :=
    @averaged_append "HoldingQueueSize" (by decide)
  exact ⟨reaches ready_scalars,
    (files _ member _ averaged).resolve_right fun stopped =>
      reaches ready_scalars stopped.1⟩

/-- The names end in `:mean`, and each combination has `r` values of each statistic. -/
structure Design.Replicated [LinearOrder Level] (design : Design Level)
    (table : List (Row Level Value)) (r : Nat) : Prop where
  mean : ∀ row ∈ table, ":mean".toList <:+ row.name.toList
  crossed : ∀ row ∈ table, ∃ combination, design.At combination row
  length : ∀ row ∈ table, ∀ combination,
    (design.values table row.name combination).length = r

theorem replicated_scalars {name : String} (mean : ":mean".toList <:+ name.toList) (r : Nat) :
    Design.binary.Replicated (scalars name r) r where
  mean row member := by rwa [name_of_mem_scalars member]
  crossed _ := crossed_of_mem_scalars
  length row member combination := by
    rw [name_of_mem_scalars member]
    exact length_values_scalars name r combination

theorem values_append_scalars {name other : String} (different : name ≠ other) (r : Nat)
    (combination : Combination) :
    (Design.binary.values (scalars name r ++ scalars other r) name combination).length = r ∧
      (Design.binary.values (scalars name r ++ scalars other r) other combination).length =
        r := by
  have none : ∀ {one two}, one ≠ two →
      Design.binary.values (scalars two r) one combination = [] := by
    intro one two different
    rw [Design.values, List.map_eq_nil_iff, List.filter_eq_nil_iff]
    intro row member
    rw [name_of_mem_scalars member, decide_eq_true_iff]
    exact fun chosen => different chosen.1.symm
  have split : ∀ one, Design.binary.values (scalars name r ++ scalars other r) one combination =
      Design.binary.values (scalars name r) one combination ++
        Design.binary.values (scalars other r) one combination := by
    intro one
    rw [Design.values, List.filter_append, List.map_append]
    rfl
  rw [split, split, none different, none different.symm, List.append_nil, List.nil_append]
  exact ⟨length_values_scalars name r combination, length_values_scalars other r combination⟩

theorem replicated_append_scalars {name other : String} (different : name ≠ other)
    (mean : ":mean".toList <:+ name.toList) (otherMean : ":mean".toList <:+ other.toList)
    (r : Nat) : Design.binary.Replicated (scalars name r ++ scalars other r) r where
  mean row member := by
    obtain isFirst | isSecond := List.mem_append.mp member
    · rwa [name_of_mem_scalars isFirst]
    · rwa [name_of_mem_scalars isSecond]
  crossed row member := (List.mem_append.mp member).elim crossed_of_mem_scalars
    crossed_of_mem_scalars
  length row member combination := by
    have lengths := values_append_scalars different r combination
    obtain isFirst | isSecond := List.mem_append.mp member
    · rw [name_of_mem_scalars isFirst]
      exact lengths.1
    · rw [name_of_mem_scalars isSecond]
      exact lengths.2

theorem dividing_single (filename : String) (txt : List (List Nat))
    (single : ∀ values ∈ txt, values.length = 1) :
    Environment.dividing.analysed filename txt = false := by
  apply decide_eq_false
  rintro ⟨replicas, -⟩
  cases txt with
  | nil => exact absurd replicas (by decide)
  | cons first rest =>
      have one : first.length = 1 := single first List.mem_cons_self
      rw [List.headD_cons, one] at replicas
      exact absurd replicas (by decide)

/-- The files in a directory that was empty. -/
def filesMade (table : List (Row Nat Nat)) : Inputs Nat :=
  filesOf ((makeInput .dividing .insertionSort table).run fun _ => none)

/-- A statistic ending in `:mean` can be left without a file: when there is another colon in
its name, and when there is a single value for each combination and another statistic. -/
theorem makeInput_incomplete :
    (Design.binary.Replicated (scalars "HoldingQueue:size:mean" 2) 2 ∧
      ∀ filename, filesMade (scalars "HoldingQueue:size:mean" 2) filename = none) ∧
    (Design.binary.Replicated
        (scalars "HoldingQueueSize:mean" 1 ++ scalars "DepartQueueSize:mean" 1) 1 ∧
      ∃ filename ∈ ["HoldingQueueSize", "DepartQueueSize"], filesMade
        (scalars "HoldingQueueSize:mean" 1 ++ scalars "DepartQueueSize:mean" 1) filename =
          none) := by
  refine ⟨⟨replicated_scalars (by decide) 2, ?_⟩, ?_⟩
  · intro filename
    rw [filesMade, makeInput_other]
    · rintro row member filename ⟨rest, parts⟩
      have skipped : split "HoldingQueue:size:mean" = ["HoldingQueue", "size", "mean"] := by
        decide
      rw [name_of_mem_scalars member, skipped] at parts
      simp at parts
  · have replicated := replicated_append_scalars
      (show "HoldingQueueSize:mean" ≠ "DepartQueueSize:mean" by decide) (by decide)
      (by decide) 1
    refine ⟨replicated, ?_⟩
    by_contra written
    rw [List.exists_mem_cons_iff, List.exists_mem_cons_iff, not_or, not_or] at written
    obtain ⟨first, second, -⟩ := written
    have same := makeInput_single Design.binary .dividing .insertionSort (fun _ => none) _
      dividing_single replicated.crossed (fun row member _ _ => replicated.length row member)
      first second
    exact absurd same (by decide)

end AirTrafficControl.Results
