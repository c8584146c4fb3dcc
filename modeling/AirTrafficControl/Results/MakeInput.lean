import AirTrafficControl.Library.Table
import Mathlib.Logic.Function.Basic

/-!
# The input of the factorial analysis

`makeInput` of `util.py` writes one file for each statistic that is analysed, has
`factorial2kr.py` analyse it and plots what that leaves.  An exception ends the loop: the files
of the statistics that come later are then not written.
-/

namespace AirTrafficControl.Results

open Table

/-- A row of the table of scalars. -/
structure Row (Level Value : Type) where
  name : String
  value : Value
  iat : Level
  lt : Level
  tot : Level
  pt : Level
  iterationvars : String

/-- `name.split(':')`. -/
def split (name : String) : List String := (name.toList.splitOn ':').map String.ofList

/-- The pandas method `sort_values`. -/
structure SortValues (Level Value : Type) [LinearOrder Level] where
  sortValues : List (SortKey (Row Level Value) Level) → List (Row Level Value) →
    List (Row Level Value)
  perm : ∀ keys df, (sortValues keys df).Perm df
  sorted : ∀ keys df, (sortValues keys df).Pairwise (InOrder keys)

/-- The files in the directory of the inputs, row by row. -/
abbrev Inputs (Value : Type) := String → Option (List (List Value))

/-- The exceptions that stop the script. -/
inductive Raised where
  | indexError
  | valueError
  | osError
  | fileNotFoundError
  deriving DecidableEq

/-- What the script meets outside: which files `np.savetxt` can open, and for which rows
`qqnorm` finds output of `factorial2kr.py`, of this call or an earlier one, and plots it. -/
structure Environment (Value : Type) where
  opens : String → Bool
  analysed : String → List (List Value) → Bool

/-- An exception keeps the files that are written before it. -/
abbrev Script (Value : Type) := EStateM Raised (Inputs Value)

variable {Level Value : Type}

/-- Rows of one length make an array. -/
def IsArray (txt : List (List Value)) : Prop :=
  ∀ values ∈ txt, values.length = (txt.headD []).length

instance (txt : List (List Value)) : Decidable (IsArray txt) :=
  inferInstanceAs (Decidable (∀ values ∈ txt, values.length = (txt.headD []).length))

/-- `np.savetxt` of `np.array(txt)`. -/
def savetxt (environment : Environment Value) (filename : String)
    (txt : List (List Value)) : Script Value Unit :=
  if ¬IsArray txt then
    throw .valueError
  else if environment.opens filename then
    modify fun inputs => Function.update inputs filename (some txt)
  else
    throw .osError

/-- The call of `factorial2kr.py` and `qqnorm`, which opens the file that it should leave. -/
def qqnorm (environment : Environment Value) (filename : String)
    (txt : List (List Value)) : Script Value Unit :=
  if environment.analysed filename txt then pure () else throw .fileNotFoundError

/-- The local variable `txt`: the values of a statistic, a row for each of the
`iterationvars`. -/
def observations (df : List (Row Level Value)) (name : String) : List (List Value) :=
  (df.map Row.iterationvars).eraseDups.map fun iters =>
    (df.filter fun row => row.name = name ∧ row.iterationvars = iters).map Row.value

/-- The body of the loop over the names. -/
def writeInput (environment : Environment Value) (df : List (Row Level Value))
    (name : String) : Script Value Unit :=
  match split name with
  | filename :: kind :: _ =>
      if kind ≠ "mean" then
        pure ()
      else do
        let txt := observations df name
        savetxt environment filename txt
        qqnorm environment filename txt
  | _ => throw .indexError

/-- The arguments `by` and `ascending` of `sort_values`. -/
def sortKeys : List (SortKey (Row Level Value) Level) :=
  [⟨Row.pt, false⟩, ⟨Row.tot, false⟩, ⟨Row.lt, false⟩, ⟨Row.iat, false⟩]

def makeInput [LinearOrder Level] (environment : Environment Value)
    (pandas : SortValues Level Value) (df : List (Row Level Value)) : Script Value Unit :=
  let df := pandas.sortValues sortKeys df
  forM (df.map Row.name).eraseDups (writeInput environment df)

/-- The files when the script ends. -/
def filesOf : EStateM.Result Raised (Inputs Value) Unit → Inputs Value
  | .ok _ files => files
  | .error _ files => files

/-- An exception stops the script. -/
def Stopped (result : EStateM.Result Raised (Inputs Value) Unit) : Prop :=
  ∃ raised files, result = .error raised files

/-! ## The loop over the names -/

/-- The statistic is one of those that are analysed, and this is the name of its file. -/
def Averaged (name filename : String) : Prop :=
  ∃ rest, split name = filename :: "mean" :: rest

/-- The mean of a signal. -/
theorem averaged_append {signal : String} (plain : ':' ∉ signal.toList) :
    Averaged (signal ++ ":mean") signal := by
  have letters : (signal ++ ":mean").toList = signal.toList ++ ':' :: "mean".toList :=
    String.toList_append
  have parts : split (signal ++ ":mean") = [signal, "mean"] := by
    rw [split, letters, List.splitOn_append_cons_of_beq _ _ (by rfl),
      List.splitOn_eq_singleton plain, List.map_append, List.map_singleton,
      String.ofList_toList]
    rfl
  exact ⟨[], parts⟩

section Loop

variable {environment : Environment Value} {df : List (Row Level Value)}
  {inputs files : Inputs Value} {name filename : String} {names : List String}

variable (environment df) in
/-- The three ends of a round for a statistic that is analysed. -/
theorem run_writeInput (averaged : Averaged name filename) (inputs : Inputs Value) :
    (IsArray (observations df name) ∧ environment.opens filename = true ∧
        environment.analysed filename (observations df name) = true ∧
        (writeInput environment df name).run inputs =
          .ok () (Function.update inputs filename (some (observations df name)))) ∨
      (environment.analysed filename (observations df name) = false ∧
        (writeInput environment df name).run inputs = .error .fileNotFoundError
          (Function.update inputs filename (some (observations df name)))) ∨
      (¬(IsArray (observations df name) ∧ environment.opens filename = true) ∧
        ∃ raised, (writeInput environment df name).run inputs = .error raised inputs) := by
  obtain ⟨rest, parts⟩ := averaged
  have round : writeInput environment df name = (do
      savetxt environment filename (observations df name)
      qqnorm environment filename (observations df name)) := by
    simp [writeInput, parts]
  rw [round]
  by_cases array : IsArray (observations df name)
  · cases opens : environment.opens filename with
    | true =>
        cases analysed : environment.analysed filename (observations df name) with
        | true =>
            exact .inl ⟨array, rfl, rfl, by simp [savetxt, qqnorm, array, opens, analysed]⟩
        | false =>
            exact .inr (.inl ⟨rfl, by simp [savetxt, qqnorm, array, opens, analysed]⟩)
    | false => exact .inr (.inr ⟨by simp, .osError, by simp [savetxt, array, opens]⟩)
  · exact .inr (.inr ⟨by simp [array], .valueError, by simp [savetxt, array]⟩)

/-- The other names are skipped, or have no colon. -/
theorem writeInput_other (other : ∀ filename, ¬Averaged name filename) :
    (2 ≤ (split name).length ∧ writeInput environment df name = pure ()) ∨
      ((split name).length < 2 ∧ writeInput environment df name = throw .indexError) := by
  unfold writeInput
  split
  · rename_i filename kind rest parts
    have notMean : kind ≠ "mean" := by
      rintro rfl
      exact other filename ⟨rest, parts⟩
    exact .inl ⟨by simp [parts], if_pos notMean⟩
  · rename_i short
    refine .inr ⟨?_, rfl⟩
    cases parts : split name with
    | nil => exact Nat.two_pos
    | cons filename rest =>
        cases rest with
        | nil => exact Nat.one_lt_two
        | cons kind rest => exact absurd parts (short filename kind rest)

variable (environment df) in
/-- A round writes at most the file of its statistic. -/
theorem filesOf_writeInput (inputs : Inputs Value) :
    filesOf ((writeInput environment df name).run inputs) = inputs ∨
      ∃ filename, Averaged name filename ∧
        filesOf ((writeInput environment df name).run inputs) =
          Function.update inputs filename (some (observations df name)) := by
  by_cases averaged : ∃ filename, Averaged name filename
  · obtain ⟨filename, averaged⟩ := averaged
    obtain ⟨-, -, -, run⟩ | ⟨-, run⟩ | ⟨-, raised, run⟩ :=
      run_writeInput environment df averaged inputs
    · exact .inr ⟨filename, averaged, by rw [run]; rfl⟩
    · exact .inr ⟨filename, averaged, by rw [run]; rfl⟩
    · exact .inl (by rw [run]; rfl)
  · obtain ⟨-, run⟩ | ⟨-, run⟩ := writeInput_other (not_exists.mp averaged)
    · exact .inl (by rw [run]; rfl)
    · exact .inl (by rw [run]; rfl)

/-- A round that is not stopped has written the file. -/
theorem written_of_run (run : (writeInput environment df name).run inputs = .ok () files)
    (averaged : Averaged name filename) : files filename = some (observations df name) := by
  obtain ⟨-, -, -, result⟩ | ⟨-, result⟩ | ⟨-, raised, result⟩ :=
    run_writeInput environment df averaged inputs
  · rw [result, EStateM.Result.ok.injEq] at run
    rw [← run.2, Function.update_self]
  · rw [result] at run
    cases run
  · rw [result] at run
    cases run

/-- What a round needs. -/
structure Environment.Serves (environment : Environment Value)
    (df : List (Row Level Value)) (name : String) : Prop where
  colon : 2 ≤ (split name).length
  array : ∀ filename, Averaged name filename → IsArray (observations df name)
  opens : ∀ filename, Averaged name filename → environment.opens filename = true
  analysed : ∀ filename, Averaged name filename →
    environment.analysed filename (observations df name) = true

theorem exists_run_writeInput (serves : environment.Serves df name) (inputs : Inputs Value) :
    ∃ files, (writeInput environment df name).run inputs = .ok () files := by
  by_cases averaged : ∃ filename, Averaged name filename
  · obtain ⟨filename, averaged⟩ := averaged
    obtain ⟨-, -, -, run⟩ | ⟨unfinished, -⟩ | ⟨unable, -⟩ :=
      run_writeInput environment df averaged inputs
    · exact ⟨_, run⟩
    · rw [serves.analysed filename averaged] at unfinished
      cases unfinished
    · exact absurd ⟨serves.array filename averaged, serves.opens filename averaged⟩ unable
  · obtain ⟨-, run⟩ | ⟨short, -⟩ := writeInput_other (not_exists.mp averaged)
    · exact ⟨inputs, by rw [run]; rfl⟩
    · exact absurd serves.colon (Nat.not_le.mpr short)

variable (environment df) in
/-- An exception or not, a file is as before or holds the values of its statistic. -/
theorem filesOf_forM (names : List String) (inputs : Inputs Value) (filename : String) :
    filesOf ((forM names (writeInput environment df)).run inputs) filename =
        inputs filename ∨
      ∃ name ∈ names, Averaged name filename ∧
        filesOf ((forM names (writeInput environment df)).run inputs) filename =
          some (observations df name) := by
  induction names generalizing inputs with
  | nil => exact .inl rfl
  | cons first rest ih =>
      have step : filesOf ((writeInput environment df first).run inputs) filename =
            inputs filename ∨
          (Averaged first filename ∧
            filesOf ((writeInput environment df first).run inputs) filename =
              some (observations df first)) := by
        obtain same | ⟨file, averaged, written⟩ :=
          filesOf_writeInput environment df inputs
        · exact .inl (congrFun same filename)
        · by_cases own : filename = file
          · rw [written, own, Function.update_self]
            exact .inr ⟨averaged, rfl⟩
          · exact .inl (by rw [written, Function.update_of_ne own])
      rw [List.forM_cons, EStateM.run_bind]
      cases run : (writeInput environment df first).run inputs with
      | ok _ next =>
          rw [run] at step
          obtain same | ⟨name, member, averaged, written⟩ := ih next
          · obtain before | ⟨averaged, written⟩ := step
            · exact .inl (same.trans before)
            · exact .inr ⟨first, List.mem_cons_self, averaged, same.trans written⟩
          · exact .inr ⟨name, List.mem_cons_of_mem first member, averaged, written⟩
      | error raised next =>
          rw [run] at step
          obtain before | ⟨averaged, written⟩ := step
          · exact .inl before
          · exact .inr ⟨first, List.mem_cons_self, averaged, written⟩

/-- Without an exception every statistic has its file, unless another one has overwritten
it. -/
theorem written_of_forM
    (run : (forM names (writeInput environment df)).run inputs = .ok () files)
    (member : name ∈ names) (averaged : Averaged name filename) :
    ∃ other ∈ names, Averaged other filename ∧
      files filename = some (observations df other) := by
  induction names generalizing inputs with
  | nil => cases member
  | cons first rest ih =>
      rw [List.forM_cons, EStateM.run_bind] at run
      cases step : (writeInput environment df first).run inputs with
      | error raised next =>
          rw [step] at run
          cases run
      | ok _ next =>
          rw [step] at run
          have ran : (forM rest (writeInput environment df)).run next = .ok () files := run
          obtain rfl | inRest := List.mem_cons.mp member
          · have final := filesOf_forM environment df rest next filename
            rw [ran] at final
            obtain same | ⟨other, isOther, shares, written⟩ := final
            · exact ⟨name, List.mem_cons_self, averaged,
                same.trans (written_of_run step averaged)⟩
            · exact ⟨other, List.mem_cons_of_mem name isOther, shares, written⟩
          · obtain ⟨other, isOther, shares, written⟩ := ih ran inRest
            exact ⟨other, List.mem_cons_of_mem first isOther, shares, written⟩

theorem exists_run_forM (serves : ∀ name ∈ names, environment.Serves df name)
    (inputs : Inputs Value) :
    ∃ files, (forM names (writeInput environment df)).run inputs = .ok () files := by
  induction names generalizing inputs with
  | nil => exact ⟨inputs, rfl⟩
  | cons first rest ih =>
      obtain ⟨served, others⟩ := List.forall_mem_cons.mp serves
      obtain ⟨next, step⟩ := exists_run_writeInput served inputs
      obtain ⟨files, run⟩ := ih others next
      exact ⟨files, by rw [List.forM_cons, EStateM.run_bind, step]; exact run⟩

/-- Where nothing can be analysed the script stops after its first file. -/
theorem eq_of_written_forM (inputs : Inputs Value)
    (unfinished : ∀ name ∈ names, ∀ filename, Averaged name filename →
      environment.analysed filename (observations df name) = false)
    {one two : String}
    (first : filesOf ((forM names (writeInput environment df)).run inputs) one ≠ inputs one)
    (second : filesOf ((forM names (writeInput environment df)).run inputs) two ≠ inputs two) :
    one = two := by
  induction names with
  | nil => exact absurd rfl first
  | cons name rest ih =>
      obtain ⟨ended, later⟩ := List.forall_mem_cons.mp unfinished
      rw [List.forM_cons, EStateM.run_bind] at first second
      by_cases averaged : ∃ filename, Averaged name filename
      · obtain ⟨filename, averaged⟩ := averaged
        obtain ⟨-, -, analysed, -⟩ | ⟨-, run⟩ | ⟨-, raised, run⟩ :=
          run_writeInput environment df averaged inputs
        · rw [ended filename averaged] at analysed
          cases analysed
        · rw [run] at first second
          have own : ∀ {other}, Function.update inputs filename
              (some (observations df name)) other ≠ inputs other → other = filename :=
            fun written => by_contra fun other => written (Function.update_of_ne other _ _)
          exact (own first).trans (own second).symm
        · rw [run] at first
          exact absurd rfl first
      · obtain ⟨-, run⟩ | ⟨-, run⟩ := writeInput_other (not_exists.mp averaged)
        · rw [run] at first second
          exact ih later first second
        · rw [run] at first
          exact absurd rfl first

end Loop

/-- Sorting keeps the names. -/
theorem mem_names {df table : List (Row Level Value)} (same : df.Perm table) {name : String} :
    name ∈ (df.map Row.name).eraseDups ↔ ∃ row ∈ table, row.name = name := by
  rw [List.mem_eraseDups, List.mem_map]
  exact exists_congr fun row => and_congr_left fun _ => same.mem_iff

/-- Without a statistic to analyse nothing is written. -/
theorem makeInput_other [LinearOrder Level] (environment : Environment Value)
    (pandas : SortValues Level Value) (inputs : Inputs Value) {table : List (Row Level Value)}
    (others : ∀ row ∈ table, ∀ filename, ¬Averaged row.name filename) :
    filesOf ((makeInput environment pandas table).run inputs) = inputs := by
  funext filename
  refine (filesOf_forM environment _ _ inputs filename).resolve_right ?_
  rintro ⟨name, member, averaged, -⟩
  obtain ⟨row, isRow, rfl⟩ := (mem_names (pandas.perm _ _)).mp member
  exact others row isRow filename averaged

end AirTrafficControl.Results
