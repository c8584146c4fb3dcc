import AirTrafficControl.Results.Variation
import Mathlib.Data.Nat.Log

/-!
# The input of the factorial analysis, read back

Which files `factorial2kr.py` accepts, and that it reads from a file that `np.savetxt` or its
own option `--random` has written the numbers that were written.
-/

namespace AirTrafficControl.Results

universe u

/-! ## Words -/

section Words

variable {word rest : List Char} {separator : Char}

theorem words_single (some : word ≠ []) (solid : ∀ letter ∈ word, isSpace letter = false) :
    words word = [word] := by
  rw [words, List.splitOnP_eq_singleton solid]
  simp [some]

/-- A separator ends a word. -/
theorem words_append_cons (some : word ≠ [])
    (solid : ∀ letter ∈ word, isSpace letter = false) (space : isSpace separator = true)
    (rest : List Char) : words (word ++ separator :: rest) = word :: words rest := by
  rw [words, List.splitOnP_append_cons_of_forall_mem solid separator space]
  simp [words, some]

end Words

variable {K : Type u}

/-- A line of `np.savetxt`, for a format of the numbers. -/
def savetxtLine (format : K → List Char) (values : List K) : List Char :=
  [' '].intercalate (values.map format)

/-- A line of `print_random`, which ends in a space. -/
def randomLine (format : K → List Char) (values : List K) : List Char :=
  values.flatMap fun value => format value ++ [' ']

/-- A number that is written as a word is read back. -/
structure ReadsBack (float : List Char → Option K) (format : K → List Char) (value : K) :
    Prop where
  some : format value ≠ []
  solid : ∀ letter ∈ format value, isSpace letter = false
  float : float (format value) = .some value

section ReadsBack

variable {float : List Char → Option K} {format : K → List Char} {values : List K}
  (readsBack : ∀ value ∈ values, ReadsBack float format value)

include readsBack

theorem mapM_words : (values.map format).mapM float = some values := by
  induction values with
  | nil => rfl
  | cons value rest ih =>
      obtain ⟨first, others⟩ := List.forall_mem_cons.mp readsBack
      rw [List.map_cons, List.mapM_cons, first.float, ih others]
      rfl

theorem words_savetxtLine : words (savetxtLine format values) = values.map format := by
  unfold savetxtLine
  induction values with
  | nil => rfl
  | cons value rest ih =>
      obtain ⟨first, others⟩ := List.forall_mem_cons.mp readsBack
      cases rest with
      | nil =>
          have joined : [' '].intercalate ([value].map format) = format value := by simp
          rw [joined]
          exact words_single first.some first.solid
      | cons next rest =>
          have joined : [' '].intercalate ((value :: next :: rest).map format) =
              format value ++ ' ' :: [' '].intercalate ((next :: rest).map format) := rfl
          rw [joined, words_append_cons first.some first.solid (by decide), ih others]
          rfl

theorem words_randomLine : words (randomLine format values) = values.map format := by
  unfold randomLine
  induction values with
  | nil => rfl
  | cons value rest ih =>
      obtain ⟨first, others⟩ := List.forall_mem_cons.mp readsBack
      rw [List.flatMap_cons, List.append_assoc, List.singleton_append,
        words_append_cons first.some first.solid (by decide), ih others]
      rfl

end ReadsBack

/-! ## Decimals -/

section Decimals

/-- A natural number with its digits. -/
def decimal (value : ℚ) : List Char := Nat.toDigits 10 value.num.toNat

/-- A word of digits as a number. -/
def digits (word : List Char) : Option ℚ :=
  if word ≠ [] ∧ word.all Char.isDigit then some (Nat.ofDigitChars 10 word 0 : Nat) else none

theorem decimal_natCast (value : Nat) : decimal (value : ℚ) = Nat.toDigits 10 value := by
  rw [decimal, Rat.num_natCast, Int.toNat_natCast]

theorem isDigit_of_mem_decimal {value : Nat} {letter : Char}
    (member : letter ∈ decimal (value : ℚ)) : letter.isDigit = true := by
  rw [decimal_natCast] at member
  exact Nat.isDigit_of_mem_toDigits (by decide) (by decide) member

theorem readsBack_decimal (value : Nat) : ReadsBack digits decimal (value : ℚ) := by
  have some : decimal (value : ℚ) ≠ [] := by
    rw [decimal_natCast]
    exact Nat.toDigits_ne_nil
  refine ⟨some, ?_, ?_⟩
  · intro letter member
    have range := Char.isDigit_iff_toNat.mp (isDigit_of_mem_decimal member)
    rw [isSpace, decide_eq_false_iff_not]
    intro space
    simp only [List.mem_cons, List.not_mem_nil, or_false, Char.reduceToNat] at space range
    omega
  · have allDigits : (decimal (value : ℚ)).all Char.isDigit = true :=
      List.all_eq_true.mpr fun _ member => isDigit_of_mem_decimal member
    rw [digits, if_pos ⟨some, allDigits⟩, decimal_natCast, Nat.ofDigitChars_ten_toDigits]

end Decimals

/-! ## The number of factors -/

/-- The logarithm of a power of two is exact. -/
theorem roundLog2_two_pow (k : Nat) : roundLog2 (2 ^ k) = k := by
  have square : 2 * (2 ^ k) ^ 2 = 2 ^ (2 * k + 1) := by
    rw [← pow_mul, pow_succ' 2 (2 * k), Nat.mul_comm k 2]
  rw [roundLog2, square, Nat.log2_two_pow]
  omega

namespace Observations

/-! ## Accepted files -/

section Accepted

variable {float : List Char → Option K} {data : List (List K)} {r : Nat}

/-- One line, once its words are numbers. -/
def readRow (read : List (List K) × Nat) (values : List K) : Outcome (List (List K) × Nat) :=
  if read.2 = 0 then
    .ok (read.1 ++ [values], values.length)
  else if read.2 ≠ values.length then
    .error (.exception ("Invalid input at line " ++ toString (read.1.length + 1)))
  else
    .ok (read.1 ++ [values], read.2)

theorem readLine_eq (read : List (List K) × Nat) (line : List Char) :
    readLine float read line =
      match (words line).mapM float with
      | none => .error .valueError
      | some values => readRow read values := rfl

theorem mapM_cons_eq_some {Input Output : Type*} {function : Input → Option Output}
    {first : Input} {rest : List Input} {outputs : List Output} :
    (first :: rest).mapM function = some outputs ↔
      ∃ output others, function first = some output ∧ rest.mapM function = some others ∧
        outputs = output :: others := by
  rw [List.mapM_cons]
  cases function first with
  | none => simp
  | some output =>
      cases rest.mapM function with
      | none => simp
      | some others => simp [eq_comm]

/-- Lines of numbers are read as rows. -/
theorem foldlM_readLine {infile : List (List Char)} {rows : List (List K)}
    (parsed : infile.mapM (fun line => (words line).mapM float) = some rows)
    (read : List (List K) × Nat) :
    infile.foldlM (readLine float) read = rows.foldlM readRow read := by
  induction infile generalizing read rows with
  | nil =>
      cases parsed
      rfl
  | cons line rest ih =>
      obtain ⟨values, more, first, others, rfl⟩ := mapM_cons_eq_some.mp parsed
      rw [List.foldlM_cons, List.foldlM_cons, readLine_eq, first]
      exact bind_congr fun next => ih others next

/-- A word that is no number stops the script. -/
theorem parsed_of_foldlM {infile : List (List Char)} {read result : List (List K) × Nat}
    (run : infile.foldlM (readLine float) read = .ok result) :
    ∃ rows, infile.mapM (fun line => (words line).mapM float) = some rows := by
  induction infile generalizing read with
  | nil => exact ⟨[], rfl⟩
  | cons line rest ih =>
      rw [List.foldlM_cons, readLine_eq] at run
      cases first : (words line).mapM float with
      | none =>
          rw [first] at run
          cases run
      | some values =>
          rw [first] at run
          change readRow read values >>= rest.foldlM (readLine float) = _ at run
          cases step : readRow read values with
          | error failure =>
              rw [step] at run
              cases run
          | ok next =>
              rw [step] at run
              obtain ⟨rows, parsed⟩ := ih run
              exact ⟨values :: rows, mapM_cons_eq_some.mpr ⟨values, rows, first, parsed, rfl⟩⟩

theorem foldlM_readRow {rows : List (List K)} {result : List (List K) × Nat}
    (positive : 0 < r) :
    rows.foldlM readRow (data, r) = .ok result ↔
      (∀ values ∈ rows, values.length = r) ∧ result = (data ++ rows, r) := by
  induction rows generalizing data with
  | nil => simp [pure, Except.pure, eq_comm]
  | cons values rest ih =>
      rw [List.foldlM_cons, readRow, if_neg (Nat.ne_of_gt positive)]
      by_cases fits : r = values.length
      · rw [if_neg (not_not.mpr fits)]
        refine ih.trans ?_
        simp [fits.symm]
      · rw [if_pos fits]
        simp [bind, Except.bind, Ne.symm fits]

/-- Empty lines do not count before the first line with words. -/
theorem foldlM_readRow_zero {rows : List (List K)} (positive : 0 < r) :
    rows.foldlM readRow (data, 0) = .ok (data ++ rows, r) ↔
      ∃ blank full, rows = List.replicate blank [] ++ full ∧ full ≠ [] ∧
        ∀ values ∈ full, values.length = r := by
  induction rows generalizing data with
  | nil =>
      constructor
      · intro run
        rw [List.append_nil] at run
        cases run
        cases positive
      · rintro ⟨blank, full, nothing, some, -⟩
        exact absurd (List.append_eq_nil_iff.mp nothing.symm).2 some
  | cons values rest ih =>
      have step : readRow (data, 0) values = .ok (data ++ [values], values.length) := rfl
      have sum : data ++ values :: rest = data ++ [values] ++ rest := by simp
      rw [List.foldlM_cons, step, sum]
      change rest.foldlM readRow (data ++ [values], values.length) = _ ↔ _
      cases values with
      | nil =>
          refine ih.trans ⟨?_, ?_⟩
          · rintro ⟨blank, full, rfl, some, lengths⟩
            exact ⟨blank + 1, full, rfl, some, lengths⟩
          · rintro ⟨blank, full, parts, some, lengths⟩
            cases blank with
            | zero =>
                have first := lengths [] (by
                  rw [← List.nil_append full, ← List.replicate_zero, ← parts]
                  exact List.mem_cons_self)
                rw [← first] at positive
                cases positive
            | succ blank =>
                rw [List.replicate_succ, List.cons_append, List.cons.injEq] at parts
                exact ⟨blank, full, parts.2, some, lengths⟩
      | cons value more =>
          have some : 0 < (value :: more).length := Nat.succ_pos _
          refine (foldlM_readRow some).trans ⟨?_, ?_⟩
          · rintro ⟨lengths, same⟩
            have size : (value :: more).length = r := (congrArg Prod.snd same).symm
            refine ⟨0, (value :: more) :: rest, rfl, List.cons_ne_nil _ _, ?_⟩
            exact List.forall_mem_cons.mpr ⟨size, fun values member =>
              (lengths values member).trans size⟩
          · rintro ⟨blank, full, parts, some, lengths⟩
            cases blank with
            | zero =>
                rw [List.replicate_zero, List.nil_append] at parts
                subst parts
                obtain ⟨first, others⟩ := List.forall_mem_cons.mp lengths
                exact ⟨fun values member => (others values member).trans first.symm,
                  by rw [first]⟩
            | succ blank =>
                rw [List.replicate_succ, List.cons_append, List.cons.injEq] at parts
                cases parts.1

theorem data_of_foldlM_readRow {rows : List (List K)} {read result : List (List K) × Nat}
    (run : rows.foldlM readRow read = .ok result) : result.1 = read.1 ++ rows := by
  induction rows generalizing read with
  | nil =>
      cases run
      exact (List.append_nil _).symm
  | cons values rest ih =>
      rw [List.foldlM_cons] at run
      cases step : readRow read values with
      | error failure =>
          rw [step] at run
          cases run
      | ok next =>
          rw [step] at run
          have kept : next.1 = read.1 ++ [values] := by
            unfold readRow at step
            split at step
            · cases step
              rfl
            · split at step
              · cases step
              · cases step
                rfl
          rw [ih run, kept, List.append_assoc, List.singleton_append]

variable [Field K] {infile : List (List Char)} {inputFile : String}

/-- The checks after the loop. -/
theorem init_of_foldlM {read : List (List K) × Nat}
    (run : infile.foldlM (readLine float) ([], 0) = .ok read) :
    init float inputFile infile =
      if read.1.length = 0 then .error .valueError
      else if read.2 = 0 ∨ roundLog2 read.1.length = 0 ∨
          2 ^ roundLog2 read.1.length ≠ read.1.length then
        .error (.exception ("Invalid observations from " ++ inputFile))
      else .ok (fresh read.1 (roundLog2 read.1.length) read.2) := by
  unfold init
  rw [run]
  change (if read.1.length = 0 then _ else _) = _
  split_ifs <;> rfl

/-- What the script accepts: lines of numbers, as many in each line and a power of two of lines,
where empty lines may come first. -/
theorem init_ok_iff (self : Observations K) :
    init float inputFile infile = .ok self ↔
      ∃ data, infile.mapM (fun line => (words line).mapM float) = some data ∧
        (∃ blank full, data = List.replicate blank [] ++ full ∧ full ≠ [] ∧
          ∀ values ∈ full, values.length = self.r) ∧
        0 < self.r ∧ 0 < self.k ∧ data.length = 2 ^ self.k ∧
        self = fresh data self.k self.r := by
  constructor
  · intro accepted
    cases run : infile.foldlM (readLine float) ([], 0) with
    | error failure =>
        unfold init at accepted
        rw [run] at accepted
        cases accepted
    | ok read =>
        rw [init_of_foldlM run] at accepted
        obtain ⟨rows, parsed⟩ := parsed_of_foldlM run
        have reads := (foldlM_readLine parsed _).symm.trans run
        obtain ⟨data, r⟩ := read
        obtain rfl : data = rows := data_of_foldlM_readRow reads
        by_cases empty : data.length = 0
        · rw [if_pos empty] at accepted
          cases accepted
        · by_cases unfit : r = 0 ∨ roundLog2 data.length = 0 ∨
              2 ^ roundLog2 data.length ≠ data.length
          · rw [if_neg empty, if_pos unfit] at accepted
            cases accepted
          · rw [if_neg empty, if_neg unfit] at accepted
            cases accepted
            simp only [not_or, not_not] at unfit
            obtain ⟨replicas, factors, size⟩ := unfit
            have positive : 0 < r := Nat.pos_of_ne_zero replicas
            exact ⟨data, parsed, (foldlM_readRow_zero positive).mp reads, positive,
              Nat.pos_of_ne_zero factors, size.symm, rfl⟩
  · rintro ⟨data, parsed, shape, replicas, factors, size, fields⟩
    have reads : data.foldlM readRow ([], 0) = .ok ([] ++ data, self.r) :=
      (foldlM_readRow_zero replicas).mpr shape
    have run := (foldlM_readLine parsed ([], 0)).trans reads
    have logarithm : roundLog2 data.length = self.k := by
      rw [size, roundLog2_two_pow]
    rw [List.nil_append] at run
    have some : data.length ≠ 0 := by
      rw [size]
      positivity
    have fits : ¬(self.r = 0 ∨ self.k = 0 ∨ 2 ^ self.k ≠ data.length) := by
      rw [size]
      omega
    rw [init_of_foldlM run, if_neg some, logarithm, if_neg fits, ← fields]

/-- A line with another number of words than those before it is reported with its number. -/
theorem init_invalid_line {before rest : List (List Char)} {line : List Char} {values : List K}
    {blank : Nat} {full : List (List K)}
    (parsed : before.mapM (fun line => (words line).mapM float) =
      .some (List.replicate blank [] ++ full))
    (some : full ≠ []) (positive : 0 < r) (lengths : ∀ values ∈ full, values.length = r)
    (own : (words line).mapM float = .some values) (other : values.length ≠ r) :
    init float inputFile (before ++ line :: rest) =
      .error (.exception
        ("Invalid input at line " ++ toString (blank + full.length + 1))) := by
  have place : (List.replicate blank ([] : List K) ++ full).length = blank + full.length := by
    rw [List.length_append, List.length_replicate]
  have read : before.foldlM (readLine float) ([], 0) =
      .ok (List.replicate blank [] ++ full, r) := by
    rw [foldlM_readLine parsed]
    exact (foldlM_readRow_zero positive).mpr ⟨blank, full, rfl, some, lengths⟩
  have stop : readLine float (List.replicate blank [] ++ full, r) line =
      .error (.exception
        ("Invalid input at line " ++ toString (blank + full.length + 1))) := by
    rw [readLine_eq, own]
    change readRow _ values = _
    rw [readRow, if_neg (Nat.ne_of_gt positive), if_pos (Ne.symm other), place]
  unfold init
  -- The lines after it are not read.
  rw [List.foldlM_append, read]
  change (readLine float _ line >>= _) >>= _ = _
  rw [stop]
  rfl

variable (float inputFile) in
/-- The files that are accepted, and the line that is reported of another file.  Accepted are
lines of numbers, a power of two of them and at least two, that have as many words each; only
before the first line with words there may be empty lines, which count as lines.  The first line
with another number of words is reported with its number, whatever comes after it. -/
theorem init_accepts :
    (∀ infile self, init float inputFile infile = .ok self ↔
      ∃ data, infile.mapM (fun line => (words line).mapM float) = some data ∧
        (∃ blank full, data = List.replicate blank [] ++ full ∧ full ≠ [] ∧
          ∀ values ∈ full, values.length = self.r) ∧
        0 < self.r ∧ 0 < self.k ∧ data.length = 2 ^ self.k ∧
        self = fresh data self.k self.r) ∧
    ∀ before line rest blank full values (r : Nat), full ≠ [] → 0 < r →
      before.mapM (fun line => (words line).mapM float) =
        some (List.replicate blank [] ++ full) →
      (∀ values ∈ full, values.length = r) →
      (words line).mapM float = some values → values.length ≠ r →
      init float inputFile (before ++ line :: rest) =
        .error (.exception
          ("Invalid input at line " ++ toString (blank + full.length + 1))) := by
  refine ⟨fun infile => init_ok_iff, ?_⟩
  intro before line rest blank full values r some positive parsed lengths own other
  exact init_invalid_line parsed some positive lengths own other

/-- An empty line before one of two numbers is accepted; of a file with a shorter second line
that line is reported, though the third one is no number. -/
theorem init_accepts_lines :
    init digits "lines" [[], ['3', ' ', '4']] = .ok (fresh [[], [3, 4]] 1 2) ∧
      init digits "lines" [['1', ' ', '2'], ['3'], ['x']] =
        .error (.exception "Invalid input at line 2") :=
  ⟨((init_accepts digits "lines").1 _ _).mpr
      ⟨[[], [3, 4]], by decide +kernel, ⟨1, [[3, 4]], rfl, by decide, by decide⟩,
        by decide, by decide, rfl, rfl⟩,
    (init_accepts digits "lines").2 [['1', ' ', '2']] ['3'] [['x']] 0 [[1, 2]] [3] 2
      (by decide) (by decide) (by decide +kernel) (by decide) (by decide +kernel) (by decide)⟩

end Accepted

/-! ## Files that are written by other scripts -/

section Written

variable [Field K] {float : List Char → Option K} {format : K → List Char}
  {data : List (List K)} {k r : Nat} {inputFile : String}
  (readsBack : ∀ values ∈ data, ∀ value ∈ values, ReadsBack float format value)
  (balanced : Balanced data k r) (factors : 0 < k) (replicas : 0 < r)

include readsBack balanced factors replicas

/-- The numbers of a file are those that were written. -/
theorem init_of_words {line : List K → List Char}
    (written : ∀ values ∈ data, words (line values) = values.map format) :
    init float inputFile (data.map line) = .ok (fresh data k r) := by
  have parsed : (data.map line).mapM (fun line => (words line).mapM float) = some data := by
    clear balanced
    induction data with
    | nil => rfl
    | cons values rest ih =>
        obtain ⟨first, others⟩ := List.forall_mem_cons.mp readsBack
        obtain ⟨own, more⟩ := List.forall_mem_cons.mp written
        have numbers : (words (line values)).mapM float = some values := by
          rw [own]
          exact mapM_words first
        exact mapM_cons_eq_some.mpr ⟨values, rest, numbers, ih others more, rfl⟩
  have some : data ≠ [] := by
    rintro rfl
    have size := balanced.length
    have positive := Nat.two_pow_pos k
    rw [List.length_nil] at size
    omega
  exact (init_ok_iff (fresh data k r)).mpr ⟨data, parsed,
    ⟨0, data, rfl, some, balanced.row⟩, replicas, factors, balanced.length, rfl⟩

theorem init_savetxt :
    init float inputFile (data.map (savetxtLine format)) = .ok (fresh data k r) :=
  init_of_words readsBack balanced factors replicas fun values member =>
    words_savetxtLine (readsBack values member)

theorem init_random :
    init float inputFile (data.map (randomLine format)) = .ok (fresh data k r) :=
  init_of_words readsBack balanced factors replicas fun values member =>
    words_randomLine (readsBack values member)

end Written

end Observations

end AirTrafficControl.Results
