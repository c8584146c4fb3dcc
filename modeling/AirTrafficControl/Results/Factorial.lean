import AirTrafficControl.Library.Dictionary
import AirTrafficControl.Results.Parity
import Mathlib.Data.List.Sort
import Mathlib.Algebra.Order.Field.Basic
import Mathlib.Data.Nat.Cast.Order.Field

/-!
# The factorial analysis

The class `Observations` of `factorial2kr.py` and the script around it, in exact arithmetic.
A file is the list of its lines.  What the script takes from libraries is a parameter: the
conversion of a word to a number, the square root, and from `scipy.stats` the interval of the
t distribution and the quantiles of the normal distribution.
-/

namespace AirTrafficControl.Results

universe u

/-- The exceptions that stop `factorial2kr.py`. -/
inductive Failure where
  | exception (message : String)
  | valueError
  | zeroDivisionError
  deriving DecidableEq

/-- What a script prints or fails with. -/
abbrev Outcome := Except Failure

/-- The members of the class `Observations` that an analysis reads and fills. -/
structure Observations (K : Type u) where
  sse : K
  effects : List K
  ssEffects : List K
  sst : K
  ssy : K
  stdDev : K
  /-- A dictionary, in the order in which its keys are inserted. -/
  residuals : List (K × List K)
  /-- A dictionary whose keys are the numbers of the lines. -/
  data : List (List K)
  k : Nat
  r : Nat

/-! ## Letters and signs -/

/-- `Observations.number_to_letter`. -/
def numberToLetter (number k : Nat) : List Char :=
  (List.range k).filterMap fun pos =>
    if number &&& (1 <<< pos) ≠ 0 then some (Char.ofNat ('A'.toNat + pos)) else none

/-- `Observations.sign_table`, line by line. -/
def signTable (k : Nat) : List (List Char) :=
  (List.range k).flatMap (fun pos => numberToLetter (1 <<< pos) k) ::
    (signMatrix k).map fun values =>
      (List.range k).map fun col => if 0 < values.getD (2 ^ col) 0 then '+' else '-'

/-! ## The input -/

/-- The characters at which `str.split()` splits. -/
def isSpace (letter : Char) : Bool :=
  letter.toNat ∈ [9, 10, 11, 12, 13, 28, 29, 30, 31, 32, 133, 160, 5760, 8192, 8193, 8194,
    8195, 8196, 8197, 8198, 8199, 8200, 8201, 8202, 8232, 8233, 8239, 8287, 12288]

/-- `line.rstrip().split()`. -/
def words (line : List Char) : List (List Char) :=
  (line.splitOnP isSpace).filter fun word => word ≠ []

/-- `int(round(math.log2(cnt)))` of a positive number. -/
def roundLog2 (cnt : Nat) : Nat := Nat.log2 (2 * cnt ^ 2) / 2

namespace Observations

variable {K : Type u} [Field K]

/-- The members before the analysis. -/
def fresh (data : List (List K)) (k r : Nat) : Observations K where
  sse := 0
  effects := []
  ssEffects := []
  sst := 0
  ssy := 0
  stdDev := 0
  residuals := []
  data
  k
  r

/-- One line of the file, for the dictionary `data` and the member `r`. -/
def readLine (float : List Char → Option K) (read : List (List K) × Nat) (line : List Char) :
    Outcome (List (List K) × Nat) :=
  match (words line).mapM float with
  | none => .error .valueError
  | some values =>
      let (data, r) := read
      if r = 0 then
        .ok (data ++ [values], values.length)
      else if r ≠ values.length then
        .error (.exception ("Invalid input at line " ++ toString (data.length + 1)))
      else
        .ok (data ++ [values], r)

/-- `Observations.__init__`.  There is no logarithm of zero. -/
def init (float : List Char → Option K) (inputFile : String) (infile : List (List Char)) :
    Outcome (Observations K) := do
  let (data, r) ← infile.foldlM (readLine float) ([], 0)
  let cnt := data.length
  if cnt = 0 then
    throw .valueError
  let k := roundLog2 cnt
  if r = 0 ∨ k = 0 ∨ 2 ^ k ≠ cnt then
    throw (.exception ("Invalid observations from " ++ inputFile))
  return fresh data k r

/-! ## The analysis -/

section Analyze

variable [DecidableEq K]

/-- A division of numbers. -/
def divide (x y : K) : Outcome K := if y = 0 then .error .zeroDivisionError else .ok (x / y)

/-- `residuals[y].append(err)`, where a new key gets an empty list first. -/
def appendResidual (y err : K) (residuals : List (K × List K)) : List (K × List K) :=
  Dictionary.append y err residuals

/-- The inner loop that computes the squared errors and saves the residuals. -/
def addErrors (self : Observations K) (y : K) (values : List K) : Observations K :=
  values.foldl (fun self v => { self with
    sse := self.sse + (v - y) ^ 2
    residuals := appendResidual y (v - y) self.residuals }) self

/-- The loop over the rows that surrounds it. -/
def addRows (self : Observations K) (estimatedResponse : List K) : Observations K :=
  (estimatedResponse.zip self.data).foldl (fun self (y, values) => self.addErrors y values) self

/-- The loop that computes the effect of a column. -/
def effect (signs : List (List Int)) (estimatedResponse : List K) (k col : Nat) : K :=
  (List.range (2 ^ k)).foldl (fun effect row =>
    effect + estimatedResponse.getD row 0 * (entry signs row col : Int)) 0 / (2 ^ k : Nat)

/-- The effects and the sums of squares.  Every row and every column is there. -/
def addEffects (self : Observations K) (estimatedResponse : List K) : Observations K :=
  let signs := signMatrix self.k
  let effects := (List.range (2 ^ self.k)).map (effect signs estimatedResponse self.k)
  let ssEffects := effects.map fun effect =>
    ((2 ^ self.k * self.r : Nat) : K) * effect ^ 2
  let ssy := ssEffects.foldl (fun ssy ss => ssy + ss) self.ssy + self.sse
  let sst := ssy - ssEffects.headD 0
  { self with effects, ssEffects, ssy, sst }

/-- `Observations.analyze`. -/
def analyze (sqrt : K → K) (self : Observations K) : Outcome (Observations K) := do
  let estimatedResponse ← self.data.mapM fun values =>
    divide (values.foldl (fun total v => total + v) 0) self.r
  let self := (self.addRows estimatedResponse).addEffects estimatedResponse
  let variance ← divide self.sse ((self.r * (self.r - 1) : Nat) : K)
  return { self with stdDev := sqrt variance / (2 ^ self.k : Nat) }

end Analyze

/-! ## The output -/

section Output

variable [LinearOrder K]

/-- One line of the summary: an effect, the squared sum of it, its share of the total variation
(but for the mean), the bounds of its confidence interval, if these are numbers, and whether the
line is marked with a warning. -/
structure EffectLine (K : Type u) where
  letters : List Char
  effect : K
  ssEffect : K
  relativeImportance : Option K
  interval : Option (K × K)
  zeroCross : Bool

/-- The summary: the first four lines, with the share of the errors, and the effects. -/
structure Summary (K : Type u) where
  ssy : K
  sst : K
  sse : K
  sseShare : K
  stdDev : K
  effects : List (EffectLine K)

/-- A round of the loop of `print_summary`, for the effect of a column.  The function `interval`
is `t.interval` with the confidence level of the script; its bounds may be no numbers. -/
def effectLine (interval : Nat → K → K → Option (K × K)) (self : Observations K)
    (ndx : Nat) : Outcome (EffectLine K) := do
  let letters := numberToLetter ndx self.k
  let letters := if letters = [] then ['0'] else letters
  let effect := self.effects.getD ndx 0
  let ssEffect := self.ssEffects.getD ndx 0
  let relativeImportance ← if 0 < ndx then some <$> divide ssEffect self.sst else pure none
  let ci := interval (2 ^ self.k * (self.r - 1)) effect self.stdDev
  return {
    letters, effect, ssEffect, relativeImportance
    interval := ci
    zeroCross := ci.any fun (low, high) => low < 0 ∧ 0 < high }

/-- The lines that are printed with `--brief`: the mean and the effects that explain a tenth of
the variation. -/
def EffectLine.important (line : EffectLine K) : Bool :=
  line.relativeImportance.all fun share => ((1 : Nat) : K) / ((10 : Nat) : K) ≤ share

/-- `Observations.print_summary`, and `print_latex` but for the layout. -/
def printSummary (interval : Nat → K → K → Option (K × K)) (brief : Bool)
    (self : Observations K) : Outcome (Summary K) := do
  let sseShare ← divide self.sse self.sst
  let lines ← (List.range (2 ^ self.k)).mapM (effectLine interval self)
  return {
    ssy := self.ssy, sst := self.sst, sse := self.sse, sseShare, stdDev := self.stdDev
    effects := lines.filter fun line => !brief || line.important }

/-- `Observations.save_residuals`: the lines of the file. -/
def saveResiduals (self : Observations K) : List (K × K) :=
  self.residuals.flatMap fun (y, residuals) => residuals.map fun err => (y, err)

/-- The number `a` in the formula for the quantiles. -/
def plottingPosition (n : Nat) : K :=
  if n ≤ 10 then ((3 : Nat) : K) / ((8 : Nat) : K) else ((1 : Nat) : K) / ((2 : Nat) : K)

/-- The argument of `norm.ppf` for the quantile `i` of `n`. -/
def probability (n i : Nat) : K :=
  (i - plottingPosition n) / (n + 1 - (plottingPosition n + plottingPosition n))

/-- `Observations.save_qqnorm`: the lines of the file. -/
def saveQqnorm (ppf : K → K) (self : Observations K) : List (K × K) :=
  let residuals := (self.residuals.flatMap Prod.snd).insertionSort (· ≤ ·)
  let n := residuals.length
  let quantiles := (List.range' 1 n).map fun i => ppf (probability n i)
  residuals.zip quantiles

end Output

end Observations

/-! ## The script -/

section Script

variable {K : Type u} [Field K] [LinearOrder K]

/-- What the script takes from libraries. -/
structure Libraries (K : Type u) where
  float : List Char → Option K
  sqrt : K → K
  interval : Nat → K → K → Option (K × K)
  ppf : K → K

/-- What a run leaves: the summary and the two files. -/
structure Report (K : Type u) where
  summary : Observations.Summary K
  residuals : List (K × K)
  qqnorm : List (K × K)

/-- The main body, for the output type "text" and with the names of both files. -/
def script (libraries : Libraries K) (brief : Bool) (inputFile : String)
    (infile : List (List Char)) : Outcome (Report K) := do
  let observations ← Observations.init libraries.float inputFile infile
  let observations ← observations.analyze libraries.sqrt
  let summary ← observations.printSummary libraries.interval brief
  return {
    summary
    residuals := observations.saveResiduals
    qqnorm := observations.saveQqnorm libraries.ppf }

/-- `Observations.print_random`: the lines that are printed.  The number `random n` is what the
call `n` of `random.random()` returns. -/
def printRandom (random : Nat → K) (k r : Nat) (realEffects : List Char) : List (List K) :=
  (signMatrix k).zipIdx.map fun (values, row) =>
    let coeffs : List K := (List.range k).map fun col =>
      if numberToLetter (2 ^ col) k <:+: realEffects ∧ 0 < values.getD (2 ^ col) 0 then 1
      else 0
    (List.range r).map fun replica =>
      coeffs.zipIdx.foldl (fun value (c, col) =>
        value + (c * ((10 : Nat) : K) + random ((row * r + replica) * k + col))) 0

end Script

end AirTrafficControl.Results
