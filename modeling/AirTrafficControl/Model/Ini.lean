import AirTrafficControl.Model.Run
import Mathlib.Algebra.Order.Ring.Rat
import Mathlib.Data.Nat.Cast.Order.Ring

/-!
# The configurations of `omnetpp.ini`

The keys of the initialization file that fix how a run is simulated: the resolution of
the clock, the two regimes, and the assignment of random number streams.  A `rng-N` key
applies to a module when its pattern matches the full path of the module, the first such
key wins, and without one local stream `N` is global stream `N`.
-/

namespace AirTrafficControl

namespace Ini

/-- The names of the network and of its modules in the NED files. -/
inductive Name where
  | airTrafficControl
  | airport
  | airspace
  | parkingarea
  deriving DecidableEq, Repr

/-- The full path of a module in the network. -/
def fullPath : SimpleModule → List Name
  | .airspace => [.airTrafficControl, .airspace]
  | .parkingArea => [.airTrafficControl, .airport, .parkingarea]

/-- One dot-separated part of a pattern. -/
inductive Part where
  | name (name : Name)
  /-- `*`, any one name -/
  | star
  /-- `**`, any names -/
  | doubleStar
  deriving DecidableEq, Repr

/-- A pattern has to match the whole path. -/
def fits : List Part → List Name → Bool
  | [], [] => true
  | [], _ :: _ => false
  | .name _ :: _, [] => false
  | .name expected :: parts, name :: names =>
      decide (expected = name) && fits parts names
  | .star :: _, [] => false
  | .star :: parts, _ :: names => fits parts names
  | .doubleStar :: _, [] => false
  | .doubleStar :: parts, _ :: names =>
      fits parts names || fits (.doubleStar :: parts) names

/-- A key `pattern.rng-N = M`: local stream `N` is global stream `M`. -/
structure RngKey where
  pattern : List Part
  localRng : Nat
  globalRng : Nat

/-- The global stream that a list of keys assigns to a local stream of a module. -/
def rngMapping (keys : List RngKey) (module : SimpleModule) (rng : Nat) : Nat :=
  match keys.find? fun key =>
      key.localRng = rng && fits key.pattern (fullPath module) with
  | some key => key.globalRng
  | none => rng

/-- The four keys under "RNG Management". -/
def rngKeys : List RngKey :=
  [⟨[.name .airspace], 0, 0⟩, ⟨[.name .airspace], 1, 1⟩,
    ⟨[.name .parkingarea], 0, 2⟩, ⟨[.name .parkingarea], 1, 3⟩]

/-- `simtime-resolution = ms`: seconds, rounded to whole milliseconds. -/
def simtime (seconds : ℚ) : Int :=
  (seconds.num * 2000 + seconds.den : Int) / (2 * seconds.den : Int)

theorem simtime_nonneg {seconds : ℚ} (nonneg : 0 ≤ seconds) : 0 ≤ simtime seconds := by
  have numerator : 0 ≤ seconds.num := Rat.num_nonneg.mpr nonneg
  unfold simtime
  apply Int.ediv_nonneg
  · omega
  · exact Int.natCast_nonneg (2 * seconds.den)

/-- The simulator with the clock and the streams of the file, for a given generator of
exponential variates. -/
def simulator (exponential : ℚ → Nat → Nat → ℚ)
    (nonneg : ∀ {mean : ℚ} (rng draw : Nat), 0 ≤ mean → 0 ≤ exponential mean rng draw) :
    Omnetpp where
  simtime := simtime
  simtime_nonneg := simtime_nonneg
  simtime_minus_one := by decide
  exponential
  exponential_nonneg := nonneg
  rngMapping := rngMapping rngKeys
  intBits := 32
  intBits_ge := le_rfl

/-- `[Config DeterministicRegime]` with whole numbers of seconds. -/
def deterministicRegime (interArrivalTime landingTime parkingTime takeoffTime : Nat)
    (totalSamples : Int) (warmup : Nat) : Parameters where
  isInterArrivalTimeRandom := false
  isLandingTimeRandom := false
  isParkingTimeRandom := false
  isTakeoffTimeRandom := false
  interArrivalTime := interArrivalTime
  landingTime := landingTime
  parkingTime := parkingTime
  takeoffTime := takeoffTime
  totalSamples
  warmup := warmup
  scaling := 1
  interArrivalTime_nonneg := Nat.cast_nonneg _
  landingTime_nonneg := Nat.cast_nonneg _
  parkingTime_nonneg := Nat.cast_nonneg _
  takeoffTime_nonneg := Nat.cast_nonneg _

/-- `[Config ExponentialRegime]` with whole numbers of seconds. -/
def exponentialRegime (interArrivalTime landingTime parkingTime takeoffTime : Nat)
    (totalSamples : Int) (warmup : Nat) : Parameters :=
  { deterministicRegime interArrivalTime landingTime parkingTime takeoffTime totalSamples
      warmup with
    isInterArrivalTimeRandom := true
    isLandingTimeRandom := true
    isParkingTimeRandom := true
    isTakeoffTimeRandom := true }

/-- A run of the deterministic regime, which draws no random numbers. -/
def deterministic (interArrivalTime landingTime parkingTime takeoffTime : Nat)
    (totalSamples : Int) (warmup : Nat) : Config where
  sim := simulator (fun mean _ _ => mean) fun _ _ nonneg => nonneg
  par := deterministicRegime interArrivalTime landingTime parkingTime takeoffTime
    totalSamples warmup

end Ini

end AirTrafficControl
