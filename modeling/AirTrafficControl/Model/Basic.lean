import Mathlib.Data.Rat.Defs
import Mathlib.Algebra.Group.Nat.Defs
import Mathlib.Algebra.Order.Ring.Unbundled.Rat

/-!
# Airplanes, events and parameters of the air traffic network

The data the three simple modules `Airspace`, `ParkingArea` and `ControlTower`
exchange: the `Airplane` message of `Airplane.msg`, its envelope in the event set of
OMNeT++, the declared signals, and the parameters of the NED files and of
`omnetpp.ini`.

A `simtime_t` is a whole number of ticks, here an `Int`.  The code reserves negative
values for `getMaxQueueTime()` on an empty queue.

OMNeT++ itself is not part of the repository.  What the code relies on (the
conversion of a `double` to `simtime_t`, the random variates, the assignment of
random number streams, the width of an `int`) is a parameter of the model, `Omnetpp`.
-/

namespace AirTrafficControl

/-- The two simple modules that handle messages.  `ControlTower` has no gates and is
reached by direct calls only. -/
inductive SimpleModule where
  | airspace
  | parkingArea
  deriving DecidableEq, Repr

/-- The module at the other end of the gate "out" (`AirTrafficControl.ned` and
`Airport.ned`). -/
def SimpleModule.out : SimpleModule → SimpleModule
  | .airspace => .parkingArea
  | .parkingArea => .airspace

/-- The `Airplane` message.  `id` stands for the identity of the object, `timestamp` is
the user-defined field of `cMessage`. -/
structure Airplane where
  id : Nat
  timestamp : Int := 0
  queueArrivalTime : Int := 0
  deriving DecidableEq, Repr

/-- A message in the event set: the airplane together with its arrival time, the module
it arrives at, and whether that module sent it to itself. -/
structure Event where
  time : Int
  module : SimpleModule
  isSelfMessage : Bool
  airplane : Airplane
  deriving DecidableEq, Repr

/-- The four roles of a message.  The handlers tell them apart by the module they run in
and by `isSelfMessage()`. -/
inductive Kind where
  | arrival
  | landing
  | parking
  | takeoff
  deriving DecidableEq, Repr

/-- The role of a pending message. -/
def Event.kind (event : Event) : Kind :=
  match event.module, event.isSelfMessage with
  | .airspace, true => .arrival
  | .airspace, false => .takeoff
  | .parkingArea, true => .parking
  | .parkingArea, false => .landing

section Kinds

variable (time : Int) (airplane : Airplane)

@[simp] theorem kind_arrival : Event.kind ⟨time, .airspace, true, airplane⟩ = .arrival :=
  rfl

@[simp] theorem kind_takeoff : Event.kind ⟨time, .airspace, false, airplane⟩ = .takeoff :=
  rfl

@[simp] theorem kind_parking :
    Event.kind ⟨time, .parkingArea, true, airplane⟩ = .parking := rfl

@[simp] theorem kind_landing :
    Event.kind ⟨time, .parkingArea, false, airplane⟩ = .landing := rfl

end Kinds

/-- The signals of the NED files. -/
inductive Signal where
  | holdingQueueSize
  | holdingQueueWaitingTime
  | airportResponseTime
  | totalSimtime
  | runwayUse
  | parkedPlanes
  | departQueueSize
  | departQueueWaitingTime
  deriving DecidableEq, Repr

/-- The calls of the handlers that can be observed from outside. -/
inductive Call where
  /-- `controlTower->notify()` -/
  | notify
  /-- `sendDelayed(airplane, delay, "out")` -/
  | sendDelayed (delay : Int)
  /-- `scheduleAt(time, airplane)` -/
  | scheduleAt (time : Int)
  /-- `emit(signal, value)` -/
  | emit (signal : Signal) (value : Int)
  /-- `delete(airplane)` -/
  | delete
  /-- `endSimulation()` -/
  | endSimulation
  deriving DecidableEq, Repr

/-- One entry of the trace of a run: who called what, when, and for which airplane. -/
structure Record where
  time : Int
  module : SimpleModule
  plane : Nat
  call : Call
  deriving DecidableEq, Repr

/-- What the model takes from OMNeT++ and the compiler. -/
structure Omnetpp where
  /-- Conversion of a `double` in seconds to `simtime_t`. -/
  simtime : ℚ → Int
  simtime_nonneg : ∀ {seconds : ℚ}, 0 ≤ seconds → 0 ≤ simtime seconds
  simtime_minus_one : simtime (-1) < 0
  /-- `exponential mean rng n` is the variate computed from the `n`-th draw of the
  global random number stream `rng`. -/
  exponential : ℚ → Nat → Nat → ℚ
  exponential_nonneg : ∀ {mean : ℚ} (rng draw : Nat), 0 ≤ mean →
    0 ≤ exponential mean rng draw
  /-- The global stream behind a local one, fixed by the `rng-N` keys. -/
  rngMapping : SimpleModule → Nat → Nat
  /-- The number of bits of an `int`. -/
  intBits : Nat
  intBits_ge : 32 ≤ intBits

/-- The parameters of `Airspace.ned` and `ParkingArea.ned`.  Mean times are not
negative. -/
structure Parameters where
  isInterArrivalTimeRandom : Bool
  isLandingTimeRandom : Bool
  isParkingTimeRandom : Bool
  isTakeoffTimeRandom : Bool
  interArrivalTime : ℚ
  landingTime : ℚ
  parkingTime : ℚ
  takeoffTime : ℚ
  /-- The integer of the NED file, which is wider than an `int`. -/
  totalSamples : Int
  warmup : ℚ
  scaling : ℚ
  interArrivalTime_nonneg : 0 ≤ interArrivalTime
  landingTime_nonneg : 0 ≤ landingTime
  parkingTime_nonneg : 0 ≤ parkingTime
  takeoffTime_nonneg : 0 ≤ takeoffTime

/-- A simulation: the simulator and the parameters of the network. -/
structure Config where
  sim : Omnetpp
  par : Parameters

namespace Config

/-- The member `totalSamples` of `Airspace`.  It is an `int`, so the assignment
`totalSamples = par("totalSamples")` keeps the low bits of the parameter. -/
def totalSamples (config : Config) : Int :=
  config.par.totalSamples.bmod (2 ^ config.sim.intBits)

variable (config : Config)

theorem two_pow_intBits :
    2 ^ config.sim.intBits = 2 * 2 ^ (config.sim.intBits - 1) := by
  have wide := config.sim.intBits_ge
  rw [← Nat.pow_succ']
  congr 1
  omega

theorem totalSamples_lt : config.totalSamples < 2 ^ (config.sim.intBits - 1) := by
  have bounded : config.totalSamples < ((2 ^ config.sim.intBits : Nat) + 1 : Int) / 2 :=
    Int.bmod_lt (Nat.two_pow_pos _)
  rw [two_pow_intBits] at bounded
  push_cast at bounded
  omega

/-- A parameter that fits an `int` is kept. -/
theorem totalSamples_eq (least : -2 ^ (config.sim.intBits - 1) ≤ config.par.totalSamples)
    (fits : config.par.totalSamples < 2 ^ (config.sim.intBits - 1)) :
    config.totalSamples = config.par.totalSamples := by
  apply Int.bmod_eq_of_le_mul_two <;> (rw [two_pow_intBits]; push_cast; omega)

/-- In particular the positive ones of fewer than 32 bits. -/
theorem totalSamples_eq_of_lt (least : 0 ≤ config.par.totalSamples)
    (fits : config.par.totalSamples < 2 ^ 31) :
    config.totalSamples = config.par.totalSamples := by
  have wide : (2 : Int) ^ 31 ≤ 2 ^ (config.sim.intBits - 1) := by
    exact_mod_cast Nat.pow_le_pow_right Nat.two_pos (Nat.le_sub_one_of_lt config.sim.intBits_ge)
  apply totalSamples_eq <;> omega

end Config

/-! ## Durations -/

/-- One of the places in the code that compute a duration: a flag that selects between
a constant and an exponential variate, the constant or mean, and the local random number
stream of the module. -/
structure Timing where
  random : Bool
  mean : ℚ
  module : SimpleModule
  rng : Nat
  mean_nonneg : 0 ≤ mean

namespace Parameters

/-- `nextArrival` in `Airspace::initialize` and `Airspace::handleMessage`. -/
def interArrival (par : Parameters) : Timing :=
  ⟨par.isInterArrivalTimeRandom, par.interArrivalTime, .airspace, 0,
    par.interArrivalTime_nonneg⟩

/-- `nextLandingTime` in `Airspace::handleMessage` and `Airspace::go`. -/
def landing (par : Parameters) : Timing :=
  ⟨par.isLandingTimeRandom, par.landingTime, .airspace, 1, par.landingTime_nonneg⟩

/-- `nextParkingTime` in `ParkingArea::handleMessage`. -/
def parking (par : Parameters) : Timing :=
  ⟨par.isParkingTimeRandom, par.parkingTime, .parkingArea, 0, par.parkingTime_nonneg⟩

/-- `nextTakeoffTime` in `ParkingArea::handleMessage` and `ParkingArea::go`. -/
def takeoff (par : Parameters) : Timing :=
  ⟨par.isTakeoffTimeRandom, par.takeoffTime, .parkingArea, 1, par.takeoffTime_nonneg⟩

end Parameters

namespace Omnetpp

/-- The duration a piece of code computes when the global streams have been read
`draws` times. -/
def duration (sim : Omnetpp) (timing : Timing) (draws : Nat → Nat) : Int :=
  if timing.random then
    let rng := sim.rngMapping timing.module timing.rng
    sim.simtime (sim.exponential timing.mean rng (draws rng))
  else
    sim.simtime timing.mean

/-- The positions of the global streams after the computation of a duration. -/
def advance (sim : Omnetpp) (timing : Timing) (draws : Nat → Nat) : Nat → Nat :=
  if timing.random then
    let rng := sim.rngMapping timing.module timing.rng
    Function.update draws rng (draws rng + 1)
  else
    draws

theorem duration_nonneg (sim : Omnetpp) (timing : Timing) (draws : Nat → Nat) :
    0 ≤ sim.duration timing draws := by
  unfold duration
  split
  · exact sim.simtime_nonneg (sim.exponential_nonneg _ _ timing.mean_nonneg)
  · exact sim.simtime_nonneg timing.mean_nonneg

/-- A duration whose flag is off is the constant of the parameter. -/
theorem duration_of_constant (sim : Omnetpp) {timing : Timing}
    (constant : timing.random = false) (draws : Nat → Nat) :
    sim.duration timing draws = sim.simtime timing.mean := by
  simp [duration, constant]

end Omnetpp

end AirTrafficControl
