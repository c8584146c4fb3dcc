import AirTrafficControl.Model.Basic

/-!
# The network and its handlers

The state of a run and the member functions of `ControlTower`, `Airspace` and
`ParkingArea`, translated statement by statement.  The members of the three classes and
the part of OMNeT++ they act on (clock, event set, random number streams) are fields of
one record, since the modules call each other directly.

The fields `trace` and `occupancy` are not part of the program.  They record the calls a
run makes and the assignments to `landingStripOccupied`, latest first, and are never read
by the functions below.
-/

namespace AirTrafficControl

/-- The state of the network between two statements. -/
structure Network where
  /-- `simTime()` -/
  simTime : Int
  /-- The event set, in the order of the calls that filled it. -/
  futureEvents : List Event
  /-- How often each global random number stream has been read. -/
  rngDraws : Nat → Nat
  /-- How many airplanes `new Airplane()` has made. -/
  created : Nat
  /-- `endSimulation()` has been called. -/
  ended : Bool
  warmupPeriod : Int
  -- class ControlTower
  landingStripOccupied : Bool
  -- class Airspace
  departedPlanes : Int
  nextArrival : Int
  nextLandingTime : Int
  holdingQueue : List Airplane
  -- class ParkingArea
  numParked : Int
  nextParkingTime : Int
  nextTakeoffTime : Int
  departQueue : List Airplane
  -- the record of the run
  trace : List Record
  occupancy : List (Int × Bool)

namespace Network

/-- The network before any module is initialized. -/
def blank : Network where
  simTime := 0
  futureEvents := []
  rngDraws := fun _ => 0
  created := 0
  ended := false
  warmupPeriod := 0
  landingStripOccupied := false
  departedPlanes := 0
  nextArrival := 0
  nextLandingTime := 0
  holdingQueue := []
  numParked := 0
  nextParkingTime := 0
  nextTakeoffTime := 0
  departQueue := []
  trace := []
  occupancy := []

/-- Note down a call. -/
def record (module : SimpleModule) (airplane : Airplane) (call : Call)
    (state : Network) : Network :=
  { state with trace := ⟨state.simTime, module, airplane.id, call⟩ :: state.trace }

/-- `emit(signal, value)`, while the module handles `airplane`. -/
def emit (module : SimpleModule) (signal : Signal) (value : Int) (airplane : Airplane)
    (state : Network) : Network :=
  state.record module airplane (.emit signal value)

/-- `sendDelayed(airplane, delay, "out")`.  The connections have no delay of their
own. -/
def sendDelayed (module : SimpleModule) (airplane : Airplane) (delay : Int)
    (state : Network) : Network :=
  let state := state.record module airplane (.sendDelayed delay)
  { state with
    futureEvents := state.futureEvents ++
      [⟨state.simTime + delay, module.out, false, airplane⟩] }

/-- `scheduleAt(time, airplane)`. -/
def scheduleAt (module : SimpleModule) (time : Int) (airplane : Airplane)
    (state : Network) : Network :=
  let state := state.record module airplane (.scheduleAt time)
  { state with futureEvents := state.futureEvents ++ [⟨time, module, true, airplane⟩] }

/-- `new Airplane()`. -/
def newAirplane (state : Network) : Airplane × Network :=
  ({ id := state.created }, { state with created := state.created + 1 })

/-- `if(is…Random) next… = exponential(mean, rng); else next… = mean;` -/
def sample (sim : Omnetpp) (timing : Timing) (state : Network) : Int × Network :=
  (sim.duration timing state.rngDraws,
    { state with rngDraws := sim.advance timing state.rngDraws })

/-- The removal of an event from the event set, which moves the clock to its time. -/
def take (event : Event) (state : Network) : Network :=
  { state with
    simTime := event.time
    futureEvents := state.futureEvents.erase event }

/-- `endSimulation()`. -/
def endSimulation (module : SimpleModule) (airplane : Airplane) (state : Network) :
    Network :=
  { state.record module airplane .endSimulation with ended := true }

/-- An assignment to `landingStripOccupied`. -/
def setOccupied (occupied : Bool) (state : Network) : Network :=
  { state with
    landingStripOccupied := occupied
    occupancy := (state.simTime, occupied) :: state.occupancy }

end Network

variable (config : Config)

namespace Airspace

/-- `Airspace::getMaxQueueTime`. -/
def getMaxQueueTime (state : Network) : Int :=
  match state.holdingQueue with
  | [] => config.sim.simtime (-1)
  | airplane :: _ => airplane.queueArrivalTime

/-- The statements that start a landing, the same in `handleMessage` and `go`. -/
def land (airplane : Airplane) (state : Network) : Network :=
  let (nextLandingTime, state) := state.sample config.sim config.par.landing
  let state := { state with nextLandingTime }
  let state := state.sendDelayed .airspace airplane nextLandingTime
  state.emit .airspace .runwayUse nextLandingTime airplane

theorem land_eq (airplane : Airplane) (state : Network) :
    land config airplane state =
      let duration := config.sim.duration config.par.landing state.rngDraws
      { state with
        rngDraws := config.sim.advance config.par.landing state.rngDraws
        nextLandingTime := duration
        futureEvents := state.futureEvents ++
          [⟨state.simTime + duration, .parkingArea, false, airplane⟩]
        trace :=
          ⟨state.simTime, .airspace, airplane.id, .emit .runwayUse duration⟩ ::
          ⟨state.simTime, .airspace, airplane.id, .sendDelayed duration⟩ ::
          state.trace } := rfl

/-- `Airspace::go`.  `cQueue::pop()` on an empty queue is a run-time error. -/
def go (state : Network) : Option Network :=
  match state.holdingQueue with
  | [] => none
  | airplane :: holdingQueue =>
      let state := { state with holdingQueue }
      let state := state.emit .airspace .holdingQueueWaitingTime
        (state.simTime - airplane.queueArrivalTime) airplane
      let state := state.emit .airspace .holdingQueueSize state.holdingQueue.length
        airplane
      some (land config airplane state)

end Airspace

namespace ParkingArea

/-- `ParkingArea::getMaxQueueTime`. -/
def getMaxQueueTime (state : Network) : Int :=
  match state.departQueue with
  | [] => config.sim.simtime (-1)
  | airplane :: _ => airplane.queueArrivalTime

/-- The statements that start a take-off, the same in `handleMessage` and `go`. -/
def takeOff (airplane : Airplane) (state : Network) : Network :=
  let (nextTakeoffTime, state) := state.sample config.sim config.par.takeoff
  let state := { state with nextTakeoffTime }
  let state := state.sendDelayed .parkingArea airplane nextTakeoffTime
  state.emit .parkingArea .runwayUse nextTakeoffTime airplane

theorem takeOff_eq (airplane : Airplane) (state : Network) :
    takeOff config airplane state =
      let duration := config.sim.duration config.par.takeoff state.rngDraws
      { state with
        rngDraws := config.sim.advance config.par.takeoff state.rngDraws
        nextTakeoffTime := duration
        futureEvents := state.futureEvents ++
          [⟨state.simTime + duration, .airspace, false, airplane⟩]
        trace :=
          ⟨state.simTime, .parkingArea, airplane.id, .emit .runwayUse duration⟩ ::
          ⟨state.simTime, .parkingArea, airplane.id, .sendDelayed duration⟩ ::
          state.trace } := rfl

/-- `ParkingArea::go`. -/
def go (state : Network) : Option Network :=
  match state.departQueue with
  | [] => none
  | airplane :: departQueue =>
      let state := { state with departQueue }
      let state := state.emit .parkingArea .departQueueWaitingTime
        (state.simTime - airplane.queueArrivalTime) airplane
      let state := state.emit .parkingArea .departQueueSize state.departQueue.length
        airplane
      some (takeOff config airplane state)

end ParkingArea

namespace ControlTower

/-- `ControlTower::notify`. -/
def notify (state : Network) : Bool × Network :=
  if !state.landingStripOccupied then
    (true, state.setOccupied true)
  else
    (false, state)

/-- `ControlTower::completed`. -/
def completed (state : Network) : Option Network :=
  let holdingQueueMaxTime := Airspace.getMaxQueueTime config state
  let departQueueMaxTime := ParkingArea.getMaxQueueTime config state
  if holdingQueueMaxTime < 0 ∧ departQueueMaxTime < 0 then
    some (state.setOccupied false)
  else if holdingQueueMaxTime < 0 then
    ParkingArea.go config state
  else if departQueueMaxTime < 0 then
    Airspace.go config state
  else if departQueueMaxTime < holdingQueueMaxTime then
    ParkingArea.go config state
  else
    Airspace.go config state

end ControlTower

namespace Airspace

/-- The creation and scheduling of the next airplane, the same in `init` (where
`simTime()` is zero) and `handleMessage`. -/
def scheduleNext (state : Network) : Network :=
  let (nextPlane, state) := state.newAirplane
  let (nextArrival, state) := state.sample config.sim config.par.interArrival
  let state := { state with nextArrival }
  state.scheduleAt .airspace (state.simTime + nextArrival) nextPlane

theorem scheduleNext_eq (state : Network) :
    scheduleNext config state =
      let time := state.simTime +
        config.sim.duration config.par.interArrival state.rngDraws
      { state with
        rngDraws := config.sim.advance config.par.interArrival state.rngDraws
        nextArrival := config.sim.duration config.par.interArrival state.rngDraws
        created := state.created + 1
        futureEvents := state.futureEvents ++
          [⟨time, .airspace, true, { id := state.created }⟩]
        trace := ⟨state.simTime, .airspace, state.created, .scheduleAt time⟩ ::
          state.trace } := rfl

/-- `Airspace::initialize`. -/
def init (state : Network) : Network :=
  let state := { state with
    departedPlanes := 0
    holdingQueue := []
    warmupPeriod := config.sim.simtime (config.par.scaling * config.par.warmup) }
  scheduleNext config state

/-- `Airspace::handleMessage`. -/
def handleMessage (message : Event) (state : Network) : Option Network :=
  let airplane := message.airplane
  if message.isSelfMessage then
    let airplane := { airplane with timestamp := state.simTime }
    let state := state.record .airspace airplane .notify
    let (granted, state) := ControlTower.notify state
    let state :=
      if granted then
        let state := state.emit .airspace .holdingQueueSize 0 airplane
        let state := state.emit .airspace .holdingQueueWaitingTime 0 airplane
        land config airplane state
      else
        let airplane := { airplane with queueArrivalTime := state.simTime }
        let state := { state with holdingQueue := state.holdingQueue ++ [airplane] }
        state.emit .airspace .holdingQueueSize state.holdingQueue.length airplane
    some (scheduleNext config state)
  else
    let state := state.emit .airspace .airportResponseTime
      (state.simTime - airplane.timestamp) airplane
    let state := state.record .airspace airplane .delete
    let state := { state with departedPlanes := state.departedPlanes + 1 }
    if state.departedPlanes < config.totalSamples then
      ControlTower.completed config state
    else
      let state := state.emit .airspace .totalSimtime state.simTime airplane
      some (state.endSimulation .airspace airplane)

end Airspace

namespace ParkingArea

/-- `ParkingArea::initialize`. -/
def init (state : Network) : Network :=
  { state with numParked := 0, departQueue := [] }

/-- `ParkingArea::handleMessage`. -/
def handleMessage (message : Event) (state : Network) : Option Network :=
  let airplane := message.airplane
  if message.isSelfMessage then
    let state := { state with numParked := state.numParked - 1 }
    let state := state.emit .parkingArea .parkedPlanes state.numParked airplane
    let state := state.record .parkingArea airplane .notify
    let (granted, state) := ControlTower.notify state
    if granted then
      let state := state.emit .parkingArea .departQueueSize 0 airplane
      let state := state.emit .parkingArea .departQueueWaitingTime 0 airplane
      some (takeOff config airplane state)
    else
      let airplane := { airplane with queueArrivalTime := state.simTime }
      let state := { state with departQueue := state.departQueue ++ [airplane] }
      some (state.emit .parkingArea .departQueueSize state.departQueue.length airplane)
  else
    let state := { state with numParked := state.numParked + 1 }
    let state := state.emit .parkingArea .parkedPlanes state.numParked airplane
    let (nextParkingTime, state) := state.sample config.sim config.par.parking
    let state := { state with nextParkingTime }
    let state := state.scheduleAt .parkingArea (state.simTime + nextParkingTime) airplane
    ControlTower.completed config state

end ParkingArea

/-- `ControlTower::initialize`. -/
def ControlTower.init (state : Network) : Network :=
  { state with landingStripOccupied := false }

/-- The network after the initialization of its modules, in the order of the NED
files. -/
def initialState : Network :=
  ControlTower.init (ParkingArea.init (Airspace.init config .blank))

/-- The handling of one event by the module it arrives at. -/
def deliver (event : Event) (state : Network) : Option Network :=
  match event.module with
  | .airspace => Airspace.handleMessage config event (state.take event)
  | .parkingArea => ParkingArea.handleMessage config event (state.take event)

end AirTrafficControl
