import AirTrafficControl.Model.Network
import AirTrafficControl.Library.Execution

/-!
# Runs of the network

The event loop of OMNeT++ handles a pending message with the least time until
`endSimulation()` is called.  `Step` lets it take any of several simultaneous messages;
`eventLoop` takes the one that was scheduled first.

`Transition` spells out what the handling of one event does, one constructor for each
path through the handlers.  It is derived from the handlers under the invariant `Timely`
(no clock runs backwards), which every reachable state satisfies, and later invariants
argue by cases on it.
-/

namespace AirTrafficControl

variable (config : Config)

/-- `event` is a pending message with the least time. -/
def Network.Next (state : Network) (event : Event) : Prop :=
  event ∈ state.futureEvents ∧ ∀ other ∈ state.futureEvents, event.time ≤ other.time

/-- One round of the event loop. -/
def Step (state next : Network) : Prop :=
  state.ended = false ∧
    ∃ event, state.Next event ∧ deliver config event state = some next

/-- The states between two rounds of the event loop. -/
abbrev Reachable : Network → Prop :=
  Relation.ReflTransGen (Step config) (initialState config)

/-- The pending message that OMNeT++ takes next: the first one scheduled among those with
the least time. -/
def Network.nextEvent (state : Network) : Option Event :=
  state.futureEvents.minOn? Event.time

/-- The event loop after `count` rounds that handle simultaneous messages in the order in
which they were scheduled.  Once the simulation has ended the state no longer changes. -/
def eventLoop : Nat → Network
  | 0 => initialState config
  | count + 1 =>
      let state := eventLoop count
      if state.ended then state
      else
        match state.nextEvent.bind fun event => deliver config event state with
        | some next => next
        | none => state

theorem Network.nextEvent_next {state : Network} {event : Event}
    (isNext : state.nextEvent = some event) : state.Next event :=
  ⟨List.minOn?_mem isNext, fun _ member => by
    rw [← List.minOn_eq_of_minOn?_eq_some isNext]
    exact List.apply_minOn_le_of_mem member⟩

/-- The event loop of OMNeT++ is one of the runs. -/
theorem eventLoop_reachable (count : Nat) : Reachable config (eventLoop config count) := by
  induction count with
  | zero => exact .refl
  | succ count ih =>
      rw [eventLoop]
      cases ended : (eventLoop config count).ended with
      | true => simpa using ih
      | false =>
          simp only [Bool.false_eq_true, if_false]
          split
          next next result =>
            obtain ⟨event, isNext, delivered⟩ := Option.bind_eq_some_iff.mp result
            exact ih.tail ⟨ended, event, Network.nextEvent_next isNext, delivered⟩
          next => exact ih

/-! ## What one event does -/

/-- What `ControlTower::completed` does: the oldest request in the two queues gets the
runway, a landing before a take-off that is as old. -/
inductive Completed (state : Network) : Network → Prop where
  | idle :
      state.holdingQueue = [] → state.departQueue = [] →
      Completed state (state.setOccupied false)
  | land {plane : Airplane} {rest : List Airplane} :
      state.holdingQueue = plane :: rest →
      (∀ other ∈ state.departQueue.head?,
        plane.queueArrivalTime ≤ other.queueArrivalTime) →
      Completed state (Airspace.land config plane { state with
        holdingQueue := rest
        trace :=
          ⟨state.simTime, .airspace, plane.id, .emit .holdingQueueSize rest.length⟩ ::
          ⟨state.simTime, .airspace, plane.id,
            .emit .holdingQueueWaitingTime (state.simTime - plane.queueArrivalTime)⟩ ::
          state.trace })
  | takeOff {plane : Airplane} {rest : List Airplane} :
      state.departQueue = plane :: rest →
      (∀ other ∈ state.holdingQueue.head?,
        plane.queueArrivalTime < other.queueArrivalTime) →
      Completed state (ParkingArea.takeOff config plane { state with
        departQueue := rest
        trace :=
          ⟨state.simTime, .parkingArea, plane.id, .emit .departQueueSize rest.length⟩ ::
          ⟨state.simTime, .parkingArea, plane.id,
            .emit .departQueueWaitingTime (state.simTime - plane.queueArrivalTime)⟩ ::
          state.trace })

/-- A landed airplane begins to park. -/
def Network.park (plane : Airplane) (state : Network) : Network :=
  let duration := config.sim.duration config.par.parking state.rngDraws
  { state with
    numParked := state.numParked + 1
    rngDraws := config.sim.advance config.par.parking state.rngDraws
    nextParkingTime := duration
    futureEvents := state.futureEvents ++
      [⟨state.simTime + duration, .parkingArea, true, plane⟩]
    trace :=
      ⟨state.simTime, .parkingArea, plane.id, .scheduleAt (state.simTime + duration)⟩ ::
      ⟨state.simTime, .parkingArea, plane.id,
        .emit .parkedPlanes (state.numParked + 1)⟩ ::
      state.trace }

/-- An airplane that has taken off leaves the system. -/
def Network.depart (plane : Airplane) (state : Network) : Network :=
  { state with
    departedPlanes := state.departedPlanes + 1
    trace :=
      ⟨state.simTime, .airspace, plane.id, .delete⟩ ::
      ⟨state.simTime, .airspace, plane.id,
        .emit .airportResponseTime (state.simTime - plane.timestamp)⟩ ::
      state.trace }

/-- What the handling of `event` does in a state whose clock shows the time of the
event. -/
inductive Transition (state : Network) (event : Event) : Network → Prop where
  | landNow :
      event.kind = .arrival → state.landingStripOccupied = false →
      Transition state event (Airspace.scheduleNext config
        (Airspace.land config { event.airplane with timestamp := state.simTime }
          { state.setOccupied true with
            trace :=
              ⟨state.simTime, .airspace, event.airplane.id,
                .emit .holdingQueueWaitingTime 0⟩ ::
              ⟨state.simTime, .airspace, event.airplane.id,
                .emit .holdingQueueSize 0⟩ ::
              ⟨state.simTime, .airspace, event.airplane.id, .notify⟩ ::
              state.trace }))
  | hold :
      event.kind = .arrival → state.landingStripOccupied = true →
      Transition state event (Airspace.scheduleNext config { state with
        holdingQueue := state.holdingQueue ++
          [⟨event.airplane.id, state.simTime, state.simTime⟩]
        trace :=
          ⟨state.simTime, .airspace, event.airplane.id,
            .emit .holdingQueueSize (state.holdingQueue.length + 1 : Nat)⟩ ::
          ⟨state.simTime, .airspace, event.airplane.id, .notify⟩ ::
          state.trace })
  | takeOffNow :
      event.kind = .parking → state.landingStripOccupied = false →
      Transition state event (ParkingArea.takeOff config event.airplane
        { state.setOccupied true with
          numParked := state.numParked - 1
          trace :=
            ⟨state.simTime, .parkingArea, event.airplane.id,
              .emit .departQueueWaitingTime 0⟩ ::
            ⟨state.simTime, .parkingArea, event.airplane.id,
              .emit .departQueueSize 0⟩ ::
            ⟨state.simTime, .parkingArea, event.airplane.id, .notify⟩ ::
            ⟨state.simTime, .parkingArea, event.airplane.id,
              .emit .parkedPlanes (state.numParked - 1)⟩ ::
            state.trace })
  | queue :
      event.kind = .parking → state.landingStripOccupied = true →
      Transition state event { state with
        numParked := state.numParked - 1
        departQueue := state.departQueue ++
          [{ event.airplane with queueArrivalTime := state.simTime }]
        trace :=
          ⟨state.simTime, .parkingArea, event.airplane.id,
            .emit .departQueueSize (state.departQueue.length + 1 : Nat)⟩ ::
          ⟨state.simTime, .parkingArea, event.airplane.id, .notify⟩ ::
          ⟨state.simTime, .parkingArea, event.airplane.id,
            .emit .parkedPlanes (state.numParked - 1)⟩ ::
          state.trace }
  | landed {next : Network} :
      event.kind = .landing →
      Completed config (state.park config event.airplane) next →
      Transition state event next
  | left {next : Network} :
      event.kind = .takeoff →
      state.departedPlanes + 1 < config.totalSamples →
      Completed config (state.depart event.airplane) next →
      Transition state event next
  | finished :
      event.kind = .takeoff →
      config.totalSamples ≤ state.departedPlanes + 1 →
      Transition state event { state.depart event.airplane with
        ended := true
        trace :=
          ⟨state.simTime, .airspace, event.airplane.id, .endSimulation⟩ ::
          ⟨state.simTime, .airspace, event.airplane.id,
            .emit .totalSimtime state.simTime⟩ ::
          (state.depart event.airplane).trace }

/-- The oldest waiting times that `completed` compares are those of airplanes. -/
def QueuesTimed (state : Network) : Prop :=
  (∀ plane ∈ state.holdingQueue, 0 ≤ plane.queueArrivalTime) ∧
    ∀ plane ∈ state.departQueue, 0 ≤ plane.queueArrivalTime

/-- Somebody is chosen, or nobody waits. -/
theorem exists_completed (state : Network) : ∃ next, Completed config state next := by
  cases holding : state.holdingQueue with
  | nil =>
      cases depart : state.departQueue with
      | nil => exact ⟨_, .idle holding depart⟩
      | cons plane rest => exact ⟨_, .takeOff depart (by simp [holding])⟩
  | cons plane rest =>
      cases depart : state.departQueue with
      | nil => exact ⟨_, .land holding (by simp [depart])⟩
      | cons other others =>
          by_cases older : other.queueArrivalTime < plane.queueArrivalTime
          · exact ⟨_, .takeOff depart (by simpa [holding] using older)⟩
          · exact ⟨_, .land holding (by simpa [depart] using older)⟩

variable {config} in
/-- Negative times mark empty queues only, so `completed` never calls `go` on an empty
queue. -/
theorem Completed.result {state next : Network} (timed : QueuesTimed state)
    (completed : Completed config state next) :
    ControlTower.completed config state = some next := by
  have empty := config.sim.simtime_minus_one
  cases completed with
  | idle holding depart =>
      simp [ControlTower.completed, Airspace.getMaxQueueTime,
        ParkingArea.getMaxQueueTime, holding, depart, empty]
  | @land plane rest holding older =>
      have time := timed.1 plane (by simp [holding])
      cases depart : state.departQueue with
      | nil =>
          simp [ControlTower.completed, Airspace.getMaxQueueTime,
            ParkingArea.getMaxQueueTime, holding, depart, empty, not_lt.mpr time,
            Airspace.go, Network.emit, Network.record]
      | cons other others =>
          have otherTime := timed.2 other (by simp [depart])
          have first := older other (by simp [depart])
          simp [ControlTower.completed, Airspace.getMaxQueueTime,
            ParkingArea.getMaxQueueTime, holding, depart, not_lt.mpr time,
            not_lt.mpr otherTime, not_lt.mpr first, Airspace.go, Network.emit,
            Network.record]
  | @takeOff plane rest depart older =>
      have time := timed.2 plane (by simp [depart])
      cases holding : state.holdingQueue with
      | nil =>
          simp [ControlTower.completed, Airspace.getMaxQueueTime,
            ParkingArea.getMaxQueueTime, holding, depart, empty, not_lt.mpr time,
            ParkingArea.go, Network.emit, Network.record]
      | cons other others =>
          have otherTime := timed.1 other (by simp [holding])
          have first := older other (by simp [holding])
          simp [ControlTower.completed, Airspace.getMaxQueueTime,
            ParkingArea.getMaxQueueTime, holding, depart, not_lt.mpr time,
            not_lt.mpr otherTime, first, ParkingArea.go, Network.emit, Network.record]

theorem completed_spec {state : Network} (timed : QueuesTimed state) :
    ∃ next, ControlTower.completed config state = some next ∧
      Completed config state next := by
  obtain ⟨next, completed⟩ := exists_completed config state
  exact ⟨next, completed.result timed, completed⟩

/-- There is a path through the handlers for every event. -/
theorem exists_transition (state : Network) (event : Event) :
    ∃ next, Transition config state event next := by
  cases kind : event.kind with
  | arrival =>
      cases occupied : state.landingStripOccupied with
      | false => exact ⟨_, .landNow kind occupied⟩
      | true => exact ⟨_, .hold kind occupied⟩
  | landing =>
      obtain ⟨next, completed⟩ := exists_completed config (state.park config event.airplane)
      exact ⟨next, .landed kind completed⟩
  | parking =>
      cases occupied : state.landingStripOccupied with
      | false => exact ⟨_, .takeOffNow kind occupied⟩
      | true => exact ⟨_, .queue kind occupied⟩
  | takeoff =>
      by_cases more : state.departedPlanes + 1 < config.totalSamples
      · obtain ⟨next, completed⟩ := exists_completed config (state.depart event.airplane)
        exact ⟨next, .left kind more completed⟩
      · exact ⟨_, .finished kind (not_lt.mp more)⟩

variable {config} in
/-- The handlers do what `Transition` says. -/
theorem Transition.result {state next : Network} {event : Event}
    (timed : QueuesTimed state)
    (transition : Transition config (state.take event) event next) :
    deliver config event state = some next := by
  obtain ⟨time, module, isSelfMessage, airplane⟩ := event
  cases transition with
  | landNow kind flag =>
      cases module <;> cases isSelfMessage <;> cases kind
      have flag : state.landingStripOccupied = false := flag
      simp [deliver, Airspace.handleMessage, ControlTower.notify, flag, Network.take,
        Network.emit, Network.record, Network.setOccupied]
  | hold kind flag =>
      cases module <;> cases isSelfMessage <;> cases kind
      have flag : state.landingStripOccupied = true := flag
      simp [deliver, Airspace.handleMessage, ControlTower.notify, flag, Network.take,
        Network.emit, Network.record]
  | takeOffNow kind flag =>
      cases module <;> cases isSelfMessage <;> cases kind
      have flag : state.landingStripOccupied = false := flag
      simp [deliver, ParkingArea.handleMessage, ControlTower.notify, flag, Network.take,
        Network.emit, Network.record, Network.setOccupied]
  | queue kind flag =>
      cases module <;> cases isSelfMessage <;> cases kind
      have flag : state.landingStripOccupied = true := flag
      simp [deliver, ParkingArea.handleMessage, ControlTower.notify, flag, Network.take,
        Network.emit, Network.record]
  | landed kind completed =>
      cases module <;> cases isSelfMessage <;> cases kind
      exact completed.result timed
  | left kind more completed =>
      cases module <;> cases isSelfMessage <;> cases kind
      exact (if_pos more).trans (completed.result timed)
  | finished kind last =>
      cases module <;> cases isSelfMessage <;> cases kind
      exact if_neg (not_lt.mpr last)

variable {config} in
theorem Transition.unique {state next other : Network} {event : Event}
    (timed : QueuesTimed state) (first : Transition config (state.take event) event next)
    (second : Transition config (state.take event) event other) : next = other :=
  Option.some.inj ((first.result timed).symm.trans (second.result timed))

/-- The handlers never fail. -/
theorem deliver_spec {state : Network} (timed : QueuesTimed state) (event : Event) :
    ∃ next, deliver config event state = some next ∧
      Transition config (state.take event) event next := by
  obtain ⟨next, transition⟩ := exists_transition config (state.take event) event
  exact ⟨next, transition.result timed, transition⟩

end AirTrafficControl
