import AirTrafficControl.Order.Schedule
import AirTrafficControl.Streams.Draws
import Mathlib.Tactic.Ring

/-!
# Rescaled runs

Two runs in which the clock is read in another unit and from another origin, and airplanes
and departures are counted from another number, take the same course.  Whatever the handlers
read of a state is rescaled: fields that nobody reads again, such as the queue arrival time
of an airplane on the runway, are left out of the relation.
-/

namespace AirTrafficControl

/-- Another unit and origin of time, other numbers for the airplanes and the departures, and
what the two runs had recorded before. -/
structure Rescaling where
  factor : Int
  offset : Int
  planes : Nat
  departures : Int
  recorded : List Record
  recorded' : List Record
  positive : 0 < factor

namespace Rescaling

variable (scale : Rescaling)

/-- The same instant in the other run. -/
def instant (time : Int) : Int := scale.factor * time + scale.offset

/-- The value of the same sample in the other run: a size, an instant or a duration. -/
def value : Signal → Int → Int
  | .holdingQueueSize, size | .departQueueSize, size | .parkedPlanes, size => size
  | .totalSimtime, time => scale.instant time
  | .holdingQueueWaitingTime, duration | .departQueueWaitingTime, duration
  | .airportResponseTime, duration | .runwayUse, duration => scale.factor * duration

/-- The same call in the other run. -/
def call : Call → Call
  | .notify => .notify
  | .sendDelayed delay => .sendDelayed (scale.factor * delay)
  | .scheduleAt time => .scheduleAt (scale.instant time)
  | .emit signal value => .emit signal (scale.value signal value)
  | .delete => .delete
  | .endSimulation => .endSimulation

/-- The same entry of the trace in the other run. -/
def record (record : Record) : Record :=
  ⟨scale.instant record.time, record.module, record.plane + scale.planes,
    scale.call record.call⟩

variable {scale} {time other delay : Int}

theorem instant_le : scale.instant time ≤ scale.instant other ↔ time ≤ other := by
  rw [instant, instant, add_le_add_iff_right]
  exact mul_le_mul_iff_right₀ scale.positive

theorem instant_lt : scale.instant time < scale.instant other ↔ time < other := by
  rw [← not_le, ← not_le, instant_le]

theorem instant_add :
    scale.instant time + scale.factor * delay = scale.instant (time + delay) := by
  unfold instant
  ring

theorem instant_sub :
    scale.instant time - scale.instant other = scale.factor * (time - other) := by
  unfold instant
  ring

/-- An airplane and its image, apart from the time of its last request. -/
structure Plane (scale : Rescaling) (plane image : Airplane) : Prop where
  id : image.id = plane.id + scale.planes
  timestamp : image.timestamp = scale.instant plane.timestamp

/-- An airplane in a queue and its image. -/
structure Waiting (scale : Rescaling) (plane image : Airplane) : Prop
    extends scale.Plane plane image where
  queueArrivalTime : image.queueArrivalTime = scale.instant plane.queueArrivalTime

/-- A message and its image.  An airplane that has not arrived yet has no timestamp. -/
structure Message (scale : Rescaling) (event image : Event) : Prop where
  time : image.time = scale.instant event.time
  kind : image.kind = event.kind
  id : image.airplane.id = event.airplane.id + scale.planes
  timestamp : event.kind ≠ .arrival →
    image.airplane.timestamp = scale.instant event.airplane.timestamp

/-- What has been recorded since. -/
def Traced (scale : Rescaling) (trace image : List Record) : Prop :=
  ∃ calls, trace = calls ++ scale.recorded ∧
    image = calls.map scale.record ++ scale.recorded'

theorem Traced.cons {trace image : List Record} {entry entry' : Record}
    (traced : scale.Traced trace image) (same : entry' = scale.record entry) :
    scale.Traced (entry :: trace) (entry' :: image) := by
  obtain ⟨calls, rfl, rfl⟩ := traced
  exact ⟨entry :: calls, rfl, by rw [same]; rfl⟩

end Rescaling

/-- Another unit only. -/
def Rescaling.multiply (factor : Int) (positive : 0 < factor) : Rescaling :=
  ⟨factor, 0, 0, 0, [], [], positive⟩

/-- A state and its image in the other run. -/
structure Rescaled (scale : Rescaling) (state image : Network) : Prop where
  now : image.simTime = scale.instant state.simTime
  events : List.Forall₂ scale.Message state.futureEvents image.futureEvents
  draws : image.rngDraws = state.rngDraws
  created : image.created = state.created + scale.planes
  ended : image.ended = state.ended
  occupied : image.landingStripOccupied = state.landingStripOccupied
  departed : image.departedPlanes = state.departedPlanes + scale.departures
  holdingQueue : List.Forall₂ scale.Waiting state.holdingQueue image.holdingQueue
  parked : image.numParked = state.numParked
  departQueue : List.Forall₂ scale.Waiting state.departQueue image.departQueue
  traced : scale.Traced state.trace image.trace

/-- The durations of the other run in its unit, from the same draws. -/
structure Config.Fits (scale : Rescaling) (config other : Config) : Prop where
  duration : ∀ kind draws, other.sim.duration (other.par.timing kind) draws =
    scale.factor * config.sim.duration (config.par.timing kind) draws
  advance : ∀ kind draws, other.sim.advance (other.par.timing kind) draws =
    config.sim.advance (config.par.timing kind) draws

namespace Rescaled

variable {config other : Config} {scale : Rescaling} {state image next : Network}
  {event event' : Event} {plane plane' : Airplane}

/-! ## Parts of the handlers -/

theorem take (rescaled : Rescaled scale state image) (message : scale.Message event event')
    (rest : List.Forall₂ scale.Message (state.take event).futureEvents
      (image.take event').futureEvents) :
    Rescaled scale (state.take event) (image.take event') :=
  { rescaled with now := message.time, events := rest }

/-- A message that both runs schedule. -/
private theorem append (rescaled : Rescaled scale state image)
    (message : scale.Message event event') :
    List.Forall₂ scale.Message (state.futureEvents ++ [event])
      (image.futureEvents ++ [event']) :=
  List.rel_append rescaled.events (.cons message .nil)

/-- A call that both runs note down. -/
private theorem noted (rescaled : Rescaled scale state image) {module : SimpleModule}
    {id id' : Nat} {call call' : Call} (sameId : id' = id + scale.planes)
    (sameCall : call' = scale.call call) :
    (⟨image.simTime, module, id', call'⟩ : Record) =
      scale.record ⟨state.simTime, module, id, call⟩ := by
  rw [rescaled.now, sameId, sameCall]
  rfl

section Durations

variable (rescaled : Rescaled scale state image) (fits : config.Fits scale other)

include rescaled fits

private theorem duration (kind : Kind) :
    other.sim.duration (other.par.timing kind) image.rngDraws =
      scale.factor * config.sim.duration (config.par.timing kind) state.rngDraws := by
  rw [rescaled.draws, fits.duration]

private theorem advance (kind : Kind) :
    other.sim.advance (other.par.timing kind) image.rngDraws =
      config.sim.advance (config.par.timing kind) state.rngDraws := by
  rw [rescaled.draws, fits.advance]

private theorem due (kind : Kind) :
    image.simTime + other.sim.duration (other.par.timing kind) image.rngDraws =
      scale.instant (state.simTime +
        config.sim.duration (config.par.timing kind) state.rngDraws) := by
  rw [rescaled.duration fits, rescaled.now, scale.instant_add]

theorem land (same : scale.Plane plane plane') :
    Rescaled scale (Airspace.land config plane state) (Airspace.land other plane' image) :=
  { rescaled with
    events := rescaled.append
      ⟨rescaled.due fits .landing, rfl, same.id, fun _ => same.timestamp⟩
    draws := rescaled.advance fits .landing
    traced := (rescaled.traced.cons (rescaled.noted same.id
        (congrArg Call.sendDelayed (rescaled.duration fits .landing)))).cons
      (rescaled.noted same.id
        (congrArg (Call.emit .runwayUse) (rescaled.duration fits .landing))) }

theorem takeOff (same : scale.Plane plane plane') :
    Rescaled scale (ParkingArea.takeOff config plane state)
      (ParkingArea.takeOff other plane' image) :=
  { rescaled with
    events := rescaled.append
      ⟨rescaled.due fits .takeoff, rfl, same.id, fun _ => same.timestamp⟩
    draws := rescaled.advance fits .takeoff
    traced := (rescaled.traced.cons (rescaled.noted same.id
        (congrArg Call.sendDelayed (rescaled.duration fits .takeoff)))).cons
      (rescaled.noted same.id
        (congrArg (Call.emit .runwayUse) (rescaled.duration fits .takeoff))) }

theorem park (same : scale.Plane plane plane') :
    Rescaled scale (state.park config plane) (image.park other plane') :=
  { rescaled with
    events := rescaled.append
      ⟨rescaled.due fits .parking, rfl, same.id, fun _ => same.timestamp⟩
    draws := rescaled.advance fits .parking
    parked := congrArg (· + 1) rescaled.parked
    traced := (rescaled.traced.cons (rescaled.noted same.id
        (congrArg (fun count => Call.emit .parkedPlanes (count + 1)) rescaled.parked))).cons
      (rescaled.noted same.id
        (congrArg Call.scheduleAt (rescaled.due fits .parking))) }

theorem scheduleNext :
    Rescaled scale (Airspace.scheduleNext config state)
      (Airspace.scheduleNext other image) :=
  { rescaled with
    events := rescaled.append ⟨rescaled.due fits .arrival, rfl, rescaled.created,
      fun arrived => absurd rfl arrived⟩
    draws := rescaled.advance fits .arrival
    created := (congrArg (· + 1) rescaled.created).trans (Nat.add_right_comm _ _ _)
    traced := rescaled.traced.cons (rescaled.noted rescaled.created
      (congrArg Call.scheduleAt (rescaled.due fits .arrival))) }

end Durations

theorem depart (rescaled : Rescaled scale state image) (same : scale.Plane plane plane') :
    Rescaled scale (state.depart plane) (image.depart plane') :=
  { rescaled with
    departed := (congrArg (· + 1) rescaled.departed).trans (add_right_comm _ _ _)
    traced := (rescaled.traced.cons (rescaled.noted same.id
        (congrArg (Call.emit .airportResponseTime) (by
          rw [rescaled.now, same.timestamp, scale.instant_sub]
          rfl)))).cons
      (rescaled.noted same.id rfl) }

/-! ## The handlers -/

/-- The airplanes in front of two queues. -/
private theorem head_waiting {queue queue' : List Airplane}
    (same : List.Forall₂ scale.Waiting queue queue') :
    ∀ plane' ∈ queue'.head?, ∃ plane ∈ queue.head?, scale.Waiting plane plane' := by
  intro plane' front
  cases same with
  | nil => cases front
  | @cons first first' _ _ waiting =>
      cases front
      exact ⟨first, rfl, waiting⟩

section Handlers

variable (rescaled : Rescaled scale state image) (fits : config.Fits scale other)

include rescaled fits

theorem completed (completed : Completed config state next) :
    ∃ next', Completed other image next' ∧ Rescaled scale next next' := by
  cases completed with
  | idle noHolding noDepart =>
      have holding := rescaled.holdingQueue
      have depart := rescaled.departQueue
      rw [noHolding, List.forall₂_nil_left_iff] at holding
      rw [noDepart, List.forall₂_nil_left_iff] at depart
      exact ⟨_, .idle holding depart, { rescaled with occupied := rfl }⟩
  | @land plane rest front older =>
      have holding := rescaled.holdingQueue
      rw [front, List.forall₂_cons_left_iff] at holding
      obtain ⟨plane', rest', same, tails, front'⟩ := holding
      refine ⟨_, .land front' ?_, land ?_ fits same.toPlane⟩
      · intro rival' isFront
        obtain ⟨rival, first, waiting⟩ := head_waiting rescaled.departQueue rival' isFront
        rw [same.queueArrivalTime, waiting.queueArrivalTime, scale.instant_le]
        exact older rival first
      · exact { rescaled with
          holdingQueue := tails
          traced := (rescaled.traced.cons (rescaled.noted same.id
              (congrArg (Call.emit .holdingQueueWaitingTime) (by
                rw [rescaled.now, same.queueArrivalTime, scale.instant_sub]
                rfl)))).cons
            (rescaled.noted same.id
              (congrArg (fun length : Nat => Call.emit .holdingQueueSize length)
                tails.length_eq.symm)) }
  | @takeOff plane rest front older =>
      have depart := rescaled.departQueue
      rw [front, List.forall₂_cons_left_iff] at depart
      obtain ⟨plane', rest', same, tails, front'⟩ := depart
      refine ⟨_, .takeOff front' ?_, takeOff ?_ fits same.toPlane⟩
      · intro rival' isFront
        obtain ⟨rival, first, waiting⟩ := head_waiting rescaled.holdingQueue rival' isFront
        rw [same.queueArrivalTime, waiting.queueArrivalTime, scale.instant_lt]
        exact older rival first
      · exact { rescaled with
          departQueue := tails
          traced := (rescaled.traced.cons (rescaled.noted same.id
              (congrArg (Call.emit .departQueueWaitingTime) (by
                rw [rescaled.now, same.queueArrivalTime, scale.instant_sub]
                rfl)))).cons
            (rescaled.noted same.id
              (congrArg (fun length : Nat => Call.emit .departQueueSize length)
                tails.length_eq.symm)) }

/-- The handling of an event and of its image, when both or none is the last take-off. -/
theorem transition (message : scale.Message event event')
    (more : event.kind = .takeoff → (state.departedPlanes + 1 < config.totalSamples ↔
      image.departedPlanes + 1 < other.totalSamples))
    (transition : Transition config state event next) :
    ∃ next', Transition other image event' next' ∧ Rescaled scale next next' := by
  have nothing : (0 : Int) = scale.factor * 0 := (mul_zero _).symm
  cases transition with
  | landNow kind free =>
      refine ⟨_, .landNow (message.kind.trans kind) (rescaled.occupied.trans free),
        scheduleNext (land ?_ fits ⟨message.id, rescaled.now⟩) fits⟩
      exact { rescaled with
        occupied := rfl
        traced := ((rescaled.traced.cons (rescaled.noted message.id rfl)).cons
          (rescaled.noted message.id rfl)).cons
            (rescaled.noted message.id
              (congrArg (Call.emit .holdingQueueWaitingTime) nothing)) }
  | hold kind occupied =>
      refine ⟨_, .hold (message.kind.trans kind) (rescaled.occupied.trans occupied),
        scheduleNext ?_ fits⟩
      exact { rescaled with
        holdingQueue := List.rel_append rescaled.holdingQueue
          (.cons ⟨⟨message.id, rescaled.now⟩, rescaled.now⟩ .nil)
        traced := (rescaled.traced.cons (rescaled.noted message.id rfl)).cons
          (rescaled.noted message.id
            (congrArg (fun length : Nat => Call.emit .holdingQueueSize (length + 1 : Nat))
              rescaled.holdingQueue.length_eq.symm)) }
  | takeOffNow kind free =>
      have arrived : event.kind ≠ .arrival := by simp [kind]
      refine ⟨_, .takeOffNow (message.kind.trans kind) (rescaled.occupied.trans free),
        takeOff ?_ fits ⟨message.id, message.timestamp arrived⟩⟩
      exact { rescaled with
        occupied := rfl
        parked := congrArg (· - 1) rescaled.parked
        traced := (((rescaled.traced.cons (rescaled.noted message.id
              (congrArg (fun count => Call.emit .parkedPlanes (count - 1))
                rescaled.parked))).cons
            (rescaled.noted message.id rfl)).cons (rescaled.noted message.id rfl)).cons
          (rescaled.noted message.id
            (congrArg (Call.emit .departQueueWaitingTime) nothing)) }
  | queue kind occupied =>
      have arrived : event.kind ≠ .arrival := by simp [kind]
      refine ⟨_, .queue (message.kind.trans kind) (rescaled.occupied.trans occupied), ?_⟩
      exact { rescaled with
        parked := congrArg (· - 1) rescaled.parked
        departQueue := List.rel_append rescaled.departQueue
          (.cons ⟨⟨message.id, message.timestamp arrived⟩, rescaled.now⟩ .nil)
        traced := ((rescaled.traced.cons (rescaled.noted message.id
              (congrArg (fun count => Call.emit .parkedPlanes (count - 1))
                rescaled.parked))).cons
            (rescaled.noted message.id rfl)).cons
          (rescaled.noted message.id
            (congrArg (fun length : Nat => Call.emit .departQueueSize (length + 1 : Nat))
              rescaled.departQueue.length_eq.symm)) }
  | landed kind completed =>
      have arrived : event.kind ≠ .arrival := by simp [kind]
      obtain ⟨next', completed', same⟩ := Rescaled.completed
        (rescaled.park fits ⟨message.id, message.timestamp arrived⟩) fits completed
      exact ⟨next', .landed (message.kind.trans kind) completed', same⟩
  | left kind goesOn completed =>
      have arrived : event.kind ≠ .arrival := by simp [kind]
      obtain ⟨next', completed', same⟩ := Rescaled.completed
        (rescaled.depart ⟨message.id, message.timestamp arrived⟩) fits completed
      exact ⟨next', .left (message.kind.trans kind) ((more kind).mp goesOn) completed', same⟩
  | finished kind last =>
      have arrived : event.kind ≠ .arrival := by simp [kind]
      have departed : Rescaled scale (state.depart event.airplane)
          (image.depart event'.airplane) :=
        rescaled.depart ⟨message.id, message.timestamp arrived⟩
      refine ⟨_, .finished (message.kind.trans kind)
        (not_lt.mp fun goesOn => not_lt.mpr last ((more kind).mpr goesOn)), ?_⟩
      exact { departed with
        ended := rfl
        traced := (departed.traced.cons (rescaled.noted message.id
              (congrArg (Call.emit .totalSimtime) rescaled.now))).cons
          (rescaled.noted message.id rfl) }

end Handlers

/-! ## The event loop -/

/-- The state of a run and of one in another unit before their first rounds. -/
theorem initialState {factor : Int} {positive : 0 < factor}
    (fits : config.Fits (.multiply factor positive) other) :
    Rescaled (.multiply factor positive) (initialState config) (initialState other) := by
  have origin : 0 = (Rescaling.multiply factor positive).instant 0 := by
    simp [Rescaling.multiply, Rescaling.instant]
  have blank (warmupPeriod warmupPeriod' : Int) :
      Rescaled (.multiply factor positive) { Network.blank with warmupPeriod }
        { Network.blank with warmupPeriod := warmupPeriod' } :=
    ⟨origin, .nil, rfl, rfl, rfl, rfl, rfl, .nil, rfl, .nil, [], rfl, rfl⟩
  have started := scheduleNext
    (blank (config.sim.simtime (config.par.scaling * config.par.warmup))
      (other.sim.simtime (other.par.scaling * other.par.warmup))) fits
  exact { started with }

/-- The next event of the other run is the image of the next event. -/
theorem nextEvent (rescaled : Rescaled scale state image)
    (isNext : state.nextEvent = some event) :
    ∃ event', image.nextEvent = some event' ∧ scale.Message event event' ∧
      List.Forall₂ scale.Message (state.take event).futureEvents
        (image.take event').futureEvents := by
  refine Earliest.minOn?_related rescaled.events ?_ isNext
  intro one two one' two' first second
  rw [first.time, second.time, scale.instant_le]

end Rescaled

/-- If two runs have come to states that are images of each other, and both or none of them
is about to handle its last take-off, they take the next round together. -/
theorem eventLoop_rescaled {config other : Config} {scale : Rescaling}
    (fits : config.Fits scale other) {round round' : Nat}
    (rescaled : Rescaled scale (eventLoop config round) (eventLoop other round'))
    (more : ∀ event, (eventLoop config round).nextEvent = some event →
      event.kind = .takeoff →
      ((eventLoop config round).departedPlanes + 1 < config.totalSamples ↔
        (eventLoop other round').departedPlanes + 1 < other.totalSamples)) :
    Rescaled scale (eventLoop config (round + 1)) (eventLoop other (round' + 1)) := by
  cases ended : (eventLoop config round).ended with
  | true =>
      rw [eventLoop_stopped ended, eventLoop_stopped (rescaled.ended.trans ended)]
      exact rescaled
  | false =>
      obtain ⟨event, isNext, transition⟩ := eventLoop_step ended
      obtain ⟨event', isNext', transition'⟩ :=
        eventLoop_step (rescaled.ended.trans ended)
      obtain ⟨image, isImage, message, rest⟩ := rescaled.nextEvent isNext
      rw [isNext', Option.some.injEq] at isImage
      subst isImage
      obtain ⟨next, reaches, same⟩ :=
        (rescaled.take message rest).transition fits message (more event isNext) transition
      have timed := (Reachable.timely (eventLoop_reachable other round')).queuesTimed
      rw [transition'.unique timed reaches]
      exact same

end AirTrafficControl
