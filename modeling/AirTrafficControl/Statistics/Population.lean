import AirTrafficControl.Statistics.Little

/-!
# The airplanes in the system

The response times are sampled when airplanes leave, the sizes of the two queues and of the
parking area whenever they change, and the runway is occupied or not.  An airplane that has
arrived is always in one of these four places.  So the areas under all sizes, together with the
time that the runway is occupied, are the response times of those who left and the ages of those
who are still inside.
-/

namespace AirTrafficControl

open StepFunction

variable {config : Config} {state next : Network} {event : Event}

/-- The airplane of the message has arrived. -/
def Event.entered (event : Event) : Bool := event.kind ≠ .arrival

namespace Network

/-- The airplanes that land, park or take off. -/
def underWay (state : Network) : List Airplane :=
  (state.futureEvents.filter Event.entered).map Event.airplane

/-- The airplanes that have arrived and have not left. -/
def inside (state : Network) : List Airplane :=
  state.holdingQueue ++ state.departQueue ++ state.underWay

/-- The time that airplanes have been in the system, whether they have left or not. -/
def presence (state : Network) : Int :=
  ((state.samples .airportResponseTime).map Prod.snd).sum +
    (state.inside.map fun plane => state.simTime - plane.timestamp).sum

/-- The areas under the samples of the sizes, and the time that the runway was occupied. -/
def population (state : Network) : Int :=
  integral 0 (state.samples .holdingQueueSize) 0 state.simTime +
    integral 0 (state.samples .parkedPlanes) 0 state.simTime +
    integral 0 (state.samples .departQueueSize) 0 state.simTime +
    timeOn state.occupancy 0 state.simTime

/-- The age of the airplane in a message. -/
def ageOf (state : Network) (event : Event) : Int :=
  if event.entered then state.simTime - event.airplane.timestamp else 0

theorem presence_eq (state : Network) : state.presence =
    ((state.samples .airportResponseTime).map Prod.snd).sum +
      (state.holdingQueue.map fun plane => state.simTime - plane.timestamp).sum +
      (state.departQueue.map fun plane => state.simTime - plane.timestamp).sum +
      (state.underWay.map fun plane => state.simTime - plane.timestamp).sum := by
  rw [presence, inside, List.map_append, List.map_append, List.sum_append, List.sum_append]
  ring

theorem length_underWay (state : Network) :
    state.underWay.length = state.pending .parking + state.runwayMessages := by
  unfold underWay runwayMessages pending
  rw [List.length_map, ← List.countP_eq_length_filter]
  induction state.futureEvents with
  | nil => rfl
  | cons event rest ih =>
      rw [List.countP_cons, List.countP_cons, List.countP_cons, List.countP_cons, ih]
      cases kind : event.kind <;> simp [Event.entered, kind] <;> omega

/-- A sum over the airplanes that are under way. -/
theorem sum_underWay_take (member : event ∈ state.futureEvents) (age : Airplane → Int) :
    (state.underWay.map age).sum =
      ((state.take event).underWay.map age).sum +
        if event.entered then age event.airplane else 0 := by
  have split := ((List.perm_cons_erase member).filter Event.entered).map
    fun event => age event.airplane
  unfold underWay
  rw [List.map_map, List.map_map]
  refine split.sum_eq.trans ?_
  rw [List.filter_cons]
  split
  · rw [List.map_cons, List.sum_cons, add_comm]
    rfl
  · exact (add_zero _).symm

end Network

/-! ## Time passes -/

/-- The area under the samples of a signal grows with the latest sample. -/
theorem Reachable.area_take (reachable : Reachable config state) (isNext : state.Next event)
    (signal : Signal) :
    integral 0 (state.samples signal) 0 event.time =
      integral 0 (state.samples signal) 0 state.simTime +
        (event.time - state.simTime) * state.latest signal := by
  have timely := Reachable.timely reachable
  have later := timely.pending event isNext.1
  rw [integral_add timely.now_nonneg later]
  congr 1
  apply integral_const later
  intro instant since _
  apply valueAt_of_forall_le
  intro sample member
  exact (Reachable.sample_le reachable _ sample member).trans since

/-- The latest samples and the flag tell how many airplanes are in the system. -/
theorem Reachable.length_inside (reachable : Reachable config state)
    (running : state.ended = false) :
    (state.inside.length : Int) = state.latest .holdingQueueSize +
      state.latest .parkedPlanes + state.latest .departQueueSize +
      if state.landingStripOccupied then 1 else 0 := by
  have tracked := Reachable.tracked reachable
  have parked := (Reachable.conserved reachable).parked
  have onRunway := (Reachable.runwayConsistent reachable running).pending
  have holding : state.latest .holdingQueueSize = state.holdingQueue.length :=
    tracked.sizes .airspace
  have depart : state.latest .departQueueSize = state.departQueue.length :=
    tracked.sizes .parkingArea
  rw [holding, depart, tracked.parked, parked, Network.inside, List.length_append,
    List.length_append, Network.length_underWay, onRunway]
  push_cast
  ring

theorem population_take (reachable : Reachable config state) (running : state.ended = false)
    (isNext : state.Next event) :
    (state.take event).population = state.population +
      (event.time - state.simTime) * state.inside.length := by
  have timely := Reachable.timely reachable
  have later := timely.pending event isNext.1
  have area := Reachable.area_take reachable isNext
  have busy := timeOn_add timely.now_nonneg later (Reachable.flagged reachable)
  have taken : (state.take event).population =
      integral 0 (state.samples .holdingQueueSize) 0 event.time +
        integral 0 (state.samples .parkedPlanes) 0 event.time +
        integral 0 (state.samples .departQueueSize) 0 event.time +
        timeOn state.occupancy 0 event.time := rfl
  rw [taken, area, area, area, busy, Reachable.length_inside reachable running,
    Network.population]
  split <;> ring

/-- Everybody gets older. -/
private theorem sum_ages (planes : List Airplane) (now later : Int) :
    (planes.map fun plane => later - plane.timestamp).sum =
      (planes.map fun plane => now - plane.timestamp).sum + (later - now) * planes.length := by
  induction planes with
  | nil => simp
  | cons plane planes ih =>
      rw [List.map_cons, List.map_cons, List.sum_cons, List.sum_cons, ih, List.length_cons]
      push_cast
      ring

theorem presence_take (isNext : state.Next event) :
    (state.take event).presence + (state.take event).ageOf event = state.presence +
      (event.time - state.simTime) * state.inside.length := by
  have older := sum_ages state.inside state.simTime event.time
  have split := Network.sum_underWay_take isNext.1 fun plane =>
    event.time - plane.timestamp
  have taken : (state.take event).presence =
      ((state.samples .airportResponseTime).map Prod.snd).sum +
        ((state.holdingQueue ++ state.departQueue ++ (state.take event).underWay).map
          fun plane => event.time - plane.timestamp).sum := rfl
  have age : (state.take event).ageOf event =
      if event.entered then event.time - event.airplane.timestamp else 0 := rfl
  rw [taken, age, Network.presence, add_assoc _ _ ((event.time - state.simTime) * _), ← older,
    Network.inside]
  simp only [List.map_append, List.sum_append]
  rw [split]
  ring

/-! ## An event is handled -/

theorem Network.Logs.population (logs : state.Logs next) :
    next.population = state.population := by
  obtain ⟨calls, trace, now⟩ := logs.calls
  have areas : ∀ signal, integral 0 (next.samples signal) 0 state.simTime =
      integral 0 (state.samples signal) 0 state.simTime := by
    intro signal
    rw [samples_append _ calls trace]
    apply integral_congr
    intro instant _ before
    apply valueAt_append_of_lt
    intro sample member
    obtain ⟨record, called, time⟩ := record_of_sample member
    rw [← time, now record called]
    exact before
  have busy : timeOn next.occupancy 0 state.simTime = timeOn state.occupancy 0 state.simTime :=
    timeOn_congr fun instant _ before => logs.past instant before
  rw [Network.population, Network.population, logs.clock, areas, areas, areas, busy]

namespace Network

/-- A new message. -/
theorem presence_append {age : Int}
    (responses : next.samples .airportResponseTime = state.samples .airportResponseTime)
    (clock : next.simTime = state.simTime)
    (holding : next.holdingQueue = state.holdingQueue)
    (depart : next.departQueue = state.departQueue)
    (appended : next.futureEvents = state.futureEvents ++ [event])
    (isAge : state.ageOf event = age) : next.presence = state.presence + age := by
  have underWay : next.underWay = state.underWay ++
      if event.entered then [event.airplane] else [] := by
    rw [Network.underWay, appended, List.filter_append, List.map_append, List.filter_singleton]
    cases event.entered <;> simp [Network.underWay]
  rw [← isAge, presence_eq, presence_eq, responses, clock, holding, depart, underWay,
    List.map_append, List.sum_append, ageOf]
  split
  · rw [List.map_singleton, List.sum_singleton]
    ring
  · rw [List.map_nil, List.sum_nil]
    ring

theorem presence_land (plane : Airplane) :
    (Airspace.land config plane state).presence =
      state.presence + (state.simTime - plane.timestamp) :=
  presence_append rfl rfl rfl rfl rfl rfl

theorem presence_takeOff (plane : Airplane) :
    (ParkingArea.takeOff config plane state).presence =
      state.presence + (state.simTime - plane.timestamp) :=
  presence_append rfl rfl rfl rfl rfl rfl

theorem presence_park (plane : Airplane) :
    (state.park config plane).presence =
      state.presence + (state.simTime - plane.timestamp) :=
  presence_append rfl rfl rfl rfl rfl rfl

theorem presence_scheduleNext :
    (Airspace.scheduleNext config state).presence = state.presence := by
  rw [← add_zero state.presence]
  exact presence_append rfl rfl rfl rfl rfl rfl

/-- The age of an airplane that leaves becomes a sample. -/
theorem presence_depart (plane : Airplane) :
    (state.depart plane).presence = state.presence + (state.simTime - plane.timestamp) := by
  have sampled : (state.depart plane).samples .airportResponseTime =
      (state.simTime, state.simTime - plane.timestamp) ::
        state.samples .airportResponseTime := rfl
  rw [presence, presence, sampled, List.map_cons, List.sum_cons]
  change _ + (state.inside.map fun plane => state.simTime - plane.timestamp).sum = _
  ring

end Network

theorem Completed.presence (completed : Completed config state next) :
    next.presence = state.presence := by
  cases completed with
  | idle => rfl
  | @land plane rest front =>
      rw [Network.presence_land, Network.presence_eq, Network.presence_eq, front, List.map_cons,
        List.sum_cons]
      change _ + (rest.map fun plane => state.simTime - plane.timestamp).sum + _ + _ + _ = _
      ring!
  | @takeOff plane rest front =>
      rw [Network.presence_takeOff, Network.presence_eq, Network.presence_eq, front,
        List.map_cons, List.sum_cons]
      change _ + _ + (rest.map fun plane => state.simTime - plane.timestamp).sum + _ + _ = _
      ring!

theorem Transition.presence (transition : Transition config state event next) :
    next.presence = state.presence + state.ageOf event := by
  have arrives : event.kind = .arrival → state.ageOf event = 0 := by
    intro kind
    simp [Network.ageOf, Event.entered, kind]
  have goesOn : event.kind ≠ .arrival →
      state.ageOf event = state.simTime - event.airplane.timestamp := by
    intro kind
    simp [Network.ageOf, Event.entered, kind]
  cases transition with
  | landNow kind =>
      rw [Network.presence_scheduleNext, Network.presence_land, arrives kind]
      exact congrArg (_ + ·) (sub_self _)
  | hold kind =>
      rw [Network.presence_scheduleNext, arrives kind, add_zero, Network.presence_eq,
        Network.presence_eq, List.map_append, List.sum_append, List.map_singleton,
        List.sum_singleton, sub_self, add_zero]
      rfl
  | takeOffNow kind =>
      rw [Network.presence_takeOff, goesOn (by rw [kind]; decide)]
      rfl
  | queue kind =>
      rw [goesOn (by rw [kind]; decide), Network.presence_eq, Network.presence_eq,
        List.map_append, List.sum_append, List.map_singleton, List.sum_singleton]
      ring!
  | landed kind completed =>
      rw [completed.presence, Network.presence_park, goesOn (by rw [kind]; decide)]
  | left kind _ completed =>
      rw [completed.presence, Network.presence_depart, goesOn (by rw [kind]; decide)]
  | finished kind =>
      rw [goesOn (by rw [kind]; decide), ← Network.presence_depart]
      rfl

/-- In every reachable state the response times sampled so far and the ages of the airplanes in
the system are the areas under the samples of the sizes and the time that the runway was
occupied. -/
theorem area_eq_presence (reachable : Reachable config state) :
    ((state.samples .airportResponseTime).map Prod.snd).sum +
        (state.inside.map fun plane => state.simTime - plane.timestamp).sum =
      integral 0 (state.samples .holdingQueueSize) 0 state.simTime +
        integral 0 (state.samples .parkedPlanes) 0 state.simTime +
        integral 0 (state.samples .departQueueSize) 0 state.simTime +
        timeOn state.occupancy 0 state.simTime := by
  refine Reachable.invariant (fun state => state.presence = state.population) ?_ ?_ reachable
  · rfl
  · intro source event target reached running isNext equal transition
    rw [(Network.Logs.transition transition).population, transition.presence,
      population_take reached running isNext, presence_take isNext, equal]

/-- An overloaded run after ten events, with airplanes in both queues. -/
theorem area_eq_presence_tenth :
    let state := eventLoop (Ini.deterministic 1 2 1 2 5 0) 10
    ((state.samples .airportResponseTime).map Prod.snd).sum +
        (state.inside.map fun plane => state.simTime - plane.timestamp).sum =
      integral 0 (state.samples .holdingQueueSize) 0 state.simTime +
        integral 0 (state.samples .parkedPlanes) 0 state.simTime +
        integral 0 (state.samples .departQueueSize) 0 state.simTime +
        timeOn state.occupancy 0 state.simTime :=
  area_eq_presence (eventLoop_reachable _ 10)

end AirTrafficControl
