import AirTrafficControl.Safety.Conservation

/-!
# Durations and arrival times

Every duration in a trace is one that its place in the code computes, and the airplanes
arrive one after the other, each one an inter-arrival time after the one before.
-/

namespace AirTrafficControl

variable {config : Config} {state next : Network}

/-- The durations of a record are those that the code computes at some positions of the
random number streams. -/
def Record.Computed (config : Config) (record : Record) : Prop :=
  match record.call, record.module with
  | .sendDelayed delay, .airspace =>
      ∃ draws, delay = config.sim.duration config.par.landing draws
  | .sendDelayed delay, .parkingArea =>
      ∃ draws, delay = config.sim.duration config.par.takeoff draws
  | .scheduleAt time, .airspace =>
      ∃ draws, time = record.time + config.sim.duration config.par.interArrival draws
  | .scheduleAt time, .parkingArea =>
      ∃ draws, time = record.time + config.sim.duration config.par.parking draws
  | _, _ => True

/-- All durations of a trace are computed ones. -/
def Network.Computed (config : Config) (state : Network) : Prop :=
  ∀ record ∈ state.trace, record.Computed config

namespace Network.Computed

theorem land (computed : state.Computed config) (plane : Airplane) :
    (Airspace.land config plane state).Computed config := by
  unfold Network.Computed
  rw [Airspace.land_eq]
  simp only [List.forall_mem_cons]
  exact ⟨trivial, ⟨_, rfl⟩, computed⟩

theorem takeOff (computed : state.Computed config) (plane : Airplane) :
    (ParkingArea.takeOff config plane state).Computed config := by
  unfold Network.Computed
  rw [ParkingArea.takeOff_eq]
  simp only [List.forall_mem_cons]
  exact ⟨trivial, ⟨_, rfl⟩, computed⟩

theorem scheduleNext (computed : state.Computed config) :
    (Airspace.scheduleNext config state).Computed config := by
  unfold Network.Computed
  rw [Airspace.scheduleNext_eq]
  simp only [List.forall_mem_cons]
  exact ⟨⟨_, rfl⟩, computed⟩

theorem park (computed : state.Computed config) (plane : Airplane) :
    (state.park config plane).Computed config := by
  unfold Network.Computed Network.park
  simp only [List.forall_mem_cons]
  exact ⟨⟨_, rfl⟩, trivial, computed⟩

/-- Calls without a duration add nothing to show. -/
private theorem quiet (computed : state.Computed config) (calls : List Record)
    (timeless : ∀ record ∈ calls, record.Computed config)
    (trace : next.trace = calls ++ state.trace) : next.Computed config := by
  unfold Network.Computed
  rw [trace, List.forall_mem_append]
  exact ⟨timeless, computed⟩

theorem completed (computed : state.Computed config)
    (completed : Completed config state next) : next.Computed config := by
  cases completed with
  | idle => exact computed
  | land =>
      apply Computed.land
      exact computed.quiet [_, _] (by simp [Record.Computed]) rfl
  | takeOff =>
      apply Computed.takeOff
      exact computed.quiet [_, _] (by simp [Record.Computed]) rfl

theorem transition (computed : state.Computed config) {event : Event}
    (transition : Transition config state event next) : next.Computed config := by
  cases transition with
  | landNow =>
      apply Computed.scheduleNext
      apply Computed.land
      exact computed.quiet [_, _, _] (by simp [Record.Computed]) rfl
  | hold =>
      apply Computed.scheduleNext
      exact computed.quiet [_, _] (by simp [Record.Computed]) rfl
  | takeOffNow =>
      apply Computed.takeOff
      exact computed.quiet [_, _, _, _] (by simp [Record.Computed]) rfl
  | queue => exact computed.quiet [_, _, _] (by simp [Record.Computed]) rfl
  | landed _ completed =>
      refine Computed.completed ?_ completed
      exact computed.park event.airplane
  | left _ _ completed =>
      refine Computed.completed ?_ completed
      exact computed.quiet [_, _] (by simp [Record.Computed]) rfl
  | finished => exact computed.quiet [_, _, _, _] (by simp [Record.Computed]) rfl

end Network.Computed

theorem Reachable.computed (reachable : Reachable config state) :
    state.Computed config := by
  refine Reachable.invariant (Network.Computed config) ?_ ?_ reachable
  · apply Network.Computed.scheduleNext
    intro record member
    cases member
  · intro source event target _ _ _ computed transition
    have taken : (source.take event).Computed config := computed
    exact taken.transition transition

/-! ## The arrival process -/

/-- A predicate on airplanes and their arrival times that the arrival process keeps. -/
structure ArrivalProcess (config : Config) (admissible : Nat → Int → Prop) : Prop where
  first : ∀ draws, admissible 0 (config.sim.duration config.par.interArrival draws)
  following : ∀ plane time draws, admissible plane time →
    admissible (plane + 1) (time + config.sim.duration config.par.interArrival draws)

/-- The arrivals so far and the next one satisfy a predicate. -/
structure Network.Arrivals (admissible : Nat → Int → Prop) (state : Network) : Prop where
  pending : ∀ event ∈ state.futureEvents, event.kind = .arrival →
    event.airplane.id + 1 = state.created ∧ admissible event.airplane.id event.time
  asked : ∀ record ∈ state.trace, record.isArrival = true →
    admissible record.plane record.time

namespace Network.Arrivals

variable {admissible : Nat → Int → Prop}

/-- Handlers of other messages neither create nor receive arrivals. -/
private theorem unchanged (arrivals : state.Arrivals admissible)
    (created : next.created = state.created)
    (events : ∀ event ∈ next.futureEvents, event.kind = .arrival →
      event ∈ state.futureEvents)
    (trace : ∀ record ∈ next.trace, record.isArrival = true → record ∈ state.trace) :
    next.Arrivals admissible := by
  constructor
  · intro event member arrival
    rw [created]
    exact arrivals.pending event (events event member arrival) arrival
  · intro record member arrival
    exact arrivals.asked record (trace record member arrival) arrival

private theorem completed (arrivals : state.Arrivals admissible)
    (completed : Completed config state next) : next.Arrivals admissible := by
  cases completed with
  | idle => exact ⟨arrivals.pending, arrivals.asked⟩
  | land =>
      refine arrivals.unchanged rfl ?_ ?_
      · simp +contextual [Airspace.land_eq, or_imp]
      · simp +contextual [Airspace.land_eq, or_imp]
  | takeOff =>
      refine arrivals.unchanged rfl ?_ ?_
      · simp +contextual [ParkingArea.takeOff_eq, or_imp]
      · simp +contextual [ParkingArea.takeOff_eq, or_imp]

/-- The handler of an arrival schedules the next one. -/
private theorem scheduleNext (process : ArrivalProcess config admissible) {plane : Nat}
    (created : plane + 1 = state.created) (due : admissible plane state.simTime)
    (none : ∀ event ∈ state.futureEvents, event.kind ≠ .arrival)
    (asked : ∀ record ∈ state.trace, record.isArrival = true →
      admissible record.plane record.time) :
    (Airspace.scheduleNext config state).Arrivals admissible := by
  rw [Airspace.scheduleNext_eq]
  constructor
  · intro event member arrival
    rcases List.mem_append.mp member with before | new
    · exact absurd arrival (none event before)
    · rw [List.mem_singleton.mp new, ← created]
      exact ⟨rfl, process.following plane state.simTime state.rngDraws due⟩
  · intro record member arrival
    rcases List.mem_cons.mp member with rfl | before
    · simp at arrival
    · exact asked record before arrival

theorem transition (process : ArrivalProcess config admissible)
    (conserved : Conserved state) (arrivals : state.Arrivals admissible) {event : Event}
    (member : event ∈ state.futureEvents)
    (transition : Transition config (state.take event) event next) :
    next.Arrivals admissible := by
  have taken : (state.take event).Arrivals admissible :=
    ⟨fun other remains => arrivals.pending other (List.mem_of_mem_erase remains),
      arrivals.asked⟩
  cases transition with
  | landNow kind =>
      obtain ⟨created, due⟩ := arrivals.pending event member kind
      refine scheduleNext process created due ?_ ?_
      · intro other remains
        rw [Airspace.land_eq] at remains
        rcases List.mem_append.mp remains with before | new
        · exact conserved.last_arrival member kind other before
        · rw [List.mem_singleton.mp new]
          simp
      · rw [Airspace.land_eq]
        simpa using ⟨due, taken.asked⟩
  | hold kind =>
      obtain ⟨created, due⟩ := arrivals.pending event member kind
      refine scheduleNext process created due (conserved.last_arrival member kind) ?_
      simpa using ⟨due, taken.asked⟩
  | takeOffNow =>
      refine taken.unchanged rfl ?_ ?_
      · simp +contextual [ParkingArea.takeOff_eq, Network.setOccupied, or_imp]
      · simp +contextual [ParkingArea.takeOff_eq, or_imp]
  | queue =>
      refine taken.unchanged rfl (fun _ remains _ => remains) ?_
      simp +contextual [or_imp]
  | landed _ completed =>
      refine Arrivals.completed ?_ completed
      refine taken.unchanged rfl ?_ ?_
      · simp +contextual [Network.park, or_imp]
      · simp +contextual [Network.park, or_imp]
  | left _ _ completed =>
      refine Arrivals.completed ?_ completed
      refine taken.unchanged rfl ?_ ?_
      · exact fun _ remains _ => remains
      · simp +contextual [Network.depart, or_imp]
  | finished =>
      refine taken.unchanged rfl (fun _ remains _ => remains) ?_
      simp +contextual [Network.depart, or_imp]

end Network.Arrivals

/-- What the arrival process keeps holds of every arrival. -/
theorem Reachable.arrivals {admissible : Nat → Int → Prop}
    (process : ArrivalProcess config admissible) (reachable : Reachable config state) :
    state.Arrivals admissible := by
  refine Reachable.invariant (Network.Arrivals admissible) ?_ ?_ reachable
  · constructor
    · intro event member _
      rw [List.mem_singleton.mp member]
      refine ⟨rfl, ?_⟩
      have first := process.first fun _ => 0
      rwa [← zero_add (config.sim.duration _ _)] at first
    · intro record member arrival
      rw [List.mem_singleton.mp member] at arrival
      simp at arrival
  · intro source event target reached _ isNext arrivals transition
    exact arrivals.transition process (Reachable.conserved reached) isNext.1 transition

end AirTrafficControl
