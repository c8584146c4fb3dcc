import AirTrafficControl.Safety.Durations
import AirTrafficControl.Safety.Runway
import Mathlib.Tactic.Ring

/-!
# Progress of the event loop

What one round of the event loop does to the counters that a termination argument needs:
it handles one event and keeps the others pending, it moves one airplane one stage ahead,
and it counts a departure exactly when the event is a take-off.
-/

namespace AirTrafficControl

variable {config : Config} {state next : Network} {event : Event}

/-- A round of the event loop that handles `event`. -/
structure Handles (config : Config) (state : Network) (event : Event) (next : Network) :
    Prop where
  isNext : state.Next event
  transition : Transition config (state.take event) event next

theorem Step.handles (timely : Timely state) (step : Step config state next) :
    ∃ event, Handles config state event next := by
  obtain ⟨event, isNext, transition⟩ := step.cases timely
  exact ⟨event, isNext, transition⟩

/-- The event loop is never stuck: the next arrival is always pending, and handlers do not
fail. -/
theorem Reachable.exists_step (reachable : Reachable config state)
    (running : state.ended = false) : ∃ next, Step config state next := by
  obtain ⟨event, least⟩ := Reachable.exists_nextEvent reachable
  obtain ⟨next, delivered, _⟩ :=
    deliver_spec config (Reachable.timely reachable).queuesTimed event
  exact ⟨next, running, event, Network.nextEvent_next least, delivered⟩

/-! ## Pending messages -/

theorem Completed.kept (completed : Completed config state next) :
    state.futureEvents ⊆ next.futureEvents := by
  cases completed with
  | idle => exact List.Subset.refl _
  | land => exact List.subset_append_left _ _
  | takeOff => exact List.subset_append_left _ _

/-- A handler removes no message from the event set. -/
theorem Transition.kept (transition : Transition config state event next) :
    state.futureEvents ⊆ next.futureEvents := by
  cases transition with
  | landNow =>
      exact List.Subset.trans (List.subset_append_left _ _) (List.subset_append_left _ _)
  | hold => exact List.subset_append_left _ _
  | takeOffNow => exact List.subset_append_left _ _
  | queue => exact List.Subset.refl _
  | landed _ completed =>
      exact List.Subset.trans (List.subset_append_left _ _) completed.kept
  | left _ _ completed =>
      have kept := completed.kept
      exact kept
  | finished => exact List.Subset.refl _

/-- Other messages than the handled one stay pending. -/
theorem Handles.kept (handles : Handles config state event next) {other : Event}
    (member : other ∈ state.futureEvents) (different : other ≠ event) :
    other ∈ next.futureEvents :=
  handles.transition.kept ((List.mem_erase_of_ne different).mpr member)

/-! ## Counters -/

/-- The events handled for the airplanes of a state: one for each airplane that has
arrived, two if it has landed, three if it has parked, four if it has left. -/
def Network.handled (state : Network) : Int :=
  (state.holdingQueue.length + state.pending .landing) + 2 * state.pending .parking +
    3 * (state.departQueue.length + state.pending .takeoff) + 4 * state.departedPlanes

/-- A grant of the runway handles no event. -/
theorem Completed.handled (completed : Completed config state next) :
    next.handled = state.handled := by
  cases completed with
  | idle => rfl
  | @land plane rest front =>
      simp only [Network.handled, Network.pending_land]
      simp only [front, Network.pending, Airspace.land_eq, List.length_cons,
        reduceCtorEq, if_true, if_false]
      push_cast
      ring
  | @takeOff plane rest front =>
      simp only [Network.handled, Network.pending_takeOff]
      simp only [front, Network.pending, ParkingArea.takeOff_eq, List.length_cons,
        reduceCtorEq, if_true, if_false]
      push_cast
      ring

/-- Every round handles one event. -/
theorem Handles.handled (handles : Handles config state event next) :
    next.handled = state.handled + 1 := by
  have landing := Network.pending_take handles.isNext.1 .landing
  have parking := Network.pending_take handles.isNext.1 .parking
  have takeoff := Network.pending_take handles.isNext.1 .takeoff
  simp only [Network.pending, Network.take] at landing parking takeoff
  cases handles.transition with
  | landNow kind =>
      simp only [kind, reduceCtorEq, if_false, add_zero] at landing parking takeoff
      simp [Network.handled, Network.pending, Airspace.scheduleNext_eq, Airspace.land_eq,
        Network.setOccupied, Network.take, landing, parking, takeoff]
      ring
  | hold kind =>
      simp only [kind, reduceCtorEq, if_false, add_zero] at landing parking takeoff
      simp [Network.handled, Network.pending, Airspace.scheduleNext_eq, Network.take,
        landing, parking, takeoff]
      ring
  | takeOffNow kind =>
      simp only [kind, reduceCtorEq, if_true, if_false, add_zero] at landing parking takeoff
      simp [Network.handled, Network.pending, ParkingArea.takeOff_eq,
        Network.setOccupied, Network.take, landing, ← parking, takeoff]
      ring
  | queue kind =>
      simp only [kind, reduceCtorEq, if_true, if_false, add_zero] at landing parking takeoff
      simp [Network.handled, Network.pending, Network.take, landing, ← parking, takeoff]
      ring
  | landed kind completed =>
      simp only [kind, reduceCtorEq, if_true, if_false, add_zero] at landing parking takeoff
      rw [completed.handled]
      simp [Network.handled, Network.pending, Network.park, Network.take, ← landing,
        parking, takeoff]
      ring
  | left kind _ completed =>
      simp only [kind, reduceCtorEq, if_true, if_false, add_zero] at landing parking takeoff
      rw [completed.handled]
      simp [Network.handled, Network.pending, Network.depart, Network.take, landing,
        parking, ← takeoff]
      ring
  | finished kind =>
      simp only [kind, reduceCtorEq, if_true, if_false, add_zero] at landing parking takeoff
      simp [Network.handled, Network.pending, Network.depart, Network.take, landing,
        parking, ← takeoff]
      ring

/-- Departures are counted when a take-off is handled. -/
theorem Handles.departedPlanes (handles : Handles config state event next) :
    next.departedPlanes =
      state.departedPlanes + if event.kind = .takeoff then 1 else 0 := by
  cases handles.transition with
  | landNow kind | hold kind | takeOffNow kind | queue kind =>
      rw [kind]
      exact (add_zero _).symm
  | landed kind completed =>
      rw [kind]
      cases completed <;> exact (add_zero _).symm
  | left kind _ completed =>
      rw [kind]
      cases completed <;> rfl
  | finished kind =>
      rw [kind]
      rfl

theorem Reachable.handled_le (reachable : Reachable config state) :
    state.handled ≤ 4 * state.arrivals := by
  have conserved := Reachable.conserved reachable
  have placed := conserved.placed
  rw [conserved.parked] at placed
  have departed : 0 ≤ state.departedPlanes := by
    refine Reachable.invariant (fun state => 0 ≤ state.departedPlanes) le_rfl ?_ reachable
    intro source event target _ _ isNext nonneg transition
    rw [(Handles.mk isNext transition).departedPlanes]
    split <;> omega
  unfold Network.handled
  omega

/-- The clock shows the time of the event that has been handled. -/
theorem Handles.simTime (handles : Handles config state event next) :
    next.simTime = event.time := by
  cases handles.transition with
  | landNow | hold | takeOffNow | queue | finished => rfl
  | landed _ completed | left _ _ completed => cases completed <;> rfl

/-- A new airplane is created when one arrives. -/
theorem Handles.created (handles : Handles config state event next) :
    next.created = state.created + if event.kind = .arrival then 1 else 0 := by
  cases handles.transition with
  | landNow kind | hold kind | takeOffNow kind | queue kind | finished kind =>
      rw [kind]
      rfl
  | landed kind completed | left kind _ completed =>
      rw [kind]
      cases completed <;> rfl

/-- Airplanes that arrive at least one tick apart. -/
theorem arrivalProcess_of_spaced (spaced : ∀ draws,
      1 ≤ config.sim.duration config.par.interArrival draws) :
    ArrivalProcess config fun plane time => (plane + 1 : Int) ≤ time where
  first := by
    intro draws
    simpa using spaced draws
  following := by
    intro plane time draws due
    have gap := spaced draws
    push_cast
    omega

/-- Airplanes that arrive one by one cannot arrive faster than the clock runs. -/
theorem Reachable.arrivals_le (spaced : ∀ draws,
      1 ≤ config.sim.duration config.par.interArrival draws)
    (reachable : Reachable config state) : (state.arrivals : Int) ≤ state.simTime := by
  have created := (Reachable.conserved reachable).created
  suffices bounded : (state.created : Int) ≤ state.simTime + 1 by omega
  refine Reachable.invariant (fun state => (state.created : Int) ≤ state.simTime + 1)
    le_rfl ?_ reachable
  intro source event target reached _ isNext bounded transition
  have handles : Handles config source event target := ⟨isNext, transition⟩
  have later := (Reachable.timely reached).pending event isNext.1
  rw [handles.simTime, handles.created]
  by_cases arrival : event.kind = .arrival
  · obtain ⟨number, due⟩ := (Reachable.arrivals (arrivalProcess_of_spaced spaced)
      reached).pending event isNext.1 arrival
    rw [if_pos arrival]
    omega
  · rw [if_neg arrival]
    omega

end AirTrafficControl
