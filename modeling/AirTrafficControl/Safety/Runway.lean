import AirTrafficControl.Safety.Pending
import AirTrafficControl.Model.Ini

/-!
# The runway

The flag of the control tower, the two queues and the event set agree in every state
between two events: the strip is occupied exactly while one landing or take-off is in the
event set, and airplanes wait only while it is occupied.  `notify` looks at the flag
alone, so it is the second part that makes its immediate grants fair.
-/

namespace AirTrafficControl

variable {config : Config} {state next : Network}

/-- Agreement between the flag, the queues and the event set. -/
structure RunwayConsistent (state : Network) : Prop where
  pending : state.runwayMessages = if state.landingStripOccupied then 1 else 0
  idle : state.landingStripOccupied = false →
    state.holdingQueue = [] ∧ state.departQueue = []

/-- `completed` is called with the strip occupied and no runway message pending, and
restores the agreement. -/
theorem RunwayConsistent.completed (completed : Completed config state next)
    (occupied : state.landingStripOccupied = true) (none : state.runwayMessages = 0) :
    RunwayConsistent next := by
  cases completed with
  | idle noHolding noDepart => exact ⟨none, fun _ => ⟨noHolding, noDepart⟩⟩
  | land =>
      refine ⟨?_, fun free => nomatch occupied.symm.trans free⟩
      rw [Network.runwayMessages_land]
      exact (congrArg (· + 1) none).trans (by rw [Airspace.land_eq]; simp [occupied])
  | takeOff =>
      refine ⟨?_, fun free => nomatch occupied.symm.trans free⟩
      rw [Network.runwayMessages_takeOff]
      exact (congrArg (· + 1) none).trans (by rw [ParkingArea.takeOff_eq]; simp [occupied])

/-- While the handler of a landing or take-off runs, the strip is occupied and no runway
message is pending. -/
theorem RunwayConsistent.released (consistent : RunwayConsistent state)
    {event : Event} (member : event ∈ state.futureEvents)
    (runway : event.kind = .landing ∨ event.kind = .takeoff) :
    state.landingStripOccupied = true ∧ (state.take event).runwayMessages = 0 := by
  have taken := Network.runwayMessages_take member
  have pending := consistent.pending
  rw [if_pos runway] at taken
  cases occupied : state.landingStripOccupied with
  | false =>
      rw [occupied] at pending
      simp only [Bool.false_eq_true, if_false] at pending
      omega
  | true =>
      rw [occupied] at pending
      simp only [if_true] at pending
      exact ⟨rfl, by omega⟩

theorem RunwayConsistent.transition (consistent : RunwayConsistent state)
    {event : Event} (member : event ∈ state.futureEvents)
    (transition : Transition config (state.take event) event next)
    (running : next.ended = false) : RunwayConsistent next := by
  have taken := Network.runwayMessages_take member
  have pending := consistent.pending
  cases transition with
  | landNow kind free =>
      have free : state.landingStripOccupied = false := free
      have none : (state.take event).runwayMessages = 0 := by
        simpa [kind, pending, free] using taken
      refine ⟨?_, fun free => Bool.noConfusion free⟩
      rw [Network.runwayMessages_scheduleNext, Network.runwayMessages_land]
      exact congrArg (· + 1) none
  | hold kind occupied =>
      have occupied : state.landingStripOccupied = true := occupied
      have one : (state.take event).runwayMessages = 1 := by
        simpa [kind, pending, occupied] using taken
      refine ⟨?_, fun free => Bool.noConfusion (occupied.symm.trans free)⟩
      rw [Network.runwayMessages_scheduleNext]
      exact one.trans (by rw [Airspace.scheduleNext_eq]; simp [Network.take, occupied])
  | takeOffNow kind free =>
      have free : state.landingStripOccupied = false := free
      have none : (state.take event).runwayMessages = 0 := by
        simpa [kind, pending, free] using taken
      refine ⟨?_, fun free => Bool.noConfusion free⟩
      rw [Network.runwayMessages_takeOff]
      exact congrArg (· + 1) none
  | queue kind occupied =>
      have occupied : state.landingStripOccupied = true := occupied
      have one : (state.take event).runwayMessages = 1 := by
        simpa [kind, pending, occupied] using taken
      refine ⟨?_, fun free => Bool.noConfusion (occupied.symm.trans free)⟩
      exact one.trans (by simp [Network.take, occupied])
  | landed kind completed =>
      obtain ⟨occupied, none⟩ := consistent.released member (.inl kind)
      apply RunwayConsistent.completed completed occupied
      rw [Network.runwayMessages_park]
      exact none
  | left kind _ completed =>
      obtain ⟨occupied, none⟩ := consistent.released member (.inr kind)
      exact RunwayConsistent.completed completed occupied none
  | finished => cases running

/-- The runway invariant of every run. -/
theorem Reachable.runwayConsistent (reachable : Reachable config state)
    (running : state.ended = false) : RunwayConsistent state := by
  revert running
  refine Reachable.invariant
    (fun state => state.ended = false → RunwayConsistent state) ?_ ?_ reachable
  · intro _
    constructor
    · simp [Network.runwayMessages]; rfl
    · intro _
      exact ⟨rfl, rfl⟩
  · intro source event target _ sourceRunning isNext consistent transition running
    exact (consistent sourceRunning).transition isNext.1 transition running

/-- In every run, in every state between two events before the end of the simulation, at
most one landing or take-off is in the event set, the strip is occupied exactly when there
is one, and both queues are empty when it is free. -/
theorem runway_invariant (reachable : Reachable config state)
    (running : state.ended = false) :
    state.runwayMessages ≤ 1 ∧
      (state.landingStripOccupied = true ↔ state.runwayMessages = 1) ∧
      (state.landingStripOccupied = false →
        state.holdingQueue = [] ∧ state.departQueue = []) := by
  have consistent := Reachable.runwayConsistent reachable running
  have pending := consistent.pending
  refine ⟨?_, ?_, consistent.idle⟩
  · rw [pending]
    split <;> omega
  · cases occupied : state.landingStripOccupied <;> simp [pending, occupied]

/-- A small run after six events, with an airplane on the runway. -/
theorem runway_invariant_sixth :
    let state := eventLoop (Ini.deterministic 2 1 3 1 5 0) 6
    state.runwayMessages ≤ 1 ∧
      (state.landingStripOccupied = true ↔ state.runwayMessages = 1) ∧
      (state.landingStripOccupied = false →
        state.holdingQueue = [] ∧ state.departQueue = []) :=
  runway_invariant (eventLoop_reachable _ 6) (by decide)

end AirTrafficControl
