import AirTrafficControl.Queue.Choice
import AirTrafficControl.Statistics.Collected

/-!
# Samples of sizes

The lengths of the queues and the number of parked airplanes are sampled whenever they
change.  An immediate grant samples a queue length of zero without looking at the queue,
which is right because a free runway means that nobody waits.  So the latest sample always
tells the size.
-/

namespace AirTrafficControl

variable {config : Config} {state next : Network} {event : Event}

/-- The value of the latest sample of a signal, zero if there is none. -/
def Network.latest (state : Network) (signal : Signal) : Int :=
  (state.samples signal).head?.elim 0 Prod.snd

/-- The latest samples tell the sizes. -/
structure Network.Tracked (state : Network) : Prop where
  sizes : ∀ module : SimpleModule,
    state.latest module.queueSize = (state.queue module).length
  parked : state.latest .parkedPlanes = state.numParked

namespace Network.Tracked

private theorem length_snoc (queue : List Airplane) (plane : Airplane) :
    ((queue.length + 1 : Nat) : Int) = (queue ++ [plane]).length := by
  rw [List.length_append]
  rfl

theorem completed (tracked : state.Tracked) (completed : Completed config state next) :
    next.Tracked := by
  cases completed with
  | idle => exact ⟨tracked.sizes, tracked.parked⟩
  | land =>
      refine ⟨?_, tracked.parked⟩
      intro module
      cases module with
      | airspace => rfl
      | parkingArea => exact tracked.sizes .parkingArea
  | takeOff =>
      refine ⟨?_, tracked.parked⟩
      intro module
      cases module with
      | airspace => exact tracked.sizes .airspace
      | parkingArea => rfl

/-- A free runway means that both queues are empty. -/
theorem transition (tracked : state.Tracked)
    (idle : state.landingStripOccupied = false →
      state.holdingQueue = [] ∧ state.departQueue = [])
    (transition : Transition config state event next) : next.Tracked := by
  cases transition with
  | landNow _ free =>
      refine ⟨?_, tracked.parked⟩
      intro module
      cases module with
      | airspace =>
          have empty := congrArg (fun queue => (List.length queue : Int)) (idle free).1
          exact empty.symm
      | parkingArea => exact tracked.sizes .parkingArea
  | hold =>
      refine ⟨?_, tracked.parked⟩
      intro module
      cases module with
      | airspace => exact length_snoc _ _
      | parkingArea => exact tracked.sizes .parkingArea
  | takeOffNow _ free =>
      refine ⟨?_, rfl⟩
      intro module
      cases module with
      | airspace => exact tracked.sizes .airspace
      | parkingArea =>
          have empty := congrArg (fun queue => (List.length queue : Int)) (idle free).2
          exact empty.symm
  | queue =>
      refine ⟨?_, rfl⟩
      intro module
      cases module with
      | airspace => exact tracked.sizes .airspace
      | parkingArea => exact length_snoc _ _
  | landed _ completed =>
      refine Tracked.completed ?_ completed
      refine ⟨?_, rfl⟩
      intro module
      cases module <;> exact tracked.sizes _
  | left _ _ completed =>
      refine Tracked.completed ?_ completed
      refine ⟨?_, tracked.parked⟩
      intro module
      cases module <;> exact tracked.sizes _
  | finished =>
      refine ⟨?_, tracked.parked⟩
      intro module
      cases module <;> exact tracked.sizes _

end Network.Tracked

theorem Reachable.tracked (reachable : Reachable config state) : state.Tracked := by
  refine Reachable.invariant Network.Tracked ⟨?_, rfl⟩ ?_ reachable
  · intro module
    cases module <;> rfl
  · intro source event target reached running _ tracked transition
    have taken : (source.take event).Tracked := by
      refine ⟨?_, tracked.parked⟩
      intro module
      cases module <;> exact tracked.sizes _
    exact taken.transition (Reachable.runwayConsistent reached running).idle transition

/-- In every reachable state the latest samples of the queue sizes are the lengths of the
queues, and the latest sample of the parked airplanes is the number of airplanes whose
parking time is still running. -/
theorem samples_track (reachable : Reachable config state) :
    state.latest .holdingQueueSize = state.holdingQueue.length ∧
      state.latest .departQueueSize = state.departQueue.length ∧
      state.latest .parkedPlanes = state.pending .parking := by
  have tracked := Reachable.tracked reachable
  refine ⟨tracked.sizes .airspace, tracked.sizes .parkingArea, ?_⟩
  rw [tracked.parked]
  exact (Reachable.conserved reachable).parked

/-- An overloaded run after ten events, with airplanes in both queues. -/
theorem samples_track_tenth :
    let state := eventLoop (Ini.deterministic 1 2 1 2 5 0) 10
    state.latest .holdingQueueSize = state.holdingQueue.length ∧
      state.latest .departQueueSize = state.departQueue.length ∧
      state.latest .parkedPlanes = state.pending .parking :=
  samples_track (eventLoop_reachable _ 10)

end AirTrafficControl
