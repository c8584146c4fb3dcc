import AirTrafficControl.Model.Run
import Mathlib.Tactic.Linarith

/-!
# The clock

In every reachable state no pending message lies in the past, and both queues hold their
airplanes in the order of their arrival times, which lie between zero and now.  With this
each round of the event loop is a `Transition`, and no round fails.
-/

namespace AirTrafficControl

variable (config : Config)

/-- A queue ordered by arrival time, with no arrival in the future. -/
structure QueueTimely (now : Int) (queue : List Airplane) : Prop where
  nonneg : ∀ plane ∈ queue, 0 ≤ plane.queueArrivalTime
  past : ∀ plane ∈ queue, plane.queueArrivalTime ≤ now
  sorted : queue.Pairwise fun first second =>
    first.queueArrivalTime ≤ second.queueArrivalTime

/-- No clock runs backwards. -/
structure Timely (state : Network) : Prop where
  now_nonneg : 0 ≤ state.simTime
  pending : ∀ event ∈ state.futureEvents, state.simTime ≤ event.time
  holding : QueueTimely state.simTime state.holdingQueue
  depart : QueueTimely state.simTime state.departQueue

namespace QueueTimely

variable {now later : Int} {queue : List Airplane}

theorem nil : QueueTimely now [] := ⟨by simp, by simp, .nil⟩

theorem mono (timely : QueueTimely now queue) (ordered : now ≤ later) :
    QueueTimely later queue :=
  ⟨timely.nonneg, fun plane member => (timely.past plane member).trans ordered,
    timely.sorted⟩

theorem tail {plane : Airplane} (timely : QueueTimely now (plane :: queue)) :
    QueueTimely now queue :=
  ⟨fun other member => timely.nonneg other (List.mem_cons_of_mem _ member),
    fun other member => timely.past other (List.mem_cons_of_mem _ member),
    timely.sorted.of_cons⟩

/-- The airplane in front has waited longest. -/
theorem front_le {plane other : Airplane} (timely : QueueTimely now (plane :: queue))
    (member : other ∈ plane :: queue) :
    plane.queueArrivalTime ≤ other.queueArrivalTime := by
  rcases List.mem_cons.mp member with equal | behind
  · exact equal ▸ le_rfl
  · exact (List.pairwise_cons.mp timely.sorted).1 other behind

theorem head_le {other : Airplane} (timely : QueueTimely now queue)
    (member : other ∈ queue) :
    ∃ first ∈ queue.head?, first.queueArrivalTime ≤ other.queueArrivalTime := by
  cases queue with
  | nil => cases member
  | cons first rest => exact ⟨first, rfl, timely.front_le member⟩

/-- An airplane that arrives now goes to the end. -/
theorem insert {plane : Airplane} (timely : QueueTimely now queue)
    (nonneg : 0 ≤ now) (arrives : plane.queueArrivalTime = now) :
    QueueTimely now (queue ++ [plane]) := by
  refine ⟨?_, ?_, ?_⟩
  · intro other member
    rcases List.mem_append.mp member with before | new
    · exact timely.nonneg other before
    · rw [List.mem_singleton.mp new, arrives]
      exact nonneg
  · intro other member
    rcases List.mem_append.mp member with before | new
    · exact timely.past other before
    · rw [List.mem_singleton.mp new, arrives]
  · refine List.pairwise_append.mpr ⟨timely.sorted, List.pairwise_singleton _ _, ?_⟩
    intro other before last new
    rw [List.mem_singleton.mp new, arrives]
    exact timely.past other before

end QueueTimely

namespace Timely

variable {config} {state next : Network}

theorem queuesTimed (timely : Timely state) : QueuesTimed state :=
  ⟨timely.holding.nonneg, timely.depart.nonneg⟩

/-- The clock moves to the next event. -/
theorem take (timely : Timely state) {event : Event} (isNext : state.Next event) :
    Timely (state.take event) := by
  have ordered : state.simTime ≤ event.time := timely.pending event isNext.1
  refine ⟨timely.now_nonneg.trans ordered, ?_, timely.holding.mono ordered,
    timely.depart.mono ordered⟩
  intro other member
  exact isNext.2 other (List.mem_of_mem_erase member)

/-- A message scheduled for now or later keeps the event set timely. -/
private theorem pending_append (timely : Timely state) {event : Event}
    (future : state.simTime ≤ event.time) :
    ∀ other ∈ state.futureEvents ++ [event], state.simTime ≤ other.time := by
  intro other member
  rcases List.mem_append.mp member with before | new
  · exact timely.pending other before
  · exact List.mem_singleton.mp new ▸ future

theorem land (timely : Timely state) (plane : Airplane) :
    Timely (Airspace.land config plane state) := by
  have nonneg := config.sim.duration_nonneg config.par.landing state.rngDraws
  exact ⟨timely.now_nonneg, timely.pending_append (le_add_of_nonneg_right nonneg),
    timely.holding, timely.depart⟩

theorem takeOff (timely : Timely state) (plane : Airplane) :
    Timely (ParkingArea.takeOff config plane state) := by
  have nonneg := config.sim.duration_nonneg config.par.takeoff state.rngDraws
  exact ⟨timely.now_nonneg, timely.pending_append (le_add_of_nonneg_right nonneg),
    timely.holding, timely.depart⟩

theorem park (timely : Timely state) (plane : Airplane) :
    Timely (state.park config plane) := by
  have nonneg := config.sim.duration_nonneg config.par.parking state.rngDraws
  exact ⟨timely.now_nonneg, timely.pending_append (le_add_of_nonneg_right nonneg),
    timely.holding, timely.depart⟩

theorem scheduleNext (timely : Timely state) :
    Timely (Airspace.scheduleNext config state) := by
  have nonneg := config.sim.duration_nonneg config.par.interArrival state.rngDraws
  exact ⟨timely.now_nonneg, timely.pending_append (le_add_of_nonneg_right nonneg),
    timely.holding, timely.depart⟩

theorem completed (timely : Timely state) (completed : Completed config state next) :
    Timely next := by
  cases completed with
  | idle => exact ⟨timely.now_nonneg, timely.pending, timely.holding, timely.depart⟩
  | @land plane rest front older =>
      have holding := timely.holding
      rw [front] at holding
      apply Timely.land
      exact ⟨timely.now_nonneg, timely.pending, holding.tail, timely.depart⟩
  | @takeOff plane rest front older =>
      have depart := timely.depart
      rw [front] at depart
      apply Timely.takeOff
      exact ⟨timely.now_nonneg, timely.pending, timely.holding, depart.tail⟩

theorem transition (timely : Timely state) {event : Event}
    (transition : Transition config state event next) : Timely next := by
  cases transition with
  | landNow =>
      apply Timely.scheduleNext
      apply Timely.land
      exact ⟨timely.now_nonneg, timely.pending, timely.holding, timely.depart⟩
  | hold =>
      apply Timely.scheduleNext
      exact ⟨timely.now_nonneg, timely.pending,
        timely.holding.insert timely.now_nonneg rfl, timely.depart⟩
  | takeOffNow =>
      apply Timely.takeOff
      exact ⟨timely.now_nonneg, timely.pending, timely.holding, timely.depart⟩
  | queue =>
      exact ⟨timely.now_nonneg, timely.pending, timely.holding,
        timely.depart.insert timely.now_nonneg rfl⟩
  | landed _ completed => exact (timely.park event.airplane).completed completed
  | left _ _ completed =>
      have departed : Timely (state.depart event.airplane) :=
        ⟨timely.now_nonneg, timely.pending, timely.holding, timely.depart⟩
      exact departed.completed completed
  | finished =>
      exact ⟨timely.now_nonneg, timely.pending, timely.holding, timely.depart⟩

end Timely

/-! ## Rounds of the event loop as transitions -/

variable {config}

/-- Inversion of one round of the event loop. -/
theorem Step.cases {state next : Network} (timely : Timely state)
    (step : Step config state next) :
    ∃ event, state.Next event ∧ Transition config (state.take event) event next := by
  obtain ⟨_, event, isNext, result⟩ := step
  obtain ⟨other, delivered, transition⟩ :=
    deliver_spec config timely.queuesTimed event
  rw [result, Option.some.injEq] at delivered
  exact ⟨event, isNext, delivered ▸ transition⟩

theorem Step.running {state next : Network} (step : Step config state next) :
    state.ended = false := step.1

theorem initialState_timely : Timely (initialState config) := by
  have start : Timely Network.blank := ⟨le_rfl, by simp [Network.blank], .nil, .nil⟩
  have scheduled : Timely (Airspace.scheduleNext config .blank) := start.scheduleNext
  exact ⟨scheduled.now_nonneg, scheduled.pending, .nil, .nil⟩

theorem Reachable.timely {state : Network} (reachable : Reachable config state) :
    Timely state := by
  refine TransitionSystem.invariant Timely initialState_timely ?_ reachable
  intro source target _ timely step
  obtain ⟨event, isNext, transition⟩ := step.cases timely
  exact (timely.take isNext).transition transition

/-- Invariant rule: a property that holds initially and that every transition of a
reachable, running state preserves holds in every reachable state. -/
theorem Reachable.invariant (property : Network → Prop)
    (initially : property (initialState config))
    (preserved : ∀ source event target, Reachable config source →
      source.ended = false → source.Next event → property source →
      Transition config (source.take event) event target → property target)
    {state : Network} (reachable : Reachable config state) : property state := by
  refine TransitionSystem.invariant property initially ?_ reachable
  intro source target reached holds step
  obtain ⟨event, isNext, transition⟩ := step.cases (Reachable.timely reached)
  exact preserved source event target reached step.running isNext holds transition

end AirTrafficControl
