import AirTrafficControl.Safety.Runway
import Mathlib.Data.Prod.Lex

/-!
# The choice of the next airplane

`ControlTower::completed` compares the two airplanes in front of the queues only, and takes
a negative time for an empty queue.  Since both queues are ordered by the times of the
requests, its choice is the first among all airplanes that wait.
-/

namespace AirTrafficControl

variable {config : Config} {state call next : Network} {event : Event}

/-- The queue of a module. -/
def Network.queue (state : Network) : SimpleModule → List Airplane
  | .airspace => state.holdingQueue
  | .parkingArea => state.departQueue

/-- Landings go before take-offs. -/
def SimpleModule.rank : SimpleModule → Nat
  | .airspace => 0
  | .parkingArea => 1

/-- The turn of an airplane that waits: by the time of its request, then landings before
take-offs, then by its place in the queue. -/
def SimpleModule.turn (module : SimpleModule) (place : Nat) (plane : Airplane) :
    Int ×ₗ Nat ×ₗ Nat :=
  toLex (plane.queueArrivalTime, toLex (module.rank, place))

/-- The states in which a handler calls `completed`: a landing is over, or a take-off that
is not the last one. -/
inductive CallsCompleted (config : Config) (state : Network) (event : Event) :
    Network → Prop where
  | landed :
      event.kind = .landing →
      CallsCompleted config state event ((state.take event).park config event.airplane)
  | left :
      event.kind = .takeoff → state.departedPlanes + 1 < config.totalSamples →
      CallsCompleted config state event ((state.take event).depart event.airplane)

namespace CallsCompleted

/-- The handler ends with the call. -/
theorem deliver_eq (calls : CallsCompleted config state event call) :
    deliver config event state = ControlTower.completed config call := by
  obtain ⟨time, module, isSelfMessage, airplane⟩ := event
  cases calls with
  | landed kind =>
      cases module <;> cases isSelfMessage <;> cases kind
      rfl
  | left kind more =>
      cases module <;> cases isSelfMessage <;> cases kind
      exact if_pos more

theorem timely (calls : CallsCompleted config state event call) (timely : Timely state)
    (isNext : state.Next event) : Timely call := by
  have taken := timely.take isNext
  cases calls with
  | landed => exact taken.park event.airplane
  | left => exact ⟨taken.now_nonneg, taken.pending, taken.holding, taken.depart⟩

theorem occupied (calls : CallsCompleted config state event call)
    (consistent : RunwayConsistent state) (isNext : state.Next event) :
    call.landingStripOccupied = true := by
  cases calls with
  | landed kind => exact (consistent.released isNext.1 (.inl kind)).1
  | left kind => exact (consistent.released isNext.1 (.inr kind)).1

end CallsCompleted

/-- The front of a queue has the first turn if it is not younger than the front of the
other queue, with the rank deciding between equals. -/
private theorem turn_le {module : SimpleModule} {plane : Airplane} (timely : Timely call)
    (front : plane ∈ (call.queue module).head?)
    (first : ∀ rival ∈ (call.queue module.out).head?,
      plane.queueArrivalTime < rival.queueArrivalTime ∨
        plane.queueArrivalTime = rival.queueArrivalTime ∧ module.rank < module.out.rank)
    {other : SimpleModule} {place : Nat} {waiting : Airplane}
    (waits : (call.queue other)[place]? = some waiting) :
    module.turn 0 plane ≤ other.turn place waiting := by
  have sorted : ∀ queue : SimpleModule, QueueTimely call.simTime (call.queue queue) := by
    intro queue
    cases queue with
    | airspace => exact timely.holding
    | parkingArea => exact timely.depart
  have member : waiting ∈ call.queue other := List.mem_of_getElem? waits
  obtain ⟨rival, isFront, older⟩ := (sorted other).head_le member
  have ranked : plane.queueArrivalTime < waiting.queueArrivalTime ∨
      plane.queueArrivalTime = waiting.queueArrivalTime ∧ module.rank ≤ other.rank := by
    by_cases same : other = module
    · subst same
      rw [Option.mem_unique front isFront]
      rcases older.lt_or_eq with before | equal
      · exact .inl before
      · exact .inr ⟨equal, le_rfl⟩
    · have rivals : other = module.out := by
        cases other <;> cases module <;> first | rfl | exact absurd rfl same
      subst rivals
      rcases first rival isFront with before | ⟨equal, rank⟩
      · exact .inl (before.trans_le older)
      · rcases older.lt_or_eq with before | still
        · exact .inl (equal ▸ before)
        · exact .inr ⟨equal.trans still, rank.le⟩
  rw [SimpleModule.turn, SimpleModule.turn, Prod.Lex.toLex_le_toLex]
  rcases ranked with before | ⟨equal, rank⟩
  · exact .inl before
  · refine .inr ⟨equal, Prod.Lex.toLex_le_toLex.mpr ?_⟩
    rcases rank.lt_or_eq with lower | same
    · exact .inl lower
    · exact .inr ⟨same, Nat.zero_le place⟩

/-- What `completed` does with an airplane that it lets go on. -/
private structure Chosen (call : Network) (module : SimpleModule) (plane : Airplane)
    (next : Network) : Prop where
  popped : ∃ rest, call.queue module = plane :: rest ∧ next.queue module = rest
  kept : next.queue module.out = call.queue module.out
  starts : ∃ duration, 0 ≤ duration ∧ next.futureEvents = call.futureEvents ++
    [⟨call.simTime + duration, module.out, false, plane⟩]
  flag : next.landingStripOccupied = call.landingStripOccupied
  first : ∀ rival ∈ (call.queue module.out).head?,
    plane.queueArrivalTime < rival.queueArrivalTime ∨
      plane.queueArrivalTime = rival.queueArrivalTime ∧ module.rank < module.out.rank

private theorem Completed.chosen (completed : Completed config call next) :
    ((∀ module, call.queue module = []) ∧ next = call.setOccupied false) ∨
      ∃ module plane, Chosen call module plane next := by
  cases completed with
  | idle noHolding noDepart =>
      refine .inl ⟨?_, rfl⟩
      intro module
      cases module with
      | airspace => exact noHolding
      | parkingArea => exact noDepart
  | @land plane rest front older =>
      refine .inr ⟨.airspace, plane, ⟨rest, front, rfl⟩, rfl,
        ⟨_, config.sim.duration_nonneg config.par.landing call.rngDraws, rfl⟩, rfl, ?_⟩
      intro rival isFront
      rcases (older rival isFront).lt_or_eq with before | equal
      · exact .inl before
      · exact .inr ⟨equal, Nat.zero_lt_one⟩
  | @takeOff plane rest front older =>
      exact .inr ⟨.parkingArea, plane, ⟨rest, front, rfl⟩, rfl,
        ⟨_, config.sim.duration_nonneg config.par.takeoff call.rngDraws, rfl⟩, rfl,
        fun rival isFront => .inl (older rival isFront)⟩

/-- The airplane at a place of a queue has the first turn among all airplanes that wait.  It
alone leaves its queue, for the runway, which stays occupied. -/
structure Network.GoesOn (call : Network) (module : SimpleModule) (place : Nat)
    (plane : Airplane) (next : Network) : Prop where
  waits : (call.queue module)[place]? = some plane
  first : ∀ other index waiting, (call.queue other)[index]? = some waiting →
    SimpleModule.turn module place plane ≤ other.turn index waiting
  removed : next.queue module = (call.queue module).eraseIdx place
  kept : ∀ other, other ≠ module → next.queue other = call.queue other
  starts : ∃ duration, 0 ≤ duration ∧ next.futureEvents = call.futureEvents ++
    [⟨call.simTime + duration, module.out, false, plane⟩]
  occupied : next.landingStripOccupied = true

/-- Whenever `completed` is called, it lets the airplane go on whose turn it is among all
that wait in both queues, takes that airplane alone out of its queue, and leaves the
landing strip occupied.  It never calls `go` on an empty queue.  If nobody waits it does
nothing but clear the flag. -/
theorem choice_of_next_plane (reachable : Reachable config state)
    (running : state.ended = false) (isNext : state.Next event)
    (calls : CallsCompleted config state event call) :
    deliver config event state = ControlTower.completed config call ∧
      call.landingStripOccupied = true ∧
      ∃ next, ControlTower.completed config call = some next ∧
        ((∀ module, call.queue module = []) → next = call.setOccupied false) ∧
        ((∃ module, call.queue module ≠ []) →
          ∃ module place plane, call.GoesOn module place plane next) := by
  have timely := calls.timely (Reachable.timely reachable) isNext
  have occupied := calls.occupied (Reachable.runwayConsistent reachable running) isNext
  obtain ⟨next, result, completed⟩ := completed_spec config timely.queuesTimed
  refine ⟨calls.deliver_eq, occupied, next, result, ?_⟩
  rcases Completed.chosen completed with ⟨empty, idle⟩ | ⟨module, plane, chosen⟩
  · exact ⟨fun _ => idle, fun ⟨module, waits⟩ => absurd (empty module) waits⟩
  · obtain ⟨rest, front, popped⟩ := chosen.popped
    constructor
    · intro empty
      exact absurd ((empty module).symm.trans front) (List.cons_ne_nil _ _).symm
    · intro _
      refine ⟨module, 0, plane, ?_, ?_, ?_, ?_, chosen.starts, chosen.flag.trans occupied⟩
      · rw [front]
        rfl
      · intro other index waiting waits
        exact turn_le timely (by rw [front]; rfl) chosen.first waits
      · rw [popped, front]
        rfl
      · intro other different
        have rival : other = module.out := by
          cases other <;> cases module <;> first | rfl | exact absurd rfl different
        rw [rival]
        exact chosen.kept

/-- A landing of an overloaded run, with airplanes in both queues. -/
theorem choice_of_next_plane_tenth :
    let config := Ini.deterministic 1 2 1 2 5 0
    let state := eventLoop config 10
    let event : Event := ⟨7000, .parkingArea, false, ⟨2, 3000, 3000⟩⟩
    let call := (state.take event).park config event.airplane
    deliver config event state = ControlTower.completed config call ∧
      call.landingStripOccupied = true ∧
      ∃ next, ControlTower.completed config call = some next ∧
        ((∀ module, call.queue module = []) → next = call.setOccupied false) ∧
        ((∃ module, call.queue module ≠ []) →
          ∃ module place plane, call.GoesOn module place plane next) :=
  choice_of_next_plane (eventLoop_reachable _ 10) (by decide)
    (Network.nextEvent_next (by decide)) (.landed (by decide))

end AirTrafficControl
