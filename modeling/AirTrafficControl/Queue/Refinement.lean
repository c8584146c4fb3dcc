import AirTrafficControl.Queue.Operations
import AirTrafficControl.Safety.Runway

/-!
# The network is a single-server queue

The control tower, the two queues and the messages on the runway together are one server
that serves requests in the order in which they were made: every round of the event loop
is a run of `FifoServer.Server`, and the operations of the trace are its jobs.
-/

namespace AirTrafficControl

open FifoServer

variable {config : Config} {state next : Network}

/-- An airplane in a queue as a request. -/
def request (module : SimpleModule) (plane : Airplane) : (Nat × SimpleModule) × Int :=
  ((plane.id, module), plane.queueArrivalTime)

/-- The requests that wait in the two queues. -/
def Network.waiting (state : Network) : Multiset ((Nat × SimpleModule) × Int) :=
  ↑(state.holdingQueue.map (request .airspace)) +
    ↑(state.departQueue.map (request .parkingArea))

theorem mem_waiting {other : (Nat × SimpleModule) × Int} :
    other ∈ state.waiting ↔
      (∃ plane ∈ state.holdingQueue, request .airspace plane = other) ∨
        ∃ plane ∈ state.departQueue, request .parkingArea plane = other := by
  simp [Network.waiting]

/-- An airplane joins the holding queue. -/
theorem waiting_hold {plane : Airplane}
    (holding : next.holdingQueue = state.holdingQueue ++ [plane])
    (depart : next.departQueue = state.departQueue) :
    next.waiting = request .airspace plane ::ₘ state.waiting := by
  simp only [Network.waiting, holding, depart, List.map_append, List.map_cons,
    List.map_nil, ← Multiset.coe_add, Multiset.coe_singleton]
  rw [← Multiset.singleton_add]
  abel

/-- An airplane joins the depart queue. -/
theorem waiting_queue {plane : Airplane}
    (holding : next.holdingQueue = state.holdingQueue)
    (depart : next.departQueue = state.departQueue ++ [plane]) :
    next.waiting = request .parkingArea plane ::ₘ state.waiting := by
  simp only [Network.waiting, holding, depart, List.map_append, List.map_cons,
    List.map_nil, ← Multiset.coe_add, Multiset.coe_singleton]
  rw [← Multiset.singleton_add]
  abel

/-- The network seen as a server. -/
def Network.server (state : Network) : Server (Nat × SimpleModule) Int where
  clock := state.simTime
  busy := state.landingStripOccupied
  waiting := state.waiting
  jobs := operations state.trace

/-! ## The message on the runway -/

/-- The message on the runway is due when the latest operation finishes. -/
def Network.Due (state : Network) : Prop :=
  ∀ event ∈ state.futureEvents, event.kind = .landing ∨ event.kind = .takeoff →
    ∃ last ∈ (operations state.trace).head?, event.time = last.finish

/-- Without runway messages there is nothing to show. -/
private theorem not_runway (none : state.runwayMessages = 0) {event : Event}
    (member : event ∈ state.futureEvents) :
    ¬(event.kind = .landing ∨ event.kind = .takeoff) := by
  unfold Network.runwayMessages Network.pending at none
  rw [Nat.add_eq_zero_iff, List.countP_eq_zero, List.countP_eq_zero] at none
  rintro (landing | takeoff)
  · exact none.1 event member (decide_eq_true landing)
  · exact none.2 event member (decide_eq_true takeoff)

namespace Network.Due

theorem land (none : state.runwayMessages = 0) (plane : Airplane) :
    (Airspace.land config plane state).Due := by
  intro event member runway
  rw [Airspace.land_eq] at member ⊢
  rcases List.mem_append.mp member with before | new
  · exact absurd runway (not_runway none before)
  · rw [List.mem_singleton.mp new]
    exact ⟨_, rfl, rfl⟩

theorem takeOff (none : state.runwayMessages = 0) (plane : Airplane) :
    (ParkingArea.takeOff config plane state).Due := by
  intro event member runway
  rw [ParkingArea.takeOff_eq] at member ⊢
  rcases List.mem_append.mp member with before | new
  · exact absurd runway (not_runway none before)
  · rw [List.mem_singleton.mp new]
    exact ⟨_, rfl, rfl⟩

theorem scheduleNext (due : state.Due) : (Airspace.scheduleNext config state).Due := by
  intro event member runway
  rw [Airspace.scheduleNext_eq] at member ⊢
  rcases List.mem_append.mp member with before | new
  · exact due event before runway
  · rw [List.mem_singleton.mp new] at runway
    simp at runway

theorem completed (none : state.runwayMessages = 0)
    (completed : Completed config state next) : next.Due := by
  cases completed with
  | idle =>
      intro event member runway
      exact absurd runway (not_runway none member)
  | land =>
      apply Due.land
      exact none
  | takeOff =>
      apply Due.takeOff
      exact none

theorem transition (consistent : RunwayConsistent state) (due : state.Due)
    {event : Event} (member : event ∈ state.futureEvents)
    (transition : Transition config (state.take event) event next) : next.Due := by
  have taken := Network.runwayMessages_take member
  have pending := consistent.pending
  have remains : ∀ other ∈ (state.take event).futureEvents,
      other.kind = .landing ∨ other.kind = .takeoff →
      ∃ last ∈ (operations state.trace).head?, other.time = last.finish :=
    fun other later => due other (List.mem_of_mem_erase later)
  cases transition with
  | landNow kind free =>
      have free : state.landingStripOccupied = false := free
      have none : (state.take event).runwayMessages = 0 := by
        simpa [kind, pending, free] using taken
      apply Due.scheduleNext
      apply Due.land
      exact none
  | hold kind occupied =>
      apply Due.scheduleNext
      exact remains
  | takeOffNow kind free =>
      have free : state.landingStripOccupied = false := free
      have none : (state.take event).runwayMessages = 0 := by
        simpa [kind, pending, free] using taken
      apply Due.takeOff
      exact none
  | queue kind occupied => exact remains
  | landed kind completed =>
      have none := (consistent.released member (.inl kind)).2
      refine Due.completed ?_ completed
      rw [Network.runwayMessages_park]
      exact none
  | left kind _ completed =>
      have none := (consistent.released member (.inr kind)).2
      refine Due.completed ?_ completed
      exact none
  | finished => exact remains

end Network.Due

theorem Reachable.due (reachable : Reachable config state) : state.Due := by
  refine Reachable.invariant Network.Due ?_ ?_ reachable
  · intro event member runway
    rw [List.mem_singleton.mp member] at runway
    simp at runway
  · intro source event target reached running isNext due transition
    exact due.transition (Reachable.runwayConsistent reached running) isNext.1 transition

/-- While the strip is occupied the latest operation is not finished before the next
event. -/
theorem Reachable.next_le_finish (reachable : Reachable config state)
    (running : state.ended = false) {event : Event} (isNext : state.Next event)
    (occupied : state.landingStripOccupied = true) :
    ∀ last ∈ (operations state.trace).head?, event.time ≤ last.finish := by
  intro last isLast
  have one := (Reachable.runwayConsistent reachable running).pending
  rw [if_pos occupied] at one
  have some : 0 < state.pending .landing ∨ 0 < state.pending .takeoff := by
    unfold Network.runwayMessages at one
    omega
  have message : ∃ other ∈ state.futureEvents,
      other.kind = .landing ∨ other.kind = .takeoff := by
    unfold Network.pending at some
    rw [List.countP_pos_iff, List.countP_pos_iff] at some
    rcases some with ⟨other, member, landing⟩ | ⟨other, member, takeoff⟩
    · exact ⟨other, member, .inl (of_decide_eq_true landing)⟩
    · exact ⟨other, member, .inr (of_decide_eq_true takeoff)⟩
  obtain ⟨other, member, runway⟩ := message
  obtain ⟨latest, isLatest, time⟩ := Reachable.due reachable other member runway
  rw [Option.mem_unique isLast isLatest, ← time]
  exact isNext.2 other member

/-! ## The simulation -/

/-- The airplanes in the queues keep the time of their request. -/
structure Network.Asked (state : Network) : Prop where
  holding : ∀ plane ∈ state.holdingQueue,
    requestTime .airspace plane.id state.trace = plane.queueArrivalTime
  depart : ∀ plane ∈ state.departQueue,
    requestTime .parkingArea plane.id state.trace = plane.queueArrivalTime

theorem Reachable.asked (reachable : Reachable config state) : state.Asked := by
  have itinerant := Reachable.itinerant reachable
  constructor
  · intro plane member
    obtain ⟨stage, atStage, known⟩ :=
      itinerant.staged _ (Network.queued_airspace_mem_roster.mpr member)
    rw [← requestTime_history]
    cases atStage with
    | holding =>
        rw [Slot.id_queued] at known
        rw [known]
        simp [Stage.history, requestTime_cons]
  · intro plane member
    obtain ⟨stage, atStage, known⟩ :=
      itinerant.staged _ (Network.queued_parkingArea_mem_roster.mpr member)
    rw [← requestTime_history]
    cases atStage with
    | queued _ asked =>
        rw [Slot.id_queued] at known
        rw [known, asked]
        simp [Stage.history, requestTime_cons]

/-- Other calls than requests leave the times of requests alone. -/
theorem requestTime_append (module : SimpleModule) (plane : Nat) {calls : List Record}
    (quiet : ∀ record ∈ calls, record.call ≠ .notify) (trace : List Record) :
    requestTime module plane (calls ++ trace) = requestTime module plane trace := by
  induction calls with
  | nil => rfl
  | cons record calls ih =>
      have silent := quiet record List.mem_cons_self
      rw [List.cons_append, requestTime_cons, if_neg (fun asks => silent asks.2.2)]
      exact ih fun other member => quiet other (List.mem_cons_of_mem _ member)

theorem Network.Asked.quiet (asked : state.Asked) (calls : List Record)
    (quiet : ∀ record ∈ calls, record.call ≠ .notify)
    (holding : next.holdingQueue = state.holdingQueue)
    (depart : next.departQueue = state.departQueue)
    (trace : next.trace = calls ++ state.trace) : next.Asked := by
  constructor
  · intro plane member
    rw [holding] at member
    rw [trace, requestTime_append _ _ quiet]
    exact asked.holding plane member
  · intro plane member
    rw [depart] at member
    rw [trace, requestTime_append _ _ quiet]
    exact asked.depart plane member

/-- The start of a landing is the begin of a job. -/
private theorem server_land (plane : Airplane)
    (occupied : state.landingStripOccupied = true) :
    (Airspace.land config plane state).server =
      state.server.begin (plane.id, .airspace)
        (requestTime .airspace plane.id state.trace)
        (config.sim.duration config.par.landing state.rngDraws) := by
  simp [Airspace.land_eq, Network.server, Server.begin, Network.waiting, occupied]

/-- The start of a take-off is the begin of a job. -/
private theorem server_takeOff (plane : Airplane)
    (occupied : state.landingStripOccupied = true) :
    (ParkingArea.takeOff config plane state).server =
      state.server.begin (plane.id, .parkingArea)
        (requestTime .parkingArea plane.id state.trace)
        (config.sim.duration config.par.takeoff state.rngDraws) := by
  simp [ParkingArea.takeOff_eq, Network.server, Server.begin, Network.waiting, occupied]

private theorem server_scheduleNext :
    (Airspace.scheduleNext config state).server = state.server := rfl

private theorem server_park (config : Config) (plane : Airplane) :
    (state.park config plane).server = state.server := rfl

private theorem server_depart (plane : Airplane) :
    (state.depart plane).server = state.server := rfl

/-- A request that has to wait. -/
private theorem enqueue_step {module : SimpleModule} {plane : Airplane}
    (occupied : state.landingStripOccupied = true)
    (waits : next.waiting = request module plane ::ₘ state.waiting)
    (arrives : plane.queueArrivalTime = state.simTime)
    (clock : next.simTime = state.simTime)
    (busy : next.landingStripOccupied = state.landingStripOccupied)
    (jobs : operations next.trace = operations state.trace) :
    Server.Step state.server next.server := by
  have same : next.server =
      { state.server with
        waiting := ((plane.id, module), state.server.clock) ::ₘ
          state.server.waiting } := by
    simp [Network.server, request, clock, busy, waits, jobs, arrives]
  rw [same]
  exact .enqueue occupied

/-- `completed` lets the server go on. -/
private theorem completed_step (timely : Timely state) (asked : state.Asked)
    (occupied : state.landingStripOccupied = true)
    (finished : ∀ last ∈ (operations state.trace).head?, last.finish = state.simTime)
    (completed : Completed config state next) :
    Server.Step state.server next.server := by
  cases completed with
  | idle noHolding noDepart =>
      refine .release occupied finished ?_
      simp [Network.server, Network.waiting, noHolding, noDepart]
  | @land plane rest front older =>
      have mine := asked.holding plane (by simp [front])
      have holding := timely.holding
      rw [front] at holding
      rw [server_land _ (by exact occupied)]
      simp only [requestTime_cons, reduceCtorEq, and_false, if_false, mine]
      refine .serve occupied finished ?_ ?_ (config.sim.duration_nonneg _ _)
      · simp [Network.server, Network.waiting, front, request]
      · intro other member
        rcases mem_waiting.mp member with ⟨behind, inQueue, rfl⟩ | ⟨behind, inQueue, rfl⟩
        · exact holding.front_le (List.mem_cons_of_mem _ inQueue)
        · obtain ⟨first, isFirst, before⟩ := timely.depart.head_le inQueue
          exact (older first isFirst).trans before
  | @takeOff plane rest front older =>
      have mine := asked.depart plane (by simp [front])
      have depart := timely.depart
      rw [front] at depart
      rw [server_takeOff _ (by exact occupied)]
      simp only [requestTime_cons, reduceCtorEq, and_false, if_false, mine]
      refine .serve occupied finished ?_ ?_ (config.sim.duration_nonneg _ _)
      · simp [Network.server, Network.waiting, front, request]
      · intro other member
        rcases mem_waiting.mp member with ⟨behind, inQueue, rfl⟩ | ⟨behind, inQueue, rfl⟩
        · obtain ⟨first, isFirst, before⟩ := timely.holding.head_le inQueue
          exact (older first isFirst).le.trans before
        · exact depart.front_le (List.mem_cons_of_mem _ inQueue)

/-- A transition is at most one step of the server. -/
private theorem transition_steps (timely : Timely state) (asked : state.Asked)
    (consistent : RunwayConsistent state) (due : state.Due) {event : Event}
    (isNext : state.Next event)
    (transition : Transition config (state.take event) event next) :
    Server.Steps (state.take event).server next.server := by
  have finished : event.kind = .landing ∨ event.kind = .takeoff →
      ∀ last ∈ (operations state.trace).head?, last.finish = event.time := by
    intro runway last isLast
    obtain ⟨latest, isLatest, time⟩ := due event isNext.1 runway
    rw [time, Option.mem_unique isLast isLatest]
  cases transition with
  | landNow kind free =>
      rw [server_scheduleNext, server_land _ rfl]
      simp only [requestTime_cons, reduceCtorEq, and_false, if_false, and_self, if_true]
      exact .single (.grant free (config.sim.duration_nonneg _ _))
  | hold kind occupied =>
      rw [server_scheduleNext]
      exact .single (enqueue_step occupied (waiting_hold rfl rfl) rfl rfl rfl rfl)
  | takeOffNow kind free =>
      rw [server_takeOff _ rfl]
      simp only [requestTime_cons, reduceCtorEq, and_false, if_false, and_self, if_true]
      exact .single (.grant free (config.sim.duration_nonneg _ _))
  | queue kind occupied =>
      exact .single (enqueue_step occupied (waiting_queue rfl rfl) rfl rfl rfl rfl)
  | landed kind completed =>
      rw [← server_park config event.airplane]
      refine .single (completed_step ?_ ?_ ?_ ?_ completed)
      · exact (timely.take isNext).park event.airplane
      · exact asked.quiet [_, _] (by simp) rfl rfl rfl
      · exact (consistent.released isNext.1 (.inl kind)).1
      · exact finished (.inl kind)
  | left kind _ completed =>
      have later := timely.take isNext
      rw [← server_depart event.airplane]
      refine .single (completed_step ?_ ?_ ?_ ?_ completed)
      · exact ⟨later.now_nonneg, later.pending, later.holding, later.depart⟩
      · exact asked.quiet [_, _] (by simp) rfl rfl rfl
      · exact (consistent.released isNext.1 (.inr kind)).1
      · exact finished (.inr kind)
  | finished => exact .refl

/-- Every round of the event loop is a run of the server. -/
theorem Reachable.server_steps (reachable : Reachable config state)
    (step : Step config state next) : Server.Steps state.server next.server := by
  have timely := Reachable.timely reachable
  have running := step.running
  obtain ⟨event, isNext, transition⟩ := step.cases timely
  have ticked : Server.Step state.server (state.take event).server :=
    .tick (timely.pending event isNext.1)
      (Reachable.next_le_finish reachable running isNext)
  exact .head ticked (transition_steps timely (Reachable.asked reachable)
    (Reachable.runwayConsistent reachable running) (Reachable.due reachable) isNext
    transition)

/-- Every run of the network is a run of the server. -/
theorem Reachable.server (reachable : Reachable config state) :
    Server.Steps .empty state.server := by
  induction reachable with
  | refl => exact .refl
  | tail reached step ih => exact ih.trans (Reachable.server_steps reached step)

theorem Reachable.serverConsistent (reachable : Reachable config state) :
    state.server.Consistent :=
  Server.Consistent.empty.steps (Reachable.server reachable)

/-- The three modules refine one single-server queue that serves first what was asked for
first.  Counted in the order in which they are granted, the runway operations were asked
for in that order, the first starts when it is asked for, and each later one when it has
been asked for and its predecessor is done. -/
theorem refines_fifo_queue (reachable : Reachable config state) :
    Server.Steps .empty state.server ∧
      (∀ job ∈ operations state.trace,
        state.about job.label.1 (Record.request job.label.2) = [job.request]) ∧
      (∀ first ∈ (operations state.trace).reverse[0]?, first.start = first.request) ∧
      ∀ (place : Nat) (job following : Operation),
        (operations state.trace).reverse[place]? = some job →
        (operations state.trace).reverse[place + 1]? = some following →
        job.request ≤ following.request ∧
          following.start = max following.request job.finish := by
  have recursion := (Reachable.serverConsistent reachable).served.recursion
  exact ⟨Reachable.server reachable,
    fun job member => Reachable.request_of_operation reachable member, recursion⟩

/-- A small run after eight events, with four runway operations. -/
theorem refines_fifo_queue_eighth :
    let state := eventLoop (Ini.deterministic 2 1 3 1 5 0) 8
    Server.Steps .empty state.server ∧
      (∀ job ∈ operations state.trace,
        state.about job.label.1 (Record.request job.label.2) = [job.request]) ∧
      (∀ first ∈ (operations state.trace).reverse[0]?, first.start = first.request) ∧
      ∀ (place : Nat) (job following : Operation),
        (operations state.trace).reverse[place]? = some job →
        (operations state.trace).reverse[place + 1]? = some following →
        job.request ≤ following.request ∧
          following.start = max following.request job.finish :=
  refines_fifo_queue (eventLoop_reachable _ 8)

end AirTrafficControl
