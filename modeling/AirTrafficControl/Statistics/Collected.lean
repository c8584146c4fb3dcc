import AirTrafficControl.Statistics.Samples
import AirTrafficControl.Liveness.Termination

/-!
# The number of samples collected

The simulation ends with the departure of `totalSamples` airplanes, counted from the
beginning of the run.  Each of them has left samples on its way, but those from the warm-up
period are dropped.
-/

namespace AirTrafficControl

open FifoServer

variable {config : Config} {state next : Network} {event : Event}

namespace SimpleModule

/-- The signal that carries the length of a queue. -/
def queueSize : SimpleModule → Signal
  | .airspace => .holdingQueueSize
  | .parkingArea => .departQueueSize

/-- The signal of a sample that is taken when an operation is over. -/
def completion : SimpleModule → Signal
  | .airspace => .parkedPlanes
  | .parkingArea => .airportResponseTime

/-- The message of an operation. -/
def operation : SimpleModule → Kind
  | .airspace => .landing
  | .parkingArea => .takeoff

theorem operation_injective {module other : SimpleModule}
    (same : module.operation = other.operation) : module = other := by
  cases module <;> cases other <;> first | rfl | cases same

end SimpleModule

/-- The number of samples since an instant. -/
def Network.count (state : Network) (signal : Signal) (since : Int) : Nat :=
  (state.samples signal).countP fun sample => since ≤ sample.1

/-- The number of operations that a module has started since an instant. -/
def Network.startedSince (state : Network) (module : SimpleModule) (since : Int) : Nat :=
  (state.started module).countP fun job => since ≤ job.start

theorem count_append (signal : Signal) (since : Int) (calls : List Record)
    (trace : next.trace = calls ++ state.trace) :
    next.count signal since =
      (calls.filterMap (Record.sample signal)).countP (fun sample => since ≤ sample.1) +
        state.count signal since := by
  rw [Network.count, samples_append signal calls trace, List.countP_append, Network.count]

/-- Samples are never lost. -/
theorem count_le (signal : Signal) (since : Int) (calls : List Record)
    (trace : next.trace = calls ++ state.trace) :
    state.count signal since ≤ next.count signal since := by
  rw [count_append signal since calls trace]
  exact Nat.le_add_left _ _

/-- The operations of a module and the samples of its signals. -/
structure Network.Tallied (state : Network) : Prop where
  sizes : ∀ (module : SimpleModule) (since : Int),
    state.count module.waitingTime since ≤ state.count module.queueSize since
  finished : ∀ (module : SimpleModule) (since : Int),
    state.startedSince module since ≤
      state.count module.completion since + state.pending module.operation
  takeoffs : ((state.started .parkingArea).length : Int) =
    state.departedPlanes + state.pending .takeoff

namespace Network.Tallied

/-- Calls between operations. -/
private theorem quiet (tallied : state.Tallied) (calls : List Record)
    (waits : ∀ module : SimpleModule,
      calls.filterMap (Record.sample module.waitingTime) = [])
    (still : operations (calls ++ state.trace) = operations state.trace)
    (pending : ∀ module : SimpleModule,
      next.pending module.operation = state.pending module.operation)
    (departed : next.departedPlanes = state.departedPlanes)
    (trace : next.trace = calls ++ state.trace) : next.Tallied := by
  have started : ∀ module, next.started module = state.started module := by
    intro module
    rw [Network.started, trace, still, Network.started]
  constructor
  · intro module since
    rw [count_append _ since calls trace, waits, List.countP_nil, zero_add]
    exact (tallied.sizes module since).trans (count_le _ since calls trace)
  · intro module since
    rw [Network.startedSince, started, pending]
    exact (tallied.finished module since).trans
      (Nat.add_le_add_right (count_le _ since calls trace) _)
  · rw [started, departed, tallied.takeoffs]
    exact congrArg (fun count : Nat => state.departedPlanes + (count : Int))
      (pending .parkingArea).symm

/-- An operation starts. -/
private theorem begin (tallied : state.Tallied) {now duration : Int}
    {module : SimpleModule} {plane : Nat} (wait size : Int) (calls : List Record)
    (waits : ∀ other : SimpleModule,
      calls.filterMap (Record.sample other.waitingTime) =
        if module = other then [(now, wait)] else [])
    (sizes : (now, size) ∈ calls.filterMap (Record.sample module.queueSize))
    (still : operations (calls ++ state.trace) = operations state.trace)
    (pending : ∀ other : SimpleModule, next.pending other.operation =
      state.pending other.operation + if module = other then 1 else 0)
    (departed : next.departedPlanes = state.departedPlanes)
    (trace : next.trace = ⟨now, module, plane, .emit .runwayUse duration⟩ ::
      ⟨now, module, plane, .sendDelayed duration⟩ :: (calls ++ state.trace)) :
    next.Tallied := by
  have jobs : operations next.trace =
      ⟨(plane, module), requestTime module plane (calls ++ state.trace), now, duration⟩ ::
        operations state.trace := by
    rw [trace, operations_emit, operations_sendDelayed, still]
  have split : next.trace = (⟨now, module, plane, .emit .runwayUse duration⟩ ::
      ⟨now, module, plane, .sendDelayed duration⟩ :: calls) ++ state.trace := trace
  constructor
  · intro other since
    by_cases own : module = other
    · subst own
      rw [count_append _ since _ split, count_append _ since _ split,
        List.filterMap_cons_none (by cases module <;> rfl), List.filterMap_cons_none rfl,
        List.filterMap_cons_none (by cases module <;> rfl), List.filterMap_cons_none rfl,
        waits, if_pos rfl]
      refine Nat.add_le_add ?_ (tallied.sizes module since)
      rw [List.countP_singleton]
      split
      next late => exact List.countP_pos_iff.mpr ⟨_, sizes, late⟩
      next => exact Nat.zero_le _
    · rw [count_append _ since _ split, List.filterMap_cons_none (by cases other <;> rfl),
        List.filterMap_cons_none rfl, waits, if_neg own, List.countP_nil, zero_add]
      exact (tallied.sizes other since).trans (count_le _ since _ split)
  · intro other since
    have before := tallied.finished other since
    have more := count_le other.completion since _ split
    rw [pending, Network.startedSince, Network.started, jobs, List.filter_cons]
    by_cases own : module = other
    · rw [if_pos (by simp [own]), if_pos own]
      have one : (if decide (since ≤ now) = true then 1 else 0) ≤ 1 := by
        split <;> decide
      rw [List.countP_cons, ← add_assoc]
      exact Nat.add_le_add (before.trans (Nat.add_le_add_right more _)) one
    · rw [if_neg (by simp [own]), if_neg own]
      exact before.trans (Nat.add_le_add_right more _)
  · have takeoffs := tallied.takeoffs
    have mine := pending .parkingArea
    rw [SimpleModule.operation] at mine
    rw [Network.started, jobs, List.filter_cons, departed, mine]
    rw [Network.started] at takeoffs
    by_cases own : module = .parkingArea
    · rw [if_pos (by simp [own]), if_pos own, List.length_cons]
      push_cast
      rw [takeoffs, add_assoc]
    · rw [if_neg (by simp [own]), if_neg own]
      exact takeoffs

/-- An operation is over. -/
private theorem finish (tallied : state.Tallied) (module : SimpleModule)
    (member : event ∈ state.futureEvents) (kind : event.kind = module.operation)
    (past : ∀ job ∈ operations state.trace, job.start ≤ event.time)
    (calls : List Record) (value : Int)
    (waits : ∀ other : SimpleModule,
      calls.filterMap (Record.sample other.waitingTime) = [])
    (completion : (event.time, value) ∈ calls.filterMap (Record.sample module.completion))
    (still : operations (calls ++ state.trace) = operations state.trace)
    (pending : ∀ other : SimpleModule,
      next.pending other.operation = (state.take event).pending other.operation)
    (departed : next.departedPlanes =
      state.departedPlanes + if module = .parkingArea then 1 else 0)
    (trace : next.trace = calls ++ state.trace) : next.Tallied := by
  have started : ∀ other, next.started other = state.started other := by
    intro other
    rw [Network.started, trace, still, Network.started]
  have taken : ∀ other : SimpleModule, (state.take event).pending other.operation +
      (if module = other then 1 else 0) = state.pending other.operation := by
    intro other
    have same : event.kind = other.operation ↔ module = other := by
      rw [kind]
      exact ⟨SimpleModule.operation_injective, fun equal => congrArg _ equal⟩
    rw [← Network.pending_take member, if_congr same rfl rfl]
  constructor
  · intro other since
    rw [count_append _ since calls trace, waits, List.countP_nil, zero_add]
    exact (tallied.sizes other since).trans (count_le _ since calls trace)
  · intro other since
    have before := tallied.finished other since
    have more := count_le other.completion since calls trace
    rw [Network.startedSince, started, pending]
    rw [← taken] at before
    by_cases own : module = other
    · subst own
      rw [if_pos rfl] at before
      rcases le_or_gt since event.time with late | early
      · have one : 0 < (calls.filterMap (Record.sample module.completion)).countP
            (fun sample => since ≤ sample.1) :=
          List.countP_pos_iff.mpr ⟨_, completion, by simpa using late⟩
        rw [count_append _ since calls trace]
        rw [Network.startedSince] at before
        omega
      · have none : (state.started module).countP (fun job => since ≤ job.start) = 0 := by
          apply List.countP_eq_zero.mpr
          intro job inModule late
          have start := past job (List.mem_filter.mp inModule).1
          exact absurd (start.trans_lt early) (not_lt.mpr (of_decide_eq_true late))
        rw [none]
        exact Nat.zero_le _
    · rw [if_neg own] at before
      exact before.trans (Nat.add_le_add_right more _)
  · have takeoffs := tallied.takeoffs
    have mine := pending .parkingArea
    have one := taken .parkingArea
    rw [SimpleModule.operation] at mine one
    rw [started, departed, takeoffs, mine, ← one]
    split
    · push_cast
      ring
    · simp

/-- Events of other kinds than operations. -/
private theorem taken (tallied : state.Tallied) (member : event ∈ state.futureEvents)
    (kind : event.kind = .arrival ∨ event.kind = .parking) :
    (state.take event).Tallied := by
  have other : ∀ module : SimpleModule, event.kind ≠ module.operation := by
    rcases kind with kind | kind
    all_goals
      intro module
      rw [kind]
      cases module <;> exact fun same => Kind.noConfusion same
  have same : ∀ module : SimpleModule,
      (state.take event).pending module.operation = state.pending module.operation := by
    intro module
    rw [← Network.pending_take member, if_neg (other module), add_zero]
  exact tallied.quiet [] (fun _ => rfl) rfl same rfl rfl

theorem scheduleNext (tallied : state.Tallied) :
    (Airspace.scheduleNext config state).Tallied := by
  refine tallied.quiet [_] (fun _ => rfl) rfl ?_ rfl rfl
  intro module
  rw [Network.pending_scheduleNext]
  cases module <;> rfl

theorem completed (tallied : state.Tallied) (completed : Completed config state next) :
    next.Tallied := by
  cases completed with
  | idle => exact tallied.quiet [] (fun _ => rfl) rfl (fun _ => rfl) rfl rfl
  | @land plane rest =>
      refine tallied.begin (state.simTime - plane.queueArrivalTime) rest.length [_, _] ?_
        List.mem_cons_self rfl ?_ rfl rfl
      · intro other
        cases other <;> rfl
      · intro other
        rw [Network.pending_land]
        cases other <;> rfl
  | @takeOff plane rest =>
      refine tallied.begin (state.simTime - plane.queueArrivalTime) rest.length [_, _] ?_
        List.mem_cons_self rfl ?_ rfl rfl
      · intro other
        cases other <;> rfl
      · intro other
        rw [Network.pending_takeOff]
        cases other <;> rfl

theorem transition (tallied : state.Tallied) (member : event ∈ state.futureEvents)
    (past : ∀ job ∈ operations state.trace, job.start ≤ event.time)
    (transition : Transition config (state.take event) event next) : next.Tallied := by
  cases transition with
  | landNow kind =>
      apply Tallied.scheduleNext
      refine (tallied.taken member (.inl kind)).begin 0 0 [_, _, _] ?_
        List.mem_cons_self rfl ?_ rfl rfl
      · intro other
        cases other <;> rfl
      · intro other
        rw [Network.pending_land]
        cases other <;> rfl
  | hold kind =>
      apply Tallied.scheduleNext
      refine (tallied.taken member (.inl kind)).quiet [_, _] ?_ rfl (fun _ => rfl) rfl rfl
      · intro other
        cases other <;> rfl
  | takeOffNow kind =>
      refine (tallied.taken member (.inr kind)).begin 0 0 [_, _, _, _] ?_
        List.mem_cons_self rfl ?_ rfl rfl
      · intro other
        cases other <;> rfl
      · intro other
        rw [Network.pending_takeOff]
        cases other <;> rfl
  | queue kind =>
      refine (tallied.taken member (.inr kind)).quiet [_, _, _] ?_ rfl (fun _ => rfl)
        rfl rfl
      · intro other
        cases other <;> rfl
  | landed kind completed =>
      refine Tallied.completed ?_ completed
      refine tallied.finish .airspace member kind past [_, _] (state.numParked + 1)
        ?_ List.mem_cons_self rfl ?_ ?_ rfl
      · intro other
        cases other <;> rfl
      · intro other
        rw [Network.pending_park]
        cases other <;> rfl
      · exact (add_zero _).symm
  | left kind _ completed =>
      refine Tallied.completed ?_ completed
      exact tallied.finish .parkingArea member kind past [_, _]
        (event.time - event.airplane.timestamp) (fun other => by cases other <;> rfl)
        List.mem_cons_self rfl (fun _ => rfl) rfl rfl
  | finished kind =>
      exact tallied.finish .parkingArea member kind past [_, _, _, _]
        (event.time - event.airplane.timestamp) (fun other => by cases other <;> rfl)
        List.mem_cons_self rfl (fun _ => rfl) rfl rfl

end Network.Tallied

theorem Reachable.tallied (reachable : Reachable config state) : state.Tallied := by
  refine Reachable.invariant Network.Tallied ⟨?_, ?_, rfl⟩ ?_ reachable
  · intro module since
    exact Nat.zero_le _
  · intro module since
    exact Nat.zero_le _
  · intro source event target reached _ isNext tallied transition
    refine tallied.transition isNext.1 ?_ transition
    intro job member
    exact (Reachable.start_le reached job member).trans
      ((Reachable.timely reached).pending event isNext.1)

/-- Every airplane that has arrived waits in the holding queue or has started to land. -/
def Network.Received (state : Network) : Prop :=
  (state.started .airspace).length + state.holdingQueue.length = state.arrivals

private theorem Network.Received.completed (received : state.Received)
    (completed : Completed config state next) : next.Received := by
  cases completed with
  | idle => exact received
  | @land plane rest front =>
      rw [Network.Received, front, List.length_cons] at received
      simpa [Network.Received, Network.started, Network.arrivals, Airspace.land_eq,
        add_assoc, add_comm 1] using received
  | takeOff =>
      simpa [Network.Received, Network.started, Network.arrivals, ParkingArea.takeOff_eq]
        using received

theorem Reachable.received (reachable : Reachable config state) : state.Received := by
  refine Reachable.invariant Network.Received rfl ?_ reachable
  intro source event target _ _ _ received transition
  rw [Network.Received, Network.started, Network.arrivals] at received
  cases transition with
  | landNow =>
      simp [Network.Received, Network.started, Network.arrivals, Airspace.scheduleNext_eq,
        Airspace.land_eq, Network.take, Network.setOccupied, ← received, add_right_comm]
  | hold =>
      simp [Network.Received, Network.started, Network.arrivals, Airspace.scheduleNext_eq,
        Network.take, ← received, add_assoc]
  | takeOffNow =>
      simpa [Network.Received, Network.started, Network.arrivals, ParkingArea.takeOff_eq,
        Network.take, Network.setOccupied] using received
  | queue =>
      simpa [Network.Received, Network.started, Network.arrivals, Network.take]
        using received
  | landed _ completed =>
      refine Network.Received.completed ?_ completed
      simpa [Network.Received, Network.started, Network.arrivals, Network.park,
        Network.take] using received
  | left _ _ completed =>
      refine Network.Received.completed ?_ completed
      simpa [Network.Received, Network.started, Network.arrivals, Network.depart,
        Network.take] using received
  | finished =>
      simpa [Network.Received, Network.started, Network.arrivals, Network.depart,
        Network.take] using received

/-! ## The promised number -/

/-- The statistics of `Airspace.ned` and `ParkingArea.ned`. -/
def Signal.statistics : List Signal :=
  [.holdingQueueSize, .holdingQueueWaitingTime, .airportResponseTime, .parkedPlanes,
    .departQueueSize, .departQueueWaitingTime]

/-- The samples of a waiting time are those of the operations of the module. -/
theorem Reachable.count_waitingTime (reachable : Reachable config state)
    (module : SimpleModule) (since : Int) :
    state.count module.waitingTime since = state.startedSince module since := by
  rw [Network.count, (Reachable.sampled reachable).waits, List.countP_map]
  rfl

theorem Reachable.length_collected (reachable : Reachable config state) (signal : Signal) :
    (state.collected signal).length = state.count signal config.warmupPeriod := by
  rw [Network.collected, Reachable.warmupPeriod reachable, ← List.countP_eq_length_filter]
  rfl

/-- At the end every airplane that has landed is on the ground or has departed. -/
theorem Reachable.length_started (reachable : Reachable config state)
    (ended : state.ended = true) :
    ((state.started .airspace).length : Int) =
        max 1 config.totalSamples + state.numParked + state.departQueue.length ∧
      ((state.started .parkingArea).length : Int) = max 1 config.totalSamples := by
  have clear := ((Reachable.concluded reachable).1 ended).clear
  have departed := ((Reachable.counted reachable).ended ended).1
  have placed := (Reachable.conserved reachable).placed
  have received := Reachable.received reachable
  have takeoffs := (Reachable.tallied reachable).takeoffs
  unfold Network.runwayMessages at clear
  unfold Network.Received at received
  omega

/-- Every statistic has collected as many samples as airplanes have departed exactly when no
take-off has started in the warm-up period, and no more landings have than there are airplanes
left on the ground. -/
theorem Reachable.collected_departed (reachable : Reachable config state)
    (ended : state.ended = true) :
    (∀ signal ∈ Signal.statistics,
        max 1 config.totalSamples ≤ (state.collected signal).length) ↔
      (∀ job ∈ state.started .parkingArea, config.warmupPeriod ≤ job.start) ∧
        ((state.started .airspace).countP
            (fun job => job.start < config.warmupPeriod) : Int) ≤
          state.numParked + state.departQueue.length := by
  have tallied := Reachable.tallied reachable
  obtain ⟨landings, takeoffs⟩ := Reachable.length_started reachable ended
  have clear := ((Reachable.concluded reachable).1 ended).clear
  have holdingWaits : state.count .holdingQueueWaitingTime config.warmupPeriod =
      state.startedSince .airspace config.warmupPeriod :=
    Reachable.count_waitingTime reachable .airspace config.warmupPeriod
  have departWaits : state.count .departQueueWaitingTime config.warmupPeriod =
      state.startedSince .parkingArea config.warmupPeriod :=
    Reachable.count_waitingTime reachable .parkingArea config.warmupPeriod
  have split : (state.started .airspace).length =
      state.startedSince .airspace config.warmupPeriod +
        (state.started .airspace).countP fun job => job.start < config.warmupPeriod := by
    rw [List.length_eq_countP_add_countP fun job =>
      decide (config.warmupPeriod ≤ job.start)]
    simp only [Network.startedSince, decide_eq_true_eq, not_le]
  have all : (∀ job ∈ state.started .parkingArea, config.warmupPeriod ≤ job.start) ↔
      state.startedSince .parkingArea config.warmupPeriod =
        (state.started .parkingArea).length := by
    simp only [Network.startedSince, List.countP_eq_length, decide_eq_true_eq]
  simp only [Reachable.length_collected reachable, Signal.statistics, List.forall_mem_cons]
  rw [all]
  constructor
  · rintro ⟨_, holding, _, _, _, depart, _⟩
    have most : state.startedSince .parkingArea config.warmupPeriod ≤
        (state.started .parkingArea).length := List.countP_le_length
    constructor <;> omega
  · rintro ⟨late, early⟩
    have holdingSizes : state.count .holdingQueueWaitingTime config.warmupPeriod ≤
        state.count .holdingQueueSize config.warmupPeriod :=
      tallied.sizes .airspace config.warmupPeriod
    have departSizes : state.count .departQueueWaitingTime config.warmupPeriod ≤
        state.count .departQueueSize config.warmupPeriod :=
      tallied.sizes .parkingArea config.warmupPeriod
    have landed : state.startedSince .airspace config.warmupPeriod ≤
        state.count .parkedPlanes config.warmupPeriod + state.pending .landing :=
      tallied.finished .airspace config.warmupPeriod
    have left : state.startedSince .parkingArea config.warmupPeriod ≤
        state.count .airportResponseTime config.warmupPeriod + state.pending .takeoff :=
      tallied.finished .parkingArea config.warmupPeriod
    rw [Network.runwayMessages] at clear
    refine ⟨?_, ?_, ?_, ?_, ?_, ?_, by simp⟩ <;> omega

/-- There are not more response times than departures, and an `int` counts these. -/
theorem Reachable.length_responses_lt (reachable : Reachable config state)
    (ended : state.ended = true) :
    ((state.collected .airportResponseTime).length : Int) < 2 ^ (config.sim.intBits - 1) := by
  have counted := Reachable.counted reachable
  have collected : (state.collected .airportResponseTime).length ≤
      (state.samples .airportResponseTime).length := List.length_filter_le _ _
  have departed := (counted.ended ended).1
  have responses := counted.responses
  have member := config.totalSamples_lt
  have one : (1 : Int) < 2 ^ (config.sim.intBits - 1) := by
    have wide := config.sim.intBits_ge
    exact_mod_cast Nat.one_lt_two_pow (by omega : config.sim.intBits - 1 ≠ 0)
  omega

/-- Every statistic has collected `totalSamples` samples at the end of a run exactly when the
number fits an `int`, no take-off has started in the warm-up period, and no more landings have
than there are airplanes left on the ground. -/
theorem collected_iff (samples : 1 ≤ config.par.totalSamples)
    (reachable : Reachable config state) (ended : state.ended = true) :
    (∀ signal ∈ Signal.statistics,
        config.par.totalSamples ≤ (state.collected signal).length) ↔
      config.par.totalSamples < 2 ^ (config.sim.intBits - 1) ∧
        (∀ job ∈ state.started .parkingArea, config.warmupPeriod ≤ job.start) ∧
        ((state.started .airspace).countP
            (fun job => job.start < config.warmupPeriod) : Int) ≤
          state.numParked + state.departQueue.length := by
  rw [← Reachable.collected_departed reachable ended]
  have kept : config.par.totalSamples < 2 ^ (config.sim.intBits - 1) →
      max 1 config.totalSamples = config.par.totalSamples := by
    intro fits
    have least : (0 : Int) ≤ 2 ^ (config.sim.intBits - 1) := by positivity
    rw [config.totalSamples_eq (by omega) fits, max_eq_right samples]
  constructor
  · intro promised
    have fits := (promised .airportResponseTime (by decide)).trans_lt
      (Reachable.length_responses_lt reachable ended)
    exact ⟨fits, by rwa [kept fits]⟩
  · rintro ⟨fits, promised⟩
    rwa [kept fits] at promised

/-- One of the stable deterministic runs, with four airplanes and a shorter warm-up period.
One landing starts in it, and one airplane is parked at the end. -/
theorem collected_iff_stable :
    let config := Ini.deterministic 3600 900 3600 900 4 4000
    let state := eventLoop config 18
    config.warmupPeriod = 4000000 ∧ state.ended = true ∧
      ∀ signal ∈ Signal.statistics,
        config.par.totalSamples ≤ (state.collected signal).length :=
  have warmup := warmupPeriod_deterministic 3600 900 3600 900 4 4000
  ⟨warmup, by decide, (collected_iff (by decide) (eventLoop_reachable _ 18) (by decide)).mpr
    ⟨by decide, warmup ▸ by decide, warmup ▸ by decide⟩⟩

/-- With the warm-up period of the file the first take-off starts in it, and only three of the
four waiting times for a take-off are collected. -/
theorem collected_departQueueWaitingTime :
    let config := Ini.deterministic 3600 900 3600 900 4 9000
    let state := eventLoop config 18
    Reachable config state ∧ state.ended = true ∧ 1 ≤ config.par.totalSamples ∧
      0 ≤ config.warmupPeriod ∧
      ¬∀ signal ∈ Signal.statistics,
        config.par.totalSamples ≤ (state.collected signal).length := by
  intro config state
  have reachable : Reachable config state := eventLoop_reachable config 18
  have warmup : config.warmupPeriod = 9000000 := warmupPeriod_deterministic _ _ _ _ _ _
  refine ⟨reachable, by decide, by decide, warmup ▸ by decide, ?_⟩
  intro enough
  have depart := enough .departQueueWaitingTime (by decide)
  rw [Reachable.length_collected reachable, warmup] at depart
  exact absurd depart (by decide)

end AirTrafficControl
