import AirTrafficControl.Statistics.Sizes

/-!
# Queue lengths and waiting times

The samples of a queue length, read as a step function, and the samples of a waiting time
are emitted independently of each other.  Still the area under the one is the sum of the
others and of the time that the airplanes in the queue have waited so far, in every run and
at every time.
-/

namespace AirTrafficControl

open StepFunction

variable {config : Config} {state next : Network} {event : Event}

/-- The time that airplanes have waited for a module, those included that still wait. -/
def Network.waited (state : Network) (module : SimpleModule) : Int :=
  ((state.samples module.waitingTime).map Prod.snd).sum +
    ((state.queue module).map fun plane => state.simTime - plane.queueArrivalTime).sum

/-- The area under the samples of a queue length up to now. -/
def Network.queueArea (state : Network) (module : SimpleModule) : Int :=
  integral 0 (state.samples module.queueSize) 0 state.simTime

/-- Samples are not taken in the future. -/
theorem Reachable.sample_le (reachable : Reachable config state) (signal : Signal) :
    ∀ sample ∈ state.samples signal, sample.1 ≤ state.simTime := by
  intro sample member
  obtain ⟨record, called, time⟩ := record_of_sample member
  exact time ▸ Reachable.past reachable record called

/-! ## Time passes -/

/-- Everybody in a queue waits while time passes. -/
private theorem sum_waits (queue : List Airplane) (now later : Int) :
    (queue.map fun plane => later - plane.queueArrivalTime).sum =
      (queue.map fun plane => now - plane.queueArrivalTime).sum +
        (later - now) * queue.length := by
  induction queue with
  | nil => simp
  | cons plane queue ih =>
      rw [List.map_cons, List.map_cons, List.sum_cons, List.sum_cons, ih, List.length_cons]
      push_cast
      ring

/-- Until the next event the length of a queue is its latest sample. -/
private theorem queueArea_take (reachable : Reachable config state)
    (isNext : state.Next event) (module : SimpleModule) :
    (state.take event).queueArea module = state.queueArea module +
      (event.time - state.simTime) * (state.queue module).length := by
  have timely := Reachable.timely reachable
  have later := timely.pending event isNext.1
  have area : (state.take event).queueArea module =
      integral 0 (state.samples module.queueSize) 0 event.time := rfl
  rw [area, integral_add timely.now_nonneg later, Network.queueArea]
  congr 1
  apply integral_const later
  intro instant since _
  rw [← (Reachable.tracked reachable).sizes, Network.latest]
  apply valueAt_of_forall_le
  intro sample member
  exact (Reachable.sample_le reachable _ sample member).trans since

private theorem waited_take (event : Event) (module : SimpleModule) :
    (state.take event).waited module = state.waited module +
      (event.time - state.simTime) * (state.queue module).length := by
  have queue : (state.take event).queue module = state.queue module := by
    cases module <;> rfl
  rw [Network.waited, Network.waited, add_assoc, queue]
  exact congrArg _ (sum_waits _ _ _)

/-! ## An event is handled -/

/-- New samples add to the area only from now on. -/
private theorem Network.Logs.queueArea (logs : state.Logs next) (module : SimpleModule) :
    next.queueArea module = state.queueArea module := by
  obtain ⟨calls, trace, now⟩ := logs.calls
  rw [Network.queueArea, logs.clock, samples_append _ calls trace]
  apply integral_congr
  intro instant _ before
  apply valueAt_append_of_lt
  intro sample member
  obtain ⟨record, called, time⟩ := record_of_sample member
  rw [← time, now record called]
  exact before

/-- The wait of an airplane that leaves a queue is sampled. -/
private theorem Completed.waited (completed : Completed config state next)
    (module : SimpleModule) : next.waited module = state.waited module := by
  have leaves : ∀ wait waits rest : Int, wait + waits + rest = waits + (wait + rest) := by
    intro wait waits rest
    ring
  cases completed with
  | idle => cases module <;> rfl
  | @land plane rest front =>
      cases module with
      | airspace =>
          rw [Network.waited, Network.waited, Network.queue, Network.queue, front,
            List.map_cons, List.sum_cons]
          exact leaves _ _ _
      | parkingArea => rfl
  | @takeOff plane rest front =>
      cases module with
      | airspace => rfl
      | parkingArea =>
          rw [Network.waited, Network.waited, Network.queue, Network.queue, front,
            List.map_cons, List.sum_cons]
          exact leaves _ _ _

/-- Whoever joins a queue has not waited yet, and an immediate grant is a wait of zero. -/
private theorem Transition.waited (transition : Transition config state event next)
    (module : SimpleModule) : next.waited module = state.waited module := by
  have joins : ∀ (waits : Int) (queue : List Airplane) (plane : Airplane),
      plane.queueArrivalTime = state.simTime →
      waits + ((queue ++ [plane]).map fun plane =>
        state.simTime - plane.queueArrivalTime).sum =
      waits + (queue.map fun plane => state.simTime - plane.queueArrivalTime).sum := by
    intro waits queue plane now
    simp [now]
  cases transition with
  | landNow =>
      cases module with
      | airspace => exact congrArg (· + _) (zero_add _)
      | parkingArea => rfl
  | hold =>
      cases module with
      | airspace => exact joins _ _ _ rfl
      | parkingArea => rfl
  | takeOffNow =>
      cases module with
      | airspace => rfl
      | parkingArea => exact congrArg (· + _) (zero_add _)
  | queue =>
      cases module with
      | airspace => rfl
      | parkingArea => exact joins _ _ _ rfl
  | landed _ completed =>
      rw [completed.waited]
      cases module <;> rfl
  | left _ _ completed =>
      rw [completed.waited]
      cases module <;> rfl
  | finished => cases module <;> rfl

theorem Reachable.queueArea (reachable : Reachable config state) (module : SimpleModule) :
    state.queueArea module = state.waited module := by
  refine Reachable.invariant
    (fun state => state.queueArea module = state.waited module) ?_ ?_ reachable
  · cases module <;> rfl
  · intro source event target reached _ isNext equal transition
    rw [(Network.Logs.transition transition).queueArea, transition.waited,
      queueArea_take reached isNext, waited_take, equal]

/-- In every reachable state the area under the samples of a queue length is the sum of
the waiting times sampled so far and of the time the airplanes in the queue have waited. -/
theorem area_eq_waits (reachable : Reachable config state) :
    integral 0 (state.samples .holdingQueueSize) 0 state.simTime =
        ((state.samples .holdingQueueWaitingTime).map Prod.snd).sum +
          (state.holdingQueue.map fun plane =>
            state.simTime - plane.queueArrivalTime).sum ∧
      integral 0 (state.samples .departQueueSize) 0 state.simTime =
        ((state.samples .departQueueWaitingTime).map Prod.snd).sum +
          (state.departQueue.map fun plane =>
            state.simTime - plane.queueArrivalTime).sum :=
  ⟨Reachable.queueArea reachable .airspace, Reachable.queueArea reachable .parkingArea⟩

/-- An overloaded run after ten events, with airplanes in both queues. -/
theorem area_eq_waits_tenth :
    let state := eventLoop (Ini.deterministic 1 2 1 2 5 0) 10
    integral 0 (state.samples .holdingQueueSize) 0 state.simTime =
        ((state.samples .holdingQueueWaitingTime).map Prod.snd).sum +
          (state.holdingQueue.map fun plane =>
            state.simTime - plane.queueArrivalTime).sum ∧
      integral 0 (state.samples .departQueueSize) 0 state.simTime =
        ((state.samples .departQueueWaitingTime).map Prod.snd).sum +
          (state.departQueue.map fun plane =>
            state.simTime - plane.queueArrivalTime).sum :=
  area_eq_waits (eventLoop_reachable _ 10)

end AirTrafficControl
