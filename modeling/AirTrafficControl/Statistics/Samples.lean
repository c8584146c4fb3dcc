import AirTrafficControl.Statistics.Log

/-!
# Samples of operations

An operation leaves two samples when it starts: its duration on `RunwayUse`, and the time
its airplane has waited.  A statistic collects the samples that are emitted after the
warm-up period.
-/

namespace AirTrafficControl

open FifoServer

variable {config : Config} {state next : Network}

/-- The samples of a signal that a statistic collects. -/
def Network.collected (state : Network) (signal : Signal) : List (Int × Int) :=
  (state.samples signal).filter fun sample => state.warmupPeriod ≤ sample.1

/-- The operations that a module has started, latest first. -/
def Network.started (state : Network) (module : SimpleModule) : List Operation :=
  (operations state.trace).filter fun job => job.label.2 = module

/-- The samples that operations leave. -/
structure Network.Sampled (state : Network) : Prop where
  use : state.samples .runwayUse =
    (operations state.trace).map fun job => (job.start, job.duration)
  waits : ∀ module : SimpleModule, state.samples module.waitingTime =
    (state.started module).map fun job => (job.start, job.wait)

namespace Network.Sampled

/-- Calls that neither start an operation nor leave a sample of one. -/
private theorem quiet (sampled : state.Sampled) (calls : List Record)
    (use : calls.filterMap (Record.sample .runwayUse) = [])
    (waits : ∀ module : SimpleModule,
      calls.filterMap (Record.sample module.waitingTime) = [])
    (still : operations (calls ++ state.trace) = operations state.trace)
    (trace : next.trace = calls ++ state.trace) : next.Sampled := by
  constructor
  · rw [samples_append _ calls trace, use, trace, still]
    exact sampled.use
  · intro module
    rw [samples_append _ calls trace, waits, Network.started, trace, still]
    exact sampled.waits module

/-- An operation starts. -/
private theorem begin (sampled : state.Sampled) {duration : Int} {module : SimpleModule}
    {plane : Nat} (now wait : Int) (calls : List Record)
    (use : calls.filterMap (Record.sample .runwayUse) = [])
    (waits : ∀ other : SimpleModule,
      calls.filterMap (Record.sample other.waitingTime) =
        if module = other then [(now, wait)] else [])
    (still : operations (calls ++ state.trace) = operations state.trace)
    (asked : requestTime module plane (calls ++ state.trace) = now - wait)
    (trace : next.trace = ⟨now, module, plane, .emit .runwayUse duration⟩ ::
      ⟨now, module, plane, .sendDelayed duration⟩ :: (calls ++ state.trace)) :
    next.Sampled := by
  have jobs : operations next.trace =
      ⟨(plane, module), now - wait, now, duration⟩ :: operations state.trace := by
    rw [trace, operations_emit, operations_sendDelayed, still, asked]
  have split : next.trace = ⟨now, module, plane, .emit .runwayUse duration⟩ ::
      ⟨now, module, plane, .sendDelayed duration⟩ :: calls ++ state.trace := trace
  constructor
  · rw [samples_append _ _ split, jobs, sampled.use, List.filterMap_cons_some (by rfl),
      List.filterMap_cons_none (by rfl), use]
    rfl
  · intro other
    rw [samples_append _ _ split, List.filterMap_cons_none (by cases other <;> rfl),
      List.filterMap_cons_none (by rfl), waits, sampled.waits, Network.started,
      Network.started, jobs, List.filter_cons]
    by_cases own : module = other
    · simp [own, Job.wait]
    · simp [own]

theorem scheduleNext (sampled : state.Sampled) :
    (Airspace.scheduleNext config state).Sampled :=
  sampled.quiet [_] rfl (fun _ => rfl) rfl rfl

theorem completed (sampled : state.Sampled) (asked : state.Asked)
    (completed : Completed config state next) : next.Sampled := by
  cases completed with
  | idle => exact sampled.quiet [] rfl (fun _ => rfl) rfl rfl
  | @land plane rest front =>
      have mine := asked.holding plane (by simp [front])
      refine sampled.begin state.simTime (state.simTime - plane.queueArrivalTime) [_, _]
        rfl ?_ rfl ?_ rfl
      · intro other
        cases other <;> rfl
      · rw [requestTime_append _ _ (by simp), mine]
        exact (sub_sub_cancel _ _).symm
  | @takeOff plane rest front =>
      have mine := asked.depart plane (by simp [front])
      refine sampled.begin state.simTime (state.simTime - plane.queueArrivalTime) [_, _]
        rfl ?_ rfl ?_ rfl
      · intro other
        cases other <;> rfl
      · rw [requestTime_append _ _ (by simp), mine]
        exact (sub_sub_cancel _ _).symm

theorem transition (sampled : state.Sampled) (asked : state.Asked) {event : Event}
    (transition : Transition config state event next) : next.Sampled := by
  cases transition with
  | landNow =>
      apply Sampled.scheduleNext
      refine sampled.begin state.simTime 0 [_, _, _] rfl ?_ rfl ?_ rfl
      · intro other
        cases other <;> rfl
      · simp [requestTime_cons]
  | hold =>
      apply Sampled.scheduleNext
      exact sampled.quiet [_, _] rfl (fun other => by cases other <;> rfl) rfl rfl
  | takeOffNow =>
      refine sampled.begin state.simTime 0 [_, _, _, _] rfl ?_ rfl ?_ rfl
      · intro other
        cases other <;> rfl
      · simp [requestTime_cons]
  | queue => exact sampled.quiet [_, _, _] rfl (fun other => by cases other <;> rfl) rfl rfl
  | landed _ completed =>
      refine Sampled.completed ?_ ?_ completed
      · exact sampled.quiet [_, _] rfl (fun other => by cases other <;> rfl) rfl rfl
      · exact asked.quiet [_, _] (by simp) rfl rfl rfl
  | left _ _ completed =>
      refine Sampled.completed ?_ ?_ completed
      · exact sampled.quiet [_, _] rfl (fun other => by cases other <;> rfl) rfl rfl
      · exact asked.quiet [_, _] (by simp) rfl rfl rfl
  | finished =>
      exact sampled.quiet [_, _, _, _] rfl (fun other => by cases other <;> rfl) rfl rfl

end Network.Sampled

theorem Reachable.sampled (reachable : Reachable config state) : state.Sampled := by
  refine Reachable.invariant Network.Sampled ⟨rfl, fun _ => ?_⟩ ?_ reachable
  · rfl
  · intro source event target reached _ _ sampled transition
    have taken : (source.take event).Sampled := ⟨sampled.use, sampled.waits⟩
    have asked : (source.take event).Asked :=
      ⟨(Reachable.asked reached).holding, (Reachable.asked reached).depart⟩
    exact taken.transition asked transition

/-! ## The end of a run -/

/-- When the simulation ends the runway is clear, the last operation is over, and the time
is on record. -/
structure Network.Concluded (state : Network) : Prop where
  clear : state.runwayMessages = 0
  finished : ∀ last ∈ (operations state.trace).head?, last.finish = state.simTime
  totalSimtime : state.samples .totalSimtime = [(state.simTime, state.simTime)]

/-- `completed` does not end the simulation. -/
private theorem Completed.goesOn (completed : Completed config state next) :
    next.ended = state.ended ∧
      next.samples .totalSimtime = state.samples .totalSimtime := by
  cases completed with
  | idle => exact ⟨rfl, rfl⟩
  | land => exact ⟨rfl, rfl⟩
  | takeOff => exact ⟨rfl, rfl⟩

/-- A handler goes on with the simulation, or it ends it when a take-off is over. -/
private theorem Transition.goesOn_or {event : Event}
    (transition : Transition config state event next) :
    (next.ended = state.ended ∧
        next.samples .totalSimtime = state.samples .totalSimtime) ∨
      event.kind = .takeoff ∧ next.ended = true ∧ next.simTime = state.simTime ∧
        next.runwayMessages = state.runwayMessages ∧
        operations next.trace = operations state.trace ∧
        next.samples .totalSimtime =
          (state.simTime, state.simTime) :: state.samples .totalSimtime := by
  cases transition with
  | landNow => exact .inl ⟨rfl, rfl⟩
  | hold => exact .inl ⟨rfl, rfl⟩
  | takeOffNow => exact .inl ⟨rfl, rfl⟩
  | queue => exact .inl ⟨rfl, rfl⟩
  | landed _ completed =>
      obtain ⟨ended, samples⟩ := completed.goesOn
      exact .inl ⟨ended, samples⟩
  | left _ _ completed =>
      obtain ⟨ended, samples⟩ := completed.goesOn
      exact .inl ⟨ended, samples⟩
  | finished kind =>
      exact .inr ⟨kind, rfl, rfl, rfl, rfl, rfl⟩

/-- The total simulation time is emitted at the end only. -/
theorem Reachable.concluded (reachable : Reachable config state) :
    (state.ended = true → state.Concluded) ∧
      (state.ended = false → state.samples .totalSimtime = []) := by
  refine Reachable.invariant (fun state => (state.ended = true → state.Concluded) ∧
    (state.ended = false → state.samples .totalSimtime = [])) ?_ ?_ reachable
  · exact ⟨fun ended => (nomatch ended), fun _ => rfl⟩
  · intro source event target reached running isNext known transition
    have none : (source.take event).samples .totalSimtime = [] := known.2 running
    rcases transition.goesOn_or with
      ⟨ended, samples⟩ | ⟨kind, ended, clock, messages, jobs, samples⟩
    · have goesOn : target.ended = false := ended.trans running
      exact ⟨fun ended => (nomatch goesOn.symm.trans ended), fun _ => samples.trans none⟩
    · refine ⟨fun _ => ⟨?_, ?_, ?_⟩, fun goesOn => (nomatch ended.symm.trans goesOn)⟩
      · rw [messages]
        exact ((Reachable.runwayConsistent reached running).released isNext.1
          (.inr kind)).2
      · intro last isLast
        rw [jobs] at isLast
        obtain ⟨latest, isLatest, time⟩ :=
          Reachable.due reached event isNext.1 (.inr kind)
        rw [Option.mem_unique isLast isLatest, ← time, clock]
        rfl
      · rw [samples, none, clock]

end AirTrafficControl
