import AirTrafficControl.Regime.Ages

/-!
# Bounded durations

The durations need not be constants for the waits to be bounded.  If those that the code computes
keep to limits, then the operations of a run keep to them, and the waits are those of
`BusyPeriod`.
-/

namespace AirTrafficControl

open FifoServer

/-- The durations that the code computes keep to limits. -/
structure Config.Within (limits : Limits) (config : Config) : Prop where
  interArrival : ∀ draws,
    limits.interArrival ≤ config.sim.duration config.par.interArrival draws
  positive : ∀ draws, 0 < config.sim.duration config.par.landing draws
  landing : ∀ draws, config.sim.duration config.par.landing draws ≤ limits.landing
  takeoff : ∀ draws, config.sim.duration config.par.takeoff draws ≤ limits.takeoff
  ground : ∀ draws later, limits.ground ≤ config.sim.duration config.par.landing draws +
    config.sim.duration config.par.parking later
  jitter : ∀ draws later, config.sim.duration config.par.landing draws +
    config.sim.duration config.par.parking later ≤ limits.ground + limits.jitter

/-! ## The arrivals -/

/-- The arrivals so far and the next one are some time apart. -/
structure Network.Apart (gap : Int) (state : Network) : Prop where
  pending : ∀ event ∈ state.futureEvents, event.kind = .arrival →
    ∀ record ∈ state.trace, record.isArrival = true →
      record.plane < event.airplane.id ∧
        (event.airplane.id - record.plane) * gap ≤ event.time - record.time
  asked : ∀ first ∈ state.trace, first.isArrival = true →
    ∀ last ∈ state.trace, last.isArrival = true → first.plane ≤ last.plane →
      (last.plane - first.plane) * gap ≤ last.time - first.time

namespace Network.Apart

variable {config : Config} {state next : Network} {gap : Int}

/-- Handlers of other messages neither create nor receive arrivals. -/
private theorem unchanged (apart : state.Apart gap)
    (events : ∀ event ∈ next.futureEvents, event.kind = .arrival →
      event ∈ state.futureEvents)
    (trace : ∀ record ∈ next.trace, record.isArrival = true → record ∈ state.trace) :
    next.Apart gap where
  pending event member arrival record called asks :=
    apart.pending event (events event member arrival) arrival record (trace record called asks)
      asks
  asked first isFirst asks last isLast asksToo :=
    apart.asked first (trace first isFirst asks) asks last (trace last isLast asksToo) asksToo

private theorem completed (apart : state.Apart gap)
    (completed : Completed config state next) : next.Apart gap := by
  cases completed with
  | idle => exact ⟨apart.pending, apart.asked⟩
  | land =>
      refine apart.unchanged ?_ ?_
      · simp +contextual [Airspace.land_eq, or_imp]
      · simp +contextual [Airspace.land_eq, or_imp]
  | takeOff =>
      refine apart.unchanged ?_ ?_
      · simp +contextual [ParkingArea.takeOff_eq, or_imp]
      · simp +contextual [ParkingArea.takeOff_eq, or_imp]

/-- The handler of an arrival schedules the next one. -/
private theorem scheduleNext {before : Network} {event : Event}
    (spaced : ∀ draws, gap ≤ config.sim.duration config.par.interArrival draws)
    (apart : before.Apart gap) (member : event ∈ before.futureEvents)
    (kind : event.kind = .arrival) (now : state.simTime = event.time)
    (created : event.airplane.id + 1 = state.created)
    (none : ∀ other ∈ state.futureEvents, other.kind ≠ .arrival)
    (trace : ∀ record ∈ state.trace, record.isArrival = true → record ∈ before.trace ∨
      record.plane = event.airplane.id ∧ record.time = event.time) :
    (Airspace.scheduleNext config state).Apart gap := by
  have later := apart.pending event member kind
  rw [Airspace.scheduleNext_eq]
  constructor
  · intro other isOther arrival record called asks
    rcases List.mem_append.mp isOther with isBefore | new
    · exact absurd arrival (none other isBefore)
    · rw [List.mem_singleton.mp new, ← created, now]
      have span := spaced state.rngDraws
      rcases List.mem_cons.mp called with rfl | isBefore
      · simp at asks
      · rcases trace record isBefore asks with old | ⟨plane, time⟩
        · obtain ⟨first, gap⟩ := later record old asks
          refine ⟨Nat.lt_succ_of_lt first, ?_⟩
          push_cast
          linarith
        · rw [plane, time]
          refine ⟨Nat.lt_succ_self _, ?_⟩
          push_cast
          linarith
  · intro first isFirst asks last isLast asksToo ordered
    rcases List.mem_cons.mp isFirst with rfl | isFirst
    · simp at asks
    · rcases List.mem_cons.mp isLast with rfl | isLast
      · simp at asksToo
      · rcases trace first isFirst asks with old | ⟨plane, time⟩
        · rcases trace last isLast asksToo with oldToo | ⟨planeToo, timeToo⟩
          · exact apart.asked first old asks last oldToo asksToo ordered
          · rw [planeToo, timeToo]
            exact (later first old asks).2
        · rcases trace last isLast asksToo with oldToo | ⟨planeToo, timeToo⟩
          · have earlier := (later last oldToo asksToo).1
            omega
          · rw [plane, time, planeToo, timeToo]
            simp

theorem transition {event : Event}
    (spaced : ∀ draws, gap ≤ config.sim.duration config.par.interArrival draws)
    (conserved : Conserved state) (apart : state.Apart gap)
    (created : event.kind = .arrival → event.airplane.id + 1 = state.created)
    (member : event ∈ state.futureEvents)
    (transition : Transition config (state.take event) event next) : next.Apart gap := by
  have taken : (state.take event).Apart gap :=
    ⟨fun other remains => apart.pending other (List.mem_of_mem_erase remains), apart.asked⟩
  cases transition with
  | landNow kind =>
      refine scheduleNext spaced apart member kind rfl (created kind) ?_ ?_
      · intro other remains
        rw [Airspace.land_eq] at remains
        rcases List.mem_append.mp remains with before | new
        · exact conserved.last_arrival member kind other before
        · rw [List.mem_singleton.mp new]
          simp
      · simp +contextual [Airspace.land_eq, Network.take, or_imp]
  | hold kind =>
      refine scheduleNext spaced apart member kind rfl (created kind)
        (conserved.last_arrival member kind) ?_
      simp +contextual [Network.take, or_imp]
  | takeOffNow =>
      refine taken.unchanged ?_ ?_
      · simp +contextual [ParkingArea.takeOff_eq, Network.setOccupied, or_imp]
      · simp +contextual [ParkingArea.takeOff_eq, or_imp]
  | queue =>
      refine taken.unchanged (fun _ remains _ => remains) ?_
      simp +contextual [or_imp]
  | landed _ completed =>
      refine Apart.completed ?_ completed
      refine taken.unchanged ?_ ?_
      · simp +contextual [Network.park, or_imp]
      · simp +contextual [Network.park, or_imp]
  | left _ _ completed =>
      refine Apart.completed ?_ completed
      refine taken.unchanged ?_ ?_
      · exact fun _ remains _ => remains
      · simp +contextual [Network.depart, or_imp]
  | finished =>
      refine taken.unchanged (fun _ remains _ => remains) ?_
      simp +contextual [Network.depart, or_imp]

end Network.Apart

/-- Airplanes are numbered as they arrive. -/
theorem Reachable.arrival_id {config : Config} {state : Network}
    (reachable : Reachable config state) :
    ∀ event ∈ state.futureEvents, event.kind = .arrival →
      event.airplane.id + 1 = state.created := by
  have process : ArrivalProcess config fun _ _ => True :=
    ⟨fun _ => trivial, fun _ _ _ _ => trivial⟩
  intro event member arrival
  exact ((Reachable.arrivals process reachable).pending event member arrival).1

theorem Reachable.apart {config : Config} {state : Network} {gap : Int}
    (spaced : ∀ draws, gap ≤ config.sim.duration config.par.interArrival draws)
    (reachable : Reachable config state) : state.Apart gap := by
  refine Reachable.invariant (Network.Apart gap) ?_ ?_ reachable
  · constructor
    · intro event _ _ record member asks
      rw [List.mem_singleton.mp member] at asks
      simp at asks
    · intro first member asks
      rw [List.mem_singleton.mp member] at asks
      simp at asks
  · intro source event target reached _ isNext apart transition
    exact apart.transition spaced (Reachable.conserved reached)
      (Reachable.arrival_id reached event isNext.1) isNext.1 transition

/-! ## The operations of a run -/

namespace Stage

variable {plane : Nat} {job : Operation}

/-- An operation is recorded. -/
theorem leg_of_job (stage : Stage) (mine : job ∈ stage.jobs plane) :
    ∃ (leg : Leg) (module : SimpleModule), job = leg.job module plane ∧
      leg.calls module plane ⊆ stage.history plane := by
  cases stage with
  | arriving | holding => cases mine
  | landing down =>
      exact ⟨down, .airspace, List.mem_singleton.mp mine, List.Subset.refl _⟩
  | parked down =>
      exact ⟨down, .airspace, List.mem_singleton.mp mine, List.subset_cons_self _ _⟩
  | queued down =>
      exact ⟨down, .airspace, List.mem_singleton.mp mine,
        List.subset_cons_of_subset _ (List.subset_cons_self _ _)⟩
  | takingOff down stay up =>
      rcases List.mem_pair.mp mine with flies | lands
      · exact ⟨up, .parkingArea, flies, List.subset_append_left _ _⟩
      · exact ⟨down, .airspace, lands,
          List.subset_append_of_subset_right _ (List.subset_cons_self _ _)⟩
  | gone down stay up =>
      rcases List.mem_pair.mp mine with flies | lands
      · exact ⟨up, .parkingArea, flies, List.subset_cons_of_subset _
          (List.subset_cons_of_subset _ (List.subset_append_left _ _))⟩
      · exact ⟨down, .airspace, lands, List.subset_cons_of_subset _
          (List.subset_cons_of_subset _
            (List.subset_append_of_subset_right _ (List.subset_cons_self _ _)))⟩

/-- A take-off is asked for when the airplane has landed and parked. -/
theorem return_of_job (stage : Stage) (timed : stage.Timed) (mine : job ∈ stage.jobs plane)
    (module : job.label.2 = .parkingArea) :
    ∃ (down : Leg) (stay : Int), down.job .airspace plane ∈ stage.jobs plane ∧
      parkedCalls plane down stay ⊆ stage.history plane ∧
      job.request = down.finish + stay := by
  cases stage with
  | arriving | holding => cases mine
  | landing | parked | queued =>
      rw [List.mem_singleton.mp mine] at module
      cases module
  | takingOff down stay up =>
      rcases List.mem_pair.mp mine with rfl | rfl
      · exact ⟨down, stay, by simp [jobs], List.subset_append_right _ _, timed⟩
      · cases module
  | gone down stay up =>
      rcases List.mem_pair.mp mine with rfl | rfl
      · exact ⟨down, stay, by simp [jobs], List.subset_cons_of_subset _
          (List.subset_cons_of_subset _ (List.subset_append_right _ _)), timed⟩
      · cases module

end Stage

/-- The timing of the operations that a module starts. -/
def Parameters.runwayUse (par : Parameters) : SimpleModule → Timing
  | .airspace => par.landing
  | .parkingArea => par.takeoff

section Operations

variable {config : Config} {state : Network} {limits : Limits}
  (reachable : Reachable config state) {job : Operation}

include reachable

/-- The start of a landing or of a take-off computes its duration, after the airplane has
asked for it. -/
theorem Reachable.recorded (member : job ∈ operations state.trace) :
    ⟨job.request, job.label.2, job.label.1, .notify⟩ ∈ state.trace ∧
      ∃ draws, job.duration = config.sim.duration (config.par.runwayUse job.label.2) draws := by
  obtain ⟨stage, -, known, jobs⟩ := Reachable.operations_of_plane reachable job.label.1
  have mine : job ∈ stage.jobs job.label.1 := by
    rw [← jobs]
    exact List.mem_filter.mpr ⟨member, by simp⟩
  obtain ⟨leg, module, same, calls⟩ := stage.leg_of_job mine
  have recorded : leg.calls module job.label.1 ⊆ state.trace := fun record called =>
    ((mem_stage_history known).mp (calls called)).1
  have starts := Reachable.computed reachable _ (recorded (leg.start_mem_calls module _))
  have asks := recorded (leg.request_mem_calls module _)
  generalize job.label.1 = plane at *
  subst same
  refine ⟨asks, ?_⟩
  cases module with
  | airspace => exact starts
  | parkingArea => exact starts

theorem Reachable.paced (within : config.Within limits) :
    Paced limits (operations state.trace) := by
  have apart := Reachable.apart within.interArrival reachable
  refine ⟨Reachable.labels_nodup reachable, ?_, ?_, ?_, ?_⟩
  · intro job member module
    obtain ⟨-, draws, lasts⟩ := Reachable.recorded reachable member
    rw [lasts, module]
    exact within.landing draws
  · intro first isFirst lands last isLast landsToo ordered
    have asks := (Reachable.recorded reachable isFirst).1
    have asksToo := (Reachable.recorded reachable isLast).1
    rw [lands] at asks
    rw [landsToo] at asksToo
    exact apart.asked _ asks (by simp) _ asksToo (by simp) ordered
  · intro job member module
    obtain ⟨-, draws, lasts⟩ := Reachable.recorded reachable member
    rw [lasts, module]
    exact within.takeoff draws
  · intro job member module
    obtain ⟨stage, timed, known, jobs⟩ := Reachable.operations_of_plane reachable job.label.1
    have mine : job ∈ stage.jobs job.label.1 := by
      rw [← jobs]
      exact List.mem_filter.mpr ⟨member, by simp⟩
    obtain ⟨down, stay, landed, parked, asked⟩ := stage.return_of_job timed mine module
    have isDown : down.job .airspace job.label.1 ∈ operations state.trace := by
      rw [← jobs] at landed
      exact (List.mem_filter.mp landed).1
    obtain ⟨-, draws, lands⟩ := Reachable.recorded reachable isDown
    obtain ⟨later, stays⟩ := Reachable.computed reachable _
      ((mem_stage_history known).mp (parked List.mem_cons_self)).1
    have lands : down.duration = config.sim.duration config.par.landing draws := lands
    have stays := add_left_cancel stays
    have starts : (down.job .airspace job.label.1).start = down.start := rfl
    have positive := within.positive draws
    have least := within.ground draws later
    have most := within.jitter draws later
    have parking := config.sim.duration_nonneg config.par.parking later
    refine ⟨_, isDown, rfl, ?_⟩
    rw [starts, asked, stays, Leg.finish, lands]
    omega

/-- An airplane in the holding queue could land when the runway is next free. -/
theorem Reachable.next_paced (within : config.Within limits) (landing : 0 < limits.landing)
    {plane : Airplane} (member : plane ∈ state.holdingQueue) :
    ∃ job : Operation, job.label.2 = .airspace ∧
      Served (job :: operations state.trace) ∧ Paced limits (job :: operations state.trace) ∧
      state.simTime - plane.queueArrivalTime ≤ job.wait := by
  have paced := Reachable.paced reachable within
  have apart := Reachable.apart within.interArrival reachable
  obtain ⟨asks, fresh⟩ := Reachable.not_landed reachable member
  have waits : request .airspace plane ∈ state.server.waiting :=
    mem_waiting.mpr (.inl ⟨plane, member, rfl⟩)
  obtain ⟨job, label, requested, duration, served, waited⟩ :=
    (Reachable.serverConsistent reachable).served_next waits landing.le
  have module : job.label.2 = .airspace := by
    rw [label]
    rfl
  have recorded : ∀ other ∈ job :: operations state.trace, other.label.2 = .airspace →
      ⟨other.request, .airspace, other.label.1, .notify⟩ ∈ state.trace := by
    intro other isOther lands
    rcases List.mem_cons.mp isOther with rfl | before
    · rw [requested, label]
      exact asks
    · have asksToo := (Reachable.recorded reachable before).1
      rwa [lands] at asksToo
  refine ⟨job, module, served, ⟨List.nodup_cons.mpr ⟨?_, paced.labels⟩, ?_, ?_, ?_, ?_⟩,
    waited⟩
  · intro landed
    obtain ⟨other, isOther, same⟩ := List.mem_map.mp landed
    exact fresh other isOther (same.trans label)
  · exact List.forall_mem_cons.mpr ⟨fun _ => duration.le, paced.landing⟩
  · intro first isFirst lands last isLast landsToo ordered
    exact apart.asked _ (recorded first isFirst lands) (by simp) _
      (recorded last isLast landsToo) (by simp) ordered
  · exact List.forall_mem_cons.mpr
      ⟨fun takesOff => (nomatch module.symm.trans takesOff), paced.takeoff⟩
  · refine List.forall_mem_cons.mpr ⟨fun takesOff => (nomatch module.symm.trans takesOff), ?_⟩
    intro other isOther takesOff
    obtain ⟨down, isDown, known⟩ := paced.returns other isOther takesOff
    exact ⟨down, List.mem_cons_of_mem _ isDown, known⟩

end Operations

/-- Stability under bounded durations.  If a landing and a take-off fit between two arrivals,
then in every run, however long and whatever the durations within the limits, the waits in both
queues are bounded: those that are sampled, and those of the airplanes that still hold. -/
theorem waits_bounded {config : Config} {state : Network} {limits : Limits}
    (reachable : Reachable config state) (stable : limits.Stable)
    (within : config.Within limits) :
    (∀ record ∈ state.trace, ∀ wait : Int,
      record.call = .emit .holdingQueueWaitingTime wait →
      (limits.interArrival - limits.takeoff) * wait ≤
        limits.takeoff * (limits.interArrival + limits.jitter)) ∧
      (∀ plane ∈ state.holdingQueue,
        (limits.interArrival - limits.takeoff) * (state.simTime - plane.queueArrivalTime) ≤
          limits.takeoff * (limits.interArrival + limits.jitter)) ∧
      ∀ record ∈ state.trace, ∀ wait : Int,
        record.call = .emit .departQueueWaitingTime wait →
        (limits.interArrival - limits.takeoff) * wait ≤
          (limits.interArrival - limits.takeoff) * limits.landing +
            limits.takeoff * (limits.takeoff + limits.jitter) := by
  have paced := Reachable.paced reachable within
  have served := (Reachable.serverConsistent reachable).served
  refine ⟨?_, ?_, ?_⟩
  · intro record member wait sample
    obtain ⟨job, isJob, label, -, rfl⟩ :=
      Reachable.operation_of_sample reachable member .airspace sample
    exact stable.landing_wait_le paced served job isJob (by rw [label])
  · intro plane member
    obtain ⟨job, module, nextServed, nextPaced, waited⟩ :=
      Reachable.next_paced reachable within stable.landing member
    exact (mul_le_mul_of_nonneg_left waited stable.slack_pos.le).trans
      (stable.landing_wait_le nextPaced nextServed job List.mem_cons_self module)
  · intro record member wait sample
    obtain ⟨job, isJob, label, -, rfl⟩ :=
      Reachable.operation_of_sample reachable member .parkingArea sample
    exact stable.takeoff_wait_le paced served job isJob (by rw [label])

namespace Ini

/-- Variates that are zero or the mean in turns. -/
def alternating (mean : ℚ) (_ draw : Nat) : ℚ := mean * (draw % 2 : Nat)

theorem alternating_nonneg {mean : ℚ} (rng draw : Nat) (nonneg : 0 ≤ mean) :
    0 ≤ alternating mean rng draw :=
  mul_nonneg nonneg (Nat.cast_nonneg _)

/-- The stable grid, but with parking times that are zero or three seconds. -/
def alternatingRun : Config where
  sim := simulator alternating alternating_nonneg
  par := { deterministicRegime 4 1 3 2 6 0 with isParkingTimeRandom := true }

theorem alternatingRun_parking (draws : Nat → Nat) :
    0 ≤ alternatingRun.sim.duration alternatingRun.par.parking draws ∧
      alternatingRun.sim.duration alternatingRun.par.parking draws ≤ 3000 := by
  have drawn : alternatingRun.sim.duration alternatingRun.par.parking draws =
      simtime (3 * (draws (rngMapping rngKeys .parkingArea 0) % 2 : Nat)) := rfl
  rw [drawn]
  rcases Nat.mod_two_eq_zero_or_one (draws (rngMapping rngKeys .parkingArea 0)) with even | odd
  · rw [even]
    decide +kernel
  · rw [odd]
    decide +kernel

theorem alternatingRun_within : alternatingRun.Within ⟨4000, 1000, 2000, 1000, 3000⟩ := by
  have landing : ∀ draws,
      alternatingRun.sim.duration alternatingRun.par.landing draws = 1000 :=
    fun draws => (alternatingRun.sim.duration_of_constant rfl draws).trans (by decide)
  have takeoff : ∀ draws,
      alternatingRun.sim.duration alternatingRun.par.takeoff draws = 2000 :=
    fun draws => (alternatingRun.sim.duration_of_constant rfl draws).trans (by decide)
  have interArrival : ∀ draws,
      alternatingRun.sim.duration alternatingRun.par.interArrival draws = 4000 :=
    fun draws => (alternatingRun.sim.duration_of_constant rfl draws).trans (by decide)
  constructor
  · exact fun draws => (interArrival draws).ge
  · intro draws
    rw [landing]
    decide
  · exact fun draws => (landing draws).le
  · exact fun draws => (takeoff draws).le
  · intro draws later
    have parking := alternatingRun_parking later
    rw [landing]
    dsimp only
    omega
  · intro draws later
    have parking := alternatingRun_parking later
    rw [landing]
    dsimp only
    omega

end Ini

theorem waits_bounded_alternating :
    let state := eventLoop Ini.alternatingRun 20
    (∀ record ∈ state.trace, ∀ wait : Int,
      record.call = .emit .holdingQueueWaitingTime wait →
      (4000 - 2000) * wait ≤ 2000 * (4000 + 3000)) ∧
      (∀ plane ∈ state.holdingQueue,
        (4000 - 2000) * (state.simTime - plane.queueArrivalTime) ≤ 2000 * (4000 + 3000)) ∧
      ∀ record ∈ state.trace, ∀ wait : Int,
        record.call = .emit .departQueueWaitingTime wait →
        (4000 - 2000) * wait ≤ (4000 - 2000) * 1000 + 2000 * (2000 + 3000) :=
  waits_bounded (eventLoop_reachable _ 20) ⟨by decide, by decide, by decide, by decide⟩
    Ini.alternatingRun_within

end AirTrafficControl
