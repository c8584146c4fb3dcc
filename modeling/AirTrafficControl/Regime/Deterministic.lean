import AirTrafficControl.Queue.Refinement
import AirTrafficControl.Regime.BusyPeriod
import AirTrafficControl.Safety.Durations

/-!
# The deterministic regime

With all four flags off every duration is a constant, and the operations of a run are
those of a `Timetable`.  The bounds of `BusyPeriod` then hold of the waiting times a run
samples.  An airplane that still waits is treated like the next operation: the operations
remain a served list when its landing is added after the one in progress.
-/

namespace AirTrafficControl

open FifoServer

variable {config : Config} {state : Network}

/-- The four flags are off. -/
structure Parameters.Deterministic (par : Parameters) : Prop where
  interArrival : par.isInterArrivalTimeRandom = false
  landing : par.isLandingTimeRandom = false
  parking : par.isParkingTimeRandom = false
  takeoff : par.isTakeoffTimeRandom = false

/-- The constants of the parameters in ticks. -/
def Config.timetable (config : Config) : Timetable where
  interArrival := config.sim.simtime config.par.interArrivalTime
  landing := config.sim.simtime config.par.landingTime
  parking := config.sim.simtime config.par.parkingTime
  takeoff := config.sim.simtime config.par.takeoffTime

namespace Parameters.Deterministic

variable (deterministic : config.par.Deterministic) (draws : Nat → Nat)

include deterministic

theorem duration_interArrival :
    config.sim.duration config.par.interArrival draws = config.timetable.interArrival :=
  config.sim.duration_of_constant deterministic.interArrival draws

theorem duration_landing :
    config.sim.duration config.par.landing draws = config.timetable.landing :=
  config.sim.duration_of_constant deterministic.landing draws

theorem duration_parking :
    config.sim.duration config.par.parking draws = config.timetable.parking :=
  config.sim.duration_of_constant deterministic.parking draws

theorem duration_takeoff :
    config.sim.duration config.par.takeoff draws = config.timetable.takeoff :=
  config.sim.duration_of_constant deterministic.takeoff draws

/-- Airplanes arrive at the multiples of the inter-arrival time. -/
theorem arrivalProcess : ArrivalProcess config fun plane time =>
    time = (plane + 1) * config.timetable.interArrival where
  first := by
    intro draws
    rw [duration_interArrival deterministic]
    simp
  following := by
    intro plane time draws due
    rw [duration_interArrival deterministic, due]
    push_cast
    ring

end Parameters.Deterministic

/-- The constants are not negative. -/
theorem Config.timetable_sound (config : Config) (landing : 0 < config.timetable.landing) :
    config.timetable.Sound where
  landing
  parking := config.sim.simtime_nonneg config.par.parkingTime_nonneg
  takeoff := config.sim.simtime_nonneg config.par.takeoffTime_nonneg

/-! ## Itineraries of the regime -/

/-- An itinerary that keeps to a timetable. -/
def Stage.Regular (table : Timetable) (plane : Nat) : Stage → Prop
  | .arriving => True
  | .holding request => request = (plane + 1) * table.interArrival
  | .landing down =>
      down.request = (plane + 1) * table.interArrival ∧ down.duration = table.landing
  | .parked down stay | .queued down stay =>
      down.request = (plane + 1) * table.interArrival ∧ down.duration = table.landing ∧
        stay = table.parking
  | .takingOff down stay up | .gone down stay up =>
      down.request = (plane + 1) * table.interArrival ∧ down.duration = table.landing ∧
        stay = table.parking ∧ up.request = down.finish + stay ∧
        up.duration = table.takeoff

section Records

variable (deterministic : config.par.Deterministic) (reachable : Reachable config state)
  {plane : Nat}

include deterministic reachable

private theorem arrival_regular {time : Int}
    (member : ⟨time, .airspace, plane, .notify⟩ ∈ state.trace) :
    time = (plane + 1) * config.timetable.interArrival :=
  (Reachable.arrivals deterministic.arrivalProcess reachable).asked _ member (by simp)

/-- A landing takes place on time. -/
private theorem landing_regular {down : Leg}
    (recorded : down.calls .airspace plane ⊆ state.trace) :
    down.request = (plane + 1) * config.timetable.interArrival ∧
      down.duration = config.timetable.landing := by
  have asks : ⟨down.request, .airspace, plane, .notify⟩ ∈ state.trace :=
    recorded (by simp [Leg.calls])
  have starts : ⟨down.start, .airspace, plane, .sendDelayed down.duration⟩ ∈ state.trace :=
    recorded (by simp [Leg.calls])
  obtain ⟨draws, known⟩ := Reachable.computed reachable _ starts
  rw [known, deterministic.duration_landing]
  exact ⟨arrival_regular deterministic reachable asks, rfl⟩

/-- An airplane parks for the parking time. -/
private theorem parking_regular {down : Leg} {stay : Int}
    (recorded : Stage.parkedCalls plane down stay ⊆ state.trace) :
    down.request = (plane + 1) * config.timetable.interArrival ∧
      down.duration = config.timetable.landing ∧ stay = config.timetable.parking := by
  have landed : down.calls .airspace plane ⊆ state.trace :=
    List.Subset.trans (List.subset_cons_self _ _) recorded
  obtain ⟨request, duration⟩ := landing_regular deterministic reachable landed
  have parks : ⟨down.finish, .parkingArea, plane, .scheduleAt (down.finish + stay)⟩ ∈
      state.trace := recorded List.mem_cons_self
  obtain ⟨draws, known⟩ := Reachable.computed reachable _ parks
  rw [deterministic.duration_parking] at known
  exact ⟨request, duration, add_left_cancel known⟩

/-- A take-off takes the take-off time. -/
private theorem takeoff_regular {up : Leg}
    (recorded : up.calls .parkingArea plane ⊆ state.trace) :
    up.duration = config.timetable.takeoff := by
  have starts : ⟨up.start, .parkingArea, plane, .sendDelayed up.duration⟩ ∈ state.trace :=
    recorded (by simp [Leg.calls])
  obtain ⟨draws, known⟩ := Reachable.computed reachable _ starts
  rw [known, deterministic.duration_takeoff]

/-- The stage of an itinerary keeps to the timetable. -/
theorem Reachable.regular_stage {stage : Stage} (timed : stage.Timed)
    (known : history plane state.trace = stage.history plane) :
    stage.Regular config.timetable plane := by
  have recorded : stage.history plane ⊆ state.trace :=
    fun record member => ((mem_stage_history known).mp member).1
  cases stage with
  | arriving => trivial
  | holding request =>
      exact arrival_regular deterministic reachable (recorded List.mem_cons_self)
  | landing down => exact landing_regular deterministic reachable recorded
  | parked down stay => exact parking_regular deterministic reachable recorded
  | queued down stay =>
      have parked := List.Subset.trans (List.subset_cons_self _ _) recorded
      exact parking_regular deterministic reachable parked
  | takingOff down stay up =>
      have parked := List.Subset.trans (List.subset_append_right _ _) recorded
      have flown := List.Subset.trans (List.subset_append_left _ _) recorded
      obtain ⟨request, duration, stays⟩ := parking_regular deterministic reachable parked
      exact ⟨request, duration, stays, timed, takeoff_regular deterministic reachable flown⟩
  | gone down stay up =>
      have closed := List.Subset.trans
        (List.subset_cons_of_subset _ (List.subset_cons_self _ _)) recorded
      have parked := List.Subset.trans (List.subset_append_right _ _) closed
      have flown := List.Subset.trans (List.subset_append_left _ _) closed
      obtain ⟨request, duration, stays⟩ := parking_regular deterministic reachable parked
      exact ⟨request, duration, stays, timed, takeoff_regular deterministic reachable flown⟩

/-- Every itinerary of a run keeps to the timetable. -/
theorem Reachable.regular (plane : Nat) :
    ∃ stage : Stage, stage.Regular config.timetable plane ∧
      history plane state.trace = stage.history plane ∧
      (operations state.trace).filter (fun job => job.label.1 = plane) =
        stage.jobs plane := by
  obtain ⟨stage, timed, known, jobs⟩ := Reachable.operations_of_plane reachable plane
  exact ⟨stage, Reachable.regular_stage deterministic reachable timed known, known, jobs⟩

end Records

/-! ## The operations of the regime -/

/-- No airplane lands or takes off twice. -/
theorem Reachable.labels_nodup (reachable : Reachable config state) :
    ((operations state.trace).map Job.label).Nodup := by
  rw [List.nodup_iff_sublist]
  rintro ⟨plane, module⟩ twice
  obtain ⟨pair, within, labels⟩ := List.sublist_map_iff.mp twice
  obtain ⟨stage, _, _, jobs⟩ := Reachable.operations_of_plane reachable plane
  have own : ∀ job ∈ pair, job.label = (plane, module) := by
    intro job member
    have label : job.label ∈ pair.map Job.label := List.mem_map_of_mem member
    rw [← labels] at label
    simpa using label
  have kept : List.Sublist pair (stage.jobs plane) := by
    rw [← jobs]
    have filtered := within.filter fun job => decide (job.label.1 = plane)
    rwa [List.filter_eq_self.mpr (fun job member => by simp [own job member])] at filtered
  have different : ((stage.jobs plane).map Job.label).Nodup := by
    cases stage <;> simp [Stage.jobs]
  have distinct := different.sublist (kept.map Job.label)
  rw [← labels] at distinct
  simp at distinct

theorem Reachable.periodic (deterministic : config.par.Deterministic)
    (reachable : Reachable config state) :
    Periodic config.timetable (operations state.trace) := by
  have mine : ∀ job ∈ operations state.trace, ∃ stage : Stage,
      stage.Regular config.timetable job.label.1 ∧
      job ∈ stage.jobs job.label.1 ∧
      ∀ other ∈ stage.jobs job.label.1, other ∈ operations state.trace := by
    intro job member
    obtain ⟨stage, regular, _, jobs⟩ :=
      Reachable.regular deterministic reachable job.label.1
    refine ⟨stage, regular, ?_, ?_⟩
    · rw [← jobs]
      exact List.mem_filter.mpr ⟨member, by simp⟩
    · intro other isOther
      rw [← jobs] at isOther
      exact (List.mem_filter.mp isOther).1
  refine ⟨Reachable.labels_nodup reachable, ?_, ?_⟩
  · rintro ⟨⟨plane, module⟩, request, start, duration⟩ member rfl
    obtain ⟨stage, regular, own, -⟩ := mine _ member
    cases stage <;> simp_all [Stage.jobs, Stage.Regular, Leg.job]
  · rintro ⟨⟨plane, module⟩, request, start, duration⟩ member rfl
    obtain ⟨stage, regular, own, others⟩ := mine _ member
    cases stage with
    | takingOff down stay up | gone down stay up =>
        obtain ⟨-, lands, parks, asks, lasts⟩ := regular
        have landed := others (down.job .airspace plane) (by simp [Stage.jobs])
        simp only [Stage.jobs, List.mem_pair, Leg.job, Job.mk.injEq, Prod.mk.injEq,
          reduceCtorEq, and_false, false_and, or_false] at own
        refine ⟨own.2.2.2.trans lasts, down.job .airspace plane, landed, rfl, ?_⟩
        rw [own.2.1, asks, parks, Leg.finish, lands]
        rfl
    | _ => simp [Stage.jobs, Leg.job] at own

/-! ## Airplanes that still wait -/

/-- An airplane in the holding queue has asked for its landing, and has not landed yet. -/
theorem Reachable.not_landed (reachable : Reachable config state) {plane : Airplane}
    (member : plane ∈ state.holdingQueue) :
    ⟨plane.queueArrivalTime, .airspace, plane.id, .notify⟩ ∈ state.trace ∧
      ∀ job ∈ operations state.trace, job.label ≠ (plane.id, .airspace) := by
  obtain ⟨stage, atStage, known⟩ := (Reachable.itinerant reachable).staged _
    (Network.queued_airspace_mem_roster.mpr member)
  cases atStage with
  | holding =>
      rw [Slot.id_queued] at known
      constructor
      · exact ((mem_stage_history known).mp List.mem_cons_self).1
      · intro job isJob label
        have mine : job ∈ operations (history plane.id state.trace) := by
          rw [operations_history]
          exact List.mem_filter.mpr ⟨isJob, by simp [label]⟩
        rw [known, Stage.operations_history] at mine
        cases mine

theorem Reachable.holdingQueue_nodup (reachable : Reachable config state) :
    (state.holdingQueue.map Airplane.id).Nodup := by
  have within : (↑(state.holdingQueue.map Airplane.id) : Multiset Nat) ≤
      state.roster.map Slot.id := by
    simp only [Network.roster, Multiset.map_add, Multiset.map_coe, List.map_map, add_assoc]
    exact Multiset.le_add_right _ _
  exact Multiset.coe_nodup.mp
    (Multiset.nodup_of_le within (Reachable.itinerant reachable).nodup)

/-- An airplane in the depart queue has landed, and has not taken off yet. -/
theorem Reachable.not_takenOff (reachable : Reachable config state) {plane : Airplane}
    (member : plane ∈ state.departQueue) :
    ∃ (down : Leg) (stay : Int),
      Stage.parkedCalls plane.id down stay ⊆ state.trace ∧
      down.job .airspace plane.id ∈ operations state.trace ∧
      plane.queueArrivalTime = down.finish + stay ∧
      ∀ job ∈ operations state.trace, job.label ≠ (plane.id, .parkingArea) := by
  obtain ⟨stage, atStage, known⟩ := (Reachable.itinerant reachable).staged _
    (Network.queued_parkingArea_mem_roster.mpr member)
  cases atStage with
  | @queued _ down stay _ asked =>
      rw [Slot.id_queued] at known
      have jobs := operations_history plane.id state.trace
      rw [known, Stage.operations_history, Stage.jobs] at jobs
      refine ⟨down, stay, ?_, ?_, asked, ?_⟩
      · intro record called
        exact ((mem_stage_history known).mp (List.mem_cons_of_mem _ called)).1
      · have landed : down.job .airspace plane.id ∈ [down.job .airspace plane.id] :=
          List.mem_singleton_self _
        rw [jobs] at landed
        exact (List.mem_filter.mp landed).1
      · intro job isJob label
        have mine : job ∈ [down.job .airspace plane.id] := by
          rw [jobs]
          exact List.mem_filter.mpr ⟨isJob, by simp [label]⟩
        rw [List.mem_singleton.mp mine] at label
        cases label

section Waiting

variable (deterministic : config.par.Deterministic) (reachable : Reachable config state)
  {plane : Airplane}

include deterministic reachable

/-- An airplane in the holding queue could land when the runway is next free. -/
theorem Reachable.next_landing (positive : 0 < config.timetable.landing)
    (member : plane ∈ state.holdingQueue) :
    ∃ job : Operation, job.label.2 = .airspace ∧
      Served (job :: operations state.trace) ∧
      Periodic config.timetable (job :: operations state.trace) ∧
      state.simTime - plane.queueArrivalTime ≤ job.wait := by
  have periodic := Reachable.periodic deterministic reachable
  obtain ⟨asks, fresh⟩ := Reachable.not_landed reachable member
  have waits : request .airspace plane ∈ state.server.waiting :=
    mem_waiting.mpr (.inl ⟨plane, member, rfl⟩)
  obtain ⟨job, label, requested, duration, served, waited⟩ :=
    (Reachable.serverConsistent reachable).served_next waits positive.le
  have module : job.label.2 = .airspace := by
    rw [label]
    rfl
  refine ⟨job, module, served, ⟨List.nodup_cons.mpr ⟨?_, periodic.labels⟩, ?_, ?_⟩, waited⟩
  · intro landed
    obtain ⟨other, isOther, same⟩ := List.mem_map.mp landed
    exact fresh other isOther (same.trans label)
  · refine List.forall_mem_cons.mpr ⟨fun _ => ⟨duration, ?_⟩, periodic.landing⟩
    rw [requested, label]
    exact arrival_regular deterministic reachable asks
  · refine List.forall_mem_cons.mpr
      ⟨fun takesOff => (nomatch module.symm.trans takesOff), ?_⟩
    intro other isOther takesOff
    obtain ⟨lasts, down, isDown, known⟩ := periodic.takeoff other isOther takesOff
    exact ⟨lasts, down, List.mem_cons_of_mem _ isDown, known⟩

/-- An airplane in the depart queue could take off when the runway is next free. -/
theorem Reachable.next_takeoff (member : plane ∈ state.departQueue) :
    ∃ job : Operation, job.label.2 = .parkingArea ∧
      Served (job :: operations state.trace) ∧
      Periodic config.timetable (job :: operations state.trace) ∧
      state.simTime - plane.queueArrivalTime ≤ job.wait := by
  have periodic := Reachable.periodic deterministic reachable
  obtain ⟨down, stay, parked, landed, asked, fresh⟩ :=
    Reachable.not_takenOff reachable member
  obtain ⟨_, lands, stays⟩ := parking_regular deterministic reachable parked
  have waits : request .parkingArea plane ∈ state.server.waiting :=
    mem_waiting.mpr (.inr ⟨plane, member, rfl⟩)
  have nonneg : 0 ≤ config.timetable.takeoff :=
    config.sim.simtime_nonneg config.par.takeoffTime_nonneg
  obtain ⟨job, label, requested, duration, served, waited⟩ :=
    (Reachable.serverConsistent reachable).served_next waits nonneg
  have module : job.label.2 = .parkingArea := by
    rw [label]
    rfl
  refine ⟨job, module, served, ⟨List.nodup_cons.mpr ⟨?_, periodic.labels⟩, ?_, ?_⟩, waited⟩
  · intro gone
    obtain ⟨other, isOther, same⟩ := List.mem_map.mp gone
    exact fresh other isOther (same.trans label)
  · exact List.forall_mem_cons.mpr
      ⟨fun lands => (nomatch module.symm.trans lands), periodic.landing⟩
  · refine List.forall_mem_cons.mpr ⟨fun _ => ⟨duration, ?_⟩, ?_⟩
    · refine ⟨_, List.mem_cons_of_mem _ landed, by rw [label]; rfl, ?_⟩
      rw [requested, ← stays, ← lands]
      exact asked
    · intro other isOther takesOff
      obtain ⟨lasts, down, isDown, known⟩ := periodic.takeoff other isOther takesOff
      exact ⟨lasts, down, List.mem_cons_of_mem _ isDown, known⟩

/-- The airplanes in the holding queue have arrived one after the other. -/
theorem Reachable.holding_span {rest : List Airplane}
    (holding : state.holdingQueue = plane :: rest)
    (nonneg : 0 ≤ config.timetable.interArrival) :
    rest.length * config.timetable.interArrival ≤
      state.simTime - plane.queueArrivalTime := by
  obtain ⟨least, isLeast, greatest, isGreatest, spread⟩ :=
    exists_spread (Reachable.holdingQueue_nodup reachable) (by simp [holding])
  obtain ⟨first, inFirst, rfl⟩ := List.mem_map.mp isLeast
  obtain ⟨last, inLast, rfl⟩ := List.mem_map.mp isGreatest
  have timely := (Reachable.timely reachable).holding
  have past := timely.past last inLast
  have firstAsks := arrival_regular deterministic reachable
    (Reachable.not_landed reachable inFirst).1
  have lastAsks := arrival_regular deterministic reachable
    (Reachable.not_landed reachable inLast).1
  have ordered : plane.queueArrivalTime ≤ first.queueArrivalTime := by
    rw [holding] at timely inFirst
    exact timely.front_le inFirst
  rw [holding, List.map_cons, List.length_cons, List.length_map] at spread
  have apart : (rest.length : Int) ≤ (last.id + 1) - (first.id + 1) := by omega
  calc rest.length * config.timetable.interArrival
      ≤ ((last.id + 1) - (first.id + 1)) * config.timetable.interArrival :=
        mul_le_mul_of_nonneg_right apart nonneg
    _ = last.queueArrivalTime - first.queueArrivalTime := by rw [lastAsks, firstAsks]; ring
    _ ≤ state.simTime - plane.queueArrivalTime := by omega

/-- At load at most one the length of the holding queue is bounded. -/
theorem Reachable.holding_length_le (stable : config.timetable.Stable) :
    (config.timetable.interArrival - config.timetable.takeoff) *
      state.holdingQueue.length ≤ config.timetable.interArrival := by
  have positive := stable.interArrival_pos
  cases holding : state.holdingQueue with
  | nil => simpa using positive.le
  | cons front rest =>
      obtain ⟨job, module, served, periodic, waited⟩ :=
        Reachable.next_landing deterministic reachable stable.landing
          (holding ▸ List.mem_cons_self)
      have bounded := stable.landing_wait_le periodic served job List.mem_cons_self module
      have span := Reachable.holding_span deterministic reachable holding positive.le
      have slack := stable.slack_pos.le
      have shorter : (config.timetable.interArrival - config.timetable.takeoff) *
          rest.length ≤ config.timetable.takeoff := by
        refine le_of_mul_le_mul_left ?_ positive
        calc config.timetable.interArrival *
              ((config.timetable.interArrival - config.timetable.takeoff) * rest.length)
            = (config.timetable.interArrival - config.timetable.takeoff) *
              (rest.length * config.timetable.interArrival) := by ring
          _ ≤ (config.timetable.interArrival - config.timetable.takeoff) * job.wait :=
            mul_le_mul_of_nonneg_left (span.trans waited) slack
          _ ≤ config.timetable.interArrival * config.timetable.takeoff := bounded
      rw [List.length_cons, Nat.cast_add, Nat.cast_one, mul_add, mul_one]
      omega

/-- If two take-offs fit into one inter-arrival time, an airplane has been holding for at
most the time of a take-off. -/
theorem Reachable.holding_wait_le (tight : config.timetable.Tight)
    (member : plane ∈ state.holdingQueue) :
    state.simTime - plane.queueArrivalTime ≤ config.timetable.takeoff := by
  obtain ⟨job, module, served, periodic, waited⟩ :=
    Reachable.next_landing deterministic reachable tight.landing member
  exact waited.trans (tight.landing_wait_le (periodic.paced tight.toSound) served job
    List.mem_cons_self module)

/-- So there is no time for a second one to arrive. -/
theorem Reachable.holding_le_one (tight : config.timetable.Tight) :
    state.holdingQueue.length ≤ 1 := by
  have positive := tight.interArrival_pos
  cases holding : state.holdingQueue with
  | nil => exact Nat.zero_le 1
  | cons front rest =>
      have waited := Reachable.holding_wait_le deterministic reachable tight
        (holding ▸ List.mem_cons_self)
      have span := Reachable.holding_span deterministic reachable holding positive.le
      have none : (rest.length : Int) < 1 := by
        by_contra some
        have one : 1 * config.timetable.interArrival ≤
            rest.length * config.timetable.interArrival :=
          mul_le_mul_of_nonneg_right (not_lt.mp some) positive.le
        have half := tight.half
        omega
      rw [List.length_cons]
      omega

end Waiting

/-! ## Stability -/

/-- Stability of the deterministic regime.  If the load of the runway is at most one, then
in every run, however long, every sample of the holding queue waiting time is bounded by
the inter-arrival and take-off times, and so is the length of the holding queue. -/
theorem holding_stable (reachable : Reachable config state)
    (deterministic : config.par.Deterministic) (landing : 0 < config.timetable.landing)
    (load : config.timetable.landing + config.timetable.takeoff ≤
      config.timetable.interArrival) :
    (∀ record ∈ state.trace, ∀ wait : Int,
      record.call = .emit .holdingQueueWaitingTime wait →
      (config.timetable.interArrival - config.timetable.takeoff) * wait ≤
        config.timetable.interArrival * config.timetable.takeoff) ∧
      (config.timetable.interArrival - config.timetable.takeoff) *
          state.holdingQueue.length ≤ config.timetable.interArrival := by
  have stable : config.timetable.Stable := ⟨config.timetable_sound landing, load⟩
  constructor
  · intro record member wait sample
    obtain ⟨job, isJob, label, -, rfl⟩ :=
      Reachable.operation_of_sample reachable member .airspace sample
    exact stable.landing_wait_le (Reachable.periodic deterministic reachable)
      (Reachable.serverConsistent reachable).served job isJob (by rw [label])
  · exact Reachable.holding_length_le deterministic reachable stable

/-- A run at load one in which take-offs are longer than half the inter-arrival time. -/
theorem holding_stable_fourth :
    let config := Ini.deterministic 4 1 2 3 5 0
    let state := eventLoop config 14
    (∀ record ∈ state.trace, ∀ wait : Int,
      record.call = .emit .holdingQueueWaitingTime wait →
      (config.timetable.interArrival - config.timetable.takeoff) * wait ≤
        config.timetable.interArrival * config.timetable.takeoff) ∧
      (config.timetable.interArrival - config.timetable.takeoff) *
          state.holdingQueue.length ≤ config.timetable.interArrival :=
  holding_stable (eventLoop_reachable _ 14) ⟨rfl, rfl, rfl, rfl⟩ (by decide) (by decide)

/-! ## The stable grid -/

/-- The only response time sample is taken when an airplane leaves. -/
theorem Reachable.gone_of_response (reachable : Reachable config state)
    (deterministic : config.par.Deterministic) {record : Record}
    (member : record ∈ state.trace) {response : Int}
    (sample : record.call = .emit .airportResponseTime response) :
    ∃ down ∈ operations state.trace, ∃ up ∈ operations state.trace,
      down.label.2 = .airspace ∧ up.label.2 = .parkingArea ∧
      response = down.wait + config.timetable.landing + config.timetable.parking +
        up.wait + config.timetable.takeoff := by
  obtain ⟨stage, regular, known, jobs⟩ :=
    Reachable.regular deterministic reachable record.plane
  have own : record ∈ stage.history record.plane := by
    rw [mem_stage_history known]
    exact ⟨member, rfl, by simp [Record.personal, sample]⟩
  have taken : ∀ job ∈ stage.jobs record.plane, job ∈ operations state.trace := by
    intro job mine
    rw [← jobs] at mine
    exact (List.mem_filter.mp mine).1
  obtain ⟨time, origin, plane, call⟩ := record
  simp only at sample own
  subst sample
  cases stage with
  | gone down stay up =>
      obtain ⟨-, lands, parks, asks, lasts⟩ := regular
      have sampled : time = up.finish ∧ origin = .airspace ∧
          response = up.finish - down.request := by
        simpa [Stage.history, Stage.parkedCalls, Leg.calls, SimpleModule.waitingTime]
          using own
      refine ⟨down.job .airspace plane, taken _ (by simp [Stage.jobs]),
        up.job .parkingArea plane, taken _ (by simp [Stage.jobs]), rfl, rfl, ?_⟩
      rw [sampled.2.2, Leg.job_wait, Leg.job_wait, Leg.finish, Leg.start, asks, lasts,
        parks, Leg.finish, Leg.start, lands]
      ring
  | _ =>
      simp [Stage.history, Stage.parkedCalls, Leg.calls, SimpleModule.waitingTime] at own

/-- Waits on the stable grid.  If moreover two take-offs fit into one inter-arrival time,
then in every run no landing waits longer than a take-off, no take-off waits longer than a
landing or a take-off, at most one airplane holds, and every response time is that of an
undisturbed airplane plus at most these waits. -/
theorem waits_tight (reachable : Reachable config state)
    (deterministic : config.par.Deterministic) (landing : 0 < config.timetable.landing)
    (load : config.timetable.landing + config.timetable.takeoff ≤
      config.timetable.interArrival)
    (half : 2 * config.timetable.takeoff ≤ config.timetable.interArrival) :
    (∀ record ∈ state.trace, ∀ wait : Int,
      record.call = .emit .holdingQueueWaitingTime wait →
        wait ≤ config.timetable.takeoff) ∧
      (∀ plane ∈ state.holdingQueue,
        state.simTime - plane.queueArrivalTime ≤ config.timetable.takeoff) ∧
      (∀ record ∈ state.trace, ∀ wait : Int,
        record.call = .emit .departQueueWaitingTime wait →
          wait ≤ max config.timetable.landing config.timetable.takeoff) ∧
      (∀ plane ∈ state.departQueue,
        state.simTime - plane.queueArrivalTime ≤
          max config.timetable.landing config.timetable.takeoff) ∧
      state.holdingQueue.length ≤ 1 ∧
      ∀ record ∈ state.trace, ∀ response : Int,
        record.call = .emit .airportResponseTime response →
        config.timetable.landing + config.timetable.parking + config.timetable.takeoff ≤
            response ∧
          response ≤ config.timetable.landing + config.timetable.parking +
            2 * config.timetable.takeoff +
            max config.timetable.landing config.timetable.takeoff := by
  have tight : config.timetable.Tight := ⟨⟨config.timetable_sound landing, load⟩, half⟩
  have paced := (Reachable.periodic deterministic reachable).paced tight.toSound
  have served := (Reachable.serverConsistent reachable).served
  refine ⟨?_, ?_, ?_, ?_, ?_, ?_⟩
  · intro record member wait sample
    obtain ⟨job, isJob, label, -, rfl⟩ :=
      Reachable.operation_of_sample reachable member .airspace sample
    exact tight.landing_wait_le paced served job isJob (by rw [label])
  · intro plane member
    exact Reachable.holding_wait_le deterministic reachable tight member
  · intro record member wait sample
    obtain ⟨job, isJob, label, -, rfl⟩ :=
      Reachable.operation_of_sample reachable member .parkingArea sample
    exact tight.takeoff_wait_le paced served job isJob (by rw [label])
  · intro plane member
    obtain ⟨job, module, nextServed, nextPeriodic, waited⟩ :=
      Reachable.next_takeoff deterministic reachable member
    exact waited.trans (tight.takeoff_wait_le (nextPeriodic.paced tight.toSound) nextServed job
      List.mem_cons_self module)
  · exact Reachable.holding_le_one deterministic reachable tight
  · intro record member response sample
    obtain ⟨down, isDown, up, isUp, lands, takesOff, rfl⟩ :=
      Reachable.gone_of_response reachable deterministic member sample
    have holdingWait := tight.landing_wait_le paced served down isDown lands
    have departWait := tight.takeoff_wait_le paced served up isUp takesOff
    have holdingNonneg := waits_nonneg served down isDown
    have departNonneg := waits_nonneg served up isUp
    constructor
    · linarith
    · linarith

/-- A point of the stable grid, with landings as long as take-offs. -/
theorem waits_tight_fourth :
    let config := Ini.deterministic 4 2 3 2 5 0
    let state := eventLoop config 14
    (∀ record ∈ state.trace, ∀ wait : Int,
      record.call = .emit .holdingQueueWaitingTime wait →
        wait ≤ config.timetable.takeoff) ∧
      (∀ plane ∈ state.holdingQueue,
        state.simTime - plane.queueArrivalTime ≤ config.timetable.takeoff) ∧
      (∀ record ∈ state.trace, ∀ wait : Int,
        record.call = .emit .departQueueWaitingTime wait →
          wait ≤ max config.timetable.landing config.timetable.takeoff) ∧
      (∀ plane ∈ state.departQueue,
        state.simTime - plane.queueArrivalTime ≤
          max config.timetable.landing config.timetable.takeoff) ∧
      state.holdingQueue.length ≤ 1 ∧
      ∀ record ∈ state.trace, ∀ response : Int,
        record.call = .emit .airportResponseTime response →
        config.timetable.landing + config.timetable.parking + config.timetable.takeoff ≤
            response ∧
          response ≤ config.timetable.landing + config.timetable.parking +
            2 * config.timetable.takeoff +
            max config.timetable.landing config.timetable.takeoff :=
  waits_tight (eventLoop_reachable _ 14) ⟨rfl, rfl, rfl, rfl⟩ (by decide) (by decide)
    (by decide)

end AirTrafficControl
