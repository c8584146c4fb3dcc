import AirTrafficControl.Library.ServiceTime
import AirTrafficControl.Library.StepFunction
import AirTrafficControl.Queue.Refinement

/-!
# The record of a run

The handling of an event adds to the trace, and to the assignments of
`landingStripOccupied`, what happens at that moment and nothing else.  So the strip has
been occupied exactly while one of the runway operations was in progress.
-/

namespace AirTrafficControl

open FifoServer StepFunction

variable {config : Config} {state next : Network}

/-- The flag holds from the latest assignment on. -/
def Network.Flagged (state : Network) : Prop :=
  ∀ instant, state.simTime ≤ instant →
    valueAt false state.occupancy instant = state.landingStripOccupied

/-- What the handling of an event adds to the record of the run happens now. -/
structure Network.Logs (state next : Network) : Prop where
  clock : next.simTime = state.simTime
  warmup : next.warmupPeriod = state.warmupPeriod
  calls : ∃ calls, next.trace = calls ++ state.trace ∧
    ∀ record ∈ calls, record.time = state.simTime
  past : ∀ instant < state.simTime,
    valueAt false next.occupancy instant = valueAt false state.occupancy instant
  flagged : state.Flagged → next.Flagged

namespace Network.Logs

/-- Calls made without an assignment to the flag. -/
private theorem unchanged (calls : List Record) (trace : next.trace = calls ++ state.trace)
    (now : calls.map Record.time = calls.map fun _ => state.simTime)
    (clock : next.simTime = state.simTime)
    (warmup : next.warmupPeriod = state.warmupPeriod)
    (occupancy : next.occupancy = state.occupancy)
    (flag : next.landingStripOccupied = state.landingStripOccupied) : state.Logs next := by
  refine ⟨clock, warmup, ⟨calls, trace, List.map_inj_left.mp now⟩, ?_, ?_⟩
  · intro instant _
    rw [occupancy]
  · intro flagged instant later
    rw [occupancy, flag]
    exact flagged instant (clock ▸ later)

/-- Calls made together with an assignment to the flag. -/
private theorem assigned (calls : List Record) (trace : next.trace = calls ++ state.trace)
    (now : calls.map Record.time = calls.map fun _ => state.simTime)
    (clock : next.simTime = state.simTime)
    (warmup : next.warmupPeriod = state.warmupPeriod)
    (occupancy : next.occupancy =
      (state.simTime, next.landingStripOccupied) :: state.occupancy) :
    state.Logs next := by
  refine ⟨clock, warmup, ⟨calls, trace, List.map_inj_left.mp now⟩, ?_, ?_⟩
  · intro instant before
    rw [occupancy]
    exact valueAt_cons_of_lt before
  · intro _ instant later
    rw [occupancy]
    exact valueAt_cons_of_le (clock ▸ later)

theorem trans {last : Network} (first : state.Logs next) (second : next.Logs last) :
    state.Logs last := by
  obtain ⟨calls, trace, now⟩ := first.calls
  obtain ⟨more, furtherTrace, later⟩ := second.calls
  refine ⟨second.clock.trans first.clock, second.warmup.trans first.warmup,
    ⟨more ++ calls, ?_, ?_⟩, ?_, fun flagged => second.flagged (first.flagged flagged)⟩
  · rw [furtherTrace, trace, List.append_assoc]
  · intro record member
    rcases List.mem_append.mp member with new | old
    · exact (later record new).trans first.clock
    · exact now record old
  · intro instant before
    rw [second.past instant (first.clock ▸ before), first.past instant before]

theorem completed (completed : Completed config state next) : state.Logs next := by
  cases completed with
  | idle => exact assigned [] rfl rfl rfl rfl rfl
  | land => exact unchanged [_, _, _, _] rfl rfl rfl rfl rfl rfl
  | takeOff => exact unchanged [_, _, _, _] rfl rfl rfl rfl rfl rfl

theorem transition {event : Event} (transition : Transition config state event next) :
    state.Logs next := by
  cases transition with
  | landNow => exact assigned [_, _, _, _, _, _] rfl rfl rfl rfl rfl
  | hold => exact unchanged [_, _, _] rfl rfl rfl rfl rfl rfl
  | takeOffNow => exact assigned [_, _, _, _, _, _] rfl rfl rfl rfl rfl
  | queue => exact unchanged [_, _, _] rfl rfl rfl rfl rfl rfl
  | landed _ handled =>
      have parked : state.Logs (state.park config event.airplane) :=
        unchanged [_, _] rfl rfl rfl rfl rfl rfl
      exact parked.trans (completed handled)
  | left _ _ handled =>
      have departed : state.Logs (state.depart event.airplane) :=
        unchanged [_, _] rfl rfl rfl rfl rfl rfl
      exact departed.trans (completed handled)
  | finished => exact unchanged [_, _, _, _] rfl rfl rfl rfl rfl rfl

end Network.Logs

/-- `scaling * warmup`, as `setWarmupPeriod` gets it. -/
def Config.warmupPeriod (config : Config) : Int :=
  config.sim.simtime (config.par.scaling * config.par.warmup)

/-- A second has a thousand ticks. -/
theorem warmupPeriod_deterministic
    (interArrivalTime landingTime parkingTime takeoffTime : Nat) (totalSamples : Int)
    (warmup : Nat) :
    (Ini.deterministic interArrivalTime landingTime parkingTime takeoffTime totalSamples
      warmup).warmupPeriod = 1000 * warmup := by
  have seconds : (1 : ℚ) * warmup = warmup := one_mul _
  show Ini.simtime (1 * warmup) = 1000 * warmup
  rw [seconds, Ini.simtime, Rat.num_natCast, Rat.den_natCast]
  omega

/-- The warm-up period is set once and for all. -/
theorem Reachable.warmupPeriod (reachable : Reachable config state) :
    state.warmupPeriod = config.warmupPeriod := by
  refine Reachable.invariant (·.warmupPeriod = config.warmupPeriod) rfl ?_ reachable
  intro source event target _ _ _ same transition
  exact (Network.Logs.transition transition).warmup.trans same

/-- Nothing has been recorded for the future. -/
theorem Reachable.past (reachable : Reachable config state) :
    ∀ record ∈ state.trace, record.time ≤ state.simTime := by
  refine Reachable.invariant
    (fun state => ∀ record ∈ state.trace, record.time ≤ state.simTime) ?_ ?_ reachable
  · intro record member
    rw [List.mem_singleton.mp member]
    exact le_rfl
  · intro source event target reached _ isNext past transition record member
    have logs := Network.Logs.transition transition
    obtain ⟨calls, trace, now⟩ := logs.calls
    have later : source.simTime ≤ event.time :=
      (Reachable.timely reached).pending event isNext.1
    rw [logs.clock]
    rw [trace] at member
    rcases List.mem_append.mp member with new | old
    · exact (now record new).le
    · exact (past record old).trans later

/-! ## The occupied runway -/

/-- The operations of new calls start with them. -/
theorem operations_append (calls trace : List Record) :
    ∃ started, operations (calls ++ trace) = started ++ operations trace ∧
      ∀ job ∈ started, ∃ record ∈ calls, record.time = job.start := by
  induction calls with
  | nil => exact ⟨[], rfl, by simp⟩
  | cons record calls ih =>
      obtain ⟨started, split, timed⟩ := ih
      have older : ∀ job ∈ started, ∃ other ∈ record :: calls, other.time = job.start := by
        intro job member
        obtain ⟨other, called, time⟩ := timed job member
        exact ⟨other, List.mem_cons_of_mem _ called, time⟩
      obtain ⟨time, module, plane, call⟩ := record
      cases call with
      | sendDelayed delay =>
          refine ⟨⟨(plane, module), requestTime module plane (calls ++ trace), time, delay⟩
            :: started, ?_, List.forall_mem_cons.mpr ⟨?_, older⟩⟩
          · rw [List.cons_append, operations_sendDelayed, split, List.cons_append]
          · exact ⟨_, List.mem_cons_self, rfl⟩
      | _ => exact ⟨started, split, older⟩

theorem Reachable.start_le (reachable : Reachable config state) :
    ∀ job ∈ operations state.trace, job.start ≤ state.simTime := by
  intro job member
  obtain ⟨started, split, timed⟩ := operations_append state.trace []
  rw [List.append_nil, operations_nil, List.append_nil] at split
  obtain ⟨record, called, time⟩ := timed job (split ▸ member)
  exact time ▸ Reachable.past reachable record called

/-- Only the latest operation can be in progress. -/
theorem Reachable.finish_le (reachable : Reachable config state) {last : Operation}
    {older : List Operation} (jobs : operations state.trace = last :: older) :
    ∀ job ∈ older, job.finish ≤ last.start := by
  have apart := (Reachable.serverConsistent reachable).served.pairwise
  have split : state.server.jobs = last :: older := jobs
  rw [split] at apart
  exact (List.pairwise_cons.mp apart).1

theorem Reachable.flagged (reachable : Reachable config state) : state.Flagged := by
  refine Reachable.invariant Network.Flagged (fun _ _ => rfl) ?_ reachable
  intro source event target reached _ isNext flagged transition
  apply (Network.Logs.transition transition).flagged
  intro instant later
  exact flagged instant (((Reachable.timely reached).pending event isNext.1).trans later)

/-- Until the next event the strip is occupied exactly while the latest operation is in
progress. -/
private theorem occupied_until (reachable : Reachable config state)
    (running : state.ended = false) {event : Event} (isNext : state.Next event)
    {instant : Int} (since : state.simTime ≤ instant) (before : instant < event.time) :
    state.landingStripOccupied = true ↔
      ∃ job ∈ operations state.trace, job.Covers instant := by
  have consistent := Reachable.serverConsistent reachable
  cases jobs : operations state.trace with
  | nil =>
      have none : ¬state.landingStripOccupied = true := fun busy =>
        consistent.started busy jobs
      simp [none]
  | cons last older =>
      have isLast : last ∈ (operations state.trace).head? := by simp [jobs]
      have started := Reachable.start_le reachable last (by simp [jobs])
      constructor
      · intro busy
        have unfinished :=
          Reachable.next_le_finish reachable running isNext busy last isLast
        exact ⟨last, List.mem_cons_self, started.trans since, before.trans_le unfinished⟩
      · rintro ⟨job, member, _, unfinished⟩
        by_contra free
        have done := consistent.done (Bool.eq_false_iff.mpr free) last isLast
        rcases List.mem_cons.mp member with rfl | member
        · exact absurd (unfinished.trans_le done) (not_lt.mpr since)
        · have earlier := Reachable.finish_le reachable jobs job member
          exact absurd (unfinished.trans_le (earlier.trans started)) (not_lt.mpr since)

/-- In every run the strip was occupied exactly while an operation was in progress. -/
theorem Reachable.occupied_iff (reachable : Reachable config state) :
    ∀ instant < state.simTime, valueAt false state.occupancy instant = true ↔
      ∃ job ∈ operations state.trace, job.Covers instant := by
  refine Reachable.invariant (fun state => ∀ instant < state.simTime,
    valueAt false state.occupancy instant = true ↔
      ∃ job ∈ operations state.trace, job.Covers instant) ?_ ?_ reachable
  · intro instant _
    simp [initialState, ControlTower.init, ParkingArea.init, Airspace.init,
      Airspace.scheduleNext_eq, Network.blank]
  · intro source event target reached running isNext known transition instant before
    have logs := Network.Logs.transition transition
    rw [logs.clock] at before
    obtain ⟨calls, trace, now⟩ := logs.calls
    obtain ⟨started, split, timed⟩ := operations_append calls (source.take event).trace
    have future : ∀ job ∈ started, ¬job.Covers instant := by
      rintro job member ⟨start, _⟩
      obtain ⟨record, called, time⟩ := timed job member
      rw [← time, now record called] at start
      exact absurd before (not_lt.mpr start)
    have same : (∃ job ∈ operations target.trace, job.Covers instant) ↔
        ∃ job ∈ operations source.trace, job.Covers instant := by
      rw [trace, split]
      constructor
      · rintro ⟨job, member, covers⟩
        rcases List.mem_append.mp member with new | old
        · exact absurd covers (future job new)
        · exact ⟨job, old, covers⟩
      · rintro ⟨job, member, covers⟩
        exact ⟨job, List.mem_append_right _ member, covers⟩
    rw [logs.past instant before, same]
    rcases lt_or_ge instant source.simTime with earlier | since
    · exact known instant earlier
    · have flag := Reachable.flagged reached instant since
      change valueAt false source.occupancy instant = true ↔ _
      rw [flag]
      exact occupied_until reached running isNext since before

/-- The time the strip was occupied is the time spent on the operations. -/
theorem Reachable.timeOn_occupancy (reachable : Reachable config state) {start stop : Int}
    (ordered : start ≤ stop) (past : stop ≤ state.simTime) :
    (timeOn state.occupancy start stop : Int) =
      ((operations state.trace).map fun job => job.overlap start stop).sum := by
  have served : Served (operations state.trace) :=
    (Reachable.serverConsistent reachable).served
  obtain ⟨length, rfl⟩ := Int.le.dest ordered
  rw [← served.card_busy start length, timeOn, add_sub_cancel_left, Int.toNat_natCast,
    Nat.count_eq_card_filter_range]
  congr 2
  apply Finset.filter_congr
  intro offset inside
  apply Reachable.occupied_iff reachable (start + offset)
  have := Finset.mem_range.mp inside
  omega

end AirTrafficControl
