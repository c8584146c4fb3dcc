import AirTrafficControl.Statistics.Samples
import Mathlib.Tactic.FieldSimp
import Mathlib.Tactic.Ring

/-!
# The recorded utilization of the runway

`Runwayutilization` divides the runway time emitted after the warm-up period by the total
simulation time, which counts from zero.  Without a warm-up period this is the fraction of the
run in which the strip is occupied.  With one it falls short of the fraction of the measured
interval, by how much depends on the length of the warm-up period.
-/

namespace AirTrafficControl

open FifoServer StepFunction

variable {config : Config} {state : Network}

/-- The statistic `sum(RunwayUse)/TotalSimtime` with `record=last`: its value when
`TotalSimtime` is emitted. -/
def Network.runwayutilization (state : Network) : Option ℚ :=
  (state.collected .totalSimtime).head?.map fun total =>
    (((state.collected .runwayUse).map Prod.snd).sum : ℚ) / total.2

/-- The fraction of an interval in which the strip was occupied. -/
def Network.occupied (state : Network) (start stop : Int) : ℚ :=
  timeOn state.occupancy start stop / (stop - start)

/-- The runway time of the operations that start at an instant or later. -/
def Network.useSince (state : Network) (instant : Int) : Int :=
  workSince (operations state.trace) instant

/-- The duration of the operation in progress at an instant, zero if there is none. -/
def Network.inProgress (state : Network) (instant : Int) : Int :=
  (inService (operations state.trace) instant).elim 0 Job.duration

/-- How much of the operation in progress lies before an instant.  An operation that
starts just then counts in full. -/
def Network.elapsed (state : Network) (instant : Int) : Int :=
  (inService (operations state.trace) instant).elim 0 fun job => job.elapsed instant

theorem Network.elapsed_nonneg (state : Network) (instant : Int) :
    0 ≤ state.elapsed instant := by
  unfold Network.elapsed
  cases found : inService (operations state.trace) instant with
  | none => exact le_rfl
  | some job => exact Job.elapsed_nonneg (covers_of_inService found)

theorem remaining_operations (instant : Int) :
    remaining (operations state.trace) instant =
      state.inProgress instant - state.elapsed instant := by
  unfold remaining Network.inProgress Network.elapsed
  cases inService (operations state.trace) instant <;> rfl

theorem Reachable.elapsed_le (reachable : Reachable config state) (instant : Int) :
    state.elapsed instant ≤ state.inProgress instant := by
  have served : Served (operations state.trace) :=
    (Reachable.serverConsistent reachable).served
  have nonneg := served.remaining_nonneg instant
  rwa [remaining_operations, sub_nonneg] at nonneg

/-- The runway time emitted after the warm-up period. -/
theorem Reachable.collected_runwayUse (reachable : Reachable config state) :
    ((state.collected .runwayUse).map Prod.snd).sum =
      state.useSince config.warmupPeriod := by
  rw [Network.collected, (Reachable.sampled reachable).use,
    Reachable.warmupPeriod reachable, Network.useSince, workSince, List.filter_map,
    List.map_map]
  rfl

/-- All operations are over when the simulation ends. -/
theorem Reachable.operations_over (reachable : Reachable config state)
    (ended : state.ended = true) :
    ∀ job ∈ operations state.trace, job.finish ≤ state.simTime := by
  intro job member
  have finished := ((Reachable.concluded reachable).1 ended).finished
  cases jobs : operations state.trace with
  | nil => simp [jobs] at member
  | cons last older =>
      rw [jobs] at member finished
      rcases List.mem_cons.mp member with rfl | member
      · exact (finished _ rfl).le
      · have earlier := Reachable.finish_le reachable jobs job member
        exact earlier.trans (Reachable.start_le reachable last (by simp [jobs]))

/-- The value recorded at the end of a run that outlasts the warm-up period. -/
theorem Reachable.runwayutilization (reachable : Reachable config state)
    (ended : state.ended = true) (before : config.warmupPeriod < state.simTime) :
    state.runwayutilization =
      some ((state.useSince config.warmupPeriod : ℚ) / state.simTime) := by
  have total := ((Reachable.concluded reachable).1 ended).totalSimtime
  have kept : state.collected .totalSimtime = [(state.simTime, state.simTime)] := by
    rw [Network.collected, total, Reachable.warmupPeriod reachable]
    simpa using before.le
  rw [Network.runwayutilization, kept, ← Reachable.collected_runwayUse reachable]
  rfl

/-- The fraction of the measured interval in which the strip is occupied. -/
theorem Reachable.occupied (reachable : Reachable config state)
    (ended : state.ended = true) {instant : Int} (past : instant ≤ state.simTime) :
    state.occupied instant state.simTime =
      (state.useSince instant + state.inProgress instant - state.elapsed instant) /
        (state.simTime - instant) := by
  have served : Served (operations state.trace) :=
    (Reachable.serverConsistent reachable).served
  have time := Reachable.timeOn_occupancy reachable past le_rfl
  rw [served.sum_overlap (Reachable.operations_over reachable ended),
    remaining_operations] at time
  rw [Network.occupied, ← Int.cast_natCast, time, Network.useSince]
  push_cast
  ring

/-- A quotient over the whole run against one over the measured interval. -/
private theorem abs_sub_le_iff {work duration elapsed warmup total : ℚ}
    (nonneg : 0 ≤ warmup) (before : warmup < total) (positive : 0 ≤ work)
    (partly : elapsed ≤ duration) :
    |work / total - (work + duration - elapsed) / (total - warmup)| ≤
        duration / (total - warmup) ↔
      warmup * work ≤ total * elapsed := by
  have measured : 0 < total - warmup := sub_pos.mpr before
  have lasts : 0 < total := nonneg.trans_lt before
  have below : work / total ≤ (work + duration - elapsed) / (total - warmup) :=
    div_le_div₀ (by linarith) (by linarith) measured (by linarith)
  rw [abs_of_nonpos (sub_nonpos.mpr below), neg_sub, sub_le_iff_le_add,
    ← sub_le_iff_le_add', ← sub_div, div_le_div_iff₀ measured lasts]
  constructor <;> intro bound <;> linarith

/-- The recorded utilization is off by at most the length of the operation in progress at
the end of the warm-up period, in proportion to the measured interval, exactly when the
runway time emitted later, weighted with the warm-up period, is at most the part of that
operation before the end of the warm-up period, weighted with the whole simulation time. -/
theorem Reachable.runwayutilization_accurate_iff (reachable : Reachable config state)
    (ended : state.ended = true) (nonneg : 0 ≤ config.warmupPeriod)
    (before : config.warmupPeriod < state.simTime) :
    ∃ recorded, state.runwayutilization = some recorded ∧
      (|recorded - state.occupied config.warmupPeriod state.simTime| ≤
          state.inProgress config.warmupPeriod / (state.simTime - config.warmupPeriod) ↔
        config.warmupPeriod * state.useSince config.warmupPeriod ≤
          state.simTime * state.elapsed config.warmupPeriod) := by
  have served : Served (operations state.trace) :=
    (Reachable.serverConsistent reachable).served
  have partly := Reachable.elapsed_le reachable config.warmupPeriod
  refine ⟨_, Reachable.runwayutilization reachable ended before, ?_⟩
  rw [Reachable.occupied reachable ended before.le,
    abs_sub_le_iff (by exact_mod_cast nonneg) (by exact_mod_cast before)
      (by exact_mod_cast served.workSince_nonneg _) (by exact_mod_cast partly)]
  norm_cast

/-- The warm-up period ends while the only airplane takes off, so no later operation is lost. -/
example :
    let config := Ini.deterministic 3600 900 3600 900 1 8500
    let state := eventLoop config 6
    state.ended = true ∧ ∃ recorded, state.runwayutilization = some recorded ∧
      |recorded - state.occupied config.warmupPeriod state.simTime| ≤
        state.inProgress config.warmupPeriod / (state.simTime - config.warmupPeriod) := by
  intro config state
  have ended : state.ended = true := by decide
  have warmup : config.warmupPeriod = 8500000 := warmupPeriod_deterministic _ _ _ _ _ _
  have before : config.warmupPeriod < state.simTime := warmup ▸ by decide
  obtain ⟨recorded, isRecorded, accurate⟩ := Reachable.runwayutilization_accurate_iff
    (eventLoop_reachable config 6) ended (warmup ▸ by decide) before
  exact ⟨ended, recorded, isRecorded, accurate.mpr (warmup ▸ by decide)⟩

/-- Without a warm-up period the recorded utilization is accurate.  With one it never is when the
warm-up period ends while the runway is free and some later operation takes time. -/
theorem runwayutilization_accurate (reachable : Reachable config state)
    (ended : state.ended = true) (nonneg : 0 ≤ config.warmupPeriod)
    (before : config.warmupPeriod < state.simTime) :
    ∃ recorded, state.runwayutilization = some recorded ∧
      (config.warmupPeriod = 0 →
        |recorded - state.occupied config.warmupPeriod state.simTime| ≤
          state.inProgress config.warmupPeriod / (state.simTime - config.warmupPeriod)) ∧
      (0 < config.warmupPeriod → state.inProgress config.warmupPeriod = 0 →
        0 < state.useSince config.warmupPeriod →
        ¬|recorded - state.occupied config.warmupPeriod state.simTime| ≤
          state.inProgress config.warmupPeriod / (state.simTime - config.warmupPeriod)) := by
  obtain ⟨recorded, isRecorded, accurate⟩ :=
    Reachable.runwayutilization_accurate_iff reachable ended nonneg before
  refine ⟨recorded, isRecorded, ?_, ?_⟩
  · intro none
    have elapsed := state.elapsed_nonneg config.warmupPeriod
    rw [none] at elapsed
    rw [accurate, none, zero_mul]
    exact mul_nonneg (none ▸ before).le elapsed
  · intro positive free later
    have partly := Reachable.elapsed_le reachable config.warmupPeriod
    rw [accurate, not_le]
    calc state.simTime * state.elapsed config.warmupPeriod
        ≤ 0 := mul_nonpos_of_nonneg_of_nonpos (nonneg.trans before.le) (partly.trans free.le)
      _ < config.warmupPeriod * state.useSince config.warmupPeriod := mul_pos positive later

/-- One of the stable deterministic runs, with four airplanes, without a warm-up period and with
one at whose end the runway is free. -/
theorem runwayutilization_accurate_stable :
    (let config := Ini.deterministic 3600 900 3600 900 4 0
      let state := eventLoop config 18
      ∃ recorded, state.runwayutilization = some recorded ∧
        |recorded - state.occupied config.warmupPeriod state.simTime| ≤
          state.inProgress config.warmupPeriod / (state.simTime - config.warmupPeriod)) ∧
    (let config := Ini.deterministic 3600 900 3600 900 4 9000
      let state := eventLoop config 18
      ∃ recorded, state.runwayutilization = some recorded ∧
        ¬|recorded - state.occupied config.warmupPeriod state.simTime| ≤
          state.inProgress config.warmupPeriod / (state.simTime - config.warmupPeriod)) := by
  constructor
  · have warmup := warmupPeriod_deterministic 3600 900 3600 900 4 0
    obtain ⟨recorded, isRecorded, accurate, -⟩ := runwayutilization_accurate
      (eventLoop_reachable (Ini.deterministic 3600 900 3600 900 4 0) 18) (by decide)
      (warmup ▸ by decide) (warmup ▸ by decide)
    exact ⟨recorded, isRecorded, accurate warmup⟩
  · have warmup := warmupPeriod_deterministic 3600 900 3600 900 4 9000
    obtain ⟨recorded, isRecorded, -, inaccurate⟩ := runwayutilization_accurate
      (eventLoop_reachable (Ini.deterministic 3600 900 3600 900 4 9000) 18) (by decide)
      (warmup ▸ by decide) (warmup ▸ by decide)
    exact ⟨recorded, isRecorded,
      inaccurate (warmup ▸ by decide) (warmup ▸ by decide) (warmup ▸ by decide)⟩

/-- With the warm-up period the run records three elevenths, and the strip is occupied for half
of the measured interval. -/
theorem runwayutilization_inaccurate :
    let config := Ini.deterministic 3600 900 3600 900 4 9000
    let state := eventLoop config 18
    Reachable config state ∧ state.ended = true ∧ 0 ≤ config.warmupPeriod ∧
      config.warmupPeriod < state.simTime ∧
      ∃ recorded, state.runwayutilization = some recorded ∧
        ¬|recorded - state.occupied config.warmupPeriod state.simTime| ≤
          state.inProgress config.warmupPeriod / (state.simTime - config.warmupPeriod) := by
  intro config state
  have reachable : Reachable config state := eventLoop_reachable config 18
  have ended : state.ended = true := by decide
  have warmup : config.warmupPeriod = 9000000 := warmupPeriod_deterministic _ _ _ _ _ _
  have total : state.simTime = 19800000 := by decide
  have use : state.useSince 9000000 = 5400000 := by decide
  have none : state.inProgress 9000000 = 0 ∧ state.elapsed 9000000 = 0 := by decide
  have before : config.warmupPeriod < state.simTime := by
    rw [warmup, total]
    decide
  refine ⟨reachable, ended, warmup ▸ by decide, before, _,
    Reachable.runwayutilization reachable ended before, ?_⟩
  rw [Reachable.occupied reachable ended before.le, warmup, total, use, none.1, none.2]
  norm_num [abs_of_neg]

end AirTrafficControl
