import AirTrafficControl.Statistics.Utilization
import Mathlib.Algebra.Order.Field.Basic

/-!
# Runway time

`RunwayUse` is emitted for a whole operation when it starts.  The operations do not
overlap and none is in progress when the simulation ends, so what has been emitted is the
time for which the strip has been occupied, together with what remains of the operation in
progress.
-/

namespace AirTrafficControl

open FifoServer StepFunction

variable {config : Config} {state : Network}

/-- The sum of the values emitted on `RunwayUse`. -/
def Network.runwayUse (state : Network) : Int :=
  ((state.samples .runwayUse).map Prod.snd).sum

/-- A landing or a take-off. -/
def Event.OnRunway (event : Event) : Prop :=
  event.kind = .landing ∨ event.kind = .takeoff

instance (event : Event) : Decidable event.OnRunway :=
  inferInstanceAs (Decidable (_ ∨ _))

/-- The time until the operation in progress is over, zero if there is none. -/
def Network.remainingUse (state : Network) : Int :=
  (state.futureEvents.find? fun event => event.OnRunway).elim 0 fun event =>
    event.time - state.simTime

/-- Nothing has been recorded before the start of the simulation. -/
theorem Reachable.record_nonneg (reachable : Reachable config state) :
    ∀ record ∈ state.trace, 0 ≤ record.time := by
  refine Reachable.invariant
    (fun state => ∀ record ∈ state.trace, 0 ≤ record.time) ?_ ?_ reachable
  · intro record member
    rw [List.mem_singleton.mp member]
    exact le_rfl
  · intro source event target reached _ isNext nonneg transition record member
    obtain ⟨calls, trace, now⟩ := (Network.Logs.transition transition).calls
    rw [trace] at member
    rcases List.mem_append.mp member with new | old
    · rw [now record new]
      exact ((Reachable.timely reached).take isNext).now_nonneg
    · exact nonneg record old

theorem Reachable.start_nonneg (reachable : Reachable config state) :
    ∀ job ∈ operations state.trace, 0 ≤ job.start := by
  intro job member
  obtain ⟨started, split, timed⟩ := operations_append state.trace []
  rw [List.append_nil, operations_nil, List.append_nil] at split
  obtain ⟨record, called, time⟩ := timed job (split ▸ member)
  exact time ▸ Reachable.record_nonneg reachable record called

/-- Without a message on the runway the latest operation is over. -/
theorem Reachable.last_over (reachable : Reachable config state)
    (none : state.runwayMessages = 0) :
    ∀ last ∈ (operations state.trace).head?, last.finish ≤ state.simTime := by
  cases ended : state.ended with
  | true =>
      intro last isLast
      exact (((Reachable.concluded reachable).1 ended).finished last isLast).le
  | false =>
      have free : state.landingStripOccupied = false := by
        have pending := (Reachable.runwayConsistent reachable ended).pending
        rw [none] at pending
        cases occupied : state.landingStripOccupied with
        | false => rfl
        | true =>
            rw [occupied, if_pos rfl] at pending
            cases pending
      exact (Reachable.serverConsistent reachable).done free

/-- What remains of the latest operation remains until its message is handled. -/
theorem Reachable.remainingUse_eq (reachable : Reachable config state) :
    state.remainingUse = (operations state.trace).head?.elim 0 fun last =>
      max 0 (last.finish - state.simTime) := by
  unfold Network.remainingUse
  cases found : state.futureEvents.find? fun event => event.OnRunway with
  | some event =>
      have member := List.mem_of_find?_eq_some found
      have runway := List.find?_some found
      rw [decide_eq_true_eq] at runway
      obtain ⟨last, isLast, time⟩ := Reachable.due reachable event member runway
      have future := (Reachable.timely reachable).pending event member
      rw [Option.mem_def.mp isLast, Option.elim_some, Option.elim_some, ← time,
        max_eq_right (sub_nonneg.mpr future)]
  | none =>
      have absent := List.find?_eq_none.mp found
      have clear : state.runwayMessages = 0 := by
        unfold Network.runwayMessages Network.pending
        rw [List.countP_eq_zero.mpr, List.countP_eq_zero.mpr]
        · intro event member kind
          exact absent event member (decide_eq_true (.inr (of_decide_eq_true kind)))
        · intro event member kind
          exact absent event member (decide_eq_true (.inl (of_decide_eq_true kind)))
      cases latest : (operations state.trace).head? with
      | none => rfl
      | some last =>
          have finished := Reachable.last_over reachable clear last latest
          rw [Option.elim_none, Option.elim_some, max_eq_left (sub_nonpos.mpr finished)]

/-- The runway time emitted so far is that of the operations. -/
theorem Reachable.runwayUse_eq_sum (reachable : Reachable config state) :
    state.runwayUse = ((operations state.trace).map Job.duration).sum := by
  rw [Network.runwayUse, (Reachable.sampled reachable).use, List.map_map]
  rfl

/-- In every reachable state the runway time emitted so far is the time for which the strip
has been occupied and what remains of the operation in progress. -/
theorem Reachable.runwayUse_eq (reachable : Reachable config state) :
    state.runwayUse =
      timeOn state.occupancy 0 state.simTime + state.remainingUse := by
  have served : Served (operations state.trace) :=
    (Reachable.serverConsistent reachable).served
  have nonneg := (Reachable.timely reachable).now_nonneg
  rw [Reachable.runwayUse_eq_sum reachable, Reachable.timeOn_occupancy reachable nonneg le_rfl,
    Reachable.remainingUse_eq reachable]
  exact served.sum_duration (Reachable.start_nonneg reachable) (Reachable.start_le reachable)

/-- When the simulation ends nothing remains. -/
theorem Reachable.runwayUse_of_ended (reachable : Reachable config state)
    (ended : state.ended = true) :
    state.runwayUse = state.simTime - timeOff state.occupancy 0 state.simTime := by
  have nonneg := (Reachable.timely reachable).now_nonneg
  have whole := timeOn_add_timeOff state.occupancy 0 state.simTime
  have rest : state.remainingUse = 0 := by
    rw [Reachable.remainingUse_eq reachable]
    cases latest : (operations state.trace).head? with
    | none => rfl
    | some last =>
        rw [Option.elim_some,
          ((Reachable.concluded reachable).1 ended).finished last latest, sub_self]
        exact max_self 0
  rw [Reachable.runwayUse_eq reachable, rest]
  omega

/-- The operations that an event starts, start when it is handled. -/
theorem Transition.exists_started {next : Network} {event : Event}
    (transition : Transition config state event next) :
    ∃ started, operations next.trace = started ++ operations state.trace ∧
      ∀ job ∈ started, job.start = state.simTime := by
  obtain ⟨calls, trace, now⟩ := (Network.Logs.transition transition).calls
  obtain ⟨started, split, timed⟩ := operations_append calls state.trace
  refine ⟨started, trace ▸ split, ?_⟩
  intro job member
  obtain ⟨record, called, time⟩ := timed job member
  exact time.symm.trans (now record called)

/-- The operations that start before an instant are those of an earlier state, the last one in
which the clock has not reached it. -/
theorem Reachable.exists_before (reachable : Reachable config state) {instant : Int}
    (positive : 0 < instant) (past : instant ≤ state.simTime) :
    ∃ before event, Reachable config before ∧ before.ended = false ∧ before.Next event ∧
      before.simTime < instant ∧ instant ≤ event.time ∧
      before.runwayUse + state.useSince instant = state.runwayUse := by
  suffices split : ∃ before event, Reachable config before ∧ before.ended = false ∧
      before.Next event ∧ before.simTime < instant ∧ instant ≤ event.time ∧
      before.runwayUse + state.useSince instant =
        ((operations state.trace).map Job.duration).sum by
    rwa [← Reachable.runwayUse_eq_sum reachable] at split
  revert past
  refine Reachable.invariant (fun state => instant ≤ state.simTime →
    ∃ before event, Reachable config before ∧ before.ended = false ∧
      before.Next event ∧ before.simTime < instant ∧ instant ≤ event.time ∧
      before.runwayUse + state.useSince instant =
        ((operations state.trace).map Job.duration).sum) ?_ ?_ reachable
  · intro past
    exact absurd past (not_le.mpr positive)
  · intro source event target reached running isNext known transition past
    obtain ⟨started, split, now⟩ :
        ∃ started, operations target.trace = started ++ operations source.trace ∧
          ∀ job ∈ started, job.start = event.time := transition.exists_started
    have past : instant ≤ event.time := past.trans_eq (Network.Logs.transition transition).clock
    have since : target.useSince instant =
        (started.map Job.duration).sum + source.useSince instant := by
      rw [Network.useSince, split, workSince_append]
      · rfl
      · exact fun job member => past.trans_eq (now job member).symm
    rw [since, split, List.map_append, List.sum_append]
    rcases lt_or_ge source.simTime instant with before | after
    · refine ⟨source, event, reached, running, isNext, before, past, ?_⟩
      have none : source.useSince instant = 0 := workSince_eq_zero fun job member =>
        (Reachable.start_le reached job member).trans_lt before
      rw [none, Reachable.runwayUse_eq_sum reached]
      ring
    · obtain ⟨before, first, earlier, going, next, early, late, use⟩ := known after
      refine ⟨before, first, earlier, going, next, early, late, ?_⟩
      rw [← use]
      ring

/-- All operations start at zero or later. -/
theorem Reachable.useSince_zero (reachable : Reachable config state) :
    state.useSince 0 = state.runwayUse := by
  rw [Reachable.runwayUse_eq_sum reachable]
  exact workSince_eq_sum (Reachable.start_nonneg reachable)

/-- Without a warm-up period the recorded utilization is that of the whole run. -/
theorem Reachable.runwayutilization_of_all (reachable : Reachable config state)
    (ended : state.ended = true) (none : config.warmupPeriod = 0)
    (lasts : 0 < state.simTime) :
    state.runwayutilization = some ((state.runwayUse : ℚ) / state.simTime) := by
  rw [Reachable.runwayutilization reachable ended (none ▸ lasts), none,
    Reachable.useSince_zero reachable]

/-- Runway time accounting.  In every reachable state the runway time emitted so far is
the time for which the strip has been occupied and what remains of the operation in
progress.  So at the end it is the total simulation time without the idle time, and the
utilization of the runway, which is what a run without warm-up period records, lies
between zero and one. -/
theorem runway_time_accounting (reachable : Reachable config state) :
    state.runwayUse = timeOn state.occupancy 0 state.simTime + state.remainingUse ∧
      (state.ended = true →
        ∃ total, state.samples .totalSimtime = [(state.simTime, total)] ∧
          state.runwayUse = total - timeOff state.occupancy 0 total ∧
          (0 < total → 0 ≤ (state.runwayUse : ℚ) / total ∧
            (state.runwayUse : ℚ) / total ≤ 1 ∧
            (config.warmupPeriod = 0 →
              state.runwayutilization = some ((state.runwayUse : ℚ) / total)))) := by
  refine ⟨Reachable.runwayUse_eq reachable, fun ended =>
    ⟨state.simTime, ((Reachable.concluded reachable).1 ended).totalSimtime,
      Reachable.runwayUse_of_ended reachable ended, fun lasts => ?_⟩⟩
  have positive : (0 : ℚ) < state.simTime := by exact_mod_cast lasts
  have whole := timeOn_add_timeOff state.occupancy 0 state.simTime
  have idle := Reachable.runwayUse_of_ended reachable ended
  refine ⟨div_nonneg ?_ positive.le, (div_le_one positive).mpr ?_, fun none =>
    Reachable.runwayutilization_of_all reachable ended none lasts⟩
  · have nonneg : 0 ≤ state.runwayUse := by omega
    exact_mod_cast nonneg
  · have bounded : state.runwayUse ≤ state.simTime := by omega
    exact_mod_cast bounded

/-- A stable run of four airplanes, at its end. -/
theorem runway_time_accounting_stable :
    let config := Ini.deterministic 3600 900 3600 900 4 0
    let state := eventLoop config 18
    state.runwayUse = timeOn state.occupancy 0 state.simTime + state.remainingUse ∧
      (state.ended = true →
        ∃ total, state.samples .totalSimtime = [(state.simTime, total)] ∧
          state.runwayUse = total - timeOff state.occupancy 0 total ∧
          (0 < total → 0 ≤ (state.runwayUse : ℚ) / total ∧
            (state.runwayUse : ℚ) / total ≤ 1 ∧
            (config.warmupPeriod = 0 →
              state.runwayutilization = some ((state.runwayUse : ℚ) / total)))) :=
  runway_time_accounting (eventLoop_reachable _ 18)

end AirTrafficControl
