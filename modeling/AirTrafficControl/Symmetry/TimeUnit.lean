import AirTrafficControl.Statistics.Utilization
import AirTrafficControl.Symmetry.Rescaling
import Mathlib.Algebra.BigOperators.Ring.List

/-!
# Independence from the unit of time

When all durations and the warm-up period are multiplied by the same number, a run handles the
same events in the same order.  Sizes are sampled as before, times are multiplied, and the
recorded utilization of the runway, a quotient of times, is unchanged.
-/

namespace AirTrafficControl

variable {config other : Config} {factor : Int}

/-- The other simulation has the same random numbers and the same number of samples, and every
duration of it is that of the first one multiplied by a factor. -/
structure Config.Multiplied (factor : Int) (config other : Config) : Prop where
  duration : ∀ kind draws, other.sim.duration (other.par.timing kind) draws =
    factor * config.sim.duration (config.par.timing kind) draws
  advance : ∀ kind draws, other.sim.advance (other.par.timing kind) draws =
    config.sim.advance (config.par.timing kind) draws
  totalSamples : other.totalSamples = config.totalSamples
  warmupPeriod : other.warmupPeriod = factor * config.warmupPeriod

/-- When an event is due, what it is, and for which airplane. -/
def Event.occasion (event : Event) : Int × Kind × Nat :=
  (event.time, event.kind, event.airplane.id)

/-- The signals that carry a number of airplanes. -/
def Signal.IsSize (signal : Signal) : Prop :=
  signal = .holdingQueueSize ∨ signal = .departQueueSize ∨ signal = .parkedPlanes

instance (signal : Signal) : Decidable signal.IsSize :=
  inferInstanceAs (Decidable (_ ∨ _ ∨ _))

/-- A value of a signal in the other unit. -/
def Signal.multiply (factor : Int) (signal : Signal) (value : Int) : Int :=
  if signal.IsSize then value else factor * value

theorem multiply_instant (positive : 0 < factor) (time : Int) :
    (Rescaling.multiply factor positive).instant time = factor * time :=
  add_zero _

theorem multiply_value (positive : 0 < factor) (signal : Signal) (value : Int) :
    (Rescaling.multiply factor positive).value signal value =
      signal.multiply factor value := by
  cases signal with
  | totalSimtime => exact multiply_instant positive value
  | _ => rfl

/-- The runs stay together. -/
theorem eventLoop_multiplied (positive : 0 < factor)
    (multiplied : config.Multiplied factor other) (count : Nat) :
    Rescaled (.multiply factor positive) (eventLoop config count)
      (eventLoop other count) := by
  have fits : config.Fits (.multiply factor positive) other :=
    ⟨multiplied.duration, multiplied.advance⟩
  induction count with
  | zero => exact .initialState fits
  | succ count together =>
      apply eventLoop_rescaled fits together
      intro event _ _
      have departed : (eventLoop other count).departedPlanes = _ :=
        together.departed.trans (add_zero _)
      rw [departed, multiplied.totalSamples]

namespace Rescaled

variable {positive : 0 < factor} {state image : Network}

theorem occasion {event event' : Event}
    (message : (Rescaling.multiply factor positive).Message event event') :
    event'.occasion = (factor * event.time, event.occasion.2) := by
  rw [Event.occasion, message.time, message.kind, message.id, multiply_instant]
  rfl

/-- Pending events are the same, in the same order. -/
theorem occasions {events images : List Event}
    (same : List.Forall₂ (Rescaling.multiply factor positive).Message events images) :
    images.map Event.occasion = events.map fun event =>
      (factor * event.time, event.occasion.2) := by
  induction same with
  | nil => rfl
  | cons message _ ih => rw [List.map_cons, List.map_cons, ih, occasion message]

/-- So is the next one. -/
theorem nextOccasion (rescaled : Rescaled (.multiply factor positive) state image)
    (some : state.nextEvent ≠ none) :
    image.nextEvent.map Event.occasion = state.nextEvent.map fun event =>
      (factor * event.time, event.occasion.2) := by
  obtain ⟨event, isNext⟩ := Option.ne_none_iff_exists'.mp some
  obtain ⟨event', isNext', message, -⟩ := rescaled.nextEvent isNext
  rw [isNext, isNext', Option.map_some, Option.map_some, occasion message]

theorem sample (signal : Signal) (record : Record) :
    Record.sample signal ((Rescaling.multiply factor positive).record record) =
      (Record.sample signal record).map fun sample =>
        (factor * sample.1, signal.multiply factor sample.2) := by
  obtain ⟨time, module, plane, call⟩ := record
  cases call with
  | emit emitted value =>
      by_cases same : emitted = signal
      · subst same
        simp [Rescaling.record, Rescaling.call, Record.sample, multiply_instant,
          multiply_value]
      · simp [Rescaling.record, Rescaling.call, Record.sample, same]
  | _ => rfl

/-- The samples of the other run. -/
theorem samples (rescaled : Rescaled (.multiply factor positive) state image)
    (signal : Signal) :
    image.samples signal = (state.samples signal).map fun sample =>
      (factor * sample.1, signal.multiply factor sample.2) := by
  obtain ⟨calls, trace, trace'⟩ := rescaled.traced
  have whole : state.trace = calls := trace.trans (List.append_nil calls)
  have whole' : image.trace = calls.map (Rescaling.multiply factor positive).record :=
    trace'.trans (List.append_nil _)
  rw [Network.samples, Network.samples, whole, whole', List.filterMap_map,
    List.map_filterMap]
  apply List.filterMap_congr
  intro record _
  exact sample signal record

/-- The samples after the warm-up period. -/
theorem collected (rescaled : Rescaled (.multiply factor positive) state image)
    (warmup : image.warmupPeriod = factor * state.warmupPeriod) (signal : Signal) :
    image.collected signal = (state.collected signal).map fun sample =>
      (factor * sample.1, signal.multiply factor sample.2) := by
  rw [Network.collected, Network.collected, rescaled.samples, List.filter_map, warmup]
  congr 1
  apply List.filter_congr
  intro sample _
  have ordered : factor * state.warmupPeriod ≤ factor * sample.1 ↔
      state.warmupPeriod ≤ sample.1 := mul_le_mul_iff_right₀ positive
  simp [ordered]

/-- A quotient of times. -/
theorem runwayutilization (rescaled : Rescaled (.multiply factor positive) state image)
    (warmup : image.warmupPeriod = factor * state.warmupPeriod) :
    image.runwayutilization = state.runwayutilization := by
  have nonzero : (factor : ℚ) ≠ 0 := by exact_mod_cast positive.ne'
  have use : ((image.collected .runwayUse).map Prod.snd).sum =
      factor * ((state.collected .runwayUse).map Prod.snd).sum := by
    rw [rescaled.collected warmup, List.map_map, ← List.sum_map_mul_left]
    rfl
  rw [Network.runwayutilization, Network.runwayutilization, use,
    rescaled.collected warmup .totalSimtime, List.head?_map, Option.map_map]
  congr 1
  funext total
  have value : Signal.multiply factor .totalSimtime total.2 = factor * total.2 := rfl
  rw [Function.comp_apply, value]
  push_cast
  exact mul_div_mul_left _ _ nonzero

end Rescaled

/-- Independence from the unit of time.  If every duration and the warm-up period are
multiplied by a factor, then after every round the same events are pending, in the same order
at multiplied instants, and the same one is next.  The sizes that have been sampled are the
same, the times are multiplied, and the recorded utilization of the runway is unchanged. -/
theorem unit_independence (positive : 1 ≤ factor)
    (multiplied : config.Multiplied factor other) (count : Nat) :
    let state := eventLoop config count
    let image := eventLoop other count
    image.simTime = factor * state.simTime ∧ image.ended = state.ended ∧
      (image.futureEvents.map Event.occasion = state.futureEvents.map fun event =>
        (factor * event.time, event.occasion.2)) ∧
      (image.nextEvent.map Event.occasion = state.nextEvent.map fun event =>
        (factor * event.time, event.occasion.2)) ∧
      (∀ signal : Signal, signal.IsSize →
        (image.samples signal = (state.samples signal).map fun sample =>
          (factor * sample.1, sample.2)) ∧
        image.collected signal = (state.collected signal).map fun sample =>
          (factor * sample.1, sample.2)) ∧
      (∀ signal : Signal, ¬signal.IsSize →
        (image.samples signal = (state.samples signal).map fun sample =>
          (factor * sample.1, factor * sample.2)) ∧
        image.collected signal = (state.collected signal).map fun sample =>
          (factor * sample.1, factor * sample.2)) ∧
      image.runwayutilization = state.runwayutilization := by
  have reachable := eventLoop_reachable config count
  have together := eventLoop_multiplied positive multiplied count
  have warmup : (eventLoop other count).warmupPeriod =
      factor * (eventLoop config count).warmupPeriod := by
    rw [Reachable.warmupPeriod (eventLoop_reachable other count),
      Reachable.warmupPeriod reachable]
    exact multiplied.warmupPeriod
  obtain ⟨event, isNext⟩ := Reachable.exists_nextEvent reachable
  refine ⟨together.now.trans (multiply_instant positive _), together.ended,
    Rescaled.occasions together.events, together.nextOccasion (by simp [isNext]), ?_, ?_,
    together.runwayutilization warmup⟩
  · intro signal size
    constructor
    · simpa [Signal.multiply, size] using together.samples signal
    · simpa [Signal.multiply, size] using together.collected warmup signal
  · intro signal notSize
    constructor
    · simpa [Signal.multiply, notSize] using together.samples signal
    · simpa [Signal.multiply, notSize] using together.collected warmup signal

/-- The same small run in seconds and in units of two seconds. -/
theorem multiplied_twice :
    (Ini.deterministic 2 1 3 1 5 4).Multiplied 2 (Ini.deterministic 4 2 6 2 5 8) := by
  constructor
  · intro kind draws
    cases kind <;> rfl
  · intro kind draws
    cases kind <;> rfl
  · rfl
  · rw [warmupPeriod_deterministic, warmupPeriod_deterministic]
    rfl

theorem unit_independence_twice :
    let state := eventLoop (Ini.deterministic 2 1 3 1 5 4) 20
    let image := eventLoop (Ini.deterministic 4 2 6 2 5 8) 20
    image.simTime = 2 * state.simTime ∧ image.ended = state.ended ∧
      (image.futureEvents.map Event.occasion = state.futureEvents.map fun event =>
        (2 * event.time, event.occasion.2)) ∧
      (image.nextEvent.map Event.occasion = state.nextEvent.map fun event =>
        (2 * event.time, event.occasion.2)) ∧
      (∀ signal : Signal, signal.IsSize →
        (image.samples signal = (state.samples signal).map fun sample =>
          (2 * sample.1, sample.2)) ∧
        image.collected signal = (state.collected signal).map fun sample =>
          (2 * sample.1, sample.2)) ∧
      (∀ signal : Signal, ¬signal.IsSize →
        (image.samples signal = (state.samples signal).map fun sample =>
          (2 * sample.1, 2 * sample.2)) ∧
        image.collected signal = (state.collected signal).map fun sample =>
          (2 * sample.1, 2 * sample.2)) ∧
      image.runwayutilization = state.runwayutilization :=
  unit_independence (by decide) multiplied_twice 20

end AirTrafficControl
