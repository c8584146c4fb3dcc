import AirTrafficControl.Streams.Separation
import AirTrafficControl.Symmetry.Periodicity

/-!
# Runs with more samples

The number of samples decides when a run ends and nothing else.  So the states of a run are
those of a run with more samples up to the departure that ends the shorter one, whatever the
random numbers and the order of simultaneous messages, and the samples of the shorter run are
the first ones of the longer.  Both numbers have to fit an `int`.
-/

namespace AirTrafficControl

variable {config : Config} {state next : Network} {event : Event} {totalSamples : Int}

/-- The same simulation with another number of samples in the NED file. -/
def Config.withSamples (config : Config) (totalSamples : Int) : Config :=
  { config with par := { config.par with totalSamples } }

theorem Completed.withSamples (completed : Completed config state next) (totalSamples : Int) :
    Completed (config.withSamples totalSamples) state next := by
  cases completed with
  | idle holding depart => exact .idle holding depart
  | land front older => exact .land front older
  | takeOff front older => exact .takeOff front older

/-- What an event does depends on the number of samples only when it is a departure. -/
theorem Transition.withSamples (transition : Transition config state event next)
    (running : next.ended = false) (more : event.kind = .takeoff →
      state.departedPlanes + 1 < (config.withSamples totalSamples).totalSamples) :
    Transition (config.withSamples totalSamples) state event next := by
  cases transition with
  | landNow kind free => exact .landNow kind free
  | hold kind busy => exact .hold kind busy
  | takeOffNow kind free => exact .takeOffNow kind free
  | queue kind busy => exact .queue kind busy
  | landed kind completed => exact .landed kind (completed.withSamples totalSamples)
  | left kind _ completed => exact .left kind (more kind) (completed.withSamples totalSamples)
  | finished => cases running

/-- A longer run goes on like the shorter one. -/
theorem Reachable.of_withSamples (reachable : Reachable (config.withSamples totalSamples) state) :
    state.ended = false → state.departedPlanes < config.totalSamples →
      Reachable config state := by
  refine @Reachable.invariant (config.withSamples totalSamples) (fun state => state.ended = false →
    state.departedPlanes < config.totalSamples → Reachable config state) ?_ ?_ _ reachable
  · exact fun _ _ => .refl
  · intro source event target reached running isNext known transition goesOn few
    have departed := (Handles.mk isNext transition).departedPlanes
    have fewBefore : source.departedPlanes < config.totalSamples := by
      split at departed <;> omega
    have more : event.kind = .takeoff →
        source.departedPlanes + 1 < config.totalSamples := by
      intro takeoff
      rw [if_pos takeoff] at departed
      omega
    have step : Step config source target :=
      ⟨running, event, isNext, Transition.result (Reachable.timely reached).queuesTimed
        (transition.withSamples goesOn more)⟩
    exact (known running fewBefore).tail step

section Runs

variable (samples : 1 ≤ config.totalSamples)
  (fewer : config.totalSamples ≤ (config.withSamples totalSamples).totalSamples)

include samples

include fewer in
/-- A run goes on in the same way when more samples are to come. -/
theorem Reachable.withSamples (reachable : Reachable config state) :
    state.ended = false → Reachable (config.withSamples totalSamples) state ∧
      state.departedPlanes < config.totalSamples := by
  refine Reachable.invariant (fun state => state.ended = false →
    Reachable (config.withSamples totalSamples) state ∧
      state.departedPlanes < config.totalSamples) ?_ ?_ reachable
  · exact fun _ => ⟨.refl, samples⟩
  · intro source event target reached running isNext known transition goesOn
    obtain ⟨reachedToo, few⟩ := known running
    have more := transition.more goesOn
    have longer : event.kind = .takeoff →
        source.departedPlanes + 1 < (config.withSamples totalSamples).totalSamples :=
      fun takeoff => (more takeoff).trans_le fewer
    have step : Step (config.withSamples totalSamples) source target :=
      ⟨running, event, isNext, (transition.withSamples goesOn longer).result
        (Reachable.timely reached).queuesTimed⟩
    refine ⟨reachedToo.tail step, ?_⟩
    rw [(Handles.mk isNext transition).departedPlanes]
    split
    · next takeoff => exact more takeoff
    · rw [add_zero]
      exact few

/-- The departure that ends a run does not end a longer one. -/
theorem Reachable.ended_withSamples
    (more : config.totalSamples < (config.withSamples totalSamples).totalSamples)
    (reachable : Reachable config state) : state.ended = true →
      ∃ later, Reachable (config.withSamples totalSamples) later ∧ later.ended = false ∧
        later.simTime = state.simTime ∧ ∀ signal, signal ≠ .totalSimtime →
          state.samples signal <:+ later.samples signal := by
  refine Reachable.invariant (fun state => state.ended = true →
    ∃ later, Reachable (config.withSamples totalSamples) later ∧ later.ended = false ∧
      later.simTime = state.simTime ∧ ∀ signal, signal ≠ .totalSimtime →
        state.samples signal <:+ later.samples signal) ?_ ?_ reachable
  · intro ended
    cases ended
  · intro source event target reached running isNext _ transition ended
    obtain ⟨reachedToo, few⟩ := Reachable.withSamples samples more.le reached running
    have last : ¬(event.kind = .takeoff →
        source.departedPlanes + 1 < config.totalSamples) := by
      intro early
      exact Bool.false_ne_true ((transition.running running early).symm.trans ended)
    obtain ⟨takeoff, late⟩ := Classical.not_imp.mp last
    cases transition with
    | landNow kind | hold kind | takeOffNow kind | queue kind | landed kind =>
        exact absurd (kind.symm.trans takeoff) (by decide)
    | left _ early => exact absurd early late
    | finished =>
        obtain ⟨later, completed⟩ := exists_completed (config.withSamples totalSamples)
          ((source.take event).depart event.airplane)
        have room : source.departedPlanes + 1 < (config.withSamples totalSamples).totalSamples := by
          omega
        have handled : Transition (config.withSamples totalSamples) (source.take event) event
            later := .left takeoff room completed
        have logs := Network.Logs.completed completed
        obtain ⟨calls, trace, -⟩ := logs.calls
        refine ⟨later, reachedToo.tail ⟨running, event, isNext,
          handled.result (Reachable.timely reached).queuesTimed⟩, ?_, logs.clock, ?_⟩
        · exact handled.running running fun _ => room
        · intro signal other
          rw [samples_append signal calls trace]
          cases signal with
          | totalSimtime => exact absurd rfl other
          | _ => exact List.suffix_append _ _

end Runs

/-- Runs with more samples extend runs with fewer, as long as both numbers are positive and
below `2 ^ 31`.  The states of a run that has not ended are the states of any longer run with
fewer departures than the shorter one counts; and in the instant in which the shorter run ends,
the longer run reaches a state whose samples begin with those of the shorter one. -/
theorem longer_run_extends (samples : 1 ≤ config.par.totalSamples)
    (fewer : config.par.totalSamples < totalSamples) (fits : totalSamples < 2 ^ 31) :
    (∀ state, Reachable config state ∧ state.ended = false ↔
      Reachable (config.withSamples totalSamples) state ∧ state.ended = false ∧
        state.departedPlanes < config.par.totalSamples) ∧
      ∀ state, Reachable config state → state.ended = true →
        ∃ later, Reachable (config.withSamples totalSamples) later ∧ later.ended = false ∧
          later.simTime = state.simTime ∧ ∀ signal, signal ≠ .totalSimtime →
            state.samples signal <:+ later.samples signal := by
  have kept : config.totalSamples = config.par.totalSamples :=
    config.totalSamples_eq_of_lt (by omega) (fewer.trans fits)
  have keptToo : (config.withSamples totalSamples).totalSamples = totalSamples :=
    Config.totalSamples_eq_of_lt _ (show 0 ≤ totalSamples by omega) fits
  rw [← kept] at samples fewer ⊢
  rw [← keptToo] at fewer
  refine ⟨fun state => ⟨?_, ?_⟩, fun state reachable ended =>
    Reachable.ended_withSamples samples fewer reachable ended⟩
  · rintro ⟨reachable, running⟩
    obtain ⟨longer, few⟩ := Reachable.withSamples samples fewer.le reachable running
    exact ⟨longer, running, few⟩
  · rintro ⟨reachable, running, few⟩
    exact ⟨Reachable.of_withSamples reachable running few, running⟩

theorem longer_run_extends_exponential :
    let config := Ini.increasingRun (Ini.exponentialRegime 1080 900 900 900 5 0)
    (∀ state, Reachable config state ∧ state.ended = false ↔
      Reachable (config.withSamples 100000) state ∧ state.ended = false ∧
        state.departedPlanes < 5) ∧
      ∀ state, Reachable config state → state.ended = true →
        ∃ later, Reachable (config.withSamples 100000) later ∧ later.ended = false ∧
          later.simTime = state.simTime ∧ ∀ signal, signal ≠ .totalSimtime →
            state.samples signal <:+ later.samples signal :=
  longer_run_extends (by decide) (by decide) (by decide)

end AirTrafficControl
