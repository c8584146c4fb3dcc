import AirTrafficControl.Library.SharedStream
import AirTrafficControl.Safety.Response

/-!
# Draws from the random number streams

When all four flags are set, every duration of a run is a variate from one of the global
streams.  Its place in the stream is the number of durations computed before from the same
stream, whichever call computed them.
-/

namespace AirTrafficControl

open SharedStream

variable {config : Config} {state next : Network}

/-- The computation of the duration that ends with a message of a kind. -/
def Parameters.timing (par : Parameters) : Kind → Timing
  | .arrival => par.interArrival
  | .landing => par.landing
  | .parking => par.parking
  | .takeoff => par.takeoff

/-- The global stream behind the local one that a kind of duration is drawn from. -/
def Omnetpp.stream (sim : Omnetpp) : Kind → Nat
  | .arrival => sim.rngMapping .airspace 0
  | .landing => sim.rngMapping .airspace 1
  | .parking => sim.rngMapping .parkingArea 0
  | .takeoff => sim.rngMapping .parkingArea 1

/-- All four durations are random. -/
def Parameters.Exponential (par : Parameters) : Prop :=
  ∀ kind, (par.timing kind).random = true

instance (par : Parameters) : Decidable par.Exponential :=
  decidable_of_iff (par.isInterArrivalTimeRandom = true ∧ par.isLandingTimeRandom = true ∧
    par.isParkingTimeRandom = true ∧ par.isTakeoffTimeRandom = true) (by
      constructor
      · rintro ⟨arrival, landing, parking, takeoff⟩ (_ | _ | _ | _) <;> assumption
      · exact fun random => ⟨random .arrival, random .landing, random .parking,
          random .takeoff⟩)

/-- The duration that a call is about. -/
def Record.duration (record : Record) : Option (Kind × Int) :=
  match record.call, record.module with
  | .scheduleAt time, .airspace => some (.arrival, time - record.time)
  | .scheduleAt time, .parkingArea => some (.parking, time - record.time)
  | .sendDelayed delay, .airspace => some (.landing, delay)
  | .sendDelayed delay, .parkingArea => some (.takeoff, delay)
  | _, _ => none

namespace Network

/-- The durations that a run has computed. -/
def durations (state : Network) : List (Kind × Int) := state.trace.filterMap Record.duration

/-- The durations of one kind. -/
def drawn (state : Network) (kind : Kind) : List Int :=
  (state.durations.filter fun duration => duration.1 = kind).map Prod.snd

/-- The places of the durations of one kind, in the stream they are drawn from. -/
def turns (state : Network) (sim : Omnetpp) (kind : Kind) : List Nat :=
  SharedStream.turns sim.stream kind (state.durations.map Prod.fst)

end Network

/-- The variate at a place of the stream of a kind of duration. -/
def Config.variate (config : Config) (kind : Kind) (place : Nat) : Int :=
  config.sim.simtime
    (config.sim.exponential (config.par.timing kind).mean (config.sim.stream kind) place)

/-- All durations are variates at their places. -/
structure Network.Drawn (config : Config) (state : Network) : Prop where
  streams : ∀ rng,
    state.rngDraws rng = reads config.sim.stream rng (state.durations.map Prod.fst)
  values : ∀ kind,
    state.drawn kind = (state.turns config.sim kind).map (config.variate kind)

theorem duration_timing (random : config.par.Exponential) (kind : Kind)
    (draws : Nat → Nat) :
    config.sim.duration (config.par.timing kind) draws =
      config.variate kind (draws (config.sim.stream kind)) := by
  rw [Omnetpp.duration, if_pos (random kind)]
  cases kind <;> rfl

theorem advance_timing (random : config.par.Exponential) (kind : Kind) (draws : Nat → Nat)
    (rng : Nat) :
    config.sim.advance (config.par.timing kind) draws rng =
      draws rng + if config.sim.stream kind = rng then 1 else 0 := by
  rw [Omnetpp.advance, if_pos (random kind)]
  by_cases mine : config.sim.stream kind = rng
  · subst mine
    rw [if_pos rfl]
    cases kind <;> exact Function.update_self _ _ _
  · rw [if_neg mine, add_zero]
    cases kind <;> exact Function.update_of_ne (Ne.symm mine) _ _

namespace Network.Drawn

/-- Calls without a duration. -/
private theorem quiet (drawn : state.Drawn config) (calls : List Record)
    (timeless : calls.filterMap Record.duration = [])
    (same : next.rngDraws = state.rngDraws) (trace : next.trace = calls ++ state.trace) :
    next.Drawn config := by
  have durations : next.durations = state.durations := by
    rw [Network.durations, trace, List.filterMap_append, timeless, List.nil_append,
      Network.durations]
  constructor
  · intro rng
    rw [same, durations]
    exact drawn.streams rng
  · intro kind
    rw [Network.drawn, Network.turns, durations]
    exact drawn.values kind

/-- The computation of a duration. -/
private theorem draw (random : config.par.Exponential) (drawn : state.Drawn config)
    (kind : Kind) (calls : List Record)
    (computed : calls.filterMap Record.duration =
      [(kind, config.sim.duration (config.par.timing kind) state.rngDraws)])
    (advanced : next.rngDraws = config.sim.advance (config.par.timing kind) state.rngDraws)
    (trace : next.trace = calls ++ state.trace) : next.Drawn config := by
  have durations : next.durations =
      (kind, config.variate kind (state.rngDraws (config.sim.stream kind))) ::
        state.durations := by
    rw [Network.durations, trace, List.filterMap_append, computed, duration_timing random]
    rfl
  constructor
  · intro rng
    rw [advanced, advance_timing random, drawn.streams rng, durations, List.map_cons, reads,
      reads, List.countP_cons]
    simp only [decide_eq_true_eq]
  · intro other
    have older := drawn.values other
    rw [Network.drawn, Network.turns] at older
    rw [Network.drawn, Network.turns, durations, List.map_cons, SharedStream.turns,
      List.filter_cons]
    by_cases mine : kind = other
    · subst mine
      simp only [decide_true, if_true, List.map_cons, older, drawn.streams]
    · simp only [mine, decide_false, if_false, Bool.false_eq_true, older]

variable (random : config.par.Exponential)

include random

theorem land (drawn : state.Drawn config) (plane : Airplane) :
    (Airspace.land config plane state).Drawn config :=
  drawn.draw random .landing [_, _] rfl rfl rfl

theorem takeOff (drawn : state.Drawn config) (plane : Airplane) :
    (ParkingArea.takeOff config plane state).Drawn config :=
  drawn.draw random .takeoff [_, _] rfl rfl rfl

theorem park (drawn : state.Drawn config) (plane : Airplane) :
    (state.park config plane).Drawn config := by
  refine drawn.draw random .parking [_, _] ?_ rfl rfl
  simp [Record.duration, Parameters.timing]

theorem scheduleNext (drawn : state.Drawn config) :
    (Airspace.scheduleNext config state).Drawn config := by
  refine drawn.draw random .arrival [_] ?_ rfl rfl
  simp [Record.duration, Parameters.timing]

theorem completed (drawn : state.Drawn config) (completed : Completed config state next) :
    next.Drawn config := by
  cases completed with
  | idle => exact drawn.quiet [] rfl rfl rfl
  | land =>
      apply Drawn.land random
      exact drawn.quiet [_, _] rfl rfl rfl
  | takeOff =>
      apply Drawn.takeOff random
      exact drawn.quiet [_, _] rfl rfl rfl

theorem transition (drawn : state.Drawn config) {event : Event}
    (transition : Transition config state event next) : next.Drawn config := by
  cases transition with
  | landNow =>
      apply Drawn.scheduleNext random
      apply Drawn.land random
      exact drawn.quiet [_, _, _] rfl rfl rfl
  | hold =>
      apply Drawn.scheduleNext random
      exact drawn.quiet [_, _] rfl rfl rfl
  | takeOffNow =>
      apply Drawn.takeOff random
      exact drawn.quiet [_, _, _, _] rfl rfl rfl
  | queue => exact drawn.quiet [_, _, _] rfl rfl rfl
  | landed _ completed =>
      exact (drawn.park random event.airplane).completed random completed
  | left _ _ completed =>
      refine Drawn.completed random ?_ completed
      exact drawn.quiet [_, _] rfl rfl rfl
  | finished => exact drawn.quiet [_, _, _, _] rfl rfl rfl

end Network.Drawn

theorem Reachable.drawn (random : config.par.Exponential)
    (reachable : Reachable config state) : state.Drawn config := by
  refine Reachable.invariant (Network.Drawn config) ?_ ?_ reachable
  · have blank : Network.blank.Drawn config := ⟨fun _ => rfl, fun _ => rfl⟩
    have started : (Airspace.init config .blank).Drawn config := by
      apply Network.Drawn.scheduleNext random
      exact ⟨fun _ => rfl, fun _ => rfl⟩
    exact ⟨started.streams, started.values⟩
  · intro source event target _ _ _ drawn transition
    have taken : (source.take event).Drawn config := ⟨drawn.streams, drawn.values⟩
    exact taken.transition random transition

end AirTrafficControl
