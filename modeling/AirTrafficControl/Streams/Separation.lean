import AirTrafficControl.Streams.Draws
import AirTrafficControl.Safety.Conservation
import Mathlib.Algebra.Order.Ring.Abs

/-!
# Separate streams

Two runs with the same seeds should draw the same durations, whatever the other means.  The
`rng-N` keys of `omnetpp.ini` do not match the full paths of the modules, so arrivals share
a stream with parking times and landings with take-offs, and a kind of duration is the same
in both runs only as long as the other readers of its stream draw in step.
-/

namespace AirTrafficControl

open SharedStream

variable {config : Config} {state next : Network}

/-! ## Arrival instants -/

/-- The arrivals that have been handled. -/
def Network.arrivalInstants (state : Network) : List Int :=
  state.trace.filterMap (Record.request .airspace)

/-- Every arrival comes an inter-arrival time after the one before. -/
structure Network.Spaced (state : Network) : Prop where
  started : state.drawn .arrival ≠ []
  pending : ∀ event ∈ state.futureEvents, event.kind = .arrival →
    event.time = (state.drawn .arrival).sum
  instants : state.arrivalInstants = runningSums (state.drawn .arrival).tail

namespace Network.Spaced

/-- Handlers of other messages neither compute inter-arrival times nor receive arrivals. -/
private theorem unchanged (spaced : state.Spaced)
    (drawn : next.drawn .arrival = state.drawn .arrival)
    (events : ∀ event ∈ next.futureEvents, event.kind = .arrival →
      event ∈ state.futureEvents)
    (instants : next.arrivalInstants = state.arrivalInstants) : next.Spaced := by
  constructor
  · rw [drawn]
    exact spaced.started
  · intro event member arrival
    rw [drawn]
    exact spaced.pending event (events event member arrival) arrival
  · rw [instants, drawn]
    exact spaced.instants

/-- The arrival that is handled is the latest one. -/
private theorem handled (spaced : state.Spaced) {time : Int}
    (due : time = (state.drawn .arrival).sum) :
    time :: state.arrivalInstants = runningSums (state.drawn .arrival) := by
  rw [spaced.instants, due]
  cases drawn : state.drawn .arrival with
  | nil => exact absurd drawn spaced.started
  | cons last older => rfl

/-- The handler of an arrival schedules the next one. -/
private theorem scheduleNext (now : state.simTime = (state.drawn .arrival).sum)
    (none : ∀ event ∈ state.futureEvents, event.kind ≠ .arrival)
    (instants : state.arrivalInstants = runningSums (state.drawn .arrival)) :
    (Airspace.scheduleNext config state).Spaced := by
  have drawn : (Airspace.scheduleNext config state).drawn .arrival =
      (state.simTime + config.sim.duration config.par.interArrival state.rngDraws -
        state.simTime) :: state.drawn .arrival := rfl
  constructor
  · rw [drawn]
    exact List.cons_ne_nil _ _
  · intro event member arrival
    rw [Airspace.scheduleNext_eq] at member
    rcases List.mem_append.mp member with before | new
    · exact absurd arrival (none event before)
    · rw [List.mem_singleton.mp new, drawn, List.sum_cons, ← now]
      simp only [add_sub_cancel_left, add_comm]
  · rw [drawn]
    exact instants

private theorem completed (spaced : state.Spaced)
    (completed : Completed config state next) : next.Spaced := by
  cases completed with
  | idle => exact ⟨spaced.started, spaced.pending, spaced.instants⟩
  | land =>
      refine spaced.unchanged rfl ?_ rfl
      simp +contextual [Airspace.land_eq, or_imp]
  | takeOff =>
      refine spaced.unchanged rfl ?_ rfl
      simp +contextual [ParkingArea.takeOff_eq, or_imp]

theorem transition (conserved : Conserved state) (spaced : state.Spaced) {event : Event}
    (member : event ∈ state.futureEvents)
    (transition : Transition config (state.take event) event next) : next.Spaced := by
  have taken : (state.take event).Spaced :=
    ⟨spaced.started,
      fun other remains => spaced.pending other (List.mem_of_mem_erase remains),
      spaced.instants⟩
  cases transition with
  | landNow kind =>
      have time := spaced.pending event member kind
      apply scheduleNext time
      · intro other remains
        rw [Airspace.land_eq] at remains
        rcases List.mem_append.mp remains with before | new
        · exact conserved.last_arrival member kind other before
        · rw [List.mem_singleton.mp new]
          simp
      · exact spaced.handled time
  | hold kind =>
      have time := spaced.pending event member kind
      exact scheduleNext time (conserved.last_arrival member kind) (spaced.handled time)
  | takeOffNow =>
      refine taken.unchanged rfl ?_ rfl
      simp +contextual [ParkingArea.takeOff_eq, Network.setOccupied, or_imp]
  | queue => exact taken.unchanged rfl (fun _ remains _ => remains) rfl
  | landed _ completed =>
      refine Spaced.completed ?_ completed
      refine taken.unchanged rfl ?_ rfl
      simp +contextual [Network.park, or_imp]
  | left _ _ completed =>
      refine Spaced.completed ?_ completed
      exact taken.unchanged rfl (fun _ remains _ => remains) rfl
  | finished => exact taken.unchanged rfl (fun _ remains _ => remains) rfl

end Network.Spaced

theorem Reachable.spaced (reachable : Reachable config state) : state.Spaced := by
  refine Reachable.invariant Network.Spaced ?_ ?_ reachable
  · constructor
    · exact List.cons_ne_nil _ _
    · have first : ∀ span : Int, 0 + span = [0 + span - 0].sum := by simp
      intro event member _
      rw [List.mem_singleton.mp member]
      exact first _
    · rfl
  · intro source event target reached _ isNext spaced transition
    exact spaced.transition (Reachable.conserved reached) isNext.1 transition

/-! ## Two runs -/

section TwoRuns

variable {sim : Omnetpp} {first second : Parameters} {other : Network}

/-- The durations of one kind are the same in two runs that draw in step. -/
theorem Reachable.agree_drawn (random : first.Exponential) (randomToo : second.Exponential)
    (reachable : Reachable ⟨sim, first⟩ state)
    (reachableToo : Reachable ⟨sim, second⟩ other) {kind : Kind}
    (mean : (first.timing kind).mean = (second.timing kind).mean)
    (inStep : Agree (state.turns sim kind) (other.turns sim kind)) :
    Agree (state.drawn kind) (other.drawn kind) := by
  have same : Config.variate ⟨sim, first⟩ kind = Config.variate ⟨sim, second⟩ kind := by
    funext place
    rw [Config.variate, Config.variate, mean]
  rw [(Reachable.drawn random reachable).values,
    (Reachable.drawn randomToo reachableToo).values, same]
  exact inStep.map _

/-- Without repetitions in the stream they are the same in no other runs. -/
theorem Reachable.agree_turns (random : first.Exponential) (randomToo : second.Exponential)
    (reachable : Reachable ⟨sim, first⟩ state)
    (reachableToo : Reachable ⟨sim, second⟩ other) {kind : Kind}
    (mean : (first.timing kind).mean = (second.timing kind).mean)
    (distinct : Function.Injective (Config.variate ⟨sim, first⟩ kind))
    (agree : Agree (state.drawn kind) (other.drawn kind)) :
    Agree (state.turns sim kind) (other.turns sim kind) := by
  have same : Config.variate ⟨sim, first⟩ kind = Config.variate ⟨sim, second⟩ kind := by
    funext place
    rw [Config.variate, Config.variate, mean]
  rw [(Reachable.drawn random reachable).values,
    (Reachable.drawn randomToo reachableToo).values, ← same] at agree
  exact (agree_map_iff distinct).mp agree

/-- The arrivals are the same when the inter-arrival times are. -/
theorem Reachable.agree_arrivalInstants (reachable : Reachable ⟨sim, first⟩ state)
    (reachableToo : Reachable ⟨sim, second⟩ other)
    (agree : Agree (state.drawn .arrival) (other.drawn .arrival)) :
    Agree state.arrivalInstants other.arrivalInstants := by
  rw [(Reachable.spaced reachable).instants, (Reachable.spaced reachableToo).instants]
  exact agree.tail.runningSums

/-- What separate streams promise: the arrivals, and the durations of every kind, depend on
the seeds and their own mean only. -/
def SameDraws (first second : Parameters) (state other : Network) : Prop :=
  (first.interArrivalTime = second.interArrivalTime →
      Agree state.arrivalInstants other.arrivalInstants) ∧
    ∀ kind, (first.timing kind).mean = (second.timing kind).mean →
      Agree (state.drawn kind) (other.drawn kind)

/-- The kinds of duration with the same mean are drawn from the same places of their
streams, so each stream has been read as often before the one run computes a duration as
before the other run does. -/
def InStep (sim : Omnetpp) (first second : Parameters) (state other : Network) : Prop :=
  ∀ kind, (first.timing kind).mean = (second.timing kind).mean →
    Agree (state.turns sim kind) (other.turns sim kind)

theorem Reachable.sameDraws (random : first.Exponential) (randomToo : second.Exponential)
    (reachable : Reachable ⟨sim, first⟩ state)
    (reachableToo : Reachable ⟨sim, second⟩ other)
    (inStep : InStep sim first second state other) :
    SameDraws first second state other := by
  have drawn : ∀ kind, (first.timing kind).mean = (second.timing kind).mean →
      Agree (state.drawn kind) (other.drawn kind) := fun kind mean =>
    Reachable.agree_drawn random randomToo reachable reachableToo mean (inStep kind mean)
  exact ⟨fun mean => Reachable.agree_arrivalInstants reachable reachableToo
    (drawn .arrival mean), drawn⟩

/-- With a stream for every kind the promise holds of all runs. -/
theorem Reachable.sameDraws_of_separate (separate : Function.Injective sim.stream)
    (random : first.Exponential) (randomToo : second.Exponential)
    (reachable : Reachable ⟨sim, first⟩ state)
    (reachableToo : Reachable ⟨sim, second⟩ other) :
    SameDraws first second state other := by
  apply Reachable.sameDraws random randomToo reachable reachableToo
  intro kind _
  exact agree_turns_of_separate fun _ same => separate same

end TwoRuns

namespace Ini

/-- The keys leave every local stream at the global stream of the same number. -/
theorem rngMapping_rngKeys (module : SimpleModule) (rng : Nat) :
    rngMapping rngKeys module rng = rng := by
  have unmatched : ∀ key ∈ rngKeys, fits key.pattern (fullPath module) = false := by
    cases module <;> decide
  have none : rngKeys.find? (fun key =>
      key.localRng = rng && fits key.pattern (fullPath module)) = none := by
    apply List.find?_eq_none.mpr
    intro key member
    simp [unmatched key member]
  rw [rngMapping, none]

/-- So arrivals and parking times come from one stream, landings and take-offs from
another. -/
theorem stream_simulator (exponential : ℚ → Nat → Nat → ℚ)
    (nonneg : ∀ {mean : ℚ} (rng draw : Nat), 0 ≤ mean → 0 ≤ exponential mean rng draw)
    (kind : Kind) :
    (simulator exponential nonneg).stream kind =
      match kind with
      | .arrival | .parking => 0
      | .landing | .takeoff => 1 := by
  cases kind with
  | arrival => exact rngMapping_rngKeys .airspace 0
  | landing => exact rngMapping_rngKeys .airspace 1
  | parking => exact rngMapping_rngKeys .parkingArea 0
  | takeoff => exact rngMapping_rngKeys .parkingArea 1

/-- Variates that are once, once, twice, three times the mean, and so on. -/
def increasing (mean : ℚ) (_ draw : Nat) : ℚ := mean * (max 1 draw : Nat)

theorem increasing_nonneg {mean : ℚ} (rng draw : Nat) (nonneg : 0 ≤ mean) :
    0 ≤ increasing mean rng draw :=
  mul_nonneg nonneg (Nat.cast_nonneg _)

/-- A run of the exponential regime with these variates. -/
def increasingRun (par : Parameters) : Config :=
  ⟨simulator increasing increasing_nonneg, par⟩

end Ini

/-- Two runs with the same seeds keep the promise of separate streams when they draw in
step, and, if no stream repeats a variate, only then. -/
theorem sameDraws_inStep (exponential : ℚ → Nat → Nat → ℚ)
    (nonneg : ∀ {mean : ℚ} (rng draw : Nat), 0 ≤ mean → 0 ≤ exponential mean rng draw)
    {first second : Parameters} {state other : Network} (random : first.Exponential)
    (randomToo : second.Exponential)
    (reachable : Reachable ⟨Ini.simulator exponential nonneg, first⟩ state)
    (reachableToo : Reachable ⟨Ini.simulator exponential nonneg, second⟩ other) :
    (InStep (Ini.simulator exponential nonneg) first second state other →
        SameDraws first second state other) ∧
      ((∀ kind, Function.Injective
          (Config.variate ⟨Ini.simulator exponential nonneg, first⟩ kind)) →
        SameDraws first second state other →
          InStep (Ini.simulator exponential nonneg) first second state other) := by
  constructor
  · exact Reachable.sameDraws random randomToo reachable reachableToo
  · intro distinct same kind mean
    exact Reachable.agree_turns random randomToo reachable reachableToo mean (distinct kind)
      (same.2 kind mean)

/-- Longer parking times leave the first eight events in step. -/
theorem sameDraws_inStep_eighth :
    let first := Ini.exponentialRegime 1080 900 900 900 100000 0
    let second := Ini.exponentialRegime 1080 900 1260 900 100000 0
    SameDraws first second (eventLoop (Ini.increasingRun first) 8)
      (eventLoop (Ini.increasingRun second) 8) := by
  intro first second
  refine (sameDraws_inStep Ini.increasing Ini.increasing_nonneg (by decide) (by decide)
    (eventLoop_reachable (Ini.increasingRun first) 8)
    (eventLoop_reachable (Ini.increasingRun second) 8)).1 ?_
  intro kind _
  cases kind <;> decide +kernel

/-- With longer landings the second arrival comes before the first parking time is drawn,
and takes its variate, so that the third arrival is earlier. -/
theorem arrivals_not_separate :
    let first := Ini.exponentialRegime 1080 900 900 900 100000 0
    let second : Parameters :=
      { first with landingTime := 1260, landingTime_nonneg := by decide }
    let state := eventLoop (Ini.increasingRun first) 8
    let other := eventLoop (Ini.increasingRun second) 8
    first.Exponential ∧ second.Exponential ∧ Reachable (Ini.increasingRun first) state ∧
      Reachable (Ini.increasingRun second) other ∧
      ¬Agree state.arrivalInstants other.arrivalInstants := by
  intro first second state other
  refine ⟨by decide, by decide, eventLoop_reachable _ 8, eventLoop_reachable _ 8, ?_⟩
  decide +kernel

end AirTrafficControl
