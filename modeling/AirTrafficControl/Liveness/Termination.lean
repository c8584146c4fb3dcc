import AirTrafficControl.Liveness.Progress
import AirTrafficControl.Safety.Response

/-!
# Termination

Arrivals go on for ever, and under overload the queues grow without bound.  Still every
run ends.  Suppose one did not.  Its clock diverges, since only a bounded number of events
can happen before each instant, so every pending message is handled at last.  Departures
are bounded, so from some time on no take-off is on the runway.  If the depart queue is
then ever filled, the airplane in front of it stays there, and each landing is one of the
finitely many airplanes that asked before it.  If it stays empty, no airplane can end its
parking time, so none can land, and the runway is free for the next arrival.

The departures are compared with the member `totalSamples`, an `int`.  So a run counts as many
as the parameter says as long as this is below `2 ^ 31`.
-/

namespace AirTrafficControl

open TransitionSystem

variable {config : Config} {state next : Network} {event : Event}

/-! ## The end of a run -/

/-- The departures, the response time samples and the calls of `endSimulation` agree.  The first
departure ends a run for which no sample is asked. -/
structure Counted (config : Config) (state : Network) : Prop where
  responses :
    ((state.samples .airportResponseTime).length : Int) = state.departedPlanes
  running : state.ended = false → state.departedPlanes < max 1 config.totalSamples ∧
    state.trace.countP (fun record => record.call = .endSimulation) = 0
  ended : state.ended = true → state.departedPlanes = max 1 config.totalSamples ∧
    state.trace.countP (fun record => record.call = .endSimulation) = 1

namespace Counted

/-- Calls that are neither response times nor the end of the simulation. -/
private theorem quiet (counted : Counted config state) (calls : List Record)
    (responses : ∀ record ∈ calls, record.sample .airportResponseTime = none)
    (going : ∀ record ∈ calls, record.call ≠ .endSimulation)
    (departed : next.departedPlanes = state.departedPlanes)
    (ended : next.ended = state.ended) (trace : next.trace = calls ++ state.trace) :
    Counted config next := by
  have samples :
      next.samples .airportResponseTime = state.samples .airportResponseTime := by
    rw [samples_append _ calls trace, List.filterMap_eq_nil_iff.mpr responses,
      List.nil_append]
  have ends : next.trace.countP (fun record => record.call = .endSimulation) =
      state.trace.countP fun record => record.call = .endSimulation := by
    rw [trace, List.countP_append, List.countP_eq_zero.mpr, zero_add]
    intro record member ends
    exact going record member (of_decide_eq_true ends)
  constructor
  · rw [samples, departed]
    exact counted.responses
  · rw [ended, departed, ends]
    exact counted.running
  · rw [ended, departed, ends]
    exact counted.ended

private theorem completed (counted : Counted config state)
    (completed : Completed config state next) : Counted config next := by
  cases completed with
  | idle => exact counted.quiet [] (by simp) (by simp) rfl rfl rfl
  | land => exact counted.quiet [_, _, _, _] (by simp) (by simp) rfl rfl rfl
  | takeOff => exact counted.quiet [_, _, _, _] (by simp) (by simp) rfl rfl rfl

theorem transition (counted : Counted config state) (running : state.ended = false)
    (transition : Transition config state event next) : Counted config next := by
  obtain ⟨less, none⟩ := counted.running running
  have unfinished : (state.depart event.airplane).trace.countP
      (fun record => record.call = .endSimulation) = 0 := by
    simpa [Network.depart] using none
  have one : ((state.depart event.airplane).samples .airportResponseTime).length =
      state.departedPlanes + 1 := by
    rw [samples_append _ [_, _] rfl, List.length_append, Nat.cast_add, counted.responses,
      add_comm]
    rfl
  cases transition with
  | landNow => exact counted.quiet [_, _, _, _, _, _] (by simp) (by simp) rfl rfl rfl
  | hold => exact counted.quiet [_, _, _] (by simp) (by simp) rfl rfl rfl
  | takeOffNow => exact counted.quiet [_, _, _, _, _, _] (by simp) (by simp) rfl rfl rfl
  | queue => exact counted.quiet [_, _, _] (by simp) (by simp) rfl rfl rfl
  | landed _ completed =>
      refine Counted.completed ?_ completed
      exact counted.quiet [_, _] (by simp) (by simp) rfl rfl rfl
  | left _ more completed =>
      refine Counted.completed ⟨one, fun _ => ⟨lt_max_of_lt_right more, unfinished⟩, ?_⟩
        completed
      intro ended
      exact absurd (running.symm.trans ended) Bool.false_ne_true
  | finished _ enough =>
      have first : 1 ≤ state.departedPlanes + 1 := by
        have responses := counted.responses
        omega
      refine ⟨?_, fun going => Bool.noConfusion going, fun _ =>
        ⟨le_antisymm less (max_le first enough), ?_⟩⟩
      · rw [samples_append _ [_, _] rfl]
        exact one
      · rw [List.countP_cons, List.countP_cons, unfinished]
        rfl

end Counted

theorem Reachable.counted (reachable : Reachable config state) : Counted config state := by
  refine Reachable.invariant (Counted config) ⟨rfl, ?_, fun ended => nomatch ended⟩ ?_
    reachable
  · intro _
    exact ⟨lt_max_of_lt_left Int.one_pos, rfl⟩
  · intro source event target _ running _ counted transition
    have taken : Counted config (source.take event) :=
      ⟨counted.responses, counted.running, counted.ended⟩
    exact taken.transition running transition

/-! ## Steps without take-offs -/

/-- No take-off is on the runway. -/
def Network.Grounded (state : Network) : Prop :=
  ∀ event ∈ state.futureEvents, event.kind ≠ .takeoff

/-- A take-off that starts is pending. -/
private theorem not_grounded_takeOff (plane : Airplane) :
    ¬(ParkingArea.takeOff config plane state).Grounded := by
  intro grounded
  exact grounded _ (List.mem_append_right _ List.mem_cons_self) rfl

/-- Without take-offs the airplane in front of the depart queue stays there. -/
theorem Handles.front_stays (handles : Handles config state event next)
    (notTakeoff : event.kind ≠ .takeoff) (grounded : next.Grounded) {plane : Airplane}
    (front : plane ∈ state.departQueue.head?) : plane ∈ next.departQueue.head? := by
  cases handles.transition with
  | landNow | hold => exact front
  | takeOffNow => exact absurd grounded (not_grounded_takeOff _)
  | queue =>
      show plane ∈ (state.departQueue ++ [_]).head?
      rw [List.head?_append, Option.mem_def.mp front]
      rfl
  | landed _ completed =>
      cases completed with
      | idle => exact front
      | land => exact front
      | takeOff => exact absurd grounded (not_grounded_takeOff _)
  | left kind => exact absurd kind notTakeoff
  | finished kind => exact absurd kind notTakeoff

/-- The airplanes that asked for their landing at an instant or before. -/
def Network.ahead (instant : Int) (state : Network) : Nat :=
  state.holdingQueue.countP fun plane => plane.queueArrivalTime ≤ instant

theorem Completed.ahead_le (completed : Completed config state next) (instant : Int) :
    next.ahead instant ≤ state.ahead instant := by
  cases completed with
  | idle => exact le_rfl
  | @land plane rest front =>
      unfold Network.ahead
      rw [front]
      exact List.Sublist.countP_le (List.sublist_cons_self plane rest)
  | takeOff => exact le_rfl

/-- Airplanes that arrive later are not ahead. -/
theorem Handles.ahead_le (handles : Handles config state event next) {instant : Int}
    (past : instant < event.time) : next.ahead instant ≤ state.ahead instant := by
  cases handles.transition with
  | landNow | takeOffNow | queue | finished => exact le_rfl
  | hold =>
      show (state.holdingQueue ++ [_]).countP _ ≤ state.holdingQueue.countP _
      rw [List.countP_append, List.countP_singleton]
      simp [Network.take, not_le.mpr past]
  | landed _ completed =>
      have bounded := completed.ahead_le instant
      exact bounded
  | left _ _ completed =>
      have bounded := completed.ahead_le instant
      exact bounded

/-- While an airplane waits for its take-off, each landing lets one go that asked before
it. -/
theorem Handles.ahead_lt (handles : Handles config state event next)
    (landing : event.kind = .landing) (grounded : next.Grounded) {plane : Airplane}
    (front : plane ∈ state.departQueue.head?) :
    next.ahead plane.queueArrivalTime < state.ahead plane.queueArrivalTime := by
  cases handles.transition with
  | landNow kind | hold kind | takeOffNow kind | queue kind | left kind | finished kind =>
      cases landing.symm.trans kind
  | landed _ completed =>
      cases completed with
      | idle _ noDepart =>
          rw [show state.departQueue = [] from noDepart] at front
          cases front
      | @land first rest holding older =>
          have counted : decide (first.queueArrivalTime ≤ plane.queueArrivalTime) = true :=
            decide_eq_true (older plane front)
          show rest.countP _ < state.holdingQueue.countP _
          rw [show state.holdingQueue = first :: rest from holding,
            List.countP_cons, if_pos counted]
          exact Nat.lt_succ_self _
      | takeOff => exact absurd grounded (not_grounded_takeOff _)

/-- Without take-offs, the end of a parking time fills the depart queue. -/
theorem Handles.departQueue_ne_nil (handles : Handles config state event next)
    (parking : event.kind = .parking) (grounded : next.Grounded) :
    next.departQueue ≠ [] := by
  cases handles.transition with
  | landNow kind | hold kind | landed kind | left kind | finished kind =>
      cases parking.symm.trans kind
  | takeOffNow => exact absurd grounded (not_grounded_takeOff _)
  | queue => exact List.append_ne_nil_of_right_ne_nil _ (List.cons_ne_nil _ _)

/-- A landed airplane parks. -/
theorem Handles.exists_parking (handles : Handles config state event next)
    (landing : event.kind = .landing) :
    ∃ other ∈ next.futureEvents, other.kind = .parking := by
  cases handles.transition with
  | landNow kind | hold kind | takeOffNow kind | queue kind | left kind | finished kind =>
      cases landing.symm.trans kind
  | landed _ completed =>
      exact ⟨_, completed.kept (List.mem_append_right _ List.mem_cons_self), rfl⟩

/-- An airplane that arrives while the strip is free lands. -/
theorem Handles.exists_landing (handles : Handles config state event next)
    (arrival : event.kind = .arrival) (free : state.landingStripOccupied = false) :
    ∃ other ∈ next.futureEvents, other.kind = .landing := by
  cases handles.transition with
  | landNow =>
      exact ⟨_, List.mem_append_left _ (List.mem_append_right _ List.mem_cons_self), rfl⟩
  | hold _ occupied => cases occupied.symm.trans free
  | takeOffNow kind | queue kind | landed kind | left kind | finished kind =>
      cases arrival.symm.trans kind

/-! ## Infinite runs -/

section InfiniteRun

variable (run : Run (Step config) (initialState config))

private theorem run_handles (time : Nat) :
    ∃ event, Handles config (run.state time) event (run.state (time + 1)) :=
  (run.steps time).handles (Reachable.timely (run.reachable time))

private theorem run_handled (time : Nat) : (run.state time).handled = time := by
  induction time with
  | zero =>
      rw [run.starts]
      rfl
  | succ time ih =>
      obtain ⟨event, handles⟩ := run_handles run time
      rw [handles.handled, ih]
      rfl

/-- A runway message that is pending without take-offs is a landing. -/
private theorem exists_pending_landing {time : Nat}
    (grounded : (run.state time).Grounded)
    (occupied : (run.state time).landingStripOccupied = true) :
    ∃ event ∈ (run.state time).futureEvents, event.kind = .landing := by
  have one := (Reachable.runwayConsistent (run.reachable time)
    (run.steps time).running).pending
  rw [if_pos occupied] at one
  have none : (run.state time).pending .takeoff = 0 :=
    List.countP_eq_zero.mpr fun event member takeoff =>
      grounded event member (of_decide_eq_true takeoff)
  have landing : 0 < (run.state time).pending .landing := by
    unfold Network.runwayMessages at one
    omega
  obtain ⟨event, member, kind⟩ := List.countP_pos_iff.mp landing
  exact ⟨event, member, of_decide_eq_true kind⟩

section Spaced

variable (spaced : ∀ draws, 1 ≤ config.sim.duration config.par.interArrival draws)

include spaced

/-- The clock diverges. -/
private theorem exists_later (instant : Int) :
    ∃ first, ∀ time, first ≤ time → instant < (run.state time).simTime := by
  refine ⟨(4 * instant).toNat + 1, fun time after => ?_⟩
  have handled := Reachable.handled_le (run.reachable time)
  have arrived := Reachable.arrivals_le spaced (run.reachable time)
  rw [run_handled] at handled
  omega

/-- Every pending message is handled at last. -/
private theorem eventually_handled {time : Nat} {event : Event}
    (member : event ∈ (run.state time).futureEvents) :
    ∃ later, time ≤ later ∧
      Handles config (run.state later) event (run.state (later + 1)) := by
  obtain ⟨first, diverged⟩ := exists_later run spaced event.time
  have gone : event ∉ (run.state (max time first)).futureEvents := by
    intro pending
    have future := (Reachable.timely (run.reachable (max time first))).pending event pending
    exact absurd (diverged _ (le_max_right time first)) (not_lt.mpr future)
  obtain ⟨later, after, _, kept, lost⟩ :=
    run.exists_lost (fun state => event ∈ state.futureEvents) (le_max_left time first)
      member gone
  obtain ⟨other, handles⟩ := run_handles run later
  by_cases same : event = other
  · exact ⟨later, after, same ▸ handles⟩
  · exact absurd (handles.kept kept same) lost

/-- The departures of a run are bounded, so there is a last take-off. -/
private theorem exists_grounded :
    ∃ first, ∀ time, first ≤ time → (run.state time).Grounded := by
  obtain ⟨first, constant⟩ := run.eventually_constant Network.departedPlanes
    (max 1 config.totalSamples)
    (by
      intro time
      obtain ⟨event, handles⟩ := run_handles run time
      rw [handles.departedPlanes]
      split <;> omega)
    (by
      intro time
      have counted := Reachable.counted (run.reachable time)
      exact (counted.running (run.steps time).running).1.le)
  refine ⟨first, fun time after event member takeoff => ?_⟩
  obtain ⟨later, ordered, handles⟩ := eventually_handled run spaced member
  have departed := handles.departedPlanes
  rw [if_pos takeoff, constant later (after.trans ordered),
    constant (later + 1) ((after.trans ordered).trans (Nat.le_succ later))] at departed
  omega

section Grounded

variable {first : Nat} (grounded : ∀ time, first ≤ time → (run.state time).Grounded)

include grounded

/-- The depart queue cannot be filled: the airplanes ahead of its front would land again
and again. -/
private theorem departQueue_nil {time : Nat} (after : first ≤ time) :
    (run.state time).departQueue = [] := by
  cases queue : (run.state time).departQueue with
  | nil => rfl
  | cons plane rest =>
      have front : ∀ later, time ≤ later →
          plane ∈ (run.state later).departQueue.head? := by
        intro later ordered
        refine run.holds_from (fun state => plane ∈ state.departQueue.head?)
          (by simp [queue]) ?_ ordered
        intro instant reached front
        obtain ⟨event, handles⟩ := run_handles run instant
        have later := after.trans reached
        exact handles.front_stays (grounded instant later event handles.isNext.1)
          (grounded (instant + 1) (later.trans (Nat.le_succ instant))) front
      obtain ⟨start, diverged⟩ := exists_later run spaced plane.queueArrivalTime
      refine (run.not_recurrently_decreasing (Network.ahead plane.queueArrivalTime)
        (max time start) ?_ ?_).elim
      · intro instant reached
        obtain ⟨event, handles⟩ := run_handles run instant
        have past := diverged instant ((le_max_right time start).trans reached)
        exact handles.ahead_le (past.trans_le ((Reachable.timely
          (run.reachable instant)).pending event handles.isNext.1))
      · intro instant reached
        have ordered := (le_max_left time start).trans reached
        have occupied : (run.state instant).landingStripOccupied = true := by
          cases free : (run.state instant).landingStripOccupied with
          | true => rfl
          | false =>
              have empty := ((Reachable.runwayConsistent (run.reachable instant)
                (run.steps instant).running).idle free).2
              have waits := front instant ordered
              rw [empty] at waits
              cases waits
        obtain ⟨event, member, landing⟩ :=
          exists_pending_landing run (grounded instant (after.trans ordered)) occupied
        obtain ⟨later, further, handles⟩ := eventually_handled run spaced member
        exact ⟨later, further, handles.ahead_lt landing
          (grounded (later + 1) ((after.trans (ordered.trans further)).trans
            (Nat.le_succ later)))
          (front later (ordered.trans further))⟩

/-- Nor can it stay empty: the next arrival would land, park and queue. -/
private theorem not_grounded : False := by
  have noParking : ∀ time, first ≤ time → ∀ event ∈ (run.state time).futureEvents,
      event.kind ≠ .parking := by
    intro time after event member parking
    obtain ⟨later, ordered, handles⟩ := eventually_handled run spaced member
    have reached := (after.trans ordered).trans (Nat.le_succ later)
    exact handles.departQueue_ne_nil parking (grounded _ reached)
      (departQueue_nil run spaced grounded reached)
  have noLanding : ∀ time, first ≤ time → ∀ event ∈ (run.state time).futureEvents,
      event.kind ≠ .landing := by
    intro time after event member landing
    obtain ⟨later, ordered, handles⟩ := eventually_handled run spaced member
    obtain ⟨other, isOther, parking⟩ := handles.exists_parking landing
    exact noParking (later + 1) ((after.trans ordered).trans (Nat.le_succ later)) other
      isOther parking
  obtain ⟨event, member, kind⟩ := Reachable.exists_arrival (run.reachable first)
  obtain ⟨later, ordered, handles⟩ := eventually_handled run spaced member
  have free : (run.state later).landingStripOccupied = false := by
    cases occupied : (run.state later).landingStripOccupied with
    | false => rfl
    | true =>
        obtain ⟨other, isOther, landing⟩ :=
          exists_pending_landing run (grounded later ordered) occupied
        exact absurd landing (noLanding later ordered other isOther)
  obtain ⟨other, isOther, landing⟩ := handles.exists_landing kind free
  exact noLanding (later + 1) (ordered.trans (Nat.le_succ later)) other isOther landing

end Grounded

end Spaced

end InfiniteRun

/-! ## Every run ends -/

/-- No run goes on for ever. -/
theorem no_infinite_run (spaced : ∀ draws,
      1 ≤ config.sim.duration config.par.interArrival draws)
    (run : Run (Step config) (initialState config)) : False := by
  obtain ⟨first, grounded⟩ := exists_grounded run spaced
  exact not_grounded run spaced grounded

/-- The event loop of any number of samples ends, whichever simultaneous events it handles
first. -/
theorem loop_ends (spaced : ∀ draws, 1 ≤ config.sim.duration config.par.interArrival draws)
    {loop : Nat → Network} (starts : loop 0 = initialState config)
    (steps : ∀ time, (loop time).ended = false → Step config (loop time) (loop (time + 1))) :
    ∃ last, (loop last).ended = true ∧ Reachable config (loop last) ∧
      ∀ time < last, (loop time).ended = false ∧ Reachable config (loop time) := by
  have ends : ∃ time, (loop time).ended = true := by
    by_contra never
    have going : ∀ time, (loop time).ended = false := by
      intro time
      cases ended : (loop time).ended with
      | false => rfl
      | true => exact absurd ⟨time, ended⟩ never
    exact no_infinite_run spaced ⟨loop, starts, fun time => steps time (going time)⟩
  have going : ∀ time < Nat.find ends, (loop time).ended = false := by
    intro time before
    cases ended : (loop time).ended with
    | false => rfl
    | true => exact absurd ended (Nat.find_min ends before)
  have reachable : ∀ time ≤ Nat.find ends, Reachable config (loop time) := by
    intro time
    induction time with
    | zero =>
        intro _
        rw [starts]
    | succ time ih =>
        intro bounded
        exact (ih (Nat.le_of_succ_le bounded)).tail (steps time (going time bounded))
  exact ⟨Nat.find ends, Nat.find_spec ends, reachable _ le_rfl, fun time before =>
    ⟨going time before, reachable time before.le⟩⟩

/-- No starvation, and termination.  If airplanes arrive at least one tick apart, then the
event loop is never stuck before the end of the simulation, and, whichever simultaneous
events it handles first, it calls `endSimulation` after finitely many events, exactly
once, when exactly `totalSamples` airplanes have departed and as many response times have
been emitted.  The number of samples is at least one and fits an `int`. -/
theorem terminates (spaced : ∀ draws,
      1 ≤ config.sim.duration config.par.interArrival draws)
    (samples : 1 ≤ config.par.totalSamples) (fits : config.par.totalSamples < 2 ^ 31) :
    (∀ state, Reachable config state → state.ended = false →
      ∃ next, Step config state next) ∧
      ∀ loop : Nat → Network, loop 0 = initialState config →
        (∀ time, (loop time).ended = false → Step config (loop time) (loop (time + 1))) →
        ∃ last, (loop last).ended = true ∧
          (∀ time < last, (loop time).ended = false ∧
            (loop time).trace.countP (fun record => record.call = .endSimulation) = 0) ∧
          (loop last).trace.countP (fun record => record.call = .endSimulation) = 1 ∧
          (loop last).departedPlanes = config.par.totalSamples ∧
          ((loop last).samples .airportResponseTime).length = config.par.totalSamples := by
  refine ⟨fun state reachable => Reachable.exists_step reachable, ?_⟩
  intro loop starts steps
  obtain ⟨last, ended, reachable, before⟩ := loop_ends spaced starts steps
  have counted := Reachable.counted reachable
  obtain ⟨departed, once⟩ := counted.ended ended
  have all : (loop last).departedPlanes = config.par.totalSamples := by
    rw [departed, config.totalSamples_eq_of_lt (Int.one_pos.le.trans samples) fits,
      max_eq_right samples]
  refine ⟨last, ended, ?_, once, all, counted.responses.trans all⟩
  intro time earlier
  obtain ⟨going, reached⟩ := before time earlier
  exact ⟨going, ((Reachable.counted reached).running going).2⟩

/-- An overloaded runway: each airplane needs it four times as long as it takes for the
next one to arrive. -/
theorem terminates_overload :
    let config := Ini.deterministic 1 2 3 2 4 0
    (∀ state, Reachable config state → state.ended = false →
      ∃ next, Step config state next) ∧
      ∀ loop : Nat → Network, loop 0 = initialState config →
        (∀ time, (loop time).ended = false → Step config (loop time) (loop (time + 1))) →
        ∃ last, (loop last).ended = true ∧
          (∀ time < last, (loop time).ended = false ∧
            (loop time).trace.countP (fun record => record.call = .endSimulation) = 0) ∧
          (loop last).trace.countP (fun record => record.call = .endSimulation) = 1 ∧
          (loop last).departedPlanes = config.par.totalSamples ∧
          ((loop last).samples .airportResponseTime).length = config.par.totalSamples :=
  terminates (fun draws => by
    have constant : (Ini.deterministic 1 2 3 2 4 0).sim.duration
        (Ini.deterministic 1 2 3 2 4 0).par.interArrival draws = _ :=
      Omnetpp.duration_of_constant _ rfl draws
    rw [constant]
    decide) (by decide) (by decide)

/-- The same runway with a number of samples one greater than `2 ^ 32`.  The member is one, so
the first departure ends the run, and no state of a run has as many departures as asked for. -/
theorem terminates_early :
    let config := Ini.deterministic 1 2 3 2 4294967297 0
    1 ≤ config.par.totalSamples ∧
      (∀ draws, 1 ≤ config.sim.duration config.par.interArrival draws) ∧
      (eventLoop config 30).ended = true ∧ (eventLoop config 30).departedPlanes = 1 ∧
      ∀ state, Reachable config state → state.departedPlanes ≠ config.par.totalSamples := by
  intro config
  refine ⟨by decide, ?_, by decide, by decide, ?_⟩
  · intro draws
    have constant : config.sim.duration config.par.interArrival draws = _ :=
      Omnetpp.duration_of_constant _ rfl draws
    rw [constant]
    decide
  · intro state reachable
    have member : config.totalSamples = 1 := by decide
    have asked : config.par.totalSamples = 4294967297 := rfl
    have counted := Reachable.counted reachable
    have few : state.departedPlanes ≤ 1 := by
      cases ended : state.ended with
      | false => exact (member ▸ (counted.running ended).1).le
      | true => exact (member ▸ (counted.ended ended).1).le
    omega

end AirTrafficControl
