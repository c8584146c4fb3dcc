import AirTrafficControl.Liveness.Progress
import AirTrafficControl.Order.Schedule
import AirTrafficControl.Statistics.Log

/-!
# The rounds of a run

What holds between an earlier and a later round of the event loop, and how long a run
lasts at least: it has as many rounds as samples.
-/

namespace AirTrafficControl

variable {config : Config} {state next : Network} {event : Event}

/-! ## The end of a run -/

/-- Only the last take-off ends a run. -/
theorem Transition.running (transition : Transition config state event next)
    (running : state.ended = false)
    (more : event.kind = .takeoff → state.departedPlanes + 1 < config.totalSamples) :
    next.ended = false := by
  cases transition with
  | landNow | hold | takeOffNow | queue => exact running
  | landed _ completed | left _ _ completed => cases completed <;> exact running
  | finished kind last => exact absurd (more kind) (not_lt.mpr last)

/-- The event that ends a run leaves no sample of a wait. -/
theorem Transition.trace_or (transition : Transition config state event next)
    (running : state.ended = false) :
    next.ended = false ∨ ∃ calls, next.trace = calls ++ state.trace ∧
      ∀ record ∈ calls, ∀ (module : SimpleModule) (wait : Int),
        record.call ≠ .emit module.waitingTime wait := by
  by_cases more : event.kind = .takeoff →
      state.departedPlanes + 1 < config.totalSamples
  · exact .inl (transition.running running more)
  · obtain ⟨takeoff, last⟩ := Classical.not_imp.mp more
    cases transition with
    | landNow kind | hold kind | takeOffNow kind | queue kind | landed kind =>
        exact absurd (kind.symm.trans takeoff) (by decide)
    | left _ more => exact absurd more last
    | finished =>
        refine .inr ⟨[_, _, _, _], rfl, ?_⟩
        simp only [List.forall_mem_cons, List.not_mem_nil, false_imp_iff, implies_true,
          and_true]
        refine ⟨?_, ?_, ?_, ?_⟩ <;> (intro module wait; cases module <;> simp
          [SimpleModule.waitingTime])

/-- A take-off that does not end a run is not the last one. -/
theorem Transition.more (transition : Transition config state event next)
    (running : next.ended = false) (takeoff : event.kind = .takeoff) :
    state.departedPlanes + 1 < config.totalSamples := by
  cases transition with
  | landNow kind | hold kind | takeOffNow kind | queue kind | landed kind =>
      exact absurd (kind.symm.trans takeoff) (by decide)
  | left _ more => exact more
  | finished => cases running

/-! ## Earlier and later rounds -/

theorem eventLoop_handles {count : Nat} (running : (eventLoop config count).ended = false) :
    ∃ event, Handles config (eventLoop config count) event
      (eventLoop config (count + 1)) := by
  obtain ⟨event, isNext, transition⟩ := eventLoop_step running
  exact ⟨event, Network.nextEvent_next isNext, transition⟩

/-- What an event leaves between two states, a run leaves between an earlier and a later
round. -/
theorem eventLoop_of_le (related : Network → Network → Prop)
    (refl : ∀ state, related state state)
    (trans : ∀ first second third, related first second → related second third →
      related first third)
    (preserved : ∀ source event target, source.ended = false →
      Handles config source event target → related source target)
    {first last : Nat} (ordered : first ≤ last) :
    related (eventLoop config first) (eventLoop config last) := by
  induction last, ordered using Nat.le_induction with
  | base => exact refl _
  | succ last _ ih =>
      cases ended : (eventLoop config last).ended with
      | true =>
          rw [eventLoop_stopped ended]
          exact ih
      | false =>
          obtain ⟨event, handles⟩ := eventLoop_handles ended
          exact trans _ _ _ ih (preserved _ event _ ended handles)

section Ordered

variable {first last : Nat} (ordered : first ≤ last)

include ordered

/-- A run that has not ended had not ended before. -/
theorem eventLoop_running_of_le (running : (eventLoop config last).ended = false) :
    (eventLoop config first).ended = false := by
  refine eventLoop_of_le (fun source target => target.ended = false → source.ended = false)
    (fun _ running => running) (fun _ _ _ before after running => before (after running)) ?_
    ordered running
  intro source event target running _ _
  exact running

theorem eventLoop_created_le :
    (eventLoop config first).created ≤ (eventLoop config last).created := by
  refine eventLoop_of_le (fun source target => source.created ≤ target.created)
    (fun _ => le_rfl) (fun _ _ _ before after => before.trans after) ?_ ordered
  intro source event target _ handles
  rw [handles.created]
  exact Nat.le_add_right _ _

theorem eventLoop_trace_subset :
    (eventLoop config first).trace ⊆ (eventLoop config last).trace := by
  refine eventLoop_of_le (fun source target => source.trace ⊆ target.trace)
    (fun _ => List.Subset.refl _) (fun _ _ _ => List.Subset.trans) ?_ ordered
  intro source event target _ handles
  obtain ⟨calls, trace, -⟩ := (Network.Logs.transition handles.transition).calls
  rw [trace]
  exact List.subset_append_right _ _

end Ordered

/-! ## The number of rounds -/

theorem eventLoop_departedPlanes_le (config : Config) (count : Nat) :
    (eventLoop config count).departedPlanes ≤ count := by
  induction count with
  | zero => exact le_rfl
  | succ count ih =>
      push_cast
      cases ended : (eventLoop config count).ended with
      | true =>
          rw [eventLoop_stopped ended]
          omega
      | false =>
          obtain ⟨event, handles⟩ := eventLoop_handles ended
          rw [handles.departedPlanes]
          split <;> omega

/-- A run has at least as many rounds as samples. -/
theorem eventLoop_running {count : Nat} (early : (count : Int) < config.totalSamples) :
    (eventLoop config count).ended = false := by
  induction count with
  | zero => rfl
  | succ count ih =>
      push_cast at early
      have running := ih (by omega)
      have departed := eventLoop_departedPlanes_le config count
      obtain ⟨event, _, transition⟩ := eventLoop_step running
      exact transition.running running fun _ => by
        show (eventLoop config count).departedPlanes + 1 < _
        omega

/-- Every round before the end handles one event. -/
theorem eventLoop_handled {count : Nat}
    (running : (eventLoop config count).ended = false) :
    (eventLoop config count).handled = count := by
  induction count with
  | zero => rfl
  | succ count ih =>
      have before := eventLoop_running_of_le (Nat.le_succ count) running
      obtain ⟨event, handles⟩ := eventLoop_handles before
      rw [handles.handled, ih before]
      rfl

end AirTrafficControl
