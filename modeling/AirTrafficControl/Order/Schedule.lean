import AirTrafficControl.Library.Earliest
import AirTrafficControl.Safety.Conservation
import AirTrafficControl.Safety.Runway

/-!
# The event loop, round by round

`eventLoop` handles simultaneous messages in the order in which they were scheduled.  With a
constant parking time the messages of each kind are handled in that order too, whatever their
times: the event set never holds two of another kind, and the parking times run out in the
order in which they began.
-/

namespace AirTrafficControl

variable {config : Config} {state next : Network} {event : Event}

/-! ## Rounds -/

theorem eventLoop_stopped {count : Nat} (ended : (eventLoop config count).ended = true) :
    eventLoop config (count + 1) = eventLoop config count := by
  rw [eventLoop, ended]
  rfl

/-- A round before the end handles the next event. -/
theorem eventLoop_step {count : Nat} (running : (eventLoop config count).ended = false) :
    ∃ event, (eventLoop config count).nextEvent = some event ∧
      Transition config ((eventLoop config count).take event) event
        (eventLoop config (count + 1)) := by
  have reachable := eventLoop_reachable config count
  obtain ⟨event, isNext⟩ := Reachable.exists_nextEvent reachable
  obtain ⟨next, delivered, transition⟩ :=
    deliver_spec config (Reachable.timely reachable).queuesTimed event
  refine ⟨event, isNext, ?_⟩
  have following : eventLoop config (count + 1) = next := by
    rw [eventLoop, running, isNext, Option.bind_some, delivered]
    rfl
  rw [following]
  exact transition

/-- Invariant rule for the event loop: a step may use that it handles the first scheduled
message among those with the least time. -/
theorem eventLoop_invariant (property : Network → Prop)
    (initially : property (initialState config))
    (preserved : ∀ source event target, Reachable config source →
      source.ended = false → source.nextEvent = some event → property source →
      Transition config (source.take event) event target → property target)
    (count : Nat) : property (eventLoop config count) := by
  induction count with
  | zero => exact initially
  | succ count ih =>
      cases ended : (eventLoop config count).ended with
      | true =>
          rw [eventLoop_stopped ended]
          exact ih
      | false =>
          obtain ⟨event, isNext, transition⟩ := eventLoop_step ended
          exact preserved _ event _ (eventLoop_reachable config count) ended isNext ih
            transition

/-! ## The messages of one kind -/

namespace Network

/-- The pending messages of a kind, in the order in which they were scheduled. -/
def ofKind (state : Network) (kind : Kind) : List Event :=
  state.futureEvents.filter fun event => event.kind = kind

theorem ofKind_append {role : Kind}
    (appended : next.futureEvents = state.futureEvents ++ [event])
    (isRole : event.kind = role) (kind : Kind) :
    next.ofKind kind = state.ofKind kind ++ if role = kind then [event] else [] := by
  rw [ofKind, appended, List.filter_append, List.filter_singleton, isRole, ofKind]
  by_cases same : role = kind <;> simp [same]

theorem length_ofKind (kind : Kind) : (state.ofKind kind).length = state.pending kind :=
  List.countP_eq_length_filter.symm

/-- Messages of one kind are handled in the order in which they were scheduled. -/
structure Queued (state : Network) (kind : Kind) : Prop where
  sorted : (state.ofKind kind).Pairwise fun earlier later => earlier.time ≤ later.time

/-- The next event is the first message of its kind. -/
theorem Queued.take {kind : Kind} (queued : state.Queued event.kind)
    (isNext : state.nextEvent = some event) :
    state.ofKind kind =
      (if event.kind = kind then [event] else []) ++ (state.take event).ofKind kind := by
  obtain ⟨before, after, split, earlier, -⟩ := Earliest.split_of_minOn? isNext
  have first : before.filter (fun other => other.kind = event.kind) = [] := by
    apply List.filter_eq_nil_iff.mpr
    intro other member same
    have ordered := queued.sorted
    rw [ofKind, split, List.filter_append, List.pairwise_append] at ordered
    have late := ordered.2.2 other (List.mem_filter.mpr ⟨member, same⟩) event (by simp)
    exact absurd late (not_le.mpr (earlier other member))
  have rest : (state.take event).futureEvents = before ++ after := by
    rw [Network.take, split]
    exact Earliest.erase_split earlier
  rw [ofKind, ofKind, rest, split, List.filter_append, List.filter_append,
    List.filter_cons]
  by_cases same : event.kind = kind
  · subst same
    simp [first]
  · simp [same]

/-- There is at most one message of the kind. -/
theorem Queued.of_pending {kind : Kind} (few : state.pending kind ≤ 1) :
    state.Queued kind := by
  constructor
  rw [← length_ofKind] at few
  cases messages : state.ofKind kind with
  | nil => exact .nil
  | cons first rest =>
      rw [messages, List.length_cons] at few
      have none : rest = [] := List.eq_nil_of_length_eq_zero (by omega)
      rw [none]
      exact List.pairwise_singleton _ _

end Network

/-! ## Constant parking times -/

/-- Parking times run out in the order in which they began, none later than one that begins
now. -/
structure Network.Parked (state : Network) (stay : Int) : Prop where
  sorted : (state.ofKind .parking).Pairwise fun earlier later => earlier.time ≤ later.time
  bounded : ∀ event ∈ state.ofKind .parking, event.time ≤ state.simTime + stay

namespace Network.Parked

variable {stay : Int}

private theorem unchanged (parked : state.Parked stay)
    (same : next.ofKind .parking = state.ofKind .parking)
    (now : next.simTime = state.simTime) : next.Parked stay := by
  constructor
  · rw [same]
    exact parked.sorted
  · rw [same, now]
    exact parked.bounded

private theorem append (parked : state.Parked stay) {role : Kind}
    (appended : next.futureEvents = state.futureEvents ++ [event])
    (isRole : event.kind = role) (other : role ≠ .parking)
    (now : next.simTime = state.simTime) : next.Parked stay := by
  refine parked.unchanged ?_ now
  rw [Network.ofKind_append appended isRole, if_neg other, List.append_nil]

theorem park (constant : config.par.isParkingTimeRandom = false)
    (parked : state.Parked (config.sim.simtime config.par.parkingTime)) (plane : Airplane) :
    (state.park config plane).Parked (config.sim.simtime config.par.parkingTime) := by
  have lasts : config.sim.duration config.par.parking state.rngDraws =
      config.sim.simtime config.par.parkingTime :=
    config.sim.duration_of_constant constant state.rngDraws
  have appended : (state.park config plane).ofKind .parking = state.ofKind .parking ++
      [⟨state.simTime + config.sim.simtime config.par.parkingTime, .parkingArea, true,
        plane⟩] := by
    rw [← lasts]
    exact Network.ofKind_append rfl (kind_parking _ _) .parking
  constructor
  · rw [appended]
    refine List.pairwise_append.mpr
      ⟨parked.sorted, List.pairwise_singleton _ _, ?_⟩
    intro earlier before later isNew
    rw [List.mem_singleton.mp isNew]
    exact parked.bounded earlier before
  · rw [appended]
    intro other member
    rcases List.mem_append.mp member with before | isNew
    · exact parked.bounded other before
    · rw [List.mem_singleton.mp isNew]
      exact le_rfl

theorem completed (parked : state.Parked stay) (completed : Completed config state next) :
    next.Parked stay := by
  cases completed with
  | idle => exact ⟨parked.sorted, parked.bounded⟩
  | land =>
      refine append ?_ rfl (kind_landing _ _) (by decide) rfl
      exact ⟨parked.sorted, parked.bounded⟩
  | takeOff =>
      refine append ?_ rfl (kind_takeoff _ _) (by decide) rfl
      exact ⟨parked.sorted, parked.bounded⟩

theorem take (parked : state.Parked stay) (isNext : state.Next event)
    (timely : Timely state) : (state.take event).Parked stay := by
  have kept : List.Sublist ((state.take event).ofKind .parking) (state.ofKind .parking) :=
    List.erase_sublist.filter _
  constructor
  · exact parked.sorted.sublist kept
  · intro other member
    have now : state.simTime ≤ event.time := timely.pending event isNext.1
    have bounded := parked.bounded other (kept.subset member)
    show other.time ≤ event.time + stay
    omega

theorem scheduleNext (parked : state.Parked stay) :
    (Airspace.scheduleNext config state).Parked stay :=
  parked.append rfl (kind_arrival _ _) (by decide) rfl

theorem transition (constant : config.par.isParkingTimeRandom = false)
    (parked : state.Parked (config.sim.simtime config.par.parkingTime))
    (transition : Transition config state event next) :
    next.Parked (config.sim.simtime config.par.parkingTime) := by
  cases transition with
  | landNow =>
      apply scheduleNext
      refine append ?_ rfl (kind_landing _ _) (by decide) rfl
      exact ⟨parked.sorted, parked.bounded⟩
  | hold =>
      apply scheduleNext
      exact ⟨parked.sorted, parked.bounded⟩
  | takeOffNow =>
      refine append ?_ rfl (kind_takeoff _ _) (by decide) rfl
      exact ⟨parked.sorted, parked.bounded⟩
  | queue => exact ⟨parked.sorted, parked.bounded⟩
  | landed _ completed => exact (park constant parked event.airplane).completed completed
  | left _ _ completed =>
      have departed : (state.depart event.airplane).Parked _ :=
        ⟨parked.sorted, parked.bounded⟩
      exact departed.completed completed
  | finished => exact ⟨parked.sorted, parked.bounded⟩

end Network.Parked

theorem Reachable.parked (constant : config.par.isParkingTimeRandom = false)
    (reachable : Reachable config state) :
    state.Parked (config.sim.simtime config.par.parkingTime) := by
  refine Reachable.invariant
    (fun state => state.Parked (config.sim.simtime config.par.parkingTime))
    ⟨.nil, fun _ member => absurd member List.not_mem_nil⟩ ?_ reachable
  intro source event target reached _ isNext parked transition
  exact (parked.take isNext (Reachable.timely reached)).transition constant transition

/-- With a constant parking time the messages of every kind wait in order. -/
theorem Reachable.queued (constant : config.par.isParkingTimeRandom = false)
    (reachable : Reachable config state) (running : state.ended = false) (kind : Kind) :
    state.Queued kind := by
  have runway : state.pending .landing + state.pending .takeoff ≤ 1 := by
    rw [← Network.runwayMessages, (Reachable.runwayConsistent reachable running).pending]
    split <;> omega
  cases kind with
  | arrival => exact .of_pending (Reachable.conserved reachable).arriving.le
  | landing => exact .of_pending (by omega)
  | parking => exact ⟨(Reachable.parked constant reachable).sorted⟩
  | takeoff => exact .of_pending (by omega)

end AirTrafficControl
