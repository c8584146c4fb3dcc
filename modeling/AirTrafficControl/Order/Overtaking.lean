import AirTrafficControl.Library.Tandem
import AirTrafficControl.Order.Schedule

/-!
# No overtaking

An airplane passes seven milestones between its arrival and its departure.  Between two of
them it waits in a queue or as a message in the event set.  With a constant parking time all
of these places are first come, first served, so every milestone is passed in the order of
the arrivals.
-/

namespace AirTrafficControl

variable {config : Config} {state next : Network} {event : Event}

/-- What every airplane does once: it arrives, starts to land, begins and ends its parking
time, starts to take off, and leaves the system with a sample of its response time. -/
inductive Milestone where
  | arrives
  | lands
  | parks
  | asks
  | takesOff
  | responds
  | leaves
  deriving DecidableEq, Repr

/-- The call that marks a milestone. -/
def Milestone.reached : Milestone → Record → Bool
  | .arrives, ⟨_, .airspace, _, .notify⟩ => true
  | .lands, ⟨_, .airspace, _, .sendDelayed _⟩ => true
  | .parks, ⟨_, .parkingArea, _, .scheduleAt _⟩ => true
  | .asks, ⟨_, .parkingArea, _, .notify⟩ => true
  | .takesOff, ⟨_, .parkingArea, _, .sendDelayed _⟩ => true
  | .responds, ⟨_, _, _, .emit .airportResponseTime _⟩ => true
  | .leaves, ⟨_, _, _, .delete⟩ => true
  | _, _ => false

/-- How many places lie behind a milestone. -/
def Milestone.place : Milestone → Nat
  | .responds | .leaves => 0
  | .takesOff => 1
  | .asks => 2
  | .parks => 3
  | .lands => 4
  | .arrives => 5

namespace Network

/-- The airplanes that have passed a milestone, latest first. -/
def passed (state : Network) (milestone : Milestone) : List Nat :=
  (state.trace.filter milestone.reached).map Record.plane

/-- The airplanes of the pending messages of a kind. -/
def planes (state : Network) (kind : Kind) : List Nat :=
  (state.ofKind kind).map fun event => event.airplane.id

/-- The places of the airplanes, those nearest to their departure first. -/
def line (state : Network) : List (List Nat) :=
  [state.planes .takeoff, state.departQueue.map Airplane.id, state.planes .parking,
    state.planes .landing, state.holdingQueue.map Airplane.id, state.planes .arrival]

/-- The milestones of a state as gates in a row. -/
def row (state : Network) : Tandem.Row Milestone Nat where
  passed := state.passed
  before milestone := (state.line.drop milestone.place).flatten

/-- All milestones are passed in the order in which the airplanes were created. -/
def InOrder (state : Network) : Prop :=
  state.row.InOrder (List.range state.created)

theorem planes_append {role : Kind}
    (appended : next.futureEvents = state.futureEvents ++ [event])
    (isRole : event.kind = role) (kind : Kind) :
    next.planes kind =
      state.planes kind ++ if role = kind then [event.airplane.id] else [] := by
  rw [planes, ofKind_append appended isRole, List.map_append, planes]
  by_cases same : role = kind <;> simp [same]

/-- The next event is the first of its kind. -/
theorem Queued.planes_take (queued : state.Queued event.kind)
    (isNext : state.nextEvent = some event) (kind : Kind) :
    state.planes kind = (if event.kind = kind then [event.airplane.id] else []) ++
      (state.take event).planes kind := by
  rw [planes, queued.take isNext, List.map_append, planes]
  by_cases same : event.kind = kind <;> simp [same]

/-- The places when a message has entered the event set and the queues have changed. -/
theorem line_append (before : Network) (plane : Nat) (departing holding : List Airplane)
    {role : Kind} (appended : next.futureEvents = before.futureEvents ++ [event])
    (isRole : event.kind = role) (isPlane : event.airplane.id = plane)
    (departs : next.departQueue = departing) (holds : next.holdingQueue = holding) :
    next.line =
      [before.planes .takeoff ++ if role = .takeoff then [plane] else [],
        departing.map Airplane.id,
        before.planes .parking ++ if role = .parking then [plane] else [],
        before.planes .landing ++ if role = .landing then [plane] else [],
        holding.map Airplane.id,
        before.planes .arrival ++ if role = .arrival then [plane] else []] := by
  simp only [line, planes_append appended isRole, isPlane, departs, holds]

/-- The places when only the queues have changed. -/
theorem line_queues (before : Network) (departing holding : List Airplane)
    (same : next.futureEvents = before.futureEvents)
    (departs : next.departQueue = departing) (holds : next.holdingQueue = holding) :
    next.line =
      [before.planes .takeoff, departing.map Airplane.id, before.planes .parking,
        before.planes .landing, holding.map Airplane.id, before.planes .arrival] := by
  simp only [line, planes, ofKind, same, departs, holds]

/-- The places before the next event is taken out of the event set. -/
theorem Queued.line_take (queued : state.Queued event.kind)
    (isNext : state.nextEvent = some event) :
    state.line =
      [(if event.kind = .takeoff then [event.airplane.id] else []) ++
          (state.take event).planes .takeoff,
        state.departQueue.map Airplane.id,
        (if event.kind = .parking then [event.airplane.id] else []) ++
          (state.take event).planes .parking,
        (if event.kind = .landing then [event.airplane.id] else []) ++
          (state.take event).planes .landing,
        state.holdingQueue.map Airplane.id,
        (if event.kind = .arrival then [event.airplane.id] else []) ++
          (state.take event).planes .arrival] := by
  simp only [line, queued.planes_take isNext]

end Network

/-! ## Every part of a handler lets the first airplane through -/

namespace Network.InOrder

/-- One airplane passes the milestones whose calls are noted down. -/
private theorem cross (inOrder : state.InOrder) (plane : Nat) (opened : List Milestone)
    {line later : List (List Nat)} (same : next.created = state.created)
    (passed : ∀ milestone, next.passed milestone =
      if milestone ∈ opened then plane :: state.passed milestone
      else state.passed milestone)
    (before : state.line = line) (after : next.line = later)
    (through : ∀ milestone : Milestone, (line.drop milestone.place).flatten =
      if milestone ∈ opened then plane :: (later.drop milestone.place).flatten
      else (later.drop milestone.place).flatten) : next.InOrder := by
  subst before after
  unfold Network.InOrder at inOrder ⊢
  rw [same]
  suffices moves : state.row.Moves next.row plane opened from inOrder.moves moves
  constructor
  · intro milestone isOpen
    have crosses := passed milestone
    have first := through milestone
    rw [if_pos isOpen] at crosses first
    exact ⟨crosses, first⟩
  · intro milestone closed
    have crosses := passed milestone
    have first := through milestone
    rw [if_neg closed] at crosses first
    exact ⟨crosses, first.symm⟩

/-- The next airplane comes last. -/
private theorem scheduleNext (inOrder : state.InOrder) :
    (Airspace.scheduleNext config state).InOrder := by
  unfold Network.InOrder at inOrder ⊢
  have created : (Airspace.scheduleNext config state).created = state.created + 1 := rfl
  rw [created, List.range_succ]
  refine inOrder.enters ?_ ?_
  · intro milestone
    cases milestone <;> rfl
  · intro milestone
    have later : (Airspace.scheduleNext config state).line = _ :=
      Network.line_append state state.created state.departQueue state.holdingQueue rfl
        (kind_arrival _ _) rfl rfl rfl
    simp only [Network.row, later]
    cases milestone <;> simp [Network.line, Milestone.place]

private theorem completed (inOrder : state.InOrder)
    (completed : Completed config state next) : next.InOrder := by
  cases completed with
  | idle => exact inOrder
  | @land plane rest front =>
      refine inOrder.cross plane.id [.lands] rfl ?_ rfl
        (Network.line_append state plane.id state.departQueue rest rfl (kind_landing _ _)
          rfl rfl rfl) ?_
      · intro milestone
        cases milestone <;> rfl
      · intro milestone
        cases milestone <;> simp [Network.line, Milestone.place, front]
  | @takeOff plane rest front =>
      refine inOrder.cross plane.id [.takesOff] rfl ?_ rfl
        (Network.line_append state plane.id rest state.holdingQueue rfl (kind_takeoff _ _)
          rfl rfl rfl) ?_
      · intro milestone
        cases milestone <;> rfl
      · intro milestone
        cases milestone <;> simp [Network.line, Milestone.place, front]

theorem transition (inOrder : state.InOrder) (queued : state.Queued event.kind)
    (isNext : state.nextEvent = some event)
    (idle : state.landingStripOccupied = false →
      state.holdingQueue = [] ∧ state.departQueue = [])
    (transition : Transition config (state.take event) event next) : next.InOrder := by
  have before := queued.line_take isNext
  cases transition with
  | landNow kind free =>
      apply scheduleNext
      refine inOrder.cross event.airplane.id [.arrives, .lands] rfl ?_ before
        (Network.line_append (state.take event) event.airplane.id state.departQueue
          state.holdingQueue rfl (kind_landing _ _) rfl rfl rfl) ?_
      · intro milestone
        cases milestone <;> rfl
      · intro milestone
        cases milestone <;> simp [Milestone.place, kind, (idle free).1]
  | hold kind =>
      apply scheduleNext
      refine inOrder.cross event.airplane.id [.arrives] rfl ?_ before
        (Network.line_queues (state.take event) state.departQueue 
          (state.holdingQueue ++ [⟨event.airplane.id, event.time, event.time⟩]) rfl rfl rfl) ?_
      · intro milestone
        cases milestone <;> rfl
      · intro milestone
        cases milestone <;> simp [Milestone.place, kind]
  | takeOffNow kind free =>
      refine inOrder.cross event.airplane.id [.asks, .takesOff] rfl ?_ before
        (Network.line_append (state.take event) event.airplane.id state.departQueue
          state.holdingQueue rfl (kind_takeoff _ _) rfl rfl rfl) ?_
      · intro milestone
        cases milestone <;> rfl
      · intro milestone
        cases milestone <;> simp [Milestone.place, kind, (idle free).2]
  | queue kind =>
      refine inOrder.cross event.airplane.id [.asks] rfl ?_ before
        (Network.line_queues (state.take event) 
          (state.departQueue ++ [{ event.airplane with queueArrivalTime := event.time }])
          state.holdingQueue rfl rfl rfl) ?_
      · intro milestone
        cases milestone <;> rfl
      · intro milestone
        cases milestone <;> simp [Milestone.place, kind]
  | landed kind completed =>
      refine InOrder.completed ?_ completed
      refine inOrder.cross event.airplane.id [.parks] rfl ?_ before
        (Network.line_append (state.take event) event.airplane.id state.departQueue
          state.holdingQueue rfl (kind_parking _ _) rfl rfl rfl) ?_
      · intro milestone
        cases milestone <;> rfl
      · intro milestone
        cases milestone <;> simp [Milestone.place, kind]
  | left kind _ completed =>
      refine InOrder.completed ?_ completed
      refine inOrder.cross event.airplane.id [.responds, .leaves] rfl ?_ before
        (Network.line_queues (state.take event) state.departQueue 
          state.holdingQueue rfl rfl rfl) ?_
      · intro milestone
        cases milestone <;> rfl
      · intro milestone
        cases milestone <;> simp [Milestone.place, kind]
  | finished kind =>
      refine inOrder.cross event.airplane.id [.responds, .leaves] rfl ?_ before
        (Network.line_queues (state.take event) state.departQueue 
          state.holdingQueue rfl rfl rfl) ?_
      · intro milestone
        cases milestone <;> rfl
      · intro milestone
        cases milestone <;> simp [Milestone.place, kind]

end Network.InOrder

/-! ## The event loop -/

theorem eventLoop_inOrder (constant : config.par.isParkingTimeRandom = false)
    (count : Nat) : (eventLoop config count).InOrder := by
  refine eventLoop_invariant Network.InOrder ?_ ?_ count
  · have blank : Network.blank.InOrder := by
      intro milestone
      cases milestone <;> rfl
    have started : (Airspace.scheduleNext config .blank).InOrder := blank.scheduleNext
    intro milestone
    have ordered := started milestone
    cases milestone <;> exact ordered
  · intro source event target reached running isNext inOrder transition
    exact inOrder.transition (Reachable.queued constant reached running event.kind) isNext
      (Reachable.runwayConsistent reached running).idle transition

/-- No overtaking.  With a constant parking time the airplanes pass every milestone in the
order in which they arrive, and each sample of the response time belongs to the arrival with
the same number. -/
theorem no_overtaking (constant : config.par.isParkingTimeRandom = false) (count : Nat) :
    let state := eventLoop config count
    (∀ milestone, (state.passed milestone).reverse <+: (state.passed .arrives).reverse) ∧
      ∀ (number plane : Nat), (state.passed .responds).reverse[number]? = some plane →
        (state.passed .arrives).reverse[number]? = some plane := by
  have inOrder := eventLoop_inOrder constant count
  have behind : ∀ milestone,
      ((eventLoop config count).passed milestone).reverse <+:
        ((eventLoop config count).passed .arrives).reverse := by
    intro milestone
    apply inOrder.prefix_of_suffix
    obtain ⟨between, split⟩ := List.drop_suffix
      (Milestone.place .arrives - milestone.place)
      ((eventLoop config count).line.drop milestone.place)
    have last : milestone.place + (Milestone.place .arrives - milestone.place) =
        Milestone.place .arrives := by
      cases milestone <;> rfl
    rw [List.drop_drop, last] at split
    refine ⟨between.flatten, ?_⟩
    simp only [Network.row]
    rw [← List.flatten_append, split]
  refine ⟨behind, ?_⟩
  intro number plane sample
  obtain ⟨later, split⟩ := behind .responds
  rw [← split, List.getElem?_append_left (List.getElem?_eq_some_iff.mp sample).1]
  exact sample

/-- A run in which landings take no time and messages are often simultaneous. -/
theorem no_overtaking_instant :
    let state := eventLoop (Ini.deterministic 1 0 2 1 5 0) 24
    (∀ milestone, (state.passed milestone).reverse <+: (state.passed .arrives).reverse) ∧
      ∀ (number plane : Nat), (state.passed .responds).reverse[number]? = some plane →
        (state.passed .arrives).reverse[number]? = some plane :=
  no_overtaking rfl 24

end AirTrafficControl
