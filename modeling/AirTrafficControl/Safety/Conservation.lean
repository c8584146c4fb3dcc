import AirTrafficControl.Safety.Pending
import AirTrafficControl.Safety.Itinerary
import AirTrafficControl.Model.Ini

/-!
# Conservation of airplanes

Every airplane that has arrived and has not been deleted is in exactly one place: a queue,
the runway, or the parking area.  The counters `numParked` and `departedPlanes` agree with
the event set and with the number of arrivals.
-/

namespace AirTrafficControl

variable {config : Config} {state next : Network}

/-- `Airspace` asks for the runway when it handles an arrival. -/
def Record.isArrival (record : Record) : Bool :=
  record.module = .airspace ∧ record.call = .notify

section IsArrival

variable (time : Int) (module : SimpleModule) (plane : Nat)

@[simp] theorem isArrival_notify :
    Record.isArrival ⟨time, module, plane, .notify⟩ = decide (module = .airspace) := by
  simp [Record.isArrival]

@[simp] theorem isArrival_sendDelayed (delay : Int) :
    Record.isArrival ⟨time, module, plane, .sendDelayed delay⟩ = false := by
  simp [Record.isArrival]

@[simp] theorem isArrival_scheduleAt (target : Int) :
    Record.isArrival ⟨time, module, plane, .scheduleAt target⟩ = false := by
  simp [Record.isArrival]

@[simp] theorem isArrival_emit (signal : Signal) (value : Int) :
    Record.isArrival ⟨time, module, plane, .emit signal value⟩ = false := by
  simp [Record.isArrival]

@[simp] theorem isArrival_delete :
    Record.isArrival ⟨time, module, plane, .delete⟩ = false := by
  simp [Record.isArrival]

@[simp] theorem isArrival_endSimulation :
    Record.isArrival ⟨time, module, plane, .endSimulation⟩ = false := by
  simp [Record.isArrival]

end IsArrival

/-- The number of arrivals handled so far. -/
def Network.arrivals (state : Network) : Nat := state.trace.countP Record.isArrival

/-- The counters agree with the places of the airplanes. -/
structure Conserved (state : Network) : Prop where
  created : state.created = state.arrivals + 1
  placed : (state.arrivals : Int) = state.holdingQueue.length + state.pending .landing +
    state.numParked + state.departQueue.length + state.pending .takeoff +
    state.departedPlanes
  parked : state.numParked = state.pending .parking
  arriving : state.pending .arrival = 1

namespace Conserved

theorem completed (conserved : Conserved state)
    (completed : Completed config state next) : Conserved next := by
  obtain ⟨created, placed, parked, arriving⟩ := conserved
  cases completed with
  | idle => exact ⟨created, placed, parked, arriving⟩
  | @land plane rest front =>
      rw [front, List.length_cons] at placed
      constructor
      · simpa [Network.arrivals, Airspace.land_eq] using created
      · rw [Network.pending_land, Network.pending_land]
        simp only [Network.arrivals, Network.pending, Airspace.land_eq] at placed ⊢
        simp at placed ⊢
        omega
      · rw [Network.pending_land]
        exact parked
      · rw [Network.pending_land]
        exact arriving
  | @takeOff plane rest front =>
      rw [front, List.length_cons] at placed
      constructor
      · simpa [Network.arrivals, ParkingArea.takeOff_eq] using created
      · rw [Network.pending_takeOff, Network.pending_takeOff]
        simp only [Network.arrivals, Network.pending, ParkingArea.takeOff_eq] at placed ⊢
        simp at placed ⊢
        omega
      · rw [Network.pending_takeOff]
        exact parked
      · rw [Network.pending_takeOff]
        exact arriving

theorem transition (conserved : Conserved state) {event : Event}
    (member : event ∈ state.futureEvents)
    (transition : Transition config (state.take event) event next) : Conserved next := by
  obtain ⟨created, placed, parked, arriving⟩ := conserved
  have arrivalTaken := Network.pending_take member .arrival
  have landingTaken := Network.pending_take member .landing
  have parkingTaken := Network.pending_take member .parking
  have takeoffTaken := Network.pending_take member .takeoff
  simp only [Network.arrivals, Network.pending, Network.take] at *
  cases transition with
  | landNow kind =>
      simp only [kind, reduceCtorEq, if_true, if_false] at *
      constructor <;>
        simp [-List.countP_eq_zero, Network.arrivals, Network.pending,
          Airspace.scheduleNext_eq, Airspace.land_eq, Network.setOccupied] <;>
        omega
  | hold kind =>
      simp only [kind, reduceCtorEq, if_true, if_false] at *
      constructor <;>
        simp [-List.countP_eq_zero, Network.arrivals, Network.pending,
          Airspace.scheduleNext_eq] <;>
        omega
  | takeOffNow kind =>
      simp only [kind, reduceCtorEq, if_true, if_false] at *
      constructor <;>
        simp [-List.countP_eq_zero, Network.arrivals, Network.pending,
          ParkingArea.takeOff_eq, Network.setOccupied] <;>
        omega
  | queue kind =>
      simp only [kind, reduceCtorEq, if_true, if_false] at *
      constructor <;>
        simp [-List.countP_eq_zero, Network.arrivals, Network.pending] <;>
        omega
  | landed kind completed =>
      simp only [kind, reduceCtorEq, if_true, if_false] at *
      refine Conserved.completed ?_ completed
      constructor <;>
        simp [-List.countP_eq_zero, Network.arrivals, Network.pending, Network.park] <;>
        omega
  | left kind _ completed =>
      simp only [kind, reduceCtorEq, if_true, if_false] at *
      refine Conserved.completed ?_ completed
      constructor <;>
        simp [-List.countP_eq_zero, Network.arrivals, Network.pending, Network.depart] <;>
        omega
  | finished kind =>
      simp only [kind, reduceCtorEq, if_true, if_false] at *
      constructor <;>
        simp [-List.countP_eq_zero, Network.arrivals, Network.pending, Network.depart] <;>
        omega

end Conserved

theorem Reachable.conserved (reachable : Reachable config state) : Conserved state := by
  refine Reachable.invariant Conserved ?_ ?_ reachable
  · constructor <;> rfl
  · intro source event target _ _ isNext conserved transition
    exact conserved.transition isNext.1 transition

/-- The next arrival is always pending. -/
theorem Reachable.exists_arrival (reachable : Reachable config state) :
    ∃ event ∈ state.futureEvents, event.kind = .arrival := by
  have one : 0 < state.pending .arrival := by
    rw [(Reachable.conserved reachable).arriving]
    exact Nat.one_pos
  obtain ⟨event, member, kind⟩ := List.countP_pos_iff.mp one
  exact ⟨event, member, of_decide_eq_true kind⟩

/-- So the event set is never empty. -/
theorem Reachable.exists_nextEvent (reachable : Reachable config state) :
    ∃ event, state.nextEvent = some event := by
  obtain ⟨pending, member, -⟩ := Reachable.exists_arrival reachable
  rw [← Option.isSome_iff_exists, Network.nextEvent, List.isSome_minOn?_iff]
  exact List.ne_nil_of_mem member

/-- While an arrival is handled no other one is pending. -/
theorem Conserved.last_arrival (conserved : Conserved state) {event : Event}
    (member : event ∈ state.futureEvents) (kind : event.kind = .arrival) :
    ∀ other ∈ (state.take event).futureEvents, other.kind ≠ .arrival := by
  intro other remains arrival
  have count := Network.pending_take member .arrival
  rw [conserved.arriving, if_pos kind] at count
  have none : (state.take event).pending .arrival = 0 := by omega
  unfold Network.pending at none
  rw [List.countP_eq_zero] at none
  exact none other remains (decide_eq_true arrival)

/-! ## Every airplane in one place -/

/-- The airplane has arrived. -/
def Network.Arrived (state : Network) (plane : Nat) : Prop :=
  ∃ record ∈ state.trace, record.plane = plane ∧ record.isArrival = true

/-- The airplane has been deleted. -/
def Network.Deleted (state : Network) (plane : Nat) : Prop :=
  ∃ record ∈ state.trace, record.plane = plane ∧ record.call = .delete

/-- The places that hold the airplane, the next arrival left out: the two queues, the
runway and the parking area. -/
def Network.places (state : Network) (plane : Nat) : Multiset Slot :=
  state.roster.filter fun slot => slot.id = plane ∧ slot.isArrival = false

/-- An arrival is a personal call. -/
private theorem arrived_iff_history {plane : Nat} :
    state.Arrived plane ↔
      ∃ record ∈ history plane state.trace, record.isArrival = true := by
  constructor
  · rintro ⟨record, member, own, arrival⟩
    refine ⟨record, List.mem_filter.mpr ⟨member, ?_⟩, arrival⟩
    simp only [Record.isArrival, Bool.decide_and, Bool.and_eq_true,
      decide_eq_true_eq] at arrival
    simp [own, Record.personal, arrival.2]
  · rintro ⟨record, member, arrival⟩
    obtain ⟨member, own⟩ := List.mem_filter.mp member
    simp only [Bool.and_eq_true, decide_eq_true_eq] at own
    exact ⟨record, member, own.1, arrival⟩

/-- A deletion is a personal call. -/
private theorem deleted_iff_history {plane : Nat} :
    state.Deleted plane ↔
      ∃ record ∈ history plane state.trace, record.call = .delete := by
  constructor
  · rintro ⟨record, member, own, delete⟩
    refine ⟨record, List.mem_filter.mpr ⟨member, ?_⟩, delete⟩
    simp [own, Record.personal, delete]
  · rintro ⟨record, member, delete⟩
    obtain ⟨member, own⟩ := List.mem_filter.mp member
    simp only [Bool.and_eq_true, decide_eq_true_eq] at own
    exact ⟨record, member, own.1, delete⟩

/-- The histories that contain an arrival are those of airplanes that have arrived. -/
private theorem arrival_mem_history {plane : Nat} (stage : Stage) :
    (∃ record ∈ stage.history plane, record.isArrival = true) ↔ stage ≠ .arriving := by
  cases stage <;>
    simp [Stage.history, Stage.parkedCalls, Leg.calls]

/-- Only the histories of airplanes that are gone contain a deletion. -/
private theorem delete_mem_history {plane : Nat} (stage : Stage) :
    (∃ record ∈ stage.history plane, record.call = .delete) ↔
      ∃ down stay up, stage = .gone down stay up := by
  cases stage <;> simp [Stage.history, Stage.parkedCalls, Leg.calls]

/-- The slots outside the roster of arrivals. -/
private theorem isArrival_iff {slot : Slot} {stage : Stage} (atStage : At slot stage) :
    slot.isArrival = true ↔ stage = .arriving := by
  cases atStage <;> simp_all [Slot.isArrival]

/-- An airplane of the roster is in exactly one place, or has yet to arrive. -/
private theorem card_places {slot : Slot}
    (nodup : (state.roster.map Slot.id).Nodup) (member : slot ∈ state.roster) :
    (state.places slot.id).card = if slot.isArrival then 0 else 1 := by
  have once : state.roster.filter (fun other => slot.id = other.id) = {slot} := by
    have one : (state.roster.filter fun other => slot.id = other.id).card = 1 := by
      rw [← Multiset.count_map]
      exact Multiset.count_eq_one_of_mem nodup (Multiset.mem_map_of_mem _ member)
    obtain ⟨only, unique⟩ := Multiset.card_eq_one.mp one
    have mine : slot ∈ state.roster.filter fun other => slot.id = other.id :=
      Multiset.mem_filter.mpr ⟨member, rfl⟩
    rw [unique, Multiset.mem_singleton] at mine
    rw [unique, mine]
  have split : state.places slot.id =
      (state.roster.filter fun other => slot.id = other.id).filter
        fun other => other.isArrival = false := by
    rw [Multiset.filter_filter]
    apply Multiset.filter_congr
    intro other _
    rw [and_comm, @eq_comm _ slot.id]
  rw [split, once]
  cases arrival : slot.isArrival <;> simp [Multiset.filter_singleton, arrival]

theorem Reachable.card_places (reachable : Reachable config state) (plane : Nat) :
    (state.Arrived plane ∧ ¬state.Deleted plane → (state.places plane).card = 1) ∧
      (¬(state.Arrived plane ∧ ¬state.Deleted plane) →
        (state.places plane).card = 0) := by
  have itinerant := Reachable.itinerant reachable
  rw [arrived_iff_history, deleted_iff_history]
  by_cases present : plane ∈ state.roster.map Slot.id
  · obtain ⟨slot, member, rfl⟩ := Multiset.mem_map.mp present
    obtain ⟨stage, atStage, known⟩ := itinerant.staged slot member
    have placed := AirTrafficControl.card_places itinerant.nodup member
    rw [known, arrival_mem_history, delete_mem_history, placed]
    cases arrival : slot.isArrival with
    | true =>
        have arriving := (isArrival_iff atStage).mp arrival
        simp [arriving]
    | false =>
        have arrived : stage ≠ .arriving := fun arriving => by
          rw [(isArrival_iff atStage).mpr arriving] at arrival
          cases arrival
        have here : ¬∃ down stay up, stage = .gone down stay up := by
          rintro ⟨down, stay, up, rfl⟩
          cases atStage
        exact ⟨fun _ => rfl, fun absent => absurd ⟨arrived, here⟩ absent⟩
  · have none : state.places plane = 0 := by
      apply Multiset.filter_eq_nil.mpr
      rintro slot member ⟨rfl, _⟩
      exact present (Multiset.mem_map_of_mem _ member)
    rw [none, Multiset.card_zero]
    refine ⟨fun arrived => absurd arrived ?_, fun _ => rfl⟩
    by_cases bounded : plane < state.created
    · obtain ⟨down, stay, up, _, known⟩ := itinerant.gone plane bounded present
      rw [known, delete_mem_history]
      exact fun both => both.2 ⟨down, stay, up, rfl⟩
    · rw [itinerant.fresh plane (not_lt.mp bounded)]
      simp

/-- The itinerary of a deleted airplane is complete. -/
theorem Reachable.gone_of_deleted (reachable : Reachable config state) {plane : Nat}
    (deleted : state.Deleted plane) :
    ∃ down stay up, up.request = down.finish + stay ∧
      history plane state.trace = (Stage.gone down stay up).history plane := by
  have itinerant := Reachable.itinerant reachable
  rw [deleted_iff_history] at deleted
  by_cases present : plane ∈ state.roster.map Slot.id
  · obtain ⟨slot, member, rfl⟩ := Multiset.mem_map.mp present
    obtain ⟨stage, atStage, known⟩ := itinerant.staged slot member
    rw [known, delete_mem_history] at deleted
    obtain ⟨down, stay, up, rfl⟩ := deleted
    cases atStage
  · by_cases bounded : plane < state.created
    · exact itinerant.gone plane bounded present
    · rw [itinerant.fresh plane (not_lt.mp bounded)] at deleted
      simp at deleted

/-- The event set holds messages of the four kinds only. -/
theorem Network.length_futureEvents (state : Network) :
    state.futureEvents.length = state.pending .arrival + state.pending .parking +
      state.runwayMessages := by
  unfold Network.runwayMessages Network.pending
  induction state.futureEvents with
  | nil => rfl
  | cons event events ih =>
      simp only [List.length_cons, List.countP_cons, ih]
      cases event.kind <;> simp <;> omega

/-- Conservation of airplanes.  In every reachable state the arrivals handled so far are
waiting, on the runway, parked or gone; an airplane that has arrived and is not deleted is
in exactly one place, any other airplane in none; and the event set holds the next
arrival, one message for each parked airplane, the landings and take-offs, and nothing
else. -/
theorem conservation (reachable : Reachable config state) :
    (state.arrivals : Int) = state.holdingQueue.length + state.pending .landing +
        state.numParked + state.departQueue.length + state.pending .takeoff +
        state.departedPlanes ∧
      (∀ plane, (state.Arrived plane ∧ ¬state.Deleted plane →
          (state.places plane).card = 1) ∧
        (¬(state.Arrived plane ∧ ¬state.Deleted plane) →
          (state.places plane).card = 0)) ∧
      state.pending .arrival = 1 ∧
      (∀ event ∈ state.futureEvents, event.kind = .arrival →
        ¬state.Arrived event.airplane.id) ∧
      (state.pending .parking : Int) = state.numParked ∧
      state.futureEvents.length =
        1 + state.pending .parking + state.runwayMessages ∧
      0 ≤ state.numParked := by
  have conserved := Reachable.conserved reachable
  have itinerant := Reachable.itinerant reachable
  refine ⟨conserved.placed, Reachable.card_places reachable, conserved.arriving, ?_,
    conserved.parked.symm, ?_, ?_⟩
  · intro event member arrival
    obtain ⟨stage, atStage, known⟩ :=
      itinerant.staged (.pending event) (Network.pending_mem_roster.mpr member)
    rw [arrived_iff_history, ← Slot.id_pending, known, arrival_mem_history, not_not]
    exact (isArrival_iff atStage).mp (by simpa [Slot.isArrival] using arrival)
  · rw [Network.length_futureEvents, conserved.arriving]
  · rw [conserved.parked]
    exact Int.natCast_nonneg _

/-- A small run after eight events, with one airplane gone. -/
theorem conservation_eighth :
    let state := eventLoop (Ini.deterministic 2 1 3 1 5 0) 8
    (state.arrivals : Int) = state.holdingQueue.length + state.pending .landing +
        state.numParked + state.departQueue.length + state.pending .takeoff +
        state.departedPlanes ∧
      (∀ plane, (state.Arrived plane ∧ ¬state.Deleted plane →
          (state.places plane).card = 1) ∧
        (¬(state.Arrived plane ∧ ¬state.Deleted plane) →
          (state.places plane).card = 0)) ∧
      state.pending .arrival = 1 ∧
      (∀ event ∈ state.futureEvents, event.kind = .arrival →
        ¬state.Arrived event.airplane.id) ∧
      (state.pending .parking : Int) = state.numParked ∧
      state.futureEvents.length =
        1 + state.pending .parking + state.runwayMessages ∧
      0 ≤ state.numParked :=
  conservation (eventLoop_reachable _ 8)

end AirTrafficControl
