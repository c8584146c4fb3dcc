import AirTrafficControl.Safety.Clock
import Mathlib.Algebra.Order.Group.Multiset
import Mathlib.Tactic.Abel

/-!
# The roster of airplanes

All airplanes of a state in one multiset, each with the place that holds it: one of the
two queues or a message in the event set.  Every part of a handler moves one airplane from
one slot to another.
-/

namespace AirTrafficControl

variable {config : Config} {state next : Network}

/-- A place that holds an airplane. -/
inductive Slot where
  | queued (queue : SimpleModule) (airplane : Airplane)
  | pending (event : Event)
  deriving DecidableEq

namespace Slot

def airplane : Slot → Airplane
  | .queued _ airplane => airplane
  | .pending event => event.airplane

def id (slot : Slot) : Nat := slot.airplane.id

@[simp] theorem id_queued (queue : SimpleModule) (airplane : Airplane) :
    (Slot.queued queue airplane).id = airplane.id := rfl

@[simp] theorem id_pending (event : Event) :
    (Slot.pending event).id = event.airplane.id := rfl

/-- The slot of the airplane that has not arrived yet. -/
def isArrival : Slot → Bool
  | .queued _ _ => false
  | .pending event => event.kind = .arrival

end Slot

namespace Network

/-- The slots of the queues and of the event set. -/
def roster (state : Network) : Multiset Slot :=
  ↑(state.holdingQueue.map (Slot.queued .airspace)) +
    ↑(state.departQueue.map (Slot.queued .parkingArea)) +
    ↑(state.futureEvents.map Slot.pending)

theorem roster_take {event : Event} (member : event ∈ state.futureEvents) :
    state.roster = .pending event ::ₘ (state.take event).roster := by
  have split : (↑(state.futureEvents.map Slot.pending) : Multiset Slot) =
      .pending event ::ₘ ↑((state.futureEvents.erase event).map Slot.pending) := by
    rw [Multiset.cons_coe, Multiset.coe_eq_coe, ← List.map_cons]
    exact (List.perm_cons_erase member).map _
  simp only [roster, take, split, Multiset.add_cons]

/-- A message enters the event set. -/
theorem roster_append {event : Event}
    (holding : next.holdingQueue = state.holdingQueue)
    (depart : next.departQueue = state.departQueue)
    (appended : next.futureEvents = state.futureEvents ++ [event]) :
    next.roster = .pending event ::ₘ state.roster := by
  simp only [roster, holding, depart, appended, List.map_append, List.map_cons,
    List.map_nil, ← Multiset.coe_add, Multiset.coe_singleton]
  rw [← Multiset.singleton_add]
  abel

theorem roster_land (plane : Airplane) :
    (Airspace.land config plane state).roster =
      .pending ⟨state.simTime + config.sim.duration config.par.landing state.rngDraws,
        .parkingArea, false, plane⟩ ::ₘ state.roster :=
  roster_append rfl rfl rfl

theorem roster_takeOff (plane : Airplane) :
    (ParkingArea.takeOff config plane state).roster =
      .pending ⟨state.simTime + config.sim.duration config.par.takeoff state.rngDraws,
        .airspace, false, plane⟩ ::ₘ state.roster :=
  roster_append rfl rfl rfl

theorem roster_park (plane : Airplane) :
    (state.park config plane).roster =
      .pending ⟨state.simTime + config.sim.duration config.par.parking state.rngDraws,
        .parkingArea, true, plane⟩ ::ₘ state.roster :=
  roster_append rfl rfl rfl

theorem roster_scheduleNext :
    (Airspace.scheduleNext config state).roster =
      .pending ⟨state.simTime +
          config.sim.duration config.par.interArrival state.rngDraws,
        .airspace, true, { id := state.created }⟩ ::ₘ state.roster :=
  roster_append rfl rfl rfl

/-- An airplane joins the holding queue. -/
theorem roster_hold (plane : Airplane) (trace : List Record) :
    ({ state with
      holdingQueue := state.holdingQueue ++ [plane]
      trace } : Network).roster = .queued .airspace plane ::ₘ state.roster := by
  simp only [roster, List.map_append, List.map_cons, List.map_nil, ← Multiset.coe_add,
    Multiset.coe_singleton]
  rw [← Multiset.singleton_add]
  abel

/-- An airplane joins the depart queue. -/
theorem roster_queue (plane : Airplane) (numParked : Int) (trace : List Record) :
    ({ state with
      numParked
      departQueue := state.departQueue ++ [plane]
      trace } : Network).roster = .queued .parkingArea plane ::ₘ state.roster := by
  simp only [roster, List.map_append, List.map_cons, List.map_nil, ← Multiset.coe_add,
    Multiset.coe_singleton]
  rw [← Multiset.singleton_add]
  abel

/-- The front of the holding queue leaves it. -/
theorem roster_pop_holding {plane : Airplane}
    (holding : state.holdingQueue = plane :: next.holdingQueue)
    (depart : next.departQueue = state.departQueue)
    (same : next.futureEvents = state.futureEvents) :
    state.roster = .queued .airspace plane ::ₘ next.roster := by
  simp only [roster, holding, depart, same, List.map_cons, ← Multiset.cons_coe,
    Multiset.cons_add]

/-- The front of the depart queue leaves it. -/
theorem roster_pop_depart {plane : Airplane}
    (holding : next.holdingQueue = state.holdingQueue)
    (depart : state.departQueue = plane :: next.departQueue)
    (same : next.futureEvents = state.futureEvents) :
    state.roster = .queued .parkingArea plane ::ₘ next.roster := by
  simp only [roster, holding, depart, same, List.map_cons, ← Multiset.cons_coe,
    Multiset.cons_add, Multiset.add_cons]

@[simp] theorem roster_initialState :
    (initialState config).roster =
      {.pending ⟨0 + config.sim.duration config.par.interArrival fun _ => 0,
        .airspace, true, { id := 0 }⟩} := rfl

@[simp] theorem queued_airspace_mem_roster {plane : Airplane} :
    .queued .airspace plane ∈ state.roster ↔ plane ∈ state.holdingQueue := by
  simp [roster]

@[simp] theorem queued_parkingArea_mem_roster {plane : Airplane} :
    .queued .parkingArea plane ∈ state.roster ↔ plane ∈ state.departQueue := by
  simp [roster]

@[simp] theorem pending_mem_roster {event : Event} :
    .pending event ∈ state.roster ↔ event ∈ state.futureEvents := by
  simp [roster]

end Network

end AirTrafficControl
