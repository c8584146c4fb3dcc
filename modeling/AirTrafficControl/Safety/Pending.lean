import AirTrafficControl.Safety.Clock

/-!
# Counting pending messages

How each part of a handler changes the number of pending messages of each kind.
-/

namespace AirTrafficControl

variable {config : Config} {state next : Network}

/-- The number of pending messages of a kind. -/
def Network.pending (state : Network) (kind : Kind) : Nat :=
  state.futureEvents.countP fun event => event.kind = kind

namespace Network

theorem pending_take {event : Event} (member : event ∈ state.futureEvents)
    (kind : Kind) :
    (state.take event).pending kind + (if event.kind = kind then 1 else 0) =
      state.pending kind := by
  have split := (List.perm_cons_erase member).countP_eq fun other =>
    decide (other.kind = kind)
  rw [List.countP_cons] at split
  simpa [pending, take] using split.symm

theorem pending_append {event : Event} {role : Kind}
    (appended : next.futureEvents = state.futureEvents ++ [event])
    (isRole : event.kind = role) (kind : Kind) :
    next.pending kind = state.pending kind + if role = kind then 1 else 0 := by
  rw [pending, appended, List.countP_append, List.countP_singleton, isRole, pending]
  simp

@[simp] theorem pending_land (plane : Airplane) (kind : Kind) :
    (Airspace.land config plane state).pending kind =
      state.pending kind + if Kind.landing = kind then 1 else 0 := by
  apply pending_append <;> rfl

@[simp] theorem pending_takeOff (plane : Airplane) (kind : Kind) :
    (ParkingArea.takeOff config plane state).pending kind =
      state.pending kind + if Kind.takeoff = kind then 1 else 0 := by
  apply pending_append <;> rfl

@[simp] theorem pending_park (plane : Airplane) (kind : Kind) :
    (state.park config plane).pending kind =
      state.pending kind + if Kind.parking = kind then 1 else 0 := by
  apply pending_append <;> rfl

@[simp] theorem pending_scheduleNext (kind : Kind) :
    (Airspace.scheduleNext config state).pending kind =
      state.pending kind + if Kind.arrival = kind then 1 else 0 := by
  apply pending_append <;> rfl

@[simp] theorem pending_depart (plane : Airplane) (kind : Kind) :
    (state.depart plane).pending kind = state.pending kind := rfl

/-- The landings and take-offs in the event set. -/
def runwayMessages (state : Network) : Nat :=
  state.pending .landing + state.pending .takeoff

@[simp] theorem runwayMessages_land (plane : Airplane) :
    (Airspace.land config plane state).runwayMessages = state.runwayMessages + 1 := by
  simp only [runwayMessages, pending_land]
  simp +arith

@[simp] theorem runwayMessages_takeOff (plane : Airplane) :
    (ParkingArea.takeOff config plane state).runwayMessages =
      state.runwayMessages + 1 := by
  simp only [runwayMessages, pending_takeOff]
  simp +arith

@[simp] theorem runwayMessages_park (plane : Airplane) :
    (state.park config plane).runwayMessages = state.runwayMessages := by
  simp [runwayMessages]

@[simp] theorem runwayMessages_scheduleNext :
    (Airspace.scheduleNext config state).runwayMessages = state.runwayMessages := by
  simp [runwayMessages]

theorem runwayMessages_take {event : Event} (member : event ∈ state.futureEvents) :
    (state.take event).runwayMessages +
        (if event.kind = .landing ∨ event.kind = .takeoff then 1 else 0) =
      state.runwayMessages := by
  have landing := pending_take member .landing
  have takeoff := pending_take member .takeoff
  unfold runwayMessages
  cases kind : event.kind <;> simp [kind] at landing takeoff ⊢ <;> omega

@[simp] theorem pending_initialState (kind : Kind) :
    (initialState config).pending kind = if Kind.arrival = kind then 1 else 0 := by
  cases kind <;> rfl

end Network

end AirTrafficControl
