import AirTrafficControl.Safety.Roster

/-!
# The itinerary of an airplane

What a run has recorded about one airplane determines, and is determined by, the stage of
its itinerary: it arrives, waits for the runway, lands, parks, waits again, takes off and
is gone.  The invariant `Itineraries` states this for all airplanes of the roster at
once.  It keeps apart what the modules mix: the timestamp and the queue arrival time that
travel with the message, the clock, and the members that hold the last computed duration.
-/

namespace AirTrafficControl

variable {config : Config} {state next : Network}

/-- The signal that carries the waiting time of a queue. -/
def SimpleModule.waitingTime : SimpleModule → Signal
  | .airspace => .holdingQueueWaitingTime
  | .parkingArea => .departQueueWaitingTime

/-- Calls about a single airplane, as opposed to the size of a queue, the number of parked
airplanes or the end of the simulation. -/
def Record.personal (record : Record) : Bool :=
  match record.call with
  | .notify | .sendDelayed _ | .delete => true
  | .scheduleAt _ => record.module = .parkingArea
  | .emit signal _ =>
      signal = .holdingQueueWaitingTime ∨ signal = .departQueueWaitingTime ∨
        signal = .runwayUse ∨ signal = .airportResponseTime
  | .endSimulation => false

section Personal

variable (time : Int) (module : SimpleModule) (plane : Nat)

@[simp] theorem personal_notify :
    Record.personal ⟨time, module, plane, .notify⟩ = true := rfl

@[simp] theorem personal_sendDelayed (delay : Int) :
    Record.personal ⟨time, module, plane, .sendDelayed delay⟩ = true := rfl

@[simp] theorem personal_delete :
    Record.personal ⟨time, module, plane, .delete⟩ = true := rfl

@[simp] theorem personal_endSimulation :
    Record.personal ⟨time, module, plane, .endSimulation⟩ = false := rfl

@[simp] theorem personal_scheduleAt (target : Int) :
    Record.personal ⟨time, module, plane, .scheduleAt target⟩ =
      decide (module = .parkingArea) := rfl

@[simp] theorem personal_emit (signal : Signal) (value : Int) :
    Record.personal ⟨time, module, plane, .emit signal value⟩ =
      decide (signal = .holdingQueueWaitingTime ∨ signal = .departQueueWaitingTime ∨
        signal = .runwayUse ∨ signal = .airportResponseTime) := rfl

end Personal

/-- The personal calls about one airplane, latest first. -/
def history (plane : Nat) (trace : List Record) : List Record :=
  trace.filter fun record => record.plane = plane && record.personal

@[simp] theorem history_nil (plane : Nat) : history plane [] = [] := rfl

@[simp] theorem history_append (plane : Nat) (calls trace : List Record) :
    history plane (calls ++ trace) = history plane calls ++ history plane trace :=
  List.filter_append calls trace

theorem history_of_own {plane : Nat} {calls : List Record}
    (own : ∀ record ∈ calls, record.plane = plane) :
    history plane calls = calls.filter Record.personal := by
  apply List.filter_congr
  intro record member
  simp [own record member]

theorem history_of_other {plane other : Nat} (different : plane ≠ other)
    {calls : List Record} (own : ∀ record ∈ calls, record.plane = other) :
    history plane calls = [] := by
  apply List.filter_eq_nil_iff.mpr
  intro record member
  simp [own record member, different.symm]

/-! ## Stages -/

/-- One use of the runway: when the airplane asked for it, how long it waited, and how
long the landing or take-off takes. -/
structure Leg where
  request : Int
  wait : Int
  duration : Int

namespace Leg

def start (leg : Leg) : Int := leg.request + leg.wait

def finish (leg : Leg) : Int := leg.start + leg.duration

/-- The calls of the use of the runway, latest first. -/
def calls (module : SimpleModule) (plane : Nat) (leg : Leg) : List Record :=
  [⟨leg.start, module, plane, .emit .runwayUse leg.duration⟩,
    ⟨leg.start, module, plane, .sendDelayed leg.duration⟩,
    ⟨leg.start, module, plane, .emit module.waitingTime leg.wait⟩,
    ⟨leg.request, module, plane, .notify⟩]

end Leg

/-- How far an airplane has come. -/
inductive Stage where
  | arriving
  | holding (request : Int)
  | landing (down : Leg)
  | parked (down : Leg) (stay : Int)
  | queued (down : Leg) (stay : Int)
  | takingOff (down : Leg) (stay : Int) (up : Leg)
  | gone (down : Leg) (stay : Int) (up : Leg)

namespace Stage

/-- The personal calls up to the beginning of the parking time. -/
def parkedCalls (plane : Nat) (down : Leg) (stay : Int) : List Record :=
  ⟨down.finish, .parkingArea, plane, .scheduleAt (down.finish + stay)⟩ ::
    down.calls .airspace plane

/-- The personal calls that lead to a stage, latest first. -/
def history (plane : Nat) : Stage → List Record
  | .arriving => []
  | .holding request => [⟨request, .airspace, plane, .notify⟩]
  | .landing down => down.calls .airspace plane
  | .parked down stay => parkedCalls plane down stay
  | .queued down stay =>
      ⟨down.finish + stay, .parkingArea, plane, .notify⟩ :: parkedCalls plane down stay
  | .takingOff down stay up =>
      up.calls .parkingArea plane ++ parkedCalls plane down stay
  | .gone down stay up =>
      ⟨up.finish, .airspace, plane, .delete⟩ ::
      ⟨up.finish, .airspace, plane,
        .emit .airportResponseTime (up.finish - down.request)⟩ ::
      (up.calls .parkingArea plane ++ parkedCalls plane down stay)

end Stage

/-- An airplane in `slot` is at `stage`. -/
inductive At : Slot → Stage → Prop where
  | arriving {event : Event} : event.kind = .arrival → At (.pending event) .arriving
  | holding {plane : Airplane} :
      plane.timestamp = plane.queueArrivalTime →
      At (.queued .airspace plane) (.holding plane.queueArrivalTime)
  | landing {event : Event} {down : Leg} :
      event.kind = .landing → event.airplane.timestamp = down.request →
      event.time = down.finish → At (.pending event) (.landing down)
  | parked {event : Event} {down : Leg} {stay : Int} :
      event.kind = .parking → event.airplane.timestamp = down.request →
      event.time = down.finish + stay → At (.pending event) (.parked down stay)
  | queued {plane : Airplane} {down : Leg} {stay : Int} :
      plane.timestamp = down.request → plane.queueArrivalTime = down.finish + stay →
      At (.queued .parkingArea plane) (.queued down stay)
  | takingOff {event : Event} {down : Leg} {stay : Int} {up : Leg} :
      event.kind = .takeoff → event.airplane.timestamp = down.request →
      up.request = down.finish + stay → event.time = up.finish →
      At (.pending event) (.takingOff down stay up)

/-! ## The itineraries of a roster -/

/-- Every airplane of the roster is at the stage its history tells, every other airplane
that has been created is gone, and nothing is recorded of airplanes to come. -/
structure Itineraries (roster : Multiset Slot) (created : Nat) (trace : List Record) :
    Prop where
  nodup : (roster.map Slot.id).Nodup
  bounded : ∀ slot ∈ roster, slot.id < created
  staged : ∀ slot ∈ roster, ∃ stage, At slot stage ∧
    history slot.id trace = stage.history slot.id
  gone : ∀ plane < created, plane ∉ roster.map Slot.id →
    ∃ down stay up, up.request = down.finish + stay ∧
      history plane trace = (Stage.gone down stay up).history plane
  fresh : ∀ plane, created ≤ plane → history plane trace = []

namespace Itineraries

variable {slot later : Slot} {rest : Multiset Slot} {created : Nat}
  {trace : List Record}

/-- The slots of other airplanes. -/
private theorem ne_of_mem_rest
    (nodup : ((slot ::ₘ rest).map Slot.id).Nodup) {other : Slot}
    (member : other ∈ rest) : other.id ≠ slot.id := by
  rw [Multiset.map_cons, Multiset.nodup_cons] at nodup
  intro equal
  exact nodup.1 (equal ▸ Multiset.mem_map_of_mem Slot.id member)

/-- Calls about one airplane do not change the history of another. -/
private theorem history_unchanged {calls : List Record}
    (own : ∀ record ∈ calls, record.plane = slot.id) {plane : Nat}
    (different : plane ≠ slot.id) :
    history plane (calls ++ trace) = history plane trace := by
  rw [history_append, history_of_other different own, List.nil_append]

/-- One airplane moves on to its next stage. -/
theorem move (itineraries : Itineraries (slot ::ₘ rest) created trace)
    (calls : List Record) (same : later.id = slot.id)
    (own : ∀ record ∈ calls, record.plane = slot.id)
    (advance : ∀ stage, At slot stage → ∃ following, At later following ∧
      following.history slot.id =
        calls.filter Record.personal ++ stage.history slot.id) :
    Itineraries (later ::ₘ rest) created (calls ++ trace) := by
  have ids : (later ::ₘ rest).map Slot.id = (slot ::ₘ rest).map Slot.id := by
    rw [Multiset.map_cons, Multiset.map_cons, same]
  constructor
  · rw [ids]
    exact itineraries.nodup
  · intro other member
    rcases Multiset.mem_cons.mp member with rfl | member
    · rw [same]
      exact itineraries.bounded slot (Multiset.mem_cons_self _ _)
    · exact itineraries.bounded other (Multiset.mem_cons_of_mem member)
  · intro other member
    rcases Multiset.mem_cons.mp member with rfl | member
    · obtain ⟨stage, atStage, known⟩ :=
        itineraries.staged slot (Multiset.mem_cons_self _ _)
      obtain ⟨following, atFollowing, calls⟩ := advance stage atStage
      refine ⟨following, atFollowing, ?_⟩
      rw [same, history_append, history_of_own own, known, calls]
    · have different := ne_of_mem_rest itineraries.nodup member
      rw [history_unchanged own different]
      exact itineraries.staged other (Multiset.mem_cons_of_mem member)
  · intro plane bounded absent
    rw [ids] at absent
    have different : plane ≠ slot.id := by
      rintro rfl
      exact absent (Multiset.mem_map_of_mem Slot.id (Multiset.mem_cons_self _ _))
    rw [history_unchanged own different]
    exact itineraries.gone plane bounded absent
  · intro plane future
    have different : plane ≠ slot.id := by
      rintro rfl
      exact absurd (itineraries.bounded slot (Multiset.mem_cons_self _ _))
        (not_lt.mpr future)
    rw [history_unchanged own different]
    exact itineraries.fresh plane future

/-- One airplane leaves the roster. -/
theorem leave (itineraries : Itineraries (slot ::ₘ rest) created trace)
    (calls : List Record) (own : ∀ record ∈ calls, record.plane = slot.id)
    (advance : ∀ stage, At slot stage →
      ∃ down stay up, up.request = down.finish + stay ∧
        (Stage.gone down stay up).history slot.id =
          calls.filter Record.personal ++ stage.history slot.id) :
    Itineraries rest created (calls ++ trace) := by
  constructor
  · have nodup := itineraries.nodup
    rw [Multiset.map_cons] at nodup
    exact (Multiset.nodup_cons.mp nodup).2
  · intro other member
    exact itineraries.bounded other (Multiset.mem_cons_of_mem member)
  · intro other member
    rw [history_unchanged own (ne_of_mem_rest itineraries.nodup member)]
    exact itineraries.staged other (Multiset.mem_cons_of_mem member)
  · intro plane bounded absent
    by_cases self : plane = slot.id
    · subst self
      obtain ⟨stage, atStage, known⟩ :=
        itineraries.staged slot (Multiset.mem_cons_self _ _)
      obtain ⟨down, stay, up, request, calls⟩ := advance stage atStage
      refine ⟨down, stay, up, request, ?_⟩
      rw [history_append, history_of_own own, known, calls]
    · rw [history_unchanged own self]
      apply itineraries.gone plane bounded
      rw [Multiset.map_cons, Multiset.mem_cons]
      rintro (equal | member)
      · exact self equal
      · exact absent member
  · intro plane future
    have different : plane ≠ slot.id := by
      rintro rfl
      exact absurd (itineraries.bounded slot (Multiset.mem_cons_self _ _))
        (not_lt.mpr future)
    rw [history_unchanged own different]
    exact itineraries.fresh plane future

/-- A new airplane enters the roster. -/
theorem enter (itineraries : Itineraries rest created trace) {event : Event}
    (calls : List Record) (new : event.airplane.id = created)
    (arrival : event.kind = .arrival)
    (own : ∀ record ∈ calls, record.plane = created)
    (quiet : calls.filter Record.personal = []) :
    Itineraries (.pending event ::ₘ rest) (created + 1) (calls ++ trace) := by
  have unchanged : ∀ plane, history plane (calls ++ trace) = history plane trace := by
    intro plane
    have none : history plane calls = [] := by
      by_cases self : plane = created
      · rw [self, history_of_own own, quiet]
      · exact history_of_other self own
    rw [history_append, none, List.nil_append]
  constructor
  · rw [Multiset.map_cons, Multiset.nodup_cons]
    refine ⟨?_, itineraries.nodup⟩
    rw [Multiset.mem_map]
    rintro ⟨other, member, equal⟩
    have bounded := itineraries.bounded other member
    rw [equal, Slot.id_pending, new] at bounded
    exact lt_irrefl _ bounded
  · intro other member
    rcases Multiset.mem_cons.mp member with rfl | member
    · rw [Slot.id_pending, new]
      exact Nat.lt_succ_self created
    · exact Nat.lt_succ_of_lt (itineraries.bounded other member)
  · intro other member
    rw [unchanged]
    rcases Multiset.mem_cons.mp member with rfl | member
    · refine ⟨.arriving, .arriving arrival, ?_⟩
      rw [Slot.id_pending, new]
      exact itineraries.fresh created le_rfl
    · exact itineraries.staged other member
  · intro plane bounded absent
    rw [Multiset.map_cons, Multiset.mem_cons, not_or, Slot.id_pending, new] at absent
    rw [unchanged]
    exact itineraries.gone plane
      (lt_of_le_of_ne (Nat.le_of_lt_succ bounded) absent.1) absent.2
  · intro plane future
    rw [unchanged]
    exact itineraries.fresh plane (Nat.le_of_succ_le future)

end Itineraries

/-! ## The itineraries of a run -/

/-- The itineraries of the airplanes of a state. -/
def Network.Itinerant (state : Network) : Prop :=
  Itineraries state.roster state.created state.trace

namespace Network.Itinerant

/-- A landing that starts now puts the airplane on the runway. -/
private theorem landing_at {now duration : Int} {plane : Airplane} (down : Leg)
    (stamped : plane.timestamp = down.request) (starts : down.start = now)
    (lasts : down.duration = duration) :
    At (.pending ⟨now + duration, .parkingArea, false, plane⟩) (.landing down) := by
  refine .landing rfl stamped ?_
  rw [Leg.finish, starts, lasts]

/-- A take-off that starts now puts the airplane on the runway. -/
private theorem takingOff_at {now duration stay : Int} {plane : Airplane}
    (down up : Leg) (stamped : plane.timestamp = down.request)
    (asked : up.request = down.finish + stay) (starts : up.start = now)
    (lasts : up.duration = duration) :
    At (.pending ⟨now + duration, .airspace, false, plane⟩)
      (.takingOff down stay up) := by
  refine .takingOff rfl stamped asked ?_
  rw [Leg.finish, starts, lasts]

/-- The front of the holding queue starts to land. -/
private theorem land {plane : Airplane} {rest : List Airplane}
    (itinerant : state.Itinerant) (front : state.holdingQueue = plane :: rest) :
    (Airspace.land config plane { state with
      holdingQueue := rest
      trace :=
        ⟨state.simTime, .airspace, plane.id, .emit .holdingQueueSize rest.length⟩ ::
        ⟨state.simTime, .airspace, plane.id,
          .emit .holdingQueueWaitingTime (state.simTime - plane.queueArrivalTime)⟩ ::
        state.trace }).Itinerant := by
  let duration := config.sim.duration config.par.landing state.rngDraws
  have before : state.roster = .queued .airspace plane ::ₘ
      { state with holdingQueue := rest }.roster :=
    Network.roster_pop_holding front rfl rfl
  unfold Network.Itinerant at itinerant ⊢
  rw [before] at itinerant
  rw [Network.roster_land]
  refine itinerant.move [
    ⟨state.simTime, .airspace, plane.id, .emit .runwayUse duration⟩,
    ⟨state.simTime, .airspace, plane.id, .sendDelayed duration⟩,
    ⟨state.simTime, .airspace, plane.id, .emit .holdingQueueSize rest.length⟩,
    ⟨state.simTime, .airspace, plane.id,
      .emit .holdingQueueWaitingTime (state.simTime - plane.queueArrivalTime)⟩]
    rfl (by simp) ?_
  intro stage atStage
  cases atStage with
  | holding stamped =>
      let down : Leg :=
        ⟨plane.queueArrivalTime, state.simTime - plane.queueArrivalTime, duration⟩
      have starts : down.start = state.simTime := by simp [down, Leg.start]
      refine ⟨.landing down, landing_at down stamped starts rfl, ?_⟩
      simp [List.filter_cons, Stage.history, Leg.calls, starts, SimpleModule.waitingTime,
        down]

/-- The front of the depart queue starts to take off. -/
private theorem takeOff {plane : Airplane} {rest : List Airplane}
    (itinerant : state.Itinerant) (front : state.departQueue = plane :: rest) :
    (ParkingArea.takeOff config plane { state with
      departQueue := rest
      trace :=
        ⟨state.simTime, .parkingArea, plane.id, .emit .departQueueSize rest.length⟩ ::
        ⟨state.simTime, .parkingArea, plane.id,
          .emit .departQueueWaitingTime (state.simTime - plane.queueArrivalTime)⟩ ::
        state.trace }).Itinerant := by
  let duration := config.sim.duration config.par.takeoff state.rngDraws
  have before : state.roster = .queued .parkingArea plane ::ₘ
      { state with departQueue := rest }.roster :=
    Network.roster_pop_depart rfl front rfl
  unfold Network.Itinerant at itinerant ⊢
  rw [before] at itinerant
  rw [Network.roster_takeOff]
  refine itinerant.move [
    ⟨state.simTime, .parkingArea, plane.id, .emit .runwayUse duration⟩,
    ⟨state.simTime, .parkingArea, plane.id, .sendDelayed duration⟩,
    ⟨state.simTime, .parkingArea, plane.id, .emit .departQueueSize rest.length⟩,
    ⟨state.simTime, .parkingArea, plane.id,
      .emit .departQueueWaitingTime (state.simTime - plane.queueArrivalTime)⟩]
    rfl (by simp) ?_
  intro stage atStage
  cases atStage with
  | @queued _ down stay stamped asked =>
      let up : Leg :=
        ⟨plane.queueArrivalTime, state.simTime - plane.queueArrivalTime, duration⟩
      have starts : up.start = state.simTime := by simp [up, Leg.start]
      refine ⟨.takingOff down stay up, takingOff_at down up stamped asked starts rfl, ?_⟩
      simp [List.filter_cons, Stage.history, Leg.calls, starts, SimpleModule.waitingTime,
        up, ← asked]

theorem completed (itinerant : state.Itinerant)
    (completed : Completed config state next) : next.Itinerant := by
  cases completed with
  | idle => exact itinerant
  | land front => exact itinerant.land front
  | takeOff front => exact itinerant.takeOff front

/-- The next airplane is created and scheduled. -/
private theorem scheduleNext (itinerant : state.Itinerant) :
    (Airspace.scheduleNext config state).Itinerant := by
  unfold Network.Itinerant at itinerant ⊢
  rw [Network.roster_scheduleNext]
  exact itinerant.enter
    [⟨state.simTime, .airspace, state.created, .scheduleAt (state.simTime +
      config.sim.duration config.par.interArrival state.rngDraws)⟩]
    rfl rfl (by simp) (by simp)

/-- Inversion of `At` for the four kinds of messages. -/
private theorem at_pending {event : Event} {stage : Stage}
    (atStage : At (.pending event) stage) :
    match event.kind with
    | .arrival => stage = .arriving
    | .landing => ∃ down : Leg, stage = .landing down ∧
        event.airplane.timestamp = down.request ∧ event.time = down.finish
    | .parking => ∃ (down : Leg) (stay : Int), stage = .parked down stay ∧
        event.airplane.timestamp = down.request ∧ event.time = down.finish + stay
    | .takeoff => ∃ (down : Leg) (stay : Int) (up : Leg),
        stage = .takingOff down stay up ∧ event.airplane.timestamp = down.request ∧
        up.request = down.finish + stay ∧ event.time = up.finish := by
  cases atStage with
  | arriving kind =>
      rw [kind]
  | landing kind stamped time =>
      rw [kind]
      exact ⟨_, rfl, stamped, time⟩
  | parked kind stamped time =>
      rw [kind]
      exact ⟨_, _, rfl, stamped, time⟩
  | takingOff kind stamped asked time =>
      rw [kind]
      exact ⟨_, _, _, rfl, stamped, asked, time⟩

/-- A new arrival that finds the strip free. -/
private theorem landNow {event : Event}
    (itinerant : Itineraries (.pending event ::ₘ state.roster) state.created state.trace)
    (kind : event.kind = .arrival) :
    (Airspace.land config { event.airplane with timestamp := state.simTime }
      { state.setOccupied true with
        trace :=
          ⟨state.simTime, .airspace, event.airplane.id,
            .emit .holdingQueueWaitingTime 0⟩ ::
          ⟨state.simTime, .airspace, event.airplane.id, .emit .holdingQueueSize 0⟩ ::
          ⟨state.simTime, .airspace, event.airplane.id, .notify⟩ ::
          state.trace }).Itinerant := by
  let duration := config.sim.duration config.par.landing state.rngDraws
  unfold Network.Itinerant
  rw [Network.roster_land]
  refine itinerant.move [
    ⟨state.simTime, .airspace, event.airplane.id, .emit .runwayUse duration⟩,
    ⟨state.simTime, .airspace, event.airplane.id, .sendDelayed duration⟩,
    ⟨state.simTime, .airspace, event.airplane.id, .emit .holdingQueueWaitingTime 0⟩,
    ⟨state.simTime, .airspace, event.airplane.id, .emit .holdingQueueSize 0⟩,
    ⟨state.simTime, .airspace, event.airplane.id, .notify⟩]
    rfl (by simp) ?_
  intro stage atStage
  have arriving := at_pending atStage
  rw [kind] at arriving
  subst arriving
  let down : Leg := ⟨state.simTime, 0, duration⟩
  have starts : down.start = state.simTime := by simp [down, Leg.start]
  refine ⟨.landing down, landing_at down rfl starts rfl, ?_⟩
  simp [List.filter_cons, Stage.history, Leg.calls, starts, SimpleModule.waitingTime,
    down]

/-- A new arrival that has to wait. -/
private theorem hold {event : Event}
    (itinerant : Itineraries (.pending event ::ₘ state.roster) state.created state.trace)
    (kind : event.kind = .arrival) :
    ({ state with
      holdingQueue := state.holdingQueue ++
        [⟨event.airplane.id, state.simTime, state.simTime⟩]
      trace :=
        ⟨state.simTime, .airspace, event.airplane.id,
          .emit .holdingQueueSize (state.holdingQueue.length + 1 : Nat)⟩ ::
        ⟨state.simTime, .airspace, event.airplane.id, .notify⟩ ::
        state.trace } : Network).Itinerant := by
  unfold Network.Itinerant
  rw [Network.roster_hold]
  refine itinerant.move [
    ⟨state.simTime, .airspace, event.airplane.id,
      .emit .holdingQueueSize (state.holdingQueue.length + 1 : Nat)⟩,
    ⟨state.simTime, .airspace, event.airplane.id, .notify⟩]
    rfl (by simp) ?_
  intro stage atStage
  have arriving := at_pending atStage
  rw [kind] at arriving
  subst arriving
  exact ⟨.holding state.simTime, .holding rfl, by simp [List.filter_cons, Stage.history]⟩

/-- The end of a parking time that finds the strip free. -/
private theorem takeOffNow {event : Event}
    (itinerant : Itineraries (.pending event ::ₘ state.roster) state.created state.trace)
    (kind : event.kind = .parking) (due : event.time = state.simTime) :
    (ParkingArea.takeOff config event.airplane
      { state.setOccupied true with
        numParked := state.numParked - 1
        trace :=
          ⟨state.simTime, .parkingArea, event.airplane.id,
            .emit .departQueueWaitingTime 0⟩ ::
          ⟨state.simTime, .parkingArea, event.airplane.id, .emit .departQueueSize 0⟩ ::
          ⟨state.simTime, .parkingArea, event.airplane.id, .notify⟩ ::
          ⟨state.simTime, .parkingArea, event.airplane.id,
            .emit .parkedPlanes (state.numParked - 1)⟩ ::
          state.trace }).Itinerant := by
  let duration := config.sim.duration config.par.takeoff state.rngDraws
  unfold Network.Itinerant
  rw [Network.roster_takeOff]
  refine itinerant.move [
    ⟨state.simTime, .parkingArea, event.airplane.id, .emit .runwayUse duration⟩,
    ⟨state.simTime, .parkingArea, event.airplane.id, .sendDelayed duration⟩,
    ⟨state.simTime, .parkingArea, event.airplane.id, .emit .departQueueWaitingTime 0⟩,
    ⟨state.simTime, .parkingArea, event.airplane.id, .emit .departQueueSize 0⟩,
    ⟨state.simTime, .parkingArea, event.airplane.id, .notify⟩,
    ⟨state.simTime, .parkingArea, event.airplane.id,
      .emit .parkedPlanes (state.numParked - 1)⟩]
    rfl (by simp) ?_
  intro stage atStage
  have parked := at_pending atStage
  rw [kind] at parked
  obtain ⟨down, stay, rfl, stamped, time⟩ := parked
  let up : Leg := ⟨state.simTime, 0, duration⟩
  have starts : up.start = state.simTime := by simp [up, Leg.start]
  have asked : up.request = down.finish + stay := due.symm.trans time
  refine ⟨.takingOff down stay up, takingOff_at down up stamped asked starts rfl, ?_⟩
  simp [List.filter_cons, Stage.history, Leg.calls, starts, SimpleModule.waitingTime, up]

/-- The end of a parking time that has to wait. -/
private theorem queue {event : Event}
    (itinerant : Itineraries (.pending event ::ₘ state.roster) state.created state.trace)
    (kind : event.kind = .parking) (due : event.time = state.simTime) :
    ({ state with
      numParked := state.numParked - 1
      departQueue := state.departQueue ++
        [{ event.airplane with queueArrivalTime := state.simTime }]
      trace :=
        ⟨state.simTime, .parkingArea, event.airplane.id,
          .emit .departQueueSize (state.departQueue.length + 1 : Nat)⟩ ::
        ⟨state.simTime, .parkingArea, event.airplane.id, .notify⟩ ::
        ⟨state.simTime, .parkingArea, event.airplane.id,
          .emit .parkedPlanes (state.numParked - 1)⟩ ::
        state.trace } : Network).Itinerant := by
  unfold Network.Itinerant
  rw [Network.roster_queue]
  refine itinerant.move [
    ⟨state.simTime, .parkingArea, event.airplane.id,
      .emit .departQueueSize (state.departQueue.length + 1 : Nat)⟩,
    ⟨state.simTime, .parkingArea, event.airplane.id, .notify⟩,
    ⟨state.simTime, .parkingArea, event.airplane.id,
      .emit .parkedPlanes (state.numParked - 1)⟩]
    rfl (by simp) ?_
  intro stage atStage
  have parked := at_pending atStage
  rw [kind] at parked
  obtain ⟨down, stay, rfl, stamped, time⟩ := parked
  have asked : state.simTime = down.finish + stay := due.symm.trans time
  exact ⟨.queued down stay, .queued stamped asked,
    by simp [List.filter_cons, Stage.history, asked]⟩

/-- A landed airplane begins to park. -/
private theorem park {event : Event}
    (itinerant : Itineraries (.pending event ::ₘ state.roster) state.created state.trace)
    (kind : event.kind = .landing) (due : event.time = state.simTime) :
    (state.park config event.airplane).Itinerant := by
  let duration := config.sim.duration config.par.parking state.rngDraws
  unfold Network.Itinerant
  rw [Network.roster_park]
  refine itinerant.move [
    ⟨state.simTime, .parkingArea, event.airplane.id,
      .scheduleAt (state.simTime + duration)⟩,
    ⟨state.simTime, .parkingArea, event.airplane.id,
      .emit .parkedPlanes (state.numParked + 1)⟩]
    rfl (by simp) ?_
  intro stage atStage
  have landing := at_pending atStage
  rw [kind] at landing
  obtain ⟨down, rfl, stamped, time⟩ := landing
  have finishes : state.simTime = down.finish := due.symm.trans time
  refine ⟨.parked down duration, .parked rfl stamped ?_, ?_⟩
  · rw [← finishes]
  · simp [Stage.history, Stage.parkedCalls, finishes]

/-- An airplane that has taken off leaves the system, with whatever else is recorded at
the end of the run. -/
private theorem depart (closing : List Record) {event : Event}
    (itinerant : Itineraries (.pending event ::ₘ state.roster) state.created state.trace)
    (kind : event.kind = .takeoff) (due : event.time = state.simTime)
    (own : ∀ record ∈ closing, record.plane = event.airplane.id)
    (quiet : closing.filter Record.personal = []) :
    Itineraries state.roster state.created
      (closing ++ (state.depart event.airplane).trace) := by
  have left := itinerant.leave (closing ++ [
    ⟨state.simTime, .airspace, event.airplane.id, .delete⟩,
    ⟨state.simTime, .airspace, event.airplane.id,
      .emit .airportResponseTime (state.simTime - event.airplane.timestamp)⟩])
    (by simpa [or_imp, forall_and] using own) ?_
  · rw [List.append_assoc] at left
    exact left
  intro stage atStage
  have takingOff := at_pending atStage
  rw [kind] at takingOff
  obtain ⟨down, stay, up, rfl, stamped, asked, time⟩ := takingOff
  have finishes : state.simTime = up.finish := due.symm.trans time
  refine ⟨down, stay, up, asked, ?_⟩
  rw [List.filter_append, quiet]
  simp [List.filter_cons, Stage.history, finishes, stamped]

theorem transition (itinerant : state.Itinerant) {event : Event}
    (member : event ∈ state.futureEvents)
    (transition : Transition config (state.take event) event next) :
    next.Itinerant := by
  have taken : Itineraries (.pending event ::ₘ (state.take event).roster)
      (state.take event).created (state.take event).trace := by
    rw [← Network.roster_take member]
    exact itinerant
  cases transition with
  | landNow kind => exact (landNow taken kind).scheduleNext
  | hold kind => exact (hold taken kind).scheduleNext
  | takeOffNow kind => exact takeOffNow taken kind rfl
  | queue kind => exact queue taken kind rfl
  | landed kind completed => exact (park taken kind rfl).completed completed
  | left kind _ completed =>
      have departed : ((state.take event).depart event.airplane).Itinerant :=
        depart [] taken kind rfl (by simp) rfl
      exact departed.completed completed
  | finished kind =>
      exact depart [
        ⟨event.time, .airspace, event.airplane.id, .endSimulation⟩,
        ⟨event.time, .airspace, event.airplane.id, .emit .totalSimtime event.time⟩]
        taken kind rfl (by simp) (by simp)

end Network.Itinerant

theorem initialState_itinerant : (initialState config).Itinerant := by
  have empty : Itineraries 0 0 [] := ⟨by simp, by simp, by simp, by simp, by simp⟩
  unfold Network.Itinerant
  rw [Network.roster_initialState]
  exact empty.enter
    [⟨0, .airspace, 0, .scheduleAt (0 +
      config.sim.duration config.par.interArrival fun _ => 0)⟩]
    rfl rfl (by simp) (by simp)

/-- Every reachable state knows the itineraries of its airplanes. -/
theorem Reachable.itinerant (reachable : Reachable config state) : state.Itinerant := by
  refine Reachable.invariant Network.Itinerant initialState_itinerant ?_ reachable
  intro source event target _ _ isNext itinerant transition
  exact itinerant.transition isNext.1 transition

end AirTrafficControl
