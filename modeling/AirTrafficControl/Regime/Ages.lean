import AirTrafficControl.Liveness.Progress
import AirTrafficControl.Regime.Deterministic
import AirTrafficControl.Statistics.Log

/-!
# Ages

At load at most one every airplane leaves the system within a bounded time, so only a bounded
number of airplanes is in the system, and every message is due within a bounded time.
-/

namespace AirTrafficControl

open FifoServer

variable {config : Config} {state : Network} {slot : Slot}

/-- The longest time from the arrival of an airplane to its departure, at load at most one. -/
def Timetable.longest (table : Timetable) : Int :=
  table.holdingWait + table.landing + table.parking + table.departWait + table.takeoff

theorem Timetable.Stable.longest_nonneg {table : Timetable} (stable : table.Stable) :
    0 ≤ table.longest := by
  have landing := stable.landing
  have parking := stable.parking
  have takeoff := stable.takeoff
  have holds := stable.holdingWait_nonneg
  have queues := stable.departWait_nonneg
  unfold Timetable.longest
  linarith

/-- A bound on the durations. -/
def Timetable.horizon (table : Timetable) : Int :=
  table.interArrival + table.landing + table.parking + table.takeoff

theorem Timetable.Sound.horizon_nonneg {table : Timetable} (sound : table.Sound)
    (nonneg : 0 ≤ table.interArrival) : 0 ≤ table.horizon := by
  have landing := sound.landing
  have parking := sound.parking
  have takeoff := sound.takeoff
  unfold Timetable.horizon
  omega

namespace Leg

variable (leg : Leg) (module : SimpleModule) (plane : Nat)

theorem start_mem_calls :
    ⟨leg.start, module, plane, .sendDelayed leg.duration⟩ ∈ leg.calls module plane := by
  simp [calls]

theorem request_mem_calls :
    ⟨leg.request, module, plane, .notify⟩ ∈ leg.calls module plane := by
  simp [calls]

end Leg

section Deterministic

variable (deterministic : config.par.Deterministic) (reachable : Reachable config state)

include deterministic reachable

/-- The clock has passed the arrival of every airplane but the next. -/
theorem Reachable.created_le :
    (state.created - 1) * config.timetable.interArrival ≤ state.simTime := by
  refine Reachable.invariant
    (fun state => (state.created - 1) * config.timetable.interArrival ≤ state.simTime)
    ?_ ?_ reachable
  · have first : ((initialState config).created : Int) - 1 = 0 := rfl
    rw [first, zero_mul]
    exact le_rfl
  · intro source event target reached _ isNext passed transition
    have handles : Handles config source event target := ⟨isNext, transition⟩
    have later := (Reachable.timely reached).pending event isNext.1
    rw [handles.simTime, handles.created]
    by_cases arrival : event.kind = .arrival
    · obtain ⟨number, due⟩ := (Reachable.arrivals deterministic.arrivalProcess
        reached).pending event isNext.1 arrival
      rw [if_pos arrival, due, ← number]
      push_cast
      rw [add_sub_cancel_right]
    · rw [if_neg arrival]
      exact passed.trans later

/-- What is known of an airplane in the system. -/
theorem Reachable.stage_of_slot (member : slot ∈ state.roster) :
    ∃ stage, At slot stage ∧ stage.Regular config.timetable slot.id ∧
      (∀ record ∈ stage.history slot.id, record.time ≤ state.simTime) ∧
      ∀ job ∈ stage.jobs slot.id, job ∈ operations state.trace := by
  obtain ⟨stage, atStage, known⟩ := (Reachable.itinerant reachable).staged slot member
  have timed : stage.Timed := by
    cases atStage with
    | takingOff _ _ asked => exact asked
    | _ => trivial
  refine ⟨stage, atStage, Reachable.regular_stage deterministic reachable timed known,
    ?_, ?_⟩
  · intro record called
    exact Reachable.past reachable record ((mem_stage_history known).mp called).1
  · intro job mine
    rw [← Stage.operations_history, ← known, operations_history] at mine
    exact (List.mem_filter.mp mine).1

/-- Pending messages are due soon. -/
theorem Reachable.event_le (sound : config.timetable.Sound)
    (nonneg : 0 ≤ config.timetable.interArrival) :
    ∀ event ∈ state.futureEvents,
      event.time ≤ state.simTime + config.timetable.horizon := by
  intro event member
  obtain ⟨landing, parking, takeoff⟩ := sound
  obtain ⟨stage, atStage, regular, past, -⟩ := Reachable.stage_of_slot deterministic
    reachable (Network.pending_mem_roster.mpr member)
  rw [Slot.id_pending] at regular past
  unfold Timetable.horizon
  cases atStage with
  | arriving kind =>
      obtain ⟨number, due⟩ := (Reachable.arrivals deterministic.arrivalProcess
        reachable).pending event member kind
      have passed := Reachable.created_le deterministic reachable
      rw [← number] at passed
      push_cast at passed
      rw [add_sub_cancel_right] at passed
      rw [due, add_mul, one_mul]
      linarith
  | @landing _ down _ _ time =>
      obtain ⟨-, lasts⟩ := regular
      have started : down.start ≤ state.simTime :=
        past _ (down.start_mem_calls .airspace _)
      rw [time, Leg.finish, lasts]
      linarith
  | @parked _ down stay _ _ time =>
      obtain ⟨-, -, stays⟩ := regular
      have landed : down.finish ≤ state.simTime :=
        past _ List.mem_cons_self
      rw [time, stays]
      linarith
  | @takingOff _ down stay up _ _ _ time =>
      obtain ⟨-, -, -, -, lasts⟩ := regular
      have started : up.start ≤ state.simTime :=
        past _ (List.mem_append_left _ (up.start_mem_calls .parkingArea _))
      rw [time, Leg.finish, lasts]
      linarith

end Deterministic

/-! ## Ages at load at most one -/

/-- An airplane in the system has arrived on time, and not too long ago. -/
structure Slot.Aged (slot : Slot) (table : Timetable) (now : Int) : Prop where
  arrived : slot.airplane.timestamp = (slot.id + 1) * table.interArrival
  past : slot.airplane.timestamp ≤ now
  young : now ≤ slot.airplane.timestamp + table.longest

section Stable

variable (stable : config.timetable.Stable) (deterministic : config.par.Deterministic)
  (reachable : Reachable config state)

include stable deterministic reachable

/-- The waits of a run at load at most one. -/
private theorem Reachable.waits_le : ∀ job ∈ operations state.trace,
    (job.label.2 = .airspace → job.wait ≤ config.timetable.holdingWait) ∧
    (job.label.2 = .parkingArea → job.wait ≤ config.timetable.departWait) := by
  have periodic := Reachable.periodic deterministic reachable
  have served := (Reachable.serverConsistent reachable).served
  intro job member
  exact ⟨stable.le_holdingWait periodic served job member,
    stable.le_departWait periodic served job member⟩

theorem Reachable.aged (member : slot ∈ state.roster) (arrived : slot.isArrival = false) :
    slot.Aged config.timetable state.simTime := by
  obtain ⟨stage, atStage, regular, past, jobs⟩ :=
    Reachable.stage_of_slot deterministic reachable member
  have waits := Reachable.waits_le stable deterministic reachable
  have pending := (Reachable.timely reachable).pending
  have landing := stable.landing
  have parking := stable.parking
  have takeoff := stable.takeoff
  have holds := stable.holdingWait_nonneg
  have queues := stable.departWait_nonneg
  cases atStage with
  | arriving kind => simp [Slot.isArrival, kind] at arrived
  | @holding plane stamped =>
      have asked : plane.timestamp ≤ state.simTime :=
        stamped ▸ past _ List.mem_cons_self
      obtain ⟨job, module, served, periodic, waited⟩ :=
        Reachable.next_landing deterministic reachable landing
          (Network.queued_airspace_mem_roster.mp member)
      have short := stable.le_holdingWait periodic served job List.mem_cons_self module
      refine ⟨stamped.trans regular, asked, ?_⟩
      show state.simTime ≤ plane.timestamp + config.timetable.longest
      rw [Timetable.longest, stamped]
      linarith
  | @landing event down _ stamped time =>
      obtain ⟨requested, lasts⟩ := regular
      have asked : down.request ≤ state.simTime :=
        past _ (down.request_mem_calls .airspace _)
      have future := pending event (Network.pending_mem_roster.mp member)
      have wait : down.wait ≤ _ :=
        down.job_wait ▸ (waits _ (jobs _ List.mem_cons_self)).1 rfl
      refine ⟨stamped.trans requested, stamped ▸ asked, ?_⟩
      show state.simTime ≤ event.airplane.timestamp + config.timetable.longest
      rw [time, Leg.finish, Leg.start, lasts] at future
      rw [Timetable.longest, stamped]
      linarith
  | @parked event down stay _ stamped time =>
      obtain ⟨requested, lasts, stays⟩ := regular
      have asked : down.request ≤ state.simTime :=
        past _ (List.mem_cons_of_mem _ (down.request_mem_calls .airspace _))
      have future := pending event (Network.pending_mem_roster.mp member)
      have wait : down.wait ≤ _ :=
        down.job_wait ▸ (waits _ (jobs _ List.mem_cons_self)).1 rfl
      refine ⟨stamped.trans requested, stamped ▸ asked, ?_⟩
      show state.simTime ≤ event.airplane.timestamp + config.timetable.longest
      rw [time, Leg.finish, Leg.start, lasts, stays] at future
      rw [Timetable.longest, stamped]
      linarith
  | @queued plane down stay stamped ready =>
      obtain ⟨requested, lasts, stays⟩ := regular
      have asked : down.request ≤ state.simTime :=
        past _ (List.mem_cons_of_mem _
          (List.mem_cons_of_mem _ (down.request_mem_calls .airspace _)))
      have wait : down.wait ≤ _ :=
        down.job_wait ▸ (waits _ (jobs _ List.mem_cons_self)).1 rfl
      obtain ⟨job, module, served, periodic, waited⟩ :=
        Reachable.next_takeoff deterministic reachable
          (Network.queued_parkingArea_mem_roster.mp member)
      have short := stable.le_departWait periodic served job List.mem_cons_self module
      refine ⟨stamped.trans requested, stamped ▸ asked, ?_⟩
      show state.simTime ≤ plane.timestamp + config.timetable.longest
      rw [ready, Leg.finish, Leg.start, lasts, stays] at waited
      rw [Timetable.longest, stamped]
      linarith
  | @takingOff event down stay up _ stamped ready time =>
      obtain ⟨requested, lasts, stays, -, flies⟩ := regular
      have asked : down.request ≤ state.simTime :=
        past _ (List.mem_append_right _
          (List.mem_cons_of_mem _ (down.request_mem_calls .airspace _)))
      have future := pending event (Network.pending_mem_roster.mp member)
      have wait : down.wait ≤ _ := down.job_wait ▸
        (waits _ (jobs _ (List.mem_cons_of_mem _ List.mem_cons_self))).1 rfl
      have otherWait : up.wait ≤ _ :=
        up.job_wait ▸ (waits _ (jobs _ List.mem_cons_self)).2 rfl
      refine ⟨stamped.trans requested, stamped ▸ asked, ?_⟩
      show state.simTime ≤ event.airplane.timestamp + config.timetable.longest
      rw [time, Leg.finish, Leg.start, ready, Leg.finish, Leg.start, lasts, stays, flies]
        at future
      rw [Timetable.longest, stamped]
      linarith

/-- The next arrivals are not far ahead of any airplane in the system. -/
theorem Reachable.created_sub_le (member : slot ∈ state.roster) :
    (state.created : Int) - slot.id ≤ config.timetable.longest + 2 := by
  have positive := stable.interArrival_pos
  have nonneg := stable.longest_nonneg
  cases arrived : slot.isArrival with
  | true =>
      cases slot with
      | queued => cases arrived
      | pending event =>
          obtain ⟨number, -⟩ := (Reachable.arrivals deterministic.arrivalProcess
            reachable).pending event (Network.pending_mem_roster.mp member)
            (of_decide_eq_true arrived)
          rw [Slot.id_pending]
          omega
  | false =>
      have aged := Reachable.aged stable deterministic reachable member arrived
      have passed := Reachable.created_le deterministic reachable
      have young := aged.young
      rw [aged.arrived] at young
      by_contra far
      have apart : config.timetable.longest + 1 ≤ state.created - slot.id - 2 := by omega
      have long : (config.timetable.longest + 1) * 1 ≤
          (state.created - slot.id - 2) * config.timetable.interArrival :=
        mul_le_mul apart positive zero_le_one (by omega)
      linarith

/-- An airplane in a queue has asked for the runway after its arrival. -/
theorem Reachable.timestamp_le {plane : Airplane} {module : SimpleModule}
    (member : .queued module plane ∈ state.roster) :
    plane.timestamp ≤ plane.queueArrivalTime := by
  obtain ⟨stage, atStage, regular, -, jobs⟩ :=
    Reachable.stage_of_slot deterministic reachable member
  cases atStage with
  | holding stamped => exact stamped.le
  | @queued _ down stay stamped ready =>
      obtain ⟨-, lasts, stays⟩ := regular
      have wait : 0 ≤ down.wait := down.job_wait ▸ waits_nonneg
        (Reachable.serverConsistent reachable).served _ (jobs _ List.mem_cons_self)
      have landing := stable.landing
      have parking := stable.parking
      rw [ready, stamped, Leg.finish, Leg.start, lasts, stays]
      omega

/-- A bounded number of airplanes is in the system. -/
theorem Reachable.card_roster_le :
    (state.roster.card : Int) ≤ config.timetable.longest + 2 := by
  have itinerant := Reachable.itinerant reachable
  have within : (state.roster.map Slot.id).toFinset ⊆
      Finset.Ico (state.created - (config.timetable.longest + 2).toNat) state.created := by
    intro plane member
    obtain ⟨slot, present, rfl⟩ := Multiset.mem_map.mp (Multiset.mem_toFinset.mp member)
    have near := Reachable.created_sub_le stable deterministic reachable present
    exact Finset.mem_Ico.mpr ⟨by omega, itinerant.bounded slot present⟩
  have count := Finset.card_le_card within
  have nonneg := stable.longest_nonneg
  rw [Multiset.toFinset_card_of_nodup itinerant.nodup, Multiset.card_map, Nat.card_Ico]
    at count
  omega

end Stable

end AirTrafficControl
