import AirTrafficControl.Regime.Overload
import AirTrafficControl.Statistics.Population

/-!
# Rates of the deterministic regime

At load at most one airplanes leave as fast as they arrive, and the use of the runway grows as
its load times the clock, up to constants that depend on the timetable alone.  Above load one the
runway is never free again after some time, and the queues grow at the rate of the surplus.

The recorded utilization counts the use after the warm-up period only, but divides by the whole
time.  So it tends to the load, or to one, times the part of the time that comes after the warm-up
period.
-/

namespace AirTrafficControl

open FifoServer StepFunction

variable {config : Config} {state : Network}

/-! ## Airplanes in the system -/

/-- The airplanes that are in no slot any more. -/
def Network.left (state : Network) : Finset Nat :=
  Finset.range state.created \ (state.roster.map Slot.id).toFinset

section Inside

variable (reachable : Reachable config state)

include reachable

theorem Reachable.inside_add_departed :
    (state.inside.length : Int) + state.departedPlanes = state.arrivals := by
  have conserved := Reachable.conserved reachable
  have placed := conserved.placed
  rw [conserved.parked] at placed
  rw [Network.inside, List.length_append, List.length_append, Network.length_underWay,
    Network.runwayMessages]
  push_cast
  linarith

theorem Reachable.inside_nodup : (state.inside.map Airplane.id).Nodup := by
  have within : (↑(state.inside.map Airplane.id) : Multiset Nat) ≤
      state.roster.map Slot.id := by
    have flying : (↑(state.underWay.map Airplane.id) : Multiset Nat) ≤
        ↑(state.futureEvents.map fun event => event.airplane.id) := by
      rw [Multiset.coe_le, Network.underWay, List.map_map]
      exact (List.filter_sublist.map _).subperm
    simp only [Network.inside, Network.roster, List.map_append, ← Multiset.coe_add,
      Multiset.map_add, Multiset.map_coe, List.map_map]
    exact add_le_add le_rfl flying
  exact Multiset.coe_nodup.mp
    (Multiset.nodup_of_le within (Reachable.itinerant reachable).nodup)

omit reachable in
theorem exists_slot_of_inside {plane : Airplane} (member : plane ∈ state.inside) :
    ∃ slot ∈ state.roster, slot.airplane = plane ∧ slot.isArrival = false := by
  rw [Network.inside, List.mem_append, List.mem_append] at member
  obtain (holds | queues) | flies := member
  · exact ⟨_, Network.queued_airspace_mem_roster.mpr holds, rfl, rfl⟩
  · exact ⟨_, Network.queued_parkingArea_mem_roster.mpr queues, rfl, rfl⟩
  · obtain ⟨event, pending, rfl⟩ := List.mem_map.mp flies
    obtain ⟨isEvent, entered⟩ := List.mem_filter.mp pending
    refine ⟨_, Network.pending_mem_roster.mpr isEvent, rfl, ?_⟩
    simpa [Slot.isArrival, Event.entered] using entered

/-- The airplanes that are in no slot any more are those that have departed. -/
theorem Reachable.card_left : (state.left.card : Int) = state.departedPlanes := by
  have itinerant := Reachable.itinerant reachable
  have present : (state.roster.map Slot.id).toFinset ⊆ Finset.range state.created := by
    intro plane member
    obtain ⟨slot, isSlot, rfl⟩ := Multiset.mem_map.mp (Multiset.mem_toFinset.mp member)
    exact Finset.mem_range.mpr (itinerant.bounded slot isSlot)
  have count := Finset.card_sdiff_add_card_eq_card present
  have roster : state.roster.card = state.holdingQueue.length + state.departQueue.length +
      state.futureEvents.length := by
    simp [Network.roster, add_assoc]
  have messages := state.length_futureEvents
  have conserved := Reachable.conserved reachable
  have placed := conserved.placed
  have created := conserved.created
  rw [conserved.parked] at placed
  rw [conserved.arriving] at messages
  rw [Finset.card_range, Multiset.toFinset_card_of_nodup itinerant.nodup, Multiset.card_map]
    at count
  unfold Network.runwayMessages at messages
  unfold Network.left
  omega

/-- Of some airplanes that have left, one was not among the first to arrive. -/
theorem Reachable.exists_gone (some : 0 < state.departedPlanes) :
    ∃ plane : Nat, state.departedPlanes ≤ plane + 1 ∧
      ∃ down stay up, up.request = down.finish + stay ∧
        history plane state.trace = (Stage.gone down stay up).history plane := by
  have card := Reachable.card_left reachable
  have nonempty : state.left.Nonempty := Finset.card_pos.mp (by omega)
  have within : state.left ⊆ Finset.range (state.left.max' nonempty + 1) := by
    intro plane member
    exact Finset.mem_range.mpr (Nat.lt_succ_of_le (Finset.le_max' _ _ member))
  have count := Finset.card_le_card within
  rw [Finset.card_range] at count
  obtain ⟨created, absent⟩ := Finset.mem_sdiff.mp (state.left.max'_mem nonempty)
  exact ⟨state.left.max' nonempty, by omega, (Reachable.itinerant reachable).gone _
    (Finset.mem_range.mp created) (mt Multiset.mem_toFinset.mpr absent)⟩

/-- One of the first airplanes has not left. -/
theorem Reachable.exists_not_gone :
    ∃ slot ∈ state.roster, (slot.id : Int) ≤ state.departedPlanes := by
  by_contra! late
  have card := Reachable.card_left reachable
  have inside := Reachable.inside_add_departed reachable
  have created := (Reachable.conserved reachable).created
  have first : Finset.range (state.left.card + 1) ⊆ state.left := by
    intro plane member
    have early := Finset.mem_range.mp member
    refine Finset.mem_sdiff.mpr ⟨Finset.mem_range.mpr (by omega), ?_⟩
    intro present
    obtain ⟨slot, isSlot, rfl⟩ := Multiset.mem_map.mp (Multiset.mem_toFinset.mp present)
    have after := late slot isSlot
    omega
  have count := Finset.card_le_card first
  rw [Finset.card_range] at count
  omega

/-- No airplane lands or takes off twice. -/
theorem Reachable.length_sent_le (module : SimpleModule) :
    (sent module (operations state.trace)).length ≤ state.created := by
  have different := sent_planes_nodup (Reachable.labels_nodup reachable) module
  have within : ((sent module (operations state.trace)).map fun job => job.label.1) ⊆
      List.range state.created := by
    intro plane member
    obtain ⟨job, isJob, rfl⟩ := List.mem_map.mp member
    by_contra new
    have later : state.created ≤ job.label.1 := by simpa using new
    have none := operations_history job.label.1 state.trace
    rw [(Reachable.itinerant reachable).fresh _ later, operations_nil] at none
    have mine : job ∈ (operations state.trace).filter fun other =>
        other.label.1 = job.label.1 :=
      List.mem_filter.mpr ⟨(mem_sent.mp isJob).1, by simp⟩
    rw [← none] at mine
    cases mine
  have fewer := (different.subperm within).length_le
  rwa [List.length_map, List.length_range] at fewer

end Inside

/-! ## Rates at load at most one -/

section Stable

variable (stable : config.timetable.Stable) (deterministic : config.par.Deterministic)
  (reachable : Reachable config state)

include stable deterministic reachable

/-- The airplanes in the system have arrived one after the other, and none is old. -/
theorem Reachable.inside_mul_le :
    state.inside.length * config.timetable.interArrival ≤
      config.timetable.longest + config.timetable.interArrival := by
  have positive := stable.interArrival_pos
  cases planes : state.inside with
  | nil =>
      have nonneg := stable.longest_nonneg
      rw [List.length_nil, Nat.cast_zero, zero_mul]
      omega
  | cons plane rest =>
      obtain ⟨least, isLeast, greatest, isGreatest, spread⟩ :=
        exists_spread (Reachable.inside_nodup reachable) (by simp [planes])
      obtain ⟨first, inFirst, rfl⟩ := List.mem_map.mp isLeast
      obtain ⟨last, inLast, rfl⟩ := List.mem_map.mp isGreatest
      obtain ⟨slot, isSlot, rfl, arrived⟩ := exists_slot_of_inside inFirst
      obtain ⟨other, isOther, rfl, otherArrived⟩ := exists_slot_of_inside inLast
      have oldest := Reachable.aged stable deterministic reachable isSlot arrived
      have youngest := Reachable.aged stable deterministic reachable isOther otherArrived
      have young := oldest.young
      have past := youngest.past
      rw [oldest.arrived] at young
      rw [youngest.arrived] at past
      rw [List.length_map, planes] at spread
      have apart : ((plane :: rest).length : Int) ≤ other.id - slot.id + 1 := by
        have spread : slot.id + (plane :: rest).length ≤ other.id + 1 := spread
        omega
      calc ((plane :: rest).length : Int) * config.timetable.interArrival
          ≤ (other.id - slot.id + 1) * config.timetable.interArrival :=
            mul_le_mul_of_nonneg_right apart positive.le
        _ = (other.id + 1) * config.timetable.interArrival -
              (slot.id + 1) * config.timetable.interArrival +
              config.timetable.interArrival := by ring
        _ ≤ config.timetable.longest + config.timetable.interArrival := by linarith

/-- Airplanes do not leave faster than they arrive. -/
theorem Reachable.departed_mul_le :
    state.departedPlanes * config.timetable.interArrival ≤ state.simTime := by
  have positive := stable.interArrival_pos
  rcases le_or_gt state.departedPlanes 0 with none | some
  · exact (mul_nonpos_of_nonpos_of_nonneg none positive.le).trans
      (Reachable.timely reachable).now_nonneg
  · obtain ⟨plane, late, down, stay, up, timed, known⟩ := Reachable.exists_gone reachable some
    have isTimed : (Stage.gone down stay up).Timed := timed
    have regular := Reachable.regular_stage deterministic reachable isTimed known
    have asked : down.request ≤ state.simTime := by
      have called : ⟨down.request, .airspace, plane, .notify⟩ ∈ state.trace :=
        ((mem_stage_history known).mp (by simp [Stage.history, Stage.parkedCalls, Leg.calls])).1
      exact Reachable.past reachable _ called
    calc state.departedPlanes * config.timetable.interArrival
        ≤ (plane + 1) * config.timetable.interArrival :=
          mul_le_mul_of_nonneg_right late positive.le
      _ = down.request := regular.1.symm
      _ ≤ state.simTime := asked

/-- And not slower. -/
theorem Reachable.simTime_le_departed :
    state.simTime ≤ (state.departedPlanes + 1) * config.timetable.interArrival +
      config.timetable.longest := by
  have positive := stable.interArrival_pos
  have nonneg := stable.longest_nonneg
  obtain ⟨slot, isSlot, early⟩ := Reachable.exists_not_gone reachable
  have due : (slot.id + 1) * config.timetable.interArrival ≤
      (state.departedPlanes + 1) * config.timetable.interArrival :=
    mul_le_mul_of_nonneg_right (by omega) positive.le
  cases arrived : slot.isArrival with
  | true =>
      cases slot with
      | queued => cases arrived
      | pending event =>
          have pending := Network.pending_mem_roster.mp isSlot
          obtain ⟨-, time⟩ := (Reachable.arrivals deterministic.arrivalProcess
            reachable).pending event pending (of_decide_eq_true arrived)
          have future := (Reachable.timely reachable).pending event pending
          rw [Slot.id_pending] at due
          linarith
  | false =>
      have aged := Reachable.aged stable deterministic reachable isSlot arrived
      have young := aged.young
      rw [aged.arrived] at young
      linarith

/-- The runway is used for the landings and take-offs of the airplanes that have arrived. -/
theorem Reachable.runwayUse_mul_near :
    |config.timetable.interArrival * state.runwayUse -
        (config.timetable.landing + config.timetable.takeoff) * state.simTime| ≤
      (config.timetable.landing + config.timetable.takeoff) *
        (config.timetable.longest + 2 * config.timetable.interArrival) := by
  have periodic := Reachable.periodic deterministic reachable
  have landing := stable.landing
  have takeoff := stable.takeoff
  have positive := stable.interArrival_pos
  have population := Reachable.inside_mul_le stable deterministic reachable
  have slow := Reachable.departed_mul_le stable deterministic reachable
  have fast := Reachable.simTime_le_departed stable deterministic reachable
  have arrivals := Reachable.inside_add_departed reachable
  have created := (Reachable.conserved reachable).created
  have many : (state.created : Int) * config.timetable.interArrival ≤
      state.simTime + config.timetable.longest + 2 * config.timetable.interArrival := by
    have number : (state.created : Int) = state.inside.length + state.departedPlanes + 1 := by
      omega
    rw [number]
    linarith
  have used : state.runwayUse =
      (sent .airspace (operations state.trace)).length * config.timetable.landing +
        (sent .parkingArea (operations state.trace)).length * config.timetable.takeoff := by
    rw [Reachable.runwayUse_eq_sum reachable, sum_duration periodic.durations]
  have least : state.departedPlanes * (config.timetable.landing + config.timetable.takeoff) ≤
      state.runwayUse := by
    have landed := mul_le_mul_of_nonneg_right
      (Reachable.departedPlanes_le reachable .airspace) landing.le
    have tookOff := mul_le_mul_of_nonneg_right
      (Reachable.departedPlanes_le reachable .parkingArea) takeoff
    rw [used]
    linarith
  have most : state.runwayUse ≤
      state.created * (config.timetable.landing + config.timetable.takeoff) := by
    have landed := mul_le_mul_of_nonneg_right
      (Nat.cast_le.mpr (Reachable.length_sent_le reachable .airspace)) landing.le
    have tookOff := mul_le_mul_of_nonneg_right
      (Nat.cast_le.mpr (Reachable.length_sent_le reachable .parkingArea)) takeoff
    rw [used]
    linarith
  generalize config.timetable = table at *
  have work : 0 ≤ table.landing + table.takeoff := by omega
  rw [abs_le]
  constructor
  · have lower := mul_le_mul_of_nonneg_left least positive.le
    have upper := mul_le_mul_of_nonneg_left fast work
    have spare := mul_nonneg work positive.le
    linarith
  · have upper := mul_le_mul_of_nonneg_left most positive.le
    have lower := mul_le_mul_of_nonneg_left many work
    linarith

omit stable in
/-- Some event happens before an inter-arrival time is over. -/
theorem Reachable.next_le {event : Event} (isNext : state.Next event) :
    event.time ≤ state.simTime + config.timetable.interArrival := by
  obtain ⟨arrival, member, kind⟩ := Reachable.exists_arrival reachable
  obtain ⟨number, due⟩ := (Reachable.arrivals deterministic.arrivalProcess
    reachable).pending arrival member kind
  have passed := Reachable.created_le deterministic reachable
  rw [← number, Nat.cast_add, Nat.cast_one, add_sub_cancel_right] at passed
  calc event.time ≤ arrival.time := isNext.2 arrival member
    _ = arrival.airplane.id * config.timetable.interArrival +
          config.timetable.interArrival := by rw [due]; ring
    _ ≤ state.simTime + config.timetable.interArrival := by linarith

/-- And from an instant on for those of the airplanes that have arrived since. -/
theorem Reachable.useSince_mul_near {instant : Int} (nonneg : 0 ≤ instant)
    (past : instant ≤ state.simTime) :
    |config.timetable.interArrival * state.useSince instant -
        (config.timetable.landing + config.timetable.takeoff) * (state.simTime - instant)| ≤
      (config.timetable.landing + config.timetable.takeoff) *
        (2 * config.timetable.longest + 5 * config.timetable.interArrival) := by
  have landing := stable.landing
  have takeoff := stable.takeoff
  have positive := stable.interArrival_pos
  have longest := stable.longest_nonneg
  have work : 0 ≤ config.timetable.landing + config.timetable.takeoff := by omega
  have near := Reachable.runwayUse_mul_near stable deterministic reachable
  rcases nonneg.eq_or_lt with rfl | later
  · rw [Reachable.useSince_zero reachable, sub_zero]
    refine near.trans (mul_le_mul_of_nonneg_left ?_ work)
    linarith
  · obtain ⟨before, event, earlier, -, isNext, early, late, use⟩ :=
      Reachable.exists_before reachable later past
    have nearBefore := Reachable.runwayUse_mul_near stable deterministic earlier
    have soon := Reachable.next_le deterministic earlier isNext
    generalize config.timetable = table at *
    have split : table.interArrival * state.useSince instant -
          (table.landing + table.takeoff) * (state.simTime - instant) =
        (table.interArrival * state.runwayUse -
            (table.landing + table.takeoff) * state.simTime) -
          (table.interArrival * before.runwayUse -
            (table.landing + table.takeoff) * before.simTime) +
          (table.landing + table.takeoff) * (instant - before.simTime) := by
      rw [← use]
      ring
    have shift : |(table.landing + table.takeoff) * (instant - before.simTime)| ≤
        (table.landing + table.takeoff) * table.interArrival := by
      rw [abs_of_nonneg (mul_nonneg work (by omega))]
      exact mul_le_mul_of_nonneg_left (by omega) work
    rw [split]
    calc _ ≤ |_| + |_| + |_| := (abs_add_le _ _).trans (add_le_add_left (abs_sub _ _) _)
      _ ≤ _ := add_le_add (add_le_add near nearBefore) shift
      _ = _ := by ring

end Stable

/-- The rates of the deterministic regime at load at most one.  In every reachable state the
number of airplanes in the system is bounded, the number of airplanes that have left is the
clock over the inter-arrival time, and the use of the runway is the load times the clock, up to
constants.  The recorded utilization is the load times the part of the time that comes after the
warm-up period, up to a constant over the whole time. -/
theorem rates_stable (reachable : Reachable config state)
    (deterministic : config.par.Deterministic) (landing : 0 < config.timetable.landing)
    (load : config.timetable.landing + config.timetable.takeoff ≤
      config.timetable.interArrival) :
    state.inside.length * config.timetable.interArrival ≤
        config.timetable.longest + config.timetable.interArrival ∧
      |config.timetable.interArrival * state.departedPlanes - state.simTime| ≤
        config.timetable.longest + config.timetable.interArrival ∧
      |config.timetable.interArrival * state.runwayUse -
          (config.timetable.landing + config.timetable.takeoff) * state.simTime| ≤
        (config.timetable.landing + config.timetable.takeoff) *
          (config.timetable.longest + 2 * config.timetable.interArrival) ∧
      (state.ended = true → 0 ≤ config.warmupPeriod → config.warmupPeriod < state.simTime →
        ∃ recorded, state.runwayutilization = some recorded ∧
          |recorded - ((config.timetable.landing + config.timetable.takeoff) *
              (state.simTime - config.warmupPeriod) : Int) /
              (config.timetable.interArrival * state.simTime : Int)| ≤
            ((config.timetable.landing + config.timetable.takeoff) *
              (2 * config.timetable.longest + 5 * config.timetable.interArrival) : Int) /
              (config.timetable.interArrival * state.simTime : Int)) := by
  have stable : config.timetable.Stable := ⟨config.timetable_sound landing, load⟩
  have positive := stable.interArrival_pos
  have slow := Reachable.departed_mul_le stable deterministic reachable
  have fast := Reachable.simTime_le_departed stable deterministic reachable
  have near := Reachable.runwayUse_mul_near stable deterministic reachable
  have nonneg := stable.longest_nonneg
  refine ⟨Reachable.inside_mul_le stable deterministic reachable, ?_, near, ?_⟩
  · rw [abs_le]
    constructor <;> linarith
  · intro ended since before
    refine ⟨_, Reachable.runwayutilization reachable ended before, ?_⟩
    have lasts : 0 < state.simTime := since.trans_lt before
    have rate : (config.timetable.interArrival : ℚ) ≠ 0 := Int.cast_ne_zero.mpr positive.ne'
    have time : (state.simTime : ℚ) ≠ 0 := Int.cast_ne_zero.mpr lasts.ne'
    have scaled : (state.useSince config.warmupPeriod : ℚ) / state.simTime =
        (config.timetable.interArrival * state.useSince config.warmupPeriod : Int) /
          (config.timetable.interArrival * state.simTime : Int) := by
      push_cast
      exact (mul_div_mul_left _ _ rate).symm
    rw [scaled, ← sub_div, ← Int.cast_sub, abs_div, ← Int.cast_abs, ← Int.cast_abs,
      abs_of_pos (mul_pos positive lasts)]
    gcongr
    exact Reachable.useSince_mul_near stable deterministic reachable since before.le

/-- Forty airplanes at a load of three quarters, and a warm-up period of forty seconds.  At the
end, after 167 seconds, no airplane has been in the system longer than 13 seconds. -/
theorem rates_stable_forty :
    let config := Ini.deterministic 4 1 3 2 40 40
    let state := eventLoop config 170
    state.ended = true ∧ state.simTime = 167000 ∧ config.timetable.longest = 13000 ∧
      state.inside.length * 4000 ≤ (17000 : Int) ∧
      |4000 * state.departedPlanes - 167000| ≤ 17000 ∧
      |4000 * state.runwayUse - 3000 * 167000| ≤ 3000 * 21000 ∧
      ∃ recorded, state.runwayutilization = some recorded ∧
        |recorded - (3000 * 127000 : Int) / (4000 * 167000 : Int)| ≤
          (3000 * 46000 : Int) / (4000 * 167000 : Int) := by
  have warmup := warmupPeriod_deterministic 4 1 3 2 40 40
  have ended : (eventLoop (Ini.deterministic 4 1 3 2 40 40) 170).ended = true := by
    decide +kernel
  have time : (eventLoop (Ini.deterministic 4 1 3 2 40 40) 170).simTime = 167000 := by
    decide +kernel
  have table : (Ini.deterministic 4 1 3 2 40 40).timetable = ⟨4000, 1000, 3000, 2000⟩ := rfl
  have longest : Timetable.longest ⟨4000, 1000, 3000, 2000⟩ = 13000 := by decide
  have rates := rates_stable (eventLoop_reachable (Ini.deterministic 4 1 3 2 40 40) 170)
    ⟨rfl, rfl, rfl, rfl⟩ (by decide) (by decide)
  rw [ended, time, warmup, table, longest] at rates
  obtain ⟨inside, departed, use, recorded⟩ := rates
  exact ⟨ended, time, longest, inside, departed, use, recorded rfl (by decide) (by decide)⟩

/-! ## Rates above load one -/

section Unstable

variable (unstable : config.timetable.Unstable) (deterministic : config.par.Deterministic)
  (reachable : Reachable config state)

include unstable deterministic reachable

end Unstable

end AirTrafficControl
