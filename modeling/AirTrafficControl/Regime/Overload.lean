import AirTrafficControl.Regime.Ages
import AirTrafficControl.Statistics.RunwayTime

/-!
# The deterministic regime above load one

More airplanes arrive than the runway can serve.  An airplane that has left has used it for a
landing and a take-off, and the time for that was there only once.  Few airplanes are parked
at a time, since they have landed one after the other, and at most one is on the runway.  All
the others are in the queues.
-/

namespace AirTrafficControl

open FifoServer StepFunction

variable {config : Config} {state : Network}

/-- A timetable with more work than the runway can do. -/
structure Timetable.Unstable (table : Timetable) : Prop extends table.Sound where
  interArrival : 0 < table.interArrival
  load : table.interArrival < table.landing + table.takeoff

/-- Every airplane that has left is one of those that have landed and taken off. -/
theorem Reachable.departedPlanes_le (reachable : Reachable config state)
    (module : SimpleModule) :
    state.departedPlanes ≤ (sent module (operations state.trace)).length := by
  have itinerant := Reachable.itinerant reachable
  have conserved := Reachable.conserved reachable
  have everybody : Finset.range state.created ⊆
      (state.roster.map Slot.id).toFinset ∪
        ((sent module (operations state.trace)).map fun job => job.label.1).toFinset := by
    intro plane created
    rw [Finset.mem_union, Multiset.mem_toFinset, List.mem_toFinset, or_iff_not_imp_left]
    intro absent
    obtain ⟨down, stay, up, -, known⟩ :=
      itinerant.gone plane (Finset.mem_range.mp created) absent
    have jobs := operations_history plane state.trace
    rw [known, Stage.operations_history] at jobs
    have job : ∃ job ∈ Stage.jobs plane (.gone down stay up), job.label = (plane, module) := by
      cases module with
      | airspace => exact ⟨_, List.mem_cons_of_mem _ List.mem_cons_self, rfl⟩
      | parkingArea => exact ⟨_, List.mem_cons_self, rfl⟩
    obtain ⟨job, member, label⟩ := job
    rw [jobs] at member
    exact List.mem_map.mpr ⟨job, mem_sent.mpr
      ⟨(List.mem_filter.mp member).1, congrArg Prod.snd label⟩, congrArg Prod.fst label⟩
  have count := Finset.card_le_card everybody
  rw [Finset.card_range] at count
  have both := count.trans (Finset.card_union_le _ _)
  have present := Multiset.toFinset_card_le (state.roster.map Slot.id)
  have sentPlanes := List.toFinset_card_le
    ((sent module (operations state.trace)).map fun job => job.label.1)
  rw [Multiset.card_map] at present
  rw [List.length_map] at sentPlanes
  have roster : state.roster.card = state.holdingQueue.length + state.departQueue.length +
      state.futureEvents.length := by
    simp [Network.roster, add_assoc]
  have messages := state.length_futureEvents
  have placed := conserved.placed
  have created := conserved.created
  rw [conserved.parked] at placed
  rw [conserved.arriving] at messages
  unfold Network.runwayMessages at messages
  omega

section Deterministic

variable (deterministic : config.par.Deterministic) (reachable : Reachable config state)

include deterministic reachable

/-- No operation takes longer than a landing or a take-off. -/
theorem Reachable.duration_le : ∀ job ∈ operations state.trace,
    job.duration ≤ max config.timetable.landing config.timetable.takeoff := by
  intro job member
  obtain ⟨lands, takesOff⟩ :=
    (Reachable.periodic deterministic reachable).durations job member
  cases module : job.label.2 with
  | airspace => exact (lands module).trans_le (le_max_left _ _)
  | parkingArea => exact (takesOff module).trans_le (le_max_right _ _)

theorem Reachable.remainingUse_le (sound : config.timetable.Sound) :
    state.remainingUse ≤ max config.timetable.landing config.timetable.takeoff := by
  have nonneg : 0 ≤ max config.timetable.landing config.timetable.takeoff :=
    le_max_of_le_left sound.landing.le
  rw [Reachable.remainingUse_eq reachable]
  cases latest : (operations state.trace).head? with
  | none => exact nonneg
  | some last =>
      have member := List.mem_of_mem_head? latest
      have started := Reachable.start_le reachable last member
      have lasts := Reachable.duration_le deterministic reachable last member
      rw [Option.elim_some, Job.finish]
      exact max_le nonneg (by linarith)

/-- Airplanes leave no faster than the runway can serve them. -/
theorem Reachable.departedPlanes_mul_le (sound : config.timetable.Sound) :
    state.departedPlanes * (config.timetable.landing + config.timetable.takeoff) ≤
      state.simTime + max config.timetable.landing config.timetable.takeoff := by
  have periodic := Reachable.periodic deterministic reachable
  have landed := mul_le_mul_of_nonneg_right
    (Reachable.departedPlanes_le reachable .airspace) sound.landing.le
  have tookOff := mul_le_mul_of_nonneg_right
    (Reachable.departedPlanes_le reachable .parkingArea) sound.takeoff
  have used : state.runwayUse ≤
      state.simTime + max config.timetable.landing config.timetable.takeoff := by
    have remaining := Reachable.remainingUse_le deterministic reachable sound
    have whole := timeOn_add_timeOff state.occupancy 0 state.simTime
    have started := (Reachable.timely reachable).now_nonneg
    rw [Reachable.runwayUse_eq reachable]
    omega
  rw [Reachable.runwayUse_eq_sum reachable, sum_duration periodic.durations] at used
  rw [mul_add]
  linarith

/-- Few airplanes are parked at a time: they have landed one after the other. -/
theorem Reachable.numParked_le (sound : config.timetable.Sound) :
    state.numParked ≤ config.timetable.parking / config.timetable.landing + 1 := by
  let parked := state.futureEvents.filter fun event => event.kind = .parking
  let recent := (sent .airspace (operations state.trace)).filter fun job =>
    state.simTime - config.timetable.parking ≤ job.finish ∧ job.finish ≤ state.simTime
  have landed : parked.map (fun event => event.airplane.id) ⊆
      recent.map fun job => job.label.1 := by
    intro plane member
    obtain ⟨event, isParked, rfl⟩ := List.mem_map.mp member
    obtain ⟨pending, kind⟩ := List.mem_filter.mp isParked
    have parking : event.kind = .parking := of_decide_eq_true kind
    obtain ⟨stage, atStage, regular, past, jobs⟩ := Reachable.stage_of_slot deterministic
      reachable (Network.pending_mem_roster.mpr pending)
    have future := (Reachable.timely reachable).pending event pending
    cases atStage with
    | @parked _ down stay _ _ time =>
        obtain ⟨-, -, stays⟩ := regular
        have finished : down.finish ≤ state.simTime := past _ List.mem_cons_self
        rw [time, stays] at future
        refine List.mem_map.mpr ⟨_, List.mem_filter.mpr
          ⟨mem_sent.mpr ⟨jobs _ List.mem_cons_self, rfl⟩, ?_⟩, rfl⟩
        have inside : state.simTime - config.timetable.parking ≤ down.finish := by omega
        exact decide_eq_true ⟨inside, finished⟩
    | arriving other | landing other | takingOff other =>
        exact absurd (other.symm.trans parking) (by decide)
  have distinct : (parked.map fun event => event.airplane.id).Nodup := by
    have within : (↑(state.futureEvents.map fun event => event.airplane.id) : Multiset Nat) ≤
        state.roster.map Slot.id := by
      simp only [Network.roster, Multiset.map_add, Multiset.map_coe, List.map_map]
      exact Multiset.le_add_left _ _
    have ids := Multiset.nodup_of_le within (Reachable.itinerant reachable).nodup
    exact (Multiset.coe_nodup.mp ids).sublist (List.filter_sublist.map _)
  have fewer := (distinct.subperm landed).length_le
  have long : ∀ job ∈ recent, config.timetable.landing ≤ job.duration := by
    intro job member
    obtain ⟨performed, module⟩ := mem_sent.mp (List.mem_filter.mp member).1
    exact ((Reachable.periodic deterministic reachable).landing job performed module).1.ge
  have nonneg := sound.parking
  have few : recent.length * config.timetable.landing ≤
      state.simTime - (state.simTime - config.timetable.parking) + config.timetable.landing :=
    (Reachable.serverConsistent reachable).served.length_mul_le
      (List.filter_sublist.trans List.filter_sublist) sound.landing.le long
      (sub_le_self state.simTime nonneg)
      fun job member => of_decide_eq_true (List.mem_filter.mp member).2
  rw [List.length_map, List.length_map] at fewer
  have counted : state.numParked = parked.length := by
    rw [(Reachable.conserved reachable).parked, Network.pending,
      List.countP_eq_length_filter]
  have others : state.numParked - 1 ≤
      config.timetable.parking / config.timetable.landing := by
    apply Int.le_ediv_of_mul_le sound.landing
    have scaled := mul_le_mul_of_nonneg_right (Nat.cast_le.mpr fewer) sound.landing.le
    rw [counted, sub_mul, one_mul]
    linarith
  linarith

/-- All airplanes but a few are waiting or have left. -/
theorem Reachable.created_le_queues (sound : config.timetable.Sound)
    (running : state.ended = false) :
    (state.created : Int) ≤ state.holdingQueue.length + state.departQueue.length +
      state.departedPlanes + config.timetable.parking / config.timetable.landing + 3 := by
  have created := (Reachable.conserved reachable).created
  have placed := (Reachable.conserved reachable).placed
  have parked := Reachable.numParked_le deterministic reachable sound
  have runway : state.pending .landing + state.pending .takeoff ≤ 1 := by
    have pending := (Reachable.runwayConsistent reachable running).pending
    unfold Network.runwayMessages at pending
    split at pending <;> omega
  omega

end Deterministic

/-- What the surplus of the runway's work cannot exceed while at most `bound` airplanes wait. -/
def Timetable.saturation (table : Timetable) (bound : Int) : Int :=
  table.interArrival *
    ((table.landing + table.takeoff) * (bound + table.parking / table.landing + 3) +
      max table.landing table.takeoff)

/-- The work that arrives in a tick and is not done in it. -/
def Timetable.surplus (table : Timetable) : Int :=
  table.landing + table.takeoff - table.interArrival

/-- An instant from which on more than `bound` airplanes wait. -/
def Timetable.crowded (table : Timetable) (bound : Nat) : Int :=
  table.saturation bound / table.surplus + 1

namespace Timetable.Unstable

variable {table : Timetable} (unstable : table.Unstable)

include unstable

theorem surplus_pos : 0 < table.surplus := by
  have load := unstable.load
  unfold Timetable.surplus
  omega

end Timetable.Unstable

section Unstable

variable (unstable : config.timetable.Unstable) (deterministic : config.par.Deterministic)
  (reachable : Reachable config state) (running : state.ended = false)

include unstable deterministic reachable running

/-- Until the next event the surplus is in the queues. -/
theorem Reachable.surplus_mul_le {event : Event} (isNext : state.Next event) {instant : Int}
    (since : state.simTime ≤ instant) (before : instant ≤ event.time) :
    config.timetable.surplus * instant ≤
      config.timetable.saturation (state.holdingQueue.length + state.departQueue.length) := by
  have sound := unstable.toSound
  have positive := unstable.interArrival
  have load := unstable.load
  have places := Reachable.created_le_queues deterministic reachable sound running
  have leave := Reachable.departedPlanes_mul_le deterministic reachable sound
  have arrive : instant ≤ state.created * config.timetable.interArrival := by
    obtain ⟨arrival, member, kind⟩ := Reachable.exists_arrival reachable
    obtain ⟨number, due⟩ := (Reachable.arrivals deterministic.arrivalProcess
      reachable).pending arrival member kind
    rw [← number, Nat.cast_add, Nat.cast_one, ← due]
    exact before.trans (isNext.2 arrival member)
  unfold Timetable.surplus Timetable.saturation
  generalize config.timetable = table at *
  have work : 0 ≤ table.landing + table.takeoff := by omega
  have arrived := mul_le_mul_of_nonneg_left arrive work
  have placed := mul_le_mul_of_nonneg_left places (mul_nonneg positive.le work)
  have left := mul_le_mul_of_nonneg_left (leave.trans (add_le_add_left since _)) positive.le
  linarith

/-- In particular until now. -/
theorem Reachable.surplus_mul_simTime_le :
    config.timetable.surplus * state.simTime ≤
      config.timetable.saturation (state.holdingQueue.length + state.departQueue.length) := by
  obtain ⟨event, isNext⟩ := Reachable.exists_nextEvent reachable
  have next := Network.nextEvent_next isNext
  exact Reachable.surplus_mul_le unstable deterministic reachable running next le_rfl
    ((Reachable.timely reachable).pending event next.1)

theorem Reachable.lt_queues_of_crowded {bound : Nat}
    (late : config.timetable.crowded bound ≤ state.simTime) :
    bound < state.holdingQueue.length + state.departQueue.length := by
  by_contra few
  have surplus := unstable.surplus_pos
  have waiting : ((state.holdingQueue.length + state.departQueue.length : Nat) : Int) ≤ bound :=
    Nat.cast_le.mpr (not_lt.mp few)
  push_cast at waiting
  have least : config.timetable.saturation
        (state.holdingQueue.length + state.departQueue.length) ≤
      config.timetable.saturation bound := by
    have positive := unstable.interArrival
    have load := unstable.load
    unfold Timetable.saturation
    gcongr
    omega
  have early : state.simTime ≤
      config.timetable.saturation bound / config.timetable.surplus := by
    apply Int.le_ediv_of_mul_le surplus
    rw [mul_comm]
    exact (Reachable.surplus_mul_simTime_le unstable deterministic reachable running).trans least
  unfold Timetable.crowded at late
  linarith

end Unstable

/-- Instability of the deterministic regime above load one.  From some time on, which depends
on the timetable alone, the queues together hold more airplanes than any given number, until
the run ends. -/
theorem queues_unstable (table : Timetable) (unstable : table.Unstable) (bound : Nat) :
    ∃ time : Int, ∀ (config : Config) (state : Network), config.par.Deterministic →
      config.timetable = table → Reachable config state → state.ended = false →
      time ≤ state.simTime →
      bound < state.holdingQueue.length + state.departQueue.length := by
  refine ⟨table.crowded bound, ?_⟩
  rintro config state deterministic rfl reachable running late
  exact Reachable.lt_queues_of_crowded unstable deterministic reachable running late

/-- With all four times a second more than a hundred airplanes wait from some time on, and more
than four in the 24th second of a run of forty airplanes. -/
theorem queues_unstable_second :
    (∃ time : Int, ∀ (config : Config) (state : Network), config.par.Deterministic →
      config.timetable = ⟨1000, 1000, 1000, 1000⟩ → Reachable config state →
      state.ended = false → time ≤ state.simTime →
      100 < state.holdingQueue.length + state.departQueue.length) ∧
      let config := Ini.deterministic 1 1 1 1 40 0
      let state := eventLoop config 60
      config.timetable = ⟨1000, 1000, 1000, 1000⟩ ∧ state.ended = false ∧
        config.timetable.crowded 4 ≤ state.simTime ∧
        4 < state.holdingQueue.length + state.departQueue.length :=
  ⟨queues_unstable ⟨1000, 1000, 1000, 1000⟩
      ⟨⟨by decide, by decide, by decide⟩, by decide, by decide⟩ 100,
    rfl, by decide +kernel, by decide +kernel, by decide +kernel⟩

end AirTrafficControl
