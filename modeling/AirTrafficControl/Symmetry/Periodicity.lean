import AirTrafficControl.Order.Overtaking
import AirTrafficControl.Order.Rounds
import AirTrafficControl.Symmetry.Relative

/-!
# Eventual periodicity

A run of the deterministic regime at load at most one comes to a relative state for the second
time.  From then on it repeats itself, a period later, with other airplanes.  When this happens
depends on the timetable alone: runs of one timetable take the same course until the first of
them ends.
-/

namespace AirTrafficControl

variable {config other : Config} {state next : Network} {event : Event}

/-! ## Runs of one timetable -/

/-- How long each kind of message takes. -/
def Timetable.duration (table : Timetable) : Kind → Int
  | .arrival => table.interArrival
  | .landing => table.landing
  | .parking => table.parking
  | .takeoff => table.takeoff

section Timetable

variable (deterministic : config.par.Deterministic)

include deterministic

theorem Parameters.Deterministic.advance_timing (kind : Kind) (draws : Nat → Nat) :
    config.sim.advance (config.par.timing kind) draws = draws := by
  obtain ⟨interArrival, landing, parking, takeoff⟩ := deterministic
  cases kind <;>
    simp [Omnetpp.advance, Parameters.timing, Parameters.interArrival, Parameters.landing,
      Parameters.parking, Parameters.takeoff, interArrival, landing, parking, takeoff]

theorem Parameters.Deterministic.duration_timing (kind : Kind) (draws : Nat → Nat) :
    config.sim.duration (config.par.timing kind) draws = config.timetable.duration kind := by
  cases kind with
  | arrival => exact deterministic.duration_interArrival draws
  | landing => exact deterministic.duration_landing draws
  | parking => exact deterministic.duration_parking draws
  | takeoff => exact deterministic.duration_takeoff draws

theorem Parameters.Deterministic.fits {scale : Rescaling}
    (otherDeterministic : other.par.Deterministic)
    (same : other.timetable = config.timetable) (unit : scale.factor = 1) :
    config.Fits scale other := by
  constructor
  · intro kind draws
    rw [unit, one_mul, otherDeterministic.duration_timing, deterministic.duration_timing,
      same]
  · intro kind draws
    rw [otherDeterministic.advance_timing, deterministic.advance_timing]

/-- Nothing is drawn from the random number streams. -/
theorem Reachable.rngDraws (reachable : Reachable config state) :
    state.rngDraws = fun _ => 0 := by
  have advance := deterministic.advance_timing
  have completed : ∀ {state next}, Completed config state next →
      next.rngDraws = state.rngDraws := by
    intro state next completed
    cases completed with
    | idle => rfl
    | land => exact advance .landing _
    | takeOff => exact advance .takeoff _
  refine Reachable.invariant (·.rngDraws = fun _ => 0) ?_ ?_ reachable
  · exact advance .arrival _
  · intro source event target _ _ _ still transition
    have same : target.rngDraws = source.rngDraws := by
      cases transition with
      | landNow => exact (advance .arrival _).trans (advance .landing _)
      | hold => exact advance .arrival _
      | takeOffNow => exact advance .takeoff _
      | queue | finished => rfl
      | landed _ closed => exact (completed closed).trans (advance .parking _)
      | left _ _ closed => exact (completed closed).trans rfl
    exact same.trans still

/-- A run takes the course of any longer run of its timetable until it ends. -/
theorem eventLoop_longer (otherDeterministic : other.par.Deterministic)
    (same : other.timetable = config.timetable)
    (longer : config.totalSamples ≤ other.totalSamples) {count : Nat}
    (running : (eventLoop config count).ended = false) :
    Rescaled (.multiply 1 Int.one_pos) (eventLoop config count) (eventLoop other count) := by
  have fits : config.Fits (.multiply 1 Int.one_pos) other :=
    deterministic.fits otherDeterministic same rfl
  induction count with
  | zero => exact .initialState fits
  | succ count ih =>
      have before := eventLoop_running_of_le (Nat.le_succ count) running
      have together := ih before
      apply eventLoop_rescaled fits together
      intro event isNext takeoff
      obtain ⟨other, isOther, transition⟩ := eventLoop_step before
      rw [isNext, Option.some.injEq] at isOther
      subst isOther
      have more : (eventLoop config count).departedPlanes + 1 < config.totalSamples :=
        transition.more running takeoff
      have departed := together.departed.trans (add_zero _)
      rw [departed]
      exact ⟨fun _ => more.trans_le longer, fun _ => more⟩

end Timetable

theorem Rescaled.trace_eq (rescaled : Rescaled (.multiply 1 Int.one_pos) state next) :
    next.trace = state.trace := by
  obtain ⟨calls, trace, trace'⟩ := rescaled.traced
  have identity : ∀ record, (Rescaling.multiply 1 Int.one_pos).record record = record := by
    rintro ⟨time, module, plane, call⟩
    have instant : ∀ time, (Rescaling.multiply 1 Int.one_pos).instant time = time := by
      simp [Rescaling.multiply, Rescaling.instant]
    have value : ∀ signal value,
        (Rescaling.multiply 1 Int.one_pos).value signal value = value := by
      intro signal value
      cases signal <;>
        first | rfl | exact instant value | exact one_mul value
    have planes : (Rescaling.multiply 1 Int.one_pos).planes = 0 := rfl
    have factor : (Rescaling.multiply 1 Int.one_pos).factor = 1 := rfl
    cases call <;>
      simp [Rescaling.record, Rescaling.call, instant, value, planes, factor]
  rw [trace, trace', List.map_congr_left fun record _ => identity record, List.map_id']
  rfl

/-! ## Recurrence -/

/-- The same simulation with another number of samples, for which an `int` is wide enough. -/
def Config.lasting (config : Config) (totalSamples : Int) : Config where
  sim := { config.sim with
    intBits := totalSamples.natAbs + 32
    intBits_ge := Nat.le_add_left _ _ }
  par := { config.par with totalSamples }

@[simp] theorem Config.totalSamples_lasting (config : Config) (totalSamples : Int) :
    (config.lasting totalSamples).totalSamples = totalSamples := by
  have small : totalSamples.natAbs < 2 ^ (totalSamples.natAbs + 31) :=
    Nat.lt_two_pow_self.trans_le (Nat.pow_le_pow_right Nat.two_pos (Nat.le_add_right _ _))
  have fits : |totalSamples| < 2 ^ (totalSamples.natAbs + 31) := by
    rw [Int.abs_eq_natAbs]
    exact_mod_cast small
  obtain ⟨least, most⟩ := abs_lt.mp fits
  exact Config.totalSamples_eq _ least.le most

theorem Parameters.Deterministic.lasting (deterministic : config.par.Deterministic)
    (totalSamples : Int) : (config.lasting totalSamples).par.Deterministic :=
  ⟨deterministic.interArrival, deterministic.landing, deterministic.parking,
    deterministic.takeoff⟩

/-- After two rounds of a run the relative state is the same.  The second time, `period` more
airplanes have been created. -/
structure Recurs (config : Config) (first second start period : Nat) : Prop where
  ordered : first < second
  early : (second : Int) < config.totalSamples
  created : (eventLoop config first).created = start
  later : (eventLoop config second).created = start + period
  same : (eventLoop config second).relative = (eventLoop config first).relative

theorem Reachable.pending_eq_of_relative {kind : Kind}
    (same : next.relative = state.relative) : next.pending kind = state.pending kind := by
  have count : ∀ network : Network, network.pending kind =
      network.relative.futureEvents.countP fun event => event.1 = kind := by
    intro network
    rw [Network.pending, Network.relative, List.countP_map]
    rfl
  rw [count, count, same]

/-- The events yet to handle for the airplanes that are in the system. -/
def Network.outstanding (state : Network) : Int :=
  3 * (state.holdingQueue.length + state.pending .landing) + 2 * state.pending .parking +
    (state.departQueue.length + state.pending .takeoff)

theorem Reachable.handled_add_outstanding (reachable : Reachable config state) :
    state.handled + state.outstanding = 4 * (state.created - 1) := by
  have conserved := Reachable.conserved reachable
  have created := conserved.created
  have placed := conserved.placed
  rw [conserved.parked] at placed
  unfold Network.handled Network.outstanding
  omega

theorem outstanding_of_relative (same : next.relative = state.relative) :
    next.outstanding = state.outstanding := by
  have holding : next.holdingQueue.length = state.holdingQueue.length := by
    simpa [Network.relative] using congrArg (·.holdingQueue.length) same
  have depart : next.departQueue.length = state.departQueue.length := by
    simpa [Network.relative] using congrArg (·.departQueue.length) same
  have pending : ∀ kind, next.pending kind = state.pending kind := fun kind =>
    Reachable.pending_eq_of_relative same
  rw [Network.outstanding, holding, depart, pending, pending, pending]
  rfl

/-- Between two rounds with the same relative state some airplane is created: every round
handles an event, and as many are outstanding as before. -/
theorem created_lt_of_relative {first second : Nat} (ordered : first < second)
    (running : (eventLoop config second).ended = false)
    (same : (eventLoop config second).relative = (eventLoop config first).relative) :
    (eventLoop config first).created < (eventLoop config second).created := by
  have handled := eventLoop_handled running
  have handledBefore := eventLoop_handled (eventLoop_running_of_le ordered.le running)
  have total := Reachable.handled_add_outstanding (eventLoop_reachable config second)
  have totalBefore := Reachable.handled_add_outstanding (eventLoop_reachable config first)
  rw [outstanding_of_relative same] at total
  omega

/-- Every long run of a stable timetable recurs, always in the same two rounds. -/
theorem exists_recurs (stable : config.timetable.Stable)
    (deterministic : config.par.Deterministic) :
    ∃ first second start period : Nat, 1 ≤ period ∧ ∀ totalSamples : Int,
      second < totalSamples →
        Recurs (config.lasting totalSamples) first second start period := by
  let lasts (round : Nat) : Config := config.lasting (round + 1)
  have running : ∀ round : Nat, (eventLoop (lasts round) round).ended = false := by
    intro round
    apply eventLoop_running
    rw [Config.totalSamples_lasting]
    exact lt_add_one (round : Int)
  have bounded : ∀ round : Nat,
      (eventLoop (lasts round) round).relative.Bounded config.timetable.limit := by
    intro round
    have alsoStable : (lasts round).timetable.Stable := stable
    have limited := Reachable.relative_bounded alsoStable (deterministic.lasting _)
      (eventLoop_reachable (lasts round) round)
    exact limited
  obtain ⟨first, second, ordered, same⟩ :=
    (finite_bounded config.timetable.limit).exists_lt_map_eq_of_forall_mem bounded
  -- longer runs take the same course
  have longer : ∀ (round : Nat) (totalSamples : Int), round < totalSamples →
      Rescaled (.multiply 1 Int.one_pos) (eventLoop (lasts round) round)
        (eventLoop (config.lasting totalSamples) round) := by
    intro round totalSamples early
    have long : (lasts round).totalSamples ≤ (config.lasting totalSamples).totalSamples := by
      rw [Config.totalSamples_lasting, Config.totalSamples_lasting]
      exact early
    have sameTable : (config.lasting totalSamples).timetable = (lasts round).timetable := rfl
    exact eventLoop_longer (deterministic.lasting _) (deterministic.lasting _) sameTable long
      (running round)
  have recurs : ∀ totalSamples : Int, second < totalSamples →
      (eventLoop (config.lasting totalSamples) second).relative =
        (eventLoop (config.lasting totalSamples) first).relative := by
    intro totalSamples early
    rw [(longer second totalSamples early).relative_eq rfl, ← same]
    exact ((longer first totalSamples (by omega)).relative_eq rfl).symm
  have created : ∀ (round : Nat) (totalSamples : Int), round < totalSamples →
      (eventLoop (config.lasting totalSamples) round).created =
        (eventLoop (lasts round) round).created :=
    fun round totalSamples early => (longer round totalSamples early).created
  have early : (second : Int) < second + 1 := lt_add_one _
  have grows := created_lt_of_relative ordered (running second) (recurs _ early)
  rw [created first _ (by omega)] at grows
  refine ⟨first, second, (eventLoop (lasts first) first).created,
    (eventLoop (lasts second) second).created - (eventLoop (lasts first) first).created,
    by omega, ?_⟩
  intro totalSamples early
  refine ⟨ordered, early.trans_eq (Config.totalSamples_lasting _ _).symm,
    created first totalSamples (by omega), ?_, recurs totalSamples early⟩
  rw [created second totalSamples early]
  omega

/-! ## After the recurrence -/

namespace Recurs

variable {first second start period : Nat}

/-- The run repeats itself. -/
theorem rescaled (recurs : Recurs config first second start period)
    (deterministic : config.par.Deterministic) {rounds : Nat}
    (early : ((second + rounds : Nat) : Int) < config.totalSamples) :
    Rescaled (.shift (eventLoop config first) (eventLoop config second))
      (eventLoop config (first + rounds)) (eventLoop config (second + rounds)) := by
  have reachable := eventLoop_reachable config
  have ordered := recurs.ordered
  induction rounds with
  | zero =>
      have running := eventLoop_running early
      apply Rescaled.of_relative recurs.same (eventLoop_created_le ordered.le)
      · rw [Reachable.rngDraws deterministic (reachable second),
          Reachable.rngDraws deterministic (reachable first)]
      · exact running.trans (eventLoop_running_of_le ordered.le running).symm
      · rw [(Reachable.conserved (reachable second)).parked,
          (Reachable.conserved (reachable first)).parked,
          Reachable.pending_eq_of_relative recurs.same]
  | succ rounds ih =>
      apply eventLoop_rescaled (deterministic.fits deterministic rfl rfl) (ih (by omega))
      intro event _ _
      have departed := eventLoop_departedPlanes_le config (first + rounds)
      have departedLater := eventLoop_departedPlanes_le config (second + rounds)
      constructor <;> (intro _; omega)

/-- A wait that has been sampled has been sampled before, for the airplane a period
earlier. -/
theorem wait (recurs : Recurs config first second start period)
    (deterministic : config.par.Deterministic) {round plane : Nat} {time wait : Int}
    {origin module : SimpleModule} (early : (round : Int) < config.totalSamples)
    (late : start ≤ plane)
    (member : ⟨time, origin, plane + period, .emit module.waitingTime wait⟩ ∈
      (eventLoop config round).trace) :
    ∃ earlier < round, ∃ time', ⟨time', origin, plane, .emit module.waitingTime wait⟩ ∈
      (eventLoop config earlier).trace := by
  have future : ∀ {round}, round ≤ second →
      ⟨time, origin, plane + period, .emit module.waitingTime wait⟩ ∉
        (eventLoop config round).trace := by
    intro round before called
    have created : _ ≤ (eventLoop config second).created := eventLoop_created_le before
    rw [recurs.later] at created
    have none := (Reachable.itinerant (eventLoop_reachable config round)).fresh
      (plane + period) (by omega)
    have own : (⟨time, origin, plane + period, .emit module.waitingTime wait⟩ : Record) ∈
        history (plane + period) (eventLoop config round).trace := by
      refine List.mem_filter.mpr ⟨called, ?_⟩
      cases module <;> simp [SimpleModule.waitingTime]
    rw [none] at own
    cases own
  have after : second ≤ round := not_lt.mp fun before => future before.le member
  obtain ⟨rounds, rfl⟩ := Nat.exists_eq_add_of_le after
  obtain ⟨calls, trace, trace'⟩ := (recurs.rescaled deterministic early).traced
  rw [trace'] at member
  rcases List.mem_append.mp member with repeated | old
  · obtain ⟨⟨time', origin', plane', call⟩, called, same⟩ := List.mem_map.mp repeated
    simp only [Rescaling.record, Record.mk.injEq] at same
    obtain ⟨-, rfl, planes, sample⟩ := same
    have shift : plane' + ((eventLoop config second).created -
        (eventLoop config first).created) = plane + period := planes
    rw [recurs.later, recurs.created] at shift
    obtain rfl : plane' = plane := by omega
    cases call with
    | emit signal value =>
        simp only [Rescaling.call, Call.emit.injEq] at sample
        obtain ⟨rfl, value'⟩ := sample
        have unit : value = wait := by
          rw [← value']
          cases module <;> exact (one_mul value).symm
        refine ⟨first + rounds, Nat.add_lt_add_right recurs.ordered rounds, time', ?_⟩
        rw [trace, ← unit]
        exact List.mem_append_left _ called
    | _ => cases sample
  · exact absurd old (future le_rfl)

end Recurs

/-! ## Waits and departures -/

/-- A wait is sampled before the run ends. -/
theorem eventLoop_wait_running {count : Nat} {module : SimpleModule} {record : Record}
    {wait : Int} (member : record ∈ (eventLoop config count).trace)
    (sample : record.call = .emit module.waitingTime wait) :
    ∃ round ≤ count, (eventLoop config round).ended = false ∧
      record ∈ (eventLoop config round).trace := by
  induction count with
  | zero => exact ⟨0, le_rfl, rfl, member⟩
  | succ count ih =>
      cases ended : (eventLoop config (count + 1)).ended with
      | false => exact ⟨count + 1, le_rfl, ended, member⟩
      | true =>
          have before : record ∈ (eventLoop config count).trace := by
            cases endedBefore : (eventLoop config count).ended with
            | true => rwa [eventLoop_stopped endedBefore] at member
            | false =>
                obtain ⟨event, _, transition⟩ := eventLoop_step endedBefore
                rcases transition.trace_or endedBefore with running | ⟨calls, trace, quiet⟩
                · rw [running] at ended
                  cases ended
                · rw [trace] at member
                  rcases List.mem_append.mp member with new | old
                  · exact absurd sample (quiet record new module wait)
                  · exact old
          obtain ⟨round, early, running, earlier⟩ := ih before
          exact ⟨round, early.trans (Nat.le_succ count), running, earlier⟩

/-- The values that an airplane has left on a signal. -/
def Network.values (state : Network) (plane : Nat) (signal : Signal) : List Int :=
  (state.about plane (Record.sample signal)).map Prod.snd

theorem mem_values {time value : Int} {origin : SimpleModule} {plane : Nat}
    {signal : Signal} (member : ⟨time, origin, plane, .emit signal value⟩ ∈ state.trace) :
    value ∈ state.values plane signal := by
  refine List.mem_map.mpr ⟨(time, value), List.mem_filterMap.mpr ⟨_, member, ?_⟩, rfl⟩
  simp [Record.sample]

/-- In every run of the timetable the waits of an airplane are those of the one a period
later: this holds in a run that is longer. -/
theorem values_of_recurs {first second start period : Nat}
    (deterministic : config.par.Deterministic)
    (recurs : ∀ totalSamples : Int, second < totalSamples →
      Recurs (config.lasting totalSamples) first second start period)
    (otherDeterministic : other.par.Deterministic)
    (same : other.timetable = config.timetable) {count plane : Nat} (late : start ≤ plane)
    (module : SimpleModule) {origin : SimpleModule} {time wait : Int}
    (member : ⟨time, origin, plane + period, .emit module.waitingTime wait⟩ ∈
      (eventLoop other count).trace) :
    wait ∈ (eventLoop other count).values plane module.waitingTime := by
  obtain ⟨round, before, running, sampled⟩ := eventLoop_wait_running member rfl
  let samples : Int := max other.totalSamples (second + count + 1)
  let longer := config.lasting samples
  have longerDeterministic : longer.par.Deterministic := deterministic.lasting _
  have lasts : longer.totalSamples = samples := Config.totalSamples_lasting _ _
  have atLeast : other.totalSamples ≤ longer.totalSamples := by
    rw [lasts]
    exact le_max_left _ _
  have enough : (second : Int) + count < samples :=
    lt_of_lt_of_le (lt_add_one _) (le_max_right _ _)
  have course : ∀ {round}, (eventLoop other round).ended = false →
      (eventLoop longer round).trace = (eventLoop other round).trace := fun running =>
    (eventLoop_longer otherDeterministic longerDeterministic same.symm atLeast
      running).trace_eq
  have here : Recurs longer first second start period := recurs samples (by omega)
  rw [← course running] at sampled
  obtain ⟨earlier, lower, time', sampledEarlier⟩ :=
    here.wait longerDeterministic (by omega) late sampled
  rw [course (eventLoop_running_of_le lower.le running)] at sampledEarlier
  exact mem_values (eventLoop_trace_subset (lower.le.trans before) sampledEarlier)

/-- The waits of an airplane that has left determine its response time. -/
theorem Reachable.values_of_deleted (deterministic : config.par.Deterministic)
    (reachable : Reachable config state) {plane : Nat} (deleted : state.Deleted plane) :
    ∃ down up : Leg,
      ⟨down.start, .airspace, plane, .emit .holdingQueueWaitingTime down.wait⟩ ∈
        state.trace ∧
      ⟨up.start, .parkingArea, plane, .emit .departQueueWaitingTime up.wait⟩ ∈
        state.trace ∧
      state.values plane .holdingQueueWaitingTime = [down.wait] ∧
      state.values plane .departQueueWaitingTime = [up.wait] ∧
      state.values plane .airportResponseTime =
        [down.wait + config.timetable.landing + config.timetable.parking + up.wait +
          config.timetable.takeoff] := by
  obtain ⟨down, stay, up, asked, known⟩ := Reachable.gone_of_deleted reachable deleted
  obtain ⟨-, lasts, stays, -, flies⟩ := Reachable.regular_stage deterministic reachable
    (show Stage.Timed (.gone down stay up) from asked) known
  have recorded : ∀ record ∈ (Stage.gone down stay up).history plane,
      record ∈ state.trace := fun record called => ((mem_stage_history known).mp called).1
  have response : up.finish - down.request = down.wait + config.timetable.landing +
      config.timetable.parking + up.wait + config.timetable.takeoff := by
    rw [Leg.finish, Leg.start, asked, Leg.finish, Leg.start, lasts, stays, flies]
    ring
  refine ⟨down, up, recorded _ ?_, recorded _ ?_, ?_, ?_, ?_⟩
  · simp [Stage.history, Stage.parkedCalls, Leg.calls, SimpleModule.waitingTime]
  · simp [Stage.history, Leg.calls, SimpleModule.waitingTime]
  · rw [Network.values, about_eq_history (sample_personal (by simp)), known]
    rfl
  · rw [Network.values, about_eq_history (sample_personal (by simp)), known]
    rfl
  · rw [Network.values, about_eq_history (sample_personal (by simp)), known, ← response]
    rfl

/-- Airplanes leave in the order of their numbers. -/
theorem eventLoop_deleted (constant : config.par.isParkingTimeRandom = false)
    {count plane later : Nat} (ordered : plane ≤ later)
    (deleted : (eventLoop config count).Deleted later) :
    (eventLoop config count).Deleted plane := by
  have passed : ∀ {plane}, plane ∈ (eventLoop config count).passed .leaves ↔
      (eventLoop config count).Deleted plane := by
    intro plane
    constructor
    · intro member
      obtain ⟨⟨time, module, who, call⟩, reached, rfl⟩ := List.mem_map.mp member
      obtain ⟨called, leaves⟩ := List.mem_filter.mp reached
      refine ⟨_, called, rfl, ?_⟩
      cases call <;> simp_all [Milestone.reached]
    · rintro ⟨⟨time, module, who, call⟩, called, rfl, rfl⟩
      exact List.mem_map.mpr ⟨_, List.mem_filter.mpr ⟨called, rfl⟩, rfl⟩
  have inOrder := eventLoop_inOrder constant count
  exact passed.mp (inOrder.passed_of_le ordered (passed.mpr deleted))

/-- Eventual periodicity of the deterministic regime at load at most one.  There are a number
and a period, which depend on the timetable alone, such that from that number on an airplane
and the one a period later, once this has left, have waited equally long for their landings
and for their take-offs, and have the same response time. -/
theorem eventually_periodic (table : Timetable) (stable : table.Stable) :
    ∃ start period : Nat, 1 ≤ period ∧ ∀ config : Config, config.par.Deterministic →
      config.timetable = table → ∀ count plane : Nat, start ≤ plane →
      (eventLoop config count).Deleted (plane + period) →
      ∃ holdingWait departWait response : Int, ∀ which ∈ [plane, plane + period],
        (eventLoop config count).values which .holdingQueueWaitingTime = [holdingWait] ∧
        (eventLoop config count).values which .departQueueWaitingTime = [departWait] ∧
        (eventLoop config count).values which .airportResponseTime = [response] := by
  by_cases some : ∃ base : Config, base.par.Deterministic ∧ base.timetable = table
  · obtain ⟨base, baseDeterministic, rfl⟩ := some
    obtain ⟨first, second, start, period, positive, recurs⟩ :=
      exists_recurs stable baseDeterministic
    refine ⟨start, period, positive, ?_⟩
    intro config deterministic same count plane late deleted
    have reachable := eventLoop_reachable config count
    have left := eventLoop_deleted deterministic.parking (Nat.le_add_right plane period)
      deleted
    obtain ⟨down, up, -, -, holding, depart, response⟩ :=
      Reachable.values_of_deleted deterministic reachable left
    obtain ⟨later, laterUp, landed, tookOff, laterHolding, laterDepart, laterResponse⟩ :=
      Reachable.values_of_deleted deterministic reachable deleted
    have holdingWait : later.wait = down.wait := by
      have member := values_of_recurs baseDeterministic recurs deterministic same late
        .airspace landed
      rwa [SimpleModule.waitingTime, holding, List.mem_singleton] at member
    have departWait : laterUp.wait = up.wait := by
      have member := values_of_recurs baseDeterministic recurs deterministic same late
        .parkingArea tookOff
      rwa [SimpleModule.waitingTime, depart, List.mem_singleton] at member
    rw [holdingWait] at laterHolding laterResponse
    rw [departWait] at laterDepart laterResponse
    refine ⟨down.wait, up.wait, down.wait + base.timetable.landing +
      base.timetable.parking + up.wait + base.timetable.takeoff, ?_⟩
    rw [same] at response laterResponse
    intro which member
    rcases List.mem_pair.mp member with rfl | rfl
    · exact ⟨holding, depart, response⟩
    · exact ⟨laterHolding, laterDepart, laterResponse⟩
  · refine ⟨0, 1, le_rfl, ?_⟩
    intro config deterministic same
    exact absurd ⟨config, deterministic, same⟩ some

/-- An airplane every five seconds, landings of three and take-offs of two.  In the run below
the waits repeat themselves from the fifth airplane on, with period four. -/
theorem eventually_periodic_full :
    (∃ start period : Nat, 1 ≤ period ∧ ∀ config : Config, config.par.Deterministic →
      config.timetable = ⟨5000, 3000, 6000, 2000⟩ → ∀ count plane : Nat, start ≤ plane →
      (eventLoop config count).Deleted (plane + period) →
      ∃ holdingWait departWait response : Int, ∀ which ∈ [plane, plane + period],
        (eventLoop config count).values which .holdingQueueWaitingTime = [holdingWait] ∧
        (eventLoop config count).values which .departQueueWaitingTime = [departWait] ∧
        (eventLoop config count).values which .airportResponseTime = [response]) ∧
      let config := Ini.deterministic 5 3 6 2 12 0
      let state := eventLoop config 60
      let values (signal : Signal) := [4, 5, 6, 7, 8, 9, 10, 11].map (state.values · signal)
      config.timetable = ⟨5000, 3000, 6000, 2000⟩ ∧ state.Deleted 11 ∧
        values .holdingQueueWaitingTime = [[2000], [0], [0], [2000], [2000], [0], [0], [2000]] ∧
        values .departQueueWaitingTime =
          [[2000], [1000], [1000], [2000], [2000], [1000], [1000], [2000]] ∧
        values .airportResponseTime =
          [[15000], [12000], [12000], [15000], [15000], [12000], [12000], [15000]] :=
  ⟨eventually_periodic ⟨5000, 3000, 6000, 2000⟩
      ⟨⟨by decide, by decide, by decide⟩, by decide⟩,
    rfl, by unfold Network.Deleted; decide +kernel, by decide +kernel, by decide +kernel,
    by decide +kernel⟩

end AirTrafficControl
