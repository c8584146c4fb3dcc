import AirTrafficControl.Queue.Operations
import Mathlib.Data.Finset.Max
import Mathlib.Order.Interval.Finset.Nat
import Mathlib.Tactic.Ring
import Mathlib.Tactic.Linarith

/-!
# Busy periods

Let airplanes arrive at least an inter-arrival time apart, let a landing and a take-off fit into
it, and let the time from the start of a landing to the request for the take-off vary by a jitter.
Then a short busy period holds few landings, and few take-offs unless some earlier landing had to
wait long.  The bounds on waiting times follow by induction on the jobs served.

The constants of the deterministic regime are limits without jitter.
-/

namespace AirTrafficControl

open FifoServer

/-! ## Distinct numbers spread -/

/-- Among `n + 1` different numbers two are `n` apart. -/
theorem exists_spread {numbers : List Nat} (different : numbers.Nodup)
    (some : numbers ≠ []) :
    ∃ least ∈ numbers, ∃ greatest ∈ numbers, least + numbers.length ≤ greatest + 1 := by
  have nonempty : numbers.toFinset.Nonempty := by
    rwa [List.toFinset_nonempty_iff]
  refine ⟨_, List.mem_toFinset.mp (numbers.toFinset.min'_mem nonempty), _,
    List.mem_toFinset.mp (numbers.toFinset.max'_mem nonempty), ?_⟩
  have inside : numbers.toFinset ⊆ Finset.Icc (numbers.toFinset.min' nonempty)
      (numbers.toFinset.max' nonempty) := by
    intro number member
    exact Finset.mem_Icc.mpr
      ⟨Finset.min'_le _ _ member, Finset.le_max' _ _ member⟩
  have count := Finset.card_le_card inside
  rw [Nat.card_Icc, List.toFinset_card_of_nodup different] at count
  have order : numbers.toFinset.min' nonempty ≤ numbers.toFinset.max' nonempty :=
    Finset.min'_le _ _ (Finset.max'_mem _ nonempty)
  omega

/-! ## Operations within limits -/

/-- Limits of the durations, in ticks. -/
structure Limits where
  /-- the least time between two arrivals -/
  interArrival : Int
  /-- the longest landing -/
  landing : Int
  /-- the longest take-off -/
  takeoff : Int
  /-- the least time for a landing and for parking -/
  ground : Int
  /-- by how much the time for a landing and for parking varies -/
  jitter : Int

/-- A landing and a take-off fit between two arrivals. -/
structure Limits.Stable (limits : Limits) : Prop where
  landing : 0 < limits.landing
  takeoff : 0 ≤ limits.takeoff
  jitter : 0 ≤ limits.jitter
  load : limits.landing + limits.takeoff ≤ limits.interArrival

/-- Operations, latest first, that keep to limits. -/
structure Paced (limits : Limits) (jobs : List Operation) : Prop where
  labels : (jobs.map Job.label).Nodup
  landing : ∀ job ∈ jobs, job.label.2 = .airspace → job.duration ≤ limits.landing
  apart : ∀ first ∈ jobs, first.label.2 = .airspace →
    ∀ last ∈ jobs, last.label.2 = .airspace → first.label.1 ≤ last.label.1 →
      (last.label.1 - first.label.1) * limits.interArrival ≤ last.request - first.request
  takeoff : ∀ job ∈ jobs, job.label.2 = .parkingArea → job.duration ≤ limits.takeoff
  returns : ∀ job ∈ jobs, job.label.2 = .parkingArea →
    ∃ down ∈ jobs, down.label = (job.label.1, .airspace) ∧ down.start < job.request ∧
      down.start + limits.ground ≤ job.request ∧
      job.request ≤ down.start + limits.ground + limits.jitter

/-- The landings or the take-offs of a list of operations. -/
def sent (module : SimpleModule) (jobs : List Operation) : List Operation :=
  jobs.filter fun job => job.label.2 = module

theorem mem_sent {module : SimpleModule} {jobs : List Operation} {job : Operation} :
    job ∈ sent module jobs ↔ job ∈ jobs ∧ job.label.2 = module := by
  simp [sent]

variable {job : Operation} {jobs older period : List Operation}

/-- The airplanes of one kind of operation are different. -/
theorem sent_planes_nodup (labels : (jobs.map Job.label).Nodup) (module : SimpleModule) :
    ((sent module jobs).map fun job => job.label.1).Nodup := by
  have kept : ((sent module jobs).map Job.label).Nodup :=
    labels.sublist (List.filter_sublist.map _)
  have split : ((sent module jobs).map fun job => job.label.1) =
      ((sent module jobs).map Job.label).map Prod.fst := by
    rw [List.map_map]
    rfl
  rw [split]
  apply kept.map_on
  intro first isFirst second isSecond same
  obtain ⟨one, member, rfl⟩ := List.mem_map.mp isFirst
  obtain ⟨two, otherMember, rfl⟩ := List.mem_map.mp isSecond
  exact Prod.ext same
    ((mem_sent.mp member).2.trans (mem_sent.mp otherMember).2.symm)

/-- Nobody waits a negative time. -/
theorem waits_nonneg (served : Served jobs) : ∀ job ∈ jobs, 0 ≤ job.wait := by
  induction jobs with
  | nil => simp
  | cons job older ih =>
      exact List.forall_mem_cons.mpr ⟨served.wait_nonneg, ih served.tail⟩

/-! ## Counting the operations of a busy period -/

namespace Paced

variable {limits : Limits}

theorem sum_duration_le (paced : Paced limits jobs) (within : List.Sublist period jobs) :
    (period.map Job.duration).sum ≤
      (sent .airspace period).length * limits.landing +
        (sent .parkingArea period).length * limits.takeoff := by
  induction period with
  | nil => simp [sent]
  | cons other rest ih =>
      have member := within.subset List.mem_cons_self
      have others := ih ((List.sublist_cons_self _ _).trans within)
      rw [List.map_cons, List.sum_cons]
      cases module : other.label.2 with
      | airspace =>
          have lasts := paced.landing other member module
          simp only [sent, List.filter_cons, module] at others ⊢
          simp at others ⊢
          linarith
      | parkingArea =>
          have lasts := paced.takeoff other member module
          simp only [sent, List.filter_cons, module] at others ⊢
          simp at others ⊢
          linarith

/-- The landing of an airplane that asks for its take-off is one of the jobs before. -/
theorem landing_older (paced : Paced limits (job :: older)) (served : Served (job :: older))
    {up : Operation} (member : up ∈ job :: older) (module : up.label.2 = .parkingArea) :
    ∃ down ∈ older, down.label = (up.label.1, .airspace) ∧ down.start < up.request ∧
      down.start + limits.ground ≤ up.request ∧
      up.request ≤ down.start + limits.ground + limits.jitter := by
  obtain ⟨down, isDown, label, after, known⟩ := paced.returns up member module
  rcases List.mem_cons.mp isDown with rfl | before
  · have started := served.request_le_start
    have asked : up.request ≤ down.request := by
      rcases List.mem_cons.mp member with rfl | before
      · exact le_rfl
      · exact served.request_le up before
    omega
  · exact ⟨down, before, label, after, known⟩

theorem tail (paced : Paced limits (job :: older)) (served : Served (job :: older)) :
    Paced limits older where
  labels := (List.nodup_cons.mp paced.labels).2
  landing other member := paced.landing other (List.mem_cons_of_mem _ member)
  apart first isFirst lands last isLast :=
    paced.apart first (List.mem_cons_of_mem _ isFirst) lands last
      (List.mem_cons_of_mem _ isLast)
  takeoff other member := paced.takeoff other (List.mem_cons_of_mem _ member)
  returns _ member := paced.landing_older served (List.mem_cons_of_mem _ member)

/-- Landings that are asked for in a span of time are few. -/
theorem landings_le (paced : Paced limits jobs) (within : List.Sublist period jobs)
    {begun ended : Int} (asked : ∀ job ∈ period, begun ≤ job.request)
    (before : ∀ job ∈ period, job.request ≤ ended)
    (some : sent .airspace period ≠ []) (nonneg : 0 ≤ limits.interArrival) :
    ((sent .airspace period).length - 1) * limits.interArrival ≤ ended - begun := by
  have different := sent_planes_nodup (paced.labels.sublist (within.map _)) .airspace
  obtain ⟨least, isLeast, greatest, isGreatest, spread⟩ :=
    exists_spread different (by simpa using some)
  obtain ⟨first, isFirst, rfl⟩ := List.mem_map.mp isLeast
  obtain ⟨last, isLast, rfl⟩ := List.mem_map.mp isGreatest
  obtain ⟨inFirst, firstModule⟩ := mem_sent.mp isFirst
  obtain ⟨inLast, lastModule⟩ := mem_sent.mp isLast
  rw [List.length_map] at spread
  have positive : 0 < (sent .airspace period).length := List.length_pos_of_ne_nil some
  have gap := paced.apart first (within.subset inFirst) firstModule last
    (within.subset inLast) lastModule (by omega)
  have apart : ((sent .airspace period).length - 1 : Int) ≤ last.label.1 - first.label.1 := by
    omega
  have early := asked first inFirst
  have late := before last inLast
  have longer := mul_le_mul_of_nonneg_right apart nonneg
  omega

/-- Take-offs that are asked for in a span of time are few, but for the jitter, or some landing
had to wait. -/
theorem takeoffs_le (paced : Paced limits (job :: older)) (served : Served (job :: older))
    (within : List.Sublist period (job :: older)) {begun ended : Int}
    (asked : ∀ job ∈ period, begun ≤ job.request)
    (before : ∀ job ∈ period, job.request ≤ ended)
    (some : sent .parkingArea period ≠ []) (nonneg : 0 ≤ limits.interArrival) :
    ∃ down ∈ older, down.label.2 = .airspace ∧
      ((sent .parkingArea period).length - 1) * limits.interArrival ≤
        ended - begun + down.wait + limits.jitter := by
  have different := sent_planes_nodup (paced.labels.sublist (within.map _)) .parkingArea
  obtain ⟨least, isLeast, greatest, isGreatest, spread⟩ :=
    exists_spread different (by simpa using some)
  obtain ⟨first, isFirst, rfl⟩ := List.mem_map.mp isLeast
  obtain ⟨last, isLast, rfl⟩ := List.mem_map.mp isGreatest
  obtain ⟨inFirst, firstModule⟩ := mem_sent.mp isFirst
  obtain ⟨inLast, lastModule⟩ := mem_sent.mp isLast
  obtain ⟨firstDown, isFirstDown, firstLabel, -, -, firstAsks⟩ :=
    paced.landing_older served (within.subset inFirst) firstModule
  obtain ⟨lastDown, isLastDown, lastLabel, -, lastAsks, -⟩ :=
    paced.landing_older served (within.subset inLast) lastModule
  refine ⟨firstDown, isFirstDown, by rw [firstLabel], ?_⟩
  rw [List.length_map] at spread
  have positive : 0 < (sent .parkingArea period).length := List.length_pos_of_ne_nil some
  have gap := paced.apart firstDown (List.mem_cons_of_mem _ isFirstDown) (by rw [firstLabel])
    lastDown (List.mem_cons_of_mem _ isLastDown) (by rw [lastLabel])
    (by rw [firstLabel, lastLabel]; omega)
  rw [firstLabel, lastLabel] at gap
  have apart : ((sent .parkingArea period).length - 1 : Int) ≤
      last.label.1 - first.label.1 := by omega
  have waits := waits_nonneg served.tail lastDown isLastDown
  have early := asked first inFirst
  have late := before last inLast
  have longer := mul_le_mul_of_nonneg_right apart nonneg
  unfold Job.wait at waits ⊢
  dsimp only at gap
  omega

/-- An operation waits as long as the others of its busy period take, less the time that had
passed when it was asked for. -/
theorem wait_le (paced : Paced limits (job :: older)) (served : Served (job :: older)) :
    ∃ (period : List Operation) (begun : Int),
      List.Sublist (job :: period) (job :: older) ∧
      (∀ other ∈ job :: period, begun ≤ other.request) ∧
      (∀ other ∈ job :: period, other.request ≤ job.request) ∧
      job.wait ≤ (sent .airspace period).length * limits.landing +
        (sent .parkingArea period).length * limits.takeoff - (job.request - begun) := by
  obtain ⟨period, rest, begun, rfl, begins, inside, starts⟩ := served.busy_period
  have within : List.Sublist period (period ++ rest) := List.sublist_append_left period rest
  refine ⟨period, begun, within.cons_cons job, ?_, ?_, ?_⟩
  · exact List.forall_mem_cons.mpr ⟨begins, inside⟩
  · exact List.forall_mem_cons.mpr
      ⟨le_rfl, fun other member => served.request_le other (List.mem_append_left _ member)⟩
  · have lasts := (paced.tail served).sum_duration_le within
    rw [Job.wait, starts]
    linarith

/-- The landings before a landing in its busy period are few, and so are the take-offs
unless an earlier landing had to wait. -/
theorem landing_wait (paced : Paced limits (job :: older)) (served : Served (job :: older))
    (nonneg : 0 ≤ limits.interArrival) (module : job.label.2 = .airspace) :
    ∃ (landings takeoffs : Nat) (span : Int), 0 ≤ span ∧
      job.wait ≤ landings * limits.landing + takeoffs * limits.takeoff - span ∧
      landings * limits.interArrival ≤ span ∧
      (0 < takeoffs → ∃ down ∈ older, down.label.2 = .airspace ∧
        (takeoffs - 1) * limits.interArrival ≤ span + down.wait + limits.jitter) := by
  obtain ⟨period, begun, within, asked, before, wait⟩ := paced.wait_le served
  have landings : sent .airspace (job :: period) = job :: sent .airspace period := by
    simp [sent, module]
  have takeoffs : sent .parkingArea (job :: period) = sent .parkingArea period := by
    simp [sent, module]
  refine ⟨_, _, _, sub_nonneg.mpr (asked job List.mem_cons_self), wait, ?_, ?_⟩
  · have few := paced.landings_le within asked before (by simp [landings]) nonneg
    simpa [landings] using few
  · intro some
    rw [← takeoffs] at some ⊢
    exact paced.takeoffs_le served within asked before (List.ne_nil_of_length_pos some) nonneg

/-- The landings and take-offs before a take-off in its busy period are few, unless an
earlier landing had to wait. -/
theorem takeoff_wait (paced : Paced limits (job :: older)) (served : Served (job :: older))
    (nonneg : 0 ≤ limits.interArrival) (module : job.label.2 = .parkingArea) :
    ∃ (landings takeoffs : Nat) (span : Int), 0 ≤ span ∧
      job.wait ≤ landings * limits.landing + takeoffs * limits.takeoff - span ∧
      (0 < landings → (landings - 1) * limits.interArrival ≤ span) ∧
      ∃ down ∈ older, down.label.2 = .airspace ∧
        takeoffs * limits.interArrival ≤ span + down.wait + limits.jitter := by
  obtain ⟨period, begun, within, asked, before, wait⟩ := paced.wait_le served
  have landings : sent .airspace (job :: period) = sent .airspace period := by
    simp [sent, module]
  have takeoffs : sent .parkingArea (job :: period) = job :: sent .parkingArea period := by
    simp [sent, module]
  refine ⟨_, _, _, sub_nonneg.mpr (asked job List.mem_cons_self), wait, ?_, ?_⟩
  · intro some
    rw [← landings] at some ⊢
    exact paced.landings_le within asked before (List.ne_nil_of_length_pos some) nonneg
  · have few := paced.takeoffs_le served within asked before (by simp [takeoffs]) nonneg
    simpa [takeoffs] using few

end Paced

/-! ## Bounded waits -/

namespace Limits.Stable

variable {limits : Limits} {jobs : List Operation}

theorem interArrival_pos (stable : limits.Stable) : 0 < limits.interArrival := by
  have landing := stable.landing
  have takeoff := stable.takeoff
  have load := stable.load
  omega

/-- Few landings, and take-offs as many as an earlier wait allows, make for a bounded wait
again. -/
theorem landing_le (stable : limits.Stable) {landings takeoffs span earlier : Int}
    (long : 0 ≤ span) (fewLandings : landings * limits.interArrival ≤ span)
    (fewTakeoffs : (takeoffs - 1) * limits.interArrival ≤ span + earlier + limits.jitter)
    (short : (limits.interArrival - limits.takeoff) * earlier ≤
      limits.takeoff * (limits.interArrival + limits.jitter)) :
    (limits.interArrival - limits.takeoff) *
        (landings * limits.landing + takeoffs * limits.takeoff - span) ≤
      limits.takeoff * (limits.interArrival + limits.jitter) := by
  obtain ⟨a, l, t, g, j⟩ := limits
  have positive := stable.interArrival_pos
  obtain ⟨landing, takeoff, jitter, load⟩ := stable
  simp only at *
  have slack : 0 ≤ a - t := by omega
  refine le_of_mul_le_mul_left ?_ positive
  calc a * ((a - t) * (landings * l + takeoffs * t - span))
      = (a - t) * ((landings * a) * l + ((takeoffs - 1) * a) * t + a * t - a * span) := by
        ring
    _ ≤ (a - t) * (span * l + (span + earlier + j) * t + a * t - a * span) := by
        gcongr
    _ = (a - t) * ((a + j) * t) + ((a - t) * earlier) * t -
          (a - t) * ((a - (l + t)) * span) := by
        ring
    _ ≤ (a - t) * ((a + j) * t) + (t * (a + j)) * t - 0 := by
        gcongr
        exact mul_nonneg slack (mul_nonneg (by omega) long)
    _ = a * (t * (a + j)) := by ring

/-- Few landings and take-offs make for a bounded wait of a take-off. -/
theorem takeoff_le (stable : limits.Stable) {landings takeoffs span earlier : Int}
    (long : 0 ≤ span) (fewLandings : (landings - 1) * limits.interArrival ≤ span)
    (fewTakeoffs : takeoffs * limits.interArrival ≤ span + earlier + limits.jitter)
    (short : (limits.interArrival - limits.takeoff) * earlier ≤
      limits.takeoff * (limits.interArrival + limits.jitter)) :
    (limits.interArrival - limits.takeoff) *
        (landings * limits.landing + takeoffs * limits.takeoff - span) ≤
      (limits.interArrival - limits.takeoff) * limits.landing +
        limits.takeoff * (limits.takeoff + limits.jitter) := by
  obtain ⟨a, l, t, g, j⟩ := limits
  have positive := stable.interArrival_pos
  obtain ⟨landing, takeoff, jitter, load⟩ := stable
  simp only at *
  have slack : 0 ≤ a - t := by omega
  refine le_of_mul_le_mul_left ?_ positive
  calc a * ((a - t) * (landings * l + takeoffs * t - span))
      = (a - t) * (((landings - 1) * a) * l + (takeoffs * a) * t + a * l - a * span) := by
        ring
    _ ≤ (a - t) * (span * l + (span + earlier + j) * t + a * l - a * span) := by
        gcongr
    _ = (a - t) * (a * l + j * t) + ((a - t) * earlier) * t -
          (a - t) * ((a - (l + t)) * span) := by
        ring
    _ ≤ (a - t) * (a * l + j * t) + (t * (a + j)) * t - 0 := by
        gcongr
        exact mul_nonneg slack (mul_nonneg (by omega) long)
    _ = a * ((a - t) * l + t * (t + j)) := by ring

theorem slack_pos (stable : limits.Stable) : 0 < limits.interArrival - limits.takeoff := by
  have landing := stable.landing
  have load := stable.load
  omega

/-- Every landing waits a bounded time, however long the run. -/
theorem landing_wait_le (stable : limits.Stable) (paced : Paced limits jobs)
    (served : Served jobs) :
    ∀ job ∈ jobs, job.label.2 = .airspace →
      (limits.interArrival - limits.takeoff) * job.wait ≤
        limits.takeoff * (limits.interArrival + limits.jitter) := by
  have positive := stable.interArrival_pos
  induction jobs with
  | nil => simp
  | cons job older ih =>
      have earlier := ih (paced.tail served) served.tail
      refine List.forall_mem_cons.mpr ⟨?_, earlier⟩
      intro module
      obtain ⟨landings, takeoffs, span, long, wait, fewLandings, fewTakeoffs⟩ :=
        paced.landing_wait served positive.le module
      refine (mul_le_mul_of_nonneg_left wait stable.slack_pos.le).trans ?_
      rcases Nat.eq_zero_or_pos takeoffs with rfl | some
      · have spare := mul_nonneg stable.takeoff (add_nonneg positive.le stable.jitter)
        refine stable.landing_le long fewLandings (?_ : _ ≤ span + 0 + _)
          ((mul_zero _).trans_le spare)
        have jitter := stable.jitter
        rw [Nat.cast_zero]
        omega
      · obtain ⟨down, isOlder, downModule, fewTakeoffs⟩ := fewTakeoffs some
        exact stable.landing_le long fewLandings fewTakeoffs (earlier down isOlder downModule)

/-- Every take-off waits a bounded time, too. -/
theorem takeoff_wait_le (stable : limits.Stable) (paced : Paced limits jobs)
    (served : Served jobs) :
    ∀ job ∈ jobs, job.label.2 = .parkingArea →
      (limits.interArrival - limits.takeoff) * job.wait ≤
        (limits.interArrival - limits.takeoff) * limits.landing +
          limits.takeoff * (limits.takeoff + limits.jitter) := by
  have positive := stable.interArrival_pos
  induction jobs with
  | nil => simp
  | cons job older ih =>
      have pacedOlder := paced.tail served
      refine List.forall_mem_cons.mpr ⟨?_, ih pacedOlder served.tail⟩
      intro module
      obtain ⟨landings, takeoffs, span, long, wait, fewLandings, down, isOlder, downModule,
          fewTakeoffs⟩ := paced.takeoff_wait served positive.le module
      have earlier := stable.landing_wait_le pacedOlder served.tail down isOlder downModule
      refine (mul_le_mul_of_nonneg_left wait stable.slack_pos.le).trans
        (stable.takeoff_le long ?_ fewTakeoffs earlier)
      rcases Nat.eq_zero_or_pos landings with rfl | some
      · rw [Nat.cast_zero]
        omega
      · exact fewLandings some

end Limits.Stable

/-! ## Constants -/

/-- The constants of the regime, in ticks. -/
structure Timetable where
  interArrival : Int
  landing : Int
  parking : Int
  takeoff : Int

/-- The operations of the regime, latest first: landings are asked for at the multiples of
the inter-arrival time, take-offs when the airplane has landed and parked. -/
structure Periodic (table : Timetable) (jobs : List Operation) : Prop where
  labels : (jobs.map Job.label).Nodup
  landing : ∀ job ∈ jobs, job.label.2 = .airspace →
    job.duration = table.landing ∧ job.request = (job.label.1 + 1) * table.interArrival
  takeoff : ∀ job ∈ jobs, job.label.2 = .parkingArea →
    job.duration = table.takeoff ∧ ∃ down ∈ jobs, down.label = (job.label.1, .airspace) ∧
      job.request = down.start + table.landing + table.parking

/-- An airplane lands before it takes off, and its landing takes time. -/
structure Timetable.Sound (table : Timetable) : Prop where
  landing : 0 < table.landing
  parking : 0 ≤ table.parking
  takeoff : 0 ≤ table.takeoff

variable {table : Timetable}

/-- The time a busy period takes. -/
theorem sum_duration (durations : ∀ job ∈ jobs,
      (job.label.2 = .airspace → job.duration = table.landing) ∧
        (job.label.2 = .parkingArea → job.duration = table.takeoff)) :
    (jobs.map Job.duration).sum =
      (sent .airspace jobs).length * table.landing +
        (sent .parkingArea jobs).length * table.takeoff := by
  induction jobs with
  | nil => simp [sent]
  | cons job older ih =>
      have mine := durations job List.mem_cons_self
      have rest := ih fun other member => durations other (List.mem_cons_of_mem _ member)
      rw [List.map_cons, List.sum_cons, rest]
      cases module : job.label.2 with
      | airspace =>
          rw [mine.1 module]
          simp only [sent, List.filter_cons, module]
          simp
          ring
      | parkingArea =>
          rw [mine.2 module]
          simp only [sent, List.filter_cons, module]
          simp
          ring

theorem Periodic.durations (periodic : Periodic table jobs) : ∀ job ∈ jobs,
    (job.label.2 = .airspace → job.duration = table.landing) ∧
      (job.label.2 = .parkingArea → job.duration = table.takeoff) :=
  fun job member => ⟨fun module => (periodic.landing job member module).1,
    fun module => (periodic.takeoff job member module).1⟩

/-- The limits of constant durations. -/
def Timetable.limits (table : Timetable) : Limits where
  interArrival := table.interArrival
  landing := table.landing
  takeoff := table.takeoff
  ground := table.landing + table.parking
  jitter := 0

theorem Periodic.paced (periodic : Periodic table jobs) (sound : table.Sound) :
    Paced table.limits jobs where
  labels := periodic.labels
  landing job member module := (periodic.landing job member module).1.le
  apart first isFirst lands last isLast landsToo _ := by
    have asked := (periodic.landing first isFirst lands).2
    have askedToo := (periodic.landing last isLast landsToo).2
    simp only [Timetable.limits, asked, askedToo]
    exact le_of_eq (by ring)
  takeoff job member module := (periodic.takeoff job member module).1.le
  returns job member module := by
    obtain ⟨-, down, isDown, label, asks⟩ := periodic.takeoff job member module
    have landing := sound.landing
    have parking := sound.parking
    simp only [Timetable.limits, add_zero]
    exact ⟨down, isDown, label, by omega, by omega, by omega⟩

/-- The load of the runway is at most one. -/
structure Timetable.Stable (table : Timetable) : Prop extends table.Sound where
  load : table.landing + table.takeoff ≤ table.interArrival

/-- The longest wait for a landing at load at most one, in whole ticks. -/
def Timetable.holdingWait (table : Timetable) : Int :=
  table.interArrival * table.takeoff / (table.interArrival - table.takeoff)

/-- The longest wait for a take-off at load at most one, in whole ticks. -/
def Timetable.departWait (table : Timetable) : Int :=
  table.landing + table.takeoff * table.takeoff / (table.interArrival - table.takeoff)

namespace Timetable.Stable

theorem limits (stable : table.Stable) : table.limits.Stable :=
  ⟨stable.landing, stable.takeoff, le_rfl, stable.load⟩

theorem interArrival_pos (stable : table.Stable) : 0 < table.interArrival :=
  stable.limits.interArrival_pos

theorem slack_pos (stable : table.Stable) : 0 < table.interArrival - table.takeoff :=
  stable.limits.slack_pos

/-- Every landing waits a bounded time, however long the run. -/
theorem landing_wait_le (stable : table.Stable) (periodic : Periodic table jobs)
    (served : Served jobs) :
    ∀ job ∈ jobs, job.label.2 = .airspace →
      (table.interArrival - table.takeoff) * job.wait ≤
        table.interArrival * table.takeoff := by
  intro job member module
  have bounded := stable.limits.landing_wait_le (periodic.paced stable.toSound) served job
    member module
  rwa [Timetable.limits, add_zero, mul_comm table.takeoff] at bounded

theorem le_holdingWait (stable : table.Stable) (periodic : Periodic table jobs)
    (served : Served jobs) :
    ∀ job ∈ jobs, job.label.2 = .airspace → job.wait ≤ table.holdingWait := by
  intro job member module
  apply Int.le_ediv_of_mul_le stable.slack_pos
  rw [mul_comm]
  exact stable.landing_wait_le periodic served job member module

/-- Every take-off waits a bounded time, too. -/
theorem le_departWait (stable : table.Stable) (periodic : Periodic table jobs)
    (served : Served jobs) :
    ∀ job ∈ jobs, job.label.2 = .parkingArea → job.wait ≤ table.departWait := by
  intro job member module
  have bounded := stable.limits.takeoff_wait_le (periodic.paced stable.toSound) served job
    member module
  rw [Timetable.limits, add_zero] at bounded
  have rest : job.wait - table.landing ≤
      table.takeoff * table.takeoff / (table.interArrival - table.takeoff) := by
    apply Int.le_ediv_of_mul_le stable.slack_pos
    linarith
  unfold Timetable.departWait
  linarith

theorem holdingWait_nonneg (stable : table.Stable) : 0 ≤ table.holdingWait :=
  Int.ediv_nonneg (mul_nonneg stable.interArrival_pos.le stable.takeoff) stable.slack_pos.le

theorem departWait_nonneg (stable : table.Stable) : 0 ≤ table.departWait :=
  add_nonneg stable.landing.le
    (Int.ediv_nonneg (mul_nonneg stable.takeoff stable.takeoff) stable.slack_pos.le)

end Timetable.Stable

/-! ## Take-offs at most half as long as the inter-arrival time -/

/-- The regime of the stable grid. -/
structure Timetable.Tight (table : Timetable) : Prop extends table.Stable where
  half : 2 * table.takeoff ≤ table.interArrival

namespace Timetable.Tight

/-- If no earlier landing waits longer than a take-off, then neither does the next one. -/
theorem landing_le (tight : table.Tight) {landings takeoffs span earlier : Int}
    (nonneg : 0 ≤ landings) (fewLandings : landings * table.interArrival ≤ span)
    (fewTakeoffs : (takeoffs - 1) * table.interArrival ≤ span + earlier)
    (short : earlier ≤ table.takeoff) :
    landings * table.landing + takeoffs * table.takeoff - span ≤ table.takeoff := by
  obtain ⟨a, l, p, t⟩ := table
  obtain ⟨⟨⟨landing, -, takeoff⟩, load⟩, half⟩ := tight
  simp only at *
  rcases le_or_gt (takeoffs - 1) landings with few | many
  · have served : landings * (l + t) ≤ landings * a :=
      mul_le_mul_of_nonneg_left load nonneg
    have departed : (takeoffs - 1) * t ≤ landings * t :=
      mul_le_mul_of_nonneg_right few takeoff
    linarith
  · have landed : landings * l ≤ (takeoffs - 2) * l :=
      mul_le_mul_of_nonneg_right (by omega) landing.le
    have served : (takeoffs - 2) * (l + t) ≤ (takeoffs - 2) * a :=
      mul_le_mul_of_nonneg_left load (by omega)
    linarith

/-- If no earlier landing waits longer than a take-off, then no take-off waits longer than
a landing or a take-off. -/
theorem takeoff_le (tight : table.Tight) {landings takeoffs span earlier : Int}
    (nonneg : 0 ≤ takeoffs)
    (fewLandings : 0 < landings → (landings - 1) * table.interArrival ≤ span)
    (fewTakeoffs : takeoffs * table.interArrival ≤ span + earlier)
    (short : earlier ≤ table.takeoff) :
    landings * table.landing + takeoffs * table.takeoff - span ≤
      max table.landing table.takeoff := by
  obtain ⟨a, l, p, t⟩ := table
  obtain ⟨⟨⟨landing, -, takeoff⟩, load⟩, half⟩ := tight
  simp only at *
  rcases le_or_gt landings takeoffs with many | few
  · apply le_max_of_le_right
    have landed : landings * l ≤ takeoffs * l :=
      mul_le_mul_of_nonneg_right many landing.le
    have served : takeoffs * (l + t) ≤ takeoffs * a :=
      mul_le_mul_of_nonneg_left load nonneg
    linarith
  · apply le_max_of_le_left
    have fewLandings := fewLandings (by omega)
    have departed : takeoffs * t ≤ (landings - 1) * t :=
      mul_le_mul_of_nonneg_right (by omega) takeoff
    have served : (landings - 1) * (l + t) ≤ (landings - 1) * a :=
      mul_le_mul_of_nonneg_left load (by omega)
    linarith

/-- Every landing waits at most one take-off. -/
theorem landing_wait_le (tight : table.Tight) (paced : Paced table.limits jobs)
    (served : Served jobs) :
    ∀ job ∈ jobs, job.label.2 = .airspace → job.wait ≤ table.takeoff := by
  have positive := tight.interArrival_pos
  induction jobs with
  | nil => simp
  | cons job older ih =>
      have earlier := ih (paced.tail served) served.tail
      refine List.forall_mem_cons.mpr ⟨?_, earlier⟩
      intro module
      obtain ⟨landings, takeoffs, span, long, wait, fewLandings, fewTakeoffs⟩ :=
        paced.landing_wait served positive.le module
      have landed : 0 ≤ (landings : Int) := Int.natCast_nonneg landings
      refine wait.trans ?_
      rcases Nat.eq_zero_or_pos takeoffs with rfl | some
      · refine tight.landing_le landed fewLandings (?_ : _ ≤ span + 0) tight.takeoff
        rw [Nat.cast_zero]
        omega
      · obtain ⟨down, isOlder, downModule, fewTakeoffs⟩ := fewTakeoffs some
        rw [Timetable.limits, add_zero] at fewTakeoffs
        exact tight.landing_le landed fewLandings fewTakeoffs
          (earlier down isOlder downModule)

/-- Every take-off waits at most one landing or one take-off. -/
theorem takeoff_wait_le (tight : table.Tight) (paced : Paced table.limits jobs)
    (served : Served jobs) :
    ∀ job ∈ jobs, job.label.2 = .parkingArea →
      job.wait ≤ max table.landing table.takeoff := by
  have positive := tight.interArrival_pos
  induction jobs with
  | nil => simp
  | cons job older ih =>
      have pacedOlder := paced.tail served
      refine List.forall_mem_cons.mpr ⟨?_, ih pacedOlder served.tail⟩
      intro module
      obtain ⟨landings, takeoffs, span, long, wait, fewLandings, down, isOlder, downModule,
          fewTakeoffs⟩ := paced.takeoff_wait served positive.le module
      rw [Timetable.limits, add_zero] at fewTakeoffs
      exact wait.trans (tight.takeoff_le (Int.natCast_nonneg takeoffs)
        (fun some => fewLandings (by omega)) fewTakeoffs
        (tight.landing_wait_le pacedOlder served.tail down isOlder downModule))

end Timetable.Tight

end AirTrafficControl
