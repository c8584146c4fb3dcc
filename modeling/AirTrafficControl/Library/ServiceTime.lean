import Mathlib.Algebra.Order.BigOperators.Group.List
import Mathlib.Data.Int.Interval
import Mathlib.Order.Interval.Finset.Nat
import AirTrafficControl.Library.FifoServer

/-!
# Time in service

How long the server of a first come, first served queue works in an interval, in whole
ticks.  Its jobs do not overlap, so the time is the sum of what each job takes of the
interval.  When all jobs are done by the end of the interval, these are the jobs that
start in it and what remains of the job in service at its begin.
-/

namespace FifoServer

universe u v

variable {Label : Type u} {Time : Type v} [AddCommGroup Time] [LinearOrder Time]

/-- The server is done with a job before it starts a later one. -/
theorem Served.pairwise [IsOrderedAddMonoid Time] {jobs : List (Job Label Time)}
    (served : Served jobs) :
    jobs.Pairwise fun later earlier => earlier.finish ≤ later.start := by
  induction served with
  | nil => exact .nil
  | first => exact List.pairwise_singleton _ _
  | @next job last older served _ starts _ ih =>
      have done : last.finish ≤ job.start := starts ▸ le_max_right _ _
      refine List.pairwise_cons.mpr ⟨?_, ih⟩
      intro earlier member
      rcases List.mem_cons.mp member with rfl | member
      · exact done
      · have before := (List.pairwise_cons.mp ih).1 earlier member
        exact before.trans ((le_add_of_nonneg_right served.duration_nonneg).trans done)

/-- The server works on a job at an instant. -/
def Job.Covers (job : Job Label Time) (instant : Time) : Prop :=
  job.start ≤ instant ∧ instant < job.finish

instance (job : Job Label Time) (instant : Time) : Decidable (job.Covers instant) :=
  inferInstanceAs (Decidable (_ ∧ _))

/-- The ticks of an interval that go to a job. -/
def Job.overlap (job : Job Label Int) (start stop : Int) : Int :=
  max 0 (min job.finish stop - max job.start start)

theorem Job.card_covers (job : Job Label Int) (start : Int) (length : Nat) :
    (((Finset.range length).filter fun offset : Nat =>
      job.Covers (start + offset)).card : Int) = job.overlap start (start + length) := by
  have interval :
      (Finset.range length).filter (fun offset : Nat => job.Covers (start + offset)) =
        Finset.Ico (job.start - start).toNat
          (min (job.finish - start) length).toNat := by
    ext offset
    rw [Finset.mem_filter, Finset.mem_range, Finset.mem_Ico, Job.Covers]
    omega
  rw [interval, Nat.card_Ico, Job.overlap]
  omega

/-- The ticks of an interval in which the server works are those that go to its jobs. -/
theorem Served.card_busy {jobs : List (Job Label Int)} (served : Served jobs)
    (start : Int) (length : Nat) :
    (((Finset.range length).filter fun offset : Nat =>
      ∃ job ∈ jobs, job.Covers (start + offset)).card : Int) =
      (jobs.map fun job => job.overlap start (start + length)).sum := by
  have apart := served.pairwise
  clear served
  induction jobs with
  | nil => simp
  | cons job older ih =>
      obtain ⟨before, rest⟩ := List.pairwise_cons.mp apart
      have split : (Finset.range length).filter
            (fun offset : Nat => ∃ other ∈ job :: older, other.Covers (start + offset)) =
          (Finset.range length).filter (fun offset : Nat => job.Covers (start + offset)) ∪
            (Finset.range length).filter
              fun offset : Nat => ∃ other ∈ older, other.Covers (start + offset) := by
        ext offset
        simp only [Finset.mem_filter, Finset.mem_union, List.exists_mem_cons_iff]
        tauto
      have disjoint : Disjoint
          ((Finset.range length).filter fun offset : Nat => job.Covers (start + offset))
          ((Finset.range length).filter
            fun offset : Nat => ∃ other ∈ older, other.Covers (start + offset)) := by
        apply Finset.disjoint_filter.mpr
        rintro offset - ⟨started, -⟩ ⟨other, member, -, unfinished⟩
        exact absurd ((before other member).trans started) (not_le.mpr unfinished)
      rw [split, Finset.card_union_of_disjoint disjoint, Nat.cast_add, job.card_covers,
        ih rest, List.map_cons, List.sum_cons]

/-! ## The job in service -/

/-- The job that the server works on at an instant. -/
def inService (jobs : List (Job Label Time)) (instant : Time) : Option (Job Label Time) :=
  jobs.find? fun job => job.Covers instant

/-- How much of a job in service is done at an instant.  A job that starts just then
counts in full. -/
def Job.elapsed (job : Job Label Time) (instant : Time) : Time :=
  if job.start < instant then instant - job.start else job.duration

/-- The durations of the jobs that start at an instant or later. -/
def workSince (jobs : List (Job Label Time)) (instant : Time) : Time :=
  ((jobs.filter fun job => instant ≤ job.start).map Job.duration).sum

/-- No job is in service when all are done. -/
theorem inService_eq_none {jobs : List (Job Label Time)} {instant : Time}
    (done : ∀ job ∈ jobs, job.finish ≤ instant) : inService jobs instant = none := by
  apply List.find?_eq_none.mpr
  intro job member covers
  exact absurd (of_decide_eq_true covers).2 (not_lt.mpr (done job member))

theorem covers_of_inService {jobs : List (Job Label Time)} {job : Job Label Time}
    {instant : Time} (found : inService jobs instant = some job) : job.Covers instant := by
  have covers := List.find?_some found
  exact of_decide_eq_true covers

theorem Job.elapsed_nonneg {job : Job Label Int} {instant : Int}
    (covers : job.Covers instant) : 0 ≤ job.elapsed instant := by
  obtain ⟨started, unfinished⟩ := covers
  unfold Job.finish at unfinished
  rw [Job.elapsed]
  split <;> omega

theorem Served.duration_nonneg_of_mem {jobs : List (Job Label Time)}
    (served : Served jobs) : ∀ job ∈ jobs, 0 ≤ job.duration := by
  induction served with
  | nil => simp
  | first _ nonneg => simpa using nonneg
  | next _ _ _ nonneg ih => exact List.forall_mem_cons.mpr ⟨nonneg, ih⟩

theorem Served.workSince_nonneg [IsOrderedAddMonoid Time] {jobs : List (Job Label Time)}
    (served : Served jobs) (instant : Time) : 0 ≤ workSince jobs instant := by
  apply List.sum_nonneg
  intro duration member
  obtain ⟨job, kept, rfl⟩ := List.mem_map.mp member
  exact served.duration_nonneg_of_mem job (List.mem_filter.mp kept).1

theorem workSince_append {newer jobs : List (Job Label Time)} {instant : Time}
    (later : ∀ job ∈ newer, instant ≤ job.start) :
    workSince (newer ++ jobs) instant =
      (newer.map Job.duration).sum + workSince jobs instant := by
  have kept : newer.filter (fun job => instant ≤ job.start) = newer :=
    List.filter_eq_self.mpr fun job member => decide_eq_true (later job member)
  rw [workSince, List.filter_append, List.map_append, List.sum_append, kept, workSince]

/-- No work is left when all jobs have started before. -/
theorem workSince_eq_zero {jobs : List (Job Label Time)} {instant : Time}
    (begun : ∀ job ∈ jobs, job.start < instant) : workSince jobs instant = 0 := by
  have none : jobs.filter (fun job => instant ≤ job.start) = [] :=
    List.filter_eq_nil_iff.mpr fun job member => by simpa using begun job member
  rw [workSince, none]
  rfl

/-- All of it is left when none has. -/
theorem workSince_eq_sum {jobs : List (Job Label Time)} {instant : Time}
    (later : ∀ job ∈ jobs, instant ≤ job.start) :
    workSince jobs instant = (jobs.map Job.duration).sum := by
  rw [workSince, List.filter_eq_self.mpr fun job member => decide_eq_true (later job member)]

/-- What remains of the job in service. -/
def remaining (jobs : List (Job Label Time)) (instant : Time) : Time :=
  (inService jobs instant).elim 0 fun job => job.duration - job.elapsed instant

/-- Nothing remains when all jobs are done. -/
theorem remaining_eq_zero {jobs : List (Job Label Time)} {instant : Time}
    (done : ∀ job ∈ jobs, job.finish ≤ instant) : remaining jobs instant = 0 := by
  rw [remaining, inService_eq_none done]
  rfl

theorem remaining_cons (job : Job Label Int) {older : List (Job Label Int)}
    (before : ∀ other ∈ older, other.finish ≤ job.start) (instant : Int) :
    remaining (job :: older) instant =
      if job.start < instant then max 0 (job.finish - instant)
      else remaining older instant := by
  have rest : job.start ≤ instant → remaining older instant = 0 := fun started =>
    remaining_eq_zero fun other member => (before other member).trans started
  by_cases covers : job.Covers instant
  · obtain ⟨started, unfinished⟩ := covers
    have mine : inService (job :: older) instant = some job :=
      List.find?_cons_of_pos (decide_eq_true ⟨started, unfinished⟩)
    rw [remaining, mine, rest started, Option.elim_some, Job.elapsed]
    unfold Job.finish at unfinished ⊢
    split <;> omega
  · have other : inService (job :: older) instant = inService older instant :=
      List.find?_cons_of_neg (by simpa using covers)
    rw [remaining, other]
    split
    next started =>
      have finished : job.finish ≤ instant :=
        not_lt.mp fun later => covers ⟨started.le, later⟩
      rw [max_eq_left (sub_nonpos.mpr finished)]
      exact rest started.le
    next => rfl

theorem Served.remaining_nonneg {jobs : List (Job Label Int)} (served : Served jobs)
    (instant : Int) : 0 ≤ remaining jobs instant := by
  have apart := served.pairwise
  clear served
  induction jobs with
  | nil => exact le_rfl
  | cons job older ih =>
      obtain ⟨before, rest⟩ := List.pairwise_cons.mp apart
      rw [remaining_cons job before]
      split
      · exact le_max_left _ _
      · exact ih rest

/-- The time spent on the jobs from an instant on is that of the jobs that start then or
later, and what remains of the job in service. -/
theorem Served.sum_overlap {jobs : List (Job Label Int)} (served : Served jobs)
    {start stop : Int} (done : ∀ job ∈ jobs, job.finish ≤ stop) :
    (jobs.map fun job => job.overlap start stop).sum =
      workSince jobs start + remaining jobs start := by
  have apart := served.pairwise
  have nonneg := served.duration_nonneg_of_mem
  clear served
  induction jobs with
  | nil => rfl
  | cons job older ih =>
      obtain ⟨before, rest⟩ := List.pairwise_cons.mp apart
      obtain ⟨finished, olderDone⟩ := List.forall_mem_cons.mp done
      obtain ⟨duration, olderNonneg⟩ := List.forall_mem_cons.mp nonneg
      rw [List.map_cons, List.sum_cons, ih olderDone rest olderNonneg,
        remaining_cons job before, Job.overlap, min_eq_left finished]
      by_cases early : job.start < start
      · have none : remaining older start = 0 :=
          remaining_eq_zero fun other member => (before other member).trans early.le
        rw [if_pos early, max_eq_right early.le, none, workSince, workSince,
          List.filter_cons_of_neg (by simpa using early)]
        abel
      · have whole : max 0 (job.finish - job.start) = job.duration := by
          rw [Job.finish, add_sub_cancel_left, max_eq_right duration]
        rw [if_neg early, max_eq_left (not_lt.mp early), whole, workSince, workSince,
          List.filter_cons_of_pos (by simpa using early), List.map_cons, List.sum_cons,
          add_assoc]

/-- All durations together are the time spent on the jobs so far and the time that the
latest one still takes. -/
theorem Served.sum_duration {jobs : List (Job Label Int)} (served : Served jobs)
    {start stop : Int} (after : ∀ job ∈ jobs, start ≤ job.start)
    (begun : ∀ job ∈ jobs, job.start ≤ stop) :
    (jobs.map Job.duration).sum =
      (jobs.map fun job => job.overlap start stop).sum +
        jobs.head?.elim 0 fun last => max 0 (last.finish - stop) := by
  cases jobs with
  | nil => rfl
  | cons last older =>
      obtain ⟨before, _⟩ := List.pairwise_cons.mp served.pairwise
      obtain ⟨lastAfter, olderAfter⟩ := List.forall_mem_cons.mp after
      have lastBegun := begun last List.mem_cons_self
      have lastNonneg := served.duration_nonneg
      have whole : older.map Job.duration =
          older.map fun job => job.overlap start stop := by
        apply List.map_congr_left
        intro job member
        have done := (before job member).trans lastBegun
        have nonneg := served.duration_nonneg_of_mem job (List.mem_cons_of_mem _ member)
        rw [Job.overlap, min_eq_left done, max_eq_left (olderAfter job member), Job.finish,
          add_sub_cancel_left, max_eq_right nonneg]
      rw [List.map_cons, List.map_cons, List.sum_cons, List.sum_cons, whole,
        List.head?_cons, Option.elim_some, Job.overlap, max_eq_left lastAfter]
      unfold Job.finish
      omega

/-- Jobs that take long finish far apart. -/
theorem Served.length_mul_le {jobs some : List (Job Label Int)} (served : Served jobs)
    (within : List.Sublist some jobs) {duration start stop : Int} (nonneg : 0 ≤ duration)
    (long : ∀ job ∈ some, duration ≤ job.duration) (ordered : start ≤ stop)
    (inside : ∀ job ∈ some, start ≤ job.finish ∧ job.finish ≤ stop) :
    some.length * duration ≤ stop - start + duration := by
  have apart := served.pairwise.sublist within
  clear within
  cases some with
  | nil =>
      rw [List.length_nil, Nat.cast_zero, zero_mul]
      omega
  | cons job older =>
      have reached : start + older.length * duration ≤ job.finish := by
        induction older generalizing job with
        | nil => simpa using (inside job List.mem_cons_self).1
        | cons next rest ih =>
            obtain ⟨before, others⟩ := List.pairwise_cons.mp apart
            have earlier := ih next (fun other member => long other (List.mem_cons_of_mem _ member))
              (fun other member => inside other (List.mem_cons_of_mem _ member)) others
            have done := before next List.mem_cons_self
            have lasts := long job List.mem_cons_self
            unfold Job.finish at earlier done ⊢
            rw [List.length_cons, Nat.cast_add, Nat.cast_one, add_mul, one_mul]
            omega
      have stops := (inside job List.mem_cons_self).2
      rw [List.length_cons, Nat.cast_add, Nat.cast_one, add_mul, one_mul]
      omega

end FifoServer
