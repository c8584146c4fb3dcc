import Mathlib.Algebra.Order.Group.Int
import Mathlib.Algebra.BigOperators.Group.List.Basic
import Mathlib.Data.Multiset.Basic
import Mathlib.Logic.Relation
import Mathlib.Tactic.Abel
import AirTrafficControl.Library.Execution

/-!
# The single-server queue, first come, first served

Jobs ask a server for service and are served one at a time, in the order in which they
asked.  `Server` is the queue as a machine; `Served` is its closed form, the recursion
that starts each job as soon as it has asked and its predecessor is done.  Every list of
jobs the machine produces satisfies the recursion (`Consistent.served`).

The last section looks back from a job to the begin of its busy period.
-/

namespace FifoServer

universe u v

/-- A job that has been given the server. -/
structure Job (Label : Type u) (Time : Type v) where
  label : Label
  request : Time
  start : Time
  duration : Time

variable {Label : Type u} {Time : Type v} [AddCommGroup Time]

namespace Job

def finish (job : Job Label Time) : Time := job.start + job.duration

def wait (job : Job Label Time) : Time := job.start - job.request

end Job

variable [LinearOrder Time]

/-- The recursion of the queue.  Lists of jobs have the latest one in front. -/
inductive Served : List (Job Label Time) → Prop where
  | nil : Served []
  | first {job : Job Label Time} :
      job.start = job.request → 0 ≤ job.duration → Served [job]
  | next {job last : Job Label Time} {older : List (Job Label Time)} :
      Served (last :: older) → last.request ≤ job.request →
      job.start = max job.request last.finish → 0 ≤ job.duration →
      Served (job :: last :: older)

/-- The state of the queue. -/
structure Server (Label : Type u) (Time : Type v) where
  clock : Time
  busy : Bool
  /-- The requests that wait, each with the time it was made. -/
  waiting : Multiset (Label × Time)
  jobs : List (Job Label Time)

namespace Server

/-- Nobody has asked yet. -/
def empty : Server Label Time where
  clock := 0
  busy := false
  waiting := 0
  jobs := []

/-- The server goes on to a job. -/
def begin (server : Server Label Time) (label : Label) (request duration : Time) :
    Server Label Time :=
  { server with
    busy := true
    jobs := ⟨label, request, server.clock, duration⟩ :: server.jobs }

/-- The steps of the queue. -/
inductive Step (server : Server Label Time) : Server Label Time → Prop where
  /-- Time passes, but not beyond the end of the job being served. -/
  | tick {time : Time} :
      server.clock ≤ time →
      (server.busy = true → ∀ last ∈ server.jobs.head?, time ≤ last.finish) →
      Step server { server with clock := time }
  /-- A request that finds the server free. -/
  | grant {label : Label} {duration : Time} :
      server.busy = false → 0 ≤ duration →
      Step server (server.begin label server.clock duration)
  /-- A request that has to wait. -/
  | enqueue {label : Label} :
      server.busy = true →
      Step server { server with waiting := (label, server.clock) ::ₘ server.waiting }
  /-- A job is done, and the oldest request is next. -/
  | serve {label : Label} {request duration : Time} {rest : Multiset (Label × Time)} :
      server.busy = true → (∀ last ∈ server.jobs.head?, last.finish = server.clock) →
      server.waiting = (label, request) ::ₘ rest →
      (∀ other ∈ rest, request ≤ other.2) → 0 ≤ duration →
      Step server ({ server with waiting := rest }.begin label request duration)
  /-- A job is done, and nobody waits. -/
  | release :
      server.busy = true → (∀ last ∈ server.jobs.head?, last.finish = server.clock) →
      server.waiting = 0 → Step server { server with busy := false }

/-- A run of the queue. -/
abbrev Steps : Server Label Time → Server Label Time → Prop := Relation.ReflTransGen Step

/-- The invariant of the queue. -/
structure Consistent (server : Server Label Time) : Prop where
  served : Served server.jobs
  free : server.busy = false → server.waiting = 0
  done : server.busy = false → ∀ last ∈ server.jobs.head?, last.finish ≤ server.clock
  working : server.busy = true → ∀ last ∈ server.jobs.head?, server.clock ≤ last.finish
  started : server.busy = true → server.jobs ≠ []
  past : ∀ last ∈ server.jobs.head?, last.request ≤ server.clock
  asked : ∀ request ∈ server.waiting, request.2 ≤ server.clock
  inOrder : ∀ request ∈ server.waiting, ∀ last ∈ server.jobs.head?,
    last.request ≤ request.2

end Server

/-- The next job of a served list. -/
theorem Served.cons {job : Job Label Time} {older : List (Job Label Time)}
    (served : Served older) (nonneg : 0 ≤ job.duration)
    (inOrder : ∀ last ∈ older.head?, last.request ≤ job.request)
    (starts : job.start = older.head?.elim job.request fun last =>
      max job.request last.finish) :
    Served (job :: older) := by
  cases older with
  | nil => exact .first starts nonneg
  | cons last older => exact .next served (inOrder last rfl) starts nonneg

namespace Server

variable {server next : Server Label Time}

namespace Consistent

theorem empty : (Server.empty : Server Label Time).Consistent :=
  ⟨.nil, fun _ => rfl, by simp [Server.empty], by simp [Server.empty],
    fun busy => (nomatch busy), by simp [Server.empty], by simp [Server.empty],
    by simp [Server.empty]⟩

variable [IsOrderedAddMonoid Time]

/-- The server goes on to the oldest request when it has finished the job before. -/
private theorem begin (server : Server Label Time) (served : Served server.jobs)
    {label : Label} {request duration : Time} (nonneg : 0 ≤ duration)
    (starts : server.clock = server.jobs.head?.elim request fun last =>
      max request last.finish)
    (past : request ≤ server.clock)
    (inOrder : ∀ last ∈ server.jobs.head?, last.request ≤ request)
    (asked : ∀ other ∈ server.waiting, other.2 ≤ server.clock)
    (older : ∀ other ∈ server.waiting, request ≤ other.2) :
    (server.begin label request duration).Consistent := by
  constructor
  · exact served.cons nonneg inOrder starts
  · exact fun free => nomatch free
  · exact fun free => nomatch free
  · rintro _ _ ⟨rfl⟩
    exact le_add_of_nonneg_right nonneg
  · exact fun _ => List.cons_ne_nil _ _
  · rintro _ ⟨rfl⟩
    exact past
  · exact asked
  · rintro other member _ ⟨rfl⟩
    exact older other member

theorem step (consistent : server.Consistent) (step : Step server next) :
    next.Consistent := by
  obtain ⟨served, free, done, working, started, past, asked, inOrder⟩ := consistent
  cases step with
  | tick later bound =>
      refine ⟨served, free, ?_, bound, started, ?_, ?_, inOrder⟩
      · intro idle last isLast
        exact (done idle last isLast).trans later
      · intro last isLast
        exact (past last isLast).trans later
      · intro request member
        exact (asked request member).trans later
  | grant idle nonneg =>
      have none := free idle
      refine Consistent.begin server served nonneg ?_ le_rfl past ?_ ?_
      · cases jobs : server.jobs with
        | nil => rfl
        | cons last older => exact (max_eq_left (done idle last (by simp [jobs]))).symm
      · simp [none]
      · simp [none]
  | @enqueue label busy =>
      refine ⟨served, fun idle => (nomatch busy.symm.trans idle), done, working, started,
        past, ?_, ?_⟩
      · intro request member
        rcases Multiset.mem_cons.mp member with rfl | member
        · exact le_rfl
        · exact asked request member
      · intro request member last isLast
        rcases Multiset.mem_cons.mp member with rfl | member
        · exact past last isLast
        · exact inOrder request member last isLast
  | @serve label request duration rest busy finished front oldest nonneg =>
      have mine : (label, request) ∈ server.waiting :=
        front ▸ Multiset.mem_cons_self _ _
      have others : ∀ other ∈ rest, other ∈ server.waiting := fun other member =>
        front ▸ Multiset.mem_cons_of_mem member
      have past : request ≤ server.clock := asked _ mine
      refine Consistent.begin { server with waiting := rest } served nonneg ?_ past
        (inOrder _ mine) (fun other member => asked other (others other member)) oldest
      cases jobs : server.jobs with
      | nil => exact absurd jobs (started busy)
      | cons last older =>
          have finishes := finished last (by simp [jobs])
          simp only [List.head?_cons, Option.elim_some, finishes]
          exact (max_eq_right past).symm
  | release busy finished none =>
      exact ⟨served, fun _ => none, fun _ last isLast => (finished last isLast).le,
        fun busy => (nomatch busy), fun busy => (nomatch busy), past, asked, inOrder⟩

/-- Whoever waits could be served next. -/
theorem served_next (consistent : server.Consistent) {request : Label × Time}
    (waits : request ∈ server.waiting) {duration : Time} (nonneg : 0 ≤ duration) :
    ∃ job : Job Label Time, job.label = request.1 ∧ job.request = request.2 ∧
      job.duration = duration ∧ Served (job :: server.jobs) ∧
      server.clock - request.2 ≤ job.wait := by
  have busy : server.busy = true := by
    cases free : server.busy with
    | true => rfl
    | false =>
        rw [consistent.free free] at waits
        cases waits
  cases jobs : server.jobs with
  | nil => exact absurd jobs (consistent.started busy)
  | cons last older =>
      have isLast : last ∈ server.jobs.head? := by simp [jobs]
      have later := consistent.working busy last isLast
      have earlier := consistent.asked request waits
      have served := consistent.served
      rw [jobs] at served
      refine ⟨⟨request.1, request.2, last.finish, duration⟩, rfl, rfl, rfl, ?_, ?_⟩
      · exact .next served (consistent.inOrder request waits last isLast)
          (max_eq_right (earlier.trans later)).symm nonneg
      · exact sub_le_sub_right later request.2

/-- Every run of the queue keeps the invariant. -/
theorem steps {start : Server Label Time} (consistent : start.Consistent)
    (run : Steps start server) : server.Consistent :=
  TransitionSystem.invariant Consistent consistent
    (fun _ _ _ consistent stepped => consistent.step stepped) run

end Consistent

end Server

/-! ## What the recursion says -/

namespace Served

variable {job last : Job Label Time} {older period jobs : List (Job Label Time)}

theorem tail (served : Served (job :: older)) : Served older := by
  cases served with
  | first => exact .nil
  | next served => exact served

theorem duration_nonneg (served : Served (job :: older)) : 0 ≤ job.duration := by
  cases served with
  | first _ nonneg => exact nonneg
  | next _ _ _ nonneg => exact nonneg

theorem request_le_start (served : Served (job :: older)) : job.request ≤ job.start := by
  cases served with
  | first starts => exact starts.ge
  | next _ _ starts => exact starts ▸ le_max_left _ _

/-- Nobody waits a negative time. -/
theorem wait_nonneg [IsOrderedAddMonoid Time] (served : Served (job :: older)) :
    0 ≤ job.wait :=
  sub_nonneg.mpr served.request_le_start

/-- Nobody is overtaken. -/
theorem request_le (served : Served (job :: older)) :
    ∀ other ∈ older, other.request ≤ job.request := by
  induction older generalizing job with
  | nil => simp
  | cons last older ih =>
      cases served with
      | next served inOrder =>
          intro other member
          rcases List.mem_cons.mp member with rfl | member
          · exact inOrder
          · exact (ih served other member).trans inOrder

/-- The recursion in terms of positions, counted from the first job served. -/
theorem recursion (served : Served jobs) :
    (∀ first ∈ jobs.reverse[0]?, first.start = first.request) ∧
      ∀ (place : Nat) (job next : Job Label Time),
        jobs.reverse[place]? = some job → jobs.reverse[place + 1]? = some next →
        job.request ≤ next.request ∧ next.start = max next.request job.finish := by
  induction served with
  | nil => simp
  | first starts => simpa using starts
  | @next job last older served inOrder starts _ ih =>
      rw [List.reverse_cons]
      constructor
      · rw [List.getElem?_append_left (by simp)]
        exact ih.1
      · intro place first second isFirst isSecond
        rcases Nat.lt_or_ge (place + 1) (last :: older).reverse.length with inside | outside
        · rw [List.getElem?_append_left inside] at isSecond
          rw [List.getElem?_append_left (Nat.lt_of_succ_lt inside)] at isFirst
          exact ih.2 place first second isFirst isSecond
        · have bound := (List.getElem?_eq_some_iff.mp isSecond).1
          simp only [List.length_append, List.length_reverse, List.length_cons,
            List.length_nil] at bound outside
          have isLast : place = older.length := by omega
          subst isLast
          simp at isFirst isSecond
          subst isFirst isSecond
          exact ⟨inOrder, starts⟩

/-- The busy period of a job.  The jobs right before it, back to one that found the server
free, were served without a pause, and all of them asked in that time. -/
theorem busy_period (served : Served (job :: older)) :
    ∃ (period rest : List (Job Label Time)) (begun : Time), older = period ++ rest ∧
      begun ≤ job.request ∧ (∀ other ∈ period, begun ≤ other.request) ∧
      job.start = begun + (period.map Job.duration).sum := by
  induction older generalizing job with
  | nil =>
      cases served with
      | first starts => exact ⟨[], [], job.request, rfl, le_rfl, by simp, by simp [starts]⟩
  | cons last older ih =>
      cases served with
      | next served inOrder starts =>
          rcases le_or_gt last.finish job.request with free | busy
          · refine ⟨[], last :: older, job.request, rfl, le_rfl, by simp, ?_⟩
            rw [starts, max_eq_left free]
            simp
          · obtain ⟨period, rest, begun, split, before, inside, lastStarts⟩ := ih served
            refine ⟨last :: period, rest, begun, by rw [split, List.cons_append],
              before.trans inOrder, ?_, ?_⟩
            · intro other member
              rcases List.mem_cons.mp member with rfl | member
              · exact before
              · exact inside other member
            · rw [starts, max_eq_right busy.le, Job.finish, lastStarts, List.map_cons,
                List.sum_cons]
              abel

end Served

end FifoServer
