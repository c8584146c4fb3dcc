import AirTrafficControl.Safety.Response
import AirTrafficControl.Library.FifoServer

/-!
# Runway operations

The landings and take-offs of a run, read off its trace: an operation starts with the call
of `sendDelayed`, and was asked for with the call of `notify` before it.  What the
operations are for one airplane follows from its itinerary.
-/

namespace AirTrafficControl

open FifoServer

variable {config : Config} {state : Network}

/-- A landing or take-off, labelled with the airplane and the module that started it. -/
abbrev Operation := Job (Nat × SimpleModule) Int

/-- When an airplane last asked for the runway, for a landing or for a take-off. -/
def requestTime (module : SimpleModule) (plane : Nat) (trace : List Record) : Int :=
  (trace.find? fun record =>
    record.plane = plane && record.module = module && record.call = .notify).elim
      0 Record.time

/-- The runway operations that a trace tells of, latest first. -/
def operations : List Record → List Operation
  | [] => []
  | record :: older =>
      match record.call with
      | .sendDelayed delay =>
          ⟨(record.plane, record.module), requestTime record.module record.plane older,
            record.time, delay⟩ :: operations older
      | _ => operations older

theorem requestTime_cons (module : SimpleModule) (plane : Nat) (record : Record)
    (older : List Record) :
    requestTime module plane (record :: older) =
      if record.plane = plane ∧ record.module = module ∧ record.call = .notify then
        record.time
      else requestTime module plane older := by
  unfold requestTime
  rw [List.find?_cons]
  by_cases own : record.plane = plane ∧ record.module = module ∧ record.call = .notify
  · simp [own]
  · rw [if_neg own]
    simp only [not_and] at own
    split
    next asked => simp_all
    next => rfl

/-- A request is a personal call. -/
theorem requestTime_history (module : SimpleModule) (plane : Nat) (trace : List Record) :
    requestTime module plane (history plane trace) = requestTime module plane trace := by
  unfold requestTime history
  rw [List.find?_filter]
  congr 2
  funext record
  by_cases asks : record.call = .notify
  · simp [asks, Record.personal]
  · simp [asks]

section Calls

variable (time : Int) (module : SimpleModule) (plane : Nat) (older : List Record)

@[simp] theorem operations_nil : operations [] = [] := rfl

@[simp] theorem operations_sendDelayed (delay : Int) :
    operations (⟨time, module, plane, .sendDelayed delay⟩ :: older) =
      ⟨(plane, module), requestTime module plane older, time, delay⟩ ::
        operations older := rfl

@[simp] theorem operations_notify :
    operations (⟨time, module, plane, .notify⟩ :: older) = operations older := rfl

@[simp] theorem operations_scheduleAt (target : Int) :
    operations (⟨time, module, plane, .scheduleAt target⟩ :: older) =
      operations older := rfl

@[simp] theorem operations_emit (signal : Signal) (value : Int) :
    operations (⟨time, module, plane, .emit signal value⟩ :: older) =
      operations older := rfl

@[simp] theorem operations_delete :
    operations (⟨time, module, plane, .delete⟩ :: older) = operations older := rfl

@[simp] theorem operations_endSimulation :
    operations (⟨time, module, plane, .endSimulation⟩ :: older) = operations older := rfl

end Calls

/-- The operations of one airplane are those of its history. -/
theorem operations_history (plane : Nat) (trace : List Record) :
    operations (history plane trace) =
      (operations trace).filter fun job => job.label.1 = plane := by
  induction trace with
  | nil => rfl
  | cons record older ih =>
      obtain ⟨time, module, other, call⟩ := record
      rw [← List.singleton_append, history_append]
      by_cases own : other = plane
      · subst own
        cases call with
        | sendDelayed delay =>
            rw [history_of_own (by simp)]
            simpa [List.filter_cons, requestTime_history] using ih
        | _ =>
            rw [history_of_own (by simp), List.filter_singleton]
            cases Record.personal _ <;> simpa using ih
      · rw [history_of_other (Ne.symm own) (by simp)]
        cases call with
        | sendDelayed delay => simpa [own] using ih
        | _ => simpa using ih

/-! ## The operations of an itinerary -/

namespace Leg

/-- The use of the runway as an operation. -/
def job (module : SimpleModule) (plane : Nat) (leg : Leg) : Operation :=
  ⟨(plane, module), leg.request, leg.start, leg.duration⟩

@[simp] theorem job_label (module : SimpleModule) (plane : Nat) (leg : Leg) :
    (leg.job module plane).label = (plane, module) := rfl

@[simp] theorem job_request (module : SimpleModule) (plane : Nat) (leg : Leg) :
    (leg.job module plane).request = leg.request := rfl

@[simp] theorem job_wait {module : SimpleModule} {plane : Nat} (leg : Leg) :
    (leg.job module plane).wait = leg.wait := by
  simp [job, Job.wait, start]

/-- The sample of the waiting time among the calls of a use of the runway. -/
theorem of_sample_mem_calls {leg : Leg} {origin module : SimpleModule} {plane : Nat}
    {record : Record} {wait : Int} (member : record ∈ leg.calls origin plane)
    (sample : record.call = .emit module.waitingTime wait) :
    origin = module ∧ leg.start = record.time ∧ leg.wait = wait := by
  simp only [calls, List.mem_cons, List.not_mem_nil, or_false] at member
  rcases member with rfl | rfl | rfl | rfl
  · cases module <;> simp [SimpleModule.waitingTime] at sample
  · simp at sample
  · cases origin <;> cases module <;> simp_all [SimpleModule.waitingTime]
  · simp at sample

end Leg

namespace Stage

/-- The operations up to a stage, latest first. -/
def jobs (plane : Nat) : Stage → List Operation
  | .arriving | .holding _ => []
  | .landing down | .parked down _ | .queued down _ => [down.job .airspace plane]
  | .takingOff down _ up | .gone down _ up =>
      [up.job .parkingArea plane, down.job .airspace plane]

/-- An airplane asks for its take-off when its parking time is over. -/
def Timed : Stage → Prop
  | .takingOff down stay up | .gone down stay up => up.request = down.finish + stay
  | _ => True

theorem operations_history (plane : Nat) (stage : Stage) :
    operations (stage.history plane) = stage.jobs plane := by
  cases stage <;> simp [history, parkedCalls, jobs, Leg.calls, Leg.job, requestTime_cons]

end Stage

namespace Stage

section Samples

variable {plane : Nat} {module : SimpleModule} {record : Record} {wait : Int}

private theorem of_sample_mem_parkedCalls {down : Leg} {stay : Int}
    (member : record ∈ parkedCalls plane down stay)
    (sample : record.call = .emit module.waitingTime wait) :
    record ∈ down.calls .airspace plane := by
  rcases List.mem_cons.mp member with stays | called
  · rw [stays] at sample
    cases sample
  · exact called

private theorem leg_of_sample_flown {down up : Leg} {stay : Int}
    (member : record ∈ up.calls .parkingArea plane ++ parkedCalls plane down stay)
    (sample : record.call = .emit module.waitingTime wait) :
    ∃ leg : Leg, leg.job module plane ∈
        [up.job .parkingArea plane, down.job .airspace plane] ∧
      leg.start = record.time ∧ leg.wait = wait := by
  rcases List.mem_append.mp member with called | parked
  · obtain ⟨rfl, known⟩ := Leg.of_sample_mem_calls called sample
    exact ⟨up, List.mem_cons_self, known⟩
  · obtain ⟨rfl, known⟩ :=
      Leg.of_sample_mem_calls (of_sample_mem_parkedCalls parked sample) sample
    exact ⟨down, List.mem_cons_of_mem _ List.mem_cons_self, known⟩

/-- A sample of the waiting time belongs to one of the operations. -/
theorem leg_of_sample (stage : Stage) (member : record ∈ stage.history plane)
    (sample : record.call = .emit module.waitingTime wait) :
    ∃ leg : Leg, leg.job module plane ∈ stage.jobs plane ∧ leg.start = record.time ∧
      leg.wait = wait := by
  cases stage with
  | arriving => cases member
  | holding request =>
      rw [List.mem_singleton.mp member] at sample
      cases sample
  | landing down =>
      obtain ⟨rfl, known⟩ := Leg.of_sample_mem_calls member sample
      exact ⟨down, List.mem_singleton_self _, known⟩
  | parked down stay =>
      obtain ⟨rfl, known⟩ :=
        Leg.of_sample_mem_calls (of_sample_mem_parkedCalls member sample) sample
      exact ⟨down, List.mem_singleton_self _, known⟩
  | queued down stay =>
      rcases List.mem_cons.mp member with asks | parked
      · rw [asks] at sample
        cases sample
      · obtain ⟨rfl, known⟩ :=
          Leg.of_sample_mem_calls (of_sample_mem_parkedCalls parked sample) sample
        exact ⟨down, List.mem_singleton_self _, known⟩
  | takingOff down stay up => exact leg_of_sample_flown member sample
  | gone down stay up =>
      rcases List.mem_cons.mp member with deleted | member
      · rw [deleted] at sample
        cases sample
      rcases List.mem_cons.mp member with responds | flown
      · rw [responds] at sample
        cases module <;> cases sample
      · exact leg_of_sample_flown flown sample

end Samples

end Stage

/-- Every airplane is at some stage, those to come included. -/
theorem Reachable.stage (reachable : Reachable config state) (plane : Nat) :
    ∃ stage : Stage, stage.Timed ∧ history plane state.trace = stage.history plane := by
  have itinerant := Reachable.itinerant reachable
  by_cases present : plane ∈ state.roster.map Slot.id
  · obtain ⟨slot, member, rfl⟩ := Multiset.mem_map.mp present
    obtain ⟨stage, atStage, known⟩ := itinerant.staged slot member
    refine ⟨stage, ?_, known⟩
    cases atStage with
    | takingOff _ _ asked => exact asked
    | _ => trivial
  · by_cases bounded : plane < state.created
    · obtain ⟨down, stay, up, asked, known⟩ := itinerant.gone plane bounded present
      exact ⟨.gone down stay up, asked, known⟩
    · exact ⟨.arriving, trivial, itinerant.fresh plane (not_lt.mp bounded)⟩

/-- The operations of an airplane are those of its stage. -/
theorem Reachable.operations_of_plane (reachable : Reachable config state) (plane : Nat) :
    ∃ stage : Stage, stage.Timed ∧ history plane state.trace = stage.history plane ∧
      (operations state.trace).filter (fun job => job.label.1 = plane) =
        stage.jobs plane := by
  obtain ⟨stage, timed, known⟩ := Reachable.stage reachable plane
  refine ⟨stage, timed, known, ?_⟩
  rw [← operations_history, known, Stage.operations_history]

/-- The request of an operation is the only call of `notify` of the airplane in that
module. -/
theorem Reachable.request_of_operation (reachable : Reachable config state)
    {job : Operation} (member : job ∈ operations state.trace) :
    state.about job.label.1 (Record.request job.label.2) = [job.request] := by
  obtain ⟨stage, _, known, jobs⟩ := Reachable.operations_of_plane reachable job.label.1
  have mine : job ∈ stage.jobs job.label.1 := by
    rw [← jobs]
    exact List.mem_filter.mpr ⟨member, by simp⟩
  rw [about_eq_history (request_personal _), known]
  cases stage with
  | arriving | holding _ => simp [Stage.jobs] at mine
  | landing down | parked down _ | queued down _ =>
      rw [Stage.jobs, List.mem_singleton] at mine
      rw [mine]
      rfl
  | takingOff down _ up | gone down _ up =>
      rw [Stage.jobs, List.mem_pair] at mine
      rcases mine with mine | mine <;> rw [mine] <;> rfl

/-- The personal calls of an airplane are those of its stage. -/
theorem mem_stage_history {plane : Nat} {stage : Stage}
    (known : history plane state.trace = stage.history plane) {record : Record} :
    record ∈ stage.history plane ↔
      record ∈ state.trace ∧ record.plane = plane ∧ record.personal = true := by
  rw [← known, history, List.mem_filter, Bool.and_eq_true, decide_eq_true_eq]

/-- A sample of the waiting time for the runway is the wait of an operation that starts
when the sample is taken. -/
theorem Reachable.operation_of_sample (reachable : Reachable config state)
    {record : Record} (member : record ∈ state.trace) (module : SimpleModule) {wait : Int}
    (sample : record.call = .emit module.waitingTime wait) :
    ∃ job ∈ operations state.trace, job.label = (record.plane, module) ∧
      job.start = record.time ∧ job.wait = wait := by
  obtain ⟨stage, _, known, jobs⟩ := Reachable.operations_of_plane reachable record.plane
  have own : record ∈ stage.history record.plane := by
    rw [mem_stage_history known]
    refine ⟨member, rfl, ?_⟩
    cases module <;> simp [Record.personal, sample, SimpleModule.waitingTime]
  obtain ⟨leg, mine, start, waits⟩ := stage.leg_of_sample own sample
  rw [← jobs] at mine
  exact ⟨_, (List.mem_filter.mp mine).1, rfl, start, leg.job_wait.trans waits⟩

end AirTrafficControl
