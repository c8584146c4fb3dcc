import AirTrafficControl.Safety.Conservation
import AirTrafficControl.Model.Ini

/-!
# Response times

The response time of an airplane is computed from the timestamp of its arrival, its parts
from queue arrival times that are set on the queued path only.  The itinerary of an
airplane that is gone shows that they add up.
-/

namespace AirTrafficControl

variable {config : Config} {state : Network}

/-! ## What is recorded about one airplane -/

/-- A sample of a signal: its time and its value. -/
def Record.sample (signal : Signal) (record : Record) : Option (Int × Int) :=
  match record.call with
  | .emit other value => if other = signal then some (record.time, value) else none
  | _ => none

/-- The samples of a signal that a run has emitted, latest first. -/
def Network.samples (state : Network) (signal : Signal) : List (Int × Int) :=
  state.trace.filterMap (Record.sample signal)

/-- New calls add their samples. -/
theorem samples_append {next : Network} (signal : Signal) (calls : List Record)
    (trace : next.trace = calls ++ state.trace) :
    next.samples signal =
      calls.filterMap (Record.sample signal) ++ state.samples signal := by
  rw [Network.samples, trace, List.filterMap_append]
  rfl

section Sample

variable (signal : Signal) (time : Int) (module : SimpleModule) (plane : Nat)

@[simp] theorem sample_emit (emitted : Signal) (value : Int) :
    Record.sample signal ⟨time, module, plane, .emit emitted value⟩ =
      if emitted = signal then some (time, value) else none := rfl

@[simp] theorem sample_notify :
    Record.sample signal ⟨time, module, plane, .notify⟩ = none := rfl

@[simp] theorem sample_sendDelayed (delay : Int) :
    Record.sample signal ⟨time, module, plane, .sendDelayed delay⟩ = none := rfl

@[simp] theorem sample_scheduleAt (target : Int) :
    Record.sample signal ⟨time, module, plane, .scheduleAt target⟩ = none := rfl

@[simp] theorem sample_delete :
    Record.sample signal ⟨time, module, plane, .delete⟩ = none := rfl

@[simp] theorem sample_endSimulation :
    Record.sample signal ⟨time, module, plane, .endSimulation⟩ = none := rfl

end Sample

/-- A sample is taken when it is emitted. -/
theorem record_of_sample {signal : Signal} {calls : List Record} {sample : Int × Int}
    (member : sample ∈ calls.filterMap (Record.sample signal)) :
    ∃ record ∈ calls, record.time = sample.1 := by
  obtain ⟨record, called, read⟩ := List.mem_filterMap.mp member
  refine ⟨record, called, ?_⟩
  obtain ⟨time, module, plane, call⟩ := record
  cases call with
  | emit emitted value =>
      rw [sample_emit] at read
      split at read
      · cases read
        rfl
      · cases read
  | _ => cases read

/-- A request for the runway: the time of a call of `notify`. -/
def Record.request (module : SimpleModule) (record : Record) : Option Int :=
  match record.call with
  | .notify => if record.module = module then some record.time else none
  | _ => none

/-- The start of a landing or take-off: its time and its duration. -/
def Record.start (module : SimpleModule) (record : Record) :
    Option (Int × Int) :=
  match record.call with
  | .sendDelayed delay => if record.module = module then some (record.time, delay) else none
  | _ => none

/-- The begin of a parking time: its time and its duration. -/
def Record.stay (record : Record) : Option (Int × Int) :=
  match record.call with
  | .scheduleAt time =>
      if record.module = .parkingArea then some (record.time, time - record.time) else none
  | _ => none

/-- The values that a module emitted on `RunwayUse`. -/
def Record.runwayUse (module : SimpleModule) (record : Record) : Option Int :=
  match record.call with
  | .emit .runwayUse value => if record.module = module then some value else none
  | _ => none

/-- What the trace tells about one airplane. -/
def Network.about {α : Type} (state : Network) (plane : Nat)
    (read : Record → Option α) : List α :=
  state.trace.filterMap fun record => if record.plane = plane then read record else none

/-- A reading that ignores all but personal calls. -/
def Personal {α : Type} (read : Record → Option α) : Prop :=
  ∀ record : Record, record.personal = false → read record = none

/-- A personal reading depends on the history of the airplane alone. -/
theorem about_eq_history {α : Type} {read : Record → Option α} (personal : Personal read)
    (state : Network) (plane : Nat) :
    state.about plane read = (history plane state.trace).filterMap read := by
  unfold Network.about history
  rw [List.filterMap_filter]
  apply List.filterMap_congr
  intro record _
  by_cases own : record.plane = plane
  · cases isPersonal : record.personal with
    | true => simp [own]
    | false => simp [own, personal record isPersonal]
  · simp [own]

theorem request_personal (module : SimpleModule) : Personal (Record.request module) := by
  rintro ⟨time, origin, plane, call⟩ other
  cases call with
  | notify => simp at other
  | _ => rfl

theorem start_personal (module : SimpleModule) : Personal (Record.start module) := by
  rintro ⟨time, origin, plane, call⟩ other
  cases call with
  | sendDelayed delay => simp at other
  | _ => rfl

theorem stay_personal : Personal Record.stay := by
  rintro ⟨time, origin, plane, call⟩ other
  cases call with
  | scheduleAt target =>
      rw [personal_scheduleAt, decide_eq_false_iff_not] at other
      simp [Record.stay, other]
  | _ => rfl

theorem runwayUse_personal (module : SimpleModule) :
    Personal (Record.runwayUse module) := by
  rintro ⟨time, origin, plane, call⟩ other
  cases call with
  | emit signal value => cases signal <;> first | rfl | simp at other
  | _ => rfl

theorem sample_personal {signal : Signal}
    (kept : signal = .holdingQueueWaitingTime ∨ signal = .departQueueWaitingTime ∨
      signal = .runwayUse ∨ signal = .airportResponseTime) :
    Personal (Record.sample signal) := by
  rintro ⟨time, origin, plane, call⟩ other
  cases call with
  | emit emitted value =>
      rw [personal_emit, decide_eq_false_iff_not] at other
      have different : emitted ≠ signal := by
        rintro rfl
        exact other kept
      simp [Record.sample, different]
  | _ => rfl

/-! ## The decomposition -/

/-- For every airplane that has left the system there is exactly one request, one start
and one sample of the waiting time for the landing and for the take-off, the samples are
the times between request and start, and the only response time is the sum of both waiting
times, the two durations emitted on `RunwayUse`, and the parking time. -/
theorem response_time (reachable : Reachable config state) {plane : Nat}
    (left : state.Deleted plane) :
    ∃ asked holdingWait landing parking readyAt departWait takeoff leaves : Int,
      state.about plane (Record.request .airspace) = [asked] ∧
      state.about plane (Record.start .airspace) = [(asked + holdingWait, landing)] ∧
      state.about plane (Record.sample .holdingQueueWaitingTime) =
        [(asked + holdingWait, holdingWait)] ∧
      state.about plane (Record.runwayUse .airspace) = [landing] ∧
      state.about plane Record.stay =
        [(asked + holdingWait + landing, parking)] ∧
      state.about plane (Record.request .parkingArea) = [readyAt] ∧
      state.about plane (Record.start .parkingArea) =
        [(readyAt + departWait, takeoff)] ∧
      state.about plane (Record.sample .departQueueWaitingTime) =
        [(readyAt + departWait, departWait)] ∧
      state.about plane (Record.runwayUse .parkingArea) = [takeoff] ∧
      state.about plane (Record.sample .airportResponseTime) =
        [(leaves, holdingWait + landing + parking + departWait + takeoff)] := by
  obtain ⟨down, stay, up, asked, known⟩ := Reachable.gone_of_deleted reachable left
  have total : up.finish - down.request =
      down.wait + down.duration + stay + up.wait + up.duration := by
    simp only [Leg.finish, Leg.start, asked]
    omega
  have response : state.about plane (Record.sample .airportResponseTime) =
      [(up.finish, up.finish - down.request)] := by
    rw [about_eq_history (sample_personal (by simp)), known]
    rfl
  refine ⟨down.request, down.wait, down.duration, stay, up.request, up.wait, up.duration,
    up.finish, ?_, ?_, ?_, ?_, ?_, ?_, ?_, ?_, ?_, total ▸ response⟩
  · rw [about_eq_history (request_personal _), known]
    rfl
  · rw [about_eq_history (start_personal _), known]
    rfl
  · rw [about_eq_history (sample_personal (by simp)), known]
    rfl
  · rw [about_eq_history (runwayUse_personal _), known]
    rfl
  · have lasts : stay = down.finish + stay - down.finish := by omega
    rw [about_eq_history stay_personal, known]
    exact congrArg (fun duration => [(down.finish, duration)]) lasts.symm
  · rw [about_eq_history (request_personal _), known]
    rfl
  · rw [about_eq_history (start_personal _), known]
    rfl
  · rw [about_eq_history (sample_personal (by simp)), known]
    rfl
  · rw [about_eq_history (runwayUse_personal _), known]
    rfl

/-- The first airplane of a small run has left after seven seconds. -/
theorem response_time_first :
    let state := eventLoop (Ini.deterministic 2 1 3 1 5 0) 8
    ∃ asked holdingWait landing parking readyAt departWait takeoff leaves : Int,
      state.about 0 (Record.request .airspace) = [asked] ∧
      state.about 0 (Record.start .airspace) = [(asked + holdingWait, landing)] ∧
      state.about 0 (Record.sample .holdingQueueWaitingTime) =
        [(asked + holdingWait, holdingWait)] ∧
      state.about 0 (Record.runwayUse .airspace) = [landing] ∧
      state.about 0 Record.stay = [(asked + holdingWait + landing, parking)] ∧
      state.about 0 (Record.request .parkingArea) = [readyAt] ∧
      state.about 0 (Record.start .parkingArea) = [(readyAt + departWait, takeoff)] ∧
      state.about 0 (Record.sample .departQueueWaitingTime) =
        [(readyAt + departWait, departWait)] ∧
      state.about 0 (Record.runwayUse .parkingArea) = [takeoff] ∧
      state.about 0 (Record.sample .airportResponseTime) =
        [(leaves, holdingWait + landing + parking + departWait + takeoff)] :=
  response_time (eventLoop_reachable _ 8)
    ⟨⟨7000, .airspace, 0, .delete⟩, by decide, rfl, rfl⟩

end AirTrafficControl
