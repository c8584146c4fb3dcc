import AirTrafficControl.Queue.Choice
import AirTrafficControl.Regime.Ages
import AirTrafficControl.Symmetry.Rescaling
import Mathlib.Data.Set.Finite.Lattice
import Mathlib.Data.Set.Finite.List
import Mathlib.Order.Interval.Finset.Basic
import Mathlib.Data.Int.Interval

/-!
# The state relative to the clock

What the handlers read of a state, with all times counted from now and all airplanes from the
next one.  Two states with the same relative state are images of each other, shifted in time,
and at load at most one a run of the deterministic regime has only finitely many relative
states.
-/

namespace AirTrafficControl

variable {config : Config} {state image : Network}

namespace Network

/-- An airplane in a queue, relative to the state. -/
def relativePlane (state : Network) (plane : Airplane) : Int × Int × Int :=
  (state.created - plane.id, state.simTime - plane.timestamp,
    state.simTime - plane.queueArrivalTime)

/-- A pending message, relative to the state.  An airplane that has not arrived yet has no
age. -/
def relativeEvent (state : Network) (event : Event) : Kind × Int × Int × Int :=
  (event.kind, state.created - event.airplane.id, event.time - state.simTime,
    if event.kind = .arrival then 0 else state.simTime - event.airplane.timestamp)

/-- A state relative to its clock and to the number of its airplanes. -/
structure Relative where
  landingStripOccupied : Bool
  holdingQueue : List (Int × Int × Int)
  departQueue : List (Int × Int × Int)
  futureEvents : List (Kind × Int × Int × Int)

def relative (state : Network) : Relative where
  landingStripOccupied := state.landingStripOccupied
  holdingQueue := state.holdingQueue.map state.relativePlane
  departQueue := state.departQueue.map state.relativePlane
  futureEvents := state.futureEvents.map state.relativeEvent

end Network

/-! ## Images and relative states -/

section Images

variable {scale : Rescaling}

private theorem map_eq_of_forall₂ {α β γ : Type} {related : α → β → Prop} {list : List α}
    {images : List β} {read : α → γ} {read' : β → γ}
    (alike : List.Forall₂ related list images)
    (same : ∀ one one', related one one' → read' one' = read one) :
    images.map read' = list.map read := by
  induction alike with
  | nil => rfl
  | cons first _ ih => rw [List.map_cons, List.map_cons, ih, same _ _ first]

private theorem forall₂_of_map_eq {α β γ : Type} {related : α → β → Prop} {list : List α}
    {images : List β} {read : α → γ} {read' : β → γ}
    (same : images.map read' = list.map read)
    (alike : ∀ one one', read' one' = read one → related one one') :
    List.Forall₂ related list images := by
  have equal : List.Forall₂ Eq (images.map read') (list.map read) := by
    rw [same]
    exact List.forall₂_same.mpr fun _ _ => rfl
  rw [List.forall₂_map_left_iff, List.forall₂_map_right_iff] at equal
  exact equal.flip.imp alike

/-- A shift in time does not change the relative state. -/
theorem Rescaled.relative_eq (rescaled : Rescaled scale state image)
    (unit : scale.factor = 1) : image.relative = state.relative := by
  have now := rescaled.now
  have created := rescaled.created
  have planes : ∀ plane plane', scale.Waiting plane plane' →
      image.relativePlane plane' = state.relativePlane plane := by
    intro plane plane' waiting
    have id := waiting.id
    have stamped := waiting.timestamp
    have asked := waiting.queueArrivalTime
    simp only [Rescaling.instant, unit, one_mul] at now stamped asked
    simp only [Network.relativePlane, Prod.mk.injEq]
    omega
  have events : ∀ event event', scale.Message event event' →
      image.relativeEvent event' = state.relativeEvent event := by
    intro event event' message
    have id := message.id
    have time := message.time
    have stamped := message.timestamp
    simp only [Rescaling.instant, unit, one_mul] at now time stamped
    simp only [Network.relativeEvent, message.kind, Prod.mk.injEq, true_and]
    refine ⟨by omega, by omega, ?_⟩
    split
    next => rfl
    next arrived =>
      have stamped := stamped arrived
      omega
  simp only [Network.relative, rescaled.occupied,
    map_eq_of_forall₂ rescaled.holdingQueue planes,
    map_eq_of_forall₂ rescaled.departQueue planes, map_eq_of_forall₂ rescaled.events events]

/-- The shift from one state to another. -/
def Rescaling.shift (state image : Network) : Rescaling where
  factor := 1
  offset := image.simTime - state.simTime
  planes := image.created - state.created
  departures := image.departedPlanes - state.departedPlanes
  recorded := state.trace
  recorded' := image.trace
  positive := Int.one_pos

/-- States with the same relative state are images of each other. -/
theorem Rescaled.of_relative (same : image.relative = state.relative)
    (later : state.created ≤ image.created) (draws : image.rngDraws = state.rngDraws)
    (ended : image.ended = state.ended) (parked : image.numParked = state.numParked) :
    Rescaled (.shift state image) state image := by
  have instant : ∀ time, (Rescaling.shift state image).instant time =
      time + (image.simTime - state.simTime) := by
    intro time
    rw [Rescaling.instant]
    exact congrArg (· + (image.simTime - state.simTime)) (one_mul time)
  have shifted : (Rescaling.shift state image).planes = image.created - state.created := rfl
  simp only [Network.relative, Network.Relative.mk.injEq] at same
  obtain ⟨occupied, holding, depart, events⟩ := same
  have planes : ∀ plane plane', image.relativePlane plane' = state.relativePlane plane →
      (Rescaling.shift state image).Waiting plane plane' := by
    intro plane plane' equal
    simp only [Network.relativePlane, Prod.mk.injEq] at equal
    refine ⟨⟨?_, ?_⟩, ?_⟩
    · rw [shifted]
      omega
    · rw [instant]
      omega
    · rw [instant]
      omega
  refine ⟨?_, forall₂_of_map_eq events ?_, draws, ?_, ended, occupied, ?_,
    forall₂_of_map_eq holding planes, parked, forall₂_of_map_eq depart planes,
    [], rfl, rfl⟩
  · rw [instant]
    omega
  · intro event event' equal
    simp only [Network.relativeEvent, Prod.mk.injEq] at equal
    obtain ⟨kind, id, time, age⟩ := equal
    refine ⟨?_, kind, ?_, ?_⟩
    · rw [instant]
      omega
    · rw [shifted]
      omega
    · intro arrived
      rw [kind, if_neg arrived, if_neg arrived] at age
      rw [instant]
      omega
  · rw [shifted]
    omega
  · exact (add_sub_cancel _ _).symm

end Images

/-! ## Finitely many relative states -/

/-- Short lists over a finite set are finitely many. -/
theorem finite_lists {α : Type} {entries : Set α} (finite : entries.Finite) (bound : Nat) :
    {list : List α | list.length ≤ bound ∧ ∀ entry ∈ list, entry ∈ entries}.Finite := by
  have := finite.to_subtype
  refine ((List.finite_length_le entries bound).image (List.map Subtype.val)).subset ?_
  rintro list ⟨short, inside⟩
  refine ⟨list.attachWith _ inside, ?_, List.attachWith_map_subtype_val inside⟩
  exact List.length_attachWith.trans_le short

/-- The whole numbers up to a limit. -/
def upTo (limit : Int) : Set Int := {number | 0 ≤ number ∧ number ≤ limit}

@[simp] theorem mem_upTo {number limit : Int} :
    number ∈ upTo limit ↔ 0 ≤ number ∧ number ≤ limit :=
  Iff.rfl

theorem finite_upTo (limit : Int) : (upTo limit).Finite :=
  (Set.finite_Icc 0 limit).subset fun _ bounds => Set.mem_Icc.mpr bounds

/-- Relative states with bounded entries and few airplanes. -/
def Network.Relative.Bounded (limit : Int) (relative : Network.Relative) : Prop :=
  let planes := upTo limit ×ˢ upTo limit ×ˢ upTo limit
  (relative.holdingQueue.length ≤ limit.toNat ∧
      ∀ plane ∈ relative.holdingQueue, plane ∈ planes) ∧
    (relative.departQueue.length ≤ limit.toNat ∧
      ∀ plane ∈ relative.departQueue, plane ∈ planes) ∧
    (relative.futureEvents.length ≤ limit.toNat ∧
      ∀ event ∈ relative.futureEvents, event.2 ∈ planes)

theorem finite_bounded (limit : Int) :
    {relative : Network.Relative | relative.Bounded limit}.Finite := by
  have interval := finite_upTo limit
  have planes := interval.prod (interval.prod interval)
  have queues := finite_lists planes limit.toNat
  have kinds : ({.arrival, .landing, .parking, .takeoff} : Set Kind).Finite := Set.toFinite _
  have events := finite_lists (kinds.prod planes) limit.toNat
  refine (((Set.toFinite (Set.univ : Set Bool)).prod
    (queues.prod (queues.prod events))).image fun parts =>
      (⟨parts.1, parts.2.1, parts.2.2.1, parts.2.2.2⟩ : Network.Relative)).subset ?_
  rintro ⟨occupied, holding, depart, pending⟩ ⟨inHolding, inDepart, few, inPending⟩
  refine ⟨(occupied, holding, depart, pending), ⟨trivial, inHolding, inDepart, few, ?_⟩, rfl⟩
  intro event member
  refine ⟨?_, inPending event member⟩
  cases event.1 <;> simp

/-- A bound on the ages, residual times and numbers of a run at load at most one. -/
def Timetable.limit (table : Timetable) : Int :=
  table.longest + table.horizon + 2

section Stable

variable (stable : config.timetable.Stable) (deterministic : config.par.Deterministic)
  (reachable : Reachable config state)

include stable deterministic reachable

private theorem Reachable.relativePlane_mem {module : SimpleModule} {plane : Airplane}
    (member : .queued module plane ∈ state.roster)
    (past : plane.queueArrivalTime ≤ state.simTime) :
    state.relativePlane plane ∈ upTo config.timetable.limit ×ˢ
      upTo config.timetable.limit ×ˢ upTo config.timetable.limit := by
  have horizon := stable.horizon_nonneg stable.interArrival_pos.le
  have bounded := (Reachable.itinerant reachable).bounded _ member
  have near := Reachable.created_sub_le stable deterministic reachable member
  have young := (Reachable.aged stable deterministic reachable member rfl).young
  have asked := Reachable.timestamp_le stable deterministic reachable member
  rw [Slot.id_queued] at bounded near
  have young : state.simTime ≤ plane.timestamp + config.timetable.longest := young
  simp only [Network.relativePlane, Set.mem_prod, mem_upTo, Timetable.limit]
  omega

private theorem Reachable.relativeEvent_mem {event : Event}
    (member : event ∈ state.futureEvents) :
    (state.relativeEvent event).2 ∈ upTo config.timetable.limit ×ˢ
      upTo config.timetable.limit ×ˢ upTo config.timetable.limit := by
  have horizon := stable.horizon_nonneg stable.interArrival_pos.le
  have longest := stable.longest_nonneg
  have present := Network.pending_mem_roster.mpr member
  have bounded := (Reachable.itinerant reachable).bounded _ present
  have near := Reachable.created_sub_le stable deterministic reachable present
  have future := (Reachable.timely reachable).pending event member
  have soon := Reachable.event_le deterministic reachable stable.toSound
    stable.interArrival_pos.le event member
  rw [Slot.id_pending] at bounded near
  simp only [Network.relativeEvent, Set.mem_prod, mem_upTo, Timetable.limit]
  refine ⟨by omega, by omega, ?_⟩
  split
  next => omega
  next arrived =>
    have aged := Reachable.aged stable deterministic reachable present
      (decide_eq_false arrived)
    have past : event.airplane.timestamp ≤ state.simTime := aged.past
    have young : state.simTime ≤ event.airplane.timestamp + config.timetable.longest :=
      aged.young
    omega

theorem Reachable.relative_bounded : state.relative.Bounded config.timetable.limit := by
  have horizon := stable.horizon_nonneg stable.interArrival_pos.le
  have timely := Reachable.timely reachable
  have few := Reachable.card_roster_le stable deterministic reachable
  have count : state.roster.card = state.holdingQueue.length +
      (state.departQueue.length + state.futureEvents.length) := by
    simp [Network.roster]
  refine ⟨⟨?_, ?_⟩, ⟨?_, ?_⟩, ?_, ?_⟩
  · rw [Network.relative, List.length_map, Timetable.limit]
    omega
  · intro relative inQueue
    obtain ⟨plane, member, rfl⟩ := List.mem_map.mp inQueue
    exact Reachable.relativePlane_mem stable deterministic reachable
      (Network.queued_airspace_mem_roster.mpr member) (timely.holding.past plane member)
  · rw [Network.relative, List.length_map, Timetable.limit]
    omega
  · intro relative inQueue
    obtain ⟨plane, member, rfl⟩ := List.mem_map.mp inQueue
    exact Reachable.relativePlane_mem stable deterministic reachable
      (Network.queued_parkingArea_mem_roster.mpr member) (timely.depart.past plane member)
  · rw [Network.relative, List.length_map, Timetable.limit]
    omega
  · intro relative isPending
    obtain ⟨event, member, rfl⟩ := List.mem_map.mp isPending
    exact Reachable.relativeEvent_mem stable deterministic reachable member

end Stable

end AirTrafficControl
