import Mathlib.Logic.Relation
import Mathlib.Order.Monotone.Basic
import Mathlib.Data.Int.LeastGreatest

/-!
# Runs of a transition system

Induction over the states a step relation reaches, and the few facts about infinite runs
that a liveness argument needs: a bounded counter that never decreases is eventually
constant, and a natural number that never increases cannot decrease again and again.
-/

namespace TransitionSystem

universe u

variable {State : Type u} {step : State → State → Prop} {start : State}

/-- Invariant rule.  A step may use that its source is reachable. -/
theorem invariant (property : State → Prop) (initially : property start)
    (preserved : ∀ source target, Relation.ReflTransGen step start source →
      property source → step source target → property target)
    {state : State} (reachable : Relation.ReflTransGen step start state) :
    property state := by
  induction reachable with
  | refl => exact initially
  | tail reached stepped ih => exact preserved _ _ reached ih stepped

/-- An infinite run of a step relation. -/
structure Run (step : State → State → Prop) (start : State) where
  state : Nat → State
  starts : state 0 = start
  steps : ∀ time, step (state time) (state (time + 1))

namespace Run

theorem reachable (run : Run step start) (time : Nat) :
    Relation.ReflTransGen step start (run.state time) := by
  induction time with
  | zero => rw [run.starts]
  | succ time ih => exact ih.tail (run.steps time)

/-- A property that holds now and fails later is lost in some step between. -/
theorem exists_lost (run : Run step start) (property : State → Prop)
    {first last : Nat} (ordered : first ≤ last) (holds : property (run.state first))
    (fails : ¬property (run.state last)) :
    ∃ time, first ≤ time ∧ time < last ∧ property (run.state time) ∧
      ¬property (run.state (time + 1)) := by
  induction last, ordered using Nat.le_induction with
  | base => exact absurd holds fails
  | succ last ordered ih =>
      by_cases still : property (run.state last)
      · exact ⟨last, ordered, Nat.lt_succ_self last, still, fails⟩
      · obtain ⟨time, after, before, kept, lost⟩ := ih still
        exact ⟨time, after, Nat.lt_succ_of_lt before, kept, lost⟩

/-- A property kept by every step of the run from some time on holds from then on. -/
theorem holds_from (run : Run step start) (property : State → Prop) {first : Nat}
    (holds : property (run.state first))
    (kept : ∀ time, first ≤ time → property (run.state time) →
      property (run.state (time + 1)))
    {time : Nat} (after : first ≤ time) : property (run.state time) := by
  induction time, after using Nat.le_induction with
  | base => exact holds
  | succ time after ih => exact kept time after ih

/-- A bounded counter that never decreases is constant from some time on. -/
theorem eventually_constant (run : Run step start) (counter : State → Int) (bound : Int)
    (monotone : ∀ time, counter (run.state time) ≤ counter (run.state (time + 1)))
    (bounded : ∀ time, counter (run.state time) ≤ bound) :
    ∃ first, ∀ time, first ≤ time →
      counter (run.state time) = counter (run.state first) := by
  have ordered : Monotone fun time => counter (run.state time) :=
    monotone_nat_of_le_succ monotone
  obtain ⟨largest, ⟨first, value⟩, maximal⟩ :=
    Int.exists_greatest_of_bdd
      (P := fun value => ∃ time, counter (run.state time) = value)
      ⟨bound, by rintro _ ⟨time, rfl⟩; exact bounded time⟩ ⟨_, 0, rfl⟩
  refine ⟨first, fun time after => le_antisymm ?_ (ordered after)⟩
  rw [value]
  exact maximal _ ⟨time, rfl⟩

/-- A rank that never increases from some time on cannot decrease again and again. -/
theorem not_recurrently_decreasing (run : Run step start) (rank : State → Nat)
    (first : Nat)
    (antitone : ∀ time, first ≤ time →
      rank (run.state (time + 1)) ≤ rank (run.state time))
    (decreases : ∀ time, first ≤ time → ∃ later, time ≤ later ∧
      rank (run.state (later + 1)) < rank (run.state later)) : False := by
  have never : ∀ value time, first ≤ time → rank (run.state time) ≠ value := by
    intro value
    induction value using Nat.strong_induction_on with
    | _ value ih =>
        intro time after equal
        obtain ⟨later, ordered, smaller⟩ := decreases time after
        have bounded : rank (run.state later) ≤ value :=
          run.holds_from (fun state => rank state ≤ value)
            (le_of_eq equal)
            (fun instant reached kept =>
              (antitone instant (after.trans reached)).trans kept) ordered
        exact ih _ (smaller.trans_le bounded) (later + 1)
          ((after.trans ordered).trans (Nat.le_succ later)) rfl
  exact never _ first le_rfl rfl

end Run

end TransitionSystem
