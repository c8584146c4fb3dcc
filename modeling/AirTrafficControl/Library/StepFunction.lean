import Mathlib.Algebra.BigOperators.Group.List.Basic
import Mathlib.Data.Nat.Count
import Mathlib.Data.Finset.Range
import Mathlib.Data.Int.Order.Basic
import Mathlib.Tactic.Ring

/-!
# Step functions

A step function given by its changes, each one the instant from which a value holds, with
the latest change in front.  Time is counted in whole ticks.
-/

namespace StepFunction

universe u

variable {α : Type u}

/-- The value at an instant, `initial` before the first change. -/
def valueAt (initial : α) (changes : List (Int × α)) (instant : Int) : α :=
  (changes.find? fun change => change.1 ≤ instant).elim initial Prod.snd

/-- The ticks of an interval at which a flag that is off at first is on. -/
def timeOn (changes : List (Int × Bool)) (start stop : Int) : Nat :=
  Nat.count (fun offset => valueAt false changes (start + offset)) (stop - start).toNat

/-- The ticks of an interval at which a flag that is off at first is off. -/
def timeOff (changes : List (Int × Bool)) (start stop : Int) : Nat :=
  Nat.count (fun offset => valueAt false changes (start + offset) = false)
    (stop - start).toNat

/-- The integral of a step function with whole values. -/
def integral (initial : Int) (changes : List (Int × Int)) (start stop : Int) : Int :=
  ((List.range (stop - start).toNat).map fun offset : Nat =>
    valueAt initial changes (start + offset)).sum

variable {initial : α} {changes : List (Int × α)} {time instant : Int} {value : α}

@[simp] theorem valueAt_nil : valueAt initial [] instant = initial := rfl

/-- A change in the future has no effect yet. -/
theorem valueAt_cons_of_lt (future : instant < time) :
    valueAt initial ((time, value) :: changes) instant =
      valueAt initial changes instant := by
  rw [valueAt, List.find?_cons_of_neg]
  · rfl
  · simp [not_le.mpr future]

/-- The latest change in the past counts. -/
theorem valueAt_cons_of_le (past : time ≤ instant) :
    valueAt initial ((time, value) :: changes) instant = value := by
  rw [valueAt, List.find?_cons_of_pos]
  · rfl
  · exact decide_eq_true past

/-- Changes in the future have no effect yet. -/
theorem valueAt_append_of_lt {newer : List (Int × α)}
    (future : ∀ change ∈ newer, instant < change.1) :
    valueAt initial (newer ++ changes) instant = valueAt initial changes instant := by
  induction newer with
  | nil => rfl
  | cons change newer ih =>
      obtain ⟨later, others⟩ := List.forall_mem_cons.mp future
      rw [List.cons_append, valueAt_cons_of_lt later]
      exact ih others

/-- When all changes are in the past the latest one counts. -/
theorem valueAt_of_forall_le (past : ∀ change ∈ changes, change.1 ≤ instant) :
    valueAt initial changes instant = changes.head?.elim initial Prod.snd := by
  cases changes with
  | nil => rfl
  | cons change older => exact valueAt_cons_of_le (past change List.mem_cons_self)

/-- Flags that agree on an interval are on for the same time. -/
theorem timeOn_congr {changes other : List (Int × Bool)} {start stop : Int}
    (same : ∀ instant, start ≤ instant → instant < stop →
      valueAt false changes instant = valueAt false other instant) :
    timeOn changes start stop = timeOn other start stop := by
  unfold timeOn
  rw [Nat.count_eq_card_filter_range, Nat.count_eq_card_filter_range]
  congr 1
  apply Finset.filter_congr
  intro offset member
  have inside := Finset.mem_range.mp member
  rw [same] <;> omega

/-- The time a flag is on, when it does not change any more in the second part. -/
theorem timeOn_add {changes : List (Int × Bool)} {start middle stop : Int} {flag : Bool}
    (first : start ≤ middle) (second : middle ≤ stop)
    (constant : ∀ instant, middle ≤ instant → valueAt false changes instant = flag) :
    (timeOn changes start stop : Int) =
      timeOn changes start middle + if flag then stop - middle else 0 := by
  obtain ⟨before, rfl⟩ := Int.le.dest first
  obtain ⟨after, rfl⟩ := Int.le.dest second
  have whole : (start + before + after - start).toNat = before + after := by omega
  have rest : ∀ offset : Nat,
      valueAt false changes (start + ((before + offset : Nat) : Int)) = flag := by
    intro offset
    apply constant
    omega
  unfold timeOn
  rw [whole, add_sub_cancel_left, Int.toNat_natCast, Nat.count_add]
  simp only [rest]
  cases flag with
  | true => simp
  | false => simp

/-- A flag is on or off. -/
theorem timeOn_add_timeOff (changes : List (Int × Bool)) (start stop : Int) :
    timeOn changes start stop + timeOff changes start stop = (stop - start).toNat := by
  unfold timeOn timeOff
  induction (stop - start).toNat with
  | zero => rfl
  | succ length ih =>
      rw [Nat.count_succ, Nat.count_succ]
      cases valueAt false changes (start + length) with
      | true =>
          rw [if_pos rfl, if_neg (by decide)]
          omega
      | false =>
          rw [if_neg Bool.false_ne_true, if_pos rfl]
          omega

section Integral

variable {initial value start middle stop : Int} {changes other : List (Int × Int)}

@[simp] theorem integral_self : integral initial changes start start = 0 := by
  rw [integral, sub_self]
  rfl

theorem integral_add (first : start ≤ middle) (second : middle ≤ stop) :
    integral initial changes start stop =
      integral initial changes start middle + integral initial changes middle stop := by
  obtain ⟨before, rfl⟩ := Int.le.dest first
  obtain ⟨after, rfl⟩ := Int.le.dest second
  have whole : (start + before + after - start).toNat = before + after := by omega
  unfold integral
  rw [whole, add_sub_cancel_left, add_sub_cancel_left, Int.toNat_natCast,
    Int.toNat_natCast, List.range_add, List.map_append, List.sum_append, List.map_map]
  congr 2
  apply List.map_congr_left
  intro offset _
  rw [Function.comp_apply, Nat.cast_add, add_assoc]

/-- Step functions that agree on an interval have the same integral. -/
theorem integral_congr (same : ∀ instant, start ≤ instant → instant < stop →
      valueAt initial changes instant = valueAt initial other instant) :
    integral initial changes start stop = integral initial other start stop := by
  unfold integral
  congr 1
  apply List.map_congr_left
  intro offset member
  have inside := List.mem_range.mp member
  apply same <;> omega

/-- The integral of a step function that is constant on an interval. -/
theorem integral_const (ordered : start ≤ stop)
    (constant : ∀ instant, start ≤ instant → instant < stop →
      valueAt initial changes instant = value) :
    integral initial changes start stop = (stop - start) * value := by
  obtain ⟨length, rfl⟩ := Int.le.dest ordered
  have values : (List.range length).map
        (fun offset : Nat => valueAt initial changes (start + offset)) =
      List.replicate length value := by
    rw [List.eq_replicate_iff, List.length_map, List.length_range]
    refine ⟨rfl, ?_⟩
    intro other member
    obtain ⟨offset, inside, rfl⟩ := List.mem_map.mp member
    have before := List.mem_range.mp inside
    apply constant <;> omega
  rw [integral, add_sub_cancel_left, Int.toNat_natCast, values, List.sum_replicate,
    nsmul_eq_mul]

end Integral

end StepFunction
