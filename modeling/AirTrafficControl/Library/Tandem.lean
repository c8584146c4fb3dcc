import Mathlib.Data.List.Infix

/-!
# Gates in a row

Items pass a row of gates.  As long as every gate lets the first of the items before it
through, all gates are passed in the order in which the items came.
-/

namespace Tandem

universe u v

variable {Gate : Type u} {Item : Type v}

/-- The items that have passed each gate, latest first, and the items before it, the next
one first. -/
structure Row (Gate : Type u) (Item : Type v) where
  passed : Gate → List Item
  before : Gate → List Item

/-- At every gate the items are in the order in which they came. -/
def Row.InOrder (row : Row Gate Item) (items : List Item) : Prop :=
  ∀ gate, (row.passed gate).reverse ++ row.before gate = items

/-- One item passes some gates and stays behind the item before it at the others. -/
structure Row.Moves (row later : Row Gate Item) (item : Item) (opened : List Gate) :
    Prop where
  passed : ∀ gate ∈ opened, later.passed gate = item :: row.passed gate ∧
    row.before gate = item :: later.before gate
  kept : ∀ gate, gate ∉ opened →
    later.passed gate = row.passed gate ∧ later.before gate = row.before gate

namespace Row.InOrder

variable {row later : Row Gate Item} {items : List Item} {item : Item}

theorem moves (inOrder : row.InOrder items) {opened : List Gate}
    (moves : row.Moves later item opened) : later.InOrder items := by
  intro gate
  by_cases passes : gate ∈ opened
  · obtain ⟨passed, first⟩ := moves.passed gate passes
    have before := inOrder gate
    rw [first] at before
    rw [passed, List.reverse_cons, List.append_assoc]
    exact before
  · obtain ⟨passed, first⟩ := moves.kept gate passes
    rw [passed, first]
    exact inOrder gate

/-- A new item comes last. -/
theorem enters (inOrder : row.InOrder items)
    (passed : ∀ gate, later.passed gate = row.passed gate)
    (before : ∀ gate, later.before gate = row.before gate ++ [item]) :
    later.InOrder (items ++ [item]) := by
  intro gate
  rw [passed, before, ← List.append_assoc, inOrder gate]

/-- Numbered items pass a gate in the order of their numbers. -/
theorem passed_of_le {row : Row Gate Nat} {count item later : Nat} {gate : Gate}
    (inOrder : row.InOrder (List.range count)) (ordered : item ≤ later)
    (passed : later ∈ row.passed gate) : item ∈ row.passed gate := by
  have begins : (row.passed gate).reverse <+: List.range count := ⟨_, inOrder gate⟩
  have numbered := List.prefix_iff_eq_take.mp begins
  rw [List.take_range] at numbered
  rw [← List.mem_reverse, numbered, List.mem_range] at passed ⊢
  exact ordered.trans_lt passed

/-- A gate is passed in the same order as the gates that all of the items behind it have
still to pass. -/
theorem prefix_of_suffix (inOrder : row.InOrder items) {gate earlier : Gate}
    (suffix : row.before earlier <:+ row.before gate) :
    (row.passed gate).reverse <+: (row.passed earlier).reverse := by
  obtain ⟨between, split⟩ := suffix
  have same := (inOrder gate).trans (inOrder earlier).symm
  rw [← split, ← List.append_assoc] at same
  exact ⟨between, List.append_cancel_right same⟩

end Row.InOrder

end Tandem
