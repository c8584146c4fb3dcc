import AirTrafficControl.Library.Dictionary

/-!
# Outer joins

Two tables are joined by their keys: a row is paired with every row of its key in the other
table, and a row without a partner stays alone.
-/

namespace Join

universe u v w

variable {Key : Type u} {Left : Type v} {Right : Type w} [DecidableEq Key]

open Dictionary

/-- The rows of the join that come from a row of the left table. -/
def pairs (right : List (Key × Right)) (entry : Key × Left) :
    List (Key × Option Left × Option Right) :=
  match valuesOf right entry.1 with
  | [] => [(entry.1, some entry.2, none)]
  | values => values.map fun value => (entry.1, some entry.2, some value)

/-- The full outer join. -/
def outer (left : List (Key × Left)) (right : List (Key × Right)) :
    List (Key × Option Left × Option Right) :=
  left.flatMap (pairs right) ++
    (right.filter fun entry => entry.1 ∉ left.map Prod.fst).map fun entry =>
      (entry.1, none, some entry.2)

variable {left : List (Key × Left)} {right : List (Key × Right)}

theorem outer_perm {other : List (Key × Left)} (same : left.Perm other)
    (right : List (Key × Right)) : (outer left right).Perm (outer other right) := by
  have keys : (right.filter fun entry => entry.1 ∉ left.map Prod.fst) =
      right.filter fun entry => entry.1 ∉ other.map Prod.fst := by
    apply List.filter_congr
    intro entry _
    exact decide_eq_decide.mpr (same.map Prod.fst).mem_iff.not
  unfold outer
  rw [keys]
  exact (same.flatMap_right _).append_right _

/-- Nothing is added to the left table when its keys are all there are. -/
theorem outer_of_known (known : ∀ entry ∈ right, entry.1 ∈ left.map Prod.fst) :
    outer left right = left.flatMap (pairs right) := by
  have none : (right.filter fun entry => entry.1 ∉ left.map Prod.fst) = [] := by
    apply List.filter_eq_nil_iff.mpr
    intro entry member
    simpa using known entry member
  rw [outer, none, List.map_nil, List.append_nil]

theorem pairs_none {entry : Key × Left} (none : valuesOf right entry.1 = []) :
    pairs right entry = [(entry.1, some entry.2, .none)] := by
  rw [pairs, none]

theorem pairs_single {entry : Key × Left} {value : Right}
    (single : valuesOf right entry.1 = [value]) :
    pairs right entry = [(entry.1, some entry.2, some value)] := by
  rw [pairs, single]
  rfl

end Join
