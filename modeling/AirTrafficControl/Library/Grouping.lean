import AirTrafficControl.Library.Dictionary
import Mathlib.Data.List.Sort

/-!
# Grouped tables

The rows of a table are grouped by a key, and the groups are in the order of their keys.
-/

namespace Grouping

universe u v

variable {Row : Type u} {Key : Type v} [LinearOrder Key]

/-- The different keys of a table, in ascending order. -/
def keysOf (key : Row → Key) (rows : List Row) : List Key :=
  (rows.map key).eraseDups.insertionSort (· ≤ ·)

/-- The rows of each key. -/
def groupBy (key : Row → Key) (rows : List Row) : List (Key × List Row) :=
  (keysOf key rows).map fun own => (own, rows.filter fun row => key row = own)

variable {key : Row → Key} {rows : List Row}

theorem mem_keysOf {own : Key} : own ∈ keysOf key rows ↔ ∃ row ∈ rows, key row = own := by
  rw [keysOf, (List.perm_insertionSort _ _).mem_iff, List.mem_eraseDups, List.mem_map]

theorem nodup_keysOf (key : Row → Key) (rows : List Row) : (keysOf key rows).Nodup :=
  (List.perm_insertionSort _ _).nodup_iff.mpr (Dictionary.nodup_eraseDups _)

theorem keysOf_pairwise (key : Row → Key) (rows : List Row) :
    (keysOf key rows).Pairwise (· < ·) := by
  have sorted : (keysOf key rows).Pairwise (· ≤ ·) := List.pairwise_insertionSort _ _
  exact sorted.imp₂ (fun _ _ before different => lt_of_le_of_ne before different)
    (nodup_keysOf key rows)

theorem mem_groupBy {own : Key} {members : List Row} : (own, members) ∈ groupBy key rows ↔
    (∃ row ∈ rows, key row = own) ∧ members = rows.filter fun row => key row = own := by
  rw [groupBy, List.mem_map]
  constructor
  · rintro ⟨other, known, same⟩
    cases same
    exact ⟨mem_keysOf.mp known, rfl⟩
  · rintro ⟨known, rfl⟩
    exact ⟨own, mem_keysOf.mpr known, rfl⟩

/-- The rows of some of the groups. -/
theorem flatMap_groupBy (kept : Key → Prop) [DecidablePred kept] :
    (((groupBy key rows).filter fun group => kept group.1).flatMap Prod.snd).Perm
      (rows.filter fun row => kept (key row)) := by
  let entries := (rows.filter fun row => kept (key row)).map fun row => (key row, row)
  have known : ∀ entry ∈ entries, entry.1 ∈ (keysOf key rows).filter kept := by
    intro entry member
    obtain ⟨row, isRow, rfl⟩ := List.mem_map.mp member
    obtain ⟨inRows, holds⟩ := List.mem_filter.mp isRow
    exact List.mem_filter.mpr ⟨mem_keysOf.mpr ⟨row, inRows, rfl⟩, holds⟩
  have values : ∀ own ∈ (keysOf key rows).filter kept, Dictionary.valuesOf entries own =
      rows.filter fun row => key row = own := by
    intro own isKey
    have holds := of_decide_eq_true (List.mem_filter.mp isKey).2
    rw [Dictionary.valuesOf, List.filter_map, List.map_map, List.filter_filter]
    refine (List.map_id _).trans (List.filter_congr ?_)
    intro row _
    by_cases same : key row = own
    · simp [same, holds]
    · simp [same]
  have perm := Dictionary.flatMap_valuesOf ((nodup_keysOf key rows).filter _) known
  rw [List.flatMap_congr values, List.map_map] at perm
  rw [groupBy, List.filter_map, List.flatMap_map]
  exact perm.trans (.of_eq (List.map_id _))

end Grouping
