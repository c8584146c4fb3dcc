import Mathlib.Data.List.Sort
import Mathlib.Order.Basic

/-!
# Sorted tables

Tables that are sorted by several columns, and the different values of a column in the order
in which they first occur.  In a sorted table this is the order of the values themselves.
-/

namespace Table

universe u v

/-! ## Sorting by several columns -/

section Sorting

variable {Row : Type u} {Key : Type v} [LinearOrder Key]

/-- A column to sort by, and whether small values come first. -/
structure SortKey (Row : Type u) (Key : Type v) where
  column : Row → Key
  ascending : Bool

/-- The first row may precede the second one. -/
def InOrder : List (SortKey Row Key) → Row → Row → Prop
  | [], _, _ => True
  | key :: rest, first, second =>
      (if key.ascending then key.column first < key.column second
        else key.column second < key.column first) ∨
      key.column first = key.column second ∧ InOrder rest first second

instance decidableInOrder : ∀ (keys : List (SortKey Row Key)) (first second : Row),
    Decidable (InOrder keys first second)
  | [], _, _ => .isTrue trivial
  | _ :: rest, first, second =>
      have := decidableInOrder rest first second
      inferInstanceAs (Decidable (_ ∨ _ ∧ _))

theorem inOrder_total (keys : List (SortKey Row Key)) (first second : Row) :
    InOrder keys first second ∨ InOrder keys second first := by
  induction keys with
  | nil => exact .inl trivial
  | cons key rest ih =>
      unfold InOrder
      cases key.ascending with
      | true =>
          rcases lt_trichotomy (key.column first) (key.column second) with less | same | more
          · exact .inl (.inl less)
          · exact ih.imp (fun rest => .inr ⟨same, rest⟩) fun rest => .inr ⟨same.symm, rest⟩
          · exact .inr (.inl more)
      | false =>
          rcases lt_trichotomy (key.column first) (key.column second) with less | same | more
          · exact .inr (.inl less)
          · exact ih.imp (fun rest => .inr ⟨same, rest⟩) fun rest => .inr ⟨same.symm, rest⟩
          · exact .inl (.inl more)

theorem inOrder_trans {keys : List (SortKey Row Key)} {first second third : Row}
    (before : InOrder keys first second) (after : InOrder keys second third) :
    InOrder keys first third := by
  induction keys with
  | nil => trivial
  | cons key rest ih =>
      unfold InOrder at before after ⊢
      rcases before with before | ⟨same, before⟩ <;> rcases after with after | ⟨equal, after⟩
      · left
        split_ifs at before after ⊢
        · exact before.trans after
        · exact after.trans before
      · exact .inl (equal ▸ before)
      · exact .inl (same ▸ after)
      · exact .inr ⟨same.trans equal, ih before after⟩

instance (keys : List (SortKey Row Key)) : Std.Total (InOrder keys) :=
  ⟨inOrder_total keys⟩

instance (keys : List (SortKey Row Key)) : IsTrans Row (InOrder keys) :=
  ⟨fun _ _ _ => inOrder_trans⟩

end Sorting

/-! ## First occurrences -/

section Occurrences

variable {Item : Type u} [BEq Item]

/-- Induction over the different values of a list. -/
theorem eraseDups_induction {motive : List Item → Prop} (nil : motive [])
    (cons : ∀ first rest, motive (rest.filter fun item => !item == first) →
      motive (first :: rest)) (items : List Item) : motive items := by
  induction length : items.length using Nat.strong_induction_on generalizing items with
  | _ length ih =>
      cases items with
      | nil => exact nil
      | cons first rest =>
          refine cons first rest (ih _ ?_ _ rfl)
          rw [← length, List.length_cons]
          exact Nat.lt_succ_of_le (List.length_filter_le _ _)

variable [LawfulBEq Item]

/-- Distinct labels occur like the values they stand for. -/
theorem eraseDups_map {Label : Type v} [BEq Label] [LawfulBEq Label] {label : Item → Label}
    {items : List Item}
    (distinct : ∀ first ∈ items, ∀ second ∈ items, label first = label second →
      first = second) :
    (items.map label).eraseDups = items.eraseDups.map label := by
  induction items using eraseDups_induction with
  | nil => rfl
  | cons first rest ih =>
      have others : (rest.map label).filter (fun other => !other == label first) =
          (rest.filter fun item => !item == first).map label := by
        rw [List.filter_map]
        congr 1
        apply List.filter_congr
        intro item member
        have same : label item = label first ↔ item = first :=
          ⟨distinct item (List.mem_cons_of_mem _ member) first List.mem_cons_self,
            congrArg label⟩
        simp [same]
      have within : ∀ item ∈ rest.filter (fun item => !item == first),
          item ∈ first :: rest := fun item member =>
        List.mem_cons_of_mem _ (List.mem_filter.mp member).1
      rw [List.map_cons, List.eraseDups_cons, others, List.eraseDups_cons, List.map_cons, ih]
      intro one isOne two isTwo
      exact distinct one (within one isOne) two (within two isTwo)

/-- The different values of a sorted list are sorted. -/
theorem eraseDups_pairwise [LinearOrder Item] {values : List Item}
    (sorted : values.Pairwise (· ≤ ·)) : values.eraseDups.Pairwise (· < ·) := by
  induction values using eraseDups_induction with
  | nil => exact .nil
  | cons first rest ih =>
      obtain ⟨least, ordered⟩ := List.pairwise_cons.mp sorted
      rw [List.eraseDups_cons]
      refine List.pairwise_cons.mpr ⟨?_, ih (ordered.filter _)⟩
      intro value member
      obtain ⟨later, other⟩ := List.mem_filter.mp (List.mem_eraseDups.mp member)
      have different : value ≠ first := by simpa using other
      exact lt_of_le_of_ne (least value later) different.symm

theorem eraseDups_eq [LinearOrder Item] {values different : List Item}
    (sorted : values.Pairwise (· ≤ ·)) (increasing : different.Pairwise (· < ·))
    (same : ∀ value, value ∈ values ↔ value ∈ different) : values.eraseDups = different :=
  (eraseDups_pairwise sorted).eq_of_mem_iff increasing fun value =>
    List.mem_eraseDups.trans (same value)

end Occurrences

end Table
