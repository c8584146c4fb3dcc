import Mathlib.Data.List.Basic
import Mathlib.Data.List.Forall2
import Mathlib.Order.Lattice

/-!
# The first of the least

`List.minOn?` takes the first entry of a list that has the least key.  Such an entry splits
the list: what stands before it has a greater key, and what stands behind it none that is
smaller.  A relation between two lists that keeps the order of the keys relates their first
least entries, and what is left when these are taken out.
-/

namespace Earliest

universe u v w x

variable {α : Type u} {β : Type v} {κ : Type w} {ι : Type x} [LinearOrder κ]
  [LinearOrder ι] {key : α → κ} {first : α} {list before after : List α}

/-- An entry at which a list splits into greater ones before and no smaller ones behind it
is the first of the least. -/
theorem minOn?_split (earlier : ∀ other ∈ before, key first < key other)
    (later : ∀ other ∈ after, key first ≤ key other) :
    (before ++ first :: after).minOn? key = some first := by
  induction before with
  | nil =>
      rw [List.nil_append, List.minOn?_cons]
      cases rest : after.minOn? key with
      | none => rfl
      | some other =>
          exact congrArg some (if_pos (later other (List.minOn?_mem rest)))
  | cons other before ih =>
      obtain ⟨greater, others⟩ := List.forall_mem_cons.mp earlier
      rw [List.cons_append, List.minOn?_cons, ih others]
      exact congrArg some (if_neg (not_le.mpr greater))

/-- The first of the least splits the list. -/
theorem split_of_minOn? (least : list.minOn? key = some first) :
    ∃ before after, list = before ++ first :: after ∧
      (∀ other ∈ before, key first < key other) ∧
      ∀ other ∈ after, key first ≤ key other := by
  induction list generalizing first with
  | nil => cases least
  | cons entry list ih =>
      rw [List.minOn?_cons] at least
      cases rest : list.minOn? key with
      | none =>
          have empty : list = [] := by
            cases list with
            | nil => rfl
            | cons => cases rest
          rw [rest, Option.elim_none, Option.some.injEq] at least
          subst least empty
          exact ⟨[], [], rfl, by simp, by simp⟩
      | some other =>
          obtain ⟨before, after, split, earlier, later⟩ := ih rest
          rw [rest, Option.elim_some, Option.some.injEq, minOn] at least
          split at least
          next smaller =>
            subst least
            refine ⟨[], list, rfl, by simp, ?_⟩
            rw [split]
            intro greater member
            rcases List.mem_append.mp member with inBefore | inRest
            · exact smaller.trans (earlier greater inBefore).le
            · rcases List.mem_cons.mp inRest with rfl | inAfter
              · exact smaller
              · exact smaller.trans (later greater inAfter)
          next greater =>
            subst least
            refine ⟨entry :: before, after, by rw [split, List.cons_append], ?_, later⟩
            exact List.forall_mem_cons.mpr ⟨not_le.mp greater, earlier⟩

/-- Taking the first of the least out leaves what stands before it and behind it. -/
theorem erase_split [DecidableEq α] (earlier : ∀ other ∈ before, key first < key other) :
    (before ++ first :: after).erase first = before ++ after := by
  have absent : first ∉ before := fun member => lt_irrefl _ (earlier first member)
  rw [List.erase_append_right _ absent, List.erase_cons_head]

section Related

variable {related : α → β → Prop} {images : List β}

theorem exists_related (alike : List.Forall₂ related list images) {image : β}
    (member : image ∈ images) : ∃ entry ∈ list, related entry image := by
  induction alike with
  | nil => cases member
  | @cons entry other list images mine _ ih =>
      rcases List.mem_cons.mp member with rfl | behind
      · exact ⟨entry, List.mem_cons_self, mine⟩
      · obtain ⟨entry, isEntry, theirs⟩ := ih behind
        exact ⟨entry, List.mem_cons_of_mem _ isEntry, theirs⟩

/-- A list related to one that is split is split in the same places. -/
theorem related_split (alike : List.Forall₂ related (before ++ first :: after) images) :
    ∃ before' first' after', images = before' ++ first' :: after' ∧
      List.Forall₂ related before before' ∧ related first first' ∧
      List.Forall₂ related after after' := by
  induction before generalizing images with
  | nil =>
      obtain ⟨first', after', mine, rest, rfl⟩ := List.forall₂_cons_left_iff.mp alike
      exact ⟨[], first', after', rfl, .nil, mine, rest⟩
  | cons entry before ih =>
      obtain ⟨entry', images, mine, rest, rfl⟩ := List.forall₂_cons_left_iff.mp alike
      obtain ⟨before', first', after', rfl, alikeBefore, others⟩ := ih rest
      exact ⟨entry' :: before', first', after', rfl, .cons mine alikeBefore, others⟩

/-- Related lists have related first least entries, and remain related when these are taken
out. -/
theorem minOn?_related [DecidableEq α] [DecidableEq β] {image : β → ι}
    (alike : List.Forall₂ related list images)
    (ordered : ∀ one other one' other', related one one' → related other other' →
      (key one ≤ key other ↔ image one' ≤ image other'))
    (least : list.minOn? key = some first) :
    ∃ first', images.minOn? image = some first' ∧ related first first' ∧
      List.Forall₂ related (list.erase first) (images.erase first') := by
  obtain ⟨before, after, rfl, earlier, later⟩ := split_of_minOn? least
  obtain ⟨before', first', after', rfl, alikeBefore, alikeFirst, alikeAfter⟩ :=
    related_split alike
  have earlier' : ∀ other' ∈ before', image first' < image other' := by
    intro other' member
    obtain ⟨other, isOther, alikeOther⟩ := exists_related alikeBefore member
    rw [← not_le, ← ordered other first other' first' alikeOther alikeFirst]
    exact not_le.mpr (earlier other isOther)
  have later' : ∀ other' ∈ after', image first' ≤ image other' := by
    intro other' member
    obtain ⟨other, isOther, alikeOther⟩ := exists_related alikeAfter member
    rw [← ordered first other first' other' alikeFirst alikeOther]
    exact later other isOther
  refine ⟨first', minOn?_split earlier' later', alikeFirst, ?_⟩
  rw [erase_split earlier, erase_split earlier']
  exact List.rel_append alikeBefore alikeAfter

end Related

end Earliest
