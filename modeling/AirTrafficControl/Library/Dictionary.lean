import AirTrafficControl.Library.Table
import Mathlib.Data.List.Induction
import Mathlib.Data.List.Perm.Basic

/-!
# Dictionaries of lists

A dictionary keeps its keys in the order in which they are inserted.  Values that are appended
one after another are grouped by their keys, and no value is lost.
-/

namespace Dictionary

universe u v

variable {Key : Type u} {Value : Type v} [DecidableEq Key]

/-- Append a value to the list of its key, which is empty at first. -/
def append (key : Key) (value : Value) : List (Key × List Value) → List (Key × List Value)
  | [] => [(key, [value])]
  | (other, values) :: rest =>
      if other = key then (other, values ++ [value]) :: rest
      else (other, values) :: append key value rest

/-- The dictionary after values are appended in turn. -/
def collect (entries : List (Key × Value)) : List (Key × List Value) :=
  entries.foldl (fun dictionary entry => append entry.1 entry.2 dictionary) []

/-- The values with their keys. -/
def items (dictionary : List (Key × List Value)) : List (Key × Value) :=
  dictionary.flatMap fun (key, values) => values.map fun value => (key, value)

/-- The values of a key. -/
def valuesOf (entries : List (Key × Value)) (key : Key) : List Value :=
  (entries.filter fun entry => entry.1 = key).map Prod.snd

theorem valuesOf_append (entries more : List (Key × Value)) (key : Key) :
    valuesOf (entries ++ more) key = valuesOf entries key ++ valuesOf more key := by
  rw [valuesOf, List.filter_append, List.map_append]
  rfl

theorem collect_append_singleton (entries : List (Key × Value)) (key : Key) (value : Value) :
    collect (entries ++ [(key, value)]) = append key value (collect entries) := by
  rw [collect, List.foldl_append]
  rfl

/-- Appending to a dictionary that is given by its keys. -/
theorem append_map {keys : List Key} (distinct : keys.Nodup) (values : Key → List Value)
    (key : Key) (value : Value) :
    append key value (keys.map fun other => (other, values other)) =
      if key ∈ keys then
        keys.map fun other =>
          (other, if other = key then values other ++ [value] else values other)
      else (keys.map fun other => (other, values other)) ++ [(key, [value])] := by
  induction keys with
  | nil => rfl
  | cons first rest ih =>
      obtain ⟨fresh, distinct⟩ := List.nodup_cons.mp distinct
      rw [List.map_cons, append]
      by_cases same : first = key
      · subst same
        have others : rest.map (fun other =>
            (other, if other = first then values other ++ [value] else values other)) =
            rest.map fun other => (other, values other) := by
          apply List.map_congr_left
          intro other member
          rw [if_neg (ne_of_mem_of_not_mem member fresh)]
        rw [if_pos rfl, if_pos List.mem_cons_self, List.map_cons, if_pos rfl, others]
      · have elsewhere : key ∈ first :: rest ↔ key ∈ rest := by
          simp [Ne.symm same]
        rw [if_neg same, ih distinct]
        by_cases known : key ∈ rest
        · rw [if_pos known, if_pos (elsewhere.mpr known), List.map_cons, if_neg same]
        · rw [if_neg known, if_neg (elsewhere.not.mpr known)]
          rfl

theorem nodup_eraseDups (keys : List Key) : keys.eraseDups.Nodup := by
  induction keys using Table.eraseDups_induction with
  | nil => exact .nil
  | cons first rest ih =>
      rw [List.eraseDups_cons]
      refine List.nodup_cons.mpr ⟨?_, ih⟩
      intro member
      obtain ⟨-, other⟩ := List.mem_filter.mp (List.mem_eraseDups.mp member)
      simp at other

omit [DecidableEq Key] in
theorem filter_flatMap_replicate (keys : List Key) (count : Nat) (kept : Key → Bool) :
    (keys.flatMap (List.replicate count)).filter kept =
      (keys.filter kept).flatMap (List.replicate count) := by
  induction keys with
  | nil => rfl
  | cons key rest ih =>
      rw [List.flatMap_cons, List.filter_append, List.filter_replicate, ih, List.filter_cons]
      split
      · rw [List.flatMap_cons]
      · rw [List.nil_append]

/-- Repeated keys count once. -/
theorem eraseDups_flatMap_replicate (keys : List Key) {count : Nat} (positive : 0 < count) :
    (keys.flatMap (List.replicate count)).eraseDups = keys.eraseDups := by
  obtain ⟨more, rfl⟩ := Nat.exists_eq_succ_of_ne_zero positive.ne'
  induction keys using Table.eraseDups_induction with
  | nil => rfl
  | cons first rest ih =>
      have others : (List.replicate more first ++
            rest.flatMap (List.replicate (more + 1))).filter (fun key => !key == first) =
          (rest.filter fun key => !key == first).flatMap (List.replicate (more + 1)) := by
        rw [List.filter_append, List.filter_replicate, filter_flatMap_replicate]
        simp
      rw [List.flatMap_cons, List.replicate_succ, List.cons_append, List.eraseDups_cons,
        List.eraseDups_cons, others, ih]

theorem valuesOf_cons (key other : Key) (value : Value) (rest : List (Key × Value)) :
    valuesOf ((key, value) :: rest) other =
      (if key = other then [value] else []) ++ valuesOf rest other := by
  rw [valuesOf, List.filter_cons]
  by_cases same : key = other
  · rw [if_pos (decide_eq_true same), if_pos same]
    rfl
  · rw [if_neg (by simpa using same), if_neg same]
    rfl

/-- Different keys with a value each. -/
theorem valuesOf_map {keys : List Key} (distinct : keys.Nodup) (item : Key → Value) (own : Key) :
    valuesOf (keys.map fun key => (key, item key)) own =
      if own ∈ keys then [item own] else [] := by
  induction keys with
  | nil => rfl
  | cons key rest ih =>
      obtain ⟨fresh, distinct⟩ := List.nodup_cons.mp distinct
      rw [List.map_cons, valuesOf_cons, ih distinct]
      by_cases same : key = own
      · subst same
        rw [if_pos rfl, if_neg fresh, if_pos List.mem_cons_self, List.append_nil]
      · have elsewhere : own ∈ key :: rest ↔ own ∈ rest := by
          rw [List.mem_cons, or_iff_right (Ne.symm same)]
        rw [if_neg same, List.nil_append]
        simp only [elsewhere]

omit [DecidableEq Key] in
theorem flatMap_if (keys : List Key) (kept : Key → Prop) [DecidablePred kept]
    (image : Key → Value) :
    (keys.flatMap fun key => if kept key then [image key] else []) =
      (keys.filter kept).map image := by
  induction keys with
  | nil => rfl
  | cons key rest ih =>
      rw [List.flatMap_cons, ih, List.filter_cons]
      by_cases holds : kept key
      · rw [if_pos holds, if_pos (decide_eq_true holds)]
        rfl
      · rw [if_neg holds, if_neg (by simpa using holds)]
        rfl

/-- One of different keys is found once. -/
theorem flatMap_single {keys : List Key} (distinct : keys.Nodup) {key : Key}
    (known : key ∈ keys) (value : Value) :
    (keys.flatMap fun other => if key = other then [value] else []) = [value] := by
  have once : keys.filter (fun other => key = other) = [key] := by
    have same : (fun other => decide (key = other)) = (· == key) := by
      funext other
      rw [Bool.beq_eq_decide_eq, decide_eq_decide]
      exact eq_comm
    rw [same, List.filter_beq, List.count_eq_one_of_mem distinct known]
    rfl
  rw [flatMap_if, once]
  rfl

/-- The values of all keys are all values. -/
theorem flatMap_valuesOf {keys : List Key} (distinct : keys.Nodup)
    {entries : List (Key × Value)} (known : ∀ entry ∈ entries, entry.1 ∈ keys) :
    (keys.flatMap (valuesOf entries)).Perm (entries.map Prod.snd) := by
  induction entries with
  | nil =>
      have none : keys.flatMap (valuesOf ([] : List (Key × Value))) = [] :=
        List.flatMap_eq_nil_iff.mpr fun _ _ => rfl
      rw [none]
      exact .refl _
  | cons entry rest ih =>
      obtain ⟨key, value⟩ := entry
      obtain ⟨first, others⟩ := List.forall_mem_cons.mp known
      have parts : valuesOf ((key, value) :: rest) = fun other =>
          (if key = other then [value] else []) ++ valuesOf rest other :=
        funext fun other => valuesOf_cons key other value rest
      rw [parts, List.map_cons]
      refine (List.flatMap_append_perm _ _ _).symm.trans ?_
      rw [flatMap_single distinct first, List.singleton_append]
      exact (ih others).cons value

/-- The keys are in the order of their first values, and each has its values in their order. -/
theorem collect_eq (entries : List (Key × Value)) :
    collect entries =
      (entries.map Prod.fst).eraseDups.map fun key => (key, valuesOf entries key) := by
  induction entries using List.reverseRecOn with
  | nil => rfl
  | append_singleton entries entry ih =>
      obtain ⟨key, value⟩ := entry
      have own : valuesOf [(key, value)] key = [value] := by
        simp [valuesOf]
      have other : ∀ {other : Key}, other ≠ key →
          valuesOf [(key, value)] other = [] := by
        intro other different
        simp [valuesOf, different.symm]
      rw [collect_append_singleton, ih, append_map (nodup_eraseDups _), List.map_append,
        List.map_singleton, List.eraseDups_append]
      by_cases known : key ∈ entries.map Prod.fst
      · have nothing : [key].removeAll (entries.map Prod.fst) = [] := by
          simp [List.removeAll, known]
        rw [if_pos (List.mem_eraseDups.mpr known), nothing, List.eraseDups_nil, List.append_nil]
        apply List.map_congr_left
        intro another _
        rw [valuesOf_append]
        by_cases same : another = key
        · rw [if_pos same, same, own]
        · rw [if_neg same, other same, List.append_nil]
      · have unseen : valuesOf entries key = [] := by
          have none : entries.filter (fun entry => entry.1 = key) = [] := by
            rw [List.filter_eq_nil_iff]
            intro entry member holds
            exact known (List.mem_map.mpr ⟨entry, member, of_decide_eq_true holds⟩)
          rw [valuesOf, none, List.map_nil]
        have all : [key].removeAll (entries.map Prod.fst) = [key] := by
          simp [List.removeAll, known]
        have last : [key].eraseDups = [key] := by
          simp [List.eraseDups_cons]
        rw [if_neg (List.mem_eraseDups.not.mpr known), all, last, List.map_append,
          List.map_singleton, valuesOf_append, unseen, own]
        congr 1
        apply List.map_congr_left
        intro another member
        have different : another ≠ key := by
          rintro rfl
          exact known (List.mem_eraseDups.mp member)
        rw [valuesOf_append, other different, List.append_nil]

theorem items_append (key : Key) (value : Value) (dictionary : List (Key × List Value)) :
    (items (append key value dictionary)).Perm ((key, value) :: items dictionary) := by
  induction dictionary with
  | nil => exact .refl _
  | cons entry rest ih =>
      obtain ⟨other, values⟩ := entry
      rw [append]
      by_cases same : other = key
      · rw [if_pos same]
        simp only [items, List.flatMap_cons, List.map_append, List.map_singleton]
        rw [List.append_assoc, List.singleton_append, ← same]
        exact List.perm_middle
      · rw [if_neg same]
        exact (ih.append_left (values.map fun value => (other, value))).trans
          List.perm_middle

/-- No value is lost. -/
theorem items_collect (entries : List (Key × Value)) :
    (items (collect entries)).Perm entries := by
  induction entries using List.reverseRecOn with
  | nil => exact .refl _
  | append_singleton entries entry ih =>
      rw [collect_append_singleton]
      exact (items_append _ _ _).trans ((ih.cons entry).trans
        (List.perm_append_singleton entry entries).symm)

end Dictionary
