import AirTrafficControl.Library.Join

/-!
# The table of the scalars

`extractSca` of `util.py` reads the lines that `scavetool` exports and puts the iteration
variables of a run next to each of its scalars.
-/

namespace AirTrafficControl.Results

/-! ## The lines of the export -/

/-- The columns of a line that are read. -/
structure Line (Run Value : Type) where
  run : Run
  type : String
  name : String
  attrname : String
  attrvalue : String
  value : Value

/-- What `parse_if_number` makes of a word. -/
inductive Attribute (K : Type) where
  | number (value : K)
  | boolean (value : Bool)
  | text (value : String)
  | missing

def parseIfNumber {K : Type} (float : List Char → Option K) (s : String) : Attribute K :=
  match float s.toList with
  | some value => .number value
  | none =>
      if s = "true" then .boolean true
      else if s = "false" then .boolean false
      else if s ≠ "" then .text s
      else .missing

/-- A row of the table of the scalars.  Where no line gives an attribute it is missing. -/
structure Extracted (K Value : Type) where
  name : String
  value : Value
  itervar : String → Option (Attribute K)
  iterationvars : Option (Attribute K)

/-- The pandas method `merge` with `how='outer'`.  It does not promise an order of the rows. -/
structure Merge where
  merge : {Key Left Right : Type} → [DecidableEq Key] → List (Key × Left) →
    List (Key × Right) → List (Key × Option Left × Option Right)
  perm : ∀ {Key Left Right : Type} [DecidableEq Key] (left : List (Key × Left))
    (right : List (Key × Right)), (merge left right).Perm (Join.outer left right)

section Extract

variable {Run Value K : Type} [DecidableEq Run] (float : List Char → Option K)

/-- The pandas method `pivot`, which fails for two values of one attribute of a run. -/
def pivot (itervars : List (Line Run Value)) :
    Option (List (Run × (String → Option (Attribute K)))) :=
  if (itervars.map fun line => (line.run, line.attrname)).Nodup then
    some ((itervars.map Line.run).eraseDups.map fun run =>
      (run, fun attrname =>
        (itervars.find? fun line => line.run = run ∧ line.attrname = attrname).map fun line =>
          parseIfNumber float line.attrvalue))
  else none

/-- The selection of the scalars, without the columns that are dropped. -/
def selectScalar : Run × Option (Option (Line Run Value) ×
    Option (String → Option (Attribute K))) × Option (Attribute K) →
      Option (Extracted K Value)
  | (_, some (some line, attributes), iterationvars) =>
      if line.type = "scalar" then
        some {
          name := line.name
          value := line.value
          itervar := attributes.getD fun _ => none
          iterationvars }
      else none
  | _ => none

/-- The lines of the iteration variables. -/
def itervarsOf (vectors : List (Line Run Value)) : List (Line Run Value) :=
  vectors.filter fun line => line.type = "itervar"

/-- The column `iterationvars`, by the runs. -/
def itervarscol (vectors : List (Line Run Value)) : List (Run × Attribute K) :=
  (vectors.filter fun line => line.type = "runattr" ∧ line.attrname = "iterationvars").map
    fun line => (line.run, parseIfNumber float line.attrvalue)

def extractSca (pandas : Merge) (vectors : List (Line Run Value)) :
    Option (List (Extracted K Value)) := do
  let itervarspivot ← pivot float (itervarsOf vectors)
  let vectors2 := pandas.merge (vectors.map fun line => (line.run, line)) itervarspivot
  let vectors3 := pandas.merge vectors2 (itervarscol float vectors)
  return vectors3.filterMap selectScalar

end Extract

/-! ## The rows of the table -/

section Rows

variable {Run Value K : Type} [DecidableEq Run] {float : List Char → Option K}
  {vectors : List (Line Run Value)}

/-- The attributes of a run, as the lines give them. -/
def attributesOf (float : List Char → Option K) (vectors : List (Line Run Value)) (run : Run)
    (attrname : String) : Option (Attribute K) :=
  ((itervarsOf vectors).find? fun line => line.run = run ∧ line.attrname = attrname).map
    fun line => parseIfNumber float line.attrvalue

/-- The row of a scalar, with the attributes of its run. -/
def rowOfLine (float : List Char → Option K) (vectors : List (Line Run Value))
    (iterationvars : Run → Attribute K) (line : Line Run Value) : Extracted K Value where
  name := line.name
  value := line.value
  itervar := attributesOf float vectors line.run
  iterationvars := some (iterationvars line.run)

/-- The attributes that the join puts next to a line. -/
def joined (float : List Char → Option K) (vectors : List (Line Run Value)) (run : Run) :
    Option (String → Option (Attribute K)) :=
  if run ∈ (itervarsOf vectors).map Line.run then some (attributesOf float vectors run) else none

theorem joined_getD (run : Run) :
    ((joined float vectors run).getD fun _ => none) = attributesOf float vectors run := by
  unfold joined
  split
  · rfl
  · next absent =>
      funext attrname
      have none : (itervarsOf vectors).find? (fun line => line.run = run ∧
          line.attrname = attrname) = none := by
        apply List.find?_eq_none.mpr
        intro line member holds
        exact absent (List.mem_map.mpr ⟨line, member, (of_decide_eq_true holds).1⟩)
      rw [attributesOf, none]
      rfl

variable (pandas : Merge)

/-- The first join gives each line the attributes of its run. -/
theorem merge_pivot {table : List (Run × (String → Option (Attribute K)))}
    (pivoted : pivot float (itervarsOf vectors) = some table) :
    (pandas.merge (vectors.map fun line => (line.run, line)) table).Perm
      (vectors.map fun line => (line.run, some line, joined float vectors line.run)) := by
  have shape : table = ((itervarsOf vectors).map Line.run).eraseDups.map fun run =>
      (run, attributesOf float vectors run) := by
    unfold pivot at pivoted
    split at pivoted
    · exact (Option.some.inj pivoted).symm
    · cases pivoted
  have known : ∀ entry ∈ table,
      entry.1 ∈ (vectors.map fun line => (line.run, line)).map Prod.fst := by
    intro entry member
    rw [shape] at member
    obtain ⟨run, isRun, rfl⟩ := List.mem_map.mp member
    obtain ⟨line, isLine, rfl⟩ := List.mem_map.mp (List.mem_eraseDups.mp isRun)
    rw [List.map_map]
    exact List.mem_map_of_mem (List.mem_of_mem_filter isLine)
  have single : ∀ line : Line Run Value, Join.pairs table (line.run, line) =
      [(line.run, some line, joined float vectors line.run)] := by
    intro line
    have values := Dictionary.valuesOf_map (Dictionary.nodup_eraseDups
      ((itervarsOf vectors).map Line.run)) (attributesOf float vectors) line.run
    rw [← shape] at values
    simp only [List.mem_eraseDups] at values
    unfold joined
    split at values
    · next isRun => rw [Join.pairs_single values, if_pos isRun]
    · next absent => rw [Join.pairs_none values, if_neg absent]
  refine (pandas.perm _ _).trans ?_
  rw [Join.outer_of_known known, List.flatMap_map]
  simp only [single]
  rw [← List.map_eq_flatMap]

/-- The second join adds the column `iterationvars`, and loses no line either. -/
theorem merge_itervarscol {vectors2 : List (Run × Option (Line Run Value) ×
      Option (String → Option (Attribute K)))}
    (same : vectors2.Perm
      (vectors.map fun line => (line.run, some line, joined float vectors line.run))) :
    (pandas.merge vectors2 (itervarscol float vectors)).Perm
      (vectors.flatMap fun line => Join.pairs (itervarscol float vectors)
        (line.run, some line, joined float vectors line.run)) := by
  have known : ∀ entry ∈ itervarscol float vectors, entry.1 ∈
      (vectors.map fun line => (line.run, some line, joined float vectors line.run)).map
        Prod.fst := by
    intro entry member
    obtain ⟨line, isLine, rfl⟩ := List.mem_map.mp member
    rw [List.map_map]
    exact List.mem_map_of_mem (List.mem_of_mem_filter isLine)
  refine (pandas.perm _ _).trans ((Join.outer_perm same _).trans ?_)
  rw [Join.outer_of_known known, List.flatMap_map]

/-- The rows that a line leaves in the table. -/
def rowsOf (float : List Char → Option K) (vectors : List (Line Run Value))
    (line : Line Run Value) : List (Extracted K Value) :=
  (Join.pairs (itervarscol float vectors)
    (line.run, some line, joined float vectors line.run)).filterMap selectScalar

theorem extractSca_eq_none_iff : extractSca float pandas vectors = none ↔
    ¬((itervarsOf vectors).map fun line => (line.run, line.attrname)).Nodup := by
  unfold extractSca pivot
  by_cases once : ((itervarsOf vectors).map fun line => (line.run, line.attrname)).Nodup
  · rw [if_pos once]
    simp [once]
  · rw [if_neg once]
    simp [once]

/-- The table has the rows of all lines, in some order. -/
theorem extractSca_rows {rows : List (Extracted K Value)}
    (extracted : extractSca float pandas vectors = some rows) :
    rows.Perm (vectors.flatMap (rowsOf float vectors)) := by
  cases pivoted : pivot float (itervarsOf vectors) with
  | none =>
      rw [extractSca, pivoted] at extracted
      cases extracted
  | some table =>
      rw [extractSca, pivoted] at extracted
      obtain rfl := Option.some.inj extracted
      unfold rowsOf
      rw [← List.filterMap_flatMap]
      exact (merge_itervarscol pandas (merge_pivot pandas pivoted)).filterMap _

/-! ### The rows of a scalar -/

variable {iterationvars : Run → Attribute K}
  (named : ∀ line ∈ vectors, line.type = "scalar" →
    Dictionary.valuesOf (itervarscol float vectors) line.run = [iterationvars line.run])

omit [DecidableEq Run] in
theorem selectScalar_other {line : Line Run Value} (other : line.type ≠ "scalar") (run : Run)
    (attributes : Option (String → Option (Attribute K)))
    (iterationvars : Option (Attribute K)) :
    selectScalar (run, some (some line, attributes), iterationvars) = none :=
  if_neg other

include named in
theorem rowsOf_eq {line : Line Run Value} (member : line ∈ vectors) :
    rowsOf float vectors line =
      if line.type = "scalar" then [rowOfLine float vectors iterationvars line] else [] := by
  unfold rowsOf
  by_cases scalar : line.type = "scalar"
  · have row : selectScalar (line.run, some (some line, joined float vectors line.run),
        some (iterationvars line.run)) = some (rowOfLine float vectors iterationvars line) := by
      rw [selectScalar, if_pos scalar, joined_getD]
      rfl
    rw [Join.pairs_single (named line member scalar), List.filterMap_cons_some row, if_pos scalar]
    rfl
  · rw [if_neg scalar, List.filterMap_eq_nil_iff]
    intro entry isPair
    unfold Join.pairs at isPair
    split at isPair
    · obtain rfl := List.mem_singleton.mp isPair
      exact selectScalar_other scalar _ _ _
    · obtain ⟨value, -, rfl⟩ := List.mem_map.mp isPair
      exact selectScalar_other scalar _ _ _

include named in
/-- Every scalar is in the table once, with the attributes of its run. -/
theorem extractSca_perm {rows : List (Extracted K Value)}
    (extracted : extractSca float pandas vectors = some rows) :
    rows.Perm ((vectors.filter fun line => line.type = "scalar").map
      (rowOfLine float vectors iterationvars)) := by
  have rows := extractSca_rows pandas extracted
  rwa [List.flatMap_congr fun line member => rowsOf_eq named member, Dictionary.flatMap_if] at rows

end Rows

/-! ## Exports of different runs -/

section Apart

variable {Run Value K : Type} [DecidableEq Run] {float : List Char → Option K}
  {one two : List (Line Run Value)}

/-- The lines of a run. -/
def linesOf (vectors : List (Line Run Value)) (run : Run) : List (Line Run Value) :=
  vectors.filter fun line => line.run = run

theorem valuesOf_itervarscol (vectors : List (Line Run Value)) (run : Run) :
    Dictionary.valuesOf (itervarscol float vectors) run =
      ((linesOf vectors run).filter fun line =>
        line.type = "runattr" ∧ line.attrname = "iterationvars").map
          fun line => parseIfNumber float line.attrvalue := by
  rw [Dictionary.valuesOf, itervarscol, linesOf, List.filter_map, List.map_map,
    List.filter_filter, List.filter_filter]
  congr 1
  apply List.filter_congr
  intro line _
  exact Bool.and_comm _ _

theorem attributesOf_linesOf (vectors : List (Line Run Value)) (run : Run) :
    attributesOf float vectors run = attributesOf float (linesOf vectors run) run := by
  funext attrname
  unfold attributesOf itervarsOf linesOf
  rw [List.find?_filter, List.find?_filter, List.find?_filter]
  congr 2
  funext line
  by_cases own : line.run = run <;> simp [own]

theorem joined_linesOf (vectors : List (Line Run Value)) (run : Run) :
    joined float vectors run = joined float (linesOf vectors run) run := by
  have known : run ∈ (itervarsOf vectors).map Line.run ↔
      run ∈ (itervarsOf (linesOf vectors run)).map Line.run := by
    simp only [itervarsOf, linesOf, List.mem_map, List.mem_filter, decide_eq_true_eq]
    constructor
    · rintro ⟨line, ⟨member, isItervar⟩, own⟩
      exact ⟨line, ⟨⟨member, own⟩, isItervar⟩, own⟩
    · rintro ⟨line, ⟨⟨member, -⟩, isItervar⟩, own⟩
      exact ⟨line, ⟨member, isItervar⟩, own⟩
  unfold joined
  rw [attributesOf_linesOf]
  exact if_congr known rfl rfl

/-- What a line leaves in the table depends on the lines of its run. -/
theorem rowsOf_congr {line : Line Run Value} (same : linesOf one line.run = linesOf two line.run) :
    rowsOf float one line = rowsOf float two line := by
  have values : Dictionary.valuesOf (itervarscol float one) line.run =
      Dictionary.valuesOf (itervarscol float two) line.run := by
    rw [valuesOf_itervarscol, valuesOf_itervarscol, same]
  unfold rowsOf Join.pairs
  rw [values, joined_linesOf one, joined_linesOf two, same]

theorem linesOf_append (run : Run) :
    linesOf (one ++ two) run = linesOf one run ++ linesOf two run :=
  List.filter_append _ _

theorem linesOf_eq_nil {vectors : List (Line Run Value)} {run : Run}
    (absent : ∀ line ∈ vectors, line.run ≠ run) : linesOf vectors run = [] := by
  apply List.filter_eq_nil_iff.mpr
  intro line member own
  exact absent line member (of_decide_eq_true own)

variable (apart : ∀ line ∈ one, ∀ other ∈ two, line.run ≠ other.run) (pandas : Merge)

include apart

theorem flatMap_rowsOf_append : (one ++ two).flatMap (rowsOf float (one ++ two)) =
    one.flatMap (rowsOf float one) ++ two.flatMap (rowsOf float two) := by
  have left : ∀ line ∈ one, rowsOf float (one ++ two) line = rowsOf float one line := by
    intro line member
    apply rowsOf_congr
    have absent := linesOf_eq_nil fun other isOther => (apart line member other isOther).symm
    rw [linesOf_append, absent, List.append_nil]
  have right : ∀ line ∈ two, rowsOf float (one ++ two) line = rowsOf float two line := by
    intro line member
    apply rowsOf_congr
    have absent := linesOf_eq_nil fun other isOther => apart other isOther line member
    rw [linesOf_append, absent, List.nil_append]
  rw [List.flatMap_append, List.flatMap_congr left, List.flatMap_congr right]

/-- Together two exports fail where one of them fails. -/
theorem extractSca_append_eq_none_iff : extractSca float pandas (one ++ two) = none ↔
    extractSca float pandas one = none ∨ extractSca float pandas two = none := by
  have disjoint : List.Disjoint ((itervarsOf one).map fun line => (line.run, line.attrname))
      ((itervarsOf two).map fun line => (line.run, line.attrname)) := by
    intro key inOne inTwo
    obtain ⟨line, isLine, rfl⟩ := List.mem_map.mp inOne
    obtain ⟨other, isOther, same⟩ := List.mem_map.mp inTwo
    exact apart line (List.mem_of_mem_filter isLine) other (List.mem_of_mem_filter isOther)
      (congrArg Prod.fst same).symm
  rw [extractSca_eq_none_iff, extractSca_eq_none_iff, extractSca_eq_none_iff, itervarsOf,
    List.filter_append, List.map_append, ← not_and_or]
  apply not_congr
  rw [List.nodup_append']
  exact ⟨fun nodup => ⟨nodup.1, nodup.2.1⟩, fun nodup => ⟨nodup.1, nodup.2, disjoint⟩⟩

end Apart

end AirTrafficControl.Results
