import Mathlib.Data.Nat.Init
import Mathlib.Data.List.Basic
import Mathlib.Algebra.BigOperators.Group.List.Basic

/-!
# Readers of shared streams

Several readers take values from streams, each reader always from the same one.  Which
value a reader gets depends on how often its stream has been read before, by itself or by
another reader.  Histories and records have the latest entry in front.
-/

namespace SharedStream

universe u v

variable {Reader : Type u} {Stream : Type v} [DecidableEq Reader] [DecidableEq Stream]

/-! ## Records of two runs -/

section Agree

variable {α β : Type u} {first second : List α}

/-- Two records are the same for as long as both last. -/
def Agree (first second : List α) : Prop := first <:+ second ∨ second <:+ first

instance [DecidableEq α] : Decidable (Agree first second) :=
  inferInstanceAs (Decidable (_ ∨ _))

theorem Agree.map (agree : Agree first second) (read : α → β) :
    Agree (first.map read) (second.map read) :=
  agree.imp (fun shorter => shorter.map read) fun shorter => shorter.map read

theorem agree_map_iff {read : α → β} (injective : Function.Injective read) :
    Agree (first.map read) (second.map read) ↔ Agree first second :=
  or_congr (List.suffix_map_iff_of_injective injective)
    (List.suffix_map_iff_of_injective injective)

private theorem suffix_tail (suffix : first <:+ second) : first.tail <:+ second.tail := by
  obtain ⟨newer, rfl⟩ := suffix
  cases newer with
  | nil => exact List.suffix_rfl
  | cons value newer =>
      exact (List.tail_suffix first).trans (List.suffix_append newer first)

theorem Agree.tail (agree : Agree first second) : Agree first.tail second.tail :=
  agree.imp suffix_tail suffix_tail

end Agree

/-! ## Places in a stream -/

variable (stream : Reader → Stream)

/-- How often a stream has been read. -/
def reads (source : Stream) (history : List Reader) : Nat :=
  history.countP fun reader => stream reader = source

/-- The places of the values that a reader got, in the stream it reads. -/
def turns (reader : Reader) : List Reader → List Nat
  | [] => []
  | other :: older =>
      if other = reader then reads stream (stream reader) older :: turns reader older
      else turns reader older

variable {stream} {reader : Reader} {history : List Reader}

/-- A reader that shares its stream with nobody gets one value after the other. -/
theorem turns_of_separate
    (separate : ∀ other, stream other = stream reader → other = reader) :
    turns stream reader history = (List.range (history.count reader)).reverse := by
  have own : ∀ older : List Reader,
      reads stream (stream reader) older = older.count reader := by
    intro older
    rw [reads, List.count_eq_countP]
    apply List.countP_congr
    intro other _
    simp only [decide_eq_true_eq, beq_iff_eq]
    exact ⟨separate other, congrArg stream⟩
  induction history with
  | nil => rfl
  | cons other older ih =>
      rw [turns, own, ih, List.count_cons]
      by_cases mine : other = reader
      · simp [mine, List.range_succ]
      · simp [mine]

private theorem reverse_range_suffix {shorter longer : Nat} (ordered : shorter ≤ longer) :
    (List.range shorter).reverse <:+ (List.range longer).reverse := by
  induction longer, ordered using Nat.le_induction with
  | base => exact List.suffix_rfl
  | succ longer _ ih =>
      rw [List.range_succ, List.reverse_append]
      exact ih.trans (List.suffix_cons _ _)

theorem agree_turns_of_separate {first second : List Reader}
    (separate : ∀ other, stream other = stream reader → other = reader) :
    Agree (turns stream reader first) (turns stream reader second) := by
  rw [turns_of_separate separate, turns_of_separate separate]
  exact (Nat.le_total _ _).imp reverse_range_suffix reverse_range_suffix

/-! ## Running sums -/

section Sums

variable {α : Type u} [AddCommMonoid α]

/-- The sum of a record after each entry. -/
def runningSums : List α → List α
  | [] => []
  | value :: older => (value :: older).sum :: runningSums older

theorem runningSums_append (newer older : List α) :
    runningSums older <:+ runningSums (newer ++ older) := by
  induction newer with
  | nil => exact List.suffix_rfl
  | cons value newer ih => exact ih.trans (List.suffix_cons _ _)

theorem Agree.runningSums {first second : List α} (agree : Agree first second) :
    Agree (SharedStream.runningSums first) (SharedStream.runningSums second) := by
  apply agree.imp
  · rintro ⟨newer, rfl⟩
    exact runningSums_append newer first
  · rintro ⟨newer, rfl⟩
    exact runningSums_append newer second

end Sums

end SharedStream
