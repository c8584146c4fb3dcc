import AirTrafficControl.Library.Walsh
import AirTrafficControl.Results.SignMatrix

/-!
# The parity of a 32-bit integer

`parallel_swar` counts the bits of a word in all its bytes at once.  No count leaves its byte,
so that the word is four bytes that are counted each on its own, and the sign matrix is the
matrix of the Walsh functions.
-/

namespace AirTrafficControl.Results

open Walsh

/-- The first line of `parallel_swar`, on a byte. -/
def pairs (byte : Nat) : Nat := byte - ((byte >>> 1) &&& 0x55)

/-- The second line. -/
def nibbles (byte : Nat) : Nat := (byte &&& 0x33) + ((byte >>> 2) &&& 0x33)

/-- The sum in the third line. -/
def whole (byte : Nat) : Nat := (byte + (byte >>> 4)) &&& 0x0F

/-- A byte below other bytes. -/
def join (byte rest : Nat) : Nat := byte + 256 * rest

section Join

variable {byte mask : Nat} (rest masks : Nat)

theorem testBit_join (bound : byte < 256) (bit : Nat) :
    (join byte rest).testBit bit =
      if bit < 8 then byte.testBit bit else rest.testBit (bit - 8) := by
  have small : byte < 2 ^ 8 := bound
  rw [join, Nat.add_comm]
  exact Nat.testBit_two_pow_mul_add rest small bit

/-- A mask keeps what is shifted out of the higher bytes from a byte. -/
theorem join_shiftRight_and {shift : Nat} (bound : byte < 256)
    (small : mask < 2 ^ (8 - shift)) :
    (join byte rest >>> shift) &&& join mask masks =
      join ((byte >>> shift) &&& mask) ((rest >>> shift) &&& masks) := by
  have maskBound : mask < 256 :=
    small.trans_le (Nat.pow_le_pow_right Nat.two_pos (Nat.sub_le 8 shift))
  have kept : (byte >>> shift) &&& mask < 256 := Nat.and_le_right.trans_lt maskBound
  apply Nat.eq_of_testBit_eq
  intro bit
  rw [Nat.testBit_and, Nat.testBit_shiftRight, testBit_join _ bound,
    testBit_join _ maskBound, testBit_join _ kept, Nat.testBit_and, Nat.testBit_and,
    Nat.testBit_shiftRight, Nat.testBit_shiftRight]
  by_cases low : bit < 8
  · rw [if_pos low, if_pos low]
    by_cases inByte : shift + bit < 8
    · rw [if_pos inByte]
    · have clear : mask.testBit bit = false :=
        Nat.testBit_lt_two_pow (small.trans_le (Nat.pow_le_pow_right Nat.two_pos (by omega)))
      rw [clear, Bool.and_false, Bool.and_false]
  · rw [if_neg low, if_neg low, if_neg (by omega)]
    congr 2
    omega

theorem join_and (bound : byte < 256) (small : mask < 256) :
    join byte rest &&& join mask masks = join (byte &&& mask) (rest &&& masks) :=
  @join_shiftRight_and _ _ rest masks 0 bound small

theorem join_sub {less fewer : Nat} (byteLess : less ≤ byte) (restLess : fewer ≤ rest) :
    join byte rest - join less fewer = join (byte - less) (rest - fewer) := by
  unfold join
  omega

theorem join_add (more others : Nat) :
    join byte rest + join more others = join (byte + more) (rest + others) := by
  unfold join
  omega

variable {rest} in
theorem join_pairs (bound : byte < 256) :
    join byte rest - ((join byte rest >>> 1) &&& join 0x55 masks) =
      join (pairs byte) (rest - ((rest >>> 1) &&& masks)) := by
  have half : ∀ number kept : Nat, (number >>> 1) &&& kept ≤ number := fun number _ =>
    Nat.and_le_left.trans (Nat.shiftRight_le number 1)
  rw [join_shiftRight_and rest masks bound (by decide), join_sub _ (half _ _) (half _ _)]
  rfl

variable {rest} in
theorem join_nibbles (bound : byte < 256) :
    (join byte rest &&& join 0x33 masks) + ((join byte rest >>> 2) &&& join 0x33 masks) =
      join (nibbles byte) ((rest &&& masks) + ((rest >>> 2) &&& masks)) := by
  rw [join_and rest masks bound (by decide),
    join_shiftRight_and rest masks bound (by decide), join_add]
  rfl

variable {rest} in
/-- The nibbles that slide into a byte leave its lower half as it is. -/
theorem join_whole (low : byte % 16 ≤ 4) (high : byte / 16 ≤ 4) (next : rest % 16 ≤ 4) :
    (join byte rest + (join byte rest >>> 4)) &&& join 0x0F masks =
      join (whole byte) ((rest + (rest >>> 4)) &&& masks) := by
  have slide : join byte rest + (join byte rest >>> 4) =
      join (byte + byte / 16 + 16 * (rest % 16)) (rest + (rest >>> 4)) := by
    rw [Nat.shiftRight_eq_div_pow, Nat.shiftRight_eq_div_pow]
    unfold join
    omega
  have lower : ∀ number, number &&& 0x0F = number % 16 := fun number =>
    Nat.and_two_pow_sub_one_eq_mod number 4
  rw [slide, join_and _ _ (by omega) (by decide), lower, Nat.add_mul_mod_self_left, whole,
    lower, Nat.shiftRight_eq_div_pow byte 4]

end Join

/-- What the loops over the bytes leave, for each byte. -/
theorem byte_spec : ∀ byte < 256, pairs byte < 256 ∧ nibbles (pairs byte) % 16 ≤ 4 ∧
    nibbles (pairs byte) / 16 ≤ 4 ∧ whole (nibbles (pairs byte)) ≤ 8 ∧
    whole (nibbles (pairs byte)) = byte % 2 + byte / 2 % 2 + byte / 4 % 2 + byte / 8 % 2 +
      byte / 16 % 2 + byte / 32 % 2 + byte / 64 % 2 + byte / 128 % 2 := by
  decide +kernel

/-- Four bytes, from the lowest to the highest. -/
def word (first second third fourth : Nat) : Nat :=
  join first (join second (join third (join fourth 0)))

/-- The sum of four bytes is in the highest byte of the product. -/
theorem word_mul_shiftRight {first second third : Nat} (fourth : Nat) (firstBound : first ≤ 8)
    (secondBound : second ≤ 8) (thirdBound : third ≤ 8) :
    ((word first second third fourth * 0x01010101) >>> 24) % 2 =
      (first + second + third + fourth) % 2 := by
  have product : word first second third fourth * 0x01010101 =
      (first + 256 * (first + second) + 65536 * (first + second + third)) +
        16777216 * (first + second + third + fourth + 256 * (second + third + fourth) +
          65536 * (third + fourth) + 16777216 * fourth) := by
    unfold word join
    ring
  rw [product, Nat.shiftRight_eq_div_pow, Nat.add_mul_div_left _ _ (by decide),
    Nat.div_eq_of_lt (by omega)]
  omega

/-- The lines of `parallel_swar` on the bytes of a word. -/
theorem parallelSwar_word {first second third fourth : Nat} (firstBound : first < 256)
    (secondBound : second < 256) (thirdBound : third < 256) (fourthBound : fourth < 256) :
    parallelSwar (word first second third fourth) =
      ((word (whole (nibbles (pairs first))) (whole (nibbles (pairs second)))
        (whole (nibbles (pairs third))) (whole (nibbles (pairs fourth))) *
          0x01010101) >>> 24) % 2 := by
  obtain ⟨firstPairs, firstLow, firstHigh, -, -⟩ := byte_spec first firstBound
  obtain ⟨secondPairs, secondLow, secondHigh, -, -⟩ := byte_spec second secondBound
  obtain ⟨thirdPairs, thirdLow, thirdHigh, -, -⟩ := byte_spec third thirdBound
  obtain ⟨fourthPairs, fourthLow, fourthHigh, -, -⟩ := byte_spec fourth fourthBound
  have fives : 0x55555555 = word 0x55 0x55 0x55 0x55 := by decide
  have threes : 0x33333333 = word 0x33 0x33 0x33 0x33 := by decide
  have lows : 0x0F0F0F0F = word 0x0F 0x0F 0x0F 0x0F := by decide
  have low : ∀ byte rest, join byte rest % 16 = byte % 16 := fun byte rest => by
    unfold join
    omega
  have one : word first second third fourth -
      ((word first second third fourth >>> 1) &&& 0x55555555) =
        word (pairs first) (pairs second) (pairs third) (pairs fourth) := by
    rw [fives, word, word, join_pairs _ firstBound, join_pairs _ secondBound,
      join_pairs _ thirdBound, join_pairs _ fourthBound, Nat.and_zero, Nat.sub_zero, word]
  have two : (word (pairs first) (pairs second) (pairs third) (pairs fourth) &&&
      0x33333333) + ((word (pairs first) (pairs second) (pairs third) (pairs fourth) >>> 2) &&&
        0x33333333) = word (nibbles (pairs first)) (nibbles (pairs second))
          (nibbles (pairs third)) (nibbles (pairs fourth)) := by
    rw [threes, word, word, join_nibbles _ firstPairs, join_nibbles _ secondPairs,
      join_nibbles _ thirdPairs, join_nibbles _ fourthPairs, Nat.and_zero, Nat.and_zero,
      Nat.add_zero, word]
  have three : (word (nibbles (pairs first)) (nibbles (pairs second))
      (nibbles (pairs third)) (nibbles (pairs fourth)) +
        (word (nibbles (pairs first)) (nibbles (pairs second)) (nibbles (pairs third))
          (nibbles (pairs fourth)) >>> 4)) &&& 0x0F0F0F0F =
      word (whole (nibbles (pairs first))) (whole (nibbles (pairs second)))
        (whole (nibbles (pairs third))) (whole (nibbles (pairs fourth))) := by
    rw [lows, word, word, join_whole _ firstLow firstHigh ((low _ _).trans_le secondLow),
      join_whole _ secondLow secondHigh ((low _ _).trans_le thirdLow),
      join_whole _ thirdLow thirdHigh ((low _ _).trans_le fourthLow),
      join_whole _ fourthLow fourthHigh (Nat.zero_le 4), Nat.and_zero, word]
  simp only [parallelSwar, one, two, three]

theorem exists_word {number : Nat} (bound : number < 2 ^ 32) :
    ∃ first second third fourth, first < 256 ∧ second < 256 ∧ third < 256 ∧ fourth < 256 ∧
      number = word first second third fourth :=
  ⟨number % 256, number / 256 % 256, number / 65536 % 256, number / 16777216,
    by omega, by omega, by omega, by omega, by unfold word join; omega⟩

/-- The SWAR count has the parity of the bits. -/
theorem parallelSwar_eq {number : Nat} (bound : number < 2 ^ 32) :
    parallelSwar number = ones number % 2 := by
  obtain ⟨first, second, third, fourth, firstBound, secondBound, thirdBound, fourthBound,
    rfl⟩ := exists_word bound
  obtain ⟨-, -, -, firstSmall, firstCount⟩ := byte_spec first firstBound
  obtain ⟨-, -, -, secondSmall, secondCount⟩ := byte_spec second secondBound
  obtain ⟨-, -, -, thirdSmall, thirdCount⟩ := byte_spec third thirdBound
  obtain ⟨-, -, -, -, fourthCount⟩ := byte_spec fourth fourthBound
  rw [parallelSwar_word firstBound secondBound thirdBound fourthBound,
    word_mul_shiftRight _ firstSmall secondSmall thirdSmall, word, join, join, join, join,
    ones_byte firstBound, ones_byte secondBound, ones_byte thirdBound, ones_byte fourthBound,
    ones_zero, ← firstCount, ← secondCount, ← thirdCount, ← fourthCount]
  congr 1
  ring

/-- For every integer of 32 bits the result is the parity of the bits that are set. -/
theorem parallelSwar_parity {number : Nat} (bound : number < 2 ^ 32) :
    parallelSwar number = number.bitIndices.length % 2 :=
  parallelSwar_eq bound

theorem parallelSwar_parity_bytes :
    parallelSwar 0xF0E1D2C4 = (0xF0E1D2C4 : Nat).bitIndices.length % 2 :=
  parallelSwar_parity (by decide)

/-! ## The signs -/

theorem length_signMatrix (k : Nat) : (signMatrix k).length = 2 ^ k := by
  rw [signMatrix, List.length_map, List.length_range]

theorem length_of_mem_signMatrix {k : Nat} {signs : List Int} (member : signs ∈ signMatrix k) :
    signs.length = 2 ^ k := by
  obtain ⟨row, -, rfl⟩ := List.mem_map.mp member
  rw [List.length_map, List.length_range]

/-- The entry of a matrix that is given by its rows. -/
def entry (signs : List (List Int)) (row col : Nat) : Int := (signs.getD row []).getD col 0

section Matrix

variable {k : Nat} (bound : k ≤ 32)

include bound

theorem entry_signMatrix {row col : Nat} (isRow : row < 2 ^ k) (isCol : col < 2 ^ k) :
    entry (signMatrix k) row col = sign row col := by
  have small : row &&& col < 2 ^ 32 :=
    (Nat.and_le_left.trans_lt isRow).trans_le (Nat.pow_le_pow_right Nat.two_pos bound)
  rw [entry, signMatrix, List.getD_eq_getElem?_getD, List.getD_eq_getElem?_getD,
    List.getElem?_map, List.getElem?_range isRow, Option.map_some, Option.getD_some,
    List.getElem?_map, List.getElem?_range isCol, Option.map_some, Option.getD_some,
    parallelSwar_eq small, sign]
  rcases Nat.even_or_odd (ones (row &&& col)) with even | odd
  · rw [if_pos (Nat.even_iff.mp even), even.neg_one_pow]
  · rw [if_neg (by rw [Nat.odd_iff.mp odd]; decide), odd.neg_one_pow]

/-- The table that `factorial2kr.py` weighs its rows with is a symmetric Hadamard matrix: the
columns of any two effects are orthogonal. -/
theorem signMatrix_isHadamard :
    (signMatrix k).length = 2 ^ k ∧ (∀ signs ∈ signMatrix k, signs.length = 2 ^ k) ∧
      let signs : Matrix (Fin (2 ^ k)) (Fin (2 ^ k)) Int := fun row col =>
        entry (signMatrix k) row col
      signs.transpose = signs ∧ signs.IsHadamard := by
  have same : (fun row col : Fin (2 ^ k) => entry (signMatrix k) row col) =
      Walsh.matrix k := by
    funext row col
    exact entry_signMatrix bound row.isLt col.isLt
  refine ⟨length_signMatrix k, fun _ member => length_of_mem_signMatrix member, ?_⟩
  dsimp only
  rw [same]
  refine ⟨?_, isHadamard_matrix k⟩
  ext row col
  exact sign_comm col row

omit bound in
theorem signMatrix_isHadamard_four :
    (signMatrix 4).length = 2 ^ 4 ∧ (∀ signs ∈ signMatrix 4, signs.length = 2 ^ 4) ∧
      let signs : Matrix (Fin (2 ^ 4)) (Fin (2 ^ 4)) Int := fun row col =>
        entry (signMatrix 4) row col
      signs.transpose = signs ∧ signs.IsHadamard :=
  signMatrix_isHadamard (by decide)

end Matrix

end AirTrafficControl.Results
