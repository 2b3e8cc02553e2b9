import Sonde.Lib.Bytes

namespace Sonde.Protocol
open Lib List

def chunkCount (imageSize chunkSize : Nat) : Option Nat :=
  if chunkSize = 0 then none
  else if imageSize = 0 then some 0
  else
    let count := (imageSize + chunkSize - 1) / chunkSize
    if count < 2 ^ 32 then some count else none

-- `checked_mul` and `checked_add` on a 64-bit `usize`.
def getChunk (image : Bytes) (chunkIndex chunkSize : Nat) : Option Bytes :=
  if chunkSize = 0 then none
  else
    let start := chunkIndex * chunkSize
    if start ≥ 2 ^ 64 then none
    else if start ≥ image.length then none
    else if start + chunkSize ≥ 2 ^ 64 then none
    else some ((image.drop start).take (min (start + chunkSize) image.length - start))

/-! ## The chunks of an image -/

variable {image : Bytes} {chunkSize count index : Nat}

theorem chunkCount_eq_some (positive : 0 < chunkSize) (counts : chunkCount image.length chunkSize = some count) :
    count < 2 ^ 32 ∧ image.length ≤ count * chunkSize ∧ count * chunkSize < image.length + chunkSize := by
  unfold chunkCount at counts
  rw [if_neg positive.ne'] at counts
  split at counts
  · rename_i empty
    cases counts
    omega
  · dsimp only at counts
    split at counts
    · rename_i fits
      cases counts
      have upper := Nat.div_mul_le_self (image.length + chunkSize - 1) chunkSize
      have lower := Nat.lt_div_mul_add (a := image.length + chunkSize - 1) positive
      exact ⟨fits, by omega, by omega⟩
    · cases counts

-- Neither of the two checked operations overflows: both numbers are below 2³².
theorem chunk_end_lt (index_lt : index < 2 ^ 32) (size_lt : chunkSize < 2 ^ 32) : index * chunkSize + chunkSize < 2 ^ 64 := by
  have : index * chunkSize ≤ (2 ^ 32 - 1) * (2 ^ 32 - 1) := Nat.mul_le_mul (by omega) (by omega)
  omega

theorem getChunk_within (positive : 0 < chunkSize) (fits : index * chunkSize + chunkSize < 2 ^ 64)
    (within : index * chunkSize < image.length) :
    getChunk image index chunkSize = some ((image.drop (index * chunkSize)).take chunkSize) := by
  unfold getChunk
  rw [if_neg positive.ne', if_neg (by omega), if_neg (by omega), if_neg (by omega), ← Nat.sub_min_sub_right,
    Nat.add_sub_cancel_left, ← length_drop, ← take_eq_take_min]

theorem chunks_flatten (image : Bytes) (chunkSize count : Nat) :
    ((range count).map fun index => (image.drop (index * chunkSize)).take chunkSize).flatten =
      image.take (count * chunkSize) := by
  induction count with
  | zero => simp
  | succ count ih => simp [range_succ, ih, Nat.succ_mul, take_add]

/-- The chunks of an image, in order, are the image. -/
theorem chunks_cover {image : Bytes} {chunkSize count : Nat} (positive : 0 < chunkSize) (size_lt : chunkSize < 2 ^ 32)
    (counts : chunkCount image.length chunkSize = some count) :
    (∃ chunks : List Bytes, (List.range count).map (getChunk image · chunkSize) = chunks.map some ∧
      chunks.flatten = image) ∧
    (∀ index, index + 1 < count → ∃ chunk, getChunk image index chunkSize = some chunk ∧ chunk.length = chunkSize) ∧
    (∀ index, index + 1 = count → ∃ chunk, getChunk image index chunkSize = some chunk ∧ chunk ≠ []) ∧
    ∀ index < 2 ^ 32, index * chunkSize + chunkSize < 2 ^ 64 ∧
      (count ≤ index → getChunk image index chunkSize = none) := by
  obtain ⟨count_lt, covers, tight⟩ := chunkCount_eq_some positive counts
  have up_to {index : Nat} (below : index < count) : (index + 1) * chunkSize ≤ count * chunkSize :=
    Nat.mul_le_mul_right _ below
  have found {index : Nat} (below : index < count) :
      getChunk image index chunkSize = some ((image.drop (index * chunkSize)).take chunkSize) := by
    have := up_to below
    rw [Nat.succ_mul] at this
    exact getChunk_within positive (chunk_end_lt (below.trans count_lt) size_lt) (by omega)
  refine ⟨⟨(range count).map fun index => (image.drop (index * chunkSize)).take chunkSize, ?_, ?_⟩,
    fun index below => ⟨_, found (by omega), ?_⟩, fun index last => ⟨_, found (by omega), ?_⟩,
    fun index index_lt => ⟨chunk_end_lt index_lt size_lt, fun past => ?_⟩⟩
  · rw [map_map]
    exact map_congr_left fun index member => found (mem_range.mp member)
  · rw [chunks_flatten, take_of_length_le covers]
  · have := up_to below
    rw [Nat.succ_mul, Nat.succ_mul] at this
    rw [length_take, length_drop]
    omega
  · subst last
    rw [Nat.succ_mul] at tight
    apply ne_nil_of_length_pos
    rw [length_take, length_drop]
    omega
  · have beyond : count * chunkSize ≤ index * chunkSize := Nat.mul_le_mul_right _ past
    have fits := chunk_end_lt index_lt size_lt
    unfold getChunk
    rw [if_neg positive.ne', if_neg (by omega), if_pos (by omega)]

theorem chunks_cover_two : chunkCount 3 2 = some 2 ∧ getChunk [1, 2, 3] 2 2 = none := by
  have counts : chunkCount (length ([1, 2, 3] : Bytes)) 2 = some 2 := rfl
  exact ⟨rfl, ((chunks_cover (by decide) (by decide) counts).2.2.2 2 (by decide)).2 (by decide)⟩

end Sonde.Protocol
