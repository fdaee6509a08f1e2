import Mathlib

namespace Pact.Library

variable {α : Type*}

def chunkCount (size length : Nat) : Nat := (length + size - 1) / size

def chunks (size : Nat) (data : List α) : List (List α) :=
  (List.range (chunkCount size data.length)).map fun i => (data.drop (i * size)).take size

@[simp] theorem length_chunks (size : Nat) (data : List α) :
    (chunks size data).length = chunkCount size data.length := by
  simp [chunks]

theorem length_le_of_mem_chunks (size : Nat) (data piece : List α) (h : piece ∈ chunks size data) :
    piece.length ≤ size := by
  simp only [chunks, List.mem_map] at h
  obtain ⟨i, _, rfl⟩ := h
  exact List.length_take_le _ _

theorem chunkCount_pos (size length : Nat) (hsize : 0 < size) (hlength : 0 < length) :
    0 < chunkCount size length :=
  Nat.div_pos (by omega) hsize

theorem le_chunkCount_mul (size length : Nat) (hsize : 0 < size) :
    length ≤ chunkCount size length * size := by
  have h := Nat.div_add_mod (length + size - 1) size
  have hmod := Nat.mod_lt (length + size - 1) hsize
  rw [chunkCount, Nat.mul_comm]
  omega

theorem chunkCount_le_of_le_mul (size length bound : Nat) (hsize : 0 < size)
    (h : length ≤ bound * size) : chunkCount size length ≤ bound := by
  refine Nat.lt_succ_iff.mp ((Nat.div_lt_iff_lt_mul hsize).mpr ?_)
  rw [Nat.succ_mul]
  omega

theorem flatten_slices (size : Nat) (data : List α) (count : Nat) :
    ((List.range count).map fun i => (data.drop (i * size)).take size).flatten =
      data.take (count * size) := by
  induction count with
  | zero => simp
  | succ count ih =>
    rw [List.range_succ, List.map_append, List.flatten_append, ih, Nat.succ_mul, List.take_add]
    simp

theorem flatten_chunks (size : Nat) (data : List α) (hsize : 0 < size) :
    (chunks size data).flatten = data := by
  rw [chunks, flatten_slices]
  exact List.take_of_length_le (le_chunkCount_mul size data.length hsize)

end Pact.Library
