import Mathlib.Data.List.Basic

namespace Cyberjack.Foundation

/-! # Chunks of a fixed size

A message that is too long for one transmission is cut into chunks; all but the
last one are full.
-/

universe u

variable {α : Type u} {size : Nat} {message chunk : List α}

/-- Nothing is cut into chunks of no elements. -/
def chunks (size : Nat) (message : List α) : List (List α) :=
  if message.length = 0 ∨ size = 0 then []
  else message.take size :: chunks size (message.drop size)
termination_by message.length
decreasing_by
  rw [List.length_drop]
  omega

@[simp] theorem chunks_nil : chunks size ([] : List α) = [] := by
  rw [chunks, if_pos (.inl rfl)]

theorem chunks_of_ne_nil (more : message ≠ []) (positive : 0 < size) :
    chunks size message = message.take size :: chunks size (message.drop size) := by
  have length := List.length_pos_iff.mpr more
  rw [chunks, if_neg (by omega)]

theorem flatten_chunks (positive : 0 < size) : (chunks size message).flatten = message := by
  induction message using chunks.induct size with
  | case1 message finished =>
      have nothing : message = [] := List.length_eq_zero_iff.mp (by omega)
      rw [nothing, chunks_nil, List.flatten_nil]
  | case2 message more ih =>
      have left : message ≠ [] := fun nothing => more (.inl (by rw [nothing, List.length_nil]))
      rw [chunks_of_ne_nil left positive, List.flatten_cons, ih, List.take_append_drop]

theorem chunk_bounds (positive : 0 < size) (member : chunk ∈ chunks size message) :
    chunk ≠ [] ∧ chunk.length ≤ size := by
  induction message using chunks.induct size with
  | case1 message finished =>
      have nothing : message = [] := List.length_eq_zero_iff.mp (by omega)
      rw [nothing, chunks_nil] at member
      contradiction
  | case2 message more ih =>
      have left : message ≠ [] := fun nothing => more (.inl (by rw [nothing, List.length_nil]))
      rw [chunks_of_ne_nil left positive] at member
      cases member with
      | head =>
          refine ⟨?_, List.length_take_le ..⟩
          rw [ne_eq, List.take_eq_nil_iff]
          exact not_or.mpr ⟨by omega, left⟩
      | tail _ later => exact ih later

end Cyberjack.Foundation
