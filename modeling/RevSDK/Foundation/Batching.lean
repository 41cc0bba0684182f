import Mathlib.Algebra.Order.Floor.Div

/-!
# Lists cut into batches

A list is cut from its front, a fixed count at a time, once in any case and
then as long as something is left.
-/

namespace RevSDK.Foundation

universe u

variable {α : Type u}

structure Batched (count : Nat) (items : List α) (batches : List (List α))
    (rest : List α) : Prop where
  taken : batches.flatten = items.take (batches.length * count)
  left : rest = items.drop (batches.length * count)
  bound : ∀ batch ∈ batches, batch.length ≤ count
  needed : batches.length ≤ 1 ∨ (batches.length - 1) * count < items.length

namespace Batched

variable {count : Nat} {items rest : List α} {batches : List (List α)}

theorem start (count : Nat) (items : List α) :
    Batched count items [] items where
  taken := by simp
  left := by simp
  bound := by simp
  needed := .inl (Nat.zero_le 1)

theorem next (h : Batched count items batches rest)
    (hmore : batches = [] ∨ rest ≠ []) :
    Batched count items (batches ++ [rest.take count]) (rest.drop count) where
  taken := by
    rw [List.flatten_append, List.flatten_singleton, h.taken, h.left,
      List.length_append, List.length_singleton, Nat.add_mul, Nat.one_mul,
      List.take_add]
  left := by
    rw [h.left, List.drop_drop, List.length_append, List.length_singleton,
      Nat.add_mul, Nat.one_mul]
  bound batch hbatch := by
    rcases List.mem_append.mp hbatch with hold | hnew
    · exact h.bound batch hold
    · rw [List.mem_singleton.mp hnew]
      exact List.length_take_le _ _
  needed := by
    rcases hmore with rfl | hrest
    · exact .inl (Nat.le_refl 1)
    · right
      rw [h.left, ne_eq, List.drop_eq_nil_iff, Nat.not_le] at hrest
      simpa using hrest

theorem length_le (h : Batched count items batches rest) (hcount : 0 < count) :
    batches.length ≤ max 1 (items.length ⌈/⌉ count) := by
  rcases h.needed with hone | hneeded
  · exact le_max_of_le_left hone
  · have hceil : ¬items.length ⌈/⌉ count ≤ batches.length - 1 := by
      rw [ceilDiv_le_iff_le_mul hcount, Nat.mul_comm]
      omega
    omega

theorem length_lt (h : Batched count items batches rest) (hcount : 0 < count)
    (hmore : batches = [] ∨ rest ≠ []) :
    batches.length < max 1 (items.length ⌈/⌉ count) := by
  have hnext := (h.next hmore).length_le hcount
  rw [List.length_append, List.length_singleton] at hnext
  omega

theorem done (h : Batched count items batches []) (hcount : 0 < count)
    (hsome : batches ≠ []) :
    batches.length = max 1 (items.length ⌈/⌉ count) ∧
      batches.flatten = items := by
  have hall : items.length ≤ batches.length * count :=
    List.drop_eq_nil_iff.mp h.left.symm
  have hpos : 0 < batches.length := List.length_pos_iff.mpr hsome
  have hceil : items.length ⌈/⌉ count ≤ batches.length := by
    rw [ceilDiv_le_iff_le_mul hcount, Nat.mul_comm]
    exact hall
  have hle := h.length_le hcount
  refine ⟨by omega, ?_⟩
  rw [h.taken, List.take_of_length_le hall]

end Batched

end RevSDK.Foundation
