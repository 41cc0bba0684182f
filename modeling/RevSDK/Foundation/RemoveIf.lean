import Mathlib.Data.List.Basic

/-!
# Removal without erasure

`std::remove_if` moves the elements it keeps to the front and returns the new
end; the vector keeps its size, and what stands from the new end on is
unspecified.  `leftover items position` is what an implementation leaves
there.
-/

namespace RevSDK.Foundation

universe u

variable {α : Type u}

def removeIf (leftover : List α → Nat → α) (remove : α → Bool)
    (items : List α) : List α :=
  let kept := items.filter fun item => !remove item
  kept ++ (List.range' kept.length (items.length - kept.length)).map
    (leftover items)

section RemoveIf

variable (leftover : List α → Nat → α) (remove : α → Bool)

theorem head?_removeIf_kept {items kept : List α} {first : α}
    (hkept : (items.filter fun item => !remove item) = first :: kept) :
    (removeIf leftover remove items).head? = some first := by
  simp [removeIf, hkept]

theorem head?_removeIf_none {items : List α} (hitems : items ≠ [])
    (hkept : (items.filter fun item => !remove item) = []) :
    (removeIf leftover remove items).head? = some (leftover items 0) := by
  obtain ⟨first, rest, rfl⟩ := List.exists_cons_of_ne_nil hitems
  simp [removeIf, hkept, List.range'_succ]

end RemoveIf

end RevSDK.Foundation
