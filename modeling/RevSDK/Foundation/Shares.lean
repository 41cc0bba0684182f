import Mathlib.Algebra.BigOperators.Group.Finset.Basic
import Mathlib.Algebra.Order.BigOperators.Group.Finset
import Mathlib.Logic.Function.Basic

/-!
# Shares of a total

A total is kept beside the shares that it is the sum of.  When one holder
changes, the total changes by as much as its share.
-/

namespace RevSDK.Foundation

universe u v

variable {κ : Type u} {σ : Type v} [DecidableEq κ]

theorem sum_erase_update (keys : Finset κ) (key : κ) (share : σ → Nat)
    (holders : κ → σ) (holder : σ) :
    ∑ other ∈ keys.erase key,
        share (Function.update holders key holder other) =
      ∑ other ∈ keys.erase key, share (holders other) := by
  refine Finset.sum_congr rfl fun other hother => ?_
  rw [Function.update_of_ne (Finset.ne_of_mem_erase hother)]

theorem sum_erase_add_update {keys : Finset κ} {key other : κ}
    (hkey : key ∈ keys) (hother : other ∈ keys) (share : σ → Nat)
    (holders : κ → σ) (holder : σ) :
    ∑ one ∈ keys.erase other,
          share (Function.update holders key holder one) +
        share (Function.update holders key holder other) =
      ∑ one ∈ keys.erase key, share (holders one) + share holder := by
  rw [Finset.sum_erase_add keys _ hother, ← Finset.sum_erase_add keys _ hkey,
    sum_erase_update, Function.update_self]

theorem sum_update_add {keys : Finset κ} {key : κ} (hkey : key ∈ keys)
    (share : σ → Nat) (holders : κ → σ) (holder : σ) (count : Nat)
    (hcount : share holder = share (holders key) + count) :
    ∑ other ∈ keys, share (Function.update holders key holder other) =
      ∑ other ∈ keys, share (holders other) + count := by
  rw [← Finset.add_sum_erase keys _ hkey, sum_erase_update,
    Function.update_self, hcount,
    ← Finset.add_sum_erase keys (fun other => share (holders other)) hkey]
  omega

end RevSDK.Foundation
