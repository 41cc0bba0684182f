import Mathlib.Data.List.Basic
import Mathlib.Logic.Function.Basic

/-!
# Queues in buckets

A queue of ranked elements can be kept as one list for each rank.  `flat` is
the queue that the buckets stand for.  An element at the end of its bucket
stands behind all elements of its rank, one at the start before them.
-/

namespace RevSDK.Foundation

universe u

variable {α : Type u}

def flat (buckets : Nat → List α) (count : Nat) : List α :=
  (List.range count).flatMap buckets

def flatAfter (buckets : Nat → List α) (index count : Nat) : List α :=
  (List.range' (index + 1) (count - (index + 1))).flatMap buckets

def Ranked (rank : α → Nat) (buckets : Nat → List α) : Prop :=
  ∀ index, ∀ element ∈ buckets index, rank element = index

def enqueueBack (rank : α → Nat) (element : α) (queue : List α) : List α :=
  queue.takeWhile (rank · ≤ rank element) ++
    element :: queue.dropWhile (rank · ≤ rank element)

def enqueueFront (rank : α → Nat) (element : α) (queue : List α) : List α :=
  queue.takeWhile (rank · < rank element) ++
    element :: queue.dropWhile (rank · < rank element)

theorem enqueueBack_perm (rank : α → Nat) (element : α) (queue : List α) :
    (enqueueBack rank element queue).Perm (element :: queue) := by
  unfold enqueueBack
  refine List.perm_middle.trans (.cons _ ?_)
  rw [List.takeWhile_append_dropWhile]

theorem enqueueFront_perm (rank : α → Nat) (element : α) (queue : List α) :
    (enqueueFront rank element queue).Perm (element :: queue) := by
  unfold enqueueFront
  refine List.perm_middle.trans (.cons _ ?_)
  rw [List.takeWhile_append_dropWhile]

section Buckets

variable {buckets : Nat → List α} {rank : α → Nat} {index count : Nat}
  {element : α}

theorem mem_flat :
    element ∈ flat buckets count ↔
      ∃ place < count, element ∈ buckets place := by
  simp [flat]

theorem mem_flatAfter (h : element ∈ flatAfter buckets index count) :
    ∃ place, index < place ∧ element ∈ buckets place := by
  unfold flatAfter at h
  obtain ⟨place, hplace, hmem⟩ := List.mem_flatMap.mp h
  rw [List.mem_range'_1] at hplace
  exact ⟨place, by omega, hmem⟩

theorem flat_succ :
    flat buckets (count + 1) = flat buckets count ++ buckets count := by
  unfold flat
  rw [List.range_succ, List.flatMap_append, List.flatMap_singleton]

theorem flat_eq (hlt : index < count) :
    flat buckets count = flat buckets index ++
      (buckets index ++ flatAfter buckets index count) := by
  obtain ⟨rest, rfl⟩ := Nat.exists_eq_add_of_lt hlt
  have hrange : List.range (index + rest + 1) =
      List.range index ++ index :: List.range' (index + 1) rest := by
    rw [Nat.add_assoc, List.range_add, ← List.range'_succ,
      List.range'_eq_map_range]
  unfold flat flatAfter
  rw [hrange, List.flatMap_append, List.flatMap_cons,
    show index + rest + 1 - (index + 1) = rest by omega]

theorem flat_update (hlt : index < count) (bucket : List α) :
    flat (Function.update buckets index bucket) count = flat buckets index ++
      (bucket ++ flatAfter buckets index count) := by
  have hbefore : flat (Function.update buckets index bucket) index =
      flat buckets index := by
    unfold flat
    refine List.flatMap_congr fun place hplace => ?_
    rw [List.mem_range] at hplace
    exact Function.update_of_ne (by omega) _ _
  have hafter : flatAfter (Function.update buckets index bucket) index count =
      flatAfter buckets index count := by
    unfold flatAfter
    refine List.flatMap_congr fun place hplace => ?_
    rw [List.mem_range'_1] at hplace
    exact Function.update_of_ne (by omega) _ _
  rw [flat_eq hlt, hbefore, hafter, Function.update_self]

theorem Ranked.rank_lt (h : Ranked rank buckets)
    (hmem : element ∈ flat buckets index) : rank element < index := by
  obtain ⟨place, hplace, hmem⟩ := mem_flat.mp hmem
  rwa [h place element hmem]

theorem Ranked.lt_rank (h : Ranked rank buckets)
    (hmem : element ∈ flatAfter buckets index count) :
    index < rank element := by
  obtain ⟨place, hplace, hmem⟩ := mem_flatAfter hmem
  rwa [h place element hmem]

theorem takeWhile_none (keep : α → Bool) (queue : List α)
    (h : ∀ element ∈ queue, keep element = false) :
    queue.takeWhile keep = [] ∧ queue.dropWhile keep = queue := by
  cases queue with
  | nil => exact ⟨rfl, rfl⟩
  | cons first rest =>
      have hfirst := h first List.mem_cons_self
      exact ⟨by simp [hfirst], by simp [hfirst]⟩

theorem Ranked.flat_pushBack (h : Ranked rank buckets)
    (hlt : rank element < count) :
    flat (Function.update buckets (rank element)
        (buckets (rank element) ++ [element])) count =
      enqueueBack rank element (flat buckets count) := by
  have hbefore : ∀ other ∈ flat buckets (rank element) ++
      buckets (rank element), decide (rank other ≤ rank element) = true := by
    intro other hother
    rw [decide_eq_true_eq]
    rcases List.mem_append.mp hother with hother | hother
    · exact Nat.le_of_lt (h.rank_lt hother)
    · exact Nat.le_of_eq (h _ other hother)
  obtain ⟨htake, hdrop⟩ := takeWhile_none
    (fun other => decide (rank other ≤ rank element))
    (flatAfter buckets (rank element) count) fun other hother => by
      have := h.lt_rank hother
      exact decide_eq_false (by omega)
  unfold enqueueBack
  rw [flat_update hlt, flat_eq hlt, ← List.append_assoc _ (buckets _)
    (flatAfter buckets (rank element) count),
    List.takeWhile_append_of_pos hbefore, List.dropWhile_append_of_pos hbefore,
    htake, hdrop]
  simp

theorem Ranked.flat_pushFront (h : Ranked rank buckets)
    (hlt : rank element < count) :
    flat (Function.update buckets (rank element)
        (element :: buckets (rank element))) count =
      enqueueFront rank element (flat buckets count) := by
  have hbefore : ∀ other ∈ flat buckets (rank element),
      decide (rank other < rank element) = true := by
    intro other hother
    rw [decide_eq_true_eq]
    exact h.rank_lt hother
  obtain ⟨htake, hdrop⟩ := takeWhile_none
    (fun other => decide (rank other < rank element))
    (buckets (rank element) ++ flatAfter buckets (rank element) count)
    fun other hother => by
      refine decide_eq_false (Nat.not_lt.mpr ?_)
      rcases List.mem_append.mp hother with hother | hother
      · exact Nat.le_of_eq (h _ other hother).symm
      · exact Nat.le_of_lt (h.lt_rank hother)
  unfold enqueueFront
  rw [flat_update hlt, flat_eq hlt,
    List.takeWhile_append_of_pos hbefore, List.dropWhile_append_of_pos hbefore,
    htake, hdrop]
  simp

theorem Ranked.flat_erase [DecidableEq α] (h : Ranked rank buckets)
    (hlt : rank element < count) (hmem : element ∈ buckets (rank element)) :
    flat (Function.update buckets (rank element)
        ((buckets (rank element)).erase element)) count =
      (flat buckets count).erase element := by
  have hbefore : element ∉ flat buckets (rank element) :=
    fun hearly => absurd (h.rank_lt hearly) (Nat.lt_irrefl _)
  rw [flat_update hlt, flat_eq hlt, List.erase_append_right _ hbefore,
    List.erase_append_left _ hmem]

theorem flat_pop {rest : List α} (hlt : index < count)
    (hempty : ∀ place < index, buckets place = [])
    (hbucket : buckets index = element :: rest) :
    flat buckets count =
      element :: flat (Function.update buckets index rest) count := by
  have hbefore : flat buckets index = [] := by
    unfold flat
    rw [List.flatMap_eq_nil_iff]
    exact fun place hplace => hempty place (List.mem_range.mp hplace)
  rw [flat_update hlt, flat_eq hlt, hbefore, hbucket]
  rfl

theorem Ranked.pairwise (h : Ranked rank buckets) :
    (flat buckets count).Pairwise fun first second =>
      rank first ≤ rank second := by
  induction count with
  | zero => exact List.Pairwise.nil
  | succ count ih =>
      rw [flat_succ, List.pairwise_append]
      refine ⟨ih, List.pairwise_of_forall_mem_list ?_, ?_⟩
      · intro first hfirst second hsecond
        have hsame := (h count first hfirst).trans (h count second hsecond).symm
        exact Nat.le_of_eq hsame
      · intro first hfirst second hsecond
        rw [h count second hsecond]
        exact Nat.le_of_lt (h.rank_lt hfirst)

theorem Ranked.nodup (h : Ranked rank buckets)
    (hnodup : ∀ index, (buckets index).Nodup) : (flat buckets count).Nodup := by
  induction count with
  | zero => exact List.nodup_nil
  | succ count ih =>
      rw [flat_succ, List.nodup_append]
      refine ⟨ih, hnodup count, ?_⟩
      rintro first hfirst _ hsecond rfl
      have := h.rank_lt hfirst
      rw [h count first hsecond] at this
      exact absurd this (Nat.lt_irrefl count)

end Buckets

end RevSDK.Foundation
