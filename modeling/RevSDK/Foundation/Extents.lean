import Mathlib.Data.List.Basic

/-!
# Extents of offsets

What is missing from a range is kept as a list of half-open extents.
`Increasing from extents` says that they are not empty, stand in increasing
order from `from` on and never touch; `Extent.without` is what is left of
one of them after a part of it has been filled.
-/

namespace RevSDK.Foundation

structure Extent where
  beginOffset : Nat
  endOffset : Nat
  deriving DecidableEq, Repr

namespace Extent

def Contains (extent : Extent) (offset : Nat) : Prop :=
  extent.beginOffset ≤ offset ∧ offset < extent.endOffset

instance (extent : Extent) (offset : Nat) :
    Decidable (extent.Contains offset) :=
  inferInstanceAs (Decidable (_ ∧ _))

def without (extent : Extent) (first last : Nat) : List Extent :=
  (if extent.beginOffset < first then [⟨extent.beginOffset, first⟩]
    else []) ++
  (if last < extent.endOffset then [⟨last, extent.endOffset⟩] else [])

end Extent

def Covers (extents : List Extent) (offset : Nat) : Prop :=
  ∃ extent ∈ extents, extent.Contains offset

instance (extents : List Extent) (offset : Nat) :
    Decidable (Covers extents offset) :=
  inferInstanceAs (Decidable (∃ _ ∈ _, _))

def Increasing : Nat → List Extent → Prop
  | _, [] => True
  | lower, extent :: rest =>
      lower ≤ extent.beginOffset ∧
        extent.beginOffset < extent.endOffset ∧
        Increasing (extent.endOffset + 1) rest

section Covering

variable {offset lower first last : Nat} {extent : Extent}
  {extents before after : List Extent}

@[simp] theorem covers_nil : ¬ Covers [] offset := by simp [Covers]

@[simp] theorem covers_cons :
    Covers (extent :: extents) offset ↔
      extent.Contains offset ∨ Covers extents offset := by
  simp [Covers]

@[simp] theorem covers_append :
    Covers (before ++ after) offset ↔
      Covers before offset ∨ Covers after offset := by
  simp [Covers, or_and_right, exists_or]

theorem covers_without (hfirst : extent.beginOffset ≤ first)
    (hsize : first < last) (hlast : last ≤ extent.endOffset) :
    Covers (extent.without first last) offset ↔
      extent.Contains offset ∧ ¬ (first ≤ offset ∧ offset < last) := by
  unfold Extent.without
  split <;> split <;> simp only [covers_append, covers_cons, covers_nil,
    Extent.Contains, or_false, false_or, false_iff] <;> omega

theorem Increasing.mono {lower' : Nat} (h : Increasing lower extents)
    (hle : lower' ≤ lower) : Increasing lower' extents := by
  cases extents with
  | nil => trivial
  | cons extent rest => exact ⟨Nat.le_trans hle h.1, h.2⟩

theorem Increasing.lower_le (h : Increasing lower extents)
    (hcovers : Covers extents offset) : lower ≤ offset := by
  induction extents generalizing lower with
  | nil => exact absurd hcovers covers_nil
  | cons extent rest ih =>
      obtain ⟨hlower, hsize, hrest⟩ := h
      rcases covers_cons.mp hcovers with hhere | hthere
      · exact Nat.le_trans hlower hhere.1
      · have := ih hrest hthere
        omega

theorem Increasing.not_covers (h : Increasing lower extents)
    (hlt : offset < lower) : ¬ Covers extents offset :=
  fun hcovers => Nat.not_lt.mpr (h.lower_le hcovers) hlt

theorem increasing_append :
    Increasing lower (before ++ extent :: after) ↔
      Increasing lower (before ++ [extent]) ∧
        Increasing (extent.endOffset + 1) after := by
  induction before generalizing lower with
  | nil => simp [Increasing, and_assoc]
  | cons head before ih => simp [Increasing, ih, and_assoc]

theorem Increasing.middle
    (h : Increasing lower (before ++ extent :: after)) :
    lower ≤ extent.beginOffset ∧
      extent.beginOffset < extent.endOffset := by
  induction before generalizing lower with
  | nil => exact ⟨h.1, h.2.1⟩
  | cons head before ih =>
      obtain ⟨hlower, hsize⟩ := ih h.2.2
      have := h.1
      have := h.2.1
      exact ⟨by omega, hsize⟩

theorem Increasing.without
    (h : Increasing lower (before ++ extent :: after))
    (hfirst : extent.beginOffset ≤ first) (hsize : first < last)
    (hlast : last ≤ extent.endOffset) :
    Increasing lower (before ++ extent.without first last ++ after) := by
  induction before generalizing lower with
  | nil =>
      obtain ⟨hlower, hinterval, hafter⟩ := h
      have hlater := hafter.mono (show lower ≤ extent.endOffset + 1 by omega)
      unfold Extent.without
      split <;> split <;>
        simp only [List.nil_append, List.append_nil, List.cons_append,
          Increasing]
      · exact ⟨by omega, by omega, by omega, by omega, hafter⟩
      · exact ⟨by omega, by omega, hafter.mono (by omega)⟩
      · exact ⟨by omega, by omega, hafter⟩
      · exact hlater
  | cons head before ih => exact ⟨h.1, h.2.1, ih h.2.2⟩

end Covering

end RevSDK.Foundation
