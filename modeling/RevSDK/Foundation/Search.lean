import Mathlib.Data.List.Infix

/-!
# Searching a text

`findFirst needle text` is the place of the first occurrence of a part in a
list, and `replaceAt` puts another part there.
-/

namespace RevSDK.Foundation

universe u

variable {α : Type u} [DecidableEq α]

/-- An empty part is found nowhere. -/
def findFirst (needle text : List α) : Option Nat :=
  if needle.isEmpty then none
  else text.tails.findIdx? fun rest => needle.isPrefixOf rest

def replaceAt (text : List α) (place : Nat) (needle part : List α) : List α :=
  text.take place ++ part ++ text.drop (place + needle.length)

theorem findFirst_eq_zero_iff (needle text : List α) :
    findFirst needle text = some 0 ↔ needle ≠ [] ∧ needle <+: text := by
  unfold findFirst
  cases needle with
  | nil => simp
  | cons first needle =>
      cases text with
      | nil => simp
      | cons head text =>
          simp only [List.isEmpty_cons, Bool.false_eq_true, if_false,
            List.tails_cons, List.findIdx?_cons, ne_eq, reduceCtorEq,
            not_false_eq_true, true_and]
          split
          next hprefix => simpa using List.isPrefixOf_iff_prefix.mp hprefix
          next hother =>
            rw [List.isPrefixOf_iff_prefix] at hother
            simp [hother]

/-! ## Where a part occurs first -/

section Occurrences

variable {needle text : List α}

theorem findFirst_nil (needle : List α) : findFirst needle [] = none := by
  cases needle <;> rfl

theorem findFirst_cons (hneedle : needle ≠ []) (head : α) (text : List α) :
    findFirst needle (head :: text) =
      if needle <+: head :: text then some 0
      else (findFirst needle text).map (· + 1) := by
  unfold findFirst
  have hempty : needle.isEmpty = false := by simpa using hneedle
  simp only [hempty, Bool.false_eq_true, if_false, List.tails_cons,
    List.findIdx?_cons, List.isPrefixOf_iff_prefix]

theorem findFirst_eq_some {place : Nat}
    (hplace : findFirst needle text = some place) :
    ∃ before after, text = before ++ needle ++ after ∧
      before.length = place := by
  have hneedle : needle ≠ [] := by
    rintro rfl
    cases hplace
  induction text generalizing place with
  | nil => simp [findFirst_nil] at hplace
  | cons head text ih =>
      rw [findFirst_cons hneedle] at hplace
      split at hplace
      next hprefix =>
        obtain ⟨after, hafter⟩ := hprefix
        exact ⟨[], after, hafter.symm, Option.some.inj hplace⟩
      next =>
        obtain ⟨later, hlater, rfl⟩ := Option.map_eq_some_iff.mp hplace
        obtain ⟨before, after, rfl, rfl⟩ := ih hlater
        exact ⟨head :: before, after, rfl, rfl⟩

theorem findFirst_isSome_iff (hneedle : needle ≠ []) :
    (findFirst needle text).isSome = true ↔ needle <:+: text := by
  induction text with
  | nil => simp [findFirst_nil, hneedle]
  | cons head text ih =>
      rw [findFirst_cons hneedle, List.infix_cons_iff]
      split
      next hbegins => simp [hbegins]
      next hother => simp [hother, ih]

omit [DecidableEq α] in
theorem prefix_append_cons_iff {delimiter : α} (hneedle : delimiter ∉ needle)
    (front behind : List α) :
    needle <+: front ++ delimiter :: behind ↔ needle <+: front := by
  induction front generalizing needle with
  | nil =>
      cases needle with
      | nil => simp
      | cons head needle =>
          simp only [List.mem_cons, not_or] at hneedle
          simp [List.cons_prefix_cons, Ne.symm hneedle.1]
  | cons first front ih =>
      cases needle with
      | nil => simp
      | cons head needle =>
          simp only [List.mem_cons, not_or] at hneedle
          simp [List.cons_prefix_cons, ih hneedle.2]

theorem findFirst_append_cons {delimiter : α} (hneedle : needle ≠ [])
    (hdelimiter : delimiter ∉ needle) (front behind : List α) :
    findFirst needle (front ++ delimiter :: behind) =
      match findFirst needle front with
      | some place => some place
      | none => (findFirst needle behind).map (· + front.length + 1) := by
  induction front with
  | nil =>
      have hnot : ¬ needle <+: delimiter :: behind := fun h => by
        have hnil := (prefix_append_cons_iff hdelimiter [] behind).mp h
        exact hneedle (List.prefix_nil.mp hnil)
      rw [List.nil_append, findFirst_cons hneedle, if_neg hnot,
        findFirst_nil]
      rfl
  | cons first front ih =>
      have hbegins := prefix_append_cons_iff hdelimiter (first :: front) behind
      rw [List.cons_append] at hbegins
      rw [List.cons_append, findFirst_cons hneedle, findFirst_cons hneedle,
        ih]
      by_cases hfirst : needle <+: first :: front
      · rw [if_pos (hbegins.mpr hfirst), if_pos hfirst]
      · rw [if_neg (hbegins.not.mpr hfirst), if_neg hfirst]
        cases findFirst needle front with
        | some place => rfl
        | none =>
            cases findFirst needle behind with
            | none => rfl
            | some place => simp [Nat.add_assoc]

theorem findFirst_of_infix {delimiter : α} {front : List α}
    (hneedle : needle ≠ []) (hdelimiter : delimiter ∉ needle)
    (hfront : needle <:+: front) (behind : List α) :
    ∃ before after, front = before ++ needle ++ after ∧
      findFirst needle (front ++ delimiter :: behind) =
        some before.length := by
  obtain ⟨place, hplace⟩ :=
    Option.isSome_iff_exists.mp ((findFirst_isSome_iff hneedle).mpr hfront)
  obtain ⟨before, after, hsplit, rfl⟩ := findFirst_eq_some hplace
  refine ⟨before, after, hsplit, ?_⟩
  rw [findFirst_append_cons hneedle hdelimiter, hplace]

inductive Clear (needle : List α) : List α → Prop
  | nil : Clear needle []
  | segment {front rest : List α} {delimiter : α}
      (hdelimiter : delimiter ∉ needle) (hfront : ¬ needle <:+: front)
      (hrest : Clear needle rest) : Clear needle (front ++ delimiter :: rest)

omit [DecidableEq α] in
theorem Clear.append {front rest : List α} (hfront : Clear needle front)
    (hrest : Clear needle rest) : Clear needle (front ++ rest) := by
  induction hfront with
  | nil => exact hrest
  | segment hdelimiter hclear _ ih =>
      rw [List.append_assoc, List.cons_append]
      exact .segment hdelimiter hclear ih

theorem findFirst_of_clear {front : List α} (hneedle : needle ≠ [])
    (hclear : Clear needle front) (behind : List α) :
    findFirst needle (front ++ behind) =
      (findFirst needle behind).map (· + front.length) := by
  induction hclear with
  | nil => simp
  | @segment front rest delimiter hdelimiter hfront _ ih =>
      have hnone : findFirst needle front = none := by
        rw [← Option.not_isSome_iff_eq_none, findFirst_isSome_iff hneedle]
        exact hfront
      rw [List.append_assoc, List.cons_append,
        findFirst_append_cons hneedle hdelimiter, hnone, ih]
      simp only [Option.map_map, List.length_append, List.length_cons]
      congr 1
      funext place
      simp only [Function.comp_apply]
      omega

theorem findFirst_append_self (hneedle : needle ≠ []) (behind : List α) :
    findFirst needle (needle ++ behind) = some 0 :=
  (findFirst_eq_zero_iff _ _).mpr ⟨hneedle, List.prefix_append _ _⟩

theorem findFirst_le (hneedle : needle ≠ []) (before behind : List α) :
    ∃ place ≤ before.length,
      findFirst needle (before ++ needle ++ behind) = some place := by
  induction before with
  | nil => exact ⟨0, Nat.le_refl 0, findFirst_append_self hneedle behind⟩
  | cons first before ih =>
      obtain ⟨place, hle, hplace⟩ := ih
      rw [List.cons_append, List.cons_append, findFirst_cons hneedle, hplace]
      split
      · exact ⟨0, Nat.zero_le _, rfl⟩
      · exact ⟨place + 1, by simpa using hle, rfl⟩

omit [DecidableEq α] in
theorem replaceAt_append (before needle after part : List α) :
    replaceAt (before ++ needle ++ after) before.length needle part =
      before ++ part ++ after := by
  have hdrop : (before ++ needle ++ after).drop
      (before.length + needle.length) = after := by
    rw [← List.length_append, List.drop_left]
  have htake : (before ++ needle ++ after).take before.length = before := by
    rw [List.append_assoc, List.take_left]
  rw [replaceAt, hdrop, htake]

theorem length_replaceAt {place : Nat} (part : List α)
    (hplace : findFirst needle text = some place) :
    (replaceAt text place needle part).length + needle.length =
      text.length + part.length := by
  obtain ⟨before, after, rfl, rfl⟩ := findFirst_eq_some hplace
  rw [replaceAt_append]
  simp only [List.length_append]
  omega

end Occurrences

end RevSDK.Foundation
