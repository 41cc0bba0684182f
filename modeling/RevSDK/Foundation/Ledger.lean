import Mathlib.Data.List.AList

/-!
# Ledgers of pending items

A ledger books items under keys.  Settling a key takes its item from the
pending ones; a key that is entered again loses the item it had.  A balanced
ledger stays balanced under settling, and accounts for a new item exactly if
that is entered under a free key.
-/

namespace RevSDK.Foundation

universe u v

structure Ledger (κ : Type u) (ι : Type v) where
  pending : AList fun _ : κ => ι
  received : List ι
  settled : List ι

namespace Ledger

variable {κ : Type u} {ι : Type v} [DecidableEq κ]

/-- The item is received, but nobody will ever hear of it. -/
def refuse (ledger : Ledger κ ι) (item : ι) : Ledger κ ι :=
  { ledger with received := ledger.received ++ [item] }

def enter (ledger : Ledger κ ι) (key : κ) (item : ι) : Ledger κ ι :=
  { ledger with
    pending := ledger.pending.insert key item
    received := ledger.received ++ [item] }

def settle (ledger : Ledger κ ι) (key : κ) : Ledger κ ι :=
  match ledger.pending.lookup key with
  | none => ledger
  | some item =>
      { ledger with
        pending := ledger.pending.erase key
        settled := ledger.settled ++ [item] }

inductive Settles (ledger : Ledger κ ι) : Ledger κ ι → Prop
  | refl : Settles ledger ledger
  | settle {next : Ledger κ ι} (key : κ) :
      Settles ledger next → Settles ledger (next.settle key)

/-- Every received item is pending or settled. -/
def Accounted (ledger : Ledger κ ι) : Prop :=
  ∀ item ∈ ledger.received,
    (∃ key, ledger.pending.lookup key = some item) ∨ item ∈ ledger.settled

structure Balanced (ledger : Ledger κ ι) : Prop where
  accounted : ledger.Accounted
  pending : ∀ key item, ledger.pending.lookup key = some item →
    item ∈ ledger.received ∧ item ∉ ledger.settled
  single : ∀ key other item, ledger.pending.lookup key = some item →
    ledger.pending.lookup other = some item → key = other
  settled : ∀ item ∈ ledger.settled, item ∈ ledger.received
  once : ledger.settled.Nodup

section Entries

variable {pending : AList fun _ : κ => ι} {key other : κ} {item kept : ι}

theorem lookup_erase_eq_some :
    (pending.erase key).lookup other = some kept ↔
      other ≠ key ∧ pending.lookup other = some kept := by
  by_cases hsame : other = key
  · rw [hsame, AList.lookup_erase]
    simp
  · rw [AList.lookup_erase_ne hsame]
    simp [hsame]

theorem lookup_insert_eq_some :
    (pending.insert key item).lookup other = some kept ↔
      other = key ∧ kept = item ∨
        other ≠ key ∧ pending.lookup other = some kept := by
  by_cases hsame : other = key
  · rw [hsame, AList.lookup_insert]
    simp [eq_comm]
  · rw [AList.lookup_insert_ne hsame]
    simp [hsame]

end Entries

section Steps

variable {ledger next last : Ledger κ ι} {key : κ} {item : ι}

theorem Settles.trans (first : ledger.Settles next)
    (second : next.Settles last) : ledger.Settles last := by
  induction second with
  | refl => exact first
  | settle key _ ih => exact .settle key ih

theorem settle_found (hitem : ledger.pending.lookup key = some item) :
    ledger.settle key = { ledger with
      pending := ledger.pending.erase key
      settled := ledger.settled ++ [item] } := by
  unfold settle
  rw [hitem]

theorem Balanced.settle (h : ledger.Balanced) (key : κ) :
    (ledger.settle key).Balanced := by
  cases hitem : ledger.pending.lookup key with
  | none =>
      unfold Ledger.settle
      rw [hitem]
      exact h
  | some item =>
      obtain ⟨hreceived, hunsettled⟩ := h.pending key item hitem
      rw [settle_found hitem]
      constructor
      · intro other hother
        rcases h.accounted other hother with ⟨place, hplace⟩ | hsettled
        · by_cases hsame : place = key
          · right
            rw [hsame, hitem] at hplace
            obtain rfl := Option.some.inj hplace
            exact List.mem_append_right _ List.mem_cons_self
          · left
            exact ⟨place, (AList.lookup_erase_ne hsame).trans hplace⟩
        · exact .inr (List.mem_append_left _ hsettled)
      · intro place kept hplace
        obtain ⟨hne, hbefore⟩ := lookup_erase_eq_some.mp hplace
        obtain ⟨hmem, hnot⟩ := h.pending place kept hbefore
        refine ⟨hmem, ?_⟩
        intro hsettled
        rcases List.mem_append.mp hsettled with hold | hnew
        · exact hnot hold
        · obtain rfl := List.mem_singleton.mp hnew
          exact hne (h.single place key kept hbefore hitem)
      · intro place other kept hplace hother
        exact h.single place other kept (lookup_erase_eq_some.mp hplace).2
          (lookup_erase_eq_some.mp hother).2
      · intro other hother
        rcases List.mem_append.mp hother with hold | hnew
        · exact h.settled other hold
        · obtain rfl := List.mem_singleton.mp hnew
          exact hreceived
      · apply List.nodup_append.mpr
        refine ⟨h.once, List.nodup_singleton item, ?_⟩
        rintro other hother _ hsingle rfl
        obtain rfl := List.mem_singleton.mp hsingle
        exact hunsettled hother

theorem Balanced.settles (h : ledger.Balanced) (hsettles : ledger.Settles next) :
    next.Balanced := by
  induction hsettles with
  | refl => exact h
  | settle key _ ih => exact ih.settle key

theorem Balanced.enter (h : ledger.Balanced) (hitem : item ∉ ledger.received)
    (hkey : key ∉ ledger.pending) : (ledger.enter key item).Balanced := by
  constructor
  · intro other hother
    rcases List.mem_append.mp hother with hold | hnew
    · rcases h.accounted other hold with ⟨place, hplace⟩ | hsettled
      · left
        refine ⟨place, ?_⟩
        have hne : place ≠ key := by
          rintro rfl
          rw [AList.lookup_eq_none.mpr hkey] at hplace
          cases hplace
        exact (AList.lookup_insert_ne hne).trans hplace
      · exact .inr hsettled
    · obtain rfl := List.mem_singleton.mp hnew
      exact .inl ⟨key, AList.lookup_insert _⟩
  · intro other kept hother
    rcases lookup_insert_eq_some.mp hother with ⟨-, rfl⟩ | ⟨-, hold⟩
    · refine ⟨List.mem_append_right _ List.mem_cons_self, ?_⟩
      intro hsettled
      exact hitem (h.settled kept hsettled)
    · obtain ⟨hmem, hnot⟩ := h.pending other kept hold
      exact ⟨List.mem_append_left _ hmem, hnot⟩
  · intro place other kept hplace hother
    rcases lookup_insert_eq_some.mp hplace with ⟨rfl, rfl⟩ | ⟨-, hfirst⟩ <;>
      rcases lookup_insert_eq_some.mp hother with ⟨rfl, hsame⟩ | ⟨-, hsecond⟩
    · rfl
    · exact absurd (h.pending other kept hsecond).1 hitem
    · exact absurd (hsame ▸ (h.pending place kept hfirst).1) hitem
    · exact h.single place other kept hfirst hsecond
  · intro other hother
    exact List.mem_append_left _ (h.settled other hother)
  · exact h.once

theorem Balanced.not_accounted_refuse (h : ledger.Balanced)
    (hitem : item ∉ ledger.received) : ¬ (ledger.refuse item).Accounted := by
  intro haccounted
  rcases haccounted item (List.mem_append_right _ List.mem_cons_self) with
    ⟨key, hkey⟩ | hsettled
  · exact hitem (h.pending key item hkey).1
  · exact hitem (h.settled item hsettled)

theorem Balanced.not_accounted_enter (h : ledger.Balanced)
    (hitem : item ∉ ledger.received) (hkey : key ∈ ledger.pending) :
    ¬ (ledger.enter key item).Accounted := by
  obtain ⟨lost, hlost⟩ := Option.isSome_iff_exists.mp
    (AList.lookup_isSome.mpr hkey)
  obtain ⟨hreceived, hunsettled⟩ := h.pending key lost hlost
  intro haccounted
  rcases haccounted lost (List.mem_append_left _ hreceived) with
    ⟨place, hplace⟩ | hsettled
  · by_cases hsame : place = key
    · rw [hsame] at hplace
      have hitems : item = lost := Option.some.inj
        ((AList.lookup_insert _).symm.trans hplace)
      exact hitem (hitems ▸ hreceived)
    · have hbefore : ledger.pending.lookup place = some lost :=
        (AList.lookup_insert_ne hsame).symm.trans hplace
      exact hsame (h.single place key lost hbefore hlost)
  · exact hunsettled hsettled

end Steps

end Ledger

end RevSDK.Foundation
