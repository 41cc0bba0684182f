import Mathlib.Data.List.Basic

/-!
# Windows at the end of a history

A history is pruned from its front: entry after entry is dropped until one is
recent.  Each entry is judged by a reading of its own, since the clock goes on
meanwhile; `old read entry` says that the entry is too old by that reading.
-/

namespace RevSDK.Foundation

universe u

variable {α : Type u}

/--
What is left and the reading that stopped the pruning, or `none` if every entry
was dropped.
-/
def dropOld (old : Nat → α → Bool) : Nat → List α → Option (Nat × List α)
  | _, [] => none
  | read, entry :: rest =>
      if old read entry then dropOld old (read + 1) rest
      else some (read, entry :: rest)

section Pruning

variable {old : Nat → α → Bool} {read last : Nat} {entries kept : List α}

def SomeRecent (old : Nat → α → Bool) (read : Nat) (entries : List α) : Prop :=
  ∃ index entry, entries[index]? = some entry ∧
    old (read + index) entry = false

theorem not_someRecent_nil : ¬ SomeRecent old read ([] : List α) := by
  rintro ⟨index, entry, hentry, -⟩
  simp at hentry

theorem someRecent_cons (entry : α) (rest : List α) :
    SomeRecent old read (entry :: rest) ↔
      old read entry = false ∨ SomeRecent old (read + 1) rest := by
  constructor
  · rintro ⟨index, found, hfound, hrecent⟩
    cases index with
    | zero =>
        obtain rfl := Option.some.inj hfound
        exact .inl hrecent
    | succ index =>
        refine .inr ⟨index, found, hfound, ?_⟩
        rwa [Nat.add_assoc, Nat.add_comm 1 index]
  · rintro (hrecent | ⟨index, found, hfound, hrecent⟩)
    · exact ⟨0, entry, rfl, hrecent⟩
    · refine ⟨index + 1, found, hfound, ?_⟩
      rwa [Nat.add_comm index 1, ← Nat.add_assoc]

theorem dropOld_isSome_iff :
    (dropOld old read entries).isSome = true ↔
      SomeRecent old read entries := by
  induction entries generalizing read with
  | nil => simp [dropOld, not_someRecent_nil]
  | cons entry rest ih =>
      rw [dropOld, someRecent_cons]
      cases hold : old read entry with
      | true => simp [ih]
      | false => simp

def FirstRecent (old : Nat → α → Bool) (read : Nat) (entries : List α)
    (index : Nat) : Prop :=
  (∃ entry, entries[index]? = some entry ∧ old (read + index) entry = false) ∧
    ∀ earlier < index, ∀ entry, entries[earlier]? = some entry →
      old (read + earlier) entry = true

theorem firstRecent_zero (entry : α) (rest : List α) :
    FirstRecent old read (entry :: rest) 0 ↔ old read entry = false := by
  simp [FirstRecent]

theorem firstRecent_succ (entry : α) (rest : List α) (index : Nat) :
    FirstRecent old read (entry :: rest) (index + 1) ↔
      old read entry = true ∧ FirstRecent old (read + 1) rest index := by
  have hshift : ∀ later, read + (later + 1) = read + 1 + later := by omega
  unfold FirstRecent
  rw [List.getElem?_cons_succ, hshift]
  constructor
  · rintro ⟨hrecent, hbefore⟩
    refine ⟨hbefore 0 (Nat.succ_pos _) entry rfl, hrecent, ?_⟩
    intro earlier hlt found hfound
    rw [← hshift]
    exact hbefore (earlier + 1) (Nat.succ_lt_succ hlt) found hfound
  · rintro ⟨hold, hrecent, hbefore⟩
    refine ⟨hrecent, ?_⟩
    intro earlier hlt found hfound
    cases earlier with
    | zero =>
        obtain rfl := Option.some.inj hfound
        exact hold
    | succ earlier =>
        rw [hshift]
        exact hbefore earlier (Nat.lt_of_succ_lt_succ hlt) found hfound

theorem dropOld_stops_iff :
    (∃ kept, dropOld old read entries = some (last, kept)) ↔
      ∃ index, FirstRecent old read entries index ∧ last = read + index := by
  induction entries generalizing read with
  | nil => simp [dropOld, FirstRecent]
  | cons entry rest ih =>
      rw [dropOld]
      cases hold : old read entry with
      | true =>
          rw [if_pos rfl, ih]
          constructor
          · rintro ⟨index, hfirst, rfl⟩
            exact ⟨index + 1, (firstRecent_succ ..).mpr ⟨hold, hfirst⟩,
              by omega⟩
          · rintro ⟨index, hfirst, rfl⟩
            cases index with
            | zero =>
                rw [firstRecent_zero, hold] at hfirst
                contradiction
            | succ index =>
                exact ⟨index, ((firstRecent_succ ..).mp hfirst).2, by omega⟩
      | false =>
          rw [if_neg (by decide)]
          constructor
          · rintro ⟨kept, hkept⟩
            obtain ⟨rfl, -⟩ := Prod.mk.inj (Option.some.inj hkept)
            exact ⟨0, (firstRecent_zero ..).mpr hold, rfl⟩
          · rintro ⟨index, hfirst, rfl⟩
            cases index with
            | zero => exact ⟨_, rfl⟩
            | succ index =>
                rw [firstRecent_succ, hold] at hfirst
                exact absurd hfirst.1 (by decide)

theorem dropOld_eq_filter
    (hclock : ∀ read entry, old read entry = true →
      old (read + 1) entry = true)
    (horder : entries.Pairwise fun earlier later =>
      ∀ read, old read later = true → old read earlier = true)
    (hkept : dropOld old read entries = some (last, kept)) :
    read ≤ last ∧ kept = entries.filter fun entry => !old last entry := by
  have hlater : ∀ {first second entry}, first ≤ second →
      old first entry = true → old second entry = true := by
    intro first second entry hle hold
    induction hle with
    | refl => exact hold
    | step _ ih => exact hclock _ entry ih
  induction entries generalizing read with
  | nil => simp [dropOld] at hkept
  | cons entry rest ih =>
      rw [dropOld] at hkept
      obtain ⟨hfirst, hrest⟩ := List.pairwise_cons.mp horder
      cases hold : old read entry with
      | true =>
          rw [hold, if_pos rfl] at hkept
          obtain ⟨hread, hfilter⟩ := ih hrest hkept
          have hread' : read ≤ last := Nat.le_of_succ_le hread
          refine ⟨hread', ?_⟩
          rw [List.filter_cons_of_neg (by simp [hlater hread' hold]), hfilter]
      | false =>
          rw [hold, if_neg (by decide)] at hkept
          obtain ⟨rfl, rfl⟩ := Prod.mk.inj (Option.some.inj hkept)
          refine ⟨Nat.le_refl _, (List.filter_eq_self.mpr ?_).symm⟩
          intro other hother
          rcases List.mem_cons.mp hother with rfl | hmem
          · simp [hold]
          · cases hold' : old read other with
            | true => rw [hfirst other hmem read hold'] at hold; contradiction
            | false => rfl

theorem dropOld_still (tooOld : α → Bool) (read : Nat) (entries : List α) :
    (dropOld (fun _ => tooOld) read entries).map Prod.snd =
      if entries.dropWhile tooOld = [] then none
      else some (entries.dropWhile tooOld) := by
  induction entries generalizing read with
  | nil => rfl
  | cons entry rest ih =>
      rw [dropOld, List.dropWhile_cons]
      cases hold : tooOld entry with
      | true => simpa using ih (read + 1)
      | false => simp

theorem dropWhile_eq_filter (tooOld : α → Bool)
    (horder : entries.Pairwise fun earlier later =>
      tooOld later = true → tooOld earlier = true) :
    entries.dropWhile tooOld = entries.filter fun entry => !tooOld entry := by
  induction entries with
  | nil => rfl
  | cons entry rest ih =>
      obtain ⟨hfirst, hrest⟩ := List.pairwise_cons.mp horder
      cases hold : tooOld entry with
      | true =>
          rw [List.dropWhile_cons_of_pos hold, ih hrest]
          simp [hold]
      | false =>
          rw [List.dropWhile_cons_of_neg (by simp [hold])]
          refine (List.filter_eq_self.mpr fun other hother => ?_).symm
          rcases List.mem_cons.mp hother with rfl | hlater
          · simp [hold]
          · have hrecent := mt (hfirst other hlater) (by simp [hold])
            simpa using hrecent

end Pruning

end RevSDK.Foundation
