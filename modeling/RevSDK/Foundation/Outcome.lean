import Mathlib.Data.List.Basic

/-!
# Outcomes of imperative code

A function either returns or ends the program abnormally: an assertion fails,
an exception leaves it, or its behaviour is undefined from then on.
-/

namespace RevSDK.Foundation

inductive Fault where
  | assertionFailed (text : String)
  | exceptionRaised (text : String)
  | undefinedBehaviour (text : String)
  deriving DecidableEq, Repr

abbrev Outcome (α : Type) := Except Fault α

def assertion (condition : Bool) (text : String) : Outcome Unit :=
  if condition then .ok () else .error (.assertionFailed text)

@[simp] theorem assertion_true (text : String) :
    assertion true text = .ok () := rfl

@[simp] theorem Outcome.ok_bind {α β : Type} (a : α) (f : α → Outcome β) :
    ((Except.ok a : Outcome α) >>= f) = f a := rfl

@[simp] theorem Outcome.error_bind {α β : Type} (fault : Fault)
    (f : α → Outcome β) :
    ((Except.error fault : Outcome α) >>= f) = .error fault := rfl

theorem Outcome.bind_eq_ok {α β : Type} (x : Outcome α) (f : α → Outcome β)
    (b : β) : (x >>= f) = .ok b ↔ ∃ a, x = .ok a ∧ f a = .ok b := by
  cases x with
  | error fault => simp
  | ok a => simp

theorem Outcome.toOption_eq_some {α : Type} (x : Outcome α) (a : α) :
    x.toOption = some a ↔ x = .ok a := by
  cases x with
  | error fault => simp [Except.toOption]
  | ok b => simp [Except.toOption]

theorem Outcome.forM_eq_ok {α : Type} (f : α → Outcome Unit) (xs : List α)
    (h : ∀ x ∈ xs, f x = .ok ()) : xs.forM f = .ok () := by
  induction xs with
  | nil => rfl
  | cons x xs ih =>
      rw [List.forM_eq_forM, List.forM_cons, h x (by simp), Outcome.ok_bind]
      exact ih fun y hy => h y (by simp [hy])

theorem Outcome.mapM_isOk_iff {α β : Type} (f : α → Outcome β) (xs : List α) :
    (∃ ys, xs.mapM f = .ok ys) ↔ ∀ x ∈ xs, ∃ y, f x = .ok y := by
  induction xs with
  | nil => simp [pure, Except.pure]
  | cons x xs ih =>
      rw [List.mapM_cons, List.forall_mem_cons, ← ih]
      constructor
      · rintro ⟨ys, h⟩
        obtain ⟨y, hy, hrest⟩ := (Outcome.bind_eq_ok _ _ _).mp h
        obtain ⟨rest, hys, -⟩ := (Outcome.bind_eq_ok _ _ _).mp hrest
        exact ⟨⟨y, hy⟩, rest, hys⟩
      · rintro ⟨⟨y, hy⟩, rest, hys⟩
        refine ⟨y :: rest, ?_⟩
        rw [hy, Outcome.ok_bind, hys]
        rfl

theorem Outcome.length_of_mapM {α β : Type} {f : α → Outcome β} {xs : List α}
    {ys : List β} (h : xs.mapM f = .ok ys) : ys.length = xs.length := by
  induction xs generalizing ys with
  | nil =>
      obtain rfl : [] = ys := Except.ok.inj h
      rfl
  | cons x xs ih =>
      rw [List.mapM_cons] at h
      obtain ⟨y, -, hrest⟩ := (Outcome.bind_eq_ok _ _ _).mp h
      obtain ⟨rest, hys, hlist⟩ := (Outcome.bind_eq_ok _ _ _).mp hrest
      obtain rfl : y :: rest = ys := Except.ok.inj hlist
      simp [ih hys]

end RevSDK.Foundation
