import Mathlib.Data.List.Induction

/-!
# Dialogues

What one party hears from another, call by call, moves a partial automaton
from phase to phase.  `converse phase calls` is the phase that the calls lead
to, if each of them is due when it comes.
-/

namespace RevSDK.Foundation

universe u v

structure Dialogue (φ : Type u) (κ : Type v) where
  start : φ
  next : φ → κ → Option φ

namespace Dialogue

variable {φ : Type u} {κ : Type v} (dialogue : Dialogue φ κ)

def converse : φ → List κ → Option φ
  | phase, [] => some phase
  | phase, call :: calls =>
      (dialogue.next phase call).bind fun phase => converse phase calls

@[simp] theorem converse_nil (phase : φ) :
    dialogue.converse phase [] = some phase := rfl

@[simp] theorem converse_cons (phase : φ) (call : κ) (calls : List κ) :
    dialogue.converse phase (call :: calls) =
      (dialogue.next phase call).bind
        fun phase => dialogue.converse phase calls := rfl

theorem converse_append (phase : φ) (first second : List κ) :
    dialogue.converse phase (first ++ second) =
      (dialogue.converse phase first).bind
        fun phase => dialogue.converse phase second := by
  induction first generalizing phase with
  | nil => rfl
  | cons call first ih =>
      rw [List.cons_append, converse_cons, converse_cons, Option.bind_assoc]
      exact congrArg _ (funext ih)

theorem converse_of_stays {phase : φ} {calls : List κ}
    (hstays : ∀ call ∈ calls, dialogue.next phase call = some phase) :
    dialogue.converse phase calls = some phase := by
  induction calls with
  | nil => rfl
  | cons call calls ih =>
      obtain ⟨hcall, hrest⟩ := List.forall_mem_cons.mp hstays
      rw [converse_cons, hcall]
      exact ih hrest

/--
What holds of the calls so far, the phase they lead to and the state of the
party that hears them, by induction on the last call.
-/
theorem converse_foldl {ι σ : Type*} {answer : ι → κ} {hear : σ → ι → σ}
    {Inv : List ι → φ → σ → Prop} {phase phase' : φ} {state : σ}
    {calls : List ι} (hstart : Inv [] phase state)
    (hnext : ∀ heard phase call phase' state, Inv heard phase state →
      dialogue.next phase (answer call) = some phase' →
        Inv (heard ++ [call]) phase' (hear state call))
    (hcalls : dialogue.converse phase (calls.map answer) = some phase') :
    Inv calls phase' (calls.foldl hear state) := by
  induction calls using List.reverseRecOn generalizing phase' with
  | nil => exact Option.some.inj hcalls ▸ hstart
  | append_singleton calls call ih =>
      rw [List.map_append, converse_append] at hcalls
      obtain ⟨before, hbefore, hlast⟩ := Option.bind_eq_some_iff.mp hcalls
      obtain ⟨after, hafter, hend⟩ := Option.bind_eq_some_iff.mp hlast
      rw [List.foldl_append, ← Option.some.inj hend]
      exact hnext calls before call after _ (ih hbefore) hafter

theorem converse_invariant {Inv : List κ → φ → Prop}
    (hstart : Inv [] dialogue.start)
    (hnext : ∀ calls phase call phase', Inv calls phase →
      dialogue.next phase call = some phase' → Inv (calls ++ [call]) phase')
    {calls : List κ} {phase : φ}
    (hcalls : dialogue.converse dialogue.start calls = some phase) :
    Inv calls phase := by
  refine @converse_foldl _ _ dialogue κ Unit id (fun _ _ => ())
    (fun calls phase _ => Inv calls phase) _ _ () _ hstart ?_
    (by rwa [List.map_id])
  exact fun calls phase call phase' _ => hnext calls phase call phase'

end Dialogue

theorem append_singleton_eq_split {α : Type u} {list before after : List α}
    {last element : α} :
    list ++ [last] = before ++ element :: after ↔
      after = [] ∧ before = list ∧ element = last ∨
        ∃ front, after = front ++ [last] ∧
          list = before ++ element :: front := by
  constructor
  · intro hsplit
    rcases List.eq_nil_or_concat after with rfl | ⟨front, final, rfl⟩
    · obtain ⟨hbefore, hlast⟩ := List.append_inj' hsplit rfl
      exact .inl ⟨rfl, hbefore.symm, (List.singleton_inj.mp hlast).symm⟩
    · rw [List.concat_eq_append] at hsplit ⊢
      rw [← List.cons_append, ← List.append_assoc] at hsplit
      obtain ⟨hfront, hlast⟩ := List.append_inj' hsplit rfl
      exact .inr ⟨front, by rw [List.singleton_inj.mp hlast], hfront⟩
  · rintro (⟨rfl, rfl, rfl⟩ | ⟨front, rfl, rfl⟩)
    · rfl
    · simp

end RevSDK.Foundation
