import Mathlib.Data.List.Basic

/-!
# Runs of event systems

An event system has initial states and an executable step function: `step s e`
is `some t` when event `e` can happen in state `s` and leads to `t`.  A guard
`allowed` says which events the environment of the system sends in which
state.  `Path allowed trail s` is a run that ends in `s`; its trail lists every
state the run has left together with the event it took there.
-/

namespace RevSDK.Foundation

universe u v

structure EventSystem (σ : Type u) (ε : Type v) where
  initial : σ → Prop
  step : σ → ε → Option σ

namespace EventSystem

variable {σ : Type u} {ε : Type v}

inductive Path (S : EventSystem σ ε) (allowed : σ → ε → Prop) :
    List (σ × ε) → σ → Prop
  | start {s : σ} : S.initial s → Path S allowed [] s
  | next {trail : List (σ × ε)} {s t : σ} {e : ε} :
      Path S allowed trail s → allowed s e → S.step s e = some t →
        Path S allowed (trail ++ [(s, e)]) t

inductive Reachable (S : EventSystem σ ε) (allowed : σ → ε → Prop) : σ → Prop
  | start {s : σ} : S.initial s → Reachable S allowed s
  | next {s t : σ} {e : ε} :
      Reachable S allowed s → allowed s e → S.step s e = some t →
        Reachable S allowed t

/-- `P` holds in every state of the run, the last one included. -/
def Throughout (P : σ → Prop) (trail : List (σ × ε)) (s : σ) : Prop :=
  (∀ visit ∈ trail, P visit.1) ∧ P s

/-- Every event of the run is taken in a state where `C` admits it. -/
def Obeys (C : σ → ε → Prop) (trail : List (σ × ε)) : Prop :=
  ∀ visit ∈ trail, C visit.1 visit.2

@[simp] theorem obeys_nil (C : σ → ε → Prop) : Obeys C [] := by
  simp [Obeys]

@[simp] theorem obeys_snoc (C : σ → ε → Prop) (trail : List (σ × ε))
    (s : σ) (e : ε) :
    Obeys C (trail ++ [(s, e)]) ↔ Obeys C trail ∧ C s e := by
  simp [Obeys, or_imp, forall_and]

theorem throughout_snoc (P : σ → Prop) (trail : List (σ × ε)) (s t : σ)
    (e : ε) :
    Throughout P (trail ++ [(s, e)]) t ↔ Throughout P trail s ∧ P t := by
  simp only [Throughout, List.mem_append, List.mem_singleton]
  constructor
  · rintro ⟨hvisits, ht⟩
    exact ⟨⟨fun visit hvisit => hvisits visit (.inl hvisit),
      hvisits (s, e) (.inr rfl)⟩, ht⟩
  · rintro ⟨⟨hvisits, hs⟩, ht⟩
    refine ⟨?_, ht⟩
    rintro visit (hvisit | rfl)
    · exact hvisits visit hvisit
    · exact hs

section Invariants

variable {S : EventSystem σ ε} {allowed : σ → ε → Prop} {Inv P : σ → Prop}
  {C : σ → ε → Prop} {trail : List (σ × ε)} {s : σ}

theorem Reachable.invariant (Inv : σ → Prop)
    (hstart : ∀ s, S.initial s → Inv s)
    (hnext : ∀ s e t, Inv s → allowed s e → S.step s e = some t → Inv t)
    (hreach : S.Reachable allowed s) : Inv s := by
  induction hreach with
  | start h => exact hstart _ h
  | next _ hallowed hstep ih => exact hnext _ _ _ ih hallowed hstep

theorem Path.reachable (path : S.Path allowed trail s) :
    S.Reachable allowed s := by
  induction path with
  | start h => exact .start h
  | next _ hallowed hstep ih => exact .next ih hallowed hstep

theorem Path.invariant (hstart : ∀ s, S.initial s → Inv s)
    (hnext : ∀ s e t, Inv s → allowed s e → C s e → S.step s e = some t →
      Inv t)
    (path : S.Path allowed trail s) (hobeys : Obeys C trail) :
    Throughout Inv trail s := by
  induction path with
  | start h => exact ⟨by simp, hstart _ h⟩
  | next _ hallowed hstep ih =>
      obtain ⟨htrail, hC⟩ := (obeys_snoc _ _ _ _).mp hobeys
      have hbefore := ih htrail
      exact (throughout_snoc _ _ _ _ _).mpr
        ⟨hbefore, hnext _ _ _ hbefore.2 hallowed hC hstep⟩

theorem Path.throughout_iff_obeys (Inv : σ → Prop)
    (hstart : ∀ s, S.initial s → Inv s)
    (hgood : ∀ s e t, Inv s → allowed s e → C s e → S.step s e = some t →
      Inv t)
    (hbad : ∀ s e t, Inv s → allowed s e → ¬ C s e → S.step s e = some t →
      ¬ P t)
    (hsound : ∀ s, Inv s → P s)
    (path : S.Path allowed trail s) :
    Throughout P trail s ↔ Obeys C trail := by
  constructor
  · intro hP
    induction path with
    | start h => simp
    | next path hallowed hstep ih =>
        obtain ⟨hbefore, hafter⟩ := (throughout_snoc _ _ _ _ _).mp hP
        have hobeys := ih hbefore
        have hinv := (path.invariant hstart hgood hobeys).2
        refine (obeys_snoc _ _ _ _).mpr ⟨hobeys, ?_⟩
        by_contra hC
        exact hbad _ _ _ hinv hallowed hC hstep hafter
  · intro hobeys
    have hinv := path.invariant hstart hgood hobeys
    exact ⟨fun visit hvisit => hsound _ (hinv.1 visit hvisit),
      hsound _ hinv.2⟩

end Invariants

/-- Replays a list of events, checking the guard before each of them. -/
def replay (S : EventSystem σ ε) (allowed : σ → ε → Prop)
    [∀ s e, Decidable (allowed s e)] : σ → List ε → Option σ
  | s, [] => some s
  | s, e :: events =>
      if allowed s e then
        match S.step s e with
        | none => none
        | some t => replay S allowed t events
      else none

theorem replay_cons_eq_some {S : EventSystem σ ε} {allowed : σ → ε → Prop}
    [∀ s e, Decidable (allowed s e)] {s t : σ} {e : ε} {events : List ε} :
    S.replay allowed s (e :: events) = some t ↔
      allowed s e ∧ ∃ next, S.step s e = some next ∧
        S.replay allowed next events = some t := by
  rw [EventSystem.replay]
  by_cases hallowed : allowed s e
  · cases hstep : S.step s e <;> simp [hallowed]
  · simp [hallowed]

theorem Reachable.replay {S : EventSystem σ ε} {allowed : σ → ε → Prop}
    [∀ s e, Decidable (allowed s e)] {s t : σ} (events : List ε)
    (hreach : S.Reachable allowed s)
    (hreplay : S.replay allowed s events = some t) :
    S.Reachable allowed t := by
  induction events generalizing s with
  | nil =>
      simp only [EventSystem.replay, Option.some.injEq] at hreplay
      exact hreplay ▸ hreach
  | cons e events ih =>
      obtain ⟨hallowed, next, hstep, hrest⟩ := replay_cons_eq_some.mp hreplay
      exact ih (.next hreach hallowed hstep) hrest

theorem Path.replay {S : EventSystem σ ε} {allowed C : σ → ε → Prop}
    [∀ s e, Decidable (allowed s e ∧ C s e)] {trail : List (σ × ε)} {s t : σ}
    (events : List ε) (path : S.Path allowed trail s) (hobeys : Obeys C trail)
    (hreplay : S.replay (fun s e => allowed s e ∧ C s e) s events = some t) :
    ∃ longer, S.Path allowed longer t ∧ Obeys C longer ∧
      longer.map Prod.snd = trail.map Prod.snd ++ events := by
  induction events generalizing trail s with
  | nil =>
      simp only [EventSystem.replay, Option.some.injEq] at hreplay
      exact ⟨trail, hreplay ▸ path, hobeys, by simp⟩
  | cons e events ih =>
      obtain ⟨⟨hallowed, hC⟩, next, hstep, hrest⟩ :=
        replay_cons_eq_some.mp hreplay
      obtain ⟨longer, hpath, hlonger, hevents⟩ := ih
        (path.next hallowed hstep) ((obeys_snoc _ _ _ _).mpr ⟨hobeys, hC⟩)
        hrest
      exact ⟨longer, hpath, hlonger, by simpa using hevents⟩

theorem exists_run (S : EventSystem σ ε) (allowed C : σ → ε → Prop)
    [∀ s e, Decidable (allowed s e ∧ C s e)] {s : σ} (events : List ε)
    (test : σ → Bool) (hinitial : S.initial s)
    (hreplay : (S.replay (fun s e => allowed s e ∧ C s e) s events).any test) :
    ∃ trail t, S.Path allowed trail t ∧ Obeys C trail ∧
      trail.map Prod.snd = events ∧ test t = true := by
  cases hlast : S.replay (fun s e => allowed s e ∧ C s e) s events with
  | none => simp [hlast] at hreplay
  | some t =>
      obtain ⟨trail, path, hobeys, hevents⟩ :=
        Path.replay events (.start hinitial) (obeys_nil C) hlast
      exact ⟨trail, t, path, hobeys, by simpa using hevents,
        by simpa [hlast] using hreplay⟩

end EventSystem

end RevSDK.Foundation
