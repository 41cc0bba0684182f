import Mathlib.Algebra.Order.Group.Multiset
import Mathlib.Algebra.BigOperators.Group.Multiset.Basic

/-!
# Outboxes with a durable copy

An outbox accepts records, hands them out in batches and keeps a durable copy
to recover from.  Records are counted with multiplicity, so equal records stay
distinct deliveries.  A batch in flight is either settled (its receiver has
confirmed it) or given back.  Accepting a record appends to the durable copy;
settling a batch rewrites it from the waiting records alone.
-/

namespace RevSDK.Foundation

universe u

structure Outbox (α : Type u) where
  waiting : Multiset α
  inFlight : Multiset (Multiset α)
  settled : Multiset α
  durable : Multiset α
  received : Multiset α

namespace Outbox

variable {α : Type u}

inductive Event (α : Type u) where
  | accept (record : α)
  | dispatch (batch : Multiset α)
  | settle (batch : Multiset α)
  | giveBack (batch : Multiset α)
  | resync
  | recover
  | purge
  | idle

inductive Step : Outbox α → Event α → Outbox α → Prop
  | accept (o : Outbox α) (record : α) :
      Step o (.accept record)
        { o with
          waiting := record ::ₘ o.waiting
          durable := record ::ₘ o.durable
          received := record ::ₘ o.received }
  | dispatch (o : Outbox α) (batch rest : Multiset α)
      (split : o.waiting = batch + rest) :
      Step o (.dispatch batch)
        { o with waiting := rest, inFlight := batch ::ₘ o.inFlight }
  | settle (o : Outbox α) (batch : Multiset α)
      (others : Multiset (Multiset α))
      (split : o.inFlight = batch ::ₘ others) :
      Step o (.settle batch)
        { o with
          inFlight := others
          settled := batch + o.settled
          durable := o.waiting }
  | giveBack (o : Outbox α) (batch : Multiset α)
      (others : Multiset (Multiset α))
      (split : o.inFlight = batch ::ₘ others) :
      Step o (.giveBack batch)
        { o with waiting := o.waiting + batch, inFlight := others }
  | resync (o : Outbox α) : Step o .resync { o with durable := o.waiting }
  | recover (o : Outbox α) :
      Step o .recover { o with waiting := o.durable, inFlight := 0 }
  | purge (o : Outbox α) : Step o .purge { o with waiting := 0, durable := 0 }
  | idle (o : Outbox α) : Step o .idle o

/-- The records the outbox still owes: waiting or in flight. -/
def owed (o : Outbox α) : Multiset α := o.waiting + o.inFlight.sum

/-- Every record is in exactly one place: owed or settled. -/
def Conserved (o : Outbox α) : Prop := o.received = o.owed + o.settled

def Covered (o : Outbox α) : Prop := o.owed ≤ o.durable

def Fresh (o : Outbox α) : Prop := o.durable ≤ o.owed

/-- What is owed and what is settled was received, each record only once. -/
def Accounted (o : Outbox α) : Prop := o.owed + o.settled ≤ o.received

theorem Step.conserved {o o' : Outbox α} {event : Event α}
    (h : Step o event o') (hrecover : event ≠ .recover)
    (hpurge : event ≠ .purge) (hconserved : o.Conserved) :
    o'.Conserved := by
  unfold Conserved owed at *
  cases h with
  | accept record => simp [hconserved]
  | dispatch batch rest split =>
      change o.received = rest + (batch ::ₘ o.inFlight).sum + o.settled
      rw [hconserved, split, Multiset.sum_cons]
      ac_rfl
  | settle batch others split =>
      change o.received = o.waiting + others.sum + (batch + o.settled)
      rw [hconserved, split, Multiset.sum_cons]
      ac_rfl
  | giveBack batch others split =>
      change o.received = o.waiting + batch + others.sum + o.settled
      rw [hconserved, split, Multiset.sum_cons]
      ac_rfl
  | resync => exact hconserved
  | recover => exact absurd rfl hrecover
  | purge => exact absurd rfl hpurge
  | idle => exact hconserved

theorem Step.fresh {o o' : Outbox α} {event : Event α} (h : Step o event o')
    (hfresh : o.Fresh) : o'.Fresh := by
  unfold Fresh owed at *
  cases h with
  | accept record => simpa using hfresh
  | dispatch batch rest split =>
      rw [split] at hfresh
      rw [Multiset.sum_cons]
      calc o.durable ≤ batch + rest + o.inFlight.sum := hfresh
        _ = rest + (batch + o.inFlight.sum) := by ac_rfl
  | settle batch others split => exact Multiset.le_add_right _ _
  | giveBack batch others split =>
      rw [split, Multiset.sum_cons, ← add_assoc] at hfresh
      exact hfresh
  | resync => exact Multiset.le_add_right _ _
  | recover => exact Multiset.le_add_right _ _
  | purge => exact Multiset.zero_le _
  | idle => exact hfresh

theorem Step.accounted {o o' : Outbox α} {event : Event α}
    (h : Step o event o') (hfresh : o.Fresh) (haccounted : o.Accounted) :
    o'.Accounted := by
  unfold Accounted Fresh owed at *
  cases h with
  | accept record =>
      simpa only [Multiset.cons_add, Multiset.cons_le_cons_iff] using
        haccounted
  | dispatch batch rest split =>
      rw [split] at haccounted
      rw [Multiset.sum_cons]
      calc rest + (batch + o.inFlight.sum) + o.settled
          = batch + rest + o.inFlight.sum + o.settled := by ac_rfl
        _ ≤ o.received := haccounted
  | settle batch others split =>
      rw [split, Multiset.sum_cons] at haccounted
      calc o.waiting + others.sum + (batch + o.settled)
          = o.waiting + (batch + others.sum) + o.settled := by ac_rfl
        _ ≤ o.received := haccounted
  | giveBack batch others split =>
      rw [split, Multiset.sum_cons] at haccounted
      calc o.waiting + batch + others.sum + o.settled
          = o.waiting + (batch + others.sum) + o.settled := by ac_rfl
        _ ≤ o.received := haccounted
  | resync => exact haccounted
  | recover =>
      rw [Multiset.sum_zero, add_zero]
      exact (add_le_add_left hfresh _).trans haccounted
  | purge =>
      calc 0 + o.inFlight.sum + o.settled
          ≤ o.waiting + o.inFlight.sum + o.settled :=
            add_le_add_left (add_le_add_left (Multiset.zero_le _) _) _
        _ ≤ o.received := haccounted
  | idle => exact haccounted

/--
Settling a batch keeps the durable copy complete only when no other record is
in flight; rewriting or clearing it without a settled batch only when none is
in flight at all.
-/
def KeepsCover (o : Outbox α) : Event α → Prop
  | .settle batch => o.inFlight.sum = batch
  | .resync => o.inFlight.sum = 0
  | .purge => o.inFlight.sum = 0
  | _ => True

theorem Step.covered {o o' : Outbox α} {event : Event α}
    (h : Step o event o') (hkeeps : o.KeepsCover event)
    (hcovered : o.Covered) : o'.Covered := by
  unfold Covered owed at *
  cases h with
  | accept record => simpa using hcovered
  | dispatch batch rest split =>
      rw [split] at hcovered
      rw [Multiset.sum_cons]
      calc rest + (batch + o.inFlight.sum)
          = batch + rest + o.inFlight.sum := by ac_rfl
        _ ≤ o.durable := hcovered
  | settle batch others split =>
      have hsum : others.sum = 0 := by
        have : o.inFlight.sum = batch := hkeeps
        rwa [split, Multiset.sum_cons, add_eq_left] at this
      simp [hsum]
  | giveBack batch others split =>
      rw [split, Multiset.sum_cons, ← add_assoc] at hcovered
      exact hcovered
  | resync =>
      have hsum : o.inFlight.sum = 0 := hkeeps
      simp [hsum]
  | recover => simp
  | purge =>
      have hsum : o.inFlight.sum = 0 := hkeeps
      simp [hsum]
  | idle => exact hcovered

theorem Step.not_covered {o o' : Outbox α} {event : Event α}
    (h : Step o event o') (hkeeps : ¬ o.KeepsCover event) : ¬ o'.Covered := by
  unfold Covered owed
  cases h with
  | settle batch others split =>
      intro hcovered
      have hsum : others.sum = 0 := by
        have hle : o.waiting + others.sum ≤ o.waiting + 0 := by
          simpa using hcovered
        exact Multiset.le_zero.mp (le_of_add_le_add_left hle)
      apply hkeeps
      change o.inFlight.sum = batch
      rw [split, Multiset.sum_cons, hsum, add_zero]
  | resync =>
      intro hcovered
      have hle : o.waiting + o.inFlight.sum ≤ o.waiting + 0 := by
        simpa using hcovered
      exact hkeeps (Multiset.le_zero.mp (le_of_add_le_add_left hle))
  | purge =>
      intro hcovered
      exact hkeeps (Multiset.le_zero.mp (by simpa using hcovered))
  | _ => exact absurd trivial hkeeps

end Outbox

end RevSDK.Foundation
