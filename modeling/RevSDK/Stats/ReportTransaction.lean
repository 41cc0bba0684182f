import RevSDK.Connection.Data
import RevSDK.Foundation.Outcome

/-!
# Transactions and the vector that holds them

`Transaction` declares a copy constructor, a copy assignment and a destructor,
so it has no move operations: a vector of transactions copies its elements
when it grows, and `erase` copy assigns every later element to the slot before
it and destroys the last slot.  Each destroyed slot runs the assertion of
`~Transaction`.
-/

namespace RevSDK

open RevSDK.Foundation

structure Transaction where
  ID : Int
  PendingData : List Data
  deriving DecidableEq, Repr

namespace Transaction

/-- `Transaction()`: draws the next number from the static counter `gID`. -/
def create (gID : Int) : Transaction × Int := (⟨gID + 1, []⟩, gID + 1)

def copy (aOther : Transaction) : Transaction :=
  { ID := aOther.ID, PendingData := aOther.PendingData }

def assign (target other : Transaction) : Transaction :=
  { target with ID := other.ID, PendingData := other.PendingData }

/-- `~Transaction()` -/
def destroy (transaction : Transaction) : Outcome Unit :=
  assertion (transaction.PendingData.length != 0) "PendingData.size()"

@[simp] theorem copy_eq (transaction : Transaction) :
    transaction.copy = transaction := rfl

@[simp] theorem assign_eq (target other : Transaction) :
    target.assign other = other := rfl

theorem destroy_eq_ok (transaction : Transaction)
    (h : transaction.PendingData ≠ []) : transaction.destroy = .ok () := by
  cases hdata : transaction.PendingData with
  | nil => exact absurd hdata h
  | cons record records => simp [destroy, hdata]

end Transaction

/--
`std::vector<Transaction>::push_back`.  Growing the vector copies the old
slots and destroys them; the model takes the growing path every time, which
runs every destructor that `push_back` can run.
-/
def pushBack (slots : List Transaction) (transaction : Transaction) :
    Outcome (List Transaction) := do
  slots.forM Transaction.destroy
  return slots.map Transaction.copy ++ [transaction.copy]

/-- Copy assigns every slot from the slot behind it; the last slot is kept. -/
def shiftDown : List Transaction → List Transaction
  | target :: source :: rest =>
      target.assign source :: shiftDown (source :: rest)
  | rest => rest

/-- `std::vector<Transaction>::erase` at position `index`. -/
def eraseAt (slots : List Transaction) (index : Nat) :
    Outcome (List Transaction) :=
  let shifted := slots.take index ++ shiftDown (slots.drop index)
  match shifted.getLast? with
  | none => .error (.undefinedBehaviour "erase(end())")
  | some last => do
      last.destroy
      return shifted.dropLast

theorem pushBack_eq_ok (slots : List Transaction) (transaction : Transaction)
    (h : ∀ slot ∈ slots, slot.PendingData ≠ []) :
    pushBack slots transaction = .ok (slots ++ [transaction]) := by
  have hdestroy : slots.forM Transaction.destroy = .ok () :=
    Outcome.forM_eq_ok _ _ fun slot hslot => slot.destroy_eq_ok (h slot hslot)
  have hcopy : slots.map Transaction.copy = slots := List.map_id' slots
  simp [pushBack, hdestroy, hcopy, pure, Except.pure]

theorem shiftDown_cons (first : Transaction) (rest : List Transaction) :
    ∃ last, last ∈ first :: rest ∧
      shiftDown (first :: rest) = rest ++ [last] := by
  induction rest generalizing first with
  | nil => exact ⟨first, by simp, rfl⟩
  | cons second rest ih =>
      obtain ⟨last, hmem, heq⟩ := ih second
      refine ⟨last, List.mem_cons_of_mem _ hmem, ?_⟩
      simp [shiftDown, heq]

theorem eraseAt_eq_ok (slots : List Transaction) (index : Nat)
    (hindex : index < slots.length)
    (h : ∀ slot ∈ slots, slot.PendingData ≠ []) :
    eraseAt slots index = .ok (slots.eraseIdx index) := by
  obtain ⟨last, hmem, hshift⟩ :=
    shiftDown_cons slots[index] (slots.drop (index + 1))
  rw [← List.drop_eq_getElem_cons hindex] at hmem hshift
  have hlast : last.PendingData ≠ [] := h last (List.mem_of_mem_drop hmem)
  have hshifted : slots.take index ++ shiftDown (slots.drop index) =
      slots.eraseIdx index ++ [last] := by
    rw [hshift, List.eraseIdx_eq_take_drop_succ, List.append_assoc]
  simp [eraseAt, hshifted, last.destroy_eq_ok hlast, pure, Except.pure]

end RevSDK
