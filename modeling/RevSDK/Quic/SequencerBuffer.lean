import Mathlib.Algebra.GroupWithZero.Nat
import RevSDK.Foundation.Outcome
import RevSDK.Foundation.Reassembly

/-!
# Sequencer buffers

A stream's sequencer keeps early data in a buffer behind one interface, which
the library implements twice.  `Implements` says what both implementations
make of the reassembly of a stream whose frames end at `limit` at the latest.
Offsets and times are numbers; times are microseconds of the clock.
-/

namespace RevSDK

open RevSDK.Foundation

inductive QuicErrorCode where
  | noError
  | internalError
  | invalidStreamData
  | invalidStreamFrame
  | flowControlReceivedTooMuchData
  | flowControlSentTooMuchData
  deriving DecidableEq, Repr

/-- `std::numeric_limits<QuicStreamOffset>::max()`. -/
def maxStreamOffset : Nat := 2 ^ 64 - 1

def offsetSum (offset size : Nat) : Nat := (offset + size) % 2 ^ 64

theorem offsetSum_eq {offset size : Nat}
    (hlt : offset + size < maxStreamOffset) :
    offsetSum offset size = offset + size := by
  unfold maxStreamOffset at hlt
  exact Nat.mod_eq_of_lt (by omega)

def offsetDifference (offset size : Nat) : Nat :=
  (offset + 2 ^ 64 - size) % 2 ^ 64

theorem offsetDifference_eq {offset size : Nat} (hle : size ≤ offset)
    (hlt : offset < maxStreamOffset) :
    offsetDifference offset size = offset - size := by
  unfold maxStreamOffset at hlt
  unfold offsetDifference
  rw [show offset + 2 ^ 64 - size = offset - size + 2 ^ 64 by omega,
    Nat.add_mod_right]
  exact Nat.mod_eq_of_lt (by omega)

/-- Two pieces that share a place are one piece. -/
def CutOnce (Piece : Nat → Nat → Prop) : Prop :=
  ∀ ⦃offset length offset' length' : Nat⦄, Piece offset length →
    Piece offset' length' → offset < offset' + length' →
    offset' < offset + length → offset = offset' ∧ length = length'

class QuicStreamSequencerBufferInterface (β : Type) where
  clear : β → β
  empty : β → Bool
  onStreamData : β → Nat → List UInt8 → Nat →
    Outcome (QuicErrorCode × Nat × β)
  readv : β → List Nat → Outcome (List UInt8 × β)
  getReadableRegions : β → Nat → Outcome (List (List UInt8))
  getReadableRegion : β → Outcome (Option (List UInt8 × Nat))
  markConsumed : β → Nat → Outcome (Bool × β)
  flushBufferedFrames : β → Outcome (Nat × β)
  hasBytesToRead : β → Outcome Bool
  bytesConsumed : β → Nat
  bytesBuffered : β → Nat

open QuicStreamSequencerBufferInterface

/-- Under `Shows`, every operation is one of the reassembly. -/
structure Implements {β : Type} [QuicStreamSequencerBufferInterface β]
    (limit : Nat) (Shows : β → Reassembly UInt8 → Prop) : Prop where
  consumed : ∀ {buffer state}, Shows buffer state →
    bytesConsumed buffer = state.consumed
  accept : ∀ {buffer state}, Shows buffer state →
    ∀ {offset : Nat} {data : List UInt8} (timestamp : Nat),
    data ≠ [] → offset + data.length ≤ limit →
    ∃ code buffered next,
      onStreamData buffer offset data timestamp = .ok (code, buffered, next) ∧
      (code = .noError ∧ buffered = data.length ∧
          state.Fresh offset data.length ∧
          Shows next (state.arrive offset data) ∨
        buffered = 0 ∧ next = buffer)
  front : ∀ {buffer state}, Shows buffer state → ∃ count, state.Front count ∧
    hasBytesToRead buffer = .ok (decide (0 < count))
  regions : ∀ {buffer state}, Shows buffer state →
    ∀ {iovCount : Nat}, 0 < iovCount → ∃ regions,
      getReadableRegions buffer iovCount = .ok regions ∧
      regions.length ≤ iovCount ∧ [] ∉ regions ∧
      Holds state.content state.consumed regions.flatten ∧
      (regions = [] ↔ state.Front 0)
  region : ∀ {buffer state}, Shows buffer state →
    state.Front 0 ∧ getReadableRegion buffer = .ok none ∨
    ∃ bytes timestamp,
      getReadableRegion buffer = .ok (some (bytes, timestamp)) ∧
      bytes ≠ [] ∧ Holds state.content state.consumed bytes
  consume : ∀ {buffer state}, Shows buffer state →
    ∀ {count : Nat}, state.Readable count → ∃ next,
      markConsumed buffer count = .ok (true, next) ∧
      Shows next (state.consume count)
  read : ∀ {buffer state}, Shows buffer state → ∀ (destinations : List Nat),
    ∃ bytes next, readv buffer destinations = .ok (bytes, next) ∧
      Holds state.content state.consumed bytes ∧
      (∀ count, state.Front count →
        bytes.length = min destinations.sum count) ∧
      Shows next (state.consume bytes.length)
  flush : ∀ {buffer state}, Shows buffer state → ∃ finish next,
    state.Ends finish ∧
    flushBufferedFrames buffer = .ok (finish - state.consumed, next) ∧
    Shows next (state.skipTo finish)
  clears : ∀ {buffer state}, Shows buffer state →
    Shows (clear buffer) (state.skipTo state.consumed)

end RevSDK
