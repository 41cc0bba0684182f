import RevSDK.Quic.QuicSession
import RevSDK.Quic.StreamReading

/-!
# A session that reads its streams

The frames of the peer and the calls of the application reach the streams of a
session one by one.  Each of them keeps what the stream has received, and has
the session say nothing that ends the connection.
-/

namespace RevSDK

open RevSDK.Foundation QuicStreamSequencerBufferInterface

inductive ReadingCall where
  | onStreamFrame (frame : QuicStreamFrame)
  | readv (destinations : List Nat)
  | takeRegions (iovCount count : Nat)
  | setBlockedUntilFlush
  | setUnblocked
  | onFinRead
  | stopReading
  deriving DecidableEq

def ReadingCall.frames : ReadingCall → List QuicStreamFrame
  | .onStreamFrame frame => [frame]
  | _ => []

section Calls

variable {β : Type} [QuicStreamSequencerBufferInterface β]

def StreamContext.takeRegions (context : StreamContext β) (timing : QuicTiming)
    (iovCount count : Nat) : Outcome (List UInt8 × StreamContext β) := do
  let regions ← getReadableRegions context.stream.sequencer.bufferedFrames
    iovCount
  let bytes := regions.flatten.take count
  let context ← context.markConsumed timing bytes.length
  return (bytes, context)

def StreamContext.perform (context : StreamContext β) (timing : QuicTiming) :
    ReadingCall → Outcome (List UInt8 × StreamContext β)
  | .onStreamFrame frame =>
      (context.onStreamFrame timing frame).map ([], ·)
  | .readv destinations => context.readv timing destinations
  | .takeRegions iovCount count => context.takeRegions timing iovCount count
  | .setBlockedUntilFlush => return ([], context.setBlockedUntilFlush)
  | .setUnblocked => context.setUnblocked.map ([], ·)
  | .onFinRead => return ([], context.onFinRead)
  | .stopReading => (context.stopReading timing).map ([], ·)

def QuicSession.receive (session : QuicSession β) (id : Nat)
    (timing : QuicTiming) (call : ReadingCall) :
    Outcome (List UInt8 × QuicSession β) := do
  let (bytes, context) ← (session.context id).perform timing call
  let session ← session.adopt id context
  return (bytes, session)

end Calls

section Reading

variable {layout : BufferLayout} {Piece : Nat → Nat → Prop}
  {exchange : Exchange}
  {context : StreamContext (StreamSequencerBuffer layout)}
  {state : Reassembly UInt8} {output : List UInt8}

def ReadingCall.Suits (Piece : Nat → Nat → Prop) (exchange : Exchange)
    (context : StreamContext (StreamSequencerBuffer layout)) :
    ReadingCall → Prop
  | .onStreamFrame frame => Admitted Piece exchange frame
  | .takeRegions iovCount _ => 0 < iovCount
  | .onFinRead => context.isClosed = true
  | _ => True

theorem Receiving.takeRegions
    (h : Receiving Piece exchange context state output)
    (hfair : exchange.Fair)
    (hlimit : exchange.limit + layout.maxBufferCapacityBytes +
      layout.maxBufferCapacityBytes < maxStreamOffset)
    (timing : QuicTiming) {iovCount : Nat} (hiov : 0 < iovCount)
    (count : Nat) :
    ∃ bytes next, context.takeRegions timing iovCount count =
        .ok (bytes, next) ∧
      Receiving Piece exchange next (state.consume bytes.length)
        (output ++ bytes) ∧
      Reassembly.Grows state (state.consume bytes.length) := by
  obtain ⟨regions, hregions, -, -, hholds, -⟩ :=
    (streamSequencerBuffer_implements hlimit).regions h.shows hiov
  obtain ⟨next, hmark, hnext, hgrows⟩ :=
    h.markConsumed hfair (by omega) timing (hholds.take count)
  refine ⟨_, next, ?_, hnext, hgrows⟩
  unfold StreamContext.takeRegions
  rw [hregions, Outcome.ok_bind]
  dsimp only
  rw [hmark]
  rfl

theorem Receiving.quiet {next : StreamContext (StreamSequencerBuffer layout)}
    {moved : Reassembly UInt8}
    (h : Receiving Piece exchange next moved output)
    (hgrows : Reassembly.Grows state moved) {call : ReadingCall}
    (hcall : call.frames = []) :
    Receiving Piece (exchange.hear (call.frames.any (·.fin))) next moved
        output ∧
      Reassembly.Grows state moved ∧
      ∀ frame ∈ call.frames, ∀ index < frame.data.length,
        moved.Settled (frame.offset + index) := by
  rw [hcall, List.any_nil, Exchange.hear_false]
  exact ⟨h, hgrows, by simp⟩

theorem Receiving.perform (h : Receiving Piece exchange context state output)
    (hfair : exchange.Fair) (hcut : CutOnce Piece)
    (hcapacity : kStreamReceiveWindowLimit ≤ layout.maxBufferCapacityBytes)
    (hlimit : exchange.limit + layout.maxBufferCapacityBytes +
      layout.maxBufferCapacityBytes < maxStreamOffset)
    (timing : QuicTiming) {call : ReadingCall}
    (hsuits : call.Suits Piece exchange context) :
    ∃ bytes next moved, context.perform timing call = .ok (bytes, next) ∧
      Receiving Piece (exchange.hear (call.frames.any (·.fin))) next moved
        (output ++ bytes) ∧
      Reassembly.Grows state moved ∧
      ∀ frame ∈ call.frames, ∀ index < frame.data.length,
        moved.Settled (frame.offset + index) := by
  have hshort : exchange.limit < maxStreamOffset := by omega
  have hsilent := List.append_nil output
  cases call with
  | onStreamFrame frame =>
      obtain ⟨next, moved, hdone, hnext, hgrows, hall⟩ :=
        h.onStreamFrame hfair hcut hcapacity hlimit timing hsuits
      refine ⟨[], next, moved, ?_, ?_, hgrows, ?_⟩
      · rw [StreamContext.perform, hdone]
        rfl
      · simpa [ReadingCall.frames] using hnext
      · simpa [ReadingCall.frames] using hall
  | readv destinations =>
      obtain ⟨bytes, next, hdone, hnext, hgrows⟩ :=
        h.readv hfair hshort timing destinations
      exact ⟨bytes, next, _, hdone, hnext.quiet hgrows rfl⟩
  | takeRegions iovCount count =>
      obtain ⟨bytes, next, hdone, hnext, hgrows⟩ :=
        h.takeRegions hfair hlimit timing hsuits count
      exact ⟨bytes, next, _, hdone, hnext.quiet hgrows rfl⟩
  | setBlockedUntilFlush =>
      have hblocked : Receiving Piece exchange context.setBlockedUntilFlush
        state output := h.sequencer rfl rfl rfl
      refine ⟨[], context.setBlockedUntilFlush, state, rfl, ?_⟩
      rw [hsilent]
      exact hblocked.quiet .refl rfl
  | setUnblocked =>
      obtain ⟨next, hdone, hnext⟩ := h.setUnblocked hlimit
      refine ⟨[], next, state, ?_, ?_⟩
      · rw [StreamContext.perform, hdone]
        rfl
      · rw [hsilent]
        exact hnext.quiet .refl rfl
  | onFinRead =>
      refine ⟨[], context.onFinRead, state, rfl, ?_⟩
      rw [hsilent]
      exact (h.onFinRead (h.ended hfair hshort hsuits)).quiet .refl rfl
  | stopReading =>
      obtain ⟨next, moved, hdone, hnext, hgrows⟩ :=
        h.stopReading hfair hshort timing
      refine ⟨[], next, moved, ?_, ?_⟩
      · rw [StreamContext.perform, hdone]
        rfl
      · rw [hsilent]
        exact hnext.quiet hgrows rfl

end Reading

end RevSDK
