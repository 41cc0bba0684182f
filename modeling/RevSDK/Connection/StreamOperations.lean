import RevSDK.Connection.StreamRuns

/-!
# The operations of a stream

Whatever the library's stream does in an event, it reaches the data stream
through a few methods only: it hands over a chunk, closes, or has taken a frame
or the headers.  `Stable` is the rule for what holds across all of them.
-/

namespace RevSDK

open RevSDK.Foundation

namespace StreamWorld

structure Closing (P : StreamWorld → Prop) : Prop where
  rebase : ∀ {world : StreamWorld} {base : QuicSpdyClientStream}
    {arrived : List UInt8}, base.closed = world.base.closed →
    base.headersDecompressed = world.base.headersDecompressed → P world →
    P { world with base, arrived }
  close : ∀ {world : StreamWorld} (base : QuicSpdyClientStream),
    world.base.closed = false → base.closed = true →
    base.headersDecompressed = world.base.headersDecompressed → P world →
    P ({ world with base }.perform
      (world.stream.onVisitorSentClose base.responseCode base.responseHeaders))

/--
Kept by all operations.  The initial headers are apart: they arrive only once,
and may lead to another property.
-/
structure Stable (P : StreamWorld → Prop) : Prop extends Closing P where
  addIncomingData : ∀ {world : StreamWorld} (aData : Data), P world →
    P (world.addIncomingData aData)
  takeFrame : ∀ {world : StreamWorld}, P world →
    P { world with stream := world.stream.onStreamFrame }

namespace Closing

variable {P : StreamWorld → Prop} {world : StreamWorld}

theorem closeStream (hclosing : Closing P) (h : P world) :
    P world.closeStream := by
  unfold StreamWorld.closeStream
  split
  · exact h
  next hopen =>
    exact @Closing.close P hclosing world _ (by simpa using hopen) rfl rfl h

theorem closeReadSide (hclosing : Closing P) (h : P world) :
    P world.closeReadSide := by
  unfold StreamWorld.closeReadSide
  split
  · exact h
  · dsimp only
    split
    · exact hclosing.closeStream (hclosing.rebase rfl rfl h)
    · exact hclosing.rebase rfl rfl h

theorem closeWriteSide (hclosing : Closing P) (h : P world) :
    P world.closeWriteSide := by
  unfold StreamWorld.closeWriteSide
  split
  · exact h
  · dsimp only
    split
    · exact hclosing.closeStream (hclosing.rebase rfl rfl h)
    · exact hclosing.rebase rfl rfl h

theorem connectionClosed (hclosing : Closing P) (h : P world) :
    P world.connectionClosed := by
  unfold StreamWorld.connectionClosed
  split
  · exact h
  · exact hclosing.closeReadSide (hclosing.closeWriteSide h)

theorem onStreamReset (hclosing : Closing P) (noError : Bool) (version : Nat)
    (h : P world) : P (world.onStreamReset noError version) := by
  unfold StreamWorld.onStreamReset
  split
  · exact hclosing.closeReadSide (hclosing.closeWriteSide h)
  · exact hclosing.closeWriteSide h

end Closing

namespace Stable

variable {P : StreamWorld → Prop} {world : StreamWorld}

/-- Induction on the pieces: each is added before the next is read. -/
theorem readPieces (hstable : Stable P) (pieces : List Data) (h : P world) :
    P (readPieces pieces world) := by
  induction pieces generalizing world with
  | nil =>
      have hempty : P { world with
          base := { world.base with readable := [] } } :=
        hstable.rebase rfl rfl h
      unfold StreamWorld.readPieces
      dsimp only
      split
      · exact hstable.closeReadSide (hstable.rebase rfl rfl hempty)
      · exact hstable.rebase rfl rfl h
  | cons piece pieces ih =>
      have hadded := hstable.addIncomingData piece h
      unfold StreamWorld.readPieces
      dsimp only
      split
      · exact hstable.closeStream (hstable.rebase rfl rfl hadded)
      · exact ih (hstable.rebase rfl rfl hadded)

theorem setUnblocked (hstable : Stable P) (h : P world) :
    P world.setUnblocked := by
  unfold StreamWorld.setUnblocked
  dsimp only
  split
  · exact hstable.readPieces _ (hstable.rebase rfl rfl h)
  · exact hstable.rebase rfl rfl h

theorem closeStreamAtOffset (hstable : Stable P) (offset : Nat)
    (h : P world) : P (world.closeStreamAtOffset offset) := by
  unfold StreamWorld.closeStreamAtOffset
  split
  · exact hstable.closeStream h
  · unfold StreamWorld.maybeCloseStream
    split
    · exact hstable.rebase rfl rfl h
    · exact hstable.rebase rfl rfl
        (hstable.readPieces _ (hstable.rebase rfl rfl h))

theorem sequencerOnStreamFrame (hstable : Stable P) (frame : StreamFrame)
    (h : P world) : P (world.sequencerOnStreamFrame frame) := by
  obtain ⟨readable, fin⟩ := frame
  have hreads : ∀ {ended : StreamWorld}, P ended →
      P (ended.sequencerOnStreamFrame ⟨readable, none⟩) := by
    intro ended hended
    unfold StreamWorld.sequencerOnStreamFrame
    dsimp only
    split
    · exact hended
    · split
      · exact hstable.rebase rfl rfl hended
      · exact hstable.readPieces _ (hstable.rebase rfl rfl hended)
  cases fin with
  | none => exact hreads h
  | some offset => exact hreads (hstable.closeStreamAtOffset offset h)

theorem onStreamFrame (hstable : Stable P) (frame : StreamFrame)
    (h : P world) : P (world.onStreamFrame frame) := by
  have hwritten := hstable.closeWriteSide h
  unfold StreamWorld.onStreamFrame
  dsimp only
  refine hstable.takeFrame ?_
  split
  · split
    · exact hstable.rebase rfl rfl hwritten
    · exact hstable.sequencerOnStreamFrame frame
        (hstable.rebase rfl rfl hwritten)
  · split
    · exact hwritten
    · exact hstable.sequencerOnStreamFrame frame hwritten

section Headers

variable (framer : SpdyFramer)

theorem parseResponse (hstable : Stable P) (block : Data) (h : P world) :
    P (world.parseResponse framer block) := by
  unfold StreamWorld.parseResponse
  dsimp only
  split
  · exact hstable.closeStream (hstable.rebase rfl rfl h)
  · split
    · exact hstable.closeStream (hstable.rebase rfl rfl h)
    · split
      · exact hstable.setUnblocked
          (hstable.rebase rfl rfl (hstable.rebase rfl rfl h))
      · exact hstable.closeStream
          (hstable.rebase rfl rfl (hstable.rebase rfl rfl h))

theorem onInitialHeadersComplete (hstable : Stable P)
    {Q : StreamWorld → Prop}
    (hdeliver : ∀ {world : StreamWorld} (code : Int)
      (headers : SpdyHeaderBlock), P world →
      Q (world.perform (world.stream.onInitialHeadersComplete code headers)))
    (block : Data) (fin : Bool)
    (harrived : P { world with
      base := { world.base with headersDecompressed := true } }) :
    Q (world.onInitialHeadersComplete framer block fin) := by
  unfold StreamWorld.onInitialHeadersComplete
  dsimp only
  refine hdeliver _ _ (hstable.parseResponse framer block ?_)
  split
  · refine hstable.setUnblocked ?_
    split
    · exact hstable.onStreamFrame _ harrived
    · exact harrived
  · split
    · exact hstable.onStreamFrame _ harrived
    · exact harrived

theorem onTrailingHeadersComplete (hstable : Stable P) (block : Data)
    (fin : Bool) (h : P world) :
    P (world.onTrailingHeadersComplete framer block fin) := by
  have htrailers : P (if world.base.finReceived || !fin then
      world.connectionClosed
    else { world with
      base := { world.base with trailersDecompressed := true } }) := by
    split
    · exact hstable.connectionClosed h
    · exact hstable.rebase rfl rfl h
  unfold StreamWorld.onTrailingHeadersComplete
  dsimp only
  split
  · exact hstable.closeStream htrailers
  · exact hstable.onStreamFrame _ htrailers

theorem react (hstable : Stable P)
    (hheaders : ∀ block fin, world.base.headersDecompressed = false →
      P (world.onInitialHeadersComplete framer block fin))
    (htick : ∀ aNowMS, P (world.perform (world.stream.update aNowMS)))
    (herror : ∀ aError,
      P (world.perform (world.stream.onSocketError aError)))
    (event : StreamEvent) (h : P world) : P (world.react framer event) := by
  cases event with
  | headersComplete block fin =>
      unfold StreamWorld.react onStreamHeadersComplete
      dsimp only
      split
      · exact hstable.onTrailingHeadersComplete framer block fin h
      next harrived => exact hheaders block fin (by simpa using harrived)
  | streamFrame frame => exact hstable.onStreamFrame frame h
  | streamReset noError version =>
      exact hstable.onStreamReset noError version h
  | connectionClosed => exact hstable.connectionClosed h
  | requestWritten => exact hstable.closeWriteSide h
  | update aNowMS => exact htick aNowMS
  | onSocketError aError => exact herror aError

end Headers

end Stable

end StreamWorld

end RevSDK
