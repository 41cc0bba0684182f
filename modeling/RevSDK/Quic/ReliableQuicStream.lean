import RevSDK.Quic.QuicFlowController

/-!
# Reliable streams

A stream queues the data that its session does not take at once, and passes
the frames of its peer to a sequencer.  The operations work on the stream and
on the flow controller of its connection, and record what they have the
connection, the session and the subclass do.
-/

namespace RevSDK

open RevSDK.Foundation QuicStreamSequencerBufferInterface

structure QuicStreamSequencer (β : Type) where
  bufferedFrames : β
  closeOffset : Nat := maxStreamOffset
  blocked : Bool := false
  numFramesReceived : Nat := 0
  numDuplicateFramesReceived : Nat := 0
  numEarlyFramesReceived : Nat := 0
  ignoreReadData : Bool := false
  deriving DecidableEq

structure PendingData where
  data : List UInt8
  offset : Nat := 0
  deriving DecidableEq

structure ReliableQuicStream (β : Type) where
  id : Nat
  sequencer : QuicStreamSequencer β
  flowController : QuicFlowController
  streamContributesToConnectionFlowControl : Bool := true
  queuedData : List PendingData := []
  queuedDataBytes : Nat := 0
  streamBytesRead : Nat := 0
  streamBytesWritten : Nat := 0
  streamError : QuicRstStreamErrorCode := .noError
  readSideClosed : Bool := false
  writeSideClosed : Bool := false
  finBuffered : Bool := false
  finSent : Bool := false
  finReceived : Bool := false
  rstSent : Bool := false
  deriving DecidableEq

structure QuicConsumedData where
  bytesConsumed : Nat
  finConsumed : Bool
  deriving DecidableEq

/-- What the session takes at an offset of so many bytes, and of a FIN. -/
abbrev SessionWriter := Nat → Nat → Bool → QuicConsumedData

structure QuicStreamFrame where
  offset : Nat
  data : List UInt8
  fin : Bool
  deriving DecidableEq

structure StreamContext (β : Type) where
  stream : ReliableQuicStream β
  connectionFlowController : QuicFlowController
  calls : List TransportCall := []
  deriving DecidableEq

namespace StreamContext

variable {β : Type}

def tell (context : StreamContext β) (call : TransportCall) :
    StreamContext β :=
  { context with calls := context.calls ++ [call] }

def onStreamController (context : StreamContext β)
    (operation : QuicFlowController →
      QuicFlowController × List TransportCall) : StreamContext β :=
  let (flowController, calls) := operation context.stream.flowController
  { context with
    stream := { context.stream with flowController }
    calls := context.calls ++ calls }

def onConnectionController (context : StreamContext β)
    (operation : QuicFlowController →
      QuicFlowController × List TransportCall) : StreamContext β :=
  if context.stream.streamContributesToConnectionFlowControl then
    let (connectionFlowController, calls) :=
      operation context.connectionFlowController
    { context with
      connectionFlowController, calls := context.calls ++ calls }
  else context

def closeReadSide (context : StreamContext β) : StreamContext β :=
  if context.stream.readSideClosed then context
  else
    let context := { context with
      stream := { context.stream with readSideClosed := true } }
    if context.stream.writeSideClosed then
      context.tell (.closeStream context.stream.id)
    else context

def closeWriteSide (context : StreamContext β) : StreamContext β :=
  if context.stream.writeSideClosed then context
  else
    let context := { context with
      stream := { context.stream with writeSideClosed := true } }
    if context.stream.readSideClosed then
      context.tell (.closeStream context.stream.id)
    else context

/-- The session closes the stream when it sends the reset. -/
def reset (context : StreamContext β) (error : QuicRstStreamErrorCode) :
    StreamContext β :=
  let context := { context with
    stream := { context.stream with streamError := error, rstSent := true } }
  context.tell (.sendRstStream context.stream.id error
    context.stream.streamBytesWritten)

def onFinRead (context : StreamContext β) : StreamContext β :=
  closeReadSide { context with
    stream := { context.stream with finReceived := true } }

/-! ## Writing -/

def addBytesSent (context : StreamContext β) (bytes : Nat) : StreamContext β :=
  (context.onStreamController (·.addBytesSent bytes)).onConnectionController
    (·.addBytesSent bytes)

def maybeSendBlocked (context : StreamContext β) : StreamContext β :=
  let context := context.onStreamController (·.maybeSendBlocked)
  if !context.stream.streamContributesToConnectionFlowControl then context
  else
    let context := context.onConnectionController (·.maybeSendBlocked)
    if context.connectionFlowController.isBlocked &&
        !context.stream.flowController.isBlocked then
      context.tell (.markConnectionLevelWriteBlocked context.stream.id)
    else context

def sendWindow (context : StreamContext β) : Nat :=
  if context.stream.streamContributesToConnectionFlowControl then
    min context.stream.flowController.sendWindowSize
      context.connectionFlowController.sendWindowSize
  else context.stream.flowController.sendWindowSize

def onFinTaken (context : StreamContext β) : StreamContext β :=
  let context := { context with
    stream := { context.stream with finSent := true } }
  let context := if context.stream.finReceived then
      context.tell (.streamDraining context.stream.id)
    else context
  context.closeWriteSide

def finishWrite (context : StreamContext β) (writeLength : Nat)
    (fin finWithZeroData : Bool) (consumed : QuicConsumedData) :
    StreamContext β :=
  if consumed.bytesConsumed = writeLength then
    let context := if finWithZeroData then context
      else context.maybeSendBlocked
    if fin && consumed.finConsumed then context.onFinTaken
    else if fin then
      context.tell (.markConnectionLevelWriteBlocked context.stream.id)
    else context
  else context.tell (.markConnectionLevelWriteBlocked context.stream.id)

def handOver (context : StreamContext β) (data : List UInt8)
    (consumed : QuicConsumedData) : StreamContext β :=
  let offset := context.stream.streamBytesWritten
  let context := context.tell (.sendStreamData context.stream.id offset
    (data.take consumed.bytesConsumed) consumed.finConsumed)
  let context := { context with
    stream := { context.stream with
      streamBytesWritten := offsetSum offset consumed.bytesConsumed } }
  context.addBytesSent consumed.bytesConsumed

def writevData (context : StreamContext β) (session : SessionWriter)
    (data : List UInt8) (fin : Bool) : QuicConsumedData × StreamContext β :=
  if context.stream.writeSideClosed then (⟨0, false⟩, context)
  else
    let finWithZeroData := fin && data.isEmpty
    let sendWindow := context.sendWindow
    if sendWindow = 0 ∧ !finWithZeroData then
      (⟨0, false⟩, context.maybeSendBlocked)
    else
      let fin := fin && !decide (data.length > sendWindow)
      let writeLength := min data.length sendWindow
      let consumed :=
        session context.stream.streamBytesWritten writeLength fin
      (consumed, (context.handOver data consumed).finishWrite writeLength fin
        finWithZeroData consumed)

def writeOrBufferData (context : StreamContext β) (session : SessionWriter)
    (data : List UInt8) (fin : Bool) : StreamContext β :=
  if data.isEmpty && !fin then context
  else if context.stream.finBuffered then context
  else if context.stream.writeSideClosed then context
  else
    let context := { context with
      stream := { context.stream with finBuffered := fin } }
    let (consumed, context) :=
      if context.stream.queuedData.isEmpty then
        context.writevData session data fin
      else (⟨0, false⟩, context)
    if consumed.bytesConsumed < data.length ∨
        fin && !consumed.finConsumed then
      let remainder := data.drop consumed.bytesConsumed
      { context with
        stream := { context.stream with
          queuedDataBytes :=
            offsetSum context.stream.queuedDataBytes remainder.length
          queuedData := context.stream.queuedData ++ [⟨remainder, 0⟩] } }
    else context

def withQueue (context : StreamContext β) (queuedData : List PendingData) :
    StreamContext β :=
  { context with stream := { context.stream with queuedData } }

def sendQueued (session : SessionWriter) :
    List PendingData → StreamContext β → StreamContext β
  | [], context => context.withQueue []
  | pending :: rest, context =>
      let fin := rest.isEmpty && context.stream.finBuffered
      if pending.offset > 0 ∧ pending.offset ≥ pending.data.length then
        context.withQueue (pending :: rest)
      else
        let remaining := pending.data.drop pending.offset
        let (consumed, context) := context.writevData session remaining fin
        let context := { context with
          stream := { context.stream with
            queuedDataBytes := offsetDifference
              context.stream.queuedDataBytes consumed.bytesConsumed } }
        if consumed.bytesConsumed = remaining.length ∧
            fin = consumed.finConsumed then
          sendQueued session rest context
        else
          context.withQueue ({ pending with
            offset := pending.offset + consumed.bytesConsumed } :: rest)

def onCanWrite (context : StreamContext β) (session : SessionWriter) :
    StreamContext β :=
  sendQueued session context.stream.queuedData context

def onWindowUpdateFrame (context : StreamContext β) (session : SessionWriter)
    (byteOffset : Nat) : StreamContext β :=
  let (unblocked, flowController) :=
    context.stream.flowController.updateSendWindowOffset byteOffset
  let context := { context with
    stream := { context.stream with flowController } }
  if unblocked then context.onCanWrite session else context

/-! ## Reading -/

variable [QuicStreamSequencerBufferInterface β]

def addBytesConsumed (context : StreamContext β) (timing : QuicTiming)
    (bytes : Nat) : StreamContext β :=
  let context := if context.stream.readSideClosed then context
    else context.onStreamController (·.addBytesConsumed timing bytes)
  context.onConnectionController (·.addBytesConsumed timing bytes)

def withSequencer (context : StreamContext β)
    (sequencer : QuicStreamSequencer β) : StreamContext β :=
  { context with stream := { context.stream with sequencer } }

def withBuffer (context : StreamContext β) (bufferedFrames : β) :
    StreamContext β :=
  context.withSequencer { context.stream.sequencer with bufferedFrames }

def isClosed (context : StreamContext β) : Bool :=
  bytesConsumed context.stream.sequencer.bufferedFrames ≥
    context.stream.sequencer.closeOffset

/-- The subclass reads when it likes, here or later. -/
def maybeCloseStream (context : StreamContext β) : StreamContext β :=
  if context.stream.sequencer.blocked || !context.isClosed then context
  else
    let context := if context.stream.sequencer.ignoreReadData then
        context.onFinRead
      else context.tell (.onDataAvailable context.stream.id)
    context.withBuffer (clear context.stream.sequencer.bufferedFrames)

def closeStreamAtOffset (context : StreamContext β) (offset : Nat) :
    StreamContext β :=
  if context.stream.sequencer.closeOffset ≠ maxStreamOffset ∧
      offset ≠ context.stream.sequencer.closeOffset then
    context.reset .multipleTerminationOffsets
  else
    maybeCloseStream (context.withSequencer
      { context.stream.sequencer with closeOffset := offset })

def flushBufferedFrames (context : StreamContext β) (timing : QuicTiming) :
    Outcome (StreamContext β) := do
  let (bytesFlushed, buffer) ←
    QuicStreamSequencerBufferInterface.flushBufferedFrames
      context.stream.sequencer.bufferedFrames
  return ((context.withBuffer buffer).addBytesConsumed timing
    bytesFlushed).maybeCloseStream

def onBuffered (context : StreamContext β) (timing : QuicTiming)
    (offset : Nat) (result : QuicErrorCode) (bytesWritten : Nat) :
    Outcome (StreamContext β) :=
  let sequencer := context.stream.sequencer
  if result = .invalidStreamData then
    return context.tell (.sendConnectionClose .invalidStreamFrame
      "Stream frame overlaps with buffered data.")
  else if result = .noError ∧ bytesWritten = 0 then
    return context.withSequencer { sequencer with
      numDuplicateFramesReceived := sequencer.numDuplicateFramesReceived + 1 }
  else
    let consumed := bytesConsumed sequencer.bufferedFrames
    let context := if offset > consumed then
        context.withSequencer { sequencer with
          numEarlyFramesReceived := sequencer.numEarlyFramesReceived + 1 }
      else context
    if sequencer.blocked then return context
    else if offset = consumed then
      if sequencer.ignoreReadData then context.flushBufferedFrames timing
      else return context.tell (.onDataAvailable context.stream.id)
    else return context

def sequencerOnStreamFrame (context : StreamContext β) (timing : QuicTiming)
    (frame : QuicStreamFrame) : Outcome (StreamContext β) := do
  let sequencer := context.stream.sequencer
  let context := context.withSequencer { sequencer with
    numFramesReceived := sequencer.numFramesReceived + 1 }
  if frame.data.isEmpty && !frame.fin then
    return context.tell (.sendConnectionClose .invalidStreamFrame
      "Empty stream frame without FIN set.")
  else
    let context := if frame.fin then
        context.closeStreamAtOffset (offsetSum frame.offset frame.data.length)
      else context
    if frame.data.isEmpty then return context
    else
      let (result, bytesWritten, buffer) ← onStreamData
        context.stream.sequencer.bufferedFrames frame.offset frame.data
        timing.now
      (context.withBuffer buffer).onBuffered timing frame.offset result
        bytesWritten

def maybeIncreaseHighestReceivedOffset (context : StreamContext β)
    (newOffset : Nat) : Bool × StreamContext β :=
  let increment := offsetDifference newOffset
    context.stream.flowController.highestReceivedByteOffset
  let (increased, flowController) :=
    context.stream.flowController.updateHighestReceivedOffset newOffset
  if !increased then (false, context)
  else
    let context := { context with
      stream := { context.stream with flowController } }
    (true, context.onConnectionController fun controller =>
      ((controller.updateHighestReceivedOffset
        (offsetSum controller.highestReceivedByteOffset increment)).2, []))

def onStreamFrame (context : StreamContext β) (timing : QuicTiming)
    (frame : QuicStreamFrame) : Outcome (StreamContext β) :=
  let context := if frame.fin then
      let context := { context with
        stream := { context.stream with finReceived := true } }
      if context.stream.finSent then
        context.tell (.streamDraining context.stream.id)
      else context
    else context
  if context.stream.readSideClosed then return context
  else
    let context := { context with
      stream := { context.stream with
        streamBytesRead :=
          offsetSum context.stream.streamBytesRead frame.data.length } }
    let (increased, context) := context.maybeIncreaseHighestReceivedOffset
      (offsetSum frame.offset frame.data.length)
    if increased && (context.stream.flowController.flowControlViolation ||
        context.connectionFlowController.flowControlViolation) then
      return context.tell (.sendConnectionClose
        .flowControlReceivedTooMuchData
        "Flow control violation after increasing offset")
    else context.sequencerOnStreamFrame timing frame

def readv (context : StreamContext β) (timing : QuicTiming)
    (destinations : List Nat) : Outcome (List UInt8 × StreamContext β) := do
  let (bytes, buffer) ← QuicStreamSequencerBufferInterface.readv
    context.stream.sequencer.bufferedFrames destinations
  return (bytes,
    (context.withBuffer buffer).addBytesConsumed timing bytes.length)

def markConsumed (context : StreamContext β) (timing : QuicTiming)
    (numBytesConsumed : Nat) : Outcome (StreamContext β) := do
  let (result, buffer) ← QuicStreamSequencerBufferInterface.markConsumed
    context.stream.sequencer.bufferedFrames numBytesConsumed
  let context := context.withBuffer buffer
  if !result then return context.reset .errorProcessingStream
  else return context.addBytesConsumed timing numBytesConsumed

def setBlockedUntilFlush (context : StreamContext β) : StreamContext β :=
  context.withSequencer { context.stream.sequencer with blocked := true }

def setUnblocked (context : StreamContext β) : Outcome (StreamContext β) := do
  let context := context.withSequencer
    { context.stream.sequencer with blocked := false }
  let readable ← hasBytesToRead context.stream.sequencer.bufferedFrames
  if context.isClosed || readable then
    return context.tell (.onDataAvailable context.stream.id)
  else return context

def stopReading (context : StreamContext β) (timing : QuicTiming) :
    Outcome (StreamContext β) :=
  if context.stream.sequencer.ignoreReadData then return context
  else
    flushBufferedFrames (context.withSequencer
      { context.stream.sequencer with ignoreReadData := true }) timing

end StreamContext

end RevSDK
