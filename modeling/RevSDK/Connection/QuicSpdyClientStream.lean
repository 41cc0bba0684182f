import RevSDK.Connection.HeaderFields
import RevSDK.Foundation.Runs

/-!
# The client stream under a data stream

The receiving side of a client stream: the headers, the sequencer that hands
out body bytes in order, and the ways to close.  Closing calls the visitor, so
the state holds the data stream and its entry in the session's map as well.
A frame carries the pieces of the body that it makes readable; what arrives
early stays with the sequencer and is made readable by a later frame.  Frames
that violate the protocol close the connection.
-/

namespace RevSDK

/-- What the session tells the `QUICStreamDelegate` of a request. -/
inductive DelegateCall where
  | quicSessionDidReceiveResponse (aHeaders : SpdyHeaderBlock) (aCode : Int)
  | quicSessionDidReceiveData (aData : Data)
  | quicSessionDidFinish
  | quicSessionDidFail
  deriving DecidableEq

/-- `fin` is the offset at which a frame ends the stream. -/
structure StreamFrame where
  readable : List Data
  fin : Option Nat
  deriving DecidableEq

structure QuicSpdyClientStream where
  headersDecompressed : Bool := false
  trailersDecompressed : Bool := false
  blocked : Bool := true
  readable : List Data := []
  bytesConsumed : Nat := 0
  closeOffset : Option Nat := none
  finReceived : Bool := false
  readSideClosed : Bool := false
  writeSideClosed : Bool := false
  closed : Bool := false
  contentLength : Int := -1
  responseCode : Int := 0
  responseHeaders : SpdyHeaderBlock := []
  dataLength : Nat := 0
  deriving DecidableEq

/--
`mapped` is the presence of the stream in `mStreamDelegateMap`.  `arrived` is
the body so far, as the frames have made it readable, `chunks` what was handed
to the data stream of it, and `calls` all that the data stream told its
delegate.
-/
structure StreamWorld where
  base : QuicSpdyClientStream
  stream : QUICDataStream
  mapped : Bool
  log : List DelegateCall
  arrived : List UInt8
  chunks : List Data
  calls : List StreamCall
  deriving DecidableEq

namespace QuicSpdyClientStream

def sequencerIsClosed (base : QuicSpdyClientStream) : Bool :=
  match base.closeOffset with
  | none => false
  | some offset => offset ≤ base.bytesConsumed

/-- `static_cast<int>(data_length()) > content_length_`. -/
def exceedsContentLength (base : QuicSpdyClientStream) : Bool :=
  0 ≤ base.contentLength &&
    base.contentLength < Int.bmod base.dataLength (2 ^ 32)

end QuicSpdyClientStream

namespace StreamWorld

/-- The session looks the stream up; a terminal call erases its entry. -/
def dispatch (world : StreamWorld) (call : StreamCall) : StreamWorld :=
  if world.mapped then
    match call with
    | .onQUICStreamReceivedResponse aCode aHeaders =>
        { world with
          log := world.log ++
            [.quicSessionDidReceiveResponse aHeaders aCode] }
    | .onQUICStreamReceivedData aData =>
        { world with log := world.log ++ [.quicSessionDidReceiveData aData] }
    | .onQUICStreamFailed _ =>
        { world with
          log := world.log ++ [.quicSessionDidFail], mapped := false }
    | .onQUICStreamCompleted =>
        { world with
          log := world.log ++ [.quicSessionDidFinish], mapped := false }
  else world

def perform (world : StreamWorld) (next : QUICDataStream × List StreamCall) :
    StreamWorld :=
  next.2.foldl dispatch { world with
    stream := next.1, calls := world.calls ++ next.2 }

def closeStream (world : StreamWorld) : StreamWorld :=
  if world.base.closed then world
  else
    let world := { world with
      base := { world.base with
        closed := true, readSideClosed := true, writeSideClosed := true } }
    world.perform (world.stream.onVisitorSentClose world.base.responseCode
      world.base.responseHeaders)

def closeReadSide (world : StreamWorld) : StreamWorld :=
  if world.base.readSideClosed then world
  else
    let closing := world.base.writeSideClosed
    let world := { world with base := { world.base with readSideClosed := true } }
    if closing then world.closeStream else world

def closeWriteSide (world : StreamWorld) : StreamWorld :=
  if world.base.writeSideClosed then world
  else
    let closing := world.base.readSideClosed
    let world := { world with
      base := { world.base with writeSideClosed := true } }
    if closing then world.closeStream else world

/-- Sending a reset closes the stream. -/
def reset (world : StreamWorld) : StreamWorld := world.closeStream

def onFinRead (world : StreamWorld) : StreamWorld :=
  closeReadSide { world with base := { world.base with finReceived := true } }

def addIncomingData (world : StreamWorld) (aData : Data) : StreamWorld :=
  let world := world.perform (world.stream.should_add_incoming_data aData)
  { world with
    base := { world.base with
      dataLength := world.base.dataLength + aData.length }
    chunks := world.chunks ++ [aData] }

/-- The loop of `OnDataAvailable` over the readable pieces. -/
def readPieces : List Data → StreamWorld → StreamWorld
  | [], world =>
      let world := { world with base := { world.base with readable := [] } }
      if world.base.sequencerIsClosed then world.onFinRead
      else { world with base := { world.base with blocked := false } }
  | piece :: rest, world =>
      let world := world.addIncomingData piece
      if world.base.exceedsContentLength then
        reset { world with
          base := { world.base with readable := piece :: rest } }
      else
        readPieces rest { world with
          base := { world.base with
            bytesConsumed := world.base.bytesConsumed + piece.length } }

def onDataAvailable (world : StreamWorld) : StreamWorld :=
  readPieces world.base.readable world

def setUnblocked (world : StreamWorld) : StreamWorld :=
  let world := { world with base := { world.base with blocked := false } }
  if world.base.sequencerIsClosed || !world.base.readable.isEmpty then
    world.onDataAvailable
  else world

def maybeCloseStream (world : StreamWorld) : StreamWorld :=
  if world.base.blocked || !world.base.sequencerIsClosed then world
  else
    let world := world.onDataAvailable
    { world with base := { world.base with readable := [] } }

def closeStreamAtOffset (world : StreamWorld) (offset : Nat) : StreamWorld :=
  if world.base.closeOffset.any fun scheduled => scheduled != offset then
    world.reset
  else
    maybeCloseStream { world with
      base := { world.base with closeOffset := some offset } }

def sequencerOnStreamFrame (world : StreamWorld) (frame : StreamFrame) :
    StreamWorld :=
  let world := match frame.fin with
    | some offset => world.closeStreamAtOffset offset
    | none => world
  if frame.readable.isEmpty then world
  else
    let world := { world with
      base := { world.base with
        readable := world.base.readable ++ frame.readable }
      arrived := world.arrived ++ frame.readable.flatMap Data.bytes }
    if world.base.blocked then world else world.onDataAvailable

def onStreamFrame (world : StreamWorld) (frame : StreamFrame) : StreamWorld :=
  let world := world.closeWriteSide
  let world := if frame.fin.isSome then
      { world with base := { world.base with finReceived := true } }
    else world
  let world := if world.base.readSideClosed then world
    else world.sequencerOnStreamFrame frame
  { world with stream := world.stream.onStreamFrame }

def markHeadersConsumed (world : StreamWorld) : StreamWorld :=
  world.setUnblocked

section Headers

variable (framer : SpdyFramer)

/-- `QuicSpdyClientStream::OnInitialHeadersComplete` after its base method. -/
def parseResponse (world : StreamWorld) (block : Data) : StreamWorld :=
  let (parsed, headers) := framer.parseHeaderBlockInBuffer block
  let world := { world with
    base := { world.base with responseHeaders := headers } }
  if !parsed || headers.isEmpty then world.reset
  else
    match HeaderFields.contentLength world.base.contentLength headers with
    | none => world.reset
    | some length =>
        let (valid, code) := HeaderFields.responseStatus headers
        let world := { world with
          base := { world.base with
            contentLength := length, responseCode := code } }
        if valid then world.markHeadersConsumed else world.reset

def onInitialHeadersComplete (world : StreamWorld) (block : Data)
    (fin : Bool) : StreamWorld :=
  let world := { world with
    base := { world.base with headersDecompressed := true } }
  let world := if fin then world.onStreamFrame ⟨[], some 0⟩ else world
  let world := if block.isEmpty then world.setUnblocked else world
  let world := world.parseResponse framer block
  world.perform (world.stream.onInitialHeadersComplete
    world.base.responseCode world.base.responseHeaders)

def connectionClosed (world : StreamWorld) : StreamWorld :=
  if world.base.readSideClosed && world.base.writeSideClosed then world
  else world.closeWriteSide.closeReadSide

def onTrailingHeadersComplete (world : StreamWorld) (block : Data)
    (fin : Bool) : StreamWorld :=
  let world := if world.base.finReceived || !fin then world.connectionClosed
    else { world with base := { world.base with trailersDecompressed := true } }
  match HeaderFields.finalByteOffset
      (framer.parseHeaderBlockInBuffer block) with
  | none => world.reset
  | some offset => world.onStreamFrame ⟨[], some offset⟩

def onStreamHeadersComplete (world : StreamWorld) (block : Data)
    (fin : Bool) : StreamWorld :=
  if world.base.headersDecompressed then
    world.onTrailingHeadersComplete framer block fin
  else world.onInitialHeadersComplete framer block fin

end Headers

/-- From version 29 on a reset without error lets the response go on. -/
def onStreamReset (world : StreamWorld) (noError : Bool) (version : Nat) :
    StreamWorld :=
  if !noError || version ≤ 28 then world.closeWriteSide.closeReadSide
  else world.closeWriteSide

end StreamWorld

end RevSDK
