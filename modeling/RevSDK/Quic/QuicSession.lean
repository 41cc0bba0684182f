import RevSDK.Quic.QuicWriteBlockedList
import RevSDK.Quic.ReliableQuicStream

/-!
# The session of the streams

The session keeps the streams, the flow controller of the connection and the
list of the streams that wait to write.  What an operation on a stream has the
session do is carried out when it is over, in the order of the calls.
-/

namespace RevSDK

open RevSDK.Foundation

structure QuicSession (β : Type) where
  streams : Nat → ReliableQuicStream β
  flowController : QuicFlowController
  writeBlockedStreams : QuicWriteBlockedList := {}
  calls : List TransportCall := []

namespace QuicSession

variable {α β : Type}

def markConnectionLevelWriteBlocked (session : QuicSession β) (id : Nat) :
    Outcome (QuicSession β) := do
  let writeBlockedStreams ← session.writeBlockedStreams.addStream id
  return { session with writeBlockedStreams }

def book (session : QuicSession β) :
    TransportCall → Outcome (QuicSession β)
  | .markConnectionLevelWriteBlocked id =>
      session.markConnectionLevelWriteBlocked id
  | .sendStreamData id _ data _ =>
      return { session with
        writeBlockedStreams :=
          session.writeBlockedStreams.updateBytesForStream id data.length }
  | _ => return session

def carryOut (session : QuicSession β) :
    List TransportCall → Outcome (QuicSession β)
  | [] => return session
  | call :: calls => do
      let session ←
        { session with calls := session.calls ++ [call] }.book call
      carryOut session calls

def context (session : QuicSession β) (id : Nat) : StreamContext β :=
  ⟨session.streams id, session.flowController, []⟩

/-- The stream and the connection as an operation has left them. -/
def adopt (session : QuicSession β) (id : Nat) (context : StreamContext β) :
    Outcome (QuicSession β) :=
  carryOut { session with
    streams := Function.update session.streams id context.stream
    flowController := context.connectionFlowController } context.calls

def writeOrBufferData (session : QuicSession β) (id : Nat)
    (writer : SessionWriter) (data : List UInt8) (fin : Bool) :
    Outcome (QuicSession β) :=
  session.adopt id ((session.context id).writeOrBufferData writer data fin)

def onWindowUpdateFrame (session : QuicSession β) (streamId byteOffset : Nat)
    (writer : SessionWriter) : Outcome (QuicSession β) :=
  if streamId = kConnectionLevelId then
    return { session with
      flowController :=
        (session.flowController.updateSendWindowOffset byteOffset).2 }
  else
    session.adopt streamId
      ((session.context streamId).onWindowUpdateFrame writer byteOffset)

def willingAndAbleToWrite (session : QuicSession β) : Bool :=
  session.writeBlockedStreams.hasWriteBlockedCryptoOrHeadersStream ||
    !session.flowController.isBlocked &&
      session.writeBlockedStreams.hasWriteBlockedDataStreams

/-- Streams that are blocked by their own window write when it grows. -/
def writeStream (session : QuicSession β) (id : Nat) (writer : SessionWriter) :
    Outcome (QuicSession β) :=
  if (session.streams id).flowController.isBlocked then return session
  else session.adopt id ((session.context id).onCanWrite writer)

/-- One turn for each write that `CanWriteStreamData` admits. -/
def writeTurns (session : QuicSession β) :
    List SessionWriter → Outcome (QuicSession β)
  | [] => return session
  | writer :: turns =>
      if !(session.writeBlockedStreams.hasWriteBlockedCryptoOrHeadersStream ||
          session.writeBlockedStreams.hasWriteBlockedDataStreams) then
        return { session with
          calls := session.calls ++
            [.sendConnectionClose .internalError ""] }
      else do
        let (id, writeBlockedStreams) := session.writeBlockedStreams.popFront
        let session ←
          { session with writeBlockedStreams }.writeStream id writer
        writeTurns session turns

/-- When the connection is blocked, data streams get no turn. -/
def onCanWrite (session : QuicSession β) (turns : List SessionWriter) :
    Outcome (QuicSession β) :=
  let numWrites :=
    if session.flowController.isBlocked then
      session.writeBlockedStreams.cryptoStreamBlocked.toNat +
        session.writeBlockedStreams.headersStreamBlocked.toNat
    else session.writeBlockedStreams.numBlockedStreams
  session.writeTurns (turns.take numWrites)

end QuicSession

/--
The loop of `QuicPacketGenerator::ConsumeData`: each packet that may be
generated has room for so many bytes.
-/
def consumeData (fin : Bool) (length : Nat) :
    List Nat → Nat → QuicConsumedData
  | [], total => ⟨total, false⟩
  | room :: rooms, total =>
      let total := total + min room (length - total)
      if total = length then ⟨total, fin⟩
      else consumeData fin length rooms total

end RevSDK
