import RevSDK.Connection.QuicSpdyClientStream
import Mathlib.Data.List.AList

/-!
# The QUIC session of the SDK

`QUICSession` maps the addresses of its streams to the delegates of their
requests.  The streams belong to the client session of the library, which
closes and destroys them; a call on an address that holds no stream is a
fault.  A request stands for its `QUICStreamDelegate`.
-/

namespace RevSDK

structure SessionStream where
  stream : QUICDataStream := {}
  responseCode : Int := 0
  responseHeaders : SpdyHeaderBlock := []
  closed : Bool := false

structure QUICClientSession where
  connected : Bool := true
  encryptionEstablished : Bool := false
  streams : AList fun _ : Nat => SessionStream := ∅

/-- `sent` and `told` record the requests and what their delegates were told. -/
structure QUICSession where
  mSession : Option QUICClientSession := none
  mStreamDelegateMap : AList fun _ : Nat => Nat := ∅
  sent : List Nat := []
  told : List (Nat × DelegateCall) := []
  fault : Bool := false

namespace QUICSession

/-! ## Calls of the streams on the session -/

def tell (session : QUICSession) (request : Nat) (call : DelegateCall) :
    QUICSession :=
  { session with told := session.told ++ [(request, call)] }

def erase (session : QUICSession) (aStream : Nat) : QUICSession :=
  { session with
    mStreamDelegateMap := session.mStreamDelegateMap.erase aStream }

def withDelegate (session : QUICSession) (aStream : Nat)
    (call : Nat → QUICSession) : QUICSession :=
  match session.mStreamDelegateMap.lookup aStream with
  | none => session
  | some request => call request

def onQUICStreamReceivedData (session : QUICSession) (aStream : Nat)
    (aData : Data) : QUICSession :=
  session.withDelegate aStream fun request =>
    session.tell request (.quicSessionDidReceiveData aData)

def onQUICStreamReceivedResponse (session : QUICSession) (aStream : Nat)
    (aCode : Int) (aHeaders : SpdyHeaderBlock) : QUICSession :=
  session.withDelegate aStream fun request =>
    session.tell request (.quicSessionDidReceiveResponse aHeaders aCode)

def onQUICStreamFailed (session : QUICSession) (aStream : Nat)
    (_aError : Error) : QUICSession :=
  session.withDelegate aStream fun request =>
    (session.tell request .quicSessionDidFail).erase aStream

def onQUICStreamCompleted (session : QUICSession) (aStream : Nat) :
    QUICSession :=
  session.withDelegate aStream fun request =>
    (session.tell request .quicSessionDidFinish).erase aStream

def receive (aStream : Nat) (session : QUICSession) : StreamCall → QUICSession
  | .onQUICStreamReceivedResponse aCode aHeaders =>
      session.onQUICStreamReceivedResponse aStream aCode aHeaders
  | .onQUICStreamReceivedData aData =>
      session.onQUICStreamReceivedData aStream aData
  | .onQUICStreamFailed aError => session.onQUICStreamFailed aStream aError
  | .onQUICStreamCompleted => session.onQUICStreamCompleted aStream

/-! ## Calls on the streams -/

def findStream (session : QUICSession) (aStream : Nat) :
    Option SessionStream :=
  session.mSession.bind fun client => client.streams.lookup aStream

def setStream (session : QUICSession) (aStream : Nat)
    (stream : SessionStream) : QUICSession :=
  { session with
    mSession := session.mSession.map fun client =>
      { client with streams := client.streams.insert aStream stream } }

def callStream (aStream : Nat)
    (method : SessionStream → QUICDataStream × List StreamCall)
    (session : QUICSession) : QUICSession :=
  match session.findStream aStream with
  | none => { session with fault := true }
  | some found =>
      let (stream, calls) := method found
      calls.foldl (receive aStream)
        (session.setStream aStream { found with stream := stream })

/-- The library closes a stream once, and `OnClose` calls the visitor. -/
def closeStream (session : QUICSession) (aStream : Nat) : QUICSession :=
  match session.findStream aStream with
  | none => session
  | some found =>
      if found.closed then session
      else
        (session.setStream aStream { found with closed := true }).callStream
          aStream fun found => found.stream.onVisitorSentClose
            found.responseCode found.responseHeaders

/-- Closing a connected connection closes its open streams. -/
def closeConnection (session : QUICSession) : QUICSession :=
  match session.mSession with
  | none => session
  | some client =>
      if client.connected then
        client.streams.keys.foldl closeStream
          { session with mSession := some { client with connected := false } }
      else session

/-! ## Tasks of the session's thread -/

def p_connected (session : QUICSession) : Bool :=
  match session.mSession with
  | none => false
  | some client => client.connected && client.encryptionEstablished

def p_disconnect (session : QUICSession) : QUICSession :=
  let session := if session.p_connected then session.closeConnection
    else session
  { session with mSession := none }

/--
`opened` is whether the UDP socket was opened, `established` whether the
cached state of the server lets the encryption be established at once.
-/
def p_connect (session : QUICSession) (opened established : Bool) :
    QUICSession :=
  let session := if session.mSession.isSome then session.p_disconnect
    else session
  if opened then
    { session with
      mSession := some { encryptionEstablished := established } }
  else session

/--
`creation` is the address of a new stream, if the client session has room for
one and was not told to go away.
-/
def createReliableClientStream (session : QUICSession)
    (creation : Option Nat) : Option Nat :=
  if session.p_connected then creation else none

/-- Without a stream the session queues a reconnect, another task. -/
def p_sendRequest (session : QUICSession) (aStreamDelegate : Nat)
    (creation : Option Nat) : QUICSession :=
  if !session.p_connected then session
  else
    match session.createReliableClientStream creation with
    | none => session
    | some aStream =>
        let session := session.setStream aStream {}
        { session with
          mStreamDelegateMap :=
            session.mStreamDelegateMap.insert aStream aStreamDelegate }

def sendRequest (session : QUICSession) (aStreamDelegate : Nat)
    (creation : Option Nat) : QUICSession :=
  p_sendRequest { session with sent := session.sent ++ [aStreamDelegate] }
    aStreamDelegate creation

def onQUICError (session : QUICSession) : QUICSession :=
  let session := session.p_disconnect
  session.mStreamDelegateMap.keys.foldl
    (fun session aStream =>
      session.callStream aStream fun found => found.stream.onSocketError {})
    session

def update (session : QUICSession) (aNowMS : Nat) : QUICSession :=
  session.mStreamDelegateMap.keys.foldl
    (fun session aStream =>
      session.callStream aStream fun found => found.stream.update aNowMS)
    session

end QUICSession

end RevSDK
