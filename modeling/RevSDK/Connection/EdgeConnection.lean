import RevSDK.Connection.Request
import RevSDK.Foundation.Runs
import RevSDK.Protocol.Protocol

/-!
# Edge connections

The two transports turn the events of a task or a stream into calls on the
`ConnectionDelegate`, which is the `ConnectionProxy` that started the
connection.  The bytes counted, the usage tracker and the reports on requests
are left out: no call depends on them.
-/

namespace RevSDK

open RevSDK.Foundation

inductive ConnectionCall where
  | connectionDidReceiveResponse (aResponse : Response)
  | connectionDidReceiveData (aData : Data)
  | connectionDidFinish
  | connectionDidFailWithError (aError : Error)
  | connectionWasRedirected (aRequest : Request) (aResponse : Response)

namespace ConnectionCall

def isRedirection : ConnectionCall → Bool
  | .connectionWasRedirected _ _ => true
  | _ => false

end ConnectionCall

structure Connection where
  mIsFake : Bool := false
  mEndTimestamp : Int := 0

def Connection.onEnd (connection : Connection) (aNow : Int) :
    Outcome Connection := do
  assertion (connection.mEndTimestamp == 0) "!mEndTimestamp"
  return { connection with mEndTimestamp := aNow }

def fakeError : Error :=
  { code := -2
    domain := "com.revsdk"
    userInfo := [(errorDescriptionKey, "Fake error")] }

def Connection.succeed (connection : Connection) : List ConnectionCall :=
  if connection.mIsFake then [.connectionDidFailWithError fakeError]
  else [.connectionDidFinish]

/-! ## The standard transport -/

structure StandardConnection where
  base : Connection := {}
  mCurrentRequest : Request
  mResponse : Option Response := none

namespace StandardConnection

/-- The original URL is the text of a URL, so it is read back as it was. -/
def processResponse (connection : StandardConnection)
    (response : NSHTTPURLResponse) : Response :=
  ⟨connection.mCurrentRequest.mOriginalURL, response.allHeaderFields,
    response.statusCode⟩

def didReceiveData (connection : StandardConnection) (aData : Data) :
    StandardConnection × List ConnectionCall :=
  (connection, [.connectionDidReceiveData aData])

def didReceiveResponse (connection : StandardConnection)
    (aResponse : NSHTTPURLResponse) :
    StandardConnection × List ConnectionCall :=
  let response := connection.processResponse aResponse
  ({ connection with mResponse := some response },
    [.connectionDidReceiveResponse response])

def didCompleteWithError (connection : StandardConnection)
    (aError : Option Error) (aNow : Int) :
    Outcome (StandardConnection × List ConnectionCall) := do
  let base ← connection.base.onEnd aNow
  match aError with
  | none => return ({ connection with base := base }, base.succeed)
  | some error =>
      return ({ connection with base := base },
        [.connectionDidFailWithError error])

def wasRedirected (connection : StandardConnection) (aRequest : NSURLRequest)
    (aResponse : NSHTTPURLResponse) :
    Outcome (StandardConnection × List ConnectionCall) := do
  let response := connection.processResponse aResponse
  let request ← requestFromURLRequest aRequest
  return ({ connection with mCurrentRequest := request },
    [.connectionWasRedirected request response])

end StandardConnection

/--
The task of a connection; `mapped` is the presence of the connection in the map
of the session.
-/
structure StandardTask where
  connection : StandardConnection
  originalRequest : NSURLRequest
  mapped : Bool := true

inductive TaskEvent where
  | willPerformHTTPRedirection (edgeHost : String)
      (response : NSHTTPURLResponse) (request : NSURLRequest)
  | didReceiveData (data : Data)
  | didReceiveResponse (response : NSHTTPURLResponse)
  | didCompleteWithError (error : Option Error) (now : Int)

namespace StandardTask

/-- A redirection to the edge host gets the original host back. -/
def restoreHost (platform : URLPlatform) (task : StandardTask)
    (edgeHost : String) (request : NSURLRequest) : NSURLRequest :=
  if request.URL.bind ParsedURL.host = some edgeHost then
    let originalHost :=
      task.originalRequest.allHTTPHeaderFields.lookup kRSRevHostHeader
    let URLString := request.URL.map ParsedURL.absoluteString
    { request with
      URL := do
        let components ← platform.componentsWithString (← URLString)
        platform.URL { components with host := originalHost } }
  else request

/-- The completion handler is not called, so the task stays suspended. -/
def willPerformHTTPRedirection (platform : URLPlatform) (task : StandardTask)
    (edgeHost : String) (response : NSHTTPURLResponse)
    (request : NSURLRequest) : Outcome (StandardTask × List ConnectionCall) :=
  if task.mapped then do
    let (connection, calls) ← task.connection.wasRedirected
      (task.restoreHost platform edgeHost request) response
    return ({ task with connection := connection }, calls)
  else .error (.undefinedBehaviour "null dereference")

def didReceiveData (task : StandardTask) (data : Data) :
    StandardTask × List ConnectionCall :=
  if task.mapped then
    let (connection, calls) := task.connection.didReceiveData data
    ({ task with connection := connection }, calls)
  else (task, [])

def didReceiveResponse (task : StandardTask) (response : NSHTTPURLResponse) :
    StandardTask × List ConnectionCall :=
  if task.mapped then
    let (connection, calls) := task.connection.didReceiveResponse response
    ({ task with connection := connection }, calls)
  else (task, [])

def didCompleteWithError (task : StandardTask) (error : Option Error)
    (now : Int) : Outcome (StandardTask × List ConnectionCall) :=
  if task.mapped then do
    let (connection, calls) ← task.connection.didCompleteWithError error now
    return ({ task with connection := connection, mapped := false }, calls)
  else .ok (task, [])

def react (platform : URLPlatform) (task : StandardTask) :
    TaskEvent → Outcome (StandardTask × List ConnectionCall)
  | .willPerformHTTPRedirection edgeHost response request =>
      task.willPerformHTTPRedirection platform edgeHost response request
  | .didReceiveData data => .ok (task.didReceiveData data)
  | .didReceiveResponse response => .ok (task.didReceiveResponse response)
  | .didCompleteWithError error now => task.didCompleteWithError error now

end StandardTask

/-! ## The QUIC transport -/

/-- `mRedirect` is the depth of the connection made for a redirection. -/
structure QUICConnection where
  base : Connection := {}
  mURL : String
  mRequest : Request
  mResponse : Option Response := none
  mRedirect : Option Nat := none
  mDepth : Nat := 0

inductive QUICStreamEvent where
  | quicSessionDidReceiveResponse (aHeaders : SpdyHeaderBlock) (aCode : Int)
  | quicSessionDidReceiveData (aData : Data)
  | quicSessionDidFinish (now : Int)
  | quicSessionDidFail (error : Error)

namespace QUICConnection

/-- Pseudo-headers are left out. -/
def responseHeaders (aHeaders : SpdyHeaderBlock) : List (String × String) :=
  aHeaders.filter fun h => h.1.toList.head?.any fun char => char != ':'

def redirection (platform : URLPlatform) (connection : QUICConnection)
    (aHeaders : SpdyHeaderBlock) : Outcome (Option Request) :=
  match aHeaders.lookup "Location" with
  | none => .error (.assertionFailed "false")
  | some location => do
      let request := connection.mRequest
      let url := correctURLIfNeeded platform location request.mOriginalScheme
      match ← decomposeURL platform connection.mURL url with
      | none => return none
      | some ⟨host, path, scheme⟩ =>
          return some { request with
            mURL := url
            mHost := host
            mPath := path
            mRest := path
            mOriginalScheme := scheme }

def deliverResponse (connection : QUICConnection)
    (aHeaders : SpdyHeaderBlock) (aCode : Int) :
    QUICConnection × List ConnectionCall :=
  let response : Response := ⟨connection.mURL, responseHeaders aHeaders, aCode⟩
  ({ connection with mResponse := some response },
    [.connectionDidReceiveResponse response])

def quicSessionDidReceiveResponse (platform : URLPlatform)
    (connection : QUICConnection) (aHeaders : SpdyHeaderBlock) (aCode : Int) :
    Outcome (QUICConnection × List ConnectionCall) :=
  if connection.mRedirect.isNone && (aCode == 301 || aCode == 302) &&
      connection.mDepth < 10 then do
    match ← connection.redirection platform aHeaders with
    | none => return connection.deliverResponse aHeaders aCode
    | some newRequest =>
        return ({ connection with mRedirect := some (connection.mDepth + 1) },
          [.connectionWasRedirected newRequest
            ⟨connection.mURL, responseHeaders aHeaders, aCode⟩])
  else .ok (connection.deliverResponse aHeaders aCode)

def quicSessionDidReceiveData (connection : QUICConnection) (aData : Data) :
    QUICConnection × List ConnectionCall :=
  if connection.mRedirect.isSome then (connection, [])
  else (connection, [.connectionDidReceiveData aData])

def quicSessionDidFinish (connection : QUICConnection) (now : Int) :
    Outcome (QUICConnection × List ConnectionCall) := do
  let base ← connection.base.onEnd now
  let connection := { connection with base := base }
  if connection.mRedirect.isSome then return (connection, [])
  else return (connection, base.succeed)

def quicSessionDidFail (connection : QUICConnection) (error : Error) :
    QUICConnection × List ConnectionCall :=
  if connection.mRedirect.isSome then (connection, [])
  else (connection, [.connectionDidFailWithError error])

def react (platform : URLPlatform) (connection : QUICConnection) :
    QUICStreamEvent → Outcome (QUICConnection × List ConnectionCall)
  | .quicSessionDidReceiveResponse aHeaders aCode =>
      connection.quicSessionDidReceiveResponse platform aHeaders aCode
  | .quicSessionDidReceiveData aData =>
      .ok (connection.quicSessionDidReceiveData aData)
  | .quicSessionDidFinish now => connection.quicSessionDidFinish now
  | .quicSessionDidFail error => .ok (connection.quicSessionDidFail error)

end QUICConnection

/-! ## Both under one proxy -/

inductive EdgeConnection where
  | standard (task : StandardTask)
  | quic (connection : QUICConnection)

inductive EdgeEvent where
  | standard (event : TaskEvent)
  | quic (event : QUICStreamEvent)

def EdgeConnection.edgeTransport : EdgeConnection → String
  | .standard _ => standardProtocolName
  | .quic _ => quicProtocolName

inductive EdgeEffect where
  | received (call : ConnectionCall)
  | logFailure (aProtocolID : String) (aErrorCode : Int)
  | calledBack (call : ConnectionCall)

/-- A failure is logged before the error callback is called. -/
def ConnectionProxy.receive (edgeTransport : String) :
    ConnectionCall → List EdgeEffect
  | .connectionDidFailWithError aError =>
      [.received (.connectionDidFailWithError aError),
        .logFailure edgeTransport aError.code,
        .calledBack (.connectionDidFailWithError aError)]
  | call => [.received call, .calledBack call]

structure EdgeWorld where
  connection : EdgeConnection
  effects : List EdgeEffect := []

namespace EdgeWorld

/-- A connection has the events of its own transport only. -/
def handle (platform : URLPlatform) :
    EdgeConnection → EdgeEvent → Option (EdgeConnection × List ConnectionCall)
  | .standard task, .standard event => do
      let (task, calls) ← (task.react platform event).toOption
      return (.standard task, calls)
  | .quic connection, .quic event => do
      let (connection, calls) ← (connection.react platform event).toOption
      return (.quic connection, calls)
  | _, _ => none

def react (platform : URLPlatform) (world : EdgeWorld) (event : EdgeEvent) :
    Option EdgeWorld := do
  let (connection, calls) ← handle platform world.connection event
  return { connection := connection
           effects := world.effects ++
            calls.flatMap (ConnectionProxy.receive connection.edgeTransport) }

inductive Started : EdgeConnection → Prop
  | standard (base : Connection) (request : Request)
      (originalRequest : NSURLRequest) (hrunning : base.mEndTimestamp = 0) :
      Started (.standard
        { connection := { base := base, mCurrentRequest := request }
          originalRequest := originalRequest })
  | quic (base : Connection) (request : Request) (depth : Nat)
      (hrunning : base.mEndTimestamp = 0) :
      Started (.quic
        { base := base, mURL := request.mURL, mRequest := request
          mDepth := depth })

def system (platform : URLPlatform) : EventSystem EdgeWorld EdgeEvent where
  initial world := Started world.connection ∧ world.effects = []
  step := react platform

end EdgeWorld

end RevSDK
