import RevSDK.Connection.EdgeConnection
import RevSDK.Protocol.ProtocolFailureMonitor

/-!
# Connection proxies and the failure monitor

A proxy starts its connection and logs it once `startWithRequest` has returned;
a failure is logged when the connection reports it.  Any number of proxies run
at a time, and the steps of one come between those of the others.  The
subscribers that the monitor calls back start no connections of their own.
-/

namespace RevSDK

open RevSDK.Foundation
open RevSDK.Foundation.EventSystem

def ConnectionCall.isFailure : ConnectionCall → Bool
  | .connectionDidFailWithError _ => true
  | _ => false

def ConnectionCall.isTerminal : ConnectionCall → Bool
  | .connectionDidFinish => true
  | .connectionDidFailWithError _ => true
  | _ => false

/-! ## Starting a connection -/

def unsupportedURL : Error :=
  { code := -1
    domain := "com.revsdk"
    userInfo := [(errorDescriptionKey, "URL not supported")] }

/-- A URL without host gets no task, and the delegate is told at once. -/
def StandardConnection.startWithRequest (platform : URLPlatform)
    (base : Connection) (aRequest : Request) :
    StandardTask × List ConnectionCall :=
  let request := URLRequestFromRequest platform aRequest
  let task : StandardTask :=
    { connection := { base := base, mCurrentRequest := aRequest }
      originalRequest := request }
  if (request.URL.bind ParsedURL.host).isNone then
    ({ task with mapped := false },
      [.connectionDidFailWithError unsupportedURL])
  else (task, [])

def QUICConnection.startWithRequest (base : Connection) (aRequest : Request) :
    QUICConnection × List ConnectionCall :=
  ({ base := base, mURL := aRequest.mURL, mRequest := aRequest }, [])

/-- A connection made by `connectionForProtocolName` is started. -/
def EdgeConnection.startWithRequest (platform : URLPlatform)
    (aProtocolName : String) (mShouldSimulateErrors : Bool)
    (aRequest : Request) : Outcome (EdgeConnection × List ConnectionCall) :=
  let base : Connection := { mIsFake := mShouldSimulateErrors }
  if aProtocolName = standardProtocolName then
    let (task, calls) :=
      StandardConnection.startWithRequest platform base aRequest
    .ok (.standard task, calls)
  else if aProtocolName = quicProtocolName then
    let (connection, calls) := QUICConnection.startWithRequest base aRequest
    .ok (.quic connection, calls)
  else .error (.assertionFailed "false")

/-! ## All proxies and the monitor -/

/-- `logged` is set when `start` goes on after `startWithRequest`. -/
structure ConnectionProxy where
  mConnection : EdgeConnection
  logged : Bool := false
  ended : Bool := false
  failed : Bool := false

namespace ConnectionProxy

def edgeTransport (proxy : ConnectionProxy) : String :=
  proxy.mConnection.edgeTransport

def after (proxy : ConnectionProxy) (connection : EdgeConnection)
    (ended : Bool) (calls : List ConnectionCall) : ConnectionProxy :=
  { proxy with
    mConnection := connection
    ended := proxy.ended || ended
    failed := proxy.failed || calls.any ConnectionCall.isFailure }

end ConnectionProxy

/-- What `validate` finds logged for a protocol, the new failure included. -/
structure Validation where
  aProtocolID : String
  failures : Nat
  connections : Nat

structure ProxyWorld where
  proxies : List ConnectionProxy := []
  monitor : ProtocolFailureMonitor := .initialized
  validations : List Validation := []
  undefined : Bool := false

inductive ProxyEvent where
  | startWithRequest (aCurrentProtocolName : String)
      (mShouldSimulateErrors : Bool) (aRequest : Request)
      (clock : Nat → Int) (now : Int)
  | logConnection (index : Nat) (now : Int)
  | edge (index : Nat) (event : EdgeEvent) (clock : Nat → Int) (now : Int)

def EdgeEvent.isTerminal : EdgeEvent → Bool
  | .standard (.didCompleteWithError _ _) => true
  | .quic (.quicSessionDidFinish _) => true
  | .quic (.quicSessionDidFail _) => true
  | _ => false

namespace ProxyWorld

section Reactions

variable (platform : URLPlatform) (rule : FailoverRule)

def logFailure (world : ProxyWorld) (clock : Nat → Int) (aProtocolID : String)
    (aErrorCode now : Int) : ProxyWorld :=
  let (monitor, judged) :=
    world.monitor.logFailure rule clock aProtocolID aErrorCode now
  { world with
    monitor := monitor
    validations := world.validations ++ [
      ⟨aProtocolID, (monitor.mReportMap aProtocolID).length,
        (monitor.mLoggedConnections aProtocolID).length⟩]
    undefined := judged.toOption.isNone }

def receive (clock : Nat → Int) (edgeTransport : String) (now : Int)
    (world : ProxyWorld) : ConnectionCall → ProxyWorld
  | .connectionDidFailWithError aError =>
      world.logFailure rule clock edgeTransport aError.code now
  | _ => world

def react (world : ProxyWorld) : ProxyEvent → Option ProxyWorld
  | .startWithRequest aCurrentProtocolName mShouldSimulateErrors aRequest clock
      now => do
      let (connection, calls) ← (EdgeConnection.startWithRequest platform
        aCurrentProtocolName mShouldSimulateErrors aRequest).toOption
      let proxy : ConnectionProxy := { mConnection := connection }
      let proxy := proxy.after connection (!calls.isEmpty) calls
      return calls.foldl (receive rule clock connection.edgeTransport now)
        { world with proxies := world.proxies ++ [proxy] }
  | .logConnection index now => do
      let proxy ← world.proxies[index]?
      return { world with
        proxies := world.proxies.set index { proxy with logged := true }
        monitor := world.monitor.logConnection proxy.edgeTransport now }
  | .edge index event clock now => do
      let proxy ← world.proxies[index]?
      let (connection, calls) ←
        EdgeWorld.handle platform proxy.mConnection event
      let proxy := proxy.after connection event.isTerminal calls
      return calls.foldl (receive rule clock connection.edgeTransport now)
        { world with proxies := world.proxies.set index proxy }

/--
`start` logs its connection once; a connection has no events after it has
ended; nothing can be said after undefined behaviour.
-/
def Admitted (world : ProxyWorld) : ProxyEvent → Prop
  | .startWithRequest _ _ _ _ _ => world.undefined = false
  | .logConnection index _ => world.undefined = false ∧
      ∀ proxy, world.proxies[index]? = some proxy → proxy.logged = false
  | .edge index _ _ _ => world.undefined = false ∧
      ∀ proxy, world.proxies[index]? = some proxy → proxy.ended = false

def system : EventSystem ProxyWorld ProxyEvent where
  initial world := world = {}
  step := react platform rule

end Reactions

end ProxyWorld

end RevSDK
