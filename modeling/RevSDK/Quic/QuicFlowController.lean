import RevSDK.Quic.SequencerBuffer

/-!
# Flow controllers

A stream has a flow controller, and so has the connection.  Its sending half
counts the bytes that were sent against the window that the peer has granted;
its receiving half grants the peer a window, and enlarges it while the peer
uses it up in less than two round trips.
-/

namespace RevSDK

inductive QuicRstStreamErrorCode where
  | noError
  | multipleTerminationOffsets
  | errorProcessingStream
  deriving DecidableEq, Repr

/--
What flow controllers and streams have the connection or the session do.  The
bytes of `sendStreamData` are those that the session has taken.
-/
inductive TransportCall where
  | sendWindowUpdate (id byteOffset : Nat)
  | sendBlocked (id : Nat)
  | sendStreamData (id offset : Nat) (data : List UInt8) (fin : Bool)
  | sendConnectionClose (error : QuicErrorCode) (details : String)
  | sendRstStream (id : Nat) (error : QuicRstStreamErrorCode)
      (bytesWritten : Nat)
  | markConnectionLevelWriteBlocked (id : Nat)
  | streamDraining (id : Nat)
  | closeStream (id : Nat)
  | onDataAvailable (id : Nat)
  deriving DecidableEq

def kConnectionLevelId : Nat := 0

def kStreamReceiveWindowLimit : Nat := 16 * 1024 * 1024

def kSessionReceiveWindowLimit : Nat := 24 * 1024 * 1024

def kMinimumFlowControlSendWindow : Nat := 16 * 1024

/-- `autoTune` is `FLAGS_quic_auto_tune_receive_window`; microseconds. -/
structure QuicTiming where
  now : Nat
  smoothedRtt : Nat
  autoTune : Bool := true
  deriving DecidableEq

structure QuicFlowController where
  id : Nat
  bytesSent : Nat := 0
  sendWindowOffset : Nat
  bytesConsumed : Nat := 0
  highestReceivedByteOffset : Nat := 0
  receiveWindowOffset : Nat
  receiveWindowSize : Nat
  receiveWindowSizeLimit : Nat
  autoTuneReceiveWindow : Bool
  lastBlockedSendWindowOffset : Nat := 0
  prevWindowUpdateTime : Nat := 0
  deriving DecidableEq

namespace QuicFlowController

def new (id sendWindowOffset receiveWindowOffset : Nat)
    (shouldAutoTuneReceiveWindow : Bool) : QuicFlowController where
  id
  sendWindowOffset
  receiveWindowOffset
  receiveWindowSize := receiveWindowOffset
  receiveWindowSizeLimit :=
    if id = kConnectionLevelId then kSessionReceiveWindowLimit
    else kStreamReceiveWindowLimit
  autoTuneReceiveWindow := shouldAutoTuneReceiveWindow

/-- A time of zero stands for no update so far. -/
def maybeIncreaseMaxWindowSize (controller : QuicFlowController)
    (timing : QuicTiming) : QuicFlowController :=
  if !timing.autoTune then controller
  else
    let prev := controller.prevWindowUpdateTime
    let controller := { controller with prevWindowUpdateTime := timing.now }
    if prev = 0 then controller
    else if !controller.autoTuneReceiveWindow then controller
    else if timing.smoothedRtt = 0 then controller
    else if (timing.now : Int) - prev ≥ timing.smoothedRtt * 2 then controller
    else
      { controller with
        receiveWindowSize :=
          min (offsetSum controller.receiveWindowSize
            controller.receiveWindowSize) controller.receiveWindowSizeLimit }

def windowUpdateThreshold (controller : QuicFlowController) : Nat :=
  controller.receiveWindowSize / 2

def maybeSendWindowUpdate (controller : QuicFlowController)
    (timing : QuicTiming) : QuicFlowController × List TransportCall :=
  let availableWindow :=
    offsetDifference controller.receiveWindowOffset controller.bytesConsumed
  if availableWindow ≥ controller.windowUpdateThreshold then (controller, [])
  else
    let controller := controller.maybeIncreaseMaxWindowSize timing
    let controller := { controller with
      receiveWindowOffset := offsetSum controller.receiveWindowOffset
        (offsetDifference controller.receiveWindowSize availableWindow) }
    (controller,
      [.sendWindowUpdate controller.id controller.receiveWindowOffset])

def addBytesConsumed (controller : QuicFlowController) (timing : QuicTiming)
    (bytesConsumed : Nat) : QuicFlowController × List TransportCall :=
  maybeSendWindowUpdate { controller with
    bytesConsumed := offsetSum controller.bytesConsumed bytesConsumed } timing

def updateHighestReceivedOffset (controller : QuicFlowController)
    (newOffset : Nat) : Bool × QuicFlowController :=
  if newOffset ≤ controller.highestReceivedByteOffset then (false, controller)
  else (true, { controller with highestReceivedByteOffset := newOffset })

/-- The text names the difference of the bytes the wrong way round. -/
def addBytesSent (controller : QuicFlowController) (bytesSent : Nat) :
    QuicFlowController × List TransportCall :=
  if offsetSum controller.bytesSent bytesSent >
      controller.sendWindowOffset then
    let controller := { controller with
      bytesSent := controller.sendWindowOffset }
    (controller,
      [.sendConnectionClose .flowControlSentTooMuchData
        (toString (offsetDifference controller.sendWindowOffset
          (offsetSum controller.bytesSent bytesSent)) ++
            " bytes over send window offset")])
  else
    ({ controller with
      bytesSent := offsetSum controller.bytesSent bytesSent }, [])

def flowControlViolation (controller : QuicFlowController) : Bool :=
  controller.highestReceivedByteOffset > controller.receiveWindowOffset

def sendWindowSize (controller : QuicFlowController) : Nat :=
  if controller.bytesSent > controller.sendWindowOffset then 0
  else controller.sendWindowOffset - controller.bytesSent

def isBlocked (controller : QuicFlowController) : Bool :=
  controller.sendWindowSize = 0

def maybeSendBlocked (controller : QuicFlowController) :
    QuicFlowController × List TransportCall :=
  if controller.sendWindowSize = 0 ∧
      controller.lastBlockedSendWindowOffset < controller.sendWindowOffset then
    ({ controller with
      lastBlockedSendWindowOffset := controller.sendWindowOffset },
      [.sendBlocked controller.id])
  else (controller, [])

/-- Whether the window has grown, and was used up before. -/
def updateSendWindowOffset (controller : QuicFlowController)
    (newSendWindowOffset : Nat) : Bool × QuicFlowController :=
  if newSendWindowOffset ≤ controller.sendWindowOffset then (false, controller)
  else
    (controller.isBlocked,
      { controller with sendWindowOffset := newSendWindowOffset })

end QuicFlowController

end RevSDK
