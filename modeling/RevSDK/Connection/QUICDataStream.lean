import RevSDK.Connection.Data
import RevSDK.Connection.Error

/-!
# QUIC data streams

The part of `QUICDataStream` that the SDK adds to the client stream of the
library.  Its delegate is the session, which is set right after the stream is
created; each method returns the calls it makes on the delegate, in order.
-/

namespace RevSDK

abbrev SpdyHeaderBlock := List (String × String)

inductive StreamCall where
  | onQUICStreamReceivedResponse (aCode : Int) (aHeaders : SpdyHeaderBlock)
  | onQUICStreamReceivedData (aData : Data)
  | onQUICStreamFailed (aError : Error)
  | onQUICStreamCompleted
  deriving DecidableEq

structure QUICDataStream where
  mInitialMS : Nat := 0
  mTimeoutMS : Nat := 20000
  mFailed : Bool := false
  mError : Error := {}
  mHeadersDelivered : Bool := false
  mCacheList : List Data := []
  deriving DecidableEq

namespace QUICDataStream

/-- Differences of `size_t` wrap around. -/
def sizeDifference (left right : Nat) : Nat :=
  (left + 2 ^ 64 - right) % 2 ^ 64

def should_add_incoming_data (stream : QUICDataStream) (aData : Data) :
    QUICDataStream × List StreamCall :=
  if stream.mHeadersDelivered then
    ({ stream with mCacheList := [] },
      stream.mCacheList.map .onQUICStreamReceivedData ++
        if aData.isEmpty then [] else [.onQUICStreamReceivedData aData])
  else if aData.isEmpty then (stream, [])
  else ({ stream with mCacheList := stream.mCacheList ++ [aData] }, [])

def onVisitorSentClose (stream : QUICDataStream) (responseCode : Int)
    (headers : SpdyHeaderBlock) : QUICDataStream × List StreamCall :=
  if stream.mFailed then (stream, [])
  else
    let response : List StreamCall := if stream.mHeadersDelivered then []
      else [.onQUICStreamReceivedResponse responseCode headers]
    let (stream, flushed) := should_add_incoming_data
      { stream with mHeadersDelivered := true } ⟨[]⟩
    ({ stream with mInitialMS := 0 },
      response ++ flushed ++ [.onQUICStreamCompleted])

/-- What `OnInitialHeadersComplete` does after the method it overrides. -/
def onInitialHeadersComplete (stream : QUICDataStream) (responseCode : Int)
    (headers : SpdyHeaderBlock) : QUICDataStream × List StreamCall :=
  if stream.mFailed then (stream, [])
  else
    ({ stream with mInitialMS := 0, mHeadersDelivered := true },
      [.onQUICStreamReceivedResponse responseCode headers])

/-- What `OnStreamFrame` does after the method it overrides. -/
def onStreamFrame (stream : QUICDataStream) : QUICDataStream :=
  if stream.mFailed then stream else { stream with mInitialMS := 0 }

def fail (stream : QUICDataStream) (aError : Error) :
    QUICDataStream × List StreamCall :=
  ({ stream with mFailed := true, mError := aError },
    [.onQUICStreamFailed aError])

def timeoutError : Error :=
  { code := 0, domain := "revsdk.quic" : Error }.setDescription
    "QUIC connection timeout"

def update (stream : QUICDataStream) (aNowMS : Nat) :
    QUICDataStream × List StreamCall :=
  if stream.mFailed then (stream, [])
  else if stream.mInitialMS = 0 then
    ({ stream with mInitialMS := aNowMS }, [])
  else
    let age := sizeDifference aNowMS stream.mInitialMS
    if age > stream.mTimeoutMS then stream.fail timeoutError
    else (stream, [])

def onSocketError (stream : QUICDataStream) (aError : Error) :
    QUICDataStream × List StreamCall :=
  if stream.mFailed then (stream, []) else stream.fail aError

theorem update_cases (stream : QUICDataStream) (aNowMS : Nat) :
    stream.update aNowMS = (stream, []) ∨
    stream.update aNowMS = ({ stream with mInitialMS := aNowMS }, []) ∨
    stream.update aNowMS = stream.fail timeoutError := by
  unfold update
  split
  · exact .inl rfl
  · split
    · exact .inr (.inl rfl)
    · dsimp only
      split
      · exact .inr (.inr rfl)
      · exact .inl rfl

theorem onVisitorSentClose_eq {stream : QUICDataStream}
    (hworking : stream.mFailed = false) (code : Int)
    (headers : SpdyHeaderBlock) :
    stream.onVisitorSentClose code headers =
      ({ stream with
          mHeadersDelivered := true, mCacheList := [], mInitialMS := 0 },
        (if stream.mHeadersDelivered then []
          else [.onQUICStreamReceivedResponse code headers]) ++
        stream.mCacheList.map .onQUICStreamReceivedData ++
          [.onQUICStreamCompleted]) := by
  simp [onVisitorSentClose, hworking, should_add_incoming_data, Data.isEmpty]

end QUICDataStream

end RevSDK
