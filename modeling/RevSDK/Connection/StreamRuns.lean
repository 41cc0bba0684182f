import RevSDK.Connection.QuicSpdyClientStream

/-!
# Runs of a data stream

The events of one stream after its request was sent.  Header blocks, frames
and resets reach open streams only; the ticks and the socket errors of the
session reach the streams of its map.
-/

namespace RevSDK

open RevSDK.Foundation

inductive StreamEvent where
  | headersComplete (block : Data) (fin : Bool)
  | streamFrame (frame : StreamFrame)
  | streamReset (noError : Bool) (version : Nat)
  | connectionClosed
  | requestWritten
  | update (aNowMS : Nat)
  | onSocketError (aError : Error)
  deriving DecidableEq

namespace StreamWorld

/-- `requestWritten` is whether the whole request went out at once. -/
def start (requestWritten : Bool) : StreamWorld where
  base := { writeSideClosed := requestWritten }
  stream := {}
  mapped := true
  log := []
  arrived := []
  chunks := []
  calls := []

def react (framer : SpdyFramer) (world : StreamWorld) :
    StreamEvent → StreamWorld
  | .headersComplete block fin =>
      world.onStreamHeadersComplete framer block fin
  | .streamFrame frame => world.onStreamFrame frame
  | .streamReset noError version => world.onStreamReset noError version
  | .connectionClosed => world.connectionClosed
  | .requestWritten => world.closeWriteSide
  | .update aNowMS => world.perform (world.stream.update aNowMS)
  | .onSocketError aError => world.perform (world.stream.onSocketError aError)

def system (framer : SpdyFramer) : EventSystem StreamWorld StreamEvent where
  initial world := ∃ requestWritten, world = start requestWritten
  step world event := some (world.react framer event)

def Admitted (world : StreamWorld) : StreamEvent → Prop
  | .headersComplete _ _ => world.base.closed = false
  | .streamFrame frame => world.base.closed = false ∧
      ∀ piece ∈ frame.readable, piece.isEmpty = false
  | .streamReset _ _ => world.base.closed = false
  | .connectionClosed => True
  | .requestWritten => True
  | .update _ => world.mapped = true
  | .onSocketError _ => world.mapped = true

instance (world : StreamWorld) (event : StreamEvent) :
    Decidable (world.Admitted event) := by
  cases event <;> unfold Admitted <;> infer_instance

/-! ## What the delegate was told -/

def deliveredBytes (log : List DelegateCall) : List UInt8 :=
  log.flatMap fun call =>
    match call with
    | .quicSessionDidReceiveData aData => aData.bytes
    | _ => []

@[simp] theorem deliveredBytes_append (first second : List DelegateCall) :
    deliveredBytes (first ++ second) =
      deliveredBytes first ++ deliveredBytes second :=
  List.flatMap_append

@[simp] theorem deliveredBytes_data (pieces : List Data) :
    deliveredBytes (pieces.map .quicSessionDidReceiveData) =
      pieces.flatMap Data.bytes := by
  simp [deliveredBytes, List.flatMap_map]

section Dispatch

variable {world : StreamWorld}

theorem foldl_dispatch_unmapped (hmapped : world.mapped = false)
    (calls : List StreamCall) : calls.foldl dispatch world = world := by
  induction calls with
  | nil => rfl
  | cons call calls ih => simpa [dispatch, hmapped] using ih

theorem foldl_dispatch_data (hmapped : world.mapped = true)
    (pieces : List Data) :
    (pieces.map .onQUICStreamReceivedData).foldl dispatch world =
      { world with
        log := world.log ++ pieces.map .quicSessionDidReceiveData } := by
  induction pieces generalizing world with
  | nil => simp
  | cons piece pieces ih =>
      rw [List.map_cons, List.foldl_cons]
      have hfirst : dispatch world (.onQUICStreamReceivedData piece) =
          { world with
            log := world.log ++ [.quicSessionDidReceiveData piece] } := by
        simp [dispatch, hmapped]
      rw [hfirst, @ih { world with
        log := world.log ++ [.quicSessionDidReceiveData piece] } hmapped]
      simp

theorem perform_unmapped (hmapped : world.mapped = false)
    (next : QUICDataStream × List StreamCall) :
    world.perform next = { world with
      stream := next.1, calls := world.calls ++ next.2 } :=
  @foldl_dispatch_unmapped { world with
    stream := next.1, calls := world.calls ++ next.2 } hmapped next.2

@[simp] theorem perform_nil (world : StreamWorld) (stream : QUICDataStream) :
    world.perform (stream, []) = { world with stream := stream } := by
  simp [perform]

theorem dispatch_frame (world : StreamWorld) (call : StreamCall) :
    dispatch world call = { world with
      mapped := (dispatch world call).mapped
      log := (dispatch world call).log } := by
  unfold dispatch
  split
  · cases call <;> rfl
  · rfl

theorem foldl_dispatch_frame (world : StreamWorld) (calls : List StreamCall) :
    calls.foldl dispatch world = { world with
      mapped := (calls.foldl dispatch world).mapped
      log := (calls.foldl dispatch world).log } := by
  induction calls generalizing world with
  | nil => rfl
  | cons call calls ih =>
      rw [List.foldl_cons, ih, dispatch_frame]

@[simp] theorem perform_base (world : StreamWorld)
    (next : QUICDataStream × List StreamCall) :
    (world.perform next).base = world.base := by
  rw [perform, foldl_dispatch_frame]

@[simp] theorem perform_arrived (world : StreamWorld)
    (next : QUICDataStream × List StreamCall) :
    (world.perform next).arrived = world.arrived := by
  rw [perform, foldl_dispatch_frame]

@[simp] theorem perform_chunks (world : StreamWorld)
    (next : QUICDataStream × List StreamCall) :
    (world.perform next).chunks = world.chunks := by
  rw [perform, foldl_dispatch_frame]

@[simp] theorem perform_calls (world : StreamWorld)
    (next : QUICDataStream × List StreamCall) :
    (world.perform next).calls = world.calls ++ next.2 := by
  rw [perform, foldl_dispatch_frame]

@[simp] theorem perform_stream (world : StreamWorld)
    (next : QUICDataStream × List StreamCall) :
    (world.perform next).stream = next.1 := by
  rw [perform, foldl_dispatch_frame]

end Dispatch

end StreamWorld

end RevSDK
