import RevSDK.Quic.SequencerBuffer

/-!
# The frame list

`QuicFrameList` is the other sequencer buffer: a list of the frames that have
not been read, by increasing offset.  The `int` counters of its loops stay in
range and are numbers here: `bytes_to_read` is at most the length of a frame,
which is a `uint16_t`, and the index of a region is below `iov_len`, an `int`.
-/

namespace RevSDK

open RevSDK.Foundation

structure FrameData where
  offset : Nat
  segment : List UInt8
  timestamp : Nat
  deriving DecidableEq

structure QuicFrameList where
  frameList : List FrameData := []
  totalBytesRead : Nat := 0
  numBytesBuffered : Nat := 0
  deriving DecidableEq

namespace FrameData

def finish (frame : FrameData) : Nat :=
  offsetSum frame.offset frame.segment.length

end FrameData

namespace QuicFrameList

def clear (buffer : QuicFrameList) : QuicFrameList :=
  { buffer with frameList := [], numBytesBuffered := 0 }

def empty (buffer : QuicFrameList) : Bool := buffer.frameList.isEmpty

/-- The frames in front of the insertion point, and those from there on. -/
def findInsertionPoint (buffer : QuicFrameList) (offset : Nat) :
    List FrameData × List FrameData :=
  match buffer.frameList.getLast? with
  | none => ([], [])
  | some last =>
      if offset ≥ last.finish then (buffer.frameList, [])
      else buffer.frameList.span fun frame => offset ≥ frame.finish

def frameOverlapsBufferedData (offset dataLen : Nat) :
    List FrameData → Bool
  | [] => false
  | frame :: _ =>
      decide (offset < frame.offset ∧
          offsetSum offset dataLen > frame.offset) ||
        decide (offset ≥ frame.offset ∧ offset < frame.finish)

def isDuplicate (buffer : QuicFrameList) (offset : Nat)
    (insertionPoint : List FrameData) : Bool :=
  decide (offset < buffer.totalBytesRead) ||
    insertionPoint.head?.any fun frame => offset == frame.offset

def onStreamData (buffer : QuicFrameList) (offset : Nat) (data : List UInt8)
    (timestamp : Nat) : QuicErrorCode × Nat × QuicFrameList :=
  let (before, insertionPoint) := buffer.findInsertionPoint offset
  if buffer.isDuplicate offset insertionPoint then (.noError, 0, buffer)
  else if frameOverlapsBufferedData offset data.length insertionPoint then
    (.invalidStreamData, 0, buffer)
  else
    (.noError, data.length,
      { buffer with
        frameList := before ++ ⟨offset, data, timestamp⟩ :: insertionPoint
        numBytesBuffered := buffer.numBytesBuffered + data.length })

def readableFrames : Nat → List FrameData → Nat → List (List UInt8)
  | _, [], _ => []
  | _, _, 0 => []
  | offset, frame :: rest, iovLeft + 1 =>
      if frame.offset ≠ offset then []
      else frame.segment ::
        readableFrames (offset + frame.segment.length) rest iovLeft

def getReadableRegions (buffer : QuicFrameList) (iovLen : Nat) :
    List (List UInt8) :=
  readableFrames buffer.totalBytesRead buffer.frameList iovLen

def getReadableRegion (buffer : QuicFrameList) : Option (List UInt8 × Nat) :=
  match buffer.frameList with
  | [] => none
  | frame :: _ =>
      if frame.offset ≠ buffer.totalBytesRead then none
      else some (frame.segment, frame.timestamp)

def consumeFrames (endOffset : Nat) :
    List FrameData → Nat → Nat → Bool × QuicFrameList
  | [], total, buffered => (true, ⟨[], total, buffered⟩)
  | frame :: rest, total, buffered =>
      if endOffset = total then (true, ⟨frame :: rest, total, buffered⟩)
      else if frame.offset ≠ total then
        (false, ⟨frame :: rest, total, buffered⟩)
      else if frame.finish ≤ endOffset then
        consumeFrames endOffset rest (total + frame.segment.length)
          (buffered - frame.segment.length)
      else
        let delta := endOffset - frame.offset
        (true,
          ⟨⟨total + delta, frame.segment.drop delta, frame.timestamp⟩ :: rest,
            total + delta, buffered - delta⟩)

def markConsumed (buffer : QuicFrameList) (bytesUsed : Nat) :
    Bool × QuicFrameList :=
  consumeFrames (offsetSum buffer.totalBytesRead bytesUsed) buffer.frameList
    buffer.totalBytesRead buffer.numBytesBuffered

/-- What the loop of `Readv` has copied of the first frame is not yet read. -/
structure ReadCursor where
  buffer : QuicFrameList
  frameOffset : Nat

def ReadCursor.copied (cursor : ReadCursor) (frame : FrameData)
    (rest : List FrameData) (count : Nat) : ReadCursor :=
  if frame.segment.length = cursor.frameOffset + count then
    { buffer :=
        { frameList := rest
          totalBytesRead :=
            cursor.buffer.totalBytesRead + frame.segment.length
          numBytesBuffered :=
            cursor.buffer.numBytesBuffered - frame.segment.length }
      frameOffset := 0 }
  else { cursor with frameOffset := cursor.frameOffset + count }

/-- Every round fills a destination or finishes a frame. -/
def readFrames : Nat → List Nat → ReadCursor →
    Outcome (List UInt8 × ReadCursor)
  | _, [], cursor => .ok ([], cursor)
  | 0, _ :: _, _ => .error (.undefinedBehaviour "endless loop")
  | rounds + 1, iovLeft :: destinations, cursor =>
      match cursor.buffer.frameList with
      | [] => .ok ([], cursor)
      | frame :: rest =>
          if frame.offset ≠ cursor.buffer.totalBytesRead then .ok ([], cursor)
          else do
            let bytesToRead :=
              min iovLeft (frame.segment.length - cursor.frameOffset)
            let bytes :=
              (frame.segment.drop cursor.frameOffset).take bytesToRead
            let (more, cursor) ← readFrames rounds
              (if iovLeft = bytesToRead then destinations
                else (iovLeft - bytesToRead) :: destinations)
              (cursor.copied frame rest bytesToRead)
            return (bytes ++ more, cursor)

/-- A frame that is copied in part is cut. -/
def ReadCursor.finish (cursor : ReadCursor) : QuicFrameList :=
  if cursor.frameOffset = 0 then cursor.buffer
  else
    match cursor.buffer.frameList with
    | [] => cursor.buffer
    | frame :: rest =>
        { frameList :=
            ⟨frame.offset + cursor.frameOffset,
              frame.segment.drop cursor.frameOffset, frame.timestamp⟩ :: rest
          totalBytesRead := cursor.buffer.totalBytesRead + cursor.frameOffset
          numBytesBuffered :=
            cursor.buffer.numBytesBuffered - cursor.frameOffset }

def readv (buffer : QuicFrameList) (destinations : List Nat) :
    Outcome (List UInt8 × QuicFrameList) := do
  let (bytes, cursor) ← readFrames
    (destinations.length + buffer.frameList.length) destinations ⟨buffer, 0⟩
  return (bytes, cursor.finish)

/-- `num_bytes_buffered_` is left as it is. -/
def flushBufferedFrames (buffer : QuicFrameList) : Nat × QuicFrameList :=
  match buffer.frameList.getLast? with
  | none => (0, buffer)
  | some last =>
      (last.finish - buffer.totalBytesRead,
        { buffer with frameList := [], totalBytesRead := last.finish })

def hasBytesToRead (buffer : QuicFrameList) : Bool :=
  buffer.frameList.head?.any fun frame => frame.offset == buffer.totalBytesRead

instance : QuicStreamSequencerBufferInterface QuicFrameList where
  clear := clear
  empty := empty
  onStreamData := fun buffer offset data timestamp =>
    .ok (buffer.onStreamData offset data timestamp)
  readv := readv
  getReadableRegions := fun buffer iovLen =>
    .ok (buffer.getReadableRegions iovLen)
  getReadableRegion := fun buffer => .ok buffer.getReadableRegion
  markConsumed := fun buffer bytesUsed => .ok (buffer.markConsumed bytesUsed)
  flushBufferedFrames := fun buffer => .ok buffer.flushBufferedFrames
  hasBytesToRead := fun buffer => .ok buffer.hasBytesToRead
  bytesConsumed := totalBytesRead
  bytesBuffered := numBytesBuffered

end QuicFrameList

end RevSDK
