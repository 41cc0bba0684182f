import RevSDK.Foundation.Blocks
import RevSDK.Foundation.Extents
import RevSDK.Foundation.Outcome
import RevSDK.Quic.SequencerBuffer

/-!
# The circular sequencer buffer

`StreamSequencerBuffer` keeps what has arrived in blocks that stand in a ring,
and the missing offsets in a list of gaps.  Stream offsets are 64-bit, and so
are the sums of an offset and a length.  Reading a null block, or past the end
of a container, is undefined behaviour.
-/

namespace RevSDK

open RevSDK.Foundation

abbrev Gap := Extent

structure FrameInfo where
  length : Nat
  timestamp : Nat
  deriving DecidableEq

abbrev FrameArrivalTimeMap := List (Nat × FrameInfo)

structure BufferLayout where
  maxBufferCapacityBytes : Nat
  kBlockSizeBytes : Nat
  capacity_pos : 0 < maxBufferCapacityBytes
  block_pos : 0 < kBlockSizeBytes

namespace BufferLayout

variable (layout : BufferLayout)

def blocksCount : Nat :=
  (layout.maxBufferCapacityBytes + layout.kBlockSizeBytes - 1) /
    layout.kBlockSizeBytes

def getBlockIndex (offset : Nat) : Nat :=
  offset % layout.maxBufferCapacityBytes / layout.kBlockSizeBytes

def getInBlockOffset (offset : Nat) : Nat :=
  offset % layout.maxBufferCapacityBytes % layout.kBlockSizeBytes

def getBlockCapacity (blockIndex : Nat) : Nat :=
  if blockIndex + 1 = layout.blocksCount then
    let result := layout.maxBufferCapacityBytes % layout.kBlockSizeBytes
    if result = 0 then layout.kBlockSizeBytes else result
  else layout.kBlockSizeBytes

end BufferLayout

structure StreamSequencerBuffer (layout : BufferLayout) where
  totalBytesRead : Nat
  gaps : List Gap
  blocks : Blocks UInt8
  numBytesBuffered : Nat
  frameArrivalTimeMap : FrameArrivalTimeMap
  deriving DecidableEq

namespace FrameArrivalTimeMap

/-- An entry that exists is not replaced. -/
def insert (offset : Nat) (info : FrameInfo) :
    FrameArrivalTimeMap → FrameArrivalTimeMap
  | [] => [(offset, info)]
  | (key, other) :: rest =>
      if offset < key then (offset, info) :: (key, other) :: rest
      else if offset = key then (key, other) :: rest
      else (key, other) :: insert offset info rest

def erase (offset : Nat) (frames : FrameArrivalTimeMap) :
    FrameArrivalTimeMap :=
  frames.filter fun frame => frame.1 ≠ offset

def retire (offset : Nat) (frames : FrameArrivalTimeMap)
    (erased : Nat × FrameInfo) : FrameArrivalTimeMap :=
  let frames := erase erased.1 frames
  if offset < erased.1 + erased.2.length then
    frames.insert offset
      ⟨erased.1 + erased.2.length - offset, erased.2.timestamp⟩
  else frames

def updateFrameArrivalMap (offset : Nat)
    (frames : FrameArrivalTimeMap) : FrameArrivalTimeMap :=
  (frames.takeWhile fun frame => frame.1 ≤ offset).foldl (retire offset) frames

end FrameArrivalTimeMap

def updateGapList (gap : Gap) (startOffset bytesWritten : Nat) : List Gap :=
  let finish := offsetSum startOffset bytesWritten
  if gap.beginOffset = startOffset ∧ gap.endOffset > finish then
    [⟨finish, gap.endOffset⟩]
  else if gap.beginOffset < startOffset ∧ gap.endOffset = finish then
    [⟨gap.beginOffset, startOffset⟩]
  else if gap.beginOffset < startOffset ∧ gap.endOffset > finish then
    [⟨gap.beginOffset, startOffset⟩, ⟨finish, gap.endOffset⟩]
  else if gap.beginOffset = startOffset ∧ gap.endOffset = finish then []
  else [gap]

section Memory

variable {layout : BufferLayout}

def blockAt (blocks : Blocks UInt8) (index : Nat) : Outcome (List UInt8) :=
  match blocks[index]? with
  | some (some block) => .ok block
  | _ => .error (.undefinedBehaviour "null block")

def readBlock (block : List UInt8) (offset count : Nat) :
    Outcome (List UInt8) :=
  if offset + count ≤ block.length then .ok ((block.drop offset).take count)
  else .error (.undefinedBehaviour "read past the block")

def writeBlock (block : List UInt8) (offset : Nat) (source : List UInt8) :
    Outcome (List UInt8) :=
  if offset + source.length ≤ block.length then
    .ok (overwrite block offset source)
  else .error (.undefinedBehaviour "write past the block")

variable (layout)

/-- A block that is null is created first, all zero. -/
def blockForWriting (blocks : Blocks UInt8) (index : Nat) :
    Outcome (List UInt8) :=
  match blocks[index]? with
  | some (some block) => .ok block
  | some none => .ok (List.replicate layout.kBlockSizeBytes 0)
  | none => .error (.undefinedBehaviour "no such block")

/--
The loop of `OnStreamData`, for at most so many rounds; a round that copies
nothing would be repeated for ever.
-/
def writeBlocks (limit : Nat) :
    Nat → Blocks UInt8 → Nat → List UInt8 →
      Outcome (Blocks UInt8)
  | _, blocks, _, [] => .ok blocks
  | 0, _, _, _ :: _ => .error (.undefinedBehaviour "endless loop")
  | rounds + 1, blocks, offset, source => do
      let writeBlockNum := layout.getBlockIndex offset
      let writeBlockOffset := layout.getInBlockOffset offset
      let blockCapacity := layout.getBlockCapacity writeBlockNum
      let room := blockCapacity - writeBlockOffset
      let bytesAvail :=
        if limit < offsetSum offset room then limit - offset else room
      let block ← blockForWriting layout blocks writeBlockNum
      let bytesToCopy := min bytesAvail source.length
      let written ← writeBlock block writeBlockOffset (source.take bytesToCopy)
      writeBlocks limit rounds (blocks.set writeBlockNum (some written))
        (offsetSum offset bytesToCopy) (source.drop bytesToCopy)

end Memory

namespace StreamSequencerBuffer

variable {layout : BufferLayout}

def clear (buffer : StreamSequencerBuffer layout) :
    StreamSequencerBuffer layout where
  totalBytesRead := buffer.totalBytesRead
  gaps := [⟨buffer.totalBytesRead, maxStreamOffset⟩]
  blocks := buffer.blocks.map fun _ => none
  numBytesBuffered := 0
  frameArrivalTimeMap := []

variable (layout) in
def new : StreamSequencerBuffer layout :=
  clear ⟨0, [], List.replicate layout.blocksCount none, 0, []⟩

def frontGap (buffer : StreamSequencerBuffer layout) : Outcome Gap :=
  match buffer.gaps with
  | [] => .error (.undefinedBehaviour "front of an empty list")
  | gap :: _ => .ok gap

def backGap (buffer : StreamSequencerBuffer layout) : Outcome Gap :=
  match buffer.gaps.getLast? with
  | none => .error (.undefinedBehaviour "back of an empty list")
  | some gap => .ok gap

def empty (buffer : StreamSequencerBuffer layout) : Bool :=
  match buffer.gaps with
  | [gap] => gap.beginOffset == buffer.totalBytesRead
  | _ => false

def readableBytes (buffer : StreamSequencerBuffer layout) : Outcome Nat := do
  let gap ← buffer.frontGap
  return gap.beginOffset - buffer.totalBytesRead

def hasBytesToRead (buffer : StreamSequencerBuffer layout) : Outcome Bool := do
  let readable ← buffer.readableBytes
  return decide (0 < readable)

def nextBlockToRead (buffer : StreamSequencerBuffer layout) : Nat :=
  layout.getBlockIndex buffer.totalBytesRead

def readOffset (buffer : StreamSequencerBuffer layout) : Nat :=
  layout.getInBlockOffset buffer.totalBytesRead

def onStreamData (buffer : StreamSequencerBuffer layout)
    (startingOffset : Nat) (data : List UInt8)
    (timestamp : Nat) :
    Outcome (QuicErrorCode × Nat × StreamSequencerBuffer layout) :=
  if data.isEmpty then .ok (.invalidStreamFrame, 0, buffer)
  else
    let ended := fun gap : Gap => gap.endOffset ≤ startingOffset
    match buffer.gaps.dropWhile ended with
    | [] => .error (.undefinedBehaviour "end of the gaps")
    | currentGap :: later =>
        let finish := offsetSum startingOffset data.length
        let limit :=
          offsetSum buffer.totalBytesRead layout.maxBufferCapacityBytes
        if startingOffset < currentGap.beginOffset ∧
            finish ≤ currentGap.beginOffset then
          .ok (.noError, 0, buffer)
        else if startingOffset < currentGap.beginOffset ∧
            finish > currentGap.beginOffset then
          .ok (.invalidStreamData, 0, buffer)
        else if finish > currentGap.endOffset then
          .ok (.invalidStreamData, 0, buffer)
        else if finish > limit then .ok (.internalError, 0, buffer)
        else do
          let blocks ← writeBlocks layout limit data.length buffer.blocks
            startingOffset data
          return (.noError, data.length,
            { buffer with
              gaps := buffer.gaps.takeWhile ended ++
                updateGapList currentGap startingOffset data.length ++ later
              blocks
              numBytesBuffered := buffer.numBytesBuffered + data.length
              frameArrivalTimeMap := buffer.frameArrivalTimeMap.insert
                startingOffset ⟨data.length, timestamp⟩ })

def retireBlock (buffer : StreamSequencerBuffer layout) (index : Nat) :
    StreamSequencerBuffer layout :=
  { buffer with blocks := buffer.blocks.set index none }

/--
The name `gap_extends_to_infinity` of the source stands for the opposite of
what it says.
-/
def retireBlockIfEmpty (buffer : StreamSequencerBuffer layout)
    (blockIndex : Nat) : Outcome (StreamSequencerBuffer layout) :=
  if buffer.empty then .ok (buffer.retireBlock blockIndex)
  else do
    let back ← buffer.backGap
    if layout.getBlockIndex (back.beginOffset - 1) = blockIndex then
      return buffer
    else if buffer.nextBlockToRead = blockIndex then do
      let firstGap ← buffer.frontGap
      let gapExtendsToInfinity := firstGap.endOffset ≠ maxStreamOffset
      let gapEndsInThisBlock :=
        layout.getBlockIndex firstGap.endOffset = blockIndex
      if gapExtendsToInfinity ∨ gapEndsInThisBlock then return buffer
      else return buffer.retireBlock blockIndex
    else return buffer.retireBlock blockIndex

def advance (buffer : StreamSequencerBuffer layout) (count : Nat) :
    StreamSequencerBuffer layout :=
  { buffer with
    totalBytesRead := buffer.totalBytesRead + count
    numBytesBuffered := buffer.numBytesBuffered - count }

/-- The end of a round of `Readv` or `MarkConsumed`. -/
def finishRound (buffer : StreamSequencerBuffer layout)
    (blockIdx bytesAvailable bytesRead : Nat) :
    Outcome (StreamSequencerBuffer layout) :=
  let buffer := buffer.advance bytesRead
  if bytesRead = bytesAvailable then buffer.retireBlockIfEmpty blockIdx
  else .ok buffer

/-- The inner loop of `Readv` fills one destination. -/
def fillDestination : Nat → StreamSequencerBuffer layout → Nat →
    Outcome (List UInt8 × StreamSequencerBuffer layout)
  | _, buffer, 0 => .ok ([], buffer)
  | 0, _, _ + 1 => .error (.undefinedBehaviour "endless loop")
  | rounds + 1, buffer, destRemaining => do
      let readable ← buffer.readableBytes
      if readable = 0 then return ([], buffer)
      else
        let blockIdx := buffer.nextBlockToRead
        let startOffsetInBlock := buffer.readOffset
        let bytesAvailableInBlock :=
          min readable (layout.getBlockCapacity blockIdx - startOffsetInBlock)
        let bytesToCopy := min bytesAvailableInBlock destRemaining
        let block ← blockAt buffer.blocks blockIdx
        let bytes ← readBlock block startOffsetInBlock bytesToCopy
        let buffer ←
          buffer.finishRound blockIdx bytesAvailableInBlock bytesToCopy
        let (rest, buffer) ←
          fillDestination rounds buffer (destRemaining - bytesToCopy)
        return (bytes ++ rest, buffer)

/-- The destinations are given by their sizes. -/
def fillDestinations : StreamSequencerBuffer layout → List Nat →
    Outcome (List UInt8 × StreamSequencerBuffer layout)
  | buffer, [] => .ok ([], buffer)
  | buffer, destination :: destinations => do
      let readable ← buffer.readableBytes
      if readable = 0 then return ([], buffer)
      else
        let (bytes, buffer) ← fillDestination destination buffer destination
        let (rest, buffer) ← fillDestinations buffer destinations
        return (bytes ++ rest, buffer)

def updateFrameArrivalMap (buffer : StreamSequencerBuffer layout) :
    StreamSequencerBuffer layout :=
  { buffer with
    frameArrivalTimeMap :=
      buffer.frameArrivalTimeMap.updateFrameArrivalMap buffer.totalBytesRead }

def readv (buffer : StreamSequencerBuffer layout) (destinations : List Nat) :
    Outcome (List UInt8 × StreamSequencerBuffer layout) := do
  let (bytes, buffer) ← buffer.fillDestinations destinations
  return (bytes, if bytes.isEmpty then buffer else buffer.updateFrameArrivalMap)

def region (buffer : StreamSequencerBuffer layout)
    (blockIdx start length : Nat) : Outcome (List UInt8) := do
  let block ← blockAt buffer.blocks blockIdx
  readBlock block start length

/--
The loop of `GetReadableRegions` after the first region: whole blocks up to the
last one, and that one if there is room.
-/
def laterRegions (buffer : StreamSequencerBuffer layout)
    (endBlockIdx endBlockOffset : Nat) :
    Nat → Nat → Outcome (List (List UInt8))
  | _, 0 => .ok []
  | blockIdx, iovLeft + 1 =>
      if blockIdx = endBlockIdx then do
        let last ← buffer.region endBlockIdx 0 (endBlockOffset + 1)
        return [last]
      else do
        let whole ←
          buffer.region blockIdx 0 (layout.getBlockCapacity blockIdx)
        let rest ← laterRegions buffer endBlockIdx endBlockOffset
          ((blockIdx + 1) % layout.blocksCount) iovLeft
        return whole :: rest

def getReadableRegions (buffer : StreamSequencerBuffer layout)
    (iovCount : Nat) : Outcome (List (List UInt8)) := do
  let readable ← buffer.readableBytes
  if readable = 0 then return []
  else
    let startBlockIdx := buffer.nextBlockToRead
    let front ← buffer.frontGap
    let readableOffsetEnd := front.beginOffset - 1
    let endBlockOffset := layout.getInBlockOffset readableOffsetEnd
    let endBlockIdx := layout.getBlockIndex readableOffsetEnd
    if startBlockIdx = endBlockIdx ∧ buffer.readOffset ≤ endBlockOffset then do
      let only ← buffer.region startBlockIdx buffer.readOffset readable
      return [only]
    else do
      let first ← buffer.region startBlockIdx buffer.readOffset
        (layout.getBlockCapacity startBlockIdx - buffer.readOffset)
      let rest ← buffer.laterRegions endBlockIdx endBlockOffset
        ((startBlockIdx + 1) % layout.blocksCount) (iovCount - 1)
      return first :: rest

/-- The loop of `GetReadableRegion`: the length, and where it stopped. -/
def frameRegion (readableBytesInBlock : Nat) (timestamp : Nat) :
    FrameArrivalTimeMap → Nat → Nat × FrameArrivalTimeMap
  | [], regionLen => (regionLen, [])
  | frame :: frames, regionLen =>
      if regionLen + frame.2.length ≤ readableBytesInBlock then
        if frame.2.timestamp = timestamp then
          frameRegion readableBytesInBlock timestamp frames
            (regionLen + frame.2.length)
        else (regionLen, frame :: frames)
      else (regionLen, frame :: frames)

def regionLength (readableBytesInBlock : Nat) (timestamp : Nat) :
    Nat × FrameArrivalTimeMap → Nat
  | (_, []) => readableBytesInBlock
  | (regionLen, next :: _) =>
      if next.2.timestamp = timestamp then readableBytesInBlock else regionLen

def getReadableRegion (buffer : StreamSequencerBuffer layout) :
    Outcome (Option (List UInt8 × Nat)) := do
  let readable ← buffer.readableBytes
  if readable = 0 then return none
  else
    let startBlockIdx := buffer.nextBlockToRead
    let readableBytesInBlock := min
      (layout.getBlockCapacity startBlockIdx - buffer.readOffset) readable
    match buffer.frameArrivalTimeMap with
    | [] => .error (.undefinedBehaviour "end of the frames")
    | frame :: frames =>
        let timestamp := frame.2.timestamp
        let regionLen := regionLength readableBytesInBlock timestamp
          (frameRegion readableBytesInBlock timestamp (frame :: frames) 0)
        let bytes ← buffer.region startBlockIdx buffer.readOffset regionLen
        return some (bytes, timestamp)

def consumeBlocks : Nat → StreamSequencerBuffer layout → Nat →
    Outcome (StreamSequencerBuffer layout)
  | _, buffer, 0 => .ok buffer
  | 0, _, _ + 1 => .error (.undefinedBehaviour "endless loop")
  | rounds + 1, buffer, bytesToConsume => do
      let blockIdx := buffer.nextBlockToRead
      let offsetInBlock := buffer.readOffset
      let readable ← buffer.readableBytes
      let bytesAvailable :=
        min readable (layout.getBlockCapacity blockIdx - offsetInBlock)
      let bytesRead := min bytesToConsume bytesAvailable
      let buffer ← buffer.finishRound blockIdx bytesAvailable bytesRead
      consumeBlocks rounds buffer (bytesToConsume - bytesRead)

def markConsumed (buffer : StreamSequencerBuffer layout) (bytesUsed : Nat) :
    Outcome (Bool × StreamSequencerBuffer layout) := do
  let readable ← buffer.readableBytes
  if bytesUsed > readable then return (false, buffer)
  else
    let buffer ← consumeBlocks bytesUsed buffer bytesUsed
    return (true,
      if bytesUsed > 0 then buffer.updateFrameArrivalMap else buffer)

def flushBufferedFrames (buffer : StreamSequencerBuffer layout) :
    Outcome (Nat × StreamSequencerBuffer layout) := do
  let back ← buffer.backGap
  let flushed := clear { buffer with totalBytesRead := back.beginOffset }
  return (flushed.totalBytesRead - buffer.totalBytesRead, flushed)

instance : QuicStreamSequencerBufferInterface
    (StreamSequencerBuffer layout) where
  clear := clear
  empty := empty
  onStreamData := onStreamData
  readv := readv
  getReadableRegions := getReadableRegions
  getReadableRegion := getReadableRegion
  markConsumed := markConsumed
  flushBufferedFrames := flushBufferedFrames
  hasBytesToRead := hasBytesToRead
  bytesConsumed := totalBytesRead
  bytesBuffered := numBytesBuffered

end StreamSequencerBuffer

end RevSDK
