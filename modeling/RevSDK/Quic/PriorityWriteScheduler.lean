import Mathlib.Algebra.GroupWithZero.Nat
import RevSDK.Foundation.BucketQueue
import RevSDK.Foundation.Outcome

/-!
# The scheduler of writing streams

Registered streams that are ready to write wait in one list for each priority.
The scheduler keeps the order of one queue that is sorted by priority.
-/

namespace RevSDK

open RevSDK.Foundation

def kV3HighestPriority : Nat := 0

def kV3LowestPriority : Nat := 7

structure StreamInfo where
  priority : Nat
  ready : Bool
  deriving DecidableEq

structure PriorityWriteScheduler (ι : Type) where
  readyLists : Nat → List ι := fun _ => []
  streamInfos : ι → Option StreamInfo := fun _ => none

namespace PriorityWriteScheduler

variable {ι : Type} [DecidableEq ι] [Zero ι]

def clampPriority (priority : Nat) : Nat :=
  if priority < kV3HighestPriority then kV3HighestPriority
  else if priority > kV3LowestPriority then kV3LowestPriority
  else priority

def readyList (scheduler : PriorityWriteScheduler ι) (priority : Nat) :
    Outcome (List ι) :=
  if priority ≤ kV3LowestPriority then return scheduler.readyLists priority
  else .error (.undefinedBehaviour "ready_lists_[priority]")

def setReadyList (scheduler : PriorityWriteScheduler ι) (priority : Nat)
    (readyList : List ι) : PriorityWriteScheduler ι :=
  { scheduler with
    readyLists := Function.update scheduler.readyLists priority readyList }

def setStreamInfo (scheduler : PriorityWriteScheduler ι) (streamId : ι)
    (streamInfo : Option StreamInfo) : PriorityWriteScheduler ι :=
  { scheduler with
    streamInfos := Function.update scheduler.streamInfos streamId streamInfo }

def registerStream (scheduler : PriorityWriteScheduler ι) (streamId : ι)
    (priority : Nat) : PriorityWriteScheduler ι :=
  match scheduler.streamInfos streamId with
  | some _ => scheduler
  | none =>
      scheduler.setStreamInfo streamId (some ⟨clampPriority priority, false⟩)

def erase (scheduler : PriorityWriteScheduler ι) (streamId : ι)
    (priority : Nat) : Outcome (PriorityWriteScheduler ι) := do
  let readyList ← scheduler.readyList priority
  assertion (readyList.contains streamId) "erased"
  return scheduler.setReadyList priority (readyList.erase streamId)

def unregisterStream (scheduler : PriorityWriteScheduler ι) (streamId : ι) :
    Outcome (PriorityWriteScheduler ι) :=
  match scheduler.streamInfos streamId with
  | none => return scheduler
  | some streamInfo => do
      let scheduler ←
        if streamInfo.ready then scheduler.erase streamId streamInfo.priority
        else pure scheduler
      return scheduler.setStreamInfo streamId none

def getStreamPriority (scheduler : PriorityWriteScheduler ι) (streamId : ι) :
    Nat :=
  match scheduler.streamInfos streamId with
  | none => kV3LowestPriority
  | some streamInfo => streamInfo.priority

/-- Unlike at the registration, the priority is taken as it is. -/
def updateStreamPriority (scheduler : PriorityWriteScheduler ι) (streamId : ι)
    (priority : Nat) : Outcome (PriorityWriteScheduler ι) :=
  match scheduler.streamInfos streamId with
  | none => return scheduler
  | some streamInfo =>
      if streamInfo.priority = priority then return scheduler
      else do
        let scheduler ←
          if streamInfo.ready then do
            let scheduler ← scheduler.erase streamId streamInfo.priority
            let readyList ← scheduler.readyList priority
            pure (scheduler.setReadyList priority (readyList ++ [streamId]))
          else pure scheduler
        return scheduler.setStreamInfo streamId
          (some { streamInfo with priority })

def popNextReadyStream (scheduler : PriorityWriteScheduler ι) :
    ι × PriorityWriteScheduler ι :=
  match (List.range (kV3LowestPriority + 1)).find? fun priority =>
      !(scheduler.readyLists priority).isEmpty with
  | none => (0, scheduler)
  | some priority =>
      match scheduler.readyLists priority with
      | [] => (0, scheduler)
      | streamId :: rest =>
          let scheduler := scheduler.setReadyList priority rest
          match scheduler.streamInfos streamId with
          | none => (streamId, scheduler)
          | some streamInfo =>
              (streamId, scheduler.setStreamInfo streamId
                (some { streamInfo with ready := false }))

def hasHigherPriorityReadyStream (scheduler : PriorityWriteScheduler ι)
    (streamId : ι) : Bool :=
  match scheduler.streamInfos streamId with
  | none => false
  | some streamInfo =>
      (List.range streamInfo.priority).any fun priority =>
        !(scheduler.readyLists priority).isEmpty

def markStreamReady (scheduler : PriorityWriteScheduler ι) (streamId : ι)
    (addToFront : Bool) : Outcome (PriorityWriteScheduler ι) :=
  match scheduler.streamInfos streamId with
  | none => return scheduler
  | some streamInfo =>
      if streamInfo.ready then return scheduler
      else do
        let readyList ← scheduler.readyList streamInfo.priority
        let readyList :=
          if addToFront then streamId :: readyList else readyList ++ [streamId]
        return (scheduler.setReadyList streamInfo.priority
          readyList).setStreamInfo streamId
            (some { streamInfo with ready := true })

def markStreamNotReady (scheduler : PriorityWriteScheduler ι) (streamId : ι) :
    Outcome (PriorityWriteScheduler ι) :=
  match scheduler.streamInfos streamId with
  | none => return scheduler
  | some streamInfo =>
      if !streamInfo.ready then return scheduler
      else do
        let scheduler ← scheduler.erase streamId streamInfo.priority
        return scheduler.setStreamInfo streamId
          (some { streamInfo with ready := false })

def hasReadyStreams (scheduler : PriorityWriteScheduler ι) : Bool :=
  (List.range (kV3LowestPriority + 1)).any fun priority =>
    !(scheduler.readyLists priority).isEmpty

def numReadyStreams (scheduler : PriorityWriteScheduler ι) : Nat :=
  ((List.range (kV3LowestPriority + 1)).map fun priority =>
    (scheduler.readyLists priority).length).sum

def numReadyStreamsOf (scheduler : PriorityWriteScheduler ι) (priority : Nat) :
    Nat :=
  (scheduler.readyLists (clampPriority priority)).length

end PriorityWriteScheduler

end RevSDK
