import RevSDK.Connection.Data
import RevSDK.Connection.Error
import RevSDK.Foundation.Outcome
import RevSDK.Foundation.Runs
import Mathlib.Logic.Function.Basic

/-!
# The origin session

All tasks of `RSOriginSession` share one map from connection identifiers to
delegates.  A callback looks its delegate up, passes the message on, and drops
the delegate if it finds the task completed by then; the callbacks for a
response and for data also send a completion of their own in that case.  An
identifier is the decimal text of a counter and stands as its value; delegates
and responses are passed on only and stand as numbers.
-/

namespace RevSDK

open RevSDK.Foundation

inductive TaskCall where
  | didReceiveResponse (response : Nat)
  | didReceiveData (data : Data)
  | didCompleteWithError (error : Option Error)

/-- `NSMutableDictionary` is a partial function. -/
abbrev RSLockedMap := Int → Option Nat

namespace RSLockedMap

def setDelegate (mMap : RSLockedMap) (aDelegate : Nat) (aConnectionId : Int) :
    RSLockedMap :=
  Function.update mMap aConnectionId (some aDelegate)

def removeConnectionId (mMap : RSLockedMap) (aConnectionId : Int) :
    RSLockedMap :=
  Function.update mMap aConnectionId none

def delegateForConnectionId (mMap : RSLockedMap) (aConnectionId : Int) :
    Option Nat :=
  mMap aConnectionId

end RSLockedMap

/--
A task with the delegate it was created for and the callbacks it has had, each
with whether the task was completed by then.
-/
structure NSURLSessionTask where
  taskDescription : Int
  completed : Bool
  delegate : Nat
  history : List (TaskCall × Bool)

structure SentMessage where
  delegate : Nat
  task : Int
  call : TaskCall

structure RSOriginSession where
  cnt : Int
  performed : List (Int × Nat)
  map : RSLockedMap
  tasks : List NSURLSessionTask
  messages : List SentMessage

inductive OriginEvent where
  | createTaskWithRequest (aDelegate : Option Nat)
  | p_createTaskWithParams (index : Nat)
  | completes (index : Nat)
  | didReceiveResponse (index : Nat) (response : Nat)
  | didReceiveData (index : Nat) (data : Data)
  | didCompleteWithError (index : Nat) (error : Option Error)

namespace RSOriginSession

/-- The counter is an `int`. -/
def uniqueConnectionIdentifier (session : RSOriginSession) :
    Outcome (Int × RSOriginSession) :=
  if session.cnt < 2 ^ 31 - 1 then
    .ok (session.cnt, { session with cnt := session.cnt + 1 })
  else .error (.undefinedBehaviour "signed integer overflow")

/-- The parameters wait for the thread of the session. -/
def createTaskWithRequest (session : RSOriginSession)
    (aDelegate : Option Nat) : Outcome RSOriginSession :=
  match aDelegate with
  | none => .ok session
  | some delegate => do
      let (connectionId, session) ← session.uniqueConnectionIdentifier
      return { session with
        performed := session.performed ++ [(connectionId, delegate)] }

def p_createTaskWithParams (session : RSOriginSession) (index : Nat) :
    RSOriginSession :=
  match session.performed[index]? with
  | none => session
  | some (connectionId, delegate) =>
      { session with
        performed := session.performed.eraseIdx index
        map := session.map.setDelegate delegate connectionId
        tasks := session.tasks ++ [⟨connectionId, false, delegate, []⟩] }

/-- A message to `nil` does nothing. -/
def send (session : RSOriginSession) (delegate : Option Nat) (task : Int)
    (call : TaskCall) : RSOriginSession :=
  match delegate with
  | none => session
  | some delegate =>
      { session with messages := session.messages ++ [⟨delegate, task, call⟩] }

def taskDidComplete (session : RSOriginSession) (task : NSURLSessionTask)
    (error : Option Error) : RSOriginSession :=
  let delegate := session.map.delegateForConnectionId task.taskDescription
  let session := session.send delegate task.taskDescription
    (.didCompleteWithError error)
  if task.completed then
    { session with
      map := session.map.removeConnectionId task.taskDescription }
  else session

def taskDidReceive (session : RSOriginSession) (task : NSURLSessionTask)
    (call : TaskCall) : RSOriginSession :=
  let delegate := session.map.delegateForConnectionId task.taskDescription
  let session := session.send delegate task.taskDescription call
  if task.completed then
    let session := session.send delegate task.taskDescription
      (.didCompleteWithError none)
    { session with
      map := session.map.removeConnectionId task.taskDescription }
  else session

def record (session : RSOriginSession) (index : Nat) (call : TaskCall) :
    RSOriginSession :=
  { session with
    tasks := session.tasks.modify index fun task =>
      { task with history := task.history ++ [(call, task.completed)] } }

def didReceiveResponse (session : RSOriginSession) (index response : Nat) :
    RSOriginSession :=
  match session.tasks[index]? with
  | none => session
  | some task =>
      (session.taskDidReceive task (.didReceiveResponse response)).record index
        (.didReceiveResponse response)

def didReceiveData (session : RSOriginSession) (index : Nat) (data : Data) :
    RSOriginSession :=
  match session.tasks[index]? with
  | none => session
  | some task =>
      (session.taskDidReceive task (.didReceiveData data)).record index
        (.didReceiveData data)

def didCompleteWithError (session : RSOriginSession) (index : Nat)
    (error : Option Error) : RSOriginSession :=
  match session.tasks[index]? with
  | none => session
  | some task =>
      (session.taskDidComplete task error).record index
        (.didCompleteWithError error)

def react (session : RSOriginSession) : OriginEvent → Outcome RSOriginSession
  | .createTaskWithRequest aDelegate => session.createTaskWithRequest aDelegate
  | .p_createTaskWithParams index => .ok (session.p_createTaskWithParams index)
  | .completes index =>
      .ok { session with
        tasks := session.tasks.modify index fun task =>
          { task with completed := true } }
  | .didReceiveResponse index response =>
      .ok (session.didReceiveResponse index response)
  | .didReceiveData index data => .ok (session.didReceiveData index data)
  | .didCompleteWithError index error =>
      .ok (session.didCompleteWithError index error)

def start : RSOriginSession where
  cnt := 0
  performed := []
  map _ := none
  tasks := []
  messages := []

def system : EventSystem RSOriginSession OriginEvent where
  initial session := session = start
  step session event := (session.react event).toOption

end RSOriginSession

namespace NSURLSessionTask

def delivered (task : NSURLSessionTask) : List TaskCall :=
  task.history.map Prod.fst

def finished (task : NSURLSessionTask) : Prop :=
  ∃ error, .didCompleteWithError error ∈ task.delivered

end NSURLSessionTask

namespace RSOriginSession

/-- `NSURLSession` delivers one response, then data, then one completion. -/
def Admitted (session : RSOriginSession) : OriginEvent → Prop
  | .createTaskWithRequest _ => True
  | .p_createTaskWithParams index => index < session.performed.length
  | .completes index => index < session.tasks.length
  | .didReceiveResponse index _ => ∃ task, session.tasks[index]? = some task ∧
      task.delivered = []
  | .didReceiveData index _ => ∃ task, session.tasks[index]? = some task ∧
      task.delivered ≠ [] ∧ ¬ task.finished
  | .didCompleteWithError index _ => ∃ task,
      session.tasks[index]? = some task ∧ ¬ task.finished

/-- What the delegate of the task was sent about it, in order. -/
def told (session : RSOriginSession) (task : NSURLSessionTask) :
    List TaskCall :=
  (session.messages.filter fun message =>
    message.task == task.taskDescription &&
      message.delegate == task.delegate).map SentMessage.call

end RSOriginSession

end RevSDK
