import RevSDK.Connection.QUICAnchors

/-!
# The request in a record

A record is made of the request that its connection holds at the end.  That is
the one it was started with, unless the task was redirected to another.
-/

namespace RevSDK

open RevSDK.Foundation

def EdgeConnection.recordedRequest : EdgeConnection → Request
  | .standard task => task.connection.mCurrentRequest
  | .quic connection => connection.mRequest

def EdgeConnection.system (platform : URLPlatform) (started : EdgeConnection) :
    EventSystem EdgeConnection EdgeEvent where
  initial connection := connection = started
  step connection event :=
    (EdgeWorld.handle platform connection event).map Prod.fst

/-- The task is not redirected to another request. -/
def EdgeConnection.Unredirected (_ : EdgeConnection) : EdgeEvent → Prop
  | .standard (.willPerformHTTPRedirection _ _ _) => False
  | _ => True

section Connections

variable {platform : URLPlatform} {calls : List ConnectionCall}

theorem react_mCurrentRequest {task task' : StandardTask} {event : TaskEvent}
    (hsame : EdgeConnection.Unredirected (.standard task) (.standard event))
    (hreact : task.react platform event = .ok (task', calls)) :
    task'.connection.mCurrentRequest = task.connection.mCurrentRequest := by
  cases event with
  | willPerformHTTPRedirection edgeHost response request => exact hsame.elim
  | didReceiveData data =>
      have hpair : task.didReceiveData data = (task', calls) :=
        Except.ok.inj hreact
      unfold StandardTask.didReceiveData at hpair
      split at hpair <;>
      · obtain ⟨rfl, -⟩ := Prod.mk.inj hpair
        rfl
  | didReceiveResponse response =>
      have hpair : task.didReceiveResponse response = (task', calls) :=
        Except.ok.inj hreact
      unfold StandardTask.didReceiveResponse at hpair
      split at hpair <;>
      · obtain ⟨rfl, -⟩ := Prod.mk.inj hpair
        rfl
  | didCompleteWithError error now =>
      unfold StandardTask.react StandardTask.didCompleteWithError at hreact
      dsimp only at hreact
      split at hreact
      · obtain ⟨⟨connection, made⟩, hdone, hok⟩ :=
          (Outcome.bind_eq_ok _ _ _).mp hreact
        obtain ⟨base, -, hdone⟩ := (Outcome.bind_eq_ok _ _ _).mp hdone
        obtain ⟨rfl, -⟩ := Prod.mk.inj (Except.ok.inj hok)
        cases error <;>
        · obtain ⟨rfl, -⟩ := Prod.mk.inj (Except.ok.inj hdone)
          rfl
      · obtain ⟨rfl, -⟩ := Prod.mk.inj (Except.ok.inj hreact)
        rfl

theorem react_mRequest {connection connection' : QUICConnection}
    {event : QUICStreamEvent}
    (hreact : connection.react platform event = .ok (connection', calls)) :
    connection'.mRequest = connection.mRequest := by
  cases event with
  | quicSessionDidReceiveResponse aHeaders aCode =>
      unfold QUICConnection.react
        QUICConnection.quicSessionDidReceiveResponse at hreact
      dsimp only at hreact
      split at hreact
      · obtain ⟨target, -, hreact⟩ := (Outcome.bind_eq_ok _ _ _).mp hreact
        cases target <;>
        · obtain ⟨rfl, -⟩ := Prod.mk.inj (Except.ok.inj hreact)
          rfl
      · obtain ⟨rfl, -⟩ := Prod.mk.inj (Except.ok.inj hreact)
        rfl
  | quicSessionDidReceiveData aData =>
      obtain ⟨made, hsame⟩ := AnchoredConnection.data_keeps connection aData
      simp only [QUICConnection.react, hsame] at hreact
      obtain ⟨rfl, -⟩ := Prod.mk.inj (Except.ok.inj hreact)
      rfl
  | quicSessionDidFinish now =>
      obtain ⟨base, -, hfinish⟩ := (Outcome.bind_eq_ok _ _ _).mp hreact
      dsimp only at hfinish
      split at hfinish <;>
      · obtain ⟨rfl, -⟩ := Prod.mk.inj (Except.ok.inj hfinish)
        rfl
  | quicSessionDidFail error =>
      obtain ⟨made, hsame⟩ := AnchoredConnection.fail_keeps connection error
      simp only [QUICConnection.react, hsame] at hreact
      obtain ⟨rfl, -⟩ := Prod.mk.inj (Except.ok.inj hreact)
      rfl

theorem handle_recordedRequest {connection connection' : EdgeConnection}
    {event : EdgeEvent} (hsame : connection.Unredirected event)
    (hhandle : EdgeWorld.handle platform connection event =
      some (connection', calls)) :
    connection'.recordedRequest = connection.recordedRequest := by
  cases connection with
  | standard task =>
      cases event with
      | standard event =>
          obtain ⟨⟨task', made⟩, hreact, hnext⟩ :=
            Option.bind_eq_some_iff.mp hhandle
          obtain ⟨rfl, -⟩ := Prod.mk.inj (Option.some.inj hnext)
          exact react_mCurrentRequest hsame
            ((Outcome.toOption_eq_some _ _).mp hreact)
      | quic event => cases hhandle
  | quic connection =>
      cases event with
      | standard event => cases hhandle
      | quic event =>
          obtain ⟨⟨connection', made⟩, hreact, hnext⟩ :=
            Option.bind_eq_some_iff.mp hhandle
          obtain ⟨rfl, -⟩ := Prod.mk.inj (Option.some.inj hnext)
          exact react_mRequest ((Outcome.toOption_eq_some _ _).mp hreact)

theorem recordedRequest_eq {aProtocolName : String}
    {mShouldSimulateErrors : Bool} {request : Request}
    {started connection : EdgeConnection}
    (hstarted : EdgeConnection.startWithRequest platform aProtocolName
      mShouldSimulateErrors request = .ok (started, calls))
    {trail : List (EdgeConnection × EdgeEvent)}
    (path : (EdgeConnection.system platform started).Path (fun _ _ => True)
      trail connection)
    (hsame : EventSystem.Obeys EdgeConnection.Unredirected trail) :
    connection.recordedRequest = request := by
  have hstart : started.recordedRequest = request := by
    unfold EdgeConnection.startWithRequest at hstarted
    dsimp only at hstarted
    split at hstarted
    · obtain ⟨rfl, -⟩ := Prod.mk.inj (Except.ok.inj hstarted)
      unfold StandardConnection.startWithRequest
      dsimp only
      split <;> rfl
    · split at hstarted
      · obtain ⟨rfl, -⟩ := Prod.mk.inj (Except.ok.inj hstarted)
        rfl
      · cases hstarted
  have hrecorded : EventSystem.Throughout
      (fun connection => connection.recordedRequest = request) trail
      connection := by
    refine path.invariant ?_ ?_ hsame
    · rintro _ rfl
      exact hstart
    · intro connection event connection' hrecorded _ hsame hstep
      obtain ⟨⟨_, calls⟩, hhandle, rfl⟩ := Option.map_eq_some_iff.mp hstep
      exact (handle_recordedRequest hsame hhandle).trans hrecorded
  exact hrecorded.2

end Connections

end RevSDK
