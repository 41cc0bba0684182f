import RevSDK.Connection.ConnectionProxy

/-!
# How connections end

Each event of a transport ends its connection in one way, or leaves it running;
a redirected stream stays silent about its end.
-/

namespace RevSDK

open RevSDK.Foundation

inductive Ending where
  | success
  | failure
  deriving DecidableEq

theorem ConnectionCall.isFailure_of_running {call : ConnectionCall}
    (hrunning : call.isTerminal = false) : call.isFailure = false := by
  cases call with
  | connectionDidFailWithError aError => contradiction
  | _ => rfl

namespace EdgeConnection

def endingOf (failed : Bool) : Ending := if failed then .failure else .success

def endingOn : EdgeConnection → EdgeEvent → Option Ending
  | .standard task, .standard (.didCompleteWithError error _) =>
      if task.mapped then
        some (endingOf (error.isSome || task.connection.base.mIsFake))
      else none
  | .quic connection, .quic (.quicSessionDidFinish _) =>
      if connection.mRedirect.isNone then
        some (endingOf connection.base.mIsFake)
      else none
  | .quic connection, .quic (.quicSessionDidFail _) =>
      if connection.mRedirect.isNone then some .failure else none
  | _, _ => none

def failsOn (connection : EdgeConnection) (event : EdgeEvent) : Bool :=
  connection.endingOn event == some .failure

/-- A standard connection is refused if its URL has no host. -/
def refuses (platform : URLPlatform) (aProtocolName : String)
    (aRequest : Request) : Bool :=
  aProtocolName == standardProtocolName &&
    ((URLRequestFromRequest platform aRequest).URL.bind ParsedURL.host).isNone

/-- A refusal is a failure inside `startWithRequest`. -/
def endingOfStart (platform : URLPlatform) (aProtocolName : String)
    (aRequest : Request) : Option Ending :=
  if refuses platform aProtocolName aRequest then some .failure else none

theorem endingOfStart_beq (platform : URLPlatform) (aProtocolName : String)
    (aRequest : Request) :
    (endingOfStart platform aProtocolName aRequest == some .failure) =
      refuses platform aProtocolName aRequest := by
  unfold endingOfStart
  split
  next hrefuses => simp [hrefuses]
  next hstarts => simp [hstarts]

/-- The one call that ends a connection, or calls that do not. -/
inductive Calls : Option Ending → List ConnectionCall → Prop
  | failure (aError : Error) :
      Calls (some .failure) [.connectionDidFailWithError aError]
  | success : Calls (some .success) [.connectionDidFinish]
  | running {calls : List ConnectionCall} :
      (∀ call ∈ calls, call.isTerminal = false) → Calls none calls

variable {ending : Option Ending} {calls : List ConnectionCall}

theorem Calls.any_isTerminal (hcalls : Calls ending calls) :
    calls.any ConnectionCall.isTerminal = ending.isSome := by
  cases hcalls with
  | failure aError => rfl
  | success => rfl
  | running hothers => simpa using hothers

theorem Calls.any_isFailure (hcalls : Calls ending calls) :
    calls.any ConnectionCall.isFailure = (ending == some .failure) := by
  cases hcalls with
  | failure aError => rfl
  | success => rfl
  | running hothers =>
      have hnone : calls.any ConnectionCall.isFailure = false :=
        List.any_eq_false.mpr fun call hcall => by
          simp [ConnectionCall.isFailure_of_running (hothers call hcall)]
      rw [hnone]
      rfl

theorem Calls.silence : Calls none [] := .running (by simp)

theorem Calls.single {call : ConnectionCall}
    (hcall : call.isTerminal = false) : Calls none [call] :=
  .running (by simpa using hcall)

theorem succeed_calls (base : Connection) :
    Calls (some (endingOf base.mIsFake)) base.succeed := by
  unfold Connection.succeed endingOf
  split
  · exact .failure _
  · exact .success

theorem onEnd_mIsFake {base base' : Connection} {now : Int}
    (hend : base.onEnd now = .ok base') : base'.mIsFake = base.mIsFake := by
  obtain ⟨-, -, hend⟩ := (Outcome.bind_eq_ok _ _ _).mp hend
  rw [← Except.ok.inj hend]

variable {platform : URLPlatform}

theorem didCompleteWithError_calls
    {connection connection' : StandardConnection} {error : Option Error}
    {now : Int}
    (hdone : connection.didCompleteWithError error now =
      .ok (connection', calls)) :
    Calls (some (endingOf (error.isSome || connection.base.mIsFake)))
      calls := by
  obtain ⟨base, hend, hdone⟩ := (Outcome.bind_eq_ok _ _ _).mp hdone
  cases error with
  | none =>
      obtain ⟨-, rfl⟩ := Prod.mk.inj (Except.ok.inj hdone)
      rw [← onEnd_mIsFake hend]
      exact succeed_calls base
  | some error =>
      obtain ⟨-, rfl⟩ := Prod.mk.inj (Except.ok.inj hdone)
      exact .failure _

theorem standard_calls {task task' : StandardTask} {event : TaskEvent}
    (hreact : task.react platform event = .ok (task', calls)) :
    Calls (endingOn (.standard task) (.standard event)) calls := by
  cases event with
  | willPerformHTTPRedirection edgeHost response request =>
      simp only [StandardTask.react,
        StandardTask.willPerformHTTPRedirection] at hreact
      split at hreact
      next =>
        obtain ⟨⟨connection, made⟩, hredirected, hreact⟩ :=
          (Outcome.bind_eq_ok _ _ _).mp hreact
        obtain ⟨aRequest, -, hredirected⟩ :=
          (Outcome.bind_eq_ok _ _ _).mp hredirected
        obtain ⟨-, rfl⟩ := Prod.mk.inj (Except.ok.inj hredirected)
        obtain ⟨-, rfl⟩ := Prod.mk.inj (Except.ok.inj hreact)
        exact .single rfl
      next => contradiction
  | didReceiveData data =>
      simp only [StandardTask.react, StandardTask.didReceiveData] at hreact
      split at hreact <;>
        obtain ⟨-, rfl⟩ := Prod.mk.inj (Except.ok.inj hreact)
      · exact .single rfl
      · exact .silence
  | didReceiveResponse response =>
      simp only [StandardTask.react, StandardTask.didReceiveResponse]
        at hreact
      split at hreact <;>
        obtain ⟨-, rfl⟩ := Prod.mk.inj (Except.ok.inj hreact)
      · exact .single rfl
      · exact .silence
  | didCompleteWithError error now =>
      simp only [StandardTask.react, StandardTask.didCompleteWithError]
        at hreact
      split at hreact
      next hmapped =>
        obtain ⟨⟨connection, made⟩, hdone, hreact⟩ :=
          (Outcome.bind_eq_ok _ _ _).mp hreact
        obtain ⟨-, rfl⟩ := Prod.mk.inj (Except.ok.inj hreact)
        simpa [endingOn, hmapped] using didCompleteWithError_calls hdone
      next hunmapped =>
        obtain ⟨-, rfl⟩ := Prod.mk.inj (Except.ok.inj hreact)
        simpa [endingOn, hunmapped] using Calls.silence

theorem calls_unless_redirected (connection : QUICConnection)
    {connection' : QUICConnection} {call : List ConnectionCall} (hcall : Calls ending call)
    (hcalls : (if connection.mRedirect.isSome then (connection, [])
      else (connection, call)) = (connection', calls)) :
    Calls (if connection.mRedirect.isNone then ending else none) calls := by
  split at hcalls
  next hredirected =>
    obtain ⟨-, rfl⟩ := Prod.mk.inj hcalls
    simpa [Option.isNone_eq_false_iff.mpr hredirected] using Calls.silence
  next hrunning =>
    obtain ⟨-, rfl⟩ := Prod.mk.inj hcalls
    have hnone : connection.mRedirect.isNone = true := by
      simpa using hrunning
    simpa [hnone] using hcall

theorem quic_calls {connection connection' : QUICConnection}
    {event : QUICStreamEvent}
    (hreact : connection.react platform event = .ok (connection', calls)) :
    Calls (endingOn (.quic connection) (.quic event)) calls := by
  cases event with
  | quicSessionDidReceiveResponse aHeaders aCode =>
      simp only [QUICConnection.react,
        QUICConnection.quicSessionDidReceiveResponse] at hreact
      split at hreact
      next =>
        obtain ⟨target, -, hreact⟩ := (Outcome.bind_eq_ok _ _ _).mp hreact
        cases target with
        | none =>
            obtain ⟨-, rfl⟩ := Prod.mk.inj (Except.ok.inj hreact)
            exact .single rfl
        | some newRequest =>
            obtain ⟨-, rfl⟩ := Prod.mk.inj (Except.ok.inj hreact)
            exact .single rfl
      next =>
        obtain ⟨-, rfl⟩ := Prod.mk.inj (Except.ok.inj hreact)
        exact .single rfl
  | quicSessionDidReceiveData aData =>
      have hdata : Calls none [.connectionDidReceiveData aData] := .single rfl
      have hcalls :=
        calls_unless_redirected connection hdata (Except.ok.inj hreact)
      simpa [endingOn] using hcalls
  | quicSessionDidFinish now =>
      obtain ⟨base, hend, hreact⟩ := (Outcome.bind_eq_ok _ _ _).mp hreact
      have hcalls := calls_unless_redirected
        { connection with base := base } (succeed_calls base)
        (Except.ok.inj ((apply_ite Except.ok _ _ _).trans hreact))
      rwa [onEnd_mIsFake hend] at hcalls
  | quicSessionDidFail error =>
      have hcalls := calls_unless_redirected connection (.failure error)
        (Except.ok.inj hreact)
      simpa [endingOn] using hcalls

theorem handle_calls {connection connection' : EdgeConnection}
    {event : EdgeEvent}
    (hhandle : EdgeWorld.handle platform connection event =
      some (connection', calls)) :
    connection'.edgeTransport = connection.edgeTransport ∧
      Calls (connection.endingOn event) calls := by
  cases connection with
  | standard task =>
      cases event with
      | quic event => contradiction
      | standard event =>
          obtain ⟨⟨task', made⟩, hreact, hpair⟩ :=
            Option.bind_eq_some_iff.mp hhandle
          obtain ⟨rfl, rfl⟩ := Prod.mk.inj (Option.some.inj hpair)
          exact ⟨rfl, standard_calls
            ((Outcome.toOption_eq_some _ _).mp hreact)⟩
  | quic connection =>
      cases event with
      | standard event => contradiction
      | quic event =>
          obtain ⟨⟨connection', made⟩, hreact, hpair⟩ :=
            Option.bind_eq_some_iff.mp hhandle
          obtain ⟨rfl, rfl⟩ := Prod.mk.inj (Option.some.inj hpair)
          exact ⟨rfl, quic_calls ((Outcome.toOption_eq_some _ _).mp hreact)⟩

theorem startWithRequest_calls {aProtocolName : String} {simulate : Bool}
    {aRequest : Request} {connection : EdgeConnection}
    (hstart : startWithRequest platform aProtocolName simulate aRequest =
      .ok (connection, calls)) :
    connection.edgeTransport = aProtocolName ∧
      Calls (endingOfStart platform aProtocolName aRequest) calls := by
  unfold endingOfStart
  simp only [startWithRequest] at hstart
  split at hstart
  next hstandard =>
    obtain ⟨rfl, rfl⟩ := Prod.mk.inj (Except.ok.inj hstart)
    refine ⟨hstandard.symm, ?_⟩
    simp only [StandardConnection.startWithRequest, refuses, hstandard,
      beq_self_eq_true, Bool.true_and]
    split
    · exact .failure _
    · exact .silence
  next hother =>
    have hrefuses : refuses platform aProtocolName aRequest = false := by
      simp [refuses, hother]
    split at hstart
    next hquic =>
      obtain ⟨rfl, rfl⟩ := Prod.mk.inj (Except.ok.inj hstart)
      refine ⟨hquic.symm, ?_⟩
      rw [hrefuses]
      exact .silence
    next => contradiction

theorem isTerminal_of_endingOn {connection : EdgeConnection}
    {event : EdgeEvent} (hends : (connection.endingOn event).isSome = true) :
    event.isTerminal = true := by
  unfold endingOn at hends
  split at hends
  · rfl
  · rfl
  · rfl
  · contradiction

theorem isTerminal_of_failsOn {connection : EdgeConnection}
    {event : EdgeEvent} (hfails : connection.failsOn event = true) :
    event.isTerminal = true := by
  have hends : connection.endingOn event = some .failure :=
    beq_iff_eq.mp hfails
  exact isTerminal_of_endingOn (by rw [hends]; rfl)

end EdgeConnection

end RevSDK
