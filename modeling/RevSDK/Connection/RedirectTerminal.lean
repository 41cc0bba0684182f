import RevSDK.Connection.EdgeConnection

/-!
# A redirection ends a connection

After `connectionWasRedirected` a delegate should receive nothing else from a
connection, and no failure should be logged for it.  A QUIC connection keeps
the flag `mRedirect` for this, which all callbacks but that for a response
respect.  A standard connection keeps nothing: whatever its task still sends
goes to the delegate.
-/

namespace RevSDK

open RevSDK.Foundation
open RevSDK.Foundation.EventSystem

namespace EdgeEffect

def isRedirection : EdgeEffect → Bool
  | .received call => call.isRedirection
  | _ => false

def mayFollowRedirection : EdgeEffect → Bool
  | .received call => call.isRedirection
  | .logFailure _ _ => false
  | .calledBack call => call.isRedirection

def Respects (earlier later : EdgeEffect) : Prop :=
  earlier.isRedirection = true → later.mayFollowRedirection = true

end EdgeEffect

namespace ConnectionProxy

variable {edgeTransport : String} {call : ConnectionCall}

theorem received_mem_receive (edgeTransport : String)
    (call : ConnectionCall) :
    EdgeEffect.received call ∈ receive edgeTransport call := by
  cases call <;> simp [receive]

theorem receive_of_redirection (hcall : call.isRedirection = true) :
    receive edgeTransport call = [.received call, .calledBack call] := by
  cases call with
  | connectionWasRedirected aRequest aResponse => rfl
  | _ => contradiction

theorem isRedirection_of_mem_receive (hcall : call.isRedirection = false)
    {effect : EdgeEffect} (hmem : effect ∈ receive edgeTransport call) :
    effect.isRedirection = false := by
  cases call with
  | connectionWasRedirected aRequest aResponse => contradiction
  | _ =>
      simp only [receive, List.mem_cons, List.not_mem_nil, or_false] at hmem
      rcases hmem with rfl | rfl | rfl <;> rfl

theorem receive_pairwise (edgeTransport : String) (call : ConnectionCall) :
    (receive edgeTransport call).Pairwise EdgeEffect.Respects := by
  cases hcall : call.isRedirection with
  | true =>
      rw [receive_of_redirection hcall]
      simp [EdgeEffect.Respects, EdgeEffect.mayFollowRedirection, hcall]
  | false =>
      refine List.pairwise_iff_forall_sublist.mpr ?_
      intro earlier later hsublist hearlier
      have hmem := hsublist.subset List.mem_cons_self
      rw [isRedirection_of_mem_receive hcall hmem] at hearlier
      contradiction

end ConnectionProxy

def EdgeConnection.wasRedirected : EdgeConnection → Prop
  | .standard task => task.mapped = true
  | .quic connection => connection.mRedirect.isSome = true

def EdgeEvent.isSilenced : EdgeEvent → Bool
  | .standard (.willPerformHTTPRedirection _ _ _) => true
  | .standard _ => false
  | .quic (.quicSessionDidReceiveResponse _ _) => false
  | .quic _ => true

inductive Handled (before : EdgeConnection) (event : EdgeEvent)
    (after : EdgeConnection) : List ConnectionCall → Prop
  | redirection (call : ConnectionCall) :
      call.isRedirection = true → after.wasRedirected →
      (before.wasRedirected → event.isSilenced = true) →
      Handled before event after [call]
  | silence :
      (before.wasRedirected → event.isSilenced = true ∧ after.wasRedirected) →
      Handled before event after []
  | other (call : ConnectionCall) :
      call.isRedirection = false →
      (before.wasRedirected → event.isSilenced = false) →
      Handled before event after [call]

section Handling

variable {platform : URLPlatform} {calls : List ConnectionCall}

theorem Connection.succeed_eq (connection : Connection) :
    ∃ call : ConnectionCall,
      connection.succeed = [call] ∧ call.isRedirection = false := by
  unfold succeed
  split
  · exact ⟨_, rfl, rfl⟩
  · exact ⟨_, rfl, rfl⟩

theorem StandardConnection.didCompleteWithError_calls
    {connection connection' : StandardConnection} {error : Option Error}
    {now : Int}
    (hdone : connection.didCompleteWithError error now =
      .ok (connection', calls)) :
    ∃ call : ConnectionCall, calls = [call] ∧ call.isRedirection = false := by
  obtain ⟨base, -, hdone⟩ := (Outcome.bind_eq_ok _ _ _).mp hdone
  cases error with
  | none =>
      obtain ⟨-, rfl⟩ := Prod.mk.inj (Except.ok.inj hdone)
      exact base.succeed_eq
  | some error =>
      obtain ⟨-, rfl⟩ := Prod.mk.inj (Except.ok.inj hdone)
      exact ⟨_, rfl, rfl⟩

theorem StandardTask.react_handled {task task' : StandardTask}
    {event : TaskEvent} (hreact : task.react platform event =
      .ok (task', calls)) :
    Handled (.standard task) (.standard event) (.standard task') calls := by
  cases hmapped : task.mapped with
  | false =>
      have hunmapped : ¬ (EdgeConnection.standard task).wasRedirected := by
        simp [EdgeConnection.wasRedirected, hmapped]
      cases event <;>
        simp only [react, willPerformHTTPRedirection, didReceiveData,
          didReceiveResponse, didCompleteWithError, hmapped,
          Bool.false_eq_true, if_false, reduceCtorEq, Except.ok.injEq,
          Prod.mk.injEq] at hreact
      all_goals
        obtain ⟨-, rfl⟩ := hreact
        exact .silence fun hredirected => absurd hredirected hunmapped
  | true =>
      cases event with
      | willPerformHTTPRedirection edgeHost response request =>
          rw [react, willPerformHTTPRedirection, if_pos hmapped] at hreact
          obtain ⟨⟨connection, made⟩, hredirected, hreact⟩ :=
            (Outcome.bind_eq_ok _ _ _).mp hreact
          obtain ⟨aRequest, -, hredirected⟩ :=
            (Outcome.bind_eq_ok _ _ _).mp hredirected
          obtain ⟨-, rfl⟩ := Prod.mk.inj (Except.ok.inj hredirected)
          obtain ⟨rfl, rfl⟩ := Prod.mk.inj (Except.ok.inj hreact)
          exact .redirection _ rfl hmapped fun _ => rfl
      | didReceiveData data =>
          simp only [react, didReceiveData, hmapped, if_true,
            StandardConnection.didReceiveData, Except.ok.injEq, Prod.mk.injEq]
            at hreact
          obtain ⟨-, rfl⟩ := hreact
          exact .other _ rfl fun _ => rfl
      | didReceiveResponse response =>
          simp only [react, didReceiveResponse, hmapped, if_true,
            StandardConnection.didReceiveResponse, Except.ok.injEq,
            Prod.mk.injEq] at hreact
          obtain ⟨-, rfl⟩ := hreact
          exact .other _ rfl fun _ => rfl
      | didCompleteWithError error now =>
          rw [react, didCompleteWithError, if_pos hmapped] at hreact
          obtain ⟨⟨connection, made⟩, hdone, hreact⟩ :=
            (Outcome.bind_eq_ok _ _ _).mp hreact
          obtain ⟨-, rfl⟩ := Prod.mk.inj (Except.ok.inj hreact)
          obtain ⟨call, rfl, hcall⟩ :=
            StandardConnection.didCompleteWithError_calls hdone
          exact .other _ hcall fun _ => rfl

namespace QUICConnection

variable {connection connection' : QUICConnection}

theorem quicSessionDidReceiveResponse_handled {aHeaders : SpdyHeaderBlock}
    {aCode : Int}
    (hreact : connection.quicSessionDidReceiveResponse platform aHeaders
      aCode = .ok (connection', calls)) :
    Handled (.quic connection)
      (.quic (.quicSessionDidReceiveResponse aHeaders aCode))
      (.quic connection') calls := by
  unfold quicSessionDidReceiveResponse at hreact
  split at hreact
  next hfollows =>
    have hfirst : ¬ (EdgeConnection.quic connection).wasRedirected := by
      simp only [Bool.and_eq_true, Option.isNone_iff_eq_none] at hfollows
      simp [EdgeConnection.wasRedirected, hfollows.1.1]
    obtain ⟨target, -, hreact⟩ := (Outcome.bind_eq_ok _ _ _).mp hreact
    cases target with
    | none =>
        obtain ⟨-, rfl⟩ := Prod.mk.inj (Except.ok.inj hreact)
        exact .other _ rfl fun _ => rfl
    | some newRequest =>
        obtain ⟨rfl, rfl⟩ := Prod.mk.inj (Except.ok.inj hreact)
        exact .redirection _ rfl rfl fun hredirected =>
          absurd hredirected hfirst
  next =>
    obtain ⟨-, rfl⟩ := Prod.mk.inj (Except.ok.inj hreact)
    exact .other _ rfl fun _ => rfl

theorem handled_unless_redirected {before : QUICConnection}
    (connection : QUICConnection) {event : QUICStreamEvent}
    {call : ConnectionCall}
    (hsilenced : EdgeEvent.isSilenced (.quic event) = true)
    (hcall : call.isRedirection = false)
    (hflag : before.mRedirect = connection.mRedirect)
    (hcalls : (if connection.mRedirect.isSome then (connection, [])
      else (connection, [call])) = (connection', calls)) :
    Handled (.quic before) (.quic event) (.quic connection') calls := by
  split at hcalls
  next hredirected =>
    obtain ⟨rfl, rfl⟩ := Prod.mk.inj hcalls
    exact .silence fun _ => ⟨hsilenced, hredirected⟩
  next hrunning =>
    obtain ⟨rfl, rfl⟩ := Prod.mk.inj hcalls
    refine .other _ hcall fun hredirected => ?_
    rw [EdgeConnection.wasRedirected, hflag] at hredirected
    contradiction

theorem react_handled {event : QUICStreamEvent}
    (hreact : connection.react platform event = .ok (connection', calls)) :
    Handled (.quic connection) (.quic event) (.quic connection') calls := by
  cases event with
  | quicSessionDidReceiveResponse aHeaders aCode =>
      exact quicSessionDidReceiveResponse_handled hreact
  | quicSessionDidReceiveData aData =>
      exact handled_unless_redirected connection rfl rfl rfl
        (Except.ok.inj hreact)
  | quicSessionDidFail error =>
      exact handled_unless_redirected connection rfl rfl rfl
        (Except.ok.inj hreact)
  | quicSessionDidFinish now =>
      obtain ⟨base, -, hreact⟩ := (Outcome.bind_eq_ok _ _ _).mp hreact
      obtain ⟨call, hcalls, hcall⟩ := base.succeed_eq
      rw [hcalls] at hreact
      exact handled_unless_redirected { connection with base := base }
        rfl hcall rfl
        (Except.ok.inj ((apply_ite Except.ok _ _ _).trans hreact))

end QUICConnection

end Handling

namespace EdgeWorld

variable {platform : URLPlatform} {world world' : EdgeWorld}
  {event : EdgeEvent} {trail : List (EdgeWorld × EdgeEvent)}

theorem handle_handled {connection connection' : EdgeConnection}
    {calls : List ConnectionCall}
    (hhandle : handle platform connection event = some (connection', calls)) :
    Handled connection event connection' calls := by
  cases connection with
  | standard task =>
      cases event with
      | quic event => contradiction
      | standard event =>
          obtain ⟨⟨task', made⟩, hreact, hpair⟩ :=
            Option.bind_eq_some_iff.mp hhandle
          obtain ⟨rfl, rfl⟩ := Prod.mk.inj (Option.some.inj hpair)
          exact StandardTask.react_handled
            ((Outcome.toOption_eq_some _ _).mp hreact)
  | quic connection =>
      cases event with
      | standard event => contradiction
      | quic event =>
          obtain ⟨⟨connection', made⟩, hreact, hpair⟩ :=
            Option.bind_eq_some_iff.mp hhandle
          obtain ⟨rfl, rfl⟩ := Prod.mk.inj (Option.some.inj hpair)
          exact QUICConnection.react_handled
            ((Outcome.toOption_eq_some _ _).mp hreact)

theorem react_cases (hreact : world.react platform event = some world') :
    ∃ calls, Handled world.connection event world'.connection calls ∧
      world'.effects = world.effects ++ calls.flatMap
        (ConnectionProxy.receive world'.connection.edgeTransport) := by
  obtain ⟨⟨connection, calls⟩, hhandle, hnext⟩ :=
    Option.bind_eq_some_iff.mp hreact
  obtain rfl := Option.some.inj hnext
  exact ⟨calls, handle_handled hhandle, rfl⟩

def redirected (world : EdgeWorld) : Bool :=
  world.effects.any EdgeEffect.isRedirection

/--
Whatever the delegate receives, and every failure that is logged, comes before
a redirection or is another one.
-/
def RedirectTerminal (world : EdgeWorld) : Prop :=
  world.effects.Pairwise EdgeEffect.Respects

/-- The events that a redirected connection may have. -/
def StaysSilent (world : EdgeWorld) (event : EdgeEvent) : Prop :=
  world.redirected = true → event.isSilenced = true

structure Quiet (world : EdgeWorld) : Prop where
  terminal : world.RedirectTerminal
  flagged : world.redirected = true → world.connection.wasRedirected

theorem quiet_of_initial (hstart : (system platform).initial world) :
    world.Quiet := by
  obtain ⟨-, heffects⟩ := hstart
  constructor
  · simp [RedirectTerminal, heffects]
  · simp [redirected, heffects]

section Adding

variable {call : ConnectionCall} {edgeTransport : String}
  {effects : List EdgeEffect}

theorem pairwise_add_iff :
    (effects ++ ConnectionProxy.receive edgeTransport call).Pairwise
        EdgeEffect.Respects ↔
      effects.Pairwise EdgeEffect.Respects ∧
        (effects.any EdgeEffect.isRedirection = true →
          call.isRedirection = true) := by
  rw [List.pairwise_append]
  constructor
  · rintro ⟨hbefore, -, hacross⟩
    refine ⟨hbefore, fun hany => ?_⟩
    obtain ⟨earlier, hearlier, hredirection⟩ := List.any_eq_true.mp hany
    exact hacross earlier hearlier _
      (ConnectionProxy.received_mem_receive edgeTransport call) hredirection
  · rintro ⟨hbefore, hcall⟩
    refine ⟨hbefore, ConnectionProxy.receive_pairwise _ _, ?_⟩
    intro earlier hearlier later hlater hredirection
    have hagain := hcall
      (List.any_eq_true.mpr ⟨earlier, hearlier, hredirection⟩)
    rw [ConnectionProxy.receive_of_redirection hagain] at hlater
    simp only [List.mem_cons, List.not_mem_nil, or_false] at hlater
    rcases hlater with rfl | rfl <;> exact hagain

theorem any_isRedirection_receive (edgeTransport : String)
    (call : ConnectionCall) :
    (ConnectionProxy.receive edgeTransport call).any
      EdgeEffect.isRedirection = call.isRedirection := by
  cases call <;> rfl

end Adding

theorem quiet_of_react (hquiet : world.Quiet)
    (hsilent : world.StaysSilent event)
    (hreact : world.react platform event = some world') : world'.Quiet := by
  obtain ⟨calls, hhandled, heffects⟩ := react_cases hreact
  cases hhandled with
  | redirection call hcall hafter hbefore =>
      rw [List.flatMap_singleton] at heffects
      constructor
      · rw [RedirectTerminal, heffects, pairwise_add_iff]
        exact ⟨hquiet.terminal, fun _ => hcall⟩
      · exact fun _ => hafter
  | silence hkeeps =>
      rw [List.flatMap_nil, List.append_nil] at heffects
      constructor
      · rw [RedirectTerminal, heffects]
        exact hquiet.terminal
      · intro hredirected
        rw [redirected, heffects] at hredirected
        exact (hkeeps (hquiet.flagged hredirected)).2
  | other call hcall hbefore =>
      rw [List.flatMap_singleton] at heffects
      have hfirst : ¬ world.redirected = true := by
        intro hredirected
        have hsilenced := hsilent hredirected
        rw [hbefore (hquiet.flagged hredirected)] at hsilenced
        contradiction
      constructor
      · rw [RedirectTerminal, heffects, pairwise_add_iff]
        exact ⟨hquiet.terminal, fun hredirected => absurd hredirected hfirst⟩
      · intro hredirected
        rw [redirected, heffects, List.any_append, any_isRedirection_receive,
          hcall, Bool.or_false] at hredirected
        exact absurd hredirected hfirst

theorem not_terminal_of_react (hquiet : world.Quiet)
    (hspeaks : ¬ world.StaysSilent event)
    (hreact : world.react platform event = some world') :
    ¬ world'.RedirectTerminal := by
  obtain ⟨hredirected, hevent⟩ := Classical.not_imp.mp hspeaks
  have hflagged := hquiet.flagged hredirected
  obtain ⟨calls, hhandled, heffects⟩ := react_cases hreact
  cases hhandled with
  | redirection call hcall hafter hbefore =>
      exact absurd (hbefore hflagged) hevent
  | silence hkeeps => exact absurd (hkeeps hflagged).1 hevent
  | other call hcall hbefore =>
      rw [List.flatMap_singleton] at heffects
      rw [RedirectTerminal, heffects, pairwise_add_iff]
      rintro ⟨-, hagain⟩
      rw [hagain hredirected] at hcall
      contradiction

/--
A redirection is terminal in a run exactly when, after it, a standard task has
neither response nor data nor completion, and a stream no second response.
-/
theorem redirectTerminal_iff_staysSilent
    (path : (system platform).Path (fun _ _ => True) trail world) :
    Throughout RedirectTerminal trail world ↔ Obeys StaysSilent trail := by
  refine Path.throughout_iff_obeys Quiet ?_ ?_ ?_ ?_ path
  · exact fun _ hstart => quiet_of_initial hstart
  · exact fun _ _ _ hquiet _ hsilent hreact =>
      quiet_of_react hquiet hsilent hreact
  · exact fun _ _ _ hquiet _ hspeaks hreact =>
      not_terminal_of_react hquiet hspeaks hreact
  · exact fun _ hquiet => hquiet.terminal

section SuspendedTask

def unaskedPlatform : URLPlatform where
  URLWithString _ := none
  initWithString_relativeToURL _ _ := none
  componentsWithString _ := none
  URL _ := none

def suspendedTask : EdgeWorld where
  connection := .standard
    { connection :=
        { mCurrentRequest :=
            { mMethod := "GET"
              mOriginalURL := "https://a.com/"
              mURL := "https://edge.net/"
              mHeaders := [(kRSRevHostHeader, "a.com")]
              mBody := ⟨[]⟩ } }
      originalRequest :=
        { URL := some
            ⟨"https://edge.net/", some "https", some "edge.net", some "/"⟩
          HTTPMethod := "GET"
          allHTTPHeaderFields := [(kRSRevHostHeader, "a.com")]
          HTTPBody := ⟨[]⟩ } }

def movesElsewhere : EdgeEvent :=
  .standard (.willPerformHTTPRedirection "edge.net"
    ⟨302, [("Location", "https://b.com/")]⟩
    { URL := some ⟨"https://b.com/", some "https", some "b.com", some "/"⟩
      HTTPMethod := "GET"
      allHTTPHeaderFields := []
      HTTPBody := ⟨[]⟩ })

def timeout : Error := { code := -1001, domain := "NSURLErrorDomain" }

def timesOut : EdgeEvent :=
  .standard (.didCompleteWithError (some timeout) 1)

theorem suspendedTask_path :
    (system unaskedPlatform).Path (fun _ _ => True) [] suspendedTask :=
  .start ⟨.standard _ _ _ rfl, rfl⟩

/-- The task is never resumed, and its timeout is reported and logged. -/
theorem suspendedTask_not_terminal :
    ∃ trail world aRequest aResponse,
      (system unaskedPlatform).Path (fun _ _ => True) trail world ∧
      world.effects = [
        .received (.connectionWasRedirected aRequest aResponse),
        .calledBack (.connectionWasRedirected aRequest aResponse),
        .received (.connectionDidFailWithError timeout),
        .logFailure standardProtocolName (-1001),
        .calledBack (.connectionDidFailWithError timeout)] ∧
      ¬ world.RedirectTerminal := by
  have hredirected := suspendedTask_path.next (e := movesElsewhere) trivial rfl
  have htimedOut := hredirected.next (e := timesOut) trivial rfl
  refine ⟨_, _, _, _, htimedOut, rfl, ?_⟩
  intro hterminal
  have hacross := (List.pairwise_cons.mp hterminal).1
    (.received (.connectionDidFailWithError timeout))
    (.tail _ (.head _)) rfl
  contradiction

theorem redirectTerminal_iff_staysSilent_movedTwice :
    ∃ trail world,
      (system unaskedPlatform).Path (fun _ _ => True) trail world ∧
      trail.map Prod.snd = [movesElsewhere, movesElsewhere] ∧
      world.redirected = true ∧ Throughout RedirectTerminal trail world := by
  have hredirected := suspendedTask_path.next (e := movesElsewhere) trivial rfl
  have hagain := hredirected.next (e := movesElsewhere) trivial rfl
  refine ⟨_, _, hagain, rfl, rfl,
    (redirectTerminal_iff_staysSilent hagain).mpr ?_⟩
  intro visit hvisit _
  simp only [List.mem_append, List.mem_singleton, List.nil_append] at hvisit
  rcases hvisit with rfl | rfl <;> rfl

end SuspendedTask

end EdgeWorld

end RevSDK
