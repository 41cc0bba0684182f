import RevSDK.Connection.QUICAnchors
import RevSDK.Interception.RSURLRequestProcessor

/-!
# Chains of redirections over QUIC

A QUIC connection hands a redirection to the client of the protocol, which
issues the new request; the protocol then starts a new connection for it.  The
depth of a redirection is set on `mRedirect`, which is never started.
-/

namespace RevSDK

open RevSDK.Foundation
open RevSDK.Foundation.EventSystem

/-- What a message to `nil` returns in place of a request's parts. -/
def nilRequest : NSURLRequest where
  URL := none
  HTTPMethod := ""
  allHTTPHeaderFields := []
  HTTPBody := ⟨[]⟩

/-- `initWithRequest` of `RSURLConnection`, up to its connection proxy. -/
def RSURLConnection.initWithRequest (platform : URLPlatform)
    (answers : ModelAnswers) (currentProtocolName : String)
    (aRequest : NSURLRequest) : Outcome Request := do
  let isEdge := currentProtocolName == standardProtocolName
  let newRequest ← proccessRequest platform answers aRequest isEdge none
  let request ← requestFromURLRequest (newRequest.getD nilRequest)
  return { request with
    mOriginalURL := (aRequest.URL.map ParsedURL.absoluteString).getD ""
    mOriginalScheme := (aRequest.URL.bind ParsedURL.scheme).getD "" }

/-- `redirected` is the request that the client has been given to issue. -/
structure RedirectChain where
  started : List QUICConnection := []
  redirected : Option NSURLRequest := none

inductive ChainEvent where
  | issue (answers : ModelAnswers) (mShouldSimulateErrors : Bool)
      (aRequest : NSURLRequest)
  | reissue (answers : ModelAnswers) (mShouldSimulateErrors : Bool)
  | stream (index : Nat) (event : QUICStreamEvent)

namespace RedirectChain

def redirectCallback (platform : URLPlatform) :
    ConnectionCall → Option NSURLRequest
  | .connectionWasRedirected aRequest _ =>
      some (URLRequestFromRequest platform aRequest)
  | _ => none

section Reactions

variable (platform : URLPlatform)

/-- `startLoading` of a request that goes to the edge over QUIC. -/
def startLoading (chain : RedirectChain) (answers : ModelAnswers)
    (mShouldSimulateErrors : Bool) (aRequest : NSURLRequest) :
    Option RedirectChain :=
  if canInitWithRequest answers aRequest false &&
      shouldRedirectRequest answers aRequest then do
    let request ← (RSURLConnection.initWithRequest platform answers
      quicProtocolName aRequest).toOption
    let (connection, _) := QUICConnection.startWithRequest
      { mIsFake := mShouldSimulateErrors } request
    return { started := chain.started ++ [connection], redirected := none }
  else none

def react (chain : RedirectChain) : ChainEvent → Option RedirectChain
  | .issue answers mShouldSimulateErrors aRequest =>
      chain.startLoading platform answers mShouldSimulateErrors aRequest
  | .reissue answers mShouldSimulateErrors => do
      let aRequest ← chain.redirected
      chain.startLoading platform answers mShouldSimulateErrors aRequest
  | .stream index event => do
      let connection ← chain.started[index]?
      let (connection, calls) ← (connection.react platform event).toOption
      return {
        started := chain.started.set index connection
        redirected := (calls.findSome? (redirectCallback platform)).or
          chain.redirected }

def Admitted (chain : RedirectChain) : ChainEvent → Prop
  | .issue _ _ _ => chain.started = []
  | _ => True

def system : EventSystem RedirectChain ChainEvent where
  initial chain := chain = {}
  step := react platform

end Reactions

/--
The depth of each connection is the number of redirections before it, and no
more than ten of them were followed.
-/
structure Bounded (chain : RedirectChain) : Prop where
  depths : chain.started.map QUICConnection.mDepth =
    List.range chain.started.length
  followed : chain.started.length ≤ 11

def NotReissued (_ : RedirectChain) : ChainEvent → Prop
  | .reissue _ _ => False
  | _ => True

section Steps

variable {platform : URLPlatform} {chain chain' : RedirectChain}
  {event : ChainEvent}

theorem react_mDepth {connection connection' : QUICConnection}
    {event : QUICStreamEvent} {calls : List ConnectionCall}
    (hreact : connection.react platform event = .ok (connection', calls)) :
    connection'.mDepth = connection.mDepth := by
  cases event with
  | quicSessionDidReceiveResponse aHeaders aCode =>
      exact (AnchoredConnection.response_redirects hreact).1
  | quicSessionDidReceiveData aData =>
      obtain ⟨made, hsame⟩ := AnchoredConnection.data_keeps connection aData
      simp only [QUICConnection.react, hsame] at hreact
      obtain ⟨rfl, -⟩ := Prod.mk.inj (Except.ok.inj hreact)
      rfl
  | quicSessionDidFinish now =>
      exact (AnchoredConnection.finish_keeps hreact).1
  | quicSessionDidFail error =>
      obtain ⟨made, hsame⟩ := AnchoredConnection.fail_keeps connection error
      simp only [QUICConnection.react, hsame] at hreact
      obtain ⟨rfl, -⟩ := Prod.mk.inj (Except.ok.inj hreact)
      rfl

theorem startLoading_started {answers : ModelAnswers} {simulate : Bool}
    {aRequest : NSURLRequest}
    (hstart : chain.startLoading platform answers simulate aRequest =
      some chain') :
    chain'.redirected = none ∧ ∃ connection : QUICConnection,
      chain'.started = chain.started ++ [connection] ∧
        connection.mDepth = 0 := by
  unfold startLoading at hstart
  split at hstart
  next =>
    obtain ⟨request, -, hstart⟩ := Option.bind_eq_some_iff.mp hstart
    obtain rfl := Option.some.inj hstart
    exact ⟨rfl, _, rfl, rfl⟩
  next => contradiction

theorem stream_depths {index : Nat} {event : QUICStreamEvent}
    (hreact : chain.react platform (.stream index event) = some chain') :
    chain'.started.map QUICConnection.mDepth =
      chain.started.map QUICConnection.mDepth ∧ chain.started ≠ [] := by
  obtain ⟨connection, hconnection, hreact⟩ :=
    Option.bind_eq_some_iff.mp hreact
  obtain ⟨⟨connection', calls⟩, hstream, hreact⟩ :=
    Option.bind_eq_some_iff.mp hreact
  obtain rfl := Option.some.inj hreact
  have hdepth := react_mDepth ((Outcome.toOption_eq_some _ _).mp hstream)
  constructor
  · obtain ⟨hlt, rfl⟩ := List.getElem?_eq_some_iff.mp hconnection
    rw [List.map_set, hdepth, ← List.getElem_map QUICConnection.mDepth,
      List.set_getElem_self]
    simpa using hlt
  · rintro hnil
    rw [hnil] at hconnection
    contradiction

structure First (chain : RedirectChain) : Prop where
  depths : chain.started.map QUICConnection.mDepth =
    List.range chain.started.length
  single : chain.started.length ≤ 1
  redirected : chain.redirected.isSome = true → chain.started ≠ []

theorem first_of_react (hfirst : First chain) (hallowed : chain.Admitted event)
    (hstays : chain.NotReissued event)
    (hreact : chain.react platform event = some chain') : First chain' := by
  cases event with
  | issue answers simulate aRequest =>
      obtain ⟨hnone, connection, hstarted, hdepth⟩ :=
        startLoading_started hreact
      have hempty : chain.started = [] := hallowed
      constructor <;> simp [hstarted, hempty, hdepth, hnone]
  | reissue answers simulate => contradiction
  | stream index event =>
      obtain ⟨hdepths, hstarted⟩ := stream_depths hreact
      have hlength : chain'.started.length = chain.started.length := by
        simpa using congrArg List.length hdepths
      refine ⟨?_, hlength ▸ hfirst.single, fun _ hnil => hstarted ?_⟩
      · rw [hdepths, hlength]
        exact hfirst.depths
      · rw [hnil] at hlength
        exact List.length_eq_zero_iff.mp hlength.symm

theorem not_bounded_of_reissue (hfirst : First chain)
    (hreissued : ¬ chain.NotReissued event)
    (hreact : chain.react platform event = some chain') :
    ¬ chain'.Bounded := by
  cases event with
  | issue answers simulate aRequest => exact absurd trivial hreissued
  | stream index event => exact absurd trivial hreissued
  | reissue answers simulate =>
      obtain ⟨aRequest, hredirected, hreact⟩ :=
        Option.bind_eq_some_iff.mp hreact
      obtain ⟨-, connection, hstarted, hdepth⟩ := startLoading_started hreact
      have hsome : chain.started ≠ [] :=
        hfirst.redirected (by rw [hredirected]; rfl)
      have hone : chain.started.length = 1 := by
        have hpos := List.length_pos_iff.mpr hsome
        have hsingle := hfirst.single
        omega
      intro hbounded
      have hdepths := hbounded.depths
      rw [hstarted, List.map_append, hfirst.depths, List.length_append, hone]
        at hdepths
      simp [hdepth, List.range_succ] at hdepths

/--
The depths of a chain follow its redirections, and the bound holds, exactly if
no redirected request is issued again.
-/
theorem bounded_iff_notReissued
    {trail : List (RedirectChain × ChainEvent)}
    (path : (system platform).Path Admitted trail chain) :
    Throughout Bounded trail chain ↔ Obeys NotReissued trail := by
  refine Path.throughout_iff_obeys First ?_ ?_ ?_ ?_ path
  · intro start hstart
    obtain rfl : start = {} := hstart
    constructor <;> simp
  · exact fun _ _ _ hfirst hallowed hstays hreact =>
      first_of_react hfirst hallowed hstays hreact
  · exact fun _ _ _ hfirst _ hreissued hreact =>
      not_bounded_of_reissue hfirst hreissued hreact
  · exact fun _ hfirst => ⟨hfirst.depths, hfirst.single.trans (by decide)⟩

end Steps

/-! ## A chain without end -/

section Loop

open AnchoredConnection

def loopAnswers : ModelAnswers :=
  ({ operationMode := .kRSOperationModeInnerTransport } :
    Configuration).answers (fun _ => none) false "key"

def loopRequest (headers : List (String × String)) : NSURLRequest where
  URL := oneSite.URLWithString "https://b.com/"
  HTTPMethod := "GET"
  allHTTPHeaderFields := headers
  HTTPBody := ⟨[]⟩

theorem loop_accepted (headers : List (String × String)) :
    (canInitWithRequest loopAnswers (loopRequest headers) false &&
      shouldRedirectRequest loopAnswers (loopRequest headers)) = true := by
  have hhost : canInitWithRequest loopAnswers (loopRequest []) false &&
    shouldRedirectRequest loopAnswers (loopRequest []) := by decide +kernel
  exact hhost

theorem loop_processed (headers : List (String × String)) :
    ∃ headers', proccessRequest oneSite loopAnswers (loopRequest headers) false
      none = .ok (some (loopRequest headers')) :=
  ⟨(processedHeaders loopAnswers (loopRequest headers) "b.com"
    "https").allHTTPHeaderFields, rfl⟩

theorem loop_request (headers : List (String × String)) :
    ∃ request, requestFromURLRequest (loopRequest headers) = .ok request ∧
      request.mMethod = "GET" ∧ request.mBody = ⟨[]⟩ := by
  unfold requestFromURLRequest loopRequest oneSite
  simp only [Option.bind_some, Option.map_some]
  exact ⟨_, rfl, rfl, rfl⟩

theorem loop_initWithRequest (headers : List (String × String)) :
    ∃ request, RSURLConnection.initWithRequest oneSite loopAnswers
        quicProtocolName (loopRequest headers) = .ok request ∧
      request.mMethod = "GET" ∧ request.mBody = ⟨[]⟩ := by
  obtain ⟨headers', hprocessed⟩ := loop_processed headers
  obtain ⟨request, hrequest, hmethod, hbody⟩ := loop_request headers'
  have hedge : (quicProtocolName == standardProtocolName) = false := rfl
  simp only [RSURLConnection.initWithRequest, hedge, hprocessed,
    Outcome.ok_bind, Option.getD_some, hrequest]
  exact ⟨_, rfl, hmethod, hbody⟩

theorem loop_target (aBaseURL : String) :
    decomposeURL oneSite aBaseURL "https://b.com/" =
      .ok (some ⟨"b.com", "/", "https"⟩) := rfl

theorem loop_redirection (connection : QUICConnection) :
    connection.redirection oneSite [("Location", "https://b.com/")] =
      .ok (some { connection.mRequest with
        mURL := "https://b.com/"
        mHost := "b.com"
        mPath := "/"
        mRest := "/"
        mOriginalScheme := "https" }) := by
  have hcorrect : correctURLIfNeeded oneSite "https://b.com/"
    connection.mRequest.mOriginalScheme = "https://b.com/" := rfl
  have hlocation : List.lookup "Location" [("Location", "https://b.com/")] =
    some "https://b.com/" := rfl
  simp only [QUICConnection.redirection, hlocation, hcorrect, loop_target,
    Outcome.ok_bind]
  rfl

theorem loop_redirected (request : Request) (hmethod : request.mMethod = "GET")
    (hbody : request.mBody = ⟨[]⟩) :
    ∃ connection newRequest aResponse,
      (QUICConnection.startWithRequest {} request).1.react oneSite movedTo =
        .ok (connection, [.connectionWasRedirected newRequest aResponse]) ∧
      connection.mDepth = 0 ∧
      URLRequestFromRequest oneSite newRequest =
        loopRequest request.mHeaders := by
  unfold movedTo QUICConnection.react
    QUICConnection.quicSessionDidReceiveResponse
  simp only [QUICConnection.startWithRequest, loop_redirection,
    Outcome.ok_bind]
  refine ⟨_, _, _, rfl, rfl, ?_⟩
  rw [loopRequest, ← hmethod, ← hbody]
  rfl

theorem loop_round (chain : RedirectChain)
    (headers : List (String × String)) :
    ∃ issued answered headers',
      chain.startLoading oneSite loopAnswers false (loopRequest headers) =
        some issued ∧
      issued.react oneSite (.stream chain.started.length movedTo) =
        some answered ∧
      answered.started.map QUICConnection.mDepth =
        chain.started.map QUICConnection.mDepth ++ [0] ∧
      answered.redirected = some (loopRequest headers') := by
  obtain ⟨request, hinit, hmethod, hbody⟩ := loop_initWithRequest headers
  obtain ⟨connection, newRequest, aResponse, hreact, hdepth, hback⟩ :=
    loop_redirected request hmethod hbody
  refine ⟨⟨chain.started ++ [(QUICConnection.startWithRequest {} request).1],
    none⟩, ⟨chain.started ++ [connection], some (loopRequest request.mHeaders)⟩,
    request.mHeaders, ?_, ?_, ?_, rfl⟩
  · rw [startLoading, if_pos (loop_accepted headers), hinit]
    rfl
  · simp only [react, List.getElem?_concat_length, Option.bind_eq_bind,
      Option.bind_some, hreact, Except.toOption, Option.pure_def,
      List.findSome?_cons, redirectCallback, hback, Option.some_or]
    rw [List.set_append_right _ _ le_rfl, Nat.sub_self]
    rfl
  · rw [List.map_append, List.map_singleton, hdepth]

theorem loop_start : (system oneSite).Path Admitted [] {} := .start rfl

theorem loop_path (redirections : Nat) :
    ∃ trail chain headers, (system oneSite).Path Admitted trail chain ∧
      chain.started.map QUICConnection.mDepth =
        List.replicate (redirections + 1) 0 ∧
      chain.redirected = some (loopRequest headers) := by
  induction redirections with
  | zero =>
      obtain ⟨issued, answered, headers, hissue, hanswer, hdepths, hback⟩ :=
        loop_round {} []
      have hissued := loop_start.next
        (e := ChainEvent.issue loopAnswers false (loopRequest [])) rfl hissue
      have hanswered := hissued.next (e := ChainEvent.stream 0 movedTo)
        trivial hanswer
      exact ⟨_, _, headers, hanswered, hdepths, hback⟩
  | succ redirections ih =>
      obtain ⟨trail, chain, headers, path, hbefore, hredirected⟩ := ih
      obtain ⟨issued, answered, headers', hissue, hanswer, hdepths, hback⟩ :=
        loop_round chain headers
      have hreissue : (system oneSite).step chain
          (.reissue loopAnswers false) = some issued := by
        simp only [system, react, hredirected, Option.bind_eq_bind,
          Option.bind_some]
        exact hissue
      have hissued := path.next (e := ChainEvent.reissue loopAnswers false)
        trivial hreissue
      have hanswered := hissued.next
        (e := ChainEvent.stream chain.started.length movedTo) trivial hanswer
      refine ⟨_, _, headers', hanswered, ?_, hback⟩
      rw [hdepths, hbefore]
      exact List.replicate_succ'.symm

/-- Eleven redirections were followed, and all depths are zero. -/
theorem loop_not_bounded :
    ∃ trail chain, (system oneSite).Path Admitted trail chain ∧
      chain.started.map QUICConnection.mDepth = List.replicate 12 0 ∧
      ¬ chain.Bounded := by
  obtain ⟨trail, chain, headers, path, hdepths, -⟩ := loop_path 11
  refine ⟨trail, chain, path, hdepths, fun hbounded => ?_⟩
  have hlength : chain.started.length = 12 := by
    simpa using congrArg List.length hdepths
  have hfollowed := hbounded.followed
  omega

theorem bounded_iff_notReissued_issued :
    ∃ trail chain, (system oneSite).Path Admitted trail chain ∧
      chain.started.length = 1 ∧ Throughout Bounded trail chain := by
  obtain ⟨issued, answered, headers, hissue, hanswer, hdepths, -⟩ :=
    loop_round {} []
  have hissued := loop_start.next
    (e := ChainEvent.issue loopAnswers false (loopRequest [])) rfl hissue
  have path := hissued.next (e := ChainEvent.stream 0 movedTo) trivial
    hanswer
  refine ⟨_, _, path, ?_, (bounded_iff_notReissued path).mpr ?_⟩
  · simpa using congrArg List.length hdepths
  · simp only [obeys_snoc, obeys_nil, true_and]
    exact ⟨trivial, trivial⟩

end Loop

end RedirectChain

end RevSDK
