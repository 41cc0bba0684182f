import RevSDK.Connection.ConnectionEnds

/-!
# Records of intercepted requests

`RSURLProtocol` sends an intercepted request to the edge, over one of the two
transports, or to its origin.  Each of the three paths writes its own record of
the request for the statistics.  What a record says is left to the functions of
a `RecordFormat`.
-/

namespace RevSDK

open RevSDK.Foundation
open RevSDK.Foundation.EventSystem

/-! ## The origin path -/

structure RSURLConnectionNative where
  request : NSURLRequest
  startTimestamp : Int
  response : Option NSHTTPURLResponse := none
  firstByteTimestamp : Option Int := none
  endTimestamp : Option Int := none
  totalBytesReceived : Option Nat := none

inductive NativeEvent where
  | willPerformHTTPRedirection (response : NSHTTPURLResponse)
      (newRequest : NSURLRequest)
  | didReceiveData (data : Data)
  | didReceiveResponse (response : NSHTTPURLResponse) (now : Int)
  | didCompleteWithError (error : Option Error) (now : Int)

inductive ClientCall where
  | wasRedirectedToRequest (request : NSURLRequest)
      (redirectResponse : NSHTTPURLResponse)
  | didReceiveResponse (response : NSHTTPURLResponse)
  | didLoadData (data : Data)
  | didFinishLoading
  | didFailWithError (error : Error)

def ClientCall.isTerminal : ClientCall → Bool
  | .didFinishLoading => true
  | .didFailWithError _ => true
  | _ => false

structure RecordFormat where
  dataFromRequestAndResponse : NSURLRequest → Option NSHTTPURLResponse →
    EdgeConnection → String → Data
  dataFromConnection : RSURLConnectionNative → Data

inductive RequestEffect where
  | connection (call : ConnectionCall)
  | client (call : ClientCall)
  | addRequestData (aData : Data)

namespace RequestEffect

def isTerminal : RequestEffect → Bool
  | .connection call => call.isTerminal
  | .client call => call.isTerminal
  | .addRequestData _ => false

def isRecord : RequestEffect → Bool
  | .addRequestData _ => true
  | _ => false

end RequestEffect

structure DirectLoading where
  directConnection : RSURLConnectionNative
  dataLength : Nat := 0

namespace DirectLoading

variable (format : RecordFormat) (shouldCollectRequestsData : Bool)

def connectionDidFinish (loading : DirectLoading) :
    DirectLoading × List RequestEffect :=
  if shouldCollectRequestsData then
    let directConnection := { loading.directConnection with
      totalBytesReceived := some loading.dataLength }
    ({ loading with directConnection := directConnection },
      [.addRequestData (format.dataFromConnection directConnection),
        .client .didFinishLoading])
  else (loading, [.client .didFinishLoading])

/-- A failure leaves no record. -/
def react (loading : DirectLoading) :
    NativeEvent → DirectLoading × List RequestEffect
  | .willPerformHTTPRedirection response newRequest =>
      (loading, [.client (.wasRedirectedToRequest newRequest response)])
  | .didReceiveData data =>
      ({ loading with dataLength := loading.dataLength + data.length },
        [.client (.didLoadData data)])
  | .didReceiveResponse response now =>
      ({ loading with
          directConnection := { loading.directConnection with
            firstByteTimestamp := some now
            response := some response } },
        [.client (.didReceiveResponse response)])
  | .didCompleteWithError error now =>
      let loading := { loading with
        directConnection := { loading.directConnection with
          endTimestamp := some now } }
      match error with
      | some error => (loading, [.client (.didFailWithError error)])
      | none => loading.connectionDidFinish format shouldCollectRequestsData

end DirectLoading

/-! ## The paths over the edge -/

def NSHTTPURLResponseFromResponse (aResponse : Option Response) :
    Option NSHTTPURLResponse :=
  aResponse.map fun response =>
    ⟨response.mStatusCode, response.mHeaderFields⟩

section Edge

variable (platform : URLPlatform) (format : RecordFormat)
  (shouldCollectRequestsData : Bool)

def recordOf (connection : EdgeConnection) (aRequest : Request)
    (aResponse : Option Response) : List RequestEffect :=
  if shouldCollectRequestsData then
    [.addRequestData (format.dataFromRequestAndResponse
      (URLRequestFromRequest platform aRequest)
      (NSHTTPURLResponseFromResponse aResponse) connection
      aRequest.mOriginalScheme)]
  else []

def StandardTask.recordAfter (task : StandardTask) (mapped : Bool) :
    TaskEvent → List RequestEffect
  | .didCompleteWithError _ _ =>
      if mapped then
        recordOf platform format shouldCollectRequestsData (.standard task)
          task.connection.mCurrentRequest task.connection.mResponse
      else []
  | _ => []

/-- A stream writes its record before, and none when it fails. -/
def QUICConnection.recordBefore (connection : QUICConnection) :
    QUICStreamEvent → List RequestEffect
  | .quicSessionDidFinish _ =>
      if connection.mRedirect.isSome then []
      else recordOf platform format shouldCollectRequestsData
        (.quic connection) connection.mRequest connection.mResponse
  | _ => []

def EdgeConnection.reactRecording (connection : EdgeConnection)
    (event : EdgeEvent) : Option (EdgeConnection × List RequestEffect) := do
  let (connection', calls) ← EdgeWorld.handle platform connection event
  let effects := calls.map RequestEffect.connection
  match connection, connection', event with
  | .standard task, .standard task', .standard event =>
      return (connection', effects ++ task'.recordAfter platform format
        shouldCollectRequestsData task.mapped event)
  | .quic _, .quic stream, .quic event =>
      return (connection', stream.recordBefore platform format
        shouldCollectRequestsData event ++ effects)
  | _, _, _ => none

end Edge

/-! ## One intercepted request -/

inductive RequestPath where
  | waiting
  | edge (connection : EdgeConnection)
  | origin (loading : DirectLoading)

structure RequestWorld where
  path : RequestPath := .waiting
  effects : List RequestEffect := []

/-- `startLoading` chooses the path; the flag is what the model answers. -/
inductive RequestEvent where
  | startEdge (aProtocolName : String) (mShouldSimulateErrors : Bool)
      (aRequest : Request)
  | startOrigin (request : NSURLRequest) (now : Int)
  | edge (event : EdgeEvent) (shouldCollectRequestsData : Bool)
  | origin (event : NativeEvent) (shouldCollectRequestsData : Bool)

def RequestEvent.shouldCollectRequestsData : RequestEvent → Bool
  | .edge _ collects => collects
  | .origin _ collects => collects
  | _ => true

namespace RequestWorld

def react (platform : URLPlatform) (format : RecordFormat)
    (world : RequestWorld) (event : RequestEvent) : Option RequestWorld :=
  match world.path, event with
  | .waiting, .startEdge aProtocolName mShouldSimulateErrors aRequest => do
      let (connection, calls) ← (EdgeConnection.startWithRequest platform
        aProtocolName mShouldSimulateErrors aRequest).toOption
      return ⟨.edge connection, world.effects ++ calls.map .connection⟩
  | .waiting, .startOrigin request now =>
      some ⟨.origin { directConnection := ⟨request, now, none, none, none,
        none⟩ }, world.effects⟩
  | .edge connection, .edge event shouldCollectRequestsData => do
      let (connection, effects) ← connection.reactRecording platform format
        shouldCollectRequestsData event
      return ⟨.edge connection, world.effects ++ effects⟩
  | .origin loading, .origin event shouldCollectRequestsData =>
      let (loading, effects) :=
        loading.react format shouldCollectRequestsData event
      some ⟨.origin loading, world.effects ++ effects⟩
  | _, _ => none

def terminated (world : RequestWorld) : Bool :=
  world.effects.any RequestEffect.isTerminal

def records (world : RequestWorld) : Nat :=
  world.effects.countP RequestEffect.isRecord

/-- Requests are recorded all the time, and have no events once they end. -/
def Admitted (world : RequestWorld) (event : RequestEvent) : Prop :=
  world.terminated = false ∧ event.shouldCollectRequestsData = true

def system (platform : URLPlatform) (format : RecordFormat) :
    EventSystem RequestWorld RequestEvent where
  initial world := world = {}
  step := react platform format

/-! ## One record for each end -/

/-- One record at the end of the request, and none before. -/
def RecordedOnce (world : RequestWorld) : Prop :=
  world.records = world.terminated.toNat

def edgeEndsUnrecorded (connection : EdgeConnection) : EdgeEvent → Bool
  | .quic (.quicSessionDidFail error) =>
      (connection.endingOn (.quic (.quicSessionDidFail error))).isSome
  | _ => false

/-- The ends that leave no record. -/
def endsUnrecorded (platform : URLPlatform) (world : RequestWorld) :
    RequestEvent → Bool
  | .startEdge aProtocolName _ aRequest =>
      EdgeConnection.refuses platform aProtocolName aRequest
  | .edge event _ =>
      match world.path with
      | .edge connection => edgeEndsUnrecorded connection event
      | _ => false
  | .origin (.didCompleteWithError error _) _ => error.isSome
  | _ => false

def EndsRecorded (platform : URLPlatform) (world : RequestWorld)
    (event : RequestEvent) : Prop :=
  world.endsUnrecorded platform event = false

def Balanced (effects : List RequestEffect) : Prop :=
  effects.countP RequestEffect.isRecord =
    (effects.any RequestEffect.isTerminal).toNat

theorem balanced_comm (first second : List RequestEffect) :
    Balanced (first ++ second) ↔ Balanced (second ++ first) := by
  simp only [Balanced, List.countP_append, List.any_append]
  rw [Nat.add_comm, Bool.or_comm]

theorem isTerminal_of_isRecord {effect : RequestEffect}
    (hrecord : effect.isRecord = true) : effect.isTerminal = false := by
  cases effect with
  | addRequestData aData => rfl
  | _ => contradiction

theorem balanced_calls_iff {ending : Option Ending}
    {calls : List ConnectionCall} (hcalls : EdgeConnection.Calls ending calls)
    {records : List RequestEffect}
    (hrecords : ∀ effect ∈ records, effect.isRecord = true) :
    Balanced (calls.map RequestEffect.connection ++ records) ↔
      records.length = ending.isSome.toNat := by
  have hcount : (calls.map RequestEffect.connection).countP
      RequestEffect.isRecord = 0 := by
    simp [List.countP_eq_zero, RequestEffect.isRecord]
  have hsilent : records.any RequestEffect.isTerminal = false :=
    List.any_eq_false.mpr fun effect heffect => by
      simp [isTerminal_of_isRecord (hrecords effect heffect)]
  have hends : (calls.map RequestEffect.connection).any
      RequestEffect.isTerminal = ending.isSome := by
    rw [← hcalls.any_isTerminal, List.any_map]
    rfl
  rw [Balanced, List.countP_append, List.any_append, hcount, hsilent, hends,
    List.countP_eq_length.mpr hrecords, Nat.zero_add, Bool.or_false]

section Recording

variable {platform : URLPlatform} {format : RecordFormat}
  {connection connection' : EdgeConnection} {event : EdgeEvent}
  {effects : List RequestEffect}

theorem recordOf_collecting (connection : EdgeConnection) (aRequest : Request)
    (aResponse : Option Response) :
    (recordOf platform format true connection aRequest aResponse).length = 1 ∧
      ∀ effect ∈ recordOf platform format true connection aRequest aResponse,
        effect.isRecord = true := by
  simp [recordOf, RequestEffect.isRecord]

theorem recordAfter_standard (platform : URLPlatform)
    (format : RecordFormat) (task task' : StandardTask)
    (event : TaskEvent) :
    (task'.recordAfter platform format true task.mapped event).length =
        ((EdgeConnection.standard task).endingOn
          (.standard event)).isSome.toNat ∧
      ∀ effect ∈ task'.recordAfter platform format true task.mapped event,
        effect.isRecord = true := by
  cases event with
  | didCompleteWithError error now =>
      cases hmapped : task.mapped with
      | false =>
          simp [StandardTask.recordAfter, EdgeConnection.endingOn, hmapped]
      | true =>
          simpa [StandardTask.recordAfter, EdgeConnection.endingOn, hmapped]
            using recordOf_collecting (.standard task')
              task'.connection.mCurrentRequest task'.connection.mResponse
  | _ => exact ⟨rfl, by simp [StandardTask.recordAfter]⟩

theorem mRedirect_of_finish {stream stream' : QUICConnection} {now : Int}
    {calls : List ConnectionCall}
    (hfinish : stream.quicSessionDidFinish now = .ok (stream', calls)) :
    stream'.mRedirect = stream.mRedirect := by
  obtain ⟨base, -, hfinish⟩ := (Outcome.bind_eq_ok _ _ _).mp hfinish
  dsimp only at hfinish
  split at hfinish <;>
    obtain ⟨rfl, -⟩ := Prod.mk.inj (Except.ok.inj hfinish) <;>
    rfl

theorem recordBefore_quic (format : RecordFormat) {stream stream' : QUICConnection}
    {event : QUICStreamEvent} {calls : List ConnectionCall}
    (hreact : stream.react platform event = .ok (stream', calls)) :
    ((stream'.recordBefore platform format true event).length =
        ((EdgeConnection.quic stream).endingOn (.quic event)).isSome.toNat ↔
      edgeEndsUnrecorded (.quic stream) (.quic event) = false) ∧
      ∀ effect ∈ stream'.recordBefore platform format true event,
        effect.isRecord = true := by
  cases event with
  | quicSessionDidFinish now =>
      have hsame := mRedirect_of_finish hreact
      cases hredirect : stream.mRedirect with
      | none =>
          simpa [QUICConnection.recordBefore, EdgeConnection.endingOn,
            edgeEndsUnrecorded, hsame, hredirect]
            using recordOf_collecting (.quic stream') stream'.mRequest
              stream'.mResponse
      | some depth =>
          simp [QUICConnection.recordBefore, EdgeConnection.endingOn,
            edgeEndsUnrecorded, hsame, hredirect]
  | quicSessionDidFail error =>
      refine ⟨?_, by simp [QUICConnection.recordBefore]⟩
      simp only [QUICConnection.recordBefore, edgeEndsUnrecorded,
        List.length_nil]
      cases (EdgeConnection.quic stream).endingOn
        (.quic (.quicSessionDidFail error)) <;> simp
  | _ =>
      refine ⟨?_, by simp [QUICConnection.recordBefore]⟩
      simp [QUICConnection.recordBefore, EdgeConnection.endingOn,
        edgeEndsUnrecorded]

theorem reactRecording_balanced
    (hreact : connection.reactRecording platform format true event =
      some (connection', effects)) :
    Balanced effects ↔ edgeEndsUnrecorded connection event = false := by
  obtain ⟨⟨after, calls⟩, hhandle, hreact⟩ :=
    Option.bind_eq_some_iff.mp hreact
  obtain ⟨htransport, hcalls⟩ := EdgeConnection.handle_calls hhandle
  dsimp only at hreact
  split at hreact
  next task task' event _ =>
    obtain ⟨-, rfl⟩ := Prod.mk.inj (Option.some.inj hreact)
    obtain ⟨hlength, hrecords⟩ :=
      recordAfter_standard platform format task task' event
    rw [balanced_calls_iff hcalls hrecords]
    exact iff_of_true hlength rfl
  next stream stream' event _ =>
    obtain ⟨-, rfl⟩ := Prod.mk.inj (Option.some.inj hreact)
    obtain ⟨⟨stream', made⟩, hstream, hpair⟩ :=
      Option.bind_eq_some_iff.mp hhandle
    obtain ⟨⟨⟩, rfl⟩ := Prod.mk.inj (Option.some.inj hpair)
    obtain ⟨hlength, hrecords⟩ := recordBefore_quic format
      ((Outcome.toOption_eq_some _ _).mp hstream)
    rw [balanced_comm, balanced_calls_iff hcalls hrecords]
    exact hlength
  next => contradiction

theorem directLoading_balanced {loading loading' : DirectLoading}
    {event : NativeEvent}
    (hreact : loading.react format true event = (loading', effects)) :
    Balanced effects ↔ ∀ error now,
      event = .didCompleteWithError error now → error = none := by
  cases event with
  | didCompleteWithError error now =>
      cases error with
      | none =>
          obtain ⟨-, rfl⟩ := Prod.mk.inj hreact
          refine iff_of_true rfl ?_
          rintro error now ⟨⟩
          rfl
      | some error =>
          obtain ⟨-, rfl⟩ := Prod.mk.inj hreact
          refine iff_of_false (by simp [Balanced, RequestEffect.isRecord,
            RequestEffect.isTerminal, ClientCall.isTerminal]) ?_
          exact fun hnone => Option.some_ne_none _ (hnone _ _ rfl)
  | _ =>
      obtain ⟨-, rfl⟩ := Prod.mk.inj hreact
      exact iff_of_true rfl (by simp)

end Recording

section Runs

variable {platform : URLPlatform} {format : RecordFormat}
  {world world' : RequestWorld} {event : RequestEvent}
  {trail : List (RequestWorld × RequestEvent)}

theorem react_adds (hcollects : event.shouldCollectRequestsData = true)
    (hreact : world.react platform format event = some world') :
    ∃ added, world'.effects = world.effects ++ added ∧
      (Balanced added ↔ world.EndsRecorded platform event) := by
  obtain ⟨path, before⟩ := world
  cases path with
  | waiting =>
      cases event with
      | startEdge aProtocolName mShouldSimulateErrors aRequest =>
          obtain ⟨⟨connection, calls⟩, hstart, hreact⟩ :=
            Option.bind_eq_some_iff.mp hreact
          obtain rfl := Option.some.inj hreact
          have hcalls := (EdgeConnection.startWithRequest_calls
            ((Outcome.toOption_eq_some _ _).mp hstart)).2
          refine ⟨_, rfl, ?_⟩
          have hnone : ∀ effect ∈ ([] : List RequestEffect),
            effect.isRecord = true := by simp
          have hbalanced := balanced_calls_iff hcalls hnone
          rw [List.append_nil] at hbalanced
          rw [hbalanced, EndsRecorded, endsUnrecorded,
            EdgeConnection.endingOfStart]
          cases EdgeConnection.refuses platform aProtocolName aRequest <;>
            simp
      | startOrigin request now =>
          obtain rfl := Option.some.inj hreact
          exact ⟨[], (List.append_nil _).symm, iff_of_true rfl rfl⟩
      | _ => contradiction
  | edge connection =>
      cases event with
      | edge event collects =>
          obtain rfl : collects = true := hcollects
          obtain ⟨⟨connection', effects⟩, hhandle, hreact⟩ :=
            Option.bind_eq_some_iff.mp hreact
          obtain rfl := Option.some.inj hreact
          exact ⟨effects, rfl, reactRecording_balanced hhandle⟩
      | _ => contradiction
  | origin loading =>
      cases event with
      | origin event collects =>
          obtain rfl : collects = true := hcollects
          obtain rfl := Option.some.inj hreact
          refine ⟨_, rfl, (directLoading_balanced rfl).trans ?_⟩
          cases event with
          | didCompleteWithError error now =>
              simp [EndsRecorded, endsUnrecorded]
          | _ => simp [EndsRecorded, endsUnrecorded]
      | _ => contradiction

theorem recordedOnce_react_iff (hrecorded : world.RecordedOnce)
    (hallowed : world.Admitted event)
    (hreact : world.react platform format event = some world') :
    world'.RecordedOnce ↔ world.EndsRecorded platform event := by
  obtain ⟨added, heffects, hbalanced⟩ := react_adds hallowed.2 hreact
  have hrunning := hallowed.1
  have hnone : world.records = 0 := by
    rw [hrecorded, hrunning]
    rfl
  rw [← hbalanced, RecordedOnce, Balanced, records, terminated, heffects,
    List.countP_append, List.any_append]
  rw [records] at hnone
  rw [terminated] at hrunning
  rw [hnone, hrunning, Nat.zero_add, Bool.false_or]

/--
A request leaves exactly one record, at its end, exactly if it does not end
with the refusal of a standard connection, the failure of a stream or the
failure of the origin.
-/
theorem recordedOnce_iff_endsRecorded
    (path : (system platform format).Path Admitted trail world) :
    Throughout RecordedOnce trail world ↔
      Obeys (EndsRecorded platform) trail := by
  refine Path.throughout_iff_obeys RecordedOnce ?_ ?_ ?_ ?_ path
  · intro start hstart
    obtain rfl : start = {} := hstart
    rfl
  · exact fun _ _ _ hrecorded hallowed hends hreact =>
      (recordedOnce_react_iff hrecorded hallowed hreact).mpr hends
  · exact fun _ _ _ hrecorded hallowed hunrecorded hreact hafter =>
      hunrecorded ((recordedOnce_react_iff hrecorded hallowed hreact).mp hafter)
  · exact fun _ hrecorded => hrecorded

end Runs

section UnrecordedFailures

def blankFormat : RecordFormat where
  dataFromRequestAndResponse _ _ _ _ := ⟨[]⟩
  dataFromConnection _ := ⟨[]⟩

def homePage : Request where
  mMethod := "GET"
  mOriginalURL := "https://a.com/"
  mURL := "https://a.com/"
  mHeaders := []
  mBody := ⟨[]⟩
  mHost := "a.com"
  mPath := "/"
  mRest := "/"
  mOriginalScheme := "https"

def illegible : URLPlatform where
  URLWithString _ := none
  initWithString_relativeToURL _ _ := none
  componentsWithString _ := none
  URL _ := none

def connectionLost : Error := { code := -1005, domain := "NSURLErrorDomain" }

def homePageRequest : NSURLRequest :=
  { URL := some ⟨"https://a.com/", some "https", some "a.com", some "/"⟩
    HTTPMethod := "GET"
    allHTTPHeaderFields := []
    HTTPBody := ⟨[]⟩ }

theorem waiting_path :
    (system illegible blankFormat).Path Admitted [] {} :=
  .start rfl

/-- The failure of a stream, and that of the origin, leave no record. -/
theorem failures_not_recorded :
    (∃ trail world,
      (system illegible blankFormat).Path Admitted trail world ∧
      world.effects =
        [.connection (.connectionDidFailWithError connectionLost)] ∧
      ¬ world.RecordedOnce) ∧
    ∃ trail world,
      (system illegible blankFormat).Path Admitted trail world ∧
      world.effects = [.client (.didFailWithError connectionLost)] ∧
      ¬ world.RecordedOnce := by
  constructor
  · have hstarted := waiting_path.next
      (e := RequestEvent.startEdge "quic" false homePage) ⟨rfl, rfl⟩ rfl
    have hfailed := hstarted.next
      (e := RequestEvent.edge (.quic (.quicSessionDidFail connectionLost)) true)
      ⟨rfl, rfl⟩ rfl
    exact ⟨_, _, hfailed, rfl, Nat.zero_ne_one⟩
  · have hstarted := waiting_path.next
      (e := RequestEvent.startOrigin homePageRequest 0) ⟨rfl, rfl⟩ rfl
    have hfailed := hstarted.next
      (e := RequestEvent.origin
        (.didCompleteWithError (some connectionLost) 1) true) ⟨rfl, rfl⟩ rfl
    exact ⟨_, _, hfailed, rfl, Nat.zero_ne_one⟩

theorem recordedOnce_iff_endsRecorded_finished :
    ∃ trail world,
      (system illegible blankFormat).Path Admitted trail world ∧
      world.terminated = true ∧ Throughout RecordedOnce trail world := by
  have hstarted := waiting_path.next
    (e := RequestEvent.startEdge "quic" false homePage) ⟨rfl, rfl⟩ rfl
  have hfinished := hstarted.next
    (e := RequestEvent.edge (.quic (.quicSessionDidFinish 1)) true)
    ⟨rfl, rfl⟩ rfl
  refine ⟨_, _, hfinished, rfl,
    (recordedOnce_iff_endsRecorded hfinished).mpr ?_⟩
  simp only [obeys_snoc, obeys_nil, true_and]
  exact ⟨rfl, rfl⟩

end UnrecordedFailures

end RequestWorld

end RevSDK
