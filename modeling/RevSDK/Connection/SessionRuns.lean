import RevSDK.Connection.QUICSession

/-!
# Runs of the QUIC session

The tasks of the session's thread in any order, among them what the client
session of the library does on its own: its handshake, its streams, the end of
its connection.  A run ends with its first fault.
-/

namespace RevSDK

open RevSDK.Foundation

inductive SessionEvent where
  | sendRequest (aStreamDelegate : Nat) (creation : Option Nat)
  | connect (opened established : Bool)
  | disconnect
  | onQUICError
  | update (aNowMS : Nat)
  | setEncryption (established : Bool)
  | connectionClosed
  | onStreamFrame (aStream : Nat)
  | onInitialHeadersComplete (aStream : Nat) (responseCode : Int)
      (headers : SpdyHeaderBlock)
  | onDataAvailable (aStream : Nat) (aData : Data)
  | streamClosed (aStream : Nat)
  | streamDestroyed (aStream : Nat)
  deriving DecidableEq

namespace QUICSession

def setEncryption (session : QUICSession) (established : Bool) :
    QUICSession :=
  { session with
    mSession := session.mSession.map fun client =>
      { client with encryptionEstablished := established } }

def onInitialHeadersComplete (session : QUICSession) (aStream : Nat)
    (responseCode : Int) (headers : SpdyHeaderBlock) : QUICSession :=
  match session.findStream aStream with
  | none => session
  | some found =>
      (session.setStream aStream { found with
        responseCode := responseCode, responseHeaders := headers }).callStream
        aStream fun found =>
          found.stream.onInitialHeadersComplete responseCode headers

def destroyStream (session : QUICSession) (aStream : Nat) : QUICSession :=
  { session with
    mSession := session.mSession.map fun client =>
      { client with streams := client.streams.erase aStream } }

def react (session : QUICSession) : SessionEvent → QUICSession
  | .sendRequest aStreamDelegate creation =>
      session.sendRequest aStreamDelegate creation
  | .connect opened established => session.p_connect opened established
  | .disconnect => session.p_disconnect
  | .onQUICError => session.onQUICError
  | .update aNowMS => session.update aNowMS
  | .setEncryption established => session.setEncryption established
  | .connectionClosed => session.closeConnection
  | .onStreamFrame aStream =>
      session.callStream aStream fun found =>
        (found.stream.onStreamFrame, [])
  | .onInitialHeadersComplete aStream responseCode headers =>
      session.onInitialHeadersComplete aStream responseCode headers
  | .onDataAvailable aStream aData =>
      session.callStream aStream fun found =>
        found.stream.should_add_incoming_data aData
  | .streamClosed aStream => session.closeStream aStream
  | .streamDestroyed aStream => session.destroyStream aStream

def system : EventSystem QUICSession SessionEvent where
  initial session := session = {}
  step session event :=
    if session.fault then none else some (session.react event)

def HasStream (session : QUICSession) (aStream : Nat) (closed : Bool) : Prop :=
  (session.findStream aStream).any (fun found => found.closed == closed) = true

instance (session : QUICSession) (aStream : Nat) (closed : Bool) :
    Decidable (session.HasStream aStream closed) :=
  inferInstanceAs (Decidable (_ = true))

/--
Requests are told apart, a stream is created where none is, and the library
calls open streams and destroys closed ones.
-/
def Admitted (session : QUICSession) : SessionEvent → Prop
  | .sendRequest aStreamDelegate creation =>
      aStreamDelegate ∉ session.sent ∧
        ∀ aStream ∈ creation, session.findStream aStream = none
  | .onStreamFrame aStream => session.HasStream aStream false
  | .onInitialHeadersComplete aStream _ _ => session.HasStream aStream false
  | .onDataAvailable aStream _ => session.HasStream aStream false
  | .streamClosed aStream => session.HasStream aStream false
  | .streamDestroyed aStream => session.HasStream aStream true
  | _ => True

instance (session : QUICSession) (event : SessionEvent) :
    Decidable (session.Admitted event) := by
  cases event <;> unfold Admitted <;> infer_instance

theorem HasStream.exists {session : QUICSession} {aStream : Nat}
    {closed : Bool} (h : session.HasStream aStream closed) :
    ∃ found, session.findStream aStream = some found ∧
      found.closed = closed := by
  unfold HasStream at h
  cases hfound : session.findStream aStream with
  | none => simp [hfound] at h
  | some found => exact ⟨found, rfl, by simpa [hfound] using h⟩

end QUICSession

def StreamCall.terminal : StreamCall → Bool
  | .onQUICStreamReceivedResponse _ _ => false
  | .onQUICStreamReceivedData _ => false
  | .onQUICStreamFailed _ => true
  | .onQUICStreamCompleted => true

namespace QUICSession

def Answered (session : QUICSession) (request : Nat) : Prop :=
  (request, .quicSessionDidFinish) ∈ session.told ∨
    (request, .quicSessionDidFail) ∈ session.told

section Calls

variable {session : QUICSession} {aStream : Nat}

theorem receive_cases (session : QUICSession) (aStream : Nat)
    (call : StreamCall) :
    session.mStreamDelegateMap.lookup aStream = none ∧
        receive aStream session call = session ∨
    (∃ request answer,
      session.mStreamDelegateMap.lookup aStream = some request ∧
        call.terminal = false ∧ answer ≠ .quicSessionDidFinish ∧
        answer ≠ .quicSessionDidFail ∧
        receive aStream session call = session.tell request answer) ∨
    ∃ request answer,
      session.mStreamDelegateMap.lookup aStream = some request ∧
        call.terminal = true ∧
        (answer = .quicSessionDidFinish ∨ answer = .quicSessionDidFail) ∧
        receive aStream session call =
          (session.tell request answer).erase aStream := by
  cases hrequest : session.mStreamDelegateMap.lookup aStream with
  | none =>
      left
      cases call <;> simp [receive, onQUICStreamReceivedResponse,
        onQUICStreamReceivedData, onQUICStreamFailed, onQUICStreamCompleted,
        withDelegate, hrequest]
  | some request =>
      right
      cases call with
      | onQUICStreamReceivedResponse aCode aHeaders =>
          left
          refine ⟨request, .quicSessionDidReceiveResponse aHeaders aCode, rfl,
            rfl, by simp, by simp, ?_⟩
          simp [receive, onQUICStreamReceivedResponse, withDelegate, hrequest]
      | onQUICStreamReceivedData aData =>
          left
          refine ⟨request, .quicSessionDidReceiveData aData, rfl, rfl,
            by simp, by simp, ?_⟩
          simp [receive, onQUICStreamReceivedData, withDelegate, hrequest]
      | onQUICStreamFailed aError =>
          right
          refine ⟨request, .quicSessionDidFail, rfl, rfl, .inr rfl, ?_⟩
          simp [receive, onQUICStreamFailed, withDelegate, hrequest]
      | onQUICStreamCompleted =>
          right
          refine ⟨request, .quicSessionDidFinish, rfl, rfl, .inl rfl, ?_⟩
          simp [receive, onQUICStreamCompleted, withDelegate, hrequest]

theorem receive_frame (session : QUICSession) (aStream : Nat)
    (call : StreamCall) :
    receive aStream session call = { session with
      mStreamDelegateMap :=
        (receive aStream session call).mStreamDelegateMap
      told := (receive aStream session call).told } := by
  rcases receive_cases session aStream call with ⟨-, hnext⟩ |
    ⟨request, answer, -, -, -, -, hnext⟩ | ⟨request, answer, -, -, -, hnext⟩
  · rw [hnext]
  · rw [hnext, tell]
  · rw [hnext, erase, tell]

theorem foldl_receive_frame (session : QUICSession) (aStream : Nat)
    (calls : List StreamCall) :
    calls.foldl (receive aStream) session = { session with
      mStreamDelegateMap :=
        (calls.foldl (receive aStream) session).mStreamDelegateMap
      told := (calls.foldl (receive aStream) session).told } := by
  induction calls generalizing session with
  | nil => rfl
  | cons call calls ih =>
      rw [List.foldl_cons, ih, receive_frame]

theorem mem_receive (session : QUICSession) (aStream other : Nat)
    (call : StreamCall) :
    other ∈ (receive aStream session call).mStreamDelegateMap ↔
      other ∈ session.mStreamDelegateMap ∧
        (other = aStream → call.terminal = false) := by
  rcases receive_cases session aStream call with ⟨hnone, hnext⟩ |
    ⟨request, answer, hsome, hcall, -, -, hnext⟩ |
    ⟨request, answer, hsome, hcall, -, hnext⟩
  · rw [hnext]
    rw [AList.lookup_eq_none] at hnone
    refine ⟨fun hmem => ⟨hmem, ?_⟩, And.left⟩
    rintro rfl
    exact absurd hmem hnone
  · rw [hnext, hcall]
    simp [tell]
  · rw [hnext, hcall]
    simp [tell, erase, and_comm]

theorem mem_foldl_receive (session : QUICSession) (aStream other : Nat)
    (calls : List StreamCall) :
    other ∈ (calls.foldl (receive aStream) session).mStreamDelegateMap ↔
      other ∈ session.mStreamDelegateMap ∧
        (other = aStream → calls.any StreamCall.terminal = false) := by
  induction calls generalizing session with
  | nil => simp
  | cons call calls ih =>
      rw [List.foldl_cons, ih, mem_receive, List.any_cons,
        Bool.or_eq_false_iff, and_assoc, imp_and]

/-! ## Streams of the client session -/

theorem findStream_setStream (hexists : session.mSession.isSome = true)
    (other : Nat) (found : SessionStream) :
    (session.setStream aStream found).findStream other =
      if other = aStream then some found else session.findStream other := by
  obtain ⟨client, hclient⟩ := Option.isSome_iff_exists.mp hexists
  simp only [findStream, setStream, hclient, Option.map_some,
    Option.bind_some]
  split
  · rename_i hsame
    rw [hsame, AList.lookup_insert]
  · rename_i hother
    rw [AList.lookup_insert_ne hother]

theorem isSome_of_findStream {found : SessionStream}
    (hfound : session.findStream aStream = some found) :
    session.mSession.isSome = true := by
  unfold findStream at hfound
  cases hclient : session.mSession with
  | none => simp [hclient] at hfound
  | some client => rfl

/-- `connection()->connected()`, if there is a client session. -/
def connected (session : QUICSession) : Bool :=
  session.mSession.any QUICClientSession.connected

@[simp] theorem setStream_connected (session : QUICSession) (aStream : Nat)
    (found : SessionStream) :
    (session.setStream aStream found).connected = session.connected := by
  unfold connected setStream
  cases session.mSession <;> rfl

theorem callStream_found {found : SessionStream}
    (hfound : session.findStream aStream = some found)
    (method : SessionStream → QUICDataStream × List StreamCall) :
    session.callStream aStream method =
      (method found).2.foldl (receive aStream)
        (session.setStream aStream { found with
          stream := (method found).1 }) := by
  simp [callStream, hfound]

theorem callStream_spec {found : SessionStream}
    (hfound : session.findStream aStream = some found)
    (method : SessionStream → QUICDataStream × List StreamCall) :
    (session.callStream aStream method).fault = session.fault ∧
    (session.callStream aStream method).connected = session.connected ∧
    (∀ other, (session.callStream aStream method).findStream other =
      if other = aStream then some { found with stream := (method found).1 }
      else session.findStream other) ∧
    ∀ other, other ∈ (session.callStream aStream method).mStreamDelegateMap ↔
      other ∈ session.mStreamDelegateMap ∧ (other = aStream →
        (method found).2.any StreamCall.terminal = false) := by
  have hexists := isSome_of_findStream hfound
  rw [callStream_found hfound]
  refine ⟨?_, ?_, fun other => ?_, fun other => ?_⟩
  · rw [foldl_receive_frame]
    rfl
  · rw [foldl_receive_frame]
    exact setStream_connected _ _ _
  · rw [foldl_receive_frame]
    exact findStream_setStream hexists _ _
  · rw [mem_foldl_receive]
    rfl

end Calls

end QUICSession

end RevSDK
