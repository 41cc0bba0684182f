import RevSDK.Connection.SessionOwnership
import RevSDK.Foundation.Ledger

/-!
# Requests of the session

Every task but `sendRequest` only settles entries of the ledger of requests:
what leaves the map has told its delegate the end.  `p_sendRequest` returns
without a word when it has no stream, and its caller passes no callback.
-/

namespace RevSDK

open RevSDK.Foundation

def DelegateCall.terminal : DelegateCall → Bool
  | .quicSessionDidReceiveResponse _ _ => false
  | .quicSessionDidReceiveData _ => false
  | .quicSessionDidFinish => true
  | .quicSessionDidFail => true

namespace QUICSession

/-- Each request that was sent is in the map or has heard of its end. -/
def RequestsAccounted (session : QUICSession) : Prop :=
  ∀ request ∈ session.sent,
    (∃ aStream, session.mStreamDelegateMap.lookup aStream = some request) ∨
      session.Answered request

/-- A request that is sent gets a stream, at no address of the map. -/
def Accepts (session : QUICSession) : SessionEvent → Prop
  | .sendRequest _ creation => session.p_connected = true ∧
      ∃ aStream, creation = some aStream ∧
        aStream ∉ session.mStreamDelegateMap
  | _ => True

def ledger (session : QUICSession) : Ledger Nat Nat where
  pending := session.mStreamDelegateMap
  received := session.sent
  settled := session.told.filterMap fun entry =>
    if entry.2.terminal then some entry.1 else none

section Steps

variable {session : QUICSession}

theorem answered_iff (session : QUICSession) (request : Nat) :
    session.Answered request ↔ request ∈ session.ledger.settled := by
  unfold Answered ledger
  rw [List.mem_filterMap]
  constructor
  · rintro (hfinish | hfail)
    · exact ⟨_, hfinish, rfl⟩
    · exact ⟨_, hfail, rfl⟩
  · rintro ⟨⟨other, call⟩, htold, hcall⟩
    cases call with
    | quicSessionDidReceiveResponse aHeaders aCode => cases hcall
    | quicSessionDidReceiveData aData => cases hcall
    | quicSessionDidFinish =>
        obtain rfl : other = request := Option.some.inj hcall
        exact .inl htold
    | quicSessionDidFail =>
        obtain rfl : other = request := Option.some.inj hcall
        exact .inr htold

theorem requestsAccounted_iff (session : QUICSession) :
    session.RequestsAccounted ↔ session.ledger.Accounted := by
  unfold RequestsAccounted Ledger.Accounted
  simp only [answered_iff]
  rfl

/-! ## Settling -/

theorem ledger_tell (request : Nat) {call : DelegateCall}
    (hcall : call.terminal = false) :
    (session.tell request call).ledger = session.ledger := by
  simp [ledger, tell, hcall]

theorem settles_receive (session : QUICSession) (aStream : Nat)
    (call : StreamCall) :
    session.ledger.Settles (receive aStream session call).ledger := by
  rcases receive_cases session aStream call with ⟨-, hnext⟩ |
    ⟨request, answer, -, -, hfinish, hfail, hnext⟩ |
    ⟨request, answer, hrequest, -, hanswer, hnext⟩
  · rw [hnext]
    exact .refl
  · have hcall : answer.terminal = false := by
      cases answer <;> simp [DelegateCall.terminal] at hfinish hfail ⊢
    rw [hnext, ledger_tell request hcall]
    exact .refl
  · have hsettle : ((session.tell request answer).erase aStream).ledger =
        session.ledger.settle aStream := by
      rw [Ledger.settle_found (show session.ledger.pending.lookup aStream =
        some request from hrequest)]
      rcases hanswer with rfl | rfl <;>
        simp [ledger, tell, erase, DelegateCall.terminal]
    rw [hnext, hsettle]
    exact .settle aStream .refl

theorem settles_foldl {α : Type} {next : QUICSession → α → QUICSession}
    (hnext : ∀ (session : QUICSession) (item : α),
      session.ledger.Settles (next session item).ledger)
    (items : List α) (session : QUICSession) :
    session.ledger.Settles (items.foldl next session).ledger := by
  induction items generalizing session with
  | nil => exact .refl
  | cons item items ih => exact (hnext session item).trans (ih _)

theorem settles_callStream (session : QUICSession) (aStream : Nat)
    (method : SessionStream → QUICDataStream × List StreamCall) :
    session.ledger.Settles (session.callStream aStream method).ledger := by
  unfold callStream
  split
  · exact .refl
  · rename_i found _
    exact settles_foldl (fun session call =>
      settles_receive session aStream call) (method found).2
      (session.setStream aStream { found with stream := (method found).1 })

theorem settles_closeStream (session : QUICSession) (aStream : Nat) :
    session.ledger.Settles (session.closeStream aStream).ledger := by
  unfold closeStream
  split
  · exact .refl
  · split
    · exact .refl
    · exact settles_callStream (session.setStream aStream _) aStream _

theorem settles_closeConnection (session : QUICSession) :
    session.ledger.Settles session.closeConnection.ledger := by
  unfold closeConnection
  split
  · exact .refl
  · split
    · rename_i client _ _
      exact settles_foldl settles_closeStream client.streams.keys
        { session with mSession := some { client with connected := false } }
    · exact .refl

theorem settles_p_disconnect (session : QUICSession) :
    session.ledger.Settles session.p_disconnect.ledger := by
  unfold p_disconnect
  dsimp only
  split
  · exact settles_closeConnection session
  · exact .refl

theorem settles_p_connect (session : QUICSession) (opened established : Bool) :
    session.ledger.Settles (session.p_connect opened established).ledger := by
  have hbefore : session.ledger.Settles
      (if session.mSession.isSome then session.p_disconnect
        else session).ledger := by
    split
    · exact settles_p_disconnect session
    · exact .refl
  unfold p_connect
  cases opened with
  | true => exact hbefore
  | false => exact hbefore

theorem settles_onQUICError (session : QUICSession) :
    session.ledger.Settles session.onQUICError.ledger :=
  (settles_p_disconnect session).trans
    (settles_foldl (fun session aStream =>
      settles_callStream session aStream _) _ _)

theorem settles_update (session : QUICSession) (aNowMS : Nat) :
    session.ledger.Settles (session.update aNowMS).ledger :=
  settles_foldl (fun session aStream =>
    settles_callStream session aStream _) _ _

theorem settles_onInitialHeadersComplete (session : QUICSession)
    (aStream : Nat) (responseCode : Int) (headers : SpdyHeaderBlock) :
    session.ledger.Settles
      (session.onInitialHeadersComplete aStream responseCode
        headers).ledger := by
  unfold onInitialHeadersComplete
  split
  · exact .refl
  · exact settles_callStream (session.setStream aStream _) aStream _

/-! ## Sending -/

theorem ledger_sendRequest_accepted {aStreamDelegate aStream : Nat}
    (hconnected : session.p_connected = true) :
    (session.sendRequest aStreamDelegate (some aStream)).ledger =
      session.ledger.enter aStream aStreamDelegate := by
  have hready : p_connected { session with
      sent := session.sent ++ [aStreamDelegate] } = true := hconnected
  simp only [sendRequest, p_sendRequest, createReliableClientStream, hready,
    Bool.not_true, Bool.false_eq_true, if_false, if_true]
  rfl

theorem ledger_sendRequest_refused {aStreamDelegate : Nat}
    {creation : Option Nat}
    (hrefused : session.p_connected = false ∨ creation = none) :
    (session.sendRequest aStreamDelegate creation).ledger =
      session.ledger.refuse aStreamDelegate := by
  have hready : p_connected { session with
      sent := session.sent ++ [aStreamDelegate] } = session.p_connected := rfl
  unfold sendRequest p_sendRequest createReliableClientStream
  rw [hready]
  cases hconnected : session.p_connected with
  | false => rfl
  | true =>
      obtain rfl : creation = none :=
        hrefused.resolve_left (by simp [hconnected])
      rfl

theorem balanced_react (h : session.ledger.Balanced) {event : SessionEvent}
    (hadmitted : session.Admitted event) (haccepts : session.Accepts event) :
    (session.react event).ledger.Balanced := by
  cases event with
  | sendRequest aStreamDelegate creation =>
      obtain ⟨hconnected, aStream, rfl, hfree⟩ := haccepts
      unfold react
      dsimp only
      rw [ledger_sendRequest_accepted hconnected]
      exact h.enter hadmitted.1 hfree
  | connect opened established =>
      exact h.settles (settles_p_connect session opened established)
  | disconnect => exact h.settles (settles_p_disconnect session)
  | onQUICError => exact h.settles (settles_onQUICError session)
  | update aNowMS => exact h.settles (settles_update session aNowMS)
  | setEncryption established => exact h
  | connectionClosed => exact h.settles (settles_closeConnection session)
  | onStreamFrame aStream => exact h.settles (settles_callStream _ _ _)
  | onInitialHeadersComplete aStream responseCode headers =>
      exact h.settles (settles_onInitialHeadersComplete _ _ _ _)
  | onDataAvailable aStream aData => exact h.settles (settles_callStream _ _ _)
  | streamClosed aStream => exact h.settles (settles_closeStream _ _)
  | streamDestroyed aStream => exact h

theorem not_accounted_react (h : session.ledger.Balanced)
    {event : SessionEvent} (hadmitted : session.Admitted event)
    (hrefuses : ¬ session.Accepts event) :
    ¬ (session.react event).RequestsAccounted := by
  rw [requestsAccounted_iff]
  cases event with
  | sendRequest aStreamDelegate creation =>
      have hfresh : aStreamDelegate ∉ session.ledger.received := hadmitted.1
      unfold react
      dsimp only
      by_cases hrefused : session.p_connected = false ∨ creation = none
      · rw [ledger_sendRequest_refused hrefused]
        exact h.not_accounted_refuse hfresh
      · obtain ⟨hconnected, hcreated⟩ : session.p_connected = true ∧
            creation ≠ none := by
          simpa using hrefused
        obtain ⟨aStream, rfl⟩ := Option.ne_none_iff_exists'.mp hcreated
        rw [ledger_sendRequest_accepted hconnected]
        apply h.not_accounted_enter hfresh
        by_contra hfree
        exact hrefuses ⟨hconnected, aStream, rfl, hfree⟩
  | _ => exact absurd trivial hrefuses

theorem start_balanced : ({} : QUICSession).ledger.Balanced where
  accounted request hrequest := by cases hrequest
  pending aStream request hrequest := by cases hrequest
  single aStream other request hrequest := by cases hrequest
  settled request hrequest := by cases hrequest
  once := List.nodup_nil

end Steps

end QUICSession

theorem requestsAccounted_iff_accepts
    {trail : List (QUICSession × SessionEvent)} {session : QUICSession}
    (path : QUICSession.system.Path QUICSession.Admitted trail session) :
    EventSystem.Throughout QUICSession.RequestsAccounted trail session ↔
      EventSystem.Obeys QUICSession.Accepts trail := by
  apply path.throughout_iff_obeys fun session => session.ledger.Balanced
  · rintro _ rfl
    exact QUICSession.start_balanced
  · intro before event after hbalanced hadmitted haccepts hstep
    obtain ⟨-, rfl⟩ := QUICSession.step_eq_some.mp hstep
    exact QUICSession.balanced_react hbalanced hadmitted haccepts
  · intro before event after hbalanced hadmitted hrefuses hstep
    obtain ⟨-, rfl⟩ := QUICSession.step_eq_some.mp hstep
    exact QUICSession.not_accounted_react hbalanced hadmitted hrefuses
  · intro before hbalanced
    exact (QUICSession.requestsAccounted_iff before).mpr hbalanced.accounted

theorem requestsAccounted_iff_accepts_connected :
    EventSystem.Throughout QUICSession.RequestsAccounted
      [(({} : QUICSession), SessionEvent.connect true true),
        (QUICSession.p_connect {} true true, .sendRequest 0 (some 4096))]
      ((QUICSession.p_connect {} true true).sendRequest 0 (some 4096)) := by
  have first : QUICSession.system.Path QUICSession.Admitted
      [(({} : QUICSession), SessionEvent.connect true true)]
      (QUICSession.p_connect {} true true) :=
    @EventSystem.Path.next _ _ _ _ [] _ _ _ (.start rfl) trivial rfl
  have path : QUICSession.system.Path QUICSession.Admitted
      [(({} : QUICSession), SessionEvent.connect true true),
        (QUICSession.p_connect {} true true, .sendRequest 0 (some 4096))]
      ((QUICSession.p_connect {} true true).sendRequest 0 (some 4096)) :=
    first.next (by decide) rfl
  refine (requestsAccounted_iff_accepts path).mpr ?_
  intro visit hvisit
  rcases List.mem_cons.mp hvisit with rfl | hsecond
  · trivial
  · obtain rfl := List.mem_singleton.mp hsecond
    exact ⟨rfl, 4096, rfl, by decide⟩

theorem unconnected_request_dropped :
    ∃ session, QUICSession.system.Reachable QUICSession.Admitted session ∧
      session.sent = [0] ∧ session.told = [] ∧
        session.mStreamDelegateMap = ∅ ∧ ¬ session.RequestsAccounted := by
  refine ⟨QUICSession.sendRequest {} 0 none,
    .next (.start rfl) (e := .sendRequest 0 none) (by decide) rfl, rfl, rfl,
    rfl, ?_⟩
  intro haccounted
  rcases haccounted 0 List.mem_cons_self with ⟨aStream, hkey⟩ | hfinish | hfail
  · cases hkey
  · cases hfinish
  · cases hfail

end RevSDK
