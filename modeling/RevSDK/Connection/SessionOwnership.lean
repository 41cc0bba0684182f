import RevSDK.Connection.SessionRuns

/-!
# Streams of the session map

A key of `mStreamDelegateMap` is alive as long as the client session owns the
stream.  The library takes a stream out of the map through `OnClose`, which a
destroyed client session does not call; `p_disconnect` closes the connection
first only while `p_connected()` holds.
-/

namespace RevSDK

open RevSDK.Foundation

namespace QUICSession

/-- Every key is a stream of the client session, and none was missed so far. -/
structure KeysOwned (session : QUICSession) : Prop where
  faultless : session.fault = false
  owned : ∀ aStream ∈ session.mStreamDelegateMap,
    (session.findStream aStream).isSome = true

def TearsDown : SessionEvent → Prop
  | .connect _ _ => True
  | .disconnect => True
  | .onQUICError => True
  | _ => False

/-- The streams of the map can still be closed before they are destroyed. -/
def KeepsOwner (session : QUICSession) (event : SessionEvent) : Prop :=
  TearsDown event → session.p_connected = true ∨
    session.mStreamDelegateMap.keys = []

instance (session : QUICSession) (event : SessionEvent) :
    Decidable (session.KeepsOwner event) := by
  refine SessionEvent.casesOn event ?_ ?_ ?_ ?_ ?_ ?_ ?_ ?_ ?_ ?_ ?_ ?_
  all_goals intros; unfold KeepsOwner TearsDown; infer_instance

def Serves (session : QUICSession) (aStream : Nat) : Prop :=
  ∃ found, session.findStream aStream = some found ∧
    found.closed = false ∧ found.stream.mFailed = false

structure Serving (session : QUICSession) : Prop where
  faultless : session.fault = false
  serves : ∀ aStream ∈ session.mStreamDelegateMap, session.Serves aStream
  connected : session.mStreamDelegateMap.keys ≠ [] → session.connected = true

section Steps

variable {session : QUICSession} {aStream : Nat}

theorem Serving.owned (h : session.Serving) : session.KeysOwned where
  faultless := h.faultless
  owned aStream hkey := by
    obtain ⟨found, hfound, -, -⟩ := h.serves aStream hkey
    simp [hfound]

theorem keys_eq_nil (hnone : ∀ aStream, aStream ∉ session.mStreamDelegateMap) :
    session.mStreamDelegateMap.keys = [] := by
  apply List.eq_nil_iff_forall_not_mem.mpr
  intro aStream hkey
  exact hnone aStream (AList.mem_keys.mpr hkey)

theorem not_mem_of_keys (hkeys : session.mStreamDelegateMap.keys = [])
    (aStream : Nat) : aStream ∉ session.mStreamDelegateMap := by
  rw [AList.mem_keys, hkeys]
  exact List.not_mem_nil

theorem Serving.of_empty (hfaultless : session.fault = false)
    (hkeys : session.mStreamDelegateMap.keys = []) : session.Serving where
  faultless := hfaultless
  serves aStream hkey := absurd hkey (not_mem_of_keys hkeys aStream)
  connected hsome := absurd hkeys hsome

/-! ## Closing -/

theorem closeStream_spec
    (h : ∀ other ∈ session.mStreamDelegateMap, session.Serves other)
    (aStream : Nat) :
    (session.closeStream aStream).fault = session.fault ∧
    (session.closeStream aStream).connected = session.connected ∧
    ∀ other ∈ (session.closeStream aStream).mStreamDelegateMap,
      other ∈ session.mStreamDelegateMap ∧ other ≠ aStream ∧
        (session.closeStream aStream).Serves other := by
  unfold closeStream
  cases hfound : session.findStream aStream with
  | none =>
      refine ⟨rfl, rfl, fun other hkey => ⟨hkey, ?_, h other hkey⟩⟩
      rintro rfl
      obtain ⟨found, hsome, -, -⟩ := h other hkey
      simp [hfound] at hsome
  | some found =>
      dsimp only
      split
      · rename_i hclosed
        refine ⟨rfl, rfl, fun other hkey => ⟨hkey, ?_, h other hkey⟩⟩
        rintro rfl
        obtain ⟨_, hsome, hopen, -⟩ := h other hkey
        obtain rfl : found = _ := by simpa [hfound] using hsome
        simp [hclosed] at hopen
      · have hexists := isSome_of_findStream hfound
        have hclosing : (session.setStream aStream { found with
            closed := true }).findStream aStream =
              some { found with closed := true } := by
          rw [findStream_setStream hexists, if_pos rfl]
        obtain ⟨hfault, hconnected, hstreams, hkeys⟩ := callStream_spec hclosing
          fun found => found.stream.onVisitorSentClose found.responseCode
            found.responseHeaders
        refine ⟨hfault, hconnected.trans (setStream_connected _ _ _),
          fun other hkey => ?_⟩
        obtain ⟨hmem, hsilent⟩ := (hkeys other).mp hkey
        have hother : other ≠ aStream := by
          intro hsame
          obtain ⟨_, hsome, -, hworking⟩ := h other hmem
          obtain rfl : found = _ := by simpa [hsame, hfound] using hsome
          have hcalls := hsilent hsame
          rw [QUICDataStream.onVisitorSentClose_eq hworking] at hcalls
          simp [StreamCall.terminal] at hcalls
        refine ⟨hmem, hother, ?_⟩
        obtain ⟨kept, hkept, hopen, hworking⟩ := h other hmem
        refine ⟨kept, ?_, hopen, hworking⟩
        rw [hstreams, if_neg hother, findStream_setStream hexists,
          if_neg hother, hkept]

theorem foldl_closeStream_spec (keys : List Nat)
    (h : ∀ other ∈ session.mStreamDelegateMap, session.Serves other) :
    (keys.foldl closeStream session).fault = session.fault ∧
    ∀ other ∈ (keys.foldl closeStream session).mStreamDelegateMap,
      other ∈ session.mStreamDelegateMap ∧ other ∉ keys := by
  induction keys generalizing session with
  | nil => simp
  | cons key keys ih =>
      obtain ⟨hfault, -, hclosed⟩ := closeStream_spec h key
      obtain ⟨hfaults, hrest⟩ := ih fun other hkey => (hclosed other hkey).2.2
      refine ⟨hfaults.trans hfault, fun other hkey => ?_⟩
      obtain ⟨hmem, hothers⟩ := hrest other hkey
      obtain ⟨hbefore, hother, -⟩ := hclosed other hmem
      exact ⟨hbefore, by simp [hother, hothers]⟩

theorem Serving.closeConnection (h : session.Serving)
    (hconnected : session.connected = true) :
    session.closeConnection.fault = false ∧
      session.closeConnection.mStreamDelegateMap.keys = [] := by
  unfold QUICSession.connected at hconnected
  unfold QUICSession.closeConnection
  cases hclient : session.mSession with
  | none => simp [hclient] at hconnected
  | some client =>
      have hopen : client.connected = true := by simpa [hclient] using hconnected
      have hfind : ∀ other, findStream { session with
          mSession := some { client with connected := false } } other =
            session.findStream other := by
        intro other
        simp [findStream, hclient]
      dsimp only
      rw [if_pos hopen]
      obtain ⟨hfault, hkeys⟩ := @foldl_closeStream_spec { session with
        mSession := some { client with connected := false } }
        client.streams.keys fun other hkey => by
          obtain ⟨found, hfound, hrest⟩ := h.serves other hkey
          exact ⟨found, (hfind other).trans hfound, hrest⟩
      refine ⟨hfault.trans h.faultless, keys_eq_nil fun other hkey => ?_⟩
      obtain ⟨hmem, hnot⟩ := hkeys other hkey
      obtain ⟨found, hfound, -⟩ := h.serves other hmem
      apply hnot
      rw [← AList.mem_keys, ← AList.lookup_isSome]
      simpa [findStream, hclient] using congrArg Option.isSome hfound

theorem connected_of_p_connected (h : session.p_connected = true) :
    session.connected = true := by
  unfold p_connected at h
  unfold connected
  cases hclient : session.mSession with
  | none => simp [hclient] at h
  | some client =>
      rw [hclient] at h
      simp only [Bool.and_eq_true] at h
      simpa using h.1

theorem Serving.p_disconnect (h : session.Serving)
    (howner : session.p_connected = true ∨
      session.mStreamDelegateMap.keys = []) :
    session.p_disconnect.fault = false ∧
      session.p_disconnect.mStreamDelegateMap.keys = [] := by
  unfold QUICSession.p_disconnect
  by_cases hconnected : session.p_connected = true
  · rw [if_pos hconnected]
    exact h.closeConnection (connected_of_p_connected hconnected)
  · rw [if_neg hconnected]
    exact ⟨h.faultless, howner.resolve_left hconnected⟩

theorem p_disconnect_eq (hconnected : session.p_connected = false) :
    session.p_disconnect = { session with mSession := none } := by
  unfold p_disconnect
  simp [hconnected]

theorem Serving.hasSession (h : session.Serving)
    (hkeys : session.mStreamDelegateMap.keys ≠ []) :
    session.mSession.isSome = true := by
  have hconnected := h.connected hkeys
  unfold QUICSession.connected at hconnected
  cases hclient : session.mSession with
  | none => simp [hclient] at hconnected
  | some client => rfl

theorem Serving.p_connect (h : session.Serving) (opened established : Bool)
    (howner : session.p_connected = true ∨
      session.mStreamDelegateMap.keys = []) :
    (session.p_connect opened established).Serving := by
  have hbefore : (if session.mSession.isSome then session.p_disconnect
      else session).fault = false ∧
      (if session.mSession.isSome then session.p_disconnect
        else session).mStreamDelegateMap.keys = [] := by
    split
    · exact h.p_disconnect howner
    · rename_i hnone
      refine ⟨h.faultless, ?_⟩
      by_contra hkeys
      exact hnone (h.hasSession hkeys)
  unfold QUICSession.p_connect
  dsimp only
  cases opened with
  | true => exact Serving.of_empty hbefore.1 hbefore.2
  | false => exact Serving.of_empty hbefore.1 hbefore.2

theorem Serving.onQUICError (h : session.Serving)
    (howner : session.p_connected = true ∨
      session.mStreamDelegateMap.keys = []) :
    session.onQUICError.Serving := by
  obtain ⟨hfault, hkeys⟩ := h.p_disconnect howner
  unfold QUICSession.onQUICError
  dsimp only
  rw [hkeys]
  exact Serving.of_empty hfault hkeys

/-! ## Calls on the streams of the map -/

theorem Serving.setStream (h : session.Serving) {found next : SessionStream}
    (hfound : session.findStream aStream = some found)
    (hclosed : next.closed = found.closed)
    (hfailed : next.stream.mFailed = found.stream.mFailed) :
    (session.setStream aStream next).Serving where
  faultless := h.faultless
  serves other hkey := by
    have hexists := isSome_of_findStream hfound
    obtain ⟨kept, hkept, hopen, hworking⟩ := h.serves other hkey
    unfold Serves
    rw [findStream_setStream hexists]
    split
    · rename_i hsame
      obtain rfl : found = kept := by simpa [hsame, hfound] using hkept
      exact ⟨next, rfl, hclosed.trans hopen, hfailed.trans hworking⟩
    · exact ⟨kept, hkept, hopen, hworking⟩
  connected hkeys := by
    rw [setStream_connected]
    exact h.connected hkeys

theorem Serving.callStream (h : session.Serving) {found : SessionStream}
    (hfound : session.findStream aStream = some found)
    (method : SessionStream → QUICDataStream × List StreamCall)
    (hmethod : found.stream.mFailed = false →
      (method found).2.any StreamCall.terminal = false →
      (method found).1.mFailed = false) :
    (session.callStream aStream method).Serving := by
  obtain ⟨hfault, hconnected, hstreams, hkeys⟩ := callStream_spec hfound method
  refine ⟨hfault.trans h.faultless, fun other hkey => ?_, fun hsome => ?_⟩
  · obtain ⟨hmem, hsilent⟩ := (hkeys other).mp hkey
    obtain ⟨kept, hkept, hopen, hworking⟩ := h.serves other hmem
    unfold Serves
    rw [hstreams]
    split
    · rename_i hsame
      obtain rfl : found = kept := by simpa [hsame, hfound] using hkept
      exact ⟨_, rfl, hopen, hmethod hworking (hsilent hsame)⟩
    · exact ⟨kept, hkept, hopen, hworking⟩
  · rw [hconnected]
    apply h.connected
    intro hnone
    apply hsome
    apply keys_eq_nil
    intro other hkey
    exact not_mem_of_keys hnone other ((hkeys other).mp hkey).1

theorem Serving.foldl_callStream (keys : List Nat) (h : session.Serving)
    (hexist : ∀ key ∈ keys, (session.findStream key).isSome = true)
    (method : SessionStream → QUICDataStream × List StreamCall)
    (hmethod : ∀ found : SessionStream, found.stream.mFailed = false →
      (method found).2.any StreamCall.terminal = false →
      (method found).1.mFailed = false) :
    (keys.foldl (fun session key => session.callStream key method)
      session).Serving := by
  induction keys generalizing session with
  | nil => exact h
  | cons key keys ih =>
      obtain ⟨found, hfound⟩ := Option.isSome_iff_exists.mp
        (hexist key List.mem_cons_self)
      have hstreams := (callStream_spec hfound method).2.2.1
      apply ih (h.callStream hfound method (hmethod found))
      intro other hother
      rw [hstreams]
      split
      · rfl
      · exact hexist other (List.mem_cons_of_mem _ hother)

theorem Serving.update (h : session.Serving) (aNowMS : Nat) :
    (session.update aNowMS).Serving := by
  apply h.foldl_callStream
  · intro key hkey
    exact h.owned.owned key (AList.mem_keys.mpr hkey)
  · intro found hworking hsilent
    rcases found.stream.update_cases aNowMS with hcase | hcase | hcase
    · rw [hcase]
      exact hworking
    · rw [hcase]
      exact hworking
    · rw [hcase] at hsilent
      simp [QUICDataStream.fail, StreamCall.terminal] at hsilent

theorem Serving.onStreamFrame (h : session.Serving)
    (hadmitted : session.HasStream aStream false) :
    (session.callStream aStream fun found =>
      (found.stream.onStreamFrame, [])).Serving := by
  obtain ⟨found, hfound, -⟩ := hadmitted.exists
  apply h.callStream hfound
  intro hworking _
  simp [QUICDataStream.onStreamFrame, hworking]

theorem Serving.onDataAvailable (h : session.Serving)
    (hadmitted : session.HasStream aStream false) (aData : Data) :
    (session.callStream aStream fun found =>
      found.stream.should_add_incoming_data aData).Serving := by
  obtain ⟨found, hfound, -⟩ := hadmitted.exists
  apply h.callStream hfound
  intro hworking _
  unfold QUICDataStream.should_add_incoming_data
  split
  · exact hworking
  · split <;> exact hworking

theorem Serving.onInitialHeadersComplete (h : session.Serving)
    (responseCode : Int) (headers : SpdyHeaderBlock) :
    (session.onInitialHeadersComplete aStream responseCode
      headers).Serving := by
  unfold QUICSession.onInitialHeadersComplete
  cases hfound : session.findStream aStream with
  | none => exact h
  | some found =>
      have hstored := @Serving.setStream _ _ h _ { found with
        responseCode := responseCode, responseHeaders := headers } hfound
        rfl rfl
      apply hstored.callStream
        ((findStream_setStream (isSome_of_findStream hfound) _ _).trans
          (if_pos rfl))
      intro hworking _
      have hfound : found.stream.mFailed = false := hworking
      simp [QUICDataStream.onInitialHeadersComplete, hfound]

theorem Serving.closeStream (h : session.Serving) (aStream : Nat) :
    (session.closeStream aStream).Serving := by
  obtain ⟨hfault, hconnected, hclosed⟩ := closeStream_spec h.serves aStream
  refine ⟨hfault.trans h.faultless, fun other hkey =>
    (hclosed other hkey).2.2, fun hsome => ?_⟩
  rw [hconnected]
  apply h.connected
  intro hnone
  apply hsome
  apply keys_eq_nil
  intro other hkey
  exact not_mem_of_keys hnone other (hclosed other hkey).1

theorem Serving.destroyStream (h : session.Serving)
    (hadmitted : session.HasStream aStream true) :
    (session.destroyStream aStream).Serving := by
  obtain ⟨found, hfound, hclosed⟩ := hadmitted.exists
  obtain ⟨client, hclient⟩ := Option.isSome_iff_exists.mp
    (isSome_of_findStream hfound)
  constructor
  · exact h.faultless
  · intro other hkey
    obtain ⟨kept, hkept, hopen, hworking⟩ := h.serves other hkey
    have hother : other ≠ aStream := by
      rintro rfl
      obtain rfl : found = kept := by simpa [hfound] using hkept
      simp [hclosed] at hopen
    refine ⟨kept, ?_, hopen, hworking⟩
    rw [← hkept]
    simp [findStream, QUICSession.destroyStream, hclient,
      AList.lookup_erase_ne hother]
  · intro hsome
    have hconnected := h.connected hsome
    simpa [QUICSession.connected, QUICSession.destroyStream, hclient]
      using hconnected

theorem Serving.setEncryption (h : session.Serving) (established : Bool) :
    (session.setEncryption established).Serving := by
  constructor
  · exact h.faultless
  · intro other hkey
    obtain ⟨kept, hkept, hrest⟩ := h.serves other hkey
    refine ⟨kept, ?_, hrest⟩
    rw [← hkept]
    unfold findStream QUICSession.setEncryption
    cases session.mSession <;> rfl
  · intro hsome
    rw [← h.connected hsome]
    unfold QUICSession.connected QUICSession.setEncryption
    cases session.mSession <;> rfl

theorem Serving.connectionClosed (h : session.Serving) :
    session.closeConnection.Serving := by
  cases hconnected : session.connected with
  | true =>
      obtain ⟨hfault, hkeys⟩ := h.closeConnection hconnected
      exact Serving.of_empty hfault hkeys
  | false =>
      unfold QUICSession.connected at hconnected
      unfold QUICSession.closeConnection
      cases hclient : session.mSession with
      | none => exact h
      | some client =>
          have hgone : client.connected = false := by
            simpa [hclient] using hconnected
          dsimp only
          rw [if_neg (by simp [hgone])]
          exact h

theorem Serving.sendRequest (h : session.Serving) (aStreamDelegate : Nat)
    (creation : Option Nat) :
    (session.sendRequest aStreamDelegate creation).Serving := by
  have hsent : Serving { session with
      sent := session.sent ++ [aStreamDelegate] } := { h with }
  unfold QUICSession.sendRequest p_sendRequest
  split
  · exact hsent
  · rename_i hconnected
    have hready : session.p_connected = true := by
      rw [Bool.not_eq_true', Bool.not_eq_false] at hconnected
      exact hconnected
    split
    · exact hsent
    · rename_i aStream hcreated
      have hexists : session.mSession.isSome = true := by
        unfold p_connected at hready
        cases hclient : session.mSession with
        | none => simp [hclient] at hready
        | some client => rfl
      constructor
      · exact h.faultless
      · intro other hkey
        have hfind := @findStream_setStream { session with
          sent := session.sent ++ [aStreamDelegate] } aStream hexists other {}
        dsimp only at hkey
        rw [AList.mem_insert] at hkey
        change ∃ found, findStream _ other = some found ∧ _
        by_cases hsame : other = aStream
        · rw [if_pos hsame] at hfind
          exact ⟨{}, hfind, rfl, rfl⟩
        · rw [if_neg hsame] at hfind
          obtain ⟨kept, hkept, hrest⟩ :=
            h.serves other (hkey.resolve_left hsame)
          exact ⟨kept, hfind.trans hkept, hrest⟩
      · intro _
        exact (setStream_connected _ _ _).trans
          (connected_of_p_connected hready)

theorem Serving.react (h : session.Serving) {event : SessionEvent}
    (hadmitted : session.Admitted event)
    (howner : session.KeepsOwner event) : (session.react event).Serving := by
  cases event with
  | sendRequest aStreamDelegate creation =>
      exact h.sendRequest aStreamDelegate creation
  | connect opened established =>
      exact h.p_connect opened established (howner trivial)
  | disconnect =>
      obtain ⟨hfault, hkeys⟩ := h.p_disconnect (howner trivial)
      exact Serving.of_empty hfault hkeys
  | onQUICError => exact h.onQUICError (howner trivial)
  | update aNowMS => exact h.update aNowMS
  | setEncryption established => exact h.setEncryption established
  | connectionClosed => exact h.connectionClosed
  | onStreamFrame aStream => exact h.onStreamFrame hadmitted
  | onInitialHeadersComplete aStream responseCode headers =>
      exact h.onInitialHeadersComplete responseCode headers
  | onDataAvailable aStream aData => exact h.onDataAvailable hadmitted aData
  | streamClosed aStream => exact h.closeStream aStream
  | streamDestroyed aStream => exact h.destroyStream hadmitted

/-! ## Teardown without encryption -/

theorem callStream_fault (method : SessionStream →
      QUICDataStream × List StreamCall)
    (hfault : session.fault = true) :
    (session.callStream aStream method).fault = true := by
  cases hfound : session.findStream aStream with
  | none => simp [callStream, hfound]
  | some found =>
      rw [(callStream_spec hfound method).1, hfault]

theorem foldl_callStream_fault (keys : List Nat)
    (method : SessionStream → QUICDataStream × List StreamCall)
    (hfault : session.fault = true) :
    (keys.foldl (fun session key => session.callStream key method)
      session).fault = true := by
  induction keys generalizing session with
  | nil => exact hfault
  | cons key keys ih => exact ih (callStream_fault method hfault)

theorem Serving.loses (h : session.Serving) {event : SessionEvent}
    (hloses : ¬ session.KeepsOwner event) :
    ¬ (session.react event).KeysOwned := by
  obtain ⟨htears, hconnected, hkeys⟩ : TearsDown event ∧
      session.p_connected = false ∧
        session.mStreamDelegateMap.keys ≠ [] := by
    simpa [KeepsOwner] using hloses
  obtain ⟨key, hkey⟩ := List.exists_mem_of_ne_nil _ hkeys
  intro howned
  cases event with
  | connect opened established =>
      have hexists := h.hasSession hkeys
      have hnext : session.react (.connect opened established) =
          { session with mSession :=
            if opened then some { encryptionEstablished := established }
            else none } := by
        cases opened <;> simp [QUICSession.react, QUICSession.p_connect,
          hexists, p_disconnect_eq hconnected]
      rw [hnext] at howned
      have hsome := howned.owned key (AList.mem_keys.mpr hkey)
      cases opened <;> simp [findStream] at hsome
  | disconnect =>
      unfold QUICSession.react at howned
      rw [p_disconnect_eq hconnected] at howned
      have hsome := howned.owned key (AList.mem_keys.mpr hkey)
      simp [findStream] at hsome
  | onQUICError =>
      have hfault : (session.react .onQUICError).fault = true := by
        unfold QUICSession.react QUICSession.onQUICError
        rw [p_disconnect_eq hconnected]
        dsimp only
        cases hlist : session.mStreamDelegateMap.keys with
        | nil => exact absurd hlist hkeys
        | cons first rest =>
            rw [List.foldl_cons]
            apply foldl_callStream_fault
            simp [QUICSession.callStream, findStream]
      rw [howned.faultless] at hfault
      simp at hfault
  | _ => exact htears

end Steps

theorem step_eq_some {session next : QUICSession} {event : SessionEvent} :
    system.step session event = some next ↔
      session.fault = false ∧ session.react event = next := by
  cases hfault : session.fault <;> simp [system, hfault]

theorem start_serving : ({} : QUICSession).Serving :=
  Serving.of_empty rfl rfl

end QUICSession

theorem keysOwned_iff_keepsOwner
    {trail : List (QUICSession × SessionEvent)} {session : QUICSession}
    (path : QUICSession.system.Path QUICSession.Admitted trail session) :
    EventSystem.Throughout QUICSession.KeysOwned trail session ↔
      EventSystem.Obeys QUICSession.KeepsOwner trail := by
  apply path.throughout_iff_obeys QUICSession.Serving
  · rintro _ rfl
    exact QUICSession.start_serving
  · intro before event after hserving hadmitted howner hstep
    obtain ⟨-, rfl⟩ := QUICSession.step_eq_some.mp hstep
    exact hserving.react hadmitted howner
  · intro before event after hserving _ hloses hstep
    obtain ⟨-, rfl⟩ := QUICSession.step_eq_some.mp hstep
    exact hserving.loses hloses
  · intro before hserving
    exact hserving.owned

def closedWhileConnected : List SessionEvent :=
  [.connect true true, .sendRequest 0 (some 4096), .onStreamFrame 4096,
    .update 100, .disconnect, .update 200]

theorem keysOwned_iff_keepsOwner_idle :
    ∃ trail session,
      QUICSession.system.Path QUICSession.Admitted trail session ∧
        trail.map Prod.snd = closedWhileConnected ∧
        EventSystem.Throughout QUICSession.KeysOwned trail session ∧
        (0, .quicSessionDidFinish) ∈ session.told := by
  obtain ⟨trail, session, path, howner, hevents, htold⟩ :=
    EventSystem.exists_run QUICSession.system QUICSession.Admitted
      QUICSession.KeepsOwner (s := {}) closedWhileConnected
      (fun session => (0, .quicSessionDidFinish) ∈ session.told) rfl
      (by decide)
  exact ⟨trail, session, path, hevents,
    (keysOwned_iff_keepsOwner path).mpr howner, of_decide_eq_true htold⟩

def rejectedHelloEvents : List SessionEvent :=
  [.connect true true, .sendRequest 0 (some 4096), .setEncryption false,
    .disconnect]

theorem rejectedHello_dangles :
    ∃ session, QUICSession.system.Reachable QUICSession.Admitted session ∧
      ¬ session.KeysOwned ∧ 4096 ∈ session.mStreamDelegateMap ∧
        (session.update 100).fault = true := by
  obtain ⟨session, hreplay, hkey, hfind, hfault⟩ :
      ∃ session, QUICSession.system.replay QUICSession.Admitted {}
          rejectedHelloEvents = some session ∧
        4096 ∈ session.mStreamDelegateMap ∧
        session.findStream 4096 = none ∧
          (session.update 100).fault = true :=
    ⟨_, rfl, by decide, rfl, rfl⟩
  refine ⟨session, .replay rejectedHelloEvents (.start rfl) hreplay, ?_, hkey,
    hfault⟩
  intro howned
  have hsome := howned.owned 4096 hkey
  simp [hfind] at hsome

end RevSDK
