import RevSDK.Connection.StreamDialogue

/-!
# The callbacks of a session

A callback of the library on a stream may hand out data, parse the headers and
close the stream or the whole connection before the method of the SDK goes on.
All these steps may come in any order and number; only the headers of a stream
complete at most once.  Each request still hears a disciplined dialogue.
-/

namespace RevSDK

open RevSDK.Foundation

/--
What a stream goes through, on the way through a callback of the library or
between two of them.
-/
inductive CallbackStep where
  | onStreamFrame
  | add_incoming_data (aData : Data)
  | parsedHeaders (responseCode : Int) (headers : SpdyHeaderBlock)
  | reset
  | closeConnection
  | update (aNowMS : Nat)
  | onSocketError (aError : Error)

inductive CallbackEvent where
  | task (event : SessionEvent)
  | streamCallback (aStream : Nat) (steps : List CallbackStep)
  | onInitialHeadersComplete (aStream : Nat) (steps : List CallbackStep)

namespace QUICSession

def parseHeaders (session : QUICSession) (aStream : Nat) (responseCode : Int)
    (headers : SpdyHeaderBlock) : QUICSession :=
  match session.findStream aStream with
  | none => session
  | some found => session.setStream aStream { found with
      responseCode := responseCode, responseHeaders := headers }

def takeStep (aStream : Nat) (session : QUICSession) :
    CallbackStep → QUICSession
  | .onStreamFrame =>
      session.callStream aStream fun found =>
        (found.stream.onStreamFrame, [])
  | .add_incoming_data aData =>
      session.callStream aStream fun found =>
        found.stream.should_add_incoming_data aData
  | .parsedHeaders responseCode headers =>
      session.parseHeaders aStream responseCode headers
  | .reset => session.closeStream aStream
  | .closeConnection => session.closeConnection
  | .update aNowMS =>
      session.callStream aStream fun found => found.stream.update aNowMS
  | .onSocketError aError =>
      session.callStream aStream fun found =>
        found.stream.onSocketError aError

/-- The override of the SDK follows the method it overrides. -/
def completeHeaders (session : QUICSession) (aStream : Nat)
    (steps : List CallbackStep) : QUICSession :=
  (steps.foldl (takeStep aStream) session).callStream aStream fun found =>
    found.stream.onInitialHeadersComplete found.responseCode
      found.responseHeaders

def heard (session : QUICSession) (request : Nat) : List DelegateCall :=
  session.told.filterMap fun entry =>
    if entry.1 = request then some entry.2 else none

end QUICSession

/-- `headed` lists the streams whose headers have completed. -/
structure HeadedSession where
  session : QUICSession := {}
  headed : List Nat := []

namespace HeadedSession

/-- A new stream at an address has not had its headers. -/
def forget (headed : List Nat) : SessionEvent → List Nat
  | .sendRequest _ creation =>
      headed.filter fun aStream => creation != some aStream
  | _ => headed

def react (world : HeadedSession) : CallbackEvent → HeadedSession
  | .task event =>
      { session := world.session.react event
        headed := forget world.headed event }
  | .streamCallback aStream steps =>
      { world with
        session := steps.foldl (QUICSession.takeStep aStream) world.session }
  | .onInitialHeadersComplete aStream steps =>
      { session := world.session.completeHeaders aStream steps
        headed := aStream :: world.headed }

def system : EventSystem HeadedSession CallbackEvent where
  initial world := world = {}
  step world event :=
    if world.session.fault then none else some (world.react event)

def completesHeaders : SessionEvent → Bool
  | .onInitialHeadersComplete _ _ _ => true
  | _ => false

/-- The headers of a stream complete in a callback of their own, and once. -/
def Admitted (world : HeadedSession) : CallbackEvent → Prop
  | .task event =>
      completesHeaders event = false ∧ world.session.Admitted event
  | .streamCallback _ _ => True
  | .onInitialHeadersComplete aStream _ => aStream ∉ world.headed

end HeadedSession

namespace QUICSession

def phase (session : QUICSession) (request : Nat) : Option CallPhase :=
  requestDialogue.converse .waiting (session.heard request)

structure Orderly (headed : List Nat) (session : QUICSession) : Prop where
  told_sent : ∀ entry ∈ session.told, entry.1 ∈ session.sent
  mapped_sent : ∀ aStream request,
    session.mStreamDelegateMap.lookup aStream = some request →
      request ∈ session.sent
  single : ∀ aStream other request,
    session.mStreamDelegateMap.lookup aStream = some request →
      session.mStreamDelegateMap.lookup other = some request →
        aStream = other
  spoken : ∀ request, ∃ phase, session.phase request = some phase
  agrees : ∀ aStream request found,
    session.mStreamDelegateMap.lookup aStream = some request →
      session.findStream aStream = some found →
        session.phase request = some found.stream.phase ∧
        found.stream.mFailed = false ∧
        (found.stream.mHeadersDelivered = true → aStream ∈ headed)

section Telling

variable {session : QUICSession} {aStream request : Nat}

theorem receive_mapped
    (hrequest : session.mStreamDelegateMap.lookup aStream = some request)
    (call : StreamCall) :
    receive aStream session call =
      if call.terminal then
        (session.tell request call.answer).erase aStream
      else session.tell request call.answer := by
  cases call <;>
    simp [receive, onQUICStreamReceivedResponse, onQUICStreamReceivedData,
      onQUICStreamFailed, onQUICStreamCompleted, withDelegate, hrequest,
      StreamCall.terminal, StreamCall.answer]

theorem foldl_receive_unmapped
    (hrequest : session.mStreamDelegateMap.lookup aStream = none)
    (calls : List StreamCall) :
    calls.foldl (receive aStream) session = session := by
  induction calls with
  | nil => rfl
  | cons call calls ih =>
      have hcall : receive aStream session call = session := by
        rcases receive_cases session aStream call with ⟨-, hnext⟩ |
          ⟨_, _, hsome, -⟩ | ⟨_, _, hsome, -⟩
        · exact hnext
        · rw [hrequest] at hsome
          cases hsome
        · rw [hrequest] at hsome
          cases hsome
      rw [List.foldl_cons, hcall, ih]

theorem foldl_receive_mapped {calls : List StreamCall}
    {phase phase' : CallPhase}
    (hrequest : session.mStreamDelegateMap.lookup aStream = some request)
    (hphase : phase ≠ .ended)
    (hcalls : requestDialogue.converse phase (calls.map StreamCall.answer) =
      some phase') :
    (calls.foldl (receive aStream) session).told =
        session.told ++ calls.map (fun call => (request, call.answer)) ∧
      (calls.foldl (receive aStream) session).mStreamDelegateMap =
        if phase' = .ended then session.mStreamDelegateMap.erase aStream
        else session.mStreamDelegateMap := by
  refine @Dialogue.converse_foldl _ _ requestDialogue _ _ StreamCall.answer
    (receive aStream)
    (fun heard phase next =>
      next.told =
          session.told ++ heard.map (fun call => (request, call.answer)) ∧
        next.mStreamDelegateMap =
          if phase = .ended then session.mStreamDelegateMap.erase aStream
          else session.mStreamDelegateMap)
    _ _ _ _ ⟨(List.append_nil _).symm, (if_neg hphase).symm⟩ ?_ hcalls
  rintro heard before call after next ⟨htold, hmap⟩ hnext
  have hended := next_eq_ended_iff hnext
  rw [StreamCall.terminal_answer] at hended
  rw [if_neg (next_running hnext)] at hmap
  rw [receive_mapped (hmap ▸ hrequest)]
  by_cases hterminal : call.terminal = true
  · simp [hterminal, hended.mpr hterminal, tell, erase, htold, hmap]
  · simp [hterminal, mt hended.mp hterminal, tell, htold, hmap]

theorem heard_told {next : QUICSession} {answers : List DelegateCall}
    (htold : next.told =
      session.told ++ answers.map fun answer => (request, answer))
    (other : Nat) :
    next.heard other =
      if other = request then session.heard other ++ answers
      else session.heard other := by
  unfold heard
  rw [htold, List.filterMap_append, List.filterMap_map]
  split
  next hsame =>
    subst hsame
    simp
  next hother =>
    simp [Ne.symm hother]

theorem phase_told {next : QUICSession} {answers : List DelegateCall}
    {before : CallPhase}
    (htold : next.told =
      session.told ++ answers.map fun answer => (request, answer))
    (hbefore : session.phase request = some before) (other : Nat) :
    next.phase other =
      if other = request then requestDialogue.converse before answers
      else session.phase other := by
  unfold phase at hbefore ⊢
  rw [heard_told htold]
  split
  next hsame =>
    rw [hsame, Dialogue.converse_append, hbefore, Option.bind_some]
  next => rfl

end Telling

section Steps

variable {session next : QUICSession} {headed : List Nat} {aStream : Nat}

theorem start_orderly : ({} : QUICSession).Orderly [] where
  told_sent entry hentry := by cases hentry
  mapped_sent aStream request hrequest := by cases hrequest
  single aStream other request hrequest := by cases hrequest
  spoken request := ⟨.waiting, rfl⟩
  agrees aStream request found hrequest := by cases hrequest

theorem Orderly.silent (h : session.Orderly headed)
    (htold : next.told = session.told) (hsent : next.sent = session.sent)
    (hmap : next.mStreamDelegateMap = session.mStreamDelegateMap)
    (hstreams : ∀ aStream found, aStream ∈ session.mStreamDelegateMap →
      next.findStream aStream = some found →
      ∃ before, session.findStream aStream = some before ∧
        found.stream = before.stream) : next.Orderly headed := by
  have hphase : next.phase = session.phase := by
    funext request
    unfold phase heard
    rw [htold]
  constructor
  · rw [htold, hsent]
    exact h.told_sent
  · rw [hmap, hsent]
    exact h.mapped_sent
  · rw [hmap]
    exact h.single
  · rw [hphase]
    exact h.spoken
  · intro aStream request found hrequest hfound
    rw [hmap] at hrequest
    have hmem : aStream ∈ session.mStreamDelegateMap :=
      AList.lookup_isSome.mp (by rw [hrequest]; rfl)
    obtain ⟨before, hbefore, hsame⟩ := hstreams aStream found hmem hfound
    rw [hphase, hsame]
    exact h.agrees aStream request before hrequest hbefore

theorem Orderly.mono (h : session.Orderly headed) {headed' : List Nat}
    (hsubset : ∀ aStream ∈ headed, aStream ∈ headed') :
    session.Orderly headed' where
  told_sent := h.told_sent
  mapped_sent := h.mapped_sent
  single := h.single
  spoken := h.spoken
  agrees aStream request found hrequest hfound := by
    obtain ⟨hphase, hworking, hheaded⟩ :=
      h.agrees aStream request found hrequest hfound
    exact ⟨hphase, hworking, fun hdelivered =>
      hsubset aStream (hheaded hdelivered)⟩

theorem Orderly.setStream (h : session.Orderly headed)
    {found after : SessionStream}
    (hfound : session.findStream aStream = some found)
    (hsame : after.stream = found.stream) :
    (session.setStream aStream after).Orderly headed := by
  refine h.silent rfl rfl rfl fun other kept _ hkept => ?_
  rw [findStream_setStream (isSome_of_findStream hfound)] at hkept
  split at hkept
  next hother =>
    obtain rfl := Option.some.inj hkept
    exact ⟨found, hother ▸ hfound, hsame⟩
  next => exact ⟨kept, hkept, rfl⟩

theorem Orderly.speak (h : session.Orderly headed) {request : Nat}
    {answers : List DelegateCall} {before after : CallPhase}
    (hrequest : session.mStreamDelegateMap.lookup aStream = some request)
    (hbefore : session.phase request = some before)
    (hanswers : requestDialogue.converse before answers = some after)
    (htold : next.told =
      session.told ++ answers.map fun answer => (request, answer))
    (hsent : next.sent = session.sent)
    (hmap : ∀ other kept,
      next.mStreamDelegateMap.lookup other = some kept →
        session.mStreamDelegateMap.lookup other = some kept)
    (hothers : ∀ other, other ≠ aStream →
      next.findStream other = session.findStream other)
    (hself : ∀ found, aStream ∈ next.mStreamDelegateMap →
      next.findStream aStream = some found →
        after = found.stream.phase ∧ found.stream.mFailed = false ∧
        (found.stream.mHeadersDelivered = true → aStream ∈ headed)) :
    next.Orderly headed := by
  have hphase := phase_told htold hbefore
  rw [hanswers] at hphase
  constructor
  · intro entry hentry
    rw [hsent]
    rw [htold] at hentry
    rcases List.mem_append.mp hentry with hold | hnew
    · exact h.told_sent entry hold
    · obtain ⟨answer, -, rfl⟩ := List.mem_map.mp hnew
      exact h.mapped_sent aStream request hrequest
  · intro other kept hkept
    rw [hsent]
    exact h.mapped_sent other kept (hmap other kept hkept)
  · intro first second kept hfirst hsecond
    exact h.single first second kept (hmap first kept hfirst)
      (hmap second kept hsecond)
  · intro other
    rw [hphase]
    split
    · exact ⟨after, rfl⟩
    · exact h.spoken other
  · intro other kept found hkept hfound
    have hold := hmap other kept hkept
    by_cases hother : other = aStream
    · subst hother
      obtain rfl : request = kept := Option.some.inj (hrequest.symm.trans hold)
      have hmem : other ∈ next.mStreamDelegateMap :=
        AList.lookup_isSome.mp (by rw [hkept]; rfl)
      obtain ⟨rfl, hrest⟩ := hself found hmem hfound
      exact ⟨(hphase request).trans (if_pos rfl), hrest⟩
    · have hkept : kept ≠ request := by
        rintro rfl
        exact hother (h.single other aStream kept hold hrequest)
      rw [hphase, if_neg hkept]
      exact h.agrees other kept found hold ((hothers other hother).symm.trans
        hfound)

theorem Orderly.callStream_headed (h : session.Orderly headed)
    {headed' : List Nat} (hsubset : ∀ aStream ∈ headed, aStream ∈ headed')
    (aStream : Nat)
    (method : SessionStream → QUICDataStream × List StreamCall)
    (hmethod : ∀ found : SessionStream, found.stream.mFailed = false →
      (found.stream.mHeadersDelivered = true → aStream ∈ headed) →
      found.stream.Speaks (aStream ∈ headed') (method found)) :
    (session.callStream aStream method).Orderly headed' := by
  have hgrown := h.mono hsubset
  cases hfound : session.findStream aStream with
  | none =>
      unfold QUICSession.callStream
      rw [hfound]
      exact hgrown.silent rfl rfl rfl fun _ found _ hsome => ⟨found, hsome, rfl⟩
  | some found =>
      have hstreams := (callStream_spec hfound method).2.2.1
      have hothers : ∀ other, other ≠ aStream →
          (session.callStream aStream method).findStream other =
            session.findStream other := by
        intro other hother
        rw [hstreams, if_neg hother]
      have hcall := callStream_found hfound method
      have hsent : (session.callStream aStream method).sent =
          session.sent := by
        rw [hcall, foldl_receive_frame]
        rfl
      cases hrequest : session.mStreamDelegateMap.lookup aStream with
      | none =>
          have hsilent := @foldl_receive_unmapped (session.setStream aStream
            { found with stream := (method found).1 }) aStream hrequest
            (method found).2
          rw [hsilent] at hcall
          refine hgrown.silent (by rw [hcall]; rfl) hsent
            (by rw [hcall]; rfl) ?_
          intro other kept hmem hkept
          have hother : other ≠ aStream := by
            rintro rfl
            exact absurd hmem (AList.lookup_eq_none.mp hrequest)
          exact ⟨kept, (hothers other hother).symm.trans hkept, rfl⟩
      | some request =>
          obtain ⟨hphase, hworking, hheaded⟩ :=
            h.agrees aStream request found hrequest hfound
          have hspeaks := hmethod found hworking hheaded
          have htells : ∀ after, requestDialogue.converse found.stream.phase
              ((method found).2.map StreamCall.answer) = some after →
              (session.callStream aStream method).told = session.told ++
                ((method found).2.map StreamCall.answer).map
                  (fun answer => (request, answer)) ∧
              (session.callStream aStream method).mStreamDelegateMap =
                if after = .ended then session.mStreamDelegateMap.erase aStream
                else session.mStreamDelegateMap := by
            intro after hafter
            rw [hcall, List.map_map]
            exact @foldl_receive_mapped (session.setStream aStream
              { found with stream := (method found).1 }) _ _ _ _ _ hrequest
              found.stream.phase_ne_ended hafter
          generalize method found = made at *
          cases hspeaks with
          | @goesOn stream calls hconverse hworking' hheaded' =>
              obtain ⟨htold, hmap⟩ := htells _ hconverse
              rw [if_neg stream.phase_ne_ended] at hmap
              refine hgrown.speak hrequest hphase hconverse htold hsent ?_
                hothers ?_
              · rw [hmap]
                exact fun _ _ hkept => hkept
              · intro kept _ hkept
                rw [hstreams, if_pos rfl] at hkept
                obtain rfl := Option.some.inj hkept
                exact ⟨rfl, hworking', hheaded'⟩
          | @ends stream calls hconverse =>
              obtain ⟨htold, hmap⟩ := htells _ hconverse
              rw [if_pos rfl] at hmap
              refine hgrown.speak hrequest hphase hconverse htold hsent ?_
                hothers ?_
              · rw [hmap]
                exact fun _ _ hkept => (Ledger.lookup_erase_eq_some.mp hkept).2
              · intro kept hmem
                rw [hmap] at hmem
                simp at hmem

theorem Orderly.callStream (h : session.Orderly headed) (aStream : Nat)
    (method : SessionStream → QUICDataStream × List StreamCall)
    (hmethod : ∀ found : SessionStream, found.stream.mFailed = false →
      (found.stream.mHeadersDelivered = true → aStream ∈ headed) →
      found.stream.Speaks (aStream ∈ headed) (method found)) :
    (session.callStream aStream method).Orderly headed :=
  h.callStream_headed (fun _ hheaded => hheaded) aStream method hmethod

theorem Orderly.foldl {α : Type} {next : QUICSession → α → QUICSession}
    (hnext : ∀ (session : QUICSession) (item : α),
      session.Orderly headed → (next session item).Orderly headed)
    (items : List α) (h : session.Orderly headed) :
    (items.foldl next session).Orderly headed := by
  induction items generalizing session with
  | nil => exact h
  | cons item items ih => exact ih (hnext session item h)

/-! ## Steps of a callback -/

theorem Orderly.closeStream (h : session.Orderly headed) (aStream : Nat) :
    (session.closeStream aStream).Orderly headed := by
  unfold QUICSession.closeStream
  cases hfound : session.findStream aStream with
  | none => exact h
  | some found =>
      dsimp only
      split
      · exact h
      · have hclosed : Orderly headed (session.setStream aStream
            { found with closed := true }) := h.setStream hfound rfl
        exact hclosed.callStream aStream _ fun found hworking _ =>
          QUICDataStream.onVisitorSentClose_speaks hworking
            found.responseCode found.responseHeaders

theorem Orderly.closeConnection (h : session.Orderly headed) :
    session.closeConnection.Orderly headed := by
  unfold QUICSession.closeConnection
  cases hclient : session.mSession with
  | none => exact h
  | some client =>
      dsimp only
      split
      · refine Orderly.foldl (fun _ item hitem => hitem.closeStream item) _ ?_
        refine h.silent rfl rfl rfl fun _ found _ hfound => ?_
        refine ⟨found, ?_, rfl⟩
        simpa [findStream, hclient] using hfound
      · exact h

theorem Orderly.parseHeaders (h : session.Orderly headed) (aStream : Nat)
    (responseCode : Int) (headers : SpdyHeaderBlock) :
    (session.parseHeaders aStream responseCode headers).Orderly headed := by
  unfold QUICSession.parseHeaders
  split
  · exact h
  · rename_i found hfound
    exact h.setStream hfound rfl

theorem Orderly.takeStep (h : session.Orderly headed) (aStream : Nat)
    (step : CallbackStep) :
    (session.takeStep aStream step).Orderly headed := by
  cases step with
  | onStreamFrame =>
      exact h.callStream aStream _ fun _ hworking hheaded =>
        QUICDataStream.onStreamFrame_speaks hworking hheaded
  | add_incoming_data aData =>
      exact h.callStream aStream _ fun _ hworking hheaded =>
        QUICDataStream.should_add_incoming_data_speaks hworking hheaded aData
  | parsedHeaders responseCode headers =>
      exact h.parseHeaders aStream responseCode headers
  | reset => exact h.closeStream aStream
  | closeConnection => exact h.closeConnection
  | update aNowMS =>
      exact h.callStream aStream _ fun _ hworking hheaded =>
        QUICDataStream.update_speaks hworking hheaded aNowMS
  | onSocketError aError =>
      exact h.callStream aStream _ fun _ hworking _ =>
        QUICDataStream.onSocketError_speaks hworking aError

theorem Orderly.completeHeaders (h : session.Orderly headed)
    (hfirst : aStream ∉ headed) (steps : List CallbackStep) :
    (session.completeHeaders aStream steps).Orderly (aStream :: headed) := by
  have hsteps := Orderly.foldl (fun _ step hstep =>
    Orderly.takeStep hstep aStream step) steps h
  refine hsteps.callStream_headed (fun _ => List.mem_cons_of_mem _)
    aStream _ ?_
  intro found hworking hheaded
  have hnone : found.stream.mHeadersDelivered = false := by
    simpa using fun hdelivered => hfirst (hheaded hdelivered)
  exact QUICDataStream.onInitialHeadersComplete_speaks hworking hnone
    found.responseCode found.responseHeaders List.mem_cons_self

/-! ## Tasks of the session -/

theorem Orderly.withoutSession (h : session.Orderly headed) :
    Orderly headed { session with mSession := none } := by
  refine h.silent rfl rfl rfl fun _ found _ hfound => ?_
  cases hfound

theorem Orderly.p_disconnect (h : session.Orderly headed) :
    session.p_disconnect.Orderly headed := by
  unfold QUICSession.p_disconnect
  dsimp only
  split
  · exact h.closeConnection.withoutSession
  · exact h.withoutSession

theorem Orderly.p_connect (h : session.Orderly headed)
    (opened established : Bool) :
    (session.p_connect opened established).Orderly headed := by
  have hbefore : Orderly headed (if session.mSession.isSome then
      session.p_disconnect else session) := by
    split
    · exact h.p_disconnect
    · exact h
  unfold QUICSession.p_connect
  cases opened with
  | false => exact hbefore
  | true =>
      refine hbefore.silent rfl rfl rfl fun _ found _ hfound => ?_
      simp [findStream] at hfound

theorem Orderly.onQUICError (h : session.Orderly headed) :
    session.onQUICError.Orderly headed :=
  Orderly.foldl (fun _ aStream h => h.takeStep aStream (.onSocketError {}))
    _ h.p_disconnect

theorem Orderly.update (h : session.Orderly headed) (aNowMS : Nat) :
    (session.update aNowMS).Orderly headed :=
  Orderly.foldl (fun _ aStream h => h.takeStep aStream (.update aNowMS)) _ h

theorem Orderly.setEncryption (h : session.Orderly headed)
    (established : Bool) :
    (session.setEncryption established).Orderly headed := by
  refine h.silent rfl rfl rfl fun _ found _ hfound => ⟨found, ?_, rfl⟩
  rw [← hfound]
  unfold findStream QUICSession.setEncryption
  cases session.mSession <;> rfl

theorem Orderly.destroyStream (h : session.Orderly headed) (aStream : Nat) :
    (session.destroyStream aStream).Orderly headed := by
  refine h.silent rfl rfl rfl fun other found _ hfound => ⟨found, ?_, rfl⟩
  cases hclient : session.mSession with
  | none => simp [findStream, QUICSession.destroyStream, hclient] at hfound
  | some client =>
      simp only [findStream, QUICSession.destroyStream, hclient,
        Option.map_some, Option.bind_some] at hfound ⊢
      by_cases hother : other = aStream
      · rw [hother, AList.lookup_erase] at hfound
        cases hfound
      · rwa [AList.lookup_erase_ne hother] at hfound

theorem Orderly.forget (h : session.Orderly headed) {event : SessionEvent}
    (hadmitted : session.Admitted event) :
    session.Orderly (HeadedSession.forget headed event) := by
  cases event with
  | sendRequest aStreamDelegate creation =>
      refine { h with agrees := fun aStream request found hrequest hfound => ?_ }
      obtain ⟨hphase, hworking, hheaded⟩ :=
        h.agrees aStream request found hrequest hfound
      refine ⟨hphase, hworking, fun hdelivered => ?_⟩
      refine List.mem_filter.mpr ⟨hheaded hdelivered, ?_⟩
      rw [bne_iff_ne]
      rintro rfl
      rw [hadmitted.2 aStream rfl] at hfound
      cases hfound
  | _ => exact h

theorem Orderly.phase_fresh (h : session.Orderly headed) {request : Nat}
    (hfresh : request ∉ session.sent) :
    session.phase request = some .waiting := by
  have hheard : session.heard request = [] := by
    refine List.filterMap_eq_nil_iff.mpr fun entry hentry => if_neg ?_
    rintro rfl
    exact hfresh (h.told_sent entry hentry)
  rw [QUICSession.phase, hheard]
  rfl

theorem Orderly.receives (h : session.Orderly headed) (request : Nat) :
    Orderly headed { session with sent := session.sent ++ [request] } where
  told_sent entry hentry := List.mem_append_left _ (h.told_sent entry hentry)
  mapped_sent aStream other hother :=
    List.mem_append_left _ (h.mapped_sent aStream other hother)
  single := h.single
  spoken := h.spoken
  agrees := h.agrees

theorem Orderly.opens (h : session.Orderly headed) {request : Nat}
    (hfresh : request ∉ session.sent)
    (hexists : session.mSession.isSome = true) :
    Orderly headed { session.setStream aStream {} with
      sent := session.sent ++ [request]
      mStreamDelegateMap :=
        session.mStreamDelegateMap.insert aStream request } := by
  have hold := h.receives request
  constructor
  · exact hold.told_sent
  · intro other kept hkept
    rcases Ledger.lookup_insert_eq_some.mp hkept with ⟨-, rfl⟩ | ⟨-, hbefore⟩
    · exact List.mem_append_right _ List.mem_cons_self
    · exact hold.mapped_sent other kept hbefore
  · intro first second kept hfirst hsecond
    rcases Ledger.lookup_insert_eq_some.mp hfirst with ⟨rfl, rfl⟩ |
      ⟨-, hbefore⟩ <;>
      rcases Ledger.lookup_insert_eq_some.mp hsecond with ⟨rfl, hsame⟩ |
        ⟨-, hafter⟩
    · rfl
    · exact absurd (h.mapped_sent second _ hafter) hfresh
    · exact absurd (hsame ▸ h.mapped_sent first _ hbefore) hfresh
    · exact h.single first second kept hbefore hafter
  · exact hold.spoken
  · intro other kept found hkept hfound
    have hfind := (findStream_setStream hexists other {}).symm.trans hfound
    rcases Ledger.lookup_insert_eq_some.mp hkept with ⟨rfl, rfl⟩ | ⟨hother, hbefore⟩
    · rw [if_pos rfl] at hfind
      obtain rfl := Option.some.inj hfind
      exact ⟨h.phase_fresh hfresh, rfl, nofun⟩
    · rw [if_neg hother] at hfind
      exact h.agrees other kept found hbefore hfind

theorem Orderly.sendRequest (h : session.Orderly headed)
    {aStreamDelegate : Nat} (hfresh : aStreamDelegate ∉ session.sent)
    (creation : Option Nat) :
    (session.sendRequest aStreamDelegate creation).Orderly headed := by
  have hsent := h.receives aStreamDelegate
  unfold QUICSession.sendRequest p_sendRequest
  split
  · exact hsent
  · rename_i hconnected
    split
    · exact hsent
    · rename_i aStream _
      refine h.opens hfresh ?_
      unfold p_connected at hconnected
      cases hclient : session.mSession with
      | none => simp [hclient] at hconnected
      | some client => rfl

theorem Orderly.react (h : session.Orderly headed) {event : SessionEvent}
    (hadmitted : session.Admitted event)
    (hheaders : HeadedSession.completesHeaders event = false) :
    (session.react event).Orderly headed := by
  cases event with
  | sendRequest aStreamDelegate creation =>
      exact h.sendRequest hadmitted.1 creation
  | connect opened established => exact h.p_connect opened established
  | disconnect => exact h.p_disconnect
  | onQUICError => exact h.onQUICError
  | update aNowMS => exact h.update aNowMS
  | setEncryption established => exact h.setEncryption established
  | connectionClosed => exact h.closeConnection
  | onStreamFrame aStream => exact h.takeStep aStream .onStreamFrame
  | onInitialHeadersComplete aStream responseCode headers =>
      cases hheaders
  | onDataAvailable aStream aData =>
      exact h.takeStep aStream (.add_incoming_data aData)
  | streamClosed aStream => exact h.closeStream aStream
  | streamDestroyed aStream => exact h.destroyStream aStream

end Steps

end QUICSession

namespace HeadedSession

variable {world : HeadedSession}

theorem orderly_of_reachable (hreach : system.Reachable Admitted world) :
    world.session.Orderly world.headed := by
  refine hreach.invariant
    (fun world => world.session.Orderly world.headed) ?_ ?_
  · rintro _ rfl
    exact QUICSession.start_orderly
  · intro before event after h hadmitted hstep
    obtain ⟨-, hafter⟩ := Option.ite_none_left_eq_some.mp hstep
    obtain rfl := Option.some.inj hafter
    cases event with
    | task event =>
        obtain ⟨hheaders, hadmitted⟩ := hadmitted
        exact (h.forget hadmitted).react hadmitted hheaders
    | streamCallback aStream steps =>
        exact QUICSession.Orderly.foldl (fun _ step hstep =>
          QUICSession.Orderly.takeStep hstep aStream step) steps h
    | onInitialHeadersComplete aStream steps =>
        exact h.completeHeaders hadmitted steps

/-- Whatever happens to its stream, a delegate hears a disciplined dialogue. -/
theorem callbacks_disciplined (hreach : system.Reachable Admitted world)
    (request : Nat) : Disciplined (world.session.heard request) := by
  obtain ⟨phase, hphase⟩ := (orderly_of_reachable hreach).spoken request
  exact disciplined_of_converse hphase

/-- The headers are malformed, and the reset closes the stream inside. -/
theorem callbacks_disciplined_reset :
    ∃ world, system.Reachable Admitted world ∧
      world.session.heard 0 = [
        .quicSessionDidReceiveResponse [(":status", "x")] 0,
        .quicSessionDidFinish] ∧
      Disciplined (world.session.heard 0) := by
  have hstart : system.Reachable Admitted {} := .start rfl
  have hconnected := hstart.next
    (e := CallbackEvent.task (.connect true true)) ⟨rfl, trivial⟩ rfl
  have hsent := hconnected.next
    (e := CallbackEvent.task (.sendRequest 0 (some 4096)))
    ⟨rfl, by decide⟩ rfl
  have hreset := hsent.next
    (e := CallbackEvent.onInitialHeadersComplete 4096
      [.parsedHeaders 0 [(":status", "x")], .reset]) List.not_mem_nil rfl
  exact ⟨_, hreset, rfl, callbacks_disciplined hreset 0⟩

end HeadedSession

end RevSDK
