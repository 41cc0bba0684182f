import RevSDK.Connection.SessionRequests
import RevSDK.Foundation.Dialogue

/-!
# The dialogue of a request

A `QUICStreamDelegate` waits for a response, then receives its data, and may
hear of the end in both phases.  The flags `mHeadersDelivered` and `mFailed` of
a data stream tell the phase it is in, and each of its methods makes only calls
that are due.
-/

namespace RevSDK

open RevSDK.Foundation

def DelegateCall.isResponse : DelegateCall → Bool
  | .quicSessionDidReceiveResponse _ _ => true
  | _ => false

/-- What a delegate may rely on, for one request. -/
structure Disciplined (calls : List DelegateCall) : Prop where
  oneResponse : calls.countP DelegateCall.isResponse ≤ 1
  responseFirst : ∀ before aData after,
    calls = before ++ .quicSessionDidReceiveData aData :: after →
      ∃ call ∈ before, call.isResponse = true
  oneEnd : calls.countP DelegateCall.terminal ≤ 1
  endLast : ∀ before call after, calls = before ++ call :: after →
    call.terminal = true → after = []

inductive CallPhase where
  | waiting
  | responding
  | ended
  deriving DecidableEq

def requestDialogue : Dialogue CallPhase DelegateCall where
  start := .waiting
  next
    | .waiting, .quicSessionDidReceiveResponse _ _ => some .responding
    | .responding, .quicSessionDidReceiveData _ => some .responding
    | .waiting, .quicSessionDidFinish => some .ended
    | .waiting, .quicSessionDidFail => some .ended
    | .responding, .quicSessionDidFinish => some .ended
    | .responding, .quicSessionDidFail => some .ended
    | _, _ => none

section Discipline

variable {calls : List DelegateCall} {call : DelegateCall}
  {phase phase' : CallPhase}

theorem next_eq_ended_iff (hnext : requestDialogue.next phase call =
    some phase') : phase' = .ended ↔ call.terminal = true := by
  cases phase <;> cases call <;> cases hnext <;>
    simp [DelegateCall.terminal]

theorem next_running (hnext : requestDialogue.next phase call =
    some phase') : phase ≠ .ended := by
  rintro rfl
  cases hnext

theorem disciplined_nil : Disciplined [] where
  oneResponse := Nat.zero_le _
  responseFirst before aData after hsplit := by simp at hsplit
  oneEnd := Nat.zero_le _
  endLast before call after hsplit := by simp at hsplit

theorem Disciplined.append_singleton (h : Disciplined calls)
    (hopen : calls.countP DelegateCall.terminal = 0)
    (hresponse : call.isResponse = true →
      calls.countP DelegateCall.isResponse = 0)
    (hdata : ∀ aData, call = .quicSessionDidReceiveData aData →
      ∃ earlier ∈ calls, earlier.isResponse = true) :
    Disciplined (calls ++ [call]) := by
  constructor
  · rw [List.countP_append, List.countP_singleton]
    split
    next hcall => rw [hresponse hcall]
    next => exact h.oneResponse
  · intro before aData after hsplit
    rcases append_singleton_eq_split.mp hsplit with ⟨-, rfl, hcall⟩ |
      ⟨front, -, hfront⟩
    · exact hdata aData hcall.symm
    · exact h.responseFirst before aData front hfront
  · rw [List.countP_append, hopen, List.countP_singleton]
    split <;> omega
  · intro before other after hsplit hother
    rcases append_singleton_eq_split.mp hsplit with ⟨hafter, -, -⟩ |
      ⟨front, -, hfront⟩
    · exact hafter
    · have hmem : other ∈ calls := by simp [hfront]
      exact absurd hother (List.countP_eq_zero.mp hopen other hmem)

structure Heard (calls : List DelegateCall) (phase : CallPhase) : Prop where
  disciplined : Disciplined calls
  waiting : phase = .waiting → calls = []
  responding : phase = .responding →
    ∃ earlier ∈ calls, earlier.isResponse = true
  running : phase ≠ .ended → calls.countP DelegateCall.terminal = 0

theorem Heard.next (h : Heard calls phase)
    (hnext : requestDialogue.next phase call = some phase') :
    Heard (calls ++ [call]) phase' := by
  have hended := next_eq_ended_iff hnext
  have hcount := h.running (next_running hnext)
  constructor
  · apply h.disciplined.append_singleton hcount
    · intro hresponse
      cases phase with
      | waiting => simp [h.waiting rfl]
      | responding =>
          cases call with
          | quicSessionDidReceiveResponse aHeaders aCode => cases hnext
          | _ => cases hresponse
      | ended => contradiction
    · rintro aData rfl
      cases phase with
      | waiting => cases hnext
      | responding => exact h.responding rfl
      | ended => contradiction
  · rintro rfl
    cases phase <;> cases call <;> cases hnext
  · rintro rfl
    cases phase with
    | waiting =>
        cases call <;> cases hnext
        exact ⟨_, List.mem_append_right _ List.mem_cons_self, rfl⟩
    | responding =>
        obtain ⟨earlier, hmem, hearlier⟩ := h.responding rfl
        exact ⟨earlier, List.mem_append_left _ hmem, hearlier⟩
    | ended => contradiction
  · intro hopen
    have hcall : call.terminal = false := by
      simpa using fun hcall => hopen (hended.mpr hcall)
    simp [hcount, hcall]

theorem disciplined_of_converse (hcalls : requestDialogue.converse .waiting
    calls = some phase) : Disciplined calls := by
  have hheard : Heard calls phase := by
    refine requestDialogue.converse_invariant ?_ ?_ hcalls
    · exact ⟨disciplined_nil, fun _ => rfl, nofun, fun _ => rfl⟩
    · exact fun _ _ _ _ hheard hnext => hheard.next hnext
  exact hheard.disciplined

end Discipline

def StreamCall.answer : StreamCall → DelegateCall
  | .onQUICStreamReceivedResponse aCode aHeaders =>
      .quicSessionDidReceiveResponse aHeaders aCode
  | .onQUICStreamReceivedData aData => .quicSessionDidReceiveData aData
  | .onQUICStreamFailed _ => .quicSessionDidFail
  | .onQUICStreamCompleted => .quicSessionDidFinish

@[simp] theorem StreamCall.terminal_answer (call : StreamCall) :
    call.answer.terminal = call.terminal := by
  cases call <;> rfl

namespace QUICDataStream

def phase (stream : QUICDataStream) : CallPhase :=
  if stream.mHeadersDelivered then .responding else .waiting

theorem phase_ne_ended (stream : QUICDataStream) : stream.phase ≠ .ended := by
  unfold phase
  split <;> simp

/--
The calls of a method are due in the phase of the stream.  Either they end the
dialogue, or the stream goes on in the phase they lead to; `headed` is whether
its headers have completed.
-/
inductive Speaks (headed : Prop) (stream : QUICDataStream) :
    QUICDataStream × List StreamCall → Prop
  | goesOn {next : QUICDataStream} {calls : List StreamCall} :
      requestDialogue.converse stream.phase (calls.map StreamCall.answer) =
        some next.phase →
      next.mFailed = false → (next.mHeadersDelivered = true → headed) →
      Speaks headed stream (next, calls)
  | ends {next : QUICDataStream} {calls : List StreamCall} :
      requestDialogue.converse stream.phase (calls.map StreamCall.answer) =
        some .ended →
      Speaks headed stream (next, calls)

section Methods

variable {headed : Prop} {stream : QUICDataStream}

theorem converse_data (pieces : List Data) :
    requestDialogue.converse .responding
        ((pieces.map .onQUICStreamReceivedData).map StreamCall.answer) =
      some .responding := by
  apply requestDialogue.converse_of_stays
  intro call hcall
  obtain ⟨_, hmem, rfl⟩ := List.mem_map.mp hcall
  obtain ⟨piece, -, rfl⟩ := List.mem_map.mp hmem
  rfl

theorem fail_speaks (stream : QUICDataStream) (aError : Error) :
    Speaks headed stream (stream.fail aError) := by
  refine .ends ?_
  cases hphase : stream.phase with
  | ended => exact absurd hphase stream.phase_ne_ended
  | _ => rfl

theorem onStreamFrame_speaks (hworking : stream.mFailed = false)
    (hheaded : stream.mHeadersDelivered = true → headed) :
    Speaks headed stream (stream.onStreamFrame, []) := by
  rw [onStreamFrame, if_neg (by simp [hworking])]
  exact .goesOn rfl hworking hheaded

theorem should_add_incoming_data_speaks (hworking : stream.mFailed = false)
    (hheaded : stream.mHeadersDelivered = true → headed) (aData : Data) :
    Speaks headed stream (stream.should_add_incoming_data aData) := by
  unfold should_add_incoming_data
  split
  next hdelivered =>
    refine .goesOn ?_ hworking hheaded
    have hpieces : (if aData.isEmpty then ([] : List StreamCall)
        else [.onQUICStreamReceivedData aData]) =
          (if aData.isEmpty then [] else [aData]).map
            .onQUICStreamReceivedData := by
      split <;> rfl
    have hphase : stream.phase = .responding := if_pos hdelivered
    rw [hpieces, ← List.map_append, hphase, converse_data]
    exact congrArg some hphase.symm
  next =>
    split
    · exact .goesOn rfl hworking hheaded
    · exact .goesOn rfl hworking hheaded

theorem onVisitorSentClose_speaks (hworking : stream.mFailed = false)
    (code : Int) (headers : SpdyHeaderBlock) :
    Speaks headed stream (stream.onVisitorSentClose code headers) := by
  rw [onVisitorSentClose_eq hworking]
  refine .ends ?_
  rw [List.append_assoc, List.map_append, List.map_append,
    Dialogue.converse_append]
  have hresponse : requestDialogue.converse stream.phase
      ((if stream.mHeadersDelivered then []
        else [StreamCall.onQUICStreamReceivedResponse code headers]).map
          StreamCall.answer) = some .responding := by
    unfold phase
    cases stream.mHeadersDelivered <;> rfl
  rw [hresponse, Option.bind_some, Dialogue.converse_append, converse_data]
  rfl

theorem onInitialHeadersComplete_speaks (hworking : stream.mFailed = false)
    (hfirst : stream.mHeadersDelivered = false) (code : Int)
    (headers : SpdyHeaderBlock) (hheaded : headed) :
    Speaks headed stream (stream.onInitialHeadersComplete code headers) := by
  rw [onInitialHeadersComplete, if_neg (by simp [hworking])]
  refine .goesOn ?_ hworking fun _ => hheaded
  unfold phase
  rw [hfirst]
  rfl

theorem update_speaks (hworking : stream.mFailed = false)
    (hheaded : stream.mHeadersDelivered = true → headed) (aNowMS : Nat) :
    Speaks headed stream (stream.update aNowMS) := by
  rcases stream.update_cases aNowMS with hnext | hnext | hnext
  · rw [hnext]
    exact .goesOn rfl hworking hheaded
  · rw [hnext]
    exact .goesOn rfl hworking hheaded
  · rw [hnext]
    exact fail_speaks stream timeoutError

theorem onSocketError_speaks (hworking : stream.mFailed = false)
    (aError : Error) :
    Speaks headed stream (stream.onSocketError aError) := by
  rw [onSocketError, if_neg (by simp [hworking])]
  exact fail_speaks stream aError

end Methods

end QUICDataStream

end RevSDK
