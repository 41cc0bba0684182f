import RevSDK.Connection.StreamDialogue
import RevSDK.Connection.StreamOperations

/-!
# The dialogue under the library's stream

The steps that a callback takes on its way are those of the client stream of
the library: it parses the headers, hands out what is readable and resets
itself.  Whatever they are, the delegate of the stream hears a disciplined
dialogue, and the library's own flag makes its headers complete once.
-/

namespace RevSDK

open RevSDK.Foundation

namespace StreamWorld

structure Talks (headed : Prop) (decompressed : Bool) (world : StreamWorld) :
    Prop where
  spoken : ∃ phase, requestDialogue.converse .waiting world.log = some phase
  agrees : world.mapped = true →
    requestDialogue.converse .waiting world.log = some world.stream.phase ∧
    world.stream.mFailed = false ∧
    (world.stream.mHeadersDelivered = true → headed)
  arrived : world.base.headersDecompressed = decompressed

section Telling

variable {world : StreamWorld} {headed headed' : Prop} {decompressed : Bool}

theorem dispatch_mapped (hmapped : world.mapped = true) (call : StreamCall) :
    dispatch world call = { world with
      log := world.log ++ [call.answer], mapped := !call.terminal } := by
  cases call <;>
    simp [dispatch, hmapped, StreamCall.answer, StreamCall.terminal]

theorem foldl_dispatch_mapped {calls : List StreamCall}
    {phase phase' : CallPhase} (hmapped : world.mapped = true)
    (hphase : phase ≠ .ended)
    (hcalls : requestDialogue.converse phase (calls.map StreamCall.answer) =
      some phase') :
    (calls.foldl dispatch world).log =
        world.log ++ calls.map StreamCall.answer ∧
      ((calls.foldl dispatch world).mapped = true ↔ phase' ≠ .ended) := by
  refine @Dialogue.converse_foldl _ _ requestDialogue _ _ StreamCall.answer
    dispatch
    (fun heard phase next =>
      next.log = world.log ++ heard.map StreamCall.answer ∧
        (next.mapped = true ↔ phase ≠ .ended))
    _ _ _ _ ⟨(List.append_nil _).symm, by simp [hmapped, hphase]⟩ ?_ hcalls
  rintro heard before call after next ⟨hlog, hopen⟩ hnext
  have hended := next_eq_ended_iff hnext
  rw [StreamCall.terminal_answer] at hended
  rw [dispatch_mapped (hopen.mpr (next_running hnext))]
  simp [hlog, hended]

theorem Talks.perform_headed (h : world.Talks headed decompressed)
    {next : QUICDataStream × List StreamCall}
    (hspeaks : world.stream.mFailed = false →
      (world.stream.mHeadersDelivered = true → headed) →
      world.stream.Speaks headed' next) :
    (world.perform next).Talks headed' decompressed := by
  cases hmapped : world.mapped with
  | false =>
      rw [perform_unmapped hmapped]
      refine ⟨h.spoken, fun hagain => ?_, h.arrived⟩
      exact absurd hagain (by simp [hmapped])
  | true =>
      obtain ⟨hphase, hworking, hheaded⟩ := h.agrees hmapped
      have htells : ∀ after, requestDialogue.converse world.stream.phase
          (next.2.map StreamCall.answer) = some after →
          requestDialogue.converse .waiting (world.perform next).log =
              some after ∧
            ((world.perform next).mapped = true ↔ after ≠ .ended) := by
        intro after hafter
        obtain ⟨hlog, hkept⟩ := @foldl_dispatch_mapped { world with
          stream := next.1, calls := world.calls ++ next.2 } _ _ _ hmapped world.stream.phase_ne_ended hafter
        refine ⟨?_, hkept⟩
        rw [perform, hlog, Dialogue.converse_append, hphase]
        exact hafter
      have harrived : (world.perform next).base.headersDecompressed =
          decompressed := by
        rw [perform_base]
        exact h.arrived
      cases hspeaks hworking hheaded with
      | goesOn hconverse hworking' hheaded' =>
          obtain ⟨hlog, -⟩ := htells _ hconverse
          refine ⟨⟨_, hlog⟩, fun _ => ?_, harrived⟩
          rw [perform_stream]
          exact ⟨hlog, hworking', hheaded'⟩
      | ends hconverse =>
          obtain ⟨hlog, hkept⟩ := htells _ hconverse
          refine ⟨⟨_, hlog⟩, fun hagain => ?_, harrived⟩
          exact absurd rfl (hkept.mp hagain)

theorem Talks.perform (h : world.Talks headed decompressed)
    {next : QUICDataStream × List StreamCall}
    (hspeaks : world.stream.mFailed = false →
      (world.stream.mHeadersDelivered = true → headed) →
      world.stream.Speaks headed next) :
    (world.perform next).Talks headed decompressed :=
  h.perform_headed hspeaks

theorem Talks.rebase (h : world.Talks headed decompressed)
    {base : QuicSpdyClientStream} {arrived : List UInt8} {chunks : List Data}
    (hsame : base.headersDecompressed = world.base.headersDecompressed) :
    Talks headed decompressed { world with base, arrived, chunks } :=
  { h with arrived := hsame.trans h.arrived }

end Telling

section Steps

variable {world : StreamWorld} {headed : Prop} {decompressed : Bool}

theorem talks_stable : Stable (Talks headed decompressed) where
  rebase _ hsame h := h.rebase hsame
  addIncomingData aData h := by
    refine Talks.rebase (h.perform fun hworking hheaded => ?_) rfl
    exact QUICDataStream.should_add_incoming_data_speaks hworking hheaded aData
  close _ _ _ hsame h :=
    (h.rebase hsame).perform fun hworking _ =>
      QUICDataStream.onVisitorSentClose_speaks hworking _ _
  takeFrame h := by
    rw [← perform_nil]
    exact h.perform fun hworking hheaded =>
      QUICDataStream.onStreamFrame_speaks hworking hheaded

variable (framer : SpdyFramer)

theorem Talks.onInitialHeadersComplete (h : world.Talks False false)
    (block : Data) (fin : Bool) :
    (world.onInitialHeadersComplete framer block fin).Talks True true := by
  refine talks_stable.onInitialHeadersComplete framer ?_ block fin
    { h with arrived := rfl }
  intro world code headers hunheaded
  refine hunheaded.perform_headed fun hworking hheaded => ?_
  refine QUICDataStream.onInitialHeadersComplete_speaks hworking ?_ _ _ trivial
  exact Bool.eq_false_iff.mpr hheaded

end Steps

/-! ## Runs -/

section Runs

variable {framer : SpdyFramer} {world : StreamWorld}
  {allowed : StreamWorld → StreamEvent → Prop}

def Orderly (world : StreamWorld) : Prop :=
  world.Talks (world.base.headersDecompressed = true)
    world.base.headersDecompressed

theorem Talks.orderly {decompressed : Bool}
    (h : world.Talks (decompressed = true) decompressed) : world.Orderly := by
  have harrived := h.arrived
  subst harrived
  exact h

theorem start_orderly (requestWritten : Bool) :
    (start requestWritten).Orderly where
  spoken := ⟨_, rfl⟩
  agrees := fun _ => ⟨rfl, rfl, nofun⟩
  arrived := rfl

theorem orderly_stable : Stable Orderly where
  rebase hclosed hsame h := (talks_stable.rebase hclosed hsame h).orderly
  addIncomingData aData h := (talks_stable.addIncomingData aData h).orderly
  close base hopen hclosed hsame h :=
    (talks_stable.close base hopen hclosed hsame h).orderly
  takeFrame h := (talks_stable.takeFrame h).orderly

theorem Orderly.onInitialHeadersComplete (h : world.Orderly)
    (hfresh : world.base.headersDecompressed = false) (block : Data)
    (fin : Bool) :
    (world.onInitialHeadersComplete framer block fin).Orderly := by
  have hunheaded : world.Talks False false := by
    simpa [Orderly, hfresh] using h
  have hheaded : Talks (true = true) true
      (world.onInitialHeadersComplete framer block fin) := by
    simpa using hunheaded.onInitialHeadersComplete framer block fin
  exact hheaded.orderly

theorem Orderly.react (h : world.Orderly) (event : StreamEvent) :
    (world.react framer event).Orderly := by
  refine orderly_stable.react framer
    (fun block fin hfresh => h.onInitialHeadersComplete hfresh block fin)
    (fun aNowMS => ?_) (fun aError => ?_) event h
  · refine (Talks.perform h fun hworking hheaded => ?_).orderly
    exact QUICDataStream.update_speaks hworking hheaded aNowMS
  · refine (Talks.perform h fun hworking hheaded => ?_).orderly
    exact QUICDataStream.onSocketError_speaks hworking aError

theorem orderly_of_reachable
    (hreach : (system framer).Reachable allowed world) : world.Orderly := by
  refine hreach.invariant Orderly ?_ ?_
  · rintro _ ⟨requestWritten, rfl⟩
    exact start_orderly requestWritten
  · intro world event next hworld _ hstep
    obtain rfl := Option.some.inj hstep
    exact hworld.react event

theorem log_disciplined (hreach : (system framer).Reachable allowed world) :
    Disciplined world.log := by
  obtain ⟨phase, hphase⟩ := (orderly_of_reachable hreach).spoken
  exact disciplined_of_converse hphase

end Runs

end StreamWorld

end RevSDK
