import RevSDK.Connection.LiveStreams
import RevSDK.Connection.StreamOperations

/-!
# Truncated responses

`onVisitorSentClose` reports every close of a stream that has not failed as a
completed response.  A run tells the truth about the response exactly as long
as no event cuts off a stream of the map.
-/

namespace RevSDK

open RevSDK.Foundation

namespace StreamWorld

/-- A finish means a complete body, and a closed stream has told its end. -/
structure Truthful (world : StreamWorld) : Prop where
  complete : .quicSessionDidFinish ∈ world.log →
    Reaches world.base.closeOffset (deliveredBytes world.log).length ∧
      deliveredBytes world.log <+: world.arrived
  terminal : world.base.closed = true →
    .quicSessionDidFinish ∈ world.log ∨ .quicSessionDidFail ∈ world.log

/-- The event does not cut off a response that is still awaited. -/
def KeepsWhole (framer : SpdyFramer) (world : StreamWorld)
    (event : StreamEvent) : Prop :=
  world.mapped = true → ¬ world.Cuts framer event

instance (framer : SpdyFramer) (world : StreamWorld) (event : StreamEvent) :
    Decidable (world.KeepsWhole framer event) :=
  inferInstanceAs (Decidable (_ → _))

section Failed

variable {world : StreamWorld}

/-! ## A failed stream stays silent -/

theorem Failed.perform (h : world.Failed)
    (next : QUICDataStream × List StreamCall) :
    (world.perform next).Failed := by
  rw [perform_unmapped h.unmapped]
  exact { h with }

theorem failed_stable : Stable Failed where
  rebase _ _ h := { h with }
  addIncomingData _ h := { h.perform _ with }
  close base _ _ _ h := by
    apply Failed.perform
    exact { h with }
  takeFrame h := { h with }

theorem Failed.react (h : world.Failed) (framer : SpdyFramer)
    (event : StreamEvent) : (world.react framer event).Failed := by
  refine failed_stable.react framer (fun block fin _ => ?_)
    (fun _ => h.perform _) (fun _ => h.perform _) event h
  exact failed_stable.onInitialHeadersComplete framer
    (fun _ _ h => h.perform _) block fin { h with }

end Failed

/-! ## Runs -/

inductive Sound (world : StreamWorld) : Prop
  | live : world.Live → Sound world
  | failed : world.Failed → Sound world
  | finished (read : Nat) (fin : Option Nat) : world.Finished read fin →
      Reaches fin read → Sound world

section Runs

variable {framer : SpdyFramer} {world next : StreamWorld} {event : StreamEvent}

theorem start_live (requestWritten : Bool) : (start requestWritten).Live where
  unclosed := rfl
  mapped := rfl
  working := rfl
  pending := ⟨List.not_mem_nil, List.not_mem_nil⟩
  taken := rfl
  body := rfl
  reading := rfl
  scheduled hoffset := absurd rfl hoffset
  consumed := rfl
  headers := rfl
  fin := rfl
  waiting _ := ⟨rfl, rfl, rfl⟩
  flowing hblocked := by cases hblocked

theorem Sound.truthful (h : world.Sound) : world.Truthful := by
  cases h with
  | live hlive =>
      have hunclosed := hlive.unclosed
      constructor
      · intro hfinish
        exact absurd hfinish hlive.pending.1
      · intro hclosed
        simp [hunclosed] at hclosed
  | failed hfailed =>
      constructor
      · intro hfinish
        exact absurd hfinish hfailed.unfinished
      · intro _
        exact .inr hfailed.told
  | finished read fin hfinished hreaches =>
      constructor
      · intro _
        rw [hfinished.fin_eq, hfinished.length]
        exact ⟨hreaches, hfinished.inOrder⟩
      · intro _
        exact .inl hfinished.told

theorem Finished.react {read : Nat} {fin : Option Nat}
    (h : world.Finished read fin) (hadmitted : world.Admitted event) :
    (world.react framer event).Finished read fin := by
  have hclosed := h.closed
  have hunmapped := h.unmapped
  cases event with
  | headersComplete block fin => simp [Admitted, hclosed] at hadmitted
  | streamFrame frame => simp [Admitted, hclosed] at hadmitted
  | streamReset noError version => simp [Admitted, hclosed] at hadmitted
  | connectionClosed =>
      unfold StreamWorld.react StreamWorld.connectionClosed
      rw [if_pos (by simp [h.readSideClosed, h.writeSideClosed])]
      exact h
  | requestWritten => exact h.closeWriteSide
  | update aNowMS => simp [Admitted, hunmapped] at hadmitted
  | onSocketError aError => simp [Admitted, hunmapped] at hadmitted

theorem Sound.react (h : world.Sound) (hadmitted : world.Admitted event)
    (hwhole : KeepsWhole framer world event) :
    (world.react framer event).Sound := by
  cases h with
  | live hlive =>
      cases hlive.react framer event with
      | live hnext _ => exact .live hnext
      | failed hnext _ _ => exact .failed hnext
      | finished read fin hnext hcuts =>
          have huncut := hwhole hlive.mapped
          rw [hcuts, not_not] at huncut
          exact .finished read fin hnext huncut
  | failed hfailed => exact .failed (hfailed.react framer event)
  | finished read fin hfinished hreaches =>
      exact .finished read fin (hfinished.react hadmitted) hreaches

theorem Sound.cut (h : world.Sound) (hcut : ¬ KeepsWhole framer world event) :
    ¬ (world.react framer event).Truthful := by
  obtain ⟨hmapped, hcuts⟩ : world.mapped = true ∧ world.Cuts framer event := by
    simpa [KeepsWhole] using hcut
  intro htruthful
  cases h with
  | live hlive =>
      cases hlive.react framer event with
      | live _ hwhole => exact hwhole hcuts
      | failed _ _ hwhole => exact hwhole hcuts
      | finished read fin hfinished hiff =>
          obtain ⟨hreaches, -⟩ := htruthful.complete hfinished.told
          rw [hfinished.fin_eq, hfinished.length] at hreaches
          exact hiff.mp hcuts hreaches
  | failed hfailed => simp [hfailed.unmapped] at hmapped
  | finished read fin hfinished _ => simp [hfinished.unmapped] at hmapped

end Runs

end StreamWorld

theorem truthful_iff_never_cut (framer : SpdyFramer)
    {trail : List (StreamWorld × StreamEvent)} {world : StreamWorld}
    (path : (StreamWorld.system framer).Path StreamWorld.Admitted trail
      world) :
    EventSystem.Throughout StreamWorld.Truthful trail world ↔
      EventSystem.Obeys (StreamWorld.KeepsWhole framer) trail := by
  apply path.throughout_iff_obeys StreamWorld.Sound
  · rintro _ ⟨requestWritten, rfl⟩
    exact .live (StreamWorld.start_live requestWritten)
  · intro before event after hsound hadmitted hwhole hstep
    obtain rfl : before.react framer event = after := by
      simpa [StreamWorld.system] using hstep
    exact hsound.react hadmitted hwhole
  · intro before event after hsound _ hcut hstep
    obtain rfl : before.react framer event = after := by
      simpa [StreamWorld.system] using hstep
    exact hsound.cut hcut
  · intro before hsound
    exact hsound.truthful

def plainFramer : SpdyFramer where
  parseHeaderBlockInBuffer _ := (true, [(":status", "200")])

def wholeBody : List StreamEvent :=
  [.headersComplete ⟨[1]⟩ false, .streamFrame ⟨[⟨[7, 8]⟩], none⟩,
    .streamFrame ⟨[⟨[9]⟩], some 3⟩]

theorem truthful_iff_never_cut_wholeBody :
    ∃ trail world, (StreamWorld.system plainFramer).Path StreamWorld.Admitted
        trail world ∧
      trail.map Prod.snd = wholeBody ∧
      EventSystem.Throughout StreamWorld.Truthful trail world ∧
      .quicSessionDidFinish ∈ world.log ∧
      StreamWorld.deliveredBytes world.log = [7, 8, 9] := by
  obtain ⟨trail, world, path, hwhole, hevents, hlast⟩ :=
    EventSystem.exists_run (StreamWorld.system plainFramer)
      StreamWorld.Admitted (StreamWorld.KeepsWhole plainFramer)
      (s := StreamWorld.start true) wholeBody
      (fun world => decide (.quicSessionDidFinish ∈ world.log ∧
        StreamWorld.deliveredBytes world.log = [7, 8, 9]))
      ⟨true, rfl⟩ (by decide)
  obtain ⟨hfinish, hbytes⟩ := of_decide_eq_true hlast
  exact ⟨trail, world, path, hevents,
    (truthful_iff_never_cut plainFramer path).mpr hwhole, hfinish, hbytes⟩

def truncatingEvents : List StreamEvent :=
  [.headersComplete ⟨[1]⟩ false, .streamFrame ⟨[⟨[7, 8, 9]⟩], none⟩,
    .streamReset false 28]

theorem peer_reset_told_as_finish :
    ∃ world, (StreamWorld.system plainFramer).Reachable StreamWorld.Admitted
        world ∧
      .quicSessionDidFinish ∈ world.log ∧ world.base.finReceived = false ∧
        ¬ world.Truthful := by
  obtain ⟨world, hreplay, hfinish, hfin, hoffset⟩ :
      ∃ world, (StreamWorld.system plainFramer).replay StreamWorld.Admitted
          (StreamWorld.start true) truncatingEvents = some world ∧
        .quicSessionDidFinish ∈ world.log ∧
        world.base.finReceived = false ∧ world.base.closeOffset = none :=
    ⟨_, rfl, by decide, rfl, rfl⟩
  refine ⟨world, .replay truncatingEvents (.start ⟨true, rfl⟩) hreplay,
    hfinish, hfin, ?_⟩
  intro htruthful
  obtain ⟨⟨offset, hsome, -⟩, -⟩ := htruthful.complete hfinish
  simp [hoffset] at hsome

end RevSDK
