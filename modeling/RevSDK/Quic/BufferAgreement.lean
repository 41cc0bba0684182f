import RevSDK.Quic.BufferRuns
import RevSDK.Quic.FrameListOperations

/-!
# The two sequencer buffers agree

Which buffer a stream uses is decided by a flag.  They answer overlapping
frames differently, but a sender cuts its stream once and repeats a lost frame
as it was: then no user of the interface can tell which buffer is in use.
-/

namespace RevSDK

open RevSDK.Foundation QuicStreamSequencerBufferInterface

inductive BufferCall where
  | onStreamData (offset : Nat) (data : List UInt8) (timestamp : Nat)
  | readv (destinations : List Nat)
  | markConsumed (bytesUsed : Nat)
  deriving DecidableEq

inductive BufferReply where
  | onStreamData (code : QuicErrorCode) (bytesBuffered : Nat)
  | readv (bytes : List UInt8)
  | markConsumed (done : Bool)
  deriving DecidableEq

structure BufferAnswer where
  reply : BufferReply
  hasBytesToRead : Bool
  bytesConsumed : Nat
  bytesBuffered : Nat
  deriving DecidableEq

section Calling

variable {β : Type} [QuicStreamSequencerBufferInterface β]

def perform (buffer : β) : BufferCall → Outcome (BufferReply × β)
  | .onStreamData offset data timestamp => do
      let (code, buffered, buffer) ← onStreamData buffer offset data timestamp
      return (.onStreamData code buffered, buffer)
  | .readv destinations => do
      let (bytes, buffer) ← readv buffer destinations
      return (.readv bytes, buffer)
  | .markConsumed bytesUsed => do
      let (done, buffer) ← markConsumed buffer bytesUsed
      return (.markConsumed done, buffer)

def close (reply : BufferReply) (buffer : β) : Outcome (BufferAnswer × β) := do
  let readable ← hasBytesToRead buffer
  return (⟨reply, readable, bytesConsumed buffer, bytesBuffered buffer⟩, buffer)

def answer (buffer : β) (call : BufferCall) : Outcome (BufferAnswer × β) := do
  let (reply, buffer) ← perform buffer call
  close reply buffer

end Calling

structure Twins (layout : BufferLayout) where
  circular : StreamSequencerBuffer layout
  frames : QuicFrameList
  deriving DecidableEq

namespace Twins

variable {layout : BufferLayout}

def next (twins : Twins layout) (call : BufferCall) :
    Outcome (Twins layout) := do
  let (_, circular) ← answer twins.circular call
  let (_, frames) ← answer twins.frames call
  return ⟨circular, frames⟩

def system (layout : BufferLayout) : EventSystem (Twins layout) BufferCall where
  initial twins := twins = ⟨StreamSequencerBuffer.new layout, {}⟩
  step twins call := (twins.next call).toOption

def IsReadable (bytesUsed : Nat) : Outcome Nat → Prop
  | .ok readable => bytesUsed ≤ readable
  | .error _ => False

/-- Frames are pieces that the flow control admits; what is marked is there. -/
def Suits (Piece : Nat → Nat → Prop) (limit : Nat) (twins : Twins layout) :
    BufferCall → Prop
  | .onStreamData offset data _ =>
      data ≠ [] ∧ Piece offset data.length ∧ offset + data.length ≤ limit ∧
        offset + data.length ≤
          twins.circular.totalBytesRead + layout.maxBufferCapacityBytes
  | .readv _ => True
  | .markConsumed bytesUsed =>
      IsReadable bytesUsed twins.circular.readableBytes

end Twins

variable {layout : BufferLayout} {limit : Nat} {Piece : Nat → Nat → Prop}
  {twins : Twins layout} {state : Reassembly UInt8}

structure Agree (limit : Nat) (Piece : Nat → Nat → Prop)
    (twins : Twins layout) (state : Reassembly UInt8) : Prop where
  circular : Represents limit twins.circular state
  frames : Lists limit twins.frames state
  counted : twins.frames.numBytesBuffered = (state.waiting limit).card
  whole : ∀ offset length, Piece offset length →
    state.Whole offset length
  starts : ∀ offset length, Piece offset length → 0 < length →
    state.consumed ≤ offset → state.Settled offset →
    ∃ frame ∈ twins.frames.frameList, frame.offset = offset

theorem Agree.consume (h : Agree limit Piece twins state) {count : Nat}
    (hcount : state.Readable count) {circular : StreamSequencerBuffer layout}
    {frames : QuicFrameList}
    (hcircular : Represents limit circular (state.consume count))
    (hframes : Lists limit frames (state.consume count))
    (hpassed : Passed twins.frames (state.consumed + count) count frames) :
    Agree limit Piece ⟨circular, frames⟩ (state.consume count) where
  circular := hcircular
  frames := hframes
  counted := by
    rw [Reassembly.card_waiting_consume hcount h.frames.bounded, ← h.counted]
    exact hpassed.buffered
  whole offset length hpiece :=
    Reassembly.Whole.consume (h.whole offset length hpiece) hcount
  starts offset length hpiece hpos hunread hsettled := by
    rw [Reassembly.consume_consumed] at hunread
    rw [Reassembly.settled_consume hcount] at hsettled
    obtain ⟨frame, hmem, hstart⟩ :=
      h.starts offset length hpiece hpos (by omega) hsettled
    exact ⟨frame, hpassed.later frame hmem (by omega), hstart⟩

theorem Agree.arrive (h : Agree limit Piece twins state)
    (hcut : CutOnce Piece) {offset : Nat} {data : List UInt8}
    (hpiece : Piece offset data.length) (hfinish : offset + data.length ≤ limit)
    (hfresh : state.Fresh offset data.length)
    {circular : StreamSequencerBuffer layout} {frames : QuicFrameList}
    (hcircular : Represents limit circular (state.arrive offset data))
    (hframes : Lists limit frames (state.arrive offset data))
    (hcounted : frames.numBytesBuffered =
      twins.frames.numBytesBuffered + data.length)
    {before after : List FrameData} {timestamp : Nat}
    (hsplit : twins.frames.frameList = before ++ after)
    (hinserted : frames.frameList =
      before ++ ⟨offset, data, timestamp⟩ :: after) :
    Agree limit Piece ⟨circular, frames⟩ (state.arrive offset data) where
  circular := hcircular
  frames := hframes
  counted := by
    rw [Reassembly.card_waiting_arrive hfresh hfinish, ← h.counted]
    exact hcounted
  whole offset' length' hpiece' :=
    Reassembly.Whole.arrive (h.whole offset' length' hpiece')
      (hcut hpiece hpiece')
  starts offset' length' hpiece' hpos hunread hsettled := by
    rw [hinserted]
    rcases (Reassembly.settled_arrive _).mp hsettled with hold | hinside
    · obtain ⟨frame, hmem, hstart⟩ :=
        h.starts offset' length' hpiece' hpos hunread hold
      rw [hsplit, List.mem_append] at hmem
      refine ⟨frame, ?_, hstart⟩
      rw [List.mem_append, List.mem_cons]
      exact hmem.imp_right .inr
    · obtain ⟨rfl, -⟩ := hcut hpiece hpiece' (by omega) hinside.2
      exact ⟨_, List.mem_append_right _ List.mem_cons_self, rfl⟩

theorem Agree.accept (h : Agree limit Piece twins state)
    (hcut : CutOnce Piece)
    (hlimit : limit + layout.maxBufferCapacityBytes +
      layout.maxBufferCapacityBytes < maxStreamOffset)
    {offset : Nat} {data : List UInt8} (hdata : data ≠ [])
    (hpiece : Piece offset data.length) (hfinish : offset + data.length ≤ limit)
    (hcapacity : offset + data.length ≤
      twins.circular.totalBytesRead + layout.maxBufferCapacityBytes)
    (timestamp : Nat) :
    ∃ buffered circular frames moved,
      twins.circular.onStreamData offset data timestamp =
        .ok (.noError, buffered, circular) ∧
      twins.frames.onStreamData offset data timestamp =
        (.noError, buffered, frames) ∧
      Agree limit Piece ⟨circular, frames⟩ moved := by
  have hlength := List.length_pos_of_ne_nil hdata
  have hwhole := h.whole offset data.length hpiece
  obtain ⟨code, buffered, circular, hdone, harrival⟩ :=
    h.circular.onStreamData hlimit hdata hfinish timestamp
  obtain ⟨code', buffered', frames, hlisted, hframe⟩ :=
    h.frames.onStreamData (by omega) hdata hfinish timestamp
  have hsettled : state.Settled offset → ¬ state.Fresh offset data.length :=
    fun hsettled hfresh => hfresh 0 hlength hsettled
  rw [h.circular.backed.consumed] at hcapacity
  cases harrival with
  | new hfresh _ hcircular _ =>
      cases hframe with
      | new hnew hsplit hinserted hframes hcounted =>
          exact ⟨_, circular, frames, _, hdone, hlisted,
            h.arrive hcut hpiece hfinish hfresh hcircular hframes hcounted
              hsplit hinserted⟩
      | duplicate hknown =>
          rcases hknown with hread | ⟨frame, hmem, rfl⟩
          · exact absurd hfresh (hsettled (.inl hread))
          · obtain ⟨hlower, hsize⟩ := h.frames.inRow.lower_le hmem
            refine absurd hfresh (hsettled
              ((h.frames.settled_iff hlower).mpr ?_))
            exact isSome_byteAt_of_mem hmem (Nat.le_refl _) (by omega)
      | overlap _ _ hsome =>
          obtain ⟨index, hindex, hthere⟩ := hsome
          exact absurd hthere (hfresh index hindex)
  | duplicate hall =>
      have hthere := hall 0 hlength
      cases hframe with
      | new hfresh => exact absurd hfresh (hsettled hthere)
      | duplicate => exact ⟨_, _, _, state, hdone, hlisted, h⟩
      | overlap hunread hnone =>
          obtain ⟨frame, hmem, hstart⟩ :=
            h.starts offset data.length hpiece hlength hunread hthere
          exact absurd hstart (hnone frame hmem)
  | overlap hsome hmissing =>
      obtain ⟨index, hindex, hthere⟩ := hsome
      obtain ⟨other, hother, hgone⟩ := hmissing
      rcases hwhole with hfresh | hall
      · exact absurd hthere (hfresh index hindex)
      · exact absurd (hall other hother) hgone
  | beyond _ hbeyond => omega

theorem Agree.ask (h : Agree limit Piece twins state)
    (hlimit : limit + layout.maxBufferCapacityBytes +
      layout.maxBufferCapacityBytes < maxStreamOffset) (reply : BufferReply) :
    ∃ said : BufferAnswer,
      said.bytesBuffered ≤ layout.maxBufferCapacityBytes ∧
      close reply twins.circular = .ok (said, twins.circular) ∧
      close reply twins.frames = .ok (said, twins.frames) := by
  obtain ⟨count, hfront, hcircular⟩ :=
    (streamSequencerBuffer_implements hlimit).front h.circular
  obtain ⟨other, hother, hframes⟩ :=
    (quicFrameList_implements (show limit < maxStreamOffset by omega)).front
      h.frames
  obtain rfl := hfront.unique hother
  refine ⟨⟨reply, decide (0 < count), state.consumed,
    (state.waiting limit).card⟩, ?_, ?_, ?_⟩
  · exact Reassembly.card_waiting_le fun offset hsettled =>
      (h.circular.backed.bounded offset hsettled).2
  · unfold close
    rw [hcircular, show bytesConsumed twins.circular = state.consumed
      from h.circular.backed.consumed,
      show bytesBuffered twins.circular = (state.waiting limit).card
      from h.circular.backed.counted]
    rfl
  · unfold close
    rw [hframes, show bytesConsumed twins.frames = state.consumed
      from h.frames.consumed,
      show bytesBuffered twins.frames = (state.waiting limit).card
      from h.counted]
    rfl

theorem Agree.perform (h : Agree limit Piece twins state)
    (hcut : CutOnce Piece)
    (hlimit : limit + layout.maxBufferCapacityBytes +
      layout.maxBufferCapacityBytes < maxStreamOffset)
    {call : BufferCall} (hsuits : twins.Suits Piece limit call) :
    ∃ reply circular frames moved,
      RevSDK.perform twins.circular call = .ok (reply, circular) ∧
      RevSDK.perform twins.frames call = .ok (reply, frames) ∧
      Agree limit Piece ⟨circular, frames⟩ moved := by
  cases call with
  | onStreamData offset data timestamp =>
      obtain ⟨hdata, hpiece, hfinish, hcapacity⟩ := hsuits
      obtain ⟨buffered, circular, frames, moved, hdone, hlisted, hagree⟩ :=
        h.accept hcut hlimit hdata hpiece hfinish hcapacity timestamp
      refine ⟨.onStreamData .noError buffered, circular, frames, moved, ?_, ?_,
        hagree⟩
      · rw [RevSDK.perform, show onStreamData twins.circular offset data
          timestamp = _ from hdone]
        rfl
      · rw [RevSDK.perform, show onStreamData twins.frames offset data
          timestamp = _ from congrArg Except.ok hlisted]
        rfl
  | readv destinations =>
      obtain ⟨bytes, circular, hread, hbytes, hexact, hcircular, -⟩ :=
        h.circular.readv (by omega) destinations
      obtain ⟨bytes', frames, hread', hbytes', hlength', hframes, hpassed⟩ :=
        h.frames.readv destinations
      obtain rfl : bytes = bytes' := by
        refine hbytes.unique hbytes' ?_
        rw [hexact _ h.frames.front, hlength' _ h.frames.front]
      refine ⟨.readv bytes, circular, frames, _, ?_, ?_,
        h.consume (Reassembly.Holds.readable hbytes) hcircular hframes
          hpassed⟩
      · rw [RevSDK.perform, show readv twins.circular destinations = _
          from hread]
        rfl
      · rw [RevSDK.perform, show readv twins.frames destinations = _
          from hread']
        rfl
  | markConsumed bytesUsed =>
      obtain ⟨gap, rest, -, -, hfront, hreadable⟩ :=
        h.circular.backed.front (by omega)
      simp only [Twins.Suits, Twins.IsReadable, hreadable] at hsuits
      have hcount : state.Readable bytesUsed := hfront.1.mono hsuits
      obtain ⟨circular, hdone, hcircular, -⟩ :=
        h.circular.markConsumed (by omega) hcount
      obtain ⟨frames, hlisted, hframes, hpassed⟩ :=
        h.frames.markConsumed (by omega) hcount
      refine ⟨.markConsumed true, circular, frames, _, ?_, ?_,
        h.consume hcount hcircular hframes hpassed⟩
      · rw [RevSDK.perform, show markConsumed twins.circular bytesUsed = _
          from hdone]
        rfl
      · rw [RevSDK.perform, show markConsumed twins.frames bytesUsed = _
          from congrArg Except.ok hlisted]
        rfl

theorem Agree.answer (h : Agree limit Piece twins state)
    (hcut : CutOnce Piece)
    (hlimit : limit + layout.maxBufferCapacityBytes +
      layout.maxBufferCapacityBytes < maxStreamOffset)
    {call : BufferCall} (hsuits : twins.Suits Piece limit call) :
    ∃ (said : BufferAnswer) (circular : StreamSequencerBuffer layout)
      (frames : QuicFrameList) (moved : Reassembly UInt8),
      said.bytesBuffered ≤ layout.maxBufferCapacityBytes ∧
      RevSDK.answer twins.circular call = .ok (said, circular) ∧
      RevSDK.answer twins.frames call = .ok (said, frames) ∧
      Agree limit Piece ⟨circular, frames⟩ moved := by
  obtain ⟨reply, circular, frames, moved, hcircular, hframes, hagree⟩ :=
    h.perform hcut hlimit hsuits
  obtain ⟨said, hbound, hfirst, hsecond⟩ := hagree.ask hlimit reply
  refine ⟨said, circular, frames, moved, hbound, ?_, ?_, hagree⟩
  · rw [RevSDK.answer, hcircular, Outcome.ok_bind]
    exact hfirst
  · rw [RevSDK.answer, hframes, Outcome.ok_bind]
    exact hsecond

theorem agree_new (hlimit : limit < maxStreamOffset) :
    Agree limit Piece (⟨StreamSequencerBuffer.new layout, {}⟩ : Twins layout)
      .start where
  circular := represents_new hlimit
  frames := lists_new
  counted := by
    rw [← Reassembly.start_skipTo, Reassembly.waiting_skipTo]
    rfl
  whole offset length _ := .inl fun index _ hsettled => by
    simp [Reassembly.Settled, Reassembly.start] at hsettled
  starts offset length _ _ _ hsettled := by
    simp [Reassembly.Settled, Reassembly.start] at hsettled

theorem agree_of_reachable (hcut : CutOnce Piece)
    (hlimit : limit + layout.maxBufferCapacityBytes +
      layout.maxBufferCapacityBytes < maxStreamOffset)
    (hreach : (Twins.system layout).Reachable (Twins.Suits Piece limit)
      twins) : ∃ state, Agree limit Piece twins state := by
  refine hreach.invariant (fun twins => ∃ state,
    Agree limit Piece twins state) ?_ ?_
  · rintro _ rfl
    exact ⟨.start, agree_new (by omega)⟩
  · rintro twins call other ⟨state, hagree⟩ hsuits hstep
    obtain ⟨said, circular, frames, moved, -, hcircular, hframes, hmoved⟩ :=
      hagree.answer hcut hlimit hsuits
    have hnext := (Outcome.toOption_eq_some _ _).mp hstep
    simp only [Twins.next, hcircular, hframes, Outcome.ok_bind] at hnext
    obtain rfl := Except.ok.inj hnext
    exact ⟨moved, hmoved⟩

/--
As long as a stream is cut once, whatever the order, the losses and the
repetitions: both buffers carry out every call, and give the same answers.
-/
theorem sequencer_buffers_agree (hcut : CutOnce Piece)
    (hlimit : limit + layout.maxBufferCapacityBytes +
      layout.maxBufferCapacityBytes < maxStreamOffset)
    (hreach : (Twins.system layout).Reachable (Twins.Suits Piece limit) twins)
    {call : BufferCall} (hsuits : twins.Suits Piece limit call) :
    ∃ (said : BufferAnswer) (circular : StreamSequencerBuffer layout)
      (frames : QuicFrameList),
      answer twins.circular call = .ok (said, circular) ∧
      answer twins.frames call = .ok (said, frames) ∧
      said.bytesBuffered ≤ layout.maxBufferCapacityBytes := by
  obtain ⟨state, hagree⟩ := agree_of_reachable hcut hlimit hreach
  obtain ⟨said, circular, frames, -, hbound, hcircular, hframes, -⟩ :=
    hagree.answer hcut hlimit hsuits
  exact ⟨said, circular, frames, hcircular, hframes, hbound⟩

def wrappingPiece (offset length : Nat) : Prop :=
  (offset, length) ∈ [(0, 2), (2, 2), (4, 3)]

instance (offset length : Nat) : Decidable (wrappingPiece offset length) :=
  inferInstanceAs (Decidable (_ ∈ _))

instance (bytesUsed : Nat) :
    (readable : Outcome Nat) → Decidable (Twins.IsReadable bytesUsed readable)
  | .ok _ => inferInstanceAs (Decidable (_ ≤ _))
  | .error _ => inferInstanceAs (Decidable False)

instance (twins : Twins shortRing) (call : BufferCall) :
    Decidable (twins.Suits wrappingPiece 7 call) :=
  match call with
  | .onStreamData _ _ _ => inferInstanceAs (Decidable (_ ∧ _ ∧ _ ∧ _))
  | .readv _ => inferInstanceAs (Decidable True)
  | .markConsumed _ => inferInstanceAs (Decidable (Twins.IsReadable _ _))

theorem wrappingPiece_cutOnce : CutOnce wrappingPiece := by
  intro offset length offset' length' hpiece hpiece'
  simp only [wrappingPiece, List.mem_cons, Prod.mk.injEq, List.not_mem_nil,
    or_false] at hpiece hpiece'
  omega

theorem sequencer_buffers_agree_wrapped :
    ∃ twins : Twins shortRing,
      (Twins.system shortRing).Reachable (Twins.Suits wrappingPiece 7) twins ∧
      ∃ (said : BufferAnswer) (circular : StreamSequencerBuffer shortRing)
        (frames : QuicFrameList),
        answer twins.circular (.onStreamData 4 [4, 5, 6] 9) =
          .ok (said, circular) ∧
        answer twins.frames (.onStreamData 4 [4, 5, 6] 9) =
          .ok (said, frames) ∧
        said.bytesBuffered ≤ 5 := by
  obtain ⟨twins, hreplay, hread⟩ :
      ∃ twins, (Twins.system shortRing).replay (Twins.Suits wrappingPiece 7)
        ⟨StreamSequencerBuffer.new shortRing, {}⟩
        [.onStreamData 2 [2, 3] 7, .onStreamData 0 [0, 1] 8,
          .readv [1, 1, 1], .onStreamData 2 [2, 3] 8] = some twins ∧
        twins.circular.totalBytesRead = 3 :=
    ⟨_, rfl, rfl⟩
  have hreach := EventSystem.Reachable.replay _ (.start rfl) hreplay
  exact ⟨twins, hreach, sequencer_buffers_agree wrappingPiece_cutOnce
    (by decide) hreach ⟨by decide, by decide, by decide,
      by rw [hread]; decide⟩⟩

end RevSDK
