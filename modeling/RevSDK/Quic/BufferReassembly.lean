import RevSDK.Quic.BufferMemory
import RevSDK.Quic.FrameArrivals

/-!
# The sequencer buffer reassembles its stream

`Backed` ties a buffer to the reassembly that it stands for: the gaps are what
is not settled, and the blocks hold what waits to be read.  `Tidy` says that no
block is kept without need.  `Represents` adds the frames, which reading brings
up to date only at its end.
-/

namespace RevSDK

open RevSDK.Foundation

variable {layout : BufferLayout} {limit : Nat}

def HoldsUnread (layout : BufferLayout) (state : Reassembly UInt8)
    (index : Nat) : Prop :=
  ∃ offset, state.consumed ≤ offset ∧ (state.content offset).isSome ∧
    layout.getBlockIndex offset = index

def StoppedInside (layout : BufferLayout) (state : Reassembly UInt8)
    (index : Nat) : Prop :=
  0 < state.consumed ∧ layout.getBlockIndex (state.consumed - 1) = index ∧
    layout.getBlockIndex state.consumed = index ∧
    ∃ other, HoldsUnread layout state other

structure Backed (limit : Nat) (buffer : StreamSequencerBuffer layout)
    (state : Reassembly UInt8) : Prop where
  consumed : buffer.totalBytesRead = state.consumed
  increasing : Increasing state.consumed buffer.gaps
  last : ∃ before first, buffer.gaps = before ++ [⟨first, maxStreamOffset⟩]
  gaps : ∀ offset < maxStreamOffset,
    (Covers buffer.gaps offset ↔ ¬ state.Settled offset)
  bounded : ∀ offset, state.Settled offset → offset < limit ∧
    offset < state.consumed + layout.maxBufferCapacityBytes
  shaped : Shaped layout buffer.blocks
  stored : ∀ offset byte, state.consumed ≤ offset →
    state.content offset = some byte →
    cell layout buffer.blocks offset = some byte
  counted : buffer.numBytesBuffered = (state.waiting limit).card

def Tidy (layout : BufferLayout) (blocks : Blocks UInt8)
    (state : Reassembly UInt8) : Prop :=
  ∀ index, Allocated blocks index →
    HoldsUnread layout state index ∨ StoppedInside layout state index

structure Framed (frames : FrameArrivalTimeMap) (state : Reassembly UInt8) :
    Prop where
  ordered : frames.Ordered state.consumed
  arrived : ∀ offset, state.consumed ≤ offset →
    ((frames.arrivalAt offset).isSome ↔ (state.content offset).isSome)

structure Represents (limit : Nat) (buffer : StreamSequencerBuffer layout)
    (state : Reassembly UInt8) : Prop where
  backed : Backed limit buffer state
  tidy : Tidy layout buffer.blocks state
  framed : Framed buffer.frameArrivalTimeMap state

section Reading

variable {buffer : StreamSequencerBuffer layout} {state : Reassembly UInt8}
  {count : Nat}

theorem Backed.gaps_ne_nil (h : Backed limit buffer state) :
    buffer.gaps ≠ [] := by
  obtain ⟨before, first, hgaps⟩ := h.last
  simp [hgaps]

theorem Backed.isSome_iff (h : Backed limit buffer state)
    (hlimit : limit < maxStreamOffset) {offset : Nat}
    (hunread : state.consumed ≤ offset) :
    (state.content offset).isSome ↔
      offset < maxStreamOffset ∧ ¬ Covers buffer.gaps offset := by
  constructor
  · intro hsome
    have hlt := (h.bounded offset (.inr hsome)).1
    refine ⟨by omega, fun hcovers => ?_⟩
    exact (h.gaps offset (by omega)).mp hcovers (.inr hsome)
  · rintro ⟨hlt, hopen⟩
    have hsettled := mt (h.gaps offset hlt).mpr hopen
    exact (not_not.mp hsettled).resolve_left (by omega)

theorem Backed.front (h : Backed limit buffer state)
    (hlimit : limit < maxStreamOffset) :
    ∃ gap rest, buffer.gaps = gap :: rest ∧
      state.consumed ≤ gap.beginOffset ∧
      state.Front (gap.beginOffset - state.consumed) ∧
      buffer.readableBytes = .ok (gap.beginOffset - state.consumed) := by
  obtain ⟨gap, rest, hgaps⟩ := List.exists_cons_of_ne_nil h.gaps_ne_nil
  have hincreasing := h.increasing
  rw [hgaps] at hincreasing
  obtain ⟨hle, hsize, hrest⟩ := hincreasing
  have hend : gap.endOffset ≤ maxStreamOffset := by
    obtain ⟨before, first, hlast⟩ := h.last
    rw [hgaps] at hlast
    cases before with
    | nil =>
        obtain ⟨rfl, -⟩ := List.cons.inj hlast
        exact Nat.le_refl _
    | cons head before =>
        obtain ⟨rfl, rfl⟩ := List.cons.inj hlast
        obtain ⟨hfirst, hlater⟩ := hrest.middle
        dsimp only at hfirst hlater
        omega
  refine ⟨gap, rest, hgaps, hle, ⟨fun index hindex => ?_, ?_⟩, ?_⟩
  · refine (h.isSome_iff hlimit (by omega)).mpr ⟨by omega, ?_⟩
    have hfrom : Increasing gap.beginOffset (gap :: rest) :=
      ⟨Nat.le_refl _, hsize, hrest⟩
    exact hgaps ▸ hfrom.not_covers (by omega)
  · rw [Nat.add_sub_cancel' hle, ← Option.not_isSome_iff_eq_none,
      h.isSome_iff hlimit hle]
    rintro ⟨-, hopen⟩
    exact hopen (hgaps ▸ covers_cons.mpr (.inl ⟨Nat.le_refl _, hsize⟩))
  · unfold StreamSequencerBuffer.readableBytes StreamSequencerBuffer.frontGap
    rw [hgaps, h.consumed]
    rfl

theorem Backed.back (h : Backed limit buffer state)
    (hlimit : limit < maxStreamOffset) :
    ∃ first, buffer.backGap = .ok ⟨first, maxStreamOffset⟩ ∧
      state.consumed ≤ first ∧
      (∀ offset, state.Settled offset → offset < first) ∧
      (buffer.empty = true → first = state.consumed) ∧
      (buffer.empty = false → state.consumed < first ∧
        (state.content (first - 1)).isSome) := by
  obtain ⟨before, first, hgaps⟩ := h.last
  have hincreasing := h.increasing
  rw [hgaps] at hincreasing
  obtain ⟨hlower, hsize⟩ := hincreasing.middle
  dsimp only at hlower hsize
  refine ⟨first, ?_, hlower, fun offset hsettled => ?_, fun hempty => ?_,
    fun hfull => ?_⟩
  · unfold StreamSequencerBuffer.backGap
    rw [hgaps, List.getLast?_concat]
  · by_contra hge
    have hlt := (h.bounded offset hsettled).1
    refine (h.gaps offset (by omega)).mp ?_ hsettled
    rw [hgaps, covers_append]
    exact .inr (covers_cons.mpr (.inl ⟨by dsimp only; omega,
      by dsimp only; omega⟩))
  · unfold StreamSequencerBuffer.empty at hempty
    rw [hgaps, h.consumed] at hempty
    cases before with
    | nil => simpa using hempty
    | cons head before => cases before <;> simp at hempty
  · have hlt : state.consumed < first := by
      cases before with
      | nil =>
          unfold StreamSequencerBuffer.empty at hfull
          rw [hgaps, h.consumed] at hfull
          have : first ≠ state.consumed := by simpa using hfull
          omega
      | cons head before =>
          have := (hincreasing.2.2).middle.1
          have := hincreasing.1
          have := hincreasing.2.1
          dsimp only at *
          omega
    refine ⟨hlt, (h.isSome_iff hlimit (by omega)).mpr ⟨by omega, ?_⟩⟩
    rw [hgaps, covers_append]
    rintro (hbefore | hlast)
    · obtain ⟨gap, hmem, hcontains⟩ := hbefore
      obtain ⟨early, late, rfl⟩ := List.append_of_mem hmem
      rw [List.append_assoc, List.cons_append, increasing_append]
        at hincreasing
      have := hincreasing.2.middle.1
      dsimp only at this
      exact absurd hcontains.2 (by omega)
    · have := (covers_cons.mp hlast).resolve_right covers_nil
      exact absurd this.1 (by dsimp only; omega)

theorem Backed.holds_of_cells (h : Backed limit buffer state)
    {bytes : List UInt8} (hreadable : state.Readable bytes.length)
    (hcells : Holds (cell layout buffer.blocks) state.consumed bytes) :
    Holds state.content state.consumed bytes := by
  intro index hindex
  obtain ⟨byte, hbyte⟩ := Option.isSome_iff_exists.mp (hreadable index hindex)
  rw [← hcells index hindex, hbyte,
    h.stored _ _ (Nat.le_add_right _ _) hbyte]

end Reading

structure Advanced (limit : Nat) (buffer : StreamSequencerBuffer layout)
    (state : Reassembly UInt8) (count : Nat)
    (next : StreamSequencerBuffer layout) : Prop where
  backed : Backed limit next (state.consume count)
  tidy : Tidy layout next.blocks (state.consume count)
  frames : next.frameArrivalTimeMap = buffer.frameArrivalTimeMap

section Advancing

variable {buffer : StreamSequencerBuffer layout} {state : Reassembly UInt8}
  {count index readable : Nat}

theorem Backed.advance (h : Backed limit buffer state)
    (hlimit : limit < maxStreamOffset) (hcount : state.Readable count) :
    Backed limit (buffer.advance count) (state.consume count) where
  consumed := by
    rw [Reassembly.consume_consumed, ← h.consumed]
    rfl
  increasing := by
    obtain ⟨gap, rest, hgaps, hle, hfront, -⟩ := h.front hlimit
    have hincreasing := h.increasing
    have := hcount.le_front hfront
    change Increasing (state.consumed + count) buffer.gaps
    rw [hgaps] at hincreasing ⊢
    exact ⟨by omega, hincreasing.2⟩
  last := h.last
  gaps offset hoffset := by
    rw [Reassembly.settled_consume hcount]
    exact h.gaps offset hoffset
  bounded offset hsettled := by
    have := h.bounded offset ((Reassembly.settled_consume hcount _).mp hsettled)
    rw [Reassembly.consume_consumed]
    omega
  shaped := h.shaped
  stored offset byte hunread hcontent := by
    rw [Reassembly.consume_consumed] at hunread
    exact h.stored offset byte (by omega) hcontent
  counted := by
    rw [Reassembly.card_waiting_consume hcount
      fun offset hsettled => (h.bounded offset hsettled).1, ← h.counted]
    rfl

theorem Backed.retireBlock (h : Backed limit buffer state)
    (hnone : ¬ HoldsUnread layout state index) :
    Backed limit (buffer.retireBlock index) state where
  consumed := h.consumed
  increasing := h.increasing
  last := h.last
  gaps := h.gaps
  bounded := h.bounded
  shaped := h.shaped.set nofun
  stored offset byte hunread hcontent := by
    rw [← h.stored offset byte hunread hcontent]
    refine peek_set_ne (fun heq => hnone ?_) _
    exact ⟨offset, hunread, by simp [hcontent], heq.symm⟩
  counted := h.counted

theorem allocated_retireBlock {other : Nat}
    (hallocated : Allocated (buffer.retireBlock index).blocks other) :
    index ≠ other ∧ Allocated buffer.blocks other := by
  obtain ⟨block, hblock⟩ := hallocated
  unfold StreamSequencerBuffer.retireBlock at hblock
  dsimp only at hblock
  by_cases heq : index = other
  · subst heq
    simp only [List.getElem?_set, if_true] at hblock
    split at hblock <;> simp at hblock
  · rw [List.getElem?_set_ne heq] at hblock
    exact ⟨heq, block, hblock⟩

theorem Tidy.consume_other (h : Tidy layout buffer.blocks state)
    (hcount : count ≤ layout.room state.consumed)
    (hallocated : Allocated buffer.blocks index)
    (hother : index ≠ layout.getBlockIndex state.consumed) :
    HoldsUnread layout (state.consume count) index := by
  rcases h index hallocated with ⟨offset, hunread, hsome, hindex⟩ | hstopped
  · refine ⟨offset, ?_, hsome, hindex⟩
    rw [Reassembly.consume_consumed]
    by_contra hread
    have hsame := (layout.within_block state.consumed
      (offset - state.consumed) (by omega)).1
    rw [Nat.add_sub_cancel' hunread, hindex] at hsame
    exact hother hsame
  · exact absurd hstopped.2.2.1.symm hother

theorem Backed.endOffset_ne (h : Backed limit buffer state)
    {gap : Gap} {rest : List Gap} (hgaps : buffer.gaps = gap :: rest)
    (hstart : gap.beginOffset = state.consumed)
    (hfull : buffer.empty = false) : gap.endOffset ≠ maxStreamOffset := by
  obtain ⟨before, first, hlast⟩ := h.last
  have hincreasing := h.increasing
  rw [hgaps] at hlast hincreasing
  cases before with
  | nil =>
      obtain ⟨rfl, rfl⟩ := List.cons.inj hlast
      unfold StreamSequencerBuffer.empty at hfull
      rw [hgaps, h.consumed] at hfull
      exact absurd hstart (by simpa using hfull)
  | cons head before =>
      obtain ⟨rfl, rfl⟩ := List.cons.inj hlast
      have := hincreasing.2.2.middle
      dsimp only at this
      omega

theorem Backed.not_holdsUnread (h : Backed limit buffer state)
    (hmoved : layout.getBlockIndex (state.consumed + count) ≠
      layout.getBlockIndex state.consumed)
    {last : Nat} (hlast : state.Settled last)
    (hlatest : ∀ offset, state.Settled offset → offset ≤ last)
    (hlap : layout.getBlockIndex last ≠ layout.getBlockIndex state.consumed)
    (hunread : state.consumed ≤ last) :
    ¬ HoldsUnread layout (state.consume count)
      (layout.getBlockIndex state.consumed) := by
  rintro ⟨offset, hwaits, hsome, hindex⟩
  rw [Reassembly.consume_consumed] at hwaits
  have hoffset := h.bounded offset (.inr hsome)
  have hbound := h.bounded last hlast
  have hle := hlatest offset (.inr hsome)
  have hsame := layout.same_block_iff state.consumed
    (offset - state.consumed) (by omega)
  rw [Nat.add_sub_cancel' (by omega)] at hsame
  rcases hsame.mp hindex with hroom | hwrap
  · exact hmoved (layout.within_block _ _ (by omega)).1
  · have hlater := layout.same_block_iff state.consumed
      (last - state.consumed) (by omega)
    rw [Nat.add_sub_cancel' hunread] at hlater
    exact hlap (hlater.mpr (.inr (by omega)))

section Retiring

variable (h : Backed limit buffer state)
  (htidy : Tidy layout buffer.blocks state)
  (hlimit : limit < maxStreamOffset) (hreadable : state.Readable count)
  (hroom : count ≤ layout.room state.consumed)

include h htidy hlimit hreadable hroom

theorem Backed.retired
    (hnone : ¬ HoldsUnread layout (state.consume count)
      (layout.getBlockIndex state.consumed)) :
    Advanced limit buffer state count ((buffer.advance count).retireBlock
      (layout.getBlockIndex state.consumed)) := by
  refine ⟨(h.advance hlimit hreadable).retireBlock hnone,
    fun index hallocated => ?_, rfl⟩
  obtain ⟨hindex, hallocated⟩ := allocated_retireBlock hallocated
  exact .inl (htidy.consume_other hroom hallocated (Ne.symm hindex))

theorem Backed.kept
    (hneeded : HoldsUnread layout (state.consume count)
        (layout.getBlockIndex state.consumed) ∨
      StoppedInside layout (state.consume count)
        (layout.getBlockIndex state.consumed)) :
    Advanced limit buffer state count (buffer.advance count) := by
  refine ⟨h.advance hlimit hreadable, fun index hallocated => ?_, rfl⟩
  by_cases hindex : index = layout.getBlockIndex state.consumed
  · subst hindex
    exact hneeded
  · exact .inl (htidy.consume_other hroom hallocated hindex)

end Retiring

theorem lt_room_of_same_block {position other : Nat}
    (hroom : count ≤ layout.room position)
    (hnext : layout.getBlockIndex (position + count) =
      layout.getBlockIndex position)
    (hother : layout.getBlockIndex other ≠ layout.getBlockIndex position) :
    count < layout.room position := by
  refine Nat.lt_of_le_of_ne hroom fun heq => ?_
  subst heq
  have hsingle := layout.getBlockIndex_lt position
  have hring := layout.getBlockIndex_lt other
  rw [(layout.next_block _).1] at hnext
  rcases Nat.lt_or_ge (layout.getBlockIndex position + 1)
    layout.blocksCount with hmore | hend
  · rw [Nat.mod_eq_of_lt hmore] at hnext
    omega
  · rw [show layout.getBlockIndex position + 1 = layout.blocksCount by omega,
      Nat.mod_self] at hnext
    omega

theorem stoppedInside_consume (hpos : 0 < count)
    (hroom : count ≤ layout.room state.consumed)
    (hnext : layout.getBlockIndex (state.consumed + count) =
      layout.getBlockIndex state.consumed)
    {other : Nat} (hunread : HoldsUnread layout (state.consume count) other) :
    StoppedInside layout (state.consume count)
      (layout.getBlockIndex state.consumed) := by
  have hbehind := (layout.within_block state.consumed (count - 1)
    (by omega)).1
  refine ⟨by rw [Reassembly.consume_consumed]; omega, ?_, hnext, other,
    hunread⟩
  rw [Reassembly.consume_consumed, ← hbehind]
  congr 1
  omega

theorem nextBlockToRead_advance (h : Backed limit buffer state) :
    (buffer.advance count).nextBlockToRead =
      layout.getBlockIndex (state.consumed + count) := by
  unfold StreamSequencerBuffer.nextBlockToRead
  rw [← h.consumed]
  rfl

theorem Backed.frontGap_advance (h : Backed limit buffer state)
    (hlimit : limit < maxStreamOffset) (hfront : state.Front readable)
    (hcount : count = min readable (layout.room state.consumed))
    (hinside : count < layout.room state.consumed)
    (hfull : (buffer.advance count).empty = false) :
    ∃ gap, (buffer.advance count).frontGap = .ok gap ∧
      gap.endOffset ≠ maxStreamOffset := by
  have hbacked := h.advance hlimit
    (hfront.1.mono (show count ≤ readable by omega))
  obtain ⟨gap, rest, hgaps, hgap, hgapFront, -⟩ := hbacked.front hlimit
  have hread := (hfront.consume count (by omega)).unique hgapFront
  rw [Reassembly.consume_consumed] at hgap hread
  have hstart : gap.beginOffset = (state.consume count).consumed := by
    rw [Reassembly.consume_consumed]
    omega
  refine ⟨gap, ?_, hbacked.endOffset_ne hgaps hstart hfull⟩
  unfold StreamSequencerBuffer.frontGap
  rw [hgaps]

theorem Backed.retireBlockIfEmpty (h : Backed limit buffer state)
    (htidy : Tidy layout buffer.blocks state)
    (hlimit : limit < maxStreamOffset) (hfront : state.Front readable)
    (hpos : 0 < count)
    (hcount : count = min readable (layout.room state.consumed)) :
    ∃ next, (buffer.advance count).retireBlockIfEmpty
        (layout.getBlockIndex state.consumed) = .ok next ∧
      Advanced limit buffer state count next := by
  have hreadable := hfront.1.mono (show count ≤ readable by omega)
  have hroom : count ≤ layout.room state.consumed := by omega
  obtain ⟨first, hback, hfirst, hsettled, hempty, hfull⟩ :=
    (h.advance hlimit hreadable).back hlimit
  unfold StreamSequencerBuffer.retireBlockIfEmpty
  cases hcase : (buffer.advance count).empty with
  | true =>
      rw [if_pos rfl]
      refine ⟨_, rfl, h.retired htidy hlimit hreadable hroom ?_⟩
      rintro ⟨offset, hunread, hsome, -⟩
      have := hsettled offset (.inr hsome)
      have := hempty hcase
      omega
  | false =>
      obtain ⟨hlt, hsome⟩ := hfull hcase
      have hlast : HoldsUnread layout (state.consume count)
          (layout.getBlockIndex (first - 1)) :=
        ⟨first - 1, by omega, hsome, rfl⟩
      rw [if_neg (by decide), hback, Outcome.ok_bind]
      dsimp only
      by_cases hwrapped : layout.getBlockIndex (first - 1) =
          layout.getBlockIndex state.consumed
      · -- the ring has wrapped to this block
        rw [if_pos hwrapped]
        exact ⟨_, rfl, h.kept htidy hlimit hreadable hroom
          (.inl (hwrapped ▸ hlast))⟩
      · rw [if_neg hwrapped, nextBlockToRead_advance h]
        by_cases hnext : layout.getBlockIndex (state.consumed + count) =
            layout.getBlockIndex state.consumed
        · -- a gap begins in this block, and it is not the last one
          obtain ⟨gap, hgap, hfinite⟩ := h.frontGap_advance hlimit hfront
            hcount (lt_room_of_same_block hroom hnext hwrapped) hcase
          rw [if_pos hnext, hgap, Outcome.ok_bind, if_pos (.inl hfinite)]
          exact ⟨_, rfl, h.kept htidy hlimit hreadable hroom
            (.inr (stoppedInside_consume hpos hroom hnext hlast))⟩
        · rw [if_neg hnext]
          refine ⟨_, rfl, h.retired htidy hlimit hreadable hroom ?_⟩
          refine h.not_holdsUnread hnext
            (show state.Settled (first - 1) from .inr hsome)
            (fun offset hoffset => ?_) hwrapped
            (by rw [Reassembly.consume_consumed] at hlt; omega)
          have := hsettled offset
            ((Reassembly.settled_consume hreadable _).mpr hoffset)
          omega

theorem Backed.round (h : Backed limit buffer state)
    (htidy : Tidy layout buffer.blocks state)
    (hlimit : limit < maxStreamOffset) (hfront : state.Front readable)
    (hpos : 0 < count)
    (hcount : count ≤ min readable (layout.room state.consumed)) :
    ∃ next, buffer.finishRound (layout.getBlockIndex state.consumed)
        (min readable (layout.room state.consumed)) count = .ok next ∧
      Advanced limit buffer state count next := by
  unfold StreamSequencerBuffer.finishRound
  dsimp only
  split
  next hall => exact h.retireBlockIfEmpty htidy hlimit hfront hpos hall
  next hpart =>
    refine ⟨_, rfl, h.advance hlimit (hfront.1.mono (by omega)),
      fun index hallocated => .inl ?_, rfl⟩
    by_cases hindex : index = layout.getBlockIndex state.consumed
    · subst hindex
      refine ⟨state.consumed + count, Nat.le_refl _, ?_,
        (layout.within_block _ _ (by omega)).1⟩
      exact hfront.1 count (by omega)
    · exact htidy.consume_other (by omega) hallocated hindex

theorem Advanced.trans {first second : Nat}
    {middle next : StreamSequencerBuffer layout}
    (hfirst : Advanced limit buffer state first middle)
    (hsecond : Advanced limit middle (state.consume first) second next) :
    Advanced limit buffer state (first + second) next where
  backed := by
    rw [← Reassembly.consume_consume]
    exact hsecond.backed
  tidy := by
    rw [← Reassembly.consume_consume]
    exact hsecond.tidy
  frames := hsecond.frames.trans hfirst.frames

theorem Advanced.zero (h : Backed limit buffer state)
    (htidy : Tidy layout buffer.blocks state) :
    Advanced limit buffer state 0 buffer :=
  ⟨h, htidy, rfl⟩

theorem Backed.nextBlockToRead_eq (h : Backed limit buffer state) :
    buffer.nextBlockToRead = layout.getBlockIndex state.consumed := by
  rw [← h.consumed]
  rfl

theorem Backed.readOffset_eq (h : Backed limit buffer state) :
    buffer.readOffset = layout.getInBlockOffset state.consumed := by
  rw [← h.consumed]
  rfl

theorem Backed.readableBytes_eq (h : Backed limit buffer state)
    (hlimit : limit < maxStreamOffset) (hfront : state.Front readable) :
    buffer.readableBytes = .ok readable := by
  obtain ⟨gap, rest, -, -, hother, hreadable⟩ := h.front hlimit
  rw [hreadable, hfront.unique hother]

theorem Backed.readFront (h : Backed limit buffer state) (hpos : 0 < count)
    (hreadable : state.Readable count)
    (hcount : count ≤ layout.room state.consumed) :
    ∃ block bytes,
      blockAt buffer.blocks (layout.getBlockIndex state.consumed) =
        .ok block ∧
      readBlock block (layout.getInBlockOffset state.consumed) count =
        .ok bytes ∧
      bytes.length = count ∧ Holds state.content state.consumed bytes := by
  obtain ⟨block, bytes, hblock, hread, hlength, hcells⟩ :=
    readCells h.shaped hcount (fun distance hdistance => by
      obtain ⟨byte, hbyte⟩ :=
        Option.isSome_iff_exists.mp (hreadable distance hdistance)
      simp [h.stored _ _ (Nat.le_add_right _ _) hbyte]) hpos
  exact ⟨block, bytes, hblock, hread, hlength,
    h.holds_of_cells (hlength ▸ hreadable) hcells⟩

/-- The inner loop of `Readv`, by induction on its rounds. -/
theorem Backed.fillDestination {rounds dest : Nat}
    (h : Backed limit buffer state) (htidy : Tidy layout buffer.blocks state)
    (hlimit : limit < maxStreamOffset) (hfront : state.Front readable)
    (hrounds : dest ≤ rounds) :
    ∃ bytes next, StreamSequencerBuffer.fillDestination rounds buffer dest =
        .ok (bytes, next) ∧
      bytes.length = min dest readable ∧
      Holds state.content state.consumed bytes ∧
      Advanced limit buffer state bytes.length next := by
  induction rounds generalizing buffer state readable dest with
  | zero =>
      obtain rfl : dest = 0 := by omega
      exact ⟨[], buffer, by simp [StreamSequencerBuffer.fillDestination],
        by simp, holds_nil, .zero h htidy⟩
  | succ rounds ih =>
      cases dest with
      | zero =>
          exact ⟨[], buffer, by simp [StreamSequencerBuffer.fillDestination],
            by simp, holds_nil, .zero h htidy⟩
      | succ dest =>
          unfold StreamSequencerBuffer.fillDestination
          simp only [h.readableBytes_eq hlimit hfront, Outcome.ok_bind]
          by_cases hnone : readable = 0
          · rw [if_pos hnone]
            exact ⟨[], buffer, rfl, by simp [hnone], holds_nil, .zero h htidy⟩
          · have hroom := (layout.room_spec state.consumed).1
            rw [if_neg hnone, h.nextBlockToRead_eq, h.readOffset_eq,
              show layout.getBlockCapacity (layout.getBlockIndex
                state.consumed) - layout.getInBlockOffset state.consumed =
                layout.room state.consumed from rfl]
            generalize hsize : min (min readable (layout.room state.consumed))
              (dest + 1) = size
            obtain ⟨block, bytes, hblock, hread, hlength, hbytes⟩ :=
              h.readFront (show 0 < size by omega)
                (hfront.1.mono (by omega)) (by omega)
            obtain ⟨middle, hround, hfirst⟩ :=
              h.round htidy hlimit hfront (show 0 < size by omega)
                (by omega)
            obtain ⟨rest, next, hrest, hrestLength, hrestBytes, hsecond⟩ :=
              ih hfirst.backed hfirst.tidy
                (hfront.consume size (by omega))
                (show dest + 1 - size ≤ rounds by omega)
            refine ⟨bytes ++ rest, next, ?_, ?_, ?_, ?_⟩
            · rw [hblock, Outcome.ok_bind, hread, Outcome.ok_bind, hround,
                Outcome.ok_bind, hrest]
              rfl
            · rw [List.length_append]
              omega
            · rw [holds_append, hlength]
              exact ⟨hbytes, hrestBytes⟩
            · rw [List.length_append, hlength]
              exact hfirst.trans hsecond

theorem Backed.fillDestinations (h : Backed limit buffer state)
    (destinations : List Nat) (htidy : Tidy layout buffer.blocks state)
    (hlimit : limit < maxStreamOffset) (hfront : state.Front readable) :
    ∃ bytes next, buffer.fillDestinations destinations = .ok (bytes, next) ∧
      bytes.length = min destinations.sum readable ∧
      Holds state.content state.consumed bytes ∧
      Advanced limit buffer state bytes.length next := by
  induction destinations generalizing buffer state readable with
  | nil => exact ⟨[], buffer, rfl, by simp, holds_nil, .zero h htidy⟩
  | cons destination destinations ih =>
      unfold StreamSequencerBuffer.fillDestinations
      simp only [h.readableBytes_eq hlimit hfront, Outcome.ok_bind]
      by_cases hnone : readable = 0
      · rw [if_pos hnone]
        exact ⟨[], buffer, rfl, by simp [hnone], holds_nil, .zero h htidy⟩
      · obtain ⟨bytes, middle, hfill, hlength, hbytes, hfirst⟩ :=
          h.fillDestination htidy hlimit hfront (Nat.le_refl destination)
        obtain ⟨rest, next, hrest, hrestLength, hrestBytes, hsecond⟩ :=
          ih hfirst.backed hfirst.tidy
            (hfront.consume bytes.length (by omega))
        refine ⟨bytes ++ rest, next, ?_, ?_, ?_, ?_⟩
        · rw [if_neg hnone, hfill, Outcome.ok_bind, hrest]
          rfl
        · rw [List.length_append, List.sum_cons]
          omega
        · rw [holds_append]
          exact ⟨hbytes, hrestBytes⟩
        · rw [List.length_append]
          exact hfirst.trans hsecond

/-- The loop of `MarkConsumed`, by induction on its rounds. -/
theorem Backed.consumeBlocks {rounds : Nat} (h : Backed limit buffer state)
    (htidy : Tidy layout buffer.blocks state)
    (hlimit : limit < maxStreamOffset) (hcount : state.Readable count)
    (hrounds : count ≤ rounds) :
    ∃ next, StreamSequencerBuffer.consumeBlocks rounds buffer count =
        .ok next ∧ Advanced limit buffer state count next := by
  induction rounds generalizing buffer state count with
  | zero =>
      obtain rfl : count = 0 := by omega
      exact ⟨buffer, by simp [StreamSequencerBuffer.consumeBlocks],
        .zero h htidy⟩
  | succ rounds ih =>
      cases count with
      | zero =>
          exact ⟨buffer, by simp [StreamSequencerBuffer.consumeBlocks],
            .zero h htidy⟩
      | succ count =>
          obtain ⟨gap, rest, -, -, hfront, -⟩ := h.front hlimit
          generalize gap.beginOffset - state.consumed = readable at hfront
          have hle := hcount.le_front hfront
          have hroom := (layout.room_spec state.consumed).1
          unfold StreamSequencerBuffer.consumeBlocks
          simp only [h.readableBytes_eq hlimit hfront, Outcome.ok_bind]
          rw [h.nextBlockToRead_eq, h.readOffset_eq,
            show layout.getBlockCapacity (layout.getBlockIndex
              state.consumed) - layout.getInBlockOffset state.consumed =
              layout.room state.consumed from rfl]
          generalize hsize : min (count + 1)
            (min readable (layout.room state.consumed)) = size
          obtain ⟨middle, hround, hfirst⟩ :=
            h.round htidy hlimit hfront (show 0 < size by omega)
                (by omega)
          obtain ⟨next, hrest, hsecond⟩ := ih hfirst.backed hfirst.tidy
            ((hfront.consume size (by omega)).1.mono
              (show count + 1 - size ≤ _ by omega))
            (by omega)
          refine ⟨next, ?_, ?_⟩
          · rw [hround, Outcome.ok_bind, hrest]
          · have hboth := hfirst.trans hsecond
            rwa [show size + (count + 1 - size) = count + 1 by omega] at hboth

end Advancing

end RevSDK
