import RevSDK.Quic.BufferArrivals

/-!
# The operations of the sequencer buffer

Every operation of the circular buffer is one of the reassembly that the buffer
represents.
-/

namespace RevSDK

open RevSDK.Foundation

variable {layout : BufferLayout} {limit : Nat}
  {buffer : StreamSequencerBuffer layout} {state : Reassembly UInt8}

theorem Framed.consume {frames : FrameArrivalTimeMap} {count : Nat}
    (h : Framed frames state) :
    Framed (frames.updateFrameArrivalMap (state.consumed + count))
      (state.consume count) := by
  rw [FrameArrivalTimeMap.updateFrameArrivalMap_eq h.ordered]
  obtain ⟨hordered, hat⟩ := FrameArrivalTimeMap.trim_spec
    (state.consumed + count) h.ordered
  refine ⟨hordered, fun offset hoffset => ?_⟩
  rw [Reassembly.consume_consumed] at hoffset
  rw [hat offset hoffset]
  exact h.arrived offset (by omega)

theorem Represents.updated {count : Nat}
    {next : StreamSequencerBuffer layout} (h : Represents limit buffer state)
    (hnext : Advanced limit buffer state count next) :
    Represents limit next.updateFrameArrivalMap (state.consume count) where
  backed :=
    { consumed := hnext.backed.consumed
      increasing := hnext.backed.increasing
      last := hnext.backed.last
      gaps := hnext.backed.gaps
      bounded := hnext.backed.bounded
      shaped := hnext.backed.shaped
      stored := hnext.backed.stored
      counted := hnext.backed.counted }
  tidy := hnext.tidy
  framed := by
    unfold StreamSequencerBuffer.updateFrameArrivalMap
    dsimp only
    rw [hnext.frames, hnext.backed.consumed]
    exact h.framed.consume

def KeepsTimes (buffer next : StreamSequencerBuffer layout) : Prop :=
  ∀ position timestamp,
    next.frameArrivalTimeMap.arrivalAt position = some timestamp →
    buffer.frameArrivalTimeMap.arrivalAt position = some timestamp

theorem Represents.keepsTimes {count : Nat}
    {next : StreamSequencerBuffer layout} (h : Represents limit buffer state)
    (hnext : Advanced limit buffer state count next) :
    KeepsTimes buffer next.updateFrameArrivalMap := by
  intro position timestamp hat
  have hframed := (h.updated hnext).framed
  have hunread : state.consumed + count ≤ position := by
    by_contra hread
    rw [FrameArrivalTimeMap.arrivalAt_of_lt hframed.ordered
      (Nat.not_le.mp hread)] at hat
    contradiction
  unfold StreamSequencerBuffer.updateFrameArrivalMap at hat
  dsimp only at hat
  rw [hnext.frames, hnext.backed.consumed,
    FrameArrivalTimeMap.updateFrameArrivalMap_eq h.framed.ordered,
    Reassembly.consume_consumed,
    (FrameArrivalTimeMap.trim_spec _ h.framed.ordered).2 position hunread]
    at hat
  exact hat

theorem Advanced.keepsTimes {count : Nat}
    {next : StreamSequencerBuffer layout}
    (hnext : Advanced limit buffer state count next) :
    KeepsTimes buffer next := by
  intro position timestamp hat
  rwa [hnext.frames] at hat

theorem Represents.readv (h : Represents limit buffer state)
    (hlimit : limit < maxStreamOffset) (destinations : List Nat) :
    ∃ bytes next, buffer.readv destinations = .ok (bytes, next) ∧
      Holds state.content state.consumed bytes ∧
      (∀ count, state.Front count →
        bytes.length = min destinations.sum count) ∧
      Represents limit next (state.consume bytes.length) ∧
      KeepsTimes buffer next := by
  obtain ⟨gap, rest, -, -, hfront, -⟩ := h.backed.front hlimit
  obtain ⟨bytes, next, hfill, hlength, hbytes, hnext⟩ :=
    h.backed.fillDestinations destinations h.tidy hlimit hfront
  have hexact : ∀ count, state.Front count →
      bytes.length = min destinations.sum count := by
    intro count hcount
    rw [hlength, hcount.unique hfront]
  unfold StreamSequencerBuffer.readv
  rw [hfill, Outcome.ok_bind]
  cases bytes with
  | nil =>
      refine ⟨[], next, rfl, hbytes, hexact, ⟨hnext.backed, hnext.tidy, ?_⟩,
        hnext.keepsTimes⟩
      rw [hnext.frames]
      exact h.framed
  | cons byte bytes =>
      exact ⟨_, _, rfl, hbytes, hexact, h.updated hnext, h.keepsTimes hnext⟩

theorem Represents.markConsumed (h : Represents limit buffer state)
    (hlimit : limit < maxStreamOffset) {count : Nat}
    (hcount : state.Readable count) :
    ∃ next, buffer.markConsumed count = .ok (true, next) ∧
      Represents limit next (state.consume count) ∧
      KeepsTimes buffer next := by
  obtain ⟨gap, rest, -, -, hfront, hreadable⟩ := h.backed.front hlimit
  have hle := hcount.le_front hfront
  obtain ⟨next, hloop, hnext⟩ := h.backed.consumeBlocks h.tidy hlimit hcount
    (Nat.le_refl count)
  unfold StreamSequencerBuffer.markConsumed
  rw [hreadable, Outcome.ok_bind, if_neg (by omega), hloop, Outcome.ok_bind]
  by_cases hpos : count > 0
  · rw [if_pos hpos]
    exact ⟨_, rfl, h.updated hnext, h.keepsTimes hnext⟩
  · obtain rfl : count = 0 := by omega
    rw [if_neg hpos]
    refine ⟨_, rfl, ⟨hnext.backed, hnext.tidy, ?_⟩, hnext.keepsTimes⟩
    rw [hnext.frames]
    exact h.framed

section Regions

theorem Backed.region (h : Backed limit buffer state) {offset count : Nat}
    (hpos : 0 < count) (hcount : count ≤ layout.room offset)
    (hunread : state.consumed ≤ offset)
    (hsome : ∀ distance < count, (state.content (offset + distance)).isSome) :
    ∃ bytes, buffer.region (layout.getBlockIndex offset)
        (layout.getInBlockOffset offset) count = .ok bytes ∧
      bytes.length = count ∧ Holds state.content offset bytes := by
  have hstored : ∀ distance < count, ∀ byte,
      state.content (offset + distance) = some byte →
      cell layout buffer.blocks (offset + distance) = some byte :=
    fun distance _ byte => h.stored _ byte (by omega)
  obtain ⟨block, bytes, hblock, hread, hlength, hcells⟩ :=
    readCells h.shaped hcount (fun distance hdistance => by
      obtain ⟨byte, hbyte⟩ :=
        Option.isSome_iff_exists.mp (hsome distance hdistance)
      simp [hstored distance hdistance byte hbyte]) hpos
  refine ⟨bytes, ?_, hlength, fun index hindex => ?_⟩
  · unfold StreamSequencerBuffer.region
    rw [hblock, Outcome.ok_bind, hread]
  · rw [hlength] at hindex
    obtain ⟨byte, hbyte⟩ := Option.isSome_iff_exists.mp (hsome index hindex)
    rw [← hcells index (by omega), hbyte, hstored index hindex byte hbyte]

theorem holds_regions_cons {content : Nat → Option UInt8} {offset : Nat}
    {bytes : List UInt8} {rest : List (List UInt8)} (hpos : 0 < bytes.length)
    (hbytes : Holds content offset bytes) (hnonempty : [] ∉ rest)
    (hrest : Holds content (offset + bytes.length) rest.flatten) :
    [] ∉ bytes :: rest ∧ Holds content offset (bytes :: rest).flatten := by
  rw [List.mem_cons, not_or, List.flatten_cons, holds_append]
  exact ⟨⟨(List.ne_nil_of_length_pos hpos).symm, hnonempty⟩, hbytes, hrest⟩

theorem Backed.laterRegions (h : Backed limit buffer state)
    {finish : Nat} (hfinish : finish <
      state.consumed + layout.maxBufferCapacityBytes)
    (hsome : ∀ offset, state.consumed ≤ offset → offset ≤ finish →
      (state.content offset).isSome) {offset : Nat} (iovLeft : Nat)
    (hunread : state.consumed ≤ offset) (hoffset : offset ≤ finish)
    (hstart : layout.getInBlockOffset offset = 0) :
    ∃ regions, buffer.laterRegions (layout.getBlockIndex finish)
        (layout.getInBlockOffset finish) (layout.getBlockIndex offset)
        iovLeft = .ok regions ∧
      regions.length ≤ iovLeft ∧ [] ∉ regions ∧
      Holds state.content offset regions.flatten := by
  induction iovLeft generalizing offset with
  | zero => exact ⟨[], rfl, Nat.le_refl _, List.not_mem_nil, holds_nil⟩
  | succ iovLeft ih =>
      have hroom := layout.room_spec offset
      unfold StreamSequencerBuffer.laterRegions
      by_cases hlast : layout.getBlockIndex offset =
          layout.getBlockIndex finish
      · have hsame := layout.same_block_iff offset (finish - offset) (by omega)
        rw [Nat.add_sub_cancel' hoffset, hstart] at hsame
        have hnear : finish - offset < layout.room offset :=
          (hsame.mp hlast.symm).resolve_right (by omega)
        have hend := (layout.within_block _ _ hnear).2
        rw [Nat.add_sub_cancel' hoffset, hstart, Nat.zero_add] at hend
        obtain ⟨bytes, hregion, hlength, hbytes⟩ := h.region
          (show 0 < finish - offset + 1 by omega) (by omega) hunread
          (fun distance hdistance => hsome _ (by omega) (by omega))
        rw [hstart] at hregion
        rw [if_pos hlast, ← hlast, hend, hregion, Outcome.ok_bind]
        exact ⟨[bytes], rfl, by simp, holds_regions_cons (by omega) hbytes
          List.not_mem_nil holds_nil⟩
      · have hbefore : offset + layout.room offset ≤ finish := by
          by_contra hnear
          have hsame := (layout.within_block offset (finish - offset)
            (by omega)).1
          rw [Nat.add_sub_cancel' hoffset] at hsame
          exact hlast hsame.symm
        have hwhole : layout.getBlockCapacity (layout.getBlockIndex offset) =
            layout.room offset := by
          unfold BufferLayout.room
          omega
        obtain ⟨bytes, hregion, hlength, hbytes⟩ := h.region hroom.1
          (Nat.le_refl _) hunread
          (fun distance hdistance => hsome _ (by omega) (by omega))
        obtain ⟨rest, hrest, hcount, hnonempty, hrestBytes⟩ :=
          ih (show state.consumed ≤ offset + layout.room offset by omega)
            hbefore
            (layout.next_block _).2
        rw [(layout.next_block _).1] at hrest
        rw [hstart] at hregion
        rw [if_neg hlast, hwhole, hregion, Outcome.ok_bind, hrest]
        exact ⟨bytes :: rest, rfl, by simpa using hcount,
          holds_regions_cons (by omega) hbytes hnonempty
            (hlength ▸ hrestBytes)⟩

theorem Backed.getReadableRegions (h : Backed limit buffer state)
    (hlimit : limit < maxStreamOffset) {iovCount : Nat} (hiov : 0 < iovCount) :
    ∃ regions, buffer.getReadableRegions iovCount = .ok regions ∧
      regions.length ≤ iovCount ∧ [] ∉ regions ∧
      Holds state.content state.consumed regions.flatten ∧
      (regions = [] ↔ state.Front 0) := by
  obtain ⟨gap, rest, hgaps, hle, hfront, hreadable⟩ := h.front hlimit
  have hroom := layout.room_spec state.consumed
  unfold StreamSequencerBuffer.getReadableRegions
  rw [hreadable, Outcome.ok_bind]
  generalize hcount : gap.beginOffset - state.consumed = count at *
  by_cases hnone : count = 0
  · rw [if_pos hnone]
    exact ⟨[], rfl, by simp, List.not_mem_nil, holds_nil,
      by simpa [hnone] using hfront⟩
  · have hnonempty : ¬ state.Front 0 := fun hzero =>
      hnone (hfront.unique hzero)
    have hsome : ∀ offset, state.consumed ≤ offset →
        offset ≤ gap.beginOffset - 1 → (state.content offset).isSome := by
      intro offset hunread hoffset
      have := hfront.1 (offset - state.consumed) (by omega)
      rwa [Nat.add_sub_cancel' hunread] at this
    have hfinish := (h.bounded (gap.beginOffset - 1)
      (.inr (hsome _ (by omega) (Nat.le_refl _)))).2
    have hfrontGap : buffer.frontGap = .ok gap := by
      unfold StreamSequencerBuffer.frontGap
      rw [hgaps]
    rw [if_neg hnone, h.nextBlockToRead_eq, h.readOffset_eq, hfrontGap,
      Outcome.ok_bind]
    dsimp only
    have hlap := layout.same_lap_iff state.consumed (count - 1) (by omega)
    rw [← show gap.beginOffset - 1 = state.consumed + (count - 1) by omega]
      at hlap
    split
    next hsingle =>
      have hnear := hlap.mp hsingle
      obtain ⟨bytes, hregion, hlength, hbytes⟩ := h.region
        (show 0 < count by omega) (by omega) (Nat.le_refl _)
        (fun distance hdistance => hsome _ (by omega) (by omega))
      rw [hregion]
      obtain ⟨hsome, hholds⟩ := holds_regions_cons (by omega) hbytes
        List.not_mem_nil holds_nil
      exact ⟨[bytes], rfl, by simp; omega, hsome, hholds, by simp [hnonempty]⟩
    next hseveral =>
      have hfar := mt hlap.mpr hseveral
      obtain ⟨bytes, hregion, hlength, hbytes⟩ := h.region hroom.1
        (Nat.le_refl _) (Nat.le_refl _)
        (fun distance hdistance => hsome _ (by omega) (by omega))
      obtain ⟨others, hothers, hothersCount, hothersNil, hothersBytes⟩ :=
        h.laterRegions hfinish hsome (iovCount - 1)
          (show state.consumed ≤ state.consumed + layout.room state.consumed by
            omega) (by omega) (layout.next_block _).2
      rw [(layout.next_block _).1] at hothers
      rw [show layout.getBlockCapacity (layout.getBlockIndex state.consumed) -
        layout.getInBlockOffset state.consumed =
          layout.room state.consumed from rfl, hregion, Outcome.ok_bind,
        hothers]
      obtain ⟨hsome, hholds⟩ := holds_regions_cons (by omega) hbytes hothersNil
        (hlength ▸ hothersBytes)
      exact ⟨bytes :: others, rfl, by rw [List.length_cons]; omega, hsome,
        hholds, by simp [hnonempty]⟩

theorem regionLength_pos {frame : Nat × FrameInfo}
    {frames : FrameArrivalTimeMap} {start readable : Nat}
    (h : RegionStarted (frame :: frames) (frame :: frames) start 0 readable
      frame.2.timestamp) (hpos : 0 < readable) :
    0 < StreamSequencerBuffer.regionLength readable frame.2.timestamp
      (StreamSequencerBuffer.frameRegion readable frame.2.timestamp
        (frame :: frames) 0) := by
  have hfirst := h.next_frame hpos
  obtain ⟨hlower, hsize, hrest⟩ := h.ordered
  unfold StreamSequencerBuffer.frameRegion
  split
  next hfits =>
    rw [if_pos rfl]
    have hnext : RegionStarted (frame :: frames) frames start
        (0 + frame.2.length) readable frame.2.timestamp := by
      refine ⟨hfits, hrest.mono (by omega), fun position hposition => ?_,
        fun index hindex => ?_, h.waiting⟩
      · conv_lhs => unfold FrameArrivalTimeMap.arrivalAt
        rw [if_neg (by omega)]
      · unfold FrameArrivalTimeMap.arrivalAt
        rw [if_pos (by omega)]
    have := (frameRegion_spec hnext).1
    omega
  next =>
    unfold StreamSequencerBuffer.regionLength
    dsimp only
    rw [if_pos rfl]
    exact hpos

theorem Represents.getReadableRegion (h : Represents limit buffer state)
    (hlimit : limit < maxStreamOffset) :
    state.Front 0 ∧ buffer.getReadableRegion = .ok none ∨
    ∃ bytes timestamp,
      buffer.getReadableRegion = .ok (some (bytes, timestamp)) ∧
      bytes ≠ [] ∧ Holds state.content state.consumed bytes ∧
      ∀ index < bytes.length, buffer.frameArrivalTimeMap.arrivalAt
        (state.consumed + index) = some timestamp := by
  obtain ⟨gap, rest, -, hle, hfront, hreadable⟩ := h.backed.front hlimit
  have hroom := layout.room_spec state.consumed
  unfold StreamSequencerBuffer.getReadableRegion
  rw [hreadable, Outcome.ok_bind]
  generalize gap.beginOffset - state.consumed = readable at hfront
  by_cases hnone : readable = 0
  · rw [if_pos hnone]
    exact .inl ⟨hnone ▸ hfront, rfl⟩
  · right
    have hwaiting : ∀ index < readable, (buffer.frameArrivalTimeMap.arrivalAt
        (state.consumed + index)).isSome := fun index hindex =>
      (h.framed.arrived _ (Nat.le_add_right _ _)).mpr (hfront.1 index hindex)
    rw [if_neg hnone, h.backed.nextBlockToRead_eq, h.backed.readOffset_eq]
    dsimp only
    rw [show layout.getBlockCapacity (layout.getBlockIndex state.consumed) -
        layout.getInBlockOffset state.consumed =
          layout.room state.consumed from rfl]
    have hordered := h.framed.ordered
    cases hframes : buffer.frameArrivalTimeMap with
    | nil =>
        have := hwaiting 0 (by omega)
        simp [hframes, FrameArrivalTimeMap.arrivalAt] at this
    | cons frame frames =>
        rw [hframes] at hwaiting hordered
        have hstarted : RegionStarted (frame :: frames) (frame :: frames)
            state.consumed 0 (min (layout.room state.consumed) readable)
            frame.2.timestamp :=
          ⟨Nat.zero_le _, hordered, fun _ _ => rfl,
            fun index hindex => absurd hindex (Nat.not_lt_zero index),
            fun index hindex => hwaiting index (by omega)⟩
        obtain ⟨-, hbound, hstamps⟩ := frameRegion_spec hstarted
        have hpos := regionLength_pos hstarted (by omega)
        dsimp only
        generalize StreamSequencerBuffer.regionLength
          (min (layout.room state.consumed) readable) frame.2.timestamp
          (StreamSequencerBuffer.frameRegion
            (min (layout.room state.consumed) readable) frame.2.timestamp
            (frame :: frames) 0) = length at *
        obtain ⟨bytes, hregion, hlength, hbytes⟩ := h.backed.region hpos
          (by omega) (Nat.le_refl _)
          (fun distance hdistance => hfront.1 distance (by omega))
        rw [hregion, Outcome.ok_bind]
        refine ⟨bytes, frame.2.timestamp, rfl, ?_, hbytes, ?_⟩
        · rintro rfl
          exact absurd hlength.symm hpos.ne'
        · rw [hlength]
          exact hstamps

end Regions

section Clearing

theorem Shaped.cleared {blocks : Blocks UInt8} (h : Shaped layout blocks) :
    Shaped layout (blocks.map fun _ => none) where
  count := by rw [List.length_map, h.count]
  sized block hmem := by simp at hmem

theorem represents_clear (buffer : StreamSequencerBuffer layout)
    (state : Reassembly UInt8) (hshaped : Shaped layout buffer.blocks)
    {offset : Nat} (hoffset : offset ≤ limit)
    (hlimit : limit < maxStreamOffset) :
    Represents limit
      ({ buffer with totalBytesRead := offset } :
        StreamSequencerBuffer layout).clear (state.skipTo offset) where
  backed :=
    { consumed := rfl
      increasing := ⟨Nat.le_refl _, by dsimp only; omega, trivial⟩
      last := ⟨[], offset, rfl⟩
      gaps := fun position hposition => by
        rw [Reassembly.settled_skipTo]
        unfold StreamSequencerBuffer.clear
        simp only [covers_cons, covers_nil, or_false, Extent.Contains]
        omega
      bounded := fun position hsettled => by
        have := Reassembly.settled_skipTo.mp hsettled
        rw [Reassembly.skipTo_consumed]
        omega
      shaped := hshaped.cleared
      stored := fun position byte hunread hcontent => by
        rw [Reassembly.skipTo_consumed] at hunread
        unfold Reassembly.skipTo at hcontent
        dsimp only at hcontent
        rw [if_neg (by omega)] at hcontent
        contradiction
      counted := by
        rw [Reassembly.waiting_skipTo]
        rfl }
  tidy index hallocated := by
    obtain ⟨block, hblock⟩ := hallocated
    have hmem := List.mem_of_getElem? hblock
    unfold StreamSequencerBuffer.clear at hmem
    simp at hmem
  framed :=
    { ordered := trivial
      arrived := fun position hunread => by
        rw [Reassembly.skipTo_consumed] at hunread
        unfold StreamSequencerBuffer.clear Reassembly.skipTo
        dsimp only
        rw [if_neg (by omega)]
        simp [FrameArrivalTimeMap.arrivalAt] }

theorem represents_new (hlimit : limit < maxStreamOffset) :
    Represents limit (StreamSequencerBuffer.new layout) .start := by
  rw [← Reassembly.start_skipTo]
  refine represents_clear ⟨0, [], _, 0, []⟩ .start ⟨?_, ?_⟩ (Nat.zero_le _)
    hlimit
  · exact List.length_replicate
  · intro block hmem
    exact absurd (List.eq_of_mem_replicate hmem) (by simp)

theorem Represents.clear (h : Represents limit buffer state)
    (hlimit : limit < maxStreamOffset) :
    Represents limit buffer.clear (state.skipTo state.consumed) := by
  have hcleared := represents_clear buffer state h.backed.shaped
    h.consumed_le hlimit
  rw [← h.backed.consumed] at hcleared ⊢
  exact hcleared

theorem Represents.flushBufferedFrames (h : Represents limit buffer state)
    (hlimit : limit < maxStreamOffset) :
    ∃ finish next, state.Ends finish ∧
      buffer.flushBufferedFrames = .ok (finish - state.consumed, next) ∧
      Represents limit next (state.skipTo finish) := by
  obtain ⟨first, hback, hfirst, hsettled, hempty, hfull⟩ :=
    h.backed.back hlimit
  have hle : first ≤ limit := by
    cases hcase : buffer.empty with
    | true => exact hempty hcase ▸ h.consumed_le
    | false =>
        have := (h.backed.bounded _ (.inr (hfull hcase).2)).1
        omega
  have hends : state.Ends first := by
    refine ⟨hfirst, hsettled, ?_⟩
    cases hcase : buffer.empty with
    | true => exact .inl (hempty hcase)
    | false => exact .inr (.inr (hfull hcase).2)
  refine ⟨first, _, hends, ?_,
    represents_clear buffer state h.backed.shaped hle hlimit⟩
  unfold StreamSequencerBuffer.flushBufferedFrames
  rw [hback, h.backed.consumed]
  rfl

end Clearing

theorem streamSequencerBuffer_implements
    (hlimit : limit + layout.maxBufferCapacityBytes +
      layout.maxBufferCapacityBytes < maxStreamOffset) :
    Implements limit (@Represents layout limit) where
  consumed h := h.backed.consumed
  accept h offset data timestamp hdata hfinish := by
    obtain ⟨code, buffered, next, hdone, harrival⟩ :=
      h.onStreamData hlimit hdata hfinish timestamp
    refine ⟨code, buffered, next, hdone, ?_⟩
    cases harrival with
    | new hfresh _ hnext _ => exact .inl ⟨rfl, rfl, hfresh, hnext⟩
    | duplicate => exact .inr ⟨rfl, rfl⟩
    | overlap => exact .inr ⟨rfl, rfl⟩
    | beyond => exact .inr ⟨rfl, rfl⟩
  front h := by
    obtain ⟨gap, rest, -, -, hfront, hreadable⟩ := h.backed.front (by omega)
    refine ⟨_, hfront, ?_⟩
    change StreamSequencerBuffer.hasBytesToRead _ = _
    unfold StreamSequencerBuffer.hasBytesToRead
    rw [hreadable]
    rfl
  regions h _ hiov := h.backed.getReadableRegions (by omega) hiov
  region h := by
    rcases h.getReadableRegion (by omega) with
      hnone | ⟨bytes, timestamp, hregion, hne, hbytes, -⟩
    · exact .inl hnone
    · exact .inr ⟨bytes, timestamp, hregion, hne, hbytes⟩
  consume h _ hcount := by
    obtain ⟨next, hdone, hnext, -⟩ := h.markConsumed (by omega) hcount
    exact ⟨next, hdone, hnext⟩
  read h destinations := by
    obtain ⟨bytes, next, hdone, hbytes, hexact, hnext, -⟩ :=
      h.readv (by omega) destinations
    exact ⟨bytes, next, hdone, hbytes, hexact, hnext⟩
  flush h := h.flushBufferedFrames (by omega)
  clears h := h.clear (by omega)

end RevSDK
