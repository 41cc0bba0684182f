import Mathlib.Data.List.TakeWhile
import RevSDK.Quic.BufferReassembly

/-!
# Frames that arrive at a sequencer buffer

`OnStreamData` decides by one gap what becomes of a frame: all of it is new, or
all of it is there already, or the frame is refused.
-/

namespace RevSDK

open RevSDK.Foundation

variable {layout : BufferLayout} {limit : Nat}
  {buffer : StreamSequencerBuffer layout} {state : Reassembly UInt8}
  {offset : Nat} {data : List UInt8}

theorem updateGapList_eq {gap : Gap} {count : Nat}
    (hfirst : gap.beginOffset ≤ offset)
    (hlast : offset + count ≤ gap.endOffset)
    (hmax : offset + count < maxStreamOffset) :
    updateGapList gap offset count = gap.without offset (offset + count) := by
  unfold updateGapList Extent.without
  rw [offsetSum_eq hmax]
  dsimp only
  split
  · rw [if_neg (by omega), if_pos (by omega)]
    rfl
  · split
    · rw [if_pos (by omega), if_neg (by omega)]
      rfl
    · split
      · rw [if_pos (by omega), if_pos (by omega)]
        rfl
      · rw [if_pos (by omega), if_neg (by omega), if_neg (by omega)]
        rfl

structure CurrentGap (buffer : StreamSequencerBuffer layout) (offset : Nat)
    (before : List Gap) (gap : Gap) (later : List Gap) : Prop where
  found : buffer.gaps.dropWhile (fun gap => gap.endOffset ≤ offset) =
    gap :: later
  skipped : buffer.gaps.takeWhile (fun gap => gap.endOffset ≤ offset) = before
  gaps : buffer.gaps = before ++ gap :: later
  ended : ∀ early ∈ before, early.endOffset ≤ offset
  reaches : offset < gap.endOffset

theorem Backed.currentGap (h : Backed limit buffer state)
    (hoffset : offset < maxStreamOffset) :
    ∃ before gap later, CurrentGap buffer offset before gap later := by
  obtain ⟨early, first, hlast⟩ := h.last
  cases hfound : buffer.gaps.dropWhile (fun gap => gap.endOffset ≤ offset) with
  | nil =>
      have := List.dropWhile_eq_nil_iff.mp hfound ⟨first, maxStreamOffset⟩
        (by simp [hlast])
      simp only [decide_eq_true_eq] at this
      omega
  | cons gap later =>
      refine ⟨_, gap, later, hfound, rfl, ?_, fun early hearly => ?_, ?_⟩
      · rw [← hfound, List.takeWhile_append_dropWhile]
      · simpa using List.mem_takeWhile_imp hearly
      · have := List.head_dropWhile_not
          (fun gap : Gap => decide (gap.endOffset ≤ offset))
          (l := buffer.gaps) (by simp [hfound])
        simp only [hfound, List.head_cons, decide_eq_false_iff_not] at this
        omega

section Arriving

variable {before later : List Gap} {gap : Gap}

theorem CurrentGap.not_before (h : CurrentGap buffer offset before gap later)
    {position : Nat} (hposition : offset ≤ position) :
    ¬ Covers before position := by
  rintro ⟨early, hmem, hcontains⟩
  have := h.ended early hmem
  exact absurd hcontains.2 (by omega)

theorem CurrentGap.increasing (h : CurrentGap buffer offset before gap later)
    (hbacked : Backed limit buffer state) :
    Increasing (gap.endOffset + 1) later ∧
      gap.beginOffset < gap.endOffset := by
  have hincreasing := hbacked.increasing
  rw [h.gaps] at hincreasing
  exact ⟨(increasing_append.mp hincreasing).2, hincreasing.middle.2⟩

theorem CurrentGap.covers_iff (h : CurrentGap buffer offset before gap later)
    (hbacked : Backed limit buffer state) {position : Nat}
    (hposition : offset ≤ position) (hend : position ≤ gap.endOffset) :
    Covers buffer.gaps position ↔ gap.Contains position := by
  rw [h.gaps, covers_append, covers_cons]
  have hbefore := h.not_before hposition
  have hlater := (h.increasing hbacked).1.not_covers
    (show position < gap.endOffset + 1 by omega)
  simp [hbefore, hlater]

theorem CurrentGap.settled_iff (h : CurrentGap buffer offset before gap later)
    (hbacked : Backed limit buffer state) {position : Nat}
    (hposition : offset ≤ position) (hend : position ≤ gap.endOffset)
    (hmax : position < maxStreamOffset) :
    state.Settled position ↔ ¬ gap.Contains position := by
  rw [← h.covers_iff hbacked hposition hend, hbacked.gaps position hmax,
    not_not]

def placed (buffer : StreamSequencerBuffer layout) (before : List Gap)
    (gap : Gap) (later : List Gap) (blocks : Blocks UInt8) (offset : Nat)
    (data : List UInt8) (timestamp : Nat) : StreamSequencerBuffer layout :=
  { buffer with
    gaps := before ++ updateGapList gap offset data.length ++ later
    blocks
    numBytesBuffered := buffer.numBytesBuffered + data.length
    frameArrivalTimeMap := buffer.frameArrivalTimeMap.insert offset
      ⟨data.length, timestamp⟩ }

theorem CurrentGap.last (h : CurrentGap buffer offset before gap later)
    (hbacked : Backed limit buffer state)
    (hend : offset + data.length < maxStreamOffset) :
    ∃ early first, before ++ gap.without offset (offset + data.length) ++
      later = early ++ [⟨first, maxStreamOffset⟩] := by
  obtain ⟨early, first, hends⟩ := hbacked.last
  cases hlater : later using List.reverseRecOn with
  | nil =>
      rw [h.gaps, hlater] at hends
      obtain ⟨-, hgap⟩ := List.append_inj' hends rfl
      obtain rfl : gap = ⟨first, maxStreamOffset⟩ := by simpa using hgap
      refine ⟨before ++ (if first < offset then [⟨first, offset⟩] else []),
        offset + data.length, ?_⟩
      unfold Extent.without
      dsimp only
      rw [if_pos hend]
      simp
  | append_singleton others final =>
      rw [h.gaps, hlater, ← List.cons_append, ← List.append_assoc] at hends
      obtain ⟨-, hfinal⟩ := List.append_inj' hends rfl
      obtain rfl : final = ⟨first, maxStreamOffset⟩ := by simpa using hfinal
      exact ⟨before ++ gap.without offset (offset + data.length) ++ others,
        first, by simp⟩

theorem CurrentGap.covers_without
    (h : CurrentGap buffer offset before gap later)
    (hbacked : Backed limit buffer state) (hdata : 0 < data.length)
    (hfirst : gap.beginOffset ≤ offset)
    (hlast : offset + data.length ≤ gap.endOffset) (position : Nat) :
    Covers (before ++ gap.without offset (offset + data.length) ++ later)
        position ↔
      Covers buffer.gaps position ∧
        ¬(offset ≤ position ∧ position < offset + data.length) := by
  rw [h.gaps]
  simp only [covers_append, covers_cons,
    Foundation.covers_without hfirst (Nat.lt_add_of_pos_right hdata) hlast]
  have hbefore : offset ≤ position → ¬ Covers before position := h.not_before
  have hlater : position < gap.endOffset + 1 → ¬ Covers later position :=
    (h.increasing hbacked).1.not_covers
  by_cases hinside : offset ≤ position ∧ position < offset + data.length
  · simp [hinside, hbefore hinside.1, hlater (by omega)]
  · simp [hinside, or_assoc]

theorem CurrentGap.backed (h : CurrentGap buffer offset before gap later)
    (hbacked : Backed limit buffer state) (hdata : 0 < data.length)
    (hfresh : state.Fresh offset data.length)
    (hlimit : limit < maxStreamOffset) (hfinish : offset + data.length ≤ limit)
    (hfirst : gap.beginOffset ≤ offset)
    (hlast : offset + data.length ≤ gap.endOffset)
    (hcapacity : offset + data.length ≤
      state.consumed + layout.maxBufferCapacityBytes)
    {blocks : Blocks UInt8} (timestamp : Nat)
    (hwritten : Written layout state.consumed buffer.blocks offset data
      blocks) :
    Backed limit (placed buffer before gap later blocks offset data timestamp)
      (state.arrive offset data) := by
  have hgaps : (placed buffer before gap later blocks offset data
      timestamp).gaps = before ++ gap.without offset (offset + data.length) ++
        later := by
    rw [← updateGapList_eq hfirst hlast (by omega)]
    rfl
  have hincreasing := hbacked.increasing
  rw [h.gaps] at hincreasing
  refine ⟨hbacked.consumed, ?_, ?_, fun position hposition => ?_,
    fun position hsettled => ?_, hwritten.shaped,
    fun position byte hunread hcontent => ?_, ?_⟩
  · rw [hgaps]
    exact hincreasing.without hfirst (by omega) hlast
  · rw [hgaps]
    exact h.last hbacked (by omega)
  · rw [hgaps, h.covers_without hbacked hdata hfirst hlast,
      Reassembly.settled_arrive, not_or, ← hbacked.gaps _ hposition]
  · rw [Reassembly.arrive_consumed]
    rcases (Reassembly.settled_arrive position).mp hsettled with hold | hnew
    · exact hbacked.bounded position hold
    · omega
  · rw [Reassembly.arrive_consumed] at hunread
    unfold Reassembly.arrive at hcontent
    dsimp only at hcontent
    split at hcontent
    next hinside =>
      have hcell := hwritten.holds (position - offset) (by omega)
      rwa [Nat.add_sub_cancel' hinside.1, hcontent] at hcell
    next houtside =>
      have := (hbacked.bounded position (.inr (by simp [hcontent]))).2
      exact hwritten.kept position byte hunread this houtside
        (hbacked.stored position byte hunread hcontent)
  · rw [Reassembly.card_waiting_arrive hfresh hfinish, ← hbacked.counted]
    rfl

end Arriving

theorem HoldsUnread.arrive {index : Nat}
    (h : HoldsUnread layout state index) (offset : Nat) (data : List UInt8) :
    HoldsUnread layout (state.arrive offset data) index := by
  obtain ⟨position, hunread, hsome, hindex⟩ := h
  refine ⟨position, hunread, ?_, hindex⟩
  unfold Reassembly.arrive
  dsimp only
  split
  next hinside =>
    rw [List.getElem?_eq_getElem (by omega)]
    rfl
  next => exact hsome

theorem Tidy.arrive {blocks : Blocks UInt8}
    (h : Tidy layout buffer.blocks state) (hunread : state.consumed ≤ offset)
    (hwritten : Written layout state.consumed buffer.blocks offset data
      blocks) :
    Tidy layout blocks (state.arrive offset data) := by
  intro index hallocated
  rcases hwritten.created index hallocated with
    hold | ⟨distance, hdistance, hindex⟩
  · rcases h index hold with hholds | ⟨hpos, hbehind, hhere, other, hother⟩
    · exact .inl (hholds.arrive offset data)
    · exact .inr ⟨hpos, hbehind, hhere, other, hother.arrive offset data⟩
  · refine .inl ⟨offset + distance, ?_, ?_, hindex⟩
    · exact Nat.le_trans hunread (Nat.le_add_right _ _)
    · unfold Reassembly.arrive
      dsimp only
      rw [if_pos (by omega), List.getElem?_eq_getElem (by omega)]
      rfl

theorem Framed.arrive {frames : FrameArrivalTimeMap}
    (h : Framed frames state) (hdata : 0 < data.length)
    (hfresh : state.Fresh offset data.length) (timestamp : Nat) :
    Framed (frames.insert offset ⟨data.length, timestamp⟩)
      (state.arrive offset data) := by
  have hunread : state.consumed ≤ offset := by
    by_contra hlt
    exact hfresh 0 hdata (.inl (by omega))
  obtain ⟨hordered, hat⟩ := FrameArrivalTimeMap.insert_spec h.ordered hunread
    (show 0 < (⟨data.length, timestamp⟩ : FrameInfo).length from hdata)
    (fun index hindex => by
      rw [← Option.not_isSome_iff_eq_none, h.arrived _ (by omega)]
      exact fun hsome => hfresh index hindex (.inr hsome))
  refine ⟨hordered, fun position hposition => ?_⟩
  rw [hat]
  unfold Reassembly.arrive
  dsimp only
  split
  next hinside =>
    rw [List.getElem?_eq_getElem (by omega)]
    simp
  next => exact h.arrived position hposition

inductive Arrival (layout : BufferLayout) (limit : Nat)
    (buffer : StreamSequencerBuffer layout) (state : Reassembly UInt8)
    (offset : Nat) (data : List UInt8) (timestamp : Nat) :
    QuicErrorCode → Nat → StreamSequencerBuffer layout → Prop
  | new {next : StreamSequencerBuffer layout} :
      state.Fresh offset data.length →
      offset + data.length ≤
        state.consumed + layout.maxBufferCapacityBytes →
      Represents limit next (state.arrive offset data) →
      next.frameArrivalTimeMap = buffer.frameArrivalTimeMap.insert offset
        ⟨data.length, timestamp⟩ →
      Arrival layout limit buffer state offset data timestamp
        .noError data.length next
  | duplicate :
      (∀ index < data.length, state.Settled (offset + index)) →
      Arrival layout limit buffer state offset data timestamp
        .noError 0 buffer
  | overlap :
      (∃ index < data.length, state.Settled (offset + index)) →
      (∃ index < data.length, ¬ state.Settled (offset + index)) →
      Arrival layout limit buffer state offset data timestamp
        .invalidStreamData 0 buffer
  | beyond :
      state.Fresh offset data.length →
      state.consumed + layout.maxBufferCapacityBytes < offset + data.length →
      Arrival layout limit buffer state offset data timestamp
        .internalError 0 buffer

theorem Represents.consumed_le (h : Represents limit buffer state) :
    state.consumed ≤ limit :=
  Reassembly.Readable.add_le (show state.Readable 0 from nofun)
    fun offset hsettled => (h.backed.bounded offset hsettled).1

theorem Represents.onStreamData (h : Represents limit buffer state)
    (hlimit : limit + layout.maxBufferCapacityBytes +
      layout.maxBufferCapacityBytes < maxStreamOffset)
    (hdata : data ≠ []) (hfinish : offset + data.length ≤ limit)
    (timestamp : Nat) :
    ∃ code buffered next,
      buffer.onStreamData offset data timestamp = .ok (code, buffered, next) ∧
      Arrival layout limit buffer state offset data timestamp code buffered
        next := by
  have hlength : 0 < data.length := List.length_pos_of_ne_nil hdata
  have hconsumed := h.consumed_le
  obtain ⟨before, gap, later, hcurrent⟩ :=
    h.backed.currentGap (show offset < maxStreamOffset by omega)
  obtain ⟨hlater, hsize⟩ := hcurrent.increasing h.backed
  have hreaches := hcurrent.reaches
  have hsettled : ∀ index < data.length, offset + index ≤ gap.endOffset →
      (state.Settled (offset + index) ↔ ¬ gap.Contains (offset + index)) :=
    fun index hindex hend => hcurrent.settled_iff h.backed
      (Nat.le_add_right _ _) hend (by omega)
  unfold StreamSequencerBuffer.onStreamData
  rw [if_neg (by simpa using hdata)]
  dsimp only
  rw [hcurrent.found, hcurrent.skipped, offsetSum_eq (by omega),
    h.backed.consumed, offsetSum_eq (by omega)]
  dsimp only
  split
  next hinside =>
    refine ⟨_, _, _, rfl, .duplicate fun index hindex => ?_⟩
    refine (hsettled index hindex (by omega)).mpr fun hcontains => ?_
    exact absurd hcontains.1 (by omega)
  next =>
    split
    next hover =>
      refine ⟨_, _, _, rfl, .overlap ⟨0, hlength, ?_⟩
        ⟨gap.beginOffset - offset, by omega, ?_⟩⟩
      · refine (hsettled 0 hlength (by omega)).mpr fun hcontains => ?_
        exact absurd hcontains.1 (by omega)
      · rw [hsettled _ (by omega) (by omega), not_not]
        exact ⟨by omega, by omega⟩
    next =>
      have hfirst : gap.beginOffset ≤ offset := by omega
      split
      next hover =>
        refine ⟨_, _, _, rfl, .overlap
          ⟨gap.endOffset - offset, by omega, ?_⟩ ⟨0, hlength, ?_⟩⟩
        · refine (hsettled _ (by omega) (by omega)).mpr fun hcontains => ?_
          exact absurd hcontains.2 (by omega)
        · rw [hsettled 0 hlength (by omega), not_not]
          exact ⟨by omega, by omega⟩
      next hlast =>
        have hfresh : state.Fresh offset data.length := by
          intro index hindex
          rw [hsettled index hindex (by omega), not_not]
          exact ⟨by omega, by omega⟩
        have hunread : state.consumed ≤ offset := by
          by_contra hlt
          exact hfresh 0 hlength (.inl (by omega))
        split
        next hbeyond => exact ⟨_, _, _, rfl, .beyond hfresh hbeyond⟩
        next hcapacity =>
          obtain ⟨blocks, hblocks, hwritten⟩ := writeBlocks_spec
            h.backed.shaped hunread (by omega)
            (by omega) (Nat.le_refl data.length)
          rw [hblocks, Outcome.ok_bind]
          refine ⟨_, _, _, rfl, .new hfresh (by omega) ⟨?_, ?_, ?_⟩ rfl⟩
          · have hbacked := hcurrent.backed h.backed hlength hfresh (by omega)
              hfinish hfirst (by omega) (by omega) timestamp hwritten
            rwa [placed, h.backed.consumed] at hbacked
          · exact h.tidy.arrive hunread hwritten
          · exact h.framed.arrive hlength hfresh timestamp

end RevSDK
