import Mathlib.Data.List.TakeDrop
import RevSDK.Quic.FrameListReassembly

/-!
# The operations of the frame list

Every operation of the frame list is one of the reassembly that it stands for.
-/

namespace RevSDK

open RevSDK.Foundation

variable {limit offset : Nat} {buffer : QuicFrameList}
  {state : Reassembly UInt8} {data : List UInt8}

structure InsertionPoint (frames : List FrameData) (offset : Nat)
    (before after : List FrameData) : Prop where
  split : frames = before ++ after
  ended : ∀ early ∈ before, early.offset + early.segment.length ≤ offset
  reaches : ∀ next, after.head? = some next →
    offset < next.offset + next.segment.length

theorem finish_le_last {lower : Nat} {frames : List FrameData}
    {last : FrameData} (h : InRow lower (frames ++ [last])) :
    ∀ frame ∈ frames ++ [last],
      frame.offset + frame.segment.length ≤
        last.offset + last.segment.length := by
  induction frames generalizing lower with
  | nil => simp
  | cons head frames ih =>
      intro frame hmem
      rcases List.mem_cons.mp hmem with rfl | hmem
      · have := h.2.2.lower_le (show last ∈ frames ++ [last] by simp)
        omega
      · exact ih h.2.2 frame hmem

theorem Lists.insertionPoint (h : Lists limit buffer state)
    (hlimit : limit < maxStreamOffset) (offset : Nat) :
    ∃ before after, buffer.findInsertionPoint offset = (before, after) ∧
      InsertionPoint buffer.frameList offset before after := by
  unfold QuicFrameList.findInsertionPoint
  cases hframes : buffer.frameList using List.reverseRecOn with
  | nil => exact ⟨[], [], rfl, rfl, nofun, nofun⟩
  | append_singleton frames last =>
      rw [List.getLast?_concat]
      dsimp only
      have hinRow := h.inRow
      rw [hframes] at hinRow
      have hfinish : ∀ frame ∈ frames ++ [last],
          frame.finish = frame.offset + frame.segment.length :=
        fun frame hmem => h.finish_eq hlimit (hframes ▸ hmem)
      split
      next hbehind =>
        rw [hfinish last (by simp)] at hbehind
        refine ⟨_, [], rfl, (List.append_nil _).symm, fun early hmem => ?_,
          nofun⟩
        exact Nat.le_trans (finish_le_last hinRow early hmem) hbehind
      next =>
        rw [List.span_eq_takeWhile_dropWhile]
        refine ⟨_, _, rfl, List.takeWhile_append_dropWhile.symm,
          fun early hmem => ?_, fun next hnext => ?_⟩
        · have hended := List.mem_takeWhile_imp hmem
          rw [decide_eq_true_eq,
            hfinish early (List.takeWhile_subset _ hmem)] at hended
          exact hended
        · have hmem := List.mem_of_mem_head? hnext
          have hnot := List.head?_dropWhile_not
            (fun frame : FrameData => decide (offset ≥ frame.finish))
            (frames ++ [last])
          rw [hnext] at hnot
          dsimp only at hnot
          rw [decide_eq_false_iff_not,
            hfinish next (List.dropWhile_subset _ hmem)] at hnot
          omega

theorem InsertionPoint.inRow_after {before after : List FrameData}
    {lower : Nat} (hsplit : InRow lower (before ++ after)) :
    InRow 0 after := by
  induction before generalizing lower with
  | nil => exact hsplit.mono (Nat.zero_le _)
  | cons head before ih => exact ih hsplit.2.2

theorem InsertionPoint.head_of_mem {before after : List FrameData}
    {frame : FrameData} {lower : Nat}
    (h : InsertionPoint buffer.frameList offset before after)
    (hinRow : InRow lower buffer.frameList)
    (hmem : frame ∈ buffer.frameList) (hstart : frame.offset = offset) :
    after.head? = some frame := by
  rw [h.split] at hinRow hmem
  have hsize := (hinRow.lower_le hmem).2
  have hafter := inRow_after hinRow
  rcases List.mem_append.mp hmem with hearly | hlate
  · have := h.ended frame hearly
    omega
  · cases after with
    | nil => simp at hlate
    | cons next later =>
        rcases List.mem_cons.mp hlate with rfl | hlater
        · rfl
        · have := (hafter.2.2.lower_le hlater).1
          have := h.reaches next rfl
          omega

inductive FrameArrival (limit : Nat) (buffer : QuicFrameList)
    (state : Reassembly UInt8) (offset : Nat) (data : List UInt8) :
    QuicErrorCode → Nat → QuicFrameList → Prop
  | new {next : QuicFrameList} {before after : List FrameData}
      {timestamp : Nat} :
      state.Fresh offset data.length →
      buffer.frameList = before ++ after →
      next.frameList = before ++ ⟨offset, data, timestamp⟩ :: after →
      Lists limit next (state.arrive offset data) →
      next.numBytesBuffered = buffer.numBytesBuffered + data.length →
      FrameArrival limit buffer state offset data .noError data.length next
  | duplicate :
      offset < state.consumed ∨
        (∃ frame ∈ buffer.frameList, frame.offset = offset) →
      FrameArrival limit buffer state offset data .noError 0 buffer
  | overlap :
      state.consumed ≤ offset →
      (∀ frame ∈ buffer.frameList, frame.offset ≠ offset) →
      (∃ index < data.length, state.Settled (offset + index)) →
      FrameArrival limit buffer state offset data .invalidStreamData 0 buffer

section Arriving

variable {before after : List FrameData}

theorem Lists.settled_of_overlap (h : Lists limit buffer state)
    (hlimit : limit < maxStreamOffset) (hdata : data ≠ [])
    (hfinish : offset + data.length ≤ limit)
    (hpoint : InsertionPoint buffer.frameList offset before after)
    (hunread : state.consumed ≤ offset)
    (hover : QuicFrameList.frameOverlapsBufferedData offset data.length
      after = true) :
    ∃ index < data.length, state.Settled (offset + index) := by
  have hlength := List.length_pos_of_ne_nil hdata
  cases after with
  | nil => simp [QuicFrameList.frameOverlapsBufferedData] at hover
  | cons next later =>
      have hmem : next ∈ buffer.frameList := by simp [hpoint.split]
      have hafter := InsertionPoint.inRow_after (hpoint.split ▸ h.inRow)
      have hsize := (hafter.lower_le List.mem_cons_self).2
      have hreaches := hpoint.reaches next rfl
      have hlower := (h.inRow.lower_le hmem).1
      unfold QuicFrameList.frameOverlapsBufferedData at hover
      dsimp only at hover
      rw [offsetSum_eq (by omega), h.finish_eq hlimit hmem,
        Bool.or_eq_true, decide_eq_true_eq, decide_eq_true_eq] at hover
      rcases hover with hbefore | hinside
      · refine ⟨next.offset - offset, by omega, ?_⟩
        rw [Nat.add_sub_cancel' (by omega), h.settled_iff hlower]
        exact isSome_byteAt_of_mem hmem (Nat.le_refl _) (by omega)
      · refine ⟨0, hlength, (h.settled_iff (by omega)).mpr ?_⟩
        exact isSome_byteAt_of_mem hmem (by omega) (by omega)

theorem Lists.inRow_of_apart (h : Lists limit buffer state)
    (hlimit : limit < maxStreamOffset)
    (hfinish : offset + data.length ≤ limit)
    (hpoint : InsertionPoint buffer.frameList offset before after)
    (hapart : ¬ QuicFrameList.frameOverlapsBufferedData offset data.length
      after = true) : InRow (offset + data.length) after := by
  cases after with
  | nil => trivial
  | cons next later =>
      have hmem : next ∈ buffer.frameList := by simp [hpoint.split]
      have hafter := InsertionPoint.inRow_after (hpoint.split ▸ h.inRow)
      have hreaches := hpoint.reaches next rfl
      unfold QuicFrameList.frameOverlapsBufferedData at hapart
      dsimp only at hapart
      rw [offsetSum_eq (by omega), h.finish_eq hlimit hmem,
        Bool.or_eq_true, decide_eq_true_eq, decide_eq_true_eq] at hapart
      exact ⟨by omega, hafter.2⟩

theorem Lists.insert (h : Lists limit buffer state) (hdata : data ≠ [])
    (hfinish : offset + data.length ≤ limit)
    (hpoint : InsertionPoint buffer.frameList offset before after)
    (hunread : state.consumed ≤ offset)
    (hbehind : InRow (offset + data.length) after) (timestamp : Nat) :
    state.Fresh offset data.length ∧
      Lists limit { buffer with
        frameList := before ++ ⟨offset, data, timestamp⟩ :: after
        numBytesBuffered := buffer.numBytesBuffered + data.length }
        (state.arrive offset data) := by
  have hinRow := h.inRow
  rw [hpoint.split] at hinRow
  obtain ⟨hrow, hbytes⟩ := inRow_insert hinRow hdata hunread hpoint.ended
    hbehind timestamp
  refine ⟨fun index hindex => ?_, h.consumed, hrow,
    fun position hposition => ?_, fun position hsettled => ?_⟩
  · rw [h.settled_iff (by omega)]
    intro hsome
    obtain ⟨frame, hmem, hge, hlt⟩ := exists_mem_of_isSome hsome
    rw [hpoint.split] at hmem
    rcases List.mem_append.mp hmem with hearly | hlate
    · have := hpoint.ended frame hearly
      omega
    · have := (hbehind.lower_le hlate).1
      omega
  · rw [Reassembly.arrive_consumed] at hposition
    dsimp only
    rw [hbytes, ← hpoint.split, ← h.waiting position hposition]
    rfl
  · rcases (Reassembly.settled_arrive position).mp hsettled with hold | hinside
    · exact h.bounded position hold
    · omega

theorem Lists.onStreamData (h : Lists limit buffer state)
    (hlimit : limit < maxStreamOffset) (hdata : data ≠ [])
    (hfinish : offset + data.length ≤ limit) (timestamp : Nat) :
    ∃ code buffered next,
      buffer.onStreamData offset data timestamp = (code, buffered, next) ∧
      FrameArrival limit buffer state offset data code buffered next := by
  obtain ⟨before, after, hfound, hpoint⟩ := h.insertionPoint hlimit offset
  unfold QuicFrameList.onStreamData
  rw [hfound]
  dsimp only
  split
  next hduplicate =>
    refine ⟨_, _, _, rfl, .duplicate ?_⟩
    unfold QuicFrameList.isDuplicate at hduplicate
    rw [h.consumed, Bool.or_eq_true, decide_eq_true_eq,
      Option.any_eq_true] at hduplicate
    refine hduplicate.imp_right ?_
    rintro ⟨frame, hhead, hsame⟩
    refine ⟨frame, ?_, (by simpa using hsame : offset = frame.offset).symm⟩
    rw [hpoint.split]
    exact List.mem_append_right _ (List.mem_of_mem_head? hhead)
  next hnew =>
    unfold QuicFrameList.isDuplicate at hnew
    rw [h.consumed, Bool.or_eq_true, decide_eq_true_eq, not_or,
      Nat.not_lt] at hnew
    obtain ⟨hunread, hstarts⟩ := hnew
    have hnone : ∀ frame ∈ buffer.frameList, frame.offset ≠ offset := by
      intro frame hmem hsame
      rw [hpoint.head_of_mem h.inRow hmem hsame] at hstarts
      simp [hsame] at hstarts
    split
    next hover =>
      exact ⟨_, _, _, rfl, .overlap hunread hnone
        (h.settled_of_overlap hlimit hdata hfinish hpoint hunread hover)⟩
    next hapart =>
      obtain ⟨hfresh, hlists⟩ := h.insert hdata hfinish hpoint hunread
        (h.inRow_of_apart hlimit hfinish hpoint hapart) timestamp
      exact ⟨_, _, _, rfl, .new hfresh hpoint.split rfl hlists rfl⟩

end Arriving

theorem Lists.markConsumed (h : Lists limit buffer state)
    (hlimit : limit < maxStreamOffset) {count : Nat}
    (hcount : state.Readable count) :
    ∃ next, buffer.markConsumed count = (true, next) ∧
      Lists limit next (state.consume count) ∧
      Passed buffer (state.consumed + count) count next := by
  have hbound := hcount.add_le h.bounded
  obtain ⟨next, hloop, hnext⟩ := h.consumeFrames hlimit hcount
  refine ⟨next, ?_, hnext⟩
  unfold QuicFrameList.markConsumed
  rw [h.consumed, offsetSum_eq (by omega), ← hloop, h.consumed]

theorem Lists.readv (h : Lists limit buffer state)
    (destinations : List Nat) :
    ∃ bytes next, buffer.readv destinations = .ok (bytes, next) ∧
      Holds state.content state.consumed bytes ∧
      (∀ count, state.Front count →
        bytes.length = min destinations.sum count) ∧
      Lists limit next (state.consume bytes.length) ∧
      Passed buffer (state.consumed + bytes.length) bytes.length next := by
  obtain ⟨bytes, cursor, hloop, hlength, hbytes, hnext, hpassed⟩ :=
    (show Copying limit ⟨buffer, 0⟩ state from ⟨h, .inl rfl⟩).readFrames
      h.front (Nat.le_refl (destinations.length + buffer.frameList.length))
  refine ⟨bytes, cursor.finish, ?_, hbytes, fun count hcount => ?_, ?_, ?_⟩
  · unfold QuicFrameList.readv
    rw [hloop]
    rfl
  · rw [hlength, hcount.unique h.front]
    rfl
  · simpa using hnext
  · simpa using hpassed

theorem Lists.region (h : Lists limit buffer state) :
    state.Front 0 ∧ buffer.getReadableRegion = none ∨
    ∃ bytes timestamp, buffer.getReadableRegion = some (bytes, timestamp) ∧
      bytes ≠ [] ∧ Holds state.content state.consumed bytes := by
  have hfront := h.front
  have hinRow := h.inRow
  unfold QuicFrameList.getReadableRegion
  cases hframes : buffer.frameList with
  | nil =>
      rw [hframes, runLength] at hfront
      exact .inl ⟨hfront, rfl⟩
  | cons frame rest =>
      rw [hframes] at hinRow
      dsimp only
      rw [h.consumed]
      by_cases hstart : frame.offset = state.consumed
      · rw [if_neg (not_not.mpr hstart)]
        exact .inr ⟨_, _, rfl, hinRow.2.1, h.holds_first hframes hstart⟩
      · rw [hframes, runLength, if_neg hstart] at hfront
        rw [if_pos hstart]
        exact .inl ⟨hfront, rfl⟩

theorem holds_readableFrames {content : Nat → Option UInt8}
    {frames : List FrameData} {position : Nat} (iovLeft : Nat)
    (hinRow : InRow position frames)
    (hcontent : ∀ offset, position ≤ offset →
      content offset = byteAt frames offset) :
    let regions := QuicFrameList.readableFrames position frames iovLeft
    regions.length ≤ iovLeft ∧ [] ∉ regions ∧
      Holds content position regions.flatten := by
  induction frames generalizing position iovLeft with
  | nil => simp [QuicFrameList.readableFrames]
  | cons frame rest ih =>
      cases iovLeft with
      | zero => simp [QuicFrameList.readableFrames]
      | succ iovLeft =>
          obtain ⟨hlower, hsize, hrest⟩ := hinRow
          unfold QuicFrameList.readableFrames
          by_cases hstart : frame.offset = position
          · subst hstart
            obtain ⟨hcount, hnonempty, hbytes⟩ := ih iovLeft
              hrest (fun offset hoffset => by
                rw [hcontent offset (by omega), byteAt_cons_ge hoffset])
            rw [if_neg (not_not.mpr rfl)]
            refine ⟨by simpa using hcount, ?_, ?_⟩
            · rw [List.mem_cons, not_or]
              exact ⟨Ne.symm hsize, hnonempty⟩
            · rw [List.flatten_cons, holds_append]
              refine ⟨fun index hindex => ?_, hbytes⟩
              rw [hcontent _ (Nat.le_add_right _ _), byteAt_first hindex]
          · rw [if_pos hstart]
            simp

theorem Lists.flush (h : Lists limit buffer state)
    (hlimit : limit < maxStreamOffset) :
    ∃ finish next, state.Ends finish ∧
      buffer.flushBufferedFrames = (finish - state.consumed, next) ∧
      Lists limit next (state.skipTo finish) := by
  unfold QuicFrameList.flushBufferedFrames
  cases hframes : buffer.frameList using List.reverseRecOn with
  | nil =>
      have hsettled : ∀ offset, state.Settled offset →
          offset < state.consumed := by
        intro offset hsettled
        by_contra hunread
        rw [h.settled_iff (by omega), hframes] at hsettled
        simp [byteAt] at hsettled
      refine ⟨state.consumed, buffer, ⟨Nat.le_refl _, hsettled, .inl rfl⟩,
        by simp, h.consumed, by rw [hframes]; trivial,
        fun offset hunread => ?_, fun offset hbelow => ?_⟩
      · rw [Reassembly.skipTo_consumed] at hunread
        rw [hframes]
        unfold Reassembly.skipTo
        dsimp only
        rw [if_neg (by omega)]
        rfl
      · exact h.bounded offset (.inl (Reassembly.settled_skipTo.mp hbelow))
  | append_singleton frames last =>
      have hmem : last ∈ buffer.frameList := by simp [hframes]
      have hinRow := h.inRow
      obtain ⟨hlower, hsize⟩ := hinRow.lower_le hmem
      have hends := h.finish_le hmem
      rw [hframes] at hinRow
      rw [List.getLast?_concat]
      dsimp only
      rw [h.finish_eq hlimit hmem, h.consumed]
      refine ⟨_, _, ⟨by omega, fun offset hsettled => ?_, .inr ?_⟩, rfl,
        rfl, trivial, fun offset hunread => ?_, fun offset hbelow => ?_⟩
      · by_contra hge
        rw [h.settled_iff (by omega)] at hsettled
        obtain ⟨frame, hframe, -, hlt⟩ := exists_mem_of_isSome hsettled
        have := finish_le_last hinRow frame (hframes ▸ hframe)
        omega
      · rw [h.settled_iff (by omega)]
        exact isSome_byteAt_of_mem hmem (by omega) (by omega)
      · rw [Reassembly.skipTo_consumed] at hunread
        unfold Reassembly.skipTo
        dsimp only
        rw [if_neg (by omega)]
        rfl
      · have := Reassembly.settled_skipTo.mp hbelow
        omega

theorem Lists.clear (h : Lists limit buffer state) :
    Lists limit buffer.clear (state.skipTo state.consumed) where
  consumed := h.consumed
  inRow := trivial
  waiting offset hunread := by
    rw [Reassembly.skipTo_consumed] at hunread
    unfold Reassembly.skipTo
    dsimp only
    rw [if_neg (by omega)]
    rfl
  bounded offset hbelow :=
    h.bounded offset (.inl (Reassembly.settled_skipTo.mp hbelow))

theorem lists_new : Lists limit {} .start where
  consumed := rfl
  inRow := trivial
  waiting _ _ := rfl
  bounded offset hsettled := by
    rcases hsettled with hlt | hsome
    · exact absurd hlt (Nat.not_lt_zero _)
    · simp [Reassembly.start] at hsome

theorem Lists.hasBytesToRead_eq (h : Lists limit buffer state) :
    buffer.hasBytesToRead =
      decide (0 < runLength state.consumed buffer.frameList) := by
  unfold QuicFrameList.hasBytesToRead
  have hinRow := h.inRow
  cases hframes : buffer.frameList with
  | nil => simp [runLength]
  | cons frame rest =>
      rw [hframes] at hinRow
      have := List.length_pos_of_ne_nil hinRow.2.1
      rw [List.head?_cons, Option.any_some, h.consumed, runLength]
      by_cases hstart : frame.offset = state.consumed
      · rw [if_pos hstart]
        simp only [hstart, beq_self_eq_true]
        exact (decide_eq_true (by omega)).symm
      · simp [hstart]

theorem Lists.readableFrames_eq_nil_iff (h : Lists limit buffer state)
    {iovCount : Nat} (hiov : 0 < iovCount) :
    QuicFrameList.readableFrames state.consumed buffer.frameList iovCount =
      [] ↔ state.Front 0 := by
  obtain ⟨-, hnonempty, hbytes⟩ := holds_readableFrames iovCount h.inRow
    h.waiting
  have hfront := h.front
  constructor
  · intro hnone
    cases hframes : buffer.frameList with
    | nil =>
        rw [hframes] at hfront
        exact hfront
    | cons frame rest =>
        obtain ⟨iovLeft, rfl⟩ := Nat.exists_eq_add_of_lt hiov
        rw [hframes] at hnone hfront
        by_cases hstart : frame.offset = state.consumed
        · simp [QuicFrameList.readableFrames, hstart] at hnone
        · rwa [runLength, if_neg hstart] at hfront
  · intro hzero
    by_contra hsome
    have hpos : 0 < (QuicFrameList.readableFrames state.consumed
        buffer.frameList iovCount).flatten.length := by
      refine List.length_pos_of_ne_nil fun hflat => hsome ?_
      rw [List.flatten_eq_nil_iff] at hflat
      refine List.eq_nil_iff_forall_not_mem.mpr fun region hmem => ?_
      exact hnonempty (hflat region hmem ▸ hmem)
    have := (Reassembly.Holds.readable hbytes).le_front hzero
    omega

theorem quicFrameList_implements (hlimit : limit < maxStreamOffset) :
    Implements limit (Lists limit) where
  consumed h := h.consumed
  accept h offset data timestamp hdata hfinish := by
    obtain ⟨code, buffered, next, hdone, harrival⟩ :=
      h.onStreamData hlimit hdata hfinish timestamp
    refine ⟨code, buffered, next, congrArg Except.ok hdone, ?_⟩
    cases harrival with
    | new hfresh _ _ hnext _ => exact .inl ⟨rfl, rfl, hfresh, hnext⟩
    | duplicate => exact .inr ⟨rfl, rfl⟩
    | overlap => exact .inr ⟨rfl, rfl⟩
  front h := ⟨_, h.front, congrArg Except.ok h.hasBytesToRead_eq⟩
  regions h iovCount hiov := by
    obtain ⟨hcount, hnonempty, hbytes⟩ := holds_readableFrames iovCount
      h.inRow h.waiting
    refine ⟨_, rfl, ?_⟩
    unfold QuicFrameList.getReadableRegions
    rw [h.consumed]
    exact ⟨hcount, hnonempty, hbytes, h.readableFrames_eq_nil_iff hiov⟩
  region h := by
    rcases h.region with
      ⟨hzero, hnone⟩ | ⟨bytes, timestamp, hregion, hne, hbytes⟩
    · exact .inl ⟨hzero, congrArg Except.ok hnone⟩
    · exact .inr ⟨bytes, timestamp, congrArg Except.ok hregion, hne, hbytes⟩
  consume {buffer state} h count hcount := by
    obtain ⟨next, hdone, hnext, -⟩ := h.markConsumed hlimit hcount
    exact ⟨next, congrArg Except.ok hdone, hnext⟩
  read {buffer state} h destinations := by
    obtain ⟨bytes, next, hread, hbytes, hexact, hnext, -⟩ :=
      h.readv destinations
    exact ⟨bytes, next, hread, hbytes, hexact, hnext⟩
  flush h := by
    obtain ⟨finish, next, hends, hflush, hnext⟩ := h.flush hlimit
    exact ⟨finish, next, hends, congrArg Except.ok hflush, hnext⟩
  clears h := h.clear

end RevSDK
