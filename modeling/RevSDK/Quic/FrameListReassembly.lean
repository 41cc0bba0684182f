import Mathlib.Data.List.TakeWhile
import RevSDK.Quic.QuicFrameList

/-!
# The frame list reassembles its stream

`Lists` ties a frame list to the reassembly it stands for: what waits to be
read is what its frames hold.
-/

namespace RevSDK

open RevSDK.Foundation

def InRow : Nat → List FrameData → Prop
  | _, [] => True
  | lower, frame :: rest =>
      lower ≤ frame.offset ∧ frame.segment ≠ [] ∧
        InRow (frame.offset + frame.segment.length) rest

def byteAt : List FrameData → Nat → Option UInt8
  | [], _ => none
  | frame :: rest, offset =>
      if frame.offset ≤ offset ∧ offset < frame.offset + frame.segment.length
      then frame.segment[offset - frame.offset]?
      else byteAt rest offset

def runLength : Nat → List FrameData → Nat
  | _, [] => 0
  | offset, frame :: rest =>
      if frame.offset = offset then
        frame.segment.length + runLength (offset + frame.segment.length) rest
      else 0

section Rows

variable {lower offset position : Nat} {frame : FrameData}
  {frames before after rest : List FrameData} {data : List UInt8}

theorem InRow.mono {lower' : Nat} (h : InRow lower frames)
    (hle : lower' ≤ lower) : InRow lower' frames := by
  cases frames with
  | nil => trivial
  | cons frame rest => exact ⟨Nat.le_trans hle h.1, h.2⟩

theorem byteAt_of_lt (h : InRow lower frames) (hlt : position < lower) :
    byteAt frames position = none := by
  induction frames generalizing lower with
  | nil => rfl
  | cons frame rest ih =>
      obtain ⟨hlower, -, hrest⟩ := h
      unfold byteAt
      rw [if_neg (by omega)]
      exact ih hrest (by omega)

theorem byteAt_cons_ge (hge : frame.offset + frame.segment.length ≤ position) :
    byteAt (frame :: rest) position = byteAt rest position := by
  conv_lhs => unfold byteAt
  rw [if_neg (by omega)]

theorem byteAt_first {index : Nat} (hindex : index < frame.segment.length) :
    byteAt (frame :: rest) (frame.offset + index) = frame.segment[index]? := by
  unfold byteAt
  rw [if_pos (by omega), Nat.add_sub_cancel_left]

theorem InRow.lower_le (h : InRow lower frames) (hmem : frame ∈ frames) :
    lower ≤ frame.offset ∧ 0 < frame.segment.length := by
  induction frames generalizing lower with
  | nil => simp at hmem
  | cons head rest ih =>
      obtain ⟨hlower, hsize, hrest⟩ := h
      rcases List.mem_cons.mp hmem with rfl | hmem
      · exact ⟨hlower, List.length_pos_of_ne_nil hsize⟩
      · have := ih hrest hmem
        exact ⟨by omega, this.2⟩

theorem isSome_byteAt_of_mem (hmem : frame ∈ frames)
    (hge : frame.offset ≤ position)
    (hlt : position < frame.offset + frame.segment.length) :
    (byteAt frames position).isSome := by
  induction frames with
  | nil => simp at hmem
  | cons head rest ih =>
      unfold byteAt
      split
      next hinside =>
        rw [List.getElem?_eq_getElem (by omega)]
        rfl
      next houtside =>
        rcases List.mem_cons.mp hmem with rfl | hmem
        · omega
        · exact ih hmem

theorem exists_mem_of_isSome (hsome : (byteAt frames position).isSome) :
    ∃ frame ∈ frames, frame.offset ≤ position ∧
      position < frame.offset + frame.segment.length := by
  induction frames with
  | nil => simp [byteAt] at hsome
  | cons head rest ih =>
      unfold byteAt at hsome
      split at hsome
      next hinside => exact ⟨head, List.mem_cons_self, hinside⟩
      next =>
        obtain ⟨frame, hmem, hinside⟩ := ih hsome
        exact ⟨frame, List.mem_cons_of_mem _ hmem, hinside⟩

theorem inRow_insert (h : InRow lower (before ++ after)) (hdata : data ≠ [])
    (hlower : lower ≤ offset)
    (hbefore : ∀ early ∈ before,
      early.offset + early.segment.length ≤ offset)
    (hafter : InRow (offset + data.length) after) (timestamp : Nat) :
    InRow lower (before ++ ⟨offset, data, timestamp⟩ :: after) ∧
      ∀ position, byteAt (before ++ ⟨offset, data, timestamp⟩ :: after)
          position =
        if offset ≤ position ∧ position < offset + data.length then
          data[position - offset]?
        else byteAt (before ++ after) position := by
  induction before generalizing lower with
  | nil => exact ⟨⟨hlower, hdata, hafter⟩, fun _ => rfl⟩
  | cons head before ih =>
      obtain ⟨hhead, hsize, hrest⟩ := h
      have hends := hbefore head List.mem_cons_self
      obtain ⟨hinRow, hat⟩ := ih hrest hends
        (fun early hmem => hbefore early (List.mem_cons_of_mem _ hmem))
      refine ⟨⟨hhead, hsize, hinRow⟩, fun position => ?_⟩
      simp only [List.cons_append]
      unfold byteAt
      rw [hat]
      split <;> split <;> first | rfl | omega

theorem runLength_spec (h : InRow offset frames) :
    (∀ index < runLength offset frames,
      (byteAt frames (offset + index)).isSome) ∧
      byteAt frames (offset + runLength offset frames) = none := by
  induction frames generalizing offset with
  | nil => exact ⟨nofun, rfl⟩
  | cons frame rest ih =>
      obtain ⟨hlower, hsize, hrest⟩ := h
      unfold runLength
      split
      next hstart =>
        subst hstart
        obtain ⟨hsome, hnone⟩ := ih hrest
        refine ⟨fun index hindex => ?_, ?_⟩
        · by_cases hhere : index < frame.segment.length
          · exact isSome_byteAt_of_mem List.mem_cons_self (by omega)
              (by omega)
          · rw [byteAt_cons_ge (by omega)]
            have := hsome (index - frame.segment.length) (by omega)
            rwa [Nat.add_assoc, Nat.add_sub_cancel' (by omega)] at this
        · rw [byteAt_cons_ge (by omega), ← Nat.add_assoc]
          exact hnone
      next hgap =>
        refine ⟨nofun, ?_⟩
        unfold byteAt
        rw [if_neg (by omega)]
        exact byteAt_of_lt hrest (by omega)

end Rows

structure Lists (limit : Nat) (buffer : QuicFrameList)
    (state : Reassembly UInt8) : Prop where
  consumed : buffer.totalBytesRead = state.consumed
  inRow : InRow state.consumed buffer.frameList
  waiting : ∀ offset, state.consumed ≤ offset →
    state.content offset = byteAt buffer.frameList offset
  bounded : ∀ offset, state.Settled offset → offset < limit

structure Passed (buffer : QuicFrameList) (finish count : Nat)
    (next : QuicFrameList) : Prop where
  later : ∀ frame ∈ buffer.frameList, finish ≤ frame.offset →
    frame ∈ next.frameList
  buffered : next.numBytesBuffered = buffer.numBytesBuffered - count

section Reading

variable {limit : Nat} {buffer : QuicFrameList} {state : Reassembly UInt8}
  {frame : FrameData} {rest : List FrameData} {count : Nat}

theorem Lists.front (h : Lists limit buffer state) :
    state.Front (runLength state.consumed buffer.frameList) := by
  obtain ⟨hsome, hnone⟩ := runLength_spec h.inRow
  refine ⟨fun index hindex => ?_, ?_⟩
  · rw [h.waiting _ (Nat.le_add_right _ _)]
    exact hsome index hindex
  · rw [h.waiting _ (Nat.le_add_right _ _)]
    exact hnone

theorem Lists.settled_iff (h : Lists limit buffer state) {offset : Nat}
    (hunread : state.consumed ≤ offset) :
    state.Settled offset ↔ (byteAt buffer.frameList offset).isSome := by
  rw [← h.waiting offset hunread]
  exact ⟨fun hsettled => hsettled.resolve_left (by omega), .inr⟩

theorem Lists.finish_le (h : Lists limit buffer state)
    (hmem : frame ∈ buffer.frameList) :
    frame.offset + frame.segment.length ≤ limit := by
  obtain ⟨hlower, hsize⟩ := h.inRow.lower_le hmem
  have hsome := isSome_byteAt_of_mem hmem
    (show frame.offset ≤ frame.offset + frame.segment.length - 1 by omega)
    (by omega)
  have := h.bounded _ ((h.settled_iff (by omega)).mpr hsome)
  omega

theorem Lists.finish_eq (h : Lists limit buffer state)
    (hlimit : limit < maxStreamOffset) (hmem : frame ∈ buffer.frameList) :
    frame.finish = frame.offset + frame.segment.length := by
  have := h.finish_le hmem
  exact offsetSum_eq (by omega)

theorem Lists.holds_first (h : Lists limit buffer state)
    (hframes : buffer.frameList = frame :: rest)
    (hstart : frame.offset = state.consumed) :
    Holds state.content state.consumed frame.segment := by
  intro index hindex
  rw [h.waiting _ (Nat.le_add_right _ _), hframes, ← hstart,
    byteAt_first hindex]

theorem Lists.cut (h : Lists limit buffer state)
    (hframes : buffer.frameList = frame :: rest)
    (hstart : frame.offset = state.consumed)
    (hcount : count ≤ frame.segment.length) (buffered : Nat) :
    Lists limit
      { frameList :=
          if frame.segment.length = count then rest
          else ⟨frame.offset + count, frame.segment.drop count,
            frame.timestamp⟩ :: rest
        totalBytesRead := buffer.totalBytesRead + count
        numBytesBuffered := buffered } (state.consume count) := by
  have hinRow := h.inRow
  rw [hframes] at hinRow
  obtain ⟨hlower, hsize, hrest⟩ := hinRow
  have hreadable : state.Readable count := by
    have := (h.holds_first hframes hstart).take count
    have hlength : (frame.segment.take count).length = count := by
      rw [List.length_take]
      omega
    have hreadable := Reassembly.Holds.readable this
    rwa [hlength] at hreadable
  refine ⟨?_, ?_, fun offset hunread => ?_, fun offset hsettled => ?_⟩
  · rw [Reassembly.consume_consumed, h.consumed]
  · rw [Reassembly.consume_consumed]
    dsimp only
    split
    · exact hrest.mono (by omega)
    · refine ⟨by dsimp only; omega, ?_, hrest.mono ?_⟩
      · exact List.ne_nil_of_length_pos (by rw [List.length_drop]; omega)
      · dsimp only
        rw [List.length_drop]
        omega
  · rw [Reassembly.consume_consumed] at hunread
    rw [Reassembly.consume_content, h.waiting offset (by omega), hframes]
    dsimp only
    split
    next hall => exact byteAt_cons_ge (by omega)
    next hpart =>
      unfold byteAt
      dsimp only
      rw [List.length_drop]
      split
      next hinside =>
        rw [if_pos (by omega), List.getElem?_drop]
        congr 1
        omega
      next houtside => rw [if_neg (by omega)]
  · exact h.bounded offset
      ((Reassembly.settled_consume hreadable offset).mp hsettled)

theorem Lists.dropFirst (h : Lists limit buffer state)
    (hframes : buffer.frameList = frame :: rest)
    (hstart : frame.offset = state.consumed) (buffered : Nat) :
    Lists limit ⟨rest, buffer.totalBytesRead + frame.segment.length, buffered⟩
      (state.consume frame.segment.length) := by
  have hcut := h.cut hframes hstart (Nat.le_refl _) buffered
  rwa [if_pos rfl] at hcut

theorem runLength_le {offset : Nat} {frames : List FrameData} {readable : Nat}
    (hframes : frames = frame :: rest) (hstart : frame.offset = offset)
    (hrun : runLength offset frames = readable) :
    frame.segment.length ≤ readable := by
  rw [hframes, runLength, if_pos hstart] at hrun
  omega

theorem Lists.next_offset (h : Lists limit buffer state)
    (hreadable : state.Readable count) (hpos : 0 < count) :
    ∃ frame rest, buffer.frameList = frame :: rest ∧
      frame.offset = state.consumed := by
  have hle := hreadable.le_front h.front
  cases hframes : buffer.frameList with
  | nil =>
      rw [hframes, runLength] at hle
      omega
  | cons frame rest =>
      refine ⟨frame, rest, rfl, ?_⟩
      by_contra hgap
      rw [hframes, runLength, if_neg hgap] at hle
      omega

/-- The loop of `MarkConsumed`, by induction on the frames. -/
theorem Lists.consumeFrames (h : Lists limit buffer state)
    (hlimit : limit < maxStreamOffset) (hreadable : state.Readable count) :
    ∃ next, QuicFrameList.consumeFrames (state.consumed + count)
        buffer.frameList buffer.totalBytesRead buffer.numBytesBuffered =
          (true, next) ∧ Lists limit next (state.consume count) ∧
      Passed buffer (state.consumed + count) count next := by
  obtain ⟨frames, total, buffered⟩ := buffer
  obtain rfl : total = state.consumed := h.consumed
  induction frames generalizing state count buffered with
  | nil =>
      have hnone := hreadable.le_front h.front
      obtain rfl : count = 0 := by simpa [runLength] using hnone
      exact ⟨_, rfl, h, nofun, rfl⟩
  | cons frame rest ih =>
      unfold QuicFrameList.consumeFrames
      dsimp only
      by_cases hnone : count = 0
      · rw [if_pos (by omega), hnone]
        exact ⟨_, rfl, h, fun _ hmem _ => hmem, rfl⟩
      · obtain ⟨first, others, hframes, hstart⟩ :=
          h.next_offset hreadable (by omega)
        obtain ⟨rfl, rfl⟩ := List.cons.inj hframes
        dsimp only at hstart ih
        rw [if_neg (by omega), if_neg (by omega),
          h.finish_eq hlimit List.mem_cons_self]
        split
        next hwhole =>
          have hdropped := h.dropFirst rfl hstart
            (buffered - frame.segment.length)
          have hmore : (state.consume frame.segment.length).Readable
              (count - frame.segment.length) := by
            intro index hindex
            have := hreadable (frame.segment.length + index) (by omega)
            rwa [← Nat.add_assoc] at this
          obtain ⟨next, hloop, hnext, hlater, hbuffered⟩ :=
            ih hmore _ hdropped
          rw [Reassembly.consume_consumed, Nat.add_assoc,
            Nat.add_sub_cancel' (by omega)] at hloop hlater
          rw [Reassembly.consume_consume,
            Nat.add_sub_cancel' (by omega)] at hnext
          refine ⟨next, hloop, hnext, fun later hmem hbehind => ?_, ?_⟩
          · rcases List.mem_cons.mp hmem with rfl | hmem
            · omega
            · exact hlater later hmem hbehind
          · rw [hbuffered]
            dsimp only
            omega
        next hpart =>
          have hcut := h.cut rfl hstart
            (show count ≤ frame.segment.length by omega) (buffered - count)
          rw [if_neg (by omega)] at hcut
          rw [show state.consumed + count - frame.offset = count by omega]
          rw [hstart] at hcut
          refine ⟨_, rfl, hcut, fun later hmem hbehind => ?_, rfl⟩
          rcases List.mem_cons.mp hmem with rfl | hmem
          · omega
          · exact List.mem_cons_of_mem _ hmem

structure Copying (limit : Nat) (cursor : QuicFrameList.ReadCursor)
    (state : Reassembly UInt8) : Prop where
  lists : Lists limit cursor.buffer state
  inside : cursor.frameOffset = 0 ∨
    ∃ frame rest, cursor.buffer.frameList = frame :: rest ∧
      frame.offset = state.consumed ∧
      cursor.frameOffset < frame.segment.length

theorem Copying.finish {cursor : QuicFrameList.ReadCursor}
    (h : Copying limit cursor state) :
    Lists limit cursor.finish (state.consume cursor.frameOffset) ∧
      Passed cursor.buffer (state.consumed + cursor.frameOffset)
        cursor.frameOffset cursor.finish := by
  unfold QuicFrameList.ReadCursor.finish
  split
  next hzero =>
    rw [hzero]
    exact ⟨h.lists, fun _ hmem _ => hmem, rfl⟩
  next hpart =>
    obtain ⟨frame, rest, hframes, hstart, hlt⟩ := h.inside.resolve_left hpart
    have hcut := h.lists.cut hframes hstart hlt.le
      (cursor.buffer.numBytesBuffered - cursor.frameOffset)
    rw [if_neg (by omega)] at hcut
    rw [hframes]
    refine ⟨hcut, fun later hmem hbehind => ?_, rfl⟩
    rw [hframes] at hmem
    rcases List.mem_cons.mp hmem with rfl | hmem
    · omega
    · exact List.mem_cons_of_mem _ hmem

structure ReadOut (limit : Nat) (cursor : QuicFrameList.ReadCursor)
    (state : Reassembly UInt8) (bytes : List UInt8)
    (next : QuicFrameList.ReadCursor) : Prop where
  holds : Holds state.content (state.consumed + cursor.frameOffset) bytes
  lists : Lists limit next.finish
    (state.consume (cursor.frameOffset + bytes.length))
  passed : Passed cursor.buffer
    (state.consumed + (cursor.frameOffset + bytes.length))
    (cursor.frameOffset + bytes.length) next.finish

section Rounds

variable {cursor next : QuicFrameList.ReadCursor} {copied more : List UInt8}

theorem Copying.stops (h : Copying limit cursor state) :
    ReadOut limit cursor state [] cursor :=
  ⟨holds_nil, by simpa using h.finish.1, by simpa using h.finish.2⟩

theorem Copying.inside_first (h : Copying limit cursor state)
    (hframes : cursor.buffer.frameList = frame :: rest) :
    cursor.frameOffset < frame.segment.length := by
  rcases h.inside with hzero | ⟨first, others, hfirst, -, hlt⟩
  · have hrow := h.lists.inRow
    rw [hframes] at hrow
    have := List.length_pos_of_ne_nil hrow.2.1
    omega
  · rw [hframes] at hfirst
    obtain ⟨rfl, -⟩ := List.cons.inj hfirst
    exact hlt

theorem Copying.holds_copied (h : Copying limit cursor state)
    (hframes : cursor.buffer.frameList = frame :: rest)
    (hstart : frame.offset = state.consumed) (size : Nat) :
    Holds state.content (state.consumed + cursor.frameOffset)
      ((frame.segment.drop cursor.frameOffset).take size) :=
  ((h.lists.holds_first hframes hstart).drop (h.inside_first hframes).le).take
    size

theorem ReadOut.nextFrame (hframes : cursor.buffer.frameList = frame :: rest)
    (hstart : frame.offset = state.consumed)
    (hcopied : Holds state.content (state.consumed + cursor.frameOffset) copied)
    (hinside : cursor.frameOffset < frame.segment.length)
    (hwhole : frame.segment.length = cursor.frameOffset + copied.length)
    (h : ReadOut limit (cursor.copied frame rest copied.length)
      (state.consume frame.segment.length) more next) :
    ReadOut limit cursor state (copied ++ more) next := by
  unfold QuicFrameList.ReadCursor.copied at h
  rw [if_pos hwhole] at h
  obtain ⟨hmore, hnext, hlater, hbuffered⟩ := h
  rw [Reassembly.consume_consumed] at hmore hlater
  dsimp only at hmore hlater hbuffered
  refine ⟨?_, ?_, fun later hmem hbehind => ?_, ?_⟩
  · rw [holds_append]
    refine ⟨hcopied, ?_⟩
    rwa [hwhole, Nat.add_zero, ← Nat.add_assoc] at hmore
  · rw [Reassembly.consume_consume] at hnext
    rw [List.length_append, ← Nat.add_assoc, ← hwhole]
    simpa using hnext
  · rw [List.length_append] at hbehind
    rcases List.mem_cons.mp (hframes ▸ hmem) with rfl | hmem
    · omega
    · exact hlater later hmem (by omega)
  · rw [hbuffered, List.length_append]
    omega

theorem ReadOut.sameFrame
    (hcopied : Holds state.content (state.consumed + cursor.frameOffset) copied)
    (hpart : frame.segment.length ≠ cursor.frameOffset + copied.length)
    (h : ReadOut limit (cursor.copied frame rest copied.length) state more
      next) :
    ReadOut limit cursor state (copied ++ more) next := by
  unfold QuicFrameList.ReadCursor.copied at h
  rw [if_neg hpart] at h
  obtain ⟨hmore, hnext, hpassed⟩ := h
  dsimp only at hmore hnext hpassed
  refine ⟨?_, ?_, ?_⟩
  · rw [holds_append]
    refine ⟨hcopied, ?_⟩
    rwa [← Nat.add_assoc] at hmore
  · rw [List.length_append, ← Nat.add_assoc]
    exact hnext
  · rw [List.length_append, ← Nat.add_assoc cursor.frameOffset]
    exact hpassed

/-- One round: what the rest of the loop hands out follows what is copied. -/
theorem Copying.round {size readable : Nat} (h : Copying limit cursor state)
    (hfront : state.Front readable)
    (hframes : cursor.buffer.frameList = frame :: rest)
    (hstart : frame.offset = state.consumed)
    (hsize : size ≤ frame.segment.length - cursor.frameOffset) :
    ∃ other unread, Copying limit (cursor.copied frame rest size) other ∧
      other.Front unread ∧
      size + (unread - (cursor.copied frame rest size).frameOffset) =
        readable - cursor.frameOffset ∧
      ∀ more next,
        ReadOut limit (cursor.copied frame rest size) other more next →
        ReadOut limit cursor state
          ((frame.segment.drop cursor.frameOffset).take size ++ more) next := by
  have hrun := hfront.unique h.lists.front
  have hle := runLength_le hframes hstart hrun.symm
  have hinside := h.inside_first hframes
  have hcopied := h.holds_copied hframes hstart size
  have hlength : ((frame.segment.drop cursor.frameOffset).take size).length =
      size := by
    rw [List.length_take, List.length_drop]
    omega
  by_cases hwhole : frame.segment.length = cursor.frameOffset + size
  · refine ⟨state.consume frame.segment.length,
      readable - frame.segment.length, ?_, hfront.consume _ hle, ?_,
      fun more next hmore => ?_⟩
    · unfold QuicFrameList.ReadCursor.copied
      rw [if_pos hwhole]
      exact ⟨h.lists.dropFirst hframes hstart _, .inl rfl⟩
    · unfold QuicFrameList.ReadCursor.copied
      rw [if_pos hwhole]
      dsimp only
      omega
    · rw [← hlength] at hmore hwhole
      exact hmore.nextFrame hframes hstart hcopied hinside hwhole
  · refine ⟨state, readable, ?_, hfront, ?_, fun more next hmore => ?_⟩
    · unfold QuicFrameList.ReadCursor.copied
      rw [if_neg hwhole]
      exact ⟨h.lists, .inr ⟨frame, rest, hframes, hstart,
        by dsimp only; omega⟩⟩
    · unfold QuicFrameList.ReadCursor.copied
      rw [if_neg hwhole]
      dsimp only
      omega
    · rw [← hlength] at hmore hwhole
      exact hmore.sameFrame hcopied hwhole

theorem rounds_left {rounds iovLeft size : Nat} {destinations : List Nat}
    (hframes : cursor.buffer.frameList = frame :: rest)
    (hsize : min iovLeft (frame.segment.length - cursor.frameOffset) = size)
    (hinside : cursor.frameOffset < frame.segment.length)
    (hrounds : (iovLeft :: destinations).length +
      cursor.buffer.frameList.length ≤ rounds + 1) :
    (if iovLeft = size then destinations
        else (iovLeft - size) :: destinations).length +
      (cursor.copied frame rest size).buffer.frameList.length ≤ rounds := by
  have hlength := congrArg List.length hframes
  rw [List.length_cons] at hlength hrounds
  unfold QuicFrameList.ReadCursor.copied
  by_cases hfilled : iovLeft = size
  · rw [if_pos hfilled]
    split <;> dsimp only <;> omega
  · rw [if_neg hfilled, if_pos (by omega), List.length_cons]
    dsimp only
    omega

/-- The loop of `Readv`, by induction on its rounds. -/
theorem Copying.readFrames {rounds readable : Nat} {destinations : List Nat}
    (h : Copying limit cursor state) (hfront : state.Front readable)
    (hrounds : destinations.length + cursor.buffer.frameList.length ≤ rounds) :
    ∃ bytes next,
      QuicFrameList.readFrames rounds destinations cursor =
        .ok (bytes, next) ∧
      bytes.length = min destinations.sum (readable - cursor.frameOffset) ∧
      ReadOut limit cursor state bytes next := by
  induction rounds generalizing cursor state readable destinations with
  | zero =>
      obtain rfl : destinations = [] :=
        List.eq_nil_of_length_eq_zero (by omega)
      exact ⟨[], cursor, by simp [QuicFrameList.readFrames], by simp, h.stops⟩
  | succ rounds ih =>
      cases destinations with
      | nil =>
          exact ⟨[], cursor, by simp [QuicFrameList.readFrames], by simp,
            h.stops⟩
      | cons iovLeft destinations =>
          have hrun := hfront.unique h.lists.front
          unfold QuicFrameList.readFrames
          cases hframes : cursor.buffer.frameList with
          | nil =>
              rw [hframes, runLength] at hrun
              exact ⟨[], cursor, rfl, by simp [hrun], h.stops⟩
          | cons frame rest =>
              dsimp only
              rw [h.lists.consumed]
              by_cases hstart : frame.offset = state.consumed
              · rw [if_neg (not_not.mpr hstart)]
                have hinside := h.inside_first hframes
                generalize hsize : min iovLeft
                  (frame.segment.length - cursor.frameOffset) = size at *
                obtain ⟨other, unread, hcopying, hunread, hcount, hout⟩ :=
                  h.round hfront hframes hstart
                    (show size ≤ frame.segment.length - cursor.frameOffset by
                      omega)
                obtain ⟨more, next, hloop, hlength, hmore⟩ :=
                  ih hcopying hunread
                    (rounds_left hframes hsize hinside hrounds)
                rw [hloop]
                refine ⟨_, _, rfl, ?_, hout more next hmore⟩
                rw [List.length_append, List.length_take, List.length_drop,
                  hlength]
                split
                next hall =>
                  rw [List.sum_cons]
                  omega
                next hrest =>
                  rw [List.sum_cons, List.sum_cons]
                  omega
              · rw [hframes, runLength, if_neg hstart] at hrun
                rw [if_pos hstart]
                exact ⟨[], cursor, rfl, by simp [hrun], h.stops⟩

end Rounds

end Reading

end RevSDK
