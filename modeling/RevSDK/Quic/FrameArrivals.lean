import RevSDK.Quic.StreamSequencerBuffer

/-!
# The frames of a sequencer buffer

The map of arrival times holds the frames that wait to be read, in order and
without overlap.  `arrivalAt` is the time at which an offset arrived.
-/

namespace RevSDK

namespace FrameArrivalTimeMap

def Ordered : Nat → FrameArrivalTimeMap → Prop
  | _, [] => True
  | lower, frame :: rest =>
      lower ≤ frame.1 ∧ 0 < frame.2.length ∧
        Ordered (frame.1 + frame.2.length) rest

def arrivalAt : FrameArrivalTimeMap → Nat → Option Nat
  | [], _ => none
  | frame :: rest, offset =>
      if frame.1 ≤ offset ∧ offset < frame.1 + frame.2.length then
        some frame.2.timestamp
      else arrivalAt rest offset

variable {frames : FrameArrivalTimeMap} {lower offset position : Nat}
  {info : FrameInfo}

theorem Ordered.mono {lower' : Nat} (h : Ordered lower frames)
    (hle : lower' ≤ lower) : Ordered lower' frames := by
  cases frames with
  | nil => trivial
  | cons frame rest => exact ⟨Nat.le_trans hle h.1, h.2⟩

theorem Ordered.lower_le (h : Ordered lower frames)
    {frame : Nat × FrameInfo} (hmem : frame ∈ frames) : lower ≤ frame.1 := by
  induction frames generalizing lower with
  | nil => simp at hmem
  | cons head rest ih =>
      obtain ⟨hlower, -, hrest⟩ := h
      rcases List.mem_cons.mp hmem with rfl | hmem
      · exact hlower
      · have := ih hrest hmem
        omega

theorem arrivalAt_of_lt (h : Ordered lower frames) (hlt : position < lower) :
    frames.arrivalAt position = none := by
  induction frames generalizing lower with
  | nil => rfl
  | cons frame rest ih =>
      obtain ⟨hlower, -, hrest⟩ := h
      unfold arrivalAt
      rw [if_neg (by omega)]
      exact ih hrest (by omega)

theorem insert_spec (h : Ordered lower frames) (hlower : lower ≤ offset)
    (hlength : 0 < info.length)
    (hfree : ∀ index < info.length,
      frames.arrivalAt (offset + index) = none) :
    Ordered lower (frames.insert offset info) ∧
      ∀ position, (frames.insert offset info).arrivalAt position =
        if offset ≤ position ∧ position < offset + info.length then
          some info.timestamp
        else frames.arrivalAt position := by
  induction frames generalizing lower with
  | nil =>
      exact ⟨⟨hlower, hlength, trivial⟩, fun _ => rfl⟩
  | cons frame rest ih =>
      obtain ⟨hframe, hsize, hrest⟩ := h
      have hapart : ∀ index < info.length, ¬ (frame.1 ≤ offset + index ∧
          offset + index < frame.1 + frame.2.length) := by
        intro index hindex hinside
        have hnone := hfree index hindex
        unfold arrivalAt at hnone
        rw [if_pos hinside] at hnone
        contradiction
      have hstart := hapart 0 hlength
      by_cases hbefore : offset < frame.1
      · have hend : offset + info.length ≤ frame.1 := by
          by_contra hover
          exact hapart (frame.1 - offset) (by omega) (by omega)
        have heq : insert offset info (frame :: rest) =
            (offset, info) :: frame :: rest := by
          unfold insert
          exact if_pos hbefore
        rw [heq]
        exact ⟨⟨hlower, hlength, hend, hsize, hrest⟩, fun _ => rfl⟩
      · have heq : insert offset info (frame :: rest) =
            frame :: insert offset info rest := by
          conv_lhs => unfold insert
          rw [if_neg hbefore, if_neg (by omega)]
        have hlater : ∀ index < info.length,
            arrivalAt rest (offset + index) = none := by
          intro index hindex
          have hnone := hfree index hindex
          unfold arrivalAt at hnone
          rwa [if_neg (hapart index hindex)] at hnone
        obtain ⟨hordered, hat⟩ := ih hrest (by omega) hlater
        rw [heq]
        refine ⟨⟨hframe, hsize, hordered⟩, fun position => ?_⟩
        unfold arrivalAt
        rw [hat]
        split <;> split <;> first | rfl | omega

def trim (offset : Nat) : FrameArrivalTimeMap → FrameArrivalTimeMap
  | [] => []
  | frame :: rest =>
      if offset < frame.1 then frame :: rest
      else if offset < frame.1 + frame.2.length then
        (offset, ⟨frame.1 + frame.2.length - offset, frame.2.timestamp⟩) :: rest
      else trim offset rest

theorem erase_first {frame : Nat × FrameInfo} {rest : FrameArrivalTimeMap}
    (h : Ordered lower (frame :: rest)) :
    erase frame.1 (frame :: rest) = rest := by
  obtain ⟨-, hsize, hrest⟩ := h
  unfold erase
  rw [List.filter_cons_of_neg (by simp)]
  refine List.filter_eq_self.mpr fun later hlater => ?_
  have := hrest.lower_le hlater
  simp only [ne_eq, decide_eq_true_eq]
  omega

theorem insert_front (h : Ordered lower frames) (hlt : offset < lower) :
    frames.insert offset info = (offset, info) :: frames := by
  cases frames with
  | nil => rfl
  | cons frame rest =>
      unfold insert
      exact if_pos (Nat.lt_of_lt_of_le hlt h.1)

theorem takeWhile_of_lt (h : Ordered lower frames) (hlt : offset < lower) :
    frames.takeWhile (fun frame => frame.1 ≤ offset) = [] := by
  cases frames with
  | nil => rfl
  | cons frame rest =>
      have := h.1
      exact List.takeWhile_cons_of_neg (by simp; omega)

theorem updateFrameArrivalMap_eq (h : Ordered lower frames) :
    frames.updateFrameArrivalMap offset = trim offset frames := by
  induction frames generalizing lower with
  | nil => rfl
  | cons frame rest ih =>
      have hrest := h.2.2
      unfold trim
      split
      next hlater =>
        unfold updateFrameArrivalMap
        rw [List.takeWhile_cons_of_neg (by simpa using hlater)]
        rfl
      next hearly =>
        have hloop : updateFrameArrivalMap offset (frame :: rest) =
            (rest.takeWhile fun frame => frame.1 ≤ offset).foldl (retire offset)
              (retire offset (frame :: rest) frame) := by
          unfold updateFrameArrivalMap
          rw [List.takeWhile_cons_of_pos (by simpa using hearly)]
          rfl
        unfold retire at hloop
        rw [erase_first h] at hloop
        dsimp only at hloop
        split
        next hpartly =>
          rw [hloop, if_pos hpartly, takeWhile_of_lt hrest hpartly,
            insert_front hrest hpartly]
          rfl
        next hread =>
          rw [hloop, if_neg hread]
          exact ih hrest

theorem trim_spec (offset : Nat) (h : Ordered lower frames) :
    Ordered offset (trim offset frames) ∧
      ∀ position, offset ≤ position →
        (trim offset frames).arrivalAt position =
          frames.arrivalAt position := by
  induction frames generalizing lower with
  | nil => exact ⟨trivial, fun _ _ => rfl⟩
  | cons frame rest ih =>
      obtain ⟨hlower, hsize, hrest⟩ := h
      unfold trim
      split
      next hlater =>
        exact ⟨⟨hlater.le, hsize, hrest⟩, fun _ _ => rfl⟩
      next hearly =>
        split
        next hpartly =>
          refine ⟨⟨Nat.le_refl _, by dsimp only; omega,
            hrest.mono (by dsimp only; omega)⟩, fun position hposition => ?_⟩
          unfold arrivalAt
          dsimp only
          split <;> split <;> first | rfl | omega
        next hread =>
          obtain ⟨hordered, hat⟩ := ih hrest
          refine ⟨hordered, fun position hposition => ?_⟩
          rw [hat position hposition]
          conv_rhs => unfold arrivalAt
          rw [if_neg (by omega)]

end FrameArrivalTimeMap

open FrameArrivalTimeMap

structure RegionStarted (whole frames : FrameArrivalTimeMap)
    (start regionLen readable timestamp : Nat) : Prop where
  within : regionLen ≤ readable
  ordered : frames.Ordered (start + regionLen)
  rest : ∀ position, start + regionLen ≤ position →
    whole.arrivalAt position = frames.arrivalAt position
  stamped : ∀ index < regionLen,
    whole.arrivalAt (start + index) = some timestamp
  waiting : ∀ index < readable, (whole.arrivalAt (start + index)).isSome

theorem RegionStarted.next_frame {whole rest : FrameArrivalTimeMap}
    {frame : Nat × FrameInfo} {start regionLen readable timestamp : Nat}
    (h : RegionStarted whole (frame :: rest) start regionLen readable timestamp)
    (hmore : regionLen < readable) : frame.1 = start + regionLen := by
  obtain ⟨hlower, hsize, hrest⟩ := h.ordered
  have hsome := h.waiting regionLen hmore
  rw [h.rest _ (Nat.le_refl _)] at hsome
  unfold arrivalAt at hsome
  split at hsome
  next hinside => omega
  next houtside =>
    rw [arrivalAt_of_lt hrest (by omega)] at hsome
    simp at hsome

theorem frameRegion_spec {whole frames : FrameArrivalTimeMap}
    {start regionLen readable timestamp : Nat}
    (h : RegionStarted whole frames start regionLen readable timestamp) :
    let length := StreamSequencerBuffer.regionLength readable timestamp
      (StreamSequencerBuffer.frameRegion readable timestamp frames regionLen)
    regionLen ≤ length ∧ length ≤ readable ∧
      ∀ index < length, whole.arrivalAt (start + index) = some timestamp := by
  induction frames generalizing regionLen with
  | nil =>
      have hall : readable ≤ regionLen := by
        by_contra hmore
        have hsome := h.waiting regionLen (by omega)
        rw [h.rest _ (Nat.le_refl _)] at hsome
        simp [arrivalAt] at hsome
      exact ⟨h.within, Nat.le_refl _,
        fun index hindex => h.stamped index (Nat.lt_of_lt_of_le hindex hall)⟩
  | cons frame rest ih =>
      obtain ⟨hlower, hsize, hrest⟩ := h.ordered
      unfold StreamSequencerBuffer.frameRegion
      split
      next hfits =>
        have hstart := h.next_frame (by omega)
        split
        next hsame =>
          have hnext : RegionStarted whole rest start
              (regionLen + frame.2.length) readable timestamp := by
            refine ⟨hfits, hrest.mono (by omega), fun position hposition => ?_,
              fun index hindex => ?_, h.waiting⟩
            · rw [h.rest position (by omega)]
              conv_lhs => unfold arrivalAt
              rw [if_neg (by omega)]
            · by_cases hold : index < regionLen
              · exact h.stamped index hold
              · rw [h.rest _ (by omega)]
                unfold arrivalAt
                rw [if_pos (by omega), hsame]
          obtain ⟨hle, hbound, hstamps⟩ := ih hnext
          exact ⟨by omega, hbound, hstamps⟩
        next hother =>
          unfold StreamSequencerBuffer.regionLength
          dsimp only
          rw [if_neg hother]
          exact ⟨Nat.le_refl _, h.within, h.stamped⟩
      next hlong =>
        unfold StreamSequencerBuffer.regionLength
        dsimp only
        split
        next hsame =>
          refine ⟨h.within, Nat.le_refl _, fun index hindex => ?_⟩
          by_cases hold : index < regionLen
          · exact h.stamped index hold
          · have hstart := h.next_frame (by omega)
            rw [h.rest _ (by omega)]
            unfold arrivalAt
            rw [if_pos (by omega), hsame]
        next => exact ⟨Nat.le_refl _, h.within, h.stamped⟩

end RevSDK
