import RevSDK.Quic.StreamSequencerBuffer

/-!
# The blocks of a sequencer buffer

`cell` is the byte that the ring holds for a stream offset.  A write changes
the cells of its own offsets only, and creates only blocks that it writes to;
a read that stays inside a block returns the cells.
-/

namespace RevSDK

open RevSDK.Foundation

namespace BufferLayout

variable {layout : BufferLayout} {offset : Nat} {distance : Nat}

theorem blocksCount_eq :
    layout.blocksCount =
      (layout.maxBufferCapacityBytes - 1) / layout.kBlockSizeBytes + 1 := by
  have hcapacity := layout.capacity_pos
  have hsplit : layout.maxBufferCapacityBytes + layout.kBlockSizeBytes - 1 =
      layout.maxBufferCapacityBytes - 1 + layout.kBlockSizeBytes := by omega
  rw [blocksCount, hsplit, Nat.add_div_right _ layout.block_pos]

theorem position_lt (offset : Nat) : offset % layout.maxBufferCapacityBytes <
    layout.maxBufferCapacityBytes :=
  Nat.mod_lt _ layout.capacity_pos

theorem position_eq (offset : Nat) : offset % layout.maxBufferCapacityBytes =
    layout.kBlockSizeBytes * layout.getBlockIndex offset +
      layout.getInBlockOffset offset :=
  (Nat.div_add_mod _ _).symm

theorem getBlockIndex_lt (offset : Nat) :
    layout.getBlockIndex offset < layout.blocksCount := by
  have hposition := layout.position_lt offset
  rw [blocksCount_eq, Nat.lt_succ_iff]
  exact Nat.div_le_div_right (by omega)

theorem getInBlockOffset_lt (offset : Nat) :
    layout.getInBlockOffset offset < layout.kBlockSizeBytes :=
  Nat.mod_lt _ layout.block_pos

theorem blockEnd {index : Nat} (hindex : index < layout.blocksCount) :
    layout.getBlockCapacity index ≤ layout.kBlockSizeBytes ∧
    0 < layout.getBlockCapacity index ∧
    (index + 1 = layout.blocksCount ∧
        layout.kBlockSizeBytes * index + layout.getBlockCapacity index =
          layout.maxBufferCapacityBytes ∨
      index + 1 < layout.blocksCount ∧
        layout.getBlockCapacity index = layout.kBlockSizeBytes ∧
        layout.kBlockSizeBytes * index + layout.kBlockSizeBytes <
          layout.maxBufferCapacityBytes) := by
  have hblock := layout.block_pos
  have hcapacity := layout.capacity_pos
  have hdiv := Nat.div_add_mod (layout.maxBufferCapacityBytes - 1)
    layout.kBlockSizeBytes
  have hmod := Nat.mod_lt (layout.maxBufferCapacityBytes - 1) hblock
  have htotal : layout.maxBufferCapacityBytes % layout.kBlockSizeBytes =
      ((layout.maxBufferCapacityBytes - 1) % layout.kBlockSizeBytes + 1) %
        layout.kBlockSizeBytes := by
    rw [Nat.mod_add_mod, Nat.sub_add_cancel hcapacity]
  unfold getBlockCapacity
  rw [blocksCount_eq] at hindex ⊢
  generalize (layout.maxBufferCapacityBytes - 1) / layout.kBlockSizeBytes =
    last at *
  generalize (layout.maxBufferCapacityBytes - 1) % layout.kBlockSizeBytes =
    tail at *
  split
  next hlast =>
    obtain rfl : index = last := by omega
    by_cases hfull : tail + 1 = layout.kBlockSizeBytes
    · rw [hfull, Nat.mod_self] at htotal
      rw [htotal, if_pos rfl]
      omega
    · have htail : tail + 1 < layout.kBlockSizeBytes := by omega
      rw [Nat.mod_eq_of_lt htail] at htotal
      rw [htotal, if_neg (by omega)]
      omega
  next hinner =>
    have hle : layout.kBlockSizeBytes * (index + 1) ≤
        layout.kBlockSizeBytes * last := Nat.mul_le_mul_left _ (by omega)
    rw [Nat.mul_succ] at hle
    omega

def room (layout : BufferLayout) (offset : Nat) : Nat :=
  layout.getBlockCapacity (layout.getBlockIndex offset) -
    layout.getInBlockOffset offset

theorem room_spec (offset : Nat) : 0 < layout.room offset ∧
    layout.getInBlockOffset offset + layout.room offset ≤
      layout.kBlockSizeBytes ∧
    offset % layout.maxBufferCapacityBytes + layout.room offset ≤
      layout.maxBufferCapacityBytes := by
  have hposition := layout.position_lt offset
  have hsplit := layout.position_eq offset
  have hinblock := layout.getInBlockOffset_lt offset
  obtain ⟨hle, hpos, hend⟩ := layout.blockEnd (layout.getBlockIndex_lt offset)
  unfold room
  omega

theorem getBlockIndex_of_position {index rest : Nat}
    (hsplit : offset % layout.maxBufferCapacityBytes =
      layout.kBlockSizeBytes * index + rest)
    (hrest : rest < layout.kBlockSizeBytes) :
    layout.getBlockIndex offset = index ∧
      layout.getInBlockOffset offset = rest := by
  unfold getBlockIndex getInBlockOffset
  rw [hsplit]
  exact ⟨by rw [Nat.mul_add_div layout.block_pos, Nat.div_eq_of_lt hrest,
    Nat.add_zero], by rw [Nat.mul_add_mod, Nat.mod_eq_of_lt hrest]⟩

theorem within_block (offset distance : Nat)
    (hdistance : distance < layout.room offset) :
    layout.getBlockIndex (offset + distance) = layout.getBlockIndex offset ∧
      layout.getInBlockOffset (offset + distance) =
        layout.getInBlockOffset offset + distance := by
  obtain ⟨-, hblock, hring⟩ := layout.room_spec offset
  have hadd := ring_add layout.maxBufferCapacityBytes offset distance (by omega)
  refine getBlockIndex_of_position ?_ (by omega)
  rw [hadd, position_eq, Nat.add_assoc]

theorem next_block (offset : Nat) :
    layout.getBlockIndex (offset + layout.room offset) =
        (layout.getBlockIndex offset + 1) % layout.blocksCount ∧
      layout.getInBlockOffset (offset + layout.room offset) = 0 := by
  have hindex := layout.getBlockIndex_lt offset
  have hposition := layout.position_lt offset
  have hsplit := layout.position_eq offset
  have hinblock := layout.getInBlockOffset_lt offset
  obtain ⟨hle, hpos, hlast | hinner⟩ := layout.blockEnd hindex
  · have hwrap := ring_wrap layout.maxBufferCapacityBytes offset
      (layout.room offset)      (by unfold room; omega)
    rw [hlast.1, Nat.mod_self]
    exact getBlockIndex_of_position (by simpa using hwrap) layout.block_pos
  · have hadd := ring_add layout.maxBufferCapacityBytes offset
      (layout.room offset)      (by unfold room; omega)
    rw [Nat.mod_eq_of_lt hinner.1]
    refine getBlockIndex_of_position ?_ layout.block_pos
    rw [hadd, Nat.mul_succ]
    unfold room
    omega

theorem later_lap (offset distance : Nat)
    (hdistance : distance < layout.maxBufferCapacityBytes)
    (hlap : layout.maxBufferCapacityBytes ≤
      distance + layout.getInBlockOffset offset) :
    layout.getBlockIndex (offset + distance) = layout.getBlockIndex offset ∧
      layout.getInBlockOffset (offset + distance) =
        distance + layout.getInBlockOffset offset -
          layout.maxBufferCapacityBytes := by
  have hposition := layout.position_lt offset
  have hsplit := layout.position_eq offset
  have hinblock := layout.getInBlockOffset_lt offset
  refine getBlockIndex_of_position ?_ (by omega)
  rw [Nat.add_mod, Nat.mod_eq_of_lt hdistance, Nat.mod_eq_sub_mod (by omega),
    Nat.mod_eq_of_lt (by omega)]
  omega

theorem same_block_iff (offset distance : Nat)
    (hdistance : distance < layout.maxBufferCapacityBytes) :
    layout.getBlockIndex (offset + distance) = layout.getBlockIndex offset ↔
      distance < layout.room offset ∨
        layout.maxBufferCapacityBytes ≤
          distance + layout.getInBlockOffset offset := by
  have hposition := layout.position_lt offset
  have hsplit := layout.position_eq offset
  have hinblock := layout.getInBlockOffset_lt offset
  have hindex := layout.getBlockIndex_lt offset
  obtain ⟨hle, hpos, hend⟩ := layout.blockEnd hindex
  by_cases hlap : offset % layout.maxBufferCapacityBytes + distance <
      layout.maxBufferCapacityBytes
  · have hadd := ring_add _ _ _ hlap
    constructor
    · intro hsame
      left
      have hother := layout.position_eq (offset + distance)
      have := layout.getInBlockOffset_lt (offset + distance)
      rw [hsame] at hother
      unfold room
      omega
    · rintro (hroom | hwrap)
      · exact (within_block _ _ hroom).1
      · omega
  · have hwrapped : (offset + distance) % layout.maxBufferCapacityBytes =
        offset % layout.maxBufferCapacityBytes + distance -
          layout.maxBufferCapacityBytes := by
      rw [Nat.add_mod, Nat.mod_eq_of_lt hdistance,
        Nat.mod_eq_sub_mod (Nat.not_lt.mp hlap), Nat.mod_eq_of_lt (by omega)]
    have hother := layout.position_eq (offset + distance)
    constructor
    · intro hsame
      rw [hsame] at hother
      omega
    · rintro (hroom | hwrap)
      · exact (within_block _ _ hroom).1
      · exact (later_lap _ _ hdistance hwrap).1

theorem same_lap_iff (offset distance : Nat)
    (hdistance : distance < layout.maxBufferCapacityBytes) :
    (layout.getBlockIndex offset = layout.getBlockIndex (offset + distance) ∧
      layout.getInBlockOffset offset ≤
        layout.getInBlockOffset (offset + distance)) ↔
      distance < layout.room offset := by
  constructor
  · rintro ⟨hblock, hoffset⟩
    refine ((layout.same_block_iff _ _ hdistance).mp
      hblock.symm).resolve_right fun hlap => ?_
    rw [(layout.later_lap _ _ hdistance hlap).2] at hoffset
    omega
  · intro hnear
    obtain ⟨hblock, hoffset⟩ := layout.within_block offset distance hnear
    rw [hblock, hoffset]
    exact ⟨rfl, Nat.le_add_right _ _⟩

end BufferLayout

structure Shaped (layout : BufferLayout) (blocks : Blocks UInt8) : Prop where
  count : blocks.length = layout.blocksCount
  sized : ∀ block, some block ∈ blocks → block.length = layout.kBlockSizeBytes

def cell (layout : BufferLayout) (blocks : Blocks UInt8) (offset : Nat) :
    Option UInt8 :=
  blocks.peek layout.kBlockSizeBytes (offset % layout.maxBufferCapacityBytes)

def Allocated (blocks : Blocks UInt8) (index : Nat) : Prop :=
  ∃ block, blocks[index]? = some (some block)

section Cells

variable {layout : BufferLayout} {blocks : Blocks UInt8} {block : List UInt8}
  {offset other index count : Nat} {byte : UInt8} {source : List UInt8}

theorem cell_eq_some :
    cell layout blocks offset = some byte ↔
      ∃ block, blocks[layout.getBlockIndex offset]? = some (some block) ∧
        block[layout.getInBlockOffset offset]? = some byte :=
  peek_eq_some

theorem cell_eq (hsame : layout.getBlockIndex offset = index)
    (hblock : blocks[index]? = some (some block)) :
    cell layout blocks offset = block[layout.getInBlockOffset offset]? := by
  subst hsame
  exact peek_of_block hblock

theorem Shaped.length_eq (h : Shaped layout blocks)
    (hblock : blocks[index]? = some (some block)) :
    block.length = layout.kBlockSizeBytes :=
  h.sized block (List.mem_of_getElem? hblock)

theorem Shaped.index_lt (h : Shaped layout blocks) (offset : Nat) :
    layout.getBlockIndex offset < blocks.length := by
  rw [h.count]
  exact layout.getBlockIndex_lt _

theorem Shaped.set (h : Shaped layout blocks) {new : Option (List UInt8)}
    (hnew : ∀ block, new = some block →
      block.length = layout.kBlockSizeBytes) :
    Shaped layout (blocks.set index new) where
  count := by rw [List.length_set, h.count]
  sized block hmem := by
    rcases List.mem_or_eq_of_mem_set hmem with hold | hself
    · exact h.sized block hold
    · exact hnew block hself.symm

theorem blockForWriting_spec (h : Shaped layout blocks)
    (hindex : index < blocks.length) :
    ∃ block, blockForWriting layout blocks index = .ok block ∧
      block.length = layout.kBlockSizeBytes ∧
      ∀ old, blocks[index]? = some (some old) → block = old := by
  unfold blockForWriting
  rw [List.getElem?_eq_getElem hindex]
  cases hfound : blocks[index] with
  | none => exact ⟨_, rfl, List.length_replicate, nofun⟩
  | some old =>
      exact ⟨old, rfl, h.sized old (hfound ▸ List.getElem_mem hindex),
        fun _ heq => by simpa using heq⟩

structure Written (layout : BufferLayout) (lower : Nat) (blocks : Blocks UInt8)
    (offset : Nat) (source : List UInt8) (next : Blocks UInt8) : Prop where
  shaped : Shaped layout next
  holds : Holds (cell layout next) offset source
  kept : ∀ other byte, lower ≤ other →
    other < lower + layout.maxBufferCapacityBytes →
    ¬ (offset ≤ other ∧ other < offset + source.length) →
    cell layout blocks other = some byte → cell layout next other = some byte
  created : ∀ index, Allocated next index → Allocated blocks index ∨
    ∃ distance < source.length,
      layout.getBlockIndex (offset + distance) = index

theorem Written.nil (lower : Nat) (h : Shaped layout blocks) :
    Written layout lower blocks offset [] blocks where
  shaped := h
  holds := holds_nil
  kept _ _ _ _ _ hcell := hcell
  created _ := .inl

theorem Written.append {lower position : Nat} {first second : List UInt8}
    {middle next : Blocks UInt8}
    (hfirst : Written layout lower blocks offset first middle)
    (hsecond : Written layout lower middle position second next)
    (hposition : offset + first.length = position)
    (hlower : lower ≤ offset) (hlimit : offset + (first ++ second).length ≤
      lower + layout.maxBufferCapacityBytes) :
    Written layout lower blocks offset (first ++ second) next where
  shaped := hsecond.shaped
  holds := by
    rw [List.length_append] at hlimit
    subst hposition
    refine holds_append.mpr ⟨fun distance hdistance => ?_, hsecond.holds⟩
    have hcell := hfirst.holds distance hdistance
    rw [List.getElem?_eq_getElem hdistance] at hcell ⊢
    exact hsecond.kept _ _ (by omega) (by omega) (by omega) hcell
  kept other byte hother hother' houtside hcell := by
    rw [List.length_append] at houtside
    subst hposition
    exact hsecond.kept other byte hother hother' (by omega)
      (hfirst.kept other byte hother hother' (by omega) hcell)
  created index hallocated := by
    subst hposition
    rcases hsecond.created index hallocated with
      hmiddle | ⟨distance, hdistance, hindex⟩
    · rcases hfirst.created index hmiddle with
        hold | ⟨distance, hdistance, hindex⟩
      · exact .inl hold
      · exact .inr ⟨distance, by simp; omega, hindex⟩
    · exact .inr ⟨first.length + distance, by simpa using hdistance,
        by rwa [← Nat.add_assoc]⟩

/-- One round of the loop writes a chunk that fits the block. -/
theorem writeChunk_spec (h : Shaped layout blocks) {lower : Nat}
    (hblock : block.length = layout.kBlockSizeBytes)
    (hold : ∀ old, blocks[layout.getBlockIndex offset]? = some (some old) →
      block = old)
    (hpos : 0 < source.length) (hroom : source.length ≤ layout.room offset)
    (hlower : lower ≤ offset)
    (hlimit : offset + source.length ≤ lower + layout.maxBufferCapacityBytes) :
    ∃ written,
      writeBlock block (layout.getInBlockOffset offset) source = .ok written ∧
      Written layout lower blocks offset source
        (blocks.set (layout.getBlockIndex offset) (some written)) := by
  obtain ⟨-, hblockEnd, hring⟩ := layout.room_spec offset
  have hfits : layout.getInBlockOffset offset + source.length ≤
      block.length := by omega
  have hself := List.getElem?_set_self (a := some
    (overwrite block (layout.getInBlockOffset offset) source))
    (h.index_lt offset)
  refine ⟨_, if_pos hfits, h.set ?_, ?_, ?_, ?_⟩
  · rintro new hnew
    obtain rfl := Option.some.inj hnew
    rw [length_overwrite hfits, hblock]
  · intro distance hdistance
    obtain ⟨hsame, hin⟩ := layout.within_block offset distance (by omega)
    rw [cell_eq hsame hself, getElem?_overwrite hfits, hin,
      if_pos (by omega), Nat.add_sub_cancel_left]
  · intro other byte hother hother' houtside hcell
    by_cases hsame : layout.getBlockIndex other = layout.getBlockIndex offset
    · obtain ⟨old, hfound, hbyte⟩ := cell_eq_some.mp hcell
      rw [hsame] at hfound
      obtain rfl := hold old hfound
      rw [cell_eq hsame hself, getElem?_overwrite hfits, if_neg, hbyte]
      -- in the chunk's part of the block only the chunk's own offsets stand
      rintro ⟨hge, hlt⟩
      have hposition := layout.position_eq other
      have hstart := layout.position_eq offset
      have hlap := layout.position_lt other
      rw [hsame] at hposition
      obtain ⟨behind, hbehind⟩ := Nat.exists_eq_add_of_le hge
      have hadd := ring_add layout.maxBufferCapacityBytes offset behind
        (by omega)
      have hmeet : other = offset + behind :=
        ring_injective hother hother' (by omega) (by omega) (by omega)
      omega
    · rw [← hcell]
      exact peek_set_ne (Ne.symm hsame) _
  · rintro index ⟨found, hfound⟩
    by_cases hsame : layout.getBlockIndex offset = index
    · exact .inr ⟨0, hpos, hsame⟩
    · rw [List.getElem?_set_ne hsame] at hfound
      exact .inl ⟨found, hfound⟩

/-- The loop of `OnStreamData` writes exactly the data. -/
theorem writeBlocks_spec {lower rounds : Nat} (h : Shaped layout blocks)
    (hlower : lower ≤ offset)
    (hlimit : offset + source.length ≤ lower + layout.maxBufferCapacityBytes)
    (hmax : lower + layout.maxBufferCapacityBytes +
      layout.maxBufferCapacityBytes < maxStreamOffset)
    (hrounds : source.length ≤ rounds) :
    ∃ next, writeBlocks layout (lower + layout.maxBufferCapacityBytes) rounds
        blocks offset source = .ok next ∧
      Written layout lower blocks offset source next := by
  induction rounds generalizing blocks offset source with
  | zero =>
      obtain rfl : source = [] := List.eq_nil_of_length_eq_zero (by omega)
      exact ⟨blocks, by simp [writeBlocks], .nil lower h⟩
  | succ rounds ih =>
      cases hsource : source with
      | nil => exact ⟨blocks, by simp [writeBlocks], .nil lower h⟩
      | cons head tail =>
          have hpos : 0 < source.length := by simp [hsource]
          obtain ⟨hroom, hblockEnd, hring⟩ :=
            layout.room_spec offset
          -- the limit cuts nothing off that the source still needs
          have hcount : min (if lower + layout.maxBufferCapacityBytes <
              offsetSum offset (layout.room offset) then
                lower + layout.maxBufferCapacityBytes - offset
              else layout.room offset) source.length =
              min (layout.room offset) source.length := by
            rw [offsetSum_eq (by omega)]
            split <;> omega
          have hchunk : (source.take (min (layout.room offset)
              source.length)).length =
                min (layout.room offset) source.length := by
            rw [List.length_take]
            omega
          generalize hsize : min (layout.room offset) source.length = size at *
          obtain ⟨block, hfor, hlength, hold⟩ :=
            blockForWriting_spec h (h.index_lt offset)
          have hleft := List.length_drop (l := source) (i := size)
          obtain ⟨written, hwrite, hfirst⟩ := writeChunk_spec h hlength hold
            (show 0 < (source.take size).length by omega) (by omega) hlower
            (by omega)
          obtain ⟨next, hrest, hsecond⟩ := ih hfirst.shaped
            (show lower ≤ offset + size by omega)
            (show offset + size + (source.drop size).length ≤ _ by omega)
            (by omega)
          refine ⟨next, ?_, ?_⟩
          · have hsum : offsetSum offset size = offset + size :=
              offsetSum_eq (by omega)
            rw [hsource] at hcount hwrite hrest
            unfold writeBlocks
            simp only [hfor, Outcome.ok_bind]
            rw [show layout.getBlockCapacity (layout.getBlockIndex offset) -
              layout.getInBlockOffset offset = layout.room offset from rfl,
              hcount, hwrite, Outcome.ok_bind, hsum, hrest]
          · have happend := hfirst.append hsecond (by rw [hchunk]) hlower
              (by rwa [List.take_append_drop])
            rwa [List.take_append_drop, hsource] at happend

theorem readCells (h : Shaped layout blocks)
    (hcount : count ≤ layout.room offset)
    (hcells : ∀ distance < count,
      (cell layout blocks (offset + distance)).isSome)
    (hpos : 0 < count) :
    ∃ block bytes, blockAt blocks (layout.getBlockIndex offset) = .ok block ∧
      readBlock block (layout.getInBlockOffset offset) count = .ok bytes ∧
      bytes.length = count ∧ Holds (cell layout blocks) offset bytes := by
  obtain ⟨-, hblockEnd, -⟩ := layout.room_spec offset
  obtain ⟨byte, hbyte⟩ := Option.isSome_iff_exists.mp (hcells 0 hpos)
  rw [Nat.add_zero] at hbyte
  obtain ⟨block, hblock, -⟩ := cell_eq_some.mp hbyte
  have hlength := h.length_eq hblock
  have hbytes : ((block.drop (layout.getInBlockOffset offset)).take
      count).length = count := by
    rw [List.length_take, List.length_drop]
    omega
  refine ⟨block, _, by simp only [blockAt, hblock],
    if_pos (by omega), hbytes, fun distance hdistance => ?_⟩
  rw [hbytes] at hdistance
  obtain ⟨hsame, hin⟩ := layout.within_block offset distance (by omega)
  rw [cell_eq hsame hblock, hin, List.getElem?_take_of_lt hdistance,
    List.getElem?_drop]

end Cells

end RevSDK
