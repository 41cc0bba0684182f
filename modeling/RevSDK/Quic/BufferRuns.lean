import RevSDK.Foundation.Runs
import RevSDK.Quic.BufferOperations

/-!
# Runs of a sequencer buffer

The peer sends pieces of one stream: in any order, again and again, cut in any
way.  The reader takes bytes by `Readv`, or looks at the readable regions and
marks a part of them as consumed.  `output` is what the reader has got so far,
and `accepted` are the frames that were answered without an error.
-/

namespace RevSDK

open RevSDK.Foundation QuicStreamSequencerBufferInterface

inductive BufferEvent where
  | frame (offset : Nat) (data : List UInt8) (timestamp : Nat)
  | read (destinations : List Nat)
  | takeRegions (iovCount count : Nat)
  | takeRegion
  deriving DecidableEq

structure AcceptedFrame where
  offset : Nat
  length : Nat
  timestamp : Nat
  deriving DecidableEq

def AcceptedFrame.Covers (frame : AcceptedFrame) (position : Nat) : Prop :=
  frame.offset ≤ position ∧ position < frame.offset + frame.length

structure BufferWorld (β : Type) where
  buffer : β
  output : List UInt8
  accepted : List AcceptedFrame
  deriving DecidableEq

namespace BufferWorld

variable {β : Type} [QuicStreamSequencerBufferInterface β]

def take (world : BufferWorld β) (bytes : List UInt8) :
    Outcome (BufferWorld β) := do
  let (_, buffer) ← markConsumed world.buffer bytes.length
  return { world with buffer, output := world.output ++ bytes }

def next (world : BufferWorld β) : BufferEvent → Outcome (BufferWorld β)
  | .frame offset data timestamp => do
      let (code, _, buffer) ← onStreamData world.buffer offset data timestamp
      return { world with
        buffer
        accepted := if code = .noError then
            world.accepted ++ [⟨offset, data.length, timestamp⟩]
          else world.accepted }
  | .read destinations => do
      let (bytes, buffer) ← readv world.buffer destinations
      return { world with buffer, output := world.output ++ bytes }
  | .takeRegions iovCount count => do
      let regions ← getReadableRegions world.buffer iovCount
      world.take (regions.flatten.take count)
  | .takeRegion => do
      let region ← getReadableRegion world.buffer
      match region with
      | none => return world
      | some (bytes, _) => world.take bytes

def system (fresh : β) : EventSystem (BufferWorld β) BufferEvent where
  initial world := world = ⟨fresh, [], []⟩
  step world event := (world.next event).toOption

end BufferWorld

/-- What the peer and the reader do; frames end at `limit` at the latest. -/
def Sends (stream : Nat → UInt8) (limit : Nat) : BufferEvent → Prop
  | .frame offset data _ =>
      data ≠ [] ∧ Holds (some ∘ stream) offset data ∧
        offset + data.length ≤ limit
  | .takeRegions iovCount _ => 0 < iovCount
  | _ => True

instance (stream : Nat → UInt8) (limit : Nat) (event : BufferEvent) :
    Decidable (Sends stream limit event) :=
  match event with
  | .frame _ _ _ => inferInstanceAs (Decidable (_ ∧ _ ∧ _))
  | .read _ => inferInstanceAs (Decidable True)
  | .takeRegions _ _ => inferInstanceAs (Decidable (_ < _))
  | .takeRegion => inferInstanceAs (Decidable True)

section Reassembling

variable {β : Type} [QuicStreamSequencerBufferInterface β] {limit : Nat}
  {Shows : β → Reassembly UInt8 → Prop} {stream : Nat → UInt8}
  {world : BufferWorld β}

def Follows (Shows : β → Reassembly UInt8 → Prop) (stream : Nat → UInt8)
    (world : BufferWorld β) (state : Reassembly UInt8) : Prop :=
  Shows world.buffer state ∧ state.InOrder stream world.output

theorem Follows.take {state : Reassembly UInt8} {bytes : List UInt8}
    (himplements : Implements limit Shows)
    (h : Follows Shows stream world state)
    (hbytes : Holds state.content state.consumed bytes) :
    ∃ next, world.take bytes = .ok next ∧
      next.accepted = world.accepted ∧
      Follows Shows stream next (state.consume bytes.length) := by
  obtain ⟨buffer, hconsume, hshows⟩ :=
    himplements.consume h.1 (Reassembly.Holds.readable hbytes)
  unfold BufferWorld.take
  rw [hconsume]
  exact ⟨_, rfl, rfl, hshows, h.2.consume hbytes⟩

inductive Moves (state : Reassembly UInt8) :
    BufferEvent → Reassembly UInt8 → Prop
  | keep (event : BufferEvent) : Moves state event state
  | arrive {offset : Nat} {data : List UInt8} (timestamp : Nat) :
      state.Fresh offset data.length →
      Moves state (.frame offset data timestamp) (state.arrive offset data)
  | consume {count : Nat} (event : BufferEvent) : state.Readable count →
      Moves state event (state.consume count)

theorem Follows.next {state : Reassembly UInt8} {event : BufferEvent}
    (himplements : Implements limit Shows)
    (h : Follows Shows stream world state) (hsends : Sends stream limit event) :
    ∃ next moved, world.next event = .ok next ∧ Moves state event moved ∧
      Follows Shows stream next moved := by
  cases event with
  | frame offset data timestamp =>
      obtain ⟨hdata, hpiece, hfinish⟩ := hsends
      obtain ⟨code, buffered, buffer, hdone, hcases⟩ :=
        himplements.accept h.1 timestamp hdata hfinish
      simp only [BufferWorld.next, hdone, Outcome.ok_bind]
      rcases hcases with ⟨-, -, hfresh, hshows⟩ | ⟨-, rfl⟩
      · exact ⟨_, _, rfl, .arrive timestamp hfresh, hshows,
          h.2.arrive hpiece⟩
      · exact ⟨_, _, rfl, .keep _, h.1, h.2⟩
  | read destinations =>
      obtain ⟨bytes, buffer, hread, hbytes, -, hshows⟩ :=
        himplements.read h.1 destinations
      simp only [BufferWorld.next, hread, Outcome.ok_bind]
      exact ⟨_, _, rfl, .consume _ (Reassembly.Holds.readable hbytes), hshows,
        h.2.consume hbytes⟩
  | takeRegions iovCount count =>
      obtain ⟨regions, hregions, -, -, hbytes, -⟩ :=
        himplements.regions h.1 hsends
      obtain ⟨next, htake, -, hfollows⟩ := h.take himplements
        (hbytes.take count)
      simp only [BufferWorld.next, hregions, Outcome.ok_bind]
      exact ⟨next, _, htake,
        .consume _ (Reassembly.Holds.readable (hbytes.take count)), hfollows⟩
  | takeRegion =>
      rcases himplements.region h.1 with
        ⟨-, hnone⟩ | ⟨bytes, timestamp, hregion, -, hbytes⟩
      · simp only [BufferWorld.next, hnone, Outcome.ok_bind]
        exact ⟨world, _, rfl, .keep _, h⟩
      · obtain ⟨next, htake, -, hfollows⟩ := h.take himplements hbytes
        simp only [BufferWorld.next, hregion, Outcome.ok_bind]
        exact ⟨next, _, htake,
          .consume _ (Reassembly.Holds.readable hbytes), hfollows⟩

end Reassembling

section Circular

variable {layout : BufferLayout} {limit : Nat} {stream : Nat → UInt8}
  {world : BufferWorld (StreamSequencerBuffer layout)}
  {state : Reassembly UInt8}

structure Records (world : BufferWorld (StreamSequencerBuffer layout))
    (state : Reassembly UInt8) : Prop where
  settled : ∀ frame ∈ world.accepted, ∀ position, frame.Covers position →
    state.Settled position
  stamped : ∀ position timestamp,
    world.buffer.frameArrivalTimeMap.arrivalAt position = some timestamp →
    ∃ frame ∈ world.accepted, frame.Covers position ∧
      frame.timestamp = timestamp

theorem Records.consume (h : Records world state) {count : Nat}
    (hreadable : state.Readable count)
    {next : BufferWorld (StreamSequencerBuffer layout)}
    (haccepted : next.accepted = world.accepted)
    (hkeeps : KeepsTimes world.buffer next.buffer) :
    Records next (state.consume count) where
  settled frame hmem position hcovers :=
    (Reassembly.settled_consume hreadable position).mpr
      (h.settled frame (haccepted ▸ hmem) position hcovers)
  stamped position timestamp hat := by
    rw [haccepted]
    exact h.stamped position timestamp (hkeeps position timestamp hat)

theorem Records.take (hfollows : Follows (Represents limit) stream world state)
    (h : Records world state) (hlimit : limit < maxStreamOffset)
    {bytes : List UInt8}
    (hbytes : Holds state.content state.consumed bytes) :
    ∃ next, world.take bytes = .ok next ∧
      Follows (Represents limit) stream next (state.consume bytes.length) ∧
      Records next (state.consume bytes.length) := by
  have hreadable := Reassembly.Holds.readable hbytes
  obtain ⟨buffer, hconsume, hshows, hkeeps⟩ :=
    hfollows.1.markConsumed hlimit hreadable
  unfold BufferWorld.take
  rw [show markConsumed world.buffer bytes.length = .ok (true, buffer)
    from hconsume]
  exact ⟨_, rfl, ⟨hshows, hfollows.2.consume hbytes⟩,
    h.consume hreadable rfl hkeeps⟩

theorem Records.frame (h : Records world state) {offset : Nat}
    {data : List UInt8} {timestamp : Nat} {code : QuicErrorCode}
    {buffered : Nat} {buffer : StreamSequencerBuffer layout}
    (hdata : data ≠ [])
    (hfollows : Follows (Represents limit) stream world state)
    (hpiece : Holds (some ∘ stream) offset data)
    (harrival : Arrival layout limit world.buffer state offset data timestamp
      code buffered buffer) :
    let next : BufferWorld (StreamSequencerBuffer layout) :=
      { world with
        buffer
        accepted := if code = .noError then
            world.accepted ++ [⟨offset, data.length, timestamp⟩]
          else world.accepted }
    ∃ moved, Follows (Represents limit) stream next moved ∧
      Records next moved := by
  cases harrival with
  | new hfresh _ hnext hframes =>
      have hlength := List.length_pos_of_ne_nil hdata
      have hunread : state.consumed ≤ offset := by
        by_contra hlt
        exact hfresh 0 hlength (.inl (by omega))
      refine ⟨state.arrive offset data, ⟨hnext, hfollows.2.arrive hpiece⟩,
        fun frame hmem position hcovers => ?_,
        fun position time hat => ?_⟩
      · rw [if_pos rfl, List.mem_append, List.mem_singleton] at hmem
        rw [Reassembly.settled_arrive]
        rcases hmem with hold | rfl
        · exact .inl (h.settled frame hold position hcovers)
        · exact .inr hcovers
      · rw [if_pos rfl]
        dsimp only at hat
        rw [hframes, (FrameArrivalTimeMap.insert_spec
          hfollows.1.framed.ordered hunread
          (show 0 < (⟨data.length, timestamp⟩ : FrameInfo).length from hlength)
          (fun index hindex => by
            rw [← Option.not_isSome_iff_eq_none,
              hfollows.1.framed.arrived _ (by omega)]
            exact fun hsome => hfresh index hindex (.inr hsome))).2] at hat
        split at hat
        next hinside =>
          exact ⟨_, List.mem_append_right _ (List.mem_singleton_self _),
            hinside, by simpa using hat⟩
        next =>
          obtain ⟨frame, hmem, hcovers, htime⟩ := h.stamped position time hat
          exact ⟨frame, List.mem_append_left _ hmem, hcovers, htime⟩
  | duplicate hall =>
      refine ⟨state, hfollows, fun frame hmem position hcovers => ?_,
        fun position time hat => ?_⟩
      · rw [if_pos rfl, List.mem_append, List.mem_singleton] at hmem
        rcases hmem with hold | rfl
        · exact h.settled frame hold position hcovers
        · obtain ⟨hge, hlt⟩ := hcovers
          dsimp only at hge hlt
          have := hall (position - offset) (by omega)
          rwa [Nat.add_sub_cancel' hge] at this
      · obtain ⟨frame, hmem, hcovers, htime⟩ := h.stamped position time hat
        exact ⟨frame, List.mem_append_left _ hmem, hcovers, htime⟩
  | overlap => exact ⟨state, hfollows, h.settled, h.stamped⟩
  | beyond => exact ⟨state, hfollows, h.settled, h.stamped⟩

theorem Records.next {event : BufferEvent} (h : Records world state)
    (hlimit : limit + layout.maxBufferCapacityBytes +
      layout.maxBufferCapacityBytes < maxStreamOffset)
    (hfollows : Follows (Represents limit) stream world state)
    (hsends : Sends stream limit event) :
    ∃ next moved, world.next event = .ok next ∧
      Follows (Represents limit) stream next moved ∧ Records next moved := by
  cases event with
  | frame offset data timestamp =>
      obtain ⟨hdata, hpiece, hfinish⟩ := hsends
      obtain ⟨code, buffered, buffer, hdone, harrival⟩ :=
        hfollows.1.onStreamData hlimit hdata hfinish timestamp
      obtain ⟨moved, hnext, hrecords⟩ :=
        h.frame hdata hfollows hpiece harrival
      refine ⟨_, moved, ?_, hnext, hrecords⟩
      rw [BufferWorld.next,
        show onStreamData world.buffer offset data timestamp =
        .ok (code, buffered, buffer) from hdone]
      rfl
  | read destinations =>
      obtain ⟨bytes, buffer, hread, hbytes, -, hshows, hkeeps⟩ :=
        hfollows.1.readv (by omega) destinations
      have hreadable := Reassembly.Holds.readable hbytes
      refine ⟨{ world with buffer, output := world.output ++ bytes },
        state.consume bytes.length, ?_, ⟨hshows, hfollows.2.consume hbytes⟩,
        h.consume hreadable rfl hkeeps⟩
      rw [BufferWorld.next,
        show readv world.buffer destinations = .ok (bytes, buffer) from hread]
      rfl
  | takeRegions iovCount count =>
      obtain ⟨regions, hregions, -, -, hbytes, -⟩ :=
        hfollows.1.backed.getReadableRegions (by omega) hsends
      obtain ⟨next, htake, hnext⟩ := h.take hfollows (by omega)
        (hbytes.take count)
      refine ⟨next, _, ?_, hnext⟩
      rw [BufferWorld.next,
        show getReadableRegions world.buffer iovCount = .ok regions from
          hregions]
      exact htake
  | takeRegion =>
      rcases hfollows.1.getReadableRegion (by omega) with
        ⟨-, hnone⟩ | ⟨bytes, timestamp, hregion, -, hbytes, -⟩
      · refine ⟨world, state, ?_, hfollows, h⟩
        rw [BufferWorld.next,
          show getReadableRegion world.buffer = .ok none from hnone]
        rfl
      · obtain ⟨next, htake, hnext⟩ := h.take hfollows (by omega) hbytes
        refine ⟨next, _, ?_, hnext⟩
        rw [BufferWorld.next, show getReadableRegion world.buffer =
          .ok (some (bytes, timestamp)) from hregion]
        exact htake

abbrev ReachableBuffer (layout : BufferLayout) (stream : Nat → UInt8)
    (limit : Nat) (world : BufferWorld (StreamSequencerBuffer layout)) : Prop :=
  (BufferWorld.system (StreamSequencerBuffer.new layout)).Reachable
    (fun _ event => Sends stream limit event) world

theorem records_of_reachable
    (hlimit : limit + layout.maxBufferCapacityBytes +
      layout.maxBufferCapacityBytes < maxStreamOffset)
    (hreach : ReachableBuffer layout stream limit world) :
    ∃ state, Follows (Represents limit) stream world state ∧
      Records world state := by
  refine hreach.invariant (fun world => ∃ state,
    Follows (Represents limit) stream world state ∧ Records world state) ?_ ?_
  · rintro _ rfl
    refine ⟨.start, ⟨represents_new (by omega), Reassembly.inOrder_start⟩,
      by simp, fun position timestamp hat => ?_⟩
    contradiction
  · rintro world event next ⟨state, hfollows, hrecords⟩ hsends hstep
    obtain ⟨other, moved, hnext, hother⟩ :=
      hrecords.next hlimit hfollows hsends
    obtain rfl : other = next := by
      have := (Outcome.toOption_eq_some _ _).mp hstep
      exact Except.ok.inj (hnext.symm.trans this)
    exact ⟨moved, hother⟩

/--
However the peer cuts, repeats and orders its frames: what the reader has got
is the start of the stream, no operation leaves the memory of the buffer, and
once accepted frames cover a first part of the stream, one read completes it.
-/
theorem circular_reads_in_order
    (hlimit : limit + layout.maxBufferCapacityBytes +
      layout.maxBufferCapacityBytes < maxStreamOffset)
    (hreach : ReachableBuffer layout stream limit world) :
    world.output = (List.range world.buffer.totalBytesRead).map stream ∧
    (∀ event, Sends stream limit event →
      ∃ next, world.next event = .ok next) ∧
    ∀ count,
      (∀ position < count, ∃ frame ∈ world.accepted, frame.Covers position) →
      ∃ bytes next, world.buffer.readv [count] = .ok (bytes, next) ∧
        (List.range count).map stream <+: world.output ++ bytes := by
  obtain ⟨state, hfollows, hrecords⟩ := records_of_reachable hlimit hreach
  have hconsumed := hfollows.1.backed.consumed
  refine ⟨hconsumed ▸ hfollows.2.read, fun event hsends => ?_,
    fun count hcovered => ?_⟩
  · obtain ⟨next, -, hnext, -⟩ := hrecords.next hlimit hfollows hsends
    exact ⟨next, hnext⟩
  · obtain ⟨bytes, next, hread, hbytes, hexact, -⟩ :=
      hfollows.1.readv (by omega) [count]
    refine ⟨bytes, next, hread, ?_⟩
    obtain ⟨gap, rest, -, -, hfront, -⟩ := hfollows.1.backed.front (by omega)
    have hlength := hexact _ hfront
    have hreached : count ≤ state.consumed +
        (gap.beginOffset - state.consumed) := by
      by_contra hshort
      obtain ⟨frame, hmem, hcovers⟩ := hcovered _ (Nat.not_le.mp hshort)
      rcases hrecords.settled frame hmem _ hcovers with hlt | hsome
      · omega
      · simp [hfront.2] at hsome
    have hmore := (hfollows.2.consume hbytes).read
    rw [Reassembly.consume_consumed] at hmore
    rw [hmore]
    refine List.IsPrefix.map _ ?_
    rw [List.sum_singleton] at hlength
    obtain ⟨extra, hextra⟩ : ∃ extra, state.consumed + bytes.length =
        count + extra := Nat.exists_eq_add_of_le (by omega)
    rw [hextra, List.range_add]
    exact List.prefix_append _ _

/--
`GetReadableRegion` gives nothing only when nothing can be read; otherwise its
bytes come next in the stream, and all of them arrived at its time.
-/
theorem circular_region_of_one_time
    (hlimit : limit + layout.maxBufferCapacityBytes +
      layout.maxBufferCapacityBytes < maxStreamOffset)
    (hreach : ReachableBuffer layout stream limit world) :
    world.buffer.hasBytesToRead = .ok false ∧
      world.buffer.getReadableRegion = .ok none ∨
    ∃ bytes timestamp, world.buffer.getReadableRegion =
        .ok (some (bytes, timestamp)) ∧
      world.buffer.hasBytesToRead = .ok true ∧ bytes ≠ [] ∧
      Holds (some ∘ stream) world.buffer.totalBytesRead bytes ∧
      ∀ index < bytes.length, ∃ frame ∈ world.accepted,
        frame.Covers (world.buffer.totalBytesRead + index) ∧
          frame.timestamp = timestamp := by
  obtain ⟨state, hfollows, hrecords⟩ := records_of_reachable hlimit hreach
  obtain ⟨count, hfront, hhas⟩ :=
    (streamSequencerBuffer_implements hlimit).front hfollows.1
  rw [show QuicStreamSequencerBufferInterface.hasBytesToRead world.buffer =
    world.buffer.hasBytesToRead from rfl] at hhas
  rw [hfollows.1.backed.consumed]
  rcases hfollows.1.getReadableRegion (by omega) with
    ⟨hzero, hnone⟩ | ⟨bytes, timestamp, hregion, hne, hbytes, htimes⟩
  · rw [hfront.unique hzero] at hhas
    exact .inl ⟨hhas, hnone⟩
  · have hpos := (Reassembly.Holds.readable hbytes).le_front hfront
    have hlength := List.length_pos_of_ne_nil hne
    rw [decide_eq_true (by omega)] at hhas
    refine .inr ⟨bytes, timestamp, hregion, hhas, hne,
      fun index hindex => ?_, fun index hindex => ?_⟩
    · have hheld := hbytes index hindex
      rw [List.getElem?_eq_getElem hindex] at hheld ⊢
      simp [hfollows.2.pieces _ _ hheld]
    · exact hrecords.stamped _ timestamp (htimes index hindex)

def StreamSequencerBuffer.Waits (buffer : StreamSequencerBuffer layout)
    (offset : Nat) : Prop :=
  buffer.totalBytesRead ≤ offset ∧ offset < maxStreamOffset ∧
    ¬ Covers buffer.gaps offset

/--
A block is allocated only while a byte in it waits, or while reading has come
to a gap inside it and bytes wait elsewhere: an empty buffer holds no block.
-/
theorem circular_holds_no_idle_block
    (hlimit : limit + layout.maxBufferCapacityBytes +
      layout.maxBufferCapacityBytes < maxStreamOffset)
    (hreach : ReachableBuffer layout stream limit world) (index : Nat)
    (hallocated : Allocated world.buffer.blocks index) :
    (∃ offset, world.buffer.Waits offset ∧
        layout.getBlockIndex offset = index) ∨
      0 < world.buffer.totalBytesRead ∧
        layout.getBlockIndex (world.buffer.totalBytesRead - 1) = index ∧
        layout.getBlockIndex world.buffer.totalBytesRead = index ∧
        ∃ offset, world.buffer.Waits offset := by
  obtain ⟨state, hfollows, -⟩ := records_of_reachable hlimit hreach
  have hwaits : ∀ offset, state.consumed ≤ offset →
      (state.content offset).isSome → world.buffer.Waits offset := by
    intro offset hunread hsome
    refine ⟨hfollows.1.backed.consumed ▸ hunread, ?_⟩
    exact (hfollows.1.backed.isSome_iff (by omega) hunread).mp hsome
  rw [hfollows.1.backed.consumed]
  rcases hfollows.1.tidy index hallocated with
    ⟨offset, hunread, hsome, hindex⟩ |
      ⟨hpos, hbehind, hhere, other, offset, hunread, hsome, -⟩
  · exact .inl ⟨offset, hwaits offset hunread hsome, hindex⟩
  · exact .inr ⟨hpos, hbehind, hhere, offset, hwaits offset hunread hsome⟩

end Circular

section WrappedRing

def shortRing : BufferLayout := ⟨5, 2, by decide, by decide⟩

def counting (offset : Nat) : UInt8 := UInt8.ofNat offset

def wrappingEvents : List BufferEvent :=
  [.frame 2 [2, 3] 7, .frame 0 [0, 1] 8, .read [1, 1, 1],
    .frame 4 [4, 5, 6] 9]

theorem wrappedRing_reachable :
    ∃ world, ReachableBuffer shortRing counting 7 world ∧
      world.output = [0, 1, 2] ∧
      world.accepted = [⟨2, 2, 7⟩, ⟨0, 2, 8⟩, ⟨4, 3, 9⟩] ∧
      Allocated world.buffer.blocks 1 ∧
      world.buffer.hasBytesToRead = .ok true := by
  obtain ⟨world, hreplay, hfacts⟩ :
      ∃ world, (BufferWorld.system (StreamSequencerBuffer.new shortRing)).replay
        (fun _ event => Sends counting 7 event)
        ⟨StreamSequencerBuffer.new shortRing, [], []⟩ wrappingEvents =
          some world ∧
        world.output = [0, 1, 2] ∧
        world.accepted = [⟨2, 2, 7⟩, ⟨0, 2, 8⟩, ⟨4, 3, 9⟩] ∧
        Allocated world.buffer.blocks 1 ∧
        world.buffer.hasBytesToRead = .ok true :=
    ⟨_, rfl, rfl, rfl, ⟨[2, 3], rfl⟩, rfl⟩
  exact ⟨world, .replay wrappingEvents (.start rfl) hreplay, hfacts⟩

theorem circular_reads_in_order_wrapped :
    ∃ world, ReachableBuffer shortRing counting 7 world ∧
      ∃ bytes next, world.buffer.readv [7] = .ok (bytes, next) ∧
        (List.range 7).map counting <+: world.output ++ bytes := by
  obtain ⟨world, hreach, -, haccepted, -⟩ := wrappedRing_reachable
  refine ⟨world, hreach, (circular_reads_in_order (by decide) hreach).2.2 7 ?_⟩
  rw [haccepted]
  unfold AcceptedFrame.Covers
  decide

theorem circular_region_of_one_time_wrapped :
    ∃ world, ReachableBuffer shortRing counting 7 world ∧
      ∃ bytes timestamp, world.buffer.getReadableRegion =
          .ok (some (bytes, timestamp)) ∧ bytes ≠ [] := by
  obtain ⟨world, hreach, -, -, -, hhas⟩ := wrappedRing_reachable
  rcases circular_region_of_one_time (by decide) hreach with
    ⟨hnone, -⟩ | ⟨bytes, timestamp, hregion, -, hne, -⟩
  · rw [hhas] at hnone
    contradiction
  · exact ⟨world, hreach, bytes, timestamp, hregion, hne⟩

theorem circular_holds_no_idle_block_wrapped :
    ∃ world, ReachableBuffer shortRing counting 7 world ∧
      ((∃ offset, world.buffer.Waits offset ∧
          shortRing.getBlockIndex offset = 1) ∨
        0 < world.buffer.totalBytesRead ∧
          shortRing.getBlockIndex (world.buffer.totalBytesRead - 1) = 1 ∧
          shortRing.getBlockIndex world.buffer.totalBytesRead = 1 ∧
          ∃ offset, world.buffer.Waits offset) := by
  obtain ⟨world, hreach, -, -, hallocated, -⟩ := wrappedRing_reachable
  exact ⟨world, hreach,
    circular_holds_no_idle_block (by decide) hreach 1 hallocated⟩

end WrappedRing

end RevSDK
