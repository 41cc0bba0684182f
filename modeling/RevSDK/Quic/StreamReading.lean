import RevSDK.Quic.BufferOperations
import RevSDK.Quic.FlowControl
import RevSDK.Quic.ReliableQuicStream

/-!
# What a stream makes of the frames of its peer

`Receiving` is the invariant of the receiving half: the buffer stands for a
reassembly of what the peer has written, both flow controllers count what is
read of it, and no call closes the connection or resets the stream.
-/

namespace RevSDK

open RevSDK.Foundation QuicStreamSequencerBufferInterface

variable {layout : BufferLayout}

section Controllers

variable {controller : QuicFlowController} {id limit consumed floor : Nat}

structure Window (controller : QuicFlowController)
    (id limit consumed floor : Nat) : Prop where
  granting : Granting controller
  id : controller.id = id
  limit : controller.receiveWindowSizeLimit = limit
  consumed : controller.bytesConsumed = consumed
  floor_le : floor ≤ controller.receiveWindowOffset

theorem Window.addBytesConsumed (h : Window controller id limit consumed floor)
    (timing : QuicTiming) {bytes : Nat} (hbytes : consumed + bytes ≤ floor)
    (hlimit : floor + limit + limit < maxStreamOffset) :
    ∃ next calls,
      controller.addBytesConsumed timing bytes = (next, calls) ∧
      Window next id limit (consumed + bytes) floor ∧
      SameOutside controller next ∧ Regranted controller next calls := by
  obtain ⟨hgranting, hid, hsize, hconsumed, hfloor⟩ := h
  obtain ⟨next, calls, hadd, hnext, hsame, hmore, htold⟩ :=
    QuicFlowController.addBytesConsumed_spec hgranting timing
      (show controller.bytesConsumed + bytes ≤
        controller.receiveWindowOffset by omega) (by omega)
  refine ⟨next, calls, hadd, ⟨hnext, hsame.id.trans hid,
    hsame.limit.trans hsize, by omega, ?_⟩, hsame, htold⟩
  cases htold with
  | same heq => omega
  | more hle => omega

end Controllers

structure Exchange where
  limit : Nat
  id : Nat
  written : List UInt8
  handedOver : Nat
  ended : Bool
  finArrived : Bool
  streamWindow : Nat
  connectionWindow : Nat
  otherConsumed : Nat
  otherHighest : Nat

namespace Exchange

/-- The peer keeps to the windows, and a FIN ends its stream. -/
structure Fair (exchange : Exchange) : Prop where
  handedOver_le : exchange.handedOver ≤ exchange.written.length
  written_le : exchange.written.length ≤ exchange.limit
  ended : exchange.ended = true →
    exchange.handedOver = exchange.written.length
  stream_le : exchange.handedOver ≤ exchange.streamWindow
  connection_le : exchange.otherHighest + exchange.handedOver ≤
    exchange.connectionWindow
  other_le : exchange.otherConsumed ≤ exchange.otherHighest
  streamWindow_lt : exchange.streamWindow + kStreamReceiveWindowLimit +
    kStreamReceiveWindowLimit < maxStreamOffset
  connectionWindow_lt : exchange.connectionWindow +
    kSessionReceiveWindowLimit + kSessionReceiveWindowLimit < maxStreamOffset

def hear (exchange : Exchange) (fin : Bool) : Exchange :=
  { exchange with finArrived := exchange.finArrived || fin }

theorem hear_false (exchange : Exchange) : exchange.hear false = exchange := by
  simp [hear]

theorem Fair.hear {exchange : Exchange} (h : exchange.Fair) (fin : Bool) :
    (exchange.hear fin).Fair :=
  ⟨h.handedOver_le, h.written_le, h.ended, h.stream_le, h.connection_le,
    h.other_le, h.streamWindow_lt, h.connectionWindow_lt⟩

structure Over (exchange : Exchange) (closeOffset consumed : Nat) : Prop where
  ended : exchange.ended = true
  consumed : consumed = exchange.written.length
  closeOffset : closeOffset = exchange.written.length

end Exchange

inductive Harmless (id streamWindow connectionWindow : Nat) :
    TransportCall → Prop
  | stream {byteOffset : Nat} : byteOffset ≤ streamWindow →
      Harmless id streamWindow connectionWindow
        (.sendWindowUpdate id byteOffset)
  | connection {byteOffset : Nat} : byteOffset ≤ connectionWindow →
      Harmless id streamWindow connectionWindow
        (.sendWindowUpdate kConnectionLevelId byteOffset)
  | onDataAvailable :
      Harmless id streamWindow connectionWindow (.onDataAvailable id)
  | streamDraining :
      Harmless id streamWindow connectionWindow (.streamDraining id)
  | closeStream : Harmless id streamWindow connectionWindow (.closeStream id)

structure Receiving (Piece : Nat → Nat → Prop) (exchange : Exchange)
    (context : StreamContext (StreamSequencerBuffer layout))
    (state : Reassembly UInt8) (output : List UInt8) : Prop where
  id : context.stream.id = exchange.id
  contributes :
    context.stream.streamContributesToConnectionFlowControl = true
  shows : Represents exchange.limit context.stream.sequencer.bufferedFrames
    state
  inOrder : context.stream.sequencer.ignoreReadData = false →
    state.InOrder (exchange.written.getD · 0) output
  whole : ∀ offset size, Piece offset size → state.Whole offset size
  arrived : ∀ offset, state.Settled offset →
    offset < context.stream.flowController.highestReceivedByteOffset
  highest_le : context.stream.flowController.highestReceivedByteOffset ≤
    exchange.handedOver
  highest : context.connectionFlowController.highestReceivedByteOffset =
    exchange.otherHighest +
      context.stream.flowController.highestReceivedByteOffset
  stream : Window context.stream.flowController exchange.id
    kStreamReceiveWindowLimit state.consumed exchange.streamWindow
  connection : Window context.connectionFlowController kConnectionLevelId
    kSessionReceiveWindowLimit (exchange.otherConsumed + state.consumed)
    exchange.connectionWindow
  closing : context.stream.sequencer.closeOffset = maxStreamOffset ∧
      exchange.finArrived = false ∨
    exchange.ended = true ∧
      context.stream.sequencer.closeOffset = exchange.written.length
  closed : context.stream.readSideClosed = true →
    exchange.Over context.stream.sequencer.closeOffset state.consumed
  told : ∀ call ∈ context.calls, Harmless exchange.id
    context.stream.flowController.receiveWindowOffset
    context.connectionFlowController.receiveWindowOffset call

structure Admitted (Piece : Nat → Nat → Prop) (exchange : Exchange)
    (frame : QuicStreamFrame) : Prop where
  piece : frame.data ≠ [] → Piece frame.offset frame.data.length
  le : frame.offset + frame.data.length ≤ exchange.handedOver
  holds : Holds (some ∘ (exchange.written.getD · 0)) frame.offset frame.data
  fin : frame.fin = true → exchange.ended = true ∧
    frame.offset + frame.data.length = exchange.written.length
  nonempty : frame.data ≠ [] ∨ frame.fin = true

section Operations

variable {Piece : Nat → Nat → Prop} {exchange : Exchange}
  {context : StreamContext (StreamSequencerBuffer layout)}
  {state moved : Reassembly UInt8} {output : List UInt8}

theorem Harmless.mono {id streamWindow connectionWindow streamWindow'
    connectionWindow' : Nat} {call : TransportCall}
    (h : Harmless id streamWindow connectionWindow call)
    (hstream : streamWindow ≤ streamWindow')
    (hconnection : connectionWindow ≤ connectionWindow') :
    Harmless id streamWindow' connectionWindow' call := by
  cases h with
  | stream hle => exact .stream (Nat.le_trans hle hstream)
  | connection hle => exact .connection (Nat.le_trans hle hconnection)
  | onDataAvailable => exact .onDataAvailable
  | streamDraining => exact .streamDraining
  | closeStream => exact .closeStream

theorem Receiving.add_le (h : Receiving Piece exchange context state output)
    {count : Nat} (hcount : state.Readable count) :
    state.consumed + count ≤ exchange.handedOver :=
  Nat.le_trans (hcount.add_le h.arrived) h.highest_le

theorem Receiving.consumed_le
    (h : Receiving Piece exchange context state output) :
    state.consumed ≤ exchange.handedOver :=
  h.add_le (show state.Readable 0 from
    fun _ hindex => absurd hindex (Nat.not_lt_zero _))

theorem Regranted.told {controller next : QuicFlowController}
    {calls : List TransportCall} (h : Regranted controller next calls) :
    controller.receiveWindowOffset ≤ next.receiveWindowOffset ∧
      ∀ call ∈ calls,
        call = .sendWindowUpdate controller.id next.receiveWindowOffset := by
  cases h with
  | same heq => exact ⟨heq.ge, by simp⟩
  | more hle => exact ⟨hle, by simp⟩

theorem onStreamController_eq {operation : QuicFlowController →
      QuicFlowController × List TransportCall}
    {controller : QuicFlowController} {calls : List TransportCall}
    (h : operation context.stream.flowController = (controller, calls)) :
    context.onStreamController operation = { context with
      stream := { context.stream with flowController := controller }
      calls := context.calls ++ calls } := by
  unfold StreamContext.onStreamController
  rw [h]

theorem onConnectionController_eq {operation : QuicFlowController →
      QuicFlowController × List TransportCall}
    {controller : QuicFlowController} {calls : List TransportCall}
    (hcontributes :
      context.stream.streamContributesToConnectionFlowControl = true)
    (h : operation context.connectionFlowController = (controller, calls)) :
    context.onConnectionController operation = { context with
      connectionFlowController := controller
      calls := context.calls ++ calls } := by
  unfold StreamContext.onConnectionController
  rw [if_pos hcontributes, h]

theorem Receiving.countInStream
    (h : Receiving Piece exchange context state output)
    (hfair : exchange.Fair) (timing : QuicTiming) {bytes : Nat}
    (buffer : StreamSequencerBuffer layout)
    (hbytes : state.consumed + bytes ≤ exchange.handedOver) :
    ∃ controller calls,
      (if context.stream.readSideClosed then context.withBuffer buffer
        else (context.withBuffer buffer).onStreamController
          (·.addBytesConsumed timing bytes)) =
        { context.withBuffer buffer with
          stream := { (context.withBuffer buffer).stream with
            flowController := controller }
          calls := context.calls ++ calls } ∧
      Window controller exchange.id kStreamReceiveWindowLimit
        (state.consumed + bytes) exchange.streamWindow ∧
      SameOutside context.stream.flowController controller ∧
      Regranted context.stream.flowController controller calls := by
  have hstream := hfair.stream_le
  have hlimit := hfair.streamWindow_lt
  cases hclosed : context.stream.readSideClosed with
  | true =>
      have hall := (h.closed hclosed).consumed
      have hle := hfair.handedOver_le
      obtain rfl : bytes = 0 := by omega
      exact ⟨context.stream.flowController, [],
        by simp [StreamContext.withBuffer, StreamContext.withSequencer],
        h.stream,
        ⟨rfl, rfl, rfl, rfl, rfl⟩, .same rfl⟩
  | false =>
      obtain ⟨next, calls, hadd, hwindow, hsame, htold⟩ :=
        h.stream.addBytesConsumed timing (show state.consumed + bytes ≤
          exchange.streamWindow by omega) hlimit
      refine ⟨next, calls, ?_, hwindow, hsame, htold⟩
      rw [if_neg Bool.false_ne_true]
      exact onStreamController_eq hadd

theorem Receiving.addBytesConsumed
    (h : Receiving Piece exchange context state output)
    (hfair : exchange.Fair) (timing : QuicTiming)
    {buffer : StreamSequencerBuffer layout} {bytes : Nat} (read : List UInt8)
    (hshows : Represents exchange.limit buffer moved)
    (hbytes : moved.consumed = state.consumed + bytes)
    (hinOrder : context.stream.sequencer.ignoreReadData = false →
      moved.InOrder (exchange.written.getD · 0) read)
    (hwhole : ∀ offset size, Piece offset size → moved.Whole offset size)
    (harrived : ∀ offset, moved.Settled offset →
      offset < context.stream.flowController.highestReceivedByteOffset) :
    Receiving Piece exchange
      ((context.withBuffer buffer).addBytesConsumed timing bytes) moved
      read := by
  have hmoved : moved.consumed ≤
      context.stream.flowController.highestReceivedByteOffset :=
    Reassembly.Readable.add_le (show moved.Readable 0 from
      fun _ hindex => absurd hindex (Nat.not_lt_zero _)) harrived
  have hhighest := h.highest_le
  have hconnection := hfair.connection_le
  have hother := hfair.other_le
  obtain ⟨controller, calls, hcount, hwindow, hsame, htold⟩ :=
    h.countInStream hfair timing buffer
      (show state.consumed + bytes ≤ exchange.handedOver by omega)
  obtain ⟨next, more, hadd, hnext, hsame', htold'⟩ :=
    h.connection.addBytesConsumed timing (show exchange.otherConsumed +
      state.consumed + bytes ≤ exchange.connectionWindow by omega)
      hfair.connectionWindow_lt
  have hdone : (context.withBuffer buffer).addBytesConsumed timing bytes =
      { context.withBuffer buffer with
        stream := { (context.withBuffer buffer).stream with
          flowController := controller }
        connectionFlowController := next
        calls := context.calls ++ calls ++ more } := by
    unfold StreamContext.addBytesConsumed
    rw [show (context.withBuffer buffer).stream.readSideClosed =
      context.stream.readSideClosed from rfl, hcount]
    exact onConnectionController_eq h.contributes hadd
  obtain ⟨hgrows, hcalls⟩ := htold.told
  obtain ⟨hgrows', hcalls'⟩ := htold'.told
  rw [hdone]
  refine ⟨h.id, h.contributes, hshows, hinOrder, hwhole, ?_, ?_, ?_, ?_, ?_,
    h.closing, fun hclosed => ?_, fun call hmem => ?_⟩
  · rw [hsame.highest]
    exact harrived
  · rw [hsame.highest]
    exact hhighest
  · rw [hsame'.highest, hsame.highest]
    exact h.highest
  · rw [hbytes]
    exact hwindow
  · rw [hbytes, ← Nat.add_assoc]
    exact hnext
  · obtain ⟨hended, hall, hclose⟩ := h.closed hclosed
    have := hfair.handedOver_le
    exact ⟨hended, by omega, hclose⟩
  · simp only [List.mem_append] at hmem
    rcases hmem with (hmem | hmem) | hmem
    · exact (h.told call hmem).mono hgrows hgrows'
    · rw [hcalls call hmem, h.stream.id]
      exact .stream (Nat.le_refl _)
    · rw [hcalls' call hmem, h.connection.id]
      exact .connection (Nat.le_refl _)

theorem Receiving.reads (h : Receiving Piece exchange context state output)
    (hfair : exchange.Fair) (timing : QuicTiming)
    {buffer : StreamSequencerBuffer layout} {bytes : List UInt8}
    (hbytes : Holds state.content state.consumed bytes)
    (hshows : Represents exchange.limit buffer (state.consume bytes.length)) :
    Receiving Piece exchange
        ((context.withBuffer buffer).addBytesConsumed timing bytes.length)
        (state.consume bytes.length) (output ++ bytes) ∧
      Reassembly.Grows state (state.consume bytes.length) := by
  have hcount := Reassembly.Holds.readable hbytes
  refine ⟨h.addBytesConsumed hfair timing _ hshows rfl
    (fun hreads => (h.inOrder hreads).consume hbytes)
    (fun offset size hpiece => (h.whole offset size hpiece).consume hcount)
    (fun offset hsettled => ?_), hcount.grows⟩
  exact h.arrived offset
    ((Reassembly.settled_consume hcount offset).mp hsettled)

theorem Receiving.readv (h : Receiving Piece exchange context state output)
    (hfair : exchange.Fair) (hlimit : exchange.limit < maxStreamOffset)
    (timing : QuicTiming) (destinations : List Nat) :
    ∃ bytes next, context.readv timing destinations = .ok (bytes, next) ∧
      Receiving Piece exchange next (state.consume bytes.length)
        (output ++ bytes) ∧
      Reassembly.Grows state (state.consume bytes.length) := by
  obtain ⟨bytes, buffer, hread, hbytes, -, hshows, -⟩ :=
    h.shows.readv hlimit destinations
  refine ⟨bytes, _, ?_, h.reads hfair timing hbytes hshows⟩
  unfold StreamContext.readv
  rw [show QuicStreamSequencerBufferInterface.readv
    context.stream.sequencer.bufferedFrames destinations = _ from hread]
  rfl

theorem Receiving.markConsumed
    (h : Receiving Piece exchange context state output)
    (hfair : exchange.Fair) (hlimit : exchange.limit < maxStreamOffset)
    (timing : QuicTiming) {bytes : List UInt8}
    (hbytes : Holds state.content state.consumed bytes) :
    ∃ next, context.markConsumed timing bytes.length = .ok next ∧
      Receiving Piece exchange next (state.consume bytes.length)
        (output ++ bytes) ∧
      Reassembly.Grows state (state.consume bytes.length) := by
  obtain ⟨buffer, hdone, hshows, -⟩ :=
    h.shows.markConsumed hlimit (Reassembly.Holds.readable hbytes)
  refine ⟨_, ?_, h.reads hfair timing hbytes hshows⟩
  unfold StreamContext.markConsumed
  rw [show QuicStreamSequencerBufferInterface.markConsumed
    context.stream.sequencer.bufferedFrames bytes.length = _ from hdone]
  rfl

theorem Receiving.tell (h : Receiving Piece exchange context state output)
    {call : TransportCall} (hcall : Harmless exchange.id
      context.stream.flowController.receiveWindowOffset
      context.connectionFlowController.receiveWindowOffset call) :
    Receiving Piece exchange (context.tell call) state output :=
  ⟨h.id, h.contributes, h.shows, h.inOrder, h.whole, h.arrived, h.highest_le,
    h.highest, h.stream, h.connection, h.closing, h.closed, fun other hmem => by
      rcases List.mem_append.mp hmem with hmem | hmem
      · exact h.told other hmem
      · exact List.mem_singleton.mp hmem ▸ hcall⟩

theorem Receiving.withSequencer
    (h : Receiving Piece exchange context state output)
    (sequencer : QuicStreamSequencer (StreamSequencerBuffer layout))
    (hshows : Represents exchange.limit sequencer.bufferedFrames moved)
    (hinOrder : sequencer.ignoreReadData = false →
      moved.InOrder (exchange.written.getD · 0) output)
    (hwhole : ∀ offset size, Piece offset size → moved.Whole offset size)
    (harrived : ∀ offset, moved.Settled offset →
      offset < context.stream.flowController.highestReceivedByteOffset)
    (hconsumed : moved.consumed = state.consumed)
    (hclose : sequencer.closeOffset = context.stream.sequencer.closeOffset ∨
      exchange.ended = true ∧
        sequencer.closeOffset = exchange.written.length) :
    Receiving Piece exchange (context.withSequencer sequencer) moved
      output := by
  refine ⟨h.id, h.contributes, hshows, hinOrder, hwhole, harrived,
    h.highest_le, h.highest, hconsumed ▸ h.stream, hconsumed ▸ h.connection,
    ?_, fun hclosed => ?_, h.told⟩
  · rcases hclose with hsame | hend
    · exact hsame ▸ h.closing
    · exact .inr hend
  · obtain ⟨hended, hall, hold⟩ := h.closed hclosed
    refine ⟨hended, hconsumed.trans hall, ?_⟩
    rcases hclose with hsame | hend
    · exact hsame.trans hold
    · exact hend.2

theorem Receiving.hear (h : Receiving Piece exchange context state output)
    (hended : exchange.ended = true)
    (hclose : context.stream.sequencer.closeOffset = exchange.written.length)
    (fin : Bool) :
    Receiving Piece (exchange.hear fin) context state output :=
  ⟨h.id, h.contributes, h.shows, h.inOrder, h.whole, h.arrived, h.highest_le,
    h.highest, h.stream, h.connection, .inr ⟨hended, hclose⟩,
    fun hclosed => ⟨hended, (h.closed hclosed).consumed, hclose⟩, h.told⟩

theorem Receiving.sequencer
    (h : Receiving Piece exchange context state output)
    {sequencer : QuicStreamSequencer (StreamSequencerBuffer layout)}
    (hbuffer : sequencer.bufferedFrames =
      context.stream.sequencer.bufferedFrames)
    (hclose : sequencer.closeOffset = context.stream.sequencer.closeOffset)
    (hignore : sequencer.ignoreReadData =
      context.stream.sequencer.ignoreReadData) :
    Receiving Piece exchange (context.withSequencer sequencer) state output :=
  h.withSequencer sequencer (hbuffer ▸ h.shows) (hignore ▸ h.inOrder) h.whole
    h.arrived rfl (.inl hclose)

theorem Receiving.ended (h : Receiving Piece exchange context state output)
    (hfair : exchange.Fair) (hlimit : exchange.limit < maxStreamOffset)
    (hclosed : context.isClosed = true) :
    exchange.Over context.stream.sequencer.closeOffset state.consumed := by
  unfold StreamContext.isClosed at hclosed
  rw [show bytesConsumed context.stream.sequencer.bufferedFrames =
    state.consumed from h.shows.backed.consumed, decide_eq_true_eq] at hclosed
  have hconsumed := h.consumed_le
  have hhanded := hfair.handedOver_le
  have hwritten := hfair.written_le
  rcases h.closing with ⟨hopen, -⟩ | ⟨hended, hclose⟩
  · omega
  · exact ⟨hended, by omega, hclose⟩

theorem Receiving.onFinRead (h : Receiving Piece exchange context state output)
    (hover : exchange.Over context.stream.sequencer.closeOffset
      state.consumed) :
    Receiving Piece exchange context.onFinRead state output := by
  have hread : ∀ closed, Receiving Piece exchange { context with
      stream := { context.stream with
        finReceived := true, readSideClosed := closed } } state output :=
    fun _ => ⟨h.id, h.contributes, h.shows, h.inOrder, h.whole, h.arrived,
      h.highest_le, h.highest, h.stream, h.connection, h.closing,
      fun _ => hover, h.told⟩
  unfold StreamContext.onFinRead StreamContext.closeReadSide
  dsimp only
  split
  next => exact hread context.stream.readSideClosed
  next =>
    split
    · refine (hread true).tell ?_
      rw [h.id]
      exact .closeStream
    · exact hread true

theorem Receiving.clear (h : Receiving Piece exchange context state output)
    (hfair : exchange.Fair) (hlimit : exchange.limit < maxStreamOffset)
    (hall : state.consumed = exchange.written.length) :
    Receiving Piece exchange
        (context.withBuffer (clear context.stream.sequencer.bufferedFrames))
        (state.skipTo state.consumed) output ∧
      Reassembly.Grows state (state.skipTo state.consumed) := by
  have hbelow : ∀ offset, state.Settled offset → offset < state.consumed := by
    intro offset hsettled
    have hlt := h.arrived offset hsettled
    have hle := h.highest_le
    have hhanded := hfair.handedOver_le
    omega
  have hends : state.Ends state.consumed :=
    ⟨Nat.le_refl _, hbelow, .inl rfl⟩
  refine ⟨h.withSequencer _ (h.shows.clear hlimit)
    (fun hreads => (h.inOrder hreads).forget)
    (fun offset size hpiece => (h.whole offset size hpiece).skipTo hends)
    (fun offset hsettled => ?_) rfl (.inl rfl),
    Reassembly.grows_skipTo (Nat.le_refl _) hbelow⟩
  have hlt := Reassembly.settled_skipTo.mp hsettled
  exact h.arrived offset (.inl hlt)

theorem Receiving.maybeCloseStream
    (h : Receiving Piece exchange context state output)
    (hfair : exchange.Fair) (hlimit : exchange.limit < maxStreamOffset) :
    ∃ moved, Receiving Piece exchange context.maybeCloseStream moved output ∧
      Reassembly.Grows state moved := by
  unfold StreamContext.maybeCloseStream
  split
  next => exact ⟨state, h, .refl⟩
  next hclosing =>
    rw [Bool.or_eq_true, not_or, Bool.not_eq_true, Bool.not_eq_true,
      Bool.not_eq_false'] at hclosing
    have hover := h.ended hfair hlimit hclosing.2
    split
    · exact ⟨_, (h.onFinRead hover).clear hfair hlimit hover.consumed⟩
    · rw [show context.stream.id = exchange.id from h.id]
      exact ⟨_, (h.tell .onDataAvailable).clear hfair hlimit hover.consumed⟩

theorem Receiving.closeStreamAtOffset
    (h : Receiving Piece exchange context state output)
    (hfair : exchange.Fair) (hlimit : exchange.limit < maxStreamOffset)
    (hended : exchange.ended = true) (fin : Bool) :
    ∃ moved, Receiving Piece (exchange.hear fin)
        (context.closeStreamAtOffset exchange.written.length) moved output ∧
      Reassembly.Grows state moved := by
  unfold StreamContext.closeStreamAtOffset
  rw [if_neg (by
    rintro ⟨hclosing, hother⟩
    rcases h.closing with ⟨hopen, -⟩ | ⟨-, hclose⟩
    · exact hclosing hopen
    · exact hother hclose.symm)]
  exact ((h.withSequencer { context.stream.sequencer with
    closeOffset := exchange.written.length } h.shows h.inOrder h.whole
    h.arrived rfl (.inr ⟨hended, rfl⟩)).hear hended rfl fin).maybeCloseStream
      (hfair.hear fin) hlimit

theorem maybeCloseStream_flowController :
    context.maybeCloseStream.stream.flowController =
      context.stream.flowController := by
  unfold StreamContext.maybeCloseStream StreamContext.onFinRead
    StreamContext.closeReadSide
  dsimp only
  split
  · rfl
  · split
    · split
      · rfl
      · split <;> rfl
    · rfl

theorem closeStreamAtOffset_flowController (offset : Nat) :
    (context.closeStreamAtOffset offset).stream.flowController =
      context.stream.flowController := by
  unfold StreamContext.closeStreamAtOffset
  split
  · rfl
  · exact maybeCloseStream_flowController

theorem Receiving.flushBufferedFrames
    (h : Receiving Piece exchange context state output)
    (hfair : exchange.Fair) (hlimit : exchange.limit < maxStreamOffset)
    (timing : QuicTiming)
    (hignore : context.stream.sequencer.ignoreReadData = true) :
    ∃ next moved, context.flushBufferedFrames timing = .ok next ∧
      Receiving Piece exchange next moved output ∧
      Reassembly.Grows state moved := by
  obtain ⟨finish, buffer, hends, hflush, hshows⟩ :=
    h.shows.flushBufferedFrames hlimit
  have hfinish : finish ≤
      context.stream.flowController.highestReceivedByteOffset := by
    rcases hends.reached with rfl | hlast
    · exact Reassembly.Readable.add_le (show state.Readable 0 from
        fun _ hindex => absurd hindex (Nat.not_lt_zero _)) h.arrived
    · have := h.arrived _ hlast
      omega
  have hle := hends.consumed_le
  have hflushed := h.addBytesConsumed hfair timing output hshows
    (show finish = state.consumed + (finish - state.consumed) by omega)
    (fun hreads => by simp [hignore] at hreads)
    (fun offset size hpiece => (h.whole offset size hpiece).skipTo hends)
    (fun offset hsettled => Nat.lt_of_lt_of_le
      (Reassembly.settled_skipTo.mp hsettled) hfinish)
  obtain ⟨moved, hnext, hgrows⟩ := hflushed.maybeCloseStream hfair hlimit
  refine ⟨_, moved, ?_, hnext,
    (Reassembly.grows_skipTo hle hends.settled_lt).trans hgrows⟩
  unfold StreamContext.flushBufferedFrames
  rw [show QuicStreamSequencerBufferInterface.flushBufferedFrames
    context.stream.sequencer.bufferedFrames = _ from hflush]
  rfl

theorem Receiving.onBuffered
    (h : Receiving Piece exchange context state output)
    (hfair : exchange.Fair) (hlimit : exchange.limit < maxStreamOffset)
    (timing : QuicTiming) (offset bytesWritten : Nat) :
    ∃ next moved,
      context.onBuffered timing offset .noError bytesWritten = .ok next ∧
      Receiving Piece exchange next moved output ∧
      Reassembly.Grows state moved := by
  unfold StreamContext.onBuffered
  dsimp only
  rw [if_neg (by simp)]
  split
  next => exact ⟨_, state, rfl, h.sequencer rfl rfl rfl, .refl⟩
  next =>
    by_cases hearly :
        offset > bytesConsumed context.stream.sequencer.bufferedFrames
    · rw [if_pos hearly, if_neg (show ¬offset = _ by omega), ite_self]
      exact ⟨_, state, rfl, h.sequencer rfl rfl rfl, .refl⟩
    · rw [if_neg hearly]
      split
      next => exact ⟨_, state, rfl, h, .refl⟩
      next =>
        split
        next =>
          split
          next hignore =>
            exact h.flushBufferedFrames hfair hlimit timing hignore
          next =>
            refine ⟨_, state, rfl, h.tell ?_, .refl⟩
            rw [h.id]
            exact .onDataAvailable
        next => exact ⟨_, state, rfl, h, .refl⟩

theorem Receiving.within
    (h : Receiving Piece exchange context state output)
    (hfair : exchange.Fair)
    (hcapacity : kStreamReceiveWindowLimit ≤ layout.maxBufferCapacityBytes) :
    exchange.handedOver ≤ state.consumed + layout.maxBufferCapacityBytes := by
  have hstream := hfair.stream_le
  have hfloor := h.stream.floor_le
  have hhigh := h.stream.granting.high
  have hsize := h.stream.granting.size_le
  rw [h.stream.limit] at hsize
  rw [h.stream.consumed] at hhigh
  omega

theorem Receiving.accept
    (h : Receiving Piece exchange context state output)
    (hfair : exchange.Fair) (hcut : CutOnce Piece)
    (hcapacity : kStreamReceiveWindowLimit ≤ layout.maxBufferCapacityBytes)
    (hlimit : exchange.limit + layout.maxBufferCapacityBytes +
      layout.maxBufferCapacityBytes < maxStreamOffset)
    {offset : Nat} {data : List UInt8} (hdata : data ≠ [])
    (hpiece : Piece offset data.length)
    (hholds : Holds (some ∘ (exchange.written.getD · 0)) offset data)
    (hcount : offset + data.length ≤
      context.stream.flowController.highestReceivedByteOffset)
    (timestamp : Nat) :
    ∃ buffered buffer moved,
      onStreamData context.stream.sequencer.bufferedFrames offset data
        timestamp = .ok (.noError, buffered, buffer) ∧
      Receiving Piece exchange (context.withBuffer buffer) moved output ∧
      Reassembly.Grows state moved ∧
      ∀ index < data.length, moved.Settled (offset + index) := by
  have hlength := List.length_pos_of_ne_nil hdata
  have hhighest := h.highest_le
  have hhanded := hfair.handedOver_le
  have hwritten := hfair.written_le
  have hwithin := h.within hfair hcapacity
  obtain ⟨code, buffered, buffer, hdone, harrival⟩ :=
    h.shows.onStreamData hlimit hdata
      (show offset + data.length ≤ exchange.limit by omega) timestamp
  cases harrival with
  | new hfresh _ hshows _ =>
      refine ⟨_, buffer, _, hdone, h.withSequencer _ hshows
        (fun hreads => (h.inOrder hreads).arrive hholds)
        (fun other size hother =>
          (h.whole other size hother).arrive (hcut hpiece hother))
        (fun position hsettled => ?_) rfl (.inl rfl), Reassembly.grows_arrive,
        fun index hindex => (Reassembly.settled_arrive _).mpr
          (.inr ⟨Nat.le_add_right _ _, by omega⟩)⟩
      rcases (Reassembly.settled_arrive _).mp hsettled with hold | hinside
      · exact h.arrived position hold
      · omega
  | duplicate hall => exact ⟨_, _, state, hdone, h, .refl, hall⟩
  | overlap hsome hmissing =>
      obtain ⟨index, hindex, hthere⟩ := hsome
      obtain ⟨other, hother, hgone⟩ := hmissing
      rcases h.whole offset data.length hpiece with hfresh | hall
      · exact absurd hthere (hfresh index hindex)
      · exact absurd (hall other hother) hgone
  | beyond _ hbeyond => omega

theorem Receiving.connection_increase
    (h : Receiving Piece exchange context state output)
    (hfair : exchange.Fair) {newOffset : Nat}
    (hoffset : newOffset ≤ exchange.handedOver)
    (hmore : context.stream.flowController.highestReceivedByteOffset <
      newOffset) :
    (context.connectionFlowController.updateHighestReceivedOffset
      (offsetSum context.connectionFlowController.highestReceivedByteOffset
        (offsetDifference newOffset
          context.stream.flowController.highestReceivedByteOffset))).2 =
      { context.connectionFlowController with
        highestReceivedByteOffset := exchange.otherHighest + newOffset } := by
  have hconnection := hfair.connection_le
  have hstream := hfair.stream_le
  have hhighest := h.highest
  have hstreamLt := hfair.streamWindow_lt
  have hconnectionLt := hfair.connectionWindow_lt
  rw [offsetDifference_eq hmore.le (by omega), offsetSum_eq (by omega),
    QuicFlowController.updateHighestReceivedOffset, if_neg (by omega)]
  dsimp only
  rw [show context.connectionFlowController.highestReceivedByteOffset +
    (newOffset - context.stream.flowController.highestReceivedByteOffset) =
      exchange.otherHighest + newOffset by omega]

theorem Receiving.maybeIncrease
    (h : Receiving Piece exchange context state output)
    (hfair : exchange.Fair) {newOffset : Nat}
    (hoffset : newOffset ≤ exchange.handedOver) :
    ∃ increased next,
      context.maybeIncreaseHighestReceivedOffset newOffset =
        (increased, next) ∧
      Receiving Piece exchange next state output ∧
      newOffset ≤ next.stream.flowController.highestReceivedByteOffset ∧
      next.stream.flowController.flowControlViolation = false ∧
      next.connectionFlowController.flowControlViolation = false := by
  have hstream := hfair.stream_le
  have hconnection := hfair.connection_le
  have hstreamWindow := h.stream.floor_le
  have hconnectionWindow := h.connection.floor_le
  have hhighest := h.highest_le
  have hconnectionHighest := h.highest
  unfold StreamContext.maybeIncreaseHighestReceivedOffset
  dsimp only
  by_cases hold : newOffset ≤
      context.stream.flowController.highestReceivedByteOffset
  · rw [QuicFlowController.updateHighestReceivedOffset, if_pos hold]
    exact ⟨false, context, rfl, h, hold, decide_eq_false (by omega),
      decide_eq_false (by omega)⟩
  · have hadd := h.connection_increase hfair hoffset (Nat.lt_of_not_le hold)
    rw [show context.stream.flowController.updateHighestReceivedOffset
      newOffset = (true, { context.stream.flowController with
        highestReceivedByteOffset := newOffset }) from if_neg hold]
    dsimp only
    rw [if_neg (by simp)]
    refine ⟨true, _, congrArg (Prod.mk true)
      (onConnectionController_eq h.contributes
        (congrArg (·, ([] : List TransportCall)) hadd)), ⟨h.id, h.contributes,
      h.shows, h.inOrder, h.whole, fun offset hsettled => ?_, hoffset, rfl,
      ⟨⟨h.stream.granting.two_le, h.stream.granting.size_le,
        h.stream.granting.low, h.stream.granting.high⟩, h.stream.id,
        h.stream.limit, h.stream.consumed, h.stream.floor_le⟩,
      ⟨⟨h.connection.granting.two_le, h.connection.granting.size_le,
        h.connection.granting.low, h.connection.granting.high⟩,
        h.connection.id, h.connection.limit, h.connection.consumed,
        h.connection.floor_le⟩, h.closing, h.closed, ?_⟩, Nat.le_refl _,
      decide_eq_false ?_, decide_eq_false ?_⟩
    · have := h.arrived offset hsettled
      dsimp only
      omega
    · rw [List.append_nil]
      exact h.told
    · dsimp only
      omega
    · dsimp only
      omega

section Frames

variable {frame : QuicStreamFrame}

theorem Receiving.closeAtFin
    (h : Receiving Piece exchange context state output)
    (hfair : exchange.Fair) (hlimit : exchange.limit < maxStreamOffset)
    (hframe : Admitted Piece exchange frame) :
    ∃ next moved,
      (if frame.fin then context.closeStreamAtOffset
          (offsetSum frame.offset frame.data.length)
        else context) = next ∧
      Receiving Piece (exchange.hear frame.fin) next moved output ∧
      Reassembly.Grows state moved ∧
      next.stream.flowController = context.stream.flowController := by
  split
  next hfin =>
    obtain ⟨hended, hend⟩ := hframe.fin hfin
    have hwritten := hfair.written_le
    rw [offsetSum_eq (by omega), hend]
    obtain ⟨moved, hnext, hgrows⟩ :=
      h.closeStreamAtOffset hfair hlimit hended frame.fin
    exact ⟨_, moved, rfl, hnext, hgrows, closeStreamAtOffset_flowController _⟩
  next hdata =>
    rw [Bool.not_eq_true] at hdata
    rw [hdata, Exchange.hear_false]
    exact ⟨_, state, rfl, h, .refl, rfl⟩

theorem Receiving.sequencerOnStreamFrame
    (h : Receiving Piece exchange context state output)
    (hfair : exchange.Fair) (hcut : CutOnce Piece)
    (hcapacity : kStreamReceiveWindowLimit ≤ layout.maxBufferCapacityBytes)
    (hlimit : exchange.limit + layout.maxBufferCapacityBytes +
      layout.maxBufferCapacityBytes < maxStreamOffset)
    (timing : QuicTiming) (hframe : Admitted Piece exchange frame)
    (hcount : frame.offset + frame.data.length ≤
      context.stream.flowController.highestReceivedByteOffset) :
    ∃ next moved, context.sequencerOnStreamFrame timing frame = .ok next ∧
      Receiving Piece (exchange.hear frame.fin) next moved output ∧
      Reassembly.Grows state moved ∧
      ∀ index < frame.data.length, moved.Settled (frame.offset + index) := by
  have hhanded := hfair.handedOver_le
  have hwritten := hfair.written_le
  have hle := hframe.le
  obtain ⟨closing, moved, hclose, hclosing, hgrows, hsame⟩ :=
    (h.sequencer rfl rfl rfl : Receiving Piece exchange
      (context.withSequencer { context.stream.sequencer with
        numFramesReceived := context.stream.sequencer.numFramesReceived + 1 })
      state output).closeAtFin hfair (by omega) hframe
  unfold StreamContext.sequencerOnStreamFrame
  dsimp only
  rw [if_neg (by simpa [or_iff_not_imp_left] using hframe.nonempty), hclose]
  split
  next hempty =>
    refine ⟨closing, moved, rfl, hclosing, hgrows, fun index hindex => ?_⟩
    rw [List.isEmpty_iff.mp hempty] at hindex
    exact absurd hindex (Nat.not_lt_zero _)
  next hdata =>
    rw [List.isEmpty_iff] at hdata
    obtain ⟨buffered, buffer, kept, hdone, hkept, hmore, hall⟩ :=
      hclosing.accept (hfair.hear frame.fin) hcut hcapacity hlimit hdata
        (hframe.piece hdata) hframe.holds (by rw [hsame]; exact hcount)
        timing.now
    obtain ⟨next, last, hnext, hlast, hlater⟩ :=
      hkept.onBuffered (hfair.hear frame.fin)
        (show exchange.limit < maxStreamOffset by omega) timing frame.offset
        buffered
    refine ⟨next, last, ?_, hlast, hgrows.trans (hmore.trans hlater),
      fun index hindex => hlater.settled _ (hall index hindex)⟩
    rw [hdone, Outcome.ok_bind]
    exact hnext

theorem Receiving.noteFin (h : Receiving Piece exchange context state output)
    (frame : QuicStreamFrame) :
    Receiving Piece exchange
      (if frame.fin then
        if context.stream.finSent then
          { context with stream := { context.stream with
            finReceived := true } }.tell (.streamDraining context.stream.id)
        else { context with stream := { context.stream with
          finReceived := true } }
      else context) state output := by
  have hnoted : Receiving Piece exchange { context with
      stream := { context.stream with finReceived := true } } state output :=
    ⟨h.id, h.contributes, h.shows, h.inOrder, h.whole, h.arrived, h.highest_le,
      h.highest, h.stream, h.connection, h.closing, h.closed, h.told⟩
  split
  · split
    · refine hnoted.tell ?_
      rw [h.id]
      exact .streamDraining
    · exact hnoted
  · exact h

theorem Receiving.onStreamFrame
    (h : Receiving Piece exchange context state output)
    (hfair : exchange.Fair) (hcut : CutOnce Piece)
    (hcapacity : kStreamReceiveWindowLimit ≤ layout.maxBufferCapacityBytes)
    (hlimit : exchange.limit + layout.maxBufferCapacityBytes +
      layout.maxBufferCapacityBytes < maxStreamOffset)
    (timing : QuicTiming) (hframe : Admitted Piece exchange frame) :
    ∃ next moved, context.onStreamFrame timing frame = .ok next ∧
      Receiving Piece (exchange.hear frame.fin) next moved output ∧
      Reassembly.Grows state moved ∧
      ∀ index < frame.data.length, moved.Settled (frame.offset + index) := by
  have hhanded := hfair.handedOver_le
  have hle := hframe.le
  have hnoted := h.noteFin frame
  unfold StreamContext.onStreamFrame
  dsimp only
  generalize (if frame.fin then
        if context.stream.finSent then
          { context with stream := { context.stream with
            finReceived := true } }.tell (.streamDraining context.stream.id)
        else { context with stream := { context.stream with
          finReceived := true } }
      else context) = noted at hnoted ⊢
  split
  next hclosed =>
    have hover := hnoted.closed hclosed
    refine ⟨noted, state, rfl,
      hnoted.hear hover.ended hover.closeOffset frame.fin, .refl,
      fun index hindex => .inl ?_⟩
    rw [hover.consumed]
    omega
  next hopen =>
    have hread : Receiving Piece exchange { noted with
        stream := { noted.stream with
          streamBytesRead := offsetSum noted.stream.streamBytesRead
            frame.data.length } } state output :=
      ⟨hnoted.id, hnoted.contributes, hnoted.shows, hnoted.inOrder,
        hnoted.whole, hnoted.arrived, hnoted.highest_le, hnoted.highest,
        hnoted.stream, hnoted.connection, hnoted.closing, hnoted.closed,
        hnoted.told⟩
    have hwritten := hfair.written_le
    rw [offsetSum_eq (show frame.offset + frame.data.length <
      maxStreamOffset by omega)]
    obtain ⟨increased, next, hincrease, hnext, hcount, hstream, hconnection⟩ :=
      hread.maybeIncrease hfair hle
    rw [hincrease]
    dsimp only
    rw [hstream, hconnection, if_neg (by simp)]
    exact hnext.sequencerOnStreamFrame hfair hcut hcapacity hlimit timing
      hframe hcount

end Frames

/-- What the peer writes and hands over later changes nothing received. -/
structure Exchange.Continues (exchange next : Exchange) : Prop where
  limit : next.limit = exchange.limit
  id : next.id = exchange.id
  written : exchange.written <+: next.written
  handedOver : exchange.handedOver ≤ next.handedOver
  ended : exchange.ended = true →
    next.ended = true ∧ next.written = exchange.written
  finArrived : next.finArrived = exchange.finArrived

theorem Receiving.continues {next : Exchange}
    {later : StreamContext (StreamSequencerBuffer layout)}
    (h : Receiving Piece exchange context state output)
    (hhanded : exchange.handedOver ≤ exchange.written.length)
    (hnext : exchange.Continues next)
    (hstream : later.stream = context.stream) (hcalls : later.calls = [])
    (hwindow : next.streamWindow ≤
      context.stream.flowController.receiveWindowOffset)
    (hhighest : later.connectionFlowController.highestReceivedByteOffset =
      next.otherHighest +
        context.stream.flowController.highestReceivedByteOffset)
    (hconnection : Window later.connectionFlowController kConnectionLevelId
      kSessionReceiveWindowLimit (next.otherConsumed + state.consumed)
      next.connectionWindow) :
    Receiving Piece next later state output := by
  have hhighest_le := h.highest_le
  refine ⟨?_, ?_, ?_, fun hreads => ?_, h.whole, ?_, ?_, ?_, ?_, hconnection,
    ?_, fun hclosed => ?_, by simp [hcalls]⟩
  · rw [hstream, hnext.id, h.id]
  · rw [hstream, h.contributes]
  · rw [hstream, hnext.limit]
    exact h.shows
  · rw [hstream] at hreads
    refine (h.inOrder hreads).congr fun offset hsettled => ?_
    have hbelow := h.arrived offset hsettled
    have hsame := List.prefix_iff_getElem?.mp hnext.written offset (by omega)
    rw [List.getD_eq_getElem?_getD, List.getD_eq_getElem?_getD, hsame,
      List.getElem?_eq_getElem (by omega)]
  · rw [hstream]
    exact h.arrived
  · rw [hstream]
    exact Nat.le_trans hhighest_le hnext.handedOver
  · rw [hstream]
    exact hhighest
  · rw [hstream, hnext.id]
    exact ⟨h.stream.granting, h.stream.id, h.stream.limit, h.stream.consumed,
      hwindow⟩
  · rw [hstream, hnext.finArrived]
    refine h.closing.imp_right fun hend => ?_
    obtain ⟨hended, hwritten⟩ := hnext.ended hend.1
    exact ⟨hended, hwritten ▸ hend.2⟩
  · rw [hstream] at hclosed ⊢
    obtain ⟨hended, hall, hclose⟩ := h.closed hclosed
    obtain ⟨hended', hwritten⟩ := hnext.ended hended
    exact ⟨hended', hwritten ▸ hall, hwritten ▸ hclose⟩

theorem Receiving.setUnblocked
    (h : Receiving Piece exchange context state output)
    (hlimit : exchange.limit + layout.maxBufferCapacityBytes +
      layout.maxBufferCapacityBytes < maxStreamOffset) :
    ∃ next, context.setUnblocked = .ok next ∧
      Receiving Piece exchange next state output := by
  have hopen : Receiving Piece exchange
      (context.withSequencer { context.stream.sequencer with
        blocked := false }) state output := h.sequencer rfl rfl rfl
  obtain ⟨count, -, hreadable⟩ :=
    (streamSequencerBuffer_implements hlimit).front hopen.shows
  unfold StreamContext.setUnblocked
  dsimp only
  rw [hreadable, Outcome.ok_bind]
  split
  · refine ⟨_, rfl, hopen.tell ?_⟩
    rw [hopen.id]
    exact .onDataAvailable
  · exact ⟨_, rfl, hopen⟩

theorem Receiving.stopReading
    (h : Receiving Piece exchange context state output)
    (hfair : exchange.Fair) (hlimit : exchange.limit < maxStreamOffset)
    (timing : QuicTiming) :
    ∃ next moved, context.stopReading timing = .ok next ∧
      Receiving Piece exchange next moved output ∧
      Reassembly.Grows state moved := by
  unfold StreamContext.stopReading
  split
  · exact ⟨context, state, rfl, h, .refl⟩
  · exact (h.withSequencer { context.stream.sequencer with
      ignoreReadData := true } h.shows nofun h.whole h.arrived rfl
      (.inl rfl)).flushBufferedFrames hfair hlimit timing rfl

end Operations

end RevSDK
