import RevSDK.Quic.StreamConversation

/-!
# What two sessions make of a conversation

In every run, whatever the network does, a reader gets the start of what was
written, both sessions keep to the windows and neither ends the connection.
When nothing is under way any more, all that was written has been read.
-/

namespace RevSDK

open RevSDK.Foundation QuicStreamSequencerBufferInterface

/-- A call that gives up the connection or a stream. -/
def TransportCall.isFatal : TransportCall → Bool
  | .sendConnectionClose _ _ => true
  | .sendRstStream _ _ _ => true
  | _ => false

section Handovers

variable {written : List UInt8} {handovers : List Handover} {position : Nat}
  {ended : Bool}

theorem HandedOver.flatten (h : HandedOver written handovers position ended) :
    (handovers.map Handover.data).flatten = written.take position := by
  induction h with
  | nil => rfl
  | snoc size fin _ _ _ ih =>
      rw [List.map_append, List.flatten_append, ih, List.take_add]
      simp

theorem HandedOver.split (h : HandedOver written handovers position ended)
    {before after : List Handover} {handover : Handover}
    (hsplit : handovers = before ++ handover :: after) :
    handover.offset = (before.map Handover.data).flatten.length ∧
      (handover.fin = true → after = [] ∧ ended = true) := by
  induction h generalizing after with
  | nil => simp at hsplit
  | @snoc handovers position size fin hbefore hle hfin ih =>
      rcases List.eq_nil_or_concat' after with rfl | ⟨init, last, rfl⟩
      · obtain ⟨rfl, hlast⟩ := List.append_inj' hsplit rfl
        obtain rfl := List.singleton_injective hlast
        refine ⟨?_, fun hended => ⟨rfl, hended⟩⟩
        rw [hbefore.flatten, List.length_take_of_le (by omega)]
      · rw [← List.cons_append, ← List.append_assoc] at hsplit
        obtain ⟨hinit, -⟩ := List.append_inj' hsplit rfl
        obtain ⟨hoffset, hnone⟩ := ih hinit
        exact ⟨hoffset, fun hended => absurd (hnone hended).2 (by simp)⟩

theorem HandedOver.last (h : HandedOver written handovers position true) :
    ∃ handover ∈ handovers, handover.fin = true := by
  cases h with
  | snoc size fin _ _ _ => exact ⟨_, List.mem_concat_self, rfl⟩

end Handovers

section Runs

variable {terms : Terms} {Piece : Nat → Nat → Nat → Prop}
  {world : Conversation} {id : Nat} {state : Reassembly UInt8}

theorem Terms.buffer_lt (terms : Terms) :
    terms.limit + sequencerLayout.maxBufferCapacityBytes +
      sequencerLayout.maxBufferCapacityBytes < maxStreamOffset := by
  have hlimit := terms.limit_lt
  have hless : sequencerLayout.maxBufferCapacityBytes ≤
      kSessionReceiveWindowLimit := by decide
  omega

theorem Conversing.consumed_total (h : Conversing terms Piece world)
    (hid : id ∈ terms.ids) : world.receiver.flowController.bytesConsumed =
      ∑ other ∈ terms.ids,
        (world.receiver.streams other).flowController.bytesConsumed := by
  obtain ⟨state, hstate⟩ := h.received id hid
  rw [← Finset.sum_erase_add terms.ids _ hid, hstate.consumed]
  exact hstate.receiving.connection.consumed

theorem Received.output_eq (h : Received terms Piece world id state)
    (hfair : (world.exchange terms id).Fair)
    (hreads : (world.receiver.streams id).sequencer.ignoreReadData = false) :
    world.output id = (world.written id).take
      (world.receiver.streams id).flowController.bytesConsumed := by
  have hconsumed : state.consumed ≤ (world.written id).length :=
    Nat.le_trans h.receiving.consumed_le hfair.handedOver_le
  rw [h.consumed]
  exact (h.receiving.inOrder hreads).eq_take hconsumed

/--
A reader gets what was written from its start and without a gap; it is told of
the end, or the stream stops reading by itself, only when a FIN was sent and
all of the stream has been read.
-/
theorem conversation_reads_in_order
    (hcut : ∀ id ∈ terms.ids, CutOnce (Piece id))
    (hreach : ReachableConversation terms Piece world) (hid : id ∈ terms.ids) :
    ((world.receiver.streams id).sequencer.ignoreReadData = false →
      world.output id = (world.written id).take
        (world.receiver.streams id).flowController.bytesConsumed) ∧
    ((world.receiver.context id).isClosed = true ∨
        (world.receiver.streams id).readSideClosed = true →
      (world.sender.streams id).finSent = true ∧
        (world.receiver.streams id).flowController.bytesConsumed =
          (world.written id).length) := by
  have h := conversing_of_reachable hcut hreach
  have hfair := h.fair hid
  obtain ⟨state, hstate⟩ := h.received id hid
  refine ⟨hstate.output_eq hfair, fun hclosed => ?_⟩
  have hover : (world.exchange terms id).Over
      (world.receiver.context id).stream.sequencer.closeOffset
        state.consumed := by
    have hlimit := terms.limit_lt
    rcases hclosed with hclosed | hclosed
    · exact hstate.receiving.ended hfair (show terms.limit < maxStreamOffset by
        omega) hclosed
    · exact hstate.receiving.closed hclosed
  exact ⟨hover.ended, hstate.consumed.trans hover.consumed⟩

/--
No event of a run fails, and neither session ever closes the connection or
resets a stream.
-/
theorem conversation_never_fails
    (hcut : ∀ id ∈ terms.ids, CutOnce (Piece id))
    (hreach : ReachableConversation terms Piece world) :
    (∀ event, world.Allows terms Piece event →
      ∃ next, world.next event = .ok next) ∧
    ∀ call ∈ world.sender.calls ++ world.receiver.calls,
      call.isFatal = false := by
  have h := conversing_of_reachable hcut hreach
  refine ⟨fun event hallows => ?_, fun call hmem => ?_⟩
  · obtain ⟨next, hnext, -⟩ := h.next hcut hallows
    exact ⟨next, hnext⟩
  · rcases List.mem_append.mp hmem with hsent | htold
    · obtain ⟨id, -, hplain⟩ := h.sending.plain call hsent
      rcases hplain call (List.mem_singleton_self _) with
        hminor | ⟨offset, data, fin, rfl⟩
      · cases hminor <;> rfl
      · rfl
    · obtain ⟨id, -, hharmless⟩ := h.told call htold
      cases hharmless <;> rfl

/--
What has come in was sent, what was sent was granted, and a grant is at most
one window ahead of what has been read: of each stream, and of all in sum.
-/
theorem conversation_keeps_windows
    (hcut : ∀ id ∈ terms.ids, CutOnce (Piece id))
    (hreach : ReachableConversation terms Piece world) (hid : id ∈ terms.ids) :
    ((world.receiver.streams id).flowController.bytesConsumed ≤
        (world.receiver.streams id).flowController.highestReceivedByteOffset ∧
      (world.receiver.streams id).flowController.highestReceivedByteOffset ≤
        (world.sender.streams id).flowController.bytesSent ∧
      (world.sender.streams id).flowController.bytesSent ≤
        (world.sender.streams id).flowController.sendWindowOffset ∧
      (world.sender.streams id).flowController.sendWindowOffset ≤
        (world.receiver.streams id).flowController.receiveWindowOffset ∧
      (world.receiver.streams id).flowController.receiveWindowOffset ≤
        (world.receiver.streams id).flowController.bytesConsumed +
          kStreamReceiveWindowLimit) ∧
    world.receiver.flowController.bytesConsumed =
      ∑ id ∈ terms.ids, (world.receiver.streams id).flowController.bytesConsumed
      ∧
    world.receiver.flowController.highestReceivedByteOffset =
      ∑ id ∈ terms.ids,
        (world.receiver.streams id).flowController.highestReceivedByteOffset ∧
    world.sender.flowController.bytesSent =
      ∑ id ∈ terms.ids, (world.sender.streams id).flowController.bytesSent ∧
    world.sender.flowController.bytesSent ≤
      world.sender.flowController.sendWindowOffset ∧
    world.sender.flowController.sendWindowOffset ≤
      world.receiver.flowController.receiveWindowOffset ∧
    world.receiver.flowController.receiveWindowOffset ≤
      world.receiver.flowController.bytesConsumed +
        kSessionReceiveWindowLimit := by
  have h := conversing_of_reachable hcut hreach
  obtain ⟨state, hstate⟩ := h.received id hid
  have hgrant := hstate.receiving.stream
  have hgrant' := hstate.receiving.connection
  have hsize := hgrant.granting.size_le
  have hsize' := hgrant'.granting.size_le
  rw [hgrant.limit] at hsize
  rw [hgrant'.limit] at hsize'
  refine ⟨⟨hstate.consumed_le, h.highest_le hid,
    (h.sending.maySend id hid).stream, h.window id hid, ?_⟩, ?_, ?_,
    h.sending.total, h.sending.connection, h.connectionWindow, ?_⟩
  · exact Nat.le_trans hgrant.granting.high (Nat.add_le_add_left hsize _)
  · exact h.consumed_total hid
  · rw [← Finset.sum_erase_add terms.ids _ hid]
    exact hstate.receiving.highest
  · exact Nat.le_trans hgrant'.granting.high (Nat.add_le_add_left hsize' _)

/--
What a stream has its session send goes on where the last call stopped, is a
first part of what was written, and has one FIN, with the last byte of all.
-/
theorem conversation_sends_in_order
    (hcut : ∀ id ∈ terms.ids, CutOnce (Piece id))
    (hreach : ReachableConversation terms Piece world) (hid : id ∈ terms.ids) :
    ((handed id world.sender.calls).map Handover.data).flatten =
        (world.written id).take (world.sender.streams id).streamBytesWritten ∧
    (∀ before handover after,
      handed id world.sender.calls = before ++ handover :: after →
      handover.offset = (before.map Handover.data).flatten.length ∧
        (handover.fin = true →
          after = [] ∧ (world.sender.streams id).finSent = true)) ∧
    ((world.sender.streams id).finSent = true →
      (world.sender.streams id).streamBytesWritten =
          (world.written id).length ∧
        ∃ handover ∈ handed id world.sender.calls, handover.fin = true) := by
  have hhanded :=
    (conversing_of_reachable hcut hreach).sending.handedOver id hid
  refine ⟨hhanded.flatten, fun _ _ _ hsplit => hhanded.split hsplit,
    fun hsent => ⟨hhanded.le_length.2 hsent, ?_⟩⟩
  rw [hsent] at hhanded
  exact hhanded.last

/-- A byte that was delivered can be read as soon as those before it are. -/
theorem conversation_loses_nothing
    (hcut : ∀ id ∈ terms.ids, CutOnce (Piece id))
    (hreach : ReachableConversation terms Piece world) (hid : id ∈ terms.ids)
    (hreads : (world.receiver.streams id).sequencer.ignoreReadData = false)
    (timing : QuicTiming) (count : Nat)
    (hdelivered : ∀ position < count, ∃ frame ∈ world.delivered id,
      frame.offset ≤ position ∧
        position < frame.offset + frame.data.length) :
    ∃ next, world.next (.receive id timing (.readv [count])) = .ok next ∧
      (world.written id).take count <+: next.output id := by
  have h := conversing_of_reachable hcut hreach
  obtain ⟨state, hstate⟩ := h.received id hid
  have himplements := streamSequencerBuffer_implements terms.buffer_lt
  obtain ⟨front, hfront, -⟩ := himplements.front hstate.receiving.shows
  obtain ⟨bytes, buffer, hread, hbytes, hlength, -⟩ :=
    himplements.read hstate.receiving.shows [count]
  have hlength := hlength front hfront
  obtain ⟨next, hnext, -⟩ := h.receives hcut hid timing
    (show world.Permits Piece id (.readv [count]) from trivial)
  refine ⟨next, hnext, ?_⟩
  have houtput : next.output id = world.output id ++ bytes := by
    unfold Conversation.next QuicSession.receive StreamContext.perform
      StreamContext.readv at hnext
    dsimp only at hnext
    rw [show readv (world.receiver.context id).stream.sequencer.bufferedFrames
      [count] = .ok (bytes, buffer) from hread] at hnext
    obtain ⟨⟨got, receiver⟩, hreceive, hpure⟩ :=
      (Outcome.bind_eq_ok _ _ _).mp hnext
    obtain ⟨performed, hperform, hadopt⟩ :=
      (Outcome.bind_eq_ok _ _ _).mp hreceive
    obtain ⟨session, -, hsession⟩ := (Outcome.bind_eq_ok _ _ _).mp hadopt
    cases hperform
    cases hsession
    cases hpure
    exact Function.update_self _ _ _
  have hcovered : count ≤ state.consumed + front := by
    by_contra hshort
    obtain ⟨frame, hmem, hle, hlt⟩ := hdelivered _ (Nat.not_le.mp hshort)
    have hsettled := hstate.settled frame hmem
      (state.consumed + front - frame.offset) (by omega)
    rw [Nat.add_sub_cancel' hle] at hsettled
    rcases hsettled with hread | hsome
    · omega
    · simp [hfront.2] at hsome
  have hwritten := (h.fair hid).handedOver_le
  have hfinish := hstate.receiving.add_le (Reassembly.Holds.readable hbytes)
  rw [houtput, ((hstate.receiving.inOrder hreads).consume hbytes).eq_take
    (Nat.le_trans hfinish hwritten), Reassembly.consume_consumed]
  refine List.take_prefix_take_left (by simp at hlength; omega)

/-- All that was sent has arrived, and nothing waits to be read. -/
def Conversation.Drained (world : Conversation) (id : Nat) : Prop :=
  (∀ position < (world.sender.streams id).streamBytesWritten,
    ∃ frame ∈ world.delivered id, frame.offset ≤ position ∧
      position < frame.offset + frame.data.length) ∧
  hasBytesToRead (world.receiver.streams id).sequencer.bufferedFrames =
    .ok false

instance (world : Conversation) (id : Nat) : Decidable (world.Drained id) :=
  inferInstanceAs (Decidable (_ ∧ _))

theorem Received.consumed_eq (h : Received terms Piece world id state)
    (hdrained : world.Drained id) :
    (world.receiver.streams id).flowController.bytesConsumed =
      (world.sender.streams id).streamBytesWritten := by
  obtain ⟨hdelivered, hnothing⟩ := hdrained
  obtain ⟨count, hfront, hhas⟩ :=
    (streamSequencerBuffer_implements terms.buffer_lt).front h.receiving.shows
  rw [show hasBytesToRead
    (world.receiver.context id).stream.sequencer.bufferedFrames = _ from
      hnothing] at hhas
  obtain rfl : count = 0 := by simpa using hhas
  rw [h.consumed]
  refine Nat.le_antisymm h.receiving.consumed_le (Nat.not_lt.mp fun hlt => ?_)
  obtain ⟨frame, hmem, hle, hend⟩ := hdelivered _ hlt
  have hsettled := h.settled frame hmem (state.consumed - frame.offset)
    (by omega)
  rw [Nat.add_sub_cancel' hle] at hsettled
  rcases hsettled with hbefore | hsome
  · omega
  · simp [show state.content state.consumed = none from hfront.2] at hsome

theorem Conversing.connection_open (h : Conversing terms Piece world)
    (hdrained : ∀ id ∈ terms.ids, world.Drained id)
    (hconnection : world.sender.flowController.sendWindowOffset =
      world.receiver.flowController.receiveWindowOffset)
    (hid : id ∈ terms.ids) :
    world.sender.flowController.isBlocked = false := by
  obtain ⟨state, hstate⟩ := h.received id hid
  have hgrant := hstate.receiving.connection
  have htwo := hgrant.granting.two_le
  have hlow := hgrant.granting.low
  have hsum : world.receiver.flowController.bytesConsumed =
      world.sender.flowController.bytesSent := by
    rw [h.consumed_total hid, h.sending.total]
    refine Finset.sum_congr rfl fun other hother => ?_
    obtain ⟨moved, hmoved⟩ := h.received other hother
    rw [hmoved.consumed_eq (hdrained other hother),
      (h.sending.writes other hother).sent]
  rw [Bool.eq_false_iff, Ne, QuicFlowController.isBlocked_iff
    h.sending.connection]
  dsimp only [QuicSession.context] at htwo hlow
  omega

theorem Conversing.stream_open (h : Conversing terms Piece world)
    (hid : id ∈ terms.ids) (hdrained : world.Drained id)
    (hgranted : (world.sender.streams id).flowController.sendWindowOffset =
      (world.receiver.streams id).flowController.receiveWindowOffset) :
    (world.sender.streams id).flowController.isBlocked = false := by
  obtain ⟨state, hstate⟩ := h.received id hid
  have hconsumed := hstate.consumed_eq hdrained
  have hgrant := hstate.receiving.stream
  have htwo := hgrant.granting.two_le
  have hlow := hgrant.granting.low
  have hsent := (h.sending.writes id hid).sent
  have hmay : (world.sender.streams id).flowController.bytesSent ≤
      (world.sender.streams id).flowController.sendWindowOffset :=
    (h.sending.maySend id hid).stream
  rw [Bool.eq_false_iff, Ne, QuicFlowController.isBlocked_iff hmay]
  dsimp only [QuicSession.context] at htwo hlow
  omega

theorem Conversing.queuedData_eq_nil (h : Conversing terms Piece world)
    (hid : id ∈ terms.ids)
    (hstream : (world.sender.streams id).flowController.isBlocked = false)
    (hconnection : world.sender.flowController.isBlocked = false)
    (hidle : world.sender.willingAndAbleToWrite = false) :
    (world.sender.streams id).queuedData = [] := by
  unfold QuicSession.willingAndAbleToWrite at hidle
  rw [hconnection, Bool.or_eq_false_iff, Bool.not_false,
    Bool.true_and] at hidle
  rcases h.attended id hid with hempty | hblocked | hwaits
  · exact hempty
  · rw [hstream] at hblocked
    contradiction
  · exact absurd hwaits (QuicWriteBlockedList.not_blocks hidle.1 hidle.2 id)

theorem Received.isClosed_eq (h : Received terms Piece world id state)
    (hread : (world.receiver.streams id).flowController.bytesConsumed =
      (world.written id).length)
    {frame : QuicStreamFrame} (hmem : frame ∈ world.delivered id)
    (hfin : frame.fin = true) :
    (world.receiver.context id).isClosed = true := by
  have hclose : (world.receiver.streams id).sequencer.closeOffset =
      (world.written id).length := by
    rcases h.receiving.closing with ⟨-, hnone⟩ | ⟨-, hclose⟩
    · have := List.any_eq_false.mp hnone frame hmem
      contradiction
    · exact hclose
  unfold StreamContext.isClosed
  rw [decide_eq_true_eq]
  have hbuffer : bytesConsumed
      (world.receiver.context id).stream.sequencer.bufferedFrames =
        state.consumed := h.receiving.shows.backed.consumed
  rw [hbuffer, ← h.consumed, hread]
  exact hclose.le

/--
When all that was sent has arrived, readers have nothing to read, the last
grants have arrived and the sender is not willing to write, then all that was
written has been read, and every FIN that was written has been sent.
-/
theorem conversation_comes_to_rest
    (hcut : ∀ id ∈ terms.ids, CutOnce (Piece id))
    (hreach : ReachableConversation terms Piece world)
    (hdrained : ∀ id ∈ terms.ids, world.Drained id)
    (hgranted : ∀ id ∈ terms.ids,
      (world.sender.streams id).flowController.sendWindowOffset =
        (world.receiver.streams id).flowController.receiveWindowOffset)
    (hconnection : world.sender.flowController.sendWindowOffset =
      world.receiver.flowController.receiveWindowOffset)
    (hidle : world.sender.willingAndAbleToWrite = false)
    (hid : id ∈ terms.ids) :
    (world.receiver.streams id).flowController.bytesConsumed =
        (world.written id).length ∧
      ((world.receiver.streams id).sequencer.ignoreReadData = false →
        world.output id = world.written id) ∧
      (world.sender.streams id).queuedData = [] ∧
      ((world.sender.streams id).finBuffered = true →
        (world.sender.streams id).finSent = true) ∧
      ((∃ frame ∈ world.delivered id, frame.fin = true) →
        (world.receiver.context id).isClosed = true) := by
  have h := conversing_of_reachable hcut hreach
  obtain ⟨state, hstate⟩ := h.received id hid
  have hwrites := h.sending.writes id hid
  have hconsumed := hstate.consumed_eq (hdrained id hid)
  have hqueue : (world.sender.streams id).queuedData = [] :=
    h.queuedData_eq_nil hid
      (h.stream_open hid (hdrained id hid) (hgranted id hid))
      (h.connection_open hdrained hconnection hid) hidle
  have hall := hwrites.streamBytesWritten_eq hqueue
  have hread := hconsumed.trans hall
  refine ⟨hread, fun hreads => ?_, hqueue, fun hbuffered => ?_,
    fun ⟨frame, hmem, hfin⟩ => hstate.isClosed_eq hread hmem hfin⟩
  · rw [hstate.output_eq (h.fair hid) hreads, hconsumed, hall, List.take_length]
  · by_contra hunsent
    exact hwrites.waiting hbuffered (by simpa using hunsent) hqueue

end Runs

section NarrowWindows

def narrowTerms : Terms where
  activated := [(5, 3)]
  limit := 100
  sendWindow _ := 4
  receiveWindow _ := 4
  autoTune := true
  data := by decide
  granted _ := Nat.le_refl _
  two_le _ := by decide
  receiveWindow_le id := by split <;> decide
  limit_lt := by decide

def narrowPiece (_id offset length : Nat) : Prop :=
  (offset, length) ∈ [(0, 3), (3, 1), (4, 2)]

instance (id offset length : Nat) : Decidable (narrowPiece id offset length) :=
  inferInstanceAs (Decidable (_ ∈ _))

theorem narrowPiece_cutOnce (id : Nat) : CutOnce (narrowPiece id) := by
  intro offset length offset' length' hone htwo
  simp only [narrowPiece, List.mem_cons, Prod.mk.injEq, List.not_mem_nil,
    or_false] at hone htwo
  omega

def narrowEvents : List ConversationEvent :=
  [.writeOrBufferData 5 [1, 2, 3, 4, 5, 6] true fun _ => [3, 10],
    .receive 5 ⟨1000, 10, true⟩ (.onStreamFrame ⟨3, [4], false⟩),
    .receive 5 ⟨1000, 10, true⟩ (.onStreamFrame ⟨0, [1, 2, 3], false⟩),
    .receive 5 ⟨1000, 10, true⟩ (.readv [10]),
    .onWindowUpdateFrame 5 8 fun _ => [10],
    .onWindowUpdateFrame 0 8 fun _ => [10],
    .onCanWrite [fun _ => [10]],
    .receive 5 ⟨1100, 10, true⟩ (.onStreamFrame ⟨4, [5, 6], true⟩),
    .receive 5 ⟨1200, 10, true⟩ (.takeRegions 1 10)]

def narrowRun : Option Conversation :=
  (Conversation.system narrowTerms).replay
    (Conversation.Allows narrowTerms narrowPiece)
    { sender := narrowTerms.session, receiver := narrowTerms.session }
    narrowEvents

structure NarrowEnd (world : Conversation) : Prop where
  reachable : ReachableConversation narrowTerms narrowPiece world
  delivered : world.delivered 5 =
    [⟨3, [4], false⟩, ⟨0, [1, 2, 3], false⟩, ⟨4, [5, 6], true⟩]
  reads : (world.receiver.streams 5).sequencer.ignoreReadData = false
  closed : (world.receiver.context 5).isClosed = true
  drained : world.Drained 5
  granted : (world.sender.streams 5).flowController.sendWindowOffset =
    (world.receiver.streams 5).flowController.receiveWindowOffset
  connection : world.sender.flowController.sendWindowOffset =
    world.receiver.flowController.receiveWindowOffset
  idle : world.sender.willingAndAbleToWrite = false

theorem narrow_end : ∃ world, NarrowEnd world := by
  have hrun : narrowRun.any (fun world => decide
      (world.delivered 5 =
          [⟨3, [4], false⟩, ⟨0, [1, 2, 3], false⟩, ⟨4, [5, 6], true⟩] ∧
        (world.receiver.streams 5).sequencer.ignoreReadData = false ∧
        (world.receiver.context 5).isClosed = true ∧ world.Drained 5 ∧
        (world.sender.streams 5).flowController.sendWindowOffset =
          (world.receiver.streams 5).flowController.receiveWindowOffset ∧
        world.sender.flowController.sendWindowOffset =
          world.receiver.flowController.receiveWindowOffset ∧
        world.sender.willingAndAbleToWrite = false)) = true := by
    decide +kernel
  obtain ⟨world, hreplay, hend⟩ := Option.any_eq_true _ _ |>.mp hrun
  obtain ⟨hdelivered, hreads, hclosed, hdrained, hgranted, hconnection,
    hidle⟩ := of_decide_eq_true hend
  exact ⟨world, .replay narrowEvents (.start rfl) hreplay, hdelivered, hreads,
    hclosed, hdrained, hgranted, hconnection, hidle⟩

theorem conversation_reads_in_order_narrow :
    ∃ world, ReachableConversation narrowTerms narrowPiece world ∧
      (world.receiver.streams 5).flowController.bytesConsumed =
        (world.written 5).length ∧
      world.output 5 = (world.written 5).take
        (world.receiver.streams 5).flowController.bytesConsumed := by
  obtain ⟨world, hend⟩ := narrow_end
  have hreads := conversation_reads_in_order
    (fun id _ => narrowPiece_cutOnce id) hend.reachable
    (show 5 ∈ narrowTerms.ids by decide)
  exact ⟨world, hend.reachable, (hreads.2 (.inl hend.closed)).2,
    hreads.1 hend.reads⟩

theorem conversation_never_fails_narrow :
    ∃ world, ReachableConversation narrowTerms narrowPiece world ∧
      ∀ call ∈ world.sender.calls ++ world.receiver.calls,
        call.isFatal = false := by
  obtain ⟨world, hend⟩ := narrow_end
  exact ⟨world, hend.reachable, (conversation_never_fails
    (fun id _ => narrowPiece_cutOnce id) hend.reachable).2⟩

theorem conversation_keeps_windows_narrow :
    ∃ world, ReachableConversation narrowTerms narrowPiece world ∧
      (world.sender.streams 5).flowController.sendWindowOffset ≤
        (world.receiver.streams 5).flowController.receiveWindowOffset := by
  obtain ⟨world, hend⟩ := narrow_end
  exact ⟨world, hend.reachable, (conversation_keeps_windows
    (fun id _ => narrowPiece_cutOnce id) hend.reachable
    (show 5 ∈ narrowTerms.ids by decide)).1.2.2.2.1⟩

theorem conversation_sends_in_order_narrow :
    ∃ world, ReachableConversation narrowTerms narrowPiece world ∧
      ((handed 5 world.sender.calls).map Handover.data).flatten =
        (world.written 5).take (world.sender.streams 5).streamBytesWritten := by
  obtain ⟨world, hend⟩ := narrow_end
  exact ⟨world, hend.reachable, (conversation_sends_in_order
    (fun id _ => narrowPiece_cutOnce id) hend.reachable
    (show 5 ∈ narrowTerms.ids by decide)).1⟩

theorem conversation_loses_nothing_narrow :
    ∃ world next, ReachableConversation narrowTerms narrowPiece world ∧
      world.next (.receive 5 ⟨1300, 10, true⟩ (.readv [6])) = .ok next ∧
      (world.written 5).take 6 <+: next.output 5 := by
  obtain ⟨world, hend⟩ := narrow_end
  have hdelivered : ∀ position < 6, ∃ frame ∈ world.delivered 5,
      frame.offset ≤ position ∧
        position < frame.offset + frame.data.length := by
    rw [hend.delivered]
    decide
  obtain ⟨next, hnext, hmore⟩ := conversation_loses_nothing
    (fun id _ => narrowPiece_cutOnce id) hend.reachable
    (show 5 ∈ narrowTerms.ids by decide) hend.reads ⟨1300, 10, true⟩ 6
    hdelivered
  exact ⟨world, next, hend.reachable, hnext, hmore⟩

theorem conversation_comes_to_rest_narrow :
    ∃ world, ReachableConversation narrowTerms narrowPiece world ∧
      world.output 5 = world.written 5 := by
  obtain ⟨world, hend⟩ := narrow_end
  have honly : ∀ id ∈ narrowTerms.ids, id = 5 := by decide
  have hrest := conversation_comes_to_rest
    (fun id _ => narrowPiece_cutOnce id) hend.reachable
    (fun id hid => honly id hid ▸ hend.drained)
    (fun id hid => honly id hid ▸ hend.granted) hend.connection hend.idle
    (show 5 ∈ narrowTerms.ids by decide)
  exact ⟨world, hend.reachable, hrest.2.1 hend.reads⟩

end NarrowWindows

end RevSDK
