import RevSDK.Foundation.Runs
import RevSDK.Quic.SessionReading
import RevSDK.Quic.SessionWriting

/-!
# Conversations of two sessions

One session writes its streams and the other reads them.  The network cuts
what is handed over into frames, and then loses, repeats and reorders the
frames and the window updates as it likes.  `Conversing` is what every step of
the two sessions, the reader and the network keeps.
-/

namespace RevSDK

open RevSDK.Foundation

def sequencerLayout : BufferLayout :=
  ⟨kStreamReceiveWindowLimit, 8 * 1024, by decide, by decide⟩

/--
What both ends have settled on: the streams with their priorities, the windows
they begin with, and how many bytes are written at most.
-/
structure Terms where
  activated : List (Nat × Nat)
  limit : Nat
  sendWindow : Nat → Nat
  receiveWindow : Nat → Nat
  autoTune : Bool
  data : ∀ stream ∈ activated, stream.1 ≠ kConnectionLevelId ∧
    stream.1 ≠ kCryptoStreamId ∧ stream.1 ≠ kHeadersStreamId
  granted : ∀ id, sendWindow id ≤ receiveWindow id
  two_le : ∀ id, 2 ≤ receiveWindow id
  receiveWindow_le : ∀ id, receiveWindow id ≤
    if id = kConnectionLevelId then kSessionReceiveWindowLimit
    else kStreamReceiveWindowLimit
  limit_lt : limit + 3 * kSessionReceiveWindowLimit < maxStreamOffset

namespace Terms

variable (terms : Terms)

def ids : Finset Nat := (terms.activated.map Prod.fst).toFinset

def flowController (id : Nat) : QuicFlowController :=
  .new id (terms.sendWindow id) (terms.receiveWindow id) terms.autoTune

def session : QuicSession (StreamSequencerBuffer sequencerLayout) where
  streams id :=
    { id
      sequencer := { bufferedFrames := .new sequencerLayout }
      flowController := terms.flowController id }
  flowController := terms.flowController kConnectionLevelId
  writeBlockedStreams := terms.activated.foldl
    (fun list stream => list.registerStream stream.1 stream.2) {}

end Terms

structure Conversation where
  sender : QuicSession (StreamSequencerBuffer sequencerLayout)
  receiver : QuicSession (StreamSequencerBuffer sequencerLayout)
  written : Nat → List UInt8 := fun _ => []
  delivered : Nat → List QuicStreamFrame := fun _ => []
  output : Nat → List UInt8 := fun _ => []

/-- The rooms are those of the packets that may be sent at an offset. -/
inductive ConversationEvent where
  | writeOrBufferData (id : Nat) (data : List UInt8) (fin : Bool)
      (rooms : Nat → List Nat)
  | onCanWrite (turns : List (Nat → List Nat))
  | onWindowUpdateFrame (streamId byteOffset : Nat) (rooms : Nat → List Nat)
  | receive (id : Nat) (timing : QuicTiming) (call : ReadingCall)

def packetWriter (rooms : Nat → List Nat) : SessionWriter :=
  fun offset length fin => consumeData fin length (rooms offset) 0

structure QuicStreamFrame.CutFrom (frame : QuicStreamFrame)
    (handover : Handover) : Prop where
  offset_le : handover.offset ≤ frame.offset
  end_le : frame.offset + frame.data.length ≤
    handover.offset + handover.data.length
  data : frame.data = (handover.data.drop
    (frame.offset - handover.offset)).take frame.data.length
  fin : frame.fin = true → handover.fin = true ∧
    frame.offset + frame.data.length = handover.offset + handover.data.length

instance (frame : QuicStreamFrame) (handover : Handover) :
    Decidable (frame.CutFrom handover) :=
  decidable_of_iff (handover.offset ≤ frame.offset ∧
      frame.offset + frame.data.length ≤
        handover.offset + handover.data.length ∧
      frame.data = (handover.data.drop
        (frame.offset - handover.offset)).take frame.data.length ∧
      (frame.fin = true → handover.fin = true ∧
        frame.offset + frame.data.length =
          handover.offset + handover.data.length))
    ⟨fun ⟨hoffset, hend, hdata, hfin⟩ => ⟨hoffset, hend, hdata, hfin⟩,
      fun ⟨hoffset, hend, hdata, hfin⟩ => ⟨hoffset, hend, hdata, hfin⟩⟩

namespace Conversation

def next (world : Conversation) : ConversationEvent → Outcome Conversation
  | .writeOrBufferData id data fin rooms => do
      let sender ← world.sender.writeOrBufferData id (packetWriter rooms) data
        fin
      return { world with
        sender
        written := Function.update world.written id
          (if (world.sender.streams id).takes data fin then
            world.written id ++ data
          else world.written id) }
  | .onCanWrite turns => do
      let sender ← world.sender.onCanWrite (turns.map packetWriter)
      return { world with sender }
  | .onWindowUpdateFrame streamId byteOffset rooms => do
      let sender ← world.sender.onWindowUpdateFrame streamId byteOffset
        (packetWriter rooms)
      return { world with sender }
  | .receive id timing call => do
      let (bytes, receiver) ← world.receiver.receive id timing call
      return { world with
        receiver
        delivered := Function.update world.delivered id
          (world.delivered id ++ call.frames)
        output := Function.update world.output id
          (world.output id ++ bytes) }

/-- What a peer, a reader and a network may do; `Piece` is how data is cut. -/
def Permits (Piece : Nat → Nat → Nat → Prop) (world : Conversation)
    (id : Nat) : ReadingCall → Prop
  | .onStreamFrame frame =>
      (∃ handover ∈ handed id world.sender.calls, frame.CutFrom handover) ∧
        (frame.data ≠ [] → Piece id frame.offset frame.data.length) ∧
        (frame.data ≠ [] ∨ frame.fin = true)
  | .takeRegions iovCount _ => 0 < iovCount
  | .onFinRead => (world.receiver.context id).isClosed = true
  | _ => True

def Allows (terms : Terms) (Piece : Nat → Nat → Nat → Prop)
    (world : Conversation) : ConversationEvent → Prop
  | .writeOrBufferData id data _ _ => id ∈ terms.ids ∧
      ∑ other ∈ terms.ids, (world.written other).length + data.length ≤
        terms.limit
  | .onCanWrite _ => True
  | .onWindowUpdateFrame streamId byteOffset _ =>
      .sendWindowUpdate streamId byteOffset ∈ world.receiver.calls
  | .receive id _ call => id ∈ terms.ids ∧ world.Permits Piece id call

instance (Piece : Nat → Nat → Nat → Prop)
    [∀ id offset length, Decidable (Piece id offset length)]
    (world : Conversation) (id : Nat) :
    ∀ call, Decidable (world.Permits Piece id call)
  | .onStreamFrame _ => inferInstanceAs (Decidable (_ ∧ _ ∧ _))
  | .takeRegions _ _ => inferInstanceAs (Decidable (_ < _))
  | .onFinRead => inferInstanceAs (Decidable (_ = true))
  | .readv _ => .isTrue trivial
  | .setBlockedUntilFlush => .isTrue trivial
  | .setUnblocked => .isTrue trivial
  | .stopReading => .isTrue trivial

instance (terms : Terms) (Piece : Nat → Nat → Nat → Prop)
    [∀ id offset length, Decidable (Piece id offset length)]
    (world : Conversation) : ∀ event, Decidable (world.Allows terms Piece event)
  | .writeOrBufferData _ _ _ _ => inferInstanceAs (Decidable (_ ∧ _ ≤ _))
  | .onCanWrite _ => .isTrue trivial
  | .onWindowUpdateFrame _ _ _ => inferInstanceAs (Decidable (_ ∈ _))
  | .receive _ _ _ => inferInstanceAs (Decidable (_ ∧ _))

def system (terms : Terms) : EventSystem Conversation ConversationEvent where
  initial world :=
    world = { sender := terms.session, receiver := terms.session }
  step world event := (world.next event).toOption

end Conversation

section Handovers

variable {written : List UInt8} {handovers : List Handover} {position : Nat}
  {ended : Bool} {handover : Handover}

/-- By induction on the handovers; only the last one can carry the FIN. -/
theorem HandedOver.of_mem (h : HandedOver written handovers position ended)
    (hmem : handover ∈ handovers) :
    handover.offset + handover.data.length ≤ position ∧
      handover.data =
        (written.drop handover.offset).take handover.data.length ∧
      (handover.fin = true → ended = true ∧
        handover.offset + handover.data.length = written.length) := by
  induction h with
  | nil => simp at hmem
  | @snoc handovers position size fin _ hle hfin ih =>
      rcases List.mem_append.mp hmem with hold | hnew
      · obtain ⟨hbefore, hdata, hnone⟩ := ih hold
        refine ⟨Nat.le_trans hbefore (Nat.le_add_right _ _), hdata,
          fun hended => ?_⟩
        simp at hnone
        simp [hnone] at hended
      · obtain rfl := List.mem_singleton.mp hnew
        have hlength : ((written.drop position).take size).length = size :=
          List.length_take_of_le (by rw [List.length_drop]; omega)
        dsimp only
        rw [hlength]
        exact ⟨Nat.le_refl _, rfl, fun hended => ⟨hended, hfin hended⟩⟩

theorem HandedOver.le_length
    (h : HandedOver written handovers position ended) :
    position ≤ written.length ∧
      (ended = true → position = written.length) := by
  cases h with
  | nil => exact ⟨Nat.zero_le _, nofun⟩
  | snoc size fin _ hle hfin => exact ⟨hle, hfin⟩

end Handovers

/-! ## What both ends keep -/

def Conversation.exchange (terms : Terms) (world : Conversation) (id : Nat) :
    Exchange where
  limit := terms.limit
  id
  written := world.written id
  handedOver := (world.sender.streams id).streamBytesWritten
  ended := (world.sender.streams id).finSent
  finArrived := (world.delivered id).any (·.fin)
  streamWindow :=
    (world.receiver.streams id).flowController.receiveWindowOffset
  connectionWindow := world.receiver.flowController.receiveWindowOffset
  otherConsumed := ∑ other ∈ terms.ids.erase id,
    (world.receiver.streams other).flowController.bytesConsumed
  otherHighest := ∑ other ∈ terms.ids.erase id,
    (world.receiver.streams other).flowController.highestReceivedByteOffset

structure Received (terms : Terms) (Piece : Nat → Nat → Nat → Prop)
    (world : Conversation) (id : Nat) (state : Reassembly UInt8) : Prop where
  receiving : Receiving (Piece id) (world.exchange terms id)
    (world.receiver.context id) state (world.output id)
  settled : ∀ frame ∈ world.delivered id, ∀ index < frame.data.length,
    state.Settled (frame.offset + index)

structure Conversing (terms : Terms) (Piece : Nat → Nat → Nat → Prop)
    (world : Conversation) : Prop where
  sending : Sending terms.ids world.sender world.written
  attended : Attended terms.ids world.sender
  length_le : ∑ id ∈ terms.ids, (world.written id).length ≤ terms.limit
  received : ∀ id ∈ terms.ids, ∃ state, Received terms Piece world id state
  window : ∀ id ∈ terms.ids,
    (world.sender.streams id).flowController.sendWindowOffset ≤
      (world.receiver.streams id).flowController.receiveWindowOffset
  connectionWindow : world.sender.flowController.sendWindowOffset ≤
    world.receiver.flowController.receiveWindowOffset
  told : ∀ call ∈ world.receiver.calls, ∃ id ∈ terms.ids, Harmless id
    (world.receiver.streams id).flowController.receiveWindowOffset
    world.receiver.flowController.receiveWindowOffset call

section Invariants

variable {terms : Terms} {Piece : Nat → Nat → Nat → Prop}
  {world : Conversation} {id : Nat} {state : Reassembly UInt8}

theorem Terms.id_ne (hid : id ∈ terms.ids) : id ≠ kConnectionLevelId ∧
    id ≠ kCryptoStreamId ∧ id ≠ kHeadersStreamId := by
  unfold Terms.ids at hid
  obtain ⟨stream, hmem, rfl⟩ := List.mem_map.mp (List.mem_toFinset.mp hid)
  exact terms.data stream hmem

theorem Received.consumed (h : Received terms Piece world id state) :
    (world.receiver.streams id).flowController.bytesConsumed =
      state.consumed :=
  h.receiving.stream.consumed

theorem Received.consumed_le (h : Received terms Piece world id state) :
    (world.receiver.streams id).flowController.bytesConsumed ≤
      (world.receiver.streams id).flowController.highestReceivedByteOffset := by
  rw [h.consumed]
  exact Reassembly.Readable.add_le (show state.Readable 0 from
    fun _ hindex => absurd hindex (Nat.not_lt_zero _)) h.receiving.arrived

theorem Conversing.highest_le (h : Conversing terms Piece world)
    (hid : id ∈ terms.ids) :
    (world.receiver.streams id).flowController.highestReceivedByteOffset ≤
      (world.sender.streams id).flowController.bytesSent := by
  obtain ⟨state, hstate⟩ := h.received id hid
  rw [(h.sending.writes id hid).sent]
  exact hstate.receiving.highest_le

theorem Conversing.otherHighest_le (h : Conversing terms Piece world)
    (hid : id ∈ terms.ids) :
    (world.exchange terms id).otherHighest +
        (world.sender.streams id).flowController.bytesSent ≤
      world.sender.flowController.bytesSent := by
  rw [h.sending.total, ← Finset.sum_erase_add terms.ids _ hid]
  exact Nat.add_le_add_right (Finset.sum_le_sum fun other hother =>
    h.highest_le (Finset.mem_of_mem_erase hother)) _

theorem Conversing.bytesSent_le (h : Conversing terms Piece world) :
    world.sender.flowController.bytesSent ≤ terms.limit := by
  refine Nat.le_trans ?_ h.length_le
  rw [h.sending.total]
  exact Finset.sum_le_sum fun other hother => by
    rw [(h.sending.writes other hother).sent]
    exact (h.sending.writes other hother).sent_le

theorem Conversing.written_le (h : Conversing terms Piece world)
    (hid : id ∈ terms.ids) : (world.written id).length ≤ terms.limit :=
  Nat.le_trans (Finset.single_le_sum (f := fun other =>
    (world.written other).length) (fun _ _ => Nat.zero_le _) hid) h.length_le

theorem Conversing.fair (h : Conversing terms Piece world)
    (hid : id ∈ terms.ids) : (world.exchange terms id).Fair := by
  obtain ⟨state, hstate⟩ := h.received id hid
  have hwrites := h.sending.writes id hid
  have hsent := hwrites.sent
  have hmay := h.sending.maySend id hid
  have hstream := hmay.stream
  have hconnection := h.sending.connection
  have hwindow := h.window id hid
  have hwindow' := h.connectionWindow
  have hother := h.otherHighest_le hid
  have hwritten := h.written_le hid
  have hbytes := h.bytesSent_le
  have hconsumed := hstate.receiving.consumed_le
  have hlimit := terms.limit_lt
  have hothers : (world.exchange terms id).otherConsumed ≤
      (world.exchange terms id).otherHighest :=
    Finset.sum_le_sum fun other hother => by
      obtain ⟨moved, hmoved⟩ :=
        h.received other (Finset.mem_of_mem_erase hother)
      exact hmoved.consumed_le
  have hgrant := hstate.receiving.stream
  have hgrant' := hstate.receiving.connection
  have hhigh := hgrant.granting.high
  have hsize := hgrant.granting.size_le
  have hhigh' := hgrant'.granting.high
  have hsize' := hgrant'.granting.size_le
  rw [hgrant.consumed] at hhigh
  rw [hgrant.limit] at hsize
  rw [hgrant'.consumed] at hhigh'
  rw [hgrant'.limit] at hsize'
  have hless : kStreamReceiveWindowLimit ≤ kSessionReceiveWindowLimit := by
    decide
  unfold QuicSession.context at *
  unfold Conversation.exchange at *
  dsimp only at *
  exact ⟨hwrites.sent_le, hwritten, fun hended =>
    (h.sending.handedOver id hid).le_length.2 hended, by dsimp only; omega,
    by dsimp only; omega, hothers, by dsimp only; omega, by dsimp only; omega⟩

theorem Conversing.sends (h : Conversing terms Piece world)
    {sender : QuicSession (StreamSequencerBuffer sequencerLayout)}
    {written : Nat → List UInt8} {granted : Nat → Nat}
    (hsending : Sending terms.ids sender written)
    (hattended : Attended terms.ids sender)
    (hcontinued : Continued terms.ids world.sender sender world.written written
      granted)
    (hlength : ∑ id ∈ terms.ids, (written id).length ≤ terms.limit)
    (hgranted : ∀ id ∈ terms.ids, granted id ≤
      (world.receiver.streams id).flowController.receiveWindowOffset)
    (hconnection : granted kConnectionLevelId ≤
      world.receiver.flowController.receiveWindowOffset) :
    Conversing terms Piece { world with sender, written } where
  sending := hsending
  attended := hattended
  length_le := hlength
  received id hid := by
    obtain ⟨state, hreceiving, hsettled⟩ := h.received id hid
    refine ⟨state, hreceiving.continues (h.fair hid).handedOver_le
      ⟨rfl, rfl, hcontinued.grown id hid, hcontinued.position id hid,
        hcontinued.ended id hid, rfl⟩ rfl rfl (Nat.le_refl _)
      hreceiving.highest hreceiving.connection, hsettled⟩
  window id hid := Nat.le_trans (hcontinued.window id hid)
    (Nat.max_le.mpr ⟨h.window id hid, hgranted id hid⟩)
  connectionWindow := Nat.le_trans hcontinued.connectionWindow
    (Nat.max_le.mpr ⟨h.connectionWindow, hconnection⟩)
  told := h.told

theorem carryOut_harmless {β : Type} {session : QuicSession β}
    {calls : List TransportCall} {streamWindow connectionWindow : Nat}
    (h : ∀ call ∈ calls, Harmless id streamWindow connectionWindow call) :
    session.carryOut calls =
      .ok { session with calls := session.calls ++ calls } := by
  induction calls generalizing session with
  | nil => rw [List.append_nil]; rfl
  | cons call calls ih =>
      have hbook : { session with calls := session.calls ++ [call] }.book call =
          .ok { session with calls := session.calls ++ [call] } := by
        cases h call List.mem_cons_self <;> rfl
      rw [QuicSession.carryOut, hbook, Outcome.ok_bind,
        ih fun call hmem => h call (List.mem_cons_of_mem _ hmem)]
      simp

def Conversation.heard (world : Conversation) (id : Nat)
    (context : StreamContext (StreamSequencerBuffer sequencerLayout))
    (frames : List QuicStreamFrame) (output : List UInt8) : Conversation :=
  { world with
    receiver := { world.receiver with
      streams := Function.update world.receiver.streams id context.stream
      flowController := context.connectionFlowController
      calls := world.receiver.calls ++ context.calls }
    delivered := Function.update world.delivered id
      (world.delivered id ++ frames)
    output := Function.update world.output id output }

section Hearing

variable {context : StreamContext (StreamSequencerBuffer sequencerLayout)}
  {moved : Reassembly UInt8} {frames : List QuicStreamFrame}
  {output : List UInt8} {other : Nat}

theorem heard_window (frames : List QuicStreamFrame) (output : List UInt8)
    (hgrown :
      (world.receiver.streams id).flowController.receiveWindowOffset ≤
        context.stream.flowController.receiveWindowOffset) (other : Nat) :
    (world.receiver.streams other).flowController.receiveWindowOffset ≤
      ((world.heard id context frames output).receiver.streams
        other).flowController.receiveWindowOffset := by
  unfold Conversation.heard
  dsimp only
  by_cases heq : other = id
  · rw [heq, Function.update_self]
    exact hgrown
  · rw [Function.update_of_ne heq]

theorem heard_connection (hid : id ∈ terms.ids) (hother : other ∈ terms.ids)
    (hreceiving : Receiving (Piece id)
      ((world.exchange terms id).hear (frames.any (·.fin))) context moved
        output) :
    context.connectionFlowController.highestReceivedByteOffset =
        ((world.heard id context frames output).exchange terms
            other).otherHighest +
          ((world.heard id context frames output).receiver.streams
            other).flowController.highestReceivedByteOffset ∧
      Window context.connectionFlowController kConnectionLevelId
        kSessionReceiveWindowLimit
        (((world.heard id context frames output).exchange terms
            other).otherConsumed +
          ((world.heard id context frames output).receiver.streams
            other).flowController.bytesConsumed)
        context.connectionFlowController.receiveWindowOffset := by
  have hconsumed := sum_erase_add_update hid hother
    (·.flowController.bytesConsumed) world.receiver.streams context.stream
  rw [hreceiving.stream.consumed] at hconsumed
  exact ⟨hreceiving.highest.trans (sum_erase_add_update hid hother
      (·.flowController.highestReceivedByteOffset) world.receiver.streams
      context.stream).symm,
    hreceiving.connection.granting, hreceiving.connection.id,
    hreceiving.connection.limit,
    hreceiving.connection.consumed.trans hconsumed.symm, Nat.le_refl _⟩

theorem Conversing.received_self (h : Conversing terms Piece world)
    (hid : id ∈ terms.ids)
    (hreceiving : Receiving (Piece id)
      ((world.exchange terms id).hear (frames.any (·.fin))) context moved
        output)
    (hsettled : ∀ frame ∈ world.delivered id ++ frames,
      ∀ index < frame.data.length, moved.Settled (frame.offset + index)) :
    Received terms Piece (world.heard id context frames output) id moved := by
  obtain ⟨hhighest, hread⟩ := heard_connection hid hid hreceiving
  have hsame : (world.heard id context frames output).receiver.streams id =
      context.stream := Function.update_self _ _ _
  rw [hsame] at hhighest hread
  rw [hreceiving.stream.consumed] at hread
  refine ⟨?_, ?_⟩
  · unfold Conversation.heard at hhighest hread ⊢
    dsimp only at hhighest hread ⊢
    rw [Function.update_self id output world.output]
    refine hreceiving.continues (h.fair hid).handedOver_le
      ⟨rfl, rfl, List.prefix_rfl, Nat.le_refl _, fun hended => ⟨hended, rfl⟩,
        ?_⟩ hsame rfl ?_ hhighest hread
    · unfold Conversation.exchange
      dsimp only
      rw [Function.update_self, List.any_append]
      rfl
    · unfold Conversation.exchange
      dsimp only
      rw [Function.update_self]
  · unfold Conversation.heard
    dsimp only
    rw [Function.update_self]
    exact hsettled

theorem Conversing.received_other (h : Conversing terms Piece world)
    (hid : id ∈ terms.ids) (hother : other ∈ terms.ids) (hne : other ≠ id)
    (hreceiving : Receiving (Piece id)
      ((world.exchange terms id).hear (frames.any (·.fin))) context moved
        output)
    (hstate : Received terms Piece world other state) :
    Received terms Piece (world.heard id context frames output) other
      state := by
  obtain ⟨hhighest, hread⟩ := heard_connection hid hother hreceiving
  have hsame : (world.heard id context frames output).receiver.streams other =
      world.receiver.streams other := Function.update_of_ne hne _ _
  rw [hsame] at hhighest hread
  rw [hstate.consumed] at hread
  refine ⟨?_, ?_⟩
  · unfold Conversation.heard at hhighest hread ⊢
    dsimp only at hhighest hread ⊢
    rw [Function.update_of_ne hne output world.output]
    refine hstate.receiving.continues (h.fair hother).handedOver_le
      ⟨rfl, rfl, List.prefix_rfl, Nat.le_refl _, fun hended => ⟨hended, rfl⟩,
        ?_⟩ hsame rfl ?_ hhighest hread
    · unfold Conversation.exchange
      dsimp only
      rw [Function.update_of_ne hne]
    · unfold Conversation.exchange
      dsimp only
      rw [Function.update_of_ne hne]
      rfl
  · unfold Conversation.heard
    dsimp only
    rw [Function.update_of_ne hne]
    exact hstate.settled

end Hearing

theorem Conversing.adopts (h : Conversing terms Piece world)
    (hid : id ∈ terms.ids)
    {context : StreamContext (StreamSequencerBuffer sequencerLayout)}
    {moved : Reassembly UInt8} {frames : List QuicStreamFrame}
    {output : List UInt8}
    (hreceiving : Receiving (Piece id)
      ((world.exchange terms id).hear (frames.any (·.fin))) context moved
        output)
    (hsettled : ∀ frame ∈ world.delivered id ++ frames,
      ∀ index < frame.data.length, moved.Settled (frame.offset + index)) :
    Conversing terms Piece (world.heard id context frames output) := by
  have hwindow := heard_window frames output
    (show (world.receiver.streams id).flowController.receiveWindowOffset ≤
      context.stream.flowController.receiveWindowOffset from
        hreceiving.stream.floor_le)
  have hconnection : world.receiver.flowController.receiveWindowOffset ≤
      context.connectionFlowController.receiveWindowOffset :=
    hreceiving.connection.floor_le
  refine ⟨h.sending, h.attended, h.length_le, fun other hother => ?_,
    fun other hother => Nat.le_trans (h.window other hother) (hwindow other),
    Nat.le_trans h.connectionWindow hconnection, fun call hmem => ?_⟩
  · by_cases heq : other = id
    · subst heq
      exact ⟨moved, h.received_self hid hreceiving hsettled⟩
    · obtain ⟨state, hstate⟩ := h.received other hother
      exact ⟨state, h.received_other hid hother heq hreceiving hstate⟩
  · rcases List.mem_append.mp hmem with hold | hnew
    · obtain ⟨other, hother, hharmless⟩ := h.told call hold
      exact ⟨other, hother, hharmless.mono (hwindow other) hconnection⟩
    · refine ⟨id, hid, ?_⟩
      have hharmless := hreceiving.told call hnew
      unfold Conversation.heard
      dsimp only
      rw [Function.update_self]
      exact hharmless

theorem Conversing.admitted (h : Conversing terms Piece world)
    (hid : id ∈ terms.ids) {frame : QuicStreamFrame}
    (hpermits : world.Permits Piece id (.onStreamFrame frame)) :
    Admitted (Piece id) (world.exchange terms id) frame := by
  obtain ⟨⟨handover, hmem, hcut⟩, hpiece, hnonempty⟩ := hpermits
  obtain ⟨hle, hdata, hfin⟩ := (h.sending.handedOver id hid).of_mem hmem
  have hend := hcut.end_le
  refine ⟨hpiece, Nat.le_trans hend hle, fun index hindex => ?_,
    fun hended => ?_, hnonempty⟩
  · have hsent := (h.sending.writes id hid).sent_le
    have hoffset := hcut.offset_le
    have hlength : handover.offset + (frame.offset - handover.offset) + index =
        frame.offset + index := by omega
    rw [hcut.data, List.getElem?_take_of_lt hindex, List.getElem?_drop, hdata,
      List.getElem?_take_of_lt (by omega), List.getElem?_drop, ← Nat.add_assoc,
      hlength]
    dsimp only [Conversation.exchange, Function.comp_apply]
    rw [List.getD_eq_getElem?_getD, List.getElem?_eq_getElem (by omega)]
    rfl
  · obtain ⟨hlast, hsame⟩ := hcut.fin hended
    obtain ⟨hover, hall⟩ := hfin hlast
    exact ⟨hover, hsame.trans hall⟩

theorem Conversing.suits (h : Conversing terms Piece world)
    (hid : id ∈ terms.ids) {call : ReadingCall}
    (hpermits : world.Permits Piece id call) :
    call.Suits (Piece id) (world.exchange terms id)
      (world.receiver.context id) := by
  cases call with
  | onStreamFrame frame => exact h.admitted hid hpermits
  | takeRegions iovCount count => exact hpermits
  | onFinRead => exact hpermits
  | readv destinations => trivial
  | setBlockedUntilFlush => trivial
  | setUnblocked => trivial
  | stopReading => trivial

theorem Conversing.receives (h : Conversing terms Piece world)
    (hcut : ∀ id ∈ terms.ids, CutOnce (Piece id)) (hid : id ∈ terms.ids)
    (timing : QuicTiming) {call : ReadingCall}
    (hpermits : world.Permits Piece id call) :
    ∃ next, world.next (.receive id timing call) = .ok next ∧
      Conversing terms Piece next := by
  obtain ⟨state, hstate⟩ := h.received id hid
  have hlimit := terms.limit_lt
  obtain ⟨bytes, context, moved, hdone, hreceiving, hgrows, hall⟩ :=
    hstate.receiving.perform (h.fair hid) (hcut id hid) (Nat.le_refl _)
      (show terms.limit + kStreamReceiveWindowLimit +
        kStreamReceiveWindowLimit < maxStreamOffset by
          have : kStreamReceiveWindowLimit ≤ kSessionReceiveWindowLimit := by
            decide
          omega) timing (h.suits hid hpermits)
  refine ⟨_, ?_, h.adopts hid hreceiving fun frame hmem index hindex => ?_⟩
  · unfold Conversation.next QuicSession.receive QuicSession.adopt
    dsimp only
    rw [hdone, Outcome.ok_bind]
    dsimp only
    rw [carryOut_harmless hreceiving.told]
    rfl
  · rcases List.mem_append.mp hmem with hold | hnew
    · exact hgrows.settled _ (hstate.settled frame hold index hindex)
    · exact hall frame hnew index hindex

theorem Conversing.granted (h : Conversing terms Piece world)
    {streamId byteOffset : Nat}
    (hmem : .sendWindowUpdate streamId byteOffset ∈ world.receiver.calls) :
    byteOffset < maxStreamOffset ∧
      (streamId = kConnectionLevelId ∧ byteOffset ≤
          world.receiver.flowController.receiveWindowOffset ∨
        streamId ∈ terms.ids ∧ byteOffset ≤ (world.receiver.streams
          streamId).flowController.receiveWindowOffset) := by
  obtain ⟨id, hid, hharmless⟩ := h.told _ hmem
  have hwindow := (h.fair hid).streamWindow_lt
  have hwindow' := (h.fair hid).connectionWindow_lt
  dsimp only [Conversation.exchange] at hwindow hwindow'
  cases hharmless with
  | stream hle => exact ⟨by omega, .inr ⟨hid, hle⟩⟩
  | connection hle => exact ⟨by omega, .inl ⟨rfl, hle⟩⟩

theorem packetWriter_contract (rooms : Nat → List Nat) :
    SessionContract (packetWriter rooms) :=
  consumeData_contract rooms

theorem written_add_lt
    (hid : id ∈ terms.ids) {data : List UInt8}
    (hlength : ∑ other ∈ terms.ids, (world.written other).length +
      data.length ≤ terms.limit) :
    (world.written id).length + data.length < maxStreamOffset := by
  have hlimit := terms.limit_lt
  have hone : (world.written id).length ≤
      ∑ other ∈ terms.ids, (world.written other).length :=
    Finset.single_le_sum (f := fun other => (world.written other).length)
      (fun _ _ => Nat.zero_le _) hid
  omega

theorem Conversing.writeOrBufferData (h : Conversing terms Piece world)
    (hid : id ∈ terms.ids) {data : List UInt8} (fin : Bool)
    (rooms : Nat → List Nat)
    (hlength : ∑ other ∈ terms.ids, (world.written other).length +
      data.length ≤ terms.limit) :
    ∃ next, world.next (.writeOrBufferData id data fin rooms) = .ok next ∧
      Conversing terms Piece next := by
  obtain ⟨sender, hwrite, hsending, hcontinued, hattended⟩ :=
    h.sending.writeOrBufferData h.attended hid (packetWriter_contract rooms)
      data fin (written_add_lt hid hlength)
  refine ⟨_, ?_, h.sends hsending hattended hcontinued ?_
    (fun _ _ => Nat.zero_le _) (Nat.zero_le _)⟩
  · rw [Conversation.next, hwrite]
    rfl
  · split
    · rw [sum_update_add hid List.length world.written _ data.length
        List.length_append]
      exact hlength
    · rw [Function.update_eq_self]
      exact h.length_le

theorem Conversing.onCanWrite (h : Conversing terms Piece world)
    (turns : List (Nat → List Nat)) :
    ∃ next, world.next (.onCanWrite turns) = .ok next ∧
      Conversing terms Piece next := by
  have hcontracts : ∀ writer ∈ turns.map packetWriter,
      SessionContract writer := by
    intro writer hmem
    obtain ⟨rooms, -, rfl⟩ := List.mem_map.mp hmem
    exact packetWriter_contract rooms
  obtain ⟨sender, hwrite, hsending, hcontinued, hattended⟩ :=
    h.sending.onCanWrite h.attended hcontracts
  refine ⟨_, ?_, h.sends hsending hattended hcontinued h.length_le
    (fun _ _ => Nat.zero_le _) (Nat.zero_le _)⟩
  rw [Conversation.next, hwrite]
  rfl

theorem Conversing.onWindowUpdateFrame (h : Conversing terms Piece world)
    {streamId byteOffset : Nat} (rooms : Nat → List Nat)
    (hmem : .sendWindowUpdate streamId byteOffset ∈ world.receiver.calls) :
    ∃ next, world.next (.onWindowUpdateFrame streamId byteOffset rooms) =
        .ok next ∧
      Conversing terms Piece next := by
  obtain ⟨hlt, hgranted⟩ := h.granted hmem
  rcases hgranted with ⟨rfl, hle⟩ | ⟨hid, hle⟩
  · obtain ⟨sender, hwrite, hsending, hcontinued, hattended⟩ :=
      h.sending.onConnectionWindowUpdate h.attended (packetWriter rooms) hlt
    refine ⟨_, ?_, h.sends hsending hattended hcontinued h.length_le
      (fun id hid => ?_) ?_⟩
    · rw [Conversation.next, hwrite]
      rfl
    · rw [Function.update_of_ne (Terms.id_ne hid).1]
      exact Nat.zero_le _
    · rw [Function.update_self]
      exact hle
  · have hne := (Terms.id_ne hid).1
    obtain ⟨sender, hwrite, hsending, hcontinued, hattended⟩ :=
      h.sending.onWindowUpdateFrame h.attended hid hne
        (packetWriter_contract rooms) hlt
    refine ⟨_, ?_, h.sends hsending hattended hcontinued h.length_le
      (fun id hid => ?_) ?_⟩
    · rw [Conversation.next, hwrite]
      rfl
    · by_cases heq : id = streamId
      · rw [heq, Function.update_self]
        exact hle
      · rw [Function.update_of_ne heq]
        exact Nat.zero_le _
    · rw [Function.update_of_ne hne.symm]
      exact Nat.zero_le _

theorem Conversing.next (h : Conversing terms Piece world)
    (hcut : ∀ id ∈ terms.ids, CutOnce (Piece id)) {event : ConversationEvent}
    (hallows : world.Allows terms Piece event) :
    ∃ next, world.next event = .ok next ∧ Conversing terms Piece next := by
  cases event with
  | writeOrBufferData id data fin rooms =>
      exact h.writeOrBufferData hallows.1 fin rooms hallows.2
  | onCanWrite turns => exact h.onCanWrite turns
  | onWindowUpdateFrame streamId byteOffset rooms =>
      exact h.onWindowUpdateFrame rooms hallows
  | receive id timing call =>
      exact h.receives hcut hallows.1 timing hallows.2

/-! ## The beginning -/

theorem tracks_registered (activated : List (Nat × Nat))
    (hdata : ∀ stream ∈ activated,
      stream.1 ≠ kCryptoStreamId ∧ stream.1 ≠ kHeadersStreamId)
    {list : QuicWriteBlockedList} {ids : Nat → Prop} (h : list.Tracks ids) :
    (activated.foldl (fun list stream =>
        list.registerStream stream.1 stream.2) list).Tracks
        (fun id => ids id ∨ id ∈ activated.map Prod.fst) ∧
      ∀ other, (activated.foldl (fun list stream =>
        list.registerStream stream.1 stream.2) list).Blocks other ↔
          list.Blocks other := by
  induction activated generalizing list ids with
  | nil => exact ⟨by simpa using h, fun _ => .rfl⟩
  | cons stream activated ih =>
      rw [List.forall_mem_cons] at hdata
      obtain ⟨hfirst, hblocks⟩ := h.registerStream hdata.1 stream.2
      obtain ⟨hrest, hsame⟩ := ih hdata.2 hfirst
      rw [List.foldl_cons]
      refine ⟨⟨hrest.kept, fun id hid => hrest.registered id ?_, hrest.data⟩,
        fun other => (hsame other).trans (hblocks other)⟩
      rw [List.map_cons, List.mem_cons] at hid
      rwa [or_assoc]

theorem Terms.window (terms : Terms) (id : Nat) :
    Window (terms.flowController id) id
      (if id = kConnectionLevelId then kSessionReceiveWindowLimit
        else kStreamReceiveWindowLimit) 0 (terms.receiveWindow id) := by
  have htwo := terms.two_le id
  refine ⟨⟨htwo, terms.receiveWindow_le id, ?_, ?_⟩, rfl, rfl, rfl,
    Nat.le_refl _⟩
  · unfold Terms.flowController QuicFlowController.new
    dsimp only
    omega
  · unfold Terms.flowController QuicFlowController.new
    dsimp only
    omega

theorem Terms.sendWindow_lt (terms : Terms) (id : Nat) :
    terms.sendWindow id < maxStreamOffset := by
  refine Nat.lt_of_le_of_lt (Nat.le_trans (terms.granted id)
    (terms.receiveWindow_le id)) ?_
  split <;> decide

theorem Terms.sending (terms : Terms) :
    Sending terms.ids terms.session fun _ => [] := by
  obtain ⟨htracks, hblocks⟩ := tracks_registered terms.activated
    (fun stream hmem => (terms.data stream hmem).2)
    QuicWriteBlockedList.tracks_new
  have hidle : ∀ other, ¬({} : QuicWriteBlockedList).Blocks other := by
    rintro other (⟨hcrypto, -⟩ | ⟨hheaders, -⟩ | hmem)
    · contradiction
    · contradiction
    · exact absurd hmem (List.not_mem_nil (a := other))
  refine ⟨⟨htracks.kept, fun id hid => htracks.registered id
    (.inr (List.mem_toFinset.mp hid)), htracks.data⟩,
    fun id hid => absurd ((hblocks id).mp hid) (hidle id), fun _ _ => rfl,
    fun _ _ => ⟨rfl, rfl, Nat.le_refl _, rfl, rfl, by decide, trivial, nofun,
      rfl, nofun⟩,
    fun id _ => ⟨Nat.zero_le _, terms.sendWindow_lt id, Nat.zero_le _,
      terms.sendWindow_lt kConnectionLevelId⟩, Nat.zero_le _,
    terms.sendWindow_lt kConnectionLevelId, ?_, fun _ _ => .nil, nofun⟩
  exact (Finset.sum_const_zero).symm

theorem conversing_opened :
    Conversing terms Piece
      { sender := terms.session, receiver := terms.session } where
  sending := terms.sending
  attended _ _ := .inl rfl
  length_le := by simp
  received id hid := by
    have hwindow := terms.window id
    rw [if_neg (Terms.id_ne hid).1] at hwindow
    have hnothing : ∀ offset,
        ¬(Reassembly.start : Reassembly UInt8).Settled offset := by
      simp [Reassembly.Settled, Reassembly.start]
    have hlimit := terms.limit_lt
    refine ⟨.start, ⟨rfl, rfl, represents_new (show terms.limit <
      maxStreamOffset by omega), fun _ => Reassembly.inOrder_start,
      fun offset size _ => .inl fun index _ => hnothing _,
      fun offset hsettled => absurd hsettled (hnothing offset),
      Nat.zero_le _, ?_, hwindow, ?_, .inl ⟨rfl, rfl⟩,
      fun hclosed => absurd hclosed Bool.false_ne_true,
      fun call hmem => absurd hmem List.not_mem_nil⟩,
      fun frame hmem => absurd hmem List.not_mem_nil⟩
    · exact (Finset.sum_const_zero (s := terms.ids.erase id)).symm
    · have hconnection := terms.window kConnectionLevelId
      rw [if_pos rfl] at hconnection
      refine ⟨hconnection.granting, rfl, rfl, ?_, Nat.le_refl _⟩
      exact (Finset.sum_const_zero (s := terms.ids.erase id)).symm
  window id _ := terms.granted id
  connectionWindow := terms.granted kConnectionLevelId
  told call hmem := absurd hmem List.not_mem_nil

def ReachableConversation (terms : Terms) (Piece : Nat → Nat → Nat → Prop)
    (world : Conversation) : Prop :=
  (Conversation.system terms).Reachable (Conversation.Allows terms Piece) world

theorem conversing_of_reachable
    (hcut : ∀ id ∈ terms.ids, CutOnce (Piece id))
    (hreach : ReachableConversation terms Piece world) :
    Conversing terms Piece world := by
  refine hreach.invariant _ ?_ ?_
  · rintro start rfl
    exact conversing_opened
  · intro before event after hbefore hallows hstep
    obtain ⟨next, hnext, hconversing⟩ := hbefore.next hcut hallows
    rw [Conversation.system, Outcome.toOption_eq_some, hnext] at hstep
    cases hstep
    exact hconversing

end Invariants

end RevSDK
