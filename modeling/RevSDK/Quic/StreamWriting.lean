import RevSDK.Quic.FlowControl
import RevSDK.Quic.ReliableQuicStream

/-!
# What a stream hands to its session

Whatever the session takes of each offer, it is handed the bytes that the
application wrote, in order and within the windows, and a FIN after the last
of them.  `Writes` is the invariant of the sending half.
-/

namespace RevSDK

open RevSDK.Foundation

/-- `QuicPacketGenerator::ConsumeData` takes a FIN with the last byte. -/
structure SessionContract (session : SessionWriter) : Prop where
  le : ∀ offset length fin, (session offset length fin).bytesConsumed ≤ length
  fin_of : ∀ offset length fin, (session offset length fin).finConsumed →
    fin ∧ (session offset length fin).bytesConsumed = length
  takes_fin : ∀ offset length fin, 0 < length →
    (session offset length fin).bytesConsumed = length →
      (session offset length fin).finConsumed = fin

structure Handover where
  offset : Nat
  data : List UInt8
  fin : Bool
  deriving DecidableEq

def handed (id : Nat) (calls : List TransportCall) : List Handover :=
  calls.filterMap fun call =>
    match call with
    | .sendStreamData stream offset data fin =>
        if stream = id then some ⟨offset, data, fin⟩ else none
    | _ => none

inductive HandedOver (written : List UInt8) :
    List Handover → Nat → Bool → Prop
  | nil : HandedOver written [] 0 false
  | snoc {handovers : List Handover} {position : Nat} (size : Nat)
      (fin : Bool) : HandedOver written handovers position false →
      position + size ≤ written.length →
      (fin → position + size = written.length) →
      HandedOver written
        (handovers ++ [⟨position, (written.drop position).take size, fin⟩])
        (position + size) fin

def PendingData.remaining (pending : PendingData) : List UInt8 :=
  pending.data.drop pending.offset

def SoundQueue (fin : Bool) : List PendingData → Prop
  | [] => True
  | pending :: rest =>
      (pending.offset < pending.data.length ∨
        rest = [] ∧ fin ∧ pending.data = [] ∧ pending.offset = 0) ∧
      SoundQueue fin rest

structure Writes {β : Type} (stream : ReliableQuicStream β)
    (written : List UInt8) : Prop where
  contributes : stream.streamContributesToConnectionFlowControl = true
  sent : stream.flowController.bytesSent = stream.streamBytesWritten
  sent_le : stream.streamBytesWritten ≤ written.length
  queued : (stream.queuedData.map PendingData.remaining).flatten =
    written.drop stream.streamBytesWritten
  counted : stream.queuedDataBytes =
    written.length - stream.streamBytesWritten
  length_lt : written.length < maxStreamOffset
  sound : SoundQueue stream.finBuffered stream.queuedData
  finished : stream.finSent = true →
    stream.finBuffered = true ∧ stream.queuedData = []
  closed : stream.writeSideClosed = stream.finSent
  waiting : stream.finBuffered = true → stream.finSent = false →
    stream.queuedData ≠ []

structure MaySend {β : Type} (context : StreamContext β) : Prop where
  stream : context.stream.flowController.bytesSent ≤
    context.stream.flowController.sendWindowOffset
  stream_lt : context.stream.flowController.sendWindowOffset < maxStreamOffset
  connection : context.connectionFlowController.bytesSent ≤
    context.connectionFlowController.sendWindowOffset
  connection_lt :
    context.connectionFlowController.sendWindowOffset < maxStreamOffset

inductive Minor (id : Nat) : TransportCall → Prop
  | sendBlocked (controller : Nat) : Minor id (.sendBlocked controller)
  | markConnectionLevelWriteBlocked :
      Minor id (.markConnectionLevelWriteBlocked id)
  | streamDraining : Minor id (.streamDraining id)
  | closeStream : Minor id (.closeStream id)

section Handovers

variable {id : Nat} {calls more : List TransportCall}

theorem handed_append :
    handed id (calls ++ more) = handed id calls ++ handed id more :=
  List.filterMap_append

theorem handed_minor {id' : Nat} (h : ∀ call ∈ calls, Minor id' call) :
    handed id calls = [] := by
  refine List.filterMap_eq_nil_iff.mpr fun call hmem => ?_
  cases h call hmem <;> rfl

theorem HandedOver.mono {written : List UInt8} {handovers : List Handover}
    {position : Nat} (h : HandedOver written handovers position false)
    (data : List UInt8) :
    HandedOver (written ++ data) handovers position false := by
  generalize hfin : false = fin at h
  induction h with
  | nil => exact .nil
  | @snoc handovers position size fin _ hle _ ih =>
      subst hfin
      have hsame : ((written ++ data).drop position).take size =
          (written.drop position).take size := by
        rw [List.drop_append_of_le_length (by omega),
          List.take_append_of_le_length (by rw [List.length_drop]; omega)]
      rw [← hsame]
      exact .snoc size false (ih rfl) (by simp; omega) nofun

end Handovers

section Offers

variable {β : Type} {context : StreamContext β} {session : SessionWriter}
  {data : List UInt8} {fin : Bool}

structure Sent (context next : StreamContext β) (count : Nat) (fin : Bool)
    (calls : List TransportCall) : Prop where
  stream : ∃ last, next.stream = { context.stream with
    flowController := { context.stream.flowController with
      bytesSent := context.stream.flowController.bytesSent + count
      lastBlockedSendWindowOffset := last }
    streamBytesWritten := context.stream.streamBytesWritten + count
    finSent := context.stream.finSent || fin
    writeSideClosed := context.stream.writeSideClosed || fin }
  connection : ∃ last, next.connectionFlowController =
    { context.connectionFlowController with
      bytesSent := context.connectionFlowController.bytesSent + count
      lastBlockedSendWindowOffset := last }
  calls : next.calls = context.calls ++ calls

theorem maybeSendBlocked_sent
    (hcontributes :
      context.stream.streamContributesToConnectionFlowControl = true) :
    ∃ calls, Sent context context.maybeSendBlocked 0 false calls ∧
      (∀ call ∈ calls, Minor context.stream.id call) ∧
      (context.connectionFlowController.isBlocked = true →
        context.stream.flowController.isBlocked = true ∨
          .markConnectionLevelWriteBlocked context.stream.id ∈ calls) := by
  obtain ⟨last, told, hstream, htold⟩ :=
    context.stream.flowController.maybeSendBlocked_spec
  obtain ⟨last', told', hconnection, htold'⟩ :=
    context.connectionFlowController.maybeSendBlocked_spec
  have hminor : ∀ call ∈ told ++ told', Minor context.stream.id call := by
    intro call hmem
    rcases List.mem_append.mp hmem with hmem | hmem
    · rcases htold with rfl | rfl
      · simp at hmem
      · exact List.mem_singleton.mp hmem ▸ .sendBlocked _
    · rcases htold' with rfl | rfl
      · simp at hmem
      · exact List.mem_singleton.mp hmem ▸ .sendBlocked _
  unfold StreamContext.maybeSendBlocked StreamContext.onConnectionController
    StreamContext.onStreamController
  simp only [hstream, hconnection, hcontributes, Bool.not_true, if_true,
    Bool.false_eq_true, if_false]
  split
  next hmark =>
    refine ⟨told ++ told' ++
      [.markConnectionLevelWriteBlocked context.stream.id], ⟨⟨last, ?_⟩,
        ⟨last', rfl⟩, ?_⟩, fun call hmem => ?_, fun _ => .inr (by simp)⟩
    · simp [StreamContext.tell, hcontributes]
    · simp [StreamContext.tell]
    · rcases List.mem_append.mp hmem with hmem | hmem
      · exact hminor call hmem
      · exact List.mem_singleton.mp hmem ▸ .markConnectionLevelWriteBlocked
  next hfree =>
    refine ⟨told ++ told', ⟨⟨last, ?_⟩, ⟨last', rfl⟩, ?_⟩, hminor,
      fun hblocked => .inl ?_⟩
    · simp [hcontributes]
    · simp
    · by_contra hopen
      rw [Bool.not_eq_true] at hopen
      refine hfree ?_
      change (context.connectionFlowController.isBlocked &&
        !context.stream.flowController.isBlocked) = true
      rw [hblocked, hopen]
      rfl

theorem Sent.trans {middle next : StreamContext β} {first second : Nat}
    {one two : Bool} {calls more : List TransportCall}
    (hfirst : Sent context middle first one calls)
    (hsecond : Sent middle next second two more) :
    Sent context next (first + second) (one || two) (calls ++ more) where
  stream := by
    obtain ⟨last, hmiddle⟩ := hfirst.stream
    obtain ⟨last', hnext⟩ := hsecond.stream
    refine ⟨last', ?_⟩
    rw [hnext, hmiddle]
    simp [Nat.add_assoc, Bool.or_assoc]
  connection := by
    obtain ⟨last, hmiddle⟩ := hfirst.connection
    obtain ⟨last', hnext⟩ := hsecond.connection
    refine ⟨last', ?_⟩
    rw [hnext, hmiddle]
    simp [Nat.add_assoc]
  calls := by rw [hsecond.calls, hfirst.calls, List.append_assoc]

theorem handOver_sent (data : List UInt8) {consumed : QuicConsumedData}
    (hcontributes :
      context.stream.streamContributesToConnectionFlowControl = true)
    (hsend : MaySend context)
    (hcount : consumed.bytesConsumed ≤ context.sendWindow)
    (hoffset : context.stream.streamBytesWritten + consumed.bytesConsumed <
      maxStreamOffset) :
    Sent context (context.handOver data consumed) consumed.bytesConsumed false
      [.sendStreamData context.stream.id context.stream.streamBytesWritten
        (data.take consumed.bytesConsumed) consumed.finConsumed] := by
  obtain ⟨hstream, hstream', hconnection, hconnection'⟩ := hsend
  unfold StreamContext.sendWindow at hcount
  rw [if_pos hcontributes, QuicFlowController.sendWindowSize_eq hstream,
    QuicFlowController.sendWindowSize_eq hconnection] at hcount
  have hone := context.stream.flowController.addBytesSent_eq
    consumed.bytesConsumed (by omega) hstream'
  have htwo := context.connectionFlowController.addBytesSent_eq
    consumed.bytesConsumed (by omega) hconnection'
  unfold StreamContext.handOver StreamContext.addBytesSent
    StreamContext.onConnectionController StreamContext.onStreamController
    StreamContext.tell
  simp only [hone, htwo, hcontributes, if_true, offsetSum_eq hoffset,
    List.append_nil]
  exact ⟨⟨context.stream.flowController.lastBlockedSendWindowOffset,
    by simp [hcontributes]⟩, ⟨_, rfl⟩, rfl⟩

theorem Sent.maySend {next : StreamContext β} {count : Nat} {took : Bool}
    {calls : List TransportCall} (h : Sent context next count took calls)
    (hcontributes :
      context.stream.streamContributesToConnectionFlowControl = true)
    (hsend : MaySend context) (hcount : count ≤ context.sendWindow) :
    MaySend next := by
  obtain ⟨last, hstream⟩ := h.stream
  obtain ⟨last', hconnection⟩ := h.connection
  unfold StreamContext.sendWindow at hcount
  rw [if_pos hcontributes, QuicFlowController.sendWindowSize_eq hsend.stream,
    QuicFlowController.sendWindowSize_eq hsend.connection] at hcount
  have hone := hsend.stream
  have htwo := hsend.connection
  refine ⟨?_, ?_, ?_, ?_⟩
  · rw [hstream]
    dsimp only
    omega
  · rw [hstream]
    exact hsend.stream_lt
  · rw [hconnection]
    dsimp only
    omega
  · rw [hconnection]
    exact hsend.connection_lt

def Plain (id : Nat) (calls : List TransportCall) : Prop :=
  ∀ call ∈ calls, Minor id call ∨
    ∃ offset data fin, call = .sendStreamData id offset data fin

theorem onFinTaken_open (hopen : context.stream.writeSideClosed = false) :
    context.onFinTaken = { context with
      stream := { context.stream with finSent := true, writeSideClosed := true }
      calls := context.calls ++
        ((if context.stream.finReceived then
            [.streamDraining context.stream.id] else []) ++
          if context.stream.readSideClosed then
            [.closeStream context.stream.id] else []) } := by
  unfold StreamContext.onFinTaken StreamContext.closeWriteSide
    StreamContext.tell
  cases hreceived : context.stream.finReceived <;>
    cases hclosed : context.stream.readSideClosed <;>
    simp [hopen, hreceived, hclosed]

theorem onFinTaken_sent (hopen : context.stream.writeSideClosed = false) :
    ∃ calls, Sent context context.onFinTaken 0 true calls ∧
      ∀ call ∈ calls, Minor context.stream.id call := by
  rw [onFinTaken_open hopen]
  refine ⟨_, ⟨⟨context.stream.flowController.lastBlockedSendWindowOffset,
    by simp⟩, ⟨_, rfl⟩, rfl⟩, fun call hmem => ?_⟩
  rcases List.mem_append.mp hmem with hmem | hmem
  · split at hmem
    · exact List.mem_singleton.mp hmem ▸ .streamDraining
    · simp at hmem
  · split at hmem
    · exact List.mem_singleton.mp hmem ▸ .closeStream
    · simp at hmem

theorem mark_sent :
    Sent context (context.tell
      (.markConnectionLevelWriteBlocked context.stream.id)) 0 false
      [.markConnectionLevelWriteBlocked context.stream.id] :=
  ⟨⟨context.stream.flowController.lastBlockedSendWindowOffset, by
    simp [StreamContext.tell]⟩, ⟨_, rfl⟩, rfl⟩

theorem Sent.refl : Sent context context 0 false [] :=
  ⟨⟨context.stream.flowController.lastBlockedSendWindowOffset, by simp⟩,
    ⟨context.connectionFlowController.lastBlockedSendWindowOffset, by simp⟩,
    (List.append_nil _).symm⟩

theorem minor_mark {id : Nat} :
    ∀ call ∈ [TransportCall.markConnectionLevelWriteBlocked id],
      Minor id call := fun _ hmem =>
  List.mem_singleton.mp hmem ▸ .markConnectionLevelWriteBlocked

theorem reportBlocked_sent (finWithZeroData : Bool)
    (hcontributes :
      context.stream.streamContributesToConnectionFlowControl = true) :
    ∃ calls, Sent context (if finWithZeroData then context
        else context.maybeSendBlocked) 0 false calls ∧
      (∀ call ∈ calls, Minor context.stream.id call) ∧
      (finWithZeroData = false →
        context.connectionFlowController.isBlocked = true →
        context.stream.flowController.isBlocked = true ∨
          .markConnectionLevelWriteBlocked context.stream.id ∈ calls) := by
  cases finWithZeroData with
  | true => exact ⟨[], .refl, by simp, nofun⟩
  | false =>
      obtain ⟨calls, hsent, hminor, hwakes⟩ :=
        maybeSendBlocked_sent hcontributes
      exact ⟨calls, hsent, hminor, fun _ => hwakes⟩

theorem finishFin_sent (finConsumed : Bool)
    (hopen : context.stream.writeSideClosed = false)
    (hfin : finConsumed = true → fin = true) :
    ∃ calls, Sent context (if (fin && finConsumed) = true then
          context.onFinTaken
        else if fin = true then
          context.tell (.markConnectionLevelWriteBlocked context.stream.id)
        else context) 0 finConsumed calls ∧
      (∀ call ∈ calls, Minor context.stream.id call) ∧
      (finConsumed = fin ∨
        .markConnectionLevelWriteBlocked context.stream.id ∈ calls) := by
  cases finConsumed with
  | true =>
      obtain ⟨calls, hsent, hminor⟩ := onFinTaken_sent hopen
      rw [hfin rfl]
      exact ⟨calls, hsent, hminor, .inl rfl⟩
  | false =>
      cases fin with
      | false => exact ⟨[], .refl, by simp, .inl rfl⟩
      | true =>
          exact ⟨_, mark_sent, minor_mark, .inr (List.mem_singleton_self _)⟩

theorem finishWrite_sent {writeLength : Nat} (finWithZeroData : Bool)
    {consumed : QuicConsumedData}
    (hcontributes :
      context.stream.streamContributesToConnectionFlowControl = true)
    (hopen : context.stream.writeSideClosed = false)
    (hfin : consumed.finConsumed = true →
      fin = true ∧ consumed.bytesConsumed = writeLength) :
    ∃ calls, Sent context
        (context.finishWrite writeLength fin finWithZeroData consumed) 0
        consumed.finConsumed calls ∧
      (∀ call ∈ calls, Minor context.stream.id call) ∧
      (consumed.bytesConsumed = writeLength ∧ consumed.finConsumed = fin ∨
        .markConnectionLevelWriteBlocked context.stream.id ∈ calls) ∧
      (finWithZeroData = false →
        context.connectionFlowController.isBlocked = true →
        context.stream.flowController.isBlocked = true ∨
          .markConnectionLevelWriteBlocked context.stream.id ∈ calls) := by
  unfold StreamContext.finishWrite
  by_cases hall : consumed.bytesConsumed = writeLength
  · rw [if_pos hall]
    obtain ⟨calls, hsent, hminor, hwakes⟩ :=
      reportBlocked_sent finWithZeroData hcontributes
    generalize (if finWithZeroData then context
      else context.maybeSendBlocked) = told at hsent ⊢
    obtain ⟨last, hstream⟩ := hsent.stream
    have hid : told.stream.id = context.stream.id := by rw [hstream]
    obtain ⟨more, hmore, hmoreMinor, hdone⟩ :=
      @finishFin_sent β told fin consumed.finConsumed
        (by rw [hstream]; simp [hopen]) fun htook => (hfin htook).1
    rw [hid] at hmoreMinor hdone
    refine ⟨calls ++ more, by simpa using hsent.trans hmore,
      fun call hmem => ?_, ?_, fun hdata hblocked => ?_⟩
    · rcases List.mem_append.mp hmem with hmem | hmem
      · exact hminor call hmem
      · exact hmoreMinor call hmem
    · exact hdone.imp (fun heq => ⟨hall, heq⟩)
        fun hmark => List.mem_append_right _ hmark
    · exact (hwakes hdata hblocked).imp_right
        fun hmark => List.mem_append_left _ hmark
  · rw [if_neg hall]
    have hnone : consumed.finConsumed = false := by
      by_contra htook
      exact hall (hfin (by simpa using htook)).2
    rw [hnone]
    exact ⟨_, mark_sent, minor_mark, .inr (List.mem_singleton_self _),
      fun _ _ => .inr (List.mem_singleton_self _)⟩

structure Offered (context next : StreamContext β) (data : List UInt8)
    (fin : Bool) (consumed : QuicConsumedData) (calls : List TransportCall) :
    Prop where
  sent : Sent context next consumed.bytesConsumed consumed.finConsumed calls
  maySend : MaySend next
  le : consumed.bytesConsumed ≤ data.length
  fin_of : consumed.finConsumed = true →
    fin = true ∧ consumed.bytesConsumed = data.length
  takes_fin : 0 < data.length → consumed.bytesConsumed = data.length →
    consumed.finConsumed = fin
  plain : Plain context.stream.id calls
  handed : handed context.stream.id calls =
      [⟨context.stream.streamBytesWritten, data.take consumed.bytesConsumed,
        consumed.finConsumed⟩] ∨
    handed context.stream.id calls = [] ∧ consumed = ⟨0, false⟩
  wakes : consumed.bytesConsumed = data.length ∧ consumed.finConsumed = fin ∨
    next.stream.flowController.isBlocked = true ∨
    .markConnectionLevelWriteBlocked context.stream.id ∈ calls

theorem isBlocked_of_sendWindow
    (hcontributes :
      context.stream.streamContributesToConnectionFlowControl = true)
    (hnone : context.sendWindow = 0) :
    context.stream.flowController.isBlocked = true ∨
      context.connectionFlowController.isBlocked = true := by
  unfold StreamContext.sendWindow at hnone
  rw [if_pos hcontributes] at hnone
  unfold QuicFlowController.isBlocked
  rw [decide_eq_true_eq, decide_eq_true_eq]
  omega

theorem Sent.sendWindow {next : StreamContext β} {count : Nat} {took : Bool}
    {calls : List TransportCall} (h : Sent context next count took calls)
    (hcount : count = context.sendWindow)
    (hcontributes :
      context.stream.streamContributesToConnectionFlowControl = true)
    (hsend : MaySend context) : next.sendWindow = 0 := by
  subst hcount
  have hnext := h.maySend hcontributes hsend (Nat.le_refl _)
  obtain ⟨last, hstream⟩ := h.stream
  obtain ⟨last', hconnection⟩ := h.connection
  have hwindow : context.sendWindow =
      min (context.stream.flowController.sendWindowOffset -
          context.stream.flowController.bytesSent)
        (context.connectionFlowController.sendWindowOffset -
          context.connectionFlowController.bytesSent) := by
    unfold StreamContext.sendWindow
    rw [if_pos hcontributes,
      QuicFlowController.sendWindowSize_eq hsend.stream,
      QuicFlowController.sendWindowSize_eq hsend.connection]
  unfold StreamContext.sendWindow
  rw [if_pos (by rw [hstream]; exact hcontributes),
    QuicFlowController.sendWindowSize_eq hnext.stream,
    QuicFlowController.sendWindowSize_eq hnext.connection, hstream,
    hconnection]
  dsimp only
  omega

theorem Sent.isBlocked {next : StreamContext β} {took : Bool}
    {calls : List TransportCall} (h : Sent context next 0 took calls) :
    next.stream.flowController.isBlocked =
      context.stream.flowController.isBlocked := by
  obtain ⟨last, hstream⟩ := h.stream
  rw [hstream]
  rfl

theorem Offered.blocked (data : List UInt8) (fin : Bool)
    (hcontributes :
      context.stream.streamContributesToConnectionFlowControl = true)
    (hsend : MaySend context) (hnone : context.sendWindow = 0) :
    ∃ calls, Offered context context.maybeSendBlocked data fin ⟨0, false⟩
      calls := by
  obtain ⟨calls, hsent, hminor, hwakes⟩ := maybeSendBlocked_sent hcontributes
  refine ⟨calls, hsent, hsent.maySend hcontributes hsend (Nat.zero_le _),
    Nat.zero_le _, nofun, fun hpos hall => absurd hall hpos.ne,
    fun call hmem => .inl (hminor call hmem),
    .inr ⟨handed_minor hminor, rfl⟩, .inr ?_⟩
  rw [hsent.isBlocked]
  rcases isBlocked_of_sendWindow hcontributes hnone with hstream | hconnection
  · exact .inl hstream
  · exact hwakes hconnection

theorem Offered.handOver (data : List UInt8) (fin : Bool)
    {consumed : QuicConsumedData}
    (hcontributes :
      context.stream.streamContributesToConnectionFlowControl = true)
    (hsend : MaySend context)
    (hopen : context.stream.writeSideClosed = false)
    (hlength : context.stream.streamBytesWritten + data.length <
      maxStreamOffset)
    (hwindow : consumed.bytesConsumed ≤ min data.length context.sendWindow)
    (hfin : consumed.finConsumed = true →
      (fin && !decide (data.length > context.sendWindow)) = true ∧
        consumed.bytesConsumed = min data.length context.sendWindow)
    (htakes : 0 < min data.length context.sendWindow →
      consumed.bytesConsumed = min data.length context.sendWindow →
        consumed.finConsumed =
          (fin && !decide (data.length > context.sendWindow))) :
    ∃ calls, Offered context
      ((context.handOver data consumed).finishWrite
        (min data.length context.sendWindow)
        (fin && !decide (data.length > context.sendWindow))
        (fin && data.isEmpty) consumed) data fin consumed calls := by
  have hadded := handOver_sent data hcontributes hsend
    (show consumed.bytesConsumed ≤ context.sendWindow by omega) (by omega)
  generalize context.handOver data consumed = added at *
  obtain ⟨last, hstream⟩ := hadded.stream
  have hstill : added.stream.streamContributesToConnectionFlowControl =
      true := by
    rw [hstream]
    exact hcontributes
  obtain ⟨calls, hfinished, hminor, hdone, hwakes⟩ := finishWrite_sent
    (fin && data.isEmpty) hstill (by rw [hstream]; simp [hopen]) hfin
  have hid := congrArg ReliableQuicStream.id hstream
  dsimp only at hid
  rw [hid] at hminor hdone hwakes
  have hsent := hadded.trans hfinished
  rw [Nat.add_zero, Bool.false_or] at hsent
  refine ⟨_, hsent, hsent.maySend hcontributes hsend (by omega), by omega,
    fun htook => ?_, fun hpos hall => ?_, fun call hmem => ?_, .inl ?_, ?_⟩
  · obtain ⟨hmay, hall⟩ := hfin htook
    rw [Bool.and_eq_true, Bool.not_eq_true', decide_eq_false_iff_not] at hmay
    exact ⟨hmay.1, by omega⟩
  · rw [htakes (by omega) (by omega), decide_eq_false (by omega)]
    simp
  · rcases List.mem_append.mp hmem with hmem | hmem
    · exact .inr ⟨_, _, _, List.mem_singleton.mp hmem⟩
    · exact .inl (hminor call hmem)
  · rw [handed_append, handed_minor hminor]
    simp [RevSDK.handed]
  · rcases hdone with ⟨hall, htook⟩ | hmark
    · by_cases hfits : data.length ≤ context.sendWindow
      · refine .inl ⟨by omega, ?_⟩
        rw [htook, decide_eq_false (by omega)]
        simp
      · -- the window is used up, and the stream or the connection says so
        right
        have hused : consumed.bytesConsumed = context.sendWindow := by omega
        have hpayload : (fin && data.isEmpty) = false := by
          rw [List.isEmpty_eq_false_iff.mpr
            (List.ne_nil_of_length_pos (by omega)), Bool.and_false]
        have hnone := hadded.sendWindow hused hcontributes hsend
        rw [hfinished.isBlocked]
        rcases isBlocked_of_sendWindow hstill hnone with hblocked | hblocked
        · exact .inl hblocked
        · exact (hwakes hpayload hblocked).imp_right
            fun hmark => List.mem_append_right _ hmark
    · exact .inr (.inr (List.mem_append_right _ hmark))

theorem writevData_offered (data : List UInt8) (fin : Bool)
    (hcontract : SessionContract session)
    (hcontributes :
      context.stream.streamContributesToConnectionFlowControl = true)
    (hsend : MaySend context)
    (hopen : context.stream.writeSideClosed = false)
    (hlength : context.stream.streamBytesWritten + data.length <
      maxStreamOffset) :
    ∃ consumed next calls,
      context.writevData session data fin = (consumed, next) ∧
      Offered context next data fin consumed calls := by
  unfold StreamContext.writevData
  rw [if_neg (by simp [hopen])]
  dsimp only
  split
  next hquick =>
    obtain ⟨calls, hoffered⟩ :=
      Offered.blocked data fin hcontributes hsend hquick.1
    exact ⟨_, _, calls, rfl, hoffered⟩
  next hoffer =>
    obtain ⟨calls, hoffered⟩ := Offered.handOver data fin hcontributes hsend
      hopen hlength (hcontract.le _ _ _) (hcontract.fin_of _ _ _)
      (hcontract.takes_fin _ _ _)
    exact ⟨_, _, calls, rfl, hoffered⟩

end Offers

section Queues

variable {β : Type} {context next : StreamContext β}
  {session : SessionWriter} {written data later : List UInt8} {fin : Bool}
  {consumed : QuicConsumedData} {calls : List TransportCall}

structure Wrote (context next : StreamContext β) (written : List UInt8)
    (calls : List TransportCall) : Prop where
  writes : Writes next.stream written
  maySend : MaySend next
  id : next.stream.id = context.stream.id
  window : next.stream.flowController.sendWindowOffset =
    context.stream.flowController.sendWindowOffset
  connectionWindow : next.connectionFlowController.sendWindowOffset =
    context.connectionFlowController.sendWindowOffset
  sent : ∃ count, next.stream.flowController.bytesSent =
      context.stream.flowController.bytesSent + count ∧
    next.connectionFlowController.bytesSent =
      context.connectionFlowController.bytesSent + count
  finSent : context.stream.finSent = true → next.stream.finSent = true
  told : next.calls = context.calls ++ calls
  plain : Plain context.stream.id calls
  handedOver : ∀ handovers, HandedOver written handovers
      context.stream.streamBytesWritten context.stream.finSent →
    HandedOver written (handovers ++ handed context.stream.id calls)
      next.stream.streamBytesWritten next.stream.finSent

theorem Wrote.trans {middle : StreamContext β} {more : List TransportCall}
    (hfirst : Wrote context middle written calls)
    (hsecond : Wrote middle next written more) :
    Wrote context next written (calls ++ more) where
  writes := hsecond.writes
  maySend := hsecond.maySend
  id := hsecond.id.trans hfirst.id
  window := hsecond.window.trans hfirst.window
  connectionWindow := hsecond.connectionWindow.trans hfirst.connectionWindow
  sent := by
    obtain ⟨first, hstream, hconnection⟩ := hfirst.sent
    obtain ⟨second, hstream', hconnection'⟩ := hsecond.sent
    exact ⟨first + second, by omega, by omega⟩
  finSent h := hsecond.finSent (hfirst.finSent h)
  told := by rw [hsecond.told, hfirst.told, List.append_assoc]
  plain call hmem := by
    rcases List.mem_append.mp hmem with hmem | hmem
    · exact hfirst.plain call hmem
    · exact hfirst.id ▸ hsecond.plain call hmem
  handedOver handovers h := by
    have := hsecond.handedOver _ (hfirst.handedOver handovers h)
    rwa [hfirst.id, List.append_assoc, ← handed_append] at this

theorem Offered.wrote (h : Offered context next data fin consumed calls)
    {before : List PendingData} {bytes : Nat}
    (hwrites : Writes { context.stream with
      queuedData := before, queuedDataBytes := bytes } written)
    (hopen : context.stream.finSent = false)
    (hnext : written.drop context.stream.streamBytesWritten = data ++ later)
    (hlater : fin = true → later = [])
    (queue : List PendingData) (left : Nat)
    (hqueue : (queue.map PendingData.remaining).flatten =
      data.drop consumed.bytesConsumed ++ later)
    (hleft : left + consumed.bytesConsumed = bytes)
    (hsound : SoundQueue context.stream.finBuffered queue)
    (hfinished : consumed.finConsumed = true →
      context.stream.finBuffered = true ∧ queue = [])
    (hwaiting : context.stream.finBuffered = true →
      consumed.finConsumed = false → queue ≠ []) :
    Wrote context { next with
      stream := { next.stream with
        queuedData := queue, queuedDataBytes := left } } written calls := by
  obtain ⟨last, hstream⟩ := h.sent.stream
  obtain ⟨last', hconnection⟩ := h.sent.connection
  have hle := h.le
  have hlength := congrArg List.length hnext
  rw [List.length_drop, List.length_append] at hlength
  have hsent := hwrites.sent_le
  have hcounted := hwrites.counted
  have hsame := hwrites.sent
  dsimp only at hsent hcounted hsame
  refine ⟨⟨?_, ?_, ?_, ?_, ?_, hwrites.length_lt, ?_, ?_, ?_, ?_⟩,
    ⟨h.maySend.stream, h.maySend.stream_lt, h.maySend.connection,
      h.maySend.connection_lt⟩, ?_, ?_, ?_, ⟨consumed.bytesConsumed, ?_, ?_⟩,
    by simp [hopen], h.sent.calls, h.plain, fun handovers hhanded => ?_⟩
  all_goals dsimp only
  · rw [hstream]
    exact hwrites.contributes
  · rw [hstream]
    dsimp only
    omega
  · rw [hstream]
    dsimp only
    omega
  · rw [hqueue, hstream, ← List.drop_drop, hnext,
      List.drop_append_of_le_length hle]
  · rw [hstream]
    dsimp only
    omega
  · rw [hstream]
    exact hsound
  · rw [hstream, hopen]
    exact hfinished
  · rw [hstream]
    have hclosed := hwrites.closed
    dsimp only at hclosed ⊢
    rw [hclosed]
  · rw [hstream, hopen]
    exact hwaiting
  · rw [hstream]
  · rw [hstream]
  · rw [hconnection]
  · rw [hstream]
  · rw [hconnection]
  · rw [hopen] at hhanded
    rcases h.handed with hone | ⟨hnone, rfl⟩
    · have htake : data.take consumed.bytesConsumed =
          (written.drop context.stream.streamBytesWritten).take
            consumed.bytesConsumed := by
        rw [hnext, List.take_append_of_le_length hle]
      rw [hone, htake, hstream, hopen]
      refine .snoc _ _ hhanded (by omega) fun htook => ?_
      obtain ⟨hfin, hall⟩ := h.fin_of htook
      rw [hlater hfin, List.length_nil] at hlength
      omega
    · rw [hnone, List.append_nil, hstream, hopen]
      exact hhanded

def Awake (stream : ReliableQuicStream β) (marked : Prop) : Prop :=
  stream.queuedData = [] ∨ stream.flowController.isBlocked = true ∨ marked

theorem Wrote.withQueue {queue : List PendingData}
    (hwrites : Writes { context.stream with queuedData := queue } written)
    (hsend : MaySend context) :
    Wrote context (context.withQueue queue) written [] where
  writes := hwrites
  maySend := ⟨hsend.stream, hsend.stream_lt, hsend.connection,
    hsend.connection_lt⟩
  id := rfl
  window := rfl
  connectionWindow := rfl
  sent := ⟨0, rfl, rfl⟩
  finSent h := h
  told := (List.append_nil _).symm
  plain := by simp [Plain]
  handedOver handovers h := by
    rw [show handed _ [] = [] from rfl, List.append_nil]
    exact h

theorem Wrote.forget {queue : List PendingData} {finBuffered : Bool}
    (h : Wrote context next written calls) :
    Wrote { context with
      stream := { context.stream with queuedData := queue, finBuffered } }
      next written calls :=
  ⟨h.writes, h.maySend, h.id, h.window, h.connectionWindow, h.sent, h.finSent,
    h.told, h.plain, h.handedOver⟩

theorem Writes.unsent {stream : ReliableQuicStream β}
    (h : Writes stream written)
    (hwaits : stream.finBuffered = false ∨ stream.queuedData ≠ []) :
    stream.finSent = false := by
  by_contra hsent
  obtain ⟨hbuffered, hnil⟩ := h.finished (by simpa using hsent)
  rcases hwaits with hnone | hsome
  · simp [hnone] at hbuffered
  · exact hsome hnil

section Fronts

variable {pending : PendingData} {rest : List PendingData} {left : Nat}

theorem Offered.wrote_all
    (h : Offered context next pending.remaining fin consumed calls)
    (hwrites : Writes { context.stream with queuedData := pending :: rest }
      written)
    (hfin : (rest.isEmpty && context.stream.finBuffered) = fin)
    (hall : consumed.bytesConsumed = pending.remaining.length)
    (htook : fin = consumed.finConsumed)
    (hleft : left + consumed.bytesConsumed = context.stream.queuedDataBytes) :
    Wrote context { next with
      stream := { next.stream with
        queuedData := rest, queuedDataBytes := left } } written calls := by
  have hqueued := hwrites.queued
  rw [List.map_cons, List.flatten_cons] at hqueued
  refine h.wrote hwrites (hwrites.unsent (.inr (List.cons_ne_nil _ _)))
    hqueued.symm ?_ _ _ ?_ hleft hwrites.sound.2 (fun hfinished => ?_)
    (fun hbuffered hnot hnil => ?_)
  · rintro rfl
    rw [Bool.and_eq_true, List.isEmpty_iff] at hfin
    rw [hfin.1]
    rfl
  · rw [hall, List.drop_length, List.nil_append]
  · rw [← htook, ← hfin, Bool.and_eq_true, List.isEmpty_iff] at hfinished
    exact hfinished.symm
  · rw [← htook, ← hfin, hbuffered, hnil] at hnot
    simp at hnot

theorem Offered.wrote_front
    (h : Offered context next pending.remaining fin consumed calls)
    (hwrites : Writes { context.stream with queuedData := pending :: rest }
      written)
    (hfin : (rest.isEmpty && context.stream.finBuffered) = fin)
    (hundone : ¬(consumed.bytesConsumed = pending.remaining.length ∧
      fin = consumed.finConsumed))
    (hleft : left + consumed.bytesConsumed = context.stream.queuedDataBytes) :
    Wrote context { next with
      stream := { next.stream with
        queuedData := { pending with
          offset := pending.offset + consumed.bytesConsumed } :: rest
        queuedDataBytes := left } } written calls := by
  obtain ⟨hpending, hrest⟩ := hwrites.sound
  have hle := h.le
  have hremaining : pending.remaining.length =
      pending.data.length - pending.offset := List.length_drop
  have hqueued := hwrites.queued
  rw [List.map_cons, List.flatten_cons] at hqueued
  refine h.wrote hwrites (hwrites.unsent (.inr (List.cons_ne_nil _ _)))
    hqueued.symm ?_ _ _ ?_ hleft ⟨?_, hrest⟩ (fun htook => ?_)
    (fun _ _ => List.cons_ne_nil _ _)
  · rintro rfl
    rw [Bool.and_eq_true, List.isEmpty_iff] at hfin
    rw [hfin.1]
    rfl
  · rw [List.map_cons, List.flatten_cons]
    unfold PendingData.remaining
    rw [List.drop_drop]
  · dsimp only at hpending
    rcases hpending with hlt | ⟨hnil, hbuffered, hdata, hzero⟩
    · left
      by_contra hfull
      dsimp only at hfull
      exact hundone ⟨by omega, (h.takes_fin (by omega) (by omega)).symm⟩
    · right
      rw [hdata, List.length_nil] at hremaining
      exact ⟨hnil, hbuffered, hdata, by dsimp only; omega⟩
  · obtain ⟨hmay, hall⟩ := h.fin_of htook
    exact absurd ⟨hall, hmay.trans htook.symm⟩ hundone

end Fronts

/-- The loop of `OnCanWrite`, by induction on the queue. -/
theorem sendQueued_wrote (hcontract : SessionContract session)
    {queue : List PendingData}
    (hwrites : Writes { context.stream with queuedData := queue } written)
    (hsend : MaySend context) :
    ∃ calls, Wrote context (StreamContext.sendQueued session queue context)
        written calls ∧
      Awake (StreamContext.sendQueued session queue context).stream
        (.markConnectionLevelWriteBlocked context.stream.id ∈ calls) := by
  induction queue generalizing context with
  | nil => exact ⟨[], .withQueue hwrites hsend, .inl rfl⟩
  | cons pending rest ih =>
      have hopen : context.stream.finSent = false :=
        hwrites.unsent (.inr (List.cons_ne_nil _ _))
      have hpending := hwrites.sound.1
      have hlength := congrArg List.length hwrites.queued
      rw [List.map_cons, List.flatten_cons, List.length_append,
        List.length_drop] at hlength
      have hsent := hwrites.sent_le
      have hcounted := hwrites.counted
      have hmax := hwrites.length_lt
      dsimp only at hpending hlength hsent hcounted
      unfold StreamContext.sendQueued
      dsimp only
      rw [if_neg (by
        rintro ⟨hpos, hge⟩
        rcases hpending with hlt | ⟨-, -, -, hzero⟩ <;> omega)]
      generalize hfin : (rest.isEmpty && context.stream.finBuffered) = fin
      obtain ⟨consumed, next, calls, hwrite, hoffered⟩ :=
        writevData_offered pending.remaining fin hcontract
          hwrites.contributes hsend (hwrites.closed.trans hopen) (by omega)
      unfold PendingData.remaining at hwrite
      rw [hwrite]
      dsimp only
      obtain ⟨last, hstream⟩ := hoffered.sent.stream
      have hbytes := congrArg ReliableQuicStream.queuedDataBytes hstream
      dsimp only at hbytes
      have hle := hoffered.le
      rw [hbytes, offsetDifference_eq (by omega) (by omega)]
      have hleft : context.stream.queuedDataBytes - consumed.bytesConsumed +
          consumed.bytesConsumed = context.stream.queuedDataBytes := by
        omega
      by_cases hdone : consumed.bytesConsumed =
          (pending.data.drop pending.offset).length ∧ fin = consumed.finConsumed
      · rw [if_pos hdone]
        have hwrote := hoffered.wrote_all hwrites hfin hdone.1 hdone.2 hleft
        obtain ⟨more, hmore, hawake⟩ := @ih { next with
            stream := { next.stream with
              queuedDataBytes :=
                context.stream.queuedDataBytes - consumed.bytesConsumed } }
          hwrote.writes
          ⟨hwrote.maySend.stream, hwrote.maySend.stream_lt,
            hwrote.maySend.connection, hwrote.maySend.connection_lt⟩
        refine ⟨calls ++ more, hwrote.trans hmore.forget, ?_⟩
        rw [show next.stream.id = context.stream.id from hwrote.id] at hawake
        exact hawake.imp_right (.imp_right (List.mem_append_right _))
      · rw [if_neg hdone]
        refine ⟨calls, hoffered.wrote_front hwrites hfin hdone hleft, ?_⟩
        rcases hoffered.wakes with ⟨hall, htook⟩ | hwakes
        · exact absurd ⟨hall, htook.symm⟩ hdone
        · exact .inr hwakes

theorem onCanWrite_wrote (hcontract : SessionContract session)
    (hwrites : Writes context.stream written) (hsend : MaySend context) :
    ∃ calls, Wrote context (context.onCanWrite session) written calls ∧
      Awake (context.onCanWrite session).stream
        (.markConnectionLevelWriteBlocked context.stream.id ∈ calls) :=
  sendQueued_wrote hcontract hwrites hsend

theorem SoundQueue.snoc {queue : List PendingData} {pending : PendingData}
    (h : SoundQueue false queue)
    (hpending : pending.offset < pending.data.length ∨
      fin = true ∧ pending.data = [] ∧ pending.offset = 0) :
    SoundQueue fin (queue ++ [pending]) := by
  induction queue with
  | nil => exact ⟨hpending.imp_right fun h => ⟨rfl, h⟩, trivial⟩
  | cons first rest ih =>
      obtain ⟨hfirst, hrest⟩ := h
      exact ⟨.inl (hfirst.resolve_right (by simp)), ih hrest⟩

theorem Writes.streamBytesWritten_eq {stream : ReliableQuicStream β}
    (h : Writes stream written) (hempty : stream.queuedData = []) :
    stream.streamBytesWritten = written.length := by
  have hlength := congrArg List.length h.queued
  have hle := h.sent_le
  rw [hempty, List.map_nil, List.flatten_nil, List.length_nil,
    List.length_drop] at hlength
  omega

section NewData

variable {data : List UInt8}

theorem Writes.append {stream : ReliableQuicStream β}
    (h : Writes stream written) (hopen : stream.finBuffered = false)
    (hdata : 0 < data.length ∨ fin = true ∧ data = [])
    (hlength : written.length + data.length < maxStreamOffset) :
    Writes { stream with
      finBuffered := fin
      queuedData := stream.queuedData ++ [⟨data, 0⟩]
      queuedDataBytes := stream.queuedDataBytes + data.length }
      (written ++ data) := by
  have hunsent := h.unsent (.inl hopen)
  have hsent := h.sent_le
  have hcounted := h.counted
  refine ⟨h.contributes, h.sent, ?_, ?_, ?_, ?_, ?_, ?_, h.closed,
    fun _ _ => by simp⟩
  · dsimp only
    rw [List.length_append]
    omega
  · dsimp only
    rw [List.map_append, List.flatten_append, h.queued,
      List.drop_append_of_le_length hsent]
    simp [PendingData.remaining]
  · dsimp only
    rw [List.length_append]
    omega
  · rw [List.length_append]
    exact hlength
  · have hsound := h.sound
    rw [hopen] at hsound
    exact hsound.snoc (hdata.imp_right fun h => ⟨h.1, h.2, rfl⟩)
  · simp [hunsent]

theorem Writes.wrote_append (h : Writes context.stream written)
    (hsend : MaySend context) (hopen : context.stream.finBuffered = false)
    (hdata : 0 < data.length ∨ fin = true ∧ data = [])
    (hlength : written.length + data.length < maxStreamOffset) :
    Wrote context { context with
      stream := { context.stream with
        finBuffered := fin
        queuedData := context.stream.queuedData ++ [⟨data, 0⟩]
        queuedDataBytes := context.stream.queuedDataBytes + data.length } }
      (written ++ data) [] := by
  refine ⟨h.append hopen hdata hlength, ⟨hsend.stream, hsend.stream_lt,
    hsend.connection, hsend.connection_lt⟩, rfl, rfl, rfl, ⟨0, rfl, rfl⟩, id,
    (List.append_nil _).symm, by simp [Plain], fun handovers hhanded => ?_⟩
  rw [h.unsent (.inl hopen)] at hhanded ⊢
  rw [show handed _ [] = [] from rfl, List.append_nil]
  exact hhanded

theorem Offered.wrote_new
    (h : Offered { context with
      stream := { context.stream with finBuffered := fin } } next data fin
      consumed calls)
    (hwrites : Writes context.stream written)
    (hopen : context.stream.finBuffered = false)
    (hempty : context.stream.queuedData = [])
    (hdata : 0 < data.length ∨ fin = true ∧ data = [])
    (hlength : written.length + data.length < maxStreamOffset)
    (queue : List PendingData) (left : Nat)
    (hqueue : (queue.map PendingData.remaining).flatten =
      data.drop consumed.bytesConsumed)
    (hleft : left + consumed.bytesConsumed = data.length)
    (hsound : SoundQueue fin queue)
    (hfinished : consumed.finConsumed = true → queue = [])
    (hwaiting : fin = true → consumed.finConsumed = false → queue ≠ []) :
    Wrote context { next with
      stream := { next.stream with
        queuedData := queue, queuedDataBytes := left } }
      (written ++ data) calls := by
  have hall := hwrites.streamBytesWritten_eq hempty
  have hbytes : context.stream.queuedDataBytes = 0 :=
    hwrites.counted.trans (by omega)
  have hpending := hwrites.append hopen hdata hlength
  rw [hempty, hbytes, List.nil_append, Nat.zero_add] at hpending
  have hnext : (written ++ data).drop context.stream.streamBytesWritten =
      data ++ [] := by
    rw [hall, List.drop_left, List.append_nil]
  have hwrote := h.wrote hpending (hwrites.unsent (.inl hopen)) hnext
    (fun _ => rfl) queue left (by rw [hqueue, List.append_nil]) hleft hsound
    (fun htook => ⟨(h.fin_of htook).1, hfinished htook⟩) hwaiting
  exact hwrote.forget

theorem Offered.wrote_idle
    (h : Offered { context with
      stream := { context.stream with finBuffered := fin } } next data fin
      consumed calls)
    (hwrites : Writes context.stream written)
    (hopen : context.stream.finBuffered = false)
    (hempty : context.stream.queuedData = [])
    (hdata : 0 < data.length ∨ fin = true ∧ data = [])
    (hlength : written.length + data.length < maxStreamOffset)
    {final : StreamContext β}
    (hfinal : final =
      if consumed.bytesConsumed < data.length ∨
          (fin && !consumed.finConsumed) = true then
        { next with
          stream := { next.stream with
            queuedDataBytes := offsetSum next.stream.queuedDataBytes
              (data.drop consumed.bytesConsumed).length
            queuedData := next.stream.queuedData ++
              [⟨data.drop consumed.bytesConsumed, 0⟩] } }
      else next) :
    Wrote context final (written ++ data) calls ∧
      final.stream.finBuffered = fin ∧
      Awake final.stream
        (.markConnectionLevelWriteBlocked context.stream.id ∈ calls) := by
  subst hfinal
  obtain ⟨last, hstream⟩ := h.sent.stream
  have hall := hwrites.streamBytesWritten_eq hempty
  have hqueue : next.stream.queuedData = [] := by
    rw [hstream]
    exact hempty
  have hbytes : next.stream.queuedDataBytes = 0 := by
    rw [hstream]
    exact hwrites.counted.trans (by omega)
  have hbuffered : next.stream.finBuffered = fin := by
    rw [hstream]
  have hle := h.le
  have hwrote := h.wrote_new hwrites hopen hempty hdata hlength
  split
  next hmore =>
    have hdropped : (data.drop consumed.bytesConsumed).length =
        data.length - consumed.bytesConsumed := List.length_drop
    have htaken : ¬(consumed.bytesConsumed = data.length ∧
        consumed.finConsumed = fin) := by
      rintro ⟨hfull, htook⟩
      rcases hmore with hlt | hwaits
      · omega
      · simp [htook] at hwaits
    have hwaits : consumed.bytesConsumed < data.length ∨
        fin = true ∧ data = [] := by
      refine hdata.imp_left fun hpos => Nat.lt_of_le_of_ne hle fun hfull => ?_
      exact htaken ⟨hfull, h.takes_fin hpos hfull⟩
    rw [hqueue, hbytes, offsetSum_eq (by omega), Nat.zero_add,
      List.nil_append]
    refine ⟨hwrote _ _ (by simp [PendingData.remaining]) (by omega)
      ⟨hwaits.imp (fun hlt => by dsimp only; omega)
        fun h => ⟨rfl, h.1, by simp [h.2], rfl⟩, trivial⟩
      (fun htook => ?_) (fun _ _ => List.cons_ne_nil _ _), hbuffered,
      .inr (h.wakes.resolve_left htaken)⟩
    obtain ⟨hmay, hfull⟩ := h.fin_of htook
    exact absurd ⟨hfull, htook.trans hmay.symm⟩ htaken
  next hnone =>
    rw [not_or, Nat.not_lt, Bool.and_eq_true, Bool.not_eq_true'] at hnone
    exact ⟨hwrote next.stream.queuedData next.stream.queuedDataBytes
      (by rw [hqueue, List.drop_eq_nil_of_le hnone.1]; rfl)
      (by rw [hbytes]; omega) (by rw [hqueue]; trivial) (fun _ => hqueue)
      (fun hfin htook => absurd ⟨hfin, htook⟩ hnone.2), hbuffered,
      .inl hqueue⟩

end NewData

theorem writeOrBufferData_wrote (data : List UInt8) (fin : Bool)
    (hcontract : SessionContract session)
    (hwrites : Writes context.stream written) (hsend : MaySend context)
    (hopen : context.stream.finBuffered = false)
    (hdata : data ≠ [] ∨ fin = true)
    (hlength : written.length + data.length < maxStreamOffset) :
    ∃ calls, Wrote context (context.writeOrBufferData session data fin)
        (written ++ data) calls ∧
      (context.writeOrBufferData session data fin).stream.finBuffered = fin ∧
      ∀ marked, Awake context.stream marked →
        Awake (context.writeOrBufferData session data fin).stream (marked ∨
          .markConnectionLevelWriteBlocked context.stream.id ∈ calls) := by
  have hunsent := hwrites.unsent (.inl hopen)
  have hsent := hwrites.sent_le
  have hpos : 0 < data.length ∨ fin = true ∧ data = [] := by
    by_cases hnil : data = []
    · exact .inr ⟨hdata.resolve_left (not_not.mpr hnil), hnil⟩
    · exact .inl (List.length_pos_of_ne_nil hnil)
  unfold StreamContext.writeOrBufferData
  dsimp only
  rw [if_neg (by simpa [or_iff_not_imp_left] using hdata),
    if_neg (by simp [hopen]), if_neg (by simp [hwrites.closed, hunsent])]
  by_cases hempty : context.stream.queuedData = []
  · have hall := hwrites.streamBytesWritten_eq hempty
    rw [if_pos (show context.stream.queuedData.isEmpty = true by
      rw [hempty, List.isEmpty_nil])]
    obtain ⟨consumed, next, calls, hwrite, hoffered⟩ :=
      @writevData_offered β { context with
        stream := { context.stream with finBuffered := fin } } session data fin
        hcontract hwrites.contributes ⟨hsend.stream, hsend.stream_lt,
          hsend.connection, hsend.connection_lt⟩
        (hwrites.closed.trans hunsent) (by dsimp only; omega)
    rw [hwrite]
    dsimp only
    obtain ⟨hwrote, hbuffered, hawake⟩ :=
      hoffered.wrote_idle hwrites hopen hempty hpos hlength rfl
    exact ⟨calls, hwrote, hbuffered,
      fun _ _ => hawake.imp_right (.imp_right .inr)⟩
  · rw [if_neg (show ¬context.stream.queuedData.isEmpty = true by
      simpa using hempty)]
    dsimp only
    have hcounted := hwrites.counted
    rw [if_pos (hpos.imp_right (by simp [·])), List.drop_zero,
      offsetSum_eq (by omega)]
    exact ⟨[], hwrites.wrote_append hsend hopen hpos hlength, rfl,
      fun marked hawake =>
        .inr ((hawake.resolve_left hempty).imp_right .inl)⟩

def StreamContext.granted (context : StreamContext β) (byteOffset : Nat) :
    StreamContext β :=
  { context with
    stream := { context.stream with
      flowController := { context.stream.flowController with
        sendWindowOffset :=
          max context.stream.flowController.sendWindowOffset byteOffset } } }

theorem onWindowUpdateFrame_wrote (hcontract : SessionContract session)
    (hwrites : Writes context.stream written) (hsend : MaySend context)
    {byteOffset : Nat} (hoffset : byteOffset < maxStreamOffset) :
    ∃ calls, Wrote (context.granted byteOffset)
        (context.onWindowUpdateFrame session byteOffset) written calls ∧
      ∀ marked, Awake context.stream marked →
        Awake (context.onWindowUpdateFrame session byteOffset).stream (marked ∨
          .markConnectionLevelWriteBlocked context.stream.id ∈ calls) := by
  have hgranted : Writes (context.granted byteOffset).stream written :=
    ⟨hwrites.contributes, hwrites.sent, hwrites.sent_le, hwrites.queued,
      hwrites.counted, hwrites.length_lt, hwrites.sound, hwrites.finished,
      hwrites.closed, hwrites.waiting⟩
  have hmay : MaySend (context.granted byteOffset) :=
    ⟨Nat.le_trans hsend.stream (Nat.le_max_left _ _),
      Nat.max_lt.mpr ⟨hsend.stream_lt, hoffset⟩, hsend.connection,
      hsend.connection_lt⟩
  have hrefl : Wrote (context.granted byteOffset)
      (context.granted byteOffset) written [] := .withQueue hgranted hmay
  unfold StreamContext.onWindowUpdateFrame
    QuicFlowController.updateSendWindowOffset
  by_cases hold : byteOffset ≤ context.stream.flowController.sendWindowOffset
  · rw [if_pos hold]
    have hsame : context.granted byteOffset = context := by
      unfold StreamContext.granted
      rw [Nat.max_eq_left hold]
    rw [hsame] at hrefl ⊢
    exact ⟨[], hrefl, fun marked hawake => hawake.imp_right (.imp_right .inl)⟩
  · rw [if_neg hold]
    have hsame : context.granted byteOffset = { context with
        stream := { context.stream with
          flowController := { context.stream.flowController with
            sendWindowOffset := byteOffset } } } := by
      unfold StreamContext.granted
      rw [Nat.max_eq_right (Nat.le_of_not_le hold)]
    dsimp only
    rw [← hsame]
    split
    next hblocked =>
      obtain ⟨calls, hwrote, hawake⟩ := onCanWrite_wrote hcontract hgranted hmay
      exact ⟨calls, hwrote, fun _ _ => hawake.imp_right (.imp_right .inr)⟩
    next hfree =>
      refine ⟨[], hrefl, fun marked hawake => ?_⟩
      rcases hawake with hnil | hblocked | hmarked
      · exact .inl hnil
      · exact absurd hblocked hfree
      · exact .inr (.inr (.inl hmarked))

end Queues

end RevSDK
