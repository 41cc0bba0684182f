import RevSDK.Connection.BodyDelivery
import RevSDK.Connection.TruncatedResponse

/-!
# Chunks after the close

A reset from inside an event closes the stream, but not the sequencer, and the
rest of the event may still read.  `ReadsOn` names the events that do, by the
state before them: the body is delivered in time in every run without one.
-/

namespace RevSDK

open RevSDK.Foundation

namespace StreamWorld

/-- The body of a stream that was closed, and had not failed before. -/
def DeliversBody (world : StreamWorld) : Prop :=
  world.base.closed = true → world.stream.mFailed = false →
    PassedInTime world.chunks world.calls

def ClosesAt (world : StreamWorld) (fin : Option Nat) : Prop :=
  Conflicts world.base.closeOffset fin ∨ Reaches fin world.base.dataLength

instance (world : StreamWorld) (fin : Option Nat) :
    Decidable (world.ClosesAt fin) :=
  inferInstanceAs (Decidable (_ ∨ _))

def ReadsOn (framer : SpdyFramer) (world : StreamWorld) : StreamEvent → Prop
  | .streamFrame frame => world.base.blocked = false ∧
      world.ClosesAt frame.fin ∧ ∃ piece ∈ frame.readable, piece.isEmpty = false
  | .headersComplete block fin => world.base.headersDecompressed = false ∧
      Conflicts world.base.closeOffset (headersFin fin) ∧
      (block.isEmpty = true ∨ (acceptedLength framer block).isSome = true) ∧
      ∃ piece ∈ world.base.readable, piece.isEmpty = false
  | _ => False

instance (framer : SpdyFramer) (world : StreamWorld) (event : StreamEvent) :
    Decidable (world.ReadsOn framer event) := by
  refine StreamEvent.casesOn event ?_ ?_ ?_ ?_ ?_ ?_ ?_
  all_goals intros; unfold ReadsOn; infer_instance

def ReadsInTime (framer : SpdyFramer) (world : StreamWorld)
    (event : StreamEvent) : Prop :=
  world.mapped = true → ¬ world.ReadsOn framer event

instance (framer : SpdyFramer) (world : StreamWorld) (event : StreamEvent) :
    Decidable (world.ReadsInTime framer event) :=
  inferInstanceAs (Decidable (_ → _))

inductive OnTime (world : StreamWorld) : Prop
  | running : world.base.closed = false →
      world.stream.Delivering world.chunks world.calls → OnTime world
  | ended : world.base.closed = true →
      world.stream.Delivered world.chunks world.calls → OnTime world

structure Late (world : StreamWorld) : Prop where
  closed : world.base.closed = true
  working : world.stream.mFailed = false
  passed : PassedLate world.calls

section Closing

variable {world : StreamWorld}

theorem OnTime.working (h : world.OnTime) : world.stream.mFailed = false := by
  cases h with
  | running _ hdelivering => exact hdelivering.working
  | ended _ hdelivered => exact hdelivered.working

theorem OnTime.delivered (h : world.OnTime)
    (hclosed : world.base.closed = true) :
    world.stream.Delivered world.chunks world.calls := by
  cases h with
  | running hopen _ => simp [hclosed] at hopen
  | ended _ hdelivered => exact hdelivered

theorem OnTime.rebase (h : world.OnTime) {base : QuicSpdyClientStream}
    {arrived : List UInt8} (hclosed : base.closed = world.base.closed) :
    OnTime { world with base, arrived } := by
  cases h with
  | running hopen hdelivering => exact .running (hclosed.trans hopen) hdelivering
  | ended hshut hdelivered => exact .ended (hclosed.trans hshut) hdelivered

theorem onTime_closing : Closing OnTime where
  rebase hclosed _ h := h.rebase hclosed
  close := by
    intro world base hopen hclosed _ h
    cases h with
    | running _ hdelivering =>
        refine .ended ?_ ?_
        · rw [perform_base]
          exact hclosed
        · rw [perform_stream, perform_chunks, perform_calls]
          exact hdelivering.close _ _
    | ended hshut _ => simp [hshut] at hopen

theorem OnTime.takeFrame (h : world.OnTime) :
    OnTime { world with stream := world.stream.onStreamFrame } := by
  cases h with
  | running hopen hdelivering => exact .running hopen hdelivering.onStreamFrame
  | ended hclosed hdelivered => exact .ended hclosed hdelivered.onStreamFrame

theorem OnTime.deliver (h : world.OnTime) (code : Int)
    (headers : SpdyHeaderBlock) :
    OnTime (world.perform
      (world.stream.onInitialHeadersComplete code headers)) := by
  cases h with
  | running hopen hdelivering =>
      refine .running ?_ ?_
      · rw [perform_base]
        exact hopen
      · rw [perform_stream, perform_chunks, perform_calls]
        exact hdelivering.onInitialHeadersComplete code headers
  | ended hclosed hdelivered =>
      refine .ended ?_ ?_
      · rw [perform_base]
        exact hclosed
      · rw [perform_stream, perform_chunks, perform_calls]
        exact hdelivered.onInitialHeadersComplete code headers

theorem addIncomingData_stream (world : StreamWorld) (aData : Data) :
    (world.addIncomingData aData).stream =
      (world.stream.should_add_incoming_data aData).1 :=
  perform_stream _ _

theorem addIncomingData_calls (world : StreamWorld) (aData : Data) :
    (world.addIncomingData aData).calls = world.calls ++
      (world.stream.should_add_incoming_data aData).2 :=
  perform_calls _ _

theorem addIncomingData_chunks (world : StreamWorld) (aData : Data) :
    (world.addIncomingData aData).chunks = world.chunks ++ [aData] := by
  simp [StreamWorld.addIncomingData]

theorem OnTime.addIncomingData (h : world.OnTime) {aData : Data}
    (hmay : world.base.closed = false ∨ aData.isEmpty = true) :
    (world.addIncomingData aData).OnTime := by
  have hclosed : (world.addIncomingData aData).base.closed =
      world.base.closed := by
    rw [addIncomingData_base]
  cases h with
  | running hopen hdelivering =>
      refine .running (hclosed.trans hopen) ?_
      rw [addIncomingData_stream, addIncomingData_chunks,
        addIncomingData_calls]
      exact hdelivering.should_add_incoming_data aData
  | ended hshut hdelivered =>
      refine .ended (hclosed.trans hshut) ?_
      rw [addIncomingData_stream, addIncomingData_chunks,
        addIncomingData_calls]
      exact hdelivered.add_empty
        (hmay.resolve_left fun hopen => by simp [hshut] at hopen)

theorem OnTime.late (h : world.OnTime) (hclosed : world.base.closed = true)
    {aData : Data} (hfull : aData.isEmpty = false) :
    (world.addIncomingData aData).Late where
  closed := by
    rw [addIncomingData_base]
    exact hclosed
  working := by
    have hdelivered := h.delivered hclosed
    rw [StreamWorld.addIncomingData, perform_stream,
      QUICDataStream.should_add_incoming_data, if_pos hdelivered.headed]
    exact hdelivered.working
  passed := by
    rw [addIncomingData_calls]
    exact (h.delivered hclosed).add_late hfull

/-! ## What was late stays late -/

theorem Late.perform (h : world.Late)
    {next : QUICDataStream × List StreamCall}
    (hworking : next.1.mFailed = false) : (world.perform next).Late where
  closed := by
    rw [perform_base]
    exact h.closed
  working := by
    rw [perform_stream]
    exact hworking
  passed := by
    rw [perform_calls]
    exact h.passed.append _

theorem late_stable : Stable Late where
  rebase hclosed _ h := { h with closed := hclosed.trans h.closed }
  close base hopen _ _ h := by simp [h.closed] at hopen
  addIncomingData aData h := by
    refine { h.perform (?_ : (_ : QUICDataStream × _).1.mFailed = false) with }
    unfold QUICDataStream.should_add_incoming_data
    split
    · exact h.working
    · split <;> exact h.working
  takeFrame h := by
    refine { h with working := ?_ }
    simp [QUICDataStream.onStreamFrame, h.working]

end Closing

section Reading

variable {world : StreamWorld} {pieces : List Data}

/-! ## Reading -/

/-- Induction on the pieces: the loop stops when it resets the stream. -/
theorem OnTime.readPieces (h : world.OnTime)
    (hmay : world.base.closed = false ∨
      ∀ piece ∈ pieces, piece.isEmpty = true) :
    (readPieces pieces world).OnTime := by
  induction pieces generalizing world with
  | nil =>
      have hempty : OnTime { world with
          base := { world.base with readable := [] } } := h.rebase rfl
      unfold StreamWorld.readPieces
      dsimp only
      split
      · exact onTime_closing.closeReadSide (hempty.rebase rfl)
      · exact hempty.rebase rfl
  | cons piece pieces ih =>
      have hadded := h.addIncomingData
        (hmay.imp_right fun hall => hall piece List.mem_cons_self)
      have hclosed : (world.addIncomingData piece).base.closed =
          world.base.closed := by
        rw [addIncomingData_base]
      unfold StreamWorld.readPieces
      dsimp only
      split
      · exact onTime_closing.closeStream (hadded.rebase rfl)
      · refine ih (hadded.rebase rfl) ?_
        exact hmay.imp hclosed.trans fun hall later hmem =>
          hall later (List.mem_cons_of_mem _ hmem)

theorem OnTime.readPieces_late (h : world.OnTime)
    (hclosed : world.base.closed = true)
    (hwithin : world.base.exceedsContentLength = false ∨
      ∀ piece ∈ pieces, piece.isEmpty = false)
    (hfull : ∃ piece ∈ pieces, piece.isEmpty = false) :
    (StreamWorld.readPieces pieces world).Late := by
  induction pieces generalizing world with
  | nil =>
      obtain ⟨piece, hmem, -⟩ := hfull
      cases hmem
  | cons piece pieces ih =>
      unfold StreamWorld.readPieces
      dsimp only
      cases hempty : piece.isEmpty with
      | false =>
          have hlate := h.late hclosed hempty
          split
          · exact late_stable.closeStream (late_stable.rebase rfl rfl hlate)
          · exact late_stable.readPieces _ (late_stable.rebase rfl rfl hlate)
      | true =>
          have hnone : piece.length = 0 := by
            simpa [Data.isEmpty, Data.length] using hempty
          have hsame : (world.addIncomingData piece).base = world.base := by
            rw [addIncomingData_base, hnone, Nat.add_zero]
          have hlater : ∃ later ∈ pieces, later.isEmpty = false := by
            obtain ⟨later, hmem, hlater⟩ := hfull
            rcases List.mem_cons.mp hmem with rfl | hmem
            · simp [hempty] at hlater
            · exact ⟨later, hmem, hlater⟩
          have hbelow : world.base.exceedsContentLength = false :=
            hwithin.resolve_right fun hall => by
              simp [hall piece List.mem_cons_self] at hempty
          rw [if_neg (by simp [hsame, hbelow])]
          refine ih ((h.addIncomingData (.inr hempty)).rebase rfl) ?_
            (.inl ?_) hlater
          · simpa [hsame] using hclosed
          · simpa [hsame, QuicSpdyClientStream.exceedsContentLength] using hbelow

theorem onFinRead_base (world : StreamWorld) :
    world.onFinRead.base.readable = world.base.readable ∧
      world.onFinRead.base.contentLength = world.base.contentLength := by
  simp only [StreamWorld.onFinRead, StreamWorld.closeReadSide,
    StreamWorld.closeStream]
  split
  · exact ⟨rfl, rfl⟩
  · split
    · split <;> simp
    · exact ⟨rfl, rfl⟩

theorem readPieces_unlimited (hunlimited : world.base.contentLength = -1) :
    (StreamWorld.readPieces pieces world).base.readable = [] ∧
      (StreamWorld.readPieces pieces world).base.contentLength = -1 := by
  induction pieces generalizing world with
  | nil =>
      unfold StreamWorld.readPieces
      dsimp only
      split
      · obtain ⟨hread, hlimit⟩ := onFinRead_base { world with
          base := { world.base with readable := [] } }
        exact ⟨hread, hlimit.trans hunlimited⟩
      · exact ⟨rfl, hunlimited⟩
  | cons piece pieces ih =>
      have hunlimited' : (world.addIncomingData piece).base.contentLength =
          -1 := by
        rw [addIncomingData_base]
        exact hunlimited
      unfold StreamWorld.readPieces
      dsimp only
      rw [if_neg (by simp [QuicSpdyClientStream.exceedsContentLength,
        hunlimited'])]
      exact ih hunlimited'

theorem setUnblocked_unlimited (hunlimited : world.base.contentLength = -1) :
    world.setUnblocked.base.readable = [] ∧
      world.setUnblocked.base.contentLength = -1 := by
  unfold StreamWorld.setUnblocked
  dsimp only
  split
  · exact readPieces_unlimited hunlimited
  next hidle =>
    refine ⟨?_, hunlimited⟩
    have hboth := Bool.or_eq_false_iff.mp (Bool.eq_false_iff.mpr hidle)
    simpa using hboth.2

theorem OnTime.setUnblocked (h : world.OnTime)
    (hmay : world.base.closed = false ∨
      ∀ piece ∈ world.base.readable, piece.isEmpty = true) :
    world.setUnblocked.OnTime := by
  unfold StreamWorld.setUnblocked
  dsimp only
  split
  · exact OnTime.readPieces (h.rebase rfl) hmay
  · exact h.rebase rfl

theorem OnTime.setUnblocked_late (h : world.OnTime)
    (hclosed : world.base.closed = true)
    (hwithin : world.base.exceedsContentLength = false)
    (hfull : ∃ piece ∈ world.base.readable, piece.isEmpty = false) :
    world.setUnblocked.Late := by
  have hsome : world.base.readable.isEmpty = false := by
    obtain ⟨piece, hmem, -⟩ := hfull
    simpa using List.ne_nil_of_mem hmem
  unfold StreamWorld.setUnblocked
  dsimp only
  rw [if_pos (by simp [hsome])]
  exact OnTime.readPieces_late (h.rebase rfl) hclosed (.inl hwithin) hfull

end Reading

section Frames

variable {world : StreamWorld} {pieces : List Data}

/-! ## Frames -/

theorem OnTime.closeStreamAtOffset (h : world.OnTime)
    (hopen : world.base.closed = false) (offset : Nat) :
    (world.closeStreamAtOffset offset).OnTime := by
  unfold StreamWorld.closeStreamAtOffset
  split
  · exact onTime_closing.closeStream h
  · unfold StreamWorld.maybeCloseStream
    split
    · exact h.rebase rfl
    · have hset : OnTime { world with
          base := { world.base with closeOffset := some offset } } :=
        h.rebase rfl
      exact (hset.readPieces (.inl hopen)).rebase rfl

theorem OnTime.storePieces (h : world.OnTime)
    (hmay : world.base.closed = false ∨ world.base.blocked = true ∨
      ∀ piece ∈ world.base.readable ++ pieces, piece.isEmpty = true) :
    (world.storePieces pieces).OnTime := by
  unfold StreamWorld.storePieces
  split
  · exact h
  · dsimp only
    split
    · exact h.rebase rfl
    next hreads =>
      refine OnTime.readPieces (h.rebase rfl) ?_
      exact hmay.imp_right fun hidle => hidle.resolve_left hreads

theorem closeStream_base (hopen : world.base.closed = false) :
    world.closeStream.base = { world.base with
      closed := true, readSideClosed := true, writeSideClosed := true } := by
  rw [closeStream, if_neg (by simp [hopen]), perform_base]

theorem Live.scheduled_iff (h : world.Live)
    (hwritten : world.base.writeSideClosed = true) (offset : Nat) :
    (world.scheduleFin offset).base.sequencerIsClosed = true ↔
      Reaches (some offset) world.base.dataLength := by
  have hdone := sequencerIsClosed_iff (world.scheduleFin offset).base
  rw [(h.toOpen.scheduleFin hwritten offset).consumed] at hdone
  exact hdone

theorem Live.scheduleFin_closes (h : world.Live)
    (hwritten : world.base.writeSideClosed = true) {offset : Nat}
    (hflowing : world.base.blocked = false)
    (hreaches : Reaches (some offset) world.base.dataLength) :
    (world.scheduleFin offset).maybeCloseStream.base.blocked = false ∧
      (world.scheduleFin offset).maybeCloseStream.base.readable = [] ∧
      (world.scheduleFin offset).maybeCloseStream.base.closed = true := by
  have hsequencer := (h.scheduled_iff hwritten offset).mpr hreaches
  have hscheduled : (world.scheduleFin offset).base.blocked = false := hflowing
  have hnone : (world.scheduleFin offset).base.readable = [] :=
    (h.flowing hflowing).1
  have hreading : (world.scheduleFin offset).base.readSideClosed = false :=
    h.reading
  have hfinished : (world.scheduleFin offset).base.writeSideClosed = true :=
    hwritten
  have hnow : ({ (world.scheduleFin offset).base with
      readable := [] } : QuicSpdyClientStream).sequencerIsClosed = true :=
    hsequencer
  unfold StreamWorld.maybeCloseStream
  rw [if_neg (by simp [hscheduled, hsequencer])]
  dsimp only [onDataAvailable]
  rw [hnone, StreamWorld.readPieces]
  dsimp only
  rw [if_pos hnow, onFinRead, StreamWorld.closeReadSide]
  dsimp only
  rw [if_neg (by simp [hreading]), if_pos hfinished, closeStream_base]
  · exact ⟨hscheduled, rfl, rfl⟩
  · exact h.unclosed

theorem Live.scheduleFin_waits (h : world.Live)
    (hwritten : world.base.writeSideClosed = true) {offset : Nat}
    (hmore : ¬ (world.base.blocked = false ∧
      Reaches (some offset) world.base.dataLength)) :
    (world.scheduleFin offset).maybeCloseStream = world.scheduleFin offset := by
  have hscheduled : (world.scheduleFin offset).base.blocked =
      world.base.blocked := rfl
  rw [← h.scheduled_iff hwritten offset] at hmore
  unfold StreamWorld.maybeCloseStream
  refine if_pos ?_
  rw [hscheduled]
  revert hmore
  cases world.base.blocked <;> simp

theorem Live.finAt (h : world.Live)
    (hwritten : world.base.writeSideClosed = true) (offset : Nat) :
    ∃ next, closeStreamAtOffset { world with
        base := { world.base with finReceived := true } } offset = next ∧
      next.base.blocked = world.base.blocked ∧
      (world.base.blocked = false → next.base.readable = []) ∧
      (next.base.closed = true ↔
        Conflicts world.base.closeOffset (some offset) ∨
          world.base.blocked = false ∧
            Reaches (some offset) world.base.dataLength) := by
  refine ⟨_, rfl, ?_⟩
  have hread : world.base.blocked = false → world.base.readable = [] :=
    fun hflowing => (h.flowing hflowing).1
  rw [closeStreamAtOffset_eq]
  by_cases hconflicts : Conflicts world.base.closeOffset (some offset)
  · rw [if_pos hconflicts, StreamWorld.reset, closeStream_base]
    · exact ⟨rfl, hread, iff_of_true rfl (.inl hconflicts)⟩
    · exact h.unclosed
  · rw [if_neg hconflicts]
    change (world.scheduleFin offset).maybeCloseStream.base.blocked = _ ∧
      (_ → (world.scheduleFin offset).maybeCloseStream.base.readable = _) ∧
      ((world.scheduleFin offset).maybeCloseStream.base.closed = true ↔ _)
    by_cases hcloses : world.base.blocked = false ∧
        Reaches (some offset) world.base.dataLength
    · obtain ⟨hblocked, hnone, hclosed⟩ :=
        h.scheduleFin_closes hwritten hcloses.1 hcloses.2
      exact ⟨hblocked.trans hcloses.1.symm, fun _ => hnone,
        iff_of_true hclosed (.inr hcloses)⟩
    · have hopen : (world.scheduleFin offset).base.closed = false :=
        h.unclosed
      rw [h.scheduleFin_waits hwritten hcloses]
      refine ⟨rfl, hread, iff_of_false (by simp [hopen]) ?_⟩
      exact fun hor => hor.elim hconflicts hcloses

theorem Live.onStreamFrame_onTime (h : world.Live) (htime : world.OnTime)
    (framer : SpdyFramer) {frame : StreamFrame}
    (hfull : ∀ piece ∈ frame.readable, piece.isEmpty = false) :
    (¬ world.ReadsOn framer (.streamFrame frame) →
      (world.onStreamFrame frame).OnTime) ∧
    (world.ReadsOn framer (.streamFrame frame) →
      (world.onStreamFrame frame).Late) := by
  obtain ⟨readable, fin⟩ := frame
  have hreading : ¬ world.base.readSideClosed = true := by simp [h.reading]
  unfold StreamWorld.onStreamFrame
  rw [h.toOpen.closeWriteSide_eq]
  cases fin with
  | none =>
      dsimp only [Option.isSome_none]
      rw [if_neg Bool.false_ne_true, if_neg hreading]
      constructor
      · intro _
        exact OnTime.takeFrame
          (OnTime.storePieces (htime.rebase rfl) (.inl h.unclosed))
      · rintro ⟨-, ⟨_, _, -, hnone, -⟩ | ⟨_, hnone, -⟩, -⟩ <;> cases hnone
  | some offset =>
      dsimp only [Option.isSome_some]
      rw [if_pos rfl, if_neg hreading, sequencerOnStreamFrame_eq]
      dsimp only
      obtain ⟨next, hnext, hblocked, hread, hcloses⟩ := h.written.finAt rfl offset
      have hwritten : OnTime { world with
          base := { world.base with
            writeSideClosed := true, finReceived := true } } :=
        htime.rebase rfl
      have htimely : next.OnTime := by
        rw [← hnext]
        exact hwritten.closeStreamAtOffset h.unclosed offset
      dsimp only at hnext hblocked hread hcloses
      rw [hnext]
      constructor
      · intro hnot
        refine OnTime.takeFrame (htimely.storePieces ?_)
        by_contra hmay
        obtain ⟨hclosed, hflowing, hsome⟩ : next.base.closed = true ∧
            world.base.blocked = false ∧
            ∃ piece ∈ next.base.readable ++ readable,
              piece.isEmpty = false := by
          simpa [hblocked] using hmay
        rw [hread hflowing, List.nil_append] at hsome
        refine hnot ⟨hflowing, ?_, hsome⟩
        exact (hcloses.mp hclosed).imp_right And.right
      · rintro ⟨hflowing, hat, hsome⟩
        have hclosed : next.base.closed = true :=
          hcloses.mpr (hat.imp_right fun hreaches => ⟨hflowing, hreaches⟩)
        have hpieces : readable.isEmpty = false := by
          obtain ⟨piece, hmem, -⟩ := hsome
          simpa using List.ne_nil_of_mem hmem
        refine late_stable.takeFrame ?_
        unfold StreamWorld.storePieces
        rw [if_neg (by simp [hpieces])]
        dsimp only [onDataAvailable]
        rw [if_neg (by simp [hblocked, hflowing]), hread hflowing,
          List.nil_append]
        exact OnTime.readPieces_late (htimely.rebase rfl) hclosed (.inr hfull)
          hsome

end Frames

section Headers

variable {world : StreamWorld} (framer : SpdyFramer)

/-! ## Headers -/

theorem OnTime.parseResponse (h : world.OnTime) (block : Data)
    (hunlimited : world.base.contentLength = -1)
    (hmay : world.base.closed = false ∨
      (∀ piece ∈ world.base.readable, piece.isEmpty = true) ∨
      acceptedLength framer block = none) :
    (world.parseResponse framer block).OnTime := by
  obtain ⟨length, code, headers, ⟨-, hnext⟩ | ⟨haccepted, hnext⟩⟩ :=
    parseResponse_eq framer block hunlimited
  · rw [hnext]
    exact onTime_closing.closeStream (h.rebase rfl)
  · have hresponds : (world.respond length code headers).OnTime := h.rebase rfl
    rw [hnext]
    refine hresponds.setUnblocked ?_
    rcases hmay with hopen | hidle | hrefused
    · exact .inl hopen
    · exact .inr hidle
    · simp [haccepted] at hrefused

theorem OnTime.handleHeaders (h : world.OnTime) (block : Data)
    (hunlimited : world.base.contentLength = -1)
    (hmay : world.base.closed = false ∨
      (∀ piece ∈ world.base.readable, piece.isEmpty = true) ∨
      block.isEmpty = false ∧ acceptedLength framer block = none) :
    (StreamWorld.handleHeaders framer world block).OnTime := by
  unfold StreamWorld.handleHeaders
  dsimp only
  refine OnTime.deliver ?_ _ _
  split
  next hempty =>
    obtain ⟨hread, hunlimited'⟩ := setUnblocked_unlimited hunlimited
    refine OnTime.parseResponse framer (h.setUnblocked ?_) block hunlimited'
      (.inr (.inl (by simp [hread])))
    refine hmay.imp_right fun hmay => hmay.resolve_right ?_
    simp [hempty]
  next =>
    exact h.parseResponse framer block hunlimited
      (hmay.imp_right (Or.imp_right And.right))

theorem OnTime.handleHeaders_late (h : world.OnTime) (block : Data)
    (hunlimited : world.base.contentLength = -1)
    (hzero : world.base.dataLength = 0) (hclosed : world.base.closed = true)
    (hreads : block.isEmpty = true ∨
      (acceptedLength framer block).isSome = true)
    (hfull : ∃ piece ∈ world.base.readable, piece.isEmpty = false) :
    (StreamWorld.handleHeaders framer world block).Late := by
  have hwithin : ∀ length code headers,
      (world.respond length code headers).base.exceedsContentLength = false := by
    intro length code headers
    simp [QuicSpdyClientStream.exceedsContentLength, respond, hzero]
  have hworking : ∀ {world : StreamWorld}, world.Late → ∀ code headers,
      (world.perform
        (world.stream.onInitialHeadersComplete code headers)).Late := by
    intro world hlate code headers
    refine hlate.perform ?_
    rw [QUICDataStream.onInitialHeadersComplete,
      if_neg (by simp [hlate.working])]
    exact hlate.working
  unfold StreamWorld.handleHeaders
  dsimp only
  refine hworking ?_ _ _
  split
  next hempty =>
    refine late_stable.parseResponse framer block ?_
    refine h.setUnblocked_late hclosed ?_ hfull
    simp [QuicSpdyClientStream.exceedsContentLength, hunlimited]
  next hblock =>
    have haccepted := hreads.resolve_left hblock
    obtain ⟨length, code, headers, ⟨hrefused, -⟩ | ⟨-, hnext⟩⟩ :=
      parseResponse_eq framer block hunlimited
    · simp [hrefused] at haccepted
    · have hresponds : (world.respond length code headers).OnTime :=
        h.rebase rfl
      rw [hnext]
      exact hresponds.setUnblocked_late hclosed (hwithin length code headers)
        hfull

theorem Live.finWithHeaders (h : world.Live) (htime : world.OnTime)
    (hblocked : world.base.blocked = true) (fin : Bool) :
    ∃ next, (if fin then StreamWorld.onStreamFrame { world with
        base := { world.base with headersDecompressed := true } } ⟨[], some 0⟩
      else { world with
        base := { world.base with headersDecompressed := true } }) = next ∧
      next.OnTime ∧ next.base.readable = world.base.readable ∧
      next.base.contentLength = world.base.contentLength ∧
      next.base.dataLength = world.base.dataLength ∧
      (next.base.closed = true ↔
        Conflicts world.base.closeOffset (headersFin fin)) := by
  refine ⟨_, rfl, ?_⟩
  have hopen := h.unclosed
  have hheaded : Open { world with
      base := { world.base with headersDecompressed := true } }
      world.base.readable := { h.toOpen with }
  cases fin with
  | false =>
      refine ⟨htime.rebase rfl, rfl, rfl, rfl, ?_⟩
      refine iff_of_false (by simp [hopen]) ?_
      rintro ⟨_, _, -, hnone, -⟩
      simp [StreamWorld.headersFin] at hnone
  | true =>
      have hreading : ¬ world.base.readSideClosed = true := by
        simp [h.reading]
      have hfin : OnTime { world with
          base := { world.base with
            headersDecompressed := true, writeSideClosed := true
            finReceived := true } } := htime.rebase rfl
      have htimely := (hfin.closeStreamAtOffset hopen 0).takeFrame
      rw [if_pos rfl]
      unfold StreamWorld.onStreamFrame StreamWorld.headersFin
      rw [hheaded.closeWriteSide_eq]
      dsimp only [Option.isSome_some]
      rw [if_pos rfl, if_pos rfl, if_neg hreading]
      refine ⟨htimely, ?_⟩
      rw [sequencerOnStreamFrame_eq]
      dsimp only
      rw [closeStreamAtOffset_eq]
      by_cases hconflicts : Conflicts world.base.closeOffset (some 0)
      · rw [if_pos hconflicts]
        dsimp only [StreamWorld.storePieces, List.isEmpty_nil]
        rw [if_pos rfl, StreamWorld.reset, closeStream_base]
        · exact ⟨rfl, rfl, rfl, iff_of_true rfl hconflicts⟩
        · exact hopen
      · rw [if_neg hconflicts]
        unfold StreamWorld.maybeCloseStream
        rw [if_pos (by simp [hblocked])]
        exact ⟨rfl, rfl, rfl, iff_of_false (by simp [StreamWorld.storePieces,
          hopen]) hconflicts⟩

theorem Live.onInitialHeadersComplete_onTime (h : world.Live)
    (htime : world.OnTime) (hfirst : world.base.headersDecompressed = false)
    (block : Data) (fin : Bool) :
    (¬ world.ReadsOn framer (.headersComplete block fin) →
      (world.onInitialHeadersComplete framer block fin).OnTime) ∧
    (world.ReadsOn framer (.headersComplete block fin) →
      (world.onInitialHeadersComplete framer block fin).Late) := by
  have hblocked : world.base.blocked = true := by
    simpa [hfirst] using h.headers
  obtain ⟨hzero, -, hunlimited⟩ := h.waiting hblocked
  obtain ⟨next, hnext, htimely, hreadable, hlimit, hlength, hcloses⟩ :=
    h.finWithHeaders htime hblocked fin
  have hrest : world.onInitialHeadersComplete framer block fin =
      StreamWorld.handleHeaders framer next block := by
    rw [← hnext]
    rfl
  rw [hrest]
  constructor
  · intro hnot
    refine htimely.handleHeaders framer block (hlimit.trans hunlimited) ?_
    rw [hreadable]
    by_contra hmay
    obtain ⟨hclosed, hfull, hreads⟩ : next.base.closed = true ∧
        (∃ piece ∈ world.base.readable, piece.isEmpty = false) ∧
        (block.isEmpty = false → acceptedLength framer block ≠ none) := by
      simpa using hmay
    refine hnot ⟨hfirst, hcloses.mp hclosed, ?_, hfull⟩
    cases hempty : block.isEmpty with
    | true => exact .inl rfl
    | false => exact .inr (Option.isSome_iff_ne_none.mpr (hreads hempty))
  · rintro ⟨-, hconflicts, hreads, hfull⟩
    exact htimely.handleHeaders_late framer block (hlimit.trans hunlimited)
      (hlength.trans hzero) (hcloses.mpr hconflicts) hreads
      (by rw [hreadable]; exact hfull)

theorem Live.onTrailingHeadersComplete_onTime (h : world.Live)
    (htime : world.OnTime) (block : Data) (fin : Bool) :
    (world.onTrailingHeadersComplete framer block fin).OnTime := by
  have hshut := onTime_closing.connectionClosed htime
  have htrailers : OnTime { world with
      base := { world.base with trailersDecompressed := true } } :=
    htime.rebase rfl
  have hlive : Live { world with
      base := { world.base with trailersDecompressed := true } } := { h with }
  unfold StreamWorld.onTrailingHeadersComplete
  dsimp only
  by_cases hlate : (world.base.finReceived || !fin) = true
  · have hfinished := h.connectionClosed
    rw [if_pos hlate]
    split
    · exact onTime_closing.closeStream hshut
    · unfold StreamWorld.onStreamFrame StreamWorld.closeWriteSide
      dsimp only [Option.isSome_some]
      rw [if_pos hfinished.writeSideClosed, if_pos rfl,
        if_pos hfinished.readSideClosed]
      exact OnTime.takeFrame (hshut.rebase rfl)
  · rw [if_neg hlate]
    split
    · exact onTime_closing.closeStream htrailers
    next offset _ =>
      refine (hlive.onStreamFrame_onTime htrailers framer ?_).1 ?_
      · intro piece hmem
        cases hmem
      · rintro ⟨-, -, piece, hmem, -⟩
        cases hmem

end Headers

section Runs

variable {framer : SpdyFramer} {world : StreamWorld} {event : StreamEvent}

/-! ## Runs -/

theorem Live.react_onTime (h : world.Live) (htime : world.OnTime)
    (hadmitted : world.Admitted event) (hnot : ¬ world.ReadsOn framer event) :
    (world.react framer event).OnTime ∨
      (world.react framer event).stream.mFailed = true := by
  cases event with
  | headersComplete block fin =>
      left
      unfold StreamWorld.react StreamWorld.onStreamHeadersComplete
      dsimp only
      split
      · exact h.onTrailingHeadersComplete_onTime framer htime block fin
      next hfirst =>
        exact (h.onInitialHeadersComplete_onTime framer htime
          (by simpa using hfirst) block fin).1 hnot
  | streamFrame frame =>
      exact .inl ((h.onStreamFrame_onTime htime framer hadmitted.2).1 hnot)
  | streamReset noError version =>
      exact .inl (onTime_closing.onStreamReset noError version htime)
  | connectionClosed => exact .inl (onTime_closing.connectionClosed htime)
  | requestWritten => exact .inl (onTime_closing.closeWriteSide htime)
  | update aNowMS =>
      unfold StreamWorld.react
      dsimp only
      rcases world.stream.update_cases aNowMS with hsame | hstarted | hfailed
      · rw [hsame, perform_nil]
        exact .inl htime
      · rw [hstarted, perform_nil]
        refine .inl ?_
        cases htime with
        | running hopen hdelivering =>
            exact .running hopen { hdelivering with }
        | ended hclosed hdelivered =>
            exact .ended hclosed { hdelivered with }
      · rw [hfailed]
        exact .inr (by simp [QUICDataStream.fail])
  | onSocketError aError =>
      right
      unfold StreamWorld.react
      rw [perform_stream, QUICDataStream.onSocketError,
        if_neg (by simp [h.working])]
      rfl

theorem Live.react_late (h : world.Live) (htime : world.OnTime)
    (hadmitted : world.Admitted event) (hreads : world.ReadsOn framer event) :
    (world.react framer event).Late := by
  cases event with
  | headersComplete block fin =>
      unfold StreamWorld.react StreamWorld.onStreamHeadersComplete
      dsimp only
      rw [if_neg (by simp [hreads.1])]
      exact (h.onInitialHeadersComplete_onTime framer htime hreads.1 block
        fin).2 hreads
  | streamFrame frame =>
      exact (h.onStreamFrame_onTime htime framer hadmitted.2).2 hreads
  | _ => exact hreads.elim

theorem Late.not_delivers (h : world.Late) : ¬ world.DeliversBody :=
  fun hdelivers => (hdelivers h.closed h.working).not_late h.passed

structure Dropped (world : StreamWorld) : Prop where
  unmapped : world.mapped = false
  failed : world.stream.mFailed = true

theorem Dropped.perform (h : world.Dropped)
    {next : QUICDataStream × List StreamCall}
    (hfailed : next.1.mFailed = true) : (world.perform next).Dropped := by
  rw [perform_unmapped h.unmapped]
  exact ⟨h.unmapped, hfailed⟩

theorem dropped_stable : Stable Dropped where
  rebase _ _ h := { h with }
  close := by
    intro world base _ _ _ h
    have hbased : Dropped { world with base } := { h with }
    exact hbased.perform (by simp [QUICDataStream.onVisitorSentClose, h.failed])
  addIncomingData := by
    intro world aData h
    have hfailed :
        (world.stream.should_add_incoming_data aData).1.mFailed = true := by
      unfold QUICDataStream.should_add_incoming_data
      split
      · exact h.failed
      · split <;> exact h.failed
    exact { h.perform hfailed with }
  takeFrame h := ⟨h.unmapped, by simp [QUICDataStream.onStreamFrame, h.failed]⟩

theorem Dropped.react (h : world.Dropped) :
    (world.react framer event).Dropped := by
  refine dropped_stable.react framer (fun block fin _ => ?_)
    (fun _ => h.perform ?_) (fun _ => h.perform ?_) event h
  · refine dropped_stable.onInitialHeadersComplete framer
      (fun _ _ h => h.perform ?_) block fin { h with }
    simp [QUICDataStream.onInitialHeadersComplete, h.failed]
  · simp [QUICDataStream.update, h.failed]
  · simp [QUICDataStream.onSocketError, h.failed]

inductive Timely (world : StreamWorld) : Prop
  | live : world.Live → world.OnTime → Timely world
  | dropped : world.Dropped → Timely world
  | finished (read : Nat) (fin : Option Nat) : world.Finished read fin →
      world.OnTime → Timely world

theorem Timely.delivers (h : world.Timely) : world.DeliversBody := by
  intro hclosed hworking
  cases h with
  | live hlive _ => simp [hlive.unclosed] at hclosed
  | dropped hdropped => simp [hdropped.failed] at hworking
  | finished read fin _ htime => exact (htime.delivered hclosed).passed

theorem Timely.react (h : world.Timely) (hadmitted : world.Admitted event)
    (hintime : world.ReadsInTime framer event) :
    (world.react framer event).Timely := by
  cases h with
  | live hlive htime =>
      have hnext := hlive.react_onTime htime hadmitted (hintime hlive.mapped)
      cases hlive.react framer event with
      | live hafter _ =>
          refine .live hafter (hnext.resolve_right ?_)
          simp [hafter.working]
      | failed hafter hfailed _ => exact .dropped ⟨hafter.unmapped, hfailed⟩
      | finished read fin hafter _ =>
          rcases hnext with htimely | hfailed
          · exact .finished read fin hafter htimely
          · exact .dropped ⟨hafter.unmapped, hfailed⟩
  | dropped hdropped => exact .dropped hdropped.react
  | finished read fin hfinished htime =>
      refine .finished read fin (hfinished.react hadmitted) ?_
      have hclosed := hfinished.closed
      have hunmapped := hfinished.unmapped
      cases event with
      | connectionClosed => exact onTime_closing.connectionClosed htime
      | requestWritten => exact onTime_closing.closeWriteSide htime
      | _ => simp [Admitted, hclosed, hunmapped] at hadmitted

theorem Timely.late (h : world.Timely) (hadmitted : world.Admitted event)
    (hlate : ¬ world.ReadsInTime framer event) :
    ¬ (world.react framer event).DeliversBody := by
  obtain ⟨hmapped, hreads⟩ : world.mapped = true ∧
      world.ReadsOn framer event := by
    simpa [ReadsInTime] using hlate
  cases h with
  | live hlive htime =>
      exact (hlive.react_late htime hadmitted hreads).not_delivers
  | dropped hdropped => simp [hdropped.unmapped] at hmapped
  | finished read fin hfinished _ => simp [hfinished.unmapped] at hmapped

end Runs

end StreamWorld

theorem deliversBody_iff_readsInTime (framer : SpdyFramer)
    {trail : List (StreamWorld × StreamEvent)} {world : StreamWorld}
    (path : (StreamWorld.system framer).Path StreamWorld.Admitted trail
      world) :
    EventSystem.Throughout StreamWorld.DeliversBody trail world ↔
      EventSystem.Obeys (StreamWorld.ReadsInTime framer) trail := by
  apply path.throughout_iff_obeys StreamWorld.Timely
  · rintro _ ⟨requestWritten, rfl⟩
    exact .live (StreamWorld.start_live requestWritten)
      (.running rfl QUICDataStream.delivering_nil)
  · intro before event after htimely hadmitted hintime hstep
    obtain rfl : before.react framer event = after := by
      simpa [StreamWorld.system] using hstep
    exact htimely.react hadmitted hintime
  · intro before event after htimely hadmitted hlate hstep
    obtain rfl : before.react framer event = after := by
      simpa [StreamWorld.system] using hstep
    exact htimely.late hadmitted hlate
  · intro before htimely
    exact htimely.delivers

section Bodies

def aroundHeaders : List StreamEvent :=
  [.streamFrame ⟨[⟨[104, 105]⟩], none⟩, .headersComplete ⟨[1]⟩ false,
    .streamFrame ⟨[⟨[33]⟩], some 3⟩]

theorem deliversBody_iff_readsInTime_aroundHeaders :
    ∃ trail world, (StreamWorld.system plainFramer).Path StreamWorld.Admitted
        trail world ∧
      trail.map Prod.snd = aroundHeaders ∧
      EventSystem.Throughout StreamWorld.DeliversBody trail world ∧
      world.base.closed = true ∧
      dataOf world.calls = [⟨[104, 105]⟩, ⟨[33]⟩] := by
  obtain ⟨trail, world, path, hintime, hevents, hlast⟩ :=
    EventSystem.exists_run (StreamWorld.system plainFramer)
      StreamWorld.Admitted (StreamWorld.ReadsInTime plainFramer)
      (s := StreamWorld.start true) aroundHeaders
      (fun world => world.base.closed &&
        decide (dataOf world.calls = [⟨[104, 105]⟩, ⟨[33]⟩]))
      ⟨true, rfl⟩ (by decide)
  obtain ⟨hclosed, hdata⟩ := Bool.and_eq_true_iff.mp hlast
  exact ⟨trail, world, path, hevents,
    (deliversBody_iff_readsInTime plainFramer path).mpr hintime, hclosed,
    of_decide_eq_true hdata⟩

def bodyThenHeadersFin : List StreamEvent :=
  [.streamFrame ⟨[⟨[1, 2, 3, 4, 5]⟩], some 5⟩, .headersComplete ⟨[1]⟩ true]

theorem headersFin_delivers_late :
    ∃ world, (StreamWorld.system plainFramer).Reachable StreamWorld.Admitted
        world ∧
      world.calls = [.onQUICStreamReceivedResponse 0 [],
        .onQUICStreamCompleted,
        .onQUICStreamReceivedData ⟨[1, 2, 3, 4, 5]⟩,
        .onQUICStreamReceivedResponse 200 [(":status", "200")]] ∧
      ¬ world.DeliversBody := by
  obtain ⟨world, hreplay, hclosed, hworking, hcalls⟩ :
      ∃ world, (StreamWorld.system plainFramer).replay StreamWorld.Admitted
          (StreamWorld.start true) bodyThenHeadersFin = some world ∧
        world.base.closed = true ∧ world.stream.mFailed = false ∧
        world.calls = [.onQUICStreamReceivedResponse 0 [],
          .onQUICStreamCompleted,
          .onQUICStreamReceivedData ⟨[1, 2, 3, 4, 5]⟩,
          .onQUICStreamReceivedResponse 200 [(":status", "200")]] :=
    ⟨_, rfl, rfl, rfl, by decide⟩
  refine ⟨world, .replay bodyThenHeadersFin (.start ⟨true, rfl⟩) hreplay,
    hcalls, ?_⟩
  intro hdelivers
  refine (hdelivers hclosed hworking).not_late
    ⟨[.onQUICStreamReceivedResponse 0 []], _, hcalls, ?_⟩
  decide

end Bodies

end RevSDK
