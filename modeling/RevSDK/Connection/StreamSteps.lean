import RevSDK.Connection.StreamRuns

/-!
# Steps inside one event of a stream

`Mapped` and `Open` describe a stream of the session's map in the middle of an
event, with the pieces it has still to read; `Finished` describes one whose
close was reported as `quicSessionDidFinish`, with the number of bytes
delivered and the offset of the peer's FIN.  Every operation takes the first to
one of the two, and none leads out of the second.
-/

namespace RevSDK

namespace StreamWorld

structure Mapped (world : StreamWorld) (pieces : List Data) : Prop where
  unclosed : world.base.closed = false
  mapped : world.mapped = true
  working : world.stream.mFailed = false
  pending : .quicSessionDidFinish ∉ world.log ∧ .quicSessionDidFail ∉ world.log
  taken : world.base.dataLength = (deliveredBytes world.log ++
    world.stream.mCacheList.flatMap Data.bytes).length
  body : world.arrived = deliveredBytes world.log ++
    world.stream.mCacheList.flatMap Data.bytes ++ pieces.flatMap Data.bytes

structure Open (world : StreamWorld) (pieces : List Data) : Prop
    extends world.Mapped pieces where
  reading : world.base.readSideClosed = false
  scheduled : world.base.closeOffset ≠ none →
    world.base.writeSideClosed = true
  consumed : world.base.bytesConsumed = world.base.dataLength

structure Finished (world : StreamWorld) (read : Nat) (fin : Option Nat) :
    Prop where
  closed : world.base.closed = true
  readSideClosed : world.base.readSideClosed = true
  writeSideClosed : world.base.writeSideClosed = true
  unmapped : world.mapped = false
  told : .quicSessionDidFinish ∈ world.log
  fin_eq : world.base.closeOffset = fin
  length : (deliveredBytes world.log).length = read
  inOrder : deliveredBytes world.log <+: world.arrived

def Reaches (fin : Option Nat) (read : Nat) : Prop :=
  ∃ offset, fin = some offset ∧ offset ≤ read

instance (fin : Option Nat) (read : Nat) : Decidable (Reaches fin read) :=
  match fin with
  | none => isFalse (by simp [Reaches])
  | some offset => decidable_of_iff (offset ≤ read) (by simp [Reaches])

section Steps

variable {world : StreamWorld} {pieces : List Data} {read : Nat}
  {fin : Option Nat}

theorem sequencerIsClosed_iff (base : QuicSpdyClientStream) :
    base.sequencerIsClosed = true ↔
      Reaches base.closeOffset base.bytesConsumed := by
  unfold QuicSpdyClientStream.sequencerIsClosed Reaches
  cases base.closeOffset <;> simp

/-! ## After the close -/

theorem Finished.reset (h : world.Finished read fin) :
    world.reset.Finished read fin := by
  rw [StreamWorld.reset, closeStream, if_pos h.closed]
  exact h

theorem Finished.closeReadSide (h : world.Finished read fin) :
    world.closeReadSide.Finished read fin := by
  rw [StreamWorld.closeReadSide, if_pos h.readSideClosed]
  exact h

theorem Finished.closeWriteSide (h : world.Finished read fin) :
    world.closeWriteSide.Finished read fin := by
  rw [StreamWorld.closeWriteSide, if_pos h.writeSideClosed]
  exact h

theorem Finished.onFinRead (h : world.Finished read fin) :
    world.onFinRead.Finished read fin :=
  Finished.closeReadSide { h with }

theorem Finished.addIncomingData (h : world.Finished read fin)
    (aData : Data) : (world.addIncomingData aData).Finished read fin := by
  simp only [StreamWorld.addIncomingData, perform_unmapped h.unmapped]
  exact { h with }

theorem Finished.readPieces (h : world.Finished read fin)
    (pieces : List Data) :
    (readPieces pieces world).Finished read fin := by
  induction pieces generalizing world with
  | nil =>
      have hempty : Finished { world with
          base := { world.base with readable := [] } } read fin := { h with }
      unfold StreamWorld.readPieces
      dsimp only
      split
      · exact hempty.onFinRead
      · exact { hempty with }
  | cons piece pieces ih =>
      have hadded := h.addIncomingData piece
      unfold StreamWorld.readPieces
      dsimp only
      split
      · exact Finished.reset { hadded with }
      · exact ih { hadded with }

theorem Finished.setUnblocked (h : world.Finished read fin) :
    world.setUnblocked.Finished read fin := by
  have hunblocked : Finished { world with
      base := { world.base with blocked := false } } read fin := { h with }
  unfold StreamWorld.setUnblocked
  dsimp only
  split
  · exact hunblocked.readPieces _
  · exact hunblocked

theorem Finished.parseResponse (h : world.Finished read fin)
    (framer : SpdyFramer) (block : Data) :
    (world.parseResponse framer block).Finished read fin := by
  unfold StreamWorld.parseResponse
  dsimp only
  split
  · exact Finished.reset { h with }
  · split
    · exact Finished.reset { h with }
    · split
      · exact Finished.setUnblocked { h with }
      · exact Finished.reset { h with }

theorem Finished.onStreamFrame (h : world.Finished read fin)
    (frame : StreamFrame) :
    (world.onStreamFrame frame).Finished read fin := by
  have hwritten := h.closeWriteSide
  unfold StreamWorld.onStreamFrame
  dsimp only
  split
  · rw [if_pos hwritten.readSideClosed]
    exact { hwritten with }
  · rw [if_pos hwritten.readSideClosed]
    exact { hwritten with }

/-! ## The close -/

theorem perform_close (hmapped : world.mapped = true)
    (hworking : world.stream.mFailed = false) (code : Int)
    (headers : SpdyHeaderBlock) :
    ∃ response, deliveredBytes response = [] ∧
      world.perform (world.stream.onVisitorSentClose code headers) =
        { world with
          stream := { world.stream with
            mHeadersDelivered := true, mCacheList := [], mInitialMS := 0 }
          mapped := false
          log := world.log ++ response ++
            world.stream.mCacheList.map .quicSessionDidReceiveData ++
              [.quicSessionDidFinish]
          calls := world.calls ++
            (world.stream.onVisitorSentClose code headers).2 } := by
  rw [QUICDataStream.onVisitorSentClose_eq hworking]
  cases hdelivered : world.stream.mHeadersDelivered with
  | true =>
      refine ⟨[], rfl, ?_⟩
      simp only [perform, if_true, List.nil_append, List.foldl_append]
      rw [foldl_dispatch_data (by exact hmapped)]
      simp [dispatch, hmapped]
  | false =>
      refine ⟨[.quicSessionDidReceiveResponse headers code], rfl, ?_⟩
      simp only [perform, Bool.false_eq_true, if_false, List.foldl_append,
        List.foldl_cons, List.foldl_nil]
      rw [foldl_dispatch_data (by simp [dispatch, hmapped])]
      simp [dispatch, hmapped]

theorem Mapped.reset (h : world.Mapped pieces) :
    world.reset.Finished world.base.dataLength world.base.closeOffset := by
  rw [StreamWorld.reset, closeStream, if_neg (by simp [h.unclosed])]
  obtain ⟨response, hresponse, hperform⟩ := @perform_close
    { world with
      base := { world.base with
        closed := true, readSideClosed := true, writeSideClosed := true } }
    h.mapped h.working world.base.responseCode world.base.responseHeaders
  dsimp only at hperform ⊢
  rw [hperform]
  have hdelivered : deliveredBytes (world.log ++ response ++
      world.stream.mCacheList.map .quicSessionDidReceiveData ++
        [.quicSessionDidFinish]) =
      deliveredBytes world.log ++
        world.stream.mCacheList.flatMap Data.bytes := by
    simp [hresponse]
    rfl
  exact
    { closed := rfl
      readSideClosed := rfl
      writeSideClosed := rfl
      unmapped := rfl
      told := by simp
      fin_eq := rfl
      length := by rw [hdelivered, h.taken]
      inOrder := by
        rw [hdelivered, h.body]
        exact List.prefix_append _ _ }

theorem Open.closeReadSide (h : world.Open pieces)
    (hwritten : world.base.writeSideClosed = true) :
    world.closeReadSide.Finished world.base.dataLength
      world.base.closeOffset := by
  rw [StreamWorld.closeReadSide, if_neg (by simp [h.reading])]
  dsimp only
  rw [if_pos hwritten]
  exact @Mapped.reset { world with
    base := { world.base with readSideClosed := true } } pieces
    { h.toMapped with }

/-! ## Reading -/

theorem addIncomingData_base (world : StreamWorld) (piece : Data) :
    (world.addIncomingData piece).base = { world.base with
      dataLength := world.base.dataLength + piece.length } := by
  simp [StreamWorld.addIncomingData]

theorem addIncomingData_mHeadersDelivered (world : StreamWorld)
    (piece : Data) :
    (world.addIncomingData piece).stream.mHeadersDelivered =
      world.stream.mHeadersDelivered := by
  simp only [StreamWorld.addIncomingData, perform_stream,
    QUICDataStream.should_add_incoming_data]
  split
  · rfl
  · split <;> rfl

theorem perform_data (hmapped : world.mapped = true)
    (stream : QUICDataStream) (pieces : List Data) :
    world.perform (stream, pieces.map .onQUICStreamReceivedData) =
      { world with
        stream := stream
        log := world.log ++ pieces.map .quicSessionDidReceiveData
        calls := world.calls ++ pieces.map .onQUICStreamReceivedData } :=
  @foldl_dispatch_data { world with
    stream := stream
    calls := world.calls ++ pieces.map .onQUICStreamReceivedData } hmapped pieces

theorem Mapped.addIncomingData {piece : Data}
    (h : world.Mapped (piece :: pieces)) :
    (world.addIncomingData piece).Mapped pieces := by
  have hcalls : ∃ (stream : QUICDataStream) (told : List Data),
      world.stream.should_add_incoming_data piece =
        (stream, told.map .onQUICStreamReceivedData) ∧
      stream.mFailed = false ∧
      told.flatMap Data.bytes ++ stream.mCacheList.flatMap Data.bytes =
        world.stream.mCacheList.flatMap Data.bytes ++ piece.bytes := by
    have hworking := h.working
    unfold QUICDataStream.should_add_incoming_data
    cases hempty : piece.isEmpty with
    | true =>
        have hbytes : piece.bytes = [] := by simpa [Data.isEmpty] using hempty
        split
        · exact ⟨{ world.stream with mCacheList := [] },
            world.stream.mCacheList, by simp, hworking, by simp [hbytes]⟩
        · exact ⟨_, [], rfl, hworking, by simp [hbytes]⟩
    | false =>
        split
        · exact ⟨{ world.stream with mCacheList := [] },
            world.stream.mCacheList ++ [piece], by simp, hworking, by simp⟩
        · exact ⟨_, [], rfl, hworking, by simp⟩
  obtain ⟨stream, told, hstream, hworking, hbytes⟩ := hcalls
  have hadded : world.addIncomingData piece = { world with
      stream := stream
      log := world.log ++ told.map .quicSessionDidReceiveData
      base := { world.base with
        dataLength := world.base.dataLength + piece.length }
      chunks := world.chunks ++ [piece]
      calls := world.calls ++ told.map .onQUICStreamReceivedData } := by
    simp only [StreamWorld.addIncomingData, hstream, perform_data h.mapped]
  have hdelivered : deliveredBytes (world.log ++
      told.map .quicSessionDidReceiveData) ++
        stream.mCacheList.flatMap Data.bytes =
      deliveredBytes world.log ++
        world.stream.mCacheList.flatMap Data.bytes ++ piece.bytes := by
    rw [deliveredBytes_append, deliveredBytes_data, List.append_assoc, hbytes,
      List.append_assoc]
  rw [hadded]
  refine ⟨h.unclosed, h.mapped, hworking, ?_, ?_, ?_⟩
  · simpa using h.pending
  · rw [hdelivered, List.length_append, ← h.taken]
    rfl
  · rw [hdelivered, h.body]
    simp

def readingOf (contentLength : Int) : Nat → List Data → Nat × Bool
  | read, [] => (read, false)
  | read, piece :: rest =>
      let next := read + piece.length
      if 0 ≤ contentLength ∧ contentLength < Int.bmod next (2 ^ 32) then
        (next, true)
      else readingOf contentLength next rest

def consumePiece (world : StreamWorld) (piece : Data) : StreamWorld :=
  let world := world.addIncomingData piece
  { world with
    base := { world.base with
      bytesConsumed := world.base.bytesConsumed + piece.length } }

theorem Open.consumePiece {piece : Data}
    (h : world.Open (piece :: pieces)) :
    (world.consumePiece piece).Open pieces where
  toMapped := { h.toMapped.addIncomingData with }
  reading := by
    rw [StreamWorld.consumePiece, addIncomingData_base]
    exact h.reading
  scheduled := by
    rw [StreamWorld.consumePiece, addIncomingData_base]
    exact h.scheduled
  consumed := by
    rw [StreamWorld.consumePiece, addIncomingData_base]
    exact congrArg (· + piece.length) h.consumed

theorem consumePiece_base (world : StreamWorld) (piece : Data) :
    (world.consumePiece piece).base = { world.base with
      dataLength := world.base.dataLength + piece.length
      bytesConsumed := world.base.bytesConsumed + piece.length } := by
  rw [StreamWorld.consumePiece, addIncomingData_base]

theorem exceedsContentLength_iff (world : StreamWorld) (piece : Data) :
    (world.addIncomingData piece).base.exceedsContentLength = true ↔
      0 ≤ world.base.contentLength ∧ world.base.contentLength <
        Int.bmod ((world.base.dataLength + piece.length : Nat) : Int)
          (2 ^ 32) := by
  rw [addIncomingData_base]
  simp [QuicSpdyClientStream.exceedsContentLength]

theorem Open.readPieces_overrun (h : world.Open pieces)
    (hread : readingOf world.base.contentLength world.base.dataLength pieces =
      (read, true)) :
    (readPieces pieces world).Finished read world.base.closeOffset := by
  induction pieces generalizing world with
  | nil => simp [readingOf] at hread
  | cons piece pieces ih =>
      have hexceeds := exceedsContentLength_iff world piece
      unfold StreamWorld.readPieces
      dsimp only
      rw [readingOf] at hread
      split at hread
      · rw [if_pos (hexceeds.mpr ‹_›)]
        obtain rfl : world.base.dataLength + piece.length = read := by
          simpa using hread
        have hreset := @Mapped.reset { world.addIncomingData piece with
          base := { (world.addIncomingData piece).base with
            readable := piece :: pieces } } pieces
          { h.toMapped.addIncomingData with }
        dsimp only at hreset
        rw [addIncomingData_base] at hreset ⊢
        exact hreset
      · rw [if_neg (fun hexceeded => ‹¬ _› (hexceeds.mp hexceeded))]
        have hrest := ih h.consumePiece
        rw [consumePiece_base] at hrest
        exact hrest hread

theorem Open.readPieces_nil (h : world.Open []) :
    (Reaches world.base.closeOffset world.base.dataLength →
      (readPieces [] world).Finished world.base.dataLength
        world.base.closeOffset) ∧
    (¬ Reaches world.base.closeOffset world.base.dataLength →
      readPieces [] world = { world with
        base := { world.base with readable := [], blocked := false } }) := by
  have hclosed :
      { world.base with readable := [] }.sequencerIsClosed = true ↔
        Reaches world.base.closeOffset world.base.dataLength := by
    rw [sequencerIsClosed_iff, ← h.consumed]
  unfold StreamWorld.readPieces
  dsimp only
  constructor
  · intro hreaches
    rw [if_pos (hclosed.mpr hreaches)]
    obtain ⟨offset, hoffset, -⟩ := hreaches
    exact @Open.closeReadSide { world with
      base := { world.base with readable := [], finReceived := true } } []
      { h with } (h.scheduled (by simp [hoffset]))
  · intro hnot
    rw [if_neg (fun hsequencer => hnot (hclosed.mp hsequencer))]

theorem Open.readPieces_all (h : world.Open pieces)
    (hread : readingOf world.base.contentLength world.base.dataLength pieces =
      (read, false)) :
    (Reaches world.base.closeOffset read →
      (readPieces pieces world).Finished read world.base.closeOffset) ∧
    (¬ Reaches world.base.closeOffset read →
      (readPieces pieces world).Open [] ∧
      (readPieces pieces world).base = { world.base with
        readable := [], blocked := false, dataLength := read,
        bytesConsumed := read } ∧
      (readPieces pieces world).stream.mHeadersDelivered =
        world.stream.mHeadersDelivered) := by
  induction pieces generalizing world with
  | nil =>
      obtain rfl : world.base.dataLength = read := by
        simpa [readingOf] using hread
      refine ⟨h.readPieces_nil.1, fun hnot => ?_⟩
      rw [h.readPieces_nil.2 hnot]
      exact ⟨{ h with }, by simp [h.consumed], rfl⟩
  | cons piece pieces ih =>
      have hexceeds := exceedsContentLength_iff world piece
      unfold StreamWorld.readPieces
      dsimp only
      rw [readingOf] at hread
      split at hread
      · simp at hread
      · rw [if_neg (fun hexceeded => ‹¬ _› (hexceeds.mp hexceeded))]
        have hrest := ih h.consumePiece
        rw [consumePiece_base] at hrest
        obtain ⟨hreached, hrested⟩ := hrest hread
        refine ⟨hreached, fun hnot => ?_⟩
        obtain ⟨hopen, hbase, hdelivered⟩ := hrested hnot
        exact ⟨hopen, hbase, hdelivered.trans
          (addIncomingData_mHeadersDelivered world piece)⟩

end Steps

end StreamWorld

end RevSDK
