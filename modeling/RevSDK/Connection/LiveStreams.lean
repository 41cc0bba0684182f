import RevSDK.Connection.StreamSteps

/-!
# Live streams

A live stream is one of the session's map between two events.  `Cuts` names
the events that close it before the peer's FIN was received and everything
before it was read.  Each event leaves it live, failed or finished, and
finished short of the FIN exactly if the event cuts it off.
-/

namespace RevSDK

open RevSDK.Foundation

namespace StreamWorld

/-- Reading the pieces exceeds the content length before the FIN is reached. -/
def CutsReading (contentLength : Int) (read : Nat) (pieces : List Data)
    (fin : Option Nat) : Prop :=
  (readingOf contentLength read pieces).2 = true ∧
    ¬ Reaches fin (readingOf contentLength read pieces).1

instance (contentLength : Int) (read : Nat) (pieces : List Data)
    (fin : Option Nat) : Decidable (CutsReading contentLength read pieces fin) :=
  inferInstanceAs (Decidable (_ ∧ _))

def Conflicts (scheduled fin : Option Nat) : Prop :=
  ∃ first second, scheduled = some first ∧ fin = some second ∧ first ≠ second

instance (scheduled fin : Option Nat) : Decidable (Conflicts scheduled fin) :=
  match scheduled, fin with
  | none, _ => isFalse (by simp [Conflicts])
  | some _, none => isFalse (by simp [Conflicts])
  | some first, some second =>
      decidable_of_iff (first ≠ second) (by simp [Conflicts])

section Cuts

variable (framer : SpdyFramer)

def acceptedLength (block : Data) : Option Int :=
  let (parsed, headers) := framer.parseHeaderBlockInBuffer block
  if !parsed || headers.isEmpty then none
  else
    match HeaderFields.contentLength (-1) headers with
    | none => none
    | some length =>
        if (HeaderFields.responseStatus headers).1 then some length else none

def headersFin (fin : Bool) : Option Nat := if fin then some 0 else none

def readEarly (world : StreamWorld) (block : Data) : Nat :=
  if block.isEmpty then (world.base.readable.flatMap Data.bytes).length else 0

def Cuts (world : StreamWorld) : StreamEvent → Prop
  | .connectionClosed =>
      ¬ Reaches world.base.closeOffset world.base.dataLength
  | .streamReset noError version => (noError = false ∨ version ≤ 28) ∧
      ¬ Reaches world.base.closeOffset world.base.dataLength
  | .streamFrame frame =>
      if Conflicts world.base.closeOffset frame.fin then
        ¬ Reaches world.base.closeOffset world.base.dataLength
      else world.base.blocked = false ∧
        CutsReading world.base.contentLength world.base.dataLength
          frame.readable (frame.fin.or world.base.closeOffset)
  | .headersComplete block fin =>
      if world.base.headersDecompressed then
        world.base.finReceived = true ∨ fin = false ∨
          HeaderFields.finalByteOffset
            (framer.parseHeaderBlockInBuffer block) = none
      else if Conflicts world.base.closeOffset (headersFin fin) then
        ¬ Reaches world.base.closeOffset world.base.dataLength
      else
        match acceptedLength framer block with
        | none => ¬ Reaches ((headersFin fin).or world.base.closeOffset)
            (world.readEarly block)
        | some length => block.isEmpty = false ∧
            CutsReading length 0 world.base.readable
              ((headersFin fin).or world.base.closeOffset)
  | .requestWritten => False
  | .update _ => False
  | .onSocketError _ => False

instance (world : StreamWorld) (event : StreamEvent) :
    Decidable (world.Cuts framer event) := by
  refine StreamEvent.casesOn event (fun block fin => ?_) ?_ ?_ ?_ ?_ ?_ ?_
  · unfold Cuts
    dsimp only
    cases acceptedLength framer block <;> infer_instance
  all_goals intros; unfold Cuts; infer_instance

end Cuts

structure Live (world : StreamWorld) : Prop
    extends world.Open world.base.readable where
  headers : world.base.headersDecompressed = !world.base.blocked
  fin : world.base.finReceived = world.base.closeOffset.isSome
  waiting : world.base.blocked = true → world.base.dataLength = 0 ∧
    world.stream.mHeadersDelivered = false ∧ world.base.contentLength = -1
  flowing : world.base.blocked = false → world.base.readable = [] ∧
    world.stream.mHeadersDelivered = true ∧
      ¬ Reaches world.base.closeOffset world.base.dataLength

structure Failed (world : StreamWorld) : Prop where
  unmapped : world.mapped = false
  told : .quicSessionDidFail ∈ world.log
  unfinished : .quicSessionDidFinish ∉ world.log

inductive After (world : StreamWorld) (cuts : Prop) : Prop
  | live : world.Live → ¬ cuts → After world cuts
  | failed : world.Failed → world.stream.mFailed = true → ¬ cuts →
      After world cuts
  | finished (read : Nat) (fin : Option Nat) : world.Finished read fin →
      (cuts ↔ ¬ Reaches fin read) → After world cuts

section Steps

variable {world : StreamWorld} {pieces : List Data}

theorem Open.closeWriteSide_eq (h : world.Open pieces) :
    world.closeWriteSide = { world with
      base := { world.base with writeSideClosed := true } } := by
  unfold StreamWorld.closeWriteSide
  cases hwritten : world.base.writeSideClosed with
  | true =>
      rw [if_pos rfl, ← hwritten]
  | false => simp [h.reading]

theorem Open.written (h : world.Open pieces) :
    Open { world with
      base := { world.base with writeSideClosed := true } } pieces :=
  { h with scheduled := fun _ => rfl }

theorem Live.written (h : world.Live) :
    Live { world with
      base := { world.base with writeSideClosed := true } } :=
  { h with toOpen := h.toOpen.written }

theorem Open.close (h : world.Open pieces) :
    world.closeWriteSide.closeReadSide.Finished world.base.dataLength
      world.base.closeOffset := by
  rw [h.closeWriteSide_eq]
  exact h.written.closeReadSide rfl

theorem Live.connectionClosed (h : world.Live) :
    world.connectionClosed.Finished world.base.dataLength
      world.base.closeOffset := by
  rw [StreamWorld.connectionClosed, if_neg (by simp [h.reading])]
  exact h.toOpen.close

theorem Live.onStreamReset (h : world.Live) (framer : SpdyFramer)
    (noError : Bool) (version : Nat) :
    (world.onStreamReset noError version).After
      (world.Cuts framer (.streamReset noError version)) := by
  unfold StreamWorld.onStreamReset
  split
  · rename_i hdiscards
    refine .finished _ _ h.toOpen.close ?_
    have : noError = false ∨ version ≤ 28 := by simpa using hdiscards
    simp [Cuts, this]
  · rename_i hkeeps
    rw [h.toOpen.closeWriteSide_eq]
    refine .live h.written ?_
    rintro ⟨hdiscards, -⟩
    exact hkeeps (by simpa using hdiscards)

theorem Live.requestWritten (h : world.Live) (framer : SpdyFramer) :
    world.closeWriteSide.After (world.Cuts framer .requestWritten) := by
  rw [h.toOpen.closeWriteSide_eq]
  exact .live h.written not_false

theorem Live.setStream (h : world.Live) {stream : QUICDataStream}
    (hworking : stream.mFailed = false)
    (hdelivered : stream.mHeadersDelivered = world.stream.mHeadersDelivered)
    (hcache : stream.mCacheList = world.stream.mCacheList) :
    Live { world with stream := stream } :=
  { h with
    working := hworking
    taken := by
      dsimp only
      rw [hcache]
      exact h.taken
    body := by
      dsimp only
      rw [hcache]
      exact h.body
    waiting := fun hblocked => by
      obtain ⟨hlength, hnone, hcontent⟩ := h.waiting hblocked
      exact ⟨hlength, hdelivered.trans hnone, hcontent⟩
    flowing := fun hblocked => by
      obtain ⟨hempty, hsome, hreaches⟩ := h.flowing hblocked
      exact ⟨hempty, hdelivered.trans hsome, hreaches⟩ }

theorem After.onStreamFrame {cuts : Prop} (h : world.After cuts) :
    After { world with stream := world.stream.onStreamFrame } cuts := by
  cases h with
  | live hlive hwhole =>
      refine .live ?_ hwhole
      have hworking := hlive.working
      apply hlive.setStream <;> simp [QUICDataStream.onStreamFrame, hworking]
  | failed hfailed hsilent hwhole =>
      exact .failed { hfailed with }
        (by simp [QUICDataStream.onStreamFrame, hsilent]) hwhole
  | finished read fin hfinished hcuts =>
      exact .finished read fin { hfinished with } hcuts

theorem Live.fail (h : world.Live) (aError : Error) :
    (world.perform (world.stream.fail aError)).Failed := by
  have hnext : world.perform (world.stream.fail aError) = { world with
      stream := { world.stream with mFailed := true, mError := aError }
      mapped := false
      log := world.log ++ [.quicSessionDidFail]
      calls := world.calls ++ [.onQUICStreamFailed aError] } := by
    simp [perform, QUICDataStream.fail, dispatch, h.mapped]
  rw [hnext]
  exact ⟨rfl, by simp, by simpa using h.pending.1⟩

theorem Live.update (h : world.Live) (framer : SpdyFramer) (aNowMS : Nat) :
    (world.perform (world.stream.update aNowMS)).After
      (world.Cuts framer (.update aNowMS)) := by
  unfold QUICDataStream.update
  rw [if_neg (by simp [h.working])]
  split
  · rw [perform_nil]
    exact .live (h.setStream h.working rfl rfl) not_false
  · dsimp only
    split
    · exact .failed (h.fail _) (by simp [QUICDataStream.fail]) not_false
    · rw [perform_nil]
      exact .live (h.setStream h.working rfl rfl) not_false

theorem Live.onSocketError (h : world.Live) (framer : SpdyFramer)
    (aError : Error) :
    (world.perform (world.stream.onSocketError aError)).After
      (world.Cuts framer (.onSocketError aError)) := by
  unfold QUICDataStream.onSocketError
  rw [if_neg (by simp [h.working])]
  exact .failed (h.fail aError) (by simp [QUICDataStream.fail]) not_false

/-! ## Frames -/

/-- The end of `QuicStreamSequencer::OnStreamFrame`. -/
def storePieces (world : StreamWorld) (pieces : List Data) : StreamWorld :=
  if pieces.isEmpty then world
  else
    let world := { world with
      base := { world.base with readable := world.base.readable ++ pieces }
      arrived := world.arrived ++ pieces.flatMap Data.bytes }
    if world.base.blocked then world else world.onDataAvailable

theorem sequencerOnStreamFrame_eq (world : StreamWorld) (frame : StreamFrame) :
    world.sequencerOnStreamFrame frame =
      (match frame.fin with
        | some offset => world.closeStreamAtOffset offset
        | none => world).storePieces frame.readable := rfl

theorem Finished.storePieces {read : Nat} {fin : Option Nat}
    (h : world.Finished read fin) (pieces : List Data) :
    (world.storePieces pieces).Finished read fin := by
  unfold StreamWorld.storePieces
  split
  · exact h
  · have hstored : Finished { world with
        base := { world.base with readable := world.base.readable ++ pieces }
        arrived := world.arrived ++ pieces.flatMap Data.bytes } read fin :=
      { h with inOrder := h.inOrder.trans (List.prefix_append _ _) }
    dsimp only
    split
    · exact hstored
    · exact hstored.readPieces _

theorem readingOf_le (contentLength : Int) (read : Nat) (pieces : List Data) :
    read ≤ (readingOf contentLength read pieces).1 := by
  induction pieces generalizing read with
  | nil => exact Nat.le_refl _
  | cons piece pieces ih =>
      unfold readingOf
      dsimp only
      split
      · exact Nat.le_add_right _ _
      · have := ih (read + piece.length)
        omega

theorem Reaches.mono {fin : Option Nat} {read more : Nat}
    (h : Reaches fin read) (hle : read ≤ more) : Reaches fin more := by
  obtain ⟨offset, hfin, hoffset⟩ := h
  exact ⟨offset, hfin, Nat.le_trans hoffset hle⟩

theorem Open.append {more : List Data} (h : world.Open pieces) :
    Open { world with
      base := { world.base with readable := world.base.readable ++ more }
      arrived := world.arrived ++ more.flatMap Data.bytes }
      (pieces ++ more) :=
  { h with
    body := by
      dsimp only
      rw [h.body]
      simp }

structure Rested (world : StreamWorld) : Prop extends world.Open [] where
  unblocked : world.base.blocked = false
  headers : world.base.headersDecompressed = true
  fin : world.base.finReceived = world.base.closeOffset.isSome
  empty : world.base.readable = []
  unreached : ¬ Reaches world.base.closeOffset world.base.dataLength

theorem Rested.live (h : world.Rested)
    (hdelivered : world.stream.mHeadersDelivered = true) : world.Live where
  toOpen := by
    rw [h.empty]
    exact h.toOpen
  headers := by rw [h.headers, h.unblocked, Bool.not_false]
  fin := h.fin
  waiting hblocked := by simp [h.unblocked] at hblocked
  flowing _ := ⟨h.empty, hdelivered, h.unreached⟩

inductive Consumes (world : StreamWorld) (pieces : List Data)
    (next : StreamWorld) : Prop
  | rested (read : Nat) :
      readingOf world.base.contentLength world.base.dataLength pieces =
        (read, false) →
      next.Rested → next.base = { world.base with
        readable := [], blocked := false, dataLength := read
        bytesConsumed := read } →
      next.stream.mHeadersDelivered = world.stream.mHeadersDelivered →
        Consumes world pieces next
  | finished (read : Nat) (exceeded : Bool) :
      readingOf world.base.contentLength world.base.dataLength pieces =
        (read, exceeded) →
      next.Finished read world.base.closeOffset →
      (exceeded = false → Reaches world.base.closeOffset read) →
        Consumes world pieces next

theorem Open.readPieces (h : world.Open pieces)
    (hheaders : world.base.headersDecompressed = true)
    (hfin : world.base.finReceived = world.base.closeOffset.isSome) :
    world.Consumes pieces (readPieces pieces world) := by
  rcases hread : readingOf world.base.contentLength world.base.dataLength
    pieces with ⟨read, _ | _⟩
  · obtain ⟨hreached, hrested⟩ := h.readPieces_all hread
    by_cases hreaches : Reaches world.base.closeOffset read
    · exact .finished read false hread (hreached hreaches) fun _ => hreaches
    · obtain ⟨hnext, hbase, htold⟩ := hrested hreaches
      refine .rested read hread ?_ hbase htold
      constructor
      · exact hnext
      all_goals rw [hbase]
      · exact hheaders
      · exact hfin
      · exact hreaches
  · refine .finished read true hread (h.readPieces_overrun hread) ?_
    simp

theorem cutsReading_iff {contentLength : Int} {start read : Nat}
    {exceeded : Bool} {fin : Option Nat}
    (hread : readingOf contentLength start pieces = (read, exceeded))
    (hreaches : exceeded = false → Reaches fin read) :
    CutsReading contentLength start pieces fin ↔ ¬ Reaches fin read := by
  unfold CutsReading
  rw [hread]
  cases exceeded with
  | true => simp
  | false => simp [hreaches rfl]

theorem Consumes.after {next : StreamWorld}
    (h : world.Consumes pieces next)
    (hdelivered : world.stream.mHeadersDelivered = true) :
    next.After (CutsReading world.base.contentLength world.base.dataLength
      pieces world.base.closeOffset) := by
  cases h with
  | rested read hread hrested hbase htold =>
      refine .live (hrested.live (htold.trans hdelivered)) ?_
      simp [CutsReading, hread]
  | finished read exceeded hread hfinished hreaches =>
      exact .finished read _ hfinished (cutsReading_iff hread hreaches)

theorem Live.storePieces (h : world.Live) (pieces : List Data) :
    (world.storePieces pieces).After (world.base.blocked = false ∧
      CutsReading world.base.contentLength world.base.dataLength pieces
        world.base.closeOffset) := by
  unfold StreamWorld.storePieces
  split
  · rename_i hnone
    obtain rfl : pieces = [] := by simpa using hnone
    exact .live h (by simp [CutsReading, readingOf])
  · dsimp only
    have hopen := @Open.append world _ pieces h.toOpen
    split
    · rename_i hblocked
      refine .live ?_ (by simp [hblocked])
      exact
        { hopen with
          headers := h.headers
          fin := h.fin
          waiting := h.waiting
          flowing := fun hflowing => by simp [hblocked] at hflowing }
    · rename_i hblocked
      have hunblocked : world.base.blocked = false := by simpa using hblocked
      obtain ⟨hempty, hdelivered, -⟩ := h.flowing hunblocked
      have hheaders := h.headers
      rw [hunblocked] at hheaders
      rw [and_iff_right hunblocked]
      have hread := (hopen.readPieces hheaders h.fin).after hdelivered
      dsimp only [onDataAvailable]
      rw [hempty, List.nil_append] at hread ⊢
      exact hread

def scheduleFin (world : StreamWorld) (offset : Nat) : StreamWorld :=
  { world with
    base := { world.base with
      finReceived := true, closeOffset := some offset } }

theorem closeStreamAtOffset_eq (world : StreamWorld) (offset : Nat) :
    world.closeStreamAtOffset offset =
      if Conflicts world.base.closeOffset (some offset) then world.reset
      else maybeCloseStream { world with
        base := { world.base with closeOffset := some offset } } := by
  have hany : Conflicts world.base.closeOffset (some offset) ↔
      (world.base.closeOffset.any fun first => first != offset) = true := by
    cases world.base.closeOffset <;> simp [Conflicts]
  unfold StreamWorld.closeStreamAtOffset
  simp only [hany]

theorem Open.scheduleFin (h : world.Open pieces)
    (hwritten : world.base.writeSideClosed = true) (offset : Nat) :
    (world.scheduleFin offset).Open pieces :=
  { h with scheduled := fun _ => hwritten }

theorem Live.maybeCloseStream (h : world.Live)
    (hwritten : world.base.writeSideClosed = true) (offset : Nat) :
    (Reaches (some offset) world.base.dataLength ∧
      (world.scheduleFin offset).maybeCloseStream.Finished
        world.base.dataLength (some offset)) ∨
    (world.scheduleFin offset).maybeCloseStream =
        world.scheduleFin offset ∧ (world.scheduleFin offset).Live := by
  have hopen := h.toOpen.scheduleFin hwritten offset
  have hclosed := sequencerIsClosed_iff (world.scheduleFin offset).base
  rw [hopen.consumed] at hclosed
  unfold StreamWorld.maybeCloseStream
  by_cases hblocked : world.base.blocked = true
  · right
    rw [if_pos (by simp [scheduleFin, hblocked])]
    exact ⟨rfl,
      { hopen with
        headers := h.headers
        fin := rfl
        waiting := h.waiting
        flowing := fun hflowing => by
          simp [scheduleFin, hblocked] at hflowing }⟩
  · have hunblocked : world.base.blocked = false := by simpa using hblocked
    obtain ⟨hempty, hdelivered, -⟩ := h.flowing hunblocked
    by_cases hreaches : Reaches (some offset) world.base.dataLength
    · left
      refine ⟨hreaches, ?_⟩
      have hsequencer := hclosed.mpr hreaches
      rw [if_neg (by
        rw [hsequencer]
        simp [scheduleFin, hunblocked])]
      have hnil : (world.scheduleFin offset).Open [] := hempty ▸ hopen
      have hread := hnil.readPieces_nil.1 hreaches
      have hreadable : (world.scheduleFin offset).base.readable = [] := hempty
      dsimp only [onDataAvailable]
      rw [hreadable]
      exact { hread with }
    · right
      have hnot : (world.scheduleFin offset).base.sequencerIsClosed = false :=
        Bool.eq_false_iff.mpr fun hsequencer =>
          hreaches (hclosed.mp hsequencer)
      rw [if_pos (by simp [hnot])]
      exact ⟨rfl,
        { hopen with
          headers := h.headers
          fin := rfl
          waiting := fun hwaiting => absurd hwaiting hblocked
          flowing := fun _ => ⟨hempty, hdelivered, hreaches⟩ }⟩

theorem Live.finFrame (h : world.Live)
    (hwritten : world.base.writeSideClosed = true) (offset : Nat)
    (pieces : List Data) :
    (sequencerOnStreamFrame { world with
      base := { world.base with finReceived := true } }
      ⟨pieces, some offset⟩).After
      (if Conflicts world.base.closeOffset (some offset) then
        ¬ Reaches world.base.closeOffset world.base.dataLength
      else world.base.blocked = false ∧
        CutsReading world.base.contentLength world.base.dataLength pieces
          (some offset)) := by
  rw [sequencerOnStreamFrame_eq]
  dsimp only
  rw [closeStreamAtOffset_eq]
  by_cases hconflicts : Conflicts world.base.closeOffset (some offset)
  · rw [if_pos hconflicts, if_pos hconflicts]
    have hreset := @Mapped.reset { world with
      base := { world.base with finReceived := true } } world.base.readable
      { h.toMapped with }
    exact .finished _ _ (hreset.storePieces _) Iff.rfl
  · rw [if_neg hconflicts, if_neg hconflicts]
    rcases h.maybeCloseStream hwritten offset with
      ⟨hreaches, hfinished⟩ | ⟨hkept, hlive⟩
    · refine .finished _ _ (hfinished.storePieces _) ?_
      refine iff_of_false ?_ (not_not_intro hreaches)
      rintro ⟨-, -, hunreached⟩
      exact hunreached (hreaches.mono (readingOf_le _ _ _))
    · change ((world.scheduleFin offset).maybeCloseStream.storePieces
        pieces).After _
      rw [hkept]
      exact hlive.storePieces pieces

theorem Live.onStreamFrame (h : world.Live) (framer : SpdyFramer)
    (frame : StreamFrame) :
    (world.onStreamFrame frame).After
      (world.Cuts framer (.streamFrame frame)) := by
  obtain ⟨readable, fin⟩ := frame
  have hwritten := h.written
  have hreading : ¬ world.base.readSideClosed = true := by simp [h.reading]
  unfold StreamWorld.onStreamFrame
  rw [h.toOpen.closeWriteSide_eq]
  cases fin with
  | none =>
      have hcuts : world.Cuts framer (.streamFrame ⟨readable, none⟩) ↔
          world.base.blocked = false ∧
            CutsReading world.base.contentLength world.base.dataLength
              readable world.base.closeOffset := by
        simp [Cuts, Conflicts]
      rw [hcuts]
      dsimp only [Option.isSome_none]
      rw [if_neg Bool.false_ne_true, if_neg hreading]
      exact (hwritten.storePieces readable).onStreamFrame
  | some offset =>
      dsimp only [Option.isSome_some]
      rw [if_pos rfl, if_neg hreading]
      exact (hwritten.finFrame rfl offset readable).onStreamFrame

/-! ## Headers -/

structure Heading (world : StreamWorld) : Prop
    extends world.Open world.base.readable where
  headers : world.base.headersDecompressed = true
  fin : world.base.finReceived = world.base.closeOffset.isSome
  unlimited : world.base.contentLength = -1
  undelivered : world.stream.mHeadersDelivered = false

theorem Finished.perform {read : Nat} {fin : Option Nat}
    (h : world.Finished read fin) (next : QUICDataStream × List StreamCall) :
    (world.perform next).Finished read fin := by
  rw [perform_unmapped h.unmapped]
  exact { h with }

theorem Rested.deliver (h : world.Rested) (code : Int)
    (headers : SpdyHeaderBlock) :
    (world.perform
      (world.stream.onInitialHeadersComplete code headers)).Live := by
  have hnext : world.perform
      (world.stream.onInitialHeadersComplete code headers) = { world with
        stream := { world.stream with
          mInitialMS := 0, mHeadersDelivered := true }
        log := world.log ++ [.quicSessionDidReceiveResponse headers code]
        calls := world.calls ++
          [.onQUICStreamReceivedResponse code headers] } := by
    simp [StreamWorld.perform, QUICDataStream.onInitialHeadersComplete,
      h.working, dispatch, h.mapped]
  have htold : deliveredBytes
      (world.log ++ [.quicSessionDidReceiveResponse headers code]) =
        deliveredBytes world.log := by
    simp [deliveredBytes]
  rw [hnext]
  refine Rested.live { h with pending := ?_, taken := ?_, body := ?_ } rfl
  · simpa using h.pending
  · rw [htold]
    exact h.taken
  · rw [htold]
    exact h.body

theorem Open.setUnblocked (h : world.Open world.base.readable)
    (hheaders : world.base.headersDecompressed = true)
    (hfin : world.base.finReceived = world.base.closeOffset.isSome) :
    world.Consumes world.base.readable world.setUnblocked := by
  unfold StreamWorld.setUnblocked
  dsimp only
  have hopen : Open { world with
      base := { world.base with blocked := false } } world.base.readable :=
    { h with }
  split
  · have hread := hopen.readPieces hheaders hfin
    cases hread with
    | rested read hread hrested hbase htold =>
        exact .rested read hread hrested hbase htold
    | finished read exceeded hread hfinished hreaches =>
        exact .finished read exceeded hread hfinished hreaches
  · rename_i hidle
    obtain ⟨hunread, hempty⟩ : ¬ world.base.sequencerIsClosed = true ∧
        world.base.readable = [] := by
      simpa [QuicSpdyClientStream.sequencerIsClosed] using hidle
    rw [sequencerIsClosed_iff, h.consumed] at hunread
    have hread : readingOf world.base.contentLength world.base.dataLength
        world.base.readable = (world.base.dataLength, false) := by
      rw [hempty]
      rfl
    rw [hempty] at hopen
    refine .rested _ hread ?_ ?_ rfl
    · exact { hopen with
        unblocked := rfl
        headers := hheaders
        fin := hfin
        empty := hempty
        unreached := hunread }
    · simp [hempty, h.consumed]

theorem readingOf_unlimited (read : Nat) (pieces : List Data) :
    readingOf (-1) read pieces =
      (read + (pieces.flatMap Data.bytes).length, false) := by
  induction pieces generalizing read with
  | nil => rfl
  | cons piece pieces ih =>
      unfold readingOf
      dsimp only
      rw [if_neg (by omega), ih]
      simp [Data.length]
      omega

def respond (world : StreamWorld) (contentLength code : Int)
    (headers : SpdyHeaderBlock) : StreamWorld :=
  { world with
    base := { world.base with
      contentLength := contentLength, responseCode := code
      responseHeaders := headers } }

theorem parseResponse_eq (framer : SpdyFramer) (block : Data)
    (hunlimited : world.base.contentLength = -1) :
    ∃ length code headers,
      acceptedLength framer block = none ∧
        world.parseResponse framer block =
          (world.respond length code headers).reset ∨
      acceptedLength framer block = some length ∧
        world.parseResponse framer block =
          (world.respond length code headers).setUnblocked := by
  unfold acceptedLength StreamWorld.parseResponse
  rcases framer.parseHeaderBlockInBuffer block with ⟨parsed, headers⟩
  dsimp only
  rw [hunlimited]
  split
  · exact ⟨-1, world.base.responseCode, headers, .inl ⟨rfl, by
      simp [respond, ← hunlimited]⟩⟩
  · cases hlength : HeaderFields.contentLength (-1) headers with
    | none =>
        exact ⟨-1, world.base.responseCode, headers, .inl ⟨rfl, by
          simp [respond, ← hunlimited]⟩⟩
    | some length =>
        dsimp only
        refine ⟨length, (HeaderFields.responseStatus headers).2, headers, ?_⟩
        split
        · exact .inr ⟨rfl, rfl⟩
        · exact .inl ⟨rfl, rfl⟩

theorem Heading.respond (h : world.Heading) (contentLength code : Int)
    (headers : SpdyHeaderBlock) :
    (world.respond contentLength code headers).Open world.base.readable :=
  { h.toOpen with }

theorem Heading.parseResponse (h : world.Heading) (framer : SpdyFramer)
    (block : Data) (code : Int) (headers : SpdyHeaderBlock) :
    ((world.parseResponse framer block).perform
      ((world.parseResponse framer block).stream.onInitialHeadersComplete
        code headers)).After
      (match acceptedLength framer block with
      | none => ¬ Reaches world.base.closeOffset world.base.dataLength
      | some length => CutsReading length world.base.dataLength
          world.base.readable world.base.closeOffset) := by
  obtain ⟨length, responseCode, responseHeaders,
    ⟨haccepted, hnext⟩ | ⟨haccepted, hnext⟩⟩ :=
      parseResponse_eq framer block h.unlimited
  · have hreset :=
      (h.respond length responseCode responseHeaders).toMapped.reset
    rw [haccepted, hnext]
    exact .finished _ _ (hreset.perform _) Iff.rfl
  · have hopen := h.respond length responseCode responseHeaders
    have hread := hopen.setUnblocked h.headers h.fin
    rw [haccepted, hnext]
    cases hread with
    | rested read hread hrested hbase htold =>
        refine .live (hrested.deliver _ _) ?_
        dsimp only [StreamWorld.respond] at hread
        simp [CutsReading, hread]
    | finished read exceeded hread hfinished hreaches =>
        exact .finished read _ (hfinished.perform _)
          (cutsReading_iff hread hreaches)

theorem After.congr {cuts cuts' : Prop} (h : world.After cuts)
    (hiff : cuts' ↔ cuts) : world.After cuts' := by
  rw [hiff]
  exact h

theorem readEarly_eq (h : world.base.dataLength = 0) (block : Data) :
    world.readEarly block = if block.isEmpty then
        (readingOf (-1) world.base.dataLength world.base.readable).1
      else world.base.dataLength := by
  unfold StreamWorld.readEarly
  rw [readingOf_unlimited, h, Nat.zero_add]

/-- The rest of `OnInitialHeadersComplete`, after a FIN of the headers. -/
def handleHeaders (framer : SpdyFramer) (world : StreamWorld)
    (block : Data) : StreamWorld :=
  let world := if block.isEmpty then world.setUnblocked else world
  let world := world.parseResponse framer block
  world.perform (world.stream.onInitialHeadersComplete
    world.base.responseCode world.base.responseHeaders)

theorem Finished.handleHeaders {read : Nat} {fin : Option Nat}
    (h : world.Finished read fin) (framer : SpdyFramer) (block : Data) :
    (handleHeaders framer world block).Finished read fin := by
  unfold StreamWorld.handleHeaders
  dsimp only
  split
  · exact (h.setUnblocked.parseResponse framer block).perform _
  · exact (h.parseResponse framer block).perform _

theorem Heading.handleHeaders (h : world.Heading)
    (hzero : world.base.dataLength = 0) (framer : SpdyFramer)
    (block : Data) :
    (handleHeaders framer world block).After
      (match acceptedLength framer block with
      | none => ¬ Reaches world.base.closeOffset (world.readEarly block)
      | some length => block.isEmpty = false ∧
          CutsReading length 0 world.base.readable
            world.base.closeOffset) := by
  unfold StreamWorld.handleHeaders
  rw [readEarly_eq hzero]
  dsimp only
  split
  · rename_i hempty
    cases h.toOpen.setUnblocked h.headers h.fin with
    | rested read hread hrested hbase htold =>
        rw [h.unlimited] at hread
        have hheading : world.setUnblocked.Heading :=
          { hrested with
            toOpen := by
              rw [hrested.empty]
              exact hrested.toOpen
            unlimited := by
              rw [hbase]
              exact h.unlimited
            undelivered := htold.trans h.undelivered }
        refine (hheading.parseResponse framer block _ _).congr ?_
        rw [hread, hbase]
        cases acceptedLength framer block with
        | none => exact Iff.rfl
        | some length => simp [hempty, CutsReading, readingOf]
    | finished read exceeded hread hfinished hreaches =>
        rw [h.unlimited] at hread
        have hwhole : exceeded = false := by
          rw [readingOf_unlimited] at hread
          simpa using congrArg Prod.snd hread.symm
        refine .finished read _
          ((hfinished.parseResponse framer block).perform _) ?_
        rw [hread]
        cases acceptedLength framer block with
        | none => exact Iff.rfl
        | some length => simp [hempty, hreaches hwhole]
  · rename_i hfull
    refine (h.parseResponse framer block _ _).congr ?_
    have hblock : block.isEmpty = false := by simpa using hfull
    rw [hzero]
    cases acceptedLength framer block <;> simp [hblock]

theorem Heading.headersFin (h : world.Heading)
    (hblocked : world.base.blocked = true) (fin : Bool) :
    (Conflicts world.base.closeOffset (headersFin fin) →
      (if fin then world.onStreamFrame ⟨[], some 0⟩ else world).Finished
        world.base.dataLength world.base.closeOffset) ∧
    (¬ Conflicts world.base.closeOffset (headersFin fin) →
      ∃ next, (if fin then world.onStreamFrame ⟨[], some 0⟩ else world) =
          next ∧ next.Heading ∧ next.base.readable = world.base.readable ∧
        next.base.dataLength = world.base.dataLength ∧
        next.base.closeOffset =
          (headersFin fin).or world.base.closeOffset) := by
  cases fin with
  | false =>
      constructor
      · rintro ⟨_, _, -, hnone, -⟩
        simp [StreamWorld.headersFin] at hnone
      · intro _
        exact ⟨world, rfl, h, rfl, rfl, rfl⟩
  | true =>
      have hwritten := h.toOpen.written
      have hreading : ¬ world.base.readSideClosed = true := by
        simp [h.reading]
      rw [if_pos rfl]
      unfold StreamWorld.onStreamFrame StreamWorld.headersFin
      rw [h.toOpen.closeWriteSide_eq]
      dsimp only [Option.isSome_some]
      rw [if_pos rfl, if_pos rfl, if_neg hreading, sequencerOnStreamFrame_eq]
      dsimp only
      rw [closeStreamAtOffset_eq]
      constructor
      · intro hconflicts
        rw [if_pos hconflicts]
        have hreset := @Mapped.reset { world with
          base := { world.base with
            writeSideClosed := true, finReceived := true } }
          world.base.readable { hwritten.toMapped with }
        exact { hreset with }
      · intro hfresh
        have hkept : ({ world with
            base := { world.base with
              writeSideClosed := true, finReceived := true
              closeOffset := some 0 } } : StreamWorld).maybeCloseStream =
            { world with
              base := { world.base with
                writeSideClosed := true, finReceived := true
                closeOffset := some 0 } } := by
          unfold StreamWorld.maybeCloseStream
          rw [if_pos (by simp [hblocked])]
        rw [if_neg hfresh, hkept]
        refine ⟨_, rfl, ?_, rfl, rfl, rfl⟩
        simp only [StreamWorld.storePieces, List.isEmpty_nil, if_true,
          QUICDataStream.onStreamFrame, h.working, Bool.false_eq_true,
          if_false]
        exact
          { h with
            working := rfl
            scheduled := fun _ => rfl
            fin := rfl }

theorem Live.onInitialHeadersComplete (h : world.Live)
    (hfirst : world.base.headersDecompressed = false) (framer : SpdyFramer)
    (block : Data) (fin : Bool) :
    (world.onInitialHeadersComplete framer block fin).After
      (world.Cuts framer (.headersComplete block fin)) := by
  have hblocked : world.base.blocked = true := by
    simpa [hfirst] using h.headers
  obtain ⟨hzero, hundelivered, hunlimited⟩ := h.waiting hblocked
  have hheading : Heading { world with
      base := { world.base with headersDecompressed := true } } :=
    { h with
      headers := rfl
      unlimited := hunlimited
      undelivered := hundelivered }
  obtain ⟨hconflicting, hfresh⟩ := hheading.headersFin hblocked fin
  have hinitial : ¬ world.base.headersDecompressed = true := by simp [hfirst]
  change (handleHeaders framer _ block).After _
  unfold Cuts
  dsimp only
  rw [if_neg hinitial]
  by_cases hconflicts : Conflicts world.base.closeOffset
      (StreamWorld.headersFin fin)
  · rw [if_pos hconflicts]
    exact .finished _ _ ((hconflicting hconflicts).handleHeaders _ _) Iff.rfl
  · obtain ⟨next, hnext, hheading, hreadable, hlength, hoffset⟩ :=
      hfresh hconflicts
    rw [if_neg hconflicts]
    have hafter := hheading.handleHeaders (hlength.trans hzero) framer block
    unfold readEarly at hafter ⊢
    rw [hreadable, hoffset] at hafter
    rw [hnext]
    exact hafter

theorem Live.connectionThenTrailers (h : world.Live)
    (framer : SpdyFramer) (block : Data) :
    ((match HeaderFields.finalByteOffset
        (framer.parseHeaderBlockInBuffer block) with
      | none => world.connectionClosed.reset
      | some offset => world.connectionClosed.onStreamFrame
          ⟨[], some offset⟩).Finished world.base.dataLength
        world.base.closeOffset) := by
  have hclosed := h.connectionClosed
  split
  · exact hclosed.reset
  · exact hclosed.onStreamFrame _

theorem Live.onTrailingHeadersComplete (h : world.Live)
    (hlater : world.base.headersDecompressed = true) (framer : SpdyFramer)
    (block : Data) (fin : Bool) :
    (world.onTrailingHeadersComplete framer block fin).After
      (world.Cuts framer (.headersComplete block fin)) := by
  have hunblocked : world.base.blocked = false := by
    have hheaders := h.headers
    rw [hlater] at hheaders
    simpa using hheaders
  obtain ⟨hempty, -, hunreached⟩ := h.flowing hunblocked
  have htrailers : Live { world with
      base := { world.base with trailersDecompressed := true } } := { h with }
  unfold StreamWorld.onTrailingHeadersComplete Cuts
  dsimp only
  rw [if_pos hlater]
  by_cases hlate : (world.base.finReceived || !fin) = true
  · rw [if_pos hlate]
    refine .finished _ _ (h.connectionThenTrailers framer block) ?_
    refine iff_of_true ?_ hunreached
    have : world.base.finReceived = true ∨ fin = false := by simpa using hlate
    rw [← or_assoc]
    exact .inl this
  · rw [if_neg hlate]
    obtain ⟨hnofin, hfin⟩ : world.base.finReceived = false ∧ fin = true := by
      simpa using hlate
    cases hoffset : HeaderFields.finalByteOffset
      (framer.parseHeaderBlockInBuffer block) with
    | none =>
        refine .finished _ _ htrailers.toOpen.toMapped.reset ?_
        simp [hunreached]
    | some offset =>
        have hnone : world.base.closeOffset = none := by
          have := h.fin
          rw [hnofin] at this
          simpa using this.symm
        refine (htrailers.onStreamFrame framer ⟨[], some offset⟩).congr ?_
        simp [Cuts, hnone, hnofin, hfin, Conflicts, CutsReading, readingOf]

theorem Live.react (h : world.Live) (framer : SpdyFramer)
    (event : StreamEvent) :
    (world.react framer event).After (world.Cuts framer event) := by
  cases event with
  | headersComplete block fin =>
      unfold StreamWorld.react StreamWorld.onStreamHeadersComplete
      dsimp only
      split
      · rename_i hlater
        exact h.onTrailingHeadersComplete hlater framer block fin
      · rename_i hfirst
        exact h.onInitialHeadersComplete (by simpa using hfirst) framer block
          fin
  | streamFrame frame => exact h.onStreamFrame framer frame
  | streamReset noError version =>
      exact h.onStreamReset framer noError version
  | connectionClosed =>
      exact .finished _ _ h.connectionClosed Iff.rfl
  | requestWritten => exact h.requestWritten framer
  | update aNowMS => exact h.update framer aNowMS
  | onSocketError aError => exact h.onSocketError framer aError

end Steps

end StreamWorld

end RevSDK
