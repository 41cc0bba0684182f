import RevSDK.Foundation.Shares
import RevSDK.Quic.QuicSession
import RevSDK.Quic.StreamWriting

/-!
# A session that writes its streams

`Sending` is the invariant of a session whose streams write: the connection
has sent what its streams have sent, and each stream has handed over a first
part of what was written to it.  `Attended` says that no stream with data left
is forgotten.
-/

namespace RevSDK

open RevSDK.Foundation

theorem consumeData_bound (fin : Bool) (length : Nat) (rooms : List Nat)
    {total : Nat} (htotal : total ≤ length) :
    (consumeData fin length rooms total).bytesConsumed ≤ length ∧
      ((consumeData fin length rooms total).finConsumed = true →
        fin = true ∧
          (consumeData fin length rooms total).bytesConsumed = length) ∧
      (total < length →
        (consumeData fin length rooms total).bytesConsumed = length →
          (consumeData fin length rooms total).finConsumed = fin) := by
  induction rooms generalizing total with
  | nil => exact ⟨htotal, nofun, fun hlt heq => absurd heq hlt.ne⟩
  | cons room rooms ih =>
      unfold consumeData
      dsimp only
      split
      next hall => exact ⟨hall.le, fun hfin => ⟨hfin, hall⟩, fun _ _ => rfl⟩
      next hmore =>
        obtain ⟨hle, hfin, htakes⟩ :=
          ih (show total + min room (length - total) ≤ length by omega)
        exact ⟨hle, hfin, fun _ => htakes (by omega)⟩

theorem consumeData_contract (rooms : Nat → List Nat) :
    SessionContract fun offset length fin =>
      consumeData fin length (rooms offset) 0 where
  le offset length fin :=
    (consumeData_bound fin length (rooms offset) (Nat.zero_le _)).1
  fin_of offset length fin :=
    (consumeData_bound fin length (rooms offset) (Nat.zero_le _)).2.1
  takes_fin offset length fin :=
    (consumeData_bound fin length (rooms offset) (Nat.zero_le _)).2.2

section Sessions

variable {β : Type} {ids : Finset Nat} {session : QuicSession β}
  {written : Nat → List UInt8} {id : Nat} {calls : List TransportCall}

theorem handed_plain {other : Nat} (h : Plain id calls) (hother : other ≠ id) :
    handed other calls = [] := by
  refine List.filterMap_eq_nil_iff.mpr fun call hmem => ?_
  rcases h call hmem with hminor | ⟨offset, data, fin, rfl⟩
  · cases hminor <;> rfl
  · exact if_neg hother.symm

structure CarriedOut (session next : QuicSession β) (id : Nat)
    (calls : List TransportCall) : Prop where
  streams : next.streams = session.streams
  flowController : next.flowController = session.flowController
  told : next.calls = session.calls ++ calls
  blocks : ∀ other, next.writeBlockedStreams.Blocks other ↔
    session.writeBlockedStreams.Blocks other ∨
      other = id ∧ .markConnectionLevelWriteBlocked id ∈ calls
  numBlockedStreams : session.writeBlockedStreams.numBlockedStreams ≤
    next.writeBlockedStreams.numBlockedStreams

theorem CarriedOut.trans {middle next : QuicSession β}
    {more : List TransportCall} (hfirst : CarriedOut session middle id calls)
    (hsecond : CarriedOut middle next id more) :
    CarriedOut session next id (calls ++ more) where
  streams := hsecond.streams.trans hfirst.streams
  flowController := hsecond.flowController.trans hfirst.flowController
  told := by rw [hsecond.told, hfirst.told, List.append_assoc]
  blocks other := by
    rw [hsecond.blocks, hfirst.blocks, List.mem_append, or_assoc, ← and_or_left]
  numBlockedStreams :=
    Nat.le_trans hfirst.numBlockedStreams hsecond.numBlockedStreams

theorem book_plain (hid : id ∈ ids)
    (htracks : session.writeBlockedStreams.Tracks (· ∈ ids))
    {call : TransportCall} (hplain : Plain id [call]) :
    ∃ next, { session with calls := session.calls ++ [call] }.book call =
        .ok next ∧
      next.writeBlockedStreams.Tracks (· ∈ ids) ∧
      CarriedOut session next id [call] := by
  rcases hplain call (List.mem_singleton_self _) with
    hminor | ⟨offset, data, fin, rfl⟩
  · cases hminor with
    | markConnectionLevelWriteBlocked =>
        obtain ⟨list, hadd, hlist, hblocks, hnum⟩ := htracks.addStream hid
        refine ⟨{ session with
          calls := session.calls ++ [.markConnectionLevelWriteBlocked id]
          writeBlockedStreams := list }, ?_, hlist, rfl, rfl, rfl,
          fun other => ?_, hnum⟩
        · rw [QuicSession.book, QuicSession.markConnectionLevelWriteBlocked]
          dsimp only
          rw [hadd]
          rfl
        · rw [hblocks]
          simp
    | sendBlocked controller =>
        exact ⟨_, rfl, htracks, rfl, rfl, rfl, by simp, Nat.le_refl _⟩
    | streamDraining =>
        exact ⟨_, rfl, htracks, rfl, rfl, rfl, by simp, Nat.le_refl _⟩
    | closeStream =>
        exact ⟨_, rfl, htracks, rfl, rfl, rfl, by simp, Nat.le_refl _⟩
  · obtain ⟨hlist, hblocks, hnum⟩ :=
      htracks.updateBytesForStream id data.length
    refine ⟨_, rfl, hlist, rfl, rfl, rfl, fun other => ?_, hnum.ge⟩
    rw [hblocks]
    simp

/-- By induction on the calls. -/
theorem carryOut_plain (hid : id ∈ ids)
    (htracks : session.writeBlockedStreams.Tracks (· ∈ ids))
    (hplain : Plain id calls) :
    ∃ next, session.carryOut calls = .ok next ∧
      next.writeBlockedStreams.Tracks (· ∈ ids) ∧
      CarriedOut session next id calls := by
  induction calls generalizing session with
  | nil =>
      exact ⟨session, rfl, htracks, rfl, rfl, (List.append_nil _).symm,
        by simp, Nat.le_refl _⟩
  | cons call calls ih =>
      have hfirst : Plain id [call] := fun other hmem =>
        hplain other (List.mem_singleton.mp hmem ▸ List.mem_cons_self)
      obtain ⟨middle, hbook, hmiddle, hcarried⟩ := book_plain hid htracks hfirst
      obtain ⟨next, hrest, hnext, hlater⟩ := ih hmiddle
        fun call hmem => hplain call (List.mem_cons_of_mem _ hmem)
      refine ⟨next, ?_, hnext, hcarried.trans hlater⟩
      rw [QuicSession.carryOut, hbook]
      exact hrest

structure Sending (ids : Finset Nat) (session : QuicSession β)
    (written : Nat → List UInt8) : Prop where
  tracks : session.writeBlockedStreams.Tracks (· ∈ ids)
  blocked : ∀ id, session.writeBlockedStreams.Blocks id → id ∈ ids
  named : ∀ id ∈ ids, (session.streams id).id = id
  writes : ∀ id ∈ ids, Writes (session.streams id) (written id)
  maySend : ∀ id ∈ ids, MaySend (session.context id)
  connection : session.flowController.bytesSent ≤
    session.flowController.sendWindowOffset
  connection_lt : session.flowController.sendWindowOffset < maxStreamOffset
  total : session.flowController.bytesSent =
    ∑ id ∈ ids, (session.streams id).flowController.bytesSent
  handedOver : ∀ id ∈ ids, HandedOver (written id) (handed id session.calls)
    (session.streams id).streamBytesWritten (session.streams id).finSent
  plain : ∀ call ∈ session.calls, ∃ id ∈ ids, Plain id [call]

def Attended (ids : Finset Nat) (session : QuicSession β) : Prop :=
  ∀ id ∈ ids, Awake (session.streams id)
    (session.writeBlockedStreams.Blocks id)

structure Continued (ids : Finset Nat) (session next : QuicSession β)
    (written written' : Nat → List UInt8) (granted : Nat → Nat) : Prop where
  position : ∀ id ∈ ids, (session.streams id).streamBytesWritten ≤
    (next.streams id).streamBytesWritten
  grown : ∀ id ∈ ids, written id <+: written' id
  ended : ∀ id ∈ ids, (session.streams id).finSent = true →
    (next.streams id).finSent = true ∧ written' id = written id
  window : ∀ id ∈ ids, (next.streams id).flowController.sendWindowOffset ≤
    max (session.streams id).flowController.sendWindowOffset (granted id)
  connectionWindow : next.flowController.sendWindowOffset ≤
    max session.flowController.sendWindowOffset (granted kConnectionLevelId)

structure Operated (session : QuicSession β) (id : Nat)
    (next : StreamContext β) (granted : Nat) (before after : List UInt8) :
    Prop where
  named : next.stream.id = id
  writes : Writes next.stream after
  maySend : MaySend next
  window : next.stream.flowController.sendWindowOffset ≤
    max (session.streams id).flowController.sendWindowOffset granted
  connectionWindow : next.connectionFlowController.sendWindowOffset =
    session.flowController.sendWindowOffset
  sent : ∃ count, next.stream.flowController.bytesSent =
      (session.streams id).flowController.bytesSent + count ∧
    next.connectionFlowController.bytesSent =
      session.flowController.bytesSent + count
  finSent : (session.streams id).finSent = true → next.stream.finSent = true
  plain : Plain id next.calls
  handedOver : ∀ handovers, HandedOver before handovers
      (session.streams id).streamBytesWritten (session.streams id).finSent →
    HandedOver after (handovers ++ handed id next.calls)
      next.stream.streamBytesWritten next.stream.finSent

section Adopting

variable {context : StreamContext β} {next : QuicSession β} {data : List UInt8}

theorem CarriedOut.adopted (h : CarriedOut { session with
      streams := Function.update session.streams id context.stream
      flowController := context.connectionFlowController } next id calls) :
    next.streams id = context.stream ∧
      ∀ other, other ≠ id → next.streams other = session.streams other := by
  rw [h.streams]
  exact ⟨Function.update_self _ _ _,
    fun other hother => Function.update_of_ne hother _ _⟩

theorem Sending.carried (h : Sending ids session written) (hid : id ∈ ids)
    {granted : Nat}
    (hoperated : Operated session id context granted (written id) data)
    (htracks : next.writeBlockedStreams.Tracks (· ∈ ids))
    (hcarried : CarriedOut { session with
      streams := Function.update session.streams id context.stream
      flowController := context.connectionFlowController } next id
        context.calls) :
    Sending ids next (Function.update written id data) := by
  obtain ⟨hsame, hothers⟩ := hcarried.adopted
  have hcontroller : next.flowController = context.connectionFlowController :=
    hcarried.flowController
  have htold : next.calls = session.calls ++ context.calls := hcarried.told
  have hmay := hoperated.maySend
  refine ⟨htracks, fun other hblocks => ?_, fun other hother => ?_,
    fun other hother => ?_, fun other hother => ?_,
    hcontroller ▸ hmay.connection, hcontroller ▸ hmay.connection_lt, ?_,
    fun other hother => ?_, fun call hmem => ?_⟩
  · rcases (hcarried.blocks other).mp hblocks with hold | ⟨rfl, -⟩
    · exact h.blocked other hold
    · exact hid
  · by_cases heq : other = id
    · subst heq
      rw [hsame]
      exact hoperated.named
    · rw [hothers other heq]
      exact h.named other hother
  · by_cases heq : other = id
    · subst heq
      rw [hsame, Function.update_self]
      exact hoperated.writes
    · rw [hothers other heq, Function.update_of_ne heq]
      exact h.writes other hother
  · unfold QuicSession.context
    rw [hcontroller]
    by_cases heq : other = id
    · subst heq
      rw [hsame]
      exact ⟨hmay.stream, hmay.stream_lt, hmay.connection, hmay.connection_lt⟩
    · rw [hothers other heq]
      have hold := h.maySend other hother
      exact ⟨hold.stream, hold.stream_lt, hmay.connection, hmay.connection_lt⟩
  · obtain ⟨count, hstream, hconnection⟩ := hoperated.sent
    rw [hcontroller, hconnection, h.total, hcarried.streams]
    exact (sum_update_add hid (·.flowController.bytesSent) session.streams
      context.stream count hstream).symm
  · rw [htold, handed_append]
    by_cases heq : other = id
    · subst heq
      rw [hsame, Function.update_self]
      exact hoperated.handedOver _ (h.handedOver other hother)
    · rw [hothers other heq, Function.update_of_ne heq,
        handed_plain hoperated.plain heq, List.append_nil]
      exact h.handedOver other hother
  · rw [htold] at hmem
    rcases List.mem_append.mp hmem with hmem | hmem
    · exact h.plain call hmem
    · refine ⟨id, hid, fun other hother => ?_⟩
      obtain rfl := List.mem_singleton.mp hother
      exact hoperated.plain other hmem

theorem Sending.continued (h : Sending ids session written)
    {granted : Nat → Nat}
    (hoperated : Operated session id context (granted id) (written id) data)
    (hgrown : written id <+: data)
    (hended : (session.streams id).finSent = true → data = written id)
    (hcarried : CarriedOut { session with
      streams := Function.update session.streams id context.stream
      flowController := context.connectionFlowController } next id
        context.calls) :
    Continued ids session next written (Function.update written id data)
      granted := by
  obtain ⟨hsame, hothers⟩ := hcarried.adopted
  refine ⟨fun other hother => ?_, fun other _ => ?_, fun other _ => ?_,
    fun other _ => ?_, ?_⟩
  · by_cases heq : other = id
    · subst heq
      obtain ⟨count, hstream, -⟩ := hoperated.sent
      rw [hsame, ← hoperated.writes.sent, hstream,
        ← (h.writes other hother).sent]
      exact Nat.le_add_right _ _
    · rw [hothers other heq]
  · by_cases heq : other = id
    · subst heq
      rwa [Function.update_self]
    · rw [Function.update_of_ne heq]
  · by_cases heq : other = id
    · subst heq
      rw [hsame, Function.update_self]
      exact fun hsent => ⟨hoperated.finSent hsent, hended hsent⟩
    · rw [hothers other heq, Function.update_of_ne heq]
      exact fun hsent => ⟨hsent, rfl⟩
  · by_cases heq : other = id
    · subst heq
      rw [hsame]
      exact hoperated.window
    · rw [hothers other heq]
      exact Nat.le_max_left _ _
  · rw [show next.flowController = context.connectionFlowController from
      hcarried.flowController, hoperated.connectionWindow]
    exact Nat.le_max_left _ _

theorem Sending.adopt (h : Sending ids session written) (hid : id ∈ ids)
    (granted : Nat → Nat)
    (hoperated : Operated session id context (granted id) (written id) data)
    (hgrown : written id <+: data)
    (hended : (session.streams id).finSent = true → data = written id) :
    ∃ next, session.adopt id context = .ok next ∧
      Sending ids next (Function.update written id data) ∧
      Continued ids session next written (Function.update written id data)
        granted ∧
      CarriedOut { session with
        streams := Function.update session.streams id context.stream
        flowController := context.connectionFlowController } next id
          context.calls := by
  obtain ⟨next, hcarry, htracks, hcarried⟩ := carryOut_plain hid
    (show ({ session with
      streams := Function.update session.streams id context.stream
      flowController := context.connectionFlowController } :
        QuicSession β).writeBlockedStreams.Tracks (· ∈ ids) from h.tracks)
    hoperated.plain
  exact ⟨next, hcarry, h.carried hid hoperated htracks hcarried,
    h.continued hoperated hgrown hended hcarried, hcarried⟩

end Adopting

theorem Awake.mono {stream : ReliableQuicStream β} {marked more : Prop}
    (h : Awake stream marked) (hmore : marked → more) : Awake stream more :=
  Or.imp_right (Or.imp_right hmore) h

theorem CarriedOut.attended {context : StreamContext β} {next : QuicSession β}
    (h : CarriedOut { session with
      streams := Function.update session.streams id context.stream
      flowController := context.connectionFlowController } next id calls)
    (hothers : ∀ other ∈ ids, other ≠ id → Awake (session.streams other)
      (session.writeBlockedStreams.Blocks other))
    (hawake : Awake context.stream (session.writeBlockedStreams.Blocks id ∨
      .markConnectionLevelWriteBlocked id ∈ calls)) : Attended ids next := by
  intro other hother
  rw [h.streams]
  by_cases heq : other = id
  · subst heq
    dsimp only
    rw [Function.update_self]
    exact hawake.mono fun hmarked =>
      (h.blocks other).mpr (hmarked.imp_right fun hmem => ⟨rfl, hmem⟩)
  · dsimp only
    rw [Function.update_of_ne heq]
    exact (hothers other hother heq).mono fun hblocks =>
      (h.blocks other).mpr (.inl hblocks)

theorem Wrote.operated {context : StreamContext β} {before after : List UInt8}
    {byteOffset : Nat} (hnamed : (session.streams id).id = id)
    (h : Wrote ((session.context id).granted byteOffset) context after calls)
    (hmono : ∀ handovers, HandedOver before handovers
        (session.streams id).streamBytesWritten (session.streams id).finSent →
      HandedOver after handovers (session.streams id).streamBytesWritten
        (session.streams id).finSent) :
    Operated session id context byteOffset before after ∧
      context.calls = calls := by
  have hcalls : context.calls = calls := h.told
  have hid : ((session.context id).granted byteOffset).stream.id = id := hnamed
  refine ⟨⟨h.id.trans hnamed, h.writes, h.maySend, h.window.le,
    h.connectionWindow, h.sent, h.finSent, ?_, fun handovers hhanded => ?_⟩,
    hcalls⟩
  · rw [hcalls, ← hid]
    exact h.plain
  · have := h.handedOver handovers (hmono handovers hhanded)
    rwa [hid, ← hcalls] at this

theorem granted_zero (context : StreamContext β) :
    context.granted 0 = context := by
  unfold StreamContext.granted
  rw [Nat.max_eq_left (Nat.zero_le _)]

theorem adopt_context :
    session.adopt id (session.context id) = .ok session := by
  unfold QuicSession.adopt QuicSession.context
  dsimp only
  rw [Function.update_eq_self]
  rfl

/-- Whether `WriteOrBufferData` takes the data, or only complains. -/
def ReliableQuicStream.takes (stream : ReliableQuicStream β)
    (data : List UInt8) (fin : Bool) : Bool :=
  !(data.isEmpty && !fin) && !stream.finBuffered && !stream.writeSideClosed

theorem writeOrBufferData_refused {context : StreamContext β}
    {data : List UInt8} {fin : Bool} (writer : SessionWriter)
    (h : context.stream.takes data fin = false) :
    context.writeOrBufferData writer data fin = context := by
  unfold ReliableQuicStream.takes at h
  unfold StreamContext.writeOrBufferData
  by_cases hempty : (data.isEmpty && !fin) = true
  · rw [if_pos hempty]
  · rw [if_neg hempty]
    by_cases hbuffered : context.stream.finBuffered = true
    · rw [if_pos hbuffered]
    · rw [if_neg hbuffered, if_pos]
      simpa [hempty, hbuffered] using h

theorem Continued.refl (granted : Nat → Nat) :
    Continued ids session session written written granted where
  position _ _ := Nat.le_refl _
  grown _ _ := List.prefix_rfl
  ended _ _ hsent := ⟨hsent, rfl⟩
  window _ _ := Nat.le_max_left _ _
  connectionWindow := Nat.le_max_left _ _

theorem Sending.writeOrBufferData (h : Sending ids session written)
    (hattended : Attended ids session) (hid : id ∈ ids)
    {writer : SessionWriter} (hcontract : SessionContract writer)
    (data : List UInt8) (fin : Bool)
    (hlength : (written id).length + data.length < maxStreamOffset) :
    ∃ next, session.writeOrBufferData id writer data fin = .ok next ∧
      Sending ids next (Function.update written id
        (if (session.streams id).takes data fin then written id ++ data
          else written id)) ∧
      Continued ids session next written (Function.update written id
        (if (session.streams id).takes data fin then written id ++ data
          else written id)) (fun _ => 0) ∧
      Attended ids next := by
  have hwrites := h.writes id hid
  unfold QuicSession.writeOrBufferData
  cases htakes : (session.streams id).takes data fin with
  | false =>
      rw [writeOrBufferData_refused writer
        (show (session.context id).stream.takes data fin = false from htakes),
        adopt_context, if_neg Bool.false_ne_true, Function.update_eq_self]
      exact ⟨session, rfl, h, .refl _, hattended⟩
  | true =>
      unfold ReliableQuicStream.takes at htakes
      simp only [Bool.and_eq_true, Bool.not_eq_true', Bool.and_eq_false_iff,
        Bool.not_eq_false'] at htakes
      obtain ⟨⟨hdata, hopen⟩, hclosed⟩ := htakes
      have hunsent := hwrites.closed.symm.trans hclosed
      obtain ⟨calls, hwrote, -, hawake⟩ := writeOrBufferData_wrote data fin
        hcontract (show Writes (session.context id).stream (written id)
          from hwrites) (h.maySend id hid) hopen (by simpa using hdata) hlength
      rw [← granted_zero (session.context id)] at hwrote
      obtain ⟨hoperated, hcalls⟩ := hwrote.operated (h.named id hid)
        (fun handovers hhanded => by
          rw [hunsent] at hhanded ⊢
          exact hhanded.mono data)
      rw [granted_zero] at hoperated hcalls
      obtain ⟨next, hadopt, hnext, hcontinued, hcarried⟩ :=
        h.adopt hid (fun _ => 0) hoperated (List.prefix_append _ _)
          (fun hsent => by simp [hunsent] at hsent)
      rw [if_pos rfl]
      refine ⟨next, hadopt, hnext, hcontinued, hcarried.attended
        (fun other hother _ => hattended other hother) ?_⟩
      have hlater := hawake _ (hattended id hid)
      rw [show (session.context id).stream.id = id from h.named id hid]
        at hlater
      rw [hcalls]
      exact hlater

theorem Sending.onWindowUpdateFrame (h : Sending ids session written)
    (hattended : Attended ids session) (hid : id ∈ ids) (hzero : id ≠ 0)
    {writer : SessionWriter} (hcontract : SessionContract writer)
    {byteOffset : Nat} (hoffset : byteOffset < maxStreamOffset) :
    ∃ next, session.onWindowUpdateFrame id byteOffset writer = .ok next ∧
      Sending ids next written ∧
      Continued ids session next written written
        (Function.update (fun _ => 0) id byteOffset) ∧
      Attended ids next := by
  obtain ⟨calls, hwrote, hawake⟩ := onWindowUpdateFrame_wrote hcontract
    (show Writes (session.context id).stream (written id)
      from h.writes id hid) (h.maySend id hid) hoffset
  obtain ⟨hoperated, hcalls⟩ :=
    hwrote.operated (h.named id hid) (fun _ hhanded => hhanded)
  obtain ⟨next, hadopt, hnext, hcontinued, hcarried⟩ :=
    h.adopt hid (Function.update (fun _ => 0) id byteOffset)
      (by rw [Function.update_self]; exact hoperated) List.prefix_rfl
      (fun _ => rfl)
  rw [Function.update_eq_self] at hnext hcontinued
  unfold QuicSession.onWindowUpdateFrame
  rw [if_neg (show ¬id = kConnectionLevelId from hzero)]
  refine ⟨next, hadopt, hnext, hcontinued, hcarried.attended
    (fun other hother _ => hattended other hother) ?_⟩
  have hlater := hawake _ (hattended id hid)
  rw [show (session.context id).stream.id = id from h.named id hid] at hlater
  rw [hcalls]
  exact hlater

theorem Sending.onConnectionWindowUpdate (h : Sending ids session written)
    (hattended : Attended ids session) (writer : SessionWriter)
    {byteOffset : Nat}
    (hoffset : byteOffset < maxStreamOffset) :
    ∃ next, session.onWindowUpdateFrame kConnectionLevelId byteOffset writer =
        .ok next ∧
      Sending ids next written ∧
      Continued ids session next written written
        (Function.update (fun _ => 0) kConnectionLevelId byteOffset) ∧
      Attended ids next := by
  have hupdate : ∃ offset,
      (session.flowController.updateSendWindowOffset byteOffset).2 =
        { session.flowController with sendWindowOffset := offset } ∧
      session.flowController.sendWindowOffset ≤ offset ∧
      offset ≤ max session.flowController.sendWindowOffset byteOffset := by
    unfold QuicFlowController.updateSendWindowOffset
    split
    · exact ⟨_, rfl, Nat.le_refl _, Nat.le_max_left _ _⟩
    · exact ⟨_, rfl, by omega, Nat.le_max_right _ _⟩
  obtain ⟨offset, hupdate, hmore, hless⟩ := hupdate
  have hold := h.connection
  have hlt := h.connection_lt
  unfold QuicSession.onWindowUpdateFrame
  rw [if_pos rfl, hupdate]
  refine ⟨_, rfl, ⟨h.tracks, h.blocked, h.named, h.writes,
    fun other hother => ?_, ?_, ?_, h.total, h.handedOver, h.plain⟩,
    ⟨fun _ _ => Nat.le_refl _, fun _ _ => List.prefix_rfl,
      fun _ _ hsent => ⟨hsent, rfl⟩, fun _ _ => Nat.le_max_left _ _, ?_⟩,
    hattended⟩
  · have hmay := h.maySend other hother
    exact ⟨hmay.stream, hmay.stream_lt, Nat.le_trans hold hmore,
      by dsimp only [QuicSession.context]; omega⟩
  · exact Nat.le_trans hold hmore
  · dsimp only
    omega
  · rw [Function.update_self]
    exact hless

theorem Continued.trans {middle next : QuicSession β}
    {granted : Nat → Nat} (hfirst : Continued ids session middle written written
      granted)
    (hsecond : Continued ids middle next written written granted) :
    Continued ids session next written written granted where
  position other hother := Nat.le_trans (hfirst.position other hother)
    (hsecond.position other hother)
  grown _ _ := List.prefix_rfl
  ended other hother hsent :=
    hsecond.ended other hother (hfirst.ended other hother hsent).1
  window other hother := by
    have hone := hfirst.window other hother
    have htwo := hsecond.window other hother
    omega
  connectionWindow := by
    have hone := hfirst.connectionWindow
    have htwo := hsecond.connectionWindow
    omega

theorem Sending.writeStream (h : Sending ids session written)
    (hid : id ∈ ids) (hattended : ∀ other ∈ ids, other ≠ id →
      Awake (session.streams other)
        (session.writeBlockedStreams.Blocks other))
    {writer : SessionWriter} (hcontract : SessionContract writer) :
    ∃ next, session.writeStream id writer = .ok next ∧
      Sending ids next written ∧
      Continued ids session next written written (fun _ => 0) ∧
      Attended ids next ∧
      session.writeBlockedStreams.numBlockedStreams ≤
        next.writeBlockedStreams.numBlockedStreams := by
  unfold QuicSession.writeStream
  split
  next hblocked =>
    refine ⟨session, rfl, h, .refl _, fun other hother => ?_, Nat.le_refl _⟩
    by_cases heq : other = id
    · exact heq ▸ .inr (.inl hblocked)
    · exact hattended other hother heq
  next =>
    obtain ⟨calls, hwrote, hawake⟩ := onCanWrite_wrote hcontract
      (show Writes (session.context id).stream (written id)
        from h.writes id hid) (h.maySend id hid)
    rw [← granted_zero (session.context id)] at hwrote
    obtain ⟨hoperated, hcalls⟩ :=
      hwrote.operated (h.named id hid) (fun _ hhanded => hhanded)
    rw [granted_zero] at hoperated hcalls
    obtain ⟨next, hadopt, hnext, hcontinued, hcarried⟩ :=
      h.adopt hid (fun _ => 0) hoperated List.prefix_rfl (fun _ => rfl)
    rw [Function.update_eq_self] at hnext hcontinued
    refine ⟨next, hadopt, hnext, hcontinued, hcarried.attended hattended ?_,
      hcarried.numBlockedStreams⟩
    rw [show (session.context id).stream.id = id from h.named id hid] at hawake
    rw [hcalls]
    exact hawake.mono .inr

/-- As many turns as there were blocked streams: by induction on them. -/
theorem Sending.writeTurns (h : Sending ids session written)
    (hattended : Attended ids session) {turns : List SessionWriter}
    (hcontracts : ∀ writer ∈ turns, SessionContract writer)
    (hturns : turns.length ≤ session.writeBlockedStreams.numBlockedStreams) :
    ∃ next, session.writeTurns turns = .ok next ∧
      Sending ids next written ∧
      Continued ids session next written written (fun _ => 0) ∧
      Attended ids next := by
  induction turns generalizing session with
  | nil => exact ⟨session, rfl, h, .refl _, hattended⟩
  | cons writer turns ih =>
      rw [List.length_cons] at hturns
      rw [List.forall_mem_cons] at hcontracts
      have hpos : 0 < session.writeBlockedStreams.numBlockedStreams := by omega
      obtain ⟨id, list, hpop, hblocks, htracks, hrest, hnum⟩ :=
        h.tracks.popFront hpos
      have hid := h.blocked id hblocks
      have hpopped : Sending ids { session with writeBlockedStreams := list }
          written :=
        ⟨htracks, fun other hother =>
            h.blocked other ((hrest other).mp hother).1,
          h.named, h.writes, h.maySend, h.connection, h.connection_lt, h.total,
          h.handedOver, h.plain⟩
      obtain ⟨middle, hwrite, hmiddle, hcontinued, hawake, hmore⟩ :=
        hpopped.writeStream hid (fun other hother hne =>
          (hattended other hother).mono fun hmarked =>
            (hrest other).mpr ⟨hmarked, hne⟩) hcontracts.1
      obtain ⟨next, hlater, hnext, hgone, hlast⟩ := ih hmiddle hawake
        hcontracts.2 (by dsimp only at hmore; omega)
      have hstarted : Continued ids session middle written written
          (fun _ => 0) :=
        ⟨hcontinued.position, hcontinued.grown, hcontinued.ended,
          hcontinued.window, hcontinued.connectionWindow⟩
      refine ⟨next, ?_, hnext, hstarted.trans hgone, hlast⟩
      unfold QuicSession.writeTurns
      rw [if_neg (by
        rw [QuicWriteBlockedList.numBlockedStreams_pos.mp hpos]
        simp), hpop]
      dsimp only
      rw [hwrite]
      exact hlater

theorem Sending.onCanWrite (h : Sending ids session written)
    (hattended : Attended ids session) {turns : List SessionWriter}
    (hcontracts : ∀ writer ∈ turns, SessionContract writer) :
    ∃ next, session.onCanWrite turns = .ok next ∧
      Sending ids next written ∧
      Continued ids session next written written (fun _ => 0) ∧
      Attended ids next := by
  unfold QuicSession.onCanWrite
  refine h.writeTurns hattended
    (fun writer hmem => hcontracts writer (List.mem_of_mem_take hmem)) ?_
  rw [List.length_take]
  refine Nat.le_trans (Nat.min_le_left _ _) ?_
  split
  · unfold QuicWriteBlockedList.numBlockedStreams
    omega
  · exact Nat.le_refl _

end Sessions

end RevSDK
