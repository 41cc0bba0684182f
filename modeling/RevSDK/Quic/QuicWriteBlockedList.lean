import RevSDK.Quic.SchedulerOrder

/-!
# The streams that wait to write

The crypto stream and the headers stream come before all data streams, which
wait in the scheduler.  A data stream that writes while others of its priority
wait may go on until it has written its batch.
-/

namespace RevSDK

open RevSDK.Foundation

def kCryptoStreamId : Nat := 1

def kHeadersStreamId : Nat := 3

def kBatchWriteSize : Int := 16000

structure QuicWriteBlockedList where
  priorityWriteScheduler : PriorityWriteScheduler Nat := {}
  batchWriteStreamId : Nat → Nat := fun _ => 0
  bytesLeftForBatchWrite : Nat → Int := fun _ => 0
  lastPriorityPopped : Nat := 0
  cryptoStreamBlocked : Bool := false
  headersStreamBlocked : Bool := false

namespace QuicWriteBlockedList

def hasWriteBlockedDataStreams (list : QuicWriteBlockedList) : Bool :=
  list.priorityWriteScheduler.hasReadyStreams

def hasWriteBlockedCryptoOrHeadersStream (list : QuicWriteBlockedList) :
    Bool :=
  list.cryptoStreamBlocked || list.headersStreamBlocked

def numBlockedStreams (list : QuicWriteBlockedList) : Nat :=
  list.priorityWriteScheduler.numReadyStreams +
    list.cryptoStreamBlocked.toNat + list.headersStreamBlocked.toNat

/-- The popped data stream keeps, loses or begins its batch. -/
def latch (list : QuicWriteBlockedList) (id : Nat) : QuicWriteBlockedList :=
  let priority := list.priorityWriteScheduler.getStreamPriority id
  if list.priorityWriteScheduler.numReadyStreamsOf priority = 0 then
    { list with
      batchWriteStreamId := Function.update list.batchWriteStreamId priority 0
      lastPriorityPopped := priority }
  else if list.batchWriteStreamId priority ≠ id then
    { list with
      batchWriteStreamId := Function.update list.batchWriteStreamId priority id
      bytesLeftForBatchWrite :=
        Function.update list.bytesLeftForBatchWrite priority kBatchWriteSize
      lastPriorityPopped := priority }
  else list

def popFront (list : QuicWriteBlockedList) : Nat × QuicWriteBlockedList :=
  if list.cryptoStreamBlocked then
    (kCryptoStreamId, { list with cryptoStreamBlocked := false })
  else if list.headersStreamBlocked then
    (kHeadersStreamId, { list with headersStreamBlocked := false })
  else
    let (id, priorityWriteScheduler) :=
      list.priorityWriteScheduler.popNextReadyStream
    (id, { list with priorityWriteScheduler }.latch id)

def registerStream (list : QuicWriteBlockedList) (streamId priority : Nat) :
    QuicWriteBlockedList :=
  { list with
    priorityWriteScheduler :=
      list.priorityWriteScheduler.registerStream streamId priority }

def updateBytesForStream (list : QuicWriteBlockedList) (streamId bytes : Nat) :
    QuicWriteBlockedList :=
  let priority := list.lastPriorityPopped
  if list.batchWriteStreamId priority = streamId then
    { list with
      bytesLeftForBatchWrite :=
        Function.update list.bytesLeftForBatchWrite priority
          (Int.bmod (list.bytesLeftForBatchWrite priority - bytes)
            (2 ^ 32)) }
  else list

def addStream (list : QuicWriteBlockedList) (streamId : Nat) :
    Outcome QuicWriteBlockedList :=
  if streamId = kCryptoStreamId then
    return { list with cryptoStreamBlocked := true }
  else if streamId = kHeadersStreamId then
    return { list with headersStreamBlocked := true }
  else do
    let pushFront :=
      decide (streamId = list.batchWriteStreamId list.lastPriorityPopped) &&
        decide (list.bytesLeftForBatchWrite list.lastPriorityPopped > 0)
    let priorityWriteScheduler ←
      list.priorityWriteScheduler.markStreamReady streamId pushFront
    return { list with priorityWriteScheduler }

def Blocks (list : QuicWriteBlockedList) (streamId : Nat) : Prop :=
  list.cryptoStreamBlocked = true ∧ streamId = kCryptoStreamId ∨
    list.headersStreamBlocked = true ∧ streamId = kHeadersStreamId ∨
    streamId ∈ list.priorityWriteScheduler.roster.queue

structure Tracks (list : QuicWriteBlockedList) (ids : Nat → Prop) : Prop where
  kept : list.priorityWriteScheduler.Kept
  registered : ∀ id, ids id →
    list.priorityWriteScheduler.roster.priority id ≠ none
  data : ∀ id, list.priorityWriteScheduler.roster.priority id ≠ none →
    id ≠ kCryptoStreamId ∧ id ≠ kHeadersStreamId

variable {list : QuicWriteBlockedList} {ids : Nat → Prop} {id other : Nat}

@[simp] theorem latch_scheduler :
    (list.latch id).priorityWriteScheduler = list.priorityWriteScheduler := by
  unfold latch
  dsimp only
  split
  · rfl
  · split <;> rfl

@[simp] theorem latch_crypto :
    (list.latch id).cryptoStreamBlocked = list.cryptoStreamBlocked := by
  unfold latch
  dsimp only
  split
  · rfl
  · split <;> rfl

@[simp] theorem latch_headers :
    (list.latch id).headersStreamBlocked = list.headersStreamBlocked := by
  unfold latch
  dsimp only
  split
  · rfl
  · split <;> rfl

theorem numBlockedStreams_eq :
    list.numBlockedStreams = list.priorityWriteScheduler.roster.queue.length +
      list.cryptoStreamBlocked.toNat + list.headersStreamBlocked.toNat := by
  unfold numBlockedStreams
  rw [PriorityWriteScheduler.numReadyStreams_eq]

theorem numBlockedStreams_pos :
    0 < list.numBlockedStreams ↔
      (list.hasWriteBlockedCryptoOrHeadersStream ||
        list.hasWriteBlockedDataStreams) = true := by
  unfold hasWriteBlockedCryptoOrHeadersStream hasWriteBlockedDataStreams
  rw [numBlockedStreams_eq, PriorityWriteScheduler.hasReadyStreams_eq]
  cases list.cryptoStreamBlocked <;> cases list.headersStreamBlocked <;>
    cases list.priorityWriteScheduler.roster.queue <;> simp

theorem not_blocks (hpriority :
      list.hasWriteBlockedCryptoOrHeadersStream = false)
    (hdata : list.hasWriteBlockedDataStreams = false) (id : Nat) :
    ¬list.Blocks id := by
  unfold hasWriteBlockedCryptoOrHeadersStream at hpriority
  unfold hasWriteBlockedDataStreams at hdata
  rw [Bool.or_eq_false_iff] at hpriority
  rw [PriorityWriteScheduler.hasReadyStreams_eq] at hdata
  rintro (⟨hcrypto, -⟩ | ⟨hheaders, -⟩ | hmem)
  · simp [hpriority.1] at hcrypto
  · simp [hpriority.2] at hheaders
  · generalize list.priorityWriteScheduler.roster.queue = queue at *
    cases queue with
    | nil => exact absurd hmem List.not_mem_nil
    | cons first rest => simp at hdata

theorem tracks_new : ({} : QuicWriteBlockedList).Tracks fun _ => False where
  kept := PriorityWriteScheduler.kept_new
  registered _ := False.elim
  data _ := by simp [PriorityWriteScheduler.roster]

theorem Tracks.registerStream (h : list.Tracks ids)
    (hid : id ≠ kCryptoStreamId ∧ id ≠ kHeadersStreamId) (priority : Nat) :
    (list.registerStream id priority).Tracks
        (fun other => ids other ∨ other = id) ∧
      ∀ other, (list.registerStream id priority).Blocks other ↔
        list.Blocks other := by
  obtain ⟨hkept, hroster⟩ := h.kept.registerStream id priority
  unfold QuicWriteBlockedList.registerStream Blocks
  unfold Roster.perform at hroster
  dsimp only at hroster ⊢
  split at hroster
  next hthere =>
    refine ⟨⟨hkept, ?_, ?_⟩, fun other => by rw [hroster]⟩
    · rintro other (hother | rfl)
      · rw [hroster]
        exact h.registered other hother
      · rw [hroster]
        exact Option.isSome_iff_ne_none.mp hthere
    · rw [hroster]
      exact h.data
  next =>
    refine ⟨⟨hkept, ?_, ?_⟩, fun other => by rw [hroster]; rfl⟩
    · intro other hother
      rw [hroster, Roster.prioritise]
      dsimp only
      by_cases heq : other = id
      · rw [heq, Function.update_self]
        simp
      · rw [Function.update_of_ne heq]
        exact h.registered other (hother.resolve_right heq)
    · intro other
      rw [hroster, Roster.prioritise]
      dsimp only
      by_cases heq : other = id
      · exact fun _ => heq ▸ hid
      · rw [Function.update_of_ne heq]
        exact h.data other

theorem Tracks.updateBytesForStream (h : list.Tracks ids) (id bytes : Nat) :
    (list.updateBytesForStream id bytes).Tracks ids ∧
      (∀ other, (list.updateBytesForStream id bytes).Blocks other ↔
        list.Blocks other) ∧
      (list.updateBytesForStream id bytes).numBlockedStreams =
        list.numBlockedStreams := by
  unfold QuicWriteBlockedList.updateBytesForStream
  dsimp only
  split
  · exact ⟨⟨h.kept, h.registered, h.data⟩, fun _ => .rfl, rfl⟩
  · exact ⟨h, fun _ => .rfl, rfl⟩

theorem Tracks.addStream (h : list.Tracks ids) (hid : ids id) :
    ∃ next, list.addStream id = .ok next ∧ next.Tracks ids ∧
      (∀ other, next.Blocks other ↔ list.Blocks other ∨ other = id) ∧
      list.numBlockedStreams ≤ next.numBlockedStreams := by
  obtain ⟨hcrypto, hheaders⟩ := h.data id (h.registered id hid)
  unfold QuicWriteBlockedList.addStream
  rw [if_neg hcrypto, if_neg hheaders]
  dsimp only
  generalize (decide (id = list.batchWriteStreamId list.lastPriorityPopped) &&
    decide (list.bytesLeftForBatchWrite list.lastPriorityPopped > 0)) =
      pushFront
  obtain ⟨scheduler, hmark, hkept, hroster⟩ :=
    h.kept.markStreamReady id pushFront
  obtain ⟨hpriority, hqueue, hlength⟩ :=
    Roster.markStreamReady_spec pushFront (h.registered id hid)
  rw [← hroster] at hpriority hqueue hlength
  rw [hmark, Outcome.ok_bind]
  refine ⟨_, rfl, ⟨hkept, ?_, ?_⟩, fun other => ?_, ?_⟩
  · rw [hpriority]
    exact h.registered
  · rw [hpriority]
    exact h.data
  · unfold Blocks
    rw [hqueue]
    simp only [or_assoc]
  · rw [numBlockedStreams_eq, numBlockedStreams_eq]
    dsimp only
    omega

theorem Tracks.queued (h : list.Tracks ids)
    (hmem : id ∈ list.priorityWriteScheduler.roster.queue) :
    id ≠ kCryptoStreamId ∧ id ≠ kHeadersStreamId := by
  obtain ⟨priority, hinfo⟩ := h.kept.mem_queue.mp hmem
  exact h.data id (by simp [PriorityWriteScheduler.roster, hinfo])

structure Popped (list : QuicWriteBlockedList) (ids : Nat → Prop) (id : Nat)
    (next : QuicWriteBlockedList) : Prop where
  blocked : list.Blocks id
  tracks : next.Tracks ids
  others : ∀ other, next.Blocks other ↔ list.Blocks other ∧ other ≠ id
  count : next.numBlockedStreams + 1 = list.numBlockedStreams

theorem Tracks.popCrypto (h : list.Tracks ids)
    (hcrypto : list.cryptoStreamBlocked = true) :
    Popped list ids kCryptoStreamId
      { list with cryptoStreamBlocked := false } where
  blocked := .inl ⟨hcrypto, rfl⟩
  tracks := ⟨h.kept, h.registered, h.data⟩
  others other := by
    have hne : kHeadersStreamId ≠ kCryptoStreamId := by decide
    unfold Blocks
    simp only [hcrypto]
    constructor
    · rintro (⟨habsurd, -⟩ | ⟨hheaders, rfl⟩ | hmem)
      · simp at habsurd
      · exact ⟨.inr (.inl ⟨hheaders, rfl⟩), hne⟩
      · exact ⟨.inr (.inr hmem), (h.queued hmem).1⟩
    · rintro ⟨⟨-, heq⟩ | hother, hne⟩
      · exact absurd heq hne
      · exact .inr hother
  count := by
    rw [numBlockedStreams_eq, numBlockedStreams_eq, hcrypto]
    dsimp only [Bool.toNat_true, Bool.toNat_false]
    omega

theorem Tracks.popHeaders (h : list.Tracks ids)
    (hcrypto : list.cryptoStreamBlocked = false)
    (hheaders : list.headersStreamBlocked = true) :
    Popped list ids kHeadersStreamId
      { list with headersStreamBlocked := false } where
  blocked := .inr (.inl ⟨hheaders, rfl⟩)
  tracks := ⟨h.kept, h.registered, h.data⟩
  others other := by
    unfold Blocks
    simp only [hcrypto, hheaders]
    constructor
    · rintro (⟨habsurd, -⟩ | ⟨habsurd, -⟩ | hmem)
      · simp at habsurd
      · simp at habsurd
      · exact ⟨.inr (.inr hmem), (h.queued hmem).2⟩
    · rintro ⟨⟨habsurd, -⟩ | ⟨-, heq⟩ | hmem, hne⟩
      · simp at habsurd
      · exact absurd heq hne
      · exact .inr (.inr hmem)
  count := by
    rw [numBlockedStreams_eq, numBlockedStreams_eq, hheaders]
    rfl

theorem Tracks.popData (h : list.Tracks ids)
    (hcrypto : list.cryptoStreamBlocked = false)
    (hheaders : list.headersStreamBlocked = false)
    (hsome : 0 < list.numBlockedStreams) :
    ∃ id scheduler, list.priorityWriteScheduler.popNextReadyStream =
        (id, scheduler) ∧
      Popped list ids id
        ({ list with priorityWriteScheduler := scheduler }.latch id) := by
  obtain ⟨hkept, hpop⟩ := h.kept.popNextReadyStream
  generalize list.priorityWriteScheduler.popNextReadyStream = popped at *
  obtain ⟨id, scheduler⟩ := popped
  rw [Roster.perform, Prod.mk.injEq, Option.some.injEq] at hpop
  obtain ⟨hid, hroster⟩ := hpop
  rw [numBlockedStreams_eq, hcrypto, hheaders] at hsome
  obtain ⟨first, rest, hqueue⟩ :=
    List.exists_cons_of_length_pos (by simpa using hsome)
  rw [hqueue] at hid hroster
  dsimp only [List.headD_cons, List.tail_cons] at hid hroster
  subst hid
  have hnodup := h.kept.queue_nodup
  rw [hqueue, List.nodup_cons] at hnodup
  refine ⟨id, scheduler, rfl, .inr (.inr ?_), ⟨by simpa using hkept, ?_, ?_⟩,
    fun other => ?_, ?_⟩
  · rw [hqueue]
    exact List.mem_cons_self
  · simp only [latch_scheduler, hroster]
    exact h.registered
  · simp only [latch_scheduler, hroster]
    exact h.data
  · unfold Blocks
    simp only [latch_scheduler, latch_crypto, latch_headers, hroster,
      hcrypto, hheaders, hqueue, Bool.false_eq_true, false_and, false_or,
      List.mem_cons]
    constructor
    · intro hmem
      exact ⟨.inr hmem, fun hsame => hnodup.1 (hsame ▸ hmem)⟩
    · rintro ⟨hmem, hne⟩
      exact hmem.resolve_left hne
  · rw [numBlockedStreams_eq, numBlockedStreams_eq]
    simp only [latch_scheduler, latch_crypto, latch_headers, hroster,
      hcrypto, hheaders, hqueue, List.length_cons]
    simp

theorem Tracks.popFront (h : list.Tracks ids)
    (hsome : 0 < list.numBlockedStreams) :
    ∃ id next, list.popFront = (id, next) ∧ Popped list ids id next := by
  unfold QuicWriteBlockedList.popFront
  split
  next hcrypto => exact ⟨_, _, rfl, h.popCrypto hcrypto⟩
  next hcrypto =>
    rw [Bool.not_eq_true] at hcrypto
    split
    next hheaders => exact ⟨_, _, rfl, h.popHeaders hcrypto hheaders⟩
    next hheaders =>
      rw [Bool.not_eq_true] at hheaders
      obtain ⟨id, scheduler, hpop, hpopped⟩ :=
        h.popData hcrypto hheaders hsome
      rw [hpop]
      exact ⟨_, _, rfl, hpopped⟩

end QuicWriteBlockedList

end RevSDK
