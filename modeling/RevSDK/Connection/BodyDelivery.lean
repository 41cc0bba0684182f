import Mathlib.Data.List.TakeWhile
import RevSDK.Connection.LiveStreams
import RevSDK.Connection.StreamOperations

/-!
# The body that a stream delivers

Chunks wait in `mCacheList` until the headers are delivered, and the next
chunk or the close flushes them.  Before the close, what was delivered and
what still waits are together the chunks that were handed over.  A chunk that
the library hands over after it has closed its stream, in the same event, is
still passed on, behind `onQUICStreamCompleted`.
-/

namespace RevSDK

open RevSDK.Foundation

namespace StreamCall

def data? : StreamCall → Option Data
  | .onQUICStreamReceivedData aData => some aData
  | _ => none

def isResponse : StreamCall → Bool
  | .onQUICStreamReceivedResponse _ _ => true
  | _ => false

end StreamCall

def dataOf (calls : List StreamCall) : List Data :=
  calls.filterMap StreamCall.data?

/-- No data stands before the first response. -/
def Answered (calls : List StreamCall) : Prop :=
  dataOf (calls.takeWhile fun call => !call.isResponse) = []

instance (calls : List StreamCall) : Decidable (Answered calls) :=
  inferInstanceAs (Decidable (_ = _))

/--
Each chunk that is not empty was passed on once and in order, behind a response
and before the end.
-/
def PassedInTime (chunks : List Data) (calls : List StreamCall) : Prop :=
  ∃ told rest, calls = told ++ .onQUICStreamCompleted :: rest ∧
    .onQUICStreamCompleted ∉ told ∧ Answered told ∧
    dataOf told = chunks.filter (!·.isEmpty) ∧ dataOf rest = []

def PassedLate (calls : List StreamCall) : Prop :=
  ∃ told rest, calls = told ++ .onQUICStreamCompleted :: rest ∧
    dataOf rest ≠ []

section Calls

variable {chunks : List Data} {calls : List StreamCall}

@[simp] theorem dataOf_append (first second : List StreamCall) :
    dataOf (first ++ second) = dataOf first ++ dataOf second :=
  List.filterMap_append

@[simp] theorem dataOf_data (pieces : List Data) :
    dataOf (pieces.map .onQUICStreamReceivedData) = pieces := by
  induction pieces with
  | nil => rfl
  | cons piece pieces ih =>
      rw [List.map_cons]
      exact congrArg (piece :: ·) ih

theorem answered_of_dataOf_nil (hnone : dataOf calls = []) :
    Answered calls := by
  refine List.eq_nil_iff_forall_not_mem.mpr fun aData hdata => ?_
  obtain ⟨call, hcall, hpassed⟩ := List.mem_filterMap.mp hdata
  have hmem : aData ∈ dataOf calls := List.mem_filterMap.mpr
    ⟨call, (List.takeWhile_subset _) hcall, hpassed⟩
  simp [hnone] at hmem

theorem Answered.append (hanswered : Answered calls) {new : List StreamCall}
    (hnew : Answered new ∨ ∃ call ∈ calls, call.isResponse = true) :
    Answered (calls ++ new) := by
  unfold Answered
  rw [List.takeWhile_append]
  split
  next hall =>
    rcases hnew with hnew | ⟨call, hcall, his⟩
    · have hcalls := (List.takeWhile_prefix _).eq_of_length hall
      rw [dataOf_append, hnew, ← hcalls, hanswered]
      rfl
    · have hnot := List.takeWhile_eq_self_iff.mp
        ((List.takeWhile_prefix _).eq_of_length hall) call hcall
      simp [his] at hnot
  next => exact hanswered

theorem PassedInTime.bytes (h : PassedInTime chunks calls) :
    (dataOf calls).flatMap Data.bytes = chunks.flatMap Data.bytes := by
  obtain ⟨told, rest, rfl, -, -, htold, hrest⟩ := h
  have hcompleted : dataOf (.onQUICStreamCompleted :: rest) = [] := hrest
  rw [dataOf_append, htold, hcompleted, List.append_nil]
  clear htold hrest hcompleted
  induction chunks with
  | nil => rfl
  | cons chunk chunks ih =>
      cases hempty : chunk.isEmpty with
      | true =>
          have hbytes : chunk.bytes = [] := by simpa [Data.isEmpty] using hempty
          simpa [hempty, hbytes] using ih
      | false => simpa [hempty] using ih

theorem PassedInTime.not_late (h : PassedInTime chunks calls) :
    ¬ PassedLate calls := by
  rintro ⟨early, late, hcalls, hlate⟩
  obtain ⟨told, rest, rfl, hfirst, -, -, hrest⟩ := h
  rcases List.append_eq_append_iff.mp hcalls with
    ⟨between, rfl, hbehind⟩ | ⟨between, rfl, hbehind⟩
  · rcases between with _ | ⟨call, between⟩
    · obtain rfl := (List.cons.inj hbehind).2
      exact hlate hrest
    · obtain ⟨-, rfl⟩ := List.cons.inj hbehind
      change dataOf (between ++ _) = [] at hrest
      rw [dataOf_append] at hrest
      exact hlate (List.append_eq_nil_iff.mp hrest).2
  · rcases between with _ | ⟨call, between⟩
    · obtain rfl := (List.cons.inj hbehind).2
      exact hlate hrest
    · obtain ⟨rfl, -⟩ := List.cons.inj hbehind
      exact hfirst (by simp)

theorem PassedInTime.append (h : PassedInTime chunks calls)
    {new : List StreamCall} (hnone : dataOf new = []) :
    PassedInTime chunks (calls ++ new) := by
  obtain ⟨told, rest, rfl, hfirst, hanswered, hwhole, hrest⟩ := h
  refine ⟨told, rest ++ new, by simp, hfirst, hanswered, hwhole, ?_⟩
  rw [dataOf_append, hrest, hnone, List.append_nil]

theorem PassedLate.append (h : PassedLate calls) (new : List StreamCall) :
    PassedLate (calls ++ new) := by
  obtain ⟨told, rest, rfl, hlate⟩ := h
  refine ⟨told, rest ++ new, by simp, ?_⟩
  rw [dataOf_append]
  exact List.append_ne_nil_of_left_ne_nil hlate _

end Calls

namespace QUICDataStream

structure Delivering (chunks : List Data) (stream : QUICDataStream)
    (calls : List StreamCall) : Prop where
  working : stream.mFailed = false
  pending : .onQUICStreamCompleted ∉ calls
  whole : dataOf calls ++ stream.mCacheList = chunks.filter (!·.isEmpty)
  answered : Answered calls
  headed : stream.mHeadersDelivered = true →
    ∃ call ∈ calls, call.isResponse = true

structure Delivered (chunks : List Data) (stream : QUICDataStream)
    (calls : List StreamCall) : Prop where
  working : stream.mFailed = false
  headed : stream.mHeadersDelivered = true
  flushed : stream.mCacheList = []
  passed : PassedInTime chunks calls

section Delivery

variable {chunks : List Data} {stream : QUICDataStream}
  {calls : List StreamCall}

theorem delivering_nil : Delivering [] {} [] where
  working := rfl
  pending := List.not_mem_nil
  whole := rfl
  answered := answered_of_dataOf_nil rfl
  headed h := nomatch h

theorem Delivering.next (h : Delivering chunks stream calls)
    {stream' : QUICDataStream} {new : List StreamCall} {more : List Data}
    (hworking : stream'.mFailed = false)
    (hpending : .onQUICStreamCompleted ∉ new)
    (hwhole : dataOf new ++ stream'.mCacheList =
      stream.mCacheList ++ more.filter (!·.isEmpty))
    (hanswered : Answered new ∨ stream.mHeadersDelivered = true)
    (hheaded : stream'.mHeadersDelivered = true →
      stream.mHeadersDelivered = true ∨ ∃ call ∈ new, call.isResponse = true) :
    Delivering (chunks ++ more) stream' (calls ++ new) where
  working := hworking
  pending := by
    rw [List.mem_append]
    exact fun hmem => hmem.elim h.pending hpending
  whole := by
    rw [List.filter_append, ← h.whole, dataOf_append, List.append_assoc, hwhole,
      List.append_assoc]
  answered := h.answered.append (hanswered.imp_right h.headed)
  headed hdelivered := by
    rcases hheaded hdelivered with hearlier | ⟨call, hcall, his⟩
    · obtain ⟨call, hcall, his⟩ := h.headed hearlier
      exact ⟨call, List.mem_append_left _ hcall, his⟩
    · exact ⟨call, List.mem_append_right _ hcall, his⟩

theorem Delivering.should_add_incoming_data
    (h : Delivering chunks stream calls) (aData : Data) :
    Delivering (chunks ++ [aData])
      (stream.should_add_incoming_data aData).1
      (calls ++ (stream.should_add_incoming_data aData).2) := by
  unfold QUICDataStream.should_add_incoming_data
  cases hdelivered : stream.mHeadersDelivered with
  | true =>
      rw [if_pos rfl]
      refine h.next h.working ?_ ?_ (.inr hdelivered) (fun _ => .inl hdelivered)
      · cases aData.isEmpty <;> simp
      · rw [dataOf_append, dataOf_data]
        cases hempty : aData.isEmpty <;> simp [hempty, dataOf, StreamCall.data?]
  | false =>
      rw [if_neg (by decide)]
      cases hempty : aData.isEmpty with
      | true =>
          rw [if_pos rfl]
          exact h.next h.working (by simp) (by simp [dataOf, hempty]) (.inl rfl)
            .inl
      | false =>
          rw [if_neg (by decide)]
          exact h.next h.working (by simp) (by simp [dataOf, hempty]) (.inl rfl)
            nofun

theorem Delivering.onInitialHeadersComplete
    (h : Delivering chunks stream calls) (responseCode : Int)
    (headers : SpdyHeaderBlock) :
    Delivering chunks
      (stream.onInitialHeadersComplete responseCode headers).1
      (calls ++ (stream.onInitialHeadersComplete responseCode headers).2) := by
  unfold QUICDataStream.onInitialHeadersComplete
  rw [if_neg (by simp [h.working]), ← List.append_nil chunks]
  exact h.next h.working (by simp) (by simp [dataOf, StreamCall.data?])
    (.inl rfl) (fun _ => .inr ⟨_, List.mem_singleton_self _, rfl⟩)

theorem Delivering.onStreamFrame (h : Delivering chunks stream calls) :
    Delivering chunks stream.onStreamFrame calls := by
  unfold QUICDataStream.onStreamFrame
  rw [if_neg (by simp [h.working])]
  exact { h with }

theorem Delivering.close (h : Delivering chunks stream calls)
    (responseCode : Int) (headers : SpdyHeaderBlock) :
    Delivered chunks (stream.onVisitorSentClose responseCode headers).1
      (calls ++ (stream.onVisitorSentClose responseCode headers).2) := by
  rw [onVisitorSentClose_eq h.working]
  refine ⟨h.working, rfl, rfl, _, [], (List.append_assoc _ _ _).symm, ?_⟩
  have hflushed : Delivering (chunks ++ [])
      { stream with
        mHeadersDelivered := true, mCacheList := [], mInitialMS := 0 }
      (calls ++ ((if stream.mHeadersDelivered then []
        else [.onQUICStreamReceivedResponse responseCode headers]) ++
          stream.mCacheList.map .onQUICStreamReceivedData)) := by
    cases hdelivered : stream.mHeadersDelivered with
    | true =>
        rw [if_pos rfl, List.nil_append]
        exact h.next h.working (by simp) (by simp [dataOf_data])
          (.inr hdelivered) (fun _ => .inl hdelivered)
    | false =>
        rw [if_neg (by decide)]
        refine h.next h.working (by simp) ?_ (.inl ?_)
          (fun _ => .inr ⟨_, List.mem_cons_self, rfl⟩)
        · rw [dataOf_append, dataOf_data]
          simp [dataOf, StreamCall.data?]
        · simp [Answered, StreamCall.isResponse, dataOf]
  have hwhole := hflushed.whole
  rw [List.append_nil, List.append_nil] at hwhole
  exact ⟨hflushed.pending, hflushed.answered, hwhole, rfl⟩

theorem Delivered.next (h : Delivered chunks stream calls)
    {stream' : QUICDataStream} {new : List StreamCall} {more : List Data}
    (hworking : stream'.mFailed = false)
    (hheaded : stream'.mHeadersDelivered = true)
    (hflushed : stream'.mCacheList = []) (hnone : dataOf new = [])
    (hempty : more.filter (!·.isEmpty) = []) :
    Delivered (chunks ++ more) stream' (calls ++ new) where
  working := hworking
  headed := hheaded
  flushed := hflushed
  passed := by
    have hpassed := h.passed.append hnone
    unfold PassedInTime
    rw [List.filter_append, hempty, List.append_nil]
    exact hpassed

theorem Delivered.add_empty (h : Delivered chunks stream calls) {aData : Data}
    (hempty : aData.isEmpty = true) :
    Delivered (chunks ++ [aData])
      (stream.should_add_incoming_data aData).1
      (calls ++ (stream.should_add_incoming_data aData).2) := by
  unfold QUICDataStream.should_add_incoming_data
  rw [if_pos h.headed, if_pos hempty, h.flushed]
  exact h.next h.working h.headed rfl rfl (by simp [hempty])

theorem Delivered.add_late (h : Delivered chunks stream calls) {aData : Data}
    (hfull : aData.isEmpty = false) :
    PassedLate (calls ++ (stream.should_add_incoming_data aData).2) := by
  obtain ⟨told, rest, rfl, -, -, -, -⟩ := h.passed
  unfold QUICDataStream.should_add_incoming_data
  rw [if_pos h.headed, h.flushed]
  refine ⟨told, rest ++ [.onQUICStreamReceivedData aData], by simp [hfull], ?_⟩
  rw [dataOf_append]
  exact List.append_ne_nil_of_right_ne_nil _ (by simp [dataOf, StreamCall.data?])

theorem Delivered.onInitialHeadersComplete (h : Delivered chunks stream calls)
    (responseCode : Int) (headers : SpdyHeaderBlock) :
    Delivered chunks
      (stream.onInitialHeadersComplete responseCode headers).1
      (calls ++ (stream.onInitialHeadersComplete responseCode headers).2) := by
  unfold QUICDataStream.onInitialHeadersComplete
  rw [if_neg (by simp [h.working]), ← List.append_nil chunks]
  exact h.next h.working rfl h.flushed rfl rfl

theorem Delivered.onStreamFrame (h : Delivered chunks stream calls) :
    Delivered chunks stream.onStreamFrame calls := by
  unfold QUICDataStream.onStreamFrame
  rw [if_neg (by simp [h.working])]
  exact { h with }

end Delivery

end QUICDataStream

end RevSDK
