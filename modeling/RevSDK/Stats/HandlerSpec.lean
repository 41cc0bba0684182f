import RevSDK.Stats.RequestStatsHandler

/-!
# What each operation of the statistics handler does

In a well-formed handler every record is non-empty, every transaction holds a
record and the transaction numbers are distinct and already drawn.  There each
operation returns, and the equations below say with what.
-/

namespace RevSDK

open RevSDK.Foundation
open DataStorage

namespace RequestStatsHandler

structure WellFormed (handler : RequestStatsHandler) (gID : Int) : Prop where
  queued : ∀ record ∈ handler.mRequestsDataVector, record.length ≠ 0
  pending : ∀ transaction ∈ handler.mSentData,
    transaction.PendingData ≠ [] ∧
      ∀ record ∈ transaction.PendingData, record.length ≠ 0
  distinct : (handler.mSentData.map Transaction.ID).Nodup
  drawn : ∀ transaction ∈ handler.mSentData, transaction.ID ≤ gID

theorem construct_wellFormed (file : RequestsFile) (gID : Int) :
    (construct file).WellFormed gID where
  queued := loadRequestsData_nonempty file
  pending := by simp [construct]
  distinct := by simp [construct]
  drawn := by simp [construct]

theorem WellFormed.destroy_eq_ok {handler : RequestStatsHandler} {gID : Int}
    (hwf : handler.WellFormed gID) : handler.destroy = .ok () :=
  Outcome.forM_eq_ok _ _ fun transaction h =>
    transaction.destroy_eq_ok (hwf.pending transaction h).1

/-- `int32_t` counts that a caller may ask for. -/
def ValidCount (count : Int) : Prop := 0 < count ∧ count < 2 ^ 31

instance (count : Int) : Decidable (ValidCount count) :=
  inferInstanceAs (Decidable (_ ∧ _))

theorem ValidCount.take_ne_nil {count : Int} (hcount : ValidCount count)
    {records : List Data} (hrecords : records ≠ []) :
    records.take count.toNat ≠ [] := by
  have hpos := hcount.1
  simp only [ne_eq, List.take_eq_nil_iff, hrecords, or_false]
  omega

theorem clamped_take {count : Int} (hcount : ValidCount count)
    (records : List Data) :
    let offset := if toSizeT count > records.length then toInt32 records.length
      else count
    0 ≤ offset ∧ offset ≤ records.length ∧ toSizeT offset = offset.toNat ∧
      records.take offset.toNat = records.take count.toNat ∧
      records.drop offset.toNat = records.drop count.toNat := by
  obtain ⟨hpos, hlt⟩ := hcount
  have hsize : toSizeT count = count.toNat := by
    unfold toSizeT
    omega
  intro offset
  by_cases hlarge : toSizeT count > records.length
  · have hoffset : offset = records.length := by
      simp only [offset, if_pos hlarge, toInt32, Int.bmod]
      omega
    have hle : records.length ≤ count.toNat := by omega
    rw [hoffset]
    refine ⟨by omega, Int.le_refl _, ?_, ?_, ?_⟩
    · unfold toSizeT
      omega
    · simp [List.take_of_length_le hle]
    · simp [List.drop_eq_nil_of_le hle]
  · have hoffset : offset = count := if_neg hlarge
    rw [hoffset]
    exact ⟨by omega, by omega, hsize, rfl, rfl⟩

theorem createTransaction_spec (handler : RequestStatsHandler) (gID : Int)
    {count : Int} (hcount : ValidCount count)
    (hqueue : handler.mRequestsDataVector ≠ []) :
    createTransaction handler gID count =
      .ok (⟨gID + 1, handler.mRequestsDataVector.take count.toNat⟩,
        { handler with
          mRequestsDataVector :=
            handler.mRequestsDataVector.drop count.toNat },
        gID + 1) := by
  obtain ⟨hnonneg, hle, hsizeT, htake, hdrop⟩ :=
    clamped_take hcount handler.mRequestsDataVector
  have hlength : handler.mRequestsDataVector.length ≠ 0 := by
    simpa using hqueue
  have hfilled := hcount.take_ne_nil hqueue
  unfold createTransaction
  simp only [Transaction.create]
  generalize (if toSizeT count > handler.mRequestsDataVector.length
    then toInt32 handler.mRequestsDataVector.length else count) = offset at *
  have hrange : ¬ (offset < 0 ∨
      offset > handler.mRequestsDataVector.length) := by omega
  have hfirst : (handler.mRequestsDataVector.length != 0) = true := by
    simpa using hlength
  have hfilledLength :
      ((handler.mRequestsDataVector.take count.toNat).length != 0) = true := by
    simpa using hfilled
  rw [if_neg hrange, hsizeT, htake, hdrop, hfirst, hfilledLength,
    Transaction.destroy_eq_ok _ hfilled]
  cases hend : (offset.toNat == handler.mRequestsDataVector.length) <;>
    simp [bne, hend, pure, Except.pure]

theorem WellFormed.dispatch {handler : RequestStatsHandler} {gID : Int}
    (hwf : handler.WellFormed gID) {count : Int} (hcount : ValidCount count)
    (hqueue : handler.mRequestsDataVector ≠ []) :
    WellFormed
      ⟨handler.mRequestsDataVector.drop count.toNat,
        handler.mSentData ++
          [⟨gID + 1, handler.mRequestsDataVector.take count.toNat⟩]⟩
      (gID + 1) where
  queued record hrecord :=
    hwf.queued record (List.mem_of_mem_drop hrecord)
  pending transaction htransaction := by
    rcases List.mem_append.mp htransaction with hold | hnew
    · exact hwf.pending transaction hold
    · obtain rfl := List.mem_singleton.mp hnew
      exact ⟨hcount.take_ne_nil hqueue, fun record hrecord =>
        hwf.queued record (List.mem_of_mem_take hrecord)⟩
  distinct := by
    rw [List.map_append, List.nodup_append]
    refine ⟨hwf.distinct, by simp, ?_⟩
    rintro id hid _ hnew rfl
    obtain rfl : id = gID + 1 := by simpa using hnew
    obtain ⟨transaction, htransaction, hsame⟩ := List.mem_map.mp hid
    have hdrawn := hwf.drawn transaction htransaction
    omega
  drawn transaction htransaction := by
    rcases List.mem_append.mp htransaction with hold | hnew
    · have hdrawn := hwf.drawn transaction hold
      omega
    · obtain rfl := List.mem_singleton.mp hnew
      exact Int.le_refl _

theorem requestsData_empty (pack : List Data → Data)
    (handler : RequestStatsHandler) (gID count : Int)
    (hqueue : handler.mRequestsDataVector = []) :
    requestsData pack handler gID count =
      .ok (⟨none, none, pack []⟩, handler, gID) := by
  simp [requestsData, hqueue, pure, Except.pure]

theorem requestsData_filled (pack : List Data → Data)
    {handler : RequestStatsHandler} (gID : Int)
    (hfilled : ∀ slot ∈ handler.mSentData, slot.PendingData ≠ [])
    {count : Int} (hcount : ValidCount count)
    (hqueue : handler.mRequestsDataVector ≠ []) :
    requestsData pack handler gID count =
      .ok (⟨some (gID + 1), some (gID + 1),
          pack (handler.mRequestsDataVector.take count.toNat)⟩,
        ⟨handler.mRequestsDataVector.drop count.toNat,
          handler.mSentData ++
            [⟨gID + 1, handler.mRequestsDataVector.take count.toNat⟩]⟩,
        gID + 1) := by
  have hempty : handler.mRequestsDataVector.isEmpty = false := by
    simpa using hqueue
  have htaken := hcount.take_ne_nil hqueue
  have hpush := pushBack_eq_ok handler.mSentData
    ⟨gID + 1, handler.mRequestsDataVector.take count.toNat⟩ hfilled
  have hdestroy := Transaction.destroy_eq_ok
    ⟨gID + 1, handler.mRequestsDataVector.take count.toNat⟩ htaken
  simp [requestsData, hempty, createTransaction_spec handler gID hcount hqueue,
    hpush, hdestroy, pure, Except.pure]

theorem requestsData_spec (pack : List Data → Data)
    {handler : RequestStatsHandler} {gID : Int} (hwf : handler.WellFormed gID)
    {count : Int} (hcount : ValidCount count)
    (hqueue : handler.mRequestsDataVector ≠ []) :
    requestsData pack handler gID count =
      .ok (⟨some (gID + 1), some (gID + 1),
          pack (handler.mRequestsDataVector.take count.toNat)⟩,
        ⟨handler.mRequestsDataVector.drop count.toNat,
          handler.mSentData ++
            [⟨gID + 1, handler.mRequestsDataVector.take count.toNat⟩]⟩,
        gID + 1) :=
  requestsData_filled pack gID (fun slot hslot => (hwf.pending slot hslot).1)
    hcount hqueue

theorem transaction_cases (sent : List Transaction) (key : Int) :
    (∀ transaction ∈ sent, transaction.ID ≠ key) ∨
      ∃ front transaction back, sent = front ++ transaction :: back ∧
        transaction.ID = key ∧ ∀ earlier ∈ front, earlier.ID ≠ key := by
  induction sent with
  | nil => exact .inl (by simp)
  | cons first rest ih =>
      by_cases hfirst : first.ID = key
      · exact .inr ⟨[], first, rest, rfl, hfirst, by simp⟩
      · rcases ih with hnone | ⟨front, transaction, back, rfl, hid, hfront⟩
        · exact .inl (by simpa [hfirst] using hnone)
        · exact .inr ⟨first :: front, transaction, back, rfl, hid,
            by simpa [hfirst] using hfront⟩

theorem findIdx?_missing {sent : List Transaction} {key : Int}
    (h : ∀ transaction ∈ sent, transaction.ID ≠ key) :
    sent.findIdx? (fun it => key == it.ID) = none := by
  rw [List.findIdx?_eq_none_iff]
  intro transaction htransaction
  simpa using Ne.symm (h transaction htransaction)

theorem findIdx?_found {front : List Transaction} (back : List Transaction)
    {transaction : Transaction} {key : Int} (hid : transaction.ID = key)
    (hfront : ∀ earlier ∈ front, earlier.ID ≠ key) :
    (front ++ transaction :: back).findIdx? (fun it => key == it.ID) =
      some front.length := by
  rw [List.findIdx?_append, findIdx?_missing hfront]
  simp [List.findIdx?_cons, hid]

theorem restoreTransaction_missing (handler : RequestStatsHandler) {key : Int}
    (h : ∀ transaction ∈ handler.mSentData, transaction.ID ≠ key) :
    restoreTransaction handler key = .ok handler := by
  simp [restoreTransaction, findIdx?_missing h]

section Found

variable {handler : RequestStatsHandler} {gID key : Int}
  {front back : List Transaction} {transaction : Transaction}

theorem eraseAt_found (hwf : handler.WellFormed gID)
    (hsent : handler.mSentData = front ++ transaction :: back) :
    eraseAt handler.mSentData front.length = .ok (front ++ back) := by
  rw [eraseAt_eq_ok _ _ (by simp [hsent])
    fun slot hslot => (hwf.pending slot hslot).1, hsent]
  simp [List.eraseIdx_append_of_length_le]

theorem restoreTransaction_found (hwf : handler.WellFormed gID)
    (hsent : handler.mSentData = front ++ transaction :: back)
    (hid : transaction.ID = key)
    (hfront : ∀ earlier ∈ front, earlier.ID ≠ key) :
    restoreTransaction handler key =
      .ok ⟨handler.mRequestsDataVector ++ transaction.PendingData,
        front ++ back⟩ := by
  have hfind := findIdx?_found back hid hfront
  rw [← hsent] at hfind
  have hpending : (handler.mSentData[front.length]?.map
      (·.PendingData)).getD [] = transaction.PendingData := by
    simp [hsent]
  simp only [restoreTransaction, hfind, eraseAt_found hwf hsent, hpending]
  rfl

end Found

theorem deleteRequestsData_spec (handler : RequestStatsHandler)
    (file : RequestsFile)
    (hqueued : ∀ record ∈ handler.mRequestsDataVector, record.length ≠ 0) :
    ∃ file', deleteRequestsData handler file = .ok file' ∧
      loadRequestsData file' = handler.mRequestsDataVector := by
  unfold deleteRequestsData
  by_cases hempty : handler.mRequestsDataVector = []
  · exact ⟨none, by simp [hempty, DataStorage.deleteRequestsData],
      by simp [hempty, loadRequestsData]⟩
  · obtain ⟨file', hsave, hload⟩ := saveRequestDataVec_spec
      (DataStorage.deleteRequestsData file) _ hqueued
    have hpos : handler.mRequestsDataVector.length > 0 :=
      List.length_pos_iff.mpr hempty
    exact ⟨file', by simpa [hpos] using hsave, by simpa using hload⟩

theorem deleteTransaction_missing {handler : RequestStatsHandler} {gID : Int}
    (hwf : handler.WellFormed gID) (file : RequestsFile) {key : Int}
    (h : ∀ transaction ∈ handler.mSentData, transaction.ID ≠ key) :
    ∃ file', deleteTransaction handler file key = .ok (handler, file') ∧
      loadRequestsData file' = handler.mRequestsDataVector := by
  obtain ⟨file', hdelete, hload⟩ :=
    deleteRequestsData_spec handler file hwf.queued
  refine ⟨file', ?_, hload⟩
  simp [deleteTransaction, findIdx?_missing h, hdelete, pure, Except.pure]

theorem deleteTransaction_found {handler : RequestStatsHandler} {gID : Int}
    (hwf : handler.WellFormed gID) (file : RequestsFile) {key : Int}
    {front back : List Transaction} {transaction : Transaction}
    (hsent : handler.mSentData = front ++ transaction :: back)
    (hid : transaction.ID = key)
    (hfront : ∀ earlier ∈ front, earlier.ID ≠ key) :
    ∃ file', deleteTransaction handler file key =
        .ok (⟨handler.mRequestsDataVector, front ++ back⟩, file') ∧
      loadRequestsData file' = handler.mRequestsDataVector := by
  have hfind := findIdx?_found back hid hfront
  rw [← hsent] at hfind
  obtain ⟨file', hdelete, hload⟩ := deleteRequestsData_spec
    ⟨handler.mRequestsDataVector, front ++ back⟩ file hwf.queued
  refine ⟨file', ?_, hload⟩
  simp [deleteTransaction, hfind, eraseAt_found hwf hsent, hdelete, pure,
    Except.pure]

end RequestStatsHandler

end RevSDK
