import RevSDK.Foundation.Courier
import RevSDK.Stats.StatsHandler

/-!
# The handler of request records as a courier

The queue and the transactions of a handler are a courier of records.  Whatever
an operation of the handler returns, it has done the courier's step.
-/

namespace RevSDK

open RevSDK.Foundation

namespace RequestStatsHandler

def courier (handler : RequestStatsHandler) : Courier Data where
  queue := handler.mRequestsDataVector
  sent := handler.mSentData.map Transaction.PendingData

/-- Where the transaction with this number is. -/
def position (handler : RequestStatsHandler) (key : Int) : Option Nat :=
  handler.mSentData.findIdx? (fun it => key == it.ID)

section Steps

variable {handler handler' : RequestStatsHandler}

theorem eraseAt_ok {slots slots' : List Transaction} {index : Nat}
    (hindex : index < slots.length)
    (hreturns : eraseAt slots index = .ok slots') :
    slots' = slots.eraseIdx index := by
  obtain ⟨last, -, hshift⟩ :=
    shiftDown_cons slots[index] (slots.drop (index + 1))
  rw [← List.drop_eq_getElem_cons hindex] at hshift
  have hshifted : slots.take index ++ shiftDown (slots.drop index) =
      slots.eraseIdx index ++ [last] := by
    rw [hshift, List.eraseIdx_eq_take_drop_succ, List.append_assoc]
  unfold eraseAt at hreturns
  dsimp only at hreturns
  rw [hshifted, List.getLast?_concat] at hreturns
  obtain ⟨-, -, hslots⟩ := (Outcome.bind_eq_ok _ _ _).mp hreturns
  rw [← Except.ok.inj hslots, List.dropLast_concat]

theorem position_lt {key : Int} {index : Nat}
    (hposition : handler.position key = some index) :
    index < handler.mSentData.length :=
  (List.findIdx?_eq_some_iff_findIdx_eq.mp hposition).1

theorem addNewRequestData_courier {file file' : RequestsFile}
    {aRequestData : Data}
    (hreturns : handler.addNewRequestData file aRequestData =
      .ok (handler', file')) :
    handler'.courier = handler.courier.accept aRequestData := by
  obtain ⟨saved, -, hnext⟩ := (Outcome.bind_eq_ok _ _ _).mp hreturns
  cases Except.ok.inj hnext
  rfl

theorem restoreTransaction_eq {key : Int}
    (hreturns : handler.restoreTransaction key = .ok handler') :
    handler' =
      match handler.position key with
      | none => handler
      | some index =>
          ⟨handler.mRequestsDataVector ++
              (handler.mSentData[index]?.map (·.PendingData)).getD [],
            handler.mSentData.eraseIdx index⟩ := by
  unfold restoreTransaction at hreturns
  cases hposition : handler.position key with
  | none =>
      unfold position at hposition
      rw [hposition] at hreturns
      exact (Except.ok.inj hreturns).symm
  | some index =>
      have hindex := position_lt hposition
      unfold position at hposition
      rw [hposition] at hreturns
      obtain ⟨slots, herase, hnext⟩ := (Outcome.bind_eq_ok _ _ _).mp hreturns
      rw [← Except.ok.inj hnext, eraseAt_ok hindex herase]

theorem restoreTransaction_courier {key : Int}
    (hreturns : handler.restoreTransaction key = .ok handler') :
    handler'.courier =
      match handler.position key with
      | none => handler.courier
      | some index => handler.courier.giveBack index := by
  rw [restoreTransaction_eq hreturns]
  cases handler.position key with
  | none => rfl
  | some index =>
      simp [courier, Courier.giveBack, Courier.batch, List.eraseIdx_map]

theorem deleteTransaction_eq {file file' : RequestsFile} {key : Int}
    (hreturns : handler.deleteTransaction file key = .ok (handler', file')) :
    handler' = { handler with
        mSentData :=
          match handler.position key with
          | none => handler.mSentData
          | some index => handler.mSentData.eraseIdx index } ∧
      handler'.deleteRequestsData file = .ok file' := by
  unfold deleteTransaction at hreturns
  cases hposition : handler.position key with
  | none =>
      unfold position at hposition
      rw [hposition] at hreturns
      obtain ⟨slots, hslots, hrest⟩ := (Outcome.bind_eq_ok _ _ _).mp hreturns
      obtain ⟨saved, hsaved, hnext⟩ := (Outcome.bind_eq_ok _ _ _).mp hrest
      cases Except.ok.inj hnext
      cases Except.ok.inj hslots
      exact ⟨rfl, hsaved⟩
  | some index =>
      have hindex := position_lt hposition
      unfold position at hposition
      rw [hposition] at hreturns
      obtain ⟨slots, herase, hrest⟩ := (Outcome.bind_eq_ok _ _ _).mp hreturns
      obtain ⟨saved, hsaved, hnext⟩ := (Outcome.bind_eq_ok _ _ _).mp hrest
      cases Except.ok.inj hnext
      exact ⟨by rw [eraseAt_ok hindex herase], hsaved⟩

theorem deleteTransaction_courier {file file' : RequestsFile} {key : Int}
    (hreturns : handler.deleteTransaction file key = .ok (handler', file')) :
    handler'.courier =
      match handler.position key with
      | none => handler.courier
      | some index => handler.courier.settle index := by
  rw [(deleteTransaction_eq hreturns).1]
  cases handler.position key with
  | none => rfl
  | some index => simp [courier, Courier.settle, List.eraseIdx_map]

theorem createTransaction_eq {gID gID' count : Int}
    {transaction : Transaction}
    (hreturns : handler.createTransaction gID count =
      .ok (transaction, handler', gID')) :
    ∃ taken, 0 < taken ∧
      transaction = ⟨gID + 1, handler.mRequestsDataVector.take taken⟩ ∧
      handler' = { handler with
        mRequestsDataVector := handler.mRequestsDataVector.drop taken } ∧
      gID' = gID + 1 := by
  unfold createTransaction at hreturns
  dsimp only [Transaction.create] at hreturns
  obtain ⟨-, -, hrest⟩ := (Outcome.bind_eq_ok _ _ _).mp hreturns
  generalize (if toSizeT count > handler.mRequestsDataVector.length
    then toInt32 handler.mRequestsDataVector.length
    else count) = offset at hrest
  split at hrest
  · contradiction
  · obtain ⟨-, -, hfilling⟩ := (Outcome.bind_eq_ok _ _ _).mp hrest
    obtain ⟨_, hfilled, hlast⟩ := (Outcome.bind_eq_ok _ _ _).mp hfilling
    obtain ⟨-, -, hnext⟩ := (Outcome.bind_eq_ok _ _ _).mp hlast
    cases Except.ok.inj hnext
    refine ⟨offset.toNat, ?_, rfl, rfl, rfl⟩
    -- The last assertion is that the batch is not empty.
    refine Nat.pos_of_ne_zero fun hzero => ?_
    rw [hzero] at hfilled
    contradiction

theorem requestsData_eq {pack : List Data → Data} {gID gID' count : Int}
    {handle : ReportTransactionHanle}
    (hqueue : handler.mRequestsDataVector.isEmpty = false)
    (hreturns : handler.requestsData pack gID count =
      .ok (handle, handler', gID')) :
    ∃ taken, 0 < taken ∧
      handler' = ⟨handler.mRequestsDataVector.drop taken,
        handler.mSentData ++
          [⟨gID + 1, handler.mRequestsDataVector.take taken⟩]⟩ ∧
      gID' = gID + 1 ∧
      handle = ⟨some (gID + 1), some (gID + 1),
        pack (handler.mRequestsDataVector.take taken)⟩ := by
  unfold requestsData at hreturns
  dsimp only at hreturns
  rw [if_neg (by simp [hqueue])] at hreturns
  obtain ⟨⟨transaction, rest, gID''⟩, hcreated, hpushing⟩ :=
    (Outcome.bind_eq_ok _ _ _).mp hreturns
  obtain ⟨taken, hpos, rfl, rfl, rfl⟩ := createTransaction_eq hcreated
  obtain ⟨slots, hpush, hlast⟩ := (Outcome.bind_eq_ok _ _ _).mp hpushing
  obtain ⟨-, -, hnext⟩ := (Outcome.bind_eq_ok _ _ _).mp hlast
  obtain ⟨-, -, hslots⟩ := (Outcome.bind_eq_ok _ _ _).mp hpush
  cases Except.ok.inj hnext
  cases Except.ok.inj hslots
  have hcopy : handler.mSentData.map Transaction.copy = handler.mSentData :=
    List.map_id' _
  refine ⟨taken, hpos, ?_, rfl, ?_⟩
  · dsimp only
    rw [hcopy, Transaction.copy_eq]
  · rw [List.getLastD_concat, Transaction.copy_eq]

theorem requestsData_courier {pack : List Data → Data} {gID gID' count : Int}
    {handle : ReportTransactionHanle}
    (hreturns : handler.requestsData pack gID count =
      .ok (handle, handler', gID')) :
    ∃ taken, 0 < taken ∧ handler'.courier =
      if handler.mRequestsDataVector.isEmpty then handler.courier
      else handler.courier.dispatch taken := by
  cases hqueue : handler.mRequestsDataVector.isEmpty with
  | true =>
      unfold requestsData at hreturns
      dsimp only at hreturns
      rw [if_pos hqueue] at hreturns
      cases Except.ok.inj hreturns
      exact ⟨1, Nat.one_pos, rfl⟩
  | false =>
      obtain ⟨taken, hpos, rfl, -⟩ := requestsData_eq hqueue hreturns
      exact ⟨taken, hpos, by simp [courier, Courier.dispatch]⟩

end Steps

end RequestStatsHandler

namespace ReportWorld

def courier (world : ReportWorld) : Courier Data :=
  world.mStatsHandler.mRequestStatsHandler.courier

/-- Where the transaction is that a completion of this report asks for. -/
def position (world : ReportWorld) (index : Nat) (isNoError : Bool) :
    Option Nat :=
  match world.reports[index]? with
  | some ⟨statsData, _, .inFlight⟩ =>
      (if isNoError then statsData.cbOnSuccess else statsData.cbOnFail).bind
        world.mStatsHandler.mRequestStatsHandler.position
  | _ => none

section Steps

variable {platform : StatsPlatform} {world world' : ReportWorld}

theorem position_inFlight {index : Nat}
    {statsData : ReportTransactionHanle} {body : PropertyList}
    (hreport : world.reports[index]? = some ⟨statsData, body, .inFlight⟩)
    (isNoError : Bool) :
    world.position index isNoError =
      (if isNoError then statsData.cbOnSuccess else statsData.cbOnFail).bind
        world.mStatsHandler.mRequestStatsHandler.position := by
  unfold position
  rw [hreport]

theorem position_eq_none {index : Nat}
    (hother : ∀ statsData body,
      world.reports[index]? = some ⟨statsData, body, .inFlight⟩ → False)
    (isNoError : Bool) : world.position index isNoError = none := by
  unfold position
  split
  · next hreport => exact absurd hreport (hother _ _)
  · rfl

theorem completion_courier {index : Nat} {isNoError : Bool}
    (hreturns : world.completion index isNoError = .ok world') :
    world'.courier =
      match world.position index isNoError with
      | none => world.courier
      | some place =>
          if isNoError then world.courier.settle place
          else world.courier.giveBack place := by
  unfold completion at hreturns
  split at hreturns
  · next statsData body hreport =>
      rw [position_inFlight hreport]
      dsimp only at hreturns
      cases isNoError with
      | true =>
          rw [if_pos rfl] at hreturns
          rw [if_pos rfl]
          cases hkey : statsData.cbOnSuccess with
          | none =>
              rw [hkey] at hreturns
              rw [← Except.ok.inj hreturns]
              rfl
          | some key =>
              rw [hkey] at hreturns
              obtain ⟨⟨handler, file⟩, hdelete, hnext⟩ :=
                (Outcome.bind_eq_ok _ _ _).mp hreturns
              rw [← Except.ok.inj hnext]
              exact RequestStatsHandler.deleteTransaction_courier hdelete
      | false =>
          rw [if_neg (by decide)] at hreturns
          rw [if_neg (by decide)]
          cases hkey : statsData.cbOnFail with
          | none =>
              rw [hkey] at hreturns
              rw [← Except.ok.inj hreturns]
              rfl
          | some key =>
              rw [hkey] at hreturns
              obtain ⟨handler, hrestore, hnext⟩ :=
                (Outcome.bind_eq_ok _ _ _).mp hreturns
              rw [← Except.ok.inj hnext]
              exact RequestStatsHandler.restoreTransaction_courier hrestore
  · next hother =>
      rw [← Except.ok.inj hreturns, position_eq_none hother]

theorem createSendTransaction_courier {surroundings : Surroundings}
    {count : Int} {aAppName : String}
    (hreturns : world.createSendTransaction platform surroundings count
      aAppName = .ok world') :
    ∃ taken, 0 < taken ∧ world'.courier =
      if world.courier.queue.isEmpty then world.courier
      else world.courier.dispatch taken := by
  obtain ⟨⟨statsData, body, handler, gID, file⟩, hcreated, hnext⟩ :=
    (Outcome.bind_eq_ok _ _ _).mp hreturns
  obtain ⟨requestsData, requests, hrequests, rfl, -⟩ :=
    StatsHandler.createSendTransaction_spec platform hcreated
  rw [← Except.ok.inj hnext]
  exact RequestStatsHandler.requestsData_courier hrequests

end Steps

end ReportWorld

end RevSDK
