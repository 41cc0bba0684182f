import RevSDK.Foundation.Outbox
import RevSDK.Foundation.Runs
import RevSDK.Stats.HandlerSpec

/-!
# Runs of the statistics handler

The world of a handler is the handler itself, the static transaction counter,
the requests file and every handle that has been given out.  A callback may be
invoked at any time and any number of times while its handler lives; `rebuild`
destroys the handler and constructs a new one from the file, in the same
process or in a new one, and no upload survives it.  `recorded` and
`acknowledged` keep the books of the run: the records loaded at the start or
added since, and the records of the transactions whose success callback ran
while they were in `mSentData`.
-/

namespace RevSDK

open RevSDK.Foundation
open DataStorage

structure Issued where
  handle : ReportTransactionHanle
  requested : Int
  deriving DecidableEq

structure StatsWorld where
  handler : RequestStatsHandler
  gID : Int
  requestsFile : RequestsFile
  issued : List Issued
  recorded : List Data
  acknowledged : List Data
  deriving DecidableEq

inductive StatsEvent where
  | addNewRequestData (aRequestData : Data)
  | requestsData (aRequestCount : Int)
  | cbOnSuccess (index : Nat)
  | cbOnFail (index : Nat)
  | deleteAllData
  | rebuild (newProcess : Bool)
  deriving DecidableEq

namespace StatsWorld

def start (file : RequestsFile) (gID : Int) : StatsWorld where
  handler := .construct file
  gID := gID
  requestsFile := file
  issued := []
  recorded := loadRequestsData file
  acknowledged := []

def pendingOf (sent : List Transaction) (key : Int) : List Data :=
  ((sent.find? (fun it => key == it.ID)).map Transaction.PendingData).getD []

def successKey (world : StatsWorld) (index : Nat) : Option Int :=
  world.issued[index]?.bind (·.handle.cbOnSuccess)

def failKey (world : StatsWorld) (index : Nat) : Option Int :=
  world.issued[index]?.bind (·.handle.cbOnFail)

def react (pack : List Data → Data) (world : StatsWorld) :
    StatsEvent → Outcome StatsWorld
  | .addNewRequestData aRequestData => do
      let (handler, file) ← world.handler.addNewRequestData
        world.requestsFile aRequestData
      return { world with
        handler := handler
        requestsFile := file
        recorded := world.recorded ++ [aRequestData] }
  | .requestsData aRequestCount => do
      let (handle, handler, gID) ← world.handler.requestsData pack
        world.gID aRequestCount
      return { world with
        handler := handler
        gID := gID
        issued := world.issued ++ [⟨handle, aRequestCount⟩] }
  | .cbOnSuccess index =>
      match world.successKey index with
      | none => .ok world
      | some key => do
          let (handler, file) ← world.handler.deleteTransaction
            world.requestsFile key
          return { world with
            handler := handler
            requestsFile := file
            acknowledged := world.acknowledged ++
              pendingOf world.handler.mSentData key }
  | .cbOnFail index =>
      match world.failKey index with
      | none => .ok world
      | some key => do
          let handler ← world.handler.restoreTransaction key
          return { world with handler := handler }
  | .deleteAllData => do
      let (handler, file) ← world.handler.deleteAllData world.requestsFile
      return { world with handler := handler, requestsFile := file }
  | .rebuild newProcess => do
      world.handler.destroy
      return { world with
        handler := .construct world.requestsFile
        gID := if newProcess then 0 else world.gID
        issued := [] }

def system (pack : List Data → Data) : EventSystem StatsWorld StatsEvent where
  initial world := ∃ file gID, world = start file gID
  step world event := (world.react pack event).toOption

/-- What the callers of the handler promise, without `deleteAllData`. -/
def Admitted (world : StatsWorld) : StatsEvent → Prop
  | .addNewRequestData aRequestData => aRequestData.length ≠ 0
  | .requestsData aRequestCount => RequestStatsHandler.ValidCount aRequestCount
  | .cbOnSuccess index => index < world.issued.length
  | .cbOnFail index => index < world.issued.length
  | .deleteAllData => False
  | .rebuild _ => True

instance (world : StatsWorld) (event : StatsEvent) :
    Decidable (world.Admitted event) := by
  cases event <;> unfold Admitted <;> infer_instance

/-- The same within the life of one handler. -/
def AdmittedOnce (world : StatsWorld) (event : StatsEvent) : Prop :=
  world.Admitted event ∧ ∀ newProcess, event ≠ .rebuild newProcess

instance (world : StatsWorld) (event : StatsEvent) :
    Decidable (world.AdmittedOnce event) := by
  unfold AdmittedOnce
  infer_instance

def AskedFor (world : StatsWorld) (transaction : Transaction) (count : Int) :
    Prop :=
  ∃ issued ∈ world.issued,
    issued.handle.cbOnSuccess = some transaction.ID ∧ issued.requested = count

structure WellFormed (world : StatsWorld) : Prop where
  handler : world.handler.WellFormed world.gID
  issuedDrawn : ∀ issued ∈ world.issued, ∀ key,
    issued.handle.cbOnSuccess = some key → key ≤ world.gID
  asked : ∀ transaction ∈ world.handler.mSentData,
    ∃ count, world.AskedFor transaction count
  bounded : ∀ transaction ∈ world.handler.mSentData, ∀ count,
    world.AskedFor transaction count →
      (transaction.PendingData.length : Int) ≤ count

/-! ## The outbox that the world implements -/

def batch (transaction : Transaction) : Multiset Data :=
  transaction.PendingData

def outbox (world : StatsWorld) : Outbox Data where
  waiting := world.handler.mRequestsDataVector
  inFlight := world.handler.mSentData.map batch
  settled := world.acknowledged
  durable := loadRequestsData world.requestsFile
  received := world.recorded

def outboxEvent (world : StatsWorld) : StatsEvent → Outbox.Event Data
  | .addNewRequestData aRequestData => .accept aRequestData
  | .requestsData aRequestCount =>
      if world.handler.mRequestsDataVector = [] then .idle
      else .dispatch
        (world.handler.mRequestsDataVector.take aRequestCount.toNat)
  | .cbOnSuccess index =>
      match world.successKey index with
      | none => .idle
      | some key =>
          match world.handler.mSentData.find? (fun it => key == it.ID) with
          | none => .resync
          | some transaction => .settle (batch transaction)
  | .cbOnFail index =>
      match world.failKey index with
      | none => .idle
      | some key =>
          match world.handler.mSentData.find? (fun it => key == it.ID) with
          | none => .idle
          | some transaction => .giveBack (batch transaction)
  | .deleteAllData => .purge
  | .rebuild _ => .recover

structure Reacts (pack : List Data → Data) (world : StatsWorld)
    (event : StatsEvent) (world' : StatsWorld) : Prop where
  returns : world.react pack event = .ok world'
  wellFormed : world'.WellFormed
  refines : Outbox.Step world.outbox (world.outboxEvent event) world'.outbox

section Reactions

variable {pack : List Data → Data} {world : StatsWorld}

theorem start_wellFormed (file : RequestsFile) (gID : Int) :
    (start file gID).WellFormed where
  handler := RequestStatsHandler.construct_wellFormed file gID
  issuedDrawn := by simp [start]
  asked := by simp [start, RequestStatsHandler.construct]
  bounded := by simp [start, RequestStatsHandler.construct]

theorem coe_append_cons_map (front back : List Transaction)
    (transaction : Transaction) :
    (((front ++ transaction :: back).map batch : List (Multiset Data)) :
        Multiset (Multiset Data)) =
      batch transaction ::ₘ ((front ++ back).map batch :
        List (Multiset Data)) := by
  rw [Multiset.cons_coe, Multiset.coe_eq_coe, List.map_append, List.map_append,
    List.map_cons]
  exact List.perm_middle

theorem inFlight_split {front back : List Transaction}
    {transaction : Transaction}
    (hsent : world.handler.mSentData = front ++ transaction :: back) :
    world.outbox.inFlight = batch transaction ::ₘ
      ((front ++ back).map batch : List (Multiset Data)) := by
  rw [← coe_append_cons_map, ← hsent]
  rfl

theorem find?_missing {sent : List Transaction} {key : Int}
    (h : ∀ transaction ∈ sent, transaction.ID ≠ key) :
    sent.find? (fun it => key == it.ID) = none := by
  rw [List.find?_eq_none]
  intro transaction htransaction
  simpa using Ne.symm (h transaction htransaction)

theorem find?_found {front : List Transaction} (back : List Transaction)
    {transaction : Transaction}
    {key : Int} (hid : transaction.ID = key)
    (hfront : ∀ earlier ∈ front, earlier.ID ≠ key) :
    (front ++ transaction :: back).find? (fun it => key == it.ID) =
      some transaction := by
  rw [List.find?_append, find?_missing hfront]
  simp [hid]

theorem AskedFor.congr {world' : StatsWorld}
    (hissued : world'.issued = world.issued) :
    world'.AskedFor = world.AskedFor := by
  unfold AskedFor
  rw [hissued]

theorem AskedFor.issue_iff {world' : StatsWorld} {issued : Issued}
    (hissued : world'.issued = world.issued ++ [issued])
    {transaction : Transaction}
    (hother : issued.handle.cbOnSuccess ≠ some transaction.ID) (count : Int) :
    world'.AskedFor transaction count ↔
      world.AskedFor transaction count := by
  simp [AskedFor, hissued, or_and_right, exists_or, hother]

theorem WellFormed.remove (hwf : world.WellFormed)
    {front back : List Transaction} {transaction : Transaction}
    (hsent : world.handler.mSentData = front ++ transaction :: back)
    {world' : StatsWorld} (hrest : world'.handler.mSentData = front ++ back)
    (hgID : world'.gID = world.gID) (hissued : world'.issued = world.issued)
    (hqueued : ∀ record ∈ world'.handler.mRequestsDataVector,
      record.length ≠ 0) :
    world'.WellFormed := by
  have hsub : List.Sublist world'.handler.mSentData
      world.handler.mSentData := by
    rw [hrest, hsent]
    exact (List.sublist_cons_self _ _).append_left front
  refine ⟨⟨hqueued, fun rest h => hwf.handler.pending rest (hsub.subset h),
    (hsub.map Transaction.ID).nodup hwf.handler.distinct, fun rest h => ?_⟩,
    ?_, fun rest h => ?_, fun rest h => ?_⟩
  · rw [hgID]
    exact hwf.handler.drawn rest (hsub.subset h)
  · rw [hgID, hissued]
    exact hwf.issuedDrawn
  · rw [AskedFor.congr hissued]
    exact hwf.asked rest (hsub.subset h)
  · rw [AskedFor.congr hissued]
    exact hwf.bounded rest (hsub.subset h)

theorem reacts_addNewRequestData (hwf : world.WellFormed)
    {aRequestData : Data} (hdata : aRequestData.length ≠ 0) :
    ∃ world', Reacts pack world (.addNewRequestData aRequestData) world' := by
  obtain ⟨file, hsave, hload⟩ :=
    saveRequestData_spec world.requestsFile aRequestData hdata
  have hreturns : world.react pack (.addNewRequestData aRequestData) =
      .ok { world with
        handler :=
          ⟨world.handler.mRequestsDataVector ++ [aRequestData],
            world.handler.mSentData⟩
        requestsFile := file
        recorded := world.recorded ++ [aRequestData] } := by
    simp [react, RequestStatsHandler.addNewRequestData, hsave, pure,
      Except.pure]
  refine ⟨_, hreturns, ?_, ?_⟩
  · refine ⟨⟨?_, hwf.handler.pending, hwf.handler.distinct,
      hwf.handler.drawn⟩, hwf.issuedDrawn, hwf.asked, hwf.bounded⟩
    intro record hrecord
    rcases List.mem_append.mp hrecord with hold | hnew
    · exact hwf.handler.queued record hold
    · rwa [List.mem_singleton.mp hnew]
  · have hsnoc : ∀ records : List Data,
        ((records ++ [aRequestData] : List Data) : Multiset Data) =
          aRequestData ::ₘ (records : Multiset Data) := fun records =>
      Multiset.coe_eq_coe.mpr (List.perm_append_singleton _ _)
    convert Outbox.Step.accept world.outbox aRequestData using 1
    · rfl
    · simp only [outbox, hload, hsnoc]

theorem WellFormed.issueNull (hwf : world.WellFormed) {issued : Issued}
    (hnull : issued.handle.cbOnSuccess = none) :
    { world with issued := world.issued ++ [issued] }.WellFormed where
  handler := hwf.handler
  issuedDrawn other hother key hkey := by
    rcases List.mem_append.mp hother with hold | hnew
    · exact hwf.issuedDrawn other hold key hkey
    · obtain rfl := List.mem_singleton.mp hnew
      simp [hnull] at hkey
  asked transaction htransaction := by
    obtain ⟨count, hasked⟩ := hwf.asked transaction htransaction
    exact ⟨count,
      (AskedFor.issue_iff rfl (by simp [hnull]) count).mpr hasked⟩
  bounded transaction htransaction count hasked :=
    hwf.bounded transaction htransaction count
      ((AskedFor.issue_iff rfl (by simp [hnull]) count).mp hasked)

def dispatched (pack : List Data → Data) (world : StatsWorld) (count : Int) :
    StatsWorld :=
  let taken := world.handler.mRequestsDataVector.take count.toNat
  { world with
    handler :=
      ⟨world.handler.mRequestsDataVector.drop count.toNat,
        world.handler.mSentData ++ [⟨world.gID + 1, taken⟩]⟩
    gID := world.gID + 1
    issued := world.issued ++
      [⟨⟨some (world.gID + 1), some (world.gID + 1), pack taken⟩, count⟩] }

theorem WellFormed.dispatched (hwf : world.WellFormed) {count : Int}
    (hcount : RequestStatsHandler.ValidCount count)
    (hqueue : world.handler.mRequestsDataVector ≠ []) :
    (world.dispatched pack count).WellFormed where
  handler := hwf.handler.dispatch hcount hqueue
  issuedDrawn issued hissued key hkey := by
    change key ≤ world.gID + 1
    rcases List.mem_append.mp hissued with hold | hnew
    · have hdrawn := hwf.issuedDrawn issued hold key hkey
      omega
    · obtain rfl := List.mem_singleton.mp hnew
      obtain rfl : world.gID + 1 = key := by simpa using hkey
      exact Int.le_refl _
  asked transaction htransaction := by
    rcases List.mem_append.mp htransaction with hold | hnew
    · obtain ⟨count', issued, hissued, hkey⟩ := hwf.asked transaction hold
      exact ⟨count', issued, List.mem_append_left _ hissued, hkey⟩
    · obtain rfl := List.mem_singleton.mp hnew
      exact ⟨count, _, List.mem_append_right _ (List.mem_singleton_self _),
        rfl, rfl⟩
  bounded transaction htransaction count' := by
    rcases List.mem_append.mp htransaction with hold | hnew
    · have hother : some (world.gID + 1) ≠ some transaction.ID := by
        have hdrawn := hwf.handler.drawn transaction hold
        rw [ne_eq, Option.some.injEq]
        omega
      rw [AskedFor.issue_iff rfl hother]
      exact hwf.bounded transaction hold count'
    · obtain rfl := List.mem_singleton.mp hnew
      rintro ⟨issued, hissued, hkey, rfl⟩
      rcases List.mem_append.mp hissued with hold | hlast
      · have hdrawn := hwf.issuedDrawn issued hold _ hkey
        exact absurd hdrawn (by simp)
      · obtain rfl := List.mem_singleton.mp hlast
        have hpos := hcount.1
        change ((world.handler.mRequestsDataVector.take
          count.toNat).length : Int) ≤ count
        rw [List.length_take]
        omega

theorem reacts_requestsData (hwf : world.WellFormed) {count : Int}
    (hcount : RequestStatsHandler.ValidCount count) :
    ∃ world', Reacts pack world (.requestsData count) world' := by
  by_cases hqueue : world.handler.mRequestsDataVector = []
  · refine ⟨{ world with
      issued := world.issued ++ [⟨⟨none, none, pack []⟩, count⟩] }, ?_,
      hwf.issueNull rfl, ?_⟩
    · simp only [react,
        RequestStatsHandler.requestsData_empty _ _ _ _ hqueue, Outcome.ok_bind]
      rfl
    · have hidle : world.outboxEvent (.requestsData count) = .idle := by
        simp [outboxEvent, hqueue]
      rw [hidle]
      exact Outbox.Step.idle world.outbox
  · refine ⟨world.dispatched pack count, ?_, hwf.dispatched hcount hqueue, ?_⟩
    · simp only [react, RequestStatsHandler.requestsData_spec pack hwf.handler
        hcount hqueue, Outcome.ok_bind]
      rfl
    · have hsplit : world.outbox.waiting =
          (world.handler.mRequestsDataVector.take count.toNat :
              Multiset Data) +
            (world.handler.mRequestsDataVector.drop count.toNat :
              Multiset Data) := by
        rw [Multiset.coe_add, List.take_append_drop]
        rfl
      have hbatches := coe_append_cons_map world.handler.mSentData []
        ⟨world.gID + 1, world.handler.mRequestsDataVector.take count.toNat⟩
      rw [List.append_nil] at hbatches
      convert Outbox.Step.dispatch world.outbox _ _ hsplit using 1
      · simp [outboxEvent, hqueue]
      · simp only [outbox, dispatched, hbatches]
        rfl

theorem reacts_cbOnSuccess (hwf : world.WellFormed) (index : Nat) :
    ∃ world', Reacts pack world (.cbOnSuccess index) world' := by
  cases hkey : world.successKey index with
  | none =>
      refine ⟨world, by simp [react, hkey], hwf, ?_⟩
      simpa [outboxEvent, hkey] using Outbox.Step.idle world.outbox
  | some key =>
      rcases RequestStatsHandler.transaction_cases world.handler.mSentData key
        with hnone | ⟨front, transaction, back, hsent, hid, hfront⟩
      · obtain ⟨file, hdelete, hload⟩ :=
          RequestStatsHandler.deleteTransaction_missing hwf.handler
            world.requestsFile hnone
        have hfind := find?_missing hnone
        have hreturns : world.react pack (.cbOnSuccess index) =
            .ok { world with requestsFile := file } := by
          simp [react, hkey, hdelete, pendingOf, hfind, pure, Except.pure]
        refine ⟨_, hreturns,
          ⟨hwf.handler, hwf.issuedDrawn, hwf.asked, hwf.bounded⟩, ?_⟩
        convert Outbox.Step.resync world.outbox using 1
        · simp [outboxEvent, hkey, hfind]
        · simp only [outbox, hload]
      · obtain ⟨file, hdelete, hload⟩ :=
          RequestStatsHandler.deleteTransaction_found hwf.handler
            world.requestsFile hsent hid hfront
        have hfind := find?_found back hid hfront
        rw [← hsent] at hfind
        have hreturns : world.react pack (.cbOnSuccess index) =
            .ok { world with
              handler :=
                ⟨world.handler.mRequestsDataVector, front ++ back⟩
              requestsFile := file
              acknowledged :=
                world.acknowledged ++ transaction.PendingData } := by
          simp [react, hkey, hdelete, pendingOf, hfind, pure, Except.pure]
        refine ⟨_, hreturns,
          hwf.remove hsent rfl rfl rfl hwf.handler.queued, ?_⟩
        have hsettled :
            ((world.acknowledged ++ transaction.PendingData : List Data) :
                Multiset Data) =
              batch transaction + (world.acknowledged : Multiset Data) :=
          Multiset.coe_eq_coe.mpr List.perm_append_comm
        convert Outbox.Step.settle world.outbox _ _ (inFlight_split hsent)
          using 1
        · simp [outboxEvent, hkey, hfind]
        · simp only [outbox, hload, hsettled]

theorem reacts_cbOnFail (hwf : world.WellFormed) (index : Nat) :
    ∃ world', Reacts pack world (.cbOnFail index) world' := by
  cases hkey : world.failKey index with
  | none =>
      refine ⟨world, by simp [react, hkey], hwf, ?_⟩
      simpa [outboxEvent, hkey] using Outbox.Step.idle world.outbox
  | some key =>
      rcases RequestStatsHandler.transaction_cases world.handler.mSentData key
        with hnone | ⟨front, transaction, back, hsent, hid, hfront⟩
      · have hrestore :=
          RequestStatsHandler.restoreTransaction_missing world.handler hnone
        have hfind := find?_missing hnone
        have hreturns : world.react pack (.cbOnFail index) = .ok world := by
          simp [react, hkey, hrestore, pure, Except.pure]
        refine ⟨world, hreturns, hwf, ?_⟩
        simpa [outboxEvent, hkey, hfind] using Outbox.Step.idle world.outbox
      · have hrestore := RequestStatsHandler.restoreTransaction_found
          hwf.handler hsent hid hfront
        have hfind := find?_found back hid hfront
        rw [← hsent] at hfind
        have hmem : transaction ∈ world.handler.mSentData := by simp [hsent]
        have hreturns : world.react pack (.cbOnFail index) =
            .ok { world with
              handler :=
                ⟨world.handler.mRequestsDataVector ++ transaction.PendingData,
                  front ++ back⟩ } := by
          simp [react, hkey, hrestore, pure, Except.pure]
        refine ⟨_, hreturns, hwf.remove hsent rfl rfl rfl ?_, ?_⟩
        · intro record hrecord
          rcases List.mem_append.mp hrecord with hold | hpending
          · exact hwf.handler.queued record hold
          · exact (hwf.handler.pending transaction hmem).2 record hpending
        · convert Outbox.Step.giveBack world.outbox _ _ (inFlight_split hsent)
            using 1
          · simp [outboxEvent, hkey, hfind]
          · simp only [outbox, batch, Multiset.coe_add]

theorem reacts_rebuild (hwf : world.WellFormed) (newProcess : Bool) :
    ∃ world', Reacts pack world (.rebuild newProcess) world' := by
  refine ⟨_, by
    simp only [react, hwf.handler.destroy_eq_ok, Outcome.ok_bind]
    rfl, ⟨RequestStatsHandler.construct_wellFormed _ _, ?_, ?_, ?_⟩, ?_⟩
  · simp
  · simp [RequestStatsHandler.construct]
  · simp [RequestStatsHandler.construct]
  · exact Outbox.Step.recover world.outbox

theorem reacts (pack : List Data → Data) (hwf : world.WellFormed) {event : StatsEvent}
    (hadmitted : world.Admitted event) :
    ∃ world', Reacts pack world event world' := by
  cases event with
  | addNewRequestData aRequestData =>
      exact reacts_addNewRequestData hwf hadmitted
  | requestsData count => exact reacts_requestsData hwf hadmitted
  | cbOnSuccess index => exact reacts_cbOnSuccess hwf index
  | cbOnFail index => exact reacts_cbOnFail hwf index
  | deleteAllData => exact absurd hadmitted not_false
  | rebuild newProcess => exact reacts_rebuild hwf newProcess

theorem reacts_of_step (hwf : world.WellFormed) {event : StatsEvent}
    (hadmitted : world.Admitted event) {world' : StatsWorld}
    (hstep : (system pack).step world event = some world') :
    Reacts pack world event world' := by
  obtain ⟨next, hreacts⟩ := reacts pack hwf hadmitted
  have hnext : (system pack).step world event = some next :=
    (Outcome.toOption_eq_some _ _).mpr hreacts.returns
  obtain rfl : next = world' := by simpa [hnext] using hstep
  exact hreacts

end Reactions

end StatsWorld

end RevSDK
