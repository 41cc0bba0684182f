import RevSDK.Stats.HandlerRuns
import Mathlib.Algebra.Order.BigOperators.Group.List
import Mathlib.Data.Multiset.OrderedMonoid

/-!
# Delivery of statistics records

The book-keeping of the outbox, read on the handler: what a crash can lose,
what a run conserves, and what never comes back after it was acknowledged.
The first depends on the rewriting of the requests file, which takes the queue
and leaves out the transactions still in flight.
-/

namespace RevSDK

open RevSDK.Foundation
open DataStorage

namespace StatsWorld

/-- The records in `mRequestsDataVector` or in a transaction of `mSentData`. -/
def owedRecords (world : StatsWorld) : Multiset Data :=
  (world.handler.mRequestsDataVector : Multiset Data) +
    (world.handler.mSentData.map batch).sum

def fileRecords (world : StatsWorld) : Multiset Data :=
  (loadRequestsData world.requestsFile : Multiset Data)

theorem owedRecords_eq (world : StatsWorld) :
    world.owedRecords = world.outbox.owed := by
  simp [owedRecords, Outbox.owed, outbox]

/--
The file holds every owed record, so the handler that is built from it owes
them too.
-/
def SurvivesCrash (pack : List Data → Data) (world : StatsWorld) : Prop :=
  world.owedRecords ≤ world.fileRecords ∧
    ∀ newProcess, ∃ world',
      world.react pack (.rebuild newProcess) = .ok world' ∧
        world.owedRecords ≤ world'.owedRecords

/-- A success callback runs only while no other transaction is in flight. -/
def SettlesAlone (world : StatsWorld) : StatsEvent → Prop
  | .cbOnSuccess index => ∀ key, world.successKey index = some key →
      ∀ transaction ∈ world.handler.mSentData, transaction.ID = key
  | _ => True

instance (world : StatsWorld) (event : StatsEvent) :
    Decidable (world.SettlesAlone event) :=
  match event with
  | .addNewRequestData _ => isTrue trivial
  | .requestsData _ => isTrue trivial
  | .cbOnSuccess index => inferInstanceAs (Decidable
      (∀ key ∈ world.successKey index,
        ∀ transaction ∈ world.handler.mSentData, transaction.ID = key))
  | .cbOnFail _ => isTrue trivial
  | .deleteAllData => isTrue trivial
  | .rebuild _ => isTrue trivial

section Runs

variable {pack : List Data → Data} {world : StatsWorld}
  {trail : List (StatsWorld × StatsEvent)}

theorem batches_sum_eq_zero (hwf : world.WellFormed)
    (transactions : List Transaction)
    (hsub : ∀ transaction ∈ transactions,
      transaction ∈ world.handler.mSentData) :
    (transactions.map batch).sum = 0 ↔ transactions = [] := by
  cases transactions with
  | nil => simp
  | cons transaction rest =>
      have hpending := (hwf.handler.pending transaction (hsub _ (by simp))).1
      simp only [reduceCtorEq, iff_false]
      intro hsum
      have hcard := congrArg Multiset.card hsum
      simp [batch, hpending] at hcard

theorem others_eq_nil_iff (hwf : world.WellFormed)
    {front back : List Transaction} {transaction : Transaction}
    (hsent : world.handler.mSentData = front ++ transaction :: back) :
    front ++ back = [] ↔
      ∀ other ∈ world.handler.mSentData, other.ID = transaction.ID := by
  have hdistinct := hwf.handler.distinct
  rw [hsent] at hdistinct ⊢
  rw [List.map_append, List.map_cons, List.nodup_append,
    List.nodup_cons] at hdistinct
  obtain ⟨-, ⟨hback, -⟩, hfront⟩ := hdistinct
  constructor
  · intro hnil
    obtain ⟨rfl, rfl⟩ := List.append_eq_nil_iff.mp hnil
    simp
  · intro hids
    refine List.eq_nil_iff_forall_not_mem.mpr fun other hother => ?_
    rcases List.mem_append.mp hother with h | h
    · exact hfront _ (List.mem_map_of_mem h) _ (List.mem_cons_self ..)
        (hids other (by simp [h]))
    · refine hback ?_
      rw [← hids other (by simp [h])]
      exact List.mem_map_of_mem h

theorem keepsCover_cbOnSuccess_iff (hwf : world.WellFormed) (index : Nat) :
    world.outbox.KeepsCover (world.outboxEvent (.cbOnSuccess index)) ↔
      world.SettlesAlone (.cbOnSuccess index) := by
  cases hkey : world.successKey index with
  | none => simp [outboxEvent, Outbox.KeepsCover, SettlesAlone, hkey]
  | some key =>
      have hsettles : world.SettlesAlone (.cbOnSuccess index) ↔
          ∀ other ∈ world.handler.mSentData, other.ID = key := by
        simp [SettlesAlone, hkey]
      rw [hsettles]
      rcases RequestStatsHandler.transaction_cases world.handler.mSentData key
        with hnone | ⟨front, transaction, back, hsent, rfl, hfront⟩
      · have hevent : world.outboxEvent (.cbOnSuccess index) = .resync := by
          simp [outboxEvent, hkey, find?_missing hnone]
        have hsum := batches_sum_eq_zero hwf
          world.handler.mSentData fun _ h => h
        rw [hevent]
        change (((world.handler.mSentData.map batch :
          List (Multiset Data)) : Multiset (Multiset Data)).sum = 0) ↔ _
        rw [Multiset.sum_coe, hsum]
        constructor
        · intro hempty
          simp [hempty]
        · intro hids
          refine List.eq_nil_iff_forall_not_mem.mpr fun other hother => ?_
          exact hnone other hother (hids other hother)
      · have hfind := find?_found back
          (rfl : transaction.ID = transaction.ID) hfront
        rw [← hsent] at hfind
        have hevent : world.outboxEvent (.cbOnSuccess index) =
            .settle (batch transaction) := by
          simp [outboxEvent, hkey, hfind]
        have hsum := batches_sum_eq_zero hwf (front ++ back)
          fun other hother => by
            rw [hsent]
            rcases List.mem_append.mp hother with h | h <;> simp [h]
        rw [hevent, ← others_eq_nil_iff hwf hsent, ← hsum]
        change (((world.handler.mSentData.map batch :
          List (Multiset Data)) : Multiset (Multiset Data)).sum =
            batch transaction) ↔ _
        rw [hsent, coe_append_cons_map, Multiset.sum_cons, add_eq_left,
          Multiset.sum_coe]

theorem keepsCover_iff (hwf : world.WellFormed) {event : StatsEvent}
    (hadmitted : world.Admitted event) :
    world.outbox.KeepsCover (world.outboxEvent event) ↔
      world.SettlesAlone event := by
  cases event with
  | addNewRequestData aRequestData =>
      simp [outboxEvent, Outbox.KeepsCover, SettlesAlone]
  | requestsData count =>
      by_cases hqueue : world.handler.mRequestsDataVector = [] <;>
        simp [outboxEvent, Outbox.KeepsCover, SettlesAlone, hqueue]
  | cbOnSuccess index => exact keepsCover_cbOnSuccess_iff hwf index
  | cbOnFail index =>
      cases hkey : world.failKey index with
      | none => simp [outboxEvent, Outbox.KeepsCover, SettlesAlone, hkey]
      | some key =>
          cases hfind : world.handler.mSentData.find?
              (fun it => key == it.ID) <;>
            simp [outboxEvent, Outbox.KeepsCover, SettlesAlone, hkey, hfind]
  | deleteAllData => exact absurd hadmitted not_false
  | rebuild newProcess => simp [outboxEvent, Outbox.KeepsCover, SettlesAlone]

theorem survivesCrash_of_covered (hwf : world.WellFormed)
    (hcovered : world.outbox.Covered) : world.SurvivesCrash pack := by
  have hfile : world.owedRecords ≤ world.fileRecords := by
    rw [owedRecords_eq]
    exact hcovered
  refine ⟨hfile, fun newProcess => ?_⟩
  refine ⟨_, by
    simp only [react, hwf.handler.destroy_eq_ok, Outcome.ok_bind]
    rfl, hfile.trans ?_⟩
  simp [fileRecords, owedRecords, RequestStatsHandler.construct]

/--
A crash loses no record at any point of a run exactly when every success
callback of the run is invoked while no other transaction is in flight.
-/
theorem survivesCrash_iff_settlesAlone
    (path : (system pack).Path Admitted trail world) :
    EventSystem.Throughout (SurvivesCrash pack) trail world ↔
      EventSystem.Obeys SettlesAlone trail := by
  refine path.throughout_iff_obeys
    (fun world => world.WellFormed ∧ world.outbox.Covered) ?_ ?_ ?_ ?_
  · rintro _ ⟨file, gID, rfl⟩
    refine ⟨start_wellFormed file gID, ?_⟩
    simp [Outbox.Covered, Outbox.owed, outbox, start,
      RequestStatsHandler.construct]
  · rintro world event world' ⟨hwf, hcovered⟩ hadmitted halone hstep
    have hreacts := reacts_of_step hwf hadmitted hstep
    exact ⟨hreacts.wellFormed,
      hreacts.refines.covered ((keepsCover_iff hwf hadmitted).mpr halone)
        hcovered⟩
  · rintro world event world' ⟨hwf, -⟩ hadmitted halone hstep hsurvives
    have hreacts := reacts_of_step hwf hadmitted hstep
    refine hreacts.refines.not_covered
      (fun hkeeps => halone ((keepsCover_iff hwf hadmitted).mp hkeeps)) ?_
    rw [Outbox.Covered, ← owedRecords_eq]
    exact hsurvives.1
  · rintro world ⟨hwf, hcovered⟩
    exact survivesCrash_of_covered hwf hcovered

def overtakingUploads : List StatsEvent :=
  [.addNewRequestData ⟨[1]⟩, .requestsData 1, .addNewRequestData ⟨[2]⟩,
    .requestsData 1, .cbOnSuccess 1]

theorem overtakingUploads_lose_record :
    ∃ world, (system fun _ => ⟨[]⟩).Reachable Admitted world ∧
      (system fun _ => ⟨[]⟩).replay Admitted (start none 0) overtakingUploads =
        some world ∧
      ¬ world.SurvivesCrash fun _ => ⟨[]⟩ := by
  refine ⟨⟨⟨[], [⟨1, [⟨[1]⟩]⟩]⟩, 2, none,
    [⟨⟨some 1, some 1, ⟨[]⟩⟩, 1⟩, ⟨⟨some 2, some 2, ⟨[]⟩⟩, 1⟩],
    [⟨[1]⟩, ⟨[2]⟩], [⟨[2]⟩]⟩, ?_, by decide, ?_⟩
  · exact EventSystem.Reachable.replay overtakingUploads
      (.start ⟨none, 0, rfl⟩) (by decide)
  · rintro ⟨hfile, -⟩
    simp [owedRecords, fileRecords, batch, loadRequestsData] at hfile

def failedThenSettled : List StatsEvent :=
  [.addNewRequestData ⟨[1]⟩, .requestsData 1, .addNewRequestData ⟨[2]⟩,
    .requestsData 1, .cbOnFail 0, .cbOnSuccess 1]

theorem survivesCrash_iff_settlesAlone_run :
    ∃ trail world, (system fun _ => ⟨[]⟩).Path Admitted trail world ∧
      trail.map Prod.snd = failedThenSettled ∧
      EventSystem.Throughout (SurvivesCrash fun _ => ⟨[]⟩) trail world ∧
      world.owedRecords = {⟨[1]⟩} := by
  obtain ⟨trail, world, path, halone, hevents, hlast⟩ :=
    EventSystem.exists_run (system fun _ => ⟨[]⟩) Admitted SettlesAlone
      (s := start none 0) failedThenSettled
      (fun world => world.handler = ⟨[⟨[1]⟩], []⟩) ⟨none, 0, rfl⟩ (by decide)
  refine ⟨trail, world, path, hevents,
    (survivesCrash_iff_settlesAlone path).mpr halone, ?_⟩
  rw [owedRecords, of_decide_eq_true hlast]
  rfl

theorem wellFormed_of_reachable
    (hreach : (system pack).Reachable Admitted world) : world.WellFormed := by
  refine hreach.invariant _ ?_ fun world event world' hwf hadmitted hstep =>
    (reacts_of_step hwf hadmitted hstep).wellFormed
  rintro _ ⟨file, gID, rfl⟩
  exact start_wellFormed file gID

theorem Reachable.admitted
    (hreach : (system pack).Reachable AdmittedOnce world) :
    (system pack).Reachable Admitted world := by
  induction hreach with
  | start h => exact .start h
  | next _ hallowed hstep ih => exact .next ih hallowed.1 hstep

theorem outboxEvent_ne_recover {event : StatsEvent}
    (hlives : ∀ newProcess, event ≠ .rebuild newProcess) :
    world.outboxEvent event ≠ .recover := by
  cases event with
  | rebuild newProcess => exact absurd rfl (hlives newProcess)
  | addNewRequestData aRequestData => simp [outboxEvent]
  | deleteAllData => simp [outboxEvent]
  | _ =>
      simp only [outboxEvent]
      repeat' split
      all_goals simp

theorem outboxEvent_ne_purge {event : StatsEvent}
    (hadmitted : world.Admitted event) : world.outboxEvent event ≠ .purge := by
  cases event with
  | deleteAllData => exact absurd hadmitted not_false
  | addNewRequestData aRequestData => simp [outboxEvent]
  | rebuild newProcess => simp [outboxEvent]
  | _ =>
      simp only [outboxEvent]
      repeat' split
      all_goals simp

theorem conserved_of_reachable
    (hreach : (system pack).Reachable AdmittedOnce world) :
    world.outbox.Conserved := by
  refine (hreach.invariant (fun world =>
    world.WellFormed ∧ world.outbox.Conserved) ?_ ?_).2
  · rintro _ ⟨file, gID, rfl⟩
    refine ⟨start_wellFormed file gID, ?_⟩
    simp [Outbox.Conserved, Outbox.owed, outbox, start,
      RequestStatsHandler.construct]
  · rintro world event world' ⟨hwf, hconserved⟩ ⟨hadmitted, hlives⟩ hstep
    have hreacts := reacts_of_step hwf hadmitted hstep
    refine ⟨hreacts.wellFormed, hreacts.refines.conserved ?_ ?_ hconserved⟩
    · exact outboxEvent_ne_recover fun newProcess h => hlives newProcess h
    · exact outboxEvent_ne_purge hadmitted

/--
In the life of a handler no record is lost, duplicated or in two places, and
no assertion of `createTransaction` or `~Transaction` fails.
-/
theorem records_conserved
    (hreach : (system pack).Reachable AdmittedOnce world) :
    (world.recorded : Multiset Data) =
        world.owedRecords + (world.acknowledged : Multiset Data) ∧
      (world.handler.mSentData.map Transaction.ID).Nodup ∧
      (∀ transaction ∈ world.handler.mSentData,
        1 ≤ transaction.PendingData.length ∧
          (∃ count, world.AskedFor transaction count) ∧
          ∀ count, world.AskedFor transaction count →
            (transaction.PendingData.length : Int) ≤ count) ∧
      (∀ event, world.AdmittedOnce event →
        ∃ world', world.react pack event = .ok world') ∧
      world.handler.destroy = .ok () := by
  have hwf := wellFormed_of_reachable (Reachable.admitted hreach)
  refine ⟨?_, hwf.handler.distinct, fun transaction h => ⟨?_, hwf.asked _ h,
    hwf.bounded _ h⟩, fun event hadmitted => ?_, hwf.handler.destroy_eq_ok⟩
  · rw [owedRecords_eq]
    exact conserved_of_reachable hreach
  · exact List.length_pos_iff.mpr (hwf.handler.pending transaction h).1
  · obtain ⟨world', hreacts⟩ := reacts pack hwf hadmitted.1
    exact ⟨world', hreacts.returns⟩

def acknowledgedUpload : StatsWorld where
  handler := ⟨[], []⟩
  gID := 1
  requestsFile := none
  issued := [⟨⟨some 1, some 1, ⟨[]⟩⟩, 1⟩]
  recorded := [⟨[1]⟩]
  acknowledged := [⟨[1]⟩]

theorem acknowledgedUpload_reachable :
    (system fun _ => ⟨[]⟩).Reachable AdmittedOnce acknowledgedUpload :=
  EventSystem.Reachable.replay
    [.addNewRequestData ⟨[1]⟩, .requestsData 1, .cbOnSuccess 0]
    (.start ⟨none, 0, rfl⟩) (by decide)

theorem acknowledgedUpload_conserved :
    (acknowledgedUpload.recorded : Multiset Data) =
      acknowledgedUpload.owedRecords +
        (acknowledgedUpload.acknowledged : Multiset Data) :=
  (records_conserved acknowledgedUpload_reachable).1

/--
The file holds only owed records, and what is owed or acknowledged was
recorded that often: an acknowledged record is not queued or sent again, with
any number of rebuilt handlers in between.
-/
theorem acknowledged_not_resurrected
    (hreach : (system pack).Reachable Admitted world) :
    world.fileRecords ≤ world.owedRecords ∧
      world.owedRecords + (world.acknowledged : Multiset Data) ≤
        (world.recorded : Multiset Data) ∧
      ∀ record ∈ world.acknowledged, world.recorded.count record = 1 →
        record ∉ world.handler.mRequestsDataVector ∧
          ∀ transaction ∈ world.handler.mSentData,
            record ∉ transaction.PendingData := by
  obtain ⟨-, hfresh, haccounted⟩ := hreach.invariant
    (fun world => world.WellFormed ∧ world.outbox.Fresh ∧
      world.outbox.Accounted)
    (by
      rintro _ ⟨file, gID, rfl⟩
      refine ⟨start_wellFormed file gID, ?_, ?_⟩ <;>
        simp [Outbox.Fresh, Outbox.Accounted, Outbox.owed, outbox, start,
          RequestStatsHandler.construct])
    (by
      rintro world event world' ⟨hwf, hfresh, haccounted⟩ hadmitted hstep
      have hreacts := reacts_of_step hwf hadmitted hstep
      exact ⟨hreacts.wellFormed, hreacts.refines.fresh hfresh,
        hreacts.refines.accounted hfresh haccounted⟩)
  rw [Outbox.Fresh, ← owedRecords_eq] at hfresh
  rw [Outbox.Accounted, ← owedRecords_eq] at haccounted
  refine ⟨hfresh, haccounted, fun record hacknowledged honce => ?_⟩
  have hcount := Multiset.count_le_of_le record haccounted
  have hpos := List.count_pos_iff.mpr hacknowledged
  have hnot : record ∉ world.owedRecords := by
    rw [← Multiset.count_eq_zero]
    simp only [Multiset.count_add, outbox, Multiset.coe_count] at hcount
    omega
  rw [owedRecords, Multiset.mem_add, not_or, Multiset.mem_coe] at hnot
  refine ⟨hnot.1, fun transaction htransaction hrecord => hnot.2 ?_⟩
  have hle : batch transaction ≤ (world.handler.mSentData.map batch).sum :=
    List.single_le_sum (fun _ _ => Multiset.zero_le _) _
      (List.mem_map_of_mem htransaction)
  exact Multiset.mem_of_le hle hrecord

theorem acknowledgedUpload_not_resurrected :
    ⟨[1]⟩ ∉ acknowledgedUpload.handler.mRequestsDataVector :=
  ((acknowledged_not_resurrected
    (Reachable.admitted acknowledgedUpload_reachable)).2.2 ⟨[1]⟩
      (by decide) (by decide)).1

end Runs

end StatsWorld

end RevSDK
