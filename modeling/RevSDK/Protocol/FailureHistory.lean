import Mathlib.Data.Int.ConditionallyCompleteOrder
import Mathlib.Order.ConditionallyCompleteLattice.Basic
import RevSDK.Protocol.ProtocolFailureMonitor

/-!
# Histories of the failure monitor

What a monitor holds after a history is what the history logged.  From this
follow when the two loops of `validate` are safe, and what `clear` forgets: it
empties the vectors of failures and keeps those of connections, which weigh
against the failures of the new network.
-/

namespace RevSDK

open RevSDK.Foundation

inductive MonitorEvent where
  | logConnection (aProtocolID : String) (now : Int)
  | logFailure (aProtocolID : String) (aErrorCode now : Int)
  deriving DecidableEq

namespace MonitorEvent

def now : MonitorEvent → Int
  | .logConnection _ now => now
  | .logFailure _ _ now => now

def connection? (aProtocolID : String) : MonitorEvent → Option Int
  | .logConnection id now => if id = aProtocolID then some now else none
  | .logFailure _ _ _ => none

def failure? (aProtocolID : String) : MonitorEvent → Option ErrorReport
  | .logConnection _ _ => none
  | .logFailure id aErrorCode now =>
      if id = aProtocolID then some ⟨aErrorCode, now⟩ else none

end MonitorEvent

def connectionsOf (aProtocolID : String) (history : List MonitorEvent) :
    List Int :=
  history.filterMap (MonitorEvent.connection? aProtocolID)

def failuresOf (aProtocolID : String) (history : List MonitorEvent) :
    List ErrorReport :=
  history.filterMap (MonitorEvent.failure? aProtocolID)

/-- The clock goes on, if it moves at all. -/
def InOrder (history : List MonitorEvent) : Prop :=
  history.Pairwise fun earlier later => earlier.now ≤ later.now

namespace ProtocolFailureMonitor

def log (monitor : ProtocolFailureMonitor) :
    MonitorEvent → ProtocolFailureMonitor
  | .logConnection aProtocolID now => monitor.logConnection aProtocolID now
  | .logFailure aProtocolID aErrorCode now =>
      monitor.report aProtocolID ⟨aErrorCode, now⟩

def logAll (monitor : ProtocolFailureMonitor) (history : List MonitorEvent) :
    ProtocolFailureMonitor :=
  history.foldl log monitor

section Contents

variable (monitor : ProtocolFailureMonitor) (aProtocolID : String)

theorem logAll_append (first second : List MonitorEvent) :
    monitor.logAll (first ++ second) = (monitor.logAll first).logAll second :=
  List.foldl_append

@[simp] theorem log_cbOnProtocolFailed (event : MonitorEvent) :
    (monitor.log event).cbOnProtocolFailed = monitor.cbOnProtocolFailed := by
  cases event <;> rfl

theorem log_mLoggedConnections (event : MonitorEvent) :
    (monitor.log event).mLoggedConnections aProtocolID =
      monitor.mLoggedConnections aProtocolID ++
        (event.connection? aProtocolID).toList := by
  cases event with
  | logConnection id now =>
      by_cases hid : id = aProtocolID
      · subst hid
        simp [log, logConnection, MonitorEvent.connection?]
      · simp [log, logConnection, MonitorEvent.connection?, hid, Ne.symm hid]
  | logFailure id aErrorCode now =>
      simp [log, report, MonitorEvent.connection?]

theorem log_mReportMap (event : MonitorEvent) :
    (monitor.log event).mReportMap aProtocolID =
      monitor.mReportMap aProtocolID ++
        (event.failure? aProtocolID).toList := by
  cases event with
  | logConnection id now =>
      simp [log, logConnection, MonitorEvent.failure?]
  | logFailure id aErrorCode now =>
      by_cases hid : id = aProtocolID
      · subst hid
        simp [log, report, MonitorEvent.failure?]
      · simp [log, report, MonitorEvent.failure?, hid, Ne.symm hid]

@[simp] theorem logAll_cbOnProtocolFailed (history : List MonitorEvent) :
    (monitor.logAll history).cbOnProtocolFailed =
      monitor.cbOnProtocolFailed := by
  induction history generalizing monitor with
  | nil => rfl
  | cons event history ih =>
      exact (ih (monitor.log event)).trans (log_cbOnProtocolFailed _ _)

theorem logAll_mLoggedConnections (history : List MonitorEvent) :
    (monitor.logAll history).mLoggedConnections aProtocolID =
      monitor.mLoggedConnections aProtocolID ++
        connectionsOf aProtocolID history := by
  induction history generalizing monitor with
  | nil => simp [logAll, connectionsOf]
  | cons event history ih =>
      have hrest := ih (monitor.log event)
      rw [log_mLoggedConnections, List.append_assoc] at hrest
      refine hrest.trans (congrArg _ ?_)
      unfold connectionsOf
      cases hevent : event.connection? aProtocolID <;> simp [hevent]

theorem logAll_mReportMap (history : List MonitorEvent) :
    (monitor.logAll history).mReportMap aProtocolID =
      monitor.mReportMap aProtocolID ++ failuresOf aProtocolID history := by
  induction history generalizing monitor with
  | nil => simp [logAll, failuresOf]
  | cons event history ih =>
      have hrest := ih (monitor.log event)
      rw [log_mReportMap, List.append_assoc] at hrest
      refine hrest.trans (congrArg _ ?_)
      unfold failuresOf
      cases hevent : event.failure? aProtocolID <;> simp [hevent]

end Contents

end ProtocolFailureMonitor

section Order

variable {aProtocolID : String} {history : List MonitorEvent}

theorem now_of_connection {event : MonitorEvent} {date : Int}
    (hdate : event.connection? aProtocolID = some date) :
    event.now = date := by
  cases event with
  | logConnection id now =>
      simp only [MonitorEvent.connection?] at hdate
      split at hdate
      · exact Option.some.inj hdate
      · contradiction
  | logFailure id aErrorCode now => contradiction

theorem now_of_failure {event : MonitorEvent} {failed : ErrorReport}
    (hfailed : event.failure? aProtocolID = some failed) :
    event.now = failed.DateReported := by
  cases event with
  | logConnection id now => contradiction
  | logFailure id aErrorCode now =>
      simp only [MonitorEvent.failure?] at hfailed
      split at hfailed
      · rw [← Option.some.inj hfailed]
        rfl
      · contradiction

theorem InOrder.connectionsOf (horder : InOrder history) :
    (connectionsOf aProtocolID history).Pairwise (· ≤ ·) := by
  refine List.pairwise_filterMap.mpr (horder.imp ?_)
  intro earlier later hle date hdate date' hdate'
  rwa [now_of_connection hdate, now_of_connection hdate'] at hle

theorem InOrder.failuresOf (horder : InOrder history) :
    (failuresOf aProtocolID history).Pairwise fun earlier later =>
      earlier.DateReported ≤ later.DateReported := by
  refine List.pairwise_filterMap.mpr (horder.imp ?_)
  intro earlier later hle failed hfailed failed' hfailed'
  rwa [now_of_failure hfailed, now_of_failure hfailed'] at hle

end Order

namespace ProtocolFailureMonitor

/-! ## The loops of a call -/

section Pruning

variable (rule : FailoverRule) (clock : Nat → Int)

def isRecent {α : Type} (date : α → Int) (read : Nat) (entry : α) : Bool :=
  secondsBetween (date entry) (clock read) ≤ rule.failuresMonitoringInterval

/-- Both loops return and leave what is recent by the last reading of each. -/
def PrunesExactly (monitor : ProtocolFailureMonitor) (aProtocolID : String) :
    Prop :=
  ∃ last rqVec last' vec,
    monitor.clearOldRequests rule clock aProtocolID =
      .ok (last + 1, rqVec) ∧
    monitor.clearOldFails rule clock aProtocolID (last + 1) =
      .ok (last' + 1, vec) ∧
    rqVec = (monitor.mLoggedConnections aProtocolID).filter
      (isRecent rule clock id last) ∧
    vec = (monitor.mReportMap aProtocolID).filter
      (isRecent rule clock ErrorReport.DateReported last')

/--
Some connection is recent by the reading of the clock that is made for it, and
then so is some failure.
-/
def FindsRecent (monitor : ProtocolFailureMonitor) (aProtocolID : String) :
    Prop :=
  ∃ index,
    FirstRecent (tooOld rule.failuresMonitoringInterval clock id) 0
      (monitor.mLoggedConnections aProtocolID) index ∧
    SomeRecent
      (tooOld rule.failuresMonitoringInterval clock ErrorReport.DateReported)
      (index + 1) (monitor.mReportMap aProtocolID)

section Exactness

variable {α : Type} {interval : Int} {clock} {date : α → Int} {read last : Nat}
  {entries kept : List α}

theorem dropOld_recent (hclock : Monotone clock)
    (horder : entries.Pairwise fun earlier later => date earlier ≤ date later)
    (hkept : dropOld (tooOld rule.failuresMonitoringInterval clock date) read
      entries = some (last, kept)) :
    kept = entries.filter (isRecent rule clock date last) := by
  have hfilter := (dropOld_eq_filter ?_ ?_ hkept).2
  · rw [hfilter]
    refine List.filter_congr fun entry _ => ?_
    rw [Bool.eq_iff_iff]
    simp [tooOld, isRecent]
  · intro read entry hold
    have hlater := @secondsBetween_mono (date entry) (date entry) (clock read)
      (clock (read + 1)) (Int.le_refl _) (hclock (Nat.le_succ read))
    simp only [tooOld, decide_eq_true_eq] at hold ⊢
    omega
  · refine horder.imp ?_
    intro earlier later hle read hold
    have holder := @secondsBetween_mono (date later) (date earlier)
      (clock read) (clock read) hle (Int.le_refl _)
    simp only [tooOld, decide_eq_true_eq] at hold ⊢
    omega

end Exactness

/--
For every history with times in order, the loops of `validate` are safe and
exact exactly if they find a recent connection and then a recent failure.
-/
theorem prunesExactly_iff_findsRecent (hclock : Monotone clock)
    {history : List MonitorEvent} (horder : InOrder history)
    (aProtocolID : String) (aErrorCode : Int) {now : Int}
    (hnow : ∀ event ∈ history, event.now ≤ now) :
    let monitor := (initialized.logAll history).report aProtocolID
      ⟨aErrorCode, now⟩
    monitor.PrunesExactly rule clock aProtocolID ↔
      monitor.FindsRecent rule clock aProtocolID := by
  intro monitor
  have horder' : InOrder (history ++ [.logFailure aProtocolID aErrorCode now]) := by
    refine List.pairwise_append.mpr ⟨horder, List.pairwise_singleton _ _, ?_⟩
    intro event hevent last hlast
    rw [List.mem_singleton.mp hlast]
    exact hnow event hevent
  have hmonitor : monitor = initialized.logAll
      (history ++ [.logFailure aProtocolID aErrorCode now]) := by
    rw [logAll_append]
    rfl
  have hconnections : (monitor.mLoggedConnections aProtocolID).Pairwise
      fun earlier later => id earlier ≤ id later := by
    rw [hmonitor, logAll_mLoggedConnections]
    exact horder'.connectionsOf
  have hfailures : (monitor.mReportMap aProtocolID).Pairwise
      fun earlier later => earlier.DateReported ≤ later.DateReported := by
    rw [hmonitor, logAll_mReportMap]
    exact horder'.failuresOf
  constructor
  · rintro ⟨last, rqVec, last', vec, hrequests, hfails, -, -⟩
    obtain ⟨read, hdrop, hread⟩ := clearOld_eq_ok_iff.mp hrequests
    obtain rfl := Nat.succ.inj hread
    obtain ⟨index, hfirst, rfl⟩ := dropOld_stops_iff.mp ⟨rqVec, hdrop⟩
    obtain ⟨read', hdrop', -⟩ := clearOld_eq_ok_iff.mp hfails
    rw [Nat.zero_add] at hdrop'
    refine ⟨index, hfirst, dropOld_isSome_iff.mp ?_⟩
    rw [hdrop']
    rfl
  · rintro ⟨index, hfirst, hsome⟩
    obtain ⟨rqVec, hdrop⟩ :=
      dropOld_stops_iff.mpr ⟨index, hfirst, (Nat.zero_add index).symm⟩
    obtain ⟨⟨last', vec⟩, hdrop'⟩ :=
      Option.isSome_iff_exists.mp (dropOld_isSome_iff.mpr hsome)
    exact ⟨index, rqVec, last', vec,
      clearOld_eq_ok_iff.mpr ⟨index, hdrop, rfl⟩,
      clearOld_eq_ok_iff.mpr ⟨last', hdrop', rfl⟩,
      dropOld_recent rule hclock hconnections hdrop,
      dropOld_recent rule hclock hfailures hdrop'⟩

end Pruning

section Pruned

def sixtyPercent : FailoverRule where
  failPercent fails requests := fails / requests
  failuresMonitoringInterval := 120
  failuresFailoverThreshold := 6 / 10

/-- A failure without a connection, and one five minutes after the last. -/
theorem nothingRecent_not_pruned :
    ¬ (initialized.report "standard" ⟨-1, 1000000⟩).PrunesExactly sixtyPercent
        (fun _ => 1000000) "standard" ∧
      ¬ ((initialized.logConnection "standard" 0).report "standard"
        ⟨-1, 300000000⟩).PrunesExactly sixtyPercent
          (fun _ => 300000000) "standard" := by
  constructor
  · rintro ⟨_, _, _, _, hrequests, -⟩
    cases hrequests
  · rintro ⟨_, _, _, _, hrequests, -⟩
    cases hrequests

def fiveMinutesApart : List MonitorEvent :=
  [.logConnection "standard" 0, .logFailure "standard" (-1) 1000000,
    .logConnection "standard" 300000000]

theorem prunesExactly_iff_findsRecent_reconnected :
    ((initialized.logAll fiveMinutesApart).report "standard"
        ⟨-2, 301000000⟩).PrunesExactly sixtyPercent (fun _ => 301000000)
          "standard" := by
  refine (prunesExactly_iff_findsRecent sixtyPercent (fun _ => 301000000)
    monotone_const ?_ "standard" (-2) ?_).mpr ?_
  · simp [InOrder, fiveMinutesApart, MonitorEvent.now]
  · simp [fiveMinutesApart, MonitorEvent.now]
  · refine ⟨1, ⟨⟨300000000, rfl, by decide⟩, ?_⟩,
      ⟨1, ⟨-2, 301000000⟩, rfl, by decide⟩⟩
    intro earlier hearlier entry hentry
    obtain rfl : earlier = 0 := by omega
    obtain rfl := Option.some.inj hentry
    decide

end Pruned

/-! ## Clearing -/

section Clearing

variable (rule : FailoverRule)

/--
Which failures of a history call the subscribers, and with which protocol;
`none` is a failure whose loops are not defined, after which there is nothing.
-/
def decisions : ProtocolFailureMonitor → List MonitorEvent →
    List (String × Option (List Nat))
  | _, [] => []
  | monitor, .logConnection aProtocolID now :: rest =>
      decisions (monitor.logConnection aProtocolID now) rest
  | monitor, .logFailure aProtocolID aErrorCode now :: rest =>
      let (monitor, outcome) := monitor.logFailure rule (fun _ => now)
        aProtocolID aErrorCode now
      match outcome.toOption with
      | none => [(aProtocolID, none)]
      | some called =>
          (aProtocolID, some called) :: decisions monitor rest

def callbacks (subscribers : List Nat) (fails requests : Nat) :
    Option (List Nat) :=
  if fails = 0 ∨ requests = 0 then none
  else if fails > requests then some []
  else if rule.failPercent fails requests > rule.failuresFailoverThreshold then
    some subscribers
  else some []

def inWindow {α : Type} (date : α → Int) (now : Int) (entries : List α) :
    List α :=
  entries.dropWhile fun entry =>
    rule.failuresMonitoringInterval < secondsBetween (date entry) now

def requestsWithin (aProtocolID : String) (now : Int)
    (history : List MonitorEvent) : Nat :=
  (inWindow rule id now (connectionsOf aProtocolID history)).length

def failsWithin (aProtocolID : String) (now : Int)
    (history : List MonitorEvent) : Nat :=
  (inWindow rule ErrorReport.DateReported now
    (failuresOf aProtocolID history)).length

theorem clearOld_still {α : Type} (date : α → Int) (now : Int) (reads : Nat)
    (entries : List α) :
    (inWindow rule date now entries = [] ∧ ∃ fault,
      clearOld rule.failuresMonitoringInterval (fun _ => now) date reads
        entries = .error fault) ∨
    (inWindow rule date now entries ≠ [] ∧ ∃ reads',
      clearOld rule.failuresMonitoringInterval (fun _ => now) date reads
        entries = .ok (reads', inWindow rule date now entries)) := by
  have hdrop := dropOld_still (fun entry => decide
    (rule.failuresMonitoringInterval < secondsBetween (date entry) now)) reads
    entries
  change (dropOld (tooOld rule.failuresMonitoringInterval (fun _ => now) date)
    reads entries).map Prod.snd = if inWindow rule date now entries = [] then
      none else some (inWindow rule date now entries) at hdrop
  cases hclear : clearOld rule.failuresMonitoringInterval (fun _ => now) date
      reads entries with
  | ok found =>
      obtain ⟨reads', kept⟩ := found
      obtain ⟨last, hlast, -⟩ := clearOld_eq_ok_iff.mp hclear
      rw [hlast] at hdrop
      by_cases hempty : inWindow rule date now entries = []
      · rw [if_pos hempty] at hdrop
        contradiction
      · rw [if_neg hempty] at hdrop
        refine .inr ⟨hempty, reads', ?_⟩
        rw [← Option.some.inj hdrop]
  | error fault =>
      refine .inl ⟨?_, fault, rfl⟩
      by_contra hsome
      rw [if_neg hsome] at hdrop
      obtain ⟨found, hlast, -⟩ := Option.map_eq_some_iff.mp hdrop
      have hok := clearOld_eq_ok_iff.mpr ⟨found.1, hlast, rfl⟩
      rw [hok] at hclear
      contradiction

theorem judge_still (monitor : ProtocolFailureMonitor) (aProtocolID : String)
    (now : Int) :
    (monitor.judge rule (fun _ => now) aProtocolID).toOption =
      callbacks rule monitor.cbOnProtocolFailed
        (inWindow rule ErrorReport.DateReported now
          (monitor.mReportMap aProtocolID)).length
        (inWindow rule id now
          (monitor.mLoggedConnections aProtocolID)).length := by
  unfold judge callbacks clearOldRequests clearOldFails
  rcases clearOld_still rule id now 0
    (monitor.mLoggedConnections aProtocolID) with
    ⟨hempty, fault, hrequests⟩ | ⟨hrequested, reads, hrequests⟩
  · rw [hrequests, hempty, if_pos (.inr rfl)]
    rfl
  · rw [hrequests, Outcome.ok_bind]
    dsimp only
    rcases clearOld_still rule ErrorReport.DateReported now reads
      (monitor.mReportMap aProtocolID) with
      ⟨hempty, fault, hfails⟩ | ⟨hfailed, reads', hfails⟩
    · rw [hfails, hempty, if_pos (.inl rfl)]
      rfl
    · rw [hfails, Outcome.ok_bind,
        if_neg (c := _ ∨ _) (by simp [hrequested, hfailed])]
      dsimp only
      split
      · rfl
      · split <;> rfl

def subscribed (subscribers : List Nat) : ProtocolFailureMonitor :=
  { initialized with cbOnProtocolFailed := subscribers }

/-- The failures of an earlier history that `clear` leaves behind. -/
def uncleared (aProtocolID : String) (earlier : List MonitorEvent) :
    List MonitorEvent :=
  if aProtocolID = standardProtocolName ∨ aProtocolID = quicProtocolName then []
  else earlier

/--
Until a failure is undefined, each failure calls the same subscribers whether
what is left of the earlier history is counted or not.
-/
def Unswayed (subscribers : List Nat) (earlier : List MonitorEvent) :
    List MonitorEvent → List MonitorEvent → Prop
  | _, [] => True
  | before, .logConnection aProtocolID now :: rest =>
      Unswayed subscribers earlier
        (before ++ [.logConnection aProtocolID now]) rest
  | before, .logFailure aProtocolID aErrorCode now :: rest =>
      let failed := before ++ [.logFailure aProtocolID aErrorCode now]
      let alone := callbacks rule subscribers
        (failsWithin rule aProtocolID now failed)
        (requestsWithin rule aProtocolID now before)
      callbacks rule subscribers
          (failsWithin rule aProtocolID now
            (uncleared aProtocolID earlier ++ failed))
          (requestsWithin rule aProtocolID now (earlier ++ before)) = alone ∧
        (alone ≠ none → Unswayed subscribers earlier failed rest)

section Comparing

variable {subscribers : List Nat} {earlier before : List MonitorEvent}

theorem decisions_logFailure (monitor : ProtocolFailureMonitor)
    (aProtocolID : String) (aErrorCode now : Int) (rest : List MonitorEvent) :
    decisions rule monitor (.logFailure aProtocolID aErrorCode now :: rest) =
      match callbacks rule monitor.cbOnProtocolFailed
        (inWindow rule ErrorReport.DateReported now
          (monitor.mReportMap aProtocolID ++ [⟨aErrorCode, now⟩])).length
        (inWindow rule id now
          (monitor.mLoggedConnections aProtocolID)).length with
      | none => [(aProtocolID, none)]
      | some called => (aProtocolID, some called) ::
          decisions rule (monitor.report aProtocolID ⟨aErrorCode, now⟩)
            rest := by
  rw [decisions]
  dsimp only [logFailure, validate]
  rw [judge_still]
  simp [report]

theorem subscribed_callbacks (aProtocolID : String) (aErrorCode now : Int) :
    callbacks rule ((subscribed subscribers).logAll before).cbOnProtocolFailed
        (inWindow rule ErrorReport.DateReported now
          (((subscribed subscribers).logAll before).mReportMap aProtocolID ++
            [⟨aErrorCode, now⟩])).length
        (inWindow rule id now (((subscribed subscribers).logAll
          before).mLoggedConnections aProtocolID)).length =
      callbacks rule subscribers
        (failsWithin rule aProtocolID now
          (before ++ [.logFailure aProtocolID aErrorCode now]))
        (requestsWithin rule aProtocolID now before) := by
  rw [logAll_cbOnProtocolFailed, logAll_mReportMap, logAll_mLoggedConnections]
  unfold failsWithin requestsWithin failuresOf
  rw [List.filterMap_append]
  simp [subscribed, initialized, MonitorEvent.failure?]

theorem cleared_mReportMap (monitor : ProtocolFailureMonitor)
    (aProtocolID : String)
    (hnew : monitor.mReportMap aProtocolID = []) :
    (monitor.logAll earlier).clear.mReportMap aProtocolID =
      failuresOf aProtocolID (uncleared aProtocolID earlier) := by
  unfold clear uncleared
  dsimp only
  by_cases hquic : aProtocolID = quicProtocolName
  · subst hquic
    simp [failuresOf]
  · by_cases hstandard : aProtocolID = standardProtocolName
    · subst hstandard
      simp [failuresOf, hquic]
    · simp [hquic, hstandard, logAll_mReportMap, hnew]

theorem cleared_callbacks (aProtocolID : String) (aErrorCode now : Int) :
    callbacks rule (((subscribed subscribers).logAll earlier).clear.logAll
          before).cbOnProtocolFailed
        (inWindow rule ErrorReport.DateReported now
          ((((subscribed subscribers).logAll earlier).clear.logAll
            before).mReportMap aProtocolID ++ [⟨aErrorCode, now⟩])).length
        (inWindow rule id now ((((subscribed subscribers).logAll
          earlier).clear.logAll before).mLoggedConnections
            aProtocolID)).length =
      callbacks rule subscribers
        (failsWithin rule aProtocolID now (uncleared aProtocolID earlier ++
          (before ++ [.logFailure aProtocolID aErrorCode now])))
        (requestsWithin rule aProtocolID now (earlier ++ before)) := by
  rw [logAll_cbOnProtocolFailed, logAll_mReportMap, logAll_mLoggedConnections,
    cleared_mReportMap _ _ rfl]
  have hconnections : ((subscribed subscribers).logAll
      earlier).clear.mLoggedConnections aProtocolID =
        connectionsOf aProtocolID earlier :=
    logAll_mLoggedConnections (subscribed subscribers) aProtocolID earlier
  have hsubscribers : ((subscribed subscribers).logAll
      earlier).clear.cbOnProtocolFailed = subscribers :=
    logAll_cbOnProtocolFailed (subscribed subscribers) earlier
  rw [hconnections, hsubscribers]
  unfold failsWithin requestsWithin failuresOf connectionsOf
  rw [List.filterMap_append, List.filterMap_append, List.filterMap_append]
  simp [MonitorEvent.failure?]

theorem decisions_eq_iff_unswayed_after (rest : List MonitorEvent) :
    decisions rule (((subscribed subscribers).logAll earlier).clear.logAll
        before) rest =
      decisions rule ((subscribed subscribers).logAll before) rest ↔
    Unswayed rule subscribers earlier before rest := by
  induction rest generalizing before with
  | nil => simp [decisions, Unswayed]
  | cons event rest ih =>
      have hnext := @ih (before ++ [event])
      rw [logAll_append, logAll_append] at hnext
      cases event with
      | logConnection aProtocolID now => exact hnext
      | logFailure aProtocolID aErrorCode now =>
          rw [decisions_logFailure, decisions_logFailure, cleared_callbacks,
            subscribed_callbacks, Unswayed]
          cases hcleared : callbacks rule subscribers
              (failsWithin rule aProtocolID now (uncleared aProtocolID earlier ++
                (before ++ [.logFailure aProtocolID aErrorCode now])))
              (requestsWithin rule aProtocolID now (earlier ++ before)) with
          | none =>
              cases halone : callbacks rule subscribers
                (failsWithin rule aProtocolID now
                  (before ++ [.logFailure aProtocolID aErrorCode now]))
                (requestsWithin rule aProtocolID now before) <;> simp
          | some called =>
              cases halone : callbacks rule subscribers
                (failsWithin rule aProtocolID now
                  (before ++ [.logFailure aProtocolID aErrorCode now]))
                (requestsWithin rule aProtocolID now before) with
              | none => simp
              | some called' =>
                  simp only [List.cons.injEq, Prod.mk.injEq, Option.some.injEq,
                    true_and, ne_eq, reduceCtorEq, not_false_eq_true,
                    forall_const]
                  exact and_congr_right fun _ => hnext

/-- At each failure of the later history the earlier one is out of date. -/
def Forgotten (earlier later : List MonitorEvent) : Prop :=
  ∀ aProtocolID aErrorCode now,
    .logFailure aProtocolID aErrorCode now ∈ later → ∀ event ∈ earlier,
      rule.failuresMonitoringInterval < secondsBetween event.now now

theorem inWindow_append_of_old {α : Type} {date : α → Int} {now : Int}
    {logged : MonitorEvent → Option α}
    (hdated : ∀ event entry, logged event = some entry →
      event.now = date entry)
    (hold : ∀ event ∈ earlier,
      rule.failuresMonitoringInterval < secondsBetween event.now now) :
    inWindow rule date now ((earlier ++ before).filterMap logged) =
      inWindow rule date now (before.filterMap logged) := by
  unfold inWindow
  rw [List.filterMap_append, List.dropWhile_append_of_pos]
  intro entry hentry
  obtain ⟨event, hevent, hlogged⟩ := List.mem_filterMap.mp hentry
  have htooOld := hold event hevent
  rw [hdated event entry hlogged] at htooOld
  exact decide_eq_true htooOld

theorem requestsWithin_append_of_old (aProtocolID : String) {now : Int}
    (hold : ∀ event ∈ earlier,
      rule.failuresMonitoringInterval < secondsBetween event.now now) :
    requestsWithin rule aProtocolID now (earlier ++ before) =
      requestsWithin rule aProtocolID now before :=
  congrArg List.length
    (inWindow_append_of_old rule (fun _ _ => now_of_connection) hold)

theorem failsWithin_append_of_old (aProtocolID : String) {now : Int}
    (hold : ∀ event ∈ earlier,
      rule.failuresMonitoringInterval < secondsBetween event.now now) :
    failsWithin rule aProtocolID now (earlier ++ before) =
      failsWithin rule aProtocolID now before :=
  congrArg List.length
    (inWindow_append_of_old rule (fun _ _ => now_of_failure) hold)

theorem unswayed_of_forgotten {later : List MonitorEvent}
    (hforgotten : Forgotten rule earlier later) :
    Unswayed rule subscribers earlier before later := by
  induction later generalizing before with
  | nil => trivial
  | cons event later ih =>
      have hlater : Forgotten rule earlier later :=
        fun aProtocolID aErrorCode now hfailure =>
          hforgotten aProtocolID aErrorCode now (List.mem_cons_of_mem _ hfailure)
      cases event with
      | logConnection aProtocolID now => exact ih hlater
      | logFailure aProtocolID aErrorCode now =>
          have hold := hforgotten aProtocolID aErrorCode now List.mem_cons_self
          refine ⟨?_, fun _ => ih hlater⟩
          rw [requestsWithin_append_of_old rule aProtocolID hold,
            failsWithin_append_of_old rule aProtocolID]
          unfold uncleared
          split
          · simp
          · exact hold

/--
Clearing forgets the earlier history in exactly the cases in which no failure
of the later one is swayed by what is left of it.
-/
theorem decisions_eq_iff_unswayed (subscribers : List Nat)
    (earlier later : List MonitorEvent) :
    (decisions rule ((subscribed subscribers).logAll earlier).clear later =
        decisions rule (subscribed subscribers) later ↔
      Unswayed rule subscribers earlier [] later) ∧
    (Forgotten rule earlier later →
      decisions rule ((subscribed subscribers).logAll earlier).clear later =
        decisions rule (subscribed subscribers) later) := by
  have hiff :=
    @decisions_eq_iff_unswayed_after rule subscribers earlier [] later
  exact ⟨hiff, fun hforgotten =>
    hiff.mpr (unswayed_of_forgotten rule hforgotten)⟩

end Comparing

section OldConnection

def oldNetwork : List MonitorEvent := [.logConnection "quic" 0]

def newNetwork : List MonitorEvent :=
  [.logConnection "quic" 1000000, .logFailure "quic" (-1) 2000000]

theorem oldConnection_sways :
    decisions sixtyPercent ((subscribed [0]).logAll oldNetwork).clear
        newNetwork ≠
      decisions sixtyPercent (subscribed [0]) newNetwork := by
  have hcleared : decisions sixtyPercent
      ((subscribed [0]).logAll oldNetwork).clear newNetwork =
        [("quic", some [])] := by decide +kernel
  have hfresh : decisions sixtyPercent (subscribed [0]) newNetwork =
      [("quic", some [0])] := by decide +kernel
  rw [hcleared, hfresh]
  decide

end OldConnection

end Clearing

end ProtocolFailureMonitor

end RevSDK
