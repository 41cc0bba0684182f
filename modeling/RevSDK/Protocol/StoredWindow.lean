import RevSDK.Foundation.Runs
import RevSDK.Protocol.FailureHistory

/-!
# What the failure monitor stores

`validate` erases the old entries from copies of the two vectors.  The stored
vectors only grow, so they are the window of a failure exactly as long as no
stored entry has become too old.
-/

namespace RevSDK

open RevSDK.Foundation

inductive MonitorOperation where
  | logConnection (aProtocolID : String) (now : Int)
  | logFailure (rule : FailoverRule) (aProtocolID : String)
      (aErrorCode now : Int) (clock : Nat → Int) (finished : Int)
  | clear (now : Int)

structure ValidateCall where
  aProtocolID : String
  interval : Int
  finished : Int
  before : ProtocolFailureMonitor

structure WatchedMonitor where
  monitor : ProtocolFailureMonitor
  time : Int
  validation : Option ValidateCall

namespace ValidateCall

def isYoung (validation : ValidateCall) (date : Int) : Bool :=
  secondsBetween date validation.finished ≤ validation.interval

structure HoldsWindow (validation : ValidateCall)
    (monitor : ProtocolFailureMonitor) : Prop where
  reportsYoung : ∀ report ∈ monitor.mReportMap validation.aProtocolID,
    validation.isYoung report.DateReported = true
  connectionsYoung :
    ∀ date ∈ monitor.mLoggedConnections validation.aProtocolID,
      validation.isYoung date = true
  reportsKept :
    ((validation.before.mReportMap validation.aProtocolID).filter
        fun report => validation.isYoung report.DateReported).Sublist
      (monitor.mReportMap validation.aProtocolID)
  connectionsKept :
    ((validation.before.mLoggedConnections validation.aProtocolID).filter
        validation.isYoung).Sublist
      (monitor.mLoggedConnections validation.aProtocolID)

end ValidateCall

def storedWindowSystem : EventSystem WatchedMonitor MonitorOperation where
  initial watched := watched.monitor = .initialized ∧ watched.validation = none
  step watched
    | .logConnection aProtocolID now => some
        { monitor := watched.monitor.logConnection aProtocolID now
          time := now
          validation := none }
    | .logFailure rule aProtocolID aErrorCode now clock finished =>
        match watched.monitor.logFailure rule clock aProtocolID aErrorCode
          now with
        | (_, .error _) => none
        | (monitor, .ok _) => some
            { monitor := monitor
              time := finished
              validation := some
                { aProtocolID := aProtocolID
                  interval := rule.failuresMonitoringInterval
                  finished := finished
                  before := watched.monitor } }
    | .clear now => some
        { monitor := watched.monitor.clear
          time := now
          validation := none }

namespace WatchedMonitor

/-- The times do not go back, and no interval is negative. -/
def InTime (watched : WatchedMonitor) : MonitorOperation → Prop
  | .logConnection _ now => watched.time ≤ now
  | .logFailure rule _ _ now clock finished =>
      0 ≤ rule.failuresMonitoringInterval ∧ watched.time ≤ now ∧
        Monotone clock ∧ ∀ read, now ≤ clock read ∧ clock read ≤ finished
  | .clear now => watched.time ≤ now

/-- Right after `validate` has returned the store is cut to the window. -/
def KeepsWindow (watched : WatchedMonitor) : Prop :=
  ∀ validation, watched.validation = some validation →
    validation.HoldsWindow watched.monitor

/-- Nothing stored is too old by the time the failure has been judged. -/
def NothingOld (watched : WatchedMonitor) : MonitorOperation → Prop
  | .logConnection _ _ => True
  | .logFailure rule aProtocolID aErrorCode now _ finished =>
      (∀ report ∈ watched.monitor.mReportMap aProtocolID ++
          [⟨aErrorCode, now⟩],
        secondsBetween report.DateReported finished ≤
          rule.failuresMonitoringInterval) ∧
      ∀ date ∈ watched.monitor.mLoggedConnections aProtocolID,
        secondsBetween date finished ≤ rule.failuresMonitoringInterval
  | .clear _ => True

end WatchedMonitor

section Proofs

variable {watched next : WatchedMonitor} {operation : MonitorOperation}

namespace ProtocolFailureMonitor

theorem report_mReportMap_self (monitor : ProtocolFailureMonitor)
    (aProtocolID : String) (aErrorReport : ErrorReport) :
    (monitor.report aProtocolID aErrorReport).mReportMap aProtocolID =
      monitor.mReportMap aProtocolID ++ [aErrorReport] := by
  simp [report]

end ProtocolFailureMonitor

theorem step_logFailure {rule : FailoverRule} {aProtocolID : String}
    {aErrorCode now finished : Int} {clock : Nat → Int}
    (hstep : storedWindowSystem.step watched (.logFailure rule aProtocolID
      aErrorCode now clock finished) = some next) :
    next.monitor =
        watched.monitor.report aProtocolID ⟨aErrorCode, now⟩ ∧
      next.validation = some
        { aProtocolID := aProtocolID
          interval := rule.failuresMonitoringInterval
          finished := finished
          before := watched.monitor } := by
  unfold storedWindowSystem at hstep
  dsimp only at hstep
  split at hstep
  · cases hstep
  · rename_i monitor called hfailure
    obtain rfl := Option.some.inj hstep
    exact ⟨(congrArg Prod.fst hfailure).symm, rfl⟩

theorem step_of_logFailure {rule : FailoverRule} {aProtocolID : String}
    {aErrorCode now finished : Int} {clock : Nat → Int} {called : List Nat}
    (hcalled : (watched.monitor.logFailure rule clock aProtocolID aErrorCode
      now).2 = .ok called) :
    storedWindowSystem.step watched (.logFailure rule aProtocolID aErrorCode
      now clock finished) = some
        { monitor := watched.monitor.report aProtocolID ⟨aErrorCode, now⟩
          time := finished
          validation := some
            { aProtocolID := aProtocolID
              interval := rule.failuresMonitoringInterval
              finished := finished
              before := watched.monitor } } := by
  have hfailure : watched.monitor.logFailure rule clock aProtocolID aErrorCode
      now = (watched.monitor.report aProtocolID ⟨aErrorCode, now⟩,
        .ok called) := Prod.ext rfl hcalled
  unfold storedWindowSystem
  dsimp only
  rw [hfailure]

theorem holdsWindow_report_iff (validation : ValidateCall)
    (aErrorReport : ErrorReport) :
    validation.HoldsWindow (validation.before.report validation.aProtocolID
        aErrorReport) ↔
      (∀ report ∈ validation.before.mReportMap validation.aProtocolID ++
          [aErrorReport], validation.isYoung report.DateReported = true) ∧
        ∀ date ∈ validation.before.mLoggedConnections validation.aProtocolID,
          validation.isYoung date = true := by
  constructor
  · intro h
    refine ⟨?_, h.connectionsYoung⟩
    rw [← ProtocolFailureMonitor.report_mReportMap_self]
    exact h.reportsYoung
  · rintro ⟨hreports, hconnections⟩
    refine ⟨?_, hconnections, ?_, List.filter_sublist⟩
    · rw [ProtocolFailureMonitor.report_mReportMap_self]
      exact hreports
    · rw [ProtocolFailureMonitor.report_mReportMap_self]
      exact List.filter_sublist.trans (List.sublist_append_left _ _)

theorem keepsWindow_step_iff
    (hstep : storedWindowSystem.step watched operation = some next) :
    next.KeepsWindow ↔ watched.NothingOld operation := by
  cases operation with
  | logConnection aProtocolID now =>
      obtain rfl := Option.some.inj hstep
      exact iff_of_true (fun _ h => by cases h) trivial
  | logFailure rule aProtocolID aErrorCode now clock finished =>
      obtain ⟨hmonitor, hvalidation⟩ := step_logFailure hstep
      unfold WatchedMonitor.KeepsWindow
      rw [hmonitor, hvalidation]
      simp only [Option.some.injEq, forall_eq']
      refine (holdsWindow_report_iff _ _).trans ?_
      simp only [ValidateCall.isYoung, decide_eq_true_eq]
      rfl
  | clear now =>
      obtain rfl := Option.some.inj hstep
      exact iff_of_true (fun _ h => by cases h) trivial

/--
The store is cut to the window after every failure of a run exactly if no
failure of the run finds an entry that is too old.
-/
theorem keepsWindow_iff_nothingOld
    {trail : List (WatchedMonitor × MonitorOperation)}
    (path : storedWindowSystem.Path WatchedMonitor.InTime trail watched) :
    EventSystem.Throughout WatchedMonitor.KeepsWindow trail watched ↔
      EventSystem.Obeys WatchedMonitor.NothingOld trail := by
  refine path.throughout_iff_obeys WatchedMonitor.KeepsWindow ?_ ?_ ?_
    (fun _ h => h)
  · rintro watched ⟨-, hnone⟩ validation hvalidation
    rw [hnone] at hvalidation
    cases hvalidation
  · intro watched operation next _ _ hold hstep
    exact (keepsWindow_step_iff hstep).mpr hold
  · intro watched operation next _ _ hold hstep
    exact mt (keepsWindow_step_iff hstep).mp hold

/-! ## A connection of the day before -/

def launched : WatchedMonitor where
  monitor := .initialized
  time := 0
  validation := none

def firstConnected : WatchedMonitor where
  monitor := launched.monitor.logConnection quicProtocolName 0
  time := 0
  validation := none

def secondConnected : WatchedMonitor where
  monitor :=
    firstConnected.monitor.logConnection quicProtocolName 86400000000
  time := 86400000000
  validation := none

def dayOldFailure : MonitorOperation :=
  .logFailure ProtocolFailureMonitor.sixtyPercent quicProtocolName (-1)
    86400000000 (fun _ => 86400000000) 86400000000

def dayOldFailed : WatchedMonitor where
  monitor := secondConnected.monitor.report quicProtocolName
    ⟨-1, 86400000000⟩
  time := 86400000000
  validation := some
    { aProtocolID := quicProtocolName
      interval := 120
      finished := 86400000000
      before := secondConnected.monitor }

def dayOldTrail : List (WatchedMonitor × MonitorOperation) :=
  [(launched, .logConnection quicProtocolName 0),
    (firstConnected, .logConnection quicProtocolName 86400000000),
    (secondConnected, dayOldFailure)]

theorem dayOld_path :
    storedWindowSystem.Path WatchedMonitor.InTime dayOldTrail dayOldFailed := by
  have hstart : storedWindowSystem.Path WatchedMonitor.InTime [] launched :=
    .start ⟨rfl, rfl⟩
  have hfirst : storedWindowSystem.Path WatchedMonitor.InTime
      [(launched, .logConnection quicProtocolName 0)] firstConnected :=
    hstart.next (Int.le_refl 0) rfl
  have hsecond : storedWindowSystem.Path WatchedMonitor.InTime
      [(launched, .logConnection quicProtocolName 0),
        (firstConnected, .logConnection quicProtocolName 86400000000)]
      secondConnected :=
    hfirst.next (Int.le_of_lt (by decide)) rfl
  have hcalled : (secondConnected.monitor.logFailure
      ProtocolFailureMonitor.sixtyPercent (fun _ => 86400000000)
      quicProtocolName (-1) 86400000000).2.toOption = some [] := by
    decide +kernel
  refine hsecond.next ?_ (step_of_logFailure
    ((Outcome.toOption_eq_some _ _).mp hcalled))
  exact ⟨by decide, Int.le_refl _, monotone_const, by simp⟩

theorem keepsWindow_iff_nothingOld_dayOld :
    ¬EventSystem.Throughout WatchedMonitor.KeepsWindow dayOldTrail
      dayOldFailed := by
  rw [keepsWindow_iff_nothingOld dayOld_path]
  intro hobeys
  have hold :=
    (hobeys (secondConnected, dayOldFailure) (by simp [dayOldTrail])).2
  exact absurd (hold 0 (by decide)) (by decide)

/-- The failure is judged without the first connection, which stays stored. -/
theorem dayOld_stored :
    storedWindowSystem.Path WatchedMonitor.InTime dayOldTrail dayOldFailed ∧
      0 ∈ dayOldFailed.monitor.mLoggedConnections quicProtocolName ∧
        ¬dayOldFailed.KeepsWindow := by
  refine ⟨dayOld_path, by decide, ?_⟩
  intro hkeeps
  have hyoung := (hkeeps _ rfl).connectionsYoung 0 (by decide)
  exact absurd hyoung (by decide)

end Proofs

end RevSDK
