import Mathlib.Data.List.Induction
import Mathlib.Data.List.Nodup
import RevSDK.Protocol.FailureHistory

/-!
# The decision to fail over

What a failure decides after any calls of the monitor.  The loops of
`validate` leave what is not older than the interval, in whole seconds; both
counts are of the protocol that failed alone, and the subscribers are those of
the moment of the call.
-/

namespace RevSDK

open RevSDK.Foundation

inductive MonitorCall where
  | logged (event : MonitorEvent)
  | subscribeOnProtocolFailed (aID : Nat)
  | unsubscribe (aID : Nat)
  deriving DecidableEq

namespace MonitorCall

def event? : MonitorCall → Option MonitorEvent
  | .logged event => some event
  | .subscribeOnProtocolFailed _ => none
  | .unsubscribe _ => none

end MonitorCall

def loggedBy (calls : List MonitorCall) : List MonitorEvent :=
  calls.filterMap MonitorCall.event?

namespace MonitorEvent

def aProtocolID : MonitorEvent → String
  | .logConnection aProtocolID _ => aProtocolID
  | .logFailure aProtocolID _ _ => aProtocolID

def isFailure : MonitorEvent → Bool
  | .logConnection _ _ => false
  | .logFailure _ _ _ => true

def isWithin (rule : FailoverRule) (now : Int) (event : MonitorEvent) : Bool :=
  secondsBetween event.now now ≤ rule.failuresMonitoringInterval

@[simp] theorem isWithin_iff (rule : FailoverRule) (now : Int)
    (event : MonitorEvent) :
    event.isWithin rule now = true ↔
      secondsBetween event.now now ≤ rule.failuresMonitoringInterval :=
  decide_eq_true_iff

end MonitorEvent

def countFailures (rule : FailoverRule) (aProtocolID : String) (now : Int)
    (history : List MonitorEvent) : Nat :=
  history.countP fun event =>
    event.isFailure && event.aProtocolID == aProtocolID &&
      event.isWithin rule now

def countConnections (rule : FailoverRule) (aProtocolID : String) (now : Int)
    (history : List MonitorEvent) : Nat :=
  history.countP fun event =>
    !event.isFailure && event.aProtocolID == aProtocolID &&
      event.isWithin rule now

namespace ProtocolFailureMonitor

def call (monitor : ProtocolFailureMonitor) :
    MonitorCall → ProtocolFailureMonitor
  | .logged event => monitor.log event
  | .subscribeOnProtocolFailed aID => monitor.subscribeOnProtocolFailed aID
  | .unsubscribe aID => monitor.unsubscribe aID

def after (calls : List MonitorCall) : ProtocolFailureMonitor :=
  calls.foldl call initialized

def calledBack (rule : FailoverRule) (clock : Nat → Int)
    (monitor : ProtocolFailureMonitor) (aProtocolID : String)
    (aErrorCode now : Int) : Outcome (List (Nat × String)) := do
  let called ← (monitor.logFailure rule clock aProtocolID aErrorCode now).2
  return called.map fun aID => (aID, aProtocolID)

/-! ## What the calls leave -/

section Contents

theorem after_concat (calls : List MonitorCall) (last : MonitorCall) :
    after (calls ++ [last]) = (after calls).call last := by
  simp [after]

theorem loggedBy_concat (calls : List MonitorCall) (last : MonitorCall) :
    loggedBy (calls ++ [last]) = loggedBy calls ++ last.event?.toList := by
  cases last <;> simp [loggedBy, MonitorCall.event?]

theorem after_keyed (calls : List MonitorCall) : (after calls).Keyed := by
  induction calls using List.reverseRecOn with
  | nil => exact initialized_keyed
  | append_singleton calls last ih =>
      rw [after_concat]
      cases last with
      | logged event =>
          unfold Keyed
          rw [call, log_cbOnProtocolFailed]
          exact ih
      | subscribeOnProtocolFailed aID => exact ih.subscribeOnProtocolFailed aID
      | unsubscribe aID => exact ih.unsubscribe aID

theorem after_eq_logAll (calls : List MonitorCall) :
    (after calls).mLoggedConnections =
        (initialized.logAll (loggedBy calls)).mLoggedConnections ∧
      (after calls).mReportMap =
        (initialized.logAll (loggedBy calls)).mReportMap := by
  induction calls using List.reverseRecOn with
  | nil => exact ⟨rfl, rfl⟩
  | append_singleton calls last ih =>
      rw [after_concat, loggedBy_concat, logAll_append]
      obtain ⟨hconnections, hfailures⟩ := ih
      cases last with
      | logged event =>
          cases event with
          | logConnection aProtocolID now =>
              refine ⟨?_, hfailures⟩
              change Function.update _ _ _ = Function.update _ _ _
              rw [hconnections]
          | logFailure aProtocolID aErrorCode now =>
              refine ⟨hconnections, ?_⟩
              change Function.update _ _ _ = Function.update _ _ _
              rw [hfailures]
      | subscribeOnProtocolFailed aID => exact ⟨hconnections, hfailures⟩
      | unsubscribe aID => exact ⟨hconnections, hfailures⟩

theorem after_mLoggedConnections (calls : List MonitorCall)
    (aProtocolID : String) :
    (after calls).mLoggedConnections aProtocolID =
      connectionsOf aProtocolID (loggedBy calls) := by
  rw [(after_eq_logAll calls).1, logAll_mLoggedConnections]
  exact List.nil_append _

theorem after_mReportMap (calls : List MonitorCall) (aProtocolID : String) :
    (after calls).mReportMap aProtocolID =
      failuresOf aProtocolID (loggedBy calls) := by
  rw [(after_eq_logAll calls).2, logAll_mReportMap]
  exact List.nil_append _

end Contents

/-! ## What the windows count -/

section Windows

variable (rule : FailoverRule) {history : List MonitorEvent}

theorem inWindow_eq_filter {α : Type} {date : α → Int} {entries : List α}
    (now : Int)
    (horder : entries.Pairwise fun earlier later => date earlier ≤ date later) :
    inWindow rule date now entries = entries.filter fun entry =>
      secondsBetween (date entry) now ≤ rule.failuresMonitoringInterval := by
  unfold inWindow
  rw [dropWhile_eq_filter]
  · refine List.filter_congr fun entry _ => ?_
    rw [Bool.eq_iff_iff]
    simp
  · refine horder.imp fun {earlier later} hle hold => ?_
    have holder := @secondsBetween_mono (date later) (date earlier) now now hle
      (Int.le_refl _)
    simp only [decide_eq_true_eq] at hold ⊢
    omega

theorem requestsWithin_eq_count (horder : InOrder history)
    (aProtocolID : String) (now : Int) :
    requestsWithin rule aProtocolID now history =
      countConnections rule aProtocolID now history := by
  unfold requestsWithin countConnections
  rw [@inWindow_eq_filter rule Int id _ now horder.connectionsOf,
    ← List.countP_eq_length_filter, connectionsOf, List.countP_filterMap]
  refine List.countP_congr fun event _ => ?_
  cases event with
  | logConnection id date =>
      by_cases hid : id = aProtocolID
      · simp [MonitorEvent.connection?, MonitorEvent.isFailure,
          MonitorEvent.aProtocolID, MonitorEvent.now, hid]
      · simp [MonitorEvent.connection?, MonitorEvent.aProtocolID, hid]
  | logFailure id code date =>
      simp [MonitorEvent.connection?, MonitorEvent.isFailure]

theorem failsWithin_eq_count (horder : InOrder history)
    (aProtocolID : String) (now : Int) :
    failsWithin rule aProtocolID now history =
      countFailures rule aProtocolID now history := by
  unfold failsWithin countFailures
  rw [inWindow_eq_filter rule now horder.failuresOf,
    ← List.countP_eq_length_filter, failuresOf, List.countP_filterMap]
  refine List.countP_congr fun event _ => ?_
  cases event with
  | logConnection id date =>
      simp [MonitorEvent.failure?, MonitorEvent.isFailure]
  | logFailure id code date =>
      by_cases hid : id = aProtocolID
      · simp [MonitorEvent.failure?, MonitorEvent.isFailure,
          MonitorEvent.aProtocolID, MonitorEvent.now, hid]
      · simp [MonitorEvent.failure?, MonitorEvent.aProtocolID, hid]

theorem countFailures_concat_pos
    (hinterval : 0 ≤ rule.failuresMonitoringInterval) (aProtocolID : String)
    (aErrorCode now : Int) :
    0 < countFailures rule aProtocolID now
      (history ++ [.logFailure aProtocolID aErrorCode now]) := by
  refine List.countP_pos_iff.mpr ⟨.logFailure aProtocolID aErrorCode now,
    by simp, ?_⟩
  simpa [MonitorEvent.isFailure, MonitorEvent.aProtocolID,
    MonitorEvent.isWithin, MonitorEvent.now, secondsBetween] using hinterval

theorem calledBack_eq (calls : List MonitorCall) (aProtocolID : String)
    (aErrorCode now : Int)
    (horder : InOrder
      (loggedBy calls ++ [.logFailure aProtocolID aErrorCode now])) :
    (calledBack rule (fun _ => now) (after calls) aProtocolID aErrorCode
        now).toOption =
      (callbacks rule (after calls).cbOnProtocolFailed
        (countFailures rule aProtocolID now
          (loggedBy calls ++ [.logFailure aProtocolID aErrorCode now]))
        (countConnections rule aProtocolID now (loggedBy calls))).map
        fun called => called.map fun aID => (aID, aProtocolID) := by
  have hearlier : InOrder (loggedBy calls) := (List.pairwise_append.mp horder).1
  have hjudge := judge_still rule ((after calls).report aProtocolID
    ⟨aErrorCode, now⟩) aProtocolID now
  have hfails : ((after calls).report aProtocolID
      ⟨aErrorCode, now⟩).mReportMap aProtocolID =
      failuresOf aProtocolID
        (loggedBy calls ++ [.logFailure aProtocolID aErrorCode now]) := by
    simp [report, after_mReportMap, failuresOf, MonitorEvent.failure?]
  rw [← failsWithin_eq_count rule horder, ← requestsWithin_eq_count rule hearlier]
  unfold failsWithin requestsWithin
  rw [← hfails, ← after_mLoggedConnections]
  refine Eq.trans ?_ (congrArg _ hjudge)
  unfold calledBack logFailure validate
  dsimp only
  cases judge rule (fun _ => now) ((after calls).report aProtocolID
    ⟨aErrorCode, now⟩) aProtocolID <;> rfl

end Windows

/-! ## The decision -/

section Decision

def ComparesExactly (rule : FailoverRule) : Prop :=
  ∀ fails requests : Nat, rule.failPercent fails requests = fails / requests

/-- Whether so many failures of so many connections are too many. -/
def FailsOver (rule : FailoverRule) (fails requests : Nat) : Prop :=
  fails ≤ requests ∧
    (fails : ℚ) / requests > rule.failuresFailoverThreshold

instance (rule : FailoverRule) (fails requests : Nat) :
    Decidable (FailsOver rule fails requests) :=
  inferInstanceAs (Decidable (_ ∧ _))

theorem callbacks_exact {rule : FailoverRule} (hexact : ComparesExactly rule)
    {fails requests : Nat} (hfails : 0 < fails) (hrequests : 0 < requests)
    (subscribers : List Nat) :
    callbacks rule subscribers fails requests =
      some (if FailsOver rule fails requests then subscribers else []) := by
  unfold callbacks
  rw [if_neg (by omega), hexact]
  by_cases hmore : fails > requests
  · have hnot : ¬ FailsOver rule fails requests := fun h => by
      have hle := h.1
      omega
    rw [if_pos hmore, if_neg hnot]
  · have hle : fails ≤ requests := by omega
    rw [if_neg hmore]
    by_cases hmany : (fails : ℚ) / requests > rule.failuresFailoverThreshold
    · rw [if_pos hmany, if_pos ⟨hle, hmany⟩]
    · rw [if_neg hmany, if_neg fun h => hmany h.2]

theorem countConnections_filter (rule : FailoverRule) (aProtocolID : String)
    (now : Int) (history : List MonitorEvent) :
    countConnections rule aProtocolID now
        (history.filter (·.aProtocolID = aProtocolID)) =
      countConnections rule aProtocolID now history := by
  unfold countConnections
  rw [List.countP_filter]
  refine List.countP_congr fun event _ => ?_
  simp only [Bool.and_eq_true, beq_iff_eq, decide_eq_true_eq]
  tauto

theorem countFailures_filter (rule : FailoverRule) (aProtocolID : String)
    (now : Int) (history : List MonitorEvent) :
    countFailures rule aProtocolID now
        (history.filter (·.aProtocolID = aProtocolID)) =
      countFailures rule aProtocolID now history := by
  unfold countFailures
  rw [List.countP_filter]
  refine List.countP_congr fun event _ => ?_
  simp only [Bool.and_eq_true, beq_iff_eq, decide_eq_true_eq]
  tauto

/-- Where some connection is recent, the loops return and the counts decide. -/
theorem calledBack_of_connected (rule : FailoverRule)
    (hexact : ComparesExactly rule)
    (hinterval : 0 ≤ rule.failuresMonitoringInterval)
    (calls : List MonitorCall) (aProtocolID : String) (aErrorCode now : Int)
    (horder : InOrder
      (loggedBy calls ++ [.logFailure aProtocolID aErrorCode now]))
    (hconnected :
      0 < countConnections rule aProtocolID now (loggedBy calls)) :
    calledBack rule (fun _ => now) (after calls) aProtocolID aErrorCode now =
      .ok ((if FailsOver rule
          (countFailures rule aProtocolID now
            (loggedBy calls ++ [.logFailure aProtocolID aErrorCode now]))
          (countConnections rule aProtocolID now (loggedBy calls))
        then (after calls).cbOnProtocolFailed else []).map
          fun aID => (aID, aProtocolID)) := by
  rw [← Outcome.toOption_eq_some, calledBack_eq rule _ _ _ _ horder,
    callbacks_exact hexact
      (countFailures_concat_pos rule hinterval aProtocolID aErrorCode now)
      hconnected]
  rfl

/--
A failure calls every subscriber exactly once with its protocol if too many of
the recent connections failed, and nobody otherwise; the events of the other
protocols do not matter.
-/
theorem failover_exact (rule : FailoverRule) (hexact : ComparesExactly rule)
    (hinterval : 0 ≤ rule.failuresMonitoringInterval)
    (calls : List MonitorCall) (aProtocolID : String) (aErrorCode now : Int)
    (horder : InOrder
      (loggedBy calls ++ [.logFailure aProtocolID aErrorCode now]))
    (hconnected :
      0 < countConnections rule aProtocolID now (loggedBy calls)) :
    (∃ called,
      calledBack rule (fun _ => now) (after calls) aProtocolID aErrorCode now =
        .ok called ∧
      ∀ aID id, called.count (aID, id) =
        if aID ∈ (after calls).cbOnProtocolFailed ∧ id = aProtocolID ∧
            FailsOver rule
              (countFailures rule aProtocolID now
                (loggedBy calls ++ [.logFailure aProtocolID aErrorCode now]))
              (countConnections rule aProtocolID now (loggedBy calls))
        then 1 else 0) ∧
    ∀ calls', InOrder
        (loggedBy calls' ++ [.logFailure aProtocolID aErrorCode now]) →
      (loggedBy calls').filter (·.aProtocolID = aProtocolID) =
        (loggedBy calls).filter (·.aProtocolID = aProtocolID) →
      (after calls').cbOnProtocolFailed = (after calls).cbOnProtocolFailed →
      calledBack rule (fun _ => now) (after calls') aProtocolID aErrorCode
          now =
        calledBack rule (fun _ => now) (after calls) aProtocolID aErrorCode
          now := by
  have hdecided := calledBack_of_connected rule hexact hinterval calls
    aProtocolID aErrorCode now horder hconnected
  refine ⟨⟨_, hdecided, fun aID id => ?_⟩, ?_⟩
  · have hnodup : (after calls).cbOnProtocolFailed.Nodup :=
      (after_keyed calls).imp Nat.ne_of_lt
    by_cases hmany : FailsOver rule
        (countFailures rule aProtocolID now
          (loggedBy calls ++ [.logFailure aProtocolID aErrorCode now]))
        (countConnections rule aProtocolID now (loggedBy calls))
    · rw [if_pos hmany]
      have hpairs : ((after calls).cbOnProtocolFailed.map
          fun aID => (aID, aProtocolID)).Nodup :=
        hnodup.map fun _ _ h => (Prod.mk.inj h).1
      rw [hpairs.count]
      simp [hmany, eq_comm]
    · rw [if_neg hmany]
      simp [hmany]
  · intro calls' horder' hsame hsubscribers
    have hconnections :
        countConnections rule aProtocolID now (loggedBy calls') =
          countConnections rule aProtocolID now (loggedBy calls) := by
      rw [← countConnections_filter, hsame, countConnections_filter]
    have hfailures : ∀ last, countFailures rule aProtocolID now
          (loggedBy calls' ++ [last]) =
        countFailures rule aProtocolID now (loggedBy calls ++ [last]) := by
      intro last
      rw [← countFailures_filter, List.filter_append, hsame,
        ← List.filter_append, countFailures_filter]
    rw [hdecided, calledBack_of_connected rule hexact hinterval calls'
      aProtocolID aErrorCode now horder' (hconnections ▸ hconnected),
      hconnections, hfailures, hsubscribers]

def failedConnection : List MonitorCall :=
  [.subscribeOnProtocolFailed 7, .logged (.logConnection "quic" 0)]

/-- One subscriber is called, with the name of the protocol. -/
theorem failover_exact_failedConnection :
    ∃ called, calledBack sixtyPercent (fun _ => 1000000)
        (after failedConnection) "quic" (-1) 1000000 = .ok called ∧
      called.count (7, "quic") = 1 := by
  obtain ⟨⟨called, hcalled, hcount⟩, -⟩ :=
    failover_exact sixtyPercent (fun _ _ => rfl) (by decide) failedConnection
      "quic" (-1) 1000000 (by unfold InOrder; decide) (by decide)
  refine ⟨called, hcalled, (hcount 7 "quic").trans ?_⟩
  decide +kernel

end Decision

end ProtocolFailureMonitor

end RevSDK
