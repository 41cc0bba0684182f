import Mathlib.Logic.Function.Basic
import RevSDK.Foundation.Window
import RevSDK.Model.ConfigurationService

/-!
# The failure monitor

`ProtocolFailureMonitor` logs the connections and the failures of each
protocol and tells its subscribers when too many of the recent connections
have failed.  A failure is judged on copies of both vectors, from which loops
erase the old entries; the loops read the clock anew for each entry.  The
subscribers are known by their keys.  What the code leaves undefined is an
error of its own.
-/

namespace RevSDK

open RevSDK.Foundation

structure ErrorReport where
  Code : Int
  DateReported : Int
  deriving DecidableEq

/--
What the monitor reads from `Model`, and the quotient of two counts as the
floating-point unit computes it.
-/
structure FailoverRule where
  failPercent : Nat → Nat → ℚ
  failuresMonitoringInterval : Int
  failuresFailoverThreshold : ℚ

/-- `operator[]` of the maps makes an empty vector for a new name. -/
structure ProtocolFailureMonitor where
  mReportMap : String → List ErrorReport
  mLoggedConnections : String → List Int
  cbOnProtocolFailed : List Nat

/-- `duration_cast` to seconds cuts the fraction off. -/
def secondsBetween (earlier later : Int) : Int :=
  (later - earlier).tdiv ModelState.ticksPerSecond

namespace ProtocolFailureMonitor

def initialized : ProtocolFailureMonitor where
  mReportMap _ := []
  mLoggedConnections _ := []
  cbOnProtocolFailed := []

def subscribeOnProtocolFailed (monitor : ProtocolFailureMonitor) (aID : Nat) :
    ProtocolFailureMonitor :=
  { monitor with
    cbOnProtocolFailed :=
      (monitor.cbOnProtocolFailed.filter (· < aID)) ++
        aID :: monitor.cbOnProtocolFailed.filter (aID < ·) }

def unsubscribe (monitor : ProtocolFailureMonitor) (aID : Nat) :
    ProtocolFailureMonitor :=
  { monitor with
    cbOnProtocolFailed := monitor.cbOnProtocolFailed.filter (· != aID) }

def logConnection (monitor : ProtocolFailureMonitor) (aProtocolID : String)
    (now : Int) : ProtocolFailureMonitor :=
  { monitor with
    mLoggedConnections := Function.update monitor.mLoggedConnections aProtocolID
      (monitor.mLoggedConnections aProtocolID ++ [now]) }

def clear (monitor : ProtocolFailureMonitor) : ProtocolFailureMonitor :=
  { monitor with
    mReportMap := Function.update
      (Function.update monitor.mReportMap standardProtocolName [])
      quicProtocolName [] }

section Subscribers

variable {monitor : ProtocolFailureMonitor}

/-- The keys of a map: every subscriber is called back once. -/
def Keyed (monitor : ProtocolFailureMonitor) : Prop :=
  monitor.cbOnProtocolFailed.Pairwise (· < ·)

theorem initialized_keyed : initialized.Keyed := List.Pairwise.nil

theorem Keyed.subscribeOnProtocolFailed (hkeyed : monitor.Keyed) (aID : Nat) :
    (monitor.subscribeOnProtocolFailed aID).Keyed := by
  refine List.pairwise_append.mpr ⟨hkeyed.filter _,
    List.pairwise_cons.mpr ⟨fun key hkey => ?_, hkeyed.filter _⟩,
    fun key hkey later hlater => ?_⟩
  · exact of_decide_eq_true (List.mem_filter.mp hkey).2
  · have hbefore : key < aID := of_decide_eq_true (List.mem_filter.mp hkey).2
    rcases List.mem_cons.mp hlater with rfl | hafter
    · exact hbefore
    · exact hbefore.trans (of_decide_eq_true (List.mem_filter.mp hafter).2)

theorem Keyed.unsubscribe (hkeyed : monitor.Keyed) (aID : Nat) :
    (monitor.unsubscribe aID).Keyed :=
  hkeyed.filter _

theorem mem_subscribeOnProtocolFailed (monitor : ProtocolFailureMonitor)
    (aID key : Nat) :
    key ∈ (monitor.subscribeOnProtocolFailed aID).cbOnProtocolFailed ↔
      key = aID ∨ key ∈ monitor.cbOnProtocolFailed := by
  simp only [subscribeOnProtocolFailed, List.mem_append, List.mem_cons,
    List.mem_filter, decide_eq_true_eq]
  have hcompare := Nat.lt_trichotomy key aID
  tauto

theorem mem_unsubscribe (monitor : ProtocolFailureMonitor) (aID key : Nat) :
    key ∈ (monitor.unsubscribe aID).cbOnProtocolFailed ↔
      key ≠ aID ∧ key ∈ monitor.cbOnProtocolFailed := by
  simp only [unsubscribe, List.mem_filter, bne_iff_ne]
  exact and_comm

end Subscribers

section Loops

variable {α : Type}

/-- The loop after `timePassed` was computed with the last of `reads`. -/
def eraseOld (interval : Int) (clock : Nat → Int) (date : α → Int) :
    Nat → Int → List α → Outcome (Nat × List α)
  | reads, timePassed, [] =>
      if timePassed > interval then .error (.undefinedBehaviour "erase(end())")
      else .ok (reads, [])
  | reads, timePassed, entry :: rest =>
      if timePassed > interval then
        -- At the end of the vector the last age is kept.
        match rest.head? with
        | some next => eraseOld interval clock date (reads + 1)
            (secondsBetween (date next) (clock reads)) rest
        | none => eraseOld interval clock date reads timePassed rest
      else .ok (reads, entry :: rest)

/-- The number of clock readings made, and what is left of the vector. -/
def clearOld (interval : Int) (clock : Nat → Int) (date : α → Int)
    (reads : Nat) (entries : List α) : Outcome (Nat × List α) :=
  match entries.head? with
  | none => .error (.undefinedBehaviour "dereference of end()")
  | some first => eraseOld interval clock date (reads + 1)
      (secondsBetween (date first) (clock reads)) entries

end Loops

section Failures

variable (rule : FailoverRule) (clock : Nat → Int)

def clearOldRequests (monitor : ProtocolFailureMonitor)
    (aProtocolID : String) : Outcome (Nat × List Int) :=
  clearOld rule.failuresMonitoringInterval clock id 0
    (monitor.mLoggedConnections aProtocolID)

def clearOldFails (monitor : ProtocolFailureMonitor) (aProtocolID : String)
    (reads : Nat) : Outcome (Nat × List ErrorReport) :=
  clearOld rule.failuresMonitoringInterval clock ErrorReport.DateReported reads
    (monitor.mReportMap aProtocolID)

def judge (monitor : ProtocolFailureMonitor) (aProtocolID : String) :
    Outcome (List Nat) := do
  let (reads, rqVec) ← monitor.clearOldRequests rule clock aProtocolID
  let (_, vec) ← monitor.clearOldFails rule clock aProtocolID reads
  if vec.length > rqVec.length then return []
  else if rule.failPercent vec.length rqVec.length >
      rule.failuresFailoverThreshold then return monitor.cbOnProtocolFailed
  else return []

def report (monitor : ProtocolFailureMonitor) (aProtocolID : String)
    (aErrorReport : ErrorReport) : ProtocolFailureMonitor :=
  { monitor with
    mReportMap := Function.update monitor.mReportMap aProtocolID
      (monitor.mReportMap aProtocolID ++ [aErrorReport]) }

def validate (monitor : ProtocolFailureMonitor) (aProtocolID : String)
    (aErrorReport : ErrorReport) :
    ProtocolFailureMonitor × Outcome (List Nat) :=
  let monitor := monitor.report aProtocolID aErrorReport
  (monitor, monitor.judge rule clock aProtocolID)

def logFailure (monitor : ProtocolFailureMonitor) (aProtocolID : String)
    (aErrorCode now : Int) : ProtocolFailureMonitor × Outcome (List Nat) :=
  monitor.validate rule clock aProtocolID ⟨aErrorCode, now⟩

end Failures

/-! ## What the loops leave -/

section Pruning

variable {α : Type} {interval : Int} {clock : Nat → Int} {date : α → Int}
  {reads : Nat} {entries : List α}

def tooOld (interval : Int) (clock : Nat → Int) (date : α → Int) (read : Nat)
    (entry : α) : Bool :=
  interval < secondsBetween (date entry) (clock read)

theorem secondsBetween_mono {earlier earlier' later later' : Int}
    (hearlier : earlier' ≤ earlier) (hlater : later ≤ later') :
    secondsBetween earlier later ≤ secondsBetween earlier' later' :=
  Int.tdiv_le_tdiv (by decide) (by omega)

/-- From each entry on, the loop drops what is old and then stops. -/
theorem eraseOld_cons (entry : α) (rest : List α) :
    eraseOld interval clock date (reads + 1)
        (secondsBetween (date entry) (clock reads)) (entry :: rest) =
      match dropOld (tooOld interval clock date) reads (entry :: rest) with
      | none => .error (.undefinedBehaviour "erase(end())")
      | some (last, kept) => .ok (last + 1, kept) := by
  induction rest generalizing entry reads with
  | nil =>
      by_cases hold : secondsBetween (date entry) (clock reads) > interval <;>
        simp [eraseOld, dropOld, tooOld, hold]
  | cons next rest ih =>
      rw [eraseOld, dropOld]
      by_cases hold : secondsBetween (date entry) (clock reads) > interval
      · rw [if_pos hold, if_pos (by simpa [tooOld] using hold)]
        exact ih next
      · rw [if_neg hold, if_neg (by simpa [tooOld] using hold)]

theorem clearOld_toOption :
    (clearOld interval clock date reads entries).toOption =
      (dropOld (tooOld interval clock date) reads entries).map
        fun found => (found.1 + 1, found.2) := by
  unfold clearOld
  cases entries with
  | nil => rfl
  | cons entry rest =>
      rw [List.head?_cons]
      dsimp only
      rw [eraseOld_cons]
      cases dropOld (tooOld interval clock date) reads (entry :: rest) <;> rfl

theorem clearOld_eq_ok_iff {kept : List α} {reads' : Nat} :
    clearOld interval clock date reads entries = .ok (reads', kept) ↔
      ∃ last, dropOld (tooOld interval clock date) reads entries =
        some (last, kept) ∧ reads' = last + 1 := by
  rw [← Outcome.toOption_eq_some, clearOld_toOption, Option.map_eq_some_iff]
  constructor
  · rintro ⟨⟨last, left⟩, hdrop, hfound⟩
    obtain ⟨rfl, rfl⟩ := Prod.mk.inj hfound
    exact ⟨last, hdrop, rfl⟩
  · rintro ⟨last, hdrop, rfl⟩
    exact ⟨(last, kept), hdrop, rfl⟩

end Pruning

end ProtocolFailureMonitor

end RevSDK
