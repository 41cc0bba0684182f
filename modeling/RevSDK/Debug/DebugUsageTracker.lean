import RevSDK.Foundation.Runs
import RevSDK.Protocol.Protocol
import Mathlib.Data.List.Induction

/-!
# The availability that the usage tracker shows

`availableProtocols` is called with the results of each run of the tester.
It takes the answer of `compare`, which is zero for equal texts, for a test of
equality, and its name of the standard protocol is none that a result has.
-/

namespace RevSDK

open RevSDK.Foundation

def STANDARTPROTOCOL : String := "standart"

def QUICPROTOCOL : String := "quic"

/-- `std::string::compare`; only the sign of the answer is specified. -/
def compareTexts (text other : String) : Int :=
  if text < other then -1 else if text = other then 0 else 1

structure DebugUsageTracker where
  mStandartProtocolAvailable : Bool
  mQUICProtocolAvailable : Bool
  deriving DecidableEq

namespace DebugUsageTracker

def construct : DebugUsageTracker where
  mStandartProtocolAvailable := false
  mQUICProtocolAvailable := false

def trackResult (tracker : DebugUsageTracker) (it : AvailabilityTestResult) :
    DebugUsageTracker :=
  let tracker := if compareTexts it.ProtocolID STANDARTPROTOCOL ≠ 0 then
    { tracker with mStandartProtocolAvailable := it.Available } else tracker
  if compareTexts it.ProtocolID QUICPROTOCOL ≠ 0 then
    { tracker with mQUICProtocolAvailable := it.Available } else tracker

def availableProtocols (tracker : DebugUsageTracker)
    (aProtocols : List AvailabilityTestResult) : DebugUsageTracker :=
  aProtocols.foldl trackResult tracker

def isAvailable (tracker : DebugUsageTracker) : Protocol → Bool
  | .StandardProtocol => tracker.mStandartProtocolAvailable
  | .QUICProtocol => tracker.mQUICProtocolAvailable

end DebugUsageTracker

/-! ## What has been tested -/

def NameProtocols (results : List AvailabilityTestResult) : Prop :=
  ∀ result ∈ results, ∃ protocol : Protocol,
    result.ProtocolID = protocol.protocolName

instance (results : List AvailabilityTestResult) :
    Decidable (NameProtocols results) :=
  decidable_of_iff (∀ result ∈ results,
      result.ProtocolID = Protocol.StandardProtocol.protocolName ∨
        result.ProtocolID = Protocol.QUICProtocol.protocolName) <| by
    refine forall₂_congr fun result _ => ?_
    constructor
    · rintro (h | h)
      · exact ⟨_, h⟩
      · exact ⟨_, h⟩
    · rintro ⟨protocol | protocol, h⟩
      · exact .inl h
      · exact .inr h

/-- The last result of a protocol; one that was never tested is offline. -/
def lastAvailability (results : List AvailabilityTestResult)
    (protocol : Protocol) : Bool :=
  ((results.filter (·.ProtocolID == protocol.protocolName)).getLast?.map
    AvailabilityTestResult.Available).getD false

structure TrackedResults where
  tracker : DebugUsageTracker
  results : List AvailabilityTestResult
  before : DebugUsageTracker
  latest : List AvailabilityTestResult

def trackerSystem :
    EventSystem TrackedResults (List AvailabilityTestResult) where
  initial tracked := tracked = ⟨.construct, [], .construct, []⟩
  step tracked aProtocols := some
    { tracker := tracked.tracker.availableProtocols aProtocols
      results := tracked.results ++ aProtocols
      before := tracked.tracker
      latest := aProtocols }

def TesterResults (_ : TrackedResults)
    (aProtocols : List AvailabilityTestResult) : Prop :=
  NameProtocols aProtocols

instance (tracked : TrackedResults) (aProtocols : List AvailabilityTestResult) :
    Decidable (TesterResults tracked aProtocols) :=
  inferInstanceAs (Decidable (NameProtocols aProtocols))

namespace TrackedResults

/-- The flags are the last results, and a call leaves the other flags alone. -/
structure ShowsTested (tracked : TrackedResults) : Prop where
  flags : ∀ protocol, tracked.tracker.isAvailable protocol =
    lastAvailability tracked.results protocol
  others : ∀ protocol,
    (∀ result ∈ tracked.latest, result.ProtocolID ≠ protocol.protocolName) →
      tracked.tracker.isAvailable protocol =
        tracked.before.isAvailable protocol

/-- After the call both protocols have the same last result. -/
def SameAvailability (tracked : TrackedResults)
    (aProtocols : List AvailabilityTestResult) : Prop :=
  lastAvailability (tracked.results ++ aProtocols) .StandardProtocol =
    lastAvailability (tracked.results ++ aProtocols) .QUICProtocol

instance (tracked : TrackedResults)
    (aProtocols : List AvailabilityTestResult) :
    Decidable (tracked.SameAvailability aProtocols) :=
  inferInstanceAs (Decidable (_ = _))

end TrackedResults

section Proofs

/-! ## One result -/

theorem compareTexts_ne_zero {text other : String} (h : text ≠ other) :
    compareTexts text other ≠ 0 := by
  unfold compareTexts
  rw [if_neg h]
  split <;> decide

theorem compareTexts_self (text : String) : compareTexts text text = 0 := by
  simp [compareTexts]

theorem trackResult_standard (tracker : DebugUsageTracker)
    {result : AvailabilityTestResult}
    (h : result.ProtocolID = Protocol.StandardProtocol.protocolName) :
    tracker.trackResult result = ⟨result.Available, result.Available⟩ := by
  have hstandard : compareTexts result.ProtocolID STANDARTPROTOCOL ≠ 0 :=
    compareTexts_ne_zero (by rw [h]; decide)
  have hquic : compareTexts result.ProtocolID QUICPROTOCOL ≠ 0 :=
    compareTexts_ne_zero (by rw [h]; decide)
  unfold DebugUsageTracker.trackResult
  rw [if_pos hstandard, if_pos hquic]

theorem trackResult_quic (tracker : DebugUsageTracker)
    {result : AvailabilityTestResult}
    (h : result.ProtocolID = Protocol.QUICProtocol.protocolName) :
    tracker.trackResult result =
      ⟨result.Available, tracker.mQUICProtocolAvailable⟩ := by
  have hstandard : compareTexts result.ProtocolID STANDARTPROTOCOL ≠ 0 :=
    compareTexts_ne_zero (by rw [h]; decide)
  have hquic : ¬compareTexts result.ProtocolID QUICPROTOCOL ≠ 0 := by
    rw [h, not_not]
    exact compareTexts_self QUICPROTOCOL
  unfold DebugUsageTracker.trackResult
  rw [if_pos hstandard, if_neg hquic]

/-! ## Lists of results -/

theorem lastAvailability_snoc_self (results : List AvailabilityTestResult)
    {result : AvailabilityTestResult} {protocol : Protocol}
    (h : result.ProtocolID = protocol.protocolName) :
    lastAvailability (results ++ [result]) protocol = result.Available := by
  simp [lastAvailability, h]

theorem lastAvailability_append_others (results : List AvailabilityTestResult)
    {others : List AvailabilityTestResult} {protocol : Protocol}
    (h : ∀ result ∈ others, result.ProtocolID ≠ protocol.protocolName) :
    lastAvailability (results ++ others) protocol =
      lastAvailability results protocol := by
  have hnone : others.filter (·.ProtocolID == protocol.protocolName) = [] := by
    simpa using h
  simp [lastAvailability, hnone]

theorem NameProtocols.append_iff
    {results others : List AvailabilityTestResult} :
    NameProtocols (results ++ others) ↔
      NameProtocols results ∧ NameProtocols others := by
  simp [NameProtocols, or_imp, forall_and]

theorem availableProtocols_append (tracker : DebugUsageTracker)
    (results others : List AvailabilityTestResult) :
    tracker.availableProtocols (results ++ others) =
      (tracker.availableProtocols results).availableProtocols others :=
  List.foldl_append

theorem availableProtocols_construct {results : List AvailabilityTestResult}
    (hnames : NameProtocols results) :
    DebugUsageTracker.construct.availableProtocols results =
      ⟨(results.getLast?.map AvailabilityTestResult.Available).getD false,
        lastAvailability results .StandardProtocol⟩ := by
  induction results using List.reverseRecOn with
  | nil => rfl
  | append_singleton results result ih =>
      obtain ⟨hresults, hresult⟩ := NameProtocols.append_iff.mp hnames
      obtain ⟨protocol, hname⟩ := hresult result (by simp)
      rw [availableProtocols_append, ih hresults, List.getLast?_concat]
      cases protocol with
      | StandardProtocol =>
          rw [lastAvailability_snoc_self results hname]
          exact trackResult_standard _ hname
      | QUICProtocol =>
          rw [lastAvailability_append_others results]
          · exact trackResult_quic _ hname
          · intro other hother
            obtain rfl := List.mem_singleton.mp hother
            rw [hname]
            decide

theorem getLast?_available {results : List AvailabilityTestResult}
    (hnames : NameProtocols results)
    (hsame : lastAvailability results .StandardProtocol =
      lastAvailability results .QUICProtocol) (protocol : Protocol) :
    (results.getLast?.map AvailabilityTestResult.Available).getD false =
      lastAvailability results protocol := by
  have hany : lastAvailability results protocol =
      lastAvailability results .StandardProtocol := by
    cases protocol with
    | StandardProtocol => rfl
    | QUICProtocol => exact hsame.symm
  cases results using List.reverseRecOn with
  | nil => rfl
  | append_singleton results result =>
      obtain ⟨-, hresult⟩ := NameProtocols.append_iff.mp hnames
      obtain ⟨tested, hname⟩ := hresult result (by simp)
      have hlast := lastAvailability_snoc_self results hname
      rw [hany, List.getLast?_concat]
      cases tested with
      | StandardProtocol => exact hlast.symm
      | QUICProtocol => exact (hsame.trans hlast).symm

/-! ## A sequence of calls -/

namespace TrackedResults

structure InStep (tracked : TrackedResults) : Prop where
  names : NameProtocols tracked.results
  tracker : tracked.tracker =
    DebugUsageTracker.construct.availableProtocols tracked.results
  shows : tracked.ShowsTested

theorem InStep.initial {tracked : TrackedResults}
    (h : trackerSystem.initial tracked) : tracked.InStep := by
  obtain rfl : tracked = ⟨.construct, [], .construct, []⟩ := h
  exact ⟨by simp [NameProtocols], rfl,
    ⟨fun protocol => by cases protocol <;> rfl, fun protocol _ => rfl⟩⟩

variable {tracked next : TrackedResults}
  {aProtocols : List AvailabilityTestResult}

theorem InStep.tracks (h : tracked.InStep)
    (hnames : TesterResults tracked aProtocols)
    (hstep : trackerSystem.step tracked aProtocols = some next) :
    NameProtocols next.results ∧
      next.results = tracked.results ++ aProtocols ∧
        next.latest = aProtocols ∧ next.before = tracked.tracker ∧
          next.tracker =
            DebugUsageTracker.construct.availableProtocols next.results := by
  obtain rfl := Option.some.inj hstep
  refine ⟨NameProtocols.append_iff.mpr ⟨h.names, hnames⟩, rfl, rfl, rfl, ?_⟩
  rw [availableProtocols_append, ← h.tracker]

theorem InStep.step (h : tracked.InStep)
    (hnames : TesterResults tracked aProtocols)
    (hsame : tracked.SameAvailability aProtocols)
    (hstep : trackerSystem.step tracked aProtocols = some next) :
    next.InStep := by
  obtain ⟨hall, hresults, hlatest, hbefore, htracker⟩ := h.tracks hnames hstep
  have hflags (protocol : Protocol) : next.tracker.isAvailable protocol =
      lastAvailability next.results protocol := by
    unfold SameAvailability at hsame
    rw [← hresults] at hsame
    rw [htracker, availableProtocols_construct hall]
    cases protocol with
    | StandardProtocol => exact getLast?_available hall hsame .StandardProtocol
    | QUICProtocol => exact hsame
  refine ⟨hall, htracker, hflags, ?_⟩
  intro protocol hothers
  rw [hlatest] at hothers
  rw [hflags, hresults, lastAvailability_append_others _ hothers, hbefore,
    h.shows.flags]

theorem InStep.not_showsTested (h : tracked.InStep)
    (hnames : TesterResults tracked aProtocols)
    (hsame : ¬tracked.SameAvailability aProtocols)
    (hstep : trackerSystem.step tracked aProtocols = some next) :
    ¬next.ShowsTested := by
  obtain ⟨hall, hresults, -, -, htracker⟩ := h.tracks hnames hstep
  intro hshows
  apply hsame
  have hquic := hshows.flags .QUICProtocol
  rw [htracker, availableProtocols_construct hall, hresults] at hquic
  exact hquic

end TrackedResults

/--
The tracker shows the tested availability in every state of a run exactly if
after every call both protocols have the same last result.
-/
theorem showsTested_iff_sameAvailability {tracked : TrackedResults}
    {trail : List (TrackedResults × List AvailabilityTestResult)}
    (path : trackerSystem.Path TesterResults trail tracked) :
    EventSystem.Throughout TrackedResults.ShowsTested trail tracked ↔
      EventSystem.Obeys TrackedResults.SameAvailability trail :=
  path.throughout_iff_obeys TrackedResults.InStep
    (fun _ h => TrackedResults.InStep.initial h)
    (fun _ _ _ h hnames hsame hstep => h.step hnames hsame hstep)
    (fun _ _ _ h hnames hsame hstep => h.not_showsTested hnames hsame hstep)
    (fun _ h => h.shows)

def standardOnly : List AvailabilityTestResult :=
  [⟨standardProtocolName, true⟩, ⟨quicProtocolName, false⟩]

def standardOnlyTracked : TrackedResults where
  tracker := DebugUsageTracker.construct.availableProtocols standardOnly
  results := standardOnly
  before := .construct
  latest := standardOnly

theorem standardOnly_path :
    trackerSystem.Path TesterResults
      [(⟨.construct, [], .construct, []⟩, standardOnly)]
      standardOnlyTracked :=
  .next (.start rfl) (by decide) rfl

theorem showsTested_iff_sameAvailability_standardOnly :
    ¬EventSystem.Throughout TrackedResults.ShowsTested
      [(⟨.construct, [], .construct, []⟩, standardOnly)]
      standardOnlyTracked := by
  rw [showsTested_iff_sameAvailability standardOnly_path]
  intro hobeys
  exact absurd (hobeys _ (List.mem_singleton_self _)) (by decide)

/-- The flags are the wrong way round. -/
theorem standardOnly_swapped :
    trackerSystem.Path TesterResults
        [(⟨.construct, [], .construct, []⟩, standardOnly)]
        standardOnlyTracked ∧
      standardOnlyTracked.tracker = ⟨false, true⟩ ∧
        ¬standardOnlyTracked.ShowsTested := by
  refine ⟨standardOnly_path, by decide, ?_⟩
  intro hshows
  exact absurd (hshows.flags .QUICProtocol) (by decide)

end Proofs

end RevSDK
